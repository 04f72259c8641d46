import BtstackPort.Globals
import BtstackPort.Main.UsbPath
import BtstackPort.Platform
/-!
# The host (`main.c:98-232`, `hci.c`)

What the main thread does about the controller itself: it sets up the chipset, opens the database of link keys when the
stack comes up, answers PIN requests, and ends the program once the stack is off after SIGINT. A step yields the next
state or the `HostExit` of the program. `calls` is not a variable of the program: it lists the calls it made.

What a linked function returns, or stores through a pointer it was given, arrives with the event.

| here | there |
| --- | --- |
| `HostUtil` | `btstack_util.h` |
| `Host` | `tlv_reset`, `static_address`, `using_static_address`, `shutdown_triggered`; nothing else is read by a later event |
| `HostExit` | `exit` |
-/

namespace BtstackPort

open FaultMachine Numeral

/-! ## What it is linked against -/

/-- `char_for_nibble`: capital letters. -/
def charForNibble (nibble : Nat) : Char := if nibble < 10 then .ofNat (48 + nibble) else .ofNat (55 + nibble)

def byteText (b : UInt8) : List Char := [charForNibble (b.toNat / 16), charForNibble (b.toNat % 16)]

structure HostUtil where
  littleEndianRead16 : List UInt8 → Nat → Nat
  reverse48 : List UInt8 → BdAddr
  bdAddrToStr : BdAddr → List Char
  bdAddrToStrWithDelimiter : BdAddr → Char → List Char
  littleEndianRead16_eq : ∀ buffer pos,
    littleEndianRead16 buffer pos = byteAt buffer pos + 256 * byteAt buffer (pos + 1)
  reverse48_eq : ∀ src, reverse48 src = .ofFn fun i => src.getD (5 - i) 0
  bdAddrToStr_eq : ∀ addr, bdAddrToStr addr = [':'].intercalate (addr.toList.map byteText)
  bdAddrToStrWithDelimiter_eq : ∀ addr delimiter,
    bdAddrToStrWithDelimiter addr delimiter = [delimiter].intercalate (addr.toList.map byteText)

def HostUtil.reference : HostUtil where
  littleEndianRead16 buffer pos := byteAt buffer pos + 256 * byteAt buffer (pos + 1)
  reverse48 src := .ofFn fun i => src.getD (5 - i) 0
  bdAddrToStr addr := [':'].intercalate (addr.toList.map byteText)
  bdAddrToStrWithDelimiter addr delimiter := [delimiter].intercalate (addr.toList.map byteText)
  littleEndianRead16_eq _ _ := rfl
  reverse48_eq _ := rfl
  bdAddrToStr_eq _ := rfl
  bdAddrToStrWithDelimiter_eq _ _ := rfl

/-! ## Events, calls, state -/

/-- `BTSTACK_EVENT_STATE`. -/
inductive HciState where
  /-- With what `gap_local_bd_addr` stores and `unlink` returns. -/
  | working (localBdAddr : BdAddr) (rc : Int)
  | off
  | other
deriving DecidableEq, Repr

inductive HostEvent where
  | transportUsbInfo (e : UsbInfo)
  | state (state : HciState)
  /-- `HCI_EVENT_COMMAND_COMPLETE` for these two commands. -/
  | readLocalVersionInformation (packet : List UInt8)
  | zephyrReadStaticAddress (packet : List UInt8)
  | pinCodeRequest (addr : BdAddr)
  | sigint
  /-- Other packet types, other HCI events, other commands. -/
  | ignored
deriving DecidableEq, Repr

inductive HostCall where
  | usbInfo (c : UsbInfoCall)
  | printf (text : List Char)
  /-- With the instance for Zephyr. -/
  | hciSetChipset
  | smInit
  | gapRandomAddressSet (addr : BdAddr)
  | unlink (path : List Char)
  | btstackTlvPosixInitInstance (path : List Char)
  | btstackTlvSetInstance
  | hciSetLinkKeyDb
  | leDeviceDbTlvConfigure
  | btstackTlvPosixDeinit
  | btstackStdinReset
  | hciPowerControlOff
  | gapPinCodeResponse (addr : BdAddr) (pin : List Char)
deriving DecidableEq, Repr

structure Host where
  tlvReset : Bool
  usingStaticAddress : Bool
  staticAddress : BdAddr
  shutdownTriggered : Bool
  calls : List HostCall
deriving DecidableEq, Repr

/-- `exit(code)`, after these calls. -/
structure HostExit where
  code : Nat
  calls : List HostCall
deriving DecidableEq, Repr

namespace Host

/-- Static storage, with what `main` has made of `--reset-tlv`. -/
def initial (tlvReset : Bool) : Host := ⟨tlvReset, false, .replicate 6 0, false, []⟩

def call (s : Host) (cs : List HostCall) : Host := { s with calls := s.calls ++ cs }

end Host

/-! ## The handlers -/

variable (S : StringUtil) (U : HostUtil)

/-- `BLUETOOTH_COMPANY_ID_THE_LINUX_FOUNDATION`. -/
def theLinuxFoundation : Nat := 0x05f1

/-- `main.c:98-123`. -/
def localVersionInformationHandler (packet : List UInt8) : List HostCall :=
  let manufacturer := U.littleEndianRead16 packet 10
  [.printf "Local version information:\n".toList,
    .printf ("- HCI Version    0x".toList ++ hexadecimal 4 (byteAt packet 6) ++ "\n".toList),
    .printf ("- HCI Revision   0x".toList ++ hexadecimal 4 (U.littleEndianRead16 packet 7) ++ "\n".toList),
    .printf ("- LMP Version    0x".toList ++ hexadecimal 4 (byteAt packet 9) ++ "\n".toList),
    .printf ("- LMP Subversion 0x".toList ++ hexadecimal 4 (U.littleEndianRead16 packet 12) ++ "\n".toList),
    .printf ("- Manufacturer   0x".toList ++ hexadecimal 4 manufacturer ++ "\n".toList)] ++
  if manufacturer = theLinuxFoundation then
    [.printf "- Linux Foundation - assume Zephyr hci_usb firmware running on nRF52xx\n".toList,
      -- setup Zephyr chipset support
      .hciSetChipset,
      -- sm required to setup static random Bluetooth address
      .smInit]
  else []

def sizeofTlvDbPath : Nat := 100

/-- `main.c:168-171`. -/
def tlvDbPath (localAddr : BdAddr) : List Char :=
  let path := S.strcpy sizeofTlvDbPath "/tmp/btstack_".toList
  let path := S.strcat sizeofTlvDbPath path (U.bdAddrToStrWithDelimiter localAddr '-')
  S.strcat sizeofTlvDbPath path ".tlv".toList

/-- `HCI_STATE_WORKING` (`main.c:163-192`). -/
def stateWorking (localBdAddr : BdAddr) (rc : Int) (s : Host) : Host :=
  let localAddr := if s.usingStaticAddress then s.staticAddress else localBdAddr
  let path := tlvDbPath S U localAddr
  s.call <| [.printf ("TLV path: ".toList ++ path)] ++
    (if s.tlvReset then
      [.unlink path,
        .printf (if rc = 0 then ", reset ok".toList
          else ", reset failed with result = ".toList ++ (toString rc).toList)]
    else []) ++
    [.printf "\n".toList, .btstackTlvPosixInitInstance path, .btstackTlvSetInstance, .hciSetLinkKeyDb,
      .leDeviceDbTlvConfigure,
      .printf ("BTstack up and running on ".toList ++ U.bdAddrToStr localAddr ++ ".\n".toList)]

/-- `HCI_STATE_OFF` (`main.c:193-200`). -/
def stateOff (s : Host) : Except HostExit Host :=
  let s := s.call [.btstackTlvPosixDeinit]
  if !s.shutdownTriggered then .ok s
  else .error ⟨0, s.calls ++ [.btstackStdinReset]⟩

/-- `HCI_OPCODE_HCI_ZEPHYR_READ_STATIC_ADDRESS` (`main.c:210-217`). -/
def readStaticAddress (packet : List UInt8) (s : Host) : Host :=
  let params := packet.drop 5
  if byteAt params 0 ≠ 0 then s
  else if packet.length < 13 then s
  else
    let staticAddress := U.reverse48 (params.drop 2)
    { s.call [.gapRandomAddressSet staticAddress] with staticAddress := staticAddress, usingStaticAddress := true }

/-- `trigger_shutdown` (`main.c:227-232`). -/
def triggerShutdown (s : Host) : Host :=
  { s.call [.printf "CTRL-C - SIGINT received, shutting down..\n".toList, .hciPowerControlOff] with
    shutdownTriggered := true }

/-- `hci_packet_handler` (`hci.c:5-15`). -/
def hciPacketHandler (addr : BdAddr) (s : Host) : Host :=
  s.call [.printf "Pin code request - using '0000'\n".toList, .gapPinCodeResponse addr "0000".toList]

namespace Host

/-- `packet_handler` (`main.c:125-225`), `hci_packet_handler` and `trigger_shutdown`. -/
def step (s : Host) (e : HostEvent) : Except HostExit Host :=
  match e with
  | .transportUsbInfo e => .ok (s.call ((BtstackPort.transportUsbInfo e).map .usbInfo))
  | .state (.working localBdAddr rc) => .ok (stateWorking S U localBdAddr rc s)
  | .state .off => stateOff s
  | .state .other => .ok s
  | .readLocalVersionInformation packet => .ok (s.call (localVersionInformationHandler U packet))
  | .zephyrReadStaticAddress packet => .ok (readStaticAddress U packet s)
  | .pinCodeRequest addr => .ok (hciPacketHandler addr s)
  | .sigint => .ok (triggerShutdown s)
  | .ignored => .ok s

/-- Runs of the program that have not ended. -/
def RunsTo (tlvReset : Bool) (es : List HostEvent) (s : Host) : Prop :=
  Run (step S U) (fun _ _ => True) (initial tlvReset) es s

end Host

/-! ## The name of the database -/

theorem value_byteText (b : UInt8) : value 16 (byteText b) = b.toNat := by
  have hdigit : ∀ d < 16, digitValue (charForNibble d) = d := by decide
  have hlt := b.toNat_lt
  simp [value, byteText, Nat.ofDigits_cons, hdigit (b.toNat / 16) (by omega), hdigit (b.toNat % 16) (by omega)]
  omega

theorem isNumeral_byteText (b : UInt8) : IsNumeral 16 (byteText b) where
  nonempty := by simp [byteText]
  digits := by
    have hdigit : ∀ d < 16, isDigit 16 (charForNibble d) := by decide
    have hlt := b.toNat_lt
    intro c hc
    simp only [byteText, List.mem_cons, List.not_mem_nil, or_false] at hc
    rcases hc with rfl | rfl
    · exact hdigit _ (by omega)
    · exact hdigit _ (by omega)
  fits := by
    rw [value_byteText]
    exact Nat.lt_trans b.toNat_lt (by decide)

/-- An address that is printed with delimiters can be read back. -/
theorem components_address {delimiter : Char} (hdelimiter : isPathDelimiter delimiter) (addr : BdAddr) :
    components ([delimiter].intercalate (addr.toList.map byteText)) = addr.toList.map fun b => (b.toNat : Int) := by
  rw [components_intercalate hdelimiter, List.map_map]
  · refine List.map_congr_left fun b _ => ?_
    simp [value_byteText]
  · intro ds hds
    obtain ⟨b, -, rfl⟩ := List.mem_map.1 hds
    exact isNumeral_byteText b
  · have hlen := addr.length_toList
    intro hnil
    rw [List.map_eq_nil_iff.1 hnil] at hlen
    cases hlen

theorem length_address (delimiter : Char) (addr : BdAddr) :
    ([delimiter].intercalate (addr.toList.map byteText)).length = 17 := by
  have hlen := addr.length_toList
  match haddr : addr.toList with
  | [a, b, c, d, e, f] => rfl
  | [] | [_] | [_, _] | [_, _, _] | [_, _, _, _] | [_, _, _, _, _] | _ :: _ :: _ :: _ :: _ :: _ :: _ :: _ =>
    rw [haddr] at hlen
    simp at hlen

/-- The file of an address. -/
def keyDatabase (addr : BdAddr) : List Char :=
  "/tmp/btstack_".toList ++ (['-'].intercalate (addr.toList.map byteText) ++ ".tlv".toList)

/-- The path fits its array. -/
theorem tlvDbPath_eq (addr : BdAddr) : tlvDbPath S U addr = keyDatabase addr := by
  have hlen := length_address '-' addr
  have hfirst : "/tmp/btstack_".toList.length = 13 := rfl
  have hlast : ".tlv".toList.length = 4 := rfl
  have hprefix := S.strcpy_eq sizeofTlvDbPath "/tmp/btstack_".toList (by rw [hfirst]; decide)
  have haddr := S.strcat_eq sizeofTlvDbPath "/tmp/btstack_".toList (['-'].intercalate (addr.toList.map byteText))
    (by rw [hfirst, hlen]; decide)
  unfold tlvDbPath keyDatabase
  simp only [U.bdAddrToStrWithDelimiter_eq, hprefix, haddr]
  rw [S.strcat_eq _ _ _ (by rw [List.length_append, hfirst, hlen, hlast]; decide), List.append_assoc]

theorem keyDatabase_injective : Function.Injective keyDatabase := by
  intro a b hab
  have haddr := List.append_cancel_right (List.append_cancel_left hab)
  have hread := congrArg components haddr
  rw [components_address rfl, components_address rfl] at hread
  have hbytes : a.toList = b.toList := by
    refine (List.map_inj_right ?_).1 hread
    intro x y hxy
    exact UInt8.toNat_inj.1 (Int.ofNat_inj.1 hxy)
  exact Vector.toList_inj.1 hbytes

/-! ## What the host remembers -/

section Runs

variable {S U} {tlvReset : Bool} {es : List HostEvent} {s t : Host}

/-- The static address that a controller reports. -/
def HostEvent.staticAddress (U : HostUtil) : HostEvent → Option BdAddr
  | .zephyrReadStaticAddress packet =>
    if byteAt (packet.drop 5) 0 = 0 ∧ 13 ≤ packet.length then some (U.reverse48 ((packet.drop 5).drop 2)) else none
  | _ => none

/-- What the flags and the address say about the events so far. -/
structure Remembers (U : HostUtil) (tlvReset : Bool) (es : List HostEvent) (s : Host) : Prop where
  reset : s.tlvReset = tlvReset
  address : latest (HostEvent.staticAddress U) es = if s.usingStaticAddress then some s.staticAddress else none
  shutdown : s.shutdownTriggered = true ↔ .sigint ∈ es

/-- Most events change none of it. -/
theorem Remembers.snoc {e : HostEvent} (h : Remembers U tlvReset es s) (hreset : t.tlvReset = s.tlvReset)
    (hflag : t.usingStaticAddress = s.usingStaticAddress) (haddr : t.staticAddress = s.staticAddress)
    (hshutdown : t.shutdownTriggered = s.shutdownTriggered) (he : e.staticAddress U = none) (hsigint : e ≠ .sigint) :
    Remembers U tlvReset (es ++ [e]) t where
  reset := hreset.trans h.reset
  address := by
    rw [latest_append_ignored _ _ _ (by simpa using he), hflag, haddr]
    exact h.address
  shutdown := by
    rw [hshutdown, h.shutdown, List.mem_append, List.mem_singleton]
    exact ⟨Or.inl, fun hmem => hmem.resolve_right fun heq => hsigint heq.symm⟩

theorem Remembers.step {e : HostEvent} (h : Remembers U tlvReset es s) (he : Host.step S U s e = .ok t) :
    Remembers U tlvReset (es ++ [e]) t := by
  cases e with
  | state state =>
    cases state with
    | off =>
      simp only [Host.step, stateOff] at he
      split at he <;> cases he
      exact h.snoc rfl rfl rfl rfl rfl (by simp)
    | _ => cases he; exact h.snoc rfl rfl rfl rfl rfl (by simp)
  | zephyrReadStaticAddress packet =>
    cases he
    unfold readStaticAddress
    simp only
    split
    · rename_i hparams
      exact h.snoc rfl rfl rfl rfl (if_neg fun hall => hparams hall.1) (by simp)
    · rename_i hparams
      split
      · exact h.snoc rfl rfl rfl rfl (if_neg fun hall => by omega) (by simp)
      · rename_i hsize
        have hnew : HostEvent.staticAddress U (.zephyrReadStaticAddress packet) =
            some (U.reverse48 ((packet.drop 5).drop 2)) := if_pos ⟨by simpa using hparams, by omega⟩
        refine ⟨h.reset, ?_, ?_⟩
        · rw [latest_append, latest, List.reverse_singleton, List.findSome?_cons, hnew]
          rfl
        · simpa [Host.call] using h.shutdown
  | sigint =>
    cases he
    refine ⟨h.reset, ?_, by simp [triggerShutdown]⟩
    rw [latest_append_ignored _ _ _ (by simp [HostEvent.staticAddress])]
    exact h.address
  | _ => cases he; exact h.snoc rfl rfl rfl rfl rfl (by simp)

theorem run_remembers (h : Host.RunsTo S U tlvReset es s) : Remembers U tlvReset es s := by
  refine Run.history (I := Remembers U tlvReset) ?_ ?_ h
  · exact ⟨rfl, rfl, by simp [Host.initial]⟩
  · intro es t e u _ ht _ he
    exact ht.step he

/-! ## What it does about an event -/

/-- What happens to the file of link keys. -/
inductive KeyDatabaseOp where
  | unlink (path : List Char)
  | init (path : List Char)
  | deinit
deriving DecidableEq, Repr

def HostCall.keyDatabaseOp : HostCall → Option KeyDatabaseOp
  | .unlink path => some (.unlink path)
  | .btstackTlvPosixInitInstance path => some (.init path)
  | .btstackTlvPosixDeinit => some .deinit
  | _ => none

def keyDatabaseOps (cs : List HostCall) : List KeyDatabaseOp := cs.filterMap HostCall.keyDatabaseOp

def HostCall.pinCodeResponse : HostCall → Option (BdAddr × List Char)
  | .gapPinCodeResponse addr pin => some (addr, pin)
  | _ => none

/-- What is meant to happen to the file: that of the static address, if there is one, and else of the controller's
own. -/
def HostEvent.keyDatabaseOps (reset : Bool) (staticAddress : Option BdAddr) : HostEvent → List KeyDatabaseOp
  | .state (.working localBdAddr _) =>
    let path := keyDatabase (staticAddress.getD localBdAddr)
    if reset then [.unlink path, .init path] else [.init path]
  | .state .off => [.deinit]
  | _ => []

/-- Every request gets the same PIN. -/
def HostEvent.pinCodeResponse : HostEvent → Option (BdAddr × List Char)
  | .pinCodeRequest addr => some (addr, "0000".toList)
  | _ => none

/-- The calls that an event is meant to lead to, as far as they have an effect outside the program. -/
structure Reaction (reset : Bool) (staticAddress : Option BdAddr) (e : HostEvent) (cs : List HostCall) : Prop where
  keyDatabase : keyDatabaseOps cs = e.keyDatabaseOps reset staticAddress
  pinCode : cs.filterMap HostCall.pinCodeResponse = [e].filterMap HostEvent.pinCodeResponse
  powerControl : cs.count .hciPowerControlOff = [e].count .sigint

theorem reaction_usbInfo {reset : Bool} {staticAddress : Option BdAddr} (e : UsbInfo) :
    Reaction reset staticAddress (.transportUsbInfo e) ((transportUsbInfo e).map .usbInfo) where
  keyDatabase := by
    simp [keyDatabaseOps, List.filterMap_map, Function.comp_def, HostCall.keyDatabaseOp, HostEvent.keyDatabaseOps]
  pinCode := by
    have hnone : ((transportUsbInfo e).map HostCall.usbInfo).filterMap HostCall.pinCodeResponse = [] := by
      simp [List.filterMap_map, Function.comp_def, HostCall.pinCodeResponse]
    rw [hnone]
    rfl
  powerControl := by
    rw [List.count_eq_zero.2]
    · simp
    · simp

theorem reaction_localVersionInformation {reset : Bool} {staticAddress : Option BdAddr} (packet : List UInt8) :
    Reaction reset staticAddress (.readLocalVersionInformation packet) (localVersionInformationHandler U packet) := by
  unfold localVersionInformationHandler
  simp only
  split
  · exact ⟨rfl, rfl, rfl⟩
  · exact ⟨rfl, rfl, rfl⟩

theorem step_reaction {e : HostEvent} (h : Remembers U tlvReset es s) (he : Host.step S U s e = .ok t) :
    ∃ cs, t.calls = s.calls ++ cs ∧ Reaction tlvReset (latest (HostEvent.staticAddress U) es) e cs := by
  cases e with
  | transportUsbInfo e => cases he; exact ⟨_, rfl, reaction_usbInfo e⟩
  | state state =>
    cases state with
    | working localBdAddr rc =>
      cases he
      have haddr : (latest (HostEvent.staticAddress U) es).getD localBdAddr =
          if s.usingStaticAddress then s.staticAddress else localBdAddr := by
        rw [h.address]
        split <;> rfl
      refine ⟨_, rfl, ?_⟩
      rw [h.reset, tlvDbPath_eq, ← haddr]
      cases tlvReset
      · exact ⟨rfl, rfl, rfl⟩
      · exact ⟨rfl, rfl, rfl⟩
    | off =>
      simp only [Host.step, stateOff] at he
      split at he <;> cases he
      exact ⟨_, rfl, rfl, rfl, rfl⟩
    | other => cases he; exact ⟨[], by simp, rfl, rfl, rfl⟩
  | readLocalVersionInformation packet => cases he; exact ⟨_, rfl, reaction_localVersionInformation packet⟩
  | zephyrReadStaticAddress packet =>
    cases he
    unfold readStaticAddress
    simp only
    split
    · exact ⟨[], by simp, rfl, rfl, rfl⟩
    · split
      · exact ⟨[], by simp, rfl, rfl, rfl⟩
      · exact ⟨_, rfl, rfl, rfl, rfl⟩
  | ignored => cases he; exact ⟨[], by simp, rfl, rfl, rfl⟩
  | _ => cases he; exact ⟨_, rfl, rfl, rfl, rfl⟩

/-- PIN requests are answered one by one, and every SIGINT switches the power off. -/
theorem run_reactions (h : Host.RunsTo S U tlvReset es s) :
    s.calls.filterMap HostCall.pinCodeResponse = es.filterMap HostEvent.pinCodeResponse ∧
      s.calls.count .hciPowerControlOff = es.count .sigint := by
  refine Run.history (I := fun es s => s.calls.filterMap HostCall.pinCodeResponse =
    es.filterMap HostEvent.pinCodeResponse ∧ s.calls.count .hciPowerControlOff = es.count .sigint) ⟨rfl, rfl⟩ ?_ h
  rintro es t e u hrun ⟨hpin, hpower⟩ _ he
  obtain ⟨cs, hcalls, hreact⟩ := step_reaction (run_remembers hrun) he
  constructor
  · rw [hcalls, List.filterMap_append, List.filterMap_append, hpin, hreact.pinCode]
  · rw [hcalls, List.count_append, List.count_append, hpower, hreact.powerControl]

/-! ## The command line -/

/-- `--reset-tlv`, where it is looked at. -/
def asksForReset (options : List CommandLineOption) : Bool := .resetTlv ∈ options.takeWhile (· ≠ .invalid)

theorem tlvReset_parseOptions {options : List CommandLineOption} {start settings : Settings}
    (h : parseOptions options start = some settings) :
    settings.tlvReset = (start.tlvReset || asksForReset options) := by
  induction options generalizing start with
  | nil => cases h; simp [asksForReset]
  | cons o options ih =>
    cases o with
    | usbpath optarg | logfile optarg | resetTlv => simpa [asksForReset] using ih h
    | help => cases h
    | invalid => cases h; simp [asksForReset]

theorem tlvReset_main {options : List CommandLineOption} {started : Started}
    (h : main S options = .ok (some started)) : started.tlvReset = asksForReset options := by
  unfold main at h
  split at h
  · cases h
  · rename_i settings hparse
    have hreset := tlvReset_parseOptions hparse
    simp only [Settings.default, Bool.false_or] at hreset
    rw [← hreset]
    split at h
    · rename_i usbPathString _
      cases hpath : parseUsbPath usbPathString with
      | error e => rw [hpath] at h; cases h
      | ok p => rw [hpath] at h; cases h; rfl
    · cases h; rfl

/-! ## What holds of every run -/

/-- A controller with Zephyr reports the static address 11:22:33:44:55:66 before it comes up. -/
def zephyrReport : HostEvent := .zephyrReadStaticAddress [0x0e, 11, 1, 9, 0xfc, 0, 1, 0x66, 0x55, 0x44, 0x33, 0x22, 0x11]

theorem zephyrRun (tlvReset : Bool) : Host.RunsTo .reference .reference tlvReset [zephyrReport]
    ⟨tlvReset, true, #v[0x11, 0x22, 0x33, 0x44, 0x55, 0x66], false,
      [.gapRandomAddressSet #v[0x11, 0x22, 0x33, 0x44, 0x55, 0x66]]⟩ :=
  .cons trivial rfl (.nil _)

/-- **The database in use**: whenever the stack comes up, the file of link keys that is opened is that of the static
address which the controller last reported, if it reported one, and of its own address otherwise; `--reset-tlv` deletes
this file first, and no other file and at no other time. -/
theorem keyDatabase_in_use {options : List CommandLineOption} {started : Started}
    (hmain : main S options = .ok (some started)) (h : Host.RunsTo S U started.tlvReset es s) {e : HostEvent}
    (he : Host.step S U s e = .ok t) :
    keyDatabaseOps t.calls = keyDatabaseOps s.calls ++
      e.keyDatabaseOps (asksForReset options) (latest (HostEvent.staticAddress U) es) := by
  obtain ⟨cs, hcalls, hreact⟩ := step_reaction (run_remembers h) he
  rw [hcalls, keyDatabaseOps, List.filterMap_append, ← tlvReset_main hmain, ← hreact.keyDatabase]
  rfl

/-- The stack comes up after this report, with `--reset-tlv`. -/
theorem keyDatabase_in_use_zephyrRun :
    main .reference [.resetTlv] = .ok (some ⟨none, "/tmp/hci_dump.pklg".toList, true⟩) ∧
      ∃ s t : Host, Host.RunsTo .reference .reference true [zephyrReport] s ∧
        Host.step .reference .reference s (.state (.working (.replicate 6 7) 0)) = .ok t ∧
        keyDatabaseOps t.calls =
          [.unlink "/tmp/btstack_11-22-33-44-55-66.tlv".toList, .init "/tmp/btstack_11-22-33-44-55-66.tlv".toList] := by
  have hmain : main .reference [.resetTlv] = .ok (some ⟨none, "/tmp/hci_dump.pklg".toList, true⟩) := rfl
  exact ⟨hmain, _, _, zephyrRun true, rfl,
    keyDatabase_in_use hmain (zephyrRun true) (e := .state (.working (.replicate 6 7) 0)) rfl⟩

/-- **Databases apart**: two runs, of one controller or of two, have one file exactly if they use one address. -/
theorem keyDatabases_apart {S' : StringUtil} {U' : HostUtil} {tlvReset' : Bool} {es' : List HostEvent} {s' t' : Host}
    (h : Host.RunsTo S U tlvReset es s) (h' : Host.RunsTo S' U' tlvReset' es' s') {addr addr' : BdAddr} {rc rc' : Int}
    (he : Host.step S U s (.state (.working addr rc)) = .ok t)
    (he' : Host.step S' U' s' (.state (.working addr' rc')) = .ok t') :
    ∃ path path', (keyDatabaseOps t.calls).getLast? = some (.init path) ∧
      (keyDatabaseOps t'.calls).getLast? = some (.init path') ∧
      (path = path' ↔ (latest (HostEvent.staticAddress U) es).getD addr =
        (latest (HostEvent.staticAddress U') es').getD addr') := by
  obtain ⟨cs, hcalls, hreact⟩ := step_reaction (run_remembers h) he
  obtain ⟨cs', hcalls', hreact'⟩ := step_reaction (run_remembers h') he'
  have hlast : ∀ (reset : Bool) (staticAddress : Option BdAddr) (addr : BdAddr) (rc : Int) (cs ds : List HostCall),
      Reaction reset staticAddress (.state (.working addr rc)) cs →
      (keyDatabaseOps (ds ++ cs)).getLast? = some (.init (keyDatabase (staticAddress.getD addr))) := by
    intro reset staticAddress addr rc cs ds hr
    rw [keyDatabaseOps, List.filterMap_append, ← keyDatabaseOps, ← keyDatabaseOps, hr.keyDatabase]
    cases reset <;> simp [HostEvent.keyDatabaseOps, List.getLast?_append]
  refine ⟨_, _, hcalls ▸ hlast _ _ _ _ _ _ hreact, hcalls' ▸ hlast _ _ _ _ _ _ hreact', ?_⟩
  exact keyDatabase_injective.eq_iff

/-- With this report and without it. -/
theorem keyDatabases_apart_zephyrRun :
    ∃ s t t' : Host, Host.RunsTo .reference .reference false [zephyrReport] s ∧
      Host.step .reference .reference s (.state (.working (.replicate 6 7) 0)) = .ok t ∧
      Host.step .reference .reference (Host.initial false) (.state (.working (.replicate 6 7) 0)) = .ok t' ∧
      ∃ path path', (keyDatabaseOps t.calls).getLast? = some (.init path) ∧
        (keyDatabaseOps t'.calls).getLast? = some (.init path') ∧ path ≠ path' := by
  have hup : ∀ s : Host, ∃ t, Host.step .reference .reference s (.state (.working (.replicate 6 7) 0)) = .ok t :=
    fun s => ⟨_, rfl⟩
  obtain ⟨t, ht⟩ := hup _
  obtain ⟨t', ht'⟩ := hup _
  have hnone : Host.RunsTo .reference .reference false [] (Host.initial false) := .nil _
  obtain ⟨path, path', hpath, hpath', hiff⟩ := keyDatabases_apart (zephyrRun false) hnone ht ht'
  exact ⟨_, t, t', zephyrRun false, ht, ht', path, path', hpath, hpath', fun heq => absurd (hiff.1 heq) (by decide)⟩

/-- **Shutdown**: the program ends exactly when the stack reports that it is off after a SIGINT, with the database
closed and the terminal reset; it has asked for that once for each SIGINT. -/
theorem shutdown_ends (h : Host.RunsTo S U tlvReset es s) :
    (∀ e x, Host.step S U s e = .error x ↔
      e = .state .off ∧ .sigint ∈ es ∧ x = ⟨0, s.calls ++ [.btstackTlvPosixDeinit, .btstackStdinReset]⟩) ∧
    s.calls.count .hciPowerControlOff = es.count .sigint := by
  refine ⟨?_, (run_reactions h).2⟩
  intro e x
  rw [← (run_remembers h).shutdown]
  constructor
  · intro he
    cases e with
    | state state =>
      cases state with
      | off =>
        simp only [Host.step, stateOff] at he
        split at he
        · cases he
        · rename_i hshutdown
          cases he
          exact ⟨rfl, by simpa [Host.call] using hshutdown, by simp [Host.call]⟩
      | _ => cases he
    | _ => cases he
  · rintro ⟨rfl, hshutdown, rfl⟩
    simp [Host.step, stateOff, Host.call, hshutdown]

theorem shutdown_ends_zephyrRun : ∃ (s : Host) (x : HostExit),
    Host.RunsTo .reference .reference false [zephyrReport, .sigint] s ∧
      Host.step .reference .reference s (.state .off) = .error x ∧ x.code = 0 := by
  have hrun := run_append.2 ⟨_, zephyrRun false, .cons (e := .sigint) trivial rfl (.nil _)⟩
  exact ⟨_, _, hrun, ((shutdown_ends hrun).1 _ _).2 ⟨rfl, by decide, rfl⟩, rfl⟩

end Runs

end BtstackPort
