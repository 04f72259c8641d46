import BtstackPort.Lib.Loop
import BtstackPort.Lib.Numeral
/-!
# The command line (`main.c:274-352`)

What `getopt_long` returns, one option after the other, is a list of `CommandLineOption`. `main` is followed up to the
call of `hci_dump_posix_fs_open`: `Started` is what it hands to the USB transport and to the packet log.

A port is written to the array `usb_path[USB_MAX_PATH_LEN]` without a check; the write behind its end is a fault.

| here | there |
| --- | --- |
| `UsbPath` | `usb_path`, as far as it is written, and `usb_path_len` |
| `PathLoop` | `usb_path_string`, `usb_path`, and whether the loop goes on |
| `StringUtil` | `btstack_strcpy`, `btstack_strcat` (`btstack_util.h`) |
-/

namespace BtstackPort

open FaultMachine Numeral

/-! ## Options -/

inductive CommandLineOption where
  | usbpath (optarg : List Char)
  | logfile (optarg : List Char)
  | resetTlv
  | help
  /-- `'?'`: not an option, or an option without its argument. -/
  | invalid
deriving DecidableEq, Repr

structure Settings where
  usbPathString : Option (List Char)
  logFilePath : Option (List Char)
  tlvReset : Bool
deriving DecidableEq, Repr

def Settings.default : Settings := ⟨none, none, false⟩

/-- The option loop; `none` when it ends in `usage` and `EXIT_FAILURE`. -/
def parseOptions : List CommandLineOption → Settings → Option Settings
  | [], settings => some settings
  | .usbpath optarg :: options, settings => parseOptions options { settings with usbPathString := some optarg }
  | .logfile optarg :: options, settings => parseOptions options { settings with logFilePath := some optarg }
  | .resetTlv :: options, settings => parseOptions options { settings with tlvReset := true }
  | .help :: _, _ => none
  -- the options after it are not looked at
  | .invalid :: _, settings => some settings

/-! ## The USB path -/

def usbMaxPathLen : Nat := 7

structure UsbPath where
  ports : List UInt8
  fits : ports.length ≤ usbMaxPathLen
deriving DecidableEq, Repr

namespace UsbPath

def empty : UsbPath := ⟨[], Nat.zero_le _⟩

def len (usbPath : UsbPath) : Nat := usbPath.ports.length

def push (usbPath : UsbPath) (port : UInt8) (h : usbPath.len < usbMaxPathLen) : UsbPath :=
  ⟨usbPath.ports ++ [port], by
    rw [List.length_append]
    exact h⟩

end UsbPath

inductive MainFault where
  /-- `usb_path[usb_path_len]` behind the end of the array. -/
  | usbPathOverrun
deriving DecidableEq, Repr

structure PathLoop where
  usbPathString : List Char
  usbPath : UsbPath
  running : Bool
deriving DecidableEq, Repr

def isPathDelimiter (c : Char) : Bool := c = ':' || c = '-'

/-- `usb_path[…] = port`, where `int port = strtol(…)`. -/
def portOf (x : Int) : UInt8 := .ofInt (Int32.ofInt x).toInt

def parsePort (s : PathLoop) : Except MainFault PathLoop :=
  let (x, delimiter) := strtol 16 s.usbPathString
  if h : s.usbPath.len < usbMaxPathLen then
    let usbPath := s.usbPath.push (portOf x) h
    match delimiter with
    | c :: rest =>
      if isPathDelimiter c then .ok ⟨rest, usbPath, true⟩
      else .ok { s with usbPath := usbPath, running := false }
    -- the NUL behind the string
    | [] => .ok { s with usbPath := usbPath, running := false }
  else .error .usbPathOverrun

def PathLoop.start (usbPathString : List Char) : PathLoop := ⟨usbPathString, .empty, true⟩

/-- `-u 11:22:33` (`main.c:312-327`). -/
def parseUsbPath (usbPathString : List Char) : Except MainFault PathLoop :=
  whileLoop PathLoop.running parsePort (usbPathString.length + 1) (.start usbPathString)

/-! ## The packet log -/

structure StringUtil where
  strcpy : Nat → List Char → List Char
  strcat : Nat → List Char → List Char → List Char
  strcpy_eq : ∀ dstSize src, src.length < dstSize → strcpy dstSize src = src
  strcat_eq : ∀ dstSize dst src, dst.length + src.length < dstSize → strcat dstSize dst src = dst ++ src

/-- What does not fit is cut off. -/
def StringUtil.reference : StringUtil where
  strcpy dstSize src := src.take (dstSize - 1)
  strcat dstSize dst src := dst ++ src.take (dstSize - 1 - dst.length)
  strcpy_eq dstSize src h := List.take_of_length_le (by omega)
  strcat_eq dstSize dst src h := by rw [List.take_of_length_le (by omega)]

def sizeofPklgPath : Nat := 100

/-- The default path of the packet log, named after what the loop has left of `usb_path_string`. -/
def pklgPath (S : StringUtil) (s : PathLoop) : List Char :=
  let path := S.strcpy sizeofPklgPath "/tmp/hci_dump".toList
  let path :=
    if s.usbPath.len ≠ 0 then S.strcat sizeofPklgPath (S.strcat sizeofPklgPath path "_".toList) s.usbPathString
    else path
  S.strcat sizeofPklgPath path ".pklg".toList

/-! ## `main` -/

structure Started where
  /-- The ports and their number, as passed to `hci_transport_usb_set_path`. -/
  usbPath : Option (List UInt8)
  /-- The path passed to `hci_dump_posix_fs_open`. -/
  packetLog : List Char
  tlvReset : Bool
deriving DecidableEq, Repr

/-- `none` when the options ask for the usage. -/
def main (S : StringUtil) (options : List CommandLineOption) : Except MainFault (Option Started) :=
  match parseOptions options .default with
  | none => .ok none
  | some settings => do
    let s ←
      match settings.usbPathString with
      | some usbPathString => parseUsbPath usbPathString
      | none => .ok ⟨[], .empty, false⟩
    return some
      { usbPath := if s.usbPath.len ≠ 0 then some s.usbPath.ports else none
        packetLog := settings.logFilePath.getD (pklgPath S s)
        tlvReset := settings.tlvReset }

/-! ## The path of the device -/

/-- `for (i = 0; i < usb_path_len; i++)` in the handler of `HCI_EVENT_TRANSPORT_USB_INFO`; the separator is `-`
there. -/
def printUsbPath (separator : Char) (usbPath : List UInt8) : List Char :=
  usbPath.zipIdx.flatMap fun (port, i) => (if i ≠ 0 then [separator] else []) ++ hexadecimal 2 port.toNat

structure UsbInfo where
  vendorId : UInt16
  productId : UInt16
  usbPath : List UInt8
deriving DecidableEq, Repr

inductive UsbInfoCall where
  | printf (text : List Char)
  | btstackChipsetRealtekSetProductId (productId : UInt16)
  /-- With the instance for Realtek. -/
  | hciSetChipset
  | hciEnableCustomPreInit
deriving DecidableEq, Repr

/-- `main.c:139-160`. -/
def transportUsbInfo (e : UsbInfo) : List UsbInfoCall :=
  [.printf ("USB device 0x".toList ++ hexadecimal 4 e.vendorId.toNat ++ "/0x".toList ++
      hexadecimal 4 e.productId.toNat ++ ", path: ".toList),
    .printf (printUsbPath '-' e.usbPath), .printf "\n".toList] ++
  if e.vendorId = 0x0bda then
    [.printf "Realtek Controller - requires firmware and config download\n".toList,
      .btstackChipsetRealtekSetProductId e.productId, .hciSetChipset, .hciEnableCustomPreInit]
  else []

end BtstackPort
