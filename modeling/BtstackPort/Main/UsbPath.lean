import BtstackPort.Main.CommandLine
/-!
# The USB path (`main.c:139-150`, `main.c:312-334`)

`components` is what `strtol` makes of the argument of `-u`, one number after the other. The loop keeps one byte of
each (`toNat_portOf`), if there are at most seven (`parseUsbPath_returns`); the eighth overruns the array
(`parseUsbPath_overruns`). So the argument is handed over as it was read exactly if it has at most seven components and
each fits into a byte (`usbPath_handedOver_iff`), as with the printed path of a device (`usbPath_roundTrip`).
-/

namespace BtstackPort

open FaultMachine Numeral

/-! ## The loop -/

def components (usbPathString : List Char) : List Int := numbers isPathDelimiter 16 usbPathString

theorem toNat_portOf (x : Int) : ((portOf x).toNat : Int) = x % 256 := by
  have hport : (Int32.ofInt x).toInt % 256 = x % 256 := by
    rw [Int32.toInt_ofInt]
    simp only [Int32.size, Int.bmod]
    omega
  have hrange : 0 ≤ x % 256 ∧ x % 256 < 256 := by omega
  simp only [portOf, UInt8.ofInt, UInt8.toNat_ofNat']
  omega

@[simp] theorem UsbPath.len_empty : UsbPath.empty.len = 0 := rfl

@[simp] theorem UsbPath.len_push (usbPath : UsbPath) (port : UInt8) (h : usbPath.len < usbMaxPathLen) :
    (usbPath.push port h).len = usbPath.len + 1 := by
  simp [UsbPath.push, UsbPath.len]

section ParsePort
variable {s : PathLoop}

theorem parsePort_of_delimiter {c : Char} {rest : List Char} (hroom : s.usbPath.len < usbMaxPathLen)
    (h : (strtol 16 s.usbPathString).2 = c :: rest) (hc : isPathDelimiter c) :
    parsePort s = .ok ⟨rest, s.usbPath.push (portOf (strtol 16 s.usbPathString).1) hroom, true⟩ := by
  simp [parsePort, hroom, h, hc]

theorem parsePort_of_end (hroom : s.usbPath.len < usbMaxPathLen)
    (h : ∀ c, (strtol 16 s.usbPathString).2.head? = some c → isPathDelimiter c = false) :
    parsePort s =
      .ok ⟨s.usbPathString, s.usbPath.push (portOf (strtol 16 s.usbPathString).1) hroom, false⟩ := by
  simp only [parsePort, dif_pos hroom]
  split
  · rename_i c rest hrest
    rw [if_neg (by simp [h c (by rw [hrest]; rfl)])]
  · rfl

theorem parsePort_overruns (hfull : usbMaxPathLen ≤ s.usbPath.len) : parsePort s = .error .usbPathOverrun := by
  simp [parsePort, Nat.not_lt.2 hfull]

end ParsePort

/-- While there is room, the loop takes one iteration for each field. -/
theorem iterates_fields (usbPathString : List Char) (usbPath : UsbPath)
    (hfits : usbPath.len + (fields isPathDelimiter 16 usbPathString).length ≤ usbMaxPathLen) :
    ∃ t, Iterates PathLoop.running parsePort (fields isPathDelimiter 16 usbPathString).length
        ⟨usbPathString, usbPath, true⟩ t ∧
      t.running = false ∧ t.usbPath.ports = usbPath.ports ++ (components usbPathString).map portOf ∧
      (fields isPathDelimiter 16 usbPathString).getLast? = some t.usbPathString := by
  induction usbPathString using fields_induction isPathDelimiter 16 generalizing usbPath with
  | delimiter s c rest h hc ih =>
    rw [fields_of_delimiter h hc, List.length_cons] at hfits
    have hroom : usbPath.len < usbMaxPathLen := by omega
    obtain ⟨t, hit, hend, hports, hlast⟩ :=
      ih (usbPath.push (portOf (strtol 16 s).1) hroom) (by rw [UsbPath.len_push]; omega)
    rw [components, numbers, fields_of_delimiter h hc]
    refine ⟨t, .succ rfl (parsePort_of_delimiter hroom h hc) hit, hend, ?_, ?_⟩
    · rw [hports]
      simp [UsbPath.push, components, numbers]
    · rw [List.getLast?_cons, hlast]
      rfl
  | last s h =>
    rw [fields_of_end h] at hfits
    have hroom : usbPath.len < usbMaxPathLen := hfits
    rw [components, numbers, fields_of_end h]
    exact ⟨_, .succ rfl (parsePort_of_end (s := ⟨s, usbPath, true⟩) hroom h) (.zero _), rfl, rfl, rfl⟩

/-- Without room for all fields, a port is written behind the end. -/
theorem iterates_overrun (usbPathString : List Char) (usbPath : UsbPath)
    (hover : usbMaxPathLen < usbPath.len + (fields isPathDelimiter 16 usbPathString).length) :
    ∃ n < (fields isPathDelimiter 16 usbPathString).length, ∃ t,
      Iterates PathLoop.running parsePort n ⟨usbPathString, usbPath, true⟩ t ∧
      t.running = true ∧ parsePort t = .error .usbPathOverrun := by
  induction usbPathString using fields_induction isPathDelimiter 16 generalizing usbPath with
  | delimiter s c rest h hc ih =>
    rw [fields_of_delimiter h hc, List.length_cons] at hover ⊢
    by_cases hroom : usbPath.len < usbMaxPathLen
    · obtain ⟨n, hn, t, hit, hrun, hfault⟩ :=
        ih (usbPath.push (portOf (strtol 16 s).1) hroom) (by rw [UsbPath.len_push]; omega)
      exact ⟨n + 1, by omega, t, .succ rfl (parsePort_of_delimiter hroom h hc) hit, hrun, hfault⟩
    · exact ⟨0, by omega, _, .zero _, rfl, parsePort_overruns (Nat.not_lt.1 hroom)⟩
  | last s h =>
    rw [fields_of_end h] at hover ⊢
    exact ⟨0, by simp, _, .zero _, rfl, parsePort_overruns (Nat.le_of_lt_succ hover)⟩

theorem parseUsbPath_returns {usbPathString : List Char} (h : (components usbPathString).length ≤ usbMaxPathLen) :
    ∃ t, parseUsbPath usbPathString = .ok t ∧ t.usbPath.ports = (components usbPathString).map portOf ∧
      (fields isPathDelimiter 16 usbPathString).getLast? = some t.usbPathString := by
  rw [components, numbers, List.length_map] at h
  obtain ⟨t, hit, hend, hports, hlast⟩ := iterates_fields usbPathString .empty (by simpa)
  exact ⟨t, whileLoop_of_iterates hit hend (length_fields _), hports, hlast⟩

theorem parseUsbPath_overruns {usbPathString : List Char} (h : usbMaxPathLen < (components usbPathString).length) :
    parseUsbPath usbPathString = .error .usbPathOverrun := by
  rw [components, numbers, List.length_map] at h
  obtain ⟨n, hn, t, hit, hrun, hfault⟩ := iterates_overrun usbPathString .empty (by simpa)
  exact whileLoop_of_fault hit hrun hfault (Nat.lt_of_lt_of_le hn (length_fields _))

/-- After at most one iteration more than the argument is long, the loop has left through its `break`, or its next
write is behind the array. -/
theorem parseUsbPath_ends (usbPathString : List Char) :
    ∃ n ≤ usbPathString.length + 1, ∃ t, Iterates PathLoop.running parsePort n (.start usbPathString) t ∧
      (t.running = false ∨ parsePort t = .error .usbPathOverrun) := by
  have hle : (fields isPathDelimiter 16 usbPathString).length ≤ usbPathString.length + 1 := length_fields _
  by_cases h : (fields isPathDelimiter 16 usbPathString).length ≤ usbMaxPathLen
  · obtain ⟨t, hit, hend, -⟩ := iterates_fields usbPathString .empty (by simpa)
    exact ⟨_, hle, t, hit, Or.inl hend⟩
  · obtain ⟨n, hn, t, hit, -, hfault⟩ := iterates_overrun usbPathString .empty (by simpa using h)
    exact ⟨n, by omega, t, hit, Or.inr hfault⟩

/-! ## What `main` hands over -/

/-- The options lead to these settings, and the last `-u` among them gave the argument. -/
def GivesUsbPath (options : List CommandLineOption) (settings : Settings) (usbPathString : List Char) : Prop :=
  parseOptions options .default = some settings ∧ settings.usbPathString = some usbPathString

section Main
variable {S : StringUtil} {options : List CommandLineOption} {settings : Settings} {usbPathString : List Char}

theorem components_ne_nil (usbPathString : List Char) : components usbPathString ≠ [] := by
  rw [components, numbers, Ne, List.map_eq_nil_iff]
  exact fields_ne_nil usbPathString

theorem main_returns (hgives : GivesUsbPath options settings usbPathString)
    (h : (components usbPathString).length ≤ usbMaxPathLen) :
    ∃ t : PathLoop, (fields isPathDelimiter 16 usbPathString).getLast? = some t.usbPathString ∧ t.usbPath.len ≠ 0 ∧
      main S options = .ok (some ⟨some ((components usbPathString).map portOf),
        settings.logFilePath.getD (pklgPath S t), settings.tlvReset⟩) := by
  obtain ⟨t, ht, hports, hlast⟩ := parseUsbPath_returns h
  have hlen : t.usbPath.len ≠ 0 := by
    rw [UsbPath.len, hports, List.length_map, Ne, List.length_eq_zero_iff]
    exact components_ne_nil usbPathString
  refine ⟨t, hlast, hlen, ?_⟩
  simp only [main, hgives.1, hgives.2, ht, ok_bind, if_pos hlen, hports]
  rfl

theorem main_overruns (hgives : GivesUsbPath options settings usbPathString)
    (h : usbMaxPathLen < (components usbPathString).length) : main S options = .error .usbPathOverrun := by
  simp only [main, hgives.1, hgives.2, parseUsbPath_overruns h, error_bind]

/-- The transport is given at most seven ports, and they are the components that were read. -/
def HandsOverComponents (S : StringUtil) (options : List CommandLineOption) (usbPathString : List Char) : Prop :=
  ∃ started usbPath, main S options = .ok (some started) ∧ started.usbPath = some usbPath ∧
    usbPath.length ≤ usbMaxPathLen ∧ usbPath.map (fun port => (port.toNat : Int)) = components usbPathString

theorem map_portOf_eq_iff {xs : List Int} :
    (xs.map portOf).map (fun port => (port.toNat : Int)) = xs ↔ ∀ x ∈ xs, 0 ≤ x ∧ x ≤ 255 := by
  rw [List.map_map]
  conv_lhs => rhs; rw [← List.map_id xs]
  rw [List.map_inj_left]
  constructor
  · intro h x hx
    have hself := h x hx
    simp only [Function.comp_apply, toNat_portOf, id] at hself
    omega
  · intro h x hx
    have hrange := h x hx
    simp only [Function.comp_apply, toNat_portOf, id]
    omega

/-- **Path safety**: the loop always ends, and the argument is handed over as it was read exactly if it has at most
seven components, each between 0 and 255. -/
theorem usbPath_handedOver_iff (S : StringUtil) (hgives : GivesUsbPath options settings usbPathString) :
    (∃ n ≤ usbPathString.length + 1, ∃ t, Iterates PathLoop.running parsePort n (.start usbPathString) t ∧
      (t.running = false ∨ parsePort t = .error .usbPathOverrun)) ∧
    (HandsOverComponents S options usbPathString ↔
      (components usbPathString).length ≤ usbMaxPathLen ∧ ∀ x ∈ components usbPathString, 0 ≤ x ∧ x ≤ 255) := by
  refine ⟨parseUsbPath_ends usbPathString, ?_⟩
  by_cases h : (components usbPathString).length ≤ usbMaxPathLen
  · obtain ⟨t, -, -, hmain⟩ := main_returns (S := S) hgives h
    constructor
    · rintro ⟨started, usbPath, hstarted, hpath, -, hports⟩
      obtain rfl : _ = started := by simpa using hmain.symm.trans hstarted
      cases hpath
      exact ⟨h, map_portOf_eq_iff.1 hports⟩
    · rintro ⟨-, hrange⟩
      exact ⟨_, _, hmain, rfl, by rwa [List.length_map], map_portOf_eq_iff.2 hrange⟩
  · have hmain := main_overruns (S := S) hgives (Nat.not_le.1 h)
    constructor
    · rintro ⟨started, usbPath, hstarted, -⟩
      rw [hmain] at hstarted
      cases hstarted
    · rintro ⟨hlength, -⟩
      exact absurd hlength h

end Main

/-- `-u 2f:01-03`. -/
theorem usbPath_handedOver_threePorts :
    (∃ n ≤ "2f:01-03".toList.length + 1, ∃ t, Iterates PathLoop.running parsePort n (.start "2f:01-03".toList) t ∧
      (t.running = false ∨ parsePort t = .error .usbPathOverrun)) ∧
    (HandsOverComponents .reference [.resetTlv, .usbpath "2f:01-03".toList] "2f:01-03".toList ↔
      (components "2f:01-03".toList).length ≤ usbMaxPathLen ∧
        ∀ x ∈ components "2f:01-03".toList, 0 ≤ x ∧ x ≤ 255) := by
  have hgives : GivesUsbPath [.resetTlv, .usbpath "2f:01-03".toList] ⟨some "2f:01-03".toList, none, true⟩
      "2f:01-03".toList := ⟨rfl, rfl⟩
  exact usbPath_handedOver_iff .reference hgives

/-- The eighth component is written behind the end of the array; `100` becomes port 0. -/
theorem usbPath_not_handedOver :
    (main .reference [.usbpath "1:2:3:4:5:6:7:8".toList] = .error .usbPathOverrun ∧
      ¬ HandsOverComponents .reference [.usbpath "1:2:3:4:5:6:7:8".toList] "1:2:3:4:5:6:7:8".toList) ∧
    main .reference [.usbpath "100".toList] = .ok (some ⟨some [0], "/tmp/hci_dump_100.pklg".toList, false⟩) ∧
      ¬ HandsOverComponents .reference [.usbpath "100".toList] "100".toList := by
  have hlong : main .reference [.usbpath "1:2:3:4:5:6:7:8".toList] = .error .usbPathOverrun := by rfl
  have hwide : main .reference [.usbpath "100".toList] =
      .ok (some ⟨some [0], "/tmp/hci_dump_100.pklg".toList, false⟩) := by rfl
  have hread : strtol 16 "100".toList = (256, []) := by decide
  refine ⟨⟨hlong, ?_⟩, hwide, ?_⟩
  · rintro ⟨started, usbPath, hstarted, -⟩
    rw [hlong] at hstarted
    cases hstarted
  · rintro ⟨started, usbPath, hstarted, hpath, -, hports⟩
    rw [hwide] at hstarted
    cases hstarted
    cases hpath
    rw [components, numbers, fields_of_end (by rw [hread]; rintro c ⟨⟩)] at hports
    simp only [List.map_cons, List.map_nil, hread] at hports
    revert hports
    decide

/-! ## The printed path -/

theorem intercalate_singleton_cons {α : Type*} (a : α) (l : List α) (ls : List (List α)) :
    [a].intercalate (l :: ls) = l ++ ls.flatMap (a :: ·) := by
  induction ls generalizing l with
  | nil => simp
  | cons l' ls ih =>
    rw [List.intercalate_cons_cons, ih l', List.flatMap_cons]
    simp

/-- Behind the first port, every port comes with the separator. -/
theorem flatMap_zipIdx_ports (separator : Char) (ports : List UInt8) {i : Nat} (hi : 0 < i) :
    ((ports.zipIdx i).flatMap fun (port, i) => (if i ≠ 0 then [separator] else []) ++ hexadecimal 2 port.toNat) =
      (ports.map fun port => hexadecimal 2 port.toNat).flatMap (separator :: ·) := by
  induction ports generalizing i with
  | nil => rfl
  | cons port ports ih =>
    rw [List.zipIdx_cons, List.flatMap_cons, List.map_cons, List.flatMap_cons, ih (Nat.succ_pos i)]
    simp [Nat.ne_of_gt hi]

theorem printUsbPath_eq (separator : Char) (usbPath : List UInt8) :
    printUsbPath separator usbPath = [separator].intercalate (usbPath.map fun port => hexadecimal 2 port.toNat) := by
  cases usbPath with
  | nil => rfl
  | cons port ports =>
    rw [printUsbPath, List.zipIdx_cons, List.flatMap_cons, flatMap_zipIdx_ports separator ports (Nat.succ_pos 0),
      List.map_cons, intercalate_singleton_cons]
    rfl

theorem isNumeral_port (port : UInt8) : IsNumeral 16 (hexadecimal 2 port.toNat) :=
  isNumeral_hexadecimal 2 (Nat.lt_trans port.toNat_lt (by decide))

theorem endsNumeral_delimiter {separator : Char} (h : isPathDelimiter separator) : EndsNumeral 16 [separator] := by
  rintro c ⟨⟩
  simp only [isPathDelimiter, Bool.or_eq_true, decide_eq_true_eq] at h
  rcases h with rfl | rfl <;> decide

/-- The numerals of a path, with a delimiter between two of them, are its components. -/
theorem components_intercalate {separator : Char} (hsep : isPathDelimiter separator) {dss : List (List Char)}
    (h : ∀ ds ∈ dss, IsNumeral 16 ds) (hne : dss ≠ []) :
    components ([separator].intercalate dss) = dss.map fun ds => (value 16 ds : Int) :=
  numbers_intercalate (by decide) hsep (endsNumeral_delimiter hsep) h hne

theorem components_printUsbPath {separator : Char} (hsep : isPathDelimiter separator) {usbPath : List UInt8}
    (hne : usbPath ≠ []) :
    components (printUsbPath separator usbPath) = usbPath.map fun port => (port.toNat : Int) := by
  rw [printUsbPath_eq, components_intercalate hsep, List.map_map]
  · refine List.map_congr_left fun port _ => ?_
    simp [value_hexadecimal]
  · intro ds hds
    obtain ⟨port, -, rfl⟩ := List.mem_map.1 hds
    exact isNumeral_port port
  · simpa using hne

theorem portOf_toNat (port : UInt8) : portOf port.toNat = port := by
  apply UInt8.toNat_inj.1
  have hport := toNat_portOf port.toNat
  have hlt := port.toNat_lt
  omega

/-- **Path round trip**: a path of one to seven ports, printed with `-` as the handler does or with `:`, is parsed to
the same ports. -/
theorem usbPath_roundTrip (S : StringUtil) {e : UsbInfo} {separator : Char} {options : List CommandLineOption}
    {settings : Settings} (hpos : 1 ≤ e.usbPath.length) (hmax : e.usbPath.length ≤ 7)
    (hsep : separator = '-' ∨ separator = ':')
    (hgives : GivesUsbPath options settings (printUsbPath separator e.usbPath)) :
    .printf (printUsbPath '-' e.usbPath) ∈ transportUsbInfo e ∧
      ∃ started, main S options = .ok (some started) ∧ started.usbPath = some e.usbPath := by
  have hne : e.usbPath ≠ [] := List.ne_nil_of_length_pos hpos
  have hdelimiter : isPathDelimiter separator := by rcases hsep with rfl | rfl <;> rfl
  have hread := components_printUsbPath hdelimiter hne
  refine ⟨List.mem_append_left _ (.tail _ (.head _)), ?_⟩
  obtain ⟨t, -, -, hmain⟩ := main_returns (S := S) hgives (by rw [hread, List.length_map]; exact hmax)
  refine ⟨_, hmain, ?_⟩
  rw [hread, List.map_map]
  have hsame : e.usbPath.map (portOf ∘ fun port => (port.toNat : Int)) = e.usbPath.map id :=
    List.map_congr_left fun port _ => portOf_toNat port
  rw [hsame, List.map_id]

/-- The device of the vendor 0x0a12 behind port 6 of the hub at port 1. -/
theorem usbPath_roundTrip_hub :
    .printf (printUsbPath '-' [1, 6]) ∈ transportUsbInfo ⟨0x0a12, 1, [1, 6]⟩ ∧
      ∃ started, main .reference [.usbpath (printUsbPath ':' [1, 6])] = .ok (some started) ∧
        started.usbPath = some [1, 6] := by
  have hgives : GivesUsbPath [.usbpath (printUsbPath ':' [1, 6])] ⟨some (printUsbPath ':' [1, 6]), none, false⟩
      (printUsbPath ':' [1, 6]) := ⟨rfl, rfl⟩
  exact usbPath_roundTrip .reference (e := ⟨0x0a12, 1, [1, 6]⟩) (by decide) (by decide) (Or.inr rfl) hgives

end BtstackPort
