import BtstackPort.Main.UsbPath
/-!
# The default packet log (`main.c:336-347`)

The log is named after `usb_path_string`, which the parsing loop has moved to the last component of the argument. Two
instances fixed to different paths write different logs exactly if the last components are written differently
(`packetLog_ne_iff`).
-/

namespace BtstackPort

open FaultMachine Numeral

/-! ## Arguments -/

/-- A port of two hexadecimal digits. -/
structure PortNumeral where
  high : Char
  low : Char
  isDigit_high : isDigit 16 high
  isDigit_low : isDigit 16 low

namespace PortNumeral

def text (p : PortNumeral) : List Char := [p.high, p.low]

def port (p : PortNumeral) : UInt8 := .ofNat (16 * digitValue p.high + digitValue p.low)

theorem value_text (p : PortNumeral) : value 16 p.text = 16 * digitValue p.high + digitValue p.low := by
  simp [value, text, Nat.ofDigits_cons]
  omega

theorem value_lt (p : PortNumeral) : value 16 p.text < 256 := by
  have hhigh : digitValue p.high < 16 := by simpa [isDigit] using p.isDigit_high
  have hlow : digitValue p.low < 16 := by simpa [isDigit] using p.isDigit_low
  rw [value_text]
  omega

theorem isNumeral (p : PortNumeral) : IsNumeral 16 p.text where
  nonempty := by simp [text]
  digits := by simp [text, p.isDigit_high, p.isDigit_low]
  fits := Nat.lt_trans p.value_lt (by decide)

theorem portOf_value (p : PortNumeral) : portOf (value 16 p.text) = p.port := by
  have hport : (value 16 p.text : Int) = (p.port.toNat : Int) := by
    have hlt := p.value_lt
    rw [value_text] at hlt ⊢
    simp [port, Nat.mod_eq_of_lt hlt]
  rw [hport, portOf_toNat]

end PortNumeral

/-- A well-formed argument of `-u`: one to seven ports of two digits, joined by `:`. -/
structure PathArgument where
  numerals : List PortNumeral
  nonempty : numerals ≠ []
  fits : numerals.length ≤ 7

namespace PathArgument

def text (a : PathArgument) : List Char := [':'].intercalate (a.numerals.map PortNumeral.text)

def ports (a : PathArgument) : List UInt8 := a.numerals.map PortNumeral.port

/-- The last component, as it is written. -/
def last (a : PathArgument) : List Char := (a.numerals.getLast a.nonempty).text

theorem map_text_ne_nil (a : PathArgument) : a.numerals.map PortNumeral.text ≠ [] := by simpa using a.nonempty

theorem isNumeral_of_mem (a : PathArgument) : ∀ ds ∈ a.numerals.map PortNumeral.text, IsNumeral 16 ds := by
  intro ds hds
  obtain ⟨p, -, rfl⟩ := List.mem_map.1 hds
  exact p.isNumeral

theorem components_text (a : PathArgument) :
    components a.text = a.numerals.map fun p => (value 16 p.text : Int) := by
  rw [text, components_intercalate rfl a.isNumeral_of_mem a.map_text_ne_nil, List.map_map]
  rfl

theorem ports_eq (a : PathArgument) : (components a.text).map portOf = a.ports := by
  rw [components_text, List.map_map]
  exact List.map_congr_left fun p _ => p.portOf_value

theorem getLast?_fields_text (a : PathArgument) : (fields isPathDelimiter 16 a.text).getLast? = some a.last := by
  rw [text, getLast?_fields_intercalate (by decide) rfl (endsNumeral_delimiter rfl) a.isNumeral_of_mem a.map_text_ne_nil,
    List.getLast?_map, List.getLast?_eq_some_getLast a.nonempty]
  rfl

end PathArgument

/-! ## Names of logs -/

/-- A short name fits into the buffer. -/
theorem pklgPath_eq (S : StringUtil) {s : PathLoop} (hlen : s.usbPath.len ≠ 0) (hfits : s.usbPathString.length ≤ 80) :
    pklgPath S s = "/tmp/hci_dump".toList ++ "_".toList ++ s.usbPathString ++ ".pklg".toList := by
  have hdump : "/tmp/hci_dump".toList.length = 13 := by decide
  have hsep : "_".toList.length = 1 := by decide
  have hpklg : ".pklg".toList.length = 5 := by decide
  have hstart : S.strcpy 100 "/tmp/hci_dump".toList = "/tmp/hci_dump".toList := S.strcpy_eq _ _ (by omega)
  have hprefix : S.strcat 100 "/tmp/hci_dump".toList "_".toList = "/tmp/hci_dump".toList ++ "_".toList :=
    S.strcat_eq _ _ _ (by omega)
  have hname : S.strcat 100 ("/tmp/hci_dump".toList ++ "_".toList) s.usbPathString =
      "/tmp/hci_dump".toList ++ "_".toList ++ s.usbPathString :=
    S.strcat_eq _ _ _ (by rw [List.length_append]; omega)
  simp only [pklgPath, sizeofPklgPath, if_pos hlen, hstart, hprefix, hname]
  exact S.strcat_eq _ _ _ (by rw [List.length_append, List.length_append]; omega)

section Runs
variable {options options' : List CommandLineOption} {settings settings' : Settings} {a a' : PathArgument}

theorem main_packetLog (S : StringUtil) (hgives : GivesUsbPath options settings a.text)
    (hlog : settings.logFilePath = none) :
    ∃ started, main S options = .ok (some started) ∧ started.usbPath = some a.ports ∧
      started.packetLog = "/tmp/hci_dump".toList ++ "_".toList ++ a.last ++ ".pklg".toList := by
  have hlength : (components a.text).length ≤ usbMaxPathLen := by
    rw [a.components_text, List.length_map]
    exact a.fits
  obtain ⟨t, hlast, hlen, hmain⟩ := main_returns (S := S) hgives hlength
  rw [a.getLast?_fields_text] at hlast
  have hstring : a.last = t.usbPathString := Option.some.inj hlast
  refine ⟨_, hmain, congrArg some a.ports_eq, ?_⟩
  have hfits : t.usbPathString.length ≤ 80 := by
    rw [← hstring]
    simp [PathArgument.last, PortNumeral.text]
  rw [hlog, Option.getD_none, pklgPath_eq S hlen hfits, hstring]

/-- **Packet logs**: of two runs without `-l`, each with a well-formed path, the default packet logs differ exactly if
the last components of the paths are written differently. -/
theorem packetLog_ne_iff (S : StringUtil) (hgives : GivesUsbPath options settings a.text)
    (hgives' : GivesUsbPath options' settings' a'.text) (hlog : settings.logFilePath = none)
    (hlog' : settings'.logFilePath = none) :
    ∃ started started', main S options = .ok (some started) ∧ main S options' = .ok (some started') ∧
      started.usbPath = some a.ports ∧ started'.usbPath = some a'.ports ∧
      (started.packetLog ≠ started'.packetLog ↔ a.last ≠ a'.last) := by
  obtain ⟨started, hmain, hports, hpath⟩ := main_packetLog S hgives hlog
  obtain ⟨started', hmain', hports', hpath'⟩ := main_packetLog S hgives' hlog'
  refine ⟨started, started', hmain, hmain', hports, hports', not_congr ?_⟩
  rw [hpath, hpath', List.append_left_inj, List.append_right_inj]

end Runs

/-- `0m:0n`. -/
def hubPath (m n : Char) (hm : isDigit 16 m) (hn : isDigit 16 n) : PathArgument :=
  ⟨[⟨'0', m, rfl, hm⟩, ⟨'0', n, rfl, hn⟩], by simp, by simp⟩

theorem packetLog_ne_iff_hubPath :
    ∃ started started',
      main .reference [.usbpath (hubPath '1' '2' rfl rfl).text] = .ok (some started) ∧
      main .reference [.resetTlv, .usbpath (hubPath '1' '3' rfl rfl).text] = .ok (some started') ∧
      started.usbPath = some (hubPath '1' '2' rfl rfl).ports ∧
      started'.usbPath = some (hubPath '1' '3' rfl rfl).ports ∧
      (started.packetLog ≠ started'.packetLog ↔ (hubPath '1' '2' rfl rfl).last ≠ (hubPath '1' '3' rfl rfl).last) := by
  have hgives : GivesUsbPath [.usbpath (hubPath '1' '2' rfl rfl).text]
      ⟨some (hubPath '1' '2' rfl rfl).text, none, false⟩ (hubPath '1' '2' rfl rfl).text := ⟨rfl, rfl⟩
  have hgives' : GivesUsbPath [.resetTlv, .usbpath (hubPath '1' '3' rfl rfl).text]
      ⟨some (hubPath '1' '3' rfl rfl).text, none, true⟩ (hubPath '1' '3' rfl rfl).text := ⟨rfl, rfl⟩
  exact packetLog_ne_iff .reference hgives hgives' rfl rfl

/-- `-u 01:02` and `-u 03:02` are different paths with the same log. -/
theorem packetLogs_collide :
    (hubPath '1' '2' rfl rfl).text = "01:02".toList ∧ (hubPath '3' '2' rfl rfl).text = "03:02".toList ∧
      (hubPath '1' '2' rfl rfl).ports ≠ (hubPath '3' '2' rfl rfl).ports ∧
      main .reference [.usbpath "01:02".toList] =
        .ok (some ⟨some [1, 2], "/tmp/hci_dump_02.pklg".toList, false⟩) ∧
      main .reference [.usbpath "03:02".toList] =
        .ok (some ⟨some [3, 2], "/tmp/hci_dump_02.pklg".toList, false⟩) := by
  refine ⟨by decide, by decide, by decide, by rfl, by rfl⟩

end BtstackPort
