import Mathlib.Data.List.TakeWhile
import Mathlib.Data.Nat.Digits.Defs
/-!
# Numerals in text

`strtol base` is the function of the C library, in the "C" locale and for a `long` of 64 bits: space is skipped, then
comes a sign, then `0x` if the base is 16, then the longest run of digits. What it returns is the number and the text
after it; where there is no digit it returns 0 and the whole text.

`hexadecimal width` is the conversion `%x` of `printf`, filled up with zeros. `strtol 16` reads back what it prints
(`strtol_numeral`, `value_hexadecimal`).

`fields` are the places where `strtol` is called by a loop that reads one number after the other, with a delimiter
between two of them.
-/

namespace Numeral

def isSpace (c : Char) : Bool := c.toNat = 32 || (9 ≤ c.toNat && c.toNat ≤ 13)

/-- Digits, small letters, capital letters; 36 for everything else. -/
def digitValue (c : Char) : Nat :=
  if 48 ≤ c.toNat ∧ c.toNat ≤ 57 then c.toNat - 48
  else if 97 ≤ c.toNat ∧ c.toNat ≤ 122 then c.toNat - 87
  else if 65 ≤ c.toNat ∧ c.toNat ≤ 90 then c.toNat - 55
  else 36

def isDigit (base : Nat) (c : Char) : Bool := digitValue c < base

/-- The most significant digit comes first. -/
def value (base : Nat) (ds : List Char) : Nat := Nat.ofDigits base (ds.reverse.map digitValue)

def toLong (x : Int) : Int := max (-2 ^ 63) (min x (2 ^ 63 - 1))

def skipSign (s : List Char) : List Char := if s.head? = some '-' ∨ s.head? = some '+' then s.tail else s

/-- `0x` is skipped only where a digit follows. -/
def skipPrefix (base : Nat) (s : List Char) : List Char :=
  if base = 16 ∧ s[0]? = some '0' ∧ (s[1]? = some 'x' ∨ s[1]? = some 'X') ∧ s[2]?.any (isDigit 16) then s.drop 2 else s

def strtol (base : Nat) (s : List Char) : Int × List Char :=
  let t := s.dropWhile isSpace
  let u := skipPrefix base (skipSign t)
  let ds := u.takeWhile (isDigit base)
  if ds = [] then (0, s)
  else (toLong (if t.head? = some '-' then -value base ds else value base ds), u.dropWhile (isDigit base))

example : strtol 16 "2f:03".toList = (0x2f, ":03".toList) := by decide
example : strtol 16 " -0X1g".toList = (-1, "g".toList) := by decide
example : strtol 16 "0x:1".toList = (0, "x:1".toList) := by decide
example : strtol 16 "-:1".toList = (0, "-:1".toList) := by decide

/-! ## What is left over -/

theorem length_skipSign (s : List Char) : (skipSign s).length ≤ s.length := by
  unfold skipSign
  split
  · simp
  · exact Nat.le_refl _

theorem length_skipPrefix (base : Nat) (s : List Char) : (skipPrefix base s).length ≤ s.length := by
  unfold skipPrefix
  split
  · simp
  · exact Nat.le_refl _

theorem length_strtol_le (base : Nat) (s : List Char) : (strtol base s).2.length ≤ s.length := by
  simp only [strtol]
  split
  · exact Nat.le_refl _
  · calc
      _ ≤ (skipPrefix base (skipSign (s.dropWhile isSpace))).length := List.length_dropWhile_le _ _
      _ ≤ (skipSign (s.dropWhile isSpace)).length := length_skipPrefix _ _
      _ ≤ (s.dropWhile isSpace).length := length_skipSign _
      _ ≤ s.length := List.length_dropWhile_le _ _

theorem length_rest_lt {base : Nat} {s rest : List Char} {c : Char} (h : (strtol base s).2 = c :: rest) :
    rest.length < s.length := by
  have hle := length_strtol_le base s
  rw [h, List.length_cons] at hle
  exact hle

/-! ## Reading digits -/

section Digits
variable {base : Nat} {c : Char} {ds rest : List Char}

/-- Digits, and a number that fits into a `long`. -/
structure IsNumeral (base : Nat) (ds : List Char) : Prop where
  nonempty : ds ≠ []
  digits : ∀ c ∈ ds, isDigit base c
  fits : value base ds < 2 ^ 63

/-- A run of digits ends before `rest`, and so does what looks like `0x`. -/
def EndsNumeral (base : Nat) (rest : List Char) : Prop :=
  ∀ c, rest.head? = some c → isDigit base c = false ∧ c ≠ 'x' ∧ c ≠ 'X'

theorem endsNumeral_nil : EndsNumeral base [] := by simp [EndsNumeral]

/-- It is the first character that ends a numeral. -/
theorem EndsNumeral.cons (h : EndsNumeral base [c]) (rest : List Char) : EndsNumeral base (c :: rest) := h

theorem le_toNat_of_isDigit (hbase : base ≤ 36) (h : isDigit base c) : 48 ≤ c.toNat := by
  have h : digitValue c < base := by simpa [isDigit] using h
  unfold digitValue at h
  split at h
  · omega
  · split at h
    · omega
    · split at h <;> omega

theorem isSpace_of_isDigit (hbase : base ≤ 36) (h : isDigit base c) : isSpace c = false := by
  have hc := le_toNat_of_isDigit hbase h
  simp [isSpace]
  omega

theorem not_sign_of_isDigit (hbase : base ≤ 36) (h : isDigit base c) : c ≠ '-' ∧ c ≠ '+' := by
  have hc := le_toNat_of_isDigit hbase h
  constructor <;> (rintro rfl; revert hc; decide)

theorem skipPrefix_digits (hds : ∀ c ∈ ds, isDigit base c) (hne : ds ≠ []) (hrest : EndsNumeral base rest) :
    skipPrefix base (ds ++ rest) = ds ++ rest := by
  unfold skipPrefix
  rw [if_neg]
  rintro ⟨rfl, -, hx, -⟩
  -- the second character is a digit or ends the numeral
  have hsecond : ∀ c, (ds ++ rest)[1]? = some c → c ≠ 'x' ∧ c ≠ 'X' := by
    intro c hc
    match ds, hne with
    | [d], _ => exact (hrest c (by simpa [List.head?_eq_getElem?] using hc)).2
    | d :: e :: ds, _ =>
      have he := hds e (by simp)
      obtain rfl : e = c := by simpa using hc
      constructor <;> (rintro rfl; revert he; decide)
  rcases hx with hx | hx
  · exact (hsecond _ hx).1 rfl
  · exact (hsecond _ hx).2 rfl

theorem toLong_of_lt {n : Nat} (h : n < 2 ^ 63) : toLong n = n := by
  unfold toLong
  omega

/-- `strtol` reads a numeral up to what ends it. -/
theorem strtol_numeral (hbase : base ≤ 36) (hds : IsNumeral base ds) (hrest : EndsNumeral base rest) :
    strtol base (ds ++ rest) = ((value base ds : Int), rest) := by
  obtain ⟨d, es, rfl⟩ := List.exists_cons_of_ne_nil hds.nonempty
  have hd := hds.digits d (by simp)
  obtain ⟨hminus, hplus⟩ := not_sign_of_isDigit hbase hd
  have hspace : ((d :: es) ++ rest).dropWhile isSpace = (d :: es) ++ rest := by
    simp [isSpace_of_isDigit hbase hd]
  have hsign : skipSign ((d :: es) ++ rest) = (d :: es) ++ rest := by simp [skipSign, hminus, hplus]
  have htake : rest.takeWhile (isDigit base) = [] := by
    cases rest with
    | nil => rfl
    | cons c rest => simp [(hrest c rfl).1]
  have hdrop : rest.dropWhile (isDigit base) = rest := by
    cases rest with
    | nil => rfl
    | cons c rest => simp [(hrest c rfl).1]
  simp only [strtol, hspace, hsign, skipPrefix_digits hds.digits hds.nonempty hrest,
    List.takeWhile_append_of_pos hds.digits, List.dropWhile_append_of_pos hds.digits, htake, hdrop, List.append_nil]
  simp [hminus, toLong_of_lt hds.fits]

theorem strtol_numeral_nil (hbase : base ≤ 36) (hds : IsNumeral base ds) :
    strtol base ds = ((value base ds : Int), []) := by
  simpa using strtol_numeral hbase hds endsNumeral_nil

end Digits

/-! ## Printing -/

def hexadecimal (width n : Nat) : List Char :=
  let ds := (Nat.digits 16 n).reverse.map Nat.digitChar
  List.replicate (max width 1 - ds.length) '0' ++ ds

example : hexadecimal 2 0 = "00".toList ∧ hexadecimal 2 0x2f = "2f".toList ∧ hexadecimal 4 0xa12 = "0a12".toList := by
  decide

theorem digitValue_digitChar : ∀ d < 16, digitValue (Nat.digitChar d) = d := by decide

theorem digitValue_map_digitChar {ds : List Nat} (h : ∀ d ∈ ds, d < 16) :
    (ds.map Nat.digitChar).map digitValue = ds := by
  rw [List.map_map]
  calc
    _ = ds.map id := List.map_congr_left fun d hd => digitValue_digitChar d (h d hd)
    _ = ds := List.map_id ds

theorem value_hexadecimal (width n : Nat) : value 16 (hexadecimal width n) = n := by
  have hdigits : ∀ d ∈ Nat.digits 16 n, d < 16 := fun d hd => Nat.digits_lt_base (by decide) hd
  unfold value hexadecimal
  -- the zeros in front come last
  rw [List.reverse_append, ← List.map_reverse, List.reverse_reverse, List.map_append, digitValue_map_digitChar hdigits,
    List.reverse_replicate, List.map_replicate]
  exact (Nat.ofDigits_append_replicate_zero _).trans (Nat.ofDigits_digits 16 n)

theorem isNumeral_hexadecimal (width : Nat) {n : Nat} (h : n < 2 ^ 63) : IsNumeral 16 (hexadecimal width n) where
  nonempty := by
    intro hnil
    obtain ⟨hzeros, hdigits⟩ := List.append_eq_nil_iff.1 hnil
    simp only [hdigits, List.length_nil, List.replicate_eq_nil_iff] at hzeros
    omega
  digits := by
    intro c hc
    simp only [hexadecimal, List.mem_append, List.mem_replicate, List.mem_map, List.mem_reverse] at hc
    rcases hc with ⟨-, rfl⟩ | ⟨d, hd, rfl⟩
    · rfl
    · have hd := Nat.digits_lt_base (by decide) hd
      simpa [isDigit, digitValue_digitChar d hd] using hd
  fits := by rwa [value_hexadecimal]

/-! ## Numbers one after the other -/

section Fields
variable {isDelimiter : Char → Bool} {base : Nat}

def fields (isDelimiter : Char → Bool) (base : Nat) (s : List Char) : List (List Char) :=
  match _h : (strtol base s).2 with
  | c :: rest => if isDelimiter c then s :: fields isDelimiter base rest else [s]
  | [] => [s]
termination_by s.length
decreasing_by exact length_rest_lt ‹_›

/-- The numbers that are read. -/
def numbers (isDelimiter : Char → Bool) (base : Nat) (s : List Char) : List Int :=
  (fields isDelimiter base s).map fun t => (strtol base t).1

theorem fields_of_delimiter {s rest : List Char} {c : Char} (h : (strtol base s).2 = c :: rest)
    (hc : isDelimiter c) : fields isDelimiter base s = s :: fields isDelimiter base rest := by
  rw [fields]
  split
  · rename_i h'
    rw [h] at h'
    cases h'
    rw [if_pos hc]
  · rename_i h'
    rw [h] at h'
    cases h'

theorem fields_of_end {s : List Char} (h : ∀ c, (strtol base s).2.head? = some c → isDelimiter c = false) :
    fields isDelimiter base s = [s] := by
  rw [fields]
  split
  · rename_i c rest h'
    have hc := h c (by rw [h']; rfl)
    rw [hc]
    rfl
  · rfl

theorem fields_ne_nil (s : List Char) : fields isDelimiter base s ≠ [] := by
  rw [fields]
  split
  · split <;> simp
  · simp

/-- **Field rule**: what holds of a text if it holds of the text after its first delimiter, and of a text without one,
holds of every text. -/
theorem fields_induction (isDelimiter : Char → Bool) (base : Nat) {motive : List Char → Prop}
    (delimiter : ∀ s c rest, (strtol base s).2 = c :: rest → isDelimiter c → motive rest → motive s)
    (last : ∀ s, (∀ c, (strtol base s).2.head? = some c → isDelimiter c = false) → motive s) (s : List Char) :
    motive s := by
  induction s using fields.induct isDelimiter base with
  | case1 s c rest h hc ih => exact delimiter s c rest h hc ih
  | case2 s c rest h hc => exact last s (by rw [h]; rintro d ⟨⟩; simpa using hc)
  | case3 s h => exact last s (by rw [h]; rintro d ⟨⟩)

/-- No more fields than characters, and one. -/
theorem length_fields (s : List Char) : (fields isDelimiter base s).length ≤ s.length + 1 := by
  induction s using fields_induction isDelimiter base with
  | delimiter s c rest h hc ih =>
    have hshorter := length_rest_lt h
    rw [fields_of_delimiter h hc, List.length_cons]
    omega
  | last s h =>
    rw [fields_of_end h]
    simp

theorem fields_numeral (hbase : base ≤ 36) {ds : List Char} (h : IsNumeral base ds) :
    fields isDelimiter base ds = [ds] :=
  fields_of_end (by simp [strtol_numeral_nil hbase h])

variable {sep : Char} (hbase : base ≤ 36) (hsep : isDelimiter sep) (hend : EndsNumeral base [sep])
include hbase hsep hend

theorem fields_intercalate_cons {ds ds' : List Char} {dss : List (List Char)} (h : IsNumeral base ds) :
    fields isDelimiter base ([sep].intercalate (ds :: ds' :: dss)) =
      [sep].intercalate (ds :: ds' :: dss) :: fields isDelimiter base ([sep].intercalate (ds' :: dss)) := by
  refine fields_of_delimiter (c := sep) ?_ hsep
  rw [List.intercalate_cons_cons, List.append_assoc, List.singleton_append,
    strtol_numeral hbase h (hend.cons _)]

theorem numbers_intercalate {dss : List (List Char)} (h : ∀ ds ∈ dss, IsNumeral base ds) (hne : dss ≠ []) :
    numbers isDelimiter base ([sep].intercalate dss) = dss.map fun ds => (value base ds : Int) := by
  induction dss with
  | nil => exact absurd rfl hne
  | cons ds dss ih =>
    have hds := h ds (by simp)
    unfold numbers at ih ⊢
    cases dss with
    | nil => simp [fields_numeral hbase hds, strtol_numeral_nil hbase hds]
    | cons ds' dss =>
      rw [fields_intercalate_cons hbase hsep hend hds, List.map_cons,
        ih (fun es hes => h es (List.mem_cons_of_mem _ hes)) (by simp), List.intercalate_cons_cons, List.append_assoc,
        List.singleton_append, strtol_numeral hbase hds (hend.cons _)]
      rfl

/-- The last field is the last numeral. -/
theorem getLast?_fields_intercalate {dss : List (List Char)} (h : ∀ ds ∈ dss, IsNumeral base ds) (hne : dss ≠ []) :
    (fields isDelimiter base ([sep].intercalate dss)).getLast? = dss.getLast? := by
  induction dss with
  | nil => exact absurd rfl hne
  | cons ds dss ih =>
    have hds := h ds (by simp)
    cases dss with
    | nil => simp [fields_numeral hbase hds]
    | cons ds' dss =>
      have hlast := ih (fun es hes => h es (List.mem_cons_of_mem _ hes)) (by simp)
      rw [fields_intercalate_cons hbase hsep hend hds, List.getLast?_cons, hlast]
      simp [List.getLast?_cons]

end Fields

end Numeral
