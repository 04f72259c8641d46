import Mathlib.Data.List.Basic
/-!
# Memory regions

A region is the list of its cells. `store` writes a block at an offset and fails outside the region;
`load` reads cells of which only a prefix has been written, the rest being whatever was there before.
-/

namespace Memory

variable {α : Type*}

/-- `d` written at offset `off`; `none` when it does not fit into the region. -/
def store (mem : List α) (off : Nat) (d : List α) : Option (List α) :=
  if off + d.length ≤ mem.length then some (mem.take off ++ d ++ mem.drop (off + d.length)) else none

/-- `len` cells from `off` on, `written` being the defined prefix and `old` the rest. -/
def load (written : List α) (old : Nat → α) (off len : Nat) : List α :=
  (List.range len).map fun i => written.getD (off + i) (old (off + i))

/-- All the cells that `load` reads belong to the defined prefix. -/
def Written (written : List α) (off len : Nat) : Prop := ∀ i < len, off + i < written.length

theorem written_iff {written : List α} {off len : Nat} :
    Written written off len ↔ len = 0 ∨ off + len ≤ written.length := by
  constructor
  · intro h
    by_cases h0 : len = 0
    · exact Or.inl h0
    · have hlast := h (len - 1) (by omega)
      exact Or.inr (by omega)
  · intro h i hi
    omega

theorem length_store {mem mem' d : List α} {off : Nat} (h : store mem off d = some mem') :
    mem'.length = mem.length := by
  unfold store at h
  split at h
  · cases h; simp; omega
  · cases h

/-- A block that could be written lies inside the region. -/
theorem store_bound {mem mem' d : List α} {off : Nat} (h : store mem off d = some mem') :
    off + d.length ≤ mem.length := by
  unfold store at h
  split at h
  · assumption
  · cases h

/-- Writing at the frontier of a region filled from its start moves the frontier. -/
theorem store_frontier {w old d : List α} (h : w.length + d.length ≤ old.length) :
    store (w ++ old.drop w.length) w.length d = some ((w ++ d) ++ old.drop (w ++ d).length) := by
  unfold store
  rw [if_pos (by simp; omega)]
  simp [List.drop_append]

theorem store_zero {old d : List α} (h : d.length ≤ old.length) :
    store old 0 d = some (d ++ old.drop d.length) := by
  unfold store
  rw [if_pos (by omega)]
  simp

@[simp] theorem length_load (written : List α) (old : Nat → α) (off len : Nat) :
    (load written old off len).length = len := by simp [load]

/-- Reads inside the written prefix see what was written. -/
theorem load_written {written : List α} {old : Nat → α} {off len : Nat} (h : off + len ≤ written.length) :
    load written old off len = (written.drop off).take len := by
  apply List.ext_getElem
  · simp; omega
  · intro i h1 h2
    simp only [length_load] at h1
    simp [load, List.getElem_take, List.getElem_drop, List.getD_eq_getElem?_getD,
      List.getElem?_eq_getElem (show off + i < written.length by omega)]

end Memory
