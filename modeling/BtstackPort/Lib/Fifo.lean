/-!
# Bounded FIFO buffers

`BoundedFifo α` is the interface of a FIFO of `α`s with a fixed capacity, together with the list a
buffer represents (`contents`) and the laws its users may rely on: a write is all-or-nothing, a
read returns `min requested available` elements, a reset empties. `listFifo` is the reference
implementation, so the laws are consistent.
-/

structure BoundedFifo (α : Type) where
  Buf : Type
  /-- A buffer in static storage that no `init` has seen: empty, no room. -/
  zero : Buf
  init : Nat → Buf
  reset : Buf → Buf
  /-- Status (`0` = stored) and the buffer afterwards. -/
  write : Buf → List α → Nat × Buf
  /-- The elements read and the buffer afterwards. -/
  read : Buf → Nat → List α × Buf
  available : Buf → Nat
  contents : Buf → List α
  capacity : Buf → Nat
  contents_le : ∀ b, (contents b).length ≤ capacity b
  available_eq : ∀ b, available b = (contents b).length
  contents_zero : contents zero = []
  capacity_zero : capacity zero = 0
  contents_init : ∀ n, contents (init n) = []
  capacity_init : ∀ n, capacity (init n) = n
  contents_reset : ∀ b, contents (reset b) = []
  capacity_reset : ∀ b, capacity (reset b) = capacity b
  write_status : ∀ b d, (write b d).1 = 0 ↔ (contents b).length + d.length ≤ capacity b
  contents_write : ∀ b d, contents (write b d).2 = if (write b d).1 = 0 then contents b ++ d else contents b
  capacity_write : ∀ b d, capacity (write b d).2 = capacity b
  read_data : ∀ b n, (read b n).1 = (contents b).take n
  contents_read : ∀ b n, contents (read b n).2 = (contents b).drop n
  capacity_read : ∀ b n, capacity (read b n).2 = capacity b

namespace BoundedFifo

attribute [simp] available_eq contents_zero capacity_zero contents_init capacity_init contents_reset
  capacity_reset capacity_write read_data contents_read capacity_read

variable {α : Type} (F : BoundedFifo α)

theorem contents_write_ok {b : F.Buf} {d : List α} (h : (F.write b d).1 = 0) :
    F.contents (F.write b d).2 = F.contents b ++ d := by
  rw [F.contents_write, if_pos h]

theorem contents_write_fail {b : F.Buf} {d : List α} (h : (F.write b d).1 ≠ 0) :
    F.contents (F.write b d).2 = F.contents b := by
  rw [F.contents_write, if_neg h]

end BoundedFifo

/-! ## The reference implementation -/

/-- A list with its capacity; an overfull one cannot be built. -/
structure ListBuf (α : Type) where
  cap : Nat
  items : List α
  fits : items.length ≤ cap

namespace ListBuf

variable {α : Type}

def write (b : ListBuf α) (d : List α) : Nat × ListBuf α :=
  if h : b.items.length + d.length ≤ b.cap then (0, ⟨b.cap, b.items ++ d, by simpa using h⟩) else (1, b)

def read (b : ListBuf α) (n : Nat) : List α × ListBuf α :=
  (b.items.take n, ⟨b.cap, b.items.drop n, by have := b.fits; simp; omega⟩)

theorem write_status (b : ListBuf α) (d : List α) :
    (b.write d).1 = 0 ↔ b.items.length + d.length ≤ b.cap := by
  unfold write
  split <;> simp_all

theorem items_write (b : ListBuf α) (d : List α) :
    (b.write d).2.items = if (b.write d).1 = 0 then b.items ++ d else b.items := by
  unfold write
  split <;> simp

theorem cap_write (b : ListBuf α) (d : List α) : (b.write d).2.cap = b.cap := by
  unfold write
  split <;> rfl

end ListBuf

def listFifo (α : Type) : BoundedFifo α where
  Buf := ListBuf α
  zero := ⟨0, [], Nat.le_refl 0⟩
  init n := ⟨n, [], Nat.zero_le n⟩
  reset b := ⟨b.cap, [], Nat.zero_le _⟩
  write := ListBuf.write
  read := ListBuf.read
  available b := b.items.length
  contents := ListBuf.items
  capacity := ListBuf.cap
  contents_le := ListBuf.fits
  available_eq _ := rfl
  contents_zero := rfl
  capacity_zero := rfl
  contents_init _ := rfl
  capacity_init _ := rfl
  contents_reset _ := rfl
  capacity_reset _ := rfl
  write_status := ListBuf.write_status
  contents_write := ListBuf.items_write
  capacity_write := ListBuf.cap_write
  read_data _ _ := rfl
  contents_read _ _ := rfl
  capacity_read _ _ := rfl
