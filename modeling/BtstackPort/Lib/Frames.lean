import Mathlib.Algebra.BigOperators.Group.List.Basic
import Mathlib.Logic.Relation
/-!
# Byte streams cut into frames, and the queue of frames they stand for

`cut s l` splits a list into blocks of `s` elements. A byte FIFO that is only ever filled with
whole frames of one size and drained one frame at a time *is* a queue of frames: `FrameQueue` is that
abstract queue, with the frames it was given, the frames it has handed out and the frames it still
holds; its invariant (`balance`) is a field, so "in order, whole, once" cannot be violated.
-/

namespace Framing

variable {α : Type*}

/-! ## Cutting -/

/-- The first `n` blocks of `s` elements. -/
def blocks (s : Nat) : Nat → List α → List (List α)
  | 0, _ => []
  | n + 1, l => l.take s :: blocks s n (l.drop s)

/-- All whole blocks of `s` elements. -/
def cut (s : Nat) (l : List α) : List (List α) := blocks s (l.length / s) l

/-- Every frame has `s` elements. -/
def Uniform (s : Nat) (fs : List (List α)) : Prop := ∀ f ∈ fs, f.length = s

instance (s : Nat) (fs : List (List α)) : Decidable (Uniform s fs) :=
  inferInstanceAs (Decidable (∀ f ∈ fs, f.length = s))

theorem uniform_nil (s : Nat) : Uniform s ([] : List (List α)) := by simp [Uniform]

@[simp] theorem uniform_cons {s : Nat} {f : List α} {fs : List (List α)} :
    Uniform s (f :: fs) ↔ f.length = s ∧ Uniform s fs := by simp [Uniform]

@[simp] theorem uniform_append {s : Nat} {fs gs : List (List α)} :
    Uniform s (fs ++ gs) ↔ Uniform s fs ∧ Uniform s gs := by
  simp only [Uniform, List.mem_append]
  constructor
  · intro h; exact ⟨fun f hf => h f (Or.inl hf), fun f hf => h f (Or.inr hf)⟩
  · rintro ⟨h1, h2⟩ f (hf | hf)
    · exact h1 f hf
    · exact h2 f hf

theorem blocks_append (s k n : Nat) (l : List α) :
    blocks s (k + n) l = blocks s k l ++ blocks s n (l.drop (k * s)) := by
  induction k generalizing l with
  | zero => simp [blocks]
  | succ k ih =>
    rw [Nat.succ_add, blocks, blocks, ih, List.drop_drop, Nat.succ_mul, Nat.add_comm s]
    rfl

theorem blocks_uniform {s n : Nat} {l : List α} (h : n * s ≤ l.length) : Uniform s (blocks s n l) := by
  induction n generalizing l with
  | zero => exact uniform_nil s
  | succ n ih =>
    rw [Nat.succ_mul] at h
    simp only [blocks, uniform_cons, List.length_take]
    exact ⟨by omega, ih (by rw [List.length_drop]; omega)⟩

theorem flatten_blocks {s n : Nat} {l : List α} (h : l.length = n * s) : (blocks s n l).flatten = l := by
  induction n generalizing l with
  | zero => rw [Nat.zero_mul, List.length_eq_zero_iff] at h; rw [h]; rfl
  | succ n ih =>
    rw [Nat.succ_mul] at h
    simp only [blocks, List.flatten_cons]
    rw [ih (by rw [List.length_drop]; omega), List.take_append_drop]

theorem cut_uniform (s : Nat) (l : List α) : Uniform s (cut s l) :=
  blocks_uniform (Nat.div_mul_le_self _ _)

theorem flatten_cut {s n : Nat} {l : List α} (hs : 0 < s) (h : l.length = n * s) : (cut s l).flatten = l := by
  unfold cut
  rw [h, Nat.mul_div_cancel _ hs]
  exact flatten_blocks h

theorem length_flatten_uniform {s : Nat} {fs : List (List α)} (h : Uniform s fs) :
    fs.flatten.length = fs.length * s := by
  induction fs with
  | nil => simp
  | cons f fs ih =>
    rw [uniform_cons] at h
    simp [ih h.2, h.1, Nat.succ_mul, Nat.add_comm]

/-- Taking whole frames off a stream of frames. -/
theorem blocks_flatten {s k : Nat} {fs : List (List α)} (h : Uniform s fs) (hk : k ≤ fs.length) :
    blocks s k fs.flatten = fs.take k := by
  induction k generalizing fs with
  | zero => rfl
  | succ k ih =>
    cases fs with
    | nil => simp at hk
    | cons f fs =>
      rw [uniform_cons] at h
      obtain ⟨rfl, hfs⟩ := h
      simp [blocks, ih hfs (by simpa using hk)]

theorem drop_flatten {s k : Nat} {fs : List (List α)} (h : Uniform s fs) (hk : k ≤ fs.length) :
    fs.flatten.drop (k * s) = (fs.drop k).flatten := by
  have hlen : (fs.take k).flatten.length = k * s := by
    rw [length_flatten_uniform fun f hf => h f (List.mem_of_mem_take hf), List.length_take, Nat.min_eq_left hk]
  conv => lhs; rw [← List.take_append_drop k fs, List.flatten_append]
  rw [List.drop_append, hlen, List.drop_eq_nil_of_le (by omega)]
  simp

theorem Uniform.drop {s : Nat} {fs : List (List α)} (h : Uniform s fs) (k : Nat) : Uniform s (fs.drop k) :=
  fun f hf => h f (List.mem_of_mem_drop hf)

/-! ## The abstract queue of frames -/

/-- A queue of frames with its history: what was stored, what was served, what is left. -/
structure FrameQueue (α : Type*) where
  stored : List (List α)
  served : List (List α)
  pending : List (List α)
  /-- In arrival order, each whole and once. -/
  balance : stored = served ++ pending

namespace FrameQueue

def empty : FrameQueue α := ⟨[], [], [], rfl⟩

/-- Frames arrive together. -/
def push (q : FrameQueue α) (fs : List (List α)) : FrameQueue α :=
  ⟨q.stored ++ fs, q.served, q.pending ++ fs, by rw [q.balance, List.append_assoc]⟩

/-- The first `k` pending frames are handed out. -/
def pop (q : FrameQueue α) (k : Nat) : FrameQueue α :=
  ⟨q.stored, q.served ++ q.pending.take k, q.pending.drop k, by
    rw [List.append_assoc, List.take_append_drop, q.balance]⟩

/-- What a frame queue can do. -/
inductive Step : FrameQueue α → FrameQueue α → Prop
  | reset (q : FrameQueue α) : Step q empty
  | push (q : FrameQueue α) (fs : List (List α)) : Step q (q.push fs)
  | pop (q : FrameQueue α) (k : Nat) : Step q (q.pop k)

theorem served_eq_take (q : FrameQueue α) : q.served = q.stored.take q.served.length := by
  rw [q.balance]; simp

theorem pending_eq_drop (q : FrameQueue α) : q.pending = q.stored.drop q.served.length := by
  rw [q.balance]; simp

end FrameQueue

end Framing
