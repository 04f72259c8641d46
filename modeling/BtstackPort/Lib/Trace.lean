import Mathlib.Data.List.Induction
/-!
# Rules a log obeys entry by entry

`Throughout Q log`: every entry `c` of the log satisfies `Q pre c`, where `pre` is what was logged before it.
A log grows at its end, so only new entries need to be looked at (`throughout_append`, `throughout_snoc`).

`Since A B log`: the log holds an `A` with no `B` after it. `Before A B log`: it holds an `A` before its last `B`. These
too are decided by the last entry and what was so before it (`since_snoc`, `before_snoc`).
-/

namespace Trace

variable {κ : Type*} {Q : List κ → κ → Prop}

def Throughout (Q : List κ → κ → Prop) (log : List κ) : Prop :=
  ∀ pre c post, log = pre ++ c :: post → Q pre c

@[simp] theorem throughout_nil : Throughout Q [] := by
  intro pre c post h
  simp at h

theorem throughout_append {log new : List κ} :
    Throughout Q (log ++ new) ↔ Throughout Q log ∧ Throughout (fun pre => Q (log ++ pre)) new := by
  constructor
  · intro h
    refine ⟨?_, ?_⟩
    · rintro pre c post rfl
      exact h pre c (post ++ new) (by simp)
    · rintro pre c post rfl
      exact h (log ++ pre) c post (by simp)
  · rintro ⟨hlog, hnew⟩ pre c post h
    rcases List.append_eq_append_iff.1 h with ⟨mid, rfl, hmid⟩ | ⟨mid, hmid, hpost⟩
    · exact hnew mid c post hmid
    · cases mid with
      | nil =>
        -- `c` is the first of the new entries
        simp only [List.append_nil] at hmid
        simp only [List.nil_append] at hpost
        simpa [hmid] using hnew [] c post hpost.symm
      | cons d mid =>
        simp only [List.cons_append, List.cons.injEq] at hpost
        exact hlog pre c mid (by rw [hmid, hpost.1])

theorem throughout_cons {c : κ} {log : List κ} :
    Throughout Q (c :: log) ↔ Q [] c ∧ Throughout (fun pre => Q (c :: pre)) log := by
  constructor
  · intro h
    refine ⟨h [] c log rfl, ?_⟩
    rintro pre d post rfl
    exact h (c :: pre) d post rfl
  · rintro ⟨hc, hlog⟩ pre d post h
    cases pre with
    | nil =>
      simp only [List.nil_append, List.cons.injEq] at h
      rw [← h.1]
      exact hc
    | cons d' pre =>
      simp only [List.cons_append, List.cons.injEq] at h
      obtain ⟨rfl, rfl⟩ := h
      exact hlog pre d post rfl

theorem throughout_snoc {log : List κ} {c : κ} : Throughout Q (log ++ [c]) ↔ Throughout Q log ∧ Q log c := by
  simp [throughout_append, throughout_cons]

/-- The rule at one entry, by its position. -/
theorem Throughout.get {log : List κ} (h : Throughout Q log) {i : Nat} {c : κ} (hi : log[i]? = some c) :
    Q (log.take i) c := by
  obtain ⟨hlt, hc⟩ := List.getElem?_eq_some_iff.1 hi
  apply h (log.take i) c (log.drop (i + 1))
  rw [← hc, ← List.drop_eq_getElem_cons hlt, List.take_append_drop]

/-- Entries that satisfy the rule wherever they stand. -/
theorem throughout_of_forall {log : List κ} (h : ∀ c ∈ log, ∀ pre, Q pre c) : Throughout Q log := by
  rintro pre c post rfl
  exact h c (by simp) pre

theorem Throughout.append_free {log new : List κ} (h : Throughout Q log) (hnew : ∀ c ∈ new, ∀ pre, Q pre c) :
    Throughout Q (log ++ new) :=
  throughout_append.2 ⟨h, throughout_of_forall fun c hc pre => hnew c hc (log ++ pre)⟩

/-! ## Since -/

/-- Where the last entry of a log stands. -/
theorem snoc_eq_append_cons {log pre post : List κ} {c d : κ} :
    log ++ [c] = pre ++ d :: post ↔
      (post = [] ∧ log = pre ∧ c = d) ∨ ∃ post', post = post' ++ [c] ∧ log = pre ++ d :: post' := by
  constructor
  · intro h
    rcases List.eq_nil_or_concat post with rfl | ⟨post', c', rfl⟩
    · obtain ⟨hpre, hlast⟩ := List.append_inj' h rfl
      exact Or.inl ⟨rfl, hpre, by simpa using hlast⟩
    · have hsplit : log ++ [c] = (pre ++ d :: post') ++ [c'] := by simpa using h
      obtain ⟨hlog, hlast⟩ := List.append_inj' hsplit rfl
      obtain rfl : c = c' := by simpa using hlast
      exact Or.inr ⟨post', by simp, hlog⟩
  · rintro (⟨rfl, rfl, rfl⟩ | ⟨post', rfl, rfl⟩)
    · rfl
    · simp

def Since (A B : κ → Prop) (log : List κ) : Prop :=
  ∃ pre c post, log = pre ++ c :: post ∧ A c ∧ ∀ d ∈ post, ¬ B d

variable {A B : κ → Prop}

@[simp] theorem since_nil : ¬ Since A B [] := by
  rintro ⟨pre, c, post, h, -⟩
  simp at h

@[simp] theorem since_snoc {log : List κ} {c : κ} : Since A B (log ++ [c]) ↔ A c ∨ (Since A B log ∧ ¬ B c) := by
  constructor
  · rintro ⟨pre, d, post, h, hd, hpost⟩
    rcases snoc_eq_append_cons.1 h with ⟨rfl, rfl, rfl⟩ | ⟨post', rfl, rfl⟩
    · exact Or.inl hd
    · exact Or.inr ⟨⟨pre, d, post', rfl, hd, fun d hd => hpost d (by simp [hd])⟩, hpost c (by simp)⟩
  · rintro (hc | ⟨⟨pre, d, post, rfl, hd, hpost⟩, hc⟩)
    · exact ⟨log, c, [], rfl, hc, by simp⟩
    · refine ⟨pre, d, post ++ [c], by simp, hd, ?_⟩
      intro d' hd'
      rcases List.mem_append.1 hd' with hd' | hd'
      · exact hpost d' hd'
      · rw [List.mem_singleton.1 hd']
        exact hc

/-- Entries that are neither change nothing. -/
theorem since_append_ignored {log new : List κ} (hA : ∀ c ∈ new, ¬ A c) (hB : ∀ c ∈ new, ¬ B c) :
    Since A B (log ++ new) ↔ Since A B log := by
  induction new using List.reverseRecOn with
  | nil => simp
  | append_singleton new c ih =>
    rw [← List.append_assoc, since_snoc, ih (fun d hd => hA d (by simp [hd])) fun d hd => hB d (by simp [hd])]
    simp [hA c (by simp), hB c (by simp)]

def Before (A B : κ → Prop) (log : List κ) : Prop :=
  ∃ pre c post, log = pre ++ c :: post ∧ B c ∧ (∀ d ∈ post, ¬ B d) ∧ ∃ a ∈ pre, A a

@[simp] theorem before_snoc {log : List κ} {c : κ} :
    Before A B (log ++ [c]) ↔ (B c ∧ ∃ a ∈ log, A a) ∨ (¬ B c ∧ Before A B log) := by
  constructor
  · rintro ⟨pre, d, post, h, hd, hpost, ha⟩
    rcases snoc_eq_append_cons.1 h with ⟨rfl, rfl, rfl⟩ | ⟨post', rfl, rfl⟩
    · exact Or.inl ⟨hd, ha⟩
    · exact Or.inr ⟨hpost c (by simp), pre, d, post', rfl, hd, fun d hd => hpost d (by simp [hd]), ha⟩
  · rintro (⟨hc, ha⟩ | ⟨hc, pre, d, post, rfl, hd, hpost, ha⟩)
    · exact ⟨log, c, [], rfl, hc, by simp, ha⟩
    · refine ⟨pre, d, post ++ [c], by simp, hd, ?_, ha⟩
      intro d' hd'
      rcases List.mem_append.1 hd' with hd' | hd'
      · exact hpost d' hd'
      · rw [List.mem_singleton.1 hd']
        exact hc

theorem before_append_ignored {log new : List κ} (hB : ∀ c ∈ new, ¬ B c) :
    Before A B (log ++ new) ↔ Before A B log := by
  induction new using List.reverseRecOn with
  | nil => simp
  | append_singleton new c ih =>
    rw [← List.append_assoc, before_snoc, ih fun d hd => hB d (by simp [hd])]
    simp [hB c (by simp)]

/-- Without a `B` there is no last one. -/
theorem Before.exists {log : List κ} (h : Before A B log) : (∃ a ∈ log, A a) ∧ ∃ b ∈ log, B b := by
  obtain ⟨pre, c, post, rfl, hc, -, a, ha, hA⟩ := h
  exact ⟨⟨a, by simp [ha], hA⟩, c, by simp, hc⟩

end Trace
