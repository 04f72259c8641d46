import Mathlib.Data.List.Induction
/-!
# Lifecycle of a resource

A resource is initialised, started and stopped any number of times, and closed; then it may be initialised
again. `step` is the automaton of the calls that are in order, `run` accepts a trace of calls or rejects it.

`wellBracketed_of_run`: what acceptance means for the trace itself — `init` and `close` alternate, `start` and
`stop` happen only in between, and there is a `stop` or a `close` between any two `start`s.
-/

namespace Lifecycle

inductive Op where
  | init | start | stop | close
deriving DecidableEq, Repr

inductive Phase where
  | closed | idle | running
deriving DecidableEq, Repr

/-- A `stop` is in order whether or not the resource is running. -/
def step : Phase → Op → Option Phase
  | .closed, .init => some .idle
  | .idle, .start => some .running
  | .idle, .stop | .running, .stop => some .idle
  | .idle, .close | .running, .close => some .closed
  | _, _ => none

def run : Phase → List Op → Option Phase
  | p, [] => some p
  | p, o :: os => (step p o).bind fun q => run q os

theorem run_append (p : Phase) (os os' : List Op) : run p (os ++ os') = (run p os).bind fun q => run q os' := by
  induction os generalizing p with
  | nil => rfl
  | cons o os ih =>
    simp only [List.cons_append, run, Option.bind_assoc]
    cases step p o with
    | none => rfl
    | some q => exact ih q

theorem run_append_eq_some {p r : Phase} {os os' : List Op} :
    run p (os ++ os') = some r ↔ ∃ q, run p os = some q ∧ run q os' = some r := by
  rw [run_append, Option.bind_eq_some_iff]

theorem run_cons_eq_some {p r : Phase} {o : Op} {os : List Op} :
    run p (o :: os) = some r ↔ ∃ q, step p o = some q ∧ run q os = some r := by
  rw [run, Option.bind_eq_some_iff]

/-! ## What acceptance means -/

/-- `l` is `a, b, a, b, …`. -/
def Alternate {α : Type*} (a b : α) : List α → Prop
  | [] => True
  | x :: l => x = a ∧ Alternate b a l

def Op.isBoundary : Op → Bool
  | .init | .close => true
  | _ => false

structure WellBracketed (trace : List Op) : Prop where
  alternate : Alternate .init .close (trace.filter Op.isBoundary)
  /-- After an `init` that no `close` has followed yet. -/
  between : ∀ pre op post, trace = pre ++ op :: post → op = .start ∨ op = .stop →
    ∃ before after, pre = before ++ .init :: after ∧ .close ∉ after
  no_double_start : ∀ pre mid post, trace = pre ++ .start :: (mid ++ .start :: post) →
    .stop ∈ mid ∨ .close ∈ mid

/-- The boundary call that comes next in a phase, and the one after it. -/
def nextBoundary : Phase → Op × Op
  | .closed => (.init, .close)
  | _ => (.close, .init)

theorem alternate_of_run {p q : Phase} {os : List Op} (h : run p os = some q) :
    Alternate (nextBoundary p).1 (nextBoundary p).2 (os.filter Op.isBoundary) := by
  induction os generalizing p with
  | nil => exact trivial
  | cons o os ih =>
    obtain ⟨m, hstep, hrest⟩ := run_cons_eq_some.1 h
    have hos := ih hrest
    cases p <;> cases o <;> cases hstep
    · exact ⟨rfl, hos⟩
    · exact hos
    · exact hos
    · exact ⟨rfl, hos⟩
    · exact hos
    · exact ⟨rfl, hos⟩

/-- An open resource was initialised and not closed since. -/
theorem opened_of_run {p : Phase} {os : List Op} (h : run .closed os = some p) (hp : p ≠ .closed) :
    ∃ before after, os = before ++ .init :: after ∧ .close ∉ after := by
  induction os using List.reverseRecOn generalizing p with
  | nil => cases h; exact absurd rfl hp
  | append_singleton os o ih =>
    obtain ⟨m, hos, ho⟩ := run_append_eq_some.1 h
    obtain ⟨q, hstep, hq⟩ := run_cons_eq_some.1 ho
    cases hq
    by_cases hinit : o = .init
    · subst hinit
      exact ⟨os, [], rfl, by simp⟩
    · -- any other call leaves the resource open only if it was
      have hm : m ≠ .closed := by
        rintro rfl
        cases o <;> cases hstep
        exact hinit rfl
      have hclose : o ≠ .close := by
        rintro rfl
        cases m <;> cases hstep
        · exact hp rfl
        · exact hp rfl
      obtain ⟨before, after, rfl, hafter⟩ := ih hos hm
      refine ⟨before, after ++ [o], by simp, ?_⟩
      simp only [List.mem_append, List.mem_singleton, not_or]
      exact ⟨hafter, Ne.symm hclose⟩

theorem wellBracketed_of_run {p : Phase} {trace : List Op} (h : run .closed trace = some p) :
    WellBracketed trace where
  alternate := alternate_of_run h
  between := by
    rintro pre op post rfl hop
    obtain ⟨m, hpre, hrest⟩ := run_append_eq_some.1 h
    obtain ⟨q, hstep, -⟩ := run_cons_eq_some.1 hrest
    apply opened_of_run hpre
    rintro rfl
    rcases hop with rfl | rfl <;> cases hstep
  no_double_start := by
    rintro pre mid post rfl
    obtain ⟨m, -, hrest⟩ := run_append_eq_some.1 h
    obtain ⟨q, hstep, hrest⟩ := run_cons_eq_some.1 hrest
    obtain ⟨n, hmid, hrest⟩ := run_append_eq_some.1 hrest
    obtain ⟨r, hstep', -⟩ := run_cons_eq_some.1 hrest
    have hq : q = .running := by cases m <;> cases hstep; rfl
    have hn : n = .idle := by cases n <;> cases hstep'; rfl
    subst hq hn
    cases mid with
    | nil => cases hmid
    | cons o mid =>
      -- a running resource takes no call but `stop` and `close`
      obtain ⟨k, ho, -⟩ := run_cons_eq_some.1 hmid
      cases o <;> cases ho
      · exact Or.inl List.mem_cons_self
      · exact Or.inr List.mem_cons_self

end Lifecycle
