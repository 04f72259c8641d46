import Mathlib.Data.List.Basic
/-!
# Transducers

A transducer answers every input with some outputs, from a state. Two in a row are one: feeding the second after every
input of the first is the same as running the first to its end and the second on all it wrote (`run_andThen`).
-/

/-- A machine that answers every input with a list of outputs. -/
structure Transducer (σ α β : Type*) where
  step : σ → α → σ × List β

namespace Transducer

variable {σ τ α β γ : Type*}

/-- The state after all inputs, and all outputs. -/
def run (T : Transducer σ α β) : σ → List α → σ × List β
  | s, [] => (s, [])
  | s, a :: as => ((T.run (T.step s a).1 as).1, (T.step s a).2 ++ (T.run (T.step s a).1 as).2)

variable {T : Transducer σ α β}

@[simp] theorem run_nil (s : σ) : T.run s [] = (s, []) := rfl

theorem run_cons (s : σ) (a : α) (as : List α) :
    T.run s (a :: as) = ((T.run (T.step s a).1 as).1, (T.step s a).2 ++ (T.run (T.step s a).1 as).2) := rfl

theorem run_append (s : σ) (as bs : List α) :
    T.run s (as ++ bs) =
      ((T.run (T.run s as).1 bs).1, (T.run s as).2 ++ (T.run (T.run s as).1 bs).2) := by
  induction as generalizing s with
  | nil => rfl
  | cons a as ih => simp [run_cons, ih, List.append_assoc]

theorem run_snoc (s : σ) (as : List α) (a : α) :
    T.run s (as ++ [a]) =
      ((T.step (T.run s as).1 a).1, (T.run s as).2 ++ (T.step (T.run s as).1 a).2) := by
  simp [run_append, run_cons]

/-- The outputs of `T` are the inputs of `U`. -/
def andThen (T : Transducer σ α β) (U : Transducer τ β γ) : Transducer (σ × τ) α γ where
  step s a := (((T.step s.1 a).1, (U.run s.2 (T.step s.1 a).2).1), (U.run s.2 (T.step s.1 a).2).2)

/-- **Composition**: one after the other is one inside the other. -/
theorem run_andThen {U : Transducer τ β γ} (s : σ) (t : τ) (as : List α) :
    (T.andThen U).run (s, t) as =
      (((T.run s as).1, (U.run t (T.run s as).2).1), (U.run t (T.run s as).2).2) := by
  induction as generalizing s t with
  | nil => rfl
  | cons a as ih =>
    rw [run_cons, ih, run_cons, run_append]
    rfl

end Transducer
