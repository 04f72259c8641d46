import BtstackPort.Lib.Machine
/-!
# Components of a machine

The events of a machine are the business of several components. `part e` is what the event `e` of the whole machine is
to one of them, `none` when it does not concern it, and `R s a` says that the component is in state `a` while the whole
machine is in state `s`.

* `Run.component` — when the steps of the whole machine are steps of the component on its own events and leave `R` alone
  on all others, every run of the whole machine holds a run of the component on its part of the events;
* `Run.of_progress` — events that no step refuses have a run;
* `bind_commutes` — a change of the state that two computations commute with, their sequence commutes with.
-/

namespace FaultMachine

variable {σ τ ε κ φ ψ : Type*} {step : σ → ε → Except φ σ} {cstep : τ → κ → Except ψ τ} {ok : σ → ε → Prop}
  {cok : τ → κ → Prop}

/-- Steps of the whole machine on events of the component are steps of the component, all others leave it alone. -/
structure IsComponent (step : σ → ε → Except φ σ) (ok : σ → ε → Prop) (cstep : τ → κ → Except ψ τ)
    (cok : τ → κ → Prop) (part : ε → Option κ) (R : σ → τ → Prop) : Prop where
  own : ∀ s e t a k, R s a → ok s e → part e = some k → step s e = .ok t →
    cok a k ∧ ∃ b, cstep a k = .ok b ∧ R t b
  other : ∀ s e t a, R s a → ok s e → part e = none → step s e = .ok t → R t a

variable {part : ε → Option κ} {R : σ → τ → Prop}

/-- **Component rule**. -/
theorem Run.component (hc : IsComponent step ok cstep cok part R) {s t : σ} {a : τ} {es : List ε}
    (h : Run step ok s es t) (hR : R s a) : ∃ b, Run cstep cok a (es.filterMap part) b ∧ R t b := by
  induction h generalizing a with
  | nil s => exact ⟨a, .nil a, hR⟩
  | @cons s t u e es hok he _ ih =>
    cases hpart : part e with
    | none =>
      rw [List.filterMap_cons_none hpart]
      exact ih (hc.other s e t a hR hok hpart he)
    | some k =>
      obtain ⟨hcok, b, hb, hRb⟩ := hc.own s e t a k hR hok hpart he
      obtain ⟨c, hrun, hRc⟩ := ih hRb
      rw [List.filterMap_cons_some hpart]
      exact ⟨c, .cons hcok hb hrun, hRc⟩

/-- **Progress rule**: when `I` and the event make every step return, be allowed and keep `I`, the events have a run. -/
theorem Run.of_progress {I : σ → Prop} {es : List ε}
    (hstep : ∀ s, I s → ∀ e ∈ es, ok s e ∧ ∃ t, step s e = .ok t ∧ I t) {s : σ} (hs : I s) :
    ∃ t, Run step ok s es t ∧ I t := by
  induction es generalizing s with
  | nil => exact ⟨s, .nil s, hs⟩
  | cons e es ih =>
    obtain ⟨hok, t, ht, hIt⟩ := hstep s hs e (by simp)
    obtain ⟨u, hu, hIu⟩ := ih (fun s hs e he => hstep s hs e (by simp [he])) hIt
    exact ⟨u, .cons hok ht hu, hIu⟩

section Bind
universe u
variable {α β : Type u}

theorem bind_commutes {x x' : Except φ α} {f f' : α → Except φ β} {g : α → α} {g' : β → β} (hx : x' = x.map g)
    (hf : ∀ a, f' (g a) = (f a).map g') : (x' >>= f') = (x >>= f).map g' := by
  subst hx
  cases x with
  | error e => rfl
  | ok a => exact hf a

end Bind

end FaultMachine
