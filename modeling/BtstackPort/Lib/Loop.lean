import BtstackPort.Lib.Machine
/-!
# Loops that can fault

`whileLoop cond body fuel` runs `body` while `cond` holds, at most `fuel` times; `Iterates cond body n s t` says that
`n` iterations lead from `s` to `t`. The fuel is a bound, not part of what the loop means: as soon as it covers a
measure that every iteration lowers, the loop returns exactly the states that some number of iterations leads to and
in which the condition fails (`whileLoop_returns`), and faults exactly where an iteration does (`whileLoop_faults`).
-/

namespace FaultMachine

universe u
variable {σ : Type u} {φ : Type*}

def whileLoop (cond : σ → Bool) (body : σ → Except φ σ) : Nat → σ → Except φ σ
  | 0, s => .ok s
  | fuel + 1, s => if cond s then body s >>= whileLoop cond body fuel else .ok s

/-- `n` iterations lead from `s` to `t`; the condition holds before each of them. -/
inductive Iterates (cond : σ → Bool) (body : σ → Except φ σ) : Nat → σ → σ → Prop
  | zero (s : σ) : Iterates cond body 0 s s
  | succ {n : Nat} {s t u : σ} :
    cond s = true → body s = .ok t → Iterates cond body n t u → Iterates cond body (n + 1) s u

variable {cond : σ → Bool} {body : σ → Except φ σ}

namespace Iterates

theorem inv {I : σ → Prop} (hI : ∀ s t, I s → cond s = true → body s = .ok t → I t) {n : Nat} {s t : σ}
    (h : Iterates cond body n s t) (hs : I s) : I t := by
  induction h with
  | zero s => exact hs
  | succ hc hb _ ih => exact ih (hI _ _ hs hc hb)

/-- Every iteration lowers the measure by at least `d`. -/
theorem measure {I : σ → Prop} {μ : σ → Nat} {d : Nat}
    (hI : ∀ s t, I s → cond s = true → body s = .ok t → I t ∧ μ t + d ≤ μ s) {n : Nat} {s t : σ}
    (h : Iterates cond body n s t) (hs : I s) : n * d + μ t ≤ μ s := by
  induction h with
  | zero s => omega
  | succ hc hb _ ih =>
    obtain ⟨ht, hlt⟩ := hI _ _ hs hc hb
    have hrest := ih ht
    rw [Nat.succ_mul]
    omega

theorem zero_of_cond {n : Nat} {s t : σ} (h : Iterates cond body n s t) (hs : cond s = false) : n = 0 := by
  cases h with
  | zero => rfl
  | succ hc =>
    rw [hs] at hc
    cases hc

end Iterates

/-- What the loop returns has been reached by iterations; if the fuel was not used up, the condition fails there. -/
theorem whileLoop_iterates {fuel : Nat} {s t : σ} (h : whileLoop cond body fuel s = .ok t) :
    ∃ n ≤ fuel, Iterates cond body n s t ∧ (n < fuel → cond t = false) := by
  induction fuel generalizing s with
  | zero =>
    cases h
    exact ⟨0, Nat.le_refl 0, .zero _, fun hlt => absurd hlt (Nat.lt_irrefl 0)⟩
  | succ fuel ih =>
    unfold whileLoop at h
    split at h
    · rename_i hc
      obtain ⟨u, hu, ht⟩ := bind_returns.1 h
      obtain ⟨n, hn, hit, hend⟩ := ih ht
      exact ⟨n + 1, by omega, .succ hc hu hit, fun hlt => hend (by omega)⟩
    · rename_i hc
      cases h
      exact ⟨0, Nat.zero_le _, .zero _, fun _ => by simpa using hc⟩

/-- Enough iterations, and the condition fails: this is what the loop returns. -/
theorem whileLoop_of_iterates {fuel n : Nat} {s t : σ} (h : Iterates cond body n s t) (ht : cond t = false)
    (hfuel : n ≤ fuel) : whileLoop cond body fuel s = .ok t := by
  induction h generalizing fuel with
  | zero s =>
    cases fuel with
    | zero => rfl
    | succ fuel => rw [whileLoop, if_neg (by simp [ht])]
  | succ hc hb _ ih =>
    cases fuel with
    | zero => omega
    | succ fuel =>
      rw [whileLoop, if_pos hc, hb]
      exact ih ht (by omega)

/-- Enough iterations, and the body faults: so does the loop. -/
theorem whileLoop_of_fault {fuel n : Nat} {s t : σ} {f : φ} (h : Iterates cond body n s t) (hc : cond t = true)
    (hf : body t = .error f) (hfuel : n < fuel) : whileLoop cond body fuel s = .error f := by
  induction h generalizing fuel with
  | zero s =>
    cases fuel with
    | zero => omega
    | succ fuel =>
      rw [whileLoop, if_pos hc, hf]
      rfl
  | succ hcs hb _ ih =>
    cases fuel with
    | zero => omega
    | succ fuel =>
      rw [whileLoop, if_pos hcs, hb]
      exact ih hc hf (by omega)

/-- A fault of the loop is a fault of its body, after some iterations. -/
theorem whileLoop_faults {fuel : Nat} {s : σ} {f : φ} (h : whileLoop cond body fuel s = .error f) :
    ∃ n t, Iterates cond body n s t ∧ cond t = true ∧ body t = .error f := by
  induction fuel generalizing s with
  | zero => cases h
  | succ fuel ih =>
    unfold whileLoop at h
    split at h
    · rename_i hc
      rcases bind_faults.1 h with hf | ⟨u, hu, hf⟩
      · exact ⟨0, s, .zero s, hc, hf⟩
      · obtain ⟨n, t, hit, hct, hft⟩ := ih hf
        exact ⟨n + 1, t, .succ hc hu hit, hct, hft⟩
    · cases h

/-- **Meaning of the loop**: with fuel for the measure, the loop returns exactly the states in which the condition
fails and to which iterations lead. -/
theorem whileLoop_returns {I : σ → Prop} {μ : σ → Nat} (hpos : ∀ s, I s → cond s = true → 0 < μ s)
    (hI : ∀ s t, I s → cond s = true → body s = .ok t → I t ∧ μ t + 1 ≤ μ s) {fuel : Nat} {s t : σ} (hs : I s)
    (hfuel : μ s ≤ fuel) :
    whileLoop cond body fuel s = .ok t ↔ ∃ n, Iterates cond body n s t ∧ cond t = false := by
  constructor
  · intro h
    obtain ⟨n, hn, hit, hend⟩ := whileLoop_iterates h
    refine ⟨n, hit, ?_⟩
    have hμ := hit.measure hI hs
    by_cases hlt : n < fuel
    · exact hend hlt
    · -- the fuel is used up, and so is the measure
      have hIt := hit.inv (fun s t hs hc hb => (hI s t hs hc hb).1) hs
      by_contra hc
      have hmore := hpos t hIt (by simpa using hc)
      omega
  · rintro ⟨n, hit, ht⟩
    have hμ := hit.measure hI hs
    exact whileLoop_of_iterates hit ht (by omega)

/-- **Total loop rule**: when the condition and the invariant make the body return and keep the invariant, the loop
returns in a state that iterations lead to. -/
theorem whileLoop_total {I : σ → Prop} (hI : ∀ s, I s → cond s = true → ∃ t, body s = .ok t ∧ I t) (fuel : Nat) {s : σ}
    (hs : I s) : ∃ t, whileLoop cond body fuel s = .ok t ∧ I t := by
  induction fuel generalizing s with
  | zero => exact ⟨s, rfl, hs⟩
  | succ fuel ih =>
    unfold whileLoop
    split
    · rename_i hc
      obtain ⟨u, hu, hIu⟩ := hI s hs hc
      obtain ⟨t, ht, hIt⟩ := ih hIu
      exact ⟨t, bind_returns.2 ⟨u, hu, ht⟩, hIt⟩
    · exact ⟨s, rfl, hs⟩

end FaultMachine
