import Mathlib.Data.List.Induction
import Mathlib.Logic.Relation
/-!
# Step machines that can fault

A machine is a step function `σ → ε → Except φ σ`: an event either leads to the next state or
runs into a fault `φ`, after which nothing is promised. `Run step ok s es t` says that the events
`es` take `s` to `t` without a fault, each of them allowed (`ok`) in the state that receives it;
`ok` is what the environment promises.

* `Run.inv` — an invariant of every allowed step is an invariant of every run;
* `Run.simulates` — a machine whose every step is matched by abstract steps refines the abstract one;
* `Run.history` — the same for an invariant that also speaks about the events so far;
* `Run.iff_of_step` — a property that each step keeps exactly when it is allowed holds after exactly the
  allowed runs;
* `Run.iff_of_guard` — two guards that agree along the runs they allow allow the same runs;
* `Run.prefixes_iff` — a property of every state on the way holds exactly when every step was allowed;
* `Run.total_of_step`, `Run.total_eq_iff` — what the steps of a run add up to.
-/

namespace FaultMachine

variable {σ τ ε φ : Type*}

/-! ## Inverting `Except` computations -/

section Bind
universe u
variable {α β : Type u} {x : Except φ α} {f : α → Except φ β}

@[simp] theorem ok_bind (a : α) (f : α → Except φ β) : (Except.ok a >>= f) = f a := rfl

@[simp] theorem error_bind (e : φ) (f : α → Except φ β) : (Except.error e >>= f) = .error e := rfl

/-- A sequence returns iff both halves do. -/
theorem bind_returns {b : β} : (x >>= f) = .ok b ↔ ∃ a, x = .ok a ∧ f a = .ok b := by
  match x with
  | .ok a => simp
  | .error e => simp

/-- A sequence faults in its first half, or in its second after the first returned. -/
theorem bind_faults {e : φ} : (x >>= f) = .error e ↔ x = .error e ∨ ∃ a, x = .ok a ∧ f a = .error e := by
  match x with
  | .ok a => simp
  | .error e' => simp

end Bind

/-! ## Runs -/

/-- `es` takes `s` to `t`: no step faults and every event is allowed where it arrives. -/
inductive Run (step : σ → ε → Except φ σ) (ok : σ → ε → Prop) : σ → List ε → σ → Prop
  | nil (s : σ) : Run step ok s [] s
  | cons {s t u : σ} {e : ε} {es : List ε} :
    ok s e → step s e = .ok t → Run step ok t es u → Run step ok s (e :: es) u

variable {step : σ → ε → Except φ σ} {ok ok' : σ → ε → Prop}

theorem Run.inv {I : σ → Prop} (hstep : ∀ s e t, I s → ok s e → step s e = .ok t → I t)
    {s t : σ} {es : List ε} (h : Run step ok s es t) (hs : I s) : I t := by
  induction h with
  | nil s => exact hs
  | cons hok he _ ih => exact ih (hstep _ _ _ hs hok he)

theorem Run.mono (hok : ∀ s e, ok s e → ok' s e) {s t : σ} {es : List ε} (h : Run step ok s es t) :
    Run step ok' s es t := by
  induction h with
  | nil s => exact .nil s
  | cons ho he _ ih => exact .cons (hok _ _ ho) he ih

/-- **Forward simulation**: `R` relates the initial states and every allowed step is matched by a
sequence of abstract steps. -/
theorem Run.simulates {R : σ → τ → Prop} {astep : τ → τ → Prop}
    (hstep : ∀ s e t a, R s a → ok s e → step s e = .ok t → ∃ b, Relation.ReflTransGen astep a b ∧ R t b)
    {s t : σ} {es : List ε} (h : Run step ok s es t) {a : τ} (hR : R s a) :
    ∃ b, Relation.ReflTransGen astep a b ∧ R t b := by
  induction h generalizing a with
  | nil s => exact ⟨a, .refl, hR⟩
  | cons hok he _ ih =>
    obtain ⟨b, hab, hRb⟩ := hstep _ _ _ _ hR hok he
    obtain ⟨c, hbc, hRc⟩ := ih hRb
    exact ⟨c, hab.trans hbc, hRc⟩

/-! ## Runs cut in two -/

theorem run_append {s u : σ} {es es' : List ε} :
    Run step ok s (es ++ es') u ↔ ∃ t, Run step ok s es t ∧ Run step ok t es' u := by
  constructor
  · intro h
    induction es generalizing s with
    | nil => exact ⟨s, .nil s, h⟩
    | cons e es ih =>
      cases h with
      | cons hok he h =>
        obtain ⟨t, ht, hu⟩ := ih h
        exact ⟨t, .cons hok he ht, hu⟩
  · rintro ⟨t, ht, hu⟩
    induction ht with
    | nil s => exact hu
    | cons hok he _ ih => exact .cons hok he (ih hu)

theorem run_cons {s u : σ} {e : ε} {es : List ε} :
    Run step ok s (e :: es) u ↔ ok s e ∧ ∃ t, step s e = .ok t ∧ Run step ok t es u := by
  constructor
  · intro h
    cases h with
    | cons hok he h => exact ⟨hok, _, he, h⟩
  · rintro ⟨hok, t, he, h⟩
    exact .cons hok he h

theorem run_cons_of_ok {s t u : σ} {e : ε} {es : List ε} (he : step s e = .ok t) :
    Run step ok s (e :: es) u ↔ ok s e ∧ Run step ok t es u := by
  rw [run_cons, he]
  simp

theorem run_singleton {s u : σ} {e : ε} : Run step ok s [e] u ↔ ok s e ∧ step s e = .ok u := by
  constructor
  · intro h
    cases h with
    | cons hok he h => cases h; exact ⟨hok, he⟩
  · rintro ⟨hok, he⟩
    exact .cons hok he (.nil u)

theorem run_snoc {s u : σ} {es : List ε} {e : ε} :
    Run step ok s (es ++ [e]) u ↔ ∃ t, Run step ok s es t ∧ ok t e ∧ step t e = .ok u := by
  simp [run_append, run_singleton]

/-- **History rule**: an invariant of the state and of the events that led to it. -/
theorem Run.history {I : List ε → σ → Prop} {s : σ} (hnil : I [] s)
    (hsnoc : ∀ es t e u, Run step ok s es t → I es t → ok t e → step t e = .ok u → I (es ++ [e]) u)
    {es : List ε} {t : σ} (h : Run step ok s es t) : I es t := by
  induction es using List.reverseRecOn generalizing t with
  | nil => cases h; exact hnil
  | append_singleton es e ih =>
    obtain ⟨u, hu, hok, he⟩ := run_snoc.1 h
    exact hsnoc es u e t hu (ih hu) hok he

/-- The events determine the state. -/
theorem Run.unique {s t t' : σ} {es : List ε} (h : Run step ok s es t) (h' : Run step ok' s es t') : t = t' := by
  induction h generalizing t' with
  | nil s => cases h'; rfl
  | cons _ he _ ih =>
    cases h' with
    | cons _ he' h' =>
      rw [he] at he'
      cases he'
      exact ih h'

/-- **Exactness rule**: `G` holds after a run iff every step of it was allowed, when each step keeps `G` exactly
if it is allowed; `I` is what every step keeps. -/
theorem Run.iff_of_step {I G : σ → Prop}
    (hI : ∀ t e u, I t → step t e = .ok u → I u)
    (hG : ∀ t e u, I t → step t e = .ok u → (G u ↔ G t ∧ ok t e))
    {s t : σ} {es : List ε} (h : Run step (fun _ _ => True) s es t) (hIs : I s) (hGs : G s) :
    G t ↔ Run step ok s es t := by
  suffices hIt : I t ∧ (G t ↔ Run step ok s es t) from hIt.2
  refine h.history (I := fun es t => I t ∧ (G t ↔ Run step ok s es t)) ⟨hIs, by simp [hGs, Run.nil]⟩ ?_
  intro es t e u hrun ⟨hIt, ih⟩ _ he
  refine ⟨hI t e u hIt he, ?_⟩
  rw [hG t e u hIt he, ih, run_snoc]
  constructor
  · rintro ⟨ht, hok⟩
    exact ⟨t, ht, hok, he⟩
  · rintro ⟨t', ht', hok, -⟩
    obtain rfl := hrun.unique ht'
    exact ⟨ht', hok⟩

/-- **Prefix rule**: `G` holds after every beginning of a run exactly when every step of the run was allowed. The
allowed steps keep `J`, which is more than `G`; and a step that leads from `J` to `G` was allowed. -/
theorem Run.prefixes_iff {base : σ → ε → Prop} {J G : List ε → σ → Prop} {s : σ} (hnil : J [] s)
    (hJG : ∀ es t, J es t → G es t)
    (hkeep : ∀ es t e u, J es t → base t e → ok t e → step t e = .ok u → J (es ++ [e]) u)
    (hneed : ∀ es t e u, J es t → base t e → step t e = .ok u → G (es ++ [e]) u → ok t e)
    {es : List ε} {t : σ} (h : Run step base s es t) :
    (∀ es₁ u, es₁ <+: es → Run step base s es₁ u → G es₁ u) ↔ Run step ok s es t := by
  suffices hall : (Run step ok s es t → J es t) ∧
      ((∀ es₁ u, es₁ <+: es → Run step base s es₁ u → G es₁ u) ↔ Run step ok s es t) from hall.2
  refine h.history (I := fun es t => (Run step ok s es t → J es t) ∧
    ((∀ es₁ u, es₁ <+: es → Run step base s es₁ u → G es₁ u) ↔ Run step ok s es t)) ?_ ?_
  · refine ⟨fun _ => hnil, iff_of_true ?_ (.nil s)⟩
    intro es₁ u hpre hu
    obtain rfl := List.prefix_nil.1 hpre
    cases hu
    exact hJG [] s hnil
  · intro es t e u hrun ⟨hJ, ih⟩ hbase he
    have hlast : Run step base s (es ++ [e]) u := run_snoc.2 ⟨t, hrun, hbase, he⟩
    have hkept : Run step ok s (es ++ [e]) u → J (es ++ [e]) u := by
      intro hok
      obtain ⟨t', hok, hoke, -⟩ := run_snoc.1 hok
      obtain rfl := hrun.unique hok
      exact hkeep es t e u (hJ hok) hbase hoke he
    refine ⟨hkept, ?_, ?_⟩
    · intro hall
      have hok := ih.1 fun es₁ v hpre => hall es₁ v (hpre.trans (List.prefix_append es [e]))
      have hG := hall (es ++ [e]) u (List.prefix_refl _) hlast
      exact run_snoc.2 ⟨t, hok, hneed es t e u (hJ hok) hbase he hG, he⟩
    · intro hok es₁ v hpre hv
      rcases List.prefix_concat_iff.1 hpre with rfl | hpre
      · obtain rfl := hlast.unique hv
        exact hJG _ _ (hkept hok)
      · obtain ⟨t', hok', -⟩ := run_snoc.1 hok
        obtain rfl := hrun.unique hok'
        exact ih.2 hok' es₁ v hpre hv

/-- **Guard rule**: two guards that agree on every step taken from a state with `J` allow the same runs, when the
steps they allow keep `J`. -/
theorem Run.iff_of_guard {base : σ → ε → Prop} {J : σ → Prop}
    (hJ : ∀ s e t, J s → base s e → ok s e → step s e = .ok t → J t)
    (hiff : ∀ s e t, J s → base s e → step s e = .ok t → (ok' s e ↔ ok s e))
    {s t : σ} {es : List ε} (h : Run step base s es t) (hs : J s) : Run step ok' s es t ↔ Run step ok s es t := by
  induction h with
  | nil s => exact iff_of_true (.nil s) (.nil s)
  | cons hbase he _ ih =>
    have hguard := hiff _ _ _ hs hbase he
    rw [run_cons_of_ok he, run_cons_of_ok he]
    constructor
    · rintro ⟨hok, h⟩
      have hok := hguard.1 hok
      exact ⟨hok, (ih (hJ _ _ _ hs hbase hok he)).1 h⟩
    · rintro ⟨hok, h⟩
      exact ⟨hguard.2 hok, (ih (hJ _ _ _ hs hbase hok he)).2 h⟩

/-! ## Totals

Every step of a run adds something; `total` is the sum. -/

def total (step : σ → ε → Except φ σ) (weight : σ → ε → Nat) : σ → List ε → Nat
  | _, [] => 0
  | s, e :: es =>
    weight s e + match step s e with
      | .ok t => total step weight t es
      | .error _ => 0

theorem total_cons (weight : σ → ε → Nat) {s t : σ} {e : ε} (he : step s e = .ok t) (es : List ε) :
    total step weight s (e :: es) = weight s e + total step weight t es := by
  rw [total, he]

theorem Run.total_append (weight : σ → ε → Nat) {s t : σ} {es : List ε} (h : Run step ok s es t) (es' : List ε) :
    total step weight s (es ++ es') = total step weight s es + total step weight t es' := by
  induction h with
  | nil s => rw [List.nil_append, total, Nat.zero_add]
  | cons _ he _ ih => rw [List.cons_append, total_cons weight he, total_cons weight he, ih, Nat.add_assoc]

theorem total_singleton (weight : σ → ε → Nat) (s : σ) (e : ε) : total step weight s [e] = weight s e := by
  rw [total]
  split <;> rfl

/-- **Accounting rule**: a quantity that every step raises by its weight is raised by the total. -/
theorem Run.total_of_step (weight : σ → ε → Nat) (quantity : σ → Nat) {I : σ → Prop}
    (hI : ∀ s e t, I s → ok s e → step s e = .ok t → I t)
    (hstep : ∀ s e t, I s → ok s e → step s e = .ok t → quantity t = quantity s + weight s e)
    {s t : σ} {es : List ε} (h : Run step ok s es t) (hs : I s) :
    quantity t = quantity s + total step weight s es := by
  induction h with
  | nil s => rfl
  | cons hok he _ ih =>
    rw [ih (hI _ _ _ hs hok he), hstep _ _ _ hs hok he, total_cons weight he, Nat.add_assoc]

/-- **Comparison rule**: of two weights, one never more than the other, the totals agree exactly when the weights
agree at every step. -/
theorem Run.total_eq_iff {I : σ → Prop} {f g : σ → ε → Nat}
    (hI : ∀ s e t, I s → ok s e → step s e = .ok t → I t) (hle : ∀ s e, I s → ok s e → f s e ≤ g s e)
    {s t : σ} {es : List ε} (h : Run step ok s es t) (hs : I s) :
    total step f s es = total step g s es ↔ Run step (fun s e => f s e = g s e) s es t := by
  suffices hall : total step f s es ≤ total step g s es ∧
      (total step f s es = total step g s es ↔ Run step (fun s e => f s e = g s e) s es t) from hall.2
  induction h with
  | nil s => exact ⟨Nat.le_refl 0, iff_of_true rfl (.nil s)⟩
  | cons hok he _ ih =>
    obtain ⟨htail, hiff⟩ := ih (hI _ _ _ hs hok he)
    have hhead := hle _ _ hs hok
    rw [total_cons f he, total_cons g he, run_cons_of_ok he]
    refine ⟨Nat.add_le_add hhead htail, ?_, ?_⟩
    · intro heq
      exact ⟨by omega, hiff.1 (by omega)⟩
    · rintro ⟨hfirst, hrest⟩
      rw [hfirst, hiff.2 hrest]

/-! ## Summaries of a log

A log is read through a left fold; entries the fold does not look at can be dropped. -/

theorem foldl_append_ignored {κ γ : Type*} (upd : γ → κ → γ) (g : γ) (log new : List κ)
    (h : ∀ c ∈ new, ∀ g, upd g c = g) : (log ++ new).foldl upd g = log.foldl upd g := by
  rw [List.foldl_append]
  generalize log.foldl upd g = g'
  induction new with
  | nil => rfl
  | cons c cs ih =>
    rw [List.foldl_cons, h c (by simp)]
    exact ih fun c' hc' => h c' (by simp [hc'])

/-- What `f` makes of the most recent log entry it recognises. -/
def latest {κ β : Type*} (f : κ → Option β) (log : List κ) : Option β := log.reverse.findSome? f

theorem latest_append {κ β : Type*} (f : κ → Option β) (log new : List κ) :
    latest f (log ++ new) = (latest f new).or (latest f log) := by
  simp [latest, List.findSome?_append]

/-- Entries that are not recognised do not count. -/
theorem latest_append_ignored {κ β : Type*} (f : κ → Option β) (log new : List κ)
    (h : ∀ c ∈ new, f c = none) :
    latest f (log ++ new) = latest f log := by
  have hnew : latest f new = none := by
    rw [latest, List.findSome?_eq_none_iff]
    intro c hc
    exact h c (List.mem_reverse.1 hc)
  rw [latest_append, hnew, Option.none_or]

theorem latest_eq_getLast? {κ β : Type*} (f : κ → Option β) (log : List κ) :
    latest f log = (log.filterMap f).getLast? := by
  rw [latest, ← List.head?_filterMap, List.filterMap_reverse, List.head?_reverse]

end FaultMachine
