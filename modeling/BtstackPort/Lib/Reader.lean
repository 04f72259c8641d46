import Mathlib.Data.List.Basic
/-!
# Reading from a source that delivers chunks

A source hands out chunks of any length, one at a time, until it runs dry. A reader that is asked for `n` elements takes
what an earlier read has left over, then pulls chunks as long as elements are missing, and keeps the rest of the last
one. `Reads` is this relation. How a stretch is divided into reads makes no difference: reading `a` elements and then
`b` is reading `a + b` of them (`Reads.append`), and the result of a read is determined (`Reads.unique`).
-/

namespace ChunkedReader

universe u v
variable {α : Type u} {σ : Type v}

/-- `Reads next n buf s out rest t`: with `buf` left over and the source in `s`, a read of `n` elements yields `out` and
leaves `rest` and the source in `t`. -/
inductive Reads (next : σ → Option (List α × σ)) : Nat → List α → σ → List α → List α → σ → Prop
  | enough {n : Nat} {buf : List α} {s : σ} : n ≤ buf.length → Reads next n buf s (buf.take n) (buf.drop n) s
  | dry {n : Nat} {buf : List α} {s : σ} : buf.length < n → next s = none → Reads next n buf s buf [] s
  | pull {n : Nat} {buf chunk out rest : List α} {s t u : σ} :
    buf.length < n → next s = some (chunk, t) → Reads next (n - buf.length) chunk t out rest u →
      Reads next n buf s (buf ++ out) rest u

variable {next : σ → Option (List α × σ)}

namespace Reads

/-- A read of `a` elements followed by a read of `b`. -/
theorem append {a b : Nat} {buf out₁ rest₁ out₂ rest₂ : List α} {s t u : σ} (h₁ : Reads next a buf s out₁ rest₁ t)
    (h₂ : Reads next b rest₁ t out₂ rest₂ u) :
    Reads next (a + b) buf s (out₁ ++ out₂) rest₂ u := by
  induction h₁ with
  | @enough a buf s ha =>
    cases h₂ with
    | enough hb =>
      rw [List.length_drop] at hb
      rw [List.drop_drop, ← List.take_add]
      exact .enough (by omega)
    | dry hb hnext =>
      rw [List.length_drop] at hb
      rw [List.take_append_drop]
      exact .dry (by omega) hnext
    | pull hb hnext hrest =>
      rw [List.length_drop] at hb hrest
      rw [← List.append_assoc, List.take_append_drop]
      refine .pull (by omega) hnext ?_
      rwa [show a + b - buf.length = b - (buf.length - a) by omega]
  | @dry a buf s ha hnext =>
    -- the source stays dry, so the second read adds nothing
    cases h₂ with
    | enough hb =>
      rw [List.take_nil, List.append_nil, List.drop_nil]
      exact .dry (by omega) hnext
    | dry hb _ =>
      rw [List.append_nil]
      exact .dry (by omega) hnext
    | pull hb hsome _ =>
      rw [hnext] at hsome
      cases hsome
  | @pull a buf _ _ _ _ _ _ ha hnext _ ih =>
    rw [List.append_assoc]
    refine .pull (by omega) hnext ?_
    rw [show a + b - buf.length = a - buf.length + b by omega]
    exact ih h₂

/-- What is left over comes out first. -/
theorem prepend {n : Nat} {buf out rest : List α} {s t : σ} (first : List α) (h : Reads next n buf s out rest t) :
    Reads next (first.length + n) (first ++ buf) s (first ++ out) rest t := by
  have hfirst : Reads next first.length (first ++ buf) s ((first ++ buf).take first.length)
      ((first ++ buf).drop first.length) s := .enough (by simp)
  rw [List.take_left, List.drop_left] at hfirst
  exact hfirst.append h

/-- The result of a read is determined. -/
theorem unique {n : Nat} {buf out out' rest rest' : List α} {s t t' : σ} (h : Reads next n buf s out rest t)
    (h' : Reads next n buf s out' rest' t') : out = out' ∧ rest = rest' ∧ t = t' := by
  induction h generalizing out' with
  | enough hn =>
    cases h' with
    | enough _ => exact ⟨rfl, rfl, rfl⟩
    | dry hlt _ => omega
    | pull hlt _ _ => omega
  | dry hlt hnext =>
    cases h' with
    | enough hn => omega
    | dry _ _ => exact ⟨rfl, rfl, rfl⟩
    | pull _ hsome _ =>
      rw [hnext] at hsome
      cases hsome
  | pull hlt hnext _ ih =>
    cases h' with
    | enough hn => omega
    | dry _ hnone =>
      rw [hnext] at hnone
      cases hnone
    | pull _ hsome hrest =>
      rw [hnext] at hsome
      cases hsome
      obtain ⟨rfl, rfl, rfl⟩ := ih hrest
      exact ⟨rfl, rfl, rfl⟩

/-- A read yields what was asked for, or as much as there is. -/
theorem full_or_dry {n : Nat} {buf out rest : List α} {s t : σ} (h : Reads next n buf s out rest t) :
    out.length = n ∨ (out.length < n ∧ rest = [] ∧ next t = none) := by
  induction h with
  | enough hn => exact Or.inl (by rw [List.length_take]; omega)
  | dry hlt hnext => exact Or.inr ⟨hlt, rfl, hnext⟩
  | pull hlt _ _ ih =>
    rw [List.length_append]
    rcases ih with hfull | ⟨hshort, hrest, hdry⟩
    · exact Or.inl (by omega)
    · exact Or.inr ⟨by omega, hrest, hdry⟩

/-- Nothing comes out of a dry source with nothing left over. -/
theorem nil_of_dry {n : Nat} {out rest : List α} {s t : σ} (h : Reads next n [] s out rest t) (hs : next s = none) :
    out = [] := by
  cases h with
  | enough _ => exact List.take_nil
  | dry _ _ => rfl
  | pull _ hsome _ =>
    rw [hs] at hsome
    cases hsome

end Reads

end ChunkedReader
