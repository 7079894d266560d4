import PgClient.Library.Async

/-!
Calls that are repeated as long as they return, and what becomes of them.
-/

namespace Async

variable {ρ σ ε α : Type} {x : Async ρ σ ε α} {r : ρ}

/-- Calls from a state return these values, and the one after them fails with an error, or
waits. -/
inductive Repeats (x : Async ρ σ ε α) (r : ρ) : σ → List α → Option ε → σ → Prop where
  | returns {s s₁ s' : σ} {a : α} {values : List α} {stop : Option ε}
      (h : x r s = (.ok a, s₁)) (hRest : Repeats x r s₁ values stop s') :
      Repeats x r s (a :: values) stop s'
  | fails {s s' : σ} {e : ε} (h : x r s = (.err e, s')) : Repeats x r s [] (some e) s'
  | waits {s s' : σ} (h : x r s = (.pending, s')) : Repeats x r s [] none s'

/-- What becomes of them is determined by the state in which they start. -/
theorem Repeats.unique {s s' s'' : σ} {values values' : List α} {stop stop' : Option ε}
    (h : Repeats x r s values stop s') (h' : Repeats x r s values' stop' s'') :
    values = values' ∧ stop = stop' := by
  induction h generalizing values' with
  | returns hCall hRest ih =>
      cases h' with
      | returns hCall' hRest' =>
          cases hCall.symm.trans hCall'
          obtain ⟨rfl, rfl⟩ := ih hRest'
          exact ⟨rfl, rfl⟩
      | fails hCall' => cases hCall.symm.trans hCall'
      | waits hCall' => cases hCall.symm.trans hCall'
  | fails hCall =>
      cases h' with
      | returns hCall' => cases hCall.symm.trans hCall'
      | fails hCall' =>
          cases hCall.symm.trans hCall'
          exact ⟨rfl, rfl⟩
      | waits hCall' => cases hCall.symm.trans hCall'
  | waits hCall =>
      cases h' with
      | returns hCall' => cases hCall.symm.trans hCall'
      | fails hCall' => cases hCall.symm.trans hCall'
      | waits => exact ⟨rfl, rfl⟩

/-- Two states in which the first call does the same. -/
theorem Repeats.congr {s t s' : σ} {values : List α} {stop : Option ε} (hSame : x r t = x r s)
    (h : Repeats x r s values stop s') : Repeats x r t values stop s' := by
  cases h with
  | returns hCall hRest => exact .returns (hSame.trans hCall) hRest
  | fails hCall => exact .fails (hSame.trans hCall)
  | waits hCall => exact .waits (hSame.trans hCall)

end Async
