import PgClient.Library.Async

/-!
Iterators that may fail: what repeated calls return until the first that returns no value.
-/

namespace Async

variable {ρ σ ε α : Type} {next : Async ρ σ ε (Option α)} {r : ρ}

/-- Calls from a state return these values one by one, and then end this way in a state. -/
inductive Yields (next : Async ρ σ ε (Option α)) (r : ρ) :
    σ → List α → Except ε Unit → σ → Prop where
  | value {s s₁ s' : σ} {a : α} {values : List α} {ending : Except ε Unit}
      (hNext : next r s = (.ok (some a), s₁)) (hRest : Yields next r s₁ values ending s') :
      Yields next r s (a :: values) ending s'
  | finished {s s' : σ} (hNext : next r s = (.ok none, s')) : Yields next r s [] (.ok ()) s'
  | failed {s s' : σ} {e : ε} (hNext : next r s = (.err e, s')) : Yields next r s [] (.error e) s'

/-- What an iterator yields is determined by the state it starts in. -/
theorem Yields.unique {s s' s'' : σ} {values values' : List α} {ending ending' : Except ε Unit}
    (h : Yields next r s values ending s') (h' : Yields next r s values' ending' s'') :
    values = values' ∧ ending = ending' ∧ s' = s'' := by
  induction h generalizing values' with
  | value hNext hRest ih =>
      cases h' with
      | value hNext' hRest' =>
          rw [hNext] at hNext'
          cases hNext'
          obtain ⟨rfl, rfl, rfl⟩ := ih hRest'
          exact ⟨rfl, rfl, rfl⟩
      | finished hNext' => simp [hNext] at hNext'
      | failed hNext' => simp [hNext] at hNext'
  | finished hNext =>
      cases h' with
      | value hNext' => simp [hNext] at hNext'
      | finished hNext' => simpa [hNext] using hNext'
      | failed hNext' => simp [hNext] at hNext'
  | failed hNext =>
      cases h' with
      | value hNext' => simp [hNext] at hNext'
      | finished hNext' => simp [hNext] at hNext'
      | failed hNext' => simpa [hNext] using hNext'

end Async
