import PgClient.Library.Async

/-!
Two runs of one computation, from environments and states that are related: they end alike,
and in related states.
-/

namespace Async

variable {ρ σ τ μ ε α β : Type}

/-- Runs from related states in related environments end with the same outcome and in
related states. -/
def Respects (env : ρ → ρ → Prop) (state : σ → σ → Prop) (x : Async ρ σ ε α) : Prop :=
  ∀ r r' s s', env r r' → state s s' →
    (x r s).1 = (x r' s').1 ∧ state (x r s).2 (x r' s').2

/-- Related pairs have the same first half. -/
def OnSnd (state : σ → σ → Prop) (s s' : τ × σ) : Prop := s.1 = s'.1 ∧ state s.2 s'.2

variable {env : ρ → ρ → Prop} {state : σ → σ → Prop}

theorem respects_pure (a : α) : Respects env state (pure a : Async ρ σ ε α) :=
  fun _ _ _ _ _ h => ⟨rfl, h⟩

theorem respects_fail (e : ε) : Respects env state (fail e : Async ρ σ ε α) :=
  fun _ _ _ _ _ h => ⟨rfl, h⟩

theorem respects_wait : Respects env state (wait : Async ρ σ ε α) :=
  fun _ _ _ _ _ h => ⟨rfl, h⟩

/-- What comes second may count on the value and the relation that the first has left. -/
theorem respects_bind_via (later : σ → σ → Prop) {x : Async ρ σ ε α} {f : α → Async ρ σ ε β}
    {r r' : ρ} {s s' : σ} (hOutcome : (x r s).1 = (x r' s').1)
    (hValue : ∀ a, (x r s).1 = .ok a → later (x r s).2 (x r' s').2)
    (hStop : (∀ a, (x r s).1 ≠ .ok a) → state (x r s).2 (x r' s').2)
    (hf : ∀ a t t', later t t' →
      (f a r t).1 = (f a r' t').1 ∧ state (f a r t).2 (f a r' t').2) :
    ((x >>= f) r s).1 = ((x >>= f) r' s').1 ∧ state ((x >>= f) r s).2 ((x >>= f) r' s').2 := by
  rw [bind_apply, bind_apply]
  revert hOutcome hValue hStop
  rcases x r s with ⟨outcome, t⟩
  rcases x r' s' with ⟨outcome', t'⟩
  rintro (rfl : outcome = outcome') hValue hStop
  cases outcome with
  | ok a => exact hf a t t' (hValue a rfl)
  | err e => exact ⟨rfl, hStop fun _ h => by cases h⟩
  | pending => exact ⟨rfl, hStop fun _ h => by cases h⟩

theorem respects_bind {x : Async ρ σ ε α} {f : α → Async ρ σ ε β} (hx : Respects env state x)
    (hf : ∀ a, Respects env state (f a)) : Respects env state (x >>= f) := by
  intro r r' s s' hEnv hState
  obtain ⟨hOutcome, hLeft⟩ := hx r r' s s' hEnv hState
  exact respects_bind_via state hOutcome (fun _ _ => hLeft) (fun _ => hLeft)
    fun a t t' => hf a r r' t t' hEnv

/-- A computation that goes by what related states have in common. -/
theorem respects_get_bind {k : σ → Async ρ σ ε β} (hk : ∀ s s', state s s' → k s = k s')
    (hRespects : ∀ s, Respects env state (k s)) : Respects env state (get >>= k) := by
  intro r r' s s' hEnv hState
  rw [bind_apply, bind_apply, get_apply, get_apply, andThen_ok, andThen_ok, ← hk s s' hState]
  exact hRespects s r r' s s' hEnv hState

theorem respects_env_bind {γ : Type} {view : ρ → γ} {k : γ → Async ρ σ ε β}
    (hView : ∀ r r', env r r' → view r = view r') (hRespects : ∀ c, Respects env state (k c)) :
    Respects env state (Async.env >>= fun r => k (view r)) := by
  intro r r' s s' hEnv hState
  simp only [bind_apply, env_apply, andThen_ok, ← hView r r' hEnv]
  exact hRespects (view r) r r' s s' hEnv hState

theorem respects_modify {f : σ → σ} (hf : ∀ s s', state s s' → state (f s) (f s')) :
    Respects env state (modify f : Async ρ σ ε Unit) :=
  fun _ _ s s' _ h => ⟨rfl, hf s s' h⟩

theorem respects_failIf (c : Prop) [Decidable c] (e : ε) :
    Respects env state (failIf c e : Async ρ σ ε Unit) := by
  rw [failIf]
  split
  · exact respects_fail e
  · exact respects_pure ()

theorem respects_attempt {x : Async ρ σ ε α} (hx : Respects env state x) :
    Respects env state x.attempt := by
  intro r r' s s' hEnv hState
  obtain ⟨hOutcome, hLeft⟩ := hx r r' s s' hEnv hState
  simp only [attempt]
  revert hOutcome hLeft
  rcases x r s with ⟨outcome, t⟩
  rcases x r' s' with ⟨outcome', t'⟩
  rintro (rfl : outcome = outcome') hLeft
  cases outcome <;> exact ⟨rfl, hLeft⟩

theorem respects_onSnd {x : Async ρ σ ε α} (hx : Respects env state x) :
    Respects env (OnSnd state) (onSnd x : Async ρ (τ × σ) ε α) := by
  intro r r' s s' hEnv ⟨hFst, hSnd⟩
  obtain ⟨hOutcome, hLeft⟩ := hx r r' s.2 s'.2 hEnv hSnd
  exact ⟨hOutcome, hFst, hLeft⟩

theorem respects_withLocal {l : τ} {x : Async ρ (τ × σ) ε α} (hx : Respects env (OnSnd state) x) :
    Respects env state (withLocal l x) := by
  intro r r' s s' hEnv hState
  obtain ⟨hOutcome, hLeft⟩ := hx r r' (l, s) (l, s') hEnv ⟨rfl, hState⟩
  exact ⟨hOutcome, hLeft.2⟩

theorem respects_withExtra {m : μ} {x : Async ρ ((τ × μ) × σ) ε α}
    (hx : Respects env (OnSnd state) x) :
    Respects env (OnSnd state) (withExtra m x : Async ρ (τ × σ) ε (α × μ)) := by
  intro r r' s s' hEnv ⟨hFst, hSnd⟩
  have hState : OnSnd state ((s.1, m), s.2) ((s'.1, m), s'.2) := ⟨by rw [hFst], hSnd⟩
  obtain ⟨hOutcome, hLeft⟩ := hx r r' _ _ hEnv hState
  simp only [withExtra]
  revert hOutcome hLeft
  rcases x r ((s.1, m), s.2) with ⟨outcome, ⟨⟨l, n⟩, t⟩⟩
  rcases x r' ((s'.1, m), s'.2) with ⟨outcome', ⟨⟨l', n'⟩, t'⟩⟩
  rintro (rfl : outcome = outcome') ⟨hLocal, hState⟩
  cases hLocal
  exact ⟨rfl, rfl, hState⟩

end Async
