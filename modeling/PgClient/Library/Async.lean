import Mathlib.Logic.Basic

/-!
Computations that may fail or wait. A computation reads an environment, changes a
state, and ends with a value, with an error, or waiting for input that never comes;
a waiting computation keeps the state in which it waits.
-/

inductive Outcome (ε α : Type) where
  | ok (value : α)
  | err (error : ε)
  | pending
deriving DecidableEq, Repr

namespace Outcome

variable {ε α β : Type}

def map (f : α → β) : Outcome ε α → Outcome ε β
  | .ok a => .ok (f a)
  | .err e => .err e
  | .pending => .pending

def ofExcept : Except ε α → Outcome ε α
  | .ok a => .ok a
  | .error e => .err e

@[simp] theorem map_ok (f : α → β) (a : α) : (ok a : Outcome ε α).map f = ok (f a) := rfl
@[simp] theorem map_err (f : α → β) (e : ε) : (err e : Outcome ε α).map f = err e := rfl
@[simp] theorem map_pending (f : α → β) : (pending : Outcome ε α).map f = pending := rfl
@[simp] theorem ofExcept_ok (a : α) : ofExcept (.ok a : Except ε α) = ok a := rfl
@[simp] theorem ofExcept_error (e : ε) : ofExcept (.error e : Except ε α) = err e := rfl

end Outcome

def Async (ρ σ ε α : Type) : Type := ρ → σ → Outcome ε α × σ

namespace Async

variable {ρ σ τ ε α β : Type}

/-- Continue with the value of an outcome, or stop with its error or its wait. -/
def andThen (f : α → Async ρ σ ε β) (r : ρ) : Outcome ε α × σ → Outcome ε β × σ
  | (.ok a, s) => f a r s
  | (.err e, s) => (.err e, s)
  | (.pending, s) => (.pending, s)

instance : Monad (Async ρ σ ε) where
  pure a := fun _ s => (.ok a, s)
  bind x f := fun r s => andThen f r (x r s)

def fail (e : ε) : Async ρ σ ε α := fun _ s => (.err e, s)

def wait : Async ρ σ ε α := fun _ s => (.pending, s)

def env : Async ρ σ ε ρ := fun r s => (.ok r, s)

def get : Async ρ σ ε σ := fun _ s => (.ok s, s)

def modify (f : σ → σ) : Async ρ σ ε Unit := fun _ s => (.ok (), f s)

def lift : Except ε α → Async ρ σ ε α
  | .ok a => pure a
  | .error e => fail e

def failIf (c : Prop) [Decidable c] (e : ε) : Async ρ σ ε Unit :=
  if c then fail e else pure ()

def doIf (c : Prop) [Decidable c] (x : Async ρ σ ε Unit) : Async ρ σ ε Unit :=
  if c then x else pure ()

/-- The result of a computation as a value; only a wait still stops. -/
def attempt (x : Async ρ σ ε α) : Async ρ σ ε (Except ε α) := fun r s =>
  match x r s with
  | (.ok a, s) => (.ok (.ok a), s)
  | (.err e, s) => (.ok (.error e), s)
  | (.pending, s) => (.pending, s)

/-- A computation on the second half of a state. -/
def onSnd (x : Async ρ σ ε α) : Async ρ (τ × σ) ε α := fun r s =>
  ((x r s.2).1, (s.1, (x r s.2).2))

/-- A computation with a local variable, which is gone when it ends or waits. -/
def withLocal (l : τ) (x : Async ρ (τ × σ) ε α) : Async ρ σ ε α := fun r s =>
  ((x r (l, s)).1, (x r (l, s)).2.2)

/-- A computation with one more local variable, whose last value it returns. -/
def withExtra {μ : Type} (m : μ) (x : Async ρ ((τ × μ) × σ) ε α) :
    Async ρ (τ × σ) ε (α × μ) := fun r s =>
  match x r ((s.1, m), s.2) with
  | (outcome, ((l, m), s)) => (outcome.map fun a => (a, m), (l, s))

@[simp] theorem andThen_ok (f : α → Async ρ σ ε β) (r : ρ) (a : α) (s : σ) :
    andThen f r (.ok a, s) = f a r s := rfl

@[simp] theorem andThen_err (f : α → Async ρ σ ε β) (r : ρ) (e : ε) (s : σ) :
    andThen f r (.err e, s) = (.err e, s) := rfl

@[simp] theorem andThen_pending (f : α → Async ρ σ ε β) (r : ρ) (s : σ) :
    andThen f r (.pending, s) = (.pending, s) := rfl

@[simp] theorem bind_apply (x : Async ρ σ ε α) (f : α → Async ρ σ ε β) (r : ρ) (s : σ) :
    (x >>= f) r s = andThen f r (x r s) := rfl

@[simp] theorem pure_apply (a : α) (r : ρ) (s : σ) :
    (pure a : Async ρ σ ε α) r s = (.ok a, s) := rfl

@[simp] theorem fail_apply (e : ε) (r : ρ) (s : σ) :
    (fail e : Async ρ σ ε α) r s = (.err e, s) := rfl

@[simp] theorem wait_apply (r : ρ) (s : σ) :
    (wait : Async ρ σ ε α) r s = (.pending, s) := rfl

@[simp] theorem env_apply (r : ρ) (s : σ) : (env : Async ρ σ ε ρ) r s = (.ok r, s) := rfl

@[simp] theorem get_apply (r : ρ) (s : σ) : (get : Async ρ σ ε σ) r s = (.ok s, s) := rfl

@[simp] theorem modify_apply (f : σ → σ) (r : ρ) (s : σ) :
    (modify f : Async ρ σ ε Unit) r s = (.ok (), f s) := rfl

@[simp] theorem lift_ok_apply (a : α) (r : ρ) (s : σ) :
    (lift (.ok a) : Async ρ σ ε α) r s = (.ok a, s) := rfl

@[simp] theorem lift_error_apply (e : ε) (r : ρ) (s : σ) :
    (lift (.error e) : Async ρ σ ε α) r s = (.err e, s) := rfl

@[simp] theorem failIf_pos {c : Prop} [Decidable c] (h : c) (e : ε) :
    (failIf c e : Async ρ σ ε Unit) = fail e := if_pos h

@[simp] theorem failIf_neg {c : Prop} [Decidable c] (h : ¬ c) (e : ε) :
    (failIf c e : Async ρ σ ε Unit) = pure () := if_neg h

@[simp] theorem doIf_pos {c : Prop} [Decidable c] (h : c) (x : Async ρ σ ε Unit) :
    doIf c x = x := if_pos h

@[simp] theorem doIf_neg {c : Prop} [Decidable c] (h : ¬ c) (x : Async ρ σ ε Unit) :
    doIf c x = pure () := if_neg h

@[simp] theorem onSnd_apply (x : Async ρ σ ε α) (r : ρ) (s : τ × σ) :
    onSnd x r s = ((x r s.2).1, (s.1, (x r s.2).2)) := rfl

@[simp] theorem withLocal_apply (l : τ) (x : Async ρ (τ × σ) ε α) (r : ρ) (s : σ) :
    withLocal l x r s = ((x r (l, s)).1, (x r (l, s)).2.2) := rfl

private theorem bind_pure_apply (x : Async ρ σ ε α) : (x >>= fun a => pure a) = x := by
  funext r s
  rw [bind_apply]
  rcases x r s with ⟨_ | _ | _, _⟩ <;> rfl

private theorem bind_bind_apply {γ : Type} (x : Async ρ σ ε α) (f : α → Async ρ σ ε β)
    (g : β → Async ρ σ ε γ) : x >>= f >>= g = x >>= fun a => f a >>= g := by
  funext r s
  simp only [bind_apply]
  rcases x r s with ⟨_ | _ | _, _⟩ <;> rfl

instance : LawfulMonad (Async ρ σ ε) :=
  LawfulMonad.mk' _ (fun x => bind_pure_apply x) (fun _ _ => rfl) bind_bind_apply

@[simp] theorem map_apply (f : α → β) (x : Async ρ σ ε α) (r : ρ) (s : σ) :
    (f <$> x) r s = ((x r s).1.map f, (x r s).2) := by
  rw [← bind_pure_comp, bind_apply]
  rcases x r s with ⟨_ | _ | _, _⟩ <;> rfl

theorem bind_of_ok {x : Async ρ σ ε α} {f : α → Async ρ σ ε β} {r : ρ} {s s' : σ} {a : α}
    (h : x r s = (.ok a, s')) : (x >>= f) r s = f a r s' := by
  rw [bind_apply, h, andThen_ok]

/-- What comes to its end is caught, an error like a value. -/
theorem attempt_of_returns {x : Async ρ σ ε α} {r : ρ} {s : σ} (h : (x r s).1 ≠ .pending) :
    ∃ result, attempt x r s = (.ok result, (x r s).2) := by
  revert h
  rw [attempt]
  match x r s with
  | (.ok a, s') => exact fun _ => ⟨.ok a, rfl⟩
  | (.err e, s') => exact fun _ => ⟨.error e, rfl⟩
  | (.pending, s') => exact fun h => absurd rfl h

theorem snd_attempt (x : Async ρ σ ε α) (r : ρ) (s : σ) : (attempt x r s).2 = (x r s).2 := by
  rw [attempt]
  rcases x r s with ⟨_ | _ | _, _⟩ <;> rfl

/-- A transitive relation of the states before and after is kept from one computation to the
next. -/
theorem related_bind {R : ρ → σ → σ → Prop}
    (hTrans : ∀ {r s s' s''}, R r s s' → R r s' s'' → R r s s'') {x : Async ρ σ ε α}
    {f : α → Async ρ σ ε β} (hx : ∀ r s, R r s (x r s).2) (hf : ∀ a r s, R r s (f a r s).2)
    (r : ρ) (s : σ) : R r s ((x >>= f) r s).2 := by
  have hFirst := hx r s
  rw [bind_apply]
  revert hFirst
  match x r s with
  | (.ok a, s') => exact fun hFirst => hTrans hFirst (hf a r s')
  | (.err e, s') => exact id
  | (.pending, s') => exact id

theorem ok_of_bind {x : Async ρ σ ε α} {f : α → Async ρ σ ε β} {r : ρ} {s s' : σ} {b : β}
    (h : (x >>= f) r s = (.ok b, s')) :
    ∃ a s₁, x r s = (.ok a, s₁) ∧ f a r s₁ = (.ok b, s') := by
  rw [bind_apply] at h
  revert h
  match x r s with
  | (.ok a, s₁) => exact fun h => ⟨a, s₁, rfl, h⟩
  | (.err e, s₁) => exact fun h => by cases h
  | (.pending, s₁) => exact fun h => by cases h

theorem ok_of_withLocal {l : τ} {x : Async ρ (τ × σ) ε α} {r : ρ} {s s' : σ} {a : α}
    (h : withLocal l x r s = (.ok a, s')) : ∃ l', x r (l, s) = (.ok a, (l', s')) := by
  rw [withLocal_apply] at h
  obtain ⟨hOutcome, rfl⟩ := Prod.mk.inj h
  exact ⟨(x r (l, s)).2.1, by rw [← hOutcome]⟩

theorem ok_of_withExtra {μ : Type} {m m' : μ} {x : Async ρ ((τ × μ) × σ) ε α} {r : ρ}
    {s s' : τ × σ} {a : α} (h : withExtra m x r s = (.ok (a, m'), s')) :
    x r ((s.1, m), s.2) = (.ok a, ((s'.1, m'), s'.2)) := by
  rw [withExtra] at h
  revert h
  match x r ((s.1, m), s.2) with
  | (.ok b, ((l, m₁), s₁)) =>
      intro h
      cases h
      rfl
  | (.err e, _) => exact nofun
  | (.pending, _) => exact nofun

theorem bind_pending {x : Async ρ σ ε α} (f : α → Async ρ σ ε β) {r : ρ} {s : σ}
    (h : (x r s).1 = .pending) : (x >>= f) r s = (.pending, (x r s).2) := by
  rw [bind_apply]
  revert h
  rcases x r s with ⟨_ | _ | _, _⟩
  · intro h
    cases h
  · intro h
    cases h
  · exact fun _ => rfl

/-- A property of the state that a computation keeps, however it ends. -/
def Keeps (r : ρ) (inv : σ → Prop) (x : Async ρ σ ε α) : Prop :=
  ∀ s, inv s → inv (x r s).2

section Keeps

variable {r : ρ} {inv : σ → Prop}

theorem keeps_pure (a : α) : Keeps r inv (pure a : Async ρ σ ε α) :=
  fun _ h => h

theorem keeps_fail (e : ε) : Keeps r inv (fail e : Async ρ σ ε α) :=
  fun _ h => h

theorem keeps_wait : Keeps r inv (wait : Async ρ σ ε α) :=
  fun _ h => h

theorem keeps_bind {x : Async ρ σ ε α} {f : α → Async ρ σ ε β}
    (hx : Keeps r inv x) (hf : ∀ a, Keeps r inv (f a)) : Keeps r inv (x >>= f) := by
  intro s h
  have hState := hx s h
  rw [bind_apply]
  revert hState
  rcases x r s with ⟨_ | _ | _, s'⟩
  · exact hf _ s'
  · exact id
  · exact id

theorem keeps_ite {c : Prop} [Decidable c] {x y : Async ρ σ ε α}
    (hx : Keeps r inv x) (hy : Keeps r inv y) : Keeps r inv (if c then x else y) := by
  split
  · exact hx
  · exact hy

theorem keeps_failIf (c : Prop) [Decidable c] (e : ε) :
    Keeps r inv (failIf c e : Async ρ σ ε Unit) :=
  keeps_ite (keeps_fail e) (keeps_pure ())

theorem keeps_doIf (c : Prop) [Decidable c] {x : Async ρ σ ε Unit} (hx : Keeps r inv x) :
    Keeps r inv (doIf c x) :=
  keeps_ite hx (keeps_pure ())

theorem keeps_get : Keeps r inv (get : Async ρ σ ε σ) :=
  fun _ h => h

theorem keeps_env : Keeps r inv (env : Async ρ σ ε ρ) :=
  fun _ h => h

theorem keeps_modify {f : σ → σ} (h : ∀ s, inv s → inv (f s)) :
    Keeps r inv (modify f : Async ρ σ ε Unit) := h

theorem keeps_lift (result : Except ε α) : Keeps r inv (lift result : Async ρ σ ε α) := by
  cases result with
  | ok a => exact keeps_pure a
  | error e => exact keeps_fail e

theorem keeps_onSnd {x : Async ρ σ ε α} {inv : τ × σ → Prop}
    (hx : ∀ l, Keeps r (fun s => inv (l, s)) x) : Keeps r inv (onSnd x) :=
  fun (l, s) h => hx l s h

theorem keeps_withLocal {l : τ} {x : Async ρ (τ × σ) ε α}
    (hx : Keeps r (fun s => inv s.2) x) : Keeps r inv (withLocal l x) :=
  fun s h => hx (l, s) h

theorem keeps_attempt {x : Async ρ σ ε α} (hx : Keeps r inv x) :
    Keeps r inv (attempt x) := by
  intro s h
  rw [snd_attempt]
  exact hx s h

end Keeps
end Async
