import PgClient.Library.Drive
import PgClient.Library.Triple

/-!
Completes correctness: computations that meet their triple and do not wait for input that
never comes, and loops that must leave on the messages at hand.
-/

namespace Drive

variable {σ μ β : Type}

/-- The rule for loops that leave: what holds of the state and of the messages ahead of it
cannot hold when there are none. -/
theorem drive_leaves (step : σ → μ → Step σ β) (inv : σ → List μ → Prop)
    (post : β → σ → List μ → Prop) (hNil : ∀ s, ¬ inv s [])
    (hNext : ∀ s m ms s', inv s (m :: ms) → step s m = .next s' → inv s' ms)
    (hExit : ∀ s m ms b s', inv s (m :: ms) → step s m = .exit b s' → post b s' ms)
    {s : σ} {ms : List μ} (h : inv s ms) :
    ∃ b s' rest, drive step s ms = .done b s' rest ∧ post b s' rest := by
  induction ms generalizing s with
  | nil => exact absurd h (hNil s)
  | cons m ms ih =>
      cases hStep : step s m with
      | next s' =>
          rw [drive_cons_next step ms hStep]
          exact ih (hNext s m ms s' h hStep)
      | exit b s' =>
          rw [drive_cons_exit step ms hStep]
          exact ⟨b, s', ms, rfl, hExit s m ms b s' h hStep⟩

end Drive

namespace Async

variable {ρ σ τ ε α β : Type}

/-- A triple of a computation that returns. -/
structure Completes (r : ρ) (pre : σ → Prop) (x : Async ρ σ ε α) (ok : α → σ → Prop)
    (err : ε → σ → Prop) : Prop where
  holds : Triple r pre x ok err
  returns : ∀ s, pre s → (x r s).1 ≠ .pending

namespace Completes

variable {r : ρ} {pre pre' : σ → Prop} {ok ok' : α → σ → Prop} {err err' : ε → σ → Prop}
  {okβ : β → σ → Prop}

theorem mono {x : Async ρ σ ε α} (h : Completes r pre x ok err) (hPre : ∀ s, pre' s → pre s)
    (hOk : ∀ a s, ok a s → ok' a s) (hErr : ∀ e s, err e s → err' e s) :
    Completes r pre' x ok' err' :=
  ⟨h.holds.mono hPre hOk hErr, fun s hs => h.returns s (hPre s hs)⟩

theorem pre_mono {x : Async ρ σ ε α} (h : Completes r pre x ok err) (hPre : ∀ s, pre' s → pre s) :
    Completes r pre' x ok err :=
  h.mono hPre (fun _ _ h => h) fun _ _ h => h

/-- A computation that ends with the result that it is shown to have. -/
theorem of_result {x : Async ρ σ ε α}
    (h : ∀ s, pre s → ∃ result s', x r s = (Outcome.ofExcept result, s') ∧ match result with
      | .ok a => ok a s'
      | .error e => err e s') : Completes r pre x ok err := by
  have hEnd : ∀ s, pre s → Post ok err (x r s) ∧ (x r s).1 ≠ .pending := by
    intro s hs
    obtain ⟨result, s', hResult, hHolds⟩ := h s hs
    rw [hResult]
    cases result with
    | ok a => exact ⟨hHolds, nofun⟩
    | error e => exact ⟨hHolds, nofun⟩
  exact ⟨fun s hs => (hEnd s hs).1, fun s hs => (hEnd s hs).2⟩

/-- What holds partially of a computation that returns holds of it totally. -/
theorem and {x : Async ρ σ ε α} (h : Completes r pre x ok err) (h' : Triple r pre' x ok' err') :
    Completes r (fun s => pre s ∧ pre' s) x (fun a s => ok a s ∧ ok' a s)
      (fun e s => err e s ∧ err' e s) :=
  ⟨h.holds.and h', fun s hs => h.returns s hs.1⟩

/-- A computation that may start in two ways. -/
theorem or {x : Async ρ σ ε α} (h : Completes r pre x ok err) (h' : Completes r pre' x ok err) :
    Completes r (fun s => pre s ∨ pre' s) x ok err :=
  ⟨fun s hs => hs.elim (h.holds s) (h'.holds s), fun s hs => hs.elim (h.returns s) (h'.returns s)⟩

theorem pure {a : α} (h : ∀ s, pre s → ok a s) : Completes r pre (Pure.pure a) ok err :=
  ⟨Triple.pure h, fun _ _ => nofun⟩

theorem fail {e : ε} (h : ∀ s, pre s → err e s) : Completes r pre (Async.fail e) ok err :=
  ⟨Triple.fail h, fun _ _ => nofun⟩

theorem modify {f : σ → σ} {ok : Unit → σ → Prop} (h : ∀ s, pre s → ok () (f s)) :
    Completes r pre (Async.modify f) ok err :=
  ⟨Triple.modify h, fun _ _ => nofun⟩

theorem lift {result : Except ε α} (hOk : ∀ a, result = .ok a → ∀ s, pre s → ok a s)
    (hErr : ∀ e, result = .error e → ∀ s, pre s → err e s) :
    Completes r pre (Async.lift result) ok err := by
  refine ⟨Triple.lift hOk hErr, fun _ _ => ?_⟩
  cases result <;> nofun

theorem modify_bind {f : σ → σ} {k : Unit → Async ρ σ ε β} (mid : σ → Prop)
    (h : ∀ s, pre s → mid (f s)) (hk : Completes r mid (k ()) okβ err) :
    Completes r pre (Async.modify f >>= k) okβ err :=
  ⟨Triple.modify_bind mid h hk.holds, fun s hs => hk.returns (f s) (h s hs)⟩

/-- Code that looks at the state in which it starts. -/
theorem get_bind {f : σ → Async ρ σ ε β}
    (h : ∀ s₀, pre s₀ → Completes r (fun s => s = s₀) (f s₀) okβ err) :
    Completes r pre (Async.get >>= f) okβ err :=
  ⟨Triple.get_bind fun s hs => (h s hs).holds, fun s hs => (h s hs).returns s rfl⟩

theorem bind {x : Async ρ σ ε α} {f : α → Async ρ σ ε β} (hx : Completes r pre x ok err)
    (hf : ∀ a, Completes r (ok a) (f a) okβ err) : Completes r pre (x >>= f) okβ err := by
  refine ⟨Triple.bind hx.holds fun a => (hf a).holds, ?_⟩
  intro s hs
  have hFirst := hx.holds s hs
  have hReturns := hx.returns s hs
  rw [bind_apply]
  revert hFirst hReturns
  match x r s with
  | (.ok a, s') => exact fun hFirst _ => (hf a).returns s' hFirst
  | (.err _, _) => exact fun _ _ => nofun
  | (.pending, _) => exact fun _ hReturns => absurd rfl hReturns

theorem doIf {c : Prop} [Decidable c] {x : Async ρ σ ε Unit} {ok : Unit → σ → Prop}
    (hx : c → Completes r pre x ok err) (hSkip : ¬ c → ∀ s, pre s → ok () s) :
    Completes r pre (Async.doIf c x) ok err := by
  by_cases h : c
  · rw [doIf_pos h]
    exact hx h
  · rw [doIf_neg h]
    exact pure (hSkip h)

theorem attempt {x : Async ρ σ ε α} {err' : ε → σ → Prop} (h : Completes r pre x ok err) :
    Completes r pre (Async.attempt x)
      (fun result s => match result with
        | .ok a => ok a s
        | .error e => err e s) err' := by
  refine ⟨h.holds.attempt, ?_⟩
  intro s hs
  have hReturns := h.returns s hs
  simp only [Async.attempt]
  revert hReturns
  cases x r s with
  | mk outcome _ =>
      cases outcome with
      | ok _ => simp
      | err _ => simp
      | pending => exact fun hReturns => absurd rfl hReturns

theorem onSnd {x : Async ρ σ ε α} {pre : τ × σ → Prop} {ok : α → τ × σ → Prop}
    {err : ε → τ × σ → Prop}
    (h : ∀ l, Completes r (fun s => pre (l, s)) x (fun a s => ok a (l, s))
      (fun e s => err e (l, s))) :
    Completes r pre (Async.onSnd x) ok err :=
  ⟨Triple.onSnd fun l => (h l).holds, fun s hs => (h s.1).returns s.2 hs⟩

theorem withLocal {l : τ} {x : Async ρ (τ × σ) ε α}
    (h : Completes r (fun s => s.1 = l ∧ pre s.2) x (fun a s => ok a s.2) (fun e s => err e s.2)) :
    Completes r pre (Async.withLocal l x) ok err :=
  ⟨Triple.withLocal h.holds, fun s hs => h.returns (l, s) ⟨rfl, hs⟩⟩

end Completes
end Async
