import PgClient.Library.Async

/-!
Invariants of computations that can be left waiting halfway: what holds again whenever
a computation comes to its end, and the less that holds where it waits.
-/

namespace Async

variable {ρ σ τ ε α β : Type}

/-- `inv` at every end, and `waiting` where a computation waits. -/
def Maintained (inv waiting : σ → Prop) : Outcome ε α × σ → Prop
  | (.ok _, s) => inv s
  | (.err _, s) => inv s
  | (.pending, s) => waiting s

def Maintains (r : ρ) (inv waiting : σ → Prop) (x : Async ρ σ ε α) : Prop :=
  ∀ s, inv s → Maintained inv waiting (x r s)

section Maintained

variable {inv waiting : σ → Prop} {result : Outcome ε α × σ}

theorem Maintained.of_inv (h : inv result.2) (hWaiting : ∀ s, inv s → waiting s) :
    Maintained inv waiting result := by
  match result, h with
  | (.ok _, _), h => exact h
  | (.err _, _), h => exact h
  | (.pending, _), h => exact hWaiting _ h

theorem Maintained.waits (h : Maintained inv waiting result) (hWaiting : ∀ s, inv s → waiting s) :
    waiting result.2 := by
  match result, h with
  | (.ok _, _), h => exact hWaiting _ h
  | (.err _, _), h => exact hWaiting _ h
  | (.pending, _), h => exact h

theorem Maintained.returned (h : Maintained inv waiting result) (hReturns : result.1 ≠ .pending) :
    inv result.2 := by
  match result, h with
  | (.ok _, _), h => exact h
  | (.err _, _), h => exact h
  | (.pending, _), _ => exact absurd rfl hReturns

/-- What a computation returns does not matter. -/
theorem Maintained.bind_pure {x : Async ρ σ ε α} {r : ρ} {s : σ} (f : α → β)
    (h : Maintained inv waiting (x r s)) :
    Maintained inv waiting ((x >>= fun a => Pure.pure (f a)) r s) := by
  rw [bind_apply]
  revert h
  match x r s with
  | (.ok _, _) => exact id
  | (.err _, _) => exact id
  | (.pending, _) => exact id

theorem Maintained.onSnd {inv waiting : τ × σ → Prop} {x : Async ρ σ ε α} {r : ρ} {s : τ × σ}
    (h : Maintained (fun s' => inv (s.1, s')) (fun s' => waiting (s.1, s')) (x r s.2)) :
    Maintained inv waiting (Async.onSnd x r s) := by
  rw [onSnd_apply]
  revert h
  match x r s.2 with
  | (.ok _, _) => exact id
  | (.err _, _) => exact id
  | (.pending, _) => exact id

end Maintained

section Maintains

variable {r : ρ} {inv waiting : σ → Prop}

theorem Keeps.maintains {x : Async ρ σ ε α} (h : Keeps r inv x)
    (hWaiting : ∀ s, inv s → waiting s) : Maintains r inv waiting x :=
  fun s hs => .of_inv (h s hs) hWaiting

theorem maintains_pure (a : α) : Maintains r inv waiting (pure a : Async ρ σ ε α) :=
  fun _ h => h

theorem maintains_bind {x : Async ρ σ ε α} {f : α → Async ρ σ ε β}
    (hx : Maintains r inv waiting x) (hf : ∀ a, Maintains r inv waiting (f a)) :
    Maintains r inv waiting (x >>= f) := by
  intro s hs
  have hFirst := hx s hs
  rw [bind_apply]
  revert hFirst
  match x r s with
  | (.ok a, s') => exact hf a s'
  | (.err _, _) => exact id
  | (.pending, _) => exact id

theorem maintains_doIf (c : Prop) [Decidable c] {x : Async ρ σ ε Unit}
    (hx : c → Maintains r inv waiting x) : Maintains r inv waiting (doIf c x) := by
  by_cases hCond : c
  · rw [doIf_pos hCond]
    exact hx hCond
  · rw [doIf_neg hCond]
    exact maintains_pure ()

theorem maintains_attempt {x : Async ρ σ ε α} (hx : Maintains r inv waiting x) :
    Maintains r inv waiting (attempt x) := by
  intro s hs
  have hEnd := hx s hs
  unfold attempt
  revert hEnd
  match x r s with
  | (.ok _, _) => exact id
  | (.err _, _) => exact id
  | (.pending, _) => exact id

end Maintains
end Async
