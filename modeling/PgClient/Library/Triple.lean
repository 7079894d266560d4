import PgClient.Library.Async

/-!
Pre- and postconditions of computations that may fail. A triple says what holds when a
computation returns and what holds when it fails; of one that waits it says nothing.
-/

namespace Async

variable {ρ σ τ ε α β : Type}

/-- The two postconditions, applied to an outcome. -/
def Post (ok : α → σ → Prop) (err : ε → σ → Prop) : Outcome ε α × σ → Prop
  | (.ok a, s) => ok a s
  | (.err e, s) => err e s
  | (.pending, _) => True

def Triple (r : ρ) (pre : σ → Prop) (x : Async ρ σ ε α) (ok : α → σ → Prop)
    (err : ε → σ → Prop) : Prop :=
  ∀ s, pre s → Post ok err (x r s)

section Post

variable {ok ok' : α → σ → Prop} {err err' : ε → σ → Prop}

@[simp] theorem post_ok (a : α) (s : σ) : Post ok err (.ok a, s) ↔ ok a s := Iff.rfl

@[simp] theorem post_err (e : ε) (s : σ) : Post ok err (.err e, s) ↔ err e s := Iff.rfl

@[simp] theorem post_pending (s : σ) : Post ok err (.pending, s) := trivial

theorem Post.mono {result : Outcome ε α × σ} (h : Post ok err result)
    (hOk : ∀ a s, ok a s → ok' a s) (hErr : ∀ e s, err e s → err' e s) :
    Post ok' err' result := by
  match result, h with
  | (.ok _, _), h => exact hOk _ _ h
  | (.err _, _), h => exact hErr _ _ h
  | (.pending, _), _ => trivial

end Post

namespace Triple

variable {r : ρ} {pre pre' : σ → Prop} {ok ok' : α → σ → Prop} {err err' : ε → σ → Prop}
  {okβ : β → σ → Prop}

theorem mono {x : Async ρ σ ε α} (h : Triple r pre x ok err) (hPre : ∀ s, pre' s → pre s)
    (hOk : ∀ a s, ok a s → ok' a s) (hErr : ∀ e s, err e s → err' e s) :
    Triple r pre' x ok' err' :=
  fun s hs => (h s (hPre s hs)).mono hOk hErr

theorem pre_mono {x : Async ρ σ ε α} (h : Triple r pre x ok err) (hPre : ∀ s, pre' s → pre s) :
    Triple r pre' x ok err :=
  fun s hs => h s (hPre s hs)

theorem and {x : Async ρ σ ε α} (h : Triple r pre x ok err) (h' : Triple r pre' x ok' err') :
    Triple r (fun s => pre s ∧ pre' s) x (fun a s => ok a s ∧ ok' a s)
      (fun e s => err e s ∧ err' e s) := by
  intro s hs
  have hEnd := h s hs.1
  have hEnd' := h' s hs.2
  revert hEnd hEnd'
  match x r s with
  | (.ok _, _) => exact fun hEnd hEnd' => ⟨hEnd, hEnd'⟩
  | (.err _, _) => exact fun hEnd hEnd' => ⟨hEnd, hEnd'⟩
  | (.pending, _) => exact fun _ _ => trivial

theorem pure {a : α} (h : ∀ s, pre s → ok a s) : Triple r pre (Pure.pure a) ok err := h

theorem fail {e : ε} (h : ∀ s, pre s → err e s) : Triple r pre (Async.fail e) ok err := h

theorem wait : Triple r pre (Async.wait) ok err := fun _ _ => trivial

theorem modify {f : σ → σ} {ok : Unit → σ → Prop} (h : ∀ s, pre s → ok () (f s)) :
    Triple r pre (Async.modify f) ok err := h

theorem env {ok : ρ → σ → Prop} (h : ∀ s, pre s → ok r s) : Triple r pre Async.env ok err := h

/-- What is read is the state in which it is read. -/
theorem get {ok : σ → σ → Prop} (h : ∀ s, pre s → ok s s) :
    Triple r pre Async.get ok err := h

theorem modify_bind {f : σ → σ} {k : Unit → Async ρ σ ε β} (mid : σ → Prop)
    (h : ∀ s, pre s → mid (f s)) (hk : Triple r mid (k ()) okβ err) :
    Triple r pre (Async.modify f >>= k) okβ err :=
  fun s hs => hk (f s) (h s hs)

/-- Code that looks at the state in which it starts. -/
theorem get_bind {f : σ → Async ρ σ ε β}
    (h : ∀ s₀, pre s₀ → Triple r (fun s => s = s₀) (f s₀) okβ err) :
    Triple r pre (Async.get >>= f) okβ err :=
  fun s hs => h s hs s rfl

theorem lift {result : Except ε α} (hOk : ∀ a, result = .ok a → ∀ s, pre s → ok a s)
    (hErr : ∀ e, result = .error e → ∀ s, pre s → err e s) :
    Triple r pre (Async.lift result) ok err := by
  cases result with
  | ok a => exact hOk a rfl
  | error e => exact hErr e rfl

theorem bind {x : Async ρ σ ε α} {f : α → Async ρ σ ε β} (hx : Triple r pre x ok err)
    (hf : ∀ a, Triple r (ok a) (f a) okβ err) : Triple r pre (x >>= f) okβ err := by
  intro s hs
  have hFirst := hx s hs
  rw [bind_apply]
  revert hFirst
  match x r s with
  | (.ok a, s') => exact fun hFirst => hf a s' hFirst
  | (.err _, _) => exact id
  | (.pending, _) => exact id

/-- `bind` with the condition between the two parts given. -/
theorem bind_via {x : Async ρ σ ε α} {f : α → Async ρ σ ε β} (mid : α → σ → Prop)
    (hx : Triple r pre x mid err) (hf : ∀ a, Triple r (mid a) (f a) okβ err) :
    Triple r pre (x >>= f) okβ err :=
  bind hx hf

/-- What the last part returns is returned, whatever the parts before it do. -/
theorem bind_last {x : Async ρ σ ε α} {f : α → Async ρ σ ε β}
    (hf : ∀ a, Triple r (fun _ => True) (f a) okβ fun _ _ => True) :
    Triple r pre (x >>= f) okβ fun _ _ => True := by
  intro s _
  rw [bind_apply]
  match x r s with
  | (.ok a, s') => exact hf a s' trivial
  | (.err _, _) => trivial
  | (.pending, _) => trivial

theorem ite {c : Prop} [Decidable c] {x y : Async ρ σ ε α}
    (hx : c → Triple r pre x ok err) (hy : ¬ c → Triple r pre y ok err) :
    Triple r pre (if c then x else y) ok err := by
  split
  case isTrue h => exact hx h
  case isFalse h => exact hy h

theorem doIf {c : Prop} [Decidable c] {x : Async ρ σ ε Unit} {ok : Unit → σ → Prop}
    (hx : c → Triple r pre x ok err) (hSkip : ¬ c → ∀ s, pre s → ok () s) :
    Triple r pre (Async.doIf c x) ok err :=
  ite hx fun h => pure (hSkip h)

/-- The two ends of a computation become the two values of its attempt. -/
theorem attempt {x : Async ρ σ ε α} {err' : ε → σ → Prop}
    (h : Triple r pre x ok err) :
    Triple r pre (Async.attempt x)
      (fun result s => match result with
        | .ok a => ok a s
        | .error e => err e s) err' := by
  intro s hs
  have hEnd := h s hs
  simp only [Async.attempt]
  revert hEnd
  cases x r s with
  | mk outcome _ =>
      cases outcome with
      | ok _ => exact id
      | err _ => exact id
      | pending => exact id

theorem onSnd {x : Async ρ σ ε α} {pre : τ × σ → Prop} {ok : α → τ × σ → Prop}
    {err : ε → τ × σ → Prop}
    (h : ∀ l, Triple r (fun s => pre (l, s)) x (fun a s => ok a (l, s)) (fun e s => err e (l, s))) :
    Triple r pre (Async.onSnd x) ok err := by
  rintro ⟨l, s⟩ hs
  have hEnd := h l s hs
  rw [onSnd_apply]
  revert hEnd
  cases x r s with
  | mk outcome _ =>
      cases outcome with
      | ok _ => exact id
      | err _ => exact id
      | pending => exact id

theorem withLocal {l : τ} {x : Async ρ (τ × σ) ε α}
    (h : Triple r (fun s => s.1 = l ∧ pre s.2) x (fun a s => ok a s.2) (fun e s => err e s.2)) :
    Triple r pre (Async.withLocal l x) ok err := by
  intro s hs
  have hEnd := h (l, s) ⟨rfl, hs⟩
  rw [withLocal_apply]
  revert hEnd
  cases x r (l, s) with
  | mk outcome _ =>
      cases outcome with
      | ok _ => exact id
      | err _ => exact id
      | pending => exact id

theorem withExtra {μ : Type} {m : μ} {x : Async ρ ((τ × μ) × σ) ε α} {pre : τ × σ → Prop}
    {ok : α × μ → τ × σ → Prop} {err : ε → τ × σ → Prop}
    (h : Triple r (fun s => pre (s.1.1, s.2)) x (fun a s => ok (a, s.1.2) (s.1.1, s.2))
      (fun e s => err e (s.1.1, s.2))) :
    Triple r pre (Async.withExtra m x) ok err := by
  rintro ⟨l, s⟩ hs
  have hEnd := h ((l, m), s) hs
  simp only [Async.withExtra]
  revert hEnd
  cases x r ((l, m), s) with
  | mk outcome _ =>
      cases outcome with
      | ok _ => exact id
      | err _ => exact id
      | pending => exact id

end Triple
end Async
