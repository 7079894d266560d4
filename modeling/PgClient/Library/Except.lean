import Mathlib.Data.List.Forall2

/-!
What is known of the parts of a computation that has returned.
-/

namespace Except

variable {ε ε' α β : Type}

theorem of_bind {x : Except ε α} {f : α → Except ε β} {b : β} (h : (x >>= f) = .ok b) :
    ∃ a, x = .ok a ∧ f a = .ok b := by
  cases x with
  | error e => cases h
  | ok a => exact ⟨a, rfl, h⟩

theorem of_mapError {x : Except ε α} {f : ε → ε'} {a : α} (h : x.mapError f = .ok a) :
    x = .ok a := by
  cases x with
  | error e => cases h
  | ok a' =>
      cases h
      rfl

theorem of_map {x : Except ε α} {f : α → β} {b : β} (h : x.map f = .ok b) :
    ∃ a, x = .ok a ∧ f a = b := by
  cases x with
  | error e => cases h
  | ok a =>
      cases h
      exact ⟨a, rfl, rfl⟩

theorem of_exists {x : Except ε α} {p : α → Prop} {a : α} (h : ∃ a, x = .ok a ∧ p a)
    (hOk : x = .ok a) : p a := by
  obtain ⟨a', hOk', hProp⟩ := h
  rw [hOk] at hOk'
  cases hOk'
  exact hProp

theorem of_orElseLazy {x : Except ε α} {y : Unit → Except ε α} {a : α}
    (h : x.orElseLazy y = .ok a) : x = .ok a ∨ y () = .ok a := by
  cases x with
  | error e => exact .inr h
  | ok a' => exact .inl h

theorem orElseLazy_ok {x : Except ε α} {y : Unit → Except ε α}
    (h : (∃ a, x = .ok a) ∨ ∃ a, y () = .ok a) : ∃ a, x.orElseLazy y = .ok a := by
  cases x with
  | ok a => exact ⟨a, rfl⟩
  | error e =>
      cases h with
      | inl hFirst =>
          obtain ⟨a, hFirst⟩ := hFirst
          cases hFirst
      | inr hSecond => exact hSecond

theorem mapM_ok {f : α → Except ε β} {l : List α} {r : List β} (h : l.mapM f = .ok r) :
    List.Forall₂ (fun a b => f a = .ok b) l r := by
  induction l generalizing r with
  | nil =>
      cases h
      exact .nil
  | cons a l ih =>
      rw [List.mapM_cons] at h
      obtain ⟨b, hFirst, h⟩ := of_bind h
      obtain ⟨bs, hRest, h⟩ := of_bind h
      cases h
      exact .cons hFirst (ih hRest)

theorem mapM_of_ok {f : α → Except ε β} {l : List α} {r : List β}
    (h : List.Forall₂ (fun a b => f a = .ok b) l r) : l.mapM f = .ok r := by
  induction h with
  | nil => rfl
  | cons hFirst _ ih =>
      rw [List.mapM_cons, hFirst, ih]
      rfl

/-- A list fails if one of its members does. -/
theorem mapM_error {f : α → Except ε β} {l : List α} :
    (∃ e, l.mapM f = .error e) ↔ ∃ a ∈ l, ∃ e, f a = .error e := by
  induction l with
  | nil => simp [pure, Except.pure]
  | cons a l ih =>
      rw [List.mapM_cons]
      cases hFirst : f a with
      | error e => exact ⟨fun _ => ⟨a, by simp, e, hFirst⟩, fun _ => ⟨e, rfl⟩⟩
      | ok b =>
          have hRest : (∃ e, (do let bs ← l.mapM f; pure (b :: bs)) = Except.error e) ↔
              ∃ e, l.mapM f = .error e := by
            cases l.mapM f <;> simp [bind, Except.bind, pure, Except.pure]
          change (∃ e, (do let bs ← l.mapM f; pure (b :: bs)) = Except.error e) ↔ _
          rw [hRest, ih]
          simp [hFirst]

end Except
