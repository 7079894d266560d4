import Mathlib.Data.List.Basic

/-!
Loops that read one message at a time. A step either goes on with a new state or
leaves the loop; driving a step over the messages at hand ends with an exit and the
messages left, or waits for more in the state reached.
-/

namespace Drive

inductive Step (σ β : Type) where
  | next (state : σ)
  | exit (value : β) (state : σ)

inductive Stop (σ μ β : Type) where
  | waiting (state : σ)
  | done (value : β) (state : σ) (rest : List μ)

variable {σ τ μ ν β : Type}

namespace Step

def map (f : σ → τ) : Step σ β → Step τ β
  | .next s => .next (f s)
  | .exit b s => .exit b (f s)

@[simp] theorem map_next (f : σ → τ) (s : σ) : (next s : Step σ β).map f = next (f s) := rfl

@[simp] theorem map_exit (f : σ → τ) (b : β) (s : σ) : (exit b s).map f = exit b (f s) := rfl

end Step

def drive (step : σ → μ → Step σ β) : σ → List μ → Stop σ μ β
  | s, [] => .waiting s
  | s, m :: ms =>
      match step s m with
      | .next s' => drive step s' ms
      | .exit b s' => .done b s' ms

@[simp] theorem drive_nil (step : σ → μ → Step σ β) (s : σ) : drive step s [] = .waiting s := rfl

theorem drive_cons (step : σ → μ → Step σ β) (s : σ) (m : μ) (ms : List μ) :
    drive step s (m :: ms) =
      match step s m with
      | .next s' => drive step s' ms
      | .exit b s' => .done b s' ms := rfl

theorem drive_cons_next (step : σ → μ → Step σ β) {s s' : σ} {m : μ} (ms : List μ)
    (h : step s m = .next s') : drive step s (m :: ms) = drive step s' ms := by
  rw [drive_cons, h]

theorem drive_cons_exit (step : σ → μ → Step σ β) {s s' : σ} {m : μ} {b : β} (ms : List μ)
    (h : step s m = .exit b s') : drive step s (m :: ms) = .done b s' ms := by
  rw [drive_cons, h]

/-- Messages a loop has taken without leaving do not change what it does next. -/
theorem drive_append_waiting (step : σ → μ → Step σ β) {s s' : σ} {ms : List μ}
    (h : drive step s ms = .waiting s') (more : List μ) :
    drive step s (ms ++ more) = drive step s' more := by
  induction ms generalizing s with
  | nil =>
      cases h
      rfl
  | cons m ms ih =>
      cases hStep : step s m with
      | next s'' =>
          rw [drive_cons_next step ms hStep] at h
          rw [List.cons_append, drive_cons_next step _ hStep]
          exact ih h
      | exit b s'' =>
          rw [drive_cons_exit step ms hStep] at h
          cases h

/-- Messages that a loop goes on with, whatever its state. -/
theorem drive_takes (step : σ → μ → Step σ β) {ms : List μ}
    (h : ∀ m ∈ ms, ∀ s, ∃ s', step s m = .next s') (s : σ) :
    ∃ s', drive step s ms = .waiting s' := by
  induction ms generalizing s with
  | nil => exact ⟨s, rfl⟩
  | cons m ms ih =>
      obtain ⟨s₁, hStep⟩ := h m List.mem_cons_self s
      obtain ⟨s', hDrive⟩ := ih (fun m' hMem => h m' (List.mem_cons_of_mem _ hMem)) s₁
      exact ⟨s', (drive_cons_next step ms hStep).trans hDrive⟩

/-- Messages that leave a loop in the state it is in. -/
theorem drive_ignores (step : σ → μ → Step σ β) {ms : List μ} {s : σ}
    (h : ∀ m ∈ ms, step s m = .next s) : drive step s ms = .waiting s := by
  induction ms with
  | nil => rfl
  | cons m ms ih =>
      rw [drive_cons_next step ms (h m List.mem_cons_self)]
      exact ih fun m' hMem => h m' (List.mem_cons_of_mem _ hMem)

/-- `drive_ignores` for messages of one kind. -/
theorem drive_ignores_map (step : σ → μ → Step σ β) (wrap : ν → μ) {s : σ}
    (h : ∀ n, step s (wrap n) = .next s) (ns : List ν) :
    drive step s (ns.map wrap) = .waiting s := by
  apply drive_ignores
  intro m hMem
  obtain ⟨n, -, rfl⟩ := List.mem_map.mp hMem
  exact h n

/-- Messages that carry what a loop collects. -/
theorem drive_collects (step : σ → μ → Step σ β) (wrap : ν → μ) (state : List τ → σ) (f : ν → τ)
    (h : ∀ collected n, step (state collected) (wrap n) = .next (state (collected ++ [f n])))
    (collected : List τ) (ns : List ν) :
    drive step (state collected) (ns.map wrap) = .waiting (state (collected ++ ns.map f)) := by
  induction ns generalizing collected with
  | nil => rw [List.map_nil, List.map_nil, List.append_nil, drive_nil]
  | cons n ns ih =>
      rw [List.map_cons, drive_cons_next step _ (h collected n), ih, List.append_assoc,
        List.singleton_append, List.map_cons]

/-- A loop that has left did so at one message, having taken those before it. -/
theorem drive_done_split (step : σ → μ → Step σ β) {s s' : σ} {ms rest : List μ} {b : β}
    (h : drive step s ms = .done b s' rest) :
    ∃ taken m s'', ms = taken ++ m :: rest ∧ drive step s taken = .waiting s'' ∧
      step s'' m = .exit b s' := by
  induction ms generalizing s with
  | nil => cases h
  | cons m ms ih =>
      cases hStep : step s m with
      | next s₁ =>
          rw [drive_cons_next step ms hStep] at h
          obtain ⟨taken, m', s'', rfl, hTaken, hExit⟩ := ih h
          exact ⟨m :: taken, m', s'', rfl, by rw [drive_cons_next step _ hStep, hTaken], hExit⟩
      | exit b' s₁ =>
          rw [drive_cons_exit step ms hStep] at h
          cases h
          exact ⟨[], m, s, rfl, rfl, hStep⟩

/-- Messages under a wrapper that the loop takes off. -/
theorem drive_map (step : σ → μ → Step σ β) (wrap : ν → μ) (s : σ) (ms : List ν) :
    drive step s (ms.map wrap) =
      match drive (fun s n => step s (wrap n)) s ms with
      | .waiting s' => .waiting s'
      | .done b s' rest => .done b s' (rest.map wrap) := by
  induction ms generalizing s with
  | nil => rfl
  | cons n ms ih =>
      rw [List.map_cons, drive_cons, drive_cons]
      cases step s (wrap n) with
      | next s' => exact ih s'
      | exit b s' => rfl

/-- The rule for loop invariants: what every step keeps while it goes on, and what it
has when it leaves. -/
theorem drive_invariant (step : σ → μ → Step σ β) (inv : σ → Prop) (post : β → σ → Prop)
    (hNext : ∀ s m s', inv s → step s m = .next s' → inv s')
    (hExit : ∀ s m b s', inv s → step s m = .exit b s' → post b s')
    {s : σ} (h : inv s) (ms : List μ) :
    match drive step s ms with
    | .waiting s' => inv s'
    | .done b s' _ => post b s' := by
  induction ms generalizing s with
  | nil => exact h
  | cons m ms ih =>
      cases hStep : step s m with
      | next s' =>
          rw [drive_cons_next step ms hStep]
          exact ih (hNext s m s' h hStep)
      | exit b s' =>
          rw [drive_cons_exit step ms hStep]
          exact hExit s m b s' h hStep

/-- One loop follows another: it does what the other one does with the messages that the
other one sees, and goes on over those that the other one does not see. -/
structure Follows (step : σ → μ → Step σ β) (step' : τ → μ → Step τ β) (f : σ → τ)
    (sees : μ → Bool) : Prop where
  seen : ∀ s m, sees m → (step s m).map f = step' (f s) m
  unseen : ∀ s m, sees m = false → (step s m).map f = .next (f s)

/-- A loop that follows another stops as that one does on what it sees. -/
theorem Follows.drive {step : σ → μ → Step σ β} {step' : τ → μ → Step τ β} {f : σ → τ}
    {sees : μ → Bool} (h : Follows step step' f sees) (s : σ) (ms : List μ) :
    match drive step s ms with
    | .waiting s' => drive step' (f s) (ms.filter sees) = .waiting (f s')
    | .done b s' rest =>
        drive step' (f s) (ms.filter sees) = .done b (f s') (rest.filter sees) := by
  induction ms generalizing s with
  | nil => rfl
  | cons m ms ih =>
      cases hSees : sees m with
      | false =>
          have hStep := h.unseen s m hSees
          rw [List.filter_cons_of_neg (by simp [hSees])]
          cases hNext : step s m with
          | next s' =>
              rw [hNext, Step.map_next, Step.next.injEq] at hStep
              rw [drive_cons_next step ms hNext, ← hStep]
              exact ih s'
          | exit b s' =>
              rw [hNext] at hStep
              cases hStep
      | true =>
          have hStep := h.seen s m hSees
          rw [List.filter_cons_of_pos hSees]
          cases hNext : step s m with
          | next s' =>
              rw [hNext] at hStep
              rw [drive_cons_next step ms hNext, drive_cons_next step' _ hStep.symm]
              exact ih s'
          | exit b s' =>
              rw [hNext] at hStep
              rw [drive_cons_exit step ms hNext]
              exact drive_cons_exit step' _ hStep.symm

end Drive
