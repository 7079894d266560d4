import Mathlib.Algebra.BigOperators.Group.List.Basic
import Mathlib.Algebra.GroupWithZero.Nat

/-!
Tasks that share a state and take their steps one at a time, in any order. A run is the
list of its moves. Invariants of runs, and sums over the tasks that there are.
-/

namespace Tasks

/-- Which steps a task can take, which tasks can be begun at any time, and what the
surroundings can do to the shared state. -/
structure Behaviour (σ τ ε κ : Type) where
  step : σ → τ → ε → Option (σ × τ)
  starts : τ → Bool
  pass : σ → κ → σ

structure System (σ τ : Type) where
  shared : σ
  tasks : List τ

inductive Label (τ ε κ : Type) where
  | start (task : τ)
  | step (index : Nat) (event : ε)
  | pass (change : κ)

structure Move (σ τ ε κ : Type) where
  before : System σ τ
  label : Label τ ε κ
  after : System σ τ

variable {σ τ ε κ : Type}

namespace Behaviour

variable (b : Behaviour σ τ ε κ)

def next (s : System σ τ) : Label τ ε κ → Option (System σ τ)
  | .start task => if b.starts task then some { s with tasks := s.tasks ++ [task] } else none
  | .step index event =>
      match s.tasks[index]? with
      | none => none
      | some task =>
          match b.step s.shared task event with
          | none => none
          | some (shared, task') => some { shared, tasks := s.tasks.set index task' }
  | .pass change => some { s with shared := b.pass s.shared change }

/-- The moves of a run, the last one at the end, and the system that they lead to. -/
inductive Run (start : System σ τ) : List (Move σ τ ε κ) → System σ τ → Prop where
  | nil : Run start [] start
  | snoc {moves : List (Move σ τ ε κ)} {s s' : System σ τ} {label : Label τ ε κ}
      (hRun : Run start moves s) (hNext : b.next s label = some s') :
      Run start (moves ++ [⟨s, label, s'⟩]) s'

/-- The run that a list of labels makes, while each of them is possible. -/
def trace : System σ τ → List (Label τ ε κ) → Option (List (Move σ τ ε κ) × System σ τ)
  | s, [] => some ([], s)
  | s, label :: labels =>
      match b.next s label with
      | none => none
      | some s' =>
          match trace s' labels with
          | none => none
          | some (moves, last) => some (⟨s, label, s'⟩ :: moves, last)

variable {b}

theorem Run.append {start mid last : System σ τ} {first later : List (Move σ τ ε κ)}
    (hFirst : b.Run start first mid) (hLater : b.Run mid later last) :
    b.Run start (first ++ later) last := by
  induction hLater with
  | nil => simpa using hFirst
  | snoc _ hNext ih =>
      rw [← List.append_assoc]
      exact .snoc ih hNext

theorem run_of_trace (labels : List (Label τ ε κ)) {s last : System σ τ}
    {moves : List (Move σ τ ε κ)} (h : b.trace s labels = some (moves, last)) :
    b.Run s moves last := by
  induction labels generalizing s moves with
  | nil =>
      cases h
      exact .nil
  | cons label labels ih =>
      simp only [trace] at h
      cases hNext : b.next s label with
      | none =>
          rw [hNext] at h
          cases h
      | some s' =>
          rw [hNext] at h
          dsimp only at h
          cases hTrace : b.trace s' labels with
          | none =>
              rw [hTrace] at h
              cases h
          | some result =>
              obtain ⟨later, last'⟩ := result
              rw [hTrace] at h
              cases h
              exact Run.append (.snoc .nil hNext) (ih hTrace)

/-- What every allowed move keeps holds before and after every move of a run of such. -/
theorem Run.invariant {start last : System σ τ} {moves : List (Move σ τ ε κ)}
    (hRun : b.Run start moves last) {inv : System σ τ → Prop} {allowed : Move σ τ ε κ → Prop}
    (hStart : inv start)
    (hStep : ∀ s label s', inv s → b.next s label = some s' → allowed ⟨s, label, s'⟩ → inv s')
    (hAllowed : ∀ m ∈ moves, allowed m) :
    inv last ∧ ∀ m ∈ moves, inv m.before ∧ inv m.after := by
  induction hRun with
  | nil => exact ⟨hStart, by simp⟩
  | @snoc moves s s' label _ hNext ih =>
      obtain ⟨hBefore, hMoves⟩ := ih fun m hMem => hAllowed m (List.mem_append_left _ hMem)
      have hAfter := hStep s label s' hBefore hNext (hAllowed _ (by simp))
      refine ⟨hAfter, fun m hMem => ?_⟩
      cases List.mem_append.mp hMem with
      | inl hOld => exact hMoves m hOld
      | inr hNew =>
          rw [List.mem_singleton.mp hNew]
          exact ⟨hBefore, hAfter⟩

/-- What holds at the start and after every move holds before every move. -/
theorem Run.before {start last : System σ τ} {moves : List (Move σ τ ε κ)}
    (hRun : b.Run start moves last) {inv : System σ τ → Prop} (hStart : inv start)
    (hAfter : ∀ m ∈ moves, inv m.after) : inv last ∧ ∀ m ∈ moves, inv m.before := by
  induction hRun with
  | nil => exact ⟨hStart, by simp⟩
  | @snoc moves s s' label _ _ ih =>
      obtain ⟨hLast, hMoves⟩ := ih fun m hMem => hAfter m (List.mem_append_left _ hMem)
      refine ⟨hAfter ⟨s, label, s'⟩ (by simp), fun m hMem => ?_⟩
      cases List.mem_append.mp hMem with
      | inl hOld => exact hMoves m hOld
      | inr hNew =>
          rw [List.mem_singleton.mp hNew]
          exact hLast

/-- Every move of a run is one that the behaviour has. -/
theorem Run.next {start last : System σ τ} {moves : List (Move σ τ ε κ)}
    (hRun : b.Run start moves last) : ∀ m ∈ moves, b.next m.before m.label = some m.after := by
  induction hRun with
  | nil => simp
  | snoc _ hNext ih =>
      intro m hMem
      cases List.mem_append.mp hMem with
      | inl hOld => exact ih m hOld
      | inr hNew =>
          rw [List.mem_singleton.mp hNew]
          exact hNext

/-- A run up to one of its moves, and that move. -/
theorem Run.split {start last : System σ τ} {moves first later : List (Move σ τ ε κ)}
    {m : Move σ τ ε κ} (hRun : b.Run start moves last) (h : moves = first ++ m :: later) :
    b.Run start first m.before ∧ b.next m.before m.label = some m.after := by
  induction hRun generalizing later with
  | nil => exact absurd h.symm (by simp)
  | snoc hRun hNext ih =>
      obtain rfl | ⟨later, final, rfl⟩ := List.eq_nil_or_concat later
      · obtain ⟨rfl, hLast⟩ := List.append_inj' h rfl
        cases hLast
        exact ⟨hRun, hNext⟩
      · rw [List.concat_eq_append, ← List.cons_append, ← List.append_assoc] at h
        exact ih (List.append_inj' h rfl).1

/-- The step of one task, taken apart. -/
theorem next_step {s s' : System σ τ} {index : Nat} {event : ε}
    (h : b.next s (.step index event) = some s') :
    ∃ task shared task', s.tasks[index]? = some task ∧
      b.step s.shared task event = some (shared, task') ∧
      s' = { shared, tasks := s.tasks.set index task' } := by
  simp only [next] at h
  cases hTask : s.tasks[index]? with
  | none =>
      rw [hTask] at h
      cases h
  | some task =>
      rw [hTask] at h
      dsimp only at h
      cases hStep : b.step s.shared task event with
      | none =>
          rw [hStep] at h
          cases h
      | some result =>
          obtain ⟨shared, task'⟩ := result
          rw [hStep] at h
          exact ⟨task, shared, task', rfl, hStep, (Option.some.inj h).symm⟩

theorem next_start {s s' : System σ τ} {task : τ} (h : b.next s (.start task) = some s') :
    b.starts task ∧ s' = { s with tasks := s.tasks ++ [task] } := by
  simp only [next] at h
  split at h
  case isTrue hStarts => exact ⟨hStarts, (Option.some.inj h).symm⟩
  case isFalse => cases h

end Behaviour

/-- The sum of a weight over the tasks. -/
def weigh (w : τ → Nat) (tasks : List τ) : Nat := (tasks.map w).sum

section Weigh

variable (w : τ → Nat)

@[simp] theorem weigh_nil : weigh w [] = 0 := rfl

@[simp] theorem weigh_cons (task : τ) (tasks : List τ) :
    weigh w (task :: tasks) = w task + weigh w tasks := by
  simp [weigh]

@[simp] theorem weigh_append (first later : List τ) :
    weigh w (first ++ later) = weigh w first + weigh w later := by
  simp [weigh]

/-- What a task weighs before its step and after it is all that changes. -/
theorem weigh_set {tasks : List τ} {index : Nat} {task : τ} (h : tasks[index]? = some task)
    (task' : τ) : weigh w (tasks.set index task') + w task = weigh w tasks + w task' := by
  induction tasks generalizing index with
  | nil => cases h
  | cons first tasks ih =>
      cases index with
      | zero =>
          cases h
          simp only [List.set_cons_zero, weigh_cons]
          omega
      | succ index =>
          have hRest := ih (List.getElem?_cons_succ ▸ h)
          simp only [List.set_cons_succ, weigh_cons]
          omega

theorem weigh_ge {tasks : List τ} {index : Nat} {task : τ} (h : tasks[index]? = some task) :
    w task ≤ weigh w tasks := by
  induction tasks generalizing index with
  | nil => cases h
  | cons first tasks ih =>
      cases index with
      | zero =>
          cases h
          simp
      | succ index =>
          have hRest := ih (List.getElem?_cons_succ ▸ h)
          simp only [weigh_cons]
          omega

theorem weigh_eq_zero {tasks : List τ} (h : ∀ task ∈ tasks, w task = 0) : weigh w tasks = 0 := by
  induction tasks with
  | nil => rfl
  | cons first tasks ih =>
      rw [weigh_cons, h first List.mem_cons_self,
        ih fun task hMem => h task (List.mem_cons_of_mem _ hMem)]

end Weigh

end Tasks
