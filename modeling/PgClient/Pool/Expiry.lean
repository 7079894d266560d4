import PgClient.Pool.Accounting

/-!
What an acquire loop does about expired connections. It looks at the front of the idle queue in
one critical section and takes the front in another, so that the connection that it takes need
not be the one that it has looked at.
-/

namespace PgClient

open Tasks Tasks.Behaviour

namespace Pool

/-- Whether a task has decided that the front of the queue is expired, or that it is not. -/
def Task.presumes : Task → Option Bool
  | .decided _ .discardExpired => some true
  | .decided _ .ready => some false
  | _ => none

/-- What a task has decided about the front of the queue is so, unless the queue is empty. -/
def Fits (pool : Pool) (task : Task) : Prop :=
  ∀ expired, task.presumes = some expired → ∀ pooled ∈ pool.idle.head?,
    pooled.isExpired pool.config pool.now = expired

/-- Only what is expired is closed as expired, and only what is not is returned as ready. -/
structure ActsOnRight (m : PoolMove) : Prop where
  closes : ∀ (index : Nat) loop connection,
    m.before.tasks[index]? = some (Task.decided loop .discardExpired) →
    m.after.tasks[index]? = some (Task.discarding loop connection) →
      ∃ pooled ∈ m.before.shared.idle.head?, pooled.connection = connection ∧
        pooled.isExpired m.before.shared.config m.before.shared.now = true
  returns : ∀ (index : Nat) loop acquired,
    m.before.tasks[index]? = some (Task.decided loop .ready) →
    m.after.tasks[index]? = some (Task.holding acquired) →
      ∃ pooled ∈ m.before.shared.idle.head?,
        (⟨pooled.connection, pooled.createdAt⟩ : AcquiredConnection) = acquired ∧
        pooled.isExpired m.before.shared.config m.before.shared.now = false

/-- A task that is not the one to move, and what it has decided, which the move outdates. -/
def Outdates (m : PoolMove) (index : Nat) (task : Task) : Prop :=
  m.before.tasks[index]? = some task ∧ (∀ event, m.label ≠ .step index event) ∧
    ¬ Fits m.after.shared task

variable {display : PgError → String} {pool pool' : Pool} {task task' : Task} {event : Event}

theorem fits_decision (pool : Pool) (loop : AcquireLoop) :
    Fits pool (.decided loop (pool.decision loop)) := by
  intro expired hPresumes pooled hFront
  obtain ⟨rest, hIdle⟩ : ∃ rest, pool.idle = pooled :: rest := by
    cases hIdle : pool.idle with
    | nil =>
        rw [hIdle] at hFront
        cases hFront
    | cons first rest =>
        rw [hIdle] at hFront
        cases hFront
        exact ⟨rest, rfl⟩
  unfold decision at hPresumes
  rw [hIdle] at hPresumes
  dsimp only at hPresumes
  split at hPresumes
  case isTrue hExpired =>
      cases hPresumes
      exact hExpired
  case isFalse hExpired =>
      split at hPresumes
      case isTrue => cases hPresumes
      case isFalse =>
          cases hPresumes
          exact Bool.eq_false_iff.mpr hExpired

/-- A task that has just decided has looked at the front. -/
theorem Stepped.fits (h : Stepped display pool task event pool' task') : Fits pool' task' := by
  cases h with
  | decides => exact fits_decision _ _
  | _ => exact fun _ hPresumes => nomatch hPresumes

/-- What every task has decided is so. -/
def AllFit (s : State) : Prop :=
  ∀ (index : Nat) task, s.tasks[index]? = some task → Fits s.shared task

theorem allFit_next {s s' : State} {label : Label Task Event Nat}
    (hNext : (behaviour display).next s label = some s')
    (hKept : ∀ index task, ¬ Outdates ⟨s, label, s'⟩ index task) : AllFit s' := by
  have hOther : ∀ (index : Nat) task, s.tasks[index]? = some task →
      (∀ event, label ≠ .step index event) → Fits s'.shared task :=
    fun index task hTask hLabel =>
      Classical.not_not.mp fun hFits => hKept index task ⟨hTask, hLabel, hFits⟩
  intro index task hTask
  cases label with
  | start started =>
      obtain ⟨hStarts, rfl⟩ := next_start hNext
      rw [List.getElem?_append] at hTask
      split at hTask
      case isTrue => exact hOther index task hTask fun _ hLabel => by cases hLabel
      case isFalse =>
          cases List.mem_singleton.mp (List.mem_of_getElem? hTask)
          intro expired hPresumes
          unfold Task.presumes at hPresumes
          split at hPresumes
          · cases hStarts
          · cases hStarts
          · cases hPresumes
  | pass time =>
      cases hNext
      exact hOther index task hTask fun _ hLabel => by cases hLabel
  | step moved event =>
      obtain ⟨before, pool', task', hBefore, hStep, rfl⟩ := next_step hNext
      by_cases hSame : moved = index
      · subst hSame
        rw [List.getElem?_set_self (List.getElem?_eq_some_iff.mp hBefore).1] at hTask
        cases hTask
        exact (stepped hStep).fits
      · rw [List.getElem?_set_ne hSame] at hTask
        refine hOther index task hTask fun event' hLabel => hSame ?_
        cases hLabel
        rfl

/-- A task acts in a step of its own. -/
theorem own_step {s s' : State} {label : Label Task Event Nat} {index : Nat}
    (hNext : (behaviour display).next s label = some s') (hTask : s.tasks[index]? = some task)
    (hTask' : s'.tasks[index]? = some task') (hMoved : task ≠ task') :
    ∃ event, label = .step index event ∧ Stepped display s.shared task event s'.shared task' := by
  cases label with
  | start started =>
      obtain ⟨-, rfl⟩ := next_start hNext
      rw [List.getElem?_append_left (List.getElem?_eq_some_iff.mp hTask).1, hTask] at hTask'
      exact absurd (Option.some.inj hTask') hMoved
  | pass time =>
      cases hNext
      exact absurd (Option.some.inj (hTask.symm.trans hTask')) hMoved
  | step moved event =>
      obtain ⟨before, pool', after, hBefore, hStep, rfl⟩ := next_step hNext
      by_cases hSame : moved = index
      · subst hSame
        rw [List.getElem?_set_self (List.getElem?_eq_some_iff.mp hBefore).1] at hTask'
        cases hTask'
        cases hBefore.symm.trans hTask
        exact ⟨event, rfl, stepped hStep⟩
      · rw [List.getElem?_set_ne hSame] at hTask'
        exact absurd (Option.some.inj (hTask.symm.trans hTask')) hMoved

theorem actsOnRight_of_allFit {m : PoolMove}
    (hNext : (behaviour display).next m.before m.label = some m.after) (h : AllFit m.before) :
    ActsOnRight m := by
  constructor
  · intro index loop connection hTask hTask'
    obtain ⟨event, -, hStepped⟩ := own_step hNext hTask hTask' (by simp)
    generalize m.after.shared = pool' at hStepped
    cases hStepped with
    | @popsExpired _ pooled rest hIdle =>
        have hFront : pooled ∈ m.before.shared.idle.head? := congrArg List.head? hIdle
        exact ⟨pooled, hFront, rfl, h index _ hTask true rfl pooled hFront⟩
  · intro index loop acquired hTask hTask'
    obtain ⟨event, -, hStepped⟩ := own_step hNext hTask hTask' (by simp)
    generalize m.after.shared = pool' at hStepped
    cases hStepped with
    | @claims _ pooled rest hIdle =>
        have hFront : pooled ∈ m.before.shared.idle.head? := congrArg List.head? hIdle
        exact ⟨pooled, hFront, rfl, h index _ hTask false rfl pooled hFront⟩

/-- What a task acts on in its next step. -/
theorem next_decided {s : State} {index : Nat} {loop : AcquireLoop} {decision : AcquireDecision}
    (hTask : s.tasks[index]? = some (Task.decided loop decision)) :
    (behaviour display).next s (.step index .run) =
      some ⟨(decidedStep s.shared loop decision).1,
        s.tasks.set index (decidedStep s.shared loop decision).2⟩ := by
  simp only [Behaviour.next, hTask]
  rfl

/-- A task that does not move stays as it is. -/
theorem stays_of_other {s s' : State} {label : Label Task Event Nat} {index : Nat}
    (hNext : (behaviour display).next s label = some s') (hTask : s.tasks[index]? = some task)
    (hLabel : ∀ event, label ≠ .step index event) : s'.tasks[index]? = some task := by
  cases label with
  | start started =>
      obtain ⟨-, rfl⟩ := next_start hNext
      rw [List.getElem?_append_left (List.getElem?_eq_some_iff.mp hTask).1, hTask]
  | pass time =>
      cases hNext
      exact hTask
  | step moved event =>
      obtain ⟨before, pool', after, hBefore, hStep, rfl⟩ := next_step hNext
      have hOther : moved ≠ index := fun hSame => hLabel event (by rw [hSame])
      rw [List.getElem?_set_ne hOther, hTask]

/-- A task whose decision is outdated is one step away from acting on it. -/
theorem acts_of_outdates {m : PoolMove} {index : Nat}
    (hNext : (behaviour display).next m.before m.label = some m.after)
    (h : Outdates m index task) :
    ∃ s', (behaviour display).next m.after (.step index .run) = some s' ∧
      ¬ ActsOnRight ⟨m.after, .step index .run, s'⟩ := by
  obtain ⟨hTask, hLabel, hFits⟩ := h
  have hStays := stays_of_other hNext hTask hLabel
  have hIndex := (List.getElem?_eq_some_iff.mp hStays).1
  unfold Fits at hFits
  push Not at hFits
  obtain ⟨expired, hPresumes, pooled, hFront, hOther⟩ := hFits
  obtain ⟨rest, hIdle⟩ := List.head?_eq_some_iff.mp hFront
  unfold Task.presumes at hPresumes
  split at hPresumes
  · next loop =>
      cases hPresumes
      refine ⟨_, next_decided hStays, fun hRight => ?_⟩
      obtain ⟨pooled', hFront', -, hExpired⟩ := hRight.closes index loop pooled.connection hStays
        (by simp only [decidedStep, hIdle, List.getElem?_set_self hIndex])
      cases hFront.symm.trans hFront'
      exact hOther hExpired
  · next loop =>
      cases hPresumes
      refine ⟨_, next_decided hStays, fun hRight => ?_⟩
      obtain ⟨pooled', hFront', -, hExpired⟩ := hRight.returns index loop
        ⟨pooled.connection, pooled.createdAt⟩ hStays
        (by simp only [decidedStep, hIdle, List.getElem?_set_self hIndex])
      cases hFront.symm.trans hFront'
      exact hOther hExpired
  · cases hPresumes

/-- In every run in which no move outdates what another task has decided, only expired
connections are closed as expired and only others are returned as ready; after a move that
does outdate it, the next step of that task is wrong. -/
theorem actsOnRight_of_fitting {start last : State} {moves : List PoolMove} (hFresh : Fresh start)
    (hRun : (behaviour display).Run start moves last) :
    ((∀ m ∈ moves, ∀ index task, ¬ Outdates m index task) → ∀ m ∈ moves, ActsOnRight m) ∧
      ∀ m ∈ moves, ∀ index task, Outdates m index task →
        ∃ s', (behaviour display).next m.after (.step index .run) = some s' ∧
          ¬ ActsOnRight ⟨m.after, .step index .run, s'⟩ := by
  constructor
  · intro hKept m hMem
    have hStart : AllFit start := by
      intro index task hTask
      rw [hFresh.noTask] at hTask
      cases hTask
    obtain ⟨-, hFit⟩ := hRun.invariant hStart
      (fun s label s' _ hNext hAllowed => allFit_next hNext hAllowed) hKept
    exact actsOnRight_of_allFit (hRun.next m hMem) (hFit m hMem).1
  · exact fun m hMem index task => acts_of_outdates (hRun.next m hMem)

/-- Two idle connections. -/
def idlePool : Pool where
  config := { minIdle := 2, testOnAcquire := false }
  idle := [⟨.new, 0, 0⟩, ⟨.new, 0, 0⟩]
  totalCreated := 2
  now := 0

theorem fresh_idlePool : Fresh ⟨idlePool, []⟩ :=
  ⟨⟨idlePool.config, fun _ => (0, .ok .new), 0, rfl⟩, rfl⟩

/-- An acquirer by itself, which finds an expired connection. -/
def discardedAlone : List (Label Task Event Nat) :=
  [.pass 600001, .start (.acquiring .acquire), .step 0 .run, .step 0 .run]

theorem actsOnRight_discardedAlone :
    ∃ moves last, (behaviour fun _ => "").Run ⟨idlePool, []⟩ moves last ∧ moves.length = 4 ∧
      ∀ m ∈ moves, ActsOnRight m := by
  have hRun := run_of_trace (b := behaviour fun _ => "") discardedAlone (s := ⟨idlePool, []⟩) rfl
  refine ⟨_, _, hRun, rfl, (actsOnRight_of_fitting fresh_idlePool hRun).1 ?_⟩
  simp only [List.forall_mem_cons]
  refine ⟨?_, ?_, ?_, ?_, fun _ hMem => absurd hMem List.not_mem_nil⟩
  · exact fun index task hOutdates => nomatch hOutdates.1
  · exact fun index task hOutdates => nomatch hOutdates.1
  · intro index task hOutdates
    cases index with
    | zero => exact hOutdates.2.1 _ rfl
    | succ index => exact nomatch hOutdates.1
  · intro index task hOutdates
    cases index with
    | zero => exact hOutdates.2.1 _ rfl
    | succ index => exact nomatch hOutdates.1

/-- Two acquirers find the same connection expired; the second one takes another. -/
def discardedTwice : List (Label Task Event Nat) :=
  [.start (.acquiring .acquire), .step 0 .run, .step 0 .run, .pass 300000, .step 0 .drop,
    .pass 300001, .start (.acquiring .acquire), .start (.acquiring .acquire), .step 1 .run,
    .step 2 .run, .step 1 .run, .step 2 .run]

theorem not_actsOnRight :
    ¬ ∀ (display : PgError → String) (start last : State) (moves : List PoolMove), Fresh start →
      (behaviour display).Run start moves last → ∀ m ∈ moves, ActsOnRight m := by
  intro hActs
  have hRun := run_of_trace (b := behaviour fun _ => "") discardedTwice (s := ⟨idlePool, []⟩) rfl
  have hMoves := hActs _ _ _ _ fresh_idlePool hRun
  simp only [List.forall_mem_cons] at hMoves
  obtain ⟨-, -, -, -, -, -, -, -, -, -, -, hLast, -⟩ := hMoves
  obtain ⟨pooled, hFront, -, hExpired⟩ := hLast.closes 2 .acquire .new rfl rfl
  cases hFront
  cases hExpired

end Pool
end PgClient
