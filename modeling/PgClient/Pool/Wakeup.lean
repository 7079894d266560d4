import PgClient.Pool.Accounting

/-!
Tasks that sleep until the wake channel has a token, and the tokens. Whoever frees capacity
owes a notification; the invariant weighs the sleepers and the free capacity against the
tokens and the tasks that are about to look, to notify or to replenish.
-/

namespace PgClient

open Tasks Tasks.Behaviour

/-- Only the timed loop sleeps on an exhausted pool. -/
def AcquireLoop.sleepers : AcquireLoop → Nat
  | .acquireWithTimeout _ => 1
  | _ => 0

namespace Pool

namespace Task

/-- A task that found the pool exhausted does not look again before it sleeps. -/
def sleepers : Task → Nat
  | .waiting _ => 1
  | .decided loop .exhausted => loop.sleepers
  | _ => 0

/-- A task that is going to look for a connection. -/
def seekers : Task → Nat
  | .acquiring _ | .decided _ .discardExpired | .decided _ .needsHealthCheck | .decided _ .ready
  | .discarding _ _ => 1
  | _ => 0

def notifiers : Task → Nat
  | .notifying _ => 1
  | _ => 0

/-- A task that is going to look whether there are idle connections enough. -/
def replenishers : Task → Nat
  | .discardingReleased _ | .maintainingMinIdle => 1
  | _ => 0

/-- A connection that no counter of the pool counts. -/
def unseen : Task → Nat
  | .pinging _ _ | .resetting _ | .returning _ => 1
  | _ => 0

/-- A task that can go on by itself. An await on a connection can end at any time; what
the holder of a guard does is not the pool's. -/
def able (pool : Pool) : Task → Bool
  | .waiting deadline => pool.wake || deadline ≤ pool.now
  | .failed _ | .holding _ | .closingAll [] => false
  | _ => true

end Task

/-- What happens to a task by itself. -/
def Event.isOwn : Event → Bool
  | .use _ | .release | .drop | .detach | .cancel => false
  | _ => true

def tokens (pool : Pool) : Nat := pool.wake.toNat

/-- There is a wakeup for every sleeper, or, in an open pool, no more to wake for than
there are wakeups and tasks that are on their way. -/
def ServedBy (pool : Pool) (sleepers seekers notifiers replenishers unseen : Nat) : Prop :=
  sleepers ≤ pool.tokens + notifiers ∨
    pool.closed = false ∧ pool.idle.length ≤ pool.tokens + notifiers + seekers ∧
      pool.config.maxSize - (pool.activeCount + pool.pendingCount + unseen) ≤
        pool.tokens + notifiers + seekers + replenishers

def Served (s : State) : Prop :=
  s.shared.ServedBy (weigh Task.sleepers s.tasks) (weigh Task.seekers s.tasks)
    (weigh Task.notifiers s.tasks) (weigh Task.replenishers s.tasks) (weigh Task.unseen s.tasks)

/-- No task can go on, one of them sleeps, and yet there is something to wake it for. -/
structure LostWakeup (s : State) : Prop where
  sleeps : ∃ deadline, Task.waiting deadline ∈ s.tasks
  quiescent : ∀ task ∈ s.tasks, task.able s.shared = false
  room : s.shared.closed ∨ s.shared.idle ≠ [] ∨ s.shared.total < s.shared.config.maxSize

/-- The pool as if the task did not count in it. -/
def uncounted (pool : Pool) (task : Task) : Pool :=
  if 0 < task.creations then pool.removePending else pool

/-- The state as if the task had gone, with the place that it takes. -/
def vacate (s : State) (index : Nat) (task : Task) : State where
  shared := s.shared.uncounted task
  tasks := s.tasks.set index .done

/-- The steps that end what a task had begun, or lose its notification, and tell no one. -/
def EndsSilently (pool : Pool) : Task → Event → Prop
  | .creating _, .connected net result => ∃ e, createConnection pool.config net result = .err e
  | .replacing, .connected net result =>
      (∃ e, createConnection pool.config net result = .err e) ∨
        pool.config.minIdle ≤ pool.idle.length
  | .maintainingMinIdle, .run => pool.config.minIdle ≤ pool.idle.length + pool.pendingCount
  | .notifying _, .run => pool.wake
  | .creating _, .cancel | .replacing, .cancel => False
  | _, .cancel => True
  | _, _ => False

/-- A task ends silently while it is needed, or `close` has more sleepers than wakeups. -/
def ForsakesSleepers (m : PoolMove) : Prop :=
  ∃ index event task, m.label = .step index event ∧ m.before.tasks[index]? = some task ∧
    (EndsSilently m.before.shared task event ∧ ¬ Served (vacate m.before index task) ∨
      task = .closing ∧ event = .run ∧
        m.before.shared.tokens + weigh Task.notifiers m.before.tasks + 1 <
          weigh Task.sleepers m.before.tasks)

section Decision

variable {pool : Pool} {loop : AcquireLoop}

theorem decision_exhausted (h : pool.decision loop = .exhausted) :
    pool.idle = [] ∧ pool.config.maxSize ≤ pool.total := by
  simp only [decision] at h
  split at h
  case h_1 =>
      split at h
      case isTrue => cases h
      case isFalse => split at h <;> cases h
  case h_2 hIdle =>
      split at h
      case isTrue => cases h
      case isFalse hFull => exact ⟨hIdle, Nat.le_of_not_lt hFull⟩

theorem decision_createNew (h : pool.decision loop = .createNew) :
    pool.idle = [] ∧ pool.total < pool.config.maxSize := by
  simp only [decision] at h
  split at h
  case h_1 =>
      split at h
      case isTrue => cases h
      case isFalse => split at h <;> cases h
  case h_2 hIdle =>
      split at h
      case isTrue hRoom => exact ⟨hIdle, hRoom⟩
      case isFalse => cases h

end Decision

variable {display : PgError → String} {pool pool' : Pool} {task task' : Task} {event : Event}

/-- Wakeups that were enough still are, and capacity that was matched. -/
theorem ServedBy.imp {sleepers seekers notifiers replenishers unseen : Nat}
    {sleepers' seekers' notifiers' replenishers' unseen' : Nat}
    (h : pool.ServedBy sleepers seekers notifiers replenishers unseen)
    (hClosed : pool'.closed = pool.closed)
    (hWakeups : sleepers ≤ pool.tokens + notifiers → sleepers' ≤ pool'.tokens + notifiers')
    (hIdle : pool.idle.length ≤ pool.tokens + notifiers + seekers →
      pool'.idle.length ≤ pool'.tokens + notifiers' + seekers')
    (hSpare : pool.config.maxSize - (pool.activeCount + pool.pendingCount + unseen) ≤
        pool.tokens + notifiers + seekers + replenishers →
      pool'.config.maxSize - (pool'.activeCount + pool'.pendingCount + unseen') ≤
        pool'.tokens + notifiers' + seekers' + replenishers') :
    pool'.ServedBy sleepers' seekers' notifiers' replenishers' unseen' := by
  cases h with
  | inl hEnough => exact .inl (hWakeups hEnough)
  | inr hMatched =>
      obtain ⟨hOpen, hIdle', hSpare'⟩ := hMatched
      exact .inr ⟨hClosed.trans hOpen, hIdle hIdle', hSpare hSpare'⟩

theorem ServedBy.of_closed {sleepers seekers notifiers replenishers unseen : Nat}
    (h : pool.ServedBy sleepers seekers notifiers replenishers unseen) (hClosed : pool.closed) :
    sleepers ≤ pool.tokens + notifiers := by
  cases h with
  | inl hEnough => exact hEnough
  | inr hMatched =>
      rw [hClosed] at hMatched
      cases hMatched.1

/-- One step, among others that weigh what they weigh. -/
theorem Stepped.served {sleepers seekers notifiers replenishers unseen : Nat}
    (h : Stepped display pool task event pool' task')
    (hServed : pool.ServedBy (sleepers + task.sleepers) (seekers + task.seekers)
      (notifiers + task.notifiers) (replenishers + task.replenishers) (unseen + task.unseen))
    (hSilent : EndsSilently pool task event →
      (pool.uncounted task).ServedBy sleepers seekers notifiers replenishers unseen)
    (hClose : task = .closing → event = .run → sleepers ≤ pool.tokens + notifiers + 1) :
    pool'.ServedBy (sleepers + task'.sleepers) (seekers + task'.seekers)
      (notifiers + task'.notifiers) (replenishers + task'.replenishers)
      (unseen + task'.unseen) := by
  cases h with
  | @decides loop hOpen hDecision =>
      generalize hKind : pool.decision loop = decision at hDecision ⊢
      cases decision with
      | createNew => exact absurd rfl hDecision
      | exhausted =>
          obtain ⟨hIdle, hFull⟩ := decision_exhausted hKind
          simp only [Pool.total, hIdle, List.length_nil] at hFull
          exact .inr ⟨hOpen, by simp [hIdle], by omega⟩
      | _ => exact hServed
  | misses hIdle hDecision =>
      rcases hDecision with rfl | rfl | rfl <;> exact hServed
  | foundClosed hClosed | createdLate hClosed | releasesClosed hClosed =>
      exact .inl (hServed.of_closed hClosed)
  | creationFailed hFailed => exact hSilent ⟨_, hFailed⟩
  | replacementFailed hFailed => exact hSilent (.inl ⟨_, hFailed⟩)
  | replacedInVain hEnough =>
      cases hEnough with
      | inl hClosed => exact .inl (hServed.of_closed hClosed)
      | inr hEnough => exact hSilent (.inr hEnough)
  | hasMinIdle hEnough =>
      cases hEnough with
      | inl hClosed => exact .inl (hServed.of_closed hClosed)
      | inr hEnough => exact hSilent hEnough
  | closes => exact .inl (hClose rfl rfl)
  | notifies =>
      cases hWake : pool.wake with
      | true =>
          refine (hSilent hWake).imp rfl ?_ ?_ ?_ <;>
            simp [tokens, hWake, uncounted, Task.creations, Task.sleepers, Task.seekers,
              Task.notifiers, Task.replenishers, Task.unseen]
      | false =>
          refine hServed.imp rfl ?_ ?_ ?_ <;> intro hBefore <;>
            simp_all [tokens, Task.sleepers, Task.seekers, Task.notifiers, Task.replenishers,
              Task.unseen] <;> omega
  | cancelled hAwaits =>
      cases task with
      | creating | replacing => exact hServed
      | decided => cases hAwaits
      | _ => exact hSilent trivial
  | beginsCreation hOpen hDecision =>
      obtain ⟨hIdle, hRoom⟩ := decision_createNew hDecision
      simp only [Pool.total, hIdle, List.length_nil] at hRoom
      refine hServed.imp rfl ?_ ?_ ?_ <;> intro hBefore <;>
        simp_all [tokens, Task.sleepers, Task.seekers, Task.notifiers, Task.replenishers,
          Task.unseen]
      omega
  | maintains =>
      have hFilter := List.length_filter_le
        (fun pooled => !pooled.isExpired pool.config pool.now) pool.idle
      exact hServed.imp rfl id (fun hBefore => Nat.le_trans hFilter hBefore) id
  | _ =>
      refine hServed.imp rfl ?_ ?_ ?_ <;> intro hBefore <;>
        simp_all [tokens, Task.sleepers, AcquireLoop.sleepers, Task.seekers, Task.notifiers,
          Task.replenishers, Task.unseen] <;> omega

theorem served_of_fresh {s : State} (h : Fresh s) : Served s := by
  refine .inl ?_
  rw [h.noTask]
  exact Nat.zero_le _

/-- A task that is done weighs nothing, so the others weigh the rest. -/
theorem weigh_split (w : Task → Nat) (hDone : w .done = 0) {tasks : List Task} {index : Nat}
    (hTask : tasks[index]? = some task) (task' : Task) :
    weigh w (tasks.set index task') = weigh w (tasks.set index .done) + w task' := by
  have hTask' := weigh_set w hTask task'
  have hVacated := weigh_set w hTask .done
  omega

theorem weigh_split_self (w : Task → Nat) (hDone : w .done = 0) {tasks : List Task}
    {index : Nat} (hTask : tasks[index]? = some task) :
    weigh w tasks = weigh w (tasks.set index .done) + w task := by
  have hVacated := weigh_set w hTask .done
  omega

theorem served_next {s s' : State} {label : Label Task Event Nat} (h : Served s)
    (hNext : (behaviour display).next s label = some s')
    (hKept : ¬ ForsakesSleepers ⟨s, label, s'⟩) : Served s' := by
  cases label with
  | start task =>
      obtain ⟨hStarts, rfl⟩ := next_start hNext
      obtain ⟨hSleepers, hNotifiers, hReplenishers, hUnseen⟩ :
          task.sleepers = 0 ∧ task.notifiers = 0 ∧ task.replenishers = 0 ∧ task.unseen = 0 := by
        cases task <;> first | exact ⟨rfl, rfl, rfl, rfl⟩ | cases hStarts
      simp only [Served, weigh_append, weigh_cons, weigh_nil, hSleepers, hNotifiers,
        hReplenishers, hUnseen]
      exact ServedBy.imp h rfl id (fun hBefore => by omega) fun hBefore => by omega
  | pass time =>
      cases hNext
      exact h
  | step index event =>
      obtain ⟨task, pool', task', hTask, hStep, rfl⟩ := next_step hNext
      have hNotifiers := weigh_split_self Task.notifiers rfl hTask
      have hSleepers := weigh_split_self Task.sleepers rfl hTask
      have hServed := h
      simp only [Served, hSleepers, hNotifiers, weigh_split_self Task.seekers rfl hTask,
        weigh_split_self Task.replenishers rfl hTask,
        weigh_split_self Task.unseen rfl hTask] at hServed
      simp only [Served, weigh_split Task.sleepers rfl hTask task',
        weigh_split Task.seekers rfl hTask task', weigh_split Task.notifiers rfl hTask task',
        weigh_split Task.replenishers rfl hTask task', weigh_split Task.unseen rfl hTask task']
      refine (stepped hStep).served hServed (fun hEnds => ?_) (fun hCloses hRuns => ?_)
      · exact Classical.not_not.mp fun hNot =>
          hKept ⟨index, event, task, rfl, hTask, .inl ⟨hEnds, hNot⟩⟩
      · subst hCloses
        refine Nat.le_of_not_lt fun hMany => ?_
        refine hKept ⟨index, event, .closing, rfl, hTask, .inr ⟨rfl, hRuns, ?_⟩⟩
        dsimp only
        rw [hSleepers, hNotifiers]
        exact hMany

/-- Nothing is lost where sleepers and capacity are matched: no task is on its way, so
either nothing sleeps or there is nothing to wake it for. -/
theorem not_lostWakeup_of_served {s : State} (h : Served s) : ¬ LostWakeup s := by
  intro hLost
  obtain ⟨deadline, hSleeps⟩ := hLost.sleeps
  have hAsleep := hLost.quiescent _ hSleeps
  simp only [Task.able, Bool.or_eq_false_iff] at hAsleep
  have hNone (w : Task → Nat) (hAble : ∀ task, w task = 0 ∨ task.able s.shared) :
      weigh w s.tasks = 0 :=
    weigh_eq_zero w fun task hMem => (hAble task).resolve_right
      (by simp [hLost.quiescent task hMem])
  have hSeekers := hNone Task.seekers fun task => by
    cases task <;> first | exact .inl rfl | exact .inr rfl
  have hNotifiers := hNone Task.notifiers fun task => by
    cases task <;> first | exact .inl rfl | exact .inr rfl
  have hReplenishers := hNone Task.replenishers fun task => by
    cases task <;> first | exact .inl rfl | exact .inr rfl
  have hUnseen := hNone Task.unseen fun task => by
    cases task <;> first | exact .inl rfl | exact .inr rfl
  obtain ⟨index, hIndex⟩ := List.getElem?_of_mem hSleeps
  have hSleepers : 1 ≤ weigh Task.sleepers s.tasks := weigh_ge Task.sleepers hIndex
  have hRoom := hLost.room
  simp only [Served, ServedBy, tokens, hAsleep.1, hSeekers, hNotifiers, hReplenishers,
    hUnseen, Bool.toNat_false] at h
  rcases h with hEnough | ⟨hOpen, hIdle, hSpare⟩
  · omega
  · have hEmpty := List.eq_nil_of_length_eq_zero (Nat.le_zero.mp hIdle)
    simp only [hOpen, hEmpty, Pool.total, List.length_nil, ne_eq, not_true_eq_false,
      Bool.false_eq_true, false_or] at hRoom
    omega

/-- In a run that never forsakes its sleepers no wakeup is ever lost. -/
theorem no_lostWakeup {start last : State} {moves : List PoolMove} (hFresh : Fresh start)
    (hRun : (behaviour display).Run start moves last)
    (hKept : ∀ m ∈ moves, ¬ ForsakesSleepers m) :
    ¬ LostWakeup last ∧ ∀ m ∈ moves, ¬ LostWakeup m.before ∧ ¬ LostWakeup m.after := by
  obtain ⟨hLast, hMoves⟩ := hRun.invariant (served_of_fresh hFresh)
    (fun s label s' hInv hNext hAllowed => served_next hInv hNext hAllowed) hKept
  exact ⟨not_lostWakeup_of_served hLast, fun m hMem =>
    ⟨not_lostWakeup_of_served (hMoves m hMem).1, not_lostWakeup_of_served (hMoves m hMem).2⟩⟩

/-- An `acquire` that connects, move by move. -/
def freshGuard : List PoolMove :=
  let asked : State := ⟨smallPool, [.acquiring .acquire]⟩
  let decided : State := ⟨smallPool.addPending, [.decided .acquire .createNew]⟩
  let creating : State := ⟨smallPool.addPending, [.creating .acquire]⟩
  [⟨⟨smallPool, []⟩, .start (.acquiring .acquire), asked⟩, ⟨asked, .step 0 .run, decided⟩,
    ⟨decided, .step 0 .run, creating⟩,
    ⟨creating, .step 0 (.connected silentNetwork (.ok .new)),
      ⟨{ smallPool with activeCount := 1, totalCreated := 1 }, [.holding ⟨.new, 0⟩]⟩⟩]

theorem no_lostWakeup_freshGuard :
    ¬ ∃ m ∈ freshGuard, LostWakeup m.before ∨ LostWakeup m.after := by
  have hRun : (behaviour fun _ => "").Run ⟨smallPool, []⟩ freshGuard _ :=
    .snoc (.snoc (.snoc (.snoc .nil rfl) rfl) rfl) rfl
  suffices hNone : ∀ m ∈ freshGuard, ¬ LostWakeup m.before ∧ ¬ LostWakeup m.after by
    rintro ⟨m, hMem, hLost⟩
    exact hLost.elim (hNone m hMem).1 (hNone m hMem).2
  refine (no_lostWakeup fresh_smallPool hRun ?_).2
  simp only [freshGuard, List.forall_mem_cons]
  refine ⟨?_, ?_, ?_, ?_, by simp⟩ <;> rintro ⟨index, event, task, hLabel, hTask, hForsakes⟩ <;>
    cases hLabel <;> cases hTask <;> rcases hForsakes with hSilent | hCloses <;>
    first | cases hCloses.1 | have hEnds := hSilent.1
  · exact hEnds
  · exact hEnds
  · simp only [EndsSilently] at hEnds
    obtain ⟨e, hFailed⟩ := hEnds
    cases hFailed

/-- The holder closes its connection and releases the guard while a second `acquire`
sleeps: the connection is thrown away, which frees its place, and no one is told. -/
def forsaken : List (Label Task Event Nat) :=
  [.step 0 (.use (Connection.new.setState .closed)), .step 0 .release,
    .step 0 (.resume silentNetwork), .step 0 .run]

def inUse : State :=
  ⟨{ smallPool with activeCount := 1, totalCreated := 1 }, [.holding ⟨.new, 0⟩, .waiting 1]⟩

theorem run_inUse (display : PgError → String) :
    ∃ moves, (behaviour display).Run ⟨smallPool, []⟩ moves inUse :=
  have hAsked : (behaviour display).Run ⟨smallPool, []⟩ _
      ⟨{ smallPool with activeCount := 1, totalCreated := 1 },
        [.holding ⟨.new, 0⟩, .acquiring .acquire]⟩ :=
    run_of_trace [.start (.acquiring .acquire), .step 0 .run, .step 0 .run,
      .step 0 (.connected silentNetwork (.ok .new)), .start (.acquiring .acquire)] rfl
  ⟨_, hAsked.append (run_of_trace [.step 1 .run, .step 1 .run, .step 1 .run, .step 1 .run] rfl)⟩

theorem run_forsaken (display : PgError → String) :
    ∃ moves, (behaviour display).Run inUse moves
      ⟨{ smallPool with totalCreated := 1 }, [.done, .waiting 1]⟩ :=
  ⟨_, run_of_trace forsaken rfl⟩

theorem lostWakeup_reached :
    ¬ ∀ (display : PgError → String) (start last : State) (moves : List PoolMove), Fresh start →
      (behaviour display).Run start moves last → ¬ LostWakeup last := by
  intro hNever
  obtain ⟨before, hBefore⟩ := run_inUse fun _ => ""
  obtain ⟨moves, hRun⟩ := run_forsaken fun _ => ""
  refine hNever _ _ _ _ fresh_smallPool (hBefore.append hRun) ⟨⟨1, by simp⟩, ?_, .inr (.inr ?_)⟩
  · simp [Task.able, smallPool]
  · simp [Pool.total, smallPool]

end Pool
end PgClient
