import PgClient.Pool.Accounting

/-!
What a closed pool still does. `close` marks and drains it in one critical section, but a
release whose reset was under way pushes its connection without looking, and an acquire
whose health check was under way hands its connection out.
-/

namespace PgClient

open Tasks Tasks.Behaviour

namespace Pool

/-- A task that held no guard has one. -/
def HandsOut (m : PoolMove) : Prop :=
  ∃ (index : Nat) (acquired : AcquiredConnection),
    m.after.tasks[index]? = some (Task.holding acquired) ∧
    ∀ earlier, m.before.tasks[index]? ≠ some (Task.holding earlier)

/-- A closed pool has no idle connection, is not opened and gives no guard. -/
structure StaysClosed (m : PoolMove) : Prop where
  empty : m.after.shared.closed → m.after.shared.idle = []
  closed : m.before.shared.closed → m.after.shared.closed
  noGuard : m.before.shared.closed → ¬ HandsOut m

/-- The pool is closed when a release whose reset went through puts its connection back, or
when the health check of an acquire succeeds. -/
def OutlivesClose (m : PoolMove) : Prop :=
  m.before.shared.closed ∧
    ((∃ index acquired, m.label = .step index .run ∧
        m.before.tasks[index]? = some (Task.returning acquired)) ∨
      ∃ index loop pooled net connection, m.label = .step index (.resume net) ∧
        m.before.tasks[index]? = some (Task.pinging loop pooled) ∧
        Connection.ping net pooled.connection = (.ok (), connection))

variable {display : PgError → String} {pool pool' : Pool} {task task' : Task} {event : Event}

theorem Stepped.closed (h : Stepped display pool task event pool' task') (hClosed : pool.closed) :
    pool'.closed := by
  cases h <;> simp_all

theorem Stepped.idle (h : Stepped display pool task event pool' task')
    (hEmpty : pool.closed → pool.idle = []) (hClosed : pool'.closed)
    (hKept : pool.closed → ∀ acquired, task ≠ .returning acquired) : pool'.idle = [] := by
  cases h with
  | returns => exact absurd rfl (hKept hClosed _)
  | _ => simp_all

/-- Of a closed pool only a health check yields a guard. -/
theorem Stepped.holding {acquired : AcquiredConnection}
    (h : Stepped display pool task event pool' (.holding acquired)) (hClosed : pool.closed)
    (hEmpty : pool.idle = []) :
    (∃ earlier, task = .holding earlier) ∨
      ∃ loop pooled net connection, task = .pinging loop pooled ∧ event = .resume net ∧
        Connection.ping net pooled.connection = (.ok (), connection) := by
  cases h with
  | claims hIdle =>
      rw [hEmpty] at hIdle
      cases hIdle
  | pinged hPing => exact .inr ⟨_, _, _, _, rfl, rfl, hPing⟩
  | created hOpen =>
      rw [hClosed] at hOpen
      cases hOpen
  | uses => exact .inl ⟨_, rfl⟩

/-- What `close` left stands before every move. -/
def EmptyWhenClosed (s : State) : Prop := s.shared.closed → s.shared.idle = []

theorem emptyWhenClosed_of_fresh {s : State} (h : Fresh s) : EmptyWhenClosed s := by
  obtain ⟨config, attempt, now, hNew⟩ := h.new
  intro hClosed
  simp only [Pool.new] at hNew
  cases hValid : config.validate with
  | error e =>
      rw [hValid] at hNew
      cases hNew
  | ok =>
      rw [hValid] at hNew
      rw [← Except.ok.inj hNew] at hClosed
      cases hClosed

theorem emptyWhenClosed_next {s s' : State} {label : Label Task Event Nat}
    (h : EmptyWhenClosed s) (hNext : (behaviour display).next s label = some s')
    (hKept : ¬ OutlivesClose ⟨s, label, s'⟩) : EmptyWhenClosed s' := by
  cases label with
  | start task =>
      obtain ⟨-, rfl⟩ := next_start hNext
      exact h
  | pass time =>
      cases hNext
      exact h
  | step index event =>
      obtain ⟨task, pool', task', hTask, hStep, rfl⟩ := next_step hNext
      intro hClosed
      refine (stepped hStep).idle h hClosed fun hBefore acquired hReturns => hKept ⟨hBefore, ?_⟩
      subst hReturns
      cases event with
      | run => exact .inl ⟨index, acquired, rfl, hTask⟩
      | _ => cases hStep

theorem not_handsOut_of_closed {s s' : State} {label : Label Task Event Nat}
    (h : EmptyWhenClosed s) (hNext : (behaviour display).next s label = some s')
    (hClosed : s.shared.closed) (hKept : ¬ OutlivesClose ⟨s, label, s'⟩) :
    ¬ HandsOut ⟨s, label, s'⟩ := by
  rintro ⟨index, acquired, hAfter, hBefore⟩
  dsimp only at hAfter hBefore
  cases label with
  | start task =>
      obtain ⟨hStarts, rfl⟩ := next_start hNext
      rw [List.getElem?_append] at hAfter
      split at hAfter
      case isTrue => exact hBefore acquired hAfter
      case isFalse =>
          cases List.mem_singleton.mp (List.mem_of_getElem? hAfter)
          cases hStarts
  | pass time =>
      cases hNext
      exact hBefore acquired hAfter
  | step moved event =>
      obtain ⟨task, pool', task', hTask, hStep, rfl⟩ := next_step hNext
      by_cases hSame : moved = index
      · subst hSame
        rw [List.getElem?_set_self (List.getElem?_eq_some_iff.mp hTask).1] at hAfter
        cases hAfter
        cases (stepped hStep).holding hClosed (h hClosed) with
        | inl hEarlier =>
            obtain ⟨earlier, rfl⟩ := hEarlier
            exact hBefore earlier hTask
        | inr hPinged =>
            obtain ⟨loop, pooled, net, connection, rfl, rfl, hPing⟩ := hPinged
            exact hKept ⟨hClosed, .inr ⟨moved, loop, pooled, net, connection, rfl, hTask, hPing⟩⟩
      · rw [List.getElem?_set_ne hSame] at hAfter
        exact hBefore acquired hAfter

theorem closed_next {s s' : State} {label : Label Task Event Nat} (hClosed : s.shared.closed)
    (hNext : (behaviour display).next s label = some s') : s'.shared.closed := by
  cases label with
  | start task =>
      obtain ⟨-, rfl⟩ := next_start hNext
      exact hClosed
  | pass time =>
      cases hNext
      exact hClosed
  | step index event =>
      obtain ⟨task, pool', task', -, hStep, rfl⟩ := next_step hNext
      exact (stepped hStep).closed hClosed

/-- Both moves of the condition show: in the idle queue, or as a guard. -/
theorem not_staysClosed_of_outlives {m : PoolMove}
    (hNext : (behaviour display).next m.before m.label = some m.after) (h : OutlivesClose m) :
    ¬ StaysClosed m := by
  obtain ⟨hClosed, hReturns | hPings⟩ := h
  · obtain ⟨index, acquired, hLabel, hTask⟩ := hReturns
    intro hStays
    have hEmpty := hStays.empty (hStays.closed hClosed)
    rw [hLabel] at hNext
    obtain ⟨task, pool', task', hTask', hStep, hAfter⟩ := next_step hNext
    cases hTask.symm.trans hTask'
    cases hStep
    rw [hAfter] at hEmpty
    simp at hEmpty
  · obtain ⟨index, loop, pooled, net, connection, hLabel, hTask, hPing⟩ := hPings
    intro hStays
    refine hStays.noGuard hClosed ⟨index, ⟨connection, pooled.createdAt⟩, ?_, fun earlier => ?_⟩
    · rw [hLabel] at hNext
      obtain ⟨task, pool', task', hTask', hStep, hAfter⟩ := next_step hNext
      cases hTask.symm.trans hTask'
      simp only [behaviour, step, hPing] at hStep
      cases hStep
      rw [hAfter, List.getElem?_set_self (List.getElem?_eq_some_iff.mp hTask).1]
    · rw [hTask]
      simp

/-- A pool stays closed throughout a run if and only if, after `close`, no reset that it
interrupted puts its connection back and no health check that it interrupted succeeds. -/
theorem staysClosed_iff {start last : State} {moves : List PoolMove} (hFresh : Fresh start)
    (hRun : (behaviour display).Run start moves last) :
    (∀ m ∈ moves, StaysClosed m) ↔ ∀ m ∈ moves, ¬ OutlivesClose m := by
  constructor
  · intro hStays m hMem hOutlives
    exact not_staysClosed_of_outlives (hRun.next m hMem) hOutlives (hStays m hMem)
  · intro hKept m hMem
    obtain ⟨-, hEmpty⟩ := hRun.invariant (emptyWhenClosed_of_fresh hFresh)
      (fun s label s' hInv hNext hAllowed => emptyWhenClosed_next hInv hNext hAllowed) hKept
    obtain ⟨hBefore, hAfter⟩ := hEmpty m hMem
    have hNext := hRun.next m hMem
    exact ⟨hAfter, fun hClosed => closed_next hClosed hNext,
      fun hClosed => not_handsOut_of_closed hBefore hNext hClosed (hKept m hMem)⟩

/-- `close` runs while a guard is out, which is dropped later. -/
def closedInUse : List (Label Task Event Nat) :=
  [.start (.acquiring .acquire), .step 0 .run, .step 0 .run,
    .step 0 (.connected silentNetwork (.ok .new)), .start .closing, .step 1 .run, .step 1 .run,
    .step 0 .drop, .step 0 .run]

theorem staysClosed_closedInUse :
    ∃ moves last, (behaviour fun _ => "").Run ⟨smallPool, []⟩ moves last ∧ moves.length = 9 ∧
      ((∀ m ∈ moves, StaysClosed m) ↔ ∀ m ∈ moves, ¬ OutlivesClose m) :=
  have hRun := run_of_trace closedInUse rfl
  ⟨_, _, hRun, rfl, staysClosed_iff fresh_smallPool hRun⟩

/-- `close` runs between the reset of a released connection and its push. -/
def closedInRelease : List (Label Task Event Nat) :=
  [.start (.acquiring .acquire), .step 0 .run, .step 0 .run,
    .step 0 (.connected silentNetwork (.ok .new)), .step 0 .release,
    .step 0 (.resume silentNetwork), .start .closing, .step 1 .run, .step 0 .run]

theorem not_staysClosed :
    ¬ ∀ (display : PgError → String) (start last : State) (moves : List PoolMove), Fresh start →
      (behaviour display).Run start moves last → ∀ m ∈ moves, StaysClosed m := by
  intro hStays
  have hRun := run_of_trace (b := behaviour fun _ => "") closedInRelease (s := ⟨smallPool, []⟩) rfl
  have hMoves := hStays _ _ _ _ fresh_smallPool hRun
  simp only [List.forall_mem_cons] at hMoves
  obtain ⟨-, -, -, -, -, -, -, -, hLast, -⟩ := hMoves
  cases hLast.empty rfl

end Pool
end PgClient
