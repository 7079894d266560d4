import PgClient.Pool.Capacity
import PgClient.Pool.Expiry

/-!
What `acquire_resilient` returns. Its own loop pings every idle connection; the loop that it
falls back to when the pool is exhausted does so only where the configuration asks for it.
-/

namespace PgClient

open Tasks Tasks.Behaviour

namespace Pool

/-- The calls of `acquire_resilient` that have begun, by the places of their tasks. -/
def BegunResilient (moves : List PoolMove) (index : Nat) : Prop :=
  ∃ m ∈ moves, m.label = .start (.acquiring .acquireResilient) ∧ m.before.tasks.length = index

/-- When such a call returns, its connection has been created in this call or has just answered
a ping. -/
def ReturnsChecked (first : List PoolMove) (m : PoolMove) : Prop :=
  ∀ (index : Nat) (task : Task) acquired, BegunResilient first index →
    m.before.tasks[index]? = some task → (∀ held, task ≠ .holding held) →
    m.after.tasks[index]? = some (Task.holding acquired) →
      (∃ loop, task = .creating loop) ∨
        ∃ loop pooled net, task = .pinging loop pooled ∧
          Connection.ping net pooled.connection = (.ok (), acquired.connection)

/-- Every move of a run, after those before it. -/
def Checked (moves : List PoolMove) : Prop :=
  ∀ first m later, moves = first ++ m :: later → ReturnsChecked first m

/-- Such a call has decided that the front of the queue is ready, and there is one. -/
def TakesReady (first : List PoolMove) (m : PoolMove) : Prop :=
  ∃ (index : Nat) (loop : AcquireLoop), BegunResilient first index ∧
    m.before.tasks[index]? = some (Task.decided loop .ready) ∧ m.label = .step index .run ∧
    m.before.shared.idle ≠ []

/-- The loops that such a call goes through. -/
def InCall (config : PoolConfig) (loop : AcquireLoop) : Prop :=
  loop = .acquireResilient ∨ config.acquireTimeout ≠ none

/-- What the task of such a call can be while it runs. -/
def Task.Resilient (config : PoolConfig) : Task → Prop
  | .acquiring loop | .pinging loop _ | .discarding loop _ | .creating loop => InCall config loop
  | .decided loop decision => InCall config loop ∧
      (decision = .ready → config.testOnAcquire = false ∧ config.acquireTimeout ≠ none)
  | .waiting _ => config.acquireTimeout ≠ none
  | _ => True

section Steps

variable {display : PgError → String} {pool pool' : Pool} {task task' : Task} {event : Event}
  {s s' : State} {label : Label Task Event Nat} {config : PoolConfig}

theorem decision_ready {loop : AcquireLoop} (h : pool.decision loop = .ready) :
    loop ≠ .acquireResilient ∧ pool.config.testOnAcquire = false := by
  unfold decision at h
  split at h
  · split at h
    · cases h
    · split at h
      case isTrue => cases h
      case isFalse hNot =>
          obtain ⟨hLoop, hTest⟩ := not_or.mp hNot
          exact ⟨hLoop, Bool.eq_false_iff.mpr hTest⟩
  · split at h <;> cases h

theorem InCall.ready {loop : AcquireLoop} (h : InCall pool.config loop)
    (hReady : pool.decision loop = .ready) :
    pool.config.testOnAcquire = false ∧ pool.config.acquireTimeout ≠ none := by
  obtain ⟨hLoop, hTest⟩ := decision_ready hReady
  exact ⟨hTest, h.resolve_left hLoop⟩

theorem Stepped.resilient (h : Stepped display pool task event pool' task')
    (hTask : task.Resilient pool.config) : task'.Resilient pool.config := by
  cases h with
  | decides => exact ⟨hTask, InCall.ready hTask⟩
  | beginsCreation => exact ⟨hTask, fun hReady => nomatch hReady⟩
  | misses | popsExpired | popsForCheck | creates => exact hTask.1
  | beginsTimeout hLoop hTimeout =>
      refine .inr ?_
      rw [hTimeout]
      exact Option.some_ne_none _
  | waits hBefore => exact hTask.1.resolve_left nofun
  | pingFailed | discarded => exact hTask
  | wakes | timesOut => exact .inr hTask
  | _ => trivial

theorem BegunResilient.append {moves : List PoolMove} {index : Nat}
    (h : BegunResilient moves index) (later : List PoolMove) :
    BegunResilient (moves ++ later) index := by
  obtain ⟨m, hMem, hBegun⟩ := h
  exact ⟨m, List.mem_append_left _ hMem, hBegun⟩

/-- Every call of `acquire_resilient` that has begun, and where it is. -/
structure Follows (config : PoolConfig) (moves : List PoolMove) (s : State) : Prop where
  same : s.shared.config = config
  tasks : ∀ index, BegunResilient moves index →
    ∃ task, s.tasks[index]? = some task ∧ task.Resilient config

theorem begunResilient_snoc {moves : List PoolMove} {m : PoolMove} {index : Nat}
    (h : BegunResilient (moves ++ [m]) index) :
    BegunResilient moves index ∨
      m.label = .start (.acquiring .acquireResilient) ∧ m.before.tasks.length = index := by
  obtain ⟨m', hMem, hBegun⟩ := h
  cases List.mem_append.mp hMem with
  | inl hOld => exact .inl ⟨m', hOld, hBegun⟩
  | inr hNew =>
      rw [List.mem_singleton.mp hNew] at hBegun
      exact .inr hBegun

theorem follows_next {moves : List PoolMove} (h : Follows config moves s)
    (hNext : (behaviour display).next s label = some s') :
    Follows config (moves ++ [⟨s, label, s'⟩]) s' := by
  cases label with
  | start started =>
      obtain ⟨-, rfl⟩ := next_start hNext
      refine ⟨h.same, fun index hBegun => ?_⟩
      obtain hOld | ⟨hLabel, rfl⟩ := begunResilient_snoc hBegun
      · obtain ⟨task, hTask, hResilient⟩ := h.tasks index hOld
        refine ⟨task, ?_, hResilient⟩
        rw [List.getElem?_append_left (List.getElem?_eq_some_iff.mp hTask).1, hTask]
      · cases hLabel
        exact ⟨_, List.getElem?_concat_length, .inl rfl⟩
  | pass time =>
      cases hNext
      refine ⟨h.same, fun index hBegun => ?_⟩
      obtain hOld | ⟨hLabel, -⟩ := begunResilient_snoc hBegun
      · exact h.tasks index hOld
      · cases hLabel
  | step moved event =>
      obtain ⟨before, pool', after, hBefore, hStep, rfl⟩ := next_step hNext
      have hStepped := stepped hStep
      refine ⟨(stepped hStep).config.trans h.same, fun index hBegun => ?_⟩
      obtain hOld | ⟨hLabel, -⟩ := begunResilient_snoc hBegun
      · obtain ⟨task, hTask, hResilient⟩ := h.tasks index hOld
        by_cases hSame : moved = index
        · subst hSame
          cases hBefore.symm.trans hTask
          refine ⟨after, List.getElem?_set_self (List.getElem?_eq_some_iff.mp hBefore).1, ?_⟩
          rw [← h.same] at hResilient ⊢
          exact hStepped.resilient hResilient
        · exact ⟨task, by rw [List.getElem?_set_ne hSame, hTask], hResilient⟩
      · cases hLabel

theorem follows_of_run {start last : State} {moves : List PoolMove}
    (hRun : (behaviour display).Run start moves last) :
    Follows start.shared.config moves last := by
  induction hRun with
  | nil =>
      refine ⟨rfl, fun index hBegun => ?_⟩
      obtain ⟨m, hMem, -⟩ := hBegun
      exact absurd hMem List.not_mem_nil
  | snoc _ hNext ih => exact follows_next ih hNext

theorem returnsChecked_iff {first : List PoolMove} {m : PoolMove}
    (hNext : (behaviour display).next m.before m.label = some m.after) :
    ReturnsChecked first m ↔ ¬ TakesReady first m := by
  constructor
  · rintro hChecked ⟨index, loop, hBegun, hTask, hLabel, hIdle⟩
    obtain ⟨pooled, rest, hFront⟩ := List.exists_cons_of_ne_nil hIdle
    rw [hLabel, next_decided hTask] at hNext
    have hAfter : m.after.tasks[index]? =
        some (Task.holding ⟨pooled.connection, pooled.createdAt⟩) := by
      rw [← Option.some.inj hNext]
      simp only [decidedStep, hFront, List.getElem?_set_self (List.getElem?_eq_some_iff.mp hTask).1]
    obtain ⟨_, hCreating⟩ | ⟨_, _, _, hPinging, -⟩ :=
      hChecked index _ _ hBegun hTask (fun _ => by simp) hAfter
    · cases hCreating
    · cases hPinging
  · intro hNot index task acquired hBegun hTask hNew hTask'
    obtain ⟨event, hLabel, hStepped⟩ := own_step hNext hTask hTask' (hNew acquired)
    generalize m.after.shared = pool' at hStepped
    cases hStepped with
    | claims hFront =>
        refine absurd ⟨index, _, hBegun, hTask, hLabel, ?_⟩ hNot
        rw [hFront]
        exact List.cons_ne_nil _ _
    | created hOpen => exact .inl ⟨_, rfl⟩
    | @pinged loop pooled net connection hPing => exact .inr ⟨loop, pooled, net, rfl, hPing⟩
    | uses => exact absurd rfl (hNew _)

theorem checked_iff_of_run {start last : State} {moves : List PoolMove}
    (hRun : (behaviour display).Run start moves last) :
    Checked moves ↔ ∀ first m later, moves = first ++ m :: later → ¬ TakesReady first m := by
  constructor
  · exact fun h first m later hMoves =>
      (returnsChecked_iff (hRun.split hMoves).2).mp (h first m later hMoves)
  · exact fun h first m later hMoves =>
      (returnsChecked_iff (hRun.split hMoves).2).mpr (h first m later hMoves)

/-- Where every acquire tests, and where nothing is waited for, there is no such call. -/
theorem checked_of_config {start last : State} {moves : List PoolMove}
    (hRun : (behaviour display).Run start moves last)
    (hConfig : start.shared.config.testOnAcquire = true ∨
      start.shared.config.acquireTimeout = none) : Checked moves := by
  rw [checked_iff_of_run hRun]
  rintro first m later hMoves ⟨index, loop, hBegun, hTask, -⟩
  obtain ⟨task, hTask', hResilient⟩ := (follows_of_run (hRun.split hMoves).1).tasks index hBegun
  cases hTask.symm.trans hTask'
  obtain ⟨hTest, hTimeout⟩ := hResilient.2 rfl
  obtain hTests | hNone := hConfig
  · rw [hTests] at hTest
    cases hTest
  · exact hTimeout hNone

end Steps

section Exhausted

variable {display : PgError → String} {pool pool' : Pool} {task task' : Task} {event : Event}

/-- A step of the first of some tasks, and of the last. -/
theorem next_first {tasks : List Task} {last : Task}
    (hStep : step display pool task event = some (pool', task')) :
    (behaviour display).next ⟨pool, task :: tasks ++ [last]⟩ (.step 0 event) =
      some ⟨pool', task' :: tasks ++ [last]⟩ := by
  have hOwn : (behaviour display).step pool task event = some (pool', task') := hStep
  simp only [Behaviour.next, List.cons_append, List.getElem?_cons_zero, hOwn, List.set_cons_zero]

theorem next_last {tasks : List Task} (hStep : step display pool task event = some (pool', task')) :
    (behaviour display).next ⟨pool, tasks ++ [task]⟩ (.step tasks.length event) =
      some ⟨pool', tasks ++ [task']⟩ := by
  have hOwn : (behaviour display).step pool task event = some (pool', task') := hStep
  simp only [Behaviour.next, List.getElem?_concat_length, hOwn,
    List.set_append_right _ _ (Nat.le_refl _), Nat.sub_self, List.set_cons_zero]

theorem next_begin {tasks : List Task} (hStarts : task.starts) :
    (behaviour display).next ⟨pool, tasks⟩ (.start task) = some ⟨pool, tasks ++ [task]⟩ := by
  simp only [Behaviour.next]
  exact if_pos hStarts

/-- A pool of some configuration with some creations under way. -/
def creatingPool (config : PoolConfig) (pending : Nat) : Pool :=
  { config, pendingCount := pending, now := 0 }

/-- As many acquires as there is room for, each of which is about to create a connection. -/
theorem run_creating (config : PoolConfig) (count : Nat) (hRoom : count ≤ config.maxSize) :
    ∃ moves, (behaviour display).Run ⟨creatingPool config 0, []⟩ moves
      ⟨creatingPool config count, List.replicate count (.decided .acquire .createNew)⟩ := by
  induction count with
  | zero => exact ⟨[], .nil⟩
  | succ count ih =>
      obtain ⟨moves, hRun⟩ := ih (by omega)
      have hDecision : (creatingPool config count).decision .acquire = .createNew :=
        if_pos (by simp only [total, creatingPool, List.length_nil]; omega)
      have hStep : step display (creatingPool config count) (.acquiring .acquire) .run =
          some (creatingPool config (count + 1), .decided .acquire .createNew) := by
        simp only [step, acquireStep]
        rw [if_neg (by simp [creatingPool]), if_pos hDecision]
        rfl
      have hBegun := hRun.snoc (@next_begin display _ (.acquiring .acquire) _ rfl)
      have hDecided := @next_last display _ _ _ _ _
        (List.replicate count (.decided .acquire .createNew)) hStep
      rw [List.length_replicate] at hDecided
      rw [List.replicate_succ']
      exact ⟨_, hBegun.snoc hDecided⟩

/-- A server that does whatever it is asked to do. -/
def obligingNetwork : Network where
  frontend := fun _ => .ok []
  frontendTotal := fun _ => []
  typeFromOid := fun _ => none
  answer := fun _ _ => ⟨[.ok (.commandComplete (some "SET")), .ok (.readyForQuery 73)], none⟩
  writeError := fun _ => none
  flushError := fun _ => none

theorem createConnection_obliging (config : PoolConfig) :
    ∃ connection, createConnection config obligingNetwork (.ok .new) = .ok connection ∧
      connection.isIdle := by
  cases hHook : config.afterConnect with
  | none => exact ⟨.new, by simp only [createConnection, Connection.afterConnect, hHook]; rfl, rfl⟩
  | some sql =>
      simp only [createConnection, Connection.afterConnect, hHook]
      exact ⟨_, rfl, rfl⟩

/-- The pool when one of these connections has come back unused. -/
def returnedPool (config : PoolConfig) (pending : Nat) (connection : Connection) : Pool :=
  { config
    idle := [⟨connection, 0, 0⟩]
    pendingCount := pending
    totalCreated := 1
    now := 0 }

theorem decision_returned {config : PoolConfig} (hTest : config.testOnAcquire = false)
    (pending : Nat) (connection : Connection) (deadline : Nat) :
    (returnedPool config pending connection).decision (.acquireWithTimeout deadline) = .ready := by
  have hExpired : PooledConnection.isExpired ⟨connection, 0, 0⟩ config 0 = false := by
    simp only [PooledConnection.isExpired, elapsedOver]
    cases config.maxLifetime <;> cases config.idleTimeout <;> simp
  simp only [decision, returnedPool, hExpired, hTest]
  rfl

/-- With all room taken by creations, `acquire_resilient` falls back to the timed loop; one of the
created connections comes back unused, and is returned as it is. -/
theorem run_unchecked (display : PgError → String) {config : PoolConfig} {timeout : Nat}
    (hSize : 0 < config.maxSize) (hTest : config.testOnAcquire = false)
    (hTimeout : config.acquireTimeout = some timeout) :
    ∃ moves last, (behaviour display).Run ⟨creatingPool config 0, []⟩ moves last ∧
      ¬ Checked moves := by
  obtain ⟨room, hRoom⟩ : ∃ room, config.maxSize = room + 1 := ⟨config.maxSize - 1, by omega⟩
  obtain ⟨connection, hCreated, hIdle⟩ := createConnection_obliging config
  obtain ⟨moves, hRun⟩ := @run_creating display config (room + 1) (by omega)
  let others := List.replicate room (Task.decided .acquire .createNew)
  have hFull : (creatingPool config (room + 1)).decision .acquireResilient = .exhausted :=
    if_neg (by simp only [total, creatingPool, List.length_nil]; omega)
  have hDecides :
      step display (creatingPool config (room + 1)) (.acquiring .acquireResilient) .run =
      some (creatingPool config (room + 1), .decided .acquireResilient .exhausted) := by
    simp only [step, acquireStep, hFull]
    rfl
  have hFallsBack : step display (creatingPool config (room + 1))
      (.decided .acquireResilient .exhausted) .run =
      some (creatingPool config (room + 1), .acquiring (.acquireWithTimeout timeout)) := by
    simp only [step, decidedStep, exhaustedStep, creatingPool, hTimeout, Nat.zero_add]
  have hCreates :
      step display (creatingPool config (room + 1)) (.decided .acquire .createNew) .run =
      some (creatingPool config (room + 1), .creating .acquire) := rfl
  have hConnected : step display (creatingPool config (room + 1)) (.creating .acquire)
      (.connected obligingNetwork (.ok .new)) =
      some ((creatingPool config (room + 1)).removePending.addActive.countCreated,
        .holding ⟨connection, 0⟩) := by
    simp only [step, creatingPool, hCreated]
    rfl
  have hDropped : step display (creatingPool config (room + 1)).removePending.addActive.countCreated
      (.holding ⟨connection, 0⟩) .drop =
      some (returnedPool config room connection, .notifying []) := by
    simp only [step, dropStep, hIdle]
    rfl
  have hReady : step display (returnedPool config room connection)
      (.acquiring (.acquireWithTimeout timeout)) .run =
      some (returnedPool config room connection,
        .decided (.acquireWithTimeout timeout) .ready) := by
    simp only [step, acquireStep, decision_returned hTest]
    rfl
  have hClaims : step display (returnedPool config room connection)
      (.decided (.acquireWithTimeout timeout) .ready) .run =
      some ((returnedPool config room connection).popFront.addActive,
        .holding ⟨connection, 0⟩) := rfl
  have hBegun := hRun.snoc (@next_begin display _ (.acquiring .acquireResilient) _ rfl)
  have hDecided := hBegun.snoc (@next_last display _ _ _ _ _ (_ :: others) hDecides)
  have hTimed := hDecided.snoc (@next_last display _ _ _ _ _ (_ :: others) hFallsBack)
  have hCreating := hTimed.snoc (@next_first display _ _ _ _ _ others _ hCreates)
  have hHeld := hCreating.snoc (@next_first display _ _ _ _ _ others _ hConnected)
  have hReturned := hHeld.snoc (@next_first display _ _ _ _ _ others _ hDropped)
  have hLooked := hReturned.snoc (@next_last display _ _ _ _ _ (_ :: others) hReady)
  have hTaken := hLooked.snoc (@next_last display _ _ _ _ _ (_ :: others) hClaims)
  refine ⟨_, _, hTaken, fun hChecked => ?_⟩
  apply (checked_iff_of_run hTaken).mp hChecked _ _ [] rfl
  let full : State := ⟨creatingPool config (room + 1), .decided .acquire .createNew :: others⟩
  have hCall : BegunResilient (moves ++ [⟨full, .start (.acquiring .acquireResilient),
      ⟨full.shared, full.tasks ++ [.acquiring .acquireResilient]⟩⟩]) (others.length + 1) :=
    ⟨_, List.mem_append_right moves (List.mem_singleton_self _), rfl, rfl⟩
  refine ⟨_, .acquireWithTimeout timeout, (((((hCall.append _).append _).append _).append _).append
    _).append _, ?_, rfl, ?_⟩
  · exact List.getElem?_concat_length
  · exact List.cons_ne_nil _ _

theorem fresh_creatingPool {config : PoolConfig} (hValid : config.validate = .ok ()) :
    Fresh ⟨creatingPool config 0, []⟩ := by
  refine ⟨⟨config, fun _ => (0, .error .cancelled), 0, ?_⟩, rfl⟩
  have hNone : prewarmed (fun _ => (0, .error .cancelled)) config.minIdle = [] :=
    List.filterMap_eq_nil_iff.mpr fun _ _ => rfl
  simp only [new, hValid, hNone]
  rfl

end Exhausted

/-- Exactly the pools that test on every acquire, or in which an acquire does not wait, return
only new and pinged connections from `acquire_resilient` in every run. In a run of any other
they do unless such a call comes to take the front of the queue as ready. -/
theorem resilient_checked_iff (display : PgError → String) (config : PoolConfig)
    (hValid : config.validate = .ok ()) :
    ((∀ (start last : State) (moves : List PoolMove), Fresh start → start.shared.config = config →
        (behaviour display).Run start moves last → Checked moves) ↔
      config.testOnAcquire = true ∨ config.acquireTimeout = none) ∧
    ∀ (start last : State) (moves : List PoolMove), Fresh start → start.shared.config = config →
      (behaviour display).Run start moves last →
        (Checked moves ↔ ∀ first m later, moves = first ++ m :: later → ¬ TakesReady first m) := by
  refine ⟨⟨fun hAll => ?_, fun hConfig start last moves _ hSame hRun => ?_⟩,
    fun start last moves _ _ hRun => checked_iff_of_run hRun⟩
  · cases hTest : config.testOnAcquire with
    | true => exact .inl rfl
    | false =>
        cases hTimeout : config.acquireTimeout with
        | none => exact .inr rfl
        | some timeout =>
            obtain ⟨moves, last, hRun, hNot⟩ :=
              run_unchecked display (PoolConfig.validate_ok hValid).1 hTest hTimeout
            exact absurd (hAll _ _ _ (fresh_creatingPool hValid) rfl hRun) hNot
  · rw [← hSame] at hConfig
    exact checked_of_config hRun hConfig

theorem resilient_checked_default :
    ({} : PoolConfig).validate = .ok () ∧
      ∀ (start last : State) (moves : List PoolMove), Fresh start → start.shared.config = {} →
        (behaviour fun _ => "").Run start moves last → Checked moves :=
  ⟨PoolConfig.validate_default,
    (resilient_checked_iff (fun _ => "") {} PoolConfig.validate_default).1.mpr (.inl rfl)⟩

/-- One connection, which is idle. -/
def singlePool : Pool where
  config := { minIdle := 1, maxSize := 1, testOnAcquire := false }
  idle := [⟨.new, 0, 0⟩]
  totalCreated := 1
  now := 0

theorem fresh_singlePool : Fresh ⟨singlePool, []⟩ :=
  ⟨⟨singlePool.config, fun _ => (0, .ok .new), 0, rfl⟩, rfl⟩

/-- The connection is in use when `acquire_resilient` looks for one, and comes back while that
waits. -/
def returnedWhileWaiting : List (Label Task Event Nat) :=
  [.start (.acquiring .acquire), .step 0 .run, .step 0 .run,
    .start (.acquiring .acquireResilient), .step 1 .run, .step 1 .run, .step 1 .run, .step 1 .run,
    .step 0 .drop, .step 0 .run, .step 1 .woken, .step 1 .run, .step 1 .run]

theorem not_checked :
    ¬ ∀ (display : PgError → String) (start last : State) (moves : List PoolMove), Fresh start →
      (behaviour display).Run start moves last → Checked moves := by
  intro hAll
  have hRun := run_of_trace (b := behaviour fun _ => "") returnedWhileWaiting
    (s := ⟨singlePool, []⟩) rfl
  have hLast := hAll _ _ _ _ fresh_singlePool hRun _ _ _ (List.take_append_drop 12 _).symm
  obtain ⟨_, hCreating⟩ | ⟨_, _, _, hPinging, -⟩ := hLast 1 _ ⟨.new, 0⟩
    ⟨_, List.mem_of_getElem? (i := 3) rfl, rfl, rfl⟩ rfl (fun _ hHolding => nomatch hHolding) rfl
  · cases hCreating
  · cases hPinging

end Pool
end PgClient
