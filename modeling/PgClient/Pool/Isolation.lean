import PgClient.Pool.Resilient
import PgClient.Transaction.Acknowledged
import PgClient.Transaction.Commit

/-!
What a pool hands out. A connection that comes back through `release` is rolled back, so
every connection that is handed out can be taken over, whatever its last holder has done
with it, as long as the guards that are merely dropped hold such a connection too.
-/

namespace PgClient

open Tasks Tasks.Behaviour Async Connection

/-- A statement that leaves no block open where none was. -/
def TransactionServer.Plain {net : Network} (server : TransactionServer net) (sql : String) :
    Prop :=
  ∀ history, server.Accepts history (.query sql) → server.block history = .none →
    server.block (.query sql :: history) = .none

namespace Connection

/-- Requests and replies are paired with a server, on which no block is open if the
connection says so. -/
structure Backed {net : Network} (server : TransactionServer net) (conn : Connection) : Prop where
  good : Good server.toServer conn
  truthful : conn.transactionStatus = .idle → server.block (conn.arrival net) = .none

variable {net : Network} {server : TransactionServer net} {conn conn' : Connection}

/-- A plain statement on a connection on which no block is open. -/
theorem unused_of_plain (hGood : Good server.toServer conn)
    (hBlock : server.block (conn.arrival net) = .none) {sql : String} (hPlain : server.Plain sql)
    {result : ExecuteResult} (hRun : execute sql net conn = (.ok result, conn')) : conn'.Unused :=
  let h := acknowledged_of_execute hGood hRun
  h.unused (hPlain _ h.accepts hBlock)

theorem unused_of_ping (hBacked : Backed server conn) (hUnused : conn.Unused)
    (hPlain : server.Plain "SELECT 1") (hRun : ping net conn = (.ok (), conn')) :
    conn'.Unused := by
  rw [ping, bind_apply] at hRun
  cases hQuery : query "SELECT 1" net conn with
  | mk outcome conn₁ =>
      rw [hQuery] at hRun
      cases outcome with
      | ok result =>
          cases hRun
          have hExecute : execute "SELECT 1" net conn =
              (.ok { commandTag := result.commandTag }, conn') := by
            rw [execute, bind_of_ok hQuery]
            rfl
          exact unused_of_plain hBacked.good (hBacked.truthful hUnused.status) hPlain hExecute
      | err e => cases hRun
      | pending => cases hRun

/-- The `before_return` hook, after the rollback if there was one. -/
theorem unused_of_hook (hGood : Good server.toServer conn)
    (hBlock : server.block (conn.arrival net) = .none) {config : PoolConfig}
    (hPlain : ∀ sql, config.beforeReturn = some sql → server.Plain sql)
    (hUnused : config.beforeReturn = none → conn.Unused)
    (hRun : (match config.beforeReturn with
      | some sql => do
          let _ ← execute sql
      | none => pure () : Client Unit) net conn = (.ok (), conn')) : conn'.Unused := by
  cases hHook : config.beforeReturn with
  | none =>
      rw [hHook] at hRun
      cases hRun
      exact hUnused hHook
  | some sql =>
      simp only [hHook, bind_apply] at hRun
      cases hExecute : execute sql net conn with
      | mk outcome conn₁ =>
          rw [hExecute] at hRun
          cases outcome with
          | ok result =>
              cases hRun
              exact unused_of_plain hGood hBlock (hPlain sql hHook) hExecute
          | err e => cases hRun
          | pending => cases hRun

/-- An unread reply is noticed by a statement only. -/
def Noticed (config : PoolConfig) (conn : Connection) : Prop :=
  conn.needsRecovery = false ∨ conn.transactionStatus ≠ .idle ∨ config.beforeReturn ≠ none

theorem unused_of_reset {config : PoolConfig} (hBacked : Backed server conn)
    (hPlain : ∀ sql, config.beforeReturn = some sql → server.Plain sql)
    (hIdle : conn.state = .idle) (hNoticed : Noticed config conn)
    (hRun : resetConnection config net conn = (.ok (), conn')) : conn'.Unused := by
  rw [resetConnection, bind_of_ok (get_apply ..)] at hRun
  by_cases hStatus : conn.transactionStatus = .idle
  · rw [doIf_neg (by simp [hStatus]), bind_of_ok (pure_apply ..)] at hRun
    refine unused_of_hook hBacked.good (hBacked.truthful hStatus) hPlain (fun hNone => ?_) hRun
    obtain hFlag | hOther | hHook := hNoticed
    · exact ⟨hIdle, hStatus, hFlag⟩
    · exact absurd hStatus hOther
    · exact absurd hNone hHook
  · rw [doIf_pos hStatus, bind_assoc, bind_apply] at hRun
    cases hRollback : execute "ROLLBACK" net conn with
    | mk outcome conn₁ =>
        rw [hRollback] at hRun
        cases outcome with
        | ok result =>
            have hEnd := acknowledged_of_execute hBacked.good hRollback
            have hBlock := hEnd.rolledBack
            exact unused_of_hook hEnd.good hBlock hPlain
              (fun _ => hEnd.unused (hEnd.arrival ▸ hBlock)) hRun
        | err e => cases hRun
        | pending => cases hRun

theorem unused_of_afterConnect {config : PoolConfig} (hUnused : conn.Unused)
    (hHook : ∀ sql, config.afterConnect = some sql →
      ∃ server : TransactionServer net, Backed server conn ∧ server.Plain sql)
    (hRun : afterConnect config net conn = (.ok (), conn')) : conn'.Unused := by
  cases hConfig : config.afterConnect with
  | none =>
      simp only [afterConnect, hConfig] at hRun
      cases hRun
      exact hUnused
  | some sql =>
      simp only [afterConnect, hConfig, bind_apply] at hRun
      cases hExecute : execute sql net conn with
      | mk outcome conn₁ =>
          rw [hExecute] at hRun
          cases outcome with
          | ok result =>
              obtain ⟨server, hBacked, hPlain⟩ := hHook sql hConfig
              have hEnd := unused_of_plain hBacked.good (hBacked.truthful hUnused.status) hPlain
                hExecute
              cases hRun
              exact ⟨hEnd.idle, hEnd.status, hEnd.recovered⟩
          | err e => cases hRun
          | pending => cases hRun

end Connection

namespace Pool

theorem unused_of_createConnection {config : PoolConfig} {net : Network}
    {result : Except PgError Connection} {connection : Connection}
    (hConnected : ∀ conn, result = .ok conn → conn.Unused)
    (hHook : ∀ conn, result = .ok conn → ∀ sql, config.afterConnect = some sql →
      ∃ server : TransactionServer net, Backed server conn ∧ server.Plain sql)
    (h : createConnection config net result = .ok connection) : connection.Unused := by
  cases result with
  | error e => cases h
  | ok conn =>
      simp only [createConnection] at h
      revert h
      cases hRun : afterConnect config net conn with
      | mk outcome conn₁ =>
          cases outcome with
          | ok value =>
              rintro ⟨⟩
              exact unused_of_afterConnect (hConnected conn rfl) (hHook conn rfl) hRun
          | err e => rintro ⟨⟩
          | pending => rintro ⟨⟩

namespace Task

/-- The connections that are on their way into the idle queue or out of it. -/
def Isolated : Task → Prop
  | .pinging _ pooled => pooled.connection.Unused
  | .resetting acquired => acquired.connection.state = .idle
  | .returning acquired => acquired.connection.Unused
  | _ => True

/-- What the steps of a run are asked for. A new connection is as `connect` returns it; the
network of an await is that of the connection's server, to which the statements of the pool
are plain; and a guard that is not released holds a connection that can be taken over, or
one that is not idle. -/
def Orderly (config : PoolConfig) : Task → Event → Prop
  | .pinging _ pooled, .resume net =>
      ∃ server : TransactionServer net, Backed server pooled.connection ∧
        server.Plain "SELECT 1"
  | .resetting acquired, .resume net =>
      Noticed config acquired.connection ∧
        ∃ server : TransactionServer net, Backed server acquired.connection ∧
          ∀ sql, config.beforeReturn = some sql → server.Plain sql
  | .creating _, .connected net result | .replacing, .connected net result =>
      ∀ conn, result = .ok conn → conn.Unused ∧ ∀ sql, config.afterConnect = some sql →
        ∃ server : TransactionServer net, Backed server conn ∧ server.Plain sql
  | .holding acquired, .drop => acquired.connection.isIdle → acquired.connection.Unused
  | _, _ => True

end Task

/-- A step of a run in which guards are treated as they should be. -/
def Orderly (m : PoolMove) : Prop :=
  ∀ index event task, m.label = .step index event → m.before.tasks[index]? = some task →
    task.Orderly m.before.shared.config event

structure Isolated (s : State) : Prop where
  idle : ∀ pooled ∈ s.shared.idle, pooled.connection.Unused
  tasks : ∀ task ∈ s.tasks, task.Isolated

/-- A step after which a task holds a connection that it did not hold before. -/
def GivesOut (m : PoolMove) (connection : Connection) : Prop :=
  ∃ index event task acquired, m.label = .step index event ∧
    m.before.tasks[index]? = some task ∧ (∀ held, task ≠ .holding held) ∧
    m.after.tasks[index]? = some (.holding acquired) ∧ acquired.connection = connection

variable {display : PgError → String} {pool pool' : Pool} {task task' : Task} {event : Event}

/-- The queue and the task that a step leaves behind, and what a new holder gets. -/
structure StepIsolated (pool' : Pool) (task task' : Task) : Prop where
  idle : ∀ pooled ∈ pool'.idle, pooled.connection.Unused
  stays : task'.Isolated
  handsOut : ∀ acquired, task' = .holding acquired → (∀ held, task ≠ .holding held) →
    acquired.connection.Unused

theorem stepIsolated_of_idle (hIdle : ∀ pooled ∈ pool'.idle, pooled.connection.Unused)
    (hTask : task'.Isolated) (hHolds : ∀ acquired, task' ≠ .holding acquired) :
    StepIsolated pool' task task' :=
  ⟨hIdle, hTask, fun acquired h => absurd h (hHolds acquired)⟩

theorem isolated_pushBack (hIdle : ∀ pooled ∈ pool.idle, pooled.connection.Unused)
    {connection : Connection} (hUnused : connection.Unused) (createdAt : Nat) :
    ∀ pooled ∈ (pool.pushBack connection createdAt).idle, pooled.connection.Unused := by
  intro pooled hMem
  obtain hOld | hNew := List.mem_append.mp hMem
  · exact hIdle pooled hOld
  · rw [List.mem_singleton.mp hNew]
    exact hUnused

/-- A creation hands out what it has created. -/
theorem created_of_step {loop : AcquireLoop} {net : Network} {result : Except PgError Connection}
    (hStep : step display pool (.creating loop) (.connected net result) = some (pool', task')) :
    pool'.idle = pool.idle ∧ task'.Isolated ∧ ∀ acquired, task' = .holding acquired →
      createConnection pool.config net result = .ok acquired.connection := by
  simp only [step] at hStep
  cases hCreated : createConnection pool.config net result with
  | ok connection =>
      simp only [hCreated, createdStep, Option.some.injEq] at hStep
      split at hStep
      · cases hStep
        exact ⟨rfl, trivial, by simp⟩
      · cases hStep
        refine ⟨rfl, trivial, fun acquired h => ?_⟩
        cases h
        rfl
  | err e =>
      simp only [hCreated, createdStep, Option.some.injEq] at hStep
      cases hStep
      exact ⟨rfl, trivial, by simp⟩
  | pending =>
      rw [hCreated] at hStep
      cases hStep

/-- A replacement goes into the queue or is closed. -/
theorem replaced_of_step {net : Network} {result : Except PgError Connection}
    (hStep : step display pool .replacing (.connected net result) = some (pool', task')) :
    task'.Isolated ∧ (∀ acquired, task' ≠ .holding acquired) ∧
      (pool'.idle = pool.idle ∨ ∃ connection,
        createConnection pool.config net result = .ok connection ∧
        pool'.idle = (pool.pushBack connection pool.now).idle) := by
  simp only [step] at hStep
  cases hCreated : createConnection pool.config net result with
  | ok connection =>
      simp only [hCreated, replacedStep, Option.some.injEq] at hStep
      split at hStep
      · cases hStep
        exact ⟨trivial, by simp, .inl rfl⟩
      · cases hStep
        exact ⟨trivial, by simp, .inr ⟨connection, rfl, rfl⟩⟩
  | err e =>
      simp only [hCreated, replacedStep, Option.some.injEq] at hStep
      cases hStep
      exact ⟨trivial, by simp, .inl rfl⟩
  | pending =>
      rw [hCreated] at hStep
      cases hStep

/-- The destructor puts an idle connection back as it is. -/
theorem dropped_of_step {acquired : AcquiredConnection}
    (hStep : step display pool (.holding acquired) .drop = some (pool', task')) :
    task' = .notifying [] ∧ (pool'.idle = pool.idle ∨ acquired.connection.isIdle ∧
      pool'.idle = (pool.pushBack acquired.connection acquired.createdAt).idle) := by
  simp only [step, dropStep, Option.some.injEq] at hStep
  split at hStep
  case isTrue =>
      cases hStep
      exact ⟨rfl, .inl rfl⟩
  case isFalse hIdle =>
      split at hStep
      case isTrue =>
          cases hStep
          exact ⟨rfl, .inl rfl⟩
      case isFalse =>
          cases hStep
          exact ⟨rfl, .inr ⟨by simpa using hIdle, rfl⟩⟩

/-- What a step keeps. -/
theorem stepIsolated (hIdle : ∀ pooled ∈ pool.idle, pooled.connection.Unused)
    (hTask : task.Isolated) (hOrderly : task.Orderly pool.config event)
    (hStep : step display pool task event = some (pool', task')) :
    StepIsolated pool' task task' := by
  cases stepped hStep with
  | popsExpired hFront =>
      refine stepIsolated_of_idle (fun pooled hMem => hIdle pooled ?_) trivial (by simp)
      exact List.mem_of_mem_tail hMem
  | popsForCheck hFront =>
      refine stepIsolated_of_idle (fun pooled hMem => hIdle pooled ?_) ?_ (by simp)
      · exact List.mem_of_mem_tail hMem
      · exact hIdle _ (hFront ▸ List.mem_cons_self)
  | claims hFront =>
      refine ⟨fun pooled hMem => hIdle pooled (List.mem_of_mem_tail hMem), trivial, ?_⟩
      intro acquired h _
      cases h
      exact hIdle _ (hFront ▸ List.mem_cons_self)
  | pinged hPing =>
      obtain ⟨server, hBacked, hPlain⟩ := hOrderly
      refine ⟨hIdle, trivial, fun acquired h _ => ?_⟩
      cases h
      exact unused_of_ping hBacked hTask hPlain hPing
  | created | createdLate | creationFailed =>
      obtain ⟨hSame, hStays, hHolds⟩ := created_of_step hStep
      refine ⟨hSame ▸ hIdle, hStays, fun acquired h _ => ?_⟩
      exact unused_of_createConnection (fun conn h => (hOrderly conn h).1)
        (fun conn h => (hOrderly conn h).2) (hHolds acquired h)
  | replaced | replacedInVain | replacementFailed =>
      obtain ⟨hStays, hHolds, hQueue⟩ := replaced_of_step hStep
      refine stepIsolated_of_idle ?_ hStays hHolds
      obtain hSame | ⟨connection, hCreated, hPushed⟩ := hQueue
      · exact hSame ▸ hIdle
      · rw [hPushed]
        exact isolated_pushBack hIdle (unused_of_createConnection
          (fun conn h => (hOrderly conn h).1) (fun conn h => (hOrderly conn h).2) hCreated) _
  | uses => exact ⟨hIdle, trivial, fun _ _ hNew => absurd rfl (hNew _)⟩
  | releases _ hFree =>
      refine stepIsolated_of_idle hIdle ?_ (by simp)
      simpa [Connection.isIdle, ConnectionState.isIdle, Task.Isolated] using hFree
  | drops | dropsAway =>
      obtain ⟨_, hSame | ⟨hFree, hPushed⟩⟩ := dropped_of_step hStep
      · exact stepIsolated_of_idle (hSame ▸ hIdle) trivial (by simp)
      · exact stepIsolated_of_idle (hPushed ▸ isolated_pushBack hIdle (hOrderly hFree) _)
          trivial (by simp)
  | resets hReset =>
      obtain ⟨hNoticed, server, hBacked, hPlain⟩ := hOrderly
      exact stepIsolated_of_idle hIdle (unused_of_reset hBacked hPlain hTask hNoticed hReset)
        (by simp)
  | returns => exact stepIsolated_of_idle (isolated_pushBack hIdle hTask _) trivial (by simp)
  | closes => exact stepIsolated_of_idle (by simp) trivial (by simp)
  | maintains =>
      refine stepIsolated_of_idle (fun pooled hMem => hIdle pooled ?_) trivial (by simp)
      exact List.mem_of_mem_filter hMem
  | foundClosed | decides | beginsCreation | misses | creates | beginsTimeout | waits | givesUp
  | pingFailed | discarded | rejected | wakes | timesOut | releasesClosed | releasesDirty
  | detaches | resetInVain | discardedReleased | hasMinIdle | beginsReplacement | notifies
  | closesNext | cancelled =>
      exact stepIsolated_of_idle hIdle trivial (by simp)

theorem isolated_next {s s' : State} {label : Label Task Event Nat} (h : Isolated s)
    (hNext : (behaviour display).next s label = some s') (hOrderly : Orderly ⟨s, label, s'⟩) :
    Isolated s' := by
  cases label with
  | start task =>
      obtain ⟨hStarts, rfl⟩ := next_start hNext
      refine ⟨h.idle, fun other hMem => ?_⟩
      obtain hOld | hNew := List.mem_append.mp hMem
      · exact h.tasks other hOld
      · rw [List.mem_singleton.mp hNew]
        cases task <;> trivial
  | pass time =>
      cases hNext
      exact ⟨h.idle, h.tasks⟩
  | step index event =>
      obtain ⟨task, pool', task', hTask, hStep, rfl⟩ := next_step hNext
      have hAfter := stepIsolated h.idle (h.tasks task (List.mem_of_getElem? hTask))
        (hOrderly index event task rfl hTask) hStep
      refine ⟨hAfter.idle, fun other hMem => ?_⟩
      obtain hOld | rfl := List.mem_or_eq_of_mem_set hMem
      · exact h.tasks other hOld
      · exact hAfter.stays

theorem unused_of_handsOut {m : PoolMove} {connection : Connection} (h : Isolated m.before)
    (hNext : (behaviour display).next m.before m.label = some m.after) (hOrderly : Orderly m)
    (hHandsOut : GivesOut m connection) : connection.Unused := by
  obtain ⟨index, event, task, acquired, hLabel, hTask, hNew, hAfter, rfl⟩ := hHandsOut
  rw [hLabel] at hNext
  obtain ⟨task₀, pool', task', hTask₀, hStep, hLast⟩ := next_step hNext
  obtain rfl := Option.some.inj (hTask.symm.trans hTask₀)
  have hIndex := (List.getElem?_eq_some_iff.mp hTask).1
  rw [hLast, List.getElem?_set_self hIndex] at hAfter
  exact (stepIsolated h.idle (h.tasks task (List.mem_of_getElem? hTask))
    (hOrderly index event task hLabel hTask) hStep).handsOut acquired (Option.some.inj hAfter) hNew

/-- The events at which nothing is asked for. -/
def Event.isLocal : Event → Bool
  | .resume _ | .connected _ _ | .drop => false
  | _ => true

theorem orderly_of_label {m : PoolMove}
    (h : ∀ index event, m.label = .step index event → event.isLocal) : Orderly m := by
  intro index event task hLabel _
  have hLocal := h index event hLabel
  cases event with
  | resume | connected | drop => cases hLocal
  | _ => cases task <;> trivial

theorem orderly_of_task {m : PoolMove} {index : Nat} {event : Event} {task : Task}
    (hLabel : m.label = .step index event) (hTask : m.before.tasks[index]? = some task)
    (h : task.Orderly m.before.shared.config event) : Orderly m := by
  intro index' event' task' hLabel' hTask'
  rw [hLabel] at hLabel'
  cases hLabel'
  cases hTask.symm.trans hTask'
  exact h

theorem orderly_of_event {m : PoolMove} {index : Nat} {event : Event}
    (hLabel : m.label = .step index event) (hLocal : event.isLocal) : Orderly m := by
  refine orderly_of_label fun index' event' hLabel' => ?_
  rw [hLabel] at hLabel'
  cases hLabel'
  exact hLocal

theorem orderly_of_start {m : PoolMove} {task : Task} (hLabel : m.label = .start task) :
    Orderly m := by
  refine orderly_of_label fun index event hLabel' => ?_
  rw [hLabel] at hLabel'
  cases hLabel'

/-- A connection that is released inside a transaction, and the next holder. -/
def releasedOpen : List (Label Task Event Nat) :=
  [.start (.acquiring .acquire), .step 0 .run, .step 0 .run, .step 0 (.use afterBegin),
    .step 0 .release, .step 0 (.resume Ledger.network), .step 0 .run,
    .start (.acquiring .acquire), .step 1 .run, .step 1 .run]

theorem good_afterBegin : Good Ledger.server.toServer afterBegin :=
  have hBegun : execute "BEGIN" Ledger.network .new =
      (.ok { commandTag := .ofBody (some "BEGIN") }, afterBegin) := rfl
  (acknowledged_of_execute (held_fresh ⟨rfl, rfl⟩) hBegun).good

end Pool
end PgClient
