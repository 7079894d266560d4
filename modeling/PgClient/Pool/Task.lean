import PgClient.Library.Tasks
import PgClient.Pool.State

/-!
The operations on a pool as tasks that interleave. One step of a task runs from one
critical section, use of the wake channel, or await to the next. A guard is a task that
holds its connection until it is released, dropped or detached.
-/

namespace PgClient

open Tasks

namespace Pool

inductive Task where
  | acquiring (loop : AcquireLoop)
  | decided (loop : AcquireLoop) (decision : AcquireDecision)
  | pinging (loop : AcquireLoop) (pooled : PooledConnection)
  | discarding (loop : AcquireLoop) (connection : Connection)
  | creating (loop : AcquireLoop)
  | rejecting (connection : Connection)
  | waiting (deadline : Nat)
  | failed (error : PgError)
  | holding (acquired : AcquiredConnection)
  | resetting (acquired : AcquiredConnection)
  | returning (acquired : AcquiredConnection)
  | discardingReleased (connection : Connection)
  | maintainingMinIdle
  | replacing
  | notifying (toClose : List Connection)
  | closing
  | maintaining
  | closingAll (connections : List Connection)

/-- What can happen to a task. An await on a connection ends by what its network answers;
`connected` is the outcome of connecting, before the hook runs. -/
inductive Event where
  | run
  | resume (net : Network)
  | connected (net : Network) (result : Except PgError Connection)
  | woken
  | timedOut
  | use (connection : Connection)
  | release
  | drop
  | detach
  | cancel

namespace Task

/-- A task that has nothing left to do. -/
abbrev done : Task := .closingAll []

/-- The calls that anyone can make at any time. -/
def starts : Task → Bool
  | .acquiring .acquire | .acquiring .acquireResilient | .closing | .maintaining => true
  | _ => false

/-- The tasks that are at an await, where their future can be dropped. -/
def awaits : Task → Bool
  | .pinging _ _ | .discarding _ _ | .creating _ | .rejecting _ | .waiting _ | .resetting _
  | .discardingReleased _ | .replacing | .closingAll (_ :: _) => true
  | _ => false

end Task

section Steps

variable (display : PgError → String)

/-- Only `acquire_resilient` passes the error of a creation on as it is. -/
def creationError (loop : AcquireLoop) (e : PgError) : PgError :=
  if loop = .acquireResilient then e else .pool (.createFailed (display e))

def acquireStep (pool : Pool) (loop : AcquireLoop) : Pool × Task :=
  if pool.closed then (pool, .failed (.pool .closed))
  else if pool.decision loop = .createNew then (pool.addPending, .decided loop .createNew)
  else (pool, .decided loop (pool.decision loop))

def exhaustedStep (pool : Pool) : AcquireLoop → Task
  | .acquireWithTimeout deadline =>
      if deadline ≤ pool.now then .failed (.pool .exhausted) else .waiting deadline
  | _ =>
      match pool.config.acquireTimeout with
      | some timeout => .acquiring (.acquireWithTimeout (pool.now + timeout))
      | none => .failed (.pool .exhausted)

/-- What an acquire loop does about its decision. The lock is taken again to claim the
front connection, which another task may have taken in between. -/
def decidedStep (pool : Pool) (loop : AcquireLoop) : AcquireDecision → Pool × Task
  | .discardExpired =>
      match pool.idle with
      | pooled :: _ => (pool.popFront, .discarding loop pooled.connection)
      | [] => (pool, .acquiring loop)
  | .needsHealthCheck =>
      match pool.idle with
      | pooled :: _ => (pool.popFront, .pinging loop pooled)
      | [] => (pool, .acquiring loop)
  | .ready =>
      match pool.idle with
      | { connection, createdAt, .. } :: _ =>
          (pool.popFront.addActive, .holding { connection, createdAt })
      | [] => (pool, .acquiring loop)
  | .createNew => (pool, .creating loop)
  | .exhausted => (pool, exhaustedStep pool loop)

def createdStep (pool : Pool) (loop : AcquireLoop) : Except PgError Connection → Pool × Task
  | .ok connection =>
      if pool.closed then (pool.removePending, .rejecting connection)
      else (pool.removePending.addActive.countCreated,
        .holding { connection, createdAt := pool.now })
  | .error e => (pool.removePending, .failed (creationError display loop e))

/-- The first part of `release_with_metadata`, up to its first await. -/
def releaseStep (pool : Pool) (acquired : AcquiredConnection) : Pool × Task :=
  let pool := pool.removeActive
  if pool.closed then (pool, .closingAll [acquired.connection])
  else if !acquired.connection.isIdle then (pool, .discardingReleased acquired.connection)
  else (pool, .resetting acquired)

/-- The destructor of a guard, up to its notification. -/
def dropStep (pool : Pool) (acquired : AcquiredConnection) : Pool × Task :=
  let pool := pool.removeActive
  if !acquired.connection.isIdle then (pool, .notifying [])
  else if pool.closed then (pool, .notifying [])
  else (pool.pushBack acquired.connection acquired.createdAt, .notifying [])

def resetStep (pool : Pool) (acquired : AcquiredConnection) : Task :=
  if elapsedOver pool.config.maxLifetime pool.now acquired.createdAt then
    .discardingReleased acquired.connection
  else .returning acquired

def maintainMinIdleStep (pool : Pool) : Pool × Task :=
  if pool.closed ∨ pool.idle.length + pool.pendingCount ≥ pool.config.minIdle then
    (pool, .done)
  else (pool.addPending, .replacing)

def replacedStep (pool : Pool) : Except PgError Connection → Pool × Task
  | .ok connection =>
      let pool := pool.removePending
      if pool.closed ∨ pool.idle.length ≥ pool.config.minIdle then
        (pool, .closingAll [connection])
      else ((pool.pushBack connection pool.now).countCreated, .notifying [])
  | .error _ => (pool.removePending, .done)

/-- Closing a connection always ends, and its outcome is ignored. -/
def step (pool : Pool) : Task → Event → Option (Pool × Task)
  | .acquiring loop, .run => some (acquireStep pool loop)
  | .decided loop decision, .run => some (decidedStep pool loop decision)
  | .pinging loop pooled, .resume net =>
      match Connection.ping net pooled.connection with
      | (.ok (), connection) =>
          some (pool.addActive, .holding { connection, createdAt := pooled.createdAt })
      | (.err _, connection) => some (pool, .discarding loop connection)
      | (.pending, _) => none
  | .discarding loop _, .resume _ => some (pool, .acquiring loop)
  | .creating loop, .connected net result =>
      match createConnection pool.config net result with
      | .ok connection => some (createdStep display pool loop (.ok connection))
      | .err e => some (createdStep display pool loop (.error e))
      | .pending => none
  | .rejecting _, .resume _ => some (pool, .failed (.pool .closed))
  | .waiting deadline, .woken =>
      if pool.wake then
        some ({ pool with wake := false }, .acquiring (.acquireWithTimeout deadline))
      else none
  | .waiting deadline, .timedOut =>
      if !pool.wake ∧ deadline ≤ pool.now then
        some (pool, .acquiring (.acquireWithTimeout deadline))
      else none
  | .holding acquired, .use connection => some (pool, .holding { acquired with connection })
  | .holding acquired, .release => some (releaseStep pool acquired)
  | .holding acquired, .drop => some (dropStep pool acquired)
  | .holding _, .detach => some (pool.removeActive, .notifying [])
  | .resetting acquired, .resume net =>
      match Connection.resetConnection pool.config net acquired.connection with
      | (.ok (), connection) => some (pool, resetStep pool { acquired with connection })
      | (.err _, connection) => some (pool, .discardingReleased connection)
      | (.pending, _) => none
  | .returning acquired, .run =>
      some (pool.pushBack acquired.connection acquired.createdAt, .notifying [])
  | .discardingReleased _, .resume _ => some (pool, .maintainingMinIdle)
  | .maintainingMinIdle, .run => some (maintainMinIdleStep pool)
  | .replacing, .connected net result =>
      match createConnection pool.config net result with
      | .ok connection => some (replacedStep pool (.ok connection))
      | .err e => some (replacedStep pool (.error e))
      | .pending => none
  | .notifying toClose, .run => some (pool.notifyWaiters, .closingAll toClose)
  | .closing, .run => some (pool.drain.1, .notifying pool.drain.2)
  | .maintaining, .run => some (pool.discardExpired.1, .closingAll pool.discardExpired.2)
  | .closingAll (_ :: rest), .resume _ => some (pool, .closingAll rest)
  | task, .cancel => if task.awaits then some (pool, .done) else none
  | _, _ => none

def behaviour : Behaviour Pool Task Event Nat where
  step := step display
  starts := Task.starts
  pass := tick

end Steps

/-- A pool as `Pool::new` leaves it, before any task. -/
structure Fresh (s : System Pool Task) : Prop where
  new : ∃ config attempt now, Pool.new config attempt now = .ok s.shared
  noTask : s.tasks = []

/-- Everything that a step can be, each case with what decided for it. -/
inductive Stepped (display : PgError → String) :
    Pool → Task → Event → Pool → Task → Prop where
  | foundClosed {pool loop} (hClosed : pool.closed) :
      Stepped display pool (.acquiring loop) .run pool (.failed (.pool .closed))
  | decides {pool loop} (hOpen : pool.closed = false)
      (hDecision : pool.decision loop ≠ .createNew) :
      Stepped display pool (.acquiring loop) .run pool (.decided loop (pool.decision loop))
  | beginsCreation {pool loop} (hOpen : pool.closed = false)
      (hDecision : pool.decision loop = .createNew) :
      Stepped display pool (.acquiring loop) .run pool.addPending (.decided loop .createNew)
  | misses {pool loop decision} (hIdle : pool.idle = [])
      (hDecision : decision = .discardExpired ∨ decision = .needsHealthCheck ∨ decision = .ready) :
      Stepped display pool (.decided loop decision) .run pool (.acquiring loop)
  | popsExpired {pool loop pooled rest} (hIdle : pool.idle = pooled :: rest) :
      Stepped display pool (.decided loop .discardExpired) .run pool.popFront
        (.discarding loop pooled.connection)
  | popsForCheck {pool loop pooled rest} (hIdle : pool.idle = pooled :: rest) :
      Stepped display pool (.decided loop .needsHealthCheck) .run pool.popFront
        (.pinging loop pooled)
  | claims {pool loop pooled rest} (hIdle : pool.idle = pooled :: rest) :
      Stepped display pool (.decided loop .ready) .run pool.popFront.addActive
        (.holding ⟨pooled.connection, pooled.createdAt⟩)
  | creates {pool loop} :
      Stepped display pool (.decided loop .createNew) .run pool (.creating loop)
  | beginsTimeout {pool loop timeout} (hLoop : ∀ deadline, loop ≠ .acquireWithTimeout deadline)
      (hTimeout : pool.config.acquireTimeout = some timeout) :
      Stepped display pool (.decided loop .exhausted) .run pool
        (.acquiring (.acquireWithTimeout (pool.now + timeout)))
  | waits {pool deadline} (hBefore : pool.now < deadline) :
      Stepped display pool (.decided (.acquireWithTimeout deadline) .exhausted) .run pool
        (.waiting deadline)
  | givesUp {pool loop} :
      Stepped display pool (.decided loop .exhausted) .run pool (.failed (.pool .exhausted))
  | pinged {pool loop pooled net connection}
      (hPing : Connection.ping net pooled.connection = (.ok (), connection)) :
      Stepped display pool (.pinging loop pooled) (.resume net) pool.addActive
        (.holding ⟨connection, pooled.createdAt⟩)
  | pingFailed {pool loop pooled net connection e}
      (hPing : Connection.ping net pooled.connection = (.err e, connection)) :
      Stepped display pool (.pinging loop pooled) (.resume net) pool (.discarding loop connection)
  | discarded {pool loop connection net} :
      Stepped display pool (.discarding loop connection) (.resume net) pool (.acquiring loop)
  | created {pool loop net result connection} (hOpen : pool.closed = false) :
      Stepped display pool (.creating loop) (.connected net result)
        pool.removePending.addActive.countCreated (.holding ⟨connection, pool.now⟩)
  | createdLate {pool loop net result connection} (hClosed : pool.closed) :
      Stepped display pool (.creating loop) (.connected net result) pool.removePending
        (.rejecting connection)
  | creationFailed {pool loop net result e}
      (hFailed : createConnection pool.config net result = .err e) :
      Stepped display pool (.creating loop) (.connected net result) pool.removePending
        (.failed (creationError display loop e))
  | rejected {pool connection net} :
      Stepped display pool (.rejecting connection) (.resume net) pool (.failed (.pool .closed))
  | wakes {pool deadline} (hWake : pool.wake) :
      Stepped display pool (.waiting deadline) .woken { pool with wake := false }
        (.acquiring (.acquireWithTimeout deadline))
  | timesOut {pool deadline} (hWake : pool.wake = false) (hDeadline : deadline ≤ pool.now) :
      Stepped display pool (.waiting deadline) .timedOut pool
        (.acquiring (.acquireWithTimeout deadline))
  | uses {pool acquired connection} :
      Stepped display pool (.holding acquired) (.use connection) pool
        (.holding { acquired with connection })
  | releasesClosed {pool acquired} (hClosed : pool.closed) :
      Stepped display pool (.holding acquired) .release pool.removeActive
        (.closingAll [acquired.connection])
  | releasesDirty {pool acquired} (hOpen : pool.closed = false)
      (hDirty : acquired.connection.isIdle = false) :
      Stepped display pool (.holding acquired) .release pool.removeActive
        (.discardingReleased acquired.connection)
  | releases {pool acquired} (hOpen : pool.closed = false) (hIdle : acquired.connection.isIdle) :
      Stepped display pool (.holding acquired) .release pool.removeActive (.resetting acquired)
  | drops {pool acquired} (hOpen : pool.closed = false) :
      Stepped display pool (.holding acquired) .drop
        (pool.removeActive.pushBack acquired.connection acquired.createdAt) (.notifying [])
  | dropsAway {pool acquired} :
      Stepped display pool (.holding acquired) .drop pool.removeActive (.notifying [])
  | detaches {pool acquired} :
      Stepped display pool (.holding acquired) .detach pool.removeActive (.notifying [])
  | resets {pool acquired net connection}
      (hReset : Connection.resetConnection pool.config net acquired.connection =
        (.ok (), connection)) :
      Stepped display pool (.resetting acquired) (.resume net) pool
        (.returning { acquired with connection })
  | resetInVain {pool acquired net connection} :
      Stepped display pool (.resetting acquired) (.resume net) pool
        (.discardingReleased connection)
  | returns {pool acquired} :
      Stepped display pool (.returning acquired) .run
        (pool.pushBack acquired.connection acquired.createdAt) (.notifying [])
  | discardedReleased {pool connection net} :
      Stepped display pool (.discardingReleased connection) (.resume net) pool .maintainingMinIdle
  | hasMinIdle {pool}
      (hEnough : pool.closed ∨ pool.config.minIdle ≤ pool.idle.length + pool.pendingCount) :
      Stepped display pool .maintainingMinIdle .run pool .done
  | beginsReplacement {pool} (hOpen : pool.closed = false)
      (hShort : pool.idle.length + pool.pendingCount < pool.config.minIdle) :
      Stepped display pool .maintainingMinIdle .run pool.addPending .replacing
  | replaced {pool net result connection} (hOpen : pool.closed = false)
      (hShort : pool.idle.length < pool.config.minIdle) :
      Stepped display pool .replacing (.connected net result)
        (pool.removePending.pushBack connection pool.now).countCreated (.notifying [])
  | replacedInVain {pool net result connection}
      (hEnough : pool.closed ∨ pool.config.minIdle ≤ pool.idle.length) :
      Stepped display pool .replacing (.connected net result) pool.removePending
        (.closingAll [connection])
  | replacementFailed {pool net result e}
      (hFailed : createConnection pool.config net result = .err e) :
      Stepped display pool .replacing (.connected net result) pool.removePending .done
  | notifies {pool toClose} :
      Stepped display pool (.notifying toClose) .run pool.notifyWaiters (.closingAll toClose)
  | closes {pool} :
      Stepped display pool .closing .run pool.drain.1 (.notifying pool.drain.2)
  | maintains {pool} :
      Stepped display pool .maintaining .run pool.discardExpired.1
        (.closingAll pool.discardExpired.2)
  | closesNext {pool connection rest net} :
      Stepped display pool (.closingAll (connection :: rest)) (.resume net) pool
        (.closingAll rest)
  | cancelled {pool task} (hAwaits : task.awaits) :
      Stepped display pool task .cancel pool .done

section Inversion

variable {display : PgError → String} {pool pool' : Pool} {task task' : Task} {event : Event}

theorem stepped_acquireStep (pool : Pool) (loop : AcquireLoop) :
    Stepped display pool (.acquiring loop) .run (acquireStep pool loop).1
      (acquireStep pool loop).2 := by
  simp only [acquireStep]
  split
  case isTrue hClosed => exact .foundClosed hClosed
  case isFalse hOpen =>
      have hOpen := Bool.eq_false_iff.mpr hOpen
      split
      case isTrue hDecision => exact .beginsCreation hOpen hDecision
      case isFalse hDecision => exact .decides hOpen hDecision

theorem stepped_decidedStep (pool : Pool) (loop : AcquireLoop) (decision : AcquireDecision) :
    Stepped display pool (.decided loop decision) .run (decidedStep pool loop decision).1
      (decidedStep pool loop decision).2 := by
  cases decision with
  | createNew => exact .creates
  | exhausted =>
      simp only [decidedStep, exhaustedStep]
      split
      case h_1 deadline =>
          split
          case isTrue => exact .givesUp
          case isFalse hBefore => exact .waits (Nat.lt_of_not_le hBefore)
      case h_2 hLoop =>
          split
          case h_1 hTimeout => exact .beginsTimeout (fun _ => hLoop _) hTimeout
          case h_2 => exact .givesUp
  | discardExpired =>
      simp only [decidedStep]
      split
      case h_1 hIdle => exact .popsExpired hIdle
      case h_2 hIdle => exact .misses hIdle (by simp)
  | needsHealthCheck =>
      simp only [decidedStep]
      split
      case h_1 hIdle => exact .popsForCheck hIdle
      case h_2 hIdle => exact .misses hIdle (by simp)
  | ready =>
      simp only [decidedStep]
      split
      case h_1 hIdle => exact .claims hIdle
      case h_2 hIdle => exact .misses hIdle (by simp)

theorem stepped_createdStep (loop : AcquireLoop) {net : Network}
    {result : Except PgError Connection} (created : Except PgError Connection)
    (h : createConnection pool.config net result = .ofExcept created) :
    Stepped display pool (.creating loop) (.connected net result)
      (createdStep display pool loop created).1 (createdStep display pool loop created).2 := by
  cases created with
  | error e => exact .creationFailed h
  | ok connection =>
      simp only [createdStep]
      split
      case isTrue hClosed => exact .createdLate hClosed
      case isFalse hOpen => exact .created (Bool.eq_false_iff.mpr hOpen)

theorem stepped_replacedStep {net : Network} {result : Except PgError Connection}
    (created : Except PgError Connection)
    (h : createConnection pool.config net result = .ofExcept created) :
    Stepped display pool .replacing (.connected net result) (replacedStep pool created).1
      (replacedStep pool created).2 := by
  cases created with
  | error e => exact .replacementFailed h
  | ok connection =>
      simp only [replacedStep]
      split
      case isTrue hEnough => exact .replacedInVain hEnough
      case isFalse hNot =>
          obtain ⟨hOpen, hShort⟩ := not_or.mp hNot
          exact .replaced (Bool.eq_false_iff.mpr hOpen) (Nat.lt_of_not_ge hShort)

theorem stepped_releaseStep (pool : Pool) (acquired : AcquiredConnection) :
    Stepped display pool (.holding acquired) .release (releaseStep pool acquired).1
      (releaseStep pool acquired).2 := by
  simp only [releaseStep]
  split
  case isTrue hClosed => exact .releasesClosed hClosed
  case isFalse hOpen =>
      have hOpen : pool.closed = false := Bool.eq_false_iff.mpr hOpen
      split
      case isTrue hDirty => exact .releasesDirty hOpen (by simpa using hDirty)
      case isFalse hIdle => exact .releases hOpen (by simpa using hIdle)

theorem stepped_dropStep (pool : Pool) (acquired : AcquiredConnection) :
    Stepped display pool (.holding acquired) .drop (dropStep pool acquired).1
      (dropStep pool acquired).2 := by
  simp only [dropStep]
  split
  case isTrue => exact .dropsAway
  case isFalse =>
      split
      case isTrue => exact .dropsAway
      case isFalse hOpen => exact .drops (Bool.eq_false_iff.mpr hOpen)

theorem stepped_maintainMinIdleStep (pool : Pool) :
    Stepped display pool .maintainingMinIdle .run (maintainMinIdleStep pool).1
      (maintainMinIdleStep pool).2 := by
  simp only [maintainMinIdleStep]
  split
  case isTrue hEnough => exact .hasMinIdle hEnough
  case isFalse hNot =>
      obtain ⟨hOpen, hShort⟩ := not_or.mp hNot
      exact .beginsReplacement (Bool.eq_false_iff.mpr hOpen) (Nat.lt_of_not_ge hShort)

theorem stepped_of_result {result : Pool × Task}
    (hStep : Stepped display pool task event result.1 result.2)
    (h : some result = some (pool', task')) : Stepped display pool task event pool' task' := by
  cases h
  exact hStep

/-- The step of a task at an await whose future is dropped. -/
theorem stepped_cancel (h : (if task.awaits then some (pool, Task.done) else none) =
    some (pool', task')) : Stepped display pool task .cancel pool' task' := by
  split at h
  case isTrue hAwaits =>
      cases h
      exact .cancelled hAwaits
  case isFalse => cases h

theorem stepped (h : step display pool task event = some (pool', task')) :
    Stepped display pool task event pool' task' := by
  unfold step at h
  split at h
  case h_1 loop =>
      exact stepped_of_result (stepped_acquireStep pool loop) h
  case h_2 loop decision =>
      exact stepped_of_result (stepped_decidedStep pool loop decision) h
  case h_3 loop pooled net =>
      split at h
      case h_1 hPing =>
          cases h
          exact .pinged hPing
      case h_2 hPing =>
          cases h
          exact .pingFailed hPing
      case h_3 => cases h
  case h_4 =>
      cases h
      exact .discarded
  case h_5 loop net result =>
      split at h
      case h_1 hCreated => exact stepped_of_result (stepped_createdStep loop (.ok _) hCreated) h
      case h_2 hCreated => exact stepped_of_result (stepped_createdStep loop (.error _) hCreated) h
      case h_3 => cases h
  case h_6 =>
      cases h
      exact .rejected
  case h_7 =>
      split at h
      case isTrue hWake =>
          cases h
          exact .wakes hWake
      case isFalse => cases h
  case h_8 =>
      split at h
      case isTrue hLate =>
          cases h
          exact .timesOut (by simpa using hLate.1) hLate.2
      case isFalse => cases h
  case h_9 =>
      cases h
      exact .uses
  case h_10 acquired =>
      exact stepped_of_result (stepped_releaseStep pool acquired) h
  case h_11 acquired =>
      exact stepped_of_result (stepped_dropStep pool acquired) h
  case h_12 =>
      cases h
      exact .detaches
  case h_13 acquired net =>
      split at h
      case h_1 hReset =>
          cases h
          simp only [resetStep]
          split
          case isTrue => exact .resetInVain
          case isFalse => exact .resets hReset
      case h_2 =>
          cases h
          exact .resetInVain
      case h_3 => cases h
  case h_14 =>
      cases h
      exact .returns
  case h_15 =>
      cases h
      exact .discardedReleased
  case h_16 =>
      exact stepped_of_result (stepped_maintainMinIdleStep pool) h
  case h_17 net result =>
      split at h
      case h_1 hCreated => exact stepped_of_result (stepped_replacedStep (.ok _) hCreated) h
      case h_2 hCreated => exact stepped_of_result (stepped_replacedStep (.error _) hCreated) h
      case h_3 => cases h
  case h_18 =>
      cases h
      exact .notifies
  case h_19 =>
      cases h
      exact .closes
  case h_20 =>
      cases h
      exact .maintains
  case h_21 =>
      cases h
      exact .closesNext
  case h_22 => exact stepped_cancel h
  case h_23 => cases h

end Inversion

end Pool
end PgClient
