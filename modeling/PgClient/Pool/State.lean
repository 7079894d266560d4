import PgClient.Query.Simple

/-!
The connection pool: its configuration, the counters and the idle queue behind its lock,
the single-token channel on which waiters sleep, and the clock. Each operation here is
one critical section or one use of the channel.
-/

namespace PgClient

/-- Durations in milliseconds. -/
structure PoolConfig where
  minIdle : Nat := 0
  maxSize : Nat := 10
  acquireTimeout : Option Nat := some 30000
  maxLifetime : Option Nat := some 1800000
  idleTimeout : Option Nat := some 600000
  testOnAcquire : Bool := true
  afterConnect : Option String := none
  beforeReturn : Option String := none
deriving DecidableEq, Repr

def PoolConfig.validate (config : PoolConfig) : Except PgError Unit :=
  if config.maxSize = 0 then .error (.config "pool max_size must be greater than zero")
  else if config.minIdle > config.maxSize then
    .error (.config s!"pool min_idle ({config.minIdle}) cannot exceed max_size ({config.maxSize})")
  else .ok ()

theorem PoolConfig.validate_default : validate {} = .ok () := rfl

theorem PoolConfig.validate_ok {config : PoolConfig} (h : config.validate = .ok ()) :
    0 < config.maxSize ∧ config.minIdle ≤ config.maxSize := by
  simp only [validate] at h
  split at h
  case isTrue => cases h
  case isFalse hSize =>
      split at h
      case isTrue => cases h
      case isFalse hIdle => exact ⟨Nat.pos_of_ne_zero hSize, Nat.le_of_not_gt hIdle⟩

structure PooledConnection where
  connection : Connection
  createdAt : Nat
  lastUsedAt : Nat

/-- What a guard holds. -/
structure AcquiredConnection where
  connection : Connection
  createdAt : Nat

structure PoolInner where
  config : PoolConfig
  idle : List PooledConnection := []
  activeCount : Nat := 0
  pendingCount : Nat := 0
  totalCreated : Nat := 0
  closed : Bool := false

/-- The inner state together with the wake channel, which is full when `wake` holds, and
the monotonic clock. -/
structure Pool extends PoolInner where
  wake : Bool := false
  now : Nat

structure PoolStatus where
  idle : Nat
  active : Nat
  totalCreated : Nat
  maxSize : Nat
  closed : Bool
deriving DecidableEq, Repr

inductive AcquireDecision where
  | discardExpired
  | needsHealthCheck
  | ready
  | createNew
  | exhausted
deriving DecidableEq, Repr

/-- The three copies of the acquire loop; the timed one knows its deadline. -/
inductive AcquireLoop where
  | acquire
  | acquireResilient
  | acquireWithTimeout (deadline : Nat)
deriving DecidableEq, Repr

def elapsedOver (limit : Option Nat) (now since : Nat) : Bool :=
  limit.any fun limit => now - since > limit

def PooledConnection.isExpired (pooled : PooledConnection) (config : PoolConfig) (now : Nat) :
    Bool :=
  elapsedOver config.maxLifetime now pooled.createdAt ||
    elapsedOver config.idleTimeout now pooled.lastUsedAt

namespace Connection

/-- The hook that both `create_connection` and `create_connection_with_retry` run. -/
def afterConnect (config : PoolConfig) : Client Unit :=
  match config.afterConnect with
  | some sql => do
      let _ ← execute sql
      .modify fun conn =>
        { conn with sessionState := { conn.sessionState with reconnectInitSql := some sql } }
  | none => pure ()

def resetConnection (config : PoolConfig) : Client Unit := do
  let conn ← .get
  .doIf (conn.transactionStatus ≠ .idle) do
    let _ ← execute "ROLLBACK"
  match config.beforeReturn with
  | some sql => do
      let _ ← execute sql
  | none => pure ()

end Connection

namespace Pool

/-- The outcome of `create_connection` when connecting itself ended as `connected` says. -/
def createConnection (config : PoolConfig) (net : Network) :
    Except PgError Connection → Outcome PgError Connection
  | .error e => .err e
  | .ok conn =>
      match Connection.afterConnect config net conn with
      | (.ok (), conn) => .ok conn
      | (.err e, _) => .err e
      | (.pending, _) => .pending

/-- The connections that pre-warming yields, `attempt i` being the time and the outcome
of its `i`-th creation. -/
def prewarmed (attempt : Nat → Nat × Except PgError Connection) (count : Nat) :
    List PooledConnection :=
  (List.range count).filterMap fun i =>
    match attempt i with
    | (time, .ok connection) => some { connection, createdAt := time, lastUsedAt := time }
    | (_, .error _) => none

def new (config : PoolConfig) (attempt : Nat → Nat × Except PgError Connection) (now : Nat) :
    Except PgError Pool :=
  match config.validate with
  | .error e => .error e
  | .ok () =>
      let idle := prewarmed attempt config.minIdle
      .ok { config, idle, totalCreated := idle.length, now }

variable (pool : Pool)

/-- Idle, active and pending connections. -/
def total : Nat := pool.idle.length + pool.activeCount + pool.pendingCount

def status : PoolStatus where
  idle := pool.idle.length
  active := pool.activeCount
  totalCreated := pool.totalCreated
  maxSize := pool.config.maxSize
  closed := pool.closed

/-- A token for a full channel is dropped. -/
@[simp] def notifyWaiters : Pool := { pool with wake := true }

@[simp] def tick (time : Nat) : Pool := { pool with now := pool.now + time }

/-- What an acquire loop decides in an open pool. Only `acquire_resilient` checks the
health of every connection. -/
def decision (loop : AcquireLoop) : AcquireDecision :=
  match pool.idle with
  | pooled :: _ =>
      if pooled.isExpired pool.config pool.now then .discardExpired
      else if loop = .acquireResilient ∨ pool.config.testOnAcquire then .needsHealthCheck
      else .ready
  | [] => if pool.total < pool.config.maxSize then .createNew else .exhausted

@[simp] def addPending : Pool := { pool with pendingCount := pool.pendingCount + 1 }

@[simp] def removePending : Pool := { pool with pendingCount := pool.pendingCount - 1 }

@[simp] def addActive : Pool := { pool with activeCount := pool.activeCount + 1 }

@[simp] def removeActive : Pool := { pool with activeCount := pool.activeCount - 1 }

@[simp] def countCreated : Pool := { pool with totalCreated := pool.totalCreated + 1 }

@[simp] def popFront : Pool := { pool with idle := pool.idle.tail }

@[simp] def pushBack (connection : Connection) (createdAt : Nat) : Pool :=
  { pool with
    idle := pool.idle ++ [{ connection, createdAt, lastUsedAt := pool.now }] }

/-- The critical section of `close`, and the connections that it leaves to be closed. -/
@[simp] def drain : Pool × List Connection :=
  ({ pool with closed := true, idle := [] }, pool.idle.map (·.connection))

/-- The critical section of `maintain`. -/
@[simp] def discardExpired : Pool × List Connection :=
  let expired := fun pooled : PooledConnection => pooled.isExpired pool.config pool.now
  ({ pool with idle := pool.idle.filter (!expired ·) },
    (pool.idle.filter expired).map (·.connection))

end Pool
end PgClient
