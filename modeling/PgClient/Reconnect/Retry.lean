import PgClient.Connection.State

/-!
Which errors the retry loops take for worth another attempt, and what they do then.
-/

namespace PgClient

namespace PgServerError

def isClass (err : PgServerError) (sqlClass : String) : Bool :=
  sqlClass.toList.isPrefixOf err.code.toList

def isSerializationFailure (err : PgServerError) : Bool := err.code = "40001"

def isDeadlockDetected (err : PgServerError) : Bool := err.code = "40P01"

def isConnectionException (err : PgServerError) : Bool := err.isClass "08"

def isAdminShutdown (err : PgServerError) : Bool := err.code = "57P01"

def isCrashShutdown (err : PgServerError) : Bool := err.code = "57P02"

end PgServerError

inductive ErrorClass where
  | broken
  | transient
  | permanent
deriving DecidableEq, Repr

def IoErrorKind.errorClass : IoErrorKind → ErrorClass
  | .connectionReset | .connectionAborted | .brokenPipe | .unexpectedEof => .broken
  | .timedOut => .transient
  | _ => .permanent

def classifyError : PgError → ErrorClass
  | .connectionClosed => .broken
  | .transport .connectionReset | .transport .unexpectedEof
  | .transport .connectionRefused => .broken
  | .server err =>
      if err.isSerializationFailure then .transient
      else if err.isDeadlockDetected then .transient
      else if err.isConnectionException then .broken
      else if err.isAdminShutdown then .broken
      else if err.isCrashShutdown then .broken
      else .permanent
  | .transport .timeout => .transient
  | .timeout => .transient
  | .io err => err.kind.errorClass
  | _ => .permanent

def PgError.isRetryable : PgError → Bool
  | .server err => err.isSerializationFailure || err.isDeadlockDetected
  | .transport .timeout => true
  | .timeout => true
  | _ => false

/-- The delays between attempts are left out. -/
structure ReconnectConfig where
  enabled : Bool := false
  maxAttempts : Nat := 3
  rebuildSession : Bool := true
  allowMidTransaction : Bool := false
deriving DecidableEq, Repr

/-- What a retry loop does after an attempt that has failed. -/
inductive Decision where
  | giveUp
  | again
  | reconnect
deriving DecidableEq, Repr

/-- The number of attempts that `Connection::with_retry` makes. -/
def ReconnectConfig.attempts (config : ReconnectConfig) : Nat :=
  if config.enabled then max config.maxAttempts 1 else 1

theorem ReconnectConfig.one_le_attempts (config : ReconnectConfig) : 1 ≤ config.attempts := by
  unfold attempts
  split <;> omega

/-- `Connection::with_retry`; attempts are counted from one. -/
def Connection.retryDecision (config : ReconnectConfig) (attempt : Nat) (conn : Connection)
    (e : PgError) : Decision :=
  match classifyError e with
  | .permanent => .giveUp
  | .transient => if config.attempts ≤ attempt then .giveUp else .again
  | .broken =>
      if !config.enabled then .giveUp
      else if !config.allowMidTransaction && conn.sessionState.inTransaction then .giveUp
      else if config.attempts ≤ attempt then .giveUp
      else .reconnect

/-- `with_retry` of the error module; attempts that have failed are counted. -/
def retryServer (maxRetries attempt : Nat) : PgError → Decision
  | .server err =>
      if err.isSerializationFailure && attempt < maxRetries then .again
      else if err.isDeadlockDetected && attempt < maxRetries then .again
      else .giveUp
  | _ => .giveUp

/-- `with_retry_any`. -/
def retryAny (maxRetries attempt : Nat) (e : PgError) : Decision :=
  if e.isRetryable && attempt < maxRetries then .again else .giveUp

/-- A reconnect in the middle of a transaction has to be allowed. -/
theorem Connection.retryDecision_reconnect {config : ReconnectConfig} {attempt : Nat}
    {conn : Connection} {e : PgError} (hConfig : config.allowMidTransaction = false)
    (h : conn.retryDecision config attempt e = .reconnect) :
    conn.sessionState.inTransaction = false := by
  by_contra hFlag
  have hFlag : conn.sessionState.inTransaction = true := by simpa using hFlag
  simp only [retryDecision, hConfig, hFlag] at h
  split at h
  · cases h
  · split at h <;> cases h
  · split at h <;> cases h

end PgClient
