import PgClient.Library.Async
import PgClient.Transport.Buffered

/-!
The state of a connection: the protocol state machine, the session data tracked for
a reconnect, and what asynchronous messages leave behind.
-/

namespace PgClient

inductive ConnectionState where
  | disconnected
  | connecting
  | startingUp
  | authenticating
  | idle
  | activeSimpleQuery
  | activeExtendedQuery
  | copyIn
  | copyOut
  | streaming
  | closing
  | closed
deriving DecidableEq, Repr

namespace ConnectionState

def isIdle (state : ConnectionState) : Bool := state = .idle

def isClosed (state : ConnectionState) : Bool := state = .closed

def debug : ConnectionState → String
  | .disconnected => "Disconnected"
  | .connecting => "Connecting"
  | .startingUp => "StartingUp"
  | .authenticating => "Authenticating"
  | .idle => "Idle"
  | .activeSimpleQuery => "ActiveSimpleQuery"
  | .activeExtendedQuery => "ActiveExtendedQuery"
  | .copyIn => "CopyIn"
  | .copyOut => "CopyOut"
  | .streaming => "Streaming"
  | .closing => "Closing"
  | .closed => "Closed"

def permits : ConnectionState → ConnectionState → Bool
  | _, .closed => true
  | .idle, .activeSimpleQuery | .idle, .activeExtendedQuery | .idle, .copyIn
  | .idle, .copyOut | .idle, .streaming => true
  | .activeSimpleQuery, .idle | .activeExtendedQuery, .idle | .copyIn, .idle
  | .copyOut, .idle | .streaming, .idle => true
  | .idle, .closing => true
  | _, _ => false

end ConnectionState

/-- Rust's maps and sets of strings, as lists without repeated keys. -/
def mapInsert (key value : String) (map : List (String × String)) : List (String × String) :=
  (key, value) :: map.filter fun entry => entry.1 ≠ key

def mapRemove (key : String) (map : List (String × String)) : List (String × String) :=
  map.filter fun entry => entry.1 ≠ key

def setInsert (key : String) (set : List String) : List String :=
  if key ∈ set then set else key :: set

structure ServerParams where
  processId : Int32 := 0
  secretKey : Int32 := 0
  serverVersion : String := ""
  serverEncoding : String := ""
  clientEncoding : String := ""
  params : List (String × String) := []
deriving DecidableEq, Repr

structure Notification where
  processId : Int32
  channel : String
  payload : String
deriving DecidableEq, Repr

/-- A notice wraps the same fields as a server error. -/
abbrev Notice := PgServerError

structure SessionState where
  preparedStatements : List (String × String) := []
  listenChannels : List String := []
  temporaryTables : List String := []
  customGucs : List (String × String) := []
  reconnectInitSql : Option String := none
  inTransaction : Bool := false
deriving DecidableEq, Repr

namespace SessionState

def trackPrepare (session : SessionState) (name sql : String) : SessionState :=
  { session with preparedStatements := mapInsert name sql session.preparedStatements }

def trackCloseStatement (session : SessionState) (name : String) : SessionState :=
  { session with preparedStatements := mapRemove name session.preparedStatements }

def setInTransaction (session : SessionState) (inTransaction : Bool) : SessionState :=
  { session with inTransaction }

/-- Everything but the reconnect initialization SQL goes. -/
def clear (session : SessionState) : SessionState :=
  { reconnectInitSql := session.reconnectInitSql }

end SessionState

/-- The notice handler, when one is set, is known by the notices it was called with. -/
structure Connection where
  transport : Transport
  serverParams : ServerParams
  state : ConnectionState
  transactionStatus : TransactionStatus
  notificationQueue : List Notification
  noticeHandler : Option (List Notice)
  statementCounter : UInt32
  needsRecovery : Bool
  sessionState : SessionState
deriving DecidableEq, Repr

abbrev Client := Async Network Connection PgError

/-- Code that owns some data besides its borrow of the connection. -/
abbrev Owner (L : Type) := Async Network (L × Connection) PgError

namespace Connection

/-- A connection as `connect` returns it. -/
def new : Connection where
  transport := .new
  serverParams := {}
  state := .idle
  transactionStatus := .idle
  notificationQueue := []
  noticeHandler := none
  statementCounter := 0
  needsRecovery := false
  sessionState := {}

def isClosed (conn : Connection) : Bool := conn.state.isClosed

def isIdle (conn : Connection) : Bool := conn.state.isIdle

def isHealthy (conn : Connection) : Bool :=
  !conn.isClosed && conn.transactionStatus ≠ .failed

def handleNotice (conn : Connection) (notice : Notice) : Connection :=
  { conn with noticeHandler := conn.noticeHandler.map (· ++ [notice]) }

/-- The connection after an asynchronous message; `none` for any other message. -/
def handleAsyncMessage (conn : Connection) : BackendMessage → Option Connection
  | .notificationResponse body =>
      some { conn with
        notificationQueue := conn.notificationQueue ++
          [{ processId := body.processId, channel := body.channel.getD "",
             payload := body.message.getD "" }] }
  | .noticeResponse body =>
      match PgServerError.fromBody body with
      | .ok notice => some (conn.handleNotice notice)
      | .error _ => some conn
  | .parameterStatus body =>
      match body.name, body.value with
      | some name, some value =>
          some { conn with
            serverParams.params := mapInsert name value conn.serverParams.params }
      | _, _ => some conn
  | _ => none

/-- What every read loop does with the status of a `ReadyForQuery`. -/
def setReady (conn : Connection) (status : UInt8) : Connection :=
  { conn with transactionStatus := TransactionStatus.ofReady status }

def setState (conn : Connection) (state : ConnectionState) : Connection := { conn with state }

theorem handleAsyncMessage_isSome (conn : Connection) (message : BackendMessage) :
    (conn.handleAsyncMessage message).isSome = message.isAsync := by
  cases message with
  | noticeResponse body =>
      simp only [handleAsyncMessage, BackendMessage.isAsync]
      split <;> rfl
  | parameterStatus body =>
      simp only [handleAsyncMessage, BackendMessage.isAsync]
      split <;> rfl
  | _ => rfl

end Connection
end PgClient
