import PgClient.Query.Simple

/-!
The session state that is tracked for a reconnect: what registers in it and what it takes
to bring it back on a new connection.
-/

namespace PgClient

open Async

namespace SessionState

def hasState (session : SessionState) : Bool :=
  !session.preparedStatements.isEmpty || !session.listenChannels.isEmpty ||
    !session.temporaryTables.isEmpty || !session.customGucs.isEmpty

def isReconnectSafe (session : SessionState) : Bool :=
  !session.inTransaction && !session.hasState

def trackListen (session : SessionState) (channel : String) : SessionState :=
  { session with listenChannels := setInsert channel session.listenChannels }

def trackUnlisten (session : SessionState) (channel : String) : SessionState :=
  { session with listenChannels := session.listenChannels.filter fun name => name ≠ channel }

def clearListenChannels (session : SessionState) : SessionState :=
  { session with listenChannels := [] }

def trackSetGuc (session : SessionState) (key value : String) : SessionState :=
  { session with customGucs := mapInsert key value session.customGucs }

end SessionState

/-- `str::replace` of one character. -/
def replaceChar (c : Char) (replacement : List Char) (s : String) : String :=
  String.ofList (s.toList.flatMap fun d => if d = c then replacement else [d])

def quoteIdentifier (name : String) : String :=
  "\"" ++ replaceChar '"' ['"', '"'] name ++ "\""

namespace Connection

def escapeSqlLiteral (value : String) : String :=
  replaceChar '\'' ['\'', '\''] (replaceChar '\\' ['\\', '\\'] value)

def buildSetParamSql (key value : String) : String :=
  "SET " ++ quoteIdentifier key ++ " = '" ++ escapeSqlLiteral value ++ "'"

def buildListenSql (channel : String) : String := "LISTEN " ++ quoteIdentifier channel

def buildUnlistenSql (channel : String) : String := "UNLISTEN " ++ quoteIdentifier channel

/-- A statement whose effect is tracked once the server has accepted it. -/
def tracked (sql : String) (track : SessionState → SessionState) : Client Unit := do
  let _ ← execute sql
  .modify fun conn => { conn with sessionState := track conn.sessionState }

def setParam (key value : String) : Client Unit :=
  tracked (buildSetParamSql key value) fun session => session.trackSetGuc key value

def listen (channel : String) : Client Unit :=
  tracked (buildListenSql channel) fun session => session.trackListen channel

def unlisten (channel : String) : Client Unit :=
  tracked (buildUnlistenSql channel) fun session => session.trackUnlisten channel

def unlistenAll : Client Unit := tracked "UNLISTEN *" SessionState.clearListenChannels

def rebuildReconnectInitSql (session : SessionState) : Client Unit :=
  match session.reconnectInitSql with
  | some sql => do
      let _ ← execute sql
  | none => pure ()

/-- One statement of a rebuild; its error is passed over. -/
def rebuildStep (statement : Client Unit) : Client Unit := do
  let _ ← statement.attempt

def rebuildSteps : List (Client Unit) → Client Unit
  | [] => pure ()
  | statement :: statements => do
      rebuildStep statement
      rebuildSteps statements

/-- The maps are gone through in the order in which they are listed. -/
def rebuildSession (session : SessionState) : Client Unit := do
  rebuildSteps (session.listenChannels.map listen)
  rebuildSteps (session.customGucs.map fun entry => setParam entry.1 entry.2)

end Connection
end PgClient
