import PgClient.Query.Cursor
import PgClient.Query.Pipeline
import PgClient.Copy.Stream

/-!
Sessions: a connection with the stream or transfer that borrows it, and every call that
can be made on them, one after another.
-/

namespace PgClient

/-- The operations that need the whole connection and give it back when they return. -/
inductive Operation where
  | query (sql : String)
  | execute (sql : String)
  | queryOne (sql : String)
  | queryEach (sql : String) (callback : List Row → Row → Except String Unit)
  | batchExecute (sql : String)
  | queryParams (sql : String) (params : List ToSql)
  | executeParams (sql : String) (params : List ToSql)
  | queryPrepared (stmt : PreparedStatement) (params : List ToSql)
  | executePrepared (stmt : PreparedStatement) (params : List ToSql)
  | prepare (sql : String)
  | closeStatement (stmt : PreparedStatement)
  | pipeline (queued : Pipeline)
  | ping
  | recover

/-- What borrows the connection between calls. -/
inductive Handle where
  | none
  | rowStream (stream : RowStream)
  | cursor (cursor : Cursor)
  | cursorStream (stream : CursorStream)
  | copyIn (copy : CopyIn)
  | copyOut (copy : CopyOut)

/-- The operations that return something that borrows the connection. -/
inductive Opening where
  | queryStream (sql : String)
  | queryParamsStream (sql : String) (params : List ToSql)
  | queryPreparedStream (stmt : PreparedStatement) (params : List ToSql)
  | queryCursor (sql : String) (params : List ToSql) (fetchSize : Int32)
  | queryCursorStream (sql : String) (params : List ToSql) (fetchSize : Int32)
  | copyIn (sql : String)
  | copyOut (sql : String)

/-- The calls on what was opened; the round trips of a cursor stream are bounded. -/
inductive HandleCall where
  | next
  | consume
  | fetch
  | close
  | cursorNext (fuel : Nat)
  | cursorConsume (fuel : Nat)
  | copyWrite (data : Bytes)
  | copyFinish
  | copyCancel (reason : String)
  | copyRead
  | release

inductive Call where
  | operation (op : Operation)
  | opening (opening : Opening)
  | handle (call : HandleCall)

structure Session where
  handle : Handle
  conn : Connection

open Connection

/-- An error of the callback reaches the caller as one of no kind of the library's. -/
def callbackResult (callback : List Row → Row → Except String Unit) (seen : List Row) (row : Row) :
    Except PgError Unit :=
  (callback seen row).mapError .other

namespace Operation

def run : Operation → Client Unit
  | .query sql => do let _ ← Connection.query sql
  | .execute sql => do let _ ← Connection.execute sql
  | .queryOne sql => do let _ ← Connection.queryOne sql
  | .queryEach sql callback => do let _ ← Connection.queryEach sql (callbackResult callback)
  | .batchExecute sql => do let _ ← Connection.batchExecute sql
  | .queryParams sql params => do let _ ← Connection.queryParams sql params
  | .executeParams sql params => do let _ ← Connection.executeParams sql params
  | .queryPrepared stmt params => do let _ ← Connection.queryPrepared stmt params
  | .executePrepared stmt params => do let _ ← Connection.executePrepared stmt params
  | .prepare sql => do let _ ← Connection.prepare sql
  | .closeStatement stmt => Connection.closeStatement stmt
  | .pipeline queued => do let _ ← queued.finish
  | .ping => Connection.ping
  | .recover => Connection.recover

end Operation

def Opening.run : Opening → Client Handle
  | .queryStream sql => do return .rowStream (← Connection.queryStream sql)
  | .queryParamsStream sql params => do
      return .rowStream (← Connection.queryParamsStream sql params)
  | .queryPreparedStream stmt params => do
      return .rowStream (← Connection.queryPreparedStream stmt params)
  | .queryCursor sql params fetchSize => do
      return .cursor (← Connection.queryCursor sql params fetchSize)
  | .queryCursorStream sql params fetchSize => do
      return .cursorStream (← Connection.queryCursorStream sql params fetchSize)
  | .copyIn sql => do return .copyIn (← Connection.copyIn sql)
  | .copyOut sql => do return .copyOut (← Connection.copyOut sql)

namespace Handle

/-- The `Drop` implementations; a cursor has none. -/
def drop (net : Network) : Handle → Connection → Connection
  | .none, conn => conn
  | .rowStream stream, conn => stream.drop conn
  | .cursor _, conn => conn
  | .cursorStream stream, conn => stream.drop conn
  | .copyIn copy, conn => copy.drop net conn
  | .copyOut copy, conn => copy.drop conn

/-- Between the calls on a cursor no reply is unread; elsewhere one may be. -/
def betweenReplies : Handle → Bool
  | .none | .cursor _ | .cursorStream _ => true
  | .rowStream _ | .copyIn _ | .copyOut _ => false

end Handle

namespace Session

/-- A call on a handle: one that is over or has failed is dropped. -/
def afterCall {L α : Type} (net : Network) (wrap : L → Handle) (ended : α → Bool) :
    Outcome PgError α × (L × Connection) → Outcome PgError Unit × Session
  | (.ok a, (l, conn)) =>
      (.ok (), if ended a then ⟨.none, (wrap l).drop net conn⟩ else ⟨wrap l, conn⟩)
  | (.err e, (l, conn)) => (.err e, ⟨.none, (wrap l).drop net conn⟩)
  | (.pending, (l, conn)) => (.pending, ⟨wrap l, conn⟩)

/-- A call that leaves the handle to its owner also when it fails. -/
def afterBorrow {L α : Type} (wrap : L → Handle) :
    Outcome PgError α × (L × Connection) → Outcome PgError Unit × Session
  | (outcome, (l, conn)) => (outcome.map fun _ => (), ⟨wrap l, conn⟩)

def onHandle (net : Network) (conn : Connection) :
    HandleCall → Handle → Option (Outcome PgError Unit × Session)
  | .next, .rowStream stream =>
      some (afterCall net .rowStream Option.isNone (RowStream.next net (stream, conn)))
  | .consume, .rowStream stream =>
      some (afterCall net .rowStream (fun _ => true) (RowStream.consume net (stream, conn)))
  | .fetch, .cursor cursor => some (afterBorrow .cursor (Cursor.fetchNext net (cursor, conn)))
  | .close, .cursor cursor => some ((cursor.close net conn).1, ⟨.none, (cursor.close net conn).2⟩)
  | .cursorNext fuel, .cursorStream stream =>
      some (afterCall net .cursorStream (fun _ => false)
        (CursorStream.next fuel net (stream, conn)))
  | .cursorConsume fuel, .cursorStream stream =>
      some (afterCall net .cursorStream (fun _ => true)
        (CursorStream.consume fuel net (stream, conn)))
  | .copyWrite data, .copyIn copy => some (afterBorrow .copyIn (CopyIn.write data net (copy, conn)))
  | .copyFinish, .copyIn copy =>
      some (afterCall net .copyIn (fun _ => true) (CopyIn.finish net (copy, conn)))
  | .copyCancel reason, .copyIn copy =>
      some (afterCall net .copyIn (fun _ => true) (CopyIn.cancel reason net (copy, conn)))
  | .copyRead, .copyOut copy =>
      some (afterCall net .copyOut Option.isNone (CopyOut.readNext net (copy, conn)))
  | .release, handle => some (.ok (), ⟨.none, handle.drop net conn⟩)
  | _, _ => none

/-- One call; `none` when the borrow rules do not allow it. -/
def step (net : Network) (s : Session) : Call → Option (Outcome PgError Unit × Session)
  | .operation op =>
      match s.handle with
      | .none => some ((op.run net s.conn).1, ⟨.none, (op.run net s.conn).2⟩)
      | _ => none
  | .opening opening =>
      match s.handle, opening.run net s.conn with
      | .none, (.ok handle, conn) => some (.ok (), ⟨handle, conn⟩)
      | .none, (.err e, conn) => some (.err e, ⟨.none, conn⟩)
      | .none, (.pending, conn) => some (.pending, ⟨.none, conn⟩)
      | _, _ => none
  | .handle call => onHandle net s.conn call s.handle

/-- The sessions that a sequence of calls can lead to, each of which has returned. -/
inductive Reaches (net : Network) (start : Session) : Session → Prop where
  | start : Reaches net start start
  | step {s s' : Session} {call : Call} {outcome : Outcome PgError Unit}
      (hReach : Reaches net start s) (hStep : s.step net call = some (outcome, s'))
      (hReturned : outcome ≠ .pending) : Reaches net start s'

end Session

/-- Whether a call asks the server for something when it returns `Ok`. -/
def Session.asks (s : Session) : Call → Bool
  | .operation .recover | .handle .release => false
  | .handle .fetch =>
      match s.handle with
      | .cursor cursor => !cursor.done
      | _ => true
  | _ => true

end PgClient
