import PgClient.Query.Params

/-!
Cursors: portals that are executed in batches, fetched as such or row by row.
-/

namespace PgClient

open Drive

structure Cursor where
  portalName : String
  columns : List FieldDescription
  fetchSize : Int32
  done : Bool
  ownsTransaction : Bool
deriving DecidableEq, Repr

namespace Connection

def cursorOpenBody : Option (List FieldDescription) × Connection → BackendMessage →
    Step (Option (List FieldDescription) × Connection) (Except PgError ReplyEnd) :=
  asyncFirst fun (columns, conn) message =>
    match message with
    | .rowDescription fields =>
        match readRowDescription fields with
        | .ok columns => .next (some columns, conn)
        | .error e => .exit (.error e) (columns, conn)
    | .errorResponse body => .exit (.ok (.serverError body)) (columns, conn)
    | .readyForQuery status =>
        .exit (.ok .ready) (columns, (conn.setReady status).setState .idle)
    | _ => .next (columns, conn)

def openBatch (sql portalName : String) (params : List (Option Bytes)) : List FrontendMessage :=
  [.parse "" sql [], .bind portalName "" [.text] params [.binary], .describe .portal portalName]

/-- `query_cursor`; `query_cursor_stream` opens its portal in the same way. -/
def queryCursor (sql : String) (params : List ToSql) (fetchSize : Int32) : Client Cursor := do
  let conn ← .get
  let needTransaction := decide (conn.transactionStatus = .idle)
  .doIf needTransaction do
    let _ ← query "BEGIN"
  transition .activeExtendedQuery
  let paramValues ← .lift (encodeParamsText params)
  let conn ← .get
  let portalName := "__pg_portal_" ++ toString conn.statementCounter.toNat
  .modify fun conn => { conn with statementCounter := conn.statementCounter + 1 }
  sendBatch (openBatch sql portalName paramValues ++ [.sync])
  .withLocal none do
    match ← messageLoop cursorOpenBody with
    | .ready =>
        let (columns, _) ← .get
        return { portalName, columns := columns.getD [], fetchSize, done := false,
                 ownsTransaction := needTransaction }
    | .serverError body =>
        let serverErr ← .onSnd (drainServerError body)
        .fail (.server serverErr)

/-- Close a portal and, for a cursor that began the transaction, commit it. -/
def closePortal (portalName : String) (ownsTransaction : Bool) : Client Unit := do
  transition .activeExtendedQuery
  sendBatch [.close .portal portalName, .sync]
  match ← Async.withLocal () (messageLoop completeBody) with
  | .ready =>
      .doIf ownsTransaction do
        let _ ← execute "COMMIT"
  | .serverError body =>
      let serverErr ← drainServerError body
      .fail (.server serverErr)

end Connection

namespace Cursor

def fetchBody : (Cursor × List Row) × Connection → BackendMessage →
    Step ((Cursor × List Row) × Connection) (Except PgError Connection.ReplyEnd) :=
  Connection.asyncFirst fun ((cursor, rows), conn) message =>
    match message with
    | .rowDescription fields =>
        match readRowDescription fields with
        | .ok columns => .next (({ cursor with columns }, rows), conn)
        | .error e => .exit (.error e) ((cursor, rows), conn)
    | .dataRow values =>
        match readDataRow values with
        | .ok values =>
            .next ((cursor, rows ++ [{ columns := cursor.columns, values }]), conn)
        | .error e => .exit (.error e) ((cursor, rows), conn)
    | .commandComplete _ => .next (({ cursor with done := true }, rows), conn)
    | .errorResponse body => .exit (.ok (.serverError body)) ((cursor, rows), conn)
    | .readyForQuery status =>
        .exit (.ok .ready) ((cursor, rows), (conn.setReady status).setState .idle)
    | _ => .next ((cursor, rows), conn)

/-- The read loop of a fetch, with the rows of the batch as its local variable. -/
def fetchLoop : Owner Cursor (Connection.ReplyEnd × List Row) :=
  .withExtra [] (Connection.messageLoop fetchBody)

def fetchNext : Owner Cursor (List Row) := do
  let (cursor, _) ← .get
  if cursor.done then return []
  else
    .onSnd (Connection.transition .activeExtendedQuery)
    .onSnd (Connection.sendBatch [.execute cursor.portalName cursor.fetchSize, .sync])
    match ← fetchLoop with
    | (.ready, rows) => return rows
    | (.serverError body, _) =>
        let serverErr ← .onSnd (Connection.drainServerError body)
        .fail (.server serverErr)

def close (cursor : Cursor) : Client Unit :=
  Connection.closePortal cursor.portalName cursor.ownsTransaction

end Cursor

inductive CursorStreamState where
  | active
  | done (commandTag : CommandTag)
  | error
deriving DecidableEq, Repr

/-- The buffered rows stand in the order in which they are yielded. -/
structure CursorStream where
  portalName : String
  columns : List FieldDescription
  fetchSize : Int32
  state : CursorStreamState
  bufferedRows : List Row
  ownsTransaction : Bool
deriving DecidableEq, Repr

namespace CursorStream

def new (portalName : String) (columns : List FieldDescription) (fetchSize : Int32)
    (ownsTransaction : Bool) : CursorStream :=
  { portalName, columns, fetchSize, state := .active, bufferedRows := [], ownsTransaction }

def isDone (stream : CursorStream) : Bool :=
  match stream.state with
  | .done _ | .error => true
  | .active => false

/-- What one batch has brought so far. -/
structure Batch where
  commandTag : Option CommandTag := none
  rows : List Row := []
deriving DecidableEq, Repr

def batchBody : (CursorStream × Batch) × Connection → BackendMessage →
    Step ((CursorStream × Batch) × Connection) (Except PgError Connection.ReplyEnd) :=
  Connection.asyncFirst fun ((stream, batch), conn) message =>
    match message with
    | .rowDescription fields =>
        match readRowDescription fields with
        | .ok columns => .next (({ stream with columns }, batch), conn)
        | .error e => .exit (.error e) ((stream, batch), conn)
    | .dataRow values =>
        match readDataRow values with
        | .ok values =>
            .next ((stream, { batch with
              rows := batch.rows ++ [{ columns := stream.columns, values }] }), conn)
        | .error e => .exit (.error e) ((stream, batch), conn)
    | .commandComplete tag =>
        .next ((stream, { batch with commandTag := some (.ofBody tag) }), conn)
    | .errorResponse body => .exit (.ok (.serverError body)) ((stream, batch), conn)
    | .readyForQuery status =>
        .exit (.ok .ready) ((stream, batch), (conn.setReady status).setState .idle)
    | _ => .next ((stream, batch), conn)

def batchLoop : Owner CursorStream (Connection.ReplyEnd × Batch) :=
  .withExtra {} (Connection.messageLoop batchBody)

/-- One round trip: the batch that an Execute brings. -/
def fetchBatch : Owner CursorStream Batch := do
  let (stream, _) ← .get
  .onSnd (Connection.transition .activeExtendedQuery)
  .onSnd (Connection.sendBatch [.execute stream.portalName stream.fetchSize, .sync])
  match ← batchLoop with
  | (.ready, batch) => return batch
  | (.serverError body, _) =>
      let serverErr ← .onSnd (Connection.drainServerError body)
      .modify fun (stream, conn) => ({ stream with state := .error }, conn)
      .fail (.server serverErr)

/-- A row from the buffer, `none` when the buffer is empty. -/
def popRow : Owner CursorStream (Option Row) := do
  let (stream, _) ← .get
  match stream.bufferedRows with
  | [] => return none
  | row :: rows =>
      .modify fun (stream, conn) => ({ stream with bufferedRows := rows }, conn)
      return some row

/-- `next` with a bound on its round trips; it waits when they are used up. -/
def next : Nat → Owner CursorStream (Option Row)
  | 0 => .wait
  | fuel + 1 => do
      match ← popRow with
      | some row => return some row
      | none =>
          let (stream, _) ← .get
          if stream.isDone then return none
          else
            let batch ← fetchBatch
            .modify fun (stream, conn) =>
              ({ stream with state := (batch.commandTag.map .done).getD stream.state }, conn)
            let (stream, _) ← .get
            if batch.rows = [] ∧ !stream.isDone then next fuel
            else
              .modify fun (stream, conn) => ({ stream with bufferedRows := batch.rows }, conn)
              popRow

/-- `close_portal`, which only commits when every row has been fetched. -/
def closePortal : Owner CursorStream Unit := do
  let (stream, _) ← .get
  match stream.state with
  | .done _ =>
      .doIf stream.ownsTransaction do
        let _ ← .onSnd (Connection.execute "COMMIT")
  | _ =>
      .onSnd (Connection.closePortal stream.portalName stream.ownsTransaction)
      .modify fun (stream, conn) => ({ stream with state := .done {} }, conn)

def drainLoop (fuel : Nat) : Nat → Owner CursorStream Unit
  | 0 => .wait
  | rows + 1 => do
      match ← next fuel with
      | some _ => drainLoop fuel rows
      | none => return ()

/-- `consume` with a bound on the rows and on the round trips of each. -/
def consume (fuel : Nat) : Owner CursorStream CommandTag := do
  drainLoop fuel fuel
  closePortal
  let (stream, _) ← .get
  match stream.state with
  | .done tag => return tag
  | _ => return {}

/-- `Drop for CursorStream`. -/
def drop (stream : CursorStream) (conn : Connection) : Connection :=
  if stream.isDone then conn else { conn with needsRecovery := true }

end CursorStream

namespace Connection

def queryCursorStream (sql : String) (params : List ToSql) (fetchSize : Int32) :
    Client CursorStream := do
  let cursor ← queryCursor sql params fetchSize
  return CursorStream.new cursor.portalName cursor.columns cursor.fetchSize
    cursor.ownsTransaction

end Connection
end PgClient
