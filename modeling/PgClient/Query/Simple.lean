import PgClient.Query.Stream

/-!
The simple query protocol: streaming and collecting queries, and batches of
statements.
-/

namespace PgClient
namespace Connection

open Drive

def queryStream (sql : String) : Client RowStream := do
  recover
  transition .streaming
  send (.query sql)
  return RowStream.newSimple

/-- Collect the rows of a stream that the caller then drops. -/
def collect (stream : RowStream) : Client QueryResult :=
  stream.scope do
    let rows ← RowStream.drain
    let (stream, _) ← .get
    return { rows, commandTag := stream.commandTag.getD {}, columns := stream.columns.getD [] }

def query (sql : String) : Client QueryResult := do
  let stream ← queryStream sql
  collect stream

def execute (sql : String) : Client ExecuteResult := do
  let result ← query sql
  return { commandTag := result.commandTag }

def queryOne (sql : String) : Client (Option Row) := do
  let result ← query sql
  return result.rows.head?

/-- The loop of `query_each`. The callback may depend on the rows it has seen. -/
def eachLoop (f : List Row → Row → Except PgError Unit) : Nat → List Row → Owner RowStream Unit
  | 0, _ => .wait
  | fuel + 1, seen => do
      match ← RowStream.next with
      | some row =>
          .lift (f seen row)
          eachLoop f fuel (seen ++ [row])
      | none => return ()

def queryEach (sql : String) (f : List Row → Row → Except PgError Unit) : Client CommandTag := do
  let stream ← queryStream sql
  stream.scope do
    let (_, conn) ← .get
    eachLoop f (conn.transport.inbox.length + 1) []
    let (stream, _) ← .get
    match stream.commandTag with
    | some tag => return tag
    | none => .fail (.invalidState "stream ended without command tag")

/-- The results of a batch so far and those of its current statement. -/
structure BatchState where
  results : List QueryResult := []
  currentColumns : Option (List FieldDescription) := none
  currentRows : List Row := []
deriving DecidableEq, Repr

/-- How a read loop that collects a reply stops without an error of its own. -/
inductive ReplyEnd where
  | ready
  | serverError (body : ErrorBody)
deriving DecidableEq, Repr

def batchBody : BatchState × Connection → BackendMessage →
    Step (BatchState × Connection) (Except PgError ReplyEnd) :=
  asyncFirst fun (batch, conn) message =>
    match message with
    | .rowDescription fields =>
        match readRowDescription fields with
        | .ok columns =>
            .next ({ batch with currentColumns := some columns, currentRows := [] }, conn)
        | .error e => .exit (.error e) (batch, conn)
    | .dataRow values =>
        match readDataRow values with
        | .ok values =>
            .next ({ batch with
              currentRows := batch.currentRows ++
                [{ columns := batch.currentColumns.getD [], values }] }, conn)
        | .error e => .exit (.error e) (batch, conn)
    | .commandComplete tag =>
        .next ({ results := batch.results ++
            [{ rows := batch.currentRows, commandTag := .ofBody tag,
               columns := batch.currentColumns.getD [] }] }, conn)
    | .emptyQueryResponse =>
        .next ({ batch with
          results := batch.results ++ [{ rows := [], commandTag := {}, columns := [] }] }, conn)
    | .errorResponse body => .exit (.ok (.serverError body)) (batch, conn)
    | .readyForQuery status => .exit (.ok .ready) (batch, (conn.setReady status).setState .idle)
    | _ => .next (batch, conn)

def batchExecute (sql : String) : Client (List QueryResult) := do
  transition .activeSimpleQuery
  send (.query sql)
  .withLocal {} do
    match ← messageLoop batchBody with
    | .ready =>
        let (batch, _) ← .get
        return batch.results
    | .serverError body =>
        let serverErr ← .onSnd (drainServerError body)
        .fail (.server serverErr)

def ping : Client Unit := do
  let _ ← query "SELECT 1"

def reset : Client Unit := do
  let conn ← .get
  .doIf (conn.transactionStatus = .failed ∨ conn.transactionStatus = .inTransaction) do
    let _ ← execute "ROLLBACK"
  let _ ← execute "DISCARD ALL"
  .modify fun conn => { conn with sessionState := conn.sessionState.clear }

end Connection
end PgClient
