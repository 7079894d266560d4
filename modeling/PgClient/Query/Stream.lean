import PgClient.Query.Row

/-!
`RowStream`: the rows of one reply, read one at a time.
-/

namespace PgClient

open Drive

inductive RowStreamState where
  | waitingForDescription
  | receivingRows
  | finishing (commandTag : CommandTag)
  | done (commandTag : CommandTag)
  | error
deriving DecidableEq, Repr

structure RowStream where
  columns : Option (List FieldDescription)
  state : RowStreamState
deriving DecidableEq, Repr

namespace RowStream

def newSimple : RowStream := { columns := none, state := .waitingForDescription }

def newExtendedWithColumns (columns : List FieldDescription) : RowStream :=
  { columns := some columns, state := .waitingForDescription }

def newExtendedReceiving (columns : Option (List FieldDescription)) : RowStream :=
  { columns, state := .receivingRows }

def isDone (stream : RowStream) : Bool :=
  match stream.state with
  | .done _ | .error => true
  | _ => false

def commandTag (stream : RowStream) : Option CommandTag :=
  match stream.state with
  | .done tag | .finishing tag => some tag
  | _ => none

/-- Why the read loop of `next` stops. -/
inductive Event where
  | row (row : Row)
  | finished
  | serverError (body : ErrorBody)

/-- One message in the read loop of `next`, in each state of the stream. -/
def nextBody : RowStream × Connection → BackendMessage →
    Step (RowStream × Connection) (Except PgError Event) :=
  Connection.asyncFirst fun (stream, conn) message =>
    match stream.state, message with
    | .waitingForDescription, .rowDescription fields =>
        match readRowDescription fields with
        | .ok columns => .next ({ columns := some columns, state := .receivingRows }, conn)
        | .error e => .exit (.error e) (stream, conn)
    | .waitingForDescription, .emptyQueryResponse =>
        .next ({ stream with state := .finishing {} }, conn)
    | .receivingRows, .dataRow values =>
        match readDataRow values with
        | .ok values =>
            .exit (.ok (.row { columns := stream.columns.getD [], values })) (stream, conn)
        | .error e => .exit (.error e) (stream, conn)
    | .waitingForDescription, .commandComplete tag | .receivingRows, .commandComplete tag =>
        .next ({ stream with state := .finishing (.ofBody tag) }, conn)
    | .finishing tag, .readyForQuery status =>
        .exit (.ok .finished) ({ stream with state := .done tag },
          (conn.setReady status).setState .idle)
    | _, .errorResponse body => .exit (.ok (.serverError body)) (stream, conn)
    | _, _ => .next (stream, conn)

/-- Fetch the next row from the stream. -/
def next : Owner RowStream (Option Row) := do
  let (stream, _) ← .get
  if stream.isDone then return none
  else
    match ← Connection.messageLoop nextBody with
    | .row row => return some row
    | .finished => return none
    | .serverError body =>
        let serverErr ← .onSnd (Connection.drainServerError body)
        .modify fun (stream, conn) => ({ stream with state := .error }, conn)
        .fail (.server serverErr)

/-- Call `next` until it returns `None`, collecting what it returns before. -/
def drainLoop : Nat → List Row → Owner RowStream (List Row)
  | 0, _ => .wait
  | fuel + 1, rows => do
      match ← next with
      | some row => drainLoop fuel (rows ++ [row])
      | none => return rows

/-- Every call that returns a row takes a message from the inbox. -/
def drain : Owner RowStream (List Row) := fun net s =>
  drainLoop (s.2.transport.inbox.length + 1) [] net s

def consume : Owner RowStream CommandTag := do
  let _ ← drain
  let (stream, _) ← .get
  match stream.state with
  | .done tag => return tag
  | _ => return {}

/-- `Drop for RowStream`. -/
def drop (stream : RowStream) (conn : Connection) : Connection :=
  if stream.isDone then conn else { conn with needsRecovery := true }

/-- Code that owns a stream; however it ends, the stream is dropped. -/
def scope {α : Type} (stream : RowStream) (body : Owner RowStream α) : Client α := fun net conn =>
  ((body net (stream, conn)).1, drop (body net (stream, conn)).2.1 (body net (stream, conn)).2.2)

end RowStream
end PgClient
