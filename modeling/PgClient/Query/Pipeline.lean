import PgClient.Query.Params

/-!
Pipelines: several extended queries in one round trip, ended by a single Sync.
-/

namespace PgClient

open Drive

inductive PipelineOp where
  | query (sql : String) (params : List (Option Bytes))
  | execute (sql : String) (params : List (Option Bytes))
deriving DecidableEq, Repr

inductive PipelineResult where
  | query (result : QueryResult)
  | execute (commandTag : CommandTag)
deriving DecidableEq, Repr

namespace PipelineOp

def messages : PipelineOp → List FrontendMessage
  | .query sql params | .execute sql params => Connection.unnamedBatch sql params

end PipelineOp

/-- The operations queued so far. -/
structure Pipeline where
  ops : List PipelineOp := []
deriving DecidableEq, Repr

namespace Pipeline

def query (pipeline : Pipeline) (sql : String) (params : List ToSql) : Except PgError Pipeline :=
  (encodeParamsText params).map fun values => { ops := pipeline.ops ++ [.query sql values] }

def execute (pipeline : Pipeline) (sql : String) (params : List ToSql) : Except PgError Pipeline :=
  (encodeParamsText params).map fun values => { ops := pipeline.ops ++ [.execute sql values] }

/-- The accumulators of the read loop; `rest` are the operations not yet answered. -/
structure ReadState where
  rest : List PipelineOp
  results : List PipelineResult := []
  currentColumns : Option (List FieldDescription) := none
  currentRows : List Row := []
deriving DecidableEq, Repr

namespace ReadState

/-- A Query takes the rows and columns; an Execute leaves them where they are. -/
def commandComplete (read : ReadState) (tag : CommandTag) : ReadState :=
  match read.rest with
  | .query _ _ :: rest =>
      { rest
        results := read.results ++
          [.query { rows := read.currentRows, commandTag := tag,
                    columns := read.currentColumns.getD [] }]
        currentColumns := none
        currentRows := [] }
  | .execute _ _ :: rest => { read with rest, results := read.results ++ [.execute tag] }
  | [] => read

def emptyQuery (read : ReadState) : ReadState :=
  match read.rest with
  | .query _ _ :: rest =>
      { read with
        rest
        results := read.results ++ [.query { rows := [], commandTag := {}, columns := [] }] }
  | .execute _ _ :: rest => { read with rest, results := read.results ++ [.execute {}] }
  | [] => read

end ReadState

def readBody : ReadState × Connection → BackendMessage →
    Step (ReadState × Connection) (Except PgError Connection.ReplyEnd) :=
  Connection.asyncFirst fun (read, conn) message =>
    match message with
    | .rowDescription fields =>
        match readRowDescription fields with
        | .ok columns => .next ({ read with currentColumns := some columns }, conn)
        | .error e => .exit (.error e) (read, conn)
    | .dataRow values =>
        match readDataRow values with
        | .ok values =>
            .next ({ read with
              currentRows := read.currentRows ++
                [{ columns := read.currentColumns.getD [], values }] }, conn)
        | .error e => .exit (.error e) (read, conn)
    | .commandComplete tag => .next (read.commandComplete (.ofBody tag), conn)
    | .emptyQueryResponse => .next (read.emptyQuery, conn)
    | .errorResponse body => .exit (.ok (.serverError body)) (read, conn)
    | .readyForQuery status =>
        .exit (.ok .ready) (read, (conn.setReady status).setState .idle)
    | _ => .next (read, conn)

/-- The read loop of `finish`. -/
def readResults (ops : List PipelineOp) : Client (List PipelineResult) :=
  .withLocal { rest := ops } do
    match ← Connection.messageLoop readBody with
    | .ready =>
        let (read, _) ← .get
        return read.results
    | .serverError body =>
        let serverErr ← .onSnd (Connection.drainServerError body)
        .fail (.server serverErr)

def finish (pipeline : Pipeline) : Client (List PipelineResult) := do
  Connection.transition .activeExtendedQuery
  Connection.sendBatch (pipeline.ops.flatMap PipelineOp.messages ++ [.sync])
  readResults pipeline.ops

end Pipeline
end PgClient
