import PgClient.Query.Simple

/-!
The extended query protocol: parameters, one-shot queries that collect or stream
their rows, and prepared statements.
-/

namespace PgClient

open Drive

/-- `to_sql` of a value: its encoding for a type in a format, `none` for NULL. -/
structure ToSql where
  toSql : Oid → FormatCode → Except TypeError (Option Bytes)

/-- The OID of the type `unknown`. -/
def unknownType : Oid := 705

def encodeParamsText : List ToSql → Except PgError (List (Option Bytes))
  | [] => .ok []
  | p :: params =>
      match p.toSql unknownType .text with
      | .error e => .error (.typeConversion e)
      | .ok value => (encodeParamsText params).map (value :: ·)

def encodeParamsBinaryLoop : List ToSql → List Oid → Except PgError (List (Option Bytes))
  | p :: params, ty :: types =>
      match p.toSql ty .binary with
      | .error e => .error (.typeConversion e)
      | .ok value => (encodeParamsBinaryLoop params types).map (value :: ·)
  | _, _ => .ok []

def encodeParamsBinary (params : List ToSql) (paramTypes : List Oid) :
    Except PgError (List (Option Bytes)) :=
  if params.length ≠ paramTypes.length then
    .error (.config ("parameter count mismatch: expected " ++ toString paramTypes.length ++
      ", got " ++ toString params.length))
  else encodeParamsBinaryLoop params paramTypes

structure PreparedStatement where
  name : String
  sql : String
  paramTypes : List Oid
  columns : List FieldDescription
deriving DecidableEq, Repr

namespace Connection

/-- The unnamed statement and portal: Parse, Bind, Describe, Execute. -/
def unnamedBatch (sql : String) (params : List (Option Bytes)) : List FrontendMessage :=
  [.parse "" sql [], .bind "" "" [.text] params [.binary], .describe .portal "", .execute "" 0]

def preparedBatch (stmt : PreparedStatement) (params : List (Option Bytes)) :
    List FrontendMessage :=
  [.bind "" stmt.name [.binary] params [.binary], .describe .portal "", .execute "" 0]

structure ExtendedState where
  columns : Option (List FieldDescription) := none
  rows : List Row := []
  tag : Option CommandTag := none
deriving DecidableEq, Repr

/-- Column metadata for rows that no description announced. -/
def syntheticColumns (count : Nat) : List FieldDescription :=
  (List.range count).map fun i =>
    { name := "col" ++ toString i, tableOid := 0, columnId := 0, typeOid := 0, typeSize := -1,
      typeModifier := -1, format := 1 }

def extendedBody : ExtendedState × Connection → BackendMessage →
    Step (ExtendedState × Connection) (Except PgError ReplyEnd) :=
  asyncFirst fun (reply, conn) message =>
    match message with
    | .rowDescription fields =>
        match readRowDescription fields with
        | .ok columns => .next ({ reply with columns := some columns }, conn)
        | .error e => .exit (.error e) (reply, conn)
    | .dataRow values =>
        match readDataRow values with
        | .ok values =>
            let columns := reply.columns.getD (syntheticColumns values.length)
            .next ({ reply with
              columns := some columns
              rows := reply.rows ++ [{ columns, values }] }, conn)
        | .error e => .exit (.error e) (reply, conn)
    | .commandComplete tag => .next ({ reply with tag := some (.ofBody tag) }, conn)
    | .emptyQueryResponse => .next ({ reply with tag := some {} }, conn)
    | .errorResponse body => .exit (.ok (.serverError body)) (reply, conn)
    | .readyForQuery status => .exit (.ok .ready) (reply, conn.setReady status)
    | _ => .next (reply, conn)

def ExtendedState.result (reply : ExtendedState) : QueryResult :=
  { rows := reply.rows, commandTag := reply.tag.getD {}, columns := reply.columns.getD [] }

/-- Here the state is left to `read_until_ready` and the callers. -/
def drainServerErrorOnly (body : ErrorBody) : Client PgServerError := do
  let serverErr ← .lift (ioResult (PgServerError.fromBody body))
  readUntilReady
  return serverErr

def readExtendedQueryResult : Client QueryResult :=
  .withLocal {} do
    match ← messageLoop extendedBody with
    | .ready =>
        let (reply, _) ← .get
        return reply.result
    | .serverError body =>
        let serverErr ← .onSnd (drainServerErrorOnly body)
        .fail (.server serverErr)

/-- Read the reply and set the state, whether or not the reading succeeded. -/
def readThenIdle : Client QueryResult := do
  let result ← readExtendedQueryResult.attempt
  .modify fun conn => conn.setState .idle
  .lift result

def queryParams (sql : String) (params : List ToSql) : Client QueryResult := do
  transition .activeExtendedQuery
  let paramValues ← .lift (encodeParamsText params)
  sendBatch (unnamedBatch sql paramValues ++ [.sync])
  readThenIdle

def executeParams (sql : String) (params : List ToSql) : Client ExecuteResult := do
  let result ← queryParams sql params
  return { commandTag := result.commandTag }

/-- Why the preamble loop of `query_params_stream` stops. -/
inductive Preamble where
  | columns (columns : Option (List FieldDescription))
  | serverError (body : ErrorBody)
deriving DecidableEq, Repr

def preambleBody : Unit × Connection → BackendMessage →
    Step (Unit × Connection) (Except PgError Preamble) :=
  asyncFirst fun s message =>
    match message with
    | .rowDescription fields =>
        match readRowDescription fields with
        | .ok columns => .exit (.ok (.columns (some columns))) s
        | .error e => .exit (.error e) s
    | .noData | .commandComplete _ | .emptyQueryResponse => .exit (.ok (.columns none)) s
    | .readyForQuery status => .exit (.ok (.columns none)) (s.1, s.2.setReady status)
    | .errorResponse body => .exit (.ok (.serverError body)) s
    | _ => .next s

/-- The loop of `query_params_stream`, which reads the reply up to its first row. -/
def readPreamble : Client RowStream := do
  match ← Async.withLocal () (messageLoop preambleBody) with
  | .columns columns => return RowStream.newExtendedReceiving columns
  | .serverError body =>
      let serverErr ← drainServerError body
      .fail (.server serverErr)

def queryParamsStream (sql : String) (params : List ToSql) : Client RowStream := do
  recover
  transition .streaming
  let paramValues ← .lift (encodeParamsText params)
  sendBatch (unnamedBatch sql paramValues ++ [.sync])
  readPreamble

def queryPrepared (stmt : PreparedStatement) (params : List ToSql) : Client QueryResult := do
  transition .activeExtendedQuery
  let paramValues ← .lift (encodeParamsBinary params stmt.paramTypes)
  sendBatch (preparedBatch stmt paramValues ++ [.sync])
  readThenIdle

def executePrepared (stmt : PreparedStatement) (params : List ToSql) : Client ExecuteResult := do
  let result ← queryPrepared stmt params
  return { commandTag := result.commandTag }

def queryPreparedStream (stmt : PreparedStatement) (params : List ToSql) : Client RowStream := do
  recover
  transition .streaming
  let paramValues ← .lift (encodeParamsBinary params stmt.paramTypes)
  sendBatch (preparedBatch stmt paramValues ++ [.sync])
  return RowStream.newExtendedWithColumns stmt.columns

/-- What `prepare` has learnt of its statement. -/
structure PrepareState where
  paramTypes : List Oid := []
  columns : List FieldDescription := []
deriving DecidableEq, Repr

def prepareBody (typeFromOid : Oid → Option Oid) : PrepareState × Connection → BackendMessage →
    Step (PrepareState × Connection) (Except PgError ReplyEnd) :=
  asyncFirst fun (prep, conn) message =>
    match message with
    | .parameterDescription types =>
        match ioResult types with
        | .ok types =>
            .next ({ prep with
              paramTypes := prep.paramTypes ++
                types.map fun oid => (typeFromOid oid).getD unknownType }, conn)
        | .error e => .exit (.error e) (prep, conn)
    | .rowDescription fields =>
        match readRowDescription fields with
        | .ok columns => .next ({ prep with columns }, conn)
        | .error e => .exit (.error e) (prep, conn)
    | .errorResponse body => .exit (.ok (.serverError body)) (prep, conn)
    | .readyForQuery status => .exit (.ok .ready) (prep, (conn.setReady status).setState .idle)
    | _ => .next (prep, conn)

def nextStatementName : Client String := do
  .modify fun conn => { conn with statementCounter := conn.statementCounter + 1 }
  let conn ← .get
  return "__pg_stmt_" ++ toString conn.statementCounter.toNat

def prepare (sql : String) : Client PreparedStatement := do
  transition .activeExtendedQuery
  let name ← nextStatementName
  sendBatch [.parse name sql [], .describe .statement name, .sync]
  let net ← .env
  .withLocal {} do
    match ← messageLoop (prepareBody net.typeFromOid) with
    | .ready =>
        let (prep, _) ← .get
        return { name, sql, paramTypes := prep.paramTypes, columns := prep.columns }
    | .serverError body =>
        let serverErr ← .onSnd (drainServerErrorOnly body)
        .fail (.server serverErr)

/-- The loop that waits for the end of a reply without keeping anything of it. -/
def completeBody : Unit × Connection → BackendMessage →
    Step (Unit × Connection) (Except PgError ReplyEnd) :=
  asyncFirst fun s message =>
    match message with
    | .errorResponse body => .exit (.ok (.serverError body)) s
    | .readyForQuery status => .exit (.ok .ready) (s.1, (s.2.setReady status).setState .idle)
    | _ => .next s

def closeStatement (stmt : PreparedStatement) : Client Unit := do
  transition .activeExtendedQuery
  sendBatch [.close .statement stmt.name, .sync]
  match ← Async.withLocal () (messageLoop completeBody) with
  | .ready => return ()
  | .serverError body =>
      let serverErr ← drainServerErrorOnly body
      .fail (.server serverErr)

end Connection
end PgClient
