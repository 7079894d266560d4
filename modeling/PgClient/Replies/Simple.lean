import PgClient.Query.Simple
import PgClient.Replies.Extended

/-!
Replies to a simple query, statement by statement, and the results that a batch makes of
them.
-/

namespace PgClient

open Drive Async Connection

/-- What a server answers to one statement of a simple query when nothing goes wrong. -/
inductive Statement where
  | rows (fields : List Field) (data : List (List (Option Bytes))) (tag : Option String)
  | command (tag : Option String)
  | copyOut (body : CopyResponseBody) (chunks : List Bytes) (tag : Option String)
  | empty
deriving DecidableEq, Repr

namespace Statement

def messages : Statement → List BackendMessage
  | .rows fields data tag =>
      .rowDescription (.ok fields) :: (data.map (fun values => .dataRow (.ok values)) ++
        [.commandComplete tag])
  | .command tag => [.commandComplete tag]
  | .copyOut body chunks tag =>
      .copyOutResponse body :: (chunks.map .copyData ++ [.copyDone, .commandComplete tag])
  | .empty => [.emptyQueryResponse]

/-- Its rows under its own columns. -/
def ownRows : Statement → List Row
  | .rows fields data _ => data.map fun values => { columns := fields, values }
  | _ => []

def result (statement : Statement) : QueryResult :=
  match statement with
  | .rows fields _ tag =>
      { rows := statement.ownRows, commandTag := .ofBody tag, columns := fields }
  | .command tag | .copyOut _ _ tag => { rows := [], commandTag := .ofBody tag, columns := [] }
  | .empty => { rows := [], commandTag := {}, columns := [] }

/-- The replies are those of a server that follows the protocol. -/
theorem messages_statementReply (statement : Statement) (hSome : statement ≠ .empty) :
    StatementReply statement.messages := by
  cases statement with
  | rows fields data tag =>
      have hRows := StatementReply.complete [⟨.ok fields, data.map .ok⟩] tag
      simpa [ResultSet.messages, messages, Function.comp_def] using hRows
  | command tag => exact .complete [] tag
  | copyOut body chunks tag => exact .copyOut body chunks tag
  | empty => exact absurd rfl hSome

end Statement

/-- A server that answers every message with the same reply. -/
def replying (reply : List BackendMessage) : Network where
  frontend := fun _ => .ok []
  frontendTotal := fun _ => []
  typeFromOid := fun _ => none
  answer := fun _ _ => ⟨reply.map .ok, none⟩
  writeError := fun _ => none
  flushError := fun _ => none

namespace Connection

theorem detached_batch : Detached batchBody := by
  apply detached_asyncFirst
  intro batch conn message
  cases message with
  | rowDescription fields => cases fields <;> rfl
  | dataRow values => cases values <;> rfl
  | _ => rfl

theorem drive_batch_rows (results : List QueryResult) (fields : List Field) (rows : List Row)
    (data : List (List (Option Bytes))) :
    drive (localStep batchBody) { results, currentColumns := some fields, currentRows := rows }
        (data.map fun values => .dataRow (.ok values)) =
      .waiting { results, currentColumns := some fields
                 currentRows := rows ++ data.map fun values => { columns := fields, values } } := by
  have hState := drive_collects (localStep batchBody)
    (fun values => .dataRow (.ok values))
    (fun rows => { results, currentColumns := some fields, currentRows := rows })
    (fun values => { columns := fields, values }) (fun _ _ => rfl)
  exact hState rows data

theorem drive_batch_chunks (batch : BatchState) (chunks : List Bytes) :
    drive (localStep batchBody) batch (chunks.map .copyData) = .waiting batch :=
  drive_ignores_map _ _ (fun _ => rfl) chunks

/-- A statement leaves its result and nothing else. -/
theorem drive_batch_statement (results : List QueryResult) (statement : Statement) :
    drive (localStep batchBody) { results } statement.messages =
      .waiting { results := results ++ [statement.result] } := by
  cases statement with
  | rows fields data tag =>
      exact drive_append_waiting _ (drive_batch_rows results fields [] data) [.commandComplete tag]
  | command tag => rfl
  | copyOut body chunks tag =>
      exact drive_append_waiting _ (drive_batch_chunks { results } chunks)
        [.copyDone, .commandComplete tag]
  | empty => rfl

theorem drive_batch (results : List QueryResult) (statements : List Statement) :
    drive (localStep batchBody) { results } (statements.flatMap Statement.messages) =
      .waiting { results := results ++ statements.map Statement.result } := by
  induction statements generalizing results with
  | nil => simp
  | cons statement statements ih =>
      rw [List.flatMap_cons, drive_append_waiting _ (drive_batch_statement results statement), ih]
      simp

section Batch

variable {net : Network} {conn : Connection} {sql : String}

/-- A batch has one result for each statement of its reply, in their order, with the
statement's own columns, rows and command tag. -/
theorem batchExecute_results (net : Network) (conn : Connection) (sql : String)
    (statements : List Statement) (status : UInt8) (hIdle : conn.state = .idle)
    (hSent : (send (.query sql) net conn).1 = .ok ())
    (hReply : Interleaves (send (.query sql) net conn).2.transport.inbox
      (statements.flatMap Statement.messages ++ [.readyForQuery status])) :
    (batchExecute sql net conn).1 = .ok (statements.map Statement.result) := by
  have hSends : send (.query sql) net (conn.setState .activeSimpleQuery) =
      (.ok (), { conn.setState .activeSimpleQuery with
        transport := (send (.query sql) net conn).2.transport }) := by
    rw [send_eq_sendBatch] at hSent ⊢
    rw [onTransport_sendBatch [.query sql] conn (conn.setState .activeSimpleQuery) rfl, hSent]
  have hDrive : drive (localStep batchBody) {}
      (statements.flatMap Statement.messages ++ [.readyForQuery status]) =
      .done (.ok .ready) { results := statements.map Statement.result } [] := by
    have hStatements := drive_batch [] statements
    rw [List.nil_append] at hStatements
    rw [drive_append_waiting _ hStatements]
    rfl
  obtain ⟨conn', hLoop, -⟩ := detached_batch.messageLoop_done net
    ({}, { conn.setState .activeSimpleQuery with
      transport := (send (.query sql) net conn).2.transport }) hReply hDrive
  rw [batchExecute, bind_of_ok (transition_of_idle hIdle rfl), bind_of_ok hSends,
    withLocal_apply, bind_of_ok hLoop]
  rfl

/-- Two statements that return rows, with a notice among the messages of the first. -/
theorem batchExecute_results_two :
    (batchExecute "SELECT 1; SELECT 2" (replying
        [.rowDescription (.ok []), .noticeResponse { fields := .ok [] }, .dataRow (.ok [some [49]]),
          .commandComplete (some "SELECT 1"), .rowDescription (.ok []), .dataRow (.ok [some [50]]),
          .commandComplete (some "SELECT 1"), .readyForQuery 73]) .new).1 =
      .ok [{ rows := [⟨[], [some [49]]⟩], commandTag := ⟨"SELECT 1"⟩, columns := [] },
        { rows := [⟨[], [some [50]]⟩], commandTag := ⟨"SELECT 1"⟩, columns := [] }] :=
  batchExecute_results _ .new _ [.rows [] [[some [49]]] (some "SELECT 1"),
    .rows [] [[some [50]]] (some "SELECT 1")] 73 rfl rfl (by rfl)

end Batch

end Connection
end PgClient
