import PgClient.Pairing.Frame
import PgClient.Protocol.TableServer

/-!
Operations that fail before they have sent anything. Such a failure leaves a usable
connection behind exactly when it cannot happen: every operation moves the state first
and encodes its request then.
-/

namespace PgClient

open Connection Async

/-- The operations that move the connection state and encode a request. -/
inductive Request where
  | queryStream (sql : String)
  | query (sql : String)
  | batchExecute (sql : String)
  | queryParams (sql : String) (params : List ToSql)
  | queryParamsStream (sql : String) (params : List ToSql)
  | queryPrepared (stmt : PreparedStatement) (params : List ToSql)
  | queryPreparedStream (stmt : PreparedStatement) (params : List ToSql)
  | prepare (sql : String)
  | copyIn (sql : String)
  | copyOut (sql : String)
  | pipeline (queued : Pipeline)

namespace Request

def run : Request → Client Unit
  | .queryStream sql => do let _ ← Connection.queryStream sql
  | .query sql => do let _ ← Connection.query sql
  | .batchExecute sql => do let _ ← Connection.batchExecute sql
  | .queryParams sql params => do let _ ← Connection.queryParams sql params
  | .queryParamsStream sql params => do let _ ← Connection.queryParamsStream sql params
  | .queryPrepared stmt params => do let _ ← Connection.queryPrepared stmt params
  | .queryPreparedStream stmt params => do let _ ← Connection.queryPreparedStream stmt params
  | .prepare sql => do let _ ← Connection.prepare sql
  | .copyIn sql => do let _ ← Connection.copyIn sql
  | .copyOut sql => do let _ ← Connection.copyOut sql
  | .pipeline queued => do let _ ← queued.finish

/-- The messages of a request, or the error of its parameters. -/
def messages (conn : Connection) : Request → Except PgError (List FrontendMessage)
  | .queryStream sql | .query sql | .batchExecute sql | .copyIn sql | .copyOut sql =>
      .ok [.query sql]
  | .queryParams sql params | .queryParamsStream sql params =>
      (encodeParamsText params).map fun values => unnamedBatch sql values ++ [.sync]
  | .queryPrepared stmt params | .queryPreparedStream stmt params =>
      (encodeParamsBinary params stmt.paramTypes).map fun values =>
        preparedBatch stmt values ++ [.sync]
  | .prepare sql =>
      let name := "__pg_stmt_" ++ toString (conn.statementCounter + 1).toNat
      .ok [.parse name sql [], .describe .statement name, .sync]
  | .pipeline queued => .ok (queued.ops.flatMap PipelineOp.messages ++ [.sync])

theorem messages_ne_nil {conn : Connection} {request : Request} {batch : List FrontendMessage}
    (h : request.messages conn = .ok batch) : batch ≠ [] := by
  cases request with
  | queryParams sql params | queryParamsStream sql params =>
      simp only [messages] at h
      cases hParams : encodeParamsText params with
      | error e => simp [hParams, Except.map] at h
      | ok values =>
          simp only [hParams, Except.map, Except.ok.injEq] at h
          simp [← h]
  | queryPrepared stmt params | queryPreparedStream stmt params =>
      simp only [messages] at h
      cases hParams : encodeParamsBinary params stmt.paramTypes with
      | error e => simp [hParams, Except.map] at h
      | ok values =>
          simp only [hParams, Except.map, Except.ok.injEq] at h
          simp [← h]
  | _ =>
      cases h
      simp

end Request

/-- A connection as an operation expects to find it, and as one that sent nothing should
leave it: idle, not in need of recovery, with nothing in the write buffer. -/
structure Connection.Accepting (conn : Connection) : Prop where
  idle : conn.state = .idle
  needsRecovery : conn.needsRecovery = false
  writeBuf : conn.transport.writeBuf = []

namespace Request

/-- What an operation does on a connection that accepts it: it moves the state, fails if
its parameters cannot be encoded, and otherwise sends its messages and goes on. -/
structure Begins (net : Network) (conn : Connection) (request : Request) (base : Connection)
    (rest : Unit → Client Unit) : Prop where
  transport : base.transport = conn.transport
  active : base.state ≠ .idle
  run : request.run net conn =
    match request.messages conn with
    | .error e => (.err e, base)
    | .ok batch => (sendBatch batch >>= rest) net base
  keeps : ∀ history, Keeps net (fun conn => history <:+ conn.transport.history) (rest ())

variable {net : Network} {conn : Connection}

theorem transition_accepting (h : conn.Accepting) {state : ConnectionState}
    (hPermits : ConnectionState.idle.permits state) :
    transition state net conn = (.ok (), conn.setState state) := by
  simp [transition, h.idle, hPermits]

theorem recover_accepting (h : conn.Accepting) : recover net conn = (.ok (), conn) := by
  simp [recover, h.needsRecovery]

theorem begins_batchExecute (h : conn.Accepting) (sql : String) :
    ∃ base rest, Begins net conn (.batchExecute sql) base rest := by
  refine ⟨conn.setState .activeSimpleQuery, ?rest, rfl, by simp [Connection.setState], ?run, ?keeps⟩
  case run =>
    simp only [run, Connection.batchExecute, bind_assoc]
    rw [bind_of_ok (transition_accepting h rfl), send_eq_sendBatch]
    rfl
  case keeps =>
    intro history
    have hInert := inert_sent history
    refine keeps_bind (keeps_withLocal ?_) fun _ => keeps_pure _
    refine keeps_bind (keeps_messageLoop hInert orderly_batch) fun ending => ?_
    cases ending with
    | ready => exact keeps_bind keeps_get fun _ => keeps_pure _
    | serverError body => exact keeps_failServer (keeps_drainServerError hInert body)

theorem begins_queryParams (h : conn.Accepting) (sql : String) (params : List ToSql) :
    ∃ base rest, Begins net conn (.queryParams sql params) base rest := by
  refine ⟨conn.setState .activeExtendedQuery, fun _ => readThenIdle >>= fun _ => pure (), rfl,
    by simp [Connection.setState], ?run, ?keeps⟩
  case run =>
    simp only [run, Connection.queryParams, bind_assoc, messages]
    rw [bind_of_ok (transition_accepting h rfl)]
    cases encodeParamsText params <;> rfl
  case keeps =>
    exact fun history => keeps_bind (keeps_readThenIdle (inert_sent history)) fun _ => keeps_pure _

theorem begins_queryPrepared (h : conn.Accepting) (stmt : PreparedStatement)
    (params : List ToSql) : ∃ base rest, Begins net conn
    (.queryPrepared stmt params) base rest := by
  refine ⟨conn.setState .activeExtendedQuery, fun _ => readThenIdle >>= fun _ => pure (), rfl,
    by simp [Connection.setState], ?run, ?keeps⟩
  case run =>
    simp only [run, Connection.queryPrepared, bind_assoc, messages]
    rw [bind_of_ok (transition_accepting h rfl)]
    cases encodeParamsBinary params stmt.paramTypes <;> rfl
  case keeps =>
    exact fun history => keeps_bind (keeps_readThenIdle (inert_sent history)) fun _ => keeps_pure _

theorem begins_queryStream (h : conn.Accepting) (sql : String) :
    ∃ base rest, Begins net conn (.queryStream sql) base rest := by
  refine ⟨conn.setState .streaming, ?rest, rfl, by simp [Connection.setState], ?run, ?keeps⟩
  case run =>
    simp only [run, Connection.queryStream, bind_assoc]
    rw [bind_of_ok (recover_accepting h), bind_of_ok (transition_accepting h rfl),
      send_eq_sendBatch]
    rfl
  case keeps => exact fun _ => keeps_bind (keeps_pure _) fun _ => keeps_pure _

theorem keeps_collect (history : List FrontendMessage) (stream : RowStream) :
    Keeps net (fun conn => history <:+ conn.transport.history) (collect stream) := by
  apply RowStream.keeps_scope
  refine keeps_bind (RowStream.keeps_drain (inert_sent history)) fun _ => ?_
  exact keeps_bind keeps_get fun _ => keeps_pure _

theorem begins_query (h : conn.Accepting) (sql : String) :
    ∃ base rest, Begins net conn (.query sql) base rest := by
  refine ⟨conn.setState .streaming, ?rest, rfl, by simp [Connection.setState], ?run, ?keeps⟩
  case run =>
    simp only [run, Connection.query, Connection.queryStream, bind_assoc]
    rw [bind_of_ok (recover_accepting h), bind_of_ok (transition_accepting h rfl),
      send_eq_sendBatch]
    rfl
  case keeps =>
    intro history
    refine keeps_bind (keeps_pure _) fun stream => ?_
    exact keeps_bind (keeps_collect history stream) fun _ => keeps_pure _

theorem begins_queryPreparedStream (h : conn.Accepting) (stmt : PreparedStatement)
    (params : List ToSql) :
    ∃ base rest, Begins net conn (.queryPreparedStream stmt params) base rest := by
  refine ⟨conn.setState .streaming,
    fun _ => pure (RowStream.newExtendedWithColumns stmt.columns) >>= fun _ => pure (), rfl,
    by simp [Connection.setState], ?run, ?keeps⟩
  case run =>
    simp only [run, Connection.queryPreparedStream, bind_assoc, messages]
    rw [bind_of_ok (recover_accepting h), bind_of_ok (transition_accepting h rfl)]
    cases encodeParamsBinary params stmt.paramTypes <;> rfl
  case keeps => exact fun _ => keeps_bind (keeps_pure _) fun _ => keeps_pure _

theorem begins_queryParamsStream (h : conn.Accepting) (sql : String) (params : List ToSql) :
    ∃ base rest, Begins net conn (.queryParamsStream sql params) base rest := by
  refine ⟨conn.setState .streaming, fun _ => readPreamble >>= fun _ => pure (), rfl,
    by simp [Connection.setState], ?run, ?keeps⟩
  case run =>
    simp only [run, Connection.queryParamsStream, bind_assoc, messages]
    rw [bind_of_ok (recover_accepting h), bind_of_ok (transition_accepting h rfl)]
    cases encodeParamsText params <;> rfl
  case keeps =>
    intro history
    have hInert := inert_sent history
    refine keeps_bind ?_ fun _ => keeps_pure _
    refine keeps_bind (keeps_withLocal (keeps_messageLoop hInert orderly_preamble))
      fun preamble => ?_
    cases preamble with
    | columns columns => exact keeps_pure _
    | serverError body =>
        exact keeps_bind (keeps_drainServerError hInert body) fun _ => keeps_fail _

theorem begins_prepare (h : conn.Accepting) (sql : String) :
    ∃ base rest, Begins net conn (.prepare sql) base rest := by
  refine ⟨{ conn.setState .activeExtendedQuery with statementCounter := conn.statementCounter + 1 },
    ?rest, rfl, by simp [Connection.setState], ?run, ?keeps⟩
  case run =>
    simp only [run, Connection.prepare, bind_assoc]
    rw [bind_of_ok (transition_accepting h rfl)]
    rfl
  case keeps =>
    intro history
    have hInert := inert_sent history
    refine keeps_bind keeps_env fun _ => ?_
    refine keeps_bind (keeps_withLocal ?_) fun _ => keeps_pure _
    refine keeps_bind (keeps_messageLoop hInert (orderly_prepare _)) fun ending => ?_
    cases ending with
    | ready => exact keeps_bind keeps_get fun _ => keeps_pure _
    | serverError body => exact keeps_failServer (keeps_drainServerErrorOnly hInert body)

theorem begins_copyIn (h : conn.Accepting) (sql : String) :
    ∃ base rest, Begins net conn (.copyIn sql) base rest := by
  refine ⟨conn.setState .copyIn, ?rest, rfl, by simp [Connection.setState], ?run, ?keeps⟩
  case run =>
    simp only [run, Connection.copyIn, copyStart, bind_assoc]
    rw [bind_of_ok (transition_accepting h rfl), send_eq_sendBatch]
    rfl
  case keeps =>
    intro history
    refine keeps_bind (keeps_readCopyStart (inert_sent history) copyInResponse_eq _) fun _ => ?_
    exact keeps_bind (keeps_pure _) fun _ => keeps_pure _

theorem begins_copyOut (h : conn.Accepting) (sql : String) :
    ∃ base rest, Begins net conn (.copyOut sql) base rest := by
  refine ⟨conn.setState .copyOut, ?rest, rfl, by simp [Connection.setState], ?run, ?keeps⟩
  case run =>
    simp only [run, Connection.copyOut, copyStart, bind_assoc]
    rw [bind_of_ok (transition_accepting h rfl), send_eq_sendBatch]
    rfl
  case keeps =>
    intro history
    refine keeps_bind (keeps_readCopyStart (inert_sent history) copyOutResponse_eq _) fun _ => ?_
    exact keeps_bind (keeps_pure _) fun _ => keeps_pure _

theorem begins_pipeline (h : conn.Accepting) (queued : Pipeline) :
    ∃ base rest, Begins net conn (.pipeline queued) base rest := by
  refine ⟨conn.setState .activeExtendedQuery, ?rest, rfl, by simp [Connection.setState],
    ?run, ?keeps⟩
  case run =>
    simp only [run, Pipeline.finish, bind_assoc]
    rw [bind_of_ok (transition_accepting h rfl)]
    rfl
  case keeps =>
    intro history
    have hInert := inert_sent history
    refine keeps_bind (keeps_withLocal ?_) fun _ => keeps_pure _
    refine keeps_bind (keeps_messageLoop hInert orderly_pipeline) fun ending => ?_
    cases ending with
    | ready => exact keeps_bind keeps_get fun _ => keeps_pure _
    | serverError body => exact keeps_failServer (keeps_drainServerError hInert body)

/-- Every operation begins in the same way. -/
theorem begins (h : conn.Accepting) (request : Request) :
    ∃ base rest, Begins net conn request base rest := by
  cases request with
  | queryStream sql => exact begins_queryStream h sql
  | query sql => exact begins_query h sql
  | batchExecute sql => exact begins_batchExecute h sql
  | queryParams sql params => exact begins_queryParams h sql params
  | queryParamsStream sql params => exact begins_queryParamsStream h sql params
  | queryPrepared stmt params => exact begins_queryPrepared h stmt params
  | queryPreparedStream stmt params => exact begins_queryPreparedStream h stmt params
  | prepare sql => exact begins_prepare h sql
  | copyIn sql => exact begins_copyIn h sql
  | copyOut sql => exact begins_copyOut h sql
  | pipeline queued => exact begins_pipeline h queued

/-- A call that fails without having sent anything leaves the connection as it was. -/
def FailsCleanly (net : Network) (conn : Connection) (request : Request) : Prop :=
  ∀ e, (request.run net conn).1 = .err e →
    (request.run net conn).2.transport.history = conn.transport.history →
      (request.run net conn).2.Accepting

/-- A request that is sent in part has left its mark in the history. -/
theorem Begins.history_lt {request : Request} {base : Connection} {rest : Unit → Client Unit}
    (hBegins : Begins net conn request base rest) {batch : List FrontendMessage}
    (hMessages : request.messages conn = .ok batch)
    (hAccepts : net.Accepts conn.transport.history batch) (hBuf : conn.transport.writeBuf = []) :
    conn.transport.history.length < (request.run net conn).2.transport.history.length := by
  have hEnd : Ends base (fun t => conn.transport.history.length < t.history.length)
      (fun t => conn.transport.history.length < t.history.length) (sendBatch batch net base) := by
    rw [← hBegins.transport] at hBuf hAccepts ⊢
    exact sendBatch_accepted base hBuf (messages_ne_nil hMessages) hAccepts
  rw [hBegins.run, hMessages]
  dsimp only
  rw [bind_apply]
  revert hEnd
  obtain ⟨outcome, conn'⟩ := sendBatch batch net base
  intro hEnd
  cases outcome with
  | ok value =>
      obtain ⟨t, rfl, ht⟩ := hEnd
      have hKept := hBegins.keeps t.history { base with transport := t } (List.suffix_refl _)
      exact Nat.lt_of_lt_of_le ht hKept.length_le
  | err e =>
      obtain ⟨t, rfl, ht⟩ := hEnd
      exact ht
  | pending => cases hEnd

/-- A request that is refused fails with the state moved and nothing sent. -/
theorem Begins.refused {request : Request} {base : Connection} {rest : Unit → Client Unit}
    (hBegins : Begins net conn request base rest) (hBuf : conn.transport.writeBuf = [])
    (hRefused : ∀ batch, request.messages conn = .ok batch →
      ¬ net.Accepts conn.transport.history batch) :
    ∃ e, (request.run net conn).1 = .err e ∧
      (request.run net conn).2.transport.history = conn.transport.history ∧
        (request.run net conn).2.state ≠ .idle := by
  rw [hBegins.run]
  cases hMessages : request.messages conn with
  | error e => exact ⟨e, rfl, by rw [hBegins.transport], hBegins.active⟩
  | ok batch =>
      have hEnd : Ends base (fun _ => False)
          (fun t => t.history = conn.transport.history) (sendBatch batch net base) := by
        rw [← hBegins.transport] at hBuf hRefused ⊢
        exact sendBatch_refused base hBuf (messages_ne_nil hMessages)
          (hRefused batch hMessages)
      dsimp only
      rw [bind_apply]
      revert hEnd
      obtain ⟨outcome, conn'⟩ := sendBatch batch net base
      intro hEnd
      cases outcome with
      | ok value =>
          obtain ⟨t, _, hFalse⟩ := hEnd
          exact hFalse.elim
      | err e =>
          obtain ⟨t, rfl, ht⟩ := hEnd
          exact ⟨e, rfl, ht, hBegins.active⟩
      | pending => cases hEnd

/-- On a connection that accepts it, an operation fails cleanly exactly when it gets its
request through: the parameters can be encoded, so can the messages up to the first
flush of the buffer, and that flush succeeds. -/
theorem failsCleanly_iff (h : conn.Accepting) (request : Request) :
    FailsCleanly net conn request ↔
      ∃ batch, request.messages conn = .ok batch ∧ net.Accepts conn.transport.history batch := by
  obtain ⟨base, rest, hBegins⟩ := begins h request
  constructor
  · intro hClean
    by_contra hRefused
    simp only [not_exists, not_and] at hRefused
    obtain ⟨e, hErr, hHistory, hActive⟩ := hBegins.refused h.writeBuf hRefused
    exact hActive (hClean e hErr hHistory).idle
  · intro hAccepted e _ hHistory
    obtain ⟨batch, hMessages, hAccepts⟩ := hAccepted
    have hSent := hBegins.history_lt hMessages hAccepts h.writeBuf
    rw [hHistory] at hSent
    exact absurd hSent (Nat.lt_irrefl _)

theorem accepting_new : Connection.new.Accepting := ⟨rfl, rfl, rfl⟩

/-- A request that gets through. -/
theorem failsCleanly_batchExecute :
    FailsCleanly ReplyTable.oneRow.network .new (.batchExecute "SELECT 1") :=
  (failsCleanly_iff accepting_new _).mpr ⟨[.query "SELECT 1"], rfl, rfl, rfl⟩

/-- One parameter for a statement that takes none. -/
theorem not_failsCleanly_queryPrepared :
    Connection.new.Accepting ∧
      ¬ FailsCleanly ReplyTable.oneRow.network .new
        (.queryPrepared { name := "s", sql := "SELECT 1", paramTypes := [], columns := [] }
          [{ toSql := fun _ _ => .ok none }]) := by
  refine ⟨accepting_new, fun hClean => ?_⟩
  have hIdle := (hClean _ rfl rfl).idle
  cases hIdle

end Request
end PgClient
