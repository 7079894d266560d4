import PgClient.Pairing.Copies
import PgClient.Pairing.Cursors
import PgClient.Query.StatementServer
import PgClient.Session

/-!
What is posted by what: the messages that a call writes, whether or not they have reached the
server when it returns. No call but the closing of a statement posts a message by which a
server may lose one.
-/

namespace PgClient

open Connection Async

namespace Connection

/-- What has been posted since is all of one kind. -/
def Says (P : FrontendMessage → Prop) (base : List FrontendMessage) (conn : Connection) : Prop :=
  ∃ later, conn.transport.posted = later ++ base ∧ ∀ message ∈ later, P message

/-- What a computation posts is all of one kind. -/
abbrev ClientSays {α : Type} (net : Network) (P : FrontendMessage → Prop)
    (base : List FrontendMessage) (x : Client α) : Prop :=
  Keeps net (Says P base) x

/-- The same of one that owns a local variable. -/
abbrev OwnerSays {L α : Type} (net : Network) (P : FrontendMessage → Prop)
    (base : List FrontendMessage) (x : Owner L α) : Prop :=
  Keeps net (fun s => Says P base s.2) x

variable {P : FrontendMessage → Prop} {base : List FrontendMessage} {net : Network}
  {conn conn' : Connection} {L α β : Type}

theorem says_self (conn : Connection) : Says P conn.transport.posted conn :=
  ⟨[], rfl, by simp⟩

theorem Says.same (h : Says P base conn)
    (hSame : conn'.transport.posted = conn.transport.posted) : Says P base conn' := by
  rw [Says, hSame]
  exact h

theorem Says.post (h : Says P base conn) {message : FrontendMessage} (hP : P message)
    (hPosted : conn'.transport.posted = message :: conn.transport.posted) :
    Says P base conn' := by
  obtain ⟨later, hLater, hAll⟩ := h
  exact ⟨message :: later, by rw [hPosted, hLater, List.cons_append],
    List.forall_mem_cons.mpr ⟨hP, hAll⟩⟩

section Parts

theorem says_modify {f : Connection → Connection}
    (h : ∀ conn, (f conn).transport.posted = conn.transport.posted) :
    ClientSays net P base (Async.modify f) :=
  keeps_modify fun conn hSays => hSays.same (h conn)

theorem says_setState (state : ConnectionState) :
    ClientSays net P base (Async.modify fun conn => conn.setState state) :=
  says_modify fun _ => rfl

theorem says_ownerModify {f : L × Connection → L × Connection}
    (h : ∀ s, (f s).2.transport.posted = s.2.transport.posted) :
    OwnerSays net P base (Async.modify f) :=
  keeps_modify fun s hSays => hSays.same (h s)

theorem says_onSnd {x : Client α} (hx : ClientSays net P base x) :
    OwnerSays net P base (onSnd x : Owner L α) :=
  keeps_onSnd fun _ => hx

theorem says_withExtra {M : Type} {m : M} {x : Owner (L × M) α} (hx : OwnerSays net P base x) :
    OwnerSays net P base (withExtra m x : Owner L (α × M)) :=
  fun s h => hx ((s.1, m), s.2) h

theorem says_transition (state : ConnectionState) : ClientSays net P base (transition state) := by
  intro conn h
  simp only [transition]
  split
  · exact h.same rfl
  · exact h

theorem says_encodeAndWrite {message : FrontendMessage} (hP : P message) :
    ClientSays net P base (encodeAndWrite message) := by
  intro conn h
  rw [encodeAndWrite_apply]
  cases net.encode message with
  | error e => exact h
  | ok bytes => exact h.post hP (posted_writeAll net conn _)

theorem says_flush : ClientSays net P base flush :=
  fun conn h => h.same (posted_flush net conn)

theorem says_send {message : FrontendMessage} (hP : P message) :
    ClientSays net P base (send message) :=
  keeps_bind (says_encodeAndWrite hP) fun _ => says_flush

theorem says_sendBatch {messages : List FrontendMessage} (hP : ∀ message ∈ messages, P message) :
    ClientSays net P base (sendBatch messages) := by
  refine keeps_bind ?_ fun _ => says_flush
  induction messages with
  | nil => exact keeps_pure ()
  | cons message messages ih =>
      obtain ⟨hFirst, hOthers⟩ := List.forall_mem_cons.mp hP
      exact keeps_bind (says_encodeAndWrite hFirst) fun _ => ih hOthers

/-- Reading posts nothing. -/
theorem says_loop {progress : β → Progress} {final : ConnectionState → ConnectionState}
    {body : L × Connection → BackendMessage → Drive.Step (L × Connection) (Except PgError β)}
    (h : Orderly progress final body) : OwnerSays net P base (messageLoop body) := by
  apply keeps_orderly (Says P base) h
  · exact fun _ _ hSame hSays => hSays.same (by rw [hSame.transport])
  · exact fun _ _ _ hEnded hSays => hSays.same (by rw [hEnded.transport])
  · exact fun _ _ hSays => hSays.same rfl

theorem says_readUntilReady : ClientSays net P base readUntilReady :=
  keeps_withLocal (says_loop orderly_readUntilReady)

theorem says_drainServerError (body : ErrorBody) :
    ClientSays net P base (drainServerError body) := by
  refine keeps_bind (keeps_lift _) fun _ => keeps_bind says_readUntilReady fun _ => ?_
  exact keeps_bind (says_setState _) fun _ => keeps_pure _

theorem says_drainServerErrorOnly (body : ErrorBody) :
    ClientSays net P base (drainServerErrorOnly body) := by
  refine keeps_bind (keeps_lift _) fun _ => ?_
  exact keeps_bind says_readUntilReady fun _ => keeps_pure _

end Parts

section Queries

variable (hUsual : ∀ message : FrontendMessage, message.sparesStatements → P message)

theorem says_recover : ClientSays net P base recover := by
  refine keeps_bind keeps_get fun _ => keeps_doIf _ ?_
  exact keeps_bind says_readUntilReady fun _ => says_modify fun _ => rfl

theorem says_next : OwnerSays net P base RowStream.next := by
  refine keeps_bind keeps_get fun (stream, _) => keeps_ite (keeps_pure none) ?_
  refine keeps_bind (says_loop orderly_next) fun event => ?_
  cases event with
  | row row => exact keeps_pure _
  | finished => exact keeps_pure _
  | serverError body =>
      refine keeps_bind (says_onSnd (says_drainServerError body)) fun _ => ?_
      exact keeps_bind (says_ownerModify fun _ => rfl) fun _ => keeps_fail _

theorem says_drain : OwnerSays net P base RowStream.drain := by
  have hLoop : ∀ fuel rows, OwnerSays net P base (RowStream.drainLoop fuel rows) := by
    intro fuel
    induction fuel with
    | zero => exact fun _ => keeps_wait
    | succ fuel ih =>
        intro rows
        refine keeps_bind says_next fun row => ?_
        cases row with
        | some row => exact ih _
        | none => exact keeps_pure _
  exact fun s h => hLoop _ _ s h

theorem says_consume : OwnerSays net P base RowStream.consume := by
  refine keeps_bind says_drain fun _ => keeps_bind keeps_get fun (stream, _) => ?_
  dsimp only
  cases stream.state <;> exact keeps_pure _

theorem says_scope {stream : RowStream} {body : Owner RowStream α}
    (hBody : OwnerSays net P base body) : ClientSays net P base (stream.scope body) := by
  intro conn h
  refine (hBody (stream, conn) h).same ?_
  simp only [RowStream.scope, RowStream.drop]
  split <;> rfl

theorem says_collect (stream : RowStream) : ClientSays net P base (collect stream) :=
  says_scope (keeps_bind says_drain fun _ => keeps_bind keeps_get fun _ => keeps_pure _)

theorem says_eachLoop (f : List Row → Row → Except PgError Unit) (fuel : Nat) (seen : List Row) :
    OwnerSays net P base (eachLoop f fuel seen) := by
  induction fuel generalizing seen with
  | zero => exact keeps_wait
  | succ fuel ih =>
      refine keeps_bind says_next fun row => ?_
      cases row with
      | some row => exact keeps_bind (keeps_lift _) fun _ => ih _
      | none => exact keeps_pure _

theorem says_readThenIdle : ClientSays net P base readThenIdle := by
  have hRead : ClientSays net P base readExtendedQueryResult := by
    refine keeps_withLocal (keeps_bind (says_loop orderly_extended) fun ending => ?_)
    cases ending with
    | ready => exact keeps_bind keeps_get fun _ => keeps_pure _
    | serverError body => exact keeps_failServer (says_drainServerErrorOnly body)
  refine keeps_bind (keeps_attempt hRead) fun _ => ?_
  exact keeps_bind (says_setState _) fun _ => keeps_lift _

/-- The loop that waits for the end of a reply, and what is done then. -/
theorem says_readComplete {k : ReplyEnd → Client α} (hReady : ClientSays net P base (k .ready))
    (hError : ∀ body, ClientSays net P base (k (.serverError body))) :
    ClientSays net P base (withLocal () (messageLoop completeBody) >>= k) := by
  refine keeps_bind (keeps_withLocal (says_loop orderly_complete)) fun ending => ?_
  cases ending with
  | ready => exact hReady
  | serverError body => exact hError body

include hUsual

theorem says_queryStream (sql : String) : ClientSays net P base (queryStream sql) := by
  refine keeps_bind says_recover fun _ => keeps_bind (says_transition .streaming) fun _ => ?_
  exact keeps_bind (says_send (hUsual _ rfl)) fun _ => keeps_pure _

theorem says_query (sql : String) : ClientSays net P base (query sql) :=
  keeps_bind (says_queryStream hUsual sql) says_collect

theorem says_execute (sql : String) : ClientSays net P base (execute sql) :=
  keeps_bind (says_query hUsual sql) fun _ => keeps_pure _

theorem says_queryEach (sql : String) (f : List Row → Row → Except PgError Unit) :
    ClientSays net P base (queryEach sql f) := by
  refine keeps_bind (says_queryStream hUsual sql) fun stream => says_scope ?_
  refine keeps_bind keeps_get fun _ => keeps_bind (says_eachLoop f _ []) fun _ => ?_
  refine keeps_bind keeps_get fun (stream, _) => ?_
  dsimp only
  cases stream.commandTag with
  | some tag => exact keeps_pure _
  | none => exact keeps_fail _

theorem says_batchExecute (sql : String) : ClientSays net P base (batchExecute sql) := by
  refine keeps_bind (says_transition _) fun _ => keeps_bind (says_send (hUsual _ rfl)) fun _ => ?_
  refine keeps_withLocal (keeps_bind (says_loop orderly_batch) fun ending => ?_)
  cases ending with
  | ready => exact keeps_bind keeps_get fun _ => keeps_pure _
  | serverError body => exact keeps_failServer (says_drainServerError body)

/-- A request of the extended protocol, however its reply is then read. -/
theorem says_request {state : ConnectionState} {values : Except PgError (List (Option Bytes))}
    {batch : List (Option Bytes) → List FrontendMessage} {k : Client α}
    (hBatch : ∀ values, ∀ message ∈ batch values, message.sparesStatements)
    (hk : ClientSays net P base k) :
    ClientSays net P base (do
      transition state
      let values ← .lift values
      sendBatch (batch values)
      k) := by
  refine keeps_bind (says_transition _) fun _ => keeps_bind (keeps_lift _) fun values => ?_
  refine keeps_bind (says_sendBatch ?_) fun _ => hk
  exact fun message hMem => hUsual message (hBatch values message hMem)

omit hUsual in
theorem spares_unnamedBatch (sql : String) (values : List (Option Bytes)) :
    ∀ message ∈ unnamedBatch sql values ++ [.sync], message.sparesStatements := by
  simp [unnamedBatch, FrontendMessage.sparesStatements]

omit hUsual in
theorem spares_preparedBatch (stmt : PreparedStatement) (values : List (Option Bytes)) :
    ∀ message ∈ preparedBatch stmt values ++ [.sync], message.sparesStatements := by
  simp [preparedBatch, FrontendMessage.sparesStatements]

theorem says_queryParams (sql : String) (params : List ToSql) :
    ClientSays net P base (queryParams sql params) :=
  says_request hUsual (spares_unnamedBatch sql) says_readThenIdle

theorem says_queryPrepared (stmt : PreparedStatement) (params : List ToSql) :
    ClientSays net P base (queryPrepared stmt params) :=
  says_request hUsual (spares_preparedBatch stmt) says_readThenIdle

theorem says_queryParamsStream (sql : String) (params : List ToSql) :
    ClientSays net P base (queryParamsStream sql params) := by
  refine keeps_bind says_recover fun _ => says_request hUsual (spares_unnamedBatch sql) ?_
  refine keeps_bind (keeps_withLocal (says_loop orderly_preamble)) fun preamble => ?_
  cases preamble with
  | columns columns => exact keeps_pure _
  | serverError body => exact keeps_bind (says_drainServerError body) fun _ => keeps_fail _

theorem says_queryPreparedStream (stmt : PreparedStatement) (params : List ToSql) :
    ClientSays net P base (queryPreparedStream stmt params) :=
  keeps_bind says_recover fun _ =>
    says_request hUsual (spares_preparedBatch stmt) (keeps_pure _)

theorem says_prepare (sql : String) : ClientSays net P base (prepare sql) := by
  refine keeps_bind (says_transition _) fun _ => ?_
  refine keeps_bind ?_ fun name => ?_
  · exact keeps_bind (says_modify fun _ => rfl) fun _ => keeps_bind keeps_get fun _ => keeps_pure _
  refine keeps_bind (says_sendBatch ?_) fun _ => keeps_bind keeps_env fun _ => ?_
  · exact fun message hMem => hUsual message (by
      revert message
      simp [FrontendMessage.sparesStatements])
  refine keeps_withLocal (keeps_bind (says_loop (orderly_prepare _)) fun ending => ?_)
  cases ending with
  | ready => exact keeps_bind keeps_get fun _ => keeps_pure _
  | serverError body => exact keeps_failServer (says_drainServerErrorOnly body)

omit hUsual in
theorem says_closeStatement (stmt : PreparedStatement)
    (hUsual : ∀ message : FrontendMessage, message = .close .statement stmt.name ∨
      message.sparesStatements → P message) :
    ClientSays net P base (closeStatement stmt) := by
  refine keeps_bind (says_transition _) fun _ => keeps_bind (says_sendBatch ?_) fun _ => ?_
  · exact fun message hMem => hUsual message (by
      revert message
      simp [FrontendMessage.sparesStatements])
  refine says_readComplete (keeps_pure ()) fun body => ?_
  exact keeps_bind (says_drainServerErrorOnly body) fun _ => keeps_fail _

theorem says_pipeline (pipeline : Pipeline) : ClientSays net P base pipeline.finish := by
  refine keeps_bind (says_transition _) fun _ => keeps_bind (says_sendBatch ?_) fun _ => ?_
  · intro message hMem
    apply hUsual
    obtain hMem | hMem := List.mem_append.mp hMem
    · obtain ⟨op, -, hMem⟩ := List.mem_flatMap.mp hMem
      cases op <;> exact spares_unnamedBatch _ _ message (List.mem_append_left _ hMem)
    · rw [List.mem_singleton.mp hMem]
      rfl
  refine keeps_withLocal (keeps_bind (says_loop orderly_pipeline) fun ending => ?_)
  cases ending with
  | ready => exact keeps_bind keeps_get fun _ => keeps_pure _
  | serverError body => exact keeps_failServer (says_drainServerError body)

end Queries

section Cursors

variable (hUsual : ∀ message : FrontendMessage, message.sparesStatements → P message)

theorem says_popRow : OwnerSays net P base CursorStream.popRow := by
  refine keeps_bind keeps_get fun (stream, _) => ?_
  dsimp only
  cases stream.bufferedRows with
  | nil => exact keeps_pure _
  | cons row rows =>
      exact keeps_bind (says_ownerModify fun _ => rfl) fun _ => keeps_pure _

include hUsual

omit hUsual in
theorem spares_openBatch (sql portalName : String) (values : List (Option Bytes)) :
    ∀ message ∈ openBatch sql portalName values ++ [.sync], message.sparesStatements := by
  simp [openBatch, FrontendMessage.sparesStatements]

theorem says_queryCursor (sql : String) (params : List ToSql) (fetchSize : Int32) :
    ClientSays net P base (queryCursor sql params fetchSize) := by
  refine keeps_bind keeps_get fun conn => ?_
  refine keeps_bind (keeps_doIf _ ?_) fun _ => keeps_bind (says_transition _) fun _ => ?_
  · exact keeps_bind (says_query hUsual _) fun _ => keeps_pure _
  refine keeps_bind (keeps_lift _) fun values => keeps_bind keeps_get fun conn => ?_
  refine keeps_bind (says_modify fun _ => rfl) fun _ => keeps_bind (says_sendBatch ?_) fun _ => ?_
  · exact fun message hMem => hUsual message (spares_openBatch _ _ values message hMem)
  refine keeps_withLocal (keeps_bind (says_loop orderly_cursorOpen) fun ending => ?_)
  cases ending with
  | ready => exact keeps_bind keeps_get fun _ => keeps_pure _
  | serverError body => exact keeps_failServer (says_drainServerError body)

theorem says_closePortal (portalName : String) (ownsTransaction : Bool) :
    ClientSays net P base (closePortal portalName ownsTransaction) := by
  refine keeps_bind (says_transition _) fun _ => keeps_bind (says_sendBatch ?_) fun _ => ?_
  · exact fun message hMem => hUsual message (by
      revert message
      simp [FrontendMessage.sparesStatements])
  refine says_readComplete (keeps_doIf _ ?_) fun body => ?_
  · exact keeps_bind (says_execute hUsual _) fun _ => keeps_pure _
  · exact keeps_bind (says_drainServerError body) fun _ => keeps_fail _

/-- The messages of a round trip of a cursor. -/
theorem says_executeBatch (portalName : String) (fetchSize : Int32) :
    ClientSays net P base (sendBatch [.execute portalName fetchSize, .sync]) :=
  says_sendBatch fun message hMem => hUsual message (by
    revert message
    simp [FrontendMessage.sparesStatements])

theorem says_fetchNext : OwnerSays net P base Cursor.fetchNext := by
  refine keeps_bind keeps_get fun (cursor, _) => keeps_ite (keeps_pure []) ?_
  refine keeps_bind (says_onSnd (says_transition _)) fun _ => ?_
  refine keeps_bind (says_onSnd (says_executeBatch hUsual _ _)) fun _ => ?_
  refine keeps_bind (says_withExtra (says_loop orderly_fetch)) fun (ending, rows) => ?_
  cases ending with
  | ready => exact keeps_pure _
  | serverError body => exact keeps_failServer (says_drainServerError body)

theorem says_fetchBatch : OwnerSays net P base CursorStream.fetchBatch := by
  refine keeps_bind keeps_get fun (stream, _) => ?_
  refine keeps_bind (says_onSnd (says_transition _)) fun _ => ?_
  refine keeps_bind (says_onSnd (says_executeBatch hUsual _ _)) fun _ => ?_
  refine keeps_bind (says_withExtra (says_loop orderly_cursorBatch)) fun (ending, batch) => ?_
  cases ending with
  | ready => exact keeps_pure _
  | serverError body =>
      refine keeps_bind (says_onSnd (says_drainServerError body)) fun _ => ?_
      exact keeps_bind (says_ownerModify fun _ => rfl) fun _ => keeps_fail _

theorem says_cursorNext (fuel : Nat) : OwnerSays net P base (CursorStream.next fuel) := by
  induction fuel with
  | zero => exact keeps_wait
  | succ fuel ih =>
      refine keeps_bind says_popRow fun row => ?_
      cases row with
      | some row => exact keeps_pure _
      | none =>
          refine keeps_bind keeps_get fun (stream, _) => keeps_ite (keeps_pure none) ?_
          refine keeps_bind (says_fetchBatch hUsual) fun batch => ?_
          refine keeps_bind (says_ownerModify fun _ => rfl) fun _ => ?_
          refine keeps_bind keeps_get fun (stream, _) => keeps_ite ih ?_
          exact keeps_bind (says_ownerModify fun _ => rfl) fun _ => says_popRow

theorem says_cursorConsume (fuel : Nat) : OwnerSays net P base (CursorStream.consume fuel) := by
  have hDrain : ∀ rows, OwnerSays net P base (CursorStream.drainLoop fuel rows) := by
    intro rows
    induction rows with
    | zero => exact keeps_wait
    | succ rows ih =>
        refine keeps_bind (says_cursorNext hUsual fuel) fun row => ?_
        cases row with
        | some row => exact ih
        | none => exact keeps_pure ()
  have hClose : OwnerSays net P base CursorStream.closePortal := by
    refine keeps_bind keeps_get fun (stream, _) => ?_
    have hPortal : OwnerSays net P base (onSnd (closePortal stream.portalName
        stream.ownsTransaction) >>= fun _ => Async.modify fun s : CursorStream × Connection =>
          ({ s.1 with state := .done {} }, s.2)) :=
      keeps_bind (says_onSnd (says_closePortal hUsual _ _)) fun _ => says_ownerModify fun _ => rfl
    dsimp only
    cases stream.state with
    | done tag =>
        exact keeps_doIf _ (keeps_bind (says_onSnd (says_execute hUsual _)) fun _ => keeps_pure ())
    | active => exact hPortal
    | error => exact hPortal
  refine keeps_bind (hDrain fuel) fun _ => keeps_bind hClose fun _ => ?_
  refine keeps_bind keeps_get fun (stream, _) => ?_
  dsimp only
  cases stream.state <;> exact keeps_pure _

end Cursors

section Copies

variable (hUsual : ∀ message : FrontendMessage, message.sparesStatements → P message)

theorem says_readNext : OwnerSays net P base CopyOut.readNext := by
  refine keeps_bind (says_loop orderly_copyRead) fun event => ?_
  cases event with
  | chunk data => exact keeps_pure _
  | finished => exact keeps_pure _
  | serverError body =>
      refine keeps_bind (says_onSnd (says_drainServerError body)) fun _ => ?_
      exact keeps_bind (says_ownerModify fun _ => rfl) fun _ => keeps_fail _

include hUsual

theorem says_copyStart {response : BackendMessage → Option CopyResponseBody}
    (hResponse : ∀ message body, response message = some body →
      message = .copyInResponse body ∨ message = .copyOutResponse body)
    (state : ConnectionState) (violation sql : String) :
    ClientSays net P base (copyStart state response violation sql) := by
  refine keeps_bind (says_transition _) fun _ => keeps_bind (says_send (hUsual _ rfl)) fun _ => ?_
  refine keeps_bind (keeps_withLocal (says_loop (orderly_copyStart hResponse))) fun start => ?_
  cases start with
  | response format columnFormats => exact keeps_pure _
  | serverError body => exact keeps_bind (says_drainServerError body) fun _ => keeps_fail _
  | unexpected =>
      refine keeps_bind says_readUntilReady fun _ => ?_
      exact keeps_bind (says_setState _) fun _ => keeps_fail _

theorem says_copyIn (sql : String) : ClientSays net P base (copyIn sql) :=
  keeps_bind (says_copyStart hUsual copyInResponse_eq _ _ sql) fun _ => keeps_pure _

theorem says_copyOut (sql : String) : ClientSays net P base (copyOut sql) :=
  keeps_bind (says_copyStart hUsual copyOutResponse_eq _ _ sql) fun _ => keeps_pure _

theorem says_copyWrite (data : Bytes) : OwnerSays net P base (CopyIn.write data) :=
  says_onSnd (says_send (hUsual _ rfl))

theorem says_copyFinish : OwnerSays net P base CopyIn.finish := by
  have hLoop : ClientSays net P base CopyIn.finishLoop :=
    keeps_withLocal (keeps_bind (says_loop orderly_finish) fun _ =>
      keeps_bind keeps_get fun _ => keeps_pure _)
  refine keeps_bind (says_onSnd (says_send (hUsual _ rfl))) fun _ => ?_
  refine keeps_bind (says_onSnd hLoop) fun (ending, rows) => ?_
  cases ending with
  | ready => exact keeps_bind (says_ownerModify fun _ => rfl) fun _ => keeps_pure _
  | serverError body =>
      refine keeps_bind (says_onSnd (says_drainServerError body)) fun _ => ?_
      exact keeps_bind (says_ownerModify fun _ => rfl) fun _ => keeps_fail _

theorem says_copyCancel (reason : String) : OwnerSays net P base (CopyIn.cancel reason) := by
  refine keeps_bind (says_onSnd (says_send (hUsual _ rfl))) fun _ => ?_
  refine keeps_bind (says_onSnd says_readUntilReady) fun _ => ?_
  exact keeps_bind (says_ownerModify fun _ => rfl) fun _ => says_ownerModify fun _ => rfl

end Copies

section Calls

variable (hUsual : ∀ message : FrontendMessage, message.sparesStatements → P message)

/-- A drop posts nothing. -/
theorem posted_drop (net : Network) (handle : Handle) (conn : Connection) :
    (handle.drop net conn).transport.posted = conn.transport.posted := by
  cases handle with
  | none | cursor cursor => rfl
  | rowStream stream => rw [Handle.drop, RowStream.drop_eq]
  | cursorStream stream => rw [Handle.drop, CursorStream.drop_eq]
  | copyIn copy =>
      rw [Handle.drop, CopyIn.drop_eq]
      split <;> rfl
  | copyOut copy =>
      rw [Handle.drop, CopyOut.drop_eq]
      split <;> rfl

theorem says_afterCall {wrap : L → Handle} {ended : α → Bool} {x : Owner L α}
    (hx : OwnerSays net P base x) {l : L} (h : Says P base conn) {outcome : Outcome PgError Unit}
    {s' : Session} (hCall : Session.afterCall net wrap ended (x net (l, conn)) = (outcome, s')) :
    Says P base s'.conn := by
  have hSays := hx (l, conn) h
  revert hSays hCall
  rcases x net (l, conn) with ⟨_ | _ | _, l', conn'⟩
  · intro hCall hSays
    cases hCall
    split
    · exact hSays.same (posted_drop net _ _)
    · exact hSays
  · intro hCall hSays
    cases hCall
    exact hSays.same (posted_drop net _ _)
  · intro hCall hSays
    cases hCall
    exact hSays

include hUsual

theorem says_operation {op : Operation} (hOp : ∀ stmt, op ≠ .closeStatement stmt) :
    ClientSays net P base op.run := by
  cases op with
  | query sql => exact keeps_bind (says_query hUsual sql) fun _ => keeps_pure _
  | execute sql => exact keeps_bind (says_execute hUsual sql) fun _ => keeps_pure _
  | queryOne sql =>
      have hQuery : ClientSays net P base (queryOne sql) :=
        keeps_bind (says_query hUsual sql) fun _ => keeps_pure _
      exact keeps_bind hQuery fun _ => keeps_pure _
  | queryEach sql callback => exact keeps_bind (says_queryEach hUsual sql _) fun _ => keeps_pure _
  | batchExecute sql => exact keeps_bind (says_batchExecute hUsual sql) fun _ => keeps_pure _
  | queryParams sql params =>
      exact keeps_bind (says_queryParams hUsual sql params) fun _ => keeps_pure _
  | executeParams sql params =>
      have hExecute : ClientSays net P base (executeParams sql params) :=
        keeps_bind (says_queryParams hUsual sql params) fun _ => keeps_pure _
      exact keeps_bind hExecute fun _ => keeps_pure _
  | queryPrepared stmt params =>
      exact keeps_bind (says_queryPrepared hUsual stmt params) fun _ => keeps_pure _
  | executePrepared stmt params =>
      have hExecute : ClientSays net P base (executePrepared stmt params) :=
        keeps_bind (says_queryPrepared hUsual stmt params) fun _ => keeps_pure _
      exact keeps_bind hExecute fun _ => keeps_pure _
  | prepare sql => exact keeps_bind (says_prepare hUsual sql) fun _ => keeps_pure _
  | closeStatement stmt => exact absurd rfl (hOp stmt)
  | pipeline queued => exact keeps_bind (says_pipeline hUsual queued) fun _ => keeps_pure _
  | ping => exact keeps_bind (says_query hUsual _) fun _ => keeps_pure _
  | recover => exact says_recover

theorem says_opening (opening : Opening) : ClientSays net P base opening.run := by
  cases opening with
  | queryStream sql => exact keeps_bind (says_queryStream hUsual sql) fun _ => keeps_pure _
  | queryParamsStream sql params =>
      exact keeps_bind (says_queryParamsStream hUsual sql params) fun _ => keeps_pure _
  | queryPreparedStream stmt params =>
      exact keeps_bind (says_queryPreparedStream hUsual stmt params) fun _ => keeps_pure _
  | queryCursor sql params fetchSize =>
      exact keeps_bind (says_queryCursor hUsual sql params fetchSize) fun _ => keeps_pure _
  | queryCursorStream sql params fetchSize =>
      have hCursor : ClientSays net P base (queryCursorStream sql params fetchSize) :=
        keeps_bind (says_queryCursor hUsual sql params fetchSize) fun _ => keeps_pure _
      exact keeps_bind hCursor fun _ => keeps_pure _
  | copyIn sql => exact keeps_bind (says_copyIn hUsual sql) fun _ => keeps_pure _
  | copyOut sql => exact keeps_bind (says_copyOut hUsual sql) fun _ => keeps_pure _

theorem says_onHandle {call : HandleCall} {handle : Handle} (h : Says P base conn)
    {outcome : Outcome PgError Unit} {s' : Session}
    (hStep : Session.onHandle net conn call handle = some (outcome, s')) :
    Says P base s'.conn := by
  cases call with
  | release =>
      have hDrop := h.same (posted_drop net handle conn)
      cases handle <;> cases hStep <;> exact hDrop
  | next =>
      cases handle with
      | rowStream stream => exact says_afterCall says_next h (Option.some.inj hStep)
      | _ => cases hStep
  | consume =>
      cases handle with
      | rowStream stream => exact says_afterCall says_consume h (Option.some.inj hStep)
      | _ => cases hStep
  | fetch =>
      cases handle with
      | cursor cursor =>
          cases hStep
          exact says_fetchNext hUsual (cursor, conn) h
      | _ => cases hStep
  | close =>
      cases handle with
      | cursor cursor =>
          cases hStep
          exact says_closePortal hUsual _ _ conn h
      | _ => cases hStep
  | cursorNext fuel =>
      cases handle with
      | cursorStream stream =>
          exact says_afterCall (says_cursorNext hUsual fuel) h (Option.some.inj hStep)
      | _ => cases hStep
  | cursorConsume fuel =>
      cases handle with
      | cursorStream stream =>
          exact says_afterCall (says_cursorConsume hUsual fuel) h (Option.some.inj hStep)
      | _ => cases hStep
  | copyWrite data =>
      cases handle with
      | copyIn copy =>
          cases hStep
          exact says_copyWrite hUsual data (copy, conn) h
      | _ => cases hStep
  | copyFinish =>
      cases handle with
      | copyIn copy => exact says_afterCall (says_copyFinish hUsual) h (Option.some.inj hStep)
      | _ => cases hStep
  | copyCancel reason =>
      cases handle with
      | copyIn copy =>
          exact says_afterCall (says_copyCancel hUsual reason) h (Option.some.inj hStep)
      | _ => cases hStep
  | copyRead =>
      cases handle with
      | copyOut copy => exact says_afterCall says_readNext h (Option.some.inj hStep)
      | _ => cases hStep

/-- Every call but the closing of a statement. -/
theorem says_step {s s' : Session} {call : Call} {outcome : Outcome PgError Unit}
    (hCall : ∀ stmt, call ≠ .operation (.closeStatement stmt)) (h : Says P base s.conn)
    (hStep : s.step net call = some (outcome, s')) : Says P base s'.conn := by
  obtain ⟨handle, conn⟩ := s
  cases call with
  | operation op =>
      cases handle with
      | none =>
          cases hStep
          have hOp : ∀ stmt, op ≠ .closeStatement stmt := by
            rintro stmt rfl
            exact hCall stmt rfl
          exact says_operation hUsual hOp conn h
      | _ => cases hStep
  | opening opening =>
      cases handle with
      | none =>
          have hSays := @says_opening P base net hUsual opening conn h
          simp only [Session.step] at hStep
          revert hSays hStep
          rcases opening.run net conn with ⟨_ | _ | _, conn'⟩
          all_goals
            intro hStep hSays
            cases hStep
            exact hSays
      | _ => cases hStep
  | handle call => exact says_onHandle hUsual h hStep

end Calls

end Connection
end PgClient
