import PgClient.Effects.Ordinary
import PgClient.Session
import PgClient.Transaction.Guard

/-!
Every operation is made of ordinary parts, so that it has what these have.
-/

namespace PgClient

open Drive Async Connection

namespace RowStream

variable {net : Network} {s s' : RowStream × Connection} {row : Row}

/-- A row that is returned has been read. -/
theorem inbox_lt_of_next (hNext : next net s = (.ok (some row), s')) :
    s'.2.transport.inbox.length < s.2.transport.inbox.length := by
  obtain ⟨stream, conn⟩ := s
  simp only [next, bind_apply, get_apply, andThen_ok] at hNext
  split at hNext
  · cases hNext
  simp only [bind_apply, messageLoop] at hNext
  cases hDrive : drive (readStep nextBody) (stream, conn) conn.transport.inbox with
  | waiting s₁ =>
      rw [hDrive] at hNext
      cases hEnding : conn.transport.ending with
      | none => simp [hEnding] at hNext
      | some e => simp [hEnding] at hNext
  | done result s₁ rest =>
      obtain ⟨taken, entry, s₂, hInbox, -, -⟩ := drive_done_split _ hDrive
      rw [hDrive] at hNext
      have hLess : rest.length < conn.transport.inbox.length := by
        rw [hInbox]
        simp
        omega
      cases result with
      | error e => simp at hNext
      | ok event =>
          cases event with
          | row row =>
              cases hNext
              exact hLess
          | finished => cases hNext
          | serverError body =>
              simp only [Outcome.ofExcept_ok, andThen_ok, bind_apply] at hNext
              revert hNext
              generalize Async.onSnd (drainServerError body) net
                (s₁.1, s₁.2.setInbox rest) = drained
              obtain ⟨outcome, s₃⟩ := drained
              cases outcome <;> intro hNext <;> cases hNext

/-- Rounds beyond those that there are messages for change nothing. -/
theorem drainLoop_fuel (fuel more : Nat) (rows : List Row)
    (hFuel : s.2.transport.inbox.length < fuel) (hMore : fuel ≤ more) :
    drainLoop fuel rows net s = drainLoop more rows net s := by
  induction fuel generalizing more rows s with
  | zero => omega
  | succ fuel ih =>
      obtain ⟨more, rfl⟩ : ∃ n, more = n + 1 := ⟨more - 1, by omega⟩
      rw [drainLoop, drainLoop, bind_apply, bind_apply]
      cases hNext : next net s with
      | mk outcome s' =>
          cases outcome with
          | ok row =>
              cases row with
              | some row => exact ih more _ (by have := inbox_lt_of_next hNext; omega) (by omega)
              | none => rfl
          | err e => rfl
          | pending => rfl

theorem eachLoop_fuel (f : List Row → Row → Except PgError Unit) (fuel more : Nat)
    (seen : List Row) (hFuel : s.2.transport.inbox.length < fuel) (hMore : fuel ≤ more) :
    eachLoop f fuel seen net s = eachLoop f more seen net s := by
  induction fuel generalizing more seen s with
  | zero => omega
  | succ fuel ih =>
      obtain ⟨more, rfl⟩ : ∃ n, more = n + 1 := ⟨more - 1, by omega⟩
      rw [eachLoop, eachLoop, bind_apply, bind_apply]
      cases hNext : next net s with
      | mk outcome s' =>
          cases outcome with
          | ok row =>
              cases row with
              | some row =>
                  rw [andThen_ok, andThen_ok]
                  dsimp only
                  rw [bind_apply, bind_apply]
                  cases f seen row with
                  | ok value =>
                      exact ih more _ (by have := inbox_lt_of_next hNext; omega) (by omega)
                  | error e => rfl
              | none => rfl
          | err e => rfl
          | pending => rfl

end RowStream

/-- The operation that draws the name of a statement. -/
def Operation.namesStatement : Operation → Bool
  | .prepare _ => true
  | _ => false

/-- The openings that draw the name of a portal. -/
def Opening.namesPortal : Opening → Bool
  | .queryCursor _ _ _ | .queryCursorStream _ _ _ => true
  | _ => false

namespace Connection

section Parts

variable {client : ∀ {α : Type}, Client α → Prop} {owner : ∀ {L α : Type}, Owner L α → Prop}
  {L α β : Type}

theorem Parts.map (h : Parts client owner) (f : α → β) {x : Client α} (hx : client x) :
    client (x >>= fun a => Pure.pure (f a)) :=
  h.bind hx fun a => h.pure (f a)

theorem Parts.doIf (h : Parts client owner) {c : Prop} [Decidable c] {x : Client Unit}
    (hx : client x) : client (Async.doIf c x) := by
  by_cases hCond : c
  · rw [doIf_pos hCond]
    exact hx
  · rw [doIf_neg hCond]
    exact h.pure ()

theorem Parts.lift (h : Parts client owner) (result : Except PgError α) :
    client (Async.lift result) := by
  cases result with
  | ok a => exact h.pure a
  | error e => exact h.fail e

theorem Parts.withLocal (h : Parts client owner) {l : L} {x : Owner L α} (hx : owner x) :
    client (Async.withLocal l x) :=
  @Parts.owned client owner h L α l (fun _ conn => conn) x (fun _ _ _ => rfl) (fun _ _ => rfl) hx

theorem Parts.ownerDoIf (h : Parts client owner) {c : Prop} [Decidable c] {x : Owner L Unit}
    (hx : owner x) : owner (Async.doIf c x) := by
  by_cases hCond : c
  · rw [doIf_pos hCond]
    exact hx
  · rw [doIf_neg hCond]
    exact h.ownerPure ()

theorem Parts.ownerLift (h : Parts client owner) (result : Except PgError α) :
    owner (Async.lift result : Owner L α) := by
  cases result with
  | ok a => exact h.ownerPure a
  | error e => exact h.ownerFail e

theorem Parts.setState (h : Parts client owner) (state : ConnectionState) :
    client (Async.modify fun conn => conn.setState state) :=
  h.modify (fun _ _ => rfl) fun _ => rfl

theorem Parts.sendBatch (h : Parts client owner) (messages : List FrontendMessage) :
    client (sendBatch messages) := by
  refine h.bind ?_ fun _ => h.flush
  induction messages with
  | nil => exact h.pure ()
  | cons message messages ih => exact h.bind (h.write message) fun _ => ih

theorem Parts.send (h : Parts client owner) (message : FrontendMessage) : client (send message) :=
  h.bind (h.write message) fun _ => h.flush

theorem transition_eq (state : ConnectionState) :
    transition state = Async.get >>= fun conn =>
      if conn.state.permits state then Async.modify fun conn => conn.setState state
      else Async.fail (.invalidState ("invalid state transition from " ++ conn.state.debug ++
        " to " ++ state.debug)) := by
  funext net conn
  simp only [transition, bind_apply, get_apply, andThen_ok]
  split <;> rfl

theorem Parts.transition (h : Parts client owner) (state : ConnectionState) :
    client (transition state) := by
  rw [transition_eq]
  refine h.get (fun _ _ => rfl) fun conn => ?_
  split
  · exact h.setState state
  · exact h.fail _

theorem Parts.readUntilReady (h : Parts client owner) : client readUntilReady :=
  h.withLocal (h.loop nameless_readUntilReady)

theorem Parts.drainServerError (h : Parts client owner) (body : ErrorBody) :
    client (drainServerError body) :=
  h.bind (h.lift _) fun _ => h.bind h.readUntilReady fun _ => h.map _ (h.setState .idle)

theorem Parts.drainServerErrorOnly (h : Parts client owner) (body : ErrorBody) :
    client (drainServerErrorOnly body) :=
  h.bind (h.lift _) fun _ => h.map _ h.readUntilReady

/-- What follows a loop that has left at an `ErrorResponse`. -/
theorem Parts.failServer (h : Parts client owner) {drain : Client PgServerError}
    (hDrain : client drain) :
    client (drain >>= fun serverErr => (Async.fail (.server serverErr) : Client α)) :=
  h.bind hDrain fun _ => h.fail _

theorem Parts.ownerFailServer (h : Parts client owner) {drain : Client PgServerError}
    (hDrain : client drain) :
    owner (Async.onSnd drain >>= fun serverErr =>
      (Async.fail (.server serverErr) : Owner L α)) :=
  h.ownerBind (h.onSnd hDrain) fun _ => h.ownerFail _

theorem Parts.ownerFailServerThen (h : Parts client owner) {drain : Client PgServerError}
    (hDrain : client drain) {f : L × Connection → L × Connection}
    (hLocal : ∀ l conn a, f (l, conn.overlay a) = ((f (l, conn)).1, (f (l, conn)).2.overlay a))
    (hCounter : ∀ s, (f s).2.statementCounter = s.2.statementCounter) :
    owner (Async.onSnd drain >>= fun serverErr => Async.modify f >>= fun _ =>
      (Async.fail (.server serverErr) : Owner L α)) :=
  h.ownerBind (h.onSnd hDrain) fun _ =>
    h.ownerBind (h.ownerModify hLocal hCounter) fun _ => h.ownerFail _

/-- A loop that reads to the end of a reply, and what is done then. -/
theorem Parts.readReply (h : Parts client owner)
    {body : L × Connection → BackendMessage → Step (L × Connection) (Except PgError ReplyEnd)}
    (hBody : Nameless body) {k : ReplyEnd → Owner L α} (hReady : owner (k .ready))
    (hError : ∀ errorBody, owner (k (.serverError errorBody))) :
    owner (messageLoop body >>= k) := by
  refine h.ownerBind (h.loop hBody) fun ending => ?_
  cases ending with
  | ready => exact hReady
  | serverError errorBody => exact hError errorBody

end Parts

section Queries

variable {client : ∀ {α : Type}, Client α → Prop} {owner : ∀ {L α : Type}, Owner L α → Prop}
  {α : Type}

theorem Parts.recover (h : Parts client owner) : client recover := by
  refine h.get (fun _ _ => rfl) fun conn => h.doIf ?_
  exact h.bind h.readUntilReady fun _ => h.modify (fun _ _ => rfl) fun _ => rfl

theorem Parts.queryStream (h : Parts client owner) (sql : String) : client (queryStream sql) :=
  h.bind h.recover fun _ => h.bind (h.transition .streaming) fun _ => h.map _ (h.send _)

theorem Parts.next (h : Parts client owner) : owner RowStream.next := by
  refine h.ownerGet (fun _ _ _ => rfl) fun (stream, _) => ?_
  dsimp only
  split
  · exact h.ownerPure none
  refine h.ownerBind (h.loop nameless_next) fun event => ?_
  cases event with
  | row row => exact h.ownerPure _
  | finished => exact h.ownerPure _
  | serverError body =>
      exact h.ownerFailServerThen (h.drainServerError body) (fun _ _ _ => rfl) fun _ => rfl

theorem Parts.drain (h : Parts client owner) : owner RowStream.drain := by
  refine h.fueled (x := fun fuel => RowStream.drainLoop fuel []) (fun fuel => ?_)
    fun net s fuel more => RowStream.drainLoop_fuel fuel more []
  generalize ([] : List Row) = rows
  induction fuel generalizing rows with
  | zero => exact h.ownerWait
  | succ fuel ih =>
      refine h.ownerBind h.next fun row => ?_
      cases row with
      | some row => exact ih _
      | none => exact h.ownerPure _

theorem Parts.consume (h : Parts client owner) : owner RowStream.consume := by
  refine h.ownerBind h.drain fun _ => h.ownerGet (fun _ _ _ => rfl) fun (stream, _) => ?_
  dsimp only
  cases stream.state <;> exact h.ownerPure _

theorem Parts.scope (h : Parts client owner) {stream : RowStream} {body : Owner RowStream α}
    (hBody : owner body) : client (stream.scope body) := by
  have hDrop : ∀ (stream : RowStream) (conn : Connection) a,
      stream.drop (conn.overlay a) = (stream.drop conn).overlay a := by
    intro stream conn a
    simp only [RowStream.drop]
    split <;> rfl
  refine h.owned hDrop (fun stream conn => ?_) hBody
  simp only [RowStream.drop]
  split <;> rfl

theorem Parts.collect (h : Parts client owner) (stream : RowStream) : client (collect stream) :=
  h.scope (h.ownerBind h.drain fun _ => h.ownerGet (fun _ _ _ => rfl) fun _ => h.ownerPure _)

theorem Parts.query (h : Parts client owner) (sql : String) : client (query sql) :=
  h.bind (h.queryStream sql) h.collect

theorem Parts.execute (h : Parts client owner) (sql : String) : client (execute sql) :=
  h.map _ (h.query sql)

theorem Parts.queryOne (h : Parts client owner) (sql : String) : client (queryOne sql) :=
  h.map _ (h.query sql)

theorem Parts.eachLoop (h : Parts client owner) (f : List Row → Row → Except PgError Unit)
    (fuel : Nat) (seen : List Row) : owner (eachLoop f fuel seen) := by
  induction fuel generalizing seen with
  | zero => exact h.ownerWait
  | succ fuel ih =>
      refine h.ownerBind h.next fun row => ?_
      cases row with
      | some row => exact h.ownerBind (h.ownerLift _) fun _ => ih _
      | none => exact h.ownerPure _

/-- What `query_each` does with its stream, in rounds of any number. -/
theorem Parts.each (h : Parts client owner) (f : List Row → Row → Except PgError Unit)
    (fuel : Nat) :
    owner (do
      Connection.eachLoop f fuel []
      let (stream, _) ← .get
      match stream.commandTag with
      | some tag => return tag
      | none => .fail (.invalidState "stream ended without command tag") :
      Owner RowStream CommandTag) := by
  refine h.ownerBind (h.eachLoop f fuel []) fun _ => ?_
  refine h.ownerGet (fun _ _ _ => rfl) fun (stream, _) => ?_
  dsimp only
  cases stream.commandTag with
  | some tag => exact h.ownerPure _
  | none => exact h.ownerFail _

theorem Parts.queryEach (h : Parts client owner) (sql : String)
    (f : List Row → Row → Except PgError Unit) : client (queryEach sql f) := by
  refine h.bind (h.queryStream sql) fun stream => h.scope (h.fueled (h.each f) ?_)
  intro net s fuel more hFuel hMore
  rw [bind_apply, bind_apply, RowStream.eachLoop_fuel f fuel more [] hFuel hMore]

theorem Parts.batchExecute (h : Parts client owner) (sql : String) : client (batchExecute sql) := by
  refine h.bind (h.transition _) fun _ => h.bind (h.send _) fun _ => h.withLocal ?_
  exact h.readReply nameless_batch (h.ownerGet (fun _ _ _ => rfl) fun _ => h.ownerPure _)
    fun body => h.ownerFailServer (h.drainServerError body)

theorem Parts.ping (h : Parts client owner) : client ping := h.map _ (h.query _)

theorem Parts.reset (h : Parts client owner) : client reset := by
  refine h.get (fun _ _ => rfl) fun conn => ?_
  refine h.bind (h.doIf (h.map _ (h.execute _))) fun _ => ?_
  exact h.bind (h.execute _) fun _ => h.modify (fun _ _ => rfl) fun _ => rfl

theorem Parts.readThenIdle (h : Parts client owner) : client readThenIdle := by
  have hRead : client readExtendedQueryResult :=
    h.withLocal (h.readReply nameless_extended
      (h.ownerGet (fun _ _ _ => rfl) fun _ => h.ownerPure _)
      fun body => h.ownerFailServer (h.drainServerErrorOnly body))
  exact h.bind (h.attempt hRead) fun _ => h.bind (h.setState .idle) fun _ => h.lift _

theorem Parts.queryParams (h : Parts client owner) (sql : String) (params : List ToSql) :
    client (queryParams sql params) :=
  h.bind (h.transition _) fun _ => h.bind (h.lift _) fun _ =>
    h.bind (h.sendBatch _) fun _ => h.readThenIdle

theorem Parts.queryPrepared (h : Parts client owner) (stmt : PreparedStatement)
    (params : List ToSql) : client (queryPrepared stmt params) :=
  h.bind (h.transition _) fun _ => h.bind (h.lift _) fun _ =>
    h.bind (h.sendBatch _) fun _ => h.readThenIdle

theorem Parts.queryParamsStream (h : Parts client owner) (sql : String) (params : List ToSql) :
    client (queryParamsStream sql params) := by
  refine h.bind h.recover fun _ => h.bind (h.transition _) fun _ => ?_
  refine h.bind (h.lift _) fun _ => h.bind (h.sendBatch _) fun _ => ?_
  refine h.bind (h.withLocal (h.loop nameless_preamble)) fun preamble => ?_
  cases preamble with
  | columns columns => exact h.pure _
  | serverError body => exact h.failServer (h.drainServerError body)

theorem Parts.queryPreparedStream (h : Parts client owner) (stmt : PreparedStatement)
    (params : List ToSql) : client (queryPreparedStream stmt params) := by
  refine h.bind h.recover fun _ => h.bind (h.transition _) fun _ => ?_
  exact h.bind (h.lift _) fun _ => h.map _ (h.sendBatch _)

/-- The counting of a name. -/
def countName (conn : Connection) : Connection :=
  { conn with statementCounter := conn.statementCounter + 1 }

/-- What `prepare` does with the name that it has drawn. -/
def prepareAs (sql name : String) : Client PreparedStatement := do
  Connection.sendBatch [.parse name sql [], .describe .statement name, .sync]
  let net ← .env
  .withLocal {} do
    match ← messageLoop (prepareBody net.typeFromOid) with
    | .ready =>
        let (prep, _) ← .get
        return { name, sql, paramTypes := prep.paramTypes, columns := prep.columns }
    | .serverError body =>
        let serverErr ← .onSnd (Connection.drainServerErrorOnly body)
        .fail (.server serverErr)

theorem Rules.count (h : Rules client owner) : client (Async.modify countName) :=
  h.modify fun _ _ => rfl

theorem prepare_eq (sql : String) :
    prepare sql = Connection.transition .activeExtendedQuery >>= fun _ =>
      nextStatementName >>= prepareAs sql := rfl

theorem Parts.prepareAs (h : Parts client owner) (sql name : String) :
    client (prepareAs sql name) := by
  refine h.bind (h.sendBatch _) fun _ => ?_
  refine h.types (k := fun types => Async.withLocal ({} : PrepareState) do
    match ← messageLoop (prepareBody types) with
    | .ready =>
        let (prep, _) ← .get
        return ({ name, sql, paramTypes := prep.paramTypes, columns := prep.columns } :
          PreparedStatement)
    | .serverError body =>
        let serverErr ← .onSnd (Connection.drainServerErrorOnly body)
        .fail (.server serverErr)) fun types => h.withLocal ?_
  exact h.readReply (nameless_prepare types) (h.ownerGet (fun _ _ _ => rfl) fun _ => h.ownerPure _)
    fun body => h.ownerFailServer (h.drainServerErrorOnly body)

theorem Parts.prepare (h : Parts client owner) (hCount : client (Async.modify countName))
    (sql : String) : client (prepare sql) := by
  rw [prepare_eq]
  refine h.bind (h.transition _) fun _ => h.bind ?_ fun name => h.prepareAs sql name
  exact h.bind hCount fun _ => h.get (fun _ _ => rfl) fun _ => h.pure _

/-- The loop that waits for the end of a reply, and what is done then. -/
theorem Parts.readComplete (h : Parts client owner) {k : ReplyEnd → Client α}
    (hReady : client (k .ready)) (hError : ∀ body, client (k (.serverError body))) :
    client (Async.withLocal () (messageLoop completeBody) >>= k) := by
  refine h.bind (h.withLocal (h.loop nameless_complete)) fun ending => ?_
  cases ending with
  | ready => exact hReady
  | serverError body => exact hError body

theorem Parts.closeStatement (h : Parts client owner) (stmt : PreparedStatement) :
    client (closeStatement stmt) :=
  h.bind (h.transition _) fun _ => h.bind (h.sendBatch _) fun _ =>
    h.readComplete (h.pure ()) fun body => h.failServer (h.drainServerErrorOnly body)

theorem Parts.pipeline (h : Parts client owner) (pipeline : Pipeline) : client pipeline.finish := by
  refine h.bind (h.transition _) fun _ => h.bind (h.sendBatch _) fun _ => h.withLocal ?_
  exact h.readReply nameless_pipeline (h.ownerGet (fun _ _ _ => rfl) fun _ => h.ownerPure _)
    fun body => h.ownerFailServer (h.drainServerError body)

end Queries

section Cursors

variable {client : ∀ {α : Type}, Client α → Prop} {owner : ∀ {L α : Type}, Owner L α → Prop}

/-- What opens a portal under the name that has been drawn for it. -/
def openPortalAs (sql : String) (values : List (Option Bytes)) (fetchSize : Int32)
    (ownsTransaction : Bool) (portalName : String) : Client Cursor := do
  Connection.sendBatch (openBatch sql portalName values ++ [.sync])
  .withLocal none do
    match ← messageLoop cursorOpenBody with
    | .ready =>
        let (columns, _) ← .get
        return { portalName, columns := columns.getD [], fetchSize, done := false,
                 ownsTransaction }
    | .serverError body =>
        let serverErr ← .onSnd (Connection.drainServerError body)
        .fail (.server serverErr)

/-- What comes before the name of a portal is drawn. -/
def beforePortal (params : List ToSql) : Client (Bool × List (Option Bytes)) := do
  let conn ← .get
  let needTransaction := decide (conn.transactionStatus = .idle)
  .doIf needTransaction do
    let _ ← Connection.query "BEGIN"
  Connection.transition .activeExtendedQuery
  let values ← .lift (encodeParamsText params)
  return (needTransaction, values)

def nextPortalName : Client String := do
  let conn ← .get
  .modify countName
  return "__pg_portal_" ++ toString conn.statementCounter.toNat

theorem queryCursor_eq (sql : String) (params : List ToSql) (fetchSize : Int32) :
    queryCursor sql params fetchSize = beforePortal params >>= fun (owns, values) =>
      nextPortalName >>= openPortalAs sql values fetchSize owns := by
  simp only [beforePortal, nextPortalName, bind_assoc, pure_bind]
  rfl

theorem Parts.beforePortal (h : Parts client owner) (params : List ToSql) :
    client (beforePortal params) := by
  refine h.get (fun _ _ => rfl) fun conn => ?_
  refine h.bind (h.doIf (h.map _ (h.query _))) fun _ => h.bind (h.transition _) fun _ => ?_
  exact h.map _ (h.lift _)

theorem Parts.openPortalAs (h : Parts client owner) (sql : String) (values : List (Option Bytes))
    (fetchSize : Int32) (ownsTransaction : Bool) (portalName : String) :
    client (openPortalAs sql values fetchSize ownsTransaction portalName) := by
  refine h.bind (h.sendBatch _) fun _ => ?_
  exact h.withLocal (h.readReply nameless_cursorOpen
    (h.ownerGet (fun _ _ _ => rfl) fun _ => h.ownerPure _)
    fun body => h.ownerFailServer (h.drainServerError body))

theorem Parts.queryCursor (h : Parts client owner) (hCount : client (Async.modify countName))
    (sql : String) (params : List ToSql) (fetchSize : Int32) :
    client (queryCursor sql params fetchSize) := by
  rw [queryCursor_eq]
  refine h.bind (h.beforePortal params) fun (owns, values) => ?_
  refine h.bind ?_ fun name => h.openPortalAs sql values fetchSize owns name
  exact h.get (fun _ _ => rfl) fun conn => h.map _ hCount

theorem Parts.closePortal (h : Parts client owner) (portalName : String) (ownsTransaction : Bool) :
    client (closePortal portalName ownsTransaction) :=
  h.bind (h.transition _) fun _ => h.bind (h.sendBatch _) fun _ =>
    h.readComplete (h.doIf (h.map _ (h.execute _)))
      fun body => h.failServer (h.drainServerError body)

theorem Parts.fetchNext (h : Parts client owner) : owner Cursor.fetchNext := by
  refine h.ownerGet (fun _ _ _ => rfl) fun (cursor, _) => ?_
  dsimp only
  split
  · exact h.ownerPure []
  refine h.ownerBind (h.onSnd (h.transition _)) fun _ => ?_
  refine h.ownerBind (h.onSnd (h.sendBatch _)) fun _ => ?_
  refine h.ownerBind (h.withExtra (h.loop nameless_fetch)) fun (ending, rows) => ?_
  cases ending with
  | ready => exact h.ownerPure _
  | serverError body => exact h.ownerFailServer (h.drainServerError body)

theorem Parts.fetchBatch (h : Parts client owner) : owner CursorStream.fetchBatch := by
  refine h.ownerGet (fun _ _ _ => rfl) fun (stream, _) => ?_
  refine h.ownerBind (h.onSnd (h.transition _)) fun _ => ?_
  refine h.ownerBind (h.onSnd (h.sendBatch _)) fun _ => ?_
  refine h.ownerBind (h.withExtra (h.loop nameless_cursorBatch)) fun (ending, batch) => ?_
  cases ending with
  | ready => exact h.ownerPure _
  | serverError body =>
      exact h.ownerFailServerThen (h.drainServerError body) (fun _ _ _ => rfl) fun _ => rfl

theorem Parts.popRow (h : Parts client owner) : owner CursorStream.popRow := by
  refine h.ownerGet (fun _ _ _ => rfl) fun (stream, _) => ?_
  dsimp only
  cases stream.bufferedRows with
  | nil => exact h.ownerPure _
  | cons row rows =>
      exact h.ownerBind (h.ownerModify (fun _ _ _ => rfl) fun _ => rfl) fun _ => h.ownerPure _

theorem Parts.cursorNext (h : Parts client owner) (fuel : Nat) :
    owner (CursorStream.next fuel) := by
  induction fuel with
  | zero => exact h.ownerWait
  | succ fuel ih =>
      refine h.ownerBind h.popRow fun row => ?_
      cases row with
      | some row => exact h.ownerPure _
      | none =>
          refine h.ownerGet (fun _ _ _ => rfl) fun (stream, _) => ?_
          dsimp only
          split
          · exact h.ownerPure none
          refine h.ownerBind h.fetchBatch fun batch => ?_
          refine h.ownerBind (h.ownerModify (fun _ _ _ => rfl) fun _ => rfl) fun _ => ?_
          refine h.ownerGet (fun _ _ _ => rfl) fun (stream, _) => ?_
          dsimp only
          split
          · exact ih
          · exact h.ownerBind (h.ownerModify (fun _ _ _ => rfl) fun _ => rfl) fun _ => h.popRow

theorem Parts.cursorConsume (h : Parts client owner) (fuel : Nat) :
    owner (CursorStream.consume fuel) := by
  have hDrain : ∀ rows, owner (CursorStream.drainLoop fuel rows) := by
    intro rows
    induction rows with
    | zero => exact h.ownerWait
    | succ rows ih =>
        refine h.ownerBind (h.cursorNext fuel) fun row => ?_
        cases row with
        | some row => exact ih
        | none => exact h.ownerPure ()
  have hClose : owner CursorStream.closePortal := by
    refine h.ownerGet (fun _ _ _ => rfl) fun s => ?_
    obtain ⟨stream, _⟩ := s
    have hPortal : owner (Async.onSnd (Connection.closePortal stream.portalName
        stream.ownsTransaction) >>= fun _ =>
          Async.modify fun s : CursorStream × Connection =>
            ({ s.1 with state := .done {} }, s.2)) :=
      h.ownerBind (h.onSnd (h.closePortal _ _)) fun _ =>
        h.ownerModify (fun _ _ _ => rfl) fun _ => rfl
    dsimp only
    cases stream.state with
    | done tag =>
        exact h.ownerDoIf (h.ownerBind (h.onSnd (h.execute _)) fun _ => h.ownerPure ())
    | active => exact hPortal
    | error => exact hPortal
  refine h.ownerBind (hDrain fuel) fun _ => h.ownerBind hClose fun _ => ?_
  refine h.ownerGet (fun _ _ _ => rfl) fun s => ?_
  dsimp only
  cases s.1.state <;> exact h.ownerPure _

end Cursors

section Copies

variable {client : ∀ {α : Type}, Client α → Prop} {owner : ∀ {L α : Type}, Owner L α → Prop}

theorem Parts.copyStart (h : Parts client owner) (state : ConnectionState)
    (response : BackendMessage → Option CopyResponseBody) (violation sql : String) :
    client (copyStart state response violation sql) := by
  refine h.bind (h.transition _) fun _ => h.bind (h.send _) fun _ => ?_
  refine h.bind (h.withLocal (h.loop (nameless_copyStart response))) fun start => ?_
  cases start with
  | response format columnFormats => exact h.pure _
  | serverError body => exact h.failServer (h.drainServerError body)
  | unexpected =>
      exact h.bind h.readUntilReady fun _ => h.bind (h.setState .idle) fun _ => h.fail _

theorem Parts.copyIn (h : Parts client owner) (sql : String) : client (copyIn sql) :=
  h.map _ (h.copyStart _ _ _ sql)

theorem Parts.copyOut (h : Parts client owner) (sql : String) : client (copyOut sql) :=
  h.map _ (h.copyStart _ _ _ sql)

theorem Parts.copyWrite (h : Parts client owner) (data : Bytes) : owner (CopyIn.write data) :=
  h.onSnd (h.send _)

theorem Parts.finish (h : Parts client owner) : owner CopyIn.finish := by
  have hLoop : client CopyIn.finishLoop :=
    h.withLocal (h.ownerBind (h.loop nameless_finish) fun _ =>
      h.ownerGet (fun _ _ _ => rfl) fun _ => h.ownerPure _)
  refine h.ownerBind (h.onSnd (h.send _)) fun _ => ?_
  refine h.ownerBind (h.onSnd hLoop) fun (ending, rows) => ?_
  cases ending with
  | ready =>
      exact h.ownerBind (h.ownerModify (fun _ _ _ => rfl) fun _ => rfl) fun _ => h.ownerPure _
  | serverError body =>
      exact h.ownerFailServerThen (h.drainServerError body) (fun _ _ _ => rfl) fun _ => rfl

theorem Parts.cancel (h : Parts client owner) (reason : String) : owner (CopyIn.cancel reason) := by
  refine h.ownerBind (h.onSnd (h.send _)) fun _ => h.ownerBind (h.onSnd h.readUntilReady)
    fun _ => ?_
  refine h.ownerBind (h.ownerModify (fun _ _ _ => rfl) fun _ => rfl) fun _ => ?_
  exact h.ownerModify (fun _ _ _ => rfl) fun _ => rfl

theorem Parts.readNext (h : Parts client owner) : owner CopyOut.readNext := by
  refine h.ownerBind (h.loop nameless_copyRead) fun event => ?_
  cases event with
  | chunk data => exact h.ownerPure _
  | finished => exact h.ownerPure _
  | serverError body =>
      exact h.ownerFailServerThen (h.drainServerError body) (fun _ _ _ => rfl) fun _ => rfl

end Copies

section Ends

variable {client : ∀ {α : Type}, Client α → Prop} {owner : ∀ {L α : Type}, Owner L α → Prop}

theorem Parts.close (h : Parts client owner) : client close := by
  refine h.get (fun _ _ => rfl) fun conn => h.doIf ?_
  refine h.bind (h.setState .closing) fun _ => h.bind (h.attempt (h.send _)) fun _ => ?_
  exact h.bind (h.attempt h.shutdown) fun _ => h.setState .closed

theorem Parts.abort (h : Parts client owner) : client abort :=
  h.bind (h.setState .closed) fun _ => h.map _ (h.attempt h.shutdown)

theorem Parts.tracked (h : Parts client owner) (sql : String)
    (track : SessionState → SessionState) : client (tracked sql track) :=
  h.bind (h.execute sql) fun _ => h.modify (fun _ _ => rfl) fun _ => rfl

theorem Parts.operation (h : Parts client owner) (op : Operation)
    (hCount : op.namesStatement → client (Async.modify countName)) : client op.run := by
  cases op with
  | query sql => exact h.map _ (h.query sql)
  | execute sql => exact h.map _ (h.execute sql)
  | queryOne sql => exact h.map _ (h.queryOne sql)
  | queryEach sql callback => exact h.map _ (h.queryEach sql _)
  | batchExecute sql => exact h.map _ (h.batchExecute sql)
  | queryParams sql params => exact h.map _ (h.queryParams sql params)
  | executeParams sql params => exact h.map _ (h.map _ (h.queryParams sql params))
  | queryPrepared stmt params => exact h.map _ (h.queryPrepared stmt params)
  | executePrepared stmt params => exact h.map _ (h.map _ (h.queryPrepared stmt params))
  | prepare sql => exact h.map _ (h.prepare (hCount rfl) sql)
  | closeStatement stmt => exact h.closeStatement stmt
  | pipeline queued => exact h.map _ (h.pipeline queued)
  | ping => exact h.ping
  | recover => exact h.recover

theorem Parts.opening (h : Parts client owner) (opening : Opening)
    (hCount : opening.namesPortal → client (Async.modify countName)) : client opening.run := by
  cases opening with
  | queryStream sql => exact h.map _ (h.queryStream sql)
  | queryParamsStream sql params => exact h.map _ (h.queryParamsStream sql params)
  | queryPreparedStream stmt params => exact h.map _ (h.queryPreparedStream stmt params)
  | queryCursor sql params fetchSize =>
      exact h.map _ (h.queryCursor (hCount rfl) sql params fetchSize)
  | queryCursorStream sql params fetchSize =>
      exact h.map _ (h.map _ (h.queryCursor (hCount rfl) sql params fetchSize))
  | copyIn sql => exact h.map _ (h.copyIn sql)
  | copyOut sql => exact h.map _ (h.copyOut sql)

end Ends

section Transactions

variable {client : ∀ {α : Type}, Client α → Prop} {owner : ∀ {L α : Type}, Owner L α → Prop}
  {α : Type}

theorem Parts.finishTransaction (h : Parts client owner) (sql : String) :
    owner (Transaction.finish sql) :=
  h.ownerBind (h.onSnd (h.execute sql)) fun _ => h.ownerModify (fun _ _ _ => rfl) fun _ => rfl

theorem Parts.savepoint (h : Parts client owner) (name : String) :
    owner (Transaction.savepoint name) :=
  h.ownerBind (h.onSnd (h.execute _)) fun _ =>
    h.ownerBind (h.ownerModify (fun _ _ _ => rfl) fun _ => rfl) fun _ => h.ownerPure _

theorem Parts.finishSavepoint (h : Parts client owner) (sql : String) :
    owner (Savepoint.finish sql) :=
  h.ownerGet (fun _ _ _ => rfl) fun _ => h.ownerBind (h.onSnd (h.execute _)) fun _ =>
    h.ownerModify (fun _ _ _ => rfl) fun _ => rfl

theorem Parts.withTransaction (h : Parts client owner) {f : Owner Transaction α} (hf : owner f) :
    client (withTransaction f) := by
  have hDrop : ∀ (txn : Transaction) (conn : Connection) a,
      txn.drop (conn.overlay a) = (txn.drop conn).overlay a := fun _ _ _ => rfl
  refine h.bind (h.map _ (h.execute "BEGIN")) fun txn => h.owned hDrop (fun _ _ => rfl) ?_
  refine h.ownerBind (h.ownerAttempt hf) fun result => ?_
  cases result with
  | ok value => exact h.ownerBind (h.finishTransaction "COMMIT") fun _ => h.ownerPure value
  | error e =>
      exact h.ownerBind (h.ownerAttempt (h.finishTransaction "ROLLBACK")) fun _ => h.ownerFail e

end Transactions

/-- Something that all operations on a connection, and on what borrows it, have. -/
structure Operations (client : ∀ {α : Type}, Client α → Prop)
    (owner : ∀ {L α : Type}, Owner L α → Prop) : Prop where
  query : ∀ sql, client (query sql)
  execute : ∀ sql, client (execute sql)
  queryOne : ∀ sql, client (queryOne sql)
  queryEach : ∀ sql f, client (queryEach sql f)
  queryStream : ∀ sql, client (queryStream sql)
  next : owner RowStream.next
  consume : owner RowStream.consume
  batchExecute : ∀ sql, client (batchExecute sql)
  queryParams : ∀ sql params, client (queryParams sql params)
  executeParams : ∀ sql params, client (executeParams sql params)
  queryParamsStream : ∀ sql params, client (queryParamsStream sql params)
  prepare : ∀ sql, client (prepare sql)
  queryPrepared : ∀ stmt params, client (queryPrepared stmt params)
  executePrepared : ∀ stmt params, client (executePrepared stmt params)
  queryPreparedStream : ∀ stmt params, client (queryPreparedStream stmt params)
  closeStatement : ∀ stmt, client (closeStatement stmt)
  queryCursor : ∀ sql params fetchSize, client (queryCursor sql params fetchSize)
  fetchNext : owner Cursor.fetchNext
  closeCursor : ∀ cursor : Cursor, client cursor.close
  queryCursorStream : ∀ sql params fetchSize, client (queryCursorStream sql params fetchSize)
  cursorNext : ∀ fuel, owner (CursorStream.next fuel)
  cursorConsume : ∀ fuel, owner (CursorStream.consume fuel)
  pipeline : ∀ pipeline : Pipeline, client pipeline.finish
  copyIn : ∀ sql, client (copyIn sql)
  copyWrite : ∀ data, owner (CopyIn.write data)
  copyFinish : owner CopyIn.finish
  copyCancel : ∀ reason, owner (CopyIn.cancel reason)
  copyOut : ∀ sql, client (copyOut sql)
  copyRead : owner CopyOut.readNext
  transaction : client transaction
  transactionWith : ∀ options, client (transactionWith options)
  commit : owner Transaction.commit
  rollback : owner Transaction.rollback
  savepoint : ∀ name, owner (Transaction.savepoint name)
  releaseSavepoint : owner Savepoint.release
  rollbackSavepoint : owner Savepoint.rollback
  withTransaction : ∀ {α : Type} (f : Owner Transaction α), owner f → client (withTransaction f)
  listen : ∀ channel, client (listen channel)
  unlisten : ∀ channel, client (unlisten channel)
  unlistenAll : client unlistenAll
  setParam : ∀ key value, client (setParam key value)
  ping : client ping
  reset : client reset
  recover : client recover
  close : client close
  abort : client abort

theorem Parts.operations {client : ∀ {α : Type}, Client α → Prop}
    {owner : ∀ {L α : Type}, Owner L α → Prop} (h : Parts client owner)
    (hCount : client (Async.modify countName)) : Operations client owner where
  query := h.query
  execute := h.execute
  queryOne := h.queryOne
  queryEach := h.queryEach
  queryStream := h.queryStream
  next := h.next
  consume := h.consume
  batchExecute := h.batchExecute
  queryParams := h.queryParams
  executeParams sql params := h.map _ (h.queryParams sql params)
  queryParamsStream := h.queryParamsStream
  prepare := h.prepare hCount
  queryPrepared := h.queryPrepared
  executePrepared stmt params := h.map _ (h.queryPrepared stmt params)
  queryPreparedStream := h.queryPreparedStream
  closeStatement := h.closeStatement
  queryCursor := h.queryCursor hCount
  fetchNext := h.fetchNext
  closeCursor cursor := h.closePortal cursor.portalName cursor.ownsTransaction
  queryCursorStream sql params fetchSize := h.map _ (h.queryCursor hCount sql params fetchSize)
  cursorNext := h.cursorNext
  cursorConsume := h.cursorConsume
  pipeline := h.pipeline
  copyIn := h.copyIn
  copyWrite := h.copyWrite
  copyFinish := h.finish
  copyCancel := h.cancel
  copyOut := h.copyOut
  copyRead := h.readNext
  transaction := h.map _ (h.execute _)
  transactionWith _ := h.map _ (h.execute _)
  commit := h.finishTransaction _
  rollback := h.finishTransaction _
  savepoint := h.savepoint
  releaseSavepoint := h.finishSavepoint _
  rollbackSavepoint := h.finishSavepoint _
  withTransaction _ := h.withTransaction
  listen _ := h.tracked _ _
  unlisten _ := h.tracked _ _
  unlistenAll := h.tracked _ _
  setParam _ _ := h.tracked _ _
  ping := h.ping
  reset := h.reset
  recover := h.recover
  close := h.close
  abort := h.abort

end Connection

end PgClient
