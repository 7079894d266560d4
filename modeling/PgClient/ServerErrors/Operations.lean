import PgClient.Reconnect.Standing
import PgClient.ServerErrors.Loops

/-!
Each operation reports the errors of the server that it meets.
-/

namespace PgClient

open Drive Async

namespace Connection

/-- No reply of an abandoned stream is to be skipped. -/
abbrev recovered : Bool → Prop := fun flag => flag = false

abbrev anyFlag : Bool → Prop := fun _ => True

/-- Something that begins or ends a transaction skips such a reply first. -/
def recoveredIf (needed : Prop) (flag : Bool) : Prop := needed → flag = false

section Recovering

variable {α β : Type} {net : Network} {conn : Connection} {q r : Bool → Prop}

/-- A reply that is to be skipped has been, and then comes the rest of the call. -/
def HonestAfter (net : Network) (conn : Connection) (x : Client α) (q : Bool → Prop) : Prop :=
  ∃ k : Client α, x net conn = (recover >>= fun _ => k) net conn ∧ ClientHonest net recovered k q

theorem HonestAfter.bind {x : Client α} (h : HonestAfter net conn x q) {f : α → Client β}
    (hf : ∀ a, ClientHonest net q (f a) r) : HonestAfter net conn (x >>= f) r := by
  obtain ⟨k, hEq, hHonest⟩ := h
  refine ⟨k >>= f, ?_, honest_bind hHonest hf⟩
  rw [bind_apply, hEq, ← bind_apply, bind_assoc]

theorem HonestAfter.map {x : Client α} (h : HonestAfter net conn x q) (f : α → β) :
    HonestAfter net conn (x >>= fun a => pure (f a)) q :=
  h.bind fun a => honest_pure (f a)

theorem recovered_of_recover {conn' : Connection} (hRun : recover net conn = (.ok (), conn')) :
    conn'.needsRecovery = false := by
  cases hFlag : conn.needsRecovery with
  | false =>
      rw [recover_unneeded net hFlag] at hRun
      cases hRun
      exact hFlag
  | true =>
      have hCore := recover_core net hFlag
      revert hCore
      rw [hRun]
      cases skipReply conn.transport.inbox with
      | failed status rest =>
          rintro ⟨_, hSame, hCore⟩
          cases hSame
          exact congrArg Core.needsRecovery hCore
      | complete status rest => exact False.elim
      | broken rest =>
          rintro ⟨e, _, hSame, -⟩
          cases hSame
      | short =>
          rintro ⟨_, _, hSame, hFails, -⟩
          cases hSame
          exact absurd rfl (hFails ())

/-- What is read once the reply of an abandoned stream has been skipped. -/
theorem HonestAfter.reports {x : Client α} (h : HonestAfter net conn x q) :
    Reports net (fun _ => True) (recover net conn).2.transport (x net conn).2.transport
      (x net conn).1 := by
  obtain ⟨k, hEq, hHonest⟩ := h
  rw [hEq, bind_apply]
  cases hRecover : recover net conn with
  | mk outcome conn' =>
      cases outcome with
      | ok value => exact (hHonest conn' (recovered_of_recover hRecover)).1
      | err e => exact .silent _ (Transport.passed_refl net _)
      | pending => exact .silent _ (Transport.passed_refl net _)

theorem HonestAfter.ok {x : Client α} (h : HonestAfter net conn x q) {a : α} {conn' : Connection}
    (hRun : x net conn = (.ok a, conn')) : q conn'.needsRecovery := by
  obtain ⟨k, hEq, hHonest⟩ := h
  obtain ⟨_, conn₁, hRecover, hLater⟩ := ok_of_bind (hEq.symm.trans hRun)
  have hEnd := (hHonest conn₁ (recovered_of_recover hRecover)).2 a
  rw [hLater] at hEnd
  exact hEnd rfl

/-- Where there is no such reply, it is all that is read. -/
theorem honest_of_after {x : Client α} (h : ∀ conn, HonestAfter net conn x q) :
    ClientHonest net recovered x q := by
  intro conn hs
  obtain ⟨k, hEq, hHonest⟩ := h conn
  rw [hEq, bind_of_ok (recover_unneeded net hs)]
  exact hHonest conn hs

theorem after_recover : HonestAfter net conn recover recovered :=
  ⟨pure (), by rw [show (recover >>= fun _ => pure ()) = recover from bind_pure recover],
    honest_pure ()⟩

theorem after_queryStream (sql : String) : HonestAfter net conn (queryStream sql) recovered :=
  ⟨_, rfl, honest_bind (honest_transition .streaming) fun _ => honest_map _ (honest_send _)⟩

end Recovering

section Queries

variable {net : Network} {conn : Connection} {p : Bool → Prop}

theorem honest_next : OwnerHonest net p RowStream.next p := by
  refine honest_bind honest_get fun (stream, _) => ?_
  dsimp only
  split
  · exact honest_pure none
  apply honest_loopThen (leaves_messageLoop tame_next orderly_next)
  · intro event hProgress
    cases event with
    | row row => exact honest_pure _
    | finished => exact honest_pure _
    | serverError body => exact absurd rfl (hProgress body)
  · intro event errorBody hProgress
    cases event with
    | serverError body =>
        cases hProgress
        exact drains_owner skipper_drainServerError _ fun _ => rfl
    | _ => cases hProgress

theorem honest_drain : OwnerHonest net p RowStream.drain p := by
  have hLoop : ∀ fuel rows, OwnerHonest net p (RowStream.drainLoop fuel rows) p := by
    intro fuel
    induction fuel with
    | zero => exact fun _ => honest_wait
    | succ fuel ih =>
        intro rows
        refine honest_bind honest_next fun row => ?_
        cases row with
        | some row => exact ih _
        | none => exact honest_pure _
  exact fun s hs => hLoop _ _ s hs

theorem honest_consume : OwnerHonest net p RowStream.consume p := by
  refine honest_bind honest_drain fun _ => honest_bind honest_get fun (stream, _) => ?_
  dsimp only
  cases stream.state <;> exact honest_pure _

/-- A stream that has come to its end leaves no reply to be skipped. -/
theorem honest_scope {α : Type} {stream : RowStream} {body : Owner RowStream α}
    (hBody : OwnerHonest net p body p)
    (hDone : ∀ s s' a, body net s = (.ok a, s') → s'.1.isDone) :
    ClientHonest net p (stream.scope body) p := by
  intro conn hs
  have hEnd := hBody (stream, conn) hs
  have hStream := hDone (stream, conn)
  simp only [RowStream.scope, RowStream.drop]
  revert hEnd hStream
  cases body net (stream, conn) with
  | mk outcome s' =>
      cases outcome with
      | ok a =>
          intro hEnd hStream
          rw [if_pos (hStream s' a rfl)]
          exact hEnd
      | err e =>
          intro hEnd _
          refine ⟨?_, by simp⟩
          dsimp only
          split <;> exact hEnd.1
      | pending =>
          intro hEnd _
          refine ⟨?_, by simp⟩
          dsimp only
          split <;> exact hEnd.1

theorem isDone_of_next {s s' : RowStream × Connection}
    (hNext : RowStream.next net s = (.ok none, s')) : s'.1.isDone := by
  obtain ⟨stream, conn⟩ := s
  cases hOpen : stream.isDone with
  | true =>
      rw [RowStream.next, bind_of_ok (get_apply ..)] at hNext
      dsimp only at hNext
      rw [if_pos hOpen] at hNext
      cases hNext
      exact hOpen
  | false =>
      have hReads := RowStream.drive_nextBody conn.transport.inbox hOpen conn
      rw [RowStream.next_eq hOpen, bind_apply, messageLoop] at hNext
      revert hReads hNext
      cases drive (readStep RowStream.nextBody) (stream, conn) conn.transport.inbox with
      | waiting s₁ =>
          intro hNext _
          cases hEnding : conn.transport.ending <;> simp [hEnding] at hNext
      | done result s₁ rest =>
          cases result with
          | error e =>
              intro hNext _
              simp at hNext
          | ok event =>
              cases event with
              | row row =>
                  intro hNext _
                  simp at hNext
              | finished =>
                  rintro hNext ⟨_, -, -, hDone⟩
                  cases hNext
                  exact hDone
              | serverError body =>
                  intro hNext _
                  have hDrains := @drains_owner _ (Option Row) net _ skipper_drainServerError body
                    (fun (s : RowStream × Connection) => ({ s.1 with state := .error }, s.2))
                    (fun _ => rfl) (s₁.1, s₁.2.setInbox rest)
                  exact absurd (congrArg Prod.fst hNext) (hDrains.2.2.1 none)

theorem isDone_of_drainLoop {fuel : Nat} {seen rows : List Row} {s s' : RowStream × Connection}
    (hDrain : RowStream.drainLoop fuel seen net s = (.ok rows, s')) : s'.1.isDone := by
  induction fuel generalizing s seen with
  | zero => cases hDrain
  | succ fuel ih =>
      obtain ⟨row, s₁, hNext, hLater⟩ := ok_of_bind hDrain
      cases row with
      | some row => exact ih hLater
      | none =>
          cases hLater
          exact isDone_of_next hNext

theorem honest_collect (stream : RowStream) : ClientHonest net p (collect stream) p := by
  refine honest_scope (honest_bind honest_drain fun _ =>
    honest_bind honest_get fun _ => honest_pure _) ?_
  intro s s' result hRun
  obtain ⟨rows, s₁, hDrain, hLater⟩ := ok_of_bind hRun
  cases hLater
  exact isDone_of_drainLoop hDrain

theorem after_query (sql : String) : HonestAfter net conn (query sql) recovered :=
  (after_queryStream sql).bind honest_collect

theorem honest_execute (sql : String) : ClientHonest net recovered (execute sql) recovered :=
  honest_of_after fun _ => (after_query sql).map _

theorem honest_eachLoop (f : List Row → Row → Except PgError Unit) (fuel : Nat) (seen : List Row) :
    OwnerHonest net p (eachLoop f fuel seen) p := by
  induction fuel generalizing seen with
  | zero => exact honest_wait
  | succ fuel ih =>
      refine honest_bind honest_next fun row => ?_
      cases row with
      | some row => exact honest_bind (honest_lift _) fun _ => ih _
      | none => exact honest_pure _

theorem isDone_of_eachLoop {f : List Row → Row → Except PgError Unit} {fuel : Nat} {seen : List Row}
    {s s' : RowStream × Connection} (hEach : eachLoop f fuel seen net s = (.ok (), s')) :
    s'.1.isDone := by
  induction fuel generalizing s seen with
  | zero => cases hEach
  | succ fuel ih =>
      obtain ⟨row, s₁, hNext, hLater⟩ := ok_of_bind hEach
      cases row with
      | none =>
          cases hLater
          exact isDone_of_next hNext
      | some row =>
          obtain ⟨_, s₂, hCallback, hRest⟩ := ok_of_bind hLater
          exact ih hRest

theorem after_queryEach (sql : String) (f : List Row → Row → Except PgError Unit) :
    HonestAfter net conn (queryEach sql f) recovered := by
  refine (after_queryStream sql).bind fun stream => honest_scope ?_ ?_
  · refine honest_bind honest_get fun (_, conn) => honest_bind (honest_eachLoop f _ _) fun _ => ?_
    refine honest_bind honest_get fun (stream, _) => ?_
    dsimp only
    cases stream.commandTag with
    | some tag => exact honest_pure _
    | none => exact honest_fail _
  · intro s s' tag hRun
    obtain ⟨_, s₀, hStart, hBody⟩ := ok_of_bind hRun
    cases hStart
    obtain ⟨_, s₁, hEach, hLater⟩ := ok_of_bind hBody
    obtain ⟨_, s₂, hGet, hTag⟩ := ok_of_bind hLater
    cases hGet
    dsimp only at hTag
    revert hTag
    cases s₁.1.commandTag with
    | none =>
        intro hTag
        cases hTag
    | some tag =>
        intro hTag
        cases hTag
        exact isDone_of_eachLoop hEach

theorem honest_batchExecute (sql : String) : ClientHonest net p (batchExecute sql) p := by
  refine honest_bind (honest_transition _) fun _ => honest_bind (honest_send _) fun _ => ?_
  refine honest_withLocal (honest_readReply (leaves_messageLoop tame_batch orderly_batch)
    (honest_bind honest_get fun _ => honest_pure _) fun body => ?_)
  exact drains_plain skipper_drainServerError body

/-- The state is set whether or not the reading has succeeded. -/
theorem honest_readThenIdle : ClientHonest net p readThenIdle p := by
  have hRead : ClientHonest net p readExtendedQueryResult p := by
    refine honest_withLocal (honest_readReply (leaves_messageLoop tame_extended orderly_extended)
      (honest_bind honest_get fun _ => honest_pure _) fun body => ?_)
    exact drains_plain skipper_drainServerErrorOnly body
  intro conn hs
  have hEnd := hRead conn hs
  simp only [readThenIdle, bind_apply, Async.attempt]
  revert hEnd
  cases readExtendedQueryResult net conn with
  | mk outcome conn' =>
      cases outcome with
      | ok result => exact fun hEnd => ⟨hEnd.1, hEnd.2⟩
      | err e => exact fun hEnd => ⟨hEnd.1, by simp⟩
      | pending => exact fun hEnd => ⟨hEnd.1.pending, by simp⟩

theorem honest_queryParams (sql : String) (params : List ToSql) :
    ClientHonest net p (queryParams sql params) p := by
  refine honest_bind (honest_transition _) fun _ => honest_bind (honest_lift _) fun _ => ?_
  exact honest_bind (honest_sendBatch _) fun _ => honest_readThenIdle

theorem honest_queryPrepared (stmt : PreparedStatement) (params : List ToSql) :
    ClientHonest net p (queryPrepared stmt params) p := by
  refine honest_bind (honest_transition _) fun _ => honest_bind (honest_lift _) fun _ => ?_
  exact honest_bind (honest_sendBatch _) fun _ => honest_readThenIdle

theorem honest_readPreamble : ClientHonest net p readPreamble p := by
  apply honest_loopThen (leaves_withLocal (leaves_messageLoop tame_preamble orderly_preamble))
  · intro preamble hProgress
    cases preamble with
    | columns columns => exact honest_pure _
    | serverError body => exact absurd rfl (hProgress body)
  · intro preamble errorBody hProgress
    cases preamble with
    | columns columns => cases hProgress
    | serverError body =>
        cases hProgress
        exact drains_skipper skipper_drainServerError _

theorem after_queryParamsStream (sql : String) (params : List ToSql) :
    HonestAfter net conn (queryParamsStream sql params) recovered := by
  refine ⟨_, rfl, honest_bind (honest_transition _) fun _ => ?_⟩
  refine honest_bind (honest_lift _) fun _ => honest_bind (honest_sendBatch _) fun _ => ?_
  exact honest_readPreamble

theorem after_queryPreparedStream (stmt : PreparedStatement) (params : List ToSql) :
    HonestAfter net conn (queryPreparedStream stmt params) recovered := by
  refine ⟨_, rfl, honest_bind (honest_transition _) fun _ => ?_⟩
  exact honest_bind (honest_lift _) fun _ => honest_map _ (honest_sendBatch _)

theorem honest_prepare (sql : String) : ClientHonest net p (prepare sql) p := by
  have hName : ClientHonest net p nextStatementName p := by
    refine honest_bind (honest_modify (fun _ => rfl) fun _ hs => hs) fun _ => ?_
    exact honest_bind honest_get fun _ => honest_pure _
  refine honest_bind (honest_transition _) fun _ => honest_bind hName fun name => ?_
  refine honest_bind (honest_sendBatch _) fun _ => honest_bind honest_env fun net' => ?_
  refine honest_withLocal (honest_readReply
    (leaves_messageLoop (tame_prepare _) (orderly_prepare _))
    (honest_bind honest_get fun _ => honest_pure _) fun body => ?_)
  exact drains_plain skipper_drainServerErrorOnly body

theorem honest_closeStatement (stmt : PreparedStatement) :
    ClientHonest net p (closeStatement stmt) p := by
  refine honest_bind (honest_transition _) fun _ => honest_bind (honest_sendBatch _) fun _ => ?_
  exact honest_readReply (leaves_withLocal (leaves_messageLoop tame_complete orderly_complete))
    (honest_pure ()) fun body => drains_skipper skipper_drainServerErrorOnly body

theorem honest_pipeline (pipeline : Pipeline) : ClientHonest net p pipeline.finish p := by
  refine honest_bind (honest_transition _) fun _ => honest_bind (honest_sendBatch _) fun _ => ?_
  refine honest_withLocal (honest_readReply (leaves_messageLoop tame_pipeline orderly_pipeline)
    (honest_bind honest_get fun _ => honest_pure _) fun body => ?_)
  exact drains_plain skipper_drainServerError body

end Queries

section Cursors

variable {net : Network} {conn : Connection} {p : Bool → Prop}

/-- What opens a cursor once its transaction has begun. -/
def openPortal (sql : String) (params : List ToSql) (fetchSize : Int32) (ownsTransaction : Bool) :
    Client Cursor := do
  transition .activeExtendedQuery
  let paramValues ← .lift (encodeParamsText params)
  let conn ← .get
  let portalName := "__pg_portal_" ++ toString conn.statementCounter.toNat
  .modify fun conn => { conn with statementCounter := conn.statementCounter + 1 }
  sendBatch (openBatch sql portalName paramValues ++ [.sync])
  .withLocal none do
    match ← messageLoop cursorOpenBody with
    | .ready =>
        let (columns, _) ← .get
        return { portalName, columns := columns.getD [], fetchSize, done := false, ownsTransaction }
    | .serverError body =>
        let serverErr ← .onSnd (drainServerError body)
        .fail (.server serverErr)

theorem queryCursor_idle (sql : String) (params : List ToSql) (fetchSize : Int32)
    (hIdle : conn.transactionStatus = .idle) :
    queryCursor sql params fetchSize net conn =
      ((query "BEGIN" >>= fun _ => pure ()) >>= fun _ => openPortal sql params fetchSize true)
        net conn := by
  have hNeed : decide (conn.transactionStatus = .idle) = true := decide_eq_true hIdle
  rw [queryCursor, bind_of_ok (get_apply ..), hNeed]
  rfl

theorem queryCursor_open (sql : String) (params : List ToSql) (fetchSize : Int32)
    (hOpen : conn.transactionStatus ≠ .idle) :
    queryCursor sql params fetchSize net conn = openPortal sql params fetchSize false net conn := by
  have hNeed : decide (conn.transactionStatus = .idle) = false := decide_eq_false hOpen
  rw [queryCursor, bind_of_ok (get_apply ..), hNeed]
  rfl

theorem honest_openPortal (sql : String) (params : List ToSql) (fetchSize : Int32)
    (ownsTransaction : Bool) :
    ClientHonest net p (openPortal sql params fetchSize ownsTransaction) p := by
  refine honest_bind (honest_transition _) fun _ => honest_bind (honest_lift _) fun values => ?_
  refine honest_bind honest_get fun conn => ?_
  refine honest_bind (honest_modify (fun _ => rfl) fun _ hs => hs) fun _ => ?_
  refine honest_bind (honest_sendBatch _) fun _ => ?_
  refine honest_withLocal (honest_readReply (leaves_messageLoop tame_cursorOpen orderly_cursorOpen)
    (honest_bind honest_get fun _ => honest_pure _) fun body => ?_)
  exact drains_plain skipper_drainServerError body

theorem after_queryCursor (sql : String) (params : List ToSql) (fetchSize : Int32)
    (hIdle : conn.transactionStatus = .idle) :
    HonestAfter net conn (queryCursor sql params fetchSize) recovered := by
  obtain ⟨k, hEq, hHonest⟩ := ((@after_query net conn "BEGIN").map fun _ => ()).bind
    fun _ => honest_openPortal sql params fetchSize true
  exact ⟨k, by rw [queryCursor_idle sql params fetchSize hIdle]; exact hEq, hHonest⟩

theorem honest_closePortal (portalName : String) (ownsTransaction : Bool) :
    ClientHonest net (recoveredIf ownsTransaction)
      (closePortal portalName ownsTransaction) anyFlag := by
  refine honest_bind (honest_transition _) fun _ => honest_bind (honest_sendBatch _) fun _ => ?_
  refine honest_readReply (leaves_withLocal (leaves_messageLoop tame_complete orderly_complete))
    (honest_doIf (fun hOwns => ?_) fun _ _ _ => trivial) fun body => ?_
  · refine (honest_map _ (honest_execute "COMMIT")).weaken (fun _ _ => trivial) |>.mono ?_
    exact fun conn hs => hs hOwns
  · exact drains_skipper skipper_drainServerError body

theorem honest_fetchNext : OwnerHonest net p Cursor.fetchNext p := by
  refine honest_bind honest_get fun (cursor, _) => ?_
  dsimp only
  split
  · exact honest_pure []
  refine honest_bind (honest_onSnd (honest_transition _)) fun _ => ?_
  refine honest_bind (honest_onSnd (honest_sendBatch _)) fun _ => ?_
  refine honest_readBatch (leaves_withExtra (leaves_messageLoop tame_fetch orderly_fetch))
    (fun _ => honest_pure _) fun body _ => ?_
  exact drains_plain skipper_drainServerError body

theorem honest_fetchBatch : OwnerHonest net p CursorStream.fetchBatch p := by
  refine honest_bind honest_get fun (stream, _) => ?_
  refine honest_bind (honest_onSnd (honest_transition _)) fun _ => ?_
  refine honest_bind (honest_onSnd (honest_sendBatch _)) fun _ => ?_
  refine honest_readBatch (leaves_withExtra (leaves_messageLoop tame_cursorBatch
    orderly_cursorBatch))
    (fun _ => honest_pure _) fun body _ => ?_
  exact drains_owner skipper_drainServerError body fun _ => rfl

theorem honest_popRow : OwnerHonest net p CursorStream.popRow p := by
  refine honest_bind honest_get fun (stream, _) => ?_
  dsimp only
  cases stream.bufferedRows with
  | nil => exact honest_pure _
  | cons row rows =>
      exact honest_bind (honest_modify (fun _ => rfl) fun _ hs => hs) fun _ => honest_pure _

theorem honest_cursorNext (fuel : Nat) : OwnerHonest net p (CursorStream.next fuel) p := by
  induction fuel with
  | zero => exact honest_wait
  | succ fuel ih =>
      refine honest_bind honest_popRow fun row => ?_
      cases row with
      | some row => exact honest_pure _
      | none =>
          refine honest_bind honest_get fun (stream, _) => ?_
          dsimp only
          split
          · exact honest_pure none
          refine honest_bind honest_fetchBatch fun batch => ?_
          refine honest_bind (honest_modify (fun _ => rfl) fun _ hs => hs) fun _ => ?_
          refine honest_bind honest_get fun (stream, _) => ?_
          dsimp only
          split
          · exact ih
          · exact honest_bind (honest_modify (fun _ => rfl) fun _ hs => hs) fun _ => honest_popRow

/-- A step leads to a state of some kind, whether or not it leaves the loop. -/
def LeadsTo {σ β : Type} (inv : σ → Prop) : Step σ β → Prop
  | .next s | .exit _ s => inv s

/-- What a loop body keeps of its local variable, the loop keeps. -/
theorem keeps_local {L β : Type}
    {body : L × Connection → BackendMessage → Step (L × Connection) (Except PgError β)}
    (inv : L → Prop) (hBody : ∀ s message, inv s.1 → LeadsTo (fun s => inv s.1) (body s message)) :
    Keeps net (fun s => inv s.1) (messageLoop body) := by
  intro s hs
  have hDrive := drive_invariant (readStep body) (fun s => inv s.1) (fun _ s => inv s.1)
    (by
      intro s₁ entry s₂ hs hStep
      cases entry with
      | error e => cases hStep
      | ok message =>
          have hKept := hBody s₁ message hs
          rw [show body s₁ message = .next s₂ from hStep] at hKept
          exact hKept)
    (by
      intro s₁ entry result s₂ hs hStep
      cases entry with
      | error e =>
          cases hStep
          exact hs
      | ok message =>
          have hKept := hBody s₁ message hs
          rw [show body s₁ message = .exit result s₂ from hStep] at hKept
          exact hKept)
    hs s.2.transport.inbox
  simp only [messageLoop]
  revert hDrive
  cases drive (readStep body) s s.2.transport.inbox with
  | waiting s' => cases s.2.transport.ending <;> exact id
  | done result s' rest => exact id

/-- Nothing that is fetched changes whose the transaction is. -/
theorem keeps_fetchBatch (owns : Bool) :
    Keeps net (fun s => s.1.ownsTransaction = owns) CursorStream.fetchBatch := by
  have hBody : ∀ (s : (CursorStream × CursorStream.Batch) × Connection) message,
      s.1.1.ownsTransaction = owns →
        LeadsTo (fun s => s.1.1.ownsTransaction = owns) (CursorStream.batchBody s message) := by
    rintro ⟨⟨stream, batch⟩, conn⟩ message hs
    simp only [CursorStream.batchBody, Connection.asyncFirst]
    cases conn.handleAsyncMessage message with
    | some conn' => exact hs
    | none =>
        cases message with
        | rowDescription fields => cases fields <;> exact hs
        | dataRow values => cases values <;> exact hs
        | _ => exact hs
  have hLoop : Keeps net (fun s => s.1.ownsTransaction = owns) CursorStream.batchLoop := by
    have hInner : Keeps net (fun s => s.1.1.ownsTransaction = owns)
        (messageLoop CursorStream.batchBody) :=
      keeps_local (fun (l : CursorStream × CursorStream.Batch) => l.1.ownsTransaction = owns) hBody
    exact fun s hs => hInner ((s.1, {}), s.2) hs
  refine keeps_bind keeps_get fun s => ?_
  refine keeps_bind (keeps_onSnd fun _ _ hs => hs) fun _ => ?_
  refine keeps_bind (keeps_onSnd fun _ _ hs => hs) fun _ => keeps_bind hLoop fun result => ?_
  obtain ⟨ending, _⟩ := result
  cases ending with
  | ready => exact keeps_pure _
  | serverError body =>
      refine keeps_bind (keeps_onSnd fun _ _ hs => hs) fun serverErr => ?_
      exact keeps_bind (keeps_modify fun _ hs => hs) fun _ => keeps_fail _

theorem keeps_popRow (owns : Bool) :
    Keeps net (fun s => s.1.ownsTransaction = owns) CursorStream.popRow := by
  refine keeps_bind keeps_get fun (stream, _) => ?_
  dsimp only
  cases stream.bufferedRows with
  | nil => exact keeps_pure _
  | cons row rows => exact keeps_bind (keeps_modify fun _ hs => hs) fun _ => keeps_pure _

theorem keeps_cursorNext (owns : Bool) (fuel : Nat) :
    Keeps net (fun s => s.1.ownsTransaction = owns) (CursorStream.next fuel) := by
  induction fuel with
  | zero => exact keeps_wait
  | succ fuel ih =>
      refine keeps_bind (keeps_popRow owns) fun row => ?_
      cases row with
      | some row => exact keeps_pure _
      | none =>
          refine keeps_bind keeps_get fun (stream, _) => keeps_ite (keeps_pure none) ?_
          refine keeps_bind (keeps_fetchBatch owns) fun batch => ?_
          refine keeps_bind (keeps_modify fun _ hs => hs) fun _ => ?_
          refine keeps_bind keeps_get fun (stream, _) => keeps_ite ih ?_
          exact keeps_bind (keeps_modify fun _ hs => hs) fun _ => keeps_popRow owns

/-- Where a cursor stream is and whose its transaction is, through the calls of `next`. -/
def Owning (owns flag : Bool) (s : CursorStream × Connection) : Prop :=
  s.2.needsRecovery = flag ∧ s.1.ownsTransaction = owns

theorem honest_cursorDrain (owns flag : Bool) (fuel rows : Nat) :
    Honest Prod.snd net (Owning owns flag) (CursorStream.drainLoop fuel rows)
      (Owning owns flag) := by
  have hNext : Honest Prod.snd net (Owning owns flag) (CursorStream.next fuel)
      (Owning owns flag) :=
    (honest_cursorNext (p := fun current => current = flag) fuel).keeps (keeps_cursorNext owns fuel)
  induction rows with
  | zero => exact honest_wait
  | succ rows ih =>
      refine honest_bind hNext fun row => ?_
      cases row with
      | some row => exact ih
      | none => exact honest_pure ()

/-- A stream that owns its transaction commits it, which skips a reply first. -/
theorem honest_closeStream {owns flag : Bool} (hFlag : recoveredIf owns flag) :
    Honest Prod.snd net (Owning owns flag) CursorStream.closePortal (fun _ => True) := by
  refine honest_getBind fun s hs => ?_
  obtain ⟨stream, conn⟩ := s
  obtain ⟨hKept, hOwns⟩ := hs
  have hHere : recoveredIf stream.ownsTransaction conn.needsRecovery := by
    rw [hKept, hOwns]
    exact hFlag
  have hClose : Honest Prod.snd net (fun s => s = (stream, conn))
      (Async.onSnd (Connection.closePortal stream.portalName stream.ownsTransaction) >>= fun _ =>
        Async.modify fun s : CursorStream × Connection =>
          ({ s.1 with state := .done {} }, s.2)) (fun _ => True) := by
    refine honest_bind (honest_onSnd (p := recoveredIf stream.ownsTransaction) (q := anyFlag)
      (honest_closePortal _ _) |>.mono ?_) fun _ => honest_modify (fun _ => rfl) fun _ hs => hs
    rintro _ rfl
    exact hHere
  dsimp only
  cases stream.state with
  | active | error => exact hClose
  | done tag =>
      refine honest_doIf (fun hNeed => ?_) fun _ _ _ => trivial
      refine (honest_map _ (honest_onSnd (honest_execute "COMMIT"))).weaken
        (fun _ _ => trivial) |>.mono ?_
      rintro _ rfl
      exact hHere hNeed

theorem honest_cursorConsume (fuel : Nat) :
    Honest Prod.snd net (fun s => recoveredIf s.1.ownsTransaction s.2.needsRecovery)
      (CursorStream.consume fuel) (fun _ => True) := by
  intro s hs
  have hConsume : Honest Prod.snd net (Owning s.1.ownsTransaction s.2.needsRecovery)
      (CursorStream.consume fuel) (fun _ => True) := by
    refine honest_bind (honest_cursorDrain _ _ fuel fuel) fun _ => ?_
    refine honest_bind (honest_closeStream hs) fun _ => honest_bind honest_get fun (stream, _) => ?_
    dsimp only
    cases stream.state <;> exact honest_pure _
  exact hConsume s ⟨rfl, rfl⟩

end Cursors

section Copies

variable {net : Network} {p : Bool → Prop}

theorem leaves_finishLoop : Leaves (fun conn => conn) net (fun result => result.1.progress)
    CopyIn.finishLoop :=
  leaves_withLocal (leaves_then (leaves_messageLoop tame_finish orderly_finish)
    (fun ending s => (ending, s.1)) _ fun _ _ => rfl)

theorem honest_finish : OwnerHonest net p CopyIn.finish p := by
  refine honest_bind (honest_onSnd (honest_send _)) fun _ => ?_
  refine honest_readBatch (leaves_onSnd leaves_finishLoop) (fun rows => ?_) fun body _ => ?_
  · exact honest_bind (honest_modify (fun _ => rfl) fun _ hs => hs) fun _ => honest_pure _
  · exact drains_owner skipper_drainServerError body fun _ => rfl

theorem honest_readNext : OwnerHonest net p CopyOut.readNext p := by
  apply honest_loopThen (leaves_messageLoop tame_copyRead orderly_copyRead)
  · intro event hProgress
    cases event with
    | chunk data => exact honest_pure _
    | finished => exact honest_pure _
    | serverError body => exact absurd rfl (hProgress body)
  · intro event errorBody hProgress
    cases event with
    | serverError body =>
        cases hProgress
        exact drains_owner skipper_drainServerError _ fun _ => rfl
    | _ => cases hProgress

end Copies

end Connection
end PgClient
