import PgClient.Reconnect.Flag
import PgClient.Reconnect.Standing

/-!
What a closed connection still does. Every call is refused by the state machine, except
that skipping the reply of an abandoned stream comes first, and that sets the state to
`Idle` when there is a `ReadyForQuery` left to read.
-/

namespace PgClient

open Drive Async Connection

namespace Connection

variable {net : Network} {conn conn' conn'' : Connection} {α β : Type}

/-- The state is `Closed`, and nothing has been written. -/
structure StillShut (conn conn' : Connection) : Prop where
  state : conn'.state = .closed
  history : conn'.transport.history = conn.transport.history
  writeBuf : conn'.transport.writeBuf = conn.transport.writeBuf

/-- A connection after `close` or `abort`: what it could not write then it cannot write. -/
structure Shut (net : Network) (conn : Connection) : Prop where
  state : conn.state = .closed
  stuck : conn.transport.writeBuf = [] ∨ (net.writeError conn.transport.history).isSome

theorem Shut.still (h : Shut net conn) (hStill : StillShut conn conn') : Shut net conn' :=
  ⟨hStill.state, by rw [hStill.writeBuf, hStill.history]; exact h.stuck⟩

theorem StillShut.trans (h : StillShut conn conn') (h' : StillShut conn' conn'') :
    StillShut conn conn'' :=
  ⟨h'.state, h'.history.trans h.history, h'.writeBuf.trans h.writeBuf⟩

theorem stillShut_self (h : conn.state = .closed) : StillShut conn conn := ⟨h, rfl, rfl⟩

section Ends

theorem stuck_shutdown (net : Network) (conn : Connection) :
    (shutdown net conn).2.transport.writeBuf = [] ∨
      (net.writeError (shutdown net conn).2.transport.history).isSome := by
  simp only [shutdown]
  cases hFlush : conn.transport.flushWrite net with
  | ok t =>
      left
      rw [Transport.flushWrite_flushed hFlush]
      exact Transport.flushed_writeBuf net conn.transport
  | error e =>
      right
      simp only [Transport.flushWrite] at hFlush
      split at hFlush
      case isTrue => cases hFlush
      case isFalse =>
          split at hFlush
          case h_1 hError =>
              rw [hError]
              rfl
          case h_2 => cases hFlush

/-- Of a transport that is stuck a shutdown changes nothing. -/
theorem shutdown_of_shut (h : Shut net conn) : (shutdown net conn).2 = conn := by
  simp only [shutdown, Transport.flushWrite]
  by_cases hEmpty : conn.transport.writeBuf = []
  · rw [if_pos hEmpty]
  · rw [if_neg hEmpty]
    obtain ⟨e, hError⟩ := Option.isSome_iff_exists.mp (h.stuck.resolve_left hEmpty)
    rw [hError]

theorem abort_snd (net : Network) (conn : Connection) :
    (abort net conn).2 = (shutdown net (conn.setState .closed)).2 := by
  simp only [abort, bind_apply, modify_apply, andThen_ok]
  rw [← attempt_snd shutdown]
  match (shutdown.attempt net (conn.setState .closed)) with
  | (.ok _, conn') => rfl
  | (.err _, conn') => rfl
  | (.pending, conn') => rfl

theorem shut_abort (net : Network) (conn : Connection) : Shut net (abort net conn).2 := by
  rw [abort_snd]
  refine ⟨?_, stuck_shutdown net _⟩
  simp only [shutdown]
  split <;> rfl

theorem stillShut_abort (h : Shut net conn) : StillShut conn (abort net conn).2 := by
  have hSame : conn.setState .closed = conn := by
    rw [← h.state]
    rfl
  rw [abort_snd, hSame, shutdown_of_shut h]
  exact stillShut_self h.state

theorem close_of_closed (h : conn.state = .closed) : close net conn = (.ok (), conn) := by
  simp [close, bind_apply, h, ConnectionState.isClosed]

/-- What comes after something that is only attempted. -/
theorem bind_attempt {x : Client α} (conn : Connection) (k : Except PgError α → Client β)
    (h : (x net conn).1 ≠ .pending) :
    ∃ result, (x.attempt >>= k) net conn = k result net (x net conn).2 := by
  simp only [bind_apply, attempt]
  revert h
  cases x net conn with
  | mk outcome conn' =>
      cases outcome with
      | ok a => exact fun _ => ⟨.ok a, rfl⟩
      | err e => exact fun _ => ⟨.error e, rfl⟩
      | pending => exact fun h => absurd rfl h

theorem shutdown_ne_pending (net : Network) (conn : Connection) :
    (shutdown net conn).1 ≠ .pending := by
  simp only [shutdown]
  split <;> simp

theorem send_ne_pending (net : Network) (message : FrontendMessage) (conn : Connection) :
    (send message net conn).1 ≠ .pending := by
  have hSend := send_cases net message conn
  split at hSend
  · simp [hSend]
  · obtain ⟨e, t, hSend, -⟩ := hSend
    simp [hSend]

theorem shut_close (h : conn.state ≠ .closed) : Shut net (close net conn).2 := by
  have hOpen : (!conn.state.isClosed) = true := by simp [ConnectionState.isClosed, h]
  obtain ⟨_, hSend⟩ := bind_attempt (conn.setState .closing)
    (fun _ => do
      let _ ← shutdown.attempt
      .modify fun conn => conn.setState .closed) (send_ne_pending net .terminate _)
  obtain ⟨_, hShutdown⟩ := bind_attempt (send .terminate net (conn.setState .closing)).2
    (fun _ => (.modify fun conn => conn.setState .closed : Client Unit))
    (shutdown_ne_pending net _)
  have hClose : (close net conn).2 =
      (shutdown net (send .terminate net (conn.setState .closing)).2).2.setState .closed := by
    simp only [close, bind_apply, get_apply, andThen_ok, doIf_pos hOpen, modify_apply] at *
    rw [hSend, hShutdown]
  rw [hClose]
  exact ⟨rfl, stuck_shutdown net _⟩

end Ends

/-- What is written, whether it has left the buffer or not. -/
def written (conn : Connection) : Nat :=
  conn.transport.history.length + conn.transport.writeBuf.length

theorem written_flushWrite {t : Transport} (h : conn.transport.flushWrite net = .ok t) :
    ({ conn with transport := t } : Connection).written = conn.written := by
  rw [Transport.flushWrite_flushed h]
  simp [written, Transport.flushed_writeBuf, Transport.flushed_history, Nat.add_comm]

theorem closed_written (net : Network) (base : Nat) :
    Closed net (fun conn => base ≤ conn.written) (fun conn => base ≤ conn.written) := by
  have hSame : ∀ conn conn' : Connection, conn'.transport.history = conn.transport.history →
      conn'.transport.writeBuf = conn.transport.writeBuf → base ≤ conn.written →
      base ≤ conn'.written := fun conn conn' hHistory hBuf h => by
    rw [written, hHistory, hBuf]
    exact h
  have hFrame : ∀ conn conn', SameReports conn conn' → base ≤ conn.written →
      base ≤ conn'.written :=
    fun conn conn' h => hSame conn conn' (by rw [h.transport]) (by rw [h.transport])
  have hReady : ∀ (conn conn' : Connection) (rest : List Entry),
      conn'.transport = { conn.transport with inbox := rest } → base ≤ conn.written →
      base ≤ conn'.written :=
    fun conn conn' rest h => hSame conn conn' (by rw [h]) (by rw [h])
  exact {
    alarm := fun _ h => h
    frame := hFrame
    frameAlarmed := hFrame
    push := fun conn frame h => Nat.le_trans h (by simp [written, Transport.push])
    flush := fun conn t hFlush h => by rw [written_flushWrite hFlush]; exact h
    read := fun conn _ rest _ _ h => hSame conn (conn.setInbox rest) rfl rfl h
    readAlarmed := fun conn _ rest _ _ h => hSame conn (conn.setInbox rest) rfl rfl h
    ready := fun conn conn' _ rest _ hTransport _ _ => hReady conn conn' rest hTransport
    skipped := fun conn conn' _ rest _ hTransport _ _ => hReady conn conn' rest hTransport }

/-- At least `count` messages are written if all goes well, and the state stays. -/
def Writes (net : Network) (count : Nat) (x : Client α) : Prop :=
  ∀ conn, (x net conn).2.state = conn.state ∧
    ∀ a, (x net conn).1 = .ok a → conn.written + count ≤ (x net conn).2.written

section Writes

theorem writes_bind {first later : Nat} {x : Client α} {f : α → Client β}
    (hx : Writes net first x) (hf : ∀ a, Writes net later (f a)) :
    Writes net (first + later) (x >>= f) := by
  intro conn
  have hFirst := hx conn
  rw [bind_apply]
  revert hFirst
  match x net conn with
  | (.ok a, conn') =>
      intro hFirst
      obtain ⟨hState, hWritten⟩ := hf a conn'
      refine ⟨hState.trans hFirst.1, fun b hOk => ?_⟩
      have hFirst := hFirst.2 a rfl
      have hLater := hWritten b hOk
      dsimp only at hFirst
      simp only [andThen_ok]
      omega
  | (.err e, conn') => exact fun hFirst => ⟨hFirst.1, nofun⟩
  | (.pending, conn') => exact fun hFirst => ⟨hFirst.1, nofun⟩

theorem Writes.mono {fewer count : Nat} {x : Client α} (h : Writes net count x)
    (hFewer : fewer ≤ count) : Writes net fewer x := fun conn =>
  ⟨(h conn).1, fun a hOk => Nat.le_trans (Nat.add_le_add_left hFewer _) ((h conn).2 a hOk)⟩

theorem writes_pure (a : α) : Writes net 0 (pure a) := fun _ => ⟨rfl, fun _ _ => Nat.le_refl _⟩

theorem writes_lift (result : Except PgError α) : Writes net 0 (.lift result) := by
  intro conn
  cases result with
  | ok a => exact writes_pure a conn
  | error e => exact ⟨rfl, by simp⟩

theorem writes_encodeAndWrite (message : FrontendMessage) :
    Writes net 1 (encodeAndWrite message) := by
  intro conn
  rw [encodeAndWrite_apply]
  cases net.encode message with
  | error e => exact ⟨rfl, by simp⟩
  | ok bytes =>
      have hPush : conn.written + 1 =
          ({ conn with
            transport := conn.transport.push { message, bytes } } : Connection).written := by
        simp [written, Transport.push, Nat.add_assoc]
      simp only [writeAll]
      split
      case isTrue =>
          split
          case h_1 t hFlush =>
              refine ⟨rfl, fun _ _ => ?_⟩
              rw [hPush]
              exact Nat.le_of_eq (@written_flushWrite net
                { conn with transport := conn.transport.push { message, bytes } } t hFlush).symm
          case h_2 => exact ⟨rfl, by simp⟩
      case isFalse => exact ⟨rfl, fun _ _ => Nat.le_of_eq hPush⟩

theorem writes_flush : Writes net 0 flush := by
  intro conn
  simp only [flush]
  split
  case h_1 => exact ⟨rfl, by simp⟩
  case h_2 t hFlush =>
      split
      case h_1 => exact ⟨rfl, by simp⟩
      case h_2 => exact ⟨rfl, fun _ _ => Nat.le_of_eq (written_flushWrite hFlush).symm⟩

theorem writes_send (message : FrontendMessage) : Writes net 1 (send message) :=
  writes_bind (writes_encodeAndWrite message) fun _ => writes_flush

theorem writes_writeBatch (messages : List FrontendMessage) :
    Writes net messages.length (writeBatch messages) := by
  induction messages with
  | nil => exact writes_pure ()
  | cons message messages ih =>
      rw [List.length_cons, Nat.add_comm]
      exact writes_bind (writes_encodeAndWrite message) fun _ => ih

theorem writes_sendBatch {messages : List FrontendMessage} (h : messages ≠ []) :
    Writes net 1 (sendBatch messages) :=
  (writes_bind (writes_writeBatch messages) fun _ => writes_flush).mono
    (List.length_pos_iff.mpr h)

end Writes

/-- The reply of an abandoned stream is skipped, the state set to `Streaming`, and a request
written; then comes the rest. -/
def Restarts (net : Network) (conn : Connection) (x : Client α) : Prop :=
  ∃ (y : Client Unit) (f : Unit → Client α),
    x net conn = (recover >>= fun _ => transition .streaming >>= fun _ => y >>= f) net conn ∧
      Writes net 1 y ∧
      ∀ calm alarmed, Closed net calm alarmed → Tamed net calm alarmed (f ())

section Restarts

theorem Restarts.bind {x : Client α} (h : Restarts net conn x) {f : α → Client β}
    (hf : ∀ calm alarmed, Closed net calm alarmed → ∀ a, Tamed net calm alarmed (f a)) :
    Restarts net conn (x >>= f) := by
  obtain ⟨y, g, hEq, hWrites, hTamed⟩ := h
  refine ⟨y, fun b => g b >>= f, ?_, hWrites, fun calm alarmed hInv =>
    tamed_bind (hTamed _ _ hInv) (hf _ _ hInv)⟩
  rw [bind_apply, hEq, ← bind_apply]
  simp only [bind_assoc]

theorem Restarts.map {x : Client α} (h : Restarts net conn x) (f : α → β) :
    Restarts net conn (x >>= fun a => pure (f a)) :=
  h.bind fun _ _ _ _ => tamed_pure _

theorem restarts_queryStream (sql : String) : Restarts net conn (queryStream sql) :=
  ⟨send (.query sql), fun _ => pure RowStream.newSimple, rfl, writes_send _,
    fun _ _ _ => tamed_pure _⟩

theorem restarts_query (sql : String) : Restarts net conn (query sql) := by
  refine (restarts_queryStream sql).bind fun calm alarmed hInv stream => tamed_scope hInv ?_
  refine owner_bind (owner_drain hInv) fun rows => ?_
  exact owner_bind owner_get fun _ => owner_pure _

theorem restarts_execute (sql : String) : Restarts net conn (execute sql) :=
  (restarts_query sql).map _

theorem restarts_queryEach (sql : String) (f : List Row → Row → Except PgError Unit) :
    Restarts net conn (queryEach sql f) :=
  (restarts_queryStream sql).bind fun _ _ hInv stream => tamed_each hInv f stream

theorem restarts_queryParamsStream (sql : String) (params : List ToSql) :
    Restarts net conn (queryParamsStream sql params) := by
  refine ⟨.lift (encodeParamsText params) >>= fun values =>
    sendBatch (unnamedBatch sql values ++ [.sync]), fun _ => readPreamble, ?_, ?_,
    fun _ _ hInv => tamed_readPreamble hInv⟩
  · simp only [queryParamsStream, bind_assoc]
  · exact writes_bind (writes_lift _) fun _ => writes_sendBatch (by simp)

theorem restarts_queryPreparedStream (stmt : PreparedStatement) (params : List ToSql) :
    Restarts net conn (queryPreparedStream stmt params) := by
  refine ⟨.lift (encodeParamsBinary params stmt.paramTypes) >>= fun values =>
    sendBatch (preparedBatch stmt values ++ [.sync]),
    fun _ => pure (RowStream.newExtendedWithColumns stmt.columns), ?_, ?_,
    fun _ _ _ => tamed_pure _⟩
  · simp only [queryPreparedStream, bind_assoc]
  · exact writes_bind (writes_lift _) fun _ => writes_sendBatch (by simp)

theorem restarts_queryCursor (sql : String) (params : List ToSql) (fetchSize : Int32)
    (hIdle : conn.transactionStatus = .idle) :
    Restarts net conn (queryCursor sql params fetchSize) := by
  have hBegin : Restarts net conn (do
      let _ ← query "BEGIN") := (restarts_query "BEGIN").map _
  obtain ⟨y, f, hEq, hWrites, hTamed⟩ := hBegin.bind (f := fun _ => _) fun calm alarmed hInv _ =>
    tamed_openPortal hInv sql params fetchSize true
  refine ⟨y, f, ?_, hWrites, hTamed⟩
  have hNeed : decide (conn.transactionStatus = .idle) = true := decide_eq_true hIdle
  rw [← hEq, queryCursor, bind_of_ok (get_apply ..), hNeed]
  rfl

theorem restarts_tracked (sql : String) {track : SessionState → SessionState}
    (hTrack : ∀ session, (track session).inTransaction = session.inTransaction) :
    Restarts net conn (tracked sql track) :=
  (restarts_execute sql).bind fun _ _ hInv _ =>
    tamed_modify hInv fun conn => ⟨rfl, rfl, hTrack conn.sessionState⟩

theorem restarts_resetStatements : Restarts net conn resetStatements := by
  have hDiscard : ∀ calm alarmed, Closed net calm alarmed → Tamed net calm alarmed (do
      let _ ← execute "DISCARD ALL") := fun _ _ hInv => tamed_map _ (tamed_execute hInv _)
  by_cases hOpen : conn.transactionStatus = .failed ∨ conn.transactionStatus = .inTransaction
  · obtain ⟨y, f, hEq, hWrites, hTamed⟩ :=
      ((@restarts_execute net conn "ROLLBACK").map fun _ => ()).bind fun _ _ hInv (_ : Unit) =>
        hDiscard _ _ hInv
    refine ⟨y, f, ?_, hWrites, hTamed⟩
    rw [← hEq, resetStatements, bind_of_ok (get_apply ..), doIf_pos hOpen]
  · obtain ⟨y, f, hEq, hWrites, hTamed⟩ := (@restarts_execute net conn "DISCARD ALL").map
      fun _ => ()
    refine ⟨y, f, ?_, hWrites, hTamed⟩
    rw [← hEq, resetStatements, bind_of_ok (get_apply ..), doIf_neg hOpen]
    rfl

theorem restarts_operation {op : Operation} (h : Call.recovers conn (.operation op))
    (hOp : op ≠ .recover) : Restarts net conn op.run := by
  cases op with
  | query sql => exact (restarts_query sql).map _
  | execute sql => exact (restarts_execute sql).map _
  | queryOne sql => exact ((restarts_query sql).map _).map _
  | queryEach sql callback => exact (restarts_queryEach sql _).map _
  | ping => exact (restarts_query _).map _
  | recover => exact absurd rfl hOp
  | _ => cases h

theorem restarts_opening {opening : Opening} (h : Call.recovers conn (.opening opening)) :
    Restarts net conn opening.run := by
  cases opening with
  | queryStream sql => exact (restarts_queryStream sql).map _
  | queryParamsStream sql params => exact (restarts_queryParamsStream sql params).map _
  | queryPreparedStream stmt params => exact (restarts_queryPreparedStream stmt params).map _
  | queryCursor sql params fetchSize =>
      exact (restarts_queryCursor sql params fetchSize (of_decide_eq_true h)).map _
  | queryCursorStream sql params fetchSize =>
      exact ((restarts_queryCursor sql params fetchSize (of_decide_eq_true h)).map _).map _
  | _ => cases h

end Restarts

/-- The rest of an abandoned stream's reply can be skipped. -/
def Skippable (conn : Connection) : Prop :=
  conn.needsRecovery ∧ ∃ status rest, skipReply conn.transport.inbox = .failed status rest

/-- An error, or a wait, and nothing is written. -/
def Refused (net : Network) (conn : Connection) (x : Client α) : Prop :=
  (∀ a, (x net conn).1 ≠ .ok a) ∧ StillShut conn (x net conn).2

/-- The state is no longer `Closed`, or something is written. -/
def Stirred (conn conn' : Connection) : Prop :=
  conn'.state ≠ .closed ∨ conn.written < conn'.written

theorem Stirred.not_stillShut (h : Stirred conn conn') : ¬ StillShut conn conn' := by
  intro hStill
  cases h with
  | inl hState => exact hState hStill.state
  | inr hWritten =>
      rw [written, written, hStill.history, hStill.writeBuf] at hWritten
      exact Nat.lt_irrefl _ hWritten

theorem Refused.bind {x : Client α} (h : Refused net conn x) (f : α → Client β) :
    Refused net conn (x >>= f) := by
  obtain ⟨hFails, hStill⟩ := h
  simp only [Refused, bind_apply]
  revert hFails hStill
  match x net conn with
  | (.ok a, conn') => exact fun hFails => absurd rfl (hFails a)
  | (.err e, conn') => exact fun _ hStill => ⟨by simp, hStill⟩
  | (.pending, conn') => exact fun _ hStill => ⟨by simp, hStill⟩

theorem refused_transition (hClosed : conn.state = .closed) {state : ConnectionState}
    (hState : state ≠ .closed) : Refused net conn (transition state) := by
  have hPermits : conn.state.permits state = false := by
    rw [hClosed]
    cases state <;> first | rfl | exact absurd rfl hState
  simp only [Refused, transition, hPermits, Bool.false_eq_true, if_false]
  exact ⟨by simp, stillShut_self hClosed⟩

/-- Skipping what cannot be skipped leaves the state, and does not succeed where it is due. -/
theorem refused_recover (hClosed : conn.state = .closed) (hFlag : conn.needsRecovery)
    (hShort : ¬ Skippable conn) : Refused net conn recover := by
  have hStill : ∀ {conn' : Connection} {rest : List Entry}, conn'.core = conn.core.read rest →
      StillShut conn conn' := by
    intro conn' rest hCore
    have hTransport : conn'.transport = { conn.transport with inbox := rest } :=
      congrArg Core.transport hCore
    exact ⟨(congrArg Core.state hCore).trans hClosed, by rw [hTransport], by rw [hTransport]⟩
  have hRecover := recover_core net hFlag
  cases hSkip : skipReply conn.transport.inbox with
  | complete status rest =>
      rw [hSkip] at hRecover
      exact hRecover.elim
  | failed status rest => exact absurd ⟨hFlag, status, rest, hSkip⟩ hShort
  | broken rest =>
      rw [hSkip] at hRecover
      obtain ⟨e, conn', hRun, hCore⟩ := hRecover
      simp only [Refused, hRun]
      exact ⟨by simp, hStill hCore⟩
  | short =>
      rw [hSkip] at hRecover
      obtain ⟨outcome, conn', hRun, hFails, hCore⟩ := hRecover
      simp only [Refused, hRun]
      exact ⟨hFails, hStill hCore⟩

theorem recover_done (hFlag : conn.needsRecovery = false) : recover net conn = (.ok (), conn) := by
  simp [recover, bind_apply, hFlag]

theorem refused_restarts {x : Client α} (h : Restarts net conn x) (hClosed : conn.state = .closed)
    (hShort : ¬ Skippable conn) : Refused net conn x := by
  obtain ⟨y, f, hEq, -⟩ := h
  simp only [Refused, hEq]
  cases hFlag : conn.needsRecovery with
  | true => exact (refused_recover hClosed hFlag hShort).bind _
  | false =>
      rw [bind_of_ok (recover_done hFlag)]
      exact (refused_transition hClosed (by simp)).bind _

theorem stirred_restarts {x : Client α} (h : Restarts net conn x) (hSkip : Skippable conn)
    (hReturned : (x net conn).1 ≠ .pending) : Stirred conn (x net conn).2 := by
  obtain ⟨y, f, hEq, hWrites, hTamed⟩ := h
  obtain ⟨hFlag, status, rest, hReply⟩ := hSkip
  have hRecover := recover_core net hFlag
  rw [hReply] at hRecover
  obtain ⟨conn₁, hRun, hCore⟩ := hRecover
  have hIdle : conn₁.state = .idle := congrArg Core.state hCore
  have hTransport : conn₁.transport = { conn.transport with inbox := rest } :=
    congrArg Core.transport hCore
  have hBefore : (conn₁.setState .streaming).written = conn.written := by
    show conn₁.transport.history.length + conn₁.transport.writeBuf.length = _
    rw [hTransport]
    rfl
  have hTransition : transition .streaming net conn₁ = (.ok (), conn₁.setState .streaming) := by
    simp [transition, hIdle, ConnectionState.permits]
  rw [bind_of_ok hRun, bind_of_ok hTransition] at hEq
  have hRequest := hWrites (conn₁.setState .streaming)
  rw [hEq] at hReturned ⊢
  rw [bind_apply] at hReturned ⊢
  revert hRequest hReturned
  cases y net (conn₁.setState .streaming) with
  | mk outcome conn₂ =>
      cases outcome with
      | ok _ =>
          intro hReturned hRequest
          have hWritten := hRequest.2 () rfl
          have hRest := hTamed _ _ (closed_written net (conn.written + 1)) conn₂
            (by rw [hBefore] at hWritten; exact hWritten)
          revert hReturned hRest
          simp only [andThen_ok]
          cases f () net conn₂ with
          | mk outcome conn₃ =>
              cases outcome with
              | ok _ => exact fun _ hRest => .inr hRest
              | err _ => exact fun _ hRest => .inr hRest
              | pending => exact fun hReturned => absurd rfl hReturned
      | err e =>
          intro _ hRequest
          refine .inl fun hClosed => ?_
          cases hRequest.1.symm.trans hClosed
      | pending => exact fun hReturned => absurd rfl hReturned

/-- The calls that go to the state machine before anything else. -/
def Checks (net : Network) (conn : Connection) (x : Client α) : Prop :=
  ∃ (state : ConnectionState) (k : Client α), state ≠ .closed ∧
    x net conn = (transition state >>= fun _ => k) net conn

section Checks

theorem Checks.bind {x : Client α} (h : Checks net conn x) (f : α → Client β) :
    Checks net conn (x >>= f) := by
  obtain ⟨state, k, hState, hEq⟩ := h
  refine ⟨state, k >>= f, hState, ?_⟩
  rw [bind_apply, hEq, ← bind_apply, bind_assoc]

theorem checks_transition {state : ConnectionState} (h : state ≠ .closed) :
    Checks net conn (transition state) :=
  ⟨state, pure (), h, (congrFun (congrFun (bind_pure _) net) conn).symm⟩

theorem Checks.congr {x x' : Client α} (hEq : x net conn = x' net conn)
    (h : Checks net conn x') : Checks net conn x := by
  obtain ⟨state, k, hState, hEq'⟩ := h
  exact ⟨state, k, hState, hEq.trans hEq'⟩

theorem refused_checks {x : Client α} (h : Checks net conn x) (hClosed : conn.state = .closed) :
    Refused net conn x := by
  obtain ⟨state, k, hState, hEq⟩ := h
  simp only [Refused, hEq]
  exact (refused_transition hClosed hState).bind _

theorem checks_operation {op : Operation} (h : Call.recovers conn (.operation op) = false) :
    Checks net conn op.run := by
  have hActive : Checks net conn (transition .activeExtendedQuery) := checks_transition (by simp)
  have hSimple : Checks net conn (transition .activeSimpleQuery) := checks_transition (by simp)
  cases op with
  | query | execute | queryOne | queryEach | ping | recover => cases h
  | batchExecute sql => exact (hSimple.bind _).bind _
  | queryParams sql params => exact (hActive.bind _).bind _
  | executeParams sql params => exact ((hActive.bind _).bind _).bind _
  | queryPrepared stmt params => exact (hActive.bind _).bind _
  | executePrepared stmt params => exact ((hActive.bind _).bind _).bind _
  | prepare sql => exact (hActive.bind _).bind _
  | closeStatement stmt => exact hActive.bind _
  | pipeline queued => exact (hActive.bind _).bind _

theorem checks_queryCursor (sql : String) (params : List ToSql) (fetchSize : Int32)
    (h : conn.transactionStatus ≠ .idle) : Checks net conn (queryCursor sql params fetchSize) := by
  have hNeed : decide (conn.transactionStatus = .idle) = false := decide_eq_false h
  have hActive : Checks net conn (transition .activeExtendedQuery) := checks_transition (by simp)
  refine Checks.congr ?_ (hActive.bind ?f)
  rw [queryCursor, bind_of_ok (get_apply ..), hNeed]
  rfl

theorem checks_opening {opening : Opening} (h : Call.recovers conn (.opening opening) = false) :
    Checks net conn opening.run := by
  cases opening with
  | queryStream | queryParamsStream | queryPreparedStream => cases h
  | queryCursor sql params fetchSize =>
      exact (checks_queryCursor sql params fetchSize (of_decide_eq_false h)).bind _
  | queryCursorStream sql params fetchSize =>
      exact ((checks_queryCursor sql params fetchSize (of_decide_eq_false h)).bind _).bind _
  | copyIn sql => exact (((checks_transition (by simp)).bind _).bind _).bind _
  | copyOut sql => exact (((checks_transition (by simp)).bind _).bind _).bind _

end Checks

end Connection

namespace Action

/-- The actions that skip the reply of an abandoned stream before anything else. -/
def recovers (conn : Connection) : Action → Bool
  | .call request => request.recovers conn
  | .listen _ | .unlisten _ | .unlistenAll | .setParam _ _ | .reset => true
  | _ => false

def isReconnect : Action → Bool
  | .reconnect _ _ _ => true
  | _ => false

end Action

namespace World

/-- The action skips a reply and finds its end, with which the connection is idle again. -/
def Revives (w : World) (action : Action) : Prop :=
  action.recovers w.conn ∧ Skippable w.conn

/-- A world whose connection is free and closed. -/
structure IsShut (w : World) : Prop where
  free : w.session.handle = .none
  shut : Shut w.net w.conn

variable {w w' w'' : World} {action : Action} {outcome : Outcome PgError Unit}

/-- What an action on a closed connection comes to. -/
def Absorbed (w w' : World) : Prop :=
  w'.net = w.net ∧ w'.session.handle = .none ∧ StillShut w.conn w'.conn

theorem onFree_of_free {x : Client Unit} (h : w.session.handle = .none)
    (hRun : w.onFree x = some (outcome, w')) :
    outcome = (x w.net w.conn).1 ∧ w' = { w with session := ⟨.none, (x w.net w.conn).2⟩ } := by
  simp only [onFree, h] at hRun
  cases hRun
  exact ⟨rfl, rfl⟩

theorem absorbed_onFree {x : Client Unit} (h : w.IsShut)
    (hRun : w.onFree x = some (outcome, w')) (hStill : StillShut w.conn (x w.net w.conn).2) :
    w.Absorbed w' := by
  obtain ⟨-, rfl⟩ := onFree_of_free h.free hRun
  exact ⟨rfl, rfl, hStill⟩

theorem stirred_onFree {x : Client Unit} (h : w.session.handle = .none)
    (hRun : w.onFree x = some (outcome, w')) (hStirred : Stirred w.conn (x w.net w.conn).2) :
    Stirred w.conn w'.conn := by
  obtain ⟨-, rfl⟩ := onFree_of_free h hRun
  exact hStirred

theorem conn_reset (net : Network) (conn : Connection) :
    (Connection.reset net conn).2.transport = (resetStatements net conn).2.transport ∧
      (Connection.reset net conn).2.state = (resetStatements net conn).2.state ∧
      ((Connection.reset net conn).1 ≠ .pending → (resetStatements net conn).1 ≠ .pending) := by
  rw [reset_eq, bind_apply]
  cases resetStatements net conn with
  | mk outcome conn' =>
      cases outcome with
      | ok _ => exact ⟨rfl, rfl, by simp⟩
      | err _ => exact ⟨rfl, rfl, by simp⟩
      | pending => exact ⟨rfl, rfl, id⟩

/-- A call, and what it comes to where the connection is free. -/
theorem call_of_free {request : Call} (h : w.session.handle = .none)
    (hRun : (Action.call request).run w = some (outcome, w')) :
    w'.net = w.net ∧
      ((∃ op, request = .operation op ∧ outcome = (op.run w.net w.conn).1 ∧
          w'.session = ⟨.none, (op.run w.net w.conn).2⟩) ∨
        (∃ opening, request = .opening opening ∧ w'.conn = (opening.run w.net w.conn).2 ∧
          (outcome = .pending ↔ (opening.run w.net w.conn).1 = .pending) ∧
          ((∀ handle, (opening.run w.net w.conn).1 ≠ .ok handle) →
            w'.session.handle = .none)) ∨
        request = .handle .release ∧ w'.session = w.session) := by
  simp only [Action.run] at hRun
  split at hRun
  case h_2 => cases hRun
  case h_1 result session hStep =>
      cases hRun
      refine ⟨rfl, ?_⟩
      cases request with
      | operation op =>
          simp only [Session.step, h] at hStep
          cases hStep
          exact .inl ⟨op, rfl, rfl, rfl⟩
      | opening opening =>
          right
          left
          refine ⟨opening, rfl, ?_⟩
          simp only [Session.step, h] at hStep
          revert hStep
          simp only [conn]
          cases opening.run w.net w.session.conn with
          | mk outcome conn' =>
              cases outcome with
              | ok handle =>
                  intro hStep
                  cases hStep
                  exact ⟨rfl, by simp, fun hNone => absurd rfl (hNone handle)⟩
              | err e =>
                  intro hStep
                  cases hStep
                  exact ⟨rfl, by simp, fun _ => rfl⟩
              | pending =>
                  intro hStep
                  cases hStep
                  exact ⟨rfl, by simp, fun _ => rfl⟩
      | handle call =>
          simp only [Session.step, h] at hStep
          cases call with
          | release =>
              cases hStep
              refine .inr (.inr ⟨rfl, ?_⟩)
              obtain ⟨net, ⟨handle, conn⟩⟩ := w
              cases h
              rfl
          | _ => cases hStep

theorem stillShut_operation {net : Network} {conn : Connection} {op : Operation}
    (hClosed : conn.state = .closed)
    (hShort : Call.recovers conn (.operation op) → ¬ Skippable conn) :
    StillShut conn (op.run net conn).2 := by
  cases hRecovers : Call.recovers conn (.operation op) with
  | false => exact (refused_checks (checks_operation hRecovers) hClosed).2
  | true =>
      by_cases hOp : op = .recover
      · subst hOp
        cases hFlag : conn.needsRecovery with
        | true => exact (refused_recover hClosed hFlag (hShort hRecovers)).2
        | false =>
            rw [show (Operation.run .recover net conn).2 = conn from
              congrArg Prod.snd (recover_done hFlag)]
            exact stillShut_self hClosed
      · exact (refused_restarts (restarts_operation hRecovers hOp) hClosed (hShort hRecovers)).2

theorem absorbed_call {request : Call} (h : w.IsShut)
    (hRun : (Action.call request).run w = some (outcome, w'))
    (hShort : ¬ w.Revives (.call request)) : w.Absorbed w' := by
  obtain ⟨hNet, hCall⟩ := call_of_free h.free hRun
  rcases hCall with ⟨op, rfl, -, hSession⟩ | ⟨opening, rfl, hConn, -, hFree⟩ | ⟨rfl, hSession⟩
  · refine ⟨hNet, by rw [hSession], ?_⟩
    rw [show w'.conn = (op.run w.net w.conn).2 from congrArg Session.conn hSession]
    exact stillShut_operation h.shut.state fun hRecovers hSkip => hShort ⟨hRecovers, hSkip⟩
  · have hRefused : Refused w.net w.conn opening.run := by
      cases hRecovers : Call.recovers w.conn (.opening opening) with
      | true =>
          exact refused_restarts (restarts_opening hRecovers) h.shut.state fun hSkip =>
            hShort ⟨hRecovers, hSkip⟩
      | false => exact refused_checks (checks_opening hRecovers) h.shut.state
    exact ⟨hNet, hFree hRefused.1, hConn ▸ hRefused.2⟩
  · refine ⟨hNet, hSession ▸ h.free, ?_⟩
    rw [show w'.conn = w.conn from congrArg Session.conn hSession]
    exact stillShut_self h.shut.state

theorem stirred_call {request : Call} (h : w.IsShut)
    (hRun : (Action.call request).run w = some (outcome, w')) (hReturned : outcome ≠ .pending)
    (hRevives : w.Revives (.call request)) : Stirred w.conn w'.conn := by
  obtain ⟨hRecovers, hSkip⟩ := hRevives
  obtain ⟨hNet, hCall⟩ := call_of_free h.free hRun
  rcases hCall with ⟨op, rfl, hOutcome, hSession⟩ | ⟨opening, rfl, hConn, hPending, -⟩ | ⟨rfl, -⟩
  · rw [show w'.conn = (op.run w.net w.conn).2 from congrArg Session.conn hSession]
    by_cases hOp : op = .recover
    · subst hOp
      obtain ⟨hFlag, status, rest, hReply⟩ := hSkip
      have hRecover := @recover_core w.conn w.net hFlag
      rw [hReply] at hRecover
      obtain ⟨conn', hRun', hCore⟩ := hRecover
      left
      rw [show (Operation.run .recover w.net w.conn).2 = conn' from congrArg Prod.snd hRun',
        show conn'.state = .idle from congrArg Core.state hCore]
      simp
    · exact stirred_restarts (restarts_operation hRecovers hOp) hSkip (hOutcome ▸ hReturned)
  · rw [hConn]
    exact stirred_restarts (restarts_opening hRecovers) hSkip fun hWaits =>
      hReturned (hPending.mpr hWaits)
  · cases hRecovers

/-- What an action comes to, and when it comes to nothing. -/
def AbsorbedUnless (w w' : World) (revives : Prop) : Prop :=
  (¬ revives → w.Absorbed w') ∧ (StillShut w.conn w'.conn → ¬ revives)

theorem absorbedUnless_restarts {x : Client Unit} (h : w.IsShut) (hx : Restarts w.net w.conn x)
    (hRun : w.onFree x = some (outcome, w')) (hReturned : outcome ≠ .pending) :
    w.AbsorbedUnless w' (Skippable w.conn) := by
  refine ⟨fun hShort => absorbed_onFree h hRun (refused_restarts hx h.shut.state hShort).2,
    fun hStill hSkip => ?_⟩
  refine (stirred_onFree h.free hRun (stirred_restarts hx hSkip ?_)).not_stillShut hStill
  exact (onFree_of_free h.free hRun).1 ▸ hReturned

theorem absorbedUnless_reset (h : w.IsShut)
    (hRun : w.onFree Connection.reset = some (outcome, w')) (hReturned : outcome ≠ .pending) :
    w.AbsorbedUnless w' (Skippable w.conn) := by
  obtain ⟨hTransport, hState, hPending⟩ := conn_reset w.net w.conn
  obtain ⟨rfl, rfl⟩ := onFree_of_free h.free hRun
  constructor
  · intro hShort
    have hStill := (refused_restarts (@restarts_resetStatements w.net w.conn) h.shut.state hShort).2
    refine ⟨rfl, rfl, hState.trans hStill.state, ?_, ?_⟩
    · exact (congrArg Transport.history hTransport).trans hStill.history
    · exact (congrArg Transport.writeBuf hTransport).trans hStill.writeBuf
  · intro hStill hSkip
    have hStirred := stirred_restarts restarts_resetStatements hSkip (hPending hReturned)
    refine hStirred.not_stillShut ⟨hState ▸ hStill.state, ?_, ?_⟩
    · rw [← hTransport]
      exact hStill.history
    · rw [← hTransport]
      exact hStill.writeBuf

theorem stillShut_waitForNotification {net : Network} {conn : Connection} (timeout : Option Nat)
    (h : conn.state = .closed) : StillShut conn (waitForNotification timeout net conn).2 := by
  have hBlocking : readNextNotificationBlocking net conn =
      (.err (.invalidState "connection must be idle while waiting for notifications"), conn) := by
    simp [readNextNotificationBlocking, bind_apply, isIdle, ConnectionState.isIdle, h]
  cases hQueue : conn.notificationQueue with
  | cons notification queue =>
      simp only [waitForNotification, bind_apply, get_apply, andThen_ok, hQueue]
      exact ⟨h, rfl, rfl⟩
  | nil =>
      have hSame : (waitForNotification timeout net conn).2 = conn := by
        simp only [waitForNotification, bind_apply, get_apply, andThen_ok, hQueue]
        cases timeout with
        | none => simp only [bind_apply, hBlocking, andThen]
        | some timeout =>
            cases timeout with
            | zero => rfl
            | succ _ => simp only [beforeDeadline, hBlocking]
      rw [hSame]
      exact stillShut_self h

/-- Of what is done with a closed connection, besides a reconnect, exactly the calls that
skip a reply to its end have an effect. -/
theorem absorbedUnless_revives (h : w.IsShut) (hRun : action.run w = some (outcome, w'))
    (hReturned : outcome ≠ .pending) (hReconnect : action.isReconnect = false) :
    w.AbsorbedUnless w' (w.Revives action) := by
  have hInert {x : Client Unit} (hNever : action.recovers w.conn = false)
      (hFree : w.onFree x = some (outcome, w')) (hStill : StillShut w.conn (x w.net w.conn).2) :
      w.AbsorbedUnless w' (w.Revives action) :=
    ⟨fun _ => absorbed_onFree h hFree hStill,
      fun _ hRevives => Bool.false_ne_true (hNever.symm.trans hRevives.1)⟩
  have hSkips (hAlways : action.recovers w.conn) : w.Revives action ↔ Skippable w.conn :=
    ⟨And.right, And.intro hAlways⟩
  cases action with
  | call request =>
      exact ⟨absorbed_call h hRun, fun hStill hRevives =>
        (stirred_call h hRun hReturned hRevives).not_stillShut hStill⟩
  | listen channel =>
      rw [hSkips rfl]
      exact absorbedUnless_restarts (x := listen channel) h (restarts_tracked _ fun _ => rfl) hRun
        hReturned
  | unlisten channel =>
      rw [hSkips rfl]
      exact absorbedUnless_restarts (x := unlisten channel) h (restarts_tracked _ fun _ => rfl) hRun
        hReturned
  | unlistenAll =>
      rw [hSkips rfl]
      exact absorbedUnless_restarts (x := unlistenAll) h (restarts_tracked _ fun _ => rfl) hRun
        hReturned
  | setParam key value =>
      rw [hSkips rfl]
      exact absorbedUnless_restarts (x := setParam key value) h
        (restarts_tracked _ fun _ => rfl) hRun
        hReturned
  | reset =>
      rw [hSkips rfl]
      exact absorbedUnless_reset h hRun hReturned
  | setReconnectInitSql sql | retryReturned => exact hInert rfl hRun ⟨h.shut.state, rfl, rfl⟩
  | waitForNotification timeout =>
      refine hInert rfl hRun ?_
      have hStill := @stillShut_waitForNotification w.net w.conn timeout h.shut.state
      rw [bind_apply]
      revert hStill
      match waitForNotification timeout w.net w.conn with
      | (.ok _, _) => exact id
      | (.err _, _) => exact id
      | (.pending, _) => exact id
  | close =>
      refine hInert rfl hRun ?_
      rw [close_of_closed h.shut.state]
      exact stillShut_self h.shut.state
  | abort => exact hInert rfl hRun (stillShut_abort h.shut)
  | reconnect => cases hReconnect

/-- What puts a connection into the state that it is to stay in. -/
def Shuts (w : World) (action : Action) : Prop :=
  action = .abort ∨ action = .close ∧ w.conn.state ≠ .closed

theorem onFree_isSome {x : Client Unit} (hRun : w.onFree x = some (outcome, w')) :
    w.session.handle = .none := by
  simp only [onFree] at hRun
  split at hRun
  case h_1 hFree => exact hFree
  case h_2 => cases hRun

theorem isShut_of_shuts (hRun : action.run w = some (outcome, w')) (hShuts : w.Shuts action) :
    w'.IsShut := by
  rcases hShuts with rfl | ⟨rfl, hOpen⟩
  · obtain ⟨-, rfl⟩ := onFree_of_free (onFree_isSome hRun) hRun
    exact ⟨rfl, shut_abort w.net w.conn⟩
  · obtain ⟨-, rfl⟩ := onFree_of_free (onFree_isSome hRun) hRun
    exact ⟨rfl, shut_close hOpen⟩

theorem IsShut.absorbed (h : w.IsShut) (hAbsorbed : w.Absorbed w') : w'.IsShut := by
  obtain ⟨hNet, hFree, hStill⟩ := hAbsorbed
  exact ⟨hFree, hNet ▸ h.shut.still hStill⟩

/-- Neither a reconnect nor a call that skips a reply to its end. -/
def Inert (w : World) (action : Action) : Prop :=
  action.isReconnect = false ∧ ¬ w.Revives action

theorem absorbed_of_reaches (h : w.IsShut)
    (hReach : Reaches (fun w action _ _ => w.Inert action) w w') :
    w'.IsShut ∧ StillShut w.conn w'.conn := by
  induction hReach with
  | start => exact ⟨h, stillShut_self h.shut.state⟩
  | step _ hRun hReturned hInert ih =>
      obtain ⟨hShut, hStill⟩ := ih
      have hAbsorbed := (absorbedUnless_revives hShut hRun hReturned hInert.1).1 hInert.2
      exact ⟨hShut.absorbed hAbsorbed, hStill.trans hAbsorbed.2.2⟩

/-- After `close` or `abort` the state stays `Closed` and nothing is written, up to the first
reconnect or call that skips an abandoned reply to its end; and such a call does change it. -/
theorem closed_absorbing_iff (hEnds : action.run w = some (outcome, w'))
    (hShuts : w.Shuts action) (hReach : Reaches (fun w action _ _ => w.Inert action) w' w'') :
    StillShut w'.conn w''.conn ∧
      ∀ next outcome w₁, next.run w'' = some (outcome, w₁) → outcome ≠ .pending →
        next.isReconnect = false → (StillShut w''.conn w₁.conn ↔ ¬ w''.Revives next) := by
  obtain ⟨hShut, hStill⟩ := absorbed_of_reaches (isShut_of_shuts hEnds hShuts) hReach
  refine ⟨hStill, fun next outcome w₁ hRun hReturned hReconnect => ?_⟩
  obtain ⟨hAbsorbed, hNot⟩ := absorbedUnless_revives hShut hRun hReturned hReconnect
  exact ⟨hNot, fun hShort => (hAbsorbed hShort).2.2⟩

/-- The world after some actions, each of which returns. -/
def replay (w : World) : List Action → Option World
  | [] => some w
  | action :: actions =>
      match action.run w with
      | none | some (.pending, _) => none
      | some (_, w') => w'.replay actions

theorem reaches_of_replay {allowed : World → Action → Outcome PgError Unit → World → Prop}
    {actions : List Action} (h : w.replay actions = some w')
    (hAllowed : ∀ w, ∀ action ∈ actions, ∀ outcome w', allowed w action outcome w')
    {start : World} (hStart : Reaches allowed start w) : Reaches allowed start w' := by
  induction actions generalizing w with
  | nil =>
      cases h
      exact hStart
  | cons action actions ih =>
      simp only [replay] at h
      split at h
      case h_1 => cases h
      case h_2 => cases h
      case h_3 outcome w₁ hPending hRun =>
          refine ih h (fun w action hMem => hAllowed w action (List.mem_cons_of_mem _ hMem))
            (.step hStart hRun ?_ (hAllowed w action List.mem_cons_self _ _))
          rintro rfl
          exact hPending rfl

/-- A new connection that is closed at once, and a query on it. -/
def closedNew : World :=
  ((connected ReplyTable.oneRow.network {}).replay [.close]).get (by decide)

def queriedClosed : World :=
  (closedNew.replay [.call (.operation (.query "SELECT 1"))]).get (by decide)

theorem closed_absorbing_queriedClosed :
    StillShut closedNew.conn queriedClosed.conn ∧
      ∀ next outcome w₁, next.run queriedClosed = some (outcome, w₁) → outcome ≠ .pending →
        next.isReconnect = false →
        (StillShut queriedClosed.conn w₁.conn ↔ ¬ queriedClosed.Revives next) := by
  have hClose : Action.close.run (connected ReplyTable.oneRow.network {}) =
      some (.ok (), closedNew) := rfl
  have hQuery : (Action.call (.operation (.query "SELECT 1"))).run closedNew =
      some (((Operation.query "SELECT 1").run closedNew.net closedNew.conn).1, queriedClosed) := rfl
  refine closed_absorbing_iff hClose (.inr ⟨rfl, by decide⟩)
    (.step .start hQuery (by decide) ⟨rfl, ?_⟩)
  exact fun hRevives => absurd hRevives.2.1 (by decide)

/-- A stream is dropped before its rows are read. -/
def dropped : World :=
  ((connected ReplyTable.oneRow.network {}).replay
    [.call (.opening (.queryStream "SELECT 1")), .call (.handle .release)]).get (by decide)

def closedDropped : World := (dropped.replay [.close]).get (by decide)

def recoveredClosed : World :=
  (closedDropped.replay [.call (.operation .recover)]).get (by decide)

/-- The flag of the dropped stream survives `close`, and `recover` makes the connection idle. -/
theorem not_closed_absorbing :
    ¬ ∀ net, Nonempty (Server net) → ∀ serverParams w w' w'' outcome,
      Reaches (fun _ _ _ _ => True) (connected net serverParams) w →
      Action.close.run w = some (outcome, w') → w.conn.state ≠ .closed →
      Reaches (fun _ action _ _ => action.isReconnect = false) w' w'' →
      StillShut w'.conn w''.conn := by
  intro hAll
  have hDropped : Reaches (fun _ _ _ _ => True) (connected ReplyTable.oneRow.network {}) dropped :=
    reaches_of_replay (Option.some_get _).symm (fun _ _ _ _ _ => trivial) .start
  have hRecovered : Reaches (fun _ action _ _ => action.isReconnect = false) closedDropped
      recoveredClosed := by
    refine reaches_of_replay (Option.some_get _).symm (fun _ action hMem _ _ => ?_) .start
    rw [List.mem_singleton.mp hMem]
    rfl
  have hClose : Action.close.run dropped = some (.ok (), closedDropped) := rfl
  have hStill := hAll _ ⟨ReplyTable.oneRow.server⟩ {} _ _ _ _ hDropped hClose (by decide) hRecovered
  exact absurd hStill.state (by decide)

end World
end PgClient
