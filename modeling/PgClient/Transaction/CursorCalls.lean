import PgClient.ServerErrors.Surfacing
import PgClient.Transaction.Statements

/-!
The calls of a cursor that has begun a transaction: how it is opened, when a fetch brings
rows, and what closing it and consuming it leave of the transaction.
-/

namespace PgClient

open Drive Async Connection

namespace Connection

section Loops

variable {L β : Type} {net : Network} {reply : List BackendMessage}
  {body : L × Connection → BackendMessage → Step (L × Connection) (Except PgError β)}

/-- A loop that returns has left at a message of the reply. -/
theorem Detached.drive_of_ok (h : Detached body) {s s' : L × Connection} {b : β}
    (hReply : Interleaves s.2.transport.inbox reply)
    (hLoop : messageLoop body net s = (.ok b, s')) :
    ∃ rest, Drive.drive (localStep body) s.1 reply = .done (.ok b) s'.1 rest := by
  obtain ⟨l, conn⟩ := s
  have hDrive := h.drive hReply l conn
  cases hLocal : Drive.drive (localStep body) l reply with
  | waiting l' =>
      rw [hLocal] at hDrive
      obtain ⟨conn', hDrive⟩ := hDrive
      simp only [messageLoop, hDrive] at hLoop
      cases hEnding : conn.transport.ending with
      | none => simp [hEnding] at hLoop
      | some e => simp [hEnding] at hLoop
  | done result l' rest =>
      rw [hLocal] at hDrive
      obtain ⟨conn', rest', -, hDrive⟩ := hDrive
      simp only [messageLoop, hDrive] at hLoop
      cases result with
      | ok b' =>
          cases hLoop
          exact ⟨rest, rfl⟩
      | error e => cases hLoop

end Loops

section Opening

variable {net : Network} {conn : Connection} {sql : String} {params : List ToSql}
  {fetchSize : Int32}

theorem detached_cursorOpen : Detached cursorOpenBody := by
  apply detached_asyncFirst
  intro columns conn message
  cases message with
  | rowDescription fields => cases fields <;> rfl
  | _ => rfl

theorem drive_open_inner {inner : List BackendMessage}
    (hInner : ∀ message ∈ inner, message.isInner) (status : UInt8)
    (columns : Option (List FieldDescription)) :
    ∃ columns', drive (localStep cursorOpenBody) columns (inner ++ [.readyForQuery status]) =
      .done (.ok .ready) columns' [] := by
  have hSteps : ∀ message ∈ inner, ∀ columns, ∃ columns',
      localStep cursorOpenBody columns message = .next columns' := by
    intro message hMem columns
    have hThis := hInner message hMem
    cases message with
    | readyForQuery | errorResponse | parameterStatus | noticeResponse
    | notificationResponse => cases hThis
    | rowDescription fields =>
        cases fields with
        | ok columns => exact ⟨_, rfl⟩
        | error e => cases hThis
    | _ => exact ⟨_, rfl⟩
  obtain ⟨columns', hDrive⟩ := drive_takes _ hSteps columns
  exact ⟨columns', drive_append_waiting _ hDrive _⟩

/-- The portal that the next cursor opens. -/
def nextPortal (conn : Connection) : String :=
  "__pg_portal_" ++ toString conn.statementCounter.toNat

theorem openPortal_answered (owns : Bool) (hIdle : conn.state = .idle)
    {values : List (Option Bytes)} (hValues : encodeParamsText params = .ok values)
    {inner : List BackendMessage} (hInner : ∀ message ∈ inner, message.isInner) {status : UInt8}
    (h : Answers net (openBatch sql conn.nextPortal values ++ [.sync]) conn.transport
      (inner ++ [.readyForQuery status])) :
    ∃ cursor conn', openPortal sql params fetchSize owns net conn = (.ok cursor, conn') := by
  obtain ⟨columns, hDrive⟩ := drive_open_inner hInner status none
  have hSend := @Answers.sends net _ { conn with statementCounter := conn.statementCounter + 1 }
    _ h
  have hUnread : Interleaves (requested net (openBatch sql conn.nextPortal values ++ [.sync])
      { conn with statementCounter := conn.statementCounter + 1 }).transport.inbox
      (inner ++ [.readyForQuery status]) := h.unread
  obtain ⟨conn', hLoop, -, -⟩ :=
    messageLoop_whole detached_cursorOpen orderly_cursorOpen net hUnread hDrive
  refine ⟨⟨conn.nextPortal, columns.getD [], fetchSize, false, owns⟩, conn', ?_⟩
  rw [openPortal, bind_of_ok (transition_of_idle hIdle rfl), hValues,
    bind_of_ok (lift_ok_apply ..), bind_of_ok (get_apply ..), bind_of_ok (modify_apply ..)]
  refine (bind_of_ok hSend).trans ?_
  rw [withLocal_apply, bind_of_ok hLoop]
  rfl

/-- `BEGIN` does not go out: a reply that is to be skipped cannot be, or the connection is
not idle. -/
def Unsent (net : Network) (conn : Connection) : Prop :=
  ∀ conn₁, recover net conn = (.ok (), conn₁) → conn₁.state ≠ .idle

theorem query_unsent (h : conn.Unsent net) :
    (∀ result, (query sql net conn).1 ≠ .ok result) ∧
      (query sql net conn).2.transactionStatus = conn.transactionStatus ∧
      (query sql net conn).2.transport.history = conn.transport.history := by
  have hFails : ∀ outcome conn₁, recover net conn = (outcome, conn₁) → (∀ a, outcome ≠ .ok a) →
      (∀ result, (query sql net conn).1 ≠ .ok result) ∧ (query sql net conn).2 = conn₁ := by
    intro outcome conn₁ hRecover hOutcome
    simp only [query, queryStream, bind_apply, hRecover]
    cases outcome with
    | ok a => exact absurd rfl (hOutcome a)
    | err e => exact ⟨by simp, rfl⟩
    | pending => exact ⟨by simp, rfl⟩
  cases hFlag : conn.needsRecovery with
  | false =>
      have hRecover := recover_unneeded net hFlag
      have hRefused : conn.state.permits .streaming = false := by
        rw [Bool.eq_false_iff]
        exact fun hPermits => h conn hRecover (ConnectionState.idle_of_permits rfl hPermits)
      simp [query, queryStream, hRecover, transition, hRefused]
  | true =>
      have hCore := recover_core net hFlag
      revert hCore
      cases skipReply conn.transport.inbox with
      | complete status rest => exact False.elim
      | failed status rest =>
          rintro ⟨conn₁, hRecover, hCore⟩
          exact absurd (congrArg Core.state hCore) (h conn₁ hRecover)
      | broken rest =>
          rintro ⟨e, conn₁, hRecover, hCore⟩
          obtain ⟨hOutcome, hConn⟩ := hFails _ _ hRecover (by simp)
          rw [hConn]
          exact ⟨hOutcome, congrArg Core.transactionStatus hCore,
            congrArg (fun core : Core => core.transport.history) hCore⟩
      | short =>
          rintro ⟨outcome, conn₁, hRecover, hPending, hCore⟩
          obtain ⟨hOutcome, hConn⟩ := hFails _ _ hRecover hPending
          rw [hConn]
          exact ⟨hOutcome, congrArg Core.transactionStatus hCore,
            congrArg (fun core : Core => core.transport.history) hCore⟩

theorem query_of_recover {conn₁ : Connection} (hRecover : recover net conn = (.ok (), conn₁)) :
    query sql net conn = query sql net conn₁ := by
  have hSame : queryStream sql net conn = queryStream sql net conn₁ := by
    rw [queryStream, bind_of_ok hRecover,
      bind_of_ok (recover_unneeded net (recover_flag hRecover))]
  simp only [query, bind_apply, hSame]

end Opening

end Connection

/-- `BEGIN` is refused and leaves no block. -/
structure TransactionServer.Refuses {net : Network} (server : TransactionServer net)
    (conn : Connection) : Prop where
  answered : ∃ error status, Connection.Answers net [.query "BEGIN"] conn.transport
    [.errorResponse { fields := .ok error }, .readyForQuery status]
  block : server.block (.query "BEGIN" :: conn.arrival net) = .none

namespace Connection

/-- `BEGIN` and what opens the portal behind it go out and are accepted. -/
structure OpensCursor (net : Network) (conn : Connection) (sql : String) (params : List ToSql) :
    Prop where
  begun : ∃ tag status, Answers net [.query "BEGIN"] conn.transport
    [.commandComplete tag, .readyForQuery status]
  opened : ∃ values inner status, encodeParamsText params = .ok values ∧
    (∀ message ∈ inner, BackendMessage.isInner message) ∧
    Answers net (openBatch sql conn.nextPortal values ++ [.sync])
      (afterReply (exchanged net [.query "BEGIN"] conn.transport))
      (inner ++ [.readyForQuery status])

/-- A cursor that cannot be opened fails at its `BEGIN`, or before. -/
def Spares {net : Network} (server : TransactionServer net) (conn : Connection) (sql : String)
    (params : List ToSql) : Prop :=
  conn.Unsent net ∨ ∃ conn₁, recover net conn = (.ok (), conn₁) ∧ conn₁.state = .idle ∧
    (server.Refuses conn₁ ∨ conn₁.OpensCursor net sql params)

/-- The transaction status is idle, and no block that was begun since is open. -/
structure Rested {net : Network} (server : TransactionServer net) (start conn : Connection) :
    Prop where
  status : conn.transactionStatus = .idle
  block : ∀ id, start.transport.history.length ≤ id.message →
    (server.block conn.transport.history).id? ≠ some id

section Transactions

variable {net : Network} {server : TransactionServer net} {start conn : Connection}
  {sql : String} {params : List ToSql}

theorem rested_of_none (hStatus : conn.transactionStatus = .idle)
    (hBlock : server.block conn.transport.history = .none) : Rested server start conn := by
  refine ⟨hStatus, fun id _ => ?_⟩
  rw [hBlock]
  exact nofun

theorem Committed.rested (h : Committed server conn) : Rested server start conn :=
  rested_of_none h.status h.block

/-- Nothing that was begun later is open where nothing has been sent. -/
theorem rested_of_unsent (hStatus : conn.transactionStatus = .idle)
    (hHistory : conn.transport.history = start.transport.history) : Rested server start conn := by
  refine ⟨hStatus, fun id hLater hOpen => ?_⟩
  rw [hHistory] at hOpen
  exact absurd (server.id_lt hOpen) (Nat.not_lt.mpr hLater)

/-- Opening a cursor: it owns the transaction that it has begun, or there is none. -/
theorem post_queryCursor (hGood : Good server.toServer conn)
    (hStatus : conn.transactionStatus = .idle) (hSpares : Spares server conn sql params)
    (fetchSize : Int32) :
    Post (fun cursor _ => cursor.ownsTransaction = true) (fun _ => Rested server conn)
      (queryCursor sql params fetchSize net conn) := by
  rw [queryCursor_idle sql params fetchSize hStatus]
  obtain hUnsent | ⟨conn₁, hRecover, hIdle, hBegin⟩ := hSpares
  · obtain ⟨hFails, hSame, hHistory⟩ := @query_unsent net conn "BEGIN" hUnsent
    simp only [bind_apply]
    cases hQuery : query "BEGIN" net conn with
    | mk outcome conn' =>
        rw [hQuery] at hFails hSame hHistory
        cases outcome with
        | ok result => exact absurd rfl (hFails result)
        | err e => exact rested_of_unsent (hSame.trans hStatus) hHistory
        | pending => trivial
  · have hFlag := recover_flag hRecover
    have hSame := @query_of_recover net conn "BEGIN" conn₁ hRecover
    have hGood₁ : Good server.toServer conn₁ := by
      have hEnd := @triple_recover net server.toServer conn hGood
      rwa [hRecover] at hEnd
    cases hBegin with
    | inl hRefuses =>
        obtain ⟨error, status, hAnswers⟩ := hRefuses.answered
        obtain ⟨e, conn', hQuery, hOfReady, hHistory⟩ := query_refused hIdle hFlag hAnswers
        simp only [bind_apply, hSame, hQuery]
        refine rested_of_none ?_ (by rw [hHistory, hRefuses.block])
        rw [hOfReady, ofReady_answered hGood₁ hIdle hAnswers, hRefuses.block]
        rfl
    | inr hOpens =>
        obtain ⟨tag, status, hBegun⟩ := hOpens.begun
        obtain ⟨values, inner, _, hValues, hInner, hOpened⟩ := hOpens.opened
        obtain ⟨result, conn₂, hQuery, hCore⟩ := query_answered hIdle hFlag hBegun
        have hPortal : conn₂.nextPortal = conn₁.nextPortal := by
          rw [nextPortal, nextPortal, show conn₂.statementCounter = conn₁.statementCounter from
            congrArg Core.statementCounter hCore]
        have hTransport : conn₂.transport =
            afterReply (exchanged net [.query "BEGIN"] conn₁.transport) :=
          congrArg Core.transport hCore
        have hIdle₂ : conn₂.state = .idle := (congrArg Core.state hCore).trans hIdle
        rw [← hPortal, ← hTransport] at hOpened
        obtain ⟨cursor, conn₃, hPortalOpen⟩ :=
          @openPortal_answered _ _ _ _ fetchSize true hIdle₂ _ hValues _ hInner _ hOpened
        have hOwns := @Session.triple_openPortal net sql params fetchSize true conn₂ trivial
        rw [hPortalOpen] at hOwns
        simp only [bind_apply, hSame, hQuery, andThen_ok, pure_apply, hPortalOpen]
        exact hOwns

end Transactions

/-- A round trip, if it can be made, brings a row or an error first. -/
def Brings (net : Network) (request : List FrontendMessage) (t : Transport) : Prop :=
  (sendBatch request net { Connection.new with transport := t }).1 = .ok () →
    ∃ first later, Interleaves (exchanged net request t).inbox (first :: later) ∧
      ((∃ values, first = .dataRow (.ok values)) ∨ ∃ body, first = .errorResponse body)

section RoundTrip

variable {net : Network} {request : List FrontendMessage} {conn : Connection} {L α : Type}

/-- A round trip that returns started on an idle connection, and its request went out. -/
theorem roundTrip_ok {f : Unit → Owner L α} {l : L} {a : α} {s' : L × Connection}
    (h : (Async.onSnd (transition .activeExtendedQuery) >>= fun _ =>
      Async.onSnd (sendBatch request) >>= f) net (l, conn) = (.ok a, s')) :
    conn.state = .idle ∧
      (sendBatch request net { Connection.new with transport := conn.transport }).1 = .ok () ∧
      f () net (l, requested net request conn) = (.ok a, s') := by
  obtain ⟨_, s₁, hTransition, h⟩ := ok_of_bind h
  obtain ⟨_, s₂, hSend, h⟩ := ok_of_bind h
  have hIdle : conn.state = .idle := by
    by_contra hBusy
    have hRefused : conn.state.permits .activeExtendedQuery = false := by
      rw [Bool.eq_false_iff]
      exact fun hPermits => hBusy (ConnectionState.idle_of_permits rfl hPermits)
    simp [transition, hRefused] at hTransition
  rw [onSnd_apply, transition_of_idle hIdle rfl] at hTransition
  cases hTransition
  have hOn := @onTransport_sendBatch net request
    { Connection.new with transport := conn.transport } (conn.setState .activeExtendedQuery) rfl
  rw [onSnd_apply, hOn] at hSend
  cases hSent : (sendBatch request net { Connection.new with transport := conn.transport }).1 with
  | ok value =>
      rw [hSent] at hSend
      cases hSend
      exact ⟨hIdle, rfl, h⟩
  | err e =>
      rw [hSent] at hSend
      cases hSend
  | pending =>
      rw [hSent] at hSend
      cases hSend

end RoundTrip
end Connection
end PgClient
