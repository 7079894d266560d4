import PgClient.Transaction.Server

/-!
What a statement that returns `Ok` leaves behind on a server that keeps transactions: an idle
connection whose status is that of the block.
-/

namespace PgClient
namespace Connection

/-- A connection that the next user can take over: nothing is in flight, nothing unread, and
no transaction open. -/
structure Unused (conn : Connection) : Prop where
  idle : conn.state = .idle
  status : conn.transactionStatus = .idle
  recovered : conn.needsRecovery = false

variable {net : Network}

/-- A reply that is read to its end with an error has one before its end. -/
theorem skipReply_failed {entries rest : List Entry} {status : UInt8}
    (h : skipReply entries = .failed status rest) :
    ∃ taken, entries = taken ++ .ok (.readyForQuery status) :: rest := by
  induction entries with
  | nil => cases h
  | cons entry entries ih =>
      cases entry with
      | error e => cases h
      | ok message =>
          cases message with
          | readyForQuery status' =>
              cases h
              exact ⟨[], rfl⟩
          | _ =>
              obtain ⟨taken, rfl⟩ := ih h
              exact ⟨_ :: taken, rfl⟩

theorem endReply_ne_failed {message : BackendMessage} {entries rest : List Entry} {status : UInt8} :
    endReply entries message ≠ .failed status rest := by
  cases message <;> simp [endReply]

theorem isError_of_serverError {stream stream' : RowStream} {message : BackendMessage}
    {body : ErrorBody}
    (h : localStep RowStream.nextBody stream message = .exit (.ok (.serverError body)) stream') :
    message.isError := by
  simp only [localStep, RowStream.nextBody, asyncFirst] at h
  split at h
  · cases h
  · split at h
    case h_7 => rfl
    all_goals
      first
        | cases h
        | (split at h <;> cases h)

theorem readReply_failed {stream : RowStream} {entries rest : List Entry} {status : UInt8}
    (h : stream.readReply entries = .failed status rest) :
    ∃ taken, entries = taken ++ .ok (.readyForQuery status) :: rest ∧
      ∃ entry ∈ taken, entry.isError := by
  induction entries generalizing stream with
  | nil => cases h
  | cons entry entries ih =>
      cases entry with
      | error e => cases h
      | ok message =>
          have hLater : ∀ stream' : RowStream, stream'.readReply entries = .failed status rest →
              ∃ taken, .ok message :: entries = taken ++ .ok (.readyForQuery status) :: rest ∧
                ∃ entry ∈ taken, entry.isError := by
            intro stream' h
            obtain ⟨taken, hEntries, entry, hMem, hError⟩ := ih h
            exact ⟨.ok message :: taken, by rw [hEntries, List.cons_append], entry,
              List.mem_cons_of_mem _ hMem, hError⟩
          rw [RowStream.readReply] at h
          cases hStep : localStep RowStream.nextBody stream message with
          | next stream' =>
              rw [hStep] at h
              exact hLater stream' h
          | exit result stream' =>
              rw [hStep] at h
              cases result with
              | error e => cases h
              | ok event =>
                  cases event with
                  | row row => exact hLater stream' h
                  | finished => exact absurd h endReply_ne_failed
                  | serverError body =>
                      simp only at h
                      split at h
                      · obtain ⟨taken, rfl⟩ := skipReply_failed h
                        exact ⟨.ok message :: taken, rfl, _, List.mem_cons_self,
                          isError_of_serverError hStep⟩
                      · cases h

/-- What belongs to a reply and is there once a message has arrived on a quiet wire is in the
answer to this message. -/
theorem answer_of_deliver {server : Server net} {t : Transport} (h : t.Settled server)
    {message : FrontendMessage} {entry : Entry} (hMem : entry ∈ (t.deliver net message).inbox)
    (hSync : entry.isAsync = false) :
    net.closing t.history = none ∧ entry ∈ (net.answer t.history message).messages := by
  obtain ⟨entries, hDeliver, hEntries⟩ := Transport.deliver_inbox net t message
  rw [hDeliver] at hMem
  cases List.mem_append.mp hMem with
  | inl hOld =>
      rw [h.inbox _ hOld] at hSync
      cases hSync
  | inr hNew =>
      obtain rfl | ⟨hAlive, rfl⟩ := hEntries
      · cases hNew
      · exact ⟨by rw [← h.tracked.ending, hAlive], hNew⟩

/-- A statement that the server has answered to the end, and where that leaves the
connection. -/
structure Responded (server : TransactionServer net) (sql : String) (conn conn' : Connection) :
    Prop where
  good : Good server.toServer conn'
  arrival : conn'.arrival net = .query sql :: conn.arrival net
  idle : conn'.state = .idle
  recovered : conn'.needsRecovery = false
  status : conn'.transactionStatus = (server.block (.query sql :: conn.arrival net)).status
  session : ∃ inTransaction,
    conn'.sessionState = conn.sessionState.setInTransaction inTransaction

/-- A statement that has been accepted. -/
structure Acknowledged (server : TransactionServer net) (sql : String) (conn conn' : Connection) :
    Prop extends Responded server sql conn conn' where
  accepts : server.Accepts (conn.arrival net) (.query sql)

/-- A statement to which the answer was an error. -/
structure Rejected (server : TransactionServer net) (sql : String) (conn conn' : Connection) :
    Prop extends Responded server sql conn conn' where
  alive : net.closing (conn.arrival net) = none
  ready : server.mode (conn.arrival net) = .ready
  error : ∃ entry ∈ (net.answer (conn.arrival net) (.query sql)).messages, entry.isError

variable {server : TransactionServer net} {sql : String} {conn conn' : Connection}

/-- Nobody answers on a connection that is dead. -/
theorem settled_of_reply (hGood : Good server.toServer conn) (hIdle : conn.state = .idle)
    {taken rest : List Entry} {status : UInt8}
    (hInbox : (conn.transport.sent net (.query sql)).inbox =
      taken ++ .ok (.readyForQuery status) :: rest) :
    conn.transport.Settled server.toServer := by
  cases hGood with
  | inr hBetween => exact hBetween.2 hIdle
  | inl hDead =>
      have hClear : ({ conn.transport with writeBuf := [] } : Transport).Dead :=
        ⟨hDead.inbox, hDead.ending⟩
      have hSent : (conn.transport.sent net (.query sql)).Dead :=
        (hClear.deliverAll _).deliver (.query sql)
      rw [hSent.inbox] at hInbox
      cases taken <;> cases hInbox

theorem arrival_of_sent {rest : List Entry}
    (h : conn'.transport = { conn.transport.sent net (.query sql) with inbox := rest }) :
    conn'.arrival net = .query sql :: conn.arrival net := by
  have hBuffer : conn'.transport.writeBuf = [] := by
    rw [h]
    exact (Transport.deliver_writeBuf ..).trans (Transport.flushed_writeBuf ..)
  rw [arrival_eq, hBuffer, h]
  exact Transport.deliver_history ..

theorem setInTransaction_self (session : SessionState) :
    session = session.setInTransaction session.inTransaction := rfl

theorem acknowledged_of_idle (hGood : Good server.toServer conn) {result : ExecuteResult}
    (hIdle : conn.state = .idle) (hFlag : conn.needsRecovery = false)
    (hRun : execute sql net conn = (.ok result, conn')) : Acknowledged server sql conn conn' := by
  obtain ⟨hAccepts, _, hDone⟩ := execute_accepted hGood hRun
  obtain ⟨status, rest, hReading, hCore⟩ := execute_ok hIdle hFlag hRun
  obtain ⟨taken, hInbox, _⟩ := readReply_complete hReading
  have hSettled := settled_of_reply hGood hIdle hInbox
  obtain ⟨hAlive, hMem⟩ := answer_of_deliver hSettled.flushed
    (hInbox ▸ List.mem_append_right taken List.mem_cons_self) rfl
  exact {
    good := hDone.good
    arrival := arrival_of_sent (congrArg Core.transport hCore)
    idle := congrArg Core.state hCore
    recovered := (congrArg Core.needsRecovery hCore).trans hFlag
    status := (congrArg Core.transactionStatus hCore).trans (server.reports _ _ _ hAlive hMem)
    session := ⟨_, (congrArg Core.sessionState hCore).trans (setInTransaction_self _)⟩
    accepts := hAccepts }

/-- An error of the server on an idle connection. -/
theorem rejected_of_idle (hGood : Good server.toServer conn) (hIdle : conn.state = .idle)
    (hFlag : conn.needsRecovery = false) {e : PgServerError}
    (hRun : execute sql net conn = (.err (.server e), conn')) : Rejected server sql conn conn' := by
  have hEnd := @sound_execute net server.toServer sql conn hGood
  have hExecuted := executed_execute net sql hIdle hFlag
  rw [hRun] at hEnd hExecuted
  unfold Executed at hExecuted
  rw [show conn.core.transport = conn.transport from rfl] at hExecuted
  cases hSends : net.sends conn.transport (.query sql) with
  | false =>
      rw [hSends] at hExecuted
      obtain ⟨⟨_, hErr, hReply⟩, _⟩ := hExecuted
      cases hErr
      cases hReply
  | true =>
      rw [hSends, if_pos rfl] at hExecuted
      cases hReading : RowStream.newSimple.readReply
        (conn.transport.sent net (.query sql)).inbox with
      | complete status rest =>
          rw [hReading] at hExecuted
          obtain ⟨⟨_, hOk⟩, _⟩ := hExecuted
          cases hOk
      | broken rest =>
          rw [hReading] at hExecuted
          obtain ⟨⟨_, hErr, hReply⟩, _⟩ := hExecuted
          cases hErr
          cases hReply
      | short =>
          rw [hReading] at hExecuted
          obtain ⟨hPending | ⟨_, hErr, hReply, _⟩, _⟩ := hExecuted
          · cases hPending
          · cases hErr
            cases hReply
      | failed status rest =>
          rw [hReading] at hExecuted
          have hCore := hExecuted.2
          obtain ⟨taken, hInbox, entry, hTaken, hError⟩ := readReply_failed hReading
          have hSettled := settled_of_reply hGood hIdle hInbox
          obtain ⟨hAlive, hMem⟩ := answer_of_deliver hSettled.flushed
            (hInbox ▸ List.mem_append_right taken List.mem_cons_self) rfl
          obtain ⟨_, hErrorMem⟩ := answer_of_deliver hSettled.flushed
            (hInbox ▸ List.mem_append_left _ hTaken) (isAsync_of_isError hError)
          exact {
            good := hEnd.good
            arrival := arrival_of_sent (congrArg Core.transport hCore)
            idle := congrArg Core.state hCore
            recovered := (congrArg Core.needsRecovery hCore).trans hFlag
            status := (congrArg Core.transactionStatus hCore).trans
              (server.reports _ _ _ hAlive hMem)
            session := ⟨_, congrArg Core.sessionState hCore⟩
            alive := hAlive
            ready := hSettled.flushed.mode
            error := ⟨entry, hErrorMem, hError⟩ }

theorem recover_session {value : Unit} (hRun : recover net conn = (.ok value, conn')) :
    ∃ inTransaction, conn'.sessionState = conn.sessionState.setInTransaction inTransaction := by
  cases hNeeds : conn.needsRecovery with
  | false =>
      rw [recover_unneeded net hNeeds] at hRun
      cases hRun
      exact ⟨_, setInTransaction_self _⟩
  | true =>
      have hCore := recover_core net hNeeds
      revert hCore
      rw [hRun]
      cases skipReply conn.transport.inbox with
      | complete status rest => exact False.elim
      | failed status rest =>
          rintro ⟨conn₂, hSame, hCore⟩
          cases hSame
          exact ⟨_, congrArg Core.sessionState hCore⟩
      | broken rest =>
          rintro ⟨e, conn₂, hSame, _⟩
          cases hSame
      | short =>
          rintro ⟨outcome, conn₂, hSame, hFails, _⟩
          cases hSame
          exact absurd rfl (hFails _)

/-- A statement that succeeds, also after an abandoned reply has been skipped. -/
theorem acknowledged_of_execute (hGood : Good server.toServer conn) {result : ExecuteResult}
    (hRun : execute sql net conn = (.ok result, conn')) : Acknowledged server sql conn conn' := by
  obtain ⟨conn₁, hRecover, hIdle, hFlag, hFirst⟩ := execute_recovered hRun
  have hGood₁ := @triple_recover net server.toServer conn hGood
  rw [hRecover] at hGood₁
  have hArrival := arrival_recover net conn
  rw [hRecover] at hArrival
  obtain ⟨first, hSession⟩ := recover_session hRecover
  have h := acknowledged_of_idle hGood₁ hIdle hFlag hFirst
  obtain ⟨second, hLater⟩ := h.session
  exact {
    good := h.good
    arrival := hArrival ▸ h.arrival
    idle := h.idle
    recovered := h.recovered
    status := hArrival ▸ h.status
    session := ⟨second, by rw [hLater, hSession]; rfl⟩
    accepts := hArrival ▸ h.accepts }

/-- Where no block is left open the connection can be taken over. -/
theorem Acknowledged.unused (h : Acknowledged server sql conn conn')
    (hBlock : server.block (.query sql :: conn.arrival net) = .none) : conn'.Unused :=
  ⟨h.idle, by rw [h.status, hBlock]; rfl, h.recovered⟩

theorem Acknowledged.rolledBack (h : Acknowledged server "ROLLBACK" conn conn') :
    server.block (conn'.arrival net) = .none := by
  rw [h.arrival]
  exact (server.rollback _ h.accepts).1

end Connection
end PgClient
