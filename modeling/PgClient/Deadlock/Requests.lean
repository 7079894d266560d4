import PgClient.Pairing.Operations
import PgClient.Deadlock.Loops

/-!
Requests that are sent: how a send ends, and what a request brings that does not leave the
server waiting for COPY data.
-/

namespace PgClient

open Async Transport

namespace Connection

variable {net : Network}

section Sends

variable {base : Connection} {t : Transport}

/-- A batch that is written whole is delivered by the next flush at the latest, and no write
opens a stream that has ended. -/
theorem ends_writeBatch (messages : List FrontendMessage) :
    Ends base
      (fun t' => t'.flushed net = t.after net messages ∧ (t'.ending = none → t.ending = none))
      (fun t' => t'.ending = none → t.ending = none)
      (writeBatch messages net { base with transport := t }) := by
  induction messages generalizing t with
  | nil => exact ⟨t, rfl, rfl, id⟩
  | cons message messages ih =>
      rw [writeBatch]
      apply Ends.bind (fun t' => t'.flushed net = (t.flushed net).deliver net message ∧
        (t'.ending = none → t.ending = none))
      · rw [encodeAndWrite_apply]
        cases net.encode message with
        | error e => exact ⟨t, rfl, id⟩
        | ok bytes =>
            have hPush : ∀ t', t' = (t.push { message, bytes }).flushed net →
                t'.ending = none → t.ending = none := by
              intro t' hFlushed hOpen
              subst hFlushed
              exact @open_of_flushed net (t.push { message, bytes }) hOpen
            apply ends_writeAll
            · exact fun _ => ⟨Transport.flushed_push .., id⟩
            · intro t' _ hFlush
              have hFlushed := Transport.flushWrite_flushed hFlush
              refine ⟨?_, hPush t' hFlushed⟩
              rw [hFlushed, Transport.flushed_flushed, Transport.flushed_push]
            · exact fun _ _ _ => id
      · rintro t' ⟨hFlushed, hOpen⟩
        apply (@ih t').mono
        · rintro t'' ⟨hAfter, hOpen'⟩
          refine ⟨?_, fun h => hOpen (hOpen' h)⟩
          rw [hAfter, after, after, hFlushed, deliverAll_cons]
        · exact fun t'' hOpen' h => hOpen (hOpen' h)

theorem ends_sendBatch (messages : List FrontendMessage) :
    Ends base (fun t' => t' = t.after net messages) (fun t' => t'.ending = none → t.ending = none)
      (sendBatch messages net { base with transport := t }) := by
  apply Ends.bind _ (ends_writeBatch messages)
  rintro t' ⟨hAfter, hOpen⟩
  apply ends_flush
  · intro t'' hFlush
    rw [Transport.flushWrite_flushed hFlush, hAfter]
    exact ⟨rfl, open_of_after⟩
  · exact fun _ _ => hOpen

end Sends

section Requests

variable {server : Server net}

/-- An operation has been accepted, no reply is left to be skipped, and the transport is as
`ready`. -/
structure Prepared (server : Server net) (ready : Transport → Prop) (conn : Connection) :
    Prop where
  started : Started server conn
  clear : Clear conn
  ready : ready conn.transport

/-- A connection whose stream is open has nothing to skip when it is idle. -/
theorem clear_of_idle {conn : Connection} (hGood : Good server conn) (hIdle : conn.state = .idle)
    (h : Recoverable conn) : Clear conn := by
  intro hFlag hOpen
  obtain ⟨entry, hMem, hReady⟩ := h hFlag hOpen
  cases hGood with
  | inl hDead => exact hDead.ending hOpen
  | inr hBetween =>
      have hAsync := (hBetween.2 hIdle).inbox entry hMem
      rw [not_ready_of_isAsync hAsync] at hReady
      cases hReady

theorem completes_transition {state : ConnectionState} (hActive : state.isActive)
    (ready : Transport → Prop) :
    Completes net (fun conn => Good server conn ∧ Recoverable conn ∧
        (conn.state = .idle → ready conn.transport)) (transition state)
      (fun _ => Prepared server ready) (fun _ => Recoverable) := by
  constructor
  · rintro conn ⟨hGood, hRecoverable, hReady⟩
    simp only [transition]
    split
    case isFalse => exact hRecoverable
    case isTrue hPermits =>
        have hIdle := ConnectionState.idle_of_permits hActive hPermits
        refine ⟨⟨ConnectionState.ne_idle_of_isActive hActive, ?_⟩, ?_, hReady hIdle⟩
        · exact hGood.imp id fun hBetween => hBetween.2 hIdle
        · exact @clear_of_idle net server conn hGood hIdle hRecoverable
  · intro conn _
    simp only [transition]
    split <;> simp

/-- A request that is sent whole is the last that has reached the server. -/
theorem completes_sendBatch (ready : Transport → Prop) (messages : List FrontendMessage) :
    Completes net (Prepared server ready) (sendBatch messages)
      (fun _ conn => (∃ t, (t.Dead ∨ t.Settled server) ∧ ready t ∧
        conn.transport = t.after net messages) ∧ Clear conn) (fun _ => Clear) := by
  have hEnd : ∀ conn, Prepared server ready conn → Ends conn
      (fun t' => t' = conn.transport.after net messages)
      (fun t' => t'.ending = none → conn.transport.ending = none) (sendBatch messages net conn) :=
    fun conn _ => ends_sendBatch messages
  constructor
  · intro conn h
    have hSent := hEnd conn h
    revert hSent
    match sendBatch messages net conn with
    | (.ok _, conn') =>
        rintro ⟨t, rfl, rfl⟩
        refine ⟨⟨conn.transport, h.started.wire, h.ready, rfl⟩, ?_⟩
        exact fun hFlag hOpen => h.clear hFlag (open_of_after hOpen)
    | (.err _, conn') =>
        rintro ⟨t, rfl, hOpen⟩
        exact fun hFlag hOpen' => h.clear hFlag (hOpen hOpen')
    | (.pending, conn') => exact False.elim
  · intro conn h hPending
    have hSent := hEnd conn h
    revert hSent hPending
    match sendBatch messages net conn with
    | (.ok _, _) => exact fun h => nomatch h
    | (.err _, _) => exact fun h => nomatch h
    | (.pending, _) => exact fun _ => False.elim

/-- A transport on which these messages do not leave the server waiting for COPY data. -/
def SparedBy (server : Server net) (messages : List FrontendMessage) (t : Transport) : Prop :=
  ¬ server.AwaitsCopy (t.after net messages)

theorem completes_syncRequest {messages : List FrontendMessage}
    (hAsks : ∀ message ∈ messages, message.asksReady = false) :
    Completes net (Prepared server (SparedBy server (messages ++ [.sync])))
      (sendBatch (messages ++ [.sync])) (fun _ => Awaiting Clear) (fun _ => Clear) := by
  apply (completes_sendBatch _ _).mono (fun _ h => h)
  · rintro _ conn ⟨⟨t, hStart, hSpared, hTransport⟩, hClear⟩
    refine ⟨?_, hClear⟩
    rw [hTransport]
    exact promised_sync hStart hAsks hSpared
  · exact fun _ _ h => h

/-- The reply to a query is ahead, with its end. -/
def Replied (entries : List Entry) : Prop :=
  ∃ sql, Reply .ready (.query sql) (replyOf entries) .ready

theorem replied_of_spared {t : Transport} (hStart : t.Dead ∨ t.Settled server) {sql : String}
    (hSpared : SparedBy server [.query sql] t) :
    (t.after net [.query sql]).WhileOpen Replied := by
  intro hOpen
  have hReply := replied_query hStart hOpen
  refine ⟨sql, ?_⟩
  obtain hMode | hMode := hReply.query_mode
  · rw [hMode] at hReply
    exact hReply
  · exact absurd ⟨hOpen, .inl hMode⟩ hSpared

theorem completes_query (sql : String) :
    Completes net (Prepared server (SparedBy server [.query sql])) (send (.query sql))
      (fun _ conn => conn.transport.WhileOpen Replied ∧ Clear conn) (fun _ => Clear) := by
  rw [send_eq_sendBatch]
  apply (completes_sendBatch _ _).mono (fun _ h => h)
  · rintro _ conn ⟨⟨t, hStart, hSpared, hTransport⟩, hClear⟩
    rw [hTransport]
    exact ⟨replied_of_spared hStart hSpared, hClear⟩
  · exact fun _ _ h => h

theorem Replied.hasReady {entries : List Entry} (h : Replied entries) : HasReady entries := by
  obtain ⟨sql, hReply⟩ := h
  apply hasReady_of_replyOf
  obtain ⟨hSimple, -⟩ | ⟨status, hEmpty, -⟩ := hReply.query_cases
  · exact hSimple.ready_mem
  · rw [hEmpty]
    simp [BackendMessage.isReady]

theorem completes_askedQuery (sql : String) :
    Completes net (Prepared server (SparedBy server [.query sql])) (send (.query sql))
      (fun _ => Awaiting Clear) (fun _ => Clear) :=
  (completes_query sql).mono (fun _ h => h)
    (fun _ _ h => ⟨h.1.mono fun _ => Replied.hasReady, h.2⟩) fun _ _ h => h

end Requests

end Connection
end PgClient
