import PgClient.Effects.Loops
import PgClient.Reconnect.Standing
import PgClient.Pairing.Session

/-!
A statement that returns `Ok` on a connection whose requests and replies are paired: the
server got it between replies and answered it without an error.
-/

namespace PgClient

open Drive Async Connection

section Reading

theorem endReply_complete {message : BackendMessage} {entries rest : List Entry} {status : UInt8}
    (h : endReply entries message = .complete status rest) :
    message = .readyForQuery status ∧ entries = rest := by
  cases message with
  | readyForQuery status' =>
      cases h
      exact ⟨rfl, rfl⟩
  | _ => cases h

theorem skipReply_ne_complete {entries rest : List Entry} {status : UInt8} :
    skipReply entries ≠ .complete status rest := by
  induction entries with
  | nil => exact fun h => nomatch h
  | cons entry entries ih =>
      cases entry with
      | error e => exact fun h => nomatch h
      | ok message =>
          cases message with
          | readyForQuery status' => exact fun h => nomatch h
          | _ => exact ih

theorem localStep_error (stream : RowStream) (body : ErrorBody) :
    localStep RowStream.nextBody stream (.errorResponse body) =
      .exit (.ok (.serverError body)) stream := by
  obtain ⟨columns, state⟩ := stream
  cases state <;> rfl

/-- A reply that is read to its end without an error has none before its end. -/
theorem readReply_complete {stream : RowStream} {entries rest : List Entry} {status : UInt8}
    (h : stream.readReply entries = .complete status rest) :
    ∃ taken, entries = taken ++ .ok (.readyForQuery status) :: rest ∧
      ∀ entry ∈ taken, entry.isError = false := by
  induction entries generalizing stream with
  | nil => cases h
  | cons entry entries ih =>
      cases entry with
      | error e => cases h
      | ok message =>
          have hLater : ∀ stream' : RowStream, message.isError = false →
              stream'.readReply entries = .complete status rest →
              ∃ taken, .ok message :: entries = taken ++ .ok (.readyForQuery status) :: rest ∧
                ∀ entry ∈ taken, entry.isError = false := by
            intro stream' hError h
            obtain ⟨taken, hEntries, hTaken⟩ := ih h
            refine ⟨.ok message :: taken, by rw [hEntries, List.cons_append], ?_⟩
            simpa [Entry.isError, hError] using hTaken
          have hError : (∀ body, localStep RowStream.nextBody stream message ≠
              .exit (.ok (.serverError body)) stream) → message.isError = false := by
            intro hNone
            cases message with
            | errorResponse body => exact absurd (localStep_error stream body) (hNone body)
            | _ => rfl
          rw [RowStream.readReply] at h
          cases hStep : localStep RowStream.nextBody stream message with
          | next stream' =>
              rw [hStep] at h
              exact hLater stream' (hError (by simp [hStep])) h
          | exit result stream' =>
              rw [hStep] at h
              cases result with
              | error e => cases h
              | ok event =>
                  cases event with
                  | row row => exact hLater stream' (hError (by simp [hStep])) h
                  | finished =>
                      obtain ⟨rfl, rfl⟩ := endReply_complete h
                      exact ⟨[], rfl, by simp⟩
                  | serverError body =>
                      simp only at h
                      split at h
                      · exact absurd h skipReply_ne_complete
                      · cases h

end Reading

namespace Transport

variable {net : Network} {server : Server net} {t : Transport}

/-- COPY messages that come too late bring asynchronous messages at most. -/
theorem Settled.deliver_copy (h : t.Settled server) {message : FrontendMessage}
    (hCopy : message.isCopy) : (t.deliver net message).Settled server := by
  obtain ⟨entries, hInbox, hEntries⟩ := deliver_inbox net t message
  have hFollows := server.follows t.history message
  rw [h.mode] at hFollows
  obtain ⟨hAsync, hMode⟩ := hFollows.lateCopy hCopy
  refine ⟨h.tracked.deliver message, ?_, by rw [deliver_history, hMode],
    by rw [deliver_writeBuf]; exact h.writeBuf⟩
  intro entry hMem
  rw [hInbox] at hMem
  cases List.mem_append.mp hMem with
  | inl hOld => exact h.inbox entry hOld
  | inr hNew =>
      obtain rfl | ⟨_, rfl⟩ := hEntries
      · cases hNew
      · exact hAsync entry hNew

theorem Settled.flushed (h : t.Settled server) : (t.flushed net).Settled server := by
  have hAll : ∀ (messages : List FrontendMessage) (t : Transport), t.Settled server →
      (∀ message ∈ messages, message.isCopy) → (t.deliverAll net messages).Settled server := by
    intro messages
    induction messages with
    | nil => exact fun t h _ => h
    | cons message messages ih =>
        intro t h hCopy
        exact ih _ (h.deliver_copy (hCopy message List.mem_cons_self))
          fun m hMem => hCopy m (List.mem_cons_of_mem _ hMem)
  apply hAll
  · exact ⟨⟨h.tracked.ending, h.tracked.suffix⟩, h.inbox, h.mode, by simp⟩
  · intro message hMem
    obtain ⟨frame, hFrame, rfl⟩ := List.mem_map.mp hMem
    exact h.writeBuf frame hFrame

end Transport

theorem isAsync_of_isError {entry : Entry} (h : entry.isError) : entry.isAsync = false := by
  cases entry with
  | error e => rfl
  | ok message => cases message <;> first | rfl | cases h

/-- A message that reaches a server on an open stream between replies, and is answered
without an error. -/
structure Server.Accepts {net : Network} (server : Server net) (history : List FrontendMessage)
    (message : FrontendMessage) : Prop where
  alive : net.closing history = none
  mode : server.mode history = .ready
  stays : (net.answer history message).closes = none
  clean : ∀ entry ∈ (net.answer history message).messages, entry.isError = false

namespace Connection

variable {net : Network} {server : Server net} {conn conn' : Connection} {sql : String}

/-- What the server has been sent once everything that is buffered has gone out. -/
def arrival (net : Network) (conn : Connection) : List FrontendMessage :=
  (conn.transport.flushed net).history

theorem arrival_eq (net : Network) (conn : Connection) :
    conn.arrival net = (conn.transport.writeBuf.map Frame.message).reverse ++
      conn.transport.history :=
  Transport.flushed_history ..

/-- Skipping a reply takes messages off the inbox and leaves the rest of the wire alone. -/
theorem recover_transport (net : Network) (conn : Connection) :
    ∃ rest, (recover net conn).2.transport = { conn.transport with inbox := rest } := by
  cases hFlag : conn.needsRecovery with
  | false => exact ⟨conn.transport.inbox, by rw [recover_unneeded net hFlag]⟩
  | true =>
      have hCore := recover_core net hFlag
      revert hCore
      cases skipReply conn.transport.inbox with
      | complete status rest => exact False.elim
      | failed status rest =>
          intro hCore
          obtain ⟨conn', hRecover, hCore⟩ := hCore
          exact ⟨rest, by rw [hRecover]; exact congrArg Core.transport hCore⟩
      | broken rest =>
          intro hCore
          obtain ⟨e, conn', hRecover, hCore⟩ := hCore
          exact ⟨rest, by rw [hRecover]; exact congrArg Core.transport hCore⟩
      | short =>
          intro hCore
          obtain ⟨outcome, conn', hRecover, _, hCore⟩ := hCore
          exact ⟨[], by rw [hRecover]; exact congrArg Core.transport hCore⟩

theorem arrival_recover (net : Network) (conn : Connection) :
    (recover net conn).2.arrival net = conn.arrival net := by
  obtain ⟨rest, hTransport⟩ := recover_transport net conn
  rw [arrival_eq, arrival_eq, hTransport]

/-- One message to a server that owes nothing, whose answer can be read to its end. -/
theorem settled_accepts {t : Transport} (h : t.Settled server) {message : FrontendMessage}
    {taken rest : List Entry} {status : UInt8}
    (hInbox : (t.deliver net message).inbox = taken ++ .ok (.readyForQuery status) :: rest)
    (hTaken : ∀ entry ∈ taken, entry.isError = false) : server.Accepts t.history message := by
  have hOld : .ok (.readyForQuery status) ∉ t.inbox :=
    fun hMem => Bool.noConfusion (h.inbox _ hMem)
  obtain ⟨entries, hDeliver, hEntries⟩ := Transport.deliver_inbox net t message
  rw [hDeliver] at hInbox
  obtain ⟨mid, rfl, hMid⟩ := split_later hInbox hOld
  obtain rfl | ⟨hAlive, rfl⟩ := hEntries
  · cases mid <;> cases hMid
  · obtain ⟨hAfter, _, hStays⟩ := (server.follows t.history message).after_ready hMid rfl
    refine ⟨by rw [← h.tracked.ending, hAlive], h.mode, hStays, ?_⟩
    intro entry hMem
    rw [hMid] at hMem
    obtain hBefore | rfl | hLater := by simpa using hMem
    · exact hTaken entry (List.mem_append_right _ hBefore)
    · rfl
    · cases entry with
      | error e => rfl
      | ok message =>
          have hAsync := hAfter _ hLater
          cases message <;> first | rfl | cases hAsync

theorem accepted_of_idle (hGood : Good server conn) {result : ExecuteResult}
    (hIdle : conn.state = .idle) (hFlag : conn.needsRecovery = false)
    (hRun : execute sql net conn = (.ok result, conn')) :
    server.Accepts (conn.arrival net) (.query sql) ∧
      conn'.transport.history = .query sql :: conn.arrival net := by
  obtain ⟨status, rest, hReading, hCore⟩ := execute_ok hIdle hFlag hRun
  obtain ⟨taken, hInbox, hTaken⟩ := readReply_complete hReading
  have hHistory : conn'.transport.history = .query sql :: conn.arrival net := by
    rw [show conn'.transport = { conn.transport.sent net (.query sql) with inbox := rest } from
      congrArg Core.transport hCore]
    exact Transport.deliver_history ..
  refine ⟨?_, hHistory⟩
  cases hGood with
  | inl hDead =>
      have hClear : ({ conn.transport with writeBuf := [] } : Transport).Dead :=
        ⟨hDead.inbox, hDead.ending⟩
      have hSent : (conn.transport.sent net (.query sql)).Dead :=
        (hClear.deliverAll _).deliver (.query sql)
      rw [hSent.inbox] at hInbox
      cases taken <;> cases hInbox
  | inr hBetween => exact settled_accepts (hBetween.2 hIdle).flushed hInbox hTaken

/-- A statement that returns `Ok` on a connection whose requests and replies are paired. -/
theorem execute_accepted (hGood : Good server conn) {result : ExecuteResult}
    (hRun : execute sql net conn = (.ok result, conn')) :
    server.Accepts (conn.arrival net) (.query sql) ∧
      conn'.transport.history = .query sql :: conn.arrival net ∧ Done server conn' := by
  have hDone := @sound_execute net server sql conn hGood
  rw [hRun] at hDone
  obtain ⟨conn₁, hRecover, hIdle, hFlag, hFirst⟩ := execute_recovered hRun
  have hGood₁ := @triple_recover net server conn hGood
  rw [hRecover] at hGood₁
  obtain ⟨hAccepts, hHistory⟩ := accepted_of_idle hGood₁ hIdle hFlag hFirst
  have hArrival := arrival_recover net conn
  rw [hRecover] at hArrival
  rw [hArrival] at hAccepts hHistory
  exact ⟨hAccepts, hHistory, hDone⟩

end Connection
end PgClient
