import PgClient.Replies.Cursors
import PgClient.Transaction.Commit

/-!
Statements that a server answers in full: what they leave of the connection, and of the
block on the server.
-/

namespace PgClient

open Drive Async Connection

section Reading

variable {entries : List Entry} {reply : List BackendMessage}

/-- A reply starts with its first message, behind asynchronous ones. -/
theorem split_interleaves {message : BackendMessage} (h : Interleaves entries (message :: reply)) :
    ∃ before rest, entries = before ++ .ok message :: rest ∧
      (∀ entry ∈ before, entry.isAsync) ∧ Interleaves rest reply := by
  obtain ⟨before, rest, hEntries, hBefore, -, hRest⟩ := List.filter_eq_cons_iff.mp h
  exact ⟨before, rest, hEntries, fun entry hMem => by simpa using hBefore entry hMem, hRest⟩

theorem readReply_async (stream : RowStream) {before : List Entry}
    (h : ∀ entry ∈ before, entry.isAsync) (rest : List Entry) :
    stream.readReply (before ++ rest) = stream.readReply rest := by
  induction before with
  | nil => rfl
  | cons entry before ih =>
      have hLater := ih fun e hMem => h e (List.mem_cons_of_mem _ hMem)
      have hAsync := h entry List.mem_cons_self
      cases entry with
      | error e => cases hAsync
      | ok message =>
          have hStep : localStep RowStream.nextBody stream message = .next stream :=
            RowStream.detached_next.async stream .new message hAsync
          rw [List.cons_append, RowStream.readReply, hStep]
          exact hLater

theorem skipReply_async {before : List Entry} (h : ∀ entry ∈ before, entry.isAsync)
    (rest : List Entry) : skipReply (before ++ rest) = skipReply rest := by
  induction before with
  | nil => rfl
  | cons entry before ih =>
      have hLater := ih fun e hMem => h e (List.mem_cons_of_mem _ hMem)
      have hAsync := h entry List.mem_cons_self
      cases entry with
      | error e => cases hAsync
      | ok message =>
          cases message with
          | parameterStatus | noticeResponse | notificationResponse => exact hLater
          | _ => cases hAsync

/-- What a statement makes of a reply that has its tag and the end. -/
theorem readReply_answered {tag : Option String} {status : UInt8}
    (h : Interleaves entries [.commandComplete tag, .readyForQuery status]) :
    RowStream.newSimple.readReply entries =
      .complete status (entries.rtakeWhile Entry.isAsync) := by
  obtain ⟨before, mid, rfl, hBefore, hMid⟩ := split_interleaves h
  obtain ⟨between, rest, rfl, hBetween, hRest⟩ := split_interleaves hMid
  have hLeft : LeftAt (before ++ .ok (.commandComplete tag) ::
      (between ++ .ok (.readyForQuery status) :: rest))
      [.commandComplete tag, .readyForQuery status] [] rest :=
    ⟨hRest, before ++ .ok (.commandComplete tag) :: between, .readyForQuery status,
      [.commandComplete tag], by simp, rfl⟩
  rw [← hLeft.eq_rtakeWhile h, readReply_async _ hBefore]
  exact readReply_async _ hBetween _

/-- The same of one that has an error. -/
theorem readReply_refused {error : List (UInt8 × String)} {status : UInt8}
    (h : Interleaves entries [.errorResponse { fields := .ok error }, .readyForQuery status]) :
    RowStream.newSimple.readReply entries =
      .failed status (entries.rtakeWhile Entry.isAsync) := by
  obtain ⟨before, mid, rfl, hBefore, hMid⟩ := split_interleaves h
  obtain ⟨between, rest, rfl, hBetween, hRest⟩ := split_interleaves hMid
  have hLeft : LeftAt (before ++ .ok (.errorResponse { fields := .ok error }) ::
      (between ++ .ok (.readyForQuery status) :: rest))
      [.errorResponse { fields := .ok error }, .readyForQuery status] [] rest :=
    ⟨hRest, before ++ .ok (.errorResponse { fields := .ok error }) :: between,
      .readyForQuery status, [.errorResponse { fields := .ok error }], by simp, rfl⟩
  rw [← hLeft.eq_rtakeWhile h, readReply_async _ hBefore]
  exact skipReply_async hBetween _

end Reading

namespace Connection

section Statements

variable {net : Network} {conn : Connection} {sql : String} {reply : List BackendMessage}
  {tag : Option String} {error : List (UInt8 × String)} {status : UInt8}

/-- One message that goes out. -/
theorem Answers.sends_query {t : Transport} (h : Answers net [.query sql] t reply) :
    net.sends t (.query sql) = true ∧ exchanged net [.query sql] t = t.sent net (.query sql) := by
  have hSent := h.sent
  have hCases := send_cases net (.query sql) { Connection.new with transport := t }
  rw [exchanged]
  rw [← send_eq_sendBatch] at hSent ⊢
  cases hSends : net.sends t (.query sql) with
  | true =>
      rw [show ({ Connection.new with transport := t } : Connection).transport = t from rfl,
        hSends, if_pos rfl] at hCases
      rw [hCases]
      exact ⟨rfl, rfl⟩
  | false =>
      rw [show ({ Connection.new with transport := t } : Connection).transport = t from rfl,
        hSends, if_neg (by simp)] at hCases
      obtain ⟨e, t', hFails, -⟩ := hCases
      rw [hFails] at hSent
      cases hSent

/-- What a statement has made of the core of a connection when its reply has been read. -/
theorem afterReply_sent (h : Answers net [.query sql] conn.transport reply) :
    ((conn.core.sent net (.query sql)).read
      ((conn.transport.sent net (.query sql)).inbox.rtakeWhile Entry.isAsync)).transport =
      afterReply (exchanged net [.query sql] conn.transport) := by
  rw [h.sends_query.2]
  rfl

theorem query_answered (hIdle : conn.state = .idle) (hFlag : conn.needsRecovery = false)
    (h : Answers net [.query sql] conn.transport [.commandComplete tag, .readyForQuery status]) :
    ∃ result conn', query sql net conn = (.ok result, conn') ∧
      conn'.core = { conn.core with
        transport := afterReply (exchanged net [.query sql] conn.transport)
        transactionStatus := .ofReady status } := by
  obtain ⟨hSends, hExchanged⟩ := h.sends_query
  have hReading := readReply_answered (hExchanged ▸ h.unread)
  have hExecuted := executed_query net sql hIdle hFlag
  unfold Executed at hExecuted
  rw [show conn.core.transport = conn.transport from rfl, hSends, if_pos rfl, hReading]
    at hExecuted
  obtain ⟨⟨result, hOutcome⟩, hCore⟩ := hExecuted
  refine ⟨result, (query sql net conn).2, Prod.ext hOutcome rfl, ?_⟩
  rw [hCore, ← afterReply_sent h]
  simp [Core.ready, Core.read, Core.sent, Connection.core, hIdle]

theorem query_refused (hIdle : conn.state = .idle) (hFlag : conn.needsRecovery = false)
    (h : Answers net [.query sql] conn.transport
      [.errorResponse { fields := .ok error }, .readyForQuery status]) :
    ∃ e conn', query sql net conn = (.err e, conn') ∧
      conn'.transactionStatus = .ofReady status ∧
      conn'.transport.history = .query sql :: conn.arrival net := by
  obtain ⟨hSends, hExchanged⟩ := h.sends_query
  have hReading := readReply_refused (hExchanged ▸ h.unread)
  have hExecuted := executed_query net sql hIdle hFlag
  unfold Executed at hExecuted
  rw [show conn.core.transport = conn.transport from rfl, hSends, if_pos rfl, hReading]
    at hExecuted
  obtain ⟨⟨e, hOutcome⟩, hCore⟩ := hExecuted
  refine ⟨_, (query sql net conn).2, Prod.ext hOutcome rfl,
    congrArg Core.transactionStatus hCore, ?_⟩
  have hTransport := congrArg Core.transport hCore
  exact (congrArg Transport.history hTransport).trans (Transport.deliver_history ..)

end Statements

section Settled

variable {net : Network} {server : Server net} {conn : Connection} {sql : String}
  {reply : List BackendMessage}

/-- Nobody answers on a connection that is dead. -/
theorem settled_of_answers (hGood : Good server conn) (hIdle : conn.state = .idle)
    {message : BackendMessage} (h : Answers net [.query sql] conn.transport (message :: reply)) :
    conn.transport.Settled server := by
  cases hGood with
  | inl hDead =>
      have hClear : ({ conn.transport with writeBuf := [] } : Transport).Dead :=
        ⟨hDead.inbox, hDead.ending⟩
      have hSent : (conn.transport.sent net (.query sql)).Dead :=
        (hClear.deliverAll _).deliver (.query sql)
      have hUnread := h.unread
      rw [h.sends_query.2, Interleaves, hSent.inbox] at hUnread
      cases hUnread
  | inr hBetween => exact hBetween.2 hIdle

/-- A message of the reply to a statement is one of the server's answer to it. -/
theorem mem_answer (hSettled : conn.transport.Settled server)
    (h : Answers net [.query sql] conn.transport reply) {message : BackendMessage}
    (hMem : message ∈ reply) :
    .ok message ∈ (net.answer (conn.arrival net) (.query sql)).messages ∧
      net.closing (conn.arrival net) = none := by
  have hSync := isAsync_of_interleaves h.unread hMem
  have hFlushed := hSettled.flushed
  have hEntry : .ok message ∈ (conn.transport.sent net (.query sql)).inbox := by
    have hFiltered : .ok message ∈ (exchanged net [.query sql] conn.transport).inbox.filter
        (fun entry => !entry.isAsync) := by
      rw [h.unread]
      exact List.mem_map_of_mem hMem
    rw [h.sends_query.2] at hFiltered
    exact List.mem_of_mem_filter hFiltered
  obtain ⟨entries, hInbox, hEntries⟩ :=
    Transport.deliver_inbox net (conn.transport.flushed net) (.query sql)
  rw [Transport.sent, hInbox] at hEntry
  cases List.mem_append.mp hEntry with
  | inl hOld =>
      have hAsync := hFlushed.inbox _ hOld
      rw [Entry.isAsync, hSync] at hAsync
      cases hAsync
  | inr hNew =>
      obtain rfl | ⟨hAlive, rfl⟩ := hEntries
      · cases hNew
      · exact ⟨hNew, by rw [arrival, ← hFlushed.tracked.ending, hAlive]⟩

end Settled

section Transactions

variable {net : Network} {server : TransactionServer net} {conn : Connection} {sql : String}
  {reply : List BackendMessage}

/-- The status that a statement is told is that of the block on the server. -/
theorem ofReady_answered (hGood : Good server.toServer conn) (hIdle : conn.state = .idle)
    {message : BackendMessage} {status : UInt8}
    (h : Answers net [.query sql] conn.transport [message, .readyForQuery status]) :
    TransactionStatus.ofReady status =
      (server.block (.query sql :: conn.arrival net)).status := by
  have hSettled := settled_of_answers hGood hIdle h
  obtain ⟨hMem, hAlive⟩ := mem_answer hSettled h
    (List.mem_cons_of_mem _ (List.mem_singleton_self (BackendMessage.readyForQuery status)))
  exact server.reports _ _ _ hAlive hMem

/-- Behind a commit that is answered no block is open, and the connection knows it. -/
structure Committed (server : TransactionServer net) (conn : Connection) : Prop where
  done : Done server.toServer conn
  status : conn.transactionStatus = .idle
  block : server.block conn.transport.history = .none

theorem commit_answered (hGood : Good server.toServer conn) (hIdle : conn.state = .idle)
    (hFlag : conn.needsRecovery = false) {tag : Option String} {status : UInt8}
    (h : Answers net [.query "COMMIT"] conn.transport
      [.commandComplete tag, .readyForQuery status]) :
    ∃ result conn', execute "COMMIT" net conn = (.ok result, conn') ∧ Committed server conn' := by
  obtain ⟨result, conn', hQuery, hCore⟩ := query_answered hIdle hFlag h
  have hRun : execute "COMMIT" net conn = (.ok { commandTag := result.commandTag }, conn') := by
    rw [execute, bind_of_ok hQuery]
    rfl
  obtain ⟨hAccepts, hHistory, hDone⟩ := execute_accepted hGood hRun
  have hBlock := (server.commit _ hAccepts).1
  refine ⟨_, conn', hRun, hDone, ?_, by rw [hHistory, hBlock]⟩
  rw [show conn'.transactionStatus = .ofReady status from congrArg Core.transactionStatus hCore,
    ofReady_answered hGood hIdle h, hBlock]
  rfl

end Transactions

end Connection
end PgClient
