import PgClient.Pairing.Copies
import PgClient.Deadlock.Streams

/-!
COPY transfers that return: a transfer to the server, which takes data until it is told of
their end, and one from it, whose end is ahead.
-/

namespace PgClient

open Drive Async Transport Connection

namespace Transport

variable {net : Network} {server : Server net} {t : Transport}

/-- The server takes COPY data, or the end of the reply is ahead already. -/
def Receptive (server : Server net) (t : Transport) : Prop :=
  t.ending = none → server.mode t.history = .copyIn ∨ HasReady t.inbox

/-- A COPY message in either case; a `CopyFail` ends the transfer. -/
theorem Receptive.deliver_cases (h : t.Receptive server) {message : FrontendMessage}
    (hCopy : message.isCopy) (hOpen : (t.deliver net message).ending = none) :
    (server.mode (t.deliver net message).history = .copyIn ∧
        ∀ reason, message ≠ .copyFail reason) ∨ HasReady (t.deliver net message).inbox := by
  obtain ⟨hBefore, hStays, hInbox⟩ := open_of_deliver hOpen
  rw [hInbox, deliver_history]
  cases h hBefore with
  | inr hReady => exact .inr (hReady.append _)
  | inl hMode =>
      obtain ⟨reply, hReply, _, hWhole⟩ := (server.follows t.history message).reply
      rw [hMode] at hReply
      obtain hTaken | ⟨_, hReady⟩ := hReply.copy_mode hCopy
      · exact .inl hTaken
      · rw [← hWhole hStays] at hReady
        exact .inr (.later (hasReady_of_replyOf hReady))

theorem Receptive.deliver (h : t.Receptive server) {message : FrontendMessage}
    (hCopy : message.isCopy) : (t.deliver net message).Receptive server :=
  fun hOpen => (h.deliver_cases hCopy hOpen).imp And.left id

theorem Receptive.deliverAll {messages : List FrontendMessage} (h : t.Receptive server)
    (hCopy : ∀ message ∈ messages, message.isCopy) :
    (t.deliverAll net messages).Receptive server := by
  induction messages generalizing t with
  | nil => exact h
  | cons message messages ih =>
      exact ih (h.deliver (hCopy message List.mem_cons_self))
        fun later hMem => hCopy later (List.mem_cons_of_mem _ hMem)

/-- Nothing but COPY data is buffered, for a server that takes it. -/
structure Feeding (server : Server net) (t : Transport) : Prop where
  buffered : ∀ frame ∈ t.writeBuf, ∃ data, frame.message = .copyData data
  receptive : t.Receptive server

theorem Feeding.flushed (h : t.Feeding server) : (t.flushed net).Feeding server := by
  refine ⟨by simp [Transport.flushed_writeBuf], ?_⟩
  apply @Receptive.deliverAll net server { t with writeBuf := [] } _ h.receptive
  intro message hMem
  obtain ⟨frame, hFrame, rfl⟩ := List.mem_map.mp hMem
  obtain ⟨data, hData⟩ := h.buffered frame hFrame
  rw [hData]
  rfl

theorem Feeding.push (h : t.Feeding server) {frame : Frame} {data : Bytes}
    (hData : frame.message = .copyData data) : (t.push frame).Feeding server := by
  refine ⟨?_, h.receptive⟩
  intro frame' hMem
  cases List.mem_append.mp hMem with
  | inl hOld => exact h.buffered frame' hOld
  | inr hNew =>
      rw [List.mem_singleton.mp hNew]
      exact ⟨data, hData⟩

/-- The message that ends a transfer is answered to the end, if it is not the start of another
transfer. -/
theorem Feeding.promised_after (h : t.Feeding server) {message : FrontendMessage}
    (hCopy : message.isCopy)
    (hEnds : (∀ reason, message ≠ .copyFail reason) → ¬ server.AwaitsCopy (t.after net [message])) :
    (t.after net [message]).Promised := by
  intro hOpen
  obtain ⟨hMode, hFail⟩ | hReady := h.flushed.receptive.deliver_cases hCopy hOpen
  · exact absurd ⟨hOpen, .inl hMode⟩ (hEnds hFail)
  · exact hReady

end Transport

theorem replyOf_cons_ok (message : BackendMessage) (entries : List Entry) :
    replyOf (.ok message :: entries) =
      if message.isAsync then replyOf entries else message :: replyOf entries := by
  rw [← List.singleton_append, replyOf_append]
  cases hAsync : message.isAsync <;> simp [replyOf, Except.toOption, hAsync]

namespace Connection

variable {net : Network} {server : Server net}

/-- Something that is not the end of a reply is ahead; behind it is the end, unless the
transfer starts and need not end by itself. -/
def Begins (response : BackendMessage → Option CopyResponseBody) (ends : Prop)
    (entries : List Entry) : Prop :=
  ∃ first rest, replyOf entries = first :: rest ∧ first.isReady = false ∧
    (ends ∨ response first = none → ¬ NoReady rest)

/-- What is ahead when the loop has left. -/
def BeginsAfter (ends : Prop) : Except PgError CopyStart → List Entry → Prop
  | .ok (.response _ _), entries => ends → HasReady entries
  | .ok _, entries => HasReady entries
  | .error _, _ => True

theorem begins_next {response : BackendMessage → Option CopyResponseBody} {ends : Prop}
    (s : Unit × Connection) {message : BackendMessage} {entries : List Entry}
    (h : Begins response ends (.ok message :: entries)) :
    match copyStartBody response s message with
    | .next _ => Begins response ends entries
    | .exit result _ => BeginsAfter ends result entries := by
  obtain ⟨first, rest, hReply, hFirst, hRest⟩ := h
  rw [replyOf_cons_ok] at hReply
  simp only [copyStartBody, asyncFirst]
  cases hAsync : s.2.handleAsyncMessage message with
  | some conn' =>
      have hSync : message.isAsync := by
        rw [← handleAsyncMessage_isSome s.2 message, hAsync]
        rfl
      rw [if_pos hSync] at hReply
      exact ⟨first, rest, hReply, hFirst, hRest⟩
  | none =>
      have hSync : message.isAsync = false := by
        rw [← handleAsyncMessage_isSome s.2 message, hAsync]
        rfl
      rw [if_neg (by simp [hSync])] at hReply
      obtain ⟨rfl, rfl⟩ := List.cons.inj hReply
      have hEnd : ends ∨ response message = none → HasReady entries :=
        fun hEnds => hasReady_of_replyOf (hRest hEnds)
      dsimp only
      cases hResponse : response message with
      | some body =>
          dsimp only
          cases ioResult body.columnFormats with
          | ok columnFormats => exact fun hEnds => hEnd (.inl hEnds)
          | error e => trivial
      | none =>
          dsimp only
          cases message <;> exact hEnd (.inr hResponse)

theorem completes_readCopyStart {response : BackendMessage → Option CopyResponseBody}
    (hResponse : ∀ message body, response message = some body →
      message = .copyInResponse body ∨ message = .copyOutResponse body)
    {keep : Connection → Prop} (hKeep : UpToInbox keep) (ends : Prop) (violation : String) :
    Completes net (fun conn => conn.transport.WhileOpen (Begins response ends) ∧ keep conn ∧
        Clear conn) (readCopyStart response violation)
      (fun _ conn => (ends → conn.transport.Promised) ∧ keep conn ∧ Clear conn)
      (fun _ => Clear) := by
  have hBoth : UpToInbox fun conn => keep conn ∧ Clear conn :=
    fun conn conn' hTransport hFlag h =>
      ⟨hKeep conn conn' hTransport hFlag h.1, upToInbox_clear conn conn' hTransport hFlag h.2⟩
  have hLoop := @completes_messageLoop Unit CopyStart net CopyStart.progress id _
    (copyStartBody response) (orderly_copyStart hResponse) hBoth
    (fun _ => Begins response ends) (fun result _ => BeginsAfter ends result)
    (fun _ h => by
      obtain ⟨_, _, hReply, _⟩ := h
      cases hReply)
    (fun s entry entries s' h hStep => by
      cases entry with
      | error e => cases hStep
      | ok message =>
          have hNext := begins_next s h
          rw [show copyStartBody response s message = .next s' from hStep] at hNext
          exact hNext)
    (fun s entry entries result s' h hStep => by
      cases entry with
      | error e =>
          cases hStep
          trivial
      | ok message =>
          have hNext := begins_next s h
          rw [show copyStartBody response s message = .exit result s' from hStep] at hNext
          exact hNext)
  have hRead : Completes net (fun conn => conn.transport.WhileOpen (Begins response ends) ∧
        keep conn ∧ Clear conn) (Async.withLocal () (messageLoop (copyStartBody response)))
      (fun start conn => conn.transport.WhileOpen (BeginsAfter ends (.ok start)) ∧ keep conn ∧
        Clear conn) (fun _ => Clear) :=
    Completes.withLocal (hLoop.mono (fun _ h => h.2) (fun _ _ h => h) fun _ _ h => h.2.2)
  apply Completes.bind hRead
  intro start
  cases start with
  | response format columnFormats =>
      exact Completes.pure fun _ h => ⟨fun hEnds => h.1.mono fun _ hAfter => hAfter hEnds, h.2⟩
  | serverError body =>
      apply Completes.bind ((completes_drainServerError upToInbox_clear body).mono
        (fun conn h => ⟨h.1, h.2.2⟩) (fun _ _ h => h) fun _ _ h => h.keeps)
      exact fun _ => Completes.fail fun _ h => h
  | unexpected =>
      apply Completes.bind ((completes_readUntilReady upToInbox_clear).mono
        (fun conn h => ⟨h.1, h.2.2⟩) (fun _ _ h => h) fun _ _ h => h.keeps)
      intro _
      refine Completes.modify_bind Clear (fun _ h => h) ?_
      exact Completes.fail fun _ h => h

theorem Replied.begins {entries : List Entry} (h : Replied entries)
    (response : BackendMessage → Option CopyResponseBody) : Begins response True entries := by
  obtain ⟨sql, hReply⟩ := h
  obtain ⟨first, rest, hFirst, hReady⟩ := hReply.query_first
  refine ⟨first, rest, hFirst, hReady, fun _ hNone => ?_⟩
  obtain ⟨entry, hMem, hEntry⟩ := Replied.hasReady ⟨sql, hReply⟩
  have hAll : NoReady (replyOf entries) := by
    rw [hFirst]
    intro message hMem
    cases List.mem_cons.mp hMem with
    | inl hHead => rw [hHead, hReady]
    | inr hTail => exact hNone message hTail
  have hNot := not_ready_of_noReady hAll entry hMem
  rw [hEntry] at hNot
  cases hNot

theorem upToInbox_true : UpToInbox fun _ => True := fun _ _ _ _ _ => trivial

theorem completes_copyOut (sql : String) :
    Completes net (Startable server (SparedBy server [.query sql])) (copyOut sql)
      (fun _ => Awaiting Clear) (fun _ => Recoverable) := by
  have hStart : Completes net (Startable server (SparedBy server [.query sql]))
      (copyStart .copyOut copyOutResponse expectedCopyOut sql) (fun _ => Awaiting Clear)
      (fun _ => Recoverable) := by
    apply Completes.bind (completes_start rfl _)
    intro _
    apply Completes.bind ((completes_query sql).mono (fun _ h => h) (fun _ _ h => h)
      fun _ _ h => h.recoverable)
    intro _
    apply (completes_readCopyStart copyOutResponse_eq upToInbox_true True expectedCopyOut).mono
    · exact fun conn h => ⟨h.1.mono fun _ hReplied => hReplied.begins _, trivial, h.2⟩
    · exact fun _ conn h => ⟨h.1 trivial, h.2.2⟩
    · exact fun _ _ h => h.recoverable
  apply Completes.bind hStart
  exact fun _ => Completes.pure fun _ h => h

end Connection

namespace CopyIn

variable {net : Network} {server : Server net}

/-- A transfer to the server that goes on, unless the connection has been closed. -/
structure Live (server : Server net) (conn : Connection) : Prop where
  feeding : conn.transport.Feeding server
  clear : Clear conn

/-- If the server waits for COPY data, that is the first thing it says. -/
def Spared (server : Server net) (sql : String) (t : Transport) : Prop :=
  server.AwaitsCopy (t.after net [.query sql]) →
    ∃ body rest, replyOf (t.after net [.query sql]).inbox = .copyInResponse body :: rest

/-- The query that starts a transfer, on a server that may wait for its data then. -/
theorem completes_sendStart (sql : String) :
    Completes net (Prepared server (Spared server sql)) (send (.query sql))
      (fun _ conn => (conn.transport.WhileOpen Replied ∧ conn.transport.writeBuf = [] ∧
          Clear conn) ∨
        (conn.transport.WhileOpen (Begins copyInResponse False) ∧
          (conn.transport.writeBuf = [] ∧ server.mode conn.transport.history = .copyIn) ∧
          Clear conn)) (fun _ => Clear) := by
  rw [send_eq_sendBatch]
  apply (completes_sendBatch _ _).mono (fun _ h => h)
  · rintro _ conn ⟨⟨t, hStart, hSpared, hTransport⟩, hClear⟩
    have hEmpty : (t.after net [.query sql]).writeBuf = [] := by
      rw [Transport.after, deliverAll_writeBuf, flushed_writeBuf]
    rw [hTransport]
    by_cases hAwaits : server.AwaitsCopy (t.after net [.query sql])
    · obtain ⟨body, rest, hReply⟩ := hSpared hAwaits
      have hMode : server.mode (t.after net [.query sql]).history = .copyIn := by
        obtain hReady | hCopy := (replied_query hStart hAwaits.1).query_mode
        · obtain ⟨_, hMode | hMode⟩ := hAwaits
          · exact hMode
          · rw [hReady] at hMode
            cases hMode
        · exact hCopy
      refine .inr ⟨fun _ => ⟨_, rest, hReply, rfl, ?_⟩, ⟨hEmpty, hMode⟩, hClear⟩
      rintro (hFalse | hNone)
      · exact hFalse.elim
      · cases hNone
    · exact .inl ⟨replied_of_spared hStart hAwaits, hEmpty, hClear⟩
  · exact fun _ _ h => h

theorem completes_copyIn (sql : String) :
    Completes net (Startable server (Spared server sql)) (Connection.copyIn sql)
      (fun _ => Live server) (fun _ => Recoverable) := by
  have hStart : Completes net (Startable server (Spared server sql))
      (copyStart .copyIn copyInResponse expectedCopyIn sql) (fun _ => Live server)
      (fun _ => Recoverable) := by
    apply Completes.bind (completes_start rfl _)
    intro _
    apply Completes.bind ((completes_sendStart sql).mono (fun _ h => h) (fun _ _ h => h)
      fun _ _ h => h.recoverable)
    intro _
    apply Completes.or
    · have hKeep : UpToInbox fun conn => conn.transport.writeBuf = [] := by
        intro conn conn' hTransport _ h
        rw [hTransport]
        exact h
      apply (completes_readCopyStart copyInResponse_eq hKeep True expectedCopyIn).mono
      · exact fun conn h => ⟨h.1.mono fun _ hReplied => hReplied.begins _, h.2⟩
      · exact fun _ conn h => ⟨⟨by simp [h.2.1], fun hOpen => .inr (h.1 trivial hOpen)⟩, h.2.2⟩
      · exact fun _ _ h => h.recoverable
    · have hKeep : UpToInbox fun conn => conn.transport.writeBuf = [] ∧
          server.mode conn.transport.history = .copyIn := by
        intro conn conn' hTransport _ h
        rw [hTransport]
        exact h
      apply (completes_readCopyStart copyInResponse_eq hKeep False expectedCopyIn).mono
      · exact fun conn h => h
      · exact fun _ conn h => ⟨⟨by simp [h.2.1.1], fun _ => .inl h.2.1.2⟩, h.2.2⟩
      · exact fun _ _ h => h.recoverable
  apply Completes.bind hStart
  exact fun _ => Completes.pure fun _ h => h

theorem completes_write (data : Bytes) :
    Completes net (fun s => Live server s.2) (write data) (fun _ s => Live server s.2)
      (fun _ s => Live server s.2) := by
  have hSend : Completes net (Live server) (send (.copyData data)) (fun _ => Live server)
      (fun _ => Live server) := by
    constructor
    · intro conn h
      have hKept : Triple net
          (Framed conn fun t => t.Feeding server ∧
            (t.ending = none → conn.transport.ending = none)) (send (.copyData data))
          (fun _ => Framed conn fun t => t.Feeding server ∧
            (t.ending = none → conn.transport.ending = none))
          (SendFailed conn fun t => t.Feeding server ∧
            (t.ending = none → conn.transport.ending = none)) := by
        have hFlush : ∀ t t' : Transport,
            (t.Feeding server ∧ (t.ending = none → conn.transport.ending = none)) →
            t.flushWrite net = .ok t' →
            t'.Feeding server ∧ (t'.ending = none → conn.transport.ending = none) := by
          rintro t t' ⟨hFeeding, hOpen⟩ hResult
          rw [Transport.flushWrite_flushed hResult]
          exact ⟨hFeeding.flushed, fun hFlushed => hOpen (open_of_flushed hFlushed)⟩
        rw [send_eq_sendBatch]
        apply Triple.bind (triple_writeBatch ?_ hFlush)
        · exact fun _ => triple_flush hFlush (fun _ h => h) fun _ h => h
        · rintro t frame hMem ⟨hFeeding, hOpen⟩
          exact ⟨hFeeding.push (List.mem_singleton.mp hMem), hOpen⟩
      have hEnd := hKept conn ⟨conn.transport, rfl, h.feeding, id⟩
      revert hEnd
      match send (.copyData data) net conn with
      | (.ok _, conn') =>
          rintro ⟨t, rfl, hFeeding, hOpen⟩
          exact ⟨hFeeding, fun hFlag hOpen' => h.clear hFlag (hOpen hOpen')⟩
      | (.err _, conn') =>
          rintro ⟨_, t, rfl, hFeeding, hOpen⟩
          exact ⟨hFeeding, fun hFlag hOpen' => h.clear hFlag (hOpen hOpen')⟩
      | (.pending, conn') => exact id
    · intro conn h hPending
      have hEnds : Ends conn _ _ (sendBatch [.copyData data] net conn) :=
        @ends_sendBatch net conn conn.transport [.copyData data]
      rw [← send_eq_sendBatch] at hEnds
      revert hEnds hPending
      match send (.copyData data) net conn with
      | (.ok _, _) => exact fun h => nomatch h
      | (.err _, _) => exact fun h => nomatch h
      | (.pending, _) => exact fun _ => False.elim
  exact Completes.onSnd fun _ => hSend

/-- The message that ends the transfer is sent and its answer is ahead. -/
theorem completes_sendEnd {message : FrontendMessage} (hCopy : message.isCopy) :
    Completes net (fun conn => Live server conn ∧
        ((∀ reason, message ≠ .copyFail reason) →
          ¬ server.AwaitsCopy (conn.transport.after net [message]))) (send message)
      (fun _ => Awaiting Clear) (fun _ => Clear) := by
  rw [send_eq_sendBatch]
  have hEnds : ∀ conn, Ends conn (fun t' => t' = conn.transport.after net [message])
      (fun t' => t'.ending = none → conn.transport.ending = none)
      (sendBatch [message] net conn) := fun conn =>
    @ends_sendBatch net conn conn.transport [message]
  constructor
  · rintro conn ⟨hLive, hSpared⟩
    have hSent := hEnds conn
    revert hSent
    match sendBatch [message] net conn with
    | (.ok _, conn') =>
        rintro ⟨t, rfl, rfl⟩
        exact ⟨hLive.feeding.promised_after hCopy hSpared,
          fun hFlag hOpen => hLive.clear hFlag (open_of_after hOpen)⟩
    | (.err _, conn') =>
        rintro ⟨t, rfl, hOpen⟩
        exact fun hFlag hOpen' => hLive.clear hFlag (hOpen hOpen')
    | (.pending, conn') => exact False.elim
  · intro conn _ hPending
    have hSent := hEnds conn
    revert hSent hPending
    match sendBatch [message] net conn with
    | (.ok _, _) => exact fun h => nomatch h
    | (.err _, _) => exact fun h => nomatch h
    | (.pending, _) => exact fun _ => False.elim

theorem completes_finishLoop :
    Completes net (Awaiting Clear) finishLoop
      (fun ending conn => (ending.1.progress ≠ .ended → conn.transport.Promised) ∧ Clear conn)
      (fun _ => Clear) := by
  apply Completes.withLocal
  apply Completes.pre_mono _ (fun _ h => h.2)
  have hAttentive : Attentive ReplyEnd.progress finishBody := fun _ _ => ⟨_, _, rfl, rfl⟩
  apply Completes.bind ((hAttentive.completes orderly_finish upToInbox_clear).mono
    (fun _ h => h) (fun _ _ h => h) fun _ _ h => h.keeps)
  intro ending
  apply Completes.get_bind
  exact fun start h => Completes.pure fun _ hs => hs ▸ h

theorem completes_finish :
    Completes net (fun s => Live server s.2 ∧
        ¬ server.AwaitsCopy (s.2.transport.after net [.copyDone])) finish
      (fun _ s => Clear s.2) (fun _ s => Clear s.2) := by
  have hSend : Completes net (fun s : CopyIn × Connection => Live server s.2 ∧
        ¬ server.AwaitsCopy (s.2.transport.after net [.copyDone])) (Async.onSnd (send .copyDone))
      (fun _ s => Awaiting Clear s.2) (fun _ s => Clear s.2) :=
    Completes.onSnd fun _ => (completes_sendEnd rfl).pre_mono fun _ h => ⟨h.1, fun _ => h.2⟩
  apply Completes.bind hSend
  intro _
  have hLoop : Completes net (fun s : CopyIn × Connection => Awaiting Clear s.2)
      (Async.onSnd finishLoop)
      (fun ending s => (ending.1.progress ≠ .ended → s.2.transport.Promised) ∧ Clear s.2)
      (fun _ s => Clear s.2) := Completes.onSnd fun _ => completes_finishLoop
  apply Completes.bind hLoop
  rintro ⟨ending, rows⟩
  cases ending with
  | ready =>
      refine Completes.modify_bind (fun s => Clear s.2) (fun _ h => h.2) ?_
      exact Completes.pure fun _ h => h
  | serverError body =>
      have hDrain : Completes net (fun s : CopyIn × Connection => Awaiting Clear s.2)
          (Async.onSnd (drainServerError body)) (fun _ s => Clear s.2) (fun _ s => Clear s.2) :=
        Completes.onSnd fun _ => (completes_drainServerError upToInbox_clear body).mono
          (fun _ h => h) (fun _ _ h => h) fun _ _ h => h.keeps
      apply Completes.bind (hDrain.pre_mono fun s h => ⟨h.1 (by simp [ReplyEnd.progress]), h.2⟩)
      intro serverErr
      refine Completes.modify_bind (fun s => Clear s.2) (fun _ h => h) ?_
      exact Completes.fail fun _ h => h

theorem completes_cancel (reason : String) :
    Completes net (fun s => Live server s.2) (cancel reason) (fun _ s => Clear s.2)
      (fun _ s => Clear s.2) := by
  have hSend : Completes net (fun s : CopyIn × Connection => Live server s.2)
      (Async.onSnd (send (.copyFail reason))) (fun _ s => Awaiting Clear s.2)
      (fun _ s => Clear s.2) :=
    Completes.onSnd fun _ => (completes_sendEnd rfl).pre_mono
      fun _ h => ⟨h, fun hNot => absurd rfl (hNot reason)⟩
  apply Completes.bind hSend
  intro _
  have hSkip : Completes net (fun s : CopyIn × Connection => Awaiting Clear s.2)
      (Async.onSnd readUntilReady) (fun _ s => Clear s.2) (fun _ s => Clear s.2) :=
    Completes.onSnd fun _ => (completes_readUntilReady upToInbox_clear).mono
      (fun _ h => h) (fun _ _ h => h) fun _ _ h => h.keeps
  apply Completes.bind hSkip
  intro _
  refine Completes.modify_bind (fun s => Clear s.2) (fun _ h => h) ?_
  exact Completes.modify fun _ h => h

end CopyIn

namespace CopyOut

variable {net : Network} {server : Server net}

theorem completes_readNext :
    Completes net (fun s => Awaiting Clear s.2) readNext
      (fun data s => (data.isSome → s.2.transport.Promised) ∧ Clear s.2)
      (fun _ s => Clear s.2) := by
  have hAttentive : Attentive Event.progress readBody := fun _ _ => ⟨_, _, rfl, rfl⟩
  apply Completes.bind ((hAttentive.completes orderly_copyRead upToInbox_clear).mono
    (fun _ h => h) (fun _ _ h => h) fun _ _ h => h.keeps)
  intro event
  cases event with
  | chunk data =>
      exact Completes.pure fun _ h => ⟨fun _ => h.1 (by simp [Event.progress]), h.2⟩
  | finished => exact Completes.pure fun _ h => ⟨nofun, h.2⟩
  | serverError body =>
      have hDrain : Completes net (fun s : CopyOut × Connection => Awaiting Clear s.2)
          (Async.onSnd (drainServerError body)) (fun _ s => Clear s.2) (fun _ s => Clear s.2) :=
        Completes.onSnd fun _ => (completes_drainServerError upToInbox_clear body).mono
          (fun _ h => h) (fun _ _ h => h) fun _ _ h => h.keeps
      apply Completes.bind (hDrain.pre_mono fun s h => ⟨h.1 (by simp [Event.progress]), h.2⟩)
      intro serverErr
      refine Completes.modify_bind (fun s => Clear s.2) (fun _ h => h) ?_
      exact Completes.fail fun _ h => h

end CopyOut
end PgClient
