import PgClient.Library.Triple
import PgClient.Connection.Wire

/-!
Triples for sending requests and for read loops: what a request leaves on the wire, and
where a loop that keeps to its reply stops.
-/

namespace PgClient

open Drive

/-- The errors that a reply ends with, as against those of a send or a read. -/
def PgError.endsReply : PgError → Bool
  | .server _ | .protocol (.protocolViolation _) => true
  | _ => false

theorem ReadError.toPgError_endsReply (e : ReadError) : e.toPgError.endsReply = false := by
  cases e <;> rfl

theorem Network.encode_error {net : Network} {message : FrontendMessage} {e : ProtocolError}
    (h : net.encode message = .error e) : ∃ ioError, e = .io ioError := by
  have hMap : ∀ (f : IoError → ProtocolError) (hIo : ∀ x, ∃ ioError, f x = .io ioError)
      (result : Except IoError Bytes), result.mapError f = .error e →
        ∃ ioError, e = .io ioError := by
    intro f hIo result hError
    cases result with
    | ok bytes => cases hError
    | error x =>
        cases hError
        exact hIo x
  cases message with
  | sslRequest | cancelRequest | sync | flush | copyDone | terminate => cases h
  | bind => exact hMap _ (fun _ => ⟨_, rfl⟩) _ h
  | _ => exact hMap _ (fun x => ⟨x, rfl⟩) _ h

namespace Connection

open Async

/-- A connection that differs from another one in its transport only. -/
def Framed (base : Connection) (p : Transport → Prop) (conn : Connection) : Prop :=
  ∃ t, conn = { base with transport := t } ∧ p t

theorem framed_self {base : Connection} {p : Transport → Prop} (h : p base.transport) :
    Framed base p base := ⟨_, rfl, h⟩

theorem Framed.mono {base conn : Connection} {p q : Transport → Prop} (h : Framed base p conn)
    (hpq : ∀ t, p t → q t) : Framed base q conn := by
  obtain ⟨t, hConn, hp⟩ := h
  exact ⟨t, hConn, hpq t hp⟩

/-- A failure to send, and what it leaves on the wire. -/
def SendFailed (base : Connection) (p : Transport → Prop) (e : PgError) (conn : Connection) :
    Prop :=
  e.endsReply = false ∧ Framed base p conn

section Sending

variable {net : Network} {base : Connection} {p ok err : Transport → Prop}

theorem triple_encode (message : FrontendMessage) :
    Triple net (Framed base p) (encode message)
      (fun frame conn => frame.message = message ∧ Framed base p conn) (SendFailed base p) := by
  intro conn h
  simp only [encode]
  cases hEncode : net.encode message with
  | ok bytes => exact ⟨rfl, h⟩
  | error e =>
      obtain ⟨ioError, rfl⟩ := Network.encode_error hEncode
      exact ⟨rfl, h⟩

theorem triple_writeAll {frame : Frame} (hPush : ∀ t, p t → ok (t.push frame))
    (hFlush : ∀ t t', p t → (t.push frame).flushWrite net = .ok t' → ok t')
    (hErr : ∀ t, p t → err (t.push frame)) :
    Triple net (Framed base p) (writeAll frame) (fun _ => Framed base ok)
      (SendFailed base err) := by
  rintro conn ⟨t, rfl, h⟩
  simp only [writeAll]
  split
  case isFalse => exact ⟨_, rfl, hPush t h⟩
  case isTrue =>
      cases hResult : (t.push frame).flushWrite net with
      | ok t' => exact ⟨t', rfl, hFlush t t' h hResult⟩
      | error e => exact ⟨rfl, _, rfl, hErr t h⟩

theorem triple_flush (hFlush : ∀ t t', p t → t.flushWrite net = .ok t' → ok t')
    (hErr : ∀ t, p t → err t) (hErrOk : ∀ t, ok t → err t) :
    Triple net (Framed base p) flush (fun _ => Framed base ok) (SendFailed base err) := by
  rintro conn ⟨t, rfl, h⟩
  simp only [flush]
  cases hResult : t.flushWrite net with
  | error e => exact ⟨rfl, _, rfl, hErr t h⟩
  | ok t' =>
      have hOk := hFlush t t' h hResult
      dsimp only
      cases net.flushError t'.history with
      | none => exact ⟨t', rfl, hOk⟩
      | some e => exact ⟨rfl, t', rfl, hErrOk t' hOk⟩

theorem triple_encodeAndWrite {message : FrontendMessage}
    (hPush : ∀ t frame, frame.message = message → p t → ok (t.push frame))
    (hFlush : ∀ t t' frame, frame.message = message → p t →
      (t.push frame).flushWrite net = .ok t' → ok t')
    (hErr : ∀ t, p t → err t)
    (hErrPush : ∀ t frame, frame.message = message → p t → err (t.push frame)) :
    Triple net (Framed base p) (encodeAndWrite message) (fun _ => Framed base ok)
      (SendFailed base err) := by
  apply Triple.bind
  · exact (triple_encode message).mono (fun _ h => h) (fun _ _ h => h)
      fun _ _ h => ⟨h.1, h.2.mono hErr⟩
  · intro frame conn h
    exact triple_writeAll (fun t => hPush t frame h.1) (fun t t' => hFlush t t' frame h.1)
      (fun t => hErrPush t frame h.1) conn h.2

/-- What pushing and flushing any message of a batch keep. -/
theorem triple_writeBatch {messages : List FrontendMessage}
    (hPush : ∀ t frame, frame.message ∈ messages → p t → p (t.push frame))
    (hFlush : ∀ t t', p t → t.flushWrite net = .ok t' → p t') :
    Triple net (Framed base p) (writeBatch messages) (fun _ => Framed base p)
      (SendFailed base p) := by
  induction messages with
  | nil => exact Triple.pure fun _ h => h
  | cons message messages ih =>
      apply Triple.bind
      · have hFirst : ∀ t frame, frame.message = message → p t → p (t.push frame) :=
          fun t frame hMessage => hPush t frame (hMessage ▸ List.mem_cons_self)
        exact triple_encodeAndWrite hFirst
          (fun t t' frame hMessage h => hFlush _ t' (hFirst t frame hMessage h))
          (fun _ h => h) hFirst
      · exact fun _ => ih fun t frame hMem => hPush t frame (List.mem_cons_of_mem _ hMem)

theorem writeBatch_append (first later : List FrontendMessage) :
    writeBatch (first ++ later) = (writeBatch first >>= fun _ => writeBatch later) := by
  induction first with
  | nil => rfl
  | cons message first ih =>
      rw [List.cons_append, writeBatch, writeBatch, ih, bind_assoc]

theorem send_eq_sendBatch (message : FrontendMessage) : send message = sendBatch [message] := by
  simp [send, sendBatch, writeBatch]

end Sending

section Requests

variable {net : Network} {server : Server net} {base : Connection}

/-- A request is on the wire with everything that was buffered before it. -/
def Sent (server : Server net) (t : Transport) : Prop := t.Tidy server ∧ t.writeBuf = []

/-- The last message of a request is written: still buffered, or delivered. -/
private def Complete (server : Server net) (t : Transport) : Prop :=
  Sent server t ∨ ∃ t₀ frame, t = Transport.push t₀ frame ∧ t₀.Quiet server

private theorem Complete.flushWrite {t t' : Transport} (h : Complete server t)
    (hFlush : t.flushWrite net = .ok t') : Sent server t' := by
  cases h with
  | inl hSent =>
      refine ⟨hSent.1.flushWrite_copy ?_ hFlush, Transport.flushWrite_writeBuf hFlush⟩
      simp [hSent.2]
  | inr hLast =>
      obtain ⟨t₀, frame, rfl, hQuiet⟩ := hLast
      exact ⟨hQuiet.flushWrite_last hFlush, Transport.flushWrite_writeBuf hFlush⟩

private theorem Complete.tidy {t : Transport} (h : Complete server t) : t.Tidy server := by
  cases h with
  | inl hSent => exact hSent.1
  | inr hLast =>
      obtain ⟨t₀, frame, rfl, hQuiet⟩ := hLast
      exact Transport.tidy_of_noReady ⟨hQuiet.tracked.ending, hQuiet.tracked.suffix⟩ hQuiet.inbox

/-- A batch whose last message alone may ask for a `ReadyForQuery`. -/
theorem triple_sendBatch {messages : List FrontendMessage} (last : FrontendMessage)
    (hAsks : ∀ message ∈ messages, message.asksReady = false) :
    Triple net (Framed base (Transport.Quiet server)) (sendBatch (messages ++ [last]))
      (fun _ => Framed base (Sent server)) (SendFailed base (Transport.Tidy server)) := by
  have hPush : ∀ t frame, frame.message ∈ messages → Transport.Quiet server t →
      (t.push frame).Quiet server := by
    intro t frame hMem h
    refine ⟨⟨h.tracked.ending, h.tracked.suffix⟩, h.inbox, h.mode, ?_⟩
    intro f hf
    cases List.mem_append.mp hf with
    | inl hOld => exact h.writeBuf f hOld
    | inr hNew =>
        rw [List.mem_singleton.mp hNew]
        exact hAsks _ hMem
  rw [sendBatch, writeBatch_append, bind_assoc]
  apply Triple.bind
  · exact (triple_writeBatch hPush fun _ _ h => h.flushWrite).mono (fun _ h => h) (fun _ _ h => h)
      fun _ _ h => ⟨h.1, h.2.mono fun _ => Transport.Quiet.tidy⟩
  intro _
  apply Triple.bind_via (fun _ => Framed base (Complete server))
  · apply Triple.bind_via (fun _ => Framed base (Complete server))
    · apply triple_encodeAndWrite
      · exact fun t frame _ h => .inr ⟨t, frame, rfl, h⟩
      · exact fun t t' frame _ h hFlush =>
          .inl ⟨h.flushWrite_last hFlush, Transport.flushWrite_writeBuf hFlush⟩
      · exact fun t h => h.tidy
      · exact fun t frame _ h =>
          Complete.tidy (.inr ⟨t, frame, rfl, h⟩)
    · exact fun _ => Triple.pure fun _ h => h
  · exact fun _ => triple_flush (fun _ _ h => h.flushWrite) (fun _ h => h.tidy) fun _ h => h.1

/-- During a COPY only its messages can be waiting in the buffer. -/
def Copying (server : Server net) (t : Transport) : Prop :=
  t.Tidy server ∧ ∀ frame ∈ t.writeBuf, frame.message.isCopy

theorem Sent.copying {t : Transport} (h : Sent server t) : Copying server t :=
  ⟨h.1, by simp [h.2]⟩

theorem Copying.push {t : Transport} (h : Copying server t) {frame : Frame}
    (hCopy : frame.message.isCopy) : Copying server (t.push frame) := by
  have hBuf : ∀ f ∈ (t.push frame).writeBuf, f.message.isCopy := by
    intro f hf
    cases List.mem_append.mp hf with
    | inl hOld => exact h.2 f hOld
    | inr hNew =>
        rw [List.mem_singleton.mp hNew]
        exact hCopy
  refine ⟨⟨⟨h.1.tracked.ending, h.1.tracked.suffix⟩, ?_⟩, hBuf⟩
  intro pre entry post hSplit hReady
  obtain ⟨hPost, hMode, _⟩ := h.1.tail pre entry post hSplit hReady
  exact ⟨hPost, hMode, hBuf⟩

theorem Copying.flushWrite {t t' : Transport} (h : Copying server t)
    (hFlush : t.flushWrite net = .ok t') : Sent server t' :=
  ⟨h.1.flushWrite_copy h.2 hFlush, Transport.flushWrite_writeBuf hFlush⟩

/-- COPY messages may be sent whatever the server has made of the COPY. -/
theorem triple_send_copy {message : FrontendMessage} (hCopy : message.isCopy) :
    Triple net (Framed base (Copying server)) (send message)
      (fun _ => Framed base (Sent server)) (SendFailed base (Copying server)) := by
  rw [send_eq_sendBatch]
  apply Triple.bind
  · apply triple_writeBatch
    · intro t frame hMem h
      rw [List.mem_singleton] at hMem
      exact h.push (hMem ▸ hCopy)
    · exact fun _ _ h hFlush => (h.flushWrite hFlush).copying
  · exact fun _ => triple_flush (fun _ _ h => h.flushWrite) (fun _ h => h) fun _ => Sent.copying

theorem triple_sendBatch_dead (messages : List FrontendMessage) :
    Triple net (Framed base Transport.Dead) (sendBatch messages)
      (fun _ => Framed base Transport.Dead) (SendFailed base Transport.Dead) := by
  apply Triple.bind
  · exact triple_writeBatch (fun _ frame _ h => h.push frame) fun _ _ h => h.flushWrite
  · exact fun _ => triple_flush (fun _ _ h => h.flushWrite) (fun _ h => h) fun _ h => h

end Requests

section Reading

variable {L β : Type}

/-- What the messages inside a reply leave alone. -/
structure SameWire (conn conn' : Connection) : Prop where
  transport : conn'.transport = conn.transport
  state : conn'.state = conn.state
  needsRecovery : conn'.needsRecovery = conn.needsRecovery

theorem SameWire.refl (conn : Connection) : SameWire conn conn := ⟨rfl, rfl, rfl⟩

theorem SameWire.trans {conn conn' conn'' : Connection} (h : SameWire conn conn')
    (h' : SameWire conn' conn'') : SameWire conn conn'' :=
  ⟨h'.transport.trans h.transport, h'.state.trans h.state,
    h'.needsRecovery.trans h.needsRecovery⟩

theorem sameWire_of_handleAsyncMessage {conn conn' : Connection} {message : BackendMessage}
    (h : conn.handleAsyncMessage message = some conn') : SameWire conn conn' := by
  cases message with
  | noticeResponse body =>
      simp only [handleAsyncMessage] at h
      split at h <;> cases h <;> exact ⟨rfl, rfl, rfl⟩
  | parameterStatus body =>
      simp only [handleAsyncMessage] at h
      split at h <;> cases h <;> exact ⟨rfl, rfl, rfl⟩
  | notificationResponse body =>
      cases h
      exact ⟨rfl, rfl, rfl⟩
  | _ => cases h

/-- How far into its reply a loop is when it leaves. -/
inductive Progress where
  | inside
  | failed (body : ErrorBody)
  | ended

/-- The connection after a `ReadyForQuery`, in the state that the loop sets. -/
structure Ended (final : ConnectionState → ConnectionState) (conn : Connection) (status : UInt8)
    (conn' : Connection) : Prop where
  transport : conn'.transport = conn.transport
  state : conn'.state = final conn.state
  transactionStatus : conn'.transactionStatus = TransactionStatus.ofReady status
  needsRecovery : conn'.needsRecovery = conn.needsRecovery

def OrderlyStep (progress : β → Progress) (final : ConnectionState → ConnectionState)
    (conn : Connection) (message : BackendMessage) : Step (L × Connection) (Except PgError β) → Prop
  | .next s' => SameWire conn s'.2
  | .exit (.error e) s' => SameWire conn s'.2 ∧ message.wellFormed = false ∧ e.endsReply = false
  | .exit (.ok b) s' =>
      match progress b with
      | .inside => SameWire conn s'.2
      | .failed body => message = .errorResponse body ∧ SameWire conn s'.2
      | .ended => ∃ status, message = .readyForQuery status ∧ Ended final conn status s'.2

/-- A loop body that only touches the connection as the end of a reply tells it. -/
def Orderly (progress : β → Progress) (final : ConnectionState → ConnectionState)
    (body : L × Connection → BackendMessage → Step (L × Connection) (Except PgError β)) : Prop :=
  ∀ s message, OrderlyStep progress final s.2 message (body s message)

variable {progress : β → Progress} {final : ConnectionState → ConnectionState}
  {body : L × Connection → BackendMessage → Step (L × Connection) (Except PgError β)}

theorem Orderly.asyncFirst (h : Orderly progress final body) :
    Orderly progress final (asyncFirst body) := by
  intro s message
  simp only [Connection.asyncFirst]
  cases hAsync : s.2.handleAsyncMessage message with
  | some conn => exact sameWire_of_handleAsyncMessage hAsync
  | none => exact h s message

/-- A loop that goes on leaves the wire as it was. -/
theorem Orderly.sameWire (h : Orderly progress final body) {s s' : L × Connection}
    {entries : List Entry} (hDrive : drive (readStep body) s entries = .waiting s') :
    SameWire s.2 s'.2 := by
  have hInv := drive_invariant (readStep body) (fun s' => SameWire s.2 s'.2) (fun _ _ => True)
    (by
      intro s₁ entry s₂ hSame hStep
      cases entry with
      | error e => cases hStep
      | ok message =>
          have hBody := h s₁ message
          rw [show body s₁ message = .next s₂ from hStep] at hBody
          exact hSame.trans hBody)
    (fun _ _ _ _ _ _ => trivial) (SameWire.refl s.2) entries
  rw [hDrive] at hInv
  exact hInv

end Reading

section Replies

variable {L β : Type} {net : Network} (server : Server net)

/-- A property of connections that reading messages inside a reply keeps. -/
structure Stable (keep : Connection → Prop) : Prop where
  tidy : ∀ conn, keep conn → conn.transport.Tidy server
  read : ∀ conn conn' taken rest, keep conn → SameWire conn conn' →
    conn.transport.inbox = taken ++ rest → keep (conn'.setInbox rest)

/-- Unless the stream has ended, the property holds. -/
def Reading (keep : Connection → Prop) (conn : Connection) : Prop :=
  conn.transport.Dead ∨ keep conn

/-- In the middle of an operation: its reply may be unread, in part or whole. -/
def Busy (conn : Connection) : Prop := conn.state ≠ .idle ∧ Copying server conn.transport

abbrev Mid (conn : Connection) : Prop := Reading (Busy server) conn

/-- Between operations, whether or not the last one came to its end. -/
def Between (conn : Connection) : Prop :=
  conn.transport.Tidy server ∧ (conn.state = .idle → conn.transport.Settled server)

abbrev Good (conn : Connection) : Prop := Reading (Between server) conn

/-- Every reply has been read through its last `ReadyForQuery`, whose status is known. -/
structure Boundary (conn : Connection) : Prop where
  settled : conn.transport.Settled server
  status : ∃ consumed status,
    net.emitted conn.transport.history =
      consumed ++ .ok (.readyForQuery status) :: conn.transport.inbox ∧
    conn.transactionStatus = TransactionStatus.ofReady status

/-- Every unread message can be read and parsed. -/
def Legible (conn : Connection) : Prop := ∀ entry ∈ conn.transport.inbox, entry.wellFormed

/-- A failure to read. Where all messages can be parsed it means that the stream has
ended. -/
structure ReadFailed (keep : Connection → Prop) (e : PgError) (conn : Connection) : Prop where
  error : e.endsReply = false
  reading : Reading keep conn
  dead : (∀ conn, keep conn → Legible conn) → conn.transport.Dead

/-- Where a loop stands when it has left with a value. -/
def LoopPost (keep : Connection → Prop) (progress : β → Progress)
    (final : ConnectionState → ConnectionState) (b : β) (conn : Connection) : Prop :=
  match progress b with
  | .inside => Reading keep conn
  | .failed body => Reading keep conn ∧ ((∀ conn, keep conn → Legible conn) → body.fields.isOk)
  | .ended => Boundary server conn ∧ ∃ state, conn.state = final state

variable {server} {progress : β → Progress} {final : ConnectionState → ConnectionState}
  {body : L × Connection → BackendMessage → Step (L × Connection) (Except PgError β)}
  {keep : Connection → Prop}

theorem stable_busy : Stable server (Busy server) where
  tidy := fun _ h => h.2.1
  read := by
    intro conn conn' taken rest h hSame hInbox
    refine ⟨by simpa [setInbox, hSame.state] using h.1, ?_, ?_⟩
    · simp only [setInbox, hSame.transport]
      exact h.2.1.drop hInbox
    · simpa [setInbox, hSame.transport] using h.2.2

theorem stable_legible (hKeep : Stable server keep) :
    Stable server fun conn => keep conn ∧ Legible conn where
  tidy := fun conn h => hKeep.tidy conn h.1
  read := by
    intro conn conn' taken rest h hSame hInbox
    refine ⟨hKeep.read conn conn' taken rest h.1 hSame hInbox, ?_⟩
    exact fun entry hMem => h.2 entry (hInbox ▸ List.mem_append_right _ hMem)

theorem stable_between : Stable server (Between server) where
  tidy := fun _ h => h.1
  read := by
    intro conn conn' taken rest h hSame hInbox
    refine ⟨?_, ?_⟩
    · simp only [setInbox, hSame.transport]
      exact h.1.drop hInbox
    · intro hIdle
      have hSettled := h.2 (by simpa [setInbox, hSame.state] using hIdle)
      simp only [setInbox, hSame.transport]
      refine ⟨(h.1.drop hInbox).tracked, ?_, hSettled.mode, hSettled.writeBuf⟩
      exact fun entry hMem => hSettled.inbox entry (hInbox ▸ List.mem_append_right _ hMem)

theorem boundary_setInbox {conn conn' : Connection} {status : UInt8}
    (hEnded : Ended final conn status conn') (hTidy : conn.transport.Tidy server)
    {taken rest : List Entry}
    (hInbox : conn.transport.inbox = taken ++ .ok (.readyForQuery status) :: rest) :
    Boundary server (conn'.setInbox rest) := by
  simp only [setInbox, hEnded.transport]
  refine ⟨hTidy.settled hInbox rfl, ?_⟩
  obtain ⟨pre, hPre⟩ := hTidy.tracked.suffix
  exact ⟨pre ++ taken, status, by simp [← hPre, hInbox], hEnded.transactionStatus⟩

theorem Orderly.triple (h : Orderly progress final body) (hKeep : Stable server keep) :
    Triple net (fun s => Reading keep s.2) (messageLoop body)
      (fun b s => LoopPost server keep progress final b s.2)
      (fun e s => ReadFailed keep e s.2) := by
  intro s hReading
  simp only [messageLoop]
  cases hDrive : drive (readStep body) s s.2.transport.inbox with
  | waiting s' =>
      have hSame := h.sameWire hDrive
      cases hEnding : s.2.transport.ending with
      | none => trivial
      | some e =>
          have hDead : (s'.2.setInbox []).transport.Dead := by
            refine ⟨rfl, ?_⟩
            simp [setInbox, hSame.transport, hEnding]
          exact ⟨e.toPgError_endsReply, .inl hDead, fun _ => hDead⟩
  | done result s' rest =>
      obtain ⟨taken, entry, s₁, hInbox, hTaken, hExit⟩ := drive_done_split _ hDrive
      have hSame := h.sameWire hTaken
      obtain hDead | hHolds := hReading
      · simp [hDead.inbox] at hInbox
      have hTidy := hKeep.tidy s.2 hHolds
      have hRest : s.2.transport.inbox = (taken ++ [entry]) ++ rest := by simp [hInbox]
      have hUnread : (∀ conn, keep conn → Legible conn) → entry.wellFormed := fun hLegible =>
        hLegible s.2 hHolds entry (by simp [hInbox])
      have hKept : ∀ conn', SameWire s.2 conn' → Reading keep (conn'.setInbox rest) :=
        fun conn' hSame => .inr (hKeep.read s.2 conn' _ rest hHolds hSame hRest)
      cases entry with
      | error e =>
          cases hExit
          exact ⟨e.toPgError_endsReply, hKept _ hSame,
            fun hLegible => absurd (hUnread hLegible) (by simp [Entry.wellFormed])⟩
      | ok message =>
          have hBody := h s₁ message
          rw [show body s₁ message = .exit result s' from hExit] at hBody
          cases result with
          | error e =>
              obtain ⟨hLast, hMalformed, hError⟩ := hBody
              exact ⟨hError, hKept _ (hSame.trans hLast),
                fun hLegible => absurd (hUnread hLegible) (by simp [Entry.wellFormed, hMalformed])⟩
          | ok b =>
              simp only [OrderlyStep] at hBody
              simp only [Outcome.ofExcept_ok, post_ok, LoopPost]
              cases hProgress : progress b with
              | inside =>
                  rw [hProgress] at hBody
                  exact hKept _ (hSame.trans hBody)
              | failed errorBody =>
                  rw [hProgress] at hBody
                  obtain ⟨rfl, hLast⟩ := hBody
                  exact ⟨hKept _ (hSame.trans hLast), hUnread⟩
              | ended =>
                  rw [hProgress] at hBody
                  obtain ⟨status, rfl, hEnded⟩ := hBody
                  have hFromStart : Ended final s.2 status s'.2 :=
                    ⟨hEnded.transport.trans hSame.transport, by rw [hEnded.state, hSame.state],
                      hEnded.transactionStatus, hEnded.needsRecovery.trans hSame.needsRecovery⟩
                  exact ⟨boundary_setInbox hFromStart hTidy hInbox, _, hFromStart.state⟩

/-- What a loop makes of its own local variable, whatever it reads. -/
theorem triple_messageLoop_local (inv : L → Prop) (post : β → L → Prop)
    (hNext : ∀ s message s', inv s.1 → body s message = .next s' → inv s'.1)
    (hExit : ∀ s message b s', inv s.1 → body s message = .exit (.ok b) s' → post b s'.1) :
    Triple net (fun s => inv s.1) (messageLoop body) (fun b s => post b s.1)
      (fun _ _ => True) := by
  intro s h
  have hDrive := drive_invariant (readStep body) (fun s => inv s.1)
    (fun result s => ∀ b, result = .ok b → post b s.1)
    (by
      intro s₁ entry s₂ hInv hStep
      cases entry with
      | error e => cases hStep
      | ok message => exact hNext s₁ message s₂ hInv hStep)
    (by
      intro s₁ entry result s₂ hInv hStep b hResult
      cases entry with
      | error e =>
          cases hStep
          cases hResult
      | ok message => exact hExit s₁ message b s₂ hInv (hResult ▸ hStep))
    h s.2.transport.inbox
  simp only [messageLoop]
  revert hDrive
  cases drive (readStep body) s s.2.transport.inbox with
  | waiting s' => cases s.2.transport.ending <;> exact fun _ => trivial
  | done result s' rest =>
      intro hDrive
      cases result with
      | ok b => exact hDrive b rfl
      | error e => trivial

end Replies

end Connection
end PgClient
