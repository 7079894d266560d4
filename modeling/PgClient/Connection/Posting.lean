import PgClient.Effects.Loops
import PgClient.Pairing.Frame
import PgClient.Pairing.Operations

/-!
What has been posted, and what has been learnt. A message is posted once it is written, whether
or not it has reached the server; a loop that returns at the end of a reply has learnt what the
messages of the reply say.
-/

namespace PgClient

open Drive Async Connection

namespace Transport

/-- What the server has been sent or will be with the next flush, newest first. -/
def posted (t : Transport) : List FrontendMessage :=
  (t.writeBuf.map Frame.message).reverse ++ t.history

@[simp] theorem posted_push (t : Transport) (frame : Frame) :
    (t.push frame).posted = frame.message :: t.posted := by
  simp [posted, push]

theorem posted_of_sent {t : Transport} (h : t.writeBuf = []) : t.posted = t.history := by
  simp [posted, h]

/-- Nobody answers on a stream that has ended. -/
theorem Dead.answered {net : Network} {t : Transport} (h : t.Dead)
    (messages : List FrontendMessage) :
    ((t.flushed net).deliverAll net messages).inbox = [] := by
  have hClear : ({ t with writeBuf := [] } : Transport).Dead := ⟨h.inbox, h.ending⟩
  exact ((hClear.deliverAll _).deliverAll messages).inbox

theorem posted_flushWrite {net : Network} {t t' : Transport} (h : t.flushWrite net = .ok t') :
    t'.posted = t.posted := by
  rw [flushWrite_flushed h, posted_of_sent (flushed_writeBuf net t), flushed_history, posted]

end Transport

/-- The messages that the protocol library can encode. -/
def Network.encodable (net : Network) (messages : List FrontendMessage) : List FrontendMessage :=
  messages.filter fun message => (net.encode message).isOk

namespace Connection

section Posting

variable (net : Network) (conn : Connection)

theorem posted_writeAll (frame : Frame) :
    (writeAll frame net conn).2.transport.posted = frame.message :: conn.transport.posted := by
  simp only [writeAll]
  split
  · cases hFlush : (conn.transport.push frame).flushWrite net with
    | error e => exact Transport.posted_push _ _
    | ok t => exact (Transport.posted_flushWrite hFlush).trans (Transport.posted_push _ _)
  · exact Transport.posted_push _ _

theorem posted_flush : (flush net conn).2.transport.posted = conn.transport.posted := by
  simp only [flush]
  cases hFlush : conn.transport.flushWrite net with
  | error e => rfl
  | ok t =>
      dsimp only
      cases net.flushError t.history <;> exact Transport.posted_flushWrite hFlush

/-- A send posts its message unless it cannot be encoded, whatever becomes of the flush. -/
theorem posted_send (message : FrontendMessage) :
    (send message net conn).2.transport.posted =
      (net.encodable [message]).reverse ++ conn.transport.posted := by
  simp only [send, bind_apply, encodeAndWrite_apply]
  cases hEncode : net.encode message with
  | error e =>
      have hNone : net.encodable [message] = [] := by
        simp [Network.encodable, hEncode, Except.isOk, Except.toBool]
      rw [hNone]
      rfl
  | ok bytes =>
      have hOne : net.encodable [message] = [message] := by
        simp [Network.encodable, hEncode, Except.isOk, Except.toBool]
      rw [hOne]
      have hWrite := posted_writeAll net conn { message, bytes }
      dsimp only
      revert hWrite
      cases writeAll { message, bytes } net conn with
      | mk outcome conn₁ =>
          intro hWrite
          cases outcome with
          | ok => exact (posted_flush net conn₁).trans hWrite
          | err e => exact hWrite
          | pending => exact hWrite

/-- A request that succeeds has delivered its messages behind all that was posted. -/
theorem sent_of_sendBatch {messages : List FrontendMessage} {conn' : Connection}
    (h : sendBatch messages net conn = (.ok (), conn')) :
    conn' = { conn with transport := (conn.transport.flushed net).deliverAll net messages } := by
  have hExact := @triple_sendBatch_exact net conn (conn.transport.flushed net) messages conn
    (framed_self rfl)
  rw [h] at hExact
  obtain ⟨t, hConn, ht⟩ := hExact
  rw [hConn, ht]

theorem posted_of_sendBatch {messages : List FrontendMessage} {conn' : Connection}
    (h : sendBatch messages net conn = (.ok (), conn')) :
    conn'.transport.posted = messages.reverse ++ conn.transport.posted := by
  rw [sent_of_sendBatch net conn h]
  have hSent : ((conn.transport.flushed net).deliverAll net messages).writeBuf = [] :=
    (Transport.deliverAll_writeBuf ..).trans (Transport.flushed_writeBuf net conn.transport)
  exact (Transport.posted_of_sent hSent).trans ((Transport.deliverAll_history ..).trans
    (congrArg _ (Transport.flushed_history net conn.transport)))

theorem sent_of_send {message : FrontendMessage} {conn' : Connection}
    (h : send message net conn = (.ok (), conn')) :
    conn' = { conn with transport := (conn.transport.flushed net).deliver net message } := by
  rw [send_eq_sendBatch] at h
  exact sent_of_sendBatch net conn h

end Posting

section Reading

variable {net : Network} {t : Transport}

/-- Nothing but reading has been done on a transport. -/
def OnlyRead (t : Transport) (conn : Connection) : Prop :=
  ∃ inbox, conn.transport = { t with inbox }

theorem keeps_onlyRead {L β : Type} {progress : β → Progress}
    {final : ConnectionState → ConnectionState}
    {body : L × Connection → BackendMessage → Step (L × Connection) (Except PgError β)}
    (h : Orderly progress final body) :
    Keeps net (fun s => OnlyRead t s.2) (messageLoop body) := by
  apply keeps_orderly (OnlyRead t) h
  · intro conn conn' hSame hRead
    rw [OnlyRead, hSame.transport]
    exact hRead
  · intro conn status conn' hEnded hRead
    rw [OnlyRead, hEnded.transport]
    exact hRead
  · rintro conn inbox ⟨_, hRead⟩
    exact ⟨inbox, by simp [setInbox, hRead]⟩

/-- After a send that has succeeded the server has all that was posted before it. -/
theorem OnlyRead.after_send {message : FrontendMessage} {conn : Connection}
    (h : OnlyRead ((t.flushed net).deliver net message) conn) :
    conn.transport.writeBuf = [] ∧ conn.transport.history = message :: t.posted := by
  obtain ⟨inbox, hTransport⟩ := h
  rw [hTransport]
  exact ⟨(Transport.deliver_writeBuf _ _ _).trans (Transport.flushed_writeBuf net t),
    (Transport.deliver_history _ _ _).trans (congrArg _ (Transport.flushed_history net t))⟩

theorem onlyRead_self (conn : Connection) : OnlyRead conn.transport conn :=
  ⟨conn.transport.inbox, rfl⟩

theorem onlyRead_readUntilReady : Keeps net (OnlyRead t) readUntilReady :=
  keeps_withLocal (keeps_onlyRead orderly_readUntilReady)

theorem onlyRead_drainServerError (body : ErrorBody) :
    Keeps net (OnlyRead t) (drainServerError body) := by
  refine keeps_bind (keeps_lift _) fun _ => ?_
  refine keeps_bind onlyRead_readUntilReady fun _ => ?_
  exact keeps_bind (keeps_modify fun _ h => h) fun _ => keeps_pure _

theorem transport_of_transition {state : ConnectionState} {conn conn' : Connection}
    (h : transition state net conn = (.ok (), conn')) : conn'.transport = conn.transport := by
  simp only [transition] at h
  split at h <;> cases h
  rfl

/-- An operation begins on an idle connection. -/
theorem idle_of_transition {state : ConnectionState} {conn conn' : Connection}
    (hActive : state.isActive) (h : transition state net conn = (.ok (), conn')) :
    conn.state = .idle := by
  simp only [transition] at h
  split at h
  case isTrue hPermits => exact ConnectionState.idle_of_permits hActive hPermits
  case isFalse => cases h

section Sifting

variable {L β : Type} {learn : L → Entry → L} {passes : Entry → Prop}
  {last : Except PgError β → BackendMessage → L → L → Prop}
  {body : L × Connection → BackendMessage → Step (L × Connection) (Except PgError β)}

/-- A loop that passes messages of one kind, of which its local variable keeps what they say
alone, and that leaves at the others. -/
def Sifts (learn : L → Entry → L) (passes : Entry → Prop)
    (last : Except PgError β → BackendMessage → L → L → Prop)
    (body : L × Connection → BackendMessage → Step (L × Connection) (Except PgError β)) : Prop :=
  ∀ l conn message, match body (l, conn) message with
    | .next s => s.1 = learn l (.ok message) ∧ passes (.ok message)
    | .exit result s => last result message l s.1

/-- What the loop passes, by one message after the other. -/
theorem drive_sifts (hBody : Sifts learn passes last body) {l : L} {conn : Connection}
    {taken : List Entry} {s' : L × Connection}
    (h : drive (readStep body) (l, conn) taken = .waiting s') :
    s'.1 = taken.foldl learn l ∧ ∀ entry ∈ taken, passes entry := by
  induction taken generalizing l conn with
  | nil =>
      cases h
      exact ⟨rfl, by simp⟩
  | cons entry taken ih =>
      cases hStep : readStep body (l, conn) entry with
      | exit result s₁ =>
          rw [drive_cons_exit _ _ hStep] at h
          cases h
      | next s₁ =>
          rw [drive_cons_next _ _ hStep] at h
          obtain ⟨hLearnt, hTaken⟩ := ih h
          cases entry with
          | error e => cases hStep
          | ok message =>
              have hNext := hBody l conn message
              rw [show body (l, conn) message = .next s₁ from hStep] at hNext
              rw [hNext.1] at hLearnt
              exact ⟨hLearnt, List.forall_mem_cons.mpr ⟨hNext.2, hTaken⟩⟩

/-- Where it leaves. -/
theorem drive_sifted (hBody : Sifts learn passes last body) {s s' : L × Connection}
    {entries rest : List Entry} {result : Except PgError β}
    (h : drive (readStep body) s entries = .done result s' rest) :
    ∃ taken entry, entries = taken ++ entry :: rest ∧ (∀ e ∈ taken, passes e) ∧
      ((∃ e, entry = .error e) ∧ (∃ e, result = .error e) ∨
        ∃ message, entry = .ok message ∧ last result message (taken.foldl learn s.1) s'.1) := by
  obtain ⟨taken, entry, s₁, hEntries, hTaken, hExit⟩ := drive_done_split _ h
  obtain ⟨hLearnt, hPassed⟩ := drive_sifts hBody hTaken
  refine ⟨taken, entry, hEntries, hPassed, ?_⟩
  cases entry with
  | error e =>
      cases hExit
      exact .inl ⟨⟨e, rfl⟩, _, rfl⟩
  | ok message =>
      have hLast := hBody s₁.1 s₁.2 message
      rw [show body (s₁.1, s₁.2) message = .exit result s' from hExit] at hLast
      exact .inr ⟨message, rfl, hLearnt ▸ hLast⟩

/-- What has been read where the loop returns. -/
theorem sifted_of_ok (hBody : Sifts learn passes last body) {net : Network}
    {s s' : L × Connection} {b : β} (h : messageLoop body net s = (.ok b, s')) :
    ∃ taken message,
      s.2.transport.inbox = taken ++ .ok message :: s'.2.transport.inbox ∧
      (∀ entry ∈ taken, passes entry) ∧ last (.ok b) message (taken.foldl learn s.1) s'.1 := by
  simp only [messageLoop] at h
  cases hDrive : drive (readStep body) s s.2.transport.inbox with
  | waiting s₁ =>
      rw [hDrive] at h
      revert h
      cases s.2.transport.ending <;> rintro ⟨⟩
  | done result s₁ rest =>
      rw [hDrive] at h
      obtain ⟨taken, entry, hInbox, hPassed, hFailed | hLast⟩ := drive_sifted hBody hDrive
      · obtain ⟨-, e, rfl⟩ := hFailed
        cases h
      · obtain ⟨message, rfl, hLast⟩ := hLast
        cases result with
        | error e => cases h
        | ok value =>
            cases h
            exact ⟨taken, message, hInbox, hPassed, hLast⟩

end Sifting

section Learning

variable {L : Type} {learn : L → Entry → L}
  {body : L × Connection → BackendMessage → Step (L × Connection) (Except PgError ReplyEnd)}

/-- An entry that a reply without an error may have before its `ReadyForQuery`. -/
def Passed (entry : Entry) : Prop :=
  ∃ message, entry = .ok message ∧ message.isReady = false ∧ message.isError = false

/-- The end of a reply without an error. -/
def AtReady {L : Type} : Except PgError ReplyEnd → BackendMessage → L → L → Prop
  | .ok .ready, message, l, l' => ∃ status, message = .readyForQuery status ∧ l' = l
  | _, _, _, _ => True

/-- A loop that makes of its local variable what a message says alone, and that returns
nothing but the end of a reply without an error. -/
def Learns (learn : L → Entry → L)
    (body : L × Connection → BackendMessage → Step (L × Connection) (Except PgError ReplyEnd)) :
    Prop :=
  Sifts learn Passed AtReady body

/-- Where it returns, it has read to the end of a reply and learnt all of it. -/
theorem learnt_of_ready (hBody : Learns learn body) {s s' : L × Connection}
    (h : messageLoop body net s = (.ok .ready, s')) :
    ∃ taken status,
      s.2.transport.inbox = taken ++ .ok (.readyForQuery status) :: s'.2.transport.inbox ∧
      s'.1 = taken.foldl learn s.1 ∧ ∀ entry ∈ taken, Passed entry := by
  obtain ⟨taken, message, hInbox, hPassed, hLast⟩ := sifted_of_ok hBody h
  obtain ⟨status, rfl, hLearnt⟩ := hLast
  exact ⟨taken, status, hInbox, hLearnt, hPassed⟩

end Learning

end Reading

end Connection
end PgClient
