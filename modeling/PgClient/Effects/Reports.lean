import PgClient.Effects.Operations
import PgClient.Reconnect.Standing

/-!
What the server reports of the transaction in the messages that a call reads, and what that
says of the tracked flag when the call is over.
-/

namespace PgClient

open Drive Async Connection

namespace Transport

/-- Of what the server has sent, a part has been read and the rest is unread. -/
structure Consumed (net : Network) (read : List Entry) (t : Transport) : Prop where
  ending : t.ending = net.closing t.history
  emitted : net.emitted t.history = read ++ t.inbox

variable {net : Network} {read : List Entry} {t : Transport}

theorem consumed_new (net : Network) : new.Consumed net [] := ⟨rfl, rfl⟩

theorem Consumed.deliver (h : t.Consumed net read) (message : FrontendMessage) :
    (t.deliver net message).Consumed net read := by
  have hEnding := h.ending
  simp only [Transport.deliver]
  cases hClosed : t.ending with
  | some e =>
      rw [hClosed] at hEnding
      exact ⟨by simp [Network.closing, ← hEnding], by simp [Network.emitted, ← hEnding, h.emitted]⟩
  | none =>
      rw [hClosed] at hEnding
      exact ⟨by simp [Network.closing, ← hEnding], by simp [Network.emitted, ← hEnding, h.emitted]⟩

theorem Consumed.flushed (h : t.Consumed net read) : (t.flushed net).Consumed net read := by
  have hAll : ∀ (messages : List FrontendMessage) (t : Transport), t.Consumed net read →
      (t.deliverAll net messages).Consumed net read := by
    intro messages
    induction messages with
    | nil => exact fun t h => h
    | cons message messages ih => exact fun t h => ih _ (h.deliver message)
  exact hAll _ _ ⟨h.ending, h.emitted⟩

theorem Consumed.flushWrite {t' : Transport} (h : t.Consumed net read)
    (hFlush : t.flushWrite net = .ok t') : t'.Consumed net read := by
  rw [flushWrite_flushed hFlush]
  exact h.flushed

theorem Consumed.take {entry : Entry} {rest : List Entry} (h : t.Consumed net read)
    (hInbox : t.inbox = entry :: rest) :
    ({ t with inbox := rest } : Transport).Consumed net (read ++ [entry]) :=
  ⟨h.ending, by simp [h.emitted, hInbox]⟩

/-- How much of what the server has sent has been read. -/
def readCount (net : Network) (t : Transport) : Nat :=
  (net.emitted t.history).length - t.inbox.length

/-- What is read up to the second of two moments and not up to the first. -/
def readBetween (net : Network) (t t' : Transport) : List Entry :=
  ((net.emitted t'.history).take (t'.readCount net)).drop (t.readCount net)

theorem readBetween_eq {later : List Entry} {t' : Transport} (h : t.Consumed net read)
    (h' : t'.Consumed net (read ++ later)) : readBetween net t t' = later := by
  have hCount : t.readCount net = read.length := by simp [readCount, h.emitted]
  have hCount' : t'.readCount net = (read ++ later).length := by
    rw [readCount, h'.emitted, List.length_append, Nat.add_sub_cancel]
  rw [readBetween, hCount, hCount', h'.emitted, List.take_left, List.drop_left]

end Transport

/-- A transaction is open, whether or not it has failed. -/
def TransactionStatus.isOpen (status : TransactionStatus) : Bool := status ≠ .idle

namespace Entry

/-- Whatever this reports of a transaction is on one side: there is one, or there is none. -/
def onSide (inTransaction : Bool) : Entry → Bool
  | .ok (.readyForQuery status) => (TransactionStatus.ofReady status).isOpen == inTransaction
  | _ => true

end Entry

/-- Whether a reply with an error of the server has begun, and whether the last reply that
has ended had one. -/
def scanReplies : Bool × Bool → Entry → Bool × Bool
  | (_, ended), .ok (.errorResponse _) => (true, ended)
  | (begun, _), .ok (.readyForQuery _) => (false, begun)
  | state, _ => state

/-- The last reply of these messages is one with an error of the server. -/
def endsInError (read : List Entry) : Bool := (read.foldl scanReplies (false, false)).2

def errorBegun (read : List Entry) : Bool := (read.foldl scanReplies (false, false)).1

def SaysOnly (inTransaction : Bool) (read : List Entry) : Prop :=
  ∀ entry ∈ read, entry.onSide inTransaction

section Scan

variable {read : List Entry} {entry : Entry} {inTransaction : Bool}

theorem saysOnly_append {later : List Entry} :
    SaysOnly inTransaction (read ++ later) ↔ SaysOnly inTransaction read ∧
      SaysOnly inTransaction later := by
  simp [SaysOnly, or_imp, forall_and]

theorem scan_other (hError : entry.isError = false) (hReady : entry.isReady = false)
    (state : Bool × Bool) : scanReplies state entry = state := by
  cases entry with
  | error e => rfl
  | ok message =>
      cases message with
      | errorResponse body => cases hError
      | readyForQuery status => cases hReady
      | _ => rfl

theorem scan_ended (hReady : entry.isReady = false) (state : Bool × Bool) :
    (scanReplies state entry).2 = state.2 := by
  cases entry with
  | error e => rfl
  | ok message =>
      cases message with
      | readyForQuery status => cases hReady
      | _ => rfl

theorem onSide_of_not_ready (hReady : entry.isReady = false) : entry.onSide inTransaction := by
  cases entry with
  | error e => rfl
  | ok message =>
      cases message with
      | readyForQuery status => cases hReady
      | _ => rfl

theorem saysOnly_of_noReady (h : ∀ entry ∈ read, entry.isReady = false) :
    SaysOnly inTransaction read :=
  fun entry hMem => onSide_of_not_ready (h entry hMem)

end Scan

namespace Connection

/-- Flag and status both say this of the transaction. -/
structure Tells (inTransaction : Bool) (conn : Connection) : Prop where
  flag : conn.sessionState.inTransaction = inTransaction
  status : conn.transactionStatus.isOpen = inTransaction

theorem Tells.agreeing {inTransaction : Bool} {conn : Connection} (h : conn.Tells inTransaction) :
    conn.Agreeing :=
  h.flag.trans h.status.symm

theorem Agreeing.tells {conn : Connection} (h : conn.Agreeing) :
    conn.Tells conn.transactionStatus.isOpen :=
  ⟨h, rfl⟩

/-- What the messages read since some moment say of the flag: while they are all on the
side on which it was, so are flag and status; and after a reply with an error, whose end
is read by the loop that updates the flag, they agree. -/
structure Informed (net : Network) (before : List Entry) (inTransaction : Bool) (read : List Entry)
    (conn : Connection) : Prop where
  consumed : conn.transport.Consumed net (before ++ read)
  steady : SaysOnly inTransaction read → conn.Tells inTransaction
  failed : endsInError read → conn.Agreeing

/-- At any moment of a call. -/
def Reporting (net : Network) (before : List Entry) (inTransaction : Bool) (conn : Connection) :
    Prop :=
  ∃ read, Informed net before inTransaction read conn

/-- At any moment at which no error of the server is waiting for the end of its reply. -/
def Unalarmed (net : Network) (before : List Entry) (inTransaction : Bool) (conn : Connection) :
    Prop :=
  ∃ read, Informed net before inTransaction read conn ∧ errorBegun read = false

section Informed

variable {net : Network} {before read : List Entry} {inTransaction : Bool} {conn conn' : Connection}

theorem Informed.frame (h : Informed net before inTransaction read conn)
    (hSame : SameReports conn conn') : Informed net before inTransaction read conn' := by
  refine ⟨hSame.transport ▸ h.consumed, ?_, ?_⟩
  · intro hSteady
    have hTells := h.steady hSteady
    exact ⟨hSame.inTransaction.trans hTells.flag, by rw [hSame.transactionStatus, hTells.status]⟩
  · intro hError
    have hAgreeing := h.failed hError
    simp only [Agreeing] at hAgreeing ⊢
    rw [hSame.inTransaction, hSame.transactionStatus, hAgreeing]

/-- Messages that are no end of a reply. -/
theorem Informed.take {entry : Entry} {rest : List Entry}
    (h : Informed net before inTransaction read conn)
    (hInbox : conn.transport.inbox = entry :: rest)
    (hReady : entry.isReady = false) :
    Informed net before inTransaction (read ++ [entry]) (conn.setInbox rest) := by
  refine ⟨?_, ?_, ?_⟩
  · rw [← List.append_assoc]
    exact h.consumed.take hInbox
  · intro hSteady
    have hTells := h.steady (saysOnly_append.mp hSteady).1
    exact ⟨hTells.flag, hTells.status⟩
  · intro hError
    apply h.failed
    simpa [endsInError, List.foldl_append, scan_ended hReady] using hError

/-- The end of a reply, for a loop that takes its status. -/
theorem Informed.ready {status : UInt8} {rest : List Entry}
    (h : Informed net before inTransaction read conn)
    (hInbox : conn.transport.inbox = .ok (.readyForQuery status) :: rest)
    (hTransport : conn'.transport = { conn.transport with inbox := rest })
    (hSteady : SaysOnly inTransaction (read ++ [.ok (.readyForQuery status)]) →
      conn'.Tells inTransaction)
    (hError : errorBegun read → conn'.Agreeing) :
    Informed net before inTransaction (read ++ [.ok (.readyForQuery status)]) conn' := by
  refine ⟨?_, hSteady, ?_⟩
  · rw [← List.append_assoc, hTransport]
    exact h.consumed.take hInbox
  · intro hEnds
    apply hError
    simpa [endsInError, errorBegun, List.foldl_append, scanReplies] using hEnds

theorem closed_unalarmed (net : Network) (before : List Entry) (inTransaction : Bool) :
    Closed net (Unalarmed net before inTransaction) (Reporting net before inTransaction) where
  alarm := fun conn ⟨read, h, _⟩ => ⟨read, h⟩
  frame := fun conn conn' hSame ⟨read, h, hBegun⟩ => ⟨read, h.frame hSame, hBegun⟩
  frameAlarmed := fun conn conn' hSame ⟨read, h⟩ => ⟨read, h.frame hSame⟩
  push := by
    intro conn frame h
    obtain ⟨read, h, hBegun⟩ := h
    exact ⟨read, ⟨⟨h.consumed.ending, h.consumed.emitted⟩, fun hSteady => ⟨(h.steady hSteady).flag,
      (h.steady hSteady).status⟩, h.failed⟩, hBegun⟩
  flush := by
    intro conn t hFlush h
    obtain ⟨read, h, hBegun⟩ := h
    exact ⟨read, ⟨h.consumed.flushWrite hFlush, fun hSteady => ⟨(h.steady hSteady).flag,
      (h.steady hSteady).status⟩, h.failed⟩, hBegun⟩
  read := by
    intro conn entry rest hInbox hError h
    obtain ⟨read, h, hBegun⟩ := h
    cases hReady : entry.isReady with
    | false =>
        refine ⟨_, h.take hInbox hReady, ?_⟩
        simp only [errorBegun, List.foldl_append, List.foldl_cons, List.foldl_nil,
          scan_other hError hReady]
        exact hBegun
    | true =>
        -- a loop may pass over a `ReadyForQuery` that it does not expect
        cases entry with
        | error e => cases hReady
        | ok message =>
            cases message with
            | readyForQuery status =>
                refine ⟨_, h.ready hInbox rfl ?_ ?_, ?_⟩
                · intro hSteady
                  have hTells := h.steady (saysOnly_append.mp hSteady).1
                  exact ⟨hTells.flag, hTells.status⟩
                · exact fun hError => absurd hError (by simp [hBegun])
                · simp [errorBegun, List.foldl_append, scanReplies]
            | _ => cases hReady
  readAlarmed := fun conn entry rest hInbox hReady ⟨read, h⟩ => ⟨_, h.take hInbox hReady⟩
  ready := by
    intro conn conn' status rest hInbox hTransport hStatus hFlag h
    obtain ⟨read, h, hBegun⟩ := h
    refine ⟨_, h.ready hInbox hTransport ?_ ?_, ?_⟩
    · intro hSteady
      obtain ⟨hBefore, hLast⟩ := saysOnly_append.mp hSteady
      have hSide := hLast _ (List.mem_singleton.mpr rfl)
      refine ⟨hFlag.trans (h.steady hBefore).flag, ?_⟩
      rw [hStatus]
      exact eq_of_beq hSide
    · exact fun hError => absurd hError (by simp [hBegun])
    · simp [errorBegun, List.foldl_append, scanReplies]
  skipped := by
    intro conn conn' status rest hInbox hTransport hStatus hAgreeing h
    obtain ⟨read, h⟩ := h
    refine ⟨_, h.ready hInbox hTransport ?_ (fun _ => hAgreeing), ?_⟩
    · intro hSteady
      have hSide := (saysOnly_append.mp hSteady).2 _ (List.mem_singleton.mpr rfl)
      have hOpen : conn'.transactionStatus.isOpen = inTransaction := by
        rw [hStatus]
        exact eq_of_beq hSide
      exact ⟨hAgreeing.trans hOpen, hOpen⟩
    · simp [errorBegun, List.foldl_append, scanReplies]

theorem unalarmed_start {before : List Entry} (hConsumed : conn.transport.Consumed net before)
    (h : conn.Agreeing) : Unalarmed net before conn.transactionStatus.isOpen conn :=
  ⟨[], ⟨by rwa [List.append_nil], fun _ => h.tells, fun hError => by cases hError⟩, rfl⟩

end Informed

end Connection
end PgClient
