import PgClient.Transport.Buffered

/-!
What goes through a transport between two of its states: the messages that reach the
server and the entries that are read.
-/

namespace PgClient
namespace Transport

theorem deliver_frame (net : Network) (t : Transport) (message : FrontendMessage)
    (earlier : List Entry) (writeBuf : List Frame) :
    deliver net { t with inbox := earlier ++ t.inbox, writeBuf } message =
      { t.deliver net message with
        inbox := earlier ++ (t.deliver net message).inbox, writeBuf } := by
  cases hEnding : t.ending with
  | none => simp [deliver, hEnding]
  | some e => simp [deliver, hEnding]

/-- Unread messages and the write buffer do not change what is answered. -/
theorem deliverAll_frame (net : Network) (t : Transport) (messages : List FrontendMessage)
    (earlier : List Entry) (writeBuf : List Frame) :
    deliverAll net { t with inbox := earlier ++ t.inbox, writeBuf } messages =
      { t.deliverAll net messages with
        inbox := earlier ++ (t.deliverAll net messages).inbox, writeBuf } := by
  induction messages generalizing t with
  | nil => rfl
  | cons message messages ih => rw [deliverAll_cons, deliver_frame, ih, deliverAll_cons]

/-- Between two states `delivered` has reached the server and `read` has been read. -/
def Passed (net : Network) (t t' : Transport) (delivered : List FrontendMessage)
    (read : List Entry) : Prop :=
  t.deliverAll net delivered =
    { t' with inbox := read ++ t'.inbox, writeBuf := t.writeBuf }

section Passed

variable {net : Network} {t t' t'' : Transport} {delivered later : List FrontendMessage}
  {read readLater : List Entry}

theorem passed_refl (net : Network) (t : Transport) : Passed net t t [] [] := rfl

theorem Passed.trans (h : Passed net t t' delivered read)
    (h' : Passed net t' t'' later readLater) :
    Passed net t t'' (delivered ++ later) (read ++ readLater) := by
  rw [Passed, deliverAll_append, h, deliverAll_frame, h']
  simp

theorem passed_push (net : Network) (t : Transport) (frame : Frame) :
    Passed net t (t.push frame) [] [] := rfl

theorem passed_flushWrite (h : t.flushWrite net = .ok t') :
    ∃ delivered, Passed net t t' delivered [] := by
  simp only [flushWrite] at h
  split at h
  · cases h
    exact ⟨[], rfl⟩
  split at h
  · cases h
  · cases h
    refine ⟨t.writeBuf.map Frame.message, ?_⟩
    have hFrame : deliverAll net { t with writeBuf := [] } (t.writeBuf.map Frame.message) =
        { t.deliverAll net (t.writeBuf.map Frame.message) with writeBuf := [] } :=
      deliverAll_frame net t (t.writeBuf.map Frame.message) [] []
    have hBuf : (t.deliverAll net (t.writeBuf.map Frame.message)).writeBuf = t.writeBuf :=
      deliverAll_writeBuf net t _
    rw [Passed, hFrame]
    generalize t.deliverAll net (t.writeBuf.map Frame.message) = sent at hBuf ⊢
    rw [← hBuf]
    rfl

theorem passed_take (net : Network) {rest : List Entry} (h : t.inbox = read ++ rest) :
    Passed net t { t with inbox := rest } [] read := by
  simp [Passed, ← h]

theorem Passed.history (h : Passed net t t' delivered read) :
    t'.history = delivered.reverse ++ t.history := by
  rw [← deliverAll_history net, h]

/-- What has been read: of all that was there to read, what is not unread still. -/
def readSince (net : Network) (t t' : Transport) : List Entry :=
  let delivered := (t'.history.take (t'.history.length - t.history.length)).reverse
  let entries := (t.deliverAll net delivered).inbox
  entries.take (entries.length - t'.inbox.length)

theorem Passed.readSince (h : Passed net t t' delivered read) : readSince net t t' = read := by
  have hDelivered : (t'.history.take (t'.history.length - t.history.length)).reverse =
      delivered := by
    rw [h.history, List.length_append, Nat.add_sub_cancel, List.take_left, List.reverse_reverse]
  simp only [Transport.readSince, hDelivered]
  rw [h, List.length_append, Nat.add_sub_cancel, List.take_left]

end Passed

end Transport
end PgClient
