import PgClient.Connection.Io
import PgClient.Protocol.Server

/-!
What is on the wire: how the unread messages of a connection relate to all that the
server has sent, and what delivering messages to a server that follows the protocol
keeps of that relation.
-/

namespace PgClient

namespace Network

/-- How the stream has ended after a history of messages. -/
def closing (net : Network) : List FrontendMessage → Option ReadError
  | [] => none
  | message :: history =>
      match net.closing history with
      | some e => some e
      | none => (net.answer history message).closes

/-- All that the server has sent after a history of messages. -/
def emitted (net : Network) : List FrontendMessage → List Entry
  | [] => []
  | message :: history =>
      match net.closing history with
      | some _ => net.emitted history
      | none => net.emitted history ++ (net.answer history message).messages

theorem WellFormed.emitted {net : Network} (h : net.WellFormed) (history : List FrontendMessage) :
    ∀ entry ∈ net.emitted history, entry.wellFormed := by
  induction history with
  | nil => simp [Network.emitted]
  | cons message history ih =>
      intro entry hMem
      simp only [Network.emitted] at hMem
      split at hMem
      · exact ih entry hMem
      · cases List.mem_append.mp hMem with
        | inl hOld => exact ih entry hOld
        | inr hNew => exact h history message entry hNew

end Network

section Entries

@[simp] theorem replyOf_nil : replyOf [] = [] := rfl

@[simp] theorem replyOf_append (first later : List Entry) :
    replyOf (first ++ later) = replyOf first ++ replyOf later := by
  simp [replyOf]

theorem replyOf_cons_ready {entry : Entry} (h : entry.isReady) (entries : List Entry) :
    ∃ status, replyOf (entry :: entries) = .readyForQuery status :: replyOf entries := by
  match entry, h with
  | .ok (.readyForQuery status), _ => exact ⟨status, rfl⟩

theorem isAsync_of_replyOf_nil {entries : List Entry} (h : replyOf entries = [])
    (hErrors : ∀ e, .error e ∉ entries) : ∀ entry ∈ entries, entry.isAsync := by
  intro entry hMem
  match entry, hMem with
  | .error e, hMem => exact absurd hMem (hErrors e)
  | .ok message, hMem =>
      simp only [replyOf, List.filter_eq_nil_iff, List.mem_filterMap] at h
      simpa [Entry.isAsync] using h message ⟨.ok message, hMem, rfl⟩

theorem not_ready_of_isAsync {entry : Entry} (h : entry.isAsync) : entry.isReady = false := by
  match entry, h with
  | .ok (.parameterStatus _), _ | .ok (.noticeResponse _), _
  | .ok (.notificationResponse _), _ => rfl

theorem not_ready_of_noReady {entries : List Entry} (h : NoReady (replyOf entries)) :
    ∀ entry ∈ entries, entry.isReady = false := by
  intro entry hMem
  cases hReady : entry.isReady with
  | false => rfl
  | true =>
      obtain ⟨pre, post, rfl⟩ := List.append_of_mem hMem
      obtain ⟨status, hReply⟩ := replyOf_cons_ready hReady post
      rw [replyOf_append, noReady_append, hReply] at h
      cases h.2 _ List.mem_cons_self

theorem exists_ready_of_not_noReady {entries : List Entry} (h : ¬ NoReady (replyOf entries)) :
    ∃ entry ∈ entries, entry.isReady := by
  simp only [NoReady, not_forall, Bool.not_eq_false] at h
  obtain ⟨message, hMem, hReady⟩ := h
  simp only [replyOf, List.mem_filter, List.mem_filterMap] at hMem
  obtain ⟨⟨entry, hMem, hOk⟩, _⟩ := hMem
  cases entry with
  | error e => cases hOk
  | ok _ =>
      cases hOk
      exact ⟨_, hMem, hReady⟩

end Entries

/-- A last element that occurs nowhere else can only be met at the end. -/
private theorem eq_nil_of_prefix_last {α : Type} {body pre post : List α} {last x : α}
    (h : pre ++ x :: post <+: body ++ [last]) (hBody : x ∉ body) : post = [] := by
  obtain ⟨more, hMore⟩ := h
  rw [List.append_assoc, List.cons_append] at hMore
  cases List.eq_nil_or_concat (post ++ more) with
  | inl hNil => exact (List.append_eq_nil_iff.mp hNil).1
  | inr hConcat =>
      obtain ⟨init, y, hInit⟩ := hConcat
      rw [hInit, List.concat_eq_append, ← List.cons_append, ← List.append_assoc] at hMore
      have hEq := (List.append_inj' hMore rfl).1
      exact absurd (hEq ▸ List.mem_append_right pre List.mem_cons_self) hBody

/-- An element that is not among the first ones stands among the later ones. -/
theorem split_later {α : Type} {old new pre post : List α} {x : α}
    (h : old ++ new = pre ++ x :: post) (hOld : x ∉ old) :
    ∃ mid, pre = old ++ mid ∧ new = mid ++ x :: post := by
  cases List.append_eq_append_iff.mp h with
  | inl hPre => exact hPre
  | inr hSplit =>
      obtain ⟨mid, rfl, hMid⟩ := hSplit
      cases mid with
      | nil => exact ⟨[], by simp, by simpa using hMid.symm⟩
      | cons y mid =>
          obtain ⟨rfl, -⟩ := List.cons.inj hMid
          exact absurd (List.mem_append_right pre List.mem_cons_self) hOld

/-- An element that is not among the later ones stands among the first ones. -/
theorem split_earlier {α : Type} {old new pre post : List α} {x : α}
    (h : old ++ new = pre ++ x :: post) (hNew : x ∉ new) :
    ∃ mid, old = pre ++ x :: mid ∧ post = mid ++ new := by
  cases List.append_eq_append_iff.mp h with
  | inl hSplit =>
      obtain ⟨mid, _, rfl⟩ := hSplit
      exact absurd (List.mem_append_right mid List.mem_cons_self) hNew
  | inr hSplit =>
      obtain ⟨mid, rfl, hMid⟩ := hSplit
      cases mid with
      | nil =>
          have hMid : new = x :: post := by simpa using hMid.symm
          exact absurd (hMid ▸ List.mem_cons_self) hNew
      | cons y mid =>
          obtain ⟨rfl, rfl⟩ := List.cons.inj hMid
          exact ⟨mid, rfl, rfl⟩

namespace Answer.Follows

variable {answer : Answer} {mode next : Mode} {message : FrontendMessage}

/-- Where nothing of the reply is left, only asynchronous messages are. -/
theorem async_tail (h : answer.Follows mode message next) {pre post : List Entry}
    (hSplit : answer.messages = pre ++ post) (hPost : replyOf post = []) :
    ∀ e ∈ post, e.isAsync := by
  apply isAsync_of_replyOf_nil hPost
  intro e hMem
  obtain ⟨first, later, rfl⟩ := List.append_of_mem hMem
  have hLater : replyOf later = [] := by
    have hTail : replyOf first ++ (replyOf [.error e] ++ replyOf later) = [] := by
      rw [← replyOf_append, ← replyOf_append]
      exact hPost
    exact (List.append_eq_nil_iff.mp (List.append_eq_nil_iff.mp hTail).2).2
  exact h.errors (pre ++ first) e later (by simp [hSplit]) hLater

theorem after_ready (h : answer.Follows mode message next) {pre post : List Entry}
    {entry : Entry} (hSplit : answer.messages = pre ++ entry :: post) (hReady : entry.isReady) :
    (∀ e ∈ post, e.isAsync) ∧ next = .ready ∧ answer.closes = none := by
  obtain ⟨reply, hReply, hPrefix, _⟩ := h.reply
  obtain ⟨status, hEntry⟩ := replyOf_cons_ready hReady post
  have hMem : .readyForQuery status ∈ replyOf answer.messages := by
    simp [hSplit, hEntry]
  have hOpen : answer.closes = none := by
    by_contra hCloses
    cases h.closing hCloses _ hMem
  rw [hSplit, replyOf_append, hEntry] at hPrefix
  cases hReply.readyLast with
  | inl hNone =>
      cases hNone _ (hPrefix.subset (List.mem_append_right _ List.mem_cons_self))
  | inr hLast =>
      obtain ⟨body, last, rfl, hBody, hNext⟩ := hLast
      have hFresh : BackendMessage.readyForQuery status ∉ body := by
        intro hMem
        cases hBody _ hMem
      have hPost := eq_nil_of_prefix_last hPrefix hFresh
      refine ⟨h.async_tail (hSplit.trans (List.append_cons pre entry post)) hPost, hNext, hOpen⟩

theorem noReady (h : answer.Follows mode message next) (hMode : mode ≠ .copyIn)
    (hAsks : message.asksReady = false) :
    (∀ e ∈ answer.messages, e.isReady = false) ∧ next ≠ .copyIn := by
  obtain ⟨reply, hReply, hPrefix, _⟩ := h.reply
  have hNone := hReply.noReady hMode hAsks
  exact ⟨not_ready_of_noReady ( noReady_prefix hPrefix hNone.1), hNone.2⟩

theorem lateCopy (h : answer.Follows .ready message next) (hCopy : message.isCopy) :
    (∀ e ∈ answer.messages, e.isAsync) ∧ next = .ready := by
  obtain ⟨reply, hReply, hPrefix, _⟩ := h.reply
  obtain ⟨rfl, hNext⟩ := hReply.lateCopy_eq hCopy
  exact ⟨h.async_tail (List.nil_append _).symm (List.prefix_nil.mp hPrefix), hNext⟩

theorem asked (h : answer.Follows mode message .ready) (hMode : mode ≠ .copyIn)
    (hAsks : message.asksReady) (hOpen : answer.closes = none) :
    ∃ e ∈ answer.messages, e.isReady := by
  obtain ⟨reply, hReply, _, hWhole⟩ := h.reply
  apply exists_ready_of_not_noReady
  rw [hWhole hOpen]
  exact hReply.asked hMode hAsks

end Answer.Follows

namespace Transport

/-- The unread messages are the last of those the server has sent. -/
structure Tracked (net : Network) (t : Transport) : Prop where
  ending : t.ending = net.closing t.history
  suffix : t.inbox <:+ net.emitted t.history

theorem tracked_new (net : Network) : Tracked net .new := ⟨rfl, List.suffix_refl _⟩

theorem Tracked.wellFormed {net : Network} {t : Transport} (h : t.Tracked net)
    (hNet : net.WellFormed) : ∀ entry ∈ t.inbox, entry.wellFormed :=
  fun entry hMem => hNet.emitted t.history entry (h.suffix.subset hMem)

theorem Tracked.deliver {net : Network} {t : Transport} (h : t.Tracked net)
    (message : FrontendMessage) : (t.deliver net message).Tracked net := by
  have hEnding := h.ending
  simp only [Transport.deliver]
  cases hClosed : t.ending with
  | some e =>
      rw [hClosed] at hEnding
      exact ⟨by simp [Network.closing, ← hEnding],
        by simpa [Network.emitted, ← hEnding] using h.suffix⟩
  | none =>
      rw [hClosed] at hEnding
      refine ⟨by simp [Network.closing, ← hEnding], ?_⟩
      obtain ⟨pre, hPre⟩ := h.suffix
      refine ⟨pre, ?_⟩
      simp [Network.emitted, ← hEnding, ← hPre]

variable {net : Network} (server : Server net)

/-- Nothing that ends a reply is unread or still to be sent, and the server is in a mode
in which only a Query or a Sync can bring it. -/
structure Quiet (t : Transport) : Prop where
  tracked : t.Tracked net
  inbox : ∀ entry ∈ t.inbox, entry.isReady = false
  mode : server.mode t.history ≠ .copyIn
  writeBuf : ∀ frame ∈ t.writeBuf, frame.message.asksReady = false

/-- Behind an unread `ReadyForQuery` nothing more is owed. -/
structure Tidy (t : Transport) : Prop where
  tracked : t.Tracked net
  tail : ∀ pre entry post, t.inbox = pre ++ entry :: post → entry.isReady →
    (∀ e ∈ post, e.isAsync) ∧ server.mode t.history = .ready ∧
      ∀ frame ∈ t.writeBuf, frame.message.isCopy

/-- No reply is unread and none is owed. -/
structure Settled (t : Transport) : Prop where
  tracked : t.Tracked net
  inbox : ∀ entry ∈ t.inbox, entry.isAsync
  mode : server.mode t.history = .ready
  writeBuf : ∀ frame ∈ t.writeBuf, frame.message.isCopy

variable {server}

theorem Settled.quiet {t : Transport} (h : t.Settled server) : t.Quiet server where
  tracked := h.tracked
  inbox := fun entry hMem => not_ready_of_isAsync (h.inbox entry hMem)
  mode := by simp [h.mode]
  writeBuf := by
    intro frame hMem
    have hCopy := h.writeBuf frame hMem
    revert hCopy
    cases frame.message <;> simp [FrontendMessage.isCopy, FrontendMessage.asksReady]

theorem tidy_of_noReady {t : Transport} (h : t.Tracked net)
    (hInbox : ∀ entry ∈ t.inbox, entry.isReady = false) : t.Tidy server where
  tracked := h
  tail := by
    intro pre entry post hSplit hReady
    have hNot := hInbox entry (by simp [hSplit])
    rw [hReady] at hNot
    cases hNot

theorem Quiet.tidy {t : Transport} (h : t.Quiet server) : t.Tidy server :=
  tidy_of_noReady h.tracked h.inbox

theorem Settled.tidy {t : Transport} (h : t.Settled server) : t.Tidy server := h.quiet.tidy

theorem settled_new (server : Server net) : Transport.new.Settled server where
  tracked := tracked_new net
  inbox := by simp [Transport.new]
  mode := server.mode_nil
  writeBuf := by simp [Transport.new]

/-- Reading messages off the inbox. -/
theorem Tidy.drop {t : Transport} (h : t.Tidy server) {taken rest : List Entry}
    (hInbox : t.inbox = taken ++ rest) : ({ t with inbox := rest } : Transport).Tidy server where
  tracked := ⟨h.tracked.ending, List.IsSuffix.trans ⟨taken, hInbox.symm⟩ h.tracked.suffix⟩
  tail := by
    intro pre entry post hSplit hReady
    have hSplit : rest = pre ++ entry :: post := hSplit
    exact h.tail (taken ++ pre) entry post (by simp [hInbox, hSplit]) hReady

/-- Once its `ReadyForQuery` is read, nothing of a reply is left. -/
theorem Tidy.settled {t : Transport} (h : t.Tidy server) {taken rest : List Entry} {entry : Entry}
    (hInbox : t.inbox = taken ++ entry :: rest) (hReady : entry.isReady) :
    ({ t with inbox := rest } : Transport).Settled server where
  tracked := ⟨h.tracked.ending,
    List.IsSuffix.trans ⟨taken ++ [entry], by simp [hInbox]⟩ h.tracked.suffix⟩
  inbox := (h.tail taken entry rest hInbox hReady).1
  mode := (h.tail taken entry rest hInbox hReady).2.1
  writeBuf := (h.tail taken entry rest hInbox hReady).2.2

section Deliver

variable {t : Transport} {message : FrontendMessage}

/-- What one delivered message adds to the inbox. -/
theorem deliver_inbox (net : Network) (t : Transport) (message : FrontendMessage) :
    ∃ entries, (t.deliver net message).inbox = t.inbox ++ entries ∧
      (entries = [] ∨
        t.ending = none ∧ entries = (net.answer t.history message).messages) := by
  simp only [deliver]
  cases t.ending with
  | some e => exact ⟨[], by simp, .inl rfl⟩
  | none => exact ⟨_, rfl, .inr ⟨rfl, rfl⟩⟩

theorem Quiet.deliver (h : t.Quiet server) (hAsks : message.asksReady = false) :
    (t.deliver net message).Quiet server := by
  obtain ⟨entries, hInbox, hEntries⟩ := deliver_inbox net t message
  have hAnswer := (server.follows t.history message).noReady h.mode hAsks
  refine ⟨h.tracked.deliver message, ?_, ?_, ?_⟩
  · intro entry hMem
    rw [hInbox] at hMem
    cases List.mem_append.mp hMem with
    | inl hOld => exact h.inbox entry hOld
    | inr hNew =>
        obtain rfl | ⟨_, rfl⟩ := hEntries
        · cases hNew
        · exact hAnswer.1 entry hNew
  · rw [deliver_history]
    exact hAnswer.2
  · rw [deliver_writeBuf]
    exact h.writeBuf

theorem Quiet.deliverAll {messages : List FrontendMessage} (h : t.Quiet server)
    (hAsks : ∀ message ∈ messages, message.asksReady = false) :
    (t.deliverAll net messages).Quiet server := by
  induction messages generalizing t with
  | nil => exact h
  | cons message messages ih =>
      rw [deliverAll_cons]
      exact ih (h.deliver (hAsks message List.mem_cons_self))
        fun m hMem => hAsks m (List.mem_cons_of_mem _ hMem)

/-- Whatever is delivered when nothing ends a reply, its answer is tidy. -/
theorem tidy_deliver_of_noReady (hTracked : t.Tracked net)
    (hInbox : ∀ entry ∈ t.inbox, entry.isReady = false) (hBuf : t.writeBuf = []) :
    (t.deliver net message).Tidy server where
  tracked := hTracked.deliver message
  tail := by
    intro pre entry post hSplit hReady
    obtain ⟨entries, hNew, hEntries⟩ := deliver_inbox net t message
    rw [deliver_history, deliver_writeBuf, hBuf]
    rw [hNew] at hSplit
    have hFresh : entry ∉ t.inbox := by
      intro hMem
      rw [hInbox entry hMem] at hReady
      cases hReady
    obtain ⟨mid, _, hMid⟩ := split_later hSplit hFresh
    obtain rfl | ⟨_, rfl⟩ := hEntries
    · simp at hMid
    · have hAnswer := (server.follows t.history message).after_ready hMid hReady
      exact ⟨hAnswer.1, hAnswer.2.1, by simp⟩

/-- COPY messages may be delivered at any time. -/
theorem Tidy.deliver_copy (h : t.Tidy server) (hBuf : t.writeBuf = [])
    (hCopy : message.isCopy) : (t.deliver net message).Tidy server := by
  by_cases hNone : ∀ entry ∈ t.inbox, entry.isReady = false
  · exact tidy_deliver_of_noReady h.tracked hNone hBuf
  · simp only [not_forall, Bool.not_eq_false] at hNone
    obtain ⟨entry, hMem, hReady⟩ := hNone
    obtain ⟨pre, post, hSplit⟩ := List.append_of_mem hMem
    obtain ⟨hPost, hMode, _⟩ := h.tail pre entry post hSplit hReady
    obtain ⟨entries, hNew, hEntries⟩ := deliver_inbox net t message
    have hAnswer : (∀ e ∈ entries, e.isAsync) ∧ server.mode (message :: t.history) = .ready := by
      have hFollows := server.follows t.history message
      rw [hMode] at hFollows
      obtain rfl | ⟨_, rfl⟩ := hEntries
      · exact ⟨by simp, (hFollows.lateCopy hCopy).2⟩
      · exact hFollows.lateCopy hCopy
    refine ⟨h.tracked.deliver message, ?_⟩
    intro pre' entry' post' hSplit' hReady'
    rw [deliver_history, deliver_writeBuf, hBuf]
    have hOld : entry' ∉ entries := by
      intro hMem
      rw [not_ready_of_isAsync (hAnswer.1 entry' hMem)] at hReady'
      cases hReady'
    obtain ⟨mid, hInbox, rfl⟩ := split_earlier (hNew.symm.trans hSplit') hOld
    have hMid := (h.tail pre' entry' mid hInbox hReady').1
    refine ⟨?_, hAnswer.2, by simp⟩
    intro e hMem
    cases List.mem_append.mp hMem with
    | inl hEarlier => exact hMid e hEarlier
    | inr hLater => exact hAnswer.1 e hLater

theorem Tidy.deliverAll_copy {messages : List FrontendMessage} (h : t.Tidy server)
    (hBuf : t.writeBuf = []) (hCopy : ∀ message ∈ messages, message.isCopy) :
    (t.deliverAll net messages).Tidy server := by
  induction messages generalizing t with
  | nil => exact h
  | cons message messages ih =>
      rw [deliverAll_cons]
      apply ih
      · exact h.deliver_copy hBuf (hCopy message List.mem_cons_self)
      · rw [deliver_writeBuf, hBuf]
      · exact fun m hMem => hCopy m (List.mem_cons_of_mem _ hMem)

end Deliver

section Flush

variable {t t' : Transport}

/-- A flush that succeeds has delivered the whole buffer, in order. -/
theorem flushWrite_ok (h : t.flushWrite net = .ok t') :
    t' = ({ t with writeBuf := [] } : Transport).deliverAll net (t.writeBuf.map Frame.message) := by
  simp only [flushWrite] at h
  split at h
  case isTrue hNil =>
      cases h
      cases t
      simp_all
  case isFalse =>
      split at h
      · cases h
      · exact (Except.ok.inj h).symm

theorem flushWrite_writeBuf (h : t.flushWrite net = .ok t') : t'.writeBuf = [] := by
  rw [flushWrite_ok h, deliverAll_writeBuf]

theorem Quiet.clear (h : t.Quiet server) : ({ t with writeBuf := [] } : Transport).Quiet server :=
  ⟨⟨h.tracked.ending, h.tracked.suffix⟩, h.inbox, h.mode, by simp⟩

theorem Quiet.flushWrite (h : t.Quiet server) (hFlush : t.flushWrite net = .ok t') :
    t'.Quiet server := by
  rw [flushWrite_ok hFlush]
  apply h.clear.deliverAll
  intro message hMem
  obtain ⟨frame, hFrame, rfl⟩ := List.mem_map.mp hMem
  exact h.writeBuf frame hFrame

/-- A request whose last message is still in the buffer with all that stands before it. -/
theorem Quiet.flushWrite_last (h : t.Quiet server) {frame : Frame}
    (hFlush : (t.push frame).flushWrite net = .ok t') : t'.Tidy server := by
  rw [flushWrite_ok hFlush]
  have hAsks : ∀ message ∈ t.writeBuf.map Frame.message, message.asksReady = false := by
    intro message hMem
    obtain ⟨frame, hFrame, rfl⟩ := List.mem_map.mp hMem
    exact h.writeBuf frame hFrame
  have hFirst := h.clear.deliverAll hAsks
  simp only [push, List.map_append, List.map_cons, List.map_nil, deliverAll_append,
    deliverAll_cons, deliverAll_nil]
  exact tidy_deliver_of_noReady hFirst.tracked hFirst.inbox (deliverAll_writeBuf ..)

theorem Tidy.flushWrite_copy (h : t.Tidy server)
    (hCopy : ∀ frame ∈ t.writeBuf, frame.message.isCopy)
    (hFlush : t.flushWrite net = .ok t') : t'.Tidy server := by
  rw [flushWrite_ok hFlush]
  apply Tidy.deliverAll_copy
  · refine ⟨⟨h.tracked.ending, h.tracked.suffix⟩, ?_⟩
    intro pre entry post hSplit hReady
    obtain ⟨hPost, hMode, _⟩ := h.tail pre entry post hSplit hReady
    exact ⟨hPost, hMode, by simp⟩
  · rfl
  · intro message hMem
    obtain ⟨frame, hFrame, rfl⟩ := List.mem_map.mp hMem
    exact hCopy frame hFrame

end Flush

/-- The stream has ended and everything that came has been read. -/
structure Dead (t : Transport) : Prop where
  inbox : t.inbox = []
  ending : t.ending ≠ none

theorem Dead.deliver {t : Transport} (h : t.Dead) (message : FrontendMessage) :
    (t.deliver net message).Dead := by
  simp only [Transport.deliver]
  cases hEnding : t.ending with
  | none => exact absurd hEnding h.ending
  | some e => exact ⟨h.inbox, by simp⟩

theorem Dead.deliverAll {t : Transport} (h : t.Dead) (messages : List FrontendMessage) :
    (t.deliverAll net messages).Dead := by
  induction messages generalizing t with
  | nil => exact h
  | cons message messages ih => exact ih (h.deliver message)

theorem Dead.push {t : Transport} (h : t.Dead) (frame : Frame) : (t.push frame).Dead :=
  ⟨h.inbox, h.ending⟩

theorem Dead.flushWrite {t t' : Transport} (h : t.Dead) (hFlush : t.flushWrite net = .ok t') :
    t'.Dead := by
  rw [flushWrite_ok hFlush]
  have hClear : ({ t with writeBuf := [] } : Transport).Dead := ⟨h.inbox, h.ending⟩
  exact hClear.deliverAll _

end Transport
end PgClient
