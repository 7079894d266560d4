import PgClient.Replies.Accepted

/-!
What a request brings while the stream is open: the end of its reply, unless the server
has gone over to waiting for COPY data.
-/

namespace PgClient

namespace BackendMessage

/-- The messages after which a row stream takes the next `ReadyForQuery` for its end. -/
def closes : BackendMessage → Bool
  | .commandComplete _ | .errorResponse _ => true
  | _ => false

end BackendMessage

section Replies

theorem StatementReply.closed {reply : List BackendMessage} (h : StatementReply reply) :
    ∃ body tag, reply = body ++ [.commandComplete tag] := by
  cases h with
  | complete sets tag => exact ⟨_, tag, rfl⟩
  | copyOut body chunks tag =>
      exact ⟨.copyOutResponse body :: chunks.map .copyData ++ [.copyDone], tag, by simp⟩

theorem SimpleReply.mode {reply : List BackendMessage} {mode : Mode} (h : SimpleReply reply mode) :
    mode = .ready ∨ mode = .copyIn := by
  induction h with
  | statement _ _ ih => exact ih
  | ready | error | copyInError => exact .inl rfl
  | copyIn => exact .inr rfl

/-- The reply to a query that leaves the server ready. -/
theorem SimpleReply.closed {reply : List BackendMessage} (h : SimpleReply reply .ready)
    (hSome : ∀ status, reply ≠ [.readyForQuery status]) :
    ∃ body message rest, reply = body ++ message :: rest ∧ message.closes ∧ ¬ NoReady rest := by
  cases h with
  | ready status => exact absurd rfl (hSome status)
  | statement hReply hRest =>
      obtain ⟨body, tag, rfl⟩ := hReply.closed
      exact ⟨body, .commandComplete tag, _, by simp, rfl, hRest.ready_mem⟩
  | @error _ begun hReply hBegun body status =>
      exact ⟨begun, .errorResponse body, _, rfl, rfl, by simp [BackendMessage.isReady]⟩
  | copyInError response body status =>
      exact ⟨[.copyInResponse response], .errorResponse body, _, rfl, rfl,
        by simp [BackendMessage.isReady]⟩

/-- A reply to a query does not begin with its end. -/
theorem SimpleReply.first {reply : List BackendMessage} {mode : Mode} (h : SimpleReply reply mode)
    (hSome : ∀ status, reply ≠ [.readyForQuery status]) :
    ∃ message rest, reply = message :: rest ∧ message.isReady = false := by
  cases h with
  | ready status => exact absurd rfl (hSome status)
  | @statement first rest _ hReply hRest =>
      obtain ⟨body, tag, hFirst⟩ := hReply.closed
      have hNone := hReply.noReady
      cases first with
      | nil => cases body <;> cases hFirst
      | cons message first => exact ⟨message, _, rfl, hNone message List.mem_cons_self⟩
  | @error _ begun hReply hBegun body status =>
      have hNone := noReady_prefix hBegun hReply.noReady
      cases begun with
      | nil => exact ⟨_, _, rfl, rfl⟩
      | cons message begun => exact ⟨message, _, rfl, hNone message List.mem_cons_self⟩
  | copyIn | copyInError => exact ⟨_, _, rfl, rfl⟩

theorem Reply.query_cases {next : Mode} {sql : String} {reply : List BackendMessage}
    (h : Reply .ready (.query sql) reply next) :
    SimpleReply reply next ∧ (∀ status, reply ≠ [.readyForQuery status]) ∨
      ∃ status, reply = [.emptyQueryResponse, .readyForQuery status] ∧ next = .ready := by
  cases h with
  | query _ hReply hSome => exact .inl ⟨hReply, hSome⟩
  | emptyQuery _ status => exact .inr ⟨status, rfl, rfl⟩
  | extended hReply | extendedError hReply => cases hReply
  | lateCopy hCopy | refused _ hCopy => cases hCopy
  | copyIgnored _ hMode => cases hMode <;> contradiction

theorem Reply.query_mode {next : Mode} {sql : String} {reply : List BackendMessage}
    (h : Reply .ready (.query sql) reply next) : next = .ready ∨ next = .copyIn := by
  obtain ⟨hReply, _⟩ | ⟨_, _, rfl⟩ := h.query_cases
  · exact hReply.mode
  · exact .inl rfl

theorem Reply.query_first {next : Mode} {sql : String} {reply : List BackendMessage}
    (h : Reply .ready (.query sql) reply next) :
    ∃ message rest, reply = message :: rest ∧ message.isReady = false := by
  obtain ⟨hReply, hSome⟩ | ⟨_, rfl, _⟩ := h.query_cases
  · exact hReply.first hSome
  · exact ⟨_, _, rfl, rfl⟩

theorem Reply.sync_mode {mode next : Mode} {reply : List BackendMessage}
    (h : Reply mode .sync reply next) (hMode : mode ≠ .copyIn) :
    next = .ready ∨ next = .copyInExtended := by
  cases h with
  | sync | syncError | resync => exact .inl rfl
  | extended hReply | extendedError hReply => cases hReply
  | lateCopy hCopy | refused _ hCopy => cases hCopy
  | skip hSkip => exact absurd rfl hSkip
  | copyIgnored _ hCopy => exact .inr (hCopy.resolve_left hMode)
  | copyError | copyErrorExtended => simp_all

/-- What a COPY message does to a server that waits for COPY data. -/
theorem Reply.copy_mode {next : Mode} {message : FrontendMessage} {reply : List BackendMessage}
    (h : Reply .copyIn message reply next) (hCopy : message.isCopy) :
    next = .copyIn ∧ (∀ reason, message ≠ .copyFail reason) ∨ next = .ready ∧ ¬ NoReady reply := by
  cases h with
  | copyData => exact .inl ⟨rfl, by simp⟩
  | copyDone tag hRest =>
      obtain rfl | rfl := hRest.mode
      · exact .inr ⟨rfl, by simpa [BackendMessage.isReady] using hRest.ready_mem⟩
      · exact .inl ⟨rfl, by simp⟩
  | copyError => exact .inr ⟨rfl, by simp [BackendMessage.isReady]⟩
  | copyIgnored _ _ hIgnored => cases hIgnored <;> subst_vars <;> cases hCopy
  | terminate => cases hCopy
  | refused _ hStartup => cases message <;> cases hStartup <;> cases hCopy

end Replies

/-- Where a message of a reply stands among the entries that carry it. -/
theorem split_replyOf {entries : List Entry} {body rest : List BackendMessage}
    {message : BackendMessage} (h : replyOf entries = body ++ message :: rest) :
    ∃ pre post, entries = pre ++ .ok message :: post ∧ replyOf pre = body ∧
      replyOf post = rest := by
  induction entries generalizing body with
  | nil => simp at h
  | cons entry entries ih =>
      have hCons : replyOf (entry :: entries) = replyOf [entry] ++ replyOf entries :=
        replyOf_append [entry] entries
      rw [hCons] at h
      cases entry with
      | error e =>
          obtain ⟨pre, post, rfl, hPre, hPost⟩ := ih h
          exact ⟨.error e :: pre, post, rfl, hPre, hPost⟩
      | ok first =>
          have hFirst : replyOf [.ok first] = if first.isAsync then [] else [first] := by
            cases hSync : first.isAsync <;> simp [replyOf, Except.toOption, hSync]
          have hPrepend : ∀ pre, replyOf (.ok first :: pre) =
              (if first.isAsync then [] else [first]) ++ replyOf pre :=
            fun pre => by rw [← hFirst, ← replyOf_append, List.singleton_append]
          rw [hFirst] at h
          cases hSync : first.isAsync with
          | true =>
              simp only [hSync, if_true, List.nil_append] at h hPrepend
              obtain ⟨pre, post, rfl, hPre, hPost⟩ := ih h
              exact ⟨.ok first :: pre, post, rfl, by rw [hPrepend, hPre], hPost⟩
          | false =>
              simp only [hSync, Bool.false_eq_true, if_false] at h hPrepend
              cases body with
              | nil =>
                  obtain ⟨rfl, hRest⟩ := List.cons.inj h
                  exact ⟨[], entries, rfl, rfl, hRest⟩
              | cons first' body =>
                  obtain ⟨rfl, hRest⟩ := List.cons.inj h
                  obtain ⟨pre, post, rfl, hPre, hPost⟩ := ih hRest
                  exact ⟨.ok first :: pre, post, rfl, by rw [hPrepend, hPre]; rfl, hPost⟩

theorem replyOf_of_isAsync {entries : List Entry} (h : ∀ entry ∈ entries, entry.isAsync) :
    replyOf entries = [] := by
  induction entries with
  | nil => rfl
  | cons entry entries ih =>
      have hFirst := h entry List.mem_cons_self
      rw [← List.singleton_append, replyOf_append,
        ih fun e hMem => h e (List.mem_cons_of_mem _ hMem), List.append_nil]
      cases entry with
      | error e => cases hFirst
      | ok message => simpa [replyOf, Entry.isAsync, Except.toOption] using hFirst

namespace Transport

/-- Once these messages have followed everything that is buffered. -/
def after (net : Network) (t : Transport) (messages : List FrontendMessage) : Transport :=
  (t.flushed net).deliverAll net messages

/-- What holds of the unread messages unless the stream has ended. -/
def WhileOpen (p : List Entry → Prop) (t : Transport) : Prop := t.ending = none → p t.inbox

/-- A `ReadyForQuery` is among the entries. -/
def HasReady (entries : List Entry) : Prop := ∃ entry ∈ entries, entry.isReady

abbrev Promised (t : Transport) : Prop := t.WhileOpen HasReady

theorem WhileOpen.mono {p q : List Entry → Prop} {t : Transport} (h : t.WhileOpen p)
    (hpq : ∀ entries, p entries → q entries) : t.WhileOpen q :=
  fun hOpen => hpq _ (h hOpen)

theorem HasReady.append {entries : List Entry} (h : HasReady entries) (more : List Entry) :
    HasReady (entries ++ more) := by
  obtain ⟨entry, hMem, hReady⟩ := h
  exact ⟨entry, List.mem_append_left _ hMem, hReady⟩

theorem HasReady.later {first later : List Entry} (h : HasReady later) :
    HasReady (first ++ later) := by
  obtain ⟨entry, hMem, hReady⟩ := h
  exact ⟨entry, List.mem_append_right _ hMem, hReady⟩

theorem hasReady_of_replyOf {entries : List Entry} (h : ¬ NoReady (replyOf entries)) :
    HasReady entries :=
  exists_ready_of_not_noReady h

section Open

variable {net : Network} {t : Transport}

/-- A stream that is open after a message was so before, and the answer has come whole. -/
theorem open_of_deliver {message : FrontendMessage} (h : (t.deliver net message).ending = none) :
    t.ending = none ∧ (net.answer t.history message).closes = none ∧
      (t.deliver net message).inbox = t.inbox ++ (net.answer t.history message).messages := by
  simp only [deliver] at h ⊢
  cases hEnding : t.ending with
  | none =>
      rw [hEnding] at h
      exact ⟨rfl, h, rfl⟩
  | some e =>
      simp [hEnding] at h

theorem open_of_deliverAll {messages : List FrontendMessage}
    (h : (t.deliverAll net messages).ending = none) : t.ending = none := by
  induction messages generalizing t with
  | nil => exact h
  | cons message messages ih => exact (open_of_deliver (ih h)).1

theorem open_of_flushed (h : (t.flushed net).ending = none) : t.ending = none :=
  @open_of_deliverAll net { t with writeBuf := [] } _ h

theorem open_of_after {messages : List FrontendMessage} (h : (t.after net messages).ending = none) :
    t.ending = none :=
  open_of_flushed (open_of_deliverAll h)

theorem Dead.after (h : t.Dead) (messages : List FrontendMessage) :
    (t.after net messages).ending ≠ none :=
  fun hOpen => h.ending (open_of_after hOpen)

/-- What reaches the server does not depend on what is unread. -/
theorem after_inbox (t : Transport) (inbox : List Entry) (messages : List FrontendMessage) :
    (({ t with inbox := inbox } : Transport).after net messages).history =
        (t.after net messages).history ∧
      (({ t with inbox := inbox } : Transport).after net messages).ending =
        (t.after net messages).ending := by
  have hAll : ∀ (messages : List FrontendMessage) (t t' : Transport), t'.history = t.history →
      t'.ending = t.ending →
      (t'.deliverAll net messages).history = (t.deliverAll net messages).history ∧
        (t'.deliverAll net messages).ending = (t.deliverAll net messages).ending := by
    intro messages
    induction messages with
    | nil => exact fun _ _ hHistory hEnding => ⟨hHistory, hEnding⟩
    | cons message messages ih =>
        intro t t' hHistory hEnding
        apply ih
        · rw [deliver_history, deliver_history, hHistory]
        · simp only [deliver, hHistory, hEnding]
          cases t.ending <;> rfl
  obtain ⟨hHistory, hEnding⟩ := hAll (t.writeBuf.map Frame.message)
    { t with writeBuf := [] } { t with writeBuf := [], inbox := inbox } rfl rfl
  exact hAll messages _ _ hHistory hEnding

end Open

end Transport

/-- The server has asked for COPY data and waits for more of it or for its end. -/
def Server.AwaitsCopy {net : Network} (server : Server net) (t : Transport) : Prop :=
  t.ending = none ∧
    (server.mode t.history = .copyIn ∨ server.mode t.history = .copyInExtended)

namespace Transport

variable {net : Network} {server : Server net} {t : Transport}

/-- A request ended by a Sync. -/
theorem promised_sync {messages : List FrontendMessage} (hStart : t.Dead ∨ t.Settled server)
    (hAsks : ∀ message ∈ messages, message.asksReady = false)
    (hSpared : ¬ server.AwaitsCopy (t.after net (messages ++ [.sync]))) :
    (t.after net (messages ++ [.sync])).Promised := by
  intro hOpen
  have hSettled := hStart.resolve_left fun hDead => hDead.after _ hOpen
  have hQuiet := hSettled.flushed.quiet.deliverAll hAsks
  simp only [after, deliverAll_append, deliverAll_cons, deliverAll_nil] at hSpared hOpen ⊢
  obtain ⟨_, hStays, hInbox⟩ := open_of_deliver hOpen
  have hFollows := server.follows ((t.flushed net).deliverAll net messages).history .sync
  obtain ⟨reply, hReply, _, _⟩ := hFollows.reply
  rw [hInbox]
  rw [Server.AwaitsCopy, deliver_history] at hSpared
  obtain hMode | hMode := hReply.sync_mode hQuiet.mode
  · rw [hMode] at hFollows
    exact HasReady.later (hFollows.asked hQuiet.mode rfl hStays)
  · exact absurd ⟨hOpen, .inr hMode⟩ hSpared

/-- The whole reply to a query, as long as the stream is open. -/
theorem replied_query (hStart : t.Dead ∨ t.Settled server) {sql : String}
    (hOpen : (t.after net [.query sql]).ending = none) :
    Reply .ready (.query sql) (replyOf (t.after net [.query sql]).inbox)
      (server.mode (t.after net [.query sql]).history) := by
  have hSettled := (hStart.resolve_left fun hDead => hDead.after _ hOpen).flushed
  simp only [after, deliverAll_cons, deliverAll_nil] at hOpen ⊢
  obtain ⟨_, hStays, hInbox⟩ := open_of_deliver hOpen
  obtain ⟨reply, hReply, _, hWhole⟩ := (server.follows (t.flushed net).history (.query sql)).reply
  rw [hInbox, replyOf_append, replyOf_of_isAsync hSettled.inbox, List.nil_append, hWhole hStays,
    deliver_history, ← hSettled.mode]
  exact hReply

end Transport
end PgClient
