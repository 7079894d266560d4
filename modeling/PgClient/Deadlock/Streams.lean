import PgClient.Effects.Calls
import PgClient.Deadlock.Operations

/-!
Row streams that come to their end: what has to be ahead of a stream in each of its states,
and that every message leaves ahead what the next state needs.
-/

namespace PgClient

open Drive Async Transport Connection

/-- The message after which a stream takes `ReadyForQuery` for its end is ahead, and behind it
the end. -/
def Closes (entries : List Entry) : Prop :=
  ∃ pre message post, entries = pre ++ .ok message :: post ∧ message.closes ∧ HasReady post

/-- An empty query is answered next. -/
def Empties (entries : List Entry) : Prop :=
  ∃ pre post, entries = pre ++ .ok .emptyQueryResponse :: post ∧ replyOf pre = [] ∧ HasReady post

theorem closes_cons {entry : Entry} {entries : List Entry} (h : Closes (entry :: entries)) :
    (∃ message, entry = .ok message ∧ message.closes ∧ HasReady entries) ∨ Closes entries := by
  obtain ⟨pre, message, post, hSplit, hCloses, hReady⟩ := h
  cases pre with
  | nil =>
      obtain ⟨rfl, rfl⟩ := List.cons.inj hSplit
      exact .inl ⟨message, rfl, hCloses, hReady⟩
  | cons first pre =>
      obtain ⟨rfl, rfl⟩ := List.cons.inj hSplit
      exact .inr ⟨pre, message, post, rfl, hCloses, hReady⟩

theorem empties_cons {entry : Entry} {entries : List Entry} (h : Empties (entry :: entries)) :
    (entry = .ok .emptyQueryResponse ∧ HasReady entries) ∨
      (replyOf [entry] = [] ∧ Empties entries) := by
  obtain ⟨pre, post, hSplit, hPre, hReady⟩ := h
  cases pre with
  | nil =>
      obtain ⟨rfl, rfl⟩ := List.cons.inj hSplit
      exact .inl ⟨rfl, hReady⟩
  | cons first pre =>
      obtain ⟨rfl, rfl⟩ := List.cons.inj hSplit
      rw [← List.singleton_append, replyOf_append, List.append_eq_nil_iff] at hPre
      exact .inr ⟨hPre.1, pre, post, rfl, hPre.2, hReady⟩

theorem Closes.hasReady {entries : List Entry} (h : Closes entries) : HasReady entries := by
  obtain ⟨pre, message, post, rfl, _, hReady⟩ := h
  exact HasReady.later (@HasReady.later [_] _ hReady)

theorem Empties.hasReady {entries : List Entry} (h : Empties entries) : HasReady entries := by
  obtain ⟨pre, post, rfl, _, hReady⟩ := h
  exact HasReady.later (@HasReady.later [_] _ hReady)

/-- Nothing that ends an attempt to read is lost with an asynchronous message or a failure. -/
theorem closes_skip {entry : Entry} {entries : List Entry} (h : Closes (entry :: entries))
    (hEntry : ∀ message, entry = .ok message → message.closes = false) : Closes entries := by
  obtain ⟨message, hMessage, hCloses, _⟩ | hLater := closes_cons h
  · rw [hEntry message hMessage] at hCloses
    cases hCloses
  · exact hLater

theorem closes_read {message : BackendMessage} {entries : List Entry}
    (h : Closes (.ok message :: entries)) : HasReady entries := by
  obtain ⟨_, _, _, hReady⟩ | hLater := closes_cons h
  · exact hReady
  · exact hLater.hasReady

/-- What has to be ahead of a stream. -/
def RowStreamState.Owed : RowStreamState → List Entry → Prop
  | .waitingForDescription, entries => Closes entries ∨ Empties entries
  | .receivingRows, entries => Closes entries
  | .finishing _, entries => HasReady entries
  | .done _, _ | .error, _ => True

namespace RowStream

theorem owed_hasReady {stream : RowStream} {entries : List Entry}
    (h : stream.state.Owed entries) (hOpen : stream.isDone = false) : HasReady entries := by
  obtain ⟨columns, state⟩ := stream
  cases state with
  | waitingForDescription => exact h.elim Closes.hasReady Empties.hasReady
  | receivingRows => exact Closes.hasReady h
  | finishing tag => exact h
  | done tag | error => cases hOpen

/-- A stream that an entry leaves as it is. -/
theorem owed_skip {state : RowStreamState} {entry : Entry} {entries : List Entry}
    (h : state.Owed (entry :: entries))
    (hEntry : ∀ message, entry = .ok message → message.closes = false ∧
      (message = .emptyQueryResponse → state ≠ .waitingForDescription) ∧
      (message.isReady → ∀ tag, state ≠ .finishing tag)) : state.Owed entries := by
  cases state with
  | waitingForDescription =>
      cases h with
      | inl hCloses => exact .inl (closes_skip hCloses fun message hOk => (hEntry message hOk).1)
      | inr hEmpties =>
          obtain ⟨rfl, _⟩ | ⟨_, hLater⟩ := empties_cons hEmpties
          · exact absurd rfl ((hEntry _ rfl).2.1 rfl)
          · exact .inr hLater
  | receivingRows => exact closes_skip h fun message hOk => (hEntry message hOk).1
  | finishing tag =>
      apply hasReady_cons h
      by_contra hReady
      cases entry with
      | error e => exact hReady rfl
      | ok message => exact (hEntry message rfl).2.2 (by simpa [Entry.isReady] using hReady) tag rfl
  | done tag | error => trivial

theorem owed_read {state : RowStreamState} {message : BackendMessage} {entries : List Entry}
    (h : state.Owed (.ok message :: entries)) (hCloses : message.closes)
    (hOpen : ∀ tag, state ≠ .done tag) (hError : state ≠ .error) : HasReady entries := by
  have hReady : Entry.isReady (.ok message) = false := by
    cases message <;> first | rfl | cases hCloses
  cases state with
  | waitingForDescription =>
      cases h with
      | inl hLater => exact closes_read hLater
      | inr hEmpties => exact hasReady_cons hEmpties.hasReady hReady
  | receivingRows => exact closes_read h
  | finishing tag => exact hasReady_cons h hReady
  | done tag => exact absurd rfl (hOpen tag)
  | error => exact absurd rfl hError

/-- What is ahead of a stream when its loop has left. -/
def OwedAfter : Except PgError Event → RowStream → List Entry → Prop
  | .ok (.serverError _), _, entries => HasReady entries
  | _, stream, entries => stream.state.Owed entries

theorem owed_next (stream : RowStream) (conn : Connection) {message : BackendMessage}
    {entries : List Entry} (h : stream.state.Owed (.ok message :: entries))
    (hOpen : stream.isDone = false) :
    match nextBody (stream, conn) message with
    | .next s' => s'.1.isDone = false ∧ s'.1.state.Owed entries
    | .exit result s' => OwedAfter result s'.1 entries := by
  have hSame : message.closes = false →
      (message = .emptyQueryResponse → stream.state ≠ .waitingForDescription) →
      (message.isReady → ∀ tag, stream.state ≠ .finishing tag) → stream.state.Owed entries := by
    intro hCloses hEmpty hReady
    apply owed_skip h
    rintro _ hOk
    cases hOk
    exact ⟨hCloses, hEmpty, hReady⟩
  have hPlain : message.closes = false → message ≠ .emptyQueryResponse → message.isReady = false →
      stream.state.Owed entries := by
    intro hCloses hEmpty hReady
    refine hSame hCloses (fun hIs => absurd hIs hEmpty) (fun hIs => ?_)
    rw [hReady] at hIs
    cases hIs
  simp only [nextBody, asyncFirst]
  cases hAsync : conn.handleAsyncMessage message with
  | some conn' =>
      have hMessage : message.isAsync := by
        rw [← handleAsyncMessage_isSome conn message, hAsync]
        rfl
      refine ⟨hOpen, hSame ?_ ?_ ?_⟩
      · cases message <;> first | rfl | cases hMessage
      · rintro rfl
        cases hMessage
      · intro hReady
        have hNot : message.isReady = false := @not_ready_of_isAsync (.ok message) hMessage
        rw [hNot] at hReady
        cases hReady
  | none =>
      obtain ⟨columns, state⟩ := stream
      have hRead : message.closes → HasReady entries := by
        intro hCloses
        cases state with
        | done tag | error => cases hOpen
        | _ => exact owed_read h hCloses (by simp) (by simp)
      cases message with
      | rowDescription fields =>
          cases state with
          | waitingForDescription =>
              cases fields with
              | ok fields =>
                  refine ⟨rfl, ?_⟩
                  obtain hCloses | hEmpties := h
                  · exact closes_skip hCloses fun _ hOk => by cases hOk; rfl
                  · obtain ⟨hEmpty, _⟩ | ⟨hNone, _⟩ := empties_cons hEmpties
                    · cases hEmpty
                    · cases hNone
              | error e => exact hPlain rfl (by simp) rfl
          | receivingRows | finishing tag => exact ⟨rfl, hPlain rfl (by simp) rfl⟩
          | done tag | error => cases hOpen
      | dataRow values =>
          cases state with
          | receivingRows => cases values <;> exact hPlain rfl (by simp) rfl
          | waitingForDescription | finishing tag => exact ⟨rfl, hPlain rfl (by simp) rfl⟩
          | done tag | error => cases hOpen
      | commandComplete tag =>
          cases state with
          | waitingForDescription | receivingRows => exact ⟨rfl, hRead rfl⟩
          | finishing tag => exact ⟨rfl, hRead rfl⟩
          | done tag | error => cases hOpen
      | emptyQueryResponse =>
          cases state with
          | waitingForDescription =>
              exact ⟨rfl, hasReady_cons (h.elim Closes.hasReady Empties.hasReady) rfl⟩
          | receivingRows | finishing tag =>
              exact ⟨rfl, hSame rfl (by simp) (by simp [BackendMessage.isReady])⟩
          | done tag | error => cases hOpen
      | readyForQuery status =>
          cases state with
          | finishing tag => trivial
          | waitingForDescription | receivingRows =>
              exact ⟨rfl, hSame rfl (by simp) (by simp)⟩
          | done tag | error => cases hOpen
      | errorResponse body =>
          cases state with
          | waitingForDescription | receivingRows | finishing tag => exact hRead rfl
          | done tag | error => cases hOpen
      | _ =>
          cases state with
          | waitingForDescription | receivingRows | finishing tag =>
              exact ⟨rfl, hPlain rfl (by simp) rfl⟩
          | done tag | error => cases hOpen

variable {net : Network} {server : Server net}

/-- A stream whose end is ahead unless the connection has been closed. -/
structure Live (s : RowStream × Connection) : Prop where
  owed : s.2.transport.WhileOpen s.1.state.Owed
  clear : Clear s.2

/-- A stream that may be dropped: a reply that is not read to its end has one. -/
structure Droppable (s : RowStream × Connection) : Prop where
  promised : s.1.isDone = false → s.2.transport.Promised
  clear : Clear s.2

theorem Live.droppable {s : RowStream × Connection} (h : Live s) : Droppable s :=
  ⟨fun hDone => h.owed.mono fun _ hOwed => owed_hasReady hOwed hDone, h.clear⟩

theorem Droppable.drop {s : RowStream × Connection} (h : Droppable s) :
    Recoverable (RowStream.drop s.1 s.2) := by
  simp only [RowStream.drop]
  split
  case isTrue => exact h.clear.recoverable
  case isFalse hOpen => exact fun _ => h.promised (by simpa using hOpen)

theorem completes_nextLoop :
    Completes net (fun s : RowStream × Connection => s.1.isDone = false ∧ Live s)
      (messageLoop nextBody)
      (fun event s => s.2.transport.WhileOpen (OwedAfter (.ok event) s.1) ∧ Clear s.2)
      (fun _ s => Droppable s) := by
  have hLoop := @completes_messageLoop RowStream Event net Event.progress toIdle Clear nextBody
    orderly_next upToInbox_clear
    (fun stream entries => stream.isDone = false ∧ stream.state.Owed entries)
    (fun result stream entries => OwedAfter result stream entries)
    (fun stream h => by
      obtain ⟨_, hMem, _⟩ := owed_hasReady h.2 h.1
      cases hMem)
    (fun s entry entries s' h hStep => by
      cases entry with
      | error e => cases hStep
      | ok message =>
          have hNext := owed_next s.1 s.2 h.2 h.1
          rw [show nextBody (s.1, s.2) message = .next s' from hStep] at hNext
          exact hNext)
    (fun s entry entries result s' h hStep => by
      cases entry with
      | error e =>
          cases hStep
          exact owed_skip h.2 nofun
      | ok message =>
          have hNext := owed_next s.1 s.2 h.2 h.1
          rw [show nextBody (s.1, s.2) message = .exit result s' from hStep] at hNext
          exact hNext)
  apply hLoop.mono
  · exact fun s h => ⟨h.2.owed.mono fun _ hOwed => ⟨h.1, hOwed⟩, h.2.clear⟩
  · exact fun _ _ h => h
  · exact fun e s h => ⟨fun hOpen => h.1.mono fun _ hOwed => owed_hasReady hOwed hOpen, h.2⟩

theorem completes_next :
    Completes net Live next (fun _ => Live) (fun _ => Droppable) := by
  apply Completes.get_bind
  intro (stream, conn) h
  dsimp only
  by_cases hDone : stream.isDone = true
  · rw [if_pos hDone]
    exact Completes.pure fun s hs => hs ▸ h
  · rw [if_neg hDone]
    have hOpen : stream.isDone = false := by simpa using hDone
    have hStart : ∀ s, s = (stream, conn) → s.1.isDone = false ∧ Live s := by
      rintro _ rfl
      exact ⟨hOpen, h⟩
    apply Completes.bind (completes_nextLoop.pre_mono hStart)
    intro event
    cases event with
    | row row => exact Completes.pure fun s hs => ⟨hs.1, hs.2⟩
    | finished => exact Completes.pure fun s hs => ⟨hs.1, hs.2⟩
    | serverError body =>
        have hDrain : Completes net (fun s : RowStream × Connection => Awaiting Clear s.2)
            (Async.onSnd (drainServerError body)) (fun _ s => Clear s.2)
            (fun _ s => Awaiting Clear s.2) :=
          Completes.onSnd fun _ => completes_drainServerError upToInbox_clear body
        apply Completes.bind (hDrain.mono (fun s hs => ⟨hs.1, hs.2⟩) (fun _ _ h => h)
          fun _ s hs => ⟨fun _ => hs.promised, hs.keeps⟩)
        intro serverErr
        refine Completes.modify_bind Droppable (fun s hs => ⟨nofun, hs⟩) ?_
        exact Completes.fail fun _ h => h

/-- Every row that a stream returns has been read, so that there are no more of them than
messages. -/
theorem completes_drainLoop (fuel : Nat) (rows : List Row) :
    Completes net (fun s => Live s ∧ s.2.transport.inbox.length < fuel) (drainLoop fuel rows)
      (fun _ => Live) (fun _ => Droppable) := by
  induction fuel generalizing rows with
  | zero =>
      have hNever : ∀ s : RowStream × Connection, ¬ s.2.transport.inbox.length < 0 :=
        fun s => Nat.not_lt_zero _
      exact ⟨fun s h => absurd h.2 (hNever s), fun s h => absurd h.2 (hNever s)⟩
  | succ fuel ih =>
      have hNext : Completes net (fun s => Live s ∧ s.2.transport.inbox.length < fuel + 1) next
          (fun row s => Live s ∧ (row.isSome → s.2.transport.inbox.length < fuel))
          (fun _ => Droppable) := by
        have hRuns := @completes_next net
        constructor
        · intro s h
          have hEnd := hRuns.holds s h.1
          revert hEnd
          cases hRun : next net s with
          | mk outcome s' =>
              cases outcome with
              | ok row =>
                  refine fun hLive => ⟨hLive, fun hSome => ?_⟩
                  obtain ⟨row, rfl⟩ := Option.isSome_iff_exists.mp hSome
                  exact Nat.lt_of_lt_of_le (inbox_lt_of_next hRun) (Nat.le_of_lt_succ h.2)
              | err e => exact id
              | pending => exact id
        · exact fun s h => hRuns.returns s h.1
      apply Completes.bind hNext
      intro row
      cases row with
      | some row => exact (ih _).pre_mono fun s h => ⟨h.1, h.2 rfl⟩
      | none => exact Completes.pure fun s h => h.1

theorem completes_drain :
    Completes net Live drain (fun _ => Live) (fun _ => Droppable) := by
  have hDrain := fun fuel => @completes_drainLoop net fuel []
  exact ⟨fun s h => (hDrain _).holds s ⟨h, Nat.lt_succ_self _⟩,
    fun s h => (hDrain _).returns s ⟨h, Nat.lt_succ_self _⟩⟩

theorem completes_consume :
    Completes net Live consume (fun _ => Live) (fun _ => Droppable) := by
  apply Completes.bind completes_drain
  intro _
  apply Completes.get_bind
  intro (stream, conn) h
  dsimp only
  split
  · exact Completes.pure fun s hs => hs ▸ h
  · exact Completes.pure fun s hs => hs ▸ h

theorem completes_scope {α : Type} {stream : RowStream} {body : Owner RowStream α}
    (hBody : Completes net Live body (fun _ => Droppable) (fun _ => Droppable)) :
    Completes net (fun conn => Live (stream, conn)) (scope stream body) (fun _ => Recoverable)
      (fun _ => Recoverable) := by
  constructor
  · intro conn h
    have hEnd := hBody.holds (stream, conn) h
    simp only [scope]
    revert hEnd
    cases body net (stream, conn) with
    | mk outcome s =>
        cases outcome with
        | ok _ => exact Droppable.drop
        | err _ => exact Droppable.drop
        | pending => exact id
  · exact fun conn h => hBody.returns (stream, conn) h

/-- What is ahead of a new stream on an open connection. -/
theorem live_newSimple {conn : Connection} (hReplied : conn.transport.WhileOpen Replied)
    (hClear : Clear conn) : Live (newSimple, conn) := by
  refine ⟨fun hOpen => ?_, hClear⟩
  obtain ⟨sql, hReply⟩ := hReplied hOpen
  obtain ⟨hSimple, hSome⟩ | ⟨status, hEmpty, _⟩ := hReply.query_cases
  · obtain ⟨body, message, rest, hSplit, hCloses, hReady⟩ := hSimple.closed hSome
    obtain ⟨pre, post, hEntries, _, hPost⟩ := split_replyOf hSplit
    exact .inl ⟨pre, message, post, hEntries, hCloses, hasReady_of_replyOf (hPost ▸ hReady)⟩
  · obtain ⟨pre, post, hEntries, hPre, hPost⟩ := @split_replyOf _ [] _ _ hEmpty
    refine .inr ⟨pre, post, hEntries, hPre, hasReady_of_replyOf ?_⟩
    rw [hPost]
    simp [BackendMessage.isReady]

end RowStream

namespace Connection

variable {net : Network} {server : Server net}

theorem sparedBy_inbox {messages : List FrontendMessage} (t : Transport) (inbox : List Entry)
    (h : SparedBy server messages t) : SparedBy server messages { t with inbox := inbox } := by
  obtain ⟨hHistory, hEnding⟩ := @after_inbox net t inbox messages
  intro hAwaits
  apply h
  rw [Server.AwaitsCopy, hHistory, hEnding] at hAwaits
  exact hAwaits

/-- What a query needs of the connection that it is made on. -/
structure QueryStartable (server : Server net) (sql : String) (conn : Connection) : Prop where
  good : Good server conn
  recoverable : Recoverable conn
  spared : conn.state = .idle ∨ conn.needsRecovery → SparedBy server [.query sql] conn.transport

theorem completes_queryStream (sql : String) :
    Completes net (QueryStartable server sql) (queryStream sql)
      (fun stream conn => RowStream.Live (stream, conn)) (fun _ => Recoverable) := by
  have hRecover := (@completes_recover net server _
    (fun t inbox => @sparedBy_inbox net server [.query sql] t inbox)).mono
    (fun conn (h : QueryStartable server sql conn) => ⟨h.good, h.recoverable, h.spared⟩)
    (fun _ _ h => h.1) (fun _ _ h => h)
  apply Completes.bind hRecover
  intro _
  apply Completes.bind (completes_start rfl _)
  intro _
  apply Completes.bind ((completes_query sql).mono (fun _ h => h) (fun _ _ h => h)
    fun _ _ h => h.recoverable)
  exact fun _ => Completes.pure fun conn h => RowStream.live_newSimple h.1 h.2

theorem completes_collect (stream : RowStream) :
    Completes net (fun conn => RowStream.Live (stream, conn)) (collect stream)
      (fun _ => Recoverable) (fun _ => Recoverable) := by
  apply RowStream.completes_scope
  apply Completes.bind RowStream.completes_drain
  intro rows
  apply Completes.get_bind
  exact fun start h => Completes.pure fun _ hs => hs ▸ h.droppable

theorem completes_queryAll (sql : String) :
    Completes net (QueryStartable server sql) (query sql) (fun _ => Recoverable)
      (fun _ => Recoverable) :=
  Completes.bind (completes_queryStream sql) completes_collect

end Connection
end PgClient
