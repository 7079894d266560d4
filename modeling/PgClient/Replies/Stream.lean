import Mathlib.Data.List.DropRight
import PgClient.Pairing.Frame
import PgClient.Query.Simple
import PgClient.Replies.Extended

/-!
Streaming a query with parameters against collecting it: what the preamble loop leaves to
the stream, and when the stream comes to its end.
-/

namespace PgClient

open Drive Async Connection

/-- A message inside a reply: it neither ends the reply nor breaks it off, and what a query
parses of it can be parsed. -/
def BackendMessage.isInner : BackendMessage → Bool
  | .readyForQuery _ | .errorResponse _ => false
  | .copyInResponse _ | .copyOutResponse _ => true
  | message => message.wellFormed && !message.isAsync

namespace Connection

theorem detached_preamble : Detached preambleBody := by
  apply detached_asyncFirst
  intro l conn message
  cases message with
  | rowDescription fields => cases fields <;> rfl
  | _ => rfl

theorem detached_readUntilReady : Detached readUntilReadyBody := by
  apply detached_asyncFirst
  intro l conn message
  cases message <;> rfl

section LeftAt

variable {entries mid out : List Entry} {reply rest later : List BackendMessage}

/-- One loop after another. -/
theorem LeftAt.trans (h : LeftAt entries reply rest mid) (h' : LeftAt mid rest later out) :
    LeftAt entries reply later out := by
  obtain ⟨taken, message, read, rfl, rfl⟩ := h.split
  obtain ⟨taken', message', read', rfl, rfl⟩ := h'.split
  exact ⟨h'.unread, taken ++ .ok message :: taken', message', read ++ message :: read',
    by simp, by simp⟩

theorem isAsync_of_interleaves (h : Interleaves entries reply) {message : BackendMessage}
    (hMem : message ∈ reply) : message.isAsync = false := by
  have hEntry : (.ok message : Entry) ∈ entries.filter fun entry => !entry.isAsync := by
    rw [h]
    exact List.mem_map_of_mem hMem
  simpa [Entry.isAsync] using (List.mem_filter.mp hEntry).2

/-- Behind the last message of a reply only the asynchronous messages after it are left. -/
theorem LeftAt.eq_rtakeWhile (hReply : Interleaves entries reply)
    (h : LeftAt entries reply [] out) :
    out = entries.rtakeWhile Entry.isAsync := by
  obtain ⟨taken, message, read, hEntries, rfl⟩ := h.split
  have hMessage := isAsync_of_interleaves hReply (List.mem_append_right read List.mem_cons_self)
  have hOut : ∀ entry ∈ out, entry.isAsync := by
    have hNil := h.unread
    simpa [Interleaves, List.filter_eq_nil_iff] using hNil
  rw [hEntries]
  clear hEntries h
  induction out using List.reverseRecOn with
  | nil => simp [Entry.isAsync, hMessage]
  | append_singleton out entry ih =>
      have hLast := hOut entry (by simp)
      rw [← List.cons_append, ← List.append_assoc, List.rtakeWhile_concat_pos _ _ _ hLast,
        ← ih fun e hMem => hOut e (by simp [hMem])]

theorem LeftAt.ready {status : UInt8} {body : List BackendMessage}
    (h : LeftAt entries (body ++ [.readyForQuery status]) [] out) :
    ∃ read, entries = read ++ .ok (.readyForQuery status) :: out := by
  obtain ⟨taken, message, read, hEntries, hReply⟩ := h.split
  have hMessage := (List.append_inj' hReply rfl).2
  cases hMessage
  exact ⟨taken, hEntries⟩

end LeftAt

section Drains

variable {net : Network} {conn : Connection} {status : UInt8} {error : List (UInt8 × String)}

theorem readUntilReady_ready (net : Network) (hReply : Interleaves conn.transport.inbox
    [.readyForQuery status]) :
    ∃ conn', readUntilReady net conn = (.ok (), conn') ∧ conn'.state = .idle ∧
      LeftAt conn.transport.inbox [.readyForQuery status] [] conn'.transport.inbox := by
  have hDrive : drive (localStep readUntilReadyBody) () [.readyForQuery status] =
      .done (.ok ()) () [] := rfl
  obtain ⟨conn', hLoop, hLeft⟩ := detached_readUntilReady.messageLoop_done net
    ((), conn) hReply hDrive
  obtain ⟨_, hState⟩ := messageLoop_state orderly_readUntilReady hLoop rfl
  exact ⟨conn', by simp only [readUntilReady, withLocal_apply, hLoop, Outcome.ofExcept_ok], hState,
    hLeft⟩

theorem fromBody_fields :
    ioResult (PgServerError.fromBody { fields := .ok error }) =
      .ok (PgServerError.fromFields error) :=
  rfl

theorem drainServerErrorOnly_ready (net : Network) (error : List (UInt8 × String))
    (hReply : Interleaves conn.transport.inbox [.readyForQuery status]) :
    ∃ conn', drainServerErrorOnly { fields := .ok error } net conn =
        (.ok (PgServerError.fromFields error), conn') ∧
      LeftAt conn.transport.inbox [.readyForQuery status] [] conn'.transport.inbox := by
  obtain ⟨conn', hRead, _, hLeft⟩ := readUntilReady_ready net hReply
  refine ⟨conn', ?_, hLeft⟩
  rw [drainServerErrorOnly, fromBody_fields, bind_of_ok (lift_ok_apply ..), bind_of_ok hRead]
  rfl

theorem drainServerError_ready (net : Network) (error : List (UInt8 × String))
    (hReply : Interleaves conn.transport.inbox [.readyForQuery status]) :
    ∃ conn', drainServerError { fields := .ok error } net conn =
        (.ok (PgServerError.fromFields error), conn') ∧ conn'.state = .idle ∧
      LeftAt conn.transport.inbox [.readyForQuery status] [] conn'.transport.inbox := by
  obtain ⟨conn', hRead, _, hLeft⟩ := readUntilReady_ready net hReply
  refine ⟨conn'.setState .idle, ?_, rfl, hLeft⟩
  rw [drainServerError, fromBody_fields, bind_of_ok (lift_ok_apply ..), bind_of_ok hRead]
  rfl

end Drains

end Connection

namespace RowStream

theorem detached_next : Detached nextBody := by
  apply detached_asyncFirst
  intro (⟨columns, state⟩) conn message
  cases message with
  | rowDescription fields => cases state <;> cases fields <;> rfl
  | dataRow values => cases state <;> cases values <;> rfl
  | _ => cases state <;> rfl

section Next

variable {net : Network} {stream stream' : RowStream} {conn : Connection}
  {reply rest : List BackendMessage}

theorem next_eq (hOpen : stream.isDone = false) :
    next net (stream, conn) = (messageLoop nextBody >>= fun event => match event with
      | .row row => pure (some row)
      | .finished => pure none
      | .serverError body => do
          let serverErr ← .onSnd (drainServerError body)
          .modify fun (stream, conn) => ({ stream with state := .error }, conn)
          .fail (.server serverErr)) net (stream, conn) := by
  rw [next, bind_of_ok (get_apply ..)]
  exact congrFun (congrFun (if_neg (Bool.eq_false_iff.mp hOpen)) net) (stream, conn)

theorem next_row (net : Network) (hOpen : stream.isDone = false)
    (hReply : Interleaves conn.transport.inbox reply)
    {row : Row}
    (hDrive : drive (localStep nextBody) stream reply = .done (.ok (.row row)) stream' rest) :
    ∃ conn', next net (stream, conn) = (.ok (some row), (stream', conn')) ∧
      LeftAt conn.transport.inbox reply rest conn'.transport.inbox := by
  obtain ⟨conn', hLoop, hLeft⟩ := detached_next.messageLoop_done net (stream, conn) hReply hDrive
  exact ⟨conn', by rw [next_eq hOpen, bind_of_ok hLoop]; rfl, hLeft⟩

theorem next_finished (net : Network) (hOpen : stream.isDone = false)
    (hReply : Interleaves conn.transport.inbox reply)
    (hDrive : drive (localStep nextBody) stream reply = .done (.ok .finished) stream' rest) :
    ∃ conn', next net (stream, conn) = (.ok none, (stream', conn')) ∧ conn'.state = .idle ∧
      LeftAt conn.transport.inbox reply rest conn'.transport.inbox := by
  obtain ⟨conn', hLoop, hLeft⟩ := detached_next.messageLoop_done net (stream, conn) hReply hDrive
  obtain ⟨_, hState⟩ := messageLoop_state orderly_next hLoop rfl
  exact ⟨conn', by rw [next_eq hOpen, bind_of_ok hLoop]; rfl, hState, hLeft⟩

theorem next_serverError (net : Network) (hOpen : stream.isDone = false)
    (hReply : Interleaves conn.transport.inbox reply) {error : List (UInt8 × String)}
    {status : UInt8}
    (hDrive : drive (localStep nextBody) stream reply =
      .done (.ok (.serverError { fields := .ok error })) stream' [.readyForQuery status]) :
    ∃ conn', next net (stream, conn) = (.err (.server (PgServerError.fromFields error)),
        ({ stream' with state := .error }, conn')) ∧ conn'.state = .idle ∧
      LeftAt conn.transport.inbox reply [] conn'.transport.inbox := by
  obtain ⟨conn₁, hLoop, hLeft⟩ := detached_next.messageLoop_done net (stream, conn) hReply hDrive
  obtain ⟨conn', hDrain, hState, hRest⟩ := drainServerError_ready net error hLeft.unread
  refine ⟨conn', ?_, hState, hLeft.trans hRest⟩
  have hOwner : (Async.onSnd (drainServerError { fields := .ok error }) : Owner RowStream _) net
      (stream', conn₁) = (.ok (PgServerError.fromFields error), (stream', conn')) := by
    rw [onSnd_apply, hDrain]
  rw [next_eq hOpen, bind_of_ok hLoop]
  exact bind_of_ok hOwner

theorem next_waiting (hOpen : stream.isDone = false)
    (hReply : Interleaves conn.transport.inbox reply) (hStays : conn.transport.ending = none)
    (hDrive : drive (localStep nextBody) stream reply = .waiting stream') :
    (next net (stream, conn)).1 = .pending := by
  rw [next_eq hOpen, bind_pending _
    (detached_next.messageLoop_waiting net (stream, conn) hReply hDrive hStays)]

end Next

/-- Messages that a stream passes over while it waits for rows. -/
def Skipped (messages : List BackendMessage) : Prop :=
  ∀ message ∈ messages, ∀ columns,
    localStep nextBody (newExtendedReceiving columns) message = .next (newExtendedReceiving columns)

theorem drive_skipped {messages : List BackendMessage} (h : Skipped messages)
    (columns : Option (List FieldDescription)) (later : List BackendMessage) :
    drive (localStep nextBody) (newExtendedReceiving columns) (messages ++ later) =
      drive (localStep nextBody) (newExtendedReceiving columns) later := by
  apply drive_append_waiting
  exact drive_ignores _ fun message hMem => h message hMem columns

section Drain

variable {net : Network} {columns : Option (List FieldDescription)} {status : UInt8}

/-- Rows, messages that the stream passes over, and the end of the reply. -/
theorem drainLoop_complete (data : List (List (Option Bytes))) {skipped : List BackendMessage}
    (hSkipped : Skipped skipped) (tag : Option String) {conn : Connection} {fuel : Nat}
    (hFuel : data.length < fuel) (rows : List Row)
    (hReply : Interleaves conn.transport.inbox
      (data.map (fun values => .dataRow (.ok values)) ++
        (skipped ++ [.commandComplete tag, .readyForQuery status]))) :
    ∃ conn', drainLoop fuel rows net (newExtendedReceiving columns, conn) =
        (.ok (rows ++ data.map fun values => { columns := columns.getD [], values }),
          ({ columns, state := .done (.ofBody tag) }, conn')) ∧ conn'.state = .idle ∧
      LeftAt conn.transport.inbox
        (data.map (fun values => .dataRow (.ok values)) ++
          (skipped ++ [.commandComplete tag, .readyForQuery status])) [] conn'.transport.inbox := by
  induction data generalizing conn fuel rows with
  | nil =>
      have hDrive : drive (localStep nextBody) (newExtendedReceiving columns)
          (skipped ++ [.commandComplete tag, .readyForQuery status]) =
          .done (.ok .finished) { columns, state := .done (.ofBody tag) } [] :=
        drive_skipped hSkipped columns _
      obtain ⟨conn', hNext, hState, hLeft⟩ := next_finished net rfl hReply hDrive
      refine ⟨conn', ?_, hState, hLeft⟩
      obtain ⟨fuel, rfl⟩ := Nat.exists_eq_succ_of_ne_zero (Nat.ne_of_gt hFuel)
      rw [drainLoop, bind_of_ok hNext]
      simp
  | cons values data ih =>
      have hDrive : drive (localStep nextBody) (newExtendedReceiving columns)
          ((values :: data).map (fun values => .dataRow (.ok values)) ++
            (skipped ++ [.commandComplete tag, .readyForQuery status])) =
          .done (.ok (.row { columns := columns.getD [], values })) (newExtendedReceiving columns)
            (data.map (fun values => .dataRow (.ok values)) ++
              (skipped ++ [.commandComplete tag, .readyForQuery status])) := rfl
      obtain ⟨conn₁, hNext, hLeft⟩ := next_row net rfl hReply hDrive
      obtain ⟨fuel, rfl⟩ := Nat.exists_eq_succ_of_ne_zero (Nat.ne_of_gt (Nat.zero_lt_of_lt hFuel))
      obtain ⟨conn', hDrain, hState, hRest⟩ := ih (Nat.lt_of_succ_lt_succ hFuel)
        (rows ++ [{ columns := columns.getD [], values }]) hLeft.unread
      refine ⟨conn', ?_, hState, hLeft.trans hRest⟩
      rw [drainLoop, bind_of_ok hNext]
      simpa using hDrain

end Drain

/-- The states in which `query_params_stream` leaves its stream and `next` takes it. -/
def Taking (stream : RowStream) : Prop :=
  stream.state = .receivingRows ∨ ∃ tag, stream.state = .finishing tag

theorem Taking.isOpen {stream : RowStream} (h : stream.Taking) : stream.isDone = false := by
  obtain h | ⟨tag, h⟩ := h <;> simp [isDone, h]

/-- A message inside a reply is passed over, is a row that is returned, or ends the rows. -/
theorem localStep_inner {stream : RowStream} (h : stream.Taking) {message : BackendMessage}
    (hInner : message.isInner) :
    (∃ row, localStep nextBody stream message = .exit (.ok (.row row)) stream) ∨
      ∃ stream', Taking stream' ∧ localStep nextBody stream message = .next stream' := by
  obtain ⟨columns, state⟩ := stream
  cases h with
  | inl h =>
      have h : state = .receivingRows := h
      subst h
      cases message with
      | readyForQuery | errorResponse | parameterStatus | noticeResponse | notificationResponse =>
          cases hInner
      | dataRow values =>
          cases values with
          | ok values => exact .inl ⟨_, rfl⟩
          | error e => cases hInner
      | commandComplete tag => exact .inr ⟨_, .inr ⟨_, rfl⟩, rfl⟩
      | _ => exact .inr ⟨_, .inl rfl, rfl⟩
  | inr h =>
      obtain ⟨tag, h⟩ := h
      have h : state = .finishing tag := h
      subst h
      cases message with
      | readyForQuery | errorResponse | parameterStatus | noticeResponse | notificationResponse =>
          cases hInner
      | _ => exact .inr ⟨_, .inr ⟨tag, rfl⟩, rfl⟩

/-- Over messages inside a reply a stream stops at a row, or takes them all. -/
theorem drive_inner {messages : List BackendMessage}
    (hInner : ∀ message ∈ messages, message.isInner) {stream : RowStream} (h : stream.Taking)
    (later : List BackendMessage) :
    (∃ row stream' messages', Taking stream' ∧ (∀ message ∈ messages', message.isInner) ∧
        messages'.length < messages.length ∧
        drive (localStep nextBody) stream (messages ++ later) =
          .done (.ok (.row row)) stream' (messages' ++ later)) ∨
      ∃ stream', Taking stream' ∧ drive (localStep nextBody) stream (messages ++ later) =
        drive (localStep nextBody) stream' later := by
  induction messages generalizing stream with
  | nil => exact .inr ⟨stream, h, rfl⟩
  | cons message messages ih =>
      have hLater : ∀ m ∈ messages, m.isInner :=
        fun m hMem => hInner m (List.mem_cons_of_mem _ hMem)
      obtain ⟨row, hStep⟩ | ⟨stream', hTaking, hStep⟩ :=
        localStep_inner h (hInner message List.mem_cons_self)
      · exact .inl ⟨row, stream, messages, h, hLater, Nat.lt_succ_self _,
          drive_cons_exit _ _ hStep⟩
      · rw [List.cons_append, drive_cons_next _ _ hStep]
        cases ih hLater hTaking with
        | inl hRow =>
            obtain ⟨row, stream'', messages', hTaking', hInner', hLength, hDrive⟩ := hRow
            exact .inl ⟨row, stream'', messages', hTaking', hInner',
              Nat.lt_succ_of_lt hLength, hDrive⟩
        | inr hAll => exact .inr hAll

theorem localStep_error {stream : RowStream} (h : stream.Taking) (body : ErrorBody) :
    localStep nextBody stream (.errorResponse body) = .exit (.ok (.serverError body)) stream := by
  obtain ⟨columns, state⟩ := stream
  obtain h | ⟨tag, h⟩ := h
  · have h : state = .receivingRows := h
    subst h
    rfl
  · have h : state = .finishing tag := h
    subst h
    rfl

/-- A reply that breaks off with an error. -/
theorem drainLoop_failed (net : Network) (fuel : Nat) {messages : List BackendMessage}
    (hInner : ∀ message ∈ messages, message.isInner) (hFuel : messages.length < fuel)
    {stream : RowStream} (h : stream.Taking) (rows : List Row) {error : List (UInt8 × String)}
    {status : UInt8} {conn : Connection}
    (hReply : Interleaves conn.transport.inbox
      (messages ++ [.errorResponse { fields := .ok error }, .readyForQuery status])) :
    ∃ stream' conn', drainLoop fuel rows net (stream, conn) =
        (.err (.server (PgServerError.fromFields error)), (stream', conn')) ∧
      conn'.state = .idle ∧ LeftAt conn.transport.inbox
        (messages ++ [.errorResponse { fields := .ok error }, .readyForQuery status]) []
        conn'.transport.inbox := by
  induction fuel generalizing messages stream rows conn with
  | zero => exact absurd hFuel (Nat.not_lt_zero _)
  | succ fuel ih =>
      obtain ⟨row, stream₁, messages', hTaking, hInner', hLength, hDrive⟩ |
        ⟨stream₁, hTaking, hDrive⟩ :=
        drive_inner hInner h [.errorResponse { fields := .ok error }, .readyForQuery status]
      · obtain ⟨conn₁, hNext, hLeft⟩ := next_row net h.isOpen hReply hDrive
        obtain ⟨stream', conn', hDrain, hState, hRest⟩ := ih hInner'
          (Nat.lt_of_lt_of_le hLength (Nat.le_of_lt_succ hFuel)) hTaking
            (rows ++ [row]) hLeft.unread
        refine ⟨stream', conn', ?_, hState, hLeft.trans hRest⟩
        rw [drainLoop, bind_of_ok hNext]
        exact hDrain
      · rw [drive_cons_exit _ _ (localStep_error hTaking _)] at hDrive
        obtain ⟨conn', hNext, hState, hLeft⟩ := next_serverError net h.isOpen hReply hDrive
        refine ⟨{ stream₁ with state := .error }, conn', ?_, hState, hLeft⟩
        rw [drainLoop, bind_apply, hNext, andThen_err]

end RowStream

namespace Connection

section Streaming

variable {net : Network} {conn : Connection} {status : UInt8} {error : List (UInt8 × String)}

/-- `query_params_stream`, drained with `next` until it returns `None` or an error. -/
def drainParamsStream (sql : String) (params : List ToSql) : Client QueryResult := do
  let stream ← queryParamsStream sql params
  collect stream

theorem length_le_of_interleaves {entries : List Entry} {reply : List BackendMessage}
    (h : Interleaves entries reply) : reply.length ≤ entries.length := by
  have hLength := List.length_filter_le (fun entry : Entry => !entry.isAsync) entries
  rw [h, List.length_map] at hLength
  exact hLength

theorem collect_of_drainLoop {stream stream' : RowStream} {rows : List Row} {tag : CommandTag}
    {conn' : Connection}
    (hDrain : RowStream.drainLoop (conn.transport.inbox.length + 1) [] net (stream, conn) =
      (.ok rows, (stream', conn'))) (hState : stream'.state = .done tag) :
    collect stream net conn =
      (.ok { rows, commandTag := tag, columns := stream'.columns.getD [] }, conn') := by
  have hOpen : RowStream.drain net (stream, conn) = (.ok rows, (stream', conn')) := hDrain
  simp only [collect, RowStream.scope]
  rw [bind_of_ok hOpen]
  simp [RowStream.commandTag, RowStream.drop, RowStream.isDone, hState]

/-- An error ends the draining; the stream that is dropped then is over. -/
theorem collect_of_error {stream stream' : RowStream} {e : PgError} {conn' : Connection}
    (hDrain : RowStream.drainLoop (conn.transport.inbox.length + 1) [] net (stream, conn) =
      (.err e, (stream', conn'))) :
    collect stream net conn = (.err e, stream'.drop conn') := by
  have hOpen : RowStream.drain net (stream, conn) = (.err e, (stream', conn')) := hDrain
  simp only [collect, RowStream.scope, bind_apply, hOpen, andThen_err]

theorem collect_pending {stream : RowStream}
    (hNext : (RowStream.next net (stream, conn)).1 = .pending) :
    (collect stream net conn).1 = .pending := by
  have hDrain : (RowStream.drain net (stream, conn)).1 = .pending := by
    rw [RowStream.drain, RowStream.drainLoop, bind_pending _ hNext]
  simp only [collect, RowStream.scope]
  rw [bind_pending _ hDrain]

/-- Over messages inside a reply the preamble loop stops at the first that tells of the
result, or takes them all. -/
theorem drive_preamble_inner {messages : List BackendMessage}
    (hInner : ∀ message ∈ messages, message.isInner) (later : List BackendMessage) :
    (∃ columns messages', (∀ message ∈ messages', message.isInner) ∧
        messages'.length ≤ messages.length ∧
        drive (localStep preambleBody) () (messages ++ later) =
          .done (.ok (.columns columns)) () (messages' ++ later)) ∨
      drive (localStep preambleBody) () (messages ++ later) =
        drive (localStep preambleBody) () later := by
  induction messages with
  | nil => exact .inr rfl
  | cons message messages ih =>
      have hLater : ∀ m ∈ messages, m.isInner :=
        fun m hMem => hInner m (List.mem_cons_of_mem _ hMem)
      have hStop : ∀ columns,
          localStep preambleBody () message = .exit (.ok (.columns columns)) () →
          ∃ columns messages', (∀ m ∈ messages', m.isInner) ∧
            messages'.length ≤ (message :: messages).length ∧
            drive (localStep preambleBody) () (message :: messages ++ later) =
              .done (.ok (.columns columns)) () (messages' ++ later) := fun columns hStep =>
        ⟨columns, messages, hLater, Nat.le_succ _, drive_cons_exit _ _ hStep⟩
      have hNext : localStep preambleBody () message = .next () →
          (∃ columns messages', (∀ m ∈ messages', m.isInner) ∧
            messages'.length ≤ (message :: messages).length ∧
            drive (localStep preambleBody) () (message :: messages ++ later) =
              .done (.ok (.columns columns)) () (messages' ++ later)) ∨
          drive (localStep preambleBody) () (message :: messages ++ later) =
            drive (localStep preambleBody) () later := by
        intro hStep
        rw [List.cons_append, drive_cons_next _ _ hStep]
        cases ih hLater with
        | inl hStops =>
            obtain ⟨columns, messages', hInner', hLength, hDrive⟩ := hStops
            exact .inl ⟨columns, messages', hInner', Nat.le_succ_of_le hLength, hDrive⟩
        | inr hAll => exact .inr hAll
      have hThis := hInner message List.mem_cons_self
      cases message with
      | readyForQuery | errorResponse | parameterStatus | noticeResponse | notificationResponse =>
          cases hThis
      | rowDescription fields =>
          cases fields with
          | ok columns => exact .inl (hStop _ rfl)
          | error e => cases hThis
      | noData => exact .inl (hStop _ rfl)
      | commandComplete tag => exact .inl (hStop _ rfl)
      | emptyQueryResponse => exact .inl (hStop _ rfl)
      | _ => exact hNext rfl

theorem readPreamble_columns {reply rest : List BackendMessage}
    {columns : Option (List FieldDescription)} (hReply : Interleaves conn.transport.inbox reply)
    (hDrive : drive (localStep preambleBody) () reply = .done (.ok (.columns columns)) () rest) :
    ∃ conn', readPreamble net conn = (.ok (RowStream.newExtendedReceiving columns), conn') ∧
      LeftAt conn.transport.inbox reply rest conn'.transport.inbox ∧
      conn'.transport.ending = conn.transport.ending := by
  obtain ⟨conn', hLoop, hLeft⟩ := detached_preamble.messageLoop_done net ((), conn) hReply hDrive
  have hEnding := messageLoop_ending orderly_preamble net ((), conn)
  rw [hLoop] at hEnding
  have hLocal : Async.withLocal () (messageLoop preambleBody) net conn =
      (.ok (.columns columns), conn') := by
    rw [withLocal_apply, hLoop]
    rfl
  exact ⟨conn', by rw [readPreamble, bind_of_ok hLocal]; rfl, hLeft, hEnding⟩

theorem readPreamble_error {reply : List BackendMessage}
    (hReply : Interleaves conn.transport.inbox reply)
    (hDrive : drive (localStep preambleBody) () reply =
      .done (.ok (.serverError { fields := .ok error })) () [.readyForQuery status]) :
    ∃ conn', readPreamble net conn = (.err (.server (PgServerError.fromFields error)), conn') ∧
      conn'.state = .idle ∧ LeftAt conn.transport.inbox reply [] conn'.transport.inbox := by
  obtain ⟨conn₁, hLoop, hLeft⟩ := detached_preamble.messageLoop_done net ((), conn) hReply hDrive
  obtain ⟨conn', hDrain, hState, hRest⟩ := drainServerError_ready net error hLeft.unread
  have hLocal : Async.withLocal () (messageLoop preambleBody) net conn =
      (.ok (.serverError { fields := .ok error }), conn₁) := by
    rw [withLocal_apply, hLoop]
    rfl
  refine ⟨conn', ?_, hState, hLeft.trans hRest⟩
  rw [readPreamble, bind_of_ok hLocal]
  exact bind_of_ok hDrain

end Streaming

section Collecting

variable {net : Network} {conn : Connection} {messages : List BackendMessage}

/-- Messages inside a reply do not make the collecting loop leave. -/
theorem drive_extended_inner {inner : List BackendMessage}
    (hInner : ∀ message ∈ inner, message.isInner) (state : ExtendedState) :
    ∃ state', drive (localStep extendedBody) state inner = .waiting state' := by
  refine drive_takes _ (fun message hMem state => ?_) state
  have hThis := hInner message hMem
  cases message with
  | readyForQuery | errorResponse | parameterStatus | noticeResponse
  | notificationResponse => cases hThis
  | rowDescription fields =>
      cases fields with
      | ok columns => exact ⟨_, rfl⟩
      | error e => cases hThis
  | dataRow values =>
      cases values with
      | ok values => exact ⟨_, rfl⟩
      | error e => cases hThis
  | _ => exact ⟨_, rfl⟩

/-- Where a reply breaks off with an error, collecting it fails with that error. -/
theorem readThenIdle_error (net : Network) {inner : List BackendMessage}
    (hInner : ∀ message ∈ inner, message.isInner) {error : List (UInt8 × String)} {status : UInt8}
    (hReply : Interleaves conn.transport.inbox
      (inner ++ [.errorResponse { fields := .ok error }, .readyForQuery status])) :
    ∃ conn', readThenIdle net conn = (.err (.server (PgServerError.fromFields error)), conn') ∧
      conn'.state = .idle ∧ LeftAt conn.transport.inbox
        (inner ++ [.errorResponse { fields := .ok error }, .readyForQuery status]) []
        conn'.transport.inbox := by
  obtain ⟨state, hInner⟩ := drive_extended_inner hInner {}
  have hDrive : drive (localStep extendedBody) {}
      (inner ++ [.errorResponse { fields := .ok error }, .readyForQuery status]) =
      .done (.ok (.serverError { fields := .ok error })) state [.readyForQuery status] := by
    rw [drive_append_waiting _ hInner]
    rfl
  obtain ⟨conn₁, hLoop, hLeft⟩ := detached_extended.messageLoop_done net ({}, conn) hReply hDrive
  obtain ⟨conn₂, hDrain, hRest⟩ := drainServerErrorOnly_ready net error hLeft.unread
  have hOwner : (Async.onSnd (drainServerErrorOnly { fields := .ok error }) :
      Owner ExtendedState _) net (state, conn₁) =
      (.ok (PgServerError.fromFields error), (state, conn₂)) := by
    rw [onSnd_apply, hDrain]
  have hRead : readExtendedQueryResult net conn =
      (.err (.server (PgServerError.fromFields error)), conn₂) := by
    simp only [readExtendedQueryResult, withLocal_apply]
    rw [bind_of_ok hLoop]
    simp only
    rw [bind_of_ok hOwner]
    rfl
  have hAttempt : readExtendedQueryResult.attempt net conn =
      (.ok (.error (.server (PgServerError.fromFields error))), conn₂) := by
    simp only [attempt, hRead]
  refine ⟨conn₂.setState .idle, ?_, rfl, hLeft.trans hRest⟩
  rw [readThenIdle, bind_of_ok hAttempt]
  rfl

/-- Where the reply does not come to an end, neither does collecting it. -/
theorem readThenIdle_waiting (net : Network) {state : ExtendedState}
    (hReply : Interleaves conn.transport.inbox messages) (hStays : conn.transport.ending = none)
    (hDrive : drive (localStep extendedBody) {} messages = .waiting state) :
    (readThenIdle net conn).1 = .pending := by
  have hLoop := detached_extended.messageLoop_waiting net ({}, conn) hReply hDrive hStays
  have hRead : (readExtendedQueryResult net conn).1 = .pending := by
    simp only [readExtendedQueryResult, withLocal_apply]
    rw [bind_pending _ hLoop]
  have hAttempt : (readExtendedQueryResult.attempt net conn).1 = .pending := by
    revert hRead
    simp only [attempt]
    obtain ⟨outcome, conn'⟩ := readExtendedQueryResult net conn
    intro hRead
    have hRead : outcome = .pending := hRead
    rw [hRead]
  rw [readThenIdle, bind_pending _ hAttempt]

end Collecting

end Connection
end PgClient
