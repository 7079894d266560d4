import PgClient.Library.Yields
import PgClient.Replies.Simple
import PgClient.Replies.Stream

/-!
Streaming the reply to a simple query. A stream returns the rows of the first statement and
passes over those of the later ones.
-/

namespace PgClient

open Drive Async Connection

/-- The reply to the statement at which a simple query fails, up to the error. -/
inductive Break where
  | within (statement : Statement) (taken : Nat)
  | copyIn (response : CopyResponseBody)
deriving DecidableEq, Repr

namespace Break

def messages : Break → List BackendMessage
  | .within statement taken => statement.messages.take taken
  | .copyIn response => [.copyInResponse response]

/-- The rows that came before the error; the first message is their description. -/
def ownRows : Break → List Row
  | .within statement taken => statement.ownRows.take (taken - 1)
  | .copyIn _ => []

end Break

/-- The whole reply to a simple query. -/
inductive QueryReply where
  | complete (first : Statement) (later : List Statement) (status : UInt8)
  | failed (statements : List Statement) (last : Break) (error : List (UInt8 × String))
      (status : UInt8)
deriving DecidableEq, Repr

namespace QueryReply

def messages : QueryReply → List BackendMessage
  | .complete first later status =>
      (first :: later).flatMap Statement.messages ++ [.readyForQuery status]
  | .failed statements last error status =>
      statements.flatMap Statement.messages ++
        (last.messages ++ [.errorResponse { fields := .ok error }, .readyForQuery status])

/-- The rows of each statement, under its columns. -/
def statementRows : QueryReply → List (List Row)
  | .complete first later _ => (first :: later).map Statement.ownRows
  | .failed statements last _ _ => statements.map Statement.ownRows ++ [last.ownRows]

def rows (reply : QueryReply) : List Row := reply.statementRows.flatten

def ending : QueryReply → Except PgError Unit
  | .complete _ _ _ => .ok ()
  | .failed _ _ error _ => .error (.server (PgServerError.fromFields error))

end QueryReply

theorem Statement.isInner_messages (statement : Statement) :
    ∀ message ∈ statement.messages, message.isInner := by
  intro message hMem
  cases statement with
  | rows fields data tag =>
      simp only [messages, List.mem_cons, List.mem_append, List.mem_map, List.not_mem_nil,
        or_false] at hMem
      obtain rfl | ⟨values, -, rfl⟩ | rfl := hMem <;> rfl
  | command tag =>
      obtain rfl := List.mem_singleton.mp hMem
      rfl
  | copyOut body chunks tag =>
      simp only [messages, List.mem_cons, List.mem_append, List.mem_map, List.not_mem_nil,
        or_false] at hMem
      obtain rfl | ⟨chunk, -, rfl⟩ | rfl | rfl := hMem <;> rfl
  | empty =>
      obtain rfl := List.mem_singleton.mp hMem
      rfl

theorem Break.isInner_messages (last : Break) : ∀ message ∈ last.messages, message.isInner := by
  intro message hMem
  cases last with
  | within statement taken => exact statement.isInner_messages message (List.mem_of_mem_take hMem)
  | copyIn response =>
      obtain rfl := List.mem_singleton.mp hMem
      rfl

theorem QueryReply.length_rows_le (reply : QueryReply) :
    reply.rows.length ≤ reply.messages.length := by
  have hStatement : ∀ statement : Statement, statement.ownRows.length ≤
    statement.messages.length := by
    intro statement
    cases statement with
    | rows fields data tag =>
        simp only [Statement.ownRows, Statement.messages, List.length_map, List.length_cons,
          List.length_append]
        omega
    | command | copyOut | empty => exact Nat.zero_le _
  have hStatements : ∀ statements : List Statement,
      (statements.map Statement.ownRows).flatten.length ≤
        (statements.flatMap Statement.messages).length := by
    intro statements
    induction statements with
    | nil => exact Nat.le_refl 0
    | cons statement statements ih =>
        simp only [List.map_cons, List.flatten_cons, List.flatMap_cons, List.length_append]
        exact Nat.add_le_add (hStatement statement) ih
  cases reply with
  | complete first later status =>
      rw [messages, List.length_append]
      exact Nat.le_add_right_of_le (hStatements (first :: later))
  | failed statements last error status =>
      have hLast : last.ownRows.length ≤ last.messages.length := by
        cases last with
        | within statement taken =>
            have hThis := hStatement statement
            simp only [Break.ownRows, Break.messages, List.length_take]
            omega
        | copyIn response => exact Nat.zero_le _
      have hBefore := hStatements statements
      simp only [rows, statementRows, messages, List.flatten_append, List.length_append,
        List.flatten_cons, List.flatten_nil, List.append_nil]
      omega

namespace RowStream

/-- What a stream gives for a reply without asynchronous messages: its rows, and then its end. -/
inductive Gives : RowStream → List BackendMessage → List Row → Except PgError Unit → Prop where
  | row {stream stream' : RowStream} {reply rest : List BackendMessage} {row : Row}
      {rows : List Row} {ending : Except PgError Unit} (hOpen : stream.isDone = false)
      (hDrive : drive (localStep nextBody) stream reply = .done (.ok (.row row)) stream' rest)
      (hRest : Gives stream' rest rows ending) : Gives stream reply (row :: rows) ending
  | finished {stream stream' : RowStream} {reply rest : List BackendMessage} {tag : CommandTag}
      (hOpen : stream.isDone = false)
      (hDrive : drive (localStep nextBody) stream reply = .done (.ok .finished) stream' rest)
      (hDone : stream'.state = .done tag) : Gives stream reply [] (.ok ())
  | failed {stream stream' : RowStream} {reply : List BackendMessage}
      {error : List (UInt8 × String)} {status : UInt8} (hOpen : stream.isDone = false)
      (hDrive : drive (localStep nextBody) stream reply =
        .done (.ok (.serverError { fields := .ok error })) stream' [.readyForQuery status]) :
      Gives stream reply [] (.error (.server (PgServerError.fromFields error)))

section Gives

variable {stream stream' : RowStream} {message : BackendMessage} {reply : List BackendMessage}
  {rows : List Row} {ending : Except PgError Unit} {columns : Option (List FieldDescription)}

/-- `next` on a connection returns what the stream gives for the reply in its inbox. -/
theorem Gives.yields (h : Gives stream reply rows ending) (net : Network) {conn : Connection}
    (hReply : Interleaves conn.transport.inbox reply) :
    ∃ s', Yields next net (stream, conn) rows ending s' ∧
      (ending = .ok () → s'.1.commandTag.isSome) := by
  induction h generalizing conn with
  | row hOpen hDrive hRest ih =>
      obtain ⟨conn₁, hNext, hLeft⟩ := next_row net hOpen hReply hDrive
      obtain ⟨s', hYields, hTag⟩ := ih hLeft.unread
      exact ⟨s', .value hNext hYields, hTag⟩
  | finished hOpen hDrive hDone =>
      obtain ⟨conn', hNext, -, -⟩ := next_finished net hOpen hReply hDrive
      exact ⟨_, .finished hNext, fun _ => by simp [commandTag, hDone]⟩
  | failed hOpen hDrive =>
      obtain ⟨conn', hNext, -, -⟩ := next_serverError net hOpen hReply hDrive
      exact ⟨_, .failed hNext, by simp⟩

/-- A message that the stream passes over. -/
theorem Gives.cons (hOpen : stream.isDone = false)
    (hStep : localStep nextBody stream message = .next stream')
    (h : Gives stream' reply rows ending) : Gives stream (message :: reply) rows ending := by
  have hDrive := drive_cons_next (localStep nextBody) reply hStep
  cases h with
  | row _ hRow hRest => exact .row hOpen (hDrive.trans hRow) hRest
  | finished _ hFinished hDone => exact .finished hOpen (hDrive.trans hFinished) hDone
  | failed _ hFailed => exact .failed hOpen (hDrive.trans hFailed)

theorem Gives.dataRows (h : Gives (newExtendedReceiving columns) reply rows ending)
    (data : List (List (Option Bytes))) :
    Gives (newExtendedReceiving columns) (data.map (fun values => .dataRow (.ok values)) ++ reply)
      (data.map (fun values => { columns := columns.getD [], values }) ++ rows) ending := by
  induction data with
  | nil => exact h
  | cons values data ih => exact .row rfl (drive_cons_exit _ _ rfl) ih

/-- States in which a stream returns no rows. -/
def Passing (stream : RowStream) : Prop :=
  stream.state = .waitingForDescription ∨ ∃ tag, stream.state = .finishing tag

theorem Passing.isOpen (h : stream.Passing) : stream.isDone = false := by
  obtain h | ⟨tag, h⟩ := h <;> simp [isDone, h]

/-- A stream that waits for a description takes it for the columns of the next rows. -/
def describes : BackendMessage → Bool
  | .rowDescription _ => true
  | _ => false

theorem localStep_passing (h : stream.Passing) (hInner : message.isInner)
    (hPlain : describes message = false ∨ stream.state ≠ .waitingForDescription) :
    ∃ stream', Passing stream' ∧ localStep nextBody stream message = .next stream' ∧
      (stream.state ≠ .waitingForDescription → stream' = stream) := by
  obtain ⟨columns, state⟩ := stream
  obtain h | ⟨tag, h⟩ := h
  · have h : state = .waitingForDescription := h
    subst h
    have hPlain := hPlain.resolve_right fun hNot => hNot rfl
    cases message with
    | readyForQuery | errorResponse | parameterStatus | noticeResponse | notificationResponse =>
        cases hInner
    | rowDescription fields => cases hPlain
    | commandComplete tag => exact ⟨_, .inr ⟨_, rfl⟩, rfl, fun hNot => absurd rfl hNot⟩
    | emptyQueryResponse => exact ⟨_, .inr ⟨_, rfl⟩, rfl, fun hNot => absurd rfl hNot⟩
    | _ => exact ⟨_, .inl rfl, rfl, fun _ => rfl⟩
  · have h : state = .finishing tag := h
    subst h
    cases message with
    | readyForQuery | errorResponse | parameterStatus | noticeResponse | notificationResponse =>
        cases hInner
    | _ => exact ⟨_, .inr ⟨tag, rfl⟩, rfl, fun _ => rfl⟩

/-- The rows of later statements are passed over. -/
theorem Gives.finishing {tag : CommandTag} {messages : List BackendMessage}
    (hInner : ∀ message ∈ messages, message.isInner)
    (h : Gives { columns, state := .finishing tag } reply rows ending) :
    Gives { columns, state := .finishing tag } (messages ++ reply) rows ending := by
  induction messages with
  | nil => exact h
  | cons message messages ih =>
      obtain ⟨stream', -, hStep, hSame⟩ := @localStep_passing
        { columns, state := .finishing tag } message (.inr ⟨tag, rfl⟩)
        (hInner message List.mem_cons_self) (.inr nofun)
      rw [hSame nofun] at hStep
      exact .cons rfl hStep (ih fun m hMem => hInner m (List.mem_cons_of_mem _ hMem))

variable {error : List (UInt8 × String)} {status : UInt8}

/-- An error in whichever state the stream is. -/
theorem Gives.breaksOff (hOpen : stream.isDone = false) :
    Gives stream [.errorResponse { fields := .ok error }, .readyForQuery status] []
      (.error (.server (PgServerError.fromFields error))) := by
  obtain ⟨columns, state⟩ := stream
  cases state with
  | done tag => cases hOpen
  | error => cases hOpen
  | _ => exact .failed rfl (drive_cons_exit _ _ rfl)

/-- An error before any description. -/
theorem Gives.passing_error {messages : List BackendMessage}
    (hInner : ∀ message ∈ messages, message.isInner)
    (hPlain : ∀ message ∈ messages, describes message = false) (hPassing : stream.Passing) :
    Gives stream (messages ++ [.errorResponse { fields := .ok error }, .readyForQuery status]) []
      (.error (.server (PgServerError.fromFields error))) := by
  induction messages generalizing stream with
  | nil => exact .breaksOff hPassing.isOpen
  | cons message messages ih =>
      obtain ⟨stream', hPassing', hStep, -⟩ := localStep_passing hPassing
        (hInner message List.mem_cons_self) (.inl (hPlain message List.mem_cons_self))
      exact .cons hPassing.isOpen hStep (ih (fun m hMem => hInner m (List.mem_cons_of_mem _ hMem))
        (fun m hMem => hPlain m (List.mem_cons_of_mem _ hMem)) hPassing')

/-- The first statement, whatever comes after it. -/
theorem Gives.statement (statement : Statement)
    (h : ∀ columns tag, Gives { columns, state := .finishing tag } reply [] ending) :
    Gives newSimple (statement.messages ++ reply) statement.ownRows ending := by
  cases statement with
  | rows fields data tag =>
      have hRows : Gives (newExtendedReceiving (some fields))
          (data.map (fun values => .dataRow (.ok values)) ++ (.commandComplete tag :: reply))
          (data.map (fun values => { columns := fields, values }) ++ []) ending :=
        Gives.dataRows (.cons rfl rfl (h _ _)) data
      rw [List.append_nil] at hRows
      have hMessages : (Statement.rows fields data tag).messages ++ reply =
          .rowDescription (.ok fields) ::
            (data.map (fun values => .dataRow (.ok values)) ++
              (.commandComplete tag :: reply)) := by
        simp [Statement.messages]
      rw [hMessages]
      exact .cons rfl rfl hRows
  | command tag => exact .cons rfl rfl (h _ _)
  | copyOut body chunks tag =>
      have hChunks : Gives newSimple
          (chunks.map .copyData ++ (.copyDone :: .commandComplete tag :: reply)) [] ending := by
        induction chunks with
        | nil => exact .cons rfl rfl (.cons rfl rfl (h _ _))
        | cons chunk chunks ih => exact .cons rfl rfl ih
      have hMessages : (Statement.copyOut body chunks tag).messages ++ reply =
          .copyOutResponse body ::
            (chunks.map .copyData ++ (.copyDone :: .commandComplete tag :: reply)) := by
        simp [Statement.messages]
      rw [hMessages]
      exact .cons rfl rfl hChunks
  | empty => exact .cons rfl rfl (h _ _)

/-- The statement at which the query fails, when it is the first. -/
theorem Gives.broken (last : Break) :
    Gives newSimple
      (last.messages ++ [.errorResponse { fields := .ok error }, .readyForQuery status])
      last.ownRows (.error (.server (PgServerError.fromFields error))) := by
  have hPlain : last.ownRows = [] → (∀ message ∈ last.messages, describes message = false) →
      Gives newSimple
        (last.messages ++ [.errorResponse { fields := .ok error }, .readyForQuery status])
        last.ownRows (.error (.server (PgServerError.fromFields error))) := by
    intro hRows hPlain
    rw [hRows]
    exact .passing_error last.isInner_messages hPlain (.inl rfl)
  cases last with
  | copyIn response =>
      refine hPlain rfl ?_
      intro message hMem
      obtain rfl := List.mem_singleton.mp hMem
      rfl
  | within statement taken =>
      cases statement with
      | rows fields data tag =>
          cases taken with
          | zero => exact .breaksOff rfl
          | succ taken =>
              have hLater : Gives (newExtendedReceiving (some fields))
                  ([.commandComplete tag].take (taken - data.length) ++
                    [.errorResponse { fields := .ok error }, .readyForQuery status]) []
                  (.error (.server (PgServerError.fromFields error))) := by
                cases taken - data.length with
                | zero => exact .breaksOff rfl
                | succ n =>
                    rw [List.take_succ_cons, List.take_nil]
                    exact .cons rfl rfl (.breaksOff rfl)
              have hRows := hLater.dataRows (data.take taken)
              rw [List.append_nil] at hRows
              have hMessages : (Break.within (.rows fields data tag) (taken + 1)).messages ++
                  [.errorResponse { fields := .ok error }, .readyForQuery status] =
                  .rowDescription (.ok fields) ::
                    ((data.take taken).map (fun values => .dataRow (.ok values)) ++
                      ([.commandComplete tag].take (taken - data.length) ++
                        [.errorResponse { fields := .ok error }, .readyForQuery status])) := by
                simp [Break.messages, Statement.messages, List.take_append, List.map_take]
              have hOwn : (Break.within (.rows fields data tag) (taken + 1)).ownRows =
                  (data.take taken).map fun values => { columns := fields, values } := by
                simp [Break.ownRows, Statement.ownRows, List.map_take]
              rw [hMessages, hOwn]
              exact .cons rfl rfl hRows
      | command tag =>
          refine hPlain (by simp [Break.ownRows, Statement.ownRows]) ?_
          intro message hMem
          obtain rfl := List.mem_singleton.mp (List.mem_of_mem_take hMem)
          rfl
      | copyOut body chunks tag =>
          refine hPlain (by simp [Break.ownRows, Statement.ownRows]) ?_
          intro message hMem
          have hMem := List.mem_of_mem_take hMem
          simp only [Statement.messages, List.mem_cons, List.mem_append, List.mem_map,
            List.not_mem_nil, or_false] at hMem
          obtain rfl | ⟨chunk, -, rfl⟩ | rfl | rfl := hMem <;> rfl
      | empty =>
          refine hPlain (by simp [Break.ownRows, Statement.ownRows]) ?_
          intro message hMem
          obtain rfl := List.mem_singleton.mp (List.mem_of_mem_take hMem)
          rfl

end Gives

/-- A stream gives the rows of the first statement and then the end of the reply. -/
theorem gives_first (reply : QueryReply) :
    Gives newSimple reply.messages (reply.statementRows.headD []) reply.ending := by
  have hInner : ∀ statements : List Statement,
      ∀ message ∈ statements.flatMap Statement.messages, message.isInner := by
    intro statements message hMem
    obtain ⟨statement, -, hMem⟩ := List.mem_flatMap.mp hMem
    exact statement.isInner_messages message hMem
  cases reply with
  | complete first later status =>
      rw [QueryReply.messages, List.flatMap_cons, List.append_assoc]
      refine Gives.statement first fun columns tag => ?_
      exact Gives.finishing (hInner later) (.finished rfl (drive_cons_exit _ _ rfl) rfl)
  | failed statements last error status =>
      cases statements with
      | nil => exact Gives.broken last
      | cons first later =>
          rw [QueryReply.messages, List.flatMap_cons, List.append_assoc]
          refine Gives.statement first fun columns tag => ?_
          exact Gives.finishing (hInner later)
            (Gives.finishing last.isInner_messages (.breaksOff rfl))

end RowStream

namespace Connection

/-- What a callback makes of rows, until it refuses one or the rows end. -/
def visited (f : List Row → Row → Except PgError Unit) :
    List Row → List Row → Except PgError Unit → Except PgError Unit
  | _, [], ending => ending
  | seen, row :: rows, ending =>
      match f seen row with
      | .ok () => visited f (seen ++ [row]) rows ending
      | .error e => .error e

/-- A query returns the rows of its reply under their own columns and then its end: to a
caller of `next`, in a collected result, and to a callback. -/
def Streams (net : Network) (conn : Connection) (sql : String) (reply : QueryReply) : Prop :=
  (∃ stream conn₁ s', queryStream sql net conn = (.ok stream, conn₁) ∧
    Yields RowStream.next net (stream, conn₁) reply.rows reply.ending s') ∧
  (query sql net conn).1.map QueryResult.rows =
    .ofExcept (reply.ending.map fun _ => reply.rows) ∧
  ∀ f, (queryEach sql f net conn).1.map (fun _ => ()) =
    .ofExcept (visited f [] reply.rows reply.ending)

section Streams

variable {net : Network} {conn conn₁ : Connection} {sql : String} {stream : RowStream}
  {s s' : RowStream × Connection} {rows : List Row} {ending : Except PgError Unit}

theorem drainLoop_of_yields (h : Yields RowStream.next net s rows ending s') (fuel : Nat)
    (hFuel : rows.length < fuel) (seen : List Row) :
    RowStream.drainLoop fuel seen net s =
      (.ofExcept (ending.map fun _ => seen ++ rows), s') := by
  induction h generalizing fuel seen with
  | @value s s₁ s' row rows ending hNext hRest ih =>
      obtain ⟨fuel, rfl⟩ := Nat.exists_eq_succ_of_ne_zero (Nat.ne_of_gt (Nat.zero_lt_of_lt hFuel))
      rw [RowStream.drainLoop, bind_of_ok hNext]
      simpa using ih fuel (Nat.lt_of_succ_lt_succ hFuel) (seen ++ [row])
  | finished hNext =>
      obtain ⟨fuel, rfl⟩ := Nat.exists_eq_succ_of_ne_zero (Nat.ne_of_gt hFuel)
      rw [RowStream.drainLoop, bind_of_ok hNext]
      simp [Except.map]
  | failed hNext =>
      obtain ⟨fuel, rfl⟩ := Nat.exists_eq_succ_of_ne_zero (Nat.ne_of_gt hFuel)
      simp only [RowStream.drainLoop, bind_apply, hNext, andThen_err]
      rfl

theorem eachLoop_of_yields (f : List Row → Row → Except PgError Unit)
    (h : Yields RowStream.next net s rows ending s') (fuel : Nat) (hFuel : rows.length < fuel)
    (seen : List Row) :
    (eachLoop f fuel seen net s).1 = .ofExcept (visited f seen rows ending) ∧
      (visited f seen rows ending = .ok () → (eachLoop f fuel seen net s).2 = s') := by
  induction h generalizing fuel seen with
  | @value s s₁ s' row rows ending hNext hRest ih =>
      obtain ⟨fuel, rfl⟩ := Nat.exists_eq_succ_of_ne_zero (Nat.ne_of_gt (Nat.zero_lt_of_lt hFuel))
      rw [eachLoop, bind_of_ok hNext, visited]
      simp only
      cases hCall : f seen row with
      | ok u =>
          rw [bind_of_ok (lift_ok_apply ..)]
          exact ih fuel (Nat.lt_of_succ_lt_succ hFuel) (seen ++ [row])
      | error e => exact ⟨rfl, fun hEnds => nomatch hEnds⟩
  | finished hNext =>
      obtain ⟨fuel, rfl⟩ := Nat.exists_eq_succ_of_ne_zero (Nat.ne_of_gt hFuel)
      rw [eachLoop, bind_of_ok hNext]
      exact ⟨rfl, fun _ => rfl⟩
  | failed hNext =>
      obtain ⟨fuel, rfl⟩ := Nat.exists_eq_succ_of_ne_zero (Nat.ne_of_gt hFuel)
      simp only [eachLoop, bind_apply, hNext, andThen_err]
      exact ⟨rfl, fun hEnds => nomatch hEnds⟩

theorem collect_of_yields (h : Yields RowStream.next net (stream, conn) rows ending s')
    (hLength : rows.length ≤ conn.transport.inbox.length) :
    (collect stream net conn).1.map QueryResult.rows = .ofExcept (ending.map fun _ => rows) := by
  have hDrain := drainLoop_of_yields h (conn.transport.inbox.length + 1)
    (Nat.lt_succ_of_le hLength) []
  rw [List.nil_append] at hDrain
  cases ending with
  | ok u =>
      have hOpen : RowStream.drain net (stream, conn) = (.ok rows, s') := hDrain
      simp only [collect, RowStream.scope]
      rw [bind_of_ok hOpen]
      rfl
  | error e =>
      rw [@collect_of_error net conn stream s'.1 e s'.2 hDrain]
      rfl

theorem newSimple_of_queryStream (h : queryStream sql net conn = (.ok stream, conn₁)) :
    stream = RowStream.newSimple := by
  obtain ⟨_, _, _, hRecovered⟩ := ok_of_bind h
  obtain ⟨_, _, _, hMoved⟩ := ok_of_bind hRecovered
  obtain ⟨_, _, _, hReturn⟩ := ok_of_bind hMoved
  cases hReturn
  rfl

theorem query_eq (h : queryStream sql net conn = (.ok stream, conn₁)) :
    query sql net conn = collect stream net conn₁ := by
  rw [query, bind_of_ok h]

theorem queryEach_of_yields (f : List Row → Row → Except PgError Unit)
    (hStream : queryStream sql net conn = (.ok stream, conn₁))
    (h : Yields RowStream.next net (stream, conn₁) rows ending s')
    (hTag : ending = .ok () → s'.1.commandTag.isSome)
    (hLength : rows.length ≤ conn₁.transport.inbox.length) :
    (queryEach sql f net conn).1.map (fun _ => ()) = .ofExcept (visited f [] rows ending) := by
  obtain ⟨hOutcome, hState⟩ := eachLoop_of_yields f h (conn₁.transport.inbox.length + 1)
    (Nat.lt_succ_of_le hLength) []
  have hEnding : ∀ seen rows, visited f seen rows ending = .ok () → ending = .ok () := by
    intro seen rows
    induction rows generalizing seen with
    | nil => exact id
    | cons row rows ih =>
        intro hVisited
        rw [visited] at hVisited
        split at hVisited
        · exact ih _ hVisited
        · cases hVisited
  rw [queryEach, bind_of_ok hStream]
  simp only [RowStream.scope]
  rw [bind_of_ok (get_apply ..)]
  revert hOutcome hState
  simp only [bind_apply]
  obtain ⟨outcome, s₁⟩ := eachLoop f (conn₁.transport.inbox.length + 1) [] net (stream, conn₁)
  cases hVisited : visited f [] rows ending with
  | error e =>
      rintro (rfl : outcome = _) -
      rfl
  | ok u =>
      rintro (rfl : outcome = _) hState
      obtain rfl := hState rfl
      obtain ⟨tag, hTag⟩ := Option.isSome_iff_exists.mp (hTag (hEnding [] rows hVisited))
      have hTag : s₁.1.commandTag = some tag := hTag
      simp only [Outcome.ofExcept_ok, andThen_ok, bind_apply, get_apply, hTag]
      rfl

/-- Nothing of a reply is lost if and only if no statement after its first returned rows. -/
theorem streams_iff (net : Network) (conn : Connection) (sql : String) (reply : QueryReply)
    (stream : RowStream) (conn₁ : Connection)
    (hStream : queryStream sql net conn = (.ok stream, conn₁))
    (hReply : Interleaves conn₁.transport.inbox reply.messages) :
    Streams net conn sql reply ↔ ∀ rows ∈ reply.statementRows.tail, rows = [] := by
  obtain ⟨s', hYields, hTag⟩ := (RowStream.gives_first reply).yields net hReply
  rw [← newSimple_of_queryStream hStream] at hYields
  have hRows : reply.rows = reply.statementRows.headD [] ++ reply.statementRows.tail.flatten := by
    rw [QueryReply.rows]
    cases reply.statementRows <;> rfl
  constructor
  · rintro ⟨⟨stream', conn', s'', hStream', hYields'⟩, -, -⟩
    rw [hStream] at hStream'
    cases hStream'
    obtain ⟨hSame, -, -⟩ := hYields'.unique hYields
    rw [hRows] at hSame
    have hTail : reply.statementRows.tail.flatten = [] := by simpa using hSame
    exact List.flatten_eq_nil_iff.mp hTail
  · intro hTail
    rw [List.flatten_eq_nil_iff.mpr hTail, List.append_nil] at hRows
    rw [← hRows] at hYields
    have hLength : reply.rows.length ≤ conn₁.transport.inbox.length :=
      reply.length_rows_le.trans (length_le_of_interleaves hReply)
    refine ⟨⟨stream, conn₁, s', hStream, hYields⟩, ?_, ?_⟩
    · rw [query_eq hStream]
      exact collect_of_yields hYields hLength
    · exact fun f => queryEach_of_yields f hStream hYields hTag hLength

/-- A statement that returns a row and then one that returns none. -/
theorem streams_first :
    Streams (replying [.rowDescription (.ok []), .dataRow (.ok [some [49]]),
        .commandComplete (some "SELECT 1"), .commandComplete (some "SET"), .readyForQuery 73])
      .new "SELECT 1; SET x = 1"
      (.complete (.rows [] [[some [49]]] (some "SELECT 1")) [.command (some "SET")] 73) :=
  (streams_iff _ .new _ _ _ _ rfl (by rfl)).mpr (by decide)

/-- Where the second of two statements returns the row, a collected result is empty. -/
theorem rows_lost :
    ¬ ∀ net conn sql reply stream conn₁, queryStream sql net conn = (.ok stream, conn₁) →
      Interleaves conn₁.transport.inbox reply.messages → Streams net conn sql reply := by
  intro hAll
  have hStreams := hAll
    (replying [.commandComplete (some "SET"), .rowDescription (.ok []), .dataRow (.ok [some [49]]),
      .commandComplete (some "SELECT 1"), .readyForQuery 73])
    .new "SET x = 1; SELECT 1"
    (.complete (.command (some "SET")) [.rows [] [[some [49]]] (some "SELECT 1")] 73) _ _ rfl
    (by rfl)
  have hQuery := hStreams.2.1
  revert hQuery
  exact nofun

end Streams

end Connection
end PgClient
