import PgClient.Replies.Stream

/-!
When streaming a query with parameters and collecting it agree: on every reply that
breaks off with an error, and on every announced one that ends with `CommandComplete`.
-/

namespace PgClient

open Drive Async Connection

/-- A reply to the unnamed statement, up to the end that Sync asks for. A statement that
returns no rows need not be announced. -/
inductive ParamsReply where
  | complete (reply : OpReply) (announced : Bool)
  | failed (reply : OpReply) (announced : Bool) (count : Nat) (error : List (UInt8 × String))

namespace ParamsReply

def body (reply : OpReply) (announced : Bool) : List BackendMessage :=
  .parseComplete :: .bindComplete ::
    ((if announced || reply.fields.isSome then [reply.described] else []) ++ reply.executed)

def messages (status : UInt8) : ParamsReply → List BackendMessage
  | complete reply announced =>
      body reply announced ++ (if reply.isCopyIn then [] else [.readyForQuery status])
  | failed reply announced count error =>
      (body reply announced).take count ++
        [.errorResponse { fields := .ok error }, .readyForQuery status]

/-- The stream comes to the end of the reply. -/
def settles : ParamsReply → Bool
  | complete reply announced => reply.completes && (announced || reply.fields.isSome)
  | failed _ _ _ _ => true

end ParamsReply

namespace OpReply

theorem isInner_executed (reply : OpReply) : ∀ message ∈ reply.executed, message.isInner := by
  intro message hMem
  cases reply with
  | rows fields data tag =>
      simp only [executed, List.mem_append, List.mem_map, List.mem_singleton] at hMem
      obtain ⟨values, _, rfl⟩ | rfl := hMem <;> rfl
  | copyOut body chunks tag =>
      simp only [executed, List.cons_append, List.mem_cons, List.mem_append, List.mem_map,
        List.not_mem_nil, or_false] at hMem
      obtain rfl | ⟨chunk, _, rfl⟩ | rfl | rfl := hMem <;> rfl
  | _ =>
      cases List.mem_singleton.mp hMem
      rfl

/-- A reply that ends with `CommandComplete`: rows, what a stream passes over, and the tag. -/
theorem executed_of_completes {reply : OpReply} (h : reply.completes) :
    ∃ (data : List (List (Option Bytes))) (skipped : List BackendMessage) (tag : Option String),
      RowStream.Skipped skipped ∧
      reply.executed = data.map (fun values => .dataRow (.ok values)) ++
        (skipped ++ [.commandComplete tag]) ∧
      reply.result =
        { rows := data.map fun values => { columns := reply.fields.getD [], values }
          commandTag := .ofBody tag
          columns := reply.fields.getD [] } := by
  cases reply with
  | rows fields data tag =>
      have hSkipped : RowStream.Skipped [] := fun _ hMem => by cases hMem
      exact ⟨data, [], tag, hSkipped, rfl, rfl⟩
  | command tag =>
      have hSkipped : RowStream.Skipped [] := fun _ hMem => by cases hMem
      exact ⟨[], [], tag, hSkipped, rfl, rfl⟩
  | copyOut body chunks tag =>
      have hSkipped : RowStream.Skipped (.copyOutResponse body :: chunks.map .copyData ++
        [.copyDone]) := by
        intro message hMem columns
        simp only [List.cons_append, List.mem_cons, List.mem_append, List.mem_map,
          List.not_mem_nil, or_false] at hMem
        obtain rfl | ⟨chunk, _, rfl⟩ | rfl := hMem <;> rfl
      exact ⟨[], _, tag, hSkipped, by simp [executed], rfl⟩
  | empty => cases h
  | copyIn body => cases h

end OpReply

namespace ParamsReply

theorem isInner_body (reply : OpReply) (announced : Bool) :
    ∀ message ∈ body reply announced, message.isInner := by
  intro message hMem
  simp only [body, List.mem_cons, List.mem_append] at hMem
  obtain rfl | rfl | hDescribed | hExecuted := hMem
  · rfl
  · rfl
  · split at hDescribed
    · cases List.mem_singleton.mp hDescribed
      cases reply <;> rfl
    · cases hDescribed
  · exact reply.isInner_executed message hExecuted

/-- Where the preamble stops on a reply that settles. -/
theorem drive_preamble_settles {reply : OpReply} {announced : Bool}
    (h : (complete reply announced).settles) (later : List BackendMessage) :
    drive (localStep preambleBody) () (body reply announced ++ later) =
      .done (.ok (.columns reply.fields)) () (reply.executed ++ later) := by
  simp only [settles, Bool.and_eq_true] at h
  rw [body, if_pos h.2]
  cases reply <;> rfl

/-- On any other reply that comes to its end, the stream waits for something behind it. -/
theorem drive_preamble_stuck {reply : OpReply} {announced : Bool} (hEnds : reply.isCopyIn = false)
    (h : (complete reply announced).settles = false) (status : UInt8) :
    ∃ rest, drive (localStep preambleBody) () (body reply announced ++ [.readyForQuery status]) =
        .done (.ok (.columns none)) () rest ∧
      drive (localStep RowStream.nextBody) (RowStream.newExtendedReceiving none) rest =
        .waiting (RowStream.newExtendedReceiving none) := by
  have hChunks : ∀ (chunks : List Bytes) (later : List BackendMessage),
      drive (localStep preambleBody) () (chunks.map .copyData ++ later) =
        drive (localStep preambleBody) () later := by
    intro chunks later
    apply drive_append_waiting
    exact drive_ignores_map _ _ (fun _ => rfl) chunks
  cases reply with
  | rows fields data tag => simp [settles, OpReply.completes, OpReply.fields] at h
  | command tag =>
      cases announced with
      | true => cases h
      | false => exact ⟨[.readyForQuery status], rfl, rfl⟩
  | empty =>
      cases announced with
      | true => exact ⟨[.emptyQueryResponse, .readyForQuery status], rfl, rfl⟩
      | false => exact ⟨[.readyForQuery status], rfl, rfl⟩
  | copyOut response chunks tag =>
      cases announced with
      | true => cases h
      | false =>
          refine ⟨[.readyForQuery status], ?_, rfl⟩
          have hBody : body (.copyOut response chunks tag) false ++ [.readyForQuery status] =
              .parseComplete :: .bindComplete :: .copyOutResponse response ::
                (chunks.map .copyData ++ [.copyDone, .commandComplete tag,
                  .readyForQuery status]) := by
            simp [body, OpReply.fields, OpReply.executed]
          rw [hBody, drive_cons_next _ _ rfl, drive_cons_next _ _ rfl,
            drive_cons_next _ _ rfl, hChunks]
          rfl
  | copyIn response => cases hEnds

/-- Collecting takes a whole reply. -/
theorem drive_extended_body (reply : OpReply) (announced : Bool) (hEnds : reply.isCopyIn = false) :
    ∃ state, drive (localStep extendedBody) {} (body reply announced) = .waiting state ∧
      state.result = reply.result := by
  by_cases hAnnounced : (announced || reply.fields.isSome) = true
  · have hBody : body reply announced = reply.messages := by rw [body, if_pos hAnnounced]; rfl
    rw [hBody]
    exact drive_extended reply hEnds
  · obtain ⟨state, hDrive, hResult⟩ := drive_extended reply hEnds
    refine ⟨state, ?_, hResult⟩
    have hDescribed : reply.described = .noData := by
      cases reply with
      | rows fields => simp [OpReply.fields] at hAnnounced
      | _ => rfl
    rw [OpReply.messages, hDescribed] at hDrive
    rw [body, if_neg hAnnounced]
    exact hDrive

end ParamsReply

namespace Connection

section Agreement

variable {net : Network} {conn : Connection} {sql : String} {params : List ToSql}
  {values : List (Option Bytes)} {messages : List BackendMessage} {status : UInt8}

/-- `query_params_stream` once its request is sent. -/
theorem queryParamsStream_eq (hIdle : conn.state = .idle) (hFlag : conn.needsRecovery = false)
    (hParams : encodeParamsText params = .ok values)
    (hAnswered : Answered net conn (unnamedBatch sql values ++ [.sync]) messages) :
    queryParamsStream sql params net conn =
      readPreamble net (afterSend net conn (unnamedBatch sql values ++ [.sync]) .streaming) := by
  have hRecover : recover net conn = (.ok (), conn) := by
    rw [recover, bind_of_ok (get_apply ..), doIf_neg (by simp [hFlag])]
    rfl
  rw [queryParamsStream, bind_of_ok hRecover, bind_of_ok (transition_of_idle hIdle rfl), hParams,
    bind_of_ok (lift_ok_apply ..)]
  exact bind_of_ok (hAnswered.sends _)

/-- What two ways of running a request make of what is unread when it is sent: they return
the same, and have read it up to its `ReadyForQuery` and no further. -/
structure Agree (status : UInt8) (unread : List Entry)
    (collected streamed : Outcome PgError QueryResult × Connection) : Prop where
  returns : collected.1 ≠ .pending
  outcome : streamed.1 = collected.1
  inbox : streamed.2.transport.inbox = collected.2.transport.inbox
  consumed : ∃ read, unread = read ++ .ok (.readyForQuery status) :: streamed.2.transport.inbox
  idle : streamed.2.state = .idle ∧ collected.2.state = .idle

theorem agree_of_left {entries : List Entry} {body : List BackendMessage}
    {outcome : Outcome PgError QueryResult} {collected streamed : Connection}
    (hReply : Interleaves entries (body ++ [.readyForQuery status])) (hReturns : outcome ≠ .pending)
    (hCollected : LeftAt entries (body ++ [.readyForQuery status]) [] collected.transport.inbox)
    (hStreamed : LeftAt entries (body ++ [.readyForQuery status]) [] streamed.transport.inbox)
    (hIdle : streamed.state = .idle ∧ collected.state = .idle) :
    Agree status entries (outcome, collected) (outcome, streamed) where
  returns := hReturns
  outcome := rfl
  inbox := by rw [hStreamed.eq_rtakeWhile hReply, hCollected.eq_rtakeWhile hReply]
  consumed := hStreamed.ready
  idle := hIdle

/-- Both ways on a reply that breaks off with an error. -/
theorem agree_failed (hIdle : conn.state = .idle) (hFlag : conn.needsRecovery = false)
    (hParams : encodeParamsText params = .ok values) {inner : List BackendMessage}
    (hInner : ∀ message ∈ inner, message.isInner) (error : List (UInt8 × String))
    (hAnswered : Answered net conn (unnamedBatch sql values ++ [.sync])
      (inner ++ [.errorResponse { fields := .ok error }, .readyForQuery status])) :
    Agree status (sendBatch (unnamedBatch sql values ++ [.sync]) net conn).2.transport.inbox
      (queryParams sql params net conn) (drainParamsStream sql params net conn) := by
  obtain ⟨collected, hCollect, hState, hLeft⟩ := readThenIdle_error net hInner (hAnswered.inbox _)
  rw [queryParams_eq hIdle hParams hAnswered, hCollect]
  have hSplit : inner ++ [BackendMessage.errorResponse { fields := .ok error },
    .readyForQuery status] =
      (inner ++ [.errorResponse { fields := .ok error }]) ++ [.readyForQuery status] := by simp
  have hAgree : ∀ streamed : Connection, streamed.state = .idle →
      LeftAt (afterSend net conn (unnamedBatch sql values ++ [.sync]) .streaming).transport.inbox
        (inner ++ [.errorResponse { fields := .ok error }, .readyForQuery status]) []
        streamed.transport.inbox →
      drainParamsStream sql params net conn =
        (.err (.server (PgServerError.fromFields error)), streamed) →
      Agree status (sendBatch (unnamedBatch sql values ++ [.sync]) net conn).2.transport.inbox
        (.err (.server (PgServerError.fromFields error)), collected)
        (drainParamsStream sql params net conn) := by
    intro streamed hIdle hStreamed hRun
    rw [hRun]
    rw [hSplit] at hLeft hStreamed
    have hUnread := hAnswered.unread
    rw [hSplit] at hUnread
    exact agree_of_left hUnread (by simp) hLeft hStreamed ⟨hIdle, hState⟩
  have hOpen := queryParamsStream_eq hIdle hFlag hParams hAnswered
  obtain ⟨columns, inner', hInner', hLength, hDrive⟩ | hDrive :=
    drive_preamble_inner hInner [.errorResponse { fields := .ok error }, .readyForQuery status]
  · -- the preamble stops before the error, which the stream then meets
    obtain ⟨conn₁, hPreamble, hMid, _⟩ := readPreamble_columns (hAnswered.inbox .streaming) hDrive
    have hFuel : inner'.length < conn₁.transport.inbox.length + 1 := by
      have hLe := length_le_of_interleaves hMid.unread
      simp only [List.length_append, List.length_cons] at hLe
      omega
    have hTaking : (RowStream.newExtendedReceiving columns).Taking := .inl rfl
    obtain ⟨stream, conn₂, hDrain, hIdle₂, hRest⟩ := RowStream.drainLoop_failed net
      (conn₁.transport.inbox.length + 1) hInner' hFuel hTaking [] hMid.unread
    apply hAgree (stream.drop conn₂)
    · simp only [RowStream.drop]
      split <;> exact hIdle₂
    · have hWhole := hMid.trans hRest
      simp only [RowStream.drop]
      split <;> exact hWhole
    · rw [drainParamsStream, bind_of_ok (hOpen.trans hPreamble)]
      exact collect_of_error hDrain
  · -- the preamble meets the error
    have hDrive := hDrive.trans (drive_cons_exit
      (localStep preambleBody) [.readyForQuery status] rfl)
    obtain ⟨conn₁, hPreamble, hIdle₁, hStreamed⟩ :=
      readPreamble_error (hAnswered.inbox .streaming) hDrive
    apply hAgree conn₁ hIdle₁ hStreamed
    rw [drainParamsStream, bind_apply, hOpen, hPreamble, andThen_err]

/-- Both ways on an announced reply that ends with `CommandComplete`. -/
theorem agree_complete (hIdle : conn.state = .idle) (hFlag : conn.needsRecovery = false)
    (hParams : encodeParamsText params = .ok values) {reply : OpReply} {announced : Bool}
    (hSettles : (ParamsReply.complete reply announced).settles)
    (hAnswered : Answered net conn (unnamedBatch sql values ++ [.sync])
      (ParamsReply.body reply announced ++ [.readyForQuery status])) :
    Agree status (sendBatch (unnamedBatch sql values ++ [.sync]) net conn).2.transport.inbox
      (queryParams sql params net conn) (drainParamsStream sql params net conn) := by
  have hCompletes : reply.completes := by
    simp only [ParamsReply.settles, Bool.and_eq_true] at hSettles
    exact hSettles.1
  have hEnds : reply.isCopyIn = false := by
    cases reply with
    | copyIn body => cases hCompletes
    | _ => rfl
  obtain ⟨state, hBody, hResult⟩ := ParamsReply.drive_extended_body reply announced hEnds
  have hWhole : drive (localStep extendedBody) {}
      (ParamsReply.body reply announced ++ [.readyForQuery status]) = .done
        (.ok .ready) state [] := by
    rw [drive_append_waiting _ hBody]
    rfl
  obtain ⟨collected, hCollect, hState, hLeft⟩ := readThenIdle_ready net (hAnswered.inbox _) hWhole
  obtain ⟨data, skipped, tag, hSkipped, hExecuted, hData⟩ :=
    OpReply.executed_of_completes hCompletes
  have hPreambleDrive := ParamsReply.drive_preamble_settles hSettles [.readyForQuery status]
  rw [hExecuted, List.append_assoc, List.append_assoc] at hPreambleDrive
  obtain ⟨conn₁, hPreamble, hMid, _⟩ := readPreamble_columns
    (hAnswered.inbox .streaming) hPreambleDrive
  have hFuel : data.length < conn₁.transport.inbox.length + 1 := by
    have hLe := length_le_of_interleaves hMid.unread
    simp only [List.length_append, List.length_map] at hLe
    omega
  obtain ⟨conn₂, hDrain, hIdle₂, hRest⟩ := RowStream.drainLoop_complete data hSkipped tag hFuel []
    hMid.unread
  have hStream : drainParamsStream sql params net conn = (.ok reply.result, conn₂) := by
    rw [drainParamsStream,
      bind_of_ok ((queryParamsStream_eq hIdle hFlag hParams hAnswered).trans hPreamble), hData]
    exact collect_of_drainLoop hDrain rfl
  rw [queryParams_eq hIdle hParams hAnswered, hCollect, hStream, hResult]
  exact agree_of_left hAnswered.unread (by simp) hLeft (hMid.trans hRest) ⟨hIdle₂, hState⟩

/-- On any other reply the stream never comes to its end. -/
theorem drainParamsStream_stuck (hIdle : conn.state = .idle) (hFlag : conn.needsRecovery = false)
    (hParams : encodeParamsText params = .ok values) {reply : OpReply} {announced : Bool}
    (hEnds : reply.isCopyIn = false)
    (hSettles : (ParamsReply.complete reply announced).settles = false)
    (hAnswered : Answered net conn (unnamedBatch sql values ++ [.sync])
      (ParamsReply.body reply announced ++ [.readyForQuery status])) :
    (drainParamsStream sql params net conn).1 = .pending := by
  obtain ⟨rest, hPreambleDrive, hDrive⟩ := ParamsReply.drive_preamble_stuck hEnds hSettles status
  obtain ⟨conn₁, hPreamble, hMid, hEnding⟩ :=
    readPreamble_columns (hAnswered.inbox .streaming) hPreambleDrive
  rw [drainParamsStream,
    bind_of_ok ((queryParamsStream_eq hIdle hFlag hParams hAnswered).trans hPreamble)]
  exact collect_pending (RowStream.next_waiting rfl hMid.unread
    (hEnding.trans hAnswered.stays) hDrive)

/-- Streaming a query and collecting it agree exactly when the reply breaks off with an
error, or is announced and ends with `CommandComplete`. -/
theorem drainParamsStream_agrees_iff (reply : ParamsReply) (hIdle : conn.state = .idle)
    (hFlag : conn.needsRecovery = false) (hParams : encodeParamsText params = .ok values)
    (hAnswered : Answered net conn (unnamedBatch sql values ++ [.sync]) (reply.messages status)) :
    Agree status (sendBatch (unnamedBatch sql values ++ [.sync]) net conn).2.transport.inbox
      (queryParams sql params net conn) (drainParamsStream sql params net conn) ↔
        reply.settles := by
  cases reply with
  | failed reply announced count error =>
      have hInner : ∀ message ∈ (ParamsReply.body reply announced).take count, message.isInner :=
        fun message hMem => ParamsReply.isInner_body reply announced message
          (List.mem_of_mem_take hMem)
      exact iff_of_true (agree_failed hIdle hFlag hParams hInner error hAnswered) rfl
  | complete reply announced =>
      cases hSettles : (ParamsReply.complete reply announced).settles with
      | true =>
          have hEnds : reply.isCopyIn = false := by
            cases reply with
            | copyIn body => cases hSettles
            | _ => rfl
          simp only [ParamsReply.messages, hEnds, Bool.false_eq_true, if_false] at hAnswered
          exact iff_of_true (agree_complete hIdle hFlag hParams hSettles hAnswered) rfl
      | false =>
          refine iff_of_false ?_ (by simp)
          intro hAgree
          cases hCopy : reply.isCopyIn with
          | true =>
              -- both wait for a COPY that nobody feeds
              apply hAgree.returns
              simp only [ParamsReply.messages, hCopy, if_true, List.append_nil] at hAnswered
              obtain ⟨state, hDrive⟩ := drive_extended_inner
                (ParamsReply.isInner_body reply announced) {}
              rw [queryParams_eq hIdle hParams hAnswered]
              exact readThenIdle_waiting net (hAnswered.inbox _) hAnswered.stays hDrive
          | false =>
              simp only [ParamsReply.messages, hCopy, Bool.false_eq_true, if_false] at hAnswered
              apply hAgree.returns
              rw [← hAgree.outcome]
              exact drainParamsStream_stuck hIdle hFlag hParams hCopy hSettles hAnswered

end Agreement

/-- A query that returns one row. -/
theorem drainParamsStream_agrees_oneRow :
    Agree 73
      (sendBatch (unnamedBatch "SELECT 1" [] ++ [.sync])
        ReplyTable.oneRow.network .new).2.transport.inbox
      (queryParams "SELECT 1" [] ReplyTable.oneRow.network .new)
      (drainParamsStream "SELECT 1" [] ReplyTable.oneRow.network .new) := by
  refine (drainParamsStream_agrees_iff (.complete (.rows [] [[some [49]]] (some "SELECT 1")) true)
    rfl rfl rfl ?_).mpr rfl
  exact answered_of_reliable (ReplyTable.reliable _) rfl rfl

/-- A server whose statements are all empty. -/
def emptyQueries : ReplyTable where
  status := 73
  tag := fun _ => ""
  portal := fun _ => .noData
  executed := fun _ _ => [.emptyQueryResponse]
  portal_ok := fun _ => .inl rfl
  executed_ok := fun _ name maxRows => .emptyQuery name maxRows
  executed_reply := by simp [BackendMessage.isAsync]

/-- After an empty statement the stream waits for ever. -/
theorem drainParamsStream_empty_disagrees :
    ¬ Agree 73
      (sendBatch (unnamedBatch "" [] ++ [.sync]) emptyQueries.network .new).2.transport.inbox
      (queryParams "" [] emptyQueries.network .new)
      (drainParamsStream "" [] emptyQueries.network .new) := by
  intro hAgree
  have hAnswered : Answered emptyQueries.network .new (unnamedBatch "" [] ++ [.sync])
      (ParamsReply.body .empty true ++ [.readyForQuery 73]) :=
    answered_of_reliable (ReplyTable.reliable _) rfl rfl
  apply hAgree.returns
  rw [← hAgree.outcome]
  exact drainParamsStream_stuck rfl rfl rfl rfl rfl hAnswered

end Connection
end PgClient
