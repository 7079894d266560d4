import PgClient.Replies.Portals

/-!
Fetching a portal to its end, in batches and row by row: which rows come, in which order,
and when there are no more round trips.
-/

namespace PgClient

open Drive Async Connection

section RoundTrip

variable {net : Network} {request : List FrontendMessage} {conn : Connection}
  {reply : List BackendMessage} {L α : Type}

theorem roundTrip_start (f : Unit → Owner L α) (l : L) (hIdle : conn.state = .idle)
    (hAnswers : Answers net request conn.transport reply) :
    (Async.onSnd (transition .activeExtendedQuery) >>= fun _ =>
      Async.onSnd (sendBatch request) >>= f) net (l, conn) =
      f () net (l, requested net request conn) := by
  have hTransition : (Async.onSnd (transition .activeExtendedQuery) : Owner L Unit) net (l, conn) =
      (.ok (), (l, conn.setState .activeExtendedQuery)) := by
    rw [onSnd_apply, transition_of_idle hIdle rfl]
  have hSend : (Async.onSnd (sendBatch request) : Owner L Unit) net
      (l, conn.setState .activeExtendedQuery) = (.ok (), (l, requested net request conn)) := by
    rw [onSnd_apply, hAnswers.sends]
  rw [bind_of_ok hTransition, bind_of_ok hSend]

end RoundTrip

namespace Cursor

def request (cursor : Cursor) : List FrontendMessage :=
  portalRequest cursor.portalName cursor.fetchSize

theorem detached_fetch : Detached fetchBody := by
  apply detached_asyncFirst
  intro (cursor, rows) conn message
  cases message with
  | rowDescription fields => cases fields <;> rfl
  | dataRow values => cases values <;> rfl
  | _ => rfl

theorem drive_fetch_rows (cursor : Cursor) (rows : List Row) (data : List (List (Option Bytes)))
    (later : List BackendMessage) :
    drive (localStep fetchBody) (cursor, rows) (dataRows data ++ later) =
      drive (localStep fetchBody) (cursor, rows ++ rowsUnder cursor.columns data) later := by
  have hRows := drive_collects (localStep fetchBody) (fun values => .dataRow (.ok values))
    (fun rows => (cursor, rows)) (fun values => { columns := cursor.columns, values })
      fun _ _ => rfl
  exact drive_append_waiting _ (hRows rows data) later

theorem drive_fetch_chunks (cursor : Cursor) (rows : List Row) (chunks : List Bytes)
    (later : List BackendMessage) :
    drive (localStep fetchBody) (cursor, rows) (chunks.map .copyData ++ later) =
      drive (localStep fetchBody) (cursor, rows) later := by
  apply drive_append_waiting
  exact drive_ignores_map _ _ (fun _ => rfl) chunks

/-- Messages before an error do not make the loop leave. -/
theorem drive_fetch_inner {begun : List BackendMessage}
    (hInner : ∀ message ∈ begun, message.isInner) (later : List BackendMessage)
    (l : Cursor × List Row) :
    ∃ l', drive (localStep fetchBody) l (begun ++ later) = drive
      (localStep fetchBody) l' later := by
  have hSteps : ∀ message ∈ begun, ∀ l, ∃ l', localStep fetchBody l message = .next l' := by
    intro message hMem l
    have hThis := hInner message hMem
    cases message with
    | readyForQuery | errorResponse | parameterStatus | noticeResponse
    | notificationResponse => cases hThis
    | rowDescription fields =>
        cases fields with
        | ok columns => exact ⟨_, rfl⟩
        | error e => cases hThis
    | dataRow values =>
        cases values with
        | ok values => exact ⟨_, rfl⟩
        | error e => cases hThis
    | _ => exact ⟨_, rfl⟩
  obtain ⟨l', hDrive⟩ := drive_takes _ hSteps l
  exact ⟨l', drive_append_waiting _ hDrive later⟩

section FetchNext

variable {net : Network} {cursor cursor' : Cursor} {conn : Connection} {rows : List Row}
  {reply : List BackendMessage}

theorem fetchNext_done (net : Network) (conn : Connection) (hDone : cursor.done = true) :
    fetchNext net (cursor, conn) = (.ok [], (cursor, conn)) := by
  rw [fetchNext, bind_of_ok (get_apply ..)]
  exact congrFun (congrFun (if_pos hDone) net) (cursor, conn)

/-- A fetch once its request is sent. -/
theorem fetchNext_open (hOpen : cursor.done = false) (hIdle : conn.state = .idle)
    (hAnswers : Answers net cursor.request conn.transport reply) :
    fetchNext net (cursor, conn) = (fetchLoop >>= fun read => match read with
      | (.ready, rows) => pure rows
      | (.serverError body, _) => do
          let serverErr ← .onSnd (Connection.drainServerError body)
          .fail (.server serverErr)) net (cursor, requested net cursor.request conn) := by
  rw [fetchNext, bind_of_ok (get_apply ..)]
  refine (congrFun (congrFun (if_neg (Bool.eq_false_iff.mp hOpen)) net) (cursor, conn)).trans ?_
  exact roundTrip_start _ cursor hIdle hAnswers

theorem fetchNext_ready (hOpen : cursor.done = false) (hIdle : conn.state = .idle)
    (hAnswers : Answers net cursor.request conn.transport reply)
    (hDrive : drive (localStep fetchBody) (cursor, []) reply =
      .done (.ok .ready) (cursor', rows) []) :
    ∃ conn', fetchNext net (cursor, conn) = (.ok rows, (cursor', conn')) ∧ conn'.state = .idle ∧
      conn'.transport = afterReply (exchanged net cursor.request conn.transport) := by
  obtain ⟨conn', hLoop, hState, hTransport⟩ := @messageLoop_whole
    (requested net cursor.request conn) reply _ _ detached_fetch orderly_fetch net
      hAnswers.unread _ _
    hDrive
  refine ⟨conn', ?_, hState, hTransport⟩
  have hRead : fetchLoop net (cursor, requested net cursor.request conn) =
      (.ok (.ready, rows), (cursor', conn')) := by
    simp only [fetchLoop, withExtra, hLoop, Outcome.map_ok]
  rw [fetchNext_open hOpen hIdle hAnswers, bind_of_ok hRead]
  rfl

theorem fetchNext_failed (hOpen : cursor.done = false) (hIdle : conn.state = .idle)
    (hAnswers : Answers net cursor.request conn.transport reply)
    {error : List (UInt8 × String)} {status : UInt8}
    (hDrive : drive (localStep fetchBody) (cursor, []) reply =
      .done (.ok (.serverError { fields := .ok error })) (cursor', rows) [.readyForQuery status]) :
    (fetchNext net (cursor, conn)).1 = .err (.server (PgServerError.fromFields error)) := by
  obtain ⟨conn₁, hLoop, hLeft⟩ := detached_fetch.messageLoop_done net
    ((cursor, []), requested net cursor.request conn) hAnswers.unread hDrive
  obtain ⟨conn', hDrain, -, -⟩ := drainServerError_ready net error hLeft.unread
  have hRead : fetchLoop net (cursor, requested net cursor.request conn) =
      (.ok (.serverError { fields := .ok error }, rows), (cursor', conn₁)) := by
    simp only [fetchLoop, withExtra, hLoop, Outcome.ofExcept_ok, Outcome.map_ok]
  have hOwner : (Async.onSnd (drainServerError { fields := .ok error }) : Owner Cursor _) net
      (cursor', conn₁) = (.ok (PgServerError.fromFields error), (cursor', conn')) := by
    rw [onSnd_apply, hDrain]
  rw [fetchNext_open hOpen hIdle hAnswers, bind_of_ok hRead]
  simp only
  rw [bind_of_ok hOwner]
  rfl

theorem fetchNext_waiting (hOpen : cursor.done = false) (hIdle : conn.state = .idle)
    (hAnswers : Answers net cursor.request conn.transport reply)
    (hStays : (exchanged net cursor.request conn.transport).ending = none)
    (hDrive : drive (localStep fetchBody) (cursor, []) reply = .waiting (cursor', rows)) :
    (fetchNext net (cursor, conn)).1 = .pending := by
  have hLoop := detached_fetch.messageLoop_waiting net
    ((cursor, []), requested net cursor.request conn) hAnswers.unread hDrive hStays
  have hRead : (fetchLoop net (cursor, requested net cursor.request conn)).1 = .pending := by
    simp only [fetchLoop, withExtra, hLoop, Outcome.map_pending]
  rw [fetchNext_open hOpen hIdle hAnswers, bind_pending _ hRead]

end FetchNext

end Cursor

namespace CursorStream

def request (stream : CursorStream) : List FrontendMessage :=
  portalRequest stream.portalName stream.fetchSize

def commandTag (stream : CursorStream) : Option CommandTag :=
  match stream.state with
  | .done tag => some tag
  | _ => none

theorem detached_batch : Detached batchBody := by
  apply detached_asyncFirst
  intro (stream, batch) conn message
  cases message with
  | rowDescription fields => cases fields <;> rfl
  | dataRow values => cases values <;> rfl
  | _ => rfl

theorem drive_batch_rows (stream : CursorStream) (tag : Option CommandTag) (rows : List Row)
    (data : List (List (Option Bytes))) (later : List BackendMessage) :
    drive (localStep batchBody) (stream, { commandTag := tag, rows }) (dataRows data ++ later) =
      drive (localStep batchBody)
        (stream, { commandTag := tag, rows := rows ++ rowsUnder stream.columns data }) later := by
  have hRows := drive_collects (localStep batchBody) (fun values => .dataRow (.ok values))
    (fun rows => (stream, { commandTag := tag, rows }))
    (fun values => { columns := stream.columns, values }) fun _ _ => rfl
  exact drive_append_waiting _ (hRows rows data) later

theorem drive_batch_chunks (l : CursorStream × Batch) (chunks : List Bytes)
    (later : List BackendMessage) :
    drive (localStep batchBody) l (chunks.map .copyData ++ later) =
      drive (localStep batchBody) l later := by
  apply drive_append_waiting
  exact drive_ignores_map _ _ (fun _ => rfl) chunks

theorem drive_batch_inner {begun : List BackendMessage}
    (hInner : ∀ message ∈ begun, message.isInner) (later : List BackendMessage)
    (l : CursorStream × Batch) :
    ∃ l', drive (localStep batchBody) l (begun ++ later) = drive
      (localStep batchBody) l' later := by
  have hSteps : ∀ message ∈ begun, ∀ l, ∃ l', localStep batchBody l message = .next l' := by
    intro message hMem l
    have hThis := hInner message hMem
    cases message with
    | readyForQuery | errorResponse | parameterStatus | noticeResponse
    | notificationResponse => cases hThis
    | rowDescription fields =>
        cases fields with
        | ok columns => exact ⟨_, rfl⟩
        | error e => cases hThis
    | dataRow values =>
        cases values with
        | ok values => exact ⟨_, rfl⟩
        | error e => cases hThis
    | _ => exact ⟨_, rfl⟩
  obtain ⟨l', hDrive⟩ := drive_takes _ hSteps l
  exact ⟨l', drive_append_waiting _ hDrive later⟩

section FetchBatch

variable {net : Network} {stream stream' : CursorStream} {conn : Connection} {batch : Batch}
  {reply : List BackendMessage}

/-- A round trip once its request is sent. -/
theorem fetchBatch_open (hIdle : conn.state = .idle)
    (hAnswers : Answers net stream.request conn.transport reply) :
    fetchBatch net (stream, conn) = (batchLoop >>= fun read => match read with
      | (.ready, batch) => pure batch
      | (.serverError body, _) => do
          let serverErr ← .onSnd (Connection.drainServerError body)
          .modify fun (stream, conn) => ({ stream with state := .error }, conn)
          .fail (.server serverErr)) net (stream, requested net stream.request conn) := by
  rw [fetchBatch, bind_of_ok (get_apply ..)]
  exact roundTrip_start _ stream hIdle hAnswers

theorem fetchBatch_ready (hIdle : conn.state = .idle)
    (hAnswers : Answers net stream.request conn.transport reply)
    (hDrive : drive (localStep batchBody) (stream, {}) reply =
      .done (.ok .ready) (stream', batch) []) :
    ∃ conn', fetchBatch net (stream, conn) = (.ok batch, (stream', conn')) ∧ conn'.state = .idle ∧
      conn'.transport = afterReply (exchanged net stream.request conn.transport) := by
  obtain ⟨conn', hLoop, hState, hTransport⟩ := @messageLoop_whole
    (requested net stream.request conn) reply _ _ detached_batch orderly_cursorBatch net
    hAnswers.unread _ _ hDrive
  refine ⟨conn', ?_, hState, hTransport⟩
  have hRead : batchLoop net (stream, requested net stream.request conn) =
      (.ok (.ready, batch), (stream', conn')) := by
    simp only [batchLoop, withExtra, hLoop, Outcome.map_ok]
  rw [fetchBatch_open hIdle hAnswers, bind_of_ok hRead]
  rfl

theorem fetchBatch_failed (hIdle : conn.state = .idle)
    (hAnswers : Answers net stream.request conn.transport reply)
    {error : List (UInt8 × String)} {status : UInt8}
    (hDrive : drive (localStep batchBody) (stream, {}) reply =
      .done (.ok (.serverError { fields := .ok error })) (stream', batch) [.readyForQuery status]) :
    ∃ conn', fetchBatch net (stream, conn) =
      (.err (.server (PgServerError.fromFields error)),
        ({ stream' with state := .error }, conn')) := by
  obtain ⟨conn₁, hLoop, hLeft⟩ := detached_batch.messageLoop_done net
    ((stream, {}), requested net stream.request conn) hAnswers.unread hDrive
  obtain ⟨conn', hDrain, -, -⟩ := drainServerError_ready net error hLeft.unread
  have hRead : batchLoop net (stream, requested net stream.request conn) =
      (.ok (.serverError { fields := .ok error }, batch), (stream', conn₁)) := by
    simp only [batchLoop, withExtra, hLoop, Outcome.ofExcept_ok, Outcome.map_ok]
  have hOwner : (Async.onSnd (drainServerError { fields := .ok error }) : Owner CursorStream _) net
      (stream', conn₁) = (.ok (PgServerError.fromFields error), (stream', conn')) := by
    rw [onSnd_apply, hDrain]
  refine ⟨conn', ?_⟩
  rw [fetchBatch_open hIdle hAnswers, bind_of_ok hRead]
  simp only
  rw [bind_of_ok hOwner]
  rfl

theorem fetchBatch_waiting (hIdle : conn.state = .idle)
    (hAnswers : Answers net stream.request conn.transport reply)
    (hStays : (exchanged net stream.request conn.transport).ending = none)
    (hDrive : drive (localStep batchBody) (stream, {}) reply = .waiting (stream', batch)) :
    (fetchBatch net (stream, conn)).1 = .pending := by
  have hLoop := detached_batch.messageLoop_waiting net
    ((stream, {}), requested net stream.request conn) hAnswers.unread hDrive hStays
  have hRead : (batchLoop net (stream, requested net stream.request conn)).1 = .pending := by
    simp only [batchLoop, withExtra, hLoop, Outcome.map_pending]
  rw [fetchBatch_open hIdle hAnswers, bind_pending _ hRead]

end FetchBatch

end CursorStream
end PgClient
