import PgClient.Replies.Reading
import PgClient.Query.Params
import PgClient.Protocol.TableServer

/-!
The replies to one statement of the extended protocol, and the result that collecting
such a reply gives.
-/

namespace PgClient

open Drive Async Connection

/-- What a server answers to Parse, Bind, Describe and Execute of one statement when
nothing goes wrong; it describes the statement if and only if that returns rows. -/
inductive OpReply where
  | rows (fields : List Field) (data : List (List (Option Bytes))) (tag : Option String)
  | command (tag : Option String)
  | empty
  | copyOut (body : CopyResponseBody) (chunks : List Bytes) (tag : Option String)
  | copyIn (body : CopyResponseBody)
deriving DecidableEq, Repr

namespace OpReply

def described : OpReply → BackendMessage
  | .rows fields _ _ => .rowDescription (.ok fields)
  | _ => .noData

def executed : OpReply → List BackendMessage
  | .rows _ data tag => data.map (fun values => .dataRow (.ok values)) ++ [.commandComplete tag]
  | .command tag => [.commandComplete tag]
  | .empty => [.emptyQueryResponse]
  | .copyOut body chunks tag =>
      .copyOutResponse body :: chunks.map .copyData ++ [.copyDone, .commandComplete tag]
  | .copyIn body => [.copyInResponse body]

def messages (reply : OpReply) : List BackendMessage :=
  .parseComplete :: .bindComplete :: reply.described :: reply.executed

/-- A server that begins a COPY from the client waits for its data. -/
def isCopyIn : OpReply → Bool
  | .copyIn _ => true
  | _ => false

/-- The reply ends with a `CommandComplete`. -/
def completes : OpReply → Bool
  | .rows _ _ _ | .command _ | .copyOut _ _ _ => true
  | .empty | .copyIn _ => false

/-- The columns of the row description, if there is one. -/
def fields : OpReply → Option (List Field)
  | .rows fields _ _ => some fields
  | _ => none

/-- The columns, rows and command tag that the server has sent. -/
def result : OpReply → QueryResult
  | .rows fields data tag =>
      { rows := data.map fun values => { columns := fields, values }
        commandTag := .ofBody tag
        columns := fields }
  | .command tag | .copyOut _ _ tag => { rows := [], commandTag := .ofBody tag, columns := [] }
  | .empty | .copyIn _ => { rows := [], commandTag := {}, columns := [] }

/-- The replies are those of a server that follows the protocol. -/
theorem executed_extendedReply (reply : OpReply) (portal : String) :
    ∃ mode, ExtendedReply (.execute portal 0) reply.executed mode := by
  cases reply with
  | rows fields data tag =>
      have hRows := ExtendedReply.complete portal 0 (data.map .ok) tag
      rw [List.map_map] at hRows
      exact ⟨_, hRows⟩
  | command tag => exact ⟨_, .complete portal 0 [] tag⟩
  | empty => exact ⟨_, .emptyQuery portal 0⟩
  | copyOut body chunks tag => exact ⟨_, .copyOut portal 0 body chunks tag⟩
  | copyIn body => exact ⟨_, .copyIn portal 0 body⟩

theorem described_extendedReply (reply : OpReply) (portal : String) :
    ExtendedReply (.describe .portal portal) [reply.described] .ready := by
  cases reply with
  | rows fields => exact .describePortal portal (.ok fields)
  | _ => exact .describeNoData portal

end OpReply

theorem ReplyTable.reliable (table : ReplyTable) : table.network.Reliable where
  encodes := by
    intro message
    cases message <;> exact ⟨_, rfl⟩
  writes := fun _ => rfl
  flushes := fun _ => rfl

namespace Connection

/-- A request that is sent, and the messages that are unread then. -/
structure Answered (net : Network) (conn : Connection) (batch : List FrontendMessage)
    (reply : List BackendMessage) : Prop where
  sent : (sendBatch batch net conn).1 = .ok ()
  unread : Interleaves (sendBatch batch net conn).2.transport.inbox reply
  stays : (sendBatch batch net conn).2.transport.ending = none

/-- A connection that has moved to a state and sent a request. -/
def afterSend (net : Network) (conn : Connection) (batch : List FrontendMessage)
    (state : ConnectionState) : Connection :=
  { conn.setState state with transport := (sendBatch batch net conn).2.transport }

theorem Answered.sends {net : Network} {conn : Connection} {batch : List FrontendMessage}
    {reply : List BackendMessage} (h : Answered net conn batch reply) (state : ConnectionState) :
    sendBatch batch net (conn.setState state) = (.ok (), afterSend net conn batch state) := by
  rw [onTransport_sendBatch batch conn (conn.setState state) rfl, h.sent]
  rfl

/-- On a network that never fails, what is unread is what the server answers. -/
theorem answered_of_reliable {net : Network} (hNet : net.Reliable) {conn : Connection}
    {batch : List FrontendMessage} {reply : List BackendMessage}
    (hUnread : Interleaves ((conn.transport.flushed net).deliverAll net batch).inbox reply)
    (hStays : ((conn.transport.flushed net).deliverAll net batch).ending = none) :
    Answered net conn batch reply := by
  have hSend := sendBatch_reliable hNet conn conn.transport batch
  exact ⟨by rw [hSend], by rw [hSend]; exact hUnread, by rw [hSend]; exact hStays⟩

theorem Answered.inbox {net : Network} {conn : Connection} {batch : List FrontendMessage}
    {reply : List BackendMessage} (h : Answered net conn batch reply) (state : ConnectionState) :
    Interleaves (afterSend net conn batch state).transport.inbox reply :=
  h.unread

theorem transition_of_idle {net : Network} {conn : Connection} (hIdle : conn.state = .idle)
    {state : ConnectionState} (hPermits : ConnectionState.idle.permits state) :
    transition state net conn = (.ok (), conn.setState state) := by
  simp [transition, hIdle, hPermits]

theorem detached_extended : Detached extendedBody := by
  apply detached_asyncFirst
  intro reply conn message
  cases message with
  | rowDescription fields => cases fields <;> rfl
  | dataRow values => cases values <;> rfl
  | _ => rfl

theorem drive_extended_rows (fields : List Field) (rows : List Row) (tag : Option CommandTag)
    (data : List (List (Option Bytes))) :
    drive (localStep extendedBody) { columns := some fields, rows, tag }
        (data.map fun values => .dataRow (.ok values)) =
      .waiting { columns := some fields
                 rows := rows ++ data.map fun values => { columns := fields, values }
                 tag } := by
  have hState := drive_collects (localStep extendedBody)
    (fun values => .dataRow (.ok values)) (fun rows => { columns := some fields, rows, tag })
    (fun values => { columns := fields, values }) (fun _ _ => rfl)
  exact hState rows data

theorem drive_extended_chunks (state : ExtendedState) (chunks : List Bytes) :
    drive (localStep extendedBody) state (chunks.map .copyData) = .waiting state :=
  drive_ignores_map _ _ (fun _ => rfl) chunks

/-- A reply that comes to its end is collected into its result. -/
theorem drive_extended (reply : OpReply) (hEnds : reply.isCopyIn = false) :
    ∃ state, drive (localStep extendedBody) {} reply.messages = .waiting state ∧
      state.result = reply.result := by
  cases reply with
  | rows fields data tag =>
      exact ⟨_, drive_append_waiting _ (drive_extended_rows fields [] none data)
        [.commandComplete tag], rfl⟩
  | command tag => exact ⟨_, rfl, rfl⟩
  | empty => exact ⟨_, rfl, rfl⟩
  | copyOut body chunks tag =>
      exact ⟨_, drive_append_waiting _ (drive_extended_chunks {} chunks)
        [.copyDone, .commandComplete tag], rfl⟩
  | copyIn body => cases hEnds

section QueryParams

variable {net : Network} {conn : Connection} {sql : String} {params : List ToSql}
  {values : List (Option Bytes)} {messages : List BackendMessage}

/-- `query_params` once its request is sent. -/
theorem queryParams_eq (hIdle : conn.state = .idle) (hParams : encodeParamsText params = .ok values)
    (hAnswered : Answered net conn (unnamedBatch sql values ++ [.sync]) messages) :
    queryParams sql params net conn = readThenIdle net
      (afterSend net conn (unnamedBatch sql values ++ [.sync]) .activeExtendedQuery) := by
  rw [queryParams, bind_of_ok (transition_of_idle hIdle rfl), hParams,
    bind_of_ok (lift_ok_apply ..)]
  exact bind_of_ok (hAnswered.sends _)

/-- Where a loop ends at `ReadyForQuery` the reply is collected. -/
theorem readThenIdle_ready (net : Network) {state : ExtendedState}
    (hReply : Interleaves conn.transport.inbox messages)
    (hDrive : drive (localStep extendedBody) {} messages = .done (.ok .ready) state []) :
    ∃ conn', readThenIdle net conn = (.ok state.result, conn') ∧ conn'.state = .idle ∧
      LeftAt conn.transport.inbox messages [] conn'.transport.inbox := by
  obtain ⟨conn', hLoop, hLeft⟩ :=
    detached_extended.messageLoop_done net ({}, conn) hReply hDrive
  have hRead : readExtendedQueryResult net conn = (.ok state.result, conn') := by
    simp only [readExtendedQueryResult, withLocal_apply]
    rw [bind_of_ok hLoop]
    rfl
  refine ⟨conn'.setState .idle, ?_, rfl, hLeft⟩
  have hAttempt : readExtendedQueryResult.attempt net conn = (.ok (.ok state.result), conn') := by
    simp only [attempt, hRead]
  rw [readThenIdle, bind_of_ok hAttempt]
  rfl

end QueryParams

/-- What `query_params` returns on a reply. -/
theorem queryParams_of_answered {net : Network} {conn : Connection} {sql : String}
    {params : List ToSql} {values : List (Option Bytes)} {reply : OpReply} {status : UInt8}
    (hIdle : conn.state = .idle) (hParams : encodeParamsText params = .ok values)
    (hAnswered : Answered net conn (unnamedBatch sql values ++ [.sync])
      (reply.messages ++ [.readyForQuery status])) (hEnds : reply.isCopyIn = false) :
    (queryParams sql params net conn).1 = .ok reply.result := by
  obtain ⟨state, hDrive, hResult⟩ := drive_extended reply hEnds
  have hWhole : drive (localStep extendedBody) {} (reply.messages ++ [.readyForQuery status]) =
      .done (.ok .ready) state [] := by
    rw [drive_append_waiting _ hDrive]
    rfl
  rw [queryParams_eq hIdle hParams hAnswered]
  obtain ⟨conn', hRead, _⟩ := readThenIdle_ready net (hAnswered.inbox _) hWhole
  rw [hRead, hResult]

end Connection
end PgClient
