import PgClient.Protocol.Server

/-!
Servers that answer from a table: each statement has its command tag, its description
and the reply to its execution. Every such server follows the protocol.
-/

namespace PgClient

/-- The replies to the statements of a server, by their text. -/
structure ReplyTable where
  status : UInt8
  tag : String → String
  portal : String → BackendMessage
  executed : String → Int32 → List BackendMessage
  portal_ok : ∀ sql, portal sql = .noData ∨ ∃ fields, portal sql = .rowDescription fields
  executed_ok : ∀ sql name maxRows,
    ExtendedReply (.execute name maxRows) (executed sql maxRows) .ready
  executed_reply : ∀ sql maxRows, ∀ message ∈ executed sql maxRows, message.isAsync = false

namespace ReplyTable

variable (table : ReplyTable)

/-- The text of the statement parsed last. -/
def lastParsed : List FrontendMessage → String
  | [] => ""
  | .parse _ sql _ :: _ => sql
  | _ :: history => lastParsed history

def reply (history : List FrontendMessage) : FrontendMessage → List BackendMessage
  | .query sql => [.commandComplete (some (table.tag sql)), .readyForQuery table.status]
  | .parse _ _ _ => [.parseComplete]
  | .bind _ _ _ _ _ => [.bindComplete]
  | .describe .statement _ => [.parameterDescription (.ok []), .noData]
  | .describe .portal _ => [table.portal (lastParsed history)]
  | .execute _ maxRows => table.executed (lastParsed history) maxRows
  | .close _ _ => [.closeComplete]
  | .sync => [.readyForQuery table.status]
  | .flush | .copyData _ | .copyDone | .copyFail _ | .terminate => []
  | .startup _ | .sslRequest | .cancelRequest _ _ | .passwordMessage _
  | .saslInitialResponse _ _ | .saslResponse _ => [.errorResponse { fields := .ok [] }]

/-- The server behind a transport that never fails. -/
def network : Network where
  frontend := fun _ => .ok [0]
  frontendTotal := fun _ => [0]
  typeFromOid := some
  answer := fun history message =>
    { messages := (table.reply history message).map .ok, closes := none }
  writeError := fun _ => none
  flushError := fun _ => none

theorem reply_ready (history : List FrontendMessage) (message : FrontendMessage) :
    Reply .ready message (table.reply history message) .ready := by
  cases message with
  | query sql =>
      have hReply : SimpleReply ([] ++ [.commandComplete (some (table.tag sql))] ++
          [.readyForQuery table.status]) .ready :=
        .statement (.complete [] _) (.ready _)
      exact .query sql hReply (by simp [reply])
  | parse name sql types => exact .extended (.parse ..)
  | bind portal statement paramFormats params resultFormats => exact .extended (.bind ..)
  | describe variant name =>
      cases variant with
      | statement => exact .extended (.describeCommand ..)
      | portal =>
          simp only [reply]
          cases table.portal_ok (lastParsed history) with
          | inl hNone =>
              rw [hNone]
              exact .extended (.describeNoData name)
          | inr hSome =>
              obtain ⟨fields, hFields⟩ := hSome
              rw [hFields]
              exact .extended (.describePortal name fields)
  | execute portal maxRows => exact .extended (table.executed_ok ..)
  | close variant name => exact .extended (.close ..)
  | sync => exact .sync _
  | flush => exact .flush
  | copyData | copyDone | copyFail => exact .lateCopy rfl
  | terminate => exact .terminate _
  | startup | sslRequest | cancelRequest | passwordMessage | saslInitialResponse | saslResponse =>
      exact .refused _ rfl _

theorem replyOf_reply (history : List FrontendMessage) (message : FrontendMessage) :
    replyOf ((table.reply history message).map .ok) = table.reply history message := by
  have hOk : ∀ messages : List BackendMessage,
      (messages.map (Except.ok (ε := ReadError))).filterMap Except.toOption = messages := by
    intro messages
    induction messages with
    | nil => rfl
    | cons message messages ih => simp [Except.toOption, ih]
  rw [replyOf, hOk, List.filter_eq_self]
  intro m hMem
  cases message with
  | describe variant name =>
      cases variant with
      | statement =>
          simp only [reply, List.mem_cons, List.not_mem_nil, or_false] at hMem
          obtain rfl | rfl := hMem <;> rfl
      | portal =>
          simp only [reply, List.mem_singleton] at hMem
          subst hMem
          cases table.portal_ok (lastParsed history) with
          | inl hNone => simp [hNone, BackendMessage.isAsync]
          | inr hSome =>
              obtain ⟨fields, hFields⟩ := hSome
              simp [hFields, BackendMessage.isAsync]
  | execute portal maxRows => simpa using table.executed_reply _ _ m hMem
  | query sql =>
      simp only [reply, List.mem_cons, List.not_mem_nil, or_false] at hMem
      obtain rfl | rfl := hMem <;> rfl
  | flush | copyData | copyDone | copyFail | terminate => cases hMem
  | _ =>
      simp only [reply, List.mem_singleton] at hMem
      subst hMem
      rfl

def server : Server table.network where
  mode := fun _ => .ready
  mode_nil := rfl
  follows history message :=
    Answer.follows_of_reply rfl (table.reply_ready history message)
      (table.replyOf_reply history message)

/-- The server's messages can all be parsed if those of its table can. -/
theorem wellFormed (hStatus : (TransactionStatus.fromU8 table.status).isSome)
    (hPortal : ∀ sql, (table.portal sql).wellFormed)
    (hExecuted : ∀ sql maxRows, ∀ message ∈ table.executed sql maxRows, message.wellFormed) :
    table.network.WellFormed := by
  intro history message entry hMem
  simp only [network, List.mem_map] at hMem
  obtain ⟨m, hMem, rfl⟩ := hMem
  simp only [Entry.wellFormed]
  cases message with
  | query sql =>
      simp only [reply, List.mem_cons, List.not_mem_nil, or_false] at hMem
      obtain rfl | rfl := hMem
      · rfl
      · exact hStatus
  | describe variant name =>
      cases variant with
      | statement =>
          simp only [reply, List.mem_cons, List.not_mem_nil, or_false] at hMem
          obtain rfl | rfl := hMem <;> rfl
      | portal =>
          simp only [reply, List.mem_singleton] at hMem
          subst hMem
          exact hPortal _
  | execute portal maxRows => exact hExecuted _ _ m hMem
  | flush | copyData | copyDone | copyFail | terminate => cases hMem
  | sync =>
      simp only [reply, List.mem_singleton] at hMem
      subst hMem
      exact hStatus
  | _ =>
      simp only [reply, List.mem_singleton] at hMem
      subst hMem
      rfl

/-- Every statement returns one row. -/
def oneRow : ReplyTable where
  status := 73
  tag := fun _ => "SELECT 1"
  portal := fun _ => .rowDescription (.ok [])
  executed := fun _ _ => [.dataRow (.ok [some [49]]), .commandComplete (some "SELECT 1")]
  portal_ok := fun _ => .inr ⟨_, rfl⟩
  executed_ok := fun _ name maxRows => .complete name maxRows [.ok [some [49]]] _
  executed_reply := by simp [BackendMessage.isAsync]

theorem oneRow_wellFormed : oneRow.network.WellFormed :=
  oneRow.wellFormed rfl (fun _ => rfl) (by simp [oneRow, BackendMessage.wellFormed, Except.isOk,
    Except.toBool])

end ReplyTable
end PgClient
