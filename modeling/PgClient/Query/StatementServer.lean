import PgClient.Connection.Posting
import PgClient.Protocol.TableServer
import PgClient.Replies.Accepted

/-!
Prepared statements on a server: what it keeps of each, what it tells of it, and what a
statement can be lost by.
-/

namespace PgClient

/-- A statement as the server has analysed it. -/
structure StoredStatement where
  sql : String
  paramTypes : List Oid
  fields : Option (List Field)

/-- The answer to a request to describe it. -/
def StoredStatement.description (stored : StoredStatement) : List BackendMessage :=
  [.parameterDescription (.ok stored.paramTypes),
    match stored.fields with
    | some fields => .rowDescription (.ok fields)
    | none => .noData]

namespace FrontendMessage

/-- The messages after which a server keeps every named statement that it has, unless the text
of a statement says otherwise. -/
def sparesStatements : FrontendMessage → Bool
  | .close .statement _ | .terminate => false
  | _ => true

/-- The messages after which it keeps the statement of a name. -/
def spares (name : String) (message : FrontendMessage) : Prop :=
  message.sparesStatements ∨ ∃ other, message = .close .statement other ∧ other ≠ name

/-- The text of a statement that the server is to run or to analyse. -/
def text? : FrontendMessage → Option String
  | .query sql | .parse _ sql _ => some sql
  | _ => none

end FrontendMessage

/-- A server that keeps statements under their names. A `Parse` under a name in use is refused,
so that a statement is lost by a `Close` of its name or by a text that discards statements. -/
structure StatementServer (net : Network) extends Server net where
  statement : List FrontendMessage → String → Option StoredStatement
  Discards : String → Prop
  parsed : ∀ history name sql types, toServer.Accepts history (.parse name sql types) →
    ∃ stored, statement (.parse name sql types :: history) name = some stored ∧ stored.sql = sql
  described : ∀ history name stored, statement history name = some stored →
    toServer.Accepts history (.describe .statement name) →
    replyOf (net.answer history (.describe .statement name)).messages = stored.description
  keeps : ∀ history message name stored, statement history name = some stored → name ≠ "" →
    net.closing (message :: history) = none → message.spares name →
    (∀ sql ∈ (message :: history).filterMap FrontendMessage.text?, ¬ Discards sql) →
    statement (message :: history) name = some stored

section Closing

variable {net : Network} {history later : List FrontendMessage} {message : FrontendMessage}

theorem closing_cons : net.closing (message :: history) = none ↔
    net.closing history = none ∧ (net.answer history message).closes = none := by
  rw [Network.closing]
  cases net.closing history <;> simp

end Closing

namespace StatementServer

variable {net : Network} (server : StatementServer net)

/-- What is kept over any number of messages. -/
theorem statement_append {history later : List FrontendMessage} {name : String}
    {stored : StoredStatement} (h : server.statement history name = some stored)
    (hName : name ≠ "") (hOpen : net.closing (later ++ history) = none)
    (hSpares : ∀ message ∈ later, message.spares name)
    (hTexts : ∀ sql ∈ (later ++ history).filterMap FrontendMessage.text?,
      ¬ server.Discards sql) :
    server.statement (later ++ history) name = some stored := by
  induction later with
  | nil => exact h
  | cons message later ih =>
      obtain ⟨hFirst, hOthers⟩ := List.forall_mem_cons.mp hSpares
      have hBefore := ih (closing_cons.mp hOpen).1 hOthers fun sql hMem => hTexts sql (by
        obtain ⟨m, hm, hText⟩ := List.mem_filterMap.mp hMem
        exact List.mem_filterMap.mpr ⟨m, List.mem_cons_of_mem _ hm, hText⟩)
      exact server.keeps _ message name stored hBefore hName hOpen hFirst hTexts

end StatementServer

section Answers

variable {net : Network} {server : Server net} {t : Transport}

/-- The messages of the extended protocol that are answered at once and leave the server
ready. -/
def FrontendMessage.isAnalysis : FrontendMessage → Bool
  | .parse _ _ _ | .describe _ _ => true
  | _ => false

theorem mem_of_replyOf {entries : List Entry} {message : BackendMessage}
    (h : message ∈ replyOf entries) : .ok message ∈ entries := by
  simp only [replyOf, List.mem_filter, List.mem_filterMap] at h
  obtain ⟨⟨entry, hMem, hOk⟩, -⟩ := h
  cases entry with
  | error e => cases hOk
  | ok other =>
      cases hOk
      exact hMem

/-- A whole answer without an error is a reply without one. -/
theorem reply_of_clean {answer : Answer} {message : FrontendMessage} {next : Mode}
    (hKind : message.isAnalysis) (h : answer.Follows .ready message next)
    (hOpen : answer.closes = none) (hClean : ∀ entry ∈ answer.messages, entry.isError = false) :
    next = .ready ∧ ExtendedReply message (replyOf answer.messages) .ready := by
  obtain ⟨reply, hReply, -, hWhole⟩ := h.reply
  rw [hWhole hOpen]
  cases hReply with
  | extended hExtended =>
      cases hExtended with
      | parse name sql types => exact ⟨rfl, .parse ..⟩
      | describeStatement name types fields => exact ⟨rfl, .describeStatement ..⟩
      | describeCommand name types => exact ⟨rfl, .describeCommand ..⟩
      | describePortal name fields => exact ⟨rfl, .describePortal ..⟩
      | describeNoData name => exact ⟨rfl, .describeNoData ..⟩
      | bind | complete | suspended | emptyQuery | copyOut | copyIn | close => cases hKind
  | @extendedError _ _ begun _ _ _ body =>
      have hMem : .errorResponse body ∈ replyOf answer.messages := by
        rw [hWhole hOpen]
        exact List.mem_append_right begun List.mem_cons_self
      cases hClean _ (mem_of_replyOf hMem)
  | query | emptyQuery | sync | syncError | flush | terminate => cases hKind
  | copyData mode hMode => cases hMode <;> contradiction
  | copyIgnored mode hMode => cases hMode <;> contradiction
  | lateCopy hCopy => cases message <;> cases hKind <;> cases hCopy
  | refused mode hStartup => cases message <;> cases hKind <;> cases hStartup

/-- What comes before the `ReadyForQuery` that a Sync brings, where no error does. -/
theorem sync_of_clean {answer : Answer} {next : Mode} {pre post : List Entry} {status : UInt8}
    (h : answer.Follows .ready .sync next)
    (hMessages : answer.messages = pre ++ .ok (.readyForQuery status) :: post)
    (hClean : ∀ entry ∈ pre, entry.isError = false) : replyOf pre = [] := by
  obtain ⟨-, -, hOpen⟩ := h.after_ready hMessages rfl
  obtain ⟨reply, hReply, -, hWhole⟩ := h.reply
  have hSplit := hWhole hOpen
  rw [hMessages, replyOf_append] at hSplit
  have hReady : Entry.isReady (.ok (.readyForQuery status)) := rfl
  obtain ⟨status', hEntry⟩ := replyOf_cons_ready hReady post
  rw [hEntry] at hSplit
  cases hPre : replyOf pre with
  | nil => rfl
  | cons first others =>
      rw [hPre] at hSplit
      have hFirst : first.isError = false :=
        hClean _ (mem_of_replyOf (hPre ▸ List.mem_cons_self))
      cases hReply with
      | sync status =>
          obtain ⟨-, hNil⟩ := List.cons.inj hSplit
          cases others <;> cases hNil
      | syncError body status =>
          obtain ⟨rfl, -⟩ := List.cons.inj hSplit
          cases hFirst
      | extended hExtended => cases hExtended
      | extendedError hExtended => cases hExtended
      | copyIgnored mode hMode => cases hMode <;> contradiction
      | lateCopy hCopy => cases hCopy
      | refused mode hStartup => cases hStartup

/-- One message that is answered without an error on a stream that goes on. -/
theorem accepts_of_deliver {message : FrontendMessage} (hKind : message.isAnalysis)
    (hTracked : t.Tracked net) (hMode : server.mode t.history = .ready)
    (hOpen : (t.deliver net message).ending = none)
    (hClean : ∀ entry ∈ (t.deliver net message).inbox, entry.isError = false) :
    server.Accepts t.history message ∧ server.mode (message :: t.history) = .ready ∧
      ExtendedReply message (replyOf (net.answer t.history message).messages) .ready ∧
      (t.deliver net message).inbox = t.inbox ++ (net.answer t.history message).messages := by
  have hBoth : net.closing (message :: t.history) = none := by
    rw [← Transport.deliver_history net t message, ← (hTracked.deliver message).ending, hOpen]
  obtain ⟨hAlive, hStays⟩ := closing_cons.mp hBoth
  have hInbox : (t.deliver net message).inbox =
      t.inbox ++ (net.answer t.history message).messages := by
    rw [Transport.deliver, hTracked.ending, hAlive]
  have hAnswer : ∀ entry ∈ (net.answer t.history message).messages, entry.isError = false :=
    fun entry hMem => hClean entry (hInbox ▸ List.mem_append_right _ hMem)
  obtain ⟨hNext, hReply⟩ :=
    reply_of_clean hKind (hMode ▸ server.follows t.history message) hStays hAnswer
  exact ⟨⟨hAlive, hMode, hStays, hAnswer⟩, hNext, hReply, hInbox⟩

end Answers

/-- The statements of a server, and whether it waits for a Sync. -/
structure StatementTable where
  skipping : Bool := false
  stored : String → Option StoredStatement := fun _ => none

namespace StatementTable

/-- A name in use is not given to another statement, and there is none to describe under a name
that is not. -/
def refuses (table : StatementTable) : FrontendMessage → Bool
  | .parse name _ _ => name ≠ "" && (table.stored name).isSome
  | .describe .statement name => (table.stored name).isNone
  | _ => false

def discards (sql : String) : Bool := sql = "DEALLOCATE ALL" || sql = "DISCARD ALL"

/-- A message that is neither skipped nor refused. -/
def store (table : StatementTable) : FrontendMessage → StatementTable
  | .parse name sql types =>
      { table with stored := Function.update table.stored name (some ⟨sql, types, none⟩) }
  | .close .statement name => { table with stored := Function.update table.stored name none }
  | .query sql => if discards sql then {} else table
  | _ => table

def step (table : StatementTable) (message : FrontendMessage) : StatementTable :=
  if table.skipping then
    match message with
    | .sync => { table with skipping := false }
    | _ => table
  else if table.refuses message then { table with skipping := true }
  else table.store message

def after : List FrontendMessage → StatementTable
  | [] => {}
  | message :: history => (after history).step message

def mode (table : StatementTable) : Mode := if table.skipping then .skipping else .ready

def reply (history : List FrontendMessage) (message : FrontendMessage) : List BackendMessage :=
  if (after history).skipping then
    match message with
    | .sync => [.readyForQuery 73]
    | _ => []
  else if (after history).refuses message then [.errorResponse { fields := .ok [] }]
  else
    match message with
    | .describe .statement name => ((after history).stored name).elim [] (·.description)
    | message => ReplyTable.oneRow.reply history message

def network : Network where
  frontend := fun _ => .ok [0]
  frontendTotal := fun _ => [0]
  typeFromOid := some
  answer := fun history message => { messages := (reply history message).map .ok, closes := none }
  writeError := fun _ => none
  flushError := fun _ => none

section Table

variable {table : StatementTable} {history : List FrontendMessage} {message : FrontendMessage}

theorem store_skipping (table : StatementTable) (message : FrontendMessage)
    (h : table.skipping = false) : (table.store message).skipping = false := by
  cases message with
  | close variant name => cases variant <;> exact h
  | query sql =>
      rw [store]
      split
      · rfl
      · exact h
  | _ => exact h

theorem extended_of_refuses (h : table.refuses message) :
    ∃ reply mode, ExtendedReply message reply mode := by
  cases message with
  | parse name sql types => exact ⟨_, _, .parse ..⟩
  | describe variant name =>
      cases variant with
      | statement => exact ⟨_, _, .describeCommand name (.ok [])⟩
      | portal => cases h
  | _ => cases h

theorem description_reply (name : String) (stored : StoredStatement) :
    ExtendedReply (.describe .statement name) stored.description .ready := by
  obtain ⟨sql, types, fields⟩ := stored
  cases fields with
  | some fields => exact .describeStatement name (.ok types) (.ok fields)
  | none => exact .describeCommand name (.ok types)

theorem reply_mode (history : List FrontendMessage) (message : FrontendMessage) :
    Reply (after history).mode message (reply history message)
      (after (message :: history)).mode := by
  cases hSkips : (after history).skipping with
  | true =>
      cases message with
      | sync => simpa [mode, reply, after, step, hSkips] using Reply.resync 73
      | _ => simpa [mode, reply, after, step, hSkips] using Reply.skip (by simp)
  | false =>
      cases hRefuses : (after history).refuses message with
      | true =>
          obtain ⟨whole, next, hReply⟩ := extended_of_refuses hRefuses
          simpa [mode, reply, after, step, hSkips, hRefuses] using
            Reply.extendedError hReply (List.nil_prefix) { fields := .ok [] }
      | false =>
          have hNext : ((after history).store message).skipping = false :=
            store_skipping _ _ hSkips
          have hMode : (after history).mode = .ready ∧
              (after (message :: history)).mode = .ready := by
            simp [mode, after, step, hSkips, hRefuses, hNext]
          rw [hMode.1, hMode.2]
          simp only [reply, hSkips, hRefuses, Bool.false_eq_true, if_false]
          cases message with
          | describe variant name =>
              cases variant with
              | statement =>
                  cases hStored : (after history).stored name with
                  | none => simp [refuses, hStored] at hRefuses
                  | some stored =>
                      simp only [hStored, Option.elim_some]
                      exact .extended (description_reply name stored)
              | portal => exact ReplyTable.oneRow.reply_ready history _
          | _ => exact ReplyTable.oneRow.reply_ready history _

theorem replyOf_reply (history : List FrontendMessage) (message : FrontendMessage) :
    replyOf ((reply history message).map .ok) = reply history message := by
  simp only [reply]
  split
  · cases message <;> rfl
  · split
    · rfl
    · cases message with
      | describe variant name =>
          cases variant with
          | statement =>
              simp only
              cases (after history).stored name with
              | none => rfl
              | some stored =>
                  obtain ⟨sql, types, fields⟩ := stored
                  cases fields <;> rfl
          | portal => exact ReplyTable.oneRow.replyOf_reply history _
      | _ => exact ReplyTable.oneRow.replyOf_reply history _

theorem closing (history : List FrontendMessage) : network.closing history = none := by
  induction history with
  | nil => rfl
  | cons message history ih => exact closing_cons.mpr ⟨ih, rfl⟩

theorem ready_iff : table.mode = .ready ↔ table.skipping = false := by
  cases hSkips : table.skipping <;> simp [mode, hSkips]

theorem stored_of_clean {name sql : String} {types : List Oid}
    (hMode : (after history).mode = .ready)
    (hClean : ∀ entry ∈ (network.answer history (.parse name sql types)).messages,
      entry.isError = false) :
    ∃ stored, (after (.parse name sql types :: history)).stored name = some stored ∧
      stored.sql = sql := by
  have hSkips := ready_iff.mp hMode
  have hRefuses : (after history).refuses (.parse name sql types) = false := by
    rw [Bool.eq_false_iff]
    intro hRefuses
    have hError := hClean (.ok (.errorResponse { fields := .ok [] })) (by
      simp [network, reply, hSkips, hRefuses])
    cases hError
  refine ⟨⟨sql, types, none⟩, ?_, rfl⟩
  simp [after, step, hSkips, hRefuses, store]

theorem described_of_ready {name : String} {stored : StoredStatement}
    (hMode : (after history).mode = .ready) (hStored : (after history).stored name = some stored) :
    replyOf (network.answer history (.describe .statement name)).messages =
      stored.description := by
  refine (replyOf_reply history _).trans ?_
  simp [reply, ready_iff.mp hMode, refuses, hStored]

theorem stored_store {name : String} {stored : StoredStatement}
    (hStored : table.stored name = some stored) (hName : name ≠ "")
    (hRefuses : table.refuses message = false) (hSpares : message.spares name)
    (hText : ∀ sql, message.text? = some sql → discards sql = false) :
    (table.store message).stored name = some stored := by
  cases message with
  | parse other sql types =>
      by_cases hSame : name = other
      · subst hSame
        simp [refuses, hName, hStored] at hRefuses
      · simpa [store, Function.update_of_ne hSame] using hStored
  | close variant other =>
      cases variant with
      | statement =>
          cases hSpares with
          | inl h => cases h
          | inr h =>
              obtain ⟨_, hSame, hOther⟩ := h
              cases hSame
              simpa [store, Function.update_of_ne (Ne.symm hOther)] using hStored
      | portal => exact hStored
  | query sql => simpa [store, hText sql rfl] using hStored
  | _ => exact hStored

/-- A statement stays in the table. -/
theorem stored_step {name : String} {stored : StoredStatement}
    (hStored : (after history).stored name = some stored) (hName : name ≠ "")
    (hSpares : message.spares name)
    (hTexts : ∀ sql ∈ (message :: history).filterMap FrontendMessage.text?, ¬ discards sql) :
    (after (message :: history)).stored name = some stored := by
  cases hSkips : (after history).skipping with
  | true => cases message <;> simpa [after, step, hSkips] using hStored
  | false =>
      cases hRefuses : (after history).refuses message with
      | true => simpa [after, step, hSkips, hRefuses] using hStored
      | false =>
          have hText : ∀ sql, message.text? = some sql → discards sql = false := by
            intro sql hText
            have hMem : sql ∈ (message :: history).filterMap FrontendMessage.text? :=
              List.mem_filterMap.mpr ⟨message, List.mem_cons_self, hText⟩
            simpa using hTexts sql hMem
          simpa [after, step, hSkips, hRefuses] using
            stored_store hStored hName hRefuses hSpares hText

end Table

def server : StatementServer network where
  mode history := (after history).mode
  mode_nil := rfl
  follows history message :=
    Answer.follows_of_reply rfl (reply_mode history message) (replyOf_reply history message)
  statement history := (after history).stored
  Discards sql := discards sql
  parsed _ _ _ _ hAccepts := stored_of_clean hAccepts.mode hAccepts.clean
  described _ _ _ hStored hAccepts := described_of_ready hAccepts.mode hStored
  keeps _ _ _ _ hStored hName _ hSpares hTexts := stored_step hStored hName hSpares hTexts

end StatementTable
end PgClient
