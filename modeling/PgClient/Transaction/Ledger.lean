import PgClient.Protocol.TableServer
import PgClient.Transaction.Server

/-!
A small server with transactions, on which runs can be evaluated. The statement `FAIL`
fails with a serialization failure; every other statement succeeds outside a failed block.
-/

namespace PgClient
namespace Ledger

def isBegin (sql : String) : Bool := "BEGIN".toList.isPrefixOf sql.toList

/-- The block after a statement, and whether the statement has failed. -/
def run (messages : Nat) (block : Block) (sql : String) : Block × Bool :=
  if isBegin sql then
    match block with
    | .none => (.active ⟨messages, 0⟩, false)
    | .active id => (.active id, false)
    | .failed id => (.failed id, true)
  else if sql = "COMMIT" ∨ sql = "ROLLBACK" then (.none, false)
  else if sql = "FAIL" then
    match block with
    | .none => (.none, true)
    | .active id | .failed id => (.failed id, true)
  else
    match block with
    | .failed id => (.failed id, true)
    | block => (block, false)

def block : List FrontendMessage → Block
  | [] => .none
  | .query sql :: history => (run history.length (block history) sql).1
  | _ :: history => block history

def committed : List FrontendMessage → List BlockId
  | [] => []
  | message :: history =>
      match block history with
      | .active id =>
          if message = .query "COMMIT" then id :: committed history else committed history
      | _ => committed history

def tag (sql : String) : Block → String
  | .failed _ => if sql = "COMMIT" then "ROLLBACK" else sql
  | _ => sql

def serializationFailure : ErrorBody := { fields := .ok [(67, "40001")] }

/-- What is not a simple query is answered as from a table. -/
def table (block : Block) : ReplyTable := { ReplyTable.oneRow with status := block.status.toU8 }

def reply (history : List FrontendMessage) : FrontendMessage → List BackendMessage
  | .query sql =>
      let result := run history.length (block history) sql
      [if result.2 then .errorResponse serializationFailure
        else .commandComplete (some (tag sql (block history))),
       .readyForQuery result.1.status.toU8]
  | message => (table (block history)).reply history message

def network : Network where
  frontend := fun _ => .ok [0]
  frontendTotal := fun _ => [0]
  typeFromOid := some
  answer := fun history message => { messages := (reply history message).map .ok, closes := none }
  writeError := fun _ => none
  flushError := fun _ => none

theorem reply_other (history : List FrontendMessage) {message : FrontendMessage}
    (h : ∀ sql, message ≠ .query sql) :
    reply history message = (table (block history)).reply history message := by
  cases message with
  | query sql => exact absurd rfl (h sql)
  | _ => rfl

theorem block_other (history : List FrontendMessage) {message : FrontendMessage}
    (h : ∀ sql, message ≠ .query sql) : block (message :: history) = block history := by
  cases message with
  | query sql => exact absurd rfl (h sql)
  | _ => rfl

theorem reply_ready (history : List FrontendMessage) (message : FrontendMessage) :
    Reply .ready message (reply history message) .ready := by
  by_cases hQuery : ∃ sql, message = .query sql
  · obtain ⟨sql, rfl⟩ := hQuery
    have hReply : SimpleReply (reply history (.query sql)) .ready := by
      simp only [reply]
      split
      · exact .error (.complete [] none) List.nil_prefix serializationFailure _
      · exact .statement (.complete [] (some (tag sql (block history)))) (.ready _)
    exact .query sql hReply (by simp [reply])
  · rw [reply_other history (not_exists.mp hQuery)]
    exact (table (block history)).reply_ready history message

theorem replyOf_reply (history : List FrontendMessage) (message : FrontendMessage) :
    replyOf ((reply history message).map .ok) = reply history message := by
  by_cases hQuery : ∃ sql, message = .query sql
  · obtain ⟨sql, rfl⟩ := hQuery
    simp only [reply]
    split <;> rfl
  · rw [reply_other history (not_exists.mp hQuery)]
    exact (table (block history)).replyOf_reply history message

theorem closing (history : List FrontendMessage) : network.closing history = none := by
  induction history with
  | nil => rfl
  | cons message history ih =>
      rw [Network.closing, ih]
      rfl

def protocol : Server network where
  mode := fun _ => .ready
  mode_nil := rfl
  follows history message :=
    Answer.follows_of_reply rfl (reply_ready history message) (replyOf_reply history message)

theorem accepted {history : List FrontendMessage} {sql : String}
    (h : protocol.Accepts history (.query sql)) :
    (run history.length (block history) sql).2 = false := by
  by_contra hFailed
  have hError := h.clean (.ok (.errorResponse serializationFailure))
    (by simp [network, reply, hFailed])
  cases hError

theorem failed_of_error {history : List FrontendMessage} {sql : String}
    (h : ∃ entry ∈ (network.answer history (.query sql)).messages, entry.isError) :
    (run history.length (block history) sql).2 = true := by
  by_contra hRun
  obtain ⟨entry, hMem, hError⟩ := h
  simp only [network, reply, hRun, List.map_cons, List.map_nil, List.mem_cons, List.not_mem_nil,
    or_false] at hMem
  obtain rfl | rfl := hMem <;> cases hError

theorem isBegin_toBeginSql (options : TransactionOptions) : isBegin options.toBeginSql := by
  simp only [isBegin, TransactionOptions.toBeginSql, String.toList_append, List.append_assoc]
  rw [List.isPrefixOf_iff_prefix]
  exact List.prefix_append _ _

/-- A begin that is accepted. -/
theorem run_begin {messages : Nat} {block : Block} {sql : String} (hBegin : isBegin sql)
    (h : (run messages block sql).2 = false) :
    (∃ id, (run messages block sql).1 = .active id) ∧
      (block ≠ .none → (run messages block sql).1 = block) := by
  simp only [run, hBegin, if_true] at h ⊢
  cases block with
  | none => exact ⟨⟨_, rfl⟩, fun h => absurd rfl h⟩
  | active id => exact ⟨⟨id, rfl⟩, fun _ => rfl⟩
  | failed id => cases h

theorem run_id {messages : Nat} {block : Block} {sql : String} {id : BlockId}
    (h : (run messages block sql).1.id? = some id) :
    block.id? = some id ∨ id.message = messages := by
  revert h
  simp only [run]
  split
  · cases block with
    | none =>
        intro h
        cases h
        exact .inr rfl
    | active | failed => exact .inl
  · split
    · exact fun h => nomatch h
    · split <;> cases block <;> exact .inl

theorem mem_committed {history : List FrontendMessage} {message : FrontendMessage} {id : BlockId} :
    id ∈ committed (message :: history) ↔
      id ∈ committed history ∨ message = .query "COMMIT" ∧ block history = .active id := by
  simp only [committed]
  cases block history with
  | active id' =>
      dsimp only
      split
      case isTrue hCommit => simp [hCommit, or_comm, eq_comm]
      case isFalse hCommit => simp [hCommit]
  | none | failed => simp

theorem status_byte (block : Block) : TransactionStatus.ofReady block.status.toU8 =
    block.status := by
  cases block <;> rfl

/-- Outside a COPY every reply that ends reports the block. -/
theorem reported {history : List FrontendMessage} {message : FrontendMessage} {status : UInt8}
    (h : .readyForQuery status ∈ reply history message) :
    status = (block (message :: history)).status.toU8 := by
  by_cases hQuery : ∃ sql, message = .query sql
  · obtain ⟨sql, rfl⟩ := hQuery
    simp only [reply, List.mem_cons, List.not_mem_nil, or_false] at h
    obtain hFirst | hLast := h
    · split at hFirst <;> cases hFirst
    · exact BackendMessage.readyForQuery.inj hLast
  · have hOther := not_exists.mp hQuery
    rw [reply_other history hOther] at h
    rw [block_other history hOther]
    cases message with
    | sync => simpa [ReplyTable.reply, table] using h
    | describe variant name =>
        cases variant <;> simp [ReplyTable.reply, table, ReplyTable.oneRow] at h
    | query sql => exact absurd rfl (hOther sql)
    | _ => simp [ReplyTable.reply, table, ReplyTable.oneRow] at h

/-- The server with its transactions. -/
def server : TransactionServer network where
  toServer := protocol
  block := block
  committed := fun history id => id ∈ committed history
  block_nil := rfl
  begun := by
    intro history message id h
    cases message with
    | query sql => exact run_id h
    | _ => exact .inl h
  kept := fun _ _ _ h => mem_committed.mpr (.inl h)
  commits := fun _ _ _ h => (mem_committed.mp h).imp id fun h => .inl h.2
  reports := by
    intro history message status _ hMem
    have hReply : .readyForQuery status ∈ reply history message := by
      simpa [network] using hMem
    rw [reported hReply, status_byte]
  copies := by
    intro history message _ hCopy
    have hOther : ∀ sql, message ≠ .query sql := by
      rintro sql rfl
      cases hCopy
    exact ⟨block_other history hOther, funext fun id => by simp [mem_committed, hOther]⟩
  begins := by
    intro history options h
    have hBegin := isBegin_toBeginSql options
    obtain ⟨hActive, hSame⟩ := run_begin hBegin (accepted h)
    refine ⟨hActive, hSame, ?_⟩
    funext id
    have hCommit : options.toBeginSql ≠ "COMMIT" := by
      intro hEq
      rw [hEq] at hBegin
      exact absurd hBegin (by decide)
    simp [mem_committed, hCommit]
  commit := fun history _ => ⟨rfl, fun id => by simp [mem_committed]⟩
  rollback := fun history _ => ⟨rfl, funext fun id => by simp [mem_committed]⟩

end Ledger
end PgClient
