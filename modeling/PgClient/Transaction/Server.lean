import PgClient.Replies.Accepted
import PgClient.Transaction.Guard

/-!
Transaction blocks on a server: which one is open after a history of messages, which have
been committed, and what a server may do to them with one more message.
-/

namespace PgClient

/-- A block is known by the message that began it and by its place among those that this
message began. -/
structure BlockId where
  message : Nat
  index : Nat
deriving DecidableEq, Repr

inductive Block where
  | none
  | active (id : BlockId)
  | failed (id : BlockId)
deriving DecidableEq, Repr

namespace Block

def id? : Block → Option BlockId
  | .none => Option.none
  | .active id | .failed id => some id

def status : Block → TransactionStatus
  | .none => .idle
  | .active _ => .inTransaction
  | .failed _ => .failed

end Block

/-- A server that keeps transactions. A `BEGIN` inside a block only warns and continues it;
a `COMMIT` of a failed block is answered like a `ROLLBACK`. -/
structure TransactionServer (net : Network) extends Server net where
  block : List FrontendMessage → Block
  committed : List FrontendMessage → BlockId → Prop
  block_nil : block [] = .none
  begun : ∀ history message id, (block (message :: history)).id? = some id →
    (block history).id? = some id ∨ id.message = history.length
  kept : ∀ history message id, committed history id → committed (message :: history) id
  commits : ∀ history message id, committed (message :: history) id →
    committed history id ∨ block history = .active id ∨ id.message = history.length
  reports : ∀ history message status, net.closing history = none →
    .ok (.readyForQuery status) ∈ (net.answer history message).messages →
    TransactionStatus.ofReady status = (block (message :: history)).status
  copies : ∀ history message, mode history = .ready → message.isCopy →
    block (message :: history) = block history ∧
      committed (message :: history) = committed history
  begins : ∀ history (options : TransactionOptions),
    toServer.Accepts history (.query options.toBeginSql) →
    (∃ id, block (.query options.toBeginSql :: history) = .active id) ∧
      (block history ≠ .none → block (.query options.toBeginSql :: history) = block history) ∧
      committed (.query options.toBeginSql :: history) = committed history
  commit : ∀ history, toServer.Accepts history (.query "COMMIT") →
    block (.query "COMMIT" :: history) = .none ∧
      ∀ id, committed (.query "COMMIT" :: history) id ↔
        committed history id ∨ block history = .active id
  rollback : ∀ history, toServer.Accepts history (.query "ROLLBACK") →
    block (.query "ROLLBACK" :: history) = .none ∧
      committed (.query "ROLLBACK" :: history) = committed history

namespace TransactionServer

variable {net : Network} (server : TransactionServer net)

/-- A block that is open was begun by one of the messages so far. -/
theorem id_lt {history : List FrontendMessage} {id : BlockId}
    (h : (server.block history).id? = some id) : id.message < history.length := by
  induction history with
  | nil =>
      rw [server.block_nil] at h
      cases h
  | cons message history ih =>
      rw [List.length_cons]
      cases server.begun history message id h with
      | inl hBefore => exact Nat.lt_succ_of_lt (ih hBefore)
      | inr hFresh => exact hFresh ▸ Nat.lt_succ_self _

/-- A block that is over is never opened again, and never committed. -/
theorem ended {base later : List FrontendMessage} {id : BlockId} (hId : id.message < base.length)
    (hEnded : (server.block base).id? ≠ some id) :
    (server.block (later ++ base)).id? ≠ some id ∧
      (server.committed (later ++ base) id → server.committed base id) := by
  induction later with
  | nil => exact ⟨hEnded, fun h => h⟩
  | cons message later ih =>
      obtain ⟨hClosed, hCommitted⟩ := ih
      have hOld : id.message ≠ (later ++ base).length := by
        rw [List.length_append]
        omega
      refine ⟨fun hOpen => ?_, fun hCommit => ?_⟩
      · cases server.begun _ message id hOpen with
        | inl hBefore => exact hClosed hBefore
        | inr hFresh => exact hOld hFresh
      · obtain hBefore | hOpen | hFresh := server.commits _ message id hCommit
        · exact hCommitted hBefore
        · exact absurd (congrArg Block.id? hOpen) hClosed
        · exact absurd hFresh hOld

end TransactionServer
end PgClient
