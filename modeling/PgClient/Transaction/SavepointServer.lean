import PgClient.Library.Journal
import PgClient.Reconnect.Quoting
import PgClient.Transaction.Acknowledged
import PgClient.Transaction.Ledger

/-!
Savepoints on the server: the work of the open transaction as a journal with marks, and the
work that has been committed. Which statements set and use the marks is read off their tokens.
-/

namespace PgClient

open SqlLexer

inductive SavepointCommand where
  | mark (name : List Char)
  | release (name : List Char)
  | rollbackTo (name : List Char)
deriving DecidableEq, Repr

namespace SavepointCommand

def apply : SavepointCommand → Journal String (List Char) → Journal String (List Char)
  | .mark name => Journal.mark name
  | .release name => Journal.release name
  | .rollbackTo name => Journal.rollbackTo name

def named (words : List (List Char)) (name : List Char) : Option SavepointCommand :=
  if words = ["savepoint".toList] then some (.mark name)
  else if words = ["release".toList, "savepoint".toList] then some (.release name)
  else if words = ["rollback".toList, "to".toList, "savepoint".toList] then some (.rollbackTo name)
  else none

/-- Words, and then a name in quotes. -/
def ofTokens : List (List Char) → List Token → Option SavepointCommand
  | words, [.ident name] => named words.reverse name
  | words, .word word :: tokens => ofTokens (word :: words) tokens
  | _, _ => none

/-- What a statement does to the marks, as the server's scanner reads it. -/
def ofSql (sql : String) : Option SavepointCommand := (lex true sql.toList).bind (ofTokens [])

theorem lex_named (words : List String) {start name : String} (hName : name ≠ "")
    (hStart : ∀ rest, lex true (start.toList ++ rest) =
      (lex true rest).map (words.map (fun word => Token.word word.toList) ++ ·)) :
    lex true (start ++ quoteIdentifier name).toList =
      some (words.map (fun word => Token.word word.toList) ++ [.ident (clip 63 name.toList)]) := by
  rw [String.toList_append, hStart, lex_quoteIdentifier, if_neg hName]
  rfl

theorem ofSql_savepoint {name : String} (h : name ≠ "") :
    ofSql ("SAVEPOINT " ++ quoteIdentifier name) = some (.mark (clip 63 name.toList)) := by
  rw [ofSql, lex_named ["savepoint"] h fun _ => lex_of_steps 2 rfl]
  rfl

theorem ofSql_release {name : String} (h : name ≠ "") :
    ofSql ("RELEASE SAVEPOINT " ++ quoteIdentifier name) =
      some (.release (clip 63 name.toList)) := by
  rw [ofSql, lex_named ["release", "savepoint"] h fun _ => lex_of_steps 4 rfl]
  rfl

theorem ofSql_rollbackTo {name : String} (h : name ≠ "") :
    ofSql ("ROLLBACK TO SAVEPOINT " ++ quoteIdentifier name) =
      some (.rollbackTo (clip 63 name.toList)) := by
  rw [ofSql, lex_named ["rollback", "to", "savepoint"] h fun _ => lex_of_steps 6 rfl]
  rfl

end SavepointCommand

/-- Words with which a statement says something about transactions. -/
def controlWords : List String :=
  ["begin", "start", "commit", "end", "rollback", "abort", "savepoint", "release", "prepare"]

/-- A single statement that does some work in the transaction. -/
def isWork (sql : String) : Bool :=
  match lex true sql.toList with
  | some (.word verb :: tokens) =>
      !(controlWords.map String.toList).contains verb && !tokens.contains (.symbol [';'])
  | _ => false

/-- A server that keeps the work of its transactions. A statement that fails has no effect but
that it fails the block, in which nothing is done until it is left or rolled back to a mark. -/
structure SavepointServer (net : Network) extends TransactionServer net where
  journal : List FrontendMessage → Journal String (List Char)
  durable : List FrontendMessage → List String
  opens : ∀ history (options : TransactionOptions), block history = .none →
    toServer.Accepts history (.query options.toBeginSql) →
    journal (.query options.toBeginSql :: history) = {} ∧
      durable (.query options.toBeginSql :: history) = durable history
  works : ∀ history sql id, isWork sql → (block history).id? = some id →
    toServer.Accepts history (.query sql) →
    block (.query sql :: history) = .active id ∧
      journal (.query sql :: history) = (journal history).write sql ∧
      durable (.query sql :: history) = durable history
  marks : ∀ history sql command id, SavepointCommand.ofSql sql = some command →
    (block history).id? = some id → toServer.Accepts history (.query sql) →
    block (.query sql :: history) = .active id ∧
      journal (.query sql :: history) = command.apply (journal history) ∧
      durable (.query sql :: history) = durable history
  fails : ∀ history sql id, isWork sql ∨ (SavepointCommand.ofSql sql).isSome →
    (block history).id? = some id → net.closing history = none → mode history = .ready →
    (∃ entry ∈ (net.answer history (.query sql)).messages, entry.isError) →
    block (.query sql :: history) = .failed id ∧
      journal (.query sql :: history) = journal history ∧
      durable (.query sql :: history) = durable history
  keeps : ∀ history id, block history = .active id → toServer.Accepts history (.query "COMMIT") →
    durable (.query "COMMIT" :: history) = (journal history).entries ++ durable history
  drops : ∀ history id, block history = .failed id → toServer.Accepts history (.query "COMMIT") →
    durable (.query "COMMIT" :: history) = durable history
  undoes : ∀ history, toServer.Accepts history (.query "ROLLBACK") →
    durable (.query "ROLLBACK" :: history) = durable history

namespace Ledger

/-- The work of the open transaction. -/
def journal : List FrontendMessage → Journal String (List Char)
  | [] => {}
  | .query sql :: history =>
      if isBegin sql ∧ block history = .none then {}
      else if (run history.length (block history) sql).2 then journal history
      else
        match SavepointCommand.ofSql sql with
        | some command => command.apply (journal history)
        | none => if isWork sql then (journal history).write sql else journal history
  | _ :: history => journal history

def durable : List FrontendMessage → List String
  | [] => []
  | .query sql :: history =>
      match block history with
      | .active _ =>
          if sql = "COMMIT" then (journal history).entries ++ durable history else durable history
      | _ => durable history
  | _ :: history => durable history

theorem named_of_ofTokens {words : List (List Char)} {tokens : List Token}
    {command : SavepointCommand} (h : SavepointCommand.ofTokens words tokens = some command) :
    ∃ more name, SavepointCommand.named (words.reverse ++ more) name = some command := by
  fun_induction SavepointCommand.ofTokens words tokens with
  | case1 words name => exact ⟨[], name, by rw [List.append_nil]; exact h⟩
  | case2 words word tokens ih =>
      obtain ⟨more, name, hNamed⟩ := ih h
      exact ⟨word :: more, name, by simpa using hNamed⟩
  | case3 => cases h

theorem control_of_named {verb name : List Char} {more : List (List Char)}
    {command : SavepointCommand} (h : SavepointCommand.named (verb :: more) name = some command) :
    (controlWords.map String.toList).contains verb := by
  simp only [SavepointCommand.named] at h
  split at h
  case isTrue hWords =>
      rw [(List.cons.inj hWords).1]
      rfl
  case isFalse =>
      split at h
      case isTrue hWords =>
          rw [(List.cons.inj hWords).1]
          rfl
      case isFalse =>
          split at h
          case isTrue hWords =>
              rw [(List.cons.inj hWords).1]
              rfl
          case isFalse => cases h

/-- Statements on savepoints do not count as work. -/
theorem ofSql_of_isWork {sql : String} (h : isWork sql) : SavepointCommand.ofSql sql = none := by
  rw [Option.eq_none_iff_forall_ne_some]
  intro command hCommand
  obtain ⟨tokens, hLex, hTokens⟩ := Option.bind_eq_some_iff.mp hCommand
  rw [isWork, hLex] at h
  cases tokens with
  | nil => cases h
  | cons token tokens =>
      cases token with
      | word verb =>
          have hTokens : SavepointCommand.ofTokens [verb] tokens = some command := hTokens
          obtain ⟨more, name, hNamed⟩ := named_of_ofTokens hTokens
          have hNamed : SavepointCommand.named (verb :: more) name = some command := hNamed
          rw [Bool.and_eq_true, control_of_named hNamed] at h
          cases h.1
      | _ => cases h

theorem run_inside (messages : Nat) {block : Block} {sql : String} {id : BlockId}
    (hEnd : sql ≠ "COMMIT" ∧ sql ≠ "ROLLBACK") (hId : block.id? = some id) :
    run messages block sql = (.active id, false) ∧ block = .active id ∨
      run messages block sql = (.failed id, true) := by
  simp only [run, hEnd.1, hEnd.2, or_self, if_false]
  cases block with
  | none => cases hId
  | active other =>
      cases hId
      split
      · exact .inl ⟨rfl, rfl⟩
      · split
        · exact .inr rfl
        · exact .inl ⟨rfl, rfl⟩
  | failed other =>
      cases hId
      right
      split
      · rfl
      · split <;> rfl

theorem not_end_of_isWork {sql : String} (h : isWork sql) : sql ≠ "COMMIT" ∧ sql ≠ "ROLLBACK" := by
  constructor
  · rintro rfl
    exact absurd h (by decide)
  · rintro rfl
    exact absurd h (by decide)

theorem not_end_of_ofSql {sql : String} (h : (SavepointCommand.ofSql sql).isSome) :
    sql ≠ "COMMIT" ∧ sql ≠ "ROLLBACK" := by
  constructor
  · rintro rfl
    exact absurd h (by decide)
  · rintro rfl
    exact absurd h (by decide)

theorem durable_query {history : List FrontendMessage} {sql : String} (h : sql ≠ "COMMIT") :
    durable (.query sql :: history) = durable history := by
  simp only [durable, h, if_false]
  split <;> rfl

/-- A statement that the block takes. -/
theorem journal_accepted {history : List FrontendMessage} {sql : String} {id : BlockId}
    (hEnd : sql ≠ "COMMIT" ∧ sql ≠ "ROLLBACK") (hId : (block history).id? = some id)
    (hAccepts : protocol.Accepts history (.query sql)) :
    block (.query sql :: history) = .active id ∧
      journal (.query sql :: history) =
        (match SavepointCommand.ofSql sql with
          | some command => command.apply (journal history)
          | none => if isWork sql then (journal history).write sql else journal history) ∧
      durable (.query sql :: history) = durable history := by
  have hRun := accepted hAccepts
  refine ⟨?_, ?_, durable_query hEnd.1⟩
  · show (run history.length (block history) sql).1 = .active id
    obtain ⟨hActive, _⟩ | hFailed := run_inside history.length hEnd hId
    · rw [hActive]
    · rw [hFailed] at hRun
      cases hRun
  · have hOpen : block history ≠ .none := by
      intro hNone
      rw [hNone] at hId
      cases hId
    simp only [journal, hOpen, and_false, if_false, hRun, Bool.false_eq_true]

def savepointServer : SavepointServer network where
  toTransactionServer := server
  journal := journal
  durable := durable
  opens := by
    intro history options hBlock _
    have hBegin := isBegin_toBeginSql options
    have hBlock : block history = .none := hBlock
    simp only [journal, durable, hBegin, hBlock, and_self, if_true]
  works := by
    intro history sql id hWork hId hAccepts
    have h := journal_accepted (not_end_of_isWork hWork) hId hAccepts
    rwa [ofSql_of_isWork hWork, if_pos hWork] at h
  marks := by
    intro history sql command id hCommand hId hAccepts
    have h := journal_accepted (not_end_of_ofSql (hCommand ▸ rfl)) hId hAccepts
    rwa [hCommand] at h
  fails := by
    intro history sql id hKind hId _ _ hError
    have hEnd : sql ≠ "COMMIT" ∧ sql ≠ "ROLLBACK" :=
      hKind.elim not_end_of_isWork not_end_of_ofSql
    have hId : (block history).id? = some id := hId
    have hOpen : block history ≠ .none := by
      intro hNone
      rw [hNone] at hId
      cases hId
    have hRun := failed_of_error hError
    obtain ⟨hActive, _⟩ | hFailed := run_inside history.length hEnd hId
    · rw [hActive] at hRun
      cases hRun
    · refine ⟨congrArg Prod.fst hFailed, ?_, durable_query hEnd.1⟩
      simp only [journal, hOpen, and_false, if_false, hRun, if_true]
  keeps := by
    intro history id hBlock _
    have hBlock : block history = .active id := hBlock
    simp only [durable, hBlock, if_true]
  drops := by
    intro history id hBlock _
    have hBlock : block history = .failed id := hBlock
    simp only [durable, hBlock]
  undoes := fun history _ => durable_query (by decide)

end Ledger

end PgClient
