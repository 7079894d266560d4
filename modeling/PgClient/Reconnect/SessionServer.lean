import PgClient.Reconnect.Quoting
import PgClient.Transaction.Acknowledged
import PgClient.Transaction.Ledger

/-!
The state of a session on the server: the channels that it listens on and the parameters that
have been assigned. Which statements change it is read off their tokens.
-/

namespace PgClient

open SqlLexer

/-- Names of parameters do not tell upper case from lower case. -/
def foldName (name : String) : String := String.ofList (name.toList.map Char.toLower)

structure ServerSession where
  listens : String → Bool
  setting : String → Option String

/-- A session in which nothing has been said yet. -/
def ServerSession.fresh : ServerSession where
  listens := fun _ => false
  setting := fun _ => none

inductive SessionCommand where
  | listen (channel : String)
  | unlisten (channel : String)
  | unlistenAll
  | assign (name value : String)
  | discardAll
deriving DecidableEq, Repr

namespace SessionCommand

def apply : SessionCommand → ServerSession → ServerSession
  | .listen channel, s => { s with listens := fun name => name = channel || s.listens name }
  | .unlisten channel, s => { s with listens := fun name => name ≠ channel && s.listens name }
  | .unlistenAll, s => { s with listens := fun _ => false }
  | .assign name value, s =>
      { s with setting := fun other =>
          if other = foldName name then some value else s.setting other }
  | .discardAll, _ => .fresh

/-- Names may be quoted or not. -/
def named (verb name : List Char) : Option SessionCommand :=
  if verb = "listen".toList then some (.listen (String.ofList name))
  else if verb = "unlisten".toList then some (.unlisten (String.ofList name))
  else none

def assigned (verb name sign value : List Char) : Option SessionCommand :=
  if verb = "set".toList ∧ (sign = ['='] ∨ sign = "to".toList) then
    some (.assign (String.ofList name) (String.ofList value))
  else none

def ofTokens : List Token → Option SessionCommand
  | [.word verb, .word name] =>
      if verb = "discard".toList ∧ name = "all".toList then some .discardAll else named verb name
  | [.word verb, .ident name] => named verb name
  | [.word verb, .symbol sign] =>
      if verb = "unlisten".toList ∧ sign = ['*'] then some .unlistenAll else none
  | [.word verb, .word name, .symbol sign, .string value]
  | [.word verb, .ident name, .symbol sign, .string value]
  | [.word verb, .word name, .word sign, .string value]
  | [.word verb, .ident name, .word sign, .string value] => assigned verb name sign value
  | _ => none

/-- What a statement does to the session, as the server's scanner reads it. -/
def ofSql (sql : String) : Option SessionCommand := (lex true sql.toList).bind ofTokens

theorem ofSql_listen {channel : String} (h : FitsIdentifier channel) :
    ofSql (Connection.buildListenSql channel) = some (.listen channel) := by
  rw [ofSql, Connection.names_listen_iff.mpr h true]
  exact congrArg (fun name => some (listen name)) (String.ofList_toList)

theorem ofSql_unlisten {channel : String} (h : FitsIdentifier channel) :
    ofSql (Connection.buildUnlistenSql channel) = some (.unlisten channel) := by
  rw [ofSql, Connection.names_unlisten_iff.mpr h true]
  exact congrArg (fun name => some (unlisten name)) (String.ofList_toList)

theorem ofSql_unlistenAll : ofSql "UNLISTEN *" = some .unlistenAll := by decide

theorem ofSql_discardAll : ofSql "DISCARD ALL" = some .discardAll := by decide

theorem ofSql_setParam {key value : String} (hKey : FitsIdentifier key)
    (hValue : '\\' ∉ value.toList) :
    ofSql (Connection.buildSetParamSql key value) = some (.assign key value) := by
  rw [ofSql, (Connection.setsParam_iff.mpr ⟨hKey, hValue⟩).faithful]
  show some (assign (String.ofList key.toList) (String.ofList value.toList)) = _
  rw [String.ofList_toList, String.ofList_toList]

end SessionCommand

/-- A server that keeps the state of its session. Outside a transaction a statement that is
accepted takes effect at once, and one that is answered with an error has none. -/
structure SessionServer (net : Network) extends TransactionServer net where
  session : List FrontendMessage → ServerSession
  session_nil : session [] = .fresh
  executes : ∀ history sql command, SessionCommand.ofSql sql = some command →
    block history = .none → toServer.Accepts history (.query sql) →
    session (.query sql :: history) = command.apply (session history)
  autocommits : ∀ history sql command, SessionCommand.ofSql sql = some command →
    block history = .none → block (.query sql :: history) = .none
  refuses : ∀ history sql command, SessionCommand.ofSql sql = some command →
    block history = .none → net.closing history = none → mode history = .ready →
    (∃ entry ∈ (net.answer history (.query sql)).messages, entry.isError) →
    session (.query sql :: history) = session history

/-- The tracked state is that of the session on the server. -/
structure ServerSession.Tracked (s : ServerSession) (session : SessionState) : Prop where
  channels : ∀ channel, s.listens channel = decide (channel ∈ session.listenChannels)
  params : ∀ name, s.setting name = session.customGucs.lookup name
  keys : (session.customGucs.map Prod.fst).Nodup

namespace Ledger

/-- The session of the small server. -/
def session : List FrontendMessage → ServerSession
  | [] => .fresh
  | .query sql :: history =>
      match SessionCommand.ofSql sql with
      | some command =>
          if block history = .none ∧ (run history.length (block history) sql).2 = false then
            command.apply (session history)
          else session history
      | none => session history
  | _ :: history => session history

/-- The first word of a statement that begins a transaction. -/
theorem lex_begin {cs : List Char} {tokens : List Token}
    (h : lex true ('B' :: 'E' :: 'G' :: 'I' :: 'N' :: cs) = some tokens) :
    ∃ name more, tokens = .word ('b' :: name) :: more := by
  have hToken : ∃ name rest, lexToken true ('B' :: 'E' :: 'G' :: 'I' :: 'N' :: cs) =
      some (some (.word ('b' :: name)), rest) := ⟨_, _, rfl⟩
  obtain ⟨name, rest, hToken⟩ := hToken
  rw [lex, List.length_cons, lexLoop, hToken] at h
  obtain ⟨first, hFirst, h⟩ := Option.bind_eq_some_iff.mp h
  cases hFirst
  obtain ⟨more, _, hTokens⟩ := Option.bind_eq_some_iff.mp h
  cases hTokens
  exact ⟨name, more, rfl⟩

theorem ofTokens_begin {name : List Char} {more : List Token} :
    SessionCommand.ofTokens (.word ('b' :: name) :: more) = none := by
  unfold SessionCommand.ofTokens
  split
  case h_8 => rfl
  all_goals
    rename_i hTokens
    cases hTokens
    rfl

/-- Statements that begin a transaction do not say anything about the session. -/
theorem not_isBegin {sql : String} {command : SessionCommand}
    (h : SessionCommand.ofSql sql = some command) : isBegin sql = false := by
  rw [Bool.eq_false_iff]
  intro hBegin
  obtain ⟨cs, hSql⟩ := List.isPrefixOf_iff_prefix.mp hBegin
  obtain ⟨tokens, hLex, hCommand⟩ := Option.bind_eq_some_iff.mp h
  rw [← hSql] at hLex
  obtain ⟨name, more, rfl⟩ := lex_begin hLex
  rw [ofTokens_begin] at hCommand
  cases hCommand

theorem run_command {sql : String} {command : SessionCommand} (messages : Nat)
    (h : SessionCommand.ofSql sql = some command) : (run messages .none sql).1 = .none := by
  simp only [run, not_isBegin h, Bool.false_eq_true, if_false]
  split
  · rfl
  · split <;> rfl

theorem session_command {history : List FrontendMessage} {sql : String} {command : SessionCommand}
    (h : SessionCommand.ofSql sql = some command) (hBlock : block history = .none) :
    session (.query sql :: history) =
      if (run history.length (block history) sql).2 then session history
      else command.apply (session history) := by
  simp only [session, h, hBlock, true_and]
  cases (run history.length .none sql).2 <;> rfl

/-- The small server with its session. -/
def sessionServer : SessionServer network where
  toTransactionServer := server
  session := session
  session_nil := rfl
  executes := by
    intro history sql command hCommand hBlock hAccepts
    rw [session_command hCommand hBlock, accepted hAccepts]
    rfl
  autocommits := by
    intro history sql command hCommand hBlock
    show (run history.length (block history) sql).1 = .none
    rw [show block history = .none from hBlock]
    exact run_command history.length hCommand
  refuses := by
    intro history sql command hCommand hBlock _ _ hError
    rw [session_command hCommand hBlock, failed_of_error hError]
    rfl

end Ledger

end PgClient
