import PgClient.Library.SqlLexer
import PgClient.Reconnect.Session

/-!
What the server's scanner makes of the statements that are built from names and values.
-/

namespace PgClient

open SqlLexer

theorem toList_replaceChar (quote : Char) (s : String) :
    (replaceChar quote [quote, quote] s).toList = double quote s.toList := by
  simp [replaceChar, double]

theorem toList_quoteIdentifier (name : String) :
    (quoteIdentifier name).toList = '"' :: (double '"' name.toList ++ ['"']) := by
  simp [quoteIdentifier, toList_replaceChar]

/-- The name is kept in the longest identifier that the server has room for. -/
def FitsIdentifier (name : String) : Prop := name ≠ "" ∧ byteLength name.toList ≤ 63

theorem lex_quoteIdentifier (conforming : Bool) (name : String) :
    lex conforming (quoteIdentifier name).toList =
      if name = "" then none else some [.ident (clip 63 name.toList)] := by
  rw [toList_quoteIdentifier]
  by_cases hEmpty : name = ""
  · subst hEmpty
    exact lex_of_error (lexToken_noIdent nofun)
  · have hSome : name.toList ≠ [] := fun hNil => hEmpty (String.toList_eq_nil_iff.mp hNil)
    rw [if_neg hEmpty, lex_of_token (@lexToken_ident [] conforming _ hSome nofun)]
    rfl

/-- A statement of so many words and one name, whatever the setting for constants is. -/
def Names (sql : String) (words : List String) (name : String) : Prop :=
  ∀ conforming, lex conforming sql.toList =
    some (words.map (fun word => .word word.toList) ++ [.ident name.toList])

theorem names_iff {start : String} {words : List String} {name : String}
    (hStart : ∀ conforming rest, lex conforming (start.toList ++ rest) =
      (lex conforming rest).map (words.map (fun word => Token.word word.toList) ++ ·)) :
    Names (start ++ quoteIdentifier name) words name ↔ FitsIdentifier name := by
  have hLex : ∀ conforming, lex conforming (start ++ quoteIdentifier name).toList =
      (if name = "" then none else some [Token.ident (clip 63 name.toList)]).map
        (words.map (fun word => .word word.toList) ++ ·) := by
    intro conforming
    rw [String.toList_append, hStart, lex_quoteIdentifier]
  simp only [Names, hLex, FitsIdentifier, ← clip_eq_iff]
  by_cases hEmpty : name = "" <;> simp [hEmpty]

namespace Connection

theorem names_listen_iff {channel : String} :
    Names (buildListenSql channel) ["listen"] channel ↔ FitsIdentifier channel :=
  names_iff fun _ _ => lex_of_steps 2 rfl

theorem names_unlisten_iff {channel : String} :
    Names (buildUnlistenSql channel) ["unlisten"] channel ↔ FitsIdentifier channel :=
  names_iff fun _ _ => lex_of_steps 2 rfl

theorem names_savepoint_iff {name : String} :
    Names ("SAVEPOINT " ++ quoteIdentifier name) ["savepoint"] name ↔ FitsIdentifier name :=
  names_iff fun _ _ => lex_of_steps 2 rfl

theorem names_release_iff {name : String} :
    Names ("RELEASE SAVEPOINT " ++ quoteIdentifier name) ["release", "savepoint"] name ↔
      FitsIdentifier name :=
  names_iff fun _ _ => lex_of_steps 4 rfl

theorem names_rollback_iff {name : String} :
    Names ("ROLLBACK TO SAVEPOINT " ++ quoteIdentifier name) ["rollback", "to", "savepoint"] name ↔
      FitsIdentifier name :=
  names_iff fun _ _ => lex_of_steps 6 rfl

/-- The statement for a parameter is one assignment of one constant whatever the setting for
constants is, and of that value to that parameter when backslashes are ordinary. -/
structure SetsParam (key value : String) : Prop where
  form : ∀ conforming, ∃ name literal,
    lex conforming (buildSetParamSql key value).toList =
      some [.word "set".toList, .ident name, .symbol ['='], literal] ∧
    ((∃ text, literal = .string text) ∨ ∃ body, literal = .escapeString body)
  faithful : lex true (buildSetParamSql key value).toList =
    some [.word "set".toList, .ident key.toList, .symbol ['='], .string value.toList]

theorem toList_buildSetParamSql (key value : String) :
    (buildSetParamSql key value).toList =
      "SET ".toList ++ ('"' :: (double '"' key.toList ++ '"' :: (" = ".toList ++
        '\'' :: (double '\'' (double '\\' value.toList) ++ ['\''])))) := by
  simp [buildSetParamSql, toList_quoteIdentifier, escapeSqlLiteral, toList_replaceChar]

theorem lex_assignment {conforming : Bool} {value : List Char} :
    lex conforming (" = ".toList ++ '\'' :: (double '\'' (double '\\' value) ++ ['\''])) =
      some [.symbol ['='], if conforming then .string (double '\\' value)
        else .escapeString (double '\'' (double '\\' value))] := by
  have hBlank : ∀ rest, lex conforming (" = ".toList ++ rest) =
      (lex conforming rest).map ([.symbol ['=']] ++ ·) := fun rest => lex_of_steps 3 rfl
  rw [hBlank]
  cases conforming with
  | true =>
      rw [lex_of_token (@lexToken_string [] (double '\\' value) nofun rfl)]
      rfl
  | false =>
      rw [lex_of_token (@lexToken_escapeString [] value nofun rfl)]
      rfl

theorem lex_setParam (conforming : Bool) (key value : String) :
    lex conforming (buildSetParamSql key value).toList =
      if key = "" then none else
        some [.word "set".toList, .ident (clip 63 key.toList), .symbol ['='],
          if conforming then .string (double '\\' value.toList)
          else .escapeString (double '\'' (double '\\' value.toList))] := by
  rw [toList_buildSetParamSql]
  have hSet : ∀ rest, lex conforming ("SET ".toList ++ rest) =
      (lex conforming rest).map ([.word "set".toList] ++ ·) := fun rest => lex_of_steps 2 rfl
  rw [hSet]
  by_cases hEmpty : key = ""
  · subst hEmpty
    rw [if_pos rfl]
    have hError : lexToken conforming ('"' :: '"' :: (" = ".toList ++
        '\'' :: (double '\'' (double '\\' value.toList) ++ ['\'']))) = none :=
      lexToken_noIdent nofun
    rw [show double '"' "".toList = [] from rfl, List.nil_append, lex_of_error hError]
    rfl
  · have hSome : key.toList ≠ [] := fun hNil => hEmpty (String.toList_eq_nil_iff.mp hNil)
    have hIdent := @lexToken_ident (" = ".toList ++
      '\'' :: (double '\'' (double '\\' value.toList) ++ ['\''])) conforming _ hSome nofun
    rw [if_neg hEmpty, lex_of_token hIdent, lex_assignment]
    rfl

theorem setsParam_iff {key value : String} :
    SetsParam key value ↔ FitsIdentifier key ∧ '\\' ∉ value.toList := by
  rw [FitsIdentifier, ← clip_eq_iff, ← double_eq_iff]
  constructor
  · intro h
    have hLex := h.faithful
    rw [lex_setParam] at hLex
    by_cases hEmpty : key = ""
    · simp [hEmpty] at hLex
    · simpa [hEmpty] using hLex
  · intro ⟨⟨hEmpty, hClip⟩, hDouble⟩
    constructor
    · intro conforming
      refine ⟨clip 63 key.toList, _, by rw [lex_setParam, if_neg hEmpty], ?_⟩
      cases conforming with
      | true => exact .inl ⟨_, rfl⟩
      | false => exact .inr ⟨_, rfl⟩
    · rw [lex_setParam, if_neg hEmpty, hClip, hDouble]
      rfl

/-- The statements are read as they are meant exactly if the names in them are not empty and fit
into 63 bytes, and a parameter's value has no backslash. -/
theorem quoting_iff (key value channel savepoint : String) :
    (SetsParam key value ↔
      (key ≠ "" ∧ byteLength key.toList ≤ 63) ∧ '\\' ∉ value.toList) ∧
    (Names (buildListenSql channel) ["listen"] channel ↔
      channel ≠ "" ∧ byteLength channel.toList ≤ 63) ∧
    (Names (buildUnlistenSql channel) ["unlisten"] channel ↔
      channel ≠ "" ∧ byteLength channel.toList ≤ 63) ∧
    (Names ("SAVEPOINT " ++ quoteIdentifier savepoint) ["savepoint"] savepoint ↔
      savepoint ≠ "" ∧ byteLength savepoint.toList ≤ 63) ∧
    (Names ("RELEASE SAVEPOINT " ++ quoteIdentifier savepoint) ["release", "savepoint"]
      savepoint ↔ savepoint ≠ "" ∧ byteLength savepoint.toList ≤ 63) ∧
    (Names ("ROLLBACK TO SAVEPOINT " ++ quoteIdentifier savepoint)
      ["rollback", "to", "savepoint"] savepoint ↔
        savepoint ≠ "" ∧ byteLength savepoint.toList ≤ 63) :=
  ⟨setsParam_iff, names_listen_iff, names_unlisten_iff, names_savepoint_iff, names_release_iff,
    names_rollback_iff⟩

/-- A backslash in the value of a parameter is doubled on its way to the server. -/
theorem not_quoting :
    ¬ ∀ key value channel savepoint : String,
      '\x00' ∉ key.toList ++ value.toList ++ channel.toList ++ savepoint.toList →
        SetsParam key value ∧ Names (buildListenSql channel) ["listen"] channel ∧
        Names (buildUnlistenSql channel) ["unlisten"] channel ∧
        Names ("SAVEPOINT " ++ quoteIdentifier savepoint) ["savepoint"] savepoint ∧
        Names ("RELEASE SAVEPOINT " ++ quoteIdentifier savepoint) ["release", "savepoint"]
          savepoint ∧
        Names ("ROLLBACK TO SAVEPOINT " ++ quoteIdentifier savepoint)
          ["rollback", "to", "savepoint"] savepoint := by
  intro hAll
  have hSets := (hAll "application_name" "C:\\tmp" "events" "first" (by decide)).1
  exact absurd (setsParam_iff.mp hSets).2 (by decide)

end Connection
end PgClient
