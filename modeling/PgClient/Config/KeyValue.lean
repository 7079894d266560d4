import Mathlib.Data.Bool.AllAny
import Mathlib.Data.List.TakeWhile
import PgClient.Config.Params
import PgClient.Library.Conninfo
import PgClient.Query.Row

/-!
Connection strings of keys and values: the scanner that respects single quotes, and what it
makes of texts in the quoting of such strings.
-/

namespace PgClient

open Conninfo

/-- `char::is_whitespace`. -/
def isWhitespace (c : Char) : Bool := CommandTag.isSpace c

def tokenizeLoop : List Char → List (List Char) → List Char → Bool →
    Except ConfigError (List (List Char))
  | [], tokens, current, inQuote =>
      if inQuote then .error (.parseError "unclosed single quote in connection string")
      else .ok (if current ≠ [] then tokens ++ [current] else tokens)
  | c :: cs, tokens, current, inQuote =>
      if c = '\'' then tokenizeLoop cs tokens (current ++ [c]) (!inQuote)
      else if isWhitespace c && !inQuote then
        if current ≠ [] then tokenizeLoop cs (tokens ++ [current]) [] inQuote
        else tokenizeLoop cs tokens current inQuote
      else tokenizeLoop cs tokens (current ++ [c]) inQuote

def tokenizeKeyValue (text : List Char) : Except ConfigError (List (List Char)) :=
  tokenizeLoop text [] [] false

/-- A value without the quotes around it. -/
def unquote (value : List Char) : List Char :=
  match value with
  | '\'' :: rest => if rest.getLast? = some '\'' then rest.dropLast else value
  | _ => value

/-- The key and the value of a token, which the first `=` parts. -/
def splitToken (token : List Char) : Except ConfigError (List Char × List Char) :=
  match token.dropWhile (· ≠ '=') with
  | [] => .error (.parseError ("missing value for " ++ String.ofList token))
  | _ :: value => .ok (token.takeWhile (· ≠ '='), unquote value)

/-- What one key does to the configuration. -/
def applyKeyValue (config : ParsedConfig) (key value : String) : Except ConfigError ParsedConfig :=
  match key with
  | "host" => .ok { config with host := value }
  | "port" =>
      match parsePort value with
      | .ok port => .ok { config with port := port }
      | .error message => .error (.invalidValue ("invalid port: " ++ message))
  | "user" => .ok { config with user := value }
  | "password" => .ok { config with password := some value }
  | "dbname" | "database" => .ok { config with database := some value }
  | "application_name" => .ok { config with applicationName := some value }
  | "sslmode" => config.setSslMode value
  | "connect_timeout" => config.setConnectTimeout value
  | "target_session_attrs" => config.setTargetSessionAttrs value
  | "reconnect" | "reconnect_max_attempts" | "reconnect_initial_delay_ms"
  | "reconnect_max_delay_ms" | "stale_threshold_secs" => config.setReconnectParam key value
  | _ => .ok { config with options := config.options ++ [(key, value)] }

def applyToken (config : ParsedConfig) (token : List Char) : Except ConfigError ParsedConfig := do
  let (key, value) ← splitToken token
  applyKeyValue config (String.ofList key) (String.ofList value)

def fromKeyValue (text : List Char) : Except ConfigError ParsedConfig := do
  let tokens ← tokenizeKeyValue text
  tokens.foldlM applyToken .new

/-- The keys and values that a connection string is read as. -/
def keyValuePairs (text : List Char) : Except ConfigError (List (List Char × List Char)) := do
  let tokens ← tokenizeKeyValue text
  tokens.mapM splitToken

/-- The configuration is what the pairs make of the default one. -/
theorem fromKeyValue_of_pairs {text : List Char} {pairs : List (List Char × List Char)}
    (h : keyValuePairs text = .ok pairs) :
    fromKeyValue text = pairs.foldlM
      (fun config pair => applyKeyValue config (String.ofList pair.1) (String.ofList pair.2))
      .new := by
  obtain ⟨tokens, hTokens, hSplit⟩ := Except.of_bind h
  rw [fromKeyValue, hTokens]
  change tokens.foldlM applyToken .new = _
  have hPairs := Except.mapM_ok hSplit
  clear hTokens hSplit h
  generalize ParsedConfig.new = config
  induction hPairs generalizing config with
  | nil => rfl
  | cons hFirst _ ih =>
      rw [List.foldlM_cons, List.foldlM_cons, applyToken, hFirst]
      exact congrArg (Except.bind _) (funext ih)

/-- The runs of characters between blanks that no quote covers. -/
def groups : Bool → List Char → List (List Char)
  | _, [] => [[]]
  | quoted, c :: cs =>
      if isWhitespace c && !quoted then [] :: groups quoted cs
      else (groups (if c = '\'' then !quoted else quoted) cs).modifyHead (c :: ·)

/-- The pieces of a text, as the blanks outside of its quotes part them. -/
def pieces (text : List Char) : List (List Char) := (groups false text).filter (· ≠ [])

theorem groups_quote {quoted : Bool} {cs : List Char} :
    groups quoted ('\'' :: cs) = (groups (!quoted) cs).modifyHead ('\'' :: ·) := by
  have hQuote : isWhitespace '\'' = false := by decide
  simp [groups, hQuote]

theorem groups_other {quoted : Bool} {c : Char} {cs : List Char} (hQuote : c ≠ '\'')
    (hBlank : (isWhitespace c && !quoted) = false) :
    groups quoted (c :: cs) = (groups quoted cs).modifyHead (c :: ·) := by
  rw [groups, hBlank, if_neg hQuote]
  rfl

theorem groups_blank {c : Char} {cs : List Char} (hBlank : isWhitespace c) :
    groups false (c :: cs) = [] :: groups false cs := by
  simp [groups, hBlank]

theorem modifyHead_same (l : List (List Char)) : l.modifyHead (fun x => x) = l := by
  cases l <;> rfl

/-- The scanner, as a whole: it stops in a quote or gives the groups that are not empty. -/
theorem tokenizeLoop_eq (text : List Char) (tokens : List (List Char)) (current : List Char)
    (inQuote : Bool) :
    tokenizeLoop text tokens current inQuote =
      if text.count '\'' % 2 = (if inQuote then 0 else 1)
      then .error (.parseError "unclosed single quote in connection string")
      else .ok (tokens ++
        ((groups inQuote text).modifyHead (current ++ ·)).filter (· ≠ [])) := by
  induction text generalizing tokens current inQuote with
  | nil =>
      cases inQuote with
      | true => simp [tokenizeLoop]
      | false => by_cases hCurrent : current = [] <;> simp [tokenizeLoop, groups, hCurrent]
  | cons c text ih =>
      by_cases hQuote : c = '\''
      · subst hQuote
        have hParity : ('\'' :: text).count '\'' % 2 = (if inQuote then 0 else 1) ↔
            text.count '\'' % 2 = (if !inQuote then 0 else 1) := by
          rw [List.count_cons_self]
          cases inQuote <;> simp <;> omega
        rw [tokenizeLoop, if_pos rfl, ih, groups_quote, List.modifyHead_modifyHead]
        simp only [hParity, Function.comp_def, List.append_assoc, List.singleton_append]
      · have hCount : (c :: text).count '\'' = text.count '\'' :=
          List.count_cons_of_ne hQuote
        rw [tokenizeLoop, if_neg hQuote, hCount]
        cases hBlank : isWhitespace c && !inQuote with
        | false =>
            rw [if_neg Bool.false_ne_true, ih, groups_other hQuote hBlank,
              List.modifyHead_modifyHead]
            simp only [Function.comp_def, List.append_assoc, List.singleton_append]
        | true =>
            obtain ⟨hSpace, hOutside⟩ := Bool.and_eq_true_iff.mp hBlank
            have hFalse : inQuote = false := by simpa using hOutside
            subst hFalse
            rw [if_pos rfl, groups_blank hSpace]
            by_cases hCurrent : current = []
            · simp [hCurrent, ih, modifyHead_same]
            · simp [hCurrent, ih, modifyHead_same]

theorem tokenizeKeyValue_eq (text : List Char) :
    tokenizeKeyValue text =
      if text.count '\'' % 2 = 1
      then .error (.parseError "unclosed single quote in connection string")
      else .ok (pieces text) := by
  rw [tokenizeKeyValue, tokenizeLoop_eq]
  simp [modifyHead_same, pieces]

theorem splitToken_append {key text : List Char} (hKey : '=' ∉ key) :
    splitToken (key ++ '=' :: text) = .ok (key, unquote text) := by
  have hAll : ∀ c ∈ key, decide (c ≠ '=') = true :=
    fun c hMem => decide_eq_true fun hEq => hKey (hEq ▸ hMem)
  rw [splitToken, List.dropWhile_append_of_pos hAll, List.takeWhile_append_of_pos hAll]
  simp

theorem splitToken_none {token : List Char} (h : '=' ∉ token) :
    splitToken token =
      .error (.parseError ("missing value for " ++ String.ofList token)) := by
  have hDrop : token.dropWhile (· ≠ '=') = [] :=
    List.dropWhile_eq_nil_iff.mpr fun c hMem => decide_eq_true fun hEq => h (hEq ▸ hMem)
  rw [splitToken, hDrop]

theorem splitToken_ok {token : List Char} {pair : List Char × List Char}
    (h : splitToken token = .ok pair) :
    ∃ text, token = pair.1 ++ '=' :: text ∧ pair.2 = unquote text := by
  by_cases hMem : '=' ∈ token
  · obtain ⟨key, text, rfl, hKey⟩ := List.eq_append_cons_of_mem hMem
    rw [splitToken_append hKey] at h
    cases h
    exact ⟨text, rfl, rfl⟩
  · rw [splitToken_none hMem] at h
    cases h

theorem splitToken_error {token : List Char} :
    (∃ e, splitToken token = .error e) ↔ '=' ∉ token := by
  constructor
  · intro ⟨e, hError⟩ hMem
    obtain ⟨key, text, rfl, hKey⟩ := List.eq_append_cons_of_mem hMem
    rw [splitToken_append hKey] at hError
    cases hError
  · exact fun hNone => ⟨_, splitToken_none hNone⟩

theorem keyValuePairs_eq {text : List Char} (h : text.count '\'' % 2 ≠ 1) :
    keyValuePairs text = (pieces text).mapM splitToken := by
  rw [keyValuePairs, tokenizeKeyValue_eq, if_neg h]
  rfl

theorem even_of_keyValuePairs {text : List Char} {pairs : List (List Char × List Char)}
    (h : keyValuePairs text = .ok pairs) : text.count '\'' % 2 ≠ 1 := by
  intro hOdd
  rw [keyValuePairs, tokenizeKeyValue_eq, if_pos hOdd] at h
  cases h

/-- A text is rejected if a quote is not closed or a piece has no `=`. -/
theorem keyValuePairs_error {text : List Char} :
    (∃ e, keyValuePairs text = .error e) ↔
      text.count '\'' % 2 = 1 ∨ ∃ piece ∈ pieces text, '=' ∉ piece := by
  by_cases hOdd : text.count '\'' % 2 = 1
  · rw [keyValuePairs, tokenizeKeyValue_eq, if_pos hOdd]
    exact ⟨fun _ => .inl hOdd, fun _ => ⟨_, rfl⟩⟩
  · rw [keyValuePairs_eq hOdd, Except.mapM_error]
    simp only [splitToken_error, hOdd, false_or]

section Pieces

variable {rest : List Char}

theorem isWhitespace_of_isBlank {c : Char} (h : isBlank c) : isWhitespace c := by
  have hEither : c = ' ' ∨ 9 ≤ c.toNat ∧ c.toNat ≤ 13 := by simpa [isBlank] using h
  rcases hEither with rfl | hRange
  · decide
  · simp [isWhitespace, CommandTag.isSpace, hRange]

theorem groups_plain {l : List Char} (h : ∀ c ∈ l, ¬ isWhitespace c ∧ c ≠ '\'') :
    groups false (l ++ rest) = (groups false rest).modifyHead (l ++ ·) := by
  induction l with
  | nil => simp [modifyHead_same]
  | cons c l ih =>
      obtain ⟨hBlank, hQuote⟩ := h c (by simp)
      rw [List.cons_append, groups_other hQuote (by simp [hBlank]),
        ih fun d hMem => h d (by simp [hMem]), List.modifyHead_modifyHead]
      rfl

theorem groups_covered {l : List Char} (h : '\'' ∉ l) :
    groups true (l ++ rest) = (groups true rest).modifyHead (l ++ ·) := by
  induction l with
  | nil => simp [modifyHead_same]
  | cons c l ih =>
      have hQuote : c ≠ '\'' := fun hEq => h (by simp [hEq])
      rw [List.cons_append, groups_other hQuote (by simp),
        ih fun hMem => h (by simp [hMem]), List.modifyHead_modifyHead]
      rfl

/-- Quotes cover what stands between them. -/
theorem groups_between {l : List Char} (h : '\'' ∉ l) :
    groups false ('\'' :: l ++ '\'' :: rest) =
      (groups false rest).modifyHead ('\'' :: l ++ ['\''] ++ ·) := by
  rw [List.cons_append, groups_quote, Bool.not_false, groups_covered h, groups_quote,
    Bool.not_true, List.modifyHead_modifyHead, List.modifyHead_modifyHead]
  simp [Function.comp_def]

theorem pieces_blanks {blanks : List Char} (h : ∀ c ∈ blanks, isBlank c) :
    pieces (blanks ++ rest) = pieces rest := by
  induction blanks with
  | nil => rfl
  | cons c blanks ih =>
      have hRest := ih fun d hMem => h d (by simp [hMem])
      rw [pieces, List.cons_append, groups_blank (isWhitespace_of_isBlank (h c (by simp)))]
      simpa [pieces] using hRest

theorem groups_head (h : ∀ c ∈ rest.head?, isBlank c) : ∃ l, groups false rest = [] :: l := by
  cases rest with
  | nil => exact ⟨[], rfl⟩
  | cons c rest => exact ⟨_, groups_blank (isWhitespace_of_isBlank (h c rfl))⟩

/-- A piece ends at a blank or with the text. -/
theorem pieces_cons {piece : List Char} (hSome : piece ≠ [])
    (hPiece : groups false (piece ++ rest) = (groups false rest).modifyHead (piece ++ ·))
    (hRest : ∀ c ∈ rest.head?, isBlank c) : pieces (piece ++ rest) = piece :: pieces rest := by
  obtain ⟨l, hHead⟩ := groups_head hRest
  simp [pieces, hPiece, hHead, hSome]

end Pieces

/-- The values that the scanner leaves as they were written: no quote and no backslash in them,
and no blank of any script unless they are quoted. -/
structure Plain (item : Item) : Prop where
  quote : '\'' ∉ item.value
  slash : '\\' ∉ item.value
  bare : item.quoted = false → ∀ c ∈ item.value, ¬ isWhitespace c

/-- A name without blanks and quotes. -/
def Keyed (item : Item) : Prop := ∀ c ∈ item.name, ¬ isWhitespace c ∧ c ≠ '\''

section Items

variable {item : Item} {rest : List Char}

theorem escape_eq {value : List Char} (hQuote : '\'' ∉ value) (hSlash : '\\' ∉ value) :
    escape value = value := by
  induction value with
  | nil => rfl
  | cons c value ih =>
      have hPlain : ¬ (c = '\'' ∨ c = '\\') := by
        rintro (rfl | rfl)
        · exact hQuote (by simp)
        · exact hSlash (by simp)
      rw [escape_cons, if_neg hPlain, ih (fun hMem => hQuote (by simp [hMem]))
        (fun hMem => hSlash (by simp [hMem]))]
      rfl

theorem groups_valueText (h : Plain item) :
    groups false (item.valueText ++ rest) =
      (groups false rest).modifyHead (item.valueText ++ ·) := by
  have hEscape := escape_eq h.quote h.slash
  cases hQuoted : item.quoted with
  | true =>
      have hText : item.valueText = '\'' :: item.value ++ ['\''] := by
        simp [Item.valueText, hQuoted, hEscape]
      rw [hText, List.append_assoc, List.singleton_append, groups_between h.quote]
  | false =>
      have hText : item.valueText = item.value := by simp [Item.valueText, hQuoted, hEscape]
      rw [hText]
      exact groups_plain fun c hMem =>
        ⟨h.bare hQuoted c hMem, fun hEq => h.quote (hEq ▸ hMem)⟩

theorem unquote_valueText (h : Plain item) : unquote item.valueText = item.value := by
  have hEscape := escape_eq h.quote h.slash
  cases hQuoted : item.quoted with
  | true => simp [Item.valueText, hQuoted, hEscape, unquote]
  | false =>
      have hText : item.valueText = item.value := by simp [Item.valueText, hQuoted, hEscape]
      rw [hText]
      unfold unquote
      split
      · rename_i text hValue
        exact absurd (by simp [hValue]) h.quote
      · rfl

theorem groups_body (hKeyed : Keyed item) (h : Plain item) :
    groups false (item.body ++ rest) = (groups false rest).modifyHead (item.body ++ ·) := by
  have hEquals : groups false ('=' :: (item.valueText ++ rest)) =
      (groups false (item.valueText ++ rest)).modifyHead ('=' :: ·) :=
    groups_other (by decide) (by decide)
  rw [Item.body, List.append_assoc, List.cons_append, groups_plain hKeyed, hEquals,
    groups_valueText h, List.modifyHead_modifyHead, List.modifyHead_modifyHead]
  simp [Function.comp_def]

theorem pieces_write {items : List Item} {trail : List Char} (hWritten : Written items trail)
    (hKeyed : ∀ item ∈ items, Keyed item) (h : ∀ item ∈ items, Plain item) :
    pieces (write items trail) = items.map Item.body := by
  induction items with
  | nil =>
      have hTrail := @pieces_blanks [] trail hWritten.blank
      rw [List.append_nil] at hTrail
      exact hTrail
  | cons item items ih =>
      have hText : write (item :: items) trail = item.gap ++ (item.body ++ write items trail) := by
        simp [write_cons, Item.text, Item.body]
      have hBody : item.body ≠ [] := by simp [Item.body]
      rw [hText, pieces_blanks (hWritten.wellFormed item (by simp)).gap,
        pieces_cons hBody (groups_body (hKeyed item (by simp)) (h item (by simp)))
          (head_write hWritten.rest.wellFormed hWritten.parted hWritten.blank),
        ih hWritten.rest (fun item hMem => hKeyed item (by simp [hMem]))
          (fun item hMem => h item (by simp [hMem]))]
      rfl

theorem even_write {items : List Item} {trail : List Char} (hWritten : Written items trail)
    (hKeyed : ∀ item ∈ items, Keyed item) (h : ∀ item ∈ items, Plain item) :
    (write items trail).count '\'' % 2 = 0 := by
  have hBlanks : ∀ blanks : List Char, (∀ c ∈ blanks, isBlank c) → blanks.count '\'' = 0 := by
    intro blanks hBlanks
    exact List.count_eq_zero.mpr fun hMem => absurd (hBlanks _ hMem) (by decide)
  induction items with
  | nil => simp [write, hBlanks trail hWritten.blank]
  | cons item items ih =>
      have hItems := ih hWritten.rest (fun item hMem => hKeyed item (by simp [hMem]))
        fun item hMem => h item (by simp [hMem])
      have hPlain := h item (by simp)
      have hGap := hBlanks item.gap (hWritten.wellFormed item (by simp)).gap
      have hName : item.name.count '\'' = 0 :=
        List.count_eq_zero.mpr fun hMem => (hKeyed item (by simp) _ hMem).2 rfl
      have hValue : item.value.count '\'' = 0 := List.count_eq_zero.mpr hPlain.quote
      have hText : item.valueText.count '\'' % 2 = 0 := by
        rw [Item.valueText, escape_eq hPlain.quote hPlain.slash]
        cases item.quoted <;> simp [hValue]
      simp only [write, List.flatMap_cons, Item.text, Item.body, List.count_append,
        List.count_cons] at hItems ⊢
      simp [hGap, hName]
      omega

/-- Pairs whose values are plain come back as they were. -/
theorem keyValuePairs_write {items : List Item} {trail : List Char}
    (hWritten : Written items trail) (hKeyed : ∀ item ∈ items, Keyed item)
    (h : ∀ item ∈ items, Plain item) :
    keyValuePairs (write items trail) = .ok (items.map Item.pair) := by
  have hEven := even_write hWritten hKeyed h
  rw [keyValuePairs_eq (by omega), pieces_write hWritten hKeyed h]
  apply Except.mapM_of_ok
  rw [List.forall₂_map_left_iff, List.forall₂_map_right_iff, List.forall₂_same]
  intro item hMem
  have hName : '=' ∉ item.name := fun hEquals =>
    ((hWritten.wellFormed item hMem).name.2 '=' hEquals).1 rfl
  rw [Item.body, splitToken_append hName, unquote_valueText (h item hMem)]
  rfl

end Items

section Counting

theorem groups_ne_nil (quoted : Bool) (text : List Char) : groups quoted text ≠ [] := by
  induction text generalizing quoted with
  | nil => simp [groups]
  | cons c text ih =>
      rw [groups]
      split
      · simp
      · exact fun hNil => ih _ (List.modifyHead_eq_nil_iff.mp hNil)

theorem flatten_modifyHead {l : List (List Char)} (piece : List Char) (hSome : l ≠ []) :
    (l.modifyHead (piece ++ ·)).flatten = piece ++ l.flatten := by
  cases l with
  | nil => exact absurd rfl hSome
  | cons group l => simp

variable {p : Char → Bool}

/-- What is not a blank is in one of the pieces. -/
theorem countP_pieces (hBlank : ∀ c, isWhitespace c → p c = false) (text : List Char) :
    (pieces text).flatten.countP p = text.countP p := by
  rw [pieces, List.flatten_filter_ne_nil]
  suffices hGroups : ∀ quoted, (groups quoted text).flatten.countP p = text.countP p from
    hGroups false
  induction text with
  | nil => exact fun _ => rfl
  | cons c text ih =>
      intro quoted
      rw [groups]
      split
      · rename_i hSpace
        have hNot := hBlank c (Bool.and_eq_true_iff.mp hSpace).1
        simp [ih, hNot]
      · have hFlatten : ∀ quoted, ((groups quoted text).modifyHead (c :: ·)).flatten =
            c :: (groups quoted text).flatten :=
          fun quoted => flatten_modifyHead [c] (groups_ne_nil quoted text)
        rw [hFlatten, List.countP_cons, List.countP_cons, ih]

theorem countP_unquote (hQuote : p '\'' = false) (value : List Char) :
    (unquote value).countP p = value.countP p := by
  unfold unquote
  split
  · rename_i text
    split
    · rename_i hLast
      have hText := List.dropLast_append_getLast? '\'' hLast
      conv => rhs; rw [← hText]
      simp [hQuote]
    · rfl
  · rfl

/-- The characters of the pieces are those of the names and of the values. -/
theorem countP_pairs (hQuote : p '\'' = false) (hEquals : p '=' = false)
    {tokens : List (List Char)} {pairs : List (List Char × List Char)}
    (h : List.Forall₂ (fun token pair => splitToken token = .ok pair) tokens pairs) :
    tokens.flatten.countP p =
      (pairs.map fun pair => pair.1.countP p + pair.2.countP p).sum := by
  induction h with
  | nil => rfl
  | cons hFirst _ ih =>
      obtain ⟨text, rfl, hValue⟩ := splitToken_ok hFirst
      have hCount : text.countP p = (unquote text).countP p := (countP_unquote hQuote text).symm
      simp [ih, hValue, hEquals, hCount, Nat.add_assoc]

/-- The characters that are written behind a backslash. -/
def isEscaped (c : Char) : Bool := c = '\'' || c = '\\'

theorem countP_escape (value : List Char) :
    (escape value).countP (· = '\\') =
      value.countP (· = '\\') + value.countP isEscaped := by
  induction value with
  | nil => rfl
  | cons c value ih =>
      rw [escape_cons, List.countP_append, ih, List.countP_cons, List.countP_cons]
      by_cases h : c = '\'' ∨ c = '\\'
      · rcases h with rfl | rfl <;> simp [isEscaped] <;> omega
      · have hNeither := not_or.mp h
        simp [isEscaped, hNeither.1, hNeither.2]

theorem countP_write {items : List Item} {trail : List Char} (hWritten : Written items trail) :
    (write items trail).countP (· = '\\') =
      (items.map fun item => item.name.countP (· = '\\') +
        (item.value.countP (· = '\\') + item.value.countP isEscaped)).sum := by
  have hBlanks : ∀ blanks : List Char, (∀ c ∈ blanks, isBlank c) →
      blanks.countP (· = '\\') = 0 := by
    intro blanks hBlanks
    refine List.countP_eq_zero.mpr fun c hMem hSlash => ?_
    have hBlank := hBlanks c hMem
    rw [of_decide_eq_true hSlash] at hBlank
    exact absurd hBlank (by decide)
  induction items with
  | nil => simp [write, hBlanks trail hWritten.blank]
  | cons item items ih =>
      have hGap := hBlanks item.gap (hWritten.wellFormed item (by simp)).gap
      have hValue : item.valueText.countP (· = '\\') = (escape item.value).countP (· = '\\') := by
        rw [Item.valueText]
        cases item.quoted <;> simp
      rw [write_cons, List.countP_append, ih hWritten.rest]
      simp only [Item.text, Item.body, List.countP_append, List.countP_cons, hGap, hValue,
        countP_escape, List.map_cons, List.sum_cons]
      simp

/-- A sum that is not changed by what is added to its members has added nothing. -/
theorem eq_zero_of_sum {α : Type} {l : List α} {f g : α → Nat}
    (h : (l.map fun a => f a + g a).sum = (l.map f).sum) : ∀ a ∈ l, g a = 0 := by
  induction l with
  | nil => exact nofun
  | cons a l ih =>
      simp only [List.map_cons, List.sum_cons] at h
      have hAtLeast : ∀ l : List α, (l.map f).sum ≤ (l.map fun a => f a + g a).sum := by
        intro l
        induction l with
        | nil => exact Nat.le_refl 0
        | cons a l ih =>
            simp only [List.map_cons, List.sum_cons]
            omega
      have hLess := hAtLeast l
      have hRest := ih (by omega)
      intro b hMem
      rcases List.mem_cons.mp hMem with rfl | hMem
      · omega
      · exact hRest b hMem

/-- If the pairs come back, nothing in them was escaped. -/
theorem not_escaped {items : List Item} {trail : List Char} (hWritten : Written items trail)
    (h : keyValuePairs (write items trail) = .ok (items.map Item.pair)) :
    ∀ item ∈ items, '\'' ∉ item.value ∧ '\\' ∉ item.value := by
  have hSlash : ∀ c, isWhitespace c → decide (c = '\\') = false := by
    intro c hSpace
    refine decide_eq_false fun hEq => ?_
    rw [hEq] at hSpace
    exact absurd hSpace (by decide)
  have hPairs := Except.mapM_ok ((keyValuePairs_eq (even_of_keyValuePairs h)).symm.trans h)
  have hCount := countP_pairs (p := (· = '\\')) (by decide) (by decide) hPairs
  rw [countP_pieces hSlash, countP_write hWritten, List.map_map] at hCount
  have hSum : (items.map fun item => item.name.countP (· = '\\') +
      item.value.countP (· = '\\') + item.value.countP isEscaped).sum =
      (items.map fun item =>
        item.name.countP (· = '\\') + item.value.countP (· = '\\')).sum := by
    simpa [Nat.add_assoc, Function.comp_def, Item.pair] using hCount
  intro item hMem
  have hNone := List.countP_eq_zero.mp (eq_zero_of_sum hSum item hMem)
  exact ⟨fun hQuote => hNone _ hQuote (by decide), fun hSlash => hNone _ hSlash (by decide)⟩

end Counting

section Blanks

variable {rest : List Char}

theorem flatten_blanks {blanks : List Char} (h : ∀ c ∈ blanks, isBlank c) :
    (groups false (blanks ++ rest)).flatten = (groups false rest).flatten := by
  induction blanks with
  | nil => rfl
  | cons c blanks ih =>
      rw [List.cons_append, groups_blank (isWhitespace_of_isBlank (h c (by simp))),
        List.flatten_cons, List.nil_append, ih fun d hMem => h d (by simp [hMem])]

/-- Outside of quotes no blank is kept. -/
theorem countP_bare {value : List Char} (hQuote : '\'' ∉ value) :
    (groups false (value ++ rest)).flatten.countP isWhitespace =
      (groups false rest).flatten.countP isWhitespace := by
  induction value with
  | nil => rfl
  | cons c value ih =>
      have hRest := ih fun hMem => hQuote (by simp [hMem])
      have hNot : c ≠ '\'' := fun hEq => hQuote (by simp [hEq])
      cases hSpace : isWhitespace c with
      | true => simp [groups_blank hSpace, hRest]
      | false =>
          have hFlatten := flatten_modifyHead [c] (groups_ne_nil false (value ++ rest))
          simp only [List.singleton_append] at hFlatten
          rw [List.cons_append, groups_other hNot (by simp [hSpace]), hFlatten,
            List.countP_cons_of_neg (by simp [hSpace]), hRest]

theorem countP_text {item : Item} (hWellFormed : item.WellFormed) (hKeyed : Keyed item)
    (hQuote : '\'' ∉ item.value) (hSlash : '\\' ∉ item.value) :
    (groups false (item.text ++ rest)).flatten.countP isWhitespace =
      (if item.quoted then item.value.countP isWhitespace else 0) +
        (groups false rest).flatten.countP isWhitespace := by
  have hName : item.name.countP isWhitespace = 0 :=
    List.countP_eq_zero.mpr fun c hMem => (hKeyed c hMem).1
  have hKey : ∀ c ∈ item.name ++ ['='], ¬ isWhitespace c ∧ c ≠ '\'' := by
    intro c hMem
    rcases List.mem_append.mp hMem with hMem | hMem
    · exact hKeyed c hMem
    · rw [List.mem_singleton.mp hMem]
      decide
  have hText : item.text ++ rest =
      item.gap ++ ((item.name ++ ['=']) ++ (item.valueText ++ rest)) := by
    simp [Item.text, Item.body]
  have hEquals : isWhitespace '=' = false := by decide
  have hQuoteBlank : isWhitespace '\'' = false := by decide
  rw [hText, flatten_blanks hWellFormed.gap, groups_plain hKey,
    flatten_modifyHead _ (groups_ne_nil _ _), List.countP_append, List.countP_append, hName,
    Item.valueText, escape_eq hQuote hSlash]
  cases item.quoted with
  | true =>
      have hBetween := @groups_between rest item.value hQuote
      simp only [if_true, List.append_assoc, List.cons_append, List.nil_append] at hBetween ⊢
      rw [hBetween]
      have hFlatten := flatten_modifyHead ('\'' :: (item.value ++ ['\'']))
        (groups_ne_nil false rest)
      simp only [List.append_assoc, List.cons_append, List.nil_append] at hFlatten
      rw [hFlatten]
      simp [hEquals, hQuoteBlank]
  | false =>
      rw [if_neg Bool.false_ne_true, if_neg Bool.false_ne_true, countP_bare hQuote]
      simp [hEquals]

theorem countP_blanks {items : List Item} {trail : List Char} (hWritten : Written items trail)
    (hKeyed : ∀ item ∈ items, Keyed item)
    (hPlain : ∀ item ∈ items, '\'' ∉ item.value ∧ '\\' ∉ item.value) :
    (groups false (write items trail)).flatten.countP isWhitespace =
      (items.map fun item => if item.quoted then item.value.countP isWhitespace else 0).sum := by
  induction items with
  | nil =>
      have hTrail := @flatten_blanks [] trail hWritten.blank
      rw [List.append_nil] at hTrail
      simp [write, hTrail, groups]
  | cons item items ih =>
      obtain ⟨hQuote, hSlash⟩ := hPlain item (by simp)
      rw [write_cons, countP_text (hWritten.wellFormed item (by simp)) (hKeyed item (by simp))
        hQuote hSlash, ih hWritten.rest (fun item hMem => hKeyed item (by simp [hMem]))
          (fun item hMem => hPlain item (by simp [hMem]))]
      rfl

/-- If the pairs come back, the values without quotes have no blanks of other scripts. -/
theorem plain_of_keyValuePairs {items : List Item} {trail : List Char}
    (hWritten : Written items trail) (hKeyed : ∀ item ∈ items, Keyed item)
    (h : keyValuePairs (write items trail) = .ok (items.map Item.pair)) :
    ∀ item ∈ items, Plain item := by
  have hPlain := not_escaped hWritten h
  have hPairs := Except.mapM_ok ((keyValuePairs_eq (even_of_keyValuePairs h)).symm.trans h)
  have hCount := countP_pairs (p := isWhitespace) (by decide) (by decide) hPairs
  rw [pieces, List.flatten_filter_ne_nil, countP_blanks hWritten hKeyed hPlain,
    List.map_map] at hCount
  have hSum : (items.map fun item =>
      (if item.quoted then item.value.countP isWhitespace else 0) +
        (item.name.countP isWhitespace +
          if item.quoted then 0 else item.value.countP isWhitespace)).sum =
      (items.map fun item => if item.quoted then item.value.countP isWhitespace else 0).sum := by
    rw [hCount]
    refine congrArg (fun l => List.sum l) (List.map_congr_left fun item _ => ?_)
    simp only [Function.comp_apply, Item.pair]
    cases item.quoted <;> simp [Nat.add_comm]
  intro item hMem
  refine ⟨(hPlain item hMem).1, (hPlain item hMem).2, fun hBare c hChar => ?_⟩
  have hNone := eq_zero_of_sum hSum item hMem
  simp only [hBare] at hNone
  have hValue : item.value.countP isWhitespace = 0 := by
    simpa using (Nat.add_eq_zero_iff.mp hNone).2
  exact List.countP_eq_zero.mp hValue c hChar

end Blanks

/-- Pairs come back exactly if their values are plain, and a text that is not well formed is
rejected exactly if a quote is not closed or a piece has no `=`. -/
theorem keyValuePairs_iff (items : List Item) (trail text : List Char) :
    (Written items trail → (∀ item ∈ items, Keyed item) →
      (keyValuePairs (write items trail) = .ok (items.map Item.pair) ↔
        ∀ item ∈ items, Plain item)) ∧
    (parse text = none →
      ((∃ e, keyValuePairs text = .error e) ↔
        text.count '\'' % 2 = 1 ∨ ∃ piece ∈ pieces text, '=' ∉ piece)) :=
  ⟨fun hWritten hKeyed => ⟨plain_of_keyValuePairs hWritten hKeyed,
    keyValuePairs_write hWritten hKeyed⟩, fun _ => keyValuePairs_error⟩

/-- A value with a space comes back, and a key without a value is rejected. -/
theorem keyValuePairs_hosts :
    keyValuePairs (write [⟨[], "host".toList, "my host".toList, true⟩,
      ⟨[' '], "user".toList, "u".toList, false⟩] []) =
        .ok [("host".toList, "my host".toList), ("user".toList, "u".toList)] ∧
      ∃ e, keyValuePairs "host".toList = .error e := by
  constructor
  · refine ((keyValuePairs_iff [⟨[], "host".toList, "my host".toList, true⟩,
      ⟨[' '], "user".toList, "u".toList, false⟩] [] []).1 ⟨?_, by decide, nofun⟩ ?_).mpr ?_
    · intro item hMem
      rcases List.mem_pair.mp hMem with rfl | rfl
      · exact ⟨nofun, ⟨by decide, List.all_iff_forall_prop.mp rfl⟩, nofun⟩
      · exact ⟨List.all_iff_forall_prop.mp rfl, ⟨by decide, List.all_iff_forall_prop.mp rfl⟩,
          fun _ => ⟨by decide, List.all_iff_forall_prop.mp rfl⟩⟩
    · intro item hMem
      rcases List.mem_pair.mp hMem with rfl | rfl <;> exact List.all_iff_forall_prop.mp rfl
    · intro item hMem
      rcases List.mem_pair.mp hMem with rfl | rfl
      · exact ⟨by decide, by decide, nofun⟩
      · exact ⟨by decide, by decide, fun _ => List.all_iff_forall_prop.mp rfl⟩
  · exact ((keyValuePairs_iff [] [] "host".toList).2 (by decide)).mpr (.inr (by decide))

/-- A quote in a value closes the quotes around it for the scanner. -/
theorem not_keyValuePairs :
    ¬ ((∀ (items : List Item) (trail : List Char), Written items trail →
        (∀ item ∈ items, Keyed item) →
          keyValuePairs (write items trail) = .ok (items.map Item.pair)) ∧
      ∀ text, parse text = none → ∃ e, keyValuePairs text = .error e) := by
  intro hAll
  have hWritten : Written [⟨[], "password".toList, "o'brien".toList, true⟩] [] := by
    refine ⟨fun item hMem => ?_, nofun, nofun⟩
    rw [List.mem_singleton.mp hMem]
    exact ⟨nofun, ⟨by decide, List.all_iff_forall_prop.mp rfl⟩, nofun⟩
  have hPairs := hAll.1 _ _ hWritten fun item hMem => by
    rw [List.mem_singleton.mp hMem]
    exact List.all_iff_forall_prop.mp rfl
  revert hPairs
  decide

end PgClient
