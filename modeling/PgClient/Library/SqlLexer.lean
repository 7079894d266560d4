import Mathlib.Algebra.GroupWithZero.Nat
import Mathlib.Data.List.DropRight
import Mathlib.Data.List.Infix
import Mathlib.Data.List.TakeWhile

/-!
The tokens of SQL text as PostgreSQL's scanner takes them: quoted identifiers, string constants
of both kinds, comments, operators and the rest.
-/

namespace SqlLexer

/-- `string` is a constant in which a quote is doubled and nothing else is special;
`escapeString` is one with backslash escapes, as it is written. Numbers, parameters, bit strings
and the constants and identifiers of other kinds are all `other`. -/
inductive Token where
  | word (name : List Char)
  | ident (name : List Char)
  | string (value : List Char)
  | escapeString (body : List Char)
  | symbol (text : List Char)
  | other
deriving DecidableEq, Repr

def isSpace (c : Char) : Bool := [' ', '\t', '\n', '\r', '\x0b', '\x0c'].contains c

def isNewline (c : Char) : Bool := c = '\n' || c = '\r'

def isIdentStart (c : Char) : Bool := c.isAlpha || c = '_' || 128 ≤ c.toNat

def isIdentCont (c : Char) : Bool := isIdentStart c || c.isDigit || c = '$'

def isOperator (c : Char) : Bool := "~!@#^&|`?+-*/%<>=".toList.contains c

/-- Identifiers are cut to what fits in so many bytes. -/
def clip : Nat → List Char → List Char
  | _, [] => []
  | room, c :: cs => if c.utf8Size ≤ room then c :: clip (room - c.utf8Size) cs else []

/-- Up to the closing quote; a doubled quote stands for itself. -/
def scanQuoted (quote : Char) : List Char → Option (List Char × List Char)
  | [] => none
  | [c] => if c = quote then some ([], []) else none
  | c :: d :: cs =>
      if c = quote then
        if d = quote then (scanQuoted quote cs).map fun (value, rest) => (quote :: value, rest)
        else some ([], d :: cs)
      else (scanQuoted quote (d :: cs)).map fun (value, rest) => (c :: value, rest)

/-- Up to the closing quote, where a backslash takes the next character with it. -/
def scanEscaped : List Char → Option (List Char × List Char)
  | [] => none
  | [c] => if c = '\'' then some ([], []) else none
  | c :: d :: cs =>
      if c = '\\' then (scanEscaped cs).map fun (body, rest) => (c :: d :: body, rest)
      else if c = '\'' then
        if d = '\'' then (scanEscaped cs).map fun (body, rest) => (c :: d :: body, rest)
        else some ([], d :: cs)
      else (scanEscaped (d :: cs)).map fun (body, rest) => (c :: body, rest)

/-- The text behind another opening quote, if the two quotes are parted by blanks and line
comments with a line break among them. -/
def continued (broken comment : Bool) : List Char → Option (List Char)
  | [] => none
  | c :: cs =>
      if comment then continued (broken || isNewline c) (!isNewline c) cs
      else if c = '\'' then if broken then some cs else none
      else if isSpace c then continued (broken || isNewline c) false cs
      else if c = '-' && cs.head? = some '-' then continued broken true cs
      else none

/-- A constant with all of its continuations, of which there are no more than characters. -/
def scanConstant (segment : List Char → Option (List Char × List Char)) :
    Nat → List Char → Option (List Char × List Char)
  | 0, text => segment text
  | fuel + 1, text =>
      match segment text with
      | none => none
      | some (value, rest) =>
          match continued false false rest with
          | none => some (value, rest)
          | some next =>
              (scanConstant segment fuel next).map fun (more, rest) => (value ++ more, rest)

/-- The text behind a closing delimiter. -/
def scanUntil (delimiter : List Char) : List Char → Option (List Char)
  | [] => none
  | c :: cs =>
      if delimiter.isPrefixOf (c :: cs) then some ((c :: cs).drop delimiter.length)
      else scanUntil delimiter cs

/-- What follows a dollar sign: a dollar-quoted constant, a parameter, or something else. -/
def scanDollar (text : List Char) : Option (Token × List Char) :=
  let tag := text.takeWhile fun c => isIdentCont c && c ≠ '$'
  match text.dropWhile fun c => isIdentCont c && c ≠ '$' with
  | '$' :: rest =>
      if tag.head?.all isIdentStart then
        (scanUntil ('$' :: tag ++ ['$']) rest).map fun rest => (.other, rest)
      else some (.other, text.dropWhile Char.isDigit)
  | _ =>
      if text.head?.any Char.isDigit then some (.other, text.dropWhile Char.isDigit)
      else some (.symbol ['$'], text)

/-- The text behind a comment, in which comments nest. -/
def skipComment : Nat → List Char → Option (List Char)
  | _, [] => none
  | _, [_] => none
  | depth, c :: d :: cs =>
      if c = '*' ∧ d = '/' then if depth = 0 then some cs else skipComment (depth - 1) cs
      else if c = '/' ∧ d = '*' then skipComment (depth + 1) cs
      else skipComment depth (d :: cs)

def skipFraction : List Char → List Char
  | '.' :: '.' :: cs => '.' :: '.' :: cs
  | '.' :: cs => cs.dropWhile Char.isDigit
  | cs => cs

def skipExponent : List Char → List Char
  | e :: sign :: digit :: cs =>
      if (e = 'e' || e = 'E') && (sign = '+' || sign = '-') && digit.isDigit then
        cs.dropWhile Char.isDigit
      else if (e = 'e' || e = 'E') && sign.isDigit then
        (digit :: cs).dropWhile Char.isDigit
      else e :: sign :: digit :: cs
  | [e, digit] => if (e = 'e' || e = 'E') && digit.isDigit then [] else [e, digit]
  | cs => cs

/-- The text behind a number, which no letter may follow. -/
def endNumber (rest : List Char) : Option (List Char) :=
  if rest.head?.any isIdentStart then none else some rest

/-- The operator characters up to the start of a comment. -/
def operatorRun : List Char → List Char
  | [] => []
  | c :: cs =>
      if !isOperator c then []
      else if (c = '-' && cs.head? = some '-') || (c = '/' && cs.head? = some '*') then []
      else c :: operatorRun cs

/-- An operator of more than one character ends in a sign only if one of the characters that
SQL does not use is in it. -/
def cutSigns (c : Char) (more : List Char) : List Char :=
  if (c :: more).any "~!@#^&|`?%".toList.contains then more
  else more.rdropWhile fun c => c = '+' || c = '-'

/-- A word that starts with a character, or the constant or identifier whose prefix it is. -/
def scanWord (conforming : Bool) (c : Char) (cs : List Char) : Option (Token × List Char) :=
  match cs with
  | '\'' :: text =>
      if c = 'e' || c = 'E' then
        (scanConstant scanEscaped text.length text).map fun (body, rest) =>
          (.escapeString body, rest)
      else if c = 'b' || c = 'B' || c = 'x' || c = 'X' then
        (scanConstant (scanQuoted '\'') text.length text).map fun (_, rest) => (.other, rest)
      else some (.word [c.toLower], '\'' :: text)
  | '&' :: quote :: text =>
      if (c = 'u' || c = 'U') && (quote = '"' || quote = '\'' && conforming) then
        (scanConstant (scanQuoted quote) text.length text).map fun (_, rest) => (.other, rest)
      else if (c = 'u' || c = 'U') && quote = '\'' then none
      else some (.word [c.toLower], '&' :: quote :: text)
  | cs =>
      some (.word (clip 63 ((c :: cs.takeWhile isIdentCont).map Char.toLower)),
        cs.dropWhile isIdentCont)

/-- A constant in single quotes, behind the first of them. -/
def scanLiteral (conforming : Bool) (cs : List Char) : Option (Token × List Char) :=
  if conforming then
    (scanConstant (scanQuoted '\'') cs.length cs).map fun (value, rest) => (.string value, rest)
  else
    (scanConstant scanEscaped cs.length cs).map fun (body, rest) => (.escapeString body, rest)

/-- An identifier in double quotes, which may not be empty. -/
def scanIdent (cs : List Char) : Option (Token × List Char) :=
  match scanQuoted '"' cs with
  | none => none
  | some (name, rest) => if name = [] then none else some (.ident (clip 63 name), rest)

/-- A number, an operator or a character that is a token by itself. -/
def scanSymbol (c : Char) (cs : List Char) : Option (Token × List Char) :=
  if c.isDigit then
    (endNumber (skipExponent (skipFraction (cs.dropWhile Char.isDigit)))).map fun rest =>
      (.other, rest)
  else if c = '.' && cs.head?.any Char.isDigit then
    (endNumber (skipExponent (cs.dropWhile Char.isDigit))).map fun rest => (.other, rest)
  else if isOperator c then
    some (.symbol (c :: cutSigns c (operatorRun cs)), cs.drop (cutSigns c (operatorRun cs)).length)
  else if c = ':' && (cs.head? = some ':' || cs.head? = some '=') ||
      c = '.' && cs.head? = some '.' then
    some (.symbol (c :: cs.take 1), cs.drop 1)
  else some (.symbol [c], cs)

def scanToken (conforming : Bool) (c : Char) (cs : List Char) : Option (Token × List Char) :=
  if c = '\'' then scanLiteral conforming cs
  else if c = '"' then scanIdent cs
  else if c = '$' then scanDollar cs
  else if isIdentStart c then scanWord conforming c cs
  else scanSymbol c cs

/-- What the next characters are: a token, or blanks and comments. -/
def lexToken (conforming : Bool) : List Char → Option (Option Token × List Char)
  | [] => none
  | c :: cs =>
      if isSpace c then some (none, cs)
      else if c = '-' && cs.head? = some '-' then
        some (none, cs.dropWhile fun c => !isNewline c)
      else if c = '/' && cs.head? = some '*' then
        (skipComment 0 cs.tail).map fun rest => (none, rest)
      else (scanToken conforming c cs).map fun (token, rest) => (some token, rest)

def lexLoop (conforming : Bool) : Nat → List Char → Option (List Token)
  | _, [] => some []
  | 0, _ :: _ => none
  | fuel + 1, c :: cs => do
      let (token, rest) ← lexToken conforming (c :: cs)
      let tokens ← lexLoop conforming fuel rest
      return token.toList ++ tokens

/-- The tokens of a text, whether or not `standard_conforming_strings` is on. -/
def lex (conforming : Bool) (text : List Char) : Option (List Token) :=
  lexLoop conforming text.length text

section Rest

variable {text rest : List Char}

theorem suffix_cons {c : Char} {cs : List Char} (h : rest <:+ cs) : rest <:+ c :: cs :=
  h.trans (List.suffix_cons c cs)

theorem scanQuoted_suffix {quote : Char} {value : List Char}
    (h : scanQuoted quote text = some (value, rest)) : rest <:+ text := by
  fun_induction scanQuoted quote text generalizing value with
  | case1 => cases h
  | case2 =>
      cases h
      exact List.nil_suffix
  | case3 c hQuote => cases h
  | case4 cs ih =>
      obtain ⟨_, hRest, hPair⟩ := Option.map_eq_some_iff.mp h
      cases hPair
      exact suffix_cons (suffix_cons (ih hRest))
  | case5 d cs hDouble =>
      cases h
      exact List.suffix_cons _ _
  | case6 c d cs hQuote ih =>
      obtain ⟨_, hRest, hPair⟩ := Option.map_eq_some_iff.mp h
      cases hPair
      exact suffix_cons (ih hRest)

theorem scanEscaped_suffix {body : List Char} (h : scanEscaped text = some (body, rest)) :
    rest <:+ text := by
  fun_induction scanEscaped text generalizing body with
  | case1 => cases h
  | case2 =>
      cases h
      exact List.nil_suffix
  | case3 c hQuote => cases h
  | case4 d cs ih =>
      obtain ⟨_, hRest, hPair⟩ := Option.map_eq_some_iff.mp h
      cases hPair
      exact suffix_cons (suffix_cons (ih hRest))
  | case5 cs _ ih =>
      obtain ⟨_, hRest, hPair⟩ := Option.map_eq_some_iff.mp h
      cases hPair
      exact suffix_cons (suffix_cons (ih hRest))
  | case6 d cs _ hDouble =>
      cases h
      exact List.suffix_cons _ _
  | case7 c d cs hSlash hQuote ih =>
      obtain ⟨_, hRest, hPair⟩ := Option.map_eq_some_iff.mp h
      cases hPair
      exact suffix_cons (ih hRest)

theorem continued_suffix {broken comment : Bool} (h : continued broken comment text = some rest) :
    rest <:+ text := by
  induction text generalizing broken comment with
  | nil => cases h
  | cons c cs ih =>
      rw [continued] at h
      split at h
      · exact suffix_cons (ih h)
      · split at h
        · split at h
          · cases h
            exact List.suffix_cons _ _
          · cases h
        · split at h
          · exact suffix_cons (ih h)
          · split at h
            · exact suffix_cons (ih h)
            · cases h

theorem scanConstant_suffix {segment : List Char → Option (List Char × List Char)}
    (hSegment : ∀ {text value rest}, segment text = some (value, rest) → rest <:+ text)
    {fuel : Nat} {value : List Char} (h : scanConstant segment fuel text = some (value, rest)) :
    rest <:+ text := by
  induction fuel generalizing text value with
  | zero => exact hSegment h
  | succ fuel ih =>
      rw [scanConstant] at h
      split at h
      · cases h
      · rename_i first after hFirst
        split at h
        · cases h
          exact hSegment hFirst
        · rename_i next hNext
          obtain ⟨_, hMore, hPair⟩ := Option.map_eq_some_iff.mp h
          cases hPair
          exact ((ih hMore).trans (continued_suffix hNext)).trans (hSegment hFirst)

theorem scanUntil_suffix {delimiter : List Char} (h : scanUntil delimiter text = some rest) :
    rest <:+ text := by
  induction text with
  | nil => cases h
  | cons c cs ih =>
      rw [scanUntil] at h
      split at h
      · cases h
        exact List.drop_suffix _ _
      · exact suffix_cons (ih h)

theorem scanDollar_suffix {token : Token} (h : scanDollar text = some (token, rest)) :
    rest <:+ text := by
  have hDigits : text.dropWhile Char.isDigit <:+ text := List.dropWhile_suffix _
  simp only [scanDollar] at h
  split at h
  · rename_i after hTag
    have hAfter : after <:+ text :=
      (List.suffix_cons '$' after).trans (hTag ▸ List.dropWhile_suffix _)
    split at h
    · obtain ⟨_, hRest, hPair⟩ := Option.map_eq_some_iff.mp h
      cases hPair
      exact (scanUntil_suffix hRest).trans hAfter
    · cases h
      exact hDigits
  · split at h
    · cases h
      exact hDigits
    · cases h
      exact List.suffix_refl _

theorem skipComment_suffix {depth : Nat} (h : skipComment depth text = some rest) :
    rest <:+ text := by
  fun_induction skipComment depth text with
  | case1 | case2 => cases h
  | case3 c d cs _ =>
      cases h
      exact suffix_cons (List.suffix_cons _ _)
  | case4 depth c d cs _ _ ih => exact suffix_cons (suffix_cons (ih h))
  | case5 depth c d cs _ _ ih => exact suffix_cons (suffix_cons (ih h))
  | case6 depth c d cs _ _ ih => exact suffix_cons (ih h)

theorem skipFraction_suffix (text : List Char) : skipFraction text <:+ text := by
  unfold skipFraction
  split
  · exact List.suffix_refl _
  · exact suffix_cons (List.dropWhile_suffix _)
  · exact List.suffix_refl _

theorem skipExponent_suffix (text : List Char) : skipExponent text <:+ text := by
  unfold skipExponent
  split
  · split
    · exact suffix_cons (suffix_cons (suffix_cons (List.dropWhile_suffix _)))
    · split
      · exact suffix_cons (suffix_cons (List.dropWhile_suffix _))
      · exact List.suffix_refl _
  · split
    · exact List.nil_suffix
    · exact List.suffix_refl _
  · exact List.suffix_refl _

theorem endNumber_suffix (h : endNumber text = some rest) : rest <:+ text := by
  rw [endNumber] at h
  split at h
  · cases h
  · cases h
    exact List.suffix_refl _

theorem scanWord_suffix {conforming : Bool} {c : Char} {token : Token}
    (h : scanWord conforming c text = some (token, rest)) : rest <:+ text := by
  unfold scanWord at h
  split at h
  · rename_i text
    split at h
    · obtain ⟨_, hRest, hPair⟩ := Option.map_eq_some_iff.mp h
      cases hPair
      exact suffix_cons (scanConstant_suffix scanEscaped_suffix hRest)
    · split at h
      · obtain ⟨_, hRest, hPair⟩ := Option.map_eq_some_iff.mp h
        cases hPair
        exact suffix_cons (scanConstant_suffix scanQuoted_suffix hRest)
      · cases h
        exact List.suffix_refl _
  · split at h
    · obtain ⟨_, hRest, hPair⟩ := Option.map_eq_some_iff.mp h
      cases hPair
      exact suffix_cons (suffix_cons (scanConstant_suffix scanQuoted_suffix hRest))
    · split at h
      · cases h
      · cases h
        exact List.suffix_refl _
  · cases h
    exact List.dropWhile_suffix _

theorem scanLiteral_suffix {conforming : Bool} {token : Token}
    (h : scanLiteral conforming text = some (token, rest)) : rest <:+ text := by
  rw [scanLiteral] at h
  split at h
  · obtain ⟨_, hRest, hPair⟩ := Option.map_eq_some_iff.mp h
    cases hPair
    exact scanConstant_suffix scanQuoted_suffix hRest
  · obtain ⟨_, hRest, hPair⟩ := Option.map_eq_some_iff.mp h
    cases hPair
    exact scanConstant_suffix scanEscaped_suffix hRest

theorem scanIdent_suffix {token : Token} (h : scanIdent text = some (token, rest)) :
    rest <:+ text := by
  rw [scanIdent] at h
  split at h
  · cases h
  · rename_i name after hName
    split at h
    · cases h
    · cases h
      exact scanQuoted_suffix hName

theorem scanSymbol_suffix {c : Char} {token : Token}
    (h : scanSymbol c text = some (token, rest)) : rest <:+ text := by
  rw [scanSymbol] at h
  split at h
  · obtain ⟨_, hRest, hPair⟩ := Option.map_eq_some_iff.mp h
    cases hPair
    exact (endNumber_suffix hRest).trans ((skipExponent_suffix _).trans
      ((skipFraction_suffix _).trans (List.dropWhile_suffix _)))
  · split at h
    · obtain ⟨_, hRest, hPair⟩ := Option.map_eq_some_iff.mp h
      cases hPair
      exact (endNumber_suffix hRest).trans
        ((skipExponent_suffix _).trans (List.dropWhile_suffix _))
    · split at h
      · cases h
        exact List.drop_suffix _ _
      · split at h
        · cases h
          exact List.drop_suffix _ _
        · cases h
          exact List.suffix_refl _

theorem scanToken_suffix {conforming : Bool} {c : Char} {token : Token}
    (h : scanToken conforming c text = some (token, rest)) : rest <:+ text := by
  rw [scanToken] at h
  split at h
  · exact scanLiteral_suffix h
  · split at h
    · exact scanIdent_suffix h
    · split at h
      · exact scanDollar_suffix h
      · split at h
        · exact scanWord_suffix h
        · exact scanSymbol_suffix h

/-- Every step takes a character, and the text behind it is left as it is. -/
theorem lexToken_suffix {conforming : Bool} {c : Char} {token : Option Token}
    (h : lexToken conforming (c :: text) = some (token, rest)) : rest <:+ text := by
  rw [lexToken] at h
  split at h
  · cases h
    exact List.suffix_refl _
  · split at h
    · cases h
      exact List.dropWhile_suffix _
    · split at h
      · obtain ⟨_, hRest, hPair⟩ := Option.map_eq_some_iff.mp h
        cases hPair
        exact (skipComment_suffix hRest).trans (List.tail_suffix _)
      · obtain ⟨_, hRest, hPair⟩ := Option.map_eq_some_iff.mp h
        cases hPair
        exact scanToken_suffix hRest

theorem lexLoop_fuel {conforming : Bool} {fuel : Nat} (h : text.length ≤ fuel) :
    lexLoop conforming fuel text = lex conforming text := by
  rw [lex]
  generalize hLength : text.length = n at h
  induction n using Nat.strong_induction_on generalizing text fuel with
  | _ n ih =>
      cases text with
      | nil =>
          rw [← hLength]
          cases fuel <;> rfl
      | cons c cs =>
          subst hLength
          obtain ⟨fuel, rfl⟩ := Nat.exists_eq_succ_of_ne_zero (Nat.ne_of_gt (Nat.zero_lt_of_lt h))
          simp only [List.length_cons, lexLoop]
          cases hToken : lexToken conforming (c :: cs) with
          | none => rfl
          | some pair =>
              obtain ⟨token, rest⟩ := pair
              have hShort := (lexToken_suffix hToken).length_le
              have hFuel := @ih rest.length (by simp; omega) rest fuel rfl
                (by simp at h; omega)
              have hLength := @ih rest.length (by simp; omega) rest cs.length rfl hShort
              simp only [Option.bind_eq_bind, Option.bind_some, hFuel, hLength]

/-- One step, and then the rest of the text. -/
theorem lex_of_token {conforming : Bool} {c : Char} {token : Option Token}
    (h : lexToken conforming (c :: text) = some (token, rest)) :
    lex conforming (c :: text) = (lex conforming rest).map (token.toList ++ ·) := by
  rw [lex, List.length_cons, lexLoop, h]
  simp only [Option.bind_eq_bind, Option.bind_some, lexLoop_fuel (lexToken_suffix h).length_le]
  cases lex conforming rest <;> rfl

/-- So many steps at the front of a text. -/
def lexSteps (conforming : Bool) : Nat → List Char → Option (List Token × List Char)
  | 0, text => some ([], text)
  | n + 1, text =>
      match lexToken conforming text with
      | none => none
      | some (token, rest) =>
          (lexSteps conforming n rest).map fun (tokens, rest) => (token.toList ++ tokens, rest)

theorem lex_of_steps {conforming : Bool} {tokens : List Token} (n : Nat)
    (h : lexSteps conforming n text = some (tokens, rest)) :
    lex conforming text = (lex conforming rest).map (tokens ++ ·) := by
  induction n generalizing text tokens with
  | zero =>
      cases h
      cases lex conforming rest <;> simp
  | succ n ih =>
      rw [lexSteps] at h
      split at h
      · cases h
      · rename_i token after hToken
        obtain ⟨⟨more, _⟩, hMore, hPair⟩ := Option.map_eq_some_iff.mp h
        cases hPair
        cases text with
        | nil => cases hToken
        | cons c cs =>
            rw [lex_of_token hToken, ih hMore]
            cases lex conforming rest <;> simp

theorem lex_of_error {conforming : Bool} {c : Char} (h : lexToken conforming (c :: text) = none) :
    lex conforming (c :: text) = none := by
  rw [lex, List.length_cons, lexLoop, h]
  rfl

end Rest

section Written

variable {rest : List Char}

/-- A text with one character doubled in it. -/
def double (quote : Char) (value : List Char) : List Char :=
  value.flatMap fun c => if c = quote then [quote, quote] else [c]

theorem double_cons (quote c : Char) (value : List Char) :
    double quote (c :: value) = (if c = quote then [quote, quote] else [c]) ++ double quote value :=
  rfl

theorem length_le_double (quote : Char) (value : List Char) :
    value.length ≤ (double quote value).length := by
  induction value with
  | nil => exact Nat.le_refl 0
  | cons c value ih =>
      rw [double_cons, List.length_append, List.length_cons]
      split <;> simp <;> omega

theorem double_eq_iff {quote : Char} {value : List Char} :
    double quote value = value ↔ quote ∉ value := by
  induction value with
  | nil => simp [double]
  | cons c value ih =>
      rw [double_cons]
      by_cases h : c = quote
      · have hLength := length_le_double quote value
        constructor
        · intro hSame
          have hLonger := congrArg List.length hSame
          simp only [h, if_true, List.length_append, List.length_cons, List.length_nil] at hLonger
          omega
        · exact fun hNone => absurd (by simp [h]) hNone
      · have hOther : quote ≠ c := fun hEq => h hEq.symm
        simp [h, ih, hOther]

theorem scanQuoted_plain {quote c : Char} {cs : List Char} (h : c ≠ quote) :
    scanQuoted quote (c :: cs) =
      (scanQuoted quote cs).map fun (value, rest) => (c :: value, rest) := by
  cases cs with
  | nil => simp [scanQuoted, h]
  | cons d cs => simp [scanQuoted, h]

/-- What stands between quotes with its own quotes doubled is read back. -/
theorem scanQuoted_double {quote : Char} (value : List Char) (h : rest.head? ≠ some quote) :
    scanQuoted quote (double quote value ++ quote :: rest) = some (value, rest) := by
  induction value with
  | nil =>
      cases rest with
      | nil => simp [double, scanQuoted]
      | cons d rest =>
          have hOther : d ≠ quote := fun hEq => h (by simp [hEq])
          simp [double, scanQuoted, hOther]
  | cons c value ih =>
      rw [double_cons]
      by_cases hQuote : c = quote
      · simp [hQuote, scanQuoted, ih]
      · rw [if_neg hQuote, List.append_assoc, List.singleton_append, scanQuoted_plain hQuote, ih]
        rfl

theorem scanEscaped_plain {c : Char} {cs : List Char} (hSlash : c ≠ '\\') (hQuote : c ≠ '\'') :
    scanEscaped (c :: cs) = (scanEscaped cs).map fun (body, rest) => (c :: body, rest) := by
  cases cs with
  | nil => simp [scanEscaped, hQuote]
  | cons d cs => simp [scanEscaped, hSlash, hQuote]

/-- With its backslashes and quotes doubled a constant with escapes ends where it should. -/
theorem scanEscaped_double (value : List Char) (h : rest.head? ≠ some '\'') :
    scanEscaped (double '\'' (double '\\' value) ++ '\'' :: rest) =
      some (double '\'' (double '\\' value), rest) := by
  induction value with
  | nil =>
      cases rest with
      | nil => simp [double, scanEscaped]
      | cons d rest =>
          have hOther : d ≠ '\'' := fun hEq => h (by simp [hEq])
          simp [double, scanEscaped, hOther]
  | cons c value ih =>
      rw [double_cons]
      by_cases hSlash : c = '\\'
      · have hBoth : double '\'' ('\\' :: '\\' :: double '\\' value) =
            '\\' :: '\\' :: double '\'' (double '\\' value) := by
          simp [double_cons]
        simp [hSlash, hBoth, scanEscaped, ih]
      · rw [if_neg hSlash, List.singleton_append, double_cons]
        by_cases hQuote : c = '\''
        · simp [hQuote, scanEscaped, ih]
        · rw [if_neg hQuote, List.append_assoc, List.singleton_append,
            scanEscaped_plain hSlash hQuote, ih]
          rfl

theorem scanConstant_single {segment : List Char → Option (List Char × List Char)} {fuel : Nat}
    {text value : List Char} (h : segment text = some (value, rest))
    (hRest : continued false false rest = none) :
    scanConstant segment fuel text = some (value, rest) := by
  cases fuel with
  | zero => exact h
  | succ fuel => simp only [scanConstant, h, hRest]

theorem lexToken_string {value : List Char} (hQuote : rest.head? ≠ some '\'')
    (hRest : continued false false rest = none) :
    lexToken true ('\'' :: (double '\'' value ++ '\'' :: rest)) =
      some (some (.string value), rest) := by
  have hScan := @scanConstant_single rest _ (double '\'' value ++ '\'' :: rest).length _ _
    (scanQuoted_double value hQuote) hRest
  have hToken : scanToken true '\'' (double '\'' value ++ '\'' :: rest) =
      some (.string value, rest) := by
    rw [scanToken, if_pos rfl, scanLiteral, if_pos rfl, hScan]
    rfl
  simp [lexToken, isSpace, hToken]

theorem lexToken_escapeString {value : List Char} (hQuote : rest.head? ≠ some '\'')
    (hRest : continued false false rest = none) :
    lexToken false ('\'' :: (double '\'' (double '\\' value) ++ '\'' :: rest)) =
      some (some (.escapeString (double '\'' (double '\\' value))), rest) := by
  have hScan := @scanConstant_single rest _
    (double '\'' (double '\\' value) ++ '\'' :: rest).length _ _
    (scanEscaped_double value hQuote) hRest
  have hToken : scanToken false '\'' (double '\'' (double '\\' value) ++ '\'' :: rest) =
      some (.escapeString (double '\'' (double '\\' value)), rest) := by
    rw [scanToken, if_pos rfl, scanLiteral, if_neg Bool.false_ne_true, hScan]
    rfl
  simp [lexToken, isSpace, hToken]

theorem lexToken_ident {conforming : Bool} {name : List Char} (hSome : name ≠ [])
    (hQuote : rest.head? ≠ some '"') :
    lexToken conforming ('"' :: (double '"' name ++ '"' :: rest)) =
      some (some (.ident (clip 63 name)), rest) := by
  have hToken : scanToken conforming '"' (double '"' name ++ '"' :: rest) =
      some (.ident (clip 63 name), rest) := by
    rw [scanToken, if_neg (by decide), if_pos rfl, scanIdent, scanQuoted_double name hQuote]
    exact if_neg hSome
  simp [lexToken, isSpace, hToken]

/-- An empty name between quotes is an error. -/
theorem lexToken_noIdent {conforming : Bool} (hQuote : rest.head? ≠ some '"') :
    lexToken conforming ('"' :: '"' :: rest) = none := by
  have hToken : scanToken conforming '"' ('"' :: rest) = none := by
    have hScan := @scanQuoted_double rest '"' [] hQuote
    rw [scanToken, if_neg (by decide), if_pos rfl, scanIdent]
    simp only [double, List.flatMap_nil, List.nil_append] at hScan
    rw [hScan]
    rfl
  simp [lexToken, isSpace, hToken]

def byteLength (cs : List Char) : Nat := (cs.map Char.utf8Size).sum

/-- A name is kept if it fits. -/
theorem clip_eq_iff {room : Nat} {cs : List Char} : clip room cs = cs ↔ byteLength cs ≤ room := by
  induction cs generalizing room with
  | nil => simp [clip, byteLength]
  | cons c cs ih =>
      rw [clip, byteLength, List.map_cons, List.sum_cons]
      change _ ↔ c.utf8Size + byteLength cs ≤ room
      by_cases hRoom : c.utf8Size ≤ room
      · rw [if_pos hRoom, List.cons.injEq, ih, eq_self_iff_true, true_and]
        omega
      · rw [if_neg hRoom]
        refine ⟨nofun, fun hAll => ?_⟩
        omega

end Written

section Weights

variable {text rest : List Char}

/-- The characters that are not blanks. -/
def visible (cs : List Char) : Nat := cs.countP fun c => !isSpace c

/-- How many of them a token has at least in the text. -/
def Token.weight : Token → Nat
  | .word name => name.length
  | .string value => visible value + value.count '\'' + 2
  | .symbol text => text.length
  | .ident _ | .escapeString _ | .other => 0

theorem visible_cons {c : Char} {cs : List Char} (h : isSpace c = false) :
    visible (c :: cs) = visible cs + 1 := by
  simp [visible, h]

theorem visible_append (cs ds : List Char) : visible (cs ++ ds) = visible cs + visible ds :=
  List.countP_append

theorem visible_suffix (h : rest <:+ text) : visible rest ≤ visible text :=
  h.sublist.countP_le

theorem cases_of_isSpace {c : Char} (h : isSpace c) :
    c = ' ' ∨ c = '\t' ∨ c = '\n' ∨ c = '\r' ∨ c = '\x0b' ∨ c = '\x0c' := by
  simpa [isSpace] using h

theorem not_isSpace_of_isIdentCont {c : Char} (h : isIdentCont c) : isSpace c = false := by
  rw [Bool.eq_false_iff]
  intro hSpace
  rcases cases_of_isSpace hSpace with rfl | rfl | rfl | rfl | rfl | rfl <;>
    exact absurd h (by decide)

theorem not_isSpace_of_isOperator {c : Char} (h : isOperator c) : isSpace c = false := by
  rw [Bool.eq_false_iff]
  intro hSpace
  rcases cases_of_isSpace hSpace with rfl | rfl | rfl | rfl | rfl | rfl <;>
    exact absurd h (by decide)

theorem visible_all {cs : List Char} (h : ∀ c ∈ cs, isSpace c = false) :
    visible cs = cs.length := by
  rw [visible, List.countP_eq_length]
  intro c hMem
  rw [h c hMem]
  rfl

/-- The quotes around a constant and those doubled in it are in the text besides its value. -/
theorem scanQuoted_weight {value : List Char} (h : scanQuoted '\'' text = some (value, rest)) :
    visible value + value.count '\'' + 1 + visible rest ≤ visible text := by
  have hQuote : isSpace '\'' = false := by decide
  fun_induction scanQuoted '\'' text generalizing value with
  | case1 => cases h
  | case2 =>
      cases h
      decide
  | case3 c _ => cases h
  | case4 cs ih =>
      obtain ⟨⟨value', _⟩, hRest, hPair⟩ := Option.map_eq_some_iff.mp h
      cases hPair
      have hLess := ih hRest
      rw [visible_cons hQuote, visible_cons hQuote, visible_cons hQuote, List.count_cons_self]
      omega
  | case5 d cs _ =>
      cases h
      rw [visible_cons hQuote]
      simp [visible]
      omega
  | case6 c d cs hOther ih =>
      obtain ⟨⟨value', _⟩, hRest, hPair⟩ := Option.map_eq_some_iff.mp h
      cases hPair
      have hLess := ih hRest
      have hCount : (c :: value').count '\'' = value'.count '\'' := List.count_cons_of_ne hOther
      cases hSpace : isSpace c with
      | true =>
          have hValue : visible (c :: value') = visible value' := by simp [visible, hSpace]
          have hText : visible (c :: d :: cs) = visible (d :: cs) := by simp [visible, hSpace]
          omega
      | false =>
          rw [visible_cons hSpace, visible_cons hSpace, hCount]
          omega

theorem scanConstant_weight {fuel : Nat} {value : List Char}
    (h : scanConstant (scanQuoted '\'') fuel text = some (value, rest)) :
    visible value + value.count '\'' + 1 + visible rest ≤ visible text := by
  induction fuel generalizing text value with
  | zero => exact scanQuoted_weight h
  | succ fuel ih =>
      rw [scanConstant] at h
      split at h
      · cases h
      · rename_i first after hFirst
        have hLess := scanQuoted_weight hFirst
        split at h
        · cases h
          exact hLess
        · rename_i next hNext
          obtain ⟨⟨more, _⟩, hMore, hPair⟩ := Option.map_eq_some_iff.mp h
          cases hPair
          have hNextLess := visible_suffix (continued_suffix hNext)
          have hMoreLess := ih hMore
          rw [visible_append, List.count_append]
          omega

theorem length_clip_le (room : Nat) (cs : List Char) : (clip room cs).length ≤ cs.length := by
  induction cs generalizing room with
  | nil => exact Nat.le_refl 0
  | cons c cs ih =>
      rw [clip]
      split
      · exact Nat.succ_le_succ (ih _)
      · exact Nat.zero_le _

theorem scanWord_weight {conforming : Bool} {c : Char} {token : Token}
    (h : scanWord conforming c text = some (token, rest)) :
    token.weight + visible rest ≤ visible text + 1 := by
  have hSuffix := visible_suffix (scanWord_suffix h)
  unfold scanWord at h
  split at h
  · split at h
    · obtain ⟨_, _, hPair⟩ := Option.map_eq_some_iff.mp h
      cases hPair
      simp only [Token.weight]
      omega
    · split at h
      · obtain ⟨_, _, hPair⟩ := Option.map_eq_some_iff.mp h
        cases hPair
        simp only [Token.weight]
        omega
      · cases h
        simp only [Token.weight, List.length_singleton]
        omega
  · split at h
    · obtain ⟨_, _, hPair⟩ := Option.map_eq_some_iff.mp h
      cases hPair
      simp only [Token.weight]
      omega
    · split at h
      · cases h
      · cases h
        simp only [Token.weight, List.length_singleton]
        omega
  · cases h
    have hClip := length_clip_le 63 ((c :: text.takeWhile isIdentCont).map Char.toLower)
    have hWord : visible (text.takeWhile isIdentCont) = (text.takeWhile isIdentCont).length :=
      visible_all fun d hMem => not_isSpace_of_isIdentCont (List.mem_takeWhile_imp hMem)
    have hText : visible text =
        visible (text.takeWhile isIdentCont) + visible (text.dropWhile isIdentCont) := by
      rw [← visible_append, List.takeWhile_append_dropWhile]
    simp only [Token.weight, List.length_map, List.length_cons] at hClip ⊢
    omega

theorem operatorRun_prefix (text : List Char) :
    operatorRun text <+: text ∧ ∀ c ∈ operatorRun text, isOperator c := by
  induction text with
  | nil => exact ⟨List.prefix_refl _, nofun⟩
  | cons c cs ih =>
      rw [operatorRun]
      split
      · exact ⟨List.nil_prefix, nofun⟩
      · split
        · exact ⟨List.nil_prefix, nofun⟩
        · rename_i hOperator _
          refine ⟨List.cons_prefix_cons.mpr ⟨rfl, ih.1⟩, fun d hMem => ?_⟩
          rcases List.mem_cons.mp hMem with rfl | hMem
          · simpa using hOperator
          · exact ih.2 d hMem

theorem cutSigns_prefix (c : Char) (more : List Char) : cutSigns c more <+: more := by
  rw [cutSigns]
  split
  · exact List.prefix_refl _
  · exact List.rdropWhile_prefix _ _

theorem scanSymbol_weight {c : Char} {token : Token}
    (h : scanSymbol c text = some (token, rest)) :
    token.weight + visible rest ≤ visible text + 1 := by
  have hSuffix := visible_suffix (scanSymbol_suffix h)
  rw [scanSymbol] at h
  split at h
  · obtain ⟨_, _, hPair⟩ := Option.map_eq_some_iff.mp h
    cases hPair
    simp only [Token.weight]
    omega
  · split at h
    · obtain ⟨_, _, hPair⟩ := Option.map_eq_some_iff.mp h
      cases hPair
      simp only [Token.weight]
      omega
    · split at h
      · cases h
        obtain ⟨hRun, hOperators⟩ := operatorRun_prefix text
        have hCut := cutSigns_prefix c (operatorRun text)
        obtain ⟨after, hText⟩ := hCut.trans hRun
        have hMore : visible (cutSigns c (operatorRun text)) =
            (cutSigns c (operatorRun text)).length :=
          visible_all fun d hMem =>
            not_isSpace_of_isOperator (hOperators d (hCut.subset hMem))
        have hDrop : ∀ run, run ++ after = text → text.drop run.length = after := by
          rintro run rfl
          exact List.drop_left
        have hVisible : visible text = visible (cutSigns c (operatorRun text)) + visible after := by
          rw [← visible_append, hText]
        simp only [Token.weight, List.length_cons, hDrop _ hText]
        omega
      · split at h
        · rename_i hPair
          cases h
          cases text with
          | nil => simp [Token.weight, visible]
          | cons d text =>
              have hSpace : isSpace d = false := by
                rw [Bool.eq_false_iff]
                intro hSpace
                rcases cases_of_isSpace hSpace with rfl | rfl | rfl | rfl | rfl | rfl <;>
                  simp at hPair
              have hVisible := @visible_cons d text hSpace
              simp [Token.weight]
              omega
        · cases h
          simp only [Token.weight, List.length_singleton]
          omega

theorem scanToken_weight {c : Char} {token : Token}
    (h : scanToken true c text = some (token, rest)) :
    token.weight + visible rest ≤ visible text + 1 := by
  have hSuffix := visible_suffix (scanToken_suffix h)
  rw [scanToken] at h
  split at h
  · rw [scanLiteral, if_pos rfl] at h
    obtain ⟨_, hValue, hPair⟩ := Option.map_eq_some_iff.mp h
    cases hPair
    have hLess := scanConstant_weight hValue
    simp only [Token.weight]
    omega
  · split at h
    · rw [scanIdent] at h
      split at h
      · cases h
      · split at h
        · cases h
        · cases h
          simp only [Token.weight]
          omega
    · split at h
      · have hWeight : token.weight ≤ 1 := by
          simp only [scanDollar] at h
          split at h
          · split at h
            · obtain ⟨_, _, hPair⟩ := Option.map_eq_some_iff.mp h
              cases hPair
              exact Nat.zero_le _
            · cases h
              exact Nat.zero_le _
          · split at h
            · cases h
              exact Nat.zero_le _
            · cases h
              exact Nat.le_refl _
        omega
      · split at h
        · exact scanWord_weight h
        · exact scanSymbol_weight h

theorem lexToken_weight {c : Char} {token : Token}
    (h : lexToken true (c :: text) = some (some token, rest)) :
    token.weight + visible rest ≤ visible (c :: text) := by
  rw [lexToken] at h
  split at h
  · cases h
  · rename_i hSpace
    split at h
    · cases h
    · split at h
      · obtain ⟨_, _, hPair⟩ := Option.map_eq_some_iff.mp h
        cases hPair
      · obtain ⟨_, hToken, hPair⟩ := Option.map_eq_some_iff.mp h
        cases hPair
        rw [visible_cons (Bool.eq_false_iff.mpr hSpace)]
        exact scanToken_weight hToken

/-- The tokens of a text have no more characters than the text. -/
theorem lex_weight {tokens : List Token} (h : lex true text = some tokens) :
    (tokens.map Token.weight).sum ≤ visible text := by
  induction hLength : text.length using Nat.strong_induction_on generalizing text tokens with
  | _ n ih =>
      cases text with
      | nil =>
          cases h
          exact Nat.le_refl 0
      | cons c cs =>
          cases hToken : lexToken true (c :: cs) with
          | none =>
              rw [lex_of_error hToken] at h
              cases h
          | some pair =>
              obtain ⟨token, rest⟩ := pair
              rw [lex_of_token hToken] at h
              obtain ⟨more, hMore, rfl⟩ := Option.map_eq_some_iff.mp h
              have hShort := (lexToken_suffix hToken).length_le
              have hRest := ih rest.length (by rw [← hLength]; simp; omega) hMore rfl
              cases token with
              | none =>
                  exact Nat.le_trans hRest
                    (visible_suffix (@suffix_cons _ c cs (lexToken_suffix hToken)))
              | some token =>
                  have hWeight := lexToken_weight hToken
                  simp only [Option.toList_some, List.singleton_append, List.map_cons,
                    List.sum_cons]
                  omega

end Weights

end SqlLexer
