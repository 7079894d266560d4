import PgClient.Library.SqlLexer

/-!
The options of a COPY statement as SQL text, and what the server's scanner makes of them.
-/

namespace PgClient

open SqlLexer

inductive CopyFormat where
  | text
  | csv (delimiter : Char) (null : String) (header : Bool) (quote escape : Char)
  | binary
deriving DecidableEq, Repr

namespace CopyFormat

/-- A value as it is between single quotes. -/
def between (value : List Char) : String := String.ofList ('\'' :: (value ++ ['\'']))

def toSqlOptions : CopyFormat → String
  | .text => ""
  | .csv delimiter null header quote escape =>
      "WITH (FORMAT csv, DELIMITER " ++ between [delimiter] ++ ", NULL " ++ between null.toList ++
        ", HEADER " ++ toString header ++ ", QUOTE " ++ between [quote] ++ ", ESCAPE " ++
        between [escape] ++ ")"
  | .binary => "WITH (FORMAT binary)"

/-- One option list with just these constants in it. -/
def csvTokens (delimiter : Char) (null : List Char) (header : Bool) (quote escape : Char) :
    List Token :=
  [.word "with".toList, .symbol ['('], .word "format".toList, .word "csv".toList, .symbol [','],
    .word "delimiter".toList, .string [delimiter], .symbol [','],
    .word "null".toList, .string null, .symbol [','],
    .word "header".toList, .word (toString header).toList, .symbol [','],
    .word "quote".toList, .string [quote], .symbol [','],
    .word "escape".toList, .string [escape], .symbol [')']]

section Csv

variable {delimiter : Char} {null : String} {header : Bool} {quote escape : Char}

theorem toList_toSqlOptions :
    (toSqlOptions (.csv delimiter null header quote escape)).toList =
      "WITH (FORMAT csv, DELIMITER ".toList ++ '\'' :: ([delimiter] ++ '\'' ::
        (", NULL ".toList ++ '\'' :: (null.toList ++ '\'' ::
          (", HEADER ".toList ++ ((toString header).toList ++ (", QUOTE ".toList ++
            '\'' :: ([quote] ++ '\'' :: (", ESCAPE ".toList ++
              '\'' :: ([escape] ++ '\'' :: [')']))))))))) := by
  have hEnd : ")".toList = [')'] := rfl
  unfold toSqlOptions
  simp only [String.toList_append, between, String.toList_ofList, hEnd,
    List.append_assoc, List.cons_append, List.nil_append]

/-- A constant without quotes in it, which something else follows. -/
theorem lex_plain {value rest : List Char} {c : Char} (hValue : '\'' ∉ value)
    (hEnd : c = ',' ∨ c = ')') :
    lex true ('\'' :: (value ++ '\'' :: c :: rest)) =
      (lex true (c :: rest)).map ([.string value] ++ ·) := by
  have hHead : (c :: rest).head? ≠ some '\'' := by
    rcases hEnd with rfl | rfl <;> simp
  have hNext : continued false false (c :: rest) = none := by
    rcases hEnd with rfl | rfl <;> rfl
  have hToken := @lexToken_string (c :: rest) value hHead hNext
  rw [double_eq_iff.mpr hValue] at hToken
  exact lex_of_token hToken

theorem lex_toSqlOptions (hDelimiter : delimiter ≠ '\'') (hNull : '\'' ∉ null.toList)
    (hQuote : quote ≠ '\'') (hEscape : escape ≠ '\'') :
    lex true (toSqlOptions (.csv delimiter null header quote escape)).toList =
      some (csvTokens delimiter null.toList header quote escape) := by
  have hSingle : ∀ {c : Char}, c ≠ '\'' → '\'' ∉ [c] := by
    intro c hOther hMem
    exact hOther (List.mem_singleton.mp hMem).symm
  rw [toList_toSqlOptions]
  generalize hLast : '\'' :: ([escape] ++ '\'' :: [')']) = last
  generalize hFourth : '\'' :: ([quote] ++ '\'' :: (", ESCAPE ".toList ++ last)) = fourth
  generalize hThird : (", HEADER ".toList ++ ((toString header).toList ++
    (", QUOTE ".toList ++ fourth))) = third
  generalize hSecond : '\'' :: (null.toList ++ '\'' :: third) = second
  have lexLast : lex true last = some [.string [escape], .symbol [')']] := by
    rw [← hLast, lex_plain (hSingle hEscape) (.inr rfl)]
    rfl
  have lexFourth : lex true fourth = (lex true last).map
      ([.string [quote], .symbol [','], .word "escape".toList] ++ ·) := by
    have hSteps : lex true (", ESCAPE ".toList ++ last) = (lex true last).map
        ([.symbol [','], .word "escape".toList] ++ ·) := lex_of_steps 4 rfl
    have hPlain : lex true fourth = (lex true (", ESCAPE ".toList ++ last)).map
        ([.string [quote]] ++ ·) := hFourth ▸ lex_plain (hSingle hQuote) (.inl rfl)
    rw [hPlain, hSteps, Option.map_map]
    rfl
  have lexThird : lex true third = (lex true fourth).map
      ([.symbol [','], .word "header".toList, .word (toString header).toList, .symbol [','],
        .word "quote".toList] ++ ·) := by
    rw [← hThird]
    cases header <;> exact lex_of_steps 9 rfl
  have lexSecond : lex true second = (lex true third).map ([.string null.toList] ++ ·) := by
    rw [← hSecond, ← hThird]
    exact lex_plain hNull (.inl rfl)
  have lexFirst : lex true ('\'' :: ([delimiter] ++ '\'' :: (", NULL ".toList ++ second))) =
      (lex true second).map
        ([.string [delimiter], .symbol [','], .word "null".toList] ++ ·) := by
    have hSteps : lex true (", NULL ".toList ++ second) = (lex true second).map
        ([.symbol [','], .word "null".toList] ++ ·) := lex_of_steps 4 rfl
    have hPlain : lex true ('\'' :: ([delimiter] ++ '\'' :: (", NULL ".toList ++ second))) =
        (lex true (", NULL ".toList ++ second)).map ([.string [delimiter]] ++ ·) :=
      lex_plain (hSingle hDelimiter) (.inl rfl)
    rw [hPlain, hSteps, Option.map_map]
    rfl
  have lexStart : ∀ rest, lex true ("WITH (FORMAT csv, DELIMITER ".toList ++ rest) =
      (lex true rest).map ([.word "with".toList, .symbol ['('], .word "format".toList,
        .word "csv".toList, .symbol [','], .word "delimiter".toList] ++ ·) :=
    fun _ => lex_of_steps 10 rfl
  rw [lexStart, lexFirst, lexSecond, lexThird, lexFourth, lexLast]
  rfl

/-- The constants have all the quotes that are in the values twice. -/
theorem plain_of_lex
    (h : lex true (toSqlOptions (.csv delimiter null header quote escape)).toList =
      some (csvTokens delimiter null.toList header quote escape)) :
    delimiter ≠ '\'' ∧ '\'' ∉ null.toList ∧ quote ≠ '\'' ∧ escape ≠ '\'' := by
  have hWeight := lex_weight h
  rw [toList_toSqlOptions] at hWeight
  have hQuoteSpace : isSpace '\'' = false := by decide
  have hHeader : visible (toString header).toList = (toString header).toList.length := by
    cases header <;> decide
  have hStart : visible "WITH (FORMAT csv, DELIMITER ".toList = 24 := by decide
  have hNull : visible ", NULL ".toList = 5 := by decide
  have hHeaderText : visible ", HEADER ".toList = 7 := by decide
  have hQuoteText : visible ", QUOTE ".toList = 6 := by decide
  have hEscapeText : visible ", ESCAPE ".toList = 7 := by decide
  have hEnd : visible [')'] = 1 := by decide
  simp only [visible_append, visible_cons hQuoteSpace, hStart, hNull, hHeaderText, hQuoteText,
    hEscapeText, hEnd, hHeader] at hWeight
  simp only [csvTokens, List.map_cons, List.map_nil, List.sum_cons, List.sum_nil,
    Token.weight] at hWeight
  have hCounts : [delimiter].count '\'' = 0 ∧ null.toList.count '\'' = 0 ∧
      [quote].count '\'' = 0 ∧ [escape].count '\'' = 0 := by
    simp at hWeight
    omega
  simpa [List.count_eq_zero, ne_comm] using hCounts

/-- The options are read as they are meant exactly if none of them has a single quote. -/
theorem lex_toSqlOptions_iff (delimiter : Char) (null : String) (header : Bool)
    (quote escape : Char) :
    lex true (toSqlOptions (.csv delimiter null header quote escape)).toList =
        some (csvTokens delimiter null.toList header quote escape) ↔
      delimiter ≠ '\'' ∧ '\'' ∉ null.toList ∧ quote ≠ '\'' ∧ escape ≠ '\'' :=
  ⟨plain_of_lex, fun ⟨hDelimiter, hNull, hQuote, hEscape⟩ =>
    lex_toSqlOptions hDelimiter hNull hQuote hEscape⟩

/-- Fields in single quotes leave the list without its end. -/
theorem not_lex_toSqlOptions :
    ¬ ∀ (delimiter : Char) (null : String) (header : Bool) (quote escape : Char),
      lex true (toSqlOptions (.csv delimiter null header quote escape)).toList =
        some (csvTokens delimiter null.toList header quote escape) := by
  intro hAll
  exact absurd rfl (plain_of_lex (hAll ',' "" false '\'' '"')).2.2.1

end Csv
end CopyFormat
end PgClient
