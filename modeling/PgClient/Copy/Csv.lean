import Mathlib.Data.List.Forall2
import PgClient.Library.DelimitedText

/-!
The CSV rows that `CopyIn` sends. `writeCsvRow` and `writeCsvRowWithNull` build one
line from their columns; PostgreSQL reads it back with the null text, delimiter and
quote of the COPY options, the quote being its own escape.
-/

namespace PgClient.Copy

open DelimitedText

/-- The test that decides whether a value is written between quotes. -/
def csvNeedsQuote (val : String) (delimiter quote : Char) : Bool :=
  val.toList.contains delimiter || val.toList.contains quote ||
    val.toList.contains '\n' || val.toList.contains '\r'

def pushCsvValue (delimiter quote : Char) (line val : String) : String :=
  if csvNeedsQuote val delimiter quote then
    (val.toList.foldl (fun line ch => (if ch = quote then line.push quote else line).push ch)
      (line.push quote)).push quote
  else line ++ val

def pushCsvNullable (delimiter quote : Char) (nullString : String) (line : String) :
    Option String → String
  | some val => pushCsvValue delimiter quote line val
  | none => line ++ nullString

/-- Columns in order, a delimiter before each but the first, and the line end. -/
def pushCsvColumns {α : Type} (pushColumn : String → α → String) (delimiter : Char)
    (columns : List α) : String :=
  (columns.zipIdx.foldl (fun line (col, i) =>
    pushColumn (if i > 0 then line.push delimiter else line) col) "").push '\n'

/-- The line of `write_csv_row`. -/
def csvRow (columns : List String) (delimiter quote : Char) : String :=
  pushCsvColumns (pushCsvValue delimiter quote) delimiter columns

/-- The line of `write_csv_row_with_null`. -/
def csvRowWithNull (columns : List (Option String)) (delimiter quote : Char)
    (nullString : String) : String :=
  pushCsvColumns (pushCsvNullable delimiter quote nullString) delimiter columns

/-- `write_csv_row` is `write_csv_row_with_null` on columns that are all present. -/
theorem csvRow_eq_csvRowWithNull (columns : List String) (delimiter quote : Char)
    (nullString : String) :
    csvRow columns delimiter quote =
      csvRowWithNull (columns.map some) delimiter quote nullString := by
  have hColumn : ∀ line val, pushCsvNullable delimiter quote nullString line (some val) =
      pushCsvValue delimiter quote line val := fun _ _ => rfl
  simp only [csvRow, csvRowWithNull, pushCsvColumns, List.zipIdx_map, List.foldl_map,
    Prod.map_fst, Prod.map_snd, id, hColumn]

/-- The CSV options of a COPY command, with the conditions under which PostgreSQL
accepts them. -/
structure CsvOptions where
  delimiter : Char
  quote : Char
  nullString : String
  delimiter_ne_quote : delimiter ≠ quote
  delimiter_not_break : delimiter ≠ '\n' ∧ delimiter ≠ '\r'
  quote_not_break : quote ≠ '\n' ∧ quote ≠ '\r'
  null_plain : ∀ c ∈ nullString.toList, c ≠ delimiter ∧ c ≠ quote ∧ c ≠ '\n' ∧ c ≠ '\r'

namespace CsvOptions

def dialect (options : CsvOptions) : Dialect Char where
  delimiter := options.delimiter
  quote := options.quote
  lineFeed := '\n'
  carriageReturn := '\r'
  null := options.nullString.toList
  delimiter_ne_quote := options.delimiter_ne_quote
  delimiter_not_break := options.delimiter_not_break
  quote_not_break := options.quote_not_break
  lineFeed_ne_carriageReturn := by decide
  null_plain := options.null_plain

/-- One row of COPY data as PostgreSQL reads it, and the data after it. -/
def readRow (options : CsvOptions) (data : String) : Option (List (Option String) × String) :=
  (options.dialect.readRow data.toList).map fun (values, rest) =>
    (values.map (·.map String.ofList), String.ofList rest)

def writeRow (options : CsvOptions) (row : List (Option String)) : String :=
  csvRowWithNull row options.delimiter options.quote options.nullString

/-- What PostgreSQL makes of a column as it was written. -/
def readBack (options : CsvOptions) : Option String → Option String
  | some val => if val = options.nullString then none else some val
  | none => none

/-- The characters a column contributes to its line. -/
def field (options : CsvOptions) : Option String → List Char
  | some val =>
      if csvNeedsQuote val options.delimiter options.quote then
        options.dialect.quoted val.toList
      else val.toList
  | none => options.nullString.toList

theorem plain_of_not_needsQuote (options : CsvOptions) (val : String)
    (h : csvNeedsQuote val options.delimiter options.quote = false) :
    ∀ c ∈ val.toList, options.dialect.Plain c := by
  simp only [csvNeedsQuote, Bool.or_eq_false_iff, List.contains_eq_mem,
    decide_eq_false_iff_not] at h
  obtain ⟨⟨⟨hDelimiter, hQuote⟩, hLine⟩, hReturn⟩ := h
  intro c hc
  refine ⟨?_, ?_, ?_, ?_⟩ <;> rintro rfl
  · exact hDelimiter hc
  · exact hQuote hc
  · exact hLine hc
  · exact hReturn hc

/-- The null text itself never needs quotes. -/
theorem nullString_not_needsQuote (options : CsvOptions) :
    csvNeedsQuote options.nullString options.delimiter options.quote = false := by
  have hPlain := options.null_plain
  simp only [csvNeedsQuote, Bool.or_eq_false_iff, List.contains_eq_mem,
    decide_eq_false_iff_not]
  exact ⟨⟨⟨fun h => (hPlain _ h).1 rfl, fun h => (hPlain _ h).2.1 rfl⟩,
    fun h => (hPlain _ h).2.2.1 rfl⟩, fun h => (hPlain _ h).2.2.2 rfl⟩

theorem field_written (options : CsvOptions) (col : Option String) :
    options.dialect.Written (options.field col) ((options.readBack col).map String.toList) := by
  cases col with
  | none =>
      have hNull := Dialect.Written.plain (d := options.dialect) _ options.null_plain
      rw [show options.nullString.toList = options.dialect.null from rfl,
        Dialect.endField_null] at hNull
      exact hNull
  | some val =>
      cases hQuote : csvNeedsQuote val options.delimiter options.quote with
      | true =>
          have hVal : val ≠ options.nullString := by
            rintro rfl
            simp [options.nullString_not_needsQuote] at hQuote
          simpa [field, readBack, hQuote, hVal] using
            Dialect.Written.quoted (d := options.dialect) val.toList
      | false =>
          have hWritten := Dialect.Written.plain (d := options.dialect) val.toList
            (options.plain_of_not_needsQuote val hQuote)
          by_cases hVal : val = options.nullString
          · have hEnd : options.dialect.endField val.toList false = none := by
              rw [hVal]
              exact options.dialect.endField_null
            rw [hEnd] at hWritten
            simp only [field, readBack, hQuote, if_pos hVal, Bool.false_eq_true, if_false,
              Option.map_none]
            exact hWritten
          · have hEnd : options.dialect.endField val.toList false = some val.toList :=
              options.dialect.endField_of_ne val.toList fun h => hVal (String.toList_inj.mp h)
            simpa [field, readBack, hQuote, hVal, hEnd] using hWritten

/-- The inner loop doubles the quotes of a value. -/
theorem toList_pushQuoted (options : CsvOptions) (val : List Char) (line : String) :
    (val.foldl (fun line ch =>
      (if ch = options.quote then line.push options.quote else line).push ch) line).toList =
      line.toList ++ options.dialect.doubled val := by
  induction val generalizing line with
  | nil => simp [Dialect.doubled]
  | cons c val ih =>
      rw [List.foldl_cons, ih]
      by_cases hc : c = options.quote <;> simp [Dialect.doubled, dialect, hc]

theorem toList_pushColumn (options : CsvOptions) (line : String) (col : Option String) :
    (pushCsvNullable options.delimiter options.quote options.nullString line col).toList =
      line.toList ++ options.field col := by
  cases col with
  | none => simp [pushCsvNullable, field]
  | some val =>
      simp only [pushCsvNullable, pushCsvValue, field]
      split
      · simp [toList_pushQuoted, Dialect.quoted, dialect]
      · simp

/-- The outer loop after its first column: a delimiter before every further one. -/
theorem toList_pushColumns (options : CsvOptions) (row : List (Option String)) (line : String)
    (k : Nat) (hk : 0 < k) :
    ((row.zipIdx k).foldl (fun line (col, i) =>
      pushCsvNullable options.delimiter options.quote options.nullString
        (if i > 0 then line.push options.delimiter else line) col) line).toList =
      line.toList ++ row.flatMap fun col => options.delimiter :: options.field col := by
  induction row generalizing line k with
  | nil => simp
  | cons col row ih =>
      rw [List.zipIdx_cons, List.foldl_cons, ih _ (k + 1) (by omega)]
      simp [hk, toList_pushColumn]

theorem join_fields (options : CsvOptions) (col : Option String) (row : List (Option String)) :
    options.dialect.join ((col :: row).map options.field) =
      options.field col ++ row.flatMap fun col => options.delimiter :: options.field col := by
  induction row generalizing col with
  | nil => simp
  | cons next row ih =>
      simp only [List.map_cons, Dialect.join_cons_cons]
      rw [← List.map_cons, ih]
      simp [dialect]

theorem toList_writeRow (options : CsvOptions) (row : List (Option String)) (hRow : row ≠ []) :
    (options.writeRow row).toList = options.dialect.join (row.map options.field) ++ ['\n'] := by
  cases row with
  | nil => exact absurd rfl hRow
  | cons col row =>
      rw [join_fields, writeRow, csvRowWithNull, pushCsvColumns, String.toList_push,
        List.zipIdx_cons, List.foldl_cons, options.toList_pushColumns row _ _ (by omega)]
      simp [toList_pushColumn]

/-- PostgreSQL reads a written row back column by column, whatever data follows. -/
theorem readRow_writeRow (options : CsvOptions) (row : List (Option String)) (hRow : row ≠ [])
    (rest : String) :
    options.readRow (options.writeRow row ++ rest) = some (row.map options.readBack, rest) := by
  have hWritten : List.Forall₂ options.dialect.Written (row.map options.field)
      (row.map fun col => (options.readBack col).map String.toList) := by
    rw [List.forall₂_map_left_iff, List.forall₂_map_right_iff, List.forall₂_same]
    exact fun col _ => options.field_written col
  have hRead := options.dialect.readRow_join _ _ hWritten (by simpa using hRow) rest.toList
  have hText : (options.writeRow row ++ rest).toList =
      options.dialect.join (row.map options.field) ++ options.dialect.lineFeed :: rest.toList := by
    rw [String.toList_append, options.toList_writeRow row hRow]
    simp [dialect]
  simp [readRow, hText, hRead, Function.comp_def]

theorem readBack_eq_self (options : CsvOptions) (col : Option String) :
    options.readBack col = col ↔ col ≠ some options.nullString := by
  cases col with
  | none => simp [readBack]
  | some val => simp [readBack]

/-- The options of a CSV COPY command that names none. -/
def standard : CsvOptions where
  delimiter := ','
  quote := '"'
  nullString := ""
  delimiter_ne_quote := by decide
  delimiter_not_break := by decide
  quote_not_break := by decide
  null_plain := by simp

end CsvOptions
end PgClient.Copy
