import Mathlib.Data.List.Basic

/-!
Delimited text with quoting, over any alphabet. A dialect names the symbols that
have a meaning and the text that stands for an absent field; its fields carry the
separation facts the reader depends on. The reader first splits the text at the
line ends outside quotes, then splits a line into its fields.
-/

namespace DelimitedText

structure Dialect (α : Type) where
  delimiter : α
  quote : α
  lineFeed : α
  carriageReturn : α
  null : List α
  delimiter_ne_quote : delimiter ≠ quote
  delimiter_not_break : delimiter ≠ lineFeed ∧ delimiter ≠ carriageReturn
  quote_not_break : quote ≠ lineFeed ∧ quote ≠ carriageReturn
  lineFeed_ne_carriageReturn : lineFeed ≠ carriageReturn
  null_plain : ∀ c ∈ null,
    c ≠ delimiter ∧ c ≠ quote ∧ c ≠ lineFeed ∧ c ≠ carriageReturn

variable {α : Type}

namespace Dialect

/-- A symbol that stands for itself outside quotes. -/
def Plain (d : Dialect α) (c : α) : Prop :=
  c ≠ d.delimiter ∧ c ≠ d.quote ∧ c ≠ d.lineFeed ∧ c ≠ d.carriageReturn

def join (d : Dialect α) : List (List α) → List α
  | [] => []
  | [field] => field
  | field :: fields => field ++ d.delimiter :: d.join fields

@[simp] theorem join_singleton (d : Dialect α) (field : List α) : d.join [field] = field := rfl

@[simp] theorem join_cons_cons (d : Dialect α) (field next : List α) (fields : List (List α)) :
    d.join (field :: next :: fields) = field ++ d.delimiter :: d.join (next :: fields) := rfl

variable [DecidableEq α]

instance (d : Dialect α) (c : α) : Decidable (d.Plain c) :=
  inferInstanceAs (Decidable (_ ∧ _ ∧ _ ∧ _))

/-- The first line and the text after its line end. A line feed inside quotes
belongs to the line; a carriage return outside quotes is an error. -/
def splitLine (d : Dialect α) : Bool → List α → Option (List α × List α)
  | _, [] => none
  | true, c :: text =>
      (splitLine d (c != d.quote) text).map fun (line, rest) => (c :: line, rest)
  | false, c :: text =>
      if c = d.lineFeed then some ([], text)
      else if c = d.carriageReturn then none
      else (splitLine d (c == d.quote) text).map fun (line, rest) => (c :: line, rest)

/-- An unquoted field that equals the null text is absent. -/
def endField (d : Dialect α) (value : List α) (sawQuote : Bool) : Option (List α) :=
  if sawQuote = false ∧ value = d.null then none else some value

/-- Where the reader stands in a field; `closing` is just after a quote that may
close the quoted part or be the first of a doubled quote. -/
inductive Position where
  | outside
  | inside
  | closing
deriving DecidableEq

/-- The fields of a line, with the value collected so far and whether the field had
a quote yet. -/
def readFields (d : Dialect α) (value : List α) (sawQuote : Bool) :
    Position → List α → Option (List (Option (List α)))
  | .outside, [] | .closing, [] => some [d.endField value sawQuote]
  | .inside, [] => none
  | .outside, c :: text =>
      if c = d.delimiter then
        (readFields d [] false .outside text).map (d.endField value sawQuote :: ·)
      else if c = d.quote then readFields d value true .inside text
      else readFields d (value ++ [c]) sawQuote .outside text
  | .inside, c :: text =>
      if c = d.quote then readFields d value sawQuote .closing text
      else readFields d (value ++ [c]) sawQuote .inside text
  | .closing, c :: text =>
      if c = d.quote then readFields d (value ++ [c]) sawQuote .inside text
      else if c = d.delimiter then
        (readFields d [] false .outside text).map (d.endField value sawQuote :: ·)
      else readFields d (value ++ [c]) sawQuote .outside text

/-- The first row of a text and the text after it. -/
def readRow (d : Dialect α) (text : List α) :
    Option (List (Option (List α)) × List α) := do
  let (line, rest) ← d.splitLine false text
  let fields ← d.readFields [] false .outside line
  return (fields, rest)

/-- A value between quotes, its own quotes doubled. -/
def doubled (d : Dialect α) (value : List α) : List α :=
  value.flatMap fun c => if c = d.quote then [c, c] else [c]

def quoted (d : Dialect α) (value : List α) : List α :=
  d.quote :: (d.doubled value ++ [d.quote])

/-- How a field may be written: as it stands, or between quotes. -/
inductive Written (d : Dialect α) : List α → Option (List α) → Prop
  | plain (value : List α) (h : ∀ c ∈ value, d.Plain c) :
      Written d value (d.endField value false)
  | quoted (value : List α) : Written d (d.quoted value) (some value)

theorem endField_null (d : Dialect α) : d.endField d.null false = none := by
  simp [endField]

theorem endField_of_ne (d : Dialect α) (value : List α) (h : value ≠ d.null) :
    d.endField value false = some value := by
  simp [endField, h]

/-- Reading stops being inside quotes after a doubled value and the closing quote. -/
theorem splitLine_doubled (d : Dialect α) (value text : List α) :
    d.splitLine true (d.doubled value ++ d.quote :: text) =
      (d.splitLine false text).map fun (line, rest) =>
        (d.doubled value ++ d.quote :: line, rest) := by
  induction value with
  | nil => simp [doubled, splitLine]
  | cons c value ih =>
      have hStep : d.doubled (c :: value) =
          (if c = d.quote then [c, c] else [c]) ++ d.doubled value := by
        simp [doubled]
      rw [hStep]
      by_cases hc : c = d.quote
      · have hLine := d.quote_not_break
        simp [hc, splitLine, hLine.1, hLine.2, ih, Option.map_map, Function.comp_def]
      · have hStay : (c != d.quote) = true := by simpa using hc
        simp [hc, splitLine, hStay, ih, Option.map_map, Function.comp_def]

theorem splitLine_plain (d : Dialect α) (value text : List α) (h : ∀ c ∈ value, d.Plain c) :
    d.splitLine false (value ++ text) =
      (d.splitLine false text).map fun (line, rest) => (value ++ line, rest) := by
  induction value with
  | nil => simp
  | cons c value ih =>
      obtain ⟨_, hQuote, hLine, hReturn⟩ := h c (by simp)
      have hRest := ih fun x hx => h x (by simp [hx])
      have hStay : (c == d.quote) = false := by simpa using hQuote
      simp [splitLine, hLine, hReturn, hStay, hRest, Option.map_map, Function.comp_def]

theorem splitLine_written (d : Dialect α) {field : List α} {value : Option (List α)}
    (h : d.Written field value) (text : List α) :
    d.splitLine false (field ++ text) =
      (d.splitLine false text).map fun (line, rest) => (field ++ line, rest) := by
  cases h with
  | plain _ hPlain => exact d.splitLine_plain field text hPlain
  | quoted value =>
      have hLine := d.quote_not_break
      simp [quoted, splitLine, hLine.1, hLine.2, d.splitLine_doubled, Option.map_map,
        Function.comp_def]

theorem splitLine_join (d : Dialect α) (fields : List (List α)) (values : List (Option (List α)))
    (h : List.Forall₂ d.Written fields values) (rest : List α) :
    d.splitLine false (d.join fields ++ d.lineFeed :: rest) = some (d.join fields, rest) := by
  induction h with
  | nil => simp [join, splitLine]
  | @cons field value fields values hField hFields ih =>
      cases fields with
      | nil => simp [d.splitLine_written hField, splitLine]
      | cons next fields =>
          have hLine := d.delimiter_not_break
          have hDelimiter : (d.delimiter == d.quote) = false := by
            simpa using d.delimiter_ne_quote
          simp only [join_cons_cons, List.append_assoc, List.cons_append]
          rw [d.splitLine_written hField]
          simp [splitLine, hLine.1, hLine.2, hDelimiter, ih]

theorem readFields_plain (d : Dialect α) (value collected text : List α) (sawQuote : Bool)
    (h : ∀ c ∈ value, d.Plain c) :
    d.readFields collected sawQuote .outside (value ++ text) =
      d.readFields (collected ++ value) sawQuote .outside text := by
  induction value generalizing collected with
  | nil => simp
  | cons c value ih =>
      obtain ⟨hDelimiter, hQuote, _, _⟩ := h c (by simp)
      rw [List.cons_append, readFields, if_neg hDelimiter, if_neg hQuote,
        ih (collected ++ [c]) fun x hx => h x (by simp [hx])]
      simp

theorem readFields_doubled (d : Dialect α) (value collected text : List α) :
    d.readFields collected true .inside (d.doubled value ++ d.quote :: text) =
      d.readFields (collected ++ value) true .closing text := by
  induction value generalizing collected with
  | nil => simp [doubled, readFields]
  | cons c value ih =>
      have hStep : d.doubled (c :: value) =
          (if c = d.quote then [c, c] else [c]) ++ d.doubled value := by
        simp [doubled]
      rw [hStep]
      by_cases hc : c = d.quote
      · have hRest := ih (collected ++ [d.quote])
        simp [hc, readFields, hRest]
      · have hRest := ih (collected ++ [c])
        simp [hc, readFields, hRest]

/-- After a written field the reader closes the field at the end of the line or at a
delimiter. -/
theorem readFields_written_end (d : Dialect α) {field : List α} {value : Option (List α)}
    (h : d.Written field value) : d.readFields [] false .outside field = some [value] := by
  cases h with
  | plain _ hPlain =>
      have hRead := d.readFields_plain field [] [] false hPlain
      simpa [readFields] using hRead
  | quoted value =>
      have hRead := d.readFields_doubled value [] []
      simpa [quoted, readFields, Ne.symm d.delimiter_ne_quote, endField] using hRead

theorem readFields_written_delimiter (d : Dialect α) {field : List α}
    {value : Option (List α)} (h : d.Written field value) (text : List α) :
    d.readFields [] false .outside (field ++ d.delimiter :: text) =
      (d.readFields [] false .outside text).map (value :: ·) := by
  have hDelimiter := d.delimiter_ne_quote
  cases h with
  | plain _ hPlain =>
      have hRead := d.readFields_plain field [] (d.delimiter :: text) false hPlain
      simpa [readFields] using hRead
  | quoted value =>
      have hRead := d.readFields_doubled value [] (d.delimiter :: text)
      simpa [quoted, readFields, hDelimiter, Ne.symm hDelimiter, endField] using hRead

theorem readFields_join (d : Dialect α) (fields : List (List α)) (values : List (Option (List α)))
    (h : List.Forall₂ d.Written fields values) (hFields : fields ≠ []) :
    d.readFields [] false .outside (d.join fields) = some values := by
  induction h with
  | nil => exact absurd rfl hFields
  | @cons field value fields values hField hRest ih =>
      cases hRest with
      | nil => exact d.readFields_written_end hField
      | cons hNext hTail =>
          rw [join_cons_cons, d.readFields_written_delimiter hField, ih (by simp)]
          rfl

/-- A row written field by field reads back as the values of its fields, whatever
text follows it. -/
theorem readRow_join (d : Dialect α) (fields : List (List α)) (values : List (Option (List α)))
    (h : List.Forall₂ d.Written fields values) (hFields : fields ≠ []) (rest : List α) :
    d.readRow (d.join fields ++ d.lineFeed :: rest) = some (values, rest) := by
  simp [readRow, d.splitLine_join fields values h, d.readFields_join fields values h hFields]

end Dialect
end DelimitedText
