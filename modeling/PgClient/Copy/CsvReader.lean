import Mathlib.Algebra.GroupWithZero.Nat
import Mathlib.Data.List.DropRight
import PgClient.Copy.Stream
import PgClient.Library.LossyUtf8

/-!
Reading the lines of a COPY back: `for_each_row` and `for_each_csv_row` decode every chunk
by itself, cut the text at its line feeds, and call back with the fields of each line.
-/

namespace PgClient

namespace Copy

/-- The loop of `parse_csv_line`, outside quotes or inside them. -/
def parseCsvLoop (delimiter quote : Char) :
    List String → String → Bool → List Char → List String
  | fields, current, _, [] => fields ++ [current]
  | fields, current, true, ch :: chars =>
      if ch = quote then
        match chars with
        | next :: rest =>
            if next = quote then parseCsvLoop delimiter quote fields (current.push quote) true rest
            else parseCsvLoop delimiter quote fields current false (next :: rest)
        | [] => parseCsvLoop delimiter quote fields current false []
      else parseCsvLoop delimiter quote fields (current.push ch) true chars
  | fields, current, false, ch :: chars =>
      if ch = delimiter then parseCsvLoop delimiter quote (fields ++ [current]) "" false chars
      else if ch = quote then parseCsvLoop delimiter quote fields current true chars
      else parseCsvLoop delimiter quote fields (current.push ch) false chars

def parseCsvLine (delimiter quote : Char) (line : List Char) : List String :=
  parseCsvLoop delimiter quote [] "" false line

/-- The fields of a line in the text format. -/
def splitTabs (line : List Char) : List String := (line.splitOn '\t').map String.ofList

/-- The complete lines at the front of a buffer, and what is left of it. -/
def completeLines : List Char → List (List Char) × List Char
  | [] => ([], [])
  | c :: buffer =>
      let (lines, rest) := completeLines buffer
      if c = '\n' then ([] :: lines, rest)
      else
        match lines with
        | [] => ([], c :: rest)
        | line :: lines => ((c :: line) :: lines, rest)

/-- The callback of a reader may depend on the lines it has been called with. -/
abbrev Callback := List (List String) → List String → Except PgError Unit

/-- Call back with the fields of each line that is not empty. -/
def callLines (parse : List Char → List String) (f : Callback) :
    List (List String) → List (List Char) → Except PgError (List (List String))
  | seen, [] => .ok seen
  | seen, line :: lines =>
      if line = [] then callLines parse f seen lines
      else
        match f seen (parse line) with
        | .ok () => callLines parse f (seen ++ [parse line]) lines
        | .error e => .error e

/-- `trim_end`. -/
def trimEnd (buffer : List Char) : List Char := buffer.rdropWhile CommandTag.isSpace

end Copy

namespace CopyOut

open Copy

/-- The loop over the chunks, with the buffer and the calls made so far. -/
def lineLoop (parse : List Char → List String) (f : Callback) :
    Nat → List Char → List (List String) → Owner CopyOut (List Char × List (List String))
  | 0, _, _ => .wait
  | fuel + 1, buffer, seen => do
      match ← readNext with
      | some chunk =>
          let (lines, rest) := completeLines (buffer ++ LossyUtf8.decode chunk)
          let seen ← .lift (callLines parse f seen lines)
          lineLoop parse f fuel rest seen
      | none => return (buffer, seen)

/-- What `for_each_row` and `for_each_csv_row` share. It returns what the callback was
called with; every chunk takes a message from the inbox. -/
def forEachLine (parse : List Char → List String) (f : Callback) :
    Owner CopyOut (List (List String)) := do
  let (_, conn) ← .get
  let (buffer, seen) ← lineLoop parse f (conn.transport.inbox.length + 1) [] []
  .lift (callLines parse f seen [trimEnd buffer])

def forEachRow (f : Callback) : Owner CopyOut (List (List String)) := forEachLine splitTabs f

def forEachCsvRow (delimiter quote : Char) (f : Callback) : Owner CopyOut (List (List String)) :=
  forEachLine (parseCsvLine delimiter quote) f

end CopyOut

namespace Copy

section Lines

/-- A line, its line feed, and the lines after it. -/
theorem completeLines_line {line : List Char} (hLine : '\n' ∉ line) (buffer : List Char) :
    completeLines (line ++ '\n' :: buffer) =
      (line :: (completeLines buffer).1, (completeLines buffer).2) := by
  induction line with
  | nil => simp [completeLines]
  | cons c line ih =>
      have hNe : c ≠ '\n' := fun hEq => hLine (hEq ▸ List.mem_cons_self)
      have hRest := ih fun hMem => hLine (List.mem_cons_of_mem _ hMem)
      rw [List.cons_append, completeLines, hRest]
      simp [hNe]

theorem completeLines_of_not_mem {buffer : List Char} (h : '\n' ∉ buffer) :
    completeLines buffer = ([], buffer) := by
  induction buffer with
  | nil => rfl
  | cons c buffer ih =>
      have hNe : c ≠ '\n' := fun hEq => h (hEq ▸ List.mem_cons_self)
      rw [completeLines, ih fun hMem => h (List.mem_cons_of_mem _ hMem)]
      simp [hNe]

/-- Lines, each with its line feed. -/
theorem completeLines_lines {lines : List (List Char)} (h : ∀ line ∈ lines, '\n' ∉ line) :
    completeLines (lines.flatMap (· ++ ['\n'])) = (lines, []) := by
  induction lines with
  | nil => rfl
  | cons line lines ih =>
      have hRest := completeLines_line (h line List.mem_cons_self) (lines.flatMap (· ++ ['\n']))
      rw [ih fun l hMem => h l (List.mem_cons_of_mem _ hMem)] at hRest
      simpa using hRest

/-- A buffer is its complete lines and an incomplete one. -/
theorem completeLines_eq (buffer : List Char) :
    buffer = (completeLines buffer).1.flatMap (· ++ ['\n']) ++ (completeLines buffer).2 ∧
      (∀ line ∈ (completeLines buffer).1, '\n' ∉ line) ∧ '\n' ∉ (completeLines buffer).2 := by
  induction buffer with
  | nil => simp [completeLines]
  | cons c buffer ih =>
      obtain ⟨hBuffer, hLines, hRest⟩ := ih
      by_cases hc : c = '\n'
      · simp only [completeLines, if_pos hc]
        refine ⟨?_, ?_, hRest⟩
        · rw [hc, List.flatMap_cons, List.append_assoc, ← hBuffer]
          rfl
        · intro line hMem
          cases List.mem_cons.mp hMem with
          | inl hEq => simp [hEq]
          | inr hLater => exact hLines line hLater
      · have hOther : ¬ '\n' = c := fun hEq => hc hEq.symm
        simp only [completeLines, if_neg hc]
        cases hSplit : (completeLines buffer).1 with
        | nil =>
            rw [hSplit] at hBuffer
            exact ⟨congrArg (c :: ·) hBuffer, by simp, by simp [hOther, hRest]⟩
        | cons line lines =>
            rw [hSplit] at hBuffer hLines
            refine ⟨?_, ?_, hRest⟩
            · conv_lhs => rw [hBuffer]
              simp
            · intro line' hMem
              cases List.mem_cons.mp hMem with
              | inl hEq => simp [hEq, hOther, hLines line List.mem_cons_self]
              | inr hLater => exact hLines line' (List.mem_cons_of_mem _ hLater)

/-- What is left of a buffer waits for the next chunk. -/
theorem completeLines_append (buffer more : List Char) :
    completeLines (buffer ++ more) =
      ((completeLines buffer).1 ++ (completeLines ((completeLines buffer).2 ++ more)).1,
        (completeLines ((completeLines buffer).2 ++ more)).2) := by
  obtain ⟨hBuffer, hLines, hRest⟩ := completeLines_eq buffer
  generalize (completeLines buffer).1 = lines at *
  generalize (completeLines buffer).2 = rest at *
  subst hBuffer
  clear hRest
  induction lines with
  | nil => rfl
  | cons line lines ih =>
      have hStep := completeLines_line (hLines line List.mem_cons_self)
        (lines.flatMap (· ++ ['\n']) ++ rest ++ more)
      rw [ih fun l hMem => hLines l (List.mem_cons_of_mem _ hMem)] at hStep
      simpa using hStep

/-- A callback that accepts every line. -/
def accept : Callback := fun _ _ => .ok ()

theorem callLines_accept (parse : List Char → List String) (seen : List (List String))
    (lines : List (List Char)) :
    callLines parse accept seen lines = .ok (seen ++ (lines.filter (· ≠ [])).map parse) := by
  induction lines generalizing seen with
  | nil => simp [callLines]
  | cons line lines ih =>
      rw [callLines]
      by_cases hLine : line = []
      · simp [hLine, ih]
      · simp [hLine, ih, accept]

end Lines

section Parse

variable (delimiter quote : Char) (fields : List String) (current : String)

theorem parse_outside (ch : Char) (chars : List Char) :
    parseCsvLoop delimiter quote fields current false (ch :: chars) =
      if ch = delimiter then parseCsvLoop delimiter quote (fields ++ [current]) "" false chars
      else if ch = quote then parseCsvLoop delimiter quote fields current true chars
      else parseCsvLoop delimiter quote fields (current.push ch) false chars := by
  cases chars <;> simp [parseCsvLoop]

theorem parse_inside {ch : Char} (h : ch ≠ quote) (chars : List Char) :
    parseCsvLoop delimiter quote fields current true (ch :: chars) =
      parseCsvLoop delimiter quote fields (current.push ch) true chars := by
  cases chars <;> simp [parseCsvLoop, h]

theorem parse_doubledQuote (chars : List Char) :
    parseCsvLoop delimiter quote fields current true (quote :: quote :: chars) =
      parseCsvLoop delimiter quote fields (current.push quote) true chars := by
  rw [parseCsvLoop, if_pos rfl, if_pos rfl]

theorem parse_closing {chars : List Char} (h : chars.head? ≠ some quote) :
    parseCsvLoop delimiter quote fields current true (quote :: chars) =
      parseCsvLoop delimiter quote fields current false chars := by
  cases chars with
  | nil => simp [parseCsvLoop]
  | cons next rest =>
      have hNe : next ≠ quote := by simpa using h
      rw [parseCsvLoop, if_pos rfl, if_neg hNe]

/-- How often a character stands in some fields and, where it is the delimiter, at their
ends. -/
def weight (ch : Char) (fields : List String) : Nat :=
  (fields.map fun field => field.toList.count ch + if ch = delimiter then 1 else 0).sum

theorem weight_append_singleton (ch : Char) :
    weight delimiter ch (fields ++ [current]) =
      weight delimiter ch fields + (current.toList.count ch + if ch = delimiter then 1 else 0) := by
  simp [weight]

/-- A character that is not the quote is found again as often as it stands in the line. -/
theorem weight_parseCsvLoop {ch : Char} (hQuote : ch ≠ quote) (inQuotes : Bool)
    (chars : List Char) :
    weight delimiter ch (parseCsvLoop delimiter quote fields current inQuotes chars) =
      weight delimiter ch fields + (current.toList.count ch + if ch = delimiter then 1 else 0) +
        chars.count ch := by
  have hOther : ∀ chars : List Char, (quote :: chars).count ch = chars.count ch :=
    fun chars => List.count_cons_of_ne (Ne.symm hQuote)
  have hPush : ∀ (current : String) (c : Char),
      (current.push c).toList.count ch = current.toList.count ch + [c].count ch := by
    intro current c
    rw [String.toList_push, List.count_append]
  have hCons : ∀ (c : Char) (chars : List Char),
      (c :: chars).count ch = [c].count ch + chars.count ch := by
    intro c chars
    rw [← List.singleton_append, List.count_append]
  fun_induction parseCsvLoop delimiter quote fields current inQuotes chars with
  | case1 fields current _ => rw [weight_append_singleton, List.count_nil, Nat.add_zero]
  | case2 fields current rest ih =>
      -- a doubled quote
      rw [ih, hPush, hOther, hOther, hOther, List.count_nil, Nat.add_zero]
  | case3 fields current next rest _ ih => rw [ih, hOther]
  | case4 fields current ih => rw [ih, hOther]
  | case5 fields current c chars _ ih =>
      rw [ih, hPush, hCons c chars]
      omega
  | case6 fields current chars ih =>
      rw [ih, weight_append_singleton, String.toList_empty, List.count_nil, List.count_cons]
      by_cases hEq : ch = delimiter
      · subst hEq
        simp
        omega
      · have hNe : ¬ delimiter = ch := fun h => hEq h.symm
        simp [hEq, hNe]
  | case7 fields current chars _ ih => rw [ih, hOther]
  | case8 fields current c chars _ _ ih =>
      rw [ih, hPush, hCons c chars]
      omega

theorem weight_parseCsvLine {ch : Char} (hQuote : ch ≠ quote) (line : List Char) :
    weight delimiter ch (parseCsvLine delimiter quote line) =
      (if ch = delimiter then 1 else 0) + line.count ch := by
  rw [parseCsvLine, weight_parseCsvLoop delimiter quote _ _ hQuote]
  simp [weight]

/-- No field has a character that the line does not have. -/
theorem not_mem_parseCsvLine {ch : Char} (hQuote : ch ≠ quote) (hDelimiter : ch ≠ delimiter)
    {line : List Char} (hLine : ch ∉ line) :
    ∀ field ∈ parseCsvLine delimiter quote line, ch ∉ field.toList := by
  have hWeight := weight_parseCsvLine delimiter quote hQuote line
  rw [if_neg hDelimiter, List.count_eq_zero_of_not_mem hLine, weight] at hWeight
  intro field hMem
  have hZero := List.sum_eq_zero_iff_forall_eq_nat.mp hWeight _ (List.mem_map_of_mem hMem)
  exact List.count_eq_zero.mp (by omega)

end Parse

namespace CsvOptions

variable (options : CsvOptions)

theorem parse_plain (fields : List String) {value : List Char}
    (h : ∀ c ∈ value, options.dialect.Plain c) (current : String) (chars : List Char) :
    parseCsvLoop options.delimiter options.quote fields current false (value ++ chars) =
      parseCsvLoop options.delimiter options.quote fields (current ++ String.ofList value) false
        chars := by
  induction value generalizing current with
  | nil => simp
  | cons c value ih =>
      have hDelimiter : c ≠ options.delimiter := (h c List.mem_cons_self).1
      have hQuote : c ≠ options.quote := (h c List.mem_cons_self).2.1
      have hText : current.push c ++ String.ofList value = current ++ String.ofList (c :: value) :=
        String.toList_inj.mp (by simp)
      rw [List.cons_append, parse_outside, if_neg hDelimiter, if_neg hQuote,
        ih fun d hMem => h d (List.mem_cons_of_mem _ hMem), hText]

/-- A doubled value up to its closing quote. -/
theorem parse_doubled (fields : List String) (value : List Char) (current : String)
    {chars : List Char} (hNext : chars.head? ≠ some options.quote) :
    parseCsvLoop options.delimiter options.quote fields current true
        (options.dialect.doubled value ++ options.quote :: chars) =
      parseCsvLoop options.delimiter options.quote fields (current ++ String.ofList value) false
        chars := by
  induction value generalizing current with
  | nil =>
      have hNil : options.dialect.doubled [] = [] := rfl
      rw [hNil, List.nil_append, parse_closing _ _ _ _ hNext]
      simp
  | cons c value ih =>
      have hText : current.push c ++ String.ofList value = current ++ String.ofList (c :: value) :=
        String.toList_inj.mp (by simp)
      have hStep : options.dialect.doubled (c :: value) =
          (if c = options.quote then [c, c] else [c]) ++ options.dialect.doubled value := by
        rfl
      rw [hStep, ← hText, ← ih (current.push c)]
      by_cases hc : c = options.quote
      · rw [if_pos hc, hc]
        exact parse_doubledQuote ..
      · rw [if_neg hc]
        exact parse_inside _ _ _ _ hc _

/-- A written field, up to the delimiter or the end of the line behind it. -/
theorem parse_field (fields : List String) (val : String) (chars : List Char)
    (hNext : chars.head? ≠ some options.quote) :
    parseCsvLoop options.delimiter options.quote fields "" false
        (options.field (some val) ++ chars) =
      parseCsvLoop options.delimiter options.quote fields val false chars := by
  cases hQuote : csvNeedsQuote val options.delimiter options.quote with
  | false =>
      have hPlain := options.plain_of_not_needsQuote val hQuote
      simp only [field, hQuote, Bool.false_eq_true, if_false]
      rw [options.parse_plain fields hPlain]
      simp
  | true =>
      have hOpen : options.quote ≠ options.delimiter := Ne.symm options.delimiter_ne_quote
      have hDoubled := options.parse_doubled fields val.toList "" hNext
      simp only [field, hQuote, if_true, DelimitedText.Dialect.quoted, List.cons_append,
        List.append_assoc, List.nil_append]
      rw [show options.dialect.quote = options.quote from rfl, parse_outside, if_neg hOpen,
        if_pos rfl, hDoubled]
      simp

/-- The reader inverts the writer on one line. -/
theorem parse_join (fields row : List String) (hRow : row ≠ []) :
    parseCsvLoop options.delimiter options.quote fields "" false
        (options.dialect.join (row.map fun val => options.field (some val))) = fields ++ row := by
  induction row generalizing fields with
  | nil => exact absurd rfl hRow
  | cons val row ih =>
      cases row with
      | nil =>
          have hField := options.parse_field fields val [] (by simp)
          rw [List.append_nil] at hField
          rw [List.map_cons, List.map_nil, DelimitedText.Dialect.join_singleton, hField]
          rfl
      | cons next row =>
          have hRest := ih (fields ++ [val]) (List.cons_ne_nil next row)
          have hNext : ∀ chars, (options.delimiter :: chars).head? ≠ some options.quote :=
            fun chars hEq => options.delimiter_ne_quote (Option.some.inj hEq)
          rw [List.map_cons, List.map_cons, DelimitedText.Dialect.join_cons_cons,
            show options.dialect.delimiter = options.delimiter from rfl,
            options.parse_field fields val _ (hNext _), parse_outside, if_pos rfl]
          rw [List.map_cons] at hRest
          rw [hRest]
          simp

end CsvOptions
end Copy
end PgClient
