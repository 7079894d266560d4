import Mathlib.Data.List.Forall2
import PgClient.Copy.CsvReader
import PgClient.Protocol.TableServer
import PgClient.Replies.Reading

/-!
Rows that were written as CSV and come back in chunks: which of them the reader calls back
with, and what the cuts between the chunks do to them.
-/

namespace PgClient

open Drive Async Connection Copy

namespace CopyOut

variable {net : Network} {copy : CopyOut} {conn : Connection} {tag : Option String} {status : UInt8}

theorem detached_read : Detached readBody := by
  apply detached_asyncFirst
  intro l conn message
  cases message <;> rfl

/-- The reply to a COPY to the client, behind its response. -/
def copyReply (chunks : List Bytes) (tag : Option String) (status : UInt8) : List BackendMessage :=
  chunks.map .copyData ++ [.copyDone, .commandComplete tag, .readyForQuery status]

variable (net copy) in
theorem readNext_chunk {chunk : Bytes} {rest : List BackendMessage}
    (hReply : Interleaves conn.transport.inbox (.copyData chunk :: rest)) :
    ∃ conn', readNext net (copy, conn) = (.ok (some chunk), (copy, conn')) ∧
      Interleaves conn'.transport.inbox rest := by
  have hDrive : drive (localStep readBody) copy (.copyData chunk :: rest) =
      .done (.ok (.chunk chunk)) copy rest := rfl
  obtain ⟨conn', hLoop, hLeft⟩ := detached_read.messageLoop_done net (copy, conn) hReply hDrive
  exact ⟨conn', by rw [readNext, bind_of_ok hLoop]; rfl, hLeft.unread⟩

variable (net copy) in
theorem readNext_finished (hReply : Interleaves conn.transport.inbox (copyReply [] tag status)) :
    ∃ s, readNext net (copy, conn) = (.ok none, s) := by
  have hDrive : drive (localStep readBody) copy (copyReply [] tag status) =
      .done (.ok .finished) { copy with done := true } [] := rfl
  obtain ⟨conn', hLoop, _⟩ := detached_read.messageLoop_done net (copy, conn) hReply hDrive
  exact ⟨({ copy with done := true }, conn'), by rw [readNext, bind_of_ok hLoop]; rfl⟩

/-- What the callback is called with on some lines. -/
def calls (parse : List Char → List String) (lines : List (List Char)) : List (List String) :=
  (lines.filter (· ≠ [])).map parse

variable (net copy) in
/-- The loop sees the lines of all that was decoded. -/
theorem lineLoop_accept (parse : List Char → List String) (chunks : List Bytes) {fuel : Nat}
    (hFuel : chunks.length < fuel) (buffer : List Char)
    (hBuffer : completeLines buffer = ([], buffer))
    (seen : List (List String))
    (hReply : Interleaves conn.transport.inbox (copyReply chunks tag status)) :
    ∃ s, lineLoop parse accept fuel buffer seen net (copy, conn) =
      (.ok ((completeLines (buffer ++ chunks.flatMap LossyUtf8.decode)).2,
        seen ++ calls parse (completeLines (buffer ++ chunks.flatMap LossyUtf8.decode)).1), s) := by
  obtain ⟨fuel, rfl⟩ := Nat.exists_eq_succ_of_ne_zero (Nat.ne_of_gt (Nat.zero_lt_of_lt hFuel))
  induction chunks generalizing fuel buffer seen conn with
  | nil =>
      obtain ⟨s, hNext⟩ := readNext_finished net copy hReply
      refine ⟨s, ?_⟩
      rw [lineLoop, bind_of_ok hNext]
      simp [hBuffer, calls]
  | cons chunk chunks ih =>
      obtain ⟨conn', hNext, hRest⟩ := readNext_chunk net copy hReply
      have hLines := completeLines_append (buffer ++ LossyUtf8.decode chunk)
        (chunks.flatMap LossyUtf8.decode)
      generalize hSplit : completeLines (buffer ++ LossyUtf8.decode chunk) = split at hLines
      obtain ⟨lines, left⟩ := split
      have hLeft : completeLines left = ([], left) := by
        have hRest := (completeLines_eq (buffer ++ LossyUtf8.decode chunk)).2.2
        rw [hSplit] at hRest
        exact completeLines_of_not_mem hRest
      obtain ⟨fuel, rfl⟩ := Nat.exists_eq_succ_of_ne_zero
        (Nat.ne_of_gt (Nat.zero_lt_of_lt (Nat.lt_of_succ_lt_succ hFuel)))
      obtain ⟨s, hLoop⟩ := ih left hLeft (seen ++ calls parse lines) hRest fuel
        (Nat.lt_of_succ_lt_succ hFuel)
      have hCalls : callLines parse accept seen lines = .ok (seen ++ calls parse lines) :=
        callLines_accept parse seen lines
      refine ⟨s, ?_⟩
      rw [List.flatMap_cons, ← List.append_assoc, hLines, lineLoop, bind_of_ok hNext]
      simp only [hSplit, hCalls]
      rw [bind_of_ok (lift_ok_apply ..), hLoop]
      simp [calls]

/-- What `for_each_row` and `for_each_csv_row` call back with. -/
theorem forEachLine_accept (net : Network) (copy : CopyOut) (parse : List Char → List String)
    {chunks : List Bytes} (hReply : Interleaves conn.transport.inbox
      (copyReply chunks tag status)) :
    (forEachLine parse accept net (copy, conn)).1 =
      .ok (calls parse ((completeLines (chunks.flatMap LossyUtf8.decode)).1 ++
        [trimEnd (completeLines (chunks.flatMap LossyUtf8.decode)).2])) := by
  have hFuel : chunks.length < conn.transport.inbox.length + 1 := by
    have hLength := List.length_filter_le (fun entry : Entry => !entry.isAsync) conn.transport.inbox
    rw [hReply, List.length_map, copyReply, List.length_append, List.length_map] at hLength
    omega
  obtain ⟨s, hLoop⟩ := lineLoop_accept net copy parse chunks hFuel [] rfl [] hReply
  rw [forEachLine, bind_of_ok (get_apply ..)]
  simp only
  rw [bind_of_ok hLoop]
  simp only [List.nil_append, callLines_accept, lift_ok_apply]
  simp [calls]

end CopyOut

namespace Copy.CsvOptions

variable (options : CsvOptions)

/-- A row as it stands in its line. -/
def line (row : List String) : List Char :=
  options.dialect.join (row.map fun val => options.field (some val))

theorem toList_csvRow {row : List String} (hRow : row ≠ []) :
    (csvRow row options.delimiter options.quote).toList = options.line row ++ ['\n'] := by
  have hWrite := options.toList_writeRow (row.map some) (by simpa using hRow)
  rw [writeRow, ← csvRow_eq_csvRowWithNull, List.map_map] at hWrite
  exact hWrite

theorem parse_line {row : List String} (hRow : row ≠ []) :
    parseCsvLine options.delimiter options.quote (options.line row) = row :=
  options.parse_join [] row hRow

/-- A row is one line if none of its fields has a line feed. -/
theorem not_mem_line {row : List String} (hRow : row ≠ []) (h : ∀ val ∈ row, '\n' ∉ val.toList) :
    '\n' ∉ options.line row := by
  have hWeight := weight_parseCsvLine options.delimiter options.quote
    (Ne.symm options.quote_not_break.1) (options.line row)
  have hOther : ¬ '\n' = options.delimiter := fun hEq => options.delimiter_not_break.1 hEq.symm
  rw [options.parse_line hRow, if_neg hOther, weight] at hWeight
  have hZero : (row.map fun val => val.toList.count '\n' + if '\n' =
    options.delimiter then 1 else 0).sum = 0 := by
    apply List.sum_eq_zero_iff_forall_eq_nat.mpr
    intro n hMem
    obtain ⟨val, hVal, rfl⟩ := List.mem_map.mp hMem
    rw [List.count_eq_zero_of_not_mem (h val hVal), if_neg hOther]
  exact List.count_eq_zero.mp (by omega)

theorem line_eq_nil_iff {row : List String} (hRow : row ≠ []) :
    options.line row = [] ↔ row = [""] := by
  have hEmpty : options.line [""] = [] := by
    simp [line, field, csvNeedsQuote]
  refine ⟨fun h => ?_, fun h => h ▸ hEmpty⟩
  rw [← options.parse_line hRow, h, ← hEmpty, options.parse_line (by simp)]

/-- The text of some rows. -/
theorem encode_lines {rows : List (List String)} (hRows : ∀ row ∈ rows, row ≠ []) :
    (rows.flatMap fun row => lineBytes (csvRow row options.delimiter options.quote)) =
      LossyUtf8.encode ((rows.map options.line).flatMap (· ++ ['\n'])) := by
  induction rows with
  | nil => rfl
  | cons row rows ih =>
      rw [List.flatMap_cons, List.map_cons, List.flatMap_cons, LossyUtf8.encode_append, lineBytes,
        LossyUtf8.toList_toUTF8, options.toList_csvRow (hRows row List.mem_cons_self),
        ih fun row hMem => hRows row (List.mem_cons_of_mem _ hMem)]

end Copy.CsvOptions

namespace Copy

/-- Garbled lines are still lines. -/
theorem garbled_lines {lines : List (List Char)} (hLines : ∀ line ∈ lines, '\n' ∉ line)
    {read : List Char} (h : LossyUtf8.Garbled (lines.flatMap (· ++ ['\n'])) read) :
    ∃ lines', read = lines'.flatMap (· ++ ['\n']) ∧ (∀ line ∈ lines', '\n' ∉ line) ∧
      List.Forall₂ LossyUtf8.Garbled lines lines' := by
  induction lines generalizing read with
  | nil =>
      cases h
      exact ⟨[], rfl, by simp, .nil⟩
  | cons line lines ih =>
      rw [List.flatMap_cons, List.append_assoc, List.singleton_append] at h
      obtain ⟨line', later, rfl, hNot, hLine, hLater⟩ :=
        h.split_at rfl (by decide) (hLines line List.mem_cons_self)
      obtain ⟨lines', rfl, hLines', hAll⟩ := ih
        (fun l hMem => hLines l (List.mem_cons_of_mem _ hMem)) hLater
      refine ⟨line' :: lines', by simp, ?_, .cons hLine hAll⟩
      intro l hMem
      cases List.mem_cons.mp hMem with
      | inl hEq => exact hEq ▸ hNot
      | inr hOld => exact hLines' l hOld

/-- The rows and the chunks that the reader can put together again: no line feed in a field,
no row that is an empty line, and every chunk the encoding of a text. -/
structure Survives (rows : List (List String)) (chunks : List Bytes) : Prop where
  oneLine : ∀ row ∈ rows, ∀ val ∈ row, '\n' ∉ val.toList
  notBlank : ∀ row ∈ rows, row ≠ [""]
  whole : ∀ chunk ∈ chunks, ∃ text, chunk = lineBytes text

end Copy

namespace CopyOut

section RoundTrip

variable {net : Network} {copy : CopyOut} {conn : Connection} {tag : Option String} {status : UInt8}
  (options : CsvOptions) {rows : List (List String)} {chunks : List Bytes}
  (hRows : ∀ row ∈ rows, row ≠ [])
  (hData : chunks.flatten =
    rows.flatMap fun row => lineBytes (csvRow row options.delimiter options.quote))

include hRows hData

theorem calls_of_survives (h : Survives rows chunks) :
    calls (parseCsvLine options.delimiter options.quote)
      ((completeLines (chunks.flatMap LossyUtf8.decode)).1 ++
        [trimEnd (completeLines (chunks.flatMap LossyUtf8.decode)).2]) = rows := by
  rw [options.encode_lines hRows] at hData
  have hWhole : ∀ chunk ∈ chunks, ∃ part, chunk = LossyUtf8.encode part := by
    intro chunk hMem
    obtain ⟨text, rfl⟩ := h.whole chunk hMem
    exact ⟨text.toList, LossyUtf8.toList_toUTF8 text⟩
  have hLines : ∀ line ∈ rows.map options.line, '\n' ∉ line := by
    intro line hMem
    obtain ⟨row, hRow, rfl⟩ := List.mem_map.mp hMem
    exact options.not_mem_line (hRows row hRow) (h.oneLine row hRow)
  rw [LossyUtf8.decode_of_whole hData hWhole, completeLines_lines hLines]
  have hFull : (rows.map options.line).filter (· ≠ []) = rows.map options.line := by
    rw [List.filter_eq_self]
    intro line hMem
    obtain ⟨row, hRow, rfl⟩ := List.mem_map.mp hMem
    simpa [options.line_eq_nil_iff (hRows row hRow)] using h.notBlank row hRow
  have hTrim : trimEnd [] = [] := rfl
  rw [calls, hTrim, List.filter_append, hFull, List.map_append, List.map_map]
  simp only [ne_eq, List.filter_cons, not_true_eq_false, decide_false, Bool.false_eq_true, if_false,
    List.filter_nil, List.map_nil, List.append_nil]
  have hParse : ∀ row ∈ rows,
      (parseCsvLine options.delimiter options.quote ∘ options.line) row = id row :=
    fun row hMem => options.parse_line (hRows row hMem)
  rw [List.map_congr_left hParse, List.map_id]

/-- The lines that come out, one for each row, where no field has a line feed. -/
theorem exists_garbled (hOne : ∀ row ∈ rows, ∀ val ∈ row, '\n' ∉ val.toList) :
    ∃ lines, completeLines (chunks.flatMap LossyUtf8.decode) = (lines, []) ∧
      chunks.flatMap LossyUtf8.decode = lines.flatMap (· ++ ['\n']) ∧
      List.Forall₂ LossyUtf8.Garbled (rows.map options.line) lines := by
  rw [options.encode_lines hRows] at hData
  have hLines : ∀ line ∈ rows.map options.line, '\n' ∉ line := by
    intro line hMem
    obtain ⟨row, hRow, rfl⟩ := List.mem_map.mp hMem
    exact options.not_mem_line (hRows row hRow) (hOne row hRow)
  obtain ⟨lines, hRead, hNot, hGarbled⟩ := garbled_lines hLines (LossyUtf8.garbled_pieces hData)
  exact ⟨lines, by rw [hRead, completeLines_lines hNot], hRead, hGarbled⟩

theorem survives_of_calls (hQuote : options.quote ≠ LossyUtf8.replacement)
    (h : calls (parseCsvLine options.delimiter options.quote)
      ((completeLines (chunks.flatMap LossyUtf8.decode)).1 ++
        [trimEnd (completeLines (chunks.flatMap LossyUtf8.decode)).2]) = rows) :
    Survives rows chunks := by
  -- no call has a line feed in it, so no row has
  have hOne : ∀ row ∈ rows, ∀ val ∈ row, '\n' ∉ val.toList := by
    intro row hRow
    rw [← h] at hRow
    obtain ⟨line, hLine, rfl⟩ := List.mem_map.mp hRow
    apply not_mem_parseCsvLine _ _ (Ne.symm options.quote_not_break.1)
      (Ne.symm options.delimiter_not_break.1)
    obtain ⟨_, hLines, hRest⟩ := completeLines_eq (chunks.flatMap LossyUtf8.decode)
    cases List.mem_append.mp (List.mem_of_mem_filter hLine) with
    | inl hMem => exact hLines line hMem
    | inr hMem =>
        rw [List.mem_singleton.mp hMem]
        exact fun hBreak => hRest ((List.rdropWhile_prefix _ _).subset hBreak)
  obtain ⟨lines, hSplit, hRead, hGarbled⟩ := exists_garbled options hRows hData hOne
  have hTrim : trimEnd [] = [] := rfl
  rw [hSplit, hTrim, calls, List.filter_append] at h
  simp only [ne_eq, List.filter_cons, not_true_eq_false, decide_false, Bool.false_eq_true, if_false,
    List.filter_nil, List.append_nil] at h
  -- there are as many calls as lines, so none is skipped
  have hLength := hGarbled.length_eq
  rw [List.length_map] at hLength
  have hFilter : (lines.filter fun line => !decide (line = [])).length = lines.length := by
    rw [← hLength, ← h, List.length_map]
    simp
  have hFull : ∀ line ∈ lines, line ≠ [] := by
    simpa using List.length_filter_eq_length_iff.mp hFilter
  have hAll : lines.filter (fun line => decide ¬line = []) = lines :=
    List.filter_eq_self.mpr fun line hMem => by simpa using hFull line hMem
  rw [hAll] at h
  subst h
  rw [List.forall₂_map_left_iff, List.forall₂_map_left_iff, List.forall₂_same] at hGarbled
  refine ⟨hOne, ?_, ?_⟩
  · intro row hMem hBlank
    obtain ⟨line, hLine, rfl⟩ := List.mem_map.mp hMem
    have hNil := (options.line_eq_nil_iff (hRows _ hMem)).mpr hBlank
    exact hFull line hLine ((hGarbled line hLine).eq_nil_iff.mpr hNil)
  · -- a cut character would leave replacement characters that no row has
    have hCount : ∀ line ∈ lines, line.count LossyUtf8.replacement =
        (options.line (parseCsvLine options.delimiter options.quote line)).count
          LossyUtf8.replacement := by
      intro line hMem
      have hRead := weight_parseCsvLine options.delimiter options.quote (Ne.symm hQuote) line
      have hWritten := weight_parseCsvLine options.delimiter options.quote (Ne.symm hQuote)
        (options.line (parseCsvLine options.delimiter options.quote line))
      rw [options.parse_line (hRows _ (List.mem_map_of_mem hMem)), hRead] at hWritten
      omega
    rw [options.encode_lines hRows] at hData
    have hTotal : (chunks.flatMap LossyUtf8.decode).count LossyUtf8.replacement ≤
        (((lines.map (parseCsvLine options.delimiter options.quote)).map options.line).flatMap
          (· ++ ['\n'])).count LossyUtf8.replacement := by
      rw [hRead, List.flatMap_map, List.flatMap_map, List.count_flatMap, List.count_flatMap]
      apply Nat.le_of_eq
      apply congrArg List.sum
      apply List.map_congr_left
      intro line hMem
      simp only [Function.comp_apply, List.count_append, hCount line hMem]
    have hWhole := LossyUtf8.whole_of_count_le hData hTotal
    intro chunk hMem
    obtain ⟨part, hPart⟩ := hWhole chunk hMem
    refine ⟨String.ofList part, ?_⟩
    rw [lineBytes, LossyUtf8.toList_toUTF8, String.toList_ofList, hPart]

end RoundTrip

/-- What was written with `write_csv_row` comes back row by row if it survives the line
splitting and the cuts between the chunks; only with a quote that is the replacement
character itself can it come back in any other case. -/
theorem forEachCsvRow_roundTrip (net : Network) (copy : CopyOut) {conn : Connection}
    {tag : Option String} {status : UInt8} {delimiter quote : Char} {rows : List (List String)}
    {chunks : List Bytes} (hDiffer : delimiter ≠ quote)
    (hDelimiter : delimiter ≠ '\n' ∧ delimiter ≠ '\r') (hQuote : quote ≠ '\n' ∧ quote ≠ '\r')
    (hRows : ∀ row ∈ rows, row ≠ [])
    (hData : chunks.flatten = rows.flatMap fun row => lineBytes (csvRow row delimiter quote))
    (hReply : Interleaves conn.transport.inbox (copyReply chunks tag status)) :
    (Survives rows chunks → (forEachCsvRow delimiter quote accept net (copy, conn)).1 = .ok rows) ∧
      (quote ≠ LossyUtf8.replacement →
        (forEachCsvRow delimiter quote accept net (copy, conn)).1 = .ok rows →
        Survives rows chunks) := by
  let options : CsvOptions :=
    { delimiter, quote, nullString := "", delimiter_ne_quote := hDiffer
      delimiter_not_break := hDelimiter, quote_not_break := hQuote, null_plain := by simp }
  have hRun := forEachLine_accept net copy (parseCsvLine delimiter quote) hReply
  refine ⟨fun h => ?_, fun hOther h => ?_⟩
  · rw [forEachCsvRow, hRun]
    exact congrArg Outcome.ok (calls_of_survives options hRows hData h)
  · rw [forEachCsvRow, hRun] at h
    exact survives_of_calls options hRows hData hOther (Outcome.ok.inj h)

section Examples

/-- A connection on which a COPY to the client has sent these chunks. -/
def received (chunks : List Bytes) : Connection :=
  Connection.new.setInbox ((copyReply chunks (some "COPY 1") 73).map .ok)

theorem received_interleaves (chunks : List Bytes) :
    Interleaves (received chunks).transport.inbox (copyReply chunks (some "COPY 1") 73) := by
  apply List.filter_eq_self.mpr
  intro entry hMem
  obtain ⟨message, hMessage, rfl⟩ := List.mem_map.mp hMem
  simp only [copyReply, List.mem_append, List.mem_map, List.mem_cons, List.not_mem_nil, or_false]
    at hMessage
  obtain ⟨chunk, _, rfl⟩ | rfl | rfl | rfl := hMessage <;> rfl

def opened : CopyOut := { format := 0, columnFormats := [], done := false }

/-- One row in one chunk. -/
theorem forEachCsvRow_roundTrip_one :
    (forEachCsvRow ',' '"' accept ReplyTable.oneRow.network
      (opened, received [lineBytes (csvRow ["1", "a,b"] ',' '"')])).1 = .ok [["1", "a,b"]] := by
  refine (forEachCsvRow_roundTrip ReplyTable.oneRow.network opened (by decide) (by decide)
    (by decide) (by simp) (by simp) (received_interleaves _)).1 ⟨?_, ?_, ?_⟩
  · intro row hRow
    cases List.mem_singleton.mp hRow
    decide
  · intro row hRow
    cases List.mem_singleton.mp hRow
    decide
  · intro chunk hMem
    exact ⟨_, List.mem_singleton.mp hMem⟩

/-- A character that is cut in two between two chunks does not come back. -/
theorem forEachCsvRow_cut_character :
    List.flatten [[0xC3], [0xA9, 0x0A]] =
        [["é"]].flatMap (fun row => lineBytes (csvRow row ',' '"')) ∧
      (forEachCsvRow ',' '"' accept ReplyTable.oneRow.network
        (opened, received [[0xC3], [0xA9, 0x0A]])).1 ≠ .ok [["é"]] := by
  have hData : List.flatten [[0xC3], [0xA9, 0x0A]] =
      [["é"]].flatMap (fun row => lineBytes (csvRow row ',' '"')) := by
    rw [List.flatMap_singleton, lineBytes, LossyUtf8.toList_toUTF8]
    rfl
  refine ⟨hData, fun h => ?_⟩
  rw [forEachCsvRow, forEachLine_accept _ _ _ (received_interleaves _)] at h
  have hSurvives := survives_of_calls CsvOptions.standard (by simp) hData (by decide)
    (Outcome.ok.inj h)
  obtain ⟨text, hText⟩ := hSurvives.whole [0xC3] List.mem_cons_self
  rw [lineBytes, LossyUtf8.toList_toUTF8] at hText
  have hNone : LossyUtf8.decodeChar? [0xC3] = none :=
    LossyUtf8.decodeChar?_start (show String.utf8EncodeChar 'é' =
      [0xC3] ++ [0xA9] from rfl) (by simp)
  cases hChars : text.toList with
  | nil => simp [hChars] at hText
  | cons c chars =>
      rw [hChars, LossyUtf8.encode_cons] at hText
      rw [hText, LossyUtf8.decodeChar?_encode] at hNone
      cases hNone

end Examples

end CopyOut
end PgClient
