import PgClient.Copy.CsvRoundTrip
import PgClient.Library.EscapedText

/-!
Rows that were sent in the text format, stored, and sent back in chunks: which of them come
out as they went in. The server reads and writes escapes; the client does neither.
-/

namespace PgClient

open Drive Async Connection Copy EscapedText

namespace Copy

/-- What `write_row` sends. -/
def rowData (columns : List String) : Bytes := lineBytes ("\t".intercalate columns ++ "\n")

theorem writeRow_eq (columns : List String) :
    CopyIn.writeRow columns = CopyIn.write (rowData columns) :=
  rfl

/-- A table of text columns: how many it has, and what it makes of the data of a COPY. -/
structure TextTable where
  width : Nat
  load : Bytes → Option (List (List (Option (List Char))))

/-- Rows that a table can hold. -/
def TextTable.Holds (width : Nat) (rows : List (List (Option (List Char)))) : Prop :=
  ∀ row ∈ rows, row.length = width ∧ ∀ value ∈ row, NullFree value

instance (width : Nat) (rows : List (List (Option (List Char)))) :
    Decidable (TextTable.Holds width rows) :=
  inferInstanceAs (Decidable (∀ row ∈ rows, row.length = width ∧ ∀ value ∈ row, NullFree value))

/-- A table loads what it can hold, and whatever a COPY to the client has written of that. -/
structure TextTable.Documented (table : TextTable) : Prop where
  holds : ∀ data rows, table.load data = some rows → TextTable.Holds table.width rows
  loads : ∀ rows, TextTable.Holds table.width rows →
    table.load (LossyUtf8.encode (text rows)) = some rows

/-- The columns and the chunks that come back as they were: columns that are fields of the
text format already, no row that is an empty line, and chunks that are each a text. -/
structure Returns (rows : List (List String)) (chunks : List Bytes) : Prop where
  escaped : ∀ row ∈ rows, ∀ val ∈ row, isField val.toList = true
  notBlank : ∀ row ∈ rows, row ≠ [""]
  whole : ∀ chunk ∈ chunks, ∃ text, chunk = lineBytes text

/-- A row as a line. -/
def joined (row : List String) : List Char := ['\t'].intercalate (row.map String.toList)

theorem encode_rowData (rows : List (List String)) :
    rows.flatMap rowData = LossyUtf8.encode ((rows.map joined).flatMap (· ++ ['\n'])) := by
  induction rows with
  | nil => rfl
  | cons row rows ih =>
      have hRow : ("\t".intercalate row ++ "\n").toList = joined row ++ ['\n'] := by
        simp [joined, String.toList_intercalate]
      rw [List.flatMap_cons, List.map_cons, List.flatMap_cons, LossyUtf8.encode_append, rowData,
        lineBytes, LossyUtf8.toList_toUTF8, hRow, ih]

theorem joined_splitTabs (chars : List Char) : joined (splitTabs chars) = chars := by
  have hChars : ∀ field ∈ chars.splitOn '\t', (String.toList ∘ String.ofList) field = id field :=
    fun field _ => String.toList_ofList
  rw [joined, splitTabs, List.map_map, List.map_congr_left hChars, List.map_id,
    List.intercalate_splitOn]

theorem splitTabs_joined {row : List String} (hRow : row ≠ [])
    (hTabs : ∀ val ∈ row, '\t' ∉ val.toList) : splitTabs (joined row) = row := by
  have hFields : ∀ field ∈ row.map String.toList, '\t' ∉ field := by
    intro field hMem
    obtain ⟨val, hVal, rfl⟩ := List.mem_map.mp hMem
    exact hTabs val hVal
  have hVals : ∀ val ∈ row, (String.ofList ∘ String.toList) val = id val :=
    fun val _ => String.ofList_toList
  rw [splitTabs, joined, List.splitOn_intercalate '\t' hFields (by simpa using hRow), List.map_map,
    List.map_congr_left hVals, List.map_id]

theorem splitTabs_line {row : List (Option (List Char))} (hRow : row ≠ []) :
    splitTabs (line row) = row.map fun value => String.ofList (field value) := by
  rw [splitTabs, splitOn_line hRow, List.map_map]
  rfl

theorem text_eq (rows : List (List (Option (List Char)))) :
    text rows = (rows.map line).flatMap (· ++ ['\n']) := by
  rw [text, List.flatMap_map]

theorem exists_map {α β γ : Type} {f : β → γ} {g : α → γ} {P : β → Prop} {l : List α}
    (h : ∀ a ∈ l, ∃ b, P b ∧ f b = g a) : ∃ l' : List β, l'.map f = l.map g ∧ ∀ b ∈ l', P b := by
  induction l with
  | nil => exact ⟨[], rfl, by simp⟩
  | cons a l ih =>
      obtain ⟨b, hB, hEq⟩ := h a List.mem_cons_self
      obtain ⟨l', hMap, hAll⟩ := ih fun a hMem => h a (List.mem_cons_of_mem _ hMem)
      exact ⟨b :: l', by simp [hEq, hMap], by simpa [hB] using hAll⟩

/-- Rows of fields are the text of a table. -/
theorem exists_table {rows : List (List String)} {width : Nat}
    (hRows : ∀ row ∈ rows, row.length = width)
    (hEscaped : ∀ row ∈ rows, ∀ val ∈ row, isField val.toList = true) :
    ∃ stored, stored.map line = rows.map joined ∧ TextTable.Holds width stored := by
  apply exists_map
  intro row hMem
  obtain ⟨values, hMap, hFree⟩ := exists_map (f := field) (g := String.toList) (P := NullFree)
    fun val hVal => (isField_iff val.toList).mp (hEscaped row hMem val hVal)
  have hLength : values.length = row.length := by
    simpa using congrArg List.length hMap
  exact ⟨values, ⟨hLength.trans (hRows row hMem), hFree⟩, by rw [line, hMap, joined]⟩

end Copy

namespace CopyOut

variable {table : TextTable} {rows : List (List String)} {chunks : List Bytes}
  {stored : List (List (Option (List Char)))}

/-- The lines that come out of the chunks are those of another table. -/
theorem exists_read (hHolds : TextTable.Holds table.width stored)
    (hData : chunks.flatten = LossyUtf8.encode (text stored)) :
    ∃ read, TextTable.Holds table.width read ∧ read.length = stored.length ∧
      chunks.flatMap LossyUtf8.decode = text read := by
  have hGarbled := LossyUtf8.garbled_pieces hData
  rw [text_eq] at hGarbled
  have hLines : ∀ chars ∈ stored.map line, '\n' ∉ chars := by
    intro chars hMem
    obtain ⟨row, -, rfl⟩ := List.mem_map.mp hMem
    exact not_mem_line row
  obtain ⟨lines, hRead, -, hAll⟩ := garbled_lines hLines hGarbled
  rw [hRead]
  clear hRead hGarbled hLines hData
  induction stored generalizing lines with
  | nil =>
      cases hAll
      exact ⟨[], by simp [TextTable.Holds], rfl, rfl⟩
  | cons row stored ih =>
      obtain ⟨hLength, hFree⟩ := hHolds row List.mem_cons_self
      cases hAll with
      | cons hLine hLater =>
          obtain ⟨row', hLength', hFree', rfl⟩ := garbled_line hFree hLine
          obtain ⟨read, hHolds', hCount, hRead⟩ :=
            ih (fun r hMem => hHolds r (List.mem_cons_of_mem _ hMem)) _ hLater
          refine ⟨row' :: read, ?_, by simp [hCount], ?_⟩
          · intro r hMem
            cases List.mem_cons.mp hMem with
            | inl hEq => exact hEq ▸ ⟨hLength'.trans hLength, hFree'⟩
            | inr hOld => exact hHolds' r hOld
          · rw [List.flatMap_cons, hRead]
            rfl

theorem calls_text (read : List (List (Option (List Char)))) :
    calls splitTabs ((completeLines (text read)).1 ++ [trimEnd (completeLines (text read)).2]) =
      ((read.map line).filter (· ≠ [])).map splitTabs := by
  have hLines : ∀ chars ∈ read.map line, '\n' ∉ chars := by
    intro chars hMem
    obtain ⟨row, -, rfl⟩ := List.mem_map.mp hMem
    exact not_mem_line row
  have hTrim : trimEnd [] = [] := rfl
  rw [text_eq, completeLines_lines hLines, hTrim, calls, List.filter_append]
  simp

/-- The rows that are called back with, sent once more, are the lines that are not empty. -/
theorem rowData_calls (read : List (List (Option (List Char)))) :
    (((read.map line).filter (· ≠ [])).map splitTabs).flatMap rowData =
      LossyUtf8.encode (text (read.filter fun row => line row ≠ [])) := by
  have hJoined : ∀ chars ∈ (read.map line).filter (· ≠ []), (joined ∘ splitTabs) chars = id chars :=
    fun chars _ => joined_splitTabs chars
  rw [encode_rowData, List.map_map, List.map_congr_left hJoined, List.map_id, text_eq,
    List.filter_map]
  rfl

section Returning

variable (hTable : table.Documented) (hWidth : 0 < table.width)
  (hBack : ∀ stored, table.load (rows.flatMap rowData) = some stored →
    chunks.flatten = LossyUtf8.encode (text stored))

include hTable hWidth hBack

theorem calls_of_returns (hRows : ∀ row ∈ rows, row.length = table.width)
    (h : Returns rows chunks) :
    (table.load (rows.flatMap rowData)).isSome ∧
      calls splitTabs ((completeLines (chunks.flatMap LossyUtf8.decode)).1 ++
        [trimEnd (completeLines (chunks.flatMap LossyUtf8.decode)).2]) = rows := by
  obtain ⟨stored, hStored, hHolds⟩ := exists_table hRows h.escaped
  have hSent : rows.flatMap rowData = LossyUtf8.encode (text stored) := by
    rw [encode_rowData, text_eq, hStored]
  have hLoad : table.load (rows.flatMap rowData) = some stored := by
    rw [hSent]
    exact hTable.loads stored hHolds
  have hWhole : ∀ chunk ∈ chunks, ∃ part, chunk = LossyUtf8.encode part := by
    intro chunk hMem
    obtain ⟨text, rfl⟩ := h.whole chunk hMem
    exact ⟨text.toList, LossyUtf8.toList_toUTF8 text⟩
  refine ⟨by simp [hLoad], ?_⟩
  rw [LossyUtf8.decode_of_whole (hBack stored hLoad) hWhole, calls_text, hStored]
  have hSome : ∀ row ∈ rows, row ≠ [] := by
    rintro row hMem rfl
    exact absurd (hRows [] hMem) (Nat.ne_of_lt hWidth)
  have hTabs : ∀ row ∈ rows, ∀ val ∈ row, '\t' ∉ val.toList := by
    intro row hRow val hVal
    obtain ⟨value, -, hField⟩ := (isField_iff val.toList).mp (h.escaped row hRow val hVal)
    rw [← hField]
    exact (not_mem_field value).1
  have hSplit : ∀ row ∈ rows, (splitTabs ∘ joined) row = id row :=
    fun row hMem => splitTabs_joined (hSome row hMem) (hTabs row hMem)
  have hFull : (rows.map joined).filter (· ≠ []) = rows.map joined := by
    rw [List.filter_eq_self]
    intro chars hMem
    obtain ⟨row, hRow, rfl⟩ := List.mem_map.mp hMem
    have hOther : joined row ≠ [] := by
      intro hNil
      have hBlank := hSplit row hRow
      rw [Function.comp_apply, hNil] at hBlank
      exact h.notBlank row hRow hBlank.symm
    simpa using hOther
  rw [hFull, List.map_map, List.map_congr_left hSplit, List.map_id]

theorem returns_of_calls (hLoaded : (table.load (rows.flatMap rowData)).isSome)
    (h : calls splitTabs ((completeLines (chunks.flatMap LossyUtf8.decode)).1 ++
      [trimEnd (completeLines (chunks.flatMap LossyUtf8.decode)).2]) = rows) :
    Returns rows chunks := by
  obtain ⟨stored, hLoad⟩ := Option.isSome_iff_exists.mp hLoaded
  have hHolds := hTable.holds _ _ hLoad
  obtain ⟨read, hRead, hLength, hText⟩ := exists_read hHolds (hBack stored hLoad)
  rw [hText, calls_text] at h
  -- what was sent is the text of what has come out, so that is what was stored
  have hKept : TextTable.Holds table.width (read.filter fun row => line row ≠ []) :=
    fun row hMem => hRead row (List.mem_of_mem_filter hMem)
  have hSent := rowData_calls read
  rw [h] at hSent
  rw [hSent, hTable.loads _ hKept] at hLoad
  have hAll : read.filter (fun row => line row ≠ []) = read := by
    apply List.filter_eq_self.mpr
    apply List.length_filter_eq_length_iff.mp
    rw [Option.some.inj hLoad, hLength]
  rw [hAll] at hLoad
  obtain rfl := Option.some.inj hLoad
  have hSome : ∀ row ∈ read, row ≠ [] := by
    rintro row hMem rfl
    exact absurd (hRead [] hMem).1 (Nat.ne_of_lt hWidth)
  have hLines : ∀ row ∈ read, line row ≠ [] := by
    intro row hMem
    simpa using List.filter_eq_self.mp hAll row hMem
  have hFull : (read.map line).filter (· ≠ []) = read.map line := by
    rw [List.filter_eq_self]
    intro chars hMem
    obtain ⟨row, hRow, rfl⟩ := List.mem_map.mp hMem
    simpa using hLines row hRow
  rw [hFull, List.map_map] at h
  subst h
  refine ⟨?_, ?_, ?_⟩
  · intro row hMem val hVal
    obtain ⟨row, hRow, rfl⟩ := List.mem_map.mp hMem
    rw [Function.comp_apply, splitTabs_line (hSome row hRow)] at hVal
    obtain ⟨value, hValue, rfl⟩ := List.mem_map.mp hVal
    rw [String.toList_ofList]
    exact (isField_iff _).mpr ⟨value, (hRead row hRow).2 value hValue, rfl⟩
  · intro row hMem hBlank
    obtain ⟨row, hRow, rfl⟩ := List.mem_map.mp hMem
    have hJoined := joined_splitTabs (line row)
    rw [show splitTabs (line row) = [""] from hBlank] at hJoined
    exact hLines row hRow hJoined.symm
  · have hData := hBack read (by rw [hSent, hAll]; exact hTable.loads read hHolds)
    have hWhole := LossyUtf8.whole_of_count_le hData (by rw [hText])
    intro chunk hMem
    obtain ⟨part, hPart⟩ := hWhole chunk hMem
    refine ⟨String.ofList part, ?_⟩
    rw [lineBytes, LossyUtf8.toList_toUTF8, String.toList_ofList, hPart]

end Returning

/-- The rows come back as they were sent if and only if their columns are fields of the text
format already, none is an empty line, and no character is cut in two. -/
theorem forEachRow_textRoundTrip (net : Network) (copy : CopyOut) {conn : Connection}
    {tag : Option String} {status : UInt8} (table : TextTable) (hTable : table.Documented)
    (hWidth : 0 < table.width) (rows : List (List String)) (chunks : List Bytes)
    (hRows : ∀ row ∈ rows, row.length = table.width)
    (hBack : ∀ stored, table.load (rows.flatMap rowData) = some stored →
      chunks.flatten = LossyUtf8.encode (text stored))
    (hReply : Interleaves conn.transport.inbox (copyReply chunks tag status)) :
    ((table.load (rows.flatMap rowData)).isSome ∧
      (forEachRow accept net (copy, conn)).1 = .ok rows) ↔ Returns rows chunks := by
  rw [forEachRow, forEachLine_accept net copy splitTabs hReply]
  constructor
  · intro ⟨hLoaded, hCalls⟩
    exact returns_of_calls hTable hWidth hBack hLoaded (Outcome.ok.inj hCalls)
  · intro h
    obtain ⟨hLoaded, hCalls⟩ := calls_of_returns hTable hWidth hBack hRows h
    exact ⟨hLoaded, congrArg Outcome.ok hCalls⟩

section Examples

/-- A table that reads its data by the format alone. -/
def textTable (width : Nat) : TextTable where
  width := width
  load := fun data =>
    if TextTable.Holds width (readText (LossyUtf8.decode data)) then
      some (readText (LossyUtf8.decode data))
    else none

theorem documented_textTable {width : Nat} (hWidth : 0 < width) :
    (textTable width).Documented where
  holds := by
    intro data rows hLoad
    simp only [textTable] at hLoad
    split at hLoad
    · cases hLoad
      assumption
    · cases hLoad
  loads := by
    intro rows hHolds
    have hSome : ∀ row ∈ rows, row ≠ [] := by
      rintro row hMem rfl
      exact absurd (hHolds [] hMem).1 (Nat.ne_of_lt hWidth)
    have hRead := readText_text hSome fun row hMem => (hHolds row hMem).2
    simp only [textTable, LossyUtf8.decode_encode, hRead]
    exact if_pos hHolds

theorem load_textTable (width : Nat) (rows : List (List String)) :
    (textTable width).load (rows.flatMap rowData) =
      if TextTable.Holds width (readText ((rows.map joined).flatMap (· ++ ['\n']))) then
        some (readText ((rows.map joined).flatMap (· ++ ['\n'])))
      else none := by
  simp only [textTable, encode_rowData, LossyUtf8.decode_encode]

/-- One row of two columns, in one chunk. -/
theorem forEachRow_textRoundTrip_one :
    (forEachRow accept ReplyTable.oneRow.network
      (opened, received [rowData ["1", "a b"]])).1 = .ok [["1", "a b"]] := by
  have hBoth := (forEachRow_textRoundTrip ReplyTable.oneRow.network opened (textTable 2)
    (documented_textTable (by decide)) (by decide) [["1", "a b"]] [rowData ["1", "a b"]]
    (by decide) ?_ (received_interleaves _)).mpr ⟨?_, by decide, ?_⟩
  · exact hBoth.2
  · intro stored hLoad
    rw [load_textTable] at hLoad
    have hStored : [[some ['1'], some ['a', ' ', 'b']]] = stored := by
      have hRead : readText (([["1", "a b"]].map joined).flatMap (· ++ ['\n'])) =
          [[some ['1'], some ['a', ' ', 'b']]] := by decide
      rw [hRead, if_pos (by decide)] at hLoad
      exact Option.some.inj hLoad
    have hData := encode_rowData [["1", "a b"]]
    rw [List.flatMap_singleton] at hData
    rw [← hStored, List.flatten_singleton, hData]
    rfl
  · decide
  · intro chunk hMem
    exact ⟨_, List.mem_singleton.mp hMem⟩

/-- A backslash is taken for the beginning of an escape, and lost. -/
theorem forEachRow_backslash :
    ¬ ∀ net copy conn tag status (table : TextTable) rows chunks, table.Documented →
      0 < table.width → (∀ row ∈ rows, row.length = table.width) →
      (∀ stored, table.load (rows.flatMap rowData) = some stored →
        chunks.flatten = LossyUtf8.encode (text stored)) →
      Interleaves conn.transport.inbox (copyReply chunks tag status) →
      (table.load (rows.flatMap rowData)).isSome ∧
        (forEachRow accept net (copy, conn)).1 = .ok rows := by
  intro hAll
  have hBack := hAll ReplyTable.oneRow.network opened
    (received [LossyUtf8.encode (text [[some ['x', 'y']]])]) (some "COPY 1") 73 (textTable 1)
    [["x\\y"]] [LossyUtf8.encode (text [[some ['x', 'y']]])] (documented_textTable (by decide))
    (by decide) (by decide) ?_ (received_interleaves _)
  · have hCalls := hBack.2
    rw [forEachRow, forEachLine_accept _ _ _ (received_interleaves _), List.flatMap_singleton,
      LossyUtf8.decode_encode] at hCalls
    revert hCalls
    decide
  · intro stored hLoad
    rw [load_textTable] at hLoad
    have hRead : readText (([["x\\y"]].map joined).flatMap (· ++ ['\n'])) =
        [[some ['x', 'y']]] := by decide
    rw [hRead, if_pos (by decide)] at hLoad
    rw [← Option.some.inj hLoad, List.flatten_singleton]

end Examples

end CopyOut
end PgClient
