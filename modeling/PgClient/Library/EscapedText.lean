import PgClient.Library.LossyUtf8

/-!
Tables as lines of escaped fields. Fields stand between tabs and rows end with line feeds, so
these characters, backslashes and the other control characters with a name are written as
escapes; a missing value has an escape of its own.
-/

namespace EscapedText

open LossyUtf8

/-- The letter of the escape of a character, if it has one. -/
def letter (c : Char) : Option Char :=
  match c with
  | '\\' => some '\\'
  | '\x08' => some 'b'
  | '\x0C' => some 'f'
  | '\n' => some 'n'
  | '\r' => some 'r'
  | '\t' => some 't'
  | '\x0B' => some 'v'
  | _ => none

def escape (c : Char) : List Char :=
  match letter c with
  | some d => ['\\', d]
  | none => [c]

def field : Option (List Char) → List Char
  | none => ['\\', 'N']
  | some value => value.flatMap escape

def line (row : List (Option (List Char))) : List Char := ['\t'].intercalate (row.map field)

def text (rows : List (List (Option (List Char)))) : List Char :=
  rows.flatMap fun row => line row ++ ['\n']

/-- A text of escapes and of characters that have none, without the null character. -/
def isEscaped : List Char → Bool
  | [] => true
  | c :: rest =>
      if c = '\\' then
        match rest with
        | d :: later => d ∈ ['\\', 'b', 'f', 'n', 'r', 't', 'v'] && isEscaped later
        | [] => false
      else letter c = none && c ≠ '\x00' && isEscaped rest

/-- A text that is a field: the escape of a value, or of a missing one. -/
def isField (chars : List Char) : Bool := chars = ['\\', 'N'] || isEscaped chars

def NullFree (value : Option (List Char)) : Prop := ∀ chars ∈ value, '\x00' ∉ chars

instance (value : Option (List Char)) : Decidable (NullFree value) :=
  match value with
  | none => isTrue (by simp [NullFree])
  | some chars => decidable_of_iff ('\x00' ∉ chars) (by simp [NullFree])

section Escapes

theorem escape_cases (c : Char) :
    (∃ d, letter c = some d ∧ escape c = ['\\', d] ∧ d ∈ ['\\', 'b', 'f', 'n', 'r', 't', 'v'] ∧
        c ≠ '\x00') ∨
      letter c = none ∧ escape c = [c] ∧ c ≠ '\\' ∧ c ≠ '\t' ∧ c ≠ '\n' := by
  cases h : letter c with
  | some d =>
      refine .inl ⟨d, rfl, by simp [escape, h], ?_, ?_⟩
      · simp only [letter] at h
        split at h <;> cases h <;> decide
      · rintro rfl
        cases h
  | none =>
      refine .inr ⟨rfl, by simp [escape, h], ?_, ?_, ?_⟩ <;>
      · rintro rfl
        cases h

theorem exists_letter {d : Char} (h : d ∈ ['\\', 'b', 'f', 'n', 'r', 't', 'v']) :
    ∃ c, letter c = some d ∧ c ≠ '\x00' := by
  simp only [List.mem_cons, List.not_mem_nil, or_false] at h
  obtain rfl | rfl | rfl | rfl | rfl | rfl | rfl := h
  · exact ⟨'\\', rfl, by decide⟩
  · exact ⟨'\x08', rfl, by decide⟩
  · exact ⟨'\x0C', rfl, by decide⟩
  · exact ⟨'\n', rfl, by decide⟩
  · exact ⟨'\r', rfl, by decide⟩
  · exact ⟨'\t', rfl, by decide⟩
  · exact ⟨'\x0B', rfl, by decide⟩

theorem not_mem_escape (c : Char) : '\t' ∉ escape c ∧ '\n' ∉ escape c := by
  obtain ⟨d, -, hEscape, hLetter, -⟩ | ⟨-, hEscape, -, hTab, hBreak⟩ := escape_cases c
  · rw [hEscape]
    simp only [List.mem_cons, List.not_mem_nil, or_false] at hLetter
    obtain rfl | rfl | rfl | rfl | rfl | rfl | rfl := hLetter <;> decide
  · rw [hEscape]
    exact ⟨by simpa using Ne.symm hTab, by simpa using Ne.symm hBreak⟩

theorem not_mem_field (value : Option (List Char)) : '\t' ∉ field value ∧ '\n' ∉ field value := by
  cases value with
  | none => decide
  | some chars =>
      constructor
      all_goals
        intro hMem
        obtain ⟨c, -, hMem⟩ := List.mem_flatMap.mp hMem
      · exact (not_mem_escape c).1 hMem
      · exact (not_mem_escape c).2 hMem

theorem not_mem_line (row : List (Option (List Char))) : '\n' ∉ line row := by
  rw [line]
  induction row with
  | nil => exact List.not_mem_nil
  | cons value row ih =>
      cases row with
      | nil => simpa using (not_mem_field value).2
      | cons next row =>
          simp only [List.map_cons, List.intercalate_cons_cons, List.mem_append, not_or] at ih ⊢
          exact ⟨⟨(not_mem_field value).2, by decide⟩, ih⟩

end Escapes

section Fields

theorem isEscaped_flatMap {value : List Char} (h : '\x00' ∉ value) :
    isEscaped (value.flatMap escape) = true := by
  induction value with
  | nil => rfl
  | cons c value ih =>
      have hThis : c ≠ '\x00' := fun hEq => h (hEq ▸ List.mem_cons_self)
      have hRest := ih fun hMem => h (List.mem_cons_of_mem _ hMem)
      rw [List.flatMap_cons]
      obtain ⟨d, -, hEscape, hLetter, -⟩ | ⟨hNone, hEscape, hSlash, -⟩ := escape_cases c
      · rw [hEscape, List.cons_append, isEscaped.eq_def]
        simpa [hRest] using hLetter
      · rw [hEscape, List.cons_append, isEscaped.eq_def]
        simp [hSlash, hNone, hThis, hRest]

theorem exists_of_isEscaped {chars : List Char} (h : isEscaped chars = true) :
    ∃ value : List Char, '\x00' ∉ value ∧ value.flatMap escape = chars := by
  induction chars using isEscaped.induct with
  | case1 => exact ⟨[], List.not_mem_nil, rfl⟩
  | case2 d later ih =>
      rw [isEscaped.eq_def] at h
      simp only [if_true, Bool.and_eq_true, decide_eq_true_iff] at h
      obtain ⟨c, hLetter, hNull⟩ := exists_letter h.1
      obtain ⟨value, hFree, rfl⟩ := ih h.2
      exact ⟨c :: value, by simp [Ne.symm hNull, hFree], by simp [escape, hLetter]⟩
  | case3 => cases h
  | case4 c rest hSlash ih =>
      rw [isEscaped.eq_def] at h
      simp only [hSlash, if_false, Bool.and_eq_true, decide_eq_true_iff] at h
      obtain ⟨⟨hNone, hNull⟩, hRest⟩ := h
      obtain ⟨value, hFree, rfl⟩ := ih hRest
      exact ⟨c :: value, by simp [Ne.symm hNull, hFree], by simp [escape, hNone]⟩

theorem isField_iff (chars : List Char) :
    isField chars = true ↔ ∃ value, NullFree value ∧ field value = chars := by
  rw [isField, Bool.or_eq_true, decide_eq_true_iff]
  constructor
  · rintro (rfl | h)
    · exact ⟨none, by simp [NullFree], rfl⟩
    · obtain ⟨value, hFree, hValue⟩ := exists_of_isEscaped h
      exact ⟨some value, fun _ hMem => by cases hMem; exact hFree, hValue⟩
  · rintro ⟨_ | value, hFree, rfl⟩
    · exact .inl rfl
    · exact .inr (isEscaped_flatMap (hFree value rfl))

end Fields

section Reading

/-- The character of an escape. -/
def unletter (d : Char) : Char :=
  match d with
  | 'b' => '\x08'
  | 'f' => '\x0C'
  | 'n' => '\n'
  | 'r' => '\r'
  | 't' => '\t'
  | 'v' => '\x0B'
  | d => d

def unescape : List Char → List Char
  | [] => []
  | c :: rest =>
      if c = '\\' then
        match rest with
        | d :: later => unletter d :: unescape later
        | [] => [c]
      else c :: unescape rest

def readField (chars : List Char) : Option (List Char) :=
  if chars = ['\\', 'N'] then none else some (unescape chars)

def readText (chars : List Char) : List (List (Option (List Char))) :=
  (chars.splitOn '\n').dropLast.map fun line => (line.splitOn '\t').map readField

theorem unletter_letter {c d : Char} (h : letter c = some d) : unletter d = c := by
  simp only [letter] at h
  split at h <;> cases h <;> rfl

theorem unescape_escape (c : Char) (rest : List Char) :
    unescape (escape c ++ rest) = c :: unescape rest := by
  obtain ⟨d, hLetter, hEscape, -⟩ | ⟨-, hEscape, hSlash, -⟩ := escape_cases c
  · rw [hEscape, List.cons_append, unescape.eq_def]
    simp [unletter_letter hLetter]
  · rw [hEscape, List.cons_append, unescape.eq_def]
    simp [hSlash]

theorem unescape_flatMap (value : List Char) : unescape (value.flatMap escape) = value := by
  induction value with
  | nil => rfl
  | cons c value ih => rw [List.flatMap_cons, unescape_escape, ih]

theorem readField_field {value : Option (List Char)} (hFree : NullFree value) :
    readField (field value) = value := by
  cases value with
  | none => rfl
  | some chars =>
      have hOther : field (some chars) ≠ ['\\', 'N'] := by
        intro hEq
        have hEscaped := isEscaped_flatMap (hFree chars rfl)
        rw [show chars.flatMap escape = ['\\', 'N'] from hEq] at hEscaped
        exact absurd hEscaped (by decide)
      rw [readField, if_neg hOther, field, unescape_flatMap]

theorem splitOn_line {row : List (Option (List Char))} (hRow : row ≠ []) :
    (line row).splitOn '\t' = row.map field := by
  rw [line, List.splitOn_intercalate '\t' ?_ (by simpa using hRow)]
  intro chars hMem
  obtain ⟨value, -, rfl⟩ := List.mem_map.mp hMem
  exact (not_mem_field value).1

/-- A table is read back from its text. -/
theorem readText_text {rows : List (List (Option (List Char)))} (hRows : ∀ row ∈ rows, row ≠ [])
    (hFree : ∀ row ∈ rows, ∀ value ∈ row, NullFree value) : readText (text rows) = rows := by
  have hSplit : (text rows).splitOn '\n' = rows.map line ++ [[]] := by
    clear hRows hFree
    induction rows with
    | nil => rfl
    | cons row rows ih =>
        rw [text, List.flatMap_cons, List.append_assoc, List.singleton_append,
          List.splitOn_append_cons_self_of_not_mem (not_mem_line row)]
        exact congrArg (line row :: ·) ih
  have hRead : ∀ row ∈ rows, (((line row).splitOn '\t').map readField) = id row := by
    intro row hMem
    rw [splitOn_line (hRows row hMem), List.map_map]
    exact (List.map_congr_left fun value hValue => readField_field
      (hFree row hMem value hValue)).trans
      (List.map_id row)
  rw [readText, hSplit, List.dropLast_concat, List.map_map]
  exact (List.map_congr_left hRead).trans (List.map_id rows)

end Reading

section Garbled

/-- A character of one byte is kept. -/
theorem garbled_cons {c : Char} (hOne : c.utf8Size = 1) {chars read : List Char}
    (h : Garbled (c :: chars) read) : ∃ later, read = c :: later ∧ Garbled chars later := by
  cases h with
  | keep _ hLater => exact ⟨_, rfl, hLater⟩
  | cut hSize => omega

theorem flatMap_replicate (n : Nat) : (List.replicate n replacement).flatMap escape =
    List.replicate n replacement := by
  induction n with
  | zero => rfl
  | succ n ih =>
      rw [List.replicate_succ, List.flatMap_cons, ih]
      rfl

/-- Cutting characters makes a field into a field. -/
theorem garbled_field {value : Option (List Char)} (hFree : NullFree value) {read : List Char}
    (h : Garbled (field value) read) : ∃ value', NullFree value' ∧ field value' = read := by
  cases value with
  | none =>
      obtain ⟨_, hRead, hFirst⟩ := garbled_cons (by decide) h
      obtain ⟨_, hLater, hSecond⟩ := garbled_cons (by decide) hFirst
      cases hSecond
      exact ⟨none, hFree, by rw [hRead, hLater]; rfl⟩
  | some chars =>
      have hChars : '\x00' ∉ chars := hFree chars rfl
      have hRead : ∃ chars' : List Char, '\x00' ∉ chars' ∧ chars'.flatMap escape = read := by
        clear hFree
        rw [field] at h
        induction chars generalizing read with
        | nil =>
            cases h
            exact ⟨[], List.not_mem_nil, rfl⟩
        | cons c chars ih =>
            have hThis : c ≠ '\x00' := fun hEq => hChars (hEq ▸ List.mem_cons_self)
            have hRest : '\x00' ∉ chars := fun hMem => hChars (List.mem_cons_of_mem _ hMem)
            rw [List.flatMap_cons] at h
            obtain ⟨d, hSome, hEscape, hLetter, -⟩ | ⟨hNone, hEscape, -⟩ := escape_cases c
            · rw [hEscape] at h
              have hSize : d.utf8Size = 1 := by
                simp only [List.mem_cons, List.not_mem_nil, or_false] at hLetter
                obtain rfl | rfl | rfl | rfl | rfl | rfl | rfl := hLetter <;> decide
              obtain ⟨_, rfl, hFirst⟩ := garbled_cons (by decide) h
              obtain ⟨later, rfl, hSecond⟩ := garbled_cons hSize hFirst
              obtain ⟨chars', hFree', rfl⟩ := ih hSecond hRest
              exact ⟨c :: chars', by simp [Ne.symm hThis, hFree'], by simp [hEscape]⟩
            · rw [hEscape, List.singleton_append] at h
              cases h with
              | keep _ hLater =>
                  obtain ⟨chars', hFree', rfl⟩ := ih hLater hRest
                  exact ⟨c :: chars', by simp [Ne.symm hThis, hFree'], by simp [hEscape]⟩
              | cut _ _ hLater =>
                  obtain ⟨chars', hFree', rfl⟩ := ih hLater hRest
                  refine ⟨_ ++ chars', ?_, by rw [List.flatMap_append, flatMap_replicate]⟩
                  simp [List.mem_replicate, hFree', replacement]
      obtain ⟨chars', hFree', rfl⟩ := hRead
      exact ⟨some chars', fun _ hMem => by cases hMem; exact hFree', rfl⟩

/-- Cutting characters makes a row into a row. -/
theorem garbled_line {row : List (Option (List Char))} (hFree : ∀ value ∈ row, NullFree value)
    {read : List Char} (h : Garbled (line row) read) :
    ∃ row', row'.length = row.length ∧ (∀ value ∈ row', NullFree value) ∧ line row' = read := by
  induction row generalizing read with
  | nil =>
      cases h
      exact ⟨[], rfl, hFree, rfl⟩
  | cons value row ih =>
      have hThis := hFree value List.mem_cons_self
      have hRest : ∀ v ∈ row, NullFree v := fun v hMem => hFree v (List.mem_cons_of_mem _ hMem)
      cases row with
      | nil =>
          obtain ⟨value', hFree', hField⟩ := garbled_field hThis (by simpa [line] using h)
          exact ⟨[value'], rfl, by simpa using hFree', by simpa [line] using hField⟩
      | cons next row =>
          have hLine : line (value :: next :: row) = field value ++ '\t' :: line (next :: row) := by
            simp [line]
          rw [hLine] at h
          obtain ⟨first, later, rfl, -, hFirst, hLater⟩ :=
            h.split_at rfl (by decide) (not_mem_field value).1
          obtain ⟨value', hFree', rfl⟩ := garbled_field hThis hFirst
          obtain ⟨row', hLength, hFreeRow, rfl⟩ := ih hRest hLater
          obtain ⟨next', row', rfl⟩ := List.exists_cons_of_length_pos
            (l := row') (by rw [hLength]; exact Nat.succ_pos _)
          refine ⟨value' :: next' :: row', by simpa using hLength, ?_, by simp [line]⟩
          intro v hMem
          cases List.mem_cons.mp hMem with
          | inl hEq => exact hEq ▸ hFree'
          | inr hOld => exact hFreeRow v hOld

end Garbled

end EscapedText
