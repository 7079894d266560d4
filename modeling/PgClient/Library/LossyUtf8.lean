import Mathlib.Data.List.Basic

/-!
Lossy decoding of UTF-8. A text that arrives in pieces which are decoded one by one comes
out unchanged exactly when every piece is itself the encoding of a text; a character that
is cut in two comes out as several replacement characters.
-/

namespace LossyUtf8

def replacement : Char := '\uFFFD'

/-- The character at the front of some bytes. -/
def decodeChar? (bytes : List UInt8) : Option Char := bytes.toByteArray.utf8DecodeChar? 0

/-- How many bytes may follow the first one of an encoding, and the range of the next. -/
def following (first : UInt8) : Option (Nat × UInt8 × UInt8) :=
  if 0xC2 ≤ first ∧ first ≤ 0xDF then some (1, 0x80, 0xBF)
  else if first = 0xE0 then some (2, 0xA0, 0xBF)
  else if first = 0xED then some (2, 0x80, 0x9F)
  else if 0xE1 ≤ first ∧ first ≤ 0xEF then some (2, 0x80, 0xBF)
  else if first = 0xF0 then some (3, 0x90, 0xBF)
  else if 0xF1 ≤ first ∧ first ≤ 0xF3 then some (3, 0x80, 0xBF)
  else if first = 0xF4 then some (3, 0x80, 0x8F)
  else none

/-- How many bytes one replacement character stands for, where no character begins: as
many as could begin one, else a single one. -/
def brokenLength : List UInt8 → Nat
  | first :: second :: rest =>
      match following first with
      | some (more, low, high) =>
          if low ≤ second ∧ second ≤ high then
            2 + ((rest.take (more - 1)).takeWhile fun b => 0x80 ≤ b && b ≤ 0xBF).length
          else 1
      | none => 1
  | _ => 1

theorem brokenLength_pos (bytes : List UInt8) : 0 < brokenLength bytes := by
  unfold brokenLength
  split
  · split
    · split <;> omega
    · omega
  · omega

def decode (bytes : List UInt8) : List Char :=
  if bytes = [] then []
  else
    match decodeChar? bytes with
    | some c => c :: decode (bytes.drop c.utf8Size)
    | none => replacement :: decode (bytes.drop (brokenLength bytes))
termination_by bytes.length
decreasing_by
  · have hLength := List.length_pos_of_ne_nil ‹bytes ≠ []›
    have hSize := c.utf8Size_pos
    rw [List.length_drop]
    omega
  · have hLength := List.length_pos_of_ne_nil ‹bytes ≠ []›
    have hSize := brokenLength_pos bytes
    rw [List.length_drop]
    omega

def encode (text : List Char) : List UInt8 := text.flatMap String.utf8EncodeChar

@[simp] theorem decode_nil : decode [] = [] := by rw [decode, if_pos rfl]

theorem decode_of_some {bytes : List UInt8} {c : Char} (h : decodeChar? bytes = some c) :
    decode bytes = c :: decode (bytes.drop c.utf8Size) := by
  have hBytes : bytes ≠ [] := by
    intro hNil
    subst hNil
    cases h
  rw [decode, if_neg hBytes, h]

theorem decode_of_none {bytes : List UInt8} (hBytes : bytes ≠ []) (h : decodeChar? bytes = none) :
    decode bytes = replacement :: decode (bytes.drop (brokenLength bytes)) := by
  rw [decode, if_neg hBytes, h]

@[simp] theorem encode_nil : encode [] = [] := rfl

@[simp] theorem encode_cons (c : Char) (text : List Char) :
    encode (c :: text) = String.utf8EncodeChar c ++ encode text := rfl

@[simp] theorem encode_append (text more : List Char) :
    encode (text ++ more) = encode text ++ encode more := List.flatMap_append

private theorem toList_loop (bytes : ByteArray) (i : Nat) (read : List UInt8) :
    ByteArray.toList.loop bytes i read = read.reverse ++ bytes.data.toList.drop i := by
  fun_induction ByteArray.toList.loop bytes i read with
  | case1 i read h ih =>
      have hLt : i < bytes.data.toList.length := by simpa using h
      have hGet : bytes.get! i = bytes.data.toList[i] := by
        rw [ByteArray.get!, getElem!_pos bytes.data i h, Array.getElem_toList]
      rw [ih, List.drop_eq_getElem_cons hLt, hGet]
      simp
  | case2 i read h =>
      have hEnd : bytes.data.toList.length ≤ i := by simpa using h
      simp [List.drop_eq_nil_of_le hEnd]

/-- The bytes of a string. -/
theorem toList_toUTF8 (text : String) : text.toUTF8.toList = encode text.toList := by
  have hBytes : text.toUTF8.toList = text.toUTF8.data.toList := by
    rw [ByteArray.toList, toList_loop]
    rfl
  rw [hBytes, String.toUTF8_eq_toByteArray, ← String.utf8Encode_toList, List.utf8Encode,
    List.toList_data_toByteArray]
  rfl

theorem decodeChar?_encode (c : Char) (rest : List UInt8) :
    decodeChar? (String.utf8EncodeChar c ++ rest) = some c := by
  rw [decodeChar?, List.toByteArray_append]
  exact ByteArray.utf8DecodeChar?_utf8EncodeChar_append

/-- A text decodes to itself, whatever follows it. -/
theorem decode_encode_append (text : List Char) (rest : List UInt8) :
    decode (encode text ++ rest) = text ++ decode rest := by
  induction text with
  | nil => rfl
  | cons c text ih =>
      rw [encode_cons, List.append_assoc, decode_of_some (decodeChar?_encode c _),
        List.drop_left' (String.length_utf8EncodeChar c), ih, List.cons_append]

theorem decode_encode (text : List Char) : decode (encode text) = text := by
  have h := decode_encode_append text []
  simpa using h

/-- A byte that no encoding begins with decodes to a replacement character. -/
theorem decodeChar?_of_not_first {b : UInt8} (h : ¬ b.IsUTF8FirstByte) (rest : List UInt8) :
    decodeChar? (b :: rest) = none := by
  cases hChar : decodeChar? (b :: rest) with
  | none => rfl
  | some c =>
      have hFirst := ByteArray.isUTF8FirstByte_of_isSome_utf8DecodeChar?
        (Option.isSome_iff_exists.mpr ⟨c, hChar⟩)
      rw [List.getElem_toByteArray] at hFirst
      exact absurd hFirst h

theorem following_of_not_first {b : UInt8} (h : ¬ b.IsUTF8FirstByte) : following b = none := by
  have hAll : ∀ i : Fin 256, (UInt8.ofNat i).IsUTF8FirstByte ∨
    following (UInt8.ofNat i) = none := by
    decide +kernel
  have hByte := hAll ⟨b.toNat, b.toNat_lt⟩
  simp only [UInt8.ofNat_toNat] at hByte
  exact hByte.resolve_left h

theorem decode_of_not_first {b : UInt8} (h : ¬ b.IsUTF8FirstByte) (rest : List UInt8) :
    decode (b :: rest) = replacement :: decode rest := by
  have hLength : brokenLength (b :: rest) = 1 := by
    cases rest with
    | nil => rfl
    | cons second rest => simp only [brokenLength, following_of_not_first h]
  rw [decode_of_none (List.cons_ne_nil b rest) (decodeChar?_of_not_first h rest), hLength]
  rfl

theorem decode_not_first_append {tail : List UInt8} (h : ∀ b ∈ tail, ¬ b.IsUTF8FirstByte)
    (rest : List UInt8) :
    decode (tail ++ rest) = List.replicate tail.length replacement ++ decode rest := by
  induction tail with
  | nil => rfl
  | cons b tail ih =>
      rw [List.cons_append, decode_of_not_first (h b List.mem_cons_self),
        ih fun b hMem => h b (List.mem_cons_of_mem _ hMem)]
      rfl

section Cut

variable {c : Char} {start tail : List UInt8} (h : String.utf8EncodeChar c = start ++ tail)

include h

/-- After its first byte an encoding has none that begins one. -/
theorem not_first_of_tail (hStart : start ≠ []) : ∀ b ∈ tail, ¬ b.IsUTF8FirstByte := by
  intro b hMem
  obtain ⟨i, hi, rfl⟩ := List.mem_iff_getElem.mp hMem
  have hLength : start.length + i < (String.utf8EncodeChar c).length := by
    rw [h, List.length_append]
    omega
  have hByte : (String.utf8EncodeChar c)[start.length + i] = tail[i] := by
    simp only [h]
    rw [List.getElem_append_right (Nat.le_add_right ..)]
    simp
  rw [← hByte, UInt8.isUTF8FirstByte_getElem_utf8EncodeChar]
  have hPos := List.length_pos_of_ne_nil hStart
  omega

theorem decodeChar?_start (hTail : tail ≠ []) : decodeChar? start = none := by
  cases hChar : decodeChar? start with
  | none => rfl
  | some c' =>
      have hWhole := ByteArray.utf8DecodeChar?_append_eq_some hChar tail.toByteArray
      rw [← List.toByteArray_append, ← h] at hWhole
      have hSame := decodeChar?_encode c []
      rw [List.append_nil] at hSame
      cases hSame.symm.trans hWhole
      have hSize := ByteArray.le_size_of_utf8DecodeChar?_eq_some hChar
      have hLength := congrArg List.length h
      have hPos := List.length_pos_of_ne_nil hTail
      rw [String.length_utf8EncodeChar, List.length_append] at hLength
      rw [List.size_toByteArray] at hSize
      omega

/-- The start of an encoding decodes to replacement characters. -/
theorem decode_start (hStart : start ≠ []) (hTail : tail ≠ []) :
    ∃ n, 1 ≤ n ∧ decode start = List.replicate n replacement := by
  have hLater : ∀ b ∈ start.drop (brokenLength start), ¬ b.IsUTF8FirstByte := by
    intro b hMem
    have hSplit : String.utf8EncodeChar c =
        start.take (brokenLength start) ++ (start.drop (brokenLength start) ++ tail) := by
      rw [h, ← List.append_assoc, List.take_append_drop]
    have hTake : start.take (brokenLength start) ≠ [] := by
      have hPos := brokenLength_pos start
      have hLength := List.length_pos_of_ne_nil hStart
      apply List.ne_nil_of_length_pos
      rw [List.length_take]
      omega
    exact not_first_of_tail hSplit hTake b (List.mem_append_left _ hMem)
  have hRest := decode_not_first_append hLater []
  rw [List.append_nil, decode_nil, List.append_nil] at hRest
  refine ⟨(start.drop (brokenLength start)).length + 1, Nat.le_add_left .., ?_⟩
  rw [decode_of_none hStart (decodeChar?_start h hTail), hRest, List.replicate_succ]

end Cut

/-- What decoding may make of a text that was cut into pieces. -/
inductive Garbled : List Char → List Char → Prop where
  | nil : Garbled [] []
  | keep (c : Char) {text read : List Char} (h : Garbled text read) : Garbled (c :: text)
      (c :: read)
  | cut {c : Char} (hSize : 1 < c.utf8Size) {n : Nat} (hTwo : 2 ≤ n) {text read : List Char}
      (h : Garbled text read) : Garbled (c :: text) (List.replicate n replacement ++ read)

namespace Garbled

theorem append_left (text : List Char) {more read : List Char} (h : Garbled more read) :
    Garbled (text ++ more) (text ++ read) := by
  induction text with
  | nil => exact h
  | cons c text ih => exact ih.keep c

theorem count_le {text read : List Char} (h : Garbled text read) :
    text.count replacement ≤ read.count replacement := by
  induction h with
  | nil => exact Nat.le_refl _
  | keep c _ ih =>
      rw [List.count_cons, List.count_cons]
      omega
  | cut _ hTwo _ ih =>
      rw [List.count_cons, List.count_append, List.count_replicate_self]
      split <;> omega

/-- A character of one byte cannot be cut. -/
theorem split_at {c : Char} (hOne : c.utf8Size = 1) (hOther : c ≠ replacement)
    {first later read : List Char} (h : Garbled (first ++ c :: later) read) (hFirst : c ∉ first) :
    ∃ first' later', read = first' ++ c :: later' ∧ c ∉ first' ∧ Garbled first first' ∧
      Garbled later later' := by
  induction first generalizing read with
  | nil =>
      cases h with
      | keep _ hLater => exact ⟨[], _, rfl, List.not_mem_nil, .nil, hLater⟩
      | cut hSize => omega
  | cons d first ih =>
      have hNe : c ≠ d := fun hEq => hFirst (hEq ▸ List.mem_cons_self)
      have hRest : c ∉ first := fun hMem => hFirst (List.mem_cons_of_mem _ hMem)
      cases h with
      | keep _ hLater =>
          obtain ⟨first', later', rfl, hNot, hGarbled, hLater'⟩ := ih hLater hRest
          exact ⟨d :: first', later', rfl, by simp [hNe, hNot], hGarbled.keep d, hLater'⟩
      | cut hSize hTwo hLater =>
          obtain ⟨first', later', rfl, hNot, hGarbled, hLater'⟩ := ih hLater hRest
          exact ⟨_ ++ first', later', by rw [List.append_assoc],
            by simp [List.mem_replicate, hOther, hNot], hGarbled.cut hSize hTwo, hLater'⟩

theorem eq_nil_iff {text read : List Char} (h : Garbled text read) : read = [] ↔ text = [] := by
  cases h with
  | nil => simp
  | keep => simp
  | cut _ hTwo =>
      simp only [List.append_eq_nil_iff, List.replicate_eq_nil_iff, reduceCtorEq, iff_false]
      omega

end Garbled

/-- Where a piece of an encoded text ends: between two characters or inside one. -/
theorem encode_split {text : List Char} {piece rest : List UInt8}
    (h : encode text = piece ++ rest) :
    (∃ first later, text = first ++ later ∧ piece = encode first ∧ rest = encode later) ∨
      ∃ first c later start tail, text = first ++ c :: later ∧ piece = encode first ++ start ∧
        rest = tail ++ encode later ∧ String.utf8EncodeChar c = start ++ tail ∧ start ≠ [] ∧
        tail ≠ [] := by
  induction text generalizing piece with
  | nil =>
      obtain ⟨rfl, rfl⟩ := List.append_eq_nil_iff.mp h.symm
      exact .inl ⟨[], [], rfl, rfl, rfl⟩
  | cons c text ih =>
      rw [encode_cons] at h
      cases List.append_eq_append_iff.mp h with
      | inl hLong =>
          obtain ⟨piece', rfl, hRest⟩ := hLong
          obtain ⟨first, later, rfl, rfl, hLater⟩ |
            ⟨first, d, later, start, tail, rfl, rfl, hCut⟩ :=
            ih hRest
          · exact .inl ⟨c :: first, later, rfl, rfl, hLater⟩
          · refine .inr ⟨c :: first, d, later, start, tail, rfl, ?_, hCut⟩
            rw [encode_cons, List.append_assoc]
      | inr hShort =>
          obtain ⟨tail, hChar, rfl⟩ := hShort
          by_cases hStart : piece = []
          · subst hStart
            exact .inl ⟨[], c :: text, rfl, rfl, by rw [encode_cons, hChar]; rfl⟩
          by_cases hTail : tail = []
          · subst hTail
            rw [List.append_nil] at hChar
            exact .inl ⟨[c], text, rfl, by simp [hChar], rfl⟩
          exact .inr ⟨[], c, text, piece, tail, rfl, rfl, rfl, hChar, hStart, hTail⟩

/-- The pieces of a text, from inside a character on. -/
theorem decode_pieces {pieces : List (List UInt8)} (tail : List UInt8) {text : List Char}
    (h : pieces.flatten = tail ++ encode text) (hTail : ∀ b ∈ tail, ¬ b.IsUTF8FirstByte) :
    ∃ read, pieces.flatMap decode = List.replicate tail.length replacement ++ read ∧
      Garbled text read ∧ (tail = [] → read.count replacement ≤ text.count replacement →
        ∀ piece ∈ pieces, ∃ part, piece = encode part) := by
  induction pieces generalizing tail text with
  | nil =>
      obtain ⟨rfl, hText⟩ := List.append_eq_nil_iff.mp h.symm
      cases text with
      | nil => exact ⟨[], rfl, .nil, fun _ _ _ hMem => by cases hMem⟩
      | cons c text => simp at hText
  | cons piece pieces ih =>
      rw [List.flatten_cons] at h
      rw [List.flatMap_cons]
      cases List.append_eq_append_iff.mp h with
      | inl hInside =>
          -- the whole piece lies inside the character
          obtain ⟨tail', rfl, hRest⟩ := hInside
          obtain ⟨read, hRead, hGarbled, hWhole⟩ := ih tail' hRest fun b hMem =>
            hTail b (List.mem_append_right _ hMem)
          have hPiece := decode_not_first_append
            (fun b hMem => hTail b (List.mem_append_left _ hMem)) []
          rw [List.append_nil, decode_nil, List.append_nil] at hPiece
          refine ⟨read, ?_, hGarbled, ?_⟩
          · rw [hPiece, hRead, ← List.append_assoc, List.length_append, List.replicate_add]
          · intro hNil hCount piece' hMem
            obtain ⟨rfl, rfl⟩ := List.append_eq_nil_iff.mp hNil
            cases List.mem_cons.mp hMem with
            | inl hEq => exact ⟨[], hEq⟩
            | inr hLater => exact hWhole rfl hCount piece' hLater
      | inr hBeyond =>
          obtain ⟨piece', rfl, hEncode⟩ := hBeyond
          obtain ⟨first, later, rfl, rfl, hRest⟩ |
            ⟨first, c, later, start, tail', rfl, rfl, hRest, hChar, hStart, hCut⟩ :=
              encode_split hEncode
          · -- the piece ends between two characters
            obtain ⟨read, hRead, hGarbled, hWhole⟩ := ih [] hRest fun b hMem => by cases hMem
            refine ⟨first ++ read, ?_, hGarbled.append_left first, ?_⟩
            · rw [decode_not_first_append hTail, decode_encode, hRead]
              simp
            · intro hNil hCount piece hMem
              subst hNil
              cases List.mem_cons.mp hMem with
              | inl hEq => exact ⟨first, hEq⟩
              | inr hLater =>
                  rw [List.count_append, List.count_append] at hCount
                  exact hWhole rfl (Nat.le_of_add_le_add_left hCount) piece hLater
          · -- the piece ends inside a character
            obtain ⟨read, hRead, hGarbled, _⟩ := ih tail' hRest (not_first_of_tail hChar hStart)
            obtain ⟨n, hn, hBroken⟩ := decode_start hChar hStart hCut
            have hPos := List.length_pos_of_ne_nil hCut
            have hPos' := List.length_pos_of_ne_nil hStart
            have hSize : 1 < c.utf8Size := by
              rw [← String.length_utf8EncodeChar, hChar, List.length_append]
              omega
            have hTwo : 2 ≤ n + tail'.length := by omega
            refine ⟨first ++ (List.replicate (n + tail'.length) replacement ++ read), ?_,
              (hGarbled.cut hSize hTwo).append_left first, ?_⟩
            · rw [decode_not_first_append hTail, decode_encode_append, hBroken, hRead,
                List.replicate_add]
              simp only [List.append_assoc]
            · intro _ hCount
              have hLater := hGarbled.count_le
              rw [List.count_append, List.count_append, List.count_append,
                List.count_replicate_self,
                List.count_cons] at hCount
              split at hCount <;> omega

section Pieces

variable {pieces : List (List UInt8)} {text : List Char} (h : pieces.flatten = encode text)

include h

theorem garbled_pieces : Garbled text (pieces.flatMap decode) := by
  obtain ⟨read, hRead, hGarbled, _⟩ := decode_pieces [] h fun b hMem => by cases hMem
  rw [hRead]
  exact hGarbled

/-- Every cut character adds replacement characters. -/
theorem whole_of_count_le
    (hCount : (pieces.flatMap decode).count replacement ≤ text.count replacement) :
    ∀ piece ∈ pieces, ∃ part, piece = encode part := by
  obtain ⟨read, hRead, _, hWhole⟩ := decode_pieces [] h fun b hMem => by cases hMem
  rw [hRead] at hCount
  exact hWhole rfl hCount

theorem decode_of_whole (hWhole : ∀ piece ∈ pieces, ∃ part, piece = encode part) :
    pieces.flatMap decode = text := by
  have hEncode : encode (pieces.flatMap decode) = pieces.flatten := by
    clear h
    induction pieces with
    | nil => rfl
    | cons piece pieces ih =>
        obtain ⟨part, rfl⟩ := hWhole piece List.mem_cons_self
        rw [List.flatMap_cons, encode_append, decode_encode, List.flatten_cons,
          ih fun piece hMem => hWhole piece (List.mem_cons_of_mem _ hMem)]
  rw [← decode_encode (pieces.flatMap decode), hEncode, h, decode_encode]

end Pieces
end LossyUtf8
