import PgClient.Types.Reads

/-!
The text formats of byte strings: what the server prints, which texts stand for a byte
string, and what is read of each of them.
-/

namespace PgClient

open FromSql PgType

namespace PgType

def hexDigits (byte : UInt8) : List Char :=
  [Nat.digitChar (byte.toNat / 16), Nat.digitChar (byte.toNat % 16)]

/-- The server's output in hex format. -/
def byteaHex (value : Bytes) : Bytes :=
  92 :: 120 :: lineBytes (String.ofList (value.flatMap hexDigits))

def octalDigit (n : Fin 8) : UInt8 := 48 + UInt8.ofNat n.val

/-- The pieces of a text in escape format: a byte as it is, a backslash by two of them, and a
byte by its octal digits. -/
inductive EscapePiece where
  | plain (byte : UInt8) (hByte : byte ≠ 92)
  | backslash
  | octal (first second third : Fin 8)

namespace EscapePiece

def text : EscapePiece → Bytes
  | plain byte _ => [byte]
  | backslash => [92, 92]
  | octal first second third => [92, octalDigit first, octalDigit second, octalDigit third]

/-- The byte of a piece; of an octal number that is too large for a byte, its low bits. -/
def value : EscapePiece → UInt8
  | plain byte _ => byte
  | backslash => 92
  | octal first second third => UInt8.ofNat (64 * first.val + 8 * second.val + third.val)

/-- The octal numbers of bytes end at `\377`. -/
def InRange : EscapePiece → Prop
  | octal first _ _ => first.val ≤ 3
  | _ => True

def octalOf (byte : UInt8) : EscapePiece :=
  octal (Fin.ofNat 8 (byte.toNat / 64)) (Fin.ofNat 8 (byte.toNat / 8)) (Fin.ofNat 8 byte.toNat)

/-- The piece that the server prints for a byte. -/
def ofByte (byte : UInt8) : EscapePiece :=
  if hByte : byte = 92 then backslash
  else if byte < 32 ∨ 126 < byte then octalOf byte
  else plain byte hByte

end EscapePiece

/-- The server's output in escape format. -/
def byteaEscape (value : Bytes) : Bytes := value.flatMap fun byte => (EscapePiece.ofByte byte).text

/-- A text in pieces, with their bytes. -/
def EscapeText (bytes value : Bytes) : Prop :=
  ∃ pieces : List EscapePiece, bytes = pieces.flatMap EscapePiece.text ∧
    value = pieces.map EscapePiece.value

/-- The texts of byte strings, with what may be skipped between the digits in hex format. -/
inductive ByteaText (skipped : Char → Bool) : Bytes → Bytes → Prop where
  | hex {text : String} {value : Bytes}
      (hDigits : hexBytes (text.toList.filter fun c => !skipped c) = some value) :
      ByteaText skipped (92 :: 120 :: lineBytes text) value
  | escape {pieces : List EscapePiece} (hRange : ∀ piece ∈ pieces, piece.InRange) :
      ByteaText skipped (pieces.flatMap EscapePiece.text) (pieces.map EscapePiece.value)

/-- Texts in escape format with a number from `\400` to `\777`. -/
def Overlong (bytes : Bytes) : Prop :=
  ∃ pieces : List EscapePiece, bytes = pieces.flatMap EscapePiece.text ∧
    ∃ piece ∈ pieces, ¬ piece.InRange

namespace EscapePiece

theorem value_octalOf (byte : UInt8) : (octalOf byte).value = byte := by
  have hLt := byte.toNat_lt
  apply UInt8.toNat_inj.mp
  simp only [octalOf, value, Fin.ofNat, UInt8.toNat_ofNat']
  omega

theorem value_ofByte (byte : UInt8) : (ofByte byte).value = byte := by
  unfold ofByte
  split
  case isTrue hByte => exact hByte.symm
  case isFalse =>
      split
      case isTrue => exact value_octalOf byte
      case isFalse => rfl

theorem octalDigit_ne (n : Fin 8) : octalDigit n ≠ 92 ∧ octalDigit n ≠ 120 ∧
    isOctal (octalDigit n) := by
  revert n
  decide

theorem octal_value : ∀ first second third : Fin 8,
    (((octalDigit first - 48) <<< 6) ||| ((octalDigit second - 48) <<< 3) |||
      (octalDigit third - 48)) = (octal first second third).value := by
  decide

theorem exists_octalDigit {byte : UInt8} (h : isOctal byte) : ∃ n, byte = octalDigit n := by
  simp only [isOctal, Bool.and_eq_true, decide_eq_true_eq] at h
  have hLow : 48 ≤ byte.toNat := UInt8.le_iff_toNat_le.mp h.1
  have hHigh : byte.toNat ≤ 55 := UInt8.le_iff_toNat_le.mp h.2
  refine ⟨⟨byte.toNat - 48, by omega⟩, UInt8.toNat_inj.mp ?_⟩
  simp only [octalDigit, UInt8.toNat_add, UInt8.toNat_ofNat']
  simp
  omega

/-- One piece is read as its byte, whatever follows it. -/
theorem decodeByteaEscape_text (piece : EscapePiece) (rest : Bytes) :
    decodeByteaEscape (piece.text ++ rest) =
      (decodeByteaEscape rest).map (piece.value :: ·) := by
  cases piece with
  | plain byte hByte =>
      rw [text, List.singleton_append, decodeByteaEscape.eq_def]
      simp [hByte, value]
  | backslash =>
      rw [text, List.cons_append, List.singleton_append, decodeByteaEscape.eq_def]
      simp [value]
  | octal first second third =>
      obtain ⟨hSlash, _, hFirst⟩ := octalDigit_ne first
      have hSecond := (octalDigit_ne second).2.2
      have hThird := (octalDigit_ne third).2.2
      simp only [text, List.cons_append, List.nil_append]
      rw [decodeByteaEscape]
      simp [hSlash, hFirst, hSecond, hThird, octal_value]

theorem inRange_ofByte (byte : UInt8) : (ofByte byte).InRange := by
  have hLt := byte.toNat_lt
  unfold ofByte
  split
  case isTrue => trivial
  case isFalse =>
      split
      case isTrue =>
          simp only [octalOf, InRange, Fin.ofNat]
          omega
      case isFalse => trivial

end EscapePiece

theorem EscapeText.cons {bytes value : Bytes} (piece : EscapePiece) (h : EscapeText bytes value) :
    EscapeText (piece.text ++ bytes) (piece.value :: value) := by
  obtain ⟨pieces, rfl, rfl⟩ := h
  exact ⟨piece :: pieces, rfl, rfl⟩

theorem byteaEscape_eq (value : Bytes) :
    byteaEscape value = (value.map EscapePiece.ofByte).flatMap EscapePiece.text := by
  rw [byteaEscape, List.flatMap_map]

theorem map_value_ofByte (value : Bytes) :
    (value.map EscapePiece.ofByte).map EscapePiece.value = value := by
  rw [List.map_map]
  exact (List.map_congr_left fun byte _ => EscapePiece.value_ofByte byte).trans (List.map_id' value)

end PgType

namespace FromSql

/-- What is read in escape format is made of pieces, and every text of pieces is read. -/
theorem decodeByteaEscape_ok_iff {bytes value : Bytes} :
    decodeByteaEscape bytes = .ok value ↔ EscapeText bytes value := by
  refine ⟨fun h => ?_, fun h => ?_⟩
  · fun_induction decodeByteaEscape bytes generalizing value with
    | case1 =>
        cases h
        exact ⟨[], rfl, rfl⟩
    | case2 byte rest hByte ih =>
        obtain ⟨tail, hTail, rfl⟩ := Except.of_map h
        exact (ih hTail).cons (.plain byte hByte)
    | case4 byte hByte rest ih =>
        obtain ⟨tail, hTail, rfl⟩ := Except.of_map h
        cases not_not.mp hByte
        exact (ih hTail).cons .backslash
    | case5 byte hByte first _ hFirst second third rest hOctal ih =>
        obtain ⟨tail, hTail, rfl⟩ := Except.of_map h
        obtain ⟨hSecond, hThird⟩ := Bool.and_eq_true_iff.mp hOctal
        obtain ⟨first, rfl⟩ := EscapePiece.exists_octalDigit hFirst
        obtain ⟨second, rfl⟩ := EscapePiece.exists_octalDigit hSecond
        obtain ⟨third, rfl⟩ := EscapePiece.exists_octalDigit hThird
        cases not_not.mp hByte
        rw [EscapePiece.octal_value]
        exact (ih hTail).cons (.octal first second third)
    | _ => cases h
  · obtain ⟨pieces, rfl, rfl⟩ := h
    induction pieces with
    | nil => simp [decodeByteaEscape]
    | cons piece pieces ih =>
        rw [List.flatMap_cons, EscapePiece.decodeByteaEscape_text, ih]
        rfl

/-- The prefix of the hex format is no text in escape format. -/
theorem decodeByteaEscape_hex (hex value : Bytes) :
    decodeByteaEscape (92 :: 120 :: hex) ≠ .ok value := by
  intro h
  rw [decodeByteaEscape.eq_def] at h
  cases h

theorem hexDigit_ok {c : Char} {n : UInt8} (h : hexDigit c = .ok n) : hexValue c = some n := by
  unfold hexDigit at h
  split at h
  case h_1 m hValue =>
      cases h
      exact hValue
  case h_2 => cases h

theorem hexBytes_of_decodeHexLoop {chars : List Char} {value : Bytes}
    (hEven : chars.length % 2 = 0) (h : decodeHexLoop chars = .ok value) :
    hexBytes chars = some value := by
  fun_induction hexBytes chars generalizing value with
  | case1 =>
      cases h
      rfl
  | case2 => cases hEven
  | case3 high low chars ih =>
      obtain ⟨hi, hHigh, h⟩ := Except.of_bind h
      obtain ⟨lo, hLow, h⟩ := Except.of_bind h
      obtain ⟨rest, hRest, h⟩ := Except.of_bind h
      cases h
      have hTail : chars.length % 2 = 0 := by
        simp only [List.length_cons] at hEven
        omega
      simp [hexDigit_ok hHigh, hexDigit_ok hLow, ih hTail hRest]

/-- The digits in hex format may stand apart. -/
theorem decodeHex_ok_iff {chars : List Char} {value : Bytes} :
    decodeHex chars = .ok value ↔
      hexBytes (chars.filter fun c => !CommandTag.isSpace c) = some value := by
  simp only [decodeHex]
  refine ⟨fun h => ?_, fun h => ?_⟩
  · split at h
    case isTrue => cases h
    case isFalse hEven => exact hexBytes_of_decodeHexLoop (not_not.mp hEven) h
  · obtain ⟨_, hEven, hLoop⟩ := hexBytes_some h
    rw [if_neg (not_not.mpr hEven), hLoop]

theorem hexValue_digitChar : ∀ n : Fin 16,
    hexValue (Nat.digitChar n.val) = some (UInt8.ofNat n.val) := by
  decide

theorem hexBytes_cons {high low : Char} {hi lo : UInt8} (hHigh : hexValue high = some hi)
    (hLow : hexValue low = some lo) (chars : List Char) :
    hexBytes (high :: low :: chars) = (hexBytes chars).map ((hi * 16 + lo) :: ·) := by
  rw [hexBytes, hHigh, hLow]
  cases hexBytes chars <;> rfl

/-- Any way of writing each byte as two digits is read back. -/
theorem hexBytes_flatMap {write : UInt8 → List Char}
    (hWrite : ∀ byte chars, hexBytes (write byte ++ chars) = (hexBytes chars).map (byte :: ·))
    (value : Bytes) : hexBytes (value.flatMap write) = some value := by
  induction value with
  | nil => rfl
  | cons byte value ih => rw [List.flatMap_cons, hWrite, ih, Option.map_some]

theorem hexBytes_hexDigits (value : Bytes) : hexBytes (value.flatMap hexDigits) = some value := by
  refine hexBytes_flatMap (fun byte chars => ?_) value
  have hLt := byte.toNat_lt
  have hByte : UInt8.ofNat (byte.toNat / 16) * 16 + UInt8.ofNat (byte.toNat % 16) = byte := by
    apply UInt8.toNat_inj.mp
    simp
    omega
  have hDigits := hexBytes_cons (hexValue_digitChar ⟨byte.toNat / 16, by omega⟩)
    (hexValue_digitChar ⟨byte.toNat % 16, by omega⟩) chars
  rw [hByte] at hDigits
  exact hDigits

/-- The server's own output is among the texts of the byte string. -/
theorem byteaText_output (value : Bytes) :
    ByteaText (fun _ => false) (byteaHex value) value ∧
      ByteaText (fun _ => false) (byteaEscape value) value := by
  refine ⟨.hex ?_, ?_⟩
  · have hAll := List.filter_eq_self.mpr fun (c : Char) (_ : c ∈ value.flatMap hexDigits) =>
      show (!false) = true from rfl
    rw [String.toList_ofList, hAll, hexBytes_hexDigits]
  · have hText := @ByteaText.escape (fun _ => false) (value.map EscapePiece.ofByte) (by
      intro piece hMem
      obtain ⟨byte, _, rfl⟩ := List.mem_map.mp hMem
      exact EscapePiece.inRange_ofByte byte)
    rw [← byteaEscape_eq, map_value_ofByte] at hText
    exact hText

variable {std : StdText} {lib : PostgresProtocol}

theorem vecU8FromSql_hex_ok_iff {hex value : Bytes} :
    vecU8FromSql std lib (some (92 :: 120 :: hex)) .text = .ok value ↔
      ∃ text, hex = lineBytes text ∧
        hexBytes (text.toList.filter fun c => !CommandTag.isSpace c) = some value := by
  rw [RustType.vecU8FromSql_hex]
  refine ⟨fun h => ?_, fun h => ?_⟩
  · obtain ⟨text, hText, hHex⟩ := Except.of_bind h
    exact ⟨text, lineBytes_of_textOf (fromUtf8_ok.mp hText),
      decodeHex_ok_iff.mp (Except.of_mapError hHex)⟩
  · obtain ⟨text, rfl, hDigits⟩ := h
    rw [fromUtf8_ok.mpr (textOf_lineBytes text)]
    simp [Except.bind, decodeHex_ok_iff.mpr hDigits, Except.mapError]

/-- The texts that are read: digits after the prefix of the hex format, or else pieces. -/
theorem vecU8FromSql_ok_iff {bytes value : Bytes} :
    vecU8FromSql std lib (some bytes) .text = .ok value ↔
      (∃ text, bytes = 92 :: 120 :: lineBytes text ∧
        hexBytes (text.toList.filter fun c => !CommandTag.isSpace c) = some value) ∨
      EscapeText bytes value := by
  by_cases hHex : ∃ hex, bytes = 92 :: 120 :: hex
  · obtain ⟨hex, rfl⟩ := hHex
    have hNot : ¬ EscapeText (92 :: 120 :: hex) value :=
      fun h => decodeByteaEscape_hex hex value (decodeByteaEscape_ok_iff.mpr h)
    simp only [vecU8FromSql_hex_ok_iff, hNot, or_false, List.cons.injEq, true_and]
  · rw [not_exists] at hHex
    rw [RustType.vecU8FromSql_escape hHex, decodeByteaEscape_ok_iff]
    refine ⟨.inr, fun h => h.resolve_left fun hText => ?_⟩
    obtain ⟨text, hBytes, _⟩ := hText
    exact hHex _ hBytes

theorem filter_hexDigits (value : Bytes) :
    ((value.flatMap hexDigits).filter fun c => !CommandTag.isSpace c) = value.flatMap hexDigits :=
  (hexBytes_some (hexBytes_hexDigits value)).1

/-- What a reader of byte strings is for: both output formats of the server are read back. -/
structure ReadsOutput (read : Bytes → Except TypeError Bytes) : Prop where
  hex : ∀ value, read (byteaHex value) = .ok value
  escape : ∀ value, read (byteaEscape value) = .ok value

theorem vecU8FromSql_output : ReadsOutput fun bytes => vecU8FromSql std lib (some bytes) .text where
  hex value := by
    refine vecU8FromSql_ok_iff.mpr (.inl ⟨_, rfl, ?_⟩)
    rw [String.toList_ofList, filter_hexDigits, hexBytes_hexDigits]
  escape value := by
    refine vecU8FromSql_ok_iff.mpr (.inr ⟨value.map EscapePiece.ofByte, byteaEscape_eq value, ?_⟩)
    exact (map_value_ofByte value).symm

/-- Both output formats are read back, and apart from octal numbers that are too large for a
byte the texts of byte strings are what is read, with white space between the digits in hex
format. -/
theorem vecU8FromSql_bytea (std : StdText) (lib : PostgresProtocol) :
    ReadsOutput (fun bytes => vecU8FromSql std lib (some bytes) .text) ∧
      ∀ bytes, ¬ Overlong bytes → ∀ value,
        vecU8FromSql std lib (some bytes) .text = .ok value ↔
          ByteaText CommandTag.isSpace bytes value := by
  refine ⟨vecU8FromSql_output, fun bytes hShort value => ?_⟩
  rw [vecU8FromSql_ok_iff]
  refine ⟨fun h => ?_, fun h => ?_⟩
  · cases h with
    | inl hHex =>
        obtain ⟨text, rfl, hDigits⟩ := hHex
        exact .hex hDigits
    | inr hEscape =>
        obtain ⟨pieces, rfl, rfl⟩ := hEscape
        refine .escape fun piece hMem => ?_
        by_contra hRange
        exact hShort ⟨pieces, rfl, piece, hMem, hRange⟩
  · cases h with
    | hex hDigits => exact .inl ⟨_, rfl, hDigits⟩
    | escape => exact .inr ⟨_, rfl, rfl⟩

theorem not_overlong_hex (hex : Bytes) : ¬ Overlong (92 :: 120 :: hex) := by
  intro hLong
  obtain ⟨pieces, hPieces, _⟩ := hLong
  exact decodeByteaEscape_hex hex _ (decodeByteaEscape_ok_iff.mpr ⟨pieces, hPieces, rfl⟩)

/-- A doubled backslash is read back, and so are two zeros that stand apart. -/
theorem vecU8FromSql_bytea_apart :
    (∀ std lib, vecU8FromSql std lib (some (byteaEscape [92])) .text = .ok [92]) ∧
      ∀ std lib value, vecU8FromSql std lib (some [92, 120, 48, 32, 48]) .text = .ok value ↔
        ByteaText CommandTag.isSpace [92, 120, 48, 32, 48] value :=
  ⟨fun std lib => (vecU8FromSql_bytea std lib).1.escape [92],
    fun std lib => (vecU8FromSql_bytea std lib).2 _ (not_overlong_hex [48, 32, 48])⟩

/-- White space between two digits is no part of the server's format, and neither is an octal
number above `\377`; both are read. -/
theorem vecU8FromSql_beyond :
    (∀ std lib, vecU8FromSql std lib (some [92, 120, 48, 32, 48]) .text = .ok [0]) ∧
      (¬ ∃ value, ByteaText (fun _ => false) [92, 120, 48, 32, 48] value) ∧
      (∀ std lib, vecU8FromSql std lib (some [92, 52, 48, 48]) .text = .ok [0]) ∧
      ¬ ∃ value, ByteaText (fun _ => false) [92, 52, 48, 48] value := by
  have hApart : [48, 32, 48] = lineBytes "0 0" := by
    rw [lineBytes, LossyUtf8.toList_toUTF8]
    rfl
  refine ⟨fun std lib => ?_, fun hText => ?_, fun std lib => ?_, fun hText => ?_⟩
  · rw [hApart]
    exact vecU8FromSql_ok_iff.mpr (.inl ⟨"0 0", rfl, rfl⟩)
  · obtain ⟨value, hText⟩ := hText
    generalize hBytes : ([92, 120, 48, 32, 48] : Bytes) = bytes at hText
    cases hText with
    | @hex text _ hDigits =>
        have hSame : [48, 32, 48] = lineBytes text := (List.cons.inj (List.cons.inj hBytes).2).2
        cases lineBytes_injective (hApart.symm.trans hSame)
        cases hDigits
    | @escape pieces hRange =>
        exact decodeByteaEscape_hex _ _ (decodeByteaEscape_ok_iff.mpr ⟨pieces, hBytes, rfl⟩)
  · exact vecU8FromSql_ok_iff.mpr (.inr ⟨[.octal 4 0 0], rfl, rfl⟩)
  · obtain ⟨value, hText⟩ := hText
    generalize hBytes : ([92, 52, 48, 48] : Bytes) = bytes at hText
    cases hText with
    | hex => cases hBytes
    | @escape pieces hRange =>
        cases pieces with
        | nil => cases hBytes
        | cons piece pieces =>
            have hPiece := hRange piece List.mem_cons_self
            rw [List.flatMap_cons] at hBytes
            cases piece with
            | plain byte hByte => exact hByte (List.cons.inj hBytes).1.symm
            | backslash => cases hBytes
            | octal first second third =>
                have hFirst : (52 : UInt8) = octalDigit first :=
                  (List.cons.inj (List.cons.inj hBytes).2).1
                have hFour : ∀ n : Fin 8, (52 : UInt8) = octalDigit n → ¬ n.val ≤ 3 := by decide
                exact hFour first hFirst hPiece

end FromSql
end PgClient
