import PgClient.Library.Digits
import PgClient.Library.Except
import PgClient.Types.Decode
import PgClient.Types.Soundness

/-!
What each type reads of the bytes of a column, and when that is the value that the server
means by them.
-/

namespace PgClient

open FromSql PgType

namespace PgType

theorem encode_of_textOf {bytes : Bytes} {text : String} (h : textOf bytes = some text) :
    bytes = LossyUtf8.encode text.toList := by
  have hBytes : text.toByteArray = bytes.toByteArray := by
    rw [textOf, String.fromUTF8?] at h
    split at h
    case isTrue => 
      cases h
      rfl
    case isFalse => cases h
  rw [← String.utf8Encode_toList] at hBytes
  have hLists := congrArg (fun bytes : ByteArray => bytes.data.toList) hBytes
  simp only [List.utf8Encode, List.toList_data_toByteArray] at hLists
  exact hLists.symm

theorem lineBytes_of_textOf {bytes : Bytes} {text : String} (h : textOf bytes = some text) :
    bytes = lineBytes text := by
  rw [encode_of_textOf h, lineBytes, LossyUtf8.toList_toUTF8]

theorem lineBytes_injective {text text' : String} (h : lineBytes text = lineBytes text') :
    text = text' := by
  have hText := congrArg textOf h
  rw [textOf_lineBytes, textOf_lineBytes] at hText
  exact Option.some.inj hText

theorem textInt_digit {low high : Int} {text : String} {n : Int}
    (h : textInt low high text = some n) :
    ∃ c chars, text.toList = c :: chars ∧ 43 ≤ c.toNat ∧ c.toNat ≤ 57 ∧
      (chars = [] → 48 ≤ c.toNat ∧ n = c.toNat - 48) := by
  rw [textInt, Option.filter_eq_some_iff] at h
  obtain ⟨hValue, _⟩ := h
  split at hValue
  case h_1 chars hText =>
      refine ⟨'-', chars, hText, by decide, by decide, ?_⟩
      intro hNil
      subst hNil
      cases hValue
  case h_2 chars hText =>
      refine ⟨'+', chars, hText, by decide, by decide, ?_⟩
      intro hNil
      subst hNil
      cases hValue
  case h_3 chars _ _ =>
      obtain ⟨m, hDigits, hSign⟩ := Option.map_eq_some_iff.mp hValue
      rw [digits] at hDigits
      split at hDigits
      case isFalse => cases hDigits
      case isTrue hAll =>
          obtain ⟨c, chars', hText⟩ := List.exists_cons_of_ne_nil hAll.1
          have hDigit : c.isDigit := by
            have hEach := hAll.2
            rw [hText, List.all_cons, Bool.and_eq_true] at hEach
            exact hEach.1
          have hRange := Digits.toNat_of_isDigit hDigit
          refine ⟨c, chars', hText, by omega, hRange.2, ?_⟩
          intro hNil
          subst hNil
          rw [hText] at hDigits
          simp [withSign] at hDigits hSign
          omega

end PgType

namespace FromSql

variable {std : StdText} {lib : PostgresProtocol} {bytes : Bytes}

theorem fromUtf8_ok {text : String} : fromUtf8 std bytes = .ok text ↔ textOf bytes = some text := by
  rw [fromUtf8]
  cases textOf bytes with
  | none => simp
  | some text' => simp

/-- One more digit goes with the sign of the number. -/
theorem withSign_digit (negative : Bool) (m : Nat) {c : Char} (hDigit : c.isDigit) :
    (if negative then withSign negative m * 10 - ((c.toNat : Int) - '0'.toNat)
      else withSign negative m * 10 + ((c.toNat : Int) - '0'.toNat)) =
    withSign negative (10 * m + (c.toNat - '0'.toNat)) := by
  have hZero := (Digits.toNat_of_isDigit hDigit).1
  cases negative <;> simp [withSign] <;> omega

theorem parseDigits_ok {low high : Int} {negative : Bool} {m : Nat} {chars : List Char} {n : Int}
    (h : parseDigits low high negative (withSign negative m) chars = .ok n) :
    chars.all Char.isDigit ∧
      n = withSign negative (chars.foldl (fun n c => 10 * n + (c.toNat - '0'.toNat)) m) ∧
      (chars ≠ [] → low ≤ n ∧ n ≤ high) := by
  induction chars generalizing m with
  | nil =>
      cases h
      exact ⟨rfl, rfl, fun hNil => absurd rfl hNil⟩
  | cons c chars ih =>
      rw [parseDigits] at h
      split at h
      case isFalse => cases h
      case isTrue hDigit =>
          simp only [withSign_digit negative m hDigit] at h
          split at h
          case isTrue => cases h
          case isFalse hHigh =>
              split at h
              case isTrue => cases h
              case isFalse hLow =>
                  obtain ⟨hAll, hValue, hRange⟩ := ih h
                  refine ⟨by simp [hDigit, hAll], hValue, fun _ => ?_⟩
                  cases chars with
                  | nil =>
                      rw [hValue]
                      exact ⟨Int.not_lt.mp hLow, Int.not_lt.mp hHigh⟩
                  | cons d chars => exact hRange (List.cons_ne_nil d chars)

theorem digits_of_all {chars : List Char} (hNil : chars ≠ []) (hAll : chars.all Char.isDigit) :
    digits chars = some (chars.foldl (fun n c => 10 * n + (c.toNat - '0'.toNat)) 0) := by
  rw [digits, if_pos ⟨hNil, hAll⟩]

/-- What Rust parses is the number in the text. -/
theorem parseInt_ok {low high : Int} {text : String} {n : Int}
    (h : parseInt low high text = .ok n) :
    textInt low high text = some n := by
  have hDigits : ∀ (negative : Bool) (chars : List Char), chars ≠ [] →
      parseDigits low high negative 0 chars = .ok n →
      (digits chars).map (withSign negative) = some n ∧ low ≤ n ∧ n ≤ high := by
    intro negative chars hNil hParse
    have hStart : (0 : Int) = withSign negative 0 := by cases negative <;> rfl
    rw [hStart] at hParse
    obtain ⟨hAll, hValue, hRange⟩ := parseDigits_ok hParse
    exact ⟨by rw [digits_of_all hNil hAll, Option.map_some, hValue], hRange hNil⟩
  have hFilter : ∀ value : Option Int, value = some n → low ≤ n ∧ n ≤ high →
      value.filter (fun n => low ≤ n ∧ n ≤ high) = some n := by
    intro value hSome hRange
    rw [hSome, Option.filter_some, if_pos (decide_eq_true hRange)]
  rw [parseInt] at h
  split at h
  case h_1 => cases h
  case h_2 => cases h
  case h_3 => cases h
  case h_4 sign chars hPlus hMinus hText =>
      split at h
      case isTrue hSign =>
          subst hSign
          have hNil : chars ≠ [] := fun hNil => hPlus rfl hNil
          obtain ⟨hValue, hRange⟩ := hDigits false chars hNil h
          simp only [textInt, hText]
          exact hFilter _ hValue hRange
      case isFalse hNotPlus =>
          split at h
          case isTrue hSign =>
              obtain ⟨rfl, _⟩ := hSign
              have hNil : chars ≠ [] := fun hNil => hMinus rfl hNil
              obtain ⟨hValue, hRange⟩ := hDigits true chars hNil h
              simp only [textInt, hText]
              exact hFilter _ hValue hRange
          case isFalse hNotSign =>
              obtain ⟨hValue, hRange⟩ := hDigits false (sign :: chars)
                (List.cons_ne_nil sign chars) h
              have hDigit : sign.isDigit := by
                have hAll : (sign :: chars).all Char.isDigit := by
                  by_contra hNot
                  rw [digits, if_neg (fun hBoth => hNot hBoth.2)] at hValue
                  cases hValue
                rw [List.all_cons, Bool.and_eq_true] at hAll
                exact hAll.1
              simp only [textInt, hText]
              split
              case h_1 hEq =>
                  obtain ⟨rfl, rfl⟩ := List.cons.inj hEq
                  cases hDigit
              case h_2 hEq =>
                  obtain ⟨rfl, rfl⟩ := List.cons.inj hEq
                  cases hDigit
              case h_3 => exact hFilter _ hValue hRange

theorem hexValue_not_isSpace {c : Char} {n : UInt8} (h : hexValue c = some n) :
    CommandTag.isSpace c = false := by
  have hRange : 48 ≤ c.toNat ∧ c.toNat ≤ 102 := by
    rw [hexValue] at h
    have hLe : ∀ a b : Char, a ≤ b → a.toNat ≤ b.toNat :=
      fun _ _ hLe => UInt32.le_iff_toNat_le.mp hLe
    split at h
    case isTrue hDigit => exact ⟨hLe _ _ hDigit.1, Nat.le_trans (hLe _ _ hDigit.2) (by decide)⟩
    case isFalse =>
        split at h
        case isTrue hLower => exact ⟨Nat.le_trans (by decide) (hLe _ _ hLower.1), hLe _ _ hLower.2⟩
        case isFalse =>
            split at h
            case isTrue hUpper =>
                exact ⟨Nat.le_trans (by decide) (hLe _ _ hUpper.1),
                  Nat.le_trans (hLe _ _ hUpper.2) (by decide)⟩
            case isFalse => cases h
  simp only [CommandTag.isSpace, Bool.or_eq_false_iff, Bool.and_eq_false_iff,
    decide_eq_false_iff_not]
  omega

/-- Hex digits hold no white space, and each two of them are a byte. -/
theorem hexBytes_some {chars : List Char} {bytes : Bytes} (h : hexBytes chars = some bytes) :
    (chars.filter fun c => !CommandTag.isSpace c) = chars ∧ chars.length % 2 = 0 ∧
      decodeHexLoop chars = .ok bytes := by
  fun_induction hexBytes chars generalizing bytes with
  | case1 =>
      cases h
      exact ⟨rfl, rfl, rfl⟩
  | case2 => cases h
  | case3 high low chars ih =>
      cases hHigh : hexValue high with
      | none => simp [hHigh] at h
      | some hi =>
          cases hLow : hexValue low with
          | none => simp [hHigh, hLow] at h
          | some lo =>
              cases hRest : hexBytes chars with
              | none => simp [hHigh, hLow, hRest] at h
              | some rest =>
                  simp only [hHigh, hLow, hRest, bind, Option.bind_some, pure,
                    Option.some.injEq] at h
                  subst h
                  obtain ⟨hFilter, hEven, hLoop⟩ := ih hRest
                  refine ⟨?_, ?_, ?_⟩
                  · simp [hexValue_not_isSpace hHigh, hexValue_not_isSpace hLow, hFilter]
                  · simp only [List.length_cons]
                    omega
                  · simp only [decodeHexLoop, hexDigit, hHigh, hLow, hLoop, bind, Except.bind, pure,
                      Except.pure]

theorem decodeHex_of_hexBytes {chars : List Char} {bytes : Bytes}
    (h : hexBytes chars = some bytes) :
    decodeHex chars = .ok bytes := by
  obtain ⟨hFilter, hEven, hLoop⟩ := hexBytes_some h
  simp only [decodeHex, hFilter]
  rw [if_neg (not_not.mpr hEven), hLoop]

theorem decodeByteaEscape_of_escapedBytes {bytes value : Bytes}
    (h : escapedBytes bytes = some value) :
    decodeByteaEscape bytes = .ok value := by
  fun_induction escapedBytes bytes generalizing value with
  | case1 =>
      cases h
      rfl
  | case2 rest ih =>
      cases hRest : escapedBytes rest with
      | none => simp [hRest] at h
      | some value' =>
          rw [hRest] at h
          cases h
          unfold decodeByteaEscape
          simp [ih hRest, Except.map]
  | case3 first second third rest hSlash hOctal ih =>
      cases hRest : escapedBytes rest with
      | none => simp [hRest] at h
      | some value' =>
          rw [hRest] at h
          cases h
          obtain ⟨hFirst, hFirst', hSecond, hSecond', hThird, hThird'⟩ := hOctal
          have hTop : first ≤ 55 := UInt8.le_trans hFirst' (by decide)
          have hNot : first ≠ 92 := by
            intro hEq
            subst hEq
            exact absurd hFirst' (by decide)
          unfold decodeByteaEscape
          simp [isOctal, hNot, hFirst, hTop, hSecond, hSecond', hThird, hThird',
            ih hRest, Except.map]
  | case4 => cases h
  | case5 => cases h
  | case6 byte rest _ _ hByte ih =>
      cases hRest : escapedBytes rest with
      | none => simp [hRest] at h
      | some value' =>
          rw [hRest] at h
          cases h
          unfold decodeByteaEscape
          simp [hByte, ih hRest, Except.map]

end FromSql

namespace RustType

/-- Bytes whose text reads as an integer of the given range. -/
def ReadsInt (low high : Int) (bytes : Bytes) : Prop :=
  ∃ text n, textOf bytes = some text ∧ parseInt low high text = .ok n

/-- Bytes that read as a byte string in hex or in escape format. -/
def ReadsBytea : Bytes → Prop
  | 92 :: 120 :: hex => ∃ text value, textOf hex = some text ∧ decodeHex text.toList = .ok value
  | bytes => ∃ value, decodeByteaEscape bytes = .ok value

/-- The bytes that the text format of a type allows, whatever column they are of. -/
def ReadsText (std : StdText) : RustType → Bytes → Prop
  | .bool, bytes => ∃ text, textOf bytes = some text ∧ (text ∈ trueTexts ∨ text ∈ falseTexts)
  | .i8, bytes => ReadsInt (-2 ^ 7) (2 ^ 7 - 1) bytes
  | .i16, bytes => ReadsInt (-2 ^ 15) (2 ^ 15 - 1) bytes
  | .i32, bytes => ReadsInt (-2 ^ 31) (2 ^ 31 - 1) bytes
  | .i64, bytes => ReadsInt (-2 ^ 63) (2 ^ 63 - 1) bytes
  | .u32, bytes => ReadsInt 0 (2 ^ 32 - 1) bytes
  | .f32, bytes => ∃ text value, textOf bytes = some text ∧ std.f32Parse text = .ok value
  | .f64, bytes => ∃ text value, textOf bytes = some text ∧ std.f64Parse text = .ok value
  | .string, bytes => ∃ text, textOf bytes = some text
  | .vecU8, bytes => ReadsBytea bytes
  | .option inner, bytes => inner.ReadsText std bytes

/-- The bytes that the binary format of a type allows, whatever column they are of. -/
def ReadsBinary (lib : PostgresProtocol) : RustType → Bytes → Prop
  | .bool, bytes => ∃ value, lib.boolFromSql bytes = .ok value
  | .i8, bytes => ∃ value, lib.charFromSql bytes = .ok value
  | .i16, bytes => ∃ value, lib.int2FromSql bytes = .ok value
  | .i32, bytes => ∃ value, lib.int4FromSql bytes = .ok value
  | .i64, bytes => ∃ value, lib.int8FromSql bytes = .ok value
  | .u32, bytes => ∃ value, lib.oidFromSql bytes = .ok value
  | .f32, bytes => ∃ value, lib.float4FromSql bytes = .ok value
  | .f64, bytes => ∃ value, lib.float8FromSql bytes = .ok value
  | .string, bytes => ∃ value, lib.textFromSql bytes = .ok value
  | .vecU8, _ => True
  | .option inner, bytes => inner.ReadsBinary lib bytes

def Reads (std : StdText) (lib : PostgresProtocol) (t : RustType) : FormatCode → Bytes → Prop
  | .text, bytes => t.ReadsText std bytes
  | .binary, bytes => t.ReadsBinary lib bytes

def isOption : RustType → Bool
  | .option _ => true
  | _ => false

variable {std : StdText} {lib : PostgresProtocol} {bytes : Bytes}

theorem intFromSql_isOk_iff {α : Type} {low high : Int} {ofInt : Int → α}
    {parseError : String → TypeError}
    (binary : Bytes → Except String α) :
    (∃ v, intFromSql std low high ofInt parseError binary (some bytes) .text = .ok v) ↔
      ReadsInt low high bytes := by
  refine ⟨fun h => ?_, fun h => ?_⟩
  · obtain ⟨v, hOk⟩ := h
    obtain ⟨text, hText, hParse⟩ := Except.of_bind hOk
    obtain ⟨n, hInt, _⟩ := Except.of_map hParse
    exact ⟨text, n, fromUtf8_ok.mp hText, Except.of_mapError hInt⟩
  · obtain ⟨text, n, hText, hInt⟩ := h
    have hUtf8 : asText std (some bytes) = .ok text := fromUtf8_ok.mpr hText
    exact ⟨ofInt n, by simp [intFromSql, hUtf8, hInt, bind, Except.bind, Except.mapError,
      Except.map]⟩

theorem floatFromSql_isOk_iff {α : Type} {parse : String → Except String α}
    (binary : Bytes → Except String α) :
    (∃ v : α, floatFromSql std parse binary (some bytes) .text = .ok v) ↔
      ∃ text value, textOf bytes = some text ∧ parse text = .ok value := by
  refine ⟨fun h => ?_, fun h => ?_⟩
  · obtain ⟨v, hOk⟩ := h
    obtain ⟨text, hText, hParse⟩ := Except.of_bind hOk
    exact ⟨text, v, fromUtf8_ok.mp hText, Except.of_mapError hParse⟩
  · obtain ⟨text, value, hText, hParse⟩ := h
    have hUtf8 : asText std (some bytes) = .ok text := fromUtf8_ok.mpr hText
    exact ⟨value, by simp [floatFromSql, hUtf8, hParse, bind, Except.bind, Except.mapError]⟩

theorem conversion_isOk_iff {α : Type} {result : Except String α} :
    (∃ v, conversion result = .ok v) ↔ ∃ v, result = .ok v := by
  cases result with
  | error e => simp [conversion, Except.mapError]
  | ok v => simp [conversion, Except.mapError]

theorem boolFromSql_isOk_iff :
    (∃ v, boolFromSql std lib (some bytes) .text = .ok v) ↔
      ∃ text, textOf bytes = some text ∧ (text ∈ trueTexts ∨ text ∈ falseTexts) := by
  refine ⟨fun h => ?_, fun h => ?_⟩
  · obtain ⟨v, hOk⟩ := h
    obtain ⟨text, hText, hParse⟩ := Except.of_bind hOk
    refine ⟨text, fromUtf8_ok.mp hText, ?_⟩
    by_contra hNot
    simp [not_or.mp hNot] at hParse
  · obtain ⟨text, hText, hLiteral⟩ := h
    have hUtf8 : asText std (some bytes) = .ok text := fromUtf8_ok.mpr hText
    by_cases hTrue : text ∈ trueTexts
    · exact ⟨true, by simp [boolFromSql, hUtf8, hTrue, bind, Except.bind, pure, Except.pure]⟩
    · have hFalse := hLiteral.resolve_left hTrue
      exact ⟨false, by simp [boolFromSql, hUtf8, hTrue, hFalse, bind, Except.bind, pure,
        Except.pure]⟩

theorem vecU8FromSql_hex (hex : Bytes) :
    vecU8FromSql std lib (some (92 :: 120 :: hex)) .text = (fromUtf8 std hex).bind fun text =>
      (decodeHex text.toList).mapError fun e => .conversion ("invalid bytea hex: " ++ e.display) :=
        rfl

theorem vecU8FromSql_escape (h : ∀ hex, bytes ≠ 92 :: 120 :: hex) :
    vecU8FromSql std lib (some bytes) .text = decodeByteaEscape bytes := by
  simp only [vecU8FromSql, present, bind, Except.bind]

theorem vecU8FromSql_isOk_iff :
    (∃ v, vecU8FromSql std lib (some bytes) .text = .ok v) ↔ ReadsBytea bytes := by
  by_cases hHex : ∃ hex, bytes = 92 :: 120 :: hex
  · obtain ⟨hex, rfl⟩ := hHex
    rw [vecU8FromSql_hex]
    refine ⟨fun h => ?_, fun h => ?_⟩
    · obtain ⟨v, hOk⟩ := h
      obtain ⟨text, hText, hHex⟩ := Except.of_bind hOk
      exact ⟨text, v, fromUtf8_ok.mp hText, Except.of_mapError hHex⟩
    · obtain ⟨text, value, hText, hHex⟩ := h
      rw [fromUtf8_ok.mpr hText]
      exact ⟨value, by simp [hHex, Except.bind, Except.mapError]⟩
  · rw [not_exists] at hHex
    rw [vecU8FromSql_escape hHex]
    unfold ReadsBytea
    split
    case h_1 hex => exact absurd rfl (hHex hex)
    case h_2 => exact Iff.rfl

/-- A type reads exactly the bytes of its own format. -/
theorem fromSql_isOk_iff (t : RustType) {ty : Oid} (format : FormatCode) :
    (∃ v, t.fromSql std lib ty (some bytes) format = .ok v) ↔ t.Reads std lib format bytes := by
  induction t with
  | bool =>
      cases format with
      | text => exact boolFromSql_isOk_iff
      | binary => exact conversion_isOk_iff
  | i8 =>
      cases format with
      | text => exact intFromSql_isOk_iff lib.charFromSql
      | binary => exact conversion_isOk_iff
  | i16 =>
      cases format with
      | text => exact intFromSql_isOk_iff lib.int2FromSql
      | binary => exact conversion_isOk_iff
  | i32 =>
      cases format with
      | text => exact intFromSql_isOk_iff lib.int4FromSql
      | binary => exact conversion_isOk_iff
  | i64 =>
      cases format with
      | text => exact intFromSql_isOk_iff lib.int8FromSql
      | binary => exact conversion_isOk_iff
  | u32 =>
      cases format with
      | text => exact intFromSql_isOk_iff lib.oidFromSql
      | binary => exact conversion_isOk_iff
  | f32 =>
      cases format with
      | text => exact floatFromSql_isOk_iff lib.float4FromSql
      | binary => exact conversion_isOk_iff
  | f64 =>
      cases format with
      | text => exact floatFromSql_isOk_iff lib.float8FromSql
      | binary => exact conversion_isOk_iff
  | string =>
      cases format with
      | text => exact ⟨fun ⟨v, h⟩ => ⟨v, fromUtf8_ok.mp h⟩, fun ⟨v, h⟩ => ⟨v, fromUtf8_ok.mpr h⟩⟩
      | binary => exact conversion_isOk_iff
  | vecU8 =>
      cases format with
      | text => exact vecU8FromSql_isOk_iff
      | binary => exact ⟨fun _ => trivial, fun _ => ⟨_, rfl⟩⟩
  | option inner ih =>
      have hInner := ih
      have hMap : (∃ v, (RustType.option inner).fromSql std lib ty (some bytes) format = .ok v) ↔
          ∃ v, inner.fromSql std lib ty (some bytes) format = .ok v := by
        refine ⟨fun h => ?_, fun h => ?_⟩
        · obtain ⟨v, hOk⟩ := h
          obtain ⟨value, hValue, _⟩ := Except.of_map hOk
          exact ⟨value, hValue⟩
        · obtain ⟨value, hValue⟩ := h
          exact ⟨some value, congrArg (Except.map some) hValue⟩
      cases format with
      | text => exact hMap.trans hInner
      | binary => exact hMap.trans hInner

/-- What the binary format of a type reads is what the type would send. -/
theorem toSql_of_fromSql (t : RustType) (hBool : t ≠ .bool) (hOption : t.isOption = false)
    {ty ty' : Oid} {v : t.Carrier} (h : t.fromSql std lib ty (some bytes) .binary = .ok v) :
    t.toSql std v ty' .binary = .ok (some bytes) := by
  cases t with
  | bool => exact absurd rfl hBool
  | i8 =>
      exact congrArg (fun bytes => Except.ok (some bytes))
        (lib.char_ok (Except.of_mapError h)).symm
  | i16 =>
      exact congrArg (fun bytes => Except.ok (some bytes))
        (lib.int2_ok (Except.of_mapError h)).symm
  | i32 =>
      exact congrArg (fun bytes => Except.ok (some bytes))
        (lib.int4_ok (Except.of_mapError h)).symm
  | i64 =>
      exact congrArg (fun bytes => Except.ok (some bytes))
        (lib.int8_ok (Except.of_mapError h)).symm
  | u32 =>
      exact congrArg (fun bytes => Except.ok (some bytes))
        (lib.oid_ok (Except.of_mapError h)).symm
  | f32 =>
      exact congrArg (fun bytes => Except.ok (some bytes))
        (lib.float4_ok (Except.of_mapError h)).symm
  | f64 =>
      exact congrArg (fun bytes => Except.ok (some bytes))
        (lib.float8_ok (Except.of_mapError h)).symm
  | string =>
      exact congrArg (fun bytes => Except.ok (some bytes)) (lib.text_ok (Except.of_mapError h)).symm
  | vecU8 =>
      cases h
      exact congrArg (fun bytes => Except.ok (some bytes)) (lib.bytea_eq bytes)
  | option inner => cases hOption

theorem binaryValue_bool {byte : UInt8} :
    binaryValue PgType.bool [byte] = some (.bool (byte != 0)) := by
  have hByte : BigEndian.nat [byte] = byte.toNat := Nat.zero_add byte.toNat
  have hZero : byte.toNat = 0 ↔ byte = 0 := UInt8.toNat_inj (b := 0)
  simp [binaryValue, unsignedValue, hByte, hZero, bne, BEq.beq]

/-- What is read of a column of an accepted type is its value in the binary format. -/
theorem binaryValue_fromSql (t : RustType) {ty ty' : Oid} {v : t.Carrier} (hAccepts : t.accepts ty)
    (h : t.fromSql std lib ty' (some bytes) .binary = .ok v) :
    binaryValue ty bytes = t.denote v := by
  induction t with
  | bool =>
      have hTy : ty = PgType.bool := of_decide_eq_true hAccepts
      obtain ⟨byte, rfl, rfl⟩ := lib.bool_ok (Except.of_mapError h)
      subst hTy
      exact binaryValue_bool
  | option inner ih =>
      obtain ⟨value, hValue, rfl⟩ := Except.of_map h
      exact ih hAccepts hValue
  | _ =>
      have hCell := binaryValue_toSql std _ v hAccepts (toSql_of_fromSql _ (by decide) rfl h)
      exact Option.some.inj hCell

/-- The types whose text is the server's. A byte string must be in one of the formats that
the server has, which the client does not check; the text of a single byte is never the
number that is read. -/
def AgreesText : RustType → Bytes → Prop
  | .i8, _ => False
  | .vecU8, bytes => (textBytea bytes).isSome
  | .option inner, bytes => inner.AgreesText bytes
  | _, _ => True

theorem textInt_fromSql {α : Type} {low high : Int} {ofInt : Int → α}
    {parseError : String → TypeError}
    (binary : Bytes → Except String α) (toInt : α → Int)
    (hBack : ∀ n, low ≤ n → n ≤ high → toInt (ofInt n) = n) {v : α}
    (h : intFromSql std low high ofInt parseError binary (some bytes) .text = .ok v) :
    (textOf bytes).bind (textInt low high) = some (toInt v) := by
  obtain ⟨text, hText, hParse⟩ := Except.of_bind h
  obtain ⟨n, hInt, rfl⟩ := Except.of_map hParse
  have hValue := parseInt_ok (Except.of_mapError hInt)
  have hRange : low ≤ n ∧ n ≤ high := by
    have hFilter := hValue
    rw [textInt, Option.filter_eq_some_iff] at hFilter
    exact of_decide_eq_true hFilter.2
  rw [fromUtf8_ok.mp hText, Option.bind_some, hValue, hBack n hRange.1 hRange.2]

theorem textFloat_fromSql {α : Type} {parse : String → Except String α}
    (binary : Bytes → Except String α) {v : α}
    (h : floatFromSql std parse binary (some bytes) .text = .ok v) :
    ((textOf bytes).bind fun text => (parse text).toOption) = some v := by
  obtain ⟨text, hText, hParse⟩ := Except.of_bind h
  rw [fromUtf8_ok.mp hText, Option.bind_some, Except.of_mapError hParse]
  rfl

theorem textValue_text {ty : Oid} (h : isText ty) :
    textValue std ty bytes = (textOf bytes).map .text := by
  simp only [isText, decide_eq_true_eq] at h
  obtain rfl | rfl | rfl | rfl | rfl := h <;> rfl

theorem textBool_fromSql {v : Bool} (h : boolFromSql std lib (some bytes) .text = .ok v) :
    (textOf bytes).bind textBool = some v := by
  have hTrue : ∀ text ∈ trueTexts, textBool text = some true := by decide +kernel
  have hFalse : ∀ text ∈ falseTexts, textBool text = some false := by decide +kernel
  obtain ⟨text, hText, hParse⟩ := Except.of_bind h
  rw [fromUtf8_ok.mp hText, Option.bind_some]
  split at hParse
  case isTrue hMem =>
      cases hParse
      exact hTrue text hMem
  case isFalse =>
      split at hParse
      case isTrue hMem =>
          cases hParse
          exact hFalse text hMem
      case isFalse => cases hParse

theorem textBytea_fromSql {v value : Bytes} (hValue : textBytea bytes = some value)
    (h : vecU8FromSql std lib (some bytes) .text = .ok v) : v = value := by
  by_cases hHex : ∃ hex, bytes = 92 :: 120 :: hex
  · obtain ⟨hex, rfl⟩ := hHex
    rw [vecU8FromSql_hex] at h
    obtain ⟨text, hText, hDecode⟩ := Except.of_bind h
    rw [textBytea, fromUtf8_ok.mp hText, Option.bind_some] at hValue
    have hSame := Except.of_mapError hDecode
    rw [decodeHex_of_hexBytes hValue] at hSame
    exact (Except.ok.inj hSame).symm
  · rw [not_exists] at hHex
    rw [vecU8FromSql_escape hHex] at h
    have hEscape : escapedBytes bytes = some value := by
      simpa only [textBytea] using hValue
    rw [decodeByteaEscape_of_escapedBytes hEscape] at h
    exact (Except.ok.inj h).symm

/-- What is read of a column of an accepted type is its value in the text format. -/
theorem textValue_fromSql (t : RustType) {ty ty' : Oid} {v : t.Carrier} (hAccepts : t.accepts ty)
    (hAgrees : t.AgreesText bytes) (h : t.fromSql std lib ty' (some bytes) .text = .ok v) :
    textValue std ty bytes = t.denote v := by
  induction t with
  | bool =>
      have hTy : ty = PgType.bool := of_decide_eq_true hAccepts
      subst hTy
      exact congrArg (Option.map PgValue.bool) (textBool_fromSql h)
  | i8 => cases hAgrees
  | i16 =>
      have hTy : ty = PgType.int2 := of_decide_eq_true hAccepts
      subst hTy
      exact congrArg (Option.map PgValue.int) (textInt_fromSql lib.int2FromSql Int16.toInt
        (fun _ hLow hHigh => Int16.toInt_ofInt_of_le hLow (Int.lt_of_le_sub_one hHigh)) h)
  | i32 =>
      have hTy : ty = PgType.int4 := of_decide_eq_true hAccepts
      subst hTy
      exact congrArg (Option.map PgValue.int) (textInt_fromSql lib.int4FromSql Int32.toInt
        (fun _ hLow hHigh => Int32.toInt_ofInt_of_le hLow (Int.lt_of_le_sub_one hHigh)) h)
  | i64 =>
      have hTy : ty = PgType.int8 := of_decide_eq_true hAccepts
      subst hTy
      exact congrArg (Option.map PgValue.int) (textInt_fromSql lib.int8FromSql Int64.toInt
        (fun _ hLow hHigh => Int64.toInt_ofInt_of_le hLow (Int.lt_of_le_sub_one hHigh)) h)
  | u32 =>
      have hTy : ty = PgType.oid := of_decide_eq_true hAccepts
      subst hTy
      have hBack : ∀ n : Int, 0 ≤ n → n ≤ 2 ^ 32 - 1 →
        ((UInt32.ofNat n.toNat).toNat : Int) = n := by
        intro n hLow hHigh
        rw [UInt32.toNat_ofNat_of_lt' (show n.toNat < 2 ^ 32 by omega), Int.toNat_of_nonneg hLow]
      exact congrArg (Option.map PgValue.int) (textInt_fromSql lib.oidFromSql
        (fun value => value.toNat) hBack h)
  | f32 =>
      have hTy : ty = PgType.float4 := of_decide_eq_true hAccepts
      subst hTy
      exact congrArg (Option.map PgValue.float4) (textFloat_fromSql lib.float4FromSql h)
  | f64 =>
      have hTy : ty = PgType.float8 := of_decide_eq_true hAccepts
      subst hTy
      exact congrArg (Option.map PgValue.float8) (textFloat_fromSql lib.float8FromSql h)
  | string =>
      have hText : isText ty := hAccepts
      rw [textValue_text hText]
      exact congrArg (Option.map PgValue.text) (fromUtf8_ok.mp h)
  | vecU8 =>
      have hTy : ty = PgType.bytea := of_decide_eq_true hAccepts
      subst hTy
      obtain ⟨value, hValue⟩ := Option.isSome_iff_exists.mp hAgrees
      cases textBytea_fromSql hValue h
      exact congrArg (Option.map PgValue.bytea) hValue
  | option inner ih =>
      obtain ⟨value, hValue, rfl⟩ := Except.of_map h
      exact ih hAccepts hAgrees hValue

/-- The text of a single byte is never read as that byte. -/
theorem i8_text {v : Int8} (h : i8FromSql std lib (some bytes) .text = .ok v) :
    textValue std PgType.char bytes ≠ some (.char v.toUInt8) := by
  obtain ⟨text, hText, hParse⟩ := Except.of_bind h
  obtain ⟨n, hInt, rfl⟩ := Except.of_map hParse
  obtain ⟨c, chars, hChars, hLow, hHigh, hSingle⟩ :=
    textInt_digit (parseInt_ok (Except.of_mapError hInt))
  have hBytes := encode_of_textOf (fromUtf8_ok.mp hText)
  have hSize : c.utf8Size = 1 := by
    have hSmall : c.val ≤ 127 := UInt32.le_iff_toNat_le.mpr (Nat.le_trans hHigh (by decide))
    exact if_pos hSmall
  have hByte : c.val.toUInt8.toNat = c.toNat := by
    rw [UInt32.toNat_toUInt8]
    exact Nat.mod_eq_of_lt (Nat.lt_of_le_of_lt hHigh (by decide))
  rw [hChars, LossyUtf8.encode_cons, String.utf8EncodeChar_eq_singleton hSize,
    List.singleton_append]
    at hBytes
  intro hValue
  have hChar : textChar bytes = some (Int8.ofInt n).toUInt8 := by
    obtain ⟨byte, hByte, hSame⟩ := Option.map_eq_some_iff.mp hValue
    cases hSame
    exact hByte
  rw [hBytes] at hChar
  have hRest : LossyUtf8.encode chars = [] → chars = [] := by
    intro hNil
    cases chars with
    | nil => rfl
    | cons c' chars => simp [String.utf8EncodeChar_ne_nil] at hNil
  unfold textChar at hChar
  split at hChar
  case h_1 hEq => cases hEq
  case h_2 byte hEq =>
      obtain ⟨rfl, hNil⟩ := List.cons.inj hEq
      obtain ⟨hDigit, rfl⟩ := hSingle (hRest hNil)
      split at hChar
      case isTrue =>
          have hSame := congrArg UInt8.toNat (Option.some.inj hChar)
          have hBack : (Int8.ofInt (c.toNat - 48)).toUInt8.toNat = c.toNat - 48 := by
            rw [← unsigned_int8, Int8.toInt_ofInt_of_le (by omega) (by omega), BigEndian.unsigned]
            omega
          omega
      case isFalse => cases hChar
  case h_3 first second third hEq =>
      have hFirst := congrArg UInt8.toNat (List.cons.inj hEq).1
      rw [hByte] at hFirst
      have hSlash : (92 : UInt8).toNat = 92 := rfl
      omega
  case h_4 => cases hChar

theorem denote_isSome (t : RustType) {ty : Oid} {format : FormatCode} {v : t.Carrier}
    (h : t.fromSql std lib ty (some bytes) format = .ok v) : (t.denote v).isSome := by
  induction t with
  | option inner ih =>
      obtain ⟨value, hValue, rfl⟩ := Except.of_map h
      exact ih hValue
  | _ => rfl

/-- Where a text is read as the server's value, its type is one whose text is the server's. -/
theorem agreesText_of_textValue (t : RustType) {ty ty' : Oid} {v : t.Carrier}
    (hAccepts : t.accepts ty)
    (h : t.fromSql std lib ty' (some bytes) .text = .ok v)
    (hValue : t.denote v = textValue std ty bytes) : t.AgreesText bytes := by
  induction t with
  | i8 =>
      have hTy : ty = PgType.char := of_decide_eq_true hAccepts
      subst hTy
      exact i8_text h hValue.symm
  | vecU8 =>
      have hTy : ty = PgType.bytea := of_decide_eq_true hAccepts
      subst hTy
      have hSome : ((textBytea bytes).map PgValue.bytea).isSome := by
        have hMap : textValue std PgType.bytea bytes = (textBytea bytes).map PgValue.bytea := rfl
        rw [← hMap, ← hValue]
        rfl
      rwa [Option.isSome_map] at hSome
  | option inner ih =>
      obtain ⟨value, hRead, rfl⟩ := Except.of_map h
      exact ih hAccepts hRead hValue
  | _ => trivial

theorem fromSql_null (t : RustType) {ty : Oid} {format : FormatCode} (h : t.isOption = false) :
    ∃ e, t.fromSql std lib ty none format = .error e := by
  cases t with
  | option inner => cases h
  | _ => cases format <;> exact ⟨_, rfl⟩

end RustType

end PgClient
