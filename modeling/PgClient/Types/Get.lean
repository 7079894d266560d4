import PgClient.Types.Reads

/-!
What `Row::get` returns, against what its documentation promises.
-/

namespace PgClient

open FromSql PgType

/-- What `get` promises of its outcome. -/
structure GetContract (std : StdText) (t : RustType) (row : Row) (index : Nat)
    (outcome : Except PgError t.Carrier) : Prop where
  outside : row.columns[index]? = none ∨ row.values[index]? = none →
    outcome = .error (.columnIndexOutOfBounds index row.columns.length)
  null : ∀ field, row.columns[index]? = some field → row.values[index]? = some none →
    if t.isOption then ∃ v, outcome = .ok v ∧ t.denote v = none
    else ∃ column, outcome = .error (.unexpectedNull column)
  mismatch : ∀ field bytes, row.columns[index]? = some field →
    row.values[index]? = some (some bytes) →
    (t.accepts field.typeOid = false ∨ wireValue std field bytes = none) →
    ∃ e, outcome = .error (.typeConversion e)
  sound : ∀ field bytes v, row.columns[index]? = some field →
    row.values[index]? = some (some bytes) →
    outcome = .ok v → t.accepts field.typeOid ∧ t.denote v = wireValue std field bytes ∧
      (t.denote v).isSome

/-- The rows, columns and types for which `get` keeps its promise: what is NULL is read as an
option, and what a type reads is of a column that the type can stand for, in a format that
both sides understand the same way. -/
def GetMeets (std : StdText) (lib : PostgresProtocol) (t : RustType) (row : Row) (index : Nat) :
    Prop :=
  match row.columns[index]?, row.values[index]? with
  | none, _ => True
  | some _, none => False
  | some _, some none => t.isOption
  | some field, some (some bytes) =>
      if field.format = 1 then t.ReadsBinary lib bytes → t.accepts field.typeOid
      else t.ReadsText std bytes → field.format = 0 ∧ t.accepts field.typeOid ∧ t.AgreesText bytes

/-- With a value present, the promise is about what is read of it. -/
theorem getContract_present {std : StdText} {t : RustType} {row : Row} {index : Nat}
    {field : FieldDescription} {bytes : Bytes} (hColumn : row.columns[index]? = some field)
    (hValue : row.values[index]? = some (some bytes)) {result : Except TypeError t.Carrier} :
    GetContract std t row index (result.mapError .typeConversion) ↔
      ∀ v, result = .ok v → t.accepts field.typeOid ∧ t.denote v = wireValue std field bytes ∧
        (t.denote v).isSome := by
  refine ⟨fun hContract v hOk => ?_, fun hSound => ⟨?_, ?_, ?_, ?_⟩⟩
  · subst hOk
    exact hContract.sound field bytes v hColumn hValue rfl
  · intro hOutside
    rw [hColumn, hValue] at hOutside
    obtain hNone | hNone := hOutside <;> cases hNone
  · intro _ _ hNull
    rw [hValue] at hNull
    cases hNull
  · intro field' bytes' hField hBytes hMismatch
    rw [hColumn] at hField
    rw [hValue] at hBytes
    cases hField
    cases hBytes
    cases result with
    | error e => exact ⟨e, rfl⟩
    | ok v =>
        obtain ⟨hAccepts, hDenote, hSome⟩ := hSound v rfl
        obtain hNot | hNone := hMismatch
        · rw [hAccepts] at hNot
          cases hNot
        · rw [hDenote, hNone] at hSome
          cases hSome
  · intro field' bytes' v hField hBytes hOk
    rw [hColumn] at hField
    rw [hValue] at hBytes
    cases hField
    cases hBytes
    exact hSound v (Except.of_mapError hOk)

theorem getContract_null {std : StdText} {t : RustType} {row : Row} {index : Nat}
    {field : FieldDescription} (hColumn : row.columns[index]? = some field)
    (hValue : row.values[index]? = some none) {outcome : Except PgError t.Carrier} :
    GetContract std t row index outcome ↔
      if t.isOption then ∃ v, outcome = .ok v ∧ t.denote v = none
      else ∃ column, outcome = .error (.unexpectedNull column) := by
  refine ⟨fun hContract => hContract.null field hColumn hValue, fun hNull => ⟨?_, ?_, ?_, ?_⟩⟩
  · intro hOutside
    rw [hColumn, hValue] at hOutside
    obtain hNone | hNone := hOutside <;> cases hNone
  · intro _ _ _
    exact hNull
  · intro _ _ _ hBytes
    rw [hValue] at hBytes
    cases hBytes
  · intro _ _ _ _ hBytes
    rw [hValue] at hBytes
    cases hBytes

/-- `get` keeps its promise exactly there. -/
theorem Row.get_contract_iff (std : StdText) (lib : PostgresProtocol)
    (typeFromOid : Oid → Option Oid)
    (t : RustType) (row : Row) (index : Nat) :
    GetContract std t row index (row.get std lib typeFromOid t index) ↔
      GetMeets std lib t row index := by
  have hGet : ∀ field, row.columns[index]? = some field → row.get std lib typeFromOid t index =
      (t.fromSql std lib ((typeFromOid field.typeOid).getD 0) (row.getRaw index)
        (if field.format = 1 then .binary else .text)).mapError .typeConversion := by
    intro field hField
    rw [Row.get, hField]
  unfold GetMeets
  split
  case h_1 hColumn =>
      refine iff_of_true ⟨?_, ?_, ?_, ?_⟩ trivial
      · intro _
        rw [Row.get, hColumn]
      · intro field hField
        rw [hColumn] at hField
        cases hField
      · intro field _ hField
        rw [hColumn] at hField
        cases hField
      · intro field _ _ hField
        rw [hColumn] at hField
        cases hField
  case h_2 field hColumn hValue =>
      refine ⟨fun hContract => ?_, False.elim⟩
      have hOutside := hContract.outside (.inr hValue)
      rw [hGet field hColumn] at hOutside
      generalize t.fromSql _ _ _ _ _ = result at hOutside
      cases result <;> cases hOutside
  case h_3 field hColumn hValue =>
      have hRaw : row.getRaw index = none := by rw [Row.getRaw, hValue]; rfl
      rw [getContract_null hColumn hValue, hGet field hColumn, hRaw]
      cases hOption : t.isOption with
      | false =>
          obtain ⟨e, hError⟩ := t.fromSql_null hOption
          rw [hError]
          refine iff_of_false (fun hNull => ?_) Bool.false_ne_true
          rw [if_neg Bool.false_ne_true] at hNull
          obtain ⟨column, hColumn⟩ := hNull
          cases hColumn
      | true =>
          cases t with
          | option inner => exact iff_of_true ⟨none, rfl, rfl⟩ rfl
          | _ => cases hOption
  case h_4 field bytes hColumn hValue =>
      have hRaw : row.getRaw index = some bytes := by rw [Row.getRaw, hValue]; rfl
      rw [hGet field hColumn, hRaw, getContract_present hColumn hValue]
      by_cases hFormat : field.format = 1
      · rw [if_pos hFormat, if_pos hFormat, wireValue, if_pos hFormat]
        refine ⟨fun hSound hReads => ?_, fun hMeets v hOk => ?_⟩
        · obtain ⟨v, hOk⟩ := (t.fromSql_isOk_iff .binary).mpr hReads
          exact (hSound v hOk).1
        · have hAccepts := hMeets ((t.fromSql_isOk_iff .binary).mp ⟨v, hOk⟩)
          exact ⟨hAccepts, (t.binaryValue_fromSql hAccepts hOk).symm, t.denote_isSome hOk⟩
      · rw [if_neg hFormat, if_neg hFormat, wireValue, if_neg hFormat]
        refine ⟨fun hSound hReads => ?_, fun hMeets v hOk => ?_⟩
        · obtain ⟨v, hOk⟩ := (t.fromSql_isOk_iff .text).mpr hReads
          obtain ⟨hAccepts, hDenote, hSome⟩ := hSound v hOk
          split at hDenote
          case isTrue hText => exact ⟨hText, hAccepts,
            t.agreesText_of_textValue hAccepts hOk hDenote⟩
          case isFalse =>
              rw [hDenote] at hSome
              cases hSome
        · obtain ⟨hText, hAccepts, hAgrees⟩ := hMeets ((t.fromSql_isOk_iff .text).mp ⟨v, hOk⟩)
          rw [if_pos hText]
          exact ⟨hAccepts, (t.textValue_fromSql hAccepts hAgrees hOk).symm, t.denote_isSome hOk⟩

namespace PostgresProtocol

/-- A number of a fixed width, as the library reads it. -/
def sized {α : Type} (width : Nat) (ofNat : Nat → α) (bytes : Bytes) : Except String α :=
  if bytes.length = width then .ok (ofNat (BigEndian.nat bytes)) else .error "invalid buffer size"

theorem sized_ok {α : Type} {width : Nat} {ofNat : Nat → α} {bytes : Bytes} {value : α}
    (h : sized width ofNat bytes = .ok value) :
    BigEndian.nat bytes < 256 ^ width ∧ value = ofNat (BigEndian.nat bytes) ∧
      BigEndian.bytes width (BigEndian.nat bytes) = bytes := by
  rw [sized] at h
  split at h
  case isFalse => cases h
  case isTrue hWidth =>
      cases h
      subst hWidth
      exact ⟨BigEndian.nat_lt bytes, rfl, BigEndian.bytes_nat bytes⟩

theorem sized_signed {α : Type} {width : Nat} {ofInt : Int → α} {toInt : α → Int}
    (hBack : ∀ n, -256 ^ width ≤ 2 * n → 2 * n < 256 ^ width → toInt (ofInt n) = n)
    {bytes : Bytes} {value : α}
    (h : sized width (fun n => ofInt (BigEndian.signed width n)) bytes = .ok value) :
    bytes = RustType.toBeBytes width (toInt value) := by
  obtain ⟨hLt, rfl, hBytes⟩ := sized_ok h
  obtain ⟨hLow, hHigh⟩ := BigEndian.signed_range hLt
  rw [RustType.toBeBytes, hBack _ hLow hHigh, BigEndian.unsigned_signed hLt, hBytes]

theorem int8_back (n : Int) (hLow : -256 ^ 1 ≤ 2 * n) (hHigh : 2 * n < 256 ^ 1) :
    (Int8.ofInt n).toInt = n := Int8.toInt_ofInt_of_le (by omega) (by omega)

theorem int16_back (n : Int) (hLow : -256 ^ 2 ≤ 2 * n) (hHigh : 2 * n < 256 ^ 2) :
    (Int16.ofInt n).toInt = n := Int16.toInt_ofInt_of_le (by omega) (by omega)

theorem int32_back (n : Int) (hLow : -256 ^ 4 ≤ 2 * n) (hHigh : 2 * n < 256 ^ 4) :
    (Int32.ofInt n).toInt = n := Int32.toInt_ofInt_of_le (by omega) (by omega)

theorem int64_back (n : Int) (hLow : -256 ^ 8 ≤ 2 * n) (hHigh : 2 * n < 256 ^ 8) :
    (Int64.ofInt n).toInt = n := Int64.toInt_ofInt_of_le (by omega) (by omega)

theorem sized_bits32 {bytes : Bytes} {value : UInt32} (h : sized 4 UInt32.ofNat bytes = .ok value) :
    bytes = BigEndian.bytes 4 value.toNat := by
  obtain ⟨hLt, rfl, hBytes⟩ := sized_ok h
  rw [UInt32.toNat_ofNat_of_lt' hLt, hBytes]

theorem sized_float4 {bytes : Bytes} {value : F32}
    (h : sized 4 (fun n => (⟨UInt32.ofNat n⟩ : F32)) bytes = .ok value) :
    bytes = BigEndian.bytes 4 value.bits.toNat := by
  obtain ⟨hLt, rfl, hBytes⟩ := sized_ok h
  rw [UInt32.toNat_ofNat_of_lt' hLt, hBytes]

theorem sized_float8 {bytes : Bytes} {value : F64}
    (h : sized 8 (fun n => (⟨UInt64.ofNat n⟩ : F64)) bytes = .ok value) :
    bytes = BigEndian.bytes 8 value.bits.toNat := by
  obtain ⟨hLt, rfl, hBytes⟩ := sized_ok h
  rw [UInt64.toNat_ofNat_of_lt' hLt, hBytes]

def readBool : Bytes → Except String Bool
  | [byte] => .ok (byte != 0)
  | _ => .error "invalid buffer size"

theorem readBool_ok {bytes : Bytes} {value : Bool} (h : readBool bytes = .ok value) :
    ∃ byte, bytes = [byte] ∧ value = (byte != 0) := by
  unfold readBool at h
  split at h
  case h_1 byte =>
      cases h
      exact ⟨byte, rfl, rfl⟩
  case h_2 => cases h

def readText (bytes : Bytes) : Except String String :=
  match textOf bytes with
  | some text => .ok text
  | none => .error "invalid utf-8 sequence"

theorem readText_ok {bytes : Bytes} {value : String} (h : readText bytes = .ok value) :
    bytes = lineBytes value := by
  unfold readText at h
  split at h
  case h_1 text hText =>
      cases h
      exact lineBytes_of_textOf hText
  case h_2 => cases h

/-- The decoders as the library documents them. -/
def documented : PostgresProtocol where
  boolFromSql := readBool
  charFromSql := sized 1 fun n => Int8.ofInt (BigEndian.signed 1 n)
  int2FromSql := sized 2 fun n => Int16.ofInt (BigEndian.signed 2 n)
  int4FromSql := sized 4 fun n => Int32.ofInt (BigEndian.signed 4 n)
  int8FromSql := sized 8 fun n => Int64.ofInt (BigEndian.signed 8 n)
  oidFromSql := sized 4 UInt32.ofNat
  float4FromSql := sized 4 fun n => ⟨UInt32.ofNat n⟩
  float8FromSql := sized 8 fun n => ⟨UInt64.ofNat n⟩
  textFromSql := readText
  byteaFromSql bytes := bytes
  bool_ok := readBool_ok
  char_ok := sized_signed int8_back
  int2_ok := sized_signed int16_back
  int4_ok := sized_signed int32_back
  int8_ok := sized_signed int64_back
  oid_ok := sized_bits32
  float4_ok := sized_float4
  float8_ok := sized_float8
  text_ok := readText_ok
  bytea_eq _ := rfl

end PostgresProtocol

/-- A column of one row. -/
def columnOf (typeOid : Oid) (format : Int16) : FieldDescription :=
  { name := "c", tableOid := 0, columnId := 0, typeOid := typeOid, typeSize := 4,
    typeModifier := -1,
    format := format }

/-- A NULL read as an `i32` is not reported as one, and the bits of a FLOAT4 are read as an
`i32`. -/
theorem Row.not_get_contract :
    (∀ std typeFromOid, (Row.get std .documented typeFromOid .i32
        ⟨[columnOf PgType.int4 1], [none]⟩ 0) = .error
          (.typeConversion (.conversion "unexpected NULL"))) ∧
      (∀ std typeFromOid, ¬ GetContract std .i32 ⟨[columnOf PgType.int4 1], [none]⟩ 0
        (Row.get std .documented typeFromOid .i32 ⟨[columnOf PgType.int4 1], [none]⟩ 0)) ∧
      (∀ std typeFromOid, Row.get std .documented typeFromOid .i32
        ⟨[columnOf PgType.float4 1], [some [0x3F, 0x80, 0, 0]]⟩ 0 = .ok (1065353216 : Int32)) ∧
      ∀ std typeFromOid, ¬ GetContract std .i32
        ⟨[columnOf PgType.float4 1], [some [0x3F, 0x80, 0, 0]]⟩ 0
        (Row.get std .documented typeFromOid .i32
          ⟨[columnOf PgType.float4 1], [some [0x3F, 0x80, 0, 0]]⟩ 0) := by
  refine ⟨fun _ _ => rfl, fun std _ hContract => ?_, fun _ _ => rfl, fun std _ hContract => ?_⟩
  · obtain ⟨column, hNull⟩ := hContract.null _ rfl rfl
    cases hNull
  · have hSound := hContract.sound _ _ (1065353216 : Int32) rfl rfl rfl
    cases hSound.1

end PgClient
