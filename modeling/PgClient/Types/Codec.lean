import PgClient.Types.Bytea
import PgClient.Types.Get

/-!
The two formats of a value: what is sent in either of them is read back, and the server's own
texts and binary values are read alike, but for those of single bytes.
-/

namespace PgClient

open FromSql PgType

namespace PgType

/-- The text of a single byte: none of zero, and the octal digits of what is not ASCII. -/
def charOutput (byte : UInt8) : Bytes :=
  if byte = 0 then []
  else if byte < 128 then [byte]
  else (EscapePiece.octalOf byte).text

/-- What the server sends for a value in text format; a byte string has two texts. -/
inductive TextOutput : PgValue → Bytes → Prop where
  | bool (value : Bool) : TextOutput (.bool value) (lineBytes (if value then "t" else "f"))
  | char (byte : UInt8) : TextOutput (.char byte) (charOutput byte)
  | int (value : Int) : TextOutput (.int value) (lineBytes (toString value))
  | text (value : String) : TextOutput (.text value) (lineBytes value)
  | byteaHex (value : Bytes) : TextOutput (.bytea value) (byteaHex value)
  | byteaEscape (value : Bytes) : TextOutput (.bytea value) (byteaEscape value)

theorem textChar_charOutput (byte : UInt8) : textChar (charOutput byte) = some byte := by
  unfold charOutput
  split
  case isTrue hZero => rw [textChar, hZero]
  case isFalse =>
      split
      case isTrue hAscii => rw [textChar, if_pos hAscii]
      case isFalse =>
          have hValue := EscapePiece.value_octalOf byte
          simp only [EscapePiece.octalOf, ← EscapePiece.octal_value] at hValue
          exact congrArg some hValue

end PgType

namespace PostgresProtocol

/-- The decoders refuse nothing that has the size of their type. -/
structure Complete (lib : PostgresProtocol) : Prop where
  bool : ∀ byte, ∃ v, lib.boolFromSql [byte] = .ok v
  char : ∀ bytes, bytes.length = 1 → ∃ v, lib.charFromSql bytes = .ok v
  int2 : ∀ bytes, bytes.length = 2 → ∃ v, lib.int2FromSql bytes = .ok v
  int4 : ∀ bytes, bytes.length = 4 → ∃ v, lib.int4FromSql bytes = .ok v
  int8 : ∀ bytes, bytes.length = 8 → ∃ v, lib.int8FromSql bytes = .ok v
  oid : ∀ bytes, bytes.length = 4 → ∃ v, lib.oidFromSql bytes = .ok v
  text : ∀ bytes, (textOf bytes).isSome → ∃ v, lib.textFromSql bytes = .ok v

theorem documented_complete : documented.Complete where
  bool byte := ⟨_, rfl⟩
  char _ hLength := ⟨_, if_pos hLength⟩
  int2 _ hLength := ⟨_, if_pos hLength⟩
  int4 _ hLength := ⟨_, if_pos hLength⟩
  int8 _ hLength := ⟨_, if_pos hLength⟩
  oid _ hLength := ⟨_, if_pos hLength⟩
  text bytes hText := by
    obtain ⟨text, hText⟩ := Option.isSome_iff_exists.mp hText
    exact ⟨text, by simp [documented, readText, hText]⟩

end PostgresProtocol

namespace FromSql

theorem le_foldl_digits (chars : List Char) (m : Nat) :
    m ≤ chars.foldl (fun n c => 10 * n + (c.toNat - '0'.toNat)) m := by
  induction chars generalizing m with
  | nil => exact Nat.le_refl m
  | cons c chars ih => exact Nat.le_trans (by omega) (ih (10 * m + (c.toNat - '0'.toNat)))

/-- Digits whose number is in range are taken, one after the other. -/
theorem parseDigits_of_range {low high : Int} {negative : Bool} {m : Nat} {chars : List Char}
    (hZero : low ≤ 0 ∧ 0 ≤ high) (hDigits : ∀ c ∈ chars, c.isDigit)
    (hRange : low ≤ withSign negative (chars.foldl (fun n c => 10 * n + (c.toNat - '0'.toNat)) m) ∧
      withSign negative (chars.foldl (fun n c => 10 * n + (c.toNat - '0'.toNat)) m) ≤ high) :
    parseDigits low high negative (withSign negative m) chars = .ok (withSign negative
      (chars.foldl (fun n c => 10 * n + (c.toNat - '0'.toNat)) m)) := by
  induction chars generalizing m with
  | nil => rfl
  | cons c chars ih =>
      have hDigit := hDigits c List.mem_cons_self
      have hMono := le_foldl_digits chars (10 * m + (c.toNat - '0'.toNat))
      have hNextRange : low ≤ withSign negative (10 * m + (c.toNat - '0'.toNat)) ∧
          withSign negative (10 * m + (c.toNat - '0'.toNat)) ≤ high := by
        rw [List.foldl_cons] at hRange
        cases negative
        all_goals
          simp only [withSign, Bool.false_eq_true, if_false, if_true] at hRange ⊢
          omega
      rw [parseDigits, if_pos hDigit]
      simp only [withSign_digit negative m hDigit]
      rw [if_neg (Int.not_lt.mpr hNextRange.2), if_neg (Int.not_lt.mpr hNextRange.1)]
      exact ih (fun c hMem => hDigits c (List.mem_cons_of_mem _ hMem)) hRange

theorem foldl_toDigits (n : Nat) :
    (Nat.toDigits 10 n).foldl (fun n c => 10 * n + (c.toNat - '0'.toNat)) 0 = n := by
  rw [← Nat.ofDigitChars_eq_foldl, Nat.ofDigitChars_ten_toDigits]

theorem parseInt_digits {low high : Int} {text : String} {chars : List Char}
    (hText : text.toList = chars) (hNil : chars ≠ []) (hDigits : ∀ c ∈ chars, c.isDigit) :
    parseInt low high text = parseDigits low high false 0 chars := by
  subst hText
  rw [parseInt]
  split
  case h_1 hEq => exact absurd hEq hNil
  case h_2 hEq => exact absurd (hDigits '+' (hEq ▸ List.mem_cons_self)) (by decide)
  case h_3 hEq => exact absurd (hDigits '-' (hEq ▸ List.mem_cons_self)) (by decide)
  case h_4 sign chars _ _ hEq =>
      have hSign := hDigits sign (hEq ▸ List.mem_cons_self)
      have hPlus : sign ≠ '+' := fun hPlus => absurd (hPlus ▸ hSign) (by decide)
      have hMinus : sign ≠ '-' := fun hMinus => absurd (hMinus ▸ hSign) (by decide)
      rw [if_neg hPlus, if_neg (fun hBoth => hMinus hBoth.1), hEq]

theorem parseInt_minus {low high : Int} {text : String} {chars : List Char}
    (hText : text.toList = '-' :: chars) (hNil : chars ≠ []) (hLow : low < 0) :
    parseInt low high text = parseDigits low high true 0 chars := by
  obtain ⟨c, chars', rfl⟩ := List.exists_cons_of_ne_nil hNil
  have hSign : '-' = '-' ∧ low < 0 := ⟨rfl, hLow⟩
  rw [parseInt, hText]
  exact if_pos hSign

/-- An integer is parsed back from its decimal digits. -/
theorem parseInt_toString {low high n : Int} (hZero : low ≤ 0 ∧ 0 ≤ high)
    (hRange : low ≤ n ∧ n ≤ high) : parseInt low high (toString n) = .ok n := by
  have hDigits : ∀ m : Nat, ∀ c ∈ Nat.toDigits 10 m, c.isDigit :=
    fun m c hMem => Nat.isDigit_of_mem_toDigits (by decide) (by decide) hMem
  have hParse : ∀ (negative : Bool) (m : Nat), withSign negative m = n →
      parseDigits low high negative 0 (Nat.toDigits 10 m) = .ok n := by
    intro negative m hSign
    have hStart : (0 : Int) = withSign negative 0 := by cases negative <;> rfl
    have hTaken := @parseDigits_of_range low high negative 0 _ hZero (hDigits m)
    rw [foldl_toDigits, hSign] at hTaken
    rw [hStart]
    exact hTaken hRange
  cases n with
  | ofNat m =>
      have hText : (toString (Int.ofNat m)).toList = Nat.toDigits 10 m := Nat.toList_repr
      rw [parseInt_digits hText Nat.toDigits_ne_nil (hDigits m)]
      exact hParse false m rfl
  | negSucc m =>
      have hText : (toString (Int.negSucc m)).toList = '-' :: Nat.toDigits 10 (m + 1) := by
        show ("-" ++ Nat.repr (m + 1)).toList = _
        rw [String.toList_append, Nat.toList_repr]
        rfl
      have hLow : low < 0 := Int.lt_of_le_of_lt hRange.1 (Int.negSucc_lt_zero m)
      rw [parseInt_minus hText Nat.toDigits_ne_nil hLow]
      exact hParse true (m + 1) rfl

variable {std : StdText} {lib : PostgresProtocol}

theorem asText_lineBytes (text : String) : asText std (some (lineBytes text)) = .ok text :=
  fromUtf8_ok.mpr (textOf_lineBytes text)

theorem intFromSql_toString {α : Type} {low high n : Int} {ofInt : Int → α}
    {parseError : String → TypeError} (binary : Bytes → Except String α)
    (hZero : low ≤ 0 ∧ 0 ≤ high) (hRange : low ≤ n ∧ n ≤ high) {v : α} (hBack : ofInt n = v) :
    intFromSql std low high ofInt parseError binary (some (lineBytes (toString n))) .text =
      .ok v := by
  simp only [intFromSql, asText_lineBytes, bind, Except.bind]
  rw [parseInt_toString hZero hRange, ← hBack]
  rfl

theorem boolFromSql_output (value : Bool) :
    boolFromSql std lib (some (lineBytes (if value then "t" else "f"))) .text = .ok value := by
  simp only [boolFromSql, asText_lineBytes, bind, Except.bind]
  cases value <;> rfl

end FromSql

namespace RustType

/-- The types of the codec laws, alone or as options; the text of a floating-point number is
the standard library's. -/
def isExact : RustType → Bool
  | .f32 | .f64 | .option _ => false
  | _ => true

def IsCovered : RustType → Prop
  | .option inner => inner.isExact
  | t => t.isExact

variable {std : StdText} {lib : PostgresProtocol}

theorem denote_injective (t : RustType) (hExact : t.isExact) {v v' : t.Carrier}
    (h : t.denote v = t.denote v') : v = v' := by
  cases t with
  | bool => exact PgValue.bool.inj (Option.some.inj h)
  | i8 =>
      have hByte := PgValue.char.inj (Option.some.inj h)
      exact congrArg UInt8.toInt8 hByte
  | i16 => exact Int16.toInt_inj.mp (PgValue.int.inj (Option.some.inj h))
  | i32 => exact Int32.toInt_inj.mp (PgValue.int.inj (Option.some.inj h))
  | i64 => exact Int64.toInt_inj.mp (PgValue.int.inj (Option.some.inj h))
  | u32 => exact UInt32.toNat_inj.mp (Int.ofNat.inj (PgValue.int.inj (Option.some.inj h)))
  | string => exact PgValue.text.inj (Option.some.inj h)
  | vecU8 => exact PgValue.bytea.inj (Option.some.inj h)
  | f32 | f64 | option => cases hExact

theorem length_of_signedValue {width : Nat} {bytes : Bytes} {n : Int}
    (h : signedValue width bytes = some n) : bytes.length = width := by
  by_contra hLength
  rw [signedValue, if_neg hLength] at h
  cases h

theorem length_of_unsignedValue {width n : Nat} {bytes : Bytes}
    (h : unsignedValue width bytes = some n) : bytes.length = width := by
  by_contra hLength
  rw [unsignedValue, if_neg hLength] at h
  cases h

/-- Whatever stands for a value in binary format is read. -/
theorem fromSql_binary (hLib : lib.Complete) (t : RustType) (hExact : t.isExact) {ty : Oid}
    (hAccepts : t.accepts ty) {bytes : Bytes} {w : PgValue} (hValue : binaryValue ty bytes = some w)
    (ty' : Oid) : ∃ v, t.fromSql std lib ty' (some bytes) .binary = .ok v := by
  refine (t.fromSql_isOk_iff .binary).mpr ?_
  cases t with
  | bool =>
      have hTy : ty = PgType.bool := of_decide_eq_true hAccepts
      subst hTy
      obtain ⟨_, hByte, _⟩ := Option.map_eq_some_iff.mp hValue
      obtain ⟨byte, rfl⟩ := List.length_eq_one_iff.mp (length_of_unsignedValue hByte)
      exact hLib.bool byte
  | i8 =>
      have hTy : ty = PgType.char := of_decide_eq_true hAccepts
      subst hTy
      obtain ⟨_, hByte, _⟩ := Option.map_eq_some_iff.mp hValue
      exact hLib.char bytes (length_of_unsignedValue hByte)
  | i16 =>
      have hTy : ty = PgType.int2 := of_decide_eq_true hAccepts
      subst hTy
      obtain ⟨_, hInt, _⟩ := Option.map_eq_some_iff.mp hValue
      exact hLib.int2 bytes (length_of_signedValue hInt)
  | i32 =>
      have hTy : ty = PgType.int4 := of_decide_eq_true hAccepts
      subst hTy
      obtain ⟨_, hInt, _⟩ := Option.map_eq_some_iff.mp hValue
      exact hLib.int4 bytes (length_of_signedValue hInt)
  | i64 =>
      have hTy : ty = PgType.int8 := of_decide_eq_true hAccepts
      subst hTy
      obtain ⟨_, hInt, _⟩ := Option.map_eq_some_iff.mp hValue
      exact hLib.int8 bytes (length_of_signedValue hInt)
  | u32 =>
      have hTy : ty = PgType.oid := of_decide_eq_true hAccepts
      subst hTy
      have hInt : ((unsignedValue 4 bytes).map fun n : Int => PgValue.int n) = some w := hValue
      obtain ⟨_, hInt, _⟩ := Option.map_eq_some_iff.mp hInt
      obtain ⟨_, hNat, _⟩ := Option.bind_eq_some_iff.mp hInt
      exact hLib.oid bytes (length_of_unsignedValue hNat)
  | string =>
      have hText : isText ty := hAccepts
      rw [binaryValue_text hText] at hValue
      obtain ⟨text, hText, _⟩ := Option.map_eq_some_iff.mp hValue
      exact hLib.text bytes (Option.isSome_of_eq_some hText)
  | vecU8 => trivial
  | f32 | f64 | option => cases hExact

/-- The server's text of a value is read as that value, but for a single byte. -/
theorem fromSql_textOutput (t : RustType) (hExact : t.isExact) {v : t.Carrier} {w : PgValue}
    (hDenote : t.denote v = some w) (hChar : ∀ byte, w ≠ .char byte) {text : Bytes}
    (hText : TextOutput w text) (ty : Oid) : t.fromSql std lib ty (some text) .text = .ok v := by
  cases t with
  | bool =>
      cases hDenote
      cases hText with
      | bool => exact boolFromSql_output _
  | i8 => exact absurd (Option.some.inj hDenote).symm (hChar _)
  | i16 =>
      cases hDenote
      cases hText with
      | int =>
          have hLow := Int16.le_toInt v
          have hHigh := Int16.toInt_lt v
          exact intFromSql_toString lib.int2FromSql (by decide) (by omega) (Int16.ofInt_toInt v)
  | i32 =>
      cases hDenote
      cases hText with
      | int =>
          have hLow := Int32.le_toInt v
          have hHigh := Int32.toInt_lt v
          exact intFromSql_toString lib.int4FromSql (by decide) (by omega) (Int32.ofInt_toInt v)
  | i64 =>
      cases hDenote
      cases hText with
      | int =>
          have hLow := Int64.le_toInt v
          have hHigh := Int64.toInt_lt v
          exact intFromSql_toString lib.int8FromSql (by decide) (by omega) (Int64.ofInt_toInt v)
  | u32 =>
      cases hDenote
      cases hText with
      | int =>
          have hHigh := UInt32.toNat_lt v
          exact intFromSql_toString lib.oidFromSql (by decide) (by omega) UInt32.ofNat_toNat
  | string =>
      cases hDenote
      cases hText with
      | text => exact fromUtf8_ok.mpr (textOf_lineBytes _)
  | vecU8 =>
      cases hDenote
      cases hText with
      | byteaHex => exact vecU8FromSql_output.hex _
      | byteaEscape => exact vecU8FromSql_output.escape _
  | f32 | f64 | option => cases hExact

/-- The digits that are sent for a byte. -/
def sentDigits (byte : UInt8) : List Char :=
  [Char.ofUInt8 (hexDigit (byte >>> 4)), Char.ofUInt8 (hexDigit (byte &&& 0x0F))]

theorem hexDigit_spec : ∀ n : Fin 16,
    hexValue (Char.ofUInt8 (hexDigit (UInt8.ofNat n.val))) = some (UInt8.ofNat n.val) ∧
      String.utf8EncodeChar (Char.ofUInt8 (hexDigit (UInt8.ofNat n.val))) =
        [hexDigit (UInt8.ofNat n.val)] := by
  decide

theorem halves (byte : UInt8) : ∃ high low : Fin 16, byte >>> 4 = UInt8.ofNat high.val ∧
    byte &&& 0x0F = UInt8.ofNat low.val ∧
    UInt8.ofNat high.val * 16 + UInt8.ofNat low.val = byte := by
  have hLt := byte.toNat_lt
  refine ⟨⟨byte.toNat / 16, by omega⟩, ⟨byte.toNat % 16, by omega⟩, ?_, ?_, ?_⟩
  · apply UInt8.toNat_inj.mp
    simp [Nat.shiftRight_eq_div_pow]
    omega
  · apply UInt8.toNat_inj.mp
    simp [Nat.and_two_pow_sub_one_eq_mod byte.toNat 4]
    omega
  · apply UInt8.toNat_inj.mp
    simp
    omega

theorem vecU8FromSql_sent (value : Bytes) :
    vecU8FromSql std lib (some (92 :: 120 :: value.flatMap fun byte : UInt8 =>
      [hexDigit (byte >>> 4), hexDigit (byte &&& 0x0F)])) .text = .ok value := by
  have hBytes : (value.flatMap fun byte : UInt8 =>
      [hexDigit (byte >>> 4), hexDigit (byte &&& 0x0F)]) =
      lineBytes (String.ofList (value.flatMap sentDigits)) := by
    rw [lineBytes, LossyUtf8.toList_toUTF8, String.toList_ofList, LossyUtf8.encode,
      List.flatMap_assoc]
    refine (List.flatMap_congr fun byte _ => ?_)
    obtain ⟨high, low, hHigh, hLow, _⟩ := halves byte
    simp [sentDigits, hHigh, hLow, (hexDigit_spec high).2, (hexDigit_spec low).2]
  have hDigits : hexBytes (value.flatMap sentDigits) = some value := by
    refine hexBytes_flatMap (fun byte chars => ?_) value
    obtain ⟨high, low, hHigh, hLow, hByte⟩ := halves byte
    have hPair := hexBytes_cons (hexDigit_spec high).1 (hexDigit_spec low).1 chars
    rw [hByte, ← hHigh, ← hLow] at hPair
    exact hPair
  rw [hBytes]
  refine vecU8FromSql_ok_iff.mpr (.inl ⟨_, rfl, ?_⟩)
  rw [String.toList_ofList, (hexBytes_some hDigits).1, hDigits]

/-- What is sent as text is read back. -/
theorem fromSql_toSql_text (t : RustType) (hExact : t.isExact) (v : t.Carrier) (ty ty' : Oid) :
    ∃ text, t.toSql std v ty .text = .ok (some text) ∧
      t.fromSql std lib ty' (some text) .text = .ok v := by
  -- the text of the server, where it is that
  have hOutput : ∀ w text, t.denote v = some w → (∀ byte, w ≠ .char byte) → TextOutput w text →
      t.toSql std v ty .text = .ok (some text) →
      ∃ text, t.toSql std v ty .text = .ok (some text) ∧
        t.fromSql std lib ty' (some text) .text = .ok v :=
    fun w text hDenote hChar hText hSql =>
      ⟨text, hSql, t.fromSql_textOutput hExact hDenote hChar hText ty'⟩
  cases t with
  | bool => exact hOutput _ _ rfl (fun _ h => nomatch h) (.bool v) rfl
  | i8 =>
      have hLow := Int8.le_toInt v
      have hHigh := Int8.toInt_lt v
      exact ⟨_, rfl, intFromSql_toString lib.charFromSql (by decide) (by omega)
        (Int8.ofInt_toInt v)⟩
  | i16 => exact hOutput _ _ rfl (fun _ h => nomatch h) (.int _) rfl
  | i32 => exact hOutput _ _ rfl (fun _ h => nomatch h) (.int _) rfl
  | i64 => exact hOutput _ _ rfl (fun _ h => nomatch h) (.int _) rfl
  | u32 => exact hOutput _ _ rfl (fun _ h => nomatch h) (.int _) rfl
  | string => exact hOutput _ _ rfl (fun _ h => nomatch h) (.text v) rfl
  | vecU8 => exact ⟨_, rfl, vecU8FromSql_sent v⟩
  | f32 | f64 | option => cases hExact

/-- What is sent in binary format is read back. -/
theorem fromSql_toSql_binary (hLib : lib.Complete) (t : RustType) (hExact : t.isExact)
    (v : t.Carrier) (ty ty' : Oid) : ∃ bytes, t.toSql std v ty .binary = .ok (some bytes) ∧
      t.fromSql std lib ty' (some bytes) .binary = .ok v := by
  have hSent : ∀ ty bytes, t.accepts ty → t.toSql std v ty .binary = .ok (some bytes) →
      t.fromSql std lib ty' (some bytes) .binary = .ok v := by
    intro ty bytes hAccepts hSql
    have hValue := t.binaryValue_toSql std v hAccepts hSql
    obtain ⟨w, hDenote, hSome⟩ := Option.map_eq_some_iff.mp hValue.symm
    obtain ⟨v', hRead⟩ := @fromSql_binary std _ hLib t hExact _ hAccepts _ _ hSome.symm ty'
    have hSame := t.binaryValue_fromSql hAccepts hRead
    rw [← hSome, ← hDenote] at hSame
    rw [t.denote_injective hExact hSame]
    exact hRead
  cases t with
  | bool => exact ⟨_, rfl, hSent PgType.bool _ rfl rfl⟩
  | i8 => exact ⟨_, rfl, hSent PgType.char _ rfl rfl⟩
  | i16 => exact ⟨_, rfl, hSent PgType.int2 _ rfl rfl⟩
  | i32 => exact ⟨_, rfl, hSent PgType.int4 _ rfl rfl⟩
  | i64 => exact ⟨_, rfl, hSent PgType.int8 _ rfl rfl⟩
  | u32 => exact ⟨_, rfl, hSent PgType.oid _ rfl rfl⟩
  | string => exact ⟨_, rfl, hSent PgType.text _ rfl rfl⟩
  | vecU8 => exact ⟨_, rfl, hSent PgType.bytea _ rfl rfl⟩
  | f32 | f64 | option => cases hExact

/-- What is sent in a format is read back from it. -/
def RoundTrips (std : StdText) (lib : PostgresProtocol) (t : RustType) : Prop :=
  ∀ v ty format, ∃ cell, t.toSql std v ty format = .ok cell ∧
    t.fromSql std lib ty cell format = .ok v

/-- A text and bytes in binary format that are read as one Rust value. -/
def ReadAlike (std : StdText) (lib : PostgresProtocol) (t : RustType) (ty : Oid)
    (text binary : Option Bytes) : Prop :=
  ∃ v, t.fromSql std lib ty text .text = .ok v ∧ t.fromSql std lib ty binary .binary = .ok v

theorem roundTrips_exact (hLib : lib.Complete) (t : RustType) (hExact : t.isExact) :
    RoundTrips std lib t := by
  intro v ty format
  cases format with
  | text =>
      obtain ⟨text, hSql, hRead⟩ := t.fromSql_toSql_text hExact v ty ty
      exact ⟨some text, hSql, hRead⟩
  | binary =>
      obtain ⟨bytes, hSql, hRead⟩ := fromSql_toSql_binary hLib t hExact v ty ty
      exact ⟨some bytes, hSql, hRead⟩

theorem RoundTrips.option {t : RustType} (hTrips : RoundTrips std lib t)
    (hOption : t.isOption = false) :
    RoundTrips std lib (.option t) := by
  intro v ty format
  revert v
  intro (v : Option t.Carrier)
  cases v with
  | none => exact ⟨none, rfl, rfl⟩
  | some v =>
      obtain ⟨cell, hSql, hRead⟩ := hTrips v ty format
      cases cell with
      | none =>
          obtain ⟨e, hError⟩ := t.fromSql_null hOption
          rw [hError] at hRead
          cases hRead
      | some bytes => exact ⟨some bytes, hSql, congrArg (Except.map some) hRead⟩

theorem readAlike_exact_iff (hLib : lib.Complete) (t : RustType) (hExact : t.isExact) {ty : Oid}
    {w : PgValue} {text binary : Bytes} (hAccepts : t.accepts ty) (hText : TextOutput w text)
    (hBinary : binaryValue ty binary = some w) :
    ReadAlike std lib t ty (some text) (some binary) ↔ ∀ byte, w ≠ .char byte := by
  refine ⟨fun hAlike byte hChar => ?_, fun hChar => ?_⟩
  · obtain ⟨v, hTextRead, hBinaryRead⟩ := hAlike
    have hDenote := t.binaryValue_fromSql hAccepts hBinaryRead
    rw [hBinary, hChar] at hDenote
    cases t with
    | i8 =>
        have hByte := PgValue.char.inj (Option.some.inj hDenote)
        subst hChar
        cases hText
        refine i8_text hTextRead ?_
        rw [← hByte]
        exact congrArg (Option.map PgValue.char) (textChar_charOutput byte)
    | f32 | f64 | option => cases hExact
    | _ => cases hDenote
  · obtain ⟨v, hRead⟩ := @fromSql_binary std _ hLib t hExact _ hAccepts _ _ hBinary ty
    have hDenote := t.binaryValue_fromSql hAccepts hRead
    rw [hBinary] at hDenote
    exact ⟨v, t.fromSql_textOutput hExact hDenote.symm hChar hText ty, hRead⟩

theorem readAlike_option_iff {t : RustType} {ty : Oid} {text binary : Bytes} :
    ReadAlike std lib (.option t) ty (some text) (some binary) ↔
      ReadAlike std lib t ty (some text) (some binary) := by
  refine ⟨fun hAlike => ?_, fun hAlike => ?_⟩
  · obtain ⟨v, hText, hBinary⟩ := hAlike
    obtain ⟨value, hTextRead, rfl⟩ := Except.of_map hText
    obtain ⟨value', hBinaryRead, hSame⟩ := Except.of_map hBinary
    cases Option.some.inj hSame
    exact ⟨value, hTextRead, hBinaryRead⟩
  · obtain ⟨v, hText, hBinary⟩ := hAlike
    exact ⟨some v, congrArg (Except.map some) hText, congrArg (Except.map some) hBinary⟩

/-- What is sent is read back in either format, and a NULL is a NULL in both; the server's
text of a value and its binary format are read alike exactly where they are not those of a
single byte. -/
theorem codec_agrees_iff (std : StdText) (lib : PostgresProtocol) (hLib : lib.Complete)
    (t : RustType) (hCovered : t.IsCovered) :
    RoundTrips std lib t ∧ (t.isOption → ∀ ty, ReadAlike std lib t ty none none) ∧
      ∀ ty w text binary, t.accepts ty → TextOutput w text → binaryValue ty binary = some w →
        (ReadAlike std lib t ty (some text) (some binary) ↔ ∀ byte, w ≠ .char byte) := by
  by_cases hOption : t.isOption
  · cases t with
    | option inner =>
        have hTrips := @roundTrips_exact std _ hLib inner hCovered
        have hInner : inner.isOption = false := by
          cases inner with
          | option => cases hCovered
          | _ => rfl
        refine ⟨hTrips.option hInner, fun _ _ => ⟨none, rfl, rfl⟩, ?_⟩
        intro ty w text binary hAccepts hText hBinary
        rw [readAlike_option_iff]
        exact readAlike_exact_iff hLib inner hCovered hAccepts hText hBinary
    | _ => cases hOption
  · have hExact : t.isExact := by
      cases t with
      | option => exact absurd rfl hOption
      | _ => exact hCovered
    exact ⟨roundTrips_exact hLib t hExact, fun h => absurd h hOption,
      fun _ _ _ _ hAccepts hText hBinary =>
        readAlike_exact_iff hLib t hExact hAccepts hText hBinary⟩

/-- A negative number that may be NULL, in both formats. -/
theorem codec_agrees_int4 :
    (∀ std, RoundTrips std .documented (.option .i32)) ∧
      ∀ std, ReadAlike std .documented (.option .i32) PgType.int4
        (some (lineBytes (toString (-7 : Int)))) (some [255, 255, 255, 249]) := by
  have hAgrees := fun std => codec_agrees_iff std .documented PostgresProtocol.documented_complete
    (.option .i32) rfl
  refine ⟨fun std => (hAgrees std).1, fun std => ?_⟩
  exact ((hAgrees std).2.2 PgType.int4 (.int (-7)) _ _ rfl (.int (-7)) rfl).mpr
    fun _ hChar => by cases hChar

/-- The character `7` is the number seven as text and 55 in binary format. -/
theorem char_not_alike :
    TextOutput (.char 55) [55] ∧ binaryValue PgType.char [55] = some (.char 55) ∧
      (∀ std, RustType.i8.fromSql std .documented PgType.char (some [55]) .text =
        .ok (7 : Int8)) ∧
      (∀ std, RustType.i8.fromSql std .documented PgType.char (some [55]) .binary =
        .ok (55 : Int8)) ∧
      ∀ std, ¬ ReadAlike std .documented .i8 PgType.char (some [55]) (some [55]) := by
  have hText : ∀ std, RustType.i8.fromSql std .documented PgType.char (some [55]) .text =
      .ok (7 : Int8) := by
    intro std
    have hSeven : lineBytes (toString (7 : Int)) = [55] := by
      rw [lineBytes, LossyUtf8.toList_toUTF8]
      rfl
    rw [← hSeven]
    exact intFromSql_toString PostgresProtocol.documented.charFromSql (by decide) (by decide) rfl
  refine ⟨.char 55, rfl, hText, fun _ => rfl, fun std hAlike => ?_⟩
  obtain ⟨v, hSeven, hByte⟩ := hAlike
  rw [hText] at hSeven
  cases hSeven
  cases hByte

end RustType
end PgClient
