import Mathlib.Data.List.Forall2
import PgClient.Library.LossyUtf8
import PgClient.Protocol.TableServer
import PgClient.Types.Server

/-!
Parameters of prepared statements: a value that its type accepts is sent as the server
reads it, and nothing but the types decides whether a list of parameters is sound.
-/

namespace PgClient

namespace PgType

theorem signedValue_toBeBytes (width : Nat) (i : Int) (hLow : -256 ^ width ≤ 2 * i)
    (hHigh : 2 * i < 256 ^ width) : signedValue width (RustType.toBeBytes width i) = some i := by
  rw [signedValue, RustType.toBeBytes, if_pos (BigEndian.length_bytes ..),
    BigEndian.nat_bytes_of_lt (BigEndian.unsigned_lt ..), BigEndian.signed_unsigned hLow hHigh]

theorem unsignedValue_bytes (width : Nat) {n : Nat} (h : n < 256 ^ width) :
    unsignedValue width (BigEndian.bytes width n) = some n := by
  rw [unsignedValue, if_pos (BigEndian.length_bytes ..), BigEndian.nat_bytes_of_lt h]

theorem textOf_lineBytes (text : String) : textOf (lineBytes text) = some text := by
  have hBytes : (lineBytes text).toByteArray = text.toByteArray := by
    rw [lineBytes, LossyUtf8.toList_toUTF8, ← String.utf8Encode_toList]
    rfl
  rw [textOf, hBytes, String.fromUTF8?, dif_pos text.isValidUTF8]
  rfl

theorem binaryValue_text {ty : Oid} (h : isText ty) (bytes : Bytes) :
    binaryValue ty bytes = (textOf bytes).map .text := by
  simp only [isText, decide_eq_true_eq] at h
  obtain rfl | rfl | rfl | rfl | rfl := h <;> rfl

end PgType

namespace RustType

open PgType

theorem unsigned_int8 (value : Int8) : BigEndian.unsigned 1 value.toInt = value.toUInt8.toNat := by
  have hBits := BitVec.toNat_ofInt (n := 8) value.toInt
  rw [show BitVec.ofInt 8 value.toInt = value.toBitVec from BitVec.ofInt_toInt] at hBits
  exact hBits.symm

/-- What is sent for a value of an accepted type is that value in the binary format. -/
theorem binaryValue_toSql (std : StdText) (t : RustType) (value : t.Carrier) {ty : Oid}
    (hAccepts : t.accepts ty) {cell : Option Bytes}
    (hSql : t.toSql std value ty .binary = .ok cell) :
    cell.map (binaryValue ty) = (t.denote value).map some := by
  induction t generalizing cell with
  | bool =>
      have hTy : ty = PgType.bool := of_decide_eq_true hAccepts
      subst hTy
      cases hSql
      revert value
      intro (value : Bool)
      cases value <;> rfl
  | i8 =>
      have hTy : ty = PgType.char := of_decide_eq_true hAccepts
      subst hTy
      revert value
      intro (value : Int8) hSql
      cases hSql
      have hByte := unsignedValue_bytes 1 (UInt8.toNat_lt (Int8.toUInt8 value))
      have hBits : UInt8.ofNat (Int8.toUInt8 value).toNat = Int8.toUInt8 value := UInt8.ofNat_toNat
      have hMap := congrArg (fun n => some (Option.map
        (fun n => PgValue.char (UInt8.ofNat n)) n)) hByte
      simp only [Option.map_some, hBits] at hMap
      rw [← unsigned_int8] at hMap
      exact hMap
  | i16 =>
      have hTy : ty = PgType.int2 := of_decide_eq_true hAccepts
      subst hTy
      cases hSql
      have hLow := Int16.le_toInt value
      have hHigh := Int16.toInt_lt value
      have hValue := signedValue_toBeBytes 2 (Int16.toInt value) (by omega) (by omega)
      exact congrArg (fun n => some (Option.map PgValue.int n)) hValue
  | i32 =>
      have hTy : ty = PgType.int4 := of_decide_eq_true hAccepts
      subst hTy
      cases hSql
      have hLow := Int32.le_toInt value
      have hHigh := Int32.toInt_lt value
      have hValue := signedValue_toBeBytes 4 (Int32.toInt value) (by omega) (by omega)
      exact congrArg (fun n => some (Option.map PgValue.int n)) hValue
  | i64 =>
      have hTy : ty = PgType.int8 := of_decide_eq_true hAccepts
      subst hTy
      cases hSql
      have hLow := Int64.le_toInt value
      have hHigh := Int64.toInt_lt value
      have hValue := signedValue_toBeBytes 8 (Int64.toInt value) (by omega) (by omega)
      exact congrArg (fun n => some (Option.map PgValue.int n)) hValue
  | u32 =>
      have hTy : ty = PgType.oid := of_decide_eq_true hAccepts
      subst hTy
      cases hSql
      have hValue := unsignedValue_bytes 4 (UInt32.toNat_lt value)
      exact congrArg (fun n => some (Option.map (fun n : Nat => PgValue.int n) n)) hValue
  | f32 =>
      have hTy : ty = PgType.float4 := of_decide_eq_true hAccepts
      subst hTy
      cases hSql
      have hValue := unsignedValue_bytes 4 (UInt32.toNat_lt (F32.bits value))
      have hBits : UInt32.ofNat (F32.bits value).toNat = F32.bits value := UInt32.ofNat_toNat
      have hMap := congrArg (fun n => some (Option.map
        (fun n => PgValue.float4 ⟨UInt32.ofNat n⟩) n)) hValue
      simp only [Option.map_some, hBits] at hMap
      exact hMap
  | f64 =>
      have hTy : ty = PgType.float8 := of_decide_eq_true hAccepts
      subst hTy
      cases hSql
      have hValue := unsignedValue_bytes 8 (UInt64.toNat_lt (F64.bits value))
      have hBits : UInt64.ofNat (F64.bits value).toNat = F64.bits value := UInt64.ofNat_toNat
      have hMap := congrArg (fun n => some (Option.map
        (fun n => PgValue.float8 ⟨UInt64.ofNat n⟩) n)) hValue
      simp only [Option.map_some, hBits] at hMap
      exact hMap
  | string =>
      have hText : isText ty := hAccepts
      revert value
      intro (value : String) hSql
      cases hSql
      rw [Option.map_some, binaryValue_text hText, textOf_lineBytes]
      rfl
  | vecU8 =>
      have hTy : ty = PgType.bytea := of_decide_eq_true hAccepts
      subst hTy
      cases hSql
      rfl
  | option inner ih =>
      revert value
      intro (value : Option inner.Carrier) hSql
      cases value with
      | none =>
          cases hSql
          rfl
      | some value => exact ih value hAccepts hSql

/-- The implementations of the client's own types never refuse a value. -/
theorem toSql_isOk (std : StdText) (t : RustType) (value : t.Carrier) (ty : Oid)
    (format : FormatCode) :
    ∃ cell, t.toSql std value ty format = .ok cell := by
  induction t with
  | option inner ih =>
      revert value
      intro (value : Option inner.Carrier)
      cases value with
      | none => exact ⟨none, rfl⟩
      | some value => exact ih value
  | _ => cases format <;> exact ⟨_, rfl⟩

end RustType

namespace Param

/-- A parameter that is sent as the value it is, in a type that its Rust type can stand for;
what an implementation outside the client sends is its own concern. -/
def SentAs (pair : Param × Oid) (cell : Option Bytes) : Prop :=
  pair.1.accepts pair.2 ∧
    match pair.1 with
    | .builtin t value => cell.map (PgType.binaryValue pair.2) = (t.denote value).map some
    | .foreign _ _ => True

/-- A value whose implementation refuses its type. -/
def Refuses (std : StdText) (pair : Param × Oid) : Prop :=
  ∃ e, (pair.1.toSql std).toSql pair.2 .binary = .error e

theorem sentAs_of_accepts {std : StdText} {pair : Param × Oid} (h : pair.1.accepts pair.2)
    {cell : Option Bytes} (hSql : (pair.1.toSql std).toSql pair.2 .binary = .ok cell) :
    SentAs pair cell := by
  obtain ⟨param, ty⟩ := pair
  cases param with
  | builtin t value => exact ⟨h, t.binaryValue_toSql std value h hSql⟩
  | foreign accepts value => exact ⟨h, trivial⟩

end Param

/-- What the loop returns, one cell for each value. -/
theorem encodeParamsBinaryLoop_ok {std : StdText} {params : List Param} {types : List Oid}
    {cells : List (Option Bytes)}
    (h : encodeParamsBinaryLoop (params.map (Param.toSql std)) types = .ok cells) :
    List.Forall₂ (fun pair cell => (pair.1.toSql std).toSql pair.2 .binary = .ok cell)
      (params.zip types) cells := by
  induction params generalizing types cells with
  | nil =>
      cases h
      exact .nil
  | cons param params ih =>
      cases types with
      | nil =>
          cases h
          exact .nil
      | cons ty types =>
          rw [List.map_cons, encodeParamsBinaryLoop] at h
          cases hSql : (param.toSql std).toSql ty .binary with
          | error e =>
              rw [hSql] at h
              cases h
          | ok cell =>
              rw [hSql] at h
              cases hRest : encodeParamsBinaryLoop (params.map (Param.toSql std)) types with
              | error e =>
                  rw [hRest] at h
                  cases h
              | ok rest =>
                  rw [hRest] at h
                  cases h
                  exact .cons hSql (ih hRest)

/-- The loop fails exactly when an implementation refuses its type. -/
theorem encodeParamsBinaryLoop_error_iff {std : StdText} {params : List Param} {types : List Oid} :
    (∃ e, encodeParamsBinaryLoop (params.map (Param.toSql std)) types = .error e) ↔
      ∃ pair ∈ params.zip types, Param.Refuses std pair := by
  induction params generalizing types with
  | nil => simp [encodeParamsBinaryLoop]
  | cons param params ih =>
      cases types with
      | nil => simp [encodeParamsBinaryLoop]
      | cons ty types =>
          have hRest := @ih types
          have hSplit : (∃ pair ∈ (param, ty) :: params.zip types, Param.Refuses std pair) ↔
              Param.Refuses std (param, ty) ∨
                ∃ pair ∈ params.zip types, Param.Refuses std pair := by
            simp [or_and_right, exists_or]
          rw [List.map_cons, encodeParamsBinaryLoop, List.zip_cons_cons, hSplit, ← hRest]
          cases hSql : (param.toSql std).toSql ty .binary with
          | error e => exact iff_of_true ⟨_, rfl⟩ (.inl ⟨e, hSql⟩)
          | ok cell =>
              have hNot : ¬ Param.Refuses std (param, ty) := by
                intro hRefuses
                obtain ⟨e, hError⟩ := hRefuses
                rw [hSql] at hError
                cases hError
              simp only [hNot, false_or]
              cases encodeParamsBinaryLoop (params.map (Param.toSql std)) types with
              | error e => simp [Except.map]
              | ok rest => simp [Except.map]

/-- What prepared parameters are meant to be: encoded only if every value is sent as itself
in a type that can stand for it, and refused before anything is sent otherwise. -/
structure TypeSound (std : StdText) (params : List Param) (types : List Oid) : Prop where
  sound : ∀ cells, encodeParamsBinary (params.map (Param.toSql std)) types = .ok cells →
    List.Forall₂ Param.SentAs (params.zip types) cells
  refused : (∃ pair ∈ params.zip types, pair.1.accepts pair.2 = false) →
    ∀ (net : Network) (conn : Connection) (stmt : PreparedStatement), stmt.paramTypes = types →
      (∃ e, (Connection.queryPrepared stmt (params.map (Param.toSql std)) net conn).1 = .err e) ∧
        (Connection.queryPrepared stmt (params.map (Param.toSql std)) net conn).2.transport =
          conn.transport

open Async in
/-- Where the encoding fails, nothing is sent. -/
theorem queryPrepared_of_error {net : Network} {conn : Connection} {stmt : PreparedStatement}
    {params : List ToSql} {e : PgError} (h : encodeParamsBinary params stmt.paramTypes = .error e) :
    (∃ e, (Connection.queryPrepared stmt params net conn).1 = .err e) ∧
      (Connection.queryPrepared stmt params net conn).2.transport = conn.transport := by
  rw [Connection.queryPrepared, bind_apply, Connection.transition]
  split
  · rw [andThen_ok, h, bind_apply, lift_error_apply, andThen_err]
    exact ⟨⟨e, rfl⟩, rfl⟩
  · rw [andThen_err]
    exact ⟨⟨_, rfl⟩, rfl⟩

/-- Prepared parameters are what they are meant to be exactly when they are too many or too
few, an implementation outside the client refuses its type, or every value's type accepts
its parameter's: the client's own types are not checked. -/
theorem typeSound_iff (std : StdText) (params : List Param) (types : List Oid) :
    TypeSound std params types ↔ params.length ≠ types.length ∨
      (∃ pair ∈ params.zip types, Param.Refuses std pair) ∨
      ∀ pair ∈ params.zip types, pair.1.accepts pair.2 := by
  have hEncode : encodeParamsBinary (params.map (Param.toSql std)) types =
      if params.length ≠ types.length then
        .error (.config ("parameter count mismatch: expected " ++ toString types.length ++
          ", got " ++ toString params.length))
      else encodeParamsBinaryLoop (params.map (Param.toSql std)) types := by
    rw [encodeParamsBinary, List.length_map]
  have hFails : (∃ e, encodeParamsBinary (params.map (Param.toSql std)) types = .error e) →
      TypeSound std params types := by
    intro hError
    obtain ⟨e, hError⟩ := hError
    refine ⟨?_, ?_⟩
    · intro cells hOk
      rw [hError] at hOk
      cases hOk
    · intro _ net conn stmt hTypes
      subst hTypes
      exact queryPrepared_of_error hError
  refine ⟨fun hSound => ?_, fun h => ?_⟩
  · by_contra hNot
    simp only [not_or, ne_eq, not_not] at hNot
    obtain ⟨hLength, hRefuses, hAccepts⟩ := hNot
    rw [← encodeParamsBinaryLoop_error_iff] at hRefuses
    cases hLoop : encodeParamsBinaryLoop (params.map (Param.toSql std)) types with
    | error e => exact hRefuses ⟨e, hLoop⟩
    | ok cells =>
        rw [if_neg (not_not.mpr hLength), hLoop] at hEncode
        have hSent := hSound.sound cells hEncode
        apply hAccepts
        intro pair hMem
        obtain ⟨i, hi, rfl⟩ := List.mem_iff_getElem.mp hMem
        exact (hSent.get hi (by rw [← hSent.length_eq]; exact hi)).1
  · obtain hLength | hRefuses | hAccepts := h
    · exact hFails ⟨_, by rw [hEncode, if_pos hLength]⟩
    · by_cases hLength : params.length = types.length
      · obtain ⟨e, hError⟩ := encodeParamsBinaryLoop_error_iff.mpr hRefuses
        exact hFails ⟨e, by rw [hEncode, if_neg (not_not.mpr hLength), hError]⟩
      · exact hFails ⟨_, by rw [hEncode, if_pos hLength]⟩
    · refine ⟨?_, ?_⟩
      · intro cells hOk
        by_cases hLength : params.length = types.length
        · rw [hEncode, if_neg (not_not.mpr hLength)] at hOk
          have hCells := encodeParamsBinaryLoop_ok hOk
          rw [List.forall₂_iff_get] at hCells ⊢
          exact ⟨hCells.1, fun i hi hi' => Param.sentAs_of_accepts
            (hAccepts _ (List.get_mem _ _)) (hCells.2 i hi hi')⟩
        · rw [hEncode, if_pos hLength] at hOk
          cases hOk
      · intro hMismatch
        obtain ⟨pair, hMem, hNot⟩ := hMismatch
        rw [hAccepts pair hMem] at hNot
        cases hNot

/-- A one as an `i32` for a parameter of type FLOAT4 is sent, and is another number there. -/
theorem not_typeSound_i32_float4 :
    (∀ std, encodeParamsBinary ([.builtin .i32 (1 : Int32)].map (Param.toSql std)) [PgType.float4] =
        .ok [some [0, 0, 0, 1]]) ∧
      PgType.binaryValue PgType.float4 [0, 0, 0, 1] = some (.float4 ⟨1⟩) ∧
      ∀ std, ¬ TypeSound std [.builtin .i32 (1 : Int32)] [PgType.float4] := by
  have hSent : ∀ std, encodeParamsBinary ([.builtin .i32 (1 : Int32)].map (Param.toSql std))
      [PgType.float4] = .ok [some [0, 0, 0, 1]] := fun _ => rfl
  refine ⟨hSent, rfl, fun std hSound => ?_⟩
  have hPairs := hSound.sound _ (hSent std)
  cases hPairs with
  | cons hPair _ => cases hPair.1

end PgClient
