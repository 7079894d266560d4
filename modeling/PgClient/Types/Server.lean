import PgClient.Types.Encode

/-!
What the server means: the values of its types, and which of them the bytes of a parameter
or a column stand for.
-/

namespace PgClient

/-- The values of the types that the client knows. -/
inductive PgValue where
  | bool (value : Bool)
  | char (byte : UInt8)
  | int (value : Int)
  | float4 (value : F32)
  | float8 (value : F64)
  | text (value : String)
  | bytea (value : Bytes)
  | timestamp (micros : Int)
deriving DecidableEq, Repr

namespace PgType

def isText (ty : Oid) : Bool :=
  ty = text ∨ ty = varchar ∨ ty = bpchar ∨ ty = name ∨ ty = unknown

/-- A signed number of a fixed width. -/
def signedValue (width : Nat) (bytes : Bytes) : Option Int :=
  if bytes.length = width then some (BigEndian.signed width (BigEndian.nat bytes)) else none

def unsignedValue (width : Nat) (bytes : Bytes) : Option Nat :=
  if bytes.length = width then some (BigEndian.nat bytes) else none

def textOf (bytes : Bytes) : Option String := String.fromUTF8? bytes.toByteArray

/-- The binary format. -/
def binaryValue (ty : Oid) (bytes : Bytes) : Option PgValue :=
  if ty = bool then (unsignedValue 1 bytes).map fun n => .bool (n ≠ 0)
  else if ty = char then (unsignedValue 1 bytes).map fun n => .char (UInt8.ofNat n)
  else if ty = int2 then (signedValue 2 bytes).map .int
  else if ty = int4 then (signedValue 4 bytes).map .int
  else if ty = int8 then (signedValue 8 bytes).map .int
  else if ty = oid then (unsignedValue 4 bytes).map fun n => .int n
  else if ty = float4 then (unsignedValue 4 bytes).map fun n => .float4 ⟨UInt32.ofNat n⟩
  else if ty = float8 then (unsignedValue 8 bytes).map fun n => .float8 ⟨UInt64.ofNat n⟩
  else if ty = timestamp then (signedValue 8 bytes).map .timestamp
  else if ty = bytea then some (.bytea bytes)
  else if isText ty then (textOf bytes).map .text
  else none

/-- The text format of a truth value. -/
def textBool (text : String) : Option Bool :=
  let text := String.ofList (text.toList.map Char.toLower)
  if text ∈ ["t", "true", "y", "yes", "on", "1"] then some true
  else if text ∈ ["f", "false", "n", "no", "off", "0"] then some false
  else none

/-- The number that some decimal digits stand for. -/
def digits (chars : List Char) : Option Nat :=
  if chars ≠ [] ∧ chars.all Char.isDigit then
    some (chars.foldl (fun n c => 10 * n + (c.toNat - '0'.toNat)) 0)
  else none

/-- The number that goes with a sign. -/
def withSign (negative : Bool) (n : Nat) : Int := if negative then -n else n

/-- The text format of an integer in a range. -/
def textInt (low high : Int) (text : String) : Option Int :=
  let value :=
    match text.toList with
    | '-' :: chars => (digits chars).map (withSign true)
    | '+' :: chars => (digits chars).map (withSign false)
    | chars => (digits chars).map (withSign false)
  value.filter fun n => low ≤ n ∧ n ≤ high

/-- The text format of the type of single bytes: the byte itself, or its octal digits. -/
def textChar : Bytes → Option UInt8
  | [] => some 0
  | [byte] => if byte < 128 then some byte else none
  | [92, first, second, third] =>
      some (((first - 48) <<< 6) ||| ((second - 48) <<< 3) ||| (third - 48))
  | _ => none

def hexValue (c : Char) : Option UInt8 :=
  if '0' ≤ c ∧ c ≤ '9' then some (UInt8.ofNat (c.toNat - 48))
  else if 'a' ≤ c ∧ c ≤ 'f' then some (UInt8.ofNat (c.toNat - 87))
  else if 'A' ≤ c ∧ c ≤ 'F' then some (UInt8.ofNat (c.toNat - 55))
  else none

def hexBytes : List Char → Option Bytes
  | [] => some []
  | [_] => none
  | h :: l :: chars => do
      let hi ← hexValue h
      let lo ← hexValue l
      let rest ← hexBytes chars
      return (hi * 16 + lo) :: rest

/-- The escape format, in which a byte is at most `\377`. -/
def escapedBytes : Bytes → Option Bytes
  | [] => some []
  | 92 :: 92 :: rest => (escapedBytes rest).map (92 :: ·)
  | 92 :: first :: second :: third :: rest =>
      if 48 ≤ first ∧ first ≤ 51 ∧ 48 ≤ second ∧ second ≤ 55 ∧ 48 ≤ third ∧ third ≤ 55 then
        (escapedBytes rest).map
          ((((first - 48) <<< 6) ||| ((second - 48) <<< 3) ||| (third - 48)) :: ·)
      else none
  | byte :: rest => if byte = 92 then none else (escapedBytes rest).map (byte :: ·)

/-- The text formats of a byte string. -/
def textBytea : Bytes → Option Bytes
  | 92 :: 120 :: hex => (textOf hex).bind fun text => hexBytes text.toList
  | bytes => escapedBytes bytes

/-- The text format; a decimal fraction stands for the number that it is read as. -/
def textValue (std : StdText) (ty : Oid) (bytes : Bytes) : Option PgValue :=
  if ty = bool then ((textOf bytes).bind textBool).map .bool
  else if ty = char then (textChar bytes).map .char
  else if ty = int2 then ((textOf bytes).bind (textInt (-2 ^ 15) (2 ^ 15 - 1))).map .int
  else if ty = int4 then ((textOf bytes).bind (textInt (-2 ^ 31) (2 ^ 31 - 1))).map .int
  else if ty = int8 then ((textOf bytes).bind (textInt (-2 ^ 63) (2 ^ 63 - 1))).map .int
  else if ty = oid then ((textOf bytes).bind (textInt 0 (2 ^ 32 - 1))).map .int
  else if ty = float4 then ((textOf bytes).bind
    fun text => (std.f32Parse text).toOption).map .float4
  else if ty = float8 then ((textOf bytes).bind
    fun text => (std.f64Parse text).toOption).map .float8
  else if ty = bytea then (textBytea bytes).map .bytea
  else if isText ty then (textOf bytes).map .text
  else none

/-- The value of a column in the column's own format. -/
def wireValue (std : StdText) (field : FieldDescription) (bytes : Bytes) : Option PgValue :=
  if field.format = 1 then binaryValue field.typeOid bytes
  else if field.format = 0 then textValue std field.typeOid bytes
  else none

end PgType

namespace RustType

/-- The value that a Rust value stands for; `none` is NULL. -/
def denote : (t : RustType) → t.Carrier → Option PgValue
  | .bool, value => some (.bool value)
  | .i8, value => some (.char (Int8.toUInt8 value))
  | .i16, value => some (.int (Int16.toInt value))
  | .i32, value => some (.int (Int32.toInt value))
  | .i64, value => some (.int (Int64.toInt value))
  | .u32, value => some (.int (UInt32.toNat value))
  | .f32, value => some (.float4 value)
  | .f64, value => some (.float8 value)
  | .string, value => some (.text value)
  | .vecU8, value => some (.bytea value)
  | .option inner, some value => inner.denote value
  | .option _, none => none

end RustType
end PgClient
