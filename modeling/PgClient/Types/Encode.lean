import PgClient.Library.BigEndian
import PgClient.Copy.Stream
import PgClient.Query.Params

/-!
`ToSql`: the Rust types that can be sent as parameters, and their text and binary
encodings.
-/

namespace PgClient

namespace PgType

-- the constants of `Type`, known by their OIDs

def bool : Oid := 16
def bytea : Oid := 17
def char : Oid := 18
def name : Oid := 19
def int8 : Oid := 20
def int2 : Oid := 21
def int4 : Oid := 23
def text : Oid := 25
def oid : Oid := 26
def float4 : Oid := 700
def float8 : Oid := 701
def unknown : Oid := 705
def bpchar : Oid := 1042
def varchar : Oid := 1043
def timestamp : Oid := 1114

end PgType

/-- Floating-point numbers, by their bits. -/
structure F32 where
  bits : UInt32
deriving DecidableEq, Repr

structure F64 where
  bits : UInt64
deriving DecidableEq, Repr

/-- What the standard library makes of floating-point numbers as text, and what it says of
bytes that are not UTF-8. -/
structure StdText where
  f32Display : F32 → String
  f64Display : F64 → String
  f32Parse : String → Except String F32
  f64Parse : String → Except String F64
  utf8Error : Bytes → String

/-- The types with implementations of their own; `&str` and `&[u8]` have those of `String`
and `Vec<u8>`. -/
inductive RustType where
  | bool
  | i8
  | i16
  | i32
  | i64
  | u32
  | f32
  | f64
  | string
  | vecU8
  | option (inner : RustType)
deriving DecidableEq, Repr

namespace RustType

def Carrier : RustType → Type
  | .bool => Bool
  | .i8 => Int8
  | .i16 => Int16
  | .i32 => Int32
  | .i64 => Int64
  | .u32 => UInt32
  | .f32 => F32
  | .f64 => F64
  | .string => String
  | .vecU8 => Bytes
  | .option inner => Option inner.Carrier

def accepts : RustType → Oid → Bool
  | .bool, ty => ty = PgType.bool
  | .i8, ty => ty = PgType.char
  | .i16, ty => ty = PgType.int2
  | .i32, ty => ty = PgType.int4
  | .i64, ty => ty = PgType.int8
  | .u32, ty => ty = PgType.oid
  | .f32, ty => ty = PgType.float4
  | .f64, ty => ty = PgType.float8
  | .string, ty => ty = PgType.text ∨ ty = PgType.varchar ∨ ty = PgType.bpchar ∨
      ty = PgType.name ∨ ty = PgType.unknown
  | .vecU8, ty => ty = PgType.bytea
  | .option inner, ty => inner.accepts ty

/-- `to_be_bytes` of a signed number. -/
def toBeBytes (width : Nat) (i : Int) : Bytes := BigEndian.bytes width (BigEndian.unsigned width i)

def hexDigit (n : UInt8) : UInt8 := if n ≤ 9 then 48 + n else 65 + (n - 10)

/-- One implementation of `to_sql`, by the two encodings of its value. -/
def encodings (text binary : Bytes) : FormatCode → Except TypeError (Option Bytes)
  | .text => .ok (some text)
  | .binary => .ok (some binary)

def boolToSql (value : Bool) : FormatCode → Except TypeError (Option Bytes) :=
  encodings (lineBytes (if value then "t" else "f")) [if value then 1 else 0]

/-- The signed integers, by their width in bytes. -/
def intToSql (width : Nat) (value : Int) : FormatCode → Except TypeError (Option Bytes) :=
  encodings (lineBytes (toString value)) (toBeBytes width value)

def u32ToSql (value : UInt32) : FormatCode → Except TypeError (Option Bytes) :=
  encodings (lineBytes (toString value.toNat)) (BigEndian.bytes 4 value.toNat)

def f32ToSql (std : StdText) (value : F32) : FormatCode → Except TypeError (Option Bytes) :=
  encodings (lineBytes (std.f32Display value)) (BigEndian.bytes 4 value.bits.toNat)

def f64ToSql (std : StdText) (value : F64) : FormatCode → Except TypeError (Option Bytes) :=
  encodings (lineBytes (std.f64Display value)) (BigEndian.bytes 8 value.bits.toNat)

def stringToSql (value : String) : FormatCode → Except TypeError (Option Bytes) :=
  encodings (lineBytes value) (lineBytes value)

/-- In text a backslash, an `x` and the digits of the bytes. -/
def vecU8ToSql (value : Bytes) : FormatCode → Except TypeError (Option Bytes) :=
  encodings (92 :: 120 :: value.flatMap fun byte : UInt8 => [hexDigit (byte >>> 4),
    hexDigit (byte &&& 0x0F)])
    value

def toSql (std : StdText) :
    (t : RustType) → t.Carrier → Oid → FormatCode → Except TypeError (Option Bytes)
  | .bool, value, _, format => boolToSql value format
  | .i8, value, _, format => intToSql 1 (Int8.toInt value) format
  | .i16, value, _, format => intToSql 2 (Int16.toInt value) format
  | .i32, value, _, format => intToSql 4 (Int32.toInt value) format
  | .i64, value, _, format => intToSql 8 (Int64.toInt value) format
  | .u32, value, _, format => u32ToSql value format
  | .f32, value, _, format => f32ToSql std value format
  | .f64, value, _, format => f64ToSql std value format
  | .string, value, _, format => stringToSql value format
  | .vecU8, value, _, format => vecU8ToSql value format
  | .option inner, some value, ty, format => toSql std inner value ty format
  | .option _, none, _, _ => .ok none

end RustType

/-- A parameter: a value of one of these types, or of a type with an implementation of its
own. -/
inductive Param where
  | builtin (t : RustType) (value : t.Carrier)
  | foreign (accepts : Oid → Bool) (value : ToSql)

namespace Param

def accepts : Param → Oid → Bool
  | .builtin t _ => t.accepts
  | .foreign accepts _ => accepts

def toSql (std : StdText) : Param → ToSql
  | .builtin t value => { toSql := t.toSql std value }
  | .foreign _ value => value

end Param
end PgClient
