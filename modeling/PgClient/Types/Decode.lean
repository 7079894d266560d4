import PgClient.Types.Server

/-!
`FromSql`: how the values of a row are read as Rust types, and `Row::get`.
-/

namespace PgClient

/-- The binary decoders of the protocol library, each of which takes only what is the
binary format of its type. -/
structure PostgresProtocol where
  boolFromSql : Bytes → Except String Bool
  charFromSql : Bytes → Except String Int8
  int2FromSql : Bytes → Except String Int16
  int4FromSql : Bytes → Except String Int32
  int8FromSql : Bytes → Except String Int64
  oidFromSql : Bytes → Except String UInt32
  float4FromSql : Bytes → Except String F32
  float8FromSql : Bytes → Except String F64
  textFromSql : Bytes → Except String String
  byteaFromSql : Bytes → Bytes
  bool_ok : ∀ {bytes value}, boolFromSql bytes = .ok value → ∃ byte, bytes = [byte] ∧
    value = (byte != 0)
  char_ok : ∀ {bytes value}, charFromSql bytes = .ok value →
    bytes = RustType.toBeBytes 1 value.toInt
  int2_ok : ∀ {bytes value}, int2FromSql bytes = .ok value →
    bytes = RustType.toBeBytes 2 value.toInt
  int4_ok : ∀ {bytes value}, int4FromSql bytes = .ok value →
    bytes = RustType.toBeBytes 4 value.toInt
  int8_ok : ∀ {bytes value}, int8FromSql bytes = .ok value →
    bytes = RustType.toBeBytes 8 value.toInt
  oid_ok : ∀ {bytes value}, oidFromSql bytes = .ok value → bytes = BigEndian.bytes 4 value.toNat
  float4_ok : ∀ {bytes value}, float4FromSql bytes = .ok value →
    bytes = BigEndian.bytes 4 value.bits.toNat
  float8_ok : ∀ {bytes value}, float8FromSql bytes = .ok value →
    bytes = BigEndian.bytes 8 value.bits.toNat
  text_ok : ∀ {bytes value}, textFromSql bytes = .ok value → bytes = lineBytes value
  bytea_eq : ∀ bytes, byteaFromSql bytes = bytes

/-- The `Display` of a conversion error. -/
def TypeError.display : TypeError → String
  | .unsupportedType message => "unsupported type: " ++ message
  | .conversion message => "conversion error: " ++ message
  | .invalidDataFormat message => "invalid data format: " ++ message
  | .utf8Error message => "utf-8 error: " ++ message
  | .parseIntError message => "parse int error: " ++ message
  | .parseFloatError message => "parse float error: " ++ message
  | .parseBoolError message => "parse bool error: " ++ message
  | .parseDateTimeError message => "parse datetime error: " ++ message
  | .unknownOid oid => "unknown OID: " ++ toString oid.toNat
  | .unsupportedEncoding message => "unsupported encoding format for type: " ++ message
  | .postgresTypes message => "postgres-types error: " ++ message

namespace FromSql

/-- The digits of a number, each of which may be the one that is wrong or too much. -/
def parseDigits (low high : Int) (negative : Bool) : Int → List Char → Except String Int
  | value, [] => .ok value
  | value, c :: chars =>
      if c.isDigit then
        let digit : Int := c.toNat - '0'.toNat
        let next := if negative then value * 10 - digit else value * 10 + digit
        if high < next then .error "number too large to fit in target type"
        else if next < low then .error "number too small to fit in target type"
        else parseDigits low high negative next chars
      else .error "invalid digit found in string"

/-- Rust's `parse` for the integers from `low` to `high`; only a type with negative numbers
takes a minus sign. -/
def parseInt (low high : Int) (text : String) : Except String Int :=
  match text.toList with
  | [] => .error "cannot parse integer from empty string"
  | ['+'] | ['-'] => .error "invalid digit found in string"
  | sign :: chars =>
      if sign = '+' then parseDigits low high false 0 chars
      else if sign = '-' ∧ low < 0 then parseDigits low high true 0 chars
      else parseDigits low high false 0 (sign :: chars)

variable (std : StdText)

def fromUtf8 (bytes : Bytes) : Except TypeError String :=
  match PgType.textOf bytes with
  | some text => .ok text
  | none => .error (.utf8Error (std.utf8Error bytes))

def asText : Option Bytes → Except TypeError String
  | some bytes => fromUtf8 std bytes
  | none => .error (.conversion "unexpected NULL")

def conversion {α : Type} (result : Except String α) : Except TypeError α :=
  result.mapError .conversion

/-- The raw bytes for a binary decoder, which NULL does not have. -/
def present : Option Bytes → Except TypeError Bytes
  | some bytes => .ok bytes
  | none => .error (.conversion "unexpected NULL")

def trueTexts : List String := ["t", "true", "TRUE", "True", "1", "yes", "YES", "on", "ON"]

def falseTexts : List String := ["f", "false", "FALSE", "False", "0", "no", "NO", "off", "OFF"]

def boolFromSql (lib : PostgresProtocol) (raw : Option Bytes) : FormatCode → Except TypeError Bool
  | .text => do
      let text ← asText std raw
      if text ∈ trueTexts then return true
      else if text ∈ falseTexts then return false
      else .error (.conversion ("invalid bool text: " ++ text))
  | .binary => do conversion (lib.boolFromSql (← present raw))

/-- The integers share their two readings; the kind of error of a bad number differs. -/
def intFromSql {α : Type} (low high : Int) (ofInt : Int → α) (parseError : String → TypeError)
    (binary : Bytes → Except String α) (raw : Option Bytes) : FormatCode → Except TypeError α
  | .text => do
      let text ← asText std raw
      ((parseInt low high text).mapError parseError).map ofInt
  | .binary => do conversion (binary (← present raw))

def i8FromSql (lib : PostgresProtocol) : Option Bytes → FormatCode → Except TypeError Int8 :=
  intFromSql std (-2 ^ 7) (2 ^ 7 - 1) Int8.ofInt .parseIntError lib.charFromSql

def i16FromSql (lib : PostgresProtocol) : Option Bytes → FormatCode → Except TypeError Int16 :=
  intFromSql std (-2 ^ 15) (2 ^ 15 - 1) Int16.ofInt .parseIntError lib.int2FromSql

def i32FromSql (lib : PostgresProtocol) : Option Bytes → FormatCode → Except TypeError Int32 :=
  intFromSql std (-2 ^ 31) (2 ^ 31 - 1) Int32.ofInt .parseIntError lib.int4FromSql

def i64FromSql (lib : PostgresProtocol) : Option Bytes → FormatCode → Except TypeError Int64 :=
  intFromSql std (-2 ^ 63) (2 ^ 63 - 1) Int64.ofInt .conversion lib.int8FromSql

def u32FromSql (lib : PostgresProtocol) : Option Bytes → FormatCode → Except TypeError UInt32 :=
  intFromSql std 0 (2 ^ 32 - 1) (fun n => UInt32.ofNat n.toNat) .conversion lib.oidFromSql

def floatFromSql {α : Type} (parse : String → Except String α) (binary : Bytes → Except String α)
    (raw : Option Bytes) : FormatCode → Except TypeError α
  | .text => do
      let text ← asText std raw
      (parse text).mapError .parseFloatError
  | .binary => do conversion (binary (← present raw))

def f32FromSql (lib : PostgresProtocol) : Option Bytes → FormatCode → Except TypeError F32 :=
  floatFromSql std std.f32Parse lib.float4FromSql

def f64FromSql (lib : PostgresProtocol) : Option Bytes → FormatCode → Except TypeError F64 :=
  floatFromSql std std.f64Parse lib.float8FromSql

def stringFromSql (lib : PostgresProtocol) (raw : Option Bytes) (format : FormatCode) :
    Except TypeError String := do
  let bytes ← present raw
  match format with
  | .text => fromUtf8 std bytes
  | .binary => conversion (lib.textFromSql bytes)

def hexDigit (c : Char) : Except TypeError UInt8 :=
  match PgType.hexValue c with
  | some n => .ok n
  | none => .error (.conversion ("invalid hex char: " ++ String.singleton c))

/-- The loop of `decode_hex` over an even number of characters. -/
def decodeHexLoop : List Char → Except TypeError Bytes
  | h :: l :: chars => do
      let hi ← hexDigit h
      let lo ← hexDigit l
      let rest ← decodeHexLoop chars
      return (hi * 16 + lo) :: rest
  | _ => .ok []

def decodeHex (chars : List Char) : Except TypeError Bytes :=
  let chars := chars.filter fun c => !CommandTag.isSpace c
  if chars.length % 2 ≠ 0 then .error (.invalidDataFormat "hex string has an odd number of digits")
  else decodeHexLoop chars

def isOctal (byte : UInt8) : Bool := 48 ≤ byte && byte ≤ 55

def decodeByteaEscape : Bytes → Except TypeError Bytes
  | [] => .ok []
  | byte :: rest =>
      if byte ≠ 92 then (decodeByteaEscape rest).map (byte :: ·)
      else
        match rest with
        | [] => .error (.invalidDataFormat "trailing backslash in bytea escape format")
        | byte :: rest =>
            if byte = 92 then (decodeByteaEscape rest).map (92 :: ·)
            else if isOctal byte then
              match rest with
              | second :: third :: rest =>
                  if isOctal second && isOctal third then
                    (decodeByteaEscape rest).map
                      ((((byte - 48) <<< 6) ||| ((second - 48) <<< 3) ||| (third - 48)) :: ·)
                  else .error (.invalidDataFormat "invalid octal escape in bytea text format")
              | _ => .error (.invalidDataFormat "incomplete octal escape in bytea text format")
            else
              .error (.invalidDataFormat ("invalid bytea escape sequence: \\" ++
                String.singleton (Char.ofNat byte.toNat)))

def vecU8FromSql (lib : PostgresProtocol) (raw : Option Bytes) (format : FormatCode) :
    Except TypeError Bytes := do
  let bytes ← present raw
  match format, bytes with
  | .text, 92 :: 120 :: hex =>
      let text ← fromUtf8 std hex
      (decodeHex text.toList).mapError fun e => .conversion ("invalid bytea hex: " ++ e.display)
  | .text, bytes => decodeByteaEscape bytes
  | .binary, bytes => return lib.byteaFromSql bytes

end FromSql

namespace RustType

def fromSql (std : StdText) (lib : PostgresProtocol) :
    (t : RustType) → Oid → Option Bytes → FormatCode → Except TypeError t.Carrier
  | .bool, _, raw, format => FromSql.boolFromSql std lib raw format
  | .i8, _, raw, format => FromSql.i8FromSql std lib raw format
  | .i16, _, raw, format => FromSql.i16FromSql std lib raw format
  | .i32, _, raw, format => FromSql.i32FromSql std lib raw format
  | .i64, _, raw, format => FromSql.i64FromSql std lib raw format
  | .u32, _, raw, format => FromSql.u32FromSql std lib raw format
  | .f32, _, raw, format => FromSql.f32FromSql std lib raw format
  | .f64, _, raw, format => FromSql.f64FromSql std lib raw format
  | .string, _, raw, format => FromSql.stringFromSql std lib raw format
  | .vecU8, _, raw, format => FromSql.vecU8FromSql std lib raw format
  | .option inner, ty, some bytes, format => (fromSql std lib inner ty (some bytes) format).map some
  | .option _, _, none, _ => .ok none

end RustType

namespace Row

def getRaw (row : Row) (index : Nat) : Option Bytes := row.values[index]?.join

/-- `get`, with what the type library knows of OIDs. -/
def get (std : StdText) (lib : PostgresProtocol) (typeFromOid : Oid → Option Oid) (t : RustType)
    (row : Row) (index : Nat) : Except PgError t.Carrier :=
  match row.columns[index]? with
  | none => .error (.columnIndexOutOfBounds index row.columns.length)
  | some field =>
      let ty := (typeFromOid field.typeOid).getD 0
      let format := if field.format = 1 then .binary else .text
      (t.fromSql std lib ty (row.getRaw index) format).mapError .typeConversion

/-- `get_by_name`, over `get`. -/
def getByName (std : StdText) (lib : PostgresProtocol) (typeFromOid : Oid → Option Oid)
    (t : RustType) (row : Row) (name : String) : Except PgError t.Carrier :=
  match row.columns.findIdx? fun column => column.name = name with
  | none => .error (.columnNotFound name)
  | some index => row.get std lib typeFromOid t index

end Row
end PgClient
