import Mathlib.Algebra.GroupWithZero.Nat
import PgClient.Protocol.Message

/-!
The errors of the client and the conversions between them.
-/

namespace PgClient

inductive ProtocolError where
  | io (error : IoError)
  | unexpectedEof
  | unknownMessageType (type : UInt8)
  | invalidLength
  | utf8 (message : String)
  | protocolViolation (message : String)
  | bufferLimitExceeded (limit actual : Nat)
  | typeError (message : String)
deriving DecidableEq, Repr

inductive AuthError where
  | passwordRequired
  | unsupportedSaslMechanisms (mechanisms : List String)
  | scram (message : String)
  | insecureAuthentication (method : String)
  | serverError (message : String)
  | unexpectedMessage
  | protocol (error : ProtocolError)
  | transport (error : TransportError)
  | io (error : IoError)
  | utf8 (message : String)
deriving DecidableEq, Repr

/-- The error type of the value conversions. -/
inductive TypeError where
  | unsupportedType (message : String)
  | conversion (message : String)
  | invalidDataFormat (message : String)
  | utf8Error (message : String)
  | parseIntError (message : String)
  | parseFloatError (message : String)
  | parseBoolError (message : String)
  | parseDateTimeError (message : String)
  | unknownOid (oid : Oid)
  | unsupportedEncoding (message : String)
  | postgresTypes (message : String)
deriving DecidableEq, Repr

/-- An unsigned decimal as Rust's `parse` reads it, below `bound`. -/
def parseUnsigned (bound : Nat) (s : String) : Option Nat :=
  let digits := if s.toList.head? = some '+' then s.toList.tail else s.toList
  if digits ≠ [] ∧ digits.all Char.isDigit then
    let n := digits.foldl (fun n c => 10 * n + (c.toNat - '0'.toNat)) 0
    if n < bound then some n else none
  else none

structure PgServerError where
  severity : String := ""
  severityV : Option String := none
  code : String := ""
  message : String := ""
  detail : Option String := none
  hint : Option String := none
  position : Option Nat := none
  internalPosition : Option Nat := none
  internalQuery : Option String := none
  where_ : Option String := none
  schema : Option String := none
  table : Option String := none
  column : Option String := none
  dataType : Option String := none
  constraint : Option String := none
  file : Option String := none
  line : Option Nat := none
  routine : Option String := none
deriving DecidableEq, Repr

namespace PgServerError

def setField (err : PgServerError) (code : UInt8) (value : String) : PgServerError :=
  match Char.ofNat code.toNat with
  | 'S' => { err with severity := value }
  | 'V' => { err with severityV := some value }
  | 'C' => { err with code := value }
  | 'M' => { err with message := value }
  | 'D' => { err with detail := some value }
  | 'H' => { err with hint := some value }
  | 'P' => { err with position := parseUnsigned (2 ^ 32) value }
  | 'p' => { err with internalPosition := parseUnsigned (2 ^ 32) value }
  | 'q' => { err with internalQuery := some value }
  | 'W' => { err with where_ := some value }
  | 's' => { err with schema := some value }
  | 't' => { err with table := some value }
  | 'c' => { err with column := some value }
  | 'd' => { err with dataType := some value }
  | 'n' => { err with constraint := some value }
  | 'F' => { err with file := some value }
  | 'L' => { err with line := parseUnsigned (2 ^ 32) value }
  | 'R' => { err with routine := some value }
  | _ => err

def fromFields (fields : List (UInt8 × String)) : PgServerError :=
  fields.foldl (fun err field => err.setField field.1 field.2) {}

/-- Both `from_error_body` and `from_notice_body`. -/
def fromBody (body : ErrorBody) : Except IoError PgServerError :=
  body.fields.map fromFields

end PgServerError

inductive PoolErrorVariant where
  | exhausted
  | closed
  | createFailed (message : String)
  | resetFailed (message : String)
deriving DecidableEq, Repr

inductive PgError where
  | server (error : PgServerError)
  | protocol (error : ProtocolError)
  | transport (error : TransportError)
  | auth (message : String)
  | typeConversion (error : TypeError)
  | config (message : String)
  | connectionClosed
  | unexpectedNull (column : String)
  | columnNotFound (name : String)
  | columnIndexOutOfBounds (index count : Nat)
  | timeout
  | pool (error : PoolErrorVariant)
  | invalidState (message : String)
  | unsupported (message : String)
  | cancelled
  | io (error : IoError)
  | tls (message : String)
  | other (message : String)
deriving DecidableEq, Repr

namespace AuthError

def toPgError : AuthError → PgError
  | .passwordRequired => .auth "password required"
  | .unsupportedSaslMechanisms mechanisms =>
      .auth ("unsupported SASL mechanisms: " ++ reprStr mechanisms)
  | .scram message => .auth ("SCRAM error: " ++ message)
  | .insecureAuthentication method =>
      .auth ("refusing " ++ method ++ " authentication over an unencrypted transport")
  | .serverError message => .other message
  | .unexpectedMessage => .auth "unexpected message during authentication"
  | .protocol error => .protocol error
  | .transport error => .transport error
  | .io error => .io error
  | .utf8 message => .other message

end AuthError

/-- How a read of the next message can fail. -/
inductive ReadError where
  | transport (error : TransportError)
  | malformed (error : IoError)
  | bufferLimitExceeded (limit actual : Nat)
deriving DecidableEq, Repr

namespace ReadError

def toAuthError : ReadError → AuthError
  | .transport error => .transport error
  | .malformed error => .protocol (.io error)
  | .bufferLimitExceeded limit actual => .protocol (.bufferLimitExceeded limit actual)

def toPgError (e : ReadError) : PgError := e.toAuthError.toPgError

end ReadError
end PgClient
