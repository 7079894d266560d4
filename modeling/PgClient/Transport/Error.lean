import Mathlib.Data.List.Basic

/-!
Bytes and the errors of the transport layer.
-/

namespace PgClient

abbrev Bytes := List UInt8

/-- The kinds of `std::io::Error` that the client looks at or makes. -/
inductive IoErrorKind where
  | wouldBlock
  | connectionReset
  | connectionAborted
  | brokenPipe
  | unexpectedEof
  | timedOut
  | invalidInput
  | invalidData
  | other
deriving DecidableEq, Repr

structure IoError where
  kind : IoErrorKind
  message : String
deriving DecidableEq, Repr

inductive TransportError where
  | connectionRefused
  | connectionReset
  | timeout
  | dnsResolutionFailed (host : String)
  | tlsHandshake (message : String)
  | tlsNotSupported
  | unexpectedEof
  | io (message : String)
  | invalidConfig (message : String)
deriving DecidableEq, Repr

namespace TransportError

def isConnectionBroken : TransportError → Bool
  | .connectionReset | .unexpectedEof | .connectionRefused => true
  | _ => false

def isTransient : TransportError → Bool
  | .timeout | .dnsResolutionFailed _ => true
  | _ => false

end TransportError
end PgClient
