import PgClient.Transport.Error

/-!
The messages of the wire protocol. A body that the protocol library parses lazily
carries the result of that parse, and text that may not be UTF-8 is an option.
-/

namespace PgClient

abbrev Oid := UInt32

inductive FormatCode where
  | text
  | binary
deriving DecidableEq, Repr

inductive TransactionStatus where
  | idle
  | inTransaction
  | failed
deriving DecidableEq, Repr

namespace TransactionStatus

def fromU8 (byte : UInt8) : Option TransactionStatus :=
  if byte = 73 then some .idle
  else if byte = 84 then some .inTransaction
  else if byte = 69 then some .failed
  else none

def toU8 : TransactionStatus → UInt8
  | .idle => 73
  | .inTransaction => 84
  | .failed => 69

@[simp] theorem fromU8_toU8 (status : TransactionStatus) :
    fromU8 status.toU8 = some status := by
  cases status <;> rfl

theorem toU8_of_fromU8 {byte : UInt8} {status : TransactionStatus}
    (h : fromU8 byte = some status) : status.toU8 = byte := by
  simp only [fromU8] at h
  split at h
  case isTrue hByte =>
      cases h
      exact hByte.symm
  case isFalse =>
      split at h
      case isTrue hByte =>
          cases h
          exact hByte.symm
      case isFalse =>
          split at h
          case isTrue hByte =>
              cases h
              exact hByte.symm
          case isFalse => cases h

/-- The status a `ReadyForQuery` sets; an unknown byte counts as idle. -/
def ofReady (byte : UInt8) : TransactionStatus := (fromU8 byte).getD .idle

end TransactionStatus

/-- What a `Describe` or `Close` message names. -/
inductive Variant where
  | statement
  | portal
deriving DecidableEq, Repr

inductive FrontendMessage where
  | startup (params : List (String × String))
  | sslRequest
  | cancelRequest (processId secretKey : Int32)
  | query (sql : String)
  | parse (name sql : String) (paramTypes : List Oid)
  | bind (portal statement : String) (paramFormats : List FormatCode)
      (params : List (Option Bytes)) (resultFormats : List FormatCode)
  | describe (variant : Variant) (name : String)
  | execute (portal : String) (maxRows : Int32)
  | close (variant : Variant) (name : String)
  | sync
  | flush
  | copyData (data : Bytes)
  | copyDone
  | copyFail (message : String)
  | passwordMessage (password : Bytes)
  | saslInitialResponse (mechanism : String) (data : Bytes)
  | saslResponse (data : Bytes)
  | terminate
deriving DecidableEq, Repr

/-- The fields of an error or notice; a value that is not UTF-8 reads as empty. -/
structure ErrorBody where
  fields : Except IoError (List (UInt8 × String))
deriving DecidableEq, Repr

structure Field where
  name : String
  tableOid : Oid
  columnId : Int16
  typeOid : Oid
  typeSize : Int16
  typeModifier : Int32
  format : Int16
deriving DecidableEq, Repr

structure NotificationBody where
  processId : Int32
  channel : Option String
  message : Option String
deriving DecidableEq, Repr

structure ParameterStatusBody where
  name : Option String
  value : Option String
deriving DecidableEq, Repr

structure CopyResponseBody where
  format : UInt8
  columnFormats : Except IoError (List UInt16)
deriving DecidableEq, Repr

inductive AuthenticationRequest where
  | ok
  | kerberosV5
  | cleartextPassword
  | md5Password (salt : Bytes)
  | scmCredential
  | gss
  | sspi
  | gssContinue
  | sasl (mechanisms : Except IoError (List String))
  | saslContinue (data : Bytes)
  | saslFinal (data : Bytes)
deriving DecidableEq, Repr

inductive BackendMessage where
  | authentication (request : AuthenticationRequest)
  | backendKeyData (processId secretKey : Int32)
  | parameterStatus (body : ParameterStatusBody)
  | noticeResponse (body : ErrorBody)
  | notificationResponse (body : NotificationBody)
  | errorResponse (body : ErrorBody)
  | readyForQuery (status : UInt8)
  | rowDescription (fields : Except IoError (List Field))
  | dataRow (values : Except IoError (List (Option Bytes)))
  | commandComplete (tag : Option String)
  | emptyQueryResponse
  | parameterDescription (types : Except IoError (List Oid))
  | parseComplete
  | bindComplete
  | closeComplete
  | noData
  | portalSuspended
  | copyInResponse (body : CopyResponseBody)
  | copyOutResponse (body : CopyResponseBody)
  | copyData (data : Bytes)
  | copyDone
deriving DecidableEq, Repr

namespace BackendMessage

/-- The messages a server may send at any time. -/
def isAsync : BackendMessage → Bool
  | .parameterStatus _ | .noticeResponse _ | .notificationResponse _ => true
  | _ => false

def isReady : BackendMessage → Bool
  | .readyForQuery _ => true
  | _ => false

/-- Every part of the message that a read loop looks at can be parsed. -/
def wellFormed : BackendMessage → Bool
  | .errorResponse body => body.fields.isOk
  | .rowDescription fields => fields.isOk
  | .dataRow values => values.isOk
  | .parameterDescription types => types.isOk
  | .copyInResponse body | .copyOutResponse body => body.columnFormats.isOk
  | .readyForQuery status => (TransactionStatus.fromU8 status).isSome
  | _ => true

end BackendMessage
end PgClient
