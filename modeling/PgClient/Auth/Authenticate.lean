import PgClient.Config
import PgClient.Connection.State
import PgClient.Library.Drive

/-!
The startup of a connection: the startup message, authentication by the methods that
the server asks for, and the parameters it reports until it is ready. The cryptography
of the protocol library is a parameter.
-/

namespace PgClient
namespace Auth

inductive ChannelBinding where
  | unrequested
  | unsupported
  | tlsServerEndPoint (data : Bytes)
deriving DecidableEq, Repr

/-- What a client-first message says of channel binding. -/
def ChannelBinding.gs2Header : ChannelBinding → String
  | .unrequested => "y,,"
  | .unsupported => "n,,"
  | .tlsServerEndPoint _ => "p=tls-server-end-point,,"

def asBytes (text : String) : Bytes := text.toUTF8.toList

/-- `ScramSha256` and `md5_hash`. -/
structure Library (Scram : Type) where
  new : String → Bytes → ChannelBinding → Scram
  message : Scram → Bytes
  update : Scram → Bytes → Except String Scram
  finish : Scram → Bytes → Except String Unit
  md5Hash : Bytes → Bytes → Bytes → String
  message_new : ∀ nonce password binding, ∃ rest,
    message (new nonce password binding) = asBytes binding.gs2Header ++ rest

/-- The other side of a startup, with what the transport says of itself and the nonce that
comes from the random generator after the messages sent so far. -/
structure Peer (Scram : Type) where
  net : Network
  isSecure : Bool
  tlsServerEndPoint : Option Bytes
  library : Library Scram
  nonce : List FrontendMessage → String
  /-- The error of a parameter that is not UTF-8. -/
  utf8Text : ParameterStatusBody → String

end Auth

/-- A computation of the startup, before there is a connection. -/
abbrev Startup (Scram : Type) := Async (Auth.Peer Scram) Transport AuthError

namespace Auth

open Drive

variable {Scram : Type}

def readMessage : Startup Scram BackendMessage := fun _ t =>
  match t.inbox with
  | .ok message :: inbox => (.ok message, { t with inbox })
  | .error e :: inbox => (.err e.toAuthError, { t with inbox })
  | [] =>
      match t.ending with
      | some e => (.err e.toAuthError, t)
      | none => (.pending, t)

def encode (message : FrontendMessage) : Startup Scram Frame := do
  let peer ← .env
  let bytes ← .lift ((peer.net.encode message).mapError .protocol)
  return { message, bytes }

def flushWrite : Startup Scram Unit := fun peer t =>
  match t.flushWrite peer.net with
  | .ok t => (.ok (), t)
  | .error e => (.err (.transport e), t)

def writeAll (frame : Frame) : Startup Scram Unit := do
  .modify fun t => t.push frame
  let t ← .get
  .doIf (Transport.writeBufferFlushThreshold ≤ t.bufferedLen) flushWrite

def flush : Startup Scram Unit := do
  flushWrite
  let peer ← .env
  let t ← .get
  match peer.net.flushError t.history with
  | some e => .fail (.transport e)
  | none => pure ()

def send (message : FrontendMessage) : Startup Scram Unit := do
  let frame ← encode message
  writeAll frame
  flush

/-- The messages of an error, joined. -/
def formatErrorFields (body : ErrorBody) : Except AuthError String :=
  (body.fields.mapError .io).map fun fields =>
    (fields.filter fun field => field.1 = 77).foldl
      (fun msg field => (if msg = "" then msg else msg ++ "; ") ++ field.2) ""

def serverError {α : Type} (body : ErrorBody) : Startup Scram α := do
  let msg ← .lift (formatErrorFields body)
  .fail (.serverError msg)

def password (config : Config) : Startup Scram String :=
  match config.password with
  | some password => pure password
  | none => .fail .passwordRequired

def cleartextAuth (config : Config) : Startup Scram Unit := do
  let password ← password config
  send (.passwordMessage (asBytes password))

def md5Auth (config : Config) (salt : Bytes) : Startup Scram Unit := do
  let password ← password config
  let peer ← .env
  let hash := peer.library.md5Hash (asBytes config.user) (asBytes password) salt
  send (.passwordMessage (asBytes hash))

def scramSha256 : String := "SCRAM-SHA-256"

def scramSha256Plus : String := "SCRAM-SHA-256-PLUS"

structure SelectedScramMechanism where
  mechanism : String
  channelBinding : ChannelBinding
deriving DecidableEq, Repr

def selectScramMechanism (tlsServerEndPoint : Option Bytes) (mechanisms : List String) :
    Except AuthError SelectedScramMechanism :=
  match tlsServerEndPoint, decide (scramSha256Plus ∈ mechanisms) with
  | some binding, true =>
      .ok { mechanism := scramSha256Plus, channelBinding := .tlsServerEndPoint binding }
  | _, _ =>
      if scramSha256 ∈ mechanisms then
        .ok {
          mechanism := scramSha256
          channelBinding := if tlsServerEndPoint.isSome then .unrequested else .unsupported }
      else .error (.unsupportedSaslMechanisms mechanisms)

/-- The data of one SASL message that the server has to send now. -/
def saslData (data : BackendMessage → Option Bytes) : Startup Scram Bytes := do
  let message ← readMessage
  match data message, message with
  | some data, _ => pure data
  | none, .errorResponse body => serverError body
  | none, _ => .fail .unexpectedMessage

def continueData : BackendMessage → Option Bytes
  | .authentication (.saslContinue data) => some data
  | _ => none

def finalData : BackendMessage → Option Bytes
  | .authentication (.saslFinal data) => some data
  | _ => none

/-- `scram::auth`. -/
def scramAuth (config : Config) (mechanisms : List String) : Startup Scram Unit := do
  let password ← password config
  let peer ← .env
  let selected ← .lift (selectScramMechanism peer.tlsServerEndPoint mechanisms)
  let t ← .get
  let scram := peer.library.new (peer.nonce t.history) (asBytes password) selected.channelBinding
  send (.saslInitialResponse selected.mechanism (peer.library.message scram))
  let serverFirst ← saslData continueData
  let scram ← .lift ((peer.library.update scram serverFirst).mapError .scram)
  send (.saslResponse (peer.library.message scram))
  let serverFinal ← saslData finalData
  .lift ((peer.library.finish scram serverFinal).mapError .scram)

/-- The loop of `authenticate`, for a number of requests. -/
def authenticateLoop (config : Config) : Nat → Startup Scram Unit
  | 0 => .wait
  | requests + 1 => do
      match ← readMessage with
      | .authentication .ok => pure ()
      | .authentication .cleartextPassword => do
          let peer ← .env
          .failIf (!peer.isSecure && !config.allowInsecureAuth)
            (.insecureAuthentication "cleartext password")
          cleartextAuth config
          authenticateLoop config requests
      | .authentication (.md5Password salt) => do
          let peer ← .env
          .failIf (!peer.isSecure && !config.allowInsecureAuth) (.insecureAuthentication "MD5")
          md5Auth config salt
          authenticateLoop config requests
      | .authentication (.sasl mechanisms) => do
          let mechanisms ← .lift (mechanisms.mapError .io)
          scramAuth config mechanisms
          authenticateLoop config requests
      | .errorResponse body => serverError body
      | _ => .fail .unexpectedMessage

def setParameter (params : ServerParams) (name value : String) : ServerParams :=
  let params := match name with
    | "server_version" => { params with serverVersion := value }
    | "server_encoding" => { params with serverEncoding := value }
    | "client_encoding" => { params with clientEncoding := value }
    | _ => params
  { params with params := mapInsert name value params.params }

def startupStep (utf8Text : ParameterStatusBody → String) (params : ServerParams) :
    Entry → Step ServerParams (Except AuthError ServerParams)
  | .error e => .exit (.error e.toAuthError) params
  | .ok (.backendKeyData processId secretKey) => .next { params with processId, secretKey }
  | .ok (.parameterStatus body) =>
      match body.name, body.value with
      | some name, some value => .next (setParameter params name value)
      | _, _ => .exit (.error (.io { kind := .invalidInput, message := utf8Text body })) params
  | .ok (.readyForQuery _) => .exit (.ok params) params
  | .ok (.errorResponse body) =>
      .exit ((formatErrorFields body).bind fun msg => .error (.serverError msg)) params
  | .ok _ => .next params

def readStartupParams : Startup Scram ServerParams := fun peer t =>
  match drive (startupStep peer.utf8Text) {} t.inbox with
  | .done result _ inbox => (Outcome.ofExcept result, { t with inbox })
  | .waiting _ =>
      match t.ending with
      | some e => (.err e.toAuthError, { t with inbox := [] })
      | none => (.pending, { t with inbox := [] })

def authenticate (config : Config) (requests : Nat) : Startup Scram ServerParams := do
  authenticateLoop config requests
  readStartupParams

/-- What `connect` does on an open transport. -/
def startup (config : Config) (requests : Nat) : Startup Scram ServerParams := do
  send (.startup config.startupParams)
  authenticate config requests

/-- How a startup ends for `connect`, which returns a connection or an error. -/
def handshake (config : Config) (requests : Nat) (peer : Peer Scram) :
    Outcome PgError (Transport × ServerParams) :=
  match startup config requests peer .new with
  | (.ok params, t) => .ok (t, params)
  | (.err e, _) => .err e.toPgError
  | (.pending, _) => .pending

end Auth
end PgClient
