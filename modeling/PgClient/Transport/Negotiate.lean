import Mathlib.Algebra.Group.Int.Defs
import Mathlib.Algebra.GroupWithZero.Nat
import PgClient.Config
import PgClient.Library.BigEndian
import PgClient.Library.LossyUtf8
import PgClient.Transport.Tls

/-!
How a transport is opened: the SSL negotiation over TCP, the byte buffers above the
plain or the encrypted transport, and the two callers that open one.
-/

namespace PgClient.Transport

structure TlsConfig where
  mode : SslMode
  serverName : String
  caCert : Option Bytes
  clientCert : Option Bytes
  clientKey : Option Bytes
  acceptInvalidCerts : Bool
deriving DecidableEq, Repr

namespace TlsConfig

def new (mode : SslMode) (serverName : String) : TlsConfig where
  mode
  serverName
  caCert := none
  clientCert := none
  clientKey := none
  acceptInvalidCerts := false

end TlsConfig

inductive TlsVerificationPolicy where
  | insecureNoVerify
  | verifyCaOnly
  | verifyFull
deriving DecidableEq, Repr

/-- A session that can also announce its end. -/
structure ClientConnection (S : Type) extends Rustls S where
  sendCloseNotify : S → S

/-- What rustls, the clock and the target decide. A root store is named by the bytes
it is made from, and so is a client certificate with its key. -/
structure Platform (S : Type) where
  usizeBits : Nat
  usizeBits_ge : 32 ≤ usizeBits
  timeAvailable : Except String Unit
  protocolVersions : Except String Unit
  rootStore : Option Bytes → Except TransportError Unit
  clientAuth : Bytes → Bytes → Except TransportError Unit
  client : TlsVerificationPolicy → Option Bytes → Option (Bytes × Bytes) → ClientConnection S
  /-- The `Debug` text of a string. -/
  debugText : String → String

/-- A computation on the TCP transport. -/
abbrev Tcp (S : Type) := Async (Platform S) InnerTransport TransportError

/-- The read buffer, of which `readBuf` is the part not consumed yet, and the write buffer. -/
structure BufferedTransport (T : Type) where
  inner : T
  readBuf : Bytes
  readCapacity : Nat
  writeBuf : Bytes

inductive PgTransport (S : Type) where
  | plain (t : BufferedTransport InnerTransport)
  | tls (client : ClientConnection S) (t : BufferedTransport (TlsTransport S))

/-- What a buffered transport asks of the transport below it. -/
structure AsyncTransport (ρ T : Type) where
  read : Nat → Async ρ T TransportError Bytes
  writeAll : Bytes → Async ρ T TransportError Unit
  flush : Async ρ T TransportError Unit
  shutdown : Async ρ T TransportError Unit

namespace Chunk

def front (chunk : Chunk) (n : Nat) (h : 0 < n) : Chunk where
  bytes := chunk.bytes.take n
  nonempty := by
    have hBytes := List.length_pos_of_ne_nil chunk.nonempty
    apply List.ne_nil_of_length_pos
    rw [List.length_take]
    omega
  bounded := by
    rw [List.length_take]
    exact Nat.le_trans (Nat.min_le_right _ _) chunk.bounded

def rest (chunk : Chunk) (n : Nat) (h : n < chunk.bytes.length) : Chunk where
  bytes := chunk.bytes.drop n
  nonempty := by
    apply List.ne_nil_of_length_pos
    rw [List.length_drop]
    omega
  bounded := by
    rw [List.length_drop]
    exact Nat.le_trans (Nat.sub_le _ _) chunk.bounded

end Chunk

namespace InnerTransport

/-- `read_exact`: what a chunk holds beyond the bytes wanted stays for the next read. -/
def takeExact : List InnerRead → Nat → Outcome TransportError Bytes × List InnerRead
  | reads, 0 => (.ok [], reads)
  | [], _ + 1 => (.pending, [])
  | .eof :: reads, _ + 1 => (.err .unexpectedEof, reads)
  | .failed e :: reads, _ + 1 => (.err e, reads)
  | .data chunk :: reads, n + 1 =>
      if h : n + 1 < chunk.bytes.length then
        (.ok (chunk.bytes.take (n + 1)), .data (chunk.rest (n + 1) h) :: reads)
      else
        ((takeExact reads (n + 1 - chunk.bytes.length)).1.map (chunk.bytes ++ ·),
          (takeExact reads (n + 1 - chunk.bytes.length)).2)

variable {ρ : Type}

def readExact (n : Nat) : Async ρ InnerTransport TransportError Bytes := fun _ tcp =>
  ((takeExact tcp.reads n).1, { tcp with reads := (takeExact tcp.reads n).2 })

def read (bufLen : Nat) : Async ρ InnerTransport TransportError Bytes := fun _ tcp =>
  match tcp.reads with
  | [] => (.pending, tcp)
  | .data chunk :: reads =>
      if h : bufLen < chunk.bytes.length then
        (.ok (chunk.bytes.take bufLen), { tcp with reads := .data (chunk.rest bufLen h) :: reads })
      else (.ok chunk.bytes, { tcp with reads })
  | .eof :: reads => (.ok [], { tcp with reads })
  | .failed e :: reads => (.err e, { tcp with reads })

def writeAll (buf : Bytes) : Async ρ InnerTransport TransportError Unit := fun _ tcp =>
  match tcp.fault with
  | none => (.ok (), { tcp with written := tcp.written ++ buf })
  | some e => (.err e, tcp)

def flush : Async ρ InnerTransport TransportError Unit := fun _ tcp =>
  match tcp.fault with
  | none => (.ok (), tcp)
  | some e => (.err e, tcp)

def transport : AsyncTransport ρ InnerTransport where
  read := read
  writeAll := writeAll
  flush := flush
  shutdown := flush

end InnerTransport

namespace TlsTransport

variable {S : Type}

def shutdown (client : ClientConnection S) : Tls S Unit := do
  .modify fun t => { t with tlsConn := client.sendCloseNotify t.tlsConn }
  flushTlsOutgoing
  innerFlush

/-- The transport with a bound on the rounds of one `write_all`. -/
def transport (client : ClientConnection S) (rounds : Nat) :
    AsyncTransport (Rustls S) (TlsTransport S) where
  read := read
  writeAll := writeAll rounds
  flush := flush
  shutdown := shutdown client

end TlsTransport

namespace BufferedTransport

variable {ρ T α : Type}

def defaultReadCapacity : Nat := 8192

def writeBufferFlushThreshold : Nat := 8192

def new (inner : T) : BufferedTransport T where
  inner
  readBuf := []
  readCapacity := defaultReadCapacity
  writeBuf := []

/-- A computation on the transport below. -/
def below (x : Async ρ T TransportError α) : Async ρ (BufferedTransport T) TransportError α :=
  fun r t => ((x r t.inner).1, { t with inner := (x r t.inner).2 })

/-- The buffer is empty when it grows, so that all of it is free. -/
def ensureReadCapacity (minRemaining : Nat) (t : BufferedTransport T) : BufferedTransport T :=
  if t.readCapacity < minRemaining then
    { t with readCapacity := max (t.readCapacity * 2) minRemaining }
  else t

/-- A read that hands out what is buffered, and reads on only when nothing is. -/
def read (ops : AsyncTransport ρ T) (bufLen : Nat) :
    Async ρ (BufferedTransport T) TransportError Bytes := do
  let t ← .get
  .doIf (t.readBuf = []) do
    .modify (ensureReadCapacity defaultReadCapacity)
    let t ← .get
    let data ← below (ops.read t.readCapacity)
    .modify fun t => { t with readBuf := data }
  let t ← .get
  .modify fun t => { t with readBuf := t.readBuf.drop bufLen }
  return t.readBuf.take bufLen

def flushWrite (ops : AsyncTransport ρ T) : Async ρ (BufferedTransport T) TransportError Unit := do
  let t ← .get
  .doIf (t.writeBuf ≠ []) do
    below (ops.writeAll t.writeBuf)
    .modify fun t => { t with writeBuf := [] }

def writeAll (ops : AsyncTransport ρ T) (buf : Bytes) :
    Async ρ (BufferedTransport T) TransportError Unit := do
  .modify fun t => { t with writeBuf := t.writeBuf ++ buf }
  let t ← .get
  .doIf (writeBufferFlushThreshold ≤ t.writeBuf.length) (flushWrite ops)

def flush (ops : AsyncTransport ρ T) : Async ρ (BufferedTransport T) TransportError Unit := do
  flushWrite ops
  below ops.flush

def shutdown (ops : AsyncTransport ρ T) : Async ρ (BufferedTransport T) TransportError Unit := do
  flushWrite ops
  below ops.shutdown

end BufferedTransport

def verificationPolicy (config : TlsConfig) : TlsVerificationPolicy :=
  if config.acceptInvalidCerts ∨ config.mode = .require then .insecureNoVerify
  else if config.mode = .verifyCa then .verifyCaOnly
  else .verifyFull

variable {S : Type}

def checkTimeAvailable : Tcp S Unit := do
  let platform ← .env
  .lift (platform.timeAvailable.mapError fun e => .tlsHandshake
    ("SystemTime::now() is not available on this platform. " ++
      "TLS certificate validation requires the current time. Error: " ++ e))

def buildRustlsConfig (config : TlsConfig) : Tcp S (ClientConnection S) := do
  let platform ← .env
  .lift (platform.protocolVersions.mapError fun e =>
    .tlsHandshake ("unsupported protocol versions: " ++ e))
  .doIf (verificationPolicy config ≠ .insecureNoVerify) (.lift (platform.rootStore config.caCert))
  let auth := match config.clientCert, config.clientKey with
    | some cert, some key => some (cert, key)
    | _, _ => none
  match auth with
  | some (cert, key) => .lift (platform.clientAuth cert key)
  | none => pure ()
  return platform.client (verificationPolicy config) config.caCert auth

/-- `TlsTransport::handshake`, which owns the TCP transport from here on. -/
def handshake (client : ClientConnection S) (serverName : String) : Tcp S (TlsTransport S) :=
  fun _ tcp =>
    match TlsTransport.new client.toRustls tcp serverName with
    | .error e => (.err e, tcp)
    | .ok conn =>
        let (outcome, conn) := TlsTransport.handshake client.toRustls conn
        (outcome.map fun _ => conn, conn.inner)

/-- Length 8 and code 80877103. -/
def sslRequest : Bytes := [0x00, 0x00, 0x00, 0x08, 0x04, 0xD2, 0x16, 0x2F]

def maxSslNegotiationErrorLen : Nat := 8 * 1024

def i32FromBeBytes (buf : Bytes) : Int := BigEndian.signed 4 (BigEndian.nat buf)

/-- `as usize`, which extends the sign. -/
def asUsize (bits : Nat) (i : Int) : Nat := (i % 2 ^ bits).toNat

def usizeSub (bits a b : Nat) : Nat := (a + 2 ^ bits - b) % 2 ^ bits

/-- How many bytes follow the length field of an error reply. -/
def errorReplyLen (bits : Nat) (lenBuf : Bytes) : Except TransportError Nat :=
  if i32FromBeBytes lenBuf < 4 then
    .error (.tlsHandshake "server sent malformed error response during SSL negotiation")
  else if maxSslNegotiationErrorLen < asUsize bits (i32FromBeBytes lenBuf) then
    .error (.tlsHandshake ("server sent oversized SSL negotiation error response: " ++
      toString (asUsize bits (i32FromBeBytes lenBuf)) ++ " bytes"))
  else .ok (usizeSub bits (asUsize bits (i32FromBeBytes lenBuf)) 4)

def readErrorReply : Tcp S (PgTransport S) := do
  let platform ← .env
  let lenBuf ← InnerTransport.readExact 4
  let len ← .lift (errorReplyLen platform.usizeBits lenBuf)
  let errorBuf ← InnerTransport.readExact len
  .fail (.tlsHandshake ("server rejected SSL request: " ++
    platform.debugText (String.ofList (LossyUtf8.decode errorBuf))))

def hexDigits (b : UInt8) : String :=
  String.ofList [Nat.digitChar (b.toNat / 16), Nat.digitChar (b.toNat % 16)]

def unexpectedResponse (b : UInt8) : TransportError :=
  .tlsHandshake ("unexpected response byte during SSL negotiation: 0x" ++ hexDigits b ++
    " ('" ++ String.singleton (Char.ofNat b.toNat) ++ "')")

/-- `negotiate_tls` with the `tls` feature. -/
def negotiateTls (config : TlsConfig) : Tcp S (PgTransport S) := do
  checkTimeAvailable
  InnerTransport.writeAll sslRequest
  InnerTransport.flush
  let response ← InnerTransport.readExact 1
  match response with
  | [0x53] =>
      let client ← buildRustlsConfig config
      let conn ← handshake client config.serverName
      return .tls client (BufferedTransport.new conn)
  | [0x4E] =>
      match config.mode with
      | .disable | .prefer => do
          let tcp ← .get
          return .plain (BufferedTransport.new tcp)
      | .require | .verifyCa | .verifyFull => .fail .tlsNotSupported
  | [0x45] => readErrorReply
  | other => .fail (unexpectedResponse (other.headD 0))

/-- `apply_tls`, by which `connect` opens its transport. -/
def applyTls (config : Config) : Tcp S (PgTransport S) :=
  if config.sslMode = .disable then do
    let tcp ← .get
    return .plain (BufferedTransport.new tcp)
  else
    negotiateTls
      { TlsConfig.new config.sslMode config.host with
        acceptInvalidCerts := config.acceptInvalidCerts }

namespace PgTransport

/-- The TCP transport at the bottom. -/
def tcp : PgTransport S → InnerTransport
  | .plain t => t.inner
  | .tls _ t => t.inner.inner

def isTls : PgTransport S → Bool
  | .plain _ => false
  | .tls _ _ => true

end PgTransport

/-- The calls that the codec makes on a transport. -/
inductive Use where
  | read (bufLen : Nat)
  | writeAll (buf : Bytes)
  | flush
  | shutdown

namespace BufferedTransport

variable {ρ T : Type}

/-- One call, and the bytes that the caller has read so far. -/
def use (ops : AsyncTransport ρ T) :
    Use → Async ρ (Bytes × BufferedTransport T) TransportError Unit
  | .read bufLen => do
      let data ← .onSnd (read ops bufLen)
      .modify fun (parsed, t) => (parsed ++ data, t)
  | .writeAll buf => .onSnd (writeAll ops buf)
  | .flush => .onSnd (flush ops)
  | .shutdown => .onSnd (shutdown ops)

/-- Calls in a row, whether or not they succeed. -/
def uses (ops : AsyncTransport ρ T) :
    List Use → Async ρ (Bytes × BufferedTransport T) TransportError Unit
  | [] => pure ()
  | u :: us => do
      let _ ← (use ops u).attempt
      uses ops us

end BufferedTransport

namespace PgTransport

/-- Calls on an open transport, and all the bytes read by them. -/
def uses (rounds : Nat) (us : List Use) : PgTransport S → Bytes × PgTransport S
  | .plain t =>
      let (parsed, t) := (BufferedTransport.uses InnerTransport.transport us () ([], t)).2
      (parsed, .plain t)
  | .tls client t =>
      let (parsed, t) := (BufferedTransport.uses (TlsTransport.transport client rounds) us
        client.toRustls ([], t)).2
      (parsed, .tls client t)

end PgTransport
end Transport

structure CancelToken where
  host : String
  processId : Int32
  secretKey : Int32
  sslMode : SslMode
  acceptInvalidCerts : Bool
deriving DecidableEq, Repr

namespace CancelToken

open Transport

variable {S : Type}

def buildTlsConfig (token : CancelToken) : TlsConfig :=
  { TlsConfig.new token.sslMode token.host with
    acceptInvalidCerts := token.acceptInvalidCerts }

/-- The transport on which a `CancelRequest` is sent. -/
def openTransport (token : CancelToken) : Tcp S (PgTransport S) :=
  if token.sslMode ≠ .disable then negotiateTls token.buildTlsConfig
  else do
    let tcp ← .get
    return .plain (BufferedTransport.new tcp)

/-- Length 16, code 80877102, and the two numbers. -/
def request (token : CancelToken) : Bytes :=
  BigEndian.bytes 4 16 ++ BigEndian.bytes 4 80877102 ++
    BigEndian.bytes 4 (BigEndian.unsigned 4 token.processId.toInt) ++
    BigEndian.bytes 4 (BigEndian.unsigned 4 token.secretKey.toInt)

/-- A computation on an open transport, which is dropped at its end. -/
def onTransport (rounds : Nat) (transport : PgTransport S)
    (x : ∀ {ρ T : Type}, AsyncTransport ρ T → Async ρ (BufferedTransport T) TransportError Unit) :
    Tcp S Unit := fun _ _ =>
  match transport with
  | .plain t =>
      let (outcome, t) := x ((InnerTransport.transport : AsyncTransport Unit InnerTransport)) () t
      (outcome, t.inner)
  | .tls client t =>
      let (outcome, t) := x (TlsTransport.transport client rounds) client.toRustls t
      (outcome, t.inner.inner)

/-- The TCP connection is open already, so that its timeout has passed. -/
def cancelWithTimeout (rounds : Nat) (token : CancelToken) : Tcp S Unit := do
  let transport ← token.openTransport
  onTransport rounds transport fun ops => do
    BufferedTransport.writeAll ops token.request
    BufferedTransport.flush ops
    let _ ← (BufferedTransport.shutdown ops).attempt

end CancelToken
end PgClient
