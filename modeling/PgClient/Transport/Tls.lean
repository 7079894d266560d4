import PgClient.Library.Async
import PgClient.Transport.Error

/-!
`TlsTransport` over a rustls session and an inner transport. The session is a
parameter; the transport also records what it gave the session, so that the bytes
can be accounted for.
-/

namespace PgClient.Transport

/-- What one read of the inner transport into the 8192-byte buffer can return. -/
structure Chunk where
  bytes : Bytes
  nonempty : bytes ≠ []
  bounded : bytes.length ≤ 8192

inductive InnerRead where
  | data (chunk : Chunk)
  | eof
  | failed (error : TransportError)

structure InnerTransport where
  reads : List InnerRead
  written : Bytes
  /-- The error with which writes fail, if they do. -/
  fault : Option TransportError

/-- The operations of `rustls::ClientConnection` that the transport uses. -/
structure Rustls (S : Type) where
  connect : String → Except TransportError S
  isHandshaking : S → Bool
  readTls : S → Bytes → Except IoError Nat × S
  processNewPackets : S → Except String Unit × S
  writeTls : S → Except IoError Bytes × S
  reader : S → Nat → Except IoError Bytes × S
  writer : S → Bytes → Except IoError Nat × S
  writerFlush : S → Except IoError Unit × S
  serverEndPoint : S → Except TransportError (Option Bytes)

namespace InnerRead

def bytes : InnerRead → Bytes
  | .data chunk => chunk.bytes
  | .eof | .failed _ => []

end InnerRead

/-- What a session was given: the ciphertext of each `read_tls` call, with the session
at that call, the ciphertext those calls took, and the plaintext its writer took. -/
structure Given (S : Type) where
  offers : List (S × Bytes)
  cipher : Bytes
  plain : Bytes

structure TlsTransport (S : Type) where
  tlsConn : S
  inner : InnerTransport
  tlsServerEndPoint : Option Bytes
  given : Given S

abbrev Tls (S : Type) := Async (Rustls S) (TlsTransport S) TransportError

namespace TlsTransport

variable {S : Type}

def receive : Tls S Bytes := fun _ t =>
  match t.inner.reads with
  | [] => (.pending, t)
  | .data chunk :: reads => (.ok chunk.bytes, { t with inner.reads := reads })
  | .eof :: reads => (.ok [], { t with inner.reads := reads })
  | .failed e :: reads => (.err e, { t with inner.reads := reads })

def innerWriteAll (buf : Bytes) : Tls S Unit := fun _ t =>
  match t.inner.fault with
  | none => (.ok (), { t with inner.written := t.inner.written ++ buf })
  | some e => (.err e, t)

def innerFlush : Tls S Unit := fun _ t =>
  match t.inner.fault with
  | none => (.ok (), t)
  | some e => (.err e, t)

def isHandshaking : Tls S Bool := fun tls t => (.ok (tls.isHandshaking t.tlsConn), t)

def readTls (chunk : Bytes) : Tls S Nat := fun tls t =>
  let t := { t with given.offers := t.given.offers ++ [(t.tlsConn, chunk)] }
  match tls.readTls t.tlsConn chunk with
  | (.ok n, s) =>
      (.ok n, { t with tlsConn := s, given.cipher := t.given.cipher ++ chunk.take n })
  | (.error e, s) => (.err (.tlsHandshake ("read_tls: " ++ e.message)), { t with tlsConn := s })

/-- Read incoming TLS data and feed it to the session. -/
def feed : Tls S Nat := do
  let chunk ← receive
  .failIf (chunk = []) .unexpectedEof
  readTls chunk

def processNewPackets : Tls S Unit := fun tls t =>
  match tls.processNewPackets t.tlsConn with
  | (.ok (), s) => (.ok (), { t with tlsConn := s })
  | (.error e, s) => (.err (.tlsHandshake ("process_new_packets: " ++ e)), { t with tlsConn := s })

def writeTls : Tls S Bytes := fun tls t =>
  match tls.writeTls t.tlsConn with
  | (.ok outgoing, s) => (.ok outgoing, { t with tlsConn := s })
  | (.error e, s) => (.err (.tlsHandshake ("write_tls: " ++ e.message)), { t with tlsConn := s })

def writer (buf : Bytes) : Tls S Nat := fun tls t =>
  match tls.writer t.tlsConn buf with
  | (.ok n, s) =>
      (.ok n, { t with tlsConn := s, given.plain := t.given.plain ++ buf.take n })
  | (.error e, s) => (.err (.tlsHandshake ("TLS write: " ++ e.message)), { t with tlsConn := s })

/-- Plaintext for the caller, `none` when the session needs more ciphertext. -/
def readPlain (bufLen : Nat) : Tls S (Option Bytes) := fun tls t =>
  match tls.reader t.tlsConn bufLen with
  | (.ok data, s) => (.ok (some data), { t with tlsConn := s })
  | (.error e, s) =>
      match e.kind with
      | .wouldBlock => (.ok none, { t with tlsConn := s })
      | .connectionAborted => (.ok (some []), { t with tlsConn := s })
      | _ => (.err (.tlsHandshake ("TLS read: " ++ e.message)), { t with tlsConn := s })

def flushTlsOutgoing : Tls S Unit := do
  let outgoing ← writeTls
  .doIf (outgoing ≠ []) (innerWriteAll outgoing)

/-- The connection before its first flight. -/
def new (tls : Rustls S) (inner : InnerTransport) (serverName : String) :
    Except TransportError (TlsTransport S) :=
  (tls.connect serverName).map fun s =>
    { tlsConn := s, inner, tlsServerEndPoint := none,
      given := { offers := [], cipher := [], plain := [] } }

/-- One flight each way in every round, until the session has finished. -/
def handshakeLoop : Nat → Tls S Unit
  | 0 => .fail (.tlsHandshake "TLS handshake did not complete within iteration limit")
  | iterations + 1 => do
      let outgoing ← writeTls
      .doIf (outgoing ≠ []) do
        innerWriteAll outgoing
        innerFlush
      if ← isHandshaking then
        let bytesRead ← feed
        .failIf (bytesRead = 0) (.tlsHandshake "TLS handshake stalled: no data consumed")
        processNewPackets
        handshakeLoop iterations
      else pure ()

def maxHandshakeIterations : Nat := 100

def serverEndPoint : Tls S Unit := fun tls t =>
  match tls.serverEndPoint t.tlsConn with
  | .ok endPoint => (.ok (), { t with tlsServerEndPoint := endPoint })
  | .error e => (.err e, t)

def handshake : Tls S Unit := do
  handshakeLoop maxHandshakeIterations
  let handshaking ← isHandshaking
  .failIf handshaking (.tlsHandshake "TLS handshake incomplete after loop exit")
  serverEndPoint

def readLoop (bufLen : Nat) : Nat → Tls S Bytes
  | 0 => .wait
  | fuel + 1 => do
      match ← readPlain bufLen with
      | some data => return data
      | none =>
          let _ ← feed
          processNewPackets
          readLoop bufLen fuel

/-- Every round but the last takes one read of the inner transport. -/
def read (bufLen : Nat) : Tls S Bytes := fun tls t =>
  readLoop bufLen (t.inner.reads.length + 1) tls t

def write (buf : Bytes) : Tls S Nat := do
  let n ← writer buf
  flushTlsOutgoing
  return n

/-- The loop of `write_all` with a bound on its rounds; it waits when they are used up. -/
def writeAllLoop (buf : Bytes) : Nat → Nat → Tls S Unit
  | 0, written => if written < buf.length then .wait else pure ()
  | rounds + 1, written =>
      if written < buf.length then do
        let n ← writer (buf.drop written)
        writeAllLoop buf rounds (written + n)
      else pure ()

def writeAll (rounds : Nat) (buf : Bytes) : Tls S Unit := do
  writeAllLoop buf rounds 0
  flushTlsOutgoing

def flush : Tls S Unit := fun tls t =>
  match tls.writerFlush t.tlsConn with
  | (.ok (), s) =>
      (do flushTlsOutgoing; innerFlush : Tls S Unit) tls { t with tlsConn := s }
  | (.error e, s) => (.err (.tlsHandshake ("TLS flush: " ++ e.message)), { t with tlsConn := s })

/-- The calls a caller makes on a connection after its handshake. -/
inductive Call where
  | read (bufLen : Nat)
  | write (buf : Bytes)
  | writeAll (rounds : Nat) (buf : Bytes)
  | flush

def call : Call → Tls S Unit
  | .read bufLen => do let _ ← read bufLen
  | .write buf => do let _ ← write buf
  | .writeAll rounds buf => writeAll rounds buf
  | .flush => flush

def calls : List Call → Tls S Unit
  | [] => pure ()
  | c :: cs => do
      let _ ← (call c).attempt
      calls cs

/-- A handshake and the calls after it, whether or not they succeed. -/
def run (cs : List Call) : Tls S Unit := do
  handshake
  calls cs

end TlsTransport
end PgClient.Transport
