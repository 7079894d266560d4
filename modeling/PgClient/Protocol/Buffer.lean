import PgClient.Error
import PgClient.Library.Async
import PgClient.Library.Framed

/-!
`MessageBuffer` and the loop of `Codec::read_message` above it, which reads until a
message is complete. `Message::parse` is a parameter.
-/

namespace PgClient

structure MessageBuffer where
  inner : Bytes
  maxBufferedBytes : Nat

namespace MessageBuffer

def defaultMaxBufferedBytes : Nat := 8 * 1024 * 1024

def new : MessageBuffer where
  inner := []
  maxBufferedBytes := defaultMaxBufferedBytes

def tryExtend (data : Bytes) (buf : MessageBuffer) : Except ProtocolError MessageBuffer :=
  let actual := buf.inner.length + data.length
  if buf.maxBufferedBytes < actual then
    .error (.bufferLimitExceeded buf.maxBufferedBytes actual)
  else .ok { buf with inner := buf.inner ++ data }

variable {μ : Type}

def nextMessage (parse : Framing.Parser UInt8 IoError μ) (buf : MessageBuffer) :
    Except ProtocolError (Option μ) × MessageBuffer :=
  if buf.maxBufferedBytes < buf.inner.length then
    (.error (.bufferLimitExceeded buf.maxBufferedBytes buf.inner.length), buf)
  else
    ((parse buf.inner).1.mapError .io, { buf with inner := (parse buf.inner).2 })

end MessageBuffer

namespace Codec

/-- What one read into the buffer of 4096 bytes can return. -/
structure Chunk where
  bytes : Bytes
  nonempty : bytes ≠ []
  bounded : bytes.length ≤ 4096

/-- How a stream goes on after its last byte. -/
inductive StreamEnd where
  | waiting
  | closed
  | failed (error : TransportError)
deriving DecidableEq, Repr

/-- The reads still to come. -/
structure Incoming where
  reads : List Chunk
  ending : StreamEnd

/-- The result of a read after the last byte. -/
def StreamEnd.outcome {α : Type} : StreamEnd → Outcome AuthError α
  | .waiting => .pending
  | .closed => .err (.transport .unexpectedEof)
  | .failed e => .err (.transport e)

def StreamEnd.error : StreamEnd → Option AuthError
  | .waiting => none
  | .closed => some (.transport .unexpectedEof)
  | .failed e => some (.transport e)

variable {ρ μ : Type}

/-- The bytes of a chunk that exceeds the limit are gone; those buffered before it stay. -/
def readLoop (parse : Framing.Parser UInt8 IoError μ) (ending : StreamEnd) :
    MessageBuffer → List Chunk → Outcome AuthError μ × MessageBuffer × Incoming
  | buf, reads =>
      match buf.nextMessage parse with
      | (.error e, buf) => (.err (.protocol e), buf, ⟨reads, ending⟩)
      | (.ok (some message), buf) => (.ok message, buf, ⟨reads, ending⟩)
      | (.ok none, buf) =>
          match reads with
          | [] => (ending.outcome, buf, ⟨[], ending⟩)
          | tmp :: reads =>
              match buf.tryExtend tmp.bytes with
              | .error e => (.err (.protocol e), buf, ⟨reads, ending⟩)
              | .ok buf => readLoop parse ending buf reads

def readMessage (parse : Framing.Parser UInt8 IoError μ) :
    Async ρ (MessageBuffer × Incoming) AuthError μ := fun _ s =>
  readLoop parse s.2.ending s.1 s.2.reads

end Codec
end PgClient
