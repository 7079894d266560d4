import PgClient.Transport.Negotiate

/-!
`BufferedTransport` with its read buffer as it is laid out: the valid bytes are those
between the read position and the read length, and reads compact, grow and refill it.
`Transport.BufferedTransport` is this transport with the layout forgotten.
-/

namespace PgClient.Transport.ByteBuffer

open Async
open Transport.BufferedTransport (defaultReadCapacity)

structure BufferedTransport (T : Type) where
  inner : T
  readBuf : Bytes
  readPos : Nat
  readLen : Nat
  writeBuf : Bytes

namespace BufferedTransport

variable {ρ T α : Type}

def defaultWriteCapacity : Nat := 8192

/-- The capacity of the write buffer is room set aside for it, which no call can see. -/
def withCapacity (inner : T) (readCap _writeCap : Nat) : BufferedTransport T where
  inner
  readBuf := List.replicate readCap 0
  readPos := 0
  readLen := 0
  writeBuf := []

def new (inner : T) : BufferedTransport T :=
  withCapacity inner defaultReadCapacity defaultWriteCapacity

/-- `read_buf[read_pos..read_len]`, the bytes not consumed yet. -/
def available (t : BufferedTransport T) : Bytes := (t.readBuf.take t.readLen).drop t.readPos

def compactRead (t : BufferedTransport T) : BufferedTransport T :=
  if 0 < t.readPos then
    { t with
      readBuf := t.available ++ t.readBuf.drop (t.readLen - t.readPos)
      readLen := t.readLen - t.readPos
      readPos := 0 }
  else t

def ensureReadCapacity (minRemaining : Nat) (t : BufferedTransport T) : BufferedTransport T :=
  if t.readBuf.length - t.readLen < minRemaining then
    let newLen := max (t.readBuf.length * 2) (t.readLen + minRemaining)
    { t with readBuf := t.readBuf ++ List.replicate (newLen - t.readBuf.length) 0 }
  else t

def compactFragmented (t : BufferedTransport T) : BufferedTransport T :=
  if t.readBuf.length / 2 < t.readPos then t.compactRead else t

/-- What the transport below wrote to `read_buf[read_len..]`. -/
def receive (data : Bytes) (t : BufferedTransport T) : BufferedTransport T :=
  { t with
    readBuf := t.readBuf.take t.readLen ++ data ++ t.readBuf.drop (t.readLen + data.length)
    readLen := t.readLen + data.length }

/-- A computation on the transport below. -/
def below (x : Async ρ T TransportError α) : Async ρ (BufferedTransport T) TransportError α :=
  fun r t => ((x r t.inner).1, { t with inner := (x r t.inner).2 })

theorem below_of_eq {x : Async ρ T TransportError α} {r : ρ} {t : BufferedTransport T}
    {outcome : Outcome TransportError α} {inner : T} (h : x r t.inner = (outcome, inner)) :
    below x r t = (outcome, { t with inner }) := by
  rw [below, h]

/-- The part of a read that asks the transport below; no bytes mean its end. -/
def refill (ops : AsyncTransport ρ T) (minRemaining : Nat) :
    Async ρ (BufferedTransport T) TransportError Bytes := do
  .modify fun t => t.compactRead.ensureReadCapacity minRemaining
  let t ← .get
  let data ← below (ops.read (t.readBuf.length - t.readLen))
  .modify (receive data)
  return data

/-- The next `n` bytes go to the caller's buffer, of which the first part is filled. -/
def copyOut (n : Nat) (s : Bytes × BufferedTransport T) : Bytes × BufferedTransport T :=
  (s.1 ++ s.2.available.take n, { s.2 with readPos := s.2.readPos + n })

/-- The state holds the part of the caller's buffer that is filled. -/
def read (ops : AsyncTransport ρ T) (bufLen : Nat) :
    Async ρ (Bytes × BufferedTransport T) TransportError Nat := do
  let s ← .get
  if s.2.readPos < s.2.readLen then
    let n := min bufLen s.2.available.length
    .modify (copyOut n)
    .modify (Prod.map id compactFragmented)
    return n
  else
    let data ← .onSnd (refill ops defaultReadCapacity)
    if data = [] then
      return 0
    else
      let s ← .get
      let toCopy := min bufLen s.2.available.length
      .modify (copyOut toCopy)
      return toCopy

/-- One round of the loop of `read_exact`. -/
def readExactRound (ops : AsyncTransport ρ T) (bufLen : Nat) :
    Async ρ (Bytes × BufferedTransport T) TransportError Unit := do
  let s ← .get
  if s.2.readPos < s.2.readLen then
    .modify (copyOut (min (bufLen - s.1.length) s.2.available.length))
  else
    let data ← .onSnd (refill ops (bufLen - s.1.length))
    .failIf (data = []) .unexpectedEof

def readExactLoop (ops : AsyncTransport ρ T) (bufLen : Nat) :
    Nat → Async ρ (Bytes × BufferedTransport T) TransportError Unit
  | 0 => wait
  | rounds + 1 => do
      let s ← .get
      .doIf (s.1.length < bufLen) do
        readExactRound ops bufLen
        readExactLoop ops bufLen rounds

/-- Each byte wanted takes a round to copy it and one to receive it at most. -/
def readExact (ops : AsyncTransport ρ T) (bufLen : Nat) :
    Async ρ (Bytes × BufferedTransport T) TransportError Unit := do
  readExactLoop ops bufLen (2 * bufLen + 1)
  .modify (Prod.map id compactFragmented)

def flushWrite (ops : AsyncTransport ρ T) : Async ρ (BufferedTransport T) TransportError Unit := do
  let t ← .get
  .doIf (t.writeBuf ≠ []) do
    below (ops.writeAll t.writeBuf)
    .modify fun t => { t with writeBuf := [] }

def writeAll (ops : AsyncTransport ρ T) (buf : Bytes) :
    Async ρ (BufferedTransport T) TransportError Unit := do
  .modify fun t => { t with writeBuf := t.writeBuf ++ buf }
  let t ← .get
  .doIf (Transport.BufferedTransport.writeBufferFlushThreshold ≤ t.writeBuf.length) (flushWrite ops)

def write (ops : AsyncTransport ρ T) (buf : Bytes) :
    Async ρ (BufferedTransport T) TransportError Nat := do
  writeAll ops buf
  return buf.length

def flush (ops : AsyncTransport ρ T) : Async ρ (BufferedTransport T) TransportError Unit := do
  flushWrite ops
  below ops.flush

def shutdown (ops : AsyncTransport ρ T) : Async ρ (BufferedTransport T) TransportError Unit := do
  flushWrite ops
  below ops.shutdown

end BufferedTransport

/-- What a caller has received in its buffers and what it has given to be written. -/
structure Caller where
  delivered : Bytes
  written : Bytes

inductive Call where
  | read (bufLen : Nat)
  | readExact (bufLen : Nat)
  | write (buf : Bytes)
  | writeAll (buf : Bytes)
  | flush
  | shutdown

namespace Call

variable {ρ T α : Type}

/-- A read into a fresh buffer; what it fills of it is delivered, also when it fails. -/
def reading (x : Async ρ (Bytes × BufferedTransport T) TransportError α) :
    Async ρ (Caller × BufferedTransport T) TransportError Unit := fun r s =>
  match x r ([], s.2) with
  | (outcome, (filled, t)) =>
      (outcome.map fun _ => (), ({ s.1 with delivered := s.1.delivered ++ filled }, t))

def writing (buf : Bytes) (x : Async ρ (BufferedTransport T) TransportError α) :
    Async ρ (Caller × BufferedTransport T) TransportError Unit := do
  .modify fun s => ({ s.1 with written := s.1.written ++ buf }, s.2)
  let _ ← .onSnd x

def run (ops : AsyncTransport ρ T) :
    Call → Async ρ (Caller × BufferedTransport T) TransportError Unit
  | .read bufLen => reading (BufferedTransport.read ops bufLen)
  | .readExact bufLen => reading (BufferedTransport.readExact ops bufLen)
  | .write buf => writing buf (BufferedTransport.write ops buf)
  | .writeAll buf => writing buf (BufferedTransport.writeAll ops buf)
  | .flush => .onSnd (BufferedTransport.flush ops)
  | .shutdown => .onSnd (BufferedTransport.shutdown ops)

/-- Calls one after the other, whether they fail or not; one that waits is the last. -/
def runAll (ops : AsyncTransport ρ T) :
    List Call → Async ρ (Caller × BufferedTransport T) TransportError Unit
  | [] => pure ()
  | call :: calls => do
      let _ ← .attempt (run ops call)
      runAll ops calls

end Call

end PgClient.Transport.ByteBuffer
