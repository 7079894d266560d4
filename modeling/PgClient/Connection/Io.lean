import PgClient.Library.Drive
import PgClient.Connection.State

/-!
Sending and reading on a connection: the codec over the buffered transport, the read
loops, and the steps that bring the protocol back to a message boundary.
-/

namespace PgClient
namespace Connection

open Drive

/-- `write_all` of the buffered transport, with its flush at the threshold. -/
def writeAll (frame : Frame) : Client Unit := fun net conn =>
  let transport := conn.transport.push frame
  if Transport.writeBufferFlushThreshold ≤ transport.bufferedLen then
    match transport.flushWrite net with
    | .ok transport => (.ok (), { conn with transport })
    | .error e => (.err (.transport e), { conn with transport })
  else (.ok (), { conn with transport })

def flush : Client Unit := fun net conn =>
  match conn.transport.flushWrite net with
  | .error e => (.err (.transport e), conn)
  | .ok transport =>
      match net.flushError transport.history with
      | some e => (.err (.transport e), { conn with transport })
      | none => (.ok (), { conn with transport })

def encode (message : FrontendMessage) : Client Frame := fun net conn =>
  match net.encode message with
  | .ok bytes => (.ok { message, bytes }, conn)
  | .error e => (.err (AuthError.protocol e).toPgError, conn)

def encodeAndWrite (message : FrontendMessage) : Client Unit := do
  let frame ← encode message
  writeAll frame

def send (message : FrontendMessage) : Client Unit := do
  encodeAndWrite message
  flush

/-- Several messages written without a flush between them. -/
def writeBatch : List FrontendMessage → Client Unit
  | [] => pure ()
  | message :: messages => do
      encodeAndWrite message
      writeBatch messages

def sendBatch (messages : List FrontendMessage) : Client Unit := do
  writeBatch messages
  flush

def setInbox (conn : Connection) (inbox : List Entry) : Connection :=
  { conn with transport.inbox := inbox }

variable {L β : Type}

/-- A read that fails leaves the loop with its error. -/
def readStep (body : L × Connection → BackendMessage → Step (L × Connection) (Except PgError β))
    (s : L × Connection) : Entry → Step (L × Connection) (Except PgError β)
  | .error e => .exit (.error e.toPgError) s
  | .ok message => body s message

/-- A loop that reads one message in each round. It waits when the server has sent
nothing more and fails when the stream has ended. -/
def messageLoop
    (body : L × Connection → BackendMessage → Step (L × Connection) (Except PgError β)) :
    Owner L β := fun _ s =>
  match drive (readStep body) s s.2.transport.inbox with
  | .done result (l, conn) rest => (Outcome.ofExcept result, (l, conn.setInbox rest))
  | .waiting (l, conn) =>
      match s.2.transport.ending with
      | some e => (.err e.toPgError, (l, conn.setInbox []))
      | none => (.pending, (l, conn.setInbox []))

/-- Asynchronous messages are handled before the loop sees a message. -/
def asyncFirst
    (body : L × Connection → BackendMessage → Step (L × Connection) (Except PgError β)) :
    L × Connection → BackendMessage → Step (L × Connection) (Except PgError β) :=
  fun s message =>
    match s.2.handleAsyncMessage message with
    | some conn => .next (s.1, conn)
    | none => body s message

def readMessageBody :
    Unit × Connection → BackendMessage → Step (Unit × Connection) (Except PgError BackendMessage) :=
  fun s message => .exit (.ok message) s

def readMessage : Client BackendMessage := .withLocal () (messageLoop readMessageBody)

def readUntilReadyBody :
    Unit × Connection → BackendMessage → Step (Unit × Connection) (Except PgError Unit) :=
  asyncFirst fun s message =>
    match message with
    | .readyForQuery status =>
        let conn := s.2.setReady status
        .exit (.ok ()) (s.1, { conn with
          sessionState := conn.sessionState.setInTransaction (conn.transactionStatus ≠ .idle)
          state := .idle })
    | _ => .next s

/-- Read messages until `ReadyForQuery`, discarding everything else. -/
def readUntilReady : Client Unit := .withLocal () (messageLoop readUntilReadyBody)

def ioResult {α : Type} : Except IoError α → Except PgError α
  | .ok a => .ok a
  | .error e => .error (.io e)

/-- What the read loops do with an `ErrorResponse`: skip to the end of the reply and
keep the server's error. -/
def drainServerError (body : ErrorBody) : Client PgServerError := do
  let serverErr ← .lift (ioResult (PgServerError.fromBody body))
  readUntilReady
  .modify fun conn => conn.setState .idle
  return serverErr

def transition (newState : ConnectionState) : Client Unit := fun _ conn =>
  if conn.state.permits newState then (.ok (), conn.setState newState)
  else
    (.err (.invalidState ("invalid state transition from " ++ conn.state.debug ++ " to " ++
      newState.debug)), conn)

def recover : Client Unit := do
  let conn ← .get
  .doIf conn.needsRecovery do
    readUntilReady
    .modify fun conn => { conn with needsRecovery := false }

/-- Shutting the transport down flushes what is buffered first. -/
def shutdown : Client Unit := fun net conn =>
  match conn.transport.flushWrite net with
  | .error e => (.err (.transport e), conn)
  | .ok transport => (.ok (), { conn with transport })

def close : Client Unit := do
  let conn ← .get
  .doIf (!conn.state.isClosed) do
    .modify fun conn => conn.setState .closing
    let _ ← (send .terminate).attempt
    let _ ← shutdown.attempt
    .modify fun conn => conn.setState .closed

def abort : Client Unit := do
  .modify fun conn => conn.setState .closed
  let _ ← shutdown.attempt

/-- Only the blocking test transport can write from a destructor. -/
def trySyncWriteAndFlush (_ : Connection) (_ : Bytes) : Bool := false

/-- Only the blocking test transport can read from a destructor. -/
def trySyncDrainUntilReady (_ : Connection) : Bool := false

def cancelCopyInSync (net : Network) (reason : String) (conn : Connection) : Connection :=
  match net.encode (.copyFail reason) with
  | .error _ => conn.setState .closed
  | .ok data =>
      if conn.trySyncWriteAndFlush data then conn.setState .idle else conn.setState .closed

def drainCopyOutSync (conn : Connection) : Connection :=
  if conn.trySyncDrainUntilReady then conn.setState .idle else conn.setState .closed

end Connection
end PgClient
