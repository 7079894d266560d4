import PgClient.Copy.Csv
import PgClient.Query.Simple

/-!
COPY transfers: `CopyIn` sends data to the server and `CopyOut` reads it, in the
simple query protocol.
-/

namespace PgClient

open Drive

/-- The UTF-8 bytes of a line. -/
def lineBytes (line : String) : Bytes := line.toUTF8.toList

structure CopyIn where
  format : UInt8
  columnFormats : List UInt16
  done : Bool
deriving DecidableEq, Repr

structure CopyOut where
  format : UInt8
  columnFormats : List UInt16
  done : Bool
deriving DecidableEq, Repr

namespace Connection

/-- Why the read loops of `copy_in` and `copy_out` stop. -/
inductive CopyStart where
  | response (format : UInt8) (columnFormats : List UInt16)
  | serverError (body : ErrorBody)
  | unexpected
deriving DecidableEq, Repr

/-- The loop leaves at the first message that is not asynchronous. -/
def copyStartBody (response : BackendMessage → Option CopyResponseBody) :
    Unit × Connection → BackendMessage → Step (Unit × Connection) (Except PgError CopyStart) :=
  asyncFirst fun s message =>
    match response message with
    | some body =>
        match ioResult body.columnFormats with
        | .ok columnFormats => .exit (.ok (.response body.format columnFormats)) s
        | .error e => .exit (.error e) s
    | none =>
        match message with
        | .errorResponse body => .exit (.ok (.serverError body)) s
        | _ => .exit (.ok .unexpected) s

/-- The parts that `copy_in` and `copy_out` share. -/
def readCopyStart (response : BackendMessage → Option CopyResponseBody) (violation : String) :
    Client (UInt8 × List UInt16) := do
  match ← Async.withLocal () (messageLoop (copyStartBody response)) with
  | .response format columnFormats => return (format, columnFormats)
  | .serverError body =>
      let serverErr ← drainServerError body
      .fail (.server serverErr)
  | .unexpected =>
      readUntilReady
      .modify fun conn => conn.setState .idle
      .fail (.protocol (.protocolViolation violation))

def copyStart (state : ConnectionState) (response : BackendMessage → Option CopyResponseBody)
    (violation : String) (sql : String) : Client (UInt8 × List UInt16) := do
  transition state
  send (.query sql)
  readCopyStart response violation

def copyInResponse : BackendMessage → Option CopyResponseBody
  | .copyInResponse body => some body
  | _ => none

def copyOutResponse : BackendMessage → Option CopyResponseBody
  | .copyOutResponse body => some body
  | _ => none

def expectedCopyIn : String := "expected CopyInResponse after COPY query"

def expectedCopyOut : String := "expected CopyOutResponse after COPY query"

def copyIn (sql : String) : Client CopyIn := do
  let (format, columnFormats) ← copyStart .copyIn copyInResponse expectedCopyIn sql
  return { format, columnFormats, done := false }

def copyOut (sql : String) : Client CopyOut := do
  let (format, columnFormats) ← copyStart .copyOut copyOutResponse expectedCopyOut sql
  return { format, columnFormats, done := false }

end Connection

namespace CopyIn

def write (data : Bytes) : Owner CopyIn Unit := .onSnd (Connection.send (.copyData data))

def writeRow (columns : List String) : Owner CopyIn Unit :=
  write (lineBytes ("\t".intercalate columns ++ "\n"))

def writeCsvRow (columns : List String) (delimiter quote : Char) : Owner CopyIn Unit :=
  write (lineBytes (Copy.csvRow columns delimiter quote))

def writeCsvRowWithNull (columns : List (Option String)) (delimiter quote : Char)
    (nullString : String) : Owner CopyIn Unit :=
  write (lineBytes (Copy.csvRowWithNull columns delimiter quote nullString))

/-- The read loop of `finish`, with the count of rows as its local variable. -/
def finishBody : Nat × Connection → BackendMessage →
    Step (Nat × Connection) (Except PgError Connection.ReplyEnd) :=
  Connection.asyncFirst fun (rows, conn) message =>
    match message with
    | .commandComplete tag => .next ((CommandTag.ofBody tag).rowsAffected.getD 0, conn)
    | .readyForQuery status =>
        .exit (.ok .ready) (rows, (conn.setReady status).setState .idle)
    | .errorResponse body => .exit (.ok (.serverError body)) (rows, conn)
    | _ => .next (rows, conn)

def finishLoop : Client (Connection.ReplyEnd × Nat) :=
  .withLocal 0 do
    let ending ← Connection.messageLoop finishBody
    let (rows, _) ← .get
    return (ending, rows)

def setDone : Owner CopyIn Unit := .modify fun (copy, conn) => ({ copy with done := true }, conn)

def finish : Owner CopyIn Nat := do
  .onSnd (Connection.send .copyDone)
  match ← .onSnd finishLoop with
  | (.ready, rows) =>
      setDone
      return rows
  | (.serverError body, _) =>
      let serverErr ← .onSnd (Connection.drainServerError body)
      setDone
      .fail (.server serverErr)

def cancel (reason : String) : Owner CopyIn Unit := do
  .onSnd (Connection.send (.copyFail reason))
  .onSnd Connection.readUntilReady
  setDone
  .modify fun (copy, conn) => (copy, conn.setState .idle)

/-- `Drop for CopyIn`. -/
def drop (net : Network) (copy : CopyIn) (conn : Connection) : Connection :=
  if copy.done then conn else conn.cancelCopyInSync net "CopyIn dropped without finish"

end CopyIn

namespace CopyOut

/-- Why the read loop of `read_next` stops. -/
inductive Event where
  | chunk (data : Bytes)
  | finished
  | serverError (body : ErrorBody)
deriving DecidableEq, Repr

def readBody : CopyOut × Connection → BackendMessage →
    Step (CopyOut × Connection) (Except PgError Event) :=
  Connection.asyncFirst fun (copy, conn) message =>
    match message with
    | .copyData data => .exit (.ok (.chunk data)) (copy, conn)
    | .readyForQuery status =>
        .exit (.ok .finished) ({ copy with done := true }, (conn.setReady status).setState .idle)
    | .errorResponse body => .exit (.ok (.serverError body)) (copy, conn)
    | _ => .next (copy, conn)

def readNext : Owner CopyOut (Option Bytes) := do
  match ← Connection.messageLoop readBody with
  | .chunk data => return some data
  | .finished => return none
  | .serverError body =>
      let serverErr ← .onSnd (Connection.drainServerError body)
      .modify fun (copy, conn) => ({ copy with done := true }, conn)
      .fail (.server serverErr)

/-- A loop over the chunks. Every chunk takes a message from the inbox. -/
def chunkLoop {α : Type} (f : α → Bytes → Except PgError α) : Nat → α → Owner CopyOut α
  | 0, _ => .wait
  | fuel + 1, a => do
      match ← readNext with
      | some chunk =>
          let a ← .lift (f a chunk)
          chunkLoop f fuel a
      | none => return a

/-- What `read_all` and the `for_each` methods share. -/
def whileNext {α : Type} (f : α → Bytes → Except PgError α) (start : α) : Owner CopyOut α := do
  let (_, conn) ← .get
  chunkLoop f (conn.transport.inbox.length + 1) start

def readAll : Owner CopyOut Bytes := whileNext (fun result chunk => .ok (result ++ chunk)) []

/-- The callback may depend on the chunks it has been called with, which are returned. -/
def forEach (f : List Bytes → Bytes → Except PgError Unit) : Owner CopyOut (List Bytes) :=
  whileNext (fun seen chunk => (f seen chunk).map fun _ => seen ++ [chunk]) []

/-- `Drop for CopyOut`. -/
def drop (copy : CopyOut) (conn : Connection) : Connection :=
  if copy.done then conn else conn.drainCopyOutSync

end CopyOut
end PgClient
