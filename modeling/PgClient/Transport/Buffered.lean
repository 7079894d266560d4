import Mathlib.Algebra.GroupWithZero.Nat
import PgClient.Error

/-!
The buffered transport at the level of messages. Written messages wait in the write
buffer until it is flushed; what the server has sent waits in the inbox. The network
is everything the client does not decide: how the protocol library encodes messages
and which types it knows, what the server answers, and when writes fail.
-/

namespace PgClient

/-- What the client can make of what was sent: a message, or a failure to read. -/
abbrev Entry := Except ReadError BackendMessage

/-- What the server sends because of one message, and how the stream ends if the
server closes it then. -/
structure Answer where
  messages : List Entry
  closes : Option ReadError

/-- The messages delivered so far stand newest first. Of the encoding functions of the
protocol library some cannot fail. -/
structure Network where
  frontend : FrontendMessage → Except IoError Bytes
  frontendTotal : FrontendMessage → Bytes
  typeFromOid : Oid → Option Oid
  answer : List FrontendMessage → FrontendMessage → Answer
  writeError : List FrontendMessage → Option TransportError
  flushError : List FrontendMessage → Option TransportError

/-- `MessageEncoder::encode`. -/
def Network.encode (net : Network) (message : FrontendMessage) : Except ProtocolError Bytes :=
  match message with
  | .sslRequest | .cancelRequest _ _ | .sync | .flush | .copyDone | .terminate =>
      .ok (net.frontendTotal message)
  | .bind _ _ _ _ _ =>
      (net.frontend message).mapError fun _ =>
        .io { kind := .invalidInput, message := "bind encoding failed" }
  | _ => (net.frontend message).mapError .io

structure Frame where
  message : FrontendMessage
  bytes : Bytes
deriving DecidableEq, Repr

structure Transport where
  writeBuf : List Frame
  history : List FrontendMessage
  inbox : List Entry
  ending : Option ReadError
deriving DecidableEq, Repr

namespace Transport

def writeBufferFlushThreshold : Nat := 8192

def new : Transport := { writeBuf := [], history := [], inbox := [], ending := none }

def bufferedLen (t : Transport) : Nat := (t.writeBuf.map fun frame => frame.bytes.length).sum

/-- One message reaches the server, which answers unless it has closed the stream. -/
def deliver (net : Network) (t : Transport) (message : FrontendMessage) : Transport :=
  match t.ending with
  | some _ => { t with history := message :: t.history }
  | none =>
      { t with
        history := message :: t.history
        inbox := t.inbox ++ (net.answer t.history message).messages
        ending := (net.answer t.history message).closes }

def deliverAll (net : Network) (t : Transport) (messages : List FrontendMessage) : Transport :=
  messages.foldl (deliver net) t

def push (t : Transport) (frame : Frame) : Transport :=
  { t with writeBuf := t.writeBuf ++ [frame] }

/-- A failed write delivers nothing and keeps the buffer. -/
def flushWrite (net : Network) (t : Transport) : Except TransportError Transport :=
  if t.writeBuf = [] then .ok t
  else
    match net.writeError t.history with
    | some e => .error e
    | none => .ok (deliverAll net { t with writeBuf := [] } (t.writeBuf.map Frame.message))

@[simp] theorem deliver_writeBuf (net : Network) (t : Transport) (message : FrontendMessage) :
    (t.deliver net message).writeBuf = t.writeBuf := by
  simp only [deliver]
  split <;> rfl

@[simp] theorem deliver_history (net : Network) (t : Transport) (message : FrontendMessage) :
    (t.deliver net message).history = message :: t.history := by
  simp only [deliver]
  split <;> rfl

@[simp] theorem deliverAll_nil (net : Network) (t : Transport) : t.deliverAll net [] = t := rfl

@[simp] theorem deliverAll_cons (net : Network) (t : Transport) (message : FrontendMessage)
    (messages : List FrontendMessage) :
    t.deliverAll net (message :: messages) = (t.deliver net message).deliverAll net messages := rfl

theorem deliverAll_append (net : Network) (t : Transport) (first later : List FrontendMessage) :
    t.deliverAll net (first ++ later) = (t.deliverAll net first).deliverAll net later := by
  simp [deliverAll, List.foldl_append]

@[simp] theorem deliverAll_writeBuf (net : Network) (t : Transport)
    (messages : List FrontendMessage) : (t.deliverAll net messages).writeBuf = t.writeBuf := by
  induction messages generalizing t with
  | nil => rfl
  | cons message messages ih => rw [deliverAll_cons, ih, deliver_writeBuf]

theorem deliverAll_history (net : Network) (t : Transport) (messages : List FrontendMessage) :
    (t.deliverAll net messages).history = messages.reverse ++ t.history := by
  induction messages generalizing t with
  | nil => rfl
  | cons message messages ih => rw [deliverAll_cons, ih, deliver_history]; simp

end Transport
end PgClient
