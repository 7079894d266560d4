import PgClient.Connection.Exchange
import PgClient.Query.Cursor
import PgClient.Query.Pipeline
import PgClient.Copy.Stream

/-!
Each read loop keeps to its reply: it leaves the wire alone until it meets the
`ReadyForQuery`, and tells by what it returns how far it has come.
-/

namespace PgClient

open Connection

namespace Connection

def ReplyEnd.progress : ReplyEnd → Progress
  | .ready => .ended
  | .serverError body => .failed body

def Preamble.progress : Preamble → Progress
  | .columns _ => .inside
  | .serverError body => .failed body

def CopyStart.progress : CopyStart → Progress
  | .serverError body => .failed body
  | .response _ _ | .unexpected => .inside

end Connection

def RowStream.Event.progress : RowStream.Event → Progress
  | .row _ => .inside
  | .finished => .ended
  | .serverError body => .failed body

def CopyOut.Event.progress : CopyOut.Event → Progress
  | .chunk _ => .inside
  | .finished => .ended
  | .serverError body => .failed body

/-- The state that most loops set at the end of a reply. -/
def toIdle : ConnectionState → ConnectionState := fun _ => .idle

theorem ioResult_error {α : Type} {result : Except IoError α} {e : PgError}
    (h : ioResult result = .error e) : result.isOk = false ∧ e.endsReply = false := by
  cases result with
  | ok a => cases h
  | error x =>
      cases h
      exact ⟨rfl, rfl⟩

theorem orderly_readUntilReady : Orderly (fun _ => .ended) toIdle readUntilReadyBody := by
  apply Orderly.asyncFirst
  intro s message
  cases message with
  | readyForQuery status => exact ⟨status, rfl, rfl, rfl, rfl, rfl⟩
  | _ => exact SameWire.refl _

theorem orderly_batch : Orderly ReplyEnd.progress toIdle batchBody := by
  apply Orderly.asyncFirst
  intro (batch, conn) message
  cases message with
  | rowDescription fields =>
      cases fields with
      | ok columns => exact SameWire.refl _
      | error e => exact ⟨SameWire.refl _, rfl, rfl⟩
  | dataRow values =>
      cases values with
      | ok values => exact SameWire.refl _
      | error e => exact ⟨SameWire.refl _, rfl, rfl⟩
  | readyForQuery status => exact ⟨status, rfl, rfl, rfl, rfl, rfl⟩
  | errorResponse body => exact ⟨rfl, SameWire.refl _⟩
  | _ => exact SameWire.refl _

theorem orderly_extended : Orderly ReplyEnd.progress id extendedBody := by
  apply Orderly.asyncFirst
  intro (reply, conn) message
  cases message with
  | rowDescription fields =>
      cases fields with
      | ok columns => exact SameWire.refl _
      | error e => exact ⟨SameWire.refl _, rfl, rfl⟩
  | dataRow values =>
      cases values with
      | ok values => exact SameWire.refl _
      | error e => exact ⟨SameWire.refl _, rfl, rfl⟩
  | readyForQuery status => exact ⟨status, rfl, rfl, rfl, rfl, rfl⟩
  | errorResponse body => exact ⟨rfl, SameWire.refl _⟩
  | _ => exact SameWire.refl _

theorem orderly_preamble : Orderly Preamble.progress id preambleBody := by
  apply Orderly.asyncFirst
  intro s message
  cases message with
  | rowDescription fields =>
      cases fields with
      | ok columns => exact SameWire.refl _
      | error e => exact ⟨SameWire.refl _, rfl, rfl⟩
  | readyForQuery status => exact ⟨rfl, rfl, rfl⟩
  | errorResponse body => exact ⟨rfl, SameWire.refl _⟩
  | _ => exact SameWire.refl _

theorem orderly_prepare (typeFromOid : Oid → Option Oid) :
    Orderly ReplyEnd.progress toIdle (prepareBody typeFromOid) := by
  apply Orderly.asyncFirst
  intro (prep, conn) message
  cases message with
  | parameterDescription types =>
      cases types with
      | ok types => exact SameWire.refl _
      | error e => exact ⟨SameWire.refl _, rfl, rfl⟩
  | rowDescription fields =>
      cases fields with
      | ok columns => exact SameWire.refl _
      | error e => exact ⟨SameWire.refl _, rfl, rfl⟩
  | readyForQuery status => exact ⟨status, rfl, rfl, rfl, rfl, rfl⟩
  | errorResponse body => exact ⟨rfl, SameWire.refl _⟩
  | _ => exact SameWire.refl _

theorem orderly_complete : Orderly ReplyEnd.progress toIdle completeBody := by
  apply Orderly.asyncFirst
  intro s message
  cases message with
  | readyForQuery status => exact ⟨status, rfl, rfl, rfl, rfl, rfl⟩
  | errorResponse body => exact ⟨rfl, SameWire.refl _⟩
  | _ => exact SameWire.refl _

theorem orderly_cursorOpen : Orderly ReplyEnd.progress toIdle cursorOpenBody := by
  apply Orderly.asyncFirst
  intro (columns, conn) message
  cases message with
  | rowDescription fields =>
      cases fields with
      | ok columns => exact SameWire.refl _
      | error e => exact ⟨SameWire.refl _, rfl, rfl⟩
  | readyForQuery status => exact ⟨status, rfl, rfl, rfl, rfl, rfl⟩
  | errorResponse body => exact ⟨rfl, SameWire.refl _⟩
  | _ => exact SameWire.refl _

theorem orderly_fetch : Orderly ReplyEnd.progress toIdle Cursor.fetchBody := by
  apply Orderly.asyncFirst
  intro ((cursor, rows), conn) message
  cases message with
  | rowDescription fields =>
      cases fields with
      | ok columns => exact SameWire.refl _
      | error e => exact ⟨SameWire.refl _, rfl, rfl⟩
  | dataRow values =>
      cases values with
      | ok values => exact SameWire.refl _
      | error e => exact ⟨SameWire.refl _, rfl, rfl⟩
  | readyForQuery status => exact ⟨status, rfl, rfl, rfl, rfl, rfl⟩
  | errorResponse body => exact ⟨rfl, SameWire.refl _⟩
  | _ => exact SameWire.refl _

theorem orderly_cursorBatch : Orderly ReplyEnd.progress toIdle CursorStream.batchBody := by
  apply Orderly.asyncFirst
  intro ((stream, batch), conn) message
  cases message with
  | rowDescription fields =>
      cases fields with
      | ok columns => exact SameWire.refl _
      | error e => exact ⟨SameWire.refl _, rfl, rfl⟩
  | dataRow values =>
      cases values with
      | ok values => exact SameWire.refl _
      | error e => exact ⟨SameWire.refl _, rfl, rfl⟩
  | readyForQuery status => exact ⟨status, rfl, rfl, rfl, rfl, rfl⟩
  | errorResponse body => exact ⟨rfl, SameWire.refl _⟩
  | _ => exact SameWire.refl _

theorem orderly_pipeline : Orderly ReplyEnd.progress toIdle Pipeline.readBody := by
  apply Orderly.asyncFirst
  intro (read, conn) message
  cases message with
  | rowDescription fields =>
      cases fields with
      | ok columns => exact SameWire.refl _
      | error e => exact ⟨SameWire.refl _, rfl, rfl⟩
  | dataRow values =>
      cases values with
      | ok values => exact SameWire.refl _
      | error e => exact ⟨SameWire.refl _, rfl, rfl⟩
  | readyForQuery status => exact ⟨status, rfl, rfl, rfl, rfl, rfl⟩
  | errorResponse body => exact ⟨rfl, SameWire.refl _⟩
  | _ => exact SameWire.refl _

theorem orderly_copyStart {response : BackendMessage → Option CopyResponseBody}
    (hResponse : ∀ message body, response message = some body →
      message = .copyInResponse body ∨ message = .copyOutResponse body) :
    Orderly CopyStart.progress id (copyStartBody response) := by
  apply Orderly.asyncFirst
  intro s message
  cases hSome : response message with
  | none =>
      simp only [hSome]
      cases message with
      | errorResponse body => exact ⟨rfl, SameWire.refl _⟩
      | _ => exact SameWire.refl _
  | some body =>
      cases hFormats : ioResult body.columnFormats with
      | ok columnFormats =>
          simp only [hSome, hFormats]
          exact SameWire.refl _
      | error e =>
          simp only [hSome, hFormats]
          obtain ⟨hMalformed, hError⟩ := ioResult_error hFormats
          refine ⟨SameWire.refl _, ?_, hError⟩
          obtain rfl | rfl := hResponse message body hSome <;> exact hMalformed

theorem copyInResponse_eq (message : BackendMessage) (body : CopyResponseBody)
    (h : copyInResponse message = some body) :
    message = .copyInResponse body ∨ message = .copyOutResponse body := by
  cases message <;> cases h
  exact .inl rfl

theorem copyOutResponse_eq (message : BackendMessage) (body : CopyResponseBody)
    (h : copyOutResponse message = some body) :
    message = .copyInResponse body ∨ message = .copyOutResponse body := by
  cases message <;> cases h
  exact .inr rfl

theorem orderly_finish : Orderly ReplyEnd.progress toIdle CopyIn.finishBody := by
  apply Orderly.asyncFirst
  intro (rows, conn) message
  cases message with
  | readyForQuery status => exact ⟨status, rfl, rfl, rfl, rfl, rfl⟩
  | errorResponse body => exact ⟨rfl, SameWire.refl _⟩
  | _ => exact SameWire.refl _

theorem orderly_copyRead : Orderly CopyOut.Event.progress toIdle CopyOut.readBody := by
  apply Orderly.asyncFirst
  intro (copy, conn) message
  cases message with
  | readyForQuery status => exact ⟨status, rfl, rfl, rfl, rfl, rfl⟩
  | errorResponse body => exact ⟨rfl, SameWire.refl _⟩
  | _ => exact SameWire.refl _

theorem orderly_next : Orderly RowStream.Event.progress toIdle RowStream.nextBody := by
  apply Orderly.asyncFirst
  intro (⟨columns, state⟩, conn) message
  cases message with
  | rowDescription fields =>
      cases state with
      | waitingForDescription =>
          cases fields with
          | ok columns => exact SameWire.refl _
          | error e => exact ⟨SameWire.refl _, rfl, rfl⟩
      | _ => exact SameWire.refl _
  | dataRow values =>
      cases state with
      | receivingRows =>
          cases values with
          | ok values => exact SameWire.refl _
          | error e => exact ⟨SameWire.refl _, rfl, rfl⟩
      | _ => exact SameWire.refl _
  | readyForQuery status =>
      cases state with
      | finishing tag => exact ⟨status, rfl, rfl, rfl, rfl, rfl⟩
      | _ => exact SameWire.refl _
  | commandComplete tag => cases state <;> exact SameWire.refl _
  | emptyQueryResponse => cases state <;> exact SameWire.refl _
  | errorResponse body => cases state <;> exact ⟨rfl, SameWire.refl _⟩
  | _ => cases state <;> exact SameWire.refl _

end PgClient
