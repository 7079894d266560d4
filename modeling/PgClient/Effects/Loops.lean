import PgClient.Pairing.Loops
import PgClient.Replies.Statement

/-!
The few things that any code does to a connection, one at a time: it reads what is unread,
takes a status from a `ReadyForQuery`, sends, and changes fields that are no part of either.
What all of these keep, every operation keeps.
-/

namespace PgClient

open Drive Async Connection

def BackendMessage.isError : BackendMessage → Bool
  | .errorResponse _ => true
  | _ => false

def Entry.isError : Entry → Bool
  | .ok message => message.isError
  | .error _ => false

namespace Connection

/-- The tracked flag says of the transaction what the status says. -/
def Agreeing (conn : Connection) : Prop :=
  conn.sessionState.inTransaction = decide (conn.transactionStatus ≠ .idle)

/-- The parts of a connection that tell of the wire and of the transaction. -/
structure SameReports (conn conn' : Connection) : Prop where
  transport : conn'.transport = conn.transport
  transactionStatus : conn'.transactionStatus = conn.transactionStatus
  inTransaction : conn'.sessionState.inTransaction = conn.sessionState.inTransaction

theorem SameReports.of_core {conn conn' : Connection} (h : conn'.core = conn.core) :
    SameReports conn conn' :=
  ⟨congrArg Core.transport h, congrArg Core.transactionStatus h,
    congrArg (fun core => core.sessionState.inTransaction) h⟩

/-- A property that nothing a connection goes through can end, and a weaker one that holds
from an error of the server up to the end of its reply. -/
structure Closed (net : Network) (calm alarmed : Connection → Prop) : Prop where
  alarm : ∀ conn, calm conn → alarmed conn
  frame : ∀ conn conn', SameReports conn conn' → calm conn → calm conn'
  frameAlarmed : ∀ conn conn', SameReports conn conn' → alarmed conn → alarmed conn'
  push : ∀ conn frame, calm conn → calm { conn with transport := conn.transport.push frame }
  flush : ∀ conn t, conn.transport.flushWrite net = .ok t → calm conn →
    calm { conn with transport := t }
  read : ∀ conn entry rest, conn.transport.inbox = entry :: rest → entry.isError = false →
    calm conn → calm (conn.setInbox rest)
  readAlarmed : ∀ conn entry rest, conn.transport.inbox = entry :: rest → entry.isReady = false →
    alarmed conn → alarmed (conn.setInbox rest)
  ready : ∀ conn conn' status rest, conn.transport.inbox = .ok (.readyForQuery status) :: rest →
    conn'.transport = { conn.transport with inbox := rest } →
    conn'.transactionStatus = .ofReady status →
    conn'.sessionState.inTransaction = conn.sessionState.inTransaction → calm conn → calm conn'
  skipped : ∀ conn conn' status rest, conn.transport.inbox = .ok (.readyForQuery status) :: rest →
    conn'.transport = { conn.transport with inbox := rest } →
    conn'.transactionStatus = .ofReady status → Agreeing conn' → alarmed conn → calm conn'

/-- What a loop may make of the connection at one message. -/
inductive Took (conn : Connection) (message : BackendMessage) (conn' : Connection) : Prop where
  | same (hSame : SameReports conn conn')
  | ready (status : UInt8) (hMessage : message = .readyForQuery status)
      (hTransport : conn'.transport = conn.transport)
      (hStatus : conn'.transactionStatus = .ofReady status)
      (hFlag : conn'.sessionState.inTransaction = conn.sessionState.inTransaction)

theorem took_self (conn : Connection) (message : BackendMessage) : Took conn message conn :=
  .same ⟨rfl, rfl, rfl⟩

section Bodies

variable {L β : Type}

/-- One message in a loop that leaves at an error of the server and tells so. -/
def TameStep (progress : β → Progress) (conn : Connection) (message : BackendMessage) :
    Step (L × Connection) (Except PgError β) → Prop
  | .next s' => Took conn message s'.2 ∧ message.isError = false
  | .exit (.error _) s' => Took conn message s'.2
  | .exit (.ok b) s' => Took conn message s'.2 ∧
      match progress b with
      | .failed _ => True
      | .inside | .ended => message.isError = false

def Tame (progress : β → Progress)
    (body : L × Connection → BackendMessage → Step (L × Connection) (Except PgError β)) : Prop :=
  ∀ s message, TameStep progress s.2 message (body s message)

variable {progress : β → Progress}
  {body : L × Connection → BackendMessage → Step (L × Connection) (Except PgError β)}

theorem Tame.asyncFirst (h : Tame progress body) : Tame progress (asyncFirst body) := by
  intro s message
  simp only [Connection.asyncFirst]
  cases hAsync : s.2.handleAsyncMessage message with
  | some conn =>
      refine ⟨.same (.of_core (core_of_handleAsyncMessage hAsync)), ?_⟩
      cases message with
      | errorResponse body => cases hAsync
      | _ => rfl
  | none => exact h s message

end Bodies

theorem tame_batch : Tame ReplyEnd.progress batchBody := by
  apply Tame.asyncFirst
  intro (batch, conn) message
  cases message with
  | rowDescription fields =>
      cases fields with
      | ok columns => exact ⟨took_self _ _, rfl⟩
      | error e => exact took_self _ _
  | dataRow values =>
      cases values with
      | ok values => exact ⟨took_self _ _, rfl⟩
      | error e => exact took_self _ _
  | readyForQuery status => exact ⟨.ready status rfl rfl rfl rfl, rfl⟩
  | errorResponse body => exact ⟨took_self _ _, trivial⟩
  | _ => exact ⟨took_self _ _, rfl⟩

theorem tame_extended : Tame ReplyEnd.progress extendedBody := by
  apply Tame.asyncFirst
  intro (reply, conn) message
  cases message with
  | rowDescription fields =>
      cases fields with
      | ok columns => exact ⟨took_self _ _, rfl⟩
      | error e => exact took_self _ _
  | dataRow values =>
      cases values with
      | ok values => exact ⟨took_self _ _, rfl⟩
      | error e => exact took_self _ _
  | readyForQuery status => exact ⟨.ready status rfl rfl rfl rfl, rfl⟩
  | errorResponse body => exact ⟨took_self _ _, trivial⟩
  | _ => exact ⟨took_self _ _, rfl⟩

theorem tame_preamble : Tame Preamble.progress preambleBody := by
  apply Tame.asyncFirst
  intro s message
  cases message with
  | rowDescription fields =>
      cases fields with
      | ok columns => exact ⟨took_self _ _, rfl⟩
      | error e => exact took_self _ _
  | readyForQuery status => exact ⟨.ready status rfl rfl rfl rfl, rfl⟩
  | errorResponse body => exact ⟨took_self _ _, trivial⟩
  | _ => exact ⟨took_self _ _, rfl⟩

theorem tame_prepare (typeFromOid : Oid → Option Oid) :
    Tame ReplyEnd.progress (prepareBody typeFromOid) := by
  apply Tame.asyncFirst
  intro (prep, conn) message
  cases message with
  | parameterDescription types =>
      cases types with
      | ok types => exact ⟨took_self _ _, rfl⟩
      | error e => exact took_self _ _
  | rowDescription fields =>
      cases fields with
      | ok columns => exact ⟨took_self _ _, rfl⟩
      | error e => exact took_self _ _
  | readyForQuery status => exact ⟨.ready status rfl rfl rfl rfl, rfl⟩
  | errorResponse body => exact ⟨took_self _ _, trivial⟩
  | _ => exact ⟨took_self _ _, rfl⟩

theorem tame_complete : Tame ReplyEnd.progress completeBody := by
  apply Tame.asyncFirst
  intro s message
  cases message with
  | readyForQuery status => exact ⟨.ready status rfl rfl rfl rfl, rfl⟩
  | errorResponse body => exact ⟨took_self _ _, trivial⟩
  | _ => exact ⟨took_self _ _, rfl⟩

theorem tame_cursorOpen : Tame ReplyEnd.progress cursorOpenBody := by
  apply Tame.asyncFirst
  intro (columns, conn) message
  cases message with
  | rowDescription fields =>
      cases fields with
      | ok columns => exact ⟨took_self _ _, rfl⟩
      | error e => exact took_self _ _
  | readyForQuery status => exact ⟨.ready status rfl rfl rfl rfl, rfl⟩
  | errorResponse body => exact ⟨took_self _ _, trivial⟩
  | _ => exact ⟨took_self _ _, rfl⟩

theorem tame_fetch : Tame ReplyEnd.progress Cursor.fetchBody := by
  apply Tame.asyncFirst
  intro ((cursor, rows), conn) message
  cases message with
  | rowDescription fields =>
      cases fields with
      | ok columns => exact ⟨took_self _ _, rfl⟩
      | error e => exact took_self _ _
  | dataRow values =>
      cases values with
      | ok values => exact ⟨took_self _ _, rfl⟩
      | error e => exact took_self _ _
  | readyForQuery status => exact ⟨.ready status rfl rfl rfl rfl, rfl⟩
  | errorResponse body => exact ⟨took_self _ _, trivial⟩
  | _ => exact ⟨took_self _ _, rfl⟩

theorem tame_cursorBatch : Tame ReplyEnd.progress CursorStream.batchBody := by
  apply Tame.asyncFirst
  intro ((stream, batch), conn) message
  cases message with
  | rowDescription fields =>
      cases fields with
      | ok columns => exact ⟨took_self _ _, rfl⟩
      | error e => exact took_self _ _
  | dataRow values =>
      cases values with
      | ok values => exact ⟨took_self _ _, rfl⟩
      | error e => exact took_self _ _
  | readyForQuery status => exact ⟨.ready status rfl rfl rfl rfl, rfl⟩
  | errorResponse body => exact ⟨took_self _ _, trivial⟩
  | _ => exact ⟨took_self _ _, rfl⟩

theorem tame_pipeline : Tame ReplyEnd.progress Pipeline.readBody := by
  apply Tame.asyncFirst
  intro (read, conn) message
  cases message with
  | rowDescription fields =>
      cases fields with
      | ok columns => exact ⟨took_self _ _, rfl⟩
      | error e => exact took_self _ _
  | dataRow values =>
      cases values with
      | ok values => exact ⟨took_self _ _, rfl⟩
      | error e => exact took_self _ _
  | readyForQuery status => exact ⟨.ready status rfl rfl rfl rfl, rfl⟩
  | errorResponse body => exact ⟨took_self _ _, trivial⟩
  | _ => exact ⟨took_self _ _, rfl⟩

theorem tame_copyStart {response : BackendMessage → Option CopyResponseBody}
    (hResponse : ∀ message body, response message = some body →
      message = .copyInResponse body ∨ message = .copyOutResponse body) :
    Tame CopyStart.progress (copyStartBody response) := by
  apply Tame.asyncFirst
  intro s message
  cases hSome : response message with
  | some body =>
      simp only [hSome]
      cases ioResult body.columnFormats with
      | ok columnFormats =>
          refine ⟨took_self _ _, ?_⟩
          obtain rfl | rfl := hResponse message body hSome <;> rfl
      | error e => exact took_self _ _
  | none =>
      simp only [hSome]
      cases message with
      | errorResponse body => exact ⟨took_self _ _, trivial⟩
      | _ => exact ⟨took_self _ _, rfl⟩

theorem tame_finish : Tame ReplyEnd.progress CopyIn.finishBody := by
  apply Tame.asyncFirst
  intro (rows, conn) message
  cases message with
  | readyForQuery status => exact ⟨.ready status rfl rfl rfl rfl, rfl⟩
  | errorResponse body => exact ⟨took_self _ _, trivial⟩
  | _ => exact ⟨took_self _ _, rfl⟩

theorem tame_copyRead : Tame CopyOut.Event.progress CopyOut.readBody := by
  apply Tame.asyncFirst
  intro (copy, conn) message
  cases message with
  | readyForQuery status => exact ⟨.ready status rfl rfl rfl rfl, rfl⟩
  | errorResponse body => exact ⟨took_self _ _, trivial⟩
  | _ => exact ⟨took_self _ _, rfl⟩

theorem tame_next : Tame RowStream.Event.progress RowStream.nextBody := by
  apply Tame.asyncFirst
  intro (⟨columns, state⟩, conn) message
  cases message with
  | rowDescription fields =>
      cases state with
      | waitingForDescription =>
          cases fields with
          | ok columns => exact ⟨took_self _ _, rfl⟩
          | error e => exact took_self _ _
      | _ => exact ⟨took_self _ _, rfl⟩
  | dataRow values =>
      cases state with
      | receivingRows =>
          cases values with
          | ok values => exact ⟨took_self _ _, rfl⟩
          | error e => exact took_self _ _
      | _ => exact ⟨took_self _ _, rfl⟩
  | readyForQuery status =>
      cases state with
      | finishing tag => exact ⟨.ready status rfl rfl rfl rfl, rfl⟩
      | _ => exact ⟨took_self _ _, rfl⟩
  | errorResponse body => cases state <;> exact ⟨took_self _ _, trivial⟩
  | _ => cases state <;> exact ⟨took_self _ _, rfl⟩

end Connection
end PgClient
