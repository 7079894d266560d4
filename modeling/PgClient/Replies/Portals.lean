import Mathlib.Logic.Function.Iterate
import PgClient.Query.Cursor
import PgClient.Replies.Stream

/-!
Portals that are executed in batches: what a server answers to the round trips of one
portal, and what one round trip makes of a cursor.
-/

namespace PgClient

open Drive Async Connection

/-- The rows of an Execute that has left the portal suspended. -/
structure PortalBatch where
  data : List (List (Option Bytes))
  status : UInt8
deriving DecidableEq, Repr

/-- How a portal comes to its end. Executing an empty statement is answered in the same way
each time, and a COPY from the client waits for its data without regard to a Sync. -/
inductive PortalEnd where
  | complete (data : List (List (Option Bytes))) (tag : Option String) (status : UInt8)
  | copyOut (body : CopyResponseBody) (chunks : List Bytes) (tag : Option String) (status : UInt8)
  | failed (begun : List BackendMessage) (error : List (UInt8 × String)) (status : UInt8)
  | empty
  | copyIn (body : CopyResponseBody)

namespace PortalEnd

/-- The server has nothing more to say, and says so. -/
def closes : PortalEnd → Bool
  | .complete _ _ _ | .copyOut _ _ _ _ | .failed _ _ _ => true
  | .empty | .copyIn _ => false

end PortalEnd

def dataRows (data : List (List (Option Bytes))) : List BackendMessage :=
  data.map fun values => .dataRow (.ok values)

def rowsUnder (columns : List FieldDescription) (data : List (List (Option Bytes))) : List Row :=
  data.map fun values => { columns, values }

def PortalBatch.messages (batch : PortalBatch) : List BackendMessage :=
  dataRows batch.data ++ [.portalSuspended, .readyForQuery batch.status]

namespace Connection

/-- The round trip of a cursor. -/
def portalRequest (portalName : String) (fetchSize : Int32) : List FrontendMessage :=
  [.execute portalName fetchSize, .sync]

/-- A transport after a request has been sent on it. -/
def exchanged (net : Network) (request : List FrontendMessage) (t : Transport) : Transport :=
  (sendBatch request net { Connection.new with transport := t }).2.transport

/-- A transport whose reply has been read: the asynchronous messages behind it are left. -/
def afterReply (t : Transport) : Transport := { t with inbox := t.inbox.rtakeWhile Entry.isAsync }

/-- A transport after so many round trips. -/
def roundTrips (net : Network) (request : List FrontendMessage) (n : Nat) (t : Transport) :
    Transport :=
  (fun t => afterReply (exchanged net request t))^[n] t

/-- A request that can be sent, and the reply that is unread then. -/
structure Answers (net : Network) (request : List FrontendMessage) (t : Transport)
    (reply : List BackendMessage) : Prop where
  sent : (sendBatch request net { Connection.new with transport := t }).1 = .ok ()
  unread : Interleaves (exchanged net request t).inbox reply

/-- What the server answers to the round trips that come after the suspended batches. -/
def Concludes (net : Network) (request : List FrontendMessage) (t : Transport) : PortalEnd → Prop
  | .complete data tag status =>
      Answers net request t (dataRows data ++ [.commandComplete tag, .readyForQuery status])
  | .copyOut body chunks tag status =>
      Answers net request t (.copyOutResponse body :: chunks.map .copyData ++
        [.copyDone, .commandComplete tag, .readyForQuery status])
  | .failed begun error status => (∀ message ∈ begun, message.isInner) ∧
      Answers net request t
        (begun ++ [.errorResponse { fields := .ok error }, .readyForQuery status])
  | .empty => ∀ n, ∃ status, Answers net request (roundTrips net request n t)
      [.emptyQueryResponse, .readyForQuery status]
  | .copyIn body => Answers net request t [.copyInResponse body] ∧
      (exchanged net request t).ending = none

/-- A server executes a portal: its batches one after another, and then its end. -/
inductive Serves (net : Network) (request : List FrontendMessage) :
    Transport → List PortalBatch → PortalEnd → Prop where
  | batch {t : Transport} {batch : PortalBatch} {batches : List PortalBatch} {last : PortalEnd}
      (hBatch : Answers net request t batch.messages)
      (hRest : Serves net request (afterReply (exchanged net request t)) batches last) :
      Serves net request t (batch :: batches) last
  | last {t : Transport} {last : PortalEnd} (hLast : Concludes net request t last) :
      Serves net request t [] last

section RoundTrip

variable {net : Network} {request : List FrontendMessage} {conn : Connection}
  {reply : List BackendMessage} {L : Type}
  {body : L × Connection → BackendMessage → Step (L × Connection) (Except PgError ReplyEnd)}

/-- A connection that has sent a request of a portal. -/
def requested (net : Network) (request : List FrontendMessage) (conn : Connection) : Connection :=
  { conn.setState .activeExtendedQuery with transport := exchanged net request conn.transport }

theorem Answers.sends (h : Answers net request conn.transport reply) :
    sendBatch request net (conn.setState .activeExtendedQuery) =
      (.ok (), requested net request conn) := by
  rw [onTransport_sendBatch request { Connection.new with transport := conn.transport }
    (conn.setState .activeExtendedQuery) rfl, h.sent]
  rfl

/-- Reading takes messages from the inbox; the rest of the transport stays as it is. -/
theorem messageLoop_transport {progress : ReplyEnd → Progress}
    {final : ConnectionState → ConnectionState} (h : Orderly progress final body) (net : Network)
    (s : L × Connection) :
    ∃ inbox, (messageLoop body net s).2.2.transport = { s.2.transport with inbox } := by
  have hKeeps : Keeps net
      (fun s' : L × Connection => ∃ inbox, s'.2.transport = { s.2.transport with inbox })
      (messageLoop body) := by
    apply keeps_orderly (fun conn => ∃ inbox, conn.transport = { s.2.transport with inbox }) h
    · intro conn conn' hSame hInbox
      rw [hSame.transport]
      exact hInbox
    · intro conn status conn' hEnded hInbox
      rw [hEnded.transport]
      exact hInbox
    · rintro conn inbox ⟨_, hInbox⟩
      exact ⟨inbox, by simp [setInbox, hInbox]⟩
  exact hKeeps s ⟨s.2.transport.inbox, rfl⟩

/-- A read loop that takes a whole reply. -/
theorem messageLoop_whole (hDetached : Detached body)
    (hOrderly : Orderly ReplyEnd.progress toIdle body)
    (net : Network) (hReply : Interleaves conn.transport.inbox reply) {l l' : L}
    (hDrive : drive (localStep body) l reply = .done (.ok .ready) l' []) :
    ∃ conn', messageLoop body net (l, conn) = (.ok .ready, (l', conn')) ∧ conn'.state = .idle ∧
      conn'.transport = afterReply conn.transport := by
  obtain ⟨conn', hLoop, hLeft⟩ := hDetached.messageLoop_done net (l, conn) hReply hDrive
  obtain ⟨_, hState⟩ := messageLoop_state hOrderly hLoop rfl
  obtain ⟨inbox, hTransport⟩ := messageLoop_transport hOrderly net (l, conn)
  rw [hLoop] at hTransport
  have hTransport : conn'.transport = { conn.transport with inbox } := hTransport
  have hInbox : inbox = conn.transport.inbox.rtakeWhile Entry.isAsync := by
    have hRest := hLeft.eq_rtakeWhile hReply
    rwa [hTransport] at hRest
  exact ⟨conn', hLoop, hState, by rw [hTransport, hInbox]; rfl⟩

end RoundTrip

end Connection
end PgClient
