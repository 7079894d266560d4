import PgClient.Connection.Request
import PgClient.Pairing.Streams
import PgClient.Session

/-!
Queries with parameters, which are taken for finished also when their reply cannot be read:
what has to be legible for them to be so, and how they end then.
-/

namespace PgClient

open Connection Async

/-- Once these messages are sent, all that is unread can be read and parsed. -/
def Connection.LegibleAfter (net : Network) (conn : Connection) (messages : List FrontendMessage) :
    Prop :=
  ∀ entry ∈ ((conn.transport.flushed net).deliverAll net messages).inbox, entry.wellFormed

/-- What an operation is answered with can be read where it has to be. -/
def Operation.Legible (net : Network) (conn : Connection) : Operation → Prop
  | .queryParams sql params | .executeParams sql params =>
      ∀ values, encodeParamsText params = .ok values →
        conn.LegibleAfter net (unnamedBatch sql values ++ [.sync])
  | .queryPrepared stmt params | .executePrepared stmt params =>
      ∀ values, encodeParamsBinary params stmt.paramTypes = .ok values →
        conn.LegibleAfter net (preparedBatch stmt values ++ [.sync])
  | _ => True

namespace Session

def Legible (net : Network) (s : Session) : Call → Prop
  | .operation op => op.Legible net s.conn
  | _ => True

/-- The sessions that calls can lead to whose replies could be read where they had to be. -/
inductive ReachesLegibly (net : Network) (start : Session) : Session → Prop where
  | start : ReachesLegibly net start start
  | step {s s' : Session} {call : Call} {outcome : Outcome PgError Unit}
      (hReach : ReachesLegibly net start s) (hLegible : s.Legible net call)
      (hStep : s.step net call = some (outcome, s')) (hReturned : outcome ≠ .pending) :
      ReachesLegibly net start s'

theorem ReachesLegibly.trans {net : Network} {s s' s'' : Session} (h : ReachesLegibly net s s')
    (h' : ReachesLegibly net s' s'') : ReachesLegibly net s s'' := by
  induction h' with
  | start => exact h
  | step _ hLegible hStep hReturned ih => exact .step ih hLegible hStep hReturned

end Session

theorem Transport.Tracked.deliverAll {net : Network} {t : Transport} (h : t.Tracked net)
    (messages : List FrontendMessage) : (t.deliverAll net messages).Tracked net := by
  induction messages generalizing t with
  | nil => exact h
  | cons message messages ih => exact ih (h.deliver message)

namespace Connection

variable {net : Network} {server : Server net} {conn : Connection}

theorem legibleAfter_of_wellFormed (hNet : net.WellFormed) (hGood : Good server conn)
    (messages : List FrontendMessage) : conn.LegibleAfter net messages := by
  cases hGood with
  | inl hDead =>
      have hClear : ({ conn.transport with writeBuf := [] } : Transport).Dead :=
        ⟨hDead.inbox, hDead.ending⟩
      intro entry hMem
      rw [Transport.flushed, ((hClear.deliverAll _).deliverAll messages).inbox] at hMem
      cases hMem
  | inr hBetween =>
      have hTracked := hBetween.1.tracked
      have hClear : ({ conn.transport with writeBuf := [] } : Transport).Tracked net :=
        ⟨hTracked.ending, hTracked.suffix⟩
      exact ((hClear.deliverAll _).deliverAll messages).wellFormed hNet

/-- A request whose reply is read by the loop that leaves the state to its callers. -/
theorem post_legibleRequest {encoded : Except PgError (List (Option Bytes))}
    (hError : ∀ e, encoded = .error e → e.endsReply = false)
    {batch : List (Option Bytes) → List FrontendMessage}
    (hAsks : ∀ values, ∀ message ∈ batch values, message.asksReady = false)
    (hGood : Good server conn)
    (hLegible : ∀ values, encoded = .ok values → conn.LegibleAfter net (batch values ++ [.sync])) :
    Post (fun _ => Done server) (Failed server) ((do
      transition .activeExtendedQuery
      let values ← .lift encoded
      sendBatch (batch values ++ [.sync])
      readThenIdle : Client QueryResult) net conn) := by
  have hTransition : Triple net (fun c => Good server c ∧ c.transport = conn.transport)
      (transition .activeExtendedQuery)
      (fun _ c => Started server c ∧ c.transport = conn.transport) (Failed server) := by
    intro c h
    have hStarted := @triple_transition net server .activeExtendedQuery rfl c h.1
    revert hStarted
    simp only [transition]
    split
    · exact fun hStarted => ⟨hStarted, h.2⟩
    · exact id
  refine Triple.bind hTransition (fun _ => ?_) conn ⟨hGood, rfl⟩
  intro c h
  cases encoded with
  | error e => exact failed_of_good (hError e rfl) h.1.good
  | ok values =>
      have hRequest := @triple_request net server _ .sync (hAsks values) c h.1
      have hExact := @triple_sendBatch_exact net c (c.transport.flushed net)
        (batch values ++ [.sync]) c ⟨c.transport, rfl, rfl⟩
      rw [bind_of_ok (lift_ok_apply ..), bind_apply]
      cases hSend : sendBatch (batch values ++ [.sync]) net c with
      | mk outcome c' =>
          rw [hSend] at hRequest hExact
          cases outcome with
          | ok value =>
              obtain ⟨t, rfl, rfl⟩ := hExact
              apply triple_readThenIdle (stable_legible stable_busy) fun _ h => h.2
              refine hRequest.imp id fun hBusy => ⟨hBusy, ?_⟩
              have hAll := hLegible values rfl
              rw [LegibleAfter, ← h.2] at hAll
              exact hAll
          | err e => exact hRequest
          | pending => trivial

theorem post_queryParams (hGood : Good server conn) {sql : String} {params : List ToSql}
    (hLegible : (Operation.queryParams sql params).Legible net conn) :
    Post (fun _ => Done server) (Failed server) (queryParams sql params net conn) :=
  post_legibleRequest (fun _ => encodeParamsText_error)
    (by simp [unnamedBatch, FrontendMessage.asksReady]) hGood hLegible

theorem post_queryPrepared (hGood : Good server conn) {stmt : PreparedStatement}
    {params : List ToSql} (hLegible : (Operation.queryPrepared stmt params).Legible net conn) :
    Post (fun _ => Done server) (Failed server) (queryPrepared stmt params net conn) :=
  post_legibleRequest (fun _ => encodeParamsBinary_error)
    (by simp [preparedBatch, FrontendMessage.asksReady]) hGood hLegible

/-- What is made of a result changes nothing of the connection. -/
theorem post_map {α β : Type} {x : Client α} {ok : Connection → Prop}
    {err : PgError → Connection → Prop} (h : Post (fun _ => ok) err (x net conn)) (f : α → β) :
    Post (fun _ => ok) err ((x >>= fun a => pure (f a)) net conn) := by
  rw [bind_apply]
  revert h
  match x net conn with
  | (.ok a, conn') => exact id
  | (.err e, conn') => exact id
  | (.pending, conn') => exact id

end Connection
end PgClient
