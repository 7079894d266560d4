import PgClient.Deadlock.Requests

/-!
Operations that return: batches, queries with parameters and pipelines, when their request
does not leave the server waiting for COPY data.
-/

namespace PgClient

open Drive Async Transport

namespace Connection

variable {net : Network} {server : Server net}

/-- What an operation can start on, when the transport is as `ready` once it is accepted. -/
structure Startable (server : Server net) (ready : Transport → Prop) (conn : Connection) :
    Prop where
  good : Good server conn
  recoverable : Recoverable conn
  ready : conn.state = .idle → ready conn.transport

theorem completes_start {state : ConnectionState} (hActive : state.isActive)
    (ready : Transport → Prop) :
    Completes net (Startable server ready) (transition state) (fun _ => Prepared server ready)
      (fun _ => Recoverable) :=
  (completes_transition hActive ready).pre_mono fun _ h => ⟨h.good, h.recoverable, h.ready⟩

/-- An operation that has been accepted has nothing to skip any more. -/
theorem completes_accepted {α : Type} {state : ConnectionState} (hActive : state.isActive)
    {ready : Transport → Prop} {k : Unit → Client α}
    (h : Completes net (Prepared server ready) (k ()) (fun _ => Clear) (fun _ => Clear)) :
    Completes net (Startable server ready) (transition state >>= k) (fun _ => Clear)
      (fun _ => Recoverable) :=
  Completes.bind (completes_start hActive ready) fun _ =>
    h.mono (fun _ h => h) (fun _ _ h => h) fun _ _ h => h.recoverable

/-- What follows a loop that has left at an `ErrorResponse`. -/
theorem completes_failServer {L α : Type} {drain : Client PgServerError}
    (hDrain : Completes net (Awaiting Clear) drain (fun _ => Clear) (fun _ => Awaiting Clear))
    {ok : α → L × Connection → Prop} :
    Completes net (fun s => Awaiting Clear s.2)
      (onSnd drain >>= fun serverErr => fail (.server serverErr)) ok (fun _ s => Clear s.2) := by
  have hDrained : Completes net (fun s : L × Connection => Awaiting Clear s.2) (onSnd drain)
      (fun _ s => Clear s.2) (fun _ s => Clear s.2) :=
    Completes.onSnd fun _ => hDrain.mono (fun _ h => h) (fun _ _ h => h) fun _ _ h => h.keeps
  exact Completes.bind hDrained fun _ => Completes.fail fun _ h => h

theorem completes_result {L α : Type} {err : PgError → L × Connection → Prop}
    (result : L × Connection → α) :
    Completes net (fun s => Clear s.2) (Async.get >>= fun s => pure (result s))
      (fun _ s => Clear s.2) err :=
  Completes.get_bind fun _ hs => Completes.pure fun _ h => h ▸ hs

/-- A loop that reads to the end of a reply, and what is done then. -/
theorem completes_readReply {L α : Type} {final : ConnectionState → ConnectionState}
    {body : L × Connection → BackendMessage → Step (L × Connection) (Except PgError ReplyEnd)}
    (hBody : Orderly ReplyEnd.progress final body)
    (hAttentive : Attentive ReplyEnd.progress body) {k : ReplyEnd → Owner L α}
    (hReady : Completes net (fun s => Clear s.2) (k .ready) (fun _ s => Clear s.2)
      fun _ s => Clear s.2)
    (hError : ∀ errorBody, Completes net (fun s => Awaiting Clear s.2) (k (.serverError errorBody))
      (fun _ s => Clear s.2) fun _ s => Clear s.2) :
    Completes net (fun s => Awaiting Clear s.2) (messageLoop body >>= k) (fun _ s => Clear s.2)
      (fun _ s => Clear s.2) := by
  apply Completes.bind
  · exact (hAttentive.completes hBody upToInbox_clear).mono (fun _ h => h) (fun _ _ h => h)
      fun _ _ h => h.keeps
  intro ending
  cases ending with
  | ready => exact hReady.pre_mono fun _ h => h.2
  | serverError errorBody =>
      exact (hError errorBody).pre_mono fun _ h => ⟨h.1 (by simp [ReplyEnd.progress]), h.2⟩

theorem completes_batchExecute (sql : String) :
    Completes net (Startable server (SparedBy server [.query sql])) (batchExecute sql)
      (fun _ => Clear) (fun _ => Recoverable) := by
  apply completes_accepted rfl
  apply Completes.bind (completes_askedQuery sql)
  intro _
  apply Completes.withLocal
  apply Completes.pre_mono _ (fun _ h => h.2)
  apply completes_readReply orderly_batch fun _ _ => ⟨_, _, rfl, rfl⟩
  · exact completes_result _
  · exact fun body => completes_failServer (completes_drainServerError upToInbox_clear body)

theorem completes_readExtendedQueryResult :
    Completes net (Awaiting Clear) readExtendedQueryResult (fun _ => Clear) (fun _ => Clear) := by
  apply Completes.withLocal
  apply Completes.pre_mono _ (fun _ h => h.2)
  apply completes_readReply orderly_extended fun _ _ => ⟨_, _, rfl, rfl⟩
  · exact completes_result _
  · exact fun body => completes_failServer (completes_drainServerErrorOnly upToInbox_clear body)

theorem completes_readThenIdle :
    Completes net (Awaiting Clear) readThenIdle (fun _ => Clear) (fun _ => Clear) := by
  apply Completes.bind completes_readExtendedQueryResult.attempt
  intro result
  refine Completes.modify_bind Clear ?_ (Completes.lift (fun _ _ _ h => h) fun _ _ _ h => h)
  cases result with
  | ok value => exact fun _ h => h
  | error e => exact fun _ h => h

/-- Whatever the parameters are encoded to, the request is answered. -/
def ParamsSpared (server : Server net) (sql : String) (params : List ToSql) (t : Transport) :
    Prop :=
  ∀ values, encodeParamsText params = .ok values →
    SparedBy server (unnamedBatch sql values ++ [.sync]) t

theorem completes_queryParams (sql : String) (params : List ToSql) :
    Completes net (Startable server (ParamsSpared server sql params)) (queryParams sql params)
      (fun _ => Clear) (fun _ => Recoverable) := by
  apply completes_accepted rfl
  have hEncode : Completes net (Prepared server (ParamsSpared server sql params))
      (Async.lift (encodeParamsText params))
      (fun values => Prepared server (SparedBy server (unnamedBatch sql values ++ [.sync])))
      (fun _ => Clear) := by
    apply Completes.lift
    · exact fun values hValues conn h => ⟨h.started, h.clear, h.ready values hValues⟩
    · exact fun _ _ conn h => h.clear
  apply Completes.bind hEncode
  intro values
  have hAsks : ∀ message ∈ unnamedBatch sql values, message.asksReady = false := by
    simp [unnamedBatch, FrontendMessage.asksReady]
  exact Completes.bind (completes_syncRequest hAsks) fun _ => completes_readThenIdle

/-- A reply that is left to be skipped is skipped to its end. -/
theorem completes_recover {ready : Transport → Prop}
    (hReady : ∀ t inbox, ready t → ready { t with inbox }) :
    Completes net (fun conn => Good server conn ∧ Recoverable conn ∧
        (conn.state = .idle ∨ conn.needsRecovery → ready conn.transport)) recover
      (fun _ conn => Startable server ready conn ∧ Clear conn) (fun _ => Recoverable) := by
  have hSkips : Completes net (fun conn => Recoverable conn ∧
        (conn.state = .idle ∨ conn.needsRecovery → ready conn.transport)) recover
      (fun _ conn => Clear conn ∧ (conn.state = .idle → ready conn.transport))
      (fun _ => Recoverable) := by
    apply Completes.get_bind
    rintro start ⟨hRecoverable, hStart⟩
    apply Completes.doIf
    · intro hFlag
      have hKeep : UpToInbox fun conn => ready conn.transport := by
        intro conn conn' hTransport _ h
        rw [hTransport]
        exact hReady _ _ h
      apply Completes.bind
      · apply (completes_readUntilReady hKeep).mono
        · rintro conn rfl
          exact ⟨hRecoverable hFlag, hStart (.inr hFlag)⟩
        · exact fun _ _ h => h
        · exact fun _ _ h _ => h.promised
      · exact fun _ => Completes.modify fun conn h => ⟨nofun, fun _ => h⟩
    · rintro hFlag conn rfl
      exact ⟨fun hSet => absurd hSet hFlag, fun hIdle => hStart (.inl hIdle)⟩
  apply (hSkips.and (@triple_recover net server)).mono
  · exact fun conn h => ⟨h.2, h.1⟩
  · exact fun _ conn h => ⟨⟨h.2, h.1.1.recoverable, h.1.2⟩, h.1.1⟩
  · exact fun _ _ h => h.1

end Connection

namespace Pipeline

open Connection

variable {net : Network} {server : Server net}

theorem completes_finish (pipeline : Pipeline) :
    Completes net (Startable server
        (SparedBy server (pipeline.ops.flatMap PipelineOp.messages ++ [.sync]))) pipeline.finish
      (fun _ => Clear) (fun _ => Recoverable) := by
  have hAsks : ∀ message ∈ pipeline.ops.flatMap PipelineOp.messages,
      message.asksReady = false := by
    intro message hMem
    obtain ⟨op, _, hMem⟩ := List.mem_flatMap.mp hMem
    cases op <;> revert hMem <;>
      simp +contextual [PipelineOp.messages, unnamedBatch, FrontendMessage.asksReady, or_imp]
  apply completes_accepted rfl
  apply Completes.bind (completes_syncRequest hAsks)
  intro _
  apply Completes.withLocal
  apply Completes.pre_mono _ (fun _ h => h.2)
  apply completes_readReply orderly_pipeline fun _ _ => ⟨_, _, rfl, rfl⟩
  · exact completes_result _
  · exact fun body => completes_failServer (completes_drainServerError upToInbox_clear body)

end Pipeline
end PgClient
