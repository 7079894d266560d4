import PgClient.Pairing.Loops

/-!
Each operation, from a connection between operations: when it returns it has read its
reply to the end, and when it fails with an error of the reply so it has then.
-/

namespace PgClient

open Connection Async

namespace ConnectionState

/-- The states of an operation under way. -/
def isActive : ConnectionState → Bool
  | .activeSimpleQuery | .activeExtendedQuery | .copyIn | .copyOut | .streaming => true
  | _ => false

theorem idle_of_permits {current state : ConnectionState} (hActive : state.isActive)
    (h : current.permits state) : current = .idle := by
  cases state <;> cases hActive <;> cases current <;> first | rfl | cases h

theorem ne_idle_of_isActive {state : ConnectionState} (hActive : state.isActive) :
    state ≠ .idle := by
  rintro rfl
  cases hActive

end ConnectionState

namespace Connection

variable {net : Network} (server : Server net)

/-- The last operation has come to its end. -/
structure Done (conn : Connection) : Prop where
  idle : conn.state = .idle
  boundary : Boundary server conn

/-- An operation has failed; if the error is one of its reply, the reply has been read. -/
structure Failed (e : PgError) (conn : Connection) : Prop where
  good : Good server conn
  reply : e.endsReply → Done server conn

/-- What every operation that runs to its end makes of a connection. -/
def Sound {α : Type} (x : Client α) : Prop :=
  Triple net (Good server) x (fun _ => Done server) (Failed server)

/-- An operation has been accepted and nothing of it is sent. -/
structure Started (conn : Connection) : Prop where
  active : conn.state ≠ .idle
  wire : conn.transport.Dead ∨ conn.transport.Settled server

variable {server}

theorem Done.good {conn : Connection} (h : Done server conn) : Good server conn :=
  .inr ⟨h.boundary.settled.tidy, fun _ => h.boundary.settled⟩

theorem Done.failed {conn : Connection} (h : Done server conn) (e : PgError) :
    Failed server e conn :=
  ⟨h.good, fun _ => h⟩

/-- The flag is no part of the wire. -/
theorem Done.setRecovery {conn : Connection} (h : Done server conn) (needsRecovery : Bool) :
    Done server { conn with needsRecovery } :=
  ⟨h.idle, h.boundary.settled, h.boundary.status⟩

theorem good_setRecovery {conn : Connection} (h : Good server conn) (needsRecovery : Bool) :
    Good server { conn with needsRecovery } := by
  cases h with
  | inl hDead => exact .inl ⟨hDead.inbox, hDead.ending⟩
  | inr hBetween => exact .inr hBetween

theorem Failed.setRecovery {conn : Connection} {e : PgError} (h : Failed server e conn)
    (needsRecovery : Bool) : Failed server e { conn with needsRecovery } :=
  ⟨good_setRecovery h.good _, fun hReply => (h.reply hReply).setRecovery _⟩

theorem good_of_active {conn : Connection} (hState : conn.state ≠ .idle)
    (hTidy : conn.transport.Tidy server) : Good server conn :=
  .inr ⟨hTidy, fun hIdle => absurd hIdle hState⟩

theorem Mid.good {conn : Connection} (h : Mid server conn) : Good server conn := by
  cases h with
  | inl hDead => exact .inl hDead
  | inr hBusy => exact good_of_active hBusy.1 hBusy.2.1

theorem Started.good {conn : Connection} (h : Started server conn) : Good server conn := by
  cases h.wire with
  | inl hDead => exact .inl hDead
  | inr hSettled => exact good_of_active h.active hSettled.tidy

theorem failed_of_good {conn : Connection} {e : PgError} (hError : e.endsReply = false)
    (h : Good server conn) : Failed server e conn :=
  ⟨h, fun hReply => absurd hReply (by simp [hError])⟩

theorem ReadFailed.failed {conn : Connection} {e : PgError}
    (h : ReadFailed (Busy server) e conn) : Failed server e conn :=
  failed_of_good h.error (Mid.good h.reading)

theorem SendFailed.failed {base conn : Connection} {e : PgError} {p : Transport → Prop}
    (hState : base.state ≠ .idle) (h : SendFailed base p e conn)
    (hp : ∀ t, p t → t.Dead ∨ t.Tidy server) : Failed server e conn := by
  obtain ⟨hError, t, rfl, ht⟩ := h
  apply failed_of_good hError
  cases hp t ht with
  | inl hDead => exact .inl hDead
  | inr hTidy => exact good_of_active hState hTidy

theorem triple_transition {state : ConnectionState} (hActive : state.isActive) :
    Triple net (Good server) (transition state) (fun _ => Started server) (Failed server) := by
  intro conn h
  simp only [transition]
  split
  case isFalse => exact failed_of_good rfl h
  case isTrue hPermits =>
      have hIdle := ConnectionState.idle_of_permits hActive hPermits
      refine ⟨ConnectionState.ne_idle_of_isActive hActive, ?_⟩
      cases h with
      | inl hDead => exact .inl hDead
      | inr hBetween => exact .inr (hBetween.2 hIdle)

theorem triple_request (messages : List FrontendMessage) (last : FrontendMessage)
    (hAsks : ∀ message ∈ messages, message.asksReady = false) :
    Triple net (Started server) (sendBatch (messages ++ [last])) (fun _ => Mid server)
      (Failed server) := by
  intro conn h
  cases h.wire with
  | inl hDead =>
      apply (triple_sendBatch_dead _ conn (framed_self hDead)).mono
      · rintro _ _ ⟨t, rfl, ht⟩
        exact .inl ht
      · exact fun _ _ hFailed => hFailed.failed h.active fun _ => .inl
  | inr hSettled =>
      apply (triple_sendBatch last hAsks conn (framed_self hSettled.quiet)).mono
      · rintro _ _ ⟨t, rfl, ht⟩
        exact .inr ⟨h.active, ht.copying⟩
      · exact fun _ _ hFailed => hFailed.failed h.active fun _ => .inr

theorem triple_query_message (sql : String) :
    Triple net (Started server) (send (.query sql)) (fun _ => Mid server) (Failed server) := by
  rw [send_eq_sendBatch]
  exact triple_request [] _ (by simp)

theorem triple_readUntilReady {keep : Connection → Prop} (hKeep : Stable server keep) :
    Triple net (Reading keep) readUntilReady (fun _ => Done server)
      (ReadFailed keep) := by
  apply Triple.withLocal
  apply (orderly_readUntilReady.triple hKeep).mono
  · exact fun _ h => h.2
  · rintro _ s ⟨hBoundary, _, hState⟩
    exact ⟨hState, hBoundary⟩
  · exact fun _ _ h => h

/-- The end of a reply that began with an error, in either form of the source. -/
theorem triple_drainServerErrorOnly {keep : Connection → Prop} (hKeep : Stable server keep)
    (body : ErrorBody) :
    Triple net (Reading keep) (drainServerErrorOnly body) (fun _ => Done server)
      (fun e conn => e.endsReply = false ∧ Reading keep conn ∧
        ((∀ conn, keep conn → Legible conn) → body.fields.isOk → conn.transport.Dead)) := by
  apply Triple.bind_via (fun _ => Reading keep)
  · apply Triple.lift
    · exact fun _ _ _ h => h
    · intro e hError conn h
      cases hFields : body.fields with
      | ok fields => simp [PgServerError.fromBody, hFields, ioResult, Except.map] at hError
      | error x =>
          simp only [PgServerError.fromBody, hFields, ioResult, Except.map] at hError
          cases hError
          exact ⟨rfl, h, by simp [Except.isOk, Except.toBool]⟩
  · intro serverErr
    apply Triple.bind
    · exact (triple_readUntilReady hKeep).mono (fun _ h => h) (fun _ _ h => h)
        fun _ _ h => ⟨h.error, h.reading, fun hLegible _ => h.dead hLegible⟩
    · exact fun _ => Triple.pure fun _ h => h

theorem triple_drainServerErrorOnly_failed (body : ErrorBody) :
    Triple net (Mid server) (drainServerErrorOnly body) (fun _ => Done server) (Failed server) :=
  (triple_drainServerErrorOnly stable_busy body).mono (fun _ h => h) (fun _ _ h => h)
    fun _ _ h => failed_of_good h.1 (Mid.good h.2.1)

/-- The errors of the drain are its own, not those of the reply. -/
theorem triple_drainServerError_local (body : ErrorBody) :
    Triple net (Mid server) (drainServerError body) (fun _ => Done server)
      (fun e conn => e.endsReply = false ∧ Mid server conn) := by
  have hEq : drainServerError body = (drainServerErrorOnly body >>= fun serverErr =>
      Async.modify (fun conn => conn.setState .idle) >>= fun _ => pure serverErr) := by
    simp only [drainServerError, drainServerErrorOnly, bind_assoc, pure_bind]
  rw [hEq]
  apply Triple.bind
  · exact (triple_drainServerErrorOnly stable_busy body).mono (fun _ h => h) (fun _ _ h => h)
      fun _ _ h => ⟨h.1, h.2.1⟩
  · intro _
    refine Triple.modify_bind (Done server)
      (fun _ h => ⟨rfl, h.boundary.settled, h.boundary.status⟩) ?_
    exact Triple.pure fun _ h => h

theorem triple_drainServerError (body : ErrorBody) :
    Triple net (Mid server) (drainServerError body) (fun _ => Done server) (Failed server) :=
  (triple_drainServerError_local body).mono (fun _ h => h) (fun _ _ h => h)
    fun _ _ h => failed_of_good h.1 (Mid.good h.2)

/-- What follows a loop that has left at an `ErrorResponse`. -/
theorem triple_failServer {L α : Type} {drain : Client PgServerError}
    (hDrain : Triple net (Mid server) drain (fun _ => Done server) (Failed server))
    {ok : α → L × Connection → Prop} :
    Triple net (fun s => Mid server s.2)
      (Async.onSnd drain >>= fun serverErr => Async.fail (.server serverErr)) ok
      (fun e s => Failed server e s.2) := by
  apply Triple.bind_via (fun _ s => Done server s.2)
  · exact Triple.onSnd fun _ => hDrain
  · exact fun serverErr => Triple.fail fun _ h => h.failed _

theorem triple_recover :
    Triple net (Good server) recover (fun _ => Good server) (Failed server) := by
  apply Triple.bind_via (fun _ => Good server)
  · exact Triple.get fun _ h => h
  intro conn
  apply Triple.doIf
  · intro _
    apply Triple.bind_via (fun _ => Done server)
    · exact (triple_readUntilReady stable_between).mono (fun _ h => h) (fun _ _ h => h)
        fun _ _ h => failed_of_good h.error h.reading
    · exact fun _ => Triple.modify fun _ h => (h.setRecovery false).good
  · exact fun _ _ h => h

/-- A loop that reads to the end of a reply, and what is done then. -/
theorem triple_readReply {L α : Type}
    {body : L × Connection → BackendMessage → Drive.Step (L × Connection) (Except PgError ReplyEnd)}
    (hBody : Orderly ReplyEnd.progress toIdle body) {k : ReplyEnd → Owner L α}
    {ok : α → L × Connection → Prop}
    (hReady : Triple net (fun s => Done server s.2) (k .ready) ok fun e s => Failed server e s.2)
    (hError : ∀ errorBody, Triple net (fun s => Mid server s.2) (k (.serverError errorBody)) ok
      fun e s => Failed server e s.2) :
    Triple net (fun s => Mid server s.2) (messageLoop body >>= k) ok
      (fun e s => Failed server e s.2) := by
  apply Triple.bind
  · exact (hBody.triple stable_busy).mono (fun _ h => h) (fun _ _ h => h) fun _ _ h => h.failed
  intro ending
  cases ending with
  | ready =>
      apply hReady.pre_mono
      rintro s ⟨hBoundary, _, hState⟩
      exact ⟨hState, hBoundary⟩
  | serverError errorBody => exact (hError errorBody).pre_mono fun _ h => h.1

/-- Reading the local variable of a finished loop. -/
theorem triple_result {L α : Type} {p : L × Connection → Prop}
    {err : PgError → L × Connection → Prop}
    (result : L × Connection → α) :
    Triple net p (Async.get >>= fun s => pure (result s)) (fun _ => p) err :=
  Triple.bind (Triple.get fun _ h => h) fun _ => Triple.pure fun _ h => h

theorem sound_batchExecute (sql : String) : Sound server (batchExecute sql) := by
  apply Triple.bind (triple_transition rfl)
  intro _
  apply Triple.bind (triple_query_message sql)
  intro _
  apply Triple.withLocal
  apply Triple.pre_mono _ (fun _ h => h.2)
  apply triple_readReply orderly_batch
  · exact triple_result _
  · exact fun _ => triple_failServer (triple_drainServerError _)

theorem sound_prepare (sql : String) : Sound server (prepare sql) := by
  apply Triple.bind (triple_transition rfl)
  intro _
  apply Triple.bind_via (fun _ => Started server)
  · apply Triple.bind_via (fun _ => Started server)
    · exact Triple.modify fun _ h => ⟨h.active, h.wire⟩
    · exact fun _ => Triple.bind (Triple.get fun _ h => h) fun _ => Triple.pure fun _ h => h
  intro name
  apply Triple.bind (triple_request [_, _] _ (by simp [FrontendMessage.asksReady]))
  intro _
  apply Triple.bind_via (fun _ => Mid server) (Triple.env fun _ h => h)
  intro net'
  apply Triple.withLocal
  apply Triple.pre_mono _ (fun _ h => h.2)
  apply triple_readReply (orderly_prepare _)
  · exact triple_result _
  · exact fun _ => triple_failServer (triple_drainServerErrorOnly_failed _)

/-- The same without an owner of the loop. -/
theorem triple_failServer' {α : Type} {drain : Client PgServerError}
    (hDrain : Triple net (Mid server) drain (fun _ => Done server) (Failed server))
    {ok : α → Connection → Prop} :
    Triple net (Mid server) (drain >>= fun serverErr => Async.fail (.server serverErr)) ok
      (Failed server) :=
  Triple.bind hDrain fun _ => Triple.fail fun _ h => h.failed _

theorem triple_readComplete {α : Type} {k : ReplyEnd → Client α} {ok : α → Connection → Prop}
    (hReady : Triple net (Done server) (k .ready) ok (Failed server))
    (hError : ∀ body, Triple net (Mid server) (k (.serverError body)) ok (Failed server)) :
    Triple net (Mid server) (Async.withLocal () (messageLoop completeBody) >>= k) ok
      (Failed server) := by
  apply Triple.bind
  · apply Triple.withLocal
    exact (orderly_complete.triple stable_busy).mono (fun _ h => h.2) (fun _ _ h => h)
      fun _ _ h => h.failed
  intro ending
  cases ending with
  | ready =>
      apply hReady.pre_mono
      rintro conn ⟨hBoundary, _, hState⟩
      exact ⟨hState, hBoundary⟩
  | serverError body => exact (hError body).pre_mono fun _ h => h.1

theorem sound_closeStatement (stmt : PreparedStatement) : Sound server (closeStatement stmt) := by
  apply Triple.bind (triple_transition rfl)
  intro _
  apply Triple.bind (triple_request [_] _ (by simp [FrontendMessage.asksReady]))
  intro _
  apply triple_readComplete
  · exact Triple.pure fun _ h => h
  · exact fun _ => triple_failServer' (triple_drainServerErrorOnly_failed _)

section Legible

variable {keep : Connection → Prop} (hKeep : Stable server keep)
  (hLegible : ∀ conn, keep conn → Legible conn)

include hKeep hLegible

/-- The loop that leaves the state to its callers, on messages that can all be parsed. -/
theorem triple_readExtendedQueryResult :
    Triple net (Reading keep) readExtendedQueryResult (fun _ => Boundary server)
      (fun e conn => Boundary server conn ∨ e.endsReply = false ∧ conn.transport.Dead) := by
  apply Triple.withLocal
  apply Triple.pre_mono _ (fun _ h => h.2)
  apply Triple.bind
  · exact (orderly_extended.triple hKeep).mono (fun _ h => h) (fun _ _ h => h)
      fun _ _ h => .inr ⟨h.error, h.dead hLegible⟩
  intro ending
  cases ending with
  | ready => exact (triple_result _).pre_mono fun _ h => h.1
  | serverError body =>
      intro s h
      have hDrain : Triple net (fun s => Reading keep s.2)
          (Async.onSnd (τ := ExtendedState) (drainServerErrorOnly body))
          (fun _ s => Done server s.2)
          (fun e s => Boundary server s.2 ∨ e.endsReply = false ∧ s.2.transport.Dead) :=
        Triple.onSnd fun _ => (triple_drainServerErrorOnly hKeep body).mono (fun _ h => h)
          (fun _ _ h => h) fun _ _ hEnd => .inr ⟨hEnd.1, hEnd.2.2 hLegible (h.2 hLegible)⟩
      exact Triple.bind hDrain (fun _ => Triple.fail fun _ h => .inl h.boundary) s h.1

theorem triple_readThenIdle :
    Triple net (Reading keep) readThenIdle (fun _ => Done server) (Failed server) := by
  apply Triple.bind (triple_readExtendedQueryResult hKeep hLegible).attempt
  intro result
  cases result with
  | ok value =>
      refine Triple.modify_bind (Done server) (fun _ h => ⟨rfl, h.settled, h.status⟩) ?_
      exact Triple.pure fun _ h => h
  | error e =>
      refine Triple.modify_bind (Failed server e) ?_ (Triple.fail fun _ h => h)
      intro conn h
      obtain hBoundary | ⟨hError, hDead⟩ := h
      · have hDone : Done server (conn.setState .idle) :=
          ⟨rfl, hBoundary.settled, hBoundary.status⟩
        exact hDone.failed e
      · exact failed_of_good hError (.inl ⟨hDead.inbox, hDead.ending⟩)

end Legible

theorem encodeParamsText_error {params : List ToSql} {e : PgError}
    (h : encodeParamsText params = .error e) : e.endsReply = false := by
  induction params with
  | nil => cases h
  | cons p params ih =>
      rw [encodeParamsText] at h
      split at h
      · cases h
        rfl
      · cases hRest : encodeParamsText params with
        | ok values => simp [hRest, Except.map] at h
        | error e' =>
            simp only [hRest, Except.map, Except.error.injEq] at h
            exact ih (h ▸ hRest)

theorem encodeParamsBinary_error {params : List ToSql} {types : List Oid} {e : PgError}
    (h : encodeParamsBinary params types = .error e) : e.endsReply = false := by
  have hLoop : ∀ params types, encodeParamsBinaryLoop params types = .error e →
      e.endsReply = false := by
    intro params types
    fun_induction encodeParamsBinaryLoop params types with
    | case1 p params ty types x hx =>
        intro h
        cases h
        rfl
    | case2 p params ty types value hx ih =>
        intro h
        cases hRest : encodeParamsBinaryLoop params types with
        | ok values => simp [hRest, Except.map] at h
        | error e' =>
            simp only [hRest, Except.map, Except.error.injEq] at h
            exact ih (h ▸ hRest)
    | case3 => exact fun h => nomatch h
  simp only [encodeParamsBinary] at h
  split at h
  · cases h
    rfl
  · exact hLoop params types h

/-- Parameters are encoded before anything of the operation is sent. -/
theorem triple_encodeParams {result : Except PgError (List (Option Bytes))}
    (hError : ∀ e, result = .error e → e.endsReply = false) :
    Triple net (Started server) (Async.lift result) (fun _ => Started server) (Failed server) :=
  Triple.lift (fun _ _ _ h => h) fun e hResult _ h => failed_of_good (hError e hResult) h.good

theorem triple_unnamedRequest (sql : String) (values : List (Option Bytes)) :
    Triple net (Started server) (sendBatch (unnamedBatch sql values ++ [.sync]))
      (fun _ => Mid server) (Failed server) :=
  triple_request _ _ (by simp [unnamedBatch, FrontendMessage.asksReady])

theorem triple_preparedRequest (stmt : PreparedStatement) (values : List (Option Bytes)) :
    Triple net (Started server) (sendBatch (preparedBatch stmt values ++ [.sync]))
      (fun _ => Mid server) (Failed server) :=
  triple_request _ _ (by simp [preparedBatch, FrontendMessage.asksReady])

end Connection

theorem Pipeline.sound_finish {net : Network} {server : Server net} (pipeline : Pipeline) :
    Sound server pipeline.finish := by
  have hAsks : ∀ message ∈ pipeline.ops.flatMap PipelineOp.messages,
      message.asksReady = false := by
    intro message hMem
    obtain ⟨op, _, hMem⟩ := List.mem_flatMap.mp hMem
    cases op <;> revert hMem <;>
      simp +contextual [PipelineOp.messages, unnamedBatch, FrontendMessage.asksReady, or_imp]
  apply Triple.bind (triple_transition rfl)
  intro _
  apply Triple.bind (triple_request _ _ hAsks)
  intro _
  apply Triple.withLocal
  apply Triple.pre_mono _ (fun _ h => h.2)
  apply triple_readReply orderly_pipeline
  · exact triple_result _
  · exact fun _ => triple_failServer (triple_drainServerError _)

end PgClient
