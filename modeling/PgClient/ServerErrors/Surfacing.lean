import PgClient.Auth.Authenticate
import PgClient.Notification.Fallback
import PgClient.ServerErrors.Calls

/-!
Whether the error that a call returns is the error of the server that it has met.
-/

namespace PgClient

open Drive Async Connection

namespace Call

/-- The connection once a call has skipped the reply of an abandoned stream, if it does. -/
def begun (net : Network) (conn : Connection) (call : Call) : Connection :=
  if call.recovers conn then (recover net conn).2 else conn

/-- Where a call looks for an error of the server, by what comes before it: opening a COPY
only at the first message that is not asynchronous, and cancelling one nowhere. -/
def tells : Call → List Entry → Prop
  | .opening (.copyIn _), before | .opening (.copyOut _), before => OnlyAsync before
  | .handle (.copyCancel _), _ => False
  | _, _ => True

variable {net : Network} {conn : Connection}

/-- What a call on the whole connection reports, once it has skipped what it skips. -/
def ReportsOnce {α : Type} (net : Network) (conn : Connection) (call : Call) (x : Client α) :
    Prop :=
  Reports net call.tells (call.begun net conn).transport (x net conn).2.transport (x net conn).1

theorem reportsOnce_after {α : Type} {call : Call} {x : Client α} {q : Bool → Prop}
    (hRecovers : call.recovers conn) (hTells : call.tells = fun _ => True)
    (h : HonestAfter net conn x q) : ReportsOnce net conn call x := by
  rw [ReportsOnce, hTells, begun, if_pos hRecovers]
  exact h.reports

theorem reportsOnce_direct {α : Type} {call : Call} {x : Client α} {q : Bool → Prop}
    (hRecovers : call.recovers conn = false) (hTells : call.tells = fun _ => True)
    (h : ClientHonest net anyFlag x q) : ReportsOnce net conn call x := by
  rw [ReportsOnce, hTells, begun, if_neg (by simp [hRecovers])]
  exact (h conn trivial).1

theorem reports_operation (op : Operation) : ReportsOnce net conn (.operation op) op.run := by
  cases op with
  | query sql => exact reportsOnce_after rfl rfl ((after_query sql).map _)
  | execute sql => exact reportsOnce_after rfl rfl (((after_query sql).map _).map _)
  | queryOne sql => exact reportsOnce_after rfl rfl (((after_query sql).map _).map _)
  | queryEach sql callback => exact reportsOnce_after rfl rfl ((after_queryEach sql _).map _)
  | ping => exact reportsOnce_after rfl rfl ((after_query _).map _)
  | recover => exact reportsOnce_after rfl rfl after_recover
  | batchExecute sql => exact reportsOnce_direct rfl rfl (honest_map _ (honest_batchExecute sql))
  | queryParams sql params =>
      exact reportsOnce_direct rfl rfl (honest_map _ (honest_queryParams sql params))
  | executeParams sql params =>
      exact reportsOnce_direct rfl rfl (honest_map _ (honest_map _ (honest_queryParams sql params)))
  | queryPrepared stmt params =>
      exact reportsOnce_direct rfl rfl (honest_map _ (honest_queryPrepared stmt params))
  | executePrepared stmt params =>
      exact reportsOnce_direct rfl rfl (honest_map _
        (honest_map _ (honest_queryPrepared stmt params)))
  | prepare sql => exact reportsOnce_direct rfl rfl (honest_map _ (honest_prepare sql))
  | closeStatement stmt => exact reportsOnce_direct rfl rfl (honest_closeStatement stmt)
  | pipeline queued => exact reportsOnce_direct rfl rfl (honest_map _ (honest_pipeline queued))

/-- A cursor skips a reply first just if it begins a transaction. -/
theorem reports_queryCursor {α : Type} (sql : String) (params : List ToSql) (fetchSize : Int32)
    (f : Cursor → α) {call : Call}
    (hRecovers : call.recovers conn = decide (conn.transactionStatus = .idle))
    (hTells : call.tells = fun _ => True) :
    ReportsOnce net conn call
      (queryCursor sql params fetchSize >>= fun cursor => pure (f cursor)) := by
  by_cases hIdle : conn.transactionStatus = .idle
  · refine reportsOnce_after ?_ hTells ((after_queryCursor sql params fetchSize hIdle).map f)
    rw [hRecovers, decide_eq_true hIdle]
  · have hDirect : ReportsOnce net conn call
        (openPortal sql params fetchSize false >>= fun cursor => pure (f cursor)) := by
      refine reportsOnce_direct ?_ hTells (honest_map f
        (honest_openPortal sql params fetchSize false))
      rw [hRecovers, decide_eq_false hIdle]
    rw [ReportsOnce, bind_apply, queryCursor_open sql params fetchSize hIdle, ← bind_apply]
    exact hDirect

theorem reports_opening (opening : Opening) :
    ReportsOnce net conn (.opening opening) opening.run := by
  cases opening with
  | queryStream sql => exact reportsOnce_after rfl rfl ((after_queryStream sql).map _)
  | queryParamsStream sql params =>
      exact reportsOnce_after rfl rfl ((after_queryParamsStream sql params).map _)
  | queryPreparedStream stmt params =>
      exact reportsOnce_after rfl rfl ((after_queryPreparedStream stmt params).map _)
  | queryCursor sql params fetchSize => exact reports_queryCursor sql params fetchSize _ rfl rfl
  | queryCursorStream sql params fetchSize =>
      have hOpen := @reports_queryCursor net conn _ sql params fetchSize
        (fun cursor => Handle.cursorStream (CursorStream.new cursor.portalName cursor.columns
          cursor.fetchSize cursor.ownsTransaction))
        (.opening (.queryCursorStream sql params fetchSize)) rfl rfl
      simp only [Opening.run, queryCursorStream, bind_assoc, pure_bind]
      exact hOpen
  | copyIn sql =>
      have hStart := @reports_copyStart net conn _ .copyIn copyInResponse_eq
        expectedCopyIn sql
      exact reports_map _ (reports_map _ hStart)
  | copyOut sql =>
      have hStart := @reports_copyStart net conn _ .copyOut copyOutResponse_eq
        expectedCopyOut sql
      exact reports_map _ (reports_map _ hStart)

end Call

namespace Session

variable {net : Network}

/-- The owner of a transaction has skipped what there was to skip when it began it. -/
def Owned (s : Session) : Prop :=
  match s.handle with
  | .cursor cursor => recoveredIf cursor.ownsTransaction s.conn.needsRecovery
  | .cursorStream stream => recoveredIf stream.ownsTransaction s.conn.needsRecovery
  | _ => True

theorem transport_drop (net : Network) (handle : Handle) (conn : Connection) :
    (handle.drop net conn).transport = conn.transport :=
  (sameReports_drop net handle conn).transport

section Calls

variable {L α : Type} {looks : List Entry → Prop} {wrap : L → Handle} {ended : α → Bool}
  {x : Owner L α} {l : L} {conn : Connection} {outcome : Outcome PgError Unit} {s' : Session}

theorem reports_afterCall
    (hCall : afterCall net wrap ended (x net (l, conn)) = (outcome, s'))
    (h : Reports net looks conn.transport (x net (l, conn)).2.2.transport (x net (l, conn)).1) :
    Reports net looks conn.transport s'.conn.transport outcome := by
  have hUnit := h.map fun _ => ()
  revert hCall hUnit
  match x net (l, conn) with
  | (.ok a, (l', conn')) =>
      intro hCall hUnit
      cases hCall
      split
      · rw [transport_drop]
        exact hUnit
      · exact hUnit
  | (.err e, (l', conn')) =>
      intro hCall hUnit
      cases hCall
      rw [transport_drop]
      exact hUnit
  | (.pending, (l', conn')) =>
      intro hCall hUnit
      cases hCall
      exact hUnit

theorem surfaces_afterCall {body : ErrorBody}
    (hCall : afterCall net wrap ended (x net (l, conn)) = (outcome, s'))
    (h : Surfaces body outcome) : Surfaces body (x net (l, conn)).1 := by
  revert hCall
  match x net (l, conn) with
  | (.ok a, (l', conn')) =>
      intro hCall
      cases hCall
      exact absurd rfl (h.fails ())
  | (.err e, (l', conn')) =>
      intro hCall
      cases hCall
      obtain ⟨serverErr, hBody, hServer⟩ := h
      cases hServer
      exact ⟨serverErr, hBody, rfl⟩
  | (.pending, (l', conn')) =>
      intro hCall
      cases hCall
      exact absurd h (not_surfaces_pending body)

theorem reports_afterBorrow (hCall : afterBorrow wrap (x net (l, conn)) = (outcome, s'))
    (h : Reports net looks conn.transport (x net (l, conn)).2.2.transport (x net (l, conn)).1) :
    Reports net looks conn.transport s'.conn.transport outcome := by
  cases hCall
  exact h.map fun _ => ()

end Calls

/-- What a call on a handle reports. -/
theorem reports_onHandle {call : HandleCall} {handle : Handle} {conn : Connection}
    {outcome : Outcome PgError Unit} {s' : Session} (hOwned : Owned ⟨handle, conn⟩)
    (hCancel : ∀ reason, call ≠ .copyCancel reason)
    (hStep : onHandle net conn call handle = some (outcome, s')) :
    Reports net (fun _ => True) conn.transport s'.conn.transport outcome := by
  cases call with
  | release =>
      cases handle <;> cases hStep <;>
        exact .silent _ (by rw [transport_drop]; exact Transport.passed_refl net _)
  | next =>
      cases handle with
      | rowStream stream =>
          exact reports_afterCall (Option.some.inj hStep)
            (honest_next (p := anyFlag) (stream, conn) trivial).1
      | _ => cases hStep
  | consume =>
      cases handle with
      | rowStream stream =>
          exact reports_afterCall (Option.some.inj hStep)
            (honest_consume (p := anyFlag) (stream, conn) trivial).1
      | _ => cases hStep
  | fetch =>
      cases handle with
      | cursor cursor =>
          exact reports_afterBorrow (Option.some.inj hStep)
            (honest_fetchNext (p := anyFlag) (cursor, conn) trivial).1
      | _ => cases hStep
  | close =>
      cases handle with
      | cursor cursor =>
          cases hStep
          exact (honest_closePortal _ _ conn hOwned).1
      | _ => cases hStep
  | cursorNext fuel =>
      cases handle with
      | cursorStream stream =>
          exact reports_afterCall (Option.some.inj hStep)
            (honest_cursorNext (p := anyFlag) fuel (stream, conn) trivial).1
      | _ => cases hStep
  | cursorConsume fuel =>
      cases handle with
      | cursorStream stream =>
          exact reports_afterCall (Option.some.inj hStep)
            (honest_cursorConsume fuel (stream, conn) hOwned).1
      | _ => cases hStep
  | copyWrite data =>
      cases handle with
      | copyIn copy =>
          exact reports_afterBorrow (Option.some.inj hStep)
            (honest_onSnd (honest_send (p := anyFlag) _) (copy, conn) trivial).1
      | _ => cases hStep
  | copyFinish =>
      cases handle with
      | copyIn copy =>
          exact reports_afterCall (Option.some.inj hStep)
            (honest_finish (p := anyFlag) (copy, conn) trivial).1
      | _ => cases hStep
  | copyCancel reason => exact absurd rfl (hCancel reason)
  | copyRead =>
      cases handle with
      | copyOut copy =>
          exact reports_afterCall (Option.some.inj hStep)
            (honest_readNext (p := anyFlag) (copy, conn) trivial).1
      | _ => cases hStep

/-- Fetching changes neither whose the transaction is nor the recovery flag. -/
theorem keeps_fetchNext (owns flag : Bool) :
    Keeps net (fun s => s.2.needsRecovery = flag ∧
      s.1.ownsTransaction = owns) Cursor.fetchNext := by
  have hInert := inert_needsRecovery flag
  have hOnSnd : ∀ {α : Type} {x : Client α}, Keeps net (fun conn => conn.needsRecovery = flag) x →
      Keeps net (fun s => s.2.needsRecovery = flag ∧ s.1.ownsTransaction = owns)
        (Async.onSnd x : Owner Cursor α) :=
    fun hx s hs => ⟨hx s.2 hs.1, hs.2⟩
  have hBody : ∀ (s : (Cursor × List Row) × Connection) message, s.1.1.ownsTransaction = owns →
      LeadsTo (fun s => s.1.1.ownsTransaction = owns) (Cursor.fetchBody s message) := by
    rintro ⟨⟨cursor, rows⟩, conn⟩ message hs
    simp only [Cursor.fetchBody, Connection.asyncFirst]
    cases conn.handleAsyncMessage message with
    | some conn' => exact hs
    | none =>
        cases message with
        | rowDescription fields => cases fields <;> exact hs
        | dataRow values => cases values <;> exact hs
        | _ => exact hs
  have hLocal : Keeps net (fun s => s.1.1.ownsTransaction = owns) (messageLoop Cursor.fetchBody) :=
    keeps_local (fun (l : Cursor × List Row) => l.1.ownsTransaction = owns) hBody
  have hFlag : Keeps net (fun s => s.2.needsRecovery = flag) (messageLoop Cursor.fetchBody) :=
    keeps_messageLoop hInert orderly_fetch
  have hLoop : Keeps net (fun s => s.2.needsRecovery = flag ∧ s.1.ownsTransaction = owns)
      Cursor.fetchLoop :=
    fun s hs => ⟨hFlag ((s.1, []), s.2) hs.1, hLocal ((s.1, []), s.2) hs.2⟩
  refine keeps_bind keeps_get fun s => keeps_ite (keeps_pure []) ?_
  refine keeps_bind (hOnSnd (keeps_transition hInert _)) fun _ => ?_
  refine keeps_bind (hOnSnd (keeps_sendBatch hInert _)) fun _ => keeps_bind hLoop fun result => ?_
  obtain ⟨ending, _⟩ := result
  cases ending with
  | ready => exact keeps_pure _
  | serverError body =>
      exact keeps_bind (hOnSnd (keeps_drainServerError hInert body)) fun _ => keeps_fail _

theorem triple_any {α : Type} (x : Client α) :
    Triple net (fun _ => True) x (fun _ _ => True) (fun _ _ => True) := by
  intro conn _
  rcases x net conn with ⟨_ | _ | _, _⟩ <;> exact trivial

theorem triple_openPortal (sql : String) (params : List ToSql) (fetchSize : Int32) (owns : Bool) :
    Triple net (fun _ => True) (openPortal sql params fetchSize owns)
      (fun cursor _ => cursor.ownsTransaction = owns) (fun _ _ => True) := by
  refine Triple.bind (triple_any _) fun _ => Triple.bind (triple_any _) fun values => ?_
  refine Triple.bind (triple_any _) fun conn => Triple.bind (triple_any _) fun _ => ?_
  refine Triple.bind (triple_any _) fun _ => Triple.withLocal ?_
  refine Triple.bind_via (fun _ _ => True) (fun s _ => ?_) fun ending => ?_
  · rcases messageLoop cursorOpenBody net s with ⟨_ | _ | _, _⟩ <;> exact trivial
  · cases ending with
    | ready =>
        refine Triple.bind_via (fun _ _ => True) (Triple.get fun _ _ => trivial) fun _ => ?_
        exact Triple.pure fun _ _ => rfl
    | serverError body =>
        refine Triple.bind_via (fun _ _ => True) (Triple.onSnd fun _ => triple_any _) fun _ => ?_
        exact Triple.fail fun _ _ => trivial

/-- A cursor that has begun its transaction leaves nothing to be skipped. -/
theorem recovered_of_queryCursor {sql : String} {params : List ToSql} {fetchSize : Int32}
    {conn conn' : Connection} {cursor : Cursor}
    (hRun : queryCursor sql params fetchSize net conn = (.ok cursor, conn')) :
    recoveredIf cursor.ownsTransaction conn'.needsRecovery := by
  by_cases hIdle : conn.transactionStatus = .idle
  · exact fun _ => (after_queryCursor sql params fetchSize hIdle).ok hRun
  · have hOwns := @triple_openPortal net sql params fetchSize false conn trivial
    rw [← queryCursor_open sql params fetchSize hIdle, hRun] at hOwns
    intro hNeed
    rw [show cursor.ownsTransaction = false from hOwns] at hNeed
    cases hNeed

theorem owned_none (conn : Connection) : Owned ⟨.none, conn⟩ := trivial

/-- A call on what has not begun a transaction, or has dropped it. -/
theorem owned_afterCall {L α : Type} {wrap : L → Handle} {ended : α → Bool} {x : Owner L α} {l : L}
    {conn : Connection} {outcome : Outcome PgError Unit} {s' : Session}
    (hCall : afterCall net wrap ended (x net (l, conn)) = (outcome, s'))
    (hReturned : outcome ≠ .pending)
    (hOk : ∀ a l' conn', x net (l, conn) = (.ok a, (l', conn')) → ended a = false →
      Owned ⟨wrap l', conn'⟩) : Owned s' := by
  revert hCall hOk
  match x net (l, conn) with
  | (.ok a, (l', conn')) =>
      intro hCall hOk
      cases hCall
      cases hEnded : ended a with
      | true => exact owned_none _
      | false => exact hOk a l' conn' rfl hEnded
  | (.err e, (l', conn')) =>
      intro hCall _
      cases hCall
      exact owned_none _
  | (.pending, (l', conn')) =>
      intro hCall _
      cases hCall
      exact absurd rfl hReturned

theorem owned_afterBorrow {L α : Type} {wrap : L → Handle} {x : Owner L α} {l : L}
    {conn : Connection}
    {outcome : Outcome PgError Unit} {s' : Session}
    (hCall : afterBorrow wrap (x net (l, conn)) = (outcome, s'))
    (h : Owned ⟨wrap (x net (l, conn)).2.1, (x net (l, conn)).2.2⟩) : Owned s' := by
  cases hCall
  exact h

theorem owned_onHandle {call : HandleCall} {handle : Handle} {conn : Connection}
    {outcome : Outcome PgError Unit} {s' : Session} (hOwned : Owned ⟨handle, conn⟩)
    (hStep : onHandle net conn call handle = some (outcome, s')) (hReturned : outcome ≠ .pending) :
    Owned s' := by
  cases call with
  | release => cases handle <;> cases hStep <;> exact owned_none _
  | next | consume =>
      cases handle with
      | rowStream stream =>
          exact owned_afterCall (Option.some.inj hStep) hReturned fun _ _ _ _ _ => trivial
      | _ => cases hStep
  | fetch =>
      cases handle with
      | cursor cursor =>
          refine owned_afterBorrow (Option.some.inj hStep) ?_
          have hKeeps : _ ∧ _ := @keeps_fetchNext net cursor.ownsTransaction conn.needsRecovery
            (cursor, conn) ⟨rfl, rfl⟩
          simp only [Owned]
          rw [hKeeps.1, hKeeps.2]
          exact hOwned
      | _ => cases hStep
  | close =>
      cases handle with
      | cursor cursor =>
          cases hStep
          exact owned_none _
      | _ => cases hStep
  | cursorNext fuel =>
      cases handle with
      | cursorStream stream =>
          refine owned_afterCall (Option.some.inj hStep) hReturned
            fun row stream' conn' hRun _ => ?_
          have hNext : Honest Prod.snd net (Owning stream.ownsTransaction conn.needsRecovery)
              (CursorStream.next fuel) (Owning stream.ownsTransaction conn.needsRecovery) :=
            (honest_cursorNext (p := fun current => current = conn.needsRecovery) fuel).keeps
              (keeps_cursorNext stream.ownsTransaction fuel)
          have hOwning := (hNext (stream, conn) ⟨rfl, rfl⟩).2 row (by rw [hRun])
          rw [hRun] at hOwning
          simp only [Owned]
          rw [hOwning.1, hOwning.2]
          exact hOwned
      | _ => cases hStep
  | cursorConsume fuel =>
      cases handle with
      | cursorStream stream =>
          exact owned_afterCall (Option.some.inj hStep) hReturned
            fun _ _ _ _ hEnded => by cases hEnded
      | _ => cases hStep
  | copyWrite data =>
      cases handle with
      | copyIn copy =>
          cases hStep
          exact trivial
      | _ => cases hStep
  | copyFinish | copyCancel reason =>
      cases handle with
      | copyIn copy =>
          exact owned_afterCall (Option.some.inj hStep) hReturned fun _ _ _ _ _ => trivial
      | _ => cases hStep
  | copyRead =>
      cases handle with
      | copyOut copy =>
          exact owned_afterCall (Option.some.inj hStep) hReturned fun _ _ _ _ _ => trivial
      | _ => cases hStep

theorem owned_opening {opening : Opening} {handle : Handle} {conn conn' : Connection}
    (hRun : opening.run net conn = (.ok handle, conn')) : Owned ⟨handle, conn'⟩ := by
  cases opening with
  | queryCursor sql params fetchSize =>
      obtain ⟨cursor, conn₁, hCursor, hPure⟩ := ok_of_bind hRun
      cases hPure
      exact recovered_of_queryCursor hCursor
  | queryCursorStream sql params fetchSize =>
      obtain ⟨stream, conn₁, hStream, hPure⟩ := ok_of_bind hRun
      cases hPure
      obtain ⟨cursor, conn₂, hCursor, hPure⟩ := ok_of_bind hStream
      cases hPure
      exact recovered_of_queryCursor hCursor
  | _ =>
      obtain ⟨_, conn₁, -, hPure⟩ := ok_of_bind hRun
      cases hPure
      exact trivial

theorem owned_step {s s' : Session} {call : Call} {outcome : Outcome PgError Unit}
    (hOwned : Owned s)
    (hStep : s.step net call = some (outcome, s')) (hReturned : outcome ≠ .pending) : Owned s' := by
  obtain ⟨handle, conn⟩ := s
  cases call with
  | handle call => exact owned_onHandle hOwned hStep hReturned
  | operation op =>
      cases handle with
      | none =>
          cases hStep
          exact owned_none _
      | _ => cases hStep
  | opening opening =>
      cases handle with
      | none =>
          simp only [Session.step] at hStep
          cases hRun : opening.run net conn with
          | mk result conn' =>
              rw [hRun] at hStep
              cases result with
              | ok handle =>
                  cases hStep
                  exact owned_opening hRun
              | err e =>
                  cases hStep
                  exact owned_none _
              | pending =>
                  cases hStep
                  exact owned_none _
      | _ => cases hStep

theorem owned_reaches {conn : Connection} {s : Session} (hReach : Reaches net ⟨.none, conn⟩ s) :
    Owned s := by
  induction hReach with
  | start => exact owned_none conn
  | step _ hStep hReturned ih => exact owned_step ih hStep hReturned

theorem reports_step {s s' : Session} {call : Call} {outcome : Outcome PgError Unit}
    (hOwned : Owned s)
    (hCancel : ∀ reason, call ≠ .handle (.copyCancel reason))
    (hStep : s.step net call = some (outcome, s')) :
    Reports net call.tells (call.begun net s.conn).transport s'.conn.transport outcome := by
  obtain ⟨handle, conn⟩ := s
  cases call with
  | handle call =>
      have hReports := reports_onHandle hOwned (fun reason h => hCancel reason (by rw [h])) hStep
      have hTells : (Call.handle call).tells = fun _ => True := by
        cases call with
        | copyCancel reason => exact absurd rfl (hCancel reason)
        | _ => rfl
      rw [hTells]
      exact hReports
  | operation op =>
      cases handle with
      | none =>
          cases hStep
          exact Call.reports_operation op
      | _ => cases hStep
  | opening opening =>
      cases handle with
      | none =>
          have hReports := @Call.reports_opening net conn opening
          simp only [Session.step] at hStep
          rw [Call.ReportsOnce] at hReports
          revert hReports
          cases hRun : opening.run net conn with
          | mk result conn' =>
              rw [hRun] at hStep
              cases result with
              | ok handle =>
                  cases hStep
                  exact fun hReports => hReports.map fun _ => ()
              | err e =>
                  cases hStep
                  exact fun hReports => hReports.err
              | pending =>
                  cases hStep
                  exact fun hReports => hReports.pending
      | _ => cases hStep

end Session

namespace Connection

/-- What never fails with an error of the server. -/
abbrev Mute {σ α : Type} (net : Network) (x : Async Network σ PgError α) : Prop :=
  Triple net (fun _ => True) x (fun _ _ => True) (fun e _ => e.endsReply = false)

section Mute

variable {σ L α β : Type} {net : Network}

theorem Mute.not_surfaces {x : Async Network σ PgError α} (hx : Mute net x) (body : ErrorBody)
    (s : σ) : ¬ Surfaces body (x net s).1 := by
  have hEnd := hx s trivial
  revert hEnd
  match x net s with
  | (.ok a, s') => exact fun _ hSurfaces => hSurfaces.fails a rfl
  | (.err e, s') => exact fun hError => not_surfaces_of_endsReply body hError
  | (.pending, s') => exact fun _ => not_surfaces_pending body

theorem mute_bind {x : Async Network σ PgError α} {f : α → Async Network σ PgError β}
    (hx : Mute net x) (hf : ∀ a, Mute net (f a)) : Mute net (x >>= f) :=
  Triple.bind hx hf

theorem mute_get : Mute net (Async.get : Async Network σ PgError σ) := Triple.get fun _ _ => trivial

theorem mute_modify (f : σ → σ) : Mute net (Async.modify f : Async Network σ PgError Unit) :=
  Triple.modify fun _ _ => trivial

theorem mute_pure (a : α) : Mute net (pure a : Async Network σ PgError α) :=
    Triple.pure fun _ _ => trivial

theorem mute_onSnd {x : Client α} (hx : Mute net x) : Mute net (Async.onSnd x : Owner L α) :=
  Triple.onSnd fun _ => hx

theorem mute_withLocal {l : L} {x : Owner L α} (hx : Mute net x) :
    Mute net (Async.withLocal l x : Client α) :=
  Triple.withLocal (hx.pre_mono fun _ _ => trivial)

theorem mute_send (message : FrontendMessage) : Mute net (send message) := by
  intro conn _
  have hSend := send_cases net message conn
  split at hSend
  · rw [hSend]
    trivial
  · obtain ⟨e, t, hSend, hError, -⟩ := hSend
    rw [hSend]
    exact hError

theorem mute_transition (state : ConnectionState) : Mute net (transition state) := by
  intro conn _
  simp only [transition]
  split
  · trivial
  · rfl

theorem mute_readUntilReady : Mute net readUntilReady := by
  intro conn _
  have hErrors := (readUntilReady_skips net conn).2.2
  revert hErrors
  match readUntilReady net conn with
  | (.ok value, conn') => exact fun _ => trivial
  | (.err e, conn') => exact fun hErrors => hErrors e rfl
  | (.pending, conn') => exact fun _ => trivial

/-- A loop whose body never leaves with an error of the server. -/
theorem mute_loop {body : L × Connection → BackendMessage →
    Step (L × Connection) (Except PgError β)}
    (hBody : ∀ s message e s', body s message = .exit (.error e) s' → e.endsReply = false) :
    Mute net (messageLoop body) := by
  intro s _
  simp only [messageLoop]
  cases hDrive : drive (readStep body) s s.2.transport.inbox with
  | waiting s' =>
      cases s.2.transport.ending with
      | none => trivial
      | some e => exact e.toPgError_endsReply
  | done result s' rest =>
      cases result with
      | ok b => trivial
      | error e =>
          obtain ⟨_, entry, s₁, -, -, hExit⟩ := drive_done_split _ hDrive
          cases entry with
          | ok message => exact hBody s₁ message e s' hExit
          | error readError =>
              cases hExit
              exact readError.toPgError_endsReply

theorem mute_notification : Mute net (messageLoop notificationBody) := by
  refine mute_loop fun (value, conn) message e s' hExit => ?_
  cases message with
  | noticeResponse body =>
      simp only [notificationBody_noticeResponse] at hExit
      split at hExit <;> cases hExit
  | parameterStatus body =>
      simp only [notificationBody_parameterStatus] at hExit
      split at hExit <;> cases hExit
  | _ => cases hExit; try rfl

theorem mute_emptyCycle : Mute net (messageLoop emptyCycleBody) := by
  refine mute_loop fun (value, conn) message e s' hExit => ?_
  cases message with
  | noticeResponse body =>
      simp only [emptyCycleBody] at hExit
      split at hExit <;> cases hExit
  | parameterStatus body =>
      simp only [emptyCycleBody] at hExit
      split at hExit <;> cases hExit
  | _ => cases hExit

theorem mute_beforeDeadline {x : Client α} (hx : Mute net x) : Mute net (beforeDeadline x) := by
  intro conn _
  have hEnd := hx conn trivial
  simp only [beforeDeadline]
  revert hEnd
  cases x net conn with
  | mk outcome conn' =>
      cases outcome with
      | ok a => exact id
      | err e => exact id
      | pending => exact fun _ => trivial

theorem mute_waitForNotification (timeout : Option Nat) :
    Mute net (waitForNotification timeout) := by
  have hBlocking : Mute net readNextNotificationBlocking := by
    refine mute_bind mute_get fun conn => mute_bind ?_ fun _ => mute_withLocal mute_notification
    by_cases hIdle : !conn.isIdle
    · rw [failIf_pos hIdle]
      exact Triple.fail fun _ _ => rfl
    · rw [failIf_neg hIdle]
      exact mute_pure ()
  refine mute_bind mute_get fun conn => ?_
  cases conn.notificationQueue with
  | cons notification queue => exact mute_bind (mute_modify _) fun _ => mute_pure _
  | nil =>
      cases timeout with
      | none => exact mute_bind hBlocking fun notification => mute_pure _
      | some timeout =>
          cases timeout with
          | zero => exact mute_pure _
          | succ timeout => exact mute_beforeDeadline hBlocking

theorem mute_waitForNotificationFallback (timeout : Option Nat) :
    Mute net (waitForNotificationFallback timeout) := by
  have hCycle : Mute net emptyCycle := by
    refine mute_bind (mute_withLocal mute_emptyCycle) fun handed => ?_
    cases handed with
    | some notification => exact mute_bind mute_readUntilReady fun _ => mute_pure _
    | none =>
        refine mute_bind mute_get fun conn => ?_
        cases conn.notificationQueue with
        | cons notification queue => exact mute_bind (mute_modify _) fun _ => mute_pure _
        | nil => exact mute_pure _
  refine mute_bind mute_get fun conn => ?_
  cases conn.notificationQueue with
  | cons notification queue => exact mute_bind (mute_modify _) fun _ => mute_pure _
  | nil =>
      dsimp only
      split
      · exact mute_pure _
      · exact mute_bind (mute_transition _) fun _ => mute_bind (mute_send _) fun _ => hCycle

theorem mute_cancel (reason : String) : Mute net (CopyIn.cancel reason) := by
  refine mute_bind (mute_onSnd (mute_send _)) fun _ => ?_
  refine mute_bind (mute_onSnd mute_readUntilReady) fun _ => ?_
  exact mute_bind (mute_modify _) fun _ => mute_modify _

end Mute

end Connection

namespace Auth

/-- An error of the server that a startup meets becomes a text. -/
theorem handshake_not_surfaces {Scram : Type} (config : Config) (requests : Nat) (peer : Peer Scram)
    (body : ErrorBody) : ¬ Surfaces body (handshake config requests peer) := by
  rintro ⟨serverErr, -, hServer⟩
  simp only [handshake] at hServer
  split at hServer
  case h_1 => cases hServer
  case h_2 e _ hStartup =>
      cases e <;> cases hServer
  case h_3 => cases hServer

end Auth

namespace Session

/-- Where an error of the server is met, the call fails with it just where it looks for it, its
fields can be read, and its reply can be read to the end; the waits for a notification and the
startup never fail with it. -/
theorem server_error_surfaces_iff (net : Network) :
    (∀ conn s s' call outcome before body ahead, Reaches net ⟨.none, conn⟩ s →
      s.step net call = some (outcome, s') →
      MeetsError net (call.begun net s.conn).transport s'.conn.transport before body ahead →
      (Surfaces body outcome ↔ call.tells before ∧ Resynchronises body ahead)) ∧
    (∀ conn timeout body, ¬ Surfaces body (waitForNotification timeout net conn).1 ∧
      ¬ Surfaces body (waitForNotificationFallback timeout net conn).1) ∧
    (∀ (Scram : Type) config requests (peer : Auth.Peer Scram) body,
      ¬ Surfaces body (Auth.handshake config requests peer)) := by
  refine ⟨?_, ?_, ?_⟩
  · intro conn s s' call outcome before body ahead hReach hStep hMeets
    by_cases hCancel : ∃ reason, call = .handle (.copyCancel reason)
    · obtain ⟨reason, rfl⟩ := hCancel
      refine iff_of_false (fun hSurfaces => ?_) fun h => h.1.elim
      obtain ⟨handle, conn⟩ := s
      cases handle with
      | copyIn copy =>
          have hMute : Mute net (CopyIn.cancel reason) := mute_cancel reason
          exact hMute.not_surfaces body (copy, conn)
            (surfaces_afterCall (Option.some.inj hStep) hSurfaces)
      | _ => cases hStep
    · exact (reports_step (owned_reaches hReach)
        (fun reason h => hCancel ⟨reason, h⟩) hStep).surfaces_iff
        hMeets
  · intro conn timeout body
    exact ⟨(mute_waitForNotification timeout).not_surfaces body conn,
      (mute_waitForNotificationFallback timeout).not_surfaces body conn⟩
  · exact fun Scram config requests peer body =>
      Auth.handshake_not_surfaces config requests peer body

/-- `terminating connection due to administrator command`. -/
def shutdownBody : ErrorBody :=
  { fields := .ok [(83, "FATAL"), (67, "57P01"), (77, "terminating connection")] }

/-- A server that answers with that error, and then with the end of the reply or of the stream. -/
def failingNetwork (recovers : Bool) : Network where
  frontend := fun _ => .ok []
  frontendTotal := fun _ => []
  typeFromOid := fun _ => none
  answer := fun _ _ =>
    if recovers then ⟨[.ok (.errorResponse shutdownBody), .ok (.readyForQuery 73)], none⟩
    else ⟨[.ok (.errorResponse shutdownBody)], some (.transport .unexpectedEof)⟩
  writeError := fun _ => none
  flushError := fun _ => none

/-- A batch on a new connection to that server. -/
def batchFails (recovers : Bool) : Outcome PgError Unit × Session :=
  (step (failingNetwork recovers) ⟨.none, .new⟩ (.operation (.batchExecute "SELECT 1"))).get rfl

theorem meetsError_batch (recovers : Bool) :
    MeetsError (failingNetwork recovers) Connection.new.transport
      (batchFails recovers).2.conn.transport [] shutdownBody
      (if recovers then [.ok (.readyForQuery 73)] else []) := by
  cases recovers
  · exact ⟨[.query "SELECT 1"], [], by rfl, clean_nil, by rfl⟩
  · exact ⟨[.query "SELECT 1"], [.ok (.readyForQuery 73)], by rfl, clean_nil, by rfl⟩

theorem batch_error_surfaces : Surfaces shutdownBody (batchFails true).1 :=
  ((server_error_surfaces_iff (failingNetwork true)).1 .new ⟨.none, .new⟩ (batchFails true).2
    (.operation (.batchExecute "SELECT 1")) (batchFails true).1 [] shutdownBody
    [.ok (.readyForQuery 73)] .start rfl (meetsError_batch true)).mpr ⟨trivial, rfl, rfl⟩

/-- The server closes the connection after a fatal error, and the error is lost. -/
theorem fatal_error_lost :
    ¬ ∀ net conn s s' call outcome before body ahead, Reaches net ⟨.none, conn⟩ s →
      s.step net call = some (outcome, s') →
      MeetsError net (call.begun net s.conn).transport s'.conn.transport before body ahead →
      Surfaces body outcome := by
  intro hAll
  have hSurfaces := hAll (failingNetwork false) .new ⟨.none, .new⟩ (batchFails false).2
    (.operation (.batchExecute "SELECT 1")) (batchFails false).1 [] shutdownBody [] .start rfl
    (meetsError_batch false)
  obtain ⟨serverErr, -, hServer⟩ := hSurfaces
  cases hServer

end Session
end PgClient
