import PgClient.Effects.Parameters
import PgClient.Reconnect.Reconnect
import PgClient.Reconnect.SessionServer

/-!
The tracked session state against the session on the server, over runs of the calls that
register in it, of other statements, and of reconnects that bring it back.
-/

namespace PgClient

open Async Connection

namespace ServerSession

variable {s : ServerSession} {session : SessionState}

theorem tracked_fresh (initSql : Option String) (statements : List (String × String))
    (tables : List String) (inTransaction : Bool) :
    fresh.Tracked ⟨statements, [], tables, [], initSql, inTransaction⟩ :=
  ⟨fun _ => by simp [fresh], fun _ => rfl, List.nodup_nil⟩

/-- The flag does not matter, nor do the other fields. -/
theorem Tracked.of_same {session' : SessionState} (h : s.Tracked session)
    (hChannels : session'.listenChannels = session.listenChannels)
    (hParams : session'.customGucs = session.customGucs) : s.Tracked session' := by
  constructor
  · rw [hChannels]
    exact h.channels
  · rw [hParams]
    exact h.params
  · rw [hParams]
    exact h.keys

theorem Tracked.listen (h : s.Tracked session) (channel : String) :
    ((SessionCommand.listen channel).apply s).Tracked (session.trackListen channel) where
  channels := by
    intro name
    simp only [SessionCommand.apply, SessionState.trackListen, setInsert, h.channels]
    split
    case isTrue hMem =>
        by_cases hName : name = channel
        · simp [hName, hMem]
        · simp [hName]
    case isFalse => simp [Bool.decide_or]
  params := h.params
  keys := h.keys

theorem Tracked.unlisten (h : s.Tracked session) (channel : String) :
    ((SessionCommand.unlisten channel).apply s).Tracked (session.trackUnlisten channel) where
  channels := by
    intro name
    simp only [SessionCommand.apply, SessionState.trackUnlisten, h.channels, List.mem_filter]
    by_cases hName : name = channel <;> simp [hName]
  params := h.params
  keys := h.keys

theorem Tracked.unlistenAll (h : s.Tracked session) :
    (SessionCommand.unlistenAll.apply s).Tracked session.clearListenChannels where
  channels := by simp [SessionCommand.apply, SessionState.clearListenChannels]
  params := h.params
  keys := h.keys

theorem keys_mapInsert {key value : String} {map : List (String × String)}
    (h : (map.map Prod.fst).Nodup) : ((mapInsert key value map).map Prod.fst).Nodup := by
  rw [mapInsert, List.map_cons, List.nodup_cons]
  refine ⟨by simp, ?_⟩
  exact h.sublist (List.filter_sublist.map _)

theorem Tracked.assign (h : s.Tracked session) {key : String} (hKey : foldName key = key)
    (value : String) :
    ((SessionCommand.assign key value).apply s).Tracked (session.trackSetGuc key value) where
  channels := h.channels
  params := by
    intro name
    simp only [SessionCommand.apply, SessionState.trackSetGuc, lookup_mapInsert, hKey, h.params]
  keys := keys_mapInsert h.keys

theorem Tracked.discardAll (session : SessionState) :
    (SessionCommand.discardAll.apply s).Tracked session.clear :=
  tracked_fresh session.reconnectInitSql [] [] false

end ServerSession

/-- The calls that register in the tracked state, and any other statement. -/
inductive TrackedCall where
  | setParam (key value : String)
  | listen (channel : String)
  | unlisten (channel : String)
  | unlistenAll
  | reset
  | execute (sql : String)

namespace TrackedCall

def run : TrackedCall → Client Unit
  | .setParam key value => Connection.setParam key value
  | .listen channel => Connection.listen channel
  | .unlisten channel => Connection.unlisten channel
  | .unlistenAll => Connection.unlistenAll
  | .reset => Connection.reset
  | .execute sql => do
      let _ ← Connection.execute sql

/-- The server has answered to the end, with an error or without one. -/
def Concluded {α : Type} (outcome : Outcome PgError α) : Prop :=
  (∃ a, outcome = .ok a) ∨ ∃ e, outcome = .err (.server e)

theorem Concluded.server {α : Type} {e : PgError}
    (h : Concluded (.err e : Outcome PgError α)) : ∃ error, e = .server error := by
  obtain ⟨_, hOk⟩ | ⟨error, hErr⟩ := h
  · cases hOk
  · cases hErr
    exact ⟨error, rfl⟩

theorem not_concluded_pending {α : Type} : ¬ Concluded (.pending : Outcome PgError α) := by
  rintro (⟨_, hOk⟩ | ⟨_, hErr⟩)
  · cases hOk
  · cases hErr

variable {net : Network}

/-- A statement that leaves the session on the server alone. -/
def Neutral (server : SessionServer net) (conn : Connection) (sql : String) : Prop :=
  server.session (.query sql :: conn.arrival net) = server.session (conn.arrival net)

/-- Names that the server takes as they are, no backslash in a value, and no transaction
around a call that registers something. -/
def Allowed (server : SessionServer net) (conn : Connection) : TrackedCall → Prop
  | .setParam key value =>
      server.block (conn.arrival net) = .none ∧ FitsIdentifier key ∧ foldName key = key ∧
        '\\' ∉ value.toList
  | .listen channel | .unlisten channel =>
      server.block (conn.arrival net) = .none ∧ FitsIdentifier channel
  | .unlistenAll => server.block (conn.arrival net) = .none
  | .reset => Neutral server conn "ROLLBACK"
  | .execute sql => Neutral server conn sql

end TrackedCall

namespace Connection

open TrackedCall

/-- Nothing is in flight, and the tracked state is that of the session. -/
structure InStep {net : Network} (server : SessionServer net) (conn : Connection) : Prop where
  good : Good server.toServer conn
  idle : conn.state = .idle
  recovered : conn.needsRecovery = false
  status : conn.transactionStatus = (server.block (conn.arrival net)).status
  tracked : (server.session (conn.arrival net)).Tracked conn.sessionState

section Calls

variable {net : Network} {server : SessionServer net} {conn conn' : Connection} {sql : String}

/-- Where the session stands after a statement is all that is left to show. -/
theorem InStep.of_responded
    (hResponded : Responded server.toTransactionServer sql conn conn')
    (hTracked : (server.session (.query sql :: conn.arrival net)).Tracked conn.sessionState) :
    InStep server conn' := by
  obtain ⟨inTransaction, hSession⟩ := hResponded.session
  refine ⟨hResponded.good, hResponded.idle, hResponded.recovered, ?_, ?_⟩
  · rw [hResponded.arrival]
    exact hResponded.status
  · rw [hResponded.arrival, hSession]
    exact hTracked.of_same rfl rfl

theorem InStep.acknowledged (h : InStep server conn) {result : ExecuteResult}
    (hRun : Connection.execute sql net conn = (.ok result, conn')) :
    Acknowledged server.toTransactionServer sql conn conn' :=
  acknowledged_of_idle h.good h.idle h.recovered hRun

theorem InStep.refused (h : InStep server conn) {e : PgServerError}
    (hRun : Connection.execute sql net conn = (.err (.server e), conn')) :
    Rejected server.toTransactionServer sql conn conn' :=
  rejected_of_idle h.good h.idle h.recovered hRun

theorem InStep.neutral (h : InStep server conn) (hNeutral : Neutral server conn sql)
    {outcome : Outcome PgError ExecuteResult}
    (hRun : Connection.execute sql net conn = (outcome, conn')) (hConcluded : Concluded outcome) :
    InStep server conn' := by
  have hTracked := h.tracked
  rw [← hNeutral] at hTracked
  obtain ⟨result, rfl⟩ | ⟨e, rfl⟩ := hConcluded
  · exact .of_responded (h.acknowledged hRun).toResponded hTracked
  · exact .of_responded (h.refused hRun).toResponded hTracked

/-- A statement that is a command of the session, and is registered once it is accepted. -/
theorem InStep.command (h : InStep server conn) {command : SessionCommand}
    (hCommand : SessionCommand.ofSql sql = some command)
    (hBlock : server.block (conn.arrival net) = .none) {track : SessionState → SessionState}
    (hTrack : ∀ s session, ServerSession.Tracked s session →
      (command.apply s).Tracked (track session))
    {outcome : Outcome PgError Unit}
    (hRun : Connection.tracked sql track net conn = (outcome, conn'))
    (hConcluded : Concluded outcome) : InStep server conn' := by
  rw [Connection.tracked, bind_apply] at hRun
  cases hExecute : Connection.execute sql net conn with
  | mk outcome₁ conn₁ =>
      rw [hExecute] at hRun
      cases outcome₁ with
      | ok result =>
          cases hRun
          have hResponded := h.acknowledged hExecute
          obtain ⟨inTransaction, hSession⟩ := hResponded.session
          refine ⟨hResponded.good, hResponded.idle, hResponded.recovered, ?_, ?_⟩
          · exact hResponded.status.trans (congrArg _ (congrArg _ hResponded.arrival.symm))
          · show (server.session (conn₁.arrival net)).Tracked (track conn₁.sessionState)
            rw [hResponded.arrival, server.executes _ _ _ hCommand hBlock hResponded.accepts]
            refine hTrack _ _ (h.tracked.of_same ?_ ?_) <;> rw [hSession] <;> rfl
      | err e =>
          cases hRun
          obtain ⟨e, rfl⟩ := hConcluded.server
          have hRejected := h.refused hExecute
          refine .of_responded hRejected.toResponded ?_
          rw [server.refuses _ _ _ hCommand hBlock hRejected.alive hRejected.ready hRejected.error]
          exact h.tracked
      | pending =>
          cases hRun
          exact absurd hConcluded not_concluded_pending

theorem block_of_idle {block : Block} (h : block.status = .idle) : block = .none := by
  cases block with
  | none => rfl
  | active id => cases h
  | failed id => cases h

theorem reset_tracked : Connection.reset = (do
    let conn ← .get
    .doIf (conn.transactionStatus = .failed ∨ conn.transactionStatus = .inTransaction) do
      let _ ← Connection.execute "ROLLBACK"
    Connection.tracked "DISCARD ALL" SessionState.clear) := rfl

theorem InStep.discard (h : InStep server conn) (hBlock : server.block (conn.arrival net) = .none)
    {outcome : Outcome PgError Unit}
    (hRun : Connection.tracked "DISCARD ALL" SessionState.clear net conn = (outcome, conn'))
    (hConcluded : Concluded outcome) : InStep server conn' :=
  h.command SessionCommand.ofSql_discardAll hBlock
    (fun _ session _ => ServerSession.Tracked.discardAll session) hRun hConcluded

/-- Resetting ends the transaction first, if there is one. -/
theorem InStep.reset (h : InStep server conn) (hNeutral : Neutral server conn "ROLLBACK")
    {outcome : Outcome PgError Unit} (hRun : Connection.reset net conn = (outcome, conn'))
    (hConcluded : Concluded outcome) : InStep server conn' := by
  rw [reset_tracked, bind_of_ok (get_apply ..)] at hRun
  by_cases hOpen : conn.transactionStatus = .failed ∨ conn.transactionStatus = .inTransaction
  · rw [doIf_pos hOpen, bind_assoc, bind_apply] at hRun
    cases hRollback : Connection.execute "ROLLBACK" net conn with
    | mk outcome₁ conn₁ =>
        rw [hRollback] at hRun
        cases outcome₁ with
        | ok result =>
            have hAfter := h.acknowledged hRollback
            exact (h.neutral hNeutral hRollback (.inl ⟨_, rfl⟩)).discard hAfter.rolledBack hRun
              hConcluded
        | err e =>
            cases hRun
            obtain ⟨e, rfl⟩ := hConcluded.server
            exact h.neutral hNeutral hRollback (.inr ⟨e, rfl⟩)
        | pending =>
            cases hRun
            exact absurd hConcluded not_concluded_pending
  · rw [doIf_neg hOpen] at hRun
    have hIdle : conn.transactionStatus = .idle := by
      cases hStatus : conn.transactionStatus <;> simp [hStatus] at hOpen ⊢
    exact h.discard (block_of_idle (h.status.symm.trans hIdle)) hRun hConcluded

/-- Every call that is made outside a transaction, and every neutral statement. -/
theorem InStep.call (h : InStep server conn) {call : TrackedCall}
    (hAllowed : call.Allowed server conn) {outcome : Outcome PgError Unit}
    (hRun : call.run net conn = (outcome, conn')) (hConcluded : Concluded outcome) :
    InStep server conn' := by
  cases call with
  | setParam key value =>
      obtain ⟨hBlock, hKey, hFold, hValue⟩ := hAllowed
      exact h.command (SessionCommand.ofSql_setParam hKey hValue) hBlock
        (fun _ _ hTracked => hTracked.assign hFold value) hRun hConcluded
  | listen channel =>
      obtain ⟨hBlock, hChannel⟩ := hAllowed
      exact h.command (SessionCommand.ofSql_listen hChannel) hBlock
        (fun _ _ hTracked => hTracked.listen channel) hRun hConcluded
  | unlisten channel =>
      obtain ⟨hBlock, hChannel⟩ := hAllowed
      exact h.command (SessionCommand.ofSql_unlisten hChannel) hBlock
        (fun _ _ hTracked => hTracked.unlisten channel) hRun hConcluded
  | unlistenAll =>
      exact h.command SessionCommand.ofSql_unlistenAll hAllowed
        (fun _ _ hTracked => hTracked.unlistenAll) hRun hConcluded
  | reset => exact h.reset hAllowed hRun hConcluded
  | execute sql =>
      rw [TrackedCall.run, bind_apply] at hRun
      cases hExecute : Connection.execute sql net conn with
      | mk outcome₁ conn₁ =>
          rw [hExecute] at hRun
          cases outcome₁ with
          | ok result =>
              cases hRun
              exact h.neutral hAllowed hExecute (.inl ⟨_, rfl⟩)
          | err e =>
              cases hRun
              obtain ⟨e, rfl⟩ := hConcluded.server
              exact h.neutral hAllowed hExecute (.inr ⟨e, rfl⟩)
          | pending =>
              cases hRun
              exact absurd hConcluded not_concluded_pending

/-- Only the flag of the tracked state changes. -/
def FlagOnly (conn conn' : Connection) : Prop :=
  ∃ inTransaction, conn'.sessionState = conn.sessionState.setInTransaction inTransaction

theorem flagOnly_refl (conn : Connection) : FlagOnly conn conn := ⟨_, setInTransaction_self _⟩

theorem FlagOnly.trans {conn'' : Connection} (h : FlagOnly conn conn')
    (hLater : FlagOnly conn' conn'') : FlagOnly conn conn'' := by
  obtain ⟨first, hFirst⟩ := h
  obtain ⟨second, hSecond⟩ := hLater
  exact ⟨second, by rw [hSecond, hFirst]; rfl⟩

theorem flagOnly_recover (net : Network) (conn : Connection) :
    FlagOnly conn (recover net conn).2 := by
  cases hNeeds : conn.needsRecovery with
  | false =>
      rw [recover_unneeded net hNeeds]
      exact flagOnly_refl conn
  | true =>
      have hCore := recover_core net hNeeds
      revert hCore
      cases skipReply conn.transport.inbox with
      | complete status rest => exact False.elim
      | failed status rest =>
          rintro ⟨conn', hRun, hCore⟩
          rw [hRun]
          exact ⟨_, congrArg Core.sessionState hCore⟩
      | broken rest =>
          rintro ⟨e, conn', hRun, hCore⟩
          rw [hRun]
          exact ⟨_, congrArg Core.sessionState hCore⟩
      | short =>
          rintro ⟨outcome, conn', hRun, _, hCore⟩
          rw [hRun]
          exact ⟨_, congrArg Core.sessionState hCore⟩

theorem flagOnly_of_executed {α : Type} {result : Outcome PgError α × Connection}
    (h : Executed net sql conn.core result) : FlagOnly conn result.2 := by
  unfold Executed at h
  split at h
  · split at h
    all_goals exact ⟨_, congrArg Core.sessionState h.2⟩
  · obtain ⟨_, t, _, hCore⟩ := h
    exact ⟨_, congrArg Core.sessionState hCore⟩

/-- Whatever a statement comes to. -/
theorem flagOnly_execute (net : Network) (conn : Connection) (sql : String) :
    FlagOnly conn (Connection.execute sql net conn).2 := by
  have hRecovered := flagOnly_recover net conn
  cases hRecover : recover net conn with
  | mk outcome conn₁ =>
      rw [hRecover] at hRecovered
      cases outcome with
      | err e =>
          rw [execute_of_recover_fails hRecover (by simp)]
          exact hRecovered
      | pending =>
          rw [execute_of_recover_fails hRecover (by simp)]
          exact hRecovered
      | ok value =>
          have hFlag := recover_flag hRecover
          rw [execute_of_recover hRecover hFlag]
          refine hRecovered.trans ?_
          by_cases hIdle : conn₁.state = .idle
          · exact flagOnly_of_executed (executed_execute net sql hIdle hFlag)
          · have hRejected : conn₁.state.permits .streaming = false := by
              rw [Bool.eq_false_iff]
              exact fun hPermits => hIdle (ConnectionState.idle_of_permits rfl hPermits)
            have hSame : (Connection.execute sql net conn₁).2 = conn₁ := by
              simp [Connection.execute, query, queryStream, recover_unneeded net hFlag,
                transition, hRejected]
            rw [hSame]
            exact flagOnly_refl conn₁

theorem flagOnly_tracked {track : SessionState → SessionState} {e : PgError}
    (hRun : Connection.tracked sql track net conn = (.err e, conn')) : FlagOnly conn conn' := by
  have hExecuted := flagOnly_execute net conn sql
  rw [Connection.tracked, bind_apply] at hRun
  cases hExecute : Connection.execute sql net conn with
  | mk outcome conn₁ =>
      rw [hExecute] at hRun hExecuted
      cases outcome <;> cases hRun
      exact hExecuted

theorem reset_clears {value : Unit} (hRun : Connection.reset net conn = (.ok value, conn')) :
    ∃ session : SessionState, conn'.sessionState = session.clear := by
  rw [reset_eq, bind_apply] at hRun
  cases hStatements : resetStatements net conn with
  | mk outcome conn₁ =>
      rw [hStatements] at hRun
      cases outcome <;> cases hRun
      exact ⟨_, rfl⟩

/-- A call that fails registers nothing. -/
theorem flagOnly_of_call {call : TrackedCall} {e : PgError}
    (hRun : call.run net conn = (.err e, conn')) : FlagOnly conn conn' := by
  cases call with
  | setParam | listen | unlisten | unlistenAll =>
      simp only [TrackedCall.run, setParam, listen, unlisten, unlistenAll] at hRun
      exact flagOnly_tracked hRun
  | execute sql =>
      have hExecuted := flagOnly_execute net conn sql
      rw [TrackedCall.run, bind_apply] at hRun
      cases hExecute : Connection.execute sql net conn with
      | mk outcome conn₁ =>
          rw [hExecute] at hRun hExecuted
          cases outcome <;> cases hRun
          exact hExecuted
  | reset =>
      rw [TrackedCall.run, reset_tracked, bind_of_ok (get_apply ..)] at hRun
      by_cases hOpen : conn.transactionStatus = .failed ∨ conn.transactionStatus = .inTransaction
      · rw [doIf_pos hOpen, bind_assoc, bind_apply] at hRun
        have hExecuted := flagOnly_execute net conn "ROLLBACK"
        cases hRollback : Connection.execute "ROLLBACK" net conn with
        | mk outcome conn₁ =>
            rw [hRollback] at hRun hExecuted
            cases outcome with
            | ok result => exact hExecuted.trans (flagOnly_tracked hRun)
            | err e =>
                cases hRun
                exact hExecuted
            | pending => cases hRun
      · rw [doIf_neg hOpen] at hRun
        exact flagOnly_tracked hRun

end Calls

end Connection

/-- What has been registered can be told to another server. -/
structure SessionState.Valid (session : SessionState) : Prop where
  channels : ∀ channel ∈ session.listenChannels, FitsIdentifier channel
  params : ∀ entry ∈ session.customGucs,
    FitsIdentifier entry.1 ∧ foldName entry.1 = entry.1 ∧ '\\' ∉ entry.2.toList
  keys : (session.customGucs.map Prod.fst).Nodup

namespace SessionState

variable {session : SessionState}

theorem Valid.of_same {session' : SessionState} (h : session.Valid)
    (hChannels : session'.listenChannels = session.listenChannels)
    (hParams : session'.customGucs = session.customGucs) : session'.Valid := by
  constructor
  · rw [hChannels]
    exact h.channels
  · rw [hParams]
    exact h.params
  · rw [hParams]
    exact h.keys

theorem valid_clear (session : SessionState) : session.clear.Valid :=
  ⟨by simp [clear], by simp [clear], List.nodup_nil⟩

theorem Valid.listen (h : session.Valid) {channel : String} (hChannel : FitsIdentifier channel) :
    (session.trackListen channel).Valid := by
  refine ⟨fun name hMem => ?_, h.params, h.keys⟩
  simp only [trackListen, setInsert] at hMem
  split at hMem
  · exact h.channels name hMem
  · obtain rfl | hOld := List.mem_cons.mp hMem
    · exact hChannel
    · exact h.channels name hOld

theorem Valid.unlisten (h : session.Valid) (channel : String) :
    (session.trackUnlisten channel).Valid :=
  ⟨fun name hMem => h.channels name (List.mem_of_mem_filter hMem), h.params, h.keys⟩

theorem Valid.unlistenAll (h : session.Valid) : session.clearListenChannels.Valid :=
  ⟨by simp [clearListenChannels], h.params, h.keys⟩

theorem Valid.assign (h : session.Valid) {key value : String} (hKey : FitsIdentifier key)
    (hFold : foldName key = key) (hValue : '\\' ∉ value.toList) :
    (session.trackSetGuc key value).Valid := by
  refine ⟨h.channels, fun entry hMem => ?_, ServerSession.keys_mapInsert h.keys⟩
  simp only [trackSetGuc, mapInsert, List.mem_cons, List.mem_filter] at hMem
  obtain rfl | ⟨hOld, _⟩ := hMem
  · exact ⟨hKey, hFold, hValue⟩
  · exact h.params entry hOld

end SessionState

namespace Connection

open TrackedCall

section Valid

variable {net : Network} {server : SessionServer net} {conn conn' : Connection}

theorem FlagOnly.valid (h : FlagOnly conn conn') (hValid : conn.sessionState.Valid) :
    conn'.sessionState.Valid := by
  obtain ⟨inTransaction, hSession⟩ := h
  exact hValid.of_same (by rw [hSession]; rfl) (by rw [hSession]; rfl)

theorem valid_tracked {sql : String} {track : SessionState → SessionState}
    (hTrack : ∀ session : SessionState, session.Valid → (track session).Valid)
    (hValid : conn.sessionState.Valid) {outcome : Outcome PgError Unit}
    (hRun : Connection.tracked sql track net conn = (outcome, conn')) :
    conn'.sessionState.Valid := by
  have hExecuted := flagOnly_execute net conn sql
  rw [Connection.tracked, bind_apply] at hRun
  cases hExecute : Connection.execute sql net conn with
  | mk outcome₁ conn₁ =>
      rw [hExecute] at hRun hExecuted
      cases outcome₁ with
      | ok result =>
          cases hRun
          exact hTrack _ (hExecuted.valid hValid)
      | err e =>
          cases hRun
          exact hExecuted.valid hValid
      | pending =>
          cases hRun
          exact hExecuted.valid hValid

/-- What is registered by an allowed call is valid. -/
theorem valid_of_call {call : TrackedCall} (hAllowed : call.Allowed server conn)
    (hValid : conn.sessionState.Valid) {outcome : Outcome PgError Unit}
    (hRun : call.run net conn = (outcome, conn')) (hConcluded : Concluded outcome) :
    conn'.sessionState.Valid := by
  cases call with
  | setParam key value =>
      obtain ⟨_, hKey, hFold, hValue⟩ := hAllowed
      rw [TrackedCall.run, setParam] at hRun
      exact valid_tracked (fun _ h => h.assign hKey hFold hValue) hValid hRun
  | listen channel =>
      rw [TrackedCall.run, listen] at hRun
      exact valid_tracked (fun _ h => h.listen hAllowed.2) hValid hRun
  | unlisten channel =>
      rw [TrackedCall.run, unlisten] at hRun
      exact valid_tracked (fun _ h => h.unlisten channel) hValid hRun
  | unlistenAll =>
      rw [TrackedCall.run, unlistenAll] at hRun
      exact valid_tracked (fun _ h => h.unlistenAll) hValid hRun
  | execute sql =>
      have hExecuted := flagOnly_execute net conn sql
      rw [TrackedCall.run, bind_apply] at hRun
      cases hExecute : Connection.execute sql net conn with
      | mk outcome₁ conn₁ =>
          rw [hExecute] at hRun hExecuted
          cases outcome₁ <;> cases hRun <;> exact hExecuted.valid hValid
  | reset =>
      cases outcome with
      | ok value =>
          obtain ⟨session, hSession⟩ := reset_clears hRun
          rw [hSession]
          exact session.valid_clear
      | err e => exact (@flagOnly_of_call net conn conn' .reset e hRun).valid hValid
      | pending => exact absurd hConcluded not_concluded_pending

end Valid

end Connection
end PgClient
