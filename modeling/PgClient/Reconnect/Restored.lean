import PgClient.Reconnect.Flag
import PgClient.Reconnect.Mirrored

/-!
A reconnect that brings the tracked session state back: once every statement of the rebuild is
accepted, the new server listens on the tracked channels and has the tracked parameters.
-/

namespace PgClient

open Async

namespace TrackedCall

/-- What a call registers when it returns `Ok`. -/
def registers : TrackedCall → SessionState → SessionState
  | .setParam key value, session => session.trackSetGuc key value
  | .listen channel, session => session.trackListen channel
  | .unlisten channel, session => session.trackUnlisten channel
  | .unlistenAll, session => session.clearListenChannels
  | .reset, session => session.clear
  | .execute _, session => session

/-- The calls that a rebuild is made of. -/
def Rebuilds : TrackedCall → Prop
  | .setParam key value => FitsIdentifier key ∧ foldName key = key ∧ '\\' ∉ value.toList
  | .listen channel => FitsIdentifier channel
  | _ => False

end TrackedCall

namespace Connection

open TrackedCall

/-- The calls of `rebuild_session`. -/
def rebuildCalls (session : SessionState) : List TrackedCall :=
  session.listenChannels.map .listen ++
    session.customGucs.map fun entry => .setParam entry.1 entry.2

/-- What a list of calls makes of the tracked state. -/
def registered (calls : List TrackedCall) (session : SessionState) : SessionState :=
  calls.foldl (fun session call => call.registers session) session

/-- Those of a list of calls that return `Ok`. -/
def accepted (net : Network) : List TrackedCall → Connection → List TrackedCall
  | [], _ => []
  | call :: calls, conn =>
      match call.run net conn with
      | (.ok (), conn') => call :: accepted net calls conn'
      | (_, conn') => accepted net calls conn'

/-- Every one of a list of calls is answered to the end. -/
def AllConcluded (net : Network) : List TrackedCall → Connection → Prop
  | [], _ => True
  | call :: calls, conn =>
      Concluded (call.run net conn).1 ∧ AllConcluded net calls (call.run net conn).2

/-- The parts of the tracked state that a rebuild brings back. -/
structure SameRegistered (session session' : SessionState) : Prop where
  channels : session'.listenChannels = session.listenChannels
  params : session'.customGucs = session.customGucs

theorem SameRegistered.registers {session session' : SessionState}
    (h : SameRegistered session session') {call : TrackedCall} (hCall : call.Rebuilds) :
    SameRegistered (call.registers session) (call.registers session') := by
  cases call with
  | setParam key value =>
      exact ⟨h.channels, congrArg (mapInsert key value) h.params⟩
  | listen channel => exact ⟨congrArg (setInsert channel) h.channels, h.params⟩
  | _ => cases hCall

variable {net : Network} {server : SessionServer net} {conn conn' : Connection}

/-- Nothing is left open by the calls of a rebuild. -/
structure Rebuilding (server : SessionServer net) (conn : Connection) : Prop extends
    InStep server conn where
  block : server.block (conn.arrival net) = .none

theorem tracked_ok {sql : String} {track : SessionState → SessionState}
    (hRun : Connection.tracked sql track net conn = (.ok (), conn')) :
    ∃ result conn₁, Connection.execute sql net conn = (.ok result, conn₁) ∧
      conn' = { conn₁ with sessionState := track conn₁.sessionState } := by
  rw [Connection.tracked, bind_apply] at hRun
  cases hExecute : Connection.execute sql net conn with
  | mk outcome conn₁ =>
      rw [hExecute] at hRun
      cases outcome with
      | ok result =>
          cases hRun
          exact ⟨result, conn₁, rfl, rfl⟩
      | err e => cases hRun
      | pending => cases hRun

theorem tracked_err {sql : String} {track : SessionState → SessionState} {e : PgError}
    (hRun : Connection.tracked sql track net conn = (.err e, conn')) :
    Connection.execute sql net conn = (.err e, conn') := by
  rw [Connection.tracked, bind_apply] at hRun
  cases hExecute : Connection.execute sql net conn with
  | mk outcome conn₁ =>
      rw [hExecute] at hRun
      cases outcome <;> cases hRun
      rfl

/-- A statement of a rebuild that is answered, and what it registers on the replacement. -/
theorem Rebuilding.statement (h : Rebuilding server conn) {sql : String} {command : SessionCommand}
    {track : SessionState → SessionState} (hCommand : SessionCommand.ofSql sql = some command)
    (hTrack : ∀ s session, ServerSession.Tracked s session →
      (command.apply s).Tracked (track session))
    {outcome : Outcome PgError Unit}
    (hRun : Connection.tracked sql track net conn = (outcome, conn'))
    (hConcluded : Concluded outcome) :
    Rebuilding server conn' ∧ ∃ inTransaction, conn'.sessionState =
      (if outcome = .ok () then track else id)
        (conn.sessionState.setInTransaction inTransaction) := by
  have hInStep := h.command hCommand h.block hTrack hRun hConcluded
  have hBlock := server.autocommits _ _ _ hCommand h.block
  obtain ⟨_, rfl⟩ | ⟨e, rfl⟩ := hConcluded
  · obtain ⟨result, conn₁, hExecute, rfl⟩ := tracked_ok hRun
    have hResponded := h.acknowledged hExecute
    obtain ⟨inTransaction, hSession⟩ := hResponded.session
    rw [← hResponded.arrival] at hBlock
    exact ⟨⟨hInStep, hBlock⟩, inTransaction, congrArg track hSession⟩
  · have hResponded := h.refused (tracked_err hRun)
    obtain ⟨inTransaction, hSession⟩ := hResponded.session
    rw [← hResponded.arrival] at hBlock
    exact ⟨⟨hInStep, hBlock⟩, inTransaction, hSession⟩

theorem Rebuilding.step (h : Rebuilding server conn) {call : TrackedCall} (hCall : call.Rebuilds)
    {outcome : Outcome PgError Unit} (hRun : call.run net conn = (outcome, conn'))
    (hConcluded : Concluded outcome) :
    Rebuilding server conn' ∧ SameRegistered
      ((if outcome = .ok () then call.registers else id) conn.sessionState)
      conn'.sessionState := by
  cases call with
  | setParam key value =>
      obtain ⟨hKey, hFold, hValue⟩ := hCall
      rw [TrackedCall.run, setParam] at hRun
      obtain ⟨hAfter, _, hSession⟩ := h.statement (SessionCommand.ofSql_setParam hKey hValue)
        (fun _ _ hTracked => hTracked.assign hFold value) hRun hConcluded
      refine ⟨hAfter, ?_⟩
      rw [hSession]
      split <;> exact ⟨rfl, rfl⟩
  | listen channel =>
      rw [TrackedCall.run, listen] at hRun
      obtain ⟨hAfter, _, hSession⟩ := h.statement (SessionCommand.ofSql_listen hCall)
        (fun _ _ hTracked => hTracked.listen channel) hRun hConcluded
      refine ⟨hAfter, ?_⟩
      rw [hSession]
      split <;> exact ⟨rfl, rfl⟩
  | _ => cases hCall

/-- A rebuild all of whose statements are answered; errors are passed over. -/
theorem Rebuilding.steps (calls : List TrackedCall) (hCalls : ∀ call ∈ calls, call.Rebuilds)
    (h : Rebuilding server conn) (hAnswered : AllConcluded net calls conn) {session : SessionState}
    (hSession : SameRegistered session conn.sessionState) :
    ∃ conn', rebuildSteps (calls.map TrackedCall.run) net conn = (.ok (), conn') ∧
      Rebuilding server conn' ∧
      SameRegistered (registered (accepted net calls conn) session) conn'.sessionState := by
  induction calls generalizing conn session with
  | nil => exact ⟨conn, rfl, h, hSession⟩
  | cons call calls ih =>
      obtain ⟨hFirst, hRest⟩ := hAnswered
      have hCall := hCalls call List.mem_cons_self
      have hLater := fun c hMem => hCalls c (List.mem_cons_of_mem _ hMem)
      cases hRun : call.run net conn with
      | mk outcome conn₁ =>
          rw [hRun] at hFirst hRest
          obtain ⟨hAfter, hSame⟩ := h.step hCall hRun hFirst
          simp only [List.map_cons, rebuildSteps, bind_apply, rebuildStep, attempt, accepted, hRun]
          obtain ⟨_, rfl⟩ | ⟨e, rfl⟩ := hFirst
          · have hBefore := hSession.registers hCall
            exact ih hLater hAfter hRest
              ⟨hSame.channels.trans hBefore.channels, hSame.params.trans hBefore.params⟩
          · exact ih hLater hAfter hRest
              ⟨hSame.channels.trans hSession.channels, hSame.params.trans hSession.params⟩

/-- The name of the parameter that a call sets. -/
def param? : TrackedCall → Option String
  | .setParam key _ => some key
  | _ => none

theorem registered_channels {calls : List TrackedCall} (hCalls : ∀ call ∈ calls, call.Rebuilds)
    (session : SessionState) (channel : String) :
    channel ∈ (registered calls session).listenChannels ↔
      channel ∈ session.listenChannels ∨ .listen channel ∈ calls := by
  induction calls generalizing session with
  | nil => simp [registered]
  | cons call calls ih =>
      refine (ih (fun c hMem => hCalls c (List.mem_cons_of_mem _ hMem)) _).trans ?_
      have hCall := hCalls call List.mem_cons_self
      cases call with
      | setParam key value => simp [TrackedCall.registers, SessionState.trackSetGuc]
      | listen name =>
          simp only [TrackedCall.registers, SessionState.trackListen, setInsert, List.mem_cons,
            TrackedCall.listen.injEq]
          split
          case isTrue hOld => grind
          case isFalse => grind
      | _ => cases hCall

theorem registered_params {calls : List TrackedCall} (hCalls : ∀ call ∈ calls, call.Rebuilds)
    (hOnce : (calls.filterMap param?).Nodup) (session : SessionState) (name value : String) :
    (registered calls session).customGucs.lookup name = some value ↔
      .setParam name value ∈ calls ∨
        name ∉ calls.filterMap param? ∧ session.customGucs.lookup name = some value := by
  induction calls generalizing session with
  | nil => simp [registered]
  | cons call calls ih =>
      have hRest := fun c hMem => hCalls c (List.mem_cons_of_mem _ hMem)
      have hCall := hCalls call List.mem_cons_self
      cases call with
      | setParam key value' =>
          simp only [List.filterMap_cons, param?] at hOnce ⊢
          obtain ⟨hFirst, hOnce⟩ := List.nodup_cons.mp hOnce
          refine (ih hRest hOnce _).trans ?_
          simp only [TrackedCall.registers, SessionState.trackSetGuc, lookup_mapInsert,
            List.mem_cons, TrackedCall.setParam.injEq]
          by_cases hName : name = key
          · subst hName
            have hNot : .setParam name value ∉ calls := fun hMem =>
              hFirst (List.mem_filterMap.mpr ⟨_, hMem, rfl⟩)
            simp [hFirst, hNot, eq_comm]
          · simp [hName]
      | listen channel =>
          simp only [List.filterMap_cons, param?] at hOnce ⊢
          refine (ih hRest hOnce _).trans ?_
          simp [TrackedCall.registers, SessionState.trackListen]
      | _ => cases hCall

theorem accepted_sublist (net : Network) (calls : List TrackedCall) (conn : Connection) :
    (accepted net calls conn).Sublist calls := by
  induction calls generalizing conn with
  | nil => exact List.Sublist.slnil
  | cons call calls ih =>
      rw [accepted]
      split
      · exact (ih _).cons_cons _
      · exact (ih _).cons _

theorem rebuilds_of_valid {session : SessionState} (h : session.Valid) :
    ∀ call ∈ rebuildCalls session, call.Rebuilds := by
  intro call hMem
  obtain hListen | hSet := List.mem_append.mp hMem
  · obtain ⟨channel, hChannel, rfl⟩ := List.mem_map.mp hListen
    exact h.channels channel hChannel
  · obtain ⟨entry, hEntry, rfl⟩ := List.mem_map.mp hSet
    exact h.params entry hEntry

theorem param?_rebuildCalls (session : SessionState) :
    (rebuildCalls session).filterMap param? = session.customGucs.map Prod.fst := by
  have hListens : (session.listenChannels.map TrackedCall.listen).filterMap param? = [] := by
    simp [List.filterMap_map, param?]
  rw [rebuildCalls, List.filterMap_append, hListens, List.filterMap_map, List.nil_append]
  exact congrFun List.filterMap_eq_map _

theorem rebuildSteps_append (first second : List (Client Unit)) (net : Network)
    (conn : Connection) : rebuildSteps (first ++ second) net conn =
      (do rebuildSteps first
          rebuildSteps second) net conn := by
  induction first generalizing conn with
  | nil => rfl
  | cons statement first ih =>
      simp only [List.cons_append, rebuildSteps, bind_assoc]
      rw [bind_apply, bind_apply]
      cases rebuildStep statement net conn with
      | mk outcome conn₁ =>
          cases outcome with
          | ok value => exact ih conn₁
          | err e => rfl
          | pending => rfl

theorem rebuildSession_calls (session : SessionState) (net : Network) (conn : Connection) :
    rebuildSession session net conn =
      rebuildSteps ((rebuildCalls session).map TrackedCall.run) net conn := by
  rw [rebuildCalls, List.map_append, List.map_map, List.map_map, rebuildSession]
  exact (rebuildSteps_append ..).symm

/-- A connection to which only the handshake has been made so far. -/
def opened (t : Transport) (serverParams : ServerParams) : Connection :=
  { Connection.new with transport := t, serverParams }

/-- A server on which nothing has been said in the session. -/
structure NewSession (server : SessionServer net) (t : Transport) : Prop where
  settled : t.Settled server.toServer
  block : server.block (t.flushed net).history = .none
  session : server.session (t.flushed net).history = .fresh

theorem NewSession.rebuilding {t : Transport} (h : NewSession server t)
    (serverParams : ServerParams) : Rebuilding server (opened t serverParams) where
  good := .inr ⟨h.settled.tidy, fun _ => h.settled⟩
  idle := rfl
  recovered := rfl
  status := (congrArg Block.status h.block).symm
  tracked := by
    show (server.session (t.flushed net).history).Tracked {}
    rw [h.session]
    exact ServerSession.tracked_fresh none [] [] false
  block := h.block

/-- Initialization SQL that leaves neither a transaction nor anything in the session. -/
def InitNeutral (server : SessionServer net) (conn : Connection) (session : SessionState) : Prop :=
  ∀ sql, session.reconnectInitSql = some sql →
    Neutral server conn sql ∧ server.block (.query sql :: conn.arrival net) = .none

theorem Rebuilding.init (h : Rebuilding server conn) {session : SessionState}
    (hNeutral : InitNeutral server conn session)
    (hRun : rebuildReconnectInitSql session net conn = (.ok (), conn')) :
    Rebuilding server conn' ∧ SameRegistered conn.sessionState conn'.sessionState := by
  unfold rebuildReconnectInitSql at hRun
  cases hInit : session.reconnectInitSql with
  | none =>
      rw [hInit] at hRun
      cases hRun
      exact ⟨h, rfl, rfl⟩
  | some sql =>
      simp only [hInit, bind_apply] at hRun
      obtain ⟨hSame, hBlock⟩ := hNeutral sql hInit
      cases hExecute : Connection.execute sql net conn with
      | mk outcome conn₁ =>
          rw [hExecute] at hRun
          cases outcome with
          | ok result =>
              cases hRun
              have hResponded := h.acknowledged hExecute
              obtain ⟨_, hSession⟩ := hResponded.session
              refine ⟨⟨h.neutral hSame hExecute (.inl ⟨_, rfl⟩), ?_⟩, ?_⟩
              · rw [hResponded.arrival]
                exact hBlock
              · rw [hSession]
                exact ⟨rfl, rfl⟩
          | err e => cases hRun
          | pending => cases hRun

/-- The replacement when its initialization SQL has run. -/
def initialized (fresh : Network) (session : SessionState) (t : Transport)
    (serverParams : ServerParams) : Connection :=
  (rebuildReconnectInitSql session fresh (opened t serverParams)).2

/-- The calls of the rebuild that the new server accepts. -/
def restored (fresh : Network) (session : SessionState) (t : Transport)
    (serverParams : ServerParams) : List TrackedCall :=
  accepted fresh (rebuildCalls session) (initialized fresh session t serverParams)

/-- A handshake with a server on which the session can be brought back. -/
structure Restorable (server : SessionServer net) (session : SessionState) (t : Transport)
    (serverParams : ServerParams) : Prop where
  new : NewSession server t
  init : InitNeutral server (opened t serverParams) session
  answered : AllConcluded net (rebuildCalls session) (initialized net session t serverParams)

section Replacement

variable {session : SessionState} {t : Transport} {serverParams : ServerParams}

theorem Restorable.replacement (h : Restorable server session t serverParams)
    (hValid : session.Valid) {newConn : Connection}
    (hRun : Connection.replacement true session net (opened t serverParams) = (.ok (), newConn)) :
    Rebuilding server newConn ∧
      SameRegistered (registered (restored net session t serverParams) {})
        newConn.sessionState := by
  rw [Connection.replacement, bind_apply] at hRun
  cases hInit : rebuildReconnectInitSql session net (opened t serverParams) with
  | mk outcome conn₁ =>
      rw [hInit] at hRun
      cases outcome with
      | ok value =>
          obtain ⟨hMid, hSame⟩ := (h.new.rebuilding serverParams).init h.init hInit
          have hStart : initialized net session t serverParams = conn₁ := by
            rw [initialized, hInit]
          obtain ⟨newConn', hSteps, hEnd, hRegistered⟩ := hMid.steps (rebuildCalls session)
            (rebuilds_of_valid hValid) (hStart ▸ h.answered) hSame
          simp only [andThen_ok, doIf_pos, rebuildSession_calls, hSteps] at hRun
          cases hRun
          rw [restored, hStart]
          exact ⟨hEnd, hRegistered⟩
      | err e => cases hRun
      | pending => cases hRun

theorem lookup_iff_mem {map : List (String × String)} (hKeys : (map.map Prod.fst).Nodup)
    {key value : String} : map.lookup key = some value ↔ (key, value) ∈ map := by
  induction map with
  | nil => simp
  | cons entry map ih =>
      obtain ⟨first, old⟩ := entry
      obtain ⟨hFirst, hRest⟩ := List.nodup_cons.mp hKeys
      rw [List.lookup_cons, List.mem_cons, Prod.mk.injEq]
      by_cases hKey : key = first
      · subst hKey
        have hNot : (key, value) ∉ map := fun hMem => hFirst (List.mem_map.mpr ⟨_, hMem, rfl⟩)
        simp [hNot, eq_comm]
      · rw [beq_false_of_ne hKey]
        simp [hKey, ih hRest]

theorem reconnect_ok {old : Network} {conn conn' : Connection}
    (hRun : reconnect true net (.ok (t, serverParams)) old conn = (.ok (), conn')) :
    ∃ newConn, Connection.replacement true conn.sessionState net (opened t serverParams) =
      (.ok (), newConn) ∧ conn' = swapped conn newConn := by
  rw [reconnect_connected] at hRun
  cases hReplacement : Connection.replacement true conn.sessionState net
      { Connection.new with transport := t, serverParams } with
  | mk outcome newConn =>
      rw [hReplacement] at hRun
      cases outcome with
      | ok value =>
          cases hRun
          exact ⟨newConn, hReplacement, rfl⟩
      | err e => cases hRun
      | pending => cases hRun

section Calls

variable {old : Network} {conn conn' : Connection}

theorem restored_rebuilds (hValid : session.Valid) :
    ∀ call ∈ restored net session t serverParams, call.Rebuilds :=
  fun call hMem => rebuilds_of_valid hValid call ((accepted_sublist ..).subset hMem)

theorem listens_of_reconnect (h : Restorable server conn.sessionState t serverParams)
    (hValid : conn.sessionState.Valid)
    (hRun : reconnect true net (.ok (t, serverParams)) old conn = (.ok (), conn'))
    (channel : String) :
    (server.session (conn'.arrival net)).listens channel = true ↔
      .listen channel ∈ restored net conn.sessionState t serverParams := by
  obtain ⟨newConn, hReplacement, rfl⟩ := reconnect_ok hRun
  obtain ⟨hEnd, hSame⟩ := h.replacement hValid hReplacement
  show (server.session (newConn.arrival net)).listens channel = true ↔ _
  rw [hEnd.tracked.channels, decide_eq_true_iff, hSame.channels,
    registered_channels (restored_rebuilds hValid)]
  simp

theorem setting_of_reconnect (h : Restorable server conn.sessionState t serverParams)
    (hValid : conn.sessionState.Valid)
    (hRun : reconnect true net (.ok (t, serverParams)) old conn = (.ok (), conn'))
    (name value : String) :
    (server.session (conn'.arrival net)).setting name = some value ↔
      .setParam name value ∈ restored net conn.sessionState t serverParams := by
  obtain ⟨newConn, hReplacement, rfl⟩ := reconnect_ok hRun
  obtain ⟨hEnd, hSame⟩ := h.replacement hValid hReplacement
  have hOnce : ((restored net conn.sessionState t serverParams).filterMap param?).Nodup := by
    refine List.Nodup.sublist ((accepted_sublist ..).filterMap param?) ?_
    rw [param?_rebuildCalls]
    exact hValid.keys
  show (server.session (newConn.arrival net)).setting name = some value ↔ _
  rw [hEnd.tracked.params, hSame.params, registered_params (restored_rebuilds hValid) hOnce]
  simp

end Calls

/-- A connection that has listened and has set a parameter. -/
def listening : Connection :=
  ((TrackedCall.listen "jobs").run Ledger.network (opened .new {})).2

def configured : Connection :=
  ((TrackedCall.setParam "search_path" "app").run Ledger.network listening).2

/-- The server behind it is replaced. -/
def moved : Connection :=
  (reconnect true Ledger.network (.ok (.new, {})) Ledger.network configured).2

theorem newSession_ledger : NewSession Ledger.sessionServer Transport.new :=
  ⟨Transport.settled_new _, rfl, rfl⟩

theorem restorable_configured :
    Restorable Ledger.sessionServer configured.sessionState .new {} where
  new := newSession_ledger
  init := by
    intro sql hSql
    cases hSql
  answered := ⟨.inl ⟨(), rfl⟩, .inl ⟨(), rfl⟩, trivial⟩

theorem reconnect_configured :
    reconnect true Ledger.network (.ok (.new, {})) Ledger.network configured = (.ok (), moved) :=
  rfl

theorem valid_configured : configured.sessionState.Valid := by
  refine ⟨fun channel hMem => ?_, fun entry hMem => ?_, by decide⟩
  · obtain rfl := List.mem_singleton.mp hMem
    exact ⟨by decide, by decide⟩
  · obtain rfl := List.mem_singleton.mp hMem
    exact ⟨⟨by decide, by decide⟩, by decide, by decide⟩

/-- Where every statement of the rebuild is accepted the connection is in step again. -/
theorem inStep_of_reconnect {old : Network} {conn conn' : Connection}
    (h : Restorable server conn.sessionState t serverParams) (hValid : conn.sessionState.Valid)
    (hAll : restored net conn.sessionState t serverParams = rebuildCalls conn.sessionState)
    (hRun : reconnect true net (.ok (t, serverParams)) old conn = (.ok (), conn')) :
    InStep server conn' ∧ conn'.sessionState = conn.sessionState := by
  have hListens := listens_of_reconnect h hValid hRun
  have hSettings := setting_of_reconnect h hValid hRun
  rw [hAll] at hListens hSettings
  obtain ⟨newConn, hReplacement, rfl⟩ := reconnect_ok hRun
  obtain ⟨hEnd, _⟩ := h.replacement hValid hReplacement
  refine ⟨⟨hEnd.good, hEnd.idle, rfl, hEnd.status, fun channel => ?_, fun name => ?_, hValid.keys⟩,
    rfl⟩
  · rw [Bool.eq_iff_iff, hListens, decide_eq_true_iff]
    simp [rebuildCalls, swapped]
  · refine Option.ext fun value => (hSettings name value).trans ?_
    show _ ↔ conn.sessionState.customGucs.lookup name = some value
    rw [lookup_iff_mem hValid.keys]
    simp [rebuildCalls]

end Replacement

/-- A reconnect that fails keeps the tracked state. -/
theorem reconnect_err {fresh : Network} {handshake : Except PgError (Transport × ServerParams)}
    {e : PgError} (hRun : reconnect true fresh handshake net conn = (.err e, conn')) :
    conn'.sessionState = conn.sessionState := by
  obtain ⟨t, hShutdown, _⟩ := shutdown_frame net conn
  cases handshake with
  | error e' =>
      rw [reconnect_refused, hShutdown] at hRun
      cases hRun
      rfl
  | ok connected =>
      rw [reconnect_connected, hShutdown] at hRun
      split at hRun <;> cases hRun
      rfl

/-- Calls and reconnects that fail, as on a connection that is lost. -/
inductive Fails (net : Network) : Connection → Connection → Prop where
  | refl (conn : Connection) : Fails net conn conn
  | call {conn conn₁ conn₂ : Connection} {call : TrackedCall} {e : PgError} :
      Fails net conn conn₁ → call.run net conn₁ = (.err e, conn₂) → Fails net conn conn₂
  | reconnect {conn conn₁ conn₂ : Connection} {fresh : Network}
      {handshake : Except PgError (Transport × ServerParams)} {e : PgError} :
      Fails net conn conn₁ → reconnect true fresh handshake net conn₁ = (.err e, conn₂) →
        Fails net conn conn₂

theorem Fails.flagOnly (h : Fails net conn conn') : FlagOnly conn conn' := by
  induction h with
  | refl => exact flagOnly_refl conn
  | call _ hRun ih => exact ih.trans (flagOnly_of_call hRun)
  | reconnect _ hRun ih =>
      obtain ⟨_, hSession⟩ := ih
      exact ⟨_, (reconnect_err hRun).trans hSession⟩

end Connection

/-- A connection and the server that it is connected to. -/
structure SessionWorld where
  net : Network
  server : SessionServer net
  conn : Connection

namespace SessionWorld

open Connection

/-- What calls that are answered make of a new connection, with reconnects in which everything
is accepted whenever the connection has been lost. -/
inductive Reached : SessionWorld → Prop where
  | start {net : Network} {server : SessionServer net} {t : Transport}
      (serverParams : ServerParams) (hNew : NewSession server t) :
      Reached ⟨net, server, opened t serverParams⟩
  | call {net : Network} {server : SessionServer net} {conn conn' : Connection}
      {call : TrackedCall} {outcome : Outcome PgError Unit} (hBefore : Reached ⟨net, server, conn⟩)
      (hAllowed : call.Allowed server conn) (hRun : call.run net conn = (outcome, conn'))
      (hConcluded : TrackedCall.Concluded outcome) : Reached ⟨net, server, conn'⟩
  | initSql {net : Network} {server : SessionServer net} {conn : Connection}
      (sql : Option String) (hBefore : Reached ⟨net, server, conn⟩) :
      Reached ⟨net, server, (Action.setInitSql sql net conn).2⟩
  | reconnect {net fresh : Network} {server : SessionServer net} {server' : SessionServer fresh}
      {conn conn₁ conn' : Connection} {t : Transport} {serverParams : ServerParams}
      (hBefore : Reached ⟨net, server, conn⟩) (hFails : Fails net conn conn₁)
      (hNew : Restorable server' conn₁.sessionState t serverParams)
      (hAll : restored fresh conn₁.sessionState t serverParams = rebuildCalls conn₁.sessionState)
      (hRun : Connection.reconnect true fresh (.ok (t, serverParams)) net conn₁ = (.ok (), conn')) :
      Reached ⟨fresh, server', conn'⟩

theorem Reached.inStep {w : SessionWorld} (h : w.Reached) :
    InStep w.server w.conn ∧ w.conn.sessionState.Valid := by
  induction h with
  | start serverParams hNew =>
      exact ⟨(hNew.rebuilding serverParams).toInStep, SessionState.valid_clear {}⟩
  | call _ hAllowed hRun hConcluded ih =>
      obtain ⟨hInStep, hValid⟩ := ih
      exact ⟨hInStep.call hAllowed hRun hConcluded, valid_of_call hAllowed hValid hRun hConcluded⟩
  | initSql sql _ ih =>
      obtain ⟨hInStep, hValid⟩ := ih
      exact ⟨⟨hInStep.good, hInStep.idle, hInStep.recovered, hInStep.status,
        hInStep.tracked.of_same rfl rfl⟩, hValid.of_same rfl rfl⟩
  | reconnect _ hFails hNew hAll hRun ih =>
      have hValid := hFails.flagOnly.valid ih.2
      obtain ⟨hInStep, hSession⟩ := inStep_of_reconnect hNew hValid hAll hRun
      exact ⟨hInStep, hSession ▸ hValid⟩

theorem reached_configured : Reached ⟨Ledger.network, Ledger.sessionServer, configured⟩ := by
  have hListen : (TrackedCall.listen "jobs").run Ledger.network (opened .new {}) =
      (.ok (), listening) := rfl
  have hAssign : (TrackedCall.setParam "search_path" "app").run Ledger.network listening =
      (.ok (), configured) := rfl
  have hMayListen : (TrackedCall.listen "jobs").Allowed Ledger.sessionServer (opened .new {}) :=
    ⟨rfl, by decide, by decide⟩
  have hMayAssign :
      (TrackedCall.setParam "search_path" "app").Allowed Ledger.sessionServer listening :=
    ⟨rfl, ⟨by decide, by decide⟩, by decide, by decide⟩
  have hListening : Reached ⟨Ledger.network, Ledger.sessionServer, listening⟩ :=
    .call (.start {} newSession_ledger) hMayListen hListen (.inl ⟨(), rfl⟩)
  exact .call hListening hMayAssign hAssign (.inl ⟨(), rfl⟩)

theorem reached_moved : Reached ⟨Ledger.network, Ledger.sessionServer, moved⟩ := by
  exact .reconnect reached_configured (.refl _) restorable_configured rfl reconnect_configured

end SessionWorld
end PgClient
