import PgClient.Reconnect.Standing

/-!
Reconnecting: a replacement connection is made and brought to the tracked session state,
and only then takes the place of the old one.
-/

namespace PgClient
namespace Connection

open Async

/-- `connect`, given how the handshake has ended. -/
def connect (handshake : Except PgError (Transport × ServerParams)) : Except PgError Connection :=
  handshake.map fun (transport, serverParams) => { Connection.new with transport, serverParams }

/-- Work on another connection, which has a network of its own. -/
def onReplacement (fresh : Network) (newConn : Connection) (x : Client Unit) : Client Connection :=
  fun _ conn => ((x fresh newConn).1.map fun _ => (x fresh newConn).2, conn)

/-- The old transport is shut down first; the new server is reached over `fresh`. -/
def reconnect (rebuild : Bool) (fresh : Network)
    (handshake : Except PgError (Transport × ServerParams)) : Client Unit := do
  let conn ← .get
  let _ ← shutdown.attempt
  let newConn ← .lift (connect handshake)
  let newConn ← onReplacement fresh newConn (rebuildReconnectInitSql conn.sessionState)
  let newConn ← onReplacement fresh newConn
    (.doIf rebuild (rebuildSession conn.sessionState))
  .modify fun conn => { conn with
    transport := newConn.transport
    serverParams := newConn.serverParams
    transactionStatus := newConn.transactionStatus
    notificationQueue := []
    state := newConn.state
    needsRecovery := false }

/-- The statements that apply the tracked channels and parameters again. -/
def rebuildStatements (session : SessionState) : List String :=
  session.listenChannels.map buildListenSql ++
    session.customGucs.map fun entry => buildSetParamSql entry.1 entry.2

/-- Where the replacement stands when it takes the place of the old connection, by what
the new server answers to the statements that rebuild the session. -/
def rebuilt (rebuild : Bool) (fresh : Network) (session : SessionState) (t : Transport) :
    Standing :=
  (session.reconnectInitSql.toList ++ if rebuild then rebuildStatements session else []).foldl
    (fun standing sql => standing.next fresh sql) (.ready .idle t)

/-- A connection after a reconnect over a transport on which the handshake has ended. -/
structure Reconnected (rebuild : Bool) (fresh : Network)
    (handshake : Except PgError (Transport × ServerParams)) (net : Network)
    (conn conn' : Connection) : Prop where
  idle : conn'.isIdle
  recovered : conn'.needsRecovery = false
  status : conn'.transactionStatus = .idle
  flag : conn'.sessionState.inTransaction = false
  buffer : ∀ old : Connection, old.sessionState = conn.sessionState →
    (reconnect rebuild fresh handshake net old).2.transport = conn'.transport
  order : ∀ sql, conn.sessionState.reconnectInitSql = some sql →
    ∃ t serverParams, handshake = .ok (t, serverParams) ∧
      (∃ status rest,
        RowStream.newSimple.readReply (t.sent fresh (.query sql)).inbox = .complete status rest) ∧
      ∃ later, conn'.transport.history = later ++ .query sql :: (t.flushed fresh).history ∧
        ∀ message ∈ later, ∃ statement ∈ rebuildStatements conn.sessionState,
          message = .query statement

/-- A connection after a reconnect that has failed. -/
structure NotReconnected (net : Network) (conn conn' : Connection) : Prop where
  transport : conn'.transport = (shutdown net conn).2.transport
  serverParams : conn'.serverParams = conn.serverParams
  sessionState : conn'.sessionState = conn.sessionState
  notificationQueue : conn'.notificationQueue = conn.notificationQueue
  statementCounter : conn'.statementCounter = conn.statementCounter
  notIdle : conn'.isIdle = false
  notHealthy : conn'.isHealthy = false

/-- What a reconnect promises of its two ends. -/
def ReconnectContract (rebuild : Bool) (fresh : Network)
    (handshake : Except PgError (Transport × ServerParams)) (net : Network) (conn : Connection) :
    Prop :=
  match reconnect rebuild fresh handshake net conn with
  | (.ok (), conn') => Reconnected rebuild fresh handshake net conn conn'
  | (.err _, conn') => NotReconnected net conn conn'
  | (.pending, _) => True

/-- Where it succeeds, no transaction was tracked and the new server has answered the last
statement and reported no transaction; where it fails, the connection was in use and was
closed or in a failed transaction. -/
def ReconnectMeets (rebuild : Bool) (fresh : Network)
    (handshake : Except PgError (Transport × ServerParams)) (net : Network) (conn : Connection) :
    Prop :=
  match (reconnect rebuild fresh handshake net conn).1, handshake with
  | .ok (), .ok (t, _) =>
      conn.sessionState.inTransaction = false ∧ (rebuilt rebuild fresh conn.sessionState t).isClean
  | .err _, _ => conn.isIdle = false ∧ conn.isHealthy = false
  | _, _ => True

section Rebuild

variable {fresh : Network} {conn : Connection}

theorem tracked_core (fresh : Network) (sql : String) (track : SessionState → SessionState)
    {standing : Standing}
    (h : standing.Holds conn.core) :
    (standing.next fresh sql).Holds (tracked sql track fresh conn).2.core ∧
      (tracked sql track fresh conn).2.transport = (execute sql fresh conn).2.transport := by
  have hNext := holds_next fresh sql h
  rw [tracked, bind_apply]
  revert hNext
  obtain ⟨outcome, conn'⟩ := execute sql fresh conn
  intro hNext
  cases outcome with
  | ok result =>
      refine ⟨?_, rfl⟩
      cases hStanding : standing.next fresh sql <;> rw [hStanding] at hNext <;> exact hNext
  | err e => exact ⟨hNext, rfl⟩
  | pending => exact ⟨hNext, rfl⟩

/-- The statements of a rebuild, each with what it registers. -/
theorem rebuildSteps_holds (statements : List (String × (SessionState → SessionState)))
    {base : List FrontendMessage} {kind : FrontendMessage → Prop} {standing : Standing}
    {conn conn' : Connection} (h : standing.Holds conn.core)
    (hSince : OnlySince base kind conn.transport)
    (hKind : ∀ statement ∈ statements, kind (.query statement.1))
    (hRun : rebuildSteps
      (statements.map fun statement => tracked statement.1 statement.2) fresh conn
      = (.ok (), conn')) :
    ((statements.map Prod.fst).foldl (fun standing sql => standing.next fresh sql) standing).Holds
        conn'.core ∧ OnlySince base kind conn'.transport := by
  induction statements generalizing conn standing with
  | nil =>
      cases hRun
      exact ⟨h, hSince⟩
  | cons statement statements ih =>
      obtain ⟨hNext, hWire⟩ := tracked_core fresh statement.1 statement.2 h
      have hLater : OnlySince base kind
          (tracked statement.1 statement.2 fresh conn).2.transport := by
        rw [hWire]
        exact hSince.execute h (hKind statement List.mem_cons_self)
      simp only [List.map_cons, rebuildSteps, bind_apply, rebuildStep, attempt] at hRun
      revert hNext hLater hRun
      obtain ⟨outcome, conn₁⟩ := tracked statement.1 statement.2 fresh conn
      intro hNext hLater hRun
      have hRest : ∀ s ∈ statements, kind (.query s.1) :=
        fun s hMem => hKind s (List.mem_cons_of_mem _ hMem)
      cases outcome with
      | ok value => exact ih hNext hLater hRest hRun
      | err e => exact ih hNext hLater hRest hRun
      | pending => cases hRun

theorem rebuildSession_holds (session : SessionState) {base : List FrontendMessage}
    {kind : FrontendMessage → Prop} {standing : Standing} {conn conn' : Connection}
    (h : standing.Holds conn.core) (hSince : OnlySince base kind conn.transport)
    (hKind : ∀ sql ∈ rebuildStatements session, kind (.query sql))
    (hRun : rebuildSession session fresh conn = (.ok (), conn')) :
    ((rebuildStatements session).foldl (fun standing sql => standing.next fresh sql) standing).Holds
        conn'.core ∧ OnlySince base kind conn'.transport := by
  have hSteps : rebuildSession session = (do
      rebuildSteps ((session.listenChannels.map fun channel =>
        (buildListenSql channel, fun session : SessionState => session.trackListen channel)).map
          fun statement => tracked statement.1 statement.2)
      rebuildSteps ((session.customGucs.map fun entry =>
        (buildSetParamSql entry.1 entry.2,
          fun session : SessionState => session.trackSetGuc entry.1 entry.2)).map
          fun statement => tracked statement.1 statement.2)) := by
    simp only [rebuildSession, List.map_map]
    rfl
  rw [hSteps, bind_apply] at hRun
  revert hRun
  cases hListens : rebuildSteps ((session.listenChannels.map fun channel =>
      (buildListenSql channel, fun session : SessionState => session.trackListen channel)).map
        fun statement => tracked statement.1 statement.2) fresh conn with
  | mk outcome conn₁ =>
      intro hRun
      cases outcome with
      | err e => cases hRun
      | pending => cases hRun
      | ok value =>
          obtain ⟨hMid, hMidSince⟩ := rebuildSteps_holds _ h hSince (by
            intro statement hMem
            obtain ⟨channel, hChannel, rfl⟩ := List.mem_map.mp hMem
            exact hKind _ (List.mem_append_left _ (List.mem_map_of_mem hChannel))) hListens
          obtain ⟨hEnd, hEndSince⟩ := rebuildSteps_holds _ hMid hMidSince (by
            intro statement hMem
            obtain ⟨entry, hEntry, rfl⟩ := List.mem_map.mp hMem
            exact hKind _ (List.mem_append_right _ (List.mem_map_of_mem hEntry))) hRun
          rw [List.map_map, List.map_map] at hEnd
          rw [rebuildStatements, List.foldl_append]
          exact ⟨hEnd, hEndSince⟩

/-- The initialization SQL of a rebuild that succeeds. -/
theorem rebuildReconnectInitSql_holds (session : SessionState) {standing : Standing}
    {conn conn' : Connection} (h : standing.Holds conn.core)
    (hRun : rebuildReconnectInitSql session fresh conn = (.ok (), conn')) :
    (session.reconnectInitSql.toList.foldl
      (fun standing sql => standing.next fresh sql) standing).Holds
      conn'.core := by
  unfold rebuildReconnectInitSql at hRun
  cases hInit : session.reconnectInitSql with
  | none =>
      rw [hInit] at hRun
      cases hRun
      exact h
  | some sql =>
      simp only [hInit, bind_apply] at hRun
      have hNext := holds_next fresh sql h
      revert hNext hRun
      obtain ⟨outcome, conn₁⟩ := execute sql fresh conn
      intro hRun hNext
      cases outcome with
      | ok result =>
          cases hRun
          exact hNext
      | err e => cases hRun
      | pending => cases hRun

end Rebuild

section Outcome

variable {rebuild : Bool} {fresh net : Network} {conn : Connection}

theorem shutdown_frame (net : Network) (conn : Connection) :
    ∃ t, (shutdown net conn).2 = { conn with transport := t } ∧
      (shutdown net conn).1 ≠ .pending := by
  simp only [shutdown]
  cases conn.transport.flushWrite net with
  | error e => exact ⟨conn.transport, rfl, by simp⟩
  | ok t => exact ⟨t, rfl, by simp⟩

/-- Both parts of the rebuild, on the replacement. -/
def replacement (rebuild : Bool) (session : SessionState) : Client Unit := do
  rebuildReconnectInitSql session
  .doIf rebuild (rebuildSession session)

theorem shutdown_attempt (net : Network) (conn : Connection) :
    ∃ result, shutdown.attempt net conn = (.ok result, (shutdown net conn).2) := by
  obtain ⟨_, _, hReturns⟩ := shutdown_frame net conn
  simp only [attempt]
  revert hReturns
  obtain ⟨outcome, conn'⟩ := shutdown net conn
  cases outcome with
  | ok value => exact fun _ => ⟨_, rfl⟩
  | err e => exact fun _ => ⟨_, rfl⟩
  | pending => exact fun h => absurd rfl h

theorem reconnect_refused (rebuild : Bool) (fresh net : Network) (conn : Connection) (e : PgError) :
    reconnect rebuild fresh (.error e) net conn = (.err e, (shutdown net conn).2) := by
  obtain ⟨result, hAttempt⟩ := shutdown_attempt net conn
  rw [reconnect, bind_of_ok (get_apply ..), bind_of_ok hAttempt]
  rfl

/-- The old connection once the replacement has taken its place. -/
def swapped (conn newConn : Connection) : Connection :=
  { conn with
    transport := newConn.transport
    serverParams := newConn.serverParams
    transactionStatus := newConn.transactionStatus
    notificationQueue := []
    state := newConn.state
    needsRecovery := false }

/-- The rebuild alone decides how a reconnect ends once the handshake has succeeded. -/
theorem reconnect_connected (rebuild : Bool) (fresh net : Network) (conn : Connection)
    (t : Transport)
    (serverParams : ServerParams) :
    reconnect rebuild fresh (.ok (t, serverParams)) net conn =
      match replacement rebuild conn.sessionState fresh
        { new with transport := t, serverParams } with
      | (.ok (), newConn) => (.ok (), swapped conn newConn)
      | (.err e, _) => (.err e, (shutdown net conn).2)
      | (.pending, _) => (.pending, (shutdown net conn).2) := by
  obtain ⟨result, hAttempt⟩ := shutdown_attempt net conn
  obtain ⟨old, hShutdown, _⟩ := shutdown_frame net conn
  rw [reconnect, bind_of_ok (get_apply ..), bind_of_ok hAttempt, connect, Except.map,
    bind_of_ok (lift_ok_apply ..), replacement, bind_apply, bind_apply, onReplacement]
  cases hInit : rebuildReconnectInitSql conn.sessionState fresh
      { new with transport := t, serverParams } with
  | mk outcome newConn =>
      cases outcome with
      | err e => rfl
      | pending => rfl
      | ok value =>
          simp only [Outcome.map_ok, andThen_ok, bind_apply, onReplacement]
          cases Async.doIf (rebuild = true) (rebuildSession conn.sessionState) fresh newConn with
          | mk outcome newConn' =>
              cases outcome with
              | err e => rfl
              | pending => rfl
              | ok value => simp only [Outcome.map_ok, andThen_ok, modify_apply, hShutdown, swapped]

/-- The replacement when the rebuild has succeeded. -/
theorem replacement_holds {session : SessionState} {t : Transport} {serverParams : ServerParams}
    {newConn : Connection}
    (hRun : replacement rebuild session fresh { new with transport := t, serverParams } =
      (.ok (), newConn)) :
    (rebuilt rebuild fresh session t).Holds newConn.core ∧
      ∀ sql, session.reconnectInitSql = some sql →
        (∃ status rest,
          RowStream.newSimple.readReply (t.sent fresh (.query sql)).inbox = .complete status rest) ∧
        ∃ later, newConn.transport.history = later ++ .query sql :: (t.flushed fresh).history ∧
          ∀ message ∈ later, ∃ statement ∈ rebuildStatements session,
            message = .query statement := by
  rw [replacement, bind_apply] at hRun
  cases hInit : rebuildReconnectInitSql session fresh { new with transport := t, serverParams } with
  | mk outcome conn₁ =>
      rw [hInit] at hRun
      cases outcome with
      | err e => cases hRun
      | pending => cases hRun
      | ok value =>
          have hStart : (Standing.ready .idle t).Holds
              (core { new with transport := t, serverParams }) := ⟨rfl, rfl, rfl, rfl⟩
          have hMid := rebuildReconnectInitSql_holds session hStart hInit
          have hEnd : (rebuilt rebuild fresh session t).Holds newConn.core ∧
              OnlySince conn₁.transport.history (fun message =>
                (∃ frame ∈ conn₁.transport.writeBuf, message = frame.message) ∨
                  ∃ statement ∈ rebuildStatements session, message = .query statement)
                newConn.transport := by
            have hSince : OnlySince conn₁.transport.history (fun message =>
                (∃ frame ∈ conn₁.transport.writeBuf, message = frame.message) ∨
                  ∃ statement ∈ rebuildStatements session, message = .query statement)
                conn₁.transport :=
              ⟨⟨[], rfl, by simp⟩, fun frame hMem => .inl ⟨frame, hMem, rfl⟩⟩
            rw [rebuilt, List.foldl_append]
            cases rebuild with
            | false =>
                cases hRun
                exact ⟨hMid, hSince⟩
            | true =>
                exact rebuildSession_holds session hMid hSince
                  (fun sql hMem => .inr ⟨sql, hMem, rfl⟩) hRun
          refine ⟨hEnd.1, ?_⟩
          intro sql hSql
          simp only [rebuildReconnectInitSql, hSql, bind_apply] at hInit
          cases hExecute : execute sql fresh { new with transport := t, serverParams } with
          | mk outcome conn₂ =>
              rw [hExecute] at hInit
              cases outcome with
              | err e => cases hInit
              | pending => cases hInit
              | ok result =>
                  obtain ⟨status, rest, hReading, hCore⟩ := execute_ok rfl rfl hExecute
                  have hSame : conn₂ = conn₁ := congrArg Prod.snd hInit
                  rw [hSame] at hCore
                  have hTransport : conn₁.transport =
                      { t.sent fresh (.query sql) with inbox := rest } :=
                        congrArg Core.transport hCore
                  obtain ⟨⟨later, hHistory, hLater⟩, _⟩ := hEnd.2
                  refine ⟨⟨status, rest, hReading⟩, later, ?_, ?_⟩
                  · rw [hHistory, hTransport]
                    simp [Transport.sent]
                  · intro message hMem
                    have hBuf : conn₁.transport.writeBuf = [] := by
                      rw [hTransport]
                      simp [Transport.sent, Transport.flushed_writeBuf]
                    simpa [hBuf] using hLater message hMem

/-- A reconnect keeps its promises exactly when it starts or ends as described. -/
theorem reconnect_contract_iff (rebuild : Bool) (fresh : Network)
    (handshake : Except PgError (Transport × ServerParams)) (net : Network) (conn : Connection) :
    ReconnectContract rebuild fresh handshake net conn ↔
      ReconnectMeets rebuild fresh handshake net conn := by
  obtain ⟨old, hShutdown, _⟩ := shutdown_frame net conn
  have hFails : NotReconnected net conn (shutdown net conn).2 ↔
      conn.isIdle = false ∧ conn.isHealthy = false := by
    constructor
    · intro h
      have hIdle := h.notIdle
      have hHealthy := h.notHealthy
      rw [hShutdown] at hIdle hHealthy
      exact ⟨hIdle, hHealthy⟩
    · intro h
      rw [← show (shutdown net conn).2.isIdle = conn.isIdle by rw [hShutdown]; rfl,
        ← show (shutdown net conn).2.isHealthy = conn.isHealthy by rw [hShutdown]; rfl] at h
      exact ⟨rfl, by rw [hShutdown], by rw [hShutdown], by rw [hShutdown],
        by rw [hShutdown], h.1, h.2⟩
  cases handshake with
  | error e =>
      unfold ReconnectContract ReconnectMeets
      rw [reconnect_refused]
      exact hFails
  | ok connected =>
      obtain ⟨t, serverParams⟩ := connected
      have hReconnect := reconnect_connected rebuild fresh net conn t serverParams
      cases hRun : replacement rebuild conn.sessionState fresh
          { new with transport := t, serverParams } with
      | mk outcome newConn =>
          rw [hRun] at hReconnect
          cases outcome with
          | err e =>
              unfold ReconnectContract ReconnectMeets
              rw [hReconnect]
              exact hFails
          | pending =>
              unfold ReconnectContract ReconnectMeets
              rw [hReconnect]
          | ok value =>
              unfold ReconnectContract ReconnectMeets
              rw [hReconnect]
              obtain ⟨hHolds, hOrder⟩ := replacement_holds hRun
              have hClean := Standing.isClean_iff hHolds
              constructor
              · intro h
                have hState : newConn.state = .idle := of_decide_eq_true h.idle
                exact ⟨h.flag, hClean.mpr ⟨hState, h.status⟩⟩
              · intro h
                obtain ⟨hFlag, hRebuilt⟩ := h
                obtain ⟨hState, hStatus⟩ := hClean.mp hRebuilt
                have hState : newConn.state = .idle := hState
                refine ⟨?_, rfl, hStatus, hFlag, ?_, ?_⟩
                · simp [isIdle, ConnectionState.isIdle, swapped, hState]
                · intro other hSession
                  have hOther := reconnect_connected rebuild fresh net other t serverParams
                  rw [hSession, hRun] at hOther
                  rw [hOther]
                  rfl
                · intro sql hSql
                  obtain ⟨hRan, hLater⟩ := hOrder sql hSql
                  exact ⟨t, serverParams, rfl, hRan, hLater⟩

/-- An idle connection whose reconnect is refused still says that it is idle, and one that
was in a transaction still says so after a reconnect. -/
theorem not_reconnect_contract :
    ¬ ReconnectContract true ReplyTable.oneRow.network (.error .connectionClosed)
        ReplyTable.oneRow.network .new ∧
      ¬ ReconnectContract true ReplyTable.oneRow.network (.ok (.new, {})) ReplyTable.oneRow.network
        { new with sessionState.inTransaction := true } := by
  constructor
  · unfold ReconnectContract
    rw [reconnect_refused]
    intro h
    exact Bool.noConfusion (show true = false from h.notIdle)
  · unfold ReconnectContract
    rw [reconnect_connected]
    intro h
    exact Bool.noConfusion (show true = false from h.flag)

end Outcome

end Connection
end PgClient
