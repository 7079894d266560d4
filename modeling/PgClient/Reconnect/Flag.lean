import PgClient.Reconnect.Retry
import PgClient.Reconnect.Tracking

/-!
Runs of everything that can be done with a connection, reconnects among it, and the
tracked transaction flag in them.
-/

namespace PgClient

open Async Connection

/-- A connection, what borrows it, and the network that it is on. -/
structure World where
  net : Network
  session : Session

namespace World

def conn (w : World) : Connection := w.session.conn

/-- An operation that needs the connection itself. -/
def onFree (w : World) (x : Client Unit) : Option (Outcome PgError Unit × World) :=
  match w.session.handle with
  | .none => some ((x w.net w.conn).1, { w with session := ⟨.none, (x w.net w.conn).2⟩ })
  | _ => none

end World

/-- What is done with a connection besides the calls of a session. A reconnect meets a
network and a server of its own. -/
inductive Action where
  | call (call : Call)
  | listen (channel : String)
  | unlisten (channel : String)
  | unlistenAll
  | setParam (key value : String)
  | setReconnectInitSql (sql : Option String)
  | reset
  | waitForNotification (timeout : Option Nat)
  | close
  | abort
  | reconnect (rebuild : Bool) (fresh : Network) (handshake : Except PgError ServerParams)
  | retryReturned

namespace Action

/-- `set_reconnect_init_sql` and `clear_reconnect_init_sql`. -/
def setInitSql (sql : Option String) : Client Unit :=
  .modify fun conn => { conn with sessionState.reconnectInitSql := sql }

/-- What `Connection::with_retry` does when its closure has returned `Ok`. -/
def markReturned : Client Unit :=
  .modify fun conn => { conn with
    sessionState := conn.sessionState.setInTransaction (conn.transactionStatus ≠ .idle) }

def run (w : World) : Action → Option (Outcome PgError Unit × World)
  | .call request =>
      match w.session.step w.net request with
      | some (outcome, session) => some (outcome, { w with session })
      | none => none
  | .listen channel => w.onFree (Connection.listen channel)
  | .unlisten channel => w.onFree (Connection.unlisten channel)
  | .unlistenAll => w.onFree Connection.unlistenAll
  | .setParam key value => w.onFree (Connection.setParam key value)
  | .setReconnectInitSql sql => w.onFree (setInitSql sql)
  | .reset => w.onFree Connection.reset
  | .waitForNotification timeout => w.onFree do
      let _ ← Connection.waitForNotification timeout
  | .close => w.onFree Connection.close
  | .abort => w.onFree Connection.abort
  | .reconnect rebuild fresh handshake =>
      match w.onFree (Connection.reconnect rebuild fresh
        (handshake.map fun params => (.new, params)))
        with
      | some (.ok (), w') => some (.ok (), { w' with net := fresh })
      | result => result
  | .retryReturned => w.onFree markReturned

/-- What was read in between, on the network that it came from. -/
def heard (w w' : World) : List Entry :=
  w.conn.transport.readBetween w.net w'.conn.transport

/-- The last `ReadyForQuery` of some messages, where they end with one. -/
def endsIdle (read : List Entry) : Prop :=
  ∀ status, read.getLast? = some (.ok (.readyForQuery status)) →
    TransactionStatus.ofReady status = .idle

/-- The server's reports of the transaction do not change sides where the flag is not
brought up to date. -/
def Tracked (w : World) (action : Action) (outcome : Outcome PgError Unit) (w' : World) : Prop :=
  match action with
  | .call request =>
      request.opensCopy ∨ Connection.Faithful w.conn (request.recovers w.conn) (heard w w')
  | .listen _ | .unlisten _ | .unlistenAll | .setParam _ _ =>
      Connection.Faithful w.conn true (heard w w')
  | .waitForNotification _ => Connection.Faithful w.conn false (heard w w')
  | .reset =>
      match outcome with
      | .ok () => endsIdle (heard w w')
      | _ => Connection.Faithful w.conn true (heard w w')
  | .reconnect _ fresh _ => outcome = .ok () → w.conn.transactionStatus = .idle ∧
      SaysOnly false (Transport.new.readBetween fresh w'.conn.transport)
  | .setReconnectInitSql _ | .close | .abort | .retryReturned => True

end Action

/-- The worlds that a sequence of actions can lead to, each of which has returned and is as
`allowed`. -/
inductive World.Reaches (allowed : World → Action → Outcome PgError Unit → World → Prop)
    (start : World) : World → Prop where
  | start : World.Reaches allowed start start
  | step {w w' : World} {action : Action} {outcome : Outcome PgError Unit}
      (hReach : World.Reaches allowed start w) (hRun : action.run w = some (outcome, w'))
      (hReturned : outcome ≠ .pending) (hAllowed : allowed w action outcome w') :
      World.Reaches allowed start w'

/-- What the flag is for. -/
structure World.FlagHolds (w : World) : Prop where
  agrees : w.conn.sessionState.inTransaction = true ↔ w.conn.transactionStatus ≠ .idle
  noReconnect : ∀ (config : ReconnectConfig) (attempt : Nat) (e : PgError),
    config.allowMidTransaction = false → w.conn.transactionStatus ≠ .idle →
    w.conn.retryDecision config attempt e ≠ .reconnect

namespace World

/-- What is kept from action to action. -/
structure Sound (w : World) : Prop where
  traced : ∃ before, w.conn.transport.Consumed w.net before
  agreeing : w.conn.Agreeing

theorem Sound.flagHolds {w : World} (h : w.Sound) : w.FlagHolds := by
  have hAgreeing := h.agreeing
  simp only [Agreeing] at hAgreeing
  refine ⟨by simp [hAgreeing], ?_⟩
  intro config attempt e hConfig hOpen hReconnect
  have hFlag := retryDecision_reconnect hConfig hReconnect
  rw [hAgreeing] at hFlag
  exact hOpen (of_decide_eq_false hFlag |> Classical.not_not.mp)

variable {w w' : World} {outcome : Outcome PgError Unit}

theorem onFree_eq {x : Client Unit} (hRun : w.onFree x = some (outcome, w')) :
    x w.net w.conn = (outcome, w'.conn) ∧ w'.net = w.net := by
  obtain ⟨net, handle, conn⟩ := w
  cases handle with
  | none =>
      cases hRun
      exact ⟨rfl, rfl⟩
  | _ => cases hRun

theorem sound_of_faithful {x : Client Unit} {recovers : Bool} (h : w.Sound)
    (hTamed : ∀ calm alarmed, Closed w.net calm alarmed → Tamed w.net calm alarmed x)
    (hRecovers : recovers → RecoversFirst w.net w.conn x)
    (hRun : w.onFree x = some (outcome, w')) (hReturned : outcome ≠ .pending)
    (hFaithful : Connection.Faithful w.conn recovers (Action.heard w w')) : w'.Sound := by
  obtain ⟨before, hConsumed⟩ := h.traced
  obtain ⟨hRun, hNet⟩ := onFree_eq hRun
  obtain ⟨read, hRead, hEnd⟩ :=
    agreeing_of_faithful hTamed hRecovers hConsumed h.agreeing hRun hReturned
  rw [Action.heard, Transport.readBetween_eq hConsumed hRead] at hFaithful
  exact ⟨⟨_, hNet ▸ hRead⟩, hEnd hFaithful⟩

theorem Sound.wrote (h : w.Sound) (hWrote : Wrote w.net w.conn w'.conn) (hNet : w'.net = w.net) :
    w'.Sound := by
  refine ⟨hNet ▸ hWrote.traced h.traced, ?_⟩
  have hAgreeing := h.agreeing
  simp only [Agreeing] at hAgreeing ⊢
  rw [hWrote.inTransaction, hWrote.transactionStatus, hAgreeing]

theorem sound_of_wrote {x : Client Unit} (h : w.Sound)
    (hWrote : Wrote w.net w.conn (x w.net w.conn).2)
    (hRun : w.onFree x = some (outcome, w')) : w'.Sound := by
  obtain ⟨hRun, hNet⟩ := onFree_eq hRun
  rw [hRun] at hWrote
  exact h.wrote hWrote hNet

theorem sound_of_tracked {sql : String} {track : SessionState → SessionState} (h : w.Sound)
    (hTrack : ∀ session, (track session).inTransaction = session.inTransaction)
    (hRun : w.onFree (tracked sql track) = some (outcome, w')) (hReturned : outcome ≠ .pending)
    (hFaithful : Connection.Faithful w.conn true (Action.heard w w')) : w'.Sound :=
  sound_of_faithful h (fun _ _ hInv => tamed_tracked hInv sql hTrack)
    (fun _ => recoversFirst_tracked sql hTrack) hRun hReturned hFaithful

/-- A reconnect that succeeds, by what the new server reports. -/
theorem sound_of_reconnect {rebuild : Bool} {fresh : Network}
    {handshake : Except PgError ServerParams} (h : w.Sound)
    (hRun : w.onFree (Connection.reconnect rebuild fresh
      (handshake.map fun params => (.new, params))) = (some (.ok (), w')))
    (hStatus : w.conn.transactionStatus = .idle)
    (hSays : SaysOnly false (Transport.new.readBetween fresh w'.conn.transport)) :
    ({ w' with net := fresh } : World).Sound := by
  obtain ⟨hRun, _⟩ := onFree_eq hRun
  cases handshake with
  | error e =>
      rw [show (Except.error e : Except PgError ServerParams).map
        (fun params => (Transport.new, params)) = .error e from rfl, reconnect_refused] at hRun
      cases hRun
  | ok params =>
      rw [show (Except.ok params : Except PgError ServerParams).map
        (fun params => (Transport.new, params)) = .ok (.new, params) from rfl,
        reconnect_connected] at hRun
      cases hReplacement : replacement rebuild w.conn.sessionState fresh
          { new with transport := .new, serverParams := params } with
      | mk outcome newConn =>
          rw [hReplacement] at hRun
          cases outcome with
          | err e => cases hRun
          | pending => cases hRun
          | ok value =>
              have hConn : w'.conn = swapped w.conn newConn := (congrArg Prod.snd hRun).symm
              obtain ⟨read, hRead, hIdle⟩ := replacement_reported hReplacement
              have hTransport : w'.conn.transport = newConn.transport := by rw [hConn]; rfl
              rw [hTransport, Transport.readBetween_eq (Transport.consumed_new fresh)
                (by simpa using hRead)] at hSays
              have hFlag := h.agreeing
              simp only [Agreeing, hStatus] at hFlag
              refine ⟨⟨read, ?_⟩, ?_⟩
              · rw [show ({ w' with net := fresh } : World).conn = w'.conn from rfl, hTransport]
                exact hRead
              · rw [show ({ w' with net := fresh } : World).conn = w'.conn from rfl, hConn]
                simp [Agreeing, swapped, hIdle hSays, hFlag]

/-- A reconnect that fails has shut the old transport down and nothing else. -/
theorem sound_of_not_reconnected {rebuild : Bool} {fresh : Network}
    {handshake : Except PgError ServerParams} (h : w.Sound) {e : PgError}
    (hRun : w.onFree (Connection.reconnect rebuild fresh
      (handshake.map fun params => (.new, params))) = (some (.err e, w'))) : w'.Sound := by
  obtain ⟨hRun, hNet⟩ := onFree_eq hRun
  apply h.wrote _ hNet
  have hConn : w'.conn = (shutdown w.net w.conn).2 := by
    cases handshake with
    | error e' =>
        rw [show (Except.error e' : Except PgError ServerParams).map
          (fun params => (Transport.new, params)) = .error e' from rfl, reconnect_refused] at hRun
        exact (congrArg Prod.snd hRun).symm
    | ok params =>
        rw [show (Except.ok params : Except PgError ServerParams).map
          (fun params => (Transport.new, params)) = .ok (.new, params) from rfl,
          reconnect_connected] at hRun
        revert hRun
        match replacement rebuild w.conn.sessionState fresh
          { new with transport := .new, serverParams := params } with
        | (.ok (), newConn) => exact fun hRun => nomatch hRun
        | (.err e', newConn) => exact fun hRun => (congrArg Prod.snd hRun).symm
        | (.pending, newConn) => exact fun hRun => (congrArg Prod.snd hRun).symm
  rw [hConn]
  exact wrote_shutdown w.net w.conn

theorem sound_of_reset {before : List Entry} (hConsumed : w.conn.transport.Consumed w.net before)
    (hRun : w.onFree Connection.reset = some (.ok (), w'))
    (hIdle : Action.endsIdle (Action.heard w w')) : w'.Sound := by
  obtain ⟨hRun, hNet⟩ := onFree_eq hRun
  obtain ⟨read, status, hRead, hStatus, hFlag⟩ := reset_reported hConsumed hRun
  rw [Action.heard, Transport.readBetween_eq hConsumed hRead] at hIdle
  have hReported := hIdle status (by simp)
  refine ⟨⟨_, hNet ▸ hRead⟩, ?_⟩
  simp only [Agreeing, hStatus, hReported, hFlag]
  rfl

/-- A reset that fails has left the tracked state alone. -/
theorem sound_of_not_reset {e : PgError} (h : w.Sound)
    (hRun : w.onFree Connection.reset = some (.err e, w'))
    (hFaithful : Connection.Faithful w.conn true (Action.heard w w')) : w'.Sound := by
  have hStatements : w.onFree resetStatements = some (.err e, w') := by
    obtain ⟨net, handle, conn⟩ := w
    cases handle with
    | none =>
        have hReset : Connection.reset net conn = (.err e, w'.conn) := (onFree_eq hRun).1
        simp only [onFree] at hRun ⊢
        rw [reset_eq, bind_apply] at hReset hRun
        revert hReset hRun
        simp only [World.conn]
        match resetStatements net conn with
        | (.ok value, conn') => exact fun _ hReset => nomatch hReset
        | (.err e', conn') => exact fun hRun _ => hRun
        | (.pending, conn') => exact fun _ hReset => nomatch hReset
    | _ => cases hRun
  exact sound_of_faithful h (fun _ _ hInv => tamed_resetStatements hInv)
    (fun _ => recoversFirst_resetStatements) hStatements (by simp) hFaithful

/-- One action that has returned. -/
theorem sound_step {action : Action} (h : w.Sound) (hRun : action.run w = some (outcome, w'))
    (hReturned : outcome ≠ .pending) (hTracked : action.Tracked w outcome w') : w'.Sound := by
  cases action with
  | call request =>
      obtain ⟨before, hConsumed⟩ := h.traced
      simp only [Action.run] at hRun
      cases hStep : w.session.step w.net request with
      | none =>
          rw [hStep] at hRun
          cases hRun
      | some result =>
          obtain ⟨outcome', session⟩ := result
          rw [hStep] at hRun
          cases hRun
          obtain ⟨read, hRead, hEnd⟩ := Call.agreeing_step hConsumed h.agreeing hStep hReturned
          refine ⟨⟨_, hRead⟩, hEnd ?_⟩
          have hHeard : Action.heard w { w with session } = read :=
            Transport.readBetween_eq hConsumed hRead
          simp only [Action.Tracked, hHeard] at hTracked
          exact hTracked
  | listen channel | unlisten channel | unlistenAll | setParam key value =>
      refine sound_of_tracked h ?_ hRun hReturned hTracked
      exact fun _ => rfl
  | setReconnectInitSql sql => exact sound_of_wrote h (wrote_frame rfl rfl rfl) hRun
  | reset =>
      obtain ⟨before, hConsumed⟩ := h.traced
      cases outcome with
      | ok value => exact sound_of_reset hConsumed hRun hTracked
      | err e => exact sound_of_not_reset h hRun hTracked
      | pending => exact absurd rfl hReturned
  | waitForNotification timeout =>
      refine sound_of_faithful h (fun _ _ hInv => ?_) ?_ hRun hReturned hTracked
      · exact tamed_map _ (tamed_waitForNotification hInv timeout)
      · exact fun hFalse => nomatch hFalse
  | close => exact sound_of_wrote h (wrote_close w.net w.conn) hRun
  | abort => exact sound_of_wrote h (wrote_abort w.net w.conn) hRun
  | reconnect rebuild fresh handshake =>
      simp only [Action.run] at hRun
      cases hFree : w.onFree (Connection.reconnect rebuild fresh
          (handshake.map fun params => (.new, params))) with
      | none =>
          rw [hFree] at hRun
          cases hRun
      | some result =>
          obtain ⟨outcome', w₁⟩ := result
          rw [hFree] at hRun
          cases outcome' with
          | ok value =>
              cases hRun
              obtain ⟨hStatus, hSays⟩ := hTracked rfl
              exact sound_of_reconnect h hFree hStatus hSays
          | err e =>
              cases hRun
              exact sound_of_not_reconnected h hFree
          | pending =>
              cases hRun
              exact absurd rfl hReturned
  | retryReturned =>
      obtain ⟨hRun, hNet⟩ := onFree_eq hRun
      have hConn : w'.conn = { w.conn with
          sessionState := w.conn.sessionState.setInTransaction
            (w.conn.transactionStatus ≠ .idle) } := (congrArg Prod.snd hRun).symm
      obtain ⟨before, hConsumed⟩ := h.traced
      refine ⟨⟨before, ?_⟩, ?_⟩
      · rw [hNet, hConn]
        exact hConsumed
      · rw [hConn]
        rfl

/-- A new connection. -/
def connected (net : Network) (serverParams : ServerParams) : World :=
  ⟨net, ⟨.none, { new with serverParams }⟩⟩

theorem sound_connected (net : Network) (serverParams : ServerParams) :
    (connected net serverParams).Sound :=
  ⟨⟨[], Transport.consumed_new net⟩, rfl⟩

theorem sound_of_reaches {net : Network} {serverParams : ServerParams}
    (hReach : Reaches (fun w action outcome w' => action.Tracked w outcome w')
      (connected net serverParams) w) : w.Sound := by
  induction hReach with
  | start => exact sound_connected net serverParams
  | step _ hRun hReturned hTracked ih => exact sound_step ih hRun hReturned hTracked

/-- Whatever has been done with a connection, the flag tells whether a transaction is open,
as long as no report of the server has changed that where the flag is not brought up to date. -/
theorem flagHolds_of_reaches {net : Network} {serverParams : ServerParams} {w : World}
    (hReach : Reaches (fun w action outcome w' => action.Tracked w outcome w')
      (connected net serverParams) w) : w.FlagHolds :=
  (sound_of_reaches hReach).flagHolds

/-- A new connection after one statement. -/
def executed (table : ReplyTable) (sql : String) : World :=
  ⟨table.network, .none, ((Operation.execute sql).run table.network
    (connected table.network {}).conn).2⟩

theorem run_execute {table : ReplyTable} {sql : String}
    (hOk : ((Operation.execute sql).run table.network
      (connected table.network {}).conn).1 = .ok ()) :
    (Action.call (.operation (.execute sql))).run (connected table.network {}) =
      some (.ok (), executed table sql) := by
  rw [← hOk]
  rfl

/-- A statement outside a transaction. -/
theorem flagHolds_of_reaches_select : (executed .oneRow "SELECT 1").FlagHolds := by
  have hSide : SaysOnly false
      (Action.heard (connected ReplyTable.oneRow.network {}) (executed .oneRow "SELECT 1")) := by
    unfold SaysOnly
    decide
  exact flagHolds_of_reaches (.step .start (run_execute (by decide)) (by simp) (.inr (.inl hSide)))

/-- A server that reports an open transaction after each statement. -/
def begun : ReplyTable := { ReplyTable.oneRow with status := 84, tag := fun _ => "BEGIN" }

/-- A statement that begins a transaction does not raise the flag. -/
theorem not_flagHolds_begin :
    ¬ ∀ net, Nonempty (Server net) → ∀ serverParams w,
      Reaches (fun _ _ _ _ => True) (connected net serverParams) w → w.FlagHolds := by
  intro hAll
  have hHolds := hAll begun.network ⟨begun.server⟩ {} (executed begun "BEGIN")
    (.step .start (run_execute (by decide)) (by simp) trivial)
  exact Bool.noConfusion (hHolds.agrees.mpr (by decide))

end World
end PgClient
