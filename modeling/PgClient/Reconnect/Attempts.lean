import PgClient.Reconnect.Flag
import PgClient.Transaction.Ledger

/-!
The retry loops, and how a connection stands when they call their closure again.
-/

namespace PgClient

open Drive Async Connection

namespace Retry

variable {α : Type}

/-- A closure, by the number of the attempt; what it does may change with every call. -/
abbrev Closure (α : Type) : Type := Nat → World → Outcome PgError α × World

/-- What is done after an attempt that has failed: `Ok` when another one follows. -/
abbrev After : Type := Nat → PgError → World → Outcome PgError Unit × World

/-- The loop that the three have in common, with the attempts that are left after this one. -/
def retryLoop (after : After) (f : Closure α) : Nat → Closure α
  | 0, attempt, w => f attempt w
  | remaining + 1, attempt, w =>
      match f attempt w with
      | (.err e, w') =>
          match after attempt e w' with
          | (.ok (), w'') => retryLoop after f remaining (attempt + 1) w''
          | (.err _, w'') => (.err e, w'')
          | (.pending, w'') => (.pending, w'')
      | result => result

def decideOnly (decide : Nat → PgError → Decision) : After := fun attempt e w =>
  match decide attempt e with
  | .again => (.ok (), w)
  | _ => (.err e, w)

/-- `with_retry` of the error module. -/
def withRetry (maxRetries : Nat) (f : Closure α) : World → Outcome PgError α × World :=
  retryLoop (decideOnly (retryServer maxRetries)) f maxRetries 0

def withRetryAny (maxRetries : Nat) (f : Closure α) : World → Outcome PgError α × World :=
  retryLoop (decideOnly (retryAny maxRetries)) f maxRetries 0

/-- The servers that reconnects meet, by the number of the attempt. -/
abbrev Replacements : Type := Nat → Network × Except PgError ServerParams

def afterConnection (config : ReconnectConfig) (replacements : Replacements) : After :=
  fun attempt e w =>
    match w.conn.retryDecision config attempt e with
    | .giveUp => (.err e, w)
    | .again => (.ok (), w)
    | .reconnect =>
        match (Action.reconnect config.rebuildSession (replacements attempt).1
          (replacements attempt).2).run w with
        | some result => result
        | none => (.err e, w)

/-- `Connection::with_retry`. -/
def connectionWithRetry (config : ReconnectConfig) (replacements : Replacements) (f : Closure α)
    (w : World) : Outcome PgError α × World :=
  match retryLoop (afterConnection config replacements) f (config.attempts - 1) 1 w with
  | (.ok value, w') =>
      match Action.retryReturned.run w' with
      | some (_, w'') => (.ok value, w'')
      | none => (.ok value, w')
  | result => result

/-- The worlds in which a loop calls its closure, where every attempt that another one
follows is as `allowed`. -/
inductive Invoked (allowed : World → World → Prop) (after : After) (f : Closure α) (first : Nat)
    (start : World) : Nat → World → Prop where
  | first : Invoked allowed after f first start first start
  | again {attempt : Nat} {w w' w'' : World} {e : PgError}
      (hInvoked : Invoked allowed after f first start attempt w)
      (hFailed : f attempt w = (.err e, w')) (hAfter : after attempt e w' = (.ok (), w''))
      (hAllowed : allowed w w'') : Invoked allowed after f first start (attempt + 1) w''

/-- What a loop returns comes from one of its calls, or from a reconnect after it. -/
theorem retryLoop_invoked {after : After} {f : Closure α} {first : Nat} {start : World}
    (remaining attempt : Nat) {w : World}
    (hInvoked : Invoked (fun _ _ => True) after f first start attempt w) :
    ∃ last w', Invoked (fun _ _ => True) after f first start last w' ∧
      (retryLoop after f remaining attempt w = f last w' ∨
        ∃ e w'', f last w' = (.err e, w'') ∧
          (retryLoop after f remaining attempt w).2 = (after last e w'').2 ∧
          (retryLoop after f remaining attempt w).1 ∈ [.err e, .pending]) := by
  induction remaining generalizing attempt w with
  | zero => exact ⟨attempt, w, hInvoked, .inl rfl⟩
  | succ remaining ih =>
      rw [retryLoop]
      cases hRun : f attempt w with
      | mk outcome w' =>
          cases outcome with
          | ok value => exact ⟨attempt, w, hInvoked, .inl hRun.symm⟩
          | pending => exact ⟨attempt, w, hInvoked, .inl hRun.symm⟩
          | err e =>
              dsimp only
              cases hAfter : after attempt e w' with
              | mk outcome w'' =>
                  cases outcome with
                  | ok value => exact ih (attempt + 1) (.again hInvoked hRun hAfter trivial)
                  | err e' =>
                      exact ⟨attempt, w, hInvoked, .inr ⟨e, w', hRun, by rw [hAfter], by simp⟩⟩
                  | pending =>
                      exact ⟨attempt, w, hInvoked, .inr ⟨e, w', hRun, by rw [hAfter], by simp⟩⟩

/-- The attempts that are left when a loop gives up anyway need not be made. -/
theorem retryLoop_enough {after : After} (f : Closure α) {remaining attempt : Nat}
    (hLast : ∀ e w, after (attempt + remaining) e w = (.err e, w)) (more : Nat) (w : World) :
    retryLoop after f (remaining + more) attempt w = retryLoop after f remaining attempt w := by
  induction remaining generalizing attempt w with
  | zero =>
      cases more with
      | zero => rfl
      | succ more =>
          rw [Nat.zero_add, retryLoop, retryLoop]
          cases hRun : f attempt w with
          | mk outcome w' =>
              cases outcome with
              | ok value => rfl
              | pending => rfl
              | err e =>
                  have hGivesUp : after attempt e w' = (.err e, w') := hLast e w'
                  simp only [hGivesUp]
  | succ remaining ih =>
      have hLater : ∀ e w, after (attempt + 1 + remaining) e w = (.err e, w) := by
        intro e w
        rw [show attempt + 1 + remaining = attempt + (remaining + 1) by omega]
        exact hLast e w
      rw [show remaining + 1 + more = remaining + more + 1 by omega, retryLoop, retryLoop]
      cases f attempt w with
      | mk outcome w' =>
          cases outcome with
          | ok value => rfl
          | pending => rfl
          | err e =>
              dsimp only
              cases after attempt e w' with
              | mk outcome w'' =>
                  cases outcome with
                  | ok value => exact ih hLater w''
                  | err e' => rfl
                  | pending => rfl

theorem retryServer_last (maxRetries : Nat) (e : PgError) :
    retryServer maxRetries maxRetries e = .giveUp := by
  cases e <;> simp [retryServer]

theorem retryAny_last (maxRetries : Nat) (e : PgError) :
    retryAny maxRetries maxRetries e = .giveUp := by
  simp [retryAny]

theorem retryDecision_last (config : ReconnectConfig) (conn : Connection) (e : PgError) :
    conn.retryDecision config config.attempts e = .giveUp := by
  unfold retryDecision
  cases classifyError e <;> simp

/-- None of the loops would go on after the attempts that it is given. -/
theorem withRetry_enough (maxRetries more : Nat) (f : Closure α) (w : World) :
    retryLoop (decideOnly (retryServer maxRetries)) f (maxRetries + more) 0 w =
      withRetry maxRetries f w := by
  apply retryLoop_enough
  intro e w
  simp [decideOnly, retryServer_last]

theorem withRetryAny_enough (maxRetries more : Nat) (f : Closure α) (w : World) :
    retryLoop (decideOnly (retryAny maxRetries)) f (maxRetries + more) 0 w =
      withRetryAny maxRetries f w := by
  apply retryLoop_enough
  intro e w
  simp [decideOnly, retryAny_last]

theorem connectionWithRetry_enough (config : ReconnectConfig) (replacements : Replacements)
    (more : Nat) (f : Closure α) (w : World) :
    retryLoop (afterConnection config replacements) f (config.attempts - 1 + more) 1 w =
      retryLoop (afterConnection config replacements) f (config.attempts - 1) 1 w := by
  apply retryLoop_enough
  intro e w
  rw [Nat.add_sub_cancel' config.one_le_attempts]
  simp [afterConnection, retryDecision_last]

end Retry

section Good

variable {net : Network} {server : Server net}

theorem sound_tracked (sql : String) (track : SessionState → SessionState) :
    Sound server (tracked sql track) :=
  Triple.bind (sound_execute sql) fun _ =>
    Triple.modify fun _ h => ⟨h.idle, ⟨h.boundary.settled, h.boundary.status⟩⟩

theorem sound_reset : Sound server Connection.reset := by
  apply Triple.bind_via (fun _ => Good server)
  · exact Triple.get fun _ h => h
  intro conn
  apply Triple.bind_via (fun _ => Good server)
  · refine Triple.doIf (fun _ => ?_) fun _ _ h => h
    exact (sound_map (sound_execute "ROLLBACK") fun _ => ()).mono (fun _ h => h)
      (fun _ _ h => h.good) fun _ _ h => h
  · exact fun _ => Triple.bind (sound_execute "DISCARD ALL") fun _ =>
      Triple.modify fun _ h => ⟨h.idle, ⟨h.boundary.settled, h.boundary.status⟩⟩

/-- Nothing but asynchronous messages is met while a connection waits. -/
theorem drive_notification (entries : List Entry) (conn : Connection)
    (hAsync : ∀ entry ∈ entries, entry.isAsync) :
    match drive (readStep notificationBody) ((), conn) entries with
    | .waiting s => SameWire conn s.2
    | .done _ s rest => SameWire conn s.2 ∧ ∃ taken, entries = taken ++ rest := by
  induction entries generalizing conn with
  | nil => exact .refl conn
  | cons entry entries ih =>
      have hRest : ∀ entry ∈ entries, entry.isAsync :=
        fun e hMem => hAsync e (List.mem_cons_of_mem _ hMem)
      have hNext : ∀ conn', SameWire conn conn' →
          readStep notificationBody ((), conn) entry = .next ((), conn') →
          match drive (readStep notificationBody) ((), conn) (entry :: entries) with
          | .waiting s => SameWire conn s.2
          | .done _ s rest => SameWire conn s.2 ∧ ∃ taken, entry :: entries = taken ++ rest := by
        intro conn' hSame hStep
        rw [drive_cons_next _ entries hStep]
        have hLater := ih conn' hRest
        revert hLater
        cases drive (readStep notificationBody) ((), conn') entries with
        | waiting s => exact fun hLater => hSame.trans hLater
        | done result s rest =>
            intro hLater
            obtain ⟨hLater, taken, rfl⟩ := hLater
            exact ⟨hSame.trans hLater, entry :: taken, rfl⟩
      have hEntry := hAsync entry List.mem_cons_self
      cases entry with
      | error e => cases hEntry
      | ok message =>
          cases message with
          | notificationResponse body =>
              rw [drive_cons_exit _ entries (show readStep notificationBody ((), conn) _ =
                .exit _ ((), conn) from rfl)]
              exact ⟨.refl conn, [_], rfl⟩
          | noticeResponse body =>
              cases hNotice : PgServerError.fromBody body with
              | ok notice =>
                  exact hNext (conn.handleNotice notice) ⟨rfl, rfl, rfl⟩
                    (by simp [readStep, notificationBody_noticeResponse, hNotice])
              | error e =>
                  exact hNext conn (.refl conn)
                    (by simp [readStep, notificationBody_noticeResponse, hNotice])
          | parameterStatus body =>
              cases hName : body.name with
              | none =>
                  exact hNext conn (.refl conn)
                    (by simp [readStep, notificationBody_parameterStatus, hName])
              | some name =>
                  cases hValue : body.value with
                  | none =>
                      exact hNext conn (.refl conn)
                        (by simp [readStep, notificationBody_parameterStatus, hName, hValue])
                  | some value =>
                      exact hNext { conn with
                        serverParams.params := mapInsert name value conn.serverParams.params }
                        ⟨rfl, rfl, rfl⟩
                        (by simp [readStep, notificationBody_parameterStatus, hName, hValue])
          | _ => cases hEntry

/-- Also where nothing more comes. -/
theorem good_notification {conn : Connection} (hIdle : conn.state = .idle)
    (hGood : Good server conn) : Good server (messageLoop notificationBody net ((), conn)).2.2 := by
  have hTaken : ∀ (conn' : Connection) (taken rest : List Entry), SameWire conn conn' →
      conn.transport.inbox = taken ++ rest → Good server (conn'.setInbox rest) := by
    intro conn' taken rest hSame hInbox
    have hTransport : (conn'.setInbox rest).transport = { conn.transport with inbox := rest } := by
      simp [setInbox, hSame.transport]
    cases hGood with
    | inl hDead =>
        rw [hDead.inbox] at hInbox
        refine .inl ⟨?_, by rw [hTransport]; exact hDead.ending⟩
        rw [hTransport]
        exact (List.append_eq_nil_iff.mp hInbox.symm).2
    | inr hBetween =>
        have hSettled : ({ conn.transport with inbox := rest } : Transport).Settled server := by
          have h := hBetween.2 hIdle
          refine ⟨(h.tidy.drop hInbox).tracked, ?_, h.mode, h.writeBuf⟩
          exact fun entry hMem => h.inbox entry (hInbox ▸ List.mem_append_right _ hMem)
        exact .inr ⟨by rw [hTransport]; exact hSettled.tidy,
          fun _ => by rw [hTransport]; exact hSettled⟩
  have hAsync : ∀ entry ∈ conn.transport.inbox, entry.isAsync := by
    cases hGood with
    | inl hDead =>
        have hInbox := hDead.inbox
        simp [hInbox]
    | inr hBetween => exact (hBetween.2 hIdle).inbox
  have hEnd := drive_notification conn.transport.inbox conn hAsync
  simp only [messageLoop]
  revert hEnd
  cases drive (readStep notificationBody) ((), conn) conn.transport.inbox with
  | waiting s =>
      intro hSame
      cases conn.transport.ending with
      | none => exact hTaken s.2 _ [] hSame (List.append_nil _).symm
      | some e => exact hTaken s.2 _ [] hSame (List.append_nil _).symm
  | done result s rest =>
      intro hEnd
      obtain ⟨hSame, taken, hInbox⟩ := hEnd
      cases result with
      | ok value => exact hTaken s.2 taken rest hSame hInbox
      | error e => exact hTaken s.2 taken rest hSame hInbox

theorem good_waitForNotification {conn : Connection} (hGood : Good server conn)
    (timeout : Option Nat) : Good server (waitForNotification timeout net conn).2 := by
  have hBlocking : Good server (readNextNotificationBlocking net conn).2 := by
    simp only [readNextNotificationBlocking, bind_apply, get_apply, andThen_ok]
    by_cases hIdle : conn.isIdle
    · rw [failIf_neg (by simp [hIdle])]
      exact good_notification (of_decide_eq_true hIdle) hGood
    · rw [failIf_pos (by simp [hIdle])]
      exact hGood
  simp only [waitForNotification, bind_apply, get_apply, andThen_ok]
  cases conn.notificationQueue with
  | cons notification queue => exact hGood
  | nil =>
      cases timeout with
      | some timeout =>
          cases timeout with
          | zero => exact hGood
          | succ n =>
              show Good server (beforeDeadline readNextNotificationBlocking net conn).2
              rw [snd_beforeDeadline]
              exact hBlocking
      | none =>
          simp only [bind_apply]
          revert hBlocking
          cases readNextNotificationBlocking net conn with
          | mk outcome _ =>
              cases outcome with
              | ok _ => exact id
              | err _ => exact id
              | pending => exact id

/-- A replacement is as good as new, however its statements fare. -/
theorem good_replacement (rebuild : Bool) (session : SessionState) :
    Triple net (Good server) (replacement rebuild session) (fun _ => Good server)
      (fun _ => Good server) := by
  have hTracked : ∀ (sql : String) (track : SessionState → SessionState),
      Triple net (Good server) (rebuildStep (tracked sql track)) (fun _ => Good server)
        (fun _ => Good server) := by
    intro sql track
    refine Triple.bind (sound_tracked sql track).attempt fun result => ?_
    cases result with
    | ok value => exact Triple.pure fun _ h => h.good
    | error e => exact Triple.pure fun _ h => h.good
  have hSteps : ∀ statements : List (Client Unit),
      (∀ statement ∈ statements, ∃ sql track, statement = tracked sql track) →
      Triple net (Good server) (rebuildSteps statements) (fun _ => Good server)
        (fun _ => Good server) := by
    intro statements
    induction statements with
    | nil => exact fun _ => Triple.pure fun _ h => h
    | cons statement statements ih =>
        intro hTracks
        obtain ⟨sql, track, rfl⟩ := hTracks statement List.mem_cons_self
        exact Triple.bind (hTracked sql track) fun _ =>
          ih fun s hMem => hTracks s (List.mem_cons_of_mem _ hMem)
  apply Triple.bind_via (fun _ => Good server)
  · unfold rebuildReconnectInitSql
    cases session.reconnectInitSql with
    | none => exact Triple.pure fun _ h => h
    | some sql =>
        exact (sound_map (sound_execute sql) fun _ => ()).mono (fun _ h => h) (fun _ _ h => h.good)
          fun _ _ h => h.good
  · intro _
    refine Triple.doIf (fun _ => ?_) fun _ _ h => h
    apply Triple.bind_via (fun _ => Good server)
    · apply hSteps
      intro statement hMem
      obtain ⟨channel, _, rfl⟩ := List.mem_map.mp hMem
      exact ⟨_, _, rfl⟩
    · intro _
      apply hSteps
      intro statement hMem
      obtain ⟨entry, _, rfl⟩ := List.mem_map.mp hMem
      exact ⟨_, _, rfl⟩

/-- A recovery that was needed has read a reply to its end. -/
theorem done_of_recover {conn conn' : Connection} (hGood : Good server conn)
    (hFlag : conn.needsRecovery) {value : Unit} (hRun : recover net conn = (.ok value, conn')) :
    Done server conn' := by
  have hRead : Triple net (Good server) (do
      readUntilReady
      Async.modify fun conn => { conn with needsRecovery := false } : Client Unit)
      (fun _ => Done server) (fun _ _ => True) := by
    apply Triple.bind
    · exact (triple_readUntilReady stable_between).mono (fun _ h => h) (fun _ _ h => h)
        fun _ _ _ => trivial
    · exact fun _ => Triple.modify fun _ h => h.setRecovery false
  have hEnd := hRead conn hGood
  rw [recover, bind_of_ok (get_apply ..), doIf_pos hFlag] at hRun
  rw [hRun] at hEnd
  exact hEnd

theorem good_of_sound {x : Client Unit} (hSound : Sound server x) {conn : Connection}
    (hGood : Good server conn) (hReturned : (x net conn).1 ≠ .pending) :
    Good server (x net conn).2 := by
  have hEnd := hSound conn hGood
  revert hEnd hReturned
  match x net conn with
  | (.ok value, conn') => exact fun _ hDone => hDone.good
  | (.err e, conn') => exact fun _ hFailed => hFailed.good
  | (.pending, conn') => exact fun hReturned => absurd rfl hReturned

end Good

namespace World

/-- Whatever borrows the connection is dropped. -/
def release (w : World) : World :=
  { w with session := ⟨.none, w.session.handle.drop w.net w.conn⟩ }

/-- The connection is idle, as is its transaction, and no reply is unread. -/
structure Clean (w : World) : Prop where
  free : w.session.handle = .none
  follows : Nonempty (Server w.net)
  idle : w.conn.state = .idle
  status : w.conn.transactionStatus = .idle
  unread : ∀ server : Server w.net, w.conn.transport.Dead ∨ w.conn.transport.Settled server

/-- The last `ReadyForQuery` that the server has sent reports no transaction. -/
def ReportsIdle (w : World) : Prop :=
  ∀ read status later,
    w.net.emitted w.conn.transport.history = read ++ .ok (.readyForQuery status) :: later →
    (∀ entry ∈ later, entry.isReady = false) → TransactionStatus.ofReady status = .idle

/-- The requests and the replies are paired, whatever server is behind the network. -/
structure Paired (w : World) : Prop where
  follows : Nonempty (Server w.net)
  held : ∀ server : Server w.net, Held server w.session.handle w.conn

end World

namespace Action

/-- Nothing is closed, a reconnect succeeds, and what is read at once can be read. -/
def Orderly (w : World) (action : Action) (outcome : Outcome PgError Unit) (_ : World) : Prop :=
  match action with
  | .call request => w.session.Legible w.net request
  | .close | .abort => False
  | .reconnect _ fresh _ => outcome = .ok () ∧ Nonempty (Server fresh)
  | _ => True

/-- An action that has been answered to the end of its last reply. -/
def Settles (w : World) (action : Action) (outcome : Outcome PgError Unit) (w' : World) : Prop :=
  match action with
  | .call request =>
      w.session.Settles request outcome w'.session ∧ w'.session.handle.betweenReplies ∨
        request = .operation .recover ∧ w.conn.needsRecovery ∧ outcome = .ok ()
  | .listen _ | .unlisten _ | .unlistenAll | .setParam _ _ | .reset =>
      match outcome with
      | .ok () => True
      | .err e => e.endsReply
      | .pending => False
  | _ => False

end Action

/-- Where an attempt leaves the connection for the next one: nothing has been done with it; or
its last action has been answered to the end, and the server has no transaction open; or it
has been replaced, the session is rebuilt to the end, and the new server has none open. -/
inductive AtRest (w w' : World) : Prop where
  | untouched (hSame : w' = w)
  | settled {w₁ w₂ : World} {action : Action} {outcome : Outcome PgError Unit}
      (hReach : World.Reaches Action.Orderly w w₁) (hRun : action.run w₁ = some (outcome, w₂))
      (hOrderly : action.Orderly w₁ outcome w₂) (hSettles : action.Settles w₁ outcome w₂)
      (hReleased : w' = w₂.release) (hReports : w'.ReportsIdle)
  | replaced {w₁ : World} {rebuild : Bool} {fresh : Network}
      {handshake : Except PgError ServerParams} (hFollows : Nonempty (Server fresh))
      (hRun : (Action.reconnect rebuild fresh handshake).run w₁ = some (.ok (), w'))
      (hRebuilt : (rebuilt rebuild fresh w₁.conn.sessionState .new).isClean)

namespace World

variable {w w' : World} {action : Action} {outcome : Outcome PgError Unit}

theorem onFree_free {x : Client Unit} (hRun : w.onFree x = some (outcome, w')) :
    w.session.handle = .none ∧ w'.session.handle = .none := by
  obtain ⟨net, handle, conn⟩ := w
  cases handle with
  | none =>
      cases hRun
      exact ⟨rfl, rfl⟩
  | _ => cases hRun

theorem Clean.paired (h : w.Clean) : w.Paired := by
  refine ⟨h.follows, fun server => ?_⟩
  rw [h.free]
  cases h.unread server with
  | inl hDead => exact .inl hDead
  | inr hSettled => exact .inr ⟨hSettled.tidy, fun _ => hSettled⟩

/-- What an operation of the connection itself makes of it. -/
theorem Paired.onFree {x : Client Unit} (h : w.Paired)
    (hGood : ∀ server : Server w.net, Good server w.conn → (x w.net w.conn).1 = outcome →
      Good server (x w.net w.conn).2)
    (hRun : w.onFree x = some (outcome, w')) : w'.Paired := by
  obtain ⟨hFree, hFree'⟩ := onFree_free hRun
  obtain ⟨hRun, hNet⟩ := onFree_eq hRun
  obtain ⟨net, handle, conn⟩ := w
  obtain ⟨net', handle', conn'⟩ := w'
  subst hNet hFree hFree'
  refine ⟨h.follows, fun server => ?_⟩
  have hEnd := hGood server (h.held server) (congrArg Prod.fst hRun)
  rw [hRun] at hEnd
  exact hEnd

/-- A reconnect that succeeds starts on a new server. -/
theorem paired_of_reconnect {rebuild : Bool} {fresh : Network}
    {handshake : Except PgError ServerParams} (hFollows : Nonempty (Server fresh))
    (hRun : (Action.reconnect rebuild fresh handshake).run w = some (.ok (), w')) :
    w'.Paired ∧ w'.session.handle = .none ∧
      ((rebuilt rebuild fresh w.conn.sessionState .new).isClean →
        w'.conn.state = .idle ∧ w'.conn.transactionStatus = .idle) := by
  simp only [Action.run] at hRun
  cases hFree : w.onFree (Connection.reconnect rebuild fresh
      (handshake.map fun params => (.new, params))) with
  | none =>
      rw [hFree] at hRun
      cases hRun
  | some result =>
      obtain ⟨outcome, w₁⟩ := result
      rw [hFree] at hRun
      cases outcome with
      | err e => cases hRun
      | pending => cases hRun
      | ok value =>
          cases hRun
          obtain ⟨_, hHandle⟩ := onFree_free hFree
          obtain ⟨hReconnect, _⟩ := onFree_eq hFree
          cases handshake with
          | error e =>
              rw [show (Except.error e : Except PgError ServerParams).map
                (fun params => (Transport.new, params)) = .error e from rfl,
                reconnect_refused] at hReconnect
              cases hReconnect
          | ok params =>
              rw [show (Except.ok params : Except PgError ServerParams).map
                (fun params => (Transport.new, params)) = .ok (.new, params) from rfl,
                reconnect_connected] at hReconnect
              cases hReplacement : replacement rebuild w.conn.sessionState fresh
                  { new with transport := .new, serverParams := params } with
              | mk outcome newConn =>
                  rw [hReplacement] at hReconnect
                  cases outcome with
                  | err e => cases hReconnect
                  | pending => cases hReconnect
                  | ok value =>
                      have hConn : w₁.conn = swapped w.conn newConn :=
                        (congrArg Prod.snd hReconnect).symm
                      obtain ⟨hHolds, _⟩ := replacement_holds hReplacement
                      refine ⟨⟨hFollows, fun server => ?_⟩, hHandle, fun hClean => ?_⟩
                      · have hSettled := Transport.settled_new server
                        have hGood : Good server newConn := by
                          have hEnd := @good_replacement fresh server rebuild w.conn.sessionState
                            { new with transport := .new, serverParams := params }
                            (.inr ⟨hSettled.tidy, fun _ => hSettled⟩)
                          rw [hReplacement] at hEnd
                          exact hEnd
                        show Held server w₁.session.handle w₁.conn
                        rw [hHandle, hConn]
                        exact hGood
                      · obtain ⟨hState, hStatus⟩ := (Standing.isClean_iff hHolds).mp hClean
                        show w₁.conn.state = .idle ∧ w₁.conn.transactionStatus = .idle
                        rw [hConn]
                        exact ⟨hState, hStatus⟩

theorem Paired.step (h : w.Paired) (hRun : action.run w = some (outcome, w'))
    (hReturned : outcome ≠ .pending) (hOrderly : action.Orderly w outcome w') : w'.Paired := by
  have hSound : ∀ x : Client Unit, (∀ server : Server w.net, Connection.Sound server x) →
      w.onFree x = some (outcome, w') → w'.Paired := fun x hx hRun =>
    h.onFree (fun server hGood hOutcome =>
      good_of_sound (hx server) hGood (by rw [hOutcome]; exact hReturned)) hRun
  cases action with
  | call request =>
      simp only [Action.run] at hRun
      cases hStep : w.session.step w.net request with
      | none =>
          rw [hStep] at hRun
          cases hRun
      | some result =>
          rw [hStep] at hRun
          cases hRun
          exact ⟨h.follows, fun server =>
            (kept_step (h.held server) hOrderly hStep hReturned).held⟩
  | listen channel | unlisten channel | unlistenAll | setParam key value =>
      exact hSound _ (fun _ => sound_tracked _ _) hRun
  | reset => exact hSound _ (fun _ => sound_reset) hRun
  | setReconnectInitSql sql => exact h.onFree (fun _ hGood _ => hGood) hRun
  | retryReturned => exact h.onFree (fun _ hGood _ => hGood) hRun
  | waitForNotification timeout =>
      refine h.onFree (fun server hGood _ => ?_) hRun
      have hWait : Good server (waitForNotification timeout w.net w.conn).2 :=
        good_waitForNotification hGood timeout
      simp only [bind_apply]
      revert hWait
      cases waitForNotification timeout w.net w.conn with
      | mk result _ =>
          cases result with
          | ok _ => exact id
          | err _ => exact id
          | pending => exact id
  | close => exact False.elim hOrderly
  | abort => exact False.elim hOrderly
  | reconnect rebuild fresh handshake =>
      obtain ⟨rfl, hFollows⟩ := hOrderly
      exact (paired_of_reconnect hFollows hRun).1

theorem paired_of_reaches (h : w.Paired) (hReach : Reaches Action.Orderly w w') : w'.Paired := by
  induction hReach with
  | start => exact h
  | step _ hRun hReturned hOrderly ih => exact ih.step hRun hReturned hOrderly

/-- An action that has been answered to the end has read its replies to the end. -/
theorem Paired.settled (h : w.Paired) (hRun : action.run w = some (outcome, w'))
    (hOrderly : action.Orderly w outcome w') (hSettles : action.Settles w outcome w') :
    w'.session.handle.betweenReplies ∧ Nonempty (Server w'.net) ∧
      ∀ server : Server w'.net, Done server w'.conn := by
  have hSound : ∀ x : Client Unit, (∀ server : Server w.net, Connection.Sound server x) →
      w.onFree x = some (outcome, w') →
      Action.reset.Settles w outcome w' →
      w'.session.handle.betweenReplies ∧ Nonempty (Server w'.net) ∧
        ∀ server : Server w'.net, Done server w'.conn := by
    intro x hx hRun hSettles
    obtain ⟨hFree, hFree'⟩ := onFree_free hRun
    obtain ⟨hRun, hNet⟩ := onFree_eq hRun
    obtain ⟨net, handle, conn⟩ := w
    obtain ⟨net', handle', conn'⟩ := w'
    subst hNet hFree hFree'
    refine ⟨rfl, h.follows, fun server => ?_⟩
    have hEnd := hx server conn (h.held server)
    dsimp only [World.conn] at hRun hEnd
    rw [hRun] at hEnd
    cases outcome with
    | ok value => exact hEnd
    | err e => exact hEnd.reply hSettles
    | pending => exact False.elim hSettles
  cases action with
  | call request =>
      simp only [Action.run] at hRun
      cases hStep : w.session.step w.net request with
      | none =>
          rw [hStep] at hRun
          cases hRun
      | some result =>
          obtain ⟨outcome', session⟩ := result
          rw [hStep] at hRun
          cases hRun
          cases hSettles with
          | inl hAsked =>
              obtain ⟨hAsked, hBetween⟩ := hAsked
              refine ⟨hBetween, h.follows, fun server => ?_⟩
              have hReturned : outcome ≠ .pending := by
                intro hPending
                subst hPending
                exact hAsked
              have hKept := kept_step (h.held server) hOrderly hStep hReturned
              cases outcome with
              | ok value => exact hKept.ok rfl hAsked.1 hAsked.2
              | err e => exact hKept.err e rfl hAsked
              | pending => exact absurd rfl hReturned
          | inr hRecovered =>
              obtain ⟨rfl, hFlag, rfl⟩ := hRecovered
              obtain ⟨net, handle, conn⟩ := w
              cases handle with
              | none =>
                  obtain ⟨hOutcome, rfl⟩ := Prod.mk.inj (Option.some.inj hStep)
                  refine ⟨rfl, h.follows, fun server => ?_⟩
                  exact done_of_recover (h.held server) hFlag (Prod.ext hOutcome rfl)
              | _ => cases hStep
  | listen channel | unlisten channel | unlistenAll | setParam key value =>
      exact hSound _ (fun _ => sound_tracked _ _) hRun hSettles
  | reset => exact hSound _ (fun _ => sound_reset) hRun hSettles
  | _ => exact False.elim hSettles

end World
end PgClient
