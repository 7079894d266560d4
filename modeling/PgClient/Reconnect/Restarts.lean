import PgClient.Reconnect.Attempts

/-!
What an attempt has to leave behind for the next one to start clean, in each of the three
retry loops.
-/

namespace PgClient

open Connection

namespace World

variable {w w' : World}

theorem drop_betweenReplies {handle : Handle} (h : handle.betweenReplies) (net : Network)
    (conn : Connection) :
    (handle.drop net conn).transport = conn.transport ∧
      (handle.drop net conn).state = conn.state ∧
      (handle.drop net conn).transactionStatus = conn.transactionStatus := by
  cases handle with
  | none | cursor cursor => exact ⟨rfl, rfl, rfl⟩
  | cursorStream stream =>
      simp only [Handle.drop, CursorStream.drop]
      split <;> exact ⟨rfl, rfl, rfl⟩
  | rowStream stream => cases h
  | copyIn copy | copyOut copy => cases h

/-- At the end of its last reply a connection has the status that the server has reported. -/
theorem clean_of_done (hBetween : w.session.handle.betweenReplies)
    (hFollows : Nonempty (Server w.net)) (hDone : ∀ server : Server w.net, Done server w.conn)
    (hReports : w.release.ReportsIdle) : w.release.Clean := by
  obtain ⟨hTransport, hState, hStatus⟩ := drop_betweenReplies hBetween w.net w.conn
  obtain ⟨server⟩ := hFollows
  obtain ⟨consumed, status, hEmitted, hReported⟩ := (hDone server).boundary.status
  have hLast : ∀ entry ∈ w.conn.transport.inbox, entry.isReady = false := fun entry hMem =>
    not_ready_of_isAsync ((hDone server).boundary.settled.inbox entry hMem)
  refine ⟨rfl, ⟨server⟩, ?_, ?_, ?_⟩
  · exact hState.trans (hDone server).idle
  · rw [show w.release.conn.transactionStatus = _ from hStatus, hReported]
    refine hReports consumed status w.conn.transport.inbox ?_ hLast
    show w.net.emitted (w.session.handle.drop w.net w.conn).transport.history = _
    rw [hTransport, hEmitted]
  · intro server'
    show (w.session.handle.drop w.net w.conn).transport.Dead ∨
      (w.session.handle.drop w.net w.conn).transport.Settled server'
    rw [hTransport]
    exact .inr (hDone server').boundary.settled

/-- A connection that is replaced is as clean as the session that is rebuilt on it. -/
theorem clean_of_reconnect {rebuild : Bool} {fresh : Network}
    {handshake : Except PgError ServerParams} (hFollows : Nonempty (Server fresh))
    (hRun : (Action.reconnect rebuild fresh handshake).run w = some (.ok (), w'))
    (hRebuilt : (rebuilt rebuild fresh w.conn.sessionState .new).isClean) : w'.Clean := by
  obtain ⟨hPaired, hFree, hStands⟩ := paired_of_reconnect hFollows hRun
  obtain ⟨hIdle, hStatus⟩ := hStands hRebuilt
  refine ⟨hFree, hPaired.follows, hIdle, hStatus, fun server => ?_⟩
  have hHeld := hPaired.held server
  rw [hFree] at hHeld
  cases hHeld with
  | inl hDead => exact .inl hDead
  | inr hBetween => exact .inr (hBetween.2 hIdle)

theorem Clean.atRest (h : w.Clean) (hRest : AtRest w w') : w'.Clean := by
  cases hRest with
  | untouched hSame => exact hSame ▸ h
  | settled hReach hRun hOrderly hSettles hReleased hReports =>
      obtain ⟨hBetween, hFollows, hDone⟩ :=
        (paired_of_reaches h.paired hReach).settled hRun hOrderly hSettles
      subst hReleased
      exact clean_of_done hBetween hFollows hDone hReports
  | replaced hFollows hRun hRebuilt => exact clean_of_reconnect hFollows hRun hRebuilt

end World

namespace Retry

variable {α : Type}

/-- The retry loops, each with what decides whether it goes on. -/
inductive Loop where
  | withRetry (maxRetries : Nat)
  | withRetryAny (maxRetries : Nat)
  | connectionWithRetry (config : ReconnectConfig) (replacements : Replacements)

namespace Loop

def run (f : Closure α) : Loop → World → Outcome PgError α × World
  | .withRetry maxRetries => Retry.withRetry maxRetries f
  | .withRetryAny maxRetries => Retry.withRetryAny maxRetries f
  | .connectionWithRetry config replacements => Retry.connectionWithRetry config replacements f

def after : Loop → After
  | .withRetry maxRetries => decideOnly (retryServer maxRetries)
  | .withRetryAny maxRetries => decideOnly (retryAny maxRetries)
  | .connectionWithRetry config replacements => afterConnection config replacements

/-- Two loops count the attempts that have failed, the third those that are made. -/
def first : Loop → Nat
  | .withRetry _ | .withRetryAny _ => 0
  | .connectionWithRetry _ _ => 1

/-- The worlds in which a run calls its closure; every attempt that another one follows is as
`allowed`. -/
abbrev Calls (loop : Loop) (allowed : World → World → Prop) (f : Closure α) (start : World) :
    Nat → World → Prop :=
  Invoked allowed loop.after f loop.first start

end Loop

theorem retryLoop_congr {after : After} {f f' : Closure α} {first : Nat} {start : World}
    (hAgree : ∀ attempt w, Invoked (fun _ _ => True) after f first start attempt w →
      f attempt w = f' attempt w) (remaining : Nat) {attempt : Nat} {w : World}
    (hInvoked : Invoked (fun _ _ => True) after f first start attempt w) :
    retryLoop after f remaining attempt w = retryLoop after f' remaining attempt w := by
  induction remaining generalizing attempt w with
  | zero => exact hAgree attempt w hInvoked
  | succ remaining ih =>
      rw [retryLoop, retryLoop, ← hAgree attempt w hInvoked]
      cases hRun : f attempt w with
      | mk outcome w' =>
          cases outcome with
          | ok value => rfl
          | pending => rfl
          | err e =>
              dsimp only
              cases hAfter : after attempt e w' with
              | mk outcome w'' =>
                  cases outcome with
                  | ok value => exact ih (.again hInvoked hRun hAfter trivial)
                  | err e' => rfl
                  | pending => rfl

/-- A run is decided by what the closure does in these worlds, and it does no more than
that. -/
theorem Loop.run_congr (loop : Loop) {f f' : Closure α} {start : World}
    (hAgree : ∀ attempt w, loop.Calls (fun _ _ => True) f start attempt w →
      f attempt w = f' attempt w) : loop.run f start = loop.run f' start := by
  cases loop with
  | withRetry maxRetries => exact retryLoop_congr hAgree _ .first
  | withRetryAny maxRetries => exact retryLoop_congr hAgree _ .first
  | connectionWithRetry config replacements =>
      have hLoop : retryLoop (afterConnection config replacements) f (config.attempts - 1) 1 start =
          retryLoop (afterConnection config replacements) f' (config.attempts - 1) 1 start :=
        retryLoop_congr hAgree _ .first
      simp only [Loop.run, Retry.connectionWithRetry, hLoop]

/-- However many attempts follow each other and whatever the closure does, each one starts
on a clean connection when the attempts before it have left theirs at rest. -/
theorem Loop.clean_of_calls (loop : Loop) {f : Closure α} {start : World} (hStart : start.Clean)
    {attempt : Nat} {w : World} (hCalls : loop.Calls AtRest f start attempt w) : w.Clean := by
  induction hCalls with
  | first => exact hStart
  | again _ _ _ hRest ih => exact ih.atRest hRest

/-- Statements one after the other until one of them fails. -/
def statements : List String → World → Outcome PgError Unit × World
  | [], w => (.ok (), w)
  | sql :: later, w =>
      match (Action.call (.operation (.execute sql))).run w with
      | some (.ok (), w') => statements later w'
      | some (outcome, w') => (outcome, w')
      | none => (.err .connectionClosed, w)

theorem reaches_statements (sqls : List String) {start w : World}
    (hReach : World.Reaches (fun _ _ _ _ => True) start w)
    (hReturned : (statements sqls w).1 ≠ .pending) :
    World.Reaches (fun _ _ _ _ => True) start (statements sqls w).2 := by
  induction sqls generalizing w with
  | nil => exact hReach
  | cons sql later ih =>
      rw [statements] at hReturned ⊢
      cases hRun : (Action.call (.operation (.execute sql))).run w with
      | none => exact hReach
      | some result =>
          obtain ⟨outcome, w'⟩ := result
          rw [hRun] at hReturned
          cases outcome with
          | ok value => exact ih (.step hReach hRun (by simp) trivial) hReturned
          | err e => exact .step hReach hRun (by simp) trivial
          | pending => exact absurd rfl hReturned

def connected : World := World.connected Ledger.network {}

theorem clean_connected : connected.Clean :=
  ⟨rfl, ⟨Ledger.protocol⟩, rfl, rfl, fun server => .inr (Transport.settled_new server)⟩

/-- A transaction in which a statement fails. -/
def failing : Closure Unit := fun _ => statements ["BEGIN", "FAIL"]

/-- It is rolled back before its error is returned. -/
def undoing : Closure Unit := fun attempt w =>
  match failing attempt w with
  | (.err e, w') => (.err e, (statements ["ROLLBACK"] w').2)
  | result => result

def failure : PgError := .server { code := "40001" }

def failed : World := (failing 0 connected).2

def undone : World := (undoing 0 connected).2

theorem reportsIdle_undone : undone.ReportsIdle := by
  intro read status later hEmitted hLater
  have hList : undone.net.emitted undone.conn.transport.history =
      [.ok (.commandComplete (some "BEGIN")), .ok (.readyForQuery 84),
        .ok (.errorResponse Ledger.serializationFailure), .ok (.readyForQuery 69),
        .ok (.commandComplete (some "ROLLBACK")), .ok (.readyForQuery 73)] := rfl
  have hLast : (read ++ Except.ok (.readyForQuery status) :: later).getLast? =
      some (.ok (.readyForQuery 73)) := by
    rw [← hEmitted, hList]
    rfl
  obtain rfl | ⟨init, entry, rfl⟩ := List.eq_nil_or_concat' later
  · rw [List.getLast?_concat] at hLast
    cases hLast
    rfl
  · rw [← List.cons_append, ← List.append_assoc, List.getLast?_concat] at hLast
    have hReady := hLater entry (by simp)
    rw [Option.some.inj hLast] at hReady
    cases hReady

/-- A transaction that is rolled back before it is tried again. -/
theorem Loop.clean_of_calls_undone :
    (Loop.withRetry 1).Calls AtRest undoing connected 1 undone ∧ undone.Clean := by
  have hBegin : (Action.call (.operation (.execute "BEGIN"))).run connected =
      some (.ok (), (statements ["BEGIN"] connected).2) := rfl
  have hFail : (Action.call (.operation (.execute "FAIL"))).run
      (statements ["BEGIN"] connected).2 = some (.err failure, failed) := rfl
  have hRollback : (Action.call (.operation (.execute "ROLLBACK"))).run failed =
      some (.ok (), undone) := rfl
  have hReach : World.Reaches Action.Orderly connected failed :=
    .step (.step .start hBegin (by simp) trivial) hFail (by simp) trivial
  have hRest : AtRest connected undone :=
    .settled hReach hRollback trivial (.inl ⟨⟨rfl, rfl⟩, rfl⟩) rfl reportsIdle_undone
  have hUndoing : undoing 0 connected = (.err failure, undone) := rfl
  have hAfter : (Loop.withRetry 1).after 0 failure undone = (.ok (), undone) := rfl
  have hCalls : (Loop.withRetry 1).Calls AtRest undoing connected 1 undone :=
    .again .first hUndoing hAfter hRest
  exact ⟨hCalls, Loop.clean_of_calls _ clean_connected hCalls⟩

/-- A closure that leaves its transaction open is called again inside of it. -/
theorem not_clean_of_calls :
    ¬ ∀ (loop : Loop) (f : Closure Unit) (start w : World) (attempt : Nat),
      (∀ attempt w, (f attempt w).1 ≠ .pending →
        World.Reaches (fun _ _ _ _ => True) w (f attempt w).2) →
      start.Clean → loop.Calls (fun _ _ => True) f start attempt w → w.Clean := by
  intro hAll
  have hFailing : failing 0 connected = (.err failure, failed) := rfl
  have hAfter : (Loop.withRetry 1).after 0 failure failed = (.ok (), failed) := rfl
  have hClean := hAll (.withRetry 1) failing connected failed 1
    (fun _ _ hReturned => reaches_statements _ .start hReturned) clean_connected
    (.again .first hFailing hAfter trivial)
  exact TransactionStatus.noConfusion hClean.status

end Retry
end PgClient
