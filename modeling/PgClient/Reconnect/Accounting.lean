import PgClient.Reconnect.Attempts
import PgClient.Reconnect.Backoff

/-!
The attempts that `Connection::with_retry` makes: how often the closure is called, when a
reconnect is announced, and what the connection is marked as in the end.
-/

namespace PgClient

open Connection

/-- `ConnectionHealth`, without its clock. -/
structure ConnectionHealth where
  alive : Bool := true
  reconnectCount : Nat := 0
deriving DecidableEq, Repr

namespace ConnectionHealth

def markAlive (health : ConnectionHealth) : ConnectionHealth := { health with alive := true }

def markBroken (health : ConnectionHealth) : ConnectionHealth := { health with alive := false }

def resetAfterReconnect (health : ConnectionHealth) : ConnectionHealth :=
  { alive := true, reconnectCount := health.reconnectCount + 1 }

end ConnectionHealth

/-- `ReconnectConfig` with its callback, of which only that it is called matters. -/
structure CallbackReconnectConfig (κ : Type) extends DelayedReconnectConfig where
  onBeforeReconnect : Option κ := none

/-- A callback is not cloned. -/
def CallbackReconnectConfig.clone {κ : Type} (config : CallbackReconnectConfig κ) :
    CallbackReconnectConfig κ :=
  { config with onBeforeReconnect := none }

/-- A connection in its world, and what it is believed to be. -/
structure Monitored where
  world : World
  health : ConnectionHealth

namespace Monitored

def inTransaction (s : Monitored) : Bool := s.world.conn.sessionState.inTransaction

def markBroken (s : Monitored) : Monitored := { s with health := s.health.markBroken }

/-- The closure has returned `Ok`. -/
def returned (s : Monitored) : Monitored :=
  match Action.retryReturned.run s.world with
  | some (_, w) => ⟨w, s.health.markAlive⟩
  | none => ⟨s.world, s.health.markAlive⟩

/-- `Connection::reconnect`, which marks the connection before it does anything else. -/
def reconnect (rebuild : Bool) (fresh : Network × Except PgError ServerParams) (s : Monitored) :
    Outcome PgError Unit × Monitored :=
  match (Action.reconnect rebuild fresh.1 fresh.2).run s.world with
  | some (.ok (), w) => (.ok (), ⟨w, s.health.markBroken.resetAfterReconnect⟩)
  | some (outcome, w) => (outcome, ⟨w, s.health.markBroken⟩)
  | none => (.err .connectionClosed, s.markBroken)

end Monitored

namespace Retry

/-- What a retry loop does, in order. -/
inductive Event (κ : Type) where
  | call (attempt : Nat) (start : Monitored)
  | callback (callback : κ) (attempt : Nat) (e : PgError)
  | sleep (delay : Duration)
  | reconnect (attempt : Nat)

namespace Event

variable {κ : Type}

def called : Event κ → Option Nat
  | .call attempt _ => some attempt
  | _ => none

def announced : Event κ → Option (κ × Nat)
  | .callback announce attempt _ => some (announce, attempt)
  | _ => none

def reconnected : Event κ → Option Nat
  | .reconnect attempt => some attempt
  | _ => none

end Event

inductive Ending (α : Type) where
  | ok (value : α)
  | err (e : PgError)
  | panicked
  | pending

structure Run (κ α : Type) where
  log : List (Event κ)
  ending : Ending α
  final : Monitored

/-- What the loop does when an attempt has failed. -/
inductive Verdict (κ α : Type) where
  | again (events : List (Event κ)) (next : Monitored)
  | stop (events : List (Event κ)) (ending : Ending α) (final : Monitored)

def Verdict.events {κ α : Type} : Verdict κ α → List (Event κ)
  | .again events _ => events
  | .stop events _ _ => events

section Loop

variable {κ α : Type} (config : CallbackReconnectConfig κ) (replacements : Replacements)

def announcement (attempt : Nat) (e : PgError) : List (Event κ) :=
  match config.onBeforeReconnect with
  | some callback => [.callback callback attempt e]
  | none => []

def afterFailure (attempt : Nat) (e : PgError) (s : Monitored) : Verdict κ α :=
  match classifyError e with
  | .permanent => .stop [] (.err e) s
  | .transient =>
      if config.attempts ≤ attempt then .stop [] (.err e) s
      else
        match config.delayForAttempt (.ofNat attempt) with
        | none => .stop [] .panicked s
        | some delay => .again [.sleep delay] s
  | .broken =>
      if !config.enabled then .stop [] (.err e) s.markBroken
      else if !config.allowMidTransaction && s.inTransaction then .stop [] (.err e) s.markBroken
      else if config.attempts ≤ attempt then .stop [] (.err e) s
      else
        match config.delayForAttempt (.ofNat attempt) with
        | none => .stop (announcement config attempt e) .panicked s
        | some delay =>
            match s.reconnect config.rebuildSession (replacements attempt) with
            | (.ok (), next) =>
                .again (announcement config attempt e ++ [.sleep delay, .reconnect attempt]) next
            | (.err _, final) =>
                .stop (announcement config attempt e ++ [.sleep delay, .reconnect attempt])
                  (.err e) final
            | (.pending, final) =>
                .stop (announcement config attempt e ++ [.sleep delay, .reconnect attempt])
                  .pending final

/-- From one attempt to the next: the error is not permanent, attempts are left, nothing keeps the
loop from going on, and a reconnect that is needed succeeds. -/
inductive Leads (attempt : Nat) (e : PgError) (s : Monitored) : Monitored → Prop where
  | transient (hClass : classifyError e = .transient) (hLeft : attempt < config.attempts)
      (hDelay : (config.delayForAttempt (.ofNat attempt)).isSome) :
      Leads attempt e s s
  | broken {next : Monitored} (hClass : classifyError e = .broken) (hEnabled : config.enabled)
      (hAllowed : config.allowMidTransaction ∨ s.inTransaction = false)
      (hLeft : attempt < config.attempts)
      (hDelay : (config.delayForAttempt (.ofNat attempt)).isSome)
      (hReconnect : s.reconnect config.rebuildSession (replacements attempt) = (.ok (), next)) :
      Leads attempt e s next

variable {config replacements} {attempt : Nat} {e : PgError} {s next : Monitored}
  {events : List (Event κ)}

theorem allowed_iff : (!config.allowMidTransaction && s.inTransaction) = false ↔
    config.allowMidTransaction ∨ s.inTransaction = false := by
  cases config.allowMidTransaction <;> simp

/-- What is done about a broken connection that may be replaced. -/
theorem afterFailure_broken (hClass : classifyError e = .broken) (hEnabled : config.enabled)
    (hAllowed : config.allowMidTransaction ∨ s.inTransaction = false) :
    afterFailure config replacements attempt e s =
      if config.attempts ≤ attempt then (.stop [] (.err e) s : Verdict κ α)
      else
        match config.delayForAttempt (.ofNat attempt) with
        | none => .stop (announcement config attempt e) .panicked s
        | some delay =>
            match s.reconnect config.rebuildSession (replacements attempt) with
            | (.ok (), next) =>
                .again (announcement config attempt e ++ [.sleep delay, .reconnect attempt]) next
            | (.err _, final) =>
                .stop (announcement config attempt e ++ [.sleep delay, .reconnect attempt])
                  (.err e) final
            | (.pending, final) =>
                .stop (announcement config attempt e ++ [.sleep delay, .reconnect attempt])
                  .pending final := by
  unfold afterFailure
  simp only [hClass, hEnabled, allowed_iff.mpr hAllowed, Bool.not_true, Bool.false_eq_true,
    if_false]

theorem afterFailure_transient (hClass : classifyError e = .transient) :
    afterFailure config replacements attempt e s =
      if config.attempts ≤ attempt then (.stop [] (.err e) s : Verdict κ α)
      else
        match config.delayForAttempt (.ofNat attempt) with
        | none => .stop [] .panicked s
        | some delay => .again [.sleep delay] s := by
  unfold afterFailure
  simp only [hClass]

theorem left_of_afterFailure
    (h : afterFailure config replacements attempt e s = (.again events next : Verdict κ α)) :
    attempt < config.attempts := by
  unfold afterFailure at h
  split at h
  · cases h
  · split at h
    · cases h
    · omega
  · split at h
    · cases h
    · split at h
      · cases h
      · split at h
        · cases h
        · omega

theorem again_of_leads (h : Leads config replacements attempt e s next) :
    ∃ events, afterFailure config replacements attempt e s =
      (.again events next : Verdict κ α) := by
  cases h with
  | transient hClass hLeft hDelay =>
      obtain ⟨delay, hDelay⟩ := Option.isSome_iff_exists.mp hDelay
      refine ⟨[.sleep delay], ?_⟩
      rw [afterFailure_transient hClass, if_neg (Nat.not_le.mpr hLeft), hDelay]
  | broken hClass hEnabled hAllowed hLeft hDelay hReconnect =>
      obtain ⟨delay, hDelay⟩ := Option.isSome_iff_exists.mp hDelay
      refine ⟨announcement config attempt e ++ [.sleep delay, .reconnect attempt], ?_⟩
      rw [afterFailure_broken hClass hEnabled hAllowed, if_neg (Nat.not_le.mpr hLeft), hDelay,
        hReconnect]

theorem leads_of_again
    (h : afterFailure config replacements attempt e s = (.again events next : Verdict κ α)) :
    Leads config replacements attempt e s next := by
  have hLeft := left_of_afterFailure h
  unfold afterFailure at h
  split at h
  · cases h
  · next hClass =>
      rw [if_neg (Nat.not_le.mpr hLeft)] at h
      split at h
      · cases h
      · next delay hDelay =>
          cases h
          exact .transient hClass hLeft (by simp [hDelay])
  · next hClass =>
      split at h
      · cases h
      · next hEnabled =>
          split at h
          · cases h
          · next hFree =>
              rw [if_neg (Nat.not_le.mpr hLeft)] at h
              split at h
              · cases h
              · next delay hDelay =>
                  split at h
                  · next hReconnect =>
                      cases h
                      exact .broken hClass (by simpa using hEnabled)
                        (allowed_iff.mp (by simpa using hFree)) hLeft (by simp [hDelay]) hReconnect
                  · cases h
                  · cases h

/-- Another attempt has to follow a failure. -/
def Remains (config : CallbackReconnectConfig κ) (attempt : Nat) (e : PgError) (s : Monitored) :
    Prop :=
  match classifyError e with
  | .permanent => False
  | .transient => attempt < config.attempts
  | .broken => config.enabled ∧ (config.allowMidTransaction ∨ s.inTransaction = false) ∧
      attempt < config.attempts

theorem mem_events {event : Event κ}
    (h : event ∈ (afterFailure config replacements attempt e s : Verdict κ α).events) :
    event ∈ announcement config attempt e ∨ (∃ delay, event = .sleep delay) ∨
      event = .reconnect attempt ∧ classifyError e = .broken ∧ Remains config attempt e s := by
  unfold afterFailure at h
  split at h
  · cases h
  · split at h
    · cases h
    · split at h
      · cases h
      · next delay _ => exact .inr (.inl ⟨delay, List.mem_singleton.mp h⟩)
  · next hClass =>
      split at h
      · cases h
      · next hEnabled =>
          split at h
          · cases h
          · next hFree =>
              split at h
              · cases h
              · next hLeft =>
                  have hRemains : Remains config attempt e s := by
                    simp only [Remains, hClass]
                    exact ⟨by simpa using hEnabled, allowed_iff.mp (by simpa using hFree),
                      Nat.lt_of_not_le hLeft⟩
                  split at h
                  · exact .inl h
                  · next delay _ =>
                      have hMem : event ∈ announcement config attempt e ++
                          [.sleep delay, .reconnect attempt] := by
                        revert h
                        split <;> exact id
                      rcases List.mem_append.mp hMem with hMem | hMem
                      · exact .inl hMem
                      · rcases List.mem_pair.mp hMem with rfl | rfl
                        · exact .inr (.inl ⟨delay, rfl⟩)
                        · exact .inr (.inr ⟨rfl, hClass, hRemains⟩)

end Loop

/-- A closure, which may also change what the connection is believed to be. -/
abbrev MonitoredClosure (α : Type) : Type := Nat → Monitored → Outcome PgError α × Monitored

def Run.prepend {κ α : Type} (events : List (Event κ)) (run : Run κ α) : Run κ α :=
  { run with log := events ++ run.log }

section Runs

variable {κ α : Type} (config : CallbackReconnectConfig κ) (replacements : Replacements)
  (f : MonitoredClosure α)

def retryFrom (attempt : Nat) (s : Monitored) : Run κ α :=
  match f attempt s with
  | (.ok value, s') => ⟨[.call attempt s], .ok value, s'.returned⟩
  | (.pending, s') => ⟨[.call attempt s], .pending, s'⟩
  | (.err e, s') =>
      match hAfter : afterFailure config replacements attempt e s' with
      | .stop events ending final => ⟨.call attempt s :: events, ending, final⟩
      | .again events next =>
          (retryFrom (attempt + 1) next).prepend (.call attempt s :: events)
termination_by config.attempts - attempt
decreasing_by
  have hLeft := left_of_afterFailure hAfter
  omega

/-- `Connection::with_retry`, on a clone of the configuration. -/
def monitoredWithRetry (start : Monitored) : Run κ α :=
  retryFrom config.clone replacements f 1 start

/-- The calls that a sequence of outcomes leads to. -/
inductive Faced (first : Nat) (start : Monitored) : Nat → Monitored → Prop where
  | first : Faced first start first start
  | again {attempt : Nat} {s s' next : Monitored} {e : PgError}
      (hFaced : Faced first start attempt s) (hFailed : f attempt s = (.err e, s'))
      (hLeads : Leads config replacements attempt e s' next) :
      Faced first start (attempt + 1) next

variable {config replacements f} {first attempt : Nat} {start s s' next : Monitored} {e : PgError}

theorem retryFrom_stop {events : List (Event κ)} {ending : Ending α} {final : Monitored}
    (hFailed : f attempt s = (.err e, s'))
    (hAfter : afterFailure config replacements attempt e s' = .stop events ending final) :
    retryFrom config replacements f attempt s =
      ⟨.call attempt s :: events, ending, final⟩ := by
  rw [retryFrom, hFailed]
  dsimp only
  split
  · next hStop =>
      rw [hAfter] at hStop
      cases hStop
      rfl
  · next hAgain =>
      rw [hAfter] at hAgain
      cases hAgain

theorem retryFrom_again {events : List (Event κ)} (hFailed : f attempt s = (.err e, s'))
    (hAfter : afterFailure config replacements attempt e s' =
      (.again events next : Verdict κ α)) :
    retryFrom config replacements f attempt s =
      (retryFrom config replacements f (attempt + 1) next).prepend
        (.call attempt s :: events) := by
  rw [retryFrom, hFailed]
  dsimp only
  split
  · next hStop =>
      rw [hAfter] at hStop
      cases hStop
  · next hAgain =>
      rw [hAfter] at hAgain
      cases hAgain
      rfl

theorem retryFrom_ok {value : α} (hReturned : f attempt s = (.ok value, s')) :
    retryFrom config replacements f attempt s =
      ⟨[.call attempt s], .ok value, s'.returned⟩ := by
  rw [retryFrom, hReturned]

theorem retryFrom_pending (hPending : f attempt s = (.pending, s')) :
    retryFrom config replacements f attempt s = ⟨[.call attempt s], .pending, s'⟩ := by
  rw [retryFrom, hPending]

/-- The run from a later call is the end of the whole run. -/
theorem retryFrom_of_faced (h : Faced config replacements f first start attempt s) :
    (∃ before, (retryFrom config replacements f first start).log =
      before ++ (retryFrom config replacements f attempt s).log) ∧
    (retryFrom config replacements f first start).ending =
      (retryFrom config replacements f attempt s).ending ∧
    (retryFrom config replacements f first start).final =
      (retryFrom config replacements f attempt s).final := by
  induction h with
  | first => exact ⟨⟨[], rfl⟩, rfl, rfl⟩
  | again hFaced hFailed hLeads ih =>
      obtain ⟨events, hAgain⟩ := again_of_leads hLeads
      rw [retryFrom_again hFailed hAgain] at ih
      obtain ⟨⟨before, hLog⟩, hEnding, hFinal⟩ := ih
      exact ⟨⟨before ++ _, hLog.trans (List.append_assoc ..).symm⟩, hEnding, hFinal⟩

/-- A run that goes on faces what the run from its next call on does. -/
theorem Faced.head (hFailed : f first start = (.err e, s'))
    (hLeads : Leads config replacements first e s' next)
    (h : Faced config replacements f (first + 1) next attempt s) :
    Faced config replacements f first start attempt s := by
  induction h with
  | first => exact .again .first hFailed hLeads
  | again _ hLater hNext ih => exact .again ih hLater hNext

theorem Faced.le (h : Faced config replacements f first start attempt s) : first ≤ attempt := by
  induction h with
  | first => exact Nat.le_refl first
  | again _ _ _ ih => exact Nat.le_succ_of_le ih

theorem faced_unique {s₁ s₂ : Monitored} (h₁ : Faced config replacements f first start attempt s₁)
    (h₂ : Faced config replacements f first start attempt s₂) : s₁ = s₂ := by
  induction h₁ generalizing s₂ with
  | first =>
      cases h₂ with
      | first => rfl
      | again hFaced => exact absurd hFaced.le (Nat.not_succ_le_self _)
  | again hFaced hFailed hLeads ih =>
      cases h₂ with
      | first => exact absurd hFaced.le (Nat.not_succ_le_self _)
      | again hFaced' hFailed' hLeads' =>
          cases ih hFaced'
          cases hFailed.symm.trans hFailed'
          obtain ⟨events, hAgain⟩ := @again_of_leads _ α _ _ _ _ _ _ hLeads
          obtain ⟨events', hAgain'⟩ := @again_of_leads _ α _ _ _ _ _ _ hLeads'
          cases hAgain.symm.trans hAgain'
          rfl

/-- Whatever is done in a run is a call of it, or done after one that has failed. -/
theorem mem_log {event : Event κ}
    (h : event ∈ (retryFrom config replacements f first start).log) :
    ∃ attempt s, Faced config replacements f first start attempt s ∧
      (event = .call attempt s ∨ ∃ e s', f attempt s = (.err e, s') ∧
        event ∈ (afterFailure config replacements attempt e s' : Verdict κ α).events) := by
  induction first, start using retryFrom.induct config replacements f with
  | case1 attempt s value s' hReturned =>
      rw [retryFrom_ok hReturned] at h
      exact ⟨attempt, s, .first, .inl (List.mem_singleton.mp h)⟩
  | case2 attempt s s' hPending =>
      rw [retryFrom_pending hPending] at h
      exact ⟨attempt, s, .first, .inl (List.mem_singleton.mp h)⟩
  | case3 attempt s e s' hFailed events ending final hStop =>
      rw [retryFrom_stop hFailed hStop] at h
      rcases List.mem_cons.mp h with hCall | hMem
      · exact ⟨attempt, s, .first, .inl hCall⟩
      · exact ⟨attempt, s, .first, .inr ⟨e, s', hFailed, by rwa [hStop]⟩⟩
  | case4 attempt s e s' hFailed events next hAgain ih =>
      rw [retryFrom_again hFailed hAgain] at h
      rcases List.mem_append.mp h with hMem | hLater
      · rcases List.mem_cons.mp hMem with hCall | hMem
        · exact ⟨attempt, s, .first, .inl hCall⟩
        · exact ⟨attempt, s, .first, .inr ⟨e, s', hFailed, by rwa [hAgain]⟩⟩
      · obtain ⟨attempt', t, hFaced, hEvent⟩ := ih hLater
        exact ⟨attempt', t, hFaced.head hFailed (leads_of_again hAgain), hEvent⟩

theorem call_mem_self : .call attempt s ∈ (retryFrom config replacements f attempt s).log := by
  rcases hRun : f attempt s with ⟨value | e | _, s'⟩
  · simp [retryFrom_ok hRun]
  · cases hAfter : (afterFailure config replacements attempt e s' : Verdict κ α) with
    | stop events ending final => simp [retryFrom_stop hRun hAfter]
    | again events next => simp [retryFrom_again hRun hAfter, Run.prepend]
  · simp [retryFrom_pending hRun]

theorem call_mem_iff : .call attempt s ∈ (retryFrom config replacements f first start).log ↔
    Faced config replacements f first start attempt s := by
  constructor
  · intro h
    obtain ⟨attempt', t, hFaced, hCall | ⟨e, s', _, hMem⟩⟩ := mem_log h
    · cases hCall
      exact hFaced
    · rcases mem_events hMem with hMem | ⟨delay, hSleep⟩ | ⟨hReconnect, _⟩
      · unfold announcement at hMem
        split at hMem <;> simp at hMem
      · cases hSleep
      · cases hReconnect
  · intro h
    obtain ⟨⟨before, hLog⟩, _, _⟩ := retryFrom_of_faced h
    rw [hLog]
    exact List.mem_append_right before call_mem_self

/-- A run that returns an error stops after a call that has failed. -/
theorem stop_of_ending (h : (retryFrom config replacements f first start).ending = .err e) :
    ∃ attempt s e' s' events, Faced config replacements f first start attempt s ∧
      f attempt s = (.err e', s') ∧ afterFailure config replacements attempt e' s' =
        (.stop events (.err e) (retryFrom config replacements f first start).final :
          Verdict κ α) := by
  induction first, start using retryFrom.induct config replacements f with
  | case1 attempt s value s' hReturned =>
      rw [retryFrom_ok hReturned] at h
      cases h
  | case2 attempt s s' hPending =>
      rw [retryFrom_pending hPending] at h
      cases h
  | case3 attempt s e' s' hFailed events ending final hStop =>
      rw [retryFrom_stop hFailed hStop] at h ⊢
      cases h
      exact ⟨attempt, s, e', s', events, .first, hFailed, hStop⟩
  | case4 attempt s e' s' hFailed events next hAgain ih =>
      rw [retryFrom_again hFailed hAgain] at h ⊢
      obtain ⟨attempt', t, e'', t', events', hFaced, hStop⟩ := ih h
      exact ⟨attempt', t, e'', t', events', hFaced.head hFailed (leads_of_again hAgain), hStop⟩

end Runs

namespace Run

variable {κ α : Type}

/-- The attempts at which the closure is called. -/
def calls (run : Run κ α) : List Nat := run.log.filterMap Event.called

def announced (run : Run κ α) : List (κ × Nat) := run.log.filterMap Event.announced

def reconnects (run : Run κ α) : List Nat := run.log.filterMap Event.reconnected

end Run

section Accounting

variable {κ α : Type} {config : CallbackReconnectConfig κ} {replacements : Replacements}
  {f : MonitoredClosure α} {start : Monitored}

/-- The closure is not called too often, it is called again when it should be or the run is still
waiting, each reconnect is announced once, and a connection that is left broken is marked. -/
structure Accounted (config : CallbackReconnectConfig κ) (f : MonitoredClosure α)
    (run : Run κ α) : Prop where
  bounded : run.calls.length ≤ max 1 config.maxAttempts
  persistent : ∀ attempt s e s', .call attempt s ∈ run.log → f attempt s = (.err e, s') →
    Remains config attempt e s' → run.ending = .pending ∨ ∃ next, .call (attempt + 1) next ∈ run.log
  announced : ∀ callback, config.onBeforeReconnect = some callback →
    run.announced = run.reconnects.map (callback, ·)
  broken : ∀ e, run.ending = .err e → classifyError e = .broken → run.final.health.alive = false

/-- A failure after which nothing is lost: the delay can be computed, no callback is configured
where a reconnect is due and the reconnect does not fail, and a connection that broke at the
last attempt is marked already. -/
def Kept (config : CallbackReconnectConfig κ) (replacements : Replacements) (attempt : Nat)
    (e : PgError) (s : Monitored) : Prop :=
  match classifyError e with
  | .permanent => True
  | .transient => attempt < config.attempts →
      (config.delayForAttempt (.ofNat attempt)).isSome
  | .broken => config.enabled → (config.allowMidTransaction ∨ s.inTransaction = false) →
      if attempt < config.attempts then
        config.onBeforeReconnect = none ∧ (config.delayForAttempt (.ofNat attempt)).isSome ∧
          ∀ e', (s.reconnect config.rebuildSession (replacements attempt)).1 ≠ .err e'
      else s.health.alive = false

/-- Between two calls there is none. -/
theorem called_events (attempt : Nat) (e : PgError) (s : Monitored) :
    (afterFailure config replacements attempt e s : Verdict κ α).events.filterMap Event.called =
      [] := by
  refine List.filterMap_eq_nil_iff.mpr fun event hMem => ?_
  rcases mem_events hMem with hMem | ⟨delay, rfl⟩ | ⟨rfl, _⟩
  · unfold announcement at hMem
    split at hMem
    · rw [List.mem_singleton.mp hMem]
      rfl
    · cases hMem
  · rfl
  · rfl

theorem calls_retryFrom (attempt : Nat) (s : Monitored) (hAttempt : attempt ≤ config.attempts) :
    (retryFrom config replacements f attempt s).calls.length ≤ config.attempts + 1 - attempt := by
  induction attempt, s using retryFrom.induct config replacements f with
  | case1 attempt s value s' hReturned =>
      rw [retryFrom_ok hReturned]
      show 1 ≤ _
      omega
  | case2 attempt s s' hPending =>
      rw [retryFrom_pending hPending]
      show 1 ≤ _
      omega
  | case3 attempt s e s' hFailed events ending final hStop =>
      have hNone : events.filterMap Event.called = [] := by
        have hEvents := @called_events κ α config replacements attempt e s'
        rwa [hStop] at hEvents
      rw [retryFrom_stop hFailed hStop]
      have hCalls : (⟨.call attempt s :: events, ending, final⟩ : Run κ α).calls = [attempt] :=
        congrArg (attempt :: ·) hNone
      rw [hCalls]
      show 1 ≤ _
      omega
  | case4 attempt s e s' hFailed events next hAgain ih =>
      have hNone : events.filterMap Event.called = [] := by
        have hEvents := @called_events κ α config replacements attempt e s'
        rwa [hAgain] at hEvents
      have hLeft := left_of_afterFailure hAgain
      have hLater := ih (by omega)
      rw [retryFrom_again hFailed hAgain]
      have hCalls : ((retryFrom config replacements f (attempt + 1) next).prepend
          (.call attempt s :: events)).calls =
            attempt :: (retryFrom config replacements f (attempt + 1) next).calls := by
        show attempt :: List.filterMap Event.called (events ++ _) = _
        rw [List.filterMap_append, hNone]
        rfl
      rw [hCalls, List.length_cons]
      omega

theorem leads_clone {attempt : Nat} {e : PgError} {s next : Monitored} :
    Leads config.clone replacements attempt e s next ↔
      Leads config replacements attempt e s next := by
  constructor
  · rintro (⟨hClass, hLeft, hDelay⟩ | ⟨hClass, hEnabled, hAllowed, hLeft, hDelay, hReconnect⟩)
    · exact .transient hClass hLeft hDelay
    · exact .broken hClass hEnabled hAllowed hLeft hDelay hReconnect
  · rintro (⟨hClass, hLeft, hDelay⟩ | ⟨hClass, hEnabled, hAllowed, hLeft, hDelay, hReconnect⟩)
    · exact .transient hClass hLeft hDelay
    · exact .broken hClass hEnabled hAllowed hLeft hDelay hReconnect

theorem faced_clone {first attempt : Nat} {s : Monitored} :
    Faced config.clone replacements f first start attempt s ↔
      Faced config replacements f first start attempt s := by
  constructor
  · intro h
    induction h with
    | first => exact .first
    | again _ hFailed hLeads ih => exact .again ih hFailed (leads_clone.mp hLeads)
  · intro h
    induction h with
    | first => exact .first
    | again _ hFailed hLeads ih => exact .again ih hFailed (leads_clone.mpr hLeads)

/-- The callback is never called. -/
theorem announced_eq_nil : (monitoredWithRetry config replacements f start).announced = [] := by
  refine List.filterMap_eq_nil_iff.mpr fun event hMem => ?_
  obtain ⟨attempt, s, _, rfl | ⟨e, s', _, hMem⟩⟩ := mem_log hMem
  · rfl
  · rcases mem_events hMem with hMem | ⟨delay, rfl⟩ | ⟨rfl, _⟩
    · cases hMem
    · rfl
    · rfl

section Failure

variable {attempt : Nat} {s s' : Monitored} {e : PgError}

theorem afterFailure_clone_transient (hClass : classifyError e = .transient) :
    afterFailure config.clone replacements attempt e s =
      if config.attempts ≤ attempt then (.stop [] (.err e) s : Verdict κ α)
      else
        match config.delayForAttempt (.ofNat attempt) with
        | none => .stop [] .panicked s
        | some delay => .again [.sleep delay] s :=
  afterFailure_transient hClass

/-- What becomes of a broken connection that may be replaced: no callback hears of it. -/
theorem afterFailure_clone_broken (hClass : classifyError e = .broken) (hEnabled : config.enabled)
    (hAllowed : config.allowMidTransaction ∨ s.inTransaction = false) :
    afterFailure config.clone replacements attempt e s =
      if config.attempts ≤ attempt then (.stop [] (.err e) s : Verdict κ α)
      else
        match config.delayForAttempt (.ofNat attempt) with
        | none => .stop [] .panicked s
        | some delay =>
            match s.reconnect config.rebuildSession (replacements attempt) with
            | (.ok (), next) => .again [.sleep delay, .reconnect attempt] next
            | (.err _, final) => .stop [.sleep delay, .reconnect attempt] (.err e) final
            | (.pending, final) => .stop [.sleep delay, .reconnect attempt] .pending final :=
  @afterFailure_broken κ α config.clone replacements attempt e s hClass hEnabled hAllowed

/-- What is done after a failed call is part of the run. -/
theorem mem_log_of_events {event : Event κ}
    (hFaced : Faced config replacements f 1 start attempt s) (hFailed : f attempt s = (.err e, s'))
    (hMem : event ∈ (afterFailure config.clone replacements attempt e s' : Verdict κ α).events) :
    event ∈ (monitoredWithRetry config replacements f start).log := by
  obtain ⟨⟨before, hLog⟩, _⟩ := retryFrom_of_faced (faced_clone.mpr hFaced)
  rw [monitoredWithRetry, hLog]
  apply List.mem_append_right
  cases hAfter : (afterFailure config.clone replacements attempt e s' : Verdict κ α) with
  | stop events ending final =>
      rw [hAfter] at hMem
      rw [retryFrom_stop hFailed hAfter]
      exact List.mem_cons_of_mem _ hMem
  | again events next =>
      rw [hAfter] at hMem
      rw [retryFrom_again hFailed hAfter]
      exact List.mem_append_left _ (List.mem_cons_of_mem _ hMem)

/-- A run that stops after a failure with which it should go on is still waiting. -/
theorem pending_of_stop {events : List (Event κ)} {ending : Ending α} {final : Monitored}
    (h : Accounted config f (monitoredWithRetry config replacements f start))
    (hFaced : Faced config replacements f 1 start attempt s) (hFailed : f attempt s = (.err e, s'))
    (hRemains : Remains config attempt e s')
    (hStop : afterFailure config.clone replacements attempt e s' = .stop events ending final) :
    ending = .pending := by
  have hFaced := faced_clone.mpr hFaced
  rcases h.persistent attempt s e s' (call_mem_iff.mpr hFaced) hFailed hRemains with
    hPending | ⟨next, hNext⟩
  · have hEnding : (monitoredWithRetry config replacements f start).ending = ending := by
      rw [monitoredWithRetry, (retryFrom_of_faced hFaced).2.1, retryFrom_stop hFailed hStop]
    exact hEnding.symm.trans hPending
  · cases call_mem_iff.mp hNext with
    | first => exact absurd hFaced.le (by omega)
    | again hFaced' hFailed' hLeads =>
        cases faced_unique hFaced hFaced'
        cases hFailed.symm.trans hFailed'
        obtain ⟨events', hAgain⟩ := @again_of_leads _ α _ _ _ _ _ _ hLeads
        cases hStop.symm.trans hAgain

theorem kept_of_accounted
    (h : Accounted config f (monitoredWithRetry config replacements f start))
    (hFaced : Faced config replacements f 1 start attempt s)
    (hFailed : f attempt s = (.err e, s')) : Kept config replacements attempt e s' := by
  cases hClass : classifyError e with
  | permanent => simp only [Kept, hClass]
  | transient =>
      have hVerdict := @afterFailure_clone_transient κ α config replacements attempt s' e hClass
      simp only [Kept, hClass]
      intro hLeft
      have hRemains : Remains config attempt e s' := by simpa only [Remains, hClass]
      rw [if_neg (Nat.not_le.mpr hLeft)] at hVerdict
      cases hDelay : config.delayForAttempt (.ofNat attempt) with
      | some delay => rfl
      | none =>
          rw [hDelay] at hVerdict
          cases pending_of_stop h hFaced hFailed hRemains hVerdict
  | broken =>
      simp only [Kept, hClass]
      intro hEnabled hAllowed
      have hVerdict :=
        @afterFailure_clone_broken κ α config replacements attempt s' e hClass hEnabled hAllowed
      by_cases hLeft : attempt < config.attempts
      · have hRemains : Remains config attempt e s' := by
          simp only [Remains, hClass]
          exact ⟨hEnabled, hAllowed, hLeft⟩
        rw [if_neg (Nat.not_le.mpr hLeft)] at hVerdict
        rw [if_pos hLeft]
        cases hDelay : config.delayForAttempt (.ofNat attempt) with
        | none =>
            rw [hDelay] at hVerdict
            cases pending_of_stop h hFaced hFailed hRemains hVerdict
        | some delay =>
            rw [hDelay] at hVerdict
            refine ⟨?_, rfl, ?_⟩
            · have hReconnect : .reconnect attempt ∈
                  (afterFailure config.clone replacements attempt e s' : Verdict κ α).events := by
                rw [hVerdict]
                rcases s'.reconnect config.rebuildSession (replacements attempt) with
                  ⟨_ | _ | _, _⟩ <;> simp [Verdict.events]
              cases hCallback : config.onBeforeReconnect with
              | none => rfl
              | some callback =>
                  have hAnnounced := h.announced callback hCallback
                  rw [announced_eq_nil] at hAnnounced
                  have hMem : attempt ∈
                      (monitoredWithRetry config replacements f start).reconnects :=
                    List.mem_filterMap.mpr
                      ⟨_, mem_log_of_events hFaced hFailed hReconnect, rfl⟩
                  rw [List.map_eq_nil_iff.mp hAnnounced.symm] at hMem
                  cases hMem
            · intro e' hErr
              rw [show s'.reconnect config.rebuildSession (replacements attempt) =
                (.err e', _) from Prod.ext hErr rfl] at hVerdict
              cases pending_of_stop h hFaced hFailed hRemains hVerdict
      · rw [if_pos (Nat.le_of_not_lt hLeft)] at hVerdict
        rw [if_neg hLeft]
        have hRun := retryFrom_of_faced (faced_clone.mpr hFaced)
        rw [retryFrom_stop hFailed hVerdict] at hRun
        have hMarked := h.broken e hRun.2.1 hClass
        rwa [show (monitoredWithRetry config replacements f start).final = s' from hRun.2.2]
          at hMarked

end Failure

theorem reconnect_alive {rebuild : Bool} {fresh : Network × Except PgError ServerParams}
    {s final : Monitored} {e : PgError} (h : s.reconnect rebuild fresh = (.err e, final)) :
    final.health.alive = false := by
  unfold Monitored.reconnect at h
  split at h
  · cases h
  · cases h
    rfl
  · cases h
    rfl

/-- A broken error is returned on a marked connection, unless it is the last attempt's. -/
theorem alive_of_stop {attempt : Nat} {e e' : PgError} {s final : Monitored}
    {events : List (Event κ)} (hClass : classifyError e = .broken)
    (h : afterFailure config replacements attempt e' s =
      (.stop events (.err e) final : Verdict κ α)) :
    e' = e ∧ (final.health.alive = false ∨ config.enabled ∧
      (config.allowMidTransaction ∨ s.inTransaction = false) ∧ config.attempts ≤ attempt ∧
        final = s) := by
  unfold afterFailure at h
  split at h
  · next hClass' =>
      cases h
      rw [hClass] at hClass'
      cases hClass'
  · next hClass' =>
      split at h
      · cases h
        rw [hClass] at hClass'
        cases hClass'
      · split at h <;> cases h
  · split at h
    · cases h
      exact ⟨rfl, .inl rfl⟩
    · next hEnabled =>
        split at h
        · cases h
          exact ⟨rfl, .inl rfl⟩
        · next hFree =>
            split at h
            · next hOver =>
                cases h
                exact ⟨rfl, .inr ⟨by simpa using hEnabled,
                  allowed_iff.mp (by simpa using hFree), hOver, rfl⟩⟩
            · split at h
              · cases h
              · split at h
                · cases h
                · next hReconnect =>
                    cases h
                    exact ⟨rfl, .inl (reconnect_alive hReconnect)⟩
                · cases h

theorem accounted_of_kept
    (h : ∀ attempt s e s', Faced config replacements f 1 start attempt s →
      f attempt s = (.err e, s') → Kept config replacements attempt e s') :
    Accounted config f (monitoredWithRetry config replacements f start) := by
  have hMost : config.attempts ≤ max 1 config.maxAttempts := by
    unfold ReconnectConfig.attempts
    split <;> omega
  refine ⟨?_, ?_, ?_, ?_⟩
  · have hCalls := @calls_retryFrom κ α config.clone replacements f 1 start config.one_le_attempts
    exact Nat.le_trans hCalls hMost
  · intro attempt s e s' hCall hFailed hRemains
    have hFaced := faced_clone.mp (call_mem_iff.mp hCall)
    have hKept := h attempt s e s' hFaced hFailed
    have hNext : ∀ next, Leads config replacements attempt e s' next →
        ∃ next, .call (attempt + 1) next ∈ (monitoredWithRetry config replacements f start).log :=
      fun next hLeads => ⟨next, call_mem_iff.mpr (faced_clone.mpr (.again hFaced hFailed hLeads))⟩
    cases hClass : classifyError e with
    | permanent => simp only [Remains, hClass] at hRemains
    | transient =>
        simp only [Remains, Kept, hClass] at hRemains hKept
        exact .inr (hNext s' (.transient hClass hRemains (hKept hRemains)))
    | broken =>
        simp only [Remains, Kept, hClass] at hRemains hKept
        obtain ⟨hEnabled, hAllowed, hLeft⟩ := hRemains
        have hKept := hKept hEnabled hAllowed
        rw [if_pos hLeft] at hKept
        obtain ⟨_, hDelay, hReconnect⟩ := hKept
        match hOutcome : s'.reconnect config.rebuildSession (replacements attempt) with
        | (.ok (), next) =>
            exact .inr (hNext next (.broken hClass hEnabled hAllowed hLeft hDelay hOutcome))
        | (.err e', final) => exact absurd (congrArg Prod.fst hOutcome) (hReconnect e')
        | (.pending, final) =>
            obtain ⟨delay, hDelay⟩ := Option.isSome_iff_exists.mp hDelay
            have hVerdict := @afterFailure_clone_broken κ α config replacements attempt s' e hClass
              hEnabled hAllowed
            rw [if_neg (Nat.not_le.mpr hLeft), hDelay, hOutcome] at hVerdict
            left
            rw [monitoredWithRetry, (retryFrom_of_faced (faced_clone.mpr hFaced)).2.1,
              retryFrom_stop hFailed hVerdict]
  · intro callback hCallback
    rw [announced_eq_nil]
    have hNone : (monitoredWithRetry config replacements f start).reconnects = [] := by
      refine List.filterMap_eq_nil_iff.mpr fun event hMem => ?_
      obtain ⟨attempt, s, hFaced, rfl | ⟨e, s', hFailed, hMem⟩⟩ := mem_log hMem
      · rfl
      · rcases mem_events hMem with hMem | ⟨delay, rfl⟩ | ⟨rfl, hClass, hRemains⟩
        · cases hMem
        · rfl
        · have hKept := h attempt s e s' (faced_clone.mp hFaced) hFailed
          simp only [Remains, Kept, hClass] at hRemains hKept
          obtain ⟨hEnabled, hAllowed, hLeft⟩ := hRemains
          have hKept := hKept hEnabled hAllowed
          rw [if_pos (show attempt < config.attempts from hLeft), hCallback] at hKept
          cases hKept.1
    rw [hNone]
    rfl
  · intro e hEnding hClass
    obtain ⟨attempt, s, e', s', events, hFaced, hFailed, hStop⟩ := stop_of_ending hEnding
    obtain ⟨rfl, hAlive | ⟨hEnabled, hAllowed, hOver, hFinal⟩⟩ := alive_of_stop hClass hStop
    · exact hAlive
    · have hKept := h attempt s e' s' (faced_clone.mp hFaced) hFailed
      simp only [Kept, hClass] at hKept
      have hKept := hKept hEnabled hAllowed
      rw [if_neg (show ¬ attempt < config.attempts from Nat.not_lt.mpr hOver)] at hKept
      rw [monitoredWithRetry, hFinal]
      exact hKept

/-- Attempts are accounted for as long as, after every failure that may be tried again, the delay
does not overflow and a reconnect that is due is not announced to anyone and does not fail, and as
long as a connection that breaks at the last attempt is marked already. -/
theorem accounted_iff (config : CallbackReconnectConfig κ) (replacements : Replacements)
    (f : MonitoredClosure α) (start : Monitored) :
    Accounted config f (monitoredWithRetry config replacements f start) ↔
      ∀ attempt s e s', Faced config replacements f 1 start attempt s →
        f attempt s = (.err e, s') → Kept config replacements attempt e s' :=
  ⟨fun h _ _ _ _ hFaced hFailed => kept_of_accounted h hFaced hFailed, accounted_of_kept⟩

/-- The server is gone: the loop gives up at the first of three attempts, and nobody is told. -/
theorem not_accounted :
    ¬ ∀ (config : CallbackReconnectConfig Unit) (replacements : Replacements)
      (f : MonitoredClosure Unit) (start : Monitored),
      Accounted config f (monitoredWithRetry config replacements f start) := by
  intro hAll
  let config : CallbackReconnectConfig Unit := { enabled := true, onBeforeReconnect := some () }
  have h := hAll config (fun _ => (Ledger.network, .error (.transport .connectionRefused)))
    (fun _ s => (.err .connectionClosed, s)) ⟨World.connected Ledger.network {}, {}⟩
  have hKept : if 1 < config.attempts then _ ∧ _ else _ :=
    kept_of_accounted h .first rfl rfl (.inr rfl)
  rw [if_pos (by decide)] at hKept
  cases hKept.1

end Accounting

section Refinement

variable {α κ : Type} {config : CallbackReconnectConfig κ} {replacements : Replacements}

/-- A closure that leaves alone what the connection is believed to be. -/
def lifted (g : Closure α) : MonitoredClosure α := fun attempt s =>
  ((g attempt s.world).1, { s with world := (g attempt s.world).2 })

def Ending.ofOutcome : Outcome PgError α → Ending α
  | .ok value => .ok value
  | .err e => .err e
  | .pending => .pending

theorem lifted_apply {g : Closure α} {attempt : Nat} {s : Monitored} {outcome : Outcome PgError α}
    {w : World} (hRun : g attempt s.world = (outcome, w)) :
    lifted g attempt s = (outcome, ⟨w, s.health⟩) := by
  simp only [lifted, hRun]

/-- The same step without delays, health and callback. -/
theorem afterFailure_afterConnection {attempt : Nat} {e : PgError} {s : Monitored}
    (hDelay : attempt < config.attempts →
      (config.delayForAttempt (.ofNat attempt)).isSome) :
    match afterConnection config.toReconnectConfig replacements attempt e s.world with
    | (.ok (), w) => ∃ events health, afterFailure config replacements attempt e s =
        (.again events ⟨w, health⟩ : Verdict κ α)
    | (.err _, w) => ∃ events health, afterFailure config replacements attempt e s =
        (.stop events (.err e) ⟨w, health⟩ : Verdict κ α)
    | (.pending, w) => ∃ events health, afterFailure config replacements attempt e s =
        (.stop events .pending ⟨w, health⟩ : Verdict κ α) := by
  cases hClass : classifyError e with
  | permanent =>
      simp only [afterConnection, retryDecision, afterFailure, hClass]
      exact ⟨_, _, rfl⟩
  | transient =>
      rw [afterFailure_transient hClass]
      by_cases hLeft : attempt < config.attempts
      · obtain ⟨delay, hDelay⟩ := Option.isSome_iff_exists.mp (hDelay hLeft)
        simp only [afterConnection, retryDecision, hClass, hDelay, if_neg (Nat.not_le.mpr hLeft)]
        exact ⟨_, _, rfl⟩
      · simp only [afterConnection, retryDecision, hClass, if_pos (Nat.le_of_not_lt hLeft)]
        exact ⟨_, _, rfl⟩
  | broken =>
      cases hEnabled : config.enabled with
      | false =>
          simp only [afterConnection, retryDecision, afterFailure, hClass, hEnabled, Bool.not_false,
            if_true]
          exact ⟨_, _, rfl⟩
      | true =>
          cases hFree : !config.allowMidTransaction && s.inTransaction with
          | true =>
              have hOpen : (!config.allowMidTransaction &&
                s.world.conn.sessionState.inTransaction) = true := hFree
              simp only [afterConnection, retryDecision, afterFailure, hClass, hEnabled, hFree,
                hOpen, Bool.not_true, Bool.false_eq_true, if_false, if_true]
              exact ⟨_, _, rfl⟩
          | false =>
              have hOutside : (!config.allowMidTransaction &&
                s.world.conn.sessionState.inTransaction) = false := hFree
              rw [afterFailure_broken hClass hEnabled (allowed_iff.mp hFree)]
              by_cases hLeft : attempt < config.attempts
              · obtain ⟨delay, hDelay⟩ := Option.isSome_iff_exists.mp (hDelay hLeft)
                simp only [afterConnection, retryDecision, hClass, hEnabled, hOutside, hDelay,
                  if_neg (Nat.not_le.mpr hLeft), Bool.not_true, Bool.false_eq_true, if_false,
                  Monitored.reconnect]
                rcases (Action.reconnect config.rebuildSession (replacements attempt).1
                  (replacements attempt).2).run s.world with _ | ⟨_ | _ | _, w⟩ <;>
                  exact ⟨_, _, rfl⟩
              · simp only [afterConnection, retryDecision, hClass, hEnabled, hOutside,
                  if_pos (Nat.le_of_not_lt hLeft), Bool.not_true, Bool.false_eq_true, if_false]
                exact ⟨_, _, rfl⟩

/-- What `Connection::with_retry` still does when the closure has returned `Ok`. -/
def finished : Outcome PgError α × World → Outcome PgError α × World
  | (.ok value, w) =>
      match Action.retryReturned.run w with
      | some (_, w') => (.ok value, w')
      | none => (.ok value, w)
  | result => result

theorem finished_ok (value : α) (w : World) (health : ConnectionHealth) :
    finished (.ok value, w) = (.ok value, (Monitored.returned ⟨w, health⟩).world) := by
  simp only [finished, Monitored.returned]
  cases Action.retryReturned.run w <;> rfl

theorem retryFrom_lifted (g : Closure α)
    (hDelays : ∀ attempt, attempt < config.attempts →
      (config.delayForAttempt (.ofNat attempt)).isSome)
    (remaining : Nat) {attempt : Nat} {s : Monitored}
    (hLast : attempt + remaining = config.attempts) :
    ((retryFrom config replacements (lifted g) attempt s).ending,
      (retryFrom config replacements (lifted g) attempt s).final.world) =
    (Ending.ofOutcome (finished (retryLoop (afterConnection config.toReconnectConfig replacements)
        g remaining attempt s.world)).1,
      (finished (retryLoop (afterConnection config.toReconnectConfig replacements)
        g remaining attempt s.world)).2) := by
  induction remaining generalizing attempt s with
  | zero =>
      rw [retryLoop]
      rcases hRun : g attempt s.world with ⟨value | e | _, w⟩
      · have hLifted := lifted_apply hRun
        rw [retryFrom_ok hLifted, finished_ok value w s.health]
        rfl
      · have hLifted := lifted_apply hRun
        have hAfter := @afterFailure_afterConnection α κ config replacements attempt e
          ⟨w, s.health⟩ (hDelays attempt)
        have hGivesUp : afterConnection config.toReconnectConfig replacements attempt e w =
            (.err e, w) := by
          rw [show attempt = config.attempts from hLast, afterConnection, retryDecision_last]
        rw [hGivesUp] at hAfter
        obtain ⟨events, health, hStop⟩ := hAfter
        rw [retryFrom_stop hLifted hStop]
        rfl
      · have hLifted := lifted_apply hRun
        rw [retryFrom_pending hLifted]
        rfl
  | succ remaining ih =>
      rw [retryLoop]
      rcases hRun : g attempt s.world with ⟨value | e | _, w⟩
      · have hLifted := lifted_apply hRun
        rw [retryFrom_ok hLifted]
        dsimp only
        rw [finished_ok value w s.health]
        rfl
      · have hLifted := lifted_apply hRun
        have hAfter := @afterFailure_afterConnection α κ config replacements attempt e
          ⟨w, s.health⟩ (hDelays attempt)
        dsimp only at hAfter ⊢
        rcases hNext : afterConnection config.toReconnectConfig replacements attempt e w with
          ⟨_ | _ | _, w'⟩
        · rw [hNext] at hAfter
          obtain ⟨events, health, hAgain⟩ := hAfter
          rw [retryFrom_again hLifted hAgain]
          exact @ih (attempt + 1) ⟨w', health⟩ (by omega)
        · rw [hNext] at hAfter
          obtain ⟨events, health, hStop⟩ := hAfter
          rw [retryFrom_stop hLifted hStop]
          rfl
        · rw [hNext] at hAfter
          obtain ⟨events, health, hStop⟩ := hAfter
          rw [retryFrom_stop hLifted hStop]
          rfl
      · have hLifted := lifted_apply hRun
        rw [retryFrom_pending hLifted]
        rfl

/-- Where no delay overflows, a run does to the connection what the loop without delays, health
and callback does. -/
theorem monitoredWithRetry_lifted (g : Closure α) (start : Monitored)
    (hDelays : ∀ attempt, attempt < config.attempts →
      (config.delayForAttempt (.ofNat attempt)).isSome) :
    ((monitoredWithRetry config replacements (lifted g) start).ending,
      (monitoredWithRetry config replacements (lifted g) start).final.world) =
    (Ending.ofOutcome
        (connectionWithRetry config.toReconnectConfig replacements g start.world).1,
      (connectionWithRetry config.toReconnectConfig replacements g start.world).2) := by
  exact @retryFrom_lifted α κ config.clone replacements g hDelays (config.attempts - 1) 1 start
    (Nat.add_sub_cancel' config.one_le_attempts)

end Refinement

end Retry
end PgClient
