import PgClient.Effects.Calls
import PgClient.Transparency.Alike

/-!
Two runs of an operation, with asynchronous messages put in anywhere in what the server
sends: they end with the same result, and on connections that are alike but for what these
messages leave.
-/

namespace PgClient

open Drive Async

namespace Connection

variable {L α β : Type} {alike : List Entry → List Entry → Prop}

/-- The state that a step of a loop leads to. -/
def stepState {σ γ : Type} : Step σ γ → σ
  | .next s => s
  | .exit _ s => s

/-- A loop that takes nothing from the transport itself, and does with what is not hidden the
same whatever the wire and the messages taken aside have left. -/
structure Blind (hidden : Entry → Bool)
    (body : L × Connection → BackendMessage → Step (L × Connection) (Except PgError β)) :
    Prop where
  transport : ∀ s entry, (stepState (readStep body s entry)).2.transport = s.2.transport
  follows : ∀ a, Follows (readStep body) (readStep body)
    (fun s : L × Connection => (s.1, s.2.overlay a)) fun entry => !hidden entry

theorem Blind.drive_transport {hidden : Entry → Bool}
    {body : L × Connection → BackendMessage → Step (L × Connection) (Except PgError β)}
    (h : Blind hidden body) (s : L × Connection) (entries : List Entry) :
    match drive (readStep body) s entries with
    | .waiting s' => s'.2.transport = s.2.transport
    | .done _ s' _ => s'.2.transport = s.2.transport := by
  have hNext : ∀ s₁ entry s₂, s₁.2.transport = s.2.transport →
      readStep body s₁ entry = .next s₂ → s₂.2.transport = s.2.transport := by
    intro s₁ entry s₂ hInv hStep
    have hKept := h.transport s₁ entry
    rw [hStep] at hKept
    exact hKept.trans hInv
  have hExit : ∀ s₁ entry result s₂, s₁.2.transport = s.2.transport →
      readStep body s₁ entry = .exit result s₂ → s₂.2.transport = s.2.transport := by
    intro s₁ entry result s₂ hInv hStep
    have hKept := h.transport s₁ entry
    rw [hStep] at hKept
    exact hKept.trans hInv
  have hInv := drive_invariant (readStep body) _ _ hNext hExit rfl entries
  revert hInv
  cases drive (readStep body) s entries <;> exact id

theorem alike_setInbox {conn conn' s s' : Connection} (h : conn.Alike alike conn')
    (hTransport : s.transport = conn.transport) (hTransport' : s'.transport = conn'.transport)
    (hRest : s.overlay conn.aside = s'.overlay conn.aside) {rest rest' : List Entry}
    (hInbox : alike rest rest') : Alike alike (s.setInbox rest) (s'.setInbox rest') := by
  refine ⟨⟨?_, ?_, ?_, hInbox⟩, ?_⟩
  · simp [setInbox, hTransport, hTransport', h.transport.writeBuf]
  · simp [setInbox, hTransport, hTransport', h.transport.history]
  · simp [setInbox, hTransport, hTransport', h.transport.ending]
  · calc
      s'.overlay (s.setInbox rest).aside
          = (s'.overlay conn.aside).overlay (s.setInbox rest).aside := rfl
      _ = (s.overlay conn.aside).overlay (s.setInbox rest).aside := by rw [hRest]
      _ = s.setInbox rest := rfl

/-- The two runs of such a loop. -/
theorem Blind.respects {hidden : Entry → Bool}
    {body : L × Connection → BackendMessage → Step (L × Connection) (Except PgError β)}
    (h : Blind hidden body) :
    Respects (Network.Alike (SameBut hidden)) (OnSnd (Alike (SameBut hidden)))
      (messageLoop body) := by
  rintro net net' ⟨l, conn⟩ ⟨_, conn'⟩ hNet ⟨rfl, hAlike⟩
  have hDrive := (h.follows conn.aside).drive (l, conn) conn.transport.inbox
  have hDrive' := (h.follows conn.aside).drive (l, conn') conn'.transport.inbox
  have hKept := h.drive_transport (l, conn) conn.transport.inbox
  have hKept' := h.drive_transport (l, conn') conn'.transport.inbox
  have hInbox : conn.transport.inbox.filter (fun entry => !hidden entry) =
      conn'.transport.inbox.filter fun entry => !hidden entry := hAlike.transport.inbox
  have hStart : (l, conn.overlay conn.aside) = (l, conn'.overlay conn.aside) := by
    rw [overlay_aside, hAlike.rest]
  simp only [messageLoop]
  rw [hInbox, hStart] at hDrive
  revert hDrive hDrive' hKept hKept'
  cases drive (readStep body) (l, conn) conn.transport.inbox with
  | waiting s =>
      cases drive (readStep body) (l, conn') conn'.transport.inbox with
      | waiting s' =>
          intro hDrive hDrive' hKept hKept'
          rw [hDrive] at hDrive'
          obtain ⟨hLocal, hRest⟩ := Prod.mk.inj (Stop.waiting.inj hDrive')
          have hLeft := alike_setInbox hAlike hKept hKept' hRest (rfl : SameBut hidden [] [])
          dsimp only
          rw [hAlike.transport.ending]
          cases conn'.transport.ending <;> exact ⟨rfl, hLocal, hLeft⟩
      | done result s' rest =>
          intro hDrive hDrive'
          rw [hDrive] at hDrive'
          cases hDrive'
  | done result s rest =>
      cases drive (readStep body) (l, conn') conn'.transport.inbox with
      | waiting s' =>
          intro hDrive hDrive'
          rw [hDrive] at hDrive'
          cases hDrive'
      | done result' s' rest' =>
          intro hDrive hDrive' hKept hKept'
          rw [hDrive] at hDrive'
          obtain ⟨rfl, hState, hLeft⟩ := Stop.done.inj hDrive'
          obtain ⟨hLocal, hRest⟩ := Prod.mk.inj hState
          exact ⟨rfl, hLocal, alike_setInbox hAlike hKept hKept' hRest hLeft⟩

/-- What an asynchronous message leaves on a connection is set aside. -/
theorem overlay_of_handleAsyncMessage {conn conn' : Connection} {message : BackendMessage}
    (h : conn.handleAsyncMessage message = some conn') :
    conn'.transport = conn.transport ∧ ∀ a, conn'.overlay a = conn.overlay a := by
  cases message with
  | noticeResponse body =>
      simp only [handleAsyncMessage] at h
      split at h <;> cases h <;> exact ⟨rfl, fun _ => rfl⟩
  | parameterStatus body =>
      simp only [handleAsyncMessage] at h
      split at h <;> cases h <;> exact ⟨rfl, fun _ => rfl⟩
  | notificationResponse body =>
      cases h
      exact ⟨rfl, fun _ => rfl⟩
  | _ => cases h

/-- A body that takes aside what is hidden and is the same otherwise. -/
theorem blind_of {hidden : Entry → Bool}
    {body : L × Connection → BackendMessage → Step (L × Connection) (Except PgError β)}
    (hError : ∀ e, hidden (.error e) = false)
    (hAside : ∀ l conn message, hidden (.ok message) →
      ∃ conn', body (l, conn) message = .next (l, conn') ∧
        conn'.transport = conn.transport ∧ ∀ a, conn'.overlay a = conn.overlay a)
    (hOther : ∀ l conn a message, hidden (.ok message) = false →
      body (l, conn.overlay a) message =
        (body (l, conn) message).map fun s => (s.1, s.2.overlay a)) :
    Blind hidden body := by
  refine ⟨?_, fun a => ⟨?_, ?_⟩⟩
  · rintro ⟨l, conn⟩ entry
    cases entry with
    | error e => rfl
    | ok message =>
        cases hKind : hidden (.ok message) with
        | true =>
            obtain ⟨conn', hNext, hTransport, -⟩ := hAside l conn message hKind
            rw [readStep, hNext]
            exact hTransport
        | false =>
            have hSame := hOther l conn conn.aside message hKind
            rw [overlay_aside] at hSame
            rw [readStep]
            revert hSame
            cases body (l, conn) message with
            | next s =>
                intro hSame
                exact congrArg (fun s => s.2.transport) (Step.next.inj hSame)
            | exit result s =>
                intro hSame
                exact congrArg (fun s => s.2.transport) (Step.exit.inj hSame).2
  · rintro ⟨l, conn⟩ entry hSees
    cases entry with
    | error e => rfl
    | ok message =>
        have hKind : hidden (.ok message) = false := by simpa using hSees
        simp only [readStep, hOther _ _ _ message hKind]
  · rintro ⟨l, conn⟩ entry hSees
    cases entry with
    | error e =>
        rw [hError e] at hSees
        cases hSees
    | ok message =>
        have hKind : hidden (.ok message) := by simpa using hSees
        obtain ⟨conn', hNext, -, hOverlay⟩ := hAside l conn message hKind
        simp only [readStep, hNext, Step.map_next, hOverlay]

theorem Plain.blind
    {body : L × Connection → BackendMessage → Step (L × Connection) (Except PgError β)}
    (h : Plain body) : Blind Entry.isAsync body := by
  obtain ⟨other, rfl, hOther⟩ := h
  have hSync : ∀ l conn message, message.isAsync = false →
      asyncFirst other (l, conn) message = other (l, conn) message := by
    intro l conn message hSync
    have hNone : conn.handleAsyncMessage message = none := by
      rw [← Option.not_isSome_iff_eq_none, handleAsyncMessage_isSome]
      simp [hSync]
    simp only [asyncFirst, hNone]
  apply blind_of fun _ => rfl
  · intro l conn message (hAsync : message.isAsync)
    rw [← handleAsyncMessage_isSome conn] at hAsync
    obtain ⟨conn', hConn⟩ := Option.isSome_iff_exists.mp hAsync
    exact ⟨conn', by simp only [asyncFirst, hConn], overlay_of_handleAsyncMessage hConn⟩
  · intro l conn a message (hKind : message.isAsync = false)
    rw [hSync _ _ _ hKind, hSync _ _ _ hKind, hOther]

/-- Two runs of a client that end alike, whatever asynchronous messages come in either. -/
def Transparent {α : Type} (x : Client α) : Prop :=
  Respects (Network.Alike (SameBut Entry.isAsync)) (Alike (SameBut Entry.isAsync)) x

def OwnerTransparent {L α : Type} (x : Owner L α) : Prop :=
  Respects (Network.Alike (SameBut Entry.isAsync)) (OnSnd (Alike (SameBut Entry.isAsync))) x

theorem appends_sameBut (hidden : Entry → Bool) : Appends (SameBut hidden) :=
  fun _ _ _ _ => sameBut_append

theorem transparent_rules : Rules @Transparent @OwnerTransparent where
  pure := respects_pure
  fail := respects_fail
  bind := respects_bind
  attempt := respects_attempt
  get hk hRespects := by
    apply respects_get_bind _ hRespects
    intro conn conn' h
    rw [h.eq_overlay, hk]
  types := respects_env_bind fun _ _ hNet => hNet.typeFromOid
  modify hf := respects_modify fun _ _ h => h.map hf
  write := respects_encodeAndWrite (appends_sameBut _)
  flush := respects_flush (appends_sameBut _)
  shutdown := respects_shutdown (appends_sameBut _)
  owned := by
    intro L α l drop x hDrop hx net net' conn conn' hNet h
    obtain ⟨hOutcome, hLocal, hLeft⟩ := hx net net' (l, conn) (l, conn') hNet ⟨rfl, h⟩
    refine ⟨hOutcome, ?_⟩
    dsimp only
    rw [← hLocal]
    exact hLeft.map (hDrop _)
  ownerPure := respects_pure
  ownerFail := respects_fail
  ownerWait := respects_wait
  ownerBind := respects_bind
  ownerAttempt := respects_attempt
  ownerGet hk hRespects := by
    apply respects_get_bind _ hRespects
    rintro ⟨l, conn⟩ ⟨_, conn'⟩ ⟨rfl, h⟩
    have hSame : conn' = conn.overlay conn'.aside := h.eq_overlay
    rw [hSame, hk]
  ownerModify := by
    intro L f hf
    apply respects_modify
    rintro ⟨l, conn⟩ ⟨_, conn'⟩ ⟨rfl, h⟩
    have hSnd : ∀ conn a, (f (l, conn.overlay a)).2 = (f (l, conn)).2.overlay a :=
      fun conn a => congrArg Prod.snd (hf l conn a)
    have hSame : conn' = conn.overlay conn'.aside := h.eq_overlay
    have hMap : Alike (SameBut Entry.isAsync) (f (l, conn)).2 (f (l, conn')).2 :=
      Alike.map (f := fun conn => (f (l, conn)).2) h hSnd
    refine ⟨?_, hMap⟩
    dsimp only
    rw [hSame, hf]
  onSnd := respects_onSnd
  withExtra := respects_withExtra
  loop hBody := hBody.blind.respects
  fueled := by
    intro L α x hx hFuel net net' s s' hNet h
    obtain ⟨more, hMore, hMore'⟩ : ∃ more, s.2.transport.inbox.length + 1 ≤ more ∧
        s'.2.transport.inbox.length + 1 ≤ more := ⟨_, Nat.le_max_left _ _, Nat.le_max_right _ _⟩
    dsimp only
    rw [hFuel net s _ more (Nat.lt_succ_self _) hMore,
      hFuel net' s' _ more (Nat.lt_succ_self _) hMore']
    exact hx more net net' s s' hNet h

end Connection
end PgClient
