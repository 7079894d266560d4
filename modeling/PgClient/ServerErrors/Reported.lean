import PgClient.Effects.Operations
import PgClient.Notification.Delivery

/-!
What becomes of an error of the server that a computation reads: whether the computation
fails with it, and what the parts have to do so that the whole does.
-/

namespace PgClient

open Drive Async Connection

/-- No error of the server is among these. -/
def Clean (read : List Entry) : Prop := ∀ entry ∈ read, entry.isError = false

/-- The outcome is the error of the server, with its fields. -/
def Surfaces {α : Type} (body : ErrorBody) (outcome : Outcome PgError α) : Prop :=
  ∃ serverErr, PgServerError.fromBody body = .ok serverErr ∧ outcome = .err (.server serverErr)

/-- An error of the server whose fields can be read, and whose reply can be to its end. -/
def Resynchronises (body : ErrorBody) (ahead : List Entry) : Prop :=
  body.fields.isOk ∧ unfinished ahead = false

/-- From one state of the wire to another an error of the server is read, and it is the first:
what has been read before it, and what comes after it, read or unread. -/
def MeetsError (net : Network) (t t' : Transport) (before : List Entry) (body : ErrorBody)
    (ahead : List Entry) : Prop :=
  ∃ delivered after,
    Transport.Passed net t t' delivered (before ++ .ok (.errorResponse body) :: after) ∧
      Clean before ∧ ahead = after ++ t'.inbox

/-- If an error of the server is read, the outcome is that error just where it comes after
something of this kind and its reply can be read to the end. -/
inductive Reports {α : Type} (net : Network) (looks : List Entry → Prop) (t t' : Transport)
    (outcome : Outcome PgError α) : Prop where
  | clean {delivered : List FrontendMessage} {read : List Entry}
      (hPassed : Transport.Passed net t t' delivered read) (hClean : Clean read)
  | met {before ahead : List Entry} {body : ErrorBody}
      (hMeets : MeetsError net t t' before body ahead) (hFails : ∀ a, outcome ≠ .ok a)
      (hSurfaces : Surfaces body outcome ↔ looks before ∧ Resynchronises body ahead)

theorem clean_append {read later : List Entry} :
    Clean (read ++ later) ↔ Clean read ∧ Clean later := by
  simp [Clean, or_imp, forall_and]

theorem clean_nil : Clean [] := by simp [Clean]

theorem clean_cons {entry : Entry} {read : List Entry} :
    Clean (entry :: read) ↔ entry.isError = false ∧ Clean read := by
  simp [Clean]

theorem Surfaces.fails {α : Type} {body : ErrorBody} {outcome : Outcome PgError α}
    (h : Surfaces body outcome) (a : α) : outcome ≠ .ok a := by
  obtain ⟨serverErr, -, rfl⟩ := h
  simp

theorem not_surfaces_of_endsReply {α : Type} (body : ErrorBody) {e : PgError}
    (hError : e.endsReply = false) : ¬ Surfaces body (.err e : Outcome PgError α) := by
  rintro ⟨serverErr, -, hServer⟩
  cases hServer
  cases hError

theorem not_surfaces_pending {α : Type} (body : ErrorBody) :
    ¬ Surfaces body (.pending : Outcome PgError α) := by
  rintro ⟨serverErr, -, hServer⟩
  cases hServer

/-- The first error in a list of entries stands where it stands. -/
theorem first_unique {before before' after after' : List Entry} {body body' : ErrorBody}
    (hClean : Clean before) (hClean' : Clean before')
    (hSame : before ++ .ok (.errorResponse body) :: after =
      before' ++ .ok (.errorResponse body') :: after') :
    before = before' ∧ body = body' ∧ after = after' := by
  induction before generalizing before' with
  | nil =>
      cases before' with
      | nil => simpa using hSame
      | cons entry before' =>
          obtain ⟨rfl, -⟩ := List.cons.inj hSame
          exact absurd (clean_cons.mp hClean').1 (by simp [Entry.isError, BackendMessage.isError])
  | cons entry before ih =>
      cases before' with
      | nil =>
          obtain ⟨rfl, -⟩ := List.cons.inj hSame
          exact absurd (clean_cons.mp hClean).1 (by simp [Entry.isError, BackendMessage.isError])
      | cons entry' before' =>
          obtain ⟨rfl, hRest⟩ := List.cons.inj hSame
          obtain ⟨rfl, hBoth⟩ := ih (clean_cons.mp hClean).2 (clean_cons.mp hClean').2 hRest
          exact ⟨rfl, hBoth⟩

/-- What a report says of the error that is met. -/
theorem Reports.surfaces_iff {α : Type} {net : Network} {looks : List Entry → Prop}
    {t t' : Transport}
    {outcome : Outcome PgError α} {before ahead : List Entry} {body : ErrorBody}
    (h : Reports net looks t t' outcome) (hMeets : MeetsError net t t' before body ahead) :
    Surfaces body outcome ↔ looks before ∧ Resynchronises body ahead := by
  obtain ⟨delivered, after, hPassed, hBefore, rfl⟩ := hMeets
  cases h with
  | clean hOther hClean =>
      rw [← hOther.readSince, hPassed.readSince] at hClean
      have hError := hClean (.ok (.errorResponse body)) (by simp)
      cases hError
  | met hOther hFails hSurfaces =>
      obtain ⟨delivered', after', hOther, hBefore', rfl⟩ := hOther
      have hSame := hPassed.readSince.symm.trans hOther.readSince
      obtain ⟨rfl, rfl, rfl⟩ := first_unique hBefore hBefore' hSame
      exact hSurfaces

section Reports

variable {α β : Type} {net : Network} {looks : List Entry → Prop} {t t' t'' : Transport}

theorem Reports.congr {outcome : Outcome PgError α} {outcome' : Outcome PgError β}
    (h : Reports net looks t t' outcome) (hFails : ∀ b, outcome' ≠ .ok b)
    (hSame : ∀ body, Surfaces body outcome' ↔ Surfaces body outcome) :
    Reports net looks t t' outcome' := by
  cases h with
  | clean hPassed hClean => exact .clean hPassed hClean
  | met hMeets _ hSurfaces => exact .met hMeets hFails ((hSame _).trans hSurfaces)

theorem Reports.err {e : PgError} (h : Reports net looks t t' (.err e : Outcome PgError α)) :
    Reports net looks t t' (.err e : Outcome PgError β) :=
  h.congr (by simp) fun body => by simp [Surfaces]

theorem Reports.pending (h : Reports net looks t t' (.pending : Outcome PgError α)) :
    Reports net looks t t' (.pending : Outcome PgError β) :=
  h.congr (by simp) fun body => by simp [Surfaces]

theorem Reports.silent {delivered : List FrontendMessage} (outcome : Outcome PgError α)
    (hPassed : Transport.Passed net t t' delivered []) : Reports net looks t t' outcome :=
  .clean hPassed clean_nil

/-- Nothing is read, and then comes the rest. -/
theorem Reports.after_silent {delivered : List FrontendMessage} {outcome : Outcome PgError α}
    (hPassed : Transport.Passed net t t' delivered []) (h : Reports net looks t' t'' outcome) :
    Reports net looks t t'' outcome := by
  cases h with
  | clean hLater hClean => exact .clean (hPassed.trans hLater) hClean
  | met hMeets hFails hSurfaces =>
      obtain ⟨delivered', after, hLater, hBefore, hAhead⟩ := hMeets
      have hWhole := hPassed.trans hLater
      rw [List.nil_append] at hWhole
      exact .met ⟨_, after, hWhole, hBefore, hAhead⟩ hFails hSurfaces

/-- No error is read, and then comes the rest. -/
theorem Reports.after_ok {a : α} {outcome : Outcome PgError β}
    (h : Reports net (fun _ => True) t t' (.ok a : Outcome PgError α))
    (h' : Reports net (fun _ => True) t' t'' outcome) :
    Reports net (fun _ => True) t t'' outcome := by
  cases h with
  | met _ hFails => exact absurd rfl (hFails a)
  | clean hPassed hClean =>
      cases h' with
      | clean hLater hClean' =>
          exact .clean (hPassed.trans hLater) (clean_append.mpr ⟨hClean, hClean'⟩)
      | met hMeets hFails hSurfaces =>
          obtain ⟨delivered', after, hLater, hBefore, hAhead⟩ := hMeets
          have hWhole := hPassed.trans hLater
          rw [← List.append_assoc] at hWhole
          have hMeets : MeetsError net t t'' _ _ _ :=
            ⟨_, after, hWhole, clean_append.mpr ⟨hClean, hBefore⟩, hAhead⟩
          exact .met hMeets hFails (hSurfaces.trans (by simp))

end Reports

namespace Connection

/-- A computation on a connection, seen in its state, reports every error of the server that
it meets if it starts where `p` holds, and where it returns `q` holds. -/
def Honest {σ α : Type} (view : σ → Connection) (net : Network) (p : σ → Prop)
    (x : Async Network σ PgError α) (q : σ → Prop) : Prop :=
  ∀ s, p s →
    Reports net (fun _ => True) (view s).transport (view (x net s).2).transport (x net s).1 ∧
      ∀ a, (x net s).1 = .ok a → q (x net s).2

section Rules

variable {σ α β : Type} {view : σ → Connection} {net : Network} {p q r : σ → Prop}

theorem Honest.mono {x : Async Network σ PgError α} (h : Honest view net p x q)
    (hPre : ∀ s, r s → p s) : Honest view net r x q :=
  fun s hs => h s (hPre s hs)

theorem Honest.weaken {x : Async Network σ PgError α} (h : Honest view net p x q)
    (hPost : ∀ s, q s → r s) : Honest view net p x r :=
  fun s hs => ⟨(h s hs).1, fun a ha => hPost _ ((h s hs).2 a ha)⟩

/-- What the computation keeps besides. -/
theorem Honest.keeps {inv : σ → Prop} {x : Async Network σ PgError α} (h : Honest view net p x q)
    (hKeeps : Keeps net inv x) :
    Honest view net (fun s => p s ∧ inv s) x (fun s => q s ∧ inv s) :=
  fun s hs => ⟨(h s hs.1).1, fun a ha => ⟨(h s hs.1).2 a ha, hKeeps s hs.2⟩⟩

theorem honest_bind {x : Async Network σ PgError α} {f : α → Async Network σ PgError β}
    (hx : Honest view net p x q) (hf : ∀ a, Honest view net q (f a) r) :
    Honest view net p (x >>= f) r := by
  intro s hs
  obtain ⟨hReports, hPost⟩ := hx s hs
  rw [bind_apply]
  revert hReports hPost
  match x net s with
  | (.ok a, s') =>
      intro hReports hPost
      obtain ⟨hLater, hEnd⟩ := hf a s' (hPost a rfl)
      exact ⟨hReports.after_ok hLater, hEnd⟩
  | (.err e, s') => exact fun hReports _ => ⟨hReports.err, by simp⟩
  | (.pending, s') => exact fun hReports _ => ⟨hReports.pending, by simp⟩

/-- Code that looks at the state in which it starts. -/
theorem honest_getBind {f : σ → Async Network σ PgError β}
    (hf : ∀ s₀, p s₀ → Honest view net (fun s => s = s₀) (f s₀) q) :
    Honest view net p (Async.get >>= f) q :=
  fun s hs => hf s hs s rfl

/-- Something that reads nothing. -/
theorem honest_silent {x : Async Network σ PgError α}
    (hPassed : ∀ s, ∃ delivered,
      Transport.Passed net (view s).transport (view (x net s).2).transport delivered [])
    (hKeep : ∀ s, p s → q (x net s).2) : Honest view net p x q := by
  intro s hs
  obtain ⟨delivered, hPassed⟩ := hPassed s
  exact ⟨.silent _ hPassed, fun _ _ => hKeep s hs⟩

theorem honest_pure (a : α) : Honest view net p (pure a : Async Network σ PgError α) p :=
  honest_silent (fun _ => ⟨[], rfl⟩) fun _ hs => hs

theorem honest_fail (e : PgError) : Honest view net p
    (Async.fail e : Async Network σ PgError α) q :=
  fun _ _ => ⟨.silent _ (Transport.passed_refl net _), fun a ha => by cases ha⟩

theorem honest_wait : Honest view net p (Async.wait : Async Network σ PgError α) q :=
  fun _ _ => ⟨.silent _ (Transport.passed_refl net _), fun a ha => by cases ha⟩

theorem honest_get : Honest view net p (Async.get : Async Network σ PgError σ) p :=
  honest_silent (fun _ => ⟨[], rfl⟩) fun _ hs => hs

theorem honest_env : Honest view net p (Async.env : Async Network σ PgError Network) p :=
  honest_silent (fun _ => ⟨[], rfl⟩) fun _ hs => hs

theorem honest_lift (result : Except PgError α) :
    Honest view net p (Async.lift result : Async Network σ PgError α) p := by
  cases result with
  | ok a => exact honest_pure a
  | error e => exact honest_fail e

theorem honest_modify {f : σ → σ} (hTransport : ∀ s, (view (f s)).transport = (view s).transport)
    (hKeep : ∀ s, p s → p (f s)) :
    Honest view net p (Async.modify f : Async Network σ PgError Unit) p := by
  refine honest_silent (fun s => ⟨[], ?_⟩) hKeep
  rw [modify_apply, hTransport s]
  exact Transport.passed_refl net _

theorem honest_map (f : α → β) {x : Async Network σ PgError α} (hx : Honest view net p x q) :
    Honest view net p (x >>= fun a => pure (f a)) q :=
  honest_bind hx fun a => honest_pure (f a)

theorem honest_doIf {c : Prop} [Decidable c] {x : Async Network σ PgError Unit}
    (hx : c → Honest view net p x q) (hSkip : ∀ s, ¬ c → p s → q s) :
    Honest view net p (Async.doIf c x) q := by
  by_cases hCond : c
  · rw [doIf_pos hCond]
    exact hx hCond
  · rw [doIf_neg hCond]
    exact (honest_pure ()).weaken fun s => hSkip s hCond

end Rules

/-- A computation on a connection alone, with conditions on the recovery flag. -/
abbrev ClientHonest {α : Type} (net : Network) (p : Bool → Prop) (x : Client α) (q : Bool → Prop) :
    Prop :=
  Honest (fun conn => conn) net (fun conn => p conn.needsRecovery) x
    fun conn => q conn.needsRecovery

abbrev OwnerHonest {L α : Type} (net : Network) (p : Bool → Prop) (x : Owner L α)
    (q : Bool → Prop) : Prop :=
  Honest Prod.snd net (fun s => p s.2.needsRecovery) x fun s => q s.2.needsRecovery

section Parts

variable {L α β : Type} {net : Network} {p q : Bool → Prop}

theorem honest_onSnd {x : Client α} (hx : ClientHonest net p x q) :
    OwnerHonest net p (Async.onSnd x : Owner L α) q :=
  fun s hs => hx s.2 hs

theorem honest_withLocal {l : L} {x : Owner L α} (hx : OwnerHonest net p x q) :
    ClientHonest net p (Async.withLocal l x) q :=
  fun conn hs => hx (l, conn) hs

theorem honest_emits {x : Client α} (hx : Emits x) : ClientHonest net p x p := by
  refine honest_silent (fun conn => (hx net conn).1.1) fun conn hs => ?_
  obtain ⟨-, t, hState⟩ := hx net conn
  rw [hState]
  exact hs

theorem emits_sendBatch (messages : List FrontendMessage) : Emits (sendBatch messages) := by
  refine emits_bind ?_ fun _ => emits_flush
  induction messages with
  | nil => exact fun net conn => ⟨heard_refl net conn, _, rfl⟩
  | cons message messages ih => exact emits_bind (emits_encodeAndWrite message) fun _ => ih

theorem honest_send (message : FrontendMessage) : ClientHonest net p (send message) p :=
  honest_emits (emits_send message)

theorem honest_sendBatch (messages : List FrontendMessage) :
    ClientHonest net p (sendBatch messages) p :=
  honest_emits (emits_sendBatch messages)

theorem honest_setState (state : ConnectionState) :
    ClientHonest net p (Async.modify fun conn => conn.setState state) p :=
  honest_modify (fun _ => rfl) fun _ hs => hs

theorem honest_transition (state : ConnectionState) : ClientHonest net p (transition state) p := by
  rw [transition_eq]
  refine honest_bind honest_get fun conn => ?_
  split
  · exact honest_setState state
  · exact honest_fail _

end Parts

/-- What follows a loop that has left at an `ErrorResponse`: it never returns, and fails with
the error of the server just where the rest of the reply can be read. -/
def Drains {σ α : Type} (view : σ → Connection) (net : Network) (body : ErrorBody)
    (x : Async Network σ PgError α) : Prop :=
  ∀ s, (∃ skipped, (view s).transport.inbox = skipped ++ (view (x net s).2).transport.inbox) ∧
    (view (x net s).2).transport =
      { (view s).transport with inbox := (view (x net s).2).transport.inbox } ∧
    (∀ a, (x net s).1 ≠ .ok a) ∧
    (Surfaces body (x net s).1 ↔ Resynchronises body (view s).transport.inbox)

section Drains

variable {L α : Type} {net : Network}

/-- The two ways of skipping to the end of a reply with an error. -/
structure Skipper (drain : ErrorBody → Client PgServerError) : Prop where
  fails : ∀ net conn body e, PgServerError.fromBody body = .error e →
    drain body net conn = (.err (.io e), conn)
  skips : ∀ net conn body serverErr, PgServerError.fromBody body = .ok serverErr →
    (drain body net conn).1 = ((readUntilReady net conn).1.map fun _ => serverErr) ∧
      (drain body net conn).2.transport = (readUntilReady net conn).2.transport

theorem skipper_drainServerErrorOnly : Skipper drainServerErrorOnly where
  fails := by
    intro net conn body e hBody
    simp [drainServerErrorOnly, hBody, ioResult]
  skips := by
    intro net conn body serverErr hBody
    simp only [drainServerErrorOnly, hBody, ioResult, bind_apply, lift_ok_apply, andThen_ok]
    rcases readUntilReady net conn with ⟨_ | _ | _, _⟩ <;> exact ⟨rfl, rfl⟩

theorem skipper_drainServerError : Skipper drainServerError where
  fails := by
    intro net conn body e hBody
    simp [drainServerError, hBody, ioResult]
  skips := by
    intro net conn body serverErr hBody
    simp only [drainServerError, hBody, ioResult, bind_apply, lift_ok_apply, andThen_ok]
    rcases readUntilReady net conn with ⟨_ | _ | _, _⟩ <;> exact ⟨rfl, rfl⟩

/-- The loop that skips takes messages off the inbox, and its errors are those of reading. -/
theorem readUntilReady_skips (net : Network) (conn : Connection) :
    (∃ skipped, conn.transport.inbox = skipped ++ (readUntilReady net conn).2.transport.inbox) ∧
      (readUntilReady net conn).2.transport =
        { conn.transport with inbox := (readUntilReady net conn).2.transport.inbox } ∧
      ∀ e, (readUntilReady net conn).1 = .err e → e.endsReply = false := by
  have hSkip := drive_readUntilReady conn.transport.inbox conn
  simp only [readUntilReady, withLocal_apply]
  cases hDrive : drive (readStep readUntilReadyBody) ((), conn) conn.transport.inbox with
  | waiting s' =>
      rw [hDrive] at hSkip
      obtain ⟨outcome, hLoop, hEnd⟩ := RowStream.messageLoop_short net hDrive
      have hTransport : s'.2.transport = conn.transport := congrArg Core.transport hSkip.2
      rw [hLoop]
      refine ⟨⟨_, (List.append_nil _).symm⟩, by simp [setInbox, hTransport], ?_⟩
      rintro e rfl
      obtain ⟨hPending, -⟩ | ⟨e', hError, hReply, -⟩ := hEnd
      · cases hPending
      · cases hError
        exact hReply
  | done result s' rest =>
      rw [hDrive] at hSkip
      obtain ⟨taken, entry, _, hInbox, -, -⟩ := drive_done_split _ hDrive
      have hTaken : ∃ skipped, conn.transport.inbox = skipped ++ rest :=
        ⟨taken ++ [entry], by simp [hInbox]⟩
      simp only [messageLoop, hDrive]
      cases result with
      | ok value =>
          obtain ⟨status, -, hCore⟩ := hSkip
          exact ⟨hTaken, congrArg Core.transport hCore, by simp⟩
      | error e =>
          have hTransport : s'.2.transport = conn.transport := congrArg Core.transport hSkip.2.1
          refine ⟨hTaken, by simp [setInbox, hTransport], ?_⟩
          intro e' hError
          cases hError
          exact hSkip.2.2

theorem drains_skipper {drain : ErrorBody → Client PgServerError} (hDrain : Skipper drain)
    (body : ErrorBody) :
    Drains (fun conn => conn) net body
      (drain body >>= fun serverErr => (Async.fail (.server serverErr) : Client α)) := by
  intro conn
  rw [bind_apply]
  cases hBody : PgServerError.fromBody body with
  | error e =>
      have hFields : ¬ body.fields.isOk := by
        intro hOk
        simp only [PgServerError.fromBody] at hBody
        cases hResult : body.fields with
        | ok fields => simp [hResult, Except.map] at hBody
        | error e => simp [hResult, Except.isOk, Except.toBool] at hOk
      rw [hDrain.fails net conn body e hBody, andThen_err]
      refine ⟨⟨[], rfl⟩, rfl, by simp, ?_⟩
      exact iff_of_false (not_surfaces_of_endsReply body rfl) fun h => hFields h.1
  | ok serverErr =>
      have hFields : body.fields.isOk := by
        simp only [PgServerError.fromBody] at hBody
        cases hResult : body.fields with
        | ok fields => rfl
        | error e => simp [hResult, Except.map] at hBody
      obtain ⟨hOutcome, hTransport⟩ := hDrain.skips net conn body serverErr hBody
      have hOk := readUntilReady_ok_iff net conn
      obtain ⟨hTaken, hKept, hErrors⟩ := readUntilReady_skips net conn
      have hResync : Resynchronises body conn.transport.inbox ↔
        (readUntilReady net conn).1 = .ok () := by
        rw [hOk, Resynchronises, and_iff_right hFields]
      rw [← hTransport] at hTaken hKept
      rw [hResync]
      revert hOutcome hTaken hKept hErrors
      generalize drain body net conn = drained
      obtain ⟨outcome, conn'⟩ := drained
      rcases (readUntilReady net conn).1 with value | e | _
      · intro hOutcome hTaken hKept hErrors
        obtain rfl : outcome = .ok serverErr := hOutcome
        exact ⟨hTaken, hKept, by simp, iff_of_true ⟨serverErr, hBody, rfl⟩ rfl⟩
      · intro hOutcome hTaken hKept hErrors
        obtain rfl : outcome = .err e := hOutcome
        refine ⟨hTaken, hKept, by simp, ?_⟩
        exact iff_of_false (not_surfaces_of_endsReply body (hErrors e rfl)) (by simp)
      · intro hOutcome hTaken hKept hErrors
        obtain rfl : outcome = .pending := hOutcome
        exact ⟨hTaken, hKept, by simp, iff_of_false (not_surfaces_pending body) (by simp)⟩

end Drains

end Connection
end PgClient
