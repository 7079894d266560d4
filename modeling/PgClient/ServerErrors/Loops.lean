import PgClient.ServerErrors.Reported

/-!
Read loops that leave at an error of the server, and what is done then.
-/

namespace PgClient

open Drive Async

namespace Connection

/-- Where a read loop leaves: with the messages that it has taken off the inbox, the last of
which is an error of the server just if its value tells so. -/
structure LeavesAt (progress : Progress) (conn conn' : Connection) (read : List Entry) : Prop where
  inbox : conn.transport.inbox = read ++ conn'.transport.inbox
  transport : conn'.transport = { conn.transport with inbox := conn'.transport.inbox }
  flag : conn'.needsRecovery = conn.needsRecovery
  read : match progress with
    | .failed body => ∃ before, read = before ++ [.ok (.errorResponse body)] ∧ Clean before
    | .inside | .ended => Clean read

/-- A loop whose value tells of the error of the server at which it has left, and which fails
without having met one that it could have told. -/
def Leaves {σ β : Type} (view : σ → Connection) (net : Network) (progress : β → Progress)
    (x : Async Network σ PgError β) : Prop :=
  ∀ s, match x net s with
    | (.ok b, s') => ∃ read, LeavesAt (progress b) (view s) (view s') read
    | (outcome, s') =>
        ∀ looks, Reports net looks (view s).transport (view s').transport outcome

section Loops

variable {L β : Type} {net : Network} {progress : β → Progress}
  {final : ConnectionState → ConnectionState}
  {body : L × Connection → BackendMessage → Step (L × Connection) (Except PgError β)}

theorem isError_iff (message : BackendMessage) :
    message.isError ↔ ∃ body, message = .errorResponse body := by
  cases message with
  | errorResponse body => exact iff_of_true rfl ⟨body, rfl⟩
  | _ => exact iff_of_false (by simp [BackendMessage.isError]) (by simp)

/-- What a tame loop has gone on over. -/
theorem clean_waiting (hTame : Tame progress body) {s s' : L × Connection} {entries : List Entry}
    (hDrive : drive (readStep body) s entries = .waiting s') : Clean entries := by
  induction entries generalizing s with
  | nil => exact clean_nil
  | cons entry entries ih =>
      cases hStep : readStep body s entry with
      | exit result s₁ =>
          rw [drive_cons_exit _ entries hStep] at hDrive
          cases hDrive
      | next s₁ =>
          rw [drive_cons_next _ entries hStep] at hDrive
          refine clean_cons.mpr ⟨?_, ih hDrive⟩
          cases entry with
          | error e => cases hStep
          | ok message =>
              have hTook := hTame s message
              rw [show body s message = .next s₁ from hStep] at hTook
              exact hTook.2

theorem reports_taken {α : Type} {looks : List Entry → Prop} {t : Transport}
    {read rest : List Entry}
    (outcome : Outcome PgError α) (hInbox : t.inbox = read ++ rest) (hClean : Clean read) :
    Reports net looks t { t with inbox := rest } outcome :=
  .clean (Transport.passed_take net hInbox) hClean

/-- A body that fails at an error of the server does so because its fields cannot be read. -/
theorem reports_malformed {looks : List Entry → Prop} {t : Transport} {taken rest : List Entry}
    {message : BackendMessage} {e : PgError} (hInbox : t.inbox = taken ++ .ok message :: rest)
    (hClean : Clean taken)
    (hMalformed : message.wellFormed = false) (hError : e.endsReply = false) :
    Reports net looks t { t with inbox := rest } (.err e : Outcome PgError β) := by
  have hTaken : t.inbox = (taken ++ [.ok message]) ++ rest := by simp [hInbox]
  cases hKind : message.isError with
  | false =>
      exact reports_taken _ hTaken (clean_append.mpr ⟨hClean, clean_cons.mpr ⟨hKind, clean_nil⟩⟩)
  | true =>
      obtain ⟨errorBody, rfl⟩ := (isError_iff message).mp hKind
      have hFields : ¬ errorBody.fields.isOk := by
        rw [show errorBody.fields.isOk = false from hMalformed]
        simp
      have hPassed : Transport.Passed net t { t with inbox := rest } []
          (taken ++ [.ok (.errorResponse errorBody)]) := Transport.passed_take net hTaken
      refine .met ⟨_, [], hPassed, hClean, rfl⟩ (by simp) ?_
      exact iff_of_false (not_surfaces_of_endsReply _ hError) fun h => hFields h.2.1

theorem reports_setInbox {α : Type} {looks : List Entry → Prop} {conn conn' : Connection}
    {rest : List Entry} {outcome : Outcome PgError α} (hSame : conn'.transport = conn.transport)
    (h : Reports net looks conn.transport { conn.transport with inbox := rest } outcome) :
    Reports net looks conn.transport (conn'.setInbox rest).transport outcome := by
  simp only [setInbox, hSame]
  exact h

/-- A loop that is tame and keeps to its reply. -/
theorem leaves_messageLoop (hTame : Tame progress body) (hOrderly : Orderly progress final body) :
    Leaves Prod.snd net progress (messageLoop body) := by
  intro s
  cases hDrive : drive (readStep body) s s.2.transport.inbox with
  | waiting s' =>
      have hSame := hOrderly.sameWire hDrive
      have hRead : ∀ (outcome : Outcome PgError β) looks, Reports net looks s.2.transport
          (s'.2.setInbox []).transport outcome := by
        intro outcome looks
        apply reports_setInbox hSame.transport
        exact reports_taken outcome (List.append_nil _).symm (clean_waiting hTame hDrive)
      simp only [messageLoop, hDrive]
      cases s.2.transport.ending <;> exact hRead _
  | done result s' rest =>
      obtain ⟨taken, entry, s₁, hInbox, hTaken, hExit⟩ := drive_done_split _ hDrive
      have hSame := hOrderly.sameWire hTaken
      have hClean := clean_waiting hTame hTaken
      simp only [messageLoop, hDrive]
      cases entry with
      | error e =>
          cases hExit
          have hAll : s.2.transport.inbox = (taken ++ [.error e]) ++ rest := by simp [hInbox]
          intro looks
          apply reports_setInbox hSame.transport
          exact reports_taken _ hAll (clean_append.mpr ⟨hClean, clean_cons.mpr ⟨rfl, clean_nil⟩⟩)
      | ok message =>
          have hTook := hTame s₁ message
          have hKept := hOrderly s₁ message
          rw [show body s₁ message = .exit result s' from hExit] at hTook hKept
          cases result with
          | error e =>
              obtain ⟨hWire, hMalformed, hError⟩ := hKept
              intro looks
              apply reports_setInbox (hWire.transport.trans hSame.transport)
              exact reports_malformed hInbox hClean hMalformed hError
          | ok b =>
              have hAll : s.2.transport.inbox = (taken ++ [.ok message]) ++ rest := by simp [hInbox]
              have hLeaves : s'.2.transport = s₁.2.transport → s'.2.needsRecovery =
                  s₁.2.needsRecovery → (match progress b with
                    | .failed errorBody => message = .errorResponse errorBody
                    | .inside | .ended => message.isError = false) →
                  ∃ read, LeavesAt (progress b) s.2 (s'.2.setInbox rest) read := by
                intro hTransport hFlag hMessage
                refine ⟨_, hAll, by simp [setInbox, hTransport, hSame.transport],
                  hFlag.trans hSame.needsRecovery, ?_⟩
                revert hMessage
                cases progress b with
                | failed errorBody =>
                    rintro rfl
                    exact ⟨taken, rfl, hClean⟩
                | inside | ended =>
                    exact fun hMessage => clean_append.mpr
                      ⟨hClean, clean_cons.mpr ⟨hMessage, clean_nil⟩⟩
              have hProgress := hTook.2
              revert hLeaves hProgress hKept
              dsimp only [OrderlyStep, Outcome.ofExcept_ok]
              cases progress b with
              | failed errorBody =>
                  exact fun hKept hLeaves _ =>
                    hLeaves hKept.2.transport hKept.2.needsRecovery hKept.1
              | inside =>
                  exact fun hKept hLeaves hMessage =>
                    hLeaves hKept.transport hKept.needsRecovery hMessage
              | ended =>
                  intro hKept hLeaves hMessage
                  obtain ⟨status, -, hEnded⟩ := hKept
                  exact hLeaves hEnded.transport hEnded.needsRecovery hMessage

end Loops

section Then

variable {σ α β L : Type} {view : σ → Connection} {net : Network} {progress : β → Progress}
  {p : Bool → Prop} {q : σ → Prop}

theorem leaves_onSnd {x : Client β} (hx : Leaves (fun conn => conn) net progress x) :
    Leaves Prod.snd net progress (Async.onSnd x : Owner L β) :=
  fun s => by
    have hEnd := hx s.2
    rw [onSnd_apply]
    revert hEnd
    rcases x net s.2 with ⟨_ | _ | _, _⟩ <;> exact id

theorem leaves_withLocal {l : L} {x : Owner L β} (hx : Leaves Prod.snd net progress x) :
    Leaves (fun conn => conn) net progress (Async.withLocal l x) := by
  intro conn
  have hEnd := hx (l, conn)
  rw [withLocal_apply]
  revert hEnd
  rcases x net (l, conn) with ⟨_ | _ | _, _⟩ <;> exact id

theorem leaves_withExtra {M : Type} {m : M} {x : Owner (L × M) β}
    (hx : Leaves Prod.snd net progress x) :
    Leaves Prod.snd net (fun result : β × M => progress result.1) (Async.withExtra m x) := by
  rintro ⟨l, conn⟩
  have hEnd := hx ((l, m), conn)
  simp only [Async.withExtra]
  revert hEnd
  cases x net ((l, m), conn) with
  | mk outcome _ =>
      cases outcome with
      | ok _ => exact id
      | err _ => exact fun hEnd looks => (hEnd looks).err
      | pending => exact fun hEnd looks => (hEnd looks).pending

/-- Looking at the state once the loop has left. -/
theorem leaves_then {γ : Type} {x : Async Network σ PgError β} (hx : Leaves view net progress x)
    (f : β → σ → γ) (progress' : γ → Progress) (hSame : ∀ b s, progress' (f b s) = progress b) :
    Leaves view net progress' (x >>= fun b => Async.get >>= fun s => pure (f b s)) := by
  intro s
  have hEnd := hx s
  rw [bind_apply]
  revert hEnd
  match x net s with
  | (.ok b, s') =>
      intro hEnd
      simpa only [andThen_ok, bind_apply, get_apply, pure_apply, hSame] using hEnd
  | (.err e, s') => exact fun hEnd looks => (hEnd looks).err
  | (.pending, s') => exact fun hEnd looks => (hEnd looks).pending

/-- A loop, and what is done then. -/
theorem honest_loopThen {x : Async Network σ PgError β} (hx : Leaves view net progress x)
    {k : β → Async Network σ PgError α}
    (hCalm : ∀ b, (∀ errorBody, progress b ≠ .failed errorBody) →
      Honest view net (fun s => p (view s).needsRecovery) (k b) q)
    (hError : ∀ b errorBody, progress b = .failed errorBody → Drains view net errorBody (k b)) :
    Honest view net (fun s => p (view s).needsRecovery) (x >>= k) q := by
  intro s hs
  have hEnd := hx s
  rw [bind_apply]
  revert hEnd
  match x net s with
  | (.err e, s') => exact fun hEnd => ⟨(hEnd _).err, by simp⟩
  | (.pending, s') => exact fun hEnd => ⟨(hEnd _).pending, by simp⟩
  | (.ok b, s') =>
      rintro ⟨read, hInbox, hTransport, hFlag, hRead⟩
      rw [andThen_ok]
      have hPassed : Transport.Passed net (view s).transport (view s').transport [] read := by
        rw [hTransport]
        exact Transport.passed_take net hInbox
      have hNext := hCalm b
      have hDrains := hError b
      revert hRead hNext hDrains
      cases progress b with
      | failed errorBody =>
          rintro ⟨before, rfl, hClean⟩ - hDrains
          obtain ⟨⟨skipped, hSkipped⟩, hKept, hFails, hSurfaces⟩ := hDrains errorBody rfl s'
          have hLater : Transport.Passed net (view s').transport (view (k b net s').2).transport []
              skipped := by
            rw [hKept]
            exact Transport.passed_take net hSkipped
          have hWhole := hPassed.trans hLater
          rw [List.append_assoc] at hWhole
          refine ⟨.met ⟨_, _, hWhole, hClean, hSkipped⟩ hFails (hSurfaces.trans (by simp)), ?_⟩
          exact fun a ha => absurd ha (hFails a)
      | inside | ended =>
          intro hClean hNext _
          have hReports : Reports net (fun _ => True) (view s).transport (view s').transport
              (.ok b : Outcome PgError β) := .clean hPassed hClean
          have hKept : p (view s').needsRecovery := hFlag ▸ hs
          obtain ⟨hLater, hPost⟩ := hNext (by simp) s' hKept
          exact ⟨hReports.after_ok hLater, hPost⟩

/-- A loop that reads to the end of a reply, and what is done then. -/
theorem honest_readReply {x : Async Network σ PgError ReplyEnd}
    (hx : Leaves view net ReplyEnd.progress x) {k : ReplyEnd → Async Network σ PgError α}
    (hReady : Honest view net (fun s => p (view s).needsRecovery) (k .ready) q)
    (hError : ∀ errorBody, Drains view net errorBody (k (.serverError errorBody))) :
    Honest view net (fun s => p (view s).needsRecovery) (x >>= k) q := by
  apply honest_loopThen hx
  · intro ending hProgress
    cases ending with
    | ready => exact hReady
    | serverError errorBody => exact absurd rfl (hProgress errorBody)
  · intro ending errorBody hProgress
    cases ending with
    | ready => cases hProgress
    | serverError errorBody =>
        cases hProgress
        exact hError _

/-- The same for a loop that returns the data of a batch with its end. -/
theorem honest_readBatch {M : Type} {x : Async Network σ PgError (ReplyEnd × M)}
    (hx : Leaves view net (fun result => result.1.progress) x)
    {k : ReplyEnd × M → Async Network σ PgError α}
    (hReady : ∀ m, Honest view net (fun s => p (view s).needsRecovery) (k (.ready, m)) q)
    (hError : ∀ errorBody m, Drains view net errorBody (k (.serverError errorBody, m))) :
    Honest view net (fun s => p (view s).needsRecovery) (x >>= k) q := by
  apply honest_loopThen hx
  · intro (ending, m) hProgress
    cases ending with
    | ready => exact hReady m
    | serverError errorBody => exact absurd rfl (hProgress errorBody)
  · intro (ending, m) errorBody hProgress
    cases ending with
    | ready => cases hProgress
    | serverError errorBody =>
        cases hProgress
        exact hError _ m

end Then

section Drained

variable {L α : Type} {net : Network} {drain : ErrorBody → Client PgServerError}

/-- What an owner does at an error of the server, with a change of its own data at the end. -/
theorem drains_owner (hDrain : Skipper drain) (body : ErrorBody)
    {f : L × Connection → L × Connection}
    (hf : ∀ s, (f s).2.transport = s.2.transport) :
    Drains Prod.snd net body (Async.onSnd (drain body) >>=
      fun serverErr => Async.modify f >>= fun _ =>
      (Async.fail (.server serverErr) : Owner L α)) := by
  intro (l, conn)
  have hEnd := @drains_skipper α net drain hDrain body conn
  rw [bind_apply] at hEnd
  rw [bind_apply, onSnd_apply]
  revert hEnd
  match drain body net conn with
  | (.ok serverErr, conn') =>
      intro hEnd
      simpa only [andThen_ok, bind_apply, modify_apply, fail_apply, hf] using hEnd
  | (.err e, conn') => exact id
  | (.pending, conn') => exact id

theorem drains_plain (hDrain : Skipper drain) (body : ErrorBody) :
    Drains Prod.snd net body (Async.onSnd (drain body) >>= fun serverErr =>
      (Async.fail (.server serverErr) : Owner L α)) :=
  drains_owner hDrain body (f := id) fun _ => rfl

end Drained

end Connection
end PgClient
