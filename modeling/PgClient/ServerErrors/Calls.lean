import PgClient.Effects.Recovery
import PgClient.ServerErrors.Operations

/-!
Opening a COPY, which only looks for an error of the server in the first message of a reply,
and every call of a session.
-/

namespace PgClient

open Drive Async

/-- Asynchronous messages and nothing else. -/
def OnlyAsync (before : List Entry) : Prop := ∀ entry ∈ before, entry.isAsync

theorem clean_or_met (read : List Entry) : Clean read ∨ ∃ before body after,
    read = before ++ .ok (.errorResponse body) :: after ∧ Clean before := by
  induction read with
  | nil => exact .inl clean_nil
  | cons entry read ih =>
      cases hError : entry.isError with
      | true =>
          cases entry with
          | error e => cases hError
          | ok message =>
              obtain ⟨body, rfl⟩ := (Connection.isError_iff message).mp hError
              exact .inr ⟨[], body, read, rfl, clean_nil⟩
      | false =>
          obtain hClean | ⟨before, body, after, rfl, hBefore⟩ := ih
          · exact .inl (clean_cons.mpr ⟨hError, hClean⟩)
          · exact .inr ⟨entry :: before, body, after, rfl, clean_cons.mpr ⟨hError, hBefore⟩⟩

theorem Reports.map {α β : Type} {net : Network} {looks : List Entry → Prop} {t t' : Transport}
    {outcome : Outcome PgError α} (h : Reports net looks t t' outcome) (f : α → β) :
    Reports net looks t t' (outcome.map f) := by
  cases outcome with
  | err e => exact h.err
  | pending => exact h.pending
  | ok a =>
      cases h with
      | clean hPassed hClean => exact .clean hPassed hClean
      | met _ hFails => exact absurd rfl (hFails a)

namespace Connection

section CopyStart

variable {α β : Type} {net : Network} {looks : List Entry → Prop} {conn conn' : Connection}
  {response : BackendMessage → Option CopyResponseBody}

/-- Nothing is read, and then comes the rest. -/
theorem reports_after {x : Client α} {f : α → Client β}
    (hPassed : ∃ delivered,
      Transport.Passed net conn.transport (x net conn).2.transport delivered [])
    (hf : ∀ a conn', x net conn = (.ok a, conn') →
      Reports net looks conn'.transport (f a net conn').2.transport (f a net conn').1) :
    Reports net looks conn.transport ((x >>= f) net conn).2.transport ((x >>= f) net conn).1 := by
  obtain ⟨delivered, hPassed⟩ := hPassed
  rw [bind_apply]
  revert hPassed hf
  match x net conn with
  | (.ok a, conn') => exact fun hf hPassed => .after_silent hPassed (hf a conn' rfl)
  | (.err e, conn') => exact fun _ hPassed => .silent _ hPassed
  | (.pending, conn') => exact fun _ hPassed => .silent _ hPassed

theorem reports_map {x : Client α} (f : α → β)
    (h : Reports net looks conn.transport (x net conn).2.transport (x net conn).1) :
    Reports net looks conn.transport ((x >>= fun a => pure (f a)) net conn).2.transport
      ((x >>= fun a => pure (f a)) net conn).1 := by
  rw [bind_pure_comp, map_apply]
  exact h.map f

/-- The loop goes on over asynchronous messages and leaves at any other one. -/
theorem copyStartBody_next_iff (s : Unit × Connection) (message : BackendMessage) :
    (∃ s', copyStartBody response s message = .next s') ↔ message.isAsync := by
  rw [← handleAsyncMessage_isSome s.2]
  simp only [copyStartBody, Connection.asyncFirst]
  cases s.2.handleAsyncMessage message with
  | some conn => simp
  | none =>
      cases response message with
      | some body =>
          dsimp only
          cases ioResult body.columnFormats <;> simp
      | none => cases message <;> simp

theorem copyStart_stops {start : CopyStart}
    (hLoop : Async.withLocal () (messageLoop (copyStartBody response)) net conn =
      (.ok start, conn')) :
    ∃ before entry, conn.transport.inbox = before ++ entry :: conn'.transport.inbox ∧
      OnlyAsync before ∧ entry.isAsync = false := by
  have hTaken : ∀ entries (s s' : Unit × Connection),
      drive (readStep (copyStartBody response)) s entries = .waiting s' → OnlyAsync entries := by
    intro entries
    induction entries with
    | nil => exact fun _ _ _ _ hMem => absurd hMem (by simp)
    | cons entry entries ih =>
        intro s s' hDrive
        cases hStep : readStep (copyStartBody response) s entry with
        | exit result s₁ =>
            rw [drive_cons_exit _ entries hStep] at hDrive
            cases hDrive
        | next s₁ =>
            rw [drive_cons_next _ entries hStep] at hDrive
            cases entry with
            | error e => cases hStep
            | ok message =>
                have hAsync : message.isAsync := (copyStartBody_next_iff s message).mp ⟨s₁, hStep⟩
                intro entry hMem
                obtain rfl | hMem := List.mem_cons.mp hMem
                · exact hAsync
                · exact ih s₁ s' hDrive entry hMem
  simp only [withLocal_apply, messageLoop] at hLoop
  cases hDrive : drive (readStep (copyStartBody response)) ((), conn) conn.transport.inbox with
  | waiting s' =>
      rw [hDrive] at hLoop
      cases hEnding : conn.transport.ending <;> simp [hEnding] at hLoop
  | done result s' rest =>
      rw [hDrive] at hLoop
      obtain ⟨taken, entry, s₁, hInbox, hBefore, hExit⟩ := drive_done_split _ hDrive
      cases result with
      | error e => simp at hLoop
      | ok value =>
          cases hLoop
          refine ⟨taken, entry, hInbox, hTaken _ _ _ hBefore, ?_⟩
          cases entry with
          | error e => rfl
          | ok message =>
              by_contra hAsync
              obtain ⟨s₂, hNext⟩ := (@copyStartBody_next_iff response s₁ message).mpr
                (by simpa [Entry.isAsync] using hAsync)
              rw [show copyStartBody response s₁ message = .exit _ s' from hExit] at hNext
              cases hNext

/-- The reply to a statement that is no COPY is skipped, with the errors in it. -/
theorem reports_unexpected {before : List Entry} {entry : Entry} (violation : String)
    (hInbox : conn.transport.inbox = before ++ entry :: conn'.transport.inbox)
    (hTransport : conn'.transport = { conn.transport with inbox := conn'.transport.inbox })
    (hClean : Clean (before ++ [entry])) (hSync : entry.isAsync = false) {x : Client α}
    (hx : x = do
      readUntilReady
      .modify fun conn => conn.setState .idle
      .fail (.protocol (.protocolViolation violation))) :
    Reports net OnlyAsync conn.transport (x net conn').2.transport (x net conn').1 := by
  obtain ⟨⟨skipped, hSkipped⟩, hKept, hErrors⟩ := readUntilReady_skips net conn'
  have hEnd : (x net conn').2.transport = (readUntilReady net conn').2.transport ∧
      (∀ a, (x net conn').1 ≠ .ok a) ∧ ∀ body, ¬ Surfaces body (x net conn').1 := by
    rw [hx, bind_apply]
    revert hErrors
    match readUntilReady net conn' with
    | (.ok value, conn₁) =>
        intro _
        simp only [andThen_ok, bind_apply, modify_apply, fail_apply]
        exact ⟨rfl, by simp, fun body h => by obtain ⟨_, -, hServer⟩ := h; cases hServer⟩
    | (.err e, conn₁) =>
        intro hErrors
        exact ⟨rfl, by simp, fun body => not_surfaces_of_endsReply body (hErrors e rfl)⟩
    | (.pending, conn₁) =>
        intro _
        exact ⟨rfl, by simp, not_surfaces_pending⟩
  obtain ⟨hSame, hFails, hMute⟩ := hEnd
  have hTaken : conn.transport.inbox = (before ++ [entry]) ++ conn'.transport.inbox :=
    by simp [hInbox]
  have hPassed : Transport.Passed net conn.transport conn'.transport [] (before ++ [entry]) := by
    rw [hTransport]
    exact Transport.passed_take net hTaken
  have hLater : Transport.Passed net conn'.transport (x net conn').2.transport [] skipped := by
    rw [hSame, hKept]
    exact Transport.passed_take net hSkipped
  have hWhole := hPassed.trans hLater
  obtain hRest | ⟨first, body, after, rfl, hFirst⟩ := clean_or_met skipped
  · exact .clean hWhole (clean_append.mpr ⟨hClean, hRest⟩)
  · rw [← List.append_assoc] at hWhole
    have hMeets : MeetsError net conn.transport (x net conn').2.transport
        (before ++ [entry] ++ first) body (after ++ (x net conn').2.transport.inbox) :=
      ⟨_, after, hWhole, clean_append.mpr ⟨hClean, hFirst⟩, rfl⟩
    refine .met hMeets hFails (iff_of_false (hMute body) fun h => ?_)
    have hAsync := h.1 entry (by simp)
    rw [hSync] at hAsync
    cases hAsync

theorem reports_readCopyStart
    (hResponse : ∀ message body, response message = some body →
      message = .copyInResponse body ∨ message = .copyOutResponse body) (violation : String) :
    Reports net OnlyAsync conn.transport (readCopyStart response violation net conn).2.transport
      (readCopyStart response violation net conn).1 := by
  have hLeaves : Leaves (fun conn => conn) net CopyStart.progress
      (Async.withLocal () (messageLoop (copyStartBody response))) :=
    leaves_withLocal (leaves_messageLoop (tame_copyStart hResponse) (orderly_copyStart hResponse))
  have hEnd := hLeaves conn
  rw [readCopyStart, bind_apply]
  cases hLoop : Async.withLocal () (messageLoop (copyStartBody response)) net conn with
  | mk outcome conn' =>
      rw [hLoop] at hEnd
      cases outcome with
      | err e => exact (hEnd _).err
      | pending => exact (hEnd _).pending
      | ok start =>
          obtain ⟨read, hInbox, hTransport, -, hRead⟩ := hEnd
          obtain ⟨before, entry, hSplit, hAsync, hSync⟩ := copyStart_stops hLoop
          obtain rfl : read = before ++ [entry] := by
            apply List.append_cancel_right (?_ : _ ++ conn'.transport.inbox = _)
            rw [← hInbox, hSplit]
            simp
          have hPassed : Transport.Passed net conn.transport conn'.transport []
            (before ++ [entry]) := by
            rw [hTransport]
            exact Transport.passed_take net hInbox
          rw [andThen_ok]
          cases start with
          | response format columnFormats => exact .clean hPassed hRead
          | unexpected => exact reports_unexpected violation hSplit hTransport hRead hSync rfl
          | serverError body =>
              obtain ⟨before', hSame, hClean⟩ := hRead
              obtain ⟨rfl, hEntry⟩ := List.append_inj' hSame rfl
              obtain rfl : entry = .ok (.errorResponse body) := List.singleton_inj.mp hEntry
              obtain ⟨⟨skipped, hSkipped⟩, hKept, hFails, hSurfaces⟩ :=
                @drains_skipper (UInt8 × List UInt16) net _ skipper_drainServerError body conn'
              have hLater := Transport.passed_take net hSkipped
              rw [← hKept] at hLater
              have hWhole := hPassed.trans hLater
              rw [List.append_assoc] at hWhole
              exact .met ⟨_, _, hWhole, hClean, hSkipped⟩ hFails
                (hSurfaces.trans (and_iff_right hAsync).symm)

theorem reports_copyStart (state : ConnectionState)
    (hResponse : ∀ message body, response message = some body →
      message = .copyInResponse body ∨ message = .copyOutResponse body) (violation sql : String) :
    Reports net OnlyAsync conn.transport
      (copyStart state response violation sql net conn).2.transport
      (copyStart state response violation sql net conn).1 := by
  refine reports_after ⟨[], ?_⟩ fun _ conn' hTransition => ?_
  · simp only [transition]
    split <;> exact Transport.passed_refl net _
  refine reports_after ((emits_send _ net conn').1.1) fun _ conn'' hSend => ?_
  exact reports_readCopyStart hResponse violation

end CopyStart

end Connection
end PgClient
