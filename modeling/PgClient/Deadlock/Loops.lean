import PgClient.Library.Completes
import PgClient.Deadlock.Answers

/-!
Read loops that do not wait: what has to be ahead of a loop for it to leave, and what is
ahead of the next one then.
-/

namespace PgClient

open Drive Async Transport

namespace Connection

/-- No reply is left to be skipped on an open stream. -/
def Clear (conn : Connection) : Prop := conn.needsRecovery → conn.transport.ending ≠ none

/-- A reply that is left to be skipped has an end. -/
def Recoverable (conn : Connection) : Prop := conn.needsRecovery → conn.transport.Promised

theorem Clear.recoverable {conn : Connection} (h : Clear conn) : Recoverable conn :=
  fun hFlag hOpen => absurd hOpen (h hFlag)

/-- A property that is up to the recovery flag and to the transport but for what is unread. -/
def UpToInbox (keep : Connection → Prop) : Prop :=
  ∀ conn conn', conn'.transport = { conn.transport with inbox := conn'.transport.inbox } →
    conn'.needsRecovery = conn.needsRecovery → keep conn → keep conn'

theorem upToInbox_clear : UpToInbox Clear := by
  intro conn conn' hTransport hFlag h hSet
  rw [hTransport]
  exact h (hFlag ▸ hSet)

/-- The end of a reply is ahead, if the stream stays open. -/
structure Awaiting (keep : Connection → Prop) (conn : Connection) : Prop where
  promised : conn.transport.Promised
  keeps : keep conn

section Loops

variable {L β : Type} {net : Network} {progress : β → Progress}
  {final : ConnectionState → ConnectionState} {keep : Connection → Prop}
  {body : L × Connection → BackendMessage → Step (L × Connection) (Except PgError β)}

/-- A loop that must leave on the messages ahead of it. -/
theorem completes_messageLoop (hOrderly : Orderly progress final body) (hKeep : UpToInbox keep)
    (inv : L → List Entry → Prop) (post : Except PgError β → L → List Entry → Prop)
    (hNil : ∀ l, ¬ inv l [])
    (hNext : ∀ s entry entries s', inv s.1 (entry :: entries) →
      readStep body s entry = .next s' → inv s'.1 entries)
    (hExit : ∀ s entry entries result s', inv s.1 (entry :: entries) →
      readStep body s entry = .exit result s' → post result s'.1 entries) :
    Completes net (fun s => s.2.transport.WhileOpen (inv s.1) ∧ keep s.2) (messageLoop body)
      (fun b s => s.2.transport.WhileOpen (post (.ok b) s.1) ∧ keep s.2)
      (fun e s => s.2.transport.WhileOpen (post (.error e) s.1) ∧ keep s.2) := by
  have hKeeps : Keeps net (fun s => keep s.2) (messageLoop body) := by
    apply keeps_orderly keep hOrderly
    · exact fun conn conn' hSame => hKeep conn conn' (by rw [hSame.transport]) hSame.needsRecovery
    · exact fun conn _ conn' hEnded =>
        hKeep conn conn' (by rw [hEnded.transport]) hEnded.needsRecovery
    · exact fun conn inbox => hKeep conn _ rfl rfl
  apply Completes.of_result
  rintro s ⟨hInv, hHolds⟩
  have hHolds := hKeeps s hHolds
  have hEnding := messageLoop_ending hOrderly net s
  suffices h : ∃ result s', messageLoop body net s = (Outcome.ofExcept result, s') ∧
      s'.2.transport.WhileOpen (post result s'.1) by
    obtain ⟨result, s', hLoop, hPost⟩ := h
    rw [hLoop] at hHolds
    refine ⟨result, s', hLoop, ?_⟩
    cases result with
    | ok b => exact ⟨hPost, hHolds⟩
    | error e => exact ⟨hPost, hHolds⟩
  cases hStream : s.2.transport.ending with
  | none =>
      obtain ⟨result, s', rest, hDrive, hPost⟩ := drive_leaves (readStep body)
        (fun s => inv s.1) (fun result s => post result s.1) (fun s => hNil s.1) hNext hExit
        (hInv hStream)
      exact ⟨result, (s'.1, s'.2.setInbox rest), by simp only [messageLoop, hDrive], fun _ => hPost⟩
  | some e =>
      have hClosed : ∀ {result : Except PgError β} {s' : L × Connection},
          messageLoop body net s = (Outcome.ofExcept result, s') →
          s'.2.transport.WhileOpen (post result s'.1) := by
        intro result s' hLoop hOpen
        rw [hLoop, hOpen, hStream] at hEnding
        cases hEnding
      cases hDrive : drive (readStep body) s s.2.transport.inbox with
      | waiting s' =>
          have hLoop : messageLoop body net s =
              (Outcome.ofExcept (.error e.toPgError), (s'.1, s'.2.setInbox [])) := by
            simp only [messageLoop, hDrive, hStream, Outcome.ofExcept_error]
          exact ⟨_, _, hLoop, hClosed hLoop⟩
      | done result s' rest =>
          have hLoop : messageLoop body net s =
              (Outcome.ofExcept result, (s'.1, s'.2.setInbox rest)) := by
            simp only [messageLoop, hDrive]
          exact ⟨_, _, hLoop, hClosed hLoop⟩

/-- A loop that leaves at every `ReadyForQuery` and tells that its reply has ended. -/
def Attentive (progress : β → Progress)
    (body : L × Connection → BackendMessage → Step (L × Connection) (Except PgError β)) : Prop :=
  ∀ s status, ∃ b s', body s (.readyForQuery status) = .exit (.ok b) s' ∧ progress b = .ended

theorem Attentive.read (h : Attentive progress body) (s : L × Connection) {entry : Entry}
    (hReady : entry.isReady) :
    ∃ b s', readStep body s entry = .exit (.ok b) s' ∧ progress b = .ended := by
  match entry, hReady with
  | .ok (.readyForQuery status), _ => exact h s status

theorem hasReady_cons {entry : Entry} {entries : List Entry} (h : HasReady (entry :: entries))
    (hEntry : entry.isReady = false) : HasReady entries := by
  obtain ⟨e, hMem, hReady⟩ := h
  cases List.mem_cons.mp hMem with
  | inl hHead =>
      rw [hHead, hEntry] at hReady
      cases hReady
  | inr hTail => exact ⟨e, hTail, hReady⟩

theorem Attentive.completes (h : Attentive progress body) (hOrderly : Orderly progress final body)
    (hKeep : UpToInbox keep) :
    Completes net (fun s => Awaiting keep s.2) (messageLoop body)
      (fun b s => (progress b ≠ .ended → s.2.transport.Promised) ∧ keep s.2)
      (fun _ s => Awaiting keep s.2) := by
  have hStays : ∀ (s : L × Connection) (entry : Entry),
      (∀ b s', readStep body s entry = .exit (.ok b) s' → progress b ≠ .ended) →
      entry.isReady = false := by
    intro s entry hInside
    by_contra hReady
    obtain ⟨b, s', hExit, hEnded⟩ := h.read s (by simpa using hReady)
    exact hInside b s' hExit hEnded
  have hNext : ∀ (s : L × Connection) (entry : Entry) (entries : List Entry)
      (s' : L × Connection), HasReady (entry :: entries) → readStep body s entry = .next s' →
      HasReady entries := by
    intro s entry entries s' hHas hStep
    apply hasReady_cons hHas
    apply hStays s entry
    intro b s'' hExit
    rw [hStep] at hExit
    cases hExit
  have hExit : ∀ (s : L × Connection) (entry : Entry) (entries : List Entry)
      (result : Except PgError β) (s' : L × Connection), HasReady (entry :: entries) →
      readStep body s entry = .exit result s' →
      (∀ b, result = .ok b → progress b ≠ .ended) → HasReady entries := by
    intro s entry entries result s' hHas hStep hInside
    apply hasReady_cons hHas
    apply hStays s entry
    intro b s'' hExit
    rw [hStep] at hExit
    cases hExit
    exact hInside b rfl
  have hNil : ∀ _ : L, ¬ HasReady [] := by
    intro _ hHas
    obtain ⟨_, hMem, _⟩ := hHas
    cases hMem
  have hLoop := @completes_messageLoop L β net progress final keep body hOrderly hKeep
    (fun _ => HasReady)
    (fun result _ entries => (∀ b, result = .ok b → progress b ≠ .ended) → HasReady entries)
    hNil hNext hExit
  apply hLoop.mono
  · exact fun s hs => ⟨hs.promised, hs.keeps⟩
  · rintro b s ⟨hPost, hHolds⟩
    refine ⟨fun hInside hOpen => hPost hOpen fun b' hEq => ?_, hHolds⟩
    cases hEq
    exact hInside
  · rintro e s ⟨hPost, hHolds⟩
    exact ⟨fun hOpen => hPost hOpen fun b hEq => (nomatch hEq), hHolds⟩

end Loops

section Draining

variable {net : Network} {keep : Connection → Prop} (hKeep : UpToInbox keep)

include hKeep

theorem completes_readUntilReady :
    Completes net (Awaiting keep) readUntilReady (fun _ => keep) (fun _ => Awaiting keep) := by
  have hAttentive : Attentive (fun _ : Unit => .ended) readUntilReadyBody :=
    fun _ _ => ⟨_, _, rfl, rfl⟩
  apply Completes.withLocal
  exact (hAttentive.completes orderly_readUntilReady hKeep).mono (fun _ h => h.2) (fun _ _ h => h.2)
    fun _ _ h => h

theorem completes_drainServerErrorOnly (body : ErrorBody) :
    Completes net (Awaiting keep) (drainServerErrorOnly body) (fun _ => keep)
      (fun _ => Awaiting keep) := by
  apply Completes.bind (@Completes.lift _ _ _ _ net (Awaiting keep) (fun _ => Awaiting keep)
    (fun _ => Awaiting keep) _ (fun _ _ _ h => h) fun _ _ _ h => h)
  intro serverErr
  apply Completes.bind (completes_readUntilReady hKeep)
  exact fun _ => Completes.pure fun _ h => h

theorem completes_drainServerError (body : ErrorBody) :
    Completes net (Awaiting keep) (drainServerError body) (fun _ => keep)
      (fun _ => Awaiting keep) := by
  apply Completes.bind (@Completes.lift _ _ _ _ net (Awaiting keep) (fun _ => Awaiting keep)
    (fun _ => Awaiting keep) _ (fun _ _ _ h => h) fun _ _ _ h => h)
  intro serverErr
  apply Completes.bind (completes_readUntilReady hKeep)
  intro _
  refine Completes.modify_bind keep (fun conn h => hKeep conn _ rfl rfl h) ?_
  exact Completes.pure fun _ h => h

end Draining

end Connection
end PgClient
