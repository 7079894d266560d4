import PgClient.Deadlock.Sessions
import PgClient.Reconnect.Standing

/-!
Replies that are abandoned: what is left of them on the connection, and what a recovery makes
of it.
-/

namespace PgClient

open Transport Connection

variable {net : Network} {server : Server net} {conn : Connection}

/-- The first end of a reply. -/
theorem Transport.HasReady.first {entries : List Entry} (h : HasReady entries) :
    ∃ pre entry post, entries = pre ++ entry :: post ∧ entry.isReady ∧
      ∀ e ∈ pre, e.isReady = false := by
  induction entries with
  | nil =>
      obtain ⟨entry, hMem, _⟩ := h
      cases hMem
  | cons first entries ih =>
      cases hFirst : first.isReady with
      | true => exact ⟨[], first, entries, rfl, hFirst, by simp⟩
      | false =>
          obtain ⟨entry, hMem, hReady⟩ := h
          have hLater : HasReady entries := by
            refine ⟨entry, (List.mem_cons.mp hMem).resolve_left ?_, hReady⟩
            rintro rfl
            rw [hFirst] at hReady
            cases hReady
          obtain ⟨pre, entry', post, rfl, hReady', hPre⟩ := ih hLater
          exact ⟨first :: pre, entry', post, rfl, hReady', List.forall_mem_cons.mpr ⟨hFirst, hPre⟩⟩

/-- Skipping stops at the first end. -/
theorem skipReply_first {pre rest : List Entry} {status : UInt8}
    (hPre : ∀ entry ∈ pre, entry.wellFormed ∧ entry.isReady = false) :
    skipReply (pre ++ .ok (.readyForQuery status) :: rest) = .failed status rest := by
  induction pre with
  | nil => rfl
  | cons entry pre ih =>
      obtain ⟨⟨hWell, hReady⟩, hLater⟩ := List.forall_mem_cons.mp hPre
      cases entry with
      | error e => cases hWell
      | ok message =>
          cases message with
          | readyForQuery status' => cases hReady
          | _ => exact ih hLater

/-- The end of the one reply that is left, and nothing of another behind it. -/
theorem Connection.Between.pending (h : Between server conn)
    (hPromised : conn.transport.Promised) (hOpen : conn.transport.ending = none) :
    ∃ pre entry post, conn.transport.inbox = pre ++ entry :: post ∧ entry.isReady ∧
      (∀ e ∈ pre, e.isReady = false) ∧ ∀ e ∈ post, e.isAsync := by
  have hEnd : HasReady conn.transport.inbox := hPromised hOpen
  obtain ⟨pre, entry, post, hInbox, hReady, hPre⟩ := hEnd.first
  exact ⟨pre, entry, post, hInbox, hReady, hPre, (h.1.tail pre entry post hInbox hReady).1⟩

theorem countP_ready {pre post : List Entry} {entry : Entry} (hReady : entry.isReady)
    (hPre : ∀ e ∈ pre, e.isReady = false) (hPost : ∀ e ∈ post, e.isAsync) :
    (pre ++ entry :: post).countP Entry.isReady = 1 := by
  have hNone : ∀ {entries : List Entry}, (∀ e ∈ entries, e.isReady = false) →
      entries.countP Entry.isReady = 0 := by
    intro entries h
    rw [List.countP_eq_zero]
    exact fun e hMem => by simp [h e hMem]
  rw [List.countP_append, List.countP_cons, hNone hPre,
    hNone fun e hMem => not_ready_of_isAsync (hPost e hMem), if_pos hReady]

/-- What is left of the replies on a connection. Without the flag an idle connection has
nothing of a reply left; with it the end of one reply is still to come, and a recovery reads
up to there and no further. -/
structure Abandoned (server : Server net) (conn : Connection) : Prop where
  clean : conn.state = .idle → conn.needsRecovery = false → conn.transport.ending = none →
    conn.transport.Settled server
  owed : conn.needsRecovery → conn.transport.ending = none →
    conn.transport.inbox.countP Entry.isReady = 1 ∧
      ∃ conn', recover net conn = (.ok (), conn') ∧ conn'.state = .idle ∧
        conn'.needsRecovery = false ∧ conn'.transport.Settled server
  returns : (recover net conn).1 ≠ .pending

theorem abandoned_of_recoverable (hNet : net.WellFormed) (hGood : Good server conn)
    (hRecoverable : Recoverable conn) : Abandoned server conn where
  clean := by
    intro hIdle _ hOpen
    cases hGood with
    | inl hDead => exact absurd hOpen hDead.ending
    | inr hBetween => exact hBetween.2 hIdle
  owed := by
    intro hFlag hOpen
    cases hGood with
    | inl hDead => exact absurd hOpen hDead.ending
    | inr hBetween =>
        obtain ⟨pre, entry, post, hInbox, hReady, hPre, hPost⟩ :=
          hBetween.pending (hRecoverable hFlag) hOpen
        refine ⟨by rw [hInbox, countP_ready hReady hPre hPost], ?_⟩
        obtain ⟨status, rfl⟩ : ∃ status, entry = .ok (.readyForQuery status) := by
          cases entry with
          | error e => cases hReady
          | ok message => cases message <;> first | exact ⟨_, rfl⟩ | cases hReady
        have hWell : ∀ e ∈ pre, e.wellFormed ∧ e.isReady = false := fun e hMem =>
          ⟨hBetween.1.tracked.wellFormed hNet e (by simp [hInbox, hMem]), hPre e hMem⟩
        have hCore := recover_core net hFlag
        rw [hInbox, skipReply_first hWell] at hCore
        obtain ⟨conn', hRun, hAfter⟩ := hCore
        refine ⟨conn', hRun, congrArg Core.state hAfter, congrArg Core.needsRecovery hAfter, ?_⟩
        rw [show conn'.transport = { conn.transport with inbox := post } from
          congrArg Core.transport hAfter]
        exact hBetween.1.settled hInbox hReady
  returns := by
    have hRecover := @completes_recover net server (fun _ => True) fun _ _ _ => trivial
    exact hRecover.returns conn ⟨hGood, hRecoverable, fun _ => trivial⟩

/-- A stream that is given up before anything of its reply has been read. -/
def givenUp : Connection := (queryStream "SELECT 1" ReplyTable.oneRow.network .new).2

end PgClient
