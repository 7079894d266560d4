import PgClient.Notification.Delivery
import PgClient.Transparency.Operations

/-!
Two runs of a wait for a notification. A notification put in is one more to wait for;
notices and parameters are not.
-/

namespace PgClient

open Drive Async

/-- The asynchronous messages that are not waited for. -/
def Entry.isRemark : Entry → Bool
  | .ok (.noticeResponse _) | .ok (.parameterStatus _) => true
  | _ => false

theorem SameBut.mono {hidden more : Entry → Bool}
    (hMore : ∀ entry, hidden entry → more entry) {entries entries' : List Entry}
    (h : SameBut hidden entries entries') : SameBut more entries entries' := by
  have hFilter : ∀ entries : List Entry,
      (entries.filter fun entry => !hidden entry).filter (fun entry => !more entry) =
        entries.filter fun entry => !more entry := by
    intro entries
    rw [List.filter_filter]
    apply List.filter_congr
    intro entry _
    have hEntry := hMore entry
    revert hEntry
    cases hidden entry <;> cases more entry <;> simp
  rw [SameBut, ← hFilter entries, ← hFilter entries', h]

theorem isAsync_of_isRemark (entry : Entry) (h : entry.isRemark) : entry.isAsync := by
  cases entry with
  | error e => cases h
  | ok message => cases message <;> first | rfl | cases h

theorem Network.Alike.mono {alike weaker : List Entry → List Entry → Prop}
    (hWeaker : ∀ entries entries', alike entries entries' → weaker entries entries')
    {net net' : Network} (h : net.Alike alike net') : net.Alike weaker net' :=
  { h with messages := fun history message => hWeaker _ _ (h.messages history message) }

namespace Connection

theorem Alike.mono {alike weaker : List Entry → List Entry → Prop}
    (hWeaker : ∀ entries entries', alike entries entries' → weaker entries entries')
    {conn conn' : Connection} (h : conn.Alike alike conn') : conn.Alike weaker conn' :=
  ⟨{ h.transport with inbox := hWeaker _ _ h.transport.inbox }, h.rest⟩

theorem blind_notification : Blind Entry.isRemark notificationBody := by
  apply blind_of fun _ => rfl
  · intro value conn message hRemark
    cases message with
    | noticeResponse body =>
        simp only [notificationBody_noticeResponse]
        cases PgServerError.fromBody body <;> exact ⟨_, rfl, rfl, fun _ => rfl⟩
    | parameterStatus body =>
        simp only [notificationBody_parameterStatus]
        split <;> exact ⟨_, rfl, rfl, fun _ => rfl⟩
    | _ => cases hRemark
  · intro value conn a message hOther
    cases message <;> first | rfl | cases hOther

theorem blind_emptyCycle : Blind Entry.isRemark emptyCycleBody := by
  apply blind_of fun _ => rfl
  · intro value conn message hRemark
    cases message with
    | noticeResponse body =>
        simp only [emptyCycleBody]
        cases PgServerError.fromBody body <;> exact ⟨_, rfl, rfl, fun _ => rfl⟩
    | parameterStatus body =>
        simp only [emptyCycleBody]
        split <;> exact ⟨_, rfl, rfl, fun _ => rfl⟩
    | _ => cases hRemark
  · intro value conn a message hOther
    cases message <;> first | rfl | cases hOther

/-- Connections that are alike but for notices and parameters. -/
def Remarked (conn conn' : Connection) : Prop := Alike (SameBut Entry.isRemark) conn conn'

theorem Remarked.alike {conn conn' : Connection} (h : Remarked conn conn') :
    Alike (SameBut Entry.isAsync) conn conn' :=
  Alike.mono (fun _ _ => SameBut.mono isAsync_of_isRemark) h

/-- Two runs of a wait that end alike, whatever notices and parameters come in either. -/
def WaitTransparent (x : Client (Option Notification)) : Prop :=
  ∀ net net' conn conn', Network.Alike (SameBut Entry.isRemark) net net' →
    Alike (SameBut Entry.isRemark) conn conn' → conn.notificationQueue = conn'.notificationQueue →
    (x net conn).1 = (x net' conn').1 ∧
      Alike (SameBut Entry.isAsync) (x net conn).2 (x net' conn').2

theorem respects_blocking :
    Respects (Network.Alike (SameBut Entry.isRemark)) Remarked readNextNotificationBlocking := by
  apply respects_get_bind
  · intro conn conn' h
    rw [Alike.eq_overlay h]
    rfl
  · intro conn
    exact respects_bind (respects_failIf _ _)
      fun _ => respects_withLocal blind_notification.respects

/-- What is taken off the queue is set aside. -/
theorem Alike.pop {alike : List Entry → List Entry → Prop} {conn conn' : Connection}
    (h : conn.Alike alike conn') (queue : List Notification) :
    Alike alike { conn with notificationQueue := queue }
      { conn' with notificationQueue := queue } := by
  refine ⟨h.transport, ?_⟩
  rw [h.eq_overlay]
  rfl

theorem respects_beforeDeadline {α : Type} {env : Network → Network → Prop}
    {state : Connection → Connection → Prop} {x : Client α} (hx : Respects env state x) :
    Respects env state (beforeDeadline x) := by
  intro net net' conn conn' hNet h
  obtain ⟨hOutcome, hLeft⟩ := hx net net' conn conn' hNet h
  simp only [beforeDeadline]
  revert hOutcome hLeft
  rcases x net conn with ⟨outcome, t⟩
  rcases x net' conn' with ⟨outcome', t'⟩
  rintro (rfl : outcome = outcome') hLeft
  cases outcome <;> exact ⟨rfl, hLeft⟩

theorem waitTransparent (timeout : Option Nat) :
    WaitTransparent (waitForNotification timeout) := by
  intro net net' conn conn' hNet h hQueue
  have hWait : ∀ x : Client (Option Notification),
      Respects (Network.Alike (SameBut Entry.isRemark)) Remarked x →
      (x net conn).1 = (x net' conn').1 ∧
        Alike (SameBut Entry.isAsync) (x net conn).2 (x net' conn').2 := by
    intro x hx
    obtain ⟨hOutcome, hLeft⟩ := hx net net' conn conn' hNet h
    exact ⟨hOutcome, hLeft.alike⟩
  simp only [waitForNotification, bind_apply, get_apply, andThen_ok, ← hQueue]
  cases conn.notificationQueue with
  | cons notification queue => exact ⟨rfl, (Remarked.alike h).pop queue⟩
  | nil =>
      cases timeout with
      | none => exact hWait _ (respects_bind respects_blocking fun _ => respects_pure _)
      | some timeout =>
          cases timeout with
          | zero => exact ⟨rfl, Remarked.alike h⟩
          | succ _ => exact hWait _ (respects_beforeDeadline respects_blocking)

theorem respects_requestCycle :
    Respects (Network.Alike (SameBut Entry.isRemark)) Remarked requestCycle := by
  refine respects_bind ?_ fun _ => respects_send (appends_sameBut _) _
  rw [transition_eq]
  apply respects_get_bind
  · intro conn conn' h
    rw [Alike.eq_overlay h]
    rfl
  · intro conn
    split
    · exact respects_modify fun _ _ h =>
        Alike.map (f := fun conn => conn.setState .activeSimpleQuery) h fun _ _ => rfl
    · exact respects_fail _

/-- The empty cycle with nothing in the queue. -/
theorem alike_emptyCycle {net net' : Network} {conn conn' : Connection}
    (hNet : Network.Alike (SameBut Entry.isRemark) net net') (h : Remarked conn conn')
    (hQueue : conn.notificationQueue = []) (hQueue' : conn'.notificationQueue = []) :
    (emptyCycle net conn).1 = (emptyCycle net' conn').1 ∧
      Alike (SameBut Entry.isAsync) (emptyCycle net conn).2 (emptyCycle net' conn').2 := by
  have hLoop : Respects (Network.Alike (SameBut Entry.isRemark)) Remarked
      (Async.withLocal () (messageLoop emptyCycleBody)) :=
    respects_withLocal blind_emptyCycle.respects
  have hSync : Network.Alike (SameBut Entry.isAsync) net net' :=
    hNet.mono fun _ _ => SameBut.mono isAsync_of_isRemark
  obtain ⟨hOutcome, hLeft⟩ := hLoop net net' conn conn' hNet h
  obtain ⟨-, -, hKept, -⟩ := handsOver_loop round_emptyCycle net conn
  obtain ⟨-, -, hKept', -⟩ := handsOver_loop round_emptyCycle net' conn'
  rw [hQueue] at hKept
  rw [hQueue'] at hKept'
  have hAlike := hLeft.alike
  simp only [emptyCycle, bind_apply]
  revert hOutcome hAlike hKept hKept'
  rcases Async.withLocal () (messageLoop emptyCycleBody) net conn with ⟨outcome, t⟩
  rcases Async.withLocal () (messageLoop emptyCycleBody) net' conn' with ⟨outcome', t'⟩
  rintro (rfl : outcome = outcome') (hKept : t.notificationQueue = [])
    (hKept' : t'.notificationQueue = []) hAlike
  cases outcome with
  | ok notification =>
      cases notification with
      | some notification =>
          exact transparent_rules.parts.map (fun _ => some notification)
            transparent_rules.parts.readUntilReady
            net net' t t' hSync hAlike
      | none =>
          simp only [andThen_ok, bind_apply, get_apply, hKept, hKept']
          exact ⟨rfl, hAlike⟩
  | err e => exact ⟨rfl, hAlike⟩
  | pending => exact ⟨rfl, hAlike⟩

theorem fallback_run {net : Network} {conn : Connection} {timeout : Option Nat}
    (hQueue : conn.notificationQueue = []) (hZero : timeout ≠ some 0) :
    waitForNotificationFallback timeout net conn =
      andThen (fun _ => emptyCycle) net (requestCycle net conn) := by
  simp only [waitForNotificationFallback, requestCycle, bind_apply, get_apply, andThen_ok, hQueue,
    if_neg hZero]
  rcases transition .activeSimpleQuery net conn with ⟨_ | _ | _, conn'⟩ <;> rfl

theorem waitTransparent_fallback (timeout : Option Nat) :
    WaitTransparent (waitForNotificationFallback timeout) := by
  intro net net' conn conn' hNet h hQueue'
  cases hQueue : conn.notificationQueue with
  | cons notification queue =>
      rw [hQueue] at hQueue'
      simp only [waitForNotificationFallback, bind_apply, get_apply, andThen_ok, hQueue, ← hQueue']
      exact ⟨rfl, (Remarked.alike h).pop queue⟩
  | nil =>
      rw [hQueue] at hQueue'
      by_cases hZero : timeout = some 0
      · simp only [waitForNotificationFallback, bind_apply, get_apply, andThen_ok, hQueue,
          ← hQueue',
          if_pos hZero]
        exact ⟨rfl, Remarked.alike h⟩
      rw [fallback_run hQueue hZero, fallback_run hQueue'.symm hZero]
      obtain ⟨hOutcome, hLeft⟩ := respects_requestCycle net net' conn conn' hNet h
      obtain ⟨-, hKept⟩ := emits_requestCycle net conn
      obtain ⟨-, hKept'⟩ := emits_requestCycle net' conn'
      rw [hQueue] at hKept
      rw [← hQueue'] at hKept'
      revert hOutcome hLeft hKept hKept'
      rcases requestCycle net conn with ⟨outcome, t⟩
      rcases requestCycle net' conn' with ⟨outcome', t'⟩
      rintro (rfl : outcome = outcome') hLeft hKept hKept'
      cases outcome with
      | ok value => exact alike_emptyCycle hNet hLeft hKept hKept'
      | err e => exact ⟨rfl, hLeft.alike⟩
      | pending => exact ⟨rfl, hLeft.alike⟩

end Connection
end PgClient
