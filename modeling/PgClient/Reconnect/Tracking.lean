import PgClient.Effects.Recovery
import PgClient.Notification
import PgClient.Reconnect.Reconnect
import PgClient.Replies.Accepted

/-!
The operations that track the session state, close or shut down, or wait for a
notification: what they keep of a connection, and what the server reports in them.
-/

namespace PgClient

open Async Connection

section Wrote

variable {net : Network} {conn conn' conn'' : Connection}

namespace Connection

/-- What only writes: flag and status stay, and the wire goes on from where it was. -/
structure Wrote (net : Network) (conn conn' : Connection) : Prop where
  traced : (∃ before, conn.transport.Consumed net before) →
    ∃ before, conn'.transport.Consumed net before
  transactionStatus : conn'.transactionStatus = conn.transactionStatus
  inTransaction : conn'.sessionState.inTransaction = conn.sessionState.inTransaction

theorem wrote_frame (hTransport : conn'.transport = conn.transport)
    (hStatus : conn'.transactionStatus = conn.transactionStatus)
    (hFlag : conn'.sessionState.inTransaction = conn.sessionState.inTransaction) :
    Wrote net conn conn' :=
  ⟨fun h => hTransport ▸ h, hStatus, hFlag⟩

theorem Wrote.trans (h : Wrote net conn conn') (h' : Wrote net conn' conn'') :
    Wrote net conn conn'' :=
  ⟨fun hTraced => h'.traced (h.traced hTraced), h'.transactionStatus.trans h.transactionStatus,
    h'.inTransaction.trans h.inTransaction⟩

theorem wrote_send (net : Network) (message : FrontendMessage) (conn : Connection) :
    Wrote net conn (send message net conn).2 := by
  have hSent : ∀ {before}, conn.transport.Consumed net before →
      (conn.transport.sent net message).Consumed net before := by
    intro before h
    exact (h.flushed).deliver message
  have hSend := send_cases net message conn
  split at hSend
  · rw [hSend]
    exact ⟨fun ⟨before, h⟩ => ⟨before, hSent h⟩, rfl, rfl⟩
  · obtain ⟨e, t, hSend, _, hAfter⟩ := hSend
    rw [hSend]
    refine ⟨?_, rfl, rfl⟩
    intro hTraced
    obtain ⟨before, h⟩ := hTraced
    cases hAfter with
    | nothing => exact ⟨before, h⟩
    | buffered bytes => exact ⟨before, h.ending, h.emitted⟩
    | flushed => exact ⟨before, hSent h⟩

theorem wrote_shutdown (net : Network) (conn : Connection) :
    Wrote net conn (shutdown net conn).2 := by
  simp only [shutdown]
  cases hFlush : conn.transport.flushWrite net with
  | error e => exact ⟨id, rfl, rfl⟩
  | ok t =>
      refine ⟨fun hWrote => ?_, rfl, rfl⟩
      obtain ⟨before, h⟩ := hWrote
      exact ⟨before, h.flushWrite hFlush⟩

theorem attempt_snd {α : Type} (x : Client α) (net : Network) (conn : Connection) :
    (x.attempt net conn).2 = (x net conn).2 := by
  simp only [attempt]
  cases x net conn with
  | mk outcome conn' =>
      cases outcome with
      | ok a => rfl
      | err e => rfl
      | pending => rfl

/-- One part of a computation that only writes, and the rest of it. -/
theorem wrote_bind {α β : Type} {x : Client α} {f : α → Client β}
    (hx : ∀ conn, Wrote net conn (x net conn).2) (hf : ∀ a conn, Wrote net conn (f a net conn).2)
    (conn : Connection) : Wrote net conn ((x >>= f) net conn).2 := by
  have hFirst := hx conn
  rw [bind_apply]
  revert hFirst
  cases x net conn with
  | mk outcome conn' =>
      cases outcome with
      | ok a => exact fun hFirst => hFirst.trans (hf a conn')
      | err e => exact id
      | pending => exact id

theorem wrote_setState (net : Network) (state : ConnectionState) (conn : Connection) :
    Wrote net conn ((Async.modify fun conn => conn.setState state : Client Unit) net conn).2 :=
  wrote_frame rfl rfl rfl

theorem wrote_abort (net : Network) (conn : Connection) : Wrote net conn (abort net conn).2 := by
  refine wrote_bind (wrote_setState net _) (fun _ => ?_) conn
  refine wrote_bind ?_ fun _ conn => wrote_frame rfl rfl rfl
  intro conn
  rw [attempt_snd]
  exact wrote_shutdown net conn

theorem wrote_close (net : Network) (conn : Connection) : Wrote net conn (close net conn).2 := by
  refine wrote_bind (fun _ => wrote_frame rfl rfl rfl) (fun conn₀ conn₁ => ?_) conn
  simp only [doIf]
  split
  · refine wrote_bind (wrote_setState net _) (fun _ => ?_) conn₁
    refine wrote_bind ?_ fun _ => ?_
    · intro conn
      rw [attempt_snd]
      exact wrote_send net _ conn
    refine wrote_bind ?_ fun _ => wrote_setState net _
    intro conn
    rw [attempt_snd]
    exact wrote_shutdown net conn
  · exact wrote_frame rfl rfl rfl

end Connection

end Wrote

/-- `reset` without what it does to the tracked state at the end. -/
def resetStatements : Client Unit := do
  let conn ← .get
  .doIf (conn.transactionStatus = .failed ∨ conn.transactionStatus = .inTransaction) do
    let _ ← execute "ROLLBACK"
  let _ ← execute "DISCARD ALL"

theorem reset_eq : Connection.reset = (resetStatements >>= fun _ =>
    Async.modify fun conn => { conn with sessionState := conn.sessionState.clear }) := by
  simp only [Connection.reset, resetStatements, bind_assoc, pure_bind]

theorem tame_notification : Tame (fun _ => .inside) notificationBody := by
  intro (value, conn) message
  cases message with
  | notificationResponse body => exact ⟨took_self _ _, rfl⟩
  | noticeResponse body =>
      simp only [notificationBody_noticeResponse]
      split
      · exact ⟨.same ⟨rfl, rfl, rfl⟩, rfl⟩
      · exact ⟨took_self _ _, rfl⟩
  | parameterStatus body =>
      simp only [notificationBody_parameterStatus]
      split
      · exact ⟨.same ⟨rfl, rfl, rfl⟩, rfl⟩
      · exact ⟨took_self _ _, rfl⟩
  | readyForQuery status => exact ⟨.ready status rfl rfl rfl rfl, rfl⟩
  | emptyQueryResponse => exact ⟨took_self _ _, rfl⟩
  | _ => exact took_self _ _

section Statements

variable {net : Network} {calm alarmed : Connection → Prop} (hInv : Closed net calm alarmed)

include hInv

theorem tamed_tracked (sql : String) {track : SessionState → SessionState}
    (hTrack : ∀ session, (track session).inTransaction = session.inTransaction) :
    Tamed net calm alarmed (tracked sql track) :=
  tamed_bind (tamed_execute hInv sql) fun _ =>
    tamed_modify hInv fun conn => ⟨rfl, rfl, hTrack conn.sessionState⟩

theorem tamed_resetStatements : Tamed net calm alarmed resetStatements := by
  refine tamed_bind tamed_get fun conn => ?_
  refine tamed_bind (tamed_doIf (tamed_map _ (tamed_execute hInv _))) fun _ => ?_
  exact tamed_map _ (tamed_execute hInv _)

theorem tamed_readNextNotificationBlocking :
    Tamed net calm alarmed readNextNotificationBlocking := by
  refine tamed_bind tamed_get fun conn => ?_
  refine tamed_bind ?_ fun _ => ?_
  · simp only [failIf]
    split
    · exact tamed_fail hInv _
    · exact tamed_pure ()
  · exact Triple.withLocal ((triple_tameLoop hInv tame_notification).pre_mono fun _ h => h.2)

/-- The deadline may pass while the loop waits. -/
theorem calm_of_deadline {conn conn' : Connection} (h : calm conn)
    (hPending : readNextNotificationBlocking net conn = (.pending, conn')) : calm conn' := by
  rw [readNextNotificationBlocking, bind_of_ok (get_apply ..)] at hPending
  simp only [failIf] at hPending
  split at hPending
  · cases hPending
  · rw [bind_of_ok (pure_apply ..), withLocal_apply] at hPending
    cases hLoop : messageLoop notificationBody net ((), conn) with
    | mk outcome s =>
        rw [hLoop] at hPending
        simp only [Prod.mk.injEq] at hPending
        obtain ⟨rfl, rfl⟩ := hPending
        exact calm_of_pending hInv tame_notification h hLoop

theorem tamed_waitForNotification (timeout : Option Nat) :
    Tamed net calm alarmed (waitForNotification timeout) := by
  refine tamed_bind tamed_get fun conn => ?_
  cases conn.notificationQueue with
  | cons notification queue =>
      exact tamed_bind (tamed_modify hInv fun _ => ⟨rfl, rfl, rfl⟩) fun _ => tamed_pure _
  | nil =>
      cases timeout with
      | none => exact tamed_map _ (tamed_readNextNotificationBlocking hInv)
      | some deadline =>
          cases deadline with
          | zero => exact tamed_pure none
          | succ deadline =>
              intro conn h
              have hEnd := tamed_readNextNotificationBlocking hInv conn h
              have hWait := @calm_of_deadline net calm alarmed hInv conn
              simp only [beforeDeadline]
              revert hEnd hWait
              rcases readNextNotificationBlocking net conn with ⟨notification | e | _, conn'⟩
              · exact fun hEnd _ => hEnd
              · exact fun hEnd _ => hEnd
              · exact fun _ hWait => hWait h rfl

end Statements

section Recovers

variable {net : Network} {conn : Connection}

theorem recoversFirst_tracked (sql : String) {track : SessionState → SessionState}
    (hTrack : ∀ session, (track session).inTransaction = session.inTransaction) :
    RecoversFirst net conn (tracked sql track) :=
  (recoversFirst_execute sql).bind fun _ _ hInv _ =>
    tamed_modify hInv fun conn => ⟨rfl, rfl, hTrack conn.sessionState⟩

theorem recoversFirst_resetStatements : RecoversFirst net conn resetStatements := by
  have hDiscard : ∀ calm alarmed, Closed net calm alarmed → Tamed net calm alarmed (do
      let _ ← execute "DISCARD ALL") := fun _ _ hInv => tamed_map _ (tamed_execute hInv _)
  by_cases hOpen : conn.transactionStatus = .failed ∨ conn.transactionStatus = .inTransaction
  · obtain ⟨k, hEq, hTamed⟩ := ((@recoversFirst_execute net conn "ROLLBACK").map fun _ => ()).bind
      fun _ _ hInv (_ : Unit) => hDiscard _ _ hInv
    refine ⟨k, ?_, hTamed⟩
    rw [← hEq, resetStatements, bind_of_ok (get_apply ..), doIf_pos hOpen]
  · obtain ⟨k, hEq, hTamed⟩ := (@recoversFirst_execute net conn "DISCARD ALL").map fun _ => ()
    refine ⟨k, ?_, hTamed⟩
    rw [← hEq, resetStatements, bind_of_ok (get_apply ..), doIf_neg hOpen]
    rfl

end Recovers

section Execute

variable {net : Network} {conn conn' : Connection} {before : List Entry}

/-- A statement on an idle connection that has been answered. -/
theorem reported_of_idle {sql : String} {result : ExecuteResult}
    (hConsumed : conn.transport.Consumed net before) (hIdle : conn.state = .idle)
    (hFlag : conn.needsRecovery = false) (hRun : execute sql net conn = (.ok result, conn')) :
    ∃ read status, conn'.transport.Consumed net
        (before ++ (read ++ [.ok (.readyForQuery status)])) ∧
      conn'.transactionStatus = .ofReady status := by
  obtain ⟨status, rest, hReading, hCore⟩ := execute_ok hIdle hFlag hRun
  obtain ⟨taken, hInbox, _⟩ := readReply_complete hReading
  refine ⟨taken, status, ?_, congrArg Core.transactionStatus hCore⟩
  have hSent : (conn.transport.sent net (.query sql)).Consumed net before :=
    hConsumed.flushed.deliver (.query sql)
  rw [show conn'.transport = { conn.transport.sent net (.query sql) with inbox := rest } from
    congrArg Core.transport hCore]
  exact hSent.takeAll (by simp [hInbox])

/-- A statement that has been answered ends with a `ReadyForQuery`, and the status is the
one that it gives. -/
theorem execute_reported {sql : String} {result : ExecuteResult}
    (hConsumed : conn.transport.Consumed net before)
    (hRun : execute sql net conn = (.ok result, conn')) :
    ∃ read status, conn'.transport.Consumed net
        (before ++ (read ++ [.ok (.readyForQuery status)])) ∧
      conn'.transactionStatus = .ofReady status := by
  obtain ⟨conn₁, hRecover, hIdle, hFlag, hRun⟩ := execute_recovered hRun
  cases hNeeds : conn.needsRecovery with
  | false =>
      rw [recover_unneeded net hNeeds] at hRecover
      cases hRecover
      exact reported_of_idle hConsumed hIdle hFlag hRun
  | true =>
      have hCore := recover_core net hNeeds
      have hSplit := skipReply_split conn.transport.inbox
      rw [hRecover] at hCore
      revert hCore hSplit
      cases skipReply conn.transport.inbox with
      | complete status rest => exact fun hFalse => hFalse.elim
      | broken rest =>
          intro hCore _
          obtain ⟨e, conn₂, hSame, _⟩ := hCore
          cases hSame
      | short =>
          intro hCore _
          obtain ⟨outcome, conn₂, hSame, hFails, _⟩ := hCore
          cases hSame
          exact absurd rfl (hFails _)
      | failed status rest =>
          intro hCore hSplit
          obtain ⟨conn₂, hSame, hCore⟩ := hCore
          cases hSame
          obtain ⟨skipped, hInbox, _⟩ := hSplit
          have hInbox : conn.transport.inbox =
              (skipped ++ [.ok (.readyForQuery status)]) ++ rest := by
            simp [hInbox]
          have hConsumed₁ := hConsumed.takeAll hInbox
          rw [← show conn₁.transport = { conn.transport with inbox := rest } from
            congrArg Core.transport hCore] at hConsumed₁
          obtain ⟨read, status', hRead, hStatus⟩ := reported_of_idle hConsumed₁ hIdle hFlag hRun
          refine ⟨skipped ++ .ok (.readyForQuery status) :: read, status', ?_, hStatus⟩
          simpa using hRead

/-- Resetting ends with a report of the server, and the flag is down then. -/
theorem reset_reported (hConsumed : conn.transport.Consumed net before)
    (hRun : Connection.reset net conn = (.ok (), conn')) :
    ∃ read status, conn'.transport.Consumed net
        (before ++ (read ++ [.ok (.readyForQuery status)])) ∧
      conn'.transactionStatus = .ofReady status ∧ conn'.sessionState.inTransaction = false := by
  rw [reset_eq, bind_apply] at hRun
  cases hStatements : resetStatements net conn with
  | mk outcome conn₁ =>
      rw [hStatements] at hRun
      cases outcome with
      | err e => cases hRun
      | pending => cases hRun
      | ok value =>
          have hEnd : conn₁.transport = conn'.transport ∧
              conn₁.transactionStatus = conn'.transactionStatus ∧
              conn'.sessionState.inTransaction = false := by
            cases hRun
            exact ⟨rfl, rfl, rfl⟩
          have hDiscard : ∀ {conn₀ : Connection} {before : List Entry},
              conn₀.transport.Consumed net before →
              (do let _ ← execute "DISCARD ALL" : Client Unit) net conn₀ = (.ok (), conn₁) →
              ∃ read status, conn'.transport.Consumed net
                  (before ++ (read ++ [.ok (.readyForQuery status)])) ∧
                conn'.transactionStatus = .ofReady status ∧
                conn'.sessionState.inTransaction = false := by
            intro conn₀ before hConsumed₀ hExecute
            rw [bind_apply] at hExecute
            cases hResult : execute "DISCARD ALL" net conn₀ with
            | mk outcome conn₂ =>
                rw [hResult] at hExecute
                cases outcome with
                | err e => cases hExecute
                | pending => cases hExecute
                | ok result =>
                    cases hExecute
                    obtain ⟨read, status, hRead, hStatus⟩ := execute_reported hConsumed₀ hResult
                    exact ⟨read, status, hEnd.1 ▸ hRead, hEnd.2.1 ▸ hStatus, hEnd.2.2⟩
          rw [resetStatements, bind_of_ok (get_apply ..)] at hStatements
          by_cases hOpen : conn.transactionStatus = .failed ∨
            conn.transactionStatus = .inTransaction
          · rw [doIf_pos hOpen, bind_assoc, bind_apply] at hStatements
            cases hRollback : execute "ROLLBACK" net conn with
            | mk outcome conn₀ =>
                rw [hRollback] at hStatements
                cases outcome with
                | err e => cases hStatements
                | pending => cases hStatements
                | ok result =>
                    obtain ⟨first, status₀, hFirst, _⟩ := execute_reported hConsumed hRollback
                    obtain ⟨read, status, hRead, hStatus⟩ := hDiscard hFirst hStatements
                    refine ⟨first ++ .ok (.readyForQuery status₀) :: read, status, ?_, hStatus⟩
                    simpa using hRead
          · rw [doIf_neg hOpen] at hStatements
            exact hDiscard hConsumed hStatements

end Execute

section Reconnect

/-- Since some moment everything is on one side as long as the server reports only that. -/
def Siding (net : Network) (before : List Entry) (inTransaction : Bool) (conn : Connection) :
    Prop :=
  ∃ read, conn.transport.Consumed net (before ++ read) ∧
    (SaysOnly inTransaction read → conn.Tells inTransaction)

theorem closed_siding (net : Network) (before : List Entry) (inTransaction : Bool) :
    Closed net (Siding net before inTransaction) (Siding net before inTransaction) := by
  have hFrame : ∀ conn conn', SameReports conn conn' → Siding net before inTransaction conn →
      Siding net before inTransaction conn' := by
    intro conn conn' hSame h
    obtain ⟨read, hRead, hSays⟩ := h
    refine ⟨read, hSame.transport ▸ hRead, fun hSide => ?_⟩
    exact ⟨hSame.inTransaction.trans (hSays hSide).flag,
      by rw [hSame.transactionStatus, (hSays hSide).status]⟩
  have hTake : ∀ (conn : Connection) entry rest, conn.transport.inbox = entry :: rest →
      Siding net before inTransaction conn → Siding net before inTransaction
        (conn.setInbox rest) := by
    intro conn entry rest hInbox h
    obtain ⟨read, hRead, hSays⟩ := h
    refine ⟨read ++ [entry], ?_, fun hSide => ?_⟩
    · rw [← List.append_assoc]
      exact hRead.take hInbox
    · have hTells := hSays (saysOnly_append.mp hSide).1
      exact ⟨hTells.flag, hTells.status⟩
  have hReady : ∀ (conn conn' : Connection) status rest,
      conn.transport.inbox = .ok (.readyForQuery status) :: rest →
      conn'.transport = { conn.transport with inbox := rest } →
      conn'.transactionStatus = .ofReady status →
      (conn.Tells inTransaction → conn'.transactionStatus.isOpen = inTransaction →
        conn'.sessionState.inTransaction = inTransaction) →
      Siding net before inTransaction conn → Siding net before inTransaction conn' := by
    intro conn conn' status rest hInbox hTransport hStatus hFlag h
    obtain ⟨read, hRead, hSays⟩ := h
    refine ⟨read ++ [.ok (.readyForQuery status)], ?_, fun hSide => ?_⟩
    · rw [← List.append_assoc, hTransport]
      exact hRead.take hInbox
    · obtain ⟨hBefore, hLast⟩ := saysOnly_append.mp hSide
      have hOpen : conn'.transactionStatus.isOpen = inTransaction := by
        rw [hStatus]
        exact eq_of_beq (hLast _ (List.mem_singleton.mpr rfl))
      exact ⟨hFlag (hSays hBefore) hOpen, hOpen⟩
  exact {
    alarm := fun _ h => h
    frame := hFrame
    frameAlarmed := hFrame
    push := fun conn frame ⟨read, hRead, hSays⟩ =>
      ⟨read, ⟨hRead.ending, hRead.emitted⟩, fun hSide => ⟨(hSays hSide).flag, (hSays hSide).status⟩⟩
    flush := fun conn t hFlush ⟨read, hRead, hSays⟩ =>
      ⟨read, hRead.flushWrite hFlush, fun hSide => ⟨(hSays hSide).flag, (hSays hSide).status⟩⟩
    read := fun conn entry rest hInbox _ => hTake conn entry rest hInbox
    readAlarmed := fun conn entry rest hInbox _ => hTake conn entry rest hInbox
    ready := fun conn conn' status rest hInbox hTransport hStatus hFlag =>
      hReady conn conn' status rest hInbox hTransport hStatus
        fun hTells _ => hFlag.trans hTells.flag
    skipped := fun conn conn' status rest hInbox hTransport hStatus hAgreeing =>
      hReady conn conn' status rest hInbox hTransport hStatus fun _ hOpen => hAgreeing.trans hOpen }

variable {net : Network} {inv : Connection → Prop} (hInv : Closed net inv inv)

/-- Statements whose errors are passed over. -/
theorem tamed_rebuildSteps (statements : List (Client Unit))
    (hStatements : ∀ statement ∈ statements, Tamed net inv inv statement) :
    Tamed net inv inv (rebuildSteps statements) := by
  induction statements with
  | nil => exact tamed_pure ()
  | cons statement statements ih =>
      refine tamed_bind ?_ fun _ => ih fun s hMem => hStatements s (List.mem_cons_of_mem _ hMem)
      refine Triple.bind (hStatements statement List.mem_cons_self).attempt fun result => ?_
      cases result with
      | ok value => exact Triple.pure fun _ h => h
      | error e => exact Triple.pure fun _ h => h

include hInv

theorem tamed_rebuildSession (session : SessionState) :
    Tamed net inv inv (rebuildSession session) := by
  refine tamed_bind (tamed_rebuildSteps _ ?_) fun _ => tamed_rebuildSteps _ ?_
  · intro statement hMem
    obtain ⟨channel, _, rfl⟩ := List.mem_map.mp hMem
    exact tamed_tracked hInv _ fun _ => rfl
  · intro statement hMem
    obtain ⟨entry, _, rfl⟩ := List.mem_map.mp hMem
    exact tamed_tracked hInv _ fun _ => rfl

theorem tamed_replacement (rebuild : Bool) (session : SessionState) :
    Tamed net inv inv (replacement rebuild session) := by
  refine tamed_bind ?_ fun _ => tamed_doIf (tamed_rebuildSession hInv session)
  unfold rebuildReconnectInitSql
  cases session.reconnectInitSql with
  | none => exact tamed_pure ()
  | some sql => exact tamed_map _ (tamed_execute hInv sql)

omit hInv in
/-- A replacement of which the server reports no transaction has none. -/
theorem replacement_reported {rebuild : Bool} {session : SessionState} {serverParams : ServerParams}
    {newConn : Connection} (hRun : replacement rebuild session net
      { new with transport := .new, serverParams } = (.ok (), newConn)) :
    ∃ read, newConn.transport.Consumed net read ∧
      (SaysOnly false read → newConn.transactionStatus = .idle) := by
  have hStart : Siding net [] false { new with transport := .new, serverParams } :=
    ⟨[], Transport.consumed_new net, fun _ => ⟨rfl, rfl⟩⟩
  have hEnd := tamed_replacement (closed_siding net [] false) rebuild session _ hStart
  rw [hRun] at hEnd
  obtain ⟨read, hRead, hSays⟩ := hEnd
  refine ⟨read, hRead, fun hSide => ?_⟩
  have hStatus := (hSays hSide).status
  simpa [TransactionStatus.isOpen] using hStatus

end Reconnect

end PgClient
