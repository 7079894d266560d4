import PgClient.Deadlock.Copies
import PgClient.Pairing.Session
import PgClient.Protocol.CopyServer

/-!
Sessions in which no one waits for the other: calls whose requests do not leave the server
waiting for COPY data return, whatever has been called before.
-/

namespace PgClient

open Drive Async Transport Connection

section Handles

variable {net : Network} {server : Server net}

/-- What is ahead of a connection while a handle borrows it. -/
def Alive (server : Server net) : Handle → Connection → Prop
  | .none, conn => Recoverable conn
  | .rowStream stream, conn => RowStream.Live (stream, conn)
  | .copyIn _, conn => CopyIn.Live server conn
  | .copyOut _, conn => Awaiting Clear conn
  | .cursor _, _ | .cursorStream _, _ => False

theorem recoverable_dropCopyIn (copy : CopyIn) {conn : Connection} (h : Clear conn) :
    Recoverable (copy.drop net conn) := by
  rw [CopyIn.drop_eq]
  split <;> exact h.recoverable

theorem recoverable_dropCopyOut (copy : CopyOut) {conn : Connection} (h : Clear conn) :
    Recoverable (copy.drop conn) := by
  rw [CopyOut.drop_eq]
  split <;> exact h.recoverable

theorem Alive.drop {handle : Handle} {conn : Connection} (h : Alive server handle conn) :
    Recoverable (handle.drop net conn) := by
  cases handle with
  | none => exact h
  | rowStream stream => exact h.droppable.drop
  | copyIn copy => exact recoverable_dropCopyIn copy h.clear
  | copyOut copy => exact recoverable_dropCopyOut copy h.keeps
  | cursor cursor | cursorStream stream => exact h.elim

/-- A call that has returned, and what it leaves ahead. -/
structure Answers (server : Server net) (outcome : Outcome PgError Unit) (s : Session) : Prop where
  returns : outcome ≠ .pending
  alive : Alive server s.handle s.conn

theorem answers_operation {x : Client Unit} {pre : Connection → Prop} {conn : Connection}
    (h : Completes net pre x (fun _ => Recoverable) (fun _ => Recoverable)) (hPre : pre conn) :
    Answers server (x net conn).1 ⟨.none, (x net conn).2⟩ := by
  refine ⟨h.returns conn hPre, ?_⟩
  have hEnd := h.holds conn hPre
  have hReturns := h.returns conn hPre
  revert hEnd hReturns
  match x net conn with
  | (.ok _, _) => exact fun hEnd _ => hEnd
  | (.err _, _) => exact fun hEnd _ => hEnd
  | (.pending, _) => exact fun _ hReturns => absurd rfl hReturns

theorem answers_afterCall {L α : Type} {wrap : L → Handle} {ended : α → Bool} {x : Owner L α}
    {l : L} {conn : Connection} {outcome : Outcome PgError Unit} {s' : Session}
    {pre : L × Connection → Prop}
    (hCall : Session.afterCall net wrap ended (x net (l, conn)) = (outcome, s'))
    (h : Completes net pre x
      (fun a s => if ended a then Recoverable ((wrap s.1).drop net s.2)
        else Alive server (wrap s.1) s.2)
      (fun _ s => Recoverable ((wrap s.1).drop net s.2))) (hPre : pre (l, conn)) :
    Answers server outcome s' := by
  have hEnd := h.holds (l, conn) hPre
  have hReturns := h.returns (l, conn) hPre
  revert hEnd hReturns hCall
  cases x net (l, conn) with
  | mk result s =>
      cases result with
      | ok a =>
          intro hCall hEnd _
          simp only [Session.afterCall, Prod.mk.injEq] at hCall
          obtain ⟨rfl, rfl⟩ := hCall
          refine ⟨by simp, ?_⟩
          simp only [post_ok] at hEnd
          cases hEnded : ended a with
          | true =>
              rw [hEnded, if_pos rfl] at hEnd
              exact hEnd
          | false =>
              rw [hEnded, if_neg (by simp)] at hEnd
              exact hEnd
      | err e =>
          intro hCall hEnd _
          cases hCall
          exact ⟨by simp, hEnd⟩
      | pending => exact fun _ _ hReturns => absurd rfl hReturns

/-- What a call needs not to leave the server waiting for COPY data; a transfer to the server
may, as long as that is the first thing it says. -/
def Session.Spared (server : Server net) (s : Session) : Call → Prop
  | .operation (.query sql) | .opening (.queryStream sql) =>
      s.conn.state = .idle ∨ s.conn.needsRecovery → SparedBy server [.query sql] s.conn.transport
  | .operation (.batchExecute sql) | .opening (.copyOut sql) =>
      s.conn.state = .idle → SparedBy server [.query sql] s.conn.transport
  | .operation (.queryParams sql params) =>
      s.conn.state = .idle → ParamsSpared server sql params s.conn.transport
  | .operation (.pipeline queued) => s.conn.state = .idle →
      SparedBy server (queued.ops.flatMap PipelineOp.messages ++ [.sync]) s.conn.transport
  | .opening (.copyIn sql) => s.conn.state = .idle → CopyIn.Spared server sql s.conn.transport
  | .handle .copyFinish => SparedBy server [.copyDone] s.conn.transport
  | _ => True

/-- The operations that are given SQL, with what they open, and the recovery of a reply that is
left to be skipped. -/
def Call.Listed : Call → Prop
  | .operation (.query _) | .operation (.batchExecute _) | .operation (.queryParams _ _)
  | .operation (.pipeline _) | .operation .recover => True
  | .opening (.queryStream _) | .opening (.copyIn _) | .opening (.copyOut _) => True
  | .handle _ => True
  | _ => False

/-- A session whose requests and replies are paired, with an end ahead of each reply. -/
structure Session.Healthy (server : Server net) (s : Session) : Prop where
  held : Held server s.handle s.conn
  alive : Alive server s.handle s.conn

theorem completes_map {α : Type} {pre : Connection → Prop} {x : Client α}
    (h : Completes net pre x (fun _ => Recoverable) (fun _ => Recoverable)) :
    Completes net pre (do let _ ← x) (fun _ => Recoverable) (fun _ => Recoverable) :=
  Completes.bind h fun _ => Completes.pure fun _ h => h

theorem answers_listedOperation {op : Operation} {conn : Connection} (hGood : Good server conn)
    (hAlive : Recoverable conn) (hListed : (Call.operation op).Listed)
    (hSpared : Session.Spared server ⟨.none, conn⟩ (.operation op)) :
    Answers server (op.run net conn).1 ⟨.none, (op.run net conn).2⟩ := by
  have hClear : ∀ {α : Type} {pre : Connection → Prop} {x : Client α},
      Completes net pre x (fun _ => Clear) (fun _ => Recoverable) →
      Completes net pre (do let _ ← x) (fun _ => Recoverable) (fun _ => Recoverable) :=
    fun h => completes_map (h.mono (fun _ h => h) (fun _ _ h => h.recoverable) fun _ _ h => h)
  cases op with
  | query sql =>
      exact answers_operation (completes_map (completes_queryAll sql)) ⟨hGood, hAlive, hSpared⟩
  | batchExecute sql =>
      exact answers_operation (hClear (completes_batchExecute sql)) ⟨hGood, hAlive, hSpared⟩
  | queryParams sql params =>
      exact answers_operation (hClear (completes_queryParams sql params)) ⟨hGood, hAlive, hSpared⟩
  | pipeline queued =>
      exact answers_operation (hClear queued.completes_finish) ⟨hGood, hAlive, hSpared⟩
  | recover =>
      have hRecover := @completes_recover net server (fun _ => True) fun _ _ _ => trivial
      exact answers_operation (hRecover.mono (fun _ h => h) (fun _ _ h => h.2.recoverable)
        fun _ _ h => h) ⟨hGood, hAlive, fun _ => trivial⟩
  | execute | queryOne | queryEach | executeParams | queryPrepared | executePrepared
  | prepare | closeStatement | ping => exact hListed.elim

theorem answers_opening {pre : Connection → Prop} {opening : Opening} {conn : Connection}
    {outcome : Outcome PgError Unit} {s' : Session}
    (h : Completes net pre opening.run (Alive server) (fun _ => Recoverable)) (hPre : pre conn)
    (hStep : Session.step net ⟨.none, conn⟩ (.opening opening) = some (outcome, s')) :
    Answers server outcome s' := by
  have hEnd := h.holds conn hPre
  have hReturns := h.returns conn hPre
  simp only [Session.step] at hStep
  revert hEnd hReturns hStep
  cases opening.run net conn with
  | mk result conn' =>
      cases result with
      | ok handle =>
          intro hStep hEnd _
          cases hStep
          exact ⟨by simp, hEnd⟩
      | err e =>
          intro hStep hEnd _
          cases hStep
          exact ⟨by simp, hEnd⟩
      | pending => exact fun _ _ hReturns => absurd rfl hReturns

theorem answers_listedOpening {opening : Opening} {conn : Connection} (hGood : Good server conn)
    (hAlive : Recoverable conn) (hListed : (Call.opening opening).Listed)
    (hSpared : Session.Spared server ⟨.none, conn⟩ (.opening opening))
    {outcome : Outcome PgError Unit} {s' : Session}
    (hStep : Session.step net ⟨.none, conn⟩ (.opening opening) = some (outcome, s')) :
    Answers server outcome s' := by
  cases opening with
  | queryStream sql =>
      have hOpens : Completes net (QueryStartable server sql) (Opening.queryStream sql).run
          (Alive server) (fun _ => Recoverable) :=
        Completes.bind (completes_queryStream sql) fun _ => Completes.pure fun _ h => h
      exact answers_opening hOpens ⟨hGood, hAlive, hSpared⟩ hStep
  | copyIn sql =>
      have hOpens : Completes net (Startable server (CopyIn.Spared server sql))
          (Opening.copyIn sql).run (Alive server) (fun _ => Recoverable) :=
        Completes.bind (CopyIn.completes_copyIn sql) fun _ => Completes.pure fun _ h => h
      exact answers_opening hOpens ⟨hGood, hAlive, hSpared⟩ hStep
  | copyOut sql =>
      have hOpens : Completes net (Startable server (SparedBy server [.query sql]))
          (Opening.copyOut sql).run (Alive server) (fun _ => Recoverable) :=
        Completes.bind (completes_copyOut sql) fun _ => Completes.pure fun _ h => h
      exact answers_opening hOpens ⟨hGood, hAlive, hSpared⟩ hStep
  | queryParamsStream | queryPreparedStream | queryCursor | queryCursorStream =>
      exact hListed.elim

/-- Every call on a handle. -/
theorem answers_onHandle {call : HandleCall} {handle : Handle} {conn : Connection}
    (hAlive : Alive server handle conn)
    (hSpared : Session.Spared server ⟨handle, conn⟩ (.handle call))
    {outcome : Outcome PgError Unit} {s' : Session}
    (hStep : Session.onHandle net conn call handle = some (outcome, s')) :
    Answers server outcome s' := by
  cases handle with
  | cursor cursor | cursorStream stream => exact hAlive.elim
  | none =>
      cases call with
      | release =>
          cases hStep
          exact ⟨nofun, hAlive⟩
      | _ => cases hStep
  | rowStream stream =>
      cases call with
      | release =>
          cases hStep
          exact ⟨nofun, hAlive.drop⟩
      | next =>
          apply answers_afterCall (Option.some.inj hStep) (RowStream.completes_next.mono
            (fun _ h => h) ?_ fun _ _ h => h.drop) hAlive
          intro row s h
          split
          · exact h.droppable.drop
          · exact h
      | consume =>
          apply answers_afterCall (Option.some.inj hStep) (RowStream.completes_consume.mono
            (fun _ h => h) ?_ fun _ _ h => h.drop) hAlive
          intro tag s h
          rw [if_pos rfl]
          exact h.droppable.drop
      | _ => cases hStep
  | copyIn copy =>
      cases call with
      | release =>
          cases hStep
          exact ⟨nofun, hAlive.drop⟩
      | copyWrite data =>
          have hWrite := @CopyIn.completes_write net server data
          have hEnd := hWrite.holds (copy, conn) hAlive
          have hReturns := hWrite.returns (copy, conn) hAlive
          simp only [Session.onHandle, Option.some.injEq] at hStep
          revert hEnd hReturns hStep
          match CopyIn.write data net (copy, conn) with
          | (.ok _, s) =>
              intro hEnd _ hStep
              cases hStep
              exact ⟨nofun, hEnd⟩
          | (.err _, s) =>
              intro hEnd _ hStep
              cases hStep
              exact ⟨nofun, hEnd⟩
          | (.pending, _) => exact fun _ hReturns => absurd rfl hReturns
      | copyFinish =>
          apply answers_afterCall (Option.some.inj hStep) (CopyIn.completes_finish.mono
            (fun _ h => h) ?_ fun _ s h => recoverable_dropCopyIn s.1 h) ⟨hAlive, hSpared⟩
          intro rows s h
          rw [if_pos rfl]
          exact recoverable_dropCopyIn s.1 h
      | copyCancel reason =>
          apply answers_afterCall (Option.some.inj hStep) ((CopyIn.completes_cancel reason).mono
            (fun _ h => h) ?_ fun _ s h => recoverable_dropCopyIn s.1 h) hAlive
          intro _ s h
          rw [if_pos rfl]
          exact recoverable_dropCopyIn s.1 h
      | _ => cases hStep
  | copyOut copy =>
      cases call with
      | release =>
          cases hStep
          exact ⟨nofun, hAlive.drop⟩
      | copyRead =>
          apply answers_afterCall (Option.some.inj hStep) (CopyOut.completes_readNext.mono
            (fun _ h => h) ?_ fun _ s h => recoverable_dropCopyOut s.1 h) hAlive
          intro data s h
          cases data with
          | none => exact recoverable_dropCopyOut s.1 h.2
          | some data => exact ⟨h.1 rfl, h.2⟩
      | _ => cases hStep

/-- One call, which returns and leaves the session as healthy as before. -/
theorem Session.Healthy.step (hNet : net.WellFormed) {s s' : Session} (h : s.Healthy server)
    {call : Call} (hListed : call.Listed) (hSpared : s.Spared server call)
    {outcome : Outcome PgError Unit} (hStep : s.step net call = some (outcome, s')) :
    outcome ≠ .pending ∧ s'.Healthy server := by
  have hAnswers : Answers server outcome s' := by
    obtain ⟨handle, conn⟩ := s
    cases call with
    | operation op =>
        cases handle with
        | none =>
            cases hStep
            exact answers_listedOperation h.held h.alive hListed hSpared
        | _ => cases hStep
    | opening opening =>
        cases handle with
        | none => exact answers_listedOpening h.held h.alive hListed hSpared hStep
        | _ => cases hStep
    | handle call => exact answers_onHandle h.alive hSpared hStep
  have hKept := kept_step h.held (legible_of_wellFormed hNet h.held hStep) hStep hAnswers.returns
  exact ⟨hAnswers.returns, hKept.held, hAnswers.alive⟩

/-- The sessions that these calls can lead to. -/
inductive Session.ReachesSparingly (server : Server net) (start : Session) : Session → Prop where
  | start : Session.ReachesSparingly server start start
  | step {s s' : Session} {call : Call} {outcome : Outcome PgError Unit}
      (hReach : Session.ReachesSparingly server start s) (hListed : call.Listed)
      (hSpared : s.Spared server call) (hStep : s.step net call = some (outcome, s')) :
      Session.ReachesSparingly server start s'

theorem healthy_of_reachesSparingly (hNet : net.WellFormed) {start s : Session}
    (hStart : start.Healthy server) (hReach : Session.ReachesSparingly server start s) :
    s.Healthy server := by
  induction hReach with
  | start => exact hStart
  | step _ hListed hSpared hStep ih => exact (ih.step hNet hListed hSpared hStep).2

theorem healthy_fresh (server : Server net) {conn : Connection} (hFresh : conn.Fresh)
    (hFlag : conn.needsRecovery = false) : Session.Healthy server ⟨.none, conn⟩ := by
  have hSettled : conn.transport.Settled server := by
    rw [hFresh.1]
    exact Transport.settled_new server
  refine ⟨.inr ⟨hSettled.tidy, fun _ => hSettled⟩, fun hSet => ?_⟩
  rw [hFlag] at hSet
  cases hSet

/-- A transfer to a server that waits for its data. -/
def copyingIn : Session where
  handle := .copyIn { format := 0, columnFormats := [], done := false }
  conn := (Connection.copyIn "COPY t FROM STDIN" CopyServer.network .new).2

end Handles
end PgClient
