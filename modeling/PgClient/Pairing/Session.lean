import PgClient.Protocol.TableServer
import PgClient.Pairing.Cursors
import PgClient.Pairing.Copies
import PgClient.Pairing.Legible

/-!
Requests and replies stay paired over whole sessions: whatever calls have been made, a
call that returns at the end of a reply has read exactly what the server owed.
-/

namespace PgClient

open Connection Async

section Handles

variable {net : Network} (server : Server net)

/-- What holds of a connection while a handle borrows it. -/
def Held : Handle → Connection → Prop
  | .none, conn | .cursor _, conn => Good server conn
  | .rowStream stream, conn => RowStream.Unfinished server (stream, conn)
  | .cursorStream _, conn => Done server conn
  | .copyIn _, conn | .copyOut _, conn => Mid server conn

/-- A call that has returned: the session goes on, and where the call stands at the end
of a reply, the reply has been read. -/
structure Kept (asks : Bool) (outcome : Outcome PgError Unit) (s : Session) : Prop where
  held : Held server s.handle s.conn
  ok : outcome = .ok () → asks → s.handle.betweenReplies → Done server s.conn
  err : ∀ e, outcome = .err e → e.endsReply → Done server s.conn

variable {server}

theorem kept_ok {asks : Bool} {s : Session} (h : Held server s.handle s.conn)
    (hDone : asks → s.handle.betweenReplies → Done server s.conn) :
    Kept server asks (.ok ()) s :=
  ⟨h, fun _ => hDone, fun _ hErr => nomatch hErr⟩

theorem kept_failed {asks : Bool} {e : PgError} {conn : Connection} (h : Failed server e conn) :
    Kept server asks (.err e) ⟨.none, conn⟩ :=
  ⟨h.good, fun hOk => (nomatch hOk), fun _ hErr => by
    cases hErr
    exact h.reply⟩

theorem kept_done {conn : Connection} (asks : Bool) (h : Done server conn) :
    Kept server asks (.ok ()) ⟨.none, conn⟩ :=
  kept_ok h.good fun _ _ => h

/-- A call on a handle keeps a session if its triple says so of what it leaves behind. -/
theorem kept_afterCall {L α : Type} {asks : Bool} {wrap : L → Handle} {ended : α → Bool}
    {x : Owner L α} {l : L} {conn : Connection} {outcome : Outcome PgError Unit} {s' : Session}
    (hCall : Session.afterCall net wrap ended (x net (l, conn)) = (outcome, s'))
    (hReturned : outcome ≠ .pending)
    (h : Triple net (fun s => s = (l, conn)) x
      (fun a s => if ended a then Done server ((wrap s.1).drop net s.2)
        else Held server (wrap s.1) s.2 ∧ ((wrap s.1).betweenReplies → Done server s.2))
      (fun e s => Failed server e ((wrap s.1).drop net s.2))) : Kept server asks outcome s' := by
  have hEnd := h (l, conn) rfl
  revert hEnd hCall
  match x net (l, conn) with
  | (.ok a, s) =>
      intro hCall hEnd
      simp only [Session.afterCall, Prod.mk.injEq] at hCall
      obtain ⟨rfl, rfl⟩ := hCall
      simp only [post_ok] at hEnd
      cases hEnded : ended a with
      | true =>
          rw [hEnded, if_pos rfl] at hEnd
          exact kept_done asks hEnd
      | false =>
          rw [hEnded, if_neg (by simp)] at hEnd
          exact kept_ok hEnd.1 fun _ => hEnd.2
  | (.err e, s) =>
      intro hCall hEnd
      simp only [Session.afterCall, Prod.mk.injEq] at hCall
      obtain ⟨rfl, rfl⟩ := hCall
      exact kept_failed hEnd
  | (.pending, s) =>
      intro hCall _
      simp only [Session.afterCall, Prod.mk.injEq] at hCall
      exact absurd hCall.1.symm hReturned

/-- An operation on a free connection. -/
theorem kept_post {α : Type} {asks : Bool} {x : Client α} {conn : Connection}
    (hEnd : Post (fun _ => Done server) (Failed server) (x net conn))
    {outcome : Outcome PgError Unit}
    (hOutcome : (x net conn).1.map (fun _ => ()) = outcome) (hReturned : outcome ≠ .pending) :
    Kept server asks outcome ⟨.none, (x net conn).2⟩ := by
  revert hEnd hOutcome
  match x net conn with
  | (.ok a, conn') =>
      rintro hEnd rfl
      exact kept_done asks hEnd
  | (.err e, conn') =>
      rintro hEnd rfl
      exact kept_failed hEnd
  | (.pending, conn') =>
      rintro _ rfl
      exact absurd rfl hReturned

theorem callbackResult_error {callback : List Row → Row → Except String Unit} {seen : List Row}
    {row : Row} {e : PgError} (h : callbackResult callback seen row = .error e) :
    e.endsReply = false := by
  simp only [callbackResult] at h
  cases hCall : callback seen row with
  | ok _ => simp [hCall, Except.mapError] at h
  | error message =>
      simp only [hCall, Except.mapError, Except.error.injEq] at h
      subst h
      rfl

theorem post_operation {conn : Connection} (hGood : Good server conn) {op : Operation}
    (hOp : op ≠ .recover) (hLegible : op.Legible net conn) :
    Post (fun _ => Done server) (Failed server) (op.run net conn) := by
  cases op with
  | query sql => exact sound_map (sound_query sql) _ conn hGood
  | execute sql => exact sound_map (sound_execute sql) _ conn hGood
  | queryOne sql => exact sound_map (sound_queryOne sql) _ conn hGood
  | queryEach sql callback =>
      exact sound_map (sound_queryEach sql fun _ _ _ => callbackResult_error) _ conn hGood
  | batchExecute sql => exact sound_map (sound_batchExecute sql) _ conn hGood
  | queryParams sql params => exact post_map (post_queryParams hGood hLegible) _
  | executeParams sql params => exact post_map (post_map (post_queryParams hGood hLegible) _) _
  | queryPrepared stmt params => exact post_map (post_queryPrepared hGood hLegible) _
  | executePrepared stmt params =>
      exact post_map (post_map (post_queryPrepared hGood hLegible) _) _
  | prepare sql => exact sound_map (sound_prepare sql) _ conn hGood
  | closeStatement stmt => exact sound_closeStatement stmt conn hGood
  | pipeline queued => exact sound_map queued.sound_finish _ conn hGood
  | ping => exact sound_ping conn hGood
  | recover => exact absurd rfl hOp

theorem kept_recover {conn : Connection} (hGood : Good server conn)
    {outcome : Outcome PgError Unit} (hOutcome : (recover net conn).1 = outcome)
    (hReturned : outcome ≠ .pending) :
    Kept server false outcome ⟨.none, (recover net conn).2⟩ := by
  have hEnd : Post (fun _ => Good server) (Failed server) (recover net conn) :=
    triple_recover conn hGood
  revert hEnd hOutcome
  match recover net conn with
  | (.ok (), conn') =>
      rintro rfl hEnd
      exact kept_ok hEnd fun hAsks => nomatch hAsks
  | (.err e, conn') =>
      rintro rfl hEnd
      exact kept_failed hEnd
  | (.pending, conn') =>
      rintro rfl _
      exact absurd rfl hReturned

/-- What an opening leaves: the handle holds what it needs. -/
theorem triple_opening (opening : Opening) :
    Triple net (Good server) opening.run
      (fun handle conn => Held server handle conn ∧ (handle.betweenReplies → Done server conn))
      (Failed server) := by
  cases opening with
  | queryStream sql =>
      exact Triple.bind (opens_queryStream sql) fun _ => Triple.pure fun _ h =>
        ⟨⟨h.1, h.2⟩, fun hBetween => nomatch hBetween⟩
  | queryParamsStream sql params =>
      exact Triple.bind (opens_queryParamsStream sql params) fun _ => Triple.pure fun _ h =>
        ⟨⟨h.1, h.2⟩, fun hBetween => nomatch hBetween⟩
  | queryPreparedStream stmt params =>
      exact Triple.bind (opens_queryPreparedStream stmt params) fun _ => Triple.pure fun _ h =>
        ⟨⟨h.1, h.2⟩, fun hBetween => nomatch hBetween⟩
  | queryCursor sql params fetchSize =>
      exact Triple.bind (sound_queryCursor sql params fetchSize) fun _ => Triple.pure fun _ h =>
        ⟨h.good, fun _ => h⟩
  | queryCursorStream sql params fetchSize =>
      exact Triple.bind (sound_queryCursorStream sql params fetchSize) fun _ =>
        Triple.pure fun _ h => ⟨h, fun _ => h⟩
  | copyIn sql =>
      exact Triple.bind (triple_copyIn sql) fun _ => Triple.pure fun _ h =>
        ⟨h, fun hBetween => nomatch hBetween⟩
  | copyOut sql =>
      exact Triple.bind (triple_copyOut sql) fun _ => Triple.pure fun _ h =>
        ⟨h, fun hBetween => nomatch hBetween⟩

/-- Dropping a handle keeps what later operations rely on. -/
theorem good_drop {handle : Handle} {conn : Connection} (h : Held server handle conn) :
    Good server (handle.drop net conn) := by
  cases handle with
  | none => exact h
  | cursor cursor => exact h
  | rowStream stream => exact RowStream.good_drop stream (Mid.good h.conn)
  | cursorStream stream => exact CursorStream.good_drop stream h.good
  | copyIn copy =>
      simp only [Handle.drop, CopyIn.drop_eq]
      split
      · exact Mid.good h
      · exact good_setClosed (Mid.good h)
  | copyOut copy =>
      simp only [Handle.drop, CopyOut.drop_eq]
      split
      · exact Mid.good h
      · exact good_setClosed (Mid.good h)

theorem done_dropCopyIn {s : CopyIn × Connection} (h : s.1.done ∧ Done server s.2) :
    Done server ((Handle.copyIn s.1).drop net s.2) := by
  rw [Handle.drop, CopyIn.drop_eq, if_pos h.1]
  exact h.2

theorem failed_dropCopyIn {e : PgError} {s : CopyIn × Connection}
    (h : TransferFailed server CopyIn.done e s) :
    Failed server e ((Handle.copyIn s.1).drop net s.2) := by
  simp only [Handle.drop, CopyIn.drop_eq]
  split
  case isTrue => exact h.failed
  case isFalse hDone =>
      exact ⟨good_setClosed h.failed.good, fun hReply => absurd (h.done hReply) hDone⟩

theorem done_dropCopyOut {s : CopyOut × Connection} (h : s.1.done ∧ Done server s.2) :
    Done server ((Handle.copyOut s.1).drop net s.2) := by
  rw [Handle.drop, CopyOut.drop_eq, if_pos h.1]
  exact h.2

theorem failed_dropCopyOut {e : PgError} {s : CopyOut × Connection}
    (h : TransferFailed server CopyOut.done e s) :
    Failed server e ((Handle.copyOut s.1).drop net s.2) := by
  simp only [Handle.drop, CopyOut.drop_eq]
  split
  case isTrue => exact h.failed
  case isFalse hDone =>
      exact ⟨good_setClosed h.failed.good, fun hReply => absurd (h.done hReply) hDone⟩

/-- A call that leaves the handle with its owner. -/
theorem kept_afterBorrow {L α : Type} {asks : Bool} {wrap : L → Handle} {x : Owner L α} {l : L}
    {conn : Connection} {outcome : Outcome PgError Unit} {s' : Session}
    (hCall : Session.afterBorrow wrap (x net (l, conn)) = (outcome, s'))
    (hReturned : outcome ≠ .pending)
    (h : Triple net (fun s => s = (l, conn)) x
      (fun _ s => Held server (wrap s.1) s.2 ∧
        (asks → (wrap s.1).betweenReplies → Done server s.2))
      (fun e s => Held server (wrap s.1) s.2 ∧ (e.endsReply → Done server s.2))) :
    Kept server asks outcome s' := by
  have hEnd := h (l, conn) rfl
  revert hEnd hCall
  match x net (l, conn) with
  | (.ok a, s) =>
      intro hCall hEnd
      cases hCall
      exact kept_ok hEnd.1 hEnd.2
  | (.err e, s) =>
      intro hCall hEnd
      cases hCall
      refine ⟨hEnd.1, fun hOk => (nomatch hOk), ?_⟩
      intro e' hErr
      cases hErr
      exact hEnd.2
  | (.pending, s) =>
      intro hCall _
      cases hCall
      exact absurd rfl hReturned

/-- Every call on a handle. -/
theorem kept_onHandle {call : HandleCall} {handle : Handle} {conn : Connection}
    (hHeld : Held server handle conn) {outcome : Outcome PgError Unit} {s' : Session}
    (hStep : Session.onHandle net conn call handle = some (outcome, s'))
    (hReturned : outcome ≠ .pending) :
    Kept server (Session.asks ⟨handle, conn⟩ (.handle call)) outcome s' := by
  cases call with
  | release =>
      cases handle <;> cases hStep <;>
        exact kept_ok (good_drop hHeld) fun hAsks => nomatch hAsks
  | next =>
      cases handle with
      | rowStream stream =>
          apply kept_afterCall (Option.some.inj hStep) hReturned
          apply RowStream.triple_next.mono
          · intro s hs
            subst hs
            exact hHeld
          · intro row s h
            cases row with
            | some row => exact ⟨h, fun hBetween => nomatch hBetween⟩
            | none => exact RowStream.done_drop s.1 h
          · exact fun _ s h => RowStream.failed_drop s.1 h
      | _ => cases hStep
  | consume =>
      cases handle with
      | rowStream stream =>
          apply kept_afterCall (Option.some.inj hStep) hReturned
          apply RowStream.triple_consume.mono
          · intro s hs
            subst hs
            exact hHeld
          · exact fun _ s h => RowStream.done_drop s.1 h
          · exact fun _ s h => RowStream.failed_drop s.1 h
      | _ => cases hStep
  | fetch =>
      cases handle with
      | cursor cursor =>
          apply kept_afterBorrow (Option.some.inj hStep) hReturned
          apply (Cursor.triple_fetchNext cursor).mono
          · intro s hs
            subst hs
            exact ⟨rfl, hHeld⟩
          · intro _ s h
            refine ⟨h.1, fun hAsks _ => h.2 ?_⟩
            simpa [Session.asks] using hAsks
          · exact fun _ s h => ⟨h.good, h.reply⟩
      | _ => cases hStep
  | close =>
      cases handle with
      | cursor cursor =>
          cases hStep
          refine kept_post (Cursor.sound_close cursor conn hHeld) ?_ hReturned
          cases (cursor.close net conn).1 <;> rfl
      | _ => cases hStep
  | cursorNext fuel =>
      cases handle with
      | cursorStream stream =>
          apply kept_afterCall (Option.some.inj hStep) hReturned
          apply (CursorStream.steady_next fuel).mono
          · intro s hs
            subst hs
            exact hHeld
          · exact fun _ s h => ⟨h, fun _ => h⟩
          · exact fun _ s h => CursorStream.failed_drop s.1 h
      | _ => cases hStep
  | cursorConsume fuel =>
      cases handle with
      | cursorStream stream =>
          apply kept_afterCall (Option.some.inj hStep) hReturned
          apply (CursorStream.steady_consume fuel).mono
          · intro s hs
            subst hs
            exact hHeld
          · exact fun _ s h => CursorStream.done_drop s.1 h
          · exact fun _ s h => CursorStream.failed_drop s.1 h
      | _ => cases hStep
  | copyWrite data =>
      cases handle with
      | copyIn copy =>
          apply kept_afterBorrow (Option.some.inj hStep) hReturned
          apply (CopyIn.triple_write data).mono
          · intro s hs
            subst hs
            exact hHeld
          · exact fun _ s h => ⟨h, fun _ hBetween => nomatch hBetween⟩
          · exact fun _ s h => ⟨h.2, fun hReply => absurd hReply (by simp [h.1])⟩
      | _ => cases hStep
  | copyFinish =>
      cases handle with
      | copyIn copy =>
          apply kept_afterCall (Option.some.inj hStep) hReturned
          apply CopyIn.triple_finish.mono
          · intro s hs
            subst hs
            exact hHeld
          · exact fun _ _ h => done_dropCopyIn h
          · exact fun _ _ h => failed_dropCopyIn h
      | _ => cases hStep
  | copyCancel reason =>
      cases handle with
      | copyIn copy =>
          apply kept_afterCall (Option.some.inj hStep) hReturned
          apply (CopyIn.triple_cancel reason).mono
          · intro s hs
            subst hs
            exact hHeld
          · exact fun _ _ h => done_dropCopyIn h
          · exact fun _ _ h => failed_dropCopyIn h
      | _ => cases hStep
  | copyRead =>
      cases handle with
      | copyOut copy =>
          apply kept_afterCall (Option.some.inj hStep) hReturned
          apply CopyOut.triple_readNext.mono
          · intro s hs
            subst hs
            exact hHeld
          · intro chunk s h
            cases chunk with
            | some data => exact ⟨h, fun hBetween => nomatch hBetween⟩
            | none => exact done_dropCopyOut h
          · exact fun _ _ h => failed_dropCopyOut h
      | _ => cases hStep

/-- Every call that has returned. -/
theorem kept_step {s s' : Session} (hHeld : Held server s.handle s.conn)
    {call : Call} {outcome : Outcome PgError Unit} (hLegible : s.Legible net call)
    (hStep : s.step net call = some (outcome, s')) (hReturned : outcome ≠ .pending) :
      Kept server (s.asks call) outcome s' := by
  obtain ⟨handle, conn⟩ := s
  cases call with
  | operation op =>
      cases handle with
      | none =>
          cases hStep
          by_cases hOp : op = .recover
          · subst hOp
            exact kept_recover hHeld rfl hReturned
          · refine kept_post (post_operation hHeld hOp hLegible) ?_ hReturned
            cases (op.run net conn).1 <;> rfl
      | _ => cases hStep
  | opening opening =>
      cases handle with
      | none =>
          have hEnd := @triple_opening net server opening conn hHeld
          simp only [Session.step] at hStep
          revert hEnd hStep
          match opening.run net conn with
          | (.ok handle, conn') =>
              intro hStep hEnd
              cases hStep
              exact kept_ok hEnd.1 fun _ => hEnd.2
          | (.err e, conn') =>
              intro hStep hEnd
              cases hStep
              exact kept_failed hEnd
          | (.pending, conn') =>
              intro hStep _
              cases hStep
              exact absurd rfl hReturned
      | _ => cases hStep
  | handle call => exact kept_onHandle hHeld hStep hReturned

/-- Every session that calls can lead to. -/
theorem held_of_reachesLegibly {start s : Session} (hStart : Held server start.handle start.conn)
    (hReach : Session.ReachesLegibly net start s) : Held server s.handle s.conn := by
  induction hReach with
  | start => exact hStart
  | step _ hLegible hStep hReturned ih => exact (kept_step ih hLegible hStep hReturned).held

/-- On a network on which everything can be read, so can every reply. -/
theorem legible_of_wellFormed (hNet : net.WellFormed) {s s' : Session}
    (hHeld : Held server s.handle s.conn) {call : Call} {outcome : Outcome PgError Unit}
    (hStep : s.step net call = some (outcome, s')) : s.Legible net call := by
  obtain ⟨handle, conn⟩ := s
  cases call with
  | operation op =>
      cases handle with
      | none =>
          cases op with
          | queryParams | executeParams | queryPrepared | executePrepared =>
              exact fun _ _ => legibleAfter_of_wellFormed hNet hHeld _
          | _ => trivial
      | _ => cases hStep
  | _ => trivial

theorem reachesLegibly_of_wellFormed (hNet : net.WellFormed) {start s : Session}
    (hStart : Held server start.handle start.conn) (hReach : Session.Reaches net start s) :
    Session.ReachesLegibly net start s := by
  induction hReach with
  | start => exact .start
  | step _ hStep hReturned ih =>
      exact .step ih (legible_of_wellFormed hNet (held_of_reachesLegibly hStart ih) hStep) hStep
        hReturned

end Handles

section Pairing

variable {net : Network} (server : Server net)

/-- A connection that has made no request yet. -/
def Connection.Fresh (conn : Connection) : Prop :=
  conn.transport = .new ∧ conn.state = .idle

theorem Connection.Fresh.good {server : Server net} {conn : Connection} (h : conn.Fresh) :
    Good server conn := by
  refine .inr ⟨?_, fun _ => ?_⟩ <;> rw [h.1]
  · exact (Transport.settled_new server).tidy
  · exact Transport.settled_new server

/-- The end of a reply, with nothing of a later one read: what the server has sent up to
its last `ReadyForQuery` is read, the status is the one it gave, what is unread is
asynchronous, and the server owes nothing. -/
structure AtBoundary (conn : Connection) : Prop where
  state : conn.state = .idle
  consumed : ∃ read status, net.emitted conn.transport.history =
    read ++ .ok (.readyForQuery status) :: conn.transport.inbox ∧
    conn.transactionStatus.toU8 = status
  unread : ∀ entry ∈ conn.transport.inbox, ∃ message, entry = .ok message ∧ message.isAsync
  owed : server.mode conn.transport.history = .ready

/-- A call returns `Ok` at the end of its replies, or with an error that ends a reply. -/
def Session.Settles (s : Session) (call : Call) (outcome : Outcome PgError Unit)
    (s' : Session) : Prop :=
  match outcome with
  | .ok () => s.asks call ∧ s'.handle.betweenReplies
  | .err e => e.endsReply
  | .pending => False

variable {server}

theorem Connection.Done.atBoundary (hNet : net.WellFormed) {conn : Connection}
    (h : Done server conn) : AtBoundary server conn := by
  obtain ⟨read, status, hEmitted, hStatus⟩ := h.boundary.status
  have hSettled := h.boundary.settled
  refine ⟨h.idle, ⟨read, status, hEmitted, ?_⟩, ?_, hSettled.mode⟩
  · have hWell := hNet.emitted conn.transport.history (.ok (.readyForQuery status))
      (by simp [hEmitted])
    simp only [Entry.wellFormed, BackendMessage.wellFormed, Option.isSome_iff_exists] at hWell
    obtain ⟨txStatus, hByte⟩ := hWell
    simp only [hStatus, TransactionStatus.ofReady, hByte, Option.getD_some]
    exact TransactionStatus.toU8_of_fromU8 hByte
  · intro entry hMem
    have hAsync := hSettled.inbox entry hMem
    have hWell := hSettled.tracked.wellFormed hNet entry hMem
    cases entry with
    | ok message => exact ⟨message, rfl, hAsync⟩
    | error e => cases hWell

/-- After any calls on a new connection, on a server that follows the protocol with
well-formed messages, a call that settles has read its replies to the end and nothing
more. -/
theorem Session.atBoundary_of_settles (server : Server net) (hNet : net.WellFormed)
    {conn : Connection} (hFresh : conn.Fresh) {s s' : Session}
    (hReach : Reaches net ⟨.none, conn⟩ s) {call : Call} {outcome : Outcome PgError Unit}
    (hStep : s.step net call = some (outcome, s')) (hSettles : s.Settles call outcome s') :
    AtBoundary server s'.conn := by
  have hStart : Held server Handle.none conn := by
    refine .inr ⟨?_, fun _ => ?_⟩ <;> rw [hFresh.1]
    · exact (Transport.settled_new server).tidy
    · exact Transport.settled_new server
  have hHeld := held_of_reachesLegibly hStart (reachesLegibly_of_wellFormed hNet hStart hReach)
  have hReturned : outcome ≠ .pending := by
    intro hPending
    subst hPending
    exact hSettles
  have hKept := kept_step hHeld (legible_of_wellFormed hNet hHeld hStep) hStep hReturned
  apply Connection.Done.atBoundary hNet
  cases outcome with
  | ok value => exact hKept.ok rfl hSettles.1 hSettles.2
  | err e => exact hKept.err e rfl hSettles
  | pending => exact absurd rfl hReturned

/-- A query with parameters, on a server whose statements return a row. -/
theorem Session.atBoundary_queryParams :
    ((Operation.queryParams "SELECT 1" []).run ReplyTable.oneRow.network .new).1 = .ok () ∧
      AtBoundary ReplyTable.oneRow.server
        ((Operation.queryParams "SELECT 1" []).run ReplyTable.oneRow.network .new).2 := by
  have hOk : ((Operation.queryParams "SELECT 1" []).run ReplyTable.oneRow.network .new).1 =
      .ok () := rfl
  have hStep : Session.step ReplyTable.oneRow.network ⟨.none, .new⟩
      (.operation (.queryParams "SELECT 1" [])) = some (.ok (), ⟨.none,
        ((Operation.queryParams "SELECT 1" []).run ReplyTable.oneRow.network .new).2⟩) := by
    rw [← hOk]
    rfl
  exact ⟨hOk, Session.atBoundary_of_settles ReplyTable.oneRow.server ReplyTable.oneRow_wellFormed
    ⟨rfl, rfl⟩ .start hStep ⟨rfl, rfl⟩⟩

end Pairing

end PgClient
