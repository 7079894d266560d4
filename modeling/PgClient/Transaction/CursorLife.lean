import PgClient.Transaction.CursorEnds

/-!
The life of a cursor that has begun a transaction, from its opening to its end: where the
transaction is over once the cursor has failed to open, has reported the end of its rows or
has been closed.
-/

namespace PgClient

open Async Connection

namespace Opening

def isCursor : Opening → Bool
  | .queryCursor _ _ _ | .queryCursorStream _ _ _ => true
  | _ => false

end Opening

namespace HandleCall

/-- The calls that use a cursor up. -/
def closes : HandleCall → Bool
  | .close | .cursorConsume _ => true
  | _ => false

end HandleCall

namespace Handle

/-- A cursor that has begun its transaction, or none. -/
def Begun : Handle → Prop
  | .none => True
  | .cursor opened => opened.ownsTransaction = true
  | .cursorStream stream => stream.ownsTransaction = true
  | _ => False

end Handle

namespace Session

/-- One call on a cursor. Fetching leaves it with its owner, also when it fails. -/
inductive CursorStep (net : Network) : Session → HandleCall → Session → Prop where
  | fetch {cursor cursor' : Cursor} {conn conn' : Connection} {outcome : Outcome PgError (List Row)}
      (hRun : Cursor.fetchNext net (cursor, conn) = (outcome, (cursor', conn')))
      (hReturned : outcome ≠ .pending) :
      CursorStep net ⟨.cursor cursor, conn⟩ .fetch ⟨.cursor cursor', conn'⟩
  | next {stream stream' : CursorStream} {conn conn' : Connection} {fuel : Nat}
      {outcome : Outcome PgError (Option Row)}
      (hRun : CursorStream.next fuel net (stream, conn) = (outcome, (stream', conn')))
      (hReturned : outcome ≠ .pending) :
      CursorStep net ⟨.cursorStream stream, conn⟩ (.cursorNext fuel)
        ⟨.cursorStream stream', conn'⟩
  | close {cursor : Cursor} {conn conn' : Connection} {outcome : Outcome PgError Unit}
      (hRun : cursor.close net conn = (outcome, conn')) (hReturned : outcome ≠ .pending) :
      CursorStep net ⟨.cursor cursor, conn⟩ .close ⟨.none, conn'⟩
  | consume {stream stream' : CursorStream} {conn conn' : Connection} {fuel : Nat}
      {outcome : Outcome PgError CommandTag}
      (hRun : CursorStream.consume fuel net (stream, conn) = (outcome, (stream', conn')))
      (hReturned : outcome ≠ .pending) :
      CursorStep net ⟨.cursorStream stream, conn⟩ (.cursorConsume fuel)
        ⟨.none, stream'.drop conn'⟩
  | release {handle : Handle} {conn : Connection} :
      CursorStep net ⟨handle, conn⟩ .release ⟨.none, handle.drop net conn⟩

/-- A call that reports that there are no more rows. -/
def Exhausts (net : Network) : Session → HandleCall → Prop
  | ⟨.cursor cursor, conn⟩, .fetch => (Cursor.fetchNext net (cursor, conn)).1 = .ok []
  | ⟨.cursorStream stream, conn⟩, .cursorNext fuel =>
      (CursorStream.next fuel net (stream, conn)).1 = .ok none
  | _, _ => False

/-- The life of a cursor, and whether it has failed to open, has reported the end of its rows
or has been closed. -/
inductive CursorLife (net : Network) (allowed : Session → Call → Prop) (start : Connection) :
    Session → Prop → Prop where
  | opened {opening : Opening} {handle : Handle} {conn : Connection}
      (hCursor : opening.isCursor) (hAllowed : allowed ⟨.none, start⟩ (.opening opening))
      (hRun : opening.run net start = (.ok handle, conn)) :
      CursorLife net allowed start ⟨handle, conn⟩ False
  | notOpened {opening : Opening} {e : PgError} {conn : Connection}
      (hCursor : opening.isCursor) (hAllowed : allowed ⟨.none, start⟩ (.opening opening))
      (hRun : opening.run net start = (.err e, conn)) :
      CursorLife net allowed start ⟨.none, conn⟩ True
  | used {s s' : Session} {ended : Prop} {call : HandleCall}
      (hLife : CursorLife net allowed start s ended) (hAllowed : allowed s (.handle call))
      (hStep : CursorStep net s call s') :
      CursorLife net allowed start s' (ended ∨ call.closes ∨ s.Exhausts net call)

variable {net : Network} (server : TransactionServer net)

/-- A cursor fails to open at its `BEGIN` at most, is fetched from as long as there are rows,
and is closed where the server accepts all that is sent for it. -/
def Careful : Session → Call → Prop
  | s, .opening (.queryCursor sql params _) | s, .opening (.queryCursorStream sql params _) =>
      Spares server s.conn sql params
  | ⟨.cursor cursor, conn⟩, .handle .fetch =>
      cursor.done = false ∧ (conn.state = .idle → Brings net cursor.request conn.transport)
  | ⟨.cursor cursor, conn⟩, .handle .close =>
      conn.state = .idle ∧ ClosesPortal net cursor.portalName conn.transport
  | ⟨.cursorStream stream, conn⟩, .handle (.cursorNext _) =>
      stream.bufferedRows ≠ [] ∨ stream.isDone = false ∧
        (conn.state = .idle → Brings net stream.request conn.transport)
  | ⟨.cursorStream stream, conn⟩, .handle (.cursorConsume _) =>
      CursorStream.Committing net (stream, conn)
  | _, _ => True

/-- What holds while a cursor lives that has begun a transaction, and behind its end. -/
structure Tended (start : Connection) (s : Session) (ended : Prop) : Prop where
  good : Good server.toServer s.conn
  begun : s.handle.Begun
  recovered : s.handle = .none ∨ s.conn.needsRecovery = false
  free : ended → s.handle = .none
  rested : ended → Rested server start s.conn

variable {server} {start : Connection}

theorem tended_opened (hGood : Good server.toServer start)
    (hStatus : start.transactionStatus = .idle) {opening : Opening} (hCursor : opening.isCursor)
    (hCareful : Careful server ⟨.none, start⟩ (.opening opening)) :
    Post (fun handle conn => Tended server start ⟨handle, conn⟩ False)
      (fun _ conn => Tended server start ⟨.none, conn⟩ True) (opening.run net start) := by
  have hOpens : ∀ (sql : String) (params : List ToSql) (fetchSize : Int32)
      (wrap : Cursor → Handle), (∀ cursor, (wrap cursor).Begun ↔ cursor.ownsTransaction = true) →
      Spares server start sql params →
      Post (fun handle conn => Tended server start ⟨handle, conn⟩ False)
        (fun _ conn => Tended server start ⟨.none, conn⟩ True)
        ((do let cursor ← queryCursor sql params fetchSize; return wrap cursor) net start) := by
    intro sql params fetchSize wrap hWrap hSpares
    have hEnd := post_queryCursor hGood hStatus hSpares fetchSize
    have hSound := @sound_queryCursor net server.toServer sql params fetchSize start hGood
    have hFlag := @recovered_of_queryCursor net sql params fetchSize start
    rw [bind_apply]
    revert hEnd hSound hFlag
    match queryCursor sql params fetchSize net start with
    | (.ok cursor, conn) =>
        intro hOwns hDone hFlag
        exact ⟨Done.good hDone, (hWrap cursor).mpr hOwns, .inr (hFlag rfl hOwns), False.elim,
          False.elim⟩
    | (.err e, conn) =>
        intro hRested hFailed _
        exact ⟨Failed.good hFailed, trivial, .inl rfl, fun _ => rfl, fun _ => hRested⟩
    | (.pending, conn) => exact fun _ _ _ => trivial
  cases opening with
  | queryCursor sql params fetchSize => exact hOpens _ _ _ .cursor (fun _ => Iff.rfl) hCareful
  | queryCursorStream sql params fetchSize =>
      have hStream := hOpens sql params fetchSize (fun cursor => .cursorStream cursor.stream)
        (fun _ => Iff.rfl) hCareful
      simp only [Opening.run, queryCursorStream, bind_assoc, pure_bind]
      exact hStream
  | queryStream | queryParamsStream | queryPreparedStream | copyIn | copyOut => cases hCursor

/-- One call on a cursor. -/
theorem Tended.step {s s' : Session} {ended : Prop} (h : Tended server start s ended)
    {call : HandleCall} (hCareful : Careful server s (.handle call))
    (hStep : CursorStep net s call s') :
    Tended server start s' (ended ∨ call.closes ∨ s.Exhausts net call) := by
  cases hStep with
  | @fetch cursor cursor' conn conn' outcome hRun hReturned =>
      have hNotEnded : ¬ ended := fun hEnded => nomatch h.free hEnded
      have hFlag : conn.needsRecovery = false := h.recovered.resolve_left nofun
      have hKept : conn'.needsRecovery = false ∧ cursor'.ownsTransaction = true := by
        have hEnd := @keeps_fetchNext net true false (cursor, conn) ⟨hFlag, h.begun⟩
        rwa [hRun] at hEnd
      have hGood : Good server.toServer conn' := by
        have hEnd := @Cursor.triple_fetchNext net server.toServer cursor (cursor, conn)
          ⟨rfl, h.good⟩
        rw [hRun] at hEnd
        cases outcome with
        | ok rows => exact hEnd.1
        | err e => exact Failed.good hEnd
        | pending => exact absurd rfl hReturned
      have hGoesOn : ¬ (ended ∨ HandleCall.fetch.closes ∨
          Exhausts net ⟨.cursor cursor, conn⟩ .fetch) := by
        rintro (hEnded | hCloses | hExhausts)
        · exact hNotEnded hEnded
        · cases hCloses
        · have hNone : (Cursor.fetchNext net (cursor, conn)).1 = .ok [] := hExhausts
          exact Cursor.fetchNext_brings hCareful.1 hCareful.2 (Prod.ext hNone rfl) rfl
      exact ⟨hGood, hKept.2, .inr hKept.1, fun hEnd => absurd hEnd hGoesOn,
        fun hEnd => absurd hEnd hGoesOn⟩
  | @next stream stream' conn conn' fuel outcome hRun hReturned =>
      have hNotEnded : ¬ ended := fun hEnded => nomatch h.free hEnded
      have hFlag : conn.needsRecovery = false := h.recovered.resolve_left nofun
      have hKept : conn'.needsRecovery = false ∧ stream'.ownsTransaction = true := by
        have hEnd := @CursorStream.keeps_owning_next net true false fuel (stream, conn)
          ⟨hFlag, h.begun⟩
        rwa [hRun] at hEnd
      have hGood : Good server.toServer conn' := by
        have hEnd := @CursorStream.triple_next_good net server fuel (stream, conn) h.good
        rw [hRun] at hEnd
        cases outcome with
        | ok row => exact hEnd
        | err e => exact hEnd
        | pending => exact absurd rfl hReturned
      have hGoesOn : ¬ (ended ∨ (HandleCall.cursorNext fuel).closes ∨
          Exhausts net ⟨.cursorStream stream, conn⟩ (.cursorNext fuel)) := by
        rintro (hEnded | hCloses | hExhausts)
        · exact hNotEnded hEnded
        · cases hCloses
        · exact CursorStream.next_brings hCareful fuel hExhausts
      exact ⟨hGood, hKept.2, .inr hKept.1, fun hEnd => absurd hEnd hGoesOn,
        fun hEnd => absurd hEnd hGoesOn⟩
  | @close cursor conn conn' outcome hRun hReturned =>
      have hFlag : conn.needsRecovery = false := h.recovered.resolve_left nofun
      have hOwns : cursor.ownsTransaction = true := h.begun
      obtain ⟨conn₁, hClose, hCommitted⟩ :=
        closePortal_answered h.good hCareful.1 hFlag hCareful.2
      rw [Cursor.close, hOwns, hClose] at hRun
      cases hRun
      exact ⟨hCommitted.done.good, trivial, .inl rfl, fun _ => rfl, fun _ => hCommitted.rested⟩
  | @consume stream stream' conn conn' fuel outcome hRun hReturned =>
      have hFlag : conn.needsRecovery = false := h.recovered.resolve_left nofun
      have hEnd := @CursorStream.triple_consume_committing net server fuel (stream, conn)
        ⟨hCareful, h.good, hFlag, h.begun⟩
      rw [hRun] at hEnd
      cases outcome with
      | ok tag =>
          have hCommitted : Committed server conn' := hEnd
          have hRested : Rested server start (stream'.drop conn') := by
            rw [CursorStream.drop_eq]
            exact rested_of_none hCommitted.status hCommitted.block
          exact ⟨CursorStream.good_drop stream' hCommitted.done.good, trivial, .inl rfl,
            fun _ => rfl, fun _ => hRested⟩
      | err e => exact hEnd.elim
      | pending => exact absurd rfl hReturned
  | @release handle conn =>
      have hEnds : (ended ∨ HandleCall.release.closes ∨
          Exhausts net ⟨handle, conn⟩ .release) → ended := by
        rintro (hEnded | hCloses | hExhausts)
        · exact hEnded
        · cases hCloses
        · cases handle <;> exact hExhausts.elim
      have hGood : Good server.toServer (handle.drop net conn) := by
        cases handle with
        | none | cursor opened => exact h.good
        | cursorStream stream => exact CursorStream.good_drop stream h.good
        | rowStream | copyIn | copyOut => exact h.begun.elim
      refine ⟨hGood, trivial, .inl rfl, fun _ => rfl, fun hEnd => ?_⟩
      have hNone : handle = .none := h.free (hEnds hEnd)
      subst hNone
      exact h.rested (hEnds hEnd)

theorem tended_of_cursorLife (hGood : Good server.toServer start)
    (hStatus : start.transactionStatus = .idle) {s : Session} {ended : Prop}
    (hLife : CursorLife net (Careful server) start s ended) : Tended server start s ended := by
  induction hLife with
  | opened hCursor hAllowed hRun =>
      have hEnd := tended_opened hGood hStatus hCursor hAllowed
      rwa [hRun] at hEnd
  | notOpened hCursor hAllowed hRun =>
      have hEnd := tended_opened hGood hStatus hCursor hAllowed
      rwa [hRun] at hEnd
  | used _ hAllowed hStep ih => exact ih.step hAllowed hStep

/-- A cursor that is opened outside a transaction, after any calls on a new connection: where
every step is careful, the transaction that it has begun is over once the cursor is. -/
theorem rested_of_cursorLife (server : TransactionServer net) {conn : Connection}
    (hFresh : conn.Fresh) (hBefore : ReachesLegibly net ⟨.none, conn⟩ ⟨.none, start⟩)
    (hStatus : start.transactionStatus = .idle) {s : Session} {ended : Prop}
    (hLife : CursorLife net (Careful server) start s ended) (hEnded : ended) :
    Rested server start s.conn :=
  (tended_of_cursorLife (held_of_reachesLegibly (held_fresh hFresh) hBefore) hStatus hLife).rested
    hEnded

/-- A stream on the small server: as it is opened, and as its first row leaves it. -/
def openedStream : CursorStream where
  portalName := "__pg_portal_0"
  columns := []
  fetchSize := 100
  state := .active
  bufferedRows := []
  ownsTransaction := true

def openedConn : Connection := (queryCursorStream "SELECT 1" [] 100 Ledger.network .new).2

def fetchedStream : CursorStream := { openedStream with state := .done (.ofBody (some "SELECT 1")) }

def fetchedConn : Connection := (CursorStream.next 1 Ledger.network (openedStream, openedConn)).2.2

theorem opened_run : (Opening.queryCursorStream "SELECT 1" [] 100).run Ledger.network .new =
    (.ok (.cursorStream openedStream), openedConn) := rfl

theorem fetched_step :
    CursorStep Ledger.network ⟨.cursorStream openedStream, openedConn⟩ (.cursorNext 1)
      ⟨.cursorStream fetchedStream, fetchedConn⟩ :=
  @CursorStep.next _ _ _ _ _ _ (.ok (some ⟨[], [some [49]]⟩)) rfl (by simp)

theorem rested_of_consume :
    Rested Ledger.server .new
      (CursorStream.consume 1 Ledger.network (fetchedStream, fetchedConn)).2.2 := by
  have hBegin : Spares Ledger.server .new "SELECT 1" [] := by
    have hInner : ∀ message ∈ [.parseComplete, .bindComplete, .rowDescription (.ok [])],
        BackendMessage.isInner message := by
      simp [BackendMessage.isInner, BackendMessage.isAsync, BackendMessage.wellFormed,
        Except.isOk, Except.toBool]
    exact .inr ⟨.new, rfl, rfl, .inr ⟨⟨some "BEGIN", 84, rfl, rfl⟩, [], _, 84, rfl, hInner, rfl,
      rfl⟩⟩
  have hBrings : Brings Ledger.network openedStream.request openedConn.transport :=
    fun _ => ⟨.dataRow (.ok [some [49]]), [.commandComplete (some "SELECT 1"), .readyForQuery 84],
      rfl, .inl ⟨_, rfl⟩⟩
  have hCommits : Commits Ledger.network fetchedConn.transport :=
    ⟨some "COMMIT", 73, rfl, rfl⟩
  have hOpened : CursorLife Ledger.network (Careful Ledger.server) .new
      ⟨.cursorStream openedStream, openedConn⟩ False :=
    @CursorLife.opened _ _ _ (.queryCursorStream "SELECT 1" [] 100) _ _ rfl hBegin opened_run
  have hConsumed : CursorStep Ledger.network ⟨.cursorStream fetchedStream, fetchedConn⟩
      (.cursorConsume 1) _ :=
    @CursorStep.consume _ _ _ _ _ _ (.ok (.ofBody (some "SELECT 1"))) rfl (by simp)
  have hNext : Careful Ledger.server ⟨.cursorStream openedStream, openedConn⟩
      (.handle (.cursorNext 1)) := .inr ⟨rfl, fun _ => hBrings⟩
  have hConsume : Careful Ledger.server ⟨.cursorStream fetchedStream, fetchedConn⟩
      (.handle (.cursorConsume 1)) :=
    @CursorStream.Committing.drained _ _ _ (.ofBody (some "SELECT 1")) rfl rfl hCommits
  exact @rested_of_cursorLife _ .new Ledger.server .new ⟨rfl, rfl⟩ .start rfl _ _
    (.used (.used hOpened hNext fetched_step) hConsume hConsumed) (.inr (.inl rfl))

/-- The loop over the rows of a stream, which is all that its documentation asks for, leaves
its transaction open. -/
theorem not_rested_of_cursorLife :
    ¬ ∀ (net : Network) (server : TransactionServer net) (conn start : Connection), conn.Fresh →
      ReachesLegibly net ⟨.none, conn⟩ ⟨.none, start⟩ → start.transactionStatus = .idle →
      ∀ s ended, CursorLife net (fun _ _ => True) start s ended → ended →
        Rested server start s.conn := by
  intro hAll
  have hOpened : CursorLife Ledger.network (fun _ _ => True) .new
      ⟨.cursorStream openedStream, openedConn⟩ False :=
    @CursorLife.opened _ _ _ (.queryCursorStream "SELECT 1" [] 100) _ _ rfl trivial opened_run
  have hOver : CursorStep Ledger.network ⟨.cursorStream fetchedStream, fetchedConn⟩
      (.cursorNext 1) ⟨.cursorStream fetchedStream, fetchedConn⟩ :=
    @CursorStep.next _ _ _ _ _ _ (.ok none) rfl nofun
  have hRested := hAll Ledger.network Ledger.server .new .new ⟨rfl, rfl⟩ .start rfl _ _
    (.used (.used hOpened trivial fetched_step) trivial hOver) (.inr (.inr rfl))
  exact nomatch hRested.status

end Session
end PgClient
