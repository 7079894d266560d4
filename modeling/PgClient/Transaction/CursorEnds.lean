import PgClient.Replies.Fetches
import PgClient.Transaction.CursorCalls

/-!
Fetching, closing and consuming: which fetches bring rows, and which ends of a cursor are
answered in full and so end its transaction.
-/

namespace PgClient

open Drive Async Connection

namespace Cursor

variable {net : Network} {cursor : Cursor} {conn : Connection}

theorem rows_of_drive {cursor cursor' : Cursor} {rows rows' : List Row} (hRows : rows ≠ [])
    {reply rest : List BackendMessage} {b : ReplyEnd}
    (h : drive (localStep fetchBody) (cursor, rows) reply = .done (.ok b) (cursor', rows') rest) :
    rows' ≠ [] := by
  have hSteps : ∀ (l : Cursor × List Row) message, l.2 ≠ [] →
      LeadsTo (fun l => l.2 ≠ []) (localStep fetchBody l message) := by
    intro (cursor, rows) message hSome
    cases hAsync : message.isAsync with
    | true =>
        rw [localStep, detached_fetch.async (cursor, rows) .new message hAsync]
        exact hSome
    | false =>
        cases message with
        | parameterStatus | noticeResponse | notificationResponse => cases hAsync
        | rowDescription fields => cases fields <;> exact hSome
        | dataRow values =>
            cases values with
            | ok values => exact List.append_ne_nil_of_left_ne_nil hSome _
            | error e => exact hSome
        | _ => exact hSome
  have hDrive := drive_invariant (localStep fetchBody) (fun l => l.2 ≠ []) (fun _ l => l.2 ≠ [])
    (fun l message l' hSome hStep => by
      have hThis := hSteps l message hSome
      rwa [hStep] at hThis)
    (fun l message b l' hSome hStep => by
      have hThis := hSteps l message hSome
      rwa [hStep] at hThis)
    (s := (cursor, rows)) hRows reply
  rw [h] at hDrive
  exact hDrive

/-- A fetch that brings something returns rows, if it returns. -/
theorem fetchNext_brings (hOpen : cursor.done = false)
    (hBrings : conn.state = .idle → Brings net cursor.request conn.transport) {rows : List Row}
    {s' : Cursor × Connection} (h : fetchNext net (cursor, conn) = (.ok rows, s')) :
    rows ≠ [] := by
  have hFetch := h
  rw [fetchNext, bind_of_ok (get_apply ..)] at hFetch
  simp only [hOpen, Bool.false_eq_true, if_false] at hFetch
  obtain ⟨hIdle, hSent, hRead⟩ := roundTrip_ok hFetch
  obtain ⟨first, later, hUnread, hFirst⟩ := hBrings hIdle hSent
  obtain ⟨⟨ending, rows'⟩, s₁, hLoop, hEnd⟩ := ok_of_bind hRead
  cases ending with
  | serverError body =>
      obtain ⟨_, _, -, hFail⟩ := ok_of_bind hEnd
      cases hFail
  | ready =>
      cases hEnd
      obtain ⟨rest, hDrive⟩ := detached_fetch.drive_of_ok hUnread (ok_of_withExtra hLoop)
      obtain ⟨values, rfl⟩ | ⟨body, rfl⟩ := hFirst
      · exact rows_of_drive (List.cons_ne_nil _ _) hDrive
      · cases hDrive

end Cursor

namespace CursorStream

variable {net : Network} {stream : CursorStream} {conn : Connection}

theorem rows_of_drive {stream stream' : CursorStream} {batch batch' : Batch}
    (hRows : batch.rows ≠ []) {reply rest : List BackendMessage} {b : ReplyEnd}
    (h : drive (localStep batchBody) (stream, batch) reply =
      .done (.ok b) (stream', batch') rest) : batch'.rows ≠ [] := by
  have hSteps : ∀ (l : CursorStream × Batch) message, l.2.rows ≠ [] →
      LeadsTo (fun l => l.2.rows ≠ []) (localStep batchBody l message) := by
    intro (stream, batch) message hSome
    cases hAsync : message.isAsync with
    | true =>
        rw [localStep, detached_batch.async (stream, batch) .new message hAsync]
        exact hSome
    | false =>
        cases message with
        | parameterStatus | noticeResponse | notificationResponse => cases hAsync
        | rowDescription fields => cases fields <;> exact hSome
        | dataRow values =>
            cases values with
            | ok values => exact List.append_ne_nil_of_left_ne_nil hSome _
            | error e => exact hSome
        | _ => exact hSome
  have hDrive := drive_invariant (localStep batchBody) (fun l => l.2.rows ≠ [])
    (fun _ l => l.2.rows ≠ [])
    (fun l message l' hSome hStep => by
      have hThis := hSteps l message hSome
      rwa [hStep] at hThis)
    (fun l message b l' hSome hStep => by
      have hThis := hSteps l message hSome
      rwa [hStep] at hThis)
    (s := (stream, batch)) hRows reply
  rw [h] at hDrive
  exact hDrive

theorem fetchBatch_brings (hBrings : conn.state = .idle → Brings net stream.request conn.transport)
    {batch : Batch} {s' : CursorStream × Connection}
    (h : fetchBatch net (stream, conn) = (.ok batch, s')) : batch.rows ≠ [] := by
  have hFetch := h
  rw [fetchBatch, bind_of_ok (get_apply ..)] at hFetch
  obtain ⟨hIdle, hSent, hRead⟩ := roundTrip_ok hFetch
  obtain ⟨first, later, hUnread, hFirst⟩ := hBrings hIdle hSent
  obtain ⟨⟨ending, batch'⟩, s₁, hLoop, hEnd⟩ := ok_of_bind hRead
  cases ending with
  | serverError body =>
      obtain ⟨_, _, -, hLast⟩ := ok_of_bind hEnd
      obtain ⟨_, _, -, hFail⟩ := ok_of_bind hLast
      cases hFail
  | ready =>
      cases hEnd
      obtain ⟨rest, hDrive⟩ := detached_batch.drive_of_ok hUnread (ok_of_withExtra hLoop)
      obtain ⟨values, rfl⟩ | ⟨body, rfl⟩ := hFirst
      · have hStep : localStep batchBody (stream, {}) (.dataRow (.ok values)) =
            .next (stream, { rows := [{ columns := stream.columns, values }] }) := rfl
        rw [drive_cons_next _ later hStep] at hDrive
        exact rows_of_drive (@List.cons_ne_nil Row _ _) hDrive
      · cases hDrive

/-- A call of `next` on a stream that has a row, or whose fetch brings something, does not
report the end. -/
theorem next_brings (h : stream.bufferedRows ≠ [] ∨ stream.isDone = false ∧
      (conn.state = .idle → Brings net stream.request conn.transport)) (fuel : Nat) :
    (next fuel net (stream, conn)).1 ≠ .ok none := by
  cases fuel with
  | zero => exact nofun
  | succ fuel =>
      cases hRows : stream.bufferedRows with
      | cons row rows =>
          rw [next_buffered fuel hRows]
          exact nofun
      | nil =>
          obtain hBuffered | ⟨hOpen, hBrings⟩ := h
          · exact absurd hRows hBuffered
          obtain ⟨hErr, hPending⟩ := @next_unfetched net stream conn fuel hRows hOpen
          cases hFetch : fetchBatch net (stream, conn) with
          | mk outcome s' =>
              cases outcome with
              | ok batch =>
                  have hSome := fetchBatch_brings hBrings hFetch
                  rw [next_fetched fuel hRows hOpen hFetch]
                  simp only [hSome, false_and, if_false, popRow_eq]
                  obtain ⟨row, rows, hCons⟩ := List.exists_cons_of_ne_nil hSome
                  rw [hCons]
                  exact nofun
              | err e =>
                  rw [hErr e s' hFetch]
                  exact nofun
              | pending =>
                  rw [hPending (by rw [hFetch])]
                  exact nofun

end CursorStream

namespace Connection

/-- A commit goes out and is answered. -/
def Commits (net : Network) (t : Transport) : Prop :=
  ∃ tag status, Answers net [.query "COMMIT"] t [.commandComplete tag, .readyForQuery status]

def closeRequest (portalName : String) : List FrontendMessage := [.close .portal portalName, .sync]

/-- Closing a portal goes out and is answered without an error, and so is the commit. -/
def ClosesPortal (net : Network) (portalName : String) (t : Transport) : Prop :=
  (∃ inner status, (∀ message ∈ inner, BackendMessage.isInner message) ∧
    Answers net (closeRequest portalName) t (inner ++ [.readyForQuery status])) ∧
  Commits net (afterReply (exchanged net (closeRequest portalName) t))

section Closing

variable {net : Network} {server : TransactionServer net} {conn : Connection}
  {portalName : String}

theorem detached_complete : Detached completeBody := by
  apply detached_asyncFirst
  intro l conn message
  cases message <;> rfl

theorem drive_complete_inner {inner : List BackendMessage}
    (hInner : ∀ message ∈ inner, message.isInner) (status : UInt8) :
    drive (localStep completeBody) () (inner ++ [.readyForQuery status]) =
      .done (.ok .ready) () [] := by
  have hSteps : ∀ message ∈ inner, ∀ l, ∃ l', localStep completeBody l message = .next l' := by
    intro message hMem l
    have hThis := hInner message hMem
    cases message with
    | readyForQuery | errorResponse | parameterStatus | noticeResponse
    | notificationResponse => cases hThis
    | _ => exact ⟨_, rfl⟩
  obtain ⟨l', hDrive⟩ := drive_takes _ hSteps ()
  exact drive_append_waiting _ hDrive _

/-- What is left of closing a portal once the server has answered: the commit. -/
theorem closePortal_closed (hIdle : conn.state = .idle) {inner : List BackendMessage}
    (hInner : ∀ message ∈ inner, message.isInner) {status : UInt8}
    (h : Answers net (closeRequest portalName) conn.transport (inner ++ [.readyForQuery status])) :
    ∃ conn', conn'.state = .idle ∧ conn'.needsRecovery = conn.needsRecovery ∧
      conn'.transport = afterReply (exchanged net (closeRequest portalName) conn.transport) ∧
      ∀ owns, closePortal portalName owns net conn =
        Async.doIf owns (do let _ ← execute "COMMIT") net conn' := by
  have hUnread : Interleaves (requested net (closeRequest portalName) conn).transport.inbox
      (inner ++ [.readyForQuery status]) := h.unread
  obtain ⟨conn', hLoop, hState, hTransport⟩ := messageLoop_whole detached_complete
    orderly_complete net hUnread (drive_complete_inner hInner status)
  have hFlag := @keeps_messageLoop net _ (inert_needsRecovery conn.needsRecovery) _ _ _ _ _
    orderly_complete ((), requested net (closeRequest portalName) conn) rfl
  rw [hLoop] at hFlag
  refine ⟨conn', hState, hFlag, hTransport, fun owns => ?_⟩
  have hSend : sendBatch [.close .portal portalName, .sync] net
      (conn.setState .activeExtendedQuery) =
      (.ok (), requested net (closeRequest portalName) conn) := h.sends
  have hRead : Async.withLocal () (messageLoop completeBody) net
      (requested net (closeRequest portalName) conn) = (.ok .ready, conn') := by
    rw [withLocal_apply, hLoop]
  rw [closePortal, bind_of_ok (transition_of_idle hIdle rfl), bind_of_ok hSend, bind_of_ok hRead]

theorem closePortal_answered (hGood : Good server.toServer conn) (hIdle : conn.state = .idle)
    (hFlag : conn.needsRecovery = false) (h : ClosesPortal net portalName conn.transport) :
    ∃ conn', closePortal portalName true net conn = (.ok (), conn') ∧ Committed server conn' := by
  obtain ⟨⟨inner, status, hInner, hAnswers⟩, tag, status', hCommit⟩ := h
  obtain ⟨conn₁, hIdle₁, hFlag₁, hTransport₁, hClose⟩ := closePortal_closed hIdle hInner hAnswers
  have hGood₁ : Good server.toServer conn₁ := by
    have hEnd := @sound_closePortal net server.toServer portalName false conn hGood
    rw [hClose false] at hEnd
    exact Done.good hEnd
  rw [← hTransport₁] at hCommit
  obtain ⟨result, conn', hRun, hCommitted⟩ :=
    commit_answered hGood₁ hIdle₁ (hFlag₁.trans hFlag) hCommit
  refine ⟨conn', ?_, hCommitted⟩
  rw [hClose true, doIf_pos rfl, bind_of_ok hRun]
  rfl

end Closing

/-- The rest of a portal is fetched without an error: the server answers each round trip, and
says at one of them that the statement is complete. -/
inductive RunsOut (net : Network) (request : List FrontendMessage) : Transport → Transport → Prop
    where
  | last {t : Transport} {inner : List BackendMessage} {status : UInt8} {tag : Option String}
      (hInner : ∀ message ∈ inner, message.isInner) (hTag : .commandComplete tag ∈ inner)
      (hAnswers : Answers net request t (inner ++ [.readyForQuery status])) :
      RunsOut net request t (afterReply (exchanged net request t))
  | more {t t' : Transport} {inner : List BackendMessage} {status : UInt8}
      (hInner : ∀ message ∈ inner, message.isInner)
      (hNone : ∀ tag, BackendMessage.commandComplete tag ∉ inner)
      (hAnswers : Answers net request t (inner ++ [.readyForQuery status]))
      (hRest : RunsOut net request (afterReply (exchanged net request t)) t') :
      RunsOut net request t t'

end Connection

namespace CursorStream

/-- A stream whose rest is fetched without an error and then committed. One that has failed
closes its portal first. -/
inductive Committing (net : Network) : CursorStream × Connection → Prop where
  | fetching {stream : CursorStream} {conn : Connection} {t : Transport}
      (hActive : stream.state = .active) (hIdle : conn.state = .idle)
      (hRuns : RunsOut net stream.request conn.transport t) (hCommits : Commits net t) :
      Committing net (stream, conn)
  | drained {stream : CursorStream} {conn : Connection} {tag : CommandTag}
      (hDone : stream.state = .done tag) (hIdle : conn.state = .idle)
      (hCommits : Commits net conn.transport) : Committing net (stream, conn)
  | failed {stream : CursorStream} {conn : Connection} (hError : stream.state = .error)
      (hIdle : conn.state = .idle) (hCloses : ClosesPortal net stream.portalName conn.transport) :
      Committing net (stream, conn)

section Consuming

variable {net : Network} {server : TransactionServer net} {stream : CursorStream}
  {conn : Connection}

/-- What a batch leaves of a stream, and whether it has brought the tag of the statement. -/
theorem drive_batch_tag {inner : List BackendMessage}
    (hInner : ∀ message ∈ inner, message.isInner) (status : UInt8) (stream : CursorStream)
    (batch : Batch) :
    ∃ stream' batch', drive (localStep batchBody) (stream, batch)
        (inner ++ [.readyForQuery status]) = .done (.ok .ready) (stream', batch') [] ∧
      stream'.request = stream.request ∧ stream'.state = stream.state ∧
      stream'.bufferedRows = stream.bufferedRows ∧
      (batch'.commandTag.isSome ↔
        batch.commandTag.isSome ∨ ∃ tag, .commandComplete tag ∈ inner) := by
  induction inner generalizing stream batch with
  | nil => exact ⟨stream, batch, rfl, rfl, rfl, rfl, by simp⟩
  | cons message inner ih =>
      have hLater := ih fun m hMem => hInner m (List.mem_cons_of_mem _ hMem)
      have hThis := hInner message List.mem_cons_self
      have hOther : ∀ stream₁ batch₁, localStep batchBody (stream, batch) message =
            .next (stream₁, batch₁) → stream₁.request = stream.request →
          stream₁.state = stream.state → stream₁.bufferedRows = stream.bufferedRows →
          batch₁.commandTag = batch.commandTag →
          (∀ tag, message ≠ .commandComplete tag) →
          ∃ stream' batch', drive (localStep batchBody) (stream, batch)
              (message :: inner ++ [.readyForQuery status]) =
                .done (.ok .ready) (stream', batch') [] ∧
            stream'.request = stream.request ∧ stream'.state = stream.state ∧
            stream'.bufferedRows = stream.bufferedRows ∧
            (batch'.commandTag.isSome ↔
              batch.commandTag.isSome ∨ ∃ tag, .commandComplete tag ∈ message :: inner) := by
        intro stream₁ batch₁ hStep hRequest hState hRows hTag hMessage
        obtain ⟨stream', batch', hDrive, hRequest', hState', hRows', hTag'⟩ :=
          hLater stream₁ batch₁
        refine ⟨stream', batch', ?_, hRequest'.trans hRequest, hState'.trans hState,
          hRows'.trans hRows, ?_⟩
        · rw [List.cons_append, drive_cons_next _ _ hStep, hDrive]
        · rw [hTag', hTag]
          simp [fun tag => Ne.symm (hMessage tag)]
      cases message with
      | readyForQuery | errorResponse | parameterStatus | noticeResponse
      | notificationResponse => cases hThis
      | rowDescription fields =>
          cases fields with
          | ok fields => exact hOther _ _ rfl rfl rfl rfl rfl nofun
          | error e => cases hThis
      | dataRow values =>
          cases values with
          | ok values => exact hOther _ _ rfl rfl rfl rfl rfl nofun
          | error e => cases hThis
      | commandComplete tag =>
          obtain ⟨stream', batch', hDrive, hRequest, hState, hRows, hTag⟩ :=
            hLater stream { batch with commandTag := some (.ofBody tag) }
          refine ⟨stream', batch', ?_, hRequest, hState, hRows, ?_⟩
          · rw [List.cons_append]
            exact (drive_cons_next _ _ rfl).trans hDrive
          · rw [hTag]
            simp
      | _ => exact hOther _ _ rfl rfl rfl rfl rfl nofun

theorem Committing.buffered (h : Committing net (stream, conn)) (rows : List Row) :
    Committing net ({ stream with bufferedRows := rows }, conn) := by
  cases h with
  | fetching hActive hIdle hRuns hCommits => exact .fetching hActive hIdle hRuns hCommits
  | drained hDone hIdle hCommits => exact .drained hDone hIdle hCommits
  | failed hError hIdle hCloses => exact .failed hError hIdle hCloses

/-- One round trip of a stream that still fetches. -/
theorem fetchBatch_committing {t : Transport} (hActive : stream.state = .active)
    (hIdle : conn.state = .idle) (hRuns : RunsOut net stream.request conn.transport t)
    (hCommits : Commits net t) :
    ∃ batch stream' conn', fetchBatch net (stream, conn) = (.ok batch, (stream', conn')) ∧
      stream'.bufferedRows = stream.bufferedRows ∧
      Committing net
        ({ stream' with state := (batch.commandTag.map .done).getD stream'.state }, conn') := by
  cases hRuns with
  | @last _ inner status tag hInner hTag hAnswers =>
      obtain ⟨stream', batch, hDrive, -, -, hRows, hSome⟩ :=
        drive_batch_tag hInner status stream {}
      obtain ⟨conn', hFetch, hIdle', hTransport⟩ := fetchBatch_ready hIdle hAnswers hDrive
      obtain ⟨tag', hTag'⟩ := Option.isSome_iff_exists.mp (hSome.mpr (.inr ⟨tag, hTag⟩))
      refine ⟨batch, stream', conn', hFetch, hRows, @Committing.drained _ _ _ tag' ?_ hIdle' ?_⟩
      · rw [hTag']
        rfl
      · rwa [hTransport]
  | @more _ _ inner status hInner hNone hAnswers hRest =>
      obtain ⟨stream', batch, hDrive, hRequest, hState, hRows, hSome⟩ :=
        drive_batch_tag hInner status stream {}
      obtain ⟨conn', hFetch, hIdle', hTransport⟩ := fetchBatch_ready hIdle hAnswers hDrive
      have hTag : batch.commandTag = none := by
        rw [← Option.not_isSome_iff_eq_none, hSome]
        rintro (hNil | ⟨tag, hMem⟩)
        · cases hNil
        · exact hNone tag hMem
      have hStill : ({ stream' with
          state := (batch.commandTag.map .done).getD stream'.state } : CursorStream) = stream' := by
        rw [hTag]
        rfl
      refine ⟨batch, stream', conn', hFetch, hRows, ?_⟩
      rw [hStill]
      refine .fetching (hState.trans hActive) hIdle' ?_ hCommits
      rw [hRequest, hTransport]
      exact hRest

theorem triple_next_committing (fuel : Nat) :
    Triple net (Committing net) (next fuel)
      (fun row s => Committing net s ∧ (row = none → s.1.isDone = true)) (fun _ _ => False) := by
  induction fuel with
  | zero => exact Triple.wait
  | succ fuel ih =>
      intro (stream, conn) h
      cases hRows : stream.bufferedRows with
      | cons row rows =>
          rw [next_buffered fuel hRows]
          exact ⟨h.buffered rows, nofun⟩
      | nil =>
          have hOver : stream.isDone = true → Post
              (fun row s => Committing net s ∧ (row = none → s.1.isDone = true))
              (fun _ _ => False) (next (fuel + 1) net (stream, conn)) := by
            intro hDone
            rw [next_over fuel hRows hDone]
            exact ⟨h, fun _ => hDone⟩
          cases h with
          | drained hDone => exact hOver (by simp [isDone, hDone])
          | failed hError => exact hOver (by simp [isDone, hError])
          | fetching hActive hIdle hRuns hCommits =>
              have hOpen : stream.isDone = false := by simp [isDone, hActive]
              obtain ⟨batch, stream', conn', hFetch, hBuffered, hRest'⟩ :=
                fetchBatch_committing hActive hIdle hRuns hCommits
              rw [next_fetched fuel hRows hOpen hFetch]
              simp only
              split
              · exact ih _ hRest'
              · rename_i hStops
                rw [popRow_eq]
                refine ⟨(hRest'.buffered batch.rows).buffered _, fun hNone => ?_⟩
                have hNil : batch.rows = [] := List.head?_eq_none_iff.mp hNone
                simpa [hNil, isDone] using hStops

theorem triple_drainLoop_committing (fuel rows : Nat) :
    Triple net (Committing net) (drainLoop fuel rows)
      (fun _ s => Committing net s ∧ s.1.isDone = true) (fun _ _ => False) := by
  induction rows with
  | zero => exact Triple.wait
  | succ rows ih =>
      apply Triple.bind (triple_next_committing fuel)
      intro row
      cases row with
      | some row => exact ih.pre_mono fun _ h => h.1
      | none => exact Triple.pure fun _ h => ⟨h.1, h.2 rfl⟩

/-- The end of a stream that owns its transaction: the commit, behind the closing of its
portal when it has failed. -/
theorem triple_closePortal_committing :
    Triple net (fun s => (Committing net s ∧ s.1.isDone = true) ∧ Good server.toServer s.2 ∧
        Owning true false s) closePortal
      (fun _ s => Committed server s.2) (fun _ _ => False) := by
  rintro ⟨stream, conn⟩ ⟨⟨hRest', hDone⟩, hGood, hFlag, hOwns⟩
  rw [closePortal, bind_of_ok (get_apply ..)]
  simp only
  cases hRest' with
  | fetching hActive => simp [isDone, hActive] at hDone
  | @drained _ _ tag hState hIdle hCommits =>
      obtain ⟨tag', status, hCommit⟩ := hCommits
      obtain ⟨result, conn', hRun, hCommitted⟩ := commit_answered hGood hIdle hFlag hCommit
      simp only [hState]
      rw [doIf_pos hOwns, bind_apply, onSnd_apply, hRun]
      exact hCommitted
  | failed hState hIdle hCloses =>
      obtain ⟨conn', hClose, hCommitted⟩ := closePortal_answered hGood hIdle hFlag hCloses
      simp only [hState]
      have hOwns : stream.ownsTransaction = true := hOwns
      rw [bind_apply, onSnd_apply, hOwns, hClose]
      exact hCommitted

/-- What a stream that fetches keeps, however its calls end: whether a reply is to be skipped,
and whose the transaction is. -/
theorem keeps_owning_fetchBatch (owns flag : Bool) :
    Keeps net (Owning owns flag) fetchBatch := by
  have hInert := inert_needsRecovery flag
  intro s hs
  have hOwns := @keeps_fetchBatch net owns s hs.2
  refine ⟨?_, hOwns⟩
  have hFlag : Keeps net (fun s : CursorStream × Connection => s.2.needsRecovery = flag)
      fetchBatch := by
    refine keeps_bind keeps_get fun (stream, _) => ?_
    refine keeps_bind (keeps_onSnd fun _ => keeps_transition hInert _) fun _ => ?_
    refine keeps_bind (keeps_onSnd fun _ => keeps_sendBatch hInert _) fun _ => ?_
    have hLoop : Keeps net (fun s : CursorStream × Connection => s.2.needsRecovery = flag)
        batchLoop := fun (stream, conn) hConn =>
      @keeps_messageLoop net _ hInert _ _ _ _ _ orderly_cursorBatch ((stream, {}), conn) hConn
    refine keeps_bind hLoop fun (ending, batch) => ?_
    cases ending with
    | ready => exact keeps_pure _
    | serverError body =>
        refine keeps_bind (keeps_onSnd fun _ => keeps_drainServerError hInert body) fun _ => ?_
        exact keeps_bind (keeps_modify fun _ hConn => hConn) fun _ => keeps_fail _
  exact hFlag s hs.1

theorem keeps_owning_popRow (owns flag : Bool) : Keeps net (Owning owns flag) popRow := by
  intro (stream, conn) hs
  rw [popRow_eq]
  exact hs

theorem keeps_owning_next (owns flag : Bool) (fuel : Nat) :
    Keeps net (Owning owns flag) (next fuel) := by
  induction fuel with
  | zero => exact keeps_wait
  | succ fuel ih =>
      refine keeps_bind (keeps_owning_popRow owns flag) fun row => ?_
      cases row with
      | some row => exact keeps_pure _
      | none =>
          refine keeps_bind keeps_get fun (stream, _) => keeps_ite (keeps_pure none) ?_
          refine keeps_bind (keeps_owning_fetchBatch owns flag) fun batch => ?_
          refine keeps_bind (keeps_modify fun _ hs => hs) fun _ => ?_
          refine keeps_bind keeps_get fun (stream, _) => keeps_ite ih ?_
          exact keeps_bind (keeps_modify fun _ hs => hs) fun _ => keeps_owning_popRow owns flag

theorem keeps_owning_drainLoop (owns flag : Bool) (fuel rows : Nat) :
    Keeps net (Owning owns flag) (drainLoop fuel rows) := by
  induction rows with
  | zero => exact keeps_wait
  | succ rows ih =>
      refine keeps_bind (keeps_owning_next owns flag fuel) fun row => ?_
      cases row with
      | some row => exact ih
      | none => exact keeps_pure ()

/-- The calls of a stream keep requests and replies paired, also behind an error. -/
theorem triple_next_good (fuel : Nat) :
    Triple net (fun s => Good server.toServer s.2) (next fuel)
      (fun _ s => Good server.toServer s.2) (fun _ s => Good server.toServer s.2) := by
  induction fuel with
  | zero => exact Triple.wait
  | succ fuel ih =>
      intro (stream, conn) hGood
      cases hRows : stream.bufferedRows with
      | cons row rows =>
          rw [next_buffered fuel hRows]
          exact hGood
      | nil =>
          cases hOver : stream.isDone with
          | true =>
              rw [next_over fuel hRows hOver]
              exact hGood
          | false =>
              have hBatch := @triple_fetchBatch net server.toServer (stream, conn) hGood
              obtain ⟨hErr, hPending⟩ := @next_unfetched net stream conn fuel hRows hOver
              cases hFetch : fetchBatch net (stream, conn) with
              | mk outcome s' =>
                  rw [hFetch] at hBatch
                  cases outcome with
                  | ok batch =>
                      have hDone : Done server.toServer s'.2 := hBatch
                      rw [next_fetched fuel hRows hOver hFetch]
                      simp only
                      split
                      · exact ih _ hDone.good
                      · rw [popRow_eq]
                        exact hDone.good
                  | err e =>
                      rw [hErr e s' hFetch]
                      exact Failed.good hBatch
                  | pending =>
                      have hWaits := hPending (by rw [hFetch])
                      revert hWaits
                      match next (fuel + 1) net (stream, conn) with
                      | (.ok _, _) => exact nofun
                      | (.err _, _) => exact nofun
                      | (.pending, _) => exact fun _ => trivial

theorem triple_drainLoop_good (fuel rows : Nat) :
    Triple net (fun s => Good server.toServer s.2) (drainLoop fuel rows)
      (fun _ s => Good server.toServer s.2) (fun _ s => Good server.toServer s.2) := by
  induction rows with
  | zero => exact Triple.wait
  | succ rows ih =>
      apply Triple.bind (triple_next_good fuel)
      intro row
      cases row with
      | some row => exact ih
      | none => exact Triple.pure fun _ h => h

theorem triple_of_keeps {inv : CursorStream × Connection → Prop} {α : Type}
    {x : Owner CursorStream α} (h : Keeps net inv x) :
    Triple net inv x (fun _ => inv) (fun _ => inv) := by
  intro s hs
  have hEnd := h s hs
  revert hEnd
  match x net s with
  | (.ok _, _) => exact id
  | (.err _, _) => exact id
  | (.pending, _) => exact fun _ => trivial

theorem triple_consume_committing (fuel : Nat) :
    Triple net (fun s => Committing net s ∧ Good server.toServer s.2 ∧ Owning true false s)
      (consume fuel)
      (fun _ s => Committed server s.2) (fun _ _ => False) := by
  have hDrain := (@triple_drainLoop_committing net fuel fuel).and
    ((@triple_drainLoop_good net server fuel fuel).and
      (triple_of_keeps (@keeps_owning_drainLoop net true false fuel fuel)))
  apply Triple.bind (hDrain.mono (fun _ h => h) (fun _ _ h => h) fun _ _ h => h.1)
  intro _
  apply Triple.bind triple_closePortal_committing
  intro _
  apply Triple.get_bind
  rintro ⟨stream, conn⟩ hEnd
  dsimp only
  split
  · exact Triple.pure fun s hs => hs ▸ hEnd
  · exact Triple.pure fun s hs => hs ▸ hEnd

end Consuming

end CursorStream
end PgClient
