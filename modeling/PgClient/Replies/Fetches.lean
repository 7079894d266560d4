import PgClient.Replies.Cursors

/-!
Whole runs over a portal: all its rows in the server's order, and then no more round trips,
unless the server never says that the portal is at its end.
-/

namespace PgClient

open Drive Async Connection

/-- The rows of each batch, the last one included. -/
def portalRows (columns : List FieldDescription) (batches : List PortalBatch)
    (data : List (List (Option Bytes))) : List (List Row) :=
  batches.map (fun batch => rowsUnder columns batch.data) ++ [rowsUnder columns data]

theorem take_padded {α : Type} (l : List α) (a : α) (n : Nat) :
    (l ++ List.replicate (n + 1) a).take n = (l ++ List.replicate n a).take n := by
  rw [List.replicate_succ', ← List.append_assoc, List.take_append_of_le_length (by simp)]

theorem roundTrips_succ (net : Network) (request : List FrontendMessage) (n : Nat) (t : Transport) :
    roundTrips net request (n + 1) t = roundTrips net request n
      (afterReply (exchanged net request t)) :=
  Function.iterate_succ_apply ..

theorem roundTrips_succ' (net : Network) (request : List FrontendMessage) (n : Nat)
    (t : Transport) :
    roundTrips net request (n + 1) t =
      afterReply (exchanged net request (roundTrips net request n t)) :=
  Function.iterate_succ_apply' ..

/-- An empty statement stays one after a round trip. -/
theorem concludes_empty_next {net : Network} {request : List FrontendMessage} {t : Transport}
    (h : Concludes net request t .empty) :
    Concludes net request (afterReply (exchanged net request t)) .empty := by
  intro n
  rw [← roundTrips_succ]
  exact h (n + 1)

namespace Cursor

/-- So many calls of `fetch_next`. -/
def fetches : Nat → Owner Cursor (List (List Row))
  | 0 => return []
  | n + 1 => do
      let rows ← fetchNext
      let later ← fetches n
      return rows :: later

/-- `while !cursor.is_done() { cursor.fetch_next()?; }`, with a bound on its rounds. -/
def fetchWhile : Nat → Owner Cursor Unit
  | 0 => .wait
  | fuel + 1 => do
      let (cursor, _) ← .get
      if cursor.done then return ()
      else
        let _ ← fetchNext
        fetchWhile fuel

section Fetching

variable {net : Network} {cursor : Cursor} {conn : Connection} {batch : PortalBatch}
  {batches : List PortalBatch} {last : PortalEnd} {data : List (List (Option Bytes))}
  {tag : Option String} {status : UInt8}

theorem fetchNext_batch (hOpen : cursor.done = false) (hIdle : conn.state = .idle)
    (hBatch : Answers net cursor.request conn.transport batch.messages) :
    ∃ conn', fetchNext net (cursor, conn) =
        (.ok (rowsUnder cursor.columns batch.data), (cursor, conn')) ∧ conn'.state = .idle ∧
      conn'.transport = afterReply (exchanged net cursor.request conn.transport) := by
  refine fetchNext_ready hOpen hIdle hBatch ?_
  rw [PortalBatch.messages, drive_fetch_rows]
  rfl

theorem fetchNext_complete (hOpen : cursor.done = false) (hIdle : conn.state = .idle)
    (hLast : Concludes net cursor.request conn.transport (.complete data tag status)) :
    ∃ conn', fetchNext net (cursor, conn) =
        (.ok (rowsUnder cursor.columns data), ({ cursor with done := true }, conn')) ∧
      conn'.state = .idle ∧
      conn'.transport = afterReply (exchanged net cursor.request conn.transport) := by
  refine fetchNext_ready hOpen hIdle hLast ?_
  rw [drive_fetch_rows]
  rfl

theorem fetchNext_copyOut {body : CopyResponseBody} {chunks : List Bytes}
    (hOpen : cursor.done = false) (hIdle : conn.state = .idle)
    (hLast : Concludes net cursor.request conn.transport (.copyOut body chunks tag status)) :
    ∃ conn', fetchNext net (cursor, conn) = (.ok [], ({ cursor with done := true }, conn')) := by
  have hDrive : drive (localStep fetchBody) (cursor, []) (.copyOutResponse body ::
      chunks.map .copyData ++ [.copyDone, .commandComplete tag, .readyForQuery status]) =
      .done (.ok .ready) ({ cursor with done := true }, []) [] := by
    rw [List.cons_append, drive_cons_next _ _ rfl]
    exact drive_fetch_chunks cursor [] chunks _
  obtain ⟨conn', hFetch, -, -⟩ := fetchNext_ready hOpen hIdle hLast hDrive
  exact ⟨conn', hFetch⟩

theorem fetchNext_empty (hOpen : cursor.done = false) (hIdle : conn.state = .idle)
    (hLast : Concludes net cursor.request conn.transport .empty) :
    ∃ conn', fetchNext net (cursor, conn) = (.ok [], (cursor, conn')) ∧ conn'.state = .idle ∧
      conn'.transport = afterReply (exchanged net cursor.request conn.transport) := by
  obtain ⟨status, hAnswers⟩ := hLast 0
  exact fetchNext_ready hOpen hIdle hAnswers rfl

theorem fetches_done (net : Network) (conn : Connection) (hDone : cursor.done = true) (n : Nat) :
    fetches n net (cursor, conn) = (.ok (List.replicate n []), (cursor, conn)) := by
  induction n with
  | zero => rfl
  | succ n ih =>
      rw [fetches, bind_of_ok (fetchNext_done net conn hDone), bind_of_ok ih]
      rfl

/-- Every call returns the next batch; when all have been read, the calls return nothing and
touch nothing. -/
theorem fetches_serves
    (hServes : Serves net cursor.request conn.transport batches (.complete data tag status))
    (hOpen : cursor.done = false) (hIdle : conn.state = .idle) (n : Nat) :
    ∃ s', fetches n net (cursor, conn) =
        (.ok ((portalRows cursor.columns batches data ++ List.replicate n []).take n), s') ∧
      s'.1.done = decide (batches.length < n) ∧
      s'.2.transport =
        roundTrips net cursor.request (min n (batches.length + 1)) conn.transport := by
  induction batches generalizing conn n with
  | nil =>
      cases hServes with
      | last hLast =>
          cases n with
          | zero => exact ⟨_, rfl, hOpen, by simp [roundTrips]⟩
          | succ n =>
              obtain ⟨conn', hFetch, -, hTransport⟩ := fetchNext_complete hOpen hIdle hLast
              refine ⟨({ cursor with done := true }, conn'), ?_, by simp, ?_⟩
              · rw [fetches, bind_of_ok hFetch, bind_of_ok (fetches_done net conn' rfl n)]
                simp [portalRows, List.take_replicate]
              · rw [hTransport]
                simp [roundTrips]
  | cons batch batches ih =>
      cases hServes with
      | batch hBatch hRest =>
          cases n with
          | zero => exact ⟨_, rfl, hOpen, by simp [roundTrips]⟩
          | succ n =>
              obtain ⟨conn', hFetch, hIdle', hTransport⟩ := fetchNext_batch hOpen hIdle hBatch
              rw [← hTransport] at hRest
              obtain ⟨s', hFetches, hDone, hTransport'⟩ := ih hRest hIdle' n
              refine ⟨s', ?_, ?_, ?_⟩
              · rw [fetches, bind_of_ok hFetch, bind_of_ok hFetches]
                rw [← take_padded]
                rfl
              · rw [hDone]
                simp
              · rw [hTransport', hTransport, List.length_cons, Nat.add_min_add_right,
                  roundTrips_succ]

theorem fetchWhile_open (hOpen : cursor.done = false) (fuel : Nat) (net : Network)
    (conn : Connection) :
    fetchWhile (fuel + 1) net (cursor, conn) =
      (fetchNext >>= fun _ => fetchWhile fuel) net (cursor, conn) := by
  rw [fetchWhile, bind_of_ok (get_apply ..)]
  exact congrFun (congrFun (if_neg (Bool.eq_false_iff.mp hOpen)) net) (cursor, conn)

/-- The loop comes to its end with a portal that does. -/
theorem fetchWhile_ends (hServes : Serves net cursor.request conn.transport batches last)
    (hCloses : last.closes) (hOpen : cursor.done = false) (hIdle : conn.state = .idle) :
    ∃ fuel, (fetchWhile fuel net (cursor, conn)).1 ≠ .pending := by
  have hDone : ∀ fuel conn rows conn', fetchNext net (cursor, conn) =
      (.ok rows, ({ cursor with done := true }, conn')) →
      (fetchWhile (fuel + 2) net (cursor, conn)).1 = .ok () := by
    intro fuel conn rows conn' hFetch
    rw [fetchWhile_open hOpen, bind_of_ok hFetch]
    rfl
  induction batches generalizing conn with
  | nil =>
      cases hServes with
      | last hLast =>
          refine ⟨2, ?_⟩
          cases last with
          | complete data tag status =>
              obtain ⟨conn', hFetch, -, -⟩ := fetchNext_complete hOpen hIdle hLast
              rw [hDone 0 conn _ conn' hFetch]
              exact nofun
          | copyOut body chunks tag status =>
              obtain ⟨conn', hFetch⟩ := fetchNext_copyOut hOpen hIdle hLast
              rw [hDone 0 conn _ conn' hFetch]
              exact nofun
          | failed begun error status =>
              obtain ⟨hInner, hAnswers⟩ := hLast
              obtain ⟨⟨cursor', rows⟩, hDrive⟩ := drive_fetch_inner hInner
                [.errorResponse { fields := .ok error }, .readyForQuery status] (cursor, [])
              have hFetch := fetchNext_failed hOpen hIdle hAnswers (hDrive.trans rfl)
              rw [fetchWhile_open hOpen, bind_apply]
              revert hFetch
              obtain ⟨outcome, s'⟩ := fetchNext net (cursor, conn)
              rintro (rfl : outcome = _)
              exact nofun
          | empty => cases hCloses
          | copyIn body => cases hCloses
  | cons batch batches ih =>
      cases hServes with
      | batch hBatch hRest =>
          obtain ⟨conn', hFetch, hIdle', hTransport⟩ := fetchNext_batch hOpen hIdle hBatch
          rw [← hTransport] at hRest
          obtain ⟨fuel, hEnds⟩ := ih hRest hIdle'
          exact ⟨fuel + 1, by rwa [fetchWhile_open hOpen, bind_of_ok hFetch]⟩

/-- With any other portal it does not. -/
theorem fetchWhile_endless (hServes : Serves net cursor.request conn.transport batches last)
    (hOpenEnd : last.closes = false) (hOpen : cursor.done = false) (hIdle : conn.state = .idle)
    (fuel : Nat) : (fetchWhile fuel net (cursor, conn)).1 = .pending := by
  induction fuel generalizing batches conn with
  | zero => rfl
  | succ fuel ih =>
      rw [fetchWhile_open hOpen]
      cases hServes with
      | batch hBatch hRest =>
          obtain ⟨conn', hFetch, hIdle', hTransport⟩ := fetchNext_batch hOpen hIdle hBatch
          rw [← hTransport] at hRest
          rw [bind_of_ok hFetch]
          exact ih hRest hIdle'
      | last hLast =>
          cases last with
          | empty =>
              obtain ⟨conn', hFetch, hIdle', hTransport⟩ := fetchNext_empty hOpen hIdle hLast
              have hNext := concludes_empty_next hLast
              rw [← hTransport] at hNext
              rw [bind_of_ok hFetch]
              exact ih (.last hNext) hIdle'
          | copyIn body =>
              have hDrive : drive (localStep fetchBody) (cursor, []) [.copyInResponse body] =
                  .waiting (cursor, []) := rfl
              have hFetch := fetchNext_waiting hOpen hIdle hLast.1 hLast.2 hDrive
              rw [bind_pending _ hFetch]
          | complete => cases hOpenEnd
          | copyOut => cases hOpenEnd
          | failed => cases hOpenEnd

end Fetching

end Cursor

namespace CursorStream

/-- So many calls of `next`, an error not being the end of them. -/
def calls (fuel : Nat) : Nat → Owner CursorStream (List (Except PgError (Option Row)))
  | 0 => return []
  | n + 1 => do
      let result ← (next fuel).attempt
      let later ← calls fuel n
      return result :: later

section Streaming

variable {net : Network} {stream stream' : CursorStream} {conn conn' : Connection} {fuel : Nat}
  {batch : Batch} {row : Row} {rows : List Row}

theorem popRow_eq (net : Network) (stream : CursorStream) (conn : Connection) :
    popRow net (stream, conn) = (.ok stream.bufferedRows.head?,
      ({ stream with bufferedRows := stream.bufferedRows.tail }, conn)) := by
  obtain ⟨_, _, _, _, bufferedRows, _⟩ := stream
  cases bufferedRows <;> rfl

theorem popRow_nil (hEmpty : stream.bufferedRows = []) :
    popRow net (stream, conn) = (.ok none, (stream, conn)) := by
  obtain ⟨_, _, _, _, _, _⟩ := stream
  cases hEmpty
  rfl

theorem popRow_cons (hRows : stream.bufferedRows = row :: rows) :
    popRow net (stream, conn) = (.ok (some row), ({ stream with bufferedRows := rows }, conn)) := by
  rw [popRow_eq, hRows]
  rfl

theorem next_buffered (fuel : Nat) (hRows : stream.bufferedRows = row :: rows) :
    next (fuel + 1) net (stream, conn) =
      (.ok (some row), ({ stream with bufferedRows := rows }, conn)) := by
  rw [next, bind_of_ok (popRow_cons hRows)]
  rfl

theorem next_over (fuel : Nat) (hEmpty : stream.bufferedRows = []) (hDone : stream.isDone = true) :
    next (fuel + 1) net (stream, conn) = (.ok none, (stream, conn)) := by
  rw [next, bind_of_ok (popRow_nil hEmpty)]
  simp only
  rw [bind_of_ok (get_apply ..)]
  exact congrFun (congrFun (if_pos hDone) net) (stream, conn)

/-- What a call makes of the batch it fetches. -/
theorem next_fetched (fuel : Nat) (hEmpty : stream.bufferedRows = [])
    (hOpen : stream.isDone = false)
    (hFetch : fetchBatch net (stream, conn) = (.ok batch, (stream', conn'))) :
    next (fuel + 1) net (stream, conn) =
      let fetched := { stream' with state := (batch.commandTag.map .done).getD stream'.state }
      if batch.rows = [] ∧ !fetched.isDone then next fuel net (fetched, conn')
      else popRow net ({ fetched with bufferedRows := batch.rows }, conn') := by
  rw [next, bind_of_ok (popRow_nil hEmpty)]
  simp only
  rw [bind_of_ok (get_apply ..)]
  refine (congrFun (congrFun (if_neg (Bool.eq_false_iff.mp hOpen)) net) (stream, conn)).trans ?_
  rw [bind_of_ok hFetch]
  simp only [bind_apply, modify_apply, andThen_ok, get_apply]
  split <;> rfl

theorem next_unfetched (fuel : Nat) (hEmpty : stream.bufferedRows = [])
    (hOpen : stream.isDone = false) :
    (∀ e s', fetchBatch net (stream, conn) = (.err e, s') →
      next (fuel + 1) net (stream, conn) = (.err e, s')) ∧
    ((fetchBatch net (stream, conn)).1 = .pending →
      (next (fuel + 1) net (stream, conn)).1 = .pending) := by
  rw [next, bind_of_ok (popRow_nil hEmpty)]
  simp only
  rw [bind_of_ok (get_apply ..)]
  simp only [hOpen, Bool.false_eq_true, if_false]
  constructor
  · intro e s' hFetch
    simp only [bind_apply, hFetch, andThen_err]
  · intro hFetch
    rw [bind_pending _ hFetch]

end Streaming

/-- A stream that still fetches, and what the server has for it. -/
structure Running (net : Network) (request : List FrontendMessage)
    (columns : List FieldDescription) (last : PortalEnd) (s : CursorStream × Connection)
    (batches : List PortalBatch) : Prop where
  active : s.1.state = .active
  idle : s.2.state = .idle
  asks : s.1.request = request
  columns : s.1.columns = columns
  serves : Serves net request s.2.transport batches last

section Running

variable {net : Network} {request : List FrontendMessage} {columns : List FieldDescription}
  {last : PortalEnd} {stream : CursorStream} {conn : Connection} {batch : PortalBatch}
  {batches : List PortalBatch} {data : List (List (Option Bytes))} {tag : Option String}
  {status : UInt8} {row : Row} {rows : List Row}

theorem Running.isOpen (h : Running net request columns last (stream, conn) batches) :
    stream.isDone = false := by
  have hActive : stream.state = .active := h.active
  simp [isDone, hActive]

theorem Running.buffered (h : Running net request columns last (stream, conn) batches)
    (rows : List Row) :
    Running net request columns last ({ stream with bufferedRows := rows }, conn) batches :=
  ⟨h.active, h.idle, h.asks, h.columns, h.serves⟩

/-- A call that fetches a batch of the server: without rows it goes on to the next. -/
theorem Running.next_batch
    (h : Running net request columns last (stream, conn) (batch :: batches))
    (hEmpty : stream.bufferedRows = []) :
    ∃ conn', Running net request columns last (stream, conn') batches ∧
      conn'.transport = afterReply (exchanged net request conn.transport) ∧
      ∀ fuel, next (fuel + 1) net (stream, conn) =
        if rowsUnder columns batch.data = [] then next fuel net (stream, conn')
        else popRow net ({ stream with bufferedRows := rowsUnder columns batch.data }, conn') := by
  have hOpen := h.isOpen
  obtain ⟨hActive, hIdle, rfl, rfl, hServes⟩ := h
  cases hServes with
  | batch hBatch hRest =>
      have hDrive : drive (localStep batchBody) (stream, {}) batch.messages =
          .done (.ok .ready) (stream, { rows := rowsUnder stream.columns batch.data }) [] := by
        rw [PortalBatch.messages, drive_batch_rows]
        rfl
      obtain ⟨conn', hFetch, hIdle', hTransport⟩ := fetchBatch_ready hIdle hBatch hDrive
      have hRest : Serves net stream.request conn'.transport batches last := by
        rwa [hTransport]
      refine ⟨conn', ⟨hActive, hIdle', rfl, rfl, hRest⟩, hTransport, ?_⟩
      intro fuel
      rw [next_fetched fuel hEmpty hOpen hFetch]
      change (if rowsUnder stream.columns batch.data = [] ∧ !stream.isDone then
        next fuel net (stream, conn') else popRow net
          ({ stream with bufferedRows := rowsUnder stream.columns batch.data }, conn')) = _
      simp [hOpen]

/-- A call that fetches the last batch. -/
theorem Running.next_complete
    (h : Running net request columns (.complete data tag status) (stream, conn) [])
    (hEmpty : stream.bufferedRows = []) :
    ∃ conn', conn'.transport = afterReply (exchanged net request conn.transport) ∧
      ∀ fuel, next (fuel + 1) net (stream, conn) =
        popRow net ({ stream with
          state := .done (.ofBody tag), bufferedRows := rowsUnder columns data }, conn') := by
  have hOpen := h.isOpen
  obtain ⟨hActive, hIdle, rfl, rfl, hServes⟩ := h
  cases hServes with
  | last hLast =>
      have hDrive : drive (localStep batchBody) (stream, {})
          (dataRows data ++ [.commandComplete tag, .readyForQuery status]) =
          .done (.ok .ready) (stream,
            { commandTag := some (.ofBody tag), rows := rowsUnder stream.columns data }) [] := by
        rw [drive_batch_rows]
        rfl
      obtain ⟨conn', hFetch, -, hTransport⟩ := fetchBatch_ready hIdle hLast hDrive
      refine ⟨conn', hTransport, ?_⟩
      intro fuel
      rw [next_fetched fuel hEmpty hOpen hFetch]
      simp [isDone]

end Running

/-- The rows that a stream has yet to return: those in its buffer, and those of the batches
that it has not read. -/
inductive Ahead (net : Network) (request : List FrontendMessage) (columns : List FieldDescription)
    (data : List (List (Option Bytes))) (tag : Option String) (status : UInt8) (start : Transport)
    (total : Nat) : CursorStream × Connection → List Row → Prop where
  | running {stream : CursorStream} {conn : Connection} {batches : List PortalBatch} {n : Nat}
      (hRunning : Running net request columns (.complete data tag status) (stream, conn) batches)
      (hRead : conn.transport = roundTrips net request n start)
      (hTotal : n + batches.length + 1 = total) :
      Ahead net request columns data tag status start total (stream, conn)
        (stream.bufferedRows ++ (portalRows columns batches data).flatten)
  | ended {stream : CursorStream} {conn : Connection} (hDone : stream.state = .done (.ofBody tag))
      (hRead : conn.transport = roundTrips net request total start) :
      Ahead net request columns data tag status start total (stream, conn) stream.bufferedRows

section Ahead

variable {net : Network} {request : List FrontendMessage} {columns : List FieldDescription}
  {data : List (List (Option Bytes))} {tag : Option String} {status : UInt8} {start : Transport}
  {total : Nat} {s : CursorStream × Connection} {rows : List Row} {stream : CursorStream}
  {conn : Connection}

/-- Where a stream has got to in the server's messages, and what it says of it. -/
theorem Ahead.read (h : Ahead net request columns data tag status start total s rows) :
    ∃ n ≤ total, s.2.transport = roundTrips net request n start ∧
      s.1.isDone = decide (n = total) ∧
      s.1.commandTag = if n = total then some (.ofBody tag) else none := by
  cases h with
  | @running stream conn batches n hRunning hRead hTotal =>
      have hShort : n ≠ total := by omega
      have hActive : stream.state = .active := hRunning.active
      exact ⟨n, by omega, hRead, by simp [isDone, hActive, hShort],
        by simp [commandTag, hActive, hShort]⟩
  | ended hDone hRead =>
      exact ⟨total, Nat.le_refl total, hRead, by simp [isDone, hDone], by simp [commandTag, hDone]⟩

/-- A stream without buffered rows reads batches until one has rows, or the last. -/
theorem next_running {batches : List PortalBatch} {n : Nat}
    (hRunning : Running net request columns (.complete data tag status) (stream, conn) batches)
    (hEmpty : stream.bufferedRows = []) (hRead : conn.transport = roundTrips net request n start)
    (hTotal : n + batches.length + 1 = total) {fuel : Nat} (hFuel : batches.length < fuel) :
    ∃ s', next fuel net (stream, conn) =
        (.ok (portalRows columns batches data).flatten.head?, s') ∧
      Ahead net request columns data tag status start total s'
        (portalRows columns batches data).flatten.tail ∧
      ((portalRows columns batches data).flatten = [] → s'.1.isDone = true) := by
  induction batches generalizing conn n fuel with
  | nil =>
      obtain ⟨fuel, rfl⟩ := Nat.exists_eq_succ_of_ne_zero (Nat.ne_of_gt hFuel)
      obtain ⟨conn', hTransport, hNext⟩ := hRunning.next_complete hEmpty
      have hRead' : conn'.transport = roundTrips net request total start := by
        rw [hTransport, hRead, ← hTotal, List.length_nil, Nat.add_zero, roundTrips_succ']
      rw [show (portalRows columns [] data).flatten = rowsUnder columns data by simp [portalRows],
        hNext fuel, popRow_eq]
      exact ⟨_, rfl, .ended rfl hRead', fun _ => rfl⟩
  | cons batch batches ih =>
      obtain ⟨fuel, rfl⟩ := Nat.exists_eq_succ_of_ne_zero (Nat.ne_of_gt (Nat.zero_lt_of_lt hFuel))
      obtain ⟨conn', hRunning', hTransport, hNext⟩ := hRunning.next_batch hEmpty
      have hRead' : conn'.transport = roundTrips net request (n + 1) start := by
        rw [hTransport, hRead, roundTrips_succ']
      have hTotal' : n + 1 + batches.length + 1 = total := by
        rw [List.length_cons] at hTotal
        omega
      rw [show (portalRows columns (batch :: batches) data).flatten =
        rowsUnder columns batch.data ++ (portalRows columns batches data).flatten from rfl,
          hNext fuel]
      cases hRows : rowsUnder columns batch.data with
      | nil =>
          rw [if_pos rfl]
          exact ih hRunning' hRead' hTotal' (Nat.lt_of_succ_lt_succ hFuel)
      | cons row rows =>
          rw [if_neg nofun, popRow_eq]
          exact ⟨_, rfl, .running (hRunning'.buffered rows) hRead' hTotal', nofun⟩

theorem next_ahead (h : Ahead net request columns data tag status start total s rows) {fuel : Nat}
    (hSome : 0 < fuel) (hFuel : total ≤ fuel) :
    ∃ s', next fuel net s = (.ok rows.head?, s') ∧
      Ahead net request columns data tag status start total s' rows.tail ∧
      (rows = [] → s'.1.isDone = true) := by
  obtain ⟨fuel, rfl⟩ := Nat.exists_eq_succ_of_ne_zero (Nat.ne_of_gt hSome)
  cases h with
  | @running stream conn batches n hRunning hRead hTotal =>
      cases hRows : stream.bufferedRows with
      | nil => exact next_running hRunning hRows hRead hTotal (by omega)
      | cons row rows =>
          exact ⟨_, next_buffered fuel hRows, .running (hRunning.buffered rows) hRead hTotal, nofun⟩
  | @ended stream conn hDone hRead =>
      have hOver : stream.isDone = true := by simp [isDone, hDone]
      cases hRows : stream.bufferedRows with
      | nil =>
          have hStays : Ahead net request columns data tag status start total (stream, conn)
              stream.bufferedRows := .ended hDone hRead
          rw [hRows] at hStays
          exact ⟨_, next_over fuel hRows hOver, hStays, fun _ => hOver⟩
      | cons row rows =>
          exact ⟨_, next_buffered fuel hRows,
            @Ahead.ended _ _ _ _ _ _ _ _ { stream with bufferedRows := rows } _ hDone hRead, nofun⟩

/-- Calls return what is ahead, row by row, and then nothing. -/
theorem calls_ahead (h : Ahead net request columns data tag status start total s rows) {fuel : Nat}
    (hSome : 0 < fuel) (hFuel : total ≤ fuel) (n : Nat) :
    ∃ s', calls fuel n net s =
        (.ok (((rows.map some ++ List.replicate n none).take n).map .ok), s') ∧
      Ahead net request columns data tag status start total s' (rows.drop n) ∧
      (rows.length < n → s'.1.isDone = true) := by
  induction n generalizing s rows with
  | zero => exact ⟨s, rfl, h, fun hShort => absurd hShort (Nat.not_lt_zero _)⟩
  | succ n ih =>
      obtain ⟨s₁, hNext, hAhead, hOver⟩ := next_ahead h hSome hFuel
      obtain ⟨s', hCalls, hAhead', hDone⟩ := ih hAhead
      have hAttempt : (next fuel).attempt net s = (.ok (.ok rows.head?), s₁) := by
        simp only [attempt, hNext]
      refine ⟨s', ?_, by rwa [List.drop_tail] at hAhead', ?_⟩
      · rw [calls, bind_of_ok hAttempt, bind_of_ok hCalls]
        cases rows with
        | nil => simp [List.take_replicate, List.replicate_succ]
        | cons row rows =>
            rw [List.tail_cons, ← take_padded]
            rfl
      · intro hShort
        cases rows with
        | nil =>
            cases n with
            | zero =>
                cases hCalls
                exact hOver rfl
            | succ n => exact hDone (Nat.succ_pos n)
        | cons row rows => exact hDone (Nat.lt_of_succ_lt_succ hShort)

end Ahead

/-- A stream that comes to its end within so many round trips. -/
inductive Finite (net : Network) (last : PortalEnd) (bound : Nat) : CursorStream × Connection → Prop
    where
  | running {stream : CursorStream} {conn : Connection} {batches : List PortalBatch}
      (hRunning : Running net stream.request stream.columns last (stream, conn) batches)
      (hBound : batches.length < bound) : Finite net last bound (stream, conn)
  | ended {stream : CursorStream} {conn : Connection} (hDone : stream.isDone = true) :
      Finite net last bound (stream, conn)

section Termination

variable {net : Network} {last : PortalEnd} {stream : CursorStream} {conn : Connection}
  {batches : List PortalBatch} {bound : Nat} {s : CursorStream × Connection}

/-- The round trip that the server answers with the end of the portal. -/
theorem next_closes (hCloses : last.closes)
    (hRunning : Running net stream.request stream.columns last (stream, conn) [])
    (hEmpty : stream.bufferedRows = []) (fuel : Nat) :
    (next (fuel + 1) net (stream, conn)).1 ≠ .pending ∧
      (next (fuel + 1) net (stream, conn)).2.1.isDone = true := by
  cases last with
  | complete data tag status =>
      obtain ⟨conn', -, hNext⟩ := hRunning.next_complete hEmpty
      rw [hNext, popRow_eq]
      exact ⟨nofun, rfl⟩
  | copyOut body chunks tag status =>
      cases hRunning.serves with
      | last hLast =>
          have hDrive : drive (localStep batchBody) (stream, {})
              (.copyOutResponse body :: chunks.map .copyData ++
                [.copyDone, .commandComplete tag, .readyForQuery status]) =
              .done (.ok .ready) (stream, { commandTag := some (.ofBody tag) }) [] := by
            rw [List.cons_append, drive_cons_next _ _ rfl]
            exact drive_batch_chunks _ chunks _
          obtain ⟨conn', hFetch, -, -⟩ := fetchBatch_ready hRunning.idle hLast hDrive
          rw [next_fetched fuel hEmpty hRunning.isOpen hFetch]
          simp only [isDone, Option.map_some, Option.getD_some, Bool.not_true, Bool.false_eq_true,
            and_false, if_false, popRow_eq]
          exact ⟨nofun, trivial⟩
  | failed begun error status =>
      cases hRunning.serves with
      | last hLast =>
          obtain ⟨⟨stream', batch⟩, hDrive⟩ := drive_batch_inner hLast.1
            [.errorResponse { fields := .ok error }, .readyForQuery status] (stream, {})
          obtain ⟨conn', hFetch⟩ := fetchBatch_failed hRunning.idle hLast.2 (hDrive.trans rfl)
          rw [(next_unfetched fuel hEmpty hRunning.isOpen).1 _ _ hFetch]
          exact ⟨nofun, rfl⟩
  | empty => cases hCloses
  | copyIn body => cases hCloses

theorem next_running_finite (hCloses : last.closes)
    (hRunning : Running net stream.request stream.columns last (stream, conn) batches)
    (hEmpty : stream.bufferedRows = []) (hBound : batches.length < bound) {fuel : Nat}
    (hFuel : batches.length < fuel) :
    (next fuel net (stream, conn)).1 ≠ .pending ∧
      Finite net last bound (next fuel net (stream, conn)).2 := by
  induction batches generalizing conn fuel with
  | nil =>
      obtain ⟨fuel, rfl⟩ := Nat.exists_eq_succ_of_ne_zero (Nat.ne_of_gt hFuel)
      obtain ⟨hReturns, hOver⟩ := next_closes hCloses hRunning hEmpty fuel
      exact ⟨hReturns, .ended hOver⟩
  | cons batch batches ih =>
      obtain ⟨fuel, rfl⟩ := Nat.exists_eq_succ_of_ne_zero (Nat.ne_of_gt (Nat.zero_lt_of_lt hFuel))
      obtain ⟨conn', hRunning', -, hNext⟩ := hRunning.next_batch hEmpty
      have hBound' : batches.length < bound := Nat.lt_of_succ_lt hBound
      rw [hNext fuel]
      split
      · exact ih hRunning' hBound' (Nat.lt_of_succ_lt_succ hFuel)
      · rename_i hSome
        obtain ⟨row, rows, hSome⟩ := List.exists_cons_of_ne_nil hSome
        rw [hSome, popRow_eq]
        exact ⟨nofun, .running (hRunning'.buffered rows) hBound'⟩

theorem next_finite (hCloses : last.closes) (h : Finite net last bound s) {fuel : Nat}
    (hFuel : bound ≤ fuel) (hSome : 0 < fuel) :
    (next fuel net s).1 ≠ .pending ∧ Finite net last bound (next fuel net s).2 := by
  cases h with
  | @ended stream conn hDone =>
      obtain ⟨fuel, rfl⟩ := Nat.exists_eq_succ_of_ne_zero (Nat.ne_of_gt hSome)
      cases hRows : stream.bufferedRows with
      | nil =>
          rw [next_over fuel hRows hDone]
          exact ⟨nofun, .ended hDone⟩
      | cons row rows =>
          rw [next_buffered fuel hRows]
          exact ⟨nofun, .ended hDone⟩
  | @running stream conn batches hRunning hBound =>
      cases hRows : stream.bufferedRows with
      | nil =>
          exact next_running_finite hCloses hRunning hRows hBound (Nat.lt_of_lt_of_le hBound hFuel)
      | cons row rows =>
          obtain ⟨fuel, rfl⟩ := Nat.exists_eq_succ_of_ne_zero (Nat.ne_of_gt hSome)
          rw [next_buffered fuel hRows]
          exact ⟨nofun, .running (hRunning.buffered rows) hBound⟩

theorem calls_finite (hCloses : last.closes) (h : Finite net last bound s) {fuel : Nat}
    (hFuel : bound ≤ fuel) (hSome : 0 < fuel) (n : Nat) :
    ∃ results s', calls fuel n net s = (.ok results, s') := by
  induction n generalizing s with
  | zero => exact ⟨_, _, rfl⟩
  | succ n ih =>
      obtain ⟨hReturns, hFinite⟩ := next_finite hCloses h hFuel hSome
      obtain ⟨result, hAttempt⟩ := attempt_of_returns hReturns
      obtain ⟨results, s', hCalls⟩ := ih hFinite
      exact ⟨result :: results, s', by rw [calls, bind_of_ok hAttempt, bind_of_ok hCalls]; rfl⟩

/-- How many rows a stream can still return. -/
def rowsLeft (stream : CursorStream) (batches : List PortalBatch) : Nat :=
  stream.bufferedRows.length + (batches.map fun batch => batch.data.length).sum

/-- A round trip that an empty statement is executed in changes nothing. -/
theorem next_empty (hRunning : Running net stream.request stream.columns .empty (stream, conn) [])
    (hEmpty : stream.bufferedRows = []) :
    ∃ conn', Running net stream.request stream.columns .empty (stream, conn') [] ∧
      ∀ fuel, next (fuel + 1) net (stream, conn) = next fuel net (stream, conn') := by
  cases hRunning.serves with
  | last hLast =>
      obtain ⟨status, hAnswers⟩ := hLast 0
      have hDrive : drive (localStep batchBody) (stream, {})
          [.emptyQueryResponse, .readyForQuery status] = .done (.ok .ready) (stream, {}) [] := rfl
      obtain ⟨conn', hFetch, hIdle, hTransport⟩ := fetchBatch_ready hRunning.idle hAnswers hDrive
      have hRest : Concludes net stream.request conn'.transport .empty := by
        rw [hTransport]
        exact concludes_empty_next hLast
      refine ⟨conn', ⟨hRunning.active, hIdle, rfl, rfl, .last hRest⟩, ?_⟩
      intro fuel
      rw [next_fetched fuel hEmpty hRunning.isOpen hFetch]
      have hStays : (([] : List Row) = [] ∧ !stream.isDone) := ⟨rfl, by simp [hRunning.isOpen]⟩
      exact if_pos hStays

/-- Without an end of the portal a call returns a row, or never. -/
theorem next_endless (hOpenEnd : last.closes = false)
    (hRunning : Running net stream.request stream.columns last (stream, conn) batches)
    (fuel : Nat) :
    (next fuel net (stream, conn)).1 = .pending ∨
      ∃ row stream' conn' batches', next fuel net (stream, conn) =
        (.ok (some row), (stream', conn')) ∧
        Running net stream'.request stream'.columns last (stream', conn') batches' ∧
        stream'.rowsLeft batches' < stream.rowsLeft batches := by
  cases hRows : stream.bufferedRows with
  | cons row rows =>
      cases fuel with
      | zero => exact .inl rfl
      | succ fuel =>
          exact .inr ⟨row, _, _, batches, next_buffered fuel hRows, hRunning.buffered rows,
            by simp [rowsLeft, hRows]⟩
  | nil =>
      induction fuel generalizing conn batches with
      | zero => exact .inl rfl
      | succ fuel ih =>
          cases batches with
          | cons batch batches =>
              obtain ⟨conn', hRunning', -, hNext⟩ := hRunning.next_batch hRows
              rw [hNext fuel]
              split
              · obtain hPending | ⟨row, stream', conn₁, batches', hRow, hRest, hLess⟩ :=
                  ih hRunning'
                · exact .inl hPending
                · refine .inr ⟨row, stream', conn₁, batches', hRow, hRest, hLess.trans_le ?_⟩
                  simp [rowsLeft]
              · rename_i hSome
                obtain ⟨row, rows, hSome⟩ := List.exists_cons_of_ne_nil hSome
                have hLength : batch.data.length = rows.length + 1 := by
                  have hRowsLength := congrArg List.length hSome
                  simpa [rowsUnder] using hRowsLength
                rw [hSome, popRow_eq]
                exact .inr ⟨row, _, _, batches, rfl, hRunning'.buffered rows, by
                  simp only [rowsLeft, hRows, List.tail_cons, List.map_cons, List.sum_cons, hLength,
                    List.length_nil]
                  omega⟩
          | nil =>
              cases last with
              | empty =>
                  obtain ⟨conn', hRunning', hNext⟩ := next_empty hRunning hRows
                  rw [hNext fuel]
                  exact ih hRunning'
              | copyIn body =>
                  cases hRunning.serves with
                  | last hLast =>
                      have hDrive : drive (localStep batchBody) (stream, {})
                          [.copyInResponse body] = .waiting (stream, {}) := rfl
                      have hFetch := fetchBatch_waiting hRunning.idle hLast.1 hLast.2 hDrive
                      exact .inl ((next_unfetched fuel hRows hRunning.isOpen).2 hFetch)
              | complete => cases hOpenEnd
              | copyOut => cases hOpenEnd
              | failed => cases hOpenEnd

/-- More calls than there are rows do not all return. -/
theorem calls_endless (hOpenEnd : last.closes = false)
    (hRunning : Running net stream.request stream.columns last (stream, conn) batches) (fuel : Nat)
    {n : Nat} (hMore : stream.rowsLeft batches < n) :
    (calls fuel n net (stream, conn)).1 = .pending := by
  induction n generalizing stream conn batches with
  | zero => exact absurd hMore (Nat.not_lt_zero _)
  | succ n ih =>
      obtain hPending | ⟨row, stream', conn', batches', hNext, hRunning', hLess⟩ :=
        next_endless hOpenEnd hRunning fuel
      · have hAttempt : ((next fuel).attempt net (stream, conn)).1 = .pending := by
          rw [attempt]
          revert hPending
          cases next fuel net (stream, conn) with
          | mk outcome _ =>
              cases outcome with
              | pending => exact fun _ => rfl
              | ok _ => simp
              | err _ => simp
        rw [calls, bind_pending _ hAttempt]
      · have hAttempt : (next fuel).attempt net (stream, conn) =
            (.ok (.ok (some row)), (stream', conn')) := by
          simp only [attempt, hNext]
        have hLater := ih hRunning' (Nat.lt_of_lt_of_le hLess (Nat.le_of_lt_succ hMore))
        rw [calls, bind_of_ok hAttempt, bind_pending _ hLater]

end Termination

end CursorStream

/-- What a cursor is when it has been opened. -/
theorem opened_of_queryCursor {net : Network} {conn conn' : Connection} {sql : String}
    {params : List ToSql} {fetchSize : Int32} {cursor : Cursor}
    (h : queryCursor sql params fetchSize net conn = (.ok cursor, conn')) :
    cursor.done = false ∧ conn'.state = .idle := by
  obtain ⟨_, _, -, h⟩ := ok_of_bind h
  obtain ⟨_, _, -, h⟩ := ok_of_bind h
  obtain ⟨_, _, -, h⟩ := ok_of_bind h
  obtain ⟨_, _, -, h⟩ := ok_of_bind h
  obtain ⟨_, _, -, h⟩ := ok_of_bind h
  obtain ⟨_, _, -, h⟩ := ok_of_bind h
  obtain ⟨_, sent, -, h⟩ := ok_of_bind h
  rw [withLocal_apply] at h
  cases hLoop : messageLoop cursorOpenBody net (none, sent) with
  | mk outcome s' =>
      cases outcome with
      | ok ending =>
          rw [bind_of_ok hLoop] at h
          cases ending with
          | ready =>
              obtain ⟨_, hState⟩ := messageLoop_state orderly_cursorOpen hLoop rfl
              cases h
              exact ⟨rfl, hState⟩
          | serverError body =>
              simp only [bind_apply, onSnd_apply] at h
              revert h
              match drainServerError body net s'.2 with
              | (.ok _, _) => exact nofun
              | (.err _, _) => exact nofun
              | (.pending, _) => exact nofun
      | err e => simp [bind_apply, hLoop] at h
      | pending => simp [bind_apply, hLoop] at h

/-- The stream that `query_cursor_stream` makes of a cursor. -/
def Cursor.stream (cursor : Cursor) : CursorStream :=
  .new cursor.portalName cursor.columns cursor.fetchSize cursor.ownsTransaction

section Opened

variable {net : Network} {conn : Connection} {cursor : Cursor}

/-- Fetching in batches and fetching row by row return the same rows, those of the server in
its order; then both return nothing, without a round trip. A cursor says that it is done once
all messages of the server have been read. -/
theorem cursor_rows (net : Network) (opening conn : Connection) (sql : String)
    (params : List ToSql) (fetchSize : Int32) (cursor : Cursor) (batches : List PortalBatch)
    (data : List (List (Option Bytes))) (tag : Option String) (status : UInt8)
    (hOpen : queryCursor sql params fetchSize net opening = (.ok cursor, conn))
    (hServes : Serves net cursor.request conn.transport batches (.complete data tag status))
    (n : Nat) :
    (∃ s', Cursor.fetches n net (cursor, conn) =
        (.ok ((portalRows cursor.columns batches data ++ List.replicate n []).take n), s') ∧
      s'.1.done = decide (batches.length < n) ∧
      s'.2.transport =
        roundTrips net cursor.request (min n (batches.length + 1)) conn.transport) ∧
    ∀ fuel, batches.length < fuel → ∃ s' read, CursorStream.calls fuel n net (cursor.stream, conn) =
        (.ok (((((portalRows cursor.columns batches data).flatten.map some) ++
          List.replicate n none).take n).map .ok), s') ∧
      read ≤ batches.length + 1 ∧
      s'.2.transport = roundTrips net cursor.request read conn.transport ∧
      s'.1.isDone = decide (read = batches.length + 1) ∧
      (s'.1.commandTag = if read = batches.length + 1 then some (.ofBody tag) else none) ∧
      ((portalRows cursor.columns batches data).flatten.length < n → s'.1.isDone = true) := by
  obtain ⟨hDone, hIdle⟩ := opened_of_queryCursor hOpen
  refine ⟨Cursor.fetches_serves hServes hDone hIdle n, ?_⟩
  intro fuel hFuel
  have hAhead : CursorStream.Ahead net cursor.request cursor.columns data tag status conn.transport
      (batches.length + 1) (cursor.stream, conn) (portalRows cursor.columns batches data).flatten :=
    .running (n := 0) ⟨rfl, hIdle, rfl, rfl, hServes⟩ rfl (by omega)
  obtain ⟨s', hCalls, hAhead', hOver⟩ :=
    CursorStream.calls_ahead hAhead (Nat.zero_lt_of_lt hFuel) hFuel n
  obtain ⟨read, hLe, hRead, hIsDone, hTag⟩ := hAhead'.read
  exact ⟨s', read, hCalls, hLe, hRead, hIsDone, hTag, hOver⟩

end Opened

def FrontendMessage.isExecute : FrontendMessage → Bool
  | .execute _ _ => true
  | _ => false

/-- A server that has two answers to Execute: one for the first, and one for all others. -/
def paged (first later : List BackendMessage) : Network where
  frontend := fun _ => .ok []
  frontendTotal := fun _ => []
  typeFromOid := fun _ => none
  answer := fun history message =>
    let reply : List BackendMessage := match message with
      | .query _ => [.commandComplete (some "BEGIN"), .readyForQuery 84]
      | .parse _ _ _ => [.parseComplete]
      | .bind _ _ _ _ _ => [.bindComplete]
      | .describe _ _ => [.noData]
      | .execute _ _ => if history.any FrontendMessage.isExecute then later else first
      | .sync => [.readyForQuery 84]
      | _ => []
    ⟨reply.map .ok, none⟩
  writeError := fun _ => none
  flushError := fun _ => none

def inTransaction : Connection := { Connection.new with transactionStatus := .inTransaction }

/-- A cursor that is opened on that server. -/
def openedOn (first later : List BackendMessage) (sql : String) : Cursor × Connection :=
  match queryCursor sql [] 1 (paged first later) inTransaction with
  | (.ok cursor, conn) => (cursor, conn)
  | (_, conn) => (⟨"", [], 1, true, false⟩, conn)

theorem opened_paged (first later : List BackendMessage) (sql : String) :
    queryCursor sql [] 1 (paged first later) inTransaction =
      (.ok (openedOn first later sql).1, (openedOn first later sql).2) := by
  obtain ⟨cursor, conn, hOpen⟩ : ∃ cursor conn,
      queryCursor sql [] 1 (paged first later) inTransaction = (.ok cursor, conn) := ⟨_, _, rfl⟩
  rw [openedOn, hOpen]

/-- One row, the portal suspended behind it, and then no more rows. -/
theorem cursor_rows_paged :
    ∃ s', Cursor.fetches 3 (paged [.dataRow (.ok [some [49]]), .portalSuspended]
        [.commandComplete (some "SELECT 1")])
        (openedOn [.dataRow (.ok [some [49]]), .portalSuspended]
          [.commandComplete (some "SELECT 1")] "SELECT 1") =
      (.ok [[⟨[], [some [49]]⟩], [], []], s') := by
  obtain ⟨⟨s', hFetches, -⟩, -⟩ := cursor_rows
    (paged [.dataRow (.ok [some [49]]), .portalSuspended] [.commandComplete (some "SELECT 1")])
    inTransaction _ "SELECT 1" [] 1 _ [⟨[[some [49]]], 84⟩] [] (some "SELECT 1") 84
      (opened_paged _ _ _)
    (.batch ⟨rfl, by rfl⟩ (.last ⟨rfl, by rfl⟩)) 3
  exact ⟨s', hFetches⟩

/-- Every call of `next` returns, after finitely many round trips. -/
def StreamReturns (net : Network) (cursor : Cursor) (conn : Connection) : Prop :=
  ∀ n, ∃ fuel, (CursorStream.calls fuel n net (cursor.stream, conn)).1 ≠ .pending

/-- The loop that fetches until the cursor is done comes to its end. -/
def LoopEnds (net : Network) (cursor : Cursor) (conn : Connection) : Prop :=
  ∃ fuel, (Cursor.fetchWhile fuel net (cursor, conn)).1 ≠ .pending

/-- Iteration comes to its end if and only if the server says that the portal is at its end. -/
theorem terminates_iff (net : Network) (opening conn : Connection) (sql : String)
    (params : List ToSql) (fetchSize : Int32) (cursor : Cursor) (batches : List PortalBatch)
    (last : PortalEnd) (hOpen : queryCursor sql params fetchSize net opening = (.ok cursor, conn))
    (hServes : Serves net cursor.request conn.transport batches last) :
    (StreamReturns net cursor conn ↔ last.closes = true) ∧
      (LoopEnds net cursor conn ↔ last.closes = true) := by
  obtain ⟨hDone, hIdle⟩ := opened_of_queryCursor hOpen
  have hRunning : CursorStream.Running net cursor.stream.request cursor.stream.columns last
      (cursor.stream, conn) batches := ⟨rfl, hIdle, rfl, rfl, hServes⟩
  refine ⟨⟨?_, ?_⟩, ⟨?_, ?_⟩⟩
  · intro hReturns
    by_contra hOpenEnd
    obtain ⟨fuel, hCalls⟩ := hReturns (cursor.stream.rowsLeft batches + 1)
    exact hCalls (CursorStream.calls_endless (Bool.eq_false_iff.mpr hOpenEnd) hRunning fuel
      (Nat.lt_succ_self _))
  · intro hCloses n
    obtain ⟨results, s', hCalls⟩ := CursorStream.calls_finite hCloses
      (.running hRunning (Nat.lt_succ_self _)) (Nat.le_refl _) (Nat.succ_pos _) n
    exact ⟨batches.length + 1, by rw [hCalls]; exact nofun⟩
  · intro ⟨fuel, hEnds⟩
    by_contra hOpenEnd
    exact hEnds (Cursor.fetchWhile_endless hServes
      (Bool.eq_false_iff.mpr hOpenEnd) hDone hIdle fuel)
  · exact fun hCloses => Cursor.fetchWhile_ends hServes hCloses hDone hIdle

theorem terminates_paged :
    StreamReturns (paged [.dataRow (.ok [some [49]]), .portalSuspended]
        [.commandComplete (some "SELECT 1")])
      (openedOn [.dataRow (.ok [some [49]]), .portalSuspended]
        [.commandComplete (some "SELECT 1")] "SELECT 1").1
      (openedOn [.dataRow (.ok [some [49]]), .portalSuspended]
        [.commandComplete (some "SELECT 1")] "SELECT 1").2 := by
  have hBoth := terminates_iff
    (paged [.dataRow (.ok [some [49]]), .portalSuspended] [.commandComplete (some "SELECT 1")])
    inTransaction _ "SELECT 1" [] 1 _ [⟨[[some [49]]], 84⟩] (.complete [] (some "SELECT 1") 84)
    (opened_paged _ _ _) (.batch ⟨rfl, by rfl⟩ (.last ⟨rfl, by rfl⟩))
  exact hBoth.1.mpr rfl

theorem reliable_paged (first later : List BackendMessage) : (paged first later).Reliable where
  encodes := by
    intro message
    cases message <;> exact ⟨_, rfl⟩
  writes := fun _ => rfl
  flushes := fun _ => rfl

/-- A server whose statements are all empty. -/
def emptyNetwork : Network := paged [.emptyQueryResponse] [.emptyQueryResponse]

theorem exchanged_empty (portalName : String) (fetchSize : Int32) (history : List FrontendMessage) :
    sendBatch (portalRequest portalName fetchSize) emptyNetwork
        { Connection.new with transport := ⟨[], history, [], none⟩ } =
      (.ok (), { Connection.new with transport :=
        ⟨[], .sync :: .execute portalName fetchSize :: history,
          [.ok .emptyQueryResponse, .ok (.readyForQuery 84)], none⟩ }) := by
  have hSend := sendBatch_reliable (reliable_paged [.emptyQueryResponse] [.emptyQueryResponse])
    .new ⟨[], history, [], none⟩ (portalRequest portalName fetchSize)
  rw [Transport.flushed_of_nil rfl] at hSend
  rw [emptyNetwork, hSend]
  simp [portalRequest, Transport.deliver, paged]

/-- An empty statement is executed again and again. -/
theorem concludes_empty (portalName : String) (fetchSize : Int32) (history : List FrontendMessage) :
    Concludes emptyNetwork (portalRequest portalName fetchSize) ⟨[], history, [], none⟩ .empty := by
  have hTrips : ∀ n, ∃ later, roundTrips emptyNetwork (portalRequest portalName fetchSize) n
      ⟨[], history, [], none⟩ = ⟨[], later, [], none⟩ := by
    intro n
    induction n with
    | zero => exact ⟨history, rfl⟩
    | succ n ih =>
        obtain ⟨later, hTrips⟩ := ih
        rw [roundTrips_succ', hTrips, exchanged, exchanged_empty]
        exact ⟨_, rfl⟩
  intro n
  obtain ⟨later, hTrips⟩ := hTrips n
  rw [hTrips]
  refine ⟨84, ?_, ?_⟩
  · rw [exchanged_empty]
  · rw [exchanged, exchanged_empty]
    rfl

/-- With an empty statement no call of `next` returns, and the loop does not end. -/
theorem empty_endless :
    ¬ ∀ net opening conn sql params fetchSize cursor batches last,
      queryCursor sql params fetchSize net opening = (.ok cursor, conn) →
      Serves net cursor.request conn.transport batches last →
      StreamReturns net cursor conn ∧ LoopEnds net cursor conn := by
  intro hAll
  obtain ⟨-, fuel, hEnds⟩ := hAll emptyNetwork inTransaction
    (openedOn [.emptyQueryResponse] [.emptyQueryResponse] "").2 "" [] 1
    (openedOn [.emptyQueryResponse] [.emptyQueryResponse] "").1 [] .empty (opened_paged _ _ _)
    (.last (concludes_empty _ _ _))
  have hServes : Serves emptyNetwork
      (openedOn [.emptyQueryResponse] [.emptyQueryResponse] "").1.request
      (openedOn [.emptyQueryResponse] [.emptyQueryResponse] "").2.transport [] .empty :=
    .last (concludes_empty _ _ _)
  exact hEnds (Cursor.fetchWhile_endless hServes rfl rfl rfl fuel)

end PgClient
