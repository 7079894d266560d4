import PgClient.Copy.CsvReader
import PgClient.Copy.Transfer
import PgClient.Deadlock.Answers
import PgClient.Pairing.Session

/-!
What the client is given in the course of a COPY to it: the data of the server's answer, chunk
by chunk, in order and once. Every reader of the chunks computes a function of that data.
-/

namespace PgClient

open Drive Async Transport Connection

namespace Entry

/-- The data of a COPY that is in a message. -/
def data? : Entry → Option Bytes
  | .ok (.copyData data) => some data
  | _ => none

end Entry

/-- The data of a COPY in what a server sends. -/
def dataOf (entries : List Entry) : List Bytes := entries.filterMap Entry.data?

theorem dataOf_append (first later : List Entry) :
    dataOf (first ++ later) = dataOf first ++ dataOf later := by
  simp [dataOf]

theorem dataOf_eq_nil {entries : List Entry} (h : ∀ entry ∈ entries, entry.data? = none) :
    dataOf entries = [] := by
  simpa [dataOf, List.filterMap_eq_nil_iff] using h

theorem data?_of_isAsync {entry : Entry} (h : entry.isAsync) : entry.data? = none := by
  cases entry with
  | error e => rfl
  | ok message => cases message <;> first | rfl | cases h

namespace CopyOut

variable {net : Network} {s s' s'' : CopyOut × Connection} {chunk : Bytes} {chunks : List Bytes}

section Reads

/-- What `read_next` passes. -/
def Skipped (entry : Entry) : Prop :=
  ∃ message, entry = .ok message ∧ message.isReady = false ∧ message.isError = false ∧
    entry.data? = none

/-- Where it stops. -/
def AtEvent : Except PgError Event → BackendMessage → CopyOut → CopyOut → Prop
  | .ok (.chunk data), message, copy, copy' => message = .copyData data ∧ copy' = copy
  | .ok .finished, message, _, copy' => (∃ status, message = .readyForQuery status) ∧ copy'.done
  | .ok (.serverError body), message, _, _ => message = .errorResponse body
  | .error _, _, _, _ => False

theorem sifts_read : Sifts (fun copy _ => copy) Skipped AtEvent readBody := by
  intro copy conn message
  simp only [readBody, asyncFirst]
  cases hAsync : conn.handleAsyncMessage message with
  | some conn' =>
      have hKind : message.isAsync := by rw [← handleAsyncMessage_isSome conn, hAsync]; rfl
      cases message <;> first | exact ⟨rfl, _, rfl, rfl, rfl, rfl⟩ | cases hKind
  | none =>
      cases message with
      | copyData data => exact ⟨rfl, rfl⟩
      | readyForQuery status => exact ⟨⟨status, rfl⟩, rfl⟩
      | errorResponse body => exact rfl
      | _ => exact ⟨rfl, _, rfl, rfl, rfl, rfl⟩

theorem dataOf_skipped {entries : List Entry} (h : ∀ entry ∈ entries, Skipped entry) :
    dataOf entries = [] :=
  dataOf_eq_nil fun entry hMem => by
    obtain ⟨_, -, -, -, hNone⟩ := h entry hMem
    exact hNone

theorem readNext_ok {next : Option Bytes} (h : readNext net s = (.ok next, s')) :
    messageLoop readBody net s = (.ok (next.elim .finished .chunk), s') := by
  obtain ⟨event, s₁, hLoop, h⟩ := ok_of_bind h
  cases event with
  | chunk data | finished =>
      cases h
      exact hLoop
  | serverError body =>
      obtain ⟨_, s₂, -, h⟩ := ok_of_bind h
      obtain ⟨_, s₃, -, h⟩ := ok_of_bind h
      cases h

/-- A chunk is the first data that is unread. -/
theorem readNext_some (h : readNext net s = (.ok (some chunk), s')) :
    s'.1 = s.1 ∧ ∃ taken, s.2.transport.inbox =
      taken ++ .ok (.copyData chunk) :: s'.2.transport.inbox ∧ ∀ entry ∈ taken, Skipped entry := by
  obtain ⟨taken, message, hInbox, hTaken, rfl, hSame⟩ := sifted_of_ok sifts_read (readNext_ok h)
  rw [List.foldl_fixed] at hSame
  exact ⟨hSame, taken, hInbox, hTaken⟩

/-- The end comes where nothing is unread before the end of the reply. -/
theorem readNext_none (h : readNext net s = (.ok none, s')) :
    s'.1.done ∧ ∃ taken status, s.2.transport.inbox =
      taken ++ .ok (.readyForQuery status) :: s'.2.transport.inbox ∧
        ∀ entry ∈ taken, Skipped entry := by
  obtain ⟨taken, message, hInbox, hTaken, ⟨status, rfl⟩, hDone⟩ :=
    sifted_of_ok sifts_read (readNext_ok h)
  exact ⟨hDone, taken, status, hInbox, hTaken⟩

theorem dataOf_of_some (h : readNext net s = (.ok (some chunk), s')) :
    dataOf s.2.transport.inbox = chunk :: dataOf s'.2.transport.inbox := by
  obtain ⟨-, taken, hInbox, hTaken⟩ := readNext_some h
  rw [hInbox, dataOf_append, dataOf_skipped hTaken]
  rfl

theorem dataOf_of_none (h : readNext net s = (.ok none, s')) :
    dataOf s.2.transport.inbox = dataOf s'.2.transport.inbox := by
  obtain ⟨-, taken, status, hInbox, hTaken⟩ := readNext_none h
  rw [hInbox, dataOf_append, dataOf_skipped hTaken]
  rfl

/-- A reply that can be read to its end. -/
def Complete (entries : List Entry) : Prop :=
  (∀ entry ∈ entries, entry.wellFormed ∧ entry.isError = false) ∧ HasReady entries

theorem Complete.later {taken rest : List Entry} {entry : Entry}
    (h : Complete (taken ++ entry :: rest)) (hTaken : ∀ e ∈ taken, e.isReady = false)
    (hEntry : entry.isReady = false) : Complete rest := by
  refine ⟨fun e hMem => h.1 e (List.mem_append_right _ (List.mem_cons_of_mem _ hMem)), ?_⟩
  obtain ⟨e, hMem, hReady⟩ := h.2
  obtain hOld | hNew := List.mem_append.mp hMem
  · rw [hTaken e hOld] at hReady
    cases hReady
  · obtain rfl | hLater := List.mem_cons.mp hNew
    · rw [hEntry] at hReady
      cases hReady
    · exact ⟨e, hLater, hReady⟩

theorem isReady_of_skipped {entry : Entry} (h : Skipped entry) : entry.isReady = false := by
  obtain ⟨message, rfl, hReady, -⟩ := h
  exact hReady

/-- On such a reply the read loop stops at a chunk or at the end. -/
theorem readNext_of_complete (net : Network) (h : Complete s.2.transport.inbox) :
    ∃ next s', readNext net s = (.ok next, s') := by
  cases hDrive : drive (readStep readBody) s s.2.transport.inbox with
  | waiting s₁ =>
      obtain ⟨-, hSkipped⟩ := drive_sifts sifts_read hDrive
      obtain ⟨entry, hMem, hReady⟩ := h.2
      rw [isReady_of_skipped (hSkipped entry hMem)] at hReady
      cases hReady
  | done result s₁ rest =>
      obtain ⟨taken, entry, hInbox, -, hFailed | hLast⟩ := drive_sifted sifts_read hDrive
      · obtain ⟨⟨e, rfl⟩, -⟩ := hFailed
        cases (h.1 (.error e) (hInbox ▸ List.mem_append_right _ List.mem_cons_self)).1
      · obtain ⟨message, rfl, hLast⟩ := hLast
        have hLoop : messageLoop readBody net s =
            (.ofExcept result, (s₁.1, s₁.2.setInbox rest)) := by rw [messageLoop, hDrive]
        cases result with
        | error e => exact hLast.elim
        | ok event =>
            cases event with
            | chunk data => exact ⟨some data, _, bind_of_ok hLoop⟩
            | finished => exact ⟨none, _, bind_of_ok hLoop⟩
            | serverError body =>
                cases hLast
                cases (h.1 _ (hInbox ▸ List.mem_append_right _ List.mem_cons_self)).2

end Reads

section Runs

/-- Calls of `read_next` that return chunks. -/
inductive Reads (net : Network) :
    CopyOut × Connection → List Bytes → CopyOut × Connection → Prop where
  | nil (s : CopyOut × Connection) : Reads net s [] s
  | cons {s s' s'' : CopyOut × Connection} {chunk : Bytes} {chunks : List Bytes}
      (hRead : readNext net s = (.ok (some chunk), s')) (hReads : Reads net s' chunks s'') :
      Reads net s (chunk :: chunks) s''

theorem Reads.dataOf_eq (h : Reads net s chunks s') :
    dataOf s.2.transport.inbox = chunks ++ dataOf s'.2.transport.inbox := by
  induction h with
  | nil => rfl
  | cons hRead _ ih => rw [dataOf_of_some hRead, ih, List.cons_append]

theorem Reads.length_le (h : Reads net s chunks s') :
    chunks.length ≤ s.2.transport.inbox.length := by
  have hData := congrArg List.length h.dataOf_eq
  rw [List.length_append] at hData
  have hLength : (dataOf s.2.transport.inbox).length ≤ s.2.transport.inbox.length :=
    List.length_filterMap_le ..
  omega

theorem Reads.mid {server : Server net} (h : Reads net s chunks s') (hMid : Mid server s.2) :
    Mid server s'.2 := by
  induction h with
  | nil => exact hMid
  | cons hRead _ ih =>
      have hNext := @triple_readNext net server _ hMid
      rw [hRead] at hNext
      exact ih hNext

/-- A reply that can be read to its end is read to its end. -/
theorem reads_of_complete (net : Network) (h : Complete s.2.transport.inbox) :
    ∃ chunks s' s'', Reads net s chunks s' ∧ readNext net s' = (.ok none, s'') := by
  -- Every chunk takes a message from the inbox.
  induction hUnread : s.2.transport.inbox.length using Nat.strong_induction_on generalizing s with
  | _ unread ih =>
      obtain ⟨next, s', hRead⟩ := readNext_of_complete net h
      cases next with
      | none => exact ⟨[], s, s', .nil s, hRead⟩
      | some chunk =>
          obtain ⟨-, taken, hInbox, hTaken⟩ := readNext_some hRead
          have hShorter : s'.2.transport.inbox.length < unread := by
            rw [← hUnread, hInbox, List.length_append, List.length_cons]
            omega
          have hLater : Complete s'.2.transport.inbox := by
            rw [hInbox] at h
            exact h.later (fun e hMem => isReady_of_skipped (hTaken e hMem)) rfl
          obtain ⟨chunks, s₁, s₂, hReads, hEnd⟩ := ih _ hShorter hLater rfl
          exact ⟨chunk :: chunks, s₁, s₂, .cons hRead hReads, hEnd⟩

variable {α : Type} {f : α → Bytes → Except PgError α} {a b : α}

/-- A loop that returns has made the calls up to the end of the reply. -/
theorem reads_of_chunkLoop {fuel : Nat} (h : chunkLoop f fuel a net s = (.ok b, s')) :
    ∃ chunks s₁, Reads net s chunks s₁ ∧ readNext net s₁ = (.ok none, s') ∧
      chunks.foldlM f a = .ok b := by
  induction fuel generalizing a s with
  | zero => cases h
  | succ fuel ih =>
      obtain ⟨next, s₁, hRead, h⟩ := ok_of_bind h
      cases next with
      | none =>
          cases h
          exact ⟨[], s, .nil s, hRead, rfl⟩
      | some chunk =>
          obtain ⟨a₁, s₂, hCall, hLoop⟩ := ok_of_bind h
          cases hResult : f a chunk with
          | error e =>
              rw [hResult] at hCall
              cases hCall
          | ok a₂ =>
              rw [hResult] at hCall
              cases hCall
              obtain ⟨chunks, s₃, hReads, hEnd, hFold⟩ := ih hLoop
              refine ⟨chunk :: chunks, s₃, .cons hRead hReads, hEnd, ?_⟩
              rw [List.foldlM_cons, hResult]
              exact hFold

/-- What a loop makes of the chunks up to the end of the reply. -/
theorem chunkLoop_of_reads (hReads : Reads net s chunks s')
    (hEnd : readNext net s' = (.ok none, s'')) {fuel : Nat} (hFuel : chunks.length < fuel) (a : α) :
    (chunkLoop f fuel a net s).1 = .ofExcept (chunks.foldlM f a) := by
  induction hReads generalizing fuel a with
  | nil =>
      obtain ⟨fuel, rfl⟩ := Nat.exists_eq_succ_of_ne_zero (Nat.ne_of_gt hFuel)
      rw [chunkLoop, bind_of_ok hEnd]
      rfl
  | @cons _ _ _ chunk chunks hRead _ ih =>
      obtain ⟨fuel, rfl⟩ := Nat.exists_eq_succ_of_ne_zero (Nat.ne_of_gt (Nat.zero_lt_of_lt hFuel))
      rw [chunkLoop, bind_of_ok hRead, List.foldlM_cons]
      cases hResult : f a chunk with
      | error e => simp only [bind_apply, hResult, lift_error_apply]; rfl
      | ok a₁ =>
          dsimp only
          rw [bind_of_ok (by rw [hResult]; exact lift_ok_apply ..)]
          exact ih hEnd (Nat.lt_of_succ_lt_succ hFuel) a₁

end Runs

section Lines

/-- One chunk in the loop of `for_each_row` and `for_each_csv_row`. -/
def lineStep (parse : List Char → List String) (f : Copy.Callback)
    (state : List Char × List (List String)) (chunk : Bytes) :
    Except PgError (List Char × List (List String)) :=
  let (lines, rest) := Copy.completeLines (state.1 ++ LossyUtf8.decode chunk)
  (Copy.callLines parse f state.2 lines).map fun seen => (rest, seen)

theorem lineLoop_eq (parse : List Char → List String) (f : Copy.Callback) (fuel : Nat)
    (buffer : List Char) (seen : List (List String)) :
    lineLoop parse f fuel buffer seen = chunkLoop (lineStep parse f) fuel (buffer, seen) := by
  induction fuel generalizing buffer seen with
  | zero => rfl
  | succ fuel ih =>
      rw [lineLoop, chunkLoop]
      congr 1
      funext next
      cases next with
      | none => rfl
      | some chunk =>
          funext r s
          simp only [lineStep, bind_apply]
          cases Copy.callLines parse f seen
              (Copy.completeLines (buffer ++ LossyUtf8.decode chunk)).1 with
          | error e => rfl
          | ok seen' => exact congrFun (congrFun (ih _ seen') r) s

/-- What is left in the buffer is a last line. -/
theorem forEachLine_of_whileNext {parse : List Char → List String} {f : Copy.Callback}
    {result : Except PgError (List Char × List (List String))}
    (h : (whileNext (lineStep parse f) ([], []) net s).1 = .ofExcept result) :
    (forEachLine parse f net s).1 = .ofExcept (result >>= fun state =>
      Copy.callLines parse f state.2 [Copy.trimEnd state.1]) := by
  have hRun : forEachLine parse f net s = (whileNext (lineStep parse f) ([], []) >>= fun state =>
      (.lift (Copy.callLines parse f state.2 [Copy.trimEnd state.1]) :
        Owner CopyOut (List (List String)))) net s := by
    simp only [forEachLine, whileNext, lineLoop_eq]
    rfl
  rw [hRun, bind_apply]
  revert h
  cases whileNext (lineStep parse f) ([], []) net s with
  | mk outcome s' =>
      rintro rfl
      cases result with
      | error e => rfl
      | ok state =>
          show (Async.lift (Copy.callLines parse f state.2 [Copy.trimEnd state.1]) net s').1 =
            .ofExcept (Copy.callLines parse f state.2 [Copy.trimEnd state.1])
          cases Copy.callLines parse f state.2 [Copy.trimEnd state.1] <;> rfl

end Lines

end CopyOut

namespace Connection

section Opening

variable {net : Network} {sql : String} {conn conn' : Connection} {copy : CopyOut}

/-- Where the opening loop of a COPY to the client stops, if it is to go on. -/
def AtStart : Except PgError CopyStart → BackendMessage → Unit → Unit → Prop
  | .ok (.response _ _), message, _, _ => ∃ body, message = .copyOutResponse body
  | _, _, _, _ => True

theorem sifts_copyStart :
    Sifts (fun l _ => l) (fun entry => entry.isAsync) AtStart (copyStartBody copyOutResponse) := by
  intro l conn message
  simp only [copyStartBody, asyncFirst]
  cases hAsync : conn.handleAsyncMessage message with
  | some conn' =>
      have hKind : message.isAsync := by rw [← handleAsyncMessage_isSome conn, hAsync]; rfl
      exact ⟨trivial, hKind⟩
  | none =>
      cases message with
      | copyOutResponse body =>
          simp only [copyOutResponse]
          cases ioResult body.columnFormats with
          | ok columnFormats => exact ⟨body, rfl⟩
          | error e => trivial
      | _ => trivial

/-- A COPY to the client that has been opened: its query has been sent, and what came of the
answer before its response were asynchronous messages. -/
theorem opened_of_copyOut (h : copyOut sql net conn = (.ok copy, conn')) :
    conn.state = .idle ∧ ∃ taken body,
      ((conn.transport.flushed net).deliver net (.query sql)).inbox =
        taken ++ .ok (.copyOutResponse body) :: conn'.transport.inbox ∧
      ∀ entry ∈ taken, entry.isAsync := by
  obtain ⟨start, conn₃, hStart, hCopy⟩ := ok_of_bind h
  obtain ⟨_, conn₁, hTransition, hStart⟩ := ok_of_bind hStart
  obtain ⟨_, conn₂, hSend, hRead⟩ := ok_of_bind hStart
  cases hCopy
  have hIdle := idle_of_transition rfl hTransition
  have hSent := congrArg Connection.transport (sent_of_send net conn₁ hSend)
  rw [transport_of_transition hTransition] at hSent
  obtain ⟨event, s₁, hLoop, hRead⟩ := ok_of_bind hRead
  obtain ⟨l, hLoop⟩ := ok_of_withLocal hLoop
  obtain ⟨taken, message, hInbox, hTaken, hLast⟩ := sifted_of_ok sifts_copyStart hLoop
  cases event with
  | response format columnFormats =>
      cases hRead
      obtain ⟨body, rfl⟩ := hLast
      refine ⟨hIdle, taken, body, ?_, hTaken⟩
      rw [← hInbox, hSent]
  | serverError body =>
      obtain ⟨_, s₂, -, hRead⟩ := ok_of_bind hRead
      cases hRead
  | unexpected =>
      obtain ⟨_, s₂, -, hRead⟩ := ok_of_bind hRead
      obtain ⟨_, s₃, -, hRead⟩ := ok_of_bind hRead
      cases hRead

/-- What is then unread is what the server has answered, up to asynchronous messages. -/
theorem unread_of_copyOut {server : Server net} (hGood : Good server conn)
    (h : copyOut sql net conn = (.ok copy, conn')) :
    ∃ before body, before ++ .ok (.copyOutResponse body) :: conn'.transport.inbox =
        (conn.transport.flushed net).inbox ++
          (net.answer (conn.arrival net) (.query sql)).messages ∧
      (∀ entry ∈ before, entry.isAsync) ∧ (conn.transport.flushed net).Settled server := by
  obtain ⟨hIdle, taken, body, hInbox, hTaken⟩ := opened_of_copyOut h
  have hSettled : conn.transport.Settled server := by
    cases hGood with
    | inr hBetween => exact hBetween.2 hIdle
    | inl hDead =>
        have hNone : ((conn.transport.flushed net).deliver net (.query sql)).inbox = [] :=
          hDead.answered [.query sql]
        rw [hInbox] at hNone
        cases taken <;> cases hNone
  have hFlushed : (conn.transport.flushed net).Settled server := hSettled.flushed
  obtain ⟨entries, hDeliver, hEntries⟩ :=
    Transport.deliver_inbox net (conn.transport.flushed net) (.query sql)
  rw [hInbox] at hDeliver
  obtain rfl | ⟨-, rfl⟩ := hEntries
  · rw [List.append_nil] at hDeliver
    have hResponse := hFlushed.inbox (.ok (.copyOutResponse body))
      (hDeliver ▸ List.mem_append_right _ List.mem_cons_self)
    cases hResponse
  · exact ⟨taken, body, hDeliver, hTaken, hFlushed⟩

theorem dataOf_of_copyOut {server : Server net} (hGood : Good server conn)
    (h : copyOut sql net conn = (.ok copy, conn')) :
    dataOf conn'.transport.inbox =
      dataOf (net.answer (conn.arrival net) (.query sql)).messages := by
  obtain ⟨before, body, hUnread, hBefore, hFlushed⟩ := unread_of_copyOut hGood h
  have hData := congrArg dataOf hUnread
  rw [dataOf_append, dataOf_append,
    dataOf_eq_nil fun entry hMem => data?_of_isAsync (hBefore entry hMem),
    dataOf_eq_nil fun entry hMem => data?_of_isAsync (hFlushed.inbox entry hMem)] at hData
  exact hData

/-- The rest of an answer without an error that comes to its end. -/
theorem complete_of_copyOut {server : Server net} (hNet : net.WellFormed)
    (hGood : Good server conn) (h : copyOut sql net conn = (.ok copy, conn'))
    (hClean : ∀ entry ∈ (net.answer (conn.arrival net) (.query sql)).messages,
      entry.isError = false)
    (hReady : HasReady (net.answer (conn.arrival net) (.query sql)).messages) :
    CopyOut.Complete conn'.transport.inbox := by
  obtain ⟨before, body, hUnread, hBefore, hFlushed⟩ := unread_of_copyOut hGood h
  refine ⟨fun entry hMem => ?_, ?_⟩
  · have hMem : entry ∈ before ++ .ok (.copyOutResponse body) :: conn'.transport.inbox :=
      List.mem_append_right _ (List.mem_cons_of_mem _ hMem)
    rw [hUnread] at hMem
    cases List.mem_append.mp hMem with
    | inl hOld =>
        refine ⟨hFlushed.tracked.wellFormed hNet entry hOld, Bool.eq_false_iff.mpr fun hError => ?_⟩
        exact Bool.noConfusion ((isAsync_of_isError hError).symm.trans (hFlushed.inbox entry hOld))
    | inr hNew => exact ⟨hNet _ _ entry hNew, hClean entry hNew⟩
  · obtain ⟨entry, hMem, hEntry⟩ := hReady
    have hMem : entry ∈ before ++ .ok (.copyOutResponse body) :: conn'.transport.inbox :=
      hUnread ▸ List.mem_append_right _ hMem
    obtain hAsync | hLater := List.mem_append.mp hMem
    · rw [not_ready_of_isAsync (hBefore entry hAsync)] at hEntry
      cases hEntry
    · obtain rfl | hLater := List.mem_cons.mp hLater
      · cases hEntry
      · exact ⟨entry, hLater, hEntry⟩

end Opening

end Connection

/-- What comes of a COPY to the client: its chunks are the data of the answer to its query.
Every loop over the chunks computes a function of them, and so do the loops over their lines;
an answer without an error that comes to its end is read to there. -/
structure CopyOut.Receives {net : Network} (server : Server net) (answer : Answer)
    (s : CopyOut × Connection) : Prop where
  chunks : ∀ chunks s', Reads net s chunks s' → chunks <+: dataOf answer.messages
  ended : ∀ chunks s' s'', Reads net s chunks s' → readNext net s' = (.ok none, s'') →
    chunks = dataOf answer.messages ∧ s''.1.done ∧ AtBoundary server s''.2
  loops : ∀ {α : Type} (f : α → Bytes → Except PgError α) (start a : α) s',
    whileNext f start net s = (.ok a, s') →
      (dataOf answer.messages).foldlM f start = .ok a ∧ s'.1.done ∧ AtBoundary server s'.2
  completes : (∀ entry ∈ answer.messages, entry.isError = false) → HasReady answer.messages →
    ∀ {α : Type} (f : α → Bytes → Except PgError α) (start : α),
      (whileNext f start net s).1 = .ofExcept ((dataOf answer.messages).foldlM f start)
  lines : (∀ entry ∈ answer.messages, entry.isError = false) → HasReady answer.messages →
    ∀ (parse : List Char → List String) (f : Copy.Callback),
      (forEachLine parse f net s).1 = .ofExcept (do
        let (buffer, seen) ← (dataOf answer.messages).foldlM (lineStep parse f) ([], [])
        Copy.callLines parse f seen [Copy.trimEnd buffer])

namespace CopyOut

variable {net : Network} {server : Server net} {s s' s'' : CopyOut × Connection}
  {chunks : List Bytes}

theorem ended_of_none (hNet : net.WellFormed) (hMid : Mid server s.2)
    (hReads : Reads net s chunks s') (hEnd : readNext net s' = (.ok none, s'')) :
    chunks = dataOf s.2.transport.inbox ∧ s''.1.done ∧ AtBoundary server s''.2 := by
  have hLast := @triple_readNext net server _ (hReads.mid hMid)
  rw [hEnd] at hLast
  obtain ⟨hDone, hBoundary⟩ : s''.1.done ∧ Done server s''.2 := hLast
  have hNothing : dataOf s''.2.transport.inbox = [] :=
    dataOf_eq_nil fun entry hMem =>
      data?_of_isAsync (hBoundary.boundary.settled.inbox entry hMem)
  refine ⟨?_, hDone, hBoundary.atBoundary hNet⟩
  rw [hReads.dataOf_eq, dataOf_of_none hEnd, hNothing, List.append_nil]

end CopyOut

namespace Session

variable {net : Network} {start conn conn' : Connection} {sql : String} {copy : CopyOut}

/-- Whatever calls have been made on a connection on which a COPY to the client is opened. -/
theorem receives_of_copyOut (server : Server net) (hNet : net.WellFormed) (hFresh : start.Fresh)
    (hReach : Reaches net ⟨.none, start⟩ ⟨.none, conn⟩)
    (hOpen : copyOut sql net conn = (.ok copy, conn')) :
    CopyOut.Receives server (net.answer (conn.arrival net) (.query sql)) (copy, conn') := by
  have hStart : Held server Handle.none start := hFresh.good
  have hGood : Good server conn :=
    held_of_reachesLegibly hStart (reachesLegibly_of_wellFormed hNet hStart hReach)
  have hMid : Mid server conn' := by
    have hOpened := @triple_copyOut net server sql conn hGood
    rw [hOpen] at hOpened
    exact hOpened
  have hData := dataOf_of_copyOut hGood hOpen
  have hCompletes : ∀ {α : Type} (f : α → Bytes → Except PgError α) (first : α),
      (∀ entry ∈ (net.answer (conn.arrival net) (.query sql)).messages, entry.isError = false) →
      HasReady (net.answer (conn.arrival net) (.query sql)).messages →
        (CopyOut.whileNext f first net (copy, conn')).1 = .ofExcept
          ((dataOf (net.answer (conn.arrival net) (.query sql)).messages).foldlM f first) := by
    intro α f first hClean hReady
    have hComplete := complete_of_copyOut hNet hGood hOpen hClean hReady
    obtain ⟨chunks, s₁, s₂, hReads, hEnd⟩ :=
      @CopyOut.reads_of_complete (copy, conn') net hComplete
    obtain ⟨rfl, -⟩ := CopyOut.ended_of_none hNet hMid hReads hEnd
    rw [← hData]
    exact CopyOut.chunkLoop_of_reads hReads hEnd (Nat.lt_succ_of_le hReads.length_le) first
  refine ⟨?_, ?_, ?_, fun hClean hReady _ f first => hCompletes f first hClean hReady, ?_⟩
  · intro chunks s' hReads
    rw [← hData]
    exact ⟨_, hReads.dataOf_eq.symm⟩
  · intro chunks s' s'' hReads hEnd
    rw [← hData]
    exact CopyOut.ended_of_none hNet hMid hReads hEnd
  · intro α f first a s' hLoop
    obtain ⟨_, _, hGet, hLoop⟩ := ok_of_bind hLoop
    cases hGet
    obtain ⟨chunks, s₁, hReads, hEnd, hFold⟩ := CopyOut.reads_of_chunkLoop hLoop
    obtain ⟨rfl, hEnded⟩ := CopyOut.ended_of_none hNet hMid hReads hEnd
    rw [← hData]
    exact ⟨hFold, hEnded⟩
  · intro hClean hReady parse f
    exact CopyOut.forEachLine_of_whileNext
      (hCompletes (CopyOut.lineStep parse f) ([], []) hClean hReady)

/-- A COPY of two chunks, in a loop that counts the bytes. -/
theorem receives_of_copyOut_twoChunks : ∃ copy conn',
    copyOut "COPY t TO STDOUT" CopyOutServer.network .new = (.ok copy, conn') ∧
      (CopyOut.whileNext (fun n chunk => .ok (n + chunk.length)) 0 CopyOutServer.network
        (copy, conn')).1 = .ok 3 := by
  have hOpen : copyOut "COPY t TO STDOUT" CopyOutServer.network .new =
    (.ok { format := 0, columnFormats := [], done := false }, _) := rfl
  have hReceives := receives_of_copyOut CopyOutServer.server CopyOutServer.wellFormed
    ⟨rfl, rfl⟩ .start hOpen
  have hClean : ∀ entry ∈ (CopyOutServer.network.answer
      (Connection.new.arrival CopyOutServer.network) (.query "COPY t TO STDOUT")).messages,
      entry.isError = false := by decide
  have hReady : HasReady (CopyOutServer.network.answer
      (Connection.new.arrival CopyOutServer.network) (.query "COPY t TO STDOUT")).messages :=
    ⟨.ok (.readyForQuery 73), by decide, rfl⟩
  exact ⟨_, _, hOpen, hReceives.completes hClean hReady _ 0⟩

end Session

namespace CopyOut

section Readers

variable {net : Network} {server : Server net} {answer : Answer} {s : CopyOut × Connection}

/-- `read_all` returns all of the data. -/
theorem readAll_of_receives (h : Receives server answer s)
    (hClean : ∀ entry ∈ answer.messages, entry.isError = false)
    (hReady : HasReady answer.messages) :
    (readAll net s).1 = .ok (dataOf answer.messages).flatten := by
  have hFold : ∀ (chunks : List Bytes) (result : Bytes),
      chunks.foldlM (m := Except PgError) (fun result chunk => .ok (result ++ chunk)) result =
        .ok (result ++ chunks.flatten) := by
    intro chunks
    induction chunks with
    | nil =>
        intro result
        rw [List.flatten_nil, List.append_nil]
        rfl
    | cons chunk chunks ih =>
        intro result
        rw [List.foldlM_cons, List.flatten_cons, ← List.append_assoc]
        exact ih (result ++ chunk)
  rw [readAll, h.completes hClean hReady, hFold]
  rfl

end Readers

end CopyOut
end PgClient
