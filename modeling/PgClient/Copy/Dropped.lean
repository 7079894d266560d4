import PgClient.Copy.SyncDrain
import PgClient.Protocol.CopyServer

/-!
What becomes of a connection on a plain native socket when a COPY on it is dropped unfinished:
when the drop recovers it, and when it leaves it out of step with the server.
-/

namespace PgClient

open Codec Framing SyncDrain

/-- A `ReadyForQuery` at a message boundary, after the first `offset` bytes of a stream. -/
def ReadyAt (stream : Bytes) (offset : Nat) : Prop :=
  ∃ frames status rest, stream = List.flatten frames ++ (readyForQuery status ++ rest) ∧
    (∀ frame ∈ frames, IsFrame parseFrame frame frame) ∧ isStatus status = true ∧
    offset = (List.flatten frames).length

namespace NativeConnection

def reads (conn : NativeConnection) : List Chunk := conn.transport.inner.incoming.reads

/-- What has been read off the socket, and has not been read as messages. -/
def buffered (conn : NativeConnection) : Bytes := conn.codec.inner ++ conn.transport.available

/-- All that the server has still to say. -/
def stream (conn : NativeConnection) : Bytes := conn.buffered ++ bytesOf conn.reads

end NativeConnection

/-- What a COPY is held by. -/
inductive Transfer where
  | copyIn (copy : CopyIn)
  | copyOut (copy : CopyOut)

namespace Transfer

def done : Transfer → Bool
  | copyIn copy => copy.done
  | copyOut copy => copy.done

/-- The state of the connection while the COPY runs. -/
def state : Transfer → ConnectionState
  | copyIn _ => .copyIn
  | copyOut _ => .copyOut

def drop (net : Network) (panicking : Bool) (conn : NativeConnection) :
    Transfer → Option NativeConnection
  | copyIn copy => conn.dropCopyIn net panicking copy
  | copyOut copy => conn.dropCopyOut panicking copy

/-- Whether the drop comes to searching the socket: a panic keeps it from that, and a
`CopyFail` that cannot be written. -/
def searches (net : Network) (panicking : Bool) (conn : NativeConnection) : Transfer → Bool
  | copyIn _ =>
      !panicking &&
        match net.encode (.copyFail NativeConnection.dropReason) with
        | .ok data => conn.transport.inner.accepts data
        | .error _ => false
  | copyOut _ => !panicking

end Transfer

/-- A COPY that has begun and has not ended, on its connection. -/
structure Unfinished where
  transfer : Transfer
  conn : NativeConnection
  unfinished : transfer.done = false
  running : conn.state = transfer.state

namespace Unfinished

def drop (net : Network) (panicking : Bool) (copy : Unfinished) : Option NativeConnection :=
  copy.transfer.drop net panicking copy.conn

def searches (net : Network) (panicking : Bool) (copy : Unfinished) : Bool :=
  copy.transfer.searches net panicking copy.conn

/-- A drop recovers a connection soundly: it is left idle only with a `ReadyForQuery` read off
the socket and nothing in the buffers, and one that the server sends is found. -/
structure Recovers (net : Network) (panicking : Bool) (copy : Unfinished) : Prop where
  idle : ∀ conn', copy.drop net panicking = some conn' → conn'.state = .idle →
    conn'.buffered = [] ∧ ∃ taken offset, copy.conn.reads = taken ++ conn'.reads ∧
      ReadyAt copy.conn.stream offset ∧ copy.conn.buffered.length ≤ offset ∧
      offset + 6 ≤ copy.conn.buffered.length + (bytesOf taken).length
  finds : copy.searches net panicking = true → (∃ offset, ReadyAt copy.conn.stream offset) →
    copy.conn.trySyncDrainUntilReady.map Prod.fst = some true

/-- Nothing is buffered, and with the read that seems to complete a `ReadyForQuery` there
comes a real one. -/
def Finds (conn : NativeConnection) : Prop :=
  conn.buffered = [] ∧ ∃ taken after offset, conn.reads = taken ++ after ∧ Matches [] taken ∧
    ReadyAt (bytesOf conn.reads) offset ∧ offset + 6 ≤ (bytesOf taken).length

/-- There is no `ReadyForQuery`, and none is taken for one; a `CopyIn` has to wait for it. -/
def Misses (copy : Unfinished) : Prop :=
  (∀ offset, ¬ ReadyAt copy.conn.stream offset) ∧
    match copy.transfer with
    | .copyIn _ => copy.conn.transport.inner.incoming.ending = .waiting ∧
        (bytesOf copy.conn.reads).length ≤ safetyLimit ∧
        ¬ LooksReady (bytesOf copy.conn.reads)
    | .copyOut _ => ∀ taken after, copy.conn.reads = taken ++ after → ¬ Matches [] taken

end Unfinished

section Drops

variable {net : Network} {panicking : Bool} {conn : NativeConnection} {after : List Chunk}

namespace NativeConnection

/-- How the search of the socket ends, and the reads that it leaves. -/
def search (conn : NativeConnection) : Option (Bool × List Chunk) :=
  drainLoop conn.transport.inner.incoming.ending [] conn.reads

theorem search_found :
    conn.search = some (true, after) ↔ ∃ taken, conn.reads = taken ++ after ∧ Matches [] taken :=
  drainLoop_found not_looksReady_nil

theorem search_blocks :
    conn.search = none ↔ conn.transport.inner.incoming.ending = .waiting ∧
      (bytesOf conn.reads).length ≤ safetyLimit ∧ ¬ LooksReady (bytesOf conn.reads) :=
  drainLoop_blocks not_looksReady_nil (Nat.zero_le _)

def withReads (reads : List Chunk) (conn : NativeConnection) : NativeConnection :=
  { conn with transport.inner.incoming.reads := reads }

theorem trySyncDrainUntilReady_eq (conn : NativeConnection) :
    conn.trySyncDrainUntilReady =
      conn.search.map fun (found, reads) => (found, conn.withReads reads) := rfl

def wrote (data : Bytes) (conn : NativeConnection) : NativeConnection :=
  { conn with transport.inner.written := conn.transport.inner.written ++ data }

theorem trySyncWriteAndFlush_eq (data : Bytes) (conn : NativeConnection) :
    conn.trySyncWriteAndFlush data =
      if conn.transport.inner.accepts data then (true, conn.wrote data) else (false, conn) := rfl

theorem search_wrote (data : Bytes) (conn : NativeConnection) :
    (conn.wrote data).search = conn.search := rfl

theorem drain_fst (conn : NativeConnection) :
    conn.trySyncDrainUntilReady.map Prod.fst = conn.search.map Prod.fst := by
  rw [trySyncDrainUntilReady_eq, Option.map_map]
  rfl

end NativeConnection

namespace Transfer

/-- The state that a drop leaves once it has searched. -/
def ended (found : Bool) : Transfer → ConnectionState
  | copyIn _ => .idle
  | copyOut _ => if found then .idle else .closed

theorem ended_found (transfer : Transfer) : transfer.ended true = .idle := by
  cases transfer <;> rfl

theorem drop_panicking (transfer : Transfer) : transfer.drop net true conn = some conn := by
  cases transfer <;> exact if_pos (Bool.or_true _)

theorem drop_copyIn {copy : CopyIn} (hDone : (copyIn copy).done = false) :
    (copyIn copy).drop net false conn =
      conn.cancelCopyInSync net NativeConnection.dropReason :=
  if_neg (by simpa [done] using hDone)

theorem drop_copyOut {copy : CopyOut} (hDone : (copyOut copy).done = false) :
    (copyOut copy).drop net false conn = conn.drainCopyOutSync :=
  if_neg (by simpa [done] using hDone)

end Transfer

namespace Unfinished

variable {copy : Unfinished}

theorem state_ne_idle (copy : Unfinished) : copy.conn.state ≠ .idle := by
  rw [copy.running]
  cases copy.transfer <;> simp [Transfer.state]

/-- Where the drop does not come to the search, the connection is not idle after it. -/
theorem drop_unsearched (h : copy.searches net panicking = false) :
    ∃ conn', copy.drop net panicking = some conn' ∧ conn'.state ≠ .idle := by
  have hState := copy.state_ne_idle
  obtain ⟨transfer, conn, hDone, hRunning⟩ := copy
  simp only [searches, drop] at h ⊢
  cases panicking with
  | true => exact ⟨conn, transfer.drop_panicking, hState⟩
  | false =>
      cases transfer with
      | copyOut transfer => cases h
      | copyIn transfer =>
          simp only [Transfer.searches, Bool.not_false, Bool.true_and] at h
          rw [Transfer.drop_copyIn hDone, NativeConnection.cancelCopyInSync]
          cases hEncode : net.encode (.copyFail NativeConnection.dropReason) with
          | error e => exact ⟨_, rfl, by simp [NativeConnection.setState]⟩
          | ok data =>
              rw [hEncode] at h
              have hRefused : ¬ conn.transport.inner.accepts data = true := by simpa using h
              simp only [NativeConnection.trySyncWriteAndFlush_eq, if_neg hRefused]
              exact ⟨_, rfl, by simp [NativeConnection.setState]⟩

/-- Where it does, the search alone decides. -/
theorem drop_searched (h : copy.searches net panicking = true) :
    match copy.conn.search with
    | none => copy.drop net panicking = none
    | some (found, after) => ∃ conn', copy.drop net panicking = some conn' ∧
        conn'.reads = after ∧ conn'.buffered = copy.conn.buffered ∧
        conn'.state = copy.transfer.ended found := by
  obtain ⟨transfer, conn, hDone, hRunning⟩ := copy
  simp only [searches, drop] at h ⊢
  cases panicking with
  | true => cases transfer <;> cases h
  | false =>
      cases transfer with
      | copyOut transfer =>
          rw [Transfer.drop_copyOut hDone]
          simp only [NativeConnection.drainCopyOutSync,
            NativeConnection.trySyncDrainUntilReady_eq]
          cases conn.search with
          | none => rfl
          | some result => exact ⟨_, rfl, rfl, rfl, rfl⟩
      | copyIn transfer =>
          simp only [Transfer.searches, Bool.not_false, Bool.true_and] at h
          rw [Transfer.drop_copyIn hDone, NativeConnection.cancelCopyInSync]
          cases hEncode : net.encode (.copyFail NativeConnection.dropReason) with
          | error e =>
              rw [hEncode] at h
              cases h
          | ok data =>
              rw [hEncode] at h
              simp only [NativeConnection.trySyncWriteAndFlush_eq, if_pos h,
                NativeConnection.trySyncDrainUntilReady_eq, NativeConnection.search_wrote]
              cases conn.search with
              | none => rfl
              | some result => exact ⟨_, rfl, rfl, rfl, rfl⟩

theorem recovers_of_finds (h : Finds copy.conn) (hSearches : copy.searches net panicking = true) :
    copy.Recovers net panicking := by
  obtain ⟨hBuffered, taken, after, offset, hReads, hMatches, hReady, hOffset⟩ := h
  have hFound : copy.conn.search = some (true, after) :=
    NativeConnection.search_found.mpr ⟨taken, hReads, hMatches⟩
  have hDrop := drop_searched hSearches
  rw [hFound] at hDrop
  obtain ⟨conn', hDrop, hLeft, hKept, -⟩ := hDrop
  refine ⟨fun conn'' hDrop' _ => ?_, fun _ _ => ?_⟩
  · cases hDrop.symm.trans hDrop'
    refine ⟨hKept.trans hBuffered, taken, offset, hLeft ▸ hReads, ?_, ?_, ?_⟩
    · rw [NativeConnection.stream, hBuffered]
      exact hReady
    · rw [hBuffered]
      exact Nat.zero_le _
    · rw [hBuffered, List.length_nil, Nat.zero_add]
      exact hOffset
  · rw [NativeConnection.drain_fst, hFound]
    rfl

theorem recovers_of_misses (h : copy.Misses) (hSearches : copy.searches net panicking = true) :
    copy.Recovers net panicking := by
  obtain ⟨hNone, hMisses⟩ := h
  refine ⟨fun conn' hDrop hIdle => ?_, fun _ ⟨offset, hReady⟩ => absurd hReady (hNone offset)⟩
  have hSearched := drop_searched hSearches
  cases hTransfer : copy.transfer with
  | copyIn transfer =>
      rw [hTransfer] at hMisses
      rw [NativeConnection.search_blocks.mpr hMisses] at hSearched
      cases hSearched.symm.trans hDrop
  | copyOut transfer =>
      rw [hTransfer] at hMisses
      cases hSearch : copy.conn.search with
      | none =>
          rw [hSearch] at hSearched
          cases hSearched.symm.trans hDrop
      | some result =>
          obtain ⟨found, after⟩ := result
          rw [hSearch, hTransfer] at hSearched
          obtain ⟨conn'', hDrop', -, -, hState⟩ := hSearched
          cases hDrop'.symm.trans hDrop
          cases found with
          | true =>
              obtain ⟨taken, hReads, hMatches⟩ := NativeConnection.search_found.mp hSearch
              exact absurd hMatches (hMisses taken after hReads)
          | false => cases hState.symm.trans hIdle

theorem recovers_of_unsearched (h : copy.searches net panicking = false) :
    copy.Recovers net panicking := by
  obtain ⟨conn', hDrop, hState⟩ := drop_unsearched h
  refine ⟨fun conn'' hDrop' hIdle => ?_, fun hSearches => ?_⟩
  · cases hDrop.symm.trans hDrop'
    exact absurd hIdle hState
  · cases h.symm.trans hSearches

/-- With nothing buffered and no byte `Z` before the `ReadyForQuery`, that is found. -/
theorem finds_of_first {frames : List Bytes} {status : UInt8} {rest : Bytes}
    (hBuffered : conn.buffered = [])
    (hStream : bytesOf conn.reads = List.flatten frames ++ (readyForQuery status ++ rest))
    (hFrames : ∀ frame ∈ frames, IsFrame parseFrame frame frame) (hStatus : isStatus status = true)
    (hFirst : 90 ∉ List.flatten frames) (hLimit : (bytesOf conn.reads).length ≤ safetyLimit) :
    Finds conn := by
  have hLooks : LooksReady (bytesOf conn.reads) := ⟨_, status, rest, hStream, hFirst, hStatus⟩
  obtain ⟨taken, after, hReads, hMatches⟩ :=
    exists_matches not_looksReady_nil hLooks hLimit
  refine ⟨hBuffered, taken, after, _, hReads, hMatches,
    ⟨frames, status, rest, hStream, hFrames, hStatus, rfl⟩, ?_⟩
  obtain ⟨before, status', rest', hTaken, hBefore, -⟩ := hMatches.found
  rw [List.nil_append] at hTaken
  have hAll : bytesOf conn.reads =
      before ++ (readyForQuery status' ++ (rest' ++ bytesOf after)) := by
    rw [hReads, bytesOf, List.flatMap_append]
    change bytesOf taken ++ bytesOf after = _
    rw [hTaken]
    simp only [List.append_assoc]
  have hSame : before = List.flatten frames :=
    beforeFirst_unique hBefore hFirst (hAll.symm.trans hStream)
  rw [hTaken, hSame]
  simp only [List.length_append, readyForQuery, List.length_cons, List.length_nil]
  omega

/-- So the drop recovers where the server's rest is short and has no byte `Z` of its own. -/
theorem recovers_of_first {frames : List Bytes} {status : UInt8} {rest : Bytes}
    (hBuffered : copy.conn.buffered = [])
    (hStream : bytesOf copy.conn.reads = List.flatten frames ++ (readyForQuery status ++ rest))
    (hFrames : ∀ frame ∈ frames, IsFrame parseFrame frame frame) (hStatus : isStatus status = true)
    (hFirst : 90 ∉ List.flatten frames) (hLimit : (bytesOf copy.conn.reads).length ≤ safetyLimit) :
    copy.Recovers net panicking := by
  cases hSearches : copy.searches net panicking with
  | true =>
      exact recovers_of_finds
        (finds_of_first hBuffered hStream hFrames hStatus hFirst hLimit) hSearches
  | false => exact recovers_of_unsearched hSearches

theorem recovers_cases (hSearches : copy.searches net panicking = true)
    (h : copy.Recovers net panicking) : Finds copy.conn ∨ copy.Misses := by
  have hSearched := drop_searched hSearches
  -- Where the search returns and leaves the connection idle, a `ReadyForQuery` has come.
  have hIdle : ∀ found after, copy.conn.search = some (found, after) →
      copy.transfer.ended found = .idle → copy.conn.buffered = [] ∧
        ∃ taken offset, copy.conn.reads = taken ++ after ∧
          ReadyAt copy.conn.stream offset ∧ offset + 6 ≤ (bytesOf taken).length := by
    intro found after hSearch hEnded
    rw [hSearch] at hSearched
    obtain ⟨conn', hDrop, hLeft, hKept, hState⟩ := hSearched
    obtain ⟨hEmpty, taken, offset, hReads, hReady, -, hOffset⟩ :=
      h.idle conn' hDrop (hState.trans hEnded)
    have hBuffered := hKept.symm.trans hEmpty
    rw [hBuffered, List.length_nil, Nat.zero_add] at hOffset
    exact ⟨hBuffered, taken, offset, hLeft ▸ hReads, hReady, hOffset⟩
  by_cases hReady : ∃ offset, ReadyAt copy.conn.stream offset
  · left
    have hFound := h.finds hSearches hReady
    rw [NativeConnection.drain_fst, Option.map_eq_some_iff] at hFound
    obtain ⟨⟨found, after⟩, hSearch, rfl⟩ := hFound
    obtain ⟨taken, hReads, hMatches⟩ := NativeConnection.search_found.mp hSearch
    obtain ⟨hBuffered, taken', offset, hReads', hAt, hOffset⟩ :=
      hIdle _ _ hSearch copy.transfer.ended_found
    have hSame : taken = taken' := List.append_cancel_right (hReads.symm.trans hReads')
    subst hSame
    rw [NativeConnection.stream, hBuffered] at hAt
    exact ⟨hBuffered, taken, after, offset, hReads, hMatches, hAt, hOffset⟩
  · right
    refine ⟨fun offset hAt => hReady ⟨offset, hAt⟩, ?_⟩
    cases hTransfer : copy.transfer with
    | copyIn transfer =>
        apply NativeConnection.search_blocks.mp
        cases hSearch : copy.conn.search with
        | none => rfl
        | some result =>
            obtain ⟨found, after⟩ := result
            have hEnded : copy.transfer.ended found = .idle := by
              rw [hTransfer]
              rfl
            obtain ⟨-, -, offset, -, hAt, -⟩ := hIdle found after hSearch hEnded
            exact absurd ⟨offset, hAt⟩ hReady
    | copyOut transfer =>
        intro taken after hReads hMatches
        have hSearch := NativeConnection.search_found.mpr ⟨taken, hReads, hMatches⟩
        obtain ⟨-, -, offset, -, hAt, -⟩ := hIdle true after hSearch copy.transfer.ended_found
        exact hReady ⟨offset, hAt⟩

end Unfinished

end Drops

namespace Unfinished

/-- A dropped COPY is recovered soundly if and only if its drop does not come to searching the
socket, or finds what is there, or has to miss what is not. -/
theorem recovers_iff (net : Network) (panicking : Bool) (copy : Unfinished) :
    copy.Recovers net panicking ↔
      (copy.searches net panicking = true → Finds copy.conn ∨ copy.Misses) := by
  constructor
  · exact fun h hSearches => recovers_cases hSearches h
  · intro h
    cases hSearches : copy.searches net panicking with
    | true =>
        cases h hSearches with
        | inl hFinds => exact recovers_of_finds hFinds hSearches
        | inr hMisses => exact recovers_of_misses hMisses hSearches
    | false => exact recovers_of_unsearched hSearches

/-- A row that is the letter `Z`. -/
def dataFrame : Bytes := [100, 0, 0, 0, 6, 90, 10]

def doneFrame : Bytes := [99, 0, 0, 0, 4]

/-- The tag is `COPY 1`. -/
def completeFrame : Bytes := [67, 0, 0, 0, 11, 67, 79, 80, 89, 32, 49, 0]

def rest : Chunk where
  bytes := dataFrame ++ doneFrame ++ completeFrame ++ readyForQuery 73
  nonempty := by decide
  bounded := by decide

/-- A COPY to the client, which is dropped before its one row has come. -/
def unread : Unfinished where
  transfer := .copyOut { format := 0, columnFormats := [], done := false }
  conn :=
    { state := .copyOut
      codec := .new
      transport := .new
        { accepts := fun _ => true, written := [], incoming := ⟨[rest], .waiting⟩ } }
  unfinished := rfl
  running := rfl

/-- The `ReadyForQuery` has been read, but the search goes by the `Z` in the row, and waits. -/
theorem not_recovers : ¬ ∀ net panicking (copy : Unfinished), copy.Recovers net panicking := by
  intro hAll
  have hReady : ∃ offset, ReadyAt unread.conn.stream offset := by
    refine ⟨_, [dataFrame, doneFrame, completeFrame], 73, [], by decide, ?_, rfl, rfl⟩
    simp only [List.forall_mem_cons]
    exact ⟨parseFrame_complete (by decide) (by decide), parseFrame_complete (by decide) (by decide),
      parseFrame_complete (by decide) (by decide), fun _ hMem => absurd hMem List.not_mem_nil⟩
  have hFinds := (hAll CopyServer.network false unread).finds rfl hReady
  have hBlocks : unread.conn.search = none := by
    apply NativeConnection.search_blocks.mpr
    decide
  rw [NativeConnection.drain_fst, hBlocks] at hFinds
  cases hFinds

end Unfinished

end PgClient
