import PgClient.Copy.Stream
import PgClient.Protocol.Chunked
import PgClient.Transport.ByteBuffer

/-!
What a COPY does on a plain native socket when it is dropped unfinished. The socket is read
past the buffers of the transport and of the codec, and what it brings is searched as bytes.
-/

namespace PgClient

open Codec

/-- A blocking socket: what it takes, what it has taken, and the reads to come. -/
structure TcpStream where
  accepts : Bytes → Bool
  written : Bytes
  incoming : Incoming

/-- A connection over a plain native socket, as far as a drop concerns it. -/
structure NativeConnection where
  state : ConnectionState
  codec : MessageBuffer
  transport : Transport.ByteBuffer.BufferedTransport TcpStream

namespace SyncDrain

/-- The transaction statuses `I`, `T` and `E`. -/
def isStatus (status : UInt8) : Bool := status == 73 || status == 84 || status == 69

/-- Whether a `ReadyForQuery` is found: the first byte `Z` alone is looked at. The length, which
the source reads as a signed number, is compared with 5 only. -/
def findsReady (scanBuf : Bytes) : Bool :=
  match scanBuf.findIdx? (· == 90) with
  | some pos =>
      decide (pos + 6 ≤ scanBuf.length) &&
        (BigEndian.nat ((scanBuf.drop (pos + 1)).take 4) == 5 &&
          isStatus (scanBuf.getD (pos + 5) 0))
  | none => false

def safetyLimit : Nat := 10 * 1024 * 1024

/-- Whether a `ReadyForQuery` was found, and the reads left; a read that blocks does not return. -/
def drainLoop (ending : StreamEnd) : Bytes → List Chunk → Option (Bool × List Chunk)
  | scanBuf, reads =>
      if findsReady scanBuf then some (true, reads)
      else
        match reads with
        | [] =>
            match ending with
            | .waiting => none
            | .closed | .failed _ => some (false, [])
        | buf :: reads =>
            if safetyLimit < (scanBuf ++ buf.bytes).length then some (false, reads)
            else drainLoop ending (scanBuf ++ buf.bytes) reads

end SyncDrain

namespace NativeConnection

open SyncDrain

def setState (state : ConnectionState) (conn : NativeConnection) : NativeConnection :=
  { conn with state }

/-- The write goes to the socket itself. -/
def trySyncWriteAndFlush (data : Bytes) (conn : NativeConnection) : Bool × NativeConnection :=
  let tcp := conn.transport.inner
  if tcp.accepts data then
    (true, { conn with transport.inner := { tcp with written := tcp.written ++ data } })
  else (false, conn)

def trySyncDrainUntilReady (conn : NativeConnection) : Option (Bool × NativeConnection) :=
  let tcp := conn.transport.inner
  (drainLoop tcp.incoming.ending [] tcp.incoming.reads).map fun (found, reads) =>
    (found, { conn with
      transport.inner := { tcp with incoming := { tcp.incoming with reads } } })

/-- Whether a `ReadyForQuery` was found makes no difference. -/
def cancelCopyInSync (net : Network) (reason : String) (conn : NativeConnection) :
    Option NativeConnection :=
  match net.encode (.copyFail reason) with
  | .error _ => some (conn.setState .closed)
  | .ok data =>
      match conn.trySyncWriteAndFlush data with
      | (true, conn) => conn.trySyncDrainUntilReady.map fun (_, conn) => conn.setState .idle
      | (false, conn) => some (conn.setState .closed)

def drainCopyOutSync (conn : NativeConnection) : Option NativeConnection :=
  conn.trySyncDrainUntilReady.map fun (found, conn) =>
    conn.setState (if found then .idle else .closed)

/-- What the server is told. -/
def dropReason : String := "CopyIn dropped without finish"

/-- `Drop for CopyIn`. -/
def dropCopyIn (net : Network) (panicking : Bool) (copy : CopyIn) (conn : NativeConnection) :
    Option NativeConnection :=
  if copy.done || panicking then some conn
  else conn.cancelCopyInSync net dropReason

/-- `Drop for CopyOut`. -/
def dropCopyOut (panicking : Bool) (copy : CopyOut) (conn : NativeConnection) :
    Option NativeConnection :=
  if copy.done || panicking then some conn else conn.drainCopyOutSync

end NativeConnection

namespace SyncDrain

def readyForQuery (status : UInt8) : Bytes := [90, 0, 0, 0, 5, status]

/-- The first byte `Z` begins what could be a `ReadyForQuery`, wherever it stands. -/
def LooksReady (s : Bytes) : Prop :=
  ∃ before status rest, s = before ++ (readyForQuery status ++ rest) ∧ 90 ∉ before ∧
    isStatus status = true

section Search

variable {s : Bytes}

theorem findIdx?_first {before : Bytes} (h : 90 ∉ before) (tail : Bytes) :
    (before ++ 90 :: tail).findIdx? (· == 90) = some before.length := by
  have hNone : before.findIdx? (· == 90) = none := by
    rw [List.findIdx?_eq_none_iff]
    intro b hMem
    exact beq_false_of_ne fun hSame => h (hSame ▸ hMem)
  rw [List.findIdx?_append, hNone]
  simp [List.findIdx?_cons]

/-- There is one first `Z`. -/
theorem beforeFirst_unique {before other tail rest : Bytes} (h : 90 ∉ before) (hOther : 90 ∉ other)
    (hSame : before ++ 90 :: tail = other ++ 90 :: rest) : before = other := by
  have hIdx := findIdx?_first h tail
  rw [hSame, findIdx?_first hOther rest] at hIdx
  exact (List.append_inj hSame (Option.some.inj hIdx).symm).1

theorem findsReady_first {before : Bytes} (h : 90 ∉ before) (tail : Bytes) :
    findsReady (before ++ 90 :: tail) =
      (decide (5 ≤ tail.length) && (BigEndian.nat (tail.take 4) == 5 &&
        isStatus (tail.getD 4 0))) := by
  have hDrop : (before ++ 90 :: tail).drop (before.length + 1) = tail := by
    rw [List.drop_append]
    simp
  have hStatus : (before ++ 90 :: tail).getD (before.length + 5) 0 = tail.getD 4 0 := by
    simp [List.getD_eq_getElem?_getD, List.getElem?_append_right]
  have hLength : before.length + 6 ≤ (before ++ 90 :: tail).length ↔ 5 ≤ tail.length := by
    simp only [List.length_append, List.length_cons]
    omega
  simp only [findsReady, findIdx?_first h, hDrop, hStatus, decide_eq_decide.mpr hLength]

theorem findsReady_iff : findsReady s = true ↔ LooksReady s := by
  constructor
  · intro h
    by_cases hMem : 90 ∈ s
    · obtain ⟨before, tail, rfl, hBefore⟩ := List.eq_append_cons_of_mem hMem
      rw [findsReady_first hBefore] at h
      match tail, h with
      | a :: b :: c :: d :: status :: rest, h =>
          simp only [List.length_cons, List.take_succ_cons, List.take_zero, Bool.and_eq_true,
            beq_iff_eq, List.getD_cons_succ, List.getD_cons_zero] at h
          have hBytes := BigEndian.bytes_nat [a, b, c, d]
          rw [h.2.1] at hBytes
          cases hBytes
          exact ⟨before, status, rest, rfl, hBefore, h.2.2⟩
      | [], h | [_], h | [_, _], h | [_, _, _], h | [_, _, _, _], h => simp at h
    · have hNone : s.findIdx? (· == 90) = none := by
        rw [List.findIdx?_eq_none_iff]
        intro b hB
        exact beq_false_of_ne fun hSame => hMem (hSame ▸ hB)
      rw [findsReady, hNone] at h
      cases h
  · rintro ⟨before, status, rest, rfl, hBefore, hStatus⟩
    have hFirst := findsReady_first hBefore (0 :: 0 :: 0 :: 5 :: status :: rest)
    rw [readyForQuery]
    simp only [List.cons_append, List.nil_append]
    rw [hFirst]
    simpa [BigEndian.nat] using hStatus

instance (s : Bytes) : Decidable (LooksReady s) := decidable_of_iff _ findsReady_iff

theorem not_looksReady_nil : ¬ LooksReady [] := findsReady_iff.not.mp (by decide)

theorem LooksReady.append (h : LooksReady s) (more : Bytes) : LooksReady (s ++ more) := by
  obtain ⟨before, status, rest, rfl, hBefore, hStatus⟩ := h
  exact ⟨before, status, rest ++ more, by simp only [List.append_assoc], hBefore, hStatus⟩

end Search

/-- The reads that the search takes from these: with the last of them it finds what it takes
for a `ReadyForQuery`, and all of them are within the limit. -/
structure Matches (scanBuf : Bytes) (taken : List Chunk) : Prop where
  earlier : ∃ before last, taken = before ++ [last] ∧ ¬ LooksReady (scanBuf ++ bytesOf before)
  found : LooksReady (scanBuf ++ bytesOf taken)
  within : (scanBuf ++ bytesOf taken).length ≤ safetyLimit

section Loop

variable {ending : StreamEnd} {scanBuf : Bytes} {reads after taken : List Chunk}

theorem drainLoop_of_found (h : LooksReady scanBuf) :
    drainLoop ending scanBuf reads = some (true, reads) := by
  unfold drainLoop
  rw [if_pos (findsReady_iff.mpr h)]

theorem drainLoop_nil (hNot : ¬ LooksReady scanBuf) :
    drainLoop ending scanBuf [] = if ending = .waiting then none else some (false, []) := by
  unfold drainLoop
  rw [if_neg (findsReady_iff.not.mpr hNot)]
  cases ending <;> rfl

theorem drainLoop_cons (hNot : ¬ LooksReady scanBuf) (chunk : Chunk) (reads : List Chunk) :
    drainLoop ending scanBuf (chunk :: reads) =
      if safetyLimit < (scanBuf ++ chunk.bytes).length then some (false, reads)
      else drainLoop ending (scanBuf ++ chunk.bytes) reads := by
  conv => lhs; unfold drainLoop
  rw [if_neg (findsReady_iff.not.mpr hNot)]

theorem Matches.exists_cons (h : Matches scanBuf taken) :
    ∃ first rest, taken = first :: rest := by
  obtain ⟨before, last, rfl, -⟩ := h.earlier
  exact List.exists_cons_of_ne_nil (by simp)

theorem matches_cons {chunk : Chunk} (hNot : ¬ LooksReady (scanBuf ++ chunk.bytes)) :
    Matches scanBuf (chunk :: taken) ↔ Matches (scanBuf ++ chunk.bytes) taken := by
  constructor
  · rintro ⟨⟨before, last, hTaken, hEarlier⟩, hFound, hWithin⟩
    rw [bytesOf_cons, ← List.append_assoc] at hFound hWithin
    cases before with
    | nil =>
        cases hTaken
        rw [bytesOf_nil, List.append_nil] at hFound
        exact absurd hFound hNot
    | cons first before =>
        cases hTaken
        rw [bytesOf_cons, ← List.append_assoc] at hEarlier
        exact ⟨⟨before, last, rfl, hEarlier⟩, hFound, hWithin⟩
  · rintro ⟨⟨before, last, rfl, hEarlier⟩, hFound, hWithin⟩
    rw [List.append_assoc, ← bytesOf_cons] at hEarlier hFound hWithin
    exact ⟨⟨chunk :: before, last, rfl, hEarlier⟩, hFound, hWithin⟩

/-- A read that completes a match is the last one. -/
theorem matches_found {chunk : Chunk} (hFound : LooksReady (scanBuf ++ chunk.bytes))
    (h : Matches scanBuf (chunk :: taken)) : taken = [] := by
  obtain ⟨before, last, hTaken, hEarlier⟩ := h.earlier
  cases before with
  | nil =>
      cases hTaken
      rfl
  | cons first before =>
      cases hTaken
      rw [bytesOf_cons, ← List.append_assoc] at hEarlier
      exact absurd (hFound.append _) hEarlier

/-- The search returns with a match and leaves the reads behind it. -/
theorem drainLoop_found (hNot : ¬ LooksReady scanBuf) :
    drainLoop ending scanBuf reads = some (true, after) ↔
      ∃ taken, reads = taken ++ after ∧ Matches scanBuf taken := by
  induction reads generalizing scanBuf with
  | nil =>
      rw [drainLoop_nil hNot]
      constructor
      · intro h
        cases ending <;> cases h
      · rintro ⟨taken, hReads, hMatches⟩
        obtain ⟨first, rest, rfl⟩ := hMatches.exists_cons
        cases hReads
  | cons chunk reads ih =>
      rw [drainLoop_cons hNot]
      by_cases hLimit : safetyLimit < (scanBuf ++ chunk.bytes).length
      · rw [if_pos hLimit]
        constructor
        · intro h
          cases h
        · rintro ⟨taken, hReads, hMatches⟩
          obtain ⟨first, rest, rfl⟩ := hMatches.exists_cons
          cases hReads
          have hWithin := hMatches.within
          rw [bytesOf_cons, ← List.append_assoc, List.length_append] at hWithin
          omega
      · rw [if_neg hLimit]
        by_cases hFound : LooksReady (scanBuf ++ chunk.bytes)
        · rw [drainLoop_of_found hFound]
          constructor
          · intro h
            cases h
            refine ⟨[chunk], rfl, ⟨[], chunk, rfl, by simpa using hNot⟩, ?_, ?_⟩
            · simpa using hFound
            · simpa using Nat.le_of_not_lt hLimit
          · rintro ⟨taken, hReads, hMatches⟩
            obtain ⟨first, rest, rfl⟩ := hMatches.exists_cons
            cases hReads
            cases matches_found hFound hMatches
            rfl
        · rw [ih hFound]
          constructor
          · rintro ⟨taken, rfl, hMatches⟩
            exact ⟨chunk :: taken, rfl, (matches_cons hFound).mpr hMatches⟩
          · rintro ⟨taken, hReads, hMatches⟩
            obtain ⟨first, rest, rfl⟩ := hMatches.exists_cons
            cases hReads
            exact ⟨rest, rfl, (matches_cons hFound).mp hMatches⟩

/-- The search blocks where nothing is found, nothing ends the stream and the limit is kept. -/
theorem drainLoop_blocks (hNot : ¬ LooksReady scanBuf)
    (hWithin : scanBuf.length ≤ safetyLimit) :
    drainLoop ending scanBuf reads = none ↔ ending = .waiting ∧
      (scanBuf ++ bytesOf reads).length ≤ safetyLimit ∧
        ¬ LooksReady (scanBuf ++ bytesOf reads) := by
  induction reads generalizing scanBuf with
  | nil =>
      rw [drainLoop_nil hNot, bytesOf_nil, List.append_nil]
      cases ending <;> simp [hNot, hWithin]
  | cons chunk reads ih =>
      rw [drainLoop_cons hNot, bytesOf_cons, ← List.append_assoc]
      by_cases hLimit : safetyLimit < (scanBuf ++ chunk.bytes).length
      · rw [if_pos hLimit]
        constructor
        · intro h
          cases h
        · rintro ⟨-, hAll, -⟩
          rw [List.length_append] at hAll
          omega
      · rw [if_neg hLimit]
        by_cases hFound : LooksReady (scanBuf ++ chunk.bytes)
        · rw [drainLoop_of_found hFound]
          constructor
          · intro h
            cases h
          · rintro ⟨-, -, hNone⟩
            exact absurd (hFound.append _) hNone
        · exact ih hFound (Nat.le_of_not_lt hLimit)

/-- What is found in all reads, within the limit, is found with one of them. -/
theorem exists_matches (hNot : ¬ LooksReady scanBuf)
    (hFound : LooksReady (scanBuf ++ bytesOf reads))
    (hWithin : (scanBuf ++ bytesOf reads).length ≤ safetyLimit) :
    ∃ taken after, reads = taken ++ after ∧ Matches scanBuf taken := by
  induction reads using List.reverseRecOn with
  | nil =>
      rw [bytesOf_nil, List.append_nil] at hFound
      exact absurd hFound hNot
  | append_singleton reads last ih =>
      by_cases hEarlier : LooksReady (scanBuf ++ bytesOf reads)
      · have hShorter : (scanBuf ++ bytesOf reads).length ≤ safetyLimit := by
          simp only [bytesOf, List.flatMap_append, List.length_append] at hWithin ⊢
          omega
        obtain ⟨taken, after, rfl, hMatches⟩ := ih hEarlier hShorter
        exact ⟨taken, after ++ [last], List.append_assoc _ _ _, hMatches⟩
      · exact ⟨reads ++ [last], [], (List.append_nil _).symm, ⟨reads, last, rfl, hEarlier⟩,
          hFound, hWithin⟩

end Loop

end SyncDrain

end PgClient
