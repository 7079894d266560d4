import PgClient.Library.Repeats
import PgClient.Protocol.ParseFrame

/-!
How a stream is cut into reads does not matter to the messages that come out of it, as
long as no read takes what is buffered over the limit. The limit counts the bytes of the
read as well, so that whether a message is refused can depend on the reads.
-/

namespace PgClient.Codec

open Async Framing

variable {μ : Type} {parse : Parser UInt8 IoError μ} {limit : Nat} {ending : StreamEnd}

def bytesOf (reads : List Chunk) : Bytes := reads.flatMap Chunk.bytes

@[simp] theorem bytesOf_nil : bytesOf [] = [] := rfl

@[simp] theorem bytesOf_cons (chunk : Chunk) (reads : List Chunk) :
    bytesOf (chunk :: reads) = chunk.bytes ++ bytesOf reads := List.flatMap_cons

/-- With the part received of a message, no read exceeds the limit. -/
def Fits (parse : Parser UInt8 IoError μ) (limit : Nat) (received : Bytes) (reads : List Chunk) :
    Prop :=
  ∀ before chunk after frames rest, reads = before ++ chunk :: after →
    Framed parse (received ++ bytesOf before) frames (.unfinished rest) →
    rest.length + chunk.bytes.length ≤ limit

/-- Repeated calls yield these messages, and then this error if they do not wait. -/
def Runs (parse : Parser UInt8 IoError μ) (limit : Nat) (ending : StreamEnd) (received : Bytes)
    (reads : List Chunk) (messages : List μ) (stop : Option AuthError) : Prop :=
  ∃ s', Repeats (readMessage parse) () (⟨received, limit⟩, ⟨reads, ending⟩) messages stop s'

/-- The error after the last frame of a stream. -/
def stopAfter (ending : StreamEnd) : Tail UInt8 IoError → Option AuthError
  | .unfinished _ => ending.error
  | .malformed e => some (.protocol (.io e))

section Calls

variable {received rest : Bytes} {reads : List Chunk}

theorem nextMessage_within (h : received.length ≤ limit) :
    MessageBuffer.nextMessage parse ⟨received, limit⟩ =
      ((parse received).1.mapError .io, ⟨(parse received).2, limit⟩) :=
  if_neg (Nat.not_lt.mpr h)

theorem tryExtend_within {data : Bytes} (h : received.length + data.length ≤ limit) :
    MessageBuffer.tryExtend data ⟨received, limit⟩ = .ok ⟨received ++ data, limit⟩ :=
  if_neg (Nat.not_lt.mpr h)

theorem tryExtend_exceeded {data : Bytes} (h : limit < received.length + data.length) :
    MessageBuffer.tryExtend data ⟨received, limit⟩ =
      .error (.bufferLimitExceeded limit (received.length + data.length)) :=
  if_pos h

theorem readMessage_frame {frame : Bytes} {message : μ} (hFrame : IsFrame parse frame message)
    (hLength : (frame ++ rest).length ≤ limit) :
    readMessage parse () (⟨frame ++ rest, limit⟩, ⟨reads, ending⟩) =
      (.ok message, ⟨rest, limit⟩, ⟨reads, ending⟩) := by
  unfold readMessage readLoop
  rw [nextMessage_within hLength, hFrame.parse_eq rest]
  rfl

theorem readMessage_malformed {e : IoError} (hError : parse received = (.error e, rest))
    (hLength : received.length ≤ limit) :
    readMessage parse () (⟨received, limit⟩, ⟨reads, ending⟩) =
      (.err (.protocol (.io e)), ⟨rest, limit⟩, ⟨reads, ending⟩) := by
  unfold readMessage readLoop
  rw [nextMessage_within hLength, hError]
  rfl

variable (hNone : parse rest = (.ok none, rest)) (hLength : rest.length ≤ limit)

include hNone hLength

theorem readMessage_end :
    readMessage parse () (⟨rest, limit⟩, ⟨[], ending⟩) =
      (ending.outcome, ⟨rest, limit⟩, ⟨[], ending⟩) := by
  unfold readMessage readLoop
  rw [nextMessage_within hLength, hNone]
  rfl

/-- A call that reads on is the call that finds the bytes of that read buffered. -/
theorem readMessage_refill {chunk : Chunk} (hFits : rest.length + chunk.bytes.length ≤ limit) :
    readMessage parse () (⟨rest, limit⟩, ⟨chunk :: reads, ending⟩) =
      readMessage parse () (⟨rest ++ chunk.bytes, limit⟩, ⟨reads, ending⟩) := by
  rw [readMessage, readLoop, nextMessage_within hLength, hNone]
  simp only [Except.mapError, tryExtend_within hFits]
  rfl

/-- A read that exceeds the limit is lost, and what was buffered before it stays. -/
theorem readMessage_exceeded {chunk : Chunk}
    (hExceeds : limit < rest.length + chunk.bytes.length) :
    readMessage parse () (⟨rest, limit⟩, ⟨chunk :: reads, ending⟩) =
      (.err (.protocol (.bufferLimitExceeded limit (rest.length + chunk.bytes.length))),
        ⟨rest, limit⟩, ⟨reads, ending⟩) := by
  rw [readMessage, readLoop, nextMessage_within hLength, hNone]
  simp only [Except.mapError, tryExtend_exceeded hExceeds]

end Calls

section Runs

variable {received rest : Bytes} {reads : List Chunk} {frames : List (Bytes × μ)}
  {messages : List μ} {stop : Option AuthError}

/-- The frames that are buffered come first. -/
theorem runs_of_framed (h : Framed parse received frames (.unfinished rest))
    (hLength : received.length ≤ limit) (hRest : Runs parse limit ending rest reads messages stop) :
    Runs parse limit ending received reads (frames.map Prod.snd ++ messages) stop := by
  generalize hTail : Tail.unfinished rest = tail at h
  induction h with
  | unfinished =>
      cases hTail
      exact hRest
  | malformed => cases hTail
  | @frame frame rest' message frames tail hFrame hFramed ih =>
      have hShorter : rest'.length ≤ limit := by
        rw [List.length_append] at hLength
        exact Nat.le_trans (Nat.le_add_left _ _) hLength
      obtain ⟨s', hRuns⟩ := ih hShorter hTail
      exact ⟨s', .returns (readMessage_frame hFrame hLength) hRuns⟩

theorem runs_malformed {e : IoError} (h : Framed parse received frames (.malformed e))
    (hLength : received.length ≤ limit) :
    Runs parse limit ending received reads (frames.map Prod.snd) (some (.protocol (.io e))) := by
  generalize hTail : Tail.malformed e = tail at h
  induction h with
  | unfinished => cases hTail
  | malformed hError =>
      cases hTail
      exact ⟨_, .fails (readMessage_malformed hError hLength)⟩
  | @frame frame rest message frames tail hFrame hFramed ih =>
      have hShorter : rest.length ≤ limit := by
        rw [List.length_append] at hLength
        exact Nat.le_trans (Nat.le_add_left _ _) hLength
      obtain ⟨s', hRuns⟩ := ih hShorter hTail
      exact ⟨s', .returns (readMessage_frame hFrame hLength) hRuns⟩

theorem runs_refill {chunk : Chunk} (hNone : parse rest = (.ok none, rest))
    (hLength : rest.length ≤ limit) (hFits : rest.length + chunk.bytes.length ≤ limit)
    (hRest : Runs parse limit ending (rest ++ chunk.bytes) reads messages stop) :
    Runs parse limit ending rest (chunk :: reads) messages stop := by
  obtain ⟨s', hRuns⟩ := hRest
  exact ⟨s', hRuns.congr (readMessage_refill hNone hLength hFits)⟩

theorem runs_exceeded {chunk : Chunk} (hNone : parse rest = (.ok none, rest))
    (hLength : rest.length ≤ limit) (hExceeds : limit < rest.length + chunk.bytes.length) :
    Runs parse limit ending rest (chunk :: reads) []
      (some (.protocol (.bufferLimitExceeded limit (rest.length + chunk.bytes.length)))) :=
  ⟨_, .fails (readMessage_exceeded hNone hLength hExceeds)⟩

theorem runs_end (hNone : parse rest = (.ok none, rest)) (hLength : rest.length ≤ limit) :
    Runs parse limit ending rest [] [] ending.error := by
  have hCall : readMessage parse () (⟨rest, limit⟩, ⟨[], ending⟩) =
      (ending.outcome, ⟨rest, limit⟩, ⟨[], ending⟩) := readMessage_end hNone hLength
  cases ending with
  | waiting => exact ⟨_, .waits hCall⟩
  | closed => exact ⟨_, .fails hCall⟩
  | failed e => exact ⟨_, .fails hCall⟩

end Runs

section Streams

variable {received rest : Bytes} {chunk : Chunk} {reads : List Chunk}
  {frames : List (Bytes × μ)} {tail : Tail UInt8 IoError}

/-- Only the part of a message that is unfinished counts. -/
theorem fits_cons (hParse : Lawful parse) (h : Framed parse received frames (.unfinished rest)) :
    Fits parse limit received (chunk :: reads) ↔
      rest.length + chunk.bytes.length ≤ limit ∧
        Fits parse limit (rest ++ chunk.bytes) reads := by
  constructor
  · intro hFits
    refine ⟨hFits [] chunk reads frames rest rfl (by simpa using h), ?_⟩
    rintro before next after later rest' rfl hLater
    rw [List.append_assoc] at hLater
    refine hFits (chunk :: before) next after (frames ++ later) rest' rfl ?_
    rw [bytesOf_cons]
    exact h.extend hLater
  · rintro ⟨hFirst, hFits⟩ before next after all rest' hReads hAll
    cases before with
    | nil =>
        cases hReads
        rw [bytesOf_nil, List.append_nil] at hAll
        obtain ⟨-, hTail⟩ := hAll.unique h
        cases hTail
        exact hFirst
    | cons chunk' before =>
        cases hReads
        rw [bytesOf_cons] at hAll
        obtain ⟨later, -, hLater⟩ := h.of_append hParse hAll
        rw [← List.append_assoc] at hLater
        exact hFits before next after later rest' rfl hLater

theorem fits_nil (received : Bytes) : Fits parse limit received [] := by
  intro before next after frames rest hReads
  cases before <;> cases hReads

/-- No read exceeds the limit where the whole stream does not. -/
theorem fits_of_length (h : received.length + (bytesOf reads).length ≤ limit) :
    Fits parse limit received reads := by
  rintro before next after frames rest rfl hFramed
  have hRest := hFramed.length_unfinished
  rw [List.length_append] at hRest
  rw [bytesOf, List.flatMap_append, List.flatMap_cons, List.length_append, List.length_append] at h
  rw [bytesOf] at hRest
  omega

theorem fits_malformed (hParse : Lawful parse) {e : IoError}
    (h : Framed parse received frames (.malformed e)) : Fits parse limit received reads := by
  intro before next after later rest hReads hLater
  obtain ⟨-, hTail⟩ := hLater.unique (h.malformed_append hParse (bytesOf before))
  cases hTail

/-- Reads that fit yield the messages of the stream, and the error after the last. -/
theorem runs_of_fits (hParse : Lawful parse) (hLength : received.length ≤ limit)
    (hFits : Fits parse limit received reads)
    (h : Framed parse (received ++ bytesOf reads) frames tail) :
    Runs parse limit ending received reads (frames.map Prod.snd) (stopAfter ending tail) := by
  induction reads generalizing received frames with
  | nil =>
      rw [bytesOf_nil, List.append_nil] at h
      cases tail with
      | unfinished rest =>
          have hShorter := Nat.le_trans h.length_unfinished hLength
          have hEnd : Runs parse limit ending rest [] [] ending.error :=
            runs_end h.parse_unfinished hShorter
          have hRuns := runs_of_framed h hLength hEnd
          rwa [List.append_nil] at hRuns
      | malformed e => exact runs_malformed h hLength
  | cons chunk reads ih =>
      obtain ⟨buffered, tail', hBuffered⟩ := exists_framed hParse received
      cases tail' with
      | unfinished rest =>
          have hNone := hBuffered.parse_unfinished
          have hRest := Nat.le_trans hBuffered.length_unfinished hLength
          obtain ⟨hFirst, hFits'⟩ := (fits_cons hParse hBuffered).mp hFits
          rw [bytesOf_cons] at h
          obtain ⟨later, rfl, hLater⟩ := hBuffered.of_append hParse h
          rw [← List.append_assoc] at hLater
          have hRuns := ih (List.length_append ▸ hFirst) hFits' hLater
          rw [List.map_append]
          exact runs_of_framed hBuffered hLength (runs_refill hNone hRest hFirst hRuns)
      | malformed e =>
          obtain ⟨rfl, rfl⟩ := h.unique (hBuffered.malformed_append hParse _)
          exact runs_malformed hBuffered hLength

/-- Reads of which one exceeds the limit yield the messages that are complete before it. -/
theorem runs_of_not_fits (hParse : Lawful parse) (hLength : received.length ≤ limit)
    (hFits : ¬ Fits parse limit received reads)
    (h : Framed parse (received ++ bytesOf reads) frames tail) :
    ∃ before chunk after complete later rest, reads = before ++ chunk :: after ∧
      frames = complete ++ later ∧
      Framed parse (received ++ bytesOf before) complete (.unfinished rest) ∧
      limit < rest.length + chunk.bytes.length ∧
      Runs parse limit ending received reads (complete.map Prod.snd)
        (some (.protocol (.bufferLimitExceeded limit (rest.length + chunk.bytes.length)))) := by
  induction reads generalizing received frames with
  | nil => exact absurd (fits_nil received) hFits
  | cons chunk reads ih =>
      obtain ⟨buffered, tail', hBuffered⟩ := exists_framed hParse received
      cases tail' with
      | unfinished rest =>
          have hNone := hBuffered.parse_unfinished
          have hRest := Nat.le_trans hBuffered.length_unfinished hLength
          rw [fits_cons hParse hBuffered] at hFits
          have hAll := h
          rw [bytesOf_cons] at hAll
          obtain ⟨later, rfl, hLater⟩ := hBuffered.of_append hParse hAll
          by_cases hFirst : rest.length + chunk.bytes.length ≤ limit
          · rw [← List.append_assoc] at hLater
            obtain ⟨before, next, after, complete, later', rest', rfl, rfl, hComplete, hExceeds,
              hRuns⟩ :=
                ih (List.length_append ▸ hFirst) (fun hFits' => hFits ⟨hFirst, hFits'⟩) hLater
            refine ⟨chunk :: before, next, after, buffered ++ complete, later', rest', rfl,
              (List.append_assoc _ _ _).symm, ?_, hExceeds, ?_⟩
            · rw [bytesOf_cons]
              rw [List.append_assoc] at hComplete
              exact hBuffered.extend hComplete
            · rw [List.map_append]
              exact runs_of_framed hBuffered hLength (runs_refill hNone hRest hFirst hRuns)
          · have hExceeds := Nat.lt_of_not_le hFirst
            refine ⟨[], chunk, reads, buffered, later, rest, rfl, rfl, by simpa using hBuffered,
              hExceeds, ?_⟩
            have hStops : Runs parse limit ending rest (chunk :: reads) [] _ :=
              runs_exceeded hNone hRest hExceeds
            have hRuns := runs_of_framed hBuffered hLength hStops
            rwa [List.append_nil] at hRuns
      | malformed e => exact absurd (fits_malformed hParse hBuffered) hFits

end Streams

section Limit

/-- `ReadyForQuery`. -/
def readyFrame : Bytes := [90, 0, 0, 0, 5, 73]

theorem isFrame_ready : IsFrame parseFrame readyFrame readyFrame :=
  parseFrame_complete (by decide) (by decide)

/-- The header of a `CopyData` message that takes as many bytes as a new buffer may hold. -/
def copyHeader : Bytes := [100, 0, 127, 255, 255]

def zeros (n : Nat) : Bytes := List.replicate n 0

@[simp] theorem length_zeros (n : Nat) : (zeros n).length = n := List.length_replicate

theorem zeros_append (m n : Nat) : zeros m ++ zeros n = zeros (m + n) :=
  List.replicate_append_replicate

theorem zeros_append_append (m n : Nat) (more : Bytes) :
    zeros m ++ (zeros n ++ more) = zeros (m + n) ++ more := by
  rw [← List.append_assoc, zeros_append]

theorem lengthField_copy (more : Bytes) : lengthField (copyHeader ++ more) = 8388607 :=
  (lengthField_append (by decide) more).trans (by decide)

def copyFrame : Bytes := copyHeader ++ zeros 8388603

theorem length_copyFrame : copyFrame.length = MessageBuffer.defaultMaxBufferedBytes := by
  rw [copyFrame, List.length_append, length_zeros]
  rfl

theorem isFrame_copy : IsFrame parseFrame copyFrame copyFrame := by
  have hField : lengthField copyFrame = 8388607 := lengthField_copy _
  refine parseFrame_complete (by omega) ?_
  rw [hField, length_copyFrame]
  rfl

/-- The front of that message is not a message. -/
theorem parseFrame_copy {more : Bytes} (h : more.length < 8388603) :
    parseFrame (copyHeader ++ more) = (.ok none, copyHeader ++ more) := by
  have hHeader : copyHeader.length = 5 := rfl
  refine parseFrame_unfinished ?_ ?_ <;> rw [lengthField_copy]
  · decide
  · rw [List.length_append]
    omega

def zeroChunk : Chunk where
  bytes := zeros 4096
  nonempty := List.ne_nil_of_length_pos (by rw [length_zeros]; decide)
  bounded := Nat.le_of_eq (length_zeros 4096)

def firstChunk : Chunk where
  bytes := copyHeader ++ zeros 4091
  nonempty := by simp [copyHeader]
  bounded := by simp [copyHeader]

def readyChunk : Chunk where
  bytes := readyFrame
  nonempty := by decide
  bounded := by decide

/-- Each read ends with the message or within it. -/
def alignedReads : List Chunk := firstChunk :: (List.replicate 2047 zeroChunk ++ [readyChunk])

def typeChunk : Chunk where
  bytes := [100]
  nonempty := by decide
  bounded := by decide

def secondChunk : Chunk where
  bytes := [0, 127, 255, 255] ++ zeros 4092
  nonempty := by simp
  bounded := by simp

/-- The last bytes of the message and the first one of the next. -/
def boundaryChunk : Chunk where
  bytes := zeros 4095 ++ [90]
  nonempty := by simp
  bounded := by simp

def lastChunk : Chunk where
  bytes := [0, 0, 0, 5, 73]
  nonempty := by decide
  bounded := by decide

/-- The same bytes, of which the first one comes alone. -/
def shiftedReads : List Chunk :=
  typeChunk :: secondChunk :: (List.replicate 2046 zeroChunk ++ [boundaryChunk, lastChunk])

theorem bytesOf_replicate (k : Nat) (reads : List Chunk) :
    bytesOf (List.replicate k zeroChunk ++ reads) = zeros (4096 * k) ++ bytesOf reads := by
  induction k with
  | zero => rfl
  | succ k ih =>
      rw [List.replicate_succ, List.cons_append, bytesOf_cons, ih]
      show zeros 4096 ++ (zeros (4096 * k) ++ bytesOf reads) = _
      rw [zeros_append_append]
      congr 2
      omega

theorem bytesOf_aligned : bytesOf alignedReads = copyFrame ++ readyFrame := by
  rw [alignedReads, bytesOf_cons, bytesOf_replicate]
  show (copyHeader ++ zeros 4091) ++ (zeros (4096 * 2047) ++ (readyFrame ++ [])) = _
  rw [List.append_nil, List.append_assoc, zeros_append_append, copyFrame, List.append_assoc]

theorem bytesOf_shifted : bytesOf shiftedReads = copyFrame ++ readyFrame := by
  rw [shiftedReads, bytesOf_cons, bytesOf_cons, bytesOf_replicate]
  show [100] ++ (([0, 127, 255, 255] ++ zeros 4092) ++
    (zeros (4096 * 2046) ++ ((zeros 4095 ++ [90]) ++ ([0, 0, 0, 5, 73] ++ [])))) = _
  have hReady : readyFrame = [90] ++ [0, 0, 0, 5, 73] := rfl
  have hHeader : copyHeader = [100] ++ [0, 127, 255, 255] := rfl
  simp only [List.append_nil, List.append_assoc, zeros_append_append, copyFrame, hReady, hHeader]

theorem runs_zeros {ending : StreamEnd} {reads : List Chunk} {messages : List Bytes}
    {stop : Option AuthError} (k m : Nat) (hWithin : m + 4096 * k ≤ 8388603)
    (hRest : Runs parseFrame MessageBuffer.defaultMaxBufferedBytes ending
      (copyHeader ++ zeros (m + 4096 * k)) reads messages stop) :
    Runs parseFrame MessageBuffer.defaultMaxBufferedBytes ending (copyHeader ++ zeros m)
      (List.replicate k zeroChunk ++ reads) messages stop := by
  induction k generalizing m with
  | zero => exact hRest
  | succ k ih =>
      have hLength : (copyHeader ++ zeros m).length = 5 + m := by
        rw [List.length_append, length_zeros]
        rfl
      have hChunk : zeroChunk.bytes.length = 4096 := length_zeros 4096
      have hLimit : MessageBuffer.defaultMaxBufferedBytes = 8388608 := rfl
      have hNone : parseFrame (copyHeader ++ zeros m) = (.ok none, copyHeader ++ zeros m) :=
        parseFrame_copy (by rw [length_zeros]; omega)
      refine runs_refill hNone (by omega) (by omega) ?_
      show Runs parseFrame _ ending (copyHeader ++ zeros m ++ zeros 4096) _ messages stop
      rw [List.append_assoc, zeros_append]
      refine ih (m + 4096) (by omega) ?_
      have hSame : m + 4096 + 4096 * k = m + 4096 * (k + 1) := by omega
      rw [hSame]
      exact hRest

theorem framed_of_isFrame {frame : Bytes} (h : IsFrame parseFrame frame frame) :
    Framed parseFrame frame [(frame, frame)] (.unfinished []) := by
  have hFramed := Framed.frame h (.unfinished (parseFrame_short (by decide : [].length < 5)))
  rwa [List.append_nil] at hFramed

theorem runs_aligned :
    Runs parseFrame MessageBuffer.defaultMaxBufferedBytes .closed [] alignedReads
      [copyFrame, readyFrame] (some (.transport .unexpectedEof)) := by
  have hEmpty : parseFrame [] = (.ok none, []) := parseFrame_short (by decide)
  have hEnd : Runs parseFrame MessageBuffer.defaultMaxBufferedBytes .closed [] [] []
      (some (.transport .unexpectedEof)) := runs_end hEmpty (Nat.zero_le _)
  have hReady : Runs parseFrame MessageBuffer.defaultMaxBufferedBytes .closed [] [readyChunk]
      [readyFrame] (some (.transport .unexpectedEof)) :=
    runs_refill hEmpty (Nat.zero_le _) (by decide)
      (runs_of_framed (framed_of_isFrame isFrame_ready) (by decide) hEnd)
  have hCopy := runs_of_framed (framed_of_isFrame isFrame_copy)
    (Nat.le_of_eq length_copyFrame) hReady
  have hFirst : firstChunk.bytes.length ≤ MessageBuffer.defaultMaxBufferedBytes :=
    Nat.le_trans firstChunk.bounded (by decide)
  exact runs_refill hEmpty (Nat.zero_le _) (by simpa using hFirst)
    (runs_zeros 2047 4091 (by decide) hCopy)

theorem runs_shifted :
    Runs parseFrame MessageBuffer.defaultMaxBufferedBytes .closed [] shiftedReads []
      (some (.protocol (.bufferLimitExceeded MessageBuffer.defaultMaxBufferedBytes
        (MessageBuffer.defaultMaxBufferedBytes + 1)))) := by
  have hEmpty : parseFrame [] = (.ok none, []) := parseFrame_short (by decide)
  have hType : parseFrame [100] = (.ok none, [100]) := parseFrame_short (by decide)
  have hSecond : secondChunk.bytes.length = 4096 := by simp [secondChunk]
  have hBoundary : boundaryChunk.bytes.length = 4096 := by simp [boundaryChunk]
  have hLimit : MessageBuffer.defaultMaxBufferedBytes = 8388608 := rfl
  have hBuffered : (copyHeader ++ zeros (4092 + 4096 * 2046)).length = 8384513 := by
    rw [List.length_append, length_zeros]
    rfl
  have hNone := @parseFrame_copy (zeros (4092 + 4096 * 2046)) (by rw [length_zeros]; decide)
  have hStops : Runs parseFrame MessageBuffer.defaultMaxBufferedBytes .closed
      (copyHeader ++ zeros (4092 + 4096 * 2046)) [boundaryChunk, lastChunk] [] _ :=
    runs_exceeded hNone (by omega) (by omega)
  rw [hBuffered, hBoundary] at hStops
  refine runs_refill hEmpty (Nat.zero_le _) (by decide) ?_
  refine runs_refill hType (by decide) (by rw [hSecond]; decide) ?_
  exact runs_zeros 2046 4092 (by decide) hStops

end Limit

end PgClient.Codec
