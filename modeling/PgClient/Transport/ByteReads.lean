import PgClient.Transport.Fifo

/-!
What single calls do. `read_exact` ends after the rounds it is given, with exactly the
bytes asked for, a read returns nothing only when nothing is left to return, and the
calls are those of the transport whose read buffer has no layout.
-/

namespace PgClient.Transport.ByteBuffer

open Async
open Transport.BufferedTransport (defaultReadCapacity)
open ByteBuffer.BufferedTransport

variable {ρ T α : Type} {ledger : Ledger T} {ops : AsyncTransport ρ T} {r : ρ}

theorem refill_ok (hLaws : ledger.Lawful ops r) {minRemaining : Nat} (hRoom : 0 < minRemaining)
    {t t' : BufferedTransport T} {data : Bytes} (hValid : t.Valid)
    (h : refill ops minRemaining r t = (.ok data, t')) :
    t'.Valid ∧ t'.available = t.available ++ data := by
  have hReady := hValid.compactRead.ensureReadCapacity minRemaining
  have hAvailable := hValid.compactRead.available_ensureReadCapacity minRemaining
  have hOffered := le_room_ensureReadCapacity minRemaining t.compactRead
  rw [← readLen_ensureReadCapacity minRemaining t.compactRead] at hOffered
  have hSize := Nat.lt_of_lt_of_le hRoom hOffered
  rw [refill, bind_apply, modify_apply, andThen_ok, bind_apply, get_apply, andThen_ok] at h
  obtain ⟨data', t₁, hBelow, hReceive⟩ := ok_of_bind h
  cases hRead : ops.read _ r (t.compactRead.ensureReadCapacity minRemaining).inner with
  | mk outcome inner =>
      rw [below_of_eq hRead] at hBelow
      cases hBelow
      cases hReceive
      have hValid' : ({ t.compactRead.ensureReadCapacity minRemaining with inner } :
          BufferedTransport T).Valid := ⟨hReady.readPos_le, hReady.readLen_le⟩
      refine ⟨hValid'.receive (hLaws.read_ok hSize hRead).1, ?_⟩
      rw [hValid'.available_receive]
      exact congrArg (· ++ data) (hAvailable.trans hValid.available_compactRead)

section ReadExact

variable {bufLen : Nat} {s s' : Bytes × BufferedTransport T}

/-- A round copies some of the bytes wanted, or receives some when none is buffered. -/
theorem readExactRound_ok (hLaws : ledger.Lawful ops r) (hValid : s.2.Valid)
    (hWanted : s.1.length < bufLen) (h : readExactRound ops bufLen r s = (.ok (), s')) :
    s'.2.Valid ∧ s'.1.length ≤ bufLen ∧
      if s.2.readPos < s.2.readLen then s.1.length < s'.1.length
      else s'.1 = s.1 ∧ s'.2.readPos < s'.2.readLen := by
  have hLength := hValid.length_available
  unfold readExactRound at h
  rw [bind_apply, get_apply, andThen_ok] at h
  by_cases hBuffered : s.2.readPos < s.2.readLen
  · rw [if_pos hBuffered] at h ⊢
    cases h
    refine ⟨hValid.advance (Nat.min_le_right _ _), ?_, ?_⟩ <;>
    · simp only [copyOut, List.length_append, List.length_take]
      omega
  · rw [if_neg hBuffered] at h ⊢
    obtain ⟨data, s₁, hRefill, hSome⟩ := ok_of_bind h
    have hRoom : 0 < bufLen - s.1.length := Nat.sub_pos_of_lt hWanted
    rw [onSnd_apply, Prod.mk.injEq] at hRefill
    obtain ⟨hData, rfl⟩ := hRefill
    obtain ⟨hValid', hAvailable⟩ := refill_ok hLaws hRoom hValid (Prod.ext hData rfl)
    by_cases hEmpty : data = []
    · rw [failIf_pos hEmpty] at hSome
      cases hSome
    · rw [failIf_neg hEmpty] at hSome
      cases hSome
      refine ⟨hValid', Nat.le_of_lt hWanted, rfl, ?_⟩
      rw [← not_not (a := _ < _), ← hValid'.available_eq_nil, hAvailable, List.append_eq_nil_iff]
      exact fun hNil => hEmpty hNil.2

/-- The rounds that `read_exact` takes at most from here. -/
def roundsLeft (bufLen : Nat) (s : Bytes × BufferedTransport T) : Nat :=
  2 * (bufLen - s.1.length) - if s.2.readPos < s.2.readLen then 1 else 0

/-- More rounds than are needed change nothing, so that none is missing. -/
theorem readExactLoop_succ (hLaws : ledger.Lawful ops r) {rounds : Nat} (hValid : s.2.Valid)
    (hRounds : roundsLeft bufLen s < rounds) :
    readExactLoop ops bufLen (rounds + 1) r s = readExactLoop ops bufLen rounds r s := by
  induction rounds generalizing s with
  | zero => exact absurd hRounds (Nat.not_lt_zero _)
  | succ rounds ih =>
      rw [readExactLoop, readExactLoop, bind_apply, bind_apply, get_apply, andThen_ok, andThen_ok]
      by_cases hWanted : s.1.length < bufLen
      · rw [doIf_pos hWanted, doIf_pos hWanted, bind_apply, bind_apply]
        cases hRound : readExactRound ops bufLen r s with
        | mk outcome s₁ =>
            cases outcome with
            | ok done =>
                have hAfter := readExactRound_ok hLaws hValid hWanted hRound
                refine ih hAfter.1 ?_
                obtain ⟨-, hFilled, hProgress⟩ := hAfter
                unfold roundsLeft at hRounds ⊢
                by_cases hBuffered : s.2.readPos < s.2.readLen
                · rw [if_pos hBuffered] at hProgress hRounds
                  split <;> omega
                · rw [if_neg hBuffered] at hProgress hRounds
                  rw [hProgress.1, if_pos hProgress.2]
                  omega
            | err e => rfl
            | pending => rfl
      · rw [doIf_neg hWanted, doIf_neg hWanted]

/-- The bound on the rounds of `read_exact` is never what stops it. -/
theorem readExactLoop_enough (hLaws : ledger.Lawful ops r) {t : BufferedTransport T}
    (hValid : t.Valid) {rounds : Nat} (hRounds : 2 * bufLen + 1 ≤ rounds) :
    readExactLoop ops bufLen rounds r ([], t) =
      readExactLoop ops bufLen (2 * bufLen + 1) r ([], t) := by
  induction hRounds with
  | refl => rfl
  | @step rounds hRounds ih =>
      have hLeft : roundsLeft bufLen ([], t) < rounds :=
        Nat.lt_of_le_of_lt (Nat.sub_le _ _) hRounds
      exact (readExactLoop_succ hLaws hValid hLeft).trans ih

/-- A `read_exact` that succeeds has filled the whole buffer. -/
theorem readExactLoop_ok (hLaws : ledger.Lawful ops r) {rounds : Nat} (hValid : s.2.Valid)
    (hFilled : s.1.length ≤ bufLen) (h : readExactLoop ops bufLen rounds r s = (.ok (), s')) :
    s'.1.length = bufLen := by
  induction rounds generalizing s with
  | zero => cases h
  | succ rounds ih =>
      rw [readExactLoop, bind_apply, get_apply, andThen_ok] at h
      by_cases hWanted : s.1.length < bufLen
      · rw [doIf_pos hWanted] at h
        obtain ⟨_, s₁, hRound, hRest⟩ := ok_of_bind h
        have hAfter := readExactRound_ok hLaws hValid hWanted hRound
        exact ih hAfter.1 hAfter.2.1 hRest
      · rw [doIf_neg hWanted] at h
        cases h
        omega

theorem readExact_ok (hLaws : ledger.Lawful ops r) {t t' : BufferedTransport T} {filled : Bytes}
    (hValid : t.Valid) (h : readExact ops bufLen r ([], t) = (.ok (), (filled, t'))) :
    filled.length = bufLen := by
  obtain ⟨_, s₁, hLoop, hCompact⟩ := ok_of_bind h
  cases hCompact
  exact readExactLoop_ok hLaws hValid (Nat.zero_le _) hLoop

end ReadExact

/-- A read into a buffer with room returns nothing only when all bytes are delivered. -/
theorem read_nothing (hLaws : ledger.Lawful ops r) {bufLen : Nat} (hRoom : 0 < bufLen)
    {s s' : Bytes × BufferedTransport T} (hValid : s.2.Valid)
    (h : BufferedTransport.read ops bufLen r s = (.ok 0, s')) :
    s'.1 = s.1 ∧ s'.2.available = [] := by
  have hLength := hValid.length_available
  unfold BufferedTransport.read at h
  rw [bind_apply, get_apply, andThen_ok] at h
  by_cases hBuffered : s.2.readPos < s.2.readLen
  · rw [if_pos hBuffered] at h
    have hCount : min bufLen s.2.available.length = 0 := by
      injection h with hOutcome
      injection hOutcome
    omega
  · rw [if_neg hBuffered] at h
    obtain ⟨data, s₁, hRefill, hRest⟩ := ok_of_bind h
    rw [onSnd_apply, Prod.mk.injEq] at hRefill
    obtain ⟨hData, rfl⟩ := hRefill
    obtain ⟨hValid', hAvailable⟩ :=
      refill_ok hLaws (by decide) hValid (Prod.ext hData rfl)
    rw [hValid.available_eq_nil.mpr hBuffered, List.nil_append] at hAvailable
    by_cases hEmpty : data = []
    · rw [if_pos hEmpty] at hRest
      cases hRest
      exact ⟨rfl, hAvailable.trans hEmpty⟩
    · rw [if_neg hEmpty] at hRest
      have hCount : min bufLen data.length = 0 := by
        injection hRest with hOutcome
        injection hOutcome with hCount
        rw [← hAvailable]
        exact hCount
      have hSome := List.length_pos_of_ne_nil hEmpty
      omega

section Layout

/-- The transport with the layout of its read buffer forgotten. -/
def BufferedTransport.flat (t : BufferedTransport T) : Transport.BufferedTransport T where
  inner := t.inner
  readBuf := t.available
  readCapacity := t.readBuf.length
  writeBuf := t.writeBuf

theorem flat_relaid {t t' : BufferedTransport T} (hInner : t'.inner = t.inner)
    (hAvailable : t'.available = t.available)
    (hLength : t'.readBuf.length = t.readBuf.length) (hWriteBuf : t'.writeBuf = t.writeBuf) :
    t'.flat = t.flat := by
  rw [flat, flat, hInner, hAvailable, hLength, hWriteBuf]

theorem flat_compactRead {t : BufferedTransport T} (hValid : t.Valid) :
    t.compactRead.flat = t.flat :=
  flat_relaid (inner_compactRead t) hValid.available_compactRead hValid.length_compactRead
    (writeBuf_compactRead t)

theorem flat_compactFragmented {t : BufferedTransport T} (hValid : t.Valid) :
    t.compactFragmented.flat = t.flat := by
  obtain hSame | hCompact := compactFragmented_cases t
  · rw [hSame]
  · rw [hCompact, flat_compactRead hValid]

theorem flat_flushWrite (t : BufferedTransport T) :
    Transport.BufferedTransport.flushWrite ops r t.flat =
      ((BufferedTransport.flushWrite ops r t).1,
        (BufferedTransport.flushWrite ops r t).2.flat) := by
  unfold BufferedTransport.flushWrite Transport.BufferedTransport.flushWrite
  rw [bind_apply, bind_apply, get_apply, get_apply, andThen_ok, andThen_ok]
  by_cases hEmpty : t.writeBuf ≠ []
  · have hEmpty' : t.flat.writeBuf ≠ [] := hEmpty
    rw [doIf_pos hEmpty, doIf_pos hEmpty', bind_apply, bind_apply, below,
      Transport.BufferedTransport.below]
    cases hWrite : ops.writeAll t.writeBuf r t.inner with
    | mk outcome inner =>
        have hWrite' : ops.writeAll t.flat.writeBuf r t.flat.inner = (outcome, inner) := hWrite
        rw [hWrite']
        cases outcome <;> rfl
  · have hEmpty' : ¬ t.flat.writeBuf ≠ [] := hEmpty
    rw [doIf_neg hEmpty, doIf_neg hEmpty']
    rfl

theorem flat_below {t : BufferedTransport T} (x : Async ρ T TransportError α) :
    Transport.BufferedTransport.below x r t.flat =
      ((below x r t).1, (below x r t).2.flat) := rfl

/-- A flush of the write buffer and then a call on the transport below. -/
theorem flat_flushed (t : BufferedTransport T) (x : Async ρ T TransportError Unit) :
    (Transport.BufferedTransport.flushWrite ops >>= fun _ => Transport.BufferedTransport.below x)
        r t.flat =
      (((BufferedTransport.flushWrite ops >>= fun _ => below x) r t).1,
        ((BufferedTransport.flushWrite ops >>= fun _ => below x) r t).2.flat) := by
  rw [bind_apply, bind_apply, flat_flushWrite]
  cases hWrite : BufferedTransport.flushWrite ops r t with
  | mk outcome t' =>
      cases outcome with
      | ok done => exact flat_below x
      | err e => rfl
      | pending => rfl

theorem flat_flush (t : BufferedTransport T) :
    Transport.BufferedTransport.flush ops r t.flat =
      ((BufferedTransport.flush ops r t).1, (BufferedTransport.flush ops r t).2.flat) :=
  flat_flushed t ops.flush

theorem flat_shutdown (t : BufferedTransport T) :
    Transport.BufferedTransport.shutdown ops r t.flat =
      ((BufferedTransport.shutdown ops r t).1, (BufferedTransport.shutdown ops r t).2.flat) :=
  flat_flushed t ops.shutdown

theorem flat_writeAll (t : BufferedTransport T) (buf : Bytes) :
    Transport.BufferedTransport.writeAll ops buf r t.flat =
      ((BufferedTransport.writeAll ops buf r t).1,
        (BufferedTransport.writeAll ops buf r t).2.flat) := by
  unfold BufferedTransport.writeAll Transport.BufferedTransport.writeAll
  simp only [bind_apply, modify_apply, andThen_ok, get_apply]
  by_cases hFull :
      Transport.BufferedTransport.writeBufferFlushThreshold ≤ (t.writeBuf ++ buf).length
  · have hFull' : Transport.BufferedTransport.writeBufferFlushThreshold ≤
        (t.flat.writeBuf ++ buf).length := hFull
    rw [doIf_pos hFull, doIf_pos hFull']
    exact flat_flushWrite { t with writeBuf := t.writeBuf ++ buf }
  · have hFull' : ¬ Transport.BufferedTransport.writeBufferFlushThreshold ≤
        (t.flat.writeBuf ++ buf).length := hFull
    rw [doIf_neg hFull, doIf_neg hFull']
    rfl

/-- Growing the buffer once it is compacted and all of it is free. -/
theorem flat_ensureReadCapacity {t : BufferedTransport T} (hValid : t.Valid)
    (hEmpty : t.available = []) (minRemaining : Nat) :
    (t.compactRead.ensureReadCapacity minRemaining).flat =
      t.flat.ensureReadCapacity minRemaining := by
  have hLen : t.compactRead.readLen = 0 := by
    have hPos := hValid.available_eq_nil.mp hEmpty
    rw [readLen_compactRead]
    omega
  have hFlat := flat_compactRead hValid
  have hAvailable := hValid.compactRead.available_ensureReadCapacity minRemaining
  have hLength : t.compactRead.readBuf.length = t.flat.readCapacity := hValid.length_compactRead
  rw [← hFlat] at hLength ⊢
  unfold flat at hLength ⊢
  rw [hAvailable, inner_ensureReadCapacity, writeBuf_ensureReadCapacity]
  unfold BufferedTransport.ensureReadCapacity Transport.BufferedTransport.ensureReadCapacity
  simp only [hLen, Nat.sub_zero, Nat.zero_add]
  split
  · simp only [List.length_append, List.length_replicate]
    congr 1
    omega
  · rfl

/-- The bytes copied to the caller are the first ones buffered, however few there are. -/
theorem flat_copyOut {t : BufferedTransport T} (bufLen : Nat) :
    (copyOut (min bufLen t.available.length) ([], t)).1 = t.available.take bufLen ∧
      (copyOut (min bufLen t.available.length) ([], t)).2.flat =
        { t.flat with readBuf := t.available.drop bufLen } := by
  constructor
  · rw [copyOut, List.nil_append, ← List.take_eq_take_min]
  · rw [copyOut, flat, available_advance, ← List.drop_eq_drop_min]
    rfl

/-- A read that finds bytes buffered. -/
theorem flat_read_buffered (bufLen : Nat) {t : BufferedTransport T} (hValid : t.Valid)
    (hBuffered : t.readPos < t.readLen) :
    let result := BufferedTransport.read ops bufLen r ([], t)
    Transport.BufferedTransport.read ops bufLen r t.flat =
      (result.1.map fun _ => result.2.1, result.2.2.flat) := by
  intro result
  have hSome : ¬ t.flat.readBuf = [] := fun hEmpty => hValid.available_eq_nil.mp hEmpty hBuffered
  have hResult : result = (.ok (min bufLen t.available.length),
      Prod.map id compactFragmented (copyOut (min bufLen t.available.length) ([], t))) := by
    show BufferedTransport.read ops bufLen r ([], t) = _
    unfold BufferedTransport.read
    rw [bind_apply, get_apply, andThen_ok, if_pos hBuffered]
    rfl
  have hAdvanced := hValid.advance (Nat.min_le_right bufLen t.available.length)
  obtain ⟨hFilled, hFlat⟩ := @flat_copyOut T t bufLen
  unfold Transport.BufferedTransport.read
  rw [bind_apply, get_apply, andThen_ok, doIf_neg hSome, hResult]
  show (Outcome.ok (t.available.take bufLen), _) = _
  rw [← hFilled]
  exact Prod.ext rfl (hFlat.symm.trans (flat_compactFragmented hAdvanced).symm)

/-- What a refill has received, with the rest of the buffer free before it. -/
theorem flat_receive {ready : BufferedTransport T} (hReady : ready.Valid)
    (hNone : ready.available = []) {inner : T} {data : Bytes}
    (hFree : data.length ≤ ready.readBuf.length - ready.readLen) :
    (receive data { ready with inner }).available = data ∧
      (receive data { ready with inner }).flat = { ready.flat with inner, readBuf := data } := by
  have hValid : ({ ready with inner } : BufferedTransport T).Valid :=
    ⟨hReady.readPos_le, hReady.readLen_le⟩
  have hData : (receive data { ready with inner }).available = data := by
    rw [hValid.available_receive]
    exact congrArg (· ++ data) hNone
  refine ⟨hData, ?_⟩
  rw [flat, hData]
  exact congrArg (Transport.BufferedTransport.mk inner data · ready.writeBuf)
    (length_received hValid data hFree)

/-- A read that asks the transport below. -/
theorem flat_read_refilled (hLaws : ledger.Lawful ops r) (bufLen : Nat) {t : BufferedTransport T}
    (hValid : t.Valid) (hEmpty : t.available = []) :
    let result := BufferedTransport.read ops bufLen r ([], t)
    Transport.BufferedTransport.read ops bufLen r t.flat =
      (result.1.map fun _ => result.2.1, result.2.2.flat) := by
  intro result
  have hBuffered := hValid.available_eq_nil.mp hEmpty
  have hEmpty' : t.flat.readBuf = [] := hEmpty
  have hEnsure := flat_ensureReadCapacity hValid hEmpty defaultReadCapacity
  have hReady := hValid.compactRead.ensureReadCapacity defaultReadCapacity
  have hSize : 0 < (t.compactRead.ensureReadCapacity defaultReadCapacity).readBuf.length := by
    have hOffered := le_room_ensureReadCapacity defaultReadCapacity t.compactRead
    have hDefault : defaultReadCapacity = 8192 := rfl
    omega
  have hReadLen : (t.compactRead.ensureReadCapacity defaultReadCapacity).readLen = 0 := by
    rw [readLen_ensureReadCapacity, readLen_compactRead]
    omega
  have hNone : (t.compactRead.ensureReadCapacity defaultReadCapacity).available = [] := by
    rw [hValid.compactRead.available_ensureReadCapacity, hValid.available_compactRead, hEmpty]
  have hResult : result = BufferedTransport.read ops bufLen r ([], t) := rfl
  unfold BufferedTransport.read refill at hResult
  rw [bind_apply, get_apply, andThen_ok, if_neg hBuffered, bind_apply, onSnd_apply, bind_apply,
    modify_apply, andThen_ok, bind_apply, get_apply, andThen_ok, bind_apply, hReadLen,
    Nat.sub_zero] at hResult
  unfold Transport.BufferedTransport.read
  rw [bind_apply, get_apply, andThen_ok, doIf_pos hEmpty']
  simp only [bind_apply, modify_apply, andThen_ok, get_apply, ← hEnsure]
  generalize t.compactRead.ensureReadCapacity defaultReadCapacity = ready at *
  rw [flat_below]
  show _ = _
  cases hRead : ops.read ready.readBuf.length r ready.inner with
  | mk outcome inner =>
      have hRead' : ops.read ready.flat.readCapacity r ready.inner = (outcome, inner) := hRead
      rw [below_of_eq hRead']
      rw [below_of_eq hRead] at hResult
      cases outcome with
      | ok data =>
          have hFree : data.length ≤ ready.readBuf.length - ready.readLen := by
            rw [hReadLen, Nat.sub_zero]
            exact (hLaws.read_ok hSize hRead).1
          obtain ⟨hData, hFlat⟩ := @flat_receive T ready hReady hNone inner data hFree
          obtain ⟨hFilled, hCopied⟩ := @flat_copyOut T (receive data { ready with inner }) bufLen
          rw [andThen_ok, bind_apply, modify_apply, andThen_ok, pure_apply, andThen_ok] at hResult
          show (Outcome.ok (data.take bufLen),
            { ready.flat with inner, readBuf := data.drop bufLen }) = _
          by_cases hEnd : data = []
          · rw [if_pos hEnd] at hResult
            rw [hResult]
            show _ = (Outcome.ok [], (receive data { ready with inner }).flat)
            rw [hFlat, hEnd, List.take_nil, List.drop_nil]
          · rw [if_neg hEnd] at hResult
            rw [hResult]
            rw [hData] at hFilled hCopied
            rw [hFlat] at hCopied
            refine Prod.ext ?_ ?_
            · show Outcome.ok (data.take bufLen) = Outcome.ok (copyOut _ _).1
              rw [hData]
              exact congrArg Outcome.ok hFilled.symm
            · show _ = (copyOut _ _).2.flat
              rw [hData]
              exact hCopied.symm
      | err e =>
          rw [hResult]
          rfl
      | pending =>
          rw [hResult]
          rfl

/-- A read is the read of the transport without a layout. -/
theorem flat_read (hLaws : ledger.Lawful ops r) (bufLen : Nat) {t : BufferedTransport T}
    (hValid : t.Valid) :
    let result := BufferedTransport.read ops bufLen r ([], t)
    Transport.BufferedTransport.read ops bufLen r t.flat =
      (result.1.map fun _ => result.2.1, result.2.2.flat) := by
  by_cases hBuffered : t.readPos < t.readLen
  · exact flat_read_buffered bufLen hValid hBuffered
  · exact flat_read_refilled hLaws bufLen hValid (hValid.available_eq_nil.mpr hBuffered)

end Layout

end PgClient.Transport.ByteBuffer
