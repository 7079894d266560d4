import PgClient.Transport.ByteBuffer

/-!
The layout of the read buffer. Its positions stay within it, and compaction, growth and
a refill change where the bytes not consumed yet lie, but not which they are.
-/

namespace PgClient.Transport.ByteBuffer

namespace BufferedTransport

variable {T : Type}

/-- The positions of the read buffer lie within it, in their order. -/
structure Valid (t : BufferedTransport T) : Prop where
  readPos_le : t.readPos ≤ t.readLen
  readLen_le : t.readLen ≤ t.readBuf.length

variable {t : BufferedTransport T}

theorem valid_withCapacity (inner : T) (readCap writeCap : Nat) :
    (withCapacity inner readCap writeCap).Valid where
  readPos_le := Nat.le_refl 0
  readLen_le := Nat.zero_le _

theorem Valid.length_available (h : t.Valid) : t.available.length = t.readLen - t.readPos := by
  rw [available, List.length_drop, List.length_take, Nat.min_eq_left h.readLen_le]

theorem Valid.available_eq_nil (h : t.Valid) : t.available = [] ↔ ¬ t.readPos < t.readLen := by
  have hLength := h.length_available
  rw [← List.length_eq_zero_iff]
  omega

theorem Valid.length_compacted (h : t.Valid) :
    (t.available ++ t.readBuf.drop (t.readLen - t.readPos)).length = t.readBuf.length := by
  have hPos := h.readPos_le
  have hLen := h.readLen_le
  rw [List.length_append, h.length_available, List.length_drop]
  omega

@[simp] theorem readPos_compactRead (t : BufferedTransport T) : t.compactRead.readPos = 0 := by
  unfold compactRead
  split
  case isTrue => rfl
  case isFalse hZero => omega

@[simp] theorem readLen_compactRead (t : BufferedTransport T) :
    t.compactRead.readLen = t.readLen - t.readPos := by
  unfold compactRead
  split
  case isTrue => rfl
  case isFalse hZero => omega

@[simp] theorem inner_compactRead (t : BufferedTransport T) : t.compactRead.inner = t.inner := by
  unfold compactRead
  split <;> rfl

@[simp] theorem writeBuf_compactRead (t : BufferedTransport T) :
    t.compactRead.writeBuf = t.writeBuf := by
  unfold compactRead
  split <;> rfl

theorem Valid.length_compactRead (h : t.Valid) :
    t.compactRead.readBuf.length = t.readBuf.length := by
  unfold BufferedTransport.compactRead
  split
  case isTrue => exact h.length_compacted
  case isFalse => rfl

theorem Valid.compactRead (h : t.Valid) : t.compactRead.Valid where
  readPos_le := by
    rw [readPos_compactRead]
    exact Nat.zero_le _
  readLen_le := by
    rw [readLen_compactRead, h.length_compactRead]
    exact Nat.le_trans (Nat.sub_le _ _) h.readLen_le

/-- Compaction moves the bytes not consumed yet, and loses none. -/
theorem Valid.available_compactRead (h : t.Valid) : t.compactRead.available = t.available := by
  unfold BufferedTransport.compactRead
  split
  case isTrue =>
      rw [available, List.drop_zero, List.take_left' h.length_available]
  case isFalse => rfl

theorem length_le_ensureReadCapacity (minRemaining : Nat) (t : BufferedTransport T) :
    t.readBuf.length ≤ (t.ensureReadCapacity minRemaining).readBuf.length := by
  unfold ensureReadCapacity
  split
  case isTrue => exact List.length_append ▸ Nat.le_add_right _ _
  case isFalse => exact Nat.le_refl _

@[simp] theorem readPos_ensureReadCapacity (minRemaining : Nat) (t : BufferedTransport T) :
    (t.ensureReadCapacity minRemaining).readPos = t.readPos := by
  unfold ensureReadCapacity
  split <;> rfl

@[simp] theorem readLen_ensureReadCapacity (minRemaining : Nat) (t : BufferedTransport T) :
    (t.ensureReadCapacity minRemaining).readLen = t.readLen := by
  unfold ensureReadCapacity
  split <;> rfl

theorem Valid.ensureReadCapacity (h : t.Valid) (minRemaining : Nat) :
    (t.ensureReadCapacity minRemaining).Valid where
  readPos_le := by
    rw [readPos_ensureReadCapacity, readLen_ensureReadCapacity]
    exact h.readPos_le
  readLen_le := by
    rw [readLen_ensureReadCapacity]
    exact Nat.le_trans h.readLen_le (length_le_ensureReadCapacity minRemaining t)

theorem Valid.available_ensureReadCapacity (h : t.Valid) (minRemaining : Nat) :
    (t.ensureReadCapacity minRemaining).available = t.available := by
  unfold BufferedTransport.ensureReadCapacity
  split
  case isTrue => rw [available, available, List.take_append_of_le_length h.readLen_le]
  case isFalse => rfl

@[simp] theorem inner_ensureReadCapacity (minRemaining : Nat) (t : BufferedTransport T) :
    (t.ensureReadCapacity minRemaining).inner = t.inner := by
  unfold ensureReadCapacity
  split <;> rfl

@[simp] theorem writeBuf_ensureReadCapacity (minRemaining : Nat) (t : BufferedTransport T) :
    (t.ensureReadCapacity minRemaining).writeBuf = t.writeBuf := by
  unfold ensureReadCapacity
  split <;> rfl

/-- The room asked for is there afterwards. -/
theorem le_room_ensureReadCapacity (minRemaining : Nat) (t : BufferedTransport T) :
    minRemaining ≤ (t.ensureReadCapacity minRemaining).readBuf.length - t.readLen := by
  unfold ensureReadCapacity
  split
  case isTrue =>
      simp only [List.length_append, List.length_replicate]
      omega
  case isFalse hRoom => exact Nat.le_of_not_lt hRoom

theorem length_received (h : t.Valid) (data : Bytes)
    (hRoom : data.length ≤ t.readBuf.length - t.readLen) :
    (t.readBuf.take t.readLen ++ data ++ t.readBuf.drop (t.readLen + data.length)).length =
      t.readBuf.length := by
  have hLen := h.readLen_le
  simp only [List.length_append, List.length_take, List.length_drop]
  omega

theorem Valid.receive (h : t.Valid) {data : Bytes}
    (hRoom : data.length ≤ t.readBuf.length - t.readLen) : (t.receive data).Valid where
  readPos_le := Nat.le_add_right_of_le h.readPos_le
  readLen_le := by
    have hLen := h.readLen_le
    have hLength := length_received h data hRoom
    simp only [BufferedTransport.receive]
    omega

theorem Valid.available_receive (h : t.Valid) (data : Bytes) :
    (t.receive data).available = t.available ++ data := by
  have hFront : (t.readBuf.take t.readLen).length = t.readLen := by
    rw [List.length_take, Nat.min_eq_left h.readLen_le]
  have hPos : t.readPos ≤ (t.readBuf.take t.readLen).length := by
    rw [hFront]
    exact h.readPos_le
  have hTaken : (t.readBuf.take t.readLen ++ data).length = t.readLen + data.length := by
    rw [List.length_append, hFront]
  rw [available, BufferedTransport.receive, List.take_left' hTaken,
    List.drop_append_of_le_length hPos, available]

theorem Valid.advance (h : t.Valid) {n : Nat} (hn : n ≤ t.available.length) :
    ({ t with readPos := t.readPos + n } : BufferedTransport T).Valid where
  readPos_le := by
    have hLength := h.length_available
    have hPos := h.readPos_le
    simp only
    omega
  readLen_le := h.readLen_le

theorem available_advance (t : BufferedTransport T) (n : Nat) :
    ({ t with readPos := t.readPos + n } : BufferedTransport T).available = t.available.drop n := by
  rw [available, available, List.drop_drop]

theorem compactFragmented_cases (t : BufferedTransport T) :
    t.compactFragmented = t ∨ t.compactFragmented = t.compactRead := by
  unfold compactFragmented
  split
  case isTrue => exact .inr rfl
  case isFalse => exact .inl rfl

end BufferedTransport

end PgClient.Transport.ByteBuffer
