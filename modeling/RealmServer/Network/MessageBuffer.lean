import Mathlib

/-!
# Message buffers

`MessageBuffer` as the sockets use it: a block of bytes with a read and a write
position.  The sizes are `std::size_t`, so a read position beyond the write
position does not give an error but a huge active size; `getActiveSize` and
`getRemainingSpace` model the wrap.

A valid buffer is a queue of bytes.  `active` is that queue, and each operation
gets one lemma which says what it does to `active` and that it keeps the buffer
valid.
-/

namespace RealmServer.Network

/-- A byte string as it stands in a buffer. -/
abbrev Bytes := List UInt8

/-- The size of a buffer that nobody gives another size. -/
def defaultBufferSize : Nat := 4096

structure MessageBuffer where
  storage : Bytes
  rpos : Nat := 0
  wpos : Nat := 0
deriving DecidableEq, Repr

namespace MessageBuffer

/-! ## Operations -/

/-- `MessageBuffer(std::size_t initialSize)`. -/
def ofSize (initialSize : Nat) : MessageBuffer where
  storage := List.replicate initialSize 0

/-- `MessageBuffer(Storage&& storage)`: all of it is active. -/
def ofStorage (storage : Bytes) : MessageBuffer where
  storage := storage
  wpos := storage.length

/-- Subtraction of `std::size_t`. -/
def sizeSub (first second : Nat) : Nat :=
  if second ≤ first then first - second else 2 ^ 64 - (second - first)

def getActiveSize (buffer : MessageBuffer) : Nat :=
  sizeSub buffer.wpos buffer.rpos

def getRemainingSpace (buffer : MessageBuffer) : Nat :=
  sizeSub buffer.storage.length buffer.wpos

def getBufferSize (buffer : MessageBuffer) : Nat := buffer.storage.length

/-- `GetReadPointer()[offset]`. -/
def byteAt (buffer : MessageBuffer) (offset : Nat) : UInt8 :=
  buffer.storage.getD (buffer.rpos + offset) 0

/-- `size` bytes from `GetReadPointer() + offset` on. -/
def bytesAt (buffer : MessageBuffer) (offset size : Nat) : Bytes :=
  (List.range size).map fun index => buffer.byteAt (offset + index)

def reset (buffer : MessageBuffer) : MessageBuffer :=
  { buffer with rpos := 0, wpos := 0 }

/-- `std::vector::resize`: cut, or filled up with zeros. -/
def resize (buffer : MessageBuffer) (bytes : Nat) : MessageBuffer :=
  { buffer with
    storage := buffer.storage.take bytes ++
      List.replicate (bytes - buffer.storage.length) 0 }

def readCompleted (buffer : MessageBuffer) (bytes : Nat) : MessageBuffer :=
  { buffer with rpos := buffer.rpos + bytes }

def writeCompleted (buffer : MessageBuffer) (bytes : Nat) : MessageBuffer :=
  { buffer with wpos := buffer.wpos + bytes }

/-- The bytes between the read and the write position. -/
def active (buffer : MessageBuffer) : Bytes :=
  (buffer.storage.take buffer.wpos).drop buffer.rpos

def normalize (buffer : MessageBuffer) : MessageBuffer :=
  if buffer.rpos = 0 then buffer
  else
    { storage := buffer.active ++ buffer.storage.drop buffer.active.length
      rpos := 0
      wpos := sizeSub buffer.wpos buffer.rpos }

def ensureFreeSpace (buffer : MessageBuffer) : MessageBuffer :=
  if buffer.getRemainingSpace = 0 then
    buffer.resize (buffer.storage.length * 3 / 2)
  else buffer

/-- `memcpy` to the write position; the block does not grow. -/
def store (buffer : MessageBuffer) (data : Bytes) : MessageBuffer :=
  { buffer with
    storage := (buffer.storage.take buffer.wpos ++ data ++
      buffer.storage.drop (buffer.wpos + data.length)).take buffer.storage.length }

def write (buffer : MessageBuffer) (data : Bytes) : MessageBuffer :=
  if data.length = 0 then buffer
  else (buffer.store data).writeCompleted data.length

/-- Bytes are changed in place, from the read pointer on. -/
def overwrite (buffer : MessageBuffer) (data : Bytes) : MessageBuffer :=
  { buffer with
    storage := buffer.storage.take buffer.rpos ++ data ++
      buffer.storage.drop (buffer.rpos + data.length) }

/-- `Move`: the storage, and the buffer it was taken from. -/
def move (buffer : MessageBuffer) : Bytes × MessageBuffer :=
  (buffer.storage, { storage := [] })

/-! ## Valid buffers -/

structure Valid (buffer : MessageBuffer) : Prop where
  readBelowWrite : buffer.rpos ≤ buffer.wpos
  writeBelowSize : buffer.wpos ≤ buffer.storage.length

instance (buffer : MessageBuffer) : Decidable buffer.Valid :=
  decidable_of_iff
    (buffer.rpos ≤ buffer.wpos ∧ buffer.wpos ≤ buffer.storage.length)
    ⟨fun both => ⟨both.1, both.2⟩, fun valid => ⟨valid.1, valid.2⟩⟩

variable {buffer : MessageBuffer}

theorem sizeSub_of_le {first second : Nat} (le : second ≤ first) :
    sizeSub first second = first - second := if_pos le

@[simp]
theorem active_length (valid : buffer.Valid) :
    buffer.active.length = buffer.wpos - buffer.rpos := by
  have bounded := valid.writeBelowSize
  simp only [active, List.length_drop, List.length_take]
  omega

theorem getActiveSize_eq (valid : buffer.Valid) :
    buffer.getActiveSize = buffer.active.length := by
  rw [getActiveSize, sizeSub_of_le valid.readBelowWrite, active_length valid]

theorem getRemainingSpace_eq (valid : buffer.Valid) :
    buffer.getRemainingSpace = buffer.storage.length - buffer.wpos :=
  sizeSub_of_le valid.writeBelowSize

theorem byteAt_eq (valid : buffer.Valid) {offset : Nat}
    (inside : offset < buffer.active.length) :
    buffer.byteAt offset = buffer.active.getD offset 0 := by
  rw [active_length valid] at inside
  simp only [byteAt, active, List.getD_eq_getElem?_getD, List.getElem?_drop]
  rw [List.getElem?_take_of_lt (by omega)]

theorem bytesAt_eq (valid : buffer.Valid) {offset size : Nat}
    (inside : offset + size ≤ buffer.active.length) :
    buffer.bytesAt offset size = (buffer.active.drop offset).take size := by
  have sameLength : (buffer.bytesAt offset size).length =
      ((buffer.active.drop offset).take size).length := by
    rw [bytesAt, List.length_map, List.length_range, List.length_take,
      List.length_drop]
    omega
  apply List.ext_getElem sameLength
  intro index bound _
  have below : index < size := by simpa [bytesAt] using bound
  simp only [bytesAt, List.getElem_map, List.getElem_range, List.getElem_take,
    List.getElem_drop]
  rw [byteAt_eq valid (by omega),
    List.getD_eq_getElem _ _ (by omega)]

/-! ## What the operations do to the queue -/

theorem ofSize_valid (initialSize : Nat) : (ofSize initialSize).Valid :=
  ⟨Nat.le_refl 0, Nat.zero_le _⟩

@[simp]
theorem ofSize_active (initialSize : Nat) : (ofSize initialSize).active = [] := by
  simp [active, ofSize]

@[simp]
theorem ofSize_remaining (initialSize : Nat) :
    (ofSize initialSize).getRemainingSpace = initialSize := by
  rw [getRemainingSpace_eq (ofSize_valid initialSize)]
  simp [ofSize]

theorem reset_valid (buffer : MessageBuffer) : buffer.reset.Valid :=
  ⟨Nat.le_refl 0, Nat.zero_le _⟩

@[simp]
theorem reset_active (buffer : MessageBuffer) : buffer.reset.active = [] := by
  simp [active, reset]

@[simp]
theorem resize_length (buffer : MessageBuffer) (bytes : Nat) :
    (buffer.resize bytes).storage.length = bytes := by
  simp only [resize, List.length_append, List.length_take, List.length_replicate]
  omega

/-- Resizing may cut what is beyond the write position only. -/
theorem resize_valid (valid : buffer.Valid) {bytes : Nat}
    (enough : buffer.wpos ≤ bytes) : (buffer.resize bytes).Valid where
  readBelowWrite := valid.readBelowWrite
  writeBelowSize := by
    rw [resize_length]
    exact enough

theorem resize_active (valid : buffer.Valid) {bytes : Nat}
    (enough : buffer.wpos ≤ bytes) :
    (buffer.resize bytes).active = buffer.active := by
  have bounded := valid.writeBelowSize
  have kept : (buffer.storage.take bytes ++
      List.replicate (bytes - buffer.storage.length) 0).take buffer.wpos =
        buffer.storage.take buffer.wpos := by
    rw [List.take_append_of_le_length (by rw [List.length_take]; omega),
      List.take_take, Nat.min_eq_left enough]
  show ((buffer.storage.take bytes ++ _).take buffer.wpos).drop buffer.rpos = _
  rw [kept]
  rfl

theorem readCompleted_valid (valid : buffer.Valid) {bytes : Nat}
    (available : bytes ≤ buffer.active.length) : (buffer.readCompleted bytes).Valid where
  readBelowWrite := by
    rw [active_length valid] at available
    have below := valid.readBelowWrite
    show buffer.rpos + bytes ≤ buffer.wpos
    omega
  writeBelowSize := valid.writeBelowSize

/-- The buffer breaks as soon as more bytes are read than there are. -/
theorem readCompleted_valid_iff (valid : buffer.Valid) (bytes : Nat) :
    (buffer.readCompleted bytes).Valid ↔ bytes ≤ buffer.active.length := by
  constructor
  · intro still
    have ordered : buffer.rpos + bytes ≤ buffer.wpos := still.readBelowWrite
    rw [active_length valid]
    omega
  · exact readCompleted_valid valid

@[simp]
theorem readCompleted_active (buffer : MessageBuffer) (bytes : Nat) :
    (buffer.readCompleted bytes).active = buffer.active.drop bytes := by
  simp only [active, readCompleted, List.drop_drop]

theorem readCompleted_add (buffer : MessageBuffer) (first second : Nat) :
    (buffer.readCompleted first).readCompleted second =
      buffer.readCompleted (first + second) := by
  simp only [readCompleted, Nat.add_assoc]

theorem normalize_valid (valid : buffer.Valid) : buffer.normalize.Valid := by
  unfold normalize
  split
  · exact valid
  · have ordered := valid.readBelowWrite
    have bounded := valid.writeBelowSize
    refine ⟨Nat.zero_le _, ?_⟩
    show sizeSub buffer.wpos buffer.rpos ≤ _
    rw [sizeSub_of_le ordered, List.length_append, active_length valid]
    exact Nat.le_add_right _ _

@[simp]
theorem normalize_active (valid : buffer.Valid) :
    buffer.normalize.active = buffer.active := by
  unfold normalize
  split
  · rfl
  · show (List.take (sizeSub buffer.wpos buffer.rpos) _).drop 0 = _
    rw [sizeSub_of_le valid.readBelowWrite, ← active_length valid,
      List.take_left' rfl, List.drop_zero]

theorem normalize_length (valid : buffer.Valid) :
    buffer.normalize.storage.length = buffer.storage.length := by
  unfold normalize
  split
  · rfl
  · have bounded := valid.writeBelowSize
    rw [List.length_append, List.length_drop, active_length valid]
    omega

theorem ensureFreeSpace_enough (valid : buffer.Valid) :
    buffer.getRemainingSpace = 0 → buffer.wpos ≤ buffer.storage.length * 3 / 2 := by
  intro _
  have bounded := valid.writeBelowSize
  omega

theorem ensureFreeSpace_valid (valid : buffer.Valid) : buffer.ensureFreeSpace.Valid := by
  unfold ensureFreeSpace
  split
  · exact resize_valid valid (ensureFreeSpace_enough valid ‹_›)
  · exact valid

@[simp]
theorem ensureFreeSpace_active (valid : buffer.Valid) :
    buffer.ensureFreeSpace.active = buffer.active := by
  unfold ensureFreeSpace
  split
  · exact resize_active valid (ensureFreeSpace_enough valid ‹_›)
  · rfl

/-- After it there is space for at least one byte, unless the buffer was tiny. -/
theorem ensureFreeSpace_remaining (valid : buffer.Valid)
    (two : 2 ≤ buffer.storage.length) :
    0 < buffer.ensureFreeSpace.getRemainingSpace := by
  unfold ensureFreeSpace
  split
  case isTrue full =>
      rw [getRemainingSpace_eq valid] at full
      rw [getRemainingSpace_eq
        (resize_valid valid (by have := valid.writeBelowSize; omega)), resize_length]
      have bounded := valid.writeBelowSize
      show 0 < buffer.storage.length * 3 / 2 - buffer.wpos
      omega
  case isFalse some => exact Nat.pos_of_ne_zero some

theorem ensureFreeSpace_length (buffer : MessageBuffer) :
    buffer.storage.length ≤ buffer.ensureFreeSpace.storage.length := by
  unfold ensureFreeSpace
  split
  · rw [resize_length]
    omega
  · exact Nat.le_refl _

theorem write_eq (buffer : MessageBuffer) (data : Bytes) :
    buffer.write data = (buffer.store data).writeCompleted data.length := by
  unfold write
  split
  case isTrue none =>
      rw [List.length_eq_zero_iff] at none
      subst none
      simp [store, writeCompleted]
  case isFalse => rfl

@[simp]
theorem write_length (valid : buffer.Valid) (data : Bytes) :
    (buffer.write data).storage.length = buffer.storage.length := by
  have bounded := valid.writeBelowSize
  rw [write_eq]
  show (List.take _ (_ ++ data ++ _)).length = _
  simp only [List.length_append, List.length_take, List.length_drop]
  omega

theorem write_valid (valid : buffer.Valid) {data : Bytes}
    (space : data.length ≤ buffer.getRemainingSpace) : (buffer.write data).Valid := by
  rw [getRemainingSpace_eq valid] at space
  have ordered := valid.readBelowWrite
  have bounded := valid.writeBelowSize
  constructor
  · rw [write_eq]
    show buffer.rpos ≤ buffer.wpos + data.length
    omega
  · rw [write_length valid, write_eq]
    show buffer.wpos + data.length ≤ buffer.storage.length
    omega

theorem write_active (valid : buffer.Valid) {data : Bytes}
    (space : data.length ≤ buffer.getRemainingSpace) :
    (buffer.write data).active = buffer.active ++ data := by
  rw [getRemainingSpace_eq valid] at space
  have ordered := valid.readBelowWrite
  have bounded := valid.writeBelowSize
  have before : (buffer.storage.take buffer.wpos).length = buffer.wpos :=
    List.length_take_of_le bounded
  rw [write_eq]
  show (List.take (buffer.wpos + data.length)
    (List.take buffer.storage.length
      (buffer.storage.take buffer.wpos ++ data ++ _))).drop buffer.rpos = _
  rw [List.take_take, Nat.min_eq_left (by omega),
    List.take_left' (by rw [List.length_append, before]),
    List.drop_append_of_le_length (by rw [before]; exact ordered)]
  rfl

theorem write_remaining (valid : buffer.Valid) {data : Bytes}
    (space : data.length ≤ buffer.getRemainingSpace) :
    (buffer.write data).getRemainingSpace =
      buffer.getRemainingSpace - data.length := by
  rw [getRemainingSpace_eq (write_valid valid space), write_length valid,
    getRemainingSpace_eq valid, write_eq]
  show buffer.storage.length - (buffer.wpos + data.length) = _
  omega

theorem overwrite_length {data : Bytes}
    (inside : buffer.rpos + data.length ≤ buffer.storage.length) :
    (buffer.overwrite data).storage.length = buffer.storage.length := by
  show (_ ++ data ++ _ : Bytes).length = _
  simp only [List.length_append, List.length_take, List.length_drop]
  omega

theorem overwrite_valid (valid : buffer.Valid) {data : Bytes}
    (whole : data.length = buffer.active.length) : (buffer.overwrite data).Valid where
  readBelowWrite := valid.readBelowWrite
  writeBelowSize := by
    have ordered := valid.readBelowWrite
    have bounded := valid.writeBelowSize
    rw [active_length valid] at whole
    rw [overwrite_length (by omega)]
    exact bounded

/-- The whole queue is replaced. -/
theorem overwrite_active (valid : buffer.Valid) {data : Bytes}
    (whole : data.length = buffer.active.length) :
    (buffer.overwrite data).active = data := by
  have ordered := valid.readBelowWrite
  have bounded := valid.writeBelowSize
  have before : (buffer.storage.take buffer.rpos).length = buffer.rpos :=
    List.length_take_of_le (ordered.trans bounded)
  rw [active_length valid] at whole
  show (List.take buffer.wpos (buffer.storage.take buffer.rpos ++ data ++ _)).drop
    buffer.rpos = data
  rw [List.take_left' (by rw [List.length_append, before]; omega),
    List.drop_left' before]

end MessageBuffer

end RealmServer.Network
