import RealmServer.Network.MessageBuffer

/-!
# The storage of packets

`BaseByteBuffer` is a vector of bytes with a read and a write position.  The
positions are set by the constructors and moved by the operations, nothing else
ties them to the size of the vector.

An operation ends normally, throws, aborts in `ASSERT`, or touches memory which
does not belong to the vector; the buffer is what it has left behind.  The sums
of the range checks are of `size_t` and wrap.
-/

namespace RealmServer.Packets

open Network (Bytes MessageBuffer)

structure ByteBuffer where
  storage : Bytes := []
  rpos : Nat := 0
  wpos : Nat := 0
deriving DecidableEq, Repr

/-- How an operation fails. -/
inductive Failure where
  /-- `ByteBufferPositionException`, with its arguments in their order. -/
  | position (add : Bool) (pos size valueSize : Nat)
  /-- `ByteBufferSourceException` -/
  | source (pos size valueSize : Nat)
  /-- `ByteBufferException` -/
  | value
  /-- `std::length_error` of the vector -/
  | length
  /-- `ASSERT` ends the process. -/
  | assertion
  /-- Memory beside the storage is touched. -/
  | overrun
  /-- The template has no instance: no program contains the operation. -/
  | illFormed
deriving DecidableEq, Repr

/-- The failures which are exceptions. -/
def Failure.isException : Failure → Bool
  | .position .. | .source .. | .value | .length => true
  | .assertion | .overrun | .illFormed => false

/-- The text of an exception of the buffer. -/
def Failure.what : Failure → String
  | .position add pos size valueSize =>
      "Attempted to " ++ (if add then "put" else "get") ++ " value with size: " ++
        toString valueSize ++ " in ByteBuffer (pos: " ++ toString pos ++ " size: " ++
        toString size ++ ")"
  | .source pos size valueSize =>
      "Attempted to put a " ++ (if 0 < valueSize then "NULL-pointer" else "zero-sized value") ++
        " in ByteBuffer (pos: " ++ toString pos ++ " size: " ++ toString size ++ ")"
  | _ => ""

/-- An operation on a buffer. -/
abbrev Operation (Value : Type) := EStateM Failure ByteBuffer Value

namespace ByteBuffer

/-! ## Bytes of the storage -/

/-- `count` bytes from a position on. -/
def slice (storage : Bytes) (pos count : Nat) : Bytes := (storage.drop pos).take count

/-- `memcpy` into the storage. -/
def overwrite (storage : Bytes) (pos : Nat) (src : Bytes) : Bytes :=
  storage.take pos ++ src ++ storage.drop (pos + src.length)

/-- `std::vector::resize`. -/
def resized (storage : Bytes) (newsize : Nat) : Bytes :=
  storage.take newsize ++ List.replicate (newsize - storage.length) 0

/-- Addition of `size_t`. -/
def sizeAdd (first second : Nat) : Nat := (first + second) % 2 ^ 64

/-- `std::vector<uint8>::max_size()`. -/
def maxSize : Nat := 2 ^ 63 - 1

/-! ## Constructors -/

/-- `BaseByteBuffer()` and `BaseByteBuffer(size_t reserve)`. -/
def empty : ByteBuffer := {}

/-- `BaseByteBuffer(std::vector<uint8>&& buf)`. -/
def ofVector (buf : Bytes) : ByteBuffer := { storage := buf }

/-- `BaseByteBuffer(BaseByteBuffer&& buf)`: the new buffer and what is left of the old one. -/
def move (buf : ByteBuffer) : ByteBuffer × ByteBuffer := (buf, {})

/-- `WorldPacket(uint16 opcode, MessageBuffer&& buffer)`. -/
def ofMessageBuffer (buffer : MessageBuffer) : ByteBuffer := ofVector buffer.move.1

/-! ## Operations -/

def size (buffer : ByteBuffer) : Nat := buffer.storage.length

/-- The bytes behind the read position. -/
def unread (buffer : ByteBuffer) : Bytes := buffer.storage.drop buffer.rpos

def clear : Operation Unit := set ({} : ByteBuffer)

def rfinish : Operation Unit := modify fun buffer => { buffer with rpos := buffer.wpos }

def setWpos (pos : Nat) : Operation Unit := modify fun buffer => { buffer with wpos := pos }

/-- `_storage.resize`. -/
def growStorage (newsize : Nat) : Operation Unit := do
  if maxSize < newsize then throw .length
  else modify fun buffer => { buffer with storage := resized buffer.storage newsize }

/-- The storage gets as large as it has to be. -/
def growTo (needed : Nat) : Operation Unit := do
  let buffer ← get
  if buffer.size < needed then growStorage needed else pure ()

def resize (newsize : Nat) : Operation Unit := do
  growStorage newsize
  modify fun buffer => { buffer with rpos := 0, wpos := buffer.size }

/-- The bytes at a place of the memory. -/
def memory (pos count : Nat) : Operation Bytes := do
  let buffer ← get
  if pos + count ≤ buffer.size then pure (slice buffer.storage pos count) else throw .overrun

/-- `memcpy` to a place of the memory. -/
def store (pos : Nat) (src : Bytes) : Operation Unit := do
  let buffer ← get
  if pos + src.length ≤ buffer.size then
    set { buffer with storage := overwrite buffer.storage pos src }
  else throw .overrun

def moveRpos (count : Nat) : Operation Unit :=
  modify fun buffer => { buffer with rpos := sizeAdd buffer.rpos count }

def skip (count : Nat) : Operation Unit := do
  let buffer ← get
  if buffer.size < sizeAdd buffer.rpos count then
    throw (.position false buffer.rpos count buffer.size)
  else moveRpos count

def viewRaw (pos count : Nat) : Operation Bytes := do
  let buffer ← get
  if buffer.size < sizeAdd pos count then
    throw (.position false pos count buffer.size)
  else memory pos count

/-- `read_raw`, for a type of `count` bytes. -/
def readRaw (count : Nat) : Operation Bytes := do
  let buffer ← get
  let bytes ← viewRaw buffer.rpos count
  moveRpos count
  return bytes

def extract (len : Nat) : Operation Bytes := do
  let buffer ← get
  if buffer.size < sizeAdd buffer.rpos len then
    throw (.position false buffer.rpos len buffer.size)
  else
    let dest ← memory buffer.rpos len
    moveRpos len
    return dest

/-- `append`; the pointer is one to the bytes, which is never null. -/
def append (src : Bytes) : Operation Unit := do
  let buffer ← get
  if src.length = 0 then throw (.source buffer.wpos buffer.size src.length)
  else if 10000000 ≤ buffer.size then throw .assertion
  else
    growTo (sizeAdd buffer.wpos src.length)
    store buffer.wpos src
    setWpos (sizeAdd buffer.wpos src.length)

/-- `append(const BaseByteBuffer& buffer)`, for another buffer. -/
def appendBuffer (other : ByteBuffer) : Operation Unit :=
  if other.rpos < other.size then append other.unread else pure ()

def put (pos : Nat) (src : Bytes) : Operation Unit := do
  let buffer ← get
  if buffer.size < sizeAdd pos src.length then
    throw (.position true pos src.length buffer.size)
  else store pos src

/-- `buffer[pos] = value`. -/
def setByte (pos : Nat) (value : UInt8) : Operation Unit := do
  let buffer ← get
  if buffer.size < sizeAdd pos 1 then
    throw (.position false pos 1 buffer.size)
  else store pos [value]

/-! ## How operations are put together -/

section

variable {Value Result : Type} {operation : Operation Value} {next : Value → Operation Result}
  {buffer middle after : ByteBuffer} {value : Value} {result : Result} {failure : Failure}

@[simp]
theorem run_ite (condition : Prop) [Decidable condition] (first second : Operation Value) :
    (if condition then first else second).run buffer =
      if condition then first.run buffer else second.run buffer :=
  apply_ite (fun operation => operation.run buffer) condition first second

@[simp]
theorem run_throw (failure : Failure) :
    (throw failure : Operation Value).run buffer = .error failure buffer := rfl

theorem bind_of_ok (ok : operation.run buffer = .ok value middle) :
    (operation >>= next).run buffer = (next value).run middle := by
  rw [EStateM.run_bind, ok]

theorem bind_of_error (error : operation.run buffer = .error failure after) :
    (operation >>= next).run buffer = .error failure after := by
  rw [EStateM.run_bind, error]

/-- What has ended normally has done so in each of its parts. -/
theorem bind_eq_ok :
    (operation >>= next).run buffer = .ok result after ↔
      ∃ value middle, operation.run buffer = .ok value middle ∧
        (next value).run middle = .ok result after := by
  rw [EStateM.run_bind]
  cases operation.run buffer with
  | ok value middle => simp
  | error failure middle => simp

end

/-! ## What the operations on bytes do -/

variable {storage src : Bytes} {rpos wpos pos count : Nat}

@[simp]
theorem size_mk : (ByteBuffer.mk storage rpos wpos).size = storage.length := rfl

@[simp]
theorem slice_length : (slice storage pos count).length = min count (storage.length - pos) := by
  rw [slice, List.length_take, List.length_drop]

/-- A part of the storage is read where it has been put. -/
theorem slice_append (before middle behind : Bytes) :
    slice (before ++ middle ++ behind) before.length middle.length = middle := by
  rw [slice, List.append_assoc, List.drop_left, List.take_left]

@[simp]
theorem resized_length : (resized storage count).length = count := by
  rw [resized, List.length_append, List.length_take, List.length_replicate]
  omega

theorem sizeAdd_of_lt (noWrap : pos + count < 2 ^ 64) : sizeAdd pos count = pos + count :=
  Nat.mod_eq_of_lt noWrap

theorem sizeAdd_le : sizeAdd pos count ≤ pos + count := Nat.mod_le _ _

theorem overwrite_length (inside : pos + src.length ≤ storage.length) :
    (overwrite storage pos src).length = storage.length := by
  rw [overwrite, List.length_append, List.length_append, List.length_take, List.length_drop]
  omega

theorem overwrite_append (before behind : Bytes) (same : behind.length = src.length) :
    overwrite (before ++ behind) before.length src = before ++ src := by
  rw [overwrite, List.take_left, ← same, List.drop_eq_nil_of_le (by simp), List.append_nil]

theorem growTo_run (needed : Nat) (buffer : ByteBuffer) :
    (growTo needed).run buffer =
      if buffer.size < needed then
        if maxSize < needed then .error .length buffer
        else .ok () { buffer with storage := resized buffer.storage needed }
      else .ok () buffer := by
  simp [growTo, growStorage]

theorem memory_run (buffer : ByteBuffer) :
    (memory pos count).run buffer =
      if pos + count ≤ buffer.size then .ok (slice buffer.storage pos count) buffer
      else .error .overrun buffer := by
  simp [memory]

theorem store_run (buffer : ByteBuffer) :
    (store pos src).run buffer =
      if pos + src.length ≤ buffer.size then
        .ok () { buffer with storage := overwrite buffer.storage pos src }
      else .error .overrun buffer := by
  simp [store]

theorem skip_run (buffer : ByteBuffer) :
    (skip count).run buffer =
      if buffer.size < sizeAdd buffer.rpos count then
        .error (.position false buffer.rpos count buffer.size) buffer
      else .ok () { buffer with rpos := sizeAdd buffer.rpos count } := by
  simp [skip, moveRpos]

theorem setByte_run (value : UInt8) (buffer : ByteBuffer) :
    (setByte pos value).run buffer =
      if buffer.size < sizeAdd pos 1 then .error (.position false pos 1 buffer.size) buffer
      else (store pos [value]).run buffer := by
  simp [setByte]

theorem append_run (buffer : ByteBuffer) :
    (append src).run buffer =
      if src.length = 0 then .error (.source buffer.wpos buffer.size src.length) buffer
      else if 10000000 ≤ buffer.size then .error .assertion buffer
      else (growTo (sizeAdd buffer.wpos src.length) >>= fun _ => store buffer.wpos src >>= fun _ =>
        setWpos (sizeAdd buffer.wpos src.length)).run buffer := by
  simp [append]

/-- What the range check lets pass is inside. -/
theorem viewRaw_run (noWrap : pos + count < 2 ^ 64) (buffer : ByteBuffer) :
    (viewRaw pos count).run buffer =
      if buffer.size < pos + count then .error (.position false pos count buffer.size) buffer
      else .ok (slice buffer.storage pos count) buffer := by
  simp only [viewRaw, EStateM.run_bind, EStateM.run_get, run_ite, sizeAdd_of_lt noWrap]
  split_ifs with short
  · rfl
  · rw [memory_run, if_pos (Nat.not_lt.mp short)]

/-- A value of some bytes is read. -/
theorem readRaw_run (noWrap : rpos + count < 2 ^ 64) :
    (readRaw count).run ⟨storage, rpos, wpos⟩ =
      if storage.length < rpos + count then
        .error (.position false rpos count storage.length) ⟨storage, rpos, wpos⟩
      else .ok (slice storage rpos count) ⟨storage, rpos + count, wpos⟩ := by
  simp only [readRaw, EStateM.run_bind, EStateM.run_get, viewRaw_run noWrap]
  by_cases short : storage.length < rpos + count
  · simp [short]
  · simp [short, moveRpos, sizeAdd_of_lt noWrap]

/-- `append` accepts the bytes, behind `size` others. -/
structure Room (size : Nat) (src : Bytes) : Prop where
  nonempty : src ≠ []
  small : size < 10000000
  fits : size + src.length ≤ maxSize

/-- Bytes get behind all others, if the write position is there. -/
theorem append_atEnd (room : Room storage.length src) :
    (append src).run ⟨storage, rpos, storage.length⟩ =
      .ok () ⟨storage ++ src, rpos, (storage ++ src).length⟩ := by
  have positive : 0 < src.length := List.length_pos_of_ne_nil room.nonempty
  have fits := room.fits
  have sum : sizeAdd storage.length src.length = storage.length + src.length :=
    sizeAdd_of_lt (by unfold maxSize at fits; omega)
  have grown : (growTo (storage.length + src.length)).run ⟨storage, rpos, storage.length⟩ =
      .ok () ⟨storage ++ List.replicate src.length 0, rpos, storage.length⟩ := by
    have whole : resized storage (storage.length + src.length) =
        storage ++ List.replicate src.length 0 := by
      rw [resized, List.take_of_length_le (by omega), Nat.add_sub_cancel_left]
    rw [growTo_run, size_mk, if_pos (by omega), if_neg (Nat.not_lt.mpr fits), whole]
  have stored : (store storage.length src).run
      ⟨storage ++ List.replicate src.length 0, rpos, storage.length⟩ =
        .ok () ⟨storage ++ src, rpos, storage.length⟩ := by
    rw [store_run, size_mk, if_pos (by simp), overwrite_append _ _ (by simp)]
  rw [append_run, if_neg positive.ne', size_mk, if_neg (Nat.not_le.mpr room.small), sum,
    bind_of_ok grown, bind_of_ok stored, List.length_append]
  rfl

/-- An append that ends normally had bytes to put there, and room for them. -/
theorem room_of_append {after : ByteBuffer}
    (ended : (append src).run ⟨storage, rpos, storage.length⟩ = .ok () after) :
    Room storage.length src := by
  rw [append_run, size_mk] at ended
  split_ifs at ended with none big
  obtain ⟨_, grown, growing, rest⟩ := bind_eq_ok.mp ended
  obtain ⟨_, stored, storing, _⟩ := bind_eq_ok.mp rest
  have below : sizeAdd storage.length src.length ≤ storage.length + src.length := sizeAdd_le
  have inside : storage.length + src.length ≤ grown.size := by
    by_contra outside
    rw [store_run, if_neg outside] at storing
    cases storing
  refine ⟨fun nil => none (by rw [nil]; rfl), Nat.not_le.mp big, ?_⟩
  rw [growTo_run, size_mk] at growing
  split_ifs at growing with grows tooLong
  · cases growing
    rw [size_mk, resized_length] at inside
    omega
  · cases growing
    rw [size_mk] at inside
    omega

theorem append_eq_ok {after : ByteBuffer} :
    (append src).run ⟨storage, rpos, storage.length⟩ = .ok () after ↔
      Room storage.length src ∧ after = ⟨storage ++ src, rpos, (storage ++ src).length⟩ := by
  constructor
  · intro ended
    have room := room_of_append ended
    rw [append_atEnd room] at ended
    cases ended
    exact ⟨room, rfl⟩
  · rintro ⟨room, rfl⟩
    exact append_atEnd room

/-- `append` accepts the pieces one after the other. -/
def Appendable : Nat → List Bytes → Prop
  | _, [] => True
  | size, src :: rest => Room size src ∧ Appendable (size + src.length) rest

theorem appendable_append {size : Nat} {first second : List Bytes} :
    Appendable size (first ++ second) ↔
      Appendable size first ∧ Appendable (size + first.flatten.length) second := by
  induction first generalizing size with
  | nil => simp [Appendable]
  | cons src rest induction =>
      simp only [List.cons_append, Appendable, induction, List.flatten_cons,
        List.length_append, ← Nat.add_assoc, and_assoc]

end ByteBuffer

end RealmServer.Packets
