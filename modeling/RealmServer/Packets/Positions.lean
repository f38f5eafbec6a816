import RealmServer.Lib.Transition
import RealmServer.Packets.RoundTrip

/-!
# The positions of a buffer

A run of a buffer starts with one of its constructors and goes on with reads,
writes and the other operations.  `Sound` is what is expected of one operation,
and `Meets` the condition under which it is.  The read position is guarded by
every reader, but nothing guards the write position: it starts at zero behind
which a received packet has its bytes, and `replace` moves it there and back.
-/

namespace RealmServer.Packets

open Network (Bytes)
open ByteBuffer Transition

/-! ## Runs -/

/-- How a buffer comes into being. -/
inductive Construction where
  /-- `ByteBuffer()`, or with a capacity. -/
  | empty
  /-- From received bytes; no vector is longer than `maxSize`. -/
  | received (bytes : Bytes) (fits : bytes.length ≤ maxSize)

def Construction.buffer : Construction → ByteBuffer
  | .empty => ByteBuffer.empty
  | .received bytes _ => ofVector bytes

inductive BufferEvent where
  | read (type : BufferType)
  | readSkip (type : BufferType)
  | skip (count : Nat)
  | extract (len : Nat)
  | append (src : Bytes)
  | appendBuffer (other : ByteBuffer)
  | write (value : TypedValue)
  | replace (pos : Nat) (value : TypedValue)
  | put (pos : Nat) (src : Bytes)
  | resize (newsize : Nat)
  | rfinish
  | clear
  /-- The buffer is moved to a new one, which is used from now on. -/
  | moveTo
  /-- The buffer is moved to a new one, and itself used again. -/
  | moveFrom

namespace BufferEvent

def perform : BufferEvent → Operation Unit
  | read type => discard (ByteBuffer.read type)
  | readSkip type => ByteBuffer.readSkip type
  | skip count => ByteBuffer.skip count
  | extract len => discard (ByteBuffer.extract len)
  | append src => ByteBuffer.append src
  | appendBuffer other => ByteBuffer.appendBuffer other
  | write value => ByteBuffer.write value.type value.value
  | replace pos value => ByteBuffer.replace pos value.type value.value
  | put pos src => ByteBuffer.put pos src
  | resize newsize => ByteBuffer.resize newsize
  | rfinish => ByteBuffer.rfinish
  | clear => ByteBuffer.clear
  | moveTo => modify fun buffer => buffer.move.1
  | moveFrom => modify fun buffer => buffer.move.2

/-- The bytes an event has to put behind all others. -/
def appended : BufferEvent → Option Bytes
  | append src => some src
  | appendBuffer other => some other.unread
  | write value => some (written value.type value.value)
  | _ => none

end BufferEvent

/-- What an operation leaves behind, whether it throws or not. -/
def stateOf {Value : Type} : EStateM.Result Failure ByteBuffer Value → ByteBuffer
  | .ok _ after => after
  | .error _ after => after

def step (buffer : ByteBuffer) (event : BufferEvent) : ByteBuffer :=
  stateOf (event.perform.run buffer)

/-! ## What is expected, and when it is met -/

structure InRange (buffer : ByteBuffer) : Prop where
  rpos : buffer.rpos ≤ buffer.size
  wpos : buffer.wpos ≤ buffer.size

/-- What is expected of an operation. -/
structure Sound (buffer : ByteBuffer) (event : BufferEvent) : Prop where
  inRange : InRange (step buffer event)
  /-- No byte beside the storage is touched. -/
  staysInside : ∀ after, event.perform.run buffer ≠ .error .overrun after
  /-- A failure is an exception, and the contents are what they have been. -/
  throws : ∀ failure after, event.perform.run buffer = .error failure after →
    failure.isException = true ∧ after.storage = buffer.storage
  appendsBehind : ∀ src after, event.appended = some src →
    event.perform.run buffer = .ok () after → after.storage = buffer.storage ++ src
  finishes : event = .rfinish → (step buffer event).unread = []

/-- The elements a container reader copies are inside, or it throws before. -/
def SpanInside (element : ArithmeticType) (buffer : ByteBuffer) : Prop :=
  let size := LittleEndian.decode (slice buffer.storage buffer.rpos 4)
  size = 0 ∨ buffer.size < buffer.rpos + 4 + size ∨
    element.size * (buffer.rpos + 4) + element.size * size ≤ buffer.size

/-- Types whose readers look at nothing but unread bytes, in every buffer. -/
def BufferType.Narrow : BufferType → Prop
  | .arithmetic _ => True
  | .string => True
  | .packedGuid => True
  | .vector element => element.size = 1
  | .list element => element.size = 1
  | .map _ _ => False

/-- The pieces can be put at a position, in a storage of a size. -/
def Placeable : Nat → Nat → List Bytes → Prop
  | _, _, [] => True
  | size, pos, src :: rest =>
      src ≠ [] ∧ size < 10000000 ∧ pos + src.length ≤ maxSize ∧
        Placeable (max size (pos + src.length)) (pos + src.length) rest

/-- The condition of an operation. -/
def Meets (buffer : ByteBuffer) : BufferEvent → Prop
  | .read (.vector element) => SpanInside element buffer
  | .read (.list element) => SpanInside element buffer
  | .read (.map _ _) => False
  | .read _ => True
  | .readSkip (.map key value) => key.Narrow ∧ value.Narrow
  | .readSkip type => type ≠ .packedGuid
  | .skip _ => True
  | .extract len => buffer.rpos + len < 2 ^ 64
  | .append src => src = [] ∨ buffer.wpos = buffer.size ∧ Room buffer.size src
  | .appendBuffer other =>
      other.unread = [] ∨ buffer.wpos = buffer.size ∧ Room buffer.size other.unread
  | .write value => value.type.Writable ∧
      (pieces value.type value.value = [[]] ∨
        buffer.wpos = buffer.size ∧ Appendable buffer.size (pieces value.type value.value))
  | .replace pos value => value.type.Writable ∧
      (pieces value.type value.value = [[]] ∧ pos ≤ buffer.size ∨
        Placeable buffer.size pos (pieces value.type value.value))
  | .put pos src => pos + src.length < 2 ^ 64
  | .resize _ => True
  | .rfinish => buffer.wpos = buffer.size
  | .clear => True
  | .moveTo => True
  | .moveFrom => True

/-! ## Readers -/

/-- The positions are inside a storage of a possible size. -/
structure Valid (buffer : ByteBuffer) : Prop extends InRange buffer where
  small : buffer.size ≤ maxSize

/-- A reader leaves everything but the read position, which stays inside. -/
structure Kept (storage : Bytes) (wpos : Nat) (after : ByteBuffer) : Prop where
  storage : after.storage = storage
  wpos : after.wpos = wpos
  rpos : after.rpos ≤ after.size

/-- A result of a reader, which may be an exception. -/
def EndsKept {Value : Type} (storage : Bytes) (wpos : Nat) :
    EStateM.Result Failure ByteBuffer Value → Prop
  | .ok _ after => Kept storage wpos after
  | .error failure after => failure.isException = true ∧ Kept storage wpos after

/-- The reader is a good one in every buffer. -/
def Reads {Value : Type} (operation : Operation Value) : Prop :=
  ∀ storage rpos wpos, rpos ≤ storage.length → storage.length ≤ maxSize →
    EndsKept storage wpos (operation.run ⟨storage, rpos, wpos⟩)

section

variable {Value Result : Type} {operation : Operation Value} {next : Value → Operation Result}
  {storage : Bytes} {rpos wpos : Nat} {buffer : ByteBuffer}

theorem EndsKept.bind (first : EndsKept storage wpos (operation.run buffer))
    (second : ∀ value after, operation.run buffer = .ok value after →
      Kept storage wpos after → EndsKept storage wpos ((next value).run after)) :
    EndsKept storage wpos ((operation >>= next).run buffer) := by
  cases ended : operation.run buffer with
  | ok value after =>
      rw [ended] at first
      rw [bind_of_ok ended]
      exact second value after ended first
  | error failure after =>
      rw [ended] at first
      rw [bind_of_error ended]
      exact first

theorem Reads.kept (reads : Reads operation) {after : ByteBuffer}
    (kept : Kept storage wpos after) (small : storage.length ≤ maxSize) :
    EndsKept storage wpos (operation.run after) := by
  obtain ⟨storage, rpos, wpos⟩ := after
  obtain ⟨rfl, rfl, inside⟩ := kept
  exact reads storage rpos wpos inside small

theorem Reads.bind (first : Reads operation) (second : ∀ value, Reads (next value)) :
    Reads (operation >>= next) := by
  intro storage rpos wpos inside small
  exact (first storage rpos wpos inside small).bind
    fun value after _ kept => (second value).kept kept small

theorem Reads.pure (value : Value) : Reads (pure value : Operation Value) :=
  fun _ _ _ inside _ => ⟨rfl, rfl, inside⟩

theorem Reads.throw {failure : Failure} (isException : failure.isException = true) :
    Reads (throw failure : Operation Value) :=
  fun _ _ _ inside _ => ⟨isException, rfl, rfl, inside⟩

end

theorem reads_readRaw {count : Nat} (few : count ≤ 8) : Reads (readRaw count) := by
  intro storage rpos wpos inside small
  unfold maxSize at small
  rw [readRaw_run (by omega)]
  split_ifs with short
  · exact ⟨rfl, rfl, rfl, inside⟩
  · exact ⟨rfl, rfl, Nat.not_lt.mp short⟩

theorem reads_readPlain (type : ArithmeticType) : Reads (readPlain type) :=
  (reads_readRaw type.size_le).bind fun _ => Reads.pure _

theorem reads_readArithmetic (type : ArithmeticType) : Reads (readArithmetic type) := by
  refine (reads_readPlain type).bind fun value => ?_
  split_ifs
  · exact Reads.pure _
  · exact Reads.throw rfl

theorem reads_readUInt8 : Reads readUInt8 :=
  (reads_readRaw (by decide)).bind fun _ => Reads.pure _

theorem reads_readUInt32 : Reads readUInt32 :=
  (reads_readRaw (by decide)).bind fun _ => Reads.pure _

theorem reads_readMarked (guidmark : UInt8) (indices : List Nat) (guid : Nat) :
    Reads (readMarked guidmark indices guid) := by
  induction indices generalizing guid with
  | nil => exact Reads.pure guid
  | cons i rest induction =>
      rw [readMarked]
      split_ifs
      · exact reads_readUInt8.bind fun bit => induction _
      · exact induction guid

theorem reads_readPackGUID : Reads readPackGUID :=
  reads_readUInt8.bind fun guidmark =>
    (reads_readMarked guidmark _ 0).bind fun _ => Reads.pure _

/-- What passes the check, whether the sum wraps or not, is inside. -/
theorem reads_skip (count : Nat) : Reads (ByteBuffer.skip count) := by
  intro storage rpos wpos inside small
  rw [skip_run]
  split_ifs with short
  · exact ⟨rfl, rfl, rfl, inside⟩
  · exact ⟨rfl, rfl, Nat.not_lt.mp short⟩

theorem reads_readString : Reads readString := by
  intro storage rpos wpos inside small
  rw [readString_run inside]
  exact ⟨rfl, rfl, textEnd_le inside⟩

theorem reads_readSpan : Reads readSpan := by
  refine reads_readUInt32.bind fun size => ?_
  intro storage rpos wpos inside small
  rw [EStateM.run_bind, EStateM.run_get]
  exact ((reads_skip size).bind fun _ => Reads.pure _) storage rpos wpos inside small

/-- The elements are copied from inside if the condition says so. -/
theorem readContainer_kept (element : ArithmeticType) {storage : Bytes} {rpos wpos : Nat}
    (inside : rpos ≤ storage.length) (small : storage.length ≤ maxSize)
    (span : SpanInside element ⟨storage, rpos, wpos⟩) :
    EndsKept storage wpos ((readContainer element).run ⟨storage, rpos, wpos⟩) := by
  refine (reads_readSpan storage rpos wpos inside small).bind fun found after ended kept => ?_
  obtain ⟨whole, decoded, pos, rfl⟩ := readSpan_ok ⟨inside, small⟩ ended
  have within : found.size ≠ 0 →
      element.size * found.pos + element.size * found.size ≤ storage.length := by
    intro some
    rw [SpanInside, decoded] at span
    rcases span with none | short | within
    · exact absurd none some
    · have tooShort : storage.length < rpos + 4 + found.size := short
      omega
    · rw [pos]
      exact within
  obtain ⟨_, copied⟩ : ∃ values,
      (copySpan element found).run ⟨storage, rpos + 4 + found.size, wpos⟩ = .ok values _ :=
    copySpan_run element found within
  rw [copied]
  exact ⟨rfl, rfl, whole⟩

/-- With elements of one byte the skipped bytes are the copied ones. -/
theorem spanInside_of_narrow {element : ArithmeticType} (narrow : element.size = 1)
    (buffer : ByteBuffer) : SpanInside element buffer := by
  rw [SpanInside, narrow, Nat.one_mul, Nat.one_mul]
  omega

theorem reads_readContainer {element : ArithmeticType} (narrow : element.size = 1) :
    Reads (readContainer element) :=
  fun _ _ _ inside small => readContainer_kept element inside small (spanInside_of_narrow narrow _)

theorem reads_read {type : BufferType} (narrow : type.Narrow) : Reads (ByteBuffer.read type) := by
  cases type with
  | arithmetic type => exact reads_readArithmetic type
  | string => exact reads_readString
  | packedGuid => exact reads_readPackGUID
  | vector element => exact reads_readContainer narrow
  | list element => exact reads_readContainer narrow
  | map key value => exact absurd narrow id

theorem reads_readEntries {key value : BufferType} (keys : key.Narrow) (values : value.Narrow)
    (size : Nat) : Reads (readEntries key value size) := by
  have discarded {type : BufferType} (narrow : type.Narrow) :
      Reads (discard (ByteBuffer.read type)) := (reads_read narrow).bind fun _ => Reads.pure _
  induction size with
  | zero => exact Reads.pure ()
  | succ size induction =>
      exact (discarded keys).bind fun _ => (discarded values).bind fun _ => induction

/-! ## Writers at any position -/

/-- The size of the storage when the pieces have been put there. -/
def grown : Nat → Nat → List Bytes → Nat
  | size, _, [] => size
  | size, pos, src :: rest => grown (max size (pos + src.length)) (pos + src.length) rest

theorem le_grown (size pos : Nat) (pieces : List Bytes) : size ≤ grown size pos pieces := by
  induction pieces generalizing size pos with
  | nil => exact Nat.le_refl size
  | cons src rest induction => exact (Nat.le_max_left _ _).trans (induction _ _)

theorem grown_le {size pos : Nat} {pieces : List Bytes} (placeable : Placeable size pos pieces)
    (small : size ≤ maxSize) : grown size pos pieces ≤ maxSize := by
  induction pieces generalizing size pos with
  | nil => exact small
  | cons src rest induction =>
      exact induction placeable.2.2.2 (Nat.max_le.mpr ⟨small, placeable.2.2.1⟩)

theorem grown_append (size pos : Nat) (first second : List Bytes) :
    grown size pos (first ++ second) =
      grown (grown size pos first) (pos + first.flatten.length) second := by
  induction first generalizing size pos with
  | nil => rfl
  | cons src rest induction =>
      rw [List.cons_append, grown, induction, grown, List.flatten_cons, List.length_append,
        Nat.add_assoc]

theorem placeable_append {size pos : Nat} {first second : List Bytes} :
    Placeable size pos (first ++ second) ↔
      Placeable size pos first ∧
        Placeable (grown size pos first) (pos + first.flatten.length) second := by
  induction first generalizing size pos with
  | nil => simp [Placeable, grown]
  | cons src rest induction =>
      simp only [List.cons_append, Placeable, grown, induction, List.flatten_cons,
        List.length_append, ← Nat.add_assoc, and_assoc]

/-- From a position on the operation puts the pieces, if they can be placed there. -/
def Places (operation : Operation Unit) (pieces : List Bytes) : Prop :=
  ∀ storage rpos pos, Placeable storage.length pos pieces →
    ∃ placed : Bytes, placed.length = grown storage.length pos pieces ∧
      operation.run ⟨storage, rpos, pos⟩ = .ok () ⟨placed, rpos, pos + pieces.flatten.length⟩

theorem places_append (src : Bytes) : Places (ByteBuffer.append src) [src] := by
  rintro storage rpos pos ⟨some, small, fits, _⟩
  have positive : 0 < src.length := List.length_pos_of_ne_nil some
  have sum : sizeAdd pos src.length = pos + src.length :=
    sizeAdd_of_lt (by unfold maxSize at fits; omega)
  obtain ⟨larger, length, growing⟩ : ∃ larger : Bytes,
      larger.length = max storage.length (pos + src.length) ∧
        (growTo (pos + src.length)).run ⟨storage, rpos, pos⟩ = .ok () ⟨larger, rpos, pos⟩ := by
    rw [growTo_run, size_mk]
    split_ifs with grows tooLong
    · exact absurd fits (Nat.not_le.mpr tooLong)
    · exact ⟨_, by rw [resized_length]; omega, rfl⟩
    · exact ⟨storage, by omega, rfl⟩
  have inside : pos + src.length ≤ larger.length := by
    rw [length]
    exact Nat.le_max_right _ _
  refine ⟨overwrite larger pos src, ?_, ?_⟩
  · rw [overwrite_length inside, length]
    rfl
  · rw [append_run, if_neg positive.ne', size_mk, if_neg (Nat.not_le.mpr small)]
    show (growTo (sizeAdd pos src.length) >>= fun _ => ByteBuffer.store pos src >>= fun _ =>
      setWpos (sizeAdd pos src.length)).run _ = _
    rw [sum, bind_of_ok growing, List.flatten_singleton]
    have stored : (ByteBuffer.store pos src).run ⟨larger, rpos, pos⟩ =
        .ok () ⟨overwrite larger pos src, rpos, pos⟩ := by
      rw [store_run, size_mk, if_pos inside]
    rw [bind_of_ok stored]
    rfl

theorem composing_places : Composing Places where
  append := places_append
  nothing := fun storage rpos pos _ => ⟨storage, rfl, rfl⟩
  bind := by
    intro first second pieces others places later storage rpos pos placeable
    obtain ⟨front, back⟩ := placeable_append.mp placeable
    obtain ⟨middle, length, done⟩ := places storage rpos pos front
    rw [← length] at back
    obtain ⟨placed, whole, doneLater⟩ := later middle rpos _ back
    refine ⟨placed, ?_, ?_⟩
    · rw [whole, length, grown_append]
    · rw [bind_of_ok done, doneLater, List.flatten_append, List.length_append, Nat.add_assoc]

theorem appending_places : Appending Places where
  toComposing := composing_places
  packGUID := by
    rintro guid storage rpos pos placeable
    have sameShape : Placeable storage.length pos
        ([[0]] ++ (markedBytes guid).2.map fun byte => [byte]) :=
      ⟨by simp, placeable.2⟩
    obtain ⟨placed, length, done⟩ := composing_places.bind (places_append [0])
      (composing_places.bytes (markedBytes guid).2) storage rpos pos sameShape
    have inside : pos + 1 ≤ placed.length := by
      rw [length]
      exact (Nat.le_max_right _ _).trans (le_grown _ _ _)
    have fits : pos + 1 ≤ maxSize := placeable.2.2.1
    have marking : (setByte pos (markedBytes guid).1).run
        ⟨placed, rpos,
          pos + ([[0]] ++ (markedBytes guid).2.map fun byte => [byte]).flatten.length⟩ =
          .ok () ⟨overwrite placed pos [(markedBytes guid).1], rpos,
            pos + ([[0]] ++ (markedBytes guid).2.map fun byte => [byte]).flatten.length⟩ := by
      rw [setByte_run, size_mk, sizeAdd_of_lt (by unfold maxSize at fits; omega),
        if_neg (Nat.not_lt.mpr inside), store_run, size_mk, List.length_singleton, if_pos inside]
    refine ⟨overwrite placed pos [(markedBytes guid).1], ?_, ?_⟩
    · rw [overwrite_length inside, length]
      rfl
    · rw [appendPackGUID_run, ← bind_assoc, bind_of_ok done]
      exact marking

/-! ## One operation -/

variable {buffer : ByteBuffer} {event : BufferEvent}

/-- The result keeps the positions inside and is no other failure than an exception. -/
structure Ends (buffer : ByteBuffer) (result : EStateM.Result Failure ByteBuffer Unit) : Prop where
  valid : Valid (stateOf result)
  throws : ∀ failure after, result = .error failure after →
    failure.isException = true ∧ after.storage = buffer.storage

theorem Ends.of_ok {after : ByteBuffer} (valid : Valid after) : Ends buffer (.ok () after) where
  valid := valid
  throws := fun _ _ same => by cases same

theorem Ends.of_exception {failure : Failure} {after : ByteBuffer} (valid : Valid after)
    (isException : failure.isException = true) (same : after.storage = buffer.storage) :
    Ends buffer (.error failure after) where
  valid := valid
  throws := by
    rintro other last ended
    cases ended
    exact ⟨isException, same⟩

/-- An exception at the start of an operation. -/
theorem Ends.unchanged {failure : Failure} (valid : Valid buffer)
    (isException : failure.isException = true) : Ends buffer (.error failure buffer) :=
  .of_exception valid isException rfl

theorem Ends.of_kept (valid : Valid buffer) {result : EStateM.Result Failure ByteBuffer Unit}
    (ends : EndsKept buffer.storage buffer.wpos result) : Ends buffer result := by
  have keeps {after : ByteBuffer} (kept : Kept buffer.storage buffer.wpos after) : Valid after := by
    refine ⟨⟨kept.rpos, ?_⟩, ?_⟩
    · rw [kept.wpos, size, kept.storage]
      exact valid.wpos
    · rw [size, kept.storage]
      exact valid.small
  cases result with
  | ok value after => exact .of_ok (keeps ends)
  | error failure after => exact .of_exception (keeps ends.2) ends.1 ends.2.storage

theorem Ends.of_reads {operation : Operation Unit} (valid : Valid buffer)
    (reads : Reads operation) : Ends buffer (operation.run buffer) :=
  .of_kept valid (reads _ _ _ valid.rpos valid.small)

theorem ends_readContainer (valid : Valid buffer) {element : ArithmeticType}
    (span : SpanInside element buffer) :
    Ends buffer ((discard (readContainer element) : Operation Unit).run buffer) :=
  .of_kept valid ((readContainer_kept element valid.rpos valid.small span).bind
    fun _ _ _ kept => ⟨kept.storage, kept.wpos, kept.rpos⟩)

theorem ends_read (valid : Valid buffer) {type : BufferType}
    (meets : Meets buffer (.read type)) :
    Ends buffer ((BufferEvent.read type).perform.run buffer) := by
  have narrow {other : BufferType} (reads : other.Narrow) :
      Ends buffer ((discard (ByteBuffer.read other) : Operation Unit).run buffer) :=
    .of_reads valid ((reads_read reads).bind fun _ => Reads.pure _)
  cases type with
  | arithmetic type => exact narrow trivial
  | string => exact narrow trivial
  | packedGuid => exact narrow trivial
  | vector element => exact ends_readContainer valid meets
  | list element => exact ends_readContainer valid meets
  | map key value => exact absurd meets id

theorem ends_readSkip (valid : Valid buffer) {type : BufferType}
    (meets : Meets buffer (.readSkip type)) :
    Ends buffer ((ByteBuffer.readSkip type).run buffer) := by
  have discarded {Value : Type} {operation : Operation Value} (reads : Reads operation) :
      Ends buffer ((discard operation : Operation Unit).run buffer) :=
    .of_reads valid (reads.bind fun _ => Reads.pure _)
  cases type with
  | arithmetic type => exact discarded (reads_readPlain type)
  | string => exact discarded reads_readString
  | packedGuid => exact absurd rfl meets
  | vector element => exact discarded reads_readSpan
  | list element => exact discarded reads_readSpan
  | map key value =>
      exact .of_reads valid
        (reads_readUInt32.bind fun size => reads_readEntries meets.1 meets.2 size)

theorem ends_extract (valid : Valid buffer) {len : Nat} (meets : buffer.rpos + len < 2 ^ 64) :
    Ends buffer ((discard (ByteBuffer.extract len) : Operation Unit).run buffer) := by
  have extracted : (ByteBuffer.extract len).run buffer =
      if buffer.size < buffer.rpos + len then
        .error (.position false buffer.rpos len buffer.size) buffer
      else .ok (slice buffer.storage buffer.rpos len)
        { buffer with rpos := buffer.rpos + len } := by
    simp only [ByteBuffer.extract, EStateM.run_bind, EStateM.run_get, run_ite,
      sizeAdd_of_lt meets, memory_run]
    split_ifs with short inside
    · rfl
    · simp [moveRpos, sizeAdd_of_lt meets]
    · omega
  refine .of_kept valid (EndsKept.bind ?_ fun _ _ _ kept => ⟨kept.storage, kept.wpos, kept.rpos⟩)
  rw [extracted]
  split_ifs with short
  · exact ⟨rfl, rfl, rfl, valid.rpos⟩
  · exact ⟨rfl, rfl, Nat.not_lt.mp short⟩

theorem ends_put (valid : Valid buffer) {pos : Nat} {src : Bytes}
    (meets : pos + src.length < 2 ^ 64) : Ends buffer ((ByteBuffer.put pos src).run buffer) := by
  have done : (ByteBuffer.put pos src).run buffer =
      if buffer.size < pos + src.length then
        .error (.position true pos src.length buffer.size) buffer
      else .ok () { buffer with storage := overwrite buffer.storage pos src } := by
    simp only [ByteBuffer.put, EStateM.run_bind, EStateM.run_get, run_ite,
      sizeAdd_of_lt meets, store_run]
    split_ifs with short inside
    · rfl
    · rfl
    · omega
  rw [done]
  split_ifs with short
  · exact .unchanged valid rfl
  · have length : (overwrite buffer.storage pos src).length = buffer.storage.length :=
      overwrite_length (Nat.not_lt.mp short)
    refine .of_ok ⟨⟨?_, ?_⟩, ?_⟩
    · exact valid.rpos.trans_eq length.symm
    · exact valid.wpos.trans_eq length.symm
    · exact length.trans_le valid.small

theorem ends_resize (valid : Valid buffer) (newsize : Nat) :
    Ends buffer ((ByteBuffer.resize newsize).run buffer) := by
  simp only [ByteBuffer.resize, growStorage, EStateM.run_bind, run_ite, EStateM.run_modify,
    EStateM.run_throw]
  split_ifs with tooLong
  · exact .unchanged valid rfl
  · refine .of_ok ⟨⟨Nat.zero_le _, Nat.le_refl _⟩, ?_⟩
    show (resized buffer.storage newsize).length ≤ maxSize
    rw [resized_length]
    exact Nat.not_lt.mp tooLong

/-- What `append` does behind all other bytes, if it does not refuse an empty source. -/
theorem append_cases (valid : Valid buffer) {src : Bytes}
    (meets : src = [] ∨ buffer.wpos = buffer.size ∧ Room buffer.size src) :
    Ends buffer ((ByteBuffer.append src).run buffer) ∧
      ∀ after, (ByteBuffer.append src).run buffer = .ok () after →
        after.storage = buffer.storage ++ src := by
  rcases meets with rfl | ⟨atEnd, room⟩
  · have refused : (ByteBuffer.append []).run buffer =
        .error (.source buffer.wpos buffer.size 0) buffer := by
      rw [append_run]
      rfl
    rw [refused]
    exact ⟨.unchanged valid rfl, fun _ same => by cases same⟩
  · obtain ⟨storage, rpos, wpos⟩ := buffer
    obtain rfl : wpos = storage.length := atEnd
    rw [append_atEnd room]
    have longer : storage.length ≤ (storage ++ src).length := by
      rw [List.length_append]
      exact Nat.le_add_right _ _
    refine ⟨.of_ok ⟨⟨valid.rpos.trans longer, Nat.le_refl _⟩, ?_⟩, ?_⟩
    · show (storage ++ src).length ≤ maxSize
      rw [List.length_append]
      exact room.fits
    · rintro after same
      cases same
      rfl

theorem appendBuffer_cases (valid : Valid buffer) {other : ByteBuffer}
    (meets : Meets buffer (.appendBuffer other)) :
    Ends buffer ((ByteBuffer.appendBuffer other).run buffer) ∧
      ∀ after, (ByteBuffer.appendBuffer other).run buffer = .ok () after →
        after.storage = buffer.storage ++ other.unread := by
  rw [ByteBuffer.appendBuffer]
  split_ifs with more
  · exact append_cases valid meets
  · have none : other.unread = [] := List.drop_eq_nil_of_le (Nat.not_lt.mp more)
    refine ⟨.of_ok valid, ?_⟩
    rintro after same
    cases same
    rw [none, List.append_nil]

theorem refused_of_empty {value : TypedValue} (writable : value.type.Writable)
    (empty : pieces value.type value.value = [[]]) (buffer : ByteBuffer) :
    (ByteBuffer.write value.type value.value).run buffer =
      .error (.source buffer.wpos buffer.size 0) buffer := by
  obtain ⟨type, value⟩ := value
  rw [ByteBuffer.write, if_pos writable]
  cases type with
  | arithmetic type => exact absurd (List.singleton_inj.mp empty) (type.bytes_ne_nil value)
  | string =>
      have last : ([0] : Bytes) ∈ ([[]] : List Bytes) := by
        rw [← empty]
        exact List.mem_append_right _ List.mem_cons_self
      simp at last
  | packedGuid => exact absurd (List.cons.inj empty).1 (by simp)
  | vector element =>
      have none : List.flatMap element.bytes (List.take (List.length value % 2 ^ 32) value) = [] :=
        List.singleton_inj.mp empty
      show (ByteBuffer.append (List.flatMap element.bytes
        (List.take (List.length value % 2 ^ 32) value))).run buffer = _
      rw [none, append_run]
      rfl
  | list element => exact absurd writable id
  | map key content => exact absurd (congrArg List.length (List.cons.inj empty).1) (by simp)

theorem empty_valid : Valid {} := ⟨⟨Nat.le_refl 0, Nat.le_refl 0⟩, Nat.zero_le _⟩

theorem write_cases (valid : Valid buffer) {value : TypedValue}
    (meets : Meets buffer (.write value)) :
    Ends buffer ((ByteBuffer.write value.type value.value).run buffer) ∧
      ∀ after, (ByteBuffer.write value.type value.value).run buffer = .ok () after →
        after.storage = buffer.storage ++ written value.type value.value := by
  obtain ⟨writable, empty | ⟨atEnd, accepted⟩⟩ := meets
  · have refused := refused_of_empty writable empty buffer
    rw [refused]
    exact ⟨.unchanged valid rfl, fun _ same => by cases same⟩
  · obtain ⟨storage, rpos, wpos⟩ := buffer
    obtain rfl : wpos = storage.length := atEnd
    have done : (ByteBuffer.write value.type value.value).run ⟨storage, rpos, storage.length⟩ =
        .ok () ⟨storage ++ written value.type value.value, rpos,
          (storage ++ written value.type value.value).length⟩ := by
      rw [ByteBuffer.write, if_pos writable]
      exact (appending_writes.writeValue _ _ writable _ _ _).mpr ⟨accepted, rfl⟩
    have longer : storage.length ≤ (storage ++ written value.type value.value).length := by
      rw [List.length_append]
      exact Nat.le_add_right _ _
    rw [done]
    refine ⟨.of_ok ⟨⟨valid.rpos.trans longer, Nat.le_refl _⟩, ?_⟩, ?_⟩
    · show (storage ++ written value.type value.value).length ≤ maxSize
      rw [List.length_append]
      exact length_le_of_appendable valid.small accepted
    · rintro after same
      cases same
      rfl

theorem ends_replace (valid : Valid buffer) {pos : Nat} {value : TypedValue}
    (meets : Meets buffer (.replace pos value)) :
    Ends buffer ((ByteBuffer.replace pos value.type value.value).run buffer) := by
  obtain ⟨writable, ⟨empty, inside⟩ | placeable⟩ := meets
  · have refused := refused_of_empty writable empty { buffer with wpos := pos }
    have done : (ByteBuffer.replace pos value.type value.value).run buffer =
        .error (.source pos buffer.size 0) { buffer with wpos := pos } := by
      simp only [ByteBuffer.replace, setWpos, EStateM.run_bind, EStateM.run_get,
        EStateM.run_modify, refused]
      rfl
    rw [done]
    exact .of_exception ⟨⟨valid.rpos, inside⟩, valid.small⟩ rfl rfl
  · obtain ⟨placed, length, placing⟩ :=
      appending_places.writeValue _ value.value writable buffer.storage buffer.rpos pos placeable
    have done : (ByteBuffer.replace pos value.type value.value).run buffer =
        .ok () ⟨placed, buffer.rpos, buffer.wpos⟩ := by
      simp only [ByteBuffer.replace, setWpos, EStateM.run_bind, EStateM.run_get,
        EStateM.run_modify, ByteBuffer.write, if_pos writable, placing]
    have longer : buffer.size ≤ placed.length := by
      rw [length]
      exact le_grown _ _ _
    rw [done]
    exact .of_ok ⟨⟨valid.rpos.trans longer, valid.wpos.trans longer⟩,
      length.trans_le (grown_le placeable valid.small)⟩

theorem sound_of_meets (valid : Valid buffer) (meets : Meets buffer event) :
    Sound buffer event ∧ Valid (step buffer event) := by
  have appended : Ends buffer (event.perform.run buffer) ∧
      (∀ src after, event.appended = some src → event.perform.run buffer = .ok () after →
        after.storage = buffer.storage ++ src) ∧
      (event = .rfinish → (step buffer event).unread = []) := by
    cases event with
    | read type => exact ⟨ends_read valid meets, nofun, nofun⟩
    | readSkip type => exact ⟨ends_readSkip valid meets, nofun, nofun⟩
    | skip count => exact ⟨.of_reads valid (reads_skip count), nofun, nofun⟩
    | extract len => exact ⟨ends_extract valid meets, nofun, nofun⟩
    | append src =>
        obtain ⟨ends, behind⟩ := append_cases valid meets
        exact ⟨ends, fun _ after same => by cases same; exact behind after, nofun⟩
    | appendBuffer other =>
        obtain ⟨ends, behind⟩ := appendBuffer_cases valid meets
        exact ⟨ends, fun _ after same => by cases same; exact behind after, nofun⟩
    | write value =>
        obtain ⟨ends, behind⟩ := write_cases valid meets
        exact ⟨ends, fun _ after same => by cases same; exact behind after, nofun⟩
    | replace pos value => exact ⟨ends_replace valid meets, nofun, nofun⟩
    | put pos src => exact ⟨ends_put valid meets, nofun, nofun⟩
    | resize newsize => exact ⟨ends_resize valid newsize, nofun, nofun⟩
    | rfinish =>
        refine ⟨.of_ok ⟨⟨valid.wpos, valid.wpos⟩, valid.small⟩, nofun, fun _ => ?_⟩
        exact List.drop_eq_nil_of_le (Nat.le_of_eq meets.symm)
    | clear => exact ⟨.of_ok empty_valid, nofun, nofun⟩
    | moveTo => exact ⟨.of_ok valid, nofun, nofun⟩
    | moveFrom => exact ⟨.of_ok empty_valid, nofun, nofun⟩
  obtain ⟨ends, behind, finishes⟩ := appended
  refine ⟨⟨ends.valid.toInRange, ?_, ends.throws, behind, finishes⟩, ends.valid⟩
  intro after overrun
  have exception := (ends.throws _ _ overrun).1
  cases exception

theorem Construction.buffer_valid (construction : Construction) : Valid construction.buffer := by
  cases construction with
  | empty => exact empty_valid
  | received bytes fits => exact ⟨⟨Nat.zero_le _, Nat.zero_le _⟩, fits⟩

/-! ## All runs -/

/-- In a run whose operations meet the condition the positions stay inside, and all are sound. -/
theorem positions_stay_inside (construction : Construction) (events : List BufferEvent)
    (meets : EveryStep step Meets construction.buffer events) :
    Throughout step InRange construction.buffer events ∧
      EveryStep step Sound construction.buffer events := by
  have kept : ∀ buffer event, Valid buffer → Meets buffer event → Valid (step buffer event) :=
    fun _ _ valid meets => (sound_of_meets valid meets).2
  constructor
  · exact (throughout_of_invariant kept construction.buffer_valid meets).mono
      fun _ valid => valid.toInRange
  · exact everyStep_of_invariant kept (fun _ _ valid meets => (sound_of_meets valid meets).1)
      construction.buffer_valid meets

/-- A packet is built, a number in it replaced, and it is read to its end. -/
def builtPacket : List BufferEvent :=
  [.write ⟨.arithmetic (.integer .four), (5 : BitVec 32)⟩, .append [1, 2],
    .replace 0 ⟨.arithmetic (.integer .four), (6 : BitVec 32)⟩,
    .read (.arithmetic (.integer .four)), .skip 9, .rfinish]

theorem builtPacket_stays_inside :
    EveryStep step Meets Construction.empty.buffer builtPacket ∧
      Throughout step InRange Construction.empty.buffer builtPacket ∧
        EveryStep step Sound Construction.empty.buffer builtPacket := by
  have meets : EveryStep step Meets Construction.empty.buffer builtPacket := by
    refine ⟨⟨trivial, .inr ⟨rfl, ⟨by decide, by decide, by decide⟩, trivial⟩⟩,
      .inr ⟨rfl, by decide, by decide, by decide⟩,
      ⟨trivial, .inr ⟨by decide, by decide, by decide, trivial⟩⟩, trivial, trivial, rfl, trivial⟩
  exact ⟨meets, positions_stay_inside .empty builtPacket meets⟩

/-- A received packet: what is appended to it gets to its front. -/
theorem receivedPacket_overwritten :
    ¬EveryStep step Sound (Construction.received [1, 2, 3] (by decide)).buffer [.append [9]] := by
  rintro ⟨sound, _⟩
  have behind := sound.appendsBehind [9] ⟨[9, 2, 3], 0, 1⟩ rfl rfl
  exact absurd behind (by decide)

end RealmServer.Packets
