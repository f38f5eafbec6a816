import RealmServer.Packets.Pieces

/-!
# Reading back what has been written

Values are written to an empty buffer and read back.  The bytes of a value are
appended in some pieces; `Shows` says that a value is what its reader finds at a
position, and `behind` where it stops.

The readers and writers of all kinds but the containers fit together.  A vector
is written without the number of its elements, which its reader expects in front
of them; a list has no writer, and a map no reader.
-/

namespace RealmServer.Packets

open Network (Bytes)
open ByteBuffer

/-! ## Writing -/

/-- At the end of a buffer the operation appends the pieces, and fails if one is not accepted. -/
def Writes (operation : Operation Unit) (pieces : List Bytes) : Prop :=
  ∀ storage rpos after, operation.run ⟨storage, rpos, storage.length⟩ = .ok () after ↔
    Appendable storage.length pieces ∧
      after = ⟨storage ++ pieces.flatten, rpos, (storage ++ pieces.flatten).length⟩

namespace Writes

variable {first second : Operation Unit} {pieces others : List Bytes}

theorem append (src : Bytes) : Writes (ByteBuffer.append src) [src] := by
  intro storage rpos after
  rw [append_eq_ok, List.flatten_singleton]
  simp [Appendable]

theorem nothing : Writes (pure ()) [] := by
  intro storage rpos after
  rw [EStateM.run_pure, List.flatten_nil, List.append_nil]
  simp [Appendable, eq_comm]

theorem bind (writes : Writes first pieces) (later : Writes second others) :
    Writes (first >>= fun _ => second) (pieces ++ others) := by
  intro storage rpos after
  rw [bind_eq_ok, appendable_append, List.flatten_append, ← List.append_assoc]
  constructor
  · rintro ⟨_, _, done, rest⟩
    obtain ⟨accepted, rfl⟩ := (writes _ _ _).mp done
    obtain ⟨acceptedLater, rfl⟩ := (later _ _ _).mp rest
    rw [List.length_append] at acceptedLater
    exact ⟨⟨accepted, acceptedLater⟩, rfl⟩
  · rintro ⟨⟨accepted, acceptedLater⟩, rfl⟩
    refine ⟨(), _, (writes _ _ _).mpr ⟨accepted, rfl⟩, (later _ _ _).mpr ⟨?_, rfl⟩⟩
    rw [List.length_append]
    exact acceptedLater

end Writes

theorem composing_writes : Composing Writes where
  append := Writes.append
  nothing := Writes.nothing
  bind := Writes.bind

/-- The mark is put in front of the bytes when these are known. -/
theorem setMark_run {storage : Bytes} {rpos : Nat} (mark : UInt8) {bytes : Bytes}
    (small : storage.length + bytes.length + 1 < 2 ^ 64) :
    (setByte storage.length mark).run
      ⟨storage ++ [0] ++ bytes, rpos, (storage ++ [0] ++ bytes).length⟩ =
        .ok () ⟨storage ++ mark :: bytes, rpos, (storage ++ mark :: bytes).length⟩ := by
  have inside : storage.length + 1 ≤ (storage ++ [0] ++ bytes).length := by
    simp only [List.length_append, List.length_singleton]
    omega
  have placed : overwrite (storage ++ [0] ++ bytes) storage.length [mark] =
      storage ++ mark :: bytes := by
    simp [overwrite, List.drop_append]
  rw [setByte_run, size_mk, sizeAdd_of_lt (by omega), if_neg (Nat.not_lt.mpr inside),
    store_run, size_mk, List.length_singleton, if_pos inside, placed]
  simp

theorem Writes.packGUID (guid : BitVec 64) :
    Writes (appendPackGUID guid) (pieces .packedGuid guid) := by
  intro storage rpos after
  have length : (markedBytes guid).2.length ≤ 8 := calculatePackGUID_length 8 0 _
  have flat : (pieces .packedGuid guid).flatten = (markedBytes guid).1 :: (markedBytes guid).2 :=
    written_packedGuid guid
  have sameRoom (mark : UInt8) : Room storage.length [mark] ↔ Room storage.length [0] :=
    ⟨fun room => ⟨by simp, room.small, room.fits⟩, fun room => ⟨by simp, room.small, room.fits⟩⟩
  have bytes := composing_writes.bytes (markedBytes guid).2
  have flatBytes : ((markedBytes guid).2.map fun byte => [byte]).flatten =
      (markedBytes guid).2 := by
    rw [← List.flatMap_def, List.flatMap_singleton']
  unfold Writes at bytes
  rw [flatBytes] at bytes
  rw [flat, appendPackGUID_run]
  constructor
  · intro ended
    obtain ⟨_, _, first, rest⟩ := bind_eq_ok.mp ended
    obtain ⟨_, _, second, third⟩ := bind_eq_ok.mp rest
    obtain ⟨room, rfl⟩ := append_eq_ok.mp first
    obtain ⟨others, rfl⟩ := (bytes _ _ _).mp second
    have small := room.small
    rw [setMark_run _ (by omega)] at third
    cases third
    rw [List.length_append] at others
    exact ⟨⟨(sameRoom _).mpr room, others⟩, rfl⟩
  · rintro ⟨⟨room, others⟩, rfl⟩
    have small := room.small
    rw [bind_of_ok (append_atEnd ((sameRoom _).mp room))]
    refine bind_eq_ok.mpr ⟨(), _, (bytes _ _ _).mpr ⟨?_, rfl⟩, setMark_run _ (by omega)⟩
    rw [List.length_append]
    exact others

theorem appending_writes : Appending Writes where
  toComposing := composing_writes
  packGUID := Writes.packGUID

/-! ## What a reader finds -/

/-- The characters from a position on. -/
def text (storage : Bytes) (pos : Nat) : Bytes := (storage.drop pos).takeWhile (· ≠ 0)

/-- The position behind the characters, and behind the NUL if there is one. -/
def textEnd (storage : Bytes) (pos : Nat) : Nat :=
  pos + (text storage pos).length +
    if pos + (text storage pos).length < storage.length then 1 else 0

/-- How many bytes follow the mark of a guid. -/
def markedCount (guidmark : UInt8) (indices : List Nat) : Nat :=
  (indices.filter (isMarked guidmark)).length

/-- The guid which the bytes make up, each put where the mark says. -/
def gather (guidmark : UInt8) : List Nat → Bytes → Nat → Nat
  | [], _, guid => guid
  | i :: rest, bytes, guid =>
      if isMarked guidmark i then
        gather guidmark rest bytes.tail (guid ||| ((bytes.headD 0).toNat <<< (i * 8)))
      else gather guidmark rest bytes guid

/-- At the position there is what the reader of a type without elements takes for the value. -/
def Shows (storage : Bytes) (pos : Nat) : (type : BufferType) → type.Value → Prop
  | .arithmetic type, value =>
      pos + type.size ≤ storage.length ∧ type.ofBytes (slice storage pos type.size) = value
  | .string, string =>
      slice storage (pos % 2 ^ 32) ((text storage pos).length % 2 ^ 32) = string
  | .packedGuid, guid =>
      pos + 1 + markedCount (storage.getD pos 0) (List.range 8) ≤ storage.length ∧
        BitVec.ofNat 64 (gather (storage.getD pos 0) (List.range 8) (storage.drop (pos + 1)) 0) =
          guid
  | .vector _, _ | .list _, _ | .map _ _, _ => False

/-- The read position behind a value. -/
def behind (storage : Bytes) (pos : Nat) : (type : BufferType) → type.Value → Nat
  | .arithmetic type, _ => pos + type.size
  | .string, _ => textEnd storage pos
  | .packedGuid, _ => pos + 1 + markedCount (storage.getD pos 0) (List.range 8)
  | .vector _, _ | .list _, _ | .map _ _, _ => pos

/-! ## Reading -/

section

variable {storage : Bytes} {rpos wpos : Nat} {after : ByteBuffer}

/-- A buffer whose sizes are far from wrapping, with the read position inside. -/
structure Readable (storage : Bytes) (rpos : Nat) : Prop where
  inside : rpos ≤ storage.length
  small : storage.length ≤ maxSize

theorem Readable.noWrap (readable : Readable storage rpos) {count : Nat}
    (few : count < 2 ^ 63) : rpos + count < 2 ^ 64 := by
  have inside := readable.inside
  have small := readable.small
  unfold maxSize at small
  omega

theorem readRaw_eq_ok (readable : Readable storage rpos) {count : Nat} (few : count ≤ 8)
    {bytes : Bytes} :
    (readRaw count).run ⟨storage, rpos, wpos⟩ = .ok bytes after ↔
      rpos + count ≤ storage.length ∧ slice storage rpos count = bytes ∧
        after = ⟨storage, rpos + count, wpos⟩ := by
  rw [readRaw_run (readable.noWrap (by omega))]
  split_ifs with short
  · simp [Nat.not_le.mpr short]
  · simp [Nat.not_lt.mp short, eq_comm]

theorem readArithmetic_eq_ok (readable : Readable storage rpos) (type : ArithmeticType)
    {value : type.Value} (finite : type.isFinite value = true) :
    (readArithmetic type).run ⟨storage, rpos, wpos⟩ = .ok value after ↔
      Shows storage rpos (.arithmetic type) value ∧
        after = ⟨storage, behind storage rpos (.arithmetic type) value, wpos⟩ := by
  simp only [readArithmetic, readPlain, bind_assoc, pure_bind]
  rw [bind_eq_ok]
  constructor
  · rintro ⟨bytes, middle, raw, checked⟩
    obtain ⟨enough, rfl, rfl⟩ := (readRaw_eq_ok readable type.size_le).mp raw
    split_ifs at checked with isFinite
    · cases checked
      exact ⟨⟨enough, rfl⟩, rfl⟩
    · cases checked
  · rintro ⟨⟨enough, rfl⟩, rfl⟩
    refine ⟨_, _, (readRaw_eq_ok readable type.size_le).mpr ⟨enough, rfl, rfl⟩, ?_⟩
    rw [if_pos finite]
    rfl

theorem scanString_eq (bytes : Bytes) {size : Nat} (small : size < 2 ^ 32) (rpos : Nat) :
    scanString bytes size rpos =
      ((size + (bytes.takeWhile (· ≠ 0)).length) % 2 ^ 32,
        rpos + (bytes.takeWhile (· ≠ 0)).length +
          if (bytes.takeWhile (· ≠ 0)).length < bytes.length then 1 else 0) := by
  induction bytes generalizing size rpos with
  | nil =>
      rw [scanString, List.takeWhile_nil, List.length_nil, Nat.add_zero, Nat.mod_eq_of_lt small]
      rfl
  | cons byte rest induction =>
      rw [scanString]
      by_cases zero : byte = 0
      · rw [if_pos zero, List.takeWhile_cons_of_neg (by simpa using zero), List.length_nil,
          Nat.mod_eq_of_lt (show size + 0 < 2 ^ 32 from small), if_pos (by simp)]
        rfl
      · rw [if_neg zero, List.takeWhile_cons_of_pos (by simpa using zero),
          induction (Nat.mod_lt _ (by decide))]
        simp only [List.length_cons, Nat.add_lt_add_iff_right, Nat.mod_add_mod]
        rw [Nat.add_assoc size 1, Nat.add_comm 1, Nat.add_assoc rpos 1, Nat.add_comm 1]

theorem text_length (storage : Bytes) (pos : Nat) :
    (text storage pos).length ≤ storage.length - pos := by
  rw [← List.length_drop]
  exact (List.takeWhile_prefix _).length_le

theorem textEnd_le (inside : rpos ≤ storage.length) : textEnd storage rpos ≤ storage.length := by
  have length := text_length storage rpos
  rw [textEnd]
  split_ifs
  · omega
  · omega

/-- A string is read from everywhere, with or without a NUL behind it. -/
theorem readString_run (inside : rpos ≤ storage.length) :
    readString.run ⟨storage, rpos, wpos⟩ =
      .ok (slice storage (rpos % 2 ^ 32) ((text storage rpos).length % 2 ^ 32))
        ⟨storage, textEnd storage rpos, wpos⟩ := by
  have scanned : scanString (storage.drop rpos) 0 rpos =
      ((text storage rpos).length % 2 ^ 32, textEnd storage rpos) := by
    have same := scanString_eq (storage.drop rpos) (show 0 < 2 ^ 32 by decide) rpos
    rw [Nat.zero_add, List.length_drop] at same
    have reach : (text storage rpos).length < storage.length - rpos ↔
        rpos + (text storage rpos).length < storage.length := by omega
    rw [same]
    show (_, rpos + (text storage rpos).length +
      if (text storage rpos).length < storage.length - rpos then 1 else 0) = _
    simp only [reach]
    rfl
  have within : rpos % 2 ^ 32 + (text storage rpos).length % 2 ^ 32 ≤ storage.length := by
    have start : rpos % 2 ^ 32 ≤ rpos := Nat.mod_le _ _
    have count : (text storage rpos).length % 2 ^ 32 ≤ (text storage rpos).length :=
      Nat.mod_le _ _
    have length := text_length storage rpos
    omega
  simp only [readString, EStateM.run_bind, EStateM.run_get, EStateM.run_set, unread, scanned]
  rw [memory_run, size_mk, if_pos within]

theorem readString_eq_ok (readable : Readable storage rpos) {string : Bytes} :
    readString.run ⟨storage, rpos, wpos⟩ = .ok string after ↔
      Shows storage rpos .string string ∧
        after = ⟨storage, behind storage rpos .string string, wpos⟩ := by
  rw [readString_run readable.inside]
  show _ ↔ slice storage _ _ = string ∧ after = ⟨storage, textEnd storage rpos, wpos⟩
  simp [eq_comm]

/-! ### Guids -/

/-- A byte behind the read position. -/
theorem readUInt8_eq_ok (readable : Readable storage rpos) {byte : UInt8} :
    readUInt8.run ⟨storage, rpos, wpos⟩ = .ok byte after ↔
      rpos < storage.length ∧ storage.getD rpos 0 = byte ∧ after = ⟨storage, rpos + 1, wpos⟩ := by
  have single (inside : rpos < storage.length) :
      UInt8.ofNat (LittleEndian.decode (slice storage rpos 1)) = storage.getD rpos 0 := by
    have first : slice storage rpos 1 = [storage[rpos]] := by
      rw [slice, List.drop_eq_getElem_cons inside]
      rfl
    rw [first, LittleEndian.decode_cons, LittleEndian.decode_nil, List.getD_eq_getElem _ _ inside]
    simp
  rw [readUInt8, bind_eq_ok]
  constructor
  · rintro ⟨bytes, middle, raw, value⟩
    obtain ⟨inside, rfl, rfl⟩ := (readRaw_eq_ok readable (by decide)).mp raw
    cases value
    exact ⟨inside, (single inside).symm, rfl⟩
  · rintro ⟨inside, rfl, rfl⟩
    refine ⟨_, _, (readRaw_eq_ok readable (by decide)).mpr ⟨inside, rfl, rfl⟩, ?_⟩
    rw [EStateM.run_pure, single inside]

theorem readMarked_eq_ok (readable : Readable storage rpos) (guidmark : UInt8)
    (indices : List Nat) (start : Nat) {guid : Nat} :
    (readMarked guidmark indices start).run ⟨storage, rpos, wpos⟩ = .ok guid after ↔
      rpos + markedCount guidmark indices ≤ storage.length ∧
        gather guidmark indices (storage.drop rpos) start = guid ∧
          after = ⟨storage, rpos + markedCount guidmark indices, wpos⟩ := by
  induction indices generalizing rpos start with
  | nil =>
      have inside := readable.inside
      rw [readMarked, EStateM.run_pure]
      simp [markedCount, gather, inside, eq_comm]
  | cons i rest induction =>
      by_cases marked : isMarked guidmark i
      swap
      · have count : markedCount guidmark (i :: rest) = markedCount guidmark rest := by
          rw [markedCount, List.filter_cons_of_neg marked, markedCount]
        rw [readMarked, if_neg marked, gather, if_neg marked, count]
        exact induction readable start
      have count : markedCount guidmark (i :: rest) = markedCount guidmark rest + 1 := by
        rw [markedCount, List.filter_cons_of_pos marked, markedCount, List.length_cons]
      have one (inside : rpos < storage.length) : Readable storage (rpos + 1) :=
        ⟨inside, readable.small⟩
      have tail : (storage.drop rpos).tail = storage.drop (rpos + 1) := List.tail_drop
      have head : (storage.drop rpos).headD 0 = storage.getD rpos 0 := by
        rw [List.headD_eq_head?_getD, List.head?_drop, List.getD_eq_getElem?_getD]
      rw [readMarked, if_pos marked, gather, if_pos marked, count, tail, head, bind_eq_ok]
      constructor
      · rintro ⟨byte, middle, first, others⟩
        obtain ⟨inside, rfl, rfl⟩ := (readUInt8_eq_ok readable).mp first
        obtain ⟨enough, gathered, rfl⟩ := (induction (one inside) _).mp others
        refine ⟨by omega, gathered, ?_⟩
        rw [Nat.add_assoc, Nat.add_comm 1]
      · rintro ⟨enough, gathered, rfl⟩
        have inside : rpos < storage.length := by omega
        refine ⟨_, _, (readUInt8_eq_ok readable).mpr ⟨inside, rfl, rfl⟩,
          (induction (one inside) _).mpr ⟨by omega, gathered, ?_⟩⟩
        rw [Nat.add_assoc, Nat.add_comm 1]

theorem readPackGUID_eq_ok (readable : Readable storage rpos) {guid : BitVec 64} :
    readPackGUID.run ⟨storage, rpos, wpos⟩ = .ok guid after ↔
      Shows storage rpos .packedGuid guid ∧
        after = ⟨storage, behind storage rpos .packedGuid guid, wpos⟩ := by
  have one (inside : rpos < storage.length) : Readable storage (rpos + 1) :=
    ⟨inside, readable.small⟩
  rw [readPackGUID, bind_eq_ok]
  constructor
  · rintro ⟨guidmark, middle, first, rest⟩
    obtain ⟨inside, rfl, rfl⟩ := (readUInt8_eq_ok readable).mp first
    obtain ⟨gathered, _, others, value⟩ := bind_eq_ok.mp rest
    obtain ⟨enough, rfl, rfl⟩ := (readMarked_eq_ok (one inside) _ _ _).mp others
    cases value
    exact ⟨⟨enough, rfl⟩, rfl⟩
  · rintro ⟨⟨enough, rfl⟩, rfl⟩
    have inside : rpos < storage.length := by omega
    refine ⟨_, _, (readUInt8_eq_ok readable).mpr ⟨inside, rfl, rfl⟩, bind_eq_ok.mpr
      ⟨_, _, (readMarked_eq_ok (one inside) _ _ _).mpr ⟨enough, rfl, rfl⟩, rfl⟩⟩

/-! ### Containers -/

/-- The prefix is a number of four bytes. -/
theorem readSpan_ok (readable : Readable storage rpos) {span : Span}
    (ended : readSpan.run ⟨storage, rpos, wpos⟩ = .ok span after) :
    rpos + 4 + span.size ≤ storage.length ∧
      LittleEndian.decode (slice storage rpos 4) = span.size ∧ span.pos = rpos + 4 ∧
        after = ⟨storage, rpos + 4 + span.size, wpos⟩ := by
  simp only [readSpan, readUInt32, bind_assoc, pure_bind] at ended
  obtain ⟨bytes, middle, first, rest⟩ := bind_eq_ok.mp ended
  obtain ⟨enough, rfl, rfl⟩ := (readRaw_eq_ok readable (by decide)).mp first
  rw [EStateM.run_bind, EStateM.run_get] at rest
  obtain ⟨_, skipped, skipping, value⟩ := bind_eq_ok.mp rest
  have next : Readable storage (rpos + 4) := ⟨enough, readable.small⟩
  have few : LittleEndian.decode (slice storage rpos 4) < 2 ^ 63 := by
    have below := LittleEndian.decode_lt (slice storage rpos 4)
    have width : (slice storage rpos 4).length ≤ 4 := by
      rw [slice_length]
      exact Nat.min_le_left _ _
    have powers : 256 ^ (slice storage rpos 4).length ≤ 256 ^ 4 :=
      Nat.pow_le_pow_right (by decide) width
    omega
  rw [skip_run, size_mk, sizeAdd_of_lt (next.noWrap few)] at skipping
  split_ifs at skipping with short
  cases skipping
  cases value
  exact ⟨Nat.not_lt.mp short, rfl, rfl, rfl⟩

theorem copySpan_run (element : ArithmeticType) (span : Span) {buffer : ByteBuffer}
    (inside : span.size ≠ 0 →
      element.size * span.pos + element.size * span.size ≤ buffer.size) :
    ∃ values, (copySpan element span).run buffer = .ok values buffer := by
  rw [copySpan]
  split_ifs with none
  · exact ⟨_, rfl⟩
  · rw [EStateM.run_bind, memory_run, if_pos (inside none)]
    exact ⟨_, rfl⟩

/-! ### All types -/

/-- The values a program may expect back: finite floats, strings without a NUL inside. -/
def Clean : (type : BufferType) → type.Value → Prop
  | .arithmetic type, value => type.isFinite value = true
  | .string, string => 0 ∉ (show Bytes from string)
  | .packedGuid, _ => True
  | .vector _, _ => True
  | .list _, _ => True
  | .map key value, entries =>
      ∀ entry ∈ (show List (key.Value × value.Value) from entries),
        Clean key entry.1 ∧ Clean value entry.2

theorem read_of_shows (readable : Readable storage rpos) {type : BufferType} {value : type.Value}
    (clean : Clean type value) (shows : Shows storage rpos type value) :
    (read type).run ⟨storage, rpos, wpos⟩ =
      .ok value ⟨storage, behind storage rpos type value, wpos⟩ := by
  cases type with
  | arithmetic type => exact (readArithmetic_eq_ok readable type clean).mpr ⟨shows, rfl⟩
  | string => exact (readString_eq_ok readable).mpr ⟨shows, rfl⟩
  | packedGuid => exact (readPackGUID_eq_ok readable).mpr ⟨shows, rfl⟩
  | vector element => exact absurd shows id
  | list element => exact absurd shows id
  | map key entry => exact absurd shows id

theorem behind_le (readable : Readable storage rpos) {type : BufferType} {value : type.Value}
    (shows : Shows storage rpos type value) :
    behind storage rpos type value ≤ storage.length := by
  cases type with
  | arithmetic type => exact shows.1
  | string => exact textEnd_le readable.inside
  | packedGuid => exact shows.1
  | vector element => exact absurd shows id
  | list element => exact absurd shows id
  | map key value => exact absurd shows id

end

/-! ## What is written shows itself -/

theorem isMarked_eq_testBit (guidmark : UInt8) {i : Nat} (below : i < 8) :
    isMarked guidmark i = guidmark.toNat.testBit i := by
  have every : ∀ byte : Fin 256, ∀ bit : Fin 8,
      isMarked (UInt8.ofNat byte.val) bit.val = byte.val.testBit bit.val := by decide +kernel
  have same := every ⟨guidmark.toNat, guidmark.toNat_lt⟩ ⟨i, below⟩
  rw [UInt8.ofNat_toNat] at same
  exact same

/-- Setting a mark sets no other one. -/
theorem isMarked_or (guidmark : UInt8) {i j : Nat} (first : i < 8) (second : j < 8) :
    isMarked (1 <<< UInt8.ofNat i ||| guidmark) j = (decide (i = j) || isMarked guidmark j) := by
  have single : ∀ bit other : Fin 8, (1 <<< UInt8.ofNat bit.val : UInt8).toNat.testBit other.val =
      decide (bit.val = other.val) := by decide +kernel
  rw [isMarked_eq_testBit _ second, isMarked_eq_testBit _ second, UInt8.toNat_or,
    Nat.testBit_or, single ⟨i, first⟩ ⟨j, second⟩]

theorem isMarked_zero {i : Nat} (below : i < 8) : isMarked 0 i = false := by
  rw [isMarked_eq_testBit _ below]
  exact Nat.zero_testBit i

/-- The bytes are appended from the `i`-th on, so only they are marked. -/
theorem isMarked_calculatePackGUID {turns i guid j : Nat} (all : i + turns = 8) (before : j < i) :
    isMarked (calculatePackGUID turns i guid).1 j = false := by
  induction turns generalizing i guid with
  | zero => exact isMarked_zero (by omega)
  | succ turns induction =>
      have later : isMarked (calculatePackGUID turns (i + 1) (guid / 256)).1 j = false :=
        induction (by omega) (by omega)
      simp only [calculatePackGUID]
      split_ifs with done zero
      · exact isMarked_zero (by omega)
      · rw [isMarked_or _ (by omega) (by omega), later, decide_eq_false (by omega)]
        rfl
      · exact later

theorem gather_unmarked {guidmark : UInt8} {indices : List Nat} {bytes : Bytes} {guid : Nat}
    (unmarked : ∀ i ∈ indices, isMarked guidmark i = false) :
    gather guidmark indices bytes guid = guid := by
  induction indices with
  | nil => rfl
  | cons i rest induction =>
      rw [gather, unmarked i List.mem_cons_self]
      exact induction fun j member => unmarked j (List.mem_cons_of_mem _ member)

theorem or_shiftLeft {guid byte i : Nat} (below : guid < 256 ^ i) :
    guid ||| (byte <<< (i * 8)) = guid + byte * 256 ^ i := by
  have power : 256 ^ i = 2 ^ (i * 8) := by
    rw [Nat.mul_comm, Nat.pow_mul]
  rw [power] at below ⊢
  rw [Nat.or_comm, ← Nat.shiftLeft_add_eq_or_of_lt below, Nat.shiftLeft_eq, Nat.add_comm]

theorem gather_calculatePackGUID {turns i guid start : Nat} {guidmark : UInt8} (rest : Bytes)
    (all : i + turns = 8) (small : guid < 256 ^ turns) (below : start < 256 ^ i)
    (marks : ∀ j, i ≤ j → j < 8 →
      isMarked guidmark j = isMarked (calculatePackGUID turns i guid).1 j) :
    gather guidmark (List.range' i turns)
        ((calculatePackGUID turns i guid).2 ++ rest) start = start + guid * 256 ^ i ∧
      markedCount guidmark (List.range' i turns) =
        (calculatePackGUID turns i guid).2.length := by
  induction turns generalizing i guid start with
  | zero =>
      have zero : guid = 0 := by omega
      simp [gather, markedCount, calculatePackGUID, zero]
  | succ turns induction =>
      have smaller : guid / 256 < 256 ^ turns := by
        rw [Nat.pow_succ] at small
        omega
      have wider : start + guid % 256 * 256 ^ i < 256 ^ (i + 1) := by
        have byte : guid % 256 + 1 ≤ 256 := Nat.mod_lt _ (by decide)
        calc start + guid % 256 * 256 ^ i < 256 ^ i + guid % 256 * 256 ^ i := by omega
          _ = (guid % 256 + 1) * 256 ^ i := by ring
          _ ≤ 256 * 256 ^ i := Nat.mul_le_mul_right _ byte
          _ = 256 ^ (i + 1) := by rw [Nat.pow_succ, Nat.mul_comm]
      have digits : guid % 256 * 256 ^ i + guid / 256 * 256 ^ (i + 1) = guid * 256 ^ i := by
        rw [Nat.pow_succ]
        calc guid % 256 * 256 ^ i + guid / 256 * (256 ^ i * 256)
            = (guid % 256 + 256 * (guid / 256)) * 256 ^ i := by ring
          _ = guid * 256 ^ i := by rw [Nat.mod_add_div]
      have packed : calculatePackGUID (turns + 1) i guid =
          if guid = 0 then ((0 : UInt8), ([] : Bytes))
          else if guid % 256 ≠ 0 then
            (1 <<< UInt8.ofNat i ||| (calculatePackGUID turns (i + 1) (guid / 256)).1,
              UInt8.ofNat guid :: (calculatePackGUID turns (i + 1) (guid / 256)).2)
          else calculatePackGUID turns (i + 1) (guid / 256) := rfl
      have sum : i + 1 + turns = 8 := by omega
      have others : isMarked (calculatePackGUID turns (i + 1) (guid / 256)).1 i = false :=
        isMarked_calculatePackGUID sum (Nat.lt_succ_self i)
      rw [packed] at marks ⊢
      split_ifs at marks ⊢ with done zero
      · have unmarked : ∀ j ∈ List.range' i (turns + 1), isMarked guidmark j = false := by
          intro j member
          have bounds := List.mem_range'_1.mp member
          rw [marks j bounds.1 (by omega)]
          exact isMarked_zero (by omega)
        rw [gather_unmarked unmarked, markedCount,
          List.filter_eq_nil_iff.mpr (by simpa using unmarked), done, Nat.zero_mul]
        exact ⟨rfl, rfl⟩
      · have marked : isMarked guidmark i = true := by
          rw [marks i (Nat.le_refl i) (by omega), isMarked_or _ (by omega) (by omega)]
          simp
        have low : (UInt8.ofNat guid).toNat = guid % 256 := by simp
        have marksLater : ∀ j, i + 1 ≤ j → j < 8 → isMarked guidmark j =
            isMarked (calculatePackGUID turns (i + 1) (guid / 256)).1 j := by
          intro j above within
          rw [marks j (by omega) within, isMarked_or _ (by omega) within,
            decide_eq_false (by omega), Bool.false_or]
        have tail := induction sum smaller wider marksLater
        rw [List.range'_succ, gather, if_pos marked, List.cons_append, List.headD_cons,
          List.tail_cons, low, or_shiftLeft below, tail.1, markedCount,
          List.filter_cons_of_pos marked, List.length_cons, List.length_cons, ← tail.2,
          Nat.add_assoc, digits]
        exact ⟨rfl, rfl⟩
      · have marked : ¬isMarked guidmark i = true := by
          rw [marks i (Nat.le_refl i) (by omega), others]
          simp
        have wide : start < 256 ^ (i + 1) :=
          below.trans_le (Nat.pow_le_pow_right (by decide) (Nat.le_succ i))
        have tail := induction sum smaller wide
          (fun j above within => marks j (by omega) within)
        rw [not_not.mp zero, Nat.zero_mul, Nat.zero_add] at digits
        rw [List.range'_succ, gather, if_neg marked, tail.1, digits, markedCount,
          List.filter_cons_of_neg marked, ← tail.2]
        exact ⟨rfl, rfl⟩

/-- All types but the containers. -/
def BufferType.isPlain : BufferType → Bool
  | .arithmetic _ | .string | .packedGuid => true
  | .vector _ | .list _ | .map _ _ => false

section

variable {before rest : Bytes}

theorem shows_arithmetic (type : ArithmeticType) (value : type.Value) :
    Shows (before ++ written (.arithmetic type) value ++ rest) before.length
        (.arithmetic type) value ∧
      behind (before ++ written (.arithmetic type) value ++ rest) before.length
        (.arithmetic type) value = before.length + (written (.arithmetic type) value).length := by
  have bytes : written (.arithmetic type) value = type.bytes value :=
    List.append_nil (type.bytes value)
  have found := slice_append before (type.bytes value) rest
  rw [type.bytes_length] at found
  rw [bytes]
  refine ⟨⟨?_, ?_⟩, ?_⟩
  · rw [List.length_append, List.length_append, type.bytes_length]
    omega
  · rw [found, type.ofBytes_bytes]
  · rw [type.bytes_length]
    rfl

theorem text_written {string : Bytes} (clean : 0 ∉ string) :
    text (before ++ (string ++ [0]) ++ rest) before.length = string := by
  have inside : ∀ byte ∈ string, decide (byte ≠ 0) = true := by
    intro byte member
    exact decide_eq_true fun zero => clean (zero ▸ member)
  rw [text, List.append_assoc, List.drop_left, List.append_assoc,
    List.takeWhile_append_of_pos inside, List.singleton_append,
    List.takeWhile_cons_of_neg (by decide), List.append_nil]

theorem shows_string {string : Bytes} (clean : 0 ∉ string)
    (accepted : Appendable before.length (stringPieces string)) :
    Shows (before ++ written .string string ++ rest) before.length .string string ∧
      behind (before ++ written .string string ++ rest) before.length .string string =
        before.length + (written .string string).length := by
  have small : before.length + string.length < 2 ^ 32 := by
    rw [stringPieces, appendable_append] at accepted
    have last : before.length +
        (if string.length ≠ 0 then [string] else []).flatten.length < 10000000 :=
      accepted.2.1.small
    split_ifs at last with some
    · simp only [List.flatten_singleton] at last
      omega
    · simp only [List.flatten_nil, List.length_nil] at last
      omega
  have found : slice (before ++ (string ++ [0]) ++ rest) before.length string.length = string := by
    have same := slice_append before string ([0] ++ rest)
    rw [List.append_assoc, ← List.append_assoc string, ← List.append_assoc] at same
    exact same
  rw [written_string]
  constructor
  · show slice _ (before.length % 2 ^ 32)
      ((text (before ++ (string ++ [0]) ++ rest) before.length).length % 2 ^ 32) = string
    rw [text_written clean, Nat.mod_eq_of_lt (by omega), Nat.mod_eq_of_lt (by omega), found]
  · show textEnd _ _ = _
    rw [textEnd, text_written clean, if_pos]
    · rw [List.length_append, List.length_singleton, Nat.add_assoc]
    · simp only [List.length_append, List.length_singleton]
      omega

theorem shows_packedGuid (guid : BitVec 64) :
    Shows (before ++ written .packedGuid guid ++ rest) before.length .packedGuid guid ∧
      behind (before ++ written .packedGuid guid ++ rest) before.length .packedGuid guid =
        before.length + (written .packedGuid guid).length := by
  have marks : ∀ j, 0 ≤ j → j < 8 → isMarked (markedBytes guid).1 j =
      isMarked (calculatePackGUID 8 0 guid.toNat).1 j := fun _ _ _ => rfl
  have gathered := gather_calculatePackGUID rest (show 0 + 8 = 8 from rfl)
    (show guid.toNat < 256 ^ 8 from guid.isLt) (show 0 < 256 ^ 0 by decide) marks
  have range : List.range 8 = List.range' 0 8 := List.range_eq_range'
  rw [← range] at gathered
  have mark : (before ++ written .packedGuid guid ++ rest).getD before.length 0 =
      (markedBytes guid).1 := by
    rw [written_packedGuid, List.append_assoc, List.getD_append_right _ _ _ _ (Nat.le_refl _)]
    simp
  have tail : (before ++ written .packedGuid guid ++ rest).drop (before.length + 1) =
      (markedBytes guid).2 ++ rest := by
    rw [written_packedGuid, List.append_assoc, ← List.drop_drop, List.drop_left]
    rfl
  have length : (written .packedGuid guid).length = 1 + (markedBytes guid).2.length := by
    rw [written_packedGuid, List.length_cons, Nat.add_comm]
  have count : markedCount (markedBytes guid).1 (List.range 8) = (markedBytes guid).2.length :=
    gathered.2
  have value : gather (markedBytes guid).1 (List.range 8) ((markedBytes guid).2 ++ rest) 0 =
      guid.toNat := by
    have same := gathered.1
    rw [Nat.zero_add, Nat.pow_zero, Nat.mul_one] at same
    exact same
  refine ⟨⟨?_, ?_⟩, ?_⟩
  · rw [mark, count]
    simp only [List.length_append, length]
    omega
  · rw [mark, tail, value]
    exact (BitVec.ofNat_toNat 64 guid).trans (BitVec.setWidth_eq guid)
  · show before.length + 1 + markedCount _ _ = _
    rw [mark, count, length]
    omega

/-- Where a value of these types has been written, its reader finds it. -/
theorem shows_written {type : BufferType} {value : type.Value} (plain : type.isPlain = true)
    (clean : Clean type value) (accepted : Appendable before.length (pieces type value)) :
    Shows (before ++ written type value ++ rest) before.length type value ∧
      behind (before ++ written type value ++ rest) before.length type value =
        before.length + (written type value).length := by
  cases type with
  | arithmetic type => exact shows_arithmetic type value
  | string => exact shows_string clean accepted
  | packedGuid => exact shows_packedGuid value
  | vector element => cases plain
  | list element => cases plain
  | map key entry => cases plain

end

/-! ## Sequences of values -/

/-- What a program writes and expects to read back. -/
structure Message extends TypedValue where
  clean : Clean type value

def writeAll : List TypedValue → Operation Unit
  | [] => return ()
  | value :: rest => do
      write value.type value.value
      writeAll rest

def readAll : List BufferType → Operation (List TypedValue)
  | [] => return []
  | type :: rest => do
      let value ← read type
      let others ← readAll rest
      return { type := type, value := value } :: others

/-- Written to an empty buffer the values are read back, and nothing but them. -/
def RoundTrips (values : List TypedValue) : Prop :=
  ∃ buffer after, (writeAll values).run ByteBuffer.empty = .ok () buffer ∧
    (readAll (values.map TypedValue.type)).run buffer = .ok values after ∧
      after.rpos = after.size

def allPieces (values : List TypedValue) : List Bytes :=
  values.flatMap fun value => pieces value.type value.value

def allWritten (values : List TypedValue) : Bytes := (allPieces values).flatten

/-- One after the other the values are what their readers find, up to the end. -/
def ShowsAll (storage : Bytes) : Nat → List TypedValue → Prop
  | pos, [] => pos = storage.length
  | pos, value :: rest =>
      Shows storage pos value.type value.value ∧
        ShowsAll storage (behind storage pos value.type value.value) rest

theorem writeAll_eq_ok {storage : Bytes} {rpos : Nat} {after : ByteBuffer}
    (values : List TypedValue) :
    (writeAll values).run ⟨storage, rpos, storage.length⟩ = .ok () after ↔
      (∀ value ∈ values, value.type.Writable) ∧ Appendable storage.length (allPieces values) ∧
        after = ⟨storage ++ allWritten values, rpos, (storage ++ allWritten values).length⟩ := by
  induction values generalizing storage with
  | nil =>
      rw [writeAll, EStateM.run_pure]
      simp [allPieces, allWritten, Appendable, eq_comm]
  | cons value rest induction =>
      have flat : allWritten (value :: rest) =
          written value.type value.value ++ allWritten rest := by
        rw [allWritten, allPieces, List.flatMap_cons, List.flatten_append]
        rfl
      rw [writeAll, bind_eq_ok, List.forall_mem_cons, flat, allPieces, List.flatMap_cons,
        appendable_append, ← List.append_assoc]
      constructor
      · rintro ⟨_, middle, first, others⟩
        have writable : value.type.Writable := by
          by_contra unwritable
          rw [write, if_neg unwritable] at first
          cases first
        rw [write, if_pos writable] at first
        obtain ⟨accepted, rfl⟩ := (appending_writes.writeValue _ _ writable _ _ _).mp first
        obtain ⟨writables, acceptedLater, rfl⟩ := induction.mp others
        rw [List.length_append] at acceptedLater
        exact ⟨⟨writable, writables⟩, ⟨accepted, acceptedLater⟩, rfl⟩
      · rintro ⟨⟨writable, writables⟩, ⟨accepted, acceptedLater⟩, rfl⟩
        refine ⟨(), _, ?_, induction.mpr ⟨writables, ?_, rfl⟩⟩
        · rw [write, if_pos writable]
          exact (appending_writes.writeValue _ _ writable _ _ _).mpr ⟨accepted, rfl⟩
        · rw [List.length_append]
          exact acceptedLater

theorem readAll_of_showsAll {storage : Bytes} {rpos wpos : Nat} (readable : Readable storage rpos)
    {values : List Message}
    (shows : ShowsAll storage rpos (values.map Message.toTypedValue)) :
    ∃ after, (readAll (values.map fun value => value.type)).run ⟨storage, rpos, wpos⟩ =
      .ok (values.map Message.toTypedValue) after ∧ after.rpos = after.size := by
  induction values generalizing rpos with
  | nil => exact ⟨_, rfl, shows⟩
  | cons value rest induction =>
      obtain ⟨⟨type, value⟩, clean⟩ := value
      obtain ⟨first, later⟩ := shows
      have next : Readable storage _ := ⟨behind_le readable first, readable.small⟩
      obtain ⟨after, reading, finished⟩ := induction next later
      refine ⟨after, ?_, finished⟩
      rw [List.map_cons, readAll, bind_of_ok (read_of_shows readable clean first),
        bind_of_ok reading]
      rfl

theorem readAll_noMap {types : List BufferType} {buffer after : ByteBuffer}
    {values : List TypedValue} (reading : (readAll types).run buffer = .ok values after)
    (key value : BufferType) : .map key value ∉ types := by
  induction types generalizing buffer after values with
  | nil => exact List.not_mem_nil
  | cons type rest induction =>
      rw [readAll] at reading
      obtain ⟨_, _, first, others⟩ := bind_eq_ok.mp reading
      obtain ⟨_, _, later, _⟩ := bind_eq_ok.mp others
      intro member
      rcases List.mem_cons.mp member with rfl | isLater
      · cases first
      · exact induction later isLater

theorem showsAll_written {before : Bytes} (values : List Message)
    (plain : ∀ value ∈ values, value.type.isPlain = true)
    (accepted : Appendable before.length (allPieces (values.map Message.toTypedValue))) :
    ShowsAll (before ++ allWritten (values.map Message.toTypedValue)) before.length
      (values.map Message.toTypedValue) := by
  induction values generalizing before with
  | nil => simp [ShowsAll, allWritten, allPieces]
  | cons value rest induction =>
      rw [List.map_cons] at accepted ⊢
      rw [allPieces, List.flatMap_cons, appendable_append] at accepted
      have flat : allWritten (value.toTypedValue :: rest.map Message.toTypedValue) =
          written value.type value.value ++ allWritten (rest.map Message.toTypedValue) := by
        rw [allWritten, allPieces, List.flatMap_cons, List.flatten_append]
        rfl
      have first : Shows (before ++ written value.type value.value ++
            allWritten (rest.map Message.toTypedValue)) before.length value.type value.value ∧
          behind (before ++ written value.type value.value ++
            allWritten (rest.map Message.toTypedValue)) before.length value.type value.value =
              before.length + (written value.type value.value).length :=
        shows_written (plain value List.mem_cons_self) value.clean accepted.1
      rw [flat, ← List.append_assoc, ShowsAll, first.2, ← List.length_append]
      refine ⟨first.1,
        induction (fun other member => plain other (List.mem_cons_of_mem _ member)) ?_⟩
      rw [List.length_append]
      exact accepted.2

/-- What has been accepted piece by piece is below the largest size of a vector. -/
theorem length_le_of_appendable {size : Nat} {pieces : List Bytes} (small : size ≤ maxSize)
    (accepted : Appendable size pieces) : size + pieces.flatten.length ≤ maxSize := by
  induction pieces generalizing size with
  | nil => exact small
  | cons src rest induction =>
      rw [List.flatten_cons, List.length_append, ← Nat.add_assoc]
      exact induction accepted.1.fits accepted.2

/-- Every piece is accepted, with less than ten million bytes in front of it, and there are no
containers. -/
structure ReadsBack (values : List TypedValue) : Prop where
  accepted : Appendable 0 (allPieces values)
  plain : ∀ value ∈ values, value.type.isPlain = true

theorem writable_of_isPlain {type : BufferType} (plain : type.isPlain = true) : type.Writable := by
  cases type with
  | arithmetic type => trivial
  | string => trivial
  | packedGuid => trivial
  | vector element => cases plain
  | list element => cases plain
  | map key entry => cases plain

/--
Under this condition writing and reading fit together.  Without it they do at most by accident:
every piece has to be accepted, and no container but a vector can come back.
-/
theorem roundTrips_of_readsBack (values : List Message) :
    (ReadsBack (values.map Message.toTypedValue) → RoundTrips (values.map Message.toTypedValue)) ∧
      (RoundTrips (values.map Message.toTypedValue) →
        Appendable 0 (allPieces (values.map Message.toTypedValue)) ∧
          ∀ value ∈ values, value.type.isPlain = true ∨
            ∃ element, element ≠ .bool ∧ value.type = .vector element) := by
  have types : (values.map Message.toTypedValue).map TypedValue.type =
      values.map fun value => value.type := by
    rw [List.map_map]
    rfl
  have writing_iff (after : ByteBuffer) :
      (writeAll (values.map Message.toTypedValue)).run ⟨[], 0, ([] : Bytes).length⟩ =
          .ok () after ↔ _ := writeAll_eq_ok (values.map Message.toTypedValue)
  constructor
  · rintro ⟨accepted, plain⟩
    have small := length_le_of_appendable (Nat.zero_le maxSize) accepted
    rw [Nat.zero_add] at small
    have inside : ∀ value ∈ values, value.type.isPlain = true :=
      fun value member => plain _ (List.mem_map_of_mem member)
    have shows : ShowsAll (allWritten (values.map Message.toTypedValue)) 0
        (values.map Message.toTypedValue) :=
      showsAll_written values inside (show Appendable ([] : Bytes).length _ from accepted)
    obtain ⟨after, reading, finished⟩ := readAll_of_showsAll ⟨Nat.zero_le _, small⟩ shows
    refine ⟨_, after, (writing_iff _).mpr
      ⟨fun value member => writable_of_isPlain (plain value member), accepted, rfl⟩, ?_, finished⟩
    rw [types]
    exact reading
  · rintro ⟨buffer, after, writing, reading, finished⟩
    obtain ⟨writable, accepted, rfl⟩ := (writing_iff _).mp writing
    rw [types] at reading
    refine ⟨accepted, fun value member => ?_⟩
    have written := writable _ (List.mem_map_of_mem member)
    have typed := List.mem_map_of_mem (f := fun value : Message => value.type) member
    obtain ⟨⟨type, value⟩, clean⟩ := value
    cases type with
    | arithmetic type => exact .inl rfl
    | string => exact .inl rfl
    | packedGuid => exact .inl rfl
    | vector element => exact .inr ⟨element, written, rfl⟩
    | list element => exact absurd written id
    | map key entry => exact absurd typed (readAll_noMap reading key entry)

/-- A vector of one byte. -/
def oneByte : Message where
  type := .vector (.integer .one)
  value := [(7 : BitVec 8)]
  clean := trivial

/-- Its only byte is taken for a part of the number of its elements. -/
theorem oneByte_not_roundTrips : ¬RoundTrips [oneByte.toTypedValue] := by
  rintro ⟨buffer, after, writing, reading, _⟩
  have written : (writeAll [oneByte.toTypedValue]).run ByteBuffer.empty = .ok () ⟨[7], 0, 1⟩ := rfl
  rw [written] at writing
  cases writing
  have failed : (readAll [oneByte.type]).run ⟨[7], 0, 1⟩ =
      .error (.position false 0 4 1) ⟨[7], 0, 1⟩ := rfl
  have both := failed.symm.trans reading
  cases both

end RealmServer.Packets
