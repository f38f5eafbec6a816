import RealmServer.Packets.RoundTrip

/-!
# Packed guids

A guid is packed into a mark and those of its eight bytes which are not zero.
`appendPackGUID` patches the mark into a buffer, the constructor of `PackedGuid`
into a vector of its own.  The reader takes any mark, also one for bytes that
are zero: `spread` is the eight bytes which it puts together, and packing these
leaves the zeros out.
-/

namespace RealmServer.Packets

open Network (Bytes)
open ByteBuffer

/-! ## The second encoder -/

/-- `PackedGuid`, which packs the guid when it is made. -/
structure PackedGuid where
  buffer : Bytes
deriving DecidableEq, Repr

/-- The constructor: a zero, the bytes behind it, and then the mark at the front. -/
def PackedGuid.ofGuid (guid : BitVec 64) : PackedGuid :=
  let packed := calculatePackGUID 8 0 guid.toNat
  { buffer := ([0] ++ packed.2).set 0 packed.1 }

theorem PackedGuid.buffer_ofGuid (guid : BitVec 64) :
    (ofGuid guid).buffer = written .packedGuid guid := by
  rw [written_packedGuid]
  rfl

theorem PackedGuid.length_le (guid : BitVec 64) : (ofGuid guid).buffer.length ≤ 9 := by
  have bytes : (markedBytes guid).2.length ≤ 8 := calculatePackGUID_length 8 0 _
  rw [buffer_ofGuid, written_packedGuid, List.length_cons]
  omega

/-! ## Where a guid is accepted -/

/-- Single bytes are accepted as long as there are fewer than the limit in front of each. -/
theorem appendable_bytes (size : Nat) (bytes : Bytes) :
    Appendable size (bytes.map fun byte => [byte]) ↔
      bytes = [] ∨ size + bytes.length ≤ 10000000 := by
  induction bytes generalizing size with
  | nil => simp [Appendable]
  | cons byte rest induction =>
      have room : Room size [byte] ↔ size < 10000000 := by
        constructor
        · exact Room.small
        · intro small
          refine ⟨by simp, small, ?_⟩
          rw [maxSize, List.length_singleton]
          omega
      rw [List.map_cons, Appendable, room, induction, List.length_singleton, List.length_cons]
      constructor
      · rintro ⟨small, rfl | fits⟩
        · exact Or.inr (by simpa using small)
        · exact Or.inr (by omega)
      · rintro (none | fits)
        · cases none
        · exact ⟨by omega, Or.inr (by omega)⟩

theorem appendPackGUID_eq_ok (guid : BitVec 64) (before : Bytes) (rpos : Nat)
    (after : ByteBuffer) :
    (appendPackGUID guid).run ⟨before, rpos, before.length⟩ = .ok () after ↔
      before.length + (PackedGuid.ofGuid guid).buffer.length ≤ 10000000 ∧
        after = ⟨before ++ (PackedGuid.ofGuid guid).buffer, rpos,
          (before ++ (PackedGuid.ofGuid guid).buffer).length⟩ := by
  have single : pieces .packedGuid guid =
      (written .packedGuid guid).map fun byte => [byte] := by
    rw [written_packedGuid]
    rfl
  have accepted : Appendable before.length (pieces .packedGuid guid) ↔
      before.length + (written .packedGuid guid).length ≤ 10000000 := by
    rw [single, appendable_bytes, written_packedGuid]
    simp
  rw [Writes.packGUID guid before rpos after, accepted, PackedGuid.buffer_ofGuid]
  rfl

/-! ## Guids of eight digits -/

/-- The digits of the guid which the bytes make up, zero where nothing is marked. -/
def spread (guidmark : UInt8) : List Nat → Bytes → Bytes
  | [], _ => []
  | i :: rest, bytes =>
      if isMarked guidmark i then bytes.headD 0 :: spread guidmark rest bytes.tail
      else 0 :: spread guidmark rest bytes

theorem spread_length (guidmark : UInt8) (indices : List Nat) (bytes : Bytes) :
    (spread guidmark indices bytes).length = indices.length := by
  induction indices generalizing bytes with
  | nil => rfl
  | cons i rest induction =>
      rw [spread]
      split_ifs with marked
      · rw [List.length_cons, induction, List.length_cons]
      · rw [List.length_cons, induction, List.length_cons]

/-- Gathering bytes is reading the digits, above what has been gathered. -/
theorem gather_eq_decode (guidmark : UInt8) (turns i : Nat) (bytes : Bytes) {start : Nat}
    (below : start < 256 ^ i) :
    gather guidmark (List.range' i turns) bytes start =
      start + LittleEndian.decode (spread guidmark (List.range' i turns) bytes) * 256 ^ i := by
  induction turns generalizing i bytes start with
  | zero => simp [gather, spread]
  | succ turns induction =>
      rw [List.range'_succ, gather, spread]
      split_ifs with marked
      · have byte : (bytes.headD 0).toNat + 1 ≤ 256 := (bytes.headD 0).toNat_lt
        have wider : start + (bytes.headD 0).toNat * 256 ^ i < 256 ^ (i + 1) := by
          calc start + (bytes.headD 0).toNat * 256 ^ i
              < 256 ^ i + (bytes.headD 0).toNat * 256 ^ i := by omega
            _ = ((bytes.headD 0).toNat + 1) * 256 ^ i := by ring
            _ ≤ 256 * 256 ^ i := Nat.mul_le_mul_right _ byte
            _ = 256 ^ (i + 1) := by rw [Nat.pow_succ, Nat.mul_comm]
        rw [or_shiftLeft below, induction (i + 1) bytes.tail wider, LittleEndian.decode_cons,
          Nat.pow_succ]
        ring
      · have wider : start < 256 ^ (i + 1) :=
          below.trans_le (Nat.pow_le_pow_right (by decide) (Nat.le_succ i))
        rw [induction (i + 1) bytes wider, LittleEndian.decode_cons, Nat.pow_succ]
        have zero : (0 : UInt8).toNat = 0 := rfl
        rw [zero]
        ring

/-- The digits which are not zero are among the bytes, in their order. -/
theorem filter_spread (guidmark : UInt8) (indices : List Nat) (bytes : Bytes)
    (all : bytes.length = markedCount guidmark indices) :
    (spread guidmark indices bytes).filter (· ≠ 0) = bytes.filter (· ≠ 0) := by
  induction indices generalizing bytes with
  | nil =>
      have none : bytes = [] := List.length_eq_zero_iff.mp all
      rw [none, spread]
  | cons i rest induction =>
      by_cases marked : isMarked guidmark i
      · rw [markedCount, List.filter_cons_of_pos marked, List.length_cons] at all
        cases bytes with
        | nil => cases all
        | cons byte others =>
            have fewer : others.length = markedCount guidmark rest := Nat.succ.inj all
            rw [spread, if_pos marked, List.headD_cons, List.tail_cons, List.filter_cons,
              List.filter_cons, induction others fewer]
      · rw [markedCount, List.filter_cons_of_neg marked] at all
        rw [spread, if_neg marked, List.filter_cons_of_neg (by decide), induction bytes all]

/-- If no byte is zero, the digits which are not zero are those which are marked. -/
theorem spread_ne_zero_iff (guidmark : UInt8) (turns i : Nat) (bytes : Bytes)
    (all : bytes.length = markedCount guidmark (List.range' i turns)) (clean : 0 ∉ bytes)
    {place : Nat} (within : place < turns) :
    (spread guidmark (List.range' i turns) bytes).getD place 0 ≠ 0 ↔
      isMarked guidmark (i + place) = true := by
  induction turns generalizing i bytes place with
  | zero => cases within
  | succ turns induction =>
      rw [List.range'_succ] at all ⊢
      by_cases marked : isMarked guidmark i
      · rw [markedCount, List.filter_cons_of_pos marked, List.length_cons] at all
        cases bytes with
        | nil => cases all
        | cons byte others =>
            have fewer : others.length = markedCount guidmark (List.range' (i + 1) turns) :=
              Nat.succ.inj all
            rw [List.mem_cons, not_or] at clean
            rw [spread, if_pos marked, List.headD_cons, List.tail_cons]
            cases place with
            | zero => simpa [marked] using Ne.symm clean.1
            | succ place =>
                rw [List.getD_cons_succ, induction (i + 1) others fewer clean.2 (by omega),
                  Nat.add_right_comm, Nat.add_assoc]
      · rw [markedCount, List.filter_cons_of_neg marked] at all
        rw [spread, if_neg marked]
        cases place with
        | zero => simpa using marked
        | succ place =>
            rw [List.getD_cons_succ, induction (i + 1) bytes all clean (by omega),
              Nat.add_right_comm, Nat.add_assoc]

/-! ## Packing digits -/

theorem calculatePackGUID_zero (turns i : Nat) : calculatePackGUID turns i 0 = (0, []) := by
  cases turns with
  | zero => rfl
  | succ turns => rfl

/-- One turn of the loop looks at one digit. -/
theorem calculatePackGUID_cons (turns i : Nat) (digit : UInt8) (rest : Bytes) :
    calculatePackGUID (turns + 1) i (LittleEndian.decode (digit :: rest)) =
      if digit ≠ 0 then
        (1 <<< UInt8.ofNat i ||| (calculatePackGUID turns (i + 1) (LittleEndian.decode rest)).1,
          digit :: (calculatePackGUID turns (i + 1) (LittleEndian.decode rest)).2)
      else calculatePackGUID turns (i + 1) (LittleEndian.decode rest) := by
  have below : digit.toNat < 256 := digit.toNat_lt
  have low : (digit.toNat + 256 * LittleEndian.decode rest) % 256 = digit.toNat := by omega
  have high : (digit.toNat + 256 * LittleEndian.decode rest) / 256 =
      LittleEndian.decode rest := by omega
  have same : UInt8.ofNat (digit.toNat + 256 * LittleEndian.decode rest) = digit := by
    apply UInt8.toNat_inj.mp
    rw [UInt8.toNat_ofNat']
    exact low
  have zero : digit.toNat ≠ 0 ↔ digit ≠ 0 := by
    rw [← UInt8.toNat_inj.ne]
    rfl
  rw [LittleEndian.decode_cons, calculatePackGUID]
  dsimp only
  rw [low, high, same]
  by_cases nothing : digit.toNat + 256 * LittleEndian.decode rest = 0
  · have none : ¬digit ≠ 0 := fun some => by
      have := zero.mpr some
      omega
    have later : LittleEndian.decode rest = 0 := by omega
    rw [if_pos nothing, if_neg none, later, calculatePackGUID_zero]
  · rw [if_neg nothing]
    exact if_congr zero rfl rfl

theorem calculatePackGUID_bytes (digits : Bytes) (i : Nat) :
    (calculatePackGUID digits.length i (LittleEndian.decode digits)).2 =
      digits.filter (· ≠ 0) := by
  induction digits generalizing i with
  | nil => rfl
  | cons digit rest induction =>
      rw [List.length_cons, calculatePackGUID_cons]
      by_cases zero : digit = 0
      · rw [if_neg (not_not.mpr zero), List.filter_cons_of_neg (by simpa using zero), induction]
      · rw [if_pos zero, List.filter_cons_of_pos (by simpa using zero), induction]

theorem isMarked_calculatePackGUID_iff (digits : Bytes) (i : Nat) {place : Nat}
    (all : i + digits.length = 8) (within : place < digits.length) :
    isMarked (calculatePackGUID digits.length i (LittleEndian.decode digits)).1 (i + place) = true ↔
      digits.getD place 0 ≠ 0 := by
  induction digits generalizing i place with
  | nil => cases within
  | cons digit rest induction =>
      rw [List.length_cons] at all within ⊢
      have behind : i + 1 + rest.length = 8 := by omega
      rw [calculatePackGUID_cons]
      cases place with
      | zero =>
          have others : isMarked (calculatePackGUID rest.length (i + 1)
              (LittleEndian.decode rest)).1 i = false :=
            isMarked_calculatePackGUID behind (Nat.lt_succ_self i)
          by_cases zero : digit = 0
          · rw [if_neg (not_not.mpr zero)]
            simp [others, zero]
          · rw [if_pos zero]
            simp [isMarked_or _ (show i < 8 by omega) (show i < 8 by omega), zero]
      | succ place =>
          have later := induction (i + 1) behind (Nat.lt_of_succ_lt_succ within)
          have there : i + (place + 1) = i + 1 + place := by omega
          rw [there, List.getD_cons_succ, ← later]
          split_ifs with zero
          · rw [isMarked_or _ (by omega) (by omega), decide_eq_false (by omega), Bool.false_or]
          · exact Iff.rfl

/-- A mark is made of its eight bits. -/
theorem eq_of_isMarked {first second : UInt8}
    (same : ∀ i < 8, isMarked first i = isMarked second i) : first = second := by
  apply UInt8.toNat_inj.mp
  apply Nat.eq_of_testBit_eq
  intro i
  by_cases below : i < 8
  · rw [← isMarked_eq_testBit _ below, ← isMarked_eq_testBit _ below]
    exact same i below
  · have wide : 2 ^ 8 ≤ 2 ^ i := Nat.pow_le_pow_right (by decide) (Nat.not_lt.mp below)
    rw [Nat.testBit_lt_two_pow (first.toNat_lt.trans_le wide),
      Nat.testBit_lt_two_pow (second.toNat_lt.trans_le wide)]

/-! ## Packing what has been read -/

section

variable {guidmark : UInt8} {bytes : Bytes}

/-- The guid which a mark and the bytes behind it stand for. -/
def unpacked (guidmark : UInt8) (bytes : Bytes) : BitVec 64 :=
  BitVec.ofNat 64 (gather guidmark (List.range 8) bytes 0)

theorem toNat_unpacked (guidmark : UInt8) (bytes : Bytes) :
    (unpacked guidmark bytes).toNat =
      LittleEndian.decode (spread guidmark (List.range' 0 8) bytes) := by
  have digits := gather_eq_decode guidmark 8 0 bytes (show 0 < 256 ^ 0 by decide)
  have length : (spread guidmark (List.range' 0 8) bytes).length = 8 := by
    rw [spread_length, List.length_range']
  have small := LittleEndian.decode_lt (spread guidmark (List.range' 0 8) bytes)
  rw [length] at small
  rw [unpacked, List.range_eq_range', digits, BitVec.toNat_ofNat, Nat.zero_add, Nat.pow_zero,
    Nat.mul_one]
  exact Nat.mod_eq_of_lt small

theorem markedBytes_unpacked (guidmark : UInt8) (bytes : Bytes) :
    markedBytes (unpacked guidmark bytes) =
      calculatePackGUID (spread guidmark (List.range' 0 8) bytes).length 0
        (LittleEndian.decode (spread guidmark (List.range' 0 8) bytes)) := by
  rw [markedBytes, toNat_unpacked, spread_length, List.length_range']

/-- Packing a guid again leaves out the bytes which are zero. -/
theorem markedBytes_unpacked_bytes (all : bytes.length = markedCount guidmark (List.range 8)) :
    (markedBytes (unpacked guidmark bytes)).2 = bytes.filter (· ≠ 0) := by
  rw [List.range_eq_range'] at all
  rw [markedBytes_unpacked, calculatePackGUID_bytes, filter_spread guidmark _ bytes all]

theorem markedBytes_unpacked_mark (all : bytes.length = markedCount guidmark (List.range 8))
    (clean : 0 ∉ bytes) : (markedBytes (unpacked guidmark bytes)).1 = guidmark := by
  rw [List.range_eq_range'] at all
  apply eq_of_isMarked
  intro i below
  have length : (spread guidmark (List.range' 0 8) bytes).length = 8 := by
    rw [spread_length, List.length_range']
  have within : i < (spread guidmark (List.range' 0 8) bytes).length := by omega
  have packed := isMarked_calculatePackGUID_iff (spread guidmark (List.range' 0 8) bytes) 0
    (by omega) within
  have marked := spread_ne_zero_iff guidmark 8 0 bytes all clean below
  rw [Nat.zero_add] at packed marked
  rw [markedBytes_unpacked]
  exact Bool.eq_iff_iff.mpr (packed.trans marked)

theorem length_unpacked_le (all : bytes.length = markedCount guidmark (List.range 8)) :
    (PackedGuid.ofGuid (unpacked guidmark bytes)).buffer.length ≤ (guidmark :: bytes).length := by
  rw [PackedGuid.buffer_ofGuid, written_packedGuid, List.length_cons, List.length_cons,
    markedBytes_unpacked_bytes all]
  exact Nat.succ_le_succ (List.length_filter_le _ _)

theorem buffer_unpacked_eq_iff (all : bytes.length = markedCount guidmark (List.range 8)) :
    (PackedGuid.ofGuid (unpacked guidmark bytes)).buffer = guidmark :: bytes ↔ 0 ∉ bytes := by
  rw [PackedGuid.buffer_ofGuid, written_packedGuid]
  constructor
  · intro same zero
    have bytesSame : (markedBytes (unpacked guidmark bytes)).2 = bytes :=
      List.tail_eq_of_cons_eq same
    rw [markedBytes_unpacked_bytes all, List.filter_eq_self] at bytesSame
    simpa using bytesSame 0 zero
  · intro clean
    have every : ∀ byte ∈ bytes, decide (byte ≠ 0) = true := by
      intro byte member
      exact decide_eq_true fun zero => clean (zero ▸ member)
    rw [markedBytes_unpacked_mark all clean, markedBytes_unpacked_bytes all,
      List.filter_eq_self.mpr every]

end

/-! ## Reading at any position -/

section

variable {storage : Bytes} {rpos wpos : Nat}

/-- The size of the packed guid whose mark is at a position. -/
def packedSize (storage : Bytes) (pos : Nat) : Nat :=
  1 + markedCount (storage.getD pos 0) (List.range 8)

/-- What the reader says when the bytes have run out. -/
def lackOfBytes (storage : Bytes) (wpos : Nat) {Value : Type} :
    EStateM.Result Failure ByteBuffer Value :=
  .error (.position false storage.length 1 storage.length) ⟨storage, storage.length, wpos⟩

theorem readUInt8_atEnd (small : storage.length ≤ maxSize) :
    readUInt8.run ⟨storage, storage.length, wpos⟩ = lackOfBytes storage wpos := by
  have readable : Readable storage storage.length := ⟨Nat.le_refl _, small⟩
  rw [readUInt8]
  apply bind_of_error
  rw [readRaw_run (readable.noWrap (by decide)), if_pos (Nat.lt_succ_self _)]

theorem readMarked_short (readable : Readable storage rpos) (guidmark : UInt8)
    (indices : List Nat) (start : Nat)
    (short : storage.length < rpos + markedCount guidmark indices) :
    (readMarked guidmark indices start).run ⟨storage, rpos, wpos⟩ = lackOfBytes storage wpos := by
  have inside := readable.inside
  induction indices generalizing rpos start with
  | nil =>
      rw [markedCount, List.filter_nil, List.length_nil] at short
      omega
  | cons i rest induction =>
      by_cases marked : isMarked guidmark i
      · rw [markedCount, List.filter_cons_of_pos marked, List.length_cons] at short
        rw [readMarked, if_pos marked]
        by_cases finished : rpos = storage.length
        · rw [finished]
          exact bind_of_error (readUInt8_atEnd readable.small)
        · have more : rpos + 1 ≤ storage.length := by omega
          have found : readUInt8.run ⟨storage, rpos, wpos⟩ =
              .ok (storage.getD rpos 0) ⟨storage, rpos + 1, wpos⟩ :=
            (readUInt8_eq_ok readable).mpr ⟨more, rfl, rfl⟩
          rw [bind_of_ok found]
          refine induction ⟨more, readable.small⟩ _ ?_ more
          rw [markedCount]
          omega
      · rw [markedCount, List.filter_cons_of_neg marked] at short
        rw [readMarked, if_neg marked]
        exact induction readable _ short inside

theorem readPackGUID_short (readable : Readable storage rpos)
    (short : storage.length < rpos + packedSize storage rpos) :
    readPackGUID.run ⟨storage, rpos, wpos⟩ = lackOfBytes storage wpos := by
  have inside := readable.inside
  rw [readPackGUID]
  by_cases finished : rpos = storage.length
  · rw [finished]
    exact bind_of_error (readUInt8_atEnd readable.small)
  · have more : rpos + 1 ≤ storage.length := by omega
    have found : readUInt8.run ⟨storage, rpos, wpos⟩ =
        .ok (storage.getD rpos 0) ⟨storage, rpos + 1, wpos⟩ :=
      (readUInt8_eq_ok readable).mpr ⟨more, rfl, rfl⟩
    rw [packedSize, ← Nat.add_assoc] at short
    rw [bind_of_ok found]
    exact bind_of_error (readMarked_short ⟨more, readable.small⟩ _ _ _ short)

/-- The bytes of a packed guid are its mark and those which this announces. -/
theorem slice_packedSize (enough : rpos + packedSize storage rpos ≤ storage.length) :
    slice storage rpos (packedSize storage rpos) =
      storage.getD rpos 0 ::
        slice storage (rpos + 1) (markedCount (storage.getD rpos 0) (List.range 8)) := by
  have inside : rpos < storage.length := by
    unfold packedSize at enough
    omega
  rw [slice, List.drop_eq_getElem_cons inside, packedSize, Nat.add_comm 1, List.take_succ_cons,
    List.getD_eq_getElem _ _ inside]
  rfl

/-- Only as many bytes are gathered as are marked. -/
theorem gather_take (guidmark : UInt8) (indices : List Nat) (bytes : Bytes) (start : Nat) :
    gather guidmark indices (bytes.take (markedCount guidmark indices)) start =
      gather guidmark indices bytes start := by
  induction indices generalizing bytes start with
  | nil => rfl
  | cons i rest induction =>
      by_cases marked : isMarked guidmark i
      · have count : markedCount guidmark (i :: rest) = markedCount guidmark rest + 1 := by
          rw [markedCount, List.filter_cons_of_pos marked, markedCount, List.length_cons]
        rw [gather, if_pos marked, gather, if_pos marked, count]
        cases bytes with
        | nil => simp
        | cons byte others =>
            rw [List.take_succ_cons, List.tail_cons, List.headD_cons, List.tail_cons,
              List.headD_cons, induction]
      · have count : markedCount guidmark (i :: rest) = markedCount guidmark rest := by
          rw [markedCount, List.filter_cons_of_neg marked, markedCount]
        rw [gather, if_neg marked, gather, if_neg marked, count, induction]

theorem readPackGUID_enough (readable : Readable storage rpos)
    (enough : rpos + packedSize storage rpos ≤ storage.length) :
    readPackGUID.run ⟨storage, rpos, wpos⟩ =
      .ok (unpacked (storage.getD rpos 0)
          (slice storage (rpos + 1) (markedCount (storage.getD rpos 0) (List.range 8))))
        ⟨storage, rpos + packedSize storage rpos, wpos⟩ := by
  have shown : rpos + 1 + markedCount (storage.getD rpos 0) (List.range 8) ≤ storage.length := by
    rw [Nat.add_assoc]
    exact enough
  refine (readPackGUID_eq_ok readable).mpr ⟨⟨shown, ?_⟩, ?_⟩
  · rw [unpacked, slice, gather_take]
  · rw [packedSize, ← Nat.add_assoc]
    rfl

end

/-! ## Both ways -/

/-- What the reader makes of the bytes at a position: it lacks some, or takes as many as the mark
announces and more than a packed guid needs only if there are zeros among them. -/
def ReadsPacked (storage : Bytes) (rpos wpos : Nat) : Prop :=
  (storage.length < rpos + packedSize storage rpos ∧
    readPackGUID.run ⟨storage, rpos, wpos⟩ = lackOfBytes storage wpos) ∨
  ∃ (guidmark : UInt8) (masked : Bytes) (guid : BitVec 64),
    slice storage rpos (packedSize storage rpos) = guidmark :: masked ∧
    masked.length = markedCount guidmark (List.range 8) ∧
    readPackGUID.run ⟨storage, rpos, wpos⟩ =
      .ok guid ⟨storage, rpos + (guidmark :: masked).length, wpos⟩ ∧
    (PackedGuid.ofGuid guid).buffer.length ≤ (guidmark :: masked).length ∧
    ((PackedGuid.ofGuid guid).buffer = guidmark :: masked ↔ 0 ∉ masked)

theorem readsPacked {storage : Bytes} {rpos : Nat} (wpos : Nat)
    (readable : Readable storage rpos) : ReadsPacked storage rpos wpos := by
  by_cases short : storage.length < rpos + packedSize storage rpos
  · exact Or.inl ⟨short, readPackGUID_short readable short⟩
  · have enough : rpos + packedSize storage rpos ≤ storage.length := Nat.not_lt.mp short
    have all : (slice storage (rpos + 1)
        (markedCount (storage.getD rpos 0) (List.range 8))).length =
          markedCount (storage.getD rpos 0) (List.range 8) := by
      rw [slice_length]
      unfold packedSize at enough
      omega
    have length : packedSize storage rpos = (storage.getD rpos 0 :: slice storage (rpos + 1)
        (markedCount (storage.getD rpos 0) (List.range 8))).length := by
      rw [List.length_cons, all, packedSize, Nat.add_comm]
    refine Or.inr ⟨_, _, _, slice_packedSize enough, all, ?_, length_unpacked_le all,
      buffer_unpacked_eq_iff all⟩
    rw [readPackGUID_enough readable enough, ← length]

theorem readPackGUID_ofGuid (guid : BitVec 64) (before rest : Bytes) (wpos : Nat)
    (fits : (before ++ (PackedGuid.ofGuid guid).buffer ++ rest).length ≤ maxSize) :
    readPackGUID.run ⟨before ++ (PackedGuid.ofGuid guid).buffer ++ rest, before.length, wpos⟩ =
      .ok guid ⟨before ++ (PackedGuid.ofGuid guid).buffer ++ rest,
        before.length + (PackedGuid.ofGuid guid).buffer.length, wpos⟩ := by
  have inside : before.length ≤ (before ++ (PackedGuid.ofGuid guid).buffer ++ rest).length := by
    simp only [List.length_append]
    omega
  rw [PackedGuid.buffer_ofGuid] at fits inside ⊢
  have shown : Shows (before ++ written .packedGuid guid ++ rest) before.length .packedGuid guid ∧
      behind (before ++ written .packedGuid guid ++ rest) before.length .packedGuid guid =
        before.length + (written .packedGuid guid).length := shows_packedGuid guid
  rw [(readPackGUID_eq_ok ⟨inside, fits⟩).mpr ⟨shown.1, rfl⟩, shown.2]

/-- Guids are packed in the same way by both encoders and read back, and what else is read is a
longer way to write the guid. -/
theorem packedGuid_roundTrip (guid : BitVec 64) (before : Bytes) :
    (PackedGuid.ofGuid guid).buffer.length ≤ 9 ∧
    (∀ rpos after, (appendPackGUID guid).run ⟨before, rpos, before.length⟩ = .ok () after ↔
      before.length + (PackedGuid.ofGuid guid).buffer.length ≤ 10000000 ∧
        after = ⟨before ++ (PackedGuid.ofGuid guid).buffer, rpos,
          (before ++ (PackedGuid.ofGuid guid).buffer).length⟩) ∧
    (∀ rest wpos, (before ++ (PackedGuid.ofGuid guid).buffer ++ rest).length ≤ maxSize →
      readPackGUID.run ⟨before ++ (PackedGuid.ofGuid guid).buffer ++ rest, before.length, wpos⟩ =
        .ok guid ⟨before ++ (PackedGuid.ofGuid guid).buffer ++ rest,
          before.length + (PackedGuid.ofGuid guid).buffer.length, wpos⟩) ∧
    (∀ storage rpos wpos, rpos ≤ storage.length → storage.length ≤ maxSize →
      ReadsPacked storage rpos wpos) :=
  ⟨PackedGuid.length_le guid, appendPackGUID_eq_ok guid before,
    fun rest wpos fits => readPackGUID_ofGuid guid before rest wpos fits,
    fun _ _ wpos inside small => readsPacked wpos ⟨inside, small⟩⟩

/-- A guid with two digits, read behind a byte and in front of one; and a longer way to write 5. -/
theorem packedGuid_roundTrip_example :
    readPackGUID.run ⟨[7, 5, 5, 1, 9], 1, 5⟩ = .ok 65541 ⟨[7, 5, 5, 1, 9], 4, 5⟩ ∧
      ReadsPacked [3, 5, 0] 0 3 := by
  have packed : (PackedGuid.ofGuid 65541).buffer = [5, 5, 1] := by decide +kernel
  have back := (packedGuid_roundTrip 65541 [7]).2.2.1 [9] 5
  rw [packed] at back
  exact ⟨back (by decide), (packedGuid_roundTrip 0 []).2.2.2 _ _ _ (by decide) (by decide)⟩

/-- Behind ten million bytes nothing is appended. -/
theorem packedGuid_not_appended :
    ¬∀ (guid : BitVec 64) (before : Bytes) (rpos : Nat),
      (appendPackGUID guid).run ⟨before, rpos, before.length⟩ =
        .ok () ⟨before ++ (PackedGuid.ofGuid guid).buffer, rpos,
          (before ++ (PackedGuid.ofGuid guid).buffer).length⟩ := by
  intro always
  have appended := always 0 (List.replicate 10000000 0) 0
  rw [appendPackGUID_eq_ok, List.length_replicate] at appended
  have empty : (PackedGuid.ofGuid 0).buffer.length = 1 := by decide
  have room := appended.1
  omega

end RealmServer.Packets
