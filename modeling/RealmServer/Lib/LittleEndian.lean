import Mathlib

/-!
# Numbers as bytes

A number of a fixed width is stored with its low byte first.  `encode` gives the
bytes of a number and `decode` the number of some bytes; for each width the two
are inverse.
-/

namespace RealmServer.LittleEndian

/-- The low `count` bytes of a number, the lowest one first. -/
def encode : Nat → Nat → List UInt8
  | 0, _ => []
  | count + 1, value => UInt8.ofNat value :: encode count (value / 256)

/-- The number whose digits are the bytes. -/
def decode (bytes : List UInt8) : Nat := Nat.ofDigits 256 (bytes.map UInt8.toNat)

@[simp]
theorem encode_length (count value : Nat) : (encode count value).length = count := by
  induction count generalizing value with
  | zero => rfl
  | succ count induction =>
      show (encode count (value / 256)).length + 1 = count + 1
      rw [induction]

@[simp]
theorem decode_nil : decode [] = 0 := rfl

@[simp]
theorem decode_cons (byte : UInt8) (rest : List UInt8) :
    decode (byte :: rest) = byte.toNat + 256 * decode rest := by
  simp [decode, Nat.ofDigits_cons]

/-- Writing down the bytes of a number cuts it to the width. -/
theorem decode_encode (count value : Nat) :
    decode (encode count value) = value % 256 ^ count := by
  induction count generalizing value with
  | zero => simp [encode, Nat.mod_one]
  | succ count induction =>
      have low : (UInt8.ofNat value).toNat = value % 256 := by simp
      rw [encode, decode_cons, induction, low, pow_succ, mul_comm (256 ^ count),
        Nat.mod_mul]

theorem decode_encode_of_lt {count value : Nat} (small : value < 256 ^ count) :
    decode (encode count value) = value := by
  rw [decode_encode, Nat.mod_eq_of_lt small]

@[simp]
theorem encode_decode (bytes : List UInt8) : encode bytes.length (decode bytes) = bytes := by
  induction bytes with
  | nil => rfl
  | cons byte rest induction =>
      have below : byte.toNat < 256 := byte.toNat_lt
      have low : UInt8.ofNat (byte.toNat + 256 * decode rest) = byte := by
        apply UInt8.toNat_inj.mp
        rw [UInt8.toNat_ofNat']
        omega
      have high : (byte.toNat + 256 * decode rest) / 256 = decode rest := by omega
      rw [decode_cons, List.length_cons, encode, low, high, induction]

theorem decode_lt (bytes : List UInt8) : decode bytes < 256 ^ bytes.length := by
  have same := decode_encode bytes.length (decode bytes)
  rw [encode_decode] at same
  rw [same]
  exact Nat.mod_lt _ (Nat.pow_pos (by decide))

end RealmServer.LittleEndian
