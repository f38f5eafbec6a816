import RealmServer.Packets.ByteBuffer

/-!
# Writing in pieces

Every writer is put together from calls of `append`, so a value is written in
pieces.  `Appending` says of a property of operations and pieces that it can be
shown in this way, and `Appending.writeValue` shows it for all types at once.
-/

namespace RealmServer.Packets

open Network (Bytes)
open ByteBuffer

/-! ## Arithmetic values as bytes -/

namespace ArithmeticType

variable (type : ArithmeticType) (value : type.Value)

theorem size_pos : 0 < type.size := by
  cases type with
  | integer width => cases width <;> decide
  | bool => decide
  | float => decide
  | double => decide

theorem size_le : type.size ≤ 8 := by
  cases type with
  | integer width => cases width <;> decide
  | bool => decide
  | float => decide
  | double => decide

theorem toNat_lt : type.toNat value < 256 ^ type.size := by
  cases type with
  | integer width =>
      have bound : BitVec.toNat value < 2 ^ (8 * width.bytes) := BitVec.isLt value
      rw [Nat.pow_mul] at bound
      exact bound
  | bool => cases value <;> decide
  | float => exact BitVec.isLt value
  | double => exact BitVec.isLt value

theorem ofNat_toNat : type.ofNat (type.toNat value) = value := by
  cases type with
  | integer width => exact (BitVec.ofNat_toNat _ value).trans (BitVec.setWidth_eq value)
  | bool => cases value <;> rfl
  | float => exact (BitVec.ofNat_toNat 32 value).trans (BitVec.setWidth_eq value)
  | double => exact (BitVec.ofNat_toNat 64 value).trans (BitVec.setWidth_eq value)

@[simp]
theorem bytes_length : (type.bytes value).length = type.size :=
  LittleEndian.encode_length _ _

@[simp]
theorem ofBytes_bytes : type.ofBytes (type.bytes value) = value := by
  rw [ofBytes, bytes, LittleEndian.decode_encode_of_lt (type.toNat_lt value), ofNat_toNat]

theorem bytes_ne_nil : type.bytes value ≠ [] := by
  intro none
  have length := type.bytes_length value
  rw [none] at length
  exact type.size_pos.ne length

end ArithmeticType

/-! ## The bytes of a value -/

def markedBytes (guid : BitVec 64) : UInt8 × Bytes := calculatePackGUID 8 0 guid.toNat

def stringPieces (string : Bytes) : List Bytes :=
  (if string.length ≠ 0 then [string] else []) ++ [[0]]

/-- The pieces in which the bytes of a value are appended. -/
def pieces : (type : BufferType) → type.Value → List Bytes
  | .arithmetic type, value => [type.bytes value]
  | .string, string => stringPieces string
  | .packedGuid, guid =>
      [(markedBytes guid).1] :: (markedBytes guid).2.map fun byte => [byte]
  | .vector element, values =>
      [List.flatMap element.bytes (List.take (List.length values % 2 ^ 32) values)]
  | .list _, _ => []
  | .map key value, entries =>
      LittleEndian.encode 8 (List.length entries) ::
        List.flatMap (fun entry => pieces key entry.1 ++ pieces value entry.2) entries

/-- The bytes a value is written as. -/
def written (type : BufferType) (value : type.Value) : Bytes := (pieces type value).flatten

theorem written_string (string : Bytes) : written .string string = string ++ [0] := by
  show ((if string.length ≠ 0 then [string] else []) ++ [[0]]).flatten = _
  split_ifs with none
  · simp
  · have empty : string = [] := List.length_eq_zero_iff.mp (not_not.mp none)
    simp [empty]

theorem written_packedGuid (guid : BitVec 64) :
    written .packedGuid guid = (markedBytes guid).1 :: (markedBytes guid).2 := by
  show (_ :: (markedBytes guid).2.map fun byte => [byte]).flatten = _
  rw [List.flatten_cons, ← List.flatMap_def, List.flatMap_singleton']
  rfl

/-! ## Writers are made of appends -/

/-- A property of operations with the pieces they append, kept when these are put together. -/
structure Composing (property : Operation Unit → List Bytes → Prop) : Prop where
  append : ∀ src, property (append src) [src]
  nothing : property (pure ()) []
  bind : ∀ {first second : Operation Unit} {pieces others : List Bytes},
    property first pieces → property second others →
      property (first >>= fun _ => second) (pieces ++ others)

namespace Composing

variable {property : Operation Unit → List Bytes → Prop} (composing : Composing property)

include composing

theorem bytes (bytes : Bytes) :
    property (forM bytes fun byte => ByteBuffer.append [byte]) (bytes.map fun byte => [byte]) := by
  induction bytes with
  | nil => exact composing.nothing
  | cons byte rest induction =>
      rw [List.forM_cons]
      exact composing.bind (composing.append [byte]) induction

theorem string (string : Bytes) : property (writeString string) (stringPieces string) := by
  rw [writeString, stringPieces]
  split_ifs
  · exact composing.bind (composing.append string) (composing.append [0])
  · exact composing.append [0]

theorem entries {Key Value : Type} {writeKey : Key → Operation Unit}
    {writeValue : Value → Operation Unit} {keyPieces : Key → List Bytes}
    {valuePieces : Value → List Bytes} (keys : ∀ key, property (writeKey key) (keyPieces key))
    (values : ∀ value, property (writeValue value) (valuePieces value))
    (entries : List (Key × Value)) :
    property (writeEntries writeKey writeValue entries)
      (entries.flatMap fun entry => keyPieces entry.1 ++ valuePieces entry.2) := by
  induction entries with
  | nil => exact composing.nothing
  | cons entry rest induction =>
      rw [List.flatMap_cons, List.append_assoc]
      exact composing.bind (keys entry.1) (composing.bind (values entry.2) induction)

end Composing

/-- Packed guids set a byte afterwards, so they are a case of their own. -/
structure Appending (property : Operation Unit → List Bytes → Prop) : Prop
    extends Composing property where
  packGUID : ∀ guid, property (appendPackGUID guid) (pieces .packedGuid guid)

theorem Appending.writeValue {property : Operation Unit → List Bytes → Prop}
    (appending : Appending property) (type : BufferType) (value : type.Value)
    (writable : type.Writable) :
    property (ByteBuffer.writeValue type value) (pieces type value) := by
  induction type with
  | arithmetic type => exact appending.append _
  | string => exact appending.string value
  | packedGuid => exact appending.packGUID value
  | vector element => exact appending.append _
  | list element => exact absurd writable id
  | map key value keys values =>
      exact appending.bind (appending.append _)
        (appending.entries (fun entry => keys entry writable.1)
          (fun entry => values entry writable.2) _)

theorem calculatePackGUID_length (turns i guid : Nat) :
    (calculatePackGUID turns i guid).2.length ≤ turns := by
  induction turns generalizing i guid with
  | zero => exact Nat.le_refl 0
  | succ turns induction =>
      have later : (calculatePackGUID turns (i + 1) (guid / 256)).2.length ≤ turns :=
        induction (i + 1) (guid / 256)
      simp only [calculatePackGUID]
      split_ifs with done zero
      · exact Nat.zero_le _
      · rw [List.length_cons]
        omega
      · omega

/-- A guid is appended with a zero for its mark, which is set at the end. -/
theorem appendPackGUID_run (guid : BitVec 64) (buffer : ByteBuffer) :
    (appendPackGUID guid).run buffer =
      (append [0] >>= fun _ => (forM (markedBytes guid).2 fun byte => append [byte]) >>=
        fun _ => setByte buffer.wpos (markedBytes guid).1).run buffer := by
  rw [appendPackGUID, EStateM.run_bind, EStateM.run_get]
  rfl

end RealmServer.Packets
