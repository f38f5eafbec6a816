import RealmServer.Lib.LittleEndian
import RealmServer.Packets.BaseByteBuffer

/-!
# Typed values in packets

`ByteBuffer` writes and reads values of a type through `BufferIO`, after the
type has been remapped: `bool` to `uint8`, strings to `std::string_view`, vectors
and lists to `span`.  Each kind of type has its own reader and writer here, as it
has its own specialisation there.

A template which cannot be instantiated is modelled as an operation that fails
with `illFormed`: `span` has no constructor for a `std::list` or for the bits of
a `std::vector<bool>`, and the reader of a map returns nothing.
-/

namespace RealmServer.Packets

open Network (Bytes)

/-! ## Types and values -/

inductive Width where
  | one | two | four | eight
deriving DecidableEq, Repr

def Width.bytes : Width → Nat
  | .one => 1
  | .two => 2
  | .four => 4
  | .eight => 8

/-- Integers and enums of every width, `bool`, `float` and `double`. -/
inductive ArithmeticType where
  | integer (width : Width)
  | bool
  | float
  | double
deriving DecidableEq, Repr

namespace ArithmeticType

/-- `sizeof`, of the remapped type for `bool`. -/
def size : ArithmeticType → Nat
  | .integer width => width.bytes
  | .bool => 1
  | .float => 4
  | .double => 8

/-- Integers and floats are bit patterns. -/
def Value : ArithmeticType → Type
  | .integer width => BitVec (8 * width.bytes)
  | .bool => Bool
  | .float => BitVec 32
  | .double => BitVec 64

def decEqValue : (type : ArithmeticType) → DecidableEq type.Value
  | .integer width => inferInstanceAs (DecidableEq (BitVec (8 * width.bytes)))
  | .bool => inferInstanceAs (DecidableEq Bool)
  | .float => inferInstanceAs (DecidableEq (BitVec 32))
  | .double => inferInstanceAs (DecidableEq (BitVec 64))

instance (type : ArithmeticType) : DecidableEq type.Value := type.decEqValue

def toNat : (type : ArithmeticType) → type.Value → Nat
  | .integer _, value => BitVec.toNat value
  | .bool, value => Bool.toNat value
  | .float, value => BitVec.toNat value
  | .double, value => BitVec.toNat value

def ofNat : (type : ArithmeticType) → Nat → type.Value
  | .integer width, number => BitVec.ofNat (8 * width.bytes) number
  | .bool, number => decide (number ≠ 0)
  | .float, number => BitVec.ofNat 32 number
  | .double, number => BitVec.ofNat 64 number

/-- `std::isfinite`: not all bits of the exponent are set. -/
def isFinite : (type : ArithmeticType) → type.Value → Bool
  | .float, value => decide (BitVec.toNat value / 2 ^ 23 % 2 ^ 8 ≠ 2 ^ 8 - 1)
  | .double, value => decide (BitVec.toNat value / 2 ^ 52 % 2 ^ 11 ≠ 2 ^ 11 - 1)
  | .integer _, _ => true
  | .bool, _ => true

/-- The bytes of a value in memory. -/
def bytes (type : ArithmeticType) (value : type.Value) : Bytes :=
  LittleEndian.encode type.size (type.toNat value)

def ofBytes (type : ArithmeticType) (bytes : Bytes) : type.Value :=
  type.ofNat (LittleEndian.decode bytes)

end ArithmeticType

/-- The types for which the buffer has a reader or a writer. -/
inductive BufferType where
  | arithmetic (type : ArithmeticType)
  /-- `std::string`, `std::string_view`, `const char*` and arrays of `char` -/
  | string
  /-- `ReadAsPacked`, `WriteAsPacked` -/
  | packedGuid
  | vector (element : ArithmeticType)
  | list (element : ArithmeticType)
  | map (key value : BufferType)
deriving DecidableEq, Repr

/-- The templates which write the type have instances. -/
def BufferType.Writable : BufferType → Prop
  | .arithmetic _ => True
  | .string => True
  | .packedGuid => True
  | .vector element => element ≠ .bool
  | .list _ => False
  | .map key value => key.Writable ∧ value.Writable

def BufferType.decideWritable : (type : BufferType) → Decidable type.Writable
  | .arithmetic _ => isTrue trivial
  | .string => isTrue trivial
  | .packedGuid => isTrue trivial
  | .vector element => inferInstanceAs (Decidable (element ≠ .bool))
  | .list _ => isFalse id
  | .map key value =>
      have := key.decideWritable
      have := value.decideWritable
      inferInstanceAs (Decidable (key.Writable ∧ value.Writable))

instance (type : BufferType) : Decidable type.Writable := type.decideWritable

/-- A map is the list of its entries in their order. -/
def BufferType.Value : BufferType → Type
  | .arithmetic type => type.Value
  | .string => Bytes
  | .packedGuid => BitVec 64
  | .vector element => List element.Value
  | .list element => List element.Value
  | .map key value => List (key.Value × value.Value)

def BufferType.decEqValue : (type : BufferType) → DecidableEq type.Value
  | .arithmetic type => type.decEqValue
  | .string => inferInstanceAs (DecidableEq Bytes)
  | .packedGuid => inferInstanceAs (DecidableEq (BitVec 64))
  | .vector element => inferInstanceAs (DecidableEq (List element.Value))
  | .list element => inferInstanceAs (DecidableEq (List element.Value))
  | .map key value =>
      have := key.decEqValue
      have := value.decEqValue
      inferInstanceAs (DecidableEq (List (key.Value × value.Value)))

instance (type : BufferType) : DecidableEq type.Value := type.decEqValue

/-- A value with its type. -/
structure TypedValue where
  type : BufferType
  value : type.Value
deriving DecidableEq

namespace ByteBuffer

/-! ## Arithmetic types -/

/-- `BufferIO<Type>::read` -/
def readPlain (type : ArithmeticType) : Operation type.Value := do
  let bytes ← readRaw type.size
  return type.ofBytes bytes

/-- `read<Type>`, with `check_type`. -/
def readArithmetic (type : ArithmeticType) : Operation type.Value := do
  let value ← readPlain type
  if type.isFinite value then return value else throw .value

/-- `append_raw` -/
def writeArithmetic (type : ArithmeticType) (value : type.Value) : Operation Unit :=
  append (type.bytes value)

def readUInt8 : Operation UInt8 := do
  let bytes ← readRaw 1
  return UInt8.ofNat (LittleEndian.decode bytes)

def readUInt32 : Operation Nat := do
  let bytes ← readRaw 4
  return LittleEndian.decode bytes

/-! ## Strings -/

/-- The loop over the characters: how many there are, and the read position behind them. -/
def scanString : Bytes → Nat → Nat → Nat × Nat
  | [], size, rpos => (size, rpos)
  | byte :: rest, size, rpos =>
      if byte = 0 then (size, rpos + 1) else scanString rest ((size + 1) % 2 ^ 32) (rpos + 1)

/-- `BufferIO<std::string_view>::read` -/
def readString : Operation Bytes := do
  let buffer ← get
  let start := buffer.rpos % 2 ^ 32
  let scanned := scanString buffer.unread 0 buffer.rpos
  set { buffer with rpos := scanned.2 }
  memory start scanned.1

/-- `BufferIO<std::string_view>::write` -/
def writeString (string : Bytes) : Operation Unit := do
  if string.length ≠ 0 then append string
  append [0]

/-! ## Packed guids -/

/-- `guidmark & (uint8(1) << i)` -/
def isMarked (guidmark : UInt8) (i : Nat) : Bool := guidmark &&& (1 <<< UInt8.ofNat i) ≠ 0

/-- The loop of `readPackGUID`, for the bytes in the list. -/
def readMarked (guidmark : UInt8) : List Nat → Nat → Operation Nat
  | [], guid => return guid
  | i :: rest, guid =>
      if isMarked guidmark i then do
        let bit ← readUInt8
        readMarked guidmark rest (guid ||| (bit.toNat <<< (i * 8)))
      else readMarked guidmark rest guid

def readPackGUID : Operation (BitVec 64) := do
  let guidmark ← readUInt8
  let guid ← readMarked guidmark (List.range 8) 0
  return BitVec.ofNat 64 guid

/-- The loop of `calculatePackGUID`, with the bytes it appends; 64 bits are gone after 8 turns. -/
def calculatePackGUID : Nat → Nat → Nat → UInt8 × Bytes
  | 0, _, _ => (0, [])
  | turns + 1, i, guid =>
      if guid = 0 then (0, [])
      else
        let later := calculatePackGUID turns (i + 1) (guid / 256)
        if guid % 256 ≠ 0 then
          (1 <<< UInt8.ofNat i ||| later.1, UInt8.ofNat guid :: later.2)
        else later

def appendPackGUID (guid : BitVec 64) : Operation Unit := do
  let start := (← get).wpos
  append [0]
  let packed := calculatePackGUID 8 0 guid.toNat
  forM packed.2 fun byte => append [byte]
  setByte start packed.1

/-! ## Containers -/

/-- The place of a span: the position it is counted from, in elements, and its size. -/
structure Span where
  pos : Nat
  size : Nat
deriving DecidableEq, Repr

/-- `BufferIO<span<Type>>::read`, with `read_data`: the length skips bytes. -/
def readSpan : Operation Span := do
  let size ← readUInt32
  let buffer ← get
  skip size
  return { pos := buffer.rpos, size := size }

/-- Some elements in a row. -/
def elementsOf (element : ArithmeticType) : Nat → Bytes → List element.Value
  | 0, _ => []
  | size + 1, bytes =>
      element.ofBytes (bytes.take element.size) ::
        elementsOf element size (bytes.drop element.size)

/-- The constructor of the container copies what the span points to: `(const Type*)data + pos`. -/
def copySpan (element : ArithmeticType) (span : Span) : Operation (List element.Value) :=
  if span.size = 0 then return []
  else do
    let bytes ← memory (element.size * span.pos) (element.size * span.size)
    return elementsOf element span.size bytes

def readContainer (element : ArithmeticType) : Operation (List element.Value) := do
  let span ← readSpan
  copySpan element span

/-- `BufferIO<span<Type>>::write`; the size is a `uint32`. -/
def writeVector (element : ArithmeticType) (values : List element.Value) : Operation Unit :=
  append ((values.take (values.length % 2 ^ 32)).flatMap element.bytes)

/-- The loop over the entries of a map. -/
def writeEntries {Key Value : Type} (writeKey : Key → Operation Unit)
    (writeValue : Value → Operation Unit) : List (Key × Value) → Operation Unit
  | [] => return ()
  | entry :: rest => do
      writeKey entry.1
      writeValue entry.2
      writeEntries writeKey writeValue rest

/-! ## All types -/

/-- `read<Type>` -/
def read : (type : BufferType) → Operation type.Value
  | .arithmetic type => readArithmetic type
  | .string => readString
  | .packedGuid => readPackGUID
  | .vector element => readContainer element
  | .list element => readContainer element
  | .map _ _ => throw .illFormed

/-- `BufferIO<std::map<Key, Type>>::read` -/
def readEntries (key value : BufferType) : Nat → Operation Unit
  | 0 => return ()
  | size + 1 => do
      discard (read key)
      discard (read value)
      readEntries key value size

/-- `read_skip<Type>` -/
def readSkip : BufferType → Operation Unit
  | .arithmetic type => discard (readPlain type)
  | .string => discard readString
  | .packedGuid => throw .illFormed
  | .vector _ => discard readSpan
  | .list _ => discard readSpan
  | .map key value => do
      let size ← readUInt32
      readEntries key value size

/-- `BufferIO<Type>::write`, for the types which have it. -/
def writeValue : (type : BufferType) → type.Value → Operation Unit
  | .arithmetic type, value => writeArithmetic type value
  | .string, string => writeString string
  | .packedGuid, guid => appendPackGUID guid
  | .vector element, values => writeVector element values
  | .list _, _ => throw .illFormed
  | .map key value, entries => do
      append (LittleEndian.encode 8 entries.length)
      writeEntries (writeValue key) (writeValue value) entries

/-- `write<Type>` -/
def write (type : BufferType) (value : type.Value) : Operation Unit :=
  if type.Writable then writeValue type value else throw .illFormed

/-- `replace<Type>` -/
def replace (pos : Nat) (type : BufferType) (value : type.Value) : Operation Unit := do
  let oldPos := (← get).wpos
  setWpos pos
  write type value
  setWpos oldPos

end ByteBuffer

end RealmServer.Packets
