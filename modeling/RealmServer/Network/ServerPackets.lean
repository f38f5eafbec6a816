import RealmServer.Lib.Framing
import RealmServer.Network.MessageBuffer

/-!
# Packets to the client

A packet travels as a header and a payload.  The header has the size of what
follows it, in two bytes or, from 0x8000 on, in three with the top bit set, and
the opcode.  The header alone is encrypted, with a keystream that client and
server share.

`clientReader` is the rule by which the client takes a packet off the stream.
It reads back every packet whose size fits into the 23 bits which are left
beside the flag.
-/

namespace RealmServer.Network

open Framing

/-! ## The header cipher -/

/-- What the cipher adds to the byte at a position. -/
abbrev Keystream := Nat → UInt8

/-- `ARC4::UpdateData`, from a position of the keystream on. -/
def updateData (keystream : Keystream) (position : Nat) : Bytes → Bytes
  | [] => []
  | byte :: rest =>
      (byte ^^^ keystream position) :: updateData keystream (position + 1) rest

variable (keystream : Keystream)

@[simp]
theorem updateData_length (position : Nat) (bytes : Bytes) :
    (updateData keystream position bytes).length = bytes.length := by
  induction bytes generalizing position with
  | nil => rfl
  | cons byte rest induction =>
      show (updateData keystream (position + 1) rest).length + 1 = rest.length + 1
      rw [induction]

/-- Encrypting and decrypting are the same. -/
@[simp]
theorem updateData_updateData (position : Nat) (bytes : Bytes) :
    updateData keystream position (updateData keystream position bytes) = bytes := by
  induction bytes generalizing position with
  | nil => rfl
  | cons byte rest induction =>
      show (byte ^^^ keystream position ^^^ keystream position) ::
        updateData keystream (position + 1) (updateData keystream (position + 1) rest) = _
      rw [induction, UInt8.xor_assoc, UInt8.xor_self, UInt8.xor_zero]

theorem updateData_take (position count : Nat) (bytes : Bytes) :
    updateData keystream position (bytes.take count) =
      (updateData keystream position bytes).take count := by
  induction bytes generalizing position count with
  | nil => simp [updateData]
  | cons byte rest induction =>
      cases count with
      | zero => rfl
      | succ count =>
          show _ :: updateData keystream (position + 1) (rest.take count) = _
          rw [induction]
          rfl

/-- The cipher, for packets that need it. -/
def encryptSend (encrypted : Bool) (position : Nat) (bytes : Bytes) : Bytes :=
  if encrypted then updateData keystream position bytes else bytes

@[simp]
theorem encryptSend_length (encrypted : Bool) (position : Nat) (bytes : Bytes) :
    (encryptSend keystream encrypted position bytes).length = bytes.length := by
  cases encrypted <;> simp [encryptSend]

@[simp]
theorem encryptSend_encryptSend (encrypted : Bool) (position : Nat) (bytes : Bytes) :
    encryptSend keystream encrypted position
      (encryptSend keystream encrypted position bytes) = bytes := by
  cases encrypted <;> simp [encryptSend]

theorem encryptSend_take (encrypted : Bool) (position count : Nat) (bytes : Bytes) :
    encryptSend keystream encrypted position (bytes.take count) =
      (encryptSend keystream encrypted position bytes).take count := by
  cases encrypted with
  | false => rfl
  | true => exact updateData_take keystream position count bytes

/-! ## The header -/

namespace ServerPktHeader

def isLargePacket (size : Nat) : Bool := decide (0x7FFF < size)

def getHeaderLength (size : Nat) : Nat := 2 + if isLargePacket size then 3 else 2

/-- `0xFF & value`, as a byte. -/
def lowByte (value : Nat) : UInt8 := UInt8.ofNat (0xFF &&& value)

/-- The header of `size` bytes behind it and an opcode. -/
def header (size : Nat) (cmd : UInt16) : Bytes :=
  (if isLargePacket size then [UInt8.ofNat (0x80 ||| (0xFF &&& (size >>> 16)))] else []) ++
    [lowByte (size >>> 8), lowByte size,
      lowByte cmd.toNat, lowByte (cmd.toNat >>> 8)]

@[simp]
theorem header_length (size : Nat) (cmd : UInt16) :
    (header size cmd).length = getHeaderLength size := by
  unfold header getHeaderLength
  cases isLargePacket size <;> rfl

theorem getHeaderLength_le (size : Nat) : getHeaderLength size ≤ 5 := by
  unfold getHeaderLength
  split <;> decide

theorem lowByte_toNat (value : Nat) : (lowByte value).toNat = value % 256 := by
  rw [lowByte, Nat.and_comm, show 0xFF = 2 ^ 8 - 1 from rfl,
    Nat.and_two_pow_sub_one_eq_mod]
  simp

theorem shiftRight_eight (value : Nat) : value >>> 8 = value / 256 :=
  Nat.shiftRight_eq_div_pow value 8

theorem flag_or (byte : Nat) (small : byte < 256) :
    (0x80 ||| byte) % 256 = 128 + byte % 128 := by
  have every : ∀ byte : Fin 256, (0x80 ||| byte.val) % 256 = 128 + byte.val % 128 := by
    decide +kernel
  exact every ⟨byte, small⟩

/-- The flag leaves seven bits for the size. -/
theorem flaggedByte_toNat (value : Nat) :
    (UInt8.ofNat (0x80 ||| (0xFF &&& (value >>> 16)))).toNat =
      128 + value / 65536 % 128 := by
  rw [Nat.and_comm, show 0xFF = 2 ^ 8 - 1 from rfl, Nat.and_two_pow_sub_one_eq_mod,
    Nat.shiftRight_eq_div_pow, UInt8.toNat_ofNat']
  have flagged := flag_or (value / 65536 % 256) (Nat.mod_lt _ (by decide))
  rw [Nat.mod_mod_of_dvd _ (by decide)] at flagged
  exact flagged

end ServerPktHeader

/-! ## Packets -/

/-- A packet as `SendPacket` puts it into the queue. -/
structure EncryptablePacket where
  opcode : UInt16
  contents : Bytes
  rpos : Nat := 0
  encrypt : Bool := false
  /-- Nobody reads beyond the end of a packet. -/
  readable : rpos ≤ contents.length := by decide
deriving DecidableEq

/-- A packet as the client gets it. -/
structure ReceivedPacket where
  opcode : UInt16
  payload : Bytes
deriving DecidableEq

namespace EncryptablePacket

variable (packet : EncryptablePacket)

/-- The contents without what has been skipped at the front. -/
def payload : Bytes := packet.contents.drop packet.rpos

/-- `uint32 const queuedSize`. -/
def queuedSize : Nat := (packet.contents.length - packet.rpos) % 2 ^ 32

/-- The size the header gets. -/
def headerSize : Nat := (packet.queuedSize + 2) % 2 ^ 32

def header : Bytes := ServerPktHeader.header packet.headerSize packet.opcode

/-- The bytes copied behind the header. -/
def written : Bytes := packet.payload.take packet.queuedSize

/-- What the client has to get. -/
def received : ReceivedPacket := ⟨packet.opcode, packet.payload⟩

/-- The size of the packet fits beside the flag. -/
def Fits : Prop := packet.payload.length + 2 < 2 ^ 23

instance : Decidable packet.Fits := inferInstanceAs (Decidable (_ < _))

/-- The packet on the wire, when the cipher is at a position. -/
def frame (position : Nat) : Bytes :=
  encryptSend keystream packet.encrypt position packet.header ++ packet.written

/-- The position of the cipher behind the packet. -/
def positionAfter (position : Nat) : Nat :=
  if packet.encrypt then position + packet.header.length else position

variable {packet}

theorem Fits.queuedSize (fits : packet.Fits) :
    packet.queuedSize = packet.payload.length := by
  unfold Fits payload at fits
  unfold EncryptablePacket.queuedSize payload
  rw [List.length_drop] at fits ⊢
  omega

theorem Fits.headerSize (fits : packet.Fits) :
    packet.headerSize = packet.payload.length + 2 := by
  have size := fits.queuedSize
  unfold Fits at fits
  unfold EncryptablePacket.headerSize
  omega

theorem Fits.written (fits : packet.Fits) : packet.written = packet.payload := by
  rw [EncryptablePacket.written, fits.queuedSize, List.take_length]

end EncryptablePacket

/-! ## The rule of the client -/

/-- The length of a header, by its first byte. -/
def clientHeaderLength (first : UInt8) : Nat := if 0x80 ≤ first.toNat then 5 else 4

/-- The size a header announces: two bytes, or three without the flag. -/
def clientSize : Bytes → Nat
  | [first, second, _, _] => first.toNat * 256 + second.toNat
  | [first, second, third, _, _] =>
      (first.toNat % 128) * 65536 + second.toNat * 256 + third.toNat
  | _ => 0

/-- The last two bytes of the header, little endian. -/
def clientOpcode : Bytes → UInt16
  | [_, _, low, high] | [_, _, _, low, high] =>
      UInt16.ofNat (low.toNat + 256 * high.toNat)
  | _ => 0

/-- The position of the cipher, and which of the coming packets are encrypted. -/
structure ClientState where
  position : Nat
  encrypted : List Bool
deriving DecidableEq

/-- A header, as it announces what follows it. -/
structure ClientHeader where
  length : Nat
  size : Nat
  opcode : UInt16
deriving DecidableEq

/-- The header at the front of a stream: its first byte says how long it is. -/
def clientHeader (encrypted : Bool) (position : Nat) (bytes : Bytes) : ClientHeader :=
  let length := clientHeaderLength ((encryptSend keystream encrypted position bytes).headD 0)
  let header := encryptSend keystream encrypted position (bytes.take length)
  { length, size := clientSize header, opcode := clientOpcode header }

/-- The payload is what the size counts without the opcode. -/
def ClientHeader.payloadLength (header : ClientHeader) : Nat := header.size - 2

/-- The client takes one packet off the stream. -/
def clientRead (state : ClientState) (bytes : Bytes) :
    Option (ReceivedPacket × ClientState × Bytes) :=
  match state.encrypted with
  | [] => none
  | encrypted :: later =>
      let header := clientHeader keystream encrypted state.position bytes
      if bytes.length < header.length ∨ header.size < 2 ∨
          bytes.length < header.length + header.payloadLength then none
      else
        some (⟨header.opcode, (bytes.drop header.length).take header.payloadLength⟩,
          ⟨if encrypted then state.position + header.length else state.position, later⟩,
          bytes.drop (header.length + header.payloadLength))

theorem clientHeaderLength_pos (first : UInt8) : 0 < clientHeaderLength first := by
  unfold clientHeaderLength
  split <;> decide

theorem clientSize_lt (header : Bytes) : clientSize header < 2 ^ 23 := by
  unfold clientSize
  split
  case h_1 first second _ _ =>
      have := first.toNat_lt
      have := second.toNat_lt
      omega
  case h_2 first second third _ _ =>
      have := second.toNat_lt
      have := third.toNat_lt
      omega
  case h_3 => decide

section

variable {keystream} {state next : ClientState} {bytes rest : Bytes}
  {packet : ReceivedPacket}

theorem clientHeader_length_pos (encrypted : Bool) (position : Nat) :
    0 < (clientHeader keystream encrypted position bytes).length :=
  clientHeaderLength_pos _

/-- What lies behind the header does not change it. -/
theorem clientHeader_append {encrypted : Bool} {position : Nat}
    (whole : (clientHeader keystream encrypted position bytes).length ≤ bytes.length)
    (more : Bytes) :
    clientHeader keystream encrypted position (bytes ++ more) =
      clientHeader keystream encrypted position bytes := by
  have sameFirst : (encryptSend keystream encrypted position (bytes ++ more)).headD 0 =
      (encryptSend keystream encrypted position bytes).headD 0 := by
    have some := (clientHeader_length_pos encrypted position).trans_le whole
    cases bytes with
    | nil => exact absurd some (Nat.lt_irrefl _)
    | cons byte rest => cases encrypted <;> rfl
  unfold clientHeader at whole ⊢
  dsimp only at whole ⊢
  rw [sameFirst, List.take_append_of_le_length whole]

theorem clientRead_nil (state : ClientState) : clientRead keystream state [] = none := by
  unfold clientRead
  cases state.encrypted with
  | nil => rfl
  | cons encrypted later => exact if_pos (.inl (clientHeader_length_pos _ _))

/-- What the client has found when it takes a packet. -/
theorem clientRead_eq_some
    (found : clientRead keystream state bytes = some (packet, next, rest)) :
    ∃ encrypted later, state.encrypted = encrypted :: later ∧
      ∃ header, header = clientHeader keystream encrypted state.position bytes ∧
        header.length ≤ bytes.length ∧ 2 ≤ header.size ∧
        header.length + header.payloadLength ≤ bytes.length ∧
        packet = ⟨header.opcode,
          (bytes.drop header.length).take header.payloadLength⟩ ∧
        next = ⟨if encrypted then state.position + header.length
          else state.position, later⟩ ∧
        rest = bytes.drop (header.length + header.payloadLength) := by
  unfold clientRead at found
  cases flags : state.encrypted with
  | nil => rw [flags] at found; exact absurd found (by simp)
  | cons encrypted later =>
      rw [flags] at found
      dsimp only at found
      split at found
      · exact absurd found (by simp)
      case isFalse whole =>
          simp only [not_or, Nat.not_lt] at whole
          simp only [Option.some.injEq, Prod.mk.injEq] at found
          exact ⟨encrypted, later, rfl, _, rfl, whole.1, whole.2.1, whole.2.2,
            found.1.symm, found.2.1.symm, found.2.2.symm⟩

theorem clientRead_shorter
    (found : clientRead keystream state bytes = some (packet, next, rest)) :
    rest.length < bytes.length := by
  obtain ⟨encrypted, later, _, header, which, whole, _, _, _, _, rfl⟩ :=
    clientRead_eq_some found
  have some : 0 < header.length := which ▸ clientHeader_length_pos encrypted _
  rw [List.length_drop]
  omega

/-- The header needs no more than its own bytes. -/
theorem clientHeader_take {encrypted : Bool} {position count : Nat}
    (enough : (clientHeader keystream encrypted position bytes).length ≤ count) :
    clientHeader keystream encrypted position (bytes.take count) =
      clientHeader keystream encrypted position bytes := by
  have sameFirst : (encryptSend keystream encrypted position (bytes.take count)).headD 0 =
      (encryptSend keystream encrypted position bytes).headD 0 := by
    have some := (clientHeader_length_pos encrypted position).trans_le enough
    obtain ⟨less, rfl⟩ := Nat.exists_eq_succ_of_ne_zero some.ne'
    cases bytes with
    | nil => rfl
    | cons byte rest => cases encrypted <;> rfl
  unfold clientHeader at enough ⊢
  dsimp only at enough ⊢
  rw [sameFirst, List.take_take, Nat.min_eq_left enough]

theorem clientRead_alone
    (found : clientRead keystream state bytes = some (packet, next, rest)) :
    ∃ frame, bytes = frame ++ rest ∧
      clientRead keystream state frame = some (packet, next, []) := by
  obtain ⟨encrypted, later, flags, header, which, whole, sized, available, rfl, rfl, rfl⟩ :=
    clientRead_eq_some found
  have length : (bytes.take (header.length + header.payloadLength)).length =
      header.length + header.payloadLength := List.length_take_of_le available
  refine ⟨bytes.take (header.length + header.payloadLength),
    (List.take_append_drop _ _).symm, ?_⟩
  unfold clientRead
  rw [flags]
  dsimp only
  rw [clientHeader_take (which ▸ Nat.le_add_right _ _), ← which, length, if_neg (by omega),
    List.drop_eq_nil_of_le length.le, List.drop_take, Nat.add_sub_cancel_left,
    List.take_take, Nat.min_self]

theorem clientRead_extend
    (found : clientRead keystream state bytes = some (packet, next, rest))
    (more : Bytes) :
    clientRead keystream state (bytes ++ more) = some (packet, next, rest ++ more) := by
  obtain ⟨encrypted, later, flags, header, which, whole, sized, available, rfl, rfl, rfl⟩ :=
    clientRead_eq_some found
  unfold clientRead
  rw [flags]
  dsimp only
  rw [clientHeader_append (which ▸ whole), ← which, if_neg, List.drop_append_of_le_length whole,
    List.take_append_of_le_length, List.drop_append_of_le_length available]
  · rw [List.length_drop]
    omega
  · rw [List.length_append]
    omega

/-- No payload the client reads is longer than 23 bits can say. -/
theorem clientRead_bounded
    (found : clientRead keystream state bytes = some (packet, next, rest)) :
    packet.payload.length + 2 < 2 ^ 23 := by
  obtain ⟨encrypted, later, _, header, which, _, sized, _, rfl, _, _⟩ :=
    clientRead_eq_some found
  have bounded : header.size < 2 ^ 23 := which ▸ clientSize_lt _
  show (List.take _ _).length + 2 < _
  rw [List.length_take, ClientHeader.payloadLength]
  omega

end

/-- The client reads the stream packet by packet. -/
def clientReader : FrameReader ClientState UInt8 ReceivedPacket where
  read := clientRead keystream
  shorter := clientRead_shorter
  alone := clientRead_alone
  extend := clientRead_extend

/-! ## Reading back what was framed -/

namespace ServerPktHeader

theorem header_small {size : Nat} (cmd : UInt16) (small : isLargePacket size = false) :
    header size cmd = [lowByte (size >>> 8), lowByte size,
      lowByte cmd.toNat, lowByte (cmd.toNat >>> 8)] := by
  simp [header, small]

theorem header_large {size : Nat} (cmd : UInt16) (large : isLargePacket size = true) :
    header size cmd = [UInt8.ofNat (0x80 ||| (0xFF &&& (size >>> 16))),
      lowByte (size >>> 8), lowByte size,
      lowByte cmd.toNat, lowByte (cmd.toNat >>> 8)] := by
  simp [header, large]

/-- The top bit of the first byte tells the long header from the short one. -/
theorem clientHeaderLength_header (size : Nat) (cmd : UInt16) :
    clientHeaderLength ((header size cmd).headD 0) = (header size cmd).length := by
  cases which : isLargePacket size with
  | false =>
      have bound : size ≤ 0x7FFF := by simpa [isLargePacket] using which
      have below : ¬ 0x80 ≤ (lowByte (size >>> 8)).toNat := by
        rw [lowByte_toNat, shiftRight_eight]
        omega
      rw [header_small cmd which]
      exact if_neg below
  | true =>
      have above : 0x80 ≤ (UInt8.ofNat (0x80 ||| (0xFF &&& (size >>> 16)))).toNat := by
        rw [flaggedByte_toNat]
        exact Nat.le_add_right _ _
      rw [header_large cmd which]
      exact if_pos above

/-- The size comes back as long as it leaves the flag alone. -/
theorem clientSize_header {size : Nat} (cmd : UInt16) (fits : size < 2 ^ 23) :
    clientSize (header size cmd) = size := by
  cases which : isLargePacket size with
  | false =>
      have bound : size ≤ 0x7FFF := by simpa [isLargePacket] using which
      rw [header_small cmd which]
      show (lowByte (size >>> 8)).toNat * 256 + (lowByte size).toNat = size
      rw [lowByte_toNat, lowByte_toNat, shiftRight_eight]
      omega
  | true =>
      rw [header_large cmd which]
      show (UInt8.ofNat (0x80 ||| (0xFF &&& (size >>> 16)))).toNat % 128 * 65536 +
        (lowByte (size >>> 8)).toNat * 256 + (lowByte size).toNat = size
      rw [flaggedByte_toNat, lowByte_toNat, lowByte_toNat, shiftRight_eight]
      omega

theorem clientOpcode_header (size : Nat) (cmd : UInt16) :
    clientOpcode (header size cmd) = cmd := by
  have sameValue : UInt16.ofNat ((lowByte cmd.toNat).toNat +
      256 * (lowByte (cmd.toNat >>> 8)).toNat) = cmd := by
    have bound := cmd.toNat_lt
    rw [lowByte_toNat, lowByte_toNat, shiftRight_eight]
    rw [show cmd.toNat % 256 + 256 * (cmd.toNat / 256 % 256) = cmd.toNat by omega]
    exact UInt16.ofNat_toNat
  cases which : isLargePacket size with
  | false => rw [header_small cmd which]; exact sameValue
  | true => rw [header_large cmd which]; exact sameValue

end ServerPktHeader

namespace EncryptablePacket

variable {keystream} {packet : EncryptablePacket}

theorem headerSize_lt (fits : packet.Fits) : packet.headerSize < 2 ^ 23 := by
  rw [fits.headerSize]
  exact fits

theorem frame_header (fits : packet.Fits) (position : Nat) (more : Bytes) :
    clientHeader keystream packet.encrypt position (packet.frame keystream position ++ more) =
      ⟨packet.header.length, packet.headerSize, packet.opcode⟩ := by
  have nonempty : 0 < packet.header.length := by
    rw [header, ServerPktHeader.header_length, ServerPktHeader.getHeaderLength]
    exact Nat.lt_of_lt_of_le Nat.two_pos (Nat.le_add_right _ _)
  have front : (encryptSend keystream packet.encrypt position
      (packet.frame keystream position ++ more)).headD 0 = packet.header.headD 0 := by
    have first := congrArg (fun bytes : Bytes => bytes.headD 0)
      (encryptSend_take keystream packet.encrypt position packet.header.length
        (packet.frame keystream position ++ more))
    rw [frame, List.append_assoc] at first ⊢
    rw [List.take_left' (encryptSend_length keystream _ _ _),
      encryptSend_encryptSend] at first
    rw [first]
    generalize encryptSend keystream packet.encrypt position _ = bytes
    cases bytes with
    | nil => simp
    | cons byte rest =>
        obtain ⟨length, same⟩ := Nat.exists_eq_succ_of_ne_zero nonempty.ne'
        rw [same]
        rfl
  have length : clientHeaderLength (packet.header.headD 0) = packet.header.length :=
    ServerPktHeader.clientHeaderLength_header _ _
  have sent : encryptSend keystream packet.encrypt position
      ((packet.frame keystream position ++ more).take packet.header.length) =
        packet.header := by
    rw [frame, List.append_assoc, List.take_left' (encryptSend_length keystream _ _ _),
      encryptSend_encryptSend]
  unfold clientHeader
  dsimp only
  rw [front, length, sent]
  rw [show clientSize packet.header = packet.headerSize from
      ServerPktHeader.clientSize_header _ (headerSize_lt fits),
    show clientOpcode packet.header = packet.opcode from
      ServerPktHeader.clientOpcode_header _ _]

theorem clientRead_frame (fits : packet.Fits) (position : Nat) (later : List Bool)
    (more : Bytes) :
    clientRead keystream ⟨position, packet.encrypt :: later⟩
        (packet.frame keystream position ++ more) =
      some (packet.received, ⟨packet.positionAfter position, later⟩, more) := by
  have size := fits.headerSize
  have payloadLength :
      (⟨packet.header.length, packet.headerSize, packet.opcode⟩ : ClientHeader).payloadLength =
        packet.payload.length := by
    rw [ClientHeader.payloadLength, size, Nat.add_sub_cancel]
  have headerLength :
      (encryptSend keystream packet.encrypt position packet.header).length =
        packet.header.length := encryptSend_length keystream _ _ _
  have shape : packet.frame keystream position ++ more =
      encryptSend keystream packet.encrypt position packet.header ++
        (packet.payload ++ more) := by
    rw [frame, fits.written, List.append_assoc]
  unfold clientRead
  dsimp only
  rw [frame_header fits, payloadLength, shape, if_neg, List.drop_left' headerLength,
    List.take_left' rfl, ← headerLength, ← List.drop_drop, List.drop_left' rfl,
    List.drop_left' rfl, headerLength]
  · rfl
  · rw [List.length_append, List.length_append, headerLength]
    dsimp only
    omega

end EncryptablePacket

/-! ## Sequences of packets -/

/-- The stream of some packets, from a position of the cipher on. -/
def framesFrom : Nat → List EncryptablePacket → Bytes
  | _, [] => []
  | position, packet :: rest =>
      packet.frame keystream position ++ framesFrom (packet.positionAfter position) rest

/-- The position of the cipher behind some packets. -/
def positionAfterAll : Nat → List EncryptablePacket → Nat
  | position, [] => position
  | position, packet :: rest => positionAfterAll (packet.positionAfter position) rest

theorem framesFrom_append (position : Nat) (first second : List EncryptablePacket) :
    framesFrom keystream position (first ++ second) =
      framesFrom keystream position first ++
        framesFrom keystream (positionAfterAll position first) second := by
  induction first generalizing position with
  | nil => rfl
  | cons packet rest induction =>
      rw [List.cons_append, framesFrom, framesFrom, induction, List.append_assoc]
      rfl

theorem positionAfterAll_append (position : Nat) (first second : List EncryptablePacket) :
    positionAfterAll position (first ++ second) =
      positionAfterAll (positionAfterAll position first) second := by
  induction first generalizing position with
  | nil => rfl
  | cons packet rest induction => exact induction (packet.positionAfter position)

/-- The client reads a sequence of packets back, one after the other. -/
theorem clientReader_readAll {packets : List EncryptablePacket}
    (fit : ∀ packet ∈ packets, packet.Fits) (position : Nat) (later : List Bool) :
    (clientReader keystream).readAll ⟨position, packets.map (·.encrypt) ++ later⟩
        (framesFrom keystream position packets) =
      ⟨packets.map (·.received), ⟨positionAfterAll position packets, later⟩, []⟩ := by
  induction packets generalizing position with
  | nil =>
      exact FrameReader.readAll_of_none (clientRead_nil _)
  | cons packet rest induction =>
      have front : (clientReader keystream).read
          ⟨position, packet.encrypt :: (rest.map (·.encrypt) ++ later)⟩ _ = some _ :=
        EncryptablePacket.clientRead_frame (fit packet (List.mem_cons_self ..)) position
          (rest.map (·.encrypt) ++ later)
          (framesFrom keystream (packet.positionAfter position) rest)
      rw [framesFrom, List.map_cons, List.cons_append, FrameReader.readAll_of_some front,
        induction (fun other member => fit other (List.mem_cons_of_mem _ member))]
      rfl

end RealmServer.Network
