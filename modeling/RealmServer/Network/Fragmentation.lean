import RealmServer.Network.Receiving

/-!
# Receiving does not depend on fragmentation

The buffers of a `ReceivingSocket` hold the beginning of one packet.  `AtHeader`
and `AtPayload` say which bytes these are.  One turn of the loop is compared
with `readPacket` on those bytes and the ones which have just arrived: either
the turn takes everything and the packet is still not whole, or it deals with
exactly the packet that `readPacket` takes.  Then a whole read is compared with
`readAll`, and a sequence of reads with the stream.
-/

namespace RealmServer.Network

open Framing Transition

namespace MessageBuffer

variable {buffer : MessageBuffer}

/-- From the front of a buffer on, the write position counts the bytes. -/
theorem wpos_of_front (valid : buffer.Valid) (front : buffer.rpos = 0) :
    buffer.wpos = buffer.active.length := by
  rw [active_length valid, front, Nat.sub_zero]

theorem remaining_of_front (valid : buffer.Valid) (front : buffer.rpos = 0) :
    buffer.getRemainingSpace = buffer.storage.length - buffer.active.length := by
  rw [getRemainingSpace_eq valid, wpos_of_front valid front]

theorem write_rpos (data : Bytes) : (buffer.write data).rpos = buffer.rpos := by
  rw [write_eq]
  rfl

/-- A full buffer holds nothing but its bytes. -/
theorem storage_of_full (valid : buffer.Valid) (front : buffer.rpos = 0)
    (full : buffer.getRemainingSpace = 0) : buffer.storage = buffer.active := by
  have bounded := valid.writeBelowSize
  rw [getRemainingSpace_eq valid] at full
  unfold active
  rw [front, List.drop_zero, List.take_of_length_le (by omega)]

end MessageBuffer

namespace Receiver

@[simp]
theorem decryptRecv_length (environment : ReceiverEnvironment) (receiver : Receiver)
    (header : Bytes) : (receiver.decryptRecv environment header).length = header.length := by
  unfold decryptRecv
  split
  · exact updateData_length _ _ _
  · rfl

end Receiver

namespace ReceivingSocket

/-! ## The beginning of a packet -/

/-- The marks which a turn of the loop leaves alone. -/
structure SameMarks (socket next : ReceivingSocket) : Prop where
  asserted : next.asserted = socket.asserted
  waiting : next.waiting = socket.waiting
  reading : next.reading = socket.reading

theorem SameMarks.refl (socket : ReceivingSocket) : SameMarks socket socket := ⟨rfl, rfl, rfl⟩

theorem SameMarks.trans {first second third : ReceivingSocket}
    (left : SameMarks first second) (right : SameMarks second third) :
    SameMarks first third :=
  ⟨right.asserted.trans left.asserted, right.waiting.trans left.waiting,
    right.reading.trans left.reading⟩

/-- The header buffer has its size, and is filled from the front. -/
structure HeaderBuffer (socket : ReceivingSocket) (bytes : Bytes) : Prop where
  valid : socket.headerBuffer.Valid
  size : socket.headerBuffer.storage.length = sizeofClientPktHeader
  front : socket.headerBuffer.rpos = 0
  active : socket.headerBuffer.active = bytes

/-- Less than a header has arrived. -/
structure AtHeader (socket : ReceivingSocket) (left : Bytes) : Prop
    extends HeaderBuffer socket left where
  short : left.length < sizeofClientPktHeader
  packetBuffer : socket.packetBuffer.rpos = 0 ∧ socket.packetBuffer.wpos = 0

/--
The header has arrived and been decrypted in its place; the packet buffer holds
the beginning of the payload.
-/
structure AtPayload (environment : ReceiverEnvironment) (receiver : Receiver)
    (raw payload : Bytes) (socket : ReceivingSocket) : Prop
    extends HeaderBuffer socket (receiver.decryptRecv environment raw) where
  rawLength : raw.length = sizeofClientPktHeader
  decrypted : socket.receiver = receiver.afterHeader
  isValid : (headerOf environment receiver raw).isValid = true
  packetValid : socket.packetBuffer.Valid
  packetFront : socket.packetBuffer.rpos = 0
  packetSize : socket.packetBuffer.storage.length =
    (headerOf environment receiver raw).payloadSize
  packetActive : socket.packetBuffer.active = payload

variable {environment : ReceiverEnvironment} {socket : ReceivingSocket}
  {receiver : Receiver} {left raw payload : Bytes}

/-- Only the two buffers matter. -/
theorem HeaderBuffer.congr {other : ReceivingSocket} (buffer : HeaderBuffer socket left)
    (headerBuffer : other.headerBuffer = socket.headerBuffer) : HeaderBuffer other left where
  valid := headerBuffer ▸ buffer.valid
  size := headerBuffer ▸ buffer.size
  front := headerBuffer ▸ buffer.front
  active := headerBuffer ▸ buffer.active

theorem AtHeader.congr {other : ReceivingSocket} (header : AtHeader socket left)
    (headerBuffer : other.headerBuffer = socket.headerBuffer)
    (packetBuffer : other.packetBuffer = socket.packetBuffer) : AtHeader other left where
  toHeaderBuffer := header.toHeaderBuffer.congr headerBuffer
  short := header.short
  packetBuffer := packetBuffer ▸ header.packetBuffer

theorem HeaderBuffer.remaining (buffer : HeaderBuffer socket left) :
    socket.headerBuffer.getRemainingSpace = sizeofClientPktHeader - left.length := by
  rw [MessageBuffer.remaining_of_front buffer.valid buffer.front, buffer.size, buffer.active]

theorem headerOf_raw (length : raw.length = sizeofClientPktHeader) (more : Bytes) :
    headerOf environment receiver (raw ++ more) = headerOf environment receiver raw :=
  headerOf_append length.ge more

theorem headerOf_eq (length : raw.length = sizeofClientPktHeader) :
    headerOf environment receiver raw = .ofBytes (receiver.decryptRecv environment raw) := by
  unfold headerOf
  rw [List.take_of_length_le length.le]

/-- What the header buffer gets out of the read buffer. -/
theorem takeHeader_spec (header : AtHeader socket left) (valid : socket.readBuffer.Valid)
    {count : Nat} (available : count ≤ socket.readBuffer.active.length)
    (space : left.length + count ≤ sizeofClientPktHeader) :
    HeaderBuffer (socket.takeHeader count) (left ++ socket.readBuffer.active.take count) ∧
      (socket.takeHeader count).readBuffer.Valid ∧
      (socket.takeHeader count).readBuffer.active = socket.readBuffer.active.drop count := by
  have bytes : socket.readBuffer.bytesAt 0 count = socket.readBuffer.active.take count := by
    rw [MessageBuffer.bytesAt_eq valid (by omega), List.drop_zero]
  have length : (socket.readBuffer.active.take count).length = count :=
    List.length_take_of_le available
  have room : (socket.readBuffer.active.take count).length ≤
      socket.headerBuffer.getRemainingSpace := by
    rw [header.remaining, length]
    omega
  refine ⟨⟨?_, ?_, ?_, ?_⟩, MessageBuffer.readCompleted_valid valid available,
    MessageBuffer.readCompleted_active _ _⟩
  · show (socket.headerBuffer.write _).Valid
    rw [bytes]
    exact MessageBuffer.write_valid header.valid room
  · show (socket.headerBuffer.write _).storage.length = _
    rw [MessageBuffer.write_length header.valid]
    exact header.size
  · exact (MessageBuffer.write_rpos _).trans header.front
  · show (socket.headerBuffer.write _).active = _
    rw [bytes, MessageBuffer.write_active header.valid room, header.active]

theorem readHeader_short (environment : ReceiverEnvironment)
    (header : AtHeader socket left) (valid : socket.readBuffer.Valid)
    (short : left.length + socket.readBuffer.active.length < sizeofClientPktHeader) :
    ∃ next, socket.readHeader environment = .leave next ∧
      AtHeader next (left ++ socket.readBuffer.active) ∧ next.readBuffer.Valid ∧
      next.readBuffer.active = [] ∧ next.receiver = socket.receiver ∧ SameMarks socket next := by
  have size := MessageBuffer.getActiveSize_eq valid
  have count : min socket.readBuffer.getActiveSize socket.headerBuffer.getRemainingSpace =
      socket.readBuffer.active.length := by
    rw [size, header.remaining]
    omega
  obtain ⟨buffer, readValid, rest⟩ := takeHeader_spec header valid
    (Nat.le_refl _) short.le
  rw [List.take_length] at buffer
  rw [List.drop_length] at rest
  have nothing : (socket.takeHeader socket.readBuffer.active.length).readBuffer.getActiveSize =
      0 := by
    rw [MessageBuffer.getActiveSize_eq readValid, rest]
    rfl
  have open' : 0 < socket.headerBuffer.getRemainingSpace := by
    rw [header.remaining]
    omega
  have still : 0 < (socket.takeHeader
      socket.readBuffer.active.length).headerBuffer.getRemainingSpace := by
    rw [buffer.remaining, List.length_append]
    omega
  refine ⟨(socket.takeHeader socket.readBuffer.active.length).assert
      ((socket.takeHeader socket.readBuffer.active.length).readBuffer.getActiveSize = 0), ?_,
    ⟨⟨buffer.1, buffer.2, buffer.3, buffer.4⟩, ?_, header.packetBuffer⟩, readValid, rest, rfl,
    ?_, rfl, rfl⟩
  · unfold readHeader
    rw [if_pos open', count]
    dsimp only
    rw [if_pos still]
  · rw [List.length_append]
    exact short
  · show (_ || !decide _) = socket.asserted
    rw [decide_eq_true nothing]
    exact Bool.or_false _

theorem readHeaderHandler_spec (environment : ReceiverEnvironment)
    (buffer : HeaderBuffer socket raw)
    (length : raw.length = sizeofClientPktHeader)
    (packetFront : socket.packetBuffer.rpos = 0 ∧ socket.packetBuffer.wpos = 0) :
    ∃ next, HeaderBuffer next (socket.receiver.decryptRecv environment raw) ∧
      next.receiver = socket.receiver.afterHeader ∧
      next.readBuffer = socket.readBuffer ∧ SameMarks socket next ∧
      (((headerOf environment socket.receiver raw).isValid = false ∧
          socket.readHeaderHandler environment = .stop next.closeSocket) ∨
        (socket.readHeaderHandler environment = .goOn next ∧
          AtPayload environment socket.receiver raw [] next)) := by
  have bytes : socket.headerBuffer.bytesAt 0 sizeofClientPktHeader = raw := by
    rw [MessageBuffer.bytesAt_eq buffer.valid (by rw [buffer.active, length]; decide),
      buffer.active, List.drop_zero, List.take_of_length_le length.le]
  have full : socket.headerBuffer.getActiveSize = sizeofClientPktHeader := by
    rw [MessageBuffer.getActiveSize_eq buffer.valid, buffer.active, length]
  have whole : (socket.receiver.decryptRecv environment raw).length =
      socket.headerBuffer.active.length := by
    rw [Receiver.decryptRecv_length, buffer.active]
  have fits : socket.headerBuffer.rpos +
      (socket.receiver.decryptRecv environment raw).length ≤
        socket.headerBuffer.storage.length := by
    rw [buffer.front, Receiver.decryptRecv_length, length, buffer.size]
    decide
  have plain : HeaderBuffer { socket with
      headerBuffer := socket.headerBuffer.overwrite
        (socket.receiver.decryptRecv environment raw) }
      (socket.receiver.decryptRecv environment raw) :=
    ⟨MessageBuffer.overwrite_valid buffer.valid whole,
      (MessageBuffer.overwrite_length fits).trans buffer.size, buffer.front,
      MessageBuffer.overwrite_active buffer.valid whole⟩
  have noAssert : (socket.asserted || !decide
      (socket.headerBuffer.getActiveSize = sizeofClientPktHeader)) = socket.asserted := by
    rw [decide_eq_true full]
    exact Bool.or_false _
  have header : headerOf environment socket.receiver raw = _ := headerOf_eq length
  cases valid : (headerOf environment socket.receiver raw).isValid with
  | false =>
      refine ⟨{ socket.assert
            (socket.headerBuffer.getActiveSize = sizeofClientPktHeader) with
          headerBuffer := socket.headerBuffer.overwrite
            (socket.receiver.decryptRecv environment raw)
          receiver := socket.receiver.afterHeader },
        ⟨plain.1, plain.2, plain.3, plain.4⟩, rfl, rfl, ⟨noAssert, rfl, rfl⟩, .inl ⟨rfl, ?_⟩⟩
      unfold readHeaderHandler
      dsimp only [assert]
      rw [bytes, ← header, valid]
      rfl
  | true =>
      refine ⟨{ socket.assert
            (socket.headerBuffer.getActiveSize = sizeofClientPktHeader) with
          headerBuffer := socket.headerBuffer.overwrite
            (socket.receiver.decryptRecv environment raw)
          receiver := socket.receiver.afterHeader
          packetBuffer := socket.packetBuffer.resize
            (headerOf environment socket.receiver raw).payloadSize },
        ⟨plain.1, plain.2, plain.3, plain.4⟩, rfl, rfl, ⟨noAssert, rfl, rfl⟩, .inr ⟨?_, ?_⟩⟩
      · unfold readHeaderHandler
        dsimp only [assert]
        rw [bytes, ← header, valid]
        rfl
      · have empty : ∀ size, (socket.packetBuffer.resize size).Valid ∧
            (socket.packetBuffer.resize size).active = [] := by
          intro size
          refine ⟨⟨?_, ?_⟩, ?_⟩
          · exact packetFront.1.trans_le (Nat.zero_le _)
          · exact packetFront.2.trans_le (Nat.zero_le _)
          · show (List.take socket.packetBuffer.wpos _).drop _ = []
            rw [packetFront.2, List.take_zero, List.drop_nil]
        exact ⟨⟨plain.1, plain.2, plain.3, plain.4⟩, length, rfl, valid, (empty _).1,
          packetFront.1, MessageBuffer.resize_length _ _, (empty _).2⟩

theorem readHeader_whole (environment : ReceiverEnvironment)
    (header : AtHeader socket left) (valid : socket.readBuffer.Valid)
    (whole : sizeofClientPktHeader ≤ left.length + socket.readBuffer.active.length) :
    let all := left ++ socket.readBuffer.active
    let raw := all.take sizeofClientPktHeader
    ∃ next, HeaderBuffer next (socket.receiver.decryptRecv environment raw) ∧
      next.receiver = socket.receiver.afterHeader ∧
      next.readBuffer.Valid ∧
      next.readBuffer.active = all.drop sizeofClientPktHeader ∧ SameMarks socket next ∧
      (((headerOf environment socket.receiver raw).isValid = false ∧
          socket.readHeader environment = .stop next.closeSocket) ∨
        (socket.readHeader environment = .goOn next ∧
          AtPayload environment socket.receiver raw [] next)) := by
  have size := MessageBuffer.getActiveSize_eq valid
  have short := header.short
  have count : min socket.readBuffer.getActiveSize socket.headerBuffer.getRemainingSpace =
      sizeofClientPktHeader - left.length := by
    rw [size, header.remaining]
    omega
  obtain ⟨buffer, readValid, rest⟩ := takeHeader_spec header valid
    (Nat.sub_le_of_le_add (by omega)) (by omega :
      left.length + (sizeofClientPktHeader - left.length) ≤ sizeofClientPktHeader)
  have raw : left ++ socket.readBuffer.active.take (sizeofClientPktHeader - left.length) =
      (left ++ socket.readBuffer.active).take sizeofClientPktHeader := by
    rw [List.take_append, List.take_of_length_le short.le]
  have after : socket.readBuffer.active.drop (sizeofClientPktHeader - left.length) =
      (left ++ socket.readBuffer.active).drop sizeofClientPktHeader := by
    rw [List.drop_append, List.drop_eq_nil_of_le short.le, List.nil_append]
  rw [raw] at buffer
  rw [after] at rest
  have length : ((left ++ socket.readBuffer.active).take sizeofClientPktHeader).length =
      sizeofClientPktHeader := by
    rw [List.length_take, List.length_append]
    omega
  have open' : 0 < socket.headerBuffer.getRemainingSpace := by
    rw [header.remaining]
    omega
  have full : ¬ 0 < (socket.takeHeader
      (sizeofClientPktHeader - left.length)).headerBuffer.getRemainingSpace := by
    rw [buffer.remaining, length, Nat.sub_self]
    exact Nat.lt_irrefl 0
  have called : socket.readHeader environment =
      (socket.takeHeader (sizeofClientPktHeader - left.length)).readHeaderHandler
        environment := by
    unfold readHeader
    rw [if_pos open', count]
    dsimp only
    rw [if_neg full]
  obtain ⟨next, plain, decrypted, readBuffer, marks, cases⟩ :=
    readHeaderHandler_spec environment buffer length header.packetBuffer
  rw [called]
  exact ⟨next, plain, decrypted, readBuffer ▸ readValid, readBuffer ▸ rest,
    ⟨marks.1, marks.2, marks.3⟩, cases⟩

/-! ## The payload -/

theorem AtPayload.remaining (at' : AtPayload environment receiver raw payload socket) :
    socket.packetBuffer.getRemainingSpace =
      (headerOf environment receiver raw).payloadSize - payload.length := by
  rw [MessageBuffer.remaining_of_front at'.packetValid at'.packetFront, at'.packetSize,
    at'.packetActive]

/-- What the packet buffer gets out of the read buffer. -/
theorem takePayload_spec (at' : AtPayload environment receiver raw payload socket)
    (valid : socket.readBuffer.Valid)
    {count : Nat} (available : count ≤ socket.readBuffer.active.length)
    (space : count ≤ socket.packetBuffer.getRemainingSpace) :
    AtPayload environment receiver raw (payload ++ socket.readBuffer.active.take count)
        (socket.takePayload count) ∧
      (socket.takePayload count).readBuffer.Valid ∧
      (socket.takePayload count).readBuffer.active = socket.readBuffer.active.drop count := by
  have bytes : socket.readBuffer.bytesAt 0 count = socket.readBuffer.active.take count := by
    rw [MessageBuffer.bytesAt_eq valid (by omega), List.drop_zero]
  have room : (socket.readBuffer.active.take count).length ≤
      socket.packetBuffer.getRemainingSpace := by
    rw [List.length_take_of_le available]
    exact space
  refine ⟨⟨⟨at'.valid, at'.size, at'.front, at'.active⟩, at'.rawLength, at'.decrypted,
    at'.isValid, ?_, ?_, ?_, ?_⟩, MessageBuffer.readCompleted_valid valid available,
    MessageBuffer.readCompleted_active _ _⟩
  · show (socket.packetBuffer.write _).Valid
    rw [bytes]
    exact MessageBuffer.write_valid at'.packetValid room
  · exact (MessageBuffer.write_rpos _).trans at'.packetFront
  · show (socket.packetBuffer.write _).storage.length = _
    rw [MessageBuffer.write_length at'.packetValid]
    exact at'.packetSize
  · show (socket.packetBuffer.write _).active = _
    rw [bytes, MessageBuffer.write_active at'.packetValid room, at'.packetActive]

theorem readPayload_short (at' : AtPayload environment receiver raw payload socket)
    (valid : socket.readBuffer.Valid)
    (short : payload.length + socket.readBuffer.active.length <
      (headerOf environment receiver raw).payloadSize) :
    ∃ next, socket.readPayload = .leave next ∧
      AtPayload environment receiver raw (payload ++ socket.readBuffer.active) next ∧
      next.readBuffer.Valid ∧ next.readBuffer.active = [] ∧ SameMarks socket next := by
  have size := MessageBuffer.getActiveSize_eq valid
  have remaining := at'.remaining
  have count : min socket.readBuffer.getActiveSize socket.packetBuffer.getRemainingSpace =
      socket.readBuffer.active.length := by
    rw [size, remaining]
    omega
  obtain ⟨taken, readValid, rest⟩ := takePayload_spec at' valid (Nat.le_refl _)
    (by rw [remaining]; omega)
  rw [List.take_length] at taken
  rw [List.drop_length] at rest
  have nothing : (socket.takePayload
      socket.readBuffer.active.length).readBuffer.getActiveSize = 0 := by
    rw [MessageBuffer.getActiveSize_eq readValid, rest]
    rfl
  have open' : 0 < socket.packetBuffer.getRemainingSpace := by
    rw [remaining]
    omega
  have still : 0 < (socket.takePayload
      socket.readBuffer.active.length).packetBuffer.getRemainingSpace := by
    rw [taken.remaining, List.length_append]
    omega
  refine ⟨(socket.takePayload socket.readBuffer.active.length).assert
      ((socket.takePayload socket.readBuffer.active.length).readBuffer.getActiveSize = 0), ?_,
    { taken with }, readValid, rest, ?_, rfl, rfl⟩
  · unfold readPayload
    rw [if_pos open', count]
    dsimp only
    rw [if_pos still]
  · show (_ || !decide _) = socket.asserted
    rw [decide_eq_true nothing]
    exact Bool.or_false _

theorem readPayload_whole (at' : AtPayload environment receiver raw payload socket)
    (valid : socket.readBuffer.Valid)
    (whole : (headerOf environment receiver raw).payloadSize ≤
      payload.length + socket.readBuffer.active.length) :
    ∃ next, socket.readPayload = .goOn next ∧
      AtPayload environment receiver raw ((payload ++ socket.readBuffer.active).take
        (headerOf environment receiver raw).payloadSize) next ∧
      next.readBuffer.Valid ∧
      next.readBuffer.active = (payload ++ socket.readBuffer.active).drop
        (headerOf environment receiver raw).payloadSize ∧ SameMarks socket next := by
  have size := MessageBuffer.getActiveSize_eq valid
  have remaining := at'.remaining
  have bounded : payload.length ≤ (headerOf environment receiver raw).payloadSize := by
    have inside := at'.packetValid.writeBelowSize
    rw [MessageBuffer.wpos_of_front at'.packetValid at'.packetFront, at'.packetActive,
      at'.packetSize] at inside
    exact inside
  have payloadTaken : (payload ++ socket.readBuffer.active).take
      (headerOf environment receiver raw).payloadSize =
        payload ++ socket.readBuffer.active.take
          ((headerOf environment receiver raw).payloadSize - payload.length) := by
    rw [List.take_append, List.take_of_length_le bounded]
  have after : (payload ++ socket.readBuffer.active).drop
      (headerOf environment receiver raw).payloadSize =
        socket.readBuffer.active.drop
          ((headerOf environment receiver raw).payloadSize - payload.length) := by
    rw [List.drop_append, List.drop_eq_nil_of_le bounded, List.nil_append]
  rw [payloadTaken, after]
  by_cases open' : 0 < socket.packetBuffer.getRemainingSpace
  case neg =>
      have none : (headerOf environment receiver raw).payloadSize - payload.length = 0 := by
        rw [← remaining]
        exact Nat.eq_zero_of_not_pos open'
      rw [none, List.take_zero, List.append_nil, List.drop_zero]
      exact ⟨socket, if_neg open', at', valid, rfl, .refl socket⟩
  have count : min socket.readBuffer.getActiveSize socket.packetBuffer.getRemainingSpace =
      (headerOf environment receiver raw).payloadSize - payload.length := by
    rw [size, remaining]
    omega
  obtain ⟨taken, readValid, rest⟩ := takePayload_spec at' valid
    (Nat.sub_le_of_le_add (by omega) : (headerOf environment receiver raw).payloadSize -
      payload.length ≤ socket.readBuffer.active.length) remaining.ge
  have full : ¬ 0 < (socket.takePayload ((headerOf environment receiver raw).payloadSize -
      payload.length)).packetBuffer.getRemainingSpace := by
    rw [taken.remaining, List.length_append, List.length_take]
    omega
  refine ⟨_, ?_, taken, readValid, rest, rfl, rfl, rfl⟩
  unfold readPayload
  rw [if_pos open', count]
  dsimp only
  rw [if_neg full]

/-! ## The packet -/

/-- The packet which `ReadDataHandler` gets. -/
def packetOf (environment : ReceiverEnvironment) (receiver : Receiver) (raw payload : Bytes) :
    ClientPacket :=
  ⟨(headerOf environment receiver raw).opcode, payload⟩

/-- The socket when `ReadDataHandler` has been called and the buffers are free again. -/
structure Handled (environment : ReceiverEnvironment) (receiver : Receiver)
    (raw payload : Bytes) (socket next : ReceivingSocket) : Prop where
  atHeader : AtHeader next []
  receiver : next.receiver =
    receiver.afterHeader.deliver (packetOf environment receiver raw payload)
  readBuffer : next.readBuffer = socket.readBuffer
  marks : SameMarks socket next

theorem readData_spec (at' : AtPayload environment receiver raw payload socket)
    (full : payload.length = (headerOf environment receiver raw).payloadSize) :
    ∃ next, Handled environment receiver raw payload socket next ∧
      socket.readData environment =
        match receiver.afterHeader.readDataHandlerResult environment
            (packetOf environment receiver raw payload) with
        | .ok => .goOn next
        | .error => .stop next.closeSocket
        | .waitingForQuery => .stop { next with waiting := true } := by
  have bytes : socket.headerBuffer.bytesAt 0 sizeofClientPktHeader =
      receiver.decryptRecv environment raw := by
    have length : (receiver.decryptRecv environment raw).length = sizeofClientPktHeader := by
      rw [Receiver.decryptRecv_length, at'.rawLength]
    rw [MessageBuffer.bytesAt_eq at'.valid (by rw [at'.active, length]; decide), at'.active,
      List.drop_zero, List.take_of_length_le length.le]
  have nothingLeft : socket.packetBuffer.getRemainingSpace = 0 := by
    rw [at'.remaining, full, Nat.sub_self]
  have storage : socket.packetBuffer.storage = payload :=
    (MessageBuffer.storage_of_full at'.packetValid at'.packetFront nothingLeft).trans
      at'.packetActive
  have header : headerOf environment receiver raw = _ := headerOf_eq at'.rawLength
  refine ⟨{ socket with
    receiver := receiver.afterHeader.deliver (packetOf environment receiver raw payload)
    packetBuffer := socket.packetBuffer.move.2
    headerBuffer := socket.headerBuffer.reset }, ⟨⟨⟨MessageBuffer.reset_valid _, at'.size, rfl,
      MessageBuffer.reset_active _⟩, by decide, rfl, rfl⟩, rfl, rfl, rfl, rfl, rfl⟩, ?_⟩
  unfold readData
  dsimp only
  rw [bytes, ← header, at'.decrypted, show socket.packetBuffer.move.1 = payload from storage]
  rfl

/-! ## One turn of the loop -/

/-- The buffers hold the bytes `left` of a packet that is not whole. -/
inductive Holds (environment : ReceiverEnvironment) (receiver : Receiver)
    (socket : ReceivingSocket) : Bytes → Prop where
  | header {left : Bytes} (atHeader : AtHeader socket left)
      (same : socket.receiver = receiver) : Holds environment receiver socket left
  | payload {raw payload : Bytes}
      (atPayload : AtPayload environment receiver raw payload socket)
      (partly : payload.length < (headerOf environment receiver raw).payloadSize) :
      Holds environment receiver socket (raw ++ payload)

/-- As many headers have been decrypted as packets were delivered. -/
def Counted (receiver : Receiver) : Prop :=
  receiver.decryptions = receiver.delivered.length

/-- Every header has been decrypted once: those of the packets, and the one in its buffer. -/
def DecryptedOnce (socket : ReceivingSocket) : Prop :=
  socket.receiver.decryptions = socket.receiver.delivered.length +
    if socket.headerBuffer.getRemainingSpace = 0 then 1 else 0

/-- What one turn of the loop makes of the bytes it has. -/
inductive TurnOf (environment : ReceiverEnvironment) (receiver : Receiver)
    (socket : ReceivingSocket) (all : Bytes) : Turn → Prop where
  /-- All bytes are taken, and the packet is not whole yet. -/
  | partly {next : ReceivingSocket}
      (none : readPacket environment receiver all = none)
      (holds : Holds environment receiver next all)
      (readBuffer : next.readBuffer.Valid ∧ next.readBuffer.active = [])
      (marks : SameMarks socket next) : TurnOf environment receiver socket all (.leave next)
  /-- One packet is taken, and the loop goes on behind it. -/
  | whole {next : ReceivingSocket} {packet : ClientPacket} {rest : Bytes}
      (found : readPacket environment receiver all =
        some (some packet, next.receiver, rest))
      (other : packet.opcode ≠ cmsgAuthSession)
      (atHeader : AtHeader next [])
      (isOpen : next.receiver.isOpen = true) (counted : Counted next.receiver)
      (readBuffer : next.readBuffer.Valid ∧ next.readBuffer.active = rest)
      (shorter : rest.length < socket.readBuffer.active.length)
      (marks : SameMarks socket next) : TurnOf environment receiver socket all (.goOn next)
  /-- The socket is closed. -/
  | refused {next : ReceivingSocket} {packet : Option ClientPacket} {rest : Bytes}
      (found : readPacket environment receiver all = some (packet, next.receiver, rest))
      (closed : next.receiver.isOpen = false) (once : next.DecryptedOnce)
      (marks : SameMarks socket next) : TurnOf environment receiver socket all (.stop next)
  /-- A `CMSG_AUTH_SESSION` is taken, and its query is under way. -/
  | paused {next : ReceivingSocket} {packet : ClientPacket} {rest : Bytes}
      (found : readPacket environment receiver all =
        some (some packet, next.receiver.authSessionCallback environment, rest))
      (atHeader : AtHeader next [])
      (isOpen : next.receiver.isOpen = true) (counted : Counted next.receiver)
      (opcode : packet.opcode = cmsgAuthSession)
      (readBuffer : next.readBuffer.Valid ∧ next.readBuffer.active = rest)
      (shorter : rest.length < socket.readBuffer.active.length)
      (waiting : next.waiting = true)
      (marks : next.asserted = socket.asserted ∧ next.reading = socket.reading) :
      TurnOf environment receiver socket all (.stop next)

theorem Counted.deliver (counted : Counted receiver) (packet : ClientPacket) :
    Counted (receiver.afterHeader.deliver packet) := by
  unfold Counted at counted ⊢
  show receiver.decryptions + 1 = (receiver.delivered ++ [packet]).length
  rw [List.length_append, counted]
  rfl

/-- A header buffer which is not full counts no header. -/
theorem DecryptedOnce.of_header (header : AtHeader socket left)
    (counted : Counted socket.receiver) : socket.DecryptedOnce := by
  have short := header.short
  have notFull : socket.headerBuffer.getRemainingSpace ≠ 0 := by
    rw [header.remaining]
    omega
  unfold DecryptedOnce
  rw [if_neg notFull]
  exact counted

/-- A full header buffer counts the header whose packet has not been delivered. -/
theorem DecryptedOnce.of_full (buffer : HeaderBuffer socket raw)
    (length : raw.length = sizeofClientPktHeader) (counted : Counted receiver)
    (decrypted : socket.receiver.decryptions = receiver.afterHeader.decryptions)
    (delivered : socket.receiver.delivered = receiver.delivered) : socket.DecryptedOnce := by
  have full : socket.headerBuffer.getRemainingSpace = 0 := by
    rw [buffer.remaining, length, Nat.sub_self]
  unfold DecryptedOnce
  rw [if_pos full, decrypted, delivered]
  exact congrArg (· + 1) counted

theorem Holds.decryptedOnce (holds : Holds environment receiver socket left)
    (counted : Counted receiver) : socket.DecryptedOnce := by
  cases holds with
  | header atHeader same =>
      subst same
      exact .of_header atHeader counted
  | payload atPayload partly =>
      refine .of_full atPayload.toHeaderBuffer ?_ counted ?_ ?_
      · rw [Receiver.decryptRecv_length, atPayload.rawLength]
      · rw [atPayload.decrypted]
      · rw [atPayload.decrypted]
        rfl

theorem readPacket_valid (isOpen : receiver.isOpen = true)
    (length : raw.length = sizeofClientPktHeader)
    (isValid : (headerOf environment receiver raw).isValid = true) (behind : Bytes) :
    readPacket environment receiver (raw ++ behind) =
      if behind.length < (headerOf environment receiver raw).payloadSize then none
      else
        let packet := packetOf environment receiver raw
          (behind.take (headerOf environment receiver raw).payloadSize)
        some (some packet, receiver.afterHeader.finish environment packet,
          behind.drop (headerOf environment receiver raw).payloadSize) := by
  have total : (raw ++ behind).length = sizeofClientPktHeader + behind.length := by
    rw [List.length_append, length]
  have there : ¬ (receiver.isOpen = false ∨
      (raw ++ behind).length < sizeofClientPktHeader) := by
    rw [isOpen, total]
    simp
  have short : (raw ++ behind).length <
      sizeofClientPktHeader + (headerOf environment receiver raw).payloadSize ↔
        behind.length < (headerOf environment receiver raw).payloadSize := by
    rw [total]
    exact Nat.add_lt_add_iff_left
  unfold readPacket payloadOf packetOf
  dsimp only
  rw [headerOf_raw length, if_neg there, isValid, if_neg (by simp), ← List.drop_drop,
    List.drop_left' length]
  simp only [short]

theorem readPacket_malformed (isOpen : receiver.isOpen = true)
    (length : raw.length = sizeofClientPktHeader)
    (isValid : (headerOf environment receiver raw).isValid = false) (behind : Bytes) :
    readPacket environment receiver (raw ++ behind) =
      some (none, receiver.afterHeader.closeSocket, behind) := by
  have there : ¬ (receiver.isOpen = false ∨
      (raw ++ behind).length < sizeofClientPktHeader) := by
    rw [isOpen, List.length_append, length]
    simp
  unfold readPacket
  dsimp only
  rw [headerOf_raw length, if_neg there, isValid, if_pos rfl, List.drop_left' length]

/-- The turn from the moment on where the header has been read. -/
theorem turn_of_payload (at' : AtPayload environment receiver raw payload socket)
    (valid : socket.readBuffer.Valid) (isOpen : receiver.isOpen = true)
    (counted : Counted receiver) {start : ReceivingSocket} (marks : SameMarks start socket)
    (progress : payload.length + socket.readBuffer.active.length <
      (headerOf environment receiver raw).payloadSize + start.readBuffer.active.length) :
    TurnOf environment receiver start (raw ++ (payload ++ socket.readBuffer.active))
      (socket.readPayload.andThen (readData environment)) := by
  have read := readPacket_valid isOpen at'.rawLength at'.isValid
    (payload ++ socket.readBuffer.active)
  rw [List.length_append] at read
  by_cases short : payload.length + socket.readBuffer.active.length <
      (headerOf environment receiver raw).payloadSize
  · obtain ⟨next, left, holds, readValid, nothing, same⟩ :=
      readPayload_short at' valid short
    rw [left]
    rw [if_pos short] at read
    refine .partly read (.payload holds ?_) ⟨readValid, nothing⟩ (marks.trans same)
    rw [List.length_append]
    exact short
  obtain ⟨full, wentOn, complete, readValid, rest, same⟩ :=
    readPayload_whole at' valid (Nat.not_lt.mp short)
  have length : ((payload ++ socket.readBuffer.active).take
      (headerOf environment receiver raw).payloadSize).length =
        (headerOf environment receiver raw).payloadSize := by
    rw [List.length_take, List.length_append]
    omega
  obtain ⟨next, handled, result⟩ := readData_spec complete length
  have shorter : ((payload ++ socket.readBuffer.active).drop
      (headerOf environment receiver raw).payloadSize).length <
        start.readBuffer.active.length := by
    rw [List.length_drop, List.length_append]
    omega
  have buffer : next.readBuffer.Valid ∧ next.readBuffer.active =
      (payload ++ socket.readBuffer.active).drop
        (headerOf environment receiver raw).payloadSize := by
    rw [handled.readBuffer]
    exact ⟨readValid, rest⟩
  have nextCounted : Counted next.receiver := by
    rw [handled.receiver]
    exact counted.deliver _
  have nextMarks := (marks.trans same).trans handled.marks
  have nextOpen : next.receiver.isOpen = true := by
    rw [handled.receiver]
    exact isOpen
  rw [if_neg short] at read
  dsimp only at read
  rw [wentOn]
  show TurnOf environment receiver start _ (full.readData environment)
  rw [result]
  unfold Receiver.finish at read
  rw [← handled.receiver] at read
  cases outcome : receiver.afterHeader.readDataHandlerResult environment
      (packetOf environment receiver raw _) with
  | ok =>
      rw [outcome] at read
      exact .whole read (Receiver.opcode_of_ok outcome) handled.atHeader
        nextOpen nextCounted buffer shorter nextMarks
  | error =>
      rw [outcome] at read
      refine .refused read rfl ?_ ⟨nextMarks.1, nextMarks.2, nextMarks.3⟩
      have once := DecryptedOnce.of_header handled.atHeader nextCounted
      exact once
  | waitingForQuery =>
      rw [outcome] at read
      have atHeader : AtHeader { next with waiting := true } [] :=
        handled.atHeader.congr rfl rfl
      exact .paused read atHeader nextOpen nextCounted
        (Receiver.opcode_of_waiting outcome) buffer shorter rfl
        ⟨nextMarks.asserted, nextMarks.reading⟩

theorem readNext_turnOf (holds : Holds environment receiver socket left)
    (valid : socket.readBuffer.Valid) (some : socket.readBuffer.active ≠ [])
    (isOpen : receiver.isOpen = true) (counted : Counted receiver) :
    TurnOf environment receiver socket (left ++ socket.readBuffer.active)
      (socket.readNext environment) := by
  have positive := List.length_pos_iff.mpr some
  unfold readNext
  cases holds with
  | payload at' partly =>
      have full : ¬ 0 < socket.headerBuffer.getRemainingSpace := by
        rw [at'.toHeaderBuffer.remaining, Receiver.decryptRecv_length, at'.rawLength, Nat.sub_self]
        exact Nat.lt_irrefl 0
      rw [show socket.readHeader environment = .goOn socket from if_neg full,
        List.append_assoc]
      exact turn_of_payload at' valid isOpen counted (.refl socket) (by omega)
  | header atHeader same =>
      subst same
      by_cases short : left.length + socket.readBuffer.active.length < sizeofClientPktHeader
      · obtain ⟨next, left', atNext, readValid, nothing, sameReceiver, marks⟩ :=
          readHeader_short environment atHeader valid short
        rw [left']
        refine .partly (readPacket_short ?_) (.header atNext sameReceiver)
          ⟨readValid, nothing⟩ marks
        rw [List.length_append]
        exact short
      have whole := Nat.not_lt.mp short
      obtain ⟨next, plain, decrypted, readValid, rest, marks, cases⟩ :=
        readHeader_whole environment atHeader valid whole
      have length : ((left ++ socket.readBuffer.active).take
          sizeofClientPktHeader).length = sizeofClientPktHeader := by
        rw [List.length_take, List.length_append]
        omega
      have split : left ++ socket.readBuffer.active =
          (left ++ socket.readBuffer.active).take sizeofClientPktHeader ++
            next.readBuffer.active := by
        rw [rest, List.take_append_drop]
      have less : next.readBuffer.active.length < socket.readBuffer.active.length := by
        have shorter := atHeader.short
        rw [rest, List.length_drop, List.length_append]
        omega
      generalize (left ++ socket.readBuffer.active).take sizeofClientPktHeader = raw at *
      rw [split]
      rcases cases with ⟨malformed, stopped⟩ | ⟨wentOn, at'⟩
      · rw [stopped]
        have read := readPacket_malformed isOpen length malformed next.readBuffer.active
        rw [← decrypted] at read
        refine .refused read rfl ?_ ⟨marks.1, marks.2, marks.3⟩
        have closedBuffer : HeaderBuffer next.closeSocket
            (socket.receiver.decryptRecv environment raw) :=
          ⟨plain.1, plain.2, plain.3, plain.4⟩
        refine .of_full closedBuffer ?_ counted ?_ ?_
        · rw [Receiver.decryptRecv_length, length]
        · show next.receiver.decryptions = _
          rw [decrypted]
        · show next.receiver.delivered = _
          rw [decrypted]
          rfl
      · rw [wentOn]
        have turn := turn_of_payload at' readValid isOpen counted marks
          (by rw [List.length_nil]; omega)
        exact turn

end ReceivingSocket

end RealmServer.Network
