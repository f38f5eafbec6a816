import RealmServer.Lib.Transition
import RealmServer.Network.ClientPackets

/-!
# Receiving from the client

`WorldSocket::ReadHandler` puts packets together from what one read after the
other has brought.  Three buffers take part: the read buffer of the socket, the
header buffer, and the packet buffer, which gets its size from the header and
is moved out when the packet is whole.

A query stops the reading after `CMSG_AUTH_SESSION`; its callback starts the
next read, but does not look at what is still in the read buffer.  `asserted`
is not in the source; it remembers a failed `ASSERT`.
-/

namespace RealmServer.Network

open Framing Transition

variable (environment : ReceiverEnvironment)

/-- The receiving side of a `WorldSocket`. -/
structure ReceivingSocket where
  receiver : Receiver := {}
  readBuffer : MessageBuffer := .ofSize defaultBufferSize
  headerBuffer : MessageBuffer := .ofSize sizeofClientPktHeader
  packetBuffer : MessageBuffer := .ofSize defaultBufferSize
  /-- A read is under way. -/
  reading : Bool := true
  /-- The account query is under way. -/
  waiting : Bool := false
  asserted : Bool := false

namespace ReceivingSocket

/-- How a part of the loop body ends. -/
inductive Turn where
  | goOn (socket : ReceivingSocket)
  /-- `break`: the loop is over, and the next read is begun. -/
  | leave (socket : ReceivingSocket)
  /-- `return`. -/
  | stop (socket : ReceivingSocket)

/-- The next part of the loop body, if it is reached. -/
def Turn.andThen (turn : Turn) (next : ReceivingSocket → Turn) : Turn :=
  match turn with
  | .goOn socket => next socket
  | .leave socket => .leave socket
  | .stop socket => .stop socket

/-- `ASSERT(condition)`. -/
def assert (socket : ReceivingSocket) (condition : Prop) [Decidable condition] :
    ReceivingSocket :=
  { socket with asserted := socket.asserted || !decide condition }

/-- `Socket::AsyncRead`. -/
def asyncRead (socket : ReceivingSocket) : ReceivingSocket :=
  if socket.receiver.isOpen then
    { socket with
      readBuffer := socket.readBuffer.normalize.ensureFreeSpace
      reading := true }
  else socket

def closeSocket (socket : ReceivingSocket) : ReceivingSocket :=
  { socket with receiver := socket.receiver.closeSocket }

/-- `ReadHeaderHandler`: decrypt in place, check, and size the packet buffer. -/
def readHeaderHandler (socket : ReceivingSocket) : Turn :=
  let socket := socket.assert (socket.headerBuffer.getActiveSize = sizeofClientPktHeader)
  let plain := socket.receiver.decryptRecv environment
    (socket.headerBuffer.bytesAt 0 sizeofClientPktHeader)
  let header := ClientPktHeader.ofBytes plain
  let socket := { socket with
    headerBuffer := socket.headerBuffer.overwrite plain
    receiver := socket.receiver.afterHeader }
  if header.isValid then
    .goOn { socket with packetBuffer := socket.packetBuffer.resize header.payloadSize }
  else .stop socket.closeSocket

/-- Bytes go from the read buffer to the header buffer. -/
def takeHeader (socket : ReceivingSocket) (readHeaderSize : Nat) : ReceivingSocket :=
  { socket with
    headerBuffer := socket.headerBuffer.write (socket.readBuffer.bytesAt 0 readHeaderSize)
    readBuffer := socket.readBuffer.readCompleted readHeaderSize }

/-- Bytes go from the read buffer to the packet buffer. -/
def takePayload (socket : ReceivingSocket) (readDataSize : Nat) : ReceivingSocket :=
  { socket with
    packetBuffer := socket.packetBuffer.write (socket.readBuffer.bytesAt 0 readDataSize)
    readBuffer := socket.readBuffer.readCompleted readDataSize }

/-- Read `_headerBuffer` full. -/
def readHeader (socket : ReceivingSocket) : Turn :=
  if 0 < socket.headerBuffer.getRemainingSpace then
    let socket := socket.takeHeader
      (min socket.readBuffer.getActiveSize socket.headerBuffer.getRemainingSpace)
    if 0 < socket.headerBuffer.getRemainingSpace then
      .leave (socket.assert (socket.readBuffer.getActiveSize = 0))
    else socket.readHeaderHandler environment
  else .goOn socket

/-- Read `_packetBuffer` full. -/
def readPayload (socket : ReceivingSocket) : Turn :=
  if 0 < socket.packetBuffer.getRemainingSpace then
    let socket := socket.takePayload
      (min socket.readBuffer.getActiveSize socket.packetBuffer.getRemainingSpace)
    if 0 < socket.packetBuffer.getRemainingSpace then
      .leave (socket.assert (socket.readBuffer.getActiveSize = 0))
    else .goOn socket
  else .goOn socket

/-- `ReadDataHandler`, and what the loop makes of its result. -/
def readData (socket : ReceivingSocket) : Turn :=
  let header := ClientPktHeader.ofBytes
    (socket.headerBuffer.bytesAt 0 sizeofClientPktHeader)
  let packet : ClientPacket := ⟨header.opcode, socket.packetBuffer.move.1⟩
  let handled := { socket with
    receiver := socket.receiver.deliver packet
    packetBuffer := socket.packetBuffer.move.2
    headerBuffer := socket.headerBuffer.reset }
  match socket.receiver.readDataHandlerResult environment packet with
  | .ok => .goOn handled
  | .error => .stop handled.closeSocket
  | .waitingForQuery => .stop { handled with waiting := true }

/-- The loop body of `ReadHandler`. -/
def readNext (socket : ReceivingSocket) : Turn :=
  ((socket.readHeader environment).andThen readPayload).andThen (readData environment)

/-- The loop: each turn takes a byte at least, so there are turns enough. -/
def loop : Nat → ReceivingSocket → ReceivingSocket
  | 0, socket => socket.asyncRead
  | turns + 1, socket =>
      if socket.readBuffer.getActiveSize = 0 then socket.asyncRead
      else
        match socket.readNext environment with
        | .goOn next => loop turns next
        | .leave next => next.asyncRead
        | .stop next => next

/-- `ReadHandler`. -/
def readHandler (socket : ReceivingSocket) : ReceivingSocket :=
  if socket.receiver.isOpen then loop environment socket.readBuffer.active.length socket
  else socket

/-- `ReadHandlerInternal` with the bytes of one read. -/
def readHandlerInternal (socket : ReceivingSocket) (chunk : Bytes) : ReceivingSocket :=
  { socket with
    readBuffer := socket.readBuffer.write chunk
    reading := false }.readHandler environment

/-- The callback of the account query; only an accepted login goes on reading. -/
def resume (socket : ReceivingSocket) : ReceivingSocket :=
  if socket.waiting then
    let answered := { socket with
      receiver := socket.receiver.authSessionCallback environment
      waiting := false }
    match environment.authOutcome socket.receiver.delivered with
    | .accepted => answered.asyncRead
    | _ => answered
  else socket

/-- One read arrives, if one is under way, and a query it starts is answered. -/
def receive (socket : ReceivingSocket) (chunk : Bytes) : ReceivingSocket :=
  if socket.reading then (socket.readHandlerInternal environment chunk).resume environment
  else socket

/-- A read brings at least one byte, and not more than the buffer has space for. -/
def Possible (socket : ReceivingSocket) (chunk : Bytes) : Prop :=
  socket.reading = true →
    chunk ≠ [] ∧ chunk.length ≤ socket.readBuffer.getRemainingSpace

/-- The socket after all the reads of a stream. -/
def receiveAll (chunks : List Bytes) : ReceivingSocket :=
  run (receive environment) {} chunks

end ReceivingSocket

end RealmServer.Network
