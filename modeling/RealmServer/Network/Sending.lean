import RealmServer.Lib.Transition
import RealmServer.Network.ServerPackets

/-!
# Sending to the client

`SendPacket` puts packets into a queue; `WorldSocket::Update` takes them out,
frames them and collects the frames in buffers of 4096 bytes; `HandleQueue`
writes the buffers to the socket as far as the socket takes them.  This module
follows the bytes through these queues: what has been handed to the socket,
and what still lies in a buffer behind it, is always the stream of the packets
which have been framed.

`handedOver` and `enqueued` are not in the source.  They remember the bytes the
socket has taken and the packets which have been sent.
-/

namespace RealmServer.Network

open Framing Transition

variable (keystream : Keystream)

/-- What `write_some` answers. -/
inductive WriteResult where
  | wouldBlock
  /-- The socket takes `more + 1` bytes, if there are that many. -/
  | accepted (more : Nat)
  /-- Any other error. -/
  | failed
deriving DecidableEq

/-- The sending side of an open `WorldSocket`. -/
structure SendingSocket where
  bufferQueue : List EncryptablePacket := []
  /-- How much of the keystream `_serverEncrypt` has used. -/
  position : Nat := 0
  writeQueue : List MessageBuffer := []
  isWritingAsync : Bool := false
  handedOver : Bytes := []
  enqueued : List EncryptablePacket := []

namespace SendingSocket

/-! ## The queues -/

def sendPacket (socket : SendingSocket) (packet : EncryptablePacket) : SendingSocket :=
  { socket with
    bufferQueue := socket.bufferQueue ++ [packet]
    enqueued := socket.enqueued ++ [packet] }

def queuePacket (socket : SendingSocket) (buffer : MessageBuffer) : SendingSocket :=
  { socket with writeQueue := socket.writeQueue ++ [buffer] }

/-- The space a packet needs, in 32-bit arithmetic. -/
def spaceFor (queued : EncryptablePacket) : Nat :=
  (queued.queuedSize + queued.header.length) % 2 ^ 32

/-- Make room in the local buffer: a full one is queued, and its place taken. -/
def makeSpace (socket : SendingSocket) (buffer : MessageBuffer) (space : Nat) :
    SendingSocket × MessageBuffer :=
  if buffer.getRemainingSpace < space then
    (socket.queuePacket buffer, buffer.move.2.resize defaultBufferSize)
  else (socket, buffer)

/-- The loop body of `WorldSocket::Update`, with its local buffer. -/
def batch (current : SendingSocket × MessageBuffer) (queued : EncryptablePacket) :
    SendingSocket × MessageBuffer :=
  let header := encryptSend keystream queued.encrypt current.1.position queued.header
  let encrypted := { current.1 with position := queued.positionAfter current.1.position }
  let (socket, buffer) := encrypted.makeSpace current.2 (spaceFor queued)
  if spaceFor queued ≤ buffer.getRemainingSpace then
    (socket, (buffer.write header).write queued.written)
  else
    -- a single packet which no buffer of the usual size holds
    (socket.queuePacket
      (((MessageBuffer.ofSize (spaceFor queued)).write header).write queued.written), buffer)

/-- The part of `WorldSocket::Update` before `BaseSocket::Update`. -/
def batchAll (socket : SendingSocket) : SendingSocket :=
  let (batched, buffer) := socket.bufferQueue.foldl (batch keystream)
    ({ socket with bufferQueue := [] }, MessageBuffer.ofSize defaultBufferSize)
  if 0 < buffer.getActiveSize then batched.queuePacket buffer else batched

/-- `HandleQueue`; the boolean is what it returns. -/
def handleQueue (socket : SendingSocket) (result : WriteResult) : SendingSocket × Bool :=
  match socket.writeQueue with
  | [] => (socket, false)
  | queuedMessage :: rest =>
      let bytesToSend := queuedMessage.getActiveSize
      match result with
      | .wouldBlock => ({ socket with isWritingAsync := true }, false)
      | .failed => ({ socket with writeQueue := rest }, false)
      | .accepted more =>
          let bytesSent := min (more + 1) bytesToSend
          let socket := { socket with
            handedOver := socket.handedOver ++ queuedMessage.active.take bytesSent }
          if bytesSent = 0 then ({ socket with writeQueue := rest }, false)
          else if bytesSent < bytesToSend then
            ({ socket with
              writeQueue := queuedMessage.readCompleted bytesSent :: rest
              isWritingAsync := true }, false)
          else ({ socket with writeQueue := rest }, !rest.isEmpty)

/-- `for (; HandleQueue();)`; without another result the socket would block. -/
def handleQueues (socket : SendingSocket) : List WriteResult → SendingSocket
  | [] => (socket.handleQueue .wouldBlock).1
  | result :: results =>
      let (next, more) := socket.handleQueue result
      if more then next.handleQueues results else next

/-- `WorldSocket::Update`. -/
def update (socket : SendingSocket) (results : List WriteResult) : SendingSocket :=
  let socket := socket.batchAll keystream
  if socket.isWritingAsync || socket.writeQueue.isEmpty then socket
  else socket.handleQueues results

/-- `WriteHandlerWrapper`, when the socket has become writable. -/
def writeHandlerWrapper (socket : SendingSocket) (result : WriteResult) : SendingSocket :=
  if socket.isWritingAsync then
    ({ socket with isWritingAsync := false }.handleQueue result).1
  else socket

inductive Event where
  | sendPacket (packet : EncryptablePacket)
  | update (results : List WriteResult)
  | writable (result : WriteResult)

def step (socket : SendingSocket) : Event → SendingSocket
  | .sendPacket packet => socket.sendPacket packet
  | .update results => socket.update keystream results
  | .writable result => socket.writeHandlerWrapper result

/-- The socket takes bytes or would block, and does not fail. -/
def Event.Regular : Event → Prop
  | .sendPacket _ => True
  | .update results => .failed ∉ results
  | .writable result => result ≠ .failed

/-- The packets which are sent in a run. -/
def packetsOf (events : List Event) : List EncryptablePacket :=
  events.filterMap fun
    | .sendPacket packet => some packet
    | _ => none

/-! ## The stream -/

/-- The bytes which lie in buffers. -/
def pending (socket : SendingSocket) : Bytes :=
  (socket.writeQueue.map MessageBuffer.active).flatten

/-- The bytes handed over, and those that will be. -/
def stream (socket : SendingSocket) : Bytes := socket.handedOver ++ socket.pending

/-- The buffers in the queue are in order. -/
def BuffersValid (socket : SendingSocket) : Prop :=
  ∀ buffer ∈ socket.writeQueue, buffer.Valid

/-- The stream consists of the packets which are not in the queue any more. -/
structure Streams (socket : SendingSocket) (batched : List EncryptablePacket) : Prop where
  enqueued : socket.enqueued = batched ++ socket.bufferQueue
  stream : socket.stream = framesFrom keystream 0 batched
  position : socket.position = positionAfterAll 0 batched
  valid : socket.BuffersValid

variable {keystream} {socket : SendingSocket} {buffer : MessageBuffer}

@[simp]
theorem queuePacket_stream (socket : SendingSocket) (buffer : MessageBuffer) :
    (socket.queuePacket buffer).stream = socket.stream ++ buffer.active := by
  simp [stream, pending, queuePacket]

theorem queuePacket_valid (valid : socket.BuffersValid) (bufferValid : buffer.Valid) :
    (socket.queuePacket buffer).BuffersValid := by
  intro other member
  rcases List.mem_append.mp member with old | new
  · exact valid other old
  · exact (List.mem_singleton.mp new) ▸ bufferValid

/-- The loop of `Update` stands behind the packets `batched`. -/
structure Batched (keystream : Keystream) (current : SendingSocket × MessageBuffer)
    (batched : List EncryptablePacket) : Prop where
  stream : current.1.stream ++ current.2.active = framesFrom keystream 0 batched
  position : current.1.position = positionAfterAll 0 batched
  valid : current.1.BuffersValid
  bufferValid : current.2.Valid

/-- Nothing about the packet wraps around in 32 bits. -/
def NoWrap (packet : EncryptablePacket) : Prop := packet.payload.length + 7 < 2 ^ 32

theorem noWrap_of_fits {packet : EncryptablePacket} (fits : packet.Fits) :
    NoWrap packet := by
  unfold EncryptablePacket.Fits at fits
  unfold NoWrap
  omega

theorem NoWrap.queuedSize {packet : EncryptablePacket} (noWrap : NoWrap packet) :
    packet.queuedSize = packet.payload.length := by
  unfold NoWrap EncryptablePacket.payload at noWrap
  unfold EncryptablePacket.queuedSize EncryptablePacket.payload
  rw [List.length_drop] at noWrap ⊢
  omega

theorem NoWrap.spaceFor {packet : EncryptablePacket} (noWrap : NoWrap packet) :
    spaceFor packet = packet.header.length + packet.written.length := by
  have size := noWrap.queuedSize
  have header : packet.header.length ≤ 5 := by
    rw [EncryptablePacket.header, ServerPktHeader.header_length]
    exact ServerPktHeader.getHeaderLength_le _
  have written : packet.written.length = packet.payload.length := by
    rw [EncryptablePacket.written, size, List.take_length]
  unfold NoWrap at noWrap
  unfold SendingSocket.spaceFor
  rw [size, written]
  omega

/-- Two writes for which there is space. -/
theorem write_write (valid : buffer.Valid) {header payload : Bytes}
    (space : header.length + payload.length ≤ buffer.getRemainingSpace) :
    ((buffer.write header).write payload).Valid ∧
      ((buffer.write header).write payload).active =
        buffer.active ++ (header ++ payload) := by
  have first : header.length ≤ buffer.getRemainingSpace :=
    (Nat.le_add_right _ _).trans space
  have second : payload.length ≤ (buffer.write header).getRemainingSpace := by
    rw [MessageBuffer.write_remaining valid first]
    exact Nat.le_sub_of_add_le' space
  have between := MessageBuffer.write_valid valid first
  refine ⟨MessageBuffer.write_valid between second, ?_⟩
  rw [MessageBuffer.write_active between second, MessageBuffer.write_active valid first,
    List.append_assoc]

/-- A buffer whose storage has been moved away is used again. -/
theorem moved_valid (buffer : MessageBuffer) (size : Nat) :
    (buffer.move.2.resize size).Valid ∧ (buffer.move.2.resize size).active = [] := by
  have empty : buffer.move.2.Valid := ⟨Nat.le_refl 0, Nat.le_refl 0⟩
  refine ⟨MessageBuffer.resize_valid empty (Nat.zero_le _), ?_⟩
  rw [MessageBuffer.resize_active empty (Nat.zero_le _)]
  rfl

theorem makeSpace_batched {batched : List EncryptablePacket}
    (current : Batched keystream (socket, buffer) batched) (space : Nat) :
    Batched keystream (socket.makeSpace buffer space) batched := by
  unfold makeSpace
  split
  · obtain ⟨valid, empty⟩ := moved_valid buffer defaultBufferSize
    refine ⟨?_, current.position, queuePacket_valid current.valid current.bufferValid, valid⟩
    rw [queuePacket_stream, empty, List.append_nil]
    exact current.stream
  · exact current

/-- Where the space is not enough, the local buffer is a new one. -/
theorem makeSpace_space (socket : SendingSocket) (buffer : MessageBuffer) (space : Nat) :
    space ≤ (socket.makeSpace buffer space).2.getRemainingSpace ∨
      (socket.makeSpace buffer space).2.active = [] := by
  unfold makeSpace
  split
  · exact .inr (moved_valid buffer defaultBufferSize).2
  case isFalse enough => exact .inl (Nat.not_lt.mp enough)

theorem batch_batched {current : SendingSocket × MessageBuffer}
    {batched : List EncryptablePacket} {queued : EncryptablePacket}
    (so : Batched keystream current batched) (noWrap : NoWrap queued) :
    Batched keystream (batch keystream current queued) (batched ++ [queued]) := by
  obtain ⟨socket, buffer⟩ := current
  have header : (encryptSend keystream queued.encrypt socket.position
      queued.header).length = queued.header.length := encryptSend_length keystream _ _ _
  have frames : framesFrom keystream 0 (batched ++ [queued]) =
      framesFrom keystream 0 batched ++
        (encryptSend keystream queued.encrypt socket.position queued.header ++
          queued.written) := by
    rw [framesFrom_append, ← so.position]
    show _ ++ (queued.frame keystream socket.position ++ []) = _
    rw [List.append_nil]
    rfl
  have position : queued.positionAfter socket.position =
      positionAfterAll 0 (batched ++ [queued]) := by
    rw [positionAfterAll_append, ← so.position]
    rfl
  have roomy : Batched keystream (socket.makeSpace buffer (spaceFor queued)) batched :=
    makeSpace_batched so _
  have used : ({ socket with position := queued.positionAfter socket.position }
        : SendingSocket).makeSpace buffer (spaceFor queued) =
      ({ (socket.makeSpace buffer (spaceFor queued)).1 with
          position := queued.positionAfter socket.position },
        (socket.makeSpace buffer (spaceFor queued)).2) := by
    unfold makeSpace
    split <;> rfl
  have fresh := makeSpace_space socket buffer (spaceFor queued)
  have space := noWrap.spaceFor
  unfold batch
  dsimp only
  rw [used]
  generalize socket.makeSpace buffer (spaceFor queued) = current at roomy fresh
  obtain ⟨roomySocket, roomyBuffer⟩ := current
  dsimp only
  split
  case isTrue enough =>
      rw [space, ← header] at enough
      obtain ⟨valid, active⟩ := write_write roomy.bufferValid enough
      refine ⟨?_, position, roomy.valid, valid⟩
      show roomySocket.stream ++ _ = _
      rw [active, ← List.append_assoc, frames, ← roomy.stream]
  case isFalse large =>
      -- the local buffer is a new one, so the packet keeps its place
      have empty : roomyBuffer.active = [] := fresh.resolve_left large
      have sized : (encryptSend keystream queued.encrypt socket.position
            queued.header).length + queued.written.length ≤
          (MessageBuffer.ofSize (spaceFor queued)).getRemainingSpace := by
        rw [MessageBuffer.ofSize_remaining, header, space]
      obtain ⟨valid, active⟩ := write_write (MessageBuffer.ofSize_valid _) sized
      refine ⟨?_, position, queuePacket_valid roomy.valid valid, roomy.bufferValid⟩
      have before := roomy.stream
      dsimp only at before ⊢
      rw [empty, List.append_nil] at before ⊢
      rw [queuePacket_stream, active, MessageBuffer.ofSize_active, List.nil_append, frames,
        ← before]
      rfl

theorem batch_foldl {current : SendingSocket × MessageBuffer}
    {batched : List EncryptablePacket} (queue : List EncryptablePacket)
    (so : Batched keystream current batched)
    (noWrap : ∀ queued ∈ queue, NoWrap queued) :
    Batched keystream (queue.foldl (batch keystream) current) (batched ++ queue) := by
  induction queue generalizing current batched with
  | nil =>
      rw [List.append_nil]
      exact so
  | cons queued rest induction =>
      have next := batch_batched so (noWrap queued (List.mem_cons_self ..))
      rw [List.append_cons]
      exact induction next fun other member => noWrap other (List.mem_cons_of_mem _ member)

/-! ### The fields the loop leaves alone -/

theorem makeSpace_enqueued (socket : SendingSocket) (buffer : MessageBuffer) (space : Nat) :
    (socket.makeSpace buffer space).1.enqueued = socket.enqueued ∧
      (socket.makeSpace buffer space).1.bufferQueue = socket.bufferQueue := by
  unfold makeSpace
  split <;> exact ⟨rfl, rfl⟩

theorem batch_enqueued (current : SendingSocket × MessageBuffer)
    (queued : EncryptablePacket) :
    (batch keystream current queued).1.enqueued = current.1.enqueued ∧
      (batch keystream current queued).1.bufferQueue = current.1.bufferQueue := by
  unfold batch
  dsimp only
  split <;> exact makeSpace_enqueued _ _ _

theorem batch_foldl_enqueued (keystream : Keystream) (current : SendingSocket × MessageBuffer)
    (queue : List EncryptablePacket) :
    (queue.foldl (batch keystream) current).1.enqueued = current.1.enqueued ∧
      (queue.foldl (batch keystream) current).1.bufferQueue = current.1.bufferQueue := by
  induction queue generalizing current with
  | nil => exact ⟨rfl, rfl⟩
  | cons queued rest induction =>
      have first : (batch keystream current queued).1.enqueued = current.1.enqueued ∧
          (batch keystream current queued).1.bufferQueue = current.1.bufferQueue :=
        batch_enqueued current queued
      have later := induction (batch keystream current queued)
      exact ⟨later.1.trans first.1, later.2.trans first.2⟩

/-- After the loop the queue is empty, and its packets are in the stream. -/
theorem batchAll_streams {batched : List EncryptablePacket}
    (streams : Streams keystream socket batched)
    (noWrap : ∀ queued ∈ socket.bufferQueue, NoWrap queued) :
    Streams keystream (socket.batchAll keystream) (batched ++ socket.bufferQueue) ∧
      (socket.batchAll keystream).bufferQueue = [] := by
  have start : Batched keystream
      ({ socket with bufferQueue := [] }, MessageBuffer.ofSize defaultBufferSize) batched := by
    refine ⟨?_, streams.position, streams.valid, MessageBuffer.ofSize_valid _⟩
    rw [MessageBuffer.ofSize_active, List.append_nil]
    exact streams.stream
  have last := batch_foldl socket.bufferQueue start noWrap
  have fields := batch_foldl_enqueued keystream
    ({ socket with bufferQueue := [] }, MessageBuffer.ofSize defaultBufferSize)
    socket.bufferQueue
  unfold batchAll
  dsimp only at fields ⊢
  generalize socket.bufferQueue.foldl (batch keystream) _ = current at last fields
  obtain ⟨left, buffer⟩ := current
  dsimp only at fields ⊢
  have enqueued : left.enqueued = (batched ++ socket.bufferQueue) ++ left.bufferQueue := by
    rw [fields.1, fields.2, List.append_nil]
    exact streams.enqueued
  have size := MessageBuffer.getActiveSize_eq last.bufferValid
  dsimp only at size
  split
  case isTrue =>
      refine ⟨⟨enqueued, ?_, last.position, queuePacket_valid last.valid last.bufferValid⟩,
        fields.2⟩
      rw [queuePacket_stream]
      exact last.stream
  case isFalse none =>
      have empty : buffer.active = [] := by
        rw [size] at none
        exact List.length_eq_zero_iff.mp (Nat.eq_zero_of_not_pos none)
      have stream := last.stream
      dsimp only at stream
      rw [empty, List.append_nil] at stream
      exact ⟨⟨enqueued, stream, last.position, last.valid⟩, fields.2⟩

/-! ### Writing -/

/-- Bytes may go to the socket, but the stream stays what it is. -/
structure SameStream (socket next : SendingSocket) : Prop where
  stream : next.stream = socket.stream
  bufferQueue : next.bufferQueue = socket.bufferQueue
  enqueued : next.enqueued = socket.enqueued
  position : next.position = socket.position
  valid : next.BuffersValid

theorem SameStream.refl (valid : socket.BuffersValid) : SameStream socket socket :=
  ⟨rfl, rfl, rfl, rfl, valid⟩

theorem SameStream.trans {first second third : SendingSocket}
    (left : SameStream first second) (right : SameStream second third) :
    SameStream first third :=
  ⟨right.stream.trans left.stream, right.bufferQueue.trans left.bufferQueue,
    right.enqueued.trans left.enqueued, right.position.trans left.position, right.valid⟩

theorem SameStream.streams {next : SendingSocket} {batched : List EncryptablePacket}
    (same : SameStream socket next) (streams : Streams keystream socket batched) :
    Streams keystream next batched where
  enqueued := by rw [same.enqueued, same.bufferQueue]; exact streams.enqueued
  stream := same.stream.trans streams.stream
  position := same.position.trans streams.position
  valid := same.valid

/-- A buffer leaves the queue only when all its bytes have been taken. -/
theorem handleQueue_sameStream (valid : socket.BuffersValid) {result : WriteResult}
    (regular : result ≠ .failed) : SameStream socket (socket.handleQueue result).1 := by
  unfold handleQueue
  cases queue : socket.writeQueue with
  | nil => exact .refl valid
  | cons queuedMessage rest =>
      have headValid : queuedMessage.Valid := valid _ (queue ▸ List.mem_cons_self ..)
      have restValid : ∀ buffer ∈ rest, buffer.Valid := fun buffer member =>
        valid buffer (queue ▸ List.mem_cons_of_mem _ member)
      have size := MessageBuffer.getActiveSize_eq headValid
      have stream : socket.stream = socket.handedOver ++
          (queuedMessage.active ++ (rest.map MessageBuffer.active).flatten) := by
        rw [SendingSocket.stream, pending, queue]
        rfl
      cases result with
      | failed => exact absurd rfl regular
      | wouldBlock =>
          refine ⟨?_, rfl, rfl, rfl, fun buffer member => valid buffer (queue ▸ member)⟩
          rw [stream]
          rfl
      | accepted more =>
          dsimp only
          rw [size]
          split
          case isTrue nothing =>
              have none : queuedMessage.active = [] := by
                apply List.length_eq_zero_iff.mp
                omega
              refine ⟨?_, rfl, rfl, rfl, restValid⟩
              rw [stream, none]
              simp [SendingSocket.stream, pending]
          split
          case isTrue partly =>
              refine ⟨?_, rfl, rfl, rfl, ?_⟩
              · rw [stream]
                show (_ ++ queuedMessage.active.take _) ++
                  ((queuedMessage.readCompleted _).active ++ _) = _
                rw [MessageBuffer.readCompleted_active, List.append_assoc,
                  ← List.append_assoc (List.take _ _), List.take_append_drop]
              · intro buffer member
                rcases List.mem_cons.mp member with rfl | later
                · exact MessageBuffer.readCompleted_valid headValid partly.le
                · exact restValid buffer later
          case isFalse whole =>
              refine ⟨?_, rfl, rfl, rfl, restValid⟩
              rw [stream]
              show (_ ++ queuedMessage.active.take _) ++ _ = _
              rw [List.take_of_length_le (Nat.not_lt.mp whole), List.append_assoc]
              rfl

theorem handleQueues_sameStream {results : List WriteResult}
    (valid : socket.BuffersValid) (regular : .failed ∉ results) :
    SameStream socket (socket.handleQueues results) := by
  induction results generalizing socket with
  | nil => exact handleQueue_sameStream valid (by simp)
  | cons result results induction =>
      have first : SameStream socket (socket.handleQueue result).1 :=
        handleQueue_sameStream valid (fun same => regular (same ▸ List.mem_cons_self ..))
      unfold handleQueues
      dsimp only
      split
      · exact first.trans (induction first.valid
          (fun member => regular (List.mem_cons_of_mem _ member)))
      · exact first

/-! ## What the client decodes -/

/-- Every packet which is not in the queue any more is in the stream. -/
def Ordered (keystream : Keystream) (socket : SendingSocket) : Prop :=
  ∃ batched, Streams keystream socket batched

theorem Ordered.step (ordered : socket.Ordered keystream) {event : Event}
    (regular : event.Regular)
    (noWrap : ∀ packet ∈ socket.enqueued, NoWrap packet) :
    (socket.step keystream event).Ordered keystream := by
  obtain ⟨batched, streams⟩ := ordered
  cases event with
  | sendPacket packet =>
      refine ⟨batched, ?_, streams.stream, streams.position, streams.valid⟩
      show socket.enqueued ++ [packet] = batched ++ (socket.bufferQueue ++ [packet])
      rw [streams.enqueued, List.append_assoc]
  | update results =>
      have queued : ∀ packet ∈ socket.bufferQueue, NoWrap packet := fun packet member =>
        noWrap packet (streams.enqueued ▸ List.mem_append_right _ member)
      have framed := (batchAll_streams streams queued).1
      show Ordered keystream (socket.update keystream results)
      unfold update
      dsimp only
      split
      · exact ⟨_, framed⟩
      · exact ⟨_, (handleQueues_sameStream framed.valid regular).streams framed⟩
  | writable result =>
      show Ordered keystream (socket.writeHandlerWrapper result)
      unfold writeHandlerWrapper
      split
      · have waiting : Streams keystream { socket with isWritingAsync := false } batched :=
          { streams with }
        exact ⟨batched, (handleQueue_sameStream waiting.valid regular).streams waiting⟩
      · exact ⟨batched, streams⟩

theorem batchAll_enqueued (socket : SendingSocket) :
    (socket.batchAll keystream).enqueued = socket.enqueued ∧
      (socket.batchAll keystream).bufferQueue = [] := by
  have fields := batch_foldl_enqueued keystream
    ({ socket with bufferQueue := [] }, MessageBuffer.ofSize defaultBufferSize)
    socket.bufferQueue
  unfold batchAll
  dsimp only at fields ⊢
  split <;> exact fields

theorem handleQueue_enqueued (socket : SendingSocket) (result : WriteResult) :
    (socket.handleQueue result).1.enqueued = socket.enqueued ∧
      (socket.handleQueue result).1.bufferQueue = socket.bufferQueue := by
  unfold handleQueue
  split
  · exact ⟨rfl, rfl⟩
  dsimp only
  repeat' split
  all_goals exact ⟨rfl, rfl⟩

theorem handleQueues_enqueued (socket : SendingSocket) (results : List WriteResult) :
    (socket.handleQueues results).enqueued = socket.enqueued ∧
      (socket.handleQueues results).bufferQueue = socket.bufferQueue := by
  induction results generalizing socket with
  | nil => exact handleQueue_enqueued socket _
  | cons result results induction =>
      have first := handleQueue_enqueued socket result
      have later := induction (socket.handleQueue result).1
      unfold handleQueues
      dsimp only
      split
      · exact ⟨later.1.trans first.1, later.2.trans first.2⟩
      · exact first

/-- An update frames everything, whatever the socket answers. -/
theorem update_enqueued (socket : SendingSocket) (results : List WriteResult) :
    (socket.update keystream results).enqueued = socket.enqueued ∧
      (socket.update keystream results).bufferQueue = [] := by
  have batched := @batchAll_enqueued keystream socket
  have written := handleQueues_enqueued (socket.batchAll keystream) results
  unfold update
  dsimp only
  split
  · exact batched
  · exact ⟨written.1.trans batched.1, written.2.trans batched.2⟩

theorem step_enqueued (socket : SendingSocket) (event : Event) :
    (socket.step keystream event).enqueued = socket.enqueued ++ packetsOf [event] := by
  cases event with
  | sendPacket packet => rfl
  | update results =>
      show (socket.update keystream results).enqueued = socket.enqueued ++ []
      rw [List.append_nil]
      exact (update_enqueued socket results).1
  | writable result =>
      show (socket.writeHandlerWrapper result).enqueued = socket.enqueued ++ []
      rw [List.append_nil]
      unfold writeHandlerWrapper
      split
      · exact (handleQueue_enqueued _ result).1
      · rfl

theorem run_enqueued (events : List Event) (socket : SendingSocket) :
    (run (step keystream) socket events).enqueued =
      socket.enqueued ++ packetsOf events := by
  induction events generalizing socket with
  | nil => exact (List.append_nil _).symm
  | cons event rest induction =>
      rw [run_cons, induction, step_enqueued, List.append_assoc]
      have joined : packetsOf [event] ++ packetsOf rest = packetsOf (event :: rest) := by
        unfold packetsOf
        rw [← List.filterMap_append]
        rfl
      rw [joined]

/-- What the client decodes from the bytes handed over. -/
def decoded (keystream : Keystream) (socket : SendingSocket) :
    Reading ClientState UInt8 ReceivedPacket :=
  (clientReader keystream).readAll ⟨0, socket.enqueued.map (·.encrypt)⟩ socket.handedOver

/-- Nothing waits in a queue or a buffer. -/
def Flushed (socket : SendingSocket) : Prop :=
  socket.bufferQueue = [] ∧ socket.pending = []

/--
The client decodes what was enqueued, in that order: so far, and what has been handed over and
what lies in buffers is, to its last byte, all that does not wait in the queue.
-/
structure Framed (keystream : Keystream) (socket : SendingSocket) : Prop where
  inOrder : (socket.decoded keystream).values <+: socket.enqueued.map (·.received)
  lossless : ∃ reading, reading = (clientReader keystream).readAll
      ⟨0, socket.enqueued.map (·.encrypt)⟩ (socket.handedOver ++ socket.pending) ∧
    reading.values ++ socket.bufferQueue.map (·.received) = socket.enqueued.map (·.received) ∧
    reading.left = []

theorem Streams.framed {batched : List EncryptablePacket}
    (streams : Streams keystream socket batched)
    (fit : ∀ packet ∈ socket.enqueued, packet.Fits) : Framed keystream socket := by
  have flags : socket.enqueued.map (·.encrypt) =
      batched.map (·.encrypt) ++ socket.bufferQueue.map (·.encrypt) := by
    rw [streams.enqueued, List.map_append]
  have whole : (clientReader keystream).readAll
      ⟨0, socket.enqueued.map (·.encrypt)⟩ socket.stream =
        ⟨batched.map (·.received), ⟨positionAfterAll 0 batched,
          socket.bufferQueue.map (·.encrypt)⟩, []⟩ := by
    rw [flags, streams.stream]
    apply clientReader_readAll
    intro packet member
    exact fit packet (streams.enqueued ▸ List.mem_append_left _ member)
  constructor
  · have sofar : (socket.decoded keystream).values <+: batched.map (·.received) := by
      have longer : (socket.decoded keystream).values <+:
          ((clientReader keystream).readAll ⟨0, socket.enqueued.map (·.encrypt)⟩
            socket.stream).values := FrameReader.readAll_prefix _ _ socket.pending
      rw [whole] at longer
      exact longer
    refine sofar.trans ?_
    rw [streams.enqueued, List.map_append]
    exact List.prefix_append _ _
  · refine ⟨_, whole.symm, ?_, rfl⟩
    rw [streams.enqueued, List.map_append]

/-- What the client has decoded it can express. -/
theorem Framed.fits (framed : Framed keystream socket) (queue : socket.bufferQueue = []) :
    ∀ packet ∈ socket.enqueued, packet.Fits := by
  intro packet member
  obtain ⟨reading, isReading, all, -⟩ := framed.lossless
  have bounded : ∀ received ∈ reading.values, received.payload.length + 2 < 2 ^ 23 := by
    rw [isReading]
    exact FrameReader.readAll_forall clientRead_bounded _ _
  rw [queue, List.map_nil, List.append_nil] at all
  rw [all] at bounded
  exact bounded packet.received (List.mem_map_of_mem member)

/-! ### Nothing stays behind -/

/-- Without packets in the queue there is nothing to frame. -/
theorem batchAll_idle (queue : socket.bufferQueue = []) :
    socket.batchAll keystream = socket := by
  have nothing : (MessageBuffer.ofSize defaultBufferSize).getActiveSize = 0 := by
    rw [MessageBuffer.getActiveSize_eq (MessageBuffer.ofSize_valid _),
      MessageBuffer.ofSize_active]
    rfl
  unfold batchAll
  rw [queue, List.foldl_nil]
  dsimp only
  rw [nothing, if_neg (Nat.lt_irrefl 0), ← queue]

/-- A socket which takes all it is given takes the first buffer. -/
theorem handleQueue_pops (socket : SendingSocket) :
    ∃ more, (socket.handleQueue (.accepted more)).1.writeQueue = socket.writeQueue.tail := by
  cases queue : socket.writeQueue with
  | nil =>
      refine ⟨0, ?_⟩
      unfold handleQueue
      rw [queue]
      exact queue
  | cons buffer rest =>
      refine ⟨buffer.getActiveSize, ?_⟩
      unfold handleQueue
      rw [queue]
      dsimp only
      rw [Nat.min_eq_right (Nat.le_succ _)]
      split_ifs with empty some
      · rfl
      · exact absurd some (Nat.lt_irrefl _)
      · rfl

/-- The socket blocks, and takes the first buffer when it has become writable. -/
theorem update_pops (socket : SendingSocket) :
    ∃ more, ((socket.update keystream []).writeHandlerWrapper (.accepted more)).writeQueue =
      (socket.batchAll keystream).writeQueue.tail := by
  unfold update
  dsimp only
  generalize socket.batchAll keystream = socket
  obtain ⟨more, pops⟩ := handleQueue_pops { socket with isWritingAsync := false }
  refine ⟨more, ?_⟩
  cases queue : socket.writeQueue with
  | nil =>
      rw [if_pos (by simp)]
      unfold writeHandlerWrapper
      split_ifs
      · exact pops.trans (congrArg List.tail queue)
      · exact queue
  | cons buffer rest =>
      have blocked : (if socket.isWritingAsync || (buffer :: rest).isEmpty then socket
          else socket.handleQueues []) = { socket with isWritingAsync := true } := by
        cases writing : socket.isWritingAsync with
        | true => rw [Bool.true_or, if_pos rfl, ← writing]
        | false =>
            rw [List.isEmpty_cons, Bool.or_self, if_neg Bool.false_ne_true]
            unfold handleQueues handleQueue
            rw [queue]
      rw [blocked]
      exact pops.trans (congrArg List.tail queue)

/-- Some updates later everything has been handed over. -/
theorem flushes (socket : SendingSocket) :
    ∃ later, packetsOf later = [] ∧ (∀ event ∈ later, event.Regular) ∧
      Flushed (run (step keystream) socket later) := by
  generalize left : (socket.batchAll keystream).writeQueue.length = count
  induction count generalizing socket with
  | zero =>
      have none := List.length_eq_zero_iff.mp left
      have same : socket.update keystream [] = socket.batchAll keystream := by
        unfold update
        dsimp only
        rw [if_pos (by simp [none])]
      refine ⟨[.update []], rfl, by simp [Event.Regular], ?_⟩
      show Flushed (socket.update keystream [])
      rw [same]
      exact ⟨(batchAll_enqueued socket).2, by rw [pending, none]; rfl⟩
  | succ count induction =>
      obtain ⟨more, pops⟩ := @update_pops keystream socket
      have empty : ((socket.update keystream []).writeHandlerWrapper
          (.accepted more)).bufferQueue = [] := by
        have framed : (socket.update keystream []).bufferQueue = [] := (update_enqueued socket []).2
        unfold writeHandlerWrapper
        split_ifs
        · exact (handleQueue_enqueued _ _).2.trans framed
        · exact framed
      obtain ⟨later, quiet, regular, flushed⟩ := induction _ (by
        rw [batchAll_idle empty, pops, List.length_tail, left]
        rfl)
      refine ⟨.update [] :: .writable (.accepted more) :: later, quiet, ?_, flushed⟩
      simpa [Event.Regular] using regular

end SendingSocket

open SendingSocket

/-- One step keeps the stream in order, and the packets within the format. -/
theorem orderly_step (socket : SendingSocket) (event : SendingSocket.Event)
    (orderly : socket.Ordered keystream ∧ ∀ packet ∈ socket.enqueued, packet.Fits)
    (regular : event.Regular ∧ ∀ packet ∈ packetsOf [event], packet.Fits) :
    (socket.step keystream event).Ordered keystream ∧
      ∀ packet ∈ (socket.step keystream event).enqueued, packet.Fits := by
  refine ⟨orderly.1.step regular.1 fun packet member =>
    noWrap_of_fits (orderly.2 packet member), ?_⟩
  rw [step_enqueued]
  intro packet member
  rcases List.mem_append.mp member with old | new
  · exact orderly.2 packet old
  · exact regular.2 packet new

/--
Packets whose size fits beside the flag are decoded as they were enqueued, in every run; and when
they have been framed they all have to fit.  Every update frames what is queued, and every run
can go on until all has been handed over.
-/
theorem framed_iff (events : List SendingSocket.Event)
    (regular : ∀ event ∈ events, event.Regular) :
    ((∀ packet ∈ packetsOf events, packet.Fits) →
        Throughout (step keystream) (Framed keystream) {} events) ∧
      ((run (step keystream) {} events).bufferQueue = [] →
        (Framed keystream (run (step keystream) {} events) ↔
          ∀ packet ∈ packetsOf events, packet.Fits)) ∧
      (run (step keystream) {} events).enqueued = packetsOf events ∧
      (∀ results, (run (step keystream) {} (events ++ [.update results])).bufferQueue = []) ∧
      ∃ later, packetsOf later = [] ∧ (∀ event ∈ later, event.Regular) ∧
        Flushed (run (step keystream) {} (events ++ later)) := by
  have enqueued : (run (step keystream) {} events).enqueued = packetsOf events :=
    run_enqueued events {}
  have forward : (∀ packet ∈ packetsOf events, packet.Fits) →
      Throughout (step keystream) (Framed keystream) {} events := by
    intro fit
    have each : ∀ event ∈ events,
        event.Regular ∧ ∀ packet ∈ packetsOf [event], packet.Fits := by
      intro event member
      refine ⟨regular event member, fun packet sent => fit packet ?_⟩
      obtain ⟨same, one, is⟩ := List.mem_filterMap.mp sent
      rw [List.mem_singleton.mp one] at is
      exact List.mem_filterMap.mpr ⟨event, member, is⟩
    have start : Ordered keystream {} ∧ ∀ packet ∈ ({} : SendingSocket).enqueued,
        packet.Fits :=
      ⟨⟨[], rfl, rfl, rfl, by simp [BuffersValid]⟩, by simp⟩
    apply (throughout_of_invariant (orderly_step keystream) start
      (everyStep_iff_forall.mpr each)).mono
    rintro socket ⟨⟨batched, streams⟩, fits⟩
    exact streams.framed fits
  refine ⟨forward, fun framed => ⟨fun holds => ?_, fun fit => (forward fit).last⟩,
    enqueued, ?_, ?_⟩
  · exact enqueued ▸ holds.fits framed
  · intro results
    rw [run_append]
    exact (update_enqueued _ results).2
  · simp only [run_append]
    exact flushes _

/-- An encrypted packet of which one byte has been skipped. -/
def shortPacket : EncryptablePacket where
  opcode := 0x1DD
  contents := [1, 2, 3]
  rpos := 1
  encrypt := true

/-- The socket takes two bytes, blocks, and takes the rest later. -/
def partialWrites : List SendingSocket.Event :=
  [.sendPacket shortPacket, .update [.accepted 1, .wouldBlock], .writable (.accepted 100)]

theorem partialWrites_framed :
    Throughout (step UInt8.ofNat) (Framed UInt8.ofNat) {} partialWrites := by
  have regular : ∀ event ∈ partialWrites, event.Regular := by
    simp [partialWrites, SendingSocket.Event.Regular]
  have fit : ∀ packet ∈ packetsOf partialWrites, packet.Fits := by
    rintro packet member
    rw [show packetsOf partialWrites = [shortPacket] from rfl, List.mem_singleton] at member
    subst member
    decide
  exact (framed_iff UInt8.ofNat partialWrites regular).1 fit

/-! ## A packet that does not fit -/

/-- A packet whose size needs the bit of the flag. -/
def longPacket : EncryptablePacket where
  opcode := 0
  contents := List.replicate (2 ^ 23 - 2) 0
  readable := Nat.zero_le _

theorem longPacket_length : longPacket.payload.length = 2 ^ 23 - 2 := by
  unfold EncryptablePacket.payload longPacket
  rw [List.drop_zero, List.length_replicate]

/-- No stream announces such a size. -/
theorem decoded_ne {packet : EncryptablePacket} (long : 2 ^ 23 ≤ packet.payload.length + 2)
    (socket : SendingSocket) : (socket.decoded keystream).values ≠ [packet.received] := by
  intro got
  have bounded : ∀ received ∈ (socket.decoded keystream).values,
      received.payload.length + 2 < 2 ^ 23 := FrameReader.readAll_forall clientRead_bounded _ _
  rw [got] at bounded
  exact absurd (bounded packet.received (List.mem_singleton.mpr rfl)) (Nat.not_lt.mpr long)

/-- When all has been handed over, the client does not get the long packet. -/
theorem longPacket_lost :
    ∃ later, packetsOf later = [] ∧ (∀ event ∈ later, event.Regular) ∧
      Flushed (run (step fun _ => 0) {} (.sendPacket longPacket :: later)) ∧
      ((run (step fun _ => 0) {} (.sendPacket longPacket :: later)).decoded fun _ => 0).values ≠
        [longPacket.received] := by
  have long : 2 ^ 23 ≤ longPacket.payload.length + 2 := by
    rw [longPacket_length]
    decide
  obtain ⟨later, quiet, regular, flushed⟩ :=
    flushes (SendingSocket.step (fun _ => 0) {} (.sendPacket longPacket))
  exact ⟨later, quiet, regular, flushed, decoded_ne _ long _⟩

end RealmServer.Network
