import RealmServer.Network.ServerPackets

/-!
# Packets from the client

A packet from the client has a header of six bytes, the size in big endian and
the opcode in little endian, and a payload.  `Receiver` is what `WorldSocket`
knows apart from its buffers: the cipher, whether somebody has logged in, and
whether the socket is open.  `decryptions` and `delivered` are not in the
source; they count the headers which have been decrypted, and remember the
packets `ReadDataHandler` has got.

`packetReader` takes the packets off a stream that lies there as a whole.  It
says what receiving is for: the pause after `CMSG_AUTH_SESSION` is no more than
the step of its callback.
-/

namespace RealmServer.Network

open Framing

/-! ## Headers and packets -/

structure ClientPacket where
  opcode : Nat
  payload : Bytes
deriving DecidableEq, Repr

structure ClientPktHeader where
  size : Nat
  cmd : Nat
deriving DecidableEq, Repr

/-- `sizeof(ClientPktHeader)`, packed. -/
def sizeofClientPktHeader : Nat := 6

def numMsgTypes : Nat := 0x51F

def cmsgPing : Nat := 0x1DC
def cmsgAuthSession : Nat := 0x1ED
def cmsgKeepAlive : Nat := 0x407

namespace ClientPktHeader

/-- The fields of a decrypted header. -/
def ofBytes : Bytes → ClientPktHeader
  | [sizeHigh, sizeLow, first, second, third, fourth] =>
      { size := sizeHigh.toNat * 256 + sizeLow.toNat
        cmd := first.toNat + 256 * (second.toNat + 256 *
          (third.toNat + 256 * fourth.toNat)) }
  | _ => { size := 0, cmd := 0 }

def isValidSize (header : ClientPktHeader) : Bool :=
  4 ≤ header.size && header.size < 10240

def isValidOpcode (header : ClientPktHeader) : Bool := header.cmd < numMsgTypes

/-- The header passes the checks of `ReadHeaderHandler`. -/
def isValid (header : ClientPktHeader) : Bool :=
  header.isValidSize && header.isValidOpcode

/-- The size without the opcode. -/
def payloadSize (header : ClientPktHeader) : Nat := header.size - 4

/-- `uint16(header->cmd)`. -/
def opcode (header : ClientPktHeader) : Nat := header.cmd % 2 ^ 16

end ClientPktHeader

/-! ## The receiver -/

/-- What `HandleAuthSessionCallback` comes to. -/
inductive AuthOutcome where
  /-- There is no such account; the cipher stays off. -/
  | unknownAccount
  | rejected
  | accepted
deriving DecidableEq, Repr

/-- What decides about packets beside the packets themselves. -/
structure ReceiverEnvironment where
  /-- The keystream of the client. -/
  keystream : Keystream
  /-- Whether a ping after these packets gets its session kicked. -/
  overSpeed : List ClientPacket → Bool
  /-- What the account query says about the last of these packets. -/
  authOutcome : List ClientPacket → AuthOutcome

inductive ReadDataHandlerResult where
  | ok
  | error
  | waitingForQuery
deriving DecidableEq, Repr

structure Receiver where
  /-- `_authCrypt` is on, and how much of its keystream it has used. -/
  initialized : Bool := false
  position : Nat := 0
  authed : Bool := false
  /-- Whether there is a `_worldSession`. -/
  worldSession : Bool := false
  closed : Bool := false
  closing : Bool := false
  decryptions : Nat := 0
  delivered : List ClientPacket := []
deriving DecidableEq, Repr

namespace Receiver

variable (environment : ReceiverEnvironment) (receiver : Receiver)

def isOpen : Bool := !receiver.closed && !receiver.closing

def closeSocket : Receiver := { receiver with closed := true }

/-- The bytes `DecryptRecv` leaves in the place of a header. -/
def decryptRecv (header : Bytes) : Bytes :=
  if receiver.initialized then updateData environment.keystream receiver.position header
  else header

/-- The receiver after `DecryptRecv`. -/
def afterHeader : Receiver :=
  { receiver with
    position :=
      if receiver.initialized then receiver.position + sizeofClientPktHeader
      else receiver.position
    decryptions := receiver.decryptions + 1 }

/-- `HandleAuthSession` gets all its fields out of the packet. -/
def authSessionReadable (payload : Bytes) : Bool :=
  8 ≤ payload.length &&
    48 ≤ (((payload.drop 8).dropWhile (· != 0)).drop 1).length

/-- `ReadDataHandler`, on the receiver which has got the packet. -/
def readDataHandlerResult (packet : ClientPacket) : ReadDataHandlerResult :=
  if packet.opcode = cmsgPing then
    if packet.payload.length < 8 then .error
    else if !receiver.worldSession then .error
    else if environment.overSpeed receiver.delivered then .error
    else .ok
  else if packet.opcode = cmsgAuthSession then
    if receiver.authed then .error
    else if authSessionReadable packet.payload then .waitingForQuery
    else .error
  else if packet.opcode = cmsgKeepAlive then .ok
  else if receiver.worldSession then .ok
  else .error

/-- The packet arrives at `ReadDataHandler`. -/
def deliver (packet : ClientPacket) : Receiver :=
  { receiver with delivered := receiver.delivered ++ [packet] }

/-- `HandleAuthSessionCallback`: a failed login closes the socket with delay. -/
def authSessionCallback : Receiver :=
  match environment.authOutcome receiver.delivered with
  | .unknownAccount => { receiver with closing := true }
  | .rejected => { receiver with initialized := true, closing := true }
  | .accepted => { receiver with initialized := true, authed := true, worldSession := true }

/-- What becomes of the receiver once the packet has been dealt with. -/
def finish (packet : ClientPacket) : Receiver :=
  match receiver.readDataHandlerResult environment packet with
  | .ok => receiver.deliver packet
  | .error => (receiver.deliver packet).closeSocket
  | .waitingForQuery => (receiver.deliver packet).authSessionCallback environment

end Receiver

/-! ## The whole stream -/

/-- The header at the front of a stream. -/
def headerOf (environment : ReceiverEnvironment) (receiver : Receiver) (bytes : Bytes) :
    ClientPktHeader :=
  .ofBytes (receiver.decryptRecv environment (bytes.take sizeofClientPktHeader))

/-- The payload behind the header. -/
def payloadOf (environment : ReceiverEnvironment) (receiver : Receiver) (bytes : Bytes) :
    Bytes :=
  (bytes.drop sizeofClientPktHeader).take (headerOf environment receiver bytes).payloadSize

/--
Take one packet off the stream; `none` stands for a malformed header, behind
which nothing is read any more.
-/
def readPacket (environment : ReceiverEnvironment) (receiver : Receiver) (bytes : Bytes) :
    Option (Option ClientPacket × Receiver × Bytes) :=
  let header := headerOf environment receiver bytes
  if receiver.isOpen = false ∨ bytes.length < sizeofClientPktHeader then none
  else if header.isValid = false then
    some (none, receiver.afterHeader.closeSocket, bytes.drop sizeofClientPktHeader)
  else if bytes.length < sizeofClientPktHeader + header.payloadSize then none
  else
    let packet : ClientPacket := ⟨header.opcode, payloadOf environment receiver bytes⟩
    some (some packet, receiver.afterHeader.finish environment packet,
      bytes.drop (sizeofClientPktHeader + header.payloadSize))

variable {environment : ReceiverEnvironment} {receiver next : Receiver}
  {bytes rest : Bytes} {packet : Option ClientPacket}

theorem headerOf_append (whole : sizeofClientPktHeader ≤ bytes.length) (more : Bytes) :
    headerOf environment receiver (bytes ++ more) = headerOf environment receiver bytes := by
  unfold headerOf
  rw [List.take_append_of_le_length whole]

theorem readPacket_shorter
    (found : readPacket environment receiver bytes = some (packet, next, rest)) :
    rest.length < bytes.length := by
  unfold readPacket at found
  dsimp only at found
  split at found
  · exact absurd found (by simp)
  case isFalse whole =>
  simp only [not_or, Nat.not_lt] at whole
  have size : 0 < sizeofClientPktHeader := by decide
  split at found
  · simp only [Option.some.injEq, Prod.mk.injEq] at found
    rw [← found.2.2, List.length_drop]
    omega
  split at found
  · exact absurd found (by simp)
  · simp only [Option.some.injEq, Prod.mk.injEq] at found
    rw [← found.2.2, List.length_drop]
    omega

theorem headerOf_take {count : Nat} (enough : sizeofClientPktHeader ≤ count) :
    headerOf environment receiver (bytes.take count) =
      headerOf environment receiver bytes := by
  unfold headerOf
  rw [List.take_take, Nat.min_eq_left enough]

theorem readPacket_alone
    (found : readPacket environment receiver bytes = some (packet, next, rest)) :
    ∃ frame, bytes = frame ++ rest ∧
      readPacket environment receiver frame = some (packet, next, []) := by
  unfold readPacket at found
  dsimp only at found
  split at found
  · exact absurd found (by simp)
  case isFalse whole =>
  simp only [not_or, Nat.not_lt] at whole
  have isOpen : ∀ {frame : Bytes}, sizeofClientPktHeader ≤ frame.length →
      ¬ (receiver.isOpen = false ∨ frame.length < sizeofClientPktHeader) := by
    rintro frame enough (closed | short)
    · exact whole.1 closed
    · exact Nat.not_le.mpr short enough
  split at found
  case isTrue malformed =>
      simp only [Option.some.injEq, Prod.mk.injEq] at found
      obtain ⟨rfl, rfl, rfl⟩ := found
      have length : (bytes.take sizeofClientPktHeader).length = sizeofClientPktHeader :=
        List.length_take_of_le whole.2
      refine ⟨bytes.take sizeofClientPktHeader, (List.take_append_drop _ _).symm, ?_⟩
      unfold readPacket
      dsimp only
      rw [if_neg (isOpen length.ge), headerOf_take (Nat.le_refl _), if_pos malformed,
        List.drop_eq_nil_of_le length.le]
  case isFalse valid =>
  split at found
  · exact absurd found (by simp)
  case isFalse available =>
      simp only [Option.some.injEq, Prod.mk.injEq] at found
      obtain ⟨rfl, rfl, rfl⟩ := found
      have length := List.length_take_of_le (Nat.not_lt.mp available)
      have header : headerOf environment receiver (bytes.take (sizeofClientPktHeader +
          (headerOf environment receiver bytes).payloadSize)) =
            headerOf environment receiver bytes := headerOf_take (Nat.le_add_right _ _)
      have payload : payloadOf environment receiver (bytes.take (sizeofClientPktHeader +
          (headerOf environment receiver bytes).payloadSize)) =
            payloadOf environment receiver bytes := by
        unfold payloadOf
        rw [header, List.drop_take, Nat.add_sub_cancel_left, List.take_take, Nat.min_self]
      refine ⟨_, (List.take_append_drop (sizeofClientPktHeader +
        (headerOf environment receiver bytes).payloadSize) bytes).symm, ?_⟩
      unfold readPacket
      dsimp only
      rw [if_neg (isOpen (Nat.le_of_add_right_le length.ge)), header, if_neg valid, length,
        if_neg (Nat.lt_irrefl _), payload, List.drop_eq_nil_of_le length.le]

theorem readPacket_extend
    (found : readPacket environment receiver bytes = some (packet, next, rest))
    (more : Bytes) :
    readPacket environment receiver (bytes ++ more) = some (packet, next, rest ++ more) := by
  unfold readPacket at found ⊢
  dsimp only at found ⊢
  split at found
  · exact absurd found (by simp)
  case isFalse whole =>
  simp only [not_or, Nat.not_lt] at whole
  have longer : bytes.length ≤ (bytes ++ more).length := by
    rw [List.length_append]
    exact Nat.le_add_right _ _
  have still : ¬ (receiver.isOpen = false ∨
      (bytes ++ more).length < sizeofClientPktHeader) := by
    rintro (closed | short)
    · exact whole.1 closed
    · exact Nat.not_le.mpr short (whole.2.trans longer)
  rw [if_neg still, headerOf_append whole.2]
  split at found
  case isTrue malformed =>
      simp only [Option.some.injEq, Prod.mk.injEq] at found
      obtain ⟨rfl, rfl, rfl⟩ := found
      rw [if_pos malformed, List.drop_append_of_le_length whole.2]
  case isFalse valid =>
  split at found
  · exact absurd found (by simp)
  case isFalse available =>
      simp only [Option.some.injEq, Prod.mk.injEq] at found
      obtain ⟨rfl, rfl, rfl⟩ := found
      have enough := Nat.not_lt.mp available
      have payload : payloadOf environment receiver (bytes ++ more) =
          payloadOf environment receiver bytes := by
        unfold payloadOf
        rw [headerOf_append whole.2, List.drop_append_of_le_length whole.2,
          List.take_append_of_le_length]
        rw [List.length_drop]
        omega
      rw [if_neg valid, if_neg (Nat.not_lt.mpr (enough.trans longer)), payload,
        List.drop_append_of_le_length enough]

/-- The packets of a stream, and the receiver that has got them. -/
def packetReader (environment : ReceiverEnvironment) :
    FrameReader Receiver UInt8 (Option ClientPacket) where
  read := readPacket environment
  shorter := readPacket_shorter
  alone := readPacket_alone
  extend := readPacket_extend

/-- A socket that is not open reads nothing. -/
theorem readPacket_closed (closed : receiver.isOpen = false) :
    readPacket environment receiver bytes = none :=
  if_pos (.inl closed)

theorem readPacket_short (short : bytes.length < sizeofClientPktHeader) :
    readPacket environment receiver bytes = none :=
  if_pos (.inr short)

theorem readPacket_nil : readPacket environment receiver [] = none :=
  readPacket_short (by decide)

/-- A packet is dealt with, a malformed header closes the socket. -/
def Receiver.after (environment : ReceiverEnvironment) (receiver : Receiver) :
    Option ClientPacket → Receiver
  | some packet => receiver.afterHeader.finish environment packet
  | none => receiver.afterHeader.closeSocket

theorem readPacket_next
    (found : readPacket environment receiver bytes = some (packet, next, rest)) :
    next = receiver.after environment packet := by
  unfold readPacket at found
  dsimp only at found
  split at found
  · exact absurd found (by simp)
  split at found
  · simp only [Option.some.injEq, Prod.mk.injEq] at found
    obtain ⟨rfl, rfl, _⟩ := found
    rfl
  split at found
  · exact absurd found (by simp)
  · simp only [Option.some.injEq, Prod.mk.injEq] at found
    obtain ⟨rfl, rfl, _⟩ := found
    rfl

namespace Receiver

/-! ## Logging in -/

variable {received : ClientPacket}

theorem finish_delivered :
    (receiver.finish environment received).delivered = receiver.delivered ++ [received] := by
  unfold finish
  split
  · rfl
  · rfl
  · unfold authSessionCallback
    split <;> rfl

theorem finish_authed (authed : receiver.authed = true) :
    (receiver.finish environment received).authed = true := by
  unfold finish
  split
  · exact authed
  · exact authed
  · unfold authSessionCallback
    split
    · exact authed
    · exact authed
    · rfl

/-- Who is logged in cannot log in again. -/
theorem finish_again (authed : receiver.authed = true)
    (opcode : received.opcode = cmsgAuthSession) :
    (receiver.finish environment received).isOpen = false := by
  have result : receiver.readDataHandlerResult environment received = .error := by
    unfold readDataHandlerResult
    rw [opcode, if_neg (by decide), if_pos rfl, if_pos authed]
  unfold finish
  rw [result]
  rfl

theorem opcode_of_waiting
    (waits : receiver.readDataHandlerResult environment received = .waitingForQuery) :
    received.opcode = cmsgAuthSession := by
  unfold readDataHandlerResult at waits
  by_contra other
  rw [if_neg other] at waits
  repeat' split at waits
  all_goals exact absurd waits (by decide)

/-- No `CMSG_AUTH_SESSION` is dealt with at once. -/
theorem opcode_of_ok (ok : receiver.readDataHandlerResult environment received = .ok) :
    received.opcode ≠ cmsgAuthSession := by
  intro opcode
  unfold readDataHandlerResult at ok
  rw [opcode, if_neg (by decide), if_pos rfl] at ok
  repeat' split at ok
  all_goals exact absurd ok (by decide)

/-- Behind a `CMSG_AUTH_SESSION` the socket is open only after a login. -/
theorem finish_accepted (opcode : received.opcode = cmsgAuthSession)
    (still : (receiver.finish environment received).isOpen = true) :
    (receiver.finish environment received).authed = true := by
  unfold finish at still ⊢
  cases result : receiver.readDataHandlerResult environment received with
  | ok => exact absurd opcode (opcode_of_ok result)
  | error =>
      rw [result] at still
      exact absurd still Bool.false_ne_true
  | waitingForQuery =>
      rw [result] at still
      dsimp only at still ⊢
      unfold authSessionCallback at still ⊢
      split at still
      · exact absurd still (by simp [isOpen])
      · exact absurd still (by simp [isOpen])
      · rfl

end Receiver

end RealmServer.Network
