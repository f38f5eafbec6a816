import RealmServer.Lib.Transition
import RealmServer.Network.ClientPackets

/-!
# The packets of a session

The network thread puts packets into the queue of a session; the world and the
map of the player take them off again, each with a filter of its own.  A packet
which the filter does not let through, or which comes before its player is in
the game, goes back to the front of the queue at the end of the run.

A handler may take the player out of the game or move him in and out of the
world, but it does not bring one into the game: `SetPlayer` is called for a
player who was loaded, and that happens in `Update`.
-/

namespace RealmServer.Sessions

open Network

/-! ## Opcodes -/

inductive SessionStatus where
  | authed
  | loggedIn
  | transfer
  | loggedInOrRecentlyLoggout
  | never
  | unhandled
deriving DecidableEq, Repr

inductive PacketProcessing where
  | inplace
  | threadUnsafe
  | threadSafeMap
deriving DecidableEq, Repr

/-- An entry of `opcodeTable`. -/
structure OpcodeHandler where
  status : SessionStatus
  packetProcessing : PacketProcessing
deriving DecidableEq, Repr

abbrev OpcodeTable := Nat → OpcodeHandler

def cmsgCharEnum : Nat := 0x037

def cmsgLogoutRequest : Nat := 0x04B

def cmsgRequestAccountData : Nat := 0x20A

/-! ## Sessions -/

/-- A packet in the queue.  The number is not in the source, it tells equal packets apart. -/
structure Received where
  number : Nat
  packet : ClientPacket
deriving DecidableEq, Repr

inductive Filter where
  | map
  | world
deriving DecidableEq, Repr

/-- What a run does with a packet it has taken. -/
inductive Outcome where
  /-- The filter does not let it through. -/
  | setAside
  | reAdded
  /-- The check of the opcode status does not let it through. -/
  | refused
  | handled
deriving DecidableEq, Repr

structure Taken where
  run : Nat
  filter : Filter
  received : Received
  outcome : Outcome
deriving DecidableEq, Repr

structure SessionFlags where
  playerRecentlyLogout : Bool
  playerLogout : Bool
  inQueue : Bool
  commandExecuting : Bool
deriving DecidableEq, Repr

structure WorldSession where
  /-- `m_Socket` is set, and `IsOpen`. -/
  socket : Bool
  socketOpen : Bool
  /-- `GetPlayer`, and whether he `IsInWorld`. -/
  player : Option Bool
  flags : SessionFlags
  dropIncoming : Bool
  recvQueue : List Received
  /-- How many packets `QueuePacket` has put into the queue. -/
  accepted : Nat
  /-- How often `HandlePackets` has run. -/
  runs : Nat
  /-- The packets taken off the queue, the latest first. -/
  history : List Taken
deriving DecidableEq, Repr

structure Antiflood where
  active : Bool
  minActive : Nat
  maxActive : Nat
  maxProcess : Nat
deriving DecidableEq, Repr

/-- What a handler does to the session. -/
structure Handling where
  /-- What becomes of a player who is in the world, or is not. -/
  player : Bool → Option Bool
  flags : SessionFlags → SessionFlags
  /-- A `ByteBufferException`. -/
  throws : Bool

/-- What happens while a run takes one packet. -/
structure Round where
  /-- Packets which come in before. -/
  arrivals : List ClientPacket
  handling : Handling

/-- `Process` of the two filters. -/
def Filter.process (filter : Filter) (opcodeTable : OpcodeTable) (session : WorldSession)
    (packet : ClientPacket) : Bool :=
  let processing := (opcodeTable packet.opcode).packetProcessing
  match filter with
  | .map =>
      match processing with
      | .inplace => true
      -- we do not process thread-unsafe packets
      | .threadUnsafe => false
      | .threadSafeMap => session.player == some true
  | .world =>
      if session.flags.commandExecuting then false
      else
        match processing with
        | .inplace => true
        | .threadUnsafe => true
        -- lets process all packets for non-in-the-world player
        | .threadSafeMap => session.player != some true

namespace WorldSession

/-- `_recvQueue.add`. -/
def add (session : WorldSession) (packet : ClientPacket) : WorldSession :=
  { session with
    recvQueue := session.recvQueue ++ [⟨session.accepted, packet⟩]
    accepted := session.accepted + 1 }

/-- The antiflood switch, and whether it drops the packet. -/
def switchDrop (antiflood : Antiflood) (session : WorldSession) : Bool × WorldSession :=
  if antiflood.active then
    if session.dropIncoming then
      if session.recvQueue.length ≤ antiflood.minActive then
        (false, { session with dropIncoming := false })
      else (true, session)
    else if antiflood.maxActive ≤ session.recvQueue.length then
      -- this packet is still taken
      (false, { session with dropIncoming := true })
    else (false, session)
  else (false, session)

def queuePacket (antiflood : Antiflood) (session : WorldSession) (packet : ClientPacket) :
    WorldSession :=
  let (dropped, session) := session.switchDrop antiflood
  if dropped then session
  else if numMsgTypes ≤ packet.opcode then session
  else session.add packet

/-- `KickPlayer` leaves `m_Socket` set. -/
def kickPlayer (session : WorldSession) : WorldSession :=
  if session.socket then { session with socketOpen := false } else session

/-- The handler of an opcode, in the `try` block. -/
def runHandler (handling : Handling) (session : WorldSession) : WorldSession × Outcome :=
  let session := { session with
    player := session.player.bind handling.player
    flags := handling.flags session.flags }
  (if handling.throws then session.kickPlayer else session, .handled)

/-- The `switch` over the status of the opcode. -/
def handlePacket (opcodeTable : OpcodeTable) (handling : Handling) (session : WorldSession)
    (packet : ClientPacket) : WorldSession × Outcome :=
  match (opcodeTable packet.opcode).status with
  | .loggedIn =>
      match session.player with
      | none => (session, if session.flags.playerRecentlyLogout then .refused else .reAdded)
      -- lag can cause STATUS_LOGGEDIN opcodes to arrive after the player started a transfer
      | some inWorld => if inWorld then session.runHandler handling else (session, .refused)
  | .loggedInOrRecentlyLoggout =>
      if session.player.isNone && !session.flags.playerRecentlyLogout &&
          !session.flags.playerLogout then
        (session, .refused)
      else session.runHandler handling
  | .transfer =>
      match session.player with
      | none => (session, .refused)
      | some inWorld => if inWorld then (session, .refused) else session.runHandler handling
  | .authed =>
      if session.flags.inQueue then (session, .refused)
      else if packet.opcode = cmsgCharEnum then
        { session with
          flags := { session.flags with playerRecentlyLogout := false } }.runHandler handling
      else session.runHandler handling
  | .never => (session.kickPlayer, .refused)
  | .unhandled => (session, .refused)

def record (session : WorldSession) (filter : Filter) (received : Received) (outcome : Outcome) :
    WorldSession :=
  { session with history := ⟨session.runs, filter, received, outcome⟩ :: session.history }

/-- One packet taken off the queue, with whether it is kept in `requeuePackets`. -/
def takePacket (opcodeTable : OpcodeTable) (filter : Filter) (handling : Handling)
    (session : WorldSession) (received : Received) : WorldSession × Bool :=
  if filter.process opcodeTable session received.packet then
    let (session, outcome) := session.handlePacket opcodeTable handling received.packet
    (session.record filter received outcome, outcome == .reAdded)
  else (session.record filter received .setAside, true)

/-- The loop; the first number is `handled`, the second one counts the rounds. -/
def handleRounds (opcodeTable : OpcodeTable) (antiflood : Antiflood) (filter : Filter)
    (rounds : Nat → Round) :
    Nat → Nat → WorldSession → List Received → WorldSession × List Received
  | 0, _, session, requeuePackets => (session, requeuePackets)
  | handled + 1, round, session, requeuePackets =>
      if !session.socket then (session, requeuePackets)
      else
        let session := (rounds round).arrivals.foldl (queuePacket antiflood) session
        match session.recvQueue with
        | [] => (session, requeuePackets)
        | received :: rest =>
            let (session, requeued) := { session with recvQueue := rest }.takePacket opcodeTable
              filter (rounds round).handling received
            handleRounds opcodeTable antiflood filter rounds handled (round + 1) session
              (if requeued then requeuePackets ++ [received] else requeuePackets)

/-- `_recvQueue.readd_move`. -/
def readdMove (session : WorldSession) (requeuePackets : List Received) : WorldSession :=
  { session with recvQueue := requeuePackets ++ session.recvQueue }

/-- `HandlePackets`; more packets come in before the others are put back. -/
def handlePackets (opcodeTable : OpcodeTable) (antiflood : Antiflood) (filter : Filter)
    (rounds : Nat → Round) (atEnd : List ClientPacket) (session : WorldSession) : WorldSession :=
  let handled := if antiflood.active then antiflood.maxProcess else 2 ^ 32 - 1
  let (session, requeuePackets) :=
    handleRounds opcodeTable antiflood filter rounds handled 0 session []
  let session := (atEnd.foldl (queuePacket antiflood) session).readdMove requeuePackets
  { session with runs := session.runs + 1 }

end WorldSession

/-- What happens to a session. -/
inductive Event where
  | queuePacket (antiflood : Antiflood) (packet : ClientPacket)
  | handlePackets (antiflood : Antiflood) (filter : Filter) (rounds : Nat → Round)
      (atEnd : List ClientPacket)
  /-- Between the runs the player may enter and leave the world and the game. -/
  | changePlayer (player : Option Bool) (flags : SessionFlags)
  | closeSocket
  /-- `Update` forgets a closed socket. -/
  | dropSocket

namespace WorldSession

def step (opcodeTable : OpcodeTable) (session : WorldSession) : Event → WorldSession
  | .queuePacket antiflood packet => session.queuePacket antiflood packet
  | .handlePackets antiflood filter rounds atEnd =>
      session.handlePackets opcodeTable antiflood filter rounds atEnd
  | .changePlayer player flags => { session with player, flags }
  | .closeSocket => { session with socketOpen := false }
  | .dropSocket =>
      if session.socket && !session.socketOpen then { session with socket := false } else session

/-- A session that has not received anything. -/
def start (session : WorldSession) : WorldSession :=
  { session with dropIncoming := false, recvQueue := [], accepted := 0, runs := 0, history := [] }

end WorldSession

end RealmServer.Sessions
