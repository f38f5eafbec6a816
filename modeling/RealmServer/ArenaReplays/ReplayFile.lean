import RealmServer.Lib.InputStream
import RealmServer.ArenaReplays.ReplayData

/-!
# Replays on disk

`SaveToFile` writes a replay section by section and `LoadFromFile` reads it back,
each entry of a section with its size in front.  What is between them and the
disk, the streams which compress, is the identity here.

`contents()` throws for a buffer without bytes.  In `SaveToFile` nobody catches
the exception, and the file holds what has been written before.  In
`LoadFromFile` it means that the replay is not valid, as each other exception.
-/

namespace RealmServer.ArenaReplays

open Network (Bytes)
open Packets (ByteBuffer Operation Failure)
open LittleEndian (encode)
open InputStream

/-- `contents()`, with the bytes behind the pointer. -/
def contents : Operation Bytes := do
  let buffer ← get
  if buffer.storage = [] then throw .value else return buffer.storage

/-- `HEADER`, the text "REPLAY". -/
def header : Bytes := [0x52, 0x45, 0x50, 0x4C, 0x41, 0x59]

/-! ## SaveToFile -/

/-- What has been written, and the exception which ends the writing. -/
abbrev Writer := EStateM Failure Bytes Unit

def write (bytes : Bytes) : Writer := modify fun file => file ++ bytes

def writeContents (buffer : ByteBuffer) : Writer :=
  match contents.run buffer with
  | .ok bytes _ => write bytes
  | .error failure _ => throw failure

/-- One after the other, as a loop over a container does. -/
def writeAll {Row : Type} (writeRow : Row → Writer) : List Row → Writer
  | [] => pure ()
  | row :: rest => do
      writeRow row
      writeAll writeRow rest

/-- The order in which `SaveToFile` goes through the unordered maps. -/
structure Order (replay : ReplayData) where
  mirrorImageData : List (ObjectGuid × ByteBuffer)
  mirrorImageOwners : List (ObjectGuid × ObjectGuid)
  dataPerm : mirrorImageData.Perm replay.mirrorImageData
  ownersPerm : mirrorImageOwners.Perm replay.mirrorImageOwners

def savePlayer (row : ObjectGuid × ByteBuffer) : Writer := do
  write (encode 8 row.1.toNat)
  write (encode 8 row.2.size)
  writeContents row.2

def saveOwner (row : ObjectGuid × ObjectGuid) : Writer := do
  write (encode 8 row.1.toNat)
  write (encode 8 row.2.toNat)

def savePacket (row : UInt32 × WorldPacket) : Writer := do
  write (encode 4 row.1.toNat)
  write (encode 8 row.2.buffer.size)
  write (encode 2 row.2.opcode.toNat)
  writeContents row.2.buffer

/-- The number of rows, and the rows. -/
def saveSection {Row : Type} (writeRow : Row → Writer) (rows : List Row) : Writer := do
  write (encode 8 rows.length)
  writeAll writeRow rows

def saveToFile (replay : ReplayData) (order : Order replay) : Writer := do
  write header
  write (encode 4 replay.matchStart.toNat)
  saveSection savePlayer order.mirrorImageData
  saveSection saveOwner order.mirrorImageOwners
  saveSection savePacket replay.packets

/-- The file which `SaveToFile` leaves behind. -/
def savedFile (replay : ReplayData) (order : Order replay) : Bytes :=
  match (saveToFile replay order).run [] with
  | .ok _ file => file
  | .error _ file => file

/-! ## LoadFromFile -/

/-- What `LoadFromFile` throws or lets through. -/
inductive LoadFailure where
  /-- `std::runtime_error("Arena Replay: parsing error")` -/
  | parsingError
  /-- `std::runtime_error("Arena Replay: end of file")` -/
  | endOfFile
  /-- An exception of a buffer. -/
  | buffer (failure : Failure)
deriving DecidableEq, Repr

/-- The replay, and how many rounds the loops have gone through. -/
structure Loading where
  replay : ReplayData
  rounds : Nat := 0

abbrev Loader (Value : Type) := Reader LoadFailure Loading Value

def onBuffer {Value : Type} (operation : Operation Value) (buffer : ByteBuffer) :
    Loader ByteBuffer :=
  match operation.run buffer with
  | .ok _ after => pure after
  | .error failure _ => throw (.buffer failure)

/-- `resize`, and a read into `contents()`. -/
def readBuffer (buffer : ByteBuffer) (size : Nat) : Loader ByteBuffer := do
  let resized ← onBuffer (ByteBuffer.resize size) buffer
  let _ ← onBuffer contents resized
  let arrived ← read size
  onBuffer (ByteBuffer.store 0 arrived) resized

def Loading.nextRound (loading : Loading) : Loading := { loading with rounds := loading.rounds + 1 }

def Loading.setMatchStart (value : Nat) (loading : Loading) : Loading :=
  { loading with replay := { loading.replay with matchStart := UInt32.ofNat value } }

def Loading.addPlayer (guid : ObjectGuid) (buffer : ByteBuffer) (loading : Loading) : Loading :=
  { loading with replay := loading.replay.setMirrorImage guid buffer }

def Loading.addOwner (image owner : ObjectGuid) (loading : Loading) : Loading :=
  { loading with replay := loading.replay.addMirrorImage image owner }

def Loading.pushPacket (timestamp : UInt32) (packet : WorldPacket) (loading : Loading) : Loading :=
  { loading with replay :=
    { loading.replay with packets := loading.replay.packets ++ [(timestamp, packet)] } }

def loadPlayer (memory : Memory) : Loader Unit := do
  let guidRaw ← readNumber memory 8
  let bufferSize ← readNumber memory 8
  if 0xFFFF < bufferSize then throw .parsingError
  else
    let stream ← get
    let buffer ← readBuffer (stream.data.replay.mirrorImage (UInt64.ofNat guidRaw)) bufferSize
    modifyData (Loading.addPlayer (UInt64.ofNat guidRaw) buffer)
    throwAtEnd .endOfFile
    modifyData Loading.nextRound

def loadOwner (memory : Memory) : Loader Unit := do
  let imageGuid ← readNumber memory 8
  let ownerGuid ← readNumber memory 8
  modifyData (Loading.addOwner (UInt64.ofNat imageGuid) (UInt64.ofNat ownerGuid))
  throwAtEnd .endOfFile
  modifyData Loading.nextRound

def loadPacket (memory : Memory) : Loader Unit := do
  let timestamp ← readNumber memory 4
  let size ← readNumber memory 8
  let opcode ← readNumber memory 2
  if 0xFFFF < size then throw .parsingError
  else
    let buffer ← readBuffer {} size
    modifyData (Loading.pushPacket (UInt32.ofNat timestamp) ⟨UInt16.ofNat opcode, buffer⟩)
    throwAtEnd .parsingError
    modifyData Loading.nextRound

/-- The number of rows, and a loop over them. -/
def loadSection (memory : Memory) (loadRow : Loader Unit) : Loader Unit := do
  let count ← readNumber memory 8
  repeatTimes loadRow count

/-- The beginning of the match, and the three sections. -/
def loadSections (memory : Memory) : Loader Unit := do
  let matchStart ← readNumber memory 4
  modifyData (Loading.setMatchStart matchStart)
  loadSection memory (loadPlayer memory)
  loadSection memory (loadOwner memory)
  loadSection memory (loadPacket memory)

/-- The header decides whether the sections are read at all. -/
def loadReplay (memory : Memory) : Loader Bool := do
  let headerData ← readInto memory header.length
  if headerData = header then
    loadSections memory
    return true
  else return false

/-- `LoadFromFile`: the result, and what it has loaded. -/
def loadFromFile (memory : Memory) (replay : ReplayData) (file : Bytes) : Bool × Loading :=
  match (loadReplay memory).run { rest := file, data := { replay } } with
  | .ok valid after => (valid && after.good, after.data)
  | .error _ after => (false, after.data)

/-! ## What a file says -/

/-- A replay as it stands in a file. -/
structure Image where
  matchStart : UInt32
  players : List (ObjectGuid × Bytes)
  owners : List (ObjectGuid × ObjectGuid)
  packets : List (UInt32 × UInt16 × Bytes)
deriving DecidableEq, Repr

def playerBytes (row : ObjectGuid × Bytes) : Bytes :=
  encode 8 row.1.toNat ++ (encode 8 row.2.length ++ row.2)

def ownerBytes (row : ObjectGuid × ObjectGuid) : Bytes :=
  encode 8 row.1.toNat ++ encode 8 row.2.toNat

def packetBytes (row : UInt32 × UInt16 × Bytes) : Bytes :=
  encode 4 row.1.toNat ++ (encode 8 row.2.2.length ++ (encode 2 row.2.1.toNat ++ row.2.2))

/-- A list of rows with their number in front. -/
def sectionBytes {Row : Type} (rowBytes : Row → Bytes) (rows : List Row) : Bytes :=
  encode 8 rows.length ++ rows.flatMap rowBytes

def Image.sections (image : Image) : Bytes :=
  encode 4 image.matchStart.toNat ++ (sectionBytes playerBytes image.players ++
    (sectionBytes ownerBytes image.owners ++ sectionBytes packetBytes image.packets))

def Image.bytes (image : Image) : Bytes := header ++ image.sections

/-- What a replay looks like in a file. -/
def imageOf (replay : ReplayData) (order : Order replay) : Image where
  matchStart := replay.matchStart
  players := order.mirrorImageData.map fun row => (row.1, row.2.storage)
  owners := order.mirrorImageOwners
  packets := replay.packets.map fun row => (row.1, row.2.opcode, row.2.buffer.storage)

end RealmServer.ArenaReplays
