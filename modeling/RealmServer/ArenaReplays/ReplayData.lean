import RealmServer.Lib.LittleEndian
import RealmServer.Lib.Table
import RealmServer.Packets.BaseByteBuffer

/-!
# Recording an arena match

`ReplayData` keeps the packets of a match with their time, and for mirror images
the looks of each player as they go into the packet that asks for them.  A
player who joins again has his looks appended to those of the first time.

The maps are unordered: rows stand in the order of their last change, and
whoever goes through a map says in which order he does.
-/

namespace RealmServer.ArenaReplays

open Network (Bytes)
open Packets (ByteBuffer Operation Failure)
open Packets.ByteBuffer
open LittleEndian (encode)

/-- A guid by its raw value. -/
abbrev ObjectGuid := UInt64

structure WorldPacket where
  opcode : UInt16
  buffer : ByteBuffer
deriving DecidableEq, Repr

inductive EquipmentSlot where
  | head | shoulders | body | chest | waist | legs | feet | wrists | hands | back | tabard
deriving DecidableEq, Repr

/-- What `OnPlayerAdded` asks a player for. -/
structure Player where
  guid : ObjectGuid
  displayId : Nat
  race : Nat
  gender : Nat
  playerClass : Nat
  skin : Nat
  face : Nat
  hair : Nat
  hairColor : Nat
  facialHair : Nat
  guildId : Nat
  /-- `PLAYER_FLAGS_HIDE_HELM` -/
  hideHelm : Bool
  /-- `PLAYER_FLAGS_HIDE_CLOAK` -/
  hideCloak : Bool
  /-- The display of the item in a slot of `INVENTORY_SLOT_BAG_0`. -/
  getItemByPos : EquipmentSlot → Option Nat

/-- `ReplayData`, with the teams of its entry. -/
structure ReplayData where
  playerTeams : List (ObjectGuid × UInt32) := []
  recording : Bool := false
  recordTime : UInt32
  matchStart : UInt32
  packets : List (UInt32 × WorldPacket) := []
  mirrorImageData : List (ObjectGuid × ByteBuffer) := []
  mirrorImageOwners : List (ObjectGuid × ObjectGuid) := []
deriving DecidableEq, Repr

/-- The constructor leaves the two times as they were in memory. -/
def ReplayData.create (recordTime matchStart : UInt32) : ReplayData := { recordTime, matchStart }

/-! ## The looks of a player -/

/-- The slots of mirror images, without the end mark. -/
def itemSlots : List EquipmentSlot :=
  [.head, .shoulders, .body, .chest, .waist, .legs, .feet, .wrists, .hands, .back, .tabard]

def displayInfo (player : Player) (slot : EquipmentSlot) : Nat :=
  if slot = .head ∧ player.hideHelm then 0
  else if slot = .back ∧ player.hideCloak then 0
  else (player.getItemByPos slot).getD 0

/-- The numbers behind the stream operator, with their widths. -/
def appearance (player : Player) : List (Nat × Nat) :=
  [(4, player.displayId), (1, player.race), (1, player.gender), (1, player.playerClass),
    (1, player.skin), (1, player.face), (1, player.hair), (1, player.hairColor),
    (1, player.facialHair), (4, player.guildId)] ++
  itemSlots.map fun slot => (4, displayInfo player slot)

/-- `data << ...` for one number after the other. -/
def writeNumbers : List (Nat × Nat) → Operation Unit
  | [] => pure ()
  | (width, value) :: rest => do
      append (encode width value)
      writeNumbers rest

/-! ## The recording -/

namespace ReplayData

/-- `mirrorImageData[guid]` makes a buffer if there is none. -/
def mirrorImage (replay : ReplayData) (guid : ObjectGuid) : ByteBuffer :=
  ((Table.find Prod.fst replay.mirrorImageData guid).map Prod.snd).getD {}

def setMirrorImage (replay : ReplayData) (guid : ObjectGuid) (buffer : ByteBuffer) : ReplayData :=
  { replay with mirrorImageData := Table.assign Prod.fst replay.mirrorImageData (guid, buffer) }

def startRecord (replay : ReplayData) : ReplayData :=
  { replay with recordTime := 0, recording := true }

def endRecord (replay : ReplayData) : ReplayData := { replay with recording := false }

/-- The process ends if nothing is recorded. -/
def update (replay : ReplayData) (diff : UInt32) : Except Failure ReplayData :=
  if replay.recording then .ok { replay with recordTime := replay.recordTime + diff }
  else .error .assertion

def addPacket (replay : ReplayData) (packet : WorldPacket) : ReplayData :=
  if replay.recording then
    { replay with packets := replay.packets ++ [(replay.recordTime, packet)] }
  else replay

def setMatchStart (replay : ReplayData) : ReplayData :=
  { replay with matchStart := replay.recordTime }

def onPlayerAdded (replay : ReplayData) (player : Player) (team : UInt32) :
    Except Failure ReplayData :=
  let entered := { replay with
    playerTeams := Table.assign Prod.fst replay.playerTeams (player.guid, team) }
  match (writeNumbers (appearance player)).run (entered.mirrorImage player.guid) with
  | .ok _ buffer => .ok (entered.setMirrorImage player.guid buffer)
  | .error failure _ => .error failure

def addMirrorImage (replay : ReplayData) (image caster : ObjectGuid) : ReplayData :=
  { replay with mirrorImageOwners :=
      Table.assign Prod.fst replay.mirrorImageOwners (image, caster) }

end ReplayData

/-- What happens to a replay while the match goes on. -/
inductive Event where
  | startRecord
  | endRecord
  | update (diff : UInt32)
  | addPacket (packet : WorldPacket)
  | setMatchStart
  | onPlayerAdded (player : Player) (team : UInt32)
  | addMirrorImage (image caster : ObjectGuid)

def step (replay : ReplayData) : Event → Except Failure ReplayData
  | .startRecord => .ok replay.startRecord
  | .endRecord => .ok replay.endRecord
  | .update diff => replay.update diff
  | .addPacket packet => .ok (replay.addPacket packet)
  | .setMatchStart => .ok replay.setMatchStart
  | .onPlayerAdded player team => replay.onPlayerAdded player team
  | .addMirrorImage image caster => .ok (replay.addMirrorImage image caster)

/-- The replay after all events, or the failure which has ended the process. -/
def record : ReplayData → List Event → Except Failure ReplayData
  | replay, [] => .ok replay
  | replay, event :: rest =>
      match step replay event with
      | .ok next => record next rest
      | .error failure => .error failure

/-- How often a player has joined. -/
def joins (guid : ObjectGuid) : List Event → Nat
  | [] => 0
  | .onPlayerAdded player _ :: rest => (if player.guid = guid then 1 else 0) + joins guid rest
  | _ :: rest => joins guid rest

/-! ## How large the looks are -/

/-- The buffers which only appending has changed. -/
def Appended (buffer : ByteBuffer) : Prop :=
  buffer.rpos = 0 ∧ buffer.wpos = buffer.storage.length

theorem writeNumbers_appends {numbers : List (Nat × Nat)} {storage : Bytes} {rpos : Nat}
    {after : ByteBuffer} (ended : (writeNumbers numbers).run ⟨storage, rpos, storage.length⟩ =
      .ok () after) :
    after = ⟨storage ++ numbers.flatMap fun number => encode number.1 number.2, rpos,
      (storage ++ numbers.flatMap fun number => encode number.1 number.2).length⟩ := by
  induction numbers generalizing storage with
  | nil =>
      cases ended
      simp
  | cons number rest induction =>
      obtain ⟨_, middle, first, later⟩ := bind_eq_ok.mp ended
      obtain ⟨-, rfl⟩ := append_eq_ok.mp first
      rw [induction later]
      simp only [List.append_assoc, List.flatMap_cons]

theorem appearance_length (player : Player) :
    ((appearance player).flatMap fun number => encode number.1 number.2).length = 60 := by
  simp [appearance, itemSlots]

/-- Each buffer holds the looks of its player as often as he has joined. -/
structure Tracked (replay : ReplayData) (joined : ObjectGuid → Nat) : Prop where
  guids : (replay.mirrorImageData.map Prod.fst).Nodup
  images : (replay.mirrorImageOwners.map Prod.fst).Nodup
  appended : ∀ row ∈ replay.mirrorImageData, Appended row.2
  sizes : ∀ row ∈ replay.mirrorImageData, row.2.storage.length = 60 * joined row.1
  joinedPos : ∀ row ∈ replay.mirrorImageData, 0 < joined row.1
  present : ∀ guid, 0 < joined guid → ∃ row ∈ replay.mirrorImageData, row.1 = guid

theorem tracked_create (recordTime matchStart : UInt32) :
    Tracked (ReplayData.create recordTime matchStart) fun _ => 0 where
  guids := List.nodup_nil
  images := List.nodup_nil
  appended := by rintro _ ⟨⟩
  sizes := by rintro _ ⟨⟩
  joinedPos := by rintro _ ⟨⟩
  present := by
    intro guid joined
    cases joined

variable {replay next : ReplayData} {joined : ObjectGuid → Nat}

/-- The buffer of a player before he joins once more. -/
theorem Tracked.mirrorImage (tracked : Tracked replay joined) (guid : ObjectGuid) :
    ∃ storage, replay.mirrorImage guid = ⟨storage, 0, storage.length⟩ ∧
      storage.length = 60 * joined guid := by
  unfold ReplayData.mirrorImage
  cases found : Table.find Prod.fst replay.mirrorImageData guid with
  | none =>
      refine ⟨[], rfl, ?_⟩
      by_contra some
      obtain ⟨row, member, rfl⟩ := tracked.present guid (by simp at some; omega)
      exact Table.find_eq_none_iff.mp found row member rfl
  | some row =>
      have member := Table.mem_of_find found
      obtain rfl := Table.key_of_find found
      obtain ⟨atStart, atEnd⟩ := tracked.appended row member
      refine ⟨row.2.storage, ?_, tracked.sizes row member⟩
      show row.2 = _
      rw [← atStart, ← atEnd]

theorem Tracked.onPlayerAdded (tracked : Tracked replay joined) {player : Player} {team : UInt32}
    (added : replay.onPlayerAdded player team = .ok next) :
    Tracked next fun guid => joined guid + if player.guid = guid then 1 else 0 := by
  unfold ReplayData.onPlayerAdded at added
  obtain ⟨storage, before, size⟩ := tracked.mirrorImage player.guid
  have same : ∀ playerTeams, ReplayData.mirrorImage { replay with playerTeams := playerTeams }
      player.guid = ⟨storage, 0, storage.length⟩ := fun _ => before
  simp only [same] at added
  split at added
  case h_2 => cases added
  case h_1 buffer written =>
    cases added
    rw [writeNumbers_appends written]
    have length : (storage ++ (appearance player).flatMap fun number =>
        encode number.1 number.2).length = 60 * (joined player.guid + 1) := by
      rw [List.length_append, appearance_length, size]
      omega
    refine ⟨Table.assign_keys tracked.guids _, tracked.images, ?_, ?_, ?_, ?_⟩
    · intro row member
      rcases Table.mem_assign.mp member with ⟨old, -⟩ | rfl
      · exact tracked.appended row old
      · exact ⟨rfl, rfl⟩
    · intro row member
      rcases Table.mem_assign.mp member with ⟨old, differs⟩ | rfl
      · rw [if_neg (Ne.symm differs)]
        exact tracked.sizes row old
      · rw [if_pos rfl]
        exact length
    · intro row member
      rcases Table.mem_assign.mp member with ⟨old, -⟩ | rfl
      · exact Nat.add_pos_left (tracked.joinedPos row old) _
      · simp
    · intro guid positive
      by_cases isPlayer : player.guid = guid
      · exact ⟨_, Table.mem_assign.mpr (.inr rfl), isPlayer⟩
      · rw [if_neg isPlayer] at positive
        obtain ⟨row, member, rfl⟩ := tracked.present guid positive
        exact ⟨row, Table.mem_assign.mpr (.inl ⟨member, Ne.symm isPlayer⟩), rfl⟩

theorem Tracked.step (tracked : Tracked replay joined) {event : Event}
    (stepped : step replay event = .ok next) :
    Tracked next fun guid => joined guid + joins guid [event] := by
  cases event with
  | startRecord =>
      cases stepped
      exact { tracked with }
  | endRecord =>
      cases stepped
      exact { tracked with }
  | update diff =>
      unfold ArenaReplays.step ReplayData.update at stepped
      split_ifs at stepped with recording
      cases stepped
      exact { tracked with }
  | addPacket packet =>
      cases stepped
      unfold ReplayData.addPacket
      split_ifs
      · exact { tracked with }
      · exact tracked
  | setMatchStart =>
      cases stepped
      exact { tracked with }
  | onPlayerAdded player team => exact tracked.onPlayerAdded stepped
  | addMirrorImage image caster =>
      cases stepped
      exact { tracked with images := Table.assign_keys tracked.images _ }

theorem joins_cons (guid : ObjectGuid) (event : Event) (rest : List Event) :
    joins guid (event :: rest) = joins guid [event] + joins guid rest := by
  cases event <;> simp [joins]

theorem Tracked.record (tracked : Tracked replay joined) {events : List Event}
    (recorded : record replay events = .ok next) :
    Tracked next fun guid => joined guid + joins guid events := by
  induction events generalizing replay joined with
  | nil =>
      cases recorded
      exact tracked
  | cons event rest induction =>
      unfold ArenaReplays.record at recorded
      split at recorded
      · rename_i middle stepped
        simpa only [joins_cons _ event rest, ← Nat.add_assoc] using
          induction (tracked.step stepped) recorded
      · cases recorded

end RealmServer.ArenaReplays
