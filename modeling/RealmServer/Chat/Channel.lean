import RealmServer.Lib.Table
import RealmServer.Lib.Transition

/-!
# Custom chat channels

A channel knows its owner twice: by his guid and by a flag of his entry in
`playersStore`.  Requests come from players in the channel and outside of it,
and name their targets; who has that name is up to the players who are
connected then.
-/

namespace RealmServer.Chat

open Table

abbrev ObjectGuid := Nat

/-! ## Members -/

def memberFlagNone : UInt8 := 0x00

def memberFlagOwner : UInt8 := 0x01

def memberFlagModerator : UInt8 := 0x02

def memberFlagMuted : UInt8 := 0x08

structure PlayerInfo where
  player : ObjectGuid
  flags : UInt8
deriving DecidableEq, Repr

namespace PlayerInfo

/-- The value of a new entry. -/
def init : PlayerInfo := ⟨0, 0⟩

def hasFlag (info : PlayerInfo) (flag : UInt8) : Bool :=
  info.flags &&& flag != 0

def putFlag (info : PlayerInfo) (flag : UInt8) (state : Bool) : PlayerInfo :=
  { info with flags := if state then info.flags ||| flag else info.flags &&& ~~~flag }

def isOwner (info : PlayerInfo) : Bool := info.hasFlag memberFlagOwner

def setOwner (info : PlayerInfo) (state : Bool) : PlayerInfo := info.putFlag memberFlagOwner state

def isModerator (info : PlayerInfo) : Bool := info.hasFlag memberFlagModerator

def setModerator (info : PlayerInfo) (state : Bool) : PlayerInfo :=
  info.putFlag memberFlagModerator state

def isMuted (info : PlayerInfo) : Bool := info.hasFlag memberFlagMuted

def setMuted (info : PlayerInfo) (state : Bool) : PlayerInfo := info.putFlag memberFlagMuted state

section Flags

variable (info : PlayerInfo) (state : Bool)

/-- All values of the flags are tried. -/
theorem flags_separate (flags : UInt8) :
    ((flags ||| memberFlagOwner) &&& memberFlagOwner ≠ 0 ∧
      (flags &&& ~~~memberFlagOwner) &&& memberFlagOwner = 0 ∧
      (flags ||| memberFlagModerator) &&& memberFlagModerator ≠ 0 ∧
      (flags &&& ~~~memberFlagModerator) &&& memberFlagModerator = 0) ∧
    (flags ||| memberFlagOwner) &&& memberFlagModerator = flags &&& memberFlagModerator ∧
    (flags &&& ~~~memberFlagOwner) &&& memberFlagModerator = flags &&& memberFlagModerator ∧
    (flags ||| memberFlagModerator) &&& memberFlagOwner = flags &&& memberFlagOwner ∧
    (flags &&& ~~~memberFlagModerator) &&& memberFlagOwner = flags &&& memberFlagOwner ∧
    (flags ||| memberFlagMuted) &&& memberFlagOwner = flags &&& memberFlagOwner ∧
    (flags &&& ~~~memberFlagMuted) &&& memberFlagOwner = flags &&& memberFlagOwner ∧
    (flags ||| memberFlagMuted) &&& memberFlagModerator = flags &&& memberFlagModerator ∧
    (flags &&& ~~~memberFlagMuted) &&& memberFlagModerator = flags &&& memberFlagModerator := by
  obtain ⟨⟨flags⟩⟩ := flags
  revert flags
  decide +kernel

@[simp]
theorem setOwner_player : (info.setOwner state).player = info.player := rfl

@[simp]
theorem setModerator_player : (info.setModerator state).player = info.player := rfl

@[simp]
theorem setMuted_player : (info.setMuted state).player = info.player := rfl

@[simp]
theorem setOwner_isOwner : (info.setOwner state).isOwner = state := by
  obtain ⟨⟨set, cleared, -⟩, -⟩ := flags_separate info.flags
  cases state <;> simp [setOwner, isOwner, putFlag, hasFlag, set, cleared]

@[simp]
theorem setOwner_isModerator : (info.setOwner state).isModerator = info.isModerator := by
  obtain ⟨-, set, cleared, -⟩ := flags_separate info.flags
  cases state <;> simp [setOwner, isModerator, putFlag, hasFlag, set, cleared]

@[simp]
theorem setModerator_isOwner : (info.setModerator state).isOwner = info.isOwner := by
  obtain ⟨-, -, -, set, cleared, -⟩ := flags_separate info.flags
  cases state <;> simp [setModerator, isOwner, putFlag, hasFlag, set, cleared]

@[simp]
theorem setModerator_isModerator : (info.setModerator state).isModerator = state := by
  obtain ⟨⟨-, -, set, cleared⟩, -⟩ := flags_separate info.flags
  cases state <;> simp [setModerator, isModerator, putFlag, hasFlag, set, cleared]

@[simp]
theorem setMuted_isOwner : (info.setMuted state).isOwner = info.isOwner := by
  obtain ⟨-, -, -, -, -, set, cleared, -⟩ := flags_separate info.flags
  cases state <;> simp [setMuted, isOwner, putFlag, hasFlag, set, cleared]

@[simp]
theorem setMuted_isModerator : (info.setMuted state).isModerator = info.isModerator := by
  obtain ⟨-, -, -, -, -, -, -, set, cleared⟩ := flags_separate info.flags
  cases state <;> simp [setMuted, isModerator, putFlag, hasFlag, set, cleared]

end Flags

end PlayerInfo

/-- `PlayerContainer`, in the order of the keys. -/
abbrev PlayerContainer := List (ObjectGuid × PlayerInfo)

namespace PlayerContainer

def contains (store : PlayerContainer) (guid : ObjectGuid) : Bool :=
  Table.contains Prod.fst store guid

/-- The container once `playersStore[guid]` was evaluated. -/
def access (store : PlayerContainer) (guid : ObjectGuid) : PlayerContainer :=
  if store.contains guid then store
  else List.orderedInsert (fun first second => first.1 ≤ second.1) (guid, .init) store

/-- The value of `playersStore[guid]`. -/
def get (store : PlayerContainer) (guid : ObjectGuid) : PlayerInfo :=
  ((find Prod.fst store guid).map Prod.snd).getD .init

/-- A change through `playersStore[guid]`. -/
def change (store : PlayerContainer) (guid : ObjectGuid) (change : PlayerInfo → PlayerInfo) :
    PlayerContainer :=
  modify Prod.fst (access store guid) guid fun entry => (entry.1, change entry.2)

def erase (store : PlayerContainer) (guid : ObjectGuid) : PlayerContainer :=
  Table.erase Prod.fst store guid

end PlayerContainer

/-! ## Players and requests -/

inductive Team where
  | alliance
  | horde
deriving DecidableEq, Repr

structure Player where
  guid : ObjectGuid
  notEmpty : guid ≠ 0
  name : String
  team : Team
  /-- `RBAC_PERM_CHANGE_CHANNEL_NOT_MODERATOR`. -/
  changesNotModerator : Bool
  /-- `RBAC_PERM_TWO_SIDE_INTERACTION_CHANNEL`. -/
  twoSideInteraction : Bool

inductive Request where
  | joinChannel (pass : String)
  | leaveChannel
  | kickOrBan (badname : String) (ban : Bool)
  | unBan (badname : String)
  | changePassword (pass : String)
  | setMode (p2n : String) (mod set : Bool)
  | setOwner (newname : String)

/-- A request of a player, with what `FindConnectedPlayerByName` finds then. -/
structure Event where
  player : Player
  connected : String → Option Player
  named : ∀ name found, connected name = some found → found.name = name
  himself : ∀ name found, connected name = some found → found.guid = player.guid →
    found = player
  request : Request

/-! ## Channels -/

/-- A channel which is not constant. -/
structure Channel where
  ownership : Bool
  /-- `_ownerGUID`, 0 if there is none. -/
  ownerGUID : ObjectGuid
  password : String
  playersStore : PlayerContainer
  bannedStore : List ObjectGuid

namespace Channel

/-- A new channel, or one with what the database has of it. -/
def init (password : String) (bannedStore : List ObjectGuid) : Channel where
  ownership := true
  ownerGUID := 0
  password := password
  playersStore := []
  bannedStore := bannedStore

def isOn (channel : Channel) (who : ObjectGuid) : Bool := channel.playersStore.contains who

def isBanned (channel : Channel) (guid : ObjectGuid) : Bool := channel.bannedStore.contains guid

/-- `SetOwner` with a guid. -/
def setOwnerGUID (channel : Channel) (guid : ObjectGuid) : Channel :=
  -- [] will re-add player after it possible removed
  let store : PlayerContainer :=
    if channel.ownerGUID ≠ 0 then
      modify Prod.fst channel.playersStore channel.ownerGUID
        fun entry => (entry.1, entry.2.setOwner false)
    else channel.playersStore
  { channel with
    ownerGUID := guid
    playersStore :=
      if guid ≠ 0 then (store.change guid (·.setModerator true)).change guid (·.setOwner true)
      else store }

/-- `JoinChannel`, and whether `MakeYouJoined` was sent. -/
def joinChannel (channel : Channel) (player : Player) (pass : String) : Bool × Channel :=
  if channel.isOn player.guid then (false, channel)
  else if channel.isBanned player.guid then (false, channel)
  else if channel.password ≠ "" ∧ pass ≠ channel.password then (false, channel)
  else
    let channel := { channel with
      playersStore := channel.playersStore.change player.guid
        fun _ => ⟨player.guid, memberFlagNone⟩ }
    if channel.ownerGUID = 0 ∧ channel.ownership then
      let channel := channel.setOwnerGUID player.guid
      (true, { channel with
        playersStore := channel.playersStore.change player.guid (·.setModerator true) })
    else (true, channel)

def leaveChannel (channel : Channel) (player : Player) : Bool × Channel :=
  if !channel.isOn player.guid then (false, channel)
  else
    let changeowner := (channel.playersStore.get player.guid).isOwner
    let channel := { channel with playersStore := channel.playersStore.erase player.guid }
    match channel.playersStore with
    | [] => (true, channel)
    | first :: _ =>
        if changeowner && channel.ownership then
          let newowner := first.2.player
          let channel := { channel with
            playersStore := channel.playersStore.change newowner (·.setModerator true) }
          (true, channel.setOwnerGUID newowner)
        else (true, channel)

/-- The requests that only moderators may make. -/
def mayModerate (channel : Channel) (player : Player) : Bool :=
  (channel.playersStore.get player.guid).isModerator || player.changesNotModerator

/-- `KickOrBan`, and who was removed. -/
def kickOrBan (channel : Channel) (event : Event) (badname : String) (ban : Bool) :
    Option ObjectGuid × Channel :=
  let good := event.player.guid
  if !channel.isOn good then (none, channel)
  else if !channel.mayModerate event.player then (none, channel)
  else
    match event.connected badname with
    | none => (none, channel)
    | some bad =>
        let victim := bad.guid
        if !channel.isOn victim then (none, channel)
        else
          let changeowner : Bool := channel.ownerGUID = victim
          if !event.player.changesNotModerator && changeowner && good ≠ channel.ownerGUID then
            (none, channel)
          else
            let channel := { channel with
              bannedStore :=
                if ban && !channel.isBanned victim then victim :: channel.bannedStore
                else channel.bannedStore
              playersStore := channel.playersStore.erase victim }
            if changeowner && channel.ownership && !channel.playersStore.isEmpty then
              let channel := { channel with
                playersStore := channel.playersStore.change good (·.setModerator true) }
              (some victim, channel.setOwnerGUID good)
            else (some victim, channel)

def unBan (channel : Channel) (event : Event) (badname : String) : Channel :=
  if !channel.isOn event.player.guid then channel
  else if !channel.mayModerate event.player then channel
  else
    match event.connected badname with
    | none => channel
    | some bad =>
        if !channel.isBanned bad.guid then channel
        else { channel with bannedStore := channel.bannedStore.filter (· ≠ bad.guid) }

def changePassword (channel : Channel) (player : Player) (pass : String) : Channel :=
  if !channel.isOn player.guid then channel
  else if !channel.mayModerate player then channel
  else { channel with password := pass }

/-- `SetModerator` and `SetMute` with a guid. -/
def putMode (channel : Channel) (guid : ObjectGuid) (is : PlayerInfo → Bool)
    (put : PlayerInfo → Bool → PlayerInfo) (set : Bool) : Channel :=
  if is (channel.playersStore.get guid) ≠ set then
    { channel with playersStore := channel.playersStore.change guid (put · set) }
  else { channel with playersStore := channel.playersStore.access guid }

/-- The players may not deal with each other. -/
def strangers (player other : Player) : Bool :=
  player.team ≠ other.team && (!player.twoSideInteraction || !other.twoSideInteraction)

def setMode (channel : Channel) (event : Event) (p2n : String) (mod set : Bool) : Channel :=
  let guid := event.player.guid
  if !channel.isOn guid then channel
  else if !channel.mayModerate event.player then channel
  else if guid = channel.ownerGUID ∧ p2n = event.player.name ∧ mod then channel
  else
    match event.connected p2n with
    | none => channel
    | some newp =>
        if !channel.isOn newp.guid || strangers event.player newp then channel
        else if channel.ownerGUID = newp.guid ∧ channel.ownerGUID ≠ guid then channel
        else if mod then channel.putMode newp.guid PlayerInfo.isModerator .setModerator set
        else channel.putMode newp.guid PlayerInfo.isMuted .setMuted set

/-- `SetOwner` with a name. -/
def setOwner (channel : Channel) (event : Event) (newname : String) : Channel :=
  let guid := event.player.guid
  if !channel.isOn guid then channel
  else if !event.player.changesNotModerator && guid ≠ channel.ownerGUID then channel
  else
    match event.connected newname with
    | none => channel
    | some newp =>
        if !channel.isOn newp.guid || strangers event.player newp then channel
        else
          { channel with
            playersStore := channel.playersStore.change newp.guid (·.setModerator true)
          }.setOwnerGUID newp.guid

end Channel

/-- A channel, and who joined it and has not left or been removed since. -/
structure State where
  channel : Channel
  inside : List ObjectGuid

def step (state : State) (event : Event) : State :=
  let guid := event.player.guid
  match event.request with
  | .joinChannel pass =>
      let (joined, channel) := state.channel.joinChannel event.player pass
      ⟨channel, if joined then guid :: state.inside else state.inside⟩
  | .leaveChannel =>
      let (left, channel) := state.channel.leaveChannel event.player
      ⟨channel, if left then state.inside.filter (· ≠ guid) else state.inside⟩
  | .kickOrBan badname ban =>
      let (removed, channel) := state.channel.kickOrBan event badname ban
      ⟨channel, match removed with
        | none => state.inside
        | some victim => state.inside.filter (· ≠ victim)⟩
  | .unBan badname => ⟨state.channel.unBan event badname, state.inside⟩
  | .changePassword pass => ⟨state.channel.changePassword event.player pass, state.inside⟩
  | .setMode p2n mod set => ⟨state.channel.setMode event p2n mod set, state.inside⟩
  | .setOwner newname => ⟨state.channel.setOwner event newname, state.inside⟩

end RealmServer.Chat
