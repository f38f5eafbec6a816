import RealmServer.Lib.Table

/-!
# Rolls for loot

A group rolls for the items of a loot one by one.  A `Roll` keeps the votes of
the players near the corpse and, beside them, four counters; `CountRollVote`
closes it when the counters say that everyone has voted, `EndRoll` when the
time is over.
-/

namespace RealmServer.Groups

open Table

abbrev ObjectGuid := Nat

/-- A loot, which rolls refer to. -/
abbrev LootId := Nat

def maxGroupSize : Nat := 5

def maxRaidSize : Nat := 40

inductive RollVote where
  | pass
  | need
  | greed
  | disenchant
  | notEmitedYet
  | notValid
deriving DecidableEq, Repr

/-- The choice bytes of `RollType`. -/
def rollPass : Nat := 0

def rollNeed : Nat := 1

def rollGreed : Nat := 2

def rollDisenchant : Nat := 3

def maxRollType : Nat := 4

/-- An entry of `Roll::playerVote`. -/
structure PlayerVote where
  guid : ObjectGuid
  vote : RollVote
deriving DecidableEq, Repr

/-- `playerVote[guid] = vote`; the map is ordered by the guids. -/
def setVote (votes : List PlayerVote) (guid : ObjectGuid) (vote : RollVote) : List PlayerVote :=
  (erase PlayerVote.guid votes guid).orderedInsert
    (fun first second => first.guid ≤ second.guid) ⟨guid, vote⟩

/-! ## Loot -/

structure LootItem where
  itemid : Nat
  /-- In the template; items without one do not get into the loot templates. -/
  quality : Nat
  freeforall : Bool
  followLootRules : Bool
  isLooted : Bool
  isBlocked : Bool
  isUnderthreshold : Bool
deriving DecidableEq, Repr

structure Loot where
  items : List LootItem
  questItems : List LootItem
  unlootedCount : UInt8
deriving DecidableEq, Repr

namespace Loot

/-- The slots of the quest items come after those of the items. -/
def item (loot : Loot) (itemSlot : Nat) : Option LootItem :=
  if loot.items.length ≤ itemSlot then loot.questItems[itemSlot - loot.items.length]?
  else loot.items[itemSlot]?

def modifyItem (loot : Loot) (itemSlot : Nat) (change : LootItem → LootItem) : Loot :=
  if loot.items.length ≤ itemSlot then
    { loot with questItems := loot.questItems.modify (itemSlot - loot.items.length) change }
  else { loot with items := loot.items.modify itemSlot change }

/-- The item goes to a player. -/
def takeItem (loot : Loot) (itemSlot : Nat) : Loot :=
  let loot := loot.modifyItem itemSlot fun item => { item with isLooted := true }
  { loot with unlootedCount := loot.unlootedCount - 1 }

def unblockItem (loot : Loot) (itemSlot : Nat) : Loot :=
  loot.modifyItem itemSlot fun item => { item with isBlocked := false }

end Loot

/-! ## Rolls -/

structure Roll where
  itemGUID : ObjectGuid
  itemid : Nat
  /-- `getLoot`, nothing once the loot was deleted. -/
  loot : Option LootId
  playerVote : List PlayerVote
  totalPlayersRolling : UInt8
  totalNeed : UInt8
  totalGreed : UInt8
  totalPass : UInt8
  itemSlot : Nat
deriving DecidableEq, Repr

/-- A number which `CountTheRoll` drew for a voter. -/
structure RolledNumber where
  guid : ObjectGuid
  vote : RollVote
  number : Nat
deriving DecidableEq, Repr

/-- What `CountTheRoll` did when it closed a roll. -/
structure Closing where
  roll : Roll
  /-- The packets of `SendLootRoll`. -/
  numbers : List RolledNumber
  /-- `SendLootRollWon`. -/
  won : Option RolledNumber
  /-- The player who got the item, or what it was disenchanted to. -/
  awarded : Option ObjectGuid
deriving DecidableEq, Repr

/-- The rolls of a group and the loots they are for. -/
structure Looting where
  rolls : List Roll
  loots : LootId → Loot
  /-- The loots as the group found them. -/
  found : LootId → Loot
  nextLoot : LootId
  /-- The next id from `GenerateLowGuid`. -/
  nextItemGuid : ObjectGuid
  closings : List Closing

/-- Who is there when a roll is counted, and which numbers come up. -/
structure Luck where
  /-- `urand(1, 100)` for a player in the roll for an item. -/
  urand : ObjectGuid → ObjectGuid → Nat
  urand_bounds : ∀ itemGUID guid, 1 ≤ urand itemGUID guid ∧ urand itemGUID guid ≤ 100
  /-- `FindConnectedPlayer` finds the player, and he has a session. -/
  hasSession : ObjectGuid → Bool
  /-- `CanStoreNewItem` for the item of a roll. -/
  canStoreNewItem : ObjectGuid → ObjectGuid → Bool

namespace Roll

def isNeed (vote : RollVote) : Bool := vote == .need

def isGreed (vote : RollVote) : Bool := vote == .greed || vote == .disenchant

/-- The numbers for the players who voted one way, in the order of the map. -/
def draw (luck : Luck) (roll : Roll) (chosen : RollVote → Bool) : List RolledNumber :=
  (roll.playerVote.filter fun entry => chosen entry.vote).map fun entry =>
    ⟨entry.guid, entry.vote, luck.urand roll.itemGUID entry.guid⟩

/-- `maxguid`, `rollvote` and `maxresul` after a player's number. -/
def higher (best next : RolledNumber) : RolledNumber :=
  if best.number < next.number then next else best

/-- The loop begins with the first player of the map and the number zero. -/
def winner (luck : Luck) (roll : Roll) (chosen : RollVote → Bool) (first : PlayerVote) :
    RolledNumber :=
  (roll.draw luck chosen).foldl higher ⟨first.guid, .notValid, 0⟩

end Roll

namespace Looting

/-- Before the first loot. -/
def fresh (nextItemGuid : ObjectGuid) : Looting where
  rolls := []
  loots := fun _ => ⟨[], [], 0⟩
  found := fun _ => ⟨[], [], 0⟩
  nextLoot := 0
  nextItemGuid
  closings := []

/-- `(*itr)->isValid()` and the loot behind it. -/
def getLoot (looting : Looting) (roll : Roll) : Option Loot :=
  roll.loot.map looting.loots

def modifyLoot (looting : Looting) (roll : Roll) (change : Loot → Loot) : Looting :=
  match roll.loot with
  | none => looting
  | some loot =>
      { looting with
        loots := Function.update looting.loots loot (change (looting.loots loot)) }

/-- The item of a roll goes to a player who has room for it. -/
def storeItem (luck : Luck) (looting : Looting) (roll : Roll) (guid : ObjectGuid) :
    Option ObjectGuid × Looting :=
  if luck.canStoreNewItem roll.itemGUID guid then
    (some guid, looting.modifyLoot roll fun loot => loot.takeItem roll.itemSlot)
  else (none, looting.modifyLoot roll fun loot => loot.unblockItem roll.itemSlot)

/-- What the winner among the greedy gets. -/
def award (luck : Luck) (looting : Looting) (roll : Roll) (best : RolledNumber) :
    Option ObjectGuid × Looting :=
  match best.vote with
  | .greed => looting.storeItem luck roll best.guid
  -- the item is gone, only its parts may have to come by mail
  | .disenchant =>
      (some best.guid, looting.modifyLoot roll fun loot => loot.takeItem roll.itemSlot)
  | _ => (none, looting)

/-- `RollId.erase` with the record of what was done. -/
def close (looting : Looting) (index : Nat) (closing : Closing) : Looting :=
  { looting with
    rolls := looting.rolls.eraseIdx index
    closings := looting.closings ++ [closing] }

/-- The part of `CountTheRoll` for a vote that somebody gave. -/
def rollOff (luck : Luck) (looting : Looting) (roll : Roll) (chosen : RollVote → Bool)
    (give : RolledNumber → Option ObjectGuid × Looting) (index : Nat) : Looting :=
  match roll.playerVote with
  | [] => looting.close index ⟨roll, [], none, none⟩
  | first :: _ =>
      let best := roll.winner luck chosen first
      let (awarded, looting) :=
        if luck.hasSession best.guid then give best else (none, looting)
      looting.close index ⟨roll, roll.draw luck chosen, some best, awarded⟩

/-- `CountTheRoll` for the roll at a place of `RollId`. -/
def countTheRoll (luck : Luck) (looting : Looting) (index : Nat) : Looting :=
  match looting.rolls[index]? with
  | none => looting
  | some roll =>
      if roll.loot.isNone then
        { looting with rolls := looting.rolls.eraseIdx index }
      else if 0 < roll.totalNeed then
        -- the need branch does not look at `rollvote`
        looting.rollOff luck roll Roll.isNeed
          (fun best => looting.storeItem luck roll best.guid) index
      else if 0 < roll.totalGreed then
        looting.rollOff luck roll Roll.isGreed (looting.award luck roll) index
      else
        (looting.modifyLoot roll fun loot => loot.unblockItem roll.itemSlot).close index
          ⟨roll, [], none, none⟩

/-! ## Votes -/

/-- `GetRoll`, as a place of `RollId`. -/
def getRoll (looting : Looting) (itemGUID : ObjectGuid) : Option Nat :=
  looting.rolls.findIdx? fun roll => roll.itemGUID == itemGUID && roll.loot.isSome

/-- The `switch` over the choice byte; other bytes change nothing. -/
def castVote (roll : Roll) (playerGUID : ObjectGuid) (choice : Nat) : Roll :=
  let voted (vote : RollVote) : List PlayerVote :=
    modify PlayerVote.guid roll.playerVote playerGUID fun entry => { entry with vote }
  if choice = rollPass then
    { roll with totalPass := roll.totalPass + 1, playerVote := voted .pass }
  else if choice = rollNeed then
    { roll with totalNeed := roll.totalNeed + 1, playerVote := voted .need }
  else if choice = rollGreed then
    { roll with totalGreed := roll.totalGreed + 1, playerVote := voted .greed }
  else if choice = rollDisenchant then
    { roll with totalGreed := roll.totalGreed + 1, playerVote := voted .disenchant }
  else roll

/-- The sum is one of `int`s. -/
def allVoted (roll : Roll) : Bool :=
  roll.totalPlayersRolling.toNat ≤
    roll.totalPass.toNat + roll.totalNeed.toNat + roll.totalGreed.toNat

/-- `CountRollVote`. -/
def countRollVote (luck : Luck) (looting : Looting) (playerGUID itemGUID : ObjectGuid)
    (choice : Nat) : Looting :=
  match looting.getRoll itemGUID with
  | none => looting
  | some index =>
      match looting.rolls[index]? with
      | none => looting
      | some roll =>
          -- this condition means that player joins to the party after roll begins
          if (find PlayerVote.guid roll.playerVote playerGUID).isNone then looting
          else if (looting.getLoot roll).any fun loot => loot.items.isEmpty then looting
          else
            let roll := castVote roll playerGUID choice
            let looting := { looting with rolls := looting.rolls.set index roll }
            if allVoted roll then looting.countTheRoll luck index else looting

/-- The loop of `EndRoll`, which starts again after each roll it has counted. -/
def endRollFrom (luck : Luck) (loot : LootId) : Nat → Looting → Looting
  | 0, looting => looting
  | rest + 1, looting =>
      match looting.rolls.findIdx? fun roll => roll.loot == some loot with
      | none => looting
      | some index => endRollFrom luck loot rest (looting.countTheRoll luck index)

/-- `EndRoll`; every round takes a roll away. -/
def endRoll (luck : Luck) (looting : Looting) (loot : LootId) : Looting :=
  endRollFrom luck loot looting.rolls.length looting

/-! ## A member leaves -/

/-- A vote which is taken back from the counters. -/
def uncountVote (roll : Roll) (vote : RollVote) : Roll :=
  let roll :=
    match vote with
    | .greed => { roll with totalGreed := roll.totalGreed - 1 }
    | .disenchant => { roll with totalGreed := roll.totalGreed - 1 }
    | .need => { roll with totalNeed := roll.totalNeed - 1 }
    | .pass => { roll with totalPass := roll.totalPass - 1 }
    | _ => roll
  if vote = .notValid then roll
  else { roll with totalPlayersRolling := roll.totalPlayersRolling - 1 }

/-- One round of the loop over `RollId` in `RemoveMember`. -/
def removeFromRoll (luck : Luck) (guid : ObjectGuid) (looting : Looting) (index : Nat) :
    Looting :=
  match looting.rolls[index]? with
  | none => looting
  | some roll =>
      match find PlayerVote.guid roll.playerVote guid with
      | none => looting
      | some entry =>
          let left := { uncountVote roll entry.vote with
            playerVote := erase PlayerVote.guid roll.playerVote guid }
          countRollVote luck { looting with rolls := looting.rolls.set index left } guid
            roll.itemGUID maxRollType

def removeFromRolls (luck : Luck) (looting : Looting) (guid : ObjectGuid) : Looting :=
  (List.range looting.rolls.length).foldl (removeFromRoll luck guid) looting

/-! ## New rolls -/

/-- What the loops over the members ask about them. -/
structure Nearby where
  hasSession : ObjectGuid → Bool
  allowedForPlayer : LootItem → ObjectGuid → Bool
  isAtGroupRewardDistance : ObjectGuid → Bool
  getPassOnGroupLoot : ObjectGuid → Bool

def Nearby.rolls (nearby : Nearby) (item : LootItem) (guid : ObjectGuid) : Bool :=
  nearby.hasSession guid && nearby.allowedForPlayer item guid &&
    nearby.isAtGroupRewardDistance guid

def addPlayer (passes : ObjectGuid → Bool) (roll : Roll) (guid : ObjectGuid) : Roll :=
  if passes guid then
    { roll with
      totalPlayersRolling := roll.totalPlayersRolling + 1
      playerVote := setVote roll.playerVote guid .pass
      totalPass := roll.totalPass + 1 }
  else
    { roll with
      totalPlayersRolling := roll.totalPlayersRolling + 1
      playerVote := setVote roll.playerVote guid .notEmitedYet }

/-- A new `Roll` with the members who may roll for the item. -/
def newRoll (itemGUID : ObjectGuid) (loot : LootId) (itemSlot : Nat) (item : LootItem)
    (passes : ObjectGuid → Bool) (players : List ObjectGuid) : Roll :=
  players.foldl (addPlayer passes)
    ⟨itemGUID, item.itemid, some loot, [], 0, 0, 0, 0, itemSlot⟩

/-- The roll for an item is put to the others if anyone is there for it. -/
def startRoll (looting : Looting) (loot : LootId) (itemSlot : Nat) (item : LootItem)
    (passes : ObjectGuid → Bool) (players : List ObjectGuid) : Looting :=
  let roll := newRoll looting.nextItemGuid loot itemSlot item passes players
  let looting := { looting with nextItemGuid := looting.nextItemGuid + 1 }
  if 0 < roll.totalPlayersRolling then
    { looting.modifyLoot roll fun loot =>
        loot.modifyItem itemSlot fun item => { item with isBlocked := true } with
      rolls := looting.rolls ++ [roll] }
  else looting

/-- One item of `loot->items`. -/
def offerItem (nearby : Nearby) (members : List ObjectGuid) (lootThreshold : Nat) (loot : LootId)
    (looting : Looting) (place : LootItem × Nat) : Looting :=
  let (item, itemSlot) := place
  if item.freeforall then looting
  else if lootThreshold ≤ item.quality then
    looting.startRoll loot itemSlot item nearby.getPassOnGroupLoot
      (members.filter (nearby.rolls item))
  else
    { looting with
      loots := Function.update looting.loots loot
        ((looting.loots loot).modifyItem itemSlot fun item =>
          { item with isUnderthreshold := true }) }

/-- One item of `loot->quest_items`; nobody passes on these beforehand. -/
def offerQuestItem (nearby : Nearby) (members : List ObjectGuid) (loot : LootId)
    (looting : Looting) (place : LootItem × Nat) : Looting :=
  let (item, itemSlot) := place
  if !item.followLootRules then looting
  else
    looting.startRoll loot itemSlot item (fun _ => false) (members.filter (nearby.rolls item))

/-- The loops over the items of a loot which the group finds. -/
def startRolls (nearby : Nearby) (members : List ObjectGuid) (lootThreshold : Nat)
    (looting : Looting) (contents : Loot) : Looting :=
  let loot := looting.nextLoot
  let looting := { looting with
    loots := Function.update looting.loots loot contents
    found := Function.update looting.found loot contents
    nextLoot := loot + 1 }
  let looting :=
    contents.items.zipIdx.foldl (offerItem nearby members lootThreshold loot) looting
  (contents.questItems.zipIdx contents.items.length).foldl
    (offerQuestItem nearby members loot) looting

/-- `GroupLoot`. -/
def groupLoot := startRolls

/-- `NeedBeforeGreed`, which differs in the packets it sends. -/
def needBeforeGreed := startRolls

end Looting

end RealmServer.Groups
