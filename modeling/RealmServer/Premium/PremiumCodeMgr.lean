import RealmServer.Players.AutoStore

/-!
# Premium codes

A player redeems a code of the shop for an item or for a flag that changes the
character at the next login.  The code is checked, moved to in progress by the
shop's service, handled, saved and invalidated, one after the other, and between
any two of these steps the game goes on.
-/

namespace RealmServer.Premium

open Players Players.Inventory Players.Storage

/-! ## Codes -/

inductive CodeType where
  | unknown
  | charMoveOnRealm
  | guildRename
  | charChangeName
  | charCustomize
  | charChangeRace
  | charChangeFaction
  | pet
  | tradingCard
  deriving DecidableEq

namespace CodeType

def AT_LOGIN_NONE : Nat := 0x00
def AT_LOGIN_RENAME : Nat := 0x01
def AT_LOGIN_CUSTOMIZE : Nat := 0x08
def AT_LOGIN_CHANGE_FACTION : Nat := 0x40
def AT_LOGIN_CHANGE_RACE : Nat := 0x80

/-- Of `ApplyCharModifyCode`. -/
def atLoginFlag : CodeType → Nat
  | charChangeName => AT_LOGIN_RENAME
  | charCustomize => AT_LOGIN_CUSTOMIZE
  | charChangeRace => AT_LOGIN_CHANGE_RACE
  | charChangeFaction => AT_LOGIN_CHANGE_FACTION
  | _ => AT_LOGIN_NONE

/-- The benefit is an item. -/
def IsItem (type : CodeType) : Prop := type = pet ∨ type = tradingCard

/-- The benefit is a flag. -/
def IsFlag (type : CodeType) : Prop :=
  type = charChangeName ∨ type = charCustomize ∨ type = charChangeRace ∨ type = charChangeFaction

end CodeType

inductive Team where
  | alliance
  | horde
  deriving DecidableEq

def ITEM_TCG_GIFT_H : Nat := 66812
def ITEM_TCG_GIFT_A : Nat := 66813

/-- `SetPetItemId` of a trading card. -/
def giftOf : Team → Nat
  | .horde => ITEM_TCG_GIFT_H
  | .alliance => ITEM_TCG_GIFT_A

theorem giftOf_ne_zero (team : Team) : giftOf team ≠ 0 := by
  cases team <;> decide

/-- A code as it is redeemed: only items have an item id, and that of a pet has been chosen. -/
structure PremiumCode where
  type : CodeType
  rawCode : String
  /-- Two bytes. -/
  amount : Nat
  itemId : Nat
  onlyItems : itemId ≠ 0 → type.IsItem
  petChosen : type = .pet → itemId ≠ 0

namespace PremiumCode

/-- A byte is returned. -/
def getAmount (premium : PremiumCode) : Nat := premium.amount % 256

def withGift (premium : PremiumCode) (team : Team) : PremiumCode :=
  if isCard : premium.type = .tradingCard then
    { premium with
      itemId := giftOf team
      onlyItems := fun _ => Or.inr isCard
      petChosen := fun _ => giftOf_ne_zero team }
  else premium

end PremiumCode

/-- A code with its player, and with an item id if it is for an item. -/
structure Redemption where
  guid : Nat
  premium : PremiumCode
  named : premium.type.IsItem → premium.itemId ≠ 0

def Redemption.rawCode (redemption : Redemption) : String := redemption.premium.rawCode

theorem PremiumCode.withGift_named (premium : PremiumCode) (team : Team)
    (isItem : (premium.withGift team).type.IsItem) : (premium.withGift team).itemId ≠ 0 := by
  unfold withGift at isItem ⊢
  split_ifs at isItem ⊢ with isCard
  · exact giftOf_ne_zero team
  · cases isItem with
    | inl isPet => exact premium.petChosen isPet
    | inr isOther => exact absurd isOther isCard

/-! ## Players -/

def CLASS_PALADIN : Nat := 2
def CLASS_SHAMAN : Nat := 7
def CLASS_DRUID : Nat := 11

/-- What redeeming reads and writes of a player. -/
structure Player where
  team : Team
  playerClass : Nat
  atLoginFlags : Nat
  storage : Storage
  loaded : storage.IsLoaded

namespace Player

variable (player : Player) (premium : PremiumCode)

def checkRaceChangeCode : Bool :=
  match player.team with
  | .alliance => !(player.playerClass = CLASS_SHAMAN || player.playerClass = CLASS_DRUID)
  | .horde => !(player.playerClass = CLASS_PALADIN || player.playerClass = CLASS_DRUID)

/-- `CanStoreNewItem` of the item, in any bag. -/
def planItem : StoreAnswer :=
  player.storage.canStoreNewItem NULL_BAG NULL_SLOT [] premium.itemId premium.getAmount

def canStoreItemInInventory : Bool := (player.planItem premium).result = .ok

def applyCharModifyCode : Player :=
  { player with atLoginFlags := player.atLoginFlags ||| premium.type.atLoginFlag }

/-- `StoreNewItem` with the positions that were found. -/
def storeItem (nextItemGuid : Nat) : Player :=
  { player with
    storage := (player.storage.storeNewItem nextItemGuid (player.planItem premium).plan
      premium.itemId).1
    loaded := player.loaded.storeNewItem nextItemGuid (player.planItem premium).plan
      premium.itemId }

/-- How granting the benefit ends: with `true`, with `false`, or in `ASSERT(item)`. -/
inductive Granting where
  | applied (after : Player) (nextItemGuid : Nat)
  | refused
  | asserts

def addItem (nextItemGuid : Nat) : Granting :=
  if (player.planItem premium).result = .ok then
    if (player.planItem premium).plan.total < 1 then .asserts
    else
      .applied (player.storeItem premium nextItemGuid)
        (player.storage.storeNewItem nextItemGuid (player.planItem premium).plan premium.itemId).2
  else .refused

/-- The `switch` of `HandleCode`. -/
def grant (nextItemGuid : Nat) : Granting :=
  match premium.type with
  | .charChangeName => .applied (player.applyCharModifyCode premium) nextItemGuid
  | .charCustomize => .applied (player.applyCharModifyCode premium) nextItemGuid
  | .charChangeRace => .applied (player.applyCharModifyCode premium) nextItemGuid
  | .charChangeFaction => .applied (player.applyCharModifyCode premium) nextItemGuid
  | .pet => player.addItem premium nextItemGuid
  | .tradingCard => player.addItem premium nextItemGuid
  | _ => .refused

end Player

/-- What `RedeemCode` does at once. -/
inductive Redeeming where
  | refused
  | checksFactionChange
  | continues

def redeemCode (player : Player) (premium : PremiumCode) : Redeeming :=
  match premium.type with
  | .charChangeFaction => .checksFactionChange
  | .charChangeRace => if player.checkRaceChangeCode then .continues else .refused
  | .tradingCard => if player.canStoreItemInInventory premium then .continues else .refused
  | .pet => if player.canStoreItemInInventory premium then .continues else .refused
  | _ => .continues

/-- What the transaction of `HandleCode` saves. -/
inductive Statement where
  | inventoryAndCurrencies
  | atLoginFlag
  deriving DecidableEq

def PremiumCode.saves (premium : PremiumCode) : Statement :=
  if premium.itemId ≠ 0 then .inventoryAndCurrencies else .atLoginFlag

/-! ## The server and the service -/

/-- How the service keeps a code. -/
inductive CodeStatus where
  | valid
  | inProgress (guid : Nat)
  | used (guid : Nat)
  deriving DecidableEq

/-- A call of `HandleCode`, with what it returns unless it does not. -/
structure Handling where
  redemption : Redemption
  before : Option Player
  after : Option Player
  returned : Option Bool

structure World where
  service : String → CodeStatus
  online : Nat → Option Player
  nextItemGuid : Nat
  /-- Queries of `CheckFactionChangeCode`. -/
  checking : List Redemption
  /-- Requests of `SetCodeStateInProgress`. -/
  posting : List Redemption
  /-- Requests which were given up but may still arrive. -/
  late : List Redemption
  /-- What `SetCodeStateInProgress` has reported. -/
  reported : List (Redemption × Bool)
  committing : List (Redemption × Statement)
  /-- The calls of `HandleCode` so far. -/
  handled : List Handling
  committed : List (Redemption × Statement)
  /-- The calls of `InvalidateCode` so far. -/
  invalidated : List Redemption
  /-- An `ASSERT` has ended the server. -/
  stopped : Bool

inductive Event where
  | redeem (guid : Nat) (premium : PremiumCode)
  | factionChecked (index : Nat) (passes : Bool)
  /-- The service gets a request, and its answer may come back. -/
  | arrives (index : Nat) (answered : Bool)
  | timesOut (index : Nat)
  | arrivesLate (index : Nat)
  | continues (index : Nat)
  | commits (index : Nat) (succeeds : Bool)
  | invalidationArrives (index : Nat)
  /-- The inventory changes, or the player logs in or out. -/
  | changes (guid : Nat) (player : Option Player)

namespace World

variable (world : World)

/-- Nothing has been redeemed. -/
def start (service : String → CodeStatus) (online : Nat → Option Player) (nextItemGuid : Nat) :
    World where
  service
  online
  nextItemGuid
  checking := []
  posting := []
  late := []
  reported := []
  committing := []
  handled := []
  committed := []
  invalidated := []
  stopped := false

/-- The service moves a code that is valid. -/
def setInProgress (service : String → CodeStatus) (redemption : Redemption) :
    String → CodeStatus :=
  if service redemption.rawCode = .valid then
    Function.update service redemption.rawCode (.inProgress redemption.guid)
  else service

def setUsed (service : String → CodeStatus) (redemption : Redemption) : String → CodeStatus :=
  if service redemption.rawCode = .inProgress redemption.guid then
    Function.update service redemption.rawCode (.used redemption.guid)
  else service

def handleCode (redemption : Redemption) : World :=
  match world.online redemption.guid with
  | none =>
      { world with
        handled := world.handled ++ [⟨redemption, none, none, some false⟩] }
  | some player =>
      match player.grant redemption.premium world.nextItemGuid with
      | .applied after nextItemGuid =>
          { world with
            online := Function.update world.online redemption.guid (some after)
            nextItemGuid
            committing := world.committing ++ [(redemption, redemption.premium.saves)]
            handled := world.handled ++ [⟨redemption, some player, some after, some true⟩] }
      | .refused =>
          { world with
            handled := world.handled ++ [⟨redemption, some player, some player, some false⟩] }
      | .asserts =>
          { world with
            handled := world.handled ++ [⟨redemption, some player, some player, none⟩]
            stopped := true }

def redeem (guid : Nat) (premium : PremiumCode) : World :=
  match world.online guid with
  | none => world
  | some player =>
      let redemption : Redemption :=
        ⟨guid, premium.withGift player.team, premium.withGift_named player.team⟩
      match redeemCode player redemption.premium with
      | .refused => world
      | .checksFactionChange => { world with checking := world.checking ++ [redemption] }
      | .continues => { world with posting := world.posting ++ [redemption] }

def factionChecked (index : Nat) (passes : Bool) : World :=
  match world.checking[index]? with
  | none => world
  | some redemption =>
      if passes ∧ (world.online redemption.guid).isSome then
        { world with
          checking := world.checking.eraseIdx index
          posting := world.posting ++ [redemption] }
      else { world with checking := world.checking.eraseIdx index }

def arrives (index : Nat) (answered : Bool) : World :=
  match world.posting[index]? with
  | none => world
  | some redemption =>
      { world with
        posting := world.posting.eraseIdx index
        service := setInProgress world.service redemption
        reported := world.reported ++
          [(redemption, answered && (world.service redemption.rawCode = .valid))] }

def timesOut (index : Nat) : World :=
  match world.posting[index]? with
  | none => world
  | some redemption =>
      { world with
        posting := world.posting.eraseIdx index
        late := world.late ++ [redemption]
        reported := world.reported ++ [(redemption, false)] }

def arrivesLate (index : Nat) : World :=
  match world.late[index]? with
  | none => world
  | some redemption =>
      { world with
        late := world.late.eraseIdx index
        service := setInProgress world.service redemption }

def continues (index : Nat) : World :=
  match world.reported[index]? with
  | none => world
  | some (redemption, ok) =>
      let world := { world with reported := world.reported.eraseIdx index }
      if ok then world.handleCode redemption else world

def commits (index : Nat) (succeeds : Bool) : World :=
  match world.committing[index]? with
  | none => world
  | some (redemption, statement) =>
      let world := { world with committing := world.committing.eraseIdx index }
      if succeeds then
        let world := { world with committed := world.committed ++ [(redemption, statement)] }
        if (world.online redemption.guid).isSome then
          { world with invalidated := world.invalidated ++ [redemption] }
        else world
      else world

def invalidationArrives (index : Nat) : World :=
  match world.invalidated[index]? with
  | none => world
  | some redemption => { world with service := setUsed world.service redemption }

/-- A server that has stopped does nothing. -/
def step (event : Event) : World :=
  if world.stopped then world
  else
    match event with
    | .redeem guid premium => world.redeem guid premium
    | .factionChecked index passes => world.factionChecked index passes
    | .arrives index answered => world.arrives index answered
    | .timesOut index => world.timesOut index
    | .arrivesLate index => world.arrivesLate index
    | .continues index => world.continues index
    | .commits index succeeds => world.commits index succeeds
    | .invalidationArrives index => world.invalidationArrives index
    | .changes guid player =>
        { world with online := Function.update world.online guid player }

end World

end RealmServer.Premium
