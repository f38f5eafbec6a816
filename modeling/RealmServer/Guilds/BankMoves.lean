import RealmServer.Guilds.BankSpace

/-!
# Moves of items in the guild bank

`MoveItems` takes an item, or a part of it, out of a slot of a tab or of the
inventory and stores it at the other end.  A whole item for which there is no
room is swapped with the one in its way.
-/

namespace RealmServer.Guilds.BankMoves

open Table Players Players.Inventory

/-- `NULL_BAG` and `NULL_SLOT`: anywhere in the inventory. -/
def nullPos : Nat := 255

/-- One end of a move; `NULL_SLOT` of a tab is anywhere in the tab. -/
inductive Place where
  | bank (tabId slotId : Nat)
  | player (pos : Nat)
deriving DecidableEq, Repr

namespace Place

def owner : Place → Nat
  | .bank tabId _ => tabId
  | .player _ => character

def pos : Place → Nat
  | .bank _ slotId => slotId
  | .player pos => pos

/-- What the rights depend on. -/
def data : Place → MoveItemData
  | .bank tabId _ => .bank tabId
  | .player _ => .player

end Place

variable (context : MoveContext) (player : Nat)

namespace BankState

def initItem (state : BankState) : Place → Option Item
  | .bank tabId slotId => state.getItem tabId slotId
  | .player pos =>
      match state.items.getItemByPos character pos with
      | none => none
      | some slot =>
          if context.isNotEmptyBag slot.item then none
          else if !context.canBeTraded slot.item then none
          else some slot.item

def canStore (state : BankState) (place : Place) (item : Item) (swap : Bool) :
    Option (List ItemPosCount) :=
  match place with
  | .bank tabId slotId => state.canStoreInBank context tabId slotId item swap
  | .player pos => context.canStoreItem state.items pos item swap

/-- `CloneItem`: a new item from the template of the old one. -/
def cloneItem (state : BankState) (item : Item) (count : Nat) : Item where
  guid := state.nextItemGuid
  entry := item.entry
  count := min count (context.maxStackCount item.entry)

def removeItem (state : BankState) (place other : Place) (splitedAmount : Nat) : BankState :=
  { state with
    bank := state.bank.removeItem player place.data other.data
    items :=
      if splitedAmount ≠ 0 then
        state.items.takePart place.owner place.pos splitedAmount
      else state.items.moveItemFromInventory place.owner place.pos }

def storeItem (state : BankState) (place : Place) (item : Item) (dest : List ItemPosCount) :
    BankState :=
  let stored := Inventory.storeItem place.owner item state.items state.nextItemGuid dest
  { state with items := stored.inventory, nextItemGuid := stored.nextItemGuid }

/-- `_DoItemsMove` of an item or of a clone, a swap if there is an item at the other end. -/
def doItemsMove (state : BankState) (src dest : Place) (srcItem : Item)
    (destItem : Option Item) (splitedAmount : Nat) : Option BankState :=
  match state.canStore context dest srcItem destItem.isSome with
  | none => none
  | some plan =>
      match destItem with
      | none =>
          some ((state.removeItem player src dest splitedAmount).storeItem dest srcItem plan)
      | some destItem =>
          match state.canStore context src destItem true with
          | none => none
          | some back =>
              let removed :=
                (state.removeItem player src dest splitedAmount).removeItem player dest src 0
              some ((removed.storeItem dest srcItem plan).storeItem src destItem back)

/-- The part of `_MoveItems` for a whole item. -/
def moveWhole (state : BankState) (src dest : Place) (item : Item) : BankState :=
  match state.doItemsMove context player src dest item none 0 with
  | some moved => moved
  | none =>
      match state.initItem context dest with
      | none => state
      | some destItem =>
          if !state.bank.hasStoreRights player src.data dest.data then state
          else if !state.bank.hasWithdrawRights player dest.data src.data then state
          else
            (state.doItemsMove context player src dest item (some destItem) 0).getD state

/-- The part of `_MoveItems` for a split; the clone has taken a guid in any case. -/
def moveSplit (state : BankState) (src dest : Place) (item : Item) (splitedAmount : Nat) :
    BankState :=
  let cloned := { state with nextItemGuid := state.nextItemGuid + 1 }
  (cloned.doItemsMove context player src dest (state.cloneItem context item splitedAmount)
    none splitedAmount).getD cloned

def moveItems (state : BankState) (src dest : Place) (splitedAmount : Nat) : BankState :=
  match state.initItem context src with
  | none => state
  | some item =>
      -- `CheckItem`
      if item.count < splitedAmount then state
      else
        let splitedAmount := if splitedAmount = item.count then 0 else splitedAmount
        if !state.bank.hasStoreRights player dest.data src.data then state
        else if !state.bank.hasWithdrawRights player src.data dest.data then state
        else if splitedAmount ≠ 0 then
          state.moveSplit context player src dest item splitedAmount
        else state.moveWhole context player src dest item

def swapItems (state : BankState) (tabId slotId destTabId destSlotId splitedAmount : Nat) :
    BankState :=
  if state.bank.purchasedTabs ≤ tabId || guildBankMaxSlots ≤ slotId ||
      state.bank.purchasedTabs ≤ destTabId || guildBankMaxSlots ≤ destSlotId then state
  else if tabId = destTabId && slotId = destSlotId then state
  else
    state.moveItems context player (.bank tabId slotId) (.bank destTabId destSlotId)
      splitedAmount

def swapItemsWithInventory (state : BankState) (toChar : Bool)
    (tabId slotId playerPos splitedAmount : Nat) : BankState :=
  if (guildBankMaxSlots ≤ slotId && slotId ≠ nullSlot) ||
      state.bank.purchasedTabs ≤ tabId then state
  else if toChar then
    state.moveItems context player (.bank tabId slotId) (.player playerPos) splitedAmount
  else state.moveItems context player (.player playerPos) (.bank tabId slotId) splitedAmount

end BankState

/-- What the client asks for. -/
inductive SwapPacket where
  | bankToBank (destTabId destSlotId tabId slotId splitedAmount : Nat)
  | autoStore (tabId slotId : Nat)
  | inventory (tabId slotId playerPos : Nat) (toChar : Bool) (splitedAmount : Nat)
deriving DecidableEq, Repr

def BankState.handleGuildBankSwapItems (state : BankState) : SwapPacket → BankState
  | .bankToBank destTabId destSlotId tabId slotId splitedAmount =>
      state.swapItems context player tabId slotId destTabId destSlotId splitedAmount
  | .autoStore tabId slotId =>
      state.swapItemsWithInventory context player true tabId slotId nullPos 0
  | .inventory tabId slotId playerPos toChar splitedAmount =>
      if !context.isInventoryPos playerPos && playerPos ≠ nullPos then state
      else
        state.swapItemsWithInventory context player toChar tabId slotId playerPos splitedAmount

/-! ## What a move does -/

/-- The plans of the player hold what he is to store. -/
def MoveContext.PlayerPlans (context : MoveContext) : Prop :=
  ∀ items pos item swap dest, context.canStoreItem items pos item swap = some dest →
    Plan context items character item (if swap then some pos else none)
      { plan := dest, count := 0 }

def SwapPacket.source : SwapPacket → Place
  | .bankToBank _ _ tabId slotId _ => .bank tabId slotId
  | .autoStore tabId slotId => .bank tabId slotId
  | .inventory tabId slotId playerPos toChar _ =>
      if toChar then .bank tabId slotId else .player playerPos

def SwapPacket.destination : SwapPacket → Place
  | .bankToBank destTabId destSlotId _ _ _ => .bank destTabId destSlotId
  | .autoStore _ _ => .player nullPos
  | .inventory tabId slotId playerPos toChar _ =>
      if toChar then .player playerPos else .bank tabId slotId

def SwapPacket.splitedAmount : SwapPacket → Nat
  | .bankToBank _ _ _ _ splitedAmount => splitedAmount
  | .autoStore _ _ => 0
  | .inventory _ _ _ _ splitedAmount => splitedAmount

/-- Nothing asks for the whole stack. -/
def requested (item : Item) (splitedAmount : Nat) : Nat :=
  if splitedAmount = 0 then item.count else splitedAmount

/-- The pieces of a part of an item, if they are counted at its place. -/
def piecesIf (here : Prop) [Decidable here] (kind : Nat) (item : Item) (count : Nat) : Nat :=
  if here then piecesOf kind { item with count } else 0

/-- The requested amount of an item goes to the positions of a plan. -/
structure Moved (before after : Inventory) (src dest : Place) (item : Item) (amount : Nat)
    (plan : List ItemPosCount) : Prop where
  source : ∃ slot, before.getItemByPos src.owner src.pos = some slot ∧ slot.item = item
  enough : amount ≤ item.count
  total : (plan.map ItemPosCount.count).sum = amount
  pieces : ∀ kind owner pos,
    after.piecesAt kind owner pos +
        piecesIf ((owner, pos) = (src.owner, src.pos)) kind item amount =
      before.piecesAt kind owner pos +
        piecesIf (owner = dest.owner) kind item (planned plan pos)
  /-- Nothing comes back, unless it is the rest which a slot of the same tab does not take. -/
  leaves : (src.owner = dest.owner → plan = [⟨dest.pos, amount⟩]) →
    after.piecesAt item.entry src.owner src.pos + amount =
      before.piecesAt item.entry src.owner src.pos
  /-- A slot of the bank with room for the amount gets all of it. -/
  direct : ∀ tabId slotId, dest = .bank tabId slotId → slotId ≠ nullSlot →
    (∀ slot, before.getItemByPos tabId slotId = some slot → slot.item.entry = item.entry →
      slot.item.count + amount ≤ context.maxStackCount item.entry) →
    plan = [⟨slotId, amount⟩]

/-- Two items change places; in the inventory one may go to several positions. -/
structure Swapped (before after : Inventory) (src dest : Place) (item destItem : Item)
    (plan back : List ItemPosCount) : Prop where
  source : ∃ slot, before.getItemByPos src.owner src.pos = some slot ∧ slot.item = item
  target : ∃ slot, before.getItemByPos dest.owner dest.pos = some slot ∧ slot.item = destItem
  total : (plan.map ItemPosCount.count).sum = item.count
  totalBack : (back.map ItemPosCount.count).sum = destItem.count
  pieces : ∀ kind owner pos,
    after.piecesAt kind owner pos +
        piecesIf ((owner, pos) = (src.owner, src.pos)) kind item item.count +
        piecesIf ((owner, pos) = (dest.owner, dest.pos)) kind destItem destItem.count =
      before.piecesAt kind owner pos +
        piecesIf (owner = dest.owner) kind item (planned plan pos) +
        piecesIf (owner = src.owner) kind destItem (planned back pos)
  /-- In a tab the item itself is in the slot of the other one. -/
  inBank : ∀ tabId slotId, dest = .bank tabId slotId →
    after.getItemByPos tabId slotId = some { owner := tabId, pos := slotId, item }
  backInBank : ∀ tabId slotId, src = .bank tabId slotId →
    after.getItemByPos tabId slotId = some { owner := tabId, pos := slotId, item := destItem }

/-- A move is refused, transfers the amount or swaps two items. -/
def Outcome (before after : Inventory) (src dest : Place) (splitedAmount : Nat) : Prop :=
  after = before ∨
  (∃ item plan, Moved context before after src dest item (requested item splitedAmount) plan) ∨
  (∃ item destItem plan back, requested item splitedAmount = item.count ∧
    Swapped before after src dest item destItem plan back)

section Moves

variable {context : MoveContext} {player : Nat} {state : BankState} {place src dest : Place}
  {item : Item}

theorem initItem_of_some (found : state.initItem context place = some item) :
    ∃ slot, state.items.getItemByPos place.owner place.pos = some slot ∧
      slot.item = item := by
  cases place with
  | bank tabId slotId =>
      have get : state.getItem tabId slotId = some item := found
      unfold BankState.getItem at get
      split_ifs at get with slotExists
      exact Option.map_eq_some_iff.mp get
  | player pos =>
      unfold BankState.initItem at found
      dsimp only at found
      cases there : state.items.getItemByPos character pos with
      | none =>
          rw [there] at found
          cases found
      | some slot =>
          rw [there] at found
          dsimp only at found
          split_ifs at found with notEmpty bound
          exact ⟨slot, there, Option.some.inj found⟩

theorem slot_of_initItem {tabId slotId : Nat}
    (found : state.initItem context (.bank tabId slotId) = some item) :
    tabId < state.bank.purchasedTabs ∧ slotId < guildBankMaxSlots := by
  have get : state.getItem tabId slotId = some item := found
  unfold BankState.getItem at get
  split_ifs at get with slotExists
  exact slotExists

/-- Where an item can be sent to. -/
def Place.Exists : Place → Prop
  | .bank _ slotId => slotId < guildBankMaxSlots ∨ slotId = nullSlot
  | .player _ => True

theorem plan_canStore (plans : context.PlayerPlans) (placeExists : place.Exists) {swap : Bool}
    {plan : List ItemPosCount} (stored : state.canStore context place item swap = some plan) :
    Plan context state.items place.owner item (if swap then some place.pos else none)
      { plan, count := 0 } := by
  cases place with
  | bank tabId slotId => exact plan_canStoreInBank placeExists stored
  | player pos => exact plans _ _ _ _ _ stored

end Moves

/-! ## Storing after a plan -/

def BankState.Tidy (context : MoveContext) (state : BankState) : Prop :=
  state.items.Tidy context.maxStackCount state.nextItemGuid

/-- A plan for all of an item, for which there is room now. -/
structure Fitting (items : Inventory) (owner : Nat) (item : Item) (plan : List ItemPosCount) :
    Prop where
  positions : (plan.map ItemPosCount.pos).Nodup
  total : (plan.map ItemPosCount.count).sum = item.count
  room : ∀ place ∈ plan, items.HasRoom context.maxStackCount owner item place

section Storing

variable {context : MoveContext} {state : BankState} {place : Place} {item : Item}
  {plan : List ItemPosCount}

/-- A plan fits when nothing was added, and what it leaves out is gone. -/
theorem Plan.fitting {before after : Inventory} {owner : Nat} {swapped : Option Nat}
    (planned : Plan context before owner item swapped { plan, count := 0 })
    (less : ∀ pos slot, after.getItemByPos owner pos = some slot →
      ∃ old, before.getItemByPos owner pos = some old ∧ old.item.guid ≠ item.guid ∧
        swapped ≠ some pos ∧ slot.item.entry = old.item.entry ∧
          slot.item.count ≤ old.item.count) :
    Fitting context after owner item plan where
  __ := planned
  room := by
    intro place member
    refine ⟨planned.limit place member, ?_⟩
    intro slot found
    obtain ⟨old, there, differs, unswapped, kind, fewer⟩ := less place.pos slot found
    have fits := planned.room place member old there differs unswapped
    exact ⟨kind.trans fits.1, (Nat.add_le_add_right fewer _).trans fits.2⟩

theorem Fitting.congr {before after : Inventory} {owner : Nat}
    (fitting : Fitting context before owner item plan)
    (same : ∀ place ∈ plan,
      after.getItemByPos owner place.pos = before.getItemByPos owner place.pos) :
    Fitting context after owner item plan where
  __ := fitting
  room := fun place member => (fitting.room place member).congr (same place member)

theorem tidy_storeItem (tidy : state.Tidy context)
    (fitting : Fitting context state.items place.owner item plan)
    (lacks : state.items.Lacks item.guid) (older : item.guid < state.nextItemGuid) :
    (state.storeItem place item plan).Tidy context :=
  Tidy.storeItem plan tidy fitting.positions fitting.room lacks older

theorem holds_storeItem (tidy : state.Tidy context)
    (fitting : Fitting context state.items place.owner item plan) (kind : Nat) :
    (state.storeItem place item plan).items.holds (piecesOf kind) =
      state.items.holds (piecesOf kind) + piecesOf kind item := by
  have stored := holds_storeItem_pieces plan tidy.positions state.nextItemGuid
    fitting.positions (HasRoom.fits fitting.room) kind
  rw [fitting.total] at stored
  exact stored

theorem piecesAt_storeItem (fitting : Fitting context state.items place.owner item plan)
    (kind owner pos : Nat) :
    (state.storeItem place item plan).items.piecesAt kind owner pos =
      state.items.piecesAt kind owner pos +
        piecesIf (owner = place.owner) kind item (planned plan pos) :=
  Inventory.piecesAt_storeItem plan state.nextItemGuid fitting.positions
    (HasRoom.fits fitting.room) kind owner pos

end Storing

/-! ## Taking -/

/-- A part of an item, or all of it, was taken out of its place. -/
structure Taken (before after : BankState) (place : Place) (item : Item) (amount : Nat) :
    Prop where
  tidy : after.Tidy context
  nextItemGuid : after.nextItemGuid = before.nextItemGuid
  pieces : ∀ kind, after.items.holds (piecesOf kind) +
    piecesOf kind { item with count := amount } = before.items.holds (piecesOf kind)
  positions : ∀ kind owner pos, after.items.piecesAt kind owner pos +
    piecesIf ((owner, pos) = (place.owner, place.pos)) kind item amount =
      before.items.piecesAt kind owner pos
  less : ∀ owner pos slot, after.items.getItemByPos owner pos = some slot →
    ∃ old, before.items.getItemByPos owner pos = some old ∧
      slot.item.guid = old.item.guid ∧ slot.item.entry = old.item.entry ∧
        slot.item.count ≤ old.item.count

section Taking

variable {context : MoveContext} {player : Nat} {state : BankState} {place other : Place}
  {slot : InventorySlot}

theorem Taken.lacks {before after : BankState} {item : Item} {amount guid : Nat}
    (taken : Taken context before after place item amount)
    (lacks : before.items.Lacks guid) : after.items.Lacks guid := by
  intro slot member
  obtain ⟨old, found, same, _⟩ :=
    taken.less slot.owner slot.pos slot (find_of_mem taken.tidy.positions member)
  rw [same]
  exact lacks old (mem_of_find found)

theorem items_removeItem_whole :
    (state.removeItem player place other 0).items =
      state.items.moveItemFromInventory place.owner place.pos := by
  unfold BankState.removeItem
  dsimp only
  rw [if_neg (by simp)]

theorem items_removeItem_part {amount : Nat} (part : amount ≠ 0) :
    (state.removeItem player place other amount).items =
      state.items.takePart place.owner place.pos amount := by
  unfold BankState.removeItem
  dsimp only
  rw [if_pos part]

variable (player other)

theorem taken_whole (tidy : state.Tidy context)
    (found : state.items.getItemByPos place.owner place.pos = some slot) :
    Taken context state (state.removeItem player place other 0) place slot.item
      slot.item.count where
  tidy := by
    unfold BankState.Tidy
    rw [items_removeItem_whole]
    exact Tidy.moveItemFromInventory tidy place.owner place.pos
  nextItemGuid := rfl
  pieces := by
    intro kind
    have key := key_of_find found
    have owned : slot.owner = place.owner := congrArg Prod.fst key
    have placed : slot.pos = place.pos := congrArg Prod.snd key
    rw [items_removeItem_whole, ← owned, ← placed]
    exact holds_moveItemFromInventory tidy.positions (piecesOf kind) (mem_of_find found)
  positions := by
    intro kind owner pos
    rw [items_removeItem_whole, piecesAt_moveItemFromInventory]
    unfold piecesIf
    by_cases here : (owner, pos) = (place.owner, place.pos)
    · obtain ⟨rfl, rfl⟩ := Prod.mk.inj here
      unfold piecesAt
      rw [found, if_pos rfl, if_pos rfl]
      exact Nat.zero_add _
    · rw [if_neg here, if_neg here, Nat.add_zero]
  less := by
    intro owner pos slot there
    rw [items_removeItem_whole, getItemByPos_moveItemFromInventory] at there
    split_ifs at there
    exact ⟨slot, there, rfl, rfl, le_rfl⟩

theorem taken_part (tidy : state.Tidy context)
    (found : state.items.getItemByPos place.owner place.pos = some slot) {amount : Nat}
    (part : amount ≠ 0) (enough : amount ≤ slot.item.count) :
    Taken context state (state.removeItem player place other amount) place slot.item
      amount where
  tidy := by
    unfold BankState.Tidy
    rw [items_removeItem_part part]
    exact Tidy.takePart tidy place.owner place.pos amount
  nextItemGuid := rfl
  pieces := by
    intro kind
    rw [items_removeItem_part part]
    exact holds_takePart tidy.positions found enough kind
  positions := by
    intro kind owner pos
    rw [items_removeItem_part part]
    exact piecesAt_takePart found enough kind owner pos
  less := by
    intro owner pos slot there
    rw [items_removeItem_part part] at there
    by_cases here : (owner, pos) = (place.owner, place.pos)
    · obtain ⟨rfl, rfl⟩ := Prod.mk.inj here
      rw [getItemByPos_takePart_self, found] at there
      rw [← Option.some.inj there]
      exact ⟨_, found, rfl, rfl, Nat.sub_le _ _⟩
    · rw [getItemByPos_takePart_of_key_ne state.items here] at there
      exact ⟨slot, there, rfl, rfl, le_rfl⟩

end Taking

/-! ## Moves without a swap -/

/-- Pieces of every kind are kept, with the guids and the limits. -/
structure Conserved (before after : BankState) : Prop where
  tidy : after.Tidy context
  pieces : ∀ kind, after.items.holds (piecesOf kind) = before.items.holds (piecesOf kind)

section Unswapped

variable {context : MoveContext} {player : Nat} {state after : BankState} {src dest : Place}

theorem doItemsMove_none {item : Item} {splitedAmount : Nat}
    (moved : state.doItemsMove context player src dest item none splitedAmount = some after) :
    ∃ plan, state.canStore context dest item false = some plan ∧
      after = (state.removeItem player src dest splitedAmount).storeItem dest item plan := by
  unfold BankState.doItemsMove at moved
  rw [Option.isSome_none] at moved
  cases stored : state.canStore context dest item false with
  | none =>
      rw [stored] at moved
      cases moved
  | some plan =>
      rw [stored] at moved
      exact ⟨plan, rfl, (Option.some.inj moved).symm⟩

/-- What was taken is stored after a plan that fits. -/
theorem conserved_stored {removed : BankState} {item stack : Item} {amount : Nat}
    (taken : Taken context state removed src item amount)
    (kind : stack.entry = item.entry) (count : stack.count = amount)
    {plan : List ItemPosCount}
    (fitting : Fitting context removed.items dest.owner stack plan)
    (lacks : removed.items.Lacks stack.guid) (older : stack.guid < removed.nextItemGuid) :
    Conserved context state (removed.storeItem dest stack plan) where
  tidy := tidy_storeItem taken.tidy fitting lacks older
  pieces := by
    intro other
    have same : piecesOf other stack = piecesOf other { item with count := amount } := by
      unfold piecesOf
      rw [kind, count]
    rw [holds_storeItem taken.tidy fitting, same]
    exact taken.pieces other

theorem pieces_stored {removed : BankState} {item stack : Item} {amount : Nat}
    (taken : Taken context state removed src item amount) (kind : stack.entry = item.entry)
    {plan : List ItemPosCount}
    (fitting : Fitting context removed.items dest.owner stack plan) (other owner pos : Nat) :
    (removed.storeItem dest stack plan).items.piecesAt other owner pos +
        piecesIf ((owner, pos) = (src.owner, src.pos)) other item amount =
      state.items.piecesAt other owner pos +
        piecesIf (owner = dest.owner) other item (planned plan pos) := by
  have same : piecesIf (owner = dest.owner) other stack (planned plan pos) =
      piecesIf (owner = dest.owner) other item (planned plan pos) := by
    unfold piecesIf piecesOf
    rw [kind]
  have positions := taken.positions other owner pos
  rw [piecesAt_storeItem fitting, same]
  omega

theorem getItemByPos_of_otherItem {tabId slotId : Nat} {item itemDest : Item}
    (found : state.otherItem tabId slotId item = some itemDest) :
    ∃ slot, state.items.getItemByPos tabId slotId = some slot ∧ slot.item = itemDest := by
  unfold BankState.otherItem at found
  have get : state.getItem tabId slotId = some itemDest := (Option.filter_eq_some_iff.mp found).1
  unfold BankState.getItem at get
  split_ifs at get
  exact Option.map_eq_some_iff.mp get

/-- The whole item, or the clone which stands for a part of it, goes after the plan. -/
theorem direct_of_canStore {item : Item} {plan : List ItemPosCount}
    (limit : item.count ≤ context.maxStackCount item.entry)
    (stored : state.canStore context dest item false = some plan) {tabId slotId : Nat}
    (inBank : dest = .bank tabId slotId) (oneSlot : slotId ≠ nullSlot)
    (room : ∀ slot, state.items.getItemByPos tabId slotId = some slot →
      slot.item.entry = item.entry →
        slot.item.count + item.count ≤ context.maxStackCount item.entry) :
    plan = [⟨slotId, item.count⟩] := by
  subst inBank
  apply canStoreInBank_slot oneSlot limit _ stored
  intro _ itemDest found kind
  obtain ⟨slot, there, same⟩ := getItemByPos_of_otherItem found
  rw [← same] at kind ⊢
  exact room slot there kind

/-- At the source the plan stores nothing, if it is the destination alone. -/
theorem leaves_of_pieces {before after : Inventory} {item : Item} {amount : Nat}
    {plan : List ItemPosCount} (keys : (src.owner, src.pos) ≠ (dest.owner, dest.pos))
    (pieces : ∀ kind owner pos,
      after.piecesAt kind owner pos +
          piecesIf ((owner, pos) = (src.owner, src.pos)) kind item amount =
        before.piecesAt kind owner pos +
          piecesIf (owner = dest.owner) kind item (planned plan pos))
    (alone : src.owner = dest.owner → plan = [⟨dest.pos, amount⟩]) :
    after.piecesAt item.entry src.owner src.pos + amount =
      before.piecesAt item.entry src.owner src.pos := by
  have taken : piecesIf ((src.owner, src.pos) = (src.owner, src.pos)) item.entry item amount =
      amount := by
    unfold piecesIf piecesOf
    rw [if_pos rfl, if_pos rfl]
  have stored : piecesIf (src.owner = dest.owner) item.entry item (planned plan src.pos) =
      0 := by
    unfold piecesIf
    split_ifs with same
    · have elsewhere : dest.pos ≠ src.pos :=
        fun samePos => keys (Prod.ext same samePos.symm)
      rw [alone same, planned_cons, if_neg elsewhere]
      exact piecesOf_zero item.entry item
    · rfl
  have atSource := pieces item.entry src.owner src.pos
  rw [taken, stored] at atSource
  exact atSource

theorem moved_whole (plans : context.PlayerPlans) (destExists : dest.Exists)
    (keys : (src.owner, src.pos) ≠ (dest.owner, dest.pos))
    (tidy : state.Tidy context) {slot : InventorySlot}
    (found : state.items.getItemByPos src.owner src.pos = some slot)
    (moved : state.doItemsMove context player src dest slot.item none 0 = some after) :
    Conserved context state after ∧ ∃ plan,
      Moved context state.items after.items src dest slot.item slot.item.count plan := by
  obtain ⟨plan, stored, rfl⟩ := doItemsMove_none moved
  have planned := plan_canStore plans destExists stored
  have taken := taken_whole player dest tidy found
  have lacks : (state.removeItem player src dest 0).items.Lacks slot.item.guid := by
    rw [items_removeItem_whole]
    exact Tidy.lacks_moveItemFromInventory tidy found
  have older := tidy.older slot (mem_of_find found)
  have limit := tidy.limits slot (mem_of_find found)
  have fitting : Fitting context (state.removeItem player src dest 0).items dest.owner
      slot.item plan := by
    apply planned.fitting
    intro pos other there
    obtain ⟨old, before, guid, kind, fewer⟩ := taken.less dest.owner pos other there
    have differs : old.item.guid ≠ slot.item.guid :=
      guid ▸ lacks other (mem_of_find there)
    exact ⟨old, before, differs, by simp, kind, fewer⟩
  refine ⟨conserved_stored taken rfl rfl fitting lacks older, plan, ?_⟩
  exact {
    source := ⟨slot, found, rfl⟩
    enough := le_rfl
    total := fitting.total
    pieces := pieces_stored taken rfl fitting
    leaves := leaves_of_pieces keys (pieces_stored taken rfl fitting)
    direct := fun tabId slotId inBank oneSlot room =>
      direct_of_canStore limit stored inBank oneSlot room }

theorem moved_split (plans : context.PlayerPlans) (destExists : dest.Exists)
    (keys : (src.owner, src.pos) ≠ (dest.owner, dest.pos)) (tidy : state.Tidy context)
    {slot : InventorySlot}
    (found : state.items.getItemByPos src.owner src.pos = some slot) {splitedAmount : Nat}
    (part : splitedAmount ≠ 0) (enough : splitedAmount ≤ slot.item.count)
    (moved : { state with nextItemGuid := state.nextItemGuid + 1 }.doItemsMove context player
      src dest (state.cloneItem context slot.item splitedAmount) none splitedAmount =
        some after) :
    Conserved context state after ∧ ∃ plan,
      Moved context state.items after.items src dest slot.item splitedAmount plan := by
  obtain ⟨plan, stored, rfl⟩ := doItemsMove_none moved
  have planned := plan_canStore plans destExists stored
  have limit := tidy.limits slot (mem_of_find found)
  have count : (state.cloneItem context slot.item splitedAmount).count = splitedAmount :=
    Nat.min_eq_left (enough.trans limit)
  let cloned : BankState := { state with nextItemGuid := state.nextItemGuid + 1 }
  have clonedTidy : cloned.Tidy context := Inventory.Tidy.younger tidy
  have taken := taken_part player dest clonedTidy found part enough
  have fresh : state.items.Lacks state.nextItemGuid := Tidy.lacks_nextItemGuid tidy
  have lacks := taken.lacks fresh
  have kind : (state.cloneItem context slot.item splitedAmount).entry = slot.item.entry := rfl
  have fitting : Fitting context (cloned.removeItem player src dest splitedAmount).items
      dest.owner (state.cloneItem context slot.item splitedAmount) plan := by
    apply planned.fitting
    intro pos other there
    obtain ⟨old, before, guid, kind, fewer⟩ := taken.less dest.owner pos other there
    exact ⟨old, before, fresh old (mem_of_find before), by simp, kind, fewer⟩
  refine ⟨?_, plan, ?_⟩
  · have kept := conserved_stored taken kind count fitting lacks (Nat.lt_succ_self _)
    exact ⟨kept.tidy, kept.pieces⟩
  · exact {
      source := ⟨slot, found, rfl⟩
      enough := enough
      total := fitting.total.trans count
      pieces := pieces_stored taken kind fitting
      leaves := leaves_of_pieces keys (pieces_stored taken kind fitting)
      direct := by
        intro tabId slotId inBank oneSlot room
        have sent := direct_of_canStore (count.symm ▸ enough.trans limit) stored inBank oneSlot
        rw [count] at sent
        exact sent room }

end Unswapped

/-! ## Swaps -/

section Swaps

variable {context : MoveContext} {player : Nat} {state after : BankState} {src dest : Place}

theorem doItemsMove_some {item destItem : Item} {splitedAmount : Nat}
    (moved : state.doItemsMove context player src dest item (some destItem) splitedAmount =
      some after) :
    ∃ plan back, state.canStore context dest item true = some plan ∧
      state.canStore context src destItem true = some back ∧
      after = (((state.removeItem player src dest splitedAmount).removeItem player dest src
        0).storeItem dest item plan).storeItem src destItem back := by
  unfold BankState.doItemsMove at moved
  rw [Option.isSome_some] at moved
  cases stored : state.canStore context dest item true with
  | none =>
      rw [stored] at moved
      cases moved
  | some plan =>
      rw [stored] at moved
      dsimp only at moved
      cases storedBack : state.canStore context src destItem true with
      | none =>
          rw [storedBack] at moved
          cases moved
      | some back =>
          rw [storedBack] at moved
          exact ⟨plan, back, rfl, rfl, (Option.some.inj moved).symm⟩

/-- Two places with items, which a swap can exchange. -/
structure Exchangeable (state : BankState) (src dest : Place) (slot destSlot : InventorySlot) :
    Prop where
  found : state.items.getItemByPos src.owner src.pos = some slot
  foundDest : state.items.getItemByPos dest.owner dest.pos = some destSlot
  keys : (src.owner, src.pos) ≠ (dest.owner, dest.pos)
  srcSlot : ∀ tabId slotId, src = .bank tabId slotId → slotId < guildBankMaxSlots
  destSlot : ∀ tabId slotId, dest = .bank tabId slotId → slotId < guildBankMaxSlots
  /-- The player has one end at most. -/
  sameTab : src.owner = dest.owner →
    ∃ tabId slotId destSlotId, src = .bank tabId slotId ∧ dest = .bank tabId destSlotId

theorem Exchangeable.symm {slot destSlot : InventorySlot}
    (exchangeable : Exchangeable state src dest slot destSlot) :
    Exchangeable state dest src destSlot slot where
  found := exchangeable.foundDest
  foundDest := exchangeable.found
  keys := exchangeable.keys.symm
  srcSlot := exchangeable.destSlot
  destSlot := exchangeable.srcSlot
  sameTab := by
    intro same
    obtain ⟨tabId, slotId, destSlotId, isSrc, isDest⟩ := exchangeable.sameTab same.symm
    exact ⟨tabId, destSlotId, slotId, isDest, isSrc⟩

theorem Place.exists_of_slot {place : Place}
    (slotExists : ∀ tabId slotId, place = .bank tabId slotId → slotId < guildBankMaxSlots) :
    place.Exists := by
  cases place with
  | bank tabId slotId => exact .inl (slotExists tabId slotId rfl)
  | player pos => trivial

/-- What is sent to a slot in a swap goes there and nowhere else. -/
theorem plan_of_swap {slot destSlot : InventorySlot} (tidy : state.Tidy context)
    (exchangeable : Exchangeable state src dest slot destSlot) {plan : List ItemPosCount}
    (stored : state.canStore context dest slot.item true = some plan) {tabId slotId : Nat}
    (inBank : dest = .bank tabId slotId) : plan = [⟨slotId, slot.item.count⟩] := by
  have limit := tidy.limits slot (mem_of_find exchangeable.found)
  have slotExists := exchangeable.destSlot tabId slotId inBank
  have oneSlot : slotId ≠ nullSlot := by
    intro same
    rw [same] at slotExists
    exact absurd slotExists (by decide)
  subst inBank
  have sent : state.canStoreInBank context tabId slotId slot.item true = some plan := stored
  exact canStoreInBank_slot oneSlot limit (fun unswapped => by cases unswapped) sent

theorem getItemByPos_storeItem_slot {place : Place} (item : Item)
    (empty : state.items.getItemByPos place.owner place.pos = none) :
    (state.storeItem place item [⟨place.pos, item.count⟩]).items.getItemByPos place.owner
        place.pos =
      some { owner := place.owner, pos := place.pos, item } :=
  getItemByPos_place_empty state.items item empty

/-- Both items are out of their places. -/
def BankState.bothOut (state : BankState) (player : Nat) (src dest : Place) : BankState :=
  (state.removeItem player src dest 0).removeItem player dest src 0

theorem getItemByPos_bothOut (owner pos : Nat) :
    (state.bothOut player src dest).items.getItemByPos owner pos =
      if (owner, pos) = (dest.owner, dest.pos) then none
      else if (owner, pos) = (src.owner, src.pos) then none
      else state.items.getItemByPos owner pos := by
  unfold BankState.bothOut
  rw [items_removeItem_whole, getItemByPos_moveItemFromInventory, items_removeItem_whole,
    getItemByPos_moveItemFromInventory]

section Exchange

variable (player) {slot destSlot : InventorySlot} {plan back : List ItemPosCount}

theorem Exchangeable.taken (tidy : state.Tidy context)
    (exchangeable : Exchangeable state src dest slot destSlot) :
    Taken context state (state.removeItem player src dest 0) src slot.item slot.item.count ∧
      Taken context (state.removeItem player src dest 0) (state.bothOut player src dest) dest
        destSlot.item destSlot.item.count := by
  have first : Taken context state (state.removeItem player src dest 0) src _ _ :=
    taken_whole player dest tidy exchangeable.found
  refine ⟨first, taken_whole player src first.tidy ?_⟩
  rw [items_removeItem_whole, getItemByPos_moveItemFromInventory,
    if_neg exchangeable.keys.symm]
  exact exchangeable.foundDest

theorem Exchangeable.lacks (tidy : state.Tidy context)
    (exchangeable : Exchangeable state src dest slot destSlot) :
    (state.bothOut player src dest).items.Lacks slot.item.guid ∧
      (state.bothOut player src dest).items.Lacks destSlot.item.guid := by
  obtain ⟨first, second⟩ := exchangeable.taken player tidy
  constructor
  · apply second.lacks
    rw [items_removeItem_whole]
    exact Tidy.lacks_moveItemFromInventory tidy exchangeable.found
  · unfold BankState.bothOut
    rw [items_removeItem_whole]
    apply Tidy.lacks_moveItemFromInventory first.tidy
    rw [items_removeItem_whole, getItemByPos_moveItemFromInventory,
      if_neg exchangeable.keys.symm]
    exact exchangeable.foundDest

/-- With both items out of their places, what goes to the destination fits. -/
theorem Exchangeable.fitting (plans : context.PlayerPlans) (tidy : state.Tidy context)
    (exchangeable : Exchangeable state src dest slot destSlot)
    (stored : state.canStore context dest slot.item true = some plan) :
    Fitting context (state.bothOut player src dest).items dest.owner slot.item plan := by
  have lacks := (exchangeable.lacks player tidy).1
  have planned := plan_canStore plans (Place.exists_of_slot exchangeable.destSlot) stored
  apply planned.fitting
  intro pos other there
  have before := there
  rw [getItemByPos_bothOut] at before
  split_ifs at before with atDest atSrc
  refine ⟨other, before, lacks other (mem_of_find there), ?_, rfl, le_rfl⟩
  intro same
  exact atDest (congrArg (Prod.mk dest.owner) (Option.some.inj same).symm)

theorem bothOut_symm (owner pos : Nat) :
    (state.bothOut player dest src).items.getItemByPos owner pos =
      (state.bothOut player src dest).items.getItemByPos owner pos := by
  rw [getItemByPos_bothOut, getItemByPos_bothOut]
  split_ifs <;> rfl

/-- The two plans have no position in common. -/
theorem Exchangeable.apart (tidy : state.Tidy context)
    (exchangeable : Exchangeable state src dest slot destSlot)
    (stored : state.canStore context dest slot.item true = some plan)
    (storedBack : state.canStore context src destSlot.item true = some back)
    (same : src.owner = dest.owner) {pos : Nat} (ofBack : pos ∈ back.map ItemPosCount.pos) :
    pos ∉ plan.map ItemPosCount.pos := by
  obtain ⟨tabId, slotId, destSlotId, rfl, rfl⟩ := exchangeable.sameTab same
  have isPlan := plan_of_swap tidy exchangeable stored rfl
  have isBack := plan_of_swap tidy exchangeable.symm storedBack rfl
  rw [isBack, List.map_singleton, List.mem_singleton] at ofBack
  rw [isPlan, List.map_singleton, List.mem_singleton, ofBack]
  exact fun samePos => exchangeable.keys (congrArg (Prod.mk tabId) samePos)

theorem Exchangeable.fitting_back (plans : context.PlayerPlans) (tidy : state.Tidy context)
    (exchangeable : Exchangeable state src dest slot destSlot)
    (stored : state.canStore context dest slot.item true = some plan)
    (storedBack : state.canStore context src destSlot.item true = some back) :
    Fitting context ((state.bothOut player src dest).storeItem dest slot.item plan).items
      src.owner destSlot.item back := by
  have fitting := exchangeable.symm.fitting player plans tidy storedBack
  apply fitting.congr
  intro place member
  rw [bothOut_symm]
  apply getItemByPos_storeItem_of_not_mem
  intro same
  exact exchangeable.apart tidy stored storedBack same (List.mem_map_of_mem member)

theorem conserved_swap (plans : context.PlayerPlans) (tidy : state.Tidy context)
    (exchangeable : Exchangeable state src dest slot destSlot)
    (stored : state.canStore context dest slot.item true = some plan)
    (storedBack : state.canStore context src destSlot.item true = some back) :
    Conserved context state
      (((state.bothOut player src dest).storeItem dest slot.item plan).storeItem src
        destSlot.item back) := by
  obtain ⟨first, second⟩ := exchangeable.taken player tidy
  obtain ⟨lacks, lacksDest⟩ := exchangeable.lacks player tidy
  have fitting := exchangeable.fitting player plans tidy stored
  have fittingBack := exchangeable.fitting_back player plans tidy stored storedBack
  have older := tidy.older slot (mem_of_find exchangeable.found)
  have olderDest := tidy.older destSlot (mem_of_find exchangeable.foundDest)
  have tidyOne := tidy_storeItem second.tidy fitting lacks older
  have differs : slot.item.guid ≠ destSlot.item.guid := by
    intro same
    have equal : slot = destSlot := List.inj_on_of_nodup_map tidy.guids
      (mem_of_find exchangeable.found) (mem_of_find exchangeable.foundDest) same
    have key := key_of_find exchangeable.found
    rw [equal, key_of_find exchangeable.foundDest] at key
    exact exchangeable.keys key.symm
  constructor
  · apply tidy_storeItem tidyOne fittingBack (lacksDest.storeItem differs olderDest plan)
    exact olderDest.trans_le (nextItemGuid_le_storeItem plan _ _)
  · intro kind
    rw [holds_storeItem tidyOne fittingBack, holds_storeItem second.tidy fitting]
    have takenFirst : (state.removeItem player src dest 0).items.holds (piecesOf kind) +
      piecesOf kind slot.item = state.items.holds (piecesOf kind) := first.pieces kind
    have takenSecond : (state.bothOut player src dest).items.holds (piecesOf kind) +
      piecesOf kind destSlot.item = _ := second.pieces kind
    omega

theorem swapped_items (plans : context.PlayerPlans) (tidy : state.Tidy context)
    (exchangeable : Exchangeable state src dest slot destSlot)
    (stored : state.canStore context dest slot.item true = some plan)
    (storedBack : state.canStore context src destSlot.item true = some back) :
    Swapped state.items
      (((state.bothOut player src dest).storeItem dest slot.item plan).storeItem src
        destSlot.item back).items src dest slot.item destSlot.item plan back := by
  obtain ⟨first, second⟩ := exchangeable.taken player tidy
  have fitting := exchangeable.fitting player plans tidy stored
  have fittingBack := exchangeable.fitting_back player plans tidy stored storedBack
  exact {
    source := ⟨slot, exchangeable.found, rfl⟩
    target := ⟨destSlot, exchangeable.foundDest, rfl⟩
    total := fitting.total
    totalBack := fittingBack.total
    pieces := by
      intro kind owner pos
      rw [piecesAt_storeItem fittingBack, piecesAt_storeItem fitting]
      have takenFirst := first.positions kind owner pos
      have takenSecond := second.positions kind owner pos
      omega
    inBank := by
      intro tabId slotId inBank
      have isPlan := plan_of_swap tidy exchangeable stored inBank
      have outside : dest.owner = src.owner → dest.pos ∉ back.map ItemPosCount.pos := by
        intro same ofBack
        apply exchangeable.apart tidy stored storedBack same.symm ofBack
        rw [isPlan, inBank]
        exact List.mem_singleton_self _
      have empty : (state.bothOut player src dest).items.getItemByPos dest.owner dest.pos =
          none := by
        rw [getItemByPos_bothOut, if_pos rfl]
      have kept := getItemByPos_storeItem_of_not_mem destSlot.item back
        ((state.bothOut player src dest).storeItem dest slot.item plan).items
        ((state.bothOut player src dest).storeItem dest slot.item plan).nextItemGuid outside
      have placed := getItemByPos_storeItem_slot slot.item empty
      subst inBank
      rw [isPlan] at kept ⊢
      exact kept.trans placed
    backInBank := by
      intro tabId slotId inBank
      have isBack := plan_of_swap tidy exchangeable.symm storedBack inBank
      have outside : src.owner = dest.owner → src.pos ∉ plan.map ItemPosCount.pos := by
        intro same
        apply exchangeable.apart tidy stored storedBack same
        rw [isBack, inBank]
        exact List.mem_singleton_self _
      have empty : ((state.bothOut player src dest).storeItem dest slot.item
          plan).items.getItemByPos src.owner src.pos = none := by
        have kept := getItemByPos_storeItem_of_not_mem slot.item plan
          (state.bothOut player src dest).items (state.bothOut player src dest).nextItemGuid
          outside
        apply kept.trans
        rw [getItemByPos_bothOut, if_neg exchangeable.keys, if_pos rfl]
      have placed := getItemByPos_storeItem_slot destSlot.item empty
      subst inBank
      rw [isBack]
      exact placed }

end Exchange

end Swaps

end RealmServer.Guilds.BankMoves
