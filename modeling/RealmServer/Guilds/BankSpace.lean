import RealmServer.Players.Stacks
import RealmServer.Guilds.Withdrawals

/-!
# Room in a bank tab

`CanStore` plans where a stack goes in a tab: first the slot it is sent to, then
stacks of its kind, then empty slots.  `ReserveSpace` adds one slot to the plan,
never more than is still to be stored.
-/

namespace RealmServer.Guilds.BankMoves

open Table Players Players.Inventory

def guildBankMaxSlots : Nat := 98

def nullSlot : Nat := 255

/-- `GUILD_BANK_MAX_TABS` is far below the bag which stands for the character. -/
def character : Nat := 255

/-- What a move asks about items, and the inventory of the player. -/
structure MoveContext where
  /-- `GetMaxStackCount` of an entry. -/
  maxStackCount : Nat → Nat
  isSoulBound : Item → Bool
  isNotEmptyBag : Item → Bool
  canBeTraded : Item → Bool
  /-- A bag and a slot of the inventory. -/
  isInventoryPos : Nat → Bool
  /-- `Player::CanStoreItem` at a position, and whether the item is swapped. -/
  canStoreItem : Inventory → Nat → Item → Bool → Option (List ItemPosCount)

/-- The guild, and the items in its tabs and of one member. -/
structure BankState where
  bank : GuildBank
  /-- A tab owns its slots under its id, the member under `character`. -/
  items : Inventory
  nextItemGuid : Nat

/-- `m_vec`, and the count which has no slot yet. -/
structure Reservation where
  plan : List ItemPosCount
  count : Nat
deriving DecidableEq, Repr

variable (context : MoveContext)

/-- A slot of the plan, unless it is there already. -/
def Reservation.push (reservation : Reservation) (slotId requiredSpace : Nat) : Reservation :=
  let requiredSpace := min requiredSpace reservation.count
  if slotId ∈ reservation.plan.map ItemPosCount.pos then reservation
  else
    { plan := reservation.plan ++ [⟨slotId, requiredSpace⟩]
      count := reservation.count - requiredSpace }

def reserveSpace (slotId : Nat) (item : Item) (itemDest : Option Item)
    (reservation : Reservation) : Option Reservation :=
  let requiredSpace := context.maxStackCount item.entry
  match itemDest with
  | none => some (reservation.push slotId requiredSpace)
  | some itemDest =>
      if itemDest.entry ≠ item.entry ∨ context.maxStackCount item.entry ≤ itemDest.count then
        none
      else some (reservation.push slotId (requiredSpace - itemDest.count))

namespace BankState

/-- `_GetItem`. -/
def getItem (state : BankState) (tabId slotId : Nat) : Option Item :=
  if tabId < state.bank.purchasedTabs ∧ slotId < guildBankMaxSlots then
    (state.items.getItemByPos tabId slotId).map InventorySlot.item
  else none

/-- The item in a slot, if it is not the one which is stored. -/
def otherItem (state : BankState) (tabId slotId : Nat) (item : Item) : Option Item :=
  (state.getItem tabId slotId).filter fun itemDest => itemDest.guid ≠ item.guid

/-- One slot of the loop in `CanStoreItemInTab`. -/
def canStoreItemInSlot (state : BankState) (tabId : Nat) (item : Item) (skipSlotId : Nat)
    (merge : Bool) (reservation : Reservation) (slotId : Nat) : Reservation :=
  if reservation.count = 0 then reservation
  else if slotId = skipSlotId then reservation
  else
    let itemDest := state.otherItem tabId slotId item
    if itemDest.isSome ≠ merge then reservation
    else (reserveSpace context slotId item itemDest reservation).getD reservation

def canStoreItemInTab (state : BankState) (tabId : Nat) (item : Item) (skipSlotId : Nat)
    (merge : Bool) (reservation : Reservation) : Reservation :=
  (List.range guildBankMaxSlots).foldl
    (state.canStoreItemInSlot context tabId item skipSlotId merge) reservation

/-- Stacks to merge with, and then free slots, for what has no slot yet. -/
def searchTab (state : BankState) (tabId slotId : Nat) (item : Item)
    (reservation : Reservation) : Option (List ItemPosCount) :=
  let merged :=
    if 1 < context.maxStackCount item.entry then
      state.canStoreItemInTab context tabId item slotId true reservation
    else reservation
  let stored := state.canStoreItemInTab context tabId item slotId false merged
  if stored.count = 0 then some stored.plan else none

/-- `CanStore` of a tab, with the plan it makes. -/
def canStoreInBank (state : BankState) (tabId slotId : Nat) (item : Item) (swap : Bool) :
    Option (List ItemPosCount) :=
  let empty : Reservation := { plan := [], count := item.count }
  if context.isSoulBound item then none
  else if state.bank.purchasedTabs ≤ tabId then none
  else if slotId = nullSlot then state.searchTab context tabId slotId item empty
  else
    -- a swapped item leaves its slot, as the item itself does
    let itemDest := if swap then none else state.otherItem tabId slotId item
    match reserveSpace context slotId item itemDest empty with
    | none => none
    | some reservation =>
        if reservation.count = 0 then some reservation.plan
        else state.searchTab context tabId slotId item reservation

end BankState

/-! ## Plans -/

/--
The positions of a plan take an item, except for the count which has none, when
the item and the one at a swapped position have gone.
-/
structure Plan (items : Inventory) (owner : Nat) (item : Item) (swapped : Option Nat)
    (reservation : Reservation) : Prop where
  positions : (reservation.plan.map ItemPosCount.pos).Nodup
  total : (reservation.plan.map ItemPosCount.count).sum + reservation.count = item.count
  limit : ∀ place ∈ reservation.plan, place.count ≤ context.maxStackCount item.entry
  room : ∀ place ∈ reservation.plan, ∀ slot,
    items.getItemByPos owner place.pos = some slot →
      slot.item.guid ≠ item.guid → swapped ≠ some place.pos →
        slot.item.entry = item.entry ∧
          slot.item.count + place.count ≤ context.maxStackCount item.entry

section Planning

variable {context : MoveContext} {items : Inventory} {owner : Nat} {item : Item}
  {swapped : Option Nat} {reservation : Reservation}

theorem Plan.empty (items : Inventory) (owner : Nat) (item : Item) (swapped : Option Nat) :
    Plan context items owner item swapped { plan := [], count := item.count } where
  positions := List.nodup_nil
  total := Nat.zero_add _
  limit := by simp
  room := by simp

theorem Plan.push (plan : Plan context items owner item swapped reservation)
    {slotId requiredSpace : Nat} (limit : requiredSpace ≤ context.maxStackCount item.entry)
    (room : ∀ slot, items.getItemByPos owner slotId = some slot →
      slot.item.guid ≠ item.guid → swapped ≠ some slotId →
        slot.item.entry = item.entry ∧
          slot.item.count + requiredSpace ≤ context.maxStackCount item.entry) :
    Plan context items owner item swapped (reservation.push slotId requiredSpace) := by
  unfold Reservation.push
  by_cases present : slotId ∈ reservation.plan.map ItemPosCount.pos
  · rw [if_pos present]
    exact plan
  · rw [if_neg present]
    have required := Nat.min_le_left requiredSpace reservation.count
    refine ⟨?_, ?_, ?_, ?_⟩
    · rw [List.map_append, List.nodup_append]
      refine ⟨plan.positions, List.nodup_singleton _, ?_⟩
      rintro pos old other new rfl
      rw [List.map_singleton, List.mem_singleton] at new
      rw [new] at old
      exact present old
    · have total := plan.total
      have most := Nat.min_le_right requiredSpace reservation.count
      rw [List.map_append, List.sum_append, List.map_singleton, List.sum_singleton]
      dsimp only
      omega
    · intro place member
      rcases List.mem_append.mp member with old | new
      · exact plan.limit place old
      · rw [List.mem_singleton.mp new]
        exact required.trans limit
    · intro place member slot found differs unswapped
      rcases List.mem_append.mp member with old | new
      · exact plan.room place old slot found differs unswapped
      · rw [List.mem_singleton.mp new] at found unswapped ⊢
        have fits := room slot found differs unswapped
        exact ⟨fits.1, (Nat.add_le_add_left required _).trans fits.2⟩

/-- `itemDest` is what is in the slot, unless it goes away. -/
theorem Plan.reserveSpace (plan : Plan context items owner item swapped reservation)
    {slotId : Nat} {itemDest : Option Item}
    (seen : ∀ slot, items.getItemByPos owner slotId = some slot →
      slot.item.guid ≠ item.guid → swapped ≠ some slotId → itemDest = some slot.item)
    {reserved : Reservation}
    (reserve : reserveSpace context slotId item itemDest reservation = some reserved) :
    Plan context items owner item swapped reserved := by
  unfold BankMoves.reserveSpace at reserve
  cases itemDest with
  | none =>
      rw [← Option.some.inj reserve]
      apply plan.push le_rfl
      intro slot found differs unswapped
      exact absurd (seen slot found differs unswapped) (by simp)
  | some itemDest =>
      dsimp only at reserve
      split_ifs at reserve with full
      rw [not_or, not_not, Nat.not_le] at full
      rw [← Option.some.inj reserve]
      apply plan.push (Nat.sub_le _ _)
      intro slot found differs unswapped
      have same : itemDest = slot.item := Option.some.inj (seen slot found differs unswapped)
      rw [← same]
      exact ⟨full.1, (Nat.add_sub_cancel' full.2.le).le⟩

theorem Plan.finished (plan : Plan context items owner item swapped reservation)
    (done : reservation.count = 0) :
    Plan context items owner item swapped { plan := reservation.plan, count := 0 } :=
  done ▸ plan

end Planning

section Tabs

variable {context : MoveContext} {state : BankState} {tabId : Nat} {item : Item}
  {swapped : Option Nat} {reservation : Reservation}

theorem getItem_eq (tabExists : tabId < state.bank.purchasedTabs) {slotId : Nat}
    (slotExists : slotId < guildBankMaxSlots) :
    state.getItem tabId slotId =
      (state.items.getItemByPos tabId slotId).map InventorySlot.item :=
  if_pos ⟨tabExists, slotExists⟩

theorem otherItem_eq (tabExists : tabId < state.bank.purchasedTabs) {slotId : Nat}
    (slotExists : slotId < guildBankMaxSlots) {slot : InventorySlot}
    (found : state.items.getItemByPos tabId slotId = some slot)
    (differs : slot.item.guid ≠ item.guid) :
    state.otherItem tabId slotId item = some slot.item := by
  unfold BankState.otherItem
  rw [getItem_eq tabExists slotExists, found, Option.map_some, Option.filter_some,
    if_pos (by simpa using differs)]

theorem Plan.canStoreItemInSlot (tabExists : tabId < state.bank.purchasedTabs)
    (plan : Plan context state.items tabId item swapped reservation)
    (skipSlotId : Nat) (merge : Bool) {slotId : Nat}
    (slotExists : slotId < guildBankMaxSlots) :
    Plan context state.items tabId item swapped
      (state.canStoreItemInSlot context tabId item skipSlotId merge reservation slotId) := by
  unfold BankState.canStoreItemInSlot
  by_cases full : reservation.count = 0
  · rw [if_pos full]
    exact plan
  · rw [if_neg full]
    by_cases skipped : slotId = skipSlotId
    · rw [if_pos skipped]
      exact plan
    · rw [if_neg skipped]
      dsimp only
      by_cases passed : (state.otherItem tabId slotId item).isSome ≠ merge
      · rw [if_pos passed]
        exact plan
      · rw [if_neg passed]
        cases reserve :
          BankMoves.reserveSpace context slotId item (state.otherItem tabId slotId item)
            reservation with
        | none => exact plan
        | some reserved =>
            exact plan.reserveSpace (fun slot found differs _ =>
              otherItem_eq tabExists slotExists found differs) reserve

theorem Plan.canStoreItemInTab (tabExists : tabId < state.bank.purchasedTabs)
    (plan : Plan context state.items tabId item swapped reservation)
    (skipSlotId : Nat) (merge : Bool) :
    Plan context state.items tabId item swapped
      (state.canStoreItemInTab context tabId item skipSlotId merge reservation) := by
  unfold BankState.canStoreItemInTab
  apply List.foldlRecOn _ _ plan
  intro reservation plan slotId member
  exact plan.canStoreItemInSlot tabExists skipSlotId merge (List.mem_range.mp member)

theorem Plan.searchTab (tabExists : tabId < state.bank.purchasedTabs)
    (plan : Plan context state.items tabId item swapped reservation)
    {slotId : Nat} {dest : List ItemPosCount}
    (search : state.searchTab context tabId slotId item reservation = some dest) :
    Plan context state.items tabId item swapped { plan := dest, count := 0 } := by
  unfold BankState.searchTab at search
  dsimp only at search
  have merged := plan.canStoreItemInTab tabExists slotId true
  split_ifs at search with stackable done done
  · rw [← Option.some.inj search]
    exact (merged.canStoreItemInTab tabExists slotId false).finished done
  · rw [← Option.some.inj search]
    exact (plan.canStoreItemInTab tabExists slotId false).finished done

/-- A tab which takes an item exists; a slot that was asked for is reserved first. -/
theorem canStoreInBank_of_some {slotId : Nat} {swap : Bool} {dest : List ItemPosCount}
    (stored : state.canStoreInBank context tabId slotId item swap = some dest) :
    tabId < state.bank.purchasedTabs ∧
      ((slotId = nullSlot ∧ state.searchTab context tabId slotId item
        { plan := [], count := item.count } = some dest) ∨
      (slotId ≠ nullSlot ∧ ∃ reservation,
        reserveSpace context slotId item
          (if swap then none else state.otherItem tabId slotId item)
          { plan := [], count := item.count } = some reservation ∧
        ((reservation.count = 0 ∧ reservation.plan = dest) ∨
          (reservation.count ≠ 0 ∧
            state.searchTab context tabId slotId item reservation = some dest)))) := by
  unfold BankState.canStoreInBank at stored
  dsimp only at stored
  by_cases bound : context.isSoulBound item
  · rw [if_pos bound] at stored
    cases stored
  rw [if_neg bound] at stored
  by_cases noTab : state.bank.purchasedTabs ≤ tabId
  · rw [if_pos noTab] at stored
    cases stored
  rw [if_neg noTab] at stored
  refine ⟨Nat.lt_of_not_le noTab, ?_⟩
  by_cases anySlot : slotId = nullSlot
  · rw [if_pos anySlot] at stored
    exact .inl ⟨anySlot, stored⟩
  rw [if_neg anySlot] at stored
  cases reserve : reserveSpace context slotId item
      (if swap then none else state.otherItem tabId slotId item)
      { plan := [], count := item.count } with
  | none =>
      rw [reserve] at stored
      cases stored
  | some reservation =>
      rw [reserve] at stored
      dsimp only at stored
      refine .inr ⟨anySlot, reservation, rfl, ?_⟩
      split_ifs at stored with done
      · exact .inl ⟨done, Option.some.inj stored⟩
      · exact .inr ⟨done, stored⟩

/-- What a tab answers is a plan, in which only a swapped item is left out. -/
theorem plan_canStoreInBank {slotId : Nat}
    (slotExists : slotId < guildBankMaxSlots ∨ slotId = nullSlot) {swap : Bool}
    {dest : List ItemPosCount}
    (stored : state.canStoreInBank context tabId slotId item swap = some dest) :
    Plan context state.items tabId item (if swap then some slotId else none)
      { plan := dest, count := 0 } := by
  obtain ⟨tabExists, reserved⟩ := canStoreInBank_of_some stored
  rcases reserved with ⟨anySlot, search⟩ | ⟨oneSlot, reservation, reserve, rest⟩
  · exact (Plan.empty _ _ _ _).searchTab tabExists search
  · have slotExists := slotExists.resolve_right oneSlot
    have seen : ∀ slot, state.items.getItemByPos tabId slotId = some slot →
        slot.item.guid ≠ item.guid → (if swap then some slotId else none) ≠ some slotId →
          (if swap then none else state.otherItem tabId slotId item) = some slot.item := by
      intro slot found differs unswapped
      cases swap with
      | true => exact absurd rfl unswapped
      | false => exact otherItem_eq tabExists slotExists found differs
    have plan := (Plan.empty state.items tabId item _).reserveSpace seen reserve
    rcases rest with ⟨done, rfl⟩ | ⟨_, search⟩
    · exact plan.finished done
    · exact plan.searchTab tabExists search

/-- Where the slot has room for all of it, the plan is the slot. -/
theorem canStoreInBank_slot {slotId : Nat} (slotExists : slotId ≠ nullSlot) {swap : Bool}
    {dest : List ItemPosCount}
    (room : item.count ≤ context.maxStackCount item.entry)
    (destRoom : swap = false → ∀ itemDest, state.otherItem tabId slotId item = some itemDest →
      itemDest.entry = item.entry →
        itemDest.count + item.count ≤ context.maxStackCount item.entry)
    (stored : state.canStoreInBank context tabId slotId item swap = some dest) :
    dest = [⟨slotId, item.count⟩] := by
  have pushed : ∀ requiredSpace, item.count ≤ requiredSpace →
      Reservation.push { plan := [], count := item.count } slotId requiredSpace =
        { plan := [⟨slotId, item.count⟩], count := 0 } := by
    intro requiredSpace enough
    unfold Reservation.push
    dsimp only
    rw [if_neg (by simp), Nat.min_eq_right enough, Nat.sub_self, List.nil_append]
  have reserved : ∀ reservation,
      reserveSpace context slotId item
        (if swap then none else state.otherItem tabId slotId item)
        { plan := [], count := item.count } = some reservation →
      reservation = { plan := [⟨slotId, item.count⟩], count := 0 } := by
    intro reservation reserve
    unfold reserveSpace at reserve
    cases itemDest : (if swap then none else state.otherItem tabId slotId item) with
    | none =>
        rw [itemDest] at reserve
        exact (Option.some.inj reserve).symm.trans (pushed _ room)
    | some other =>
        rw [itemDest] at reserve
        dsimp only at reserve
        split_ifs at reserve with full
        rw [not_or, not_not] at full
        cases swap with
        | true => cases itemDest
        | false =>
            have fits := destRoom rfl other itemDest full.1
            exact (Option.some.inj reserve).symm.trans (pushed _ (by omega))
  obtain ⟨_, ⟨anySlot, _⟩ | ⟨_, reservation, reserve, rest⟩⟩ := canStoreInBank_of_some stored
  · exact absurd anySlot slotExists
  · have whole := reserved reservation reserve
    rw [whole] at rest
    rcases rest with ⟨_, plan⟩ | ⟨missing, _⟩
    · exact plan.symm
    · exact absurd rfl missing

end Tabs

end RealmServer.Guilds.BankMoves
