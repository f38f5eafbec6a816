import RealmServer.Auctions.Gold
import RealmServer.Players.Inventory

/-!
# Sell packets

A client names the stacks which he puts together into one auction.
`HandleAuctionSellItem` checks them, one after the other and all together, and
then moves the one stack, or clones an item of the first stack and takes the
pieces out of all of them.  A packet without stacks gets to the first element
of an array in which nothing was written.
-/

namespace RealmServer.Auctions.Selling

open Table Players AuctionHouse

def maxAuctionItems : Nat := 160

def minute : Nat := 60

def minAuctionTime : Nat := 12 * 3600

/-! ## Packets -/

/-- An element of `itemGUIDs` and of `count`. -/
structure ListedStack where
  guid : Nat
  count : Nat
deriving DecidableEq, Repr

structure SellPacket where
  auctioneer : Nat
  /-- The first `itemsCount` elements of the arrays. -/
  items : List ListedStack
  bid : Nat
  buyout : Nat
  etime : Nat

/-- What the handler finds outside the auction house and the inventory. -/
structure SellContext where
  now : Nat
  /-- The faction of the creature. -/
  getNPCIfCanInteractWith : Nat → Option Nat
  getAuctionHouseEntry : Nat → Option AuctionHouseEntry
  canBeTraded : Item → Bool
  isNotEmptyBag : Item → Bool
  /-- `ITEM_PROTO_FLAG_CONJURED` in the template. -/
  isConjured : Nat → Bool
  /-- `ITEM_FIELD_DURATION`. -/
  duration : Item → Nat
  /-- `GetMaxStackSize` of the template. -/
  maxStackSize : Nat → Nat
  /-- In floating point. -/
  getAuctionDeposit : AuctionHouseEntry → Nat → Item → Nat → Nat
  /-- `etime` with `RATE_AUCTION_TIME`. -/
  auctionTime : Nat → Nat
  /-- `Create` with the template succeeds. -/
  create : Nat → Bool

/-- The house for the faction, the seller's inventory and the guids of new items. -/
structure Market where
  house : AuctionHouse
  inventory : Inventory
  nextItemGuid : Nat

variable (context : SellContext) (player : Nat)

/-! ## Checks -/

/-- The loop that reads the stacks, with the guids it has read. -/
def readItems : List Nat → List ListedStack → Bool
  | _, [] => true
  | itemGUIDs, listed :: rest =>
      listed.guid ≠ 0 && listed.count ≠ 0 && listed.count ≤ 1000 &&
        !itemGUIDs.contains listed.guid && readItems (itemGUIDs ++ [listed.guid]) rest

/-- The checks before the items, and the house and the time of the auction. -/
def checkRequest (packet : SellPacket) : Option (AuctionHouseEntry × Nat) :=
  if maxAuctionItems < packet.items.length then none
  else if !readItems [] packet.items then none
  else if packet.bid = 0 || packet.etime = 0 then none
  else if maxMoneyAmount < packet.bid || maxMoneyAmount < packet.buyout then none
  else
    match context.getNPCIfCanInteractWith packet.auctioneer with
    | none => none
    | some faction =>
        match context.getAuctionHouseEntry faction with
        | none => none
        | some auctionHouseEntry =>
            let etime := packet.etime * minute % 2 ^ 32
            if etime = 1 * minAuctionTime || etime = 2 * minAuctionTime ||
                etime = 4 * minAuctionTime then some (auctionHouseEntry, etime)
            else none

namespace Market

/-- The loop that fills `items`, with `itemEntry` and `finalCount`. -/
def collectItems (market : Market) :
    List ListedStack → Nat → Nat → Option (List InventorySlot × Nat)
  | [], _, finalCount => some ([], finalCount)
  | listed :: rest, itemEntry, finalCount =>
      match market.inventory.getItemByGuid player listed.guid with
      | none => none
      | some slot =>
          let item := slot.item
          let itemEntry := if itemEntry = 0 then item.entry else itemEntry
          if market.house.aItems.contains item.guid || !context.canBeTraded item ||
              context.isNotEmptyBag item || context.isConjured item.entry ||
              context.duration item ≠ 0 || item.count < listed.count ||
              itemEntry ≠ item.entry then none
          else
            (collectItems market rest itemEntry (finalCount + listed.count)).map
              fun (items, finalCount) => (slot :: items, finalCount)

/-! ## Execution -/

/-- `AddAItem`, which asserts that the guid is new, and the rest of the listing. -/
def listItem (house : AuctionHouse) (request : SellRequest) : AuctionHouse :=
  if house.aItems.contains request.itemGUIDLow then house.crash
  else
    let entry := request.entry house.nextAuctionId
    ((house.addAItem request.itemGUIDLow).listEntry entry).charge request.player
      request.deposit .ahSell entry.id

/-- `CloneItem`. -/
def cloneItem (item : Item) (count guid : Nat) : Option Item :=
  if count < 1 then none
  else if !context.create item.entry then none
  else some { guid, entry := item.entry, count := min count (context.maxStackSize item.entry) }

/-- What the cloned item makes up for is taken out of a stack. -/
def takeStack (inventory : Inventory) (listed : ListedStack) : Inventory :=
  match inventory.getItemByGuid player listed.guid with
  | none => inventory
  | some slot =>
      if slot.item.count = listed.count then
        inventory.moveItemFromInventory slot.owner slot.pos
      else
        modify InventorySlot.key inventory slot.key fun slot =>
          { slot with item := { slot.item with count := slot.item.count - listed.count } }

end Market

/-- A packet that has passed the checks, with what they found out. -/
structure Offer where
  packet : SellPacket
  auctionHouseEntry : AuctionHouseEntry
  etime : Nat
  /-- `items[0]`. -/
  slot : InventorySlot
  finalCount : Nat

def Offer.deposit (offer : Offer) : Nat :=
  context.getAuctionDeposit offer.auctionHouseEntry offer.etime offer.slot.item offer.finalCount

/-- The fields of the new `AuctionEntry`. -/
def Offer.request (offer : Offer) (item : Item) : SellRequest where
  player
  itemGUIDLow := item.guid
  itemEntry := item.entry
  itemCount := item.count
  bid := offer.packet.bid
  buyout := offer.packet.buyout
  expireTime := context.now + context.auctionTime offer.etime
  deposit := offer.deposit context
  auctionHouseEntry := offer.auctionHouseEntry

namespace Market

/-- The one whole stack is moved, or a cloned item stands for all of them. -/
def sell (market : Market) (offer : Offer) : Market :=
  let item := offer.slot.item
  if offer.packet.items.map ListedStack.count = [item.count] then
    { market with
      house := listItem market.house (offer.request context player item)
      inventory := market.inventory.moveItemFromInventory offer.slot.owner offer.slot.pos }
  else
    match cloneItem context item offer.finalCount market.nextItemGuid with
    | none => { market with nextItemGuid := market.nextItemGuid + 1 }
    | some newItem =>
        { house := listItem market.house (offer.request context player newItem)
          inventory := offer.packet.items.foldl (takeStack player) market.inventory
          nextItemGuid := market.nextItemGuid + 1 }

/-- `HandleAuctionSellItem`; without a result it has read outside of `items`. -/
def handleAuctionSellItem (market : Market) (packet : SellPacket) : Option Market :=
  match checkRequest context packet with
  | none => some market
  | some (auctionHouseEntry, etime) =>
      match market.collectItems context player packet.items 0 0 with
      | none => some market
      | some (items, finalCount) =>
          match items[0]? with
          | none => none
          | some slot =>
              let offer : Offer := { packet, auctionHouseEntry, etime, slot, finalCount }
              if (items.drop 1).any fun other => other.item.entry ≠ slot.item.entry then
                some market
              else if finalCount = 0 then some market
              else if !(packet.items.map ListedStack.guid).Nodup then some market
              else if items.any fun other =>
                  context.maxStackSize other.item.entry < finalCount then some market
              else if market.house.moneyOf player < offer.deposit context then some market
              else some (market.sell context player offer)

end Market

/-! ## All or nothing -/

/-- The pieces of one stack. -/
def countIn (guid : Nat) (item : Item) : Nat :=
  if item.guid = guid then item.count else 0

/-- What can be sold: purses and positions are sound, and guids of items are unique. -/
structure Market.Sound (market : Market) (player : Nat) : Prop where
  purses : SoundPurses market.house.players
  seller : contains PlayerMoney.guid market.house.players player = true
  positions : market.inventory.Sound
  guids : (market.inventory.map fun slot => slot.item.guid).Nodup
  registered : ∀ guid ∈ market.house.aItems, guid < market.nextItemGuid

/-- Inventory, money and auctions are as they were. -/
structure Market.Refused (before after : Market) : Prop where
  house : after.house = before.house
  inventory : after.inventory = before.inventory

/-- One auction was created of the stacks of a packet. -/
structure Market.Listed (player : Nat) (packet : SellPacket) (before after : Market)
    (entry : AuctionEntry) : Prop where
  created : after.house.heap = before.house.heap ++ [⟨before.house.nextPointer, entry⟩]
  queued : after.house.queue = before.house.queue ++ [.addAuction before.house.nextPointer]
  registered : after.house.aItems = entry.itemGUIDLow :: before.house.aItems
  owner : entry.owner = player
  /-- The deposit is charged, and nothing else. -/
  deposit : after.house.moneyOf player + entry.deposit = before.house.moneyOf player
  charges : after.house.moneyLog = before.house.moneyLog ++
    [⟨player, .ahSell, entry.id, entry.deposit⟩]
  others : ∀ other, other ≠ player → after.house.moneyOf other = before.house.moneyOf other
  count : entry.itemCount = (packet.items.map ListedStack.count).sum
  /-- Each stack loses what it was listed with. -/
  taken : ∀ listed ∈ packet.items,
    after.inventory.holds (countIn listed.guid) + listed.count =
      before.inventory.holds (countIn listed.guid)
  pieces : ∀ kind, after.inventory.holds (piecesOf kind) +
    (if kind = entry.itemEntry then entry.itemCount else 0) =
      before.inventory.holds (piecesOf kind)
  /-- Other items stay where they are. -/
  untouched : ∀ slot, slot.item.guid ∉ packet.items.map ListedStack.guid →
    (slot ∈ after.inventory ↔ slot ∈ before.inventory)

def Market.AllOrNothing (player : Nat) (packet : SellPacket) (before after : Market) : Prop :=
  before.Refused after ∨ ∃ entry, before.Listed player packet after entry

variable {context player}

/-! ## Checked packets -/

theorem readItems_spec {itemGUIDs : List Nat} {items : List ListedStack}
    (read : readItems itemGUIDs items = true) :
    (∀ listed ∈ items, 0 < listed.count ∧ listed.count ≤ 1000 ∧ listed.guid ∉ itemGUIDs) ∧
      (items.map ListedStack.guid).Nodup := by
  induction items generalizing itemGUIDs with
  | nil => exact ⟨fun _ none => absurd none List.not_mem_nil, List.nodup_nil⟩
  | cons listed rest induction =>
      unfold readItems at read
      simp only [Bool.and_eq_true, decide_eq_true_eq, Bool.not_eq_true',
        List.contains_eq_mem, decide_eq_false_iff_not, ne_eq] at read
      obtain ⟨⟨⟨⟨-, count⟩, bound⟩, new⟩, later⟩ := read
      obtain ⟨each, unique⟩ := induction later
      constructor
      · intro other member
        rcases List.mem_cons.mp member with rfl | member
        · exact ⟨Nat.pos_of_ne_zero count, bound, new⟩
        · obtain ⟨positive, small, unread⟩ := each other member
          exact ⟨positive, small, fun present => unread (List.mem_append_left _ present)⟩
      · rw [List.map_cons, List.nodup_cons]
        refine ⟨fun present => ?_, unique⟩
        obtain ⟨other, member, same⟩ := List.mem_map.mp present
        exact (each other member).2.2 (same ▸ List.mem_append_right _ List.mem_cons_self)

theorem checkRequest_spec {packet : SellPacket} {result : AuctionHouseEntry × Nat}
    (checked : checkRequest context packet = some result) :
    readItems [] packet.items = true ∧ packet.bid ≠ 0 ∧ packet.bid ≤ maxMoneyAmount ∧
      packet.buyout ≤ maxMoneyAmount := by
  unfold checkRequest at checked
  split_ifs at checked with many read zero rich
  simp only [Bool.or_eq_true, decide_eq_true_eq, not_or, not_lt] at zero rich
  exact ⟨by simpa using read, zero.1, rich.1, rich.2⟩

/-- An item which passes the checks of the loop. -/
structure Sellable (player : Nat) (market : Market) (listed : ListedStack)
    (slot : InventorySlot) : Prop where
  found : market.inventory.getItemByGuid player listed.guid = some slot
  enough : listed.count ≤ slot.item.count
  unlisted : slot.item.guid ∉ market.house.aItems

/-- What the loop has put into `items`. -/
structure Collected (player : Nat) (market : Market) (items : List ListedStack)
    (slots : List InventorySlot) : Prop where
  each : ∀ listed ∈ items, ∃ slot ∈ slots, Sellable player market listed slot
  length : slots.length = items.length

theorem collectItems_spec {market : Market} {items : List ListedStack}
    {itemEntry finalCount : Nat} {slots : List InventorySlot} {count : Nat}
    (collected : market.collectItems context player items itemEntry finalCount =
      some (slots, count)) :
    Collected player market items slots ∧
      count = finalCount + (items.map ListedStack.count).sum := by
  induction items generalizing itemEntry finalCount slots with
  | nil =>
      unfold Market.collectItems at collected
      simp only [Option.some.injEq, Prod.mk.injEq] at collected
      obtain ⟨rfl, rfl⟩ := collected
      exact ⟨⟨fun _ none => absurd none List.not_mem_nil, rfl⟩, rfl⟩
  | cons listed rest induction =>
      unfold Market.collectItems at collected
      split at collected
      · exact nomatch collected
      · rename_i slot found
        dsimp only at collected
        rw [Option.ite_none_left_eq_some] at collected
        obtain ⟨passes, collected⟩ := collected
        obtain ⟨⟨others, total⟩, next, same⟩ := Option.map_eq_some_iff.mp collected
        simp only [Prod.mk.injEq] at same
        obtain ⟨rfl, rfl⟩ := same
        simp only [Bool.or_eq_true, decide_eq_true_eq, List.contains_eq_mem, not_or,
          not_lt] at passes
        obtain ⟨⟨each, length⟩, sum⟩ := induction next
        refine ⟨⟨?_, congrArg Nat.succ length⟩, ?_⟩
        · intro other member
          rcases List.mem_cons.mp member with rfl | later
          · exact ⟨slot, List.mem_cons_self, found, passes.1.2, passes.1.1.1.1.1.1⟩
          · obtain ⟨its, isSlot, sellable⟩ := each other later
            exact ⟨its, List.mem_cons_of_mem _ isSlot, sellable⟩
        · rw [sum, List.map_cons, List.sum_cons, Nat.add_assoc]

/-! ## Taking pieces out of stacks -/

/-- A weight that counts pieces, whatever stacks they are in. -/
def Counts (weight : Item → Nat) : Prop :=
  ∀ guid entry first second,
    weight ⟨guid, entry, first + second⟩ =
      weight ⟨guid, entry, first⟩ + weight ⟨guid, entry, second⟩

theorem counts_piecesOf (kind : Nat) : Counts (piecesOf kind) := by
  intro guid entry first second
  unfold piecesOf
  split_ifs <;> rfl

theorem counts_countIn (guid : Nat) : Counts (countIn guid) := by
  intro other entry first second
  unfold countIn
  split_ifs <;> rfl

theorem getItemByGuid_spec {inventory : Inventory} {guid : Nat} {slot : InventorySlot}
    (found : inventory.getItemByGuid player guid = some slot) :
    slot ∈ inventory ∧ slot.owner = player ∧ slot.item.guid = guid := by
  have passes := List.find?_some found
  rw [Bool.and_eq_true, decide_eq_true_eq, decide_eq_true_eq] at passes
  exact ⟨List.mem_of_find?_eq_some found, passes⟩

theorem getItemByGuid_of_mem {inventory : Inventory}
    (guids : (inventory.map fun slot => slot.item.guid).Nodup) {slot : InventorySlot}
    (member : slot ∈ inventory) (owner : slot.owner = player) :
    inventory.getItemByGuid player slot.item.guid = some slot := by
  cases found : inventory.getItemByGuid player slot.item.guid with
  | none =>
      have absent := List.find?_eq_none.mp found slot member
      simp [owner] at absent
  | some other =>
      obtain ⟨isOther, -, same⟩ := getItemByGuid_spec found
      rw [List.inj_on_of_nodup_map guids isOther member same]

/-- One item in each position, with a guid of its own. -/
structure Distinct (inventory : Inventory) : Prop where
  positions : inventory.Sound
  guids : (inventory.map fun slot => slot.item.guid).Nodup

section Taking

variable {inventory : Inventory} (distinct : Distinct inventory) {listed : ListedStack}

include distinct

theorem Distinct.takeStack : Distinct (Market.takeStack player inventory listed) := by
  unfold Market.takeStack
  split
  · exact distinct
  · split_ifs
    · constructor
      · exact Inventory.sound_moveItemFromInventory distinct.positions _ _
      · exact (List.filter_sublist.map _).nodup distinct.guids
    · constructor
      · exact modify_keys distinct.positions _ fun _ => rfl
      · unfold Table.modify
        rw [List.map_map]
        convert distinct.guids using 2
        funext slot
        dsimp only [Function.comp_apply]
        split_ifs <;> rfl

theorem mem_takeStack {other : InventorySlot} (differs : other.item.guid ≠ listed.guid) :
    other ∈ Market.takeStack player inventory listed ↔ other ∈ inventory := by
  unfold Market.takeStack
  split
  · exact Iff.rfl
  · rename_i slot found
    obtain ⟨member, -, same⟩ := getItemByGuid_spec found
    -- another item is in another position
    have apart : other ∈ inventory → other.key ≠ slot.key := by
      intro isOther sameKey
      rw [List.inj_on_of_nodup_map distinct.positions isOther member sameKey] at differs
      exact differs same
    split_ifs
    · exact mem_erase.trans ⟨And.left, fun isOther => ⟨isOther, apart isOther⟩⟩
    · refine mem_modify.trans ⟨?_, fun isOther => .inl ⟨isOther, apart isOther⟩⟩
      rintro (⟨isOther, -⟩ | ⟨old, isOld, sameKey, rfl⟩)
      · exact isOther
      · rw [List.inj_on_of_nodup_map distinct.positions isOld member sameKey] at differs
        exact absurd same differs

theorem holds_takeStack {slot : InventorySlot}
    (found : inventory.getItemByGuid player listed.guid = some slot)
    (enough : listed.count ≤ slot.item.count) {weight : Item → Nat} (counts : Counts weight) :
    (Market.takeStack player inventory listed).holds weight +
        weight ⟨listed.guid, slot.item.entry, listed.count⟩ = inventory.holds weight := by
  obtain ⟨member, -, same⟩ := getItemByGuid_spec found
  unfold Market.takeStack
  rw [found, ← same]
  dsimp only
  split_ifs with whole
  · rw [← whole]
    exact Inventory.holds_moveItemFromInventory distinct.positions weight member
  · have sum := sum_modify distinct.positions member
      (fun slot => { slot with
        item := { slot.item with count := slot.item.count - listed.count } })
      fun slot => weight slot.item
    have parts := counts slot.item.guid slot.item.entry (slot.item.count - listed.count)
      listed.count
    rw [Nat.sub_add_cancel enough] at parts
    have all : weight slot.item =
      weight ⟨slot.item.guid, slot.item.entry, slot.item.count⟩ := rfl
    dsimp only at sum
    unfold Inventory.holds
    omega

end Taking

/-- The stacks of a packet are there, with that many pieces of one kind. -/
def Offered (player kind : Nat) (inventory : Inventory) (items : List ListedStack) : Prop :=
  ∀ listed ∈ items, ∃ slot, inventory.getItemByGuid player listed.guid = some slot ∧
    listed.count ≤ slot.item.count ∧ slot.item.entry = kind

/-- The other stacks of a packet stay as they are. -/
theorem Offered.takeStack {kind : Nat} {inventory : Inventory} (distinct : Distinct inventory)
    {listed : ListedStack} {rest : List ListedStack}
    (offered : Offered player kind inventory (listed :: rest))
    (unique : ((listed :: rest).map ListedStack.guid).Nodup) :
    Offered player kind (Market.takeStack player inventory listed) rest := by
  rw [List.map_cons, List.nodup_cons] at unique
  intro other later
  obtain ⟨slot, found, enough⟩ := offered other (List.mem_cons_of_mem _ later)
  obtain ⟨member, owner, same⟩ := getItemByGuid_spec found
  have differs : slot.item.guid ≠ listed.guid := by
    intro sameGuid
    exact unique.1 (List.mem_map.mpr ⟨other, later, same.symm.trans sameGuid⟩)
  refine ⟨slot, ?_, enough⟩
  rw [← same]
  exact getItemByGuid_of_mem distinct.takeStack.guids
    ((mem_takeStack distinct differs).mpr member) owner

section Loop

variable {kind : Nat} {items : List ListedStack}

theorem holds_takeStacks (unique : (items.map ListedStack.guid).Nodup) {weight : Item → Nat}
    (counts : Counts weight) {inventory : Inventory} (distinct : Distinct inventory)
    (offered : Offered player kind inventory items) :
    (items.foldl (Market.takeStack player) inventory).holds weight +
        (items.map fun listed => weight ⟨listed.guid, kind, listed.count⟩).sum =
      inventory.holds weight := by
  induction items generalizing inventory with
  | nil => rfl
  | cons listed rest induction =>
      obtain ⟨slot, found, enough, rfl⟩ := offered listed List.mem_cons_self
      have first := holds_takeStack distinct found enough counts
      have others := induction unique.of_cons distinct.takeStack
        (offered.takeStack distinct unique)
      rw [List.foldl_cons, List.map_cons, List.sum_cons]
      omega

theorem mem_takeStacks {slot : InventorySlot}
    (other : slot.item.guid ∉ items.map ListedStack.guid) {inventory : Inventory}
    (distinct : Distinct inventory) :
    slot ∈ items.foldl (Market.takeStack player) inventory ↔ slot ∈ inventory := by
  induction items generalizing inventory with
  | nil => exact Iff.rfl
  | cons listed rest induction =>
      rw [List.map_cons, List.mem_cons, not_or] at other
      exact (induction other.2 distinct.takeStack).trans (mem_takeStack distinct other.1)

/-- A stack is listed once. -/
theorem sum_countIn (unique : (items.map ListedStack.guid).Nodup) {listed : ListedStack}
    (member : listed ∈ items) :
    (items.map fun other => countIn listed.guid ⟨other.guid, kind, other.count⟩).sum =
      listed.count := by
  induction items with
  | nil => exact absurd member List.not_mem_nil
  | cons first rest induction =>
      rw [List.map_cons, List.nodup_cons] at unique
      rw [List.map_cons, List.sum_cons]
      rcases List.mem_cons.mp member with rfl | later
      · have none : (rest.map fun other =>
            countIn listed.guid ⟨other.guid, kind, other.count⟩).sum = 0 := by
          rw [List.sum_eq_zero_iff]
          intro count isCount
          obtain ⟨other, isOther, rfl⟩ := List.mem_map.mp isCount
          apply if_neg
          rintro same
          exact unique.1 (same ▸ List.mem_map_of_mem isOther)
        rw [none]
        exact if_pos rfl
      · have differs : first.guid ≠ listed.guid := by
          intro same
          exact unique.1 (same ▸ List.mem_map_of_mem later)
        rw [induction unique.2 later, countIn, if_neg differs, Nat.zero_add]

theorem sum_piecesOf (other : Nat) :
    (items.map fun listed => piecesOf other ⟨listed.guid, kind, listed.count⟩).sum =
      if other = kind then (items.map ListedStack.count).sum else 0 := by
  unfold piecesOf
  split_ifs with same
  · subst same
    simp
  · simp [Ne.symm same]

end Loop

/-! ## Listing -/

theorem moneyOf_charge_of_ne {house : AuctionHouse} {other : Nat} (differs : other ≠ player)
    (amount : Nat) (type : MoneyLogType) (auctionId : Nat) :
    (house.charge player amount type auctionId).moneyOf other = house.moneyOf other := by
  unfold moneyOf moneyIn
  rw [show find PlayerMoney.guid (house.charge player amount type auctionId).players other =
    find PlayerMoney.guid house.players other from find_modify_of_ne differs _ fun _ => rfl]

/-- What the auction house does with a packet that has passed the checks. -/
theorem listed_of_inventory {market after : Market} (sound : market.Sound player)
    {request : SellRequest} {packet : SellPacket} (owner : request.player = player)
    (unlisted : request.itemGUIDLow ∉ market.house.aItems)
    (affordable : request.deposit ≤ market.house.moneyOf player)
    (house : after.house = Market.listItem market.house request)
    (count : request.itemCount = (packet.items.map ListedStack.count).sum)
    (taken : ∀ listed ∈ packet.items,
      after.inventory.holds (countIn listed.guid) + listed.count =
        market.inventory.holds (countIn listed.guid))
    (pieces : ∀ kind, after.inventory.holds (piecesOf kind) +
      (if kind = request.itemEntry then request.itemCount else 0) =
        market.inventory.holds (piecesOf kind))
    (untouched : ∀ slot, slot.item.guid ∉ packet.items.map ListedStack.guid →
      (slot ∈ after.inventory ↔ slot ∈ market.inventory)) :
    market.Listed player packet after (request.entry market.house.nextAuctionId) := by
  subst owner
  have list : Market.listItem market.house request =
      ((market.house.addAItem request.itemGUIDLow).listEntry
        (request.entry market.house.nextAuctionId)).charge request.player request.deposit .ahSell
          market.house.nextAuctionId := by
    unfold Market.listItem
    rw [if_neg (by simpa using unlisted)]
    rfl
  let charge : MoneyLogEntry :=
    ⟨request.player, .ahSell, market.house.nextAuctionId, request.deposit⟩
  have paid : Affordable market.house.players charge :=
    affordable_of_moneyOf sound.purses sound.seller affordable
  constructor
  · rw [house, list]
    rfl
  · rw [house, list]
    rfl
  · rw [house, list]
    rfl
  · rfl
  · rw [house, list]
    exact moneyOf_pay sound.purses paid rfl
  · rw [house, list]
    rfl
  · intro other differs
    rw [house, list]
    exact moneyOf_charge_of_ne differs _ _ _
  · exact count
  · exact taken
  · exact pieces
  · exact untouched

/-- What the checks of the items and of the money have established. -/
structure Offer.Checked (player : Nat) (context : SellContext) (market : Market) (offer : Offer) :
    Prop where
  unique : (offer.packet.items.map ListedStack.guid).Nodup
  slots : ∃ others, Collected player market offer.packet.items (offer.slot :: others) ∧
    ∀ other ∈ others, other.item.entry = offer.slot.item.entry
  total : offer.finalCount = (offer.packet.items.map ListedStack.count).sum
  fits : offer.finalCount ≤ context.maxStackSize offer.slot.item.entry
  affordable : offer.deposit context ≤ market.house.moneyOf player
  bid : offer.packet.bid ≠ 0 ∧ offer.packet.bid ≤ maxMoneyAmount
  buyout : offer.packet.buyout ≤ maxMoneyAmount

section Selling

variable {market : Market} {offer : Offer}

theorem Offer.Checked.offered (checked : offer.Checked player context market) :
    Offered player offer.slot.item.entry market.inventory offer.packet.items := by
  obtain ⟨others, collected, same⟩ := checked.slots
  intro listed member
  obtain ⟨slot, isSlot, sellable⟩ := collected.each listed member
  refine ⟨slot, sellable.found, sellable.enough, ?_⟩
  rcases List.mem_cons.mp isSlot with rfl | other
  · rfl
  · exact same slot other

/-- The only stack of a packet is the one at index 0. -/
theorem Offer.Checked.single (checked : offer.Checked player context market) {count : Nat}
    (single : offer.packet.items.map ListedStack.count = [count]) :
    ∃ listed, offer.packet.items = [listed] ∧ listed.count = count ∧
      Sellable player market listed offer.slot := by
  obtain ⟨others, collected, -⟩ := checked.slots
  obtain ⟨listed, items, isCount⟩ := List.map_eq_singleton_iff.mp single
  have length := collected.length
  rw [items] at length
  obtain rfl : others = [] := List.eq_nil_of_length_eq_zero (Nat.succ.inj length)
  obtain ⟨slot, isSlot, sellable⟩ := collected.each listed (items ▸ List.mem_cons_self)
  rw [List.mem_singleton.mp isSlot] at sellable
  exact ⟨listed, items, isCount, sellable⟩

/-- The stacks lose what was listed, and the new item makes up for it. -/
theorem Offer.Checked.listed (sound : market.Sound player)
    (checked : offer.Checked player context market) {after : Market} {item : Item}
    (entry : item.entry = offer.slot.item.entry) (count : item.count = offer.finalCount)
    (unlisted : item.guid ∉ market.house.aItems)
    (house : after.house = Market.listItem market.house (offer.request context player item))
    (inventory : after.inventory =
      offer.packet.items.foldl (Market.takeStack player) market.inventory) :
    ∃ entry, market.Listed player offer.packet after entry := by
  have distinct : Distinct market.inventory := ⟨sound.positions, sound.guids⟩
  have offered := checked.offered
  have loses : ∀ {weight : Item → Nat}, Counts weight → _ := fun counts =>
    holds_takeStacks checked.unique counts distinct offered
  refine ⟨_, listed_of_inventory sound rfl unlisted checked.affordable house
    (count.trans checked.total) ?_ ?_ ?_⟩
  · intro listed member
    have taken := loses (counts_countIn listed.guid)
    rw [sum_countIn checked.unique member, ← inventory] at taken
    exact taken
  · intro kind
    have taken := loses (counts_piecesOf kind)
    rw [sum_piecesOf, ← inventory, ← checked.total, ← count, ← entry] at taken
    exact taken
  · intro slot other
    rw [inventory]
    exact mem_takeStacks other distinct

/-- What is sold: the item of the one whole stack, or a new item, or nothing. -/
theorem Offer.Checked.sold (sound : market.Sound player)
    (checked : offer.Checked player context market) :
    market.Refused (market.sell context player offer) ∨
      ∃ item : Item, item.entry = offer.slot.item.entry ∧ item.count = offer.finalCount ∧
        item.guid ∉ market.house.aItems ∧
        (market.sell context player offer).house =
          Market.listItem market.house (offer.request context player item) ∧
        (market.sell context player offer).inventory =
          offer.packet.items.foldl (Market.takeStack player) market.inventory := by
  unfold Market.sell
  dsimp only
  split_ifs with whole
  · obtain ⟨listed, items, count, sellable⟩ := checked.single whole
    have total : offer.slot.item.count = offer.finalCount := by
      rw [checked.total, whole, List.sum_singleton]
    refine .inr ⟨offer.slot.item, rfl, total, sellable.unlisted, rfl, ?_⟩
    rw [items, List.foldl_cons, List.foldl_nil, Market.takeStack, sellable.found]
    exact (if_pos count.symm).symm
  · split
    · exact .inl ⟨rfl, rfl⟩
    · rename_i newItem cloned
      unfold Market.cloneItem at cloned
      rw [Option.ite_none_left_eq_some, Option.ite_none_left_eq_some, Option.some.injEq] at cloned
      obtain ⟨-, -, rfl⟩ := cloned
      have unlisted : market.nextItemGuid ∉ market.house.aItems :=
        fun present => absurd (sound.registered _ present) (Nat.lt_irrefl _)
      exact .inr ⟨⟨market.nextItemGuid, offer.slot.item.entry, _⟩, rfl,
        Nat.min_eq_left checked.fits, unlisted, rfl, rfl⟩

theorem allOrNothing_sell (sound : market.Sound player)
    (checked : offer.Checked player context market) :
    market.AllOrNothing player offer.packet (market.sell context player offer) := by
  rcases checked.sold sound with refused | ⟨item, entry, count, unlisted, house, inventory⟩
  · exact .inl refused
  · exact .inr (checked.listed sound entry count unlisted house inventory)

end Selling

/-! ## The handler -/

/-- The packet names no stack and passes the checks before the items. -/
def ReachesNoItem (context : SellContext) (packet : SellPacket) : Prop :=
  packet.items = [] ∧ (checkRequest context packet).isSome = true

section Handler

variable {market : Market} {packet : SellPacket}

/-- Nothing was written into the array whose first element is read. -/
theorem handleAuctionSellItem_of_none (reaches : ReachesNoItem context packet) :
    market.handleAuctionSellItem context player packet = none := by
  obtain ⟨none, checked⟩ := reaches
  obtain ⟨result, checked⟩ := Option.isSome_iff_exists.mp checked
  unfold Market.handleAuctionSellItem
  rw [checked, none]
  rfl

/-- Every other packet is refused or sold. -/
theorem handleAuctionSellItem_of_some (reaches : ¬ReachesNoItem context packet) :
    market.handleAuctionSellItem context player packet = some market ∨
      ∃ offer : Offer, offer.packet = packet ∧ offer.Checked player context market ∧
        market.handleAuctionSellItem context player packet =
          some (market.sell context player offer) := by
  unfold Market.handleAuctionSellItem
  cases request : checkRequest context packet with
  | none => exact .inl rfl
  | some result =>
      cases collected : market.collectItems context player packet.items 0 0 with
      | none => exact .inl rfl
      | some found =>
          obtain ⟨slots, finalCount⟩ := found
          obtain ⟨read, bid, low, buyout⟩ := checkRequest_spec request
          obtain ⟨all, total⟩ := collectItems_spec collected
          cases slots with
          | nil =>
              have none : packet.items = [] := List.eq_nil_of_length_eq_zero all.length.symm
              exact absurd ⟨none, by rw [request]; rfl⟩ reaches
          | cons slot others =>
              dsimp only [List.getElem?_cons_zero, List.drop_succ_cons, List.drop_zero]
              split_ifs with mixed zero twice small poor
              · exact .inl rfl
              · exact .inl rfl
              · exact .inl rfl
              · exact .inl rfl
              · exact .inl rfl
              · refine .inr ⟨_, rfl, ?_, rfl⟩
                exact {
                  unique := (readItems_spec read).2
                  slots := ⟨others, all, by simpa using mixed⟩
                  total := total.trans (Nat.zero_add _)
                  fits := by
                    by_contra more
                    exact small (by simp [not_le.mp more])
                  affordable := not_lt.mp poor
                  bid := ⟨bid, low⟩
                  buyout }

end Handler

/-- A packet is handled all or nothing unless it gets to the items without naming one. -/
theorem handleAuctionSellItem_allOrNothing_iff {market : Market} (sound : market.Sound player)
    (packet : SellPacket) :
    (∃ after, market.handleAuctionSellItem context player packet = some after ∧
      market.AllOrNothing player packet after) ↔ ¬ReachesNoItem context packet := by
  constructor
  · rintro ⟨after, handled, -⟩ reaches
    rw [handleAuctionSellItem_of_none reaches] at handled
    exact nomatch handled
  · intro reaches
    rcases handleAuctionSellItem_of_some reaches with refused | ⟨offer, rfl, checked, sold⟩
    · exact ⟨market, refused, .inl ⟨rfl, rfl⟩⟩
    · exact ⟨_, sold, allOrNothing_sell sound checked⟩

/-! ## A packet without stacks -/

def bazaar : SellContext where
  now := 1000
  getNPCIfCanInteractWith := fun _ => some 12
  getAuctionHouseEntry := fun _ => some ⟨1, 12, 15, 5⟩
  canBeTraded := fun _ => true
  isNotEmptyBag := fun _ => false
  isConjured := fun _ => false
  duration := fun _ => 0
  maxStackSize := fun _ => 20
  getAuctionDeposit := fun _ _ _ _ => 100
  auctionTime := fun etime => etime
  create := fun _ => true

/-- Player 5 has two stacks of cloth. -/
def clothMarket : Market where
  house := AuctionHouse.opened [⟨5, 1000⟩]
  inventory := [⟨5, 23, ⟨100, 2589, 20⟩⟩, ⟨5, 24, ⟨101, 2589, 7⟩⟩]
  nextItemGuid := 102

def sellPacket (items : List ListedStack) : SellPacket where
  auctioneer := 9
  items
  bid := 500
  buyout := 0
  etime := 720

theorem clothMarket_sound : clothMarket.Sound 5 := by
  refine ⟨⟨?_, ?_, ?_⟩, ?_, ?_, ?_, ?_⟩
  · decide
  · decide
  · decide
  · decide
  · unfold Inventory.Sound
    decide
  · decide
  · exact fun _ none => absurd none List.not_mem_nil

theorem clothMarket_allOrNothing :
    (∃ after, clothMarket.handleAuctionSellItem bazaar 5 (sellPacket [⟨100, 12⟩, ⟨101, 7⟩]) =
        some after ∧
      clothMarket.AllOrNothing 5 (sellPacket [⟨100, 12⟩, ⟨101, 7⟩]) after) ↔
      ¬ReachesNoItem bazaar (sellPacket [⟨100, 12⟩, ⟨101, 7⟩]) :=
  handleAuctionSellItem_allOrNothing_iff clothMarket_sound _

theorem noStacks_notHandled :
    ¬∃ after, clothMarket.handleAuctionSellItem bazaar 5 (sellPacket []) = some after ∧
      clothMarket.AllOrNothing 5 (sellPacket []) after := by
  rintro ⟨after, handled, -⟩
  have outside : clothMarket.handleAuctionSellItem bazaar 5 (sellPacket []) = none := by rfl
  exact nomatch outside.symm.trans handled

end RealmServer.Auctions.Selling
