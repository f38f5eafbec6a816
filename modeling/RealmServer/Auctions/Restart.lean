import RealmServer.Lib.Transition
import RealmServer.Auctions.House

/-!
# The auction houses over a restart

`AuctionHouseMgr` keeps three houses.  A new auction goes to the house of the
auctioneer's faction; a loaded one to the house of its own `factionTemplateId`,
which no line of the code ever sets.  An `AuctionEntry` made with
`new AuctionEntry()` has it zeroed, and in the `AuctionPendingSale` of the
loading loop it is indeterminate.

A house is here what its map holds when its queue is empty.
-/

namespace RealmServer.Auctions

open Table Players Transition

/-! ## Stores and houses -/

/-- The three elements of `auctions`. -/
inductive HouseIndex where
  | neutralAuctions
  | allianceAuctions
  | hordeAuctions
deriving DecidableEq, Repr

structure FactionTemplateEntry where
  ourMask : Nat
deriving DecidableEq, Repr

def factionMaskAlliance : Nat := 2

def factionMaskHorde : Nat := 4

/-- Configuration and data files; a row of `AuctionHouse.dbc` is found by its own id. -/
structure Stores where
  allowTwoSideInteractionAuction : Bool
  factionTemplates : Nat → Option FactionTemplateEntry
  auctionHouses : Nat → Option AuctionHouseEntry
  itemTemplates : Nat → Bool
  mailDeliveryDelay : Nat
  keyed : ∀ houseId entry, auctionHouses houseId = some entry → entry.houseId = houseId

variable (stores : Stores)

def getAuctionsMap (factionTemplateId : Nat) : HouseIndex :=
  if stores.allowTwoSideInteractionAuction then .neutralAuctions
  else
    match stores.factionTemplates factionTemplateId with
    | none => .neutralAuctions
    | some entry =>
        if entry.ourMask &&& factionMaskAlliance ≠ 0 then .allianceAuctions
        else if entry.ourMask &&& factionMaskHorde ≠ 0 then .hordeAuctions
        else .neutralAuctions

/-- The row of `AuctionHouse.dbc` for the faction of an auctioneer. -/
def houseIdOf (factionTemplateId : Nat) : Nat :=
  if stores.allowTwoSideInteractionAuction then 7
  else
    match factionTemplateId with
    | 12 => 1
    | 29 => 6
    | 55 => 2
    | 68 => 4
    | 80 => 3
    | 104 => 5
    | 120 => 7
    | 474 => 7
    | 855 => 7
    | 1604 => 6
    | _ =>
        match stores.factionTemplates factionTemplateId with
        | none => 7
        | some entry =>
            if entry.ourMask &&& factionMaskAlliance ≠ 0 then 1
            else if entry.ourMask &&& factionMaskHorde ≠ 0 then 6
            else 7

def getAuctionHouseEntry (factionTemplateId : Nat) : Option AuctionHouseEntry :=
  stores.auctionHouses (houseIdOf stores factionTemplateId)

/-! ## Rows -/

/-- `CHAR_INS_AUCTION`. -/
structure AuctionRow where
  id : Nat
  auctionHouseId : Nat
  itemguid : Nat
  itemowner : Nat
  buyoutprice : Nat
  time : Nat
  buyguid : Nat
  lastbid : Nat
  startbid : Nat
  deposit : Nat
deriving DecidableEq, Repr

structure ItemInstanceRow where
  guid : Nat
  itemEntry : Nat
  count : Nat
deriving DecidableEq, Repr

/-- `CHAR_INS_PENDING_SALE`. -/
structure PendingSaleRow where
  id : Nat
  itemEntry : Nat
  count : Nat
  seller : Nat
  buyer : Nat
  bid : Nat
  buyout : Nat
  time : Nat
  auctionHouseId : Nat
  deposit : Nat
deriving DecidableEq, Repr

structure AuctionDatabase where
  auctionhouse : List AuctionRow
  itemInstance : List ItemInstanceRow
  pendingSales : List PendingSaleRow
deriving DecidableEq, Repr

/-- `AuctionEntry::SaveToDB`. -/
def saveAuction (entry : AuctionEntry) : AuctionRow where
  id := entry.id
  auctionHouseId := entry.auctionHouseEntry.houseId
  itemguid := entry.itemGUIDLow
  itemowner := entry.owner
  buyoutprice := entry.buyout
  time := entry.expireTime % 2 ^ 32
  buyguid := entry.bidder
  lastbid := entry.bid
  startbid := entry.startbid
  deposit := entry.deposit

/-- `AuctionPendingSale::SaveToDB`. -/
def savePendingSale (sale : AuctionEntry) : PendingSaleRow where
  id := sale.id
  itemEntry := sale.itemEntry
  count := sale.itemCount
  seller := sale.owner
  buyer := sale.bidder
  bid := sale.bid
  buyout := sale.buyout
  time := sale.expireTime % 2 ^ 32
  auctionHouseId := sale.auctionHouseEntry.houseId
  deposit := sale.deposit

/-! ## The manager -/

/-- An auction or a pending sale with the house it is in. -/
structure Placed where
  house : HouseIndex
  entry : AuctionEntry
deriving DecidableEq, Repr

def Placed.id (placed : Placed) : Nat := placed.entry.id

/-- All that `AuctionHouseMgr` holds, by house. -/
structure AuctionHouseMgr where
  auctions : List Placed
  pendingSales : List Placed
  aItems : List Nat
deriving DecidableEq, Repr

structure Realm where
  manager : AuctionHouseMgr
  database : AuctionDatabase
  nextAuctionId : Nat
deriving DecidableEq, Repr

def Realm.empty : Realm where
  manager := { auctions := [], pendingSales := [], aItems := [] }
  database := { auctionhouse := [], itemInstance := [], pendingSales := [] }
  nextAuctionId := 1

/-- What players do between two restarts, as far as lists and rows are concerned. -/
inductive RealmEvent where
  /-- A sell packet at an auctioneer of a faction. -/
  | sellItem (creatureFaction : Nat) (request : AuctionHouse.SellRequest)
  /-- An accepted bid. -/
  | placeBid (auctionId bidder bid : Nat)
  /-- A buyout, or the expiry of an auction with a bidder. -/
  | sold (auctionId bidder bid now : Nat)
  /-- A cancellation, or the expiry of an auction without a bidder. -/
  | removed (auctionId : Nat)

def Realm.sellItem (realm : Realm) (creatureFaction : Nat)
    (request : AuctionHouse.SellRequest) : Realm :=
  match getAuctionHouseEntry stores creatureFaction with
  | none => realm
  | some auctionHouseEntry =>
      if realm.manager.aItems.contains request.itemGUIDLow ||
          !stores.itemTemplates request.itemEntry then realm
      else
        let entry :=
          { request.entry realm.nextAuctionId with auctionHouseEntry }
        { manager :=
            { realm.manager with
              auctions := realm.manager.auctions ++
                [{ house := getAuctionsMap stores creatureFaction, entry }]
              aItems := request.itemGUIDLow :: realm.manager.aItems }
          database :=
            { realm.database with
              auctionhouse := realm.database.auctionhouse ++ [saveAuction entry]
              itemInstance := assign ItemInstanceRow.guid realm.database.itemInstance
                { guid := request.itemGUIDLow, itemEntry := request.itemEntry,
                  count := request.itemCount } }
          nextAuctionId := realm.nextAuctionId + 1 }

/-- `CHAR_UPD_AUCTION_BID`. -/
def Realm.placeBid (realm : Realm) (auctionId bidder bid : Nat) : Realm :=
  { realm with
    manager :=
      { realm.manager with
        auctions := modify Placed.id realm.manager.auctions auctionId fun placed =>
          { placed with entry := { placed.entry with bidder, bid } } }
    database :=
      { realm.database with
        auctionhouse := modify AuctionRow.id realm.database.auctionhouse auctionId
          fun row => { row with buyguid := bidder, lastbid := bid } } }

/-- `RemoveAuction`, `RemoveAItem` and `CHAR_DEL_AUCTION`. -/
def Realm.removeAuction (realm : Realm) (placed : Placed) : Realm :=
  { realm with
    manager :=
      { realm.manager with
        auctions := erase Placed.id realm.manager.auctions placed.id
        aItems := realm.manager.aItems.filter (· ≠ placed.entry.itemGUIDLow) }
    database :=
      { realm.database with
        auctionhouse := erase AuctionRow.id realm.database.auctionhouse placed.id } }

/-- `AddPendingSale` in the house of the auction. -/
def Realm.addPendingSale (realm : Realm) (house : HouseIndex) (sale : AuctionEntry) :
    Realm :=
  { realm with
    manager :=
      { realm.manager with
        pendingSales := realm.manager.pendingSales ++ [{ house, entry := sale }] }
    database :=
      { realm.database with
        pendingSales := realm.database.pendingSales ++ [savePendingSale sale] } }

def Realm.step (realm : Realm) : RealmEvent → Realm
  | .sellItem creatureFaction request => realm.sellItem stores creatureFaction request
  | .placeBid auctionId bidder bid => realm.placeBid auctionId bidder bid
  | .sold auctionId bidder bid now =>
      match find Placed.id realm.manager.auctions auctionId with
      | none => realm
      | some placed =>
          (realm.addPendingSale placed.house
            { placed.entry with
              bidder, bid, expireTime := now + stores.mailDeliveryDelay }).removeAuction
            placed
  | .removed auctionId =>
      match find Placed.id realm.manager.auctions auctionId with
      | none => realm
      | some placed => realm.removeAuction placed

/-! ## Loading -/

/-- `LoadAuctionItems`: the items of the join whose template exists. -/
def loadAuctionItems (database : AuctionDatabase) : List Nat :=
  (database.auctionhouse.filter fun row =>
    match find ItemInstanceRow.guid database.itemInstance row.itemguid with
    | none => false
    | some item => stores.itemTemplates item.itemEntry).map AuctionRow.itemguid

/-- `AuctionEntry::LoadFromDB` into a `new AuctionEntry()`, for one row of the join. -/
def loadAuction (aItems : List Nat) (row : AuctionRow) (item : ItemInstanceRow) :
    Option AuctionEntry :=
  match stores.auctionHouses row.auctionHouseId with
  | none => none
  | some auctionHouseEntry =>
      if aItems.contains row.itemguid then
        some
          { id := row.id
            itemGUIDLow := row.itemguid
            itemEntry := item.itemEntry
            itemCount := item.count
            owner := row.itemowner
            startbid := row.startbid
            bid := row.lastbid
            buyout := row.buyoutprice
            expireTime := row.time
            bidder := row.buyguid
            deposit := row.deposit
            auctionHouseEntry }
      else none

/-- `AuctionPendingSale::LoadFromDB` into an object with an indeterminate faction. -/
def loadPendingSale (factionTemplateId : Nat) (row : PendingSaleRow) :
    Option AuctionEntry :=
  match stores.auctionHouses row.auctionHouseId with
  | none => none
  | some auctionHouseEntry =>
      some
        { id := row.id
          itemGUIDLow := 0
          itemEntry := row.itemEntry
          itemCount := row.count
          owner := row.seller
          startbid := 0
          bid := row.bid
          buyout := row.buyout
          expireTime := row.time
          bidder := row.buyer
          deposit := row.deposit
          auctionHouseEntry
          factionTemplateId }

/-- Both put what they load into the house of its `factionTemplateId`. -/
def place (entry : AuctionEntry) : Placed where
  house := getAuctionsMap stores entry.factionTemplateId
  entry := entry

/-- `CHAR_SEL_AUCTIONS`: the auctions joined with the rows of their items. -/
def selectAuctions (database : AuctionDatabase) : List (AuctionRow × ItemInstanceRow) :=
  database.auctionhouse.filterMap fun row =>
    (find ItemInstanceRow.guid database.itemInstance row.itemguid).map (row, ·)

/--
`LoadAuctions` on an empty manager.  It returns before the pending sales when the
join has no row.  What the stack holds where a pending sale with some id is loaded
is an argument.
-/
def loadAuctions (indeterminate : Nat → Nat) (database : AuctionDatabase) :
    AuctionHouseMgr where
  auctions := (selectAuctions database).filterMap fun (row, item) =>
    (loadAuction stores (loadAuctionItems stores database) row item).map (place stores)
  pendingSales :=
    if selectAuctions database = [] then []
    else
      database.pendingSales.filterMap fun row =>
        (loadPendingSale stores (indeterminate row.id) row).map (place stores)
  aItems := loadAuctionItems stores database

/-! ## Surviving a restart -/

/-- What a player sees of an auction or a pending sale, and in which house. -/
structure SeenTerms where
  house : HouseIndex
  id : Nat
  owner : Nat
  bid : Nat
  buyout : Nat
  bidder : Nat
  deposit : Nat
  expireTime : Nat
deriving DecidableEq, Repr

def Placed.terms (placed : Placed) : SeenTerms where
  house := placed.house
  id := placed.entry.id
  owner := placed.entry.owner
  bid := placed.entry.bid
  buyout := placed.entry.buyout
  bidder := placed.entry.bidder
  deposit := placed.entry.deposit
  expireTime := placed.entry.expireTime

/-- Loading shows the same auctions and the same pending sales in the same houses. -/
structure SurvivesRestart (indeterminate : Nat → Nat) (realm : Realm) : Prop where
  auctions : ∀ terms,
    terms ∈ (loadAuctions stores indeterminate realm.database).auctions.map Placed.terms ↔
      terms ∈ realm.manager.auctions.map Placed.terms
  pendingSales : ∀ terms,
    terms ∈ (loadAuctions stores indeterminate realm.database).pendingSales.map
        Placed.terms ↔
      terms ∈ realm.manager.pendingSales.map Placed.terms

/--
Auctions are in the house of faction template 0, pending sales in the house of
what the stack will hold and beside an auction, and all times fit a `uint32`.
-/
structure InLoadedHouse (indeterminate : Nat → Nat) (manager : AuctionHouseMgr) : Prop where
  auctions : ∀ placed ∈ manager.auctions,
    placed.house = getAuctionsMap stores 0 ∧ placed.entry.expireTime < 2 ^ 32
  pendingSales : ∀ placed ∈ manager.pendingSales,
    placed.house = getAuctionsMap stores (indeterminate placed.id) ∧
      placed.entry.expireTime < 2 ^ 32 ∧ manager.auctions ≠ []

/-! ### The database follows the manager -/

/-- Every list of the manager is the image of its rows. -/
structure Stored (realm : Realm) : Prop where
  rows : realm.database.auctionhouse =
    realm.manager.auctions.map fun placed => saveAuction placed.entry
  saleRows : realm.database.pendingSales =
    realm.manager.pendingSales.map fun placed => savePendingSale placed.entry
  ids : (realm.manager.auctions.map Placed.id).Nodup
  fresh : ∀ placed ∈ realm.manager.auctions, placed.id < realm.nextAuctionId
  houses : ∀ placed ∈ realm.manager.auctions ++ realm.manager.pendingSales,
    stores.auctionHouses placed.entry.auctionHouseEntry.houseId =
      some placed.entry.auctionHouseEntry
  items : ∀ placed ∈ realm.manager.auctions,
    find ItemInstanceRow.guid realm.database.itemInstance placed.entry.itemGUIDLow =
      some { guid := placed.entry.itemGUIDLow, itemEntry := placed.entry.itemEntry,
             count := placed.entry.itemCount } ∧
    stores.itemTemplates placed.entry.itemEntry = true
  registered : ∀ placed ∈ realm.manager.auctions,
    placed.entry.itemGUIDLow ∈ realm.manager.aItems
  itemGuids : (realm.manager.auctions.map (·.entry.itemGUIDLow)).Nodup
  /-- `factionTemplateId` keeps the zero of `new AuctionEntry()`. -/
  unset : ∀ placed ∈ realm.manager.auctions, placed.entry.factionTemplateId = 0

theorem empty_stored : Stored stores Realm.empty := by
  constructor <;> simp [Realm.empty]

section Steps

variable {stores}

theorem Stored.sellItem {realm : Realm} (stored : Stored stores realm)
    (creatureFaction : Nat) (request : AuctionHouse.SellRequest) :
    Stored stores (realm.sellItem stores creatureFaction request) := by
  unfold Realm.sellItem
  cases found : getAuctionHouseEntry stores creatureFaction with
  | none => exact stored
  | some auctionHouseEntry =>
      dsimp only
      split_ifs with refused
      · exact stored
      · simp only [Bool.or_eq_true, List.contains_iff_mem, Bool.not_eq_true', not_or,
          Bool.not_eq_false] at refused
        obtain ⟨newItem, template⟩ := refused
        have keyed : auctionHouseEntry.houseId = houseIdOf stores creatureFaction :=
          stores.keyed _ _ found
        have otherItem : ∀ placed ∈ realm.manager.auctions,
            placed.entry.itemGUIDLow ≠ request.itemGUIDLow := by
          intro placed member same
          exact newItem (same ▸ stored.registered placed member)
        constructor
        · simp [stored.rows]
        · exact stored.saleRows
        · rw [List.map_append, List.nodup_append]
          refine ⟨stored.ids, by simp, ?_⟩
          rintro id old _ new rfl
          obtain ⟨placed, member, rfl⟩ := List.mem_map.mp old
          simp only [List.map_cons, List.map_nil, List.mem_singleton] at new
          exact Nat.ne_of_lt (stored.fresh placed member) new
        · intro placed member
          rcases List.mem_append.mp member with old | new
          · exact Nat.lt_succ_of_lt (stored.fresh placed old)
          · rw [List.mem_singleton.mp new]
            exact Nat.lt_succ_self _
        · intro placed member
          rw [List.mem_append, List.mem_append, List.mem_singleton] at member
          rcases member with (old | rfl) | sale
          · exact stored.houses placed (List.mem_append_left _ old)
          · dsimp only
            rw [keyed]
            exact found
          · exact stored.houses placed (List.mem_append_right _ sale)
        · intro placed member
          rcases List.mem_append.mp member with old | new
          · obtain ⟨item, oldTemplate⟩ := stored.items placed old
            have kept : find ItemInstanceRow.guid
                (assign ItemInstanceRow.guid realm.database.itemInstance
                  { guid := request.itemGUIDLow, itemEntry := request.itemEntry,
                    count := request.itemCount }) placed.entry.itemGUIDLow =
                find ItemInstanceRow.guid realm.database.itemInstance
                  placed.entry.itemGUIDLow :=
              find_assign_of_ne (otherItem placed old)
            exact ⟨kept.trans item, oldTemplate⟩
          · rw [List.mem_singleton.mp new]
            exact ⟨find_assign_self _ _, template⟩
        · intro placed member
          rcases List.mem_append.mp member with old | new
          · exact List.mem_cons_of_mem _ (stored.registered placed old)
          · rw [List.mem_singleton.mp new]
            exact List.mem_cons_self
        · rw [List.map_append, List.nodup_append]
          refine ⟨stored.itemGuids, by simp, ?_⟩
          rintro guid old _ new rfl
          obtain ⟨placed, member, rfl⟩ := List.mem_map.mp old
          simp only [List.map_cons, List.map_nil, List.mem_singleton] at new
          exact otherItem placed member new
        · intro placed member
          rcases List.mem_append.mp member with old | new
          · exact stored.unset placed old
          · rw [List.mem_singleton.mp new]
            rfl

/-- A change of the entry which leaves its id, item and house alone. -/
theorem Stored.placeBid {realm : Realm} (stored : Stored stores realm)
    (auctionId bidder bid : Nat) : Stored stores (realm.placeBid auctionId bidder bid) := by
  have origin : ∀ placed ∈ (realm.placeBid auctionId bidder bid).manager.auctions,
      ∃ old ∈ realm.manager.auctions, placed.id = old.id ∧
        placed.entry.itemGUIDLow = old.entry.itemGUIDLow ∧
        placed.entry.itemEntry = old.entry.itemEntry ∧
        placed.entry.itemCount = old.entry.itemCount ∧
        placed.entry.auctionHouseEntry = old.entry.auctionHouseEntry ∧
        placed.entry.factionTemplateId = old.entry.factionTemplateId := by
    intro placed member
    rcases mem_modify.mp member with ⟨old, _⟩ | ⟨old, oldMember, _, rfl⟩
    · exact ⟨placed, old, rfl, rfl, rfl, rfl, rfl, rfl⟩
    · exact ⟨old, oldMember, rfl, rfl, rfl, rfl, rfl, rfl⟩
  constructor
  · unfold Realm.placeBid
    dsimp only
    rw [stored.rows]
    apply modify_map
    · intro placed
      rfl
    · intro placed
      rfl
  · exact stored.saleRows
  · exact modify_keys stored.ids _ fun _ => rfl
  · intro placed member
    obtain ⟨old, oldMember, id, _⟩ := origin placed member
    exact id ▸ stored.fresh old oldMember
  · intro placed member
    rcases List.mem_append.mp member with auction | sale
    · obtain ⟨old, oldMember, _, _, _, _, entry, _⟩ := origin placed auction
      rw [entry]
      exact stored.houses old (List.mem_append_left _ oldMember)
    · exact stored.houses placed (List.mem_append_right _ sale)
  · intro placed member
    obtain ⟨old, oldMember, _, guid, itemEntry, count, _⟩ := origin placed member
    rw [guid, itemEntry, count]
    exact stored.items old oldMember
  · intro placed member
    obtain ⟨old, oldMember, _, guid, _⟩ := origin placed member
    rw [guid]
    exact stored.registered old oldMember
  · have same : (realm.placeBid auctionId bidder bid).manager.auctions.map
        (·.entry.itemGUIDLow) = realm.manager.auctions.map (·.entry.itemGUIDLow) := by
      show (modify Placed.id realm.manager.auctions auctionId _).map _ = _
      unfold Table.modify
      rw [List.map_map]
      apply List.map_congr_left
      intro placed _
      dsimp only [Function.comp_apply]
      split_ifs <;> rfl
    rw [same]
    exact stored.itemGuids
  · intro placed member
    obtain ⟨old, oldMember, _, _, _, _, _, faction⟩ := origin placed member
    exact faction.trans (stored.unset old oldMember)

theorem Stored.removeAuction {realm : Realm} (stored : Stored stores realm)
    {placed : Placed} (member : placed ∈ realm.manager.auctions) :
    Stored stores (realm.removeAuction placed) := by
  have kept : ∀ other ∈ (realm.removeAuction placed).manager.auctions,
      other ∈ realm.manager.auctions := fun other left => (mem_erase.mp left).1
  constructor
  · show erase AuctionRow.id realm.database.auctionhouse placed.id = _
    rw [stored.rows]
    exact erase_map (fun _ => rfl) _ _
  · exact stored.saleRows
  · exact erase_keys stored.ids _
  · exact fun other left => stored.fresh other (kept other left)
  · intro other left
    apply stored.houses other
    rcases List.mem_append.mp left with auction | sale
    · exact List.mem_append_left _ (kept other auction)
    · exact List.mem_append_right _ sale
  · exact fun other left => stored.items other (kept other left)
  · intro other left
    obtain ⟨old, differs⟩ := mem_erase.mp left
    refine List.mem_filter.mpr ⟨stored.registered other old, decide_eq_true ?_⟩
    intro same
    rw [List.inj_on_of_nodup_map stored.itemGuids old member same] at differs
    exact differs rfl
  · exact filter_keys stored.itemGuids _
  · exact fun other left => stored.unset other (kept other left)

theorem Stored.addPendingSale {realm : Realm} (stored : Stored stores realm)
    (house : HouseIndex) {sale : AuctionEntry}
    (known : stores.auctionHouses sale.auctionHouseEntry.houseId =
      some sale.auctionHouseEntry) :
    Stored stores (realm.addPendingSale house sale) where
  __ := stored
  saleRows := by simp [Realm.addPendingSale, stored.saleRows]
  houses := by
    intro placed member
    simp only [Realm.addPendingSale, List.mem_append, List.mem_singleton] at member
    rcases member with auction | sale | rfl
    · exact stored.houses placed (List.mem_append_left _ auction)
    · exact stored.houses placed (List.mem_append_right _ sale)
    · exact known

theorem Stored.step {realm : Realm} (stored : Stored stores realm) (event : RealmEvent) :
    Stored stores (realm.step stores event) := by
  cases event with
  | sellItem creatureFaction request => exact stored.sellItem creatureFaction request
  | placeBid auctionId bidder bid => exact stored.placeBid auctionId bidder bid
  | sold auctionId bidder bid now =>
      unfold Realm.step
      dsimp only
      cases found : find Placed.id realm.manager.auctions auctionId with
      | none => exact stored
      | some placed =>
          have member := mem_of_find found
          have known := stored.houses placed (List.mem_append_left _ member)
          dsimp only
          apply Stored.removeAuction
          · exact stored.addPendingSale placed.house known
          · exact member
  | removed auctionId =>
      unfold Realm.step
      dsimp only
      cases found : find Placed.id realm.manager.auctions auctionId with
      | none => exact stored
      | some placed => exact stored.removeAuction (mem_of_find found)

end Steps

/-! ### What is loaded -/

/-- An auction as it comes back. -/
def reloaded (placed : Placed) : Placed where
  house := getAuctionsMap stores 0
  entry := { placed.entry with expireTime := placed.entry.expireTime % 2 ^ 32 }

/-- A pending sale as it comes back: its item and start bid are not stored. -/
def reloadedSale (indeterminate : Nat → Nat) (placed : Placed) : Placed where
  house := getAuctionsMap stores (indeterminate placed.id)
  entry :=
    { placed.entry with
      itemGUIDLow := 0
      startbid := 0
      expireTime := placed.entry.expireTime % 2 ^ 32
      factionTemplateId := indeterminate placed.id }

section Loading

variable {stores} {realm : Realm}

theorem Stored.itemLoaded (stored : Stored stores realm) {placed : Placed}
    (member : placed ∈ realm.manager.auctions) :
    placed.entry.itemGUIDLow ∈ loadAuctionItems stores realm.database := by
  obtain ⟨item, template⟩ := stored.items placed member
  unfold loadAuctionItems
  refine List.mem_map.mpr ⟨saveAuction placed.entry, List.mem_filter.mpr ⟨?_, ?_⟩, rfl⟩
  · rw [stored.rows]
    exact List.mem_map_of_mem member
  · show (match find ItemInstanceRow.guid realm.database.itemInstance
        placed.entry.itemGUIDLow with
      | none => false
      | some item => stores.itemTemplates item.itemEntry) = true
    rw [item]
    exact template

/-- Every auction is a row of the join. -/
theorem Stored.selected (stored : Stored stores realm) :
    selectAuctions realm.database = realm.manager.auctions.map fun placed =>
      (saveAuction placed.entry,
        { guid := placed.entry.itemGUIDLow, itemEntry := placed.entry.itemEntry,
          count := placed.entry.itemCount }) := by
  unfold selectAuctions
  rw [stored.rows, List.filterMap_map, ← List.filterMap_eq_map]
  apply List.filterMap_congr
  intro placed member
  simp only [Function.comp_apply, saveAuction, (stored.items placed member).1,
    Option.map_some]

theorem Stored.loaded_auctions (stored : Stored stores realm)
    (indeterminate : Nat → Nat) :
    (loadAuctions stores indeterminate realm.database).auctions =
      realm.manager.auctions.map (reloaded stores) := by
  unfold loadAuctions
  dsimp only
  rw [stored.selected, List.filterMap_map, ← List.filterMap_eq_map]
  apply List.filterMap_congr
  intro placed member
  have house := stored.houses placed (List.mem_append_left _ member)
  have loaded := List.contains_iff_mem.mpr (stored.itemLoaded member)
  have unset := stored.unset placed member
  simp only [Function.comp_apply, saveAuction, loadAuction, house]
  rw [if_pos loaded]
  simp [place, reloaded, unset]

theorem Stored.loaded_pendingSales (stored : Stored stores realm)
    (indeterminate : Nat → Nat) :
    (loadAuctions stores indeterminate realm.database).pendingSales =
      if realm.manager.auctions = [] then []
      else realm.manager.pendingSales.map (reloadedSale stores indeterminate) := by
  unfold loadAuctions
  dsimp only
  simp only [stored.selected, List.map_eq_nil_iff]
  congr 1
  rw [stored.saleRows, List.filterMap_map, ← List.filterMap_eq_map]
  apply List.filterMap_congr
  intro placed member
  have house := stored.houses placed (List.mem_append_right _ member)
  simp only [Function.comp_apply, savePendingSale, loadPendingSale, house]
  rfl

/-- Exactly the auctions and sales which are already where loading puts them survive. -/
theorem Stored.loaded_survives_iff (stored : Stored stores realm)
    (indeterminate : Nat → Nat) :
    SurvivesRestart stores indeterminate realm ↔
      InLoadedHouse stores indeterminate realm.manager := by
  constructor
  · intro survives
    constructor
    · intro placed member
      have seen := (survives.auctions placed.terms).mpr (List.mem_map_of_mem member)
      rw [stored.loaded_auctions, List.map_map] at seen
      obtain ⟨other, _, same⟩ := List.mem_map.mp seen
      have house : getAuctionsMap stores 0 = placed.house := congrArg SeenTerms.house same
      have time : other.entry.expireTime % 2 ^ 32 = placed.entry.expireTime :=
        congrArg SeenTerms.expireTime same
      exact ⟨house.symm, time ▸ Nat.mod_lt _ (by decide)⟩
    · intro placed member
      have seen := (survives.pendingSales placed.terms).mpr (List.mem_map_of_mem member)
      rw [stored.loaded_pendingSales] at seen
      split_ifs at seen with noAuction
      · simp at seen
      rw [List.map_map] at seen
      obtain ⟨other, _, same⟩ := List.mem_map.mp seen
      have id : other.id = placed.id := congrArg SeenTerms.id same
      have house : getAuctionsMap stores (indeterminate other.id) = placed.house :=
        congrArg SeenTerms.house same
      have time : other.entry.expireTime % 2 ^ 32 = placed.entry.expireTime :=
        congrArg SeenTerms.expireTime same
      exact ⟨id ▸ house.symm, time ▸ Nat.mod_lt _ (by decide), noAuction⟩
  · intro stays
    constructor
    · intro terms
      have same : (realm.manager.auctions.map (reloaded stores)).map Placed.terms =
          realm.manager.auctions.map Placed.terms := by
        rw [List.map_map]
        apply List.map_congr_left
        intro placed member
        obtain ⟨house, time⟩ := stays.auctions placed member
        simp only [Function.comp_apply, reloaded, Placed.terms, ← house,
          Nat.mod_eq_of_lt time]
      rw [stored.loaded_auctions, same]
    · intro terms
      have same : (realm.manager.pendingSales.map
          (reloadedSale stores indeterminate)).map Placed.terms =
            realm.manager.pendingSales.map Placed.terms := by
        rw [List.map_map]
        apply List.map_congr_left
        intro placed member
        obtain ⟨house, time, _⟩ := stays.pendingSales placed member
        simp only [Function.comp_apply, reloadedSale, Placed.terms, ← house,
          Nat.mod_eq_of_lt time]
      rw [stored.loaded_pendingSales]
      split_ifs with noAuction
      · cases sold : realm.manager.pendingSales with
        | nil => rfl
        | cons sale rest =>
            exact absurd noAuction (stays.pendingSales sale (by simp [sold])).2.2
      · rw [same]

end Loading

/--
After any events, a restart keeps every auction and every pending sale in its
house exactly when all of them are in the houses loading puts them in and no
pending sale is without an auction beside it.
-/
theorem survivesRestart_iff (indeterminate : Nat → Nat) (events : List RealmEvent) :
    SurvivesRestart stores indeterminate (run (Realm.step stores) Realm.empty events) ↔
      InLoadedHouse stores indeterminate
        (run (Realm.step stores) Realm.empty events).manager := by
  have preserved : ∀ realm event, Stored stores realm →
      Stored stores (Realm.step stores realm event) :=
    fun _ event stored => stored.step event
  have stored := run_of_preserved preserved events (empty_stored stores)
  exact stored.loaded_survives_iff indeterminate

/-! ### An alliance auction -/

/-- Faction template 55 is of the alliance; there is no faction template 0. -/
def twoFactions : Stores where
  allowTwoSideInteractionAuction := false
  factionTemplates := fun factionTemplateId =>
    if factionTemplateId = 55 then some { ourMask := 3 } else none
  auctionHouses := fun houseId =>
    some { houseId, faction := 12, depositPercent := 5, cutPercent := 5 }
  itemTemplates := fun _ => true
  mailDeliveryDelay := 3600
  keyed := by
    rintro houseId entry same
    cases same
    rfl

def dwarvenAuction : RealmEvent :=
  .sellItem 55
    { player := 1, itemGUIDLow := 70, itemEntry := 25, itemCount := 1, bid := 100,
      buyout := 2000, expireTime := 43200, deposit := 100,
      auctionHouseEntry :=
        { houseId := 2, faction := 12, depositPercent := 5, cutPercent := 5 } }

/-- An auction of the alliance is in the neutral house after the restart. -/
theorem dwarvenAuction_moves :
    ¬ SurvivesRestart twoFactions (fun _ => 0)
        (run (Realm.step twoFactions) Realm.empty [dwarvenAuction]) := by
  intro survives
  have seen := (survives.auctions
    { house := .allianceAuctions, id := 1, owner := 1, bid := 0, buyout := 2000,
      bidder := 0, deposit := 100, expireTime := 43200 }).mpr (by decide)
  revert seen
  decide

end RealmServer.Auctions
