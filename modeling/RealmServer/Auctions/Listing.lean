import RealmServer.Auctions.House
import RealmServer.Lib.StableOrder

/-!
# Pages of an auction search

`AuctionHouseObject::BuildListAuctionItems` goes through the auctions by id and
keeps the first `listfrom + 50` matches in a multiset ordered by an
`AuctionSorter`.  The page is then written from the end of the multiset.
-/

namespace RealmServer.Auctions

open StableOrder

/-- What the search and the sorter read of an `ItemTemplate`. -/
structure ItemTemplate where
  itemClass : UInt32
  subClass : UInt32
  /-- `GetInventoryTypeForAuctionFilter`. -/
  inventoryType : UInt32
  quality : UInt32
  itemLevel : UInt32
  requiredLevel : UInt32
  /-- `Spells[1]`: whether its trigger is `ITEM_SPELLTRIGGER_LEARN_SPELL_ID`, and its id. -/
  learnSpell : Bool
  spellId : UInt32
deriving DecidableEq, Repr

/-- An item of an auction. -/
structure AuctionItem where
  guidLow : Nat
  template : ItemTemplate
deriving DecidableEq, Repr

/-- An element of `AuctionsMap` with its entry. -/
structure ListedAuction where
  id : UInt32
  entry : AuctionEntry
deriving DecidableEq, Repr

/-- `AuctionsMap`, a `std::map`. -/
structure AuctionsMap where
  auctions : List ListedAuction
  ordered : (auctions.map fun auction => auction.id.toNat).Pairwise (· < ·)

/-- What a search finds outside the auction house. -/
structure SearchContext where
  curTime : Nat
  /-- `GetAItem`. -/
  getAItem : Nat → Option AuctionItem
  /-- `GetItemTemplate`, by entry. -/
  getItemTemplate : Nat → Option ItemTemplate
  /-- The bytes of `PlayerCache::GetName`. -/
  getName : Nat → List UInt8
  /-- `CanUseItem(item) == EQUIP_ERR_OK`. -/
  canUseItem : AuctionItem → Bool
  hasSpell : UInt32 → Bool
  /-- The localized name with its suffix has the searched part in it. -/
  nameFits : AuctionItem → List UInt16 → Bool

/-- The filter of a search. -/
structure AuctionSearch where
  searchedname : List UInt16
  levelmin : UInt8
  levelmax : UInt8
  usable : UInt8
  inventoryType : UInt32
  itemClass : UInt32
  itemSubClass : UInt32
  quality : UInt32
  /-- Read from the packet, so it need not be an `AuctionSortType`. -/
  sorting : UInt8
  sortDesc : Bool

/-! ## The sorter -/

namespace AuctionEntry

def getItemLevel (context : SearchContext) (entry : AuctionEntry) : Nat :=
  match context.getItemTemplate entry.itemEntry with
  | some template => template.itemLevel.toNat
  | none => 0

def getItemQuality (context : SearchContext) (entry : AuctionEntry) : Nat :=
  match context.getItemTemplate entry.itemEntry with
  | some template => template.quality.toNat
  | none => 0

/-- The bytes as `std::strcmp` compares them. -/
def getOwnerName (context : SearchContext) (entry : AuctionEntry) : List Nat :=
  (context.getName entry.owner).map UInt8.toNat

def getCurrentOrStartBid (entry : AuctionEntry) : Nat :=
  if entry.bid ≠ 0 then entry.bid else entry.startbid

end AuctionEntry

/-- `AuctionSorter`; the client reverses the order for rarity. -/
def auctionSorter (context : SearchContext) (sorting : UInt8) (sortDesc : Bool)
    (first second : AuctionEntry) : Bool :=
  match sorting.toNat, sortDesc with
  | 0, false => first.getItemLevel context < second.getItemLevel context
  | 0, true => first.getItemLevel context > second.getItemLevel context
  | 1, true => first.getItemQuality context < second.getItemQuality context
  | 3, false => first.expireTime < second.expireTime
  | 3, true => first.expireTime > second.expireTime
  | 7, false => first.getOwnerName context < second.getOwnerName context
  | 7, true => first.getOwnerName context > second.getOwnerName context
  | 8, false => first.getCurrentOrStartBid < second.getCurrentOrStartBid
  | 8, true => first.getCurrentOrStartBid > second.getCurrentOrStartBid
  | _, _ => first.getItemQuality context > second.getItemQuality context

/-! ## The search -/

/-- The checks which skip an auction; `none` of a filter is `0xffffffff`. -/
def AuctionSearch.filterPasses (search : AuctionSearch) (context : SearchContext)
    (item : AuctionItem) : Bool :=
  let template := item.template
  let levelmin := search.levelmin.toNat
  let levelmax := search.levelmax.toNat
  if search.itemClass ≠ 0xffffffff ∧ template.itemClass ≠ search.itemClass then false
  else if search.itemSubClass ≠ 0xffffffff ∧ template.subClass ≠ search.itemSubClass then false
  else if search.inventoryType ≠ 0xffffffff ∧ template.inventoryType ≠ search.inventoryType then
    false
  else if search.quality ≠ 0xffffffff ∧ template.quality ≠ search.quality then false
  else if levelmin ≠ 0 ∧ (template.requiredLevel.toNat < levelmin ∨
      levelmax ≠ 0 ∧ template.requiredLevel.toNat > levelmax) then false
  else if search.usable ≠ 0 ∧ (¬context.canUseItem item ∨
      template.learnSpell ∧ context.hasSpell template.spellId) then false
  else search.searchedname = [] || context.nameFits item search.searchedname

/-- `count` and `totalcount` with the auctions in the packet and in the multiset. -/
structure AuctionList where
  res : List ListedAuction
  data : List ListedAuction
  count : Nat
  totalcount : Nat
deriving DecidableEq, Repr

def maxAuctionsShown : Nat := 50000

section Search

variable (context : SearchContext) (search : AuctionSearch)

/-- The order of the multiset. -/
def AuctionSearch.sortsBefore (first second : ListedAuction) : Prop :=
  auctionSorter context search.sorting search.sortDesc first.entry second.entry

instance : DecidableRel (search.sortsBefore context) := fun first second =>
  inferInstanceAs (Decidable
    (auctionSorter context search.sorting search.sortDesc first.entry second.entry = true))

/-- An auction is neither skipped nor, in a full scan, written at once. -/
def AuctionSearch.listAuction (listfrom : UInt32) (isFull : Bool) (list : AuctionList)
    (auction : ListedAuction) : AuctionList :=
  if auction.entry.expireTime < context.curTime then list
  else
    match context.getAItem auction.entry.itemGUIDLow with
    | none => list
    | some item =>
        let totalcount := (list.totalcount + 1) % 2 ^ 32
        if isFull then
          if list.count < maxAuctionsShown then
            { list with data := list.data ++ [auction], count := list.count + 1, totalcount }
          else { list with totalcount }
        else if search.filterPasses context item then
          { list with
            res := keepFirst (search.sortsBefore context) ((listfrom.toNat + 50) % 2 ^ 32)
              list.res auction
            totalcount }
        else list

/-- The loop over the multiset from its end. -/
def AuctionList.writePage (list : AuctionList) (listfrom : UInt32) :
    List ListedAuction → AuctionList
  | [] => list
  | auction :: rest =>
      let list := { list with data := list.data ++ [auction], count := list.count + 1 }
      if 50 ≤ list.count ∨
          (list.totalcount + (2 ^ 32 - listfrom.toNat)) % 2 ^ 32 ≤ list.count then list
      else list.writePage listfrom rest

def buildListAuctionItems (auctionsMap : AuctionsMap) (listfrom : UInt32) (isFull : Bool) :
    AuctionList :=
  let list := auctionsMap.auctions.foldl (search.listAuction context listfrom isFull)
    { res := [], data := [], count := 0, totalcount := 0 }
  if isFull then list else list.writePage listfrom list.res.reverse

/-- The auction is shown by a search. -/
def AuctionSearch.finds (auction : ListedAuction) : Bool :=
  context.curTime ≤ auction.entry.expireTime &&
    (context.getAItem auction.entry.itemGUIDLow).any (search.filterPasses context)

/-- All matches, by id. -/
def AuctionsMap.found (auctionsMap : AuctionsMap) : List ListedAuction :=
  auctionsMap.auctions.filter (search.finds context)

/-- All matches in the order of the sorter, ties by id. -/
def AuctionsMap.ranked (auctionsMap : AuctionsMap) : List ListedAuction :=
  ranking (search.sortsBefore context) (fun auction => auction.id.toNat)
    (auctionsMap.found context search)

end Search

/-- The packet has the matches of the ranks of a page, the last one first. -/
structure ExactPage (list : AuctionList) (ranked : List ListedAuction) (listfrom : Nat) :
    Prop where
  data : list.data.reverse = slice ranked listfrom 50
  count : list.count = (slice ranked listfrom 50).length
  totalcount : list.totalcount = ranked.length

/-- The page begins before the last match and does not reach over the greatest rank, or
there is nothing to show: no match, or an empty multiset. -/
def PageFits (found listfrom : Nat) : Prop :=
  found < 2 ^ 32 ∧
    (found = 0 ∨ listfrom < found ∧ listfrom + 50 < 2 ^ 32 ∨
      found ≤ listfrom ∧ listfrom + 50 = 2 ^ 32)

/-! ## The order -/

theorem auctionSorter_key (context : SearchContext) (sorting : UInt8) (sortDesc : Bool) :
    ∃ (Key : Type) (_ : LinearOrder Key) (key : AuctionEntry → Key), ∀ first second,
      auctionSorter context sorting sortDesc first second = true ↔ key first < key second := by
  unfold auctionSorter
  split
  · exact ⟨Nat, inferInstance, (·.getItemLevel context), fun _ _ => decide_eq_true_iff⟩
  · exact ⟨Natᵒᵈ, inferInstance, (·.getItemLevel context), fun _ _ => decide_eq_true_iff⟩
  · exact ⟨Nat, inferInstance, (·.getItemQuality context), fun _ _ => decide_eq_true_iff⟩
  · exact ⟨Nat, inferInstance, (·.expireTime), fun _ _ => decide_eq_true_iff⟩
  · exact ⟨Natᵒᵈ, inferInstance, (·.expireTime), fun _ _ => decide_eq_true_iff⟩
  · exact ⟨List Nat, inferInstance, (·.getOwnerName context), fun _ _ => decide_eq_true_iff⟩
  · exact ⟨(List Nat)ᵒᵈ, inferInstance, (·.getOwnerName context), fun _ _ => decide_eq_true_iff⟩
  · exact ⟨Nat, inferInstance, (·.getCurrentOrStartBid), fun _ _ => decide_eq_true_iff⟩
  · exact ⟨Natᵒᵈ, inferInstance, (·.getCurrentOrStartBid), fun _ _ => decide_eq_true_iff⟩
  · exact ⟨Natᵒᵈ, inferInstance, (·.getItemQuality context), fun _ _ => decide_eq_true_iff⟩

variable {context : SearchContext} {search : AuctionSearch}

instance : Std.Asymm (search.sortsBefore context) where
  asymm first second isBefore isAfter := by
    obtain ⟨Key, _, key, compares⟩ := auctionSorter_key context search.sorting search.sortDesc
    exact lt_asymm ((compares _ _).mp isBefore) ((compares _ _).mp isAfter)

instance : IsOrderConnected ListedAuction (search.sortsBefore context) where
  conn first second third isBefore := by
    obtain ⟨Key, _, key, compares⟩ := auctionSorter_key context search.sorting search.sortDesc
    have keys := (compares _ _).mp isBefore
    rcases lt_or_ge (key first.entry) (key second.entry) with below | above
    · exact .inl ((compares _ _).mpr below)
    · exact .inr ((compares _ _).mpr (above.trans_lt keys))

/-! ## The page -/

theorem AuctionSearch.listAuction_eq (listfrom : UInt32) (list : AuctionList)
    (auction : ListedAuction) :
    search.listAuction context listfrom false list auction =
      if search.finds context auction then
        { list with
          res := keepFirst (search.sortsBefore context) ((listfrom.toNat + 50) % 2 ^ 32)
            list.res auction
          totalcount := (list.totalcount + 1) % 2 ^ 32 }
      else list := by
  unfold listAuction finds
  by_cases expired : auction.entry.expireTime < context.curTime
  · rw [if_pos expired, decide_eq_false (not_le.mpr expired)]
    rfl
  rw [if_neg expired, decide_eq_true (not_lt.mp expired), Bool.true_and]
  cases context.getAItem auction.entry.itemGUIDLow with
  | none => rfl
  | some item => rfl

/-- What the loop over the map leaves behind. -/
theorem AuctionSearch.foldl_listAuction (listfrom : UInt32) (auctions : List ListedAuction)
    (list : AuctionList) :
    auctions.foldl (search.listAuction context listfrom false) list =
      { list with
        res := (auctions.filter (search.finds context)).foldl
          (keepFirst (search.sortsBefore context) ((listfrom.toNat + 50) % 2 ^ 32)) list.res
        totalcount := if auctions.filter (search.finds context) = [] then list.totalcount else
          (list.totalcount + (auctions.filter (search.finds context)).length) % 2 ^ 32 } := by
  induction auctions generalizing list with
  | nil => rfl
  | cons auction rest induction =>
      rw [List.foldl_cons, listAuction_eq, induction]
      by_cases isFound : search.finds context auction = true
      · rw [if_pos isFound, List.filter_cons_of_pos isFound, if_neg (List.cons_ne_nil _ _),
          List.foldl_cons, List.length_cons]
        dsimp only
        congr 1
        split_ifs with last
        · rw [last]
          rfl
        · omega
      · rw [if_neg isFound, List.filter_cons_of_neg isFound]

/-- How many auctions are written, if there are enough. -/
def pageSize (totalcount : Nat) (listfrom : UInt32) : Nat :=
  max 1 (min 50 ((totalcount + (2 ^ 32 - listfrom.toNat)) % 2 ^ 32))

theorem AuctionList.writePage_eq (list : AuctionList) (listfrom : UInt32)
    (rest : List ListedAuction) (more : list.count < pageSize list.totalcount listfrom) :
    list.writePage listfrom rest =
      { list with
        data := list.data ++ rest.take (pageSize list.totalcount listfrom - list.count)
        count := list.count +
          min rest.length (pageSize list.totalcount listfrom - list.count) } := by
  induction rest generalizing list with
  | nil =>
      unfold writePage
      rw [List.take_nil, List.append_nil, List.length_nil, Nat.zero_min, Nat.add_zero]
  | cons auction rest induction =>
      have left : pageSize list.totalcount listfrom - list.count =
          pageSize list.totalcount listfrom - (list.count + 1) + 1 := by
        omega
      unfold writePage
      dsimp only
      rw [left, List.take_succ_cons, List.length_cons, Nat.succ_min_succ]
      by_cases last : pageSize list.totalcount listfrom ≤ list.count + 1
      · have stops : 50 ≤ list.count + 1 ∨
            (list.totalcount + (2 ^ 32 - listfrom.toNat)) % 2 ^ 32 ≤ list.count + 1 := by
          unfold pageSize at last
          omega
        have nothing : pageSize list.totalcount listfrom - (list.count + 1) = 0 := by omega
        rw [if_pos stops, nothing, List.take_zero, Nat.min_zero]
      · have goesOn : ¬(50 ≤ list.count + 1 ∨
            (list.totalcount + (2 ^ 32 - listfrom.toNat)) % 2 ^ 32 ≤ list.count + 1) := by
          unfold pageSize at last
          omega
        rw [if_neg goesOn, induction _ (not_le.mp last)]
        dsimp only
        rw [List.append_assoc, List.singleton_append]
        congr 1
        omega

theorem AuctionsMap.found_increasing (auctionsMap : AuctionsMap) :
    ((auctionsMap.found context search).map fun auction => auction.id.toNat).Pairwise (· < ·) :=
  auctionsMap.ordered.sublist (List.filter_sublist.map _)

theorem AuctionsMap.ranked_nodup (auctionsMap : AuctionsMap) :
    (auctionsMap.ranked context search).Nodup := by
  have increasing : ((auctionsMap.found context search).map
      fun auction => auction.id.toNat).Pairwise (· < ·) := auctionsMap.found_increasing
  have distinct := increasing.imp Nat.ne_of_lt
  exact (List.perm_insertionSort _ _).nodup_iff.mpr (List.Nodup.of_map _ distinct)

theorem buildListAuctionItems_eq (auctionsMap : AuctionsMap) (listfrom : UInt32) :
    buildListAuctionItems context search auctionsMap listfrom false =
      { res := (auctionsMap.ranked context search).take ((listfrom.toNat + 50) % 2 ^ 32)
        data := ((auctionsMap.ranked context search).take
          ((listfrom.toNat + 50) % 2 ^ 32)).reverse.take
            (pageSize ((auctionsMap.found context search).length % 2 ^ 32) listfrom)
        count := min (min ((listfrom.toNat + 50) % 2 ^ 32)
          (auctionsMap.found context search).length)
            (pageSize ((auctionsMap.found context search).length % 2 ^ 32) listfrom)
        totalcount := (auctionsMap.found context search).length % 2 ^ 32 } := by
  have increasing : ((auctionsMap.found context search).map
      fun auction => auction.id.toNat).Pairwise (· < ·) := auctionsMap.found_increasing
  have kept : (auctionsMap.found context search).foldl
      (keepFirst (search.sortsBefore context) ((listfrom.toNat + 50) % 2 ^ 32)) [] =
        (auctionsMap.ranked context search).take ((listfrom.toNat + 50) % 2 ^ 32) :=
    foldl_keepFirst_eq_take_ranking _ increasing
  have total : (if auctionsMap.auctions.filter (search.finds context) = [] then 0 else
      (0 + (auctionsMap.auctions.filter (search.finds context)).length) % 2 ^ 32) =
        (auctionsMap.found context search).length % 2 ^ 32 := by
    show (if auctionsMap.found context search = [] then 0 else _) = _
    split_ifs with nothing
    · rw [nothing]
      rfl
    · rw [Nat.zero_add]
      rfl
  unfold buildListAuctionItems
  rw [AuctionSearch.foldl_listAuction]
  dsimp only
  rw [if_neg Bool.false_ne_true, total]
  unfold AuctionsMap.found at kept
  rw [kept, AuctionList.writePage_eq _ _ _ (Nat.lt_of_lt_of_le Nat.one_pos (le_max_left _ _))]
  dsimp only
  rw [List.nil_append, Nat.sub_zero, List.length_reverse, List.length_take, Nat.zero_add]
  have length : (auctionsMap.ranked context search).length =
      (auctionsMap.found context search).length := ranking_length _ _ _
  rw [length]

theorem slice_reverse_take (elements : List ListedAuction) (size : Nat) :
    (elements.reverse.take size).reverse = elements.drop (elements.length - size) := by
  rw [List.take_reverse, List.reverse_reverse]

theorem exactPage_of_fits (auctionsMap : AuctionsMap) (listfrom : UInt32)
    (fits : PageFits (auctionsMap.found context search).length listfrom.toNat) :
    ExactPage (buildListAuctionItems context search auctionsMap listfrom false)
      (auctionsMap.ranked context search) listfrom.toNat := by
  have length : (auctionsMap.ranked context search).length =
      (auctionsMap.found context search).length := ranking_length _ _ _
  have bounded := listfrom.toNat_lt
  obtain ⟨few, fits⟩ := fits
  rw [buildListAuctionItems_eq, Nat.mod_eq_of_lt few, ← length]
  rw [← length] at few fits
  generalize auctionsMap.ranked context search = ranked at *
  have size : pageSize ranked.length listfrom =
      max 1 (min 50 ((ranked.length + (2 ^ 32 - listfrom.toNat)) % 2 ^ 32)) := rfl
  rcases fits with nothing | ⟨inside, noWrap⟩ | ⟨past, wraps⟩
  · obtain rfl := List.eq_nil_of_length_eq_zero nothing
    constructor
    · simp [slice]
    · simp [slice]
    · rfl
  · rw [Nat.mod_eq_of_lt noWrap]
    have left : (ranked.length + (2 ^ 32 - listfrom.toNat)) % 2 ^ 32 =
        ranked.length - listfrom.toNat := by
      omega
    rw [left] at size
    constructor
    · dsimp only
      rw [slice_reverse_take, List.length_take]
      have first : min (listfrom.toNat + 50) ranked.length - pageSize ranked.length listfrom =
          listfrom.toNat := by
        omega
      rw [first, List.drop_take]
      unfold slice
      congr 1
      omega
    · unfold slice
      rw [List.length_take, List.length_drop]
      dsimp only
      omega
    · rfl
  · rw [wraps, Nat.mod_self]
    have nothing : slice ranked listfrom.toNat 50 = [] := by
      unfold slice
      rw [List.drop_eq_nil_of_le past, List.take_nil]
    constructor
    · rw [nothing, List.take_zero, List.reverse_nil, List.take_nil, List.reverse_nil]
    · rw [nothing, Nat.zero_min, Nat.zero_min, List.length_nil]
    · rfl

theorem pageFits_of_exact (auctionsMap : AuctionsMap) (listfrom : UInt32)
    (exact : ExactPage (buildListAuctionItems context search auctionsMap listfrom false)
      (auctionsMap.ranked context search) listfrom.toNat) :
    PageFits (auctionsMap.found context search).length listfrom.toNat := by
  have length : (auctionsMap.ranked context search).length =
      (auctionsMap.found context search).length := ranking_length _ _ _
  have distinct : (auctionsMap.ranked context search).Nodup := auctionsMap.ranked_nodup
  have bounded := listfrom.toNat_lt
  rw [buildListAuctionItems_eq] at exact
  rw [← length] at exact ⊢
  generalize auctionsMap.ranked context search = ranked at *
  obtain ⟨data, count, total⟩ := exact
  dsimp only at data count total
  have few : ranked.length < 2 ^ 32 := by
    rw [← total]
    exact Nat.mod_lt _ (by omega)
  rw [total] at count data
  have size : 1 ≤ pageSize ranked.length listfrom := le_max_left _ _
  have sliceLength : (slice ranked listfrom.toNat 50).length =
      min 50 (ranked.length - listfrom.toNat) := by
    unfold slice
    rw [List.length_take, List.length_drop]
  refine ⟨few, ?_⟩
  by_cases inside : listfrom.toNat < ranked.length
  · refine .inr (.inl ⟨inside, ?_⟩)
    by_contra wraps
    -- The multiset has less than 50 elements, all of them of ranks before the page.
    have nonempty : 0 < (slice ranked listfrom.toNat 50).length := by omega
    obtain ⟨auction, member⟩ := List.exists_mem_of_length_pos nonempty
    have inPage : auction ∈ ranked.drop listfrom.toNat := List.mem_of_mem_take member
    rw [← data, List.mem_reverse] at member
    have kept := List.mem_reverse.mp (List.mem_of_mem_take member)
    exact List.disjoint_take_drop distinct (by omega) kept inPage
  · by_cases nothing : ranked.length = 0
    · exact .inl nothing
    · refine .inr (.inr ⟨not_lt.mp inside, ?_⟩)
      rw [sliceLength] at count
      omega

/-- Each page which begins before the last match is exact, and no other one; the pages one
after the other are all matches. -/
theorem buildListAuctionItems_exact_iff (context : SearchContext) (search : AuctionSearch)
    (auctionsMap : AuctionsMap) :
    (∀ listfrom : UInt32,
      ExactPage (buildListAuctionItems context search auctionsMap listfrom false)
          (auctionsMap.ranked context search) listfrom.toNat ↔
        PageFits (auctionsMap.found context search).length listfrom.toNat) ∧
    ((auctionsMap.found context search).length + 50 < 2 ^ 32 →
      (List.range (((auctionsMap.found context search).length + 49) / 50)).flatMap
          (fun page => (buildListAuctionItems context search auctionsMap
            (UInt32.ofNat (page * 50)) false).data.reverse) =
        auctionsMap.ranked context search) := by
  refine ⟨fun listfrom => ⟨pageFits_of_exact auctionsMap listfrom,
    exactPage_of_fits auctionsMap listfrom⟩, ?_⟩
  intro few
  have length : (auctionsMap.ranked context search).length =
      (auctionsMap.found context search).length := ranking_length _ _ _
  have enough : (auctionsMap.ranked context search).length ≤
      ((auctionsMap.found context search).length + 49) / 50 * 50 := by
    omega
  have pages : ∀ page ∈ List.range (((auctionsMap.found context search).length + 49) / 50),
      (buildListAuctionItems context search auctionsMap (UInt32.ofNat (page * 50))
        false).data.reverse = slice (auctionsMap.ranked context search) (page * 50) 50 := by
    intro page member
    have inside := List.mem_range.mp member
    have small : page * 50 < 2 ^ 32 := by omega
    have listfrom : (UInt32.ofNat (page * 50)).toNat = page * 50 :=
      UInt32.toNat_ofNat_of_lt' small
    have fits : PageFits (auctionsMap.found context search).length
        (UInt32.ofNat (page * 50)).toNat := by
      rw [listfrom]
      exact ⟨by omega, .inr (.inl ⟨by omega, by omega⟩)⟩
    have exact := (exactPage_of_fits auctionsMap _ fits).data
    rw [listfrom] at exact
    exact exact
  rw [List.flatMap_congr pages, flatMap_slice _ enough]

section PastTheEnd

def linenCloth : ItemTemplate where
  itemClass := 7
  subClass := 5
  inventoryType := 0
  quality := 1
  itemLevel := 5
  requiredLevel := 0
  learnSpell := false
  spellId := 0

/-- Every item is linen cloth. -/
def clothContext : SearchContext where
  curTime := 100
  getAItem guidLow := some ⟨guidLow, linenCloth⟩
  getItemTemplate _ := some linenCloth
  getName _ := [65]
  canUseItem _ := true
  hasSpell _ := false
  nameFits _ _ := true

def anySearch : AuctionSearch where
  searchedname := []
  levelmin := 0
  levelmax := 0
  usable := 0
  inventoryType := 0xffffffff
  itemClass := 0xffffffff
  itemSubClass := 0xffffffff
  quality := 0xffffffff
  sorting := 1
  sortDesc := false

def clothAuction : ListedAuction where
  id := 1
  entry :=
    { id := 1
      itemGUIDLow := 10
      itemEntry := 2589
      itemCount := 20
      owner := 5
      startbid := 30
      bid := 0
      buyout := 90
      expireTime := 200
      bidder := 0
      deposit := 3
      auctionHouseEntry := ⟨1, 12, 5, 5⟩ }

def clothAuctions : AuctionsMap where
  auctions := [clothAuction]
  ordered := List.pairwise_singleton _ _

/-- The second page of a search with one match shows that match again. -/
theorem buildListAuctionItems_pastTheEnd :
    ¬ExactPage (buildListAuctionItems clothContext anySearch clothAuctions 50 false)
      (clothAuctions.ranked clothContext anySearch) 50 := by
  intro exact
  have written : (buildListAuctionItems clothContext anySearch clothAuctions 50 false).data =
      [clothAuction] := by
    decide
  have page := exact.data
  rw [written] at page
  have nothing : slice (clothAuctions.ranked clothContext anySearch) 50 50 = [] := by
    decide
  rw [nothing] at page
  cases page

end PastTheEnd

end RealmServer.Auctions
