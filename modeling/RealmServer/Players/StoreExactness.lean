import RealmServer.Players.StoreSoundness

/-!
# What the planner promises

A plan is carried out by `StoreItem` in the inventory without the item which is
moved and without the one which is swapped out.  It is sound if all of the item
goes into different positions, each of them empty and allowed for the item or a
stack with room; a search for any bag and slot is complete if nothing more could
have been stored.
-/

namespace RealmServer.Players

open GreedyFill Table

namespace Storage

section Promises

variable (storage : Storage) (request : StoreRequest) (proto : ItemTemplate)

/-! ## Promises -/

/-- The inventory when the item is stored. -/
def vacatedInventory : Inventory :=
  storage.inventory.filter fun slot =>
    slot.owner ≠ storage.owner ||
      !(request.sourceGuid = some slot.item.guid || isSwappedOut request slot.pos)

def destOf (plan : Plan Nat) : List ItemPosCount :=
  plan.taken.map fun entry => { pos := entry.1, count := entry.2 }

/-- All of the item is stored, and no stack is above its limit. -/
def StoresAll (dest : List ItemPosCount) : Prop :=
  ∀ item nextItemGuid, item.entry = request.entry →
    storage.inventory.Tidy storage.maxStackCount nextItemGuid →
    (storage.vacatedInventory request).Lacks item.guid → item.guid < nextItemGuid →
      (Inventory.storeItem storage.owner item (storage.vacatedInventory request) nextItemGuid
          dest).inventory.holds (piecesOf request.entry) =
        (storage.vacatedInventory request).holds (piecesOf request.entry) + request.count ∧
      (Inventory.storeItem storage.owner item (storage.vacatedInventory request) nextItemGuid
          dest).inventory.Tidy storage.maxStackCount
        (Inventory.storeItem storage.owner item (storage.vacatedInventory request) nextItemGuid
          dest).nextItemGuid

/-- An empty slot where the item may be, or a stack of it with room for the count. -/
def IsGoodPlace (place : ItemPosCount) : Prop :=
  match (storage.vacatedInventory request).getItemByPos storage.owner place.pos with
  | none =>
      storage.mayOccupy request proto (place.pos / 256) (place.pos % 256) = true ∧
        place.count ≤ proto.getMaxStackSize
  | some slot =>
      slot.item.entry = request.entry ∧ slot.item.count + place.count ≤ proto.getMaxStackSize

structure IsSoundPlan (plan : Plan Nat) : Prop where
  positions : plan.places.Nodup
  counts : plan.total = request.count
  places : ∀ place ∈ destOf plan, storage.IsGoodPlace request proto place
  stored : storage.StoresAll request (destOf plan)

/-- No bag and no slot is named. -/
structure IsAnywhere (request : StoreRequest) : Prop where
  anyBag : request.bag = NULL_BAG
  anySlot : request.slot = NULL_SLOT

/-- How many of the count do not fit, if `no_space_count` is asked for. -/
structure CountsNoSpace (answer : StoreAnswer) (left : Nat) : Prop where
  reported : answer.noSpaceCount = some left
  beside : left + answer.plan.total = request.count
  anywhere : IsAnywhere request → ∀ proto, storage.getItemTemplate request.entry = some proto →
    left = max (storage.noSimilarCount request proto)
      (request.count - storage.freeRoom request proto)

structure KeepsPromises : Prop where
  sound : (storage.canStoreItem request []).result = .ok →
    ∃ proto, storage.getItemTemplate request.entry = some proto ∧
      storage.IsSoundPlan request proto (storage.canStoreItem request []).plan
  complete : (storage.canStoreItem request []).result = .inventoryFull → IsAnywhere request →
    ∀ proto, storage.getItemTemplate request.entry = some proto →
      storage.freeRoom request proto < request.count
  noSpace : request.pItem = none → (storage.canStoreItem request []).result ≠ .ok →
    ∃ left, storage.CountsNoSpace request (storage.canStoreItem request []) left

/-! ## Where they are broken -/

/-- A bag is put into a slot of its own. -/
structure GoesIntoItself : Prop where
  admits : storage.Admits request proto
  similar : storage.noSimilarCount request proto = 0
  isNamed : request.namesSlot = true
  isItself : storage.namesItself request = true
  accepted : ∃ space, storage.specificSlotSpace request proto = .ok space
  empty : storage.vacated request (position request.bag request.slot) = none
  fits : request.count ≤ proto.getMaxStackSize

/-- The walks for a key before the slots for currency, with the main slots named as the bag. -/
def keyPasses : List Pass :=
  slotPasses request ++ ((if proto.stackable ≠ 1 then mergePasses else []) ++ [keyringPass])

/-- A key which is no currency does not find enough room in the keyring. -/
structure GoesIntoCurrency : Prop where
  admits : storage.Admits request proto
  similar : storage.noSimilarCount request proto = 0
  isMain : request.bag = INVENTORY_SLOT_BAG_0
  isKey : proto.isKey = true
  isNoToken : ¬ proto.isCurrencyToken = true
  isEmptyBag : request.isNotEmptyBag = false
  accepted : request.namesSlot = true →
    ∃ space, storage.specificSlotSpace request proto = .ok space
  isLeft : roomBeside (storage.roomAt request proto) []
    (storage.reached request proto (keyPasses request proto)) < request.count
  isFree : ∃ pos, storage.Fills request proto currencyPass pos
  fits : request.count ≤ roomBeside (storage.roomAt request proto) []
    (storage.reached request proto (passes request proto))

/-- A key which is currency too is not put into a slot for currency. -/
structure MissesCurrency : Prop where
  admits : storage.Admits request proto
  isAnywhere : IsAnywhere request
  isEmptyBag : request.isNotEmptyBag = false
  isShort : storage.openRoom request proto < storage.allowed request proto
  isMissed : storage.openRoom request proto < storage.freeRoom request proto
  isAsked : request.pItem = none ∨ request.count ≤ storage.freeRoom request proto

end Promises

variable {storage : Storage} {request : StoreRequest} {proto : ItemTemplate} {pos : Nat}

/-! ## The inventory when the item is stored -/

theorem tidy_vacatedInventory {nextItemGuid : Nat}
    (tidy : storage.inventory.Tidy storage.maxStackCount nextItemGuid) :
    (storage.vacatedInventory request).Tidy storage.maxStackCount nextItemGuid where
  positions := filter_keys tidy.positions _
  guids := tidy.guids.sublist (List.filter_sublist.map _)
  older := fun slot member => tidy.older slot (List.mem_of_mem_filter member)
  limits := fun slot member => tidy.limits slot (List.mem_of_mem_filter member)

/-- Where the lookups agree, they find what is left there. -/
theorem map_getItemByPos_vacatedInventory (sound : storage.inventory.Sound)
    (agree : storage.getItemByPos (pos / 256) (pos % 256) =
      storage.itemIn (pos / 256) (pos % 256)) :
    ((storage.vacatedInventory request).getItemByPos storage.owner pos).map InventorySlot.item =
      storage.vacated request pos := by
  have isFiltered : (storage.vacatedInventory request).getItemByPos storage.owner pos =
      (storage.inventory.getItemByPos storage.owner pos).filter fun slot =>
        slot.owner ≠ storage.owner ||
          !(request.sourceGuid = some slot.item.guid || isSwappedOut request slot.pos) :=
    find_filter sound _ _
  unfold vacated occupant
  rw [isFiltered, agree]
  unfold itemIn
  rw [position_decode]
  cases found : storage.inventory.getItemByPos storage.owner pos with
  | none => simp
  | some slot =>
      have isKey : InventorySlot.key slot = (storage.owner, pos) := key_of_find found
      obtain ⟨isMine, isHere⟩ := Prod.mk.inj isKey
      unfold StoreRequest.sourceGuid
      by_cases isOut : isSwappedOut request pos = true
      · rw [if_pos isOut]
        simp [Option.filter, isMine, isHere, isOut]
      · rw [if_neg isOut]
        by_cases isSource : (request.pItem.map fun source => source.item.guid) = some slot.item.guid
        · simp [Option.filter, isMine, isSource]
        · simp [Option.filter, isMine, isHere, isOut, isSource]

theorem getItemByPos_of_fits {bag slot : Nat} (fits : storage.fitsToSlot proto bag slot = true) :
    storage.getItemByPos bag slot = storage.itemIn bag slot := by
  by_cases isMain : bag = INVENTORY_SLOT_BAG_0
  · subst isMain
    obtain ⟨_, _, apart, isSlot⟩ := fitsToSlot_main_iff.mp fits
    exact if_pos ⟨rfl, apart.imp_right fun later => ⟨later, isSlot⟩⟩
  · unfold fitsToSlot at fits
    rw [if_neg isMain] at fits
    unfold getItemByPos
    rw [if_neg fun both => isMain both.1]
    cases worn : storage.getBagByPos bag with
    | none =>
        rw [worn] at fits
        cases fits
    | some pair =>
        rw [worn] at fits
        exact if_pos (of_decide_eq_true (Bool.and_eq_true _ _ ▸ fits).1)

theorem getItemByPos_of_vacated {item : Item} (inside : storage.vacated request pos = some item) :
    storage.getItemByPos (pos / 256) (pos % 256) = storage.itemIn (pos / 256) (pos % 256) := by
  have found := (getItemByPos_of_occupant (occupant_of_vacated inside).2).1
  rw [found, itemIn_of_getItemByPos found]

theorem getItemByPos_of_suits (isSuited : storage.suits request proto pos = true) :
    storage.getItemByPos (pos / 256) (pos % 256) = storage.itemIn (pos / 256) (pos % 256) := by
  cases inside : storage.vacated request pos with
  | some item => exact getItemByPos_of_vacated inside
  | none =>
      unfold suits mayOccupy at isSuited
      rw [inside] at isSuited
      exact getItemByPos_of_fits (Bool.and_eq_true _ _ ▸ isSuited).1

theorem isGoodPlace_of_suits (sound : storage.inventory.Sound)
    (isSuited : storage.suits request proto pos = true) {count : Nat}
    (fits : count ≤ storage.roomAt request proto pos) :
    storage.IsGoodPlace request proto { pos, count } := by
  have lookup := @map_getItemByPos_vacatedInventory storage request pos sound
    (getItemByPos_of_suits isSuited)
  unfold suits at isSuited
  unfold roomAt at fits
  unfold IsGoodPlace
  dsimp only
  cases found : (storage.vacatedInventory request).getItemByPos storage.owner pos with
  | none =>
      rw [found, Option.map_none] at lookup
      rw [← lookup] at isSuited fits
      exact ⟨isSuited, fits⟩
  | some slot =>
      rw [found, Option.map_some] at lookup
      rw [← lookup] at isSuited fits
      obtain ⟨_, isKind, hasRoom⟩ :=
        canBeMergedPartlyWith_eq_ok_iff.mp (of_decide_eq_true isSuited)
      dsimp only at fits ⊢
      exact ⟨isKind, by omega⟩

theorem not_isGoodPlace (sound : storage.inventory.Sound)
    (agree : storage.getItemByPos (pos / 256) (pos % 256) =
      storage.itemIn (pos / 256) (pos % 256))
    (empty : storage.vacated request pos = none)
    (refused : ¬ storage.mayOccupy request proto (pos / 256) (pos % 256) = true) (count : Nat) :
    ¬ storage.IsGoodPlace request proto { pos, count } := by
  have lookup := @map_getItemByPos_vacatedInventory storage request pos sound agree
  rw [empty, Option.map_eq_none_iff] at lookup
  unfold IsGoodPlace
  dsimp only
  rw [lookup]
  exact fun good => refused good.1

/-! ## Answers -/

theorem outcome_plan (tooMany : Nat) (steps : List Pass) (plan : Plan Nat) :
    (storage.outcome request proto tooMany steps plan).plan =
      fill (storage.roomAt request proto) (storage.reached request proto steps) plan := by
  unfold outcome completed
  split_ifs
  · rfl
  · rfl
  · exact refusal_plan _ _ _

theorem outcome_ok_iff (tooMany : Nat) (steps : List Pass) (plan : Plan Nat) :
    (storage.outcome request proto tooMany steps plan).result = .ok ↔
      tooMany = 0 ∧ plan.left ≤ roomBeside (storage.roomAt request proto) plan.places
        (storage.reached request proto steps) := by
  have isLeft := left_fill (storage.roomAt request proto) (storage.reached request proto steps) plan
  unfold outcome completed
  split_ifs with isFull similar
  · exact iff_of_true rfl ⟨similar, by omega⟩
  · exact iff_of_false (by simp) fun given => similar given.1
  · exact iff_of_false (refusal_ne_ok _ _ _) fun given => isFull (by omega)

theorem outcome_full_iff (tooMany : Nat) (steps : List Pass) (plan : Plan Nat) :
    (storage.outcome request proto tooMany steps plan).result = .inventoryFull ↔
      roomBeside (storage.roomAt request proto) plan.places (storage.reached request proto steps) <
          plan.left ∧
        ∀ step ∈ steps, storage.GoesOn request proto step := by
  have isLeft := left_fill (storage.roomAt request proto) (storage.reached request proto steps) plan
  unfold outcome completed
  split_ifs with isFull similar
  · exact iff_of_false (by simp) fun given => by omega
  · exact iff_of_false (by simp) fun given => by omega
  · rw [refusal_full_iff]
    exact (and_iff_right (by omega)).symm

/-- What is left is reported, with what was too many. -/
theorem outcome_noSpaceCount {tooMany : Nat} {steps : List Pass}
    (notRefused : .refuseNonemptyBag ∉ steps) (plan : Plan Nat)
    (notOk : (storage.outcome request proto tooMany steps plan).result ≠ .ok) :
    (storage.outcome request proto tooMany steps plan).noSpaceCount =
      some ((((fill (storage.roomAt request proto)
        (storage.reached request proto steps) plan).left) +
        tooMany) % 2 ^ 32) := by
  revert notOk
  unfold outcome completed
  split_ifs with isFull similar
  · exact fun notOk => absurd rfl notOk
  · exact fun _ => rfl
  · exact fun _ => refusal_noSpaceCount tooMany notRefused _

section Answers

variable (small : storage.SmallBags) (fair : storage.FairRequest request)

include small fair

theorem canStoreItem_plan (admits : storage.Admits request proto) (dest : List (Nat × Nat)) :
    (storage.canStoreItem request dest).plan =
      fill (storage.roomAt request proto)
        (storage.reached request proto (passes request proto))
        { taken := dest, left := storage.allowed request proto } := by
  rw [canStoreItem_of_admits small fair admits, outcome_plan]

theorem canStoreItem_ok_iff (dest : List (Nat × Nat)) :
    (storage.canStoreItem request dest).result = .ok ↔
      ∃ proto, storage.Admits request proto ∧ storage.noSimilarCount request proto = 0 ∧
        request.count ≤ roomBeside (storage.roomAt request proto) (dest.map Prod.fst)
          (storage.reached request proto (passes request proto)) := by
  constructor
  · intro isOk
    by_cases admitted : ∃ proto, storage.Admits request proto
    · obtain ⟨proto, admits⟩ := admitted
      rw [canStoreItem_of_admits small fair admits, outcome_ok_iff] at isOk
      obtain ⟨similar, fits⟩ := isOk
      unfold allowed at fits
      rw [similar] at fits
      exact ⟨proto, admits, similar, fits⟩
    · have refuses := canStoreItem_of_not_admits fair (not_exists.mp admitted) dest
      exact absurd isOk refuses.notOk
  · rintro ⟨proto, admits, similar, fits⟩
    rw [canStoreItem_of_admits small fair admits, outcome_ok_iff]
    refine ⟨similar, ?_⟩
    unfold allowed
    rw [similar]
    exact fits

end Answers

theorem isSoundPlan_of_suits (sound : storage.inventory.Sound)
    (known : storage.getItemTemplate request.entry = some proto) {places : List Nat}
    (suited : ∀ pos ∈ (fill (storage.roomAt request proto) places
      { taken := [], left := request.count }).places, storage.suits request proto pos = true)
    (isFull : (fill (storage.roomAt request proto) places
      { taken := [], left := request.count }).left = 0) :
    storage.IsSoundPlan request proto
      (fill (storage.roomAt request proto) places { taken := [], left := request.count }) := by
  generalize isPlan : fill (storage.roomAt request proto) places
    { taken := [], left := request.count } = plan at suited isFull ⊢
  have positions : plan.places.Nodup := isPlan ▸ nodup_fill List.nodup_nil
  have counts : plan.total = request.count := by
    have isTotal := total_fill (storage.roomAt request proto) places
      { taken := [], left := request.count }
    rw [isPlan, isFull] at isTotal
    exact isTotal.trans (Nat.zero_add _)
  have rooms : ∀ entry ∈ plan.taken, entry.2 ≤ storage.roomAt request proto entry.1 :=
    isPlan ▸ le_room_of_mem_fill fun _ => False.elim ∘ List.not_mem_nil
  have good : ∀ place ∈ destOf plan, storage.IsGoodPlace request proto place := by
    intro place member
    obtain ⟨entry, inPlan, rfl⟩ := List.mem_map.mp member
    exact isGoodPlace_of_suits sound (suited entry.1 (List.mem_map_of_mem inPlan))
      (rooms entry inPlan)
  refine ⟨positions, counts, good, ?_⟩
  intro item nextItemGuid isKind tidy lacks older
  have maximum : storage.maxStackCount item.entry = proto.getMaxStackSize := by
    unfold maxStackCount
    rw [isKind, known]
    rfl
  have destPositions : (destOf plan).map ItemPosCount.pos = plan.places := by
    unfold destOf Plan.places
    rw [List.map_map]
    rfl
  have destCounts : ((destOf plan).map ItemPosCount.count).sum = plan.total := by
    unfold destOf Plan.total
    rw [List.map_map]
    rfl
  have tidyBefore := @tidy_vacatedInventory storage request nextItemGuid tidy
  have room : ∀ place ∈ destOf plan, (storage.vacatedInventory request).HasRoom
      storage.maxStackCount storage.owner item place := by
    intro place member
    have isGood := good place member
    unfold Inventory.HasRoom
    rw [maximum, isKind]
    unfold IsGoodPlace at isGood
    cases found : (storage.vacatedInventory request).getItemByPos storage.owner place.pos with
    | none =>
        rw [found] at isGood
        exact ⟨isGood.2, nofun⟩
    | some slot =>
        rw [found] at isGood
        refine ⟨le_trans (Nat.le_add_left _ _) isGood.2, ?_⟩
        intro other same
        rw [← Option.some.inj same]
        exact isGood
  have nodup : ((destOf plan).map ItemPosCount.pos).Nodup := destPositions ▸ positions
  refine ⟨?_, tidyBefore.storeItem (destOf plan) nodup room lacks older⟩
  rw [Inventory.holds_storeItem_pieces (destOf plan) tidyBefore.positions nextItemGuid nodup
    (Inventory.HasRoom.fits room), destCounts, counts]
  unfold piecesOf
  rw [if_pos isKind]

/-! ## A bag that goes into itself -/

theorem bag_of_namesItself (isItself : storage.namesItself request = true) :
    request.bag ≠ INVENTORY_SLOT_BAG_0 ∧ request.bag ≠ NULL_BAG := by
  constructor
  · intro isMain
    unfold namesItself at isItself
    rw [isMain, getBagByPos_main] at isItself
    cases isItself
  · intro isNull
    have none : storage.getBagByPos NULL_BAG = none := if_neg (by decide)
    unfold namesItself at isItself
    rw [isNull, none] at isItself
    cases isItself

theorem bagSlots_of_namesItself (isItself : storage.namesItself request = true)
    (nonSpecialized : Bool) (skipBag : Nat) :
    ∃ result,
      storage.bagSlots request proto request.bag nonSpecialized skipBag = .error result := by
  cases given : storage.bagSlots request proto request.bag nonSpecialized skipBag with
  | error result => exact ⟨result, rfl⟩
  | ok slots =>
      obtain ⟨_, _, pBag, bagProto, takes, _⟩ := bagSlots_eq_ok_iff.mp given
      unfold namesItself at isItself
      rw [takes.worn] at isItself
      exact absurd (of_decide_eq_true isItself) takes.notItself

theorem found_specificSlot {space : Nat}
    (accepted : storage.specificSlotSpace request proto = .ok space) :
    storage.found request proto .specificSlot = .ok [position request.bag request.slot] := by
  unfold found
  rw [accepted]
  rfl

/-- After the slot that is named, the search ends at the bag. -/
theorem reached_of_namesItself (isNamed : request.namesSlot = true)
    (isItself : storage.namesItself request = true) {space : Nat}
    (accepted : storage.specificSlotSpace request proto = .ok space) :
    storage.reached request proto (passes request proto) =
      [position request.bag request.slot] := by
  obtain ⟨notMain, notNull⟩ := bag_of_namesItself isItself
  have refused (merge : Bool) (later : List Pass) :
      storage.reached request proto (.required (.specificBag merge) :: later) = [] := by
    obtain ⟨_, special⟩ := @bagSlots_of_namesItself _ _ proto isItself false NULL_BAG
    obtain ⟨_, plain⟩ := @bagSlots_of_namesItself _ _ proto isItself true NULL_BAG
    unfold reached found
    dsimp only
    rw [special, plain]
    rfl
  unfold passes slotPasses specificBagPasses wornBagPasses
  rw [if_pos isNamed, if_neg notNull, if_neg notMain, List.singleton_append, List.cons_append]
  unfold reached
  rw [found_specificSlot accepted]
  dsimp only
  split_ifs
  · exact congrArg _ (refused true _)
  · exact congrArg _ (refused false _)

/-- If the named slot is refused, nothing is planned. -/
theorem accepted_of_reached (isNamed : request.namesSlot = true)
    (notNil : storage.reached request proto (passes request proto) ≠ []) :
    ∃ space, storage.specificSlotSpace request proto = .ok space := by
  cases accepted : storage.specificSlotSpace request proto with
  | ok space => exact ⟨space, rfl⟩
  | error result =>
      refine absurd ?_ notNil
      have refused : storage.found request proto .specificSlot = .error result := by
        unfold found
        rw [accepted]
        rfl
      unfold passes slotPasses
      rw [if_pos isNamed, List.singleton_append, List.cons_append]
      unfold reached
      rw [refused]

theorem roomAt_of_empty (empty : storage.vacated request pos = none) :
    storage.roomAt request proto pos = proto.getMaxStackSize := by
  unfold roomAt
  rw [empty]

theorem roomBeside_singleton (room : Nat → Nat) (place : Nat) :
    roomBeside room [] [place] = room place := by
  unfold roomBeside roomBeside
  rw [if_neg List.not_mem_nil, Nat.add_zero]

theorem exists_mem_destOf {plan : Plan Nat} (member : pos ∈ plan.places) :
    ∃ count, { pos, count } ∈ destOf plan := by
  obtain ⟨entry, inPlan, rfl⟩ := List.mem_map.mp member
  exact ⟨entry.2, List.mem_map.mpr ⟨entry, inPlan, rfl⟩⟩

theorem known_unique {other : ItemTemplate}
    (known : storage.getItemTemplate request.entry = some proto)
    (otherKnown : storage.getItemTemplate request.entry = some other) : other = proto :=
  Option.some.inj (otherKnown.symm.trans known)

/-- One position which the item must not occupy breaks the promise. -/
theorem not_sound_of_mem (sound : storage.inventory.Sound) (admits : storage.Admits request proto)
    (isOk : (storage.canStoreItem request []).result = .ok)
    (member : pos ∈ (storage.canStoreItem request []).plan.places)
    (agree : storage.getItemByPos (pos / 256) (pos % 256) =
      storage.itemIn (pos / 256) (pos % 256))
    (empty : storage.vacated request pos = none)
    (refused : ¬ storage.mayOccupy request proto (pos / 256) (pos % 256) = true) :
    ¬ storage.KeepsPromises request := by
  intro promises
  obtain ⟨other, known, isSound⟩ := promises.sound isOk
  obtain rfl := known_unique admits.known known
  obtain ⟨count, inDest⟩ := exists_mem_destOf member
  exact not_isGoodPlace sound agree empty refused count (isSound.places _ inDest)

/-- The walks of a key with the main slots named as the bag. -/
theorem passes_of_key (isMain : request.bag = INVENTORY_SLOT_BAG_0) (isKey : proto.isKey = true) :
    passes request proto =
      keyPasses request proto ++ currencyPass :: backpackPass :: generalPasses request proto := by
  unfold passes specificBagPasses mainPasses keyPasses
  rw [isMain, if_neg (by decide), if_pos rfl, if_pos isKey]
  simp only [List.append_assoc, List.cons_append, List.nil_append]

theorem goesOn_keyPasses (isEmpty : request.isNotEmptyBag = false)
    (accepted : request.namesSlot = true →
      ∃ space, storage.specificSlotSpace request proto = .ok space) :
    ∀ step ∈ keyPasses request proto, storage.GoesOn request proto step := by
  have main := @goesOn_inventorySlots storage request proto isEmpty
  unfold keyPasses slotPasses
  refine List.forall_mem_append.mpr ⟨?_, List.forall_mem_append.mpr
    ⟨?_, List.forall_mem_singleton.mpr (main _ _ _)⟩⟩
  · refine forall_ite (fun isNamed => List.forall_mem_singleton.mpr ?_)
      fun _ _ => False.elim ∘ List.not_mem_nil
    obtain ⟨space, given⟩ := accepted isNamed
    exact ⟨_, found_specificSlot given⟩
  · exact forall_ite (fun _ => forall_mergePasses fun _ _ _ => main _ _ _)
      fun _ _ => False.elim ∘ List.not_mem_nil

section Broken

variable (small : storage.SmallBags) (fair : storage.FairRequest request)
  (sound : storage.inventory.Sound)

include small fair sound

theorem GoesIntoItself.breaks (broken : storage.GoesIntoItself request proto) :
    ¬ storage.KeepsPromises request := by
  obtain ⟨space, accepted⟩ := broken.accepted
  have isReached := reached_of_namesItself broken.isNamed broken.isItself accepted
  have isOk : (storage.canStoreItem request []).result = .ok := by
    refine (canStoreItem_ok_iff small fair []).mpr ⟨proto, broken.admits, broken.similar, ?_⟩
    rw [isReached, List.map_nil, roomBeside_singleton, roomAt_of_empty broken.empty]
    exact broken.fits
  have fits : storage.fitsToSlot proto request.bag request.slot = true := by
    have given := ((specificSlotSpace_eq_ok_iff fair.slotIsByte broken.isNamed).mp accepted).2.2
    rw [broken.empty] at given
    exact given
  refine not_sound_of_mem sound broken.admits isOk ?_ ?_ broken.empty ?_
  · rw [canStoreItem_plan small fair broken.admits, isReached]
    exact head_mem_fill _ _ _
  · rw [position_div fair.slotIsByte, position_mod fair.slotIsByte]
    exact getItemByPos_of_fits fits
  · rw [position_div fair.slotIsByte, position_mod fair.slotIsByte]
    intro allowed
    have isItself := broken.isItself
    unfold mayOccupy at allowed
    unfold namesItself at isItself
    cases worn : storage.getBagByPos request.bag with
    | none =>
        rw [worn] at isItself
        cases isItself
    | some pair =>
        rw [worn] at isItself allowed
        have differs := (Bool.and_eq_true _ _ ▸ allowed).2
        exact of_decide_eq_true differs (of_decide_eq_true isItself)

theorem GoesIntoCurrency.breaks (broken : storage.GoesIntoCurrency request proto) :
    ¬ storage.KeepsPromises request := by
  have isOk : (storage.canStoreItem request []).result = .ok :=
    (canStoreItem_ok_iff small fair []).mpr ⟨proto, broken.admits, broken.similar, broken.fits⟩
  obtain ⟨_, places, given, notNil⟩ := broken.isFree
  cases places with
  | nil => exact absurd notNil List.not_mem_nil
  | cons first later =>
      have inCurrency : storage.Fills request proto currencyPass first :=
        ⟨_, given, List.mem_cons_self⟩
      obtain ⟨_, slot, atLeast, below, _, rfl, isOffered⟩ :=
        (fills_inventorySlots fair.slotIsByte (by decide)).mp inCurrency
      have isByte : slot < 256 := below.trans (by decide)
      refine not_sound_of_mem sound broken.admits isOk ?_ ?_ (vacated_of_offers_empty isOffered) ?_
      · have isLeft : (fill (storage.roomAt request proto)
            (storage.reached request proto (keyPasses request proto))
            { taken := [], left := request.count }).left ≠ 0 := by
          rw [left_fill]
          exact Nat.sub_ne_zero_of_lt broken.isLeft
        have isNext : storage.reached request proto
              (currencyPass :: backpackPass :: generalPasses request proto) = _ :=
          reached_required _ given
        have positive : request.count ≠ 0 := fair.positive.ne'
        have all : storage.allowed request proto = request.count := by
          unfold allowed
          rw [broken.similar, Nat.sub_zero]
        rw [canStoreItem_plan small fair broken.admits, all,
          passes_of_key broken.isMain broken.isKey,
          reached_append (goesOn_keyPasses broken.isEmptyBag broken.accepted),
          fill_append _ _ positive, if_neg isLeft, isNext, List.cons_append]
        exact head_mem_fill _ _ _
      · rw [position_div isByte, position_mod isByte]
        have isLate : KEYRING_SLOT_START ≤ slot := le_trans (by decide) atLeast
        unfold getItemByPos
        exact if_pos ⟨rfl, .inr ⟨isLate, below⟩⟩
      · rw [position_div isByte, position_mod isByte]
        intro allowed
        have fits := fitsToSlot_main_iff.mp (Bool.and_eq_true _ _ ▸ allowed).1
        exact broken.isNoToken (fits.2.1 atLeast below)

end Broken

/-! ## Searches for any bag and slot -/

theorem passes_anywhere (isAnywhere : IsAnywhere request) :
    passes request proto = generalPasses request proto := by
  have notNamed : ¬ request.namesSlot = true := by
    unfold StoreRequest.namesSlot
    rw [isAnywhere.anyBag]
    exact Bool.false_ne_true
  unfold passes slotPasses specificBagPasses
  rw [if_neg notNamed, if_pos isAnywhere.anyBag]
  rfl

theorem refuseNonemptyBag_not_mem (isEmpty : request.isNotEmptyBag = false) :
    .refuseNonemptyBag ∉ passes request proto := by
  intro member
  have isOther : ∀ step ∈ passes request proto, step ≠ .refuseNonemptyBag := by
    refine forall_passes nofun ?_ (fun _ => nofun) ?_
    · exact fun _ => forall_mainPasses (fun _ => forall_mergePasses fun _ _ _ => nofun)
        (fun _ => nofun) (fun _ => nofun) nofun
    · exact forall_generalPasses (fun _ => forall_mergePasses fun _ _ _ => nofun) (fun _ => nofun)
        (fun _ _ => nofun) nofun (fun _ _ _ _ _ => nofun)
        fun isNotEmpty => absurd (isEmpty.symm.trans isNotEmpty) Bool.false_ne_true
  exact isOther _ member rfl

theorem noSimilarCount_le (fair : storage.FairRequest request)
    (known : storage.getItemTemplate request.entry = some proto)
    (notLooted : (request.pItem.map SourceItem.lootGenerated).getD false = false) :
    storage.noSimilarCount request proto ≤ request.count := by
  have bounds := @tooMany_bounds _ _ _ fair known notLooted _ rfl
  unfold noSimilarCount
  split_ifs with isOk
  · exact Nat.zero_le _
  · exact (bounds isOk).2.2

section Anywhere

variable (small : storage.SmallBags) (fair : storage.FairRequest request)

include small fair

theorem left_add_total (admits : storage.Admits request proto) :
    (storage.canStoreItem request []).plan.left + (storage.canStoreItem request []).plan.total =
      storage.allowed request proto := by
  rw [canStoreItem_plan small fair admits, Nat.add_comm, total_fill]
  exact Nat.zero_add _

theorem canStoreItem_noSpaceCount (admits : storage.Admits request proto)
    (isEmpty : request.isNotEmptyBag = false)
    (notOk : (storage.canStoreItem request []).result ≠ .ok) :
    (storage.canStoreItem request []).noSpaceCount =
      some ((storage.canStoreItem request []).plan.left +
        storage.noSimilarCount request proto) := by
  have isWord := fair.isWord
  have someFit := admits.someFit
  have isTotal := left_add_total small fair admits
  have isPlan := canStoreItem_plan small fair admits []
  have isAnswer := canStoreItem_of_admits small fair admits []
  unfold allowed at isTotal
  rw [isAnswer] at notOk
  have reported := outcome_noSpaceCount (refuseNonemptyBag_not_mem isEmpty) _ notOk
  rw [← isPlan, ← isAnswer, Nat.mod_eq_of_lt (by omega)] at reported
  exact reported

variable (counts : ∀ slot ∈ storage.inventory, 0 < slot.item.count)
  (isAnywhere : IsAnywhere request)

include counts isAnywhere

theorem left_anywhere (admits : storage.Admits request proto)
    (isEmpty : request.isNotEmptyBag = false) :
    (storage.canStoreItem request []).plan.left =
      storage.allowed request proto - storage.openRoom request proto := by
  rw [canStoreItem_plan small fair admits, left_fill, passes_anywhere isAnywhere]
  exact congrArg _
    (roomBeside_generalPasses small isAnywhere.anyBag isAnywhere.anySlot counts isEmpty)

theorem full_anywhere_iff :
    (storage.canStoreItem request []).result = .inventoryFull ↔
      ∃ proto, storage.Admits request proto ∧ request.isNotEmptyBag = false ∧
        storage.openRoom request proto < storage.allowed request proto := by
  have answer {proto : ItemTemplate} (admits : storage.Admits request proto) :
      (storage.canStoreItem request []).result = .inventoryFull ↔
        request.isNotEmptyBag = false ∧
          storage.openRoom request proto < storage.allowed request proto := by
    rw [canStoreItem_of_admits small fair admits, outcome_full_iff, passes_anywhere isAnywhere]
    by_cases isNotEmpty : request.isNotEmptyBag = true
    · refine iff_of_false (fun given => given.2 _ (refuseNonemptyBag_mem isNotEmpty))
        fun given => ?_
      exact Bool.false_ne_true (given.1.symm.trans isNotEmpty)
    · have isEmpty : request.isNotEmptyBag = false := Bool.not_eq_true _ ▸ isNotEmpty
      have room := @roomBeside_generalPasses _ _ proto small isAnywhere.anyBag
        isAnywhere.anySlot counts isEmpty
      rw [and_iff_right isEmpty, and_iff_left (goesOn_generalPasses isEmpty)]
      exact iff_of_eq (congrArg (· < storage.allowed request proto) room)
  constructor
  · intro isFull
    by_cases admitted : ∃ proto, storage.Admits request proto
    · obtain ⟨proto, admits⟩ := admitted
      exact ⟨proto, admits, (answer admits).mp isFull⟩
    · exact absurd isFull (canStoreItem_of_not_admits fair (not_exists.mp admitted) []).notFull
  · rintro ⟨proto, admits, given⟩
    exact (answer admits).mpr given

end Anywhere

theorem MissesCurrency.breaks (small : storage.SmallBags) (fair : storage.FairRequest request)
    (counts : ∀ slot ∈ storage.inventory, 0 < slot.item.count)
    (broken : storage.MissesCurrency request proto) : ¬ storage.KeepsPromises request := by
  intro promises
  have isFull : (storage.canStoreItem request []).result = .inventoryFull :=
    (full_anywhere_iff small fair counts broken.isAnywhere).mpr
      ⟨proto, broken.admits, broken.isEmptyBag, broken.isShort⟩
  have isMissed := broken.isMissed
  have isShort := broken.isShort
  have someFit := broken.admits.someFit
  rcases broken.isAsked with isNew | hasRoom
  · have notOk : (storage.canStoreItem request []).result ≠ .ok := isFull ▸ nofun
    obtain ⟨left, isCounted⟩ := promises.noSpace isNew notOk
    have isLeft := isCounted.anywhere broken.isAnywhere proto broken.admits.known
    have reported := canStoreItem_noSpaceCount small fair broken.admits broken.isEmptyBag notOk
    rw [isCounted.reported, left_anywhere small fair counts broken.isAnywhere broken.admits
      broken.isEmptyBag] at reported
    have same := Option.some.inj reported
    unfold allowed at same isShort
    omega
  · have isLess := promises.complete isFull broken.isAnywhere proto broken.admits.known
    omega

/-! ## The promises are kept elsewhere -/

theorem not_fills_keyPasses (slotIsByte : request.slot < 256)
    (isMain : request.bag = INVENTORY_SLOT_BAG_0)
    (fills : storage.Fills request proto currencyPass pos) :
    ∀ step ∈ keyPasses request proto, ¬ storage.Fills request proto step pos := by
  obtain ⟨_, slot, atLeast, below, notSkipped, rfl, isOffered⟩ :=
    (fills_inventorySlots slotIsByte (by decide)).mp fills
  have isByte : slot < 256 := below.trans (by decide)
  have empty := vacated_of_offers_empty isOffered
  have notMerged (slotBegin slotEnd : Nat) (bytes : slotEnd ≤ 256) :
      ¬ storage.Fills request proto (.required (.inventorySlots slotBegin slotEnd true))
        (position INVENTORY_SLOT_BAG_0 slot) := by
    intro merged
    obtain ⟨_, _, _, _, _, _, isMerge⟩ := (fills_inventorySlots slotIsByte bytes).mp merged
    exact vacated_of_offers_merge isMerge empty
  unfold keyPasses slotPasses
  refine List.forall_mem_append.mpr ⟨?_, List.forall_mem_append.mpr ⟨?_, ?_⟩⟩
  · refine forall_ite (fun _ => List.forall_mem_singleton.mpr ?_)
      fun _ _ => False.elim ∘ List.not_mem_nil
    intro named
    have isNamed := (fills_specificSlot.mp named).1
    apply notSkipped
    unfold skipsMain
    rw [isMain, ((position_inj isByte slotIsByte).mp isNamed).2, decide_eq_true rfl,
      decide_eq_true rfl]
    rfl
  · refine forall_ite (fun _ => forall_mergePasses ?_) fun _ _ => False.elim ∘ List.not_mem_nil
    rintro slotBegin slotEnd (⟨_, rfl⟩ | ⟨_, rfl⟩)
    · exact notMerged slotBegin _ (by decide)
    · exact notMerged slotBegin _ (by decide)
  · refine List.forall_mem_singleton.mpr fun inKeyring => ?_
    obtain ⟨_, other, _, early, _, same, _⟩ :=
      (fills_inventorySlots slotIsByte (by decide)).mp inKeyring
    have isSame := ((position_inj isByte (early.trans (by decide))).mp same).2
    have isEarly : other < 118 := early
    have isLate : 118 ≤ slot := atLeast
    omega

section Kept

variable (small : storage.SmallBags) (fair : storage.FairRequest request)

include small fair

omit small fair in
theorem goesIntoItself_of_fills (admits : storage.Admits request proto)
    (similar : storage.noSimilarCount request proto = 0)
    (fits : request.count ≤ roomBeside (storage.roomAt request proto) []
      (storage.reached request proto (passes request proto)))
    (member : pos ∈ storage.reached request proto (passes request proto))
    (fills : storage.FillsItself request pos) : storage.GoesIntoItself request proto := by
  obtain ⟨isNamed, rfl, isItself, empty⟩ := fills
  obtain ⟨space, accepted⟩ := accepted_of_reached isNamed (List.ne_nil_of_mem member)
  rw [reached_of_namesItself isNamed isItself accepted, roomBeside_singleton,
    roomAt_of_empty empty] at fits
  exact ⟨admits, similar, isNamed, isItself, ⟨space, accepted⟩, empty, fits⟩

omit small in
theorem goesIntoCurrency_of_fills (admits : storage.Admits request proto)
    (similar : storage.noSimilarCount request proto = 0)
    (fits : request.count ≤ roomBeside (storage.roomAt request proto) []
      (storage.reached request proto (passes request proto)))
    (member : pos ∈ (fill (storage.roomAt request proto)
      (storage.reached request proto (passes request proto))
      { taken := [], left := request.count }).places)
    (fills : storage.FillsCurrency request proto pos) :
    storage.GoesIntoCurrency request proto := by
  obtain ⟨isMain, isKey, isNoToken, inCurrency⟩ := fills
  have isEmpty := ((fills_inventorySlots fair.slotIsByte (by decide)).mp inCurrency).1
  have inReached : pos ∈ storage.reached request proto (passes request proto) :=
    (mem_places_fill member).resolve_left List.not_mem_nil
  have accepted (isNamed : request.namesSlot = true) :=
    accepted_of_reached isNamed (List.ne_nil_of_mem inReached)
  refine ⟨admits, similar, isMain, isKey, isNoToken, isEmpty, accepted, ?_, ⟨pos, inCurrency⟩, fits⟩
  -- Otherwise the search is over before the slots for currency.
  by_contra! enough
  have isFull : (fill (storage.roomAt request proto)
      (storage.reached request proto (keyPasses request proto))
      { taken := [], left := request.count }).left = 0 := by
    rw [left_fill]
    exact Nat.sub_eq_zero_of_le enough
  rw [passes_of_key isMain isKey, reached_append (goesOn_keyPasses isEmpty accepted),
    fill_append _ _ fair.positive.ne', if_pos isFull] at member
  have early := (mem_places_fill member).resolve_left List.not_mem_nil
  obtain ⟨step, inKeyPasses, stepFills⟩ := fills_of_mem_reached early
  exact not_fills_keyPasses fair.slotIsByte isMain inCurrency step inKeyPasses stepFills

theorem sound_of_not_broken (sound : storage.inventory.Sound)
    (notItself : ∀ proto, ¬ storage.GoesIntoItself request proto)
    (notCurrency : ∀ proto, ¬ storage.GoesIntoCurrency request proto)
    (isOk : (storage.canStoreItem request []).result = .ok) :
    ∃ proto, storage.getItemTemplate request.entry = some proto ∧
      storage.IsSoundPlan request proto (storage.canStoreItem request []).plan := by
  obtain ⟨proto, admits, similar, fits⟩ := (canStoreItem_ok_iff small fair []).mp isOk
  have all : storage.allowed request proto = request.count := by
    unfold allowed
    rw [similar, Nat.sub_zero]
  refine ⟨proto, admits.known, ?_⟩
  rw [canStoreItem_plan small fair admits, all]
  refine isSoundPlan_of_suits sound admits.known ?_ ?_
  · intro pos member
    have inReached : pos ∈ storage.reached request proto (passes request proto) :=
      (mem_places_fill member).resolve_left List.not_mem_nil
    obtain ⟨step, inPasses, fills⟩ := fills_of_mem_reached inReached
    rcases suits_of_fills small fair.slotIsByte inPasses fills with isSuited | isItself | isCurrency
    · exact isSuited
    · have broken := goesIntoItself_of_fills admits similar fits inReached isItself
      exact absurd broken (notItself proto)
    · have broken := goesIntoCurrency_of_fills fair admits similar fits member isCurrency
      exact absurd broken (notCurrency proto)
  · rw [left_fill]
    exact Nat.sub_eq_zero_of_le fits

theorem complete_of_not_broken (counts : ∀ slot ∈ storage.inventory, 0 < slot.item.count)
    (notMissed : ∀ proto, ¬ storage.MissesCurrency request proto)
    (isFull : (storage.canStoreItem request []).result = .inventoryFull)
    (isAnywhere : IsAnywhere request)
    (known : storage.getItemTemplate request.entry = some proto) :
    storage.freeRoom request proto < request.count := by
  obtain ⟨other, admits, isEmpty, isShort⟩ :=
    (full_anywhere_iff small fair counts isAnywhere).mp isFull
  obtain rfl := known_unique known admits.known
  by_contra! hasRoom
  refine notMissed other ⟨admits, isAnywhere, isEmpty, isShort, ?_, .inr hasRoom⟩
  unfold allowed at isShort
  omega

theorem noSpace_of_not_broken (counts : ∀ slot ∈ storage.inventory, 0 < slot.item.count)
    (notMissed : ∀ proto, ¬ storage.MissesCurrency request proto)
    (isNew : request.pItem = none)
    (notOk : (storage.canStoreItem request []).result ≠ .ok) :
    ∃ left, storage.CountsNoSpace request (storage.canStoreItem request []) left := by
  have isEmpty : request.isNotEmptyBag = false := by
    unfold StoreRequest.isNotEmptyBag
    rw [isNew]
    rfl
  by_cases admitted : ∃ proto, storage.Admits request proto
  · obtain ⟨proto, admits⟩ := admitted
    have isTotal := left_add_total small fair admits
    have someFit := admits.someFit
    refine ⟨_, canStoreItem_noSpaceCount small fair admits isEmpty notOk, ?_, ?_⟩
    · unfold allowed at isTotal
      omega
    · intro isAnywhere other known
      obtain rfl := known_unique admits.known known
      have atMost := @openRoom_le_freeRoom storage request other
      have notBoth : ¬ (storage.openRoom request other < storage.allowed request other ∧
          storage.openRoom request other < storage.freeRoom request other) := fun both =>
        notMissed other ⟨admits, isAnywhere, isEmpty, both.1, both.2, .inl isNew⟩
      rw [left_anywhere small fair counts isAnywhere admits isEmpty]
      unfold allowed at notBoth ⊢
      omega
  · have refused := canStoreItem_of_not_admits fair (not_exists.mp admitted) []
    refine ⟨request.count, refused.noSpace, ?_, ?_⟩
    · rw [refused.nothingPlanned]
      exact Nat.add_zero _
    · intro _ proto known
      have notLooted : (request.pItem.map SourceItem.lootGenerated).getD false = false := by
        rw [isNew]
        rfl
      have notBound : (request.pItem.map SourceItem.bindedNotWith).getD false = false := by
        rw [isNew]
        rfl
      have atMost := noSimilarCount_le fair known notLooted
      have noneFits : ¬ storage.noSimilarCount request proto < request.count :=
        fun someFit => admitted ⟨proto, known, notLooted, notBound, someFit⟩
      omega

end Kept

/-- The promises are kept unless an item goes into itself or a key misses its slots. -/
theorem keepsPromises_iff {nextItemGuid : Nat} (wellFormed : storage.WellFormed nextItemGuid)
    (fair : storage.FairRequest request) :
    storage.KeepsPromises request ↔
      ∀ proto, ¬ storage.GoesIntoItself request proto ∧
        ¬ storage.GoesIntoCurrency request proto ∧ ¬ storage.MissesCurrency request proto := by
  have small : storage.SmallBags := wellFormed.bags
  have sound := wellFormed.tidy.positions
  constructor
  · intro promises proto
    exact ⟨fun broken => broken.breaks small fair sound promises,
      fun broken => broken.breaks small fair sound promises,
      fun broken => broken.breaks small fair wellFormed.counts promises⟩
  · intro kept
    have notMissed proto := (kept proto).2.2
    exact
      { sound := sound_of_not_broken small fair sound (fun proto => (kept proto).1)
          fun proto => (kept proto).2.1
        complete := fun isFull isAnywhere _ known =>
          complete_of_not_broken small fair wellFormed.counts notMissed isFull isAnywhere known
        noSpace := noSpace_of_not_broken small fair wellFormed.counts notMissed }

theorem smallBags_of_templates
    (templates : ∀ entry proto, storage.getItemTemplate entry = some proto →
      proto.containerSlots ≤ MAX_BAG_SIZE) : storage.SmallBags := by
  intro bag item bagProto worn
  unfold getBagByPos at worn
  split_ifs at worn
  cases inSlot : storage.itemIn INVENTORY_SLOT_BAG_0 bag with
  | none =>
      rw [inSlot] at worn
      cases worn
  | some other =>
      rw [inSlot] at worn
      dsimp only at worn
      cases known : storage.getItemTemplate other.entry with
      | none =>
          rw [known] at worn
          cases worn
      | some proto =>
          rw [known] at worn
          dsimp only at worn
          split_ifs at worn
          obtain ⟨rfl, rfl⟩ := Prod.mk.inj (Option.some.inj worn)
          exact templates _ _ known

def keyTemplate : ItemTemplate where
  itemClass := 13
  subClass := 0
  inventoryType := 0
  maxCount := 0
  stackable := 1
  containerSlots := 0
  socketColor := 0
  gemProperties := 0
  bagFamily := BAG_FAMILY_MASK_KEYS
  itemLimitCategory := 0

/-- A key in each slot of the keyring. -/
def fullKeyring : Storage where
  inventory :=
    (slotsFrom KEYRING_SLOT_START KEYRING_SLOT_END).map fun slot =>
      { owner := 1
        pos := position INVENTORY_SLOT_BAG_0 slot
        item := { guid := slot, entry := 7, count := 1 } }
  owner := 1
  getItemTemplate _ := some keyTemplate
  limitCategories _ := none
  lootGenerated _ := false
  getGemCountWithID _ _ := 0

/-- One more key into the main slots. -/
def anotherKey : StoreRequest where
  bag := INVENTORY_SLOT_BAG_0
  slot := NULL_SLOT
  entry := 7
  count := 1
  pItem := none
  swap := false

theorem wellFormed_fullKeyring : fullKeyring.WellFormed KEYRING_SLOT_END where
  tidy :=
    { positions := by unfold Inventory.Sound; decide +kernel
      guids := by decide +kernel
      older := by decide +kernel
      limits := by decide +kernel }
  counts := by decide +kernel
  bags := smallBags_of_templates fun _ _ known => by
    obtain rfl := Option.some.inj known
    decide

theorem fair_anotherKey : fullKeyring.FairRequest anotherKey where
  slotIsByte := by decide
  bagIsByte := by decide
  positive := by decide
  isWord := by decide
  withinLimits := fun proto known => by
    obtain rfl := Option.some.inj known
    exact ⟨fun limited => absurd limited (by decide), fun _ limited => absurd rfl limited⟩

/-- The key which does not fit is planned into the first slot for currency. -/
theorem fullKeyring_not_kept :
    (fullKeyring.canStoreItem anotherKey []).plan.taken =
        [(position INVENTORY_SLOT_BAG_0 CURRENCYTOKEN_SLOT_START, 1)] ∧
      fullKeyring.WellFormed KEYRING_SLOT_END ∧ fullKeyring.FairRequest anotherKey ∧
        ¬ fullKeyring.KeepsPromises anotherKey := by
  have broken : fullKeyring.GoesIntoCurrency anotherKey keyTemplate :=
    { admits :=
        { known := rfl
          notLooted := rfl
          notBound := rfl
          someFit := by decide +kernel }
      similar := by decide +kernel
      isMain := rfl
      isKey := by decide
      isNoToken := by decide
      isEmptyBag := rfl
      accepted := nofun
      isLeft := by decide +kernel
      isFree := ⟨position INVENTORY_SLOT_BAG_0 CURRENCYTOKEN_SLOT_START, _, rfl, by decide +kernel⟩
      fits := by decide +kernel }
  exact ⟨by decide +kernel, wellFormed_fullKeyring, fair_anotherKey,
    broken.breaks wellFormed_fullKeyring.bags fair_anotherKey wellFormed_fullKeyring.tidy.positions⟩

theorem keepsPromises_iff_fullKeyring :
    fullKeyring.KeepsPromises anotherKey ↔
      ∀ proto, ¬ fullKeyring.GoesIntoItself anotherKey proto ∧
        ¬ fullKeyring.GoesIntoCurrency anotherKey proto ∧
          ¬ fullKeyring.MissesCurrency anotherKey proto :=
  keepsPromises_iff wellFormed_fullKeyring fair_anotherKey

end Storage

end RealmServer.Players
