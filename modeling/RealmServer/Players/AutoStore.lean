import RealmServer.Players.StoreExactness

/-!
# Automatic loot

`AutoStoreLoot` tries the named bag and slot, then the bag alone, then any bag,
and hands the same `dest` to every try.  What a try which fails has planned
stays in it, and a later try skips these positions without counting them, so
that an item can be created in a larger number than was rolled.
-/

namespace RealmServer.Players

open GreedyFill Table

structure LootItem where
  itemid : Nat
  /-- A byte. -/
  count : Nat
deriving DecidableEq, Repr

namespace Storage

section Looting

variable (storage : Storage) (bag slot : Nat) (lootItem : LootItem)

/-- What `CanStoreNewItem` hands to the planner. -/
def lootRequest : StoreRequest where
  bag
  slot
  entry := lootItem.itemid
  count := lootItem.count
  pItem := none
  swap := false

/-- A further try after one that failed, with its `dest`. -/
def retryLoot (before : StoreAnswer) (again : Bool) : StoreAnswer :=
  if before.result ≠ .ok ∧ again then
    storage.canStoreNewItem bag slot before.plan.taken lootItem.itemid lootItem.count
  else before

/-- The tries for one item. -/
def planLoot : StoreAnswer :=
  storage.retryLoot NULL_BAG NULL_SLOT lootItem
    (storage.retryLoot bag NULL_SLOT lootItem
      (storage.canStoreNewItem bag slot [] lootItem.itemid lootItem.count) (slot ≠ NULL_SLOT))
    (bag ≠ NULL_BAG)

/-- `StoreNewItem`: as many are created as the positions of `dest` take together. -/
def storeNewItem (nextItemGuid : Nat) (plan : Plan Nat) (item : Nat) : Storage × Nat :=
  if plan.total < 1 then (storage, nextItemGuid)
  else
    ({ storage with
        inventory :=
          (Inventory.storeItem storage.owner
            { guid := nextItemGuid
              entry := item
              count := min plan.total (storage.maxStackCount item) }
            storage.inventory (nextItemGuid + 1) (destOf plan)).inventory },
      (Inventory.storeItem storage.owner
        { guid := nextItemGuid
          entry := item
          count := min plan.total (storage.maxStackCount item) }
        storage.inventory (nextItemGuid + 1) (destOf plan)).nextItemGuid)

end Looting

/-- What became of one loot item. -/
structure LootStep where
  lootItem : LootItem
  before : Storage
  after : Storage
  nextItemGuid : Nat
  /-- The positions given to `StoreNewItem`, unless it ends with an equip error. -/
  stored : Option (Plan Nat)

/-- One turn of the loop. -/
def storeLootItem (storage : Storage) (bag slot nextItemGuid : Nat) (lootItem : LootItem) :
    LootStep :=
  if (storage.planLoot bag slot lootItem).result ≠ .ok then
    { lootItem, before := storage, after := storage, nextItemGuid, stored := none }
  else
    { lootItem
      before := storage
      after := (storage.storeNewItem nextItemGuid (storage.planLoot bag slot lootItem).plan
        lootItem.itemid).1
      nextItemGuid := (storage.storeNewItem nextItemGuid (storage.planLoot bag slot lootItem).plan
        lootItem.itemid).2
      stored := some (storage.planLoot bag slot lootItem).plan }

/-- `AutoStoreLoot`. -/
def autoStoreLoot (bag slot : Nat) : Storage → Nat → List LootItem → List LootStep
  | _, _, [] => []
  | storage, nextItemGuid, lootItem :: later =>
      storage.storeLootItem bag slot nextItemGuid lootItem ::
        autoStoreLoot bag slot (storage.storeLootItem bag slot nextItemGuid lootItem).after
          (storage.storeLootItem bag slot nextItemGuid lootItem).nextItemGuid later

/-- The item is stored as it was rolled, or not at all. -/
structure LootStep.IsExact (step : LootStep) : Prop where
  refused : step.stored = none → step.after = step.before
  planned : ∀ plan, step.stored = some plan → plan.total = step.lootItem.count
  created : ∀ plan, step.stored = some plan →
    step.after.inventory.holds (piecesOf step.lootItem.itemid) =
      step.before.inventory.holds (piecesOf step.lootItem.itemid) + step.lootItem.count

/-! ## The room of the tries -/

section Rooms

variable (storage : Storage) (proto : ItemTemplate) (bag slot : Nat) (lootItem : LootItem)

def lootRoomAt (pos : Nat) : Nat :=
  storage.roomAt (lootRequest NULL_BAG NULL_SLOT lootItem) proto pos

/-- The positions of a try. -/
def lootPlaces : List Nat :=
  storage.reached (lootRequest bag slot lootItem) proto
    (passes (lootRequest bag slot lootItem) proto)

/-- The positions of the second try. -/
def bagPlacesTried : List Nat :=
  if slot ≠ NULL_SLOT then storage.lootPlaces proto bag NULL_SLOT lootItem else []

def firstRoom : Nat :=
  roomBeside (storage.lootRoomAt proto lootItem) [] (storage.lootPlaces proto bag slot lootItem)

def secondRoom : Nat :=
  roomBeside (storage.lootRoomAt proto lootItem) (storage.lootPlaces proto bag slot lootItem)
    (storage.bagPlacesTried proto bag slot lootItem)

def thirdRoom : Nat :=
  roomBeside (storage.lootRoomAt proto lootItem)
    (storage.lootPlaces proto bag slot lootItem ++ storage.bagPlacesTried proto bag slot lootItem)
    (storage.lootPlaces proto NULL_BAG NULL_SLOT lootItem)

/-- A try finds some room but too little, and a later one finds enough beside it. -/
structure Overcounts : Prop where
  known : storage.getItemTemplate lootItem.itemid = some proto
  similar : (storage.canTakeMoreSimilarItems lootItem.itemid lootItem.count proto none).1 = .ok
  isShort : storage.firstRoom proto bag slot lootItem < lootItem.count
  isEnough :
    0 < storage.firstRoom proto bag slot lootItem ∧
        lootItem.count ≤ storage.secondRoom proto bag slot lootItem ∨
      0 < storage.firstRoom proto bag slot lootItem + storage.secondRoom proto bag slot lootItem ∧
        storage.secondRoom proto bag slot lootItem < lootItem.count ∧ bag ≠ NULL_BAG ∧
          lootItem.count ≤ storage.thirdRoom proto bag slot lootItem

end Rooms

variable {storage : Storage} {proto : ItemTemplate} {bag slot pos : Nat} {lootItem : LootItem}

theorem vacated_lootRequest (pos : Nat) :
    storage.vacated (lootRequest bag slot lootItem) pos =
      storage.getItemByPos (pos / 256) (pos % 256) := by
  have stays : isSwappedOut (lootRequest bag slot lootItem) pos = false := rfl
  unfold vacated occupant
  rw [stays, if_neg Bool.false_ne_true]
  cases storage.getItemByPos (pos / 256) (pos % 256) with
  | none => rfl
  | some item => exact Option.filter_some_pos (decide_eq_true nofun)

theorem roomAt_lootRequest :
    storage.roomAt (lootRequest bag slot lootItem) proto = storage.lootRoomAt proto lootItem := by
  funext pos
  unfold lootRoomAt roomAt
  rw [vacated_lootRequest, vacated_lootRequest]

/-! ## Searches which succeed -/

/-- What holds of the last answer holds of a search, if walks which go on keep it. -/
theorem runPasses_induction (small : storage.SmallBags) {request : StoreRequest}
    (slotIsByte : request.slot < 256) {tooMany : Nat} {holds : Plan Nat → StoreAnswer → Prop}
    (completes : ∀ plan places, (fill (storage.roomAt request proto) places plan).left = 0 →
      holds plan (completed tooMany (fill (storage.roomAt request proto) places plan)))
    (goesOn : ∀ plan places answer,
      holds (fill (storage.roomAt request proto) places plan) answer → holds plan answer)
    (refuses : ∀ plan answer, answer.result ≠ .ok → answer.plan = plan → holds plan answer)
    {steps : List Pass} (regular : ∀ step ∈ steps, step.Regular request) (plan : Plan Nat) :
    holds plan (storage.runPasses request proto tooMany steps plan) := by
  induction steps generalizing plan with
  | nil => exact refuses plan _ (by simp [runPasses, refused]) rfl
  | cons step later induction =>
      obtain ⟨isRegular, laterRegular⟩ := List.forall_mem_cons.mp regular
      have next := induction laterRegular
      have filled (places : List Nat) : holds plan
          (if (fill (storage.roomAt request proto) places plan).left = 0 then
            completed tooMany (fill (storage.roomAt request proto) places plan)
          else
            storage.runPasses request proto tooMany later
              (fill (storage.roomAt request proto) places plan)) := by
        split_ifs with isFull
        · exact completes plan places isFull
        · exact goesOn plan places _ (next _)
      cases step with
      | required step =>
          unfold runPasses
          rw [walk_eq small slotIsByte isRegular]
          cases given : storage.found request proto step with
          | error => exact refuses plan _ (found_error given).1 rfl
          | ok places => exact filled places
      | optional step =>
          unfold runPasses
          rw [walk_eq small slotIsByte isRegular]
          cases storage.found request proto step with
          | error => exact next plan
          | ok places => exact filled places
      | refuseNonemptyBag => exact refuses plan _ (by simp [runPasses]) rfl

/-- A search which succeeds has stored all that it was given. -/
theorem runPasses_ok (small : storage.SmallBags) {request : StoreRequest}
    (slotIsByte : request.slot < 256) {tooMany : Nat} {steps : List Pass}
    (regular : ∀ step ∈ steps, step.Regular request) {plan : Plan Nat}
    (isOk : (storage.runPasses request proto tooMany steps plan).result = .ok) :
    tooMany = 0 ∧
      (storage.runPasses request proto tooMany steps plan).plan.total = plan.total + plan.left := by
  revert isOk
  apply @runPasses_induction storage proto small request slotIsByte tooMany
    (fun plan answer => answer.result = .ok →
      tooMany = 0 ∧ answer.plan.total = plan.total + plan.left) ?_ ?_ ?_ steps regular plan
  · intro plan places isFull isOk
    have filled := total_fill (storage.roomAt request proto) places plan
    rw [isFull, Nat.add_zero] at filled
    unfold completed at isOk ⊢
    split_ifs at isOk ⊢ with similar
    exact ⟨similar, filled⟩
  · intro plan places answer later isOk
    rw [← total_fill (storage.roomAt request proto) places plan]
    exact later isOk
  · exact fun _ _ notOk _ isOk => absurd isOk notOk

section Tries

variable (small : storage.SmallBags) (slotIsByte : slot < 256) {dest : List (Nat × Nat)}

include small slotIsByte

/-- A try which succeeds has planned all of the item beside what was planned before. -/
theorem canStoreNewItem_ok
    (isOk : (storage.canStoreNewItem bag slot dest lootItem.itemid lootItem.count).result = .ok) :
    ∃ proto, storage.getItemTemplate lootItem.itemid = some proto ∧
      (storage.canTakeMoreSimilarItems lootItem.itemid lootItem.count proto none).1 = .ok ∧
        (storage.canStoreNewItem bag slot dest lootItem.itemid lootItem.count).plan.total =
          (dest.map Prod.snd).sum + lootItem.count := by
  unfold canStoreNewItem canStoreItem at isOk ⊢
  cases known : storage.getItemTemplate lootItem.itemid with
  | none =>
      dsimp only at isOk
      rw [known] at isOk
      cases isOk
  | some proto =>
      refine ⟨proto, rfl, ?_⟩
      dsimp only at isOk ⊢
      rw [known] at isOk
      dsimp only [Option.map_none, Option.getD_none] at isOk ⊢
      rw [if_neg Bool.false_ne_true, if_neg Bool.false_ne_true] at isOk ⊢
      generalize answers :
        storage.canTakeMoreSimilarItems lootItem.itemid lootItem.count proto none = similar
          at isOk ⊢
      unfold searchSlots at isOk ⊢
      by_cases fits : similar.1 = .ok
      · rw [if_pos fits] at isOk ⊢
        exact ⟨fits, (runPasses_ok small slotIsByte passes_regular isOk).2⟩
      rw [if_neg fits] at isOk
      dsimp only at isOk
      by_cases isAll : lootItem.count = similar.2
      · rw [if_pos isAll] at isOk
        exact absurd isOk fits
      · rw [if_neg isAll] at isOk
        have isZero := (runPasses_ok small slotIsByte passes_regular isOk).1
        exact absurd isZero (tooMany_ne_zero rfl answers fits isAll)

variable (known : storage.getItemTemplate lootItem.itemid = some proto)
  (similar : (storage.canTakeMoreSimilarItems lootItem.itemid lootItem.count proto none).1 = .ok)
  (positive : lootItem.count ≠ 0)

include known similar positive

theorem canStoreNewItem_eq :
    storage.canStoreNewItem bag slot dest lootItem.itemid lootItem.count =
      storage.outcome (lootRequest bag slot lootItem) proto 0
        (passes (lootRequest bag slot lootItem) proto)
        { taken := dest, left := lootItem.count } := by
  rw [← runPasses_eq small slotIsByte passes_regular positive]
  unfold canStoreNewItem canStoreItem
  dsimp only
  rw [known]
  dsimp only [Option.map_none, Option.getD_none]
  rw [if_neg Bool.false_ne_true, if_neg Bool.false_ne_true]
  exact if_pos similar

theorem canStoreNewItem_ok_iff :
    (storage.canStoreNewItem bag slot dest lootItem.itemid lootItem.count).result = .ok ↔
      lootItem.count ≤ roomBeside (storage.lootRoomAt proto lootItem) (dest.map Prod.fst)
        (storage.lootPlaces proto bag slot lootItem) := by
  rw [canStoreNewItem_eq small slotIsByte known similar positive, outcome_ok_iff,
    roomAt_lootRequest]
  exact and_iff_right rfl

/-- A try which fails leaves all that it found in `dest`. -/
theorem canStoreNewItem_failed
    (isShort : roomBeside (storage.lootRoomAt proto lootItem) (dest.map Prod.fst)
      (storage.lootPlaces proto bag slot lootItem) < lootItem.count) :
    (storage.canStoreNewItem bag slot dest lootItem.itemid lootItem.count).plan.total =
        (dest.map Prod.snd).sum +
          roomBeside (storage.lootRoomAt proto lootItem) (dest.map Prod.fst)
            (storage.lootPlaces proto bag slot lootItem) ∧
      ∀ pos, pos ∈
          (storage.canStoreNewItem bag slot dest lootItem.itemid lootItem.count).plan.places ↔
        pos ∈ dest.map Prod.fst ∨ pos ∈ storage.lootPlaces proto bag slot lootItem := by
  rw [canStoreNewItem_eq small slotIsByte known similar positive, outcome_plan, roomAt_lootRequest]
  exact ⟨total_fill_of_left isShort, mem_places_fill_iff isShort⟩

end Tries

/-! ## All tries -/

theorem retryLoot_of_ok {before : StoreAnswer} (isOk : before.result = .ok) (again : Bool) :
    storage.retryLoot bag slot lootItem before again = before :=
  if_neg fun both => both.1 isOk

theorem retryLoot_again {before : StoreAnswer} (notOk : before.result ≠ .ok) :
    storage.retryLoot bag slot lootItem before true =
      storage.canStoreNewItem bag slot before.plan.taken lootItem.itemid lootItem.count :=
  if_pos ⟨notOk, rfl⟩

theorem retryLoot_not_again (before : StoreAnswer) :
    storage.retryLoot bag slot lootItem before false = before :=
  if_neg fun both => Bool.false_ne_true both.2

/-- A try that failed: how much it has planned, and where. -/
structure HasFailed (answer : StoreAnswer) (total : Nat) (places : List Nat) : Prop where
  notOk : answer.result ≠ .ok
  total : answer.plan.total = total
  places : ∀ pos, pos ∈ answer.plan.places ↔ pos ∈ places

section Retries

variable (small : storage.SmallBags)
  (known : storage.getItemTemplate lootItem.itemid = some proto)
  (similar : (storage.canTakeMoreSimilarItems lootItem.itemid lootItem.count proto none).1 = .ok)
  (positive : lootItem.count ≠ 0) {before : StoreAnswer} {total : Nat} {places : List Nat}
  (hasFailed : HasFailed before total places)

include small known similar positive hasFailed

theorem retry_succeeds (slotIsByte : slot < 256)
    (isEnough : lootItem.count ≤ roomBeside (storage.lootRoomAt proto lootItem) places
      (storage.lootPlaces proto bag slot lootItem)) :
    (storage.canStoreNewItem bag slot before.plan.taken lootItem.itemid lootItem.count).result =
        .ok ∧
      (storage.canStoreNewItem bag slot before.plan.taken lootItem.itemid
        lootItem.count).plan.total = total + lootItem.count := by
  rw [← roomBeside_congr hasFailed.places] at isEnough
  have isOk := (canStoreNewItem_ok_iff small slotIsByte known similar positive).mpr isEnough
  obtain ⟨_, _, _, isTotal⟩ := canStoreNewItem_ok small slotIsByte isOk
  rw [← hasFailed.total]
  exact ⟨isOk, isTotal⟩

theorem retry_fails (slotIsByte : slot < 256)
    (isShort : roomBeside (storage.lootRoomAt proto lootItem) places
      (storage.lootPlaces proto bag slot lootItem) < lootItem.count) :
    HasFailed
      (storage.canStoreNewItem bag slot before.plan.taken lootItem.itemid lootItem.count)
      (total + roomBeside (storage.lootRoomAt proto lootItem) places
        (storage.lootPlaces proto bag slot lootItem))
      (places ++ storage.lootPlaces proto bag slot lootItem) := by
  have sameRoom := @roomBeside_congr _ (storage.lootRoomAt proto lootItem) _ _ _ hasFailed.places
    (storage.lootPlaces proto bag slot lootItem)
  rw [← sameRoom] at isShort ⊢
  obtain ⟨isTotal, arePlaces⟩ :=
    canStoreNewItem_failed small slotIsByte known similar positive isShort
  refine ⟨?_, ?_, fun pos => ?_⟩
  · rw [Ne, canStoreNewItem_ok_iff small slotIsByte known similar positive]
    exact not_le.mpr isShort
  · rw [isTotal, ← hasFailed.total]
    rfl
  · rw [arePlaces, List.mem_append, ← hasFailed.places]
    rfl

end Retries

theorem firstTry_fails (small : storage.SmallBags) (slotIsByte : slot < 256)
    (known : storage.getItemTemplate lootItem.itemid = some proto)
    (similar : (storage.canTakeMoreSimilarItems lootItem.itemid lootItem.count proto none).1 = .ok)
    (isShort : storage.firstRoom proto bag slot lootItem < lootItem.count) :
    HasFailed (storage.canStoreNewItem bag slot [] lootItem.itemid lootItem.count)
      (storage.firstRoom proto bag slot lootItem)
      (storage.lootPlaces proto bag slot lootItem) := by
  have positive : lootItem.count ≠ 0 := Nat.ne_of_gt (Nat.zero_lt_of_lt isShort)
  obtain ⟨isTotal, arePlaces⟩ :=
    @canStoreNewItem_failed _ _ bag _ _ small slotIsByte [] known similar positive isShort
  refine ⟨?_, isTotal.trans (Nat.zero_add _), fun pos => ?_⟩
  · rw [Ne, canStoreNewItem_ok_iff small slotIsByte known similar positive]
    exact not_le.mpr isShort
  · rw [arePlaces]
    exact or_iff_right List.not_mem_nil

/-- The tries with the bag that is named, after the first has failed. -/
theorem secondTry (small : storage.SmallBags) (slotIsByte : slot < 256)
    (known : storage.getItemTemplate lootItem.itemid = some proto)
    (similar : (storage.canTakeMoreSimilarItems lootItem.itemid lootItem.count proto none).1 = .ok)
    (isShort : storage.firstRoom proto bag slot lootItem < lootItem.count) :
    let second := storage.retryLoot bag NULL_SLOT lootItem
      (storage.canStoreNewItem bag slot [] lootItem.itemid lootItem.count) (slot ≠ NULL_SLOT)
    (lootItem.count ≤ storage.secondRoom proto bag slot lootItem →
      second.result = .ok ∧
        second.plan.total = storage.firstRoom proto bag slot lootItem + lootItem.count) ∧
    (storage.secondRoom proto bag slot lootItem < lootItem.count →
      HasFailed second
        (storage.firstRoom proto bag slot lootItem + storage.secondRoom proto bag slot lootItem)
        (storage.lootPlaces proto bag slot lootItem ++
          storage.bagPlacesTried proto bag slot lootItem)) := by
  have positive : lootItem.count ≠ 0 := Nat.ne_of_gt (Nat.zero_lt_of_lt isShort)
  have first := firstTry_fails small slotIsByte known similar isShort
  dsimp only
  unfold secondRoom bagPlacesTried
  by_cases anySlot : slot ≠ NULL_SLOT
  · rw [decide_eq_true anySlot, if_pos anySlot, retryLoot_again first.notOk]
    exact ⟨retry_succeeds small known similar positive first (by decide),
      retry_fails small known similar positive first (by decide)⟩
  · rw [decide_eq_false anySlot, if_neg anySlot, retryLoot_not_again, List.append_nil]
    exact ⟨fun isEnough => absurd (Nat.le_zero.mp isEnough) positive, fun _ => first⟩

/-- What the tries plan together is the count, unless a failed one has planned something. -/
theorem planLoot_total_iff (small : storage.SmallBags) (slotIsByte : slot < 256)
    (known : storage.getItemTemplate lootItem.itemid = some proto)
    (similar : (storage.canTakeMoreSimilarItems lootItem.itemid lootItem.count proto none).1 = .ok)
    (positive : lootItem.count ≠ 0) :
    ((storage.planLoot bag slot lootItem).result = .ok →
        (storage.planLoot bag slot lootItem).plan.total = lootItem.count) ↔
      ¬ storage.Overcounts proto bag slot lootItem := by
  by_cases isShort : storage.firstRoom proto bag slot lootItem < lootItem.count
  · obtain ⟨succeeds, fails⟩ := @secondTry _ _ bag _ _ small slotIsByte known similar isShort
    unfold planLoot
    by_cases isEnough : lootItem.count ≤ storage.secondRoom proto bag slot lootItem
    · obtain ⟨isOk, isTotal⟩ := succeeds isEnough
      rw [retryLoot_of_ok isOk, isTotal]
      constructor
      · intro exact broken
        have isSame := exact isOk
        rcases broken.isEnough with isPlanned | isLater
        · omega
        · exact absurd isEnough (not_le.mpr isLater.2.1)
      · intro notBroken _
        by_contra isMore
        exact notBroken ⟨known, similar, isShort, .inl ⟨by omega, isEnough⟩⟩
    have second := fails (not_le.mp isEnough)
    by_cases anyBag : bag ≠ NULL_BAG
    · rw [decide_eq_true anyBag, retryLoot_again second.notOk]
      by_cases isEnoughAnywhere : lootItem.count ≤ storage.thirdRoom proto bag slot lootItem
      · obtain ⟨isOk, isTotal⟩ :=
          retry_succeeds small known similar positive second (by decide) isEnoughAnywhere
        rw [isTotal]
        constructor
        · intro exact broken
          have isSame := exact isOk
          rcases broken.isEnough with isPlanned | isLater
          · exact isEnough isPlanned.2
          · omega
        · intro notBroken _
          by_contra isMore
          exact notBroken ⟨known, similar, isShort,
            .inr ⟨by omega, not_le.mp isEnough, anyBag, isEnoughAnywhere⟩⟩
      · have third := retry_fails small known similar positive second (by decide)
          (not_le.mp isEnoughAnywhere)
        refine iff_of_true (fun isOk => absurd isOk third.notOk) fun broken => ?_
        rcases broken.isEnough with isPlanned | isLater
        · exact isEnough isPlanned.2
        · exact isEnoughAnywhere isLater.2.2.2
    · rw [decide_eq_false anyBag, retryLoot_not_again]
      refine iff_of_true (fun isOk => absurd isOk second.notOk) fun broken => ?_
      rcases broken.isEnough with isPlanned | isLater
      · exact isEnough isPlanned.2
      · exact anyBag isLater.2.2.1
  · have isOk : (storage.canStoreNewItem bag slot [] lootItem.itemid lootItem.count).result = .ok :=
      (canStoreNewItem_ok_iff small slotIsByte known similar positive).mpr (not_lt.mp isShort)
    obtain ⟨_, _, _, isTotal⟩ := canStoreNewItem_ok small slotIsByte isOk
    unfold planLoot
    rw [retryLoot_of_ok isOk, retryLoot_of_ok isOk]
    exact iff_of_true (fun _ => isTotal.trans (Nat.zero_add _)) fun broken => isShort broken.isShort

/-- A try plans no more than the count, if so many may be carried. -/
theorem canStoreNewItem_total_le (small : storage.SmallBags) (slotIsByte : slot < 256)
    {dest : List (Nat × Nat)} (known : storage.getItemTemplate lootItem.itemid = some proto)
    (similar :
      (storage.canTakeMoreSimilarItems lootItem.itemid lootItem.count proto none).1 = .ok) :
    (storage.canStoreNewItem bag slot dest lootItem.itemid lootItem.count).plan.total ≤
      (dest.map Prod.snd).sum + lootItem.count := by
  unfold canStoreNewItem canStoreItem
  dsimp only
  rw [known]
  dsimp only [Option.map_none, Option.getD_none]
  rw [if_neg Bool.false_ne_true, if_neg Bool.false_ne_true]
  unfold searchSlots
  rw [if_pos similar]
  apply @runPasses_induction storage proto small (lootRequest bag slot lootItem) slotIsByte 0
    (fun plan answer => answer.plan.total ≤ plan.total + plan.left) ?_ ?_ ?_ _ passes_regular
  · intro plan places isFull
    rw [← total_fill (storage.roomAt (lootRequest bag slot lootItem) proto) places plan]
    exact Nat.le_add_right _ _
  · intro plan places answer later
    rw [← total_fill (storage.roomAt (lootRequest bag slot lootItem) proto) places plan]
    exact later
  · intro plan answer _ same
    rw [same]
    exact Nat.le_add_right _ _

theorem retryLoot_ok {before : StoreAnswer} {again : Bool}
    (isOk : (storage.retryLoot bag slot lootItem before again).result = .ok) :
    before.result = .ok ∨
      (storage.canStoreNewItem bag slot before.plan.taken lootItem.itemid lootItem.count).result =
        .ok := by
  unfold retryLoot at isOk
  split_ifs at isOk
  · exact .inr isOk
  · exact .inl isOk

theorem retryLoot_total_le (small : storage.SmallBags) (slotIsByte : slot < 256)
    (known : storage.getItemTemplate lootItem.itemid = some proto)
    (similar : (storage.canTakeMoreSimilarItems lootItem.itemid lootItem.count proto none).1 = .ok)
    (before : StoreAnswer) (again : Bool) :
    (storage.retryLoot bag slot lootItem before again).plan.total ≤
      before.plan.total + lootItem.count := by
  unfold retryLoot
  split_ifs
  · exact canStoreNewItem_total_le small slotIsByte known similar
  · exact Nat.le_add_right _ _

/-- Something is stored only if so many may be carried, and nothing if nothing was rolled. -/
theorem planLoot_ok (small : storage.SmallBags) (slotIsByte : slot < 256)
    (isOk : (storage.planLoot bag slot lootItem).result = .ok) :
    ∃ proto, storage.getItemTemplate lootItem.itemid = some proto ∧
      (storage.canTakeMoreSimilarItems lootItem.itemid lootItem.count proto none).1 = .ok ∧
        (lootItem.count = 0 → (storage.planLoot bag slot lootItem).plan.total = 0) := by
  have anySlot : NULL_SLOT < 256 := by decide
  have admitted : ∃ proto, storage.getItemTemplate lootItem.itemid = some proto ∧
      (storage.canTakeMoreSimilarItems lootItem.itemid lootItem.count proto none).1 = .ok := by
    rcases retryLoot_ok isOk with isSecond | isThird
    · rcases retryLoot_ok isSecond with isFirst | isSecond
      · obtain ⟨proto, known, similar, _⟩ := canStoreNewItem_ok small slotIsByte isFirst
        exact ⟨proto, known, similar⟩
      · obtain ⟨proto, known, similar, _⟩ := canStoreNewItem_ok small anySlot isSecond
        exact ⟨proto, known, similar⟩
    · obtain ⟨proto, known, similar, _⟩ := canStoreNewItem_ok small anySlot isThird
      exact ⟨proto, known, similar⟩
  obtain ⟨proto, known, similar⟩ := admitted
  refine ⟨proto, known, similar, fun isZero => ?_⟩
  have third := @retryLoot_total_le _ _ NULL_BAG _ _ small anySlot known similar
    (storage.retryLoot bag NULL_SLOT lootItem
      (storage.canStoreNewItem bag slot [] lootItem.itemid lootItem.count) (slot ≠ NULL_SLOT))
    (bag ≠ NULL_BAG)
  have second := @retryLoot_total_le _ _ bag _ _ small anySlot known similar
    (storage.canStoreNewItem bag slot [] lootItem.itemid lootItem.count) (slot ≠ NULL_SLOT)
  have first := @canStoreNewItem_total_le _ _ bag _ _ small slotIsByte [] known similar
  have none : (([] : List (Nat × Nat)).map Prod.snd).sum = 0 := rfl
  unfold planLoot
  omega

/-- What is passed to `StoreNewItem` is the count that was rolled. -/
theorem planLoot_exact_iff (small : storage.SmallBags) (slotIsByte : slot < 256) :
    ((storage.planLoot bag slot lootItem).result = .ok →
        (storage.planLoot bag slot lootItem).plan.total = lootItem.count) ↔
      ∀ proto, ¬ storage.Overcounts proto bag slot lootItem := by
  by_cases positive : lootItem.count = 0
  · refine iff_of_true (fun isOk => ?_) fun proto broken => ?_
    · obtain ⟨_, _, _, isNone⟩ := planLoot_ok small slotIsByte isOk
      rw [isNone positive, positive]
    · have isShort := broken.isShort
      omega
  constructor
  · intro exact proto broken
    exact (planLoot_total_iff small slotIsByte broken.known broken.similar positive).mp exact broken
  · intro notBroken isOk
    obtain ⟨proto, known, similar, _⟩ := planLoot_ok small slotIsByte isOk
    exact (planLoot_total_iff small slotIsByte known similar positive).mpr (notBroken proto) isOk

/-! ## What is stored -/

/-- What is in a position is of the kind of the item. -/
def FitsAt (storage : Storage) (itemid pos : Nat) : Prop :=
  ∀ slot, storage.inventory.getItemByPos storage.owner pos = some slot → slot.item.entry = itemid

theorem fitsAt_of_agree
    (agree : storage.getItemByPos (pos / 256) (pos % 256) = storage.itemIn (pos / 256) (pos % 256))
    (isKind : ∀ item, storage.vacated (lootRequest bag slot lootItem) pos = some item →
      item.entry = lootItem.itemid) : storage.FitsAt lootItem.itemid pos := by
  intro inSlot found
  apply isKind
  rw [vacated_lootRequest, agree]
  unfold itemIn
  rw [position_decode, found]
  rfl

theorem fitsAt_of_mem_lootPlaces (small : storage.SmallBags) (slotIsByte : slot < 256)
    (member : pos ∈ storage.lootPlaces proto bag slot lootItem) :
    storage.FitsAt lootItem.itemid pos := by
  obtain ⟨step, inPasses, fills⟩ := fills_of_mem_reached member
  rcases suits_of_fills small slotIsByte inPasses fills with isSuited | isItself | isCurrency
  · refine @fitsAt_of_agree _ bag slot _ _ (getItemByPos_of_suits isSuited) fun item inside => ?_
    unfold suits at isSuited
    rw [inside] at isSuited
    exact (canBeMergedPartlyWith_eq_ok_iff.mp (of_decide_eq_true isSuited)).2.1
  · have isItself := isItself.2.2.1
    unfold namesItself at isItself
    cases worn : storage.getBagByPos (lootRequest bag slot lootItem).bag with
    | none =>
        rw [worn] at isItself
        cases isItself
    | some pair =>
        rw [worn] at isItself
        have same : none = some pair.1.guid := of_decide_eq_true isItself
        cases same
  · obtain ⟨_, inSlot, atLeast, below, _, rfl, isOffered⟩ :=
      (fills_inventorySlots slotIsByte (by decide)).mp isCurrency.2.2.2
    have isByte : inSlot < 256 := below.trans (by decide)
    have isLate : KEYRING_SLOT_START ≤ inSlot := le_trans (by decide) atLeast
    refine @fitsAt_of_agree _ bag slot _ _ ?_ fun item inside => ?_
    · rw [position_div isByte, position_mod isByte]
      unfold getItemByPos
      exact if_pos ⟨rfl, .inr ⟨isLate, below⟩⟩
    · rw [vacated_of_offers_empty isOffered] at inside
      cases inside

/-- What a try hands to the next one or to `StoreNewItem`. -/
structure IsStorable (storage : Storage) (itemid : Nat) (plan : Plan Nat) : Prop where
  positions : plan.places.Nodup
  fits : ∀ pos ∈ plan.places, storage.FitsAt itemid pos

section Storable

variable (small : storage.SmallBags)
  (known : storage.getItemTemplate lootItem.itemid = some proto)
  (similar : (storage.canTakeMoreSimilarItems lootItem.itemid lootItem.count proto none).1 = .ok)
  (positive : lootItem.count ≠ 0)

include small known similar positive

theorem isStorable_canStoreNewItem (slotIsByte : slot < 256) {plan : Plan Nat}
    (isStorable : storage.IsStorable lootItem.itemid plan) :
    storage.IsStorable lootItem.itemid
      (storage.canStoreNewItem bag slot plan.taken lootItem.itemid lootItem.count).plan := by
  rw [canStoreNewItem_eq small slotIsByte known similar positive, outcome_plan]
  refine ⟨nodup_fill isStorable.positions, fun pos member => ?_⟩
  rcases mem_places_fill member with before | isReached
  · exact isStorable.fits pos before
  · exact fitsAt_of_mem_lootPlaces small slotIsByte isReached

theorem isStorable_retryLoot (slotIsByte : slot < 256) {before : StoreAnswer}
    (isStorable : storage.IsStorable lootItem.itemid before.plan) (again : Bool) :
    storage.IsStorable lootItem.itemid
      (storage.retryLoot bag slot lootItem before again).plan := by
  unfold retryLoot
  split_ifs
  · exact isStorable_canStoreNewItem small known similar positive slotIsByte isStorable
  · exact isStorable

theorem isStorable_planLoot (slotIsByte : slot < 256) :
    storage.IsStorable lootItem.itemid (storage.planLoot bag slot lootItem).plan := by
  have empty : storage.IsStorable lootItem.itemid ⟨[], 0⟩ :=
    ⟨List.nodup_nil, fun _ => False.elim ∘ List.not_mem_nil⟩
  have first := @isStorable_canStoreNewItem _ _ bag _ _ small known similar
    positive slotIsByte _ empty
  have anySlot : NULL_SLOT < 256 := by decide
  exact isStorable_retryLoot small known similar positive anySlot
    (isStorable_retryLoot small known similar positive anySlot first _) _

end Storable

/-- A storage as it is loaded: one item in each position, and no bag that is too large. -/
structure IsLoaded (storage : Storage) : Prop where
  sound : storage.inventory.Sound
  templates : ∀ entry proto, storage.getItemTemplate entry = some proto →
    proto.containerSlots ≤ MAX_BAG_SIZE

theorem IsLoaded.storeNewItem (loaded : storage.IsLoaded) (nextItemGuid : Nat) (plan : Plan Nat)
    (item : Nat) : (storage.storeNewItem nextItemGuid plan item).1.IsLoaded := by
  unfold Storage.storeNewItem
  split_ifs
  · exact loaded
  · exact ⟨Inventory.sound_storeItem _ loaded.sound _, loaded.templates⟩

theorem IsLoaded.storeLootItem (loaded : storage.IsLoaded) (nextItemGuid : Nat) :
    (storage.storeLootItem bag slot nextItemGuid lootItem).after.IsLoaded := by
  unfold Storage.storeLootItem
  split_ifs
  · exact loaded
  · exact loaded.storeNewItem _ _ _

/-- As many are created as are planned. -/
theorem holds_storeNewItem (sound : storage.inventory.Sound) {plan : Plan Nat} {item : Nat}
    (isStorable : storage.IsStorable item plan) (nextItemGuid : Nat) :
    (storage.storeNewItem nextItemGuid plan item).1.inventory.holds (piecesOf item) =
      storage.inventory.holds (piecesOf item) + plan.total := by
  unfold storeNewItem
  split_ifs with isNone
  · rw [Nat.lt_one_iff.mp isNone, Nat.add_zero]
  have positions : (destOf plan).map ItemPosCount.pos = plan.places := by
    unfold destOf Plan.places
    rw [List.map_map]
    rfl
  have counts : ((destOf plan).map ItemPosCount.count).sum = plan.total := by
    unfold destOf Plan.total
    rw [List.map_map]
    rfl
  have fits : storage.inventory.Fits storage.owner item (destOf plan) := by
    intro place member inSlot found
    exact isStorable.fits place.pos (positions ▸ List.mem_map_of_mem member) inSlot found
  dsimp only
  rw [Inventory.holds_storeItem_pieces (destOf plan) sound _
    (positions ▸ isStorable.positions) fits]
  unfold piecesOf
  dsimp only
  rw [if_pos rfl, counts]

theorem storeLootItem_exact_iff (loaded : storage.IsLoaded) (slotIsByte : slot < 256)
    (nextItemGuid : Nat) :
    (storage.storeLootItem bag slot nextItemGuid lootItem).IsExact ↔
      ∀ proto, ¬ storage.Overcounts proto bag slot lootItem := by
  have small := smallBags_of_templates loaded.templates
  rw [← planLoot_exact_iff small slotIsByte]
  unfold storeLootItem
  split_ifs with notOk
  · exact iff_of_true ⟨fun _ => rfl, nofun, nofun⟩ fun isOk => absurd isOk notOk
  have isOk := not_not.mp notOk
  constructor
  · exact fun exact _ => exact.planned _ rfl
  · intro exact
    have isTotal := exact isOk
    refine ⟨nofun, ?_, ?_⟩
    · rintro plan isPlan
      rw [← Option.some.inj isPlan]
      exact isTotal
    · intro _ _
      by_cases positive : lootItem.count = 0
      · have isNone : (storage.planLoot bag slot lootItem).plan.total < 1 := by omega
        unfold storeNewItem
        dsimp only
        rw [if_pos isNone, positive]
        exact (Nat.add_zero _).symm
      · obtain ⟨proto, known, similar, _⟩ := planLoot_ok small slotIsByte isOk
        have isStorable := @isStorable_planLoot _ _ bag _ _ small known similar positive slotIsByte
        dsimp only
        rw [holds_storeNewItem loaded.sound isStorable, isTotal]

theorem exists_storeLootItem {nextItemGuid : Nat} {loot : List LootItem} {step : LootStep}
    (loaded : storage.IsLoaded) (member : step ∈ autoStoreLoot bag slot storage nextItemGuid loot) :
    ∃ nextItemGuid, step.before.IsLoaded ∧
      step.before.storeLootItem bag slot nextItemGuid step.lootItem = step := by
  induction loot generalizing storage nextItemGuid with
  | nil => exact absurd member List.not_mem_nil
  | cons lootItem later induction =>
      rcases List.mem_cons.mp member with rfl | isLater
      · have isBefore :
          (storage.storeLootItem bag slot nextItemGuid lootItem).before = storage := by
          unfold storeLootItem
          split_ifs <;> rfl
        have isItem : (storage.storeLootItem bag slot nextItemGuid lootItem).lootItem =
            lootItem := by
          unfold storeLootItem
          split_ifs <;> rfl
        rw [isBefore, isItem]
        exact ⟨nextItemGuid, loaded, rfl⟩
      · exact induction (loaded.storeLootItem nextItemGuid) isLater

/-- Each item is stored as it was rolled, unless a try that failed has planned something. -/
theorem autoStoreLoot_exact_iff (loaded : storage.IsLoaded) (slotIsByte : slot < 256)
    (nextItemGuid : Nat) (loot : List LootItem) :
    (∀ step ∈ autoStoreLoot bag slot storage nextItemGuid loot, step.IsExact) ↔
      ∀ step ∈ autoStoreLoot bag slot storage nextItemGuid loot,
        ∀ proto, ¬ step.before.Overcounts proto bag slot step.lootItem := by
  apply forall₂_congr
  intro step member
  obtain ⟨guid, isLoaded, isStep⟩ := exists_storeLootItem loaded member
  have exact_iff := @storeLootItem_exact_iff _ bag slot step.lootItem isLoaded slotIsByte guid
  rw [isStep] at exact_iff
  exact exact_iff

/-! ## Bags in which one slot is free -/

/-- A bag for everything with one slot. -/
def smallBag : ItemTemplate where
  itemClass := ITEM_CLASS_CONTAINER
  subClass := ITEM_SUBCLASS_CONTAINER
  inventoryType := INVTYPE_BAG
  maxCount := 0
  stackable := 1
  containerSlots := 1
  socketColor := 0
  gemProperties := 0
  bagFamily := 0
  itemLimitCategory := 0

/-- Something that stacks up to ten. -/
def copperOre : ItemTemplate where
  itemClass := 7
  subClass := 7
  inventoryType := 0
  maxCount := 0
  stackable := 10
  containerSlots := 0
  socketColor := 0
  gemProperties := 0
  bagFamily := 0
  itemLimitCategory := 0

/-- The backpack is full, one bag has a stack of seven and one is empty. -/
def nearlyFull : Storage where
  inventory :=
    (slotsFrom INVENTORY_SLOT_ITEM_START INVENTORY_SLOT_ITEM_END).map (fun slot =>
        { owner := 1
          pos := position INVENTORY_SLOT_BAG_0 slot
          item := { guid := slot, entry := 1, count := 1 } }) ++
      [{ owner := 1
         pos := position INVENTORY_SLOT_BAG_0 20
         item := { guid := 1, entry := 1, count := 1 } },
        { owner := 1
          pos := position INVENTORY_SLOT_BAG_0 21
          item := { guid := 2, entry := 1, count := 1 } },
        { owner := 1
          pos := position 20 0
          item := { guid := 3, entry := 2, count := 7 } }]
  owner := 1
  getItemTemplate entry := if entry = 1 then some smallBag
    else if entry = 2 then some copperOre else none
  limitCategories _ := none
  lootGenerated _ := false
  getGemCountWithID _ _ := 0

theorem isLoaded_nearlyFull : nearlyFull.IsLoaded where
  sound := by unfold Inventory.Sound; decide +kernel
  templates := by
    intro entry proto known
    unfold nearlyFull at known
    dsimp only at known
    split_ifs at known
    · obtain rfl := Option.some.inj known
      decide
    · obtain rfl := Option.some.inj known
      decide

/-- Ten are rolled and thirteen are created: three into the stack, ten into the empty bag. -/
theorem nearlyFull_not_exact :
    nearlyFull.IsLoaded ∧
      (autoStoreLoot 20 0 nearlyFull 39 [{ itemid := 2, count := 10 }]).map
          (fun step => step.stored.map Plan.taken) =
        [some [(position 20 0, 3), (position 21 0, 10)]] ∧
      ¬ ∀ step ∈ autoStoreLoot 20 0 nearlyFull 39 [{ itemid := 2, count := 10 }],
          step.IsExact := by
  refine ⟨isLoaded_nearlyFull, by decide +kernel, fun exact => ?_⟩
  have planned := (exact _ List.mem_cons_self).planned
    { taken := [(position 20 0, 3), (position 21 0, 10)], left := 0 } (by decide +kernel)
  exact absurd planned (by decide +kernel)

theorem autoStoreLoot_exact_iff_nearlyFull :
    (∀ step ∈ autoStoreLoot 20 0 nearlyFull 39 [{ itemid := 2, count := 10 }], step.IsExact) ↔
      ∀ step ∈ autoStoreLoot 20 0 nearlyFull 39 [{ itemid := 2, count := 10 }],
        ∀ proto, ¬ step.before.Overcounts proto 20 0 step.lootItem :=
  autoStoreLoot_exact_iff isLoaded_nearlyFull (by decide) 39 _

end Storage

end RealmServer.Players
