import RealmServer.Players.StoreRooms

/-!
# Positions which suit an item

An item suits a position which is empty and where it may be, and a stack of its
kind which is not full.  The walks of a search are followed here to the
positions they fill, and a search without a named bag or slot is shown to fill
all that suit, save for keys which are currency too.
-/

namespace RealmServer.Players

open GreedyFill

namespace Storage

section Places

variable (storage : Storage) (request : StoreRequest) (proto : ItemTemplate)

/-- The rule for an empty slot, by which the slots for equipment, the bank and bags are allowed;
a bag is no place for itself. -/
def mayOccupy (bag slot : Nat) : Bool :=
  storage.fitsToSlot proto bag slot &&
    (storage.getBagByPos bag).all fun pair => request.sourceGuid ≠ some pair.1.guid

def suits (pos : Nat) : Bool :=
  match storage.vacated request pos with
  | none => storage.mayOccupy request proto (pos / 256) (pos % 256)
  | some item => storage.canBeMergedPartlyWith item request.entry proto = .ok

/-- What a walk looks for: stacks to merge with, or empty slots. -/
def offers (merge : Bool) (pos : Nat) : Bool :=
  match storage.vacated request pos with
  | none => !merge
  | some item => merge && storage.canBeMergedPartlyWith item request.entry proto = .ok

/-- The slots of a bag which the item may go into. -/
def bagPositions (bag : Nat) : List Nat :=
  match storage.getBagByPos bag with
  | none => []
  | some (pBag, bagProto) =>
      if request.sourceGuid = some pBag.guid ∨ ¬ itemCanGoIntoBag proto bagProto then []
      else (slotsFrom 0 bagProto.containerSlots).map (position bag)

/-- The backpack, the keyring, the currency tokens and the bags which are equipped. -/
def storagePositions : List Nat :=
  (slotsFrom INVENTORY_SLOT_ITEM_START INVENTORY_SLOT_ITEM_END ++
      slotsFrom KEYRING_SLOT_START CURRENCYTOKEN_SLOT_END).map (position INVENTORY_SLOT_BAG_0) ++
    (slotsFrom INVENTORY_SLOT_BAG_START INVENTORY_SLOT_BAG_END).flatMap
      (storage.bagPositions request proto)

/-- How many more of the item can be stored. -/
def freeRoom : Nat :=
  ∑ pos ∈ ((storage.storagePositions request proto).filter (storage.suits request proto)).toFinset,
    storage.roomAt request proto pos

/-- An empty slot for currency, which a key that is currency too is not put into. -/
def isMissed (pos : Nat) : Bool :=
  proto.isKey && proto.isCurrencyToken && (storage.vacated request pos).isNone &&
    position INVENTORY_SLOT_BAG_0 CURRENCYTOKEN_SLOT_START ≤ pos &&
      pos < position INVENTORY_SLOT_BAG_0 CURRENCYTOKEN_SLOT_END

/-- How many more can be stored beside the slots for currency that are missed. -/
def openRoom : Nat :=
  ∑ pos ∈ ((storage.storagePositions request proto).filter fun pos =>
      storage.suits request proto pos && !storage.isMissed request proto pos).toFinset,
    storage.roomAt request proto pos

/-- The walk of a pass is not refused and fills a position. -/
def Fills (step : Pass) (pos : Nat) : Prop :=
  match step with
  | .required step => ∃ places, storage.found request proto step = .ok places ∧ pos ∈ places
  | .optional step => ∃ places, storage.found request proto step = .ok places ∧ pos ∈ places
  | .refuseNonemptyBag => False

/-- The search goes on after a pass. -/
def GoesOn (step : Pass) : Prop :=
  match step with
  | .required step => ∃ places, storage.found request proto step = .ok places
  | .optional _ => True
  | .refuseNonemptyBag => False

end Places

variable {storage : Storage} {request : StoreRequest} {proto : ItemTemplate} {pos : Nat}

/-! ## The positions of a search -/

theorem fills_of_mem_reached {steps : List Pass}
    (member : pos ∈ storage.reached request proto steps) :
    ∃ step ∈ steps, storage.Fills request proto step pos := by
  induction steps with
  | nil => exact absurd member List.not_mem_nil
  | cons step later induction =>
      have inLater (isLater : pos ∈ storage.reached request proto later) :
          ∃ other ∈ step :: later, storage.Fills request proto other pos := by
        obtain ⟨other, otherLater, fills⟩ := induction isLater
        exact ⟨other, List.mem_cons_of_mem step otherLater, fills⟩
      cases step with
      | required walk =>
          unfold reached at member
          cases given : storage.found request proto walk with
          | error =>
              rw [given] at member
              exact absurd member List.not_mem_nil
          | ok places =>
              rw [given] at member
              rcases List.mem_append.mp member with here | isLater
              · exact ⟨_, List.mem_cons_self, places, given, here⟩
              · exact inLater isLater
      | optional walk =>
          unfold reached at member
          cases given : storage.found request proto walk with
          | error =>
              rw [given] at member
              exact inLater member
          | ok places =>
              rw [given] at member
              rcases List.mem_append.mp member with here | isLater
              · exact ⟨_, List.mem_cons_self, places, given, here⟩
              · exact inLater isLater
      | refuseNonemptyBag => exact absurd member List.not_mem_nil

theorem mem_reached_of_fills {steps : List Pass}
    (goesOn : ∀ step ∈ steps, storage.GoesOn request proto step) {step : Pass}
    (member : step ∈ steps) (fills : storage.Fills request proto step pos) :
    pos ∈ storage.reached request proto steps := by
  induction steps with
  | nil => exact absurd member List.not_mem_nil
  | cons first later induction =>
      obtain ⟨firstGoesOn, laterGoOn⟩ := List.forall_mem_cons.mp goesOn
      have next := induction laterGoOn
      rcases List.mem_cons.mp member with rfl | isLater
      · cases step with
        | required walk =>
            obtain ⟨places, given, here⟩ := fills
            unfold reached
            rw [given]
            exact List.mem_append_left _ here
        | optional walk =>
            obtain ⟨places, given, here⟩ := fills
            unfold reached
            rw [given]
            exact List.mem_append_left _ here
        | refuseNonemptyBag => exact fills.elim
      · cases first with
        | required walk =>
            obtain ⟨places, given⟩ := firstGoesOn
            unfold reached
            rw [given]
            exact List.mem_append_right _ (next isLater)
        | optional walk =>
            unfold reached
            cases storage.found request proto walk with
            | error => exact next isLater
            | ok places => exact List.mem_append_right _ (next isLater)
        | refuseNonemptyBag => exact firstGoesOn.elim

section Cons

variable {walk : Walk} (later : List Pass)

theorem reached_required {places : List Nat}
    (given : storage.found request proto walk = .ok places) :
    storage.reached request proto (.required walk :: later) =
      places ++ storage.reached request proto later := by
  rw [reached, given]

theorem reached_optional {places : List Nat}
    (given : storage.found request proto walk = .ok places) :
    storage.reached request proto (.optional walk :: later) =
      places ++ storage.reached request proto later := by
  rw [reached, given]

theorem reached_optional_refused {result : InventoryResult}
    (given : storage.found request proto walk = .error result) :
    storage.reached request proto (.optional walk :: later) =
      storage.reached request proto later := by
  rw [reached, given]

end Cons

theorem reached_append {first : List Pass}
    (goesOn : ∀ step ∈ first, storage.GoesOn request proto step) (second : List Pass) :
    storage.reached request proto (first ++ second) =
      storage.reached request proto first ++ storage.reached request proto second := by
  induction first with
  | nil => rfl
  | cons step later induction =>
      obtain ⟨stepGoesOn, laterGoOn⟩ := List.forall_mem_cons.mp goesOn
      have next := induction laterGoOn
      rw [List.cons_append]
      cases step with
      | required walk =>
          obtain ⟨places, given⟩ := stepGoesOn
          rw [reached_required _ given, reached_required _ given, next, List.append_assoc]
      | optional walk =>
          cases given : storage.found request proto walk with
          | error =>
              rw [reached_optional_refused _ given, reached_optional_refused _ given]
              exact next
          | ok places =>
              rw [reached_optional _ given, reached_optional _ given, next, List.append_assoc]
      | refuseNonemptyBag => exact stepGoesOn.elim

/-! ## Refusals -/

theorem bagSlots_error {bag skipBag : Nat} {nonSpecialized : Bool} {result : InventoryResult}
    (given : storage.bagSlots request proto bag nonSpecialized skipBag = .error result) :
    result = .itemDoesntGoIntoBag ∨ result = .canOnlyDoWithEmptyBags := by
  unfold bagSlots at given
  by_cases skipped : bag = skipBag
  · rw [if_pos skipped] at given
    exact .inl (Except.error.inj given).symm
  rw [if_neg skipped] at given
  cases worn : storage.getBagByPos bag with
  | none =>
      rw [worn] at given
      exact .inl (Except.error.inj given).symm
  | some pair =>
      rw [worn] at given
      dsimp only at given
      revert given
      generalize itemCanGoIntoBag proto pair.2 = goesIn
      generalize pair.2.isPlainContainer = isPlain
      split_ifs <;> intro given <;> cases given
      exacts [.inl rfl, .inr rfl, .inl rfl, .inl rfl]

theorem canBeMergedPartlyWith_eq_ok_iff {item : Item} {entry : Nat} :
    storage.canBeMergedPartlyWith item entry proto = .ok ↔
      storage.lootGenerated item.guid = false ∧ item.entry = entry ∧
        item.count < proto.getMaxStackSize := by
  unfold canBeMergedPartlyWith
  split_ifs with isLooted differs isFull
  · simp [isLooted]
  · simp [differs]
  · simp [isFull]
  · simp [Bool.not_eq_true _ ▸ isLooted, not_not.mp differs, not_le.mp isFull]

theorem canBeMergedPartlyWith_ne_full (item : Item) (entry : Nat) :
    storage.canBeMergedPartlyWith item entry proto ≠ .inventoryFull := by
  unfold canBeMergedPartlyWith
  split_ifs <;> exact nofun

theorem specificSlotSpace_error {result : InventoryResult}
    (given : storage.specificSlotSpace request proto = .error result) :
    result ≠ .ok ∧ result ≠ .inventoryFull := by
  unfold specificSlotSpace at given
  by_cases isNotEmpty : request.isNotEmptyBag = true ∧ ¬ isBagPos request.bag request.slot = true
  · rw [if_pos isNotEmpty] at given
    cases given
    exact ⟨nofun, nofun⟩
  rw [if_neg isNotEmpty] at given
  cases inside : if request.swap = true then none
    else storage.occupant request.pItem request.bag request.slot with
  | none =>
      rw [inside] at given
      dsimp only at given
      split_ifs at given
      cases given
      exact ⟨nofun, nofun⟩
  | some item =>
      rw [inside] at given
      dsimp only at given
      split_ifs at given with merges
      cases given
      exact ⟨merges, canBeMergedPartlyWith_ne_full item request.entry⟩

/-- A walk is never refused for want of room. -/
theorem found_error {step : Walk} {result : InventoryResult}
    (given : storage.found request proto step = .error result) :
    result ≠ .ok ∧ result ≠ .inventoryFull := by
  have ofBag {bag skipBag : Nat} {nonSpecialized : Bool} {places : List Nat → List Nat}
      (mapped : (storage.bagSlots request proto bag nonSpecialized skipBag).map places =
        .error result) : result ≠ .ok ∧ result ≠ .inventoryFull := by
    cases slots : storage.bagSlots request proto bag nonSpecialized skipBag with
    | error other =>
        rw [slots] at mapped
        cases mapped
        rcases bagSlots_error slots with rfl | rfl
        · exact ⟨nofun, nofun⟩
        · exact ⟨nofun, nofun⟩
    | ok _ =>
        rw [slots] at mapped
        cases mapped
  cases step with
  | specificSlot =>
      unfold found at given
      dsimp only at given
      cases space : storage.specificSlotSpace request proto with
      | error other =>
          rw [space] at given
          cases given
          exact specificSlotSpace_error space
      | ok _ =>
          rw [space] at given
          cases given
  | specificBag merge =>
      unfold found at given
      dsimp only at given
      cases slots : storage.bagSlots request proto request.bag false NULL_BAG with
      | error _ =>
          rw [slots] at given
          exact ofBag given
      | ok _ =>
          rw [slots] at given
          cases given
  | bag bag merge nonSpecialized => exact ofBag given
  | inventorySlots slotBegin slotEnd merge =>
      unfold found at given
      dsimp only at given
      split_ifs at given
      cases given
      exact ⟨nofun, nofun⟩

theorem refusal_plan (tooMany : Nat) (steps : List Pass) (plan : Plan Nat) :
    (storage.refusal request proto tooMany steps plan).plan = plan := by
  fun_induction storage.refusal request proto tooMany steps plan with
  | case1 => rfl
  | case2 => rfl
  | case3 _ _ _ _ _ induction => exact induction
  | case4 _ _ _ induction => exact induction
  | case5 => rfl

theorem refusal_ne_ok (tooMany : Nat) (steps : List Pass) (plan : Plan Nat) :
    (storage.refusal request proto tooMany steps plan).result ≠ .ok := by
  fun_induction storage.refusal request proto tooMany steps plan with
  | case1 => exact nofun
  | case2 _ _ _ _ given => exact (found_error given).1
  | case3 _ _ _ _ _ induction => exact induction
  | case4 _ _ _ induction => exact induction
  | case5 => exact nofun

theorem refusal_full_iff (tooMany : Nat) (steps : List Pass) (plan : Plan Nat) :
    (storage.refusal request proto tooMany steps plan).result = .inventoryFull ↔
      ∀ step ∈ steps, storage.GoesOn request proto step := by
  fun_induction storage.refusal request proto tooMany steps plan with
  | case1 => exact iff_of_true rfl fun _ => False.elim ∘ List.not_mem_nil
  | case2 plan step later _ given =>
      refine iff_of_false (found_error given).2 fun goesOn => ?_
      obtain ⟨places, other⟩ := goesOn _ List.mem_cons_self
      rw [given] at other
      cases other
  | case3 plan step later places given induction =>
      rw [induction, List.forall_mem_cons]
      exact (and_iff_right ⟨places, given⟩).symm
  | case4 plan step later induction =>
      rw [induction, List.forall_mem_cons]
      exact (and_iff_right trivial).symm
  | case5 => exact iff_of_false nofun fun goesOn => goesOn _ List.mem_cons_self

/-- Apart from a bag which is not empty, an item is refused with what is left of it. -/
theorem refusal_noSpaceCount (tooMany : Nat) {steps : List Pass}
    (steps_mem : .refuseNonemptyBag ∉ steps) (plan : Plan Nat) :
    (storage.refusal request proto tooMany steps plan).noSpaceCount =
      some ((plan.left + tooMany) % 2 ^ 32) := by
  fun_induction storage.refusal request proto tooMany steps plan with
  | case1 => rfl
  | case2 => rfl
  | case3 _ _ _ _ _ induction => exact induction (List.not_mem_of_not_mem_cons steps_mem)
  | case4 _ _ _ induction => exact induction (List.not_mem_of_not_mem_cons steps_mem)
  | case5 => exact absurd List.mem_cons_self steps_mem

/-! ## What a pass fills -/

theorem isSome_needSpace_iff {merge : Bool} {bag slot : Nat} (isByte : slot < 256)
    (stays : ¬ isSwappedOut request (position bag slot)) :
    (storage.needSpace request proto merge bag slot).isSome =
      storage.offers request proto merge (position bag slot) := by
  unfold needSpace offers
  rw [vacated_position isByte stays]
  cases storage.occupant request.pItem bag slot with
  | none => cases merge <;> rfl
  | some item =>
      dsimp only
      split_ifs with merges
      · simp [merges]
      · symm
        simpa using merges

theorem mem_candidates {merge : Bool} {skips : Nat → Bool} {bag : Nat} {slots : List Nat}
    (bytes : ∀ slot ∈ slots, slot < 256)
    (stay : ∀ slot ∈ slots, ¬ skips slot → ¬ isSwappedOut request (position bag slot)) :
    pos ∈ storage.candidates request proto merge skips bag slots ↔
      ∃ slot ∈ slots, ¬ skips slot ∧ pos = position bag slot ∧
        storage.offers request proto merge pos = true := by
  unfold candidates
  rw [List.mem_map]
  constructor
  · rintro ⟨slot, member, rfl⟩
    obtain ⟨inSlots, isOffered⟩ := List.mem_filter.mp member
    rw [Bool.and_eq_true, Bool.not_eq_true'] at isOffered
    have notSkipped : ¬ skips slot = true := isOffered.1 ▸ Bool.false_ne_true
    refine ⟨slot, inSlots, notSkipped, rfl, ?_⟩
    rw [← isSome_needSpace_iff (bytes slot inSlots) (stay slot inSlots notSkipped)]
    exact isOffered.2
  · rintro ⟨slot, inSlots, notSkipped, rfl, isOffered⟩
    refine ⟨slot, List.mem_filter.mpr ⟨inSlots, ?_⟩, rfl⟩
    rw [isSome_needSpace_iff (bytes slot inSlots) (stay slot inSlots notSkipped), isOffered,
      Bool.and_true, Bool.not_eq_true', ← Bool.not_eq_true]
    exact notSkipped

/-- The slot that is named is not in a range of main slots which is walked over. -/
theorem stays_of_not_skipsMain (slotIsByte : request.slot < 256) {slot : Nat} (isByte : slot < 256)
    (notSkipped : ¬ skipsMain request.bag request.slot slot = true) :
    ¬ isSwappedOut request (position INVENTORY_SLOT_BAG_0 slot) := by
  refine stays_of_slot_ne slotIsByte isByte ?_
  by_contra! same
  apply notSkipped
  unfold skipsMain
  rw [same.1, same.2, decide_eq_true rfl, decide_eq_true rfl]
  rfl

theorem fills_inventorySlots (slotIsByte : request.slot < 256) {slotBegin slotEnd : Nat}
    {merge : Bool} (bytes : slotEnd ≤ 256) :
    storage.Fills request proto (.required (.inventorySlots slotBegin slotEnd merge)) pos ↔
      request.isNotEmptyBag = false ∧
        ∃ slot, slotBegin ≤ slot ∧ slot < slotEnd ∧
          ¬ skipsMain request.bag request.slot slot ∧ pos = position INVENTORY_SLOT_BAG_0 slot ∧
            storage.offers request proto merge pos = true := by
  have below : ∀ slot ∈ slotsFrom slotBegin slotEnd, slot < 256 := fun slot member =>
    (mem_slotsFrom.mp member).2.trans_le bytes
  have candidate := @mem_candidates storage request proto pos merge
    (skipsMain request.bag request.slot) INVENTORY_SLOT_BAG_0 (slotsFrom slotBegin slotEnd) below
    fun slot member notSkipped => stays_of_not_skipsMain slotIsByte (below slot member) notSkipped
  unfold Fills found
  dsimp only
  by_cases isNotEmpty : request.isNotEmptyBag = true
  · rw [if_pos isNotEmpty]
    exact iff_of_false (fun ⟨_, given, _⟩ => nomatch given)
      fun given => Bool.false_ne_true (given.1.symm.trans isNotEmpty)
  · rw [if_neg isNotEmpty, and_iff_right (Bool.not_eq_true _ ▸ isNotEmpty)]
    constructor
    · rintro ⟨places, given, member⟩
      obtain rfl := Except.ok.inj given
      obtain ⟨slot, inSlots, notSkipped, rest⟩ := candidate.mp member
      obtain ⟨atLeast, isBelow⟩ := mem_slotsFrom.mp inSlots
      exact ⟨slot, atLeast, isBelow, notSkipped, rest⟩
    · rintro ⟨slot, atLeast, isBelow, notSkipped, rest⟩
      exact ⟨_, rfl, candidate.mpr ⟨slot, mem_slotsFrom.mpr ⟨atLeast, isBelow⟩, notSkipped, rest⟩⟩

/-- A position of a bag which a walk over the bag fills. -/
def FillsInBag (storage : Storage) (request : StoreRequest) (proto : ItemTemplate)
    (bag : Nat) (merge nonSpecialized : Bool) (skipBag pos : Nat) : Prop :=
  bag ≠ skipBag ∧ request.isNotEmptyBag = false ∧
    ∃ pBag bagProto, storage.TakesItem request proto bag pBag bagProto ∧
      nonSpecialized = bagProto.isPlainContainer ∧
        ∃ slot, slot < bagProto.containerSlots ∧ slot ≠ request.slot ∧ pos = position bag slot ∧
          storage.offers request proto merge pos = true

theorem mem_bag_candidates (small : storage.SmallBags) (slotIsByte : request.slot < 256)
    {bag skipBag : Nat} {merge nonSpecialized : Bool} :
    (∃ slots, storage.bagSlots request proto bag nonSpecialized skipBag = .ok slots ∧
        pos ∈ storage.candidates request proto merge (· = request.slot) bag slots) ↔
      storage.FillsInBag request proto bag merge nonSpecialized skipBag pos := by
  have candidate {slots : List Nat}
      (given : storage.bagSlots request proto bag nonSpecialized skipBag = .ok slots) :=
    @mem_candidates storage request proto pos merge (· = request.slot) bag slots
      (bagSlots_bytes small given) fun slot member notSkipped =>
        stays_of_slot_ne slotIsByte (bagSlots_bytes small given slot member)
          (.inr fun same => notSkipped (decide_eq_true same))
  constructor
  · rintro ⟨slots, given, member⟩
    obtain ⟨slot, inSlots, notSkipped, rest⟩ := (candidate given).mp member
    obtain ⟨differs, isEmpty, pBag, bagProto, takes, isKind, rfl⟩ := bagSlots_eq_ok_iff.mp given
    exact ⟨differs, isEmpty, pBag, bagProto, takes, isKind, slot, (mem_slotsFrom.mp inSlots).2,
      fun same => notSkipped (decide_eq_true same), rest⟩
  · rintro ⟨differs, isEmpty, pBag, bagProto, takes, isKind, slot, isBelow, isOther, rest⟩
    have given := bagSlots_eq_ok_iff.mpr
      ⟨differs, isEmpty, pBag, bagProto, takes, isKind, rfl⟩
    exact ⟨_, given, (candidate given).mpr ⟨slot, mem_slotsFrom.mpr ⟨Nat.zero_le slot, isBelow⟩,
      fun same => isOther (of_decide_eq_true same), rest⟩⟩

theorem exists_map_ok {given : Except InventoryResult (List Nat)} {places : List Nat → List Nat} :
    (∃ filled, given.map places = .ok filled ∧ pos ∈ filled) ↔
      ∃ slots, given = .ok slots ∧ pos ∈ places slots := by
  cases given with
  | error =>
      exact iff_of_false (fun ⟨_, mapped, _⟩ => nomatch mapped) fun ⟨_, same, _⟩ => nomatch same
  | ok slots =>
      constructor
      · rintro ⟨filled, mapped, member⟩
        exact ⟨slots, rfl, Except.ok.inj mapped ▸ member⟩
      · rintro ⟨other, same, member⟩
        exact ⟨places slots, rfl, Except.ok.inj same ▸ member⟩

theorem fills_bag (small : storage.SmallBags) (slotIsByte : request.slot < 256) {bag : Nat}
    {merge nonSpecialized : Bool} :
    storage.Fills request proto (.optional (.bag bag merge nonSpecialized)) pos ↔
      storage.FillsInBag request proto bag merge nonSpecialized request.bag pos :=
  exists_map_ok.trans (mem_bag_candidates small slotIsByte)

theorem fills_specificBag (small : storage.SmallBags) (slotIsByte : request.slot < 256)
    {merge : Bool} (fills : storage.Fills request proto (.required (.specificBag merge)) pos) :
    ∃ nonSpecialized,
      storage.FillsInBag request proto request.bag merge nonSpecialized NULL_BAG pos := by
  obtain ⟨places, given, member⟩ := fills
  unfold found at given
  dsimp only at given
  cases special : storage.bagSlots request proto request.bag false NULL_BAG with
  | ok slots =>
      rw [special] at given
      obtain rfl := Except.ok.inj given
      exact ⟨false, (mem_bag_candidates small slotIsByte).mp ⟨slots, special, member⟩⟩
  | error =>
      rw [special] at given
      exact ⟨true, (mem_bag_candidates small slotIsByte).mp (exists_map_ok.mp ⟨_, given, member⟩)⟩

theorem fills_specificSlot :
    storage.Fills request proto (.required .specificSlot) pos ↔
      pos = position request.bag request.slot ∧
        ∃ space, storage.specificSlotSpace request proto = .ok space := by
  unfold Fills found
  dsimp only
  cases storage.specificSlotSpace request proto with
  | error =>
      exact iff_of_false (fun ⟨_, given, _⟩ => nomatch given) fun ⟨_, _, given⟩ => nomatch given
  | ok space =>
      constructor
      · rintro ⟨places, given, member⟩
        obtain rfl := Except.ok.inj given
        exact ⟨List.mem_singleton.mp member, space, rfl⟩
      · rintro ⟨rfl, _⟩
        exact ⟨_, rfl, List.mem_singleton_self _⟩

/-! ## Soundness of the passes -/

theorem offers_iff {merge : Bool} :
    storage.offers request proto merge pos = true ↔
      (storage.vacated request pos = none ∧ merge = false) ∨
        ∃ item, storage.vacated request pos = some item ∧ merge = true ∧
          storage.canBeMergedPartlyWith item request.entry proto = .ok := by
  unfold offers
  cases storage.vacated request pos with
  | none => simp
  | some item => simp

theorem suits_of_offers {merge : Bool} {bag slot : Nat} (isByte : slot < 256)
    (isOffered : storage.offers request proto merge (position bag slot) = true)
    (isAllowed : merge = false → storage.mayOccupy request proto bag slot = true) :
    storage.suits request proto (position bag slot) = true := by
  unfold suits
  rcases offers_iff.mp isOffered with ⟨empty, isEmptyWalk⟩ | ⟨item, inside, _, merges⟩
  · rw [empty, position_div isByte, position_mod isByte]
    exact isAllowed isEmptyWalk
  · rw [inside]
    exact decide_eq_true merges

theorem getBagByPos_main : storage.getBagByPos INVENTORY_SLOT_BAG_0 = none := by
  unfold getBagByPos
  exact if_neg (by decide)

theorem mayOccupy_main {slot : Nat}
    (fits : storage.fitsToSlot proto INVENTORY_SLOT_BAG_0 slot = true) :
    storage.mayOccupy request proto INVENTORY_SLOT_BAG_0 slot = true := by
  unfold mayOccupy
  rw [fits, getBagByPos_main]
  rfl

theorem fitsToSlot_main_iff {slot : Nat} :
    storage.fitsToSlot proto INVENTORY_SLOT_BAG_0 slot = true ↔
      (KEYRING_SLOT_START ≤ slot → slot < KEYRING_SLOT_END → proto.isKey = true) ∧
        (CURRENCYTOKEN_SLOT_START ≤ slot → slot < CURRENCYTOKEN_SLOT_END →
          proto.isCurrencyToken = true) ∧
        (slot < BUYBACK_SLOT_START ∨ BUYBACK_SLOT_END ≤ slot) ∧ slot < PLAYER_SLOT_END := by
  have ring : KEYRING_SLOT_START + getMaxKeyringSize = KEYRING_SLOT_END := rfl
  unfold fitsToSlot
  rw [if_pos rfl, ring]
  split_ifs with notKey notToken cheats
  · exact iff_of_false nofun fun fits => notKey.2.2 (fits.1 notKey.1 notKey.2.1)
  · exact iff_of_false nofun fun fits => notToken.2.2 (fits.2.1 notToken.1 notToken.2.1)
  · refine iff_of_false nofun fun fits => ?_
    have := fits.2.2
    omega
  · refine iff_of_true rfl ⟨?_, ?_, ?_, ?_⟩
    · exact fun atLeast below => by_contra fun isNoKey => notKey ⟨atLeast, below, isNoKey⟩
    · exact fun atLeast below => by_contra fun isNoToken => notToken ⟨atLeast, below, isNoToken⟩
    · omega
    · omega

section Ranges

variable {slot : Nat}

theorem fitsToSlot_keyring (isKey : proto.isKey = true) (atLeast : KEYRING_SLOT_START ≤ slot)
    (below : slot < KEYRING_SLOT_START + getMaxKeyringSize) :
    storage.fitsToSlot proto INVENTORY_SLOT_BAG_0 slot = true := by
  have bounds : 86 ≤ slot ∧ slot < 118 := ⟨atLeast, below⟩
  refine fitsToSlot_main_iff.mpr ⟨fun _ _ => isKey, fun isLater _ => ?_, .inr atLeast, ?_⟩
  · have : 118 ≤ slot := isLater
    omega
  · exact bounds.2.trans (by decide)

theorem fitsToSlot_currency (isToken : proto.isCurrencyToken = true)
    (atLeast : CURRENCYTOKEN_SLOT_START ≤ slot) (below : slot < CURRENCYTOKEN_SLOT_END) :
    storage.fitsToSlot proto INVENTORY_SLOT_BAG_0 slot = true := by
  have bounds : 118 ≤ slot ∧ slot < 150 := ⟨atLeast, below⟩
  refine fitsToSlot_main_iff.mpr ⟨fun _ isEarlier => ?_, fun _ _ => isToken, .inr ?_, below⟩
  · have : slot < 118 := isEarlier
    omega
  · exact le_trans (by decide) atLeast

theorem fitsToSlot_backpack (below : slot < INVENTORY_SLOT_ITEM_END) :
    storage.fitsToSlot proto INVENTORY_SLOT_BAG_0 slot = true := by
  have bound : slot < 39 := below
  refine fitsToSlot_main_iff.mpr ⟨fun isLater _ => ?_, fun isLater _ => ?_, .inl ?_, ?_⟩
  · have : 86 ≤ slot := isLater
    omega
  · have : 118 ≤ slot := isLater
    omega
  · exact below.trans (by decide)
  · exact below.trans (by decide)

end Ranges

theorem TakesItem.bag_ne_main {bag : Nat} {pBag : Item} {bagProto : ItemTemplate}
    (takes : storage.TakesItem request proto bag pBag bagProto) : bag ≠ INVENTORY_SLOT_BAG_0 := by
  rintro rfl
  have worn := takes.worn
  rw [getBagByPos_main] at worn
  cases worn

theorem TakesItem.mayOccupy {bag slot : Nat} {pBag : Item} {bagProto : ItemTemplate}
    (takes : storage.TakesItem request proto bag pBag bagProto)
    (below : slot < bagProto.containerSlots) :
    storage.mayOccupy request proto bag slot = true := by
  unfold Storage.mayOccupy fitsToSlot
  rw [if_neg takes.bag_ne_main, takes.worn]
  dsimp only
  rw [decide_eq_true below, takes.goesIn]
  simpa using takes.notItself

theorem FillsInBag.suits (small : storage.SmallBags) {bag skipBag : Nat}
    {merge nonSpecialized : Bool}
    (fills : storage.FillsInBag request proto bag merge nonSpecialized skipBag pos) :
    storage.suits request proto pos = true := by
  obtain ⟨_, _, pBag, bagProto, takes, _, slot, below, _, rfl, isOffered⟩ := fills
  have atMost := small bag pBag bagProto takes.worn
  unfold MAX_BAG_SIZE at atMost
  exact suits_of_offers (by omega) isOffered fun _ => takes.mayOccupy below

/-- The bag that is named is the item itself. -/
def namesItself (storage : Storage) (request : StoreRequest) : Bool :=
  (storage.getBagByPos request.bag).any fun pair => request.sourceGuid = some pair.1.guid

/-- The item would be put into itself. -/
def FillsItself (storage : Storage) (request : StoreRequest) (pos : Nat) : Prop :=
  request.namesSlot = true ∧ pos = position request.bag request.slot ∧
    storage.namesItself request = true ∧ storage.vacated request pos = none

/-- A key which is no currency is put into a slot for currency. -/
def FillsCurrency (storage : Storage) (request : StoreRequest) (proto : ItemTemplate) (pos : Nat) :
    Prop :=
  request.bag = INVENTORY_SLOT_BAG_0 ∧ proto.isKey = true ∧ ¬ proto.isCurrencyToken = true ∧
    storage.Fills request proto currencyPass pos

theorem suits_of_fills_specificSlot (slotIsByte : request.slot < 256)
    (isNamed : request.namesSlot = true)
    (fills : storage.Fills request proto (.required .specificSlot) pos) :
    storage.suits request proto pos = true ∨ storage.FillsItself request pos := by
  obtain ⟨rfl, space, given⟩ := fills_specificSlot.mp fills
  have accepted := ((specificSlotSpace_eq_ok_iff slotIsByte isNamed).mp given).2.2
  unfold suits
  cases inside : storage.vacated request (position request.bag request.slot) with
  | none =>
      rw [inside] at accepted
      dsimp only at accepted ⊢
      rw [position_div slotIsByte, position_mod slotIsByte]
      by_cases isItself : storage.namesItself request = true
      · exact .inr ⟨isNamed, rfl, isItself, inside⟩
      · refine .inl ?_
        unfold mayOccupy
        rw [accepted, Bool.true_and]
        unfold namesItself at isItself
        cases worn : storage.getBagByPos request.bag with
        | none => rfl
        | some pair =>
            rw [worn] at isItself
            simpa using isItself
  | some item =>
      rw [inside] at accepted
      exact .inl (decide_eq_true accepted)

/-- Every position of a search suits the item, or the item is misplaced in it. -/
theorem suits_of_fills (small : storage.SmallBags) (slotIsByte : request.slot < 256) {step : Pass}
    (member : step ∈ passes request proto) (fills : storage.Fills request proto step pos) :
    storage.suits request proto pos = true ∨ storage.FillsItself request pos ∨
      storage.FillsCurrency request proto pos := by
  revert fills
  revert member
  revert step
  have main {slotBegin slotEnd : Nat} {merge : Bool} (bytes : slotEnd ≤ 256)
      (fits : ∀ slot, slotBegin ≤ slot → slot < slotEnd → merge = false →
        storage.fitsToSlot proto INVENTORY_SLOT_BAG_0 slot = true)
      (fills : storage.Fills request proto
        (.required (.inventorySlots slotBegin slotEnd merge)) pos) :
      storage.suits request proto pos = true := by
    obtain ⟨_, slot, atLeast, below, _, rfl, isOffered⟩ :=
      (fills_inventorySlots slotIsByte bytes).mp fills
    exact suits_of_offers (below.trans_le bytes) isOffered
      fun isEmptyWalk => mayOccupy_main (fits slot atLeast below isEmptyWalk)
  have merges : ∀ step ∈ mergePasses, storage.Fills request proto step pos →
      storage.suits request proto pos = true := by
    apply forall_mergePasses
    rintro slotBegin slotEnd (⟨_, rfl⟩ | ⟨_, rfl⟩)
    · exact main (by decide) nofun
    · exact main (by decide) nofun
  have keyring (isKey : proto.isKey = true) : storage.Fills request proto keyringPass pos →
      storage.suits request proto pos = true :=
    main (by decide) fun slot atLeast below _ => fitsToSlot_keyring isKey atLeast below
  have currency (isToken : proto.isCurrencyToken = true) :
      storage.Fills request proto currencyPass pos → storage.suits request proto pos = true :=
    main (by decide) fun slot atLeast below _ => fitsToSlot_currency isToken atLeast below
  have backpack : storage.Fills request proto backpackPass pos →
      storage.suits request proto pos = true :=
    main (by decide) fun slot _ below _ => fitsToSlot_backpack below
  refine forall_passes ?_ ?_ ?_ ?_
  · exact fun isNamed fills => (suits_of_fills_specificSlot slotIsByte isNamed fills).imp_right .inl
  · refine fun isMain =>
      forall_mainPasses (fun _ step member fills => .inl (merges step member fills))
      (fun isKey fills => .inl (keyring isKey fills)) ?_ fun fills => .inl (backpack fills)
    intro either fills
    by_cases isToken : proto.isCurrencyToken = true
    · exact .inl (currency isToken fills)
    · exact .inr (.inr ⟨isMain, either.resolve_right isToken, isToken, fills⟩)
  · intro merge fills
    obtain ⟨_, inBag⟩ := fills_specificBag small slotIsByte fills
    exact .inl (inBag.suits small)
  · refine forall_generalPasses (fun _ step member fills => .inl (merges step member fills))
      (fun isKey fills => .inl (keyring isKey fills))
      (fun _ isToken fills => .inl (currency isToken fills)) (fun fills => .inl (backpack fills))
      ?_ fun _ => False.elim
    exact fun bag merge nonSpecialized _ _ fills =>
      .inl (((fills_bag small slotIsByte).mp fills).suits small)

/-! ## Completeness of the passes -/

theorem hasFamily_bagFamily {mask : Nat} (has : proto.hasFamily mask = true) :
    proto.bagFamily ≠ 0 := by
  intro none
  unfold ItemTemplate.hasFamily at has
  rw [none, Nat.zero_and] at has
  exact of_decide_eq_true has rfl

theorem bagFamily_ne_zero {bagProto : ItemTemplate}
    (goesIn : itemCanGoIntoBag proto bagProto = true)
    (isSpecial : bagProto.isPlainContainer = false) : proto.bagFamily ≠ 0 := by
  have ofFamily {family : Option Nat} (has : family.any proto.hasFamily = true) :
      proto.bagFamily ≠ 0 := by
    cases family with
    | none => exact absurd has Bool.false_ne_true
    | some mask => exact hasFamily_bagFamily has
  unfold itemCanGoIntoBag at goesIn
  unfold ItemTemplate.isPlainContainer at isSpecial
  split_ifs at goesIn with isContainer isQuiver
  · rw [isContainer, decide_eq_true rfl, Bool.true_and] at isSpecial
    rw [isSpecial, Bool.false_or] at goesIn
    exact ofFamily goesIn
  · exact ofFamily goesIn

section Membership

theorem mergePasses_subset (isStack : proto.stackable ≠ 1) :
    ∀ step ∈ mergePasses, step ∈ generalPasses request proto := by
  intro step member
  unfold generalPasses generalMergePasses
  rw [if_pos isStack]
  simp [member]

theorem keyringPass_mem (isKey : proto.isKey = true) :
    keyringPass ∈ generalPasses request proto := by
  unfold generalPasses generalFamilyPasses
  rw [if_pos (hasFamily_bagFamily isKey), if_pos isKey]
  simp

theorem currencyPass_mem (isNoKey : ¬ proto.isKey = true) (isToken : proto.isCurrencyToken = true) :
    currencyPass ∈ generalPasses request proto := by
  unfold generalPasses generalFamilyPasses
  rw [if_pos (hasFamily_bagFamily isToken), if_neg isNoKey, if_pos isToken]
  simp

theorem backpackPass_mem : backpackPass ∈ generalPasses request proto := by
  unfold generalPasses
  simp

theorem refuseNonemptyBag_mem (isNotEmpty : request.isNotEmptyBag = true) :
    .refuseNonemptyBag ∈ generalPasses request proto := by
  unfold generalPasses
  rw [if_pos isNotEmpty]
  simp

theorem bagPass_mem {bag : Nat} {merge nonSpecialized : Bool}
    (atLeast : INVENTORY_SLOT_BAG_START ≤ bag) (below : bag < INVENTORY_SLOT_BAG_END)
    (isStack : merge = true → proto.stackable ≠ 1)
    (hasFamily : nonSpecialized = false → proto.bagFamily ≠ 0) :
    .optional (.bag bag merge nonSpecialized) ∈ generalPasses request proto := by
  have isBag : Pass.optional (.bag bag merge nonSpecialized) ∈ bagPasses merge nonSpecialized :=
    List.mem_map.mpr ⟨bag, mem_slotsFrom.mpr ⟨atLeast, below⟩, rfl⟩
  unfold generalPasses generalMergePasses generalFamilyPasses
  cases merge with
  | true =>
      rw [if_pos (isStack rfl)]
      cases nonSpecialized with
      | true => simp [isBag]
      | false =>
          rw [if_pos (hasFamily rfl)]
          simp [isBag]
  | false =>
      cases nonSpecialized with
      | true => simp [isBag]
      | false => simp [isBag, hasFamily rfl]

end Membership

theorem goesOn_inventorySlots (isEmpty : request.isNotEmptyBag = false)
    (slotBegin slotEnd : Nat) (merge : Bool) :
    storage.GoesOn request proto (.required (.inventorySlots slotBegin slotEnd merge)) :=
  ⟨_, if_neg (isEmpty ▸ Bool.false_ne_true)⟩

theorem goesOn_generalPasses (isEmpty : request.isNotEmptyBag = false) :
    ∀ step ∈ generalPasses request proto, storage.GoesOn request proto step := by
  have main := @goesOn_inventorySlots storage request proto isEmpty
  refine forall_generalPasses (fun _ => forall_mergePasses fun _ _ _ => main _ _ _)
    (fun _ => main _ _ _) (fun _ _ => main _ _ _) (main _ _ _) (fun _ _ _ _ _ => trivial) ?_
  exact fun isNotEmpty => Bool.false_ne_true (isEmpty.symm.trans isNotEmpty)

theorem mem_storagePositions :
    pos ∈ storage.storagePositions request proto ↔
      (∃ slot, (INVENTORY_SLOT_ITEM_START ≤ slot ∧ slot < INVENTORY_SLOT_ITEM_END ∨
          KEYRING_SLOT_START ≤ slot ∧ slot < CURRENCYTOKEN_SLOT_END) ∧
          pos = position INVENTORY_SLOT_BAG_0 slot) ∨
        ∃ bag pBag bagProto slot, (INVENTORY_SLOT_BAG_START ≤ bag ∧ bag < INVENTORY_SLOT_BAG_END) ∧
          storage.TakesItem request proto bag pBag bagProto ∧ slot < bagProto.containerSlots ∧
            pos = position bag slot := by
  have inBag (bag : Nat) : pos ∈ storage.bagPositions request proto bag ↔
      ∃ pBag bagProto slot, storage.TakesItem request proto bag pBag bagProto ∧
        slot < bagProto.containerSlots ∧ pos = position bag slot := by
    unfold bagPositions
    constructor
    · intro member
      cases worn : storage.getBagByPos bag with
      | none =>
          rw [worn] at member
          exact absurd member List.not_mem_nil
      | some pair =>
          rw [worn] at member
          dsimp only at member
          split_ifs at member with refused
          · exact absurd member List.not_mem_nil
          · rw [not_or, not_not] at refused
            obtain ⟨slot, inSlots, rfl⟩ := List.mem_map.mp member
            exact ⟨pair.1, pair.2, slot, ⟨worn, refused.1, refused.2⟩,
              (mem_slotsFrom.mp inSlots).2, rfl⟩
    · rintro ⟨pBag, bagProto, slot, takes, below, rfl⟩
      rw [takes.worn]
      dsimp only
      rw [if_neg (not_or.mpr ⟨takes.notItself, not_not.mpr takes.goesIn⟩)]
      exact List.mem_map_of_mem (mem_slotsFrom.mpr ⟨Nat.zero_le slot, below⟩)
  unfold storagePositions
  rw [List.mem_append, List.mem_map, List.mem_flatMap]
  apply or_congr
  · constructor
    · rintro ⟨slot, member, rfl⟩
      rcases List.mem_append.mp member with first | second
      · exact ⟨slot, .inl (mem_slotsFrom.mp first), rfl⟩
      · exact ⟨slot, .inr (mem_slotsFrom.mp second), rfl⟩
    · rintro ⟨slot, inRange, rfl⟩
      refine ⟨slot, List.mem_append.mpr ?_, rfl⟩
      exact inRange.imp mem_slotsFrom.mpr mem_slotsFrom.mpr
  · constructor
    · rintro ⟨bag, inRange, member⟩
      obtain ⟨pBag, bagProto, slot, rest⟩ := (inBag bag).mp member
      exact ⟨bag, pBag, bagProto, slot, mem_slotsFrom.mp inRange, rest⟩
    · rintro ⟨bag, pBag, bagProto, slot, inRange, rest⟩
      exact ⟨bag, mem_slotsFrom.mpr inRange, (inBag bag).mpr ⟨pBag, bagProto, slot, rest⟩⟩

theorem itemIn_of_getItemByPos {bag slot : Nat} {item : Item}
    (inside : storage.getItemByPos bag slot = some item) : storage.itemIn bag slot = some item := by
  unfold getItemByPos at inside
  split_ifs at inside with isMain
  · exact inside
  · cases worn : storage.getBagByPos bag with
    | none =>
        rw [worn] at inside
        cases inside
    | some pair =>
        rw [worn] at inside
        dsimp only at inside
        split_ifs at inside
        exact inside

theorem getItemByPos_of_occupant {source : Option SourceItem} {bag slot : Nat} {item : Item}
    (inside : storage.occupant source bag slot = some item) :
    storage.getItemByPos bag slot = some item ∧
      (source.map fun source => source.item.guid) ≠ some item.guid := by
  obtain ⟨found, isOther⟩ := Option.filter_eq_some_iff.mp inside
  exact ⟨found, of_decide_eq_true isOther⟩

theorem occupant_of_vacated {item : Item} (inside : storage.vacated request pos = some item) :
    ¬ isSwappedOut request pos = true ∧
      storage.occupant request.pItem (pos / 256) (pos % 256) = some item := by
  unfold vacated at inside
  split_ifs at inside with isOut
  exact ⟨isOut, inside⟩

theorem position_decode (pos : Nat) : position (pos / 256) (pos % 256) = pos := by
  unfold position
  omega

theorem mem_inventory_of_vacated {item : Item}
    (inside : storage.vacated request pos = some item) :
    ∃ slot, storage.inventory.getItemByPos storage.owner pos = some slot ∧ slot.item = item := by
  have found := itemIn_of_getItemByPos
    (getItemByPos_of_occupant (occupant_of_vacated inside).2).1
  unfold itemIn at found
  rw [position_decode] at found
  exact Option.map_eq_some_iff.mp found

/-- A stack with room is no single item. -/
theorem stackable_ne_one (counts : ∀ slot ∈ storage.inventory, 0 < slot.item.count) {item : Item}
    (inside : storage.vacated request pos = some item)
    (merges : storage.canBeMergedPartlyWith item request.entry proto = .ok) :
    proto.stackable ≠ 1 := by
  have isPositive : 0 < item.count := by
    obtain ⟨slot, found, rfl⟩ := mem_inventory_of_vacated inside
    exact counts slot (Table.mem_of_find found)
  have hasRoom := (canBeMergedPartlyWith_eq_ok_iff.mp merges).2.2
  intro isOne
  unfold ItemTemplate.getMaxStackSize at hasRoom
  rw [isOne, if_neg (by decide)] at hasRoom
  have : item.count < 1 := hasRoom
  omega

theorem isMissed_iff :
    storage.isMissed request proto pos = true ↔
      proto.isKey = true ∧ proto.isCurrencyToken = true ∧ storage.vacated request pos = none ∧
        position INVENTORY_SLOT_BAG_0 CURRENCYTOKEN_SLOT_START ≤ pos ∧
          pos < position INVENTORY_SLOT_BAG_0 CURRENCYTOKEN_SLOT_END := by
  unfold isMissed
  simp only [Bool.and_eq_true, decide_eq_true_eq, Option.isNone_iff_eq_none, and_assoc]

theorem vacated_of_offers_empty (isOffered : storage.offers request proto false pos = true) :
    storage.vacated request pos = none := by
  rcases offers_iff.mp isOffered with ⟨empty, _⟩ | ⟨_, _, isMerge, _⟩
  · exact empty
  · cases isMerge

theorem vacated_of_offers_merge (isOffered : storage.offers request proto true pos = true) :
    storage.vacated request pos ≠ none := by
  rcases offers_iff.mp isOffered with ⟨_, isMerge⟩ | ⟨item, inside, _⟩
  · cases isMerge
  · rw [inside]
    exact nofun

section Anywhere

variable (small : storage.SmallBags) (anyBag : request.bag = NULL_BAG)
  (anySlot : request.slot = NULL_SLOT)

include small anyBag anySlot

omit anyBag in
/-- A search for any bag and slot stays in the storage, and misses currency slots of keys. -/
theorem storagePositions_of_fills {step : Pass} (member : step ∈ generalPasses request proto)
    (fills : storage.Fills request proto step pos) :
    pos ∈ storage.storagePositions request proto ∧ ¬ storage.isMissed request proto pos = true := by
  revert fills
  revert member
  revert step
  have slotIsByte : request.slot < 256 := anySlot ▸ by decide
  have main {slotBegin slotEnd : Nat} {merge : Bool} (bytes : slotEnd ≤ 256)
      (fills : storage.Fills request proto
        (.required (.inventorySlots slotBegin slotEnd merge)) pos) :
      ∃ slot, slotBegin ≤ slot ∧ slot < slotEnd ∧ pos = position INVENTORY_SLOT_BAG_0 slot ∧
        storage.offers request proto merge pos = true := by
    obtain ⟨_, slot, atLeast, below, _, isPos, isOffered⟩ :=
      (fills_inventorySlots slotIsByte bytes).mp fills
    exact ⟨slot, atLeast, below, isPos, isOffered⟩
  have notMissed (notEmpty : storage.vacated request pos ≠ none) :
      ¬ storage.isMissed request proto pos = true :=
    fun isMissed => notEmpty (isMissed_iff.mp isMissed).2.2.1
  refine forall_generalPasses (fun _ => forall_mergePasses ?merges) (fun _ => ?keyring) ?currency
    ?backpack ?bags fun _ => False.elim
  case merges =>
    rintro slotBegin slotEnd (⟨rfl, rfl⟩ | ⟨rfl, rfl⟩) fills
    · obtain ⟨slot, atLeast, below, isPos, isOffered⟩ := main (by decide) fills
      exact ⟨mem_storagePositions.mpr (.inl ⟨slot, .inr ⟨atLeast, below⟩, isPos⟩),
        notMissed (vacated_of_offers_merge isOffered)⟩
    · obtain ⟨slot, atLeast, below, isPos, isOffered⟩ := main (by decide) fills
      exact ⟨mem_storagePositions.mpr (.inl ⟨slot, .inl ⟨atLeast, below⟩, isPos⟩),
        notMissed (vacated_of_offers_merge isOffered)⟩
  case keyring =>
    intro fills
    obtain ⟨slot, atLeast, below, rfl, isOffered⟩ := main (by decide) fills
    refine ⟨mem_storagePositions.mpr
      (.inl ⟨slot, .inr ⟨atLeast, below.trans (by decide)⟩, rfl⟩), ?_⟩
    intro isMissed
    have later := (isMissed_iff.mp isMissed).2.2.2.1
    have early : slot < 118 := below
    unfold position CURRENCYTOKEN_SLOT_START at later
    omega
  case currency =>
    intro isNoKey _ fills
    obtain ⟨slot, atLeast, below, isPos, isOffered⟩ := main (by decide) fills
    exact ⟨mem_storagePositions.mpr
      (.inl ⟨slot, .inr ⟨le_trans (by decide) atLeast, below⟩, isPos⟩),
      fun isMissed => isNoKey (isMissed_iff.mp isMissed).1⟩
  case backpack =>
    intro fills
    obtain ⟨slot, atLeast, below, rfl, isOffered⟩ := main (by decide) fills
    refine ⟨mem_storagePositions.mpr (.inl ⟨slot, .inl ⟨atLeast, below⟩, rfl⟩), ?_⟩
    intro isMissed
    have later := (isMissed_iff.mp isMissed).2.2.2.1
    have early : slot < 39 := below
    unfold position CURRENCYTOKEN_SLOT_START at later
    omega
  case bags =>
    intro bag merge nonSpecialized atLeast below fills
    obtain ⟨_, _, pBag, bagProto, takes, _, slot, inBag, _, rfl, _⟩ :=
      (fills_bag small slotIsByte).mp fills
    refine ⟨mem_storagePositions.mpr
      (.inr ⟨bag, pBag, bagProto, slot, ⟨atLeast, below⟩, takes, inBag, rfl⟩), ?_⟩
    intro isMissed
    have later := (isMissed_iff.mp isMissed).2.2.2.1
    have atMost := small bag pBag bagProto takes.worn
    have early : bag < 23 := below
    unfold position INVENTORY_SLOT_BAG_0 at later
    unfold MAX_BAG_SIZE at atMost
    omega

/-- A search for any bag and slot fills what suits. -/
theorem exists_fills (counts : ∀ slot ∈ storage.inventory, 0 < slot.item.count)
    (isEmpty : request.isNotEmptyBag = false)
    (member : pos ∈ storage.storagePositions request proto)
    (isSuited : storage.suits request proto pos = true)
    (notMissed : ¬ storage.isMissed request proto pos = true) :
    ∃ step ∈ generalPasses request proto, storage.Fills request proto step pos := by
  have slotIsByte : request.slot < 256 := anySlot ▸ by decide
  have isStack {item : Item} (inside : storage.vacated request pos = some item) :
      storage.offers request proto true pos = true ∧ proto.stackable ≠ 1 := by
    unfold suits at isSuited
    rw [inside] at isSuited
    have merges := of_decide_eq_true isSuited
    exact ⟨offers_iff.mpr (.inr ⟨item, inside, rfl, merges⟩), stackable_ne_one counts inside merges⟩
  have isFree (empty : storage.vacated request pos = none) :
      storage.offers request proto false pos = true :=
    offers_iff.mpr (.inl ⟨empty, rfl⟩)
  have main {slotBegin slotEnd slot : Nat} {merge : Bool} (bytes : slotEnd ≤ 256)
      (isPos : pos = position INVENTORY_SLOT_BAG_0 slot) (atLeast : slotBegin ≤ slot)
      (below : slot < slotEnd) (isOffered : storage.offers request proto merge pos = true) :
      storage.Fills request proto (.required (.inventorySlots slotBegin slotEnd merge)) pos := by
    refine (fills_inventorySlots slotIsByte bytes).mpr
      ⟨isEmpty, slot, atLeast, below, ?_, isPos, isOffered⟩
    unfold skipsMain
    rw [anyBag]
    exact Bool.false_ne_true
  rcases mem_storagePositions.mp member with
    ⟨slot, inRange, isPos⟩ | ⟨bag, pBag, bagProto, slot, ⟨atLeast, below⟩, takes, inBag, isPos⟩
  · cases inside : storage.vacated request pos with
    | some item =>
        obtain ⟨isOffered, isStack⟩ := isStack inside
        rcases inRange with ⟨atLeast, below⟩ | ⟨atLeast, below⟩
        · exact ⟨_, mergePasses_subset isStack _
            (List.mem_cons_of_mem _ (List.mem_singleton_self _)),
            main (by decide) isPos atLeast below isOffered⟩
        · exact ⟨_, mergePasses_subset isStack _ List.mem_cons_self,
            main (by decide) isPos atLeast below isOffered⟩
    | none =>
        have isOffered := isFree inside
        rcases inRange with ⟨atLeast, below⟩ | ⟨atLeast, below⟩
        · exact ⟨_, backpackPass_mem, main (by decide) isPos atLeast below isOffered⟩
        have isByte : slot < 256 := below.trans (by decide)
        have fits : storage.fitsToSlot proto INVENTORY_SLOT_BAG_0 slot = true := by
          unfold suits at isSuited
          rw [inside, isPos, position_div isByte, position_mod isByte] at isSuited
          exact (Bool.and_eq_true _ _ ▸ isSuited).1
        obtain ⟨ofKeyring, ofCurrency, _⟩ := fitsToSlot_main_iff.mp fits
        by_cases early : slot < KEYRING_SLOT_END
        · exact ⟨_, keyringPass_mem (ofKeyring atLeast early),
            main (by decide) isPos atLeast early isOffered⟩
        · have later : CURRENCYTOKEN_SLOT_START ≤ slot := not_lt.mp early
          have isToken := ofCurrency later below
          have isNoKey : ¬ proto.isKey = true := by
            intro isKey
            refine notMissed (isMissed_iff.mpr ⟨isKey, isToken, inside, ?_, ?_⟩)
            · rw [isPos]
              exact Nat.add_le_add_left later _
            · rw [isPos]
              exact Nat.add_lt_add_left below _
          exact ⟨_, currencyPass_mem isNoKey isToken, main (by decide) isPos later below isOffered⟩
  · have atMost := small bag pBag bagProto takes.worn
    have inBagPass {merge : Bool} (isOffered : storage.offers request proto merge pos = true) :
        storage.Fills request proto (.optional (.bag bag merge bagProto.isPlainContainer)) pos := by
      refine (fills_bag small slotIsByte).mpr
        ⟨?_, isEmpty, pBag, bagProto, takes, rfl, slot, inBag, ?_, isPos, isOffered⟩
      · rw [anyBag]
        exact (lt_of_lt_of_le (by decide) atLeast).ne'
      · rw [anySlot]
        exact (inBag.trans_le (atMost.trans (by decide))).ne
    have hasFamily := bagFamily_ne_zero takes.goesIn
    cases inside : storage.vacated request pos with
    | some item =>
        obtain ⟨isOffered, isStack⟩ := isStack inside
        exact ⟨_, bagPass_mem atLeast below (fun _ => isStack) hasFamily, inBagPass isOffered⟩
    | none =>
        exact ⟨.optional (.bag bag false bagProto.isPlainContainer),
          bagPass_mem atLeast below nofun hasFamily, inBagPass (isFree inside)⟩

theorem mem_reached_generalPasses (counts : ∀ slot ∈ storage.inventory, 0 < slot.item.count)
    (isEmpty : request.isNotEmptyBag = false) :
    pos ∈ storage.reached request proto (generalPasses request proto) ↔
      pos ∈ storage.storagePositions request proto ∧
        storage.suits request proto pos = true ∧
          ¬ storage.isMissed request proto pos = true := by
  have slotIsByte : request.slot < 256 := anySlot ▸ by decide
  constructor
  · intro member
    obtain ⟨step, inGeneral, fills⟩ := fills_of_mem_reached member
    obtain ⟨inStorage, notMissed⟩ := storagePositions_of_fills small anySlot inGeneral fills
    refine ⟨inStorage, ?_, notMissed⟩
    have inPasses : step ∈ passes request proto := List.mem_append_right _ inGeneral
    rcases suits_of_fills small slotIsByte inPasses fills with isSuited | isItself | isCurrency
    · exact isSuited
    · have isNamed := isItself.1
      unfold StoreRequest.namesSlot at isNamed
      rw [anyBag] at isNamed
      exact absurd isNamed Bool.false_ne_true
    · have isMain := isCurrency.1
      rw [anyBag] at isMain
      exact absurd isMain (by decide)
  · rintro ⟨inStorage, isSuited, notMissed⟩
    obtain ⟨step, inGeneral, fills⟩ :=
      exists_fills small anyBag anySlot counts isEmpty inStorage isSuited notMissed
    exact mem_reached_of_fills (goesOn_generalPasses isEmpty) inGeneral fills

/-- The room of a search for any bag and slot. -/
theorem roomBeside_generalPasses (counts : ∀ slot ∈ storage.inventory, 0 < slot.item.count)
    (isEmpty : request.isNotEmptyBag = false) :
    roomBeside (storage.roomAt request proto) []
        (storage.reached request proto (generalPasses request proto)) =
      storage.openRoom request proto := by
  unfold openRoom
  rw [roomBeside_eq_sum, List.toFinset_nil, Finset.sdiff_empty]
  congr 1
  ext pos
  rw [List.mem_toFinset, List.mem_toFinset, List.mem_filter,
    mem_reached_generalPasses small anyBag anySlot counts isEmpty, Bool.and_eq_true,
    Bool.not_eq_true', Bool.not_eq_true]

end Anywhere

theorem openRoom_le_freeRoom : storage.openRoom request proto ≤ storage.freeRoom request proto := by
  apply Finset.sum_le_sum_of_subset
  intro pos member
  rw [List.mem_toFinset, List.mem_filter, Bool.and_eq_true] at member
  rw [List.mem_toFinset, List.mem_filter]
  exact ⟨member.1, member.2.1⟩

end Storage

end RealmServer.Players
