import RealmServer.Players.StorePlanner

/-!
# What a search for slots fills

The room of a position depends on what is in it when the plan is carried out.
Every walk fills the positions which it finds, so a search fills the positions
of its walks up to the first refusal that counts.
-/

namespace RealmServer.Players

open GreedyFill

theorem mem_slotsFrom {first last slot : Nat} :
    slot ∈ slotsFrom first last ↔ first ≤ slot ∧ slot < last := by
  unfold slotsFrom
  rw [List.mem_map]
  constructor
  · rintro ⟨offset, member, rfl⟩
    have below := List.mem_range.mp member
    omega
  · rintro ⟨atLeast, below⟩
    exact ⟨slot - first, List.mem_range.mpr (by omega), by omega⟩

theorem position_div {bag slot : Nat} (isByte : slot < 256) : position bag slot / 256 = bag := by
  unfold position
  omega

theorem position_mod {bag slot : Nat} (isByte : slot < 256) : position bag slot % 256 = slot := by
  unfold position
  omega

theorem position_inj {bag slot otherBag otherSlot : Nat} (isByte : slot < 256)
    (otherIsByte : otherSlot < 256) :
    position bag slot = position otherBag otherSlot ↔ bag = otherBag ∧ slot = otherSlot := by
  unfold position
  constructor <;> omega

namespace Storage

section Rooms

variable (storage : Storage) (request : StoreRequest) (proto : ItemTemplate)

/-- The slot that is named; an item is taken out of it which is swapped. -/
def isSwappedOut (pos : Nat) : Bool :=
  request.swap && request.namesSlot && pos = position request.bag request.slot

/-- What is in a position when the item is stored. -/
def vacated (pos : Nat) : Option Item :=
  if isSwappedOut request pos then none
  else storage.occupant request.pItem (pos / 256) (pos % 256)

def roomAt (pos : Nat) : Nat :=
  match storage.vacated request pos with
  | none => proto.getMaxStackSize
  | some item => proto.getMaxStackSize - item.count

/-- The positions into which a loop over slots plans. -/
def candidates (merge : Bool) (skips : Nat → Bool) (bag : Nat) (slots : List Nat) : List Nat :=
  (slots.filter fun slot =>
    !skips slot && (storage.needSpace request proto merge bag slot).isSome).map (position bag)

/-- The positions which a walk fills, or its refusal. -/
def found : Walk → Except InventoryResult (List Nat)
  | .specificSlot =>
      (storage.specificSlotSpace request proto).map fun _ => [position request.bag request.slot]
  | .specificBag merge =>
      match storage.bagSlots request proto request.bag false NULL_BAG with
      | .ok slots =>
          .ok (storage.candidates request proto merge (· = request.slot) request.bag slots)
      | .error _ =>
          (storage.bagSlots request proto request.bag true NULL_BAG).map
            (storage.candidates request proto merge (· = request.slot) request.bag)
  | .bag bag merge nonSpecialized =>
      (storage.bagSlots request proto bag nonSpecialized request.bag).map
        (storage.candidates request proto merge (· = request.slot) bag)
  | .inventorySlots slotBegin slotEnd merge =>
      if request.isNotEmptyBag then .error .canOnlyDoWithEmptyBags
      else
        .ok (storage.candidates request proto merge (skipsMain request.bag request.slot)
          INVENTORY_SLOT_BAG_0 (slotsFrom slotBegin slotEnd))

/-- The positions of all walks up to the first refusal that counts. -/
def reached : List Pass → List Nat
  | [] => []
  | .required step :: later =>
      match storage.found request proto step with
      | .error _ => []
      | .ok places => places ++ reached later
  | .optional step :: later =>
      match storage.found request proto step with
      | .error _ => reached later
      | .ok places => places ++ reached later
  | .refuseNonemptyBag :: _ => []

/-- The answer if something is left. -/
def refusal (noSimilarCount : Nat) : List Pass → Plan Nat → StoreAnswer
  | [], plan => refused noSimilarCount .inventoryFull plan
  | .required step :: later, plan =>
      match storage.found request proto step with
      | .error result => refused noSimilarCount result plan
      | .ok _ => refusal noSimilarCount later plan
  | .optional _ :: later, plan => refusal noSimilarCount later plan
  | .refuseNonemptyBag :: _, plan =>
      { result := .nonemptyBagOverOtherBag, plan, noSpaceCount := none }

end Rooms

variable {storage : Storage} {request : StoreRequest} {proto : ItemTemplate}

/-- The bags which are equipped have at most as many slots as a byte can name. -/
def SmallBags (storage : Storage) : Prop :=
  ∀ bag item bagProto, storage.getBagByPos bag = some (item, bagProto) →
    bagProto.containerSlots ≤ MAX_BAG_SIZE

/-! ## Walks -/

theorem vacated_position {bag slot : Nat} (isByte : slot < 256)
    (stays : ¬ isSwappedOut request (position bag slot)) :
    storage.vacated request (position bag slot) = storage.occupant request.pItem bag slot := by
  unfold vacated
  rw [if_neg stays, position_div isByte, position_mod isByte]

theorem roomAt_of_needSpace {merge : Bool} {bag slot space : Nat} (isByte : slot < 256)
    (stays : ¬ isSwappedOut request (position bag slot))
    (needs : storage.needSpace request proto merge bag slot = some space) :
    storage.roomAt request proto (position bag slot) = space := by
  unfold roomAt
  rw [vacated_position isByte stays]
  unfold needSpace at needs
  cases inside : storage.occupant request.pItem bag slot with
  | none =>
      rw [inside] at needs
      dsimp only at needs ⊢
      split_ifs at needs
      exact Option.some.inj needs
  | some item =>
      rw [inside] at needs
      dsimp only at needs ⊢
      split_ifs at needs
      exact Option.some.inj needs

omit proto in
theorem put_congr {room other : Nat → Nat} {place : Nat} (same : room place = other place)
    (plan : Plan Nat) : put room plan place = put other plan place := by
  unfold put
  rw [same]

theorem storeInSlots_eq_fill {merge : Bool} {skips : Nat → Bool} {bag : Nat} {slots : List Nat}
    (bytes : ∀ slot ∈ slots, slot < 256)
    (stay : ∀ slot ∈ slots, ¬ skips slot → ¬ isSwappedOut request (position bag slot))
    (plan : Plan Nat) :
    storage.storeInSlots request proto merge skips bag slots plan =
      fill (storage.roomAt request proto)
        (storage.candidates request proto merge skips bag slots) plan := by
  induction slots generalizing plan with
  | nil => rfl
  | cons slot later induction =>
      have next := induction (fun other member => bytes other (List.mem_cons_of_mem slot member))
        fun other member => stay other (List.mem_cons_of_mem slot member)
      unfold storeInSlots candidates
      by_cases isSkipped : skips slot = true
      · rw [if_pos isSkipped, List.filter_cons_of_neg (by simp [isSkipped])]
        exact next plan
      rw [if_neg isSkipped]
      cases needs : storage.needSpace request proto merge bag slot with
      | none =>
          rw [List.filter_cons_of_neg (by simp [needs])]
          exact next plan
      | some space =>
          have room := roomAt_of_needSpace (bytes slot List.mem_cons_self)
            (stay slot List.mem_cons_self isSkipped) needs
          have isPut : put (fun _ => space) plan (position bag slot) =
              put (storage.roomAt request proto) plan (position bag slot) :=
            put_congr room.symm plan
          rw [List.filter_cons_of_pos (by simp [isSkipped, needs]), List.map_cons]
          dsimp only
          unfold fill
          rw [isPut, next, next]
          rfl

/-- What a bag must be for its slots to be walked over. -/
structure TakesItem (storage : Storage) (request : StoreRequest) (proto : ItemTemplate) (bag : Nat)
    (pBag : Item) (bagProto : ItemTemplate) : Prop where
  worn : storage.getBagByPos bag = some (pBag, bagProto)
  notItself : request.sourceGuid ≠ some pBag.guid
  goesIn : itemCanGoIntoBag proto bagProto = true

theorem bagSlots_eq_ok_iff {bag skipBag : Nat} {nonSpecialized : Bool} {slots : List Nat} :
    storage.bagSlots request proto bag nonSpecialized skipBag = .ok slots ↔
      bag ≠ skipBag ∧ request.isNotEmptyBag = false ∧
        ∃ pBag bagProto, storage.TakesItem request proto bag pBag bagProto ∧
          nonSpecialized = bagProto.isPlainContainer ∧
            slots = slotsFrom 0 bagProto.containerSlots := by
  unfold bagSlots
  by_cases skipped : bag = skipBag
  · rw [if_pos skipped]
    exact iff_of_false nofun fun given => given.1 skipped
  rw [if_neg skipped]
  constructor
  · intro given
    cases worn : storage.getBagByPos bag with
    | none =>
        rw [worn] at given
        cases given
    | some pair =>
        obtain ⟨pBag, bagProto⟩ := pair
        rw [worn] at given
        dsimp only at given
        by_cases isItself : request.sourceGuid = some pBag.guid
        · rw [if_pos isItself] at given
          cases given
        by_cases isNotEmpty : request.isNotEmptyBag = true
        · rw [if_neg isItself, if_pos isNotEmpty] at given
          cases given
        by_cases isOther : nonSpecialized ≠ bagProto.isPlainContainer
        · rw [if_neg isItself, if_neg isNotEmpty, if_pos isOther] at given
          cases given
        by_cases isRefused : ¬ itemCanGoIntoBag proto bagProto = true
        · rw [if_neg isItself, if_neg isNotEmpty, if_neg isOther, if_pos isRefused] at given
          cases given
        rw [if_neg isItself, if_neg isNotEmpty, if_neg isOther, if_neg isRefused] at given
        exact ⟨skipped, Bool.not_eq_true _ ▸ isNotEmpty, pBag, bagProto,
          ⟨worn, isItself, not_not.mp isRefused⟩, not_not.mp isOther, (Except.ok.inj given).symm⟩
  · rintro ⟨_, isEmpty, pBag, bagProto, takes, isKind, rfl⟩
    rw [takes.worn]
    dsimp only
    rw [if_neg takes.notItself, if_neg (isEmpty ▸ Bool.false_ne_true), if_neg (not_not.mpr isKind),
      if_neg (not_not.mpr takes.goesIn)]

theorem bagSlots_bytes {bag skipBag : Nat} {nonSpecialized : Bool} {slots : List Nat}
    (small : storage.SmallBags)
    (given : storage.bagSlots request proto bag nonSpecialized skipBag = .ok slots) :
    ∀ slot ∈ slots, slot < 256 := by
  obtain ⟨_, _, pBag, bagProto, takes, _, rfl⟩ := bagSlots_eq_ok_iff.mp given
  intro slot member
  have atMost := small bag pBag bagProto takes.worn
  have below := (mem_slotsFrom.mp member).2
  unfold MAX_BAG_SIZE at atMost
  omega

theorem stays_of_slot_ne (slotIsByte : request.slot < 256) {bag slot : Nat} (isByte : slot < 256)
    (differs : bag ≠ request.bag ∨ slot ≠ request.slot) :
    ¬ isSwappedOut request (position bag slot) := by
  unfold isSwappedOut
  rw [Bool.and_eq_true, decide_eq_true_eq, position_inj isByte slotIsByte]
  rintro ⟨_, sameBag, sameSlot⟩
  exact differs.elim (· sameBag) (· sameSlot)

/-- A walk over a bag fills what it finds in it. -/
theorem canStoreItemInBag_eq (small : storage.SmallBags) (slotIsByte : request.slot < 256)
    {bag skipBag : Nat} {merge nonSpecialized : Bool} (plan : Plan Nat) :
    storage.canStoreItemInBag request proto bag plan merge nonSpecialized skipBag request.slot =
      ((storage.bagSlots request proto bag nonSpecialized skipBag).map
        (storage.candidates request proto merge (· = request.slot) bag)).map fun places =>
          fill (storage.roomAt request proto) places plan := by
  unfold canStoreItemInBag
  cases given : storage.bagSlots request proto bag nonSpecialized skipBag with
  | error => rfl
  | ok slots =>
      have bytes := bagSlots_bytes small given
      refine congrArg Except.ok (storeInSlots_eq_fill bytes ?_ plan)
      intro slot member notSkipped
      exact stays_of_slot_ne slotIsByte (bytes slot member)
        (.inr fun same => notSkipped (decide_eq_true same))

/-- What is in the slot that is named, when the item is stored. -/
theorem vacated_named (slotIsByte : request.slot < 256) (isNamed : request.namesSlot = true) :
    storage.vacated request (position request.bag request.slot) =
      if request.swap then none
      else storage.occupant request.pItem request.bag request.slot := by
  have swapped : isSwappedOut request (position request.bag request.slot) = request.swap := by
    unfold isSwappedOut
    rw [isNamed, decide_eq_true rfl, Bool.and_true, Bool.and_true]
  unfold vacated
  rw [swapped, position_div slotIsByte, position_mod slotIsByte]

/-- The room of the slot that is named, and why it may be planned. -/
theorem specificSlotSpace_eq_ok_iff (slotIsByte : request.slot < 256)
    (isNamed : request.namesSlot = true) {space : Nat} :
    storage.specificSlotSpace request proto = .ok space ↔
      (request.isNotEmptyBag = true → isBagPos request.bag request.slot = true) ∧
        space = storage.roomAt request proto (position request.bag request.slot) ∧
        match storage.vacated request (position request.bag request.slot) with
        | none => storage.fitsToSlot proto request.bag request.slot = true
        | some item => storage.canBeMergedPartlyWith item request.entry proto = .ok := by
  unfold specificSlotSpace roomAt
  rw [vacated_named slotIsByte isNamed]
  by_cases isNotEmpty : request.isNotEmptyBag = true ∧ ¬ isBagPos request.bag request.slot = true
  · rw [if_pos isNotEmpty]
    exact iff_of_false nofun fun given => isNotEmpty.2 (given.1 isNotEmpty.1)
  rw [if_neg isNotEmpty]
  have mayMove : request.isNotEmptyBag = true → isBagPos request.bag request.slot = true := by
    rwa [not_and_not_right] at isNotEmpty
  cases if request.swap = true then none
    else storage.occupant request.pItem request.bag request.slot with
  | none =>
      dsimp only
      split_ifs with fits
      · exact ⟨fun given => ⟨mayMove, (Except.ok.inj given).symm, fits⟩,
          fun given => congrArg Except.ok given.2.1.symm⟩
      · exact iff_of_false nofun fun given => fits given.2.2
  | some item =>
      dsimp only
      split_ifs with merges
      · exact ⟨fun given => ⟨mayMove, (Except.ok.inj given).symm, merges⟩,
          fun given => congrArg Except.ok given.2.1.symm⟩
      · exact iff_of_false nofun fun given => merges given.2.2

/-- The walks which `CanStoreItem` does for a request. -/
def Walk.Regular (request : StoreRequest) : Walk → Prop
  | .specificSlot => request.namesSlot = true
  | .specificBag _ => True
  | .bag _ _ _ => True
  | .inventorySlots _ slotEnd _ => slotEnd ≤ 256

theorem walk_eq (small : storage.SmallBags) (slotIsByte : request.slot < 256) {step : Walk}
    (regular : step.Regular request) (plan : Plan Nat) :
    storage.walk request proto plan step =
      (storage.found request proto step).map fun places =>
        fill (storage.roomAt request proto) places plan := by
  cases step with
  | specificSlot =>
      unfold walk found canStoreItemInSpecificSlot
      cases given : storage.specificSlotSpace request proto with
      | error => rfl
      | ok space =>
          have room := ((specificSlotSpace_eq_ok_iff slotIsByte regular).mp given).2.1
          have isPut : put (fun _ => space) plan (position request.bag request.slot) =
              put (storage.roomAt request proto) plan (position request.bag request.slot) :=
            put_congr room plan
          refine congrArg Except.ok ?_
          dsimp only
          rw [isPut]
          unfold fill fill
          rw [ite_self]
  | specificBag merge =>
      unfold walk found
      dsimp only
      rw [canStoreItemInBag_eq small slotIsByte, canStoreItemInBag_eq small slotIsByte]
      cases storage.bagSlots request proto request.bag false NULL_BAG with
      | ok slots => rfl
      | error => rfl
  | bag bag merge nonSpecialized => exact canStoreItemInBag_eq small slotIsByte plan
  | inventorySlots slotBegin slotEnd merge =>
      unfold walk found canStoreItemInInventorySlots
      dsimp only
      by_cases isNotEmpty : request.isNotEmptyBag = true
      · rw [if_pos isNotEmpty, if_pos isNotEmpty]
        rfl
      rw [if_neg isNotEmpty, if_neg isNotEmpty]
      have below : ∀ slot ∈ slotsFrom slotBegin slotEnd, slot < 256 := fun slot member =>
        (mem_slotsFrom.mp member).2.trans_le regular
      refine congrArg Except.ok (storeInSlots_eq_fill below ?_ plan)
      intro slot member notSkipped
      refine stays_of_slot_ne slotIsByte (below slot member) ?_
      by_contra! same
      unfold skipsMain at notSkipped
      rw [same.1, same.2] at notSkipped
      simp at notSkipped

/-! ## Searches -/

def Pass.Regular (request : StoreRequest) : Pass → Prop
  | .required step => step.Regular request
  | .optional step => step.Regular request
  | .refuseNonemptyBag => True

/-- What a search answers: its positions are filled, then the first refusal counts. -/
def outcome (storage : Storage) (request : StoreRequest) (proto : ItemTemplate)
    (noSimilarCount : Nat) (steps : List Pass) (plan : Plan Nat) : StoreAnswer :=
  if (fill (storage.roomAt request proto) (storage.reached request proto steps) plan).left = 0 then
    completed noSimilarCount
      (fill (storage.roomAt request proto) (storage.reached request proto steps) plan)
  else
    storage.refusal request proto noSimilarCount steps
      (fill (storage.roomAt request proto) (storage.reached request proto steps) plan)

theorem runPasses_eq (small : storage.SmallBags) (slotIsByte : request.slot < 256)
    {noSimilarCount : Nat} {steps : List Pass}
    (regular : ∀ step ∈ steps, step.Regular request) {plan : Plan Nat} (isLeft : plan.left ≠ 0) :
    storage.runPasses request proto noSimilarCount steps plan =
      storage.outcome request proto noSimilarCount steps plan := by
  induction steps generalizing plan with
  | nil => exact (if_neg isLeft).symm
  | cons step later induction =>
      have next := @induction fun other member => regular other (List.mem_cons_of_mem step member)
      have isRegular := regular step List.mem_cons_self
      -- A walk which is done, and the search after it.
      have goesOn : ∀ places,
          (if (fill (storage.roomAt request proto) places plan).left = 0 then
              completed noSimilarCount (fill (storage.roomAt request proto) places plan)
            else
              storage.runPasses request proto noSimilarCount later
                (fill (storage.roomAt request proto) places plan)) =
            if (fill (storage.roomAt request proto)
                (places ++ storage.reached request proto later) plan).left = 0 then
              completed noSimilarCount (fill (storage.roomAt request proto)
                (places ++ storage.reached request proto later) plan)
            else
              storage.refusal request proto noSimilarCount later
                (fill (storage.roomAt request proto)
                  (places ++ storage.reached request proto later) plan) := by
        intro places
        rw [fill_append places _ isLeft]
        by_cases isFull : (fill (storage.roomAt request proto) places plan).left = 0
        · rw [if_pos isFull, if_pos isFull, if_pos isFull]
        · rw [if_neg isFull, if_neg isFull]
          exact next isFull
      cases step with
      | required step =>
          unfold runPasses outcome reached refusal
          rw [walk_eq small slotIsByte isRegular]
          cases storage.found request proto step with
          | error result => exact (if_neg isLeft).symm
          | ok places => exact goesOn places
      | optional step =>
          unfold runPasses outcome reached refusal
          rw [walk_eq small slotIsByte isRegular]
          cases storage.found request proto step with
          | error result => exact next isLeft
          | ok places => exact goesOn places
      | refuseNonemptyBag => exact (if_neg isLeft).symm

/-! ## What is true of all walks -/

section Principles

variable {holds : Pass → Prop}

theorem forall_bagPasses {merge nonSpecialized : Bool}
    (bags : ∀ bag, INVENTORY_SLOT_BAG_START ≤ bag → bag < INVENTORY_SLOT_BAG_END →
      holds (.optional (.bag bag merge nonSpecialized))) :
    ∀ step ∈ bagPasses merge nonSpecialized, holds step := by
  intro step member
  obtain ⟨bag, inRange, rfl⟩ := List.mem_map.mp member
  exact bags bag (mem_slotsFrom.mp inRange).1 (mem_slotsFrom.mp inRange).2

theorem forall_ite {condition : Prop} [Decidable condition] {first second : List Pass}
    (first_holds : condition → ∀ step ∈ first, holds step)
    (second_holds : ¬ condition → ∀ step ∈ second, holds step) :
    ∀ step ∈ if condition then first else second, holds step := by
  split_ifs with given
  · exact first_holds given
  · exact second_holds given

theorem forall_generalPasses
    (merges : proto.stackable ≠ 1 → ∀ step ∈ mergePasses, holds step)
    (keyring : proto.isKey = true → holds keyringPass)
    (currency : ¬ proto.isKey = true → proto.isCurrencyToken = true → holds currencyPass)
    (backpack : holds backpackPass)
    (bags : ∀ bag merge nonSpecialized, INVENTORY_SLOT_BAG_START ≤ bag →
      bag < INVENTORY_SLOT_BAG_END → holds (.optional (.bag bag merge nonSpecialized)))
    (refuses : request.isNotEmptyBag = true → holds .refuseNonemptyBag) :
    ∀ step ∈ generalPasses request proto, holds step := by
  have allBags merge nonSpecialized := forall_bagPasses (bags · merge nonSpecialized)
  have none : ∀ step ∈ ([] : List Pass), holds step := fun _ => False.elim ∘ List.not_mem_nil
  unfold generalPasses generalMergePasses generalFamilyPasses
  refine List.forall_mem_append.mpr ⟨List.forall_mem_append.mpr ⟨List.forall_mem_append.mpr
    ⟨?mergePart, ?familyPart⟩, ?refusal⟩, List.forall_mem_cons.mpr ⟨backpack, allBags _ _⟩⟩
  case mergePart =>
    refine forall_ite (fun isStack => ?_) fun _ => none
    exact List.forall_mem_append.mpr ⟨List.forall_mem_append.mpr
      ⟨merges isStack, forall_ite (fun _ => allBags _ _) fun _ => none⟩, allBags _ _⟩
  case familyPart =>
    refine forall_ite (fun _ => List.forall_mem_append.mpr ⟨?_, allBags _ _⟩) fun _ => none
    refine forall_ite (fun isKey => List.forall_mem_singleton.mpr (keyring isKey)) fun isNoKey => ?_
    exact forall_ite (fun isToken => List.forall_mem_singleton.mpr (currency isNoKey isToken))
      fun _ => none
  case refusal =>
    exact forall_ite (fun isNotEmpty => List.forall_mem_singleton.mpr (refuses isNotEmpty))
      fun _ => none

theorem forall_passes
    (named : request.namesSlot = true → holds (.required .specificSlot))
    (main : request.bag = INVENTORY_SLOT_BAG_0 → ∀ step ∈ mainPasses proto, holds step)
    (worn : ∀ merge, holds (.required (.specificBag merge)))
    (general : ∀ step ∈ generalPasses request proto, holds step) :
    ∀ step ∈ passes request proto, holds step := by
  have none : ∀ step ∈ ([] : List Pass), holds step := fun _ => False.elim ∘ List.not_mem_nil
  unfold passes slotPasses specificBagPasses wornBagPasses
  refine List.forall_mem_append.mpr ⟨List.forall_mem_append.mpr ⟨?_, ?_⟩, general⟩
  · exact forall_ite (fun isNamed => List.forall_mem_singleton.mpr (named isNamed)) fun _ => none
  · refine forall_ite (fun _ => none) fun _ => forall_ite main fun _ => ?_
    exact List.forall_mem_append.mpr
      ⟨forall_ite (fun _ => List.forall_mem_singleton.mpr (worn true)) fun _ => none,
        List.forall_mem_singleton.mpr (worn false)⟩

theorem forall_mainPasses
    (merges : proto.stackable ≠ 1 → ∀ step ∈ mergePasses, holds step)
    (keyring : proto.isKey = true → holds keyringPass)
    (currency : proto.isKey = true ∨ proto.isCurrencyToken = true → holds currencyPass)
    (backpack : holds backpackPass) : ∀ step ∈ mainPasses proto, holds step := by
  have none : ∀ step ∈ ([] : List Pass), holds step := fun _ => False.elim ∘ List.not_mem_nil
  unfold mainPasses
  refine List.forall_mem_append.mpr ⟨List.forall_mem_append.mpr
    ⟨forall_ite merges fun _ => none, ?_⟩, List.forall_mem_singleton.mpr backpack⟩
  refine forall_ite (fun isKey => ?_) fun _ => forall_ite (fun isToken => ?_) fun _ => none
  · exact List.forall_mem_cons.mpr
      ⟨keyring isKey, List.forall_mem_singleton.mpr (currency (.inl isKey))⟩
  · exact List.forall_mem_singleton.mpr (currency (.inr isToken))

end Principles

theorem forall_mergePasses {holds : Pass → Prop}
    (merges : ∀ slotBegin slotEnd,
        KEYRING_SLOT_START = slotBegin ∧ CURRENCYTOKEN_SLOT_END = slotEnd ∨
        INVENTORY_SLOT_ITEM_START = slotBegin ∧ INVENTORY_SLOT_ITEM_END = slotEnd →
      holds (.required (.inventorySlots slotBegin slotEnd true))) :
    ∀ step ∈ mergePasses, holds step :=
  List.forall_mem_cons.mpr ⟨merges _ _ (.inl ⟨rfl, rfl⟩),
    List.forall_mem_singleton.mpr (merges _ _ (.inr ⟨rfl, rfl⟩))⟩

theorem regular_of_le {slotBegin slotEnd : Nat} {merge : Bool} (bytes : slotEnd ≤ 256) :
    Pass.Regular request (.required (.inventorySlots slotBegin slotEnd merge)) := bytes

theorem passes_regular : ∀ step ∈ passes request proto, step.Regular request := by
  have merges : ∀ step ∈ mergePasses, step.Regular request := by
    apply forall_mergePasses
    rintro slotBegin slotEnd (⟨_, rfl⟩ | ⟨_, rfl⟩) <;> exact regular_of_le (by decide)
  have keyring : keyringPass.Regular request := regular_of_le (by decide)
  have currency : currencyPass.Regular request := regular_of_le (by decide)
  have backpack : backpackPass.Regular request := regular_of_le (by decide)
  refine forall_passes id ?_ (fun _ => trivial) ?_
  · exact fun _ => forall_mainPasses (fun _ => merges)
      (fun _ => keyring) (fun _ => currency) backpack
  · exact forall_generalPasses (fun _ => merges) (fun _ => keyring) (fun _ _ => currency) backpack
      (fun _ _ _ _ _ => trivial) fun _ => trivial

/-! ## Requests which are searched for -/

/-- How many of the count are too many of a kind. -/
def noSimilarCount (storage : Storage) (request : StoreRequest) (proto : ItemTemplate) : Nat :=
  if (storage.canTakeMoreSimilarItems request.entry request.count proto request.pItem).1 = .ok
    then 0
  else (storage.canTakeMoreSimilarItems request.entry request.count proto request.pItem).2

/-- The checks before the first walk. -/
structure Admits (storage : Storage) (request : StoreRequest) (proto : ItemTemplate) : Prop where
  known : storage.getItemTemplate request.entry = some proto
  notLooted : (request.pItem.map SourceItem.lootGenerated).getD false = false
  notBound : (request.pItem.map SourceItem.bindedNotWith).getD false = false
  someFit : storage.noSimilarCount request proto < request.count

/-- How many are searched slots for. -/
def allowed (storage : Storage) (request : StoreRequest) (proto : ItemTemplate) : Nat :=
  request.count - storage.noSimilarCount request proto

/-- A request which a caller can make. -/
structure FairRequest (storage : Storage) (request : StoreRequest) : Prop where
  slotIsByte : request.slot < 256
  bagIsByte : request.bag < 256
  positive : 0 < request.count
  isWord : request.count < 2 ^ 32
  withinLimits : ∀ proto, storage.getItemTemplate request.entry = some proto →
    storage.WithinLimits request.entry proto request.pItem

theorem excess_pos {curcount count maxCount tooMany : Nat}
    (isExcess : excess curcount count maxCount = some tooMany) : 0 < tooMany := by
  unfold excess at isExcess
  split_ifs at isExcess with above
  obtain rfl := Option.some.inj isExcess
  unfold sub32
  omega

theorem excess_le {curcount count maxCount tooMany : Nat} (within : curcount ≤ maxCount)
    (isExcess : excess curcount count maxCount = some tooMany) : tooMany ≤ count := by
  unfold excess at isExcess
  split_ifs at isExcess with above
  obtain rfl := Option.some.inj isExcess
  unfold sub32
  omega

/-- What is too many is too many of a kind, of a category, or all of the count. -/
inductive SimilarAnswer (storage : Storage) (entry count : Nat) (proto : ItemTemplate)
    (source : Option SourceItem) : InventoryResult × Nat → Prop where
  | fits : SimilarAnswer storage entry count proto source (.ok, 0)
  | kind {tooMany : Nat}
      (isExcess : storage.excessOfKind entry count proto source = some tooMany) :
      SimilarAnswer storage entry count proto source (.cantCarryMoreOfThis, tooMany)
  | unlisted : SimilarAnswer storage entry count proto source (.itemCantBeEquipped, count)
  | category {limitEntry : ItemLimitCategoryEntry} {tooMany : Nat}
      (isLimited : proto.itemLimitCategory ≠ 0)
      (listed : storage.limitCategories proto.itemLimitCategory = some limitEntry)
      (isExcess : storage.excessOfCategory limitEntry count proto source = some tooMany) :
      SimilarAnswer storage entry count proto source (.itemMaxLimitCategoryCountExceeded, tooMany)

theorem canTakeMoreSimilarItems_answer {entry count : Nat} {source : Option SourceItem}
    (notLooted : (source.map SourceItem.lootGenerated).getD false = false) :
    SimilarAnswer storage entry count proto source
      (storage.canTakeMoreSimilarItems entry count proto source) := by
  unfold canTakeMoreSimilarItems
  rw [notLooted, if_neg Bool.false_ne_true]
  by_cases noMaximum :
      proto.maxCount ≤ 0 ∧ proto.itemLimitCategory = 0 ∨ proto.maxCount = 2147483647
  · rw [if_pos noMaximum]
    exact .fits
  rw [if_neg noMaximum]
  cases ofKind : storage.excessOfKind entry count proto source with
  | some tooMany => exact .kind ofKind
  | none =>
      dsimp only
      by_cases noCategory : proto.itemLimitCategory = 0
      · rw [if_pos noCategory]
        exact .fits
      rw [if_neg noCategory]
      cases listed : storage.limitCategories proto.itemLimitCategory with
      | none => exact .unlisted
      | some limitEntry =>
          dsimp only
          cases ofCategory : storage.excessOfCategory limitEntry count proto source with
          | none => exact .fits
          | some tooMany => exact .category noCategory listed ofCategory

theorem excessOfKind_pos {entry count tooMany : Nat} {source : Option SourceItem}
    (isExcess : storage.excessOfKind entry count proto source = some tooMany) : 0 < tooMany := by
  unfold excessOfKind at isExcess
  split_ifs at isExcess
  exact excess_pos isExcess

theorem excessOfCategory_pos {limitEntry : ItemLimitCategoryEntry} {count tooMany : Nat}
    {source : Option SourceItem}
    (isExcess : storage.excessOfCategory limitEntry count proto source = some tooMany) :
    0 < tooMany := by
  unfold excessOfCategory at isExcess
  split_ifs at isExcess
  exact excess_pos isExcess

theorem tooMany_bounds (fair : storage.FairRequest request)
    (known : storage.getItemTemplate request.entry = some proto)
    (notLooted : (request.pItem.map SourceItem.lootGenerated).getD false = false)
    {similar : InventoryResult × Nat}
    (answers : storage.canTakeMoreSimilarItems request.entry request.count proto request.pItem =
      similar) (refuses : similar.1 ≠ .ok) :
    similar.1 ≠ .inventoryFull ∧ 0 < similar.2 ∧ similar.2 ≤ request.count := by
  have within := fair.withinLimits proto known
  have isAnswer : SimilarAnswer storage request.entry request.count proto request.pItem similar :=
    answers ▸ canTakeMoreSimilarItems_answer notLooted
  clear answers
  cases isAnswer with
  | fits => exact absurd rfl refuses
  | kind isExcess =>
      refine ⟨nofun, excessOfKind_pos isExcess, ?_⟩
      unfold excessOfKind at isExcess
      split_ifs at isExcess with limited
      exact excess_le (within.ofKind limited) isExcess
  | unlisted => exact ⟨nofun, fair.positive, le_rfl⟩
  | category isLimited listed isExcess =>
      refine ⟨nofun, excessOfCategory_pos isExcess, ?_⟩
      unfold excessOfCategory at isExcess
      split_ifs at isExcess with limited
      exact excess_le (within.ofCategory _ isLimited listed limited) isExcess

theorem tooMany_ne_zero {entry count : Nat} {source : Option SourceItem}
    (notLooted : (source.map SourceItem.lootGenerated).getD false = false)
    {similar : InventoryResult × Nat}
    (answers : storage.canTakeMoreSimilarItems entry count proto source = similar)
    (refuses : similar.1 ≠ .ok) (notAll : count ≠ similar.2) : similar.2 ≠ 0 := by
  have isAnswer : SimilarAnswer storage entry count proto source similar :=
    answers ▸ canTakeMoreSimilarItems_answer notLooted
  clear answers
  cases isAnswer with
  | fits => exact absurd rfl refuses
  | kind isExcess => exact (excessOfKind_pos isExcess).ne'
  | unlisted => exact absurd rfl notAll
  | category _ _ isExcess => exact (excessOfCategory_pos isExcess).ne'

/-- An answer without a search. -/
structure IsRefusedAtOnce (request : StoreRequest) (dest : List (Nat × Nat))
    (answer : StoreAnswer) : Prop where
  notOk : answer.result ≠ .ok
  notFull : answer.result ≠ .inventoryFull
  nothingPlanned : answer.plan = { taken := dest, left := request.count }
  noSpace : answer.noSpaceCount = some request.count

theorem canStoreItem_of_admits (small : storage.SmallBags) (fair : storage.FairRequest request)
    (admits : storage.Admits request proto) (dest : List (Nat × Nat)) :
    storage.canStoreItem request dest =
      storage.outcome request proto (storage.noSimilarCount request proto) (passes request proto)
        { taken := dest, left := storage.allowed request proto } := by
  have someFit := admits.someFit
  have isLeft : storage.allowed request proto ≠ 0 := Nat.sub_ne_zero_of_lt someFit
  rw [← runPasses_eq small fair.slotIsByte passes_regular isLeft]
  unfold canStoreItem
  rw [admits.known]
  dsimp only
  rw [admits.notLooted, admits.notBound, if_neg Bool.false_ne_true, if_neg Bool.false_ne_true]
  unfold allowed searchSlots
  unfold noSimilarCount at someFit ⊢
  generalize answers : storage.canTakeMoreSimilarItems request.entry request.count proto
    request.pItem = similar at someFit ⊢
  by_cases isOk : similar.1 = .ok
  · rw [if_pos isOk, if_pos isOk]
    rfl
  · have isWord := fair.isWord
    have isLess : sub32 request.count similar.2 = request.count - similar.2 := by
      rw [if_neg isOk] at someFit
      unfold sub32
      omega
    rw [if_neg isOk] at someFit
    rw [if_neg isOk, if_neg isOk, if_neg someFit.ne', isLess]

theorem canStoreItem_of_not_admits (fair : storage.FairRequest request)
    (refuses : ∀ proto, ¬ storage.Admits request proto) (dest : List (Nat × Nat)) :
    IsRefusedAtOnce request dest (storage.canStoreItem request dest) := by
  unfold canStoreItem
  cases known : storage.getItemTemplate request.entry with
  | none =>
      dsimp only
      split_ifs
      · exact ⟨nofun, nofun, rfl, rfl⟩
      · exact ⟨nofun, nofun, rfl, rfl⟩
  | some proto =>
      dsimp only
      split_ifs with isLooted isBound
      · exact ⟨nofun, nofun, rfl, rfl⟩
      · exact ⟨nofun, nofun, rfl, rfl⟩
      have bounds := @tooMany_bounds _ _ _ fair known (Bool.not_eq_true _ ▸ isLooted) _ rfl
      have noneFits : ¬ storage.noSimilarCount request proto < request.count := fun someFit =>
        refuses proto ⟨known, Bool.not_eq_true _ ▸ isLooted, Bool.not_eq_true _ ▸ isBound, someFit⟩
      unfold noSimilarCount at noneFits
      unfold searchSlots
      generalize storage.canTakeMoreSimilarItems request.entry request.count proto
        request.pItem = similar at bounds noneFits ⊢
      by_cases isOk : similar.1 = .ok
      · rw [if_pos isOk] at noneFits
        exact absurd fair.positive noneFits
      · rw [if_neg isOk] at noneFits
        obtain ⟨notFull, _, atMost⟩ := bounds isOk
        rw [if_neg isOk, if_pos (le_antisymm (not_lt.mp noneFits) atMost)]
        exact ⟨isOk, notFull, rfl, rfl⟩

end Storage

end RealmServer.Players
