import Mathlib
import RealmServer.Lib.Transition

/-!
# Buyback slots

What a player sells goes into a buyback slot, from which it can be bought back.
A cursor points at the slot which the next sale tries first.  If that slot is
occupied, the sale looks for an empty slot and for the oldest item at once.
-/

namespace RealmServer.Players

open RealmServer.Transition

def BUYBACK_SLOT_START : Nat := 74
def BUYBACK_SLOT_END : Nat := 86

structure BuyBackItem where
  guid : Nat
  /-- `SellPrice` of the template, if there is one. -/
  sellPrice : Option Nat
  count : Nat
deriving DecidableEq, Repr

def BuyBackItem.price (item : BuyBackItem) : Nat :=
  match item.sellPrice with
  | some sellPrice => sellPrice * item.count % 2 ^ 32
  | none => 0

/-- An item in a slot; the time of its sale is for the statement only. -/
structure SoldItem where
  item : BuyBackItem
  etime : Nat
deriving DecidableEq, Repr

structure BuyBack where
  /-- `m_items`, of which only the buyback slots are used. -/
  items : Nat → Option SoldItem
  vendorBuybackSlot : Nat → Nat
  buybackPrice : Nat → Nat
  buybackTimestamp : Nat → Nat
  currentBuybackSlot : Nat
  /-- The items which were set to `ITEM_REMOVED`, the last one first. -/
  destroyed : List SoldItem

namespace BuyBack

def start : BuyBack where
  items _ := none
  vendorBuybackSlot _ := 0
  buybackPrice _ := 0
  buybackTimestamp _ := 0
  currentBuybackSlot := BUYBACK_SLOT_START
  destroyed := []

def isBuybackSlot (slot : Nat) : Prop := BUYBACK_SLOT_START ≤ slot ∧ slot < BUYBACK_SLOT_END

instance (slot : Nat) : Decidable (isBuybackSlot slot) :=
  inferInstanceAs (Decidable (BUYBACK_SLOT_START ≤ slot ∧ slot < BUYBACK_SLOT_END))

/-- The timestamp field of a slot. -/
def timestamp (buyBack : BuyBack) (slot : Nat) : Nat :=
  buyBack.buybackTimestamp (slot - BUYBACK_SLOT_START)

/-- What `RemoveItemFromBuyBackSlot` does to the slot. -/
def clearSlot (buyBack : BuyBack) (slot : Nat) (del : Bool) : BuyBack :=
  let eslot := slot - BUYBACK_SLOT_START
  { buyBack with
    items := Function.update buyBack.items slot none
    vendorBuybackSlot := Function.update buyBack.vendorBuybackSlot eslot 0
    buybackPrice := Function.update buyBack.buybackPrice eslot 0
    buybackTimestamp := Function.update buyBack.buybackTimestamp eslot 0
    destroyed :=
      match buyBack.items slot with
      | some sold => if del then sold :: buyBack.destroyed else buyBack.destroyed
      | none => buyBack.destroyed }

def removeItemFromBuyBackSlot (buyBack : BuyBack) (slot : Nat) (del : Bool) : BuyBack :=
  if isBuybackSlot slot then
    let removed := buyBack.clearSlot slot del
    if (removed.items removed.currentBuybackSlot).isSome then
      { removed with currentBuybackSlot := slot }
    else removed
  else buyBack

/-- The variables of the loop which looks for a slot. -/
structure Search where
  slot : Nat
  oldestTime : Nat
  oldestSlot : Nat
deriving DecidableEq, Repr

/-- The loop over the slots; an empty one ends it. -/
def searchSlot (buyBack : BuyBack) : List Nat → Search → Search
  | [], search => search
  | slot :: later, search =>
      match buyBack.items slot with
      | none => { search with slot }
      | some _ =>
          if buyBack.timestamp slot < search.oldestTime then
            searchSlot buyBack later
              { search with oldestTime := buyBack.timestamp slot, oldestSlot := slot }
          else searchSlot buyBack later search

/-- The slots which the loop looks at. -/
def laterSlots : List Nat :=
  List.range' (BUYBACK_SLOT_START + 1) (BUYBACK_SLOT_END - (BUYBACK_SLOT_START + 1))

/-- The slot of the next sale. -/
def saleSlot (buyBack : BuyBack) : Nat :=
  match buyBack.items buyBack.currentBuybackSlot with
  | none => buyBack.currentBuybackSlot
  | some _ =>
      (searchSlot buyBack laterSlots
        { slot := buyBack.currentBuybackSlot
          oldestTime := buyBack.timestamp BUYBACK_SLOT_START
          oldestSlot := BUYBACK_SLOT_START }).oldestSlot

/-- The time of a sale, in an `uint32`. -/
def saleTime (sinceLogin : ℤ) : Nat := ((sinceLogin + 30 * 3600) % 2 ^ 32).toNat

def addItemToBuyBackSlot (buyBack : BuyBack) (pItem : Option BuyBackItem) (sinceLogin : ℤ) :
    BuyBack :=
  match pItem with
  | none => buyBack
  | some item =>
      let slot := buyBack.saleSlot
      let removed := buyBack.removeItemFromBuyBackSlot slot true
      let eslot := slot - BUYBACK_SLOT_START
      { removed with
        items := Function.update removed.items slot (some ⟨item, saleTime sinceLogin⟩)
        vendorBuybackSlot := Function.update removed.vendorBuybackSlot eslot item.guid
        buybackPrice := Function.update removed.buybackPrice eslot item.price
        buybackTimestamp := Function.update removed.buybackTimestamp eslot (saleTime sinceLogin)
        currentBuybackSlot :=
          if removed.currentBuybackSlot < BUYBACK_SLOT_END - 1 then
            removed.currentBuybackSlot + 1
          else removed.currentBuybackSlot }

inductive Trade where
  | sale (pItem : Option BuyBackItem) (sinceLogin : ℤ)
  | buyback (slot : Nat)
deriving DecidableEq

def trade (buyBack : BuyBack) : Trade → BuyBack
  | .sale pItem sinceLogin => buyBack.addItemToBuyBackSlot pItem sinceLogin
  | .buyback slot => buyBack.removeItemFromBuyBackSlot slot false

/-! ## What holds of the slots -/

/-- The fields of a slot are those of the item in it. -/
def Belongs (buyBack : BuyBack) (slot : Nat) : Prop :=
  let eslot := slot - BUYBACK_SLOT_START
  match buyBack.items slot with
  | none => buyBack.vendorBuybackSlot eslot = 0 ∧ buyBack.buybackPrice eslot = 0 ∧
      buyBack.buybackTimestamp eslot = 0
  | some sold => buyBack.vendorBuybackSlot eslot = sold.item.guid ∧
      buyBack.buybackPrice eslot = sold.item.price ∧ buyBack.buybackTimestamp eslot = sold.etime

structure Good (buyBack : BuyBack) : Prop where
  current : isBuybackSlot buyBack.currentBuybackSlot
  belongs : ∀ slot, isBuybackSlot slot → buyBack.Belongs slot

/-- A slot and its fields are as before. -/
structure SameSlot (before after : BuyBack) (slot : Nat) : Prop where
  items : after.items slot = before.items slot
  vendorBuybackSlot : after.vendorBuybackSlot (slot - BUYBACK_SLOT_START) =
    before.vendorBuybackSlot (slot - BUYBACK_SLOT_START)
  buybackPrice : after.buybackPrice (slot - BUYBACK_SLOT_START) =
    before.buybackPrice (slot - BUYBACK_SLOT_START)
  buybackTimestamp : after.buybackTimestamp (slot - BUYBACK_SLOT_START) =
    before.buybackTimestamp (slot - BUYBACK_SLOT_START)

def Full (buyBack : BuyBack) : Prop := ∀ slot, isBuybackSlot slot → buyBack.items slot ≠ none

/-- The item takes an empty slot, or, if there is none, that of an oldest item. -/
def Replaces (before after : BuyBack) (slot : Nat) : Prop :=
  (before.items slot = none ∧ after.destroyed = before.destroyed) ∨
    (before.Full ∧ ∃ old, before.items slot = some old ∧
      after.destroyed = old :: before.destroyed ∧
      ∀ other, isBuybackSlot other → before.timestamp slot ≤ before.timestamp other)

/-- What a trade may do. -/
def Obeys (before : BuyBack) : Trade → Prop
  | .sale none _ => True
  | .sale (some item) sinceLogin =>
      let after := before.addItemToBuyBackSlot (some item) sinceLogin
      ∃ slot, isBuybackSlot slot ∧ after.items slot = some ⟨item, saleTime sinceLogin⟩ ∧
        (∀ other, isBuybackSlot other → other ≠ slot → SameSlot before after other) ∧
        Replaces before after slot
  | .buyback slot =>
      let after := before.removeItemFromBuyBackSlot slot false
      after.destroyed = before.destroyed ∧
        ∀ other, isBuybackSlot other → other ≠ slot → SameSlot before after other

/-- The cursor or the first slot is empty, or every slot is occupied. -/
def FindsSlot (buyBack : BuyBack) : Trade → Prop
  | .sale (some _) _ =>
      buyBack.items buyBack.currentBuybackSlot = none ∨
        buyBack.items BUYBACK_SLOT_START = none ∨ buyBack.Full
  | _ => True

/-! ## The loop -/

variable {buyBack : BuyBack}

theorem mem_laterSlots {slot : Nat} :
    slot ∈ laterSlots ↔ BUYBACK_SLOT_START < slot ∧ slot < BUYBACK_SLOT_END := by
  unfold laterSlots BUYBACK_SLOT_START BUYBACK_SLOT_END
  rw [List.mem_range'_1]
  omega

/-- The loop ends at the slot it began with, or at an occupied one. -/
theorem oldestSlot_searchSlot (slots : List Nat) (search : Search) :
    (buyBack.searchSlot slots search).oldestSlot = search.oldestSlot ∨
      ((buyBack.searchSlot slots search).oldestSlot ∈ slots ∧
        buyBack.items (buyBack.searchSlot slots search).oldestSlot ≠ none) := by
  induction slots generalizing search with
  | nil => exact .inl rfl
  | cons slot later induction =>
      unfold searchSlot
      cases occupied : buyBack.items slot with
      | none => exact .inl rfl
      | some sold =>
          dsimp only
          split_ifs with older
          · rcases induction { search with oldestTime := _, oldestSlot := slot } with same | found
            · rw [same, occupied]
              exact .inr ⟨List.mem_cons_self, Option.some_ne_none sold⟩
            · exact .inr ⟨List.mem_cons_of_mem slot found.1, found.2⟩
          · exact (induction search).imp_right fun found =>
              ⟨List.mem_cons_of_mem slot found.1, found.2⟩

/-- Nothing is older than the time 0. -/
theorem searchSlot_of_zero (slots : List Nat) {search : Search} (zero : search.oldestTime = 0) :
    (buyBack.searchSlot slots search).oldestSlot = search.oldestSlot := by
  induction slots with
  | nil => rfl
  | cons slot later induction =>
      unfold searchSlot
      cases buyBack.items slot with
      | none => rfl
      | some sold =>
          dsimp only
          rw [if_neg (by omega)]
          exact induction

/-- Without an empty slot the loop finds an oldest item. -/
theorem searchSlot_least {slots : List Nat} (occupied : ∀ slot ∈ slots, buyBack.items slot ≠ none)
    {search : Search} (isTime : search.oldestTime = buyBack.timestamp search.oldestSlot) :
    buyBack.timestamp (buyBack.searchSlot slots search).oldestSlot ≤ search.oldestTime ∧
      ∀ slot ∈ slots, buyBack.timestamp (buyBack.searchSlot slots search).oldestSlot ≤
        buyBack.timestamp slot := by
  induction slots generalizing search with
  | nil => exact ⟨isTime.ge, fun _ member => absurd member List.not_mem_nil⟩
  | cons slot later induction =>
      rw [List.forall_mem_cons] at occupied
      rw [List.forall_mem_cons]
      unfold searchSlot
      cases isItem : buyBack.items slot with
      | none => exact absurd isItem occupied.1
      | some sold =>
          dsimp only
          split_ifs with older
          · have least := @induction occupied.2
              { search with oldestTime := buyBack.timestamp slot, oldestSlot := slot } rfl
            exact ⟨least.1.trans older.le, least.1, least.2⟩
          · have least := induction occupied.2 isTime
            exact ⟨least.1, least.1.trans (Nat.not_lt.mp older), least.2⟩

/-! ## One trade -/

section OneSlot

variable {slot other : Nat}

theorem eslot_ne (isSlot : isBuybackSlot slot) (isOther : isBuybackSlot other)
    (differs : other ≠ slot) : other - BUYBACK_SLOT_START ≠ slot - BUYBACK_SLOT_START := by
  obtain ⟨atLeast, _⟩ := isSlot
  obtain ⟨otherAtLeast, _⟩ := isOther
  omega

theorem Belongs.congr {before after : BuyBack} (same : SameSlot before after slot)
    (belongs : before.Belongs slot) : after.Belongs slot := by
  unfold Belongs at belongs ⊢
  dsimp only at belongs ⊢
  rw [same.items, same.vendorBuybackSlot, same.buybackPrice, same.buybackTimestamp]
  exact belongs

theorem SameSlot.trans {first second third : BuyBack} (one : SameSlot first second slot)
    (two : SameSlot second third slot) : SameSlot first third slot where
  items := two.items.trans one.items
  vendorBuybackSlot := two.vendorBuybackSlot.trans one.vendorBuybackSlot
  buybackPrice := two.buybackPrice.trans one.buybackPrice
  buybackTimestamp := two.buybackTimestamp.trans one.buybackTimestamp

/-- Besides the slot only the cursor changes. -/
theorem remove_eq (isSlot : isBuybackSlot slot) (del : Bool) :
    ∃ current, (current = slot ∨ current = buyBack.currentBuybackSlot) ∧
      buyBack.removeItemFromBuyBackSlot slot del =
        { buyBack.clearSlot slot del with currentBuybackSlot := current } := by
  unfold removeItemFromBuyBackSlot
  rw [if_pos isSlot]
  dsimp only
  split_ifs
  · exact ⟨slot, .inl rfl, rfl⟩
  · exact ⟨buyBack.currentBuybackSlot, .inr rfl, rfl⟩

theorem remove_sameSlot (buyBack : BuyBack) (isSlot : isBuybackSlot slot)
    (isOther : isBuybackSlot other) (differs : other ≠ slot) (del : Bool) :
    SameSlot buyBack (buyBack.removeItemFromBuyBackSlot slot del) other := by
  have apart := eslot_ne isSlot isOther differs
  obtain ⟨current, _, isRemoved⟩ := remove_eq isSlot del
  rw [isRemoved]
  exact ⟨Function.update_of_ne differs _ _, Function.update_of_ne apart _ _,
    Function.update_of_ne apart _ _, Function.update_of_ne apart _ _⟩

theorem Good.remove (good : buyBack.Good) (slot : Nat) (del : Bool) :
    (buyBack.removeItemFromBuyBackSlot slot del).Good := by
  by_cases isSlot : isBuybackSlot slot
  · constructor
    · obtain ⟨current, isCurrent, isRemoved⟩ := remove_eq isSlot del
      rw [isRemoved]
      rcases isCurrent with rfl | rfl
      · exact isSlot
      · exact good.current
    · intro other isOther
      by_cases same : other = slot
      · subst same
        obtain ⟨current, _, isRemoved⟩ := remove_eq isSlot del
        rw [isRemoved]
        unfold Belongs clearSlot
        dsimp only
        rw [Function.update_self, Function.update_self, Function.update_self,
          Function.update_self]
        exact ⟨rfl, rfl, rfl⟩
      · exact (good.belongs other isOther).congr (remove_sameSlot buyBack isSlot isOther same del)
  · unfold removeItemFromBuyBackSlot
    rw [if_neg isSlot]
    exact good

end OneSlot

theorem saleSlot_isBuybackSlot (good : buyBack.Good) : isBuybackSlot buyBack.saleSlot := by
  unfold saleSlot
  cases buyBack.items buyBack.currentBuybackSlot with
  | none => exact good.current
  | some sold =>
      have atStart : isBuybackSlot BUYBACK_SLOT_START := by decide
      rcases oldestSlot_searchSlot laterSlots _ with same | found
      · rw [same]
        exact atStart
      · have later := mem_laterSlots.mp found.1
        exact ⟨later.1.le, later.2⟩

section Sale

variable {item : BuyBackItem} {sinceLogin : ℤ}

theorem sale_items : (buyBack.addItemToBuyBackSlot (some item) sinceLogin).items
    buyBack.saleSlot = some ⟨item, saleTime sinceLogin⟩ :=
  Function.update_self _ _ _

theorem sale_sameSlot (good : buyBack.Good) {other : Nat} (isOther : isBuybackSlot other)
    (differs : other ≠ buyBack.saleSlot) :
    SameSlot buyBack (buyBack.addItemToBuyBackSlot (some item) sinceLogin) other := by
  have isSlot := saleSlot_isBuybackSlot good
  have apart := eslot_ne isSlot isOther differs
  have removed := remove_sameSlot buyBack isSlot isOther differs true
  exact removed.trans ⟨Function.update_of_ne differs _ _, Function.update_of_ne apart _ _,
    Function.update_of_ne apart _ _, Function.update_of_ne apart _ _⟩

theorem sale_destroyed (good : buyBack.Good) (item : BuyBackItem) (sinceLogin : ℤ) :
    (buyBack.addItemToBuyBackSlot (some item) sinceLogin).destroyed =
      match buyBack.items buyBack.saleSlot with
      | some sold => sold :: buyBack.destroyed
      | none => buyBack.destroyed := by
  obtain ⟨current, _, isRemoved⟩ := remove_eq (saleSlot_isBuybackSlot good) true
  change (buyBack.removeItemFromBuyBackSlot buyBack.saleSlot true).destroyed = _
  rw [isRemoved]
  rfl

theorem Good.sale (good : buyBack.Good) :
    (buyBack.addItemToBuyBackSlot (some item) sinceLogin).Good := by
  have isSlot := saleSlot_isBuybackSlot good
  constructor
  · have ⟨atLeast, below⟩ := (good.remove buyBack.saleSlot true).current
    change isBuybackSlot (if _ then _ else _)
    split_ifs with notLast
    · exact ⟨Nat.le_succ_of_le atLeast, Nat.add_lt_of_lt_sub notLast⟩
    · exact ⟨atLeast, below⟩
  · intro other isOther
    by_cases same : other = buyBack.saleSlot
    · subst same
      unfold Belongs
      dsimp only
      rw [sale_items]
      exact ⟨Function.update_self _ _ _, Function.update_self _ _ _,
        Function.update_self _ _ _⟩
    · exact (good.belongs other isOther).congr (sale_sameSlot good isOther same)

theorem saleSlot_of_findsSlot (good : buyBack.Good)
    (finds : buyBack.FindsSlot (.sale (some item) sinceLogin)) :
    buyBack.items buyBack.saleSlot = none ∨
      (buyBack.Full ∧ ∀ other, isBuybackSlot other →
        buyBack.timestamp buyBack.saleSlot ≤ buyBack.timestamp other) := by
  unfold saleSlot
  cases current : buyBack.items buyBack.currentBuybackSlot with
  | none => exact .inl current
  | some sold =>
      dsimp only
      rcases finds with empty | empty | full
      · rw [current] at empty
        cases empty
      · have belongs := good.belongs BUYBACK_SLOT_START (by decide)
        unfold Belongs at belongs
        dsimp only at belongs
        rw [empty] at belongs
        rw [searchSlot_of_zero laterSlots belongs.2.2]
        exact .inl empty
      · refine .inr ⟨full, fun other isOther => ?_⟩
        have occupied : ∀ slot ∈ laterSlots, buyBack.items slot ≠ none := by
          intro slot member
          have later := mem_laterSlots.mp member
          exact full slot ⟨later.1.le, later.2⟩
        have least := @searchSlot_least buyBack laterSlots occupied
          ⟨buyBack.currentBuybackSlot, buyBack.timestamp BUYBACK_SLOT_START, BUYBACK_SLOT_START⟩
          rfl
        rcases Nat.eq_or_lt_of_le isOther.1 with rfl | later
        · exact least.1
        · exact least.2 other (mem_laterSlots.mpr ⟨later, isOther.2⟩)

theorem saleSlot_of_not_findsSlot
    (overlooks : ¬ buyBack.FindsSlot (.sale (some item) sinceLogin)) :
    buyBack.items buyBack.saleSlot ≠ none ∧ ¬ buyBack.Full := by
  have ⟨current, rest⟩ := not_or.mp overlooks
  have ⟨atStart, notFull⟩ := not_or.mp rest
  refine ⟨?_, notFull⟩
  unfold saleSlot
  cases isCurrent : buyBack.items buyBack.currentBuybackSlot with
  | none => exact absurd isCurrent current
  | some sold =>
      dsimp only
      rcases oldestSlot_searchSlot laterSlots _ with same | found
      · rw [same]
        exact atStart
      · exact found.2

theorem obeys_sale_iff (good : buyBack.Good) :
    buyBack.Obeys (.sale (some item) sinceLogin) ↔
      buyBack.FindsSlot (.sale (some item) sinceLogin) := by
  have destroyed := sale_destroyed good item sinceLogin
  constructor
  · rintro ⟨slot, isSlot, _, same, replaces⟩
    by_contra overlooks
    obtain ⟨occupied, notFull⟩ := saleSlot_of_not_findsSlot overlooks
    obtain ⟨old, isOld⟩ := Option.ne_none_iff_exists'.mp occupied
    rw [isOld] at destroyed
    rcases replaces with ⟨_, kept⟩ | ⟨full, _⟩
    · rw [destroyed] at kept
      exact List.cons_ne_self old _ kept
    · exact notFull full
  · intro finds
    refine ⟨buyBack.saleSlot, saleSlot_isBuybackSlot good, sale_items,
      fun other => sale_sameSlot good, ?_⟩
    rcases saleSlot_of_findsSlot good finds with empty | ⟨full, least⟩
    · rw [empty] at destroyed
      exact .inl ⟨empty, destroyed⟩
    · obtain ⟨old, isOld⟩ :=
        Option.ne_none_iff_exists'.mp (full buyBack.saleSlot (saleSlot_isBuybackSlot good))
      rw [isOld] at destroyed
      exact .inr ⟨full, old, isOld, destroyed, least⟩

end Sale

theorem obeys_iff (good : buyBack.Good) (call : Trade) :
    buyBack.Obeys call ↔ buyBack.FindsSlot call := by
  cases call with
  | sale pItem sinceLogin =>
      cases pItem with
      | none => exact Iff.rfl
      | some item => exact obeys_sale_iff good
  | buyback slot =>
      refine iff_of_true ?_ trivial
      by_cases isSlot : isBuybackSlot slot
      · refine ⟨?_, fun other isOther differs =>
          remove_sameSlot buyBack isSlot isOther differs false⟩
        obtain ⟨current, _, isRemoved⟩ := remove_eq isSlot false
        rw [isRemoved]
        unfold clearSlot
        cases buyBack.items slot <;> rfl
      · have unchanged : buyBack.removeItemFromBuyBackSlot slot false = buyBack := if_neg isSlot
        unfold Obeys
        dsimp only
        rw [unchanged]
        exact ⟨rfl, fun _ _ _ => ⟨rfl, rfl, rfl, rfl⟩⟩

theorem Good.trade (good : buyBack.Good) (call : Trade) : (buyBack.trade call).Good := by
  cases call with
  | sale pItem sinceLogin =>
      cases pItem with
      | none => exact good
      | some item => exact good.sale
  | buyback slot => exact good.remove slot false

theorem good_start : start.Good where
  current := by decide
  belongs _ _ := ⟨rfl, rfl, rfl⟩

/-! ## Runs -/

/--
The cursor is always a buyback slot and the fields belong to the items.  A run
drops only an oldest item, and only when every slot is occupied, exactly if no
sale overlooks an empty slot.
-/
theorem obeys_run_iff (calls : List Trade) :
    Throughout trade Good start calls ∧
      (EveryStep trade Obeys start calls ↔ EveryStep trade FindsSlot start calls) := by
  constructor
  · have anything : EveryStep trade (fun _ _ => True) start calls :=
      everyStep_iff_forall.mpr fun _ _ => trivial
    exact throughout_of_invariant (fun _ call good _ => good.trade call) good_start anything
  · exact everyStep_congr (fun _ call good => good.trade call)
      (fun _ call good => obeys_iff good call) good_start

/-- Twelve sales, the items of the slots 74 and 76 bought back, and a sale. -/
def refilled : List Trade :=
  (List.range 12).map (fun sale => .sale (some ⟨sale + 1, some 10, 1⟩) sale) ++
    [.buyback 74, .buyback 76, .sale (some ⟨13, some 10, 1⟩) 20]

/-- The next sale destroys an item, though the slot 76 is empty. -/
theorem sale_overlooks_empty :
    (run trade start refilled).items 76 = none ∧
      (run trade start (refilled ++ [.sale (some ⟨14, some 10, 1⟩) 30])).destroyed =
        [⟨⟨2, some 10, 1⟩, 108001⟩] := by
  decide +kernel

end BuyBack

end RealmServer.Players
