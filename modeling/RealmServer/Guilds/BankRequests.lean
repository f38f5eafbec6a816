import RealmServer.Guilds.BankMoves

/-!
# Requests to move items

What `HandleGuildBankSwapItems` starts conserves the items: every request is
refused, moves an amount or swaps two items.
-/

namespace RealmServer.Guilds.BankMoves

open Table Players Players.Inventory

/-! ## Results of moves -/

section Requests

variable {context : MoveContext} {player : Nat} {state : BankState} {src dest : Place}

/-- The two ends of a move which the handler starts. -/
structure Ends (state : BankState) (src dest : Place) : Prop where
  keys : (src.owner, src.pos) ≠ (dest.owner, dest.pos)
  srcExists : src.Exists
  destExists : dest.Exists
  sameTab : src.owner = dest.owner →
    ∃ tabId slotId destSlotId, src = .bank tabId slotId ∧ dest = .bank tabId destSlotId

/-- What the request is about, and that no stack is lost. -/
def Result (context : MoveContext) (before after : BankState) (src dest : Place)
    (splitedAmount : Nat) : Prop :=
  Conserved context before after ∧
    Outcome context before.items after.items src dest splitedAmount

theorem Conserved.refl (tidy : state.Tidy context) : Conserved context state state where
  tidy := tidy
  pieces := fun _ => rfl

theorem Result.refused (tidy : state.Tidy context) (splitedAmount : Nat) :
    Result context state state src dest splitedAmount :=
  ⟨.refl tidy, .inl rfl⟩

theorem exchangeable_of_initItem (ends : Ends state src dest) {slot destSlot : InventorySlot}
    (found : state.items.getItemByPos src.owner src.pos = some slot)
    (foundDest : state.items.getItemByPos dest.owner dest.pos = some destSlot)
    (init : state.initItem context src = some slot.item)
    (initDest : state.initItem context dest = some destSlot.item) :
    Exchangeable state src dest slot destSlot where
  __ := ends
  found := found
  foundDest := foundDest
  srcSlot := by
    rintro tabId slotId rfl
    exact (slot_of_initItem init).2
  destSlot := by
    rintro tabId slotId rfl
    exact (slot_of_initItem initDest).2

theorem result_moveWhole (plans : context.PlayerPlans) (tidy : state.Tidy context)
    (ends : Ends state src dest) {slot : InventorySlot}
    (found : state.items.getItemByPos src.owner src.pos = some slot)
    (init : state.initItem context src = some slot.item) {splitedAmount : Nat}
    (whole : requested slot.item splitedAmount = slot.item.count) :
    Result context state (state.moveWhole context player src dest slot.item) src dest
      splitedAmount := by
  unfold BankState.moveWhole
  cases moved : state.doItemsMove context player src dest slot.item none 0 with
  | some after =>
      obtain ⟨conserved, plan, moves⟩ :=
          moved_whole plans ends.destExists ends.keys tidy found moved
      rw [← whole] at moves
      exact ⟨conserved, .inr (.inl ⟨_, plan, moves⟩)⟩
  | none =>
      cases initDest : state.initItem context dest with
      | none => exact .refused tidy splitedAmount
      | some destItem =>
          dsimp only
          split_ifs
          · exact .refused tidy splitedAmount
          · exact .refused tidy splitedAmount
          obtain ⟨destSlot, foundDest, rfl⟩ := initItem_of_some initDest
          have exchangeable := exchangeable_of_initItem ends found foundDest init initDest
          cases swapped : state.doItemsMove context player src dest slot.item
              (some destSlot.item) 0 with
          | none => exact .refused tidy splitedAmount
          | some after =>
              obtain ⟨plan, back, stored, storedBack, rfl⟩ := doItemsMove_some swapped
              exact ⟨conserved_swap player plans tidy exchangeable stored storedBack,
                .inr (.inr ⟨_, _, plan, back, whole,
                  swapped_items player plans tidy exchangeable stored storedBack⟩)⟩

theorem result_moveSplit (plans : context.PlayerPlans) (tidy : state.Tidy context)
    (ends : Ends state src dest) {slot : InventorySlot}
    (found : state.items.getItemByPos src.owner src.pos = some slot) {splitedAmount : Nat}
    (part : splitedAmount ≠ 0) (enough : splitedAmount ≤ slot.item.count) :
    Result context state (state.moveSplit context player src dest slot.item splitedAmount) src
      dest splitedAmount := by
  unfold BankState.moveSplit
  dsimp only
  cases moved : { state with nextItemGuid := state.nextItemGuid + 1 }.doItemsMove context player
      src dest (state.cloneItem context slot.item splitedAmount) none splitedAmount with
  | none =>
      have younger : { state with nextItemGuid := state.nextItemGuid + 1 }.Tidy context :=
        Inventory.Tidy.younger tidy
      exact ⟨⟨younger, fun _ => rfl⟩, .inl rfl⟩
  | some after =>
      obtain ⟨conserved, plan, moves⟩ :=
        moved_split plans ends.destExists ends.keys tidy found part enough moved
      have amount : requested slot.item splitedAmount = splitedAmount := if_neg part
      rw [← amount] at moves
      exact ⟨conserved, .inr (.inl ⟨_, plan, moves⟩)⟩

theorem result_moveItems (plans : context.PlayerPlans) (tidy : state.Tidy context)
    (ends : Ends state src dest) (splitedAmount : Nat) :
    Result context state (state.moveItems context player src dest splitedAmount) src dest
      splitedAmount := by
  unfold BankState.moveItems
  cases init : state.initItem context src with
  | none => exact .refused tidy splitedAmount
  | some item =>
      obtain ⟨slot, found, rfl⟩ := initItem_of_some init
      dsimp only
      by_cases tooMany : slot.item.count < splitedAmount
      · rw [if_pos tooMany]
        exact .refused tidy splitedAmount
      rw [if_neg tooMany]
      by_cases noStore : (!state.bank.hasStoreRights player dest.data src.data) = true
      · rw [if_pos noStore]
        exact .refused tidy splitedAmount
      rw [if_neg noStore]
      by_cases noWithdraw : (!state.bank.hasWithdrawRights player src.data dest.data) = true
      · rw [if_pos noWithdraw]
        exact .refused tidy splitedAmount
      rw [if_neg noWithdraw]
      by_cases whole : splitedAmount = slot.item.count
      · rw [if_pos whole, if_neg (not_not_intro rfl)]
        apply result_moveWhole plans tidy ends found init
        unfold requested
        rw [whole]
        exact ite_self _
      · rw [if_neg whole]
        by_cases none : splitedAmount = 0
        · rw [if_neg (not_not_intro none)]
          exact result_moveWhole plans tidy ends found init (if_pos none)
        · rw [if_pos none]
          exact result_moveSplit plans tidy ends found none (Nat.not_lt.mp tooMany)

theorem result_swapItems (plans : context.PlayerPlans) (tidy : state.Tidy context)
    (tabId slotId destTabId destSlotId splitedAmount : Nat) :
    Result context state
      (state.swapItems context player tabId slotId destTabId destSlotId splitedAmount)
      (.bank tabId slotId) (.bank destTabId destSlotId) splitedAmount := by
  unfold BankState.swapItems
  by_cases noSlots : (state.bank.purchasedTabs ≤ tabId || guildBankMaxSlots ≤ slotId ||
      state.bank.purchasedTabs ≤ destTabId || guildBankMaxSlots ≤ destSlotId) = true
  · rw [if_pos noSlots]
    exact .refused tidy splitedAmount
  rw [if_neg noSlots]
  simp only [Bool.or_eq_true, decide_eq_true_eq, not_or, Nat.not_le] at noSlots
  by_cases same : (tabId = destTabId && slotId = destSlotId) = true
  · rw [if_pos same]
    exact .refused tidy splitedAmount
  rw [if_neg same]
  apply result_moveItems plans tidy
  exact {
    keys := by
      intro key
      obtain ⟨sameTab, sameSlot⟩ := Prod.mk.inj key
      exact same (by simpa using ⟨sameTab, sameSlot⟩)
    srcExists := .inl noSlots.1.1.2
    destExists := .inl noSlots.2
    sameTab := by
      intro sameTab
      have same : tabId = destTabId := sameTab
      exact ⟨tabId, slotId, destSlotId, rfl, by rw [same]⟩ }

theorem ends_withInventory {tabId slotId : Nat} (playerPos : Nat)
    (tabExists : tabId < state.bank.purchasedTabs)
    (slotExists : slotId < guildBankMaxSlots ∨ slotId = nullSlot) :
    Ends state (.bank tabId slotId) (.player playerPos) ∧
      Ends state (.player playerPos) (.bank tabId slotId) := by
  have differs : tabId ≠ character := by
    intro same
    have most := state.bank.purchased_le
    rw [same] at tabExists
    exact absurd (tabExists.trans_le most) (by decide)
  constructor
  · exact {
      keys := fun key => differs (Prod.mk.inj key).1
      srcExists := slotExists
      destExists := trivial
      sameTab := fun same => absurd same differs }
  · exact {
      keys := fun key => differs (Prod.mk.inj key).1.symm
      srcExists := trivial
      destExists := slotExists
      sameTab := fun same => absurd same.symm differs }

theorem result_swapItemsWithInventory (plans : context.PlayerPlans) (tidy : state.Tidy context)
    (toChar : Bool) (tabId slotId playerPos splitedAmount : Nat) :
    Result context state
      (state.swapItemsWithInventory context player toChar tabId slotId playerPos splitedAmount)
      (if toChar then .bank tabId slotId else .player playerPos)
      (if toChar then .player playerPos else .bank tabId slotId) splitedAmount := by
  unfold BankState.swapItemsWithInventory
  by_cases noSlot : ((guildBankMaxSlots ≤ slotId && slotId ≠ nullSlot) ||
      state.bank.purchasedTabs ≤ tabId) = true
  · rw [if_pos noSlot]
    exact .refused tidy splitedAmount
  rw [if_neg noSlot]
  simp only [Bool.or_eq_true, Bool.and_eq_true, decide_eq_true_eq, not_or, not_and, Nat.not_le,
    not_not] at noSlot
  have slotExists : slotId < guildBankMaxSlots ∨ slotId = nullSlot :=
    (Nat.lt_or_ge slotId guildBankMaxSlots).imp_right noSlot.1
  obtain ⟨toPlayer, fromPlayer⟩ := ends_withInventory playerPos noSlot.2 slotExists
  cases toChar with
  | true => exact result_moveItems plans tidy toPlayer splitedAmount
  | false => exact result_moveItems plans tidy fromPlayer splitedAmount

theorem result_handleGuildBankSwapItems (plans : context.PlayerPlans)
    (tidy : state.Tidy context) (packet : SwapPacket) :
    Result context state (state.handleGuildBankSwapItems context player packet) packet.source
      packet.destination packet.splitedAmount := by
  cases packet with
  | bankToBank destTabId destSlotId tabId slotId splitedAmount =>
      exact result_swapItems plans tidy _ _ _ _ _
  | autoStore tabId slotId => exact result_swapItemsWithInventory plans tidy true _ _ _ _
  | inventory tabId slotId playerPos toChar splitedAmount =>
      unfold BankState.handleGuildBankSwapItems
      dsimp only
      split_ifs
      · exact .refused tidy splitedAmount
      · exact result_swapItemsWithInventory plans tidy toChar _ _ _ _

/-- The requests of a player, one after the other. -/
def BankState.handlePackets (state : BankState) (context : MoveContext) (player : Nat)
    (packets : List SwapPacket) : BankState :=
  packets.foldl (fun state => state.handleGuildBankSwapItems context player) state

theorem conserved_handlePackets (plans : context.PlayerPlans) (tidy : state.Tidy context)
    (packets : List SwapPacket) :
    Conserved context state (state.handlePackets context player packets) := by
  apply List.foldlRecOn packets _ (Conserved.refl tidy)
  intro before conserved packet _
  have step : Conserved context before
      (before.handleGuildBankSwapItems context player packet) :=
    (result_handleGuildBankSwapItems plans conserved.tidy packet).1
  exact {
    tidy := step.tidy
    pieces := fun kind => (step.pieces kind).trans (conserved.pieces kind) }

/--
Whatever a player asks for, now and after other requests, the pieces of every
kind are kept, no stack grows above its limit and no item is in two places; the
request is refused, transfers its amount after a plan, or swaps two items.
-/
theorem handleGuildBankSwapItems_conserves (plans : context.PlayerPlans)
    (tidy : state.Tidy context) (packets : List SwapPacket) (packet : SwapPacket) :
    let before := state.handlePackets context player packets
    Conserved context state before ∧
      Result context before (before.handleGuildBankSwapItems context player packet)
        packet.source packet.destination packet.splitedAmount := by
  have conserved : Conserved context state (state.handlePackets context player packets) :=
    conserved_handlePackets plans tidy packets
  exact ⟨conserved, result_handleGuildBankSwapItems plans conserved.tidy packet⟩

end Requests

/-- Stacks hold 20; the inventory takes an item in an empty position only. -/
def coinContext : MoveContext where
  maxStackCount _ := 20
  isSoulBound _ := false
  isNotEmptyBag _ := false
  canBeTraded _ := true
  isInventoryPos _ := true
  canStoreItem items pos item _ :=
    if items.getItemByPos character pos = none ∧ pos ≠ nullPos ∧ item.count ≤ 20 then
      some [⟨pos, item.count⟩]
    else none

/-- Two stacks of one kind, ten and fifteen, in the first two slots of a tab. -/
def coinTab : BankState where
  bank :=
    { roster :=
        { leaderGuid := 1
          ranks := []
          members := [{ guid := 1, rankId := grGuildmaster }]
          rows := { leaderGuid := some 1, ranks := [], members := [] }
          guilded := [1]
          characters := [1]
          disbanded := false }
      rightsAndSlots := fun _ _ => { rights := guildBankRightFull, slots := 0 }
      purchasedTabs := 1
      purchased_le := by decide
      bankMoney := 0
      bankWithdraw := fun _ _ => 0
      withdrawals := [] }
  items :=
    [{ owner := 0, pos := 0, item := { guid := 1, entry := 7, count := 10 } },
     { owner := 0, pos := 1, item := { guid := 2, entry := 7, count := 15 } }]
  nextItemGuid := 3

theorem coinContext_plans : coinContext.PlayerPlans := by
  intro items pos item swap dest stored
  unfold coinContext at stored
  dsimp only at stored
  split_ifs at stored with free
  rw [← Option.some.inj stored]
  exact {
    positions := List.nodup_singleton _
    total := Nat.add_zero _
    limit := by simpa [coinContext] using free.2.2
    room := by simp [free.1] }

theorem coinTab_tidy : coinTab.Tidy coinContext where
  positions := by
    unfold Sound coinTab
    decide
  guids := by decide
  older := by decide
  limits := by
    unfold coinTab coinContext
    decide

/-- Four coins go to the inventory of the guild master. -/
theorem coinTab_conserves :
    Conserved coinContext coinTab (coinTab.handlePackets coinContext 1 []) ∧
      Result coinContext coinTab
        (coinTab.handleGuildBankSwapItems coinContext 1 (.inventory 0 0 65303 true 4))
        (.bank 0 0) (.player 65303) 4 ∧
      (coinTab.handleGuildBankSwapItems coinContext 1
        (.inventory 0 0 65303 true 4)).items.piecesAt 7 character 65303 = 4 := by
  have conserves := @handleGuildBankSwapItems_conserves coinContext 1 coinTab coinContext_plans
    coinTab_tidy [] (.inventory 0 0 65303 true 4)
  exact ⟨conserves.1, conserves.2, by decide⟩

/--
The second slot has room for five of the ten coins; the other five go to the
first free slot, which is the one they were taken from.
-/
theorem coinTab_transfersHalf :
    coinContext.PlayerPlans ∧ coinTab.Tidy coinContext ∧
      (let packet := SwapPacket.bankToBank 0 1 0 0 0
      let after := coinTab.handleGuildBankSwapItems coinContext 1 packet
      let amount := requested { guid := 1, entry := 7, count := 10 } packet.splitedAmount
      ¬ (after.items = coinTab.items ∨
        (after.items.piecesAt 7 0 0 + amount = coinTab.items.piecesAt 7 0 0 ∧
          after.items.piecesAt 7 0 1 = coinTab.items.piecesAt 7 0 1 + amount) ∨
        (after.items.piecesAt 7 0 0 = coinTab.items.piecesAt 7 0 1 ∧
          after.items.piecesAt 7 0 1 = coinTab.items.piecesAt 7 0 0)) ∧
      after.items.piecesAt 7 0 0 = 5 ∧ after.items.piecesAt 7 0 1 = 20) :=
  ⟨coinContext_plans, coinTab_tidy, by decide +kernel⟩

end RealmServer.Guilds.BankMoves
