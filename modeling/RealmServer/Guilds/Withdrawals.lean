import RealmServer.Lib.Transition
import RealmServer.Players.Purse
import RealmServer.Guilds.Roster

/-!
# Daily limits of the guild bank

A member has one counter for money and one for each tab; a rank has a limit for
each.  The counters are `uint32` sums which are read as `int32`, and the one for
money also grows while the member is guild master.  Withdrawals are recorded,
so that the counters can be compared with what was really taken.
-/

namespace RealmServer.Guilds

open Table Transition Players

def guildBankMaxTabs : Nat := 6

def grRightWithdrawRepair : UInt32 := 0x40000
def grRightWithdrawGold : UInt32 := 0x80000

def guildBankRightViewTab : UInt8 := 0x1
def guildBankRightDepositItem : UInt8 := guildBankRightViewTab ||| 0x2
def guildBankRightFull : UInt8 := 0xFF

def guildWithdrawSlotUnlimited : UInt32 := 0xFFFFFFFF

structure GuildBankRightsAndSlots where
  rights : UInt8
  slots : UInt32
deriving DecidableEq, Repr

/-- A withdrawal which was allowed, with the limit of the rank at that moment. -/
structure Withdrawal where
  guid : Nat
  /-- `GUILD_BANK_MAX_TABS` for money. -/
  tabId : Nat
  amount : Nat
  rankId : Nat
  limit : Nat
deriving DecidableEq, Repr

structure GuildBank where
  roster : Roster
  /-- `m_bankTabRightsAndSlots` of a rank. -/
  rightsAndSlots : Nat → Nat → GuildBankRightsAndSlots
  purchasedTabs : Nat
  purchased_le : purchasedTabs ≤ guildBankMaxTabs
  bankMoney : Nat
  /-- `m_bankWithdraw` of a member. -/
  bankWithdraw : Nat → Nat → Nat
  /-- The withdrawals of the day, the last one first. -/
  withdrawals : List Withdrawal

namespace GuildBank

/-! ## Limits and what is left of them -/

def getRankBankMoneyPerDay (bank : GuildBank) (rankId : Nat) : Nat :=
  match bank.roster.getRankInfo rankId with
  | some rankInfo => rankInfo.bankMoneyPerDay.toNat
  | none => 0

def getRankBankTabSlotsPerDay (bank : GuildBank) (rankId tabId : Nat) : Nat :=
  if tabId < bank.purchasedTabs then
    match bank.roster.getRankInfo rankId with
    | some _ =>
        if tabId < guildBankMaxTabs then (bank.rightsAndSlots rankId tabId).slots.toNat else 0
    | none => 0
  else 0

def getRankBankTabRights (bank : GuildBank) (rankId tabId : Nat) : UInt8 :=
  match bank.roster.getRankInfo rankId with
  | some _ => if tabId < guildBankMaxTabs then (bank.rightsAndSlots rankId tabId).rights else 0
  | none => 0

/-- What a rank may take from a tab, or of money. -/
def limit (bank : GuildBank) (rankId tabId : Nat) : Nat :=
  if tabId = guildBankMaxTabs then bank.getRankBankMoneyPerDay rankId
  else bank.getRankBankTabSlotsPerDay rankId tabId

/-- Unlimited for the guild master: both constants are `-1` as an `int32`. -/
def getBankWithdrawValue (bank : GuildBank) (member : Member) (tabId : Nat) : Int :=
  if member.isRank grGuildmaster then
    if tabId = guildBankMaxTabs then toInt32 guildWithdrawMoneyUnlimited.toNat
    else toInt32 guildWithdrawSlotUnlimited.toNat
  else toInt32 (bank.bankWithdraw member.guid tabId)

/-- The difference of limit and counter, an `int32`. -/
def remaining (bank : GuildBank) (member : Member) (tabId : Nat) : Int :=
  Int.bmod (toInt32 (bank.limit member.rankId tabId) -
    bank.getBankWithdrawValue member tabId) (2 ^ 32)

def getMemberRemainingSlots (bank : GuildBank) (member : Option Member) (tabId : Nat) :
    Int :=
  match member with
  | none => 0
  | some member =>
      if member.rankId = grGuildmaster then toInt32 guildWithdrawSlotUnlimited.toNat
      else if bank.getRankBankTabRights member.rankId tabId &&& guildBankRightViewTab ≠ 0 ∧
          0 < bank.remaining member tabId then
        bank.remaining member tabId
      else 0

def getMemberRemainingMoney (bank : GuildBank) (member : Member) : Int :=
  if member.rankId = grGuildmaster then toInt32 guildWithdrawMoneyUnlimited.toNat
  else if bank.roster.getRankRights member.rankId &&&
        (grRightWithdrawRepair ||| grRightWithdrawGold) ≠ 0 ∧
      0 < bank.remaining member guildBankMaxTabs then
    bank.remaining member guildBankMaxTabs
  else 0

/-! ## Counters -/

def updateBankWithdrawValue (bank : GuildBank) (guid tabId amount : Nat) : GuildBank :=
  { bank with
    bankWithdraw := Function.update bank.bankWithdraw guid
      (Function.update (bank.bankWithdraw guid) tabId
        ((bank.bankWithdraw guid tabId + amount) % 2 ^ 32)) }

def record (bank : GuildBank) (member : Member) (tabId amount : Nat) : GuildBank :=
  { bank with
    withdrawals :=
      { guid := member.guid, tabId, amount, rankId := member.rankId
        limit := bank.limit member.rankId tabId } :: bank.withdrawals }

/-- One more item, unless the counter has reached the limit. -/
def updateMemberWithdrawSlots (bank : GuildBank) (guid tabId : Nat) : GuildBank :=
  match bank.roster.getMember guid with
  | none => bank
  | some member =>
      if member.rankId ≠ grGuildmaster ∧
          bank.getBankWithdrawValue member tabId <
            toInt32 (bank.limit member.rankId tabId) then
        bank.updateBankWithdrawValue member.guid tabId 1
      else bank

/-! ## Money -/

/-- `purse` is the gold of the player, who may not be able to hold more. -/
def handleMemberWithdrawMoney (bank : GuildBank) (player purse amount : Nat)
    (repair : Bool) : GuildBank :=
  let amount := min amount maxMoneyAmount
  if bank.bankMoney < amount then bank
  else
    match bank.roster.getMember player with
    | none => bank
    | some member =>
        if bank.getMemberRemainingMoney member % 2 ^ 32 < amount then bank
        else if repair = false ∧ modifyMoney purse (toInt32 amount) = none then bank
        else
          { (bank.record member guildBankMaxTabs amount).updateBankWithdrawValue
              member.guid guildBankMaxTabs amount with
            bankMoney := bank.bankMoney - amount }

/-- Of nothing there is no withdrawal. -/
def handleGuildBankWithdrawMoney (bank : GuildBank) (player purse money : Nat) :
    GuildBank :=
  if money = 0 then bank else bank.handleMemberWithdrawMoney player purse money false

/-- `DurabilityRepair` with gold of the guild; a repair costs at least one copper. -/
def durabilityRepair (bank : GuildBank) (player purse costs : Nat) : GuildBank :=
  bank.handleMemberWithdrawMoney player purse (if costs = 0 then 1 else costs) true

def handleMemberDepositMoney (bank : GuildBank) (amount : Nat) : GuildBank :=
  { bank with bankMoney := (bank.bankMoney + amount) % 2 ^ 64 }

end GuildBank

/-! ## Items -/

/-- One end of a move. -/
inductive MoveItemData where
  | bank (tabId : Nat)
  | player
deriving DecidableEq, Repr

/-- A move of an item, with what it finds at both ends. -/
structure MoveRequest where
  player : Nat
  source : MoveItemData
  dest : MoveItemData
  /-- A part of a stack, which never swaps. -/
  split : Bool
  /-- `InitItem`, `CheckItem` and `CloneItem` of the source. -/
  sourceFound : Bool
  /-- `CanStore` of the destination. -/
  fits : Bool
  /-- `InitItem` of the destination. -/
  destFound : Bool
  /-- `CanStore` of both ends in a swap. -/
  swapFits : Bool

namespace GuildBank

def memberHasTabRights (bank : GuildBank) (guid tabId : Nat) (rights : UInt8) : Bool :=
  match bank.roster.getMember guid with
  | none => false
  | some member =>
      member.isRank grGuildmaster || bank.roster.leaderGuid == guid ||
        bank.getRankBankTabRights member.rankId tabId &&& rights == rights

def hasStoreRights (bank : GuildBank) (player : Nat) : MoveItemData → MoveItemData → Bool
  | .player, _ => true
  | .bank tabId, other =>
      other == .bank tabId || bank.memberHasTabRights player tabId guildBankRightDepositItem

def hasWithdrawRights (bank : GuildBank) (player : Nat) :
    MoveItemData → MoveItemData → Bool
  | .player, _ => true
  | .bank tabId, other =>
      other == .bank tabId ||
        bank.getMemberRemainingSlots (bank.roster.getMember player) tabId != 0

/-- `RemoveItem` counts what leaves a tab. -/
def removeItem (bank : GuildBank) (player : Nat) (place other : MoveItemData) : GuildBank :=
  match place with
  | .player => bank
  | .bank tabId =>
      if other = .bank tabId then bank
      else
        match bank.roster.getMember player with
        | none => bank
        | some member =>
            (bank.record member tabId 1).updateMemberWithdrawSlots player tabId

def moveItems (bank : GuildBank) (request : MoveRequest) : GuildBank :=
  let moved := bank.removeItem request.player request.source request.dest
  if !request.sourceFound then bank
  else if !bank.hasStoreRights request.player request.dest request.source then bank
  else if !bank.hasWithdrawRights request.player request.source request.dest then bank
  else if request.fits then moved
  else if request.split || !request.destFound then bank
  else if !bank.hasStoreRights request.player request.source request.dest then bank
  else if !bank.hasWithdrawRights request.player request.dest request.source then bank
  else if request.swapFits then moved.removeItem request.player request.dest request.source
  else bank

/-- Only tabs which were bought. -/
def placeExists (bank : GuildBank) : MoveItemData → Bool
  | .player => true
  | .bank tabId => tabId < bank.purchasedTabs

/-- `SwapItems` and `SwapItemsWithInventory`. -/
def swapItems (bank : GuildBank) (request : MoveRequest) : GuildBank :=
  if bank.placeExists request.source && bank.placeExists request.dest then
    bank.moveItems request
  else bank

/-! ## Ranks -/

/-- `_SetRankBankTabRightsAndSlots` for the tabs which were bought. -/
def setRankBankTabs (bank : GuildBank) (rankId : Nat)
    (tabs : Nat → GuildBankRightsAndSlots) : GuildBank :=
  match bank.roster.getRankInfo rankId with
  | none => bank
  | some rankInfo =>
      { bank with
        rightsAndSlots := Function.update bank.rightsAndSlots rankId fun tabId =>
          if bank.purchasedTabs ≤ tabId then bank.rightsAndSlots rankId tabId
          else if rankInfo.rankId = grGuildmaster then
            { rights := guildBankRightFull, slots := guildWithdrawSlotUnlimited }
          else tabs tabId }

def handleSetRankInfo (bank : GuildBank) (player rankId : Nat) (name : String)
    (rights money : UInt32) (tabs : Nat → GuildBankRightsAndSlots) : GuildBank :=
  if !bank.roster.isLeader player then bank
  else
    { bank with
      roster := bank.roster.handleSetRankInfo player rankId name rights money
      }.setRankBankTabs rankId tabs

end GuildBank

inductive BankEvent where
  | withdrawMoney (player purse money : Nat)
  | repair (player purse costs : Nat)
  | depositMoney (amount : Nat)
  | swapItems (request : MoveRequest)
  | setLeader (player target : Nat)
  | updateMemberRank (player target : Nat) (demote : Bool)
  | changeMemberRank (guid newRank : Nat)
  | setRankInfo (player rankId : Nat) (name : String) (rights money : UInt32)
      (tabs : Nat → GuildBankRightsAndSlots)

namespace GuildBank

def step (bank : GuildBank) : BankEvent → GuildBank
  | .withdrawMoney player purse money =>
      bank.handleGuildBankWithdrawMoney player purse money
  | .repair player purse costs => bank.durabilityRepair player purse costs
  | .depositMoney amount => bank.handleMemberDepositMoney amount
  | .swapItems request => bank.swapItems request
  | .setLeader player target =>
      { bank with roster := bank.roster.handleSetLeader player target }
  | .updateMemberRank player target demote =>
      { bank with roster := bank.roster.handleUpdateMemberRank player target demote }
  | .changeMemberRank guid newRank =>
      { bank with roster := bank.roster.changeMemberRank guid newRank }
  | .setRankInfo player rankId name rights money tabs =>
      bank.handleSetRankInfo player rankId name rights money tabs

end GuildBank

/-! ## What was withdrawn -/

/-- The withdrawals of a member from a tab, as guild master or not. -/
def taken (withdrawals : List Withdrawal) (guid tabId : Nat) : Nat :=
  (withdrawals.map fun withdrawal =>
    if withdrawal.guid = guid ∧ withdrawal.tabId = tabId then withdrawal.amount else 0).sum

/-- Those he made while he was not guild master. -/
def takenAsMember (withdrawals : List Withdrawal) (guid tabId : Nat) : Nat :=
  taken (withdrawals.filter fun withdrawal => withdrawal.rankId ≠ grGuildmaster) guid tabId

/-- At each withdrawal the total so far is within the limit of that moment. -/
def Within : List Withdrawal → Prop
  | [] => True
  | last :: earlier =>
      (last.rankId ≠ grGuildmaster →
        takenAsMember (last :: earlier) last.guid last.tabId ≤ last.limit) ∧ Within earlier

/-- The tab which an end of a move is taken from. -/
def MoveItemData.tabs : MoveItemData → MoveItemData → List Nat
  | .player, _ => []
  | .bank tabId, other => if other = .bank tabId then [] else [tabId]

/-- The tabs a move asks for; the destination only gives something in a swap. -/
def MoveRequest.tabs (request : MoveRequest) : List Nat :=
  request.source.tabs request.dest ++
    if !request.fits && !request.split && request.destFound then
      request.dest.tabs request.source
    else []

/-- Whose counters an event asks for, and which. -/
def BankEvent.asks : BankEvent → List (Nat × Nat)
  | .withdrawMoney player _ _ => [(player, guildBankMaxTabs)]
  | .repair player _ _ => [(player, guildBankMaxTabs)]
  | .swapItems request => request.tabs.map fun tabId => (request.player, tabId)
  | _ => []

/--
The difference of limit and counter does not leave the `int32`: the money of the
day is at most `2 ^ 31` above the limit, and a limit of items is an `int32` itself
or far above the counter.
-/
def CounterFits (bank : GuildBank) (member : Member) (tabId : Nat) : Prop :=
  if tabId = guildBankMaxTabs then
    taken bank.withdrawals member.guid tabId ≤ bank.limit member.rankId tabId + 2 ^ 31
  else
    bank.limit member.rankId tabId < 2 ^ 31 ∨
      bank.bankWithdraw member.guid tabId + 2 ^ 31 ≤ bank.limit member.rankId tabId

/-- A property of the counters an event asks for, unless the guild master asks. -/
def ForAsked (property : GuildBank → Member → Nat → Prop) (bank : GuildBank)
    (event : BankEvent) : Prop :=
  ∀ player tabId, (player, tabId) ∈ event.asks →
    ∀ member, bank.roster.getMember player = some member →
      member.rankId ≠ grGuildmaster → property bank member tabId

/-- What is left, with what was taken, is within the limit. -/
def RemainingSound (bank : GuildBank) (member : Member) (tabId : Nat) : Prop :=
  tabId ≤ guildBankMaxTabs → 0 < bank.remaining member tabId →
    takenAsMember bank.withdrawals member.guid tabId + bank.remaining member tabId ≤
      bank.limit member.rankId tabId

/-- The counters of the members and the recorded withdrawals. -/
structure Counted (bank : GuildBank) : Prop where
  money : ∀ guid, bank.bankWithdraw guid guildBankMaxTabs =
    taken bank.withdrawals guid guildBankMaxTabs % 2 ^ 32
  slots : ∀ guid tabId, tabId < guildBankMaxTabs →
    bank.bankWithdraw guid tabId = takenAsMember bank.withdrawals guid tabId
  small : ∀ guid tabId, tabId < guildBankMaxTabs → bank.bankWithdraw guid tabId < 2 ^ 31
  within : Within bank.withdrawals

theorem takenAsMember_le (withdrawals : List Withdrawal) (guid tabId : Nat) :
    takenAsMember withdrawals guid tabId ≤ taken withdrawals guid tabId :=
  (List.filter_sublist.map _).sum_le_sum fun _ _ => Nat.zero_le _

theorem taken_cons (withdrawal : Withdrawal) (earlier : List Withdrawal)
    (guid tabId : Nat) :
    taken (withdrawal :: earlier) guid tabId =
      (if withdrawal.guid = guid ∧ withdrawal.tabId = tabId then withdrawal.amount else 0) +
        taken earlier guid tabId := by
  unfold taken
  rw [List.map_cons, List.sum_cons]

theorem takenAsMember_cons_master {withdrawal : Withdrawal}
    (master : withdrawal.rankId = grGuildmaster) (earlier : List Withdrawal)
    (guid tabId : Nat) :
    takenAsMember (withdrawal :: earlier) guid tabId =
      takenAsMember earlier guid tabId := by
  unfold takenAsMember
  rw [List.filter_cons_of_neg (by simpa using master)]

theorem takenAsMember_cons_member {withdrawal : Withdrawal}
    (notMaster : withdrawal.rankId ≠ grGuildmaster) (earlier : List Withdrawal)
    (guid tabId : Nat) :
    takenAsMember (withdrawal :: earlier) guid tabId =
      (if withdrawal.guid = guid ∧ withdrawal.tabId = tabId then withdrawal.amount else 0) +
        takenAsMember earlier guid tabId := by
  unfold takenAsMember
  rw [List.filter_cons_of_pos (by simpa using notMaster), taken_cons]

/-! ## What is left -/

section Remaining

variable {bank : GuildBank}

theorem limit_lt (bank : GuildBank) (rankId tabId : Nat) :
    bank.limit rankId tabId < 2 ^ 32 := by
  unfold GuildBank.limit GuildBank.getRankBankMoneyPerDay GuildBank.getRankBankTabSlotsPerDay
  cases bank.roster.getRankInfo rankId with
  | none =>
      dsimp only
      split_ifs <;> decide
  | some rankInfo =>
      have money := rankInfo.bankMoneyPerDay.toNat_lt
      have slots := (bank.rightsAndSlots rankId tabId).slots.toNat_lt
      dsimp only
      split_ifs <;> omega

theorem withdrawValue_of_member {member : Member} (notMaster : member.rankId ≠ grGuildmaster)
    (tabId : Nat) :
    bank.getBankWithdrawValue member tabId =
      toInt32 (bank.bankWithdraw member.guid tabId) := by
  unfold GuildBank.getBankWithdrawValue Member.isRank
  rw [if_neg (by simpa using notMaster)]

theorem remainingMoney_le (counted : Counted bank) {member : Member}
    (notMaster : member.rankId ≠ grGuildmaster)
    (fits : CounterFits bank member guildBankMaxTabs) :
    taken bank.withdrawals member.guid guildBankMaxTabs +
      bank.remaining member guildBankMaxTabs ≤ bank.limit member.rankId guildBankMaxTabs := by
  have small := limit_lt bank member.rankId guildBankMaxTabs
  unfold CounterFits at fits
  rw [if_pos rfl] at fits
  unfold GuildBank.remaining
  rw [withdrawValue_of_member notMaster, counted.money]
  unfold toInt32
  rw [Int.bmod_sub_bmod, Int.sub_bmod_bmod, Int.bmod_def]
  omega

/-- Items are left when the counter is below a limit which is an `int32`. -/
theorem remainingSlots_pos (counted : Counted bank) {member : Member}
    (notMaster : member.rankId ≠ grGuildmaster) {tabId : Nat}
    (isTab : tabId < guildBankMaxTabs) (fits : CounterFits bank member tabId)
    (left : 0 < bank.remaining member tabId) :
    bank.limit member.rankId tabId < 2 ^ 31 ∧
      bank.bankWithdraw member.guid tabId + bank.remaining member tabId =
        bank.limit member.rankId tabId := by
  have small := limit_lt bank member.rankId tabId
  have counter := counted.small member.guid tabId isTab
  unfold CounterFits at fits
  rw [if_neg (Nat.ne_of_lt isTab)] at fits
  unfold GuildBank.remaining at left ⊢
  rw [withdrawValue_of_member notMaster] at left ⊢
  unfold toInt32 at left ⊢
  rw [Int.bmod_sub_bmod, Int.sub_bmod_bmod, Int.bmod_def] at left ⊢
  omega

theorem remaining_sound (counted : Counted bank) {member : Member}
    (notMaster : member.rankId ≠ grGuildmaster) {tabId : Nat}
    (fits : CounterFits bank member tabId) : RemainingSound bank member tabId := by
  intro isTab left
  rcases Nat.lt_or_eq_of_le isTab with isItems | rfl
  · have whole := (remainingSlots_pos counted notMaster isItems fits left).2
    rw [counted.slots member.guid tabId isItems] at whole
    exact whole.le
  · have whole := remainingMoney_le counted notMaster fits
    have fewer := takenAsMember_le bank.withdrawals member.guid guildBankMaxTabs
    omega

end Remaining

/-! ## The steps -/

section Steps

variable {bank : GuildBank} (counted : Counted bank)

include counted

theorem Counted.frame {next : GuildBank} (counters : next.bankWithdraw = bank.bankWithdraw)
    (withdrawals : next.withdrawals = bank.withdrawals) : Counted next := by
  constructor
  · rw [counters, withdrawals]
    exact counted.money
  · rw [counters, withdrawals]
    exact counted.slots
  · rw [counters]
    exact counted.small
  · rw [withdrawals]
    exact counted.within

theorem Counted.takeMoney (member : Member) {amount : Nat}
    (allowed : member.rankId ≠ grGuildmaster →
      taken bank.withdrawals member.guid guildBankMaxTabs + amount ≤
        bank.limit member.rankId guildBankMaxTabs) :
    Counted ((bank.record member guildBankMaxTabs amount).updateBankWithdrawValue
      member.guid guildBankMaxTabs amount) := by
  have otherTabs : ∀ guid tabId, tabId < guildBankMaxTabs →
      takenAsMember ((bank.record member guildBankMaxTabs amount).withdrawals) guid tabId =
        takenAsMember bank.withdrawals guid tabId := by
    intro guid tabId isTab
    by_cases master : member.rankId = grGuildmaster
    · exact takenAsMember_cons_master master bank.withdrawals guid tabId
    · rw [show (bank.record member guildBankMaxTabs amount).withdrawals = _ :: _ from rfl,
        takenAsMember_cons_member master, if_neg, Nat.zero_add]
      rintro ⟨_, same⟩
      exact Nat.ne_of_gt isTab same
  have counters : ∀ guid tabId, tabId < guildBankMaxTabs →
      ((bank.record member guildBankMaxTabs amount).updateBankWithdrawValue
        member.guid guildBankMaxTabs amount).bankWithdraw guid tabId =
          bank.bankWithdraw guid tabId := by
    intro guid tabId isTab
    show Function.update bank.bankWithdraw member.guid _ guid tabId = _
    rw [Function.update_apply]
    split_ifs with same
    · rw [Function.update_of_ne (Nat.ne_of_lt isTab), same]
      rfl
    · rfl
  constructor
  · intro guid
    show Function.update bank.bankWithdraw member.guid _ guid guildBankMaxTabs =
      taken (_ :: bank.withdrawals) guid guildBankMaxTabs % 2 ^ 32
    rw [Function.update_apply, taken_cons]
    split_ifs with same taker taker
    · rw [Function.update_self]
      show (bank.bankWithdraw member.guid guildBankMaxTabs + amount) % 2 ^ 32 = _
      rw [counted.money, same, Nat.mod_add_mod, Nat.add_comm]
    · exact absurd ⟨same.symm, rfl⟩ taker
    · exact absurd taker.1.symm same
    · rw [counted.money, Nat.zero_add]
  · intro guid tabId isTab
    rw [counters guid tabId isTab, counted.slots guid tabId isTab]
    exact (otherTabs guid tabId isTab).symm
  · intro guid tabId isTab
    rw [counters guid tabId isTab]
    exact counted.small guid tabId isTab
  · refine ⟨?_, counted.within⟩
    intro notMaster
    have fewer := takenAsMember_le bank.withdrawals member.guid guildBankMaxTabs
    rw [takenAsMember_cons_member notMaster, if_pos ⟨rfl, rfl⟩]
    have room := allowed notMaster
    show amount + takenAsMember bank.withdrawals member.guid guildBankMaxTabs ≤
      bank.limit member.rankId guildBankMaxTabs
    omega

theorem Counted.handleMemberWithdrawMoney {player amount : Nat} (positive : 0 < amount)
    (fits : ∀ member, bank.roster.getMember player = some member →
      member.rankId ≠ grGuildmaster → CounterFits bank member guildBankMaxTabs)
    (purse : Nat) (repair : Bool) :
    Counted (bank.handleMemberWithdrawMoney player purse amount repair) := by
  have some : 0 < min amount maxMoneyAmount := by
    unfold maxMoneyAmount
    omega
  unfold GuildBank.handleMemberWithdrawMoney
  dsimp only
  split
  · exact counted
  · cases found : bank.roster.getMember player with
    | none => exact counted
    | some member =>
        dsimp only
        split_ifs with refused
        · exact counted
        · exact counted
        · refine (counted.takeMoney member ?_).frame rfl rfl
          intro notMaster
          have whole := remainingMoney_le counted notMaster (fits member found notMaster)
          unfold GuildBank.getMemberRemainingMoney at refused
          rw [if_neg notMaster] at refused
          split_ifs at refused <;> omega

theorem Counted.takeItem {player tabId : Nat} (isTab : tabId < guildBankMaxTabs)
    {member : Member} (found : bank.roster.getMember player = some member)
    (left : member.rankId ≠ grGuildmaster →
      bank.limit member.rankId tabId < 2 ^ 31 ∧
        bank.bankWithdraw member.guid tabId < bank.limit member.rankId tabId) :
    Counted ((bank.record member tabId 1).updateMemberWithdrawSlots player tabId) := by
  have money : ∀ guid, taken ((bank.record member tabId 1).withdrawals) guid
      guildBankMaxTabs = taken bank.withdrawals guid guildBankMaxTabs := by
    intro guid
    show taken (_ :: bank.withdrawals) guid guildBankMaxTabs = _
    rw [taken_cons, if_neg, Nat.zero_add]
    rintro ⟨_, same⟩
    exact Nat.ne_of_lt isTab same
  have isMember : (bank.record member tabId 1).roster.getMember player = some member := found
  unfold GuildBank.updateMemberWithdrawSlots
  rw [isMember]
  dsimp only
  by_cases master : member.rankId = grGuildmaster
  · rw [if_neg (fun counted => counted.1 master)]
    constructor
    · intro guid
      rw [money]
      exact counted.money guid
    · intro guid otherTab isTab
      show _ = takenAsMember (_ :: bank.withdrawals) guid otherTab
      rw [takenAsMember_cons_master master]
      exact counted.slots guid otherTab isTab
    · exact counted.small
    · exact ⟨fun notMaster => absurd master notMaster, counted.within⟩
  · obtain ⟨small, below⟩ := left master
    have less : (bank.record member tabId 1).getBankWithdrawValue member tabId <
        toInt32 ((bank.record member tabId 1).limit member.rankId tabId) := by
      rw [withdrawValue_of_member master]
      show toInt32 (bank.bankWithdraw member.guid tabId) <
        toInt32 (bank.limit member.rankId tabId)
      unfold toInt32
      rw [Int.bmod_def, Int.bmod_def]
      omega
    rw [if_pos ⟨master, less⟩]
    have counters : ∀ guid otherTab,
        ((bank.record member tabId 1).updateBankWithdrawValue member.guid tabId
          1).bankWithdraw guid otherTab =
            (if member.guid = guid ∧ tabId = otherTab then 1 else 0) +
              bank.bankWithdraw guid otherTab := by
      intro guid otherTab
      show Function.update bank.bankWithdraw member.guid _ guid otherTab = _
      rw [Function.update_apply]
      split_ifs with same both both
      · rw [both.2, Function.update_self]
        show (bank.bankWithdraw member.guid otherTab + 1) % 2 ^ 32 = _
        rw [same, ← both.2]
        omega
      · rw [Function.update_of_ne (fun sameTab => both ⟨same.symm, sameTab.symm⟩), same,
          Nat.zero_add]
        rfl
      · exact absurd both.1.symm same
      · rw [Nat.zero_add]
    constructor
    · intro guid
      rw [counters, if_neg, Nat.zero_add, counted.money]
      · exact congrArg (· % 2 ^ 32) (money guid).symm
      · rintro ⟨_, same⟩
        exact Nat.ne_of_lt isTab same
    · intro guid otherTab isOther
      rw [counters, counted.slots guid otherTab isOther]
      show _ = takenAsMember (_ :: bank.withdrawals) guid otherTab
      rw [takenAsMember_cons_member master]
    · intro guid otherTab isOther
      rw [counters]
      have counter := counted.small guid otherTab isOther
      split_ifs with same
      · rw [← same.1, ← same.2]
        omega
      · omega
    · refine ⟨?_, counted.within⟩
      intro _
      rw [takenAsMember_cons_member master, if_pos ⟨rfl, rfl⟩]
      show 1 + takenAsMember bank.withdrawals member.guid tabId ≤
        bank.limit member.rankId tabId
      rw [← counted.slots member.guid tabId isTab]
      omega

end Steps

/-- The tabs which an end of a move is taken from have items left for the player. -/
def SlotsLeft (bank : GuildBank) (player : Nat) (place other : MoveItemData) : Prop :=
  ∀ tabId ∈ place.tabs other, tabId < guildBankMaxTabs ∧
    ∀ member, bank.roster.getMember player = some member →
      member.rankId ≠ grGuildmaster →
        bank.limit member.rankId tabId < 2 ^ 31 ∧
          bank.bankWithdraw member.guid tabId < bank.limit member.rankId tabId

theorem mem_tabs {place other : MoveItemData} {tabId : Nat} :
    tabId ∈ place.tabs other ↔ place = .bank tabId ∧ other ≠ .bank tabId := by
  cases place with
  | player => simp [MoveItemData.tabs]
  | bank placeTab =>
      show tabId ∈ (if other = .bank placeTab then [] else [placeTab]) ↔ _
      split_ifs with same
      · simp only [List.not_mem_nil, MoveItemData.bank.injEq, ne_eq, false_iff, not_and,
          not_not]
        rintro rfl
        exact same
      · simp only [List.mem_singleton, MoveItemData.bank.injEq, ne_eq]
        constructor
        · rintro rfl
          exact ⟨rfl, same⟩
        · rintro ⟨rfl, _⟩
          rfl

theorem slotsLeft_of_rights {bank : GuildBank} (counted : Counted bank) {player : Nat}
    {place other : MoveItemData} (exist : bank.placeExists place = true)
    (rights : bank.hasWithdrawRights player place other = true)
    (fits : ∀ tabId ∈ place.tabs other, ∀ member,
      bank.roster.getMember player = some member →
        member.rankId ≠ grGuildmaster → CounterFits bank member tabId) :
    SlotsLeft bank player place other := by
  intro tabId asked
  obtain ⟨rfl, differs⟩ := mem_tabs.mp asked
  have bought : tabId < bank.purchasedTabs := by
    simpa [GuildBank.placeExists] using exist
  have isTab : tabId < guildBankMaxTabs := bought.trans_le bank.purchased_le
  refine ⟨isTab, ?_⟩
  intro member found notMaster
  have left : 0 < bank.remaining member tabId := by
    unfold GuildBank.hasWithdrawRights GuildBank.getMemberRemainingSlots at rights
    rw [found] at rights
    dsimp only at rights
    rw [if_neg notMaster] at rights
    split_ifs at rights with allowed
    · exact allowed.2
    · simp [differs] at rights
  have whole := remainingSlots_pos counted notMaster isTab
    (fits tabId asked member found notMaster) left
  exact ⟨whole.1, by omega⟩

theorem Counted.removeItem {bank : GuildBank} (counted : Counted bank) {player : Nat}
    {place other : MoveItemData} (left : SlotsLeft bank player place other) :
    Counted (bank.removeItem player place other) := by
  cases place with
  | player => exact counted
  | bank tabId =>
      unfold GuildBank.removeItem
      dsimp only
      split_ifs with same
      · exact counted
      · cases found : bank.roster.getMember player with
        | none => exact counted
        | some member =>
            obtain ⟨isTab, itemsLeft⟩ := left tabId (mem_tabs.mpr ⟨rfl, same⟩)
            exact counted.takeItem isTab found (itemsLeft member found)

/-- Taking from one end leaves the ranks and the counters of other tabs. -/
theorem removeItem_frame (bank : GuildBank) (player : Nat) (place other : MoveItemData) :
    (bank.removeItem player place other).roster = bank.roster ∧
      (∀ rankId tabId, (bank.removeItem player place other).limit rankId tabId =
        bank.limit rankId tabId) ∧
      ∀ guid tabId, place ≠ .bank tabId →
        (bank.removeItem player place other).bankWithdraw guid tabId =
          bank.bankWithdraw guid tabId := by
  cases place with
  | player => exact ⟨rfl, fun _ _ => rfl, fun _ _ _ => rfl⟩
  | bank placeTab =>
      unfold GuildBank.removeItem
      dsimp only
      split_ifs with same
      · exact ⟨rfl, fun _ _ => rfl, fun _ _ _ => rfl⟩
      · cases found : bank.roster.getMember player with
        | none => exact ⟨rfl, fun _ _ => rfl, fun _ _ _ => rfl⟩
        | some member =>
            have still : (bank.record member placeTab 1).roster.getMember player =
              some member := found
            unfold GuildBank.updateMemberWithdrawSlots
            dsimp only
            rw [still]
            dsimp only
            split_ifs with counts
            · refine ⟨rfl, fun _ _ => rfl, ?_⟩
              intro guid tabId differs
              show Function.update bank.bankWithdraw member.guid _ guid tabId = _
              rw [Function.update_apply]
              split_ifs with sameGuid
              · have otherTab : tabId ≠ placeTab := fun same => differs (same ▸ rfl)
                rw [Function.update_of_ne otherTab, sameGuid]
                rfl
              · rfl
            · exact ⟨rfl, fun _ _ => rfl, fun _ _ _ => rfl⟩

/-- In a swap the second end is checked before the first one is taken. -/
theorem SlotsLeft.removeItem {bank : GuildBank} {player : Nat} {source dest : MoveItemData}
    (left : SlotsLeft bank player dest source) :
    SlotsLeft (bank.removeItem player source dest) player dest source := by
  obtain ⟨roster, limits, counters⟩ := removeItem_frame bank player source dest
  intro tabId asked
  obtain ⟨isTab, itemsLeft⟩ := left tabId asked
  refine ⟨isTab, ?_⟩
  intro member found notMaster
  rw [roster] at found
  rw [limits, counters member.guid tabId (mem_tabs.mp asked).2]
  exact itemsLeft member found notMaster

theorem Counted.swapItems {bank : GuildBank} (counted : Counted bank)
    (request : MoveRequest) (fits : ForAsked CounterFits bank (.swapItems request)) :
    Counted (bank.swapItems request) := by
  unfold GuildBank.swapItems
  split
  case isFalse => exact counted
  case isTrue exist =>
    rw [Bool.and_eq_true] at exist
    have sourceFits : ∀ tabId ∈ request.source.tabs request.dest, ∀ member,
        bank.roster.getMember request.player = some member →
          member.rankId ≠ grGuildmaster → CounterFits bank member tabId := by
      intro tabId asked
      exact fits request.player tabId (List.mem_map_of_mem
        (List.mem_append_left _ asked))
    unfold GuildBank.moveItems
    dsimp only
    split_ifs with notFound noStore noWithdraw fit split store withdraw swap
    · exact counted
    · exact counted
    · exact counted
    · exact counted.removeItem
        (slotsLeft_of_rights counted exist.1 (by simpa using noWithdraw) sourceFits)
    · exact counted
    · exact counted
    · exact counted
    · have destFits : ∀ tabId ∈ request.dest.tabs request.source, ∀ member,
          bank.roster.getMember request.player = some member →
            member.rankId ≠ grGuildmaster → CounterFits bank member tabId := by
        intro tabId asked
        refine fits request.player tabId (List.mem_map_of_mem
          (List.mem_append_right _ ?_))
        have swaps : (!request.fits && !request.split && request.destFound) = true := by
          simp at fit split
          simp [fit, split]
        rw [if_pos swaps]
        exact asked
      have first := slotsLeft_of_rights counted exist.1 (by simpa using noWithdraw) sourceFits
      have second := slotsLeft_of_rights counted exist.2 (by simpa using withdraw) destFits
      exact (counted.removeItem first).removeItem second.removeItem
    · exact counted

theorem Counted.step {bank : GuildBank} (counted : Counted bank) (event : BankEvent)
    (fits : ForAsked CounterFits bank event) : Counted (bank.step event) := by
  cases event with
  | withdrawMoney player purse money =>
      show Counted (bank.handleGuildBankWithdrawMoney player purse money)
      unfold GuildBank.handleGuildBankWithdrawMoney
      split_ifs with nothing
      · exact counted
      · exact counted.handleMemberWithdrawMoney (Nat.pos_of_ne_zero nothing)
          (fits player guildBankMaxTabs (List.mem_singleton_self _)) purse false
  | repair player purse costs =>
      have positive : 0 < if costs = 0 then 1 else costs := by
        split_ifs <;> omega
      exact counted.handleMemberWithdrawMoney positive
        (fits player guildBankMaxTabs (List.mem_singleton_self _)) purse true
  | depositMoney amount => exact counted.frame rfl rfl
  | swapItems request => exact counted.swapItems request fits
  | setLeader player target => exact counted.frame rfl rfl
  | updateMemberRank player target demote => exact counted.frame rfl rfl
  | changeMemberRank guid newRank => exact counted.frame rfl rfl
  | setRankInfo player rankId name rights money tabs =>
      show Counted (bank.handleSetRankInfo player rankId name rights money tabs)
      unfold GuildBank.handleSetRankInfo GuildBank.setRankBankTabs
      split
      · exact counted
      · split
        · exact counted.frame rfl rfl
        · exact counted.frame rfl rfl

/-! ## A day -/

/-- After `ResetTimes`. -/
structure NewDay (bank : GuildBank) : Prop where
  counters : ∀ guid tabId, bank.bankWithdraw guid tabId = 0
  withdrawals : bank.withdrawals = []

theorem NewDay.counted {bank : GuildBank} (newDay : NewDay bank) : Counted bank := by
  constructor
  · intro guid
    rw [newDay.counters, newDay.withdrawals]
    rfl
  · intro guid tabId _
    rw [newDay.counters, newDay.withdrawals]
    rfl
  · intro guid tabId _
    rw [newDay.counters]
    decide
  · rw [newDay.withdrawals]
    trivial

/--
In a day in which the counters fit, every withdrawal of a member who is not guild
master is within the limit of his rank, and what is left is never too much.
-/
theorem limits_hold {bank : GuildBank} (newDay : NewDay bank) (events : List BankEvent)
    (fits : EveryStep GuildBank.step (ForAsked CounterFits) bank events) :
    Throughout GuildBank.step (fun bank => Within bank.withdrawals) bank events ∧
      EveryStep GuildBank.step (ForAsked RemainingSound) bank events := by
  have counted := newDay.counted
  constructor
  · exact (throughout_of_invariant (fun _ event counted => counted.step event) counted
      fits).mono fun _ counted => counted.within
  · apply everyStep_of_invariant (fun _ event counted => counted.step event) _ counted fits
    intro bank event counted fits player tabId asked member found notMaster
    exact remaining_sound counted notMaster
      (fits player tabId asked member found notMaster)

section Demoted

/-- Officers may take ten copper a day. -/
def officersBank : GuildBank where
  roster :=
    { leaderGuid := 1
      ranks :=
        [{ rankId := 0, name := "Guild Master", rights := grRightAll
           bankMoneyPerDay := guildWithdrawMoneyUnlimited },
         { rankId := 1, name := "Officer", rights := grRightAll, bankMoneyPerDay := 10 }]
      members := [{ guid := 1, rankId := 0 }, { guid := 2, rankId := 1 }]
      rows := { leaderGuid := some 1, ranks := [], members := [] }
      guilded := [1, 2], characters := [1, 2], disbanded := false }
  rightsAndSlots := fun _ _ => { rights := 0, slots := 0 }
  purchasedTabs := 0
  purchased_le := by decide
  bankMoney := 5000000000
  bankWithdraw := fun _ _ => 0
  withdrawals := []

theorem officersBank_newDay : NewDay officersBank := by
  constructor
  · intro guid tabId
    rfl
  · rfl

/-- The guild master takes more than `2 ^ 31` copper and steps down. -/
def stepsDown : List BankEvent :=
  [.withdrawMoney 1 0 2147483646, .withdrawMoney 1 0 200, .setLeader 1 2]

/-- As an officer he then takes a thousand copper. -/
theorem stepsDown_exceeds :
    ¬Throughout GuildBank.step (fun bank => Within bank.withdrawals) officersBank
      (stepsDown ++ [.withdrawMoney 1 0 1000]) := by
  have withdrawals :
      (run GuildBank.step officersBank (stepsDown ++ [.withdrawMoney 1 0 1000])).withdrawals =
        { guid := 1, tabId := 6, amount := 1000, rankId := 1, limit := 10 } ::
          (run GuildBank.step officersBank stepsDown).withdrawals := by
    decide
  have exceeds :
      ¬Within (run GuildBank.step officersBank
        (stepsDown ++ [.withdrawMoney 1 0 1000])).withdrawals := by
    rw [withdrawals]
    rintro ⟨last, _⟩
    have total := last (by decide)
    rw [takenAsMember_cons_member (by decide), if_pos ⟨rfl, rfl⟩] at total
    dsimp only at total
    omega
  rintro ⟨_, _, _, _, last⟩
  exact exceeds last

/-- Ten copper are within the limit. -/
theorem officersBank_limits_hold :
    Throughout GuildBank.step (fun bank => Within bank.withdrawals) officersBank
        [.withdrawMoney 2 0 10, .withdrawMoney 2 0 1] ∧
      EveryStep GuildBank.step (ForAsked RemainingSound) officersBank
        [.withdrawMoney 2 0 10, .withdrawMoney 2 0 1] := by
  apply limits_hold officersBank_newDay
  have fits : ∀ bank : GuildBank, ∀ money,
      (∀ member, bank.roster.getMember 2 = some member →
        taken bank.withdrawals member.guid guildBankMaxTabs ≤ 2 ^ 31) →
          ForAsked CounterFits bank (.withdrawMoney 2 0 money) := by
    intro bank money little player tabId asked member found _
    cases List.mem_singleton.mp asked
    unfold CounterFits
    rw [if_pos rfl]
    exact (little member found).trans (Nat.le_add_left _ _)
  refine ⟨fits _ _ ?_, fits _ _ ?_, trivial⟩
  · intro member _
    exact Nat.zero_le _
  · intro member found
    cases found
    decide

end Demoted

end RealmServer.Guilds
