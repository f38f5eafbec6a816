import RealmServer.Auctions.Shape

/-!
# The gold of the auction house

Gold is in the purses of the players, on the mails, and in the bids of the
auctions which are still open.  A handler moves it between the three; `Deal`
records what it writes into each, and the sums over a house follow from that.
-/

namespace RealmServer.Auctions

open Table Players AuctionHouse

variable (config : AuctionConfig)

instance (house : AuctionHouse) (pointer : Pointer) :
    Decidable (house.removalQueued pointer) :=
  inferInstanceAs (Decidable (_ ∈ house.queue))

/-! ## Charges -/

/-- The purses after the charges of a log. -/
def pay (players : List PlayerMoney) (charges : List MoneyLogEntry) : List PlayerMoney :=
  charges.foldl
    (fun players charge => modifyPurse players charge.player (-toInt32 charge.amount))
    players

/-- The player of the charge has that much. -/
def Affordable (players : List PlayerMoney) (charge : MoneyLogEntry) : Prop :=
  ∃ purse ∈ players, purse.guid = charge.player ∧ charge.amount ≤ purse.money

theorem purses_pay {players : List PlayerMoney} (sound : SoundPurses players)
    {charge : MoneyLogEntry} (affordable : Affordable players charge) :
    goldIn (pay players [charge]) + charge.amount = goldIn players := by
  obtain ⟨purse, member, owner, enough⟩ := affordable
  have taken := modifyMoney_charge enough (sound.wealth purse member)
  have gold := goldIn_modifyPurse sound member taken
  rw [owner] at gold
  show goldIn (modifyPurse players charge.player (-toInt32 charge.amount)) + _ = _
  omega

theorem soundPurses_pay {players : List PlayerMoney} (sound : SoundPurses players)
    {charge : MoneyLogEntry} (affordable : Affordable players charge) :
    SoundPurses (pay players [charge]) := by
  obtain ⟨purse, member, owner, enough⟩ := affordable
  have wealth := sound.wealth purse member
  have less : purse.money - charge.amount ≤ maxMoneyAmount :=
    (Nat.sub_le _ _).trans wealth
  show SoundPurses (modifyPurse players charge.player (-toInt32 charge.amount))
  rw [← owner]
  exact sound.modifyPurse member (modifyMoney_charge enough wealth) less

/-- `HasEnoughMoney` for a player who is in the world. -/
theorem affordable_of_moneyOf {house : AuctionHouse} (sound : SoundPurses house.players)
    {charge : MoneyLogEntry}
    (present : contains PlayerMoney.guid house.players charge.player = true)
    (enough : charge.amount ≤ house.moneyOf charge.player) :
    Affordable house.players charge := by
  obtain ⟨purse, member, owner⟩ := contains_iff.mp present
  refine ⟨purse, member, owner, ?_⟩
  rw [moneyOf, ← owner, moneyIn_of_mem sound member] at enough
  exact enough

/-- A charge is taken from the purse in full. -/
theorem moneyOf_pay {house next : AuctionHouse} (sound : SoundPurses house.players)
    {charge : MoneyLogEntry} (affordable : Affordable house.players charge)
    (players : next.players = pay house.players [charge]) :
    next.moneyOf charge.player + charge.amount = house.moneyOf charge.player := by
  obtain ⟨purse, member, owner, enough⟩ := affordable
  have paid := moneyIn_modifyPurse sound member
    (modifyMoney_charge enough (sound.wealth purse member))
  have before := moneyIn_of_mem sound member
  rw [owner] at paid before
  have after : next.moneyOf charge.player = purse.money - charge.amount := by
    rw [moneyOf, players]
    exact paid
  rw [after, moneyOf, before]
  exact Nat.sub_add_cancel enough

/-! ## Sums over a house -/

/-- The bid of an entry of the chosen kind. -/
def stake (select : AuctionEntry → Bool) (entry : AuctionEntry) : Nat :=
  if select entry then entry.bid else 0

namespace AuctionHouse

variable (house : AuctionHouse)

def purses : Nat := goldIn house.players

def mailSum (weight : AuctionMail → Nat) : Nat := (house.mails.map weight).sum

def logSum (weight : MoneyLogEntry → Nat) : Nat := (house.moneyLog.map weight).sum

/-- The bids of open auctions: those in the house whose removal is not queued. -/
def stakes (select : AuctionEntry → Bool) : Nat :=
  (house.heap.map fun heapEntry =>
    if house.removalQueued heapEntry.pointer then 0 else stake select heapEntry.entry).sum

/-- All gold: purses, mails, and the bids of open auctions which have a bidder. -/
def totalGold : Nat :=
  house.purses + house.mailSum AuctionMail.money +
    house.stakes fun entry => entry.bidder ≠ 0

end AuctionHouse

theorem stakes_congr {house next : AuctionHouse} (heap : next.heap = house.heap)
    (queued : ∀ pointer, next.removalQueued pointer ↔ house.removalQueued pointer)
    (select : AuctionEntry → Bool) : next.stakes select = house.stakes select := by
  unfold stakes
  rw [heap]
  simp only [queued]

section Stakes

variable {house : AuctionHouse} (wellFormed : WellFormed house)
  {heapEntry : HeapEntry} (live : heapEntry ∈ house.heap)
  (notQueued : ¬ house.removalQueued heapEntry.pointer)

include wellFormed live notQueued

theorem stakes_setEntry (entry : AuctionEntry) (select : AuctionEntry → Bool) :
    (house.setEntry heapEntry.pointer entry).stakes select +
        stake select heapEntry.entry =
      house.stakes select + stake select entry := by
  have sum := sum_modify wellFormed.pointers live
    (fun heapEntry => { heapEntry with entry }) fun heapEntry =>
      if house.removalQueued heapEntry.pointer then 0 else stake select heapEntry.entry
  simp only [if_neg notQueued] at sum
  exact sum

theorem stakes_queueRemoval (select : AuctionEntry → Bool) :
    (house.queueEvent (.removeAuction heapEntry.pointer)).stakes select +
        stake select heapEntry.entry =
      house.stakes select := by
  let before : HeapEntry → Nat := fun other =>
    if house.removalQueued other.pointer then 0 else stake select other.entry
  let after : HeapEntry → Nat := fun other =>
    if (house.queueEvent (.removeAuction heapEntry.pointer)).removalQueued other.pointer
    then 0 else stake select other.entry
  have others : ∀ other ∈ house.heap, other.pointer ≠ heapEntry.pointer →
      after other = before other := by
    intro other _ differs
    simp only [after, before, removalQueued_of_queueEvent, or_iff_left differs]
  have atEntry : after heapEntry = 0 :=
    if_pos (removalQueued_of_queueEvent.mpr (.inr rfl))
  have agree := sum_agree wellFormed.pointers live others
  have beforeEntry : before heapEntry = stake select heapEntry.entry := if_neg notQueued
  rw [atEntry, beforeEntry] at agree
  exact agree

theorem stakes_removeAuction {slot : AuctionSlot}
    (pointer : heapEntry.pointer = slot.pointer) (select : AuctionEntry → Bool) :
    (house.removeAuction slot).stakes select + stake select heapEntry.entry =
      house.stakes select := by
  have sum := sum_erase wellFormed.pointers live fun heapEntry =>
    if house.removalQueued heapEntry.pointer then 0 else stake select heapEntry.entry
  rw [if_neg notQueued, pointer] at sum
  exact sum

end Stakes

/-! ## Deals -/

/-- The bid of an auction, if there is one. -/
def stakeOf (select : AuctionEntry → Bool) : Option AuctionEntry → Nat
  | none => 0
  | some entry => stake select entry

/--
A step which sends `mails`, makes `charges`, and puts the open auction `new` in
the place of `old`.
-/
structure Deal (old new : Option AuctionEntry) (mails : List AuctionMail)
    (charges : List MoneyLogEntry) (house next : AuctionHouse) : Prop where
  mails : next.mails = house.mails ++ mails
  moneyLog : next.moneyLog = house.moneyLog ++ charges
  players : next.players = pay house.players charges
  stakes : ∀ select, next.stakes select + stakeOf select old =
    house.stakes select + stakeOf select new

theorem Deal.mailSum {old new : Option AuctionEntry} {mails : List AuctionMail}
    {charges : List MoneyLogEntry} {house next : AuctionHouse}
    (deal : Deal old new mails charges house next) (weight : AuctionMail → Nat) :
    next.mailSum weight = house.mailSum weight + (mails.map weight).sum := by
  unfold AuctionHouse.mailSum
  rw [deal.mails, List.map_append, List.sum_append]

theorem Deal.logSum {old new : Option AuctionEntry} {mails : List AuctionMail}
    {charges : List MoneyLogEntry} {house next : AuctionHouse}
    (deal : Deal old new mails charges house next) (weight : MoneyLogEntry → Nat) :
    next.logSum weight = house.logSum weight + (charges.map weight).sum := by
  unfold AuctionHouse.logSum
  rw [deal.moneyLog, List.map_append, List.sum_append]

/-- At most one charge, which its player can afford. -/
def ChargesAffordable (players : List PlayerMoney) (charges : List MoneyLogEntry) : Prop :=
  charges = [] ∨ ∃ charge, charges = [charge] ∧ Affordable players charge

theorem Deal.purses {old new : Option AuctionEntry} {mails : List AuctionMail}
    {charges : List MoneyLogEntry} {house next : AuctionHouse}
    (deal : Deal old new mails charges house next) (sound : SoundPurses house.players)
    (affordable : ChargesAffordable house.players charges) :
    next.purses + (charges.map MoneyLogEntry.amount).sum = house.purses := by
  unfold AuctionHouse.purses
  rw [deal.players]
  rcases affordable with rfl | ⟨charge, rfl, affordable⟩
  · rfl
  · exact purses_pay sound affordable

theorem Deal.soundPurses {old new : Option AuctionEntry} {mails : List AuctionMail}
    {charges : List MoneyLogEntry} {house next : AuctionHouse}
    (deal : Deal old new mails charges house next) (sound : SoundPurses house.players)
    (affordable : ChargesAffordable house.players charges) :
    SoundPurses next.players := by
  rw [deal.players]
  rcases affordable with rfl | ⟨charge, rfl, affordable⟩
  · exact sound
  · exact soundPurses_pay sound affordable

/-- The total changes by what is sent, charged and staked. -/
theorem Deal.totalGold {old new : Option AuctionEntry} {mails : List AuctionMail}
    {charges : List MoneyLogEntry} {house next : AuctionHouse}
    (deal : Deal old new mails charges house next) (sound : SoundPurses house.players)
    (affordable : ChargesAffordable house.players charges) :
    next.totalGold + (charges.map MoneyLogEntry.amount).sum +
        stakeOf (fun entry => entry.bidder ≠ 0) old =
      house.totalGold + (mails.map AuctionMail.money).sum +
        stakeOf (fun entry => entry.bidder ≠ 0) new := by
  have purses := deal.purses sound affordable
  have mailGold := deal.mailSum AuctionMail.money
  have stakes := deal.stakes fun entry => entry.bidder ≠ 0
  unfold AuctionHouse.totalGold
  omega

/-! ## The account of one bidder -/

def MoneyLogType.isBid : MoneyLogType → Bool
  | .ahBid | .ahBidUpdate | .ahBuyout | .ahBuyoutBid => true
  | .ahSell | .ahCancel => false

section Account

variable (auctionId player : Nat)

def paidBy (charge : MoneyLogEntry) : Nat :=
  if charge.auctionId = auctionId ∧ charge.player = player ∧ charge.type.isBid then
    charge.amount
  else 0

def refundTo (mail : AuctionMail) : Nat :=
  if mail.auctionId = auctionId ∧ mail.receiver = player ∧
      (mail.answer = .outbidded ∨ mail.answer = .cancelledToBidder) then
    mail.money
  else 0

/-- The price of a win; the mail names it. -/
def wonBy (mail : AuctionMail) : Nat :=
  if mail.auctionId = auctionId ∧ mail.receiver = player ∧ mail.answer = .won then
    mail.body.bid
  else 0

def isHighestBid (entry : AuctionEntry) : Bool :=
  entry.id = auctionId && entry.bidder = player

end Account

/-- What a bidder paid for an auction was refunded, was the price, or is his open bid. -/
def Balanced (house : AuctionHouse) : Prop :=
  ∀ auctionId player, player ≠ 0 →
    house.logSum (paidBy auctionId player) =
      house.mailSum (refundTo auctionId player) + house.mailSum (wonBy auctionId player) +
        house.stakes (isHighestBid auctionId player)

theorem Deal.balanced {old new : Option AuctionEntry} {mails : List AuctionMail}
    {charges : List MoneyLogEntry} {house next : AuctionHouse}
    (deal : Deal old new mails charges house next) (balanced : Balanced house)
    (accounts : ∀ auctionId player, player ≠ 0 →
      (charges.map (paidBy auctionId player)).sum +
          stakeOf (isHighestBid auctionId player) old =
        (mails.map (refundTo auctionId player)).sum +
          (mails.map (wonBy auctionId player)).sum +
            stakeOf (isHighestBid auctionId player) new) : Balanced next := by
  intro auctionId player real
  have before := balanced auctionId player real
  have account := accounts auctionId player real
  have stakes := deal.stakes (isHighestBid auctionId player)
  rw [deal.logSum, deal.mailSum, deal.mailSum]
  omega

end RealmServer.Auctions
