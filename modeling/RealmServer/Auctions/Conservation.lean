import RealmServer.Auctions.Gold
import RealmServer.Auctions.Settlement

/-!
# Auction gold is conserved

When every receiver exists and a removal is executed before the next request,
every handler is a `Deal`.  The total of all gold then changes by the deposit
of a new auction, by the deposit and the cut of a sale, and by the cut of a
cancellation, and by nothing else; and the account of every bidder balances.
-/

namespace RealmServer.Auctions

open Table Players Transition AuctionHouse

variable (config : AuctionConfig)

/-! ## What the handlers write -/

/-- A handler whose receivers exist: the shape is kept, the rest is written down. -/
structure Books (mails : List AuctionMail) (charges : List MoneyLogEntry)
    (shaped next : AuctionHouse) : Prop where
  shape : SameShape shaped next
  mails : next.mails = shaped.mails ++ mails
  moneyLog : next.moneyLog = shaped.moneyLog ++ charges
  players : next.players = pay shaped.players charges
  aItems : next.aItems = shaped.aItems

/-- The bidder before gets his money back, unless he is the one who bids. -/
def bidRefunds (entry : AuctionEntry) (player : Nat) : List AuctionMail :=
  if entry.bidder = 0 ∨ entry.bidder = player then [] else [outbiddedMail config entry]

/-- Who raises his own bid is charged the difference. -/
def bidCharge (entry : AuctionEntry) (request : BidRequest) : MoneyLogEntry :=
  if entry.bidder = request.player then
    { player := request.player, type := .ahBidUpdate, auctionId := entry.id,
      amount := sub32 request.price entry.bid }
  else
    { player := request.player, type := .ahBid, auctionId := entry.id,
      amount := request.price }

def buyoutCharge (entry : AuctionEntry) (player : Nat) : MoneyLogEntry :=
  if player = entry.bidder then
    { player, type := .ahBuyoutBid, auctionId := entry.id,
      amount := sub32 entry.buyout entry.bid }
  else
    { player, type := .ahBuyout, auctionId := entry.id, amount := entry.buyout }

def cancelMails (entry : AuctionEntry) : List AuctionMail :=
  if entry.bidder = 0 then [returnMail .canceled entry]
  else [cancelledToBidderMail entry, returnMail .canceled entry]

def cancelCharges (entry : AuctionEntry) (player : Nat) : List MoneyLogEntry :=
  if entry.bidder = 0 then []
  else
    [{ player, type := .ahCancel, auctionId := entry.id,
       amount := config.auctionCut entry }]

section Handlers

variable (context : RequestContext) (house : AuctionHouse) {heapEntry : HeapEntry}

theorem placeBid_books {request : BidRequest} (real : request.player ≠ 0)
    (bidder : heapEntry.entry.bidder ≠ 0 → context.known heapEntry.entry.bidder = true) :
    Books (bidRefunds config heapEntry.entry request.player)
      [bidCharge heapEntry.entry request]
      (house.setEntry heapEntry.pointer
        { heapEntry.entry with bidder := request.player, bid := request.price })
      (house.placeBid config context heapEntry request) := by
  unfold placeBid bidRefunds bidCharge
  dsimp only
  by_cases nobody : heapEntry.entry.bidder = 0
  · have other : heapEntry.entry.bidder ≠ request.player := nobody ▸ real.symm
    rw [if_neg (not_not_intro nobody), if_pos (.inl nobody), if_neg other]
    exact ⟨⟨rfl, rfl, rfl, rfl, rfl, rfl⟩, (List.append_nil _).symm, rfl, rfl, rfl⟩
  · rw [if_pos nobody]
    by_cases same : heapEntry.entry.bidder = request.player
    · rw [if_pos same, if_pos (.inr same), if_pos same]
      exact ⟨⟨rfl, rfl, rfl, rfl, rfl, rfl⟩, (List.append_nil _).symm, rfl, rfl, rfl⟩
    · rw [if_neg same, if_neg (not_or.mpr ⟨nobody, same⟩), if_neg same,
        sendAuctionOutbiddedMail, if_pos (bidder nobody)]
      exact ⟨⟨rfl, rfl, rfl, rfl, rfl, rfl⟩, rfl, rfl, rfl, rfl⟩

/-- With both receivers and the item there, a sale sends both mails. -/
theorem settleSale_books {entry : AuctionEntry} (now : Nat)
    (owner : context.known entry.owner = true)
    (bidder : context.known entry.bidder = true)
    (registered : house.aItems.contains entry.itemGUIDLow = true) :
    Books [successfulMail config entry, wonMail entry] [] house
      (house.settleSale config context entry now) := by
  unfold settleSale sendAuctionWonMail sendAuctionSuccessfulMail
  rw [if_pos owner]
  have stillRegistered : ((house.addPendingSale config entry now).sendMail
      (successfulMail config entry)).aItems.contains entry.itemGUIDLow = true := registered
  rw [stillRegistered, if_neg (by simp), if_pos bidder]
  refine ⟨⟨rfl, rfl, rfl, rfl, rfl, rfl⟩, ?_, (List.append_nil _).symm, rfl, rfl⟩
  exact List.append_assoc _ _ _

theorem Books.trans {first second third : AuctionHouse} {left right : List AuctionMail}
    {charges : List MoneyLogEntry} (before : Books left charges first second)
    (after : Books right [] second third) :
    Books (left ++ right) charges first third where
  shape := before.shape.trans after.shape
  mails := by rw [after.mails, before.mails, List.append_assoc]
  moneyLog := by rw [after.moneyLog, before.moneyLog, List.append_nil]
  players := by rw [after.players, before.players]; rfl
  aItems := after.aItems.trans before.aItems

theorem Books.setEntry {house next : AuctionHouse} {mails : List AuctionMail}
    {charges : List MoneyLogEntry} (books : Books mails charges house next)
    (pointer : Pointer) (entry : AuctionEntry) :
    Books mails charges (house.setEntry pointer entry) (next.setEntry pointer entry) where
  __ := books
  shape := { books.shape with
    heap := by
      unfold AuctionHouse.setEntry
      rw [books.shape.heap] }

theorem Books.removeAItem {house next : AuctionHouse} {mails : List AuctionMail}
    {charges : List MoneyLogEntry} (books : Books mails charges house next) (item : Nat) :
    Books mails charges (house.removeAItem item) (next.removeAItem item) where
  __ := books
  shape := ⟨books.shape.heap, books.shape.auctionsMap, books.shape.queue,
    books.shape.nextAuctionId, books.shape.nextPointer, books.shape.crashed⟩
  aItems := by
    unfold AuctionHouse.removeAItem
    rw [books.aItems]

theorem Books.queueEvent {house next : AuctionHouse} {mails : List AuctionMail}
    {charges : List MoneyLogEntry} (books : Books mails charges house next)
    (event : QueuedEvent) :
    Books mails charges (house.queueEvent event) (next.queueEvent event) where
  __ := books
  shape := { books.shape with
    queue := by
      unfold AuctionHouse.queueEvent
      rw [books.shape.queue] }

theorem Books.removeAuction {house next : AuctionHouse} {mails : List AuctionMail}
    {charges : List MoneyLogEntry} (books : Books mails charges house next)
    (slot : AuctionSlot) :
    Books mails charges (house.removeAuction slot) (next.removeAuction slot) where
  __ := books
  shape := { books.shape with
    heap := by
      unfold AuctionHouse.removeAuction
      rw [books.shape.heap]
    auctionsMap := by
      unfold AuctionHouse.removeAuction
      rw [books.shape.auctionsMap] }

theorem buyOut_books {request : BidRequest} (now : Nat)
    (owner : context.known heapEntry.entry.owner = true)
    (bidder : heapEntry.entry.bidder ≠ 0 → context.known heapEntry.entry.bidder = true)
    (buyer : context.known request.player = true)
    (registered : house.aItems.contains heapEntry.entry.itemGUIDLow = true) :
    Books
      (bidRefunds config heapEntry.entry request.player ++
        [successfulMail config (soldTo heapEntry.entry request.player),
          wonMail (soldTo heapEntry.entry request.player)])
      [buyoutCharge heapEntry.entry request.player]
      (((house.setEntry heapEntry.pointer
        (soldTo heapEntry.entry request.player)).removeAItem
          heapEntry.entry.itemGUIDLow).queueEvent (.removeAuction heapEntry.pointer))
      (house.buyOut config context heapEntry request now) := by
  have charged : Books (bidRefunds config heapEntry.entry request.player)
      [buyoutCharge heapEntry.entry request.player] house
      (if request.player = heapEntry.entry.bidder then
        house.charge request.player
          (sub32 heapEntry.entry.buyout heapEntry.entry.bid) .ahBuyoutBid
          heapEntry.entry.id
      else if heapEntry.entry.bidder ≠ 0 then
        (house.charge request.player heapEntry.entry.buyout .ahBuyout
          heapEntry.entry.id).sendAuctionOutbiddedMail config context heapEntry.entry
      else house.charge request.player heapEntry.entry.buyout .ahBuyout
        heapEntry.entry.id) := by
    unfold bidRefunds buyoutCharge
    by_cases same : request.player = heapEntry.entry.bidder
    · rw [if_pos same, if_pos (.inr same.symm), if_pos same]
      exact ⟨⟨rfl, rfl, rfl, rfl, rfl, rfl⟩, (List.append_nil _).symm, rfl, rfl, rfl⟩
    · rw [if_neg same, if_neg same]
      by_cases nobody : heapEntry.entry.bidder = 0
      · rw [if_neg (not_not_intro nobody), if_pos (.inl nobody)]
        exact ⟨⟨rfl, rfl, rfl, rfl, rfl, rfl⟩, (List.append_nil _).symm, rfl, rfl, rfl⟩
      · rw [if_pos nobody, if_neg (not_or.mpr ⟨nobody, Ne.symm same⟩),
          sendAuctionOutbiddedMail, if_pos (bidder nobody)]
        exact ⟨⟨rfl, rfl, rfl, rfl, rfl, rfl⟩, rfl, rfl, rfl, rfl⟩
  have rewritten := charged.setEntry heapEntry.pointer
    (soldTo heapEntry.entry request.player)
  have stillRegistered := registered
  rw [← charged.aItems] at stillRegistered
  apply Books.queueEvent
  apply Books.removeAItem
  apply rewritten.trans
  exact settleSale_books config context _ now owner buyer stillRegistered

theorem cancel_books {player : Nat}
    (bidder : heapEntry.entry.bidder ≠ 0 → context.known heapEntry.entry.bidder = true) :
    Books (cancelMails heapEntry.entry) (cancelCharges config heapEntry.entry player)
      ((house.removeAItem heapEntry.entry.itemGUIDLow).queueEvent
        (.removeAuction heapEntry.pointer))
      (house.cancel config context heapEntry player) := by
  unfold cancel cancelMails cancelCharges
  dsimp only
  by_cases nobody : heapEntry.entry.bidder = 0
  · rw [if_neg (not_not_intro nobody), if_pos nobody, if_pos nobody]
    exact ⟨⟨rfl, rfl, rfl, rfl, rfl, rfl⟩, rfl, (List.append_nil _).symm, rfl, rfl⟩
  · rw [if_pos nobody, if_neg nobody, if_neg nobody,
      sendAuctionCancelledToBidderMail, if_pos (bidder nobody)]
    exact ⟨⟨rfl, rfl, rfl, rfl, rfl, rfl⟩, List.append_assoc _ _ _, rfl, rfl, rfl⟩

theorem updateAuction_books (now : Nat) {slot : AuctionSlot}
    (found : house.deref slot.pointer = some heapEntry)
    (expired : isExpired heapEntry.entry now = true)
    (owner : context.known heapEntry.entry.owner = true)
    (bidder : heapEntry.entry.bidder ≠ 0 → context.known heapEntry.entry.bidder = true)
    (registered : house.aItems.contains heapEntry.entry.itemGUIDLow = true) :
    Books (expiryMails config heapEntry.entry) []
      ((house.removeAItem heapEntry.entry.itemGUIDLow).removeAuction slot)
      (house.updateAuction config context now slot) := by
  unfold updateAuction expiryMails
  rw [found]
  dsimp only
  rw [expired]
  by_cases nobody : heapEntry.entry.bidder = 0
  · have sent : Books [returnMail .expired heapEntry.entry] [] house
        (house.sendAuctionExpiredMail context heapEntry.entry) := by
      unfold sendAuctionExpiredMail
      rw [registered, if_neg (by simp), if_pos owner]
      exact ⟨⟨rfl, rfl, rfl, rfl, rfl, rfl⟩, rfl, (List.append_nil _).symm, rfl, rfl⟩
    rw [if_pos nobody, if_neg (by simp), if_pos nobody]
    exact (sent.removeAItem _).removeAuction slot
  · have sold := settleSale_books config context house now owner (bidder nobody) registered
    rw [if_neg nobody, if_neg (by simp), if_neg nobody]
    exact (sold.removeAItem _).removeAuction slot

end Handlers

/-! ## Solvent houses -/

/-- Purses, bids, deposits and items of open auctions are as the handlers leave them. -/
structure Solvent (house : AuctionHouse) : Prop where
  fair : Fair house
  purses : SoundPurses house.players
  bounded : ∀ heapEntry ∈ house.heap, heapEntry.entry.bid ≤ maxMoneyAmount ∧
    heapEntry.entry.deposit ≤ maxMoneyAmount
  /-- The item of an open auction is registered. -/
  registered : ∀ heapEntry ∈ house.heap, ¬ house.removalQueued heapEntry.pointer →
    heapEntry.entry.itemGUIDLow ∈ house.aItems
  items : ∀ left ∈ house.heap, ∀ right ∈ house.heap,
    ¬ house.removalQueued left.pointer → ¬ house.removalQueued right.pointer →
    left.entry.itemGUIDLow = right.entry.itemGUIDLow → left.pointer = right.pointer

/-- What a step does to gold, and that it stays within solvent houses. -/
structure Accounted (house next : AuctionHouse) (flow : Int) : Prop where
  solvent : Solvent next
  total : (next.totalGold : Int) = house.totalGold + flow
  balanced : Balanced house → Balanced next

/--
The entries after a step: an open one was open before, for the same item, and
the item is still registered.
-/
structure Keeps (house next : AuctionHouse) : Prop where
  bounded : ∀ heapEntry ∈ next.heap, heapEntry.entry.bid ≤ maxMoneyAmount ∧
    heapEntry.entry.deposit ≤ maxMoneyAmount
  origin : ∀ heapEntry ∈ next.heap, ¬ next.removalQueued heapEntry.pointer →
    ∃ old ∈ house.heap, ¬ house.removalQueued old.pointer ∧
      old.pointer = heapEntry.pointer ∧
      old.entry.itemGUIDLow = heapEntry.entry.itemGUIDLow ∧
      old.entry.itemGUIDLow ∈ next.aItems

theorem Solvent.next {house next : AuctionHouse} (solvent : Solvent house)
    (fair : Fair next) (purses : SoundPurses next.players) (keeps : Keeps house next) :
    Solvent next := by
  refine ⟨fair, purses, keeps.bounded, ?_, ?_⟩
  · intro heapEntry live isOpen
    obtain ⟨_, _, _, _, item, registered⟩ := keeps.origin heapEntry live isOpen
    exact item ▸ registered
  · intro left leftLive right rightLive leftOpen rightOpen same
    obtain ⟨leftOld, leftOldLive, leftOldOpen, leftPointer, leftItem, _⟩ :=
      keeps.origin left leftLive leftOpen
    obtain ⟨rightOld, rightOldLive, rightOldOpen, rightPointer, rightItem, _⟩ :=
      keeps.origin right rightLive rightOpen
    rw [← leftPointer, ← rightPointer]
    exact solvent.items leftOld leftOldLive rightOld rightOldLive leftOldOpen rightOldOpen
      ((leftItem.trans same).trans rightItem.symm)

/-- A deal is accounted for when its own lists balance. -/
theorem Solvent.accounted {house next : AuctionHouse} (solvent : Solvent house)
    {old new : Option AuctionEntry} {mails : List AuctionMail}
    {charges : List MoneyLogEntry} (deal : Deal old new mails charges house next)
    (fair : Fair next) (keeps : Keeps house next)
    (affordable : ChargesAffordable house.players charges) (flow : Int)
    (gold : ((mails.map AuctionMail.money).sum : Int) +
        stakeOf (fun entry => entry.bidder ≠ 0) new =
      (charges.map MoneyLogEntry.amount).sum +
        stakeOf (fun entry => entry.bidder ≠ 0) old + flow)
    (accounts : ∀ auctionId player, player ≠ 0 →
      (charges.map (paidBy auctionId player)).sum +
          stakeOf (isHighestBid auctionId player) old =
        (mails.map (refundTo auctionId player)).sum +
          (mails.map (wonBy auctionId player)).sum +
            stakeOf (isHighestBid auctionId player) new) :
    Accounted house next flow where
  solvent := solvent.next fair (deal.soundPurses solvent.purses affordable) keeps
  total := by
    have total := deal.totalGold solvent.purses affordable
    omega
  balanced := fun balanced => deal.balanced balanced accounts

theorem Accounted.refl {house : AuctionHouse} (solvent : Solvent house) :
    Accounted house house 0 :=
  ⟨solvent, (Int.add_zero _).symm, fun balanced => balanced⟩

theorem Accounted.trans {first second third : AuctionHouse} {before after : Int}
    (left : Accounted first second before) (right : Accounted second third after) :
    Accounted first third (before + after) where
  solvent := right.solvent
  total := by
    have leftTotal := left.total
    have rightTotal := right.total
    omega
  balanced := fun balanced => right.balanced (left.balanced balanced)

/-- Where the shape comes from, the rest of a deal is in the books. -/
theorem Books.deal (house : AuctionHouse) {shaped next : AuctionHouse}
    {mails : List AuctionMail}
    {charges : List MoneyLogEntry} (books : Books mails charges shaped next)
    (sameMails : shaped.mails = house.mails) (sameLog : shaped.moneyLog = house.moneyLog)
    (samePlayers : shaped.players = house.players) {old new : Option AuctionEntry}
    (stakes : ∀ select, shaped.stakes select + stakeOf select old =
      house.stakes select + stakeOf select new) :
    Deal old new mails charges house next where
  mails := by rw [books.mails, sameMails]
  moneyLog := by rw [books.moneyLog, sameLog]
  players := by rw [books.players, samePlayers]
  stakes := by
    have queued : ∀ pointer, next.removalQueued pointer ↔ shaped.removalQueued pointer := by
      intro pointer
      unfold removalQueued
      rw [books.shape.queue]
    intro select
    rw [stakes_congr books.shape.heap queued, stakes select]

theorem Books.keeps {house shaped next : AuctionHouse} {mails : List AuctionMail}
    {charges : List MoneyLogEntry} (books : Books mails charges shaped next)
    (keeps : Keeps house shaped) : Keeps house next where
  bounded := by
    rw [books.shape.heap]
    exact keeps.bounded
  origin := by
    unfold removalQueued
    rw [books.shape.heap, books.shape.queue, books.aItems]
    exact keeps.origin

/-! ### The entries which are kept -/

theorem Solvent.keeps_setEntry {house : AuctionHouse} (solvent : Solvent house)
    {heapEntry : HeapEntry} (live : heapEntry ∈ house.heap) {entry : AuctionEntry}
    (sameItem : entry.itemGUIDLow = heapEntry.entry.itemGUIDLow)
    (bounded : entry.bid ≤ maxMoneyAmount ∧ entry.deposit ≤ maxMoneyAmount) :
    Keeps house (house.setEntry heapEntry.pointer entry) := by
  constructor
  · intro other member
    rcases mem_setEntry.mp member with ⟨old, _⟩ | ⟨_, _, _, rfl⟩
    · exact solvent.bounded other old
    · exact bounded
  · intro other member isOpen
    rcases mem_setEntry.mp member with ⟨old, _⟩ | ⟨_, _, _, rfl⟩
    · exact ⟨other, old, isOpen, rfl, rfl, solvent.registered other old isOpen⟩
    · exact ⟨heapEntry, live, isOpen, rfl, sameItem.symm,
        solvent.registered heapEntry live isOpen⟩

/-- Closing an auction takes its item out of the registry, and no other open auction's. -/
theorem Solvent.keeps_closed {house next : AuctionHouse} (solvent : Solvent house)
    {heapEntry : HeapEntry} (live : heapEntry ∈ house.heap)
    (notQueued : ¬ house.removalQueued heapEntry.pointer)
    (aItems : next.aItems = (house.removeAItem heapEntry.entry.itemGUIDLow).aItems)
    (bounded : ∀ other ∈ next.heap, other.entry.bid ≤ maxMoneyAmount ∧
      other.entry.deposit ≤ maxMoneyAmount)
    (others : ∀ other ∈ next.heap, ¬ next.removalQueued other.pointer →
      other ∈ house.heap ∧ ¬ house.removalQueued other.pointer ∧
        other.pointer ≠ heapEntry.pointer) : Keeps house next := by
  refine ⟨bounded, ?_⟩
  intro other member isOpen
  obtain ⟨old, wasOpen, differs⟩ := others other member isOpen
  refine ⟨other, old, wasOpen, rfl, rfl, ?_⟩
  rw [aItems, removeAItem, List.mem_filter]
  refine ⟨solvent.registered other old wasOpen, decide_eq_true fun same => differs ?_⟩
  exact solvent.items other old heapEntry live wasOpen notQueued same

theorem Solvent.keeps_fewer {house next : AuctionHouse} (solvent : Solvent house)
    (aItems : next.aItems = house.aItems)
    (heap : ∀ other ∈ next.heap, other ∈ house.heap ∧
      (next.removalQueued other.pointer ↔ house.removalQueued other.pointer)) :
    Keeps house next := by
  constructor
  · intro other member
    exact solvent.bounded other (heap other member).1
  · intro other member isOpen
    obtain ⟨old, status⟩ := heap other member
    have wasOpen : ¬ house.removalQueued other.pointer :=
      fun queued => isOpen (status.mpr queued)
    exact ⟨other, old, wasOpen, rfl, rfl, aItems ▸ solvent.registered other old wasOpen⟩

/-! ## Each handler is accounted for -/

/-- What a sale adds to the gold in circulation. -/
def saleFlow (entry : AuctionEntry) : Int := entry.deposit - config.auctionCut entry

/-- The cut is never more than there is. -/
def CutWithin : Prop :=
  ∀ entry, config.auctionCut entry ≤ entry.bid + entry.deposit

theorem profit_eq {entry : AuctionEntry} (within : CutWithin config)
    (bid : entry.bid ≤ maxMoneyAmount) (deposit : entry.deposit ≤ maxMoneyAmount) :
    (profit config entry : Int) = entry.bid + saleFlow config entry := by
  have cut := within entry
  unfold maxMoneyAmount at bid deposit
  unfold profit saleFlow
  rw [sub32_of_le cut (by omega)]
  omega

section Refunds

variable (entry : AuctionEntry) (bidder auctionId player : Nat)

theorem bidRefunds_money :
    ((bidRefunds config entry bidder).map AuctionMail.money).sum =
      if entry.bidder = 0 ∨ entry.bidder = bidder then 0 else entry.bid := by
  unfold bidRefunds
  split_ifs <;> simp [outbiddedMail, AuctionEntry.mail]

theorem bidRefunds_refundTo :
    ((bidRefunds config entry bidder).map (refundTo auctionId player)).sum =
      if entry.bidder = 0 ∨ entry.bidder = bidder then 0
      else if entry.id = auctionId ∧ entry.bidder = player then entry.bid else 0 := by
  unfold bidRefunds
  split_ifs <;> simp_all [refundTo, outbiddedMail, AuctionEntry.mail]

theorem bidRefunds_wonBy :
    ((bidRefunds config entry bidder).map (wonBy auctionId player)).sum = 0 := by
  unfold bidRefunds
  split_ifs <;> simp [wonBy, outbiddedMail, AuctionEntry.mail]

end Refunds

section Bids

variable (entry : AuctionEntry) (request : BidRequest)

/-- A raise by the same player costs the difference, and any other bid its price. -/
theorem bidCharge_amount (higher : entry.bid < request.price)
    (price : request.price ≤ maxMoneyAmount) :
    (bidCharge entry request).amount =
      if entry.bidder = request.player then request.price - entry.bid
      else request.price := by
  unfold maxMoneyAmount at price
  unfold bidCharge
  split_ifs
  · exact sub32_of_le higher.le (by omega)
  · rfl

theorem bid_gold (real : request.player ≠ 0) (higher : entry.bid < request.price)
    (price : request.price ≤ maxMoneyAmount) :
    (((bidRefunds config entry request.player).map AuctionMail.money).sum : Int) +
        stake (fun entry => entry.bidder ≠ 0)
          { entry with bidder := request.player, bid := request.price } =
      (bidCharge entry request).amount + stake (fun entry => entry.bidder ≠ 0) entry := by
  rw [bidCharge_amount entry request higher price, bidRefunds_money]
  unfold stake
  simp only [decide_not, Bool.not_eq_true', decide_eq_false_iff_not, if_pos real]
  split_ifs <;> omega

theorem bid_account (auctionId : Nat) {player : Nat} (notEmpty : player ≠ 0)
    (higher : entry.bid < request.price) (price : request.price ≤ maxMoneyAmount) :
    paidBy auctionId player (bidCharge entry request) +
        stake (isHighestBid auctionId player) entry =
      ((bidRefunds config entry request.player).map (refundTo auctionId player)).sum +
        ((bidRefunds config entry request.player).map (wonBy auctionId player)).sum +
          stake (isHighestBid auctionId player)
            { entry with bidder := request.player, bid := request.price } := by
  have amount := bidCharge_amount entry request higher price
  have shape : (bidCharge entry request).auctionId = entry.id ∧
      (bidCharge entry request).player = request.player ∧
      (bidCharge entry request).type.isBid = true := by
    unfold bidCharge
    split_ifs <;> exact ⟨rfl, rfl, rfl⟩
  rw [bidRefunds_refundTo, bidRefunds_wonBy]
  unfold paidBy stake isHighestBid
  rw [amount, shape.1, shape.2.1, shape.2.2]
  simp only [Bool.and_eq_true, decide_eq_true_eq, and_true]
  by_cases about : entry.id = auctionId
  · simp only [about, true_and]
    split_ifs <;> omega
  · simp [about]

theorem buyoutCharge_amount (player : Nat) (below : entry.bid < entry.buyout)
    (buyout : entry.buyout ≤ maxMoneyAmount) :
    (buyoutCharge entry player).amount =
      if player = entry.bidder then entry.buyout - entry.bid else entry.buyout := by
  unfold maxMoneyAmount at buyout
  unfold buyoutCharge
  split_ifs
  · exact sub32_of_le below.le (by omega)
  · rfl

/-- The mails of a buyout, the refund first. -/
def buyoutMails (player : Nat) : List AuctionMail :=
  bidRefunds config entry player ++
    [successfulMail config (soldTo entry player), wonMail (soldTo entry player)]

theorem buyout_gold (within : CutWithin config) {player : Nat} (real : player ≠ 0)
    (below : entry.bid < entry.buyout) (buyout : entry.buyout ≤ maxMoneyAmount)
    (deposit : entry.deposit ≤ maxMoneyAmount) :
    (((buyoutMails config entry player).map AuctionMail.money).sum : Int) =
      (buyoutCharge entry player).amount + stake (fun entry => entry.bidder ≠ 0) entry +
        saleFlow config (soldTo entry player) := by
  have paid : (profit config (soldTo entry player) : Int) =
      entry.buyout + saleFlow config (soldTo entry player) :=
    profit_eq config within buyout deposit
  have sum : ((buyoutMails config entry player).map AuctionMail.money).sum =
      ((bidRefunds config entry player).map AuctionMail.money).sum +
        profit config (soldTo entry player) := by
    simp [buyoutMails, successfulMail, wonMail, AuctionEntry.mail]
  rw [sum, buyoutCharge_amount entry player below buyout, bidRefunds_money]
  unfold stake
  simp only [decide_not, Bool.not_eq_true', decide_eq_false_iff_not]
  split_ifs <;> omega

theorem buyout_account (auctionId bidder : Nat) {player : Nat} (notEmpty : player ≠ 0)
    (below : entry.bid < entry.buyout) (buyout : entry.buyout ≤ maxMoneyAmount) :
    paidBy auctionId player (buyoutCharge entry bidder) +
        stake (isHighestBid auctionId player) entry =
      ((buyoutMails config entry bidder).map (refundTo auctionId player)).sum +
        ((buyoutMails config entry bidder).map (wonBy auctionId player)).sum := by
  have amount := buyoutCharge_amount entry bidder below buyout
  have shape : (buyoutCharge entry bidder).auctionId = entry.id ∧
      (buyoutCharge entry bidder).player = bidder ∧
      (buyoutCharge entry bidder).type.isBid = true := by
    unfold buyoutCharge
    split_ifs <;> exact ⟨rfl, rfl, rfl⟩
  have refunds : ((buyoutMails config entry bidder).map (refundTo auctionId player)).sum =
      ((bidRefunds config entry bidder).map (refundTo auctionId player)).sum := by
    simp [buyoutMails, refundTo, successfulMail, wonMail, AuctionEntry.mail]
  have wins : ((buyoutMails config entry bidder).map (wonBy auctionId player)).sum =
      if entry.id = auctionId ∧ bidder = player then entry.buyout else 0 := by
    simp [buyoutMails, bidRefunds_wonBy, wonBy, successfulMail, wonMail, soldTo,
      AuctionEntry.mail]
  rw [refunds, wins, bidRefunds_refundTo]
  unfold paidBy stake isHighestBid
  rw [amount, shape.1, shape.2.1, shape.2.2]
  simp only [Bool.and_eq_true, decide_eq_true_eq, and_true]
  by_cases about : entry.id = auctionId
  · simp only [about, true_and]
    split_ifs <;> omega
  · simp [about]

/-- What an auction closed by the clock adds to the gold in circulation. -/
def expiryFlow : Int := if entry.bidder = 0 then 0 else saleFlow config entry

theorem expiry_gold (within : CutWithin config) (bid : entry.bid ≤ maxMoneyAmount)
    (deposit : entry.deposit ≤ maxMoneyAmount) :
    (((expiryMails config entry).map AuctionMail.money).sum : Int) =
      stake (fun entry => entry.bidder ≠ 0) entry + expiryFlow config entry := by
  have paid := profit_eq config within bid deposit
  unfold expiryMails stake expiryFlow
  by_cases nobody : entry.bidder = 0
  · simp [nobody, returnMail, AuctionEntry.mail]
  · simp [nobody, successfulMail, wonMail, AuctionEntry.mail, paid]

theorem expiry_account (auctionId : Nat) {player : Nat} (notEmpty : player ≠ 0) :
    stake (isHighestBid auctionId player) entry =
      ((expiryMails config entry).map (refundTo auctionId player)).sum +
        ((expiryMails config entry).map (wonBy auctionId player)).sum := by
  unfold expiryMails stake isHighestBid
  by_cases nobody : entry.bidder = 0
  · simp [nobody, notEmpty.symm, returnMail, AuctionEntry.mail, refundTo, wonBy]
  · simp [nobody, successfulMail, wonMail, AuctionEntry.mail, refundTo, wonBy]

/-- A cancellation costs the cut, if somebody has bid. -/
def cancelFlow : Int := if entry.bidder = 0 then 0 else -config.auctionCut entry

theorem cancel_gold (player : Nat) :
    (((cancelMails entry).map AuctionMail.money).sum : Int) =
      ((cancelCharges config entry player).map MoneyLogEntry.amount).sum +
        stake (fun entry => entry.bidder ≠ 0) entry + cancelFlow config entry := by
  unfold cancelMails cancelCharges stake cancelFlow
  by_cases nobody : entry.bidder = 0
  · simp [nobody, returnMail, AuctionEntry.mail]
  · simp [nobody, returnMail, cancelledToBidderMail, AuctionEntry.mail]

theorem cancel_account (auctionId : Nat) {owner player : Nat} (notEmpty : player ≠ 0) :
    ((cancelCharges config entry owner).map (paidBy auctionId player)).sum +
        stake (isHighestBid auctionId player) entry =
      ((cancelMails entry).map (refundTo auctionId player)).sum +
        ((cancelMails entry).map (wonBy auctionId player)).sum := by
  unfold cancelMails cancelCharges stake isHighestBid
  by_cases nobody : entry.bidder = 0
  · simp [nobody, notEmpty.symm, returnMail, AuctionEntry.mail, refundTo, wonBy]
  · simp [nobody, returnMail, cancelledToBidderMail, AuctionEntry.mail, refundTo, wonBy,
      paidBy, MoneyLogType.isBid]

end Bids

/-! ## The requests -/

/-- Every seller and bidder has a mailbox. -/
def ReceiversExist (context : RequestContext) (house : AuctionHouse) : Prop :=
  ∀ heapEntry ∈ house.heap, context.known heapEntry.entry.owner = true ∧
    (heapEntry.entry.bidder ≠ 0 → context.known heapEntry.entry.bidder = true)

/-- Every queued removal has been executed. -/
def NothingQueued (house : AuctionHouse) : Prop :=
  ∀ pointer, ¬ house.removalQueued pointer

theorem purse_of_bidAccepted {context : RequestContext} {house : AuctionHouse}
    (solvent : Solvent house) {entry : AuctionEntry} {request : BidRequest}
    (accepted : house.bidAccepted config context entry request = true) :
    ∃ purse ∈ house.players, purse.guid = request.player ∧
      request.price ≤ purse.money := by
  unfold bidAccepted at accepted
  simp only [Bool.and_eq_true, decide_eq_true_eq] at accepted
  obtain ⟨⟨⟨⟨⟨present, _⟩, _⟩, _⟩, _⟩, enough⟩ := accepted
  obtain ⟨purse, member, owner⟩ := contains_iff.mp present
  rw [moneyOf, ← owner, moneyIn_of_mem solvent.purses member] at enough
  exact ⟨purse, member, owner, enough⟩

section Requests

variable (context : RequestContext) {house : AuctionHouse}

theorem Solvent.placeBid (solvent : Solvent house) (receivers : ReceiversExist context house)
    {heapEntry : HeapEntry} (live : heapEntry ∈ house.heap)
    (notQueued : ¬ house.removalQueued heapEntry.pointer) {request : BidRequest}
    (accepted : house.bidAccepted config context heapEntry.entry request = true)
    (below : belowBuyout heapEntry.entry request.price = true) :
    Accounted house (house.placeBid config context heapEntry request) 0 := by
  have higher := price_of_bidAccepted config context accepted
  obtain ⟨purse, member, owner, enough⟩ := purse_of_bidAccepted config solvent accepted
  have real : request.player ≠ 0 := owner ▸ solvent.purses.real purse member
  have price : request.price ≤ maxMoneyAmount :=
    enough.trans (solvent.purses.wealth purse member)
  have books := placeBid_books config context house real (receivers heapEntry live).2
  have stakes := stakes_setEntry solvent.fair.wellFormed live notQueued
    { heapEntry.entry with bidder := request.player, bid := request.price }
  have deal : Deal (some heapEntry.entry) (some { heapEntry.entry with
      bidder := request.player, bid := request.price }) _ _ house _ :=
    books.deal house rfl rfl rfl stakes
  have charge : (bidCharge heapEntry.entry request).player = request.player ∧
      (bidCharge heapEntry.entry request).amount ≤ request.price := by
    have amount := bidCharge_amount heapEntry.entry request higher price
    constructor
    · unfold bidCharge
      split_ifs <;> rfl
    · rw [amount]
      split_ifs
      · exact Nat.sub_le _ _
      · exact le_rfl
  apply solvent.accounted deal
  · exact solvent.fair.placeBid config context live higher below
  · exact books.keeps (solvent.keeps_setEntry live rfl
      ⟨price, (solvent.bounded heapEntry live).2⟩)
  · exact .inr ⟨_, rfl, purse, member, owner.trans charge.1.symm, charge.2.trans enough⟩
  · simpa [stakeOf] using bid_gold config heapEntry.entry request real higher price
  · intro auctionId player notEmpty
    simpa [stakeOf] using
      bid_account config heapEntry.entry request auctionId notEmpty higher price

theorem stakes_buyOut (solvent : Solvent house) {heapEntry : HeapEntry}
    (live : heapEntry ∈ house.heap)
    (notQueued : ¬ house.removalQueued heapEntry.pointer) (entry : AuctionEntry)
    (sameId : entry.id = heapEntry.entry.id) (item : Nat) (select : AuctionEntry → Bool) :
    (((house.setEntry heapEntry.pointer entry).removeAItem item).queueEvent
        (.removeAuction heapEntry.pointer)).stakes select + stake select heapEntry.entry =
      house.stakes select := by
  have rewritten := stakes_setEntry solvent.fair.wellFormed live notQueued entry select
  have wellFormed := solvent.fair.wellFormed.setEntry live sameId
  have member : ({ pointer := heapEntry.pointer, entry } : HeapEntry) ∈
      (house.setEntry heapEntry.pointer entry).heap :=
    mem_setEntry.mpr (.inr ⟨heapEntry, live, rfl, rfl⟩)
  have queued : ((house.setEntry heapEntry.pointer entry).queueEvent
      (.removeAuction heapEntry.pointer)).stakes select + stake select entry =
        (house.setEntry heapEntry.pointer entry).stakes select :=
    stakes_queueRemoval wellFormed member notQueued select
  change ((house.setEntry heapEntry.pointer entry).queueEvent
    (.removeAuction heapEntry.pointer)).stakes select + _ = _
  omega

theorem Solvent.buyOut (solvent : Solvent house) (receivers : ReceiversExist context house)
    (within : CutWithin config) {slot : AuctionSlot} (inMap : slot ∈ house.auctionsMap)
    {heapEntry : HeapEntry} (live : heapEntry ∈ house.heap)
    (pointer : heapEntry.pointer = slot.pointer)
    (notQueued : ¬ house.removalQueued heapEntry.pointer) {request : BidRequest}
    (buyer : context.known request.player = true)
    (accepted : house.bidAccepted config context heapEntry.entry request = true)
    (above : belowBuyout heapEntry.entry request.price = false) (now : Nat) :
    Accounted house (house.buyOut config context heapEntry request now)
      (saleFlow config (soldTo heapEntry.entry request.player)) := by
  obtain ⟨purse, member, owner, enough⟩ := purse_of_bidAccepted config solvent accepted
  have real : request.player ≠ 0 := owner ▸ solvent.purses.real purse member
  have price : request.price ≤ maxMoneyAmount :=
    enough.trans (solvent.purses.wealth purse member)
  have notBelow : ¬ (request.price < heapEntry.entry.buyout ∨
      heapEntry.entry.buyout = 0) := by
    rw [← belowBuyout_iff, above]
    simp
  have limits := not_or.mp notBelow
  have below : heapEntry.entry.bid < heapEntry.entry.buyout :=
    (solvent.fair.unsettled heapEntry live notQueued).2.resolve_right limits.2
  have cheap : heapEntry.entry.buyout ≤ request.price := Nat.le_of_not_lt limits.1
  have bounded := solvent.bounded heapEntry live
  have registered : house.aItems.contains heapEntry.entry.itemGUIDLow = true :=
    List.contains_iff_mem.mpr (solvent.registered heapEntry live notQueued)
  have books := buyOut_books config context house now (receivers heapEntry live).1
    (receivers heapEntry live).2 buyer registered
  have stakes := stakes_buyOut solvent live notQueued
    (soldTo heapEntry.entry request.player) rfl heapEntry.entry.itemGUIDLow
  have deal : Deal (some heapEntry.entry) none _ _ house _ :=
    books.deal house rfl rfl rfl stakes
  have amount := buyoutCharge_amount heapEntry.entry request.player below
    (cheap.trans price)
  have charge : (buyoutCharge heapEntry.entry request.player).player = request.player ∧
      (buyoutCharge heapEntry.entry request.player).amount ≤ purse.money := by
    constructor
    · unfold buyoutCharge
      split_ifs <;> rfl
    · rw [amount]
      split_ifs <;> omega
  apply solvent.accounted deal
  · exact solvent.fair.buyOut config context inMap live pointer above notQueued now
  · apply books.keeps
    apply solvent.keeps_closed live notQueued
    · rfl
    · intro other otherLive
      rcases mem_setEntry.mp otherLive with ⟨old, _⟩ | ⟨_, _, _, rfl⟩
      · exact solvent.bounded other old
      · exact ⟨cheap.trans price, bounded.2⟩
    · intro other otherLive isOpen
      have status : ¬ (house.removalQueued other.pointer ∨
          other.pointer = heapEntry.pointer) := fun queued =>
        isOpen (removalQueued_of_queueEvent.mpr queued)
      rcases mem_setEntry.mp otherLive with ⟨old, differs⟩ | ⟨_, _, _, rfl⟩
      · exact ⟨old, (not_or.mp status).1, differs⟩
      · exact absurd (.inr rfl) status
  · exact .inr ⟨_, rfl, purse, member, owner.trans charge.1.symm, charge.2⟩
  · have gold := buyout_gold config heapEntry.entry within real below (cheap.trans price)
      bounded.2
    simpa [stakeOf, buyoutMails] using gold
  · intro auctionId player notEmpty
    have account := buyout_account config heapEntry.entry auctionId request.player notEmpty
      below (cheap.trans price)
    simpa [stakeOf, buyoutMails] using account

theorem Solvent.cancel (solvent : Solvent house) (receivers : ReceiversExist context house)
    {slot : AuctionSlot} (inMap : slot ∈ house.auctionsMap)
    {heapEntry : HeapEntry} (live : heapEntry ∈ house.heap)
    (pointer : heapEntry.pointer = slot.pointer)
    (notQueued : ¬ house.removalQueued heapEntry.pointer) {player : Nat}
    (accepted : house.cancelAccepted config heapEntry.entry player = true) :
    Accounted house (house.cancel config context heapEntry player)
      (cancelFlow config heapEntry.entry) := by
  have books : Books _ (cancelCharges config heapEntry.entry player) _ _ :=
    cancel_books config context house (receivers heapEntry live).2
  have stakes := stakes_queueRemoval solvent.fair.wellFormed live notQueued
  have deal : Deal (some heapEntry.entry) none _ _ house _ :=
    books.deal house rfl rfl rfl stakes
  apply solvent.accounted deal
  · exact solvent.fair.cancel config context inMap live pointer notQueued player
  · apply books.keeps
    apply solvent.keeps_closed live notQueued
    · rfl
    · exact solvent.bounded
    · intro other otherLive isOpen
      have status : ¬ (house.removalQueued other.pointer ∨
          other.pointer = heapEntry.pointer) := fun queued =>
        isOpen (removalQueued_of_queueEvent.mpr queued)
      exact ⟨otherLive, not_or.mp status⟩
  · unfold cancelAccepted at accepted
    simp only [Bool.and_eq_true, Bool.or_eq_true, beq_iff_eq, decide_eq_true_eq] at accepted
    obtain ⟨⟨⟨present, _⟩, _⟩, enough⟩ := accepted
    unfold cancelCharges
    split_ifs with nobody
    · exact .inl rfl
    · exact .inr ⟨_, rfl, affordable_of_moneyOf solvent.purses present
        (enough.resolve_left nobody)⟩
  · simpa [stakeOf] using cancel_gold config heapEntry.entry player
  · intro auctionId bidder notEmpty
    simpa [stakeOf] using cancel_account config heapEntry.entry auctionId notEmpty

/-- What the clock does to one slot adds to the gold in circulation. -/
def slotFlow (now : Nat) (house : AuctionHouse) (slot : AuctionSlot) : Int :=
  match house.deref slot.pointer with
  | none => 0
  | some heapEntry =>
      if isExpired heapEntry.entry now then expiryFlow config heapEntry.entry else 0

theorem Solvent.updateAuction (solvent : Solvent house)
    (receivers : ReceiversExist context house) (idle : NothingQueued house)
    (within : CutWithin config) (now : Nat) {slot : AuctionSlot}
    (inMap : slot ∈ house.auctionsMap) :
    Accounted house (house.updateAuction config context now slot)
      (slotFlow config now house slot) := by
  have spares : SparesSettled config house (.update context now) :=
    fun heapEntry _ queued => absurd queued (idle heapEntry.pointer)
  have fair := (solvent.fair.updateAuction config context now inMap spares).1
  obtain ⟨heapEntry, found, live, pointer, _⟩ := deref_slot solvent.fair.wellFormed inMap
  cases expired : isExpired heapEntry.entry now with
  | false =>
      have nothing : slotFlow config now house slot = 0 := by
        unfold slotFlow
        rw [found]
        dsimp only
        rw [expired]
        rfl
      rw [updateAuction_of_running config context now found expired, nothing]
      exact Accounted.refl solvent
  | true =>
      have flow : slotFlow config now house slot = expiryFlow config heapEntry.entry := by
        unfold slotFlow
        rw [found]
        dsimp only
        rw [expired]
        rfl
      have notQueued := idle heapEntry.pointer
      have registered : house.aItems.contains heapEntry.entry.itemGUIDLow = true :=
        List.contains_iff_mem.mpr (solvent.registered heapEntry live notQueued)
      have books := updateAuction_books config context house now found expired
        (receivers heapEntry live).1 (receivers heapEntry live).2 registered
      have stakes := stakes_removeAuction solvent.fair.wellFormed live notQueued pointer
      have deal : Deal (some heapEntry.entry) none _ _ house _ :=
        books.deal house rfl rfl rfl stakes
      have bounded := solvent.bounded heapEntry live
      rw [flow]
      apply solvent.accounted deal fair
      · apply books.keeps
        apply solvent.keeps_closed live notQueued
        · rfl
        · intro other kept
          exact solvent.bounded other (mem_erase.mp kept).1
        · intro other kept _
          obtain ⟨old, differs⟩ := mem_erase.mp kept
          exact ⟨old, idle other.pointer, pointer ▸ differs⟩
      · exact .inl rfl
      · simpa [stakeOf] using expiry_gold config heapEntry.entry within bounded.1 bounded.2
      · intro auctionId player notEmpty
        simpa [stakeOf] using expiry_account config heapEntry.entry auctionId notEmpty

/-- The slots after this one are what they were. -/
theorem slotFlow_updateAuction (solvent : Solvent house) (idle : NothingQueued house)
    (now : Nat) {slot other : AuctionSlot} (inMap : slot ∈ house.auctionsMap)
    (otherInMap : other ∈ house.auctionsMap) (differs : other.id ≠ slot.id) :
    slotFlow config now (house.updateAuction config context now slot) other =
      slotFlow config now house other := by
  have spares : SparesSettled config house (.update context now) :=
    fun heapEntry _ queued => absurd queued (idle heapEntry.pointer)
  obtain ⟨fair, leaves⟩ := solvent.fair.updateAuction config context now inMap spares
  have stays := leaves.auctionsMap other otherInMap differs
  obtain ⟨heapEntry, found, live, pointer, _⟩ := deref_slot fair.wellFormed stays
  have before := (deref_eq_some_iff solvent.fair.wellFormed).mpr
    ⟨leaves.heap heapEntry live, pointer⟩
  unfold slotFlow
  rw [found, before]

/-- The loop of `Update` from some slot on. -/
theorem Solvent.updateRest (within : CutWithin config) (now : Nat)
    (slots : List AuctionSlot) (solvent : Solvent house)
    (receivers : ReceiversExist context house) (idle : NothingQueued house)
    (members : ∀ slot ∈ slots, slot ∈ house.auctionsMap)
    (ids : (slots.map AuctionSlot.id).Nodup) :
    Accounted house (slots.foldl (AuctionHouse.updateAuction config context now) house)
      (slots.map (slotFlow config now house)).sum := by
  induction slots generalizing house with
  | nil => exact Accounted.refl solvent
  | cons slot rest induction =>
      rw [List.map_cons, List.nodup_cons] at ids
      have inMap := members slot List.mem_cons_self
      have differs : ∀ other ∈ rest, other.id ≠ slot.id := by
        intro other later same
        exact ids.1 (same ▸ List.mem_map_of_mem later)
      have spares : SparesSettled config house (.update context now) :=
        fun heapEntry _ queued => absurd queued (idle heapEntry.pointer)
      have leaves := (solvent.fair.updateAuction config context now inMap spares).2
      have first := solvent.updateAuction config context receivers idle within now inMap
      have later : ∀ other ∈ rest, other ∈ house.auctionsMap :=
        fun other member => members other (List.mem_cons_of_mem slot member)
      have rest' := induction first.solvent
        (fun heapEntry live => receivers heapEntry (leaves.heap heapEntry live))
        (fun pointer queued => by
          rw [removalQueued, leaves.queue] at queued
          exact idle pointer queued)
        (fun other member =>
          leaves.auctionsMap other (later other member) (differs other member))
        ids.2
      have same : rest.map (slotFlow config now
          (house.updateAuction config context now slot)) =
            rest.map (slotFlow config now house) := by
        apply List.map_congr_left
        intro other member
        exact slotFlow_updateAuction config context solvent idle now inMap
          (later other member) (differs other member)
      rw [same] at rest'
      rw [List.foldl_cons, List.map_cons, List.sum_cons]
      exact first.trans rest'

end Requests

/-! ## Selling and the worker -/

def sellCharge (request : SellRequest) (auctionId : Nat) : MoneyLogEntry where
  player := request.player
  type := .ahSell
  auctionId := auctionId
  amount := request.deposit

theorem Solvent.handleAuctionSellItem {house : AuctionHouse} (solvent : Solvent house)
    {request : SellRequest} (accepted : house.sellAccepted request = true) :
    Accounted house (house.handleAuctionSellItem request) (-request.deposit) := by
  have fair := solvent.fair.handleAuctionSellItem request
  unfold AuctionHouse.handleAuctionSellItem at fair ⊢
  rw [accepted, if_neg (by simp)] at fair ⊢
  dsimp only at fair ⊢
  unfold sellAccepted at accepted
  simp only [Bool.and_eq_true, Bool.not_eq_true', decide_eq_true_eq] at accepted
  obtain ⟨⟨⟨_, unregistered⟩, present⟩, enough⟩ := accepted
  have newItem : request.itemGUIDLow ∉ house.aItems := by
    intro member
    rw [List.contains_iff_mem.mpr member] at unregistered
    cases unregistered
  have affordable : Affordable house.players (sellCharge request house.nextAuctionId) :=
    affordable_of_moneyOf solvent.purses present enough
  have deposit : request.deposit ≤ maxMoneyAmount := by
    obtain ⟨purse, member, _, enough⟩ := affordable
    exact enough.trans (solvent.purses.wealth purse member)
  have status : ∀ pointer,
      (house.listEntry (request.entry house.nextAuctionId)).removalQueued pointer ↔
        house.removalQueued pointer := by
    simp [removalQueued, AuctionHouse.listEntry]
  have deal : Deal none none [] [sellCharge request house.nextAuctionId] house
      (((house.addAItem request.itemGUIDLow).listEntry
        (request.entry house.nextAuctionId)).charge request.player request.deposit .ahSell
          (request.entry house.nextAuctionId).id) := by
    refine ⟨(List.append_nil _).symm, rfl, rfl, ?_⟩
    intro select
    show (house.listEntry (request.entry house.nextAuctionId)).stakes select + 0 =
      house.stakes select + 0
    unfold stakes
    simp only [status]
    simp [AuctionHouse.listEntry, stake, SellRequest.entry]
  have charges : ChargesAffordable house.players
      [sellCharge request house.nextAuctionId] := .inr ⟨_, rfl, affordable⟩
  refine ⟨⟨fair, deal.soundPurses solvent.purses charges, ?_, ?_, ?_⟩, ?_, ?_⟩
  · intro heapEntry member
    rcases List.mem_append.mp member with old | new
    · exact solvent.bounded heapEntry old
    · rw [List.mem_singleton.mp new]
      exact ⟨Nat.zero_le _, deposit⟩
  · intro heapEntry member isOpen
    rcases List.mem_append.mp member with old | new
    · exact List.mem_cons_of_mem _ (solvent.registered heapEntry old fun queued =>
        isOpen ((status heapEntry.pointer).mpr queued))
    · rw [List.mem_singleton.mp new]
      exact List.mem_cons_self
  · have fresh : ∀ heapEntry ∈ house.heap,
        ¬ (house.listEntry (request.entry house.nextAuctionId)).removalQueued
          heapEntry.pointer →
        heapEntry.entry.itemGUIDLow ≠ request.itemGUIDLow := by
      intro heapEntry old isOpen same
      exact newItem (same ▸ solvent.registered heapEntry old fun queued =>
        isOpen ((status heapEntry.pointer).mpr queued))
    intro left leftMember right rightMember leftOpen rightOpen same
    rcases List.mem_append.mp leftMember with leftOld | leftNew <;>
      rcases List.mem_append.mp rightMember with rightOld | rightNew
    · exact solvent.items left leftOld right rightOld
        (fun queued => leftOpen ((status left.pointer).mpr queued))
        (fun queued => rightOpen ((status right.pointer).mpr queued)) same
    · rw [List.mem_singleton.mp rightNew] at same
      exact absurd same (fresh left leftOld leftOpen)
    · rw [List.mem_singleton.mp leftNew] at same
      exact absurd same.symm (fresh right rightOld rightOpen)
    · rw [List.mem_singleton.mp leftNew, List.mem_singleton.mp rightNew]
  · have total := deal.totalGold solvent.purses charges
    simp only [List.map_cons, List.map_nil, List.sum_cons, List.sum_nil, stakeOf,
      sellCharge] at total
    omega
  · intro balanced
    apply deal.balanced balanced
    intro auctionId player _
    simp [paidBy, sellCharge, MoneyLogType.isBid]

theorem Solvent.executeNext {house : AuctionHouse} (solvent : Solvent house) :
    Accounted house house.executeNext 0 := by
  have wellFormed := solvent.fair.wellFormed
  have events := wellFormed.events
  have fair := solvent.fair.executeNext
  rcases executeNext_cases wellFormed with
    same | ⟨heapEntry, rest, queue, live, absent, added⟩ |
      ⟨heapEntry, slot, rest, queue, member, live, pointer, removed⟩
  · rw [same]
    exact Accounted.refl solvent
  · rw [added] at fair ⊢
    have status : ∀ pointer, .removeAuction pointer ∈ rest ↔
        house.removalQueued pointer := by
      simp [removalQueued, queue]
    have deal : Deal none none [] [] house { house with
        queue := rest
        auctionsMap := assign AuctionSlot.id house.auctionsMap
          { id := heapEntry.entry.id, pointer := heapEntry.pointer } } :=
      ⟨(List.append_nil _).symm, (List.append_nil _).symm, rfl,
        stakes_congr rfl status⟩
    apply solvent.accounted deal fair
    · exact solvent.keeps_fewer rfl fun other otherLive => ⟨otherLive, status _⟩
    · exact .inl rfl
    · rfl
    · simp
  · rw [removed] at fair ⊢
    rw [queue, List.nodup_cons] at events
    have status : ∀ other, other ≠ slot.pointer →
        (.removeAuction other ∈ rest ↔ house.removalQueued other) := by
      intro other differs
      simp [removalQueued, queue, differs]
    have deal : Deal none none [] [] house
        ({ house with queue := rest }.removeAuction slot) := by
      refine ⟨(List.append_nil _).symm, (List.append_nil _).symm, rfl, ?_⟩
      intro select
      -- the entry counts while it is no longer queued, but it is deleted at once
      have erased := stakes_removeAuction (wellFormed.takeEvent queue) live
        (pointer ▸ events.1) pointer select
      let before : HeapEntry → Nat := fun other =>
        if house.removalQueued other.pointer then 0 else stake select other.entry
      let after : HeapEntry → Nat := fun other =>
        if ({ house with queue := rest } : AuctionHouse).removalQueued other.pointer
        then 0 else stake select other.entry
      have others : ∀ other ∈ house.heap, other.pointer ≠ heapEntry.pointer →
          after other = before other := by
        intro other _ differs
        exact if_congr (status other.pointer (pointer ▸ differs)) rfl rfl
      have queued : house.removalQueued heapEntry.pointer := by
        rw [removalQueued, queue, pointer]
        exact List.mem_cons_self
      have afterEntry : after heapEntry = stake select heapEntry.entry :=
        if_neg (pointer ▸ events.1)
      have beforeEntry : before heapEntry = 0 := if_pos queued
      have agree := sum_agree wellFormed.pointers live others
      rw [afterEntry, beforeEntry] at agree
      change _ = house.stakes select + _ at agree
      change ({ house with queue := rest } : AuctionHouse).stakes select + 0 = _ at agree
      simp only [stakeOf]
      omega
    apply solvent.accounted deal fair
    · refine solvent.keeps_fewer rfl fun other kept => ?_
      obtain ⟨old, differs⟩ := mem_erase.mp kept
      exact ⟨old, status _ differs⟩
    · exact .inl rfl
    · rfl
    · simp

/-! ## Steps and runs -/

/-- A request arrives when all removals are done, and everybody named in it exists. -/
def Prompt (house : AuctionHouse) : AuctionEvent → Prop
  | .sellItem _ => NothingQueued house
  | .placeBid context request _ =>
      NothingQueued house ∧ ReceiversExist context house ∧
        context.known request.player = true
  | .removeItem context _ _ => NothingQueued house ∧ ReceiversExist context house
  | .update context _ => NothingQueued house ∧ ReceiversExist context house
  | .worker => True

/-- What a request adds to all gold: deposits and cuts. -/
def goldFlow (house : AuctionHouse) : AuctionEvent → Int
  | .sellItem request => if house.sellAccepted request then -request.deposit else 0
  | .placeBid context request _ =>
      match house.getAuction request.auctionId with
      | .found heapEntry =>
          if request.auctionId ≠ 0 ∧
              house.bidAccepted config context heapEntry.entry request = true ∧
                belowBuyout heapEntry.entry request.price = false then
            saleFlow config (soldTo heapEntry.entry request.player)
          else 0
      | .missing | .dangling => 0
  | .removeItem _ player auctionId =>
      match house.getAuction auctionId with
      | .found heapEntry =>
          if house.cancelAccepted config heapEntry.entry player then
            cancelFlow config heapEntry.entry
          else 0
      | .missing | .dangling => 0
  | .update _ now => (house.auctionsMap.map (slotFlow config now house)).sum
  | .worker => 0

section Steps

variable (context : RequestContext) {house : AuctionHouse}

theorem Solvent.handleAuctionPlaceBid (solvent : Solvent house) (within : CutWithin config)
    (request : BidRequest) (now : Nat)
    (prompt : Prompt house (.placeBid context request now)) :
    Accounted house (house.handleAuctionPlaceBid config context request now)
      (goldFlow config house (.placeBid context request now)) := by
  obtain ⟨idle, receivers, buyer⟩ := prompt
  unfold AuctionHouse.handleAuctionPlaceBid goldFlow
  dsimp only
  rcases getAuction_cases solvent.fair.wellFormed request.auctionId with
    missing | ⟨heapEntry, slot, found, member, live, pointer, _, _⟩
  · rw [missing]
    dsimp only
    split_ifs <;> exact Accounted.refl solvent
  · rw [found]
    dsimp only
    have notQueued := idle heapEntry.pointer
    cases accepted : house.bidAccepted config context heapEntry.entry request with
    | false =>
        simp only [Bool.not_false, if_true, Bool.false_eq_true, false_and, and_false, if_false]
        split_ifs <;> exact Accounted.refl solvent
    | true =>
        have price : request.price ≠ 0 :=
          Nat.ne_zero_of_lt (price_of_bidAccepted config context accepted)
        by_cases empty : request.auctionId = 0
        · rw [if_pos (.inl empty), if_neg (by simp [empty])]
          exact Accounted.refl solvent
        · rw [if_neg (by simp [empty, price]), if_neg (by simp)]
          cases below : belowBuyout heapEntry.entry request.price with
          | true =>
              rw [if_pos rfl, if_neg (by simp)]
              exact solvent.placeBid config context receivers live notQueued accepted below
          | false =>
              rw [if_neg (by simp), if_pos ⟨empty, rfl, rfl⟩]
              exact solvent.buyOut config context receivers within member live pointer
                notQueued buyer accepted below now

theorem Solvent.handleAuctionRemoveItem (solvent : Solvent house) (player auctionId : Nat)
    (prompt : Prompt house (.removeItem context player auctionId)) :
    Accounted house (house.handleAuctionRemoveItem config context player auctionId)
      (goldFlow config house (.removeItem context player auctionId)) := by
  obtain ⟨idle, receivers⟩ := prompt
  unfold AuctionHouse.handleAuctionRemoveItem goldFlow
  dsimp only
  rcases getAuction_cases solvent.fair.wellFormed auctionId with
    missing | ⟨heapEntry, slot, found, member, live, pointer, _, _⟩
  · rw [missing]
    exact Accounted.refl solvent
  · rw [found]
    dsimp only
    cases accepted : house.cancelAccepted config heapEntry.entry player with
    | false => exact Accounted.refl solvent
    | true =>
        exact solvent.cancel config context receivers member live pointer
          (idle heapEntry.pointer) accepted

end Steps

theorem Solvent.step {house : AuctionHouse} (solvent : Solvent house)
    (within : CutWithin config) {event : AuctionEvent} (prompt : Prompt house event) :
    Accounted house (step config house event) (goldFlow config house event) := by
  unfold Auctions.step
  rw [solvent.fair.wellFormed.running]
  cases event with
  | sellItem request =>
      cases accepted : house.sellAccepted request with
      | false =>
          simp only [AuctionHouse.handleAuctionSellItem, goldFlow, accepted]
          exact Accounted.refl solvent
      | true =>
          simp only [goldFlow, accepted, if_true]
          exact solvent.handleAuctionSellItem accepted
  | placeBid context request now =>
      exact solvent.handleAuctionPlaceBid config context within request now prompt
  | removeItem context player auctionId =>
      exact solvent.handleAuctionRemoveItem config context player auctionId prompt
  | update context now =>
      exact solvent.updateRest config context within now house.auctionsMap prompt.2 prompt.1
        (fun _ member => member) solvent.fair.wellFormed.slotIds
  | worker => exact solvent.executeNext

/-- A bid which raises the player's own bid. -/
structure RaisesOwnBid (house : AuctionHouse) (context : RequestContext)
    (request : BidRequest) (heapEntry : HeapEntry) : Prop where
  auction : request.auctionId ≠ 0 ∧
    house.getAuction request.auctionId = .found heapEntry
  accepted : house.bidAccepted config context heapEntry.entry request = true
  below : belowBuyout heapEntry.entry request.price = true
  own : heapEntry.entry.bidder = request.player

/-- The gold of one step. -/
structure KeepsGold (house : AuctionHouse) (event : AuctionEvent) : Prop where
  total : ((step config house event).totalGold : Int) =
    house.totalGold + goldFlow config house event
  /-- A raise costs the difference to the player's bid before. -/
  raise : ∀ context request now heapEntry, event = .placeBid context request now →
    RaisesOwnBid config house context request heapEntry →
      (step config house event).moneyOf request.player +
          (request.price - heapEntry.entry.bid) =
        house.moneyOf request.player

/-- The accounts of the bidders. -/
structure AccountsBalance (house : AuctionHouse) : Prop where
  balanced : Balanced house
  /-- Who has no open bid and has not won gets back what he paid in total. -/
  losers : ∀ auctionId player, player ≠ 0 →
    (∀ heapEntry ∈ house.heap, heapEntry.entry.id = auctionId →
      house.removalQueued heapEntry.pointer ∨ heapEntry.entry.bidder ≠ player) →
    (∀ mail ∈ house.mailsAbout auctionId, mail.answer = .won → mail.receiver ≠ player) →
    house.mailSum (refundTo auctionId player) = house.logSum (paidBy auctionId player)

theorem Balanced.accountsBalance {house : AuctionHouse} (balanced : Balanced house) :
    AccountsBalance house := by
  refine ⟨balanced, ?_⟩
  intro auctionId player real noBid noWin
  have account := balanced auctionId player real
  have noStake : house.stakes (isHighestBid auctionId player) = 0 := by
    unfold stakes
    rw [List.sum_eq_zero_iff]
    intro amount member
    obtain ⟨heapEntry, live, rfl⟩ := List.mem_map.mp member
    have notHighest := noBid heapEntry live
    split_ifs with queued
    · rfl
    · unfold stake isHighestBid
      split_ifs with highest
      · simp only [Bool.and_eq_true, decide_eq_true_eq] at highest
        exact absurd highest.2 ((notHighest highest.1).resolve_left queued)
      · rfl
  have noPrice : house.mailSum (wonBy auctionId player) = 0 := by
    unfold AuctionHouse.mailSum
    rw [List.sum_eq_zero_iff]
    intro amount member
    obtain ⟨mail, sent, rfl⟩ := List.mem_map.mp member
    unfold wonBy
    split_ifs with win
    · have about : mail ∈ house.mailsAbout auctionId :=
        List.mem_filter.mpr ⟨sent, decide_eq_true win.1⟩
      exact absurd win.2.1 (noWin mail about win.2.2)
    · rfl
  omega

theorem Solvent.raise {house : AuctionHouse} (solvent : Solvent house)
    {context : RequestContext} {request : BidRequest} {now : Nat} {heapEntry : HeapEntry}
    (prompt : Prompt house (.placeBid context request now))
    (raises : RaisesOwnBid config house context request heapEntry) :
    (Auctions.step config house (.placeBid context request now)).moneyOf request.player +
        (request.price - heapEntry.entry.bid) =
      house.moneyOf request.player := by
  obtain ⟨_, receivers, _⟩ := prompt
  obtain ⟨⟨notEmpty, auction⟩, accepted, below, own⟩ := raises
  have higher := price_of_bidAccepted config context accepted
  obtain ⟨purse, member, owner, enough⟩ := purse_of_bidAccepted config solvent accepted
  have real : request.player ≠ 0 := owner ▸ solvent.purses.real purse member
  have price : request.price ≤ maxMoneyAmount :=
    enough.trans (solvent.purses.wealth purse member)
  have live : heapEntry ∈ house.heap := by
    rcases getAuction_cases solvent.fair.wellFormed request.auctionId with
      missing | ⟨other, _, found, _, live, _⟩
    · rw [missing] at auction
      cases auction
    · rw [found] at auction
      cases auction
      exact live
  have books := placeBid_books config context house real (receivers heapEntry live).2
  have amount := bidCharge_amount heapEntry.entry request higher price
  rw [if_pos own] at amount
  have isPlayer : (bidCharge heapEntry.entry request).player = request.player := by
    rw [bidCharge, if_pos own]
  have same : Auctions.step config house (.placeBid context request now) =
      house.placeBid config context heapEntry request := by
    unfold Auctions.step
    rw [solvent.fair.wellFormed.running]
    simp only [AuctionHouse.handleAuctionPlaceBid, auction, accepted, below]
    simp [notEmpty, Nat.ne_zero_of_lt higher]
  have affordable : Affordable house.players (bidCharge heapEntry.entry request) := by
    refine ⟨purse, member, owner.trans isPlayer.symm, ?_⟩
    rw [amount]
    omega
  have paid := moneyOf_pay solvent.purses affordable books.players
  rw [isPlayer, amount] at paid
  rw [same]
  exact paid

/--
In a run whose requests are prompt, gold changes by deposits and cuts only, and
the accounts of all bidders balance in every state.
-/
theorem gold_conserved (house : AuctionHouse) (events : List AuctionEvent)
    (within : CutWithin config) (solvent : Solvent house) (balanced : Balanced house)
    (prompt : EveryStep (step config) Prompt house events) :
    EveryStep (step config) (KeepsGold config) house events ∧
      Throughout (step config) AccountsBalance house events := by
  have preserved : ∀ state event, Solvent state ∧ Balanced state → Prompt state event →
      Solvent (step config state event) ∧ Balanced (step config state event) := by
    rintro state event ⟨solvent, balanced⟩ prompt
    have accounted := solvent.step config within prompt
    exact ⟨accounted.solvent, accounted.balanced balanced⟩
  constructor
  · apply everyStep_of_invariant preserved _ ⟨solvent, balanced⟩ prompt
    rintro state event ⟨solvent, _⟩ prompt
    refine ⟨(solvent.step config within prompt).total, ?_⟩
    rintro context request now heapEntry rfl raises
    exact solvent.raise config prompt raises
  · have invariant := throughout_of_invariant preserved ⟨solvent, balanced⟩ prompt
    exact invariant.mono fun _ holds => holds.2.accountsBalance

/-! ## From the empty house -/

theorem opened_solvent {players : List PlayerMoney} (sound : SoundPurses players) :
    Solvent (AuctionHouse.opened players) := by
  refine ⟨(opened_opening players).fair, sound, ?_, ?_, ?_⟩ <;> simp [AuctionHouse.opened]

theorem opened_balanced (players : List PlayerMoney) :
    Balanced (AuctionHouse.opened players) := by
  intro auctionId player _
  rfl

theorem smallHouse_cutWithin : CutWithin smallHouse := by
  intro entry
  show entry.bid * 5 / 100 ≤ entry.bid + entry.deposit
  omega

theorem everybodyOnline_receivers (house : AuctionHouse) :
    ReceiversExist everybodyOnline house :=
  fun _ _ => ⟨rfl, fun _ => rfl⟩

theorem nothingQueued_of_idle {house : AuctionHouse} (idle : house.queue = []) :
    NothingQueued house := by
  simp [NothingQueued, removalQueued, idle]

/-- A bid, a buyout over it, and the end: the loser has his bid back. -/
theorem boughtOnce_conserves :
    EveryStep (step smallHouse) (KeepsGold smallHouse) (AuctionHouse.opened threePlayers)
        boughtOnce ∧
      Throughout (step smallHouse) AccountsBalance (AuctionHouse.opened threePlayers)
        boughtOnce := by
  have sound : SoundPurses threePlayers := by
    constructor <;> decide
  apply gold_conserved smallHouse _ _ smallHouse_cutWithin (opened_solvent sound)
    (opened_balanced threePlayers)
  refine ⟨nothingQueued_of_idle rfl, trivial, ?_, ?_, trivial, ?_, trivial⟩
  · exact ⟨nothingQueued_of_idle rfl, everybodyOnline_receivers _, rfl⟩
  · exact ⟨nothingQueued_of_idle rfl, everybodyOnline_receivers _, rfl⟩
  · exact ⟨nothingQueued_of_idle rfl, everybodyOnline_receivers _⟩

end RealmServer.Auctions
