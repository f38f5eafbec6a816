import RealmServer.Players.Purse

/-!
# The auction house

One `AuctionHouseObject` with its auctions, its queue and the single worker of
that queue, together with the item registry of `AuctionHouseMgr`, the money of
the players and the mails which have been sent.

Auction entries live on a heap.  The map of auctions and the queued events
hold pointers to them, and an entry is deleted when its auction is removed, so
a pointer may outlive its entry.  Reading through such a pointer, or a failed
assertion, sets `crashed`.
-/

namespace RealmServer.Auctions

open Table Players

/-! ## Auctions -/

/-- A row of `AuctionHouse.dbc`. -/
structure AuctionHouseEntry where
  houseId : Nat
  faction : Nat
  depositPercent : Nat
  cutPercent : Nat
deriving DecidableEq, Repr

structure AuctionEntry where
  id : Nat
  itemGUIDLow : Nat
  itemEntry : Nat
  itemCount : Nat
  owner : Nat
  startbid : Nat
  bid : Nat
  buyout : Nat
  expireTime : Nat
  /-- Zero is the empty guid. -/
  bidder : Nat
  deposit : Nat
  auctionHouseEntry : AuctionHouseEntry
  /-- Zeroed by `new AuctionEntry()` and never assigned. -/
  factionTemplateId : Nat := 0
deriving DecidableEq, Repr

abbrev Pointer := Nat

/-- An entry on the heap. -/
structure HeapEntry where
  pointer : Pointer
  entry : AuctionEntry
deriving DecidableEq, Repr

/-- An element of `AuctionsMap`. -/
structure AuctionSlot where
  id : Nat
  pointer : Pointer
deriving DecidableEq, Repr

inductive QueuedEvent where
  | addAuction (pointer : Pointer)
  | removeAuction (pointer : Pointer)
deriving DecidableEq, Repr

/-! ## Mails and payments -/

inductive MailAuctionAnswers where
  | outbidded
  | won
  | successful
  | expired
  | cancelledToBidder
  | canceled
  | salePending
deriving DecidableEq, Repr

/-- The numbers of `BuildAuctionMailBody`. -/
structure AuctionMailBody where
  lowGuid : Nat
  bid : Nat
  buyout : Nat
  deposit : Nat
  cut : Nat
deriving DecidableEq, Repr

structure AuctionMail where
  answer : MailAuctionAnswers
  /-- Part of the subject, like the entry and count of the item. -/
  auctionId : Nat
  itemEntry : Nat
  itemCount : Nat
  body : AuctionMailBody
  receiver : Nat
  money : Nat
  item : Option Nat
deriving DecidableEq, Repr

inductive MoneyLogType where
  | ahSell
  | ahBid
  | ahBidUpdate
  | ahBuyout
  | ahBuyoutBid
  | ahCancel
deriving DecidableEq, Repr

/-- A call of `ModifyMoney`, with the auction it is made for. -/
structure MoneyLogEntry where
  player : Nat
  type : MoneyLogType
  auctionId : Nat
  amount : Nat
deriving DecidableEq, Repr

/-! ## Surroundings -/

structure AuctionConfig where
  /-- `GetAuctionCut`, a percentage in floating point. -/
  auctionCut : AuctionEntry → Nat
  /-- `CalculatePct(bid, 5)`. -/
  fivePercent : Nat → Nat
  mailDeliveryDelay : Nat

/-- What a request finds outside the auction house. -/
structure RequestContext where
  /-- `FindPlayer`: the player is in the world. -/
  inWorld : Nat → Bool
  /-- `FindConnectedPlayer`: the player may be between two maps. -/
  connected : Nat → Bool
  /-- `PlayerCache::GetAccountId`, zero for a guid nobody has. -/
  accountOf : Nat → Nat

/-- The receiver of a mail exists. -/
def RequestContext.known (context : RequestContext) (guid : Nat) : Bool :=
  context.connected guid || context.accountOf guid != 0

structure AuctionHouse where
  heap : List HeapEntry
  auctionsMap : List AuctionSlot
  queue : List QueuedEvent
  /-- `mAitems`: the items of auctions, by low guid. -/
  aItems : List Nat
  pendingSales : List AuctionEntry
  players : List PlayerMoney
  mails : List AuctionMail
  moneyLog : List MoneyLogEntry
  nextAuctionId : Nat
  nextPointer : Pointer
  crashed : Bool
deriving DecidableEq, Repr

/-- Before the first auction. -/
def AuctionHouse.opened (players : List PlayerMoney) : AuctionHouse where
  heap := []
  auctionsMap := []
  queue := []
  aItems := []
  pendingSales := []
  players := players
  mails := []
  moneyLog := []
  nextAuctionId := 1
  nextPointer := 0
  crashed := false

variable (config : AuctionConfig) (context : RequestContext)

namespace AuctionHouse

/-! ## Access -/

/-- What a lookup by auction id finds. -/
inductive Lookup where
  | missing
  | dangling
  | found (heapEntry : HeapEntry)

/-- Follow a pointer. -/
def deref (house : AuctionHouse) (pointer : Pointer) : Option HeapEntry :=
  find HeapEntry.pointer house.heap pointer

/-- `GetAuction`, and the first use of its result. -/
def getAuction (house : AuctionHouse) (id : Nat) : Lookup :=
  match find AuctionSlot.id house.auctionsMap id with
  | none => .missing
  | some slot =>
      match house.deref slot.pointer with
      | none => .dangling
      | some heapEntry => .found heapEntry

def crash (house : AuctionHouse) : AuctionHouse := { house with crashed := true }

def setEntry (house : AuctionHouse) (pointer : Pointer) (entry : AuctionEntry) :
    AuctionHouse :=
  { house with
    heap := modify HeapEntry.pointer house.heap pointer fun heapEntry =>
      { heapEntry with entry } }

def queueEvent (house : AuctionHouse) (event : QueuedEvent) : AuctionHouse :=
  { house with queue := house.queue ++ [event] }

def removeAItem (house : AuctionHouse) (item : Nat) : AuctionHouse :=
  { house with aItems := house.aItems.filter (· ≠ item) }

def addAItem (house : AuctionHouse) (item : Nat) : AuctionHouse :=
  { house with aItems := item :: house.aItems }

/-- A new entry under the next auction id, and its `AddAuctionEvent`. -/
def listEntry (house : AuctionHouse) (entry : AuctionEntry) : AuctionHouse :=
  { house with
    heap := house.heap ++ [{ pointer := house.nextPointer, entry }]
    queue := house.queue ++ [.addAuction house.nextPointer]
    nextAuctionId := house.nextAuctionId + 1
    nextPointer := house.nextPointer + 1 }

def sendMail (house : AuctionHouse) (mail : AuctionMail) : AuctionHouse :=
  { house with mails := house.mails ++ [mail] }

def moneyOf (house : AuctionHouse) (player : Nat) : Nat := moneyIn house.players player

/-- `ModifyMoney` with a negative amount, and its log entry. -/
def charge (house : AuctionHouse) (player amount : Nat) (type : MoneyLogType)
    (auctionId : Nat) : AuctionHouse :=
  { house with
    players := modifyPurse house.players player (-toInt32 amount)
    moneyLog := house.moneyLog ++ [{ player, type, auctionId, amount }] }

end AuctionHouse

/-! ## Mails about an auction -/

def AuctionEntry.mail (entry : AuctionEntry) (answer : MailAuctionAnswers)
    (body : AuctionMailBody) (receiver money : Nat) (item : Option Nat) :
    AuctionMail where
  answer := answer
  auctionId := entry.id
  itemEntry := entry.itemEntry
  itemCount := entry.itemCount
  body := body
  receiver := receiver
  money := money
  item := item

/-- `profit`, in `uint32`. -/
def profit (entry : AuctionEntry) : Nat :=
  sub32 (entry.bid + entry.deposit) (config.auctionCut entry)

def outbiddedMail (entry : AuctionEntry) : AuctionMail :=
  entry.mail .outbidded
    { lowGuid := entry.owner, bid := entry.bid, buyout := entry.buyout,
      deposit := entry.deposit, cut := config.auctionCut entry }
    entry.bidder entry.bid none

def cancelledToBidderMail (entry : AuctionEntry) : AuctionMail :=
  entry.mail .cancelledToBidder
    { lowGuid := entry.owner, bid := entry.bid, buyout := entry.buyout,
      deposit := entry.deposit, cut := 0 }
    entry.bidder entry.bid none

def successfulMail (entry : AuctionEntry) : AuctionMail :=
  entry.mail .successful
    { lowGuid := entry.bidder, bid := entry.bid, buyout := entry.buyout,
      deposit := entry.deposit, cut := config.auctionCut entry }
    entry.owner (profit config entry) none

def wonMail (entry : AuctionEntry) : AuctionMail :=
  entry.mail .won
    { lowGuid := entry.owner, bid := entry.bid, buyout := entry.buyout,
      deposit := 0, cut := 0 }
    entry.bidder 0 (some entry.itemGUIDLow)

/-- The body of the mails which give the item back to its owner. -/
def returnMail (answer : MailAuctionAnswers) (entry : AuctionEntry) : AuctionMail :=
  entry.mail answer
    { lowGuid := 0, bid := 0, buyout := entry.buyout, deposit := entry.deposit, cut := 0 }
    entry.owner 0 (some entry.itemGUIDLow)

namespace AuctionHouse

def sendAuctionOutbiddedMail (house : AuctionHouse) (entry : AuctionEntry) :
    AuctionHouse :=
  if context.known entry.bidder then house.sendMail (outbiddedMail config entry) else house

def sendAuctionCancelledToBidderMail (house : AuctionHouse) (entry : AuctionEntry) :
    AuctionHouse :=
  if context.known entry.bidder then house.sendMail (cancelledToBidderMail entry) else house

def sendAuctionSuccessfulMail (house : AuctionHouse) (entry : AuctionEntry) :
    AuctionHouse :=
  if context.known entry.owner then house.sendMail (successfulMail config entry) else house

/-- Without a receiver the item is deleted. -/
def sendAuctionWonMail (house : AuctionHouse) (entry : AuctionEntry) : AuctionHouse :=
  if !house.aItems.contains entry.itemGUIDLow then house
  else if context.known entry.bidder then house.sendMail (wonMail entry)
  else house.removeAItem entry.itemGUIDLow

def sendAuctionExpiredMail (house : AuctionHouse) (entry : AuctionEntry) : AuctionHouse :=
  if !house.aItems.contains entry.itemGUIDLow then house
  else if context.known entry.owner then house.sendMail (returnMail .expired entry)
  else house.removeAItem entry.itemGUIDLow

/-- The sale stays visible until its mail is delivered. -/
def addPendingSale (house : AuctionHouse) (entry : AuctionEntry) (now : Nat) :
    AuctionHouse :=
  { house with
    pendingSales := house.pendingSales ++
      [{ entry with expireTime := now + config.mailDeliveryDelay }] }

/-- What buyout and expiry share: the money goes to the seller, the item to the bidder. -/
def settleSale (house : AuctionHouse) (entry : AuctionEntry) (now : Nat) : AuctionHouse :=
  ((house.addPendingSale config entry now).sendAuctionSuccessfulMail config context
    entry).sendAuctionWonMail context entry

/-! ## Selling -/

/-- A sell packet which has passed the checks on the items and the auctioneer. -/
structure SellRequest where
  player : Nat
  itemGUIDLow : Nat
  itemEntry : Nat
  itemCount : Nat
  bid : Nat
  buyout : Nat
  expireTime : Nat
  deposit : Nat
  auctionHouseEntry : AuctionHouseEntry

def SellRequest.entry (request : SellRequest) (id : Nat) : AuctionEntry where
  id := id
  itemGUIDLow := request.itemGUIDLow
  itemEntry := request.itemEntry
  itemCount := request.itemCount
  owner := request.player
  startbid := request.bid
  bid := 0
  buyout := request.buyout
  expireTime := request.expireTime
  bidder := 0
  deposit := request.deposit
  auctionHouseEntry := request.auctionHouseEntry

def sellAccepted (house : AuctionHouse) (request : SellRequest) : Bool :=
  request.bid != 0 && request.bid ≤ maxMoneyAmount && request.buyout ≤ maxMoneyAmount &&
    !house.aItems.contains request.itemGUIDLow &&
    contains PlayerMoney.guid house.players request.player &&
    request.deposit ≤ house.moneyOf request.player

def handleAuctionSellItem (house : AuctionHouse) (request : SellRequest) : AuctionHouse :=
  if !house.sellAccepted request then house
  else
    let entry := request.entry house.nextAuctionId
    ((house.addAItem request.itemGUIDLow).listEntry entry).charge request.player
      request.deposit .ahSell entry.id

/-! ## Bidding -/

structure BidRequest where
  player : Nat
  auctionId : Nat
  price : Nat

/-- Five percent, but at least one copper. -/
def getAuctionOutBid (entry : AuctionEntry) : Nat :=
  if config.fivePercent entry.bid = 0 then 1 else config.fivePercent entry.bid

/-- The price does not buy the auction out. -/
def belowBuyout (entry : AuctionEntry) (price : Nat) : Bool :=
  price < entry.buyout || entry.buyout == 0

/-- Every check of the handler after the auction has been found. -/
def bidAccepted (house : AuctionHouse) (entry : AuctionEntry) (request : BidRequest) :
    Bool :=
  contains PlayerMoney.guid house.players request.player &&
    entry.owner != request.player &&
    (context.inWorld entry.owner ||
      context.accountOf entry.owner != context.accountOf request.player) &&
    !(request.price ≤ entry.bid || request.price < entry.startbid) &&
    !(belowBuyout entry request.price &&
      request.price < (entry.bid + getAuctionOutBid config entry) % 2 ^ 32) &&
    request.price ≤ house.moneyOf request.player

/-- A bid: the bidder before gets his money back, unless it is the same player. -/
def placeBid (house : AuctionHouse) (heapEntry : HeapEntry) (request : BidRequest) :
    AuctionHouse :=
  let entry := heapEntry.entry
  let house :=
    if entry.bidder ≠ 0 then
      if entry.bidder = request.player then
        house.charge request.player (sub32 request.price entry.bid) .ahBidUpdate entry.id
      else
        (house.sendAuctionOutbiddedMail config context entry).charge request.player
          request.price .ahBid entry.id
    else house.charge request.player request.price .ahBid entry.id
  house.setEntry heapEntry.pointer
    { entry with bidder := request.player, bid := request.price }

/-- A buyout: settled at once, but the auction is only queued for removal. -/
def buyOut (house : AuctionHouse) (heapEntry : HeapEntry) (request : BidRequest)
    (now : Nat) : AuctionHouse :=
  let entry := heapEntry.entry
  let house :=
    if request.player = entry.bidder then
      house.charge request.player (sub32 entry.buyout entry.bid) .ahBuyoutBid entry.id
    else
      let house := house.charge request.player entry.buyout .ahBuyout entry.id
      if entry.bidder ≠ 0 then house.sendAuctionOutbiddedMail config context entry
      else house
  let sold := { entry with bidder := request.player, bid := entry.buyout }
  let house := (house.setEntry heapEntry.pointer sold).settleSale config context sold now
  (house.removeAItem sold.itemGUIDLow).queueEvent (.removeAuction heapEntry.pointer)

def handleAuctionPlaceBid (house : AuctionHouse) (request : BidRequest) (now : Nat) :
    AuctionHouse :=
  if request.auctionId = 0 ∨ request.price = 0 then house
  else
    match house.getAuction request.auctionId with
    | .missing => house
    | .dangling => house.crash
    | .found heapEntry =>
        if !house.bidAccepted config context heapEntry.entry request then house
        else if belowBuyout heapEntry.entry request.price then
          house.placeBid config context heapEntry request
        else house.buyOut config context heapEntry request now

/-! ## Cancelling -/

/-- The owner, a registered item, and money for the cut if somebody has bid. -/
def cancelAccepted (house : AuctionHouse) (entry : AuctionEntry) (player : Nat) : Bool :=
  contains PlayerMoney.guid house.players player && entry.owner == player &&
    house.aItems.contains entry.itemGUIDLow &&
    (entry.bidder == 0 || config.auctionCut entry ≤ house.moneyOf player)

def cancel (house : AuctionHouse) (heapEntry : HeapEntry) (player : Nat) : AuctionHouse :=
  let entry := heapEntry.entry
  let house :=
    if entry.bidder ≠ 0 then
      (house.sendAuctionCancelledToBidderMail context entry).charge player
        (config.auctionCut entry) .ahCancel entry.id
    else house
  let house := house.sendMail (returnMail .canceled entry)
  (house.removeAItem entry.itemGUIDLow).queueEvent (.removeAuction heapEntry.pointer)

def handleAuctionRemoveItem (house : AuctionHouse) (player auctionId : Nat) :
    AuctionHouse :=
  match house.getAuction auctionId with
  | .missing => house
  | .dangling => house.crash
  | .found heapEntry =>
      if !house.cancelAccepted config heapEntry.entry player then house
      else house.cancel config context heapEntry player

/-! ## Expiry and the worker -/

/-- `RemoveAuction` for an iterator, which deletes the entry as well. -/
def removeAuction (house : AuctionHouse) (slot : AuctionSlot) : AuctionHouse :=
  { house with
    auctionsMap := erase AuctionSlot.id house.auctionsMap slot.id
    heap := erase HeapEntry.pointer house.heap slot.pointer }

def isExpired (entry : AuctionEntry) (now : Nat) : Bool := entry.expireTime ≤ now + 60

/-- One auction of the loop in `Update`. -/
def updateAuction (now : Nat) (house : AuctionHouse) (slot : AuctionSlot) : AuctionHouse :=
  match house.deref slot.pointer with
  | none => house.crash
  | some heapEntry =>
      let entry := heapEntry.entry
      if !isExpired entry now then house
      else
        let house :=
          if entry.bidder = 0 then house.sendAuctionExpiredMail context entry
          else house.settleSale config context entry now
        (house.removeAItem entry.itemGUIDLow).removeAuction slot

def update (house : AuctionHouse) (now : Nat) : AuctionHouse :=
  house.auctionsMap.foldl (updateAuction config context now) house

/-- `AddAuctionEvent::execute` reads the id through its pointer. -/
def executeAdd (house : AuctionHouse) (pointer : Pointer) : AuctionHouse :=
  match house.deref pointer with
  | none => house.crash
  | some heapEntry =>
      { house with
        auctionsMap := assign AuctionSlot.id house.auctionsMap
          { id := heapEntry.entry.id, pointer } }

/-- `RemoveAuctionEvent::execute`; `RemoveAuction` asserts that the id was found. -/
def executeRemove (house : AuctionHouse) (pointer : Pointer) : AuctionHouse :=
  match house.deref pointer with
  | none => house.crash
  | some heapEntry =>
      match find AuctionSlot.id house.auctionsMap heapEntry.entry.id with
      | none => house.crash
      | some slot => house.removeAuction slot

/-- The worker takes the oldest event. -/
def executeNext (house : AuctionHouse) : AuctionHouse :=
  match house.queue with
  | [] => house
  | .addAuction pointer :: rest => { house with queue := rest }.executeAdd pointer
  | .removeAuction pointer :: rest => { house with queue := rest }.executeRemove pointer

end AuctionHouse

/-- What moves the auction house; each request sees its own surroundings. -/
inductive AuctionEvent where
  | sellItem (request : AuctionHouse.SellRequest)
  | placeBid (context : RequestContext) (request : AuctionHouse.BidRequest) (now : Nat)
  | removeItem (context : RequestContext) (player auctionId : Nat)
  | update (context : RequestContext) (now : Nat)
  | worker

/-- Nothing happens after a crash. -/
def step (house : AuctionHouse) (event : AuctionEvent) : AuctionHouse :=
  if house.crashed then house
  else
    match event with
    | .sellItem request => house.handleAuctionSellItem request
    | .placeBid context request now =>
        house.handleAuctionPlaceBid config context request now
    | .removeItem context player auctionId =>
        house.handleAuctionRemoveItem config context player auctionId
    | .update context now => house.update config context now
    | .worker => house.executeNext

end RealmServer.Auctions
