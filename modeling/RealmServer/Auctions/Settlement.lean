import RealmServer.Lib.Transition
import RealmServer.Auctions.Shape

/-!
# Single settlement of an auction

A buyout or a cancellation settles an auction and only queues its removal.
Until the worker runs, the settled entry is still in the map, where the next
buyout, cancellation or expiry tick finds it.  `SparesSettled` is the condition
that none of them acts on such an entry; under it every auction is settled
once, and the worker never follows a pointer to a deleted entry.
-/

namespace RealmServer.Auctions

open Table Players Transition AuctionHouse

variable (config : AuctionConfig)

/-! ## The mails about one auction -/

/-- The bid goes back to a bidder. -/
def AuctionMail.isRefund (mail : AuctionMail) : Bool :=
  mail.answer = .outbidded || mail.answer = .cancelledToBidder

def AuctionMail.isSuccessful (mail : AuctionMail) : Bool := mail.answer = .successful

def AuctionHouse.mailsAbout (house : AuctionHouse) (auctionId : Nat) : List AuctionMail :=
  house.mails.filter fun mail => mail.auctionId = auctionId

/-- Among the mails about one auction. -/
structure SettledOnce (mails : List AuctionMail) : Prop where
  items : (mails.filter fun mail => mail.item.isSome).length ≤ 1
  profits : (mails.filter fun mail => mail.isSuccessful).length ≤ 1
  /-- A winner's own price is not refunded; `body.bid` is the price of the win. -/
  refunds : ∀ won ∈ mails, ∀ refund ∈ mails, won.answer = .won → refund.isRefund →
    won.receiver = refund.receiver → refund.money ≠ won.body.bid

/-- Every auction is settled at most once, and no assertion has failed. -/
structure SettlesOnce (house : AuctionHouse) : Prop where
  running : house.crashed = false
  once : ∀ auctionId, SettledOnce (house.mailsAbout auctionId)

/-- An auction which is still open has only refunded bids below the current one. -/
def OnlyRefunds (mails : List AuctionMail) (bid : Nat) : Prop :=
  ∀ mail ∈ mails, mail.isRefund ∧ mail.item = none ∧ mail.money < bid

def NobodyWon (mails : List AuctionMail) : Prop :=
  ∀ mail ∈ mails, mail.answer ≠ .won

theorem AuctionMail.isRefund_iff {mail : AuctionMail} :
    mail.isRefund = true ↔
      mail.answer = .outbidded ∨ mail.answer = .cancelledToBidder := by
  simp [AuctionMail.isRefund]

theorem not_won_of_isRefund {mail : AuctionMail} (refund : mail.isRefund = true) :
    mail.answer ≠ .won := by
  rcases AuctionMail.isRefund_iff.mp refund with answer | answer <;> simp [answer]

theorem not_successful_of_isRefund {mail : AuctionMail} (refund : mail.isRefund = true) :
    mail.isSuccessful = false := by
  rcases AuctionMail.isRefund_iff.mp refund with answer | answer <;>
    simp [AuctionMail.isSuccessful, answer]

theorem OnlyRefunds.nobodyWon {mails : List AuctionMail} {bid : Nat}
    (refunds : OnlyRefunds mails bid) : NobodyWon mails :=
  fun mail member => not_won_of_isRefund (refunds mail member).1

theorem SettledOnce.sublist {few many : List AuctionMail} (settled : SettledOnce many)
    (sublist : few.Sublist many) : SettledOnce few where
  items := (sublist.filter _).length_le.trans settled.items
  profits := (sublist.filter _).length_le.trans settled.profits
  refunds := fun won wonMember refund refundMember =>
    settled.refunds won (sublist.subset wonMember) refund (sublist.subset refundMember)

/-- Mails which may close an open auction with a last bid. -/
structure Closing (bid : Nat) (mails : List AuctionMail) : Prop where
  items : (mails.filter fun mail => mail.item.isSome).length ≤ 1
  profits : (mails.filter fun mail => mail.isSuccessful).length ≤ 1
  refunds : ∀ won ∈ mails, won.answer = .won → bid ≤ won.body.bid ∧
    ∀ refund ∈ mails, refund.isRefund → refund.money < won.body.bid

theorem Closing.settledOnce {old added : List AuctionMail} {bid : Nat}
    (closing : Closing bid added) (refunds : OnlyRefunds old bid) :
    SettledOnce (old ++ added) := by
  have noItem : old.filter (fun mail => mail.item.isSome) = [] := by
    rw [List.filter_eq_nil_iff]
    intro mail member
    simp [(refunds mail member).2.1]
  have noProfit : old.filter (fun mail => mail.isSuccessful) = [] := by
    rw [List.filter_eq_nil_iff]
    intro mail member
    simp [not_successful_of_isRefund (refunds mail member).1]
  constructor
  · rw [List.filter_append, noItem]
    exact closing.items
  · rw [List.filter_append, noProfit]
    exact closing.profits
  · intro won wonMember refund refundMember isWon isRefund _
    have wonAdded : won ∈ added := by
      rcases List.mem_append.mp wonMember with before | after
      · exact absurd isWon (refunds.nobodyWon won before)
      · exact after
    obtain ⟨above, below⟩ := closing.refunds won wonAdded isWon
    rcases List.mem_append.mp refundMember with before | after
    · exact Nat.ne_of_lt ((refunds refund before).2.2.trans_le above)
    · exact Nat.ne_of_lt (below refund after isRefund)

/-- A refund changes nothing where nobody has won. -/
theorem SettledOnce.append_refunds {old added : List AuctionMail}
    (settled : SettledOnce old) (nobody : NobodyWon old)
    (refunds : ∀ mail ∈ added, mail.isRefund ∧ mail.item = none) :
    SettledOnce (old ++ added) ∧ NobodyWon (old ++ added) := by
  have noItem : added.filter (fun mail => mail.item.isSome) = [] := by
    rw [List.filter_eq_nil_iff]
    intro mail member
    simp [(refunds mail member).2]
  have noProfit : added.filter (fun mail => mail.isSuccessful) = [] := by
    rw [List.filter_eq_nil_iff]
    intro mail member
    simp [not_successful_of_isRefund (refunds mail member).1]
  have stillNobody : NobodyWon (old ++ added) := by
    intro mail member
    rcases List.mem_append.mp member with before | after
    · exact nobody mail before
    · exact not_won_of_isRefund (refunds mail after).1
  refine ⟨⟨?_, ?_, ?_⟩, stillNobody⟩
  · rw [List.filter_append, noItem, List.append_nil]
    exact settled.items
  · rw [List.filter_append, noProfit, List.append_nil]
    exact settled.profits
  · intro won wonMember _ _ isWon
    exact absurd isWon (stillNobody won wonMember)

theorem OnlyRefunds.settledOnce {mails : List AuctionMail} {bid : Nat}
    (refunds : OnlyRefunds mails bid) : SettledOnce mails := by
  have nothing : Closing bid [] := ⟨by simp, by simp, by simp⟩
  simpa using nothing.settledOnce refunds

/-! ### The four ways to close an auction -/

section Closings

variable (entry : AuctionEntry)

theorem buyout_closing {bidder : Nat} (bid : entry.bid < entry.buyout) :
    Closing entry.bid
      [outbiddedMail config entry,
        successfulMail config (soldTo entry bidder), wonMail (soldTo entry bidder)] := by
  constructor
  · simp [outbiddedMail, successfulMail, wonMail, soldTo, AuctionEntry.mail]
  · simp [outbiddedMail, successfulMail, wonMail, soldTo, AuctionEntry.mail,
      AuctionMail.isSuccessful]
  · simp only [List.mem_cons, List.not_mem_nil, or_false]
    rintro won (rfl | rfl | rfl) isWon
    · simp [outbiddedMail, AuctionEntry.mail] at isWon
    · simp [successfulMail, AuctionEntry.mail] at isWon
    · refine ⟨bid.le, ?_⟩
      rintro refund (rfl | rfl | rfl) isRefund
      · exact bid
      · simp [successfulMail, AuctionEntry.mail, AuctionMail.isRefund] at isRefund
      · simp [wonMail, AuctionEntry.mail, AuctionMail.isRefund] at isRefund

theorem sale_closing :
    Closing entry.bid [successfulMail config entry, wonMail entry] := by
  constructor
  · simp [successfulMail, wonMail, AuctionEntry.mail]
  · simp [successfulMail, wonMail, AuctionEntry.mail, AuctionMail.isSuccessful]
  · simp only [List.mem_cons, List.not_mem_nil, or_false]
    rintro won (rfl | rfl) isWon
    · simp [successfulMail, AuctionEntry.mail] at isWon
    · refine ⟨le_rfl, ?_⟩
      rintro refund (rfl | rfl) isRefund
      · simp [successfulMail, AuctionEntry.mail, AuctionMail.isRefund] at isRefund
      · simp [wonMail, AuctionEntry.mail, AuctionMail.isRefund] at isRefund

theorem cancel_nobodyWon :
    NobodyWon [cancelledToBidderMail entry, returnMail .canceled entry] := by
  simp [NobodyWon, cancelledToBidderMail, returnMail, AuctionEntry.mail]

theorem cancel_closing :
    Closing entry.bid [cancelledToBidderMail entry, returnMail .canceled entry] := by
  constructor
  · simp [cancelledToBidderMail, returnMail, AuctionEntry.mail]
  · simp [cancelledToBidderMail, returnMail, AuctionEntry.mail, AuctionMail.isSuccessful]
  · intro won member isWon
    exact absurd isWon (cancel_nobodyWon entry won member)

theorem expired_closing : Closing entry.bid [returnMail .expired entry] := by
  constructor
  · simp [returnMail, AuctionEntry.mail]
  · simp [returnMail, AuctionEntry.mail, AuctionMail.isSuccessful]
  · simp [returnMail, AuctionEntry.mail]

end Closings

/-! ## Sending mails about one auction -/

section Sending

variable {shaped next : AuctionHouse} {expected : List AuctionMail} {auctionId : Nat}

theorem Sends.mailsAbout_same (sends : Sends expected shaped next)
    (about : ∀ mail ∈ expected, mail.auctionId = auctionId) :
    ∃ added, added.Sublist expected ∧
      next.mailsAbout auctionId = shaped.mailsAbout auctionId ++ added := by
  obtain ⟨_, added, sublist, mails⟩ := sends
  refine ⟨added, sublist, ?_⟩
  have all : added.filter (fun mail => mail.auctionId = auctionId) = added := by
    rw [List.filter_eq_self]
    intro mail member
    exact decide_eq_true (about mail (sublist.subset member))
  unfold mailsAbout
  rw [mails, List.filter_append, all]

theorem Sends.mailsAbout_other (sends : Sends expected shaped next)
    (about : ∀ mail ∈ expected, mail.auctionId = auctionId)
    {other : Nat} (differs : other ≠ auctionId) :
    next.mailsAbout other = shaped.mailsAbout other := by
  obtain ⟨_, added, sublist, mails⟩ := sends
  have none : added.filter (fun mail => mail.auctionId = other) = [] := by
    rw [List.filter_eq_nil_iff]
    intro mail member
    simpa [about mail (sublist.subset member)] using differs.symm
  unfold mailsAbout
  rw [mails, List.filter_append, none, List.append_nil]

end Sending

/-! ## The invariant -/

/-- The auction cannot be bid on without being bought out. -/
def SoldOut (entry : AuctionEntry) : Prop :=
  entry.bid = entry.buyout ∧ entry.buyout ≠ 0

def BidBelowBuyout (entry : AuctionEntry) : Prop :=
  entry.bid < entry.buyout ∨ entry.buyout = 0

/-- What holds while settled auctions are left alone. -/
structure Fair (house : AuctionHouse) : Prop where
  wellFormed : WellFormed house
  mailIds : ∀ mail ∈ house.mails, mail.auctionId < house.nextAuctionId
  once : ∀ auctionId, SettledOnce (house.mailsAbout auctionId)
  unsettled : ∀ heapEntry ∈ house.heap, ¬ house.removalQueued heapEntry.pointer →
    OnlyRefunds (house.mailsAbout heapEntry.entry.id) heapEntry.entry.bid ∧
      BidBelowBuyout heapEntry.entry
  settled : ∀ heapEntry ∈ house.heap, house.removalQueued heapEntry.pointer →
    NobodyWon (house.mailsAbout heapEntry.entry.id) ∨ SoldOut heapEntry.entry

theorem Fair.settlesOnce {house : AuctionHouse} (fair : Fair house) : SettlesOnce house :=
  ⟨fair.wellFormed.running, fair.once⟩

theorem mailIds_of_sends {shaped next : AuctionHouse} {expected : List AuctionMail}
    {auctionId : Nat} (sends : Sends expected shaped next)
    (about : ∀ mail ∈ expected, mail.auctionId = auctionId)
    (issued : auctionId < shaped.nextAuctionId)
    (mailIds : ∀ mail ∈ shaped.mails, mail.auctionId < shaped.nextAuctionId) :
    ∀ mail ∈ next.mails, mail.auctionId < next.nextAuctionId := by
  obtain ⟨shape, added, sublist, mails⟩ := sends
  intro mail member
  rw [shape.nextAuctionId]
  rw [mails] at member
  rcases List.mem_append.mp member with old | new
  · exact mailIds mail old
  · exact about mail (sublist.subset new) ▸ issued

/--
Closing an open auction.  The shape changes first: the entry is either gone or
queued for removal; then the closing mails are sent.
-/
theorem Fair.close {house shaped next : AuctionHouse} (fair : Fair house)
    {heapEntry : HeapEntry} (live : heapEntry ∈ house.heap)
    (notQueued : ¬ house.removalQueued heapEntry.pointer)
    (wellFormed : WellFormed shaped)
    (sameMails : shaped.mails = house.mails)
    (sameIds : shaped.nextAuctionId = house.nextAuctionId)
    (others : ∀ other ∈ shaped.heap, other.entry.id ≠ heapEntry.entry.id →
      other ∈ house.heap ∧
        (shaped.removalQueued other.pointer ↔ house.removalQueued other.pointer))
    {expected : List AuctionMail}
    (closed : ∀ other ∈ shaped.heap, other.entry.id = heapEntry.entry.id →
      shaped.removalQueued other.pointer ∧ (NobodyWon expected ∨ SoldOut other.entry))
    (sends : Sends expected shaped next)
    (about : ∀ mail ∈ expected, mail.auctionId = heapEntry.entry.id)
    (closing : Closing heapEntry.entry.bid expected) : Fair next := by
  have refunds := (fair.unsettled heapEntry live notQueued).1
  have sameAbout : ∀ auctionId, shaped.mailsAbout auctionId = house.mailsAbout auctionId := by
    intro auctionId
    unfold mailsAbout
    rw [sameMails]
  obtain ⟨added, sublist, mailsAbout⟩ := sends.mailsAbout_same about
  have queued : ∀ pointer, next.removalQueued pointer ↔ shaped.removalQueued pointer := by
    intro pointer
    unfold removalQueued
    rw [sends.shape.queue]
  constructor
  · exact wellFormed.of_sameShape sends.shape
  · apply mailIds_of_sends sends about
    · rw [sameIds]
      exact fair.wellFormed.freshIds heapEntry live
    · rw [sameMails, sameIds]
      exact fair.mailIds
  · intro auctionId
    by_cases same : auctionId = heapEntry.entry.id
    · subst same
      rw [mailsAbout, sameAbout]
      exact (closing.settledOnce refunds).sublist (sublist.append_left _)
    · rw [sends.mailsAbout_other about same, sameAbout]
      exact fair.once auctionId
  · intro other member isOpen
    rw [sends.shape.heap] at member
    rw [queued] at isOpen
    by_cases same : other.entry.id = heapEntry.entry.id
    · exact absurd (closed other member same).1 isOpen
    · obtain ⟨old, status⟩ := others other member same
      rw [sends.mailsAbout_other about same, sameAbout]
      exact fair.unsettled other old fun before => isOpen (status.mpr before)
  · intro other member isQueued
    rw [sends.shape.heap] at member
    rw [queued] at isQueued
    by_cases same : other.entry.id = heapEntry.entry.id
    · rcases (closed other member same).2 with nobody | soldOut
      · left
        rw [same, mailsAbout, sameAbout]
        intro mail mailMember
        rcases List.mem_append.mp mailMember with before | after
        · exact refunds.nobodyWon mail before
        · exact nobody mail (sublist.subset after)
      · exact .inr soldOut
    · obtain ⟨old, status⟩ := others other member same
      rw [sends.mailsAbout_other about same, sameAbout]
      exact fair.settled other old (status.mp isQueued)

/-- A bid on an auction which has not been sold out. -/
theorem Fair.bid {house next : AuctionHouse} (fair : Fair house)
    {heapEntry : HeapEntry} (live : heapEntry ∈ house.heap)
    {entry : AuctionEntry} (sameId : entry.id = heapEntry.entry.id)
    (raised : heapEntry.entry.bid < entry.bid) (below : BidBelowBuyout entry)
    (notSoldOut : ¬ SoldOut heapEntry.entry)
    (sends : Sends [outbiddedMail config heapEntry.entry]
      (house.setEntry heapEntry.pointer entry) next) : Fair next := by
  have about : ∀ mail ∈ [outbiddedMail config heapEntry.entry],
      mail.auctionId = heapEntry.entry.id := by
    simp [outbiddedMail, AuctionEntry.mail]
  obtain ⟨added, sublist, mailsAbout⟩ := sends.mailsAbout_same about
  have refund : ∀ mail ∈ added, mail = outbiddedMail config heapEntry.entry :=
    fun mail member => List.mem_singleton.mp (sublist.subset member)
  have isRefund : ∀ mail ∈ added, mail.isRefund ∧ mail.item = none := by
    intro mail member
    rw [refund mail member]
    exact ⟨rfl, rfl⟩
  -- the entry which was bid on, and any other one
  have origin : ∀ other ∈ next.heap,
      other = { pointer := heapEntry.pointer, entry } ∨
        (other ∈ house.heap ∧ other.entry.id ≠ heapEntry.entry.id) := by
    intro other member
    rw [sends.shape.heap] at member
    rcases mem_setEntry.mp member with ⟨old, differs⟩ | ⟨_, _, _, rfl⟩
    · refine .inr ⟨old, fun same => differs ?_⟩
      rw [fair.wellFormed.eq_of_id old live same]
    · exact .inl rfl
  have queued : ∀ pointer, next.removalQueued pointer ↔ house.removalQueued pointer := by
    intro pointer
    unfold removalQueued
    rw [sends.shape.queue]
    rfl
  have isSettled : ∀ queued : house.removalQueued heapEntry.pointer,
      NobodyWon (house.mailsAbout heapEntry.entry.id) := fun queued =>
    (fair.settled heapEntry live queued).resolve_right notSoldOut
  have nobody : NobodyWon (house.mailsAbout heapEntry.entry.id) := by
    by_cases queued : house.removalQueued heapEntry.pointer
    · exact isSettled queued
    · exact (fair.unsettled heapEntry live queued).1.nobodyWon
  have kept := (fair.once heapEntry.entry.id).append_refunds nobody isRefund
  constructor
  · exact (fair.wellFormed.setEntry live sameId).of_sameShape sends.shape
  · exact mailIds_of_sends sends about (fair.wellFormed.freshIds heapEntry live) fair.mailIds
  · intro auctionId
    by_cases same : auctionId = heapEntry.entry.id
    · subst same
      rw [mailsAbout]
      exact kept.1
    · rw [sends.mailsAbout_other about same]
      exact fair.once auctionId
  · intro other member isOpen
    rw [queued] at isOpen
    rcases origin other member with rfl | ⟨old, differs⟩
    · refine ⟨?_, below⟩
      have refunds := (fair.unsettled heapEntry live isOpen).1
      dsimp only
      rw [sameId, mailsAbout]
      intro mail mailMember
      rcases List.mem_append.mp mailMember with before | after
      · obtain ⟨isRefund, noItem, money⟩ := refunds mail before
        exact ⟨isRefund, noItem, money.trans raised⟩
      · rw [refund mail after]
        exact ⟨rfl, rfl, raised⟩
    · rw [sends.mailsAbout_other about differs]
      exact fair.unsettled other old isOpen
  · intro other member isQueued
    rw [queued] at isQueued
    rcases origin other member with rfl | ⟨old, differs⟩
    · left
      dsimp only
      rw [sameId, mailsAbout]
      exact kept.2
    · rw [sends.mailsAbout_other about differs]
      exact fair.settled other old isQueued

/-- A step which sends nothing and at most deletes entries. -/
theorem Fair.of_fewer {house next : AuctionHouse} (fair : Fair house)
    (wellFormed : WellFormed next) (sameMails : next.mails = house.mails)
    (sameIds : next.nextAuctionId = house.nextAuctionId)
    (heap : ∀ heapEntry ∈ next.heap, heapEntry ∈ house.heap ∧
      (next.removalQueued heapEntry.pointer ↔ house.removalQueued heapEntry.pointer)) :
    Fair next := by
  have sameAbout : ∀ auctionId, next.mailsAbout auctionId = house.mailsAbout auctionId := by
    intro auctionId
    unfold mailsAbout
    rw [sameMails]
  constructor
  · exact wellFormed
  · rw [sameMails, sameIds]
    exact fair.mailIds
  · intro auctionId
    rw [sameAbout]
    exact fair.once auctionId
  · intro heapEntry member isOpen
    obtain ⟨old, status⟩ := heap heapEntry member
    rw [sameAbout]
    exact fair.unsettled heapEntry old fun before => isOpen (status.mpr before)
  · intro heapEntry member isQueued
    obtain ⟨old, status⟩ := heap heapEntry member
    rw [sameAbout]
    exact fair.settled heapEntry old (status.mp isQueued)

/-! ## Handlers -/

/-- The step leaves alone what has been settled before. -/
def SparesSettled (house : AuctionHouse) : AuctionEvent → Prop
  | .placeBid context request _ =>
      ∀ heapEntry, house.getAuction request.auctionId = .found heapEntry →
        house.bidAccepted config context heapEntry.entry request = true →
        belowBuyout heapEntry.entry request.price = false →
        ¬ house.removalQueued heapEntry.pointer
  | .removeItem _ player auctionId =>
      ∀ heapEntry, house.getAuction auctionId = .found heapEntry →
        house.cancelAccepted config heapEntry.entry player = true →
        ¬ house.removalQueued heapEntry.pointer
  | .update _ now =>
      ∀ heapEntry ∈ house.heap, house.removalQueued heapEntry.pointer →
        isExpired heapEntry.entry now = false
  | .sellItem _ | .worker => True

section Handlers

variable (context : RequestContext)

theorem price_of_bidAccepted {house : AuctionHouse} {entry : AuctionEntry}
    {request : BidRequest}
    (accepted : house.bidAccepted config context entry request = true) :
    entry.bid < request.price := by
  unfold bidAccepted at accepted
  simp only [Bool.and_eq_true, Bool.not_eq_true', Bool.or_eq_false_iff,
    decide_eq_false_iff_not, not_le] at accepted
  exact accepted.1.1.2.1

theorem belowBuyout_iff {entry : AuctionEntry} {price : Nat} :
    belowBuyout entry price = true ↔ price < entry.buyout ∨ entry.buyout = 0 := by
  simp [belowBuyout]

theorem Fair.placeBid {house : AuctionHouse} (fair : Fair house)
    {heapEntry : HeapEntry} (live : heapEntry ∈ house.heap) {request : BidRequest}
    (higher : heapEntry.entry.bid < request.price)
    (below : belowBuyout heapEntry.entry request.price = true) :
    Fair (house.placeBid config context heapEntry request) := by
  have limit := belowBuyout_iff.mp below
  have sends := placeBid_sends config context house heapEntry request
  apply fair.bid config live _ _ _ _ sends
  · rfl
  · exact higher
  · exact limit
  rintro ⟨sold, isBuyout⟩
  rcases limit with price | none
  · exact absurd (higher.trans price) (by rw [sold]; exact lt_irrefl _)
  · exact isBuyout none

theorem Fair.buyOut {house : AuctionHouse} (fair : Fair house)
    {slot : AuctionSlot} (member : slot ∈ house.auctionsMap)
    {heapEntry : HeapEntry} (live : heapEntry ∈ house.heap)
    (pointer : heapEntry.pointer = slot.pointer) {request : BidRequest}
    (above : belowBuyout heapEntry.entry request.price = false)
    (notQueued : ¬ house.removalQueued heapEntry.pointer) (now : Nat) :
    Fair (house.buyOut config context heapEntry request now) := by
  have isBuyout : heapEntry.entry.buyout ≠ 0 := by
    intro none
    rw [belowBuyout_iff.mpr (.inr none)] at above
    cases above
  have bid := (fair.unsettled heapEntry live notQueued).2.resolve_right isBuyout
  have rewritten : WellFormed (house.setEntry heapEntry.pointer
      (soldTo heapEntry.entry request.player)) := fair.wellFormed.setEntry live rfl
  have wellFormed := rewritten.queueRemoval member (pointer ▸ notQueued)
  rw [← pointer] at wellFormed
  refine fair.close live notQueued wellFormed rfl rfl ?_ ?_
    (buyOut_sends config context house heapEntry request now) ?_
    (buyout_closing config heapEntry.entry bid)
  · intro other inHeap differs
    rcases mem_setEntry.mp inHeap with ⟨old, otherPointer⟩ | ⟨_, _, _, rfl⟩
    · exact ⟨old, removalQueued_of_queueEvent.trans (or_iff_left otherPointer)⟩
    · exact absurd rfl differs
  · intro other inHeap same
    rcases mem_setEntry.mp inHeap with ⟨old, otherPointer⟩ | ⟨_, _, _, rfl⟩
    · exact absurd (congrArg _ (fair.wellFormed.eq_of_id old live same)) otherPointer
    · exact ⟨removalQueued_of_queueEvent.mpr (.inr rfl), .inr ⟨rfl, isBuyout⟩⟩
  · simp [outbiddedMail, successfulMail, wonMail, soldTo, AuctionEntry.mail]

theorem Fair.cancel {house : AuctionHouse} (fair : Fair house)
    {slot : AuctionSlot} (member : slot ∈ house.auctionsMap)
    {heapEntry : HeapEntry} (live : heapEntry ∈ house.heap)
    (pointer : heapEntry.pointer = slot.pointer)
    (notQueued : ¬ house.removalQueued heapEntry.pointer) (player : Nat) :
    Fair (house.cancel config context heapEntry player) := by
  have wellFormed := fair.wellFormed.queueRemoval member (pointer ▸ notQueued)
  rw [← pointer] at wellFormed
  refine fair.close live notQueued wellFormed rfl rfl ?_ ?_
    (cancel_sends config context house heapEntry player) ?_
    (cancel_closing heapEntry.entry)
  · intro other inHeap differs
    have otherPointer : other.pointer ≠ heapEntry.pointer := by
      intro same
      rw [fair.wellFormed.eq_of_pointer inHeap live same] at differs
      exact differs rfl
    exact ⟨inHeap, removalQueued_of_queueEvent.trans (or_iff_left otherPointer)⟩
  · intro other inHeap same
    rw [fair.wellFormed.eq_of_id inHeap live same]
    exact ⟨removalQueued_of_queueEvent.mpr (.inr rfl),
      .inl (cancel_nobodyWon heapEntry.entry)⟩
  · simp [cancelledToBidderMail, returnMail, AuctionEntry.mail]

theorem Fair.handleAuctionPlaceBid {house : AuctionHouse} (fair : Fair house)
    (request : BidRequest) (now : Nat)
    (spares : SparesSettled config house (.placeBid context request now)) :
    Fair (house.handleAuctionPlaceBid config context request now) := by
  unfold AuctionHouse.handleAuctionPlaceBid
  split_ifs
  · exact fair
  · rcases getAuction_cases fair.wellFormed request.auctionId with
      missing | ⟨heapEntry, slot, found, member, live, pointer, _, _⟩
    · rw [missing]
      exact fair
    · rw [found]
      dsimp only
      cases accepted : house.bidAccepted config context heapEntry.entry request with
      | false => exact fair
      | true =>
          cases below : belowBuyout heapEntry.entry request.price with
          | true =>
              exact fair.placeBid config context live
                (price_of_bidAccepted config context accepted) below
          | false =>
              exact fair.buyOut config context member live pointer below
                (spares heapEntry found accepted below) now

theorem Fair.handleAuctionRemoveItem {house : AuctionHouse} (fair : Fair house)
    (player auctionId : Nat)
    (spares : SparesSettled config house (.removeItem context player auctionId)) :
    Fair (house.handleAuctionRemoveItem config context player auctionId) := by
  unfold AuctionHouse.handleAuctionRemoveItem
  rcases getAuction_cases fair.wellFormed auctionId with
    missing | ⟨heapEntry, slot, found, member, live, pointer, _, _⟩
  · rw [missing]
    exact fair
  · rw [found]
    dsimp only
    cases accepted : house.cancelAccepted config heapEntry.entry player with
    | false => exact fair
    | true =>
        exact fair.cancel config context member live pointer
          (spares heapEntry found accepted) player

theorem expiryMails_about (entry : AuctionEntry) :
    ∀ mail ∈ expiryMails config entry, mail.auctionId = entry.id := by
  unfold expiryMails
  split_ifs <;> simp [successfulMail, wonMail, returnMail, AuctionEntry.mail]

theorem expiryMails_closing (entry : AuctionEntry) :
    Closing entry.bid (expiryMails config entry) := by
  unfold expiryMails
  split_ifs
  · exact expired_closing entry
  · exact sale_closing config entry

/-- What one round of the loop in `Update` leaves for the rounds after it. -/
structure LeavesRest (house next : AuctionHouse) (slot : AuctionSlot) : Prop where
  queue : next.queue = house.queue
  heap : ∀ heapEntry ∈ next.heap, heapEntry ∈ house.heap
  auctionsMap : ∀ other ∈ house.auctionsMap, other.id ≠ slot.id →
    other ∈ next.auctionsMap

/-- An auction which runs is left alone. -/
theorem updateAuction_of_running {house : AuctionHouse} (now : Nat) {slot : AuctionSlot}
    {heapEntry : HeapEntry} (found : house.deref slot.pointer = some heapEntry)
    (running : isExpired heapEntry.entry now = false) :
    house.updateAuction config context now slot = house := by
  unfold AuctionHouse.updateAuction
  rw [found]
  dsimp only
  rw [running]
  rfl

theorem Fair.updateAuction {house : AuctionHouse} (fair : Fair house) (now : Nat)
    {slot : AuctionSlot} (member : slot ∈ house.auctionsMap)
    (spares : SparesSettled config house (.update context now)) :
    Fair (house.updateAuction config context now slot) ∧
      LeavesRest house (house.updateAuction config context now slot) slot := by
  obtain ⟨heapEntry, found, live, pointer, id⟩ := deref_slot fair.wellFormed member
  cases expired : isExpired heapEntry.entry now with
  | false =>
      rw [updateAuction_of_running config context now found expired]
      exact ⟨fair, rfl, fun _ live => live, fun _ inMap _ => inMap⟩
  | true =>
      have notQueued : ¬ house.removalQueued heapEntry.pointer := by
        intro queued
        rw [spares heapEntry live queued] at expired
        cases expired
      have sends := updateAuction_sends config context house now found expired
      constructor
      · apply fair.close live notQueued
          (fair.wellFormed.removeAuction member (pointer ▸ notQueued)) rfl rfl _ _ sends
          (expiryMails_about config heapEntry.entry)
          (expiryMails_closing config heapEntry.entry)
        · intro other kept _
          exact ⟨(mem_erase.mp kept).1, Iff.rfl⟩
        · intro other kept same
          obtain ⟨old, differs⟩ := mem_erase.mp kept
          rw [fair.wellFormed.eq_of_id old live same] at differs
          exact absurd pointer differs
      · constructor
        · exact sends.shape.queue
        · intro other kept
          rw [sends.shape.heap] at kept
          exact (mem_erase.mp kept).1
        · intro other inMap differs
          rw [sends.shape.auctionsMap]
          exact mem_erase.mpr ⟨inMap, differs⟩

/-- The loop of `Update` from some slot on. -/
theorem Fair.updateRest (now : Nat) (slots : List AuctionSlot) {house : AuctionHouse}
    (fair : Fair house)
    (members : ∀ slot ∈ slots, slot ∈ house.auctionsMap)
    (ids : (slots.map AuctionSlot.id).Nodup)
    (spares : SparesSettled config house (.update context now)) :
    Fair (slots.foldl (AuctionHouse.updateAuction config context now) house) := by
  induction slots generalizing house with
  | nil => exact fair
  | cons slot rest induction =>
      rw [List.map_cons, List.nodup_cons] at ids
      obtain ⟨kept, leaves⟩ := fair.updateAuction config context now
        (members slot List.mem_cons_self) spares
      apply induction kept
      · intro other later
        apply leaves.auctionsMap other (members other (List.mem_cons_of_mem slot later))
        intro same
        exact ids.1 (same ▸ List.mem_map_of_mem later)
      · exact ids.2
      · intro heapEntry live queued
        apply spares heapEntry (leaves.heap heapEntry live)
        rw [removalQueued, ← leaves.queue]
        exact queued

theorem Fair.update {house : AuctionHouse} (fair : Fair house) (now : Nat)
    (spares : SparesSettled config house (.update context now)) :
    Fair (house.update config context now) :=
  fair.updateRest config context now house.auctionsMap (fun _ member => member)
    fair.wellFormed.slotIds spares

end Handlers

/-- A new auction has an id about which nothing has been sent. -/
theorem Fair.handleAuctionSellItem {house : AuctionHouse} (fair : Fair house)
    (request : SellRequest) : Fair (house.handleAuctionSellItem request) := by
  unfold AuctionHouse.handleAuctionSellItem
  cases house.sellAccepted request with
  | false => exact fair
  | true =>
      have listed : WellFormed (house.listEntry (request.entry house.nextAuctionId)) :=
        fair.wellFormed.listEntry rfl
      have nothing : house.mailsAbout house.nextAuctionId = [] := by
        unfold mailsAbout
        rw [List.filter_eq_nil_iff]
        intro mail member
        simpa using Nat.ne_of_lt (fair.mailIds mail member)
      have status : ∀ pointer,
          (house.listEntry (request.entry house.nextAuctionId)).removalQueued pointer ↔
            house.removalQueued pointer := by
        simp [removalQueued, AuctionHouse.listEntry]
      constructor
      · exact listed.of_sameShape ⟨rfl, rfl, rfl, rfl, rfl, rfl⟩
      · intro mail member
        exact Nat.lt_succ_of_lt (fair.mailIds mail member)
      · exact fair.once
      · intro heapEntry member isOpen
        rcases List.mem_append.mp member with old | new
        · exact fair.unsettled heapEntry old fun before =>
            isOpen ((status heapEntry.pointer).mpr before)
        · rw [List.mem_singleton.mp new]
          constructor
          · intro mail about
            change mail ∈ house.mailsAbout house.nextAuctionId at about
            rw [nothing] at about
            cases about
          · exact (Nat.eq_zero_or_pos request.buyout).symm
      · intro heapEntry member isQueued
        have before := (status heapEntry.pointer).mp isQueued
        rcases List.mem_append.mp member with old | new
        · exact fair.settled heapEntry old before
        · obtain ⟨slot, inMap, same⟩ := fair.wellFormed.removes _ before
          rw [List.mem_singleton.mp new] at same
          exact absurd same (fair.wellFormed.not_pointer inMap)

/-! ## The worker -/

theorem Fair.executeNext {house : AuctionHouse} (fair : Fair house) :
    Fair house.executeNext := by
  have events := fair.wellFormed.events
  rcases executeNext_cases fair.wellFormed with
    same | ⟨heapEntry, rest, queue, live, absent, added⟩ |
      ⟨heapEntry, slot, rest, queue, member, live, pointer, removed⟩
  · rw [same]
    exact fair
  · rw [queue, List.nodup_cons] at events
    rw [added]
    apply fair.of_fewer
      ((fair.wellFormed.takeEvent queue).assignSlot live absent events.1) rfl rfl
    intro other otherLive
    refine ⟨otherLive, ?_⟩
    simp [removalQueued, queue]
  · rw [queue, List.nodup_cons] at events
    rw [removed]
    apply fair.of_fewer
      ((fair.wellFormed.takeEvent queue).removeAuction member events.1) rfl rfl
    intro other kept
    obtain ⟨otherLive, differs⟩ := mem_erase.mp kept
    refine ⟨otherLive, ?_⟩
    simp [removalQueued, queue, AuctionHouse.removeAuction, differs]

/-! ## Runs -/

theorem Fair.step {house : AuctionHouse} (fair : Fair house) {event : AuctionEvent}
    (spares : SparesSettled config house event) : Fair (step config house event) := by
  unfold Auctions.step
  rw [fair.wellFormed.running]
  cases event with
  | sellItem request => exact fair.handleAuctionSellItem request
  | placeBid context request now =>
      exact fair.handleAuctionPlaceBid config context request now spares
  | removeItem context player auctionId =>
      exact fair.handleAuctionRemoveItem config context player auctionId spares
  | update context now => exact fair.update config context now spares
  | worker => exact fair.executeNext

/-- A house at the start of a run: nothing has been sent yet. -/
structure Opening (house : AuctionHouse) : Prop where
  wellFormed : WellFormed house
  nothingSent : house.mails = []
  buyouts : ∀ heapEntry ∈ house.heap, ¬ house.removalQueued heapEntry.pointer →
    BidBelowBuyout heapEntry.entry

theorem Opening.fair {house : AuctionHouse} (opening : Opening house) : Fair house := by
  have nothing : ∀ auctionId, house.mailsAbout auctionId = [] := by
    intro auctionId
    simp [mailsAbout, opening.nothingSent]
  have refunds : ∀ bid, OnlyRefunds [] bid := by simp [OnlyRefunds]
  constructor
  · exact opening.wellFormed
  · simp [opening.nothingSent]
  · intro auctionId
    rw [nothing]
    exact (refunds 0).settledOnce
  · intro heapEntry live isOpen
    rw [nothing]
    exact ⟨refunds _, opening.buyouts heapEntry live isOpen⟩
  · intro heapEntry live isQueued
    rw [nothing]
    exact .inl (refunds 0).nobodyWon

/--
In a run which leaves settled auctions alone, every state it visits has settled
every auction at most once.
-/
theorem settlesOnce_throughout (house : AuctionHouse) (events : List AuctionEvent)
    (opening : Opening house)
    (spares : EveryStep (step config) (SparesSettled config) house events) :
    Throughout (step config) SettlesOnce house events := by
  have fair : Throughout (step config) Fair house events :=
    throughout_of_invariant (fun _ _ fair spares => fair.step config spares)
      opening.fair spares
  exact fair.mono fun _ fair => fair.settlesOnce

/-! ## Two runs -/

theorem opened_opening (players : List PlayerMoney) :
    Opening (AuctionHouse.opened players) := by
  constructor
  · constructor <;> simp [AuctionHouse.opened, removalQueued]
  · rfl
  · simp [AuctionHouse.opened]

/-- While the queue is empty nothing is settled but still in the house. -/
theorem sparesSettled_of_idle {house : AuctionHouse} (event : AuctionEvent)
    (idle : house.queue = []) : SparesSettled config house event := by
  have none : ∀ pointer, ¬ house.removalQueued pointer := by
    simp [removalQueued, idle]
  cases event with
  | sellItem => trivial
  | placeBid => exact fun heapEntry _ _ _ => none heapEntry.pointer
  | removeItem => exact fun heapEntry _ _ => none heapEntry.pointer
  | update => exact fun heapEntry _ queued => absurd queued (none heapEntry.pointer)
  | worker => trivial

/-- A cut of five percent, and an hour until mails arrive. -/
def smallHouse : AuctionConfig where
  auctionCut := fun entry => entry.bid * 5 / 100
  fivePercent := fun bid => bid * 5 / 100
  mailDeliveryDelay := 3600

def everybodyOnline : RequestContext where
  inWorld := fun _ => true
  connected := fun _ => true
  accountOf := fun guid => guid

/-- A seller and two bidders. -/
def threePlayers : List PlayerMoney :=
  [{ guid := 1, money := 1000 }, { guid := 2, money := 5000 }, { guid := 3, money := 5000 }]

def swordForSale : SellRequest where
  player := 1
  itemGUIDLow := 70
  itemEntry := 25
  itemCount := 1
  bid := 100
  buyout := 2000
  expireTime := 43200
  deposit := 100
  auctionHouseEntry := { houseId := 7, faction := 120, depositPercent := 5, cutPercent := 5 }

/-- The worker is too late: two players buy the same sword. -/
def boughtTwice : List AuctionEvent :=
  [.sellItem swordForSale, .worker,
    .placeBid everybodyOnline { player := 2, auctionId := 1, price := 2000 } 10,
    .placeBid everybodyOnline { player := 3, auctionId := 1, price := 2001 } 11,
    .worker, .worker]

/-- The seller is paid twice, the winner gets his price back, and the worker crashes. -/
theorem boughtTwice_settles_twice :
    Opening (AuctionHouse.opened threePlayers) ∧
      ¬ Throughout (step smallHouse) SettlesOnce (AuctionHouse.opened threePlayers)
        boughtTwice := by
  refine ⟨opened_opening _, ?_⟩
  rintro ⟨-, -, -, -, settles, -, last⟩
  have profits := (settles.once 1).profits
  revert profits
  decide

/-- With the worker in time a sword is bid on, bought out and removed. -/
def boughtOnce : List AuctionEvent :=
  [.sellItem swordForSale, .worker,
    .placeBid everybodyOnline { player := 2, auctionId := 1, price := 150 } 10,
    .placeBid everybodyOnline { player := 3, auctionId := 1, price := 2000 } 11,
    .worker, .update everybodyOnline 50000]

theorem boughtOnce_settlesOnce :
    Throughout (step smallHouse) SettlesOnce (AuctionHouse.opened threePlayers)
      boughtOnce := by
  apply settlesOnce_throughout smallHouse _ _ (opened_opening threePlayers)
  refine ⟨trivial, trivial, ?_, ?_, trivial, ?_, trivial⟩
  · exact sparesSettled_of_idle smallHouse _ rfl
  · exact sparesSettled_of_idle smallHouse _ rfl
  · exact sparesSettled_of_idle smallHouse _ rfl

end RealmServer.Auctions
