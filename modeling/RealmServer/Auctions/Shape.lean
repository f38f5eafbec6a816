import RealmServer.Auctions.House

/-!
# The shape of the auction house

The map of auctions, the heap and the queue refer to each other by pointers.
`WellFormed` says that they agree: every slot and every queued event has its
live entry, and a removal is queued at most once.  `Sends` collects what a
handler does besides: money and mails, which leave the shape alone.
-/

namespace RealmServer.Auctions

open Table Players AuctionHouse

variable (config : AuctionConfig)

/-! ## The shape of a house -/

/-- The worker has been told to remove the entry. -/
def AuctionHouse.removalQueued (house : AuctionHouse) (pointer : Pointer) : Prop :=
  .removeAuction pointer ∈ house.queue

/-- Map, heap and queue agree, and no pointer outlives its entry. -/
structure WellFormed (house : AuctionHouse) : Prop where
  running : house.crashed = false
  pointers : (house.heap.map HeapEntry.pointer).Nodup
  ids : (house.heap.map (·.entry.id)).Nodup
  slotIds : (house.auctionsMap.map AuctionSlot.id).Nodup
  slots : ∀ slot ∈ house.auctionsMap, ∃ heapEntry ∈ house.heap,
    heapEntry.pointer = slot.pointer ∧ heapEntry.entry.id = slot.id
  events : house.queue.Nodup
  adds : ∀ pointer, .addAuction pointer ∈ house.queue →
    (∃ heapEntry ∈ house.heap, heapEntry.pointer = pointer) ∧
      ∀ slot ∈ house.auctionsMap, slot.pointer ≠ pointer
  removes : ∀ pointer, house.removalQueued pointer →
    ∃ slot ∈ house.auctionsMap, slot.pointer = pointer
  freshIds : ∀ heapEntry ∈ house.heap, heapEntry.entry.id < house.nextAuctionId
  freshPointers : ∀ heapEntry ∈ house.heap, heapEntry.pointer < house.nextPointer

/-- The parts `WellFormed` is about. -/
structure SameShape (house next : AuctionHouse) : Prop where
  heap : next.heap = house.heap
  auctionsMap : next.auctionsMap = house.auctionsMap
  queue : next.queue = house.queue
  nextAuctionId : next.nextAuctionId = house.nextAuctionId
  nextPointer : next.nextPointer = house.nextPointer
  crashed : next.crashed = house.crashed

theorem SameShape.refl (house : AuctionHouse) : SameShape house house :=
  ⟨rfl, rfl, rfl, rfl, rfl, rfl⟩

theorem SameShape.trans {first second third : AuctionHouse}
    (left : SameShape first second) (right : SameShape second third) :
    SameShape first third :=
  ⟨right.heap.trans left.heap, right.auctionsMap.trans left.auctionsMap,
    right.queue.trans left.queue, right.nextAuctionId.trans left.nextAuctionId,
    right.nextPointer.trans left.nextPointer, right.crashed.trans left.crashed⟩

theorem WellFormed.of_sameShape {house next : AuctionHouse}
    (wellFormed : WellFormed house) (same : SameShape house next) : WellFormed next := by
  obtain ⟨heap, auctionsMap, queue, nextAuctionId, nextPointer, crashed⟩ := same
  constructor
  · rw [crashed, wellFormed.running]
  · rw [heap]
    exact wellFormed.pointers
  · rw [heap]
    exact wellFormed.ids
  · rw [auctionsMap]
    exact wellFormed.slotIds
  · rw [heap, auctionsMap]
    exact wellFormed.slots
  · rw [queue]
    exact wellFormed.events
  · rw [heap, auctionsMap, queue]
    exact wellFormed.adds
  · unfold removalQueued
    rw [auctionsMap, queue]
    exact wellFormed.removes
  · rw [heap, nextAuctionId]
    exact wellFormed.freshIds
  · rw [heap, nextPointer]
    exact wellFormed.freshPointers

/-! ## Mails -/

/-- A step which only sends some of the mails, in their order. -/
structure Sends (expected : List AuctionMail) (house next : AuctionHouse) : Prop where
  shape : SameShape house next
  mails : ∃ added, added.Sublist expected ∧ next.mails = house.mails ++ added

theorem Sends.of_eq {house next : AuctionHouse} (shape : SameShape house next)
    (mails : next.mails = house.mails) : Sends [] house next :=
  ⟨shape, [], List.Sublist.refl _, by simp [mails]⟩

theorem Sends.refl (house : AuctionHouse) : Sends [] house house :=
  Sends.of_eq (SameShape.refl house) rfl

theorem Sends.trans {first second third : AuctionHouse} {left right : List AuctionMail}
    (before : Sends left first second) (after : Sends right second third) :
    Sends (left ++ right) first third := by
  obtain ⟨beforeShape, sent, sentSublist, sentMails⟩ := before
  obtain ⟨afterShape, added, addedSublist, addedMails⟩ := after
  refine ⟨beforeShape.trans afterShape, sent ++ added,
    sentSublist.append addedSublist, ?_⟩
  rw [addedMails, sentMails, List.append_assoc]

theorem Sends.mono {house next : AuctionHouse} {few many : List AuctionMail}
    (sends : Sends few house next) (sublist : few.Sublist many) :
    Sends many house next := by
  obtain ⟨shape, added, addedSublist, mails⟩ := sends
  exact ⟨shape, added, addedSublist.trans sublist, mails⟩

theorem sendMail_sends (house : AuctionHouse) (mail : AuctionMail) :
    Sends [mail] house (house.sendMail mail) :=
  ⟨⟨rfl, rfl, rfl, rfl, rfl, rfl⟩, [mail], List.Sublist.refl _, rfl⟩

theorem charge_sends (house : AuctionHouse) (player amount : Nat)
    (type : MoneyLogType) (auctionId : Nat) :
    Sends [] house (house.charge player amount type auctionId) :=
  Sends.of_eq ⟨rfl, rfl, rfl, rfl, rfl, rfl⟩ rfl

theorem removeAItem_sends (house : AuctionHouse) (item : Nat) :
    Sends [] house (house.removeAItem item) :=
  Sends.of_eq ⟨rfl, rfl, rfl, rfl, rfl, rfl⟩ rfl

section Messages

variable (context : RequestContext) (house : AuctionHouse) (entry : AuctionEntry)

theorem sendAuctionOutbiddedMail_sends :
    Sends [outbiddedMail config entry] house
      (house.sendAuctionOutbiddedMail config context entry) := by
  unfold sendAuctionOutbiddedMail
  split_ifs
  · exact sendMail_sends house _
  · exact (Sends.refl house).mono (List.nil_sublist _)

theorem sendAuctionCancelledToBidderMail_sends :
    Sends [cancelledToBidderMail entry] house
      (house.sendAuctionCancelledToBidderMail context entry) := by
  unfold sendAuctionCancelledToBidderMail
  split_ifs
  · exact sendMail_sends house _
  · exact (Sends.refl house).mono (List.nil_sublist _)

theorem sendAuctionSuccessfulMail_sends :
    Sends [successfulMail config entry] house
      (house.sendAuctionSuccessfulMail config context entry) := by
  unfold sendAuctionSuccessfulMail
  split_ifs
  · exact sendMail_sends house _
  · exact (Sends.refl house).mono (List.nil_sublist _)

theorem sendAuctionWonMail_sends :
    Sends [wonMail entry] house (house.sendAuctionWonMail context entry) := by
  unfold sendAuctionWonMail
  split_ifs
  · exact (Sends.refl house).mono (List.nil_sublist _)
  · exact sendMail_sends house _
  · exact (removeAItem_sends house _).mono (List.nil_sublist _)

theorem sendAuctionExpiredMail_sends :
    Sends [returnMail .expired entry] house
      (house.sendAuctionExpiredMail context entry) := by
  unfold sendAuctionExpiredMail
  split_ifs
  · exact (Sends.refl house).mono (List.nil_sublist _)
  · exact sendMail_sends house _
  · exact (removeAItem_sends house _).mono (List.nil_sublist _)

theorem settleSale_sends (now : Nat) :
    Sends [successfulMail config entry, wonMail entry] house
      (house.settleSale config context entry now) := by
  have pending : Sends [] house (house.addPendingSale config entry now) :=
    Sends.of_eq ⟨rfl, rfl, rfl, rfl, rfl, rfl⟩ rfl
  exact (pending.trans (sendAuctionSuccessfulMail_sends config context _ entry)).trans
    (sendAuctionWonMail_sends context _ entry)

end Messages

/-! ### Sending commutes with a change of the shape -/

theorem Sends.setEntry {house next : AuctionHouse} {expected : List AuctionMail}
    (sends : Sends expected house next) (pointer : Pointer) (entry : AuctionEntry) :
    Sends expected (house.setEntry pointer entry) (next.setEntry pointer entry) := by
  obtain ⟨⟨heap, auctionsMap, queue, nextAuctionId, nextPointer, crashed⟩, mails⟩ := sends
  refine ⟨⟨?_, auctionsMap, queue, nextAuctionId, nextPointer, crashed⟩, mails⟩
  unfold AuctionHouse.setEntry
  rw [heap]

theorem Sends.queueEvent {house next : AuctionHouse} {expected : List AuctionMail}
    (sends : Sends expected house next) (event : QueuedEvent) :
    Sends expected (house.queueEvent event) (next.queueEvent event) := by
  obtain ⟨⟨heap, auctionsMap, queue, nextAuctionId, nextPointer, crashed⟩, mails⟩ := sends
  refine ⟨⟨heap, auctionsMap, ?_, nextAuctionId, nextPointer, crashed⟩, mails⟩
  unfold AuctionHouse.queueEvent
  rw [queue]

theorem Sends.removeAuction {house next : AuctionHouse} {expected : List AuctionMail}
    (sends : Sends expected house next) (slot : AuctionSlot) :
    Sends expected (house.removeAuction slot) (next.removeAuction slot) := by
  obtain ⟨⟨heap, auctionsMap, queue, nextAuctionId, nextPointer, crashed⟩, mails⟩ := sends
  refine ⟨⟨?_, ?_, queue, nextAuctionId, nextPointer, crashed⟩, mails⟩
  · unfold AuctionHouse.removeAuction
    rw [heap]
  · unfold AuctionHouse.removeAuction
    rw [auctionsMap]

section Handlers

variable (context : RequestContext) (house : AuctionHouse)

theorem placeBid_sends (heapEntry : HeapEntry) (request : BidRequest) :
    Sends [outbiddedMail config heapEntry.entry]
      (house.setEntry heapEntry.pointer
        { heapEntry.entry with bidder := request.player, bid := request.price })
      (house.placeBid config context heapEntry request) := by
  unfold placeBid
  dsimp only
  apply Sends.setEntry
  split_ifs
  · exact (charge_sends house _ _ _ _).mono (List.nil_sublist _)
  · exact (sendAuctionOutbiddedMail_sends config context house _).trans
      (charge_sends _ _ _ _ _)
  · exact (charge_sends house _ _ _ _).mono (List.nil_sublist _)

/-- The entry which a buyout leaves behind. -/
def soldTo (entry : AuctionEntry) (bidder : Nat) : AuctionEntry :=
  { entry with bidder, bid := entry.buyout }

theorem buyOut_sends (heapEntry : HeapEntry) (request : BidRequest) (now : Nat) :
    Sends
      [outbiddedMail config heapEntry.entry,
        successfulMail config (soldTo heapEntry.entry request.player),
        wonMail (soldTo heapEntry.entry request.player)]
      ((house.setEntry heapEntry.pointer
        (soldTo heapEntry.entry request.player)).queueEvent
          (.removeAuction heapEntry.pointer))
      (house.buyOut config context heapEntry request now) := by
  unfold buyOut
  dsimp only
  apply Sends.queueEvent
  -- the money and the refund come before the entry is rewritten
  have refund : Sends [outbiddedMail config heapEntry.entry] house
      (if request.player = heapEntry.entry.bidder then
        house.charge request.player
          (sub32 heapEntry.entry.buyout heapEntry.entry.bid) .ahBuyoutBid
          heapEntry.entry.id
      else if heapEntry.entry.bidder ≠ 0 then
        (house.charge request.player heapEntry.entry.buyout .ahBuyout
          heapEntry.entry.id).sendAuctionOutbiddedMail config context heapEntry.entry
      else house.charge request.player heapEntry.entry.buyout .ahBuyout
        heapEntry.entry.id) := by
    split_ifs
    · exact (charge_sends house _ _ _ _).mono (List.nil_sublist _)
    · exact (charge_sends house _ _ _ _).trans
        (sendAuctionOutbiddedMail_sends config context _ _)
    · exact (charge_sends house _ _ _ _).mono (List.nil_sublist _)
  have settled := (refund.setEntry heapEntry.pointer
    (soldTo heapEntry.entry request.player)).trans
      (settleSale_sends config context _ (soldTo heapEntry.entry request.player) now)
  exact settled.trans (removeAItem_sends _ _)

theorem cancel_sends (heapEntry : HeapEntry) (player : Nat) :
    Sends [cancelledToBidderMail heapEntry.entry, returnMail .canceled heapEntry.entry]
      (house.queueEvent (.removeAuction heapEntry.pointer))
      (house.cancel config context heapEntry player) := by
  unfold cancel
  dsimp only
  apply Sends.queueEvent
  have refund : Sends [cancelledToBidderMail heapEntry.entry] house
      (if heapEntry.entry.bidder ≠ 0 then
        (house.sendAuctionCancelledToBidderMail context heapEntry.entry).charge player
          (config.auctionCut heapEntry.entry) .ahCancel heapEntry.entry.id
      else house) := by
    split_ifs
    · exact (sendAuctionCancelledToBidderMail_sends context house _).trans
        (charge_sends _ _ _ _ _)
    · exact (Sends.refl house).mono (List.nil_sublist _)
  exact (refund.trans (sendMail_sends _ _)).trans (removeAItem_sends _ _)

/-- The mails of an auction which the clock closes. -/
def expiryMails (entry : AuctionEntry) : List AuctionMail :=
  if entry.bidder = 0 then [returnMail .expired entry]
  else [successfulMail config entry, wonMail entry]

theorem updateAuction_sends (now : Nat) {slot : AuctionSlot} {heapEntry : HeapEntry}
    (found : house.deref slot.pointer = some heapEntry)
    (expired : isExpired heapEntry.entry now = true) :
    Sends (expiryMails config heapEntry.entry) (house.removeAuction slot)
      (updateAuction config context now house slot) := by
  unfold updateAuction expiryMails
  rw [found]
  dsimp only
  rw [expired]
  apply Sends.removeAuction
  have settled : Sends
      (if heapEntry.entry.bidder = 0 then [returnMail .expired heapEntry.entry]
        else [successfulMail config heapEntry.entry, wonMail heapEntry.entry]) house
      (if heapEntry.entry.bidder = 0 then
        house.sendAuctionExpiredMail context heapEntry.entry
      else house.settleSale config context heapEntry.entry now) := by
    split_ifs
    · exact sendAuctionExpiredMail_sends context house _
    · exact settleSale_sends config context house _ now
  simpa using settled.trans (removeAItem_sends _ heapEntry.entry.itemGUIDLow)

end Handlers

/-! ## Entries and pointers -/

theorem deref_eq_some_iff {house : AuctionHouse} (wellFormed : WellFormed house)
    {pointer : Pointer} {heapEntry : HeapEntry} :
    house.deref pointer = some heapEntry ↔
      heapEntry ∈ house.heap ∧ heapEntry.pointer = pointer := by
  constructor
  · intro found
    exact ⟨mem_of_find found, key_of_find found⟩
  · rintro ⟨member, rfl⟩
    exact find_of_mem wellFormed.pointers member

/-- Two live entries with one id are one entry. -/
theorem WellFormed.eq_of_id {house : AuctionHouse} (wellFormed : WellFormed house)
    {left right : HeapEntry} (leftMember : left ∈ house.heap)
    (rightMember : right ∈ house.heap) (same : left.entry.id = right.entry.id) :
    left = right :=
  List.inj_on_of_nodup_map wellFormed.ids leftMember rightMember same

theorem WellFormed.eq_of_pointer {house : AuctionHouse} (wellFormed : WellFormed house)
    {left right : HeapEntry} (leftMember : left ∈ house.heap)
    (rightMember : right ∈ house.heap) (same : left.pointer = right.pointer) :
    left = right :=
  List.inj_on_of_nodup_map wellFormed.pointers leftMember rightMember same

/-- A slot of the map is never dangling. -/
theorem deref_slot {house : AuctionHouse} (wellFormed : WellFormed house)
    {slot : AuctionSlot} (member : slot ∈ house.auctionsMap) :
    ∃ heapEntry, house.deref slot.pointer = some heapEntry ∧
      heapEntry ∈ house.heap ∧ heapEntry.pointer = slot.pointer ∧
      heapEntry.entry.id = slot.id := by
  obtain ⟨heapEntry, live, pointer, id⟩ := wellFormed.slots slot member
  exact ⟨heapEntry, (deref_eq_some_iff wellFormed).mpr ⟨live, pointer⟩, live, pointer, id⟩

theorem getAuction_cases {house : AuctionHouse} (wellFormed : WellFormed house) (id : Nat) :
    house.getAuction id = .missing ∨
      ∃ heapEntry slot, house.getAuction id = .found heapEntry ∧
        slot ∈ house.auctionsMap ∧ heapEntry ∈ house.heap ∧
        heapEntry.pointer = slot.pointer ∧ heapEntry.entry.id = slot.id ∧
        slot.id = id := by
  unfold getAuction
  cases slotFound : find AuctionSlot.id house.auctionsMap id with
  | none => exact .inl rfl
  | some slot =>
      have member := mem_of_find slotFound
      obtain ⟨heapEntry, found, live, pointer, slotId⟩ := deref_slot wellFormed member
      refine .inr ⟨heapEntry, slot, ?_, member, live, pointer, slotId,
        key_of_find slotFound⟩
      dsimp only
      rw [found]

/-! ## How the shape changes -/

theorem removalQueued_of_queueEvent {house : AuctionHouse} {pointer other : Pointer} :
    (house.queueEvent (.removeAuction pointer)).removalQueued other ↔
      house.removalQueued other ∨ other = pointer := by
  simp [removalQueued, queueEvent]

theorem mem_setEntry {house : AuctionHouse} {pointer : Pointer} {entry : AuctionEntry}
    {heapEntry : HeapEntry} :
    heapEntry ∈ (house.setEntry pointer entry).heap ↔
      (heapEntry ∈ house.heap ∧ heapEntry.pointer ≠ pointer) ∨
        ∃ old ∈ house.heap, old.pointer = pointer ∧
          ({ pointer, entry } : HeapEntry) = heapEntry := by
  unfold setEntry
  rw [mem_modify]
  apply or_congr Iff.rfl
  constructor
  · rintro ⟨old, live, rfl, rfl⟩
    exact ⟨old, live, rfl, rfl⟩
  · rintro ⟨old, live, rfl, rfl⟩
    exact ⟨old, live, rfl, rfl⟩

/-- Rewriting an entry under its id keeps the shape. -/
theorem WellFormed.setEntry {house : AuctionHouse} (wellFormed : WellFormed house)
    {heapEntry : HeapEntry} (live : heapEntry ∈ house.heap) {entry : AuctionEntry}
    (sameId : entry.id = heapEntry.entry.id) :
    WellFormed (house.setEntry heapEntry.pointer entry) := by
  have ids : ∀ old ∈ house.heap, old.pointer = heapEntry.pointer →
      old.entry.id = entry.id := by
    intro old oldLive samePointer
    rw [wellFormed.eq_of_pointer oldLive live samePointer, sameId]
  have kept : ∀ old ∈ house.heap, ∃ new ∈ (house.setEntry heapEntry.pointer entry).heap,
      new.pointer = old.pointer ∧ new.entry.id = old.entry.id := by
    intro old oldLive
    by_cases samePointer : old.pointer = heapEntry.pointer
    · exact ⟨{ pointer := heapEntry.pointer, entry },
        mem_setEntry.mpr (.inr ⟨old, oldLive, samePointer, rfl⟩), samePointer.symm,
        (ids old oldLive samePointer).symm⟩
    · exact ⟨old, mem_setEntry.mpr (.inl ⟨oldLive, samePointer⟩), rfl, rfl⟩
  have origin : ∀ new ∈ (house.setEntry heapEntry.pointer entry).heap,
      ∃ old ∈ house.heap, old.pointer = new.pointer ∧ old.entry.id = new.entry.id := by
    intro new member
    rcases mem_setEntry.mp member with ⟨oldLive, _⟩ | ⟨old, oldLive, samePointer, rfl⟩
    · exact ⟨new, oldLive, rfl, rfl⟩
    · exact ⟨old, oldLive, samePointer, ids old oldLive samePointer⟩
  constructor
  · exact wellFormed.running
  · exact modify_keys wellFormed.pointers _ fun _ => rfl
  · have sameIds : (house.setEntry heapEntry.pointer entry).heap.map (·.entry.id) =
        house.heap.map (·.entry.id) := by
      unfold AuctionHouse.setEntry Table.modify
      rw [List.map_map]
      apply List.map_congr_left
      intro old oldLive
      dsimp only [Function.comp_apply]
      split_ifs with samePointer
      · exact (ids old oldLive samePointer).symm
      · rfl
    rw [sameIds]
    exact wellFormed.ids
  · exact wellFormed.slotIds
  · intro slot member
    obtain ⟨old, oldLive, pointer, id⟩ := wellFormed.slots slot member
    obtain ⟨new, newLive, samePointer, sameIds⟩ := kept old oldLive
    exact ⟨new, newLive, samePointer.trans pointer, sameIds.trans id⟩
  · exact wellFormed.events
  · intro pointer queued
    obtain ⟨⟨old, oldLive, same⟩, absent⟩ := wellFormed.adds pointer queued
    obtain ⟨new, newLive, samePointer, _⟩ := kept old oldLive
    exact ⟨⟨new, newLive, samePointer.trans same⟩, absent⟩
  · exact wellFormed.removes
  · intro new member
    obtain ⟨old, oldLive, _, id⟩ := origin new member
    exact id ▸ wellFormed.freshIds old oldLive
  · intro new member
    obtain ⟨old, oldLive, pointer, _⟩ := origin new member
    exact pointer ▸ wellFormed.freshPointers old oldLive

theorem WellFormed.queueRemoval {house : AuctionHouse} (wellFormed : WellFormed house)
    {slot : AuctionSlot} (member : slot ∈ house.auctionsMap)
    (fresh : ¬ house.removalQueued slot.pointer) :
    WellFormed (house.queueEvent (.removeAuction slot.pointer)) := by
  constructor
  · exact wellFormed.running
  · exact wellFormed.pointers
  · exact wellFormed.ids
  · exact wellFormed.slotIds
  · exact wellFormed.slots
  · apply List.nodup_append.mpr
    refine ⟨wellFormed.events, by simp, ?_⟩
    intro event queued new isNew same
    rw [List.mem_singleton] at isNew
    subst isNew same
    exact fresh queued
  · intro pointer queued
    have before : QueuedEvent.addAuction pointer ∈ house.queue := by
      simpa [queueEvent] using queued
    exact wellFormed.adds pointer before
  · intro pointer queued
    rcases removalQueued_of_queueEvent.mp queued with before | rfl
    · exact wellFormed.removes pointer before
    · exact ⟨slot, member, rfl⟩
  · exact wellFormed.freshIds
  · exact wellFormed.freshPointers

/-- The worker's first move. -/
theorem WellFormed.takeEvent {house : AuctionHouse} (wellFormed : WellFormed house)
    {event : QueuedEvent} {rest : List QueuedEvent} (queue : house.queue = event :: rest) :
    WellFormed { house with queue := rest } := by
  have later : ∀ other ∈ rest, other ∈ house.queue := by
    intro other member
    rw [queue]
    exact List.mem_cons_of_mem event member
  have events := wellFormed.events
  rw [queue] at events
  exact { wellFormed with
    events := events.of_cons
    adds := fun pointer queued => wellFormed.adds pointer (later _ queued)
    removes := fun pointer queued => wellFormed.removes pointer (later _ queued) }

theorem WellFormed.slot_eq {house : AuctionHouse} (wellFormed : WellFormed house)
    {left right : AuctionSlot} (leftMember : left ∈ house.auctionsMap)
    (rightMember : right ∈ house.auctionsMap) (same : left.pointer = right.pointer) :
    left = right := by
  obtain ⟨leftEntry, leftLive, leftPointer, leftId⟩ := wellFormed.slots left leftMember
  obtain ⟨rightEntry, rightLive, rightPointer, rightId⟩ := wellFormed.slots right rightMember
  have sameEntry : leftEntry = rightEntry := by
    apply wellFormed.eq_of_pointer leftLive rightLive
    rw [leftPointer, rightPointer, same]
  apply List.inj_on_of_nodup_map wellFormed.slotIds leftMember rightMember
  rw [← leftId, ← rightId, sameEntry]

/-- Deleting an entry whose removal is not queued leaves no pointer to it behind. -/
theorem WellFormed.removeAuction {house : AuctionHouse} (wellFormed : WellFormed house)
    {slot : AuctionSlot} (member : slot ∈ house.auctionsMap)
    (notQueued : ¬ house.removalQueued slot.pointer) :
    WellFormed (house.removeAuction slot) := by
  have stays : ∀ other ∈ house.auctionsMap, other.pointer ≠ slot.pointer →
      other ∈ (house.removeAuction slot).auctionsMap := by
    intro other otherMember differs
    refine mem_erase.mpr ⟨otherMember, fun sameId => differs ?_⟩
    rw [List.inj_on_of_nodup_map wellFormed.slotIds otherMember member sameId]
  constructor
  · exact wellFormed.running
  · exact erase_keys wellFormed.pointers _
  · exact filter_keys wellFormed.ids _
  · exact erase_keys wellFormed.slotIds _
  · intro other kept
    obtain ⟨otherMember, otherId⟩ := mem_erase.mp kept
    obtain ⟨heapEntry, live, pointer, id⟩ := wellFormed.slots other otherMember
    refine ⟨heapEntry, mem_erase.mpr ⟨live, fun deleted => otherId ?_⟩, pointer, id⟩
    rw [wellFormed.slot_eq otherMember member (pointer ▸ deleted)]
  · exact wellFormed.events
  · intro pointer queued
    obtain ⟨⟨heapEntry, live, rfl⟩, absent⟩ := wellFormed.adds pointer queued
    refine ⟨⟨heapEntry, mem_erase.mpr ⟨live, fun deleted => ?_⟩, rfl⟩, ?_⟩
    · exact absent slot member deleted.symm
    · intro other kept
      exact absent other (mem_erase.mp kept).1
  · intro pointer queued
    obtain ⟨other, otherMember, rfl⟩ := wellFormed.removes pointer queued
    refine ⟨other, stays other otherMember fun same => notQueued ?_, rfl⟩
    exact same ▸ queued
  · intro heapEntry kept
    exact wellFormed.freshIds heapEntry (mem_erase.mp kept).1
  · intro heapEntry kept
    exact wellFormed.freshPointers heapEntry (mem_erase.mp kept).1

/-- `AddAuction` for an entry whose event has just been taken from the queue. -/
theorem WellFormed.assignSlot {house : AuctionHouse} (wellFormed : WellFormed house)
    {heapEntry : HeapEntry} (live : heapEntry ∈ house.heap)
    (absent : ∀ slot ∈ house.auctionsMap, slot.pointer ≠ heapEntry.pointer)
    (notQueued : .addAuction heapEntry.pointer ∉ house.queue) :
    WellFormed
      { house with
        auctionsMap := assign AuctionSlot.id house.auctionsMap
          { id := heapEntry.entry.id, pointer := heapEntry.pointer } } := by
  have otherId : ∀ slot ∈ house.auctionsMap, slot.id ≠ heapEntry.entry.id := by
    intro slot member sameId
    obtain ⟨old, oldLive, pointer, id⟩ := wellFormed.slots slot member
    have same : old = heapEntry := wellFormed.eq_of_id oldLive live (id.trans sameId)
    exact absent slot member (same ▸ pointer.symm)
  constructor
  · exact wellFormed.running
  · exact wellFormed.pointers
  · exact wellFormed.ids
  · exact assign_keys wellFormed.slotIds _
  · intro slot member
    rcases mem_assign.mp member with ⟨old, _⟩ | rfl
    · exact wellFormed.slots slot old
    · exact ⟨heapEntry, live, rfl, rfl⟩
  · exact wellFormed.events
  · intro pointer queued
    obtain ⟨alive, noSlot⟩ := wellFormed.adds pointer queued
    refine ⟨alive, fun slot member => ?_⟩
    rcases mem_assign.mp member with ⟨old, _⟩ | rfl
    · exact noSlot slot old
    · rintro rfl
      exact notQueued queued
  · intro pointer queued
    obtain ⟨slot, member, same⟩ := wellFormed.removes pointer queued
    exact ⟨slot, mem_assign.mpr (.inl ⟨member, otherId slot member⟩), same⟩
  · exact wellFormed.freshIds
  · exact wellFormed.freshPointers

theorem WellFormed.not_pointer {house : AuctionHouse} (wellFormed : WellFormed house)
    {slot : AuctionSlot} (member : slot ∈ house.auctionsMap) :
    slot.pointer ≠ house.nextPointer := by
  obtain ⟨heapEntry, live, pointer, _⟩ := wellFormed.slots slot member
  rw [← pointer]
  exact Nat.ne_of_lt (wellFormed.freshPointers heapEntry live)

theorem WellFormed.listEntry {house : AuctionHouse} (wellFormed : WellFormed house)
    {entry : AuctionEntry} (id : entry.id = house.nextAuctionId) :
    WellFormed (house.listEntry entry) := by
  have member : ∀ {heapEntry}, heapEntry ∈ (house.listEntry entry).heap →
      heapEntry ∈ house.heap ∨
        heapEntry = { pointer := house.nextPointer, entry } := by
    intro heapEntry live
    simpa [AuctionHouse.listEntry] using live
  constructor
  · exact wellFormed.running
  · rw [AuctionHouse.listEntry, List.map_append, List.nodup_append]
    refine ⟨wellFormed.pointers, by simp, ?_⟩
    rintro pointer old _ new rfl
    obtain ⟨heapEntry, live, rfl⟩ := List.mem_map.mp old
    simp only [List.map_cons, List.map_nil, List.mem_singleton] at new
    exact Nat.ne_of_lt (wellFormed.freshPointers heapEntry live) new
  · rw [AuctionHouse.listEntry, List.map_append, List.nodup_append]
    refine ⟨wellFormed.ids, by simp, ?_⟩
    rintro auctionId old _ new rfl
    obtain ⟨heapEntry, live, rfl⟩ := List.mem_map.mp old
    have fresh := wellFormed.freshIds heapEntry live
    simp only [List.map_cons, List.map_nil, List.mem_singleton] at new
    omega
  · exact wellFormed.slotIds
  · intro slot inMap
    obtain ⟨heapEntry, live, pointer, sameId⟩ := wellFormed.slots slot inMap
    exact ⟨heapEntry, List.mem_append_left _ live, pointer, sameId⟩
  · apply List.nodup_append.mpr
    refine ⟨wellFormed.events, by simp, ?_⟩
    rintro event queued _ new rfl
    rw [List.mem_singleton] at new
    subst new
    obtain ⟨⟨heapEntry, live, pointer⟩, _⟩ := wellFormed.adds _ queued
    exact Nat.ne_of_lt (wellFormed.freshPointers heapEntry live) pointer
  · intro pointer queued
    have cases : .addAuction pointer ∈ house.queue ∨ pointer = house.nextPointer := by
      simpa [AuctionHouse.listEntry] using queued
    rcases cases with old | rfl
    · obtain ⟨⟨heapEntry, live, same⟩, absent⟩ := wellFormed.adds pointer old
      exact ⟨⟨heapEntry, List.mem_append_left _ live, same⟩, absent⟩
    · refine ⟨⟨_, List.mem_append_right _ (List.mem_singleton.mpr rfl), rfl⟩, ?_⟩
      exact fun slot inMap => wellFormed.not_pointer inMap
  · intro pointer queued
    have old : house.removalQueued pointer := by
      simpa [removalQueued, AuctionHouse.listEntry] using queued
    exact wellFormed.removes pointer old
  · intro heapEntry live
    show heapEntry.entry.id < house.nextAuctionId + 1
    rcases member live with old | rfl
    · exact Nat.lt_succ_of_lt (wellFormed.freshIds heapEntry old)
    · exact Nat.lt_succ_of_le id.le
  · intro heapEntry live
    show heapEntry.pointer < house.nextPointer + 1
    rcases member live with old | rfl
    · exact Nat.lt_succ_of_lt (wellFormed.freshPointers heapEntry old)
    · exact Nat.lt_succ_self _

/-! ## The worker -/

/-- What one event of the queue does; it never finds a dangling pointer. -/
theorem executeNext_cases {house : AuctionHouse} (wellFormed : WellFormed house) :
    house.executeNext = house ∨
      (∃ heapEntry rest, house.queue = .addAuction heapEntry.pointer :: rest ∧
        heapEntry ∈ house.heap ∧
        (∀ slot ∈ house.auctionsMap, slot.pointer ≠ heapEntry.pointer) ∧
        house.executeNext =
          { house with
            queue := rest
            auctionsMap := assign AuctionSlot.id house.auctionsMap
              { id := heapEntry.entry.id, pointer := heapEntry.pointer } }) ∨
      ∃ heapEntry slot rest, house.queue = .removeAuction slot.pointer :: rest ∧
        slot ∈ house.auctionsMap ∧ heapEntry ∈ house.heap ∧
        heapEntry.pointer = slot.pointer ∧
        house.executeNext = { house with queue := rest }.removeAuction slot := by
  unfold executeNext
  cases queue : house.queue with
  | nil => exact .inl rfl
  | cons event rest =>
      have taken := wellFormed.takeEvent queue
      right
      cases event with
      | addAuction pointer =>
          obtain ⟨⟨heapEntry, live, rfl⟩, absent⟩ := wellFormed.adds pointer
            (by rw [queue]; exact List.mem_cons_self)
          have found := (deref_eq_some_iff taken).mpr ⟨live, rfl⟩
          refine .inl ⟨heapEntry, rest, rfl, live, absent, ?_⟩
          dsimp only
          unfold executeAdd
          rw [found]
      | removeAuction pointer =>
          obtain ⟨slot, member, rfl⟩ := wellFormed.removes pointer
            (by rw [removalQueued, queue]; exact List.mem_cons_self)
          obtain ⟨heapEntry, found, live, samePointer, id⟩ := deref_slot taken member
          have slotFound : find AuctionSlot.id house.auctionsMap heapEntry.entry.id =
              some slot := by
            rw [id]
            exact find_of_mem taken.slotIds member
          refine .inr ⟨heapEntry, slot, rest, rfl, member, live, samePointer, ?_⟩
          dsimp only
          unfold executeRemove
          rw [found]
          dsimp only
          rw [slotFound]

end RealmServer.Auctions
