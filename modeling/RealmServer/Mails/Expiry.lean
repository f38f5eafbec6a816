import RealmServer.Mails.Storage

/-!
# The walk over expired mails

`ReturnOrDeleteOldMails` walks along the hashed index of the store and changes
the store meanwhile: a mail is taken out at the iterator, and a returned mail is
linked anywhere in the order of the nodes, before or behind the iterator.  The
other nodes keep their order: a mail is returned after the old one was taken
out, so the store never grows and is not rehashed.  The order is that of the
list `storage`, and where new nodes get is up to `links`.  Whatever it is, the
walk does what `returnOrDeleteOldMails` does with the mails that were there at
its start.
-/

namespace RealmServer.Mails

open Table Players Transition PostOffice

variable (context : MailContext)

/-! ## The walk -/

structure Walk where
  post : PostOffice
  /-- How many nodes are before the iterator. -/
  position : Nat

/-- The last mail was inserted: its node gets a place, and the iterator stays at its own. -/
def Walk.link (place : Nat) (walk : Walk) : Walk :=
  let nodes := walk.post.storage.dropLast
  let new := walk.post.storage.getLast?.toList
  { post := { walk.post with storage := nodes.take place ++ new ++ nodes.drop place }
    position := if min place nodes.length ≤ walk.position then walk.position + 1
      else walk.position }

/-- `ReturnToSender` for the mail at the iterator; a new mail is linked where its id says. -/
def Walk.returnToSender (links : Nat → Nat) (walk : Walk) (mail : Mail) : Walk :=
  -- `index.end()`
  if context.now < mail.deliverTime then ⟨walk.post, walk.post.storage.length⟩
  else
    let post := walk.post.returnMail context mail 0
    if walk.post.nextMailId < post.nextMailId then
      Walk.link (links walk.post.nextMailId) ⟨post, walk.position⟩
    else ⟨post, walk.position⟩

/-- The loop of `ReturnOrDeleteOldMails`, with a bound for its turns. -/
def Walk.finish (links : Nat → Nat) : Nat → Walk → Option PostOffice
  | 0, _ => none
  | turns + 1, walk =>
      match walk.post.storage[walk.position]? with
      | none => some walk.post
      | some mail =>
          if mail.expireTime < context.now then
            if mail.messageType ≠ .normal ∨
                mail.checked &&& (maskCodPayment ||| maskReturned) ≠ 0 then
              finish links turns
                ⟨(walk.post.delete mail.messageID).write (.expired mail), walk.position⟩
            else finish links turns (walk.returnToSender context links mail)
          else finish links turns ⟨walk.post, walk.position + 1⟩

/-! ## The mails of a pass -/

def Mail.expired (mail : Mail) : Bool :=
  mail.expireTime < context.now

/-- Not already returned, from a player, and no payment. -/
def Mail.returnable (mail : Mail) : Bool :=
  mail.messageType = .normal ∧ mail.checked &&& (maskCodPayment ||| maskReturned) = 0

/-- There is somebody to return it to. -/
def Mail.hasSender (mail : Mail) : Bool :=
  mail.sender ≠ 0 ∧ context.exists mail.sender

/-- The mail by which another one comes back to its sender. -/
def returnedMail (messageID : Nat) (mail : Mail) : Mail :=
  newMail context messageID (returnDraft mail) mail.sender .normal mail.receiver maskReturned
    (returnDelay context mail 0)

/--
What is in the store after a pass: the mails which are not expired, and for each
expired one that is to be returned a new one.
-/
structure AfterPass (returns : Mail → Bool) (post final : PostOffice) : Prop where
  storage : final.storage.Perm
    (post.storage.filter (fun mail => !mail.expired context) ++
      (post.storage.filter fun mail => mail.expired context && returns mail).mapIdx
        fun index mail => returnedMail context (post.nextMailId + index) mail)
  gone : ∀ mail ∈ post.storage, mail.expired context = true →
    mail.messageID ∉ final.storage.map Mail.messageID

variable {context}

/-! ## One mail -/

section Mails

variable {post : PostOffice} (fresh : Fresh post) {mail : Mail}

include fresh

theorem returnMail_of_sender (normal : mail.messageType = .normal)
    (sender : mail.hasSender context = true) :
    (post.returnMail context mail 0).storage =
        erase Mail.messageID post.storage mail.messageID ++
          [returnedMail context post.nextMailId mail] ∧
      (post.returnMail context mail 0).nextMailId = post.nextMailId + 1 := by
  have sender : mail.sender ≠ 0 ∧ context.exists mail.sender = true := of_decide_eq_true sender
  unfold PostOffice.returnMail sendReturnToSender
  rw [if_pos ⟨normal, sender.1⟩, sender.2, if_neg (by decide)]
  exact ⟨storage_sendMailTo (fresh.delete mail.messageID) context _ _ _ _ _ _, rfl⟩

omit fresh in
theorem returnMail_of_nobody (nobody : mail.hasSender context = false) :
    post.returnMail context mail 0 =
      (post.delete mail.messageID).write (.notReturned mail) := by
  have nobody : ¬(mail.sender ≠ 0 ∧ context.exists mail.sender = true) :=
    of_decide_eq_false nobody
  unfold PostOffice.returnMail sendReturnToSender
  split_ifs with player missing
  · rfl
  · rw [Bool.not_eq_true', Bool.not_eq_false] at missing
    exact absurd ⟨player.2, missing⟩ nobody
  · rfl

end Mails

/-! ## The mails that were there -/

/-- The expired mails that are to be returned are delivered. -/
def Delivered (context : MailContext) (mails : List Mail) : Prop :=
  ∀ mail ∈ mails, mail.expired context = true → mail.returnable = true →
    mail.deliverTime ≤ context.now

/-- The mails for which a new one is sent. -/
def Mail.returns (context : MailContext) (mail : Mail) : Bool :=
  mail.returnable && mail.hasSender context

/-- What a pass over some of the mails leaves in the store. -/
def leftOver (context : MailContext) (storage : List Mail) (nextMailId : Nat)
    (mails : List Mail) : List Mail :=
  storage.filter (fun mail =>
      mail.messageID ∉ (mails.filter (Mail.expired context)).map Mail.messageID) ++
    (mails.filter fun mail => mail.expired context && mail.returns context).mapIdx
      fun index mail => returnedMail context (nextMailId + index) mail

section LeftOver

variable {storage rest : List Mail} {nextMailId : Nat} {mail : Mail}

theorem leftOver_nil : leftOver context storage nextMailId [] = storage := by
  simp [leftOver]

theorem leftOver_of_unexpired (unexpired : mail.expired context = false) :
    leftOver context storage nextMailId (mail :: rest) =
      leftOver context storage nextMailId rest := by
  unfold leftOver
  rw [List.filter_cons_of_neg (by simp [unexpired]),
    List.filter_cons_of_neg (by simp [unexpired])]

theorem filter_erase (mails expired : List Mail) (mail : Mail) :
    (erase Mail.messageID mails mail.messageID).filter
        (fun other => other.messageID ∉ expired.map Mail.messageID) =
      mails.filter fun other => other.messageID ∉ (mail :: expired).map Mail.messageID := by
  unfold erase
  rw [List.filter_filter]
  apply List.filter_congr
  intro other _
  rw [List.map_cons, ← Bool.decide_and, decide_eq_decide, List.mem_cons, not_or, and_comm]

theorem leftOver_of_deleted (expired : mail.expired context = true)
    (stays : mail.returns context = false) :
    leftOver context storage nextMailId (mail :: rest) =
      leftOver context (erase Mail.messageID storage mail.messageID) nextMailId rest := by
  unfold leftOver
  rw [List.filter_cons_of_pos expired, filter_erase, List.filter_cons_of_neg (by simp [stays])]

theorem leftOver_of_returned (expired : mail.expired context = true)
    (returns : mail.returns context = true) (older : ∀ other ∈ rest, other.messageID < nextMailId) :
    leftOver context storage nextMailId (mail :: rest) =
      leftOver context (erase Mail.messageID storage mail.messageID ++
        [returnedMail context nextMailId mail]) (nextMailId + 1) rest := by
  have new : nextMailId ∉ (rest.filter (Mail.expired context)).map Mail.messageID := by
    intro present
    obtain ⟨other, member, same⟩ := List.mem_map.mp present
    exact absurd same (Nat.ne_of_lt (older other (List.mem_filter.mp member).1))
  have kept : [returnedMail context nextMailId mail].filter (fun other => other.messageID ∉
      (rest.filter (Mail.expired context)).map Mail.messageID) =
        [returnedMail context nextMailId mail] := by
    rw [List.filter_eq_self]
    intro copy member
    rw [List.mem_singleton.mp member]
    exact decide_eq_true new
  unfold leftOver
  rw [List.filter_cons_of_pos expired, List.filter_append, filter_erase, kept,
    List.filter_cons_of_pos (by simp [expired, returns]), List.mapIdx_cons, List.append_assoc]
  simp only [List.singleton_append, Nat.add_zero, Nat.add_assoc, Nat.add_comm 1]

end LeftOver

/-- A pass over some of the mails, in the order of a list. -/
theorem storage_expireMails {post : PostOffice} (fresh : Fresh post) {mails : List Mail}
    (present : ∀ mail ∈ mails, mail ∈ post.storage)
    (unique : (mails.map Mail.messageID).Nodup) (delivered : Delivered context mails) :
    (post.expireMails context (mails.map Mail.messageID)).storage =
      leftOver context post.storage post.nextMailId mails := by
  induction mails generalizing post with
  | nil => exact leftOver_nil.symm
  | cons mail rest induction =>
      rw [List.map_cons, List.nodup_cons] at unique
      have here := present mail List.mem_cons_self
      have after : ∀ other ∈ rest, other ∈ post.storage :=
        fun other member => present other (List.mem_cons_of_mem _ member)
      have later : ∀ other ∈ rest,
          other ∈ erase Mail.messageID post.storage mail.messageID := by
        intro other member
        refine mem_erase.mpr ⟨after other member, fun same => ?_⟩
        exact unique.1 (same ▸ List.mem_map_of_mem member)
      have restDelivered : Delivered context rest :=
        fun other member => delivered other (List.mem_cons_of_mem _ member)
      have gone := fresh.delete mail.messageID
      rw [List.map_cons, expireMails, find_of_mem fresh.ids here]
      dsimp only
      cases expired : mail.expired context with
      | false =>
          rw [if_neg (of_decide_eq_false expired), leftOver_of_unexpired expired]
          exact induction fresh after unique.2 restDelivered
      | true =>
          rw [if_pos (of_decide_eq_true expired)]
          cases returnable : mail.returnable with
          | false =>
              have flagged := of_decide_eq_false returnable
              rw [if_pos (by tauto),
                leftOver_of_deleted expired (by simp [Mail.returns, returnable])]
              exact induction (gone.frame rfl rfl) later unique.2 restDelivered
          | true =>
              have normal := of_decide_eq_true returnable
              have time := delivered mail List.mem_cons_self expired returnable
              rw [if_neg (by tauto), if_neg (not_lt.mpr time)]
              cases sender : mail.hasSender context with
              | false =>
                  rw [returnMail_of_nobody sender,
                    leftOver_of_deleted expired (by simp [Mail.returns, sender])]
                  exact induction (gone.frame rfl rfl) later unique.2 restDelivered
              | true =>
                  obtain ⟨storage, counter⟩ := returnMail_of_sender fresh normal.1 sender
                  rw [leftOver_of_returned expired
                      (by simp [Mail.returns, returnable, sender])
                      (fun other member => fresh.below other (after other member)),
                    ← storage, ← counter]
                  exact induction (steady_fresh.returnMail fresh context mail 0)
                    (fun other member => storage ▸ List.mem_append_left _ (later other member))
                    unique.2 restDelivered

/-! ## Nodes in another order -/

structure Reordered (post other : PostOffice) : Prop where
  storage : post.storage.Perm other.storage
  rest : other = { post with storage := other.storage }

section Reordered

variable {post other : PostOffice} (same : Reordered post other)

include same

theorem Reordered.counter : other.nextMailId = post.nextMailId := by
  rw [same.rest]

theorem Reordered.fresh (fresh : Fresh other) : Fresh post := by
  constructor
  · exact (same.storage.map Mail.messageID).nodup_iff.mpr fresh.ids
  · intro mail member
    rw [← same.counter]
    exact fresh.below mail (same.storage.mem_iff.mp member)

theorem Reordered.deleted (mailId : Nat) (entry : MailLogEntry) :
    Reordered ((post.delete mailId).write entry) ((other.delete mailId).write entry) := by
  refine ⟨same.storage.filter _, ?_⟩
  rw [same.rest]
  rfl

theorem Reordered.returnMail (fresh : Fresh other) (mail : Mail) :
    Reordered (post.returnMail context mail 0) (other.returnMail context mail 0) := by
  have old := same.fresh fresh
  constructor
  · unfold PostOffice.returnMail sendReturnToSender
    split_ifs
    · exact same.storage.filter _
    · rw [storage_sendMailTo (old.delete _), storage_sendMailTo (fresh.delete _)]
      dsimp only [PostOffice.delete]
      rw [same.counter]
      exact (same.storage.filter _).append_right _
    · exact same.storage.filter _
  · rw [same.rest]
    unfold PostOffice.returnMail sendReturnToSender
    split_ifs
    · rfl
    · rfl
    · rfl

end Reordered

/-! ## The walk follows the pass -/

theorem erase_middle {passed rest : List Mail} {mail : Mail}
    (ids : ((passed ++ mail :: rest).map Mail.messageID).Nodup) :
    erase Mail.messageID (passed ++ mail :: rest) mail.messageID = passed ++ rest := by
  rw [List.map_append, List.map_cons, List.nodup_append, List.nodup_cons] at ids
  obtain ⟨-, ⟨behind, -⟩, apart⟩ := ids
  unfold erase
  rw [List.filter_append, List.filter_cons_of_neg (by simp)]
  congr 1
  · apply erase_eq_self
    intro other member
    exact apart _ (List.mem_map_of_mem member) _ List.mem_cons_self
  · apply erase_eq_self
    intro other member same
    exact behind (same ▸ List.mem_map_of_mem member)

/-- Whatever the place of the new node is, the iterator stays before the same old ones. -/
theorem Walk.behind_link {post : PostOffice} {passed rest : List Mail} {new : Mail}
    (storage : post.storage = passed ++ rest ++ [new]) (place : Nat) :
    let walk := Walk.link place ⟨post, passed.length⟩
    ∃ before ahead, before.length = walk.position ∧ walk.post.storage = before ++ ahead ∧
      (ahead = rest ∨ ∃ index, ahead = rest.take index ++ new :: rest.drop index) := by
  unfold Walk.link
  dsimp only
  rw [storage, List.dropLast_concat, List.getLast?_concat, List.take_append, List.drop_append]
  by_cases near : min place (passed ++ rest).length ≤ passed.length
  · rw [if_pos near]
    have whole : rest.take (place - passed.length) = [] ∧
        rest.drop (place - passed.length) = rest := by
      rw [List.length_append] at near
      rcases le_or_gt place passed.length with before | behind
      · rw [Nat.sub_eq_zero_of_le before]
        exact ⟨List.take_zero, List.drop_zero⟩
      · obtain rfl : rest = [] := List.eq_nil_of_length_eq_zero (by omega)
        exact ⟨List.take_nil, List.drop_nil⟩
    refine ⟨passed.take place ++ new :: passed.drop place, rest, ?_, ?_, .inl rfl⟩
    · rw [List.length_append, List.length_cons, ← Nat.add_assoc, ← List.length_append,
        List.take_append_drop]
    · rw [whole.1, whole.2]
      simp
  · rw [if_neg near]
    have before : passed.length ≤ place := by omega
    refine ⟨passed, _, rfl, ?_, .inr ⟨place - passed.length, rfl⟩⟩
    rw [List.take_of_length_le before, List.drop_of_length_le before]
    simp

theorem Walk.reordered_link {post other : PostOffice} {nodes : List Mail} {new : Mail}
    (storage : post.storage = nodes ++ [new]) (same : Reordered post other) (place position : Nat) :
    Reordered (Walk.link place ⟨post, position⟩).post other := by
  constructor
  · refine List.Perm.trans ?_ same.storage
    unfold Walk.link
    dsimp only
    rw [storage, List.dropLast_concat, List.getLast?_concat]
    have moved : (nodes.take place ++ new :: nodes.drop place).Perm
        (new :: (nodes.take place ++ nodes.drop place)) := List.perm_middle
    rw [List.take_append_drop] at moved
    rw [List.append_assoc]
    exact moved.trans (List.perm_append_singleton new nodes).symm
  · exact same.rest

/-- The mails with an id from before the pass. -/
def oldOnes (start : Nat) (mails : List Mail) : List Mail :=
  mails.filter fun mail => mail.messageID < start

theorem oldOnes_insert {start : Nat} {new : Mail} (recent : start ≤ new.messageID)
    (mails : List Mail) (index : Nat) :
    oldOnes start (mails.take index ++ new :: mails.drop index) = oldOnes start mails := by
  unfold oldOnes
  rw [List.filter_append, List.filter_cons_of_neg (by simpa using recent), ← List.filter_append,
    List.take_append_drop]

/-- A walk whose iterator is before some nodes, and the pass as far as it has got. -/
structure Follows (context : MailContext) (start : Nat) (walk : Walk) (post : PostOffice)
    (ahead : List Mail) : Prop where
  fresh : Fresh post
  same : Reordered walk.post post
  iterator : ∃ passed, passed.length = walk.position ∧ walk.post.storage = passed ++ ahead
  /-- What was sent meanwhile does not expire at once. -/
  recent : ∀ mail ∈ post.storage, start ≤ mail.messageID → mail.expired context = false
  counter : start ≤ post.nextMailId

section Follows

variable {start : Nat} {walk : Walk} {post : PostOffice} {mail : Mail} {rest : List Mail}

theorem Follows.skip (follows : Follows context start walk post (mail :: rest)) :
    Follows context start ⟨walk.post, walk.position + 1⟩ post rest := by
  obtain ⟨passed, length, storage⟩ := follows.iterator
  exact { follows with iterator := ⟨passed ++ [mail], by simp [length], by simp [storage]⟩ }

theorem Follows.mem (follows : Follows context start walk post (mail :: rest)) :
    mail ∈ post.storage := by
  obtain ⟨passed, -, storage⟩ := follows.iterator
  apply follows.same.storage.mem_iff.mp
  rw [storage]
  exact List.mem_append_right _ List.mem_cons_self

theorem Follows.erased (follows : Follows context start walk post (mail :: rest)) :
    ∃ passed, passed.length = walk.position ∧
      erase Mail.messageID walk.post.storage mail.messageID = passed ++ rest := by
  obtain ⟨passed, length, storage⟩ := follows.iterator
  have ids := (follows.same.fresh follows.fresh).ids
  rw [storage] at ids ⊢
  exact ⟨passed, length, erase_middle ids⟩

theorem Follows.deleted (follows : Follows context start walk post (mail :: rest))
    (entry : MailLogEntry) :
    Follows context start ⟨(walk.post.delete mail.messageID).write entry, walk.position⟩
      ((post.delete mail.messageID).write entry) rest where
  fresh := (follows.fresh.delete mail.messageID).frame rfl rfl
  same := follows.same.deleted mail.messageID entry
  iterator := follows.erased
  recent := fun other member => follows.recent other (mem_erase.mp member).1
  counter := follows.counter

/-- A mail that comes back does not expire before it is delivered. -/
theorem unexpired_returnedMail (messageID : Nat) (mail : Mail) :
    (returnedMail context messageID mail).expired context = false := by
  have late : context.now ≤ (returnedMail context messageID mail).expireTime := by
    unfold returnedMail newMail
    dsimp only
    omega
  exact decide_eq_false (not_lt.mpr late)

theorem Follows.returned (follows : Follows context start walk post (mail :: rest))
    (links : Nat → Nat) (normal : mail.messageType = .normal)
    (delivered : mail.deliverTime ≤ context.now) :
    ∃ ahead, Follows context start (walk.returnToSender context links mail)
        (post.returnMail context mail 0) ahead ∧
      oldOnes start ahead = oldOnes start rest ∧ ahead.length ≤ rest.length + 1 := by
  unfold Walk.returnToSender
  rw [if_neg (not_lt.mpr delivered)]
  dsimp only
  cases sender : mail.hasSender context with
  | false =>
      rw [returnMail_of_nobody sender, returnMail_of_nobody sender]
      have none : ¬walk.post.nextMailId <
          ((walk.post.delete mail.messageID).write (.notReturned mail)).nextMailId :=
        Nat.lt_irrefl walk.post.nextMailId
      rw [if_neg none]
      exact ⟨rest, follows.deleted _, rfl, Nat.le_succ _⟩
  | true =>
      obtain ⟨walkStorage, walkCounter⟩ :=
        returnMail_of_sender (follows.same.fresh follows.fresh) normal sender
      obtain ⟨storage, counter⟩ := returnMail_of_sender follows.fresh normal sender
      have same : Reordered (walk.post.returnMail context mail 0) _ :=
        follows.same.returnMail follows.fresh mail
      obtain ⟨passed, length, erased⟩ := follows.erased
      rw [erased] at walkStorage
      have sent : walk.post.nextMailId < (walk.post.returnMail context mail 0).nextMailId :=
        walkCounter ▸ Nat.lt_succ_self _
      have later : start ≤ walk.post.nextMailId := follows.same.counter ▸ follows.counter
      rw [if_pos sent, ← length]
      obtain ⟨before, ahead, iterator, nodes, change⟩ :=
        Walk.behind_link walkStorage (links walk.post.nextMailId)
      refine ⟨ahead, ⟨steady_fresh.returnMail follows.fresh context mail 0,
        Walk.reordered_link walkStorage same _ _, ⟨before, iterator, nodes⟩, ?_, ?_⟩, ?_, ?_⟩
      · intro other member recent
        rw [storage] at member
        rcases List.mem_append.mp member with old | new
        · exact follows.recent other (mem_erase.mp old).1 recent
        · rw [List.mem_singleton.mp new]
          exact unexpired_returnedMail _ mail
      · rw [counter]
        exact Nat.le_succ_of_le follows.counter
      · rcases change with rfl | ⟨index, rfl⟩
        · rfl
        · exact oldOnes_insert later rest index
      · rcases change with rfl | ⟨index, rfl⟩
        · exact Nat.le_succ _
        · rw [List.length_append, List.length_cons, ← Nat.add_assoc, ← List.length_append,
            List.take_append_drop]

/-- A walk that is still going on ends as the pass over the old mails before it does. -/
theorem Follows.finish {ahead : List Mail} (follows : Follows context start walk post ahead)
    (links : Nat → Nat) {turns : Nat}
    (enough : 2 * (oldOnes start ahead).length + ahead.length < turns) :
    ∃ final, walk.finish context links turns = some final ∧
      Reordered final
        (post.expireMails context ((oldOnes start ahead).map Mail.messageID)) := by
  induction turns generalizing walk post ahead with
  | zero => exact absurd enough (Nat.not_lt_zero _)
  | succ turns induction =>
      obtain ⟨passed, length, storage⟩ := follows.iterator
      unfold Walk.finish
      rw [storage, ← length]
      cases ahead with
      | nil =>
          rw [List.append_nil, List.getElem?_eq_none (le_refl _)]
          exact ⟨walk.post, rfl, follows.same⟩
      | cons mail rest =>
          rw [List.getElem?_append_right (le_refl _), Nat.sub_self, List.getElem?_cons_zero]
          dsimp only
          have found := find_of_mem follows.fresh.ids follows.mem
          rw [List.length_cons] at enough
          cases expired : mail.expired context with
          | false =>
              rw [if_neg (of_decide_eq_false expired), length]
              by_cases old : mail.messageID < start
              · have first : oldOnes start (mail :: rest) = mail :: oldOnes start rest :=
                  List.filter_cons_of_pos (decide_eq_true old)
                rw [first, List.length_cons] at enough
                rw [first, List.map_cons, expireMails, found]
                dsimp only
                rw [if_neg (show ¬mail.expireTime < context.now from of_decide_eq_false expired)]
                exact induction follows.skip (by omega)
              · have first : oldOnes start (mail :: rest) = oldOnes start rest :=
                  List.filter_cons_of_neg (by simpa using old)
                rw [first] at enough ⊢
                exact induction follows.skip (by omega)
          | true =>
              -- what was sent meanwhile is not expired
              have old : mail.messageID < start := by
                by_contra recent
                have unexpired := follows.recent mail follows.mem (not_lt.mp recent)
                exact absurd (expired.symm.trans unexpired) (by decide)
              have first : oldOnes start (mail :: rest) = mail :: oldOnes start rest :=
                List.filter_cons_of_pos (decide_eq_true old)
              rw [first, List.length_cons] at enough
              rw [if_pos (of_decide_eq_true expired), first, List.map_cons, expireMails, found]
              dsimp only
              rw [if_pos (show mail.expireTime < context.now from of_decide_eq_true expired)]
              split_ifs with flagged early
              · rw [length]
                exact induction (follows.deleted _) (by omega)
              · -- both end at a mail that is not delivered
                obtain ⟨turns, rfl⟩ := Nat.exists_eq_succ_of_ne_zero (show turns ≠ 0 by omega)
                unfold Walk.returnToSender
                rw [if_pos early, Walk.finish, List.getElem?_eq_none (le_refl _)]
                exact ⟨walk.post, rfl, follows.same⟩
              · have normal : mail.messageType = .normal := by
                  by_contra other
                  exact flagged (.inl other)
                obtain ⟨ahead, next, sameOnes, few⟩ :=
                  follows.returned links normal (not_lt.mp early)
                rw [← sameOnes] at enough ⊢
                exact induction next (by omega)

end Follows

/-! ## The whole pass -/

/-- `ReturnOrDeleteOldMails`. -/
def walkOldMails (context : MailContext) (links : Nat → Nat) (turns : Nat) (post : PostOffice) :
    Option PostOffice :=
  Walk.finish context links turns ⟨post, 0⟩

section Pass

variable {post : PostOffice} (fresh : Fresh post)

include fresh

theorem walkOldMails_ends (links : Nat → Nat) {turns : Nat}
    (enough : 3 * post.storage.length < turns) :
    ∃ final, walkOldMails context links turns post = some final ∧
      Reordered final (post.returnOrDeleteOldMails context) := by
  have all : oldOnes post.nextMailId post.storage = post.storage :=
    List.filter_eq_self.mpr fun mail member => decide_eq_true (fresh.below mail member)
  have start : Follows context post.nextMailId ⟨post, 0⟩ post post.storage := {
    fresh
    same := ⟨List.Perm.refl _, rfl⟩
    iterator := ⟨[], rfl, rfl⟩
    recent := fun mail member recent => absurd (fresh.below mail member) (not_lt.mpr recent)
    counter := le_refl _ }
  have many : 2 * (oldOnes post.nextMailId post.storage).length + post.storage.length < turns := by
    rw [all]
    omega
  have ends := start.finish links many
  rw [all] at ends
  exact ends

/-- Nothing else has the id of an expired mail. -/
theorem leftOver_all :
    leftOver context post.storage post.nextMailId post.storage =
      post.storage.filter (fun mail => !mail.expired context) ++
        (post.storage.filter fun mail =>
          mail.expired context && mail.returns context).mapIdx
          fun index mail => returnedMail context (post.nextMailId + index) mail := by
  unfold leftOver
  congr 1
  apply List.filter_congr
  intro mail member
  rw [Bool.eq_iff_iff, decide_eq_true_eq, Bool.not_eq_true', ← Bool.not_eq_true, not_iff_not]
  constructor
  · intro present
    obtain ⟨other, isExpired, same⟩ := List.mem_map.mp present
    obtain ⟨isOther, expired⟩ := List.mem_filter.mp isExpired
    rw [← List.inj_on_of_nodup_map fresh.ids isOther member same]
    exact expired
  · intro expired
    exact List.mem_map_of_mem (List.mem_filter.mpr ⟨member, expired⟩)

theorem afterPass_of_reordered (delivered : Delivered context post.storage) {final : PostOffice}
    (same : Reordered final (post.returnOrDeleteOldMails context)) :
    AfterPass context (Mail.returns context) post final := by
  have storage : (post.expireMails context (post.storage.map Mail.messageID)).storage =
      leftOver context post.storage post.nextMailId post.storage :=
    storage_expireMails fresh (fun _ member => member) fresh.ids delivered
  have order := same.storage
  unfold returnOrDeleteOldMails at order
  rw [storage, leftOver_all fresh] at order
  refine ⟨order, fun mail member expired present => ?_⟩
  obtain ⟨other, isOther, sameId⟩ := List.mem_map.mp present
  rcases List.mem_append.mp (order.mem_iff.mp isOther) with old | new
  · obtain ⟨isOld, unexpired⟩ := List.mem_filter.mp old
    rw [List.inj_on_of_nodup_map fresh.ids isOld member sameId, expired] at unexpired
    exact absurd unexpired (by decide)
  · obtain ⟨index, bound, rfl⟩ := List.mem_mapIdx.mp new
    have older := fresh.below mail member
    rw [← sameId] at older
    exact absurd older (Nat.not_lt.mpr (Nat.le_add_right _ _))

/-- Whatever the order of the nodes is, a pass returns or deletes each expired mail once.  It
returns what carries items and has a sender to return it to, and deletes what is not returnable;
of letters without items this does not say which. -/
theorem walkOldMails_handlesAll (delivered : Delivered context post.storage)
    (links : Nat → Nat) {turns : Nat} (enough : 3 * post.storage.length < turns) :
    ∃ returns : Mail → Bool,
      (∀ mail ∈ post.storage, mail.items ≠ [] ∨ mail.returnable = false →
        returns mail = (mail.returnable && mail.hasSender context)) ∧
      ∃ final, walkOldMails context links turns post = some final ∧
        AfterPass context returns post final := by
  obtain ⟨final, ended, same⟩ := walkOldMails_ends fresh links enough
  exact ⟨Mail.returns context, fun _ _ _ => rfl, final, ended,
    afterPass_of_reordered fresh delivered same⟩

end Pass

/-! ## Runs of the post office -/

/-- No mail expires before it is delivered. -/
def Timely (post : PostOffice) : Prop :=
  ∀ mail ∈ post.storage, mail.deliverTime ≤ mail.expireTime

theorem Timely.delivered {post : PostOffice} (timely : Timely post) (context : MailContext) :
    Delivered context post.storage := by
  intro mail member expired _
  have early : mail.expireTime < context.now := of_decide_eq_true expired
  exact (timely mail member).trans early.le

theorem Timely.subset {post next : PostOffice} (timely : Timely post)
    (storage : next.storage ⊆ post.storage) : Timely next :=
  fun mail member => timely mail (storage member)

/-- The store of a post office as every run leaves it. -/
structure InOrder (post : PostOffice) : Prop where
  fresh : Fresh post
  timely : Timely post

theorem steady_inOrder : Steady InOrder where
  frame := fun order storage counter =>
    ⟨order.fresh.frame storage counter, order.timely.subset (storage ▸ List.Subset.refl _)⟩
  modify := by
    intro post next mailId change order storage same counter
    refine ⟨steady_fresh.modify order.fresh storage same counter, fun mail member => ?_⟩
    rw [storage] at member
    rcases mem_modify.mp member with ⟨old, -⟩ | ⟨old, isOld, -, rfl⟩
    · exact order.timely mail old
    · obtain ⟨-, deliver, expire⟩ : _ ∧ _ ∧ _ := by
        simpa only [Mail.stamp, Prod.mk.injEq] using same old
      rw [deliver, expire]
      exact order.timely old isOld
  delete := fun mailId order =>
    ⟨order.fresh.delete mailId, order.timely.subset (List.filter_subset_self _)⟩
  sendMailTo := by
    intro post context draft receiver messageType sender checked deliverDelay order
    refine ⟨order.fresh.sendMailTo context _ _ _ _ _ _, fun mail member => ?_⟩
    rcases mem_assign.mp member with ⟨old, -⟩ | rfl
    · exact order.timely mail old
    · exact Nat.le_add_right _ _

theorem InOrder.expireMails (context : MailContext) (mailIds : List Nat) {post : PostOffice}
    (order : InOrder post) : InOrder (post.expireMails context mailIds) := by
  induction mailIds generalizing post with
  | nil => exact order
  | cons mailId rest induction =>
      unfold PostOffice.expireMails
      cases find Mail.messageID post.storage mailId with
      | none => exact induction order
      | some mail =>
          dsimp only
          split_ifs
          · exact induction (steady_inOrder.frame (steady_inOrder.delete mailId order) rfl rfl)
          · exact order
          · exact induction (steady_inOrder.returnMail order context mail 0)
          · exact induction order

theorem InOrder.step (post : PostOffice) (event : MailEvent) (order : InOrder post) :
    InOrder (step post event) := by
  cases event with
  | request context session request => exact steady_inOrder.handle order context session request
  | oldMails context => exact order.expireMails context _

theorem InOrder.reordered {post : PostOffice} (order : InOrder post) {nodes : List Mail}
    (sameMails : nodes.Perm post.storage) : InOrder { post with storage := nodes } where
  fresh := Reordered.fresh ⟨sameMails, rfl⟩ order.fresh
  timely := order.timely.subset sameMails.subset

/-- After every run of requests and passes the next pass handles all expired mails, in whatever
order the index has them by then. -/
theorem walkOldMails_of_run {post : PostOffice} (order : InOrder post)
    (events : List MailEvent) (context : MailContext) {nodes : List Mail}
    (sameMails : nodes.Perm (run step post events).storage) (links : Nat → Nat) :
    ∃ turns final,
      walkOldMails context links turns { run step post events with storage := nodes } =
        some final ∧
      AfterPass context (Mail.returns context) { run step post events with storage := nodes }
        final := by
  have last : InOrder (run step post events) := run_of_preserved InOrder.step events order
  obtain ⟨fresh, timely⟩ := last.reordered sameMails
  obtain ⟨final, ended, same⟩ := walkOldMails_ends fresh links (Nat.lt_succ_self _)
  exact ⟨_, final, ended, afterPass_of_reordered fresh (timely.delivered context) same⟩

/-! ## Two parcels and a letter -/

/-- Player 9 is deleted. -/
def newYear : MailContext where
  now := 5000000
  online := fun _ => false
  accountOf := fun guid => if guid = 9 then 0 else guid
  isGameMaster := fun _ => false
  isBattleMaster := fun _ => false
  mailTemplateExists := fun _ => true
  mailDeliveryDelay := 3600

/-- A mail to player 8, who left it. -/
def leftMail (messageID sender : Nat) (items : List Item) (expireTime : Nat) : Mail where
  messageID := messageID
  messageType := .normal
  mailTemplateId := 0
  sender := sender
  receiver := 8
  subject := "hi"
  body := ""
  items := items
  expireTime := expireTime
  deliverTime := 0
  money := 0
  cod := 0
  checked := 0

/-- A recent letter and two old parcels, of which the first is from the deleted player. -/
def parcelPost : PostOffice where
  storage := [leftMail 1 7 [] 7592000, leftMail 2 9 [⟨70, 25, 1⟩] 2592000,
    leftMail 3 7 [⟨71, 25, 1⟩] 2592000]
  players := []
  inventory := []
  nextMailId := 4
  nextItemGuid := 72
  log := []

theorem parcelPost_inOrder : InOrder parcelPost where
  fresh := ⟨by decide, by decide⟩
  timely := by
    unfold Timely
    decide

theorem parcelPost_handled :
    ∃ returns : Mail → Bool,
      (∀ mail ∈ parcelPost.storage, mail.items ≠ [] ∨ mail.returnable = false →
        returns mail = (mail.returnable && mail.hasSender newYear)) ∧
      ∃ final, walkOldMails newYear (fun _ => 0) 10 parcelPost = some final ∧
        AfterPass newYear returns parcelPost final :=
  walkOldMails_handlesAll parcelPost_inOrder.fresh (parcelPost_inOrder.timely.delivered newYear)
    (fun _ => 0) (by decide)

/-- In the spring the letter and the returned parcel expire, and the index has them in another
order. -/
theorem walkOldMails_of_run_parcelPost :
    let spring := { newYear with now := 13000000 }
    let post := run step parcelPost [.oldMails newYear]
    post.storage.length = 2 ∧ post.storage.all (Mail.expired spring) ∧
      ∃ turns final,
        walkOldMails spring (fun _ => 1) turns { post with storage := post.storage.reverse } =
          some final ∧
        AfterPass spring (Mail.returns spring) { post with storage := post.storage.reverse }
          final :=
  ⟨by decide, by decide, walkOldMails_of_run parcelPost_inOrder [.oldMails newYear] _
    (List.reverse_perm _) (fun _ => 1)⟩

/-- The parcel of the deleted player carries an item, and yet it is not returned. -/
theorem parcelPost_deleted :
    ∃ final, walkOldMails newYear (fun _ => 0) 10 parcelPost = some final ∧
      ¬AfterPass newYear (fun mail => mail.items ≠ [] && mail.returnable) parcelPost final := by
  refine ⟨_, rfl, fun after => ?_⟩
  exact absurd after.storage.length_eq (by decide)

end RealmServer.Mails
