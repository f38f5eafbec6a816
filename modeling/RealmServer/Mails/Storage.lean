import RealmServer.Lib.Transition
import RealmServer.Mails.Post

/-!
# The storage of the mails

Ids of mails come from a counter.  Where the counter is above all ids, a new
mail never takes the place of another one, whatever the requests are.
-/

namespace RealmServer.Mails

open Table Players Transition PostOffice

/-- Mails have different ids, all of them below the counter. -/
structure Fresh (post : PostOffice) : Prop where
  ids : (post.storage.map Mail.messageID).Nodup
  below : ∀ mail ∈ post.storage, mail.messageID < post.nextMailId

section Steps

variable {post : PostOffice} (fresh : Fresh post)

include fresh

theorem Fresh.frame {next : PostOffice} (storage : next.storage = post.storage)
    (counter : next.nextMailId = post.nextMailId) : Fresh next := by
  constructor
  · rw [storage]
    exact fresh.ids
  · rw [storage, counter]
    exact fresh.below

theorem Fresh.modify {next : PostOffice} {mailId : Nat} {change : Mail → Mail}
    (storage : next.storage = modify Mail.messageID post.storage mailId change)
    (same : ∀ mail, (change mail).messageID = mail.messageID)
    (counter : next.nextMailId = post.nextMailId) : Fresh next := by
  have ids : next.storage.map Mail.messageID = post.storage.map Mail.messageID := by
    rw [storage]
    exact map_modify post.storage mailId same
  constructor
  · rw [ids]
    exact fresh.ids
  · intro mail member
    have isId : mail.messageID ∈ post.storage.map Mail.messageID :=
      ids ▸ List.mem_map_of_mem member
    obtain ⟨old, oldMember, sameId⟩ := List.mem_map.mp isId
    rw [counter, ← sameId]
    exact fresh.below old oldMember

theorem Fresh.delete (mailId : Nat) : Fresh (post.delete mailId) := by
  constructor
  · exact erase_keys fresh.ids mailId
  · intro mail member
    exact fresh.below mail (mem_erase.mp member).1

/-- A new mail is added to the others. -/
theorem storage_sendMailTo (context : MailContext) (draft : MailDraft) (receiver : Nat)
    (messageType : MailMessageType) (sender checked deliverDelay : Nat) :
    (post.sendMailTo context draft receiver messageType sender checked
      deliverDelay).storage =
      post.storage ++ [newMail context post.nextMailId draft receiver messageType sender
        checked deliverDelay] := by
  have free : ∀ mail ∈ post.storage, mail.messageID ≠ post.nextMailId :=
    fun mail member => Nat.ne_of_lt (fresh.below mail member)
  exact congrArg (· ++ _) (erase_eq_self free)

theorem Fresh.sendMailTo (context : MailContext) (draft : MailDraft) (receiver : Nat)
    (messageType : MailMessageType) (sender checked deliverDelay : Nat) :
    Fresh (post.sendMailTo context draft receiver messageType sender checked
      deliverDelay) := by
  constructor
  · exact assign_keys fresh.ids _
  · intro mail member
    rw [storage_sendMailTo fresh] at member
    rcases List.mem_append.mp member with old | new
    · exact (fresh.below mail old).trans (Nat.lt_succ_self _)
    · rw [List.mem_singleton.mp new]
      exact Nat.lt_succ_self _

end Steps

/-! ## The requests -/

/-- What no handler changes of a mail. -/
def Mail.stamp (mail : Mail) : Nat × Nat × Nat :=
  (mail.messageID, mail.deliverTime, mail.expireTime)

/-- A property of the store which all requests keep, as they send, delete and change mails. -/
structure Steady (kept : PostOffice → Prop) : Prop where
  frame : ∀ {post next}, kept post → next.storage = post.storage →
    next.nextMailId = post.nextMailId → kept next
  modify : ∀ {post next mailId change}, kept post →
    next.storage = Table.modify Mail.messageID post.storage mailId change →
    (∀ mail, (change mail).stamp = mail.stamp) → next.nextMailId = post.nextMailId → kept next
  delete : ∀ {post} mailId, kept post → kept (post.delete mailId)
  sendMailTo : ∀ {post} context draft receiver messageType sender checked deliverDelay,
    kept post →
      kept (post.sendMailTo context draft receiver messageType sender checked deliverDelay)

theorem steady_fresh : Steady Fresh where
  frame := fun fresh => fresh.frame
  modify := fun fresh storage same =>
    fresh.modify storage fun mail => congrArg Prod.fst (same mail)
  delete := fun mailId fresh => fresh.delete mailId
  sendMailTo := fun _ _ _ _ _ _ _ fresh => fresh.sendMailTo _ _ _ _ _ _ _

namespace Steady

variable {kept : PostOffice → Prop} (steady : Steady kept) {post : PostOffice}
  (holds : kept post) (context : MailContext) (session : Session)

include steady holds

theorem handleSendMail (request : SendRequest) :
    kept (post.handleSendMail context session request) := by
  unfold PostOffice.handleSendMail
  split
  · exact holds
  · apply steady.sendMailTo
    exact steady.frame holds rfl rfl

theorem mark (mailId mask : Nat) : kept (post.mark session mailId mask) := by
  have same : ∀ mail : Mail,
      (if mail.receiver = session.guid then { mail with checked := mail.checked ||| mask }
        else mail).stamp = mail.stamp := by
    intro mail
    split_ifs <;> rfl
  exact steady.modify holds rfl same rfl

theorem handleMailCreateTextItem (mailId : Nat) (dest : List ItemPosCount) :
    kept (post.handleMailCreateTextItem context session mailId dest) := by
  unfold PostOffice.handleMailCreateTextItem
  cases find Mail.messageID post.storage mailId with
  | none => exact holds
  | some mail =>
      dsimp only
      split_ifs
      · exact holds
      · exact steady.frame holds rfl rfl
      · exact steady.frame holds rfl rfl
      · exact steady.frame (steady.mark holds session mailId maskCopied) rfl rfl

theorem handleMailDelete (mailId : Nat) :
    kept (post.handleMailDelete session mailId) := by
  unfold PostOffice.handleMailDelete
  cases find Mail.messageID post.storage mailId with
  | none => exact holds
  | some mail =>
      dsimp only
      split_ifs
      · exact holds
      · exact holds
      · exact steady.frame (steady.delete mailId holds) rfl rfl

theorem returnMail (mail : Mail) (account : Nat) :
    kept (post.returnMail context mail account) := by
  have deleted := steady.delete mail.messageID holds
  unfold PostOffice.returnMail sendReturnToSender
  split_ifs
  · exact steady.frame deleted rfl rfl
  · exact steady.sendMailTo context _ _ _ _ _ _ deleted
  · exact steady.frame deleted rfl rfl

theorem handleMailReturnToSender (mailId : Nat) :
    kept (post.handleMailReturnToSender context session mailId) := by
  unfold PostOffice.handleMailReturnToSender
  cases find Mail.messageID post.storage mailId with
  | none => exact holds
  | some mail =>
      dsimp only
      split_ifs
      · exact holds
      · exact steady.returnMail holds context mail session.account

theorem giveItem (mail : Mail) (item : Item) (dest : List ItemPosCount) :
    kept (post.giveItem session mail item dest) := by
  unfold PostOffice.giveItem
  dsimp only
  split_ifs
  · exact steady.modify holds rfl (fun _ => rfl) rfl
  · exact steady.modify holds rfl (fun _ => rfl) rfl

theorem payCod (mail : Mail) : kept (post.payCod context session mail) := by
  unfold PostOffice.payCod
  dsimp only
  split_ifs
  · exact holds
  · apply steady.frame (steady.sendMailTo context _ _ _ _ _ _ holds) <;> rfl
  · exact steady.frame holds rfl rfl

theorem takeItem (mailId itemId : Nat) (dest : List ItemPosCount) :
    kept (post.takeItem context session mailId itemId dest) := by
  unfold PostOffice.takeItem
  cases find Mail.messageID post.storage mailId with
  | none => exact holds
  | some mail =>
      dsimp only
      cases mail.items.find? fun item => item.guid = itemId with
      | none => exact holds
      | some item =>
          dsimp only
          split_ifs
          · exact holds
          · exact steady.payCod (steady.giveItem holds session mail item dest) context session mail

theorem takeMoney (mailId : Nat) :
    kept (post.takeMoney context session mailId) := by
  unfold PostOffice.takeMoney
  cases find Mail.messageID post.storage mailId with
  | none => exact holds
  | some mail =>
      dsimp only
      split_ifs
      · exact holds
      · cases modifyMoney (post.purseOf session.guid) (toInt32 mail.money) with
        | none => exact holds
        | some money => exact steady.modify holds rfl (fun _ => rfl) rfl

theorem handle (request : MailRequest) :
    kept (Mails.handle post context session request) := by
  cases request with
  | sendMail request => exact steady.handleSendMail holds context session request
  | markAsRead mailId => exact steady.mark holds session mailId maskRead
  | createTextItem mailId dest =>
      exact steady.handleMailCreateTextItem holds context session mailId dest
  | delete mailId => exact steady.handleMailDelete holds session mailId
  | returnToSender mailId => exact steady.handleMailReturnToSender holds context session mailId
  | takeItem mailId itemId dest => exact steady.takeItem holds context session mailId itemId dest
  | takeMoney mailId => exact steady.takeMoney holds context session mailId

end Steady

end RealmServer.Mails
