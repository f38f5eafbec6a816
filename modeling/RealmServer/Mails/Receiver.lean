import RealmServer.Mails.Storage

/-!
# Who empties a mail

A session sends requests with any ids.  `MarkAsRead`, `MarkAsCopied`, deleting
and returning compare the receiver of the mail with the player; `TakeItem` and
`TakeMoney` do not.
-/

namespace RealmServer.Mails

open Table Players Transition PostOffice

/-- The mail a request names. -/
def MailRequest.mailId : MailRequest → Option Nat
  | .sendMail _ => none
  | .markAsRead mailId => some mailId
  | .createTextItem mailId _ => some mailId
  | .delete mailId => some mailId
  | .returnToSender mailId => some mailId
  | .takeItem mailId _ _ => some mailId
  | .takeMoney mailId => some mailId

/-- The requests of one session. -/
def sessionStep (session : Session) (post : PostOffice)
    (event : MailContext × MailRequest) : PostOffice :=
  handle post event.1 session event.2

/-- The mails of other players stay in the storage as they are. -/
def Spares (player : Nat) (post next : PostOffice) : Prop :=
  ∀ mail ∈ post.storage, mail.receiver ≠ player → mail ∈ next.storage

/-- A request spares the mails of others, and one which names such a mail does nothing. -/
structure LeavesOthers (session : Session) (post : PostOffice)
    (event : MailContext × MailRequest) : Prop where
  spares : Spares session.guid post (sessionStep session post event)
  nothing : ∀ mail ∈ post.storage, mail.receiver ≠ session.guid →
    event.2.mailId = some mail.messageID → sessionStep session post event = post

/-- What is taken is taken by the receiver of the mail. -/
def ReceiverTakes (session : Session) (post : PostOffice) :
    MailContext × MailRequest → Prop
  | (context, .takeItem mailId itemId dest) =>
      ∀ mail, find Mail.messageID post.storage mailId = some mail →
        ∀ item, (mail.items.find? fun item => item.guid = itemId) = some item →
          post.takeItemAccepted context session mail item dest = true →
            mail.receiver = session.guid
  | (context, .takeMoney mailId) =>
      ∀ mail, find Mail.messageID post.storage mailId = some mail → mail.money ≠ 0 →
        ¬context.now < mail.deliverTime →
          contains PlayerMoney.guid post.players session.guid = true →
            modifyMoney (post.purseOf session.guid) (toInt32 mail.money) ≠ none →
              mail.receiver = session.guid
  | _ => True

/-! ## What is spared -/

theorem Spares.refl (player : Nat) (post : PostOffice) : Spares player post post :=
  fun _ member _ => member

theorem Spares.trans {player : Nat} {first second third : PostOffice}
    (left : Spares player first second) (right : Spares player second third) :
    Spares player first third :=
  fun mail member other => right mail (left mail member other) other

section Operations

variable {player : Nat} {post : PostOffice} (fresh : Fresh post)

include fresh

theorem spares_sendMailTo (context : MailContext) (draft : MailDraft) (receiver : Nat)
    (messageType : MailMessageType) (sender checked deliverDelay : Nat) :
    Spares player post
      (post.sendMailTo context draft receiver messageType sender checked deliverDelay) := by
  intro mail member _
  rw [storage_sendMailTo fresh]
  exact List.mem_append_left _ member

theorem spares_delete {mail : Mail} (member : mail ∈ post.storage)
    (own : mail.receiver = player) : Spares player post (post.delete mail.messageID) := by
  intro other otherMember foreign
  refine mem_erase.mpr ⟨otherMember, ?_⟩
  intro same
  have isMail : other = mail := List.inj_on_of_nodup_map fresh.ids otherMember member same
  exact foreign (isMail ▸ own)

theorem spares_modify {next : PostOffice} {mail : Mail} (member : mail ∈ post.storage)
    (own : mail.receiver = player) {change : Mail → Mail}
    (storage : next.storage = modify Mail.messageID post.storage mail.messageID change) :
    Spares player post next := by
  intro other otherMember foreign
  rw [storage]
  refine mem_modify.mpr (.inl ⟨otherMember, ?_⟩)
  intro same
  have isMail : other = mail := List.inj_on_of_nodup_map fresh.ids otherMember member same
  exact foreign (isMail ▸ own)

theorem spares_returnMail (context : MailContext) {mail : Mail}
    (member : mail ∈ post.storage) (own : mail.receiver = player) (account : Nat) :
    Spares player post (post.returnMail context mail account) := by
  have deleted := spares_delete fresh member own
  unfold PostOffice.returnMail sendReturnToSender
  split_ifs
  · exact deleted
  · exact deleted.trans (spares_sendMailTo (fresh.delete _) context _ _ _ _ _ _)
  · exact deleted

theorem spares_payCod (context : MailContext) (session : Session) (mail : Mail) :
    Spares player post (post.payCod context session mail) := by
  unfold PostOffice.payCod
  dsimp only
  split_ifs
  · exact Spares.refl player post
  · exact spares_sendMailTo fresh context _ _ _ _ _ _
  · exact Spares.refl player post

theorem spares_giveItem (session : Session) {mail : Mail} (member : mail ∈ post.storage)
    (own : mail.receiver = player) (item : Item) (dest : List ItemPosCount) :
    Spares player post (post.giveItem session mail item dest) := by
  unfold PostOffice.giveItem
  dsimp only
  split_ifs
  · exact spares_modify fresh member own rfl
  · exact spares_modify fresh member own rfl

theorem find_mail {mail : Mail} (member : mail ∈ post.storage) :
    find Mail.messageID post.storage mail.messageID = some mail :=
  find_of_mem fresh.ids member

theorem not_spares_modify {next : PostOffice} {mail : Mail}
    (member : mail ∈ post.storage) (foreign : mail.receiver ≠ player)
    {change : Mail → Mail} (changed : change mail ≠ mail)
    (storage : ∀ other ∈ next.storage, other.messageID = mail.messageID →
      other ∈ modify Mail.messageID post.storage mail.messageID change) :
    ¬Spares player post next := by
  intro spares
  have kept := storage mail (spares mail member foreign) rfl
  rcases mem_modify.mp kept with ⟨_, differs⟩ | ⟨old, oldMember, same, isMail⟩
  · exact differs rfl
  · have isOld : old = mail := List.inj_on_of_nodup_map fresh.ids oldMember member same
    exact changed (isOld ▸ isMail)

end Operations

/-! ## The requests which compare the receiver -/

section Requests

variable (context : MailContext) (session : Session) {post : PostOffice}
  (fresh : Fresh post)

theorem mark_of_foreign {mail : Mail} (fresh : Fresh post) (member : mail ∈ post.storage)
    (foreign : mail.receiver ≠ session.guid) (mask : Nat) :
    post.mark session mail.messageID mask = post := by
  have same : (post.mark session mail.messageID mask).storage = post.storage := by
    apply modify_eq_self
    intro other otherMember sameId
    have isMail : other = mail :=
      List.inj_on_of_nodup_map fresh.ids otherMember member sameId
    rw [isMail]
    exact if_neg foreign
  exact congrArg (fun storage => { post with storage }) same

theorem spares_mark (mailId mask : Nat) :
    Spares session.guid post (post.mark session mailId mask) := by
  intro mail member foreign
  by_cases named : mail.messageID = mailId
  · exact mem_modify.mpr (.inr ⟨mail, member, named, if_neg foreign⟩)
  · exact mem_modify.mpr (.inl ⟨member, named⟩)

include fresh

theorem leavesOthers_sendMail (request : SendRequest) :
    LeavesOthers session post (context, .sendMail request) := by
  constructor
  · show Spares session.guid post (post.handleSendMail context session request)
    unfold PostOffice.handleSendMail
    split
    · exact Spares.refl session.guid post
    · apply spares_sendMailTo
      exact fresh.frame rfl rfl
  · intro mail _ _ named
    cases named

theorem leavesOthers_markAsRead (mailId : Nat) :
    LeavesOthers session post (context, .markAsRead mailId) := by
  constructor
  · exact spares_mark session mailId maskRead
  · rintro mail member foreign ⟨⟩
    exact mark_of_foreign session fresh member foreign maskRead

theorem leavesOthers_createTextItem (mailId : Nat) (dest : List ItemPosCount) :
    LeavesOthers session post (context, .createTextItem mailId dest) := by
  constructor
  · show Spares session.guid post
      (post.handleMailCreateTextItem context session mailId dest)
    unfold PostOffice.handleMailCreateTextItem
    cases find Mail.messageID post.storage mailId with
    | none => exact Spares.refl session.guid post
    | some mail =>
        dsimp only
        split_ifs
        · exact Spares.refl session.guid post
        · exact Spares.refl session.guid post
        · exact Spares.refl session.guid post
        · exact spares_mark session mailId maskCopied
  · rintro mail member foreign ⟨⟩
    show post.handleMailCreateTextItem context session mail.messageID dest = post
    unfold PostOffice.handleMailCreateTextItem
    rw [find_mail fresh member]
    exact if_pos (.inr (.inl foreign))

theorem leavesOthers_delete (mailId : Nat) :
    LeavesOthers session post (context, .delete mailId) := by
  constructor
  · show Spares session.guid post (post.handleMailDelete session mailId)
    unfold PostOffice.handleMailDelete
    cases found : find Mail.messageID post.storage mailId with
    | none => exact Spares.refl session.guid post
    | some mail =>
        dsimp only
        split_ifs with foreign
        · exact Spares.refl session.guid post
        · exact Spares.refl session.guid post
        · rw [← key_of_find found]
          exact spares_delete fresh (mem_of_find found) (not_not.mp foreign)
  · rintro mail member foreign ⟨⟩
    show post.handleMailDelete session mail.messageID = post
    unfold PostOffice.handleMailDelete
    rw [find_mail fresh member]
    exact if_pos foreign

theorem leavesOthers_returnToSender (mailId : Nat) :
    LeavesOthers session post (context, .returnToSender mailId) := by
  constructor
  · show Spares session.guid post
      (post.handleMailReturnToSender context session mailId)
    unfold PostOffice.handleMailReturnToSender
    cases found : find Mail.messageID post.storage mailId with
    | none => exact Spares.refl session.guid post
    | some mail =>
        dsimp only
        split_ifs with refused
        · exact Spares.refl session.guid post
        · exact spares_returnMail fresh context (mem_of_find found)
            (not_not.mp (not_or.mp refused).1) session.account
  · rintro mail member foreign ⟨⟩
    show post.handleMailReturnToSender context session mail.messageID = post
    unfold PostOffice.handleMailReturnToSender
    rw [find_mail fresh member]
    exact if_pos (.inl foreign)

/-! ## The requests which do not -/

theorem not_spares_takeItem {mail : Mail} (member : mail ∈ post.storage)
    (foreign : mail.receiver ≠ session.guid) {item : Item} (itemMember : item ∈ mail.items)
    (dest : List ItemPosCount) :
    ¬Spares session.guid post
      ((post.giveItem session mail item dest).payCod context session mail) := by
  let change : Mail → Mail := fun mail =>
    { mail with cod := 0, items := removeItem mail.items item.guid }
  have changed : change mail ≠ mail := by
    intro same
    have lengths : (removeItem mail.items item.guid).length = mail.items.length :=
      congrArg (fun mail => mail.items.length) same
    unfold removeItem at lengths
    rw [List.length_eraseP_of_mem itemMember (by simp)] at lengths
    have notEmpty := List.length_pos_of_mem itemMember
    omega
  have given : (post.giveItem session mail item dest).storage =
      modify Mail.messageID post.storage mail.messageID change := by
    unfold PostOffice.giveItem
    dsimp only
    split_ifs <;> rfl
  have counter : (post.giveItem session mail item dest).nextMailId = post.nextMailId := by
    unfold PostOffice.giveItem
    dsimp only
    split_ifs <;> rfl
  have givenFresh := steady_fresh.giveItem fresh session mail item dest
  apply not_spares_modify fresh member foreign changed
  intro other otherMember sameId
  rw [← given]
  unfold PostOffice.payCod at otherMember
  dsimp only at otherMember
  split_ifs at otherMember
  · exact otherMember
  · have inSent : other ∈ _ ++ [_] := storage_sendMailTo givenFresh context _ _ _ _ _ _ ▸
      (show other ∈ (sendMailTo context (post.giveItem session mail item dest)
        _ _ _ _ _ _).storage from otherMember)
    rcases List.mem_append.mp inSent with old | new
    · exact old
    · have isNew : other.messageID = post.nextMailId := by
        rw [List.mem_singleton.mp new, ← counter]
        rfl
      exact absurd (sameId.symm.trans isNew) (Nat.ne_of_lt (fresh.below mail member))
  · exact otherMember

theorem leavesOthers_takeItem (mailId itemId : Nat) (dest : List ItemPosCount) :
    LeavesOthers session post (context, .takeItem mailId itemId dest) ↔
      ReceiverTakes session post (context, .takeItem mailId itemId dest) := by
  constructor
  · intro leaves mail found item itemFound accepted
    by_contra foreign
    have taken : sessionStep session post (context, .takeItem mailId itemId dest) =
        (post.giveItem session mail item dest).payCod context session mail := by
      show post.takeItem context session mailId itemId dest = _
      unfold PostOffice.takeItem
      rw [found]
      dsimp only
      rw [itemFound]
      dsimp only
      rw [accepted]
      rfl
    have spares := leaves.spares
    rw [taken] at spares
    exact not_spares_takeItem context session fresh (mem_of_find found) foreign
      (List.mem_of_find?_eq_some itemFound) dest spares
  · intro takes
    constructor
    · show Spares session.guid post (post.takeItem context session mailId itemId dest)
      unfold PostOffice.takeItem
      cases found : find Mail.messageID post.storage mailId with
      | none => exact Spares.refl session.guid post
      | some mail =>
          dsimp only
          cases itemFound : mail.items.find? fun item => item.guid = itemId with
          | none => exact Spares.refl session.guid post
          | some item =>
              dsimp only
              split_ifs with refused
              · exact Spares.refl session.guid post
              · have own := takes mail found item itemFound (by simpa using refused)
                have given := spares_giveItem fresh session (mem_of_find found) own item dest
                exact given.trans
                  (spares_payCod (steady_fresh.giveItem fresh session mail item dest)
                  context session mail)
    · rintro mail member foreign ⟨⟩
      show post.takeItem context session mail.messageID itemId dest = post
      have found := find_mail fresh member
      unfold PostOffice.takeItem
      rw [found]
      dsimp only
      cases itemFound : mail.items.find? fun item => item.guid = itemId with
      | none => rfl
      | some item =>
          dsimp only
          apply if_pos
          by_contra accepted
          exact foreign (takes mail found item itemFound (by simpa using accepted))

theorem takeMoney_of_zero {mail : Mail} (member : mail ∈ post.storage)
    (empty : mail.money = 0) : post.takeMoney context session mail.messageID = post := by
  have storage : modify Mail.messageID post.storage mail.messageID
      (fun mail => { mail with money := 0 }) = post.storage := by
    apply modify_eq_self
    intro other otherMember sameId
    have isMail : other = mail :=
      List.inj_on_of_nodup_map fresh.ids otherMember member sameId
    rw [isMail, ← empty]
  have players : modifyPurse post.players session.guid 0 = post.players := by
    exact modify_eq_self fun _ _ _ => rfl
  have free : toInt32 0 = 0 := by decide
  unfold PostOffice.takeMoney
  rw [find_mail fresh member]
  dsimp only
  rw [empty, free, storage, players]
  split_ifs <;> rfl

theorem leavesOthers_takeMoney (mailId : Nat) :
    LeavesOthers session post (context, .takeMoney mailId) ↔
      ReceiverTakes session post (context, .takeMoney mailId) := by
  constructor
  · intro leaves mail found filled delivered present taken
    by_contra foreign
    obtain ⟨money, modified⟩ := Option.ne_none_iff_exists'.mp taken
    have spares := leaves.spares
    have storage : (sessionStep session post (context, .takeMoney mailId)).storage =
        modify Mail.messageID post.storage mail.messageID fun mail =>
          { mail with money := 0 } := by
      show (post.takeMoney context session mailId).storage = _
      unfold PostOffice.takeMoney
      rw [found]
      dsimp only
      rw [if_neg (by simp [delivered, present]), modified, key_of_find found]
    have changed : ({ mail with money := 0 } : Mail) ≠ mail :=
      fun same => filled (congrArg Mail.money same).symm
    have kept : ∀ other ∈ (sessionStep session post (context, .takeMoney mailId)).storage,
        other.messageID = mail.messageID →
          other ∈ modify Mail.messageID post.storage mail.messageID fun mail =>
            { mail with money := 0 } := by
      intro other otherMember _
      rw [← storage]
      exact otherMember
    exact not_spares_modify fresh (mem_of_find found) foreign changed kept spares
  · intro takes
    constructor
    · show Spares session.guid post (post.takeMoney context session mailId)
      cases found : find Mail.messageID post.storage mailId with
      | none =>
          unfold PostOffice.takeMoney
          rw [found]
          exact Spares.refl session.guid post
      | some mail =>
          have member := mem_of_find found
          by_cases empty : mail.money = 0
          · rw [← key_of_find found, takeMoney_of_zero context session fresh member empty]
            exact Spares.refl session.guid post
          · unfold PostOffice.takeMoney
            rw [found]
            dsimp only
            split_ifs with refused
            · exact Spares.refl session.guid post
            · cases modified : modifyMoney (post.purseOf session.guid)
                  (toInt32 mail.money) with
              | none => exact Spares.refl session.guid post
              | some money =>
                  rw [not_or] at refused
                  have own := takes mail found empty refused.1 (by simpa using refused.2)
                    (by simp [modified])
                  rw [← key_of_find found]
                  exact spares_modify fresh member own rfl
    · rintro mail member foreign ⟨⟩
      show post.takeMoney context session mail.messageID = post
      have found := find_mail fresh member
      by_cases empty : mail.money = 0
      · exact takeMoney_of_zero context session fresh member empty
      · unfold PostOffice.takeMoney
        rw [found]
        dsimp only
        split_ifs with refused
        · rfl
        · cases modified : modifyMoney (post.purseOf session.guid) (toInt32 mail.money) with
          | none => rfl
          | some money =>
              rw [not_or] at refused
              exact absurd (takes mail found empty refused.1 (by simpa using refused.2)
                (by simp [modified])) foreign

end Requests

theorem leavesOthers_iff (session : Session) {post : PostOffice} (fresh : Fresh post)
    (event : MailContext × MailRequest) :
    LeavesOthers session post event ↔ ReceiverTakes session post event := by
  obtain ⟨context, request⟩ := event
  cases request with
  | sendMail request =>
      exact iff_of_true (leavesOthers_sendMail context session fresh request) trivial
  | markAsRead mailId =>
      exact iff_of_true (leavesOthers_markAsRead context session fresh mailId) trivial
  | createTextItem mailId dest =>
      exact iff_of_true (leavesOthers_createTextItem context session fresh mailId dest) trivial
  | delete mailId =>
      exact iff_of_true (leavesOthers_delete context session fresh mailId) trivial
  | returnToSender mailId =>
      exact iff_of_true (leavesOthers_returnToSender context session fresh mailId) trivial
  | takeItem mailId itemId dest =>
      exact leavesOthers_takeItem context session fresh mailId itemId dest
  | takeMoney mailId => exact leavesOthers_takeMoney context session fresh mailId

/-! ## Runs of a session -/

/--
A session leaves the mails of others alone exactly when whatever it takes, it
takes out of a mail of its player.
-/
theorem sessionLeavesOthers_iff (session : Session) {post : PostOffice}
    (fresh : Fresh post) (requests : List (MailContext × MailRequest)) :
    EveryStep (sessionStep session) (LeavesOthers session) post requests ↔
      EveryStep (sessionStep session) (ReceiverTakes session) post requests :=
  everyStep_congr (fun _ event fresh => steady_fresh.handle fresh event.1 session event.2)
    (fun _ event fresh => leavesOthers_iff session fresh event) fresh

section Thief

/-- A mail with money for player 1. -/
def moneyMail : Mail :=
  { messageID := 1, messageType := .normal, mailTemplateId := 0, sender := 3, receiver := 1,
    subject := "gold", body := "", items := [], expireTime := 5000, deliverTime := 0,
    money := 500, cod := 0, checked := maskCopied }

def moneyMailPost : PostOffice :=
  { storage := [moneyMail]
    players := [{ guid := 1, money := 0 }, { guid := 2, money := 10 }]
    inventory := [], nextMailId := 2, nextItemGuid := 1, log := [] }

def bothOnline : MailContext :=
  { now := 1000, online := fun _ => true, accountOf := fun guid => guid
    isGameMaster := fun _ => false, isBattleMaster := fun _ => false
    mailTemplateExists := fun _ => false, mailDeliveryDelay := 3600 }

/-- Player 2. -/
def thief : Session := { guid := 2, account := 2, real := by decide }

theorem moneyMailPost_fresh : Fresh moneyMailPost := by
  constructor
  · decide
  · decide

/-- Player 2 asks for the money of the mail and has it. -/
theorem thief_takes :
    ¬EveryStep (sessionStep thief) (LeavesOthers thief) moneyMailPost
        [(bothOnline, .takeMoney 1)] ∧
      (sessionStep thief moneyMailPost (bothOnline, .takeMoney 1)).purseOf thief.guid = 510 := by
  constructor
  · rintro ⟨leaves, _⟩
    have kept := leaves.spares moneyMail (by decide) (by decide)
    revert kept
    decide
  · decide

theorem thief_leavesOthers_iff :
    EveryStep (sessionStep thief) (LeavesOthers thief) moneyMailPost
        [(bothOnline, .takeMoney 1)] ↔
      EveryStep (sessionStep thief) (ReceiverTakes thief) moneyMailPost
        [(bothOnline, .takeMoney 1)] :=
  sessionLeavesOthers_iff thief moneyMailPost_fresh [(bothOnline, .takeMoney 1)]

end Thief

end RealmServer.Mails
