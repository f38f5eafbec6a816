import RealmServer.Players.Purse
import RealmServer.Players.Inventory

/-!
# Mails

`MailMgr` keeps all mails of all players in one store, keyed by their id.  The
handlers of a session call it with ids from the client.  Gold and items move
between purses, inventories and mails; what leaves the game, or is charged, is
written to a log.
-/

namespace RealmServer.Mails

open Table Players

inductive MailMessageType where
  | normal
  | auction
  | creature
  | gameobject
  | calendar
deriving DecidableEq, Repr

/-! ## `MailCheckMask` -/

def maskRead : Nat := 0x01

/-- "This mail was returned. Do not allow returning mail back again." -/
def maskReturned : Nat := 0x02

def maskCopied : Nat := 0x04

def maskCodPayment : Nat := 0x08

def maskHasBody : Nat := 0x10

def maxMailItems : Nat := 12

def mailBodyItemTemplate : Nat := 8383

def day : Nat := 86400

structure Mail where
  messageID : Nat
  messageType : MailMessageType
  mailTemplateId : Nat
  sender : Nat
  receiver : Nat
  subject : String
  body : String
  items : List Item
  expireTime : Nat
  deliverTime : Nat
  money : Nat
  cod : Nat
  checked : Nat
deriving DecidableEq, Repr

/-- What leaves the game or is charged, and where a new mail came from. -/
inductive MailLogEntry where
  | postage (player amount : Nat)
  /-- `HandleMailDelete`. -/
  | deleted (mail : Mail)
  /-- Deleted by `ReturnOrDeleteOldMails`. -/
  | expired (mail : Mail)
  /-- A return which finds nobody to return to. -/
  | notReturned (mail : Mail)
  /-- `delivered` when the payment mail was sent. -/
  | codCharged (mailId payer payee amount : Nat) (delivered : Bool)
  | merged (guid : Nat)
  | sent (mail : Mail)
deriving DecidableEq, Repr

structure PostOffice where
  storage : List Mail
  players : List PlayerMoney
  inventory : Inventory
  nextMailId : Nat
  nextItemGuid : Nat
  log : List MailLogEntry
deriving DecidableEq, Repr

/-- What a handler finds outside the mails. -/
structure MailContext where
  now : Nat
  online : Nat → Bool
  /-- `PlayerCache::GetAccountId`, zero for a guid nobody has. -/
  accountOf : Nat → Nat
  isGameMaster : Nat → Bool
  isBattleMaster : Nat → Bool
  mailTemplateExists : Nat → Bool
  mailDeliveryDelay : Nat

/-- A player exists. -/
def MailContext.exists (context : MailContext) (guid : Nat) : Bool :=
  context.online guid || context.accountOf guid != 0

/-- The player of a session, who has a guid. -/
structure Session where
  guid : Nat
  account : Nat
  real : guid ≠ 0

structure MailDraft where
  mailTemplateId : Nat
  subject : String
  body : String
  items : List Item
  money : Nat
  cod : Nat
deriving DecidableEq, Repr

namespace PostOffice

variable (context : MailContext)

def purseOf (post : PostOffice) (player : Nat) : Nat := moneyIn post.players player

def write (post : PostOffice) (entry : MailLogEntry) : PostOffice :=
  { post with log := post.log ++ [entry] }

/-! ## Sending -/

/-- The time after delivery when a mail is returned or deleted. -/
def expireDelay (messageType : MailMessageType) (sender : Nat) (draft : MailDraft) : Nat :=
  if messageType = .auction ∧ draft.items = [] ∧ draft.money = 0 then
    context.mailDeliveryDelay
  else if messageType = .creature ∧ context.isBattleMaster sender then day
  else if draft.cod ≠ 0 then 3 * day
  else if context.online sender && context.isGameMaster sender then 90 * day
  else 30 * day

/-- `MailMgr::Insert`. -/
def insert (post : PostOffice) (mail : Mail) : PostOffice :=
  { post with storage := assign Mail.messageID post.storage mail }

/-- The mail which `MailDraft::SendMailTo` makes of a draft. -/
def newMail (messageID : Nat) (draft : MailDraft) (receiver : Nat)
    (messageType : MailMessageType) (sender checked deliverDelay : Nat) : Mail where
  messageID
  messageType
  mailTemplateId := draft.mailTemplateId
  sender
  receiver
  subject := draft.subject
  body := draft.body
  items := draft.items
  expireTime :=
    context.now + deliverDelay + expireDelay context messageType sender draft
  deliverTime := context.now + deliverDelay
  money := draft.money
  cod := draft.cod
  checked

/-- `MailDraft::SendMailTo`. -/
def sendMailTo (post : PostOffice) (draft : MailDraft) (receiver : Nat)
    (messageType : MailMessageType) (sender checked deliverDelay : Nat) : PostOffice :=
  let mail :=
    newMail context post.nextMailId draft receiver messageType sender checked deliverDelay
  ({ post with nextMailId := post.nextMailId + 1 }.insert mail).write (.sent mail)

structure SendRequest where
  /-- The guid of the receiver's name, zero if there is none. -/
  receiver : Nat
  subject : String
  body : String
  itemGuids : List Nat
  money : Nat
  cod : Nat
  /-- Mailbox, levels, teams, and the flags of the items. -/
  otherChecks : Bool

/-- `GetMailCount`, in a `uint8`. -/
def getMailCount (post : PostOffice) (player : Nat) : Nat :=
  (post.storage.countP fun mail => mail.receiver = player) % 2 ^ 8

def SendRequest.cost (request : SendRequest) : Nat :=
  if request.itemGuids = [] then 30 else 30 * request.itemGuids.length

def SendRequest.reqmoney (request : SendRequest) : Nat :=
  (request.cost + request.money) % 2 ^ 32

def sendAccepted (post : PostOffice) (session : Session) (request : SendRequest) : Bool :=
  contains PlayerMoney.guid post.players session.guid &&
    request.itemGuids.length ≤ maxMailItems && request.otherChecks &&
    request.receiver != 0 && request.receiver != session.guid &&
    !(request.reqmoney < request.money) &&
    (request.reqmoney ≤ post.purseOf session.guid ||
      context.isGameMaster session.guid) &&
    post.getMailCount request.receiver ≤ 100 &&
    request.itemGuids.all fun guid =>
      (post.inventory.getItemByGuid session.guid guid).isSome

/--
The items of a packet leave the inventory for the draft.  A guid which is named
twice is not found a second time.
-/
def moveItems (owner : Nat) : Inventory → List Nat → Inventory × List Item
  | inventory, [] => (inventory, [])
  | inventory, guid :: rest =>
      match inventory.getItemByGuid owner guid with
      | none => moveItems owner inventory rest
      | some slot =>
          let (left, items) :=
            moveItems owner (inventory.moveItemFromInventory slot.owner slot.pos) rest
          (left, slot.item :: items)

/-- An item goes to another account with a delay, unless a game master sends it. -/
def sendDelay (session : Session) (request : SendRequest) (items : List Item) : Nat :=
  if items ≠ [] ∧ session.account ≠ context.accountOf request.receiver ∧
      context.isGameMaster session.guid = false then
    context.mailDeliveryDelay
  else 0

def SendRequest.draft (request : SendRequest) (items : List Item) : MailDraft where
  mailTemplateId := 0
  subject := request.subject
  body := request.body
  items
  money := request.money
  -- no COD without items
  cod := if request.itemGuids = [] then 0 else request.cod

/-- The sender pays, and hands over what is in the draft. -/
def chargeSender (post : PostOffice) (session : Session) (request : SendRequest)
    (left : Inventory) : PostOffice :=
  { post with
    inventory := left
    players := modifyPurse post.players session.guid (-toInt32 request.reqmoney) }.write
      (.postage session.guid request.cost)

def handleSendMail (post : PostOffice) (session : Session) (request : SendRequest) :
    PostOffice :=
  if !post.sendAccepted context session request then post
  else
    let moved := moveItems session.guid post.inventory request.itemGuids
    (post.chargeSender session request moved.1).sendMailTo context
      (request.draft moved.2) request.receiver .normal session.guid
      (if request.body = "" then maskCopied else maskHasBody)
      (sendDelay context session request moved.2)

/-! ## Reading -/

/-- `MarkAsRead` and `MarkAsCopied`. -/
def mark (post : PostOffice) (session : Session) (mailId mask : Nat) : PostOffice :=
  { post with
    storage := modify Mail.messageID post.storage mailId fun mail =>
      if mail.receiver = session.guid then { mail with checked := mail.checked ||| mask }
      else mail }

def handleMailMarkAsRead (post : PostOffice) (session : Session) (mailId : Nat) :
    PostOffice :=
  post.mark session mailId maskRead

def handleMailCreateTextItem (post : PostOffice) (session : Session) (mailId : Nat)
    (dest : List ItemPosCount) : PostOffice :=
  match find Mail.messageID post.storage mailId with
  | none => post
  | some mail =>
      let bodyItem : Item :=
        { guid := post.nextItemGuid, entry := mailBodyItemTemplate, count := 1 }
      if mail.checked &&& maskCopied ≠ 0 ∨ mail.receiver ≠ session.guid ∨
          (mail.body = "" ∧ mail.mailTemplateId = 0) ∨ context.now < mail.deliverTime then
        post
      else if mail.mailTemplateId ≠ 0 ∧
          context.mailTemplateExists mail.mailTemplateId = false then
        { post with nextItemGuid := post.nextItemGuid + 1 }
      else if !post.inventory.canStore session.guid bodyItem dest then
        { post with nextItemGuid := post.nextItemGuid + 1 }
      else
        let stored := Inventory.storeItem session.guid bodyItem post.inventory
          (post.nextItemGuid + 1) dest
        { post.mark session mailId maskCopied with
          inventory := stored.inventory
          nextItemGuid := stored.nextItemGuid }

/-! ## Deleting and returning -/

/-- `MailMgr::Delete`. -/
def delete (post : PostOffice) (mailId : Nat) : PostOffice :=
  { post with storage := erase Mail.messageID post.storage mailId }

def handleMailDelete (post : PostOffice) (session : Session) (mailId : Nat) : PostOffice :=
  match find Mail.messageID post.storage mailId with
  | none => post
  | some mail =>
      if mail.receiver ≠ session.guid then post
      else if mail.cod ≠ 0 ∧ mail.items ≠ [] then post
      else (post.delete mailId).write (.deleted mail)

/-- The draft which takes over the contents of a returned mail. -/
def returnDraft (mail : Mail) : MailDraft :=
  if mail.mailTemplateId ≠ 0 then
    { mailTemplateId := mail.mailTemplateId, subject := "", body := "",
      items := mail.items, money := mail.money, cod := 0 }
  else
    { mailTemplateId := 0, subject := mail.subject, body := mail.body,
      items := mail.items, money := mail.money, cod := 0 }

/-- The account is looked up only when the old sender is offline. -/
def returnDelay (mail : Mail) (account : Nat) : Nat :=
  let receiverAccount :=
    if context.online mail.sender then 0 else context.accountOf mail.sender
  if mail.items ≠ [] ∧ account ≠ receiverAccount then context.mailDeliveryDelay else 0

/-- `MailDraft::SendReturnToSender`; without an old sender the draft is lost. -/
def sendReturnToSender (post : PostOffice) (mail : Mail) (account : Nat) : PostOffice :=
  if !context.exists mail.sender then post.write (.notReturned mail)
  else
    post.sendMailTo context (returnDraft mail) mail.sender .normal mail.receiver maskReturned
      (returnDelay context mail account)

/-- `MailMgr::ReturnToSender` after its checks. -/
def returnMail (post : PostOffice) (mail : Mail) (account : Nat) : PostOffice :=
  if mail.messageType = .normal ∧ mail.sender ≠ 0 then
    (post.delete mail.messageID).sendReturnToSender context mail account
  else (post.delete mail.messageID).write (.notReturned mail)

def handleMailReturnToSender (post : PostOffice) (session : Session) (mailId : Nat) :
    PostOffice :=
  match find Mail.messageID post.storage mailId with
  | none => post
  | some mail =>
      if mail.receiver ≠ session.guid ∨ context.now < mail.deliverTime then post
      else post.returnMail context mail session.account

/-! ## Taking -/

/-- `Mail::RemoveItem`. -/
def removeItem (items : List Item) (guid : Nat) : List Item :=
  items.eraseP fun item => item.guid = guid

/-- The payment for a COD mail, if its sender exists, and the charge. -/
def payCod (post : PostOffice) (session : Session) (mail : Mail) : PostOffice :=
  if mail.cod = 0 then post
  else
    let post :=
      if context.exists mail.sender then
        post.sendMailTo context
          { mailTemplateId := 0, subject := mail.subject, body := "", items := [],
            money := mail.cod, cod := 0 }
          mail.sender .normal session.guid maskCodPayment 0
      else post
    { post with
      players := modifyPurse post.players session.guid (-toInt32 mail.cod) }.write
        (.codCharged mail.messageID session.guid mail.sender mail.cod
          (context.exists mail.sender))

/-- The checks of `TakeItem`; it does not look at the receiver. -/
def takeItemAccepted (post : PostOffice) (session : Session) (mail : Mail) (item : Item)
    (dest : List ItemPosCount) : Bool :=
  contains PlayerMoney.guid post.players session.guid &&
    !(context.now < mail.deliverTime) && mail.cod ≤ post.purseOf session.guid &&
    post.inventory.canStore session.guid item dest

def giveItem (post : PostOffice) (session : Session) (mail : Mail) (item : Item)
    (dest : List ItemPosCount) : PostOffice :=
  let stored :=
    Inventory.storeItem session.guid item post.inventory post.nextItemGuid dest
  let post : PostOffice :=
    { post with
      storage := modify Mail.messageID post.storage mail.messageID fun mail =>
        { mail with cod := 0, items := removeItem mail.items item.guid }
      inventory := stored.inventory
      nextItemGuid := stored.nextItemGuid }
  if stored.merged then post.write (.merged item.guid) else post

def takeItem (post : PostOffice) (session : Session) (mailId itemId : Nat)
    (dest : List ItemPosCount) : PostOffice :=
  match find Mail.messageID post.storage mailId with
  | none => post
  | some mail =>
      match mail.items.find? fun item => item.guid = itemId with
      | none => post
      | some item =>
          if !post.takeItemAccepted context session mail item dest then post
          else (post.giveItem session mail item dest).payCod context session mail

/-- `TakeMoney`; it does not look at the receiver either. -/
def takeMoney (post : PostOffice) (session : Session) (mailId : Nat) : PostOffice :=
  match find Mail.messageID post.storage mailId with
  | none => post
  | some mail =>
      if context.now < mail.deliverTime ∨
          contains PlayerMoney.guid post.players session.guid = false then post
      else
        match modifyMoney (post.purseOf session.guid) (toInt32 mail.money) with
        | none => post
        | some _ =>
            { post with
              players := modifyPurse post.players session.guid (toInt32 mail.money)
              storage := modify Mail.messageID post.storage mailId fun mail =>
                { mail with money := 0 } }

/-! ## Expiry -/

/--
`ReturnOrDeleteOldMails` over the mails which are there at its start; the mails
it sends itself do not expire at once.
-/
def expireMails : PostOffice → List Nat → PostOffice
  | post, [] => post
  | post, mailId :: rest =>
      match find Mail.messageID post.storage mailId with
      | none => expireMails post rest
      | some mail =>
          if mail.expireTime < context.now then
            if mail.messageType ≠ .normal ∨
                mail.checked &&& (maskCodPayment ||| maskReturned) ≠ 0 then
              expireMails ((post.delete mailId).write (.expired mail)) rest
            -- an undelivered mail ends the loop
            else if context.now < mail.deliverTime then post
            else expireMails (post.returnMail context mail 0) rest
          else expireMails post rest

def returnOrDeleteOldMails (post : PostOffice) : PostOffice :=
  post.expireMails context (post.storage.map Mail.messageID)

end PostOffice

/-- What a session asks for. -/
inductive MailRequest where
  | sendMail (request : PostOffice.SendRequest)
  | markAsRead (mailId : Nat)
  | createTextItem (mailId : Nat) (dest : List ItemPosCount)
  | delete (mailId : Nat)
  | returnToSender (mailId : Nat)
  | takeItem (mailId itemId : Nat) (dest : List ItemPosCount)
  | takeMoney (mailId : Nat)

def handle (post : PostOffice) (context : MailContext) (session : Session) :
    MailRequest → PostOffice
  | .sendMail request => post.handleSendMail context session request
  | .markAsRead mailId => post.handleMailMarkAsRead session mailId
  | .createTextItem mailId dest => post.handleMailCreateTextItem context session mailId dest
  | .delete mailId => post.handleMailDelete session mailId
  | .returnToSender mailId => post.handleMailReturnToSender context session mailId
  | .takeItem mailId itemId dest => post.takeItem context session mailId itemId dest
  | .takeMoney mailId => post.takeMoney context session mailId

inductive MailEvent where
  | request (context : MailContext) (session : Session) (request : MailRequest)
  | oldMails (context : MailContext)

def step (post : PostOffice) : MailEvent → PostOffice
  | .request context session request => handle post context session request
  | .oldMails context => post.returnOrDeleteOldMails context

end RealmServer.Mails
