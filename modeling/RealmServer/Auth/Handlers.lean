import RealmServer.Auth.Session

/-!
# Handlers and callbacks of the auth session

The handlers return the new session together with the boolean the source
returns; `readHandler` closes the socket when it is `false`.
-/

namespace RealmServer.Auth

open BigNumber Network

variable (environment : AuthEnvironment)

/-! ## The challenge handlers -/

/-- The size test both challenge handlers make on the packet. -/
def LogonChallengePacket.sizeMatches (packet : LogonChallengePacket) : Bool :=
  packet.size == packet.lengthOfI + (sizeofLogonChallenge - authLogonChallengeInitialSize - 1)

/-- The client description both challenge handlers store. -/
def AuthSession.loadClient
    (session : AuthSession) (packet : LogonChallengePacket) : AuthSession :=
  { session with
    build := packet.build
    expversion := expversionOf packet.build
    os := String.ofList packet.os.toList.reverse
    localizationName := String.ofList packet.country.toList.reverse }

/-- Hand a query to the database; its callback is queued on the executor. -/
def AuthSession.asyncQuery (session : AuthSession) (callback : Task) : AuthSession :=
  { session with dbBusy := true, executor := session.executor ++ [callback] }

/--
The common body of both challenge handlers: one challenge a session, a size
test, the busy reply, and the query whose callback is `callback`.
-/
def handleChallenge
    (session : AuthSession) (packet : LogonChallengePacket)
    (busyReply : ServerPacket) (callback : Task) : AuthSession × Bool :=
  if session.sentChallenge then (session, false)
  else
    let session := { session with sentChallenge := true }
    if !packet.sizeMatches then (session, false)
    else if session.dbBusy then (session.send busyReply, true)
    else ((session.loadClient packet).asyncQuery callback, true)

def handleLogonChallenge
    (session : AuthSession) (packet : LogonChallengePacket) : AuthSession × Bool :=
  handleChallenge session packet (.logonChallengeFail .failDbBusy) .logonChallenge

def handleReconnectChallenge
    (session : AuthSession) (packet : LogonChallengePacket) : AuthSession × Bool :=
  handleChallenge session packet (.reconnectChallengeFail .failDbBusy)
    .reconnectChallenge

/-! ## The challenge callbacks -/

/-- The checks of `LogonChallengeCallback`; `none` lets the account through. -/
def logonRejection
    (remoteIp ipCountry : String) (account : AccountInfo) : Option AuthResult :=
  if account.isLockedToIP && account.lastIP != remoteIp then
    some .failLockedEnforced
  else if !account.isLockedToIP && account.lockCountry != ""
      && account.lockCountry != "00" && ipCountry != ""
      && ipCountry != account.lockCountry then
    some .failUnlockableLock
  else if account.isBanned then
    if account.isPermanentlyBanned then some .failBanned
    else some .failSuspended
  else none

/-- `SetVSFields`: salt and verifier from the stored password hash. -/
def setVSFields
    (session : AuthSession) (rI : String) (salt : RandomNumber 256) : AuthSession :=
  let digest := ((asByteArray 20 (setHexStr 0 rI)).take 20).reverse
  let x := setBinary
    (environment.sha1 (asByteArray 32 salt.value ++ digest)).toList
  let v := modExp srpG x srpN
  { session with s := salt.value, v := v }.execute
    (.updVS v salt.value session.accountInfo.login)

/-- Salt and verifier: from the database when both have 32 bytes, else new. -/
def loadVerifier
    (session : AuthSession) (row : LogonRow) (salt : RandomNumber 256) : AuthSession :=
  if row.v.length ≠ 64 ∨ row.s.length ≠ 64 then
    setVSFields environment session row.shaPassHash salt
  else
    { session with s := setHexStr session.s row.s, v := setHexStr session.v row.v }

def securityFlagsOf (tokenKey : String) : UInt8 :=
  if tokenKey = "" then 0 else 4

/-- The result code of the full challenge reply. -/
def challengeResult (build : Nat) : AuthResult :=
  if isAcceptedClientBuild build then .success else .failVersionInvalid

/-- The part of `LogonChallengeCallback` after the account checks. -/
def sendLogonChallenge
    (session : AuthSession) (row : LogonRow)
    (b : RandomNumber 152) (unk3 : RandomNumber 128) (salt : RandomNumber 256) :
    AuthSession :=
  let session := loadVerifier environment session row salt
  let B := (session.v * 3 + modExp srpG b.value srpN) % srpN
  let session := { session with b := b.value, B := B, tokenKey := row.tokenKey }
  let result := challengeResult session.build
  let reply : LogonReply :=
    { result, row, ipCountry := session.ipCountry
      v := session.v, s := session.s, b := b.value, B }
  { session with logonReplies := session.logonReplies ++ [reply] }.send
    (.logonChallenge result B session.s unk3.value (securityFlagsOf row.tokenKey))

def logonChallengeCallback
    (session : AuthSession) (row : Option LogonRow)
    (b : RandomNumber 152) (unk3 : RandomNumber 128) (salt : RandomNumber 256) :
    AuthSession :=
  match row with
  | none => session.rejectChallenge .failUnknownAccount
  | some row =>
      let session :=
        { session with accountInfo := .loadResult row.toAccountFields }
      match logonRejection environment.remoteIpAddress session.ipCountry
          session.accountInfo with
      | some result => session.rejectChallenge result
      | none => sendLogonChallenge environment session row b unk3 salt

/-- No ban, lock or version check here, as in the source. -/
def reconnectChallengeCallback
    (session : AuthSession) (row : Option ReconnectRow)
    (proof : RandomNumber 128) : AuthSession :=
  match row with
  | none => session.send (.reconnectChallengeFail .failUnknownAccount)
  | some row =>
      let K := setHexStr session.K row.sessionKey
      let reply : ReconnectReply := { row, K, proof := proof.value }
      { session with
        accountInfo := .loadResult row.toAccountFields
        K := K
        reconnectProof := proof.value
        reconnectReplies := session.reconnectReplies ++ [reply] }.send
        (.reconnectChallenge proof.value)

/-! ## The SRP6 proof -/

/-- `UpdateData(_accountInfo.Login)`. -/
def stringBytes (text : String) : Bytes := text.toUTF8.toList

/-- Every second byte of the first 32, from an offset: the buffer `t1`. -/
def everySecond (offset : Nat) (bytes : Bytes) : Bytes :=
  (List.range 16).map fun index => bytes.getD (2 * index + offset) 0

/-- `vK`: two digests interleaved byte by byte. -/
def interleave (even odd : Digest) : Bytes :=
  ((List.finRange 20).map fun index => [even.get index, odd.get index]).flatten

/-- The secret `S` of the server side. -/
def srpSecret (A v b B : Nat) : Nat :=
  let u := setBinary
    (environment.sha1 (asByteArray 0 A ++ asByteArray 0 B)).toList
  modExp (A * modExp v u srpN) b srpN

/-- The session key `K` of a secret. -/
def srpSessionKey (S : Nat) : Nat :=
  let t := (asByteArray 32 S).take 32
  setBinary (interleave
    (environment.sha1 (everySecond 0 t)) (environment.sha1 (everySecond 1 t)))

/-- `t3`: the digests of `N` and `g`, xored. -/
def srpGroupHash : Nat :=
  let hash := Vector.zipWith (· ^^^ ·)
    (environment.sha1 (asByteArray 0 srpN)) (environment.sha1 (asByteArray 0 srpG))
  setBinary hash.toList

/-- The number `M` the client has to prove. -/
def srpProof (login : String) (s A B K : Nat) : Nat :=
  setBinary (environment.sha1
    (asByteArray 0 (srpGroupHash environment)
      ++ (environment.sha1 (stringBytes login)).toList
      ++ asByteArray 0 s ++ asByteArray 0 A ++ asByteArray 0 B
      ++ asByteArray 0 K)).toList

/-- `K` as the proof handler computes it from the values of the challenge. -/
def proofKey (v b B : Nat) (packet : LogonProofPacket) : Nat :=
  srpSessionKey environment
    (srpSecret environment (setBinary packet.A.toList) v b B)

/-- The number `M` of an account and the values of its challenge. -/
def expectedProof
    (login : String) (s v b B : Nat) (packet : LogonProofPacket) : Nat :=
  srpProof environment login s (setBinary packet.A.toList) B
    (proofKey environment v b B packet)

/-- The `memcmp` of the proof handler: the first 20 bytes of `M` are `M1`. -/
def proofMatches
    (login : String) (s v b B : Nat) (packet : LogonProofPacket) : Bool :=
  (asByteArray 20 (expectedProof environment login s v b B packet)).take 20
    == packet.M1.toList

/-- The comparison against the values the session holds. -/
def AuthSession.proofMatches
    (session : AuthSession) (packet : LogonProofPacket) : Bool :=
  Auth.proofMatches environment session.accountInfo.login
    session.s session.v session.b session.B packet

/-! ## The token -/

def isSpaceByte (byte : UInt8) : Bool :=
  byte == 32 || (9 ≤ byte && byte ≤ 13)

def isDigitByte (byte : UInt8) : Bool := 48 ≤ byte && byte ≤ 57

/-- `atoi`: blanks, a sign, and the leading decimal digits. -/
def atoi (text : Bytes) : Int :=
  let digits (rest : Bytes) : Nat :=
    (rest.takeWhile isDigitByte).foldl
      (fun value byte => 10 * value + (byte.toNat - 48)) 0
  match text.dropWhile isSpaceByte with
  | 45 :: rest => -(digits rest : Int)
  | 43 :: rest => digits rest
  | rest => digits rest

/-- The comparison of the received token with the generated one. -/
def tokenCorrect (tokenKey : String) (packet : LogonProofPacket) (time : Nat) : Bool :=
  (environment.generateToken tokenKey time : Int)
    == atoi packet.token % (2 ^ 32 : Int)

/-- Whether the handler looks at a token at all. -/
def AuthSession.checksToken
    (session : AuthSession) (packet : LogonProofPacket) : Bool :=
  packet.securityFlags &&& 4 != 0 || session.tokenKey != ""

/-! ## The proof handlers -/

/-- Statements of a failed logon proof. -/
def wrongPassword (session : AuthSession) : AuthSession :=
  if environment.maxWrongPassCount = 0 then session
  else
    let session := session.execute (.updFailedLogins session.accountInfo.login)
    if session.accountInfo.failedLogins < environment.maxWrongPassCount then session
    else if environment.wrongPassBanType then
      session.execute
        (.insAccountAutoBanned session.accountInfo.id environment.wrongPassBanTime)
    else
      session.execute
        (.insIpAutoBanned environment.remoteIpAddress environment.wrongPassBanTime)

/-- The session key goes to the database before the token is looked at. -/
def storeSessionKey (session : AuthSession) (K : Nat) : AuthSession :=
  { session with K := K }.execute (.updLogonProof
    { sessionKey := K
      lastIp := environment.remoteIpAddress
      locale := getLocaleByName session.localizationName
      os := session.os
      username := session.accountInfo.login })

/-- The digest `M2` which answers a correct proof. -/
def srpAnswer (A M K : Nat) : Digest :=
  environment.sha1 (asByteArray 0 A ++ asByteArray 0 M ++ asByteArray 0 K)

/-- The branch of `HandleLogonProof` where `M` and `M1` agree. -/
def acceptLogonProof
    (session : AuthSession) (packet : LogonProofPacket) (time : Nat) : AuthSession :=
  let K := proofKey environment session.v session.b session.B packet
  let M := expectedProof environment session.accountInfo.login
    session.s session.v session.b session.B packet
  let stored := storeSessionKey environment session K
  if stored.checksToken packet && !tokenCorrect environment stored.tokenKey packet time then
    { stored with tokenKey := "" }.send .logonProofFail
  else
    let cleared :=
      if stored.checksToken packet then { stored with tokenKey := "" } else stored
    { cleared with status := .authed }.send
      (.logonProof (srpAnswer environment (setBinary packet.A.toList) M K)
        (session.expversion &&& postBcExpFlag != 0))

def handleLogonProof
    (session : AuthSession) (packet : LogonProofPacket) (time : Nat) :
    AuthSession × Bool :=
  if session.sentProof then (session, false)
  else
    let session := { session with sentProof := true }
    if session.expversion = noValidExpFlag then (session, false)
    else if setBinary packet.A.toList % srpN = 0 then (session, false)
    else if session.proofMatches environment packet then
      (acceptLogonProof environment session packet time, true)
    else
      let K := proofKey environment session.v session.b session.B packet
      let session := { session with K := K }
      (wrongPassword environment (session.send .logonProofFail), true)

/-- The digest `HandleReconnectProof` compares with `R2`. -/
def reconnectDigest
    (login : String) (proof K : Nat) (packet : ReconnectProofPacket) : Digest :=
  environment.sha1 (stringBytes login
    ++ asByteArray 0 (setBinary packet.R1.toList)
    ++ asByteArray 0 proof ++ asByteArray 0 K)

def handleReconnectProof
    (session : AuthSession) (packet : ReconnectProofPacket) : AuthSession × Bool :=
  if session.sentProof then (session, false)
  else
    let session := { session with sentProof := true }
    if session.accountInfo.login = "" ∨ getNumBytes session.reconnectProof = 0
        ∨ getNumBytes session.K = 0 then (session, false)
    else if reconnectDigest environment session.accountInfo.login
        session.reconnectProof session.K packet = packet.R2 then
      ({ session with status := .authed }.send .reconnectProof, true)
    else (session, false)

def handleRealmList (session : AuthSession) : AuthSession × Bool :=
  if session.dbBusy then (session, false)
  else (session.asyncQuery .realmList, true)

def realmListCallback (session : AuthSession) : AuthSession :=
  session.send (.realmList session.accountInfo.id)

/-- `CheckIpCallback`: reading starts only when the address is not banned. -/
def checkIpCallback
    (session : AuthSession) (rows : List (Bool × String)) : AuthSession :=
  let country := (rows.map Prod.snd).filter (· != "") |>.getLast?
  let session := { session with ipCountry := country.getD session.ipCountry }
  if rows.any Prod.fst then session.rejectChallenge .failBanned
  else { session with reading := true }

/-! ## Dispatch -/

/-- The status column of `InitHandlers`; other commands are not handled. -/
def ClientPacket.requiredStatus : ClientPacket → Option AuthStatus
  | .logonChallenge _ => some .connected
  | .logonProof _ _ => some .connected
  | .reconnectChallenge _ => some .connected
  | .reconnectProof _ => some .connected
  | .realmList => some .authed
  | .unknown => none

/-- Challenges announce their size, in 16-bit arithmetic. -/
def ClientPacket.tooLarge : ClientPacket → Bool
  | .logonChallenge packet | .reconnectChallenge packet =>
      maxAcceptedChallengeSize <
        (authLogonChallengeInitialSize + packet.size) % 2 ^ 16
  | _ => false

def handlePacket (session : AuthSession) : ClientPacket → AuthSession × Bool
  | .logonChallenge packet => handleLogonChallenge session packet
  | .logonProof packet time => handleLogonProof environment session packet time
  | .reconnectChallenge packet => handleReconnectChallenge session packet
  | .reconnectProof packet => handleReconnectProof environment session packet
  | .realmList => handleRealmList session
  | .unknown => (session, true)

/-- Whether `ReadHandler` calls the handler of a packet. -/
def AuthSession.dispatches (session : AuthSession) (packet : ClientPacket) : Bool :=
  !session.closed && session.reading
    && packet.requiredStatus == some session.status && !packet.tooLarge

/-- `CloseSocket`. -/
def AuthSession.close (session : AuthSession) : AuthSession :=
  { session with closed := true }

/-- `ReadHandler` for one packet. -/
def readHandler (session : AuthSession) (packet : ClientPacket) : AuthSession :=
  if session.closed || !session.reading then session
  else
    match packet.requiredStatus with
    | none => session
    | some status =>
        if session.status ≠ status then session.close
        else if packet.tooLarge then session.close
        else
          let (session, keep) := handlePacket environment session packet
          if keep then session else session.close

/-- Run one callback; the outcome has to be one of its own query. -/
def runCallback
    (session : AuthSession) : Task → QueryOutcome → Option AuthSession
  | .checkIp, .ipInfo rows => some (checkIpCallback session rows)
  | .logonChallenge, .logon row b unk3 salt =>
      some (logonChallengeCallback environment session row b unk3 salt)
  | .reconnectChallenge, .reconnect row proof =>
      some (reconnectChallengeCallback session row proof)
  | .realmList, .done => some (realmListCallback session)
  | .clearBusy, .done => some { session with dbBusy := false }
  | _, _ => none

/-- The continuation which a finished callback puts on the executor. -/
def Task.continuation : Task → List Task
  | .clearBusy => []
  | _ => [.clearBusy]

/-- `Update` runs the first continuation, unless the socket is closed. -/
def runExecutor (session : AuthSession) (outcome : QueryOutcome) : AuthSession :=
  if session.closed then session
  else
    match session.executor with
    | [] => session
    | task :: rest =>
        match runCallback environment { session with executor := rest } task outcome with
        | none => session
        | some next =>
            { next with executor := next.executor ++ task.continuation }

/-- What moves a session. -/
inductive AuthEvent where
  | packet (packet : ClientPacket)
  | callback (outcome : QueryOutcome)

def step (session : AuthSession) : AuthEvent → AuthSession
  | .packet packet => readHandler environment session packet
  | .callback outcome => runExecutor environment session outcome

end RealmServer.Auth
