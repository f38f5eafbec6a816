import RealmServer.Auth.BigNumber

/-!
# The auth server session

`AuthSession` as a state machine.  Three things move it: a packet handed out
by `ReadHandler`, and a continuation the executor runs, which is either a
query callback or the one which clears `_db_busy`.  SHA1, the token generator
and the configuration are parameters; random numbers, query results and the
time are part of the events.

Two fields are not in the source.  `logonReplies` and `reconnectReplies`
remember the challenge replies which the session has sent, with the values
they were sent for, so that later steps can be compared with them.
-/

namespace RealmServer.Auth

open BigNumber Network

/-! ## Constants and configuration -/

inductive AuthStatus where
  | connected
  | authed
deriving DecidableEq, Repr

/-- The results the handlers below send. -/
inductive AuthResult where
  | success
  | failBanned
  | failUnknownAccount
  | failDbBusy
  | failVersionInvalid
  | failSuspended
  | failLockedEnforced
  | failUnlockableLock
deriving DecidableEq, Repr

def postBcExpFlag : Nat := 0x2
def preBcExpFlag : Nat := 0x1
def noValidExpFlag : Nat := 0x0

def postBcAcceptedClientBuilds : List Nat :=
  [15595, 14545, 13623, 13930, 12340, 11723, 11403, 11159, 10505, 9947, 8606]

def preBcAcceptedClientBuilds : List Nat := [6141, 6005, 5875]

def isPostBCAcceptedClientBuild (build : Nat) : Bool :=
  postBcAcceptedClientBuilds.contains build

def isPreBCAcceptedClientBuild (build : Nat) : Bool :=
  preBcAcceptedClientBuilds.contains build

def isAcceptedClientBuild (build : Nat) : Bool :=
  isPostBCAcceptedClientBuild build || isPreBCAcceptedClientBuild build

/-- `_expversion` as both challenge handlers compute it. -/
def expversionOf (build : Nat) : Nat :=
  if isPostBCAcceptedClientBuild build then postBcExpFlag
  else if isPreBCAcceptedClientBuild build then preBcExpFlag
  else noValidExpFlag

def localeNames : List String :=
  ["enUS", "koKR", "frFR", "deDE", "zhCN", "zhTW", "esES", "esMX", "ruRU"]

/-- Unknown names fall back to `LOCALE_enUS`. -/
def getLocaleByName (name : String) : Nat :=
  if name ∈ localeNames then localeNames.idxOf name else 0

/-- The prime `N` of the constructor. -/
def srpN : Nat :=
  0x894B645E89E1535BBDAD5B8B290650530801B18EBFBF5E8FAB3C82872A3E9BB7

/-- The generator `g` of the constructor. -/
def srpG : Nat := 7

/-- `sizeof(AUTH_LOGON_CHALLENGE_C)`, packed. -/
def sizeofLogonChallenge : Nat := 35

def authLogonChallengeInitialSize : Nat := 4

def maxAcceptedChallengeSize : Nat := sizeofLogonChallenge + 16

/-- What the session reads from its surroundings and never changes. -/
structure AuthEnvironment where
  sha1 : Bytes → Digest
  /-- `TOTP::GenerateToken` for a base32 key at a time. -/
  generateToken : String → Nat → Nat
  remoteIpAddress : String
  maxWrongPassCount : Nat
  wrongPassBanTime : Nat
  wrongPassBanType : Bool

/-- A number from `SetRand`: the top bit and the low bit are set. -/
structure RandomNumber (bits : Nat) where
  value : Nat
  topBit : 2 ^ (bits - 1) ≤ value
  bounded : value < 2 ^ bits
  odd : value % 2 = 1

/-! ## Packets and rows -/

structure LogonChallengePacket where
  size : Nat
  build : Nat
  os : String
  country : String
  lengthOfI : Nat
  /-- The first `lengthOfI` bytes of `I`. -/
  login : String
deriving DecidableEq, Repr

structure LogonProofPacket where
  A : Vector UInt8 32
  M1 : Digest
  securityFlags : UInt8
  /-- The token bytes which follow the structure in the read buffer. -/
  token : Bytes

structure ReconnectProofPacket where
  R1 : Vector UInt8 16
  R2 : Digest

inductive ClientPacket where
  | logonChallenge (packet : LogonChallengePacket)
  | logonProof (packet : LogonProofPacket) (time : Nat)
  | reconnectChallenge (packet : LogonChallengePacket)
  | reconnectProof (packet : ReconnectProofPacket)
  | realmList
  | unknown

/-- Fields 0 to 8 of both challenge queries. -/
structure AccountFields where
  id : Nat
  username : String
  locked : Bool
  lockCountry : String
  lastIp : String
  failedLogins : Nat
  banned : Bool
  permanentlyBanned : Bool
  gmLevel : Nat
deriving DecidableEq, Repr, Inhabited

/-- A row of `LOGIN_SEL_LOGONCHALLENGE`. -/
structure LogonRow extends AccountFields where
  tokenKey : String
  shaPassHash : String
  v : String
  s : String
deriving DecidableEq, Repr

/-- A row of `LOGIN_SEL_RECONNECTCHALLENGE`. -/
structure ReconnectRow extends AccountFields where
  sessionKey : String
deriving DecidableEq, Repr

structure AccountInfo where
  id : Nat := 0
  login : String := ""
  isLockedToIP : Bool := false
  lockCountry : String := ""
  lastIP : String := ""
  failedLogins : Nat := 0
  isBanned : Bool := false
  isPermanentlyBanned : Bool := false
  securityLevel : Nat := 0
deriving DecidableEq, Repr

/-- `AccountInfo::LoadResult`. -/
def AccountInfo.loadResult (fields : AccountFields) : AccountInfo where
  id := fields.id
  login := fields.username
  isLockedToIP := fields.locked
  lockCountry := fields.lockCountry
  lastIP := fields.lastIp
  failedLogins := fields.failedLogins
  isBanned := fields.banned
  isPermanentlyBanned := fields.permanentlyBanned
  securityLevel := fields.gmLevel

/-! ## Effects -/

inductive ServerPacket where
  | logonChallengeFail (result : AuthResult)
  | logonChallenge (result : AuthResult) (B s unk3 : Nat) (securityFlags : UInt8)
  | logonProofFail
  | logonProof (M2 : Digest) (postBc : Bool)
  | reconnectChallengeFail (result : AuthResult)
  | reconnectChallenge (proof : Nat)
  | reconnectProof
  | realmList (accountId : Nat)

/-- Parameters of `LOGIN_UPD_LOGONPROOF`; the key is the number `AsHexStr` prints. -/
structure LogonProofUpdate where
  sessionKey : Nat
  lastIp : String
  locale : Nat
  os : String
  username : String
deriving DecidableEq, Repr

inductive LoginStatement where
  | updVS (v s : Nat) (username : String)
  | updLogonProof (update : LogonProofUpdate)
  | updFailedLogins (username : String)
  | insAccountAutoBanned (accountId time : Nat)
  | insIpAutoBanned (ip : String) (time : Nat)
deriving DecidableEq, Repr

/-- Continuations waiting on the executor. -/
inductive Task where
  | checkIp
  | logonChallenge
  | reconnectChallenge
  | realmList
  /-- The second continuation of each chain: `_db_busy = false`. -/
  | clearBusy
deriving DecidableEq, Repr

/-- Neither `LogonChallengeCallback` nor `ReconnectChallengeCallback`. -/
def Task.isChallenge : Task → Bool
  | .logonChallenge | .reconnectChallenge => true
  | _ => false

/-- What a query chain gives its callback, with the callback's random draws. -/
inductive QueryOutcome where
  | ipInfo (rows : List (Bool × String))
  | logon (row : Option LogonRow)
      (b : RandomNumber 152) (unk3 : RandomNumber 128) (salt : RandomNumber 256)
  | reconnect (row : Option ReconnectRow) (proof : RandomNumber 128)
  | done

/-- The last reply of `LogonChallengeCallback`, with what it was sent for. -/
structure LogonReply where
  result : AuthResult
  row : LogonRow
  ipCountry : String
  v : Nat
  s : Nat
  b : Nat
  B : Nat

/-- The last reply of `ReconnectChallengeCallback`, with what it was sent for. -/
structure ReconnectReply where
  row : ReconnectRow
  K : Nat
  proof : Nat

/-! ## The session -/

structure AuthSession where
  s : Nat := 0
  v : Nat := 0
  b : Nat := 0
  B : Nat := 0
  K : Nat := 0
  reconnectProof : Nat := 0
  sentChallenge : Bool := false
  sentProof : Bool := false
  status : AuthStatus := .connected
  accountInfo : AccountInfo := {}
  tokenKey : String := ""
  localizationName : String := ""
  os : String := ""
  ipCountry : String := ""
  build : Nat := 0
  expversion : Nat := 0
  dbBusy : Bool := false
  /-- `Socket::_closed`. -/
  closed : Bool := false
  /-- Whether `AsyncRead` has been called, so that packets arrive. -/
  reading : Bool := false
  executor : List Task := []
  sent : List ServerPacket := []
  statements : List LoginStatement := []
  logonReplies : List LogonReply := []
  reconnectReplies : List ReconnectReply := []

/-- The session after `Start`: the ip query is under way. -/
def AuthSession.start : AuthSession where
  dbBusy := true
  executor := [.checkIp]

def AuthSession.send (session : AuthSession) (packet : ServerPacket) : AuthSession :=
  { session with sent := session.sent ++ [packet] }

def AuthSession.execute
    (session : AuthSession) (statement : LoginStatement) : AuthSession :=
  { session with statements := session.statements ++ [statement] }

/-- Send one packet of a challenge callback and return. -/
def AuthSession.rejectChallenge
    (session : AuthSession) (result : AuthResult) : AuthSession :=
  session.send (.logonChallengeFail result)

end RealmServer.Auth
