import RealmServer.Lib.Transition
import RealmServer.Auth.Handlers

/-!
# Who gets authenticated

A session grants access when its status becomes `STATUS_AUTHED` or when it
writes a session key.  This module asks whether every grant rests on a
challenge which the same session answered before.

Both proof handlers share the flags `_sentChallenge` and `_sentProof`, so a
session sends at most one challenge reply.  `Consistent` states what the
session then knows about that reply.  `HandleReconnectProof` refuses to run on
values nobody set; `HandleLogonProof` does not, and it writes the session key
before it looks at the token.  `grantIsProved_iff` says that these are the
only two ways in.
-/

namespace RealmServer.Auth

open BigNumber Transition Network

variable (environment : AuthEnvironment)

/-! ## What a grant is, and what proves it -/

/-- The statements a step has added. -/
def newStatements (session next : AuthSession) : List LoginStatement :=
  next.statements.drop session.statements.length

/-- The step authenticates the session, or stores a session key. -/
def Grants (session next : AuthSession) : Prop :=
  (session.status ≠ .authed ∧ next.status = .authed) ∨
    ∃ update, .updLogonProof update ∈ newStatements session next

/-- The reply told the client to go on, after every check on the account. -/
def LogonReply.Success (reply : LogonReply) : Prop :=
  reply.result = .success ∧
    logonRejection environment.remoteIpAddress reply.ipCountry
      (.loadResult reply.row.toAccountFields) = none

/--
The step handles a logon proof for an account whose challenge this session
answered: the values are those of the answer, `M1` matches them, and the
token of the account, if it has one, is correct.
-/
def LogonProved (session : AuthSession) (event : AuthEvent) : Prop :=
  ∃ packet time, event = .packet (.logonProof packet time) ∧
    ∃ reply ∈ session.logonReplies,
      reply.Success environment ∧
      reply.row.username = session.accountInfo.login ∧
      (session.v = reply.v ∧ session.s = reply.s ∧
        session.b = reply.b ∧ session.B = reply.B) ∧
      proofMatches environment reply.row.username
        reply.s reply.v reply.b reply.B packet = true ∧
      (reply.row.tokenKey ≠ "" →
        tokenCorrect environment reply.row.tokenKey packet time = true) ∧
      ∀ update, .updLogonProof update ∈
          newStatements session (step environment session event) →
        update.username = reply.row.username

/--
The step handles a reconnect proof for an account whose reconnect challenge
this session answered, with the digest of the stored key and that challenge.
-/
def ReconnectProved (session : AuthSession) (event : AuthEvent) : Prop :=
  ∃ packet, event = .packet (.reconnectProof packet) ∧
    ∃ reply ∈ session.reconnectReplies,
      reply.row.username = session.accountInfo.login ∧
      reconnectDigest environment reply.row.username reply.proof reply.K packet =
        packet.R2

/-- Every grant is proved. -/
def GrantIsProved (session : AuthSession) (event : AuthEvent) : Prop :=
  Grants session (step environment session event) →
    LogonProved environment session event ∨
      ReconnectProved environment session event

/--
What the proof handler does not ask for itself.  When a logon proof with the
matching `M1` is handled, the private value `b` has been drawn, and the token
is correct if the account has one.
-/
def ProofAfterReply (session : AuthSession) : AuthEvent → Prop
  | .packet (.logonProof packet time) =>
      session.dispatches (.logonProof packet time) = true →
      session.sentProof = false →
      session.expversion ≠ noValidExpFlag →
      setBinary packet.A.toList % srpN ≠ 0 →
      session.proofMatches environment packet = true →
        session.b ≠ 0 ∧
          (session.tokenKey ≠ "" →
            tokenCorrect environment session.tokenKey packet time = true)
  | _ => True

/-! ## Steps which grant nothing -/

/-- The status stays, and no session key is written. -/
def Quiet (session next : AuthSession) : Prop :=
  next.status = session.status ∧
    ∃ added, next.statements = session.statements ++ added ∧
      ∀ update, LoginStatement.updLogonProof update ∉ added

theorem Quiet.of_eq {session next : AuthSession}
    (status : next.status = session.status)
    (statements : next.statements = session.statements) :
    Quiet session next :=
  ⟨status, [], by simp [statements], by simp⟩

theorem Quiet.refl (session : AuthSession) : Quiet session session :=
  Quiet.of_eq rfl rfl

theorem Quiet.trans {first second third : AuthSession}
    (left : Quiet first second) (right : Quiet second third) :
    Quiet first third := by
  obtain ⟨leftStatus, leftAdded, leftEq, leftNone⟩ := left
  obtain ⟨rightStatus, rightAdded, rightEq, rightNone⟩ := right
  refine ⟨rightStatus.trans leftStatus, leftAdded ++ rightAdded, ?_, ?_⟩
  · rw [rightEq, leftEq, List.append_assoc]
  · intro update member
    rcases List.mem_append.mp member with old | new
    · exact leftNone update old
    · exact rightNone update new

theorem Quiet.execute (session : AuthSession) {statement : LoginStatement}
    (other : ∀ update, statement ≠ .updLogonProof update) :
    Quiet session (session.execute statement) := by
  refine ⟨rfl, [statement], rfl, ?_⟩
  intro update member
  exact other update (List.mem_singleton.mp member).symm

theorem Quiet.not_grants {session next : AuthSession}
    (quiet : Quiet session next) : ¬ Grants session next := by
  obtain ⟨status, added, statements, none⟩ := quiet
  rintro (⟨notAuthed, authed⟩ | ⟨update, member⟩)
  · exact notAuthed (status ▸ authed)
  · rw [newStatements, statements, List.drop_left] at member
    exact none update member

theorem handleChallenge_quiet
    (session : AuthSession) (packet : LogonChallengePacket)
    (busyReply : ServerPacket) (callback : Task) :
    Quiet session (handleChallenge session packet busyReply callback).1 := by
  unfold handleChallenge
  dsimp only
  split_ifs
  all_goals exact Quiet.of_eq rfl rfl

theorem wrongPassword_quiet (session : AuthSession) :
    Quiet session (wrongPassword environment session) := by
  have counted :
      Quiet session
        (session.execute (.updFailedLogins session.accountInfo.login)) :=
    Quiet.execute session (by simp)
  unfold wrongPassword
  dsimp only
  split_ifs
  · exact Quiet.refl session
  · exact counted
  · exact counted.trans (Quiet.execute _ (by simp))
  · exact counted.trans (Quiet.execute _ (by simp))

theorem loadVerifier_quiet
    (session : AuthSession) (row : LogonRow) (salt : RandomNumber 256) :
    Quiet session (loadVerifier environment session row salt) := by
  unfold loadVerifier
  split_ifs
  · exact ⟨rfl, _, rfl, by simp⟩
  · exact Quiet.of_eq rfl rfl

theorem logonChallengeCallback_quiet
    (session : AuthSession) (row : Option LogonRow)
    (b : RandomNumber 152) (unk3 : RandomNumber 128) (salt : RandomNumber 256) :
    Quiet session
      (logonChallengeCallback environment session row b unk3 salt) := by
  unfold logonChallengeCallback
  cases row with
  | none => exact Quiet.of_eq rfl rfl
  | some row =>
      dsimp only
      split
      · exact Quiet.of_eq rfl rfl
      · exact (Quiet.of_eq rfl rfl).trans
          ((loadVerifier_quiet environment
            { session with accountInfo := .loadResult row.toAccountFields }
            row salt).trans (Quiet.of_eq rfl rfl))

theorem runCallback_quiet
    {session next : AuthSession} {task : Task} {outcome : QueryOutcome}
    (ran : runCallback environment session task outcome = some next) :
    Quiet session next := by
  unfold runCallback at ran
  split at ran <;> simp only [Option.some.injEq, reduceCtorEq] at ran
  · subst ran
    unfold checkIpCallback
    dsimp only
    split_ifs
    all_goals exact Quiet.of_eq rfl rfl
  · subst ran
    exact logonChallengeCallback_quiet environment session _ _ _ _
  · subst ran
    unfold reconnectChallengeCallback
    split
    all_goals exact Quiet.of_eq rfl rfl
  · subst ran
    exact Quiet.of_eq rfl rfl
  · subst ran
    exact Quiet.of_eq rfl rfl

theorem runExecutor_quiet (session : AuthSession) (outcome : QueryOutcome) :
    Quiet session (runExecutor environment session outcome) := by
  unfold runExecutor
  split_ifs
  · exact Quiet.refl session
  · split
    · exact Quiet.refl session
    · split
      · exact Quiet.refl session
      · rename_i ran
        exact (Quiet.of_eq rfl rfl).trans
          ((runCallback_quiet environment ran).trans (Quiet.of_eq rfl rfl))

/-! ## What the session knows about its challenge -/

/-- Challenges under way or answered. -/
def AuthSession.challengeCount (session : AuthSession) : Nat :=
  session.executor.countP Task.isChallenge
    + (session.logonReplies.length + session.reconnectReplies.length)

/-- The session holds the values of a logon reply it has sent. -/
structure HoldsLogon (session : AuthSession) (reply : LogonReply) : Prop where
  account : reply.row.username = session.accountInfo.login
  values : session.v = reply.v ∧ session.s = reply.s ∧
    session.b = reply.b ∧ session.B = reply.B
  drawn : reply.b ≠ 0
  result : reply.result = challengeResult session.build
  allowed : logonRejection environment.remoteIpAddress reply.ipCountry
    (.loadResult reply.row.toAccountFields) = none
  token : session.sentProof = false → session.tokenKey = reply.row.tokenKey

/-- The session holds the values of a reconnect reply it has sent. -/
structure HoldsReconnect (session : AuthSession) (reply : ReconnectReply) : Prop where
  account : reply.row.username = session.accountInfo.login
  proof : session.reconnectProof = reply.proof
  key : session.sentProof = false → session.K = reply.K

/-- One challenge a session, and its values stand where its reply put them. -/
structure Consistent (session : AuthSession) : Prop where
  single : session.challengeCount ≤ session.sentChallenge.toNat
  version : session.expversion = expversionOf session.build
  logon : ∀ reply ∈ session.logonReplies, HoldsLogon environment session reply
  noLogon : session.logonReplies = [] → session.b = 0
  reconnect : ∀ reply ∈ session.reconnectReplies, HoldsReconnect session reply
  noReconnect : session.reconnectReplies = [] → session.reconnectProof = 0

theorem Consistent.start : Consistent environment AuthSession.start where
  single := by decide
  version := by decide
  logon := by simp [AuthSession.start]
  noLogon := fun _ => rfl
  reconnect := by simp [AuthSession.start]
  noReconnect := fun _ => rfl

/-- Everything about the challenge but the token and the session key. -/
structure SameChallenge (session next : AuthSession) : Prop where
  values : next.s = session.s ∧ next.v = session.v ∧
    next.b = session.b ∧ next.B = session.B
  account : next.accountInfo = session.accountInfo
  client : next.build = session.build ∧ next.expversion = session.expversion
  proof : next.reconnectProof = session.reconnectProof
  sentChallenge : next.sentChallenge = session.sentChallenge
  executor : next.executor = session.executor
  replies : next.logonReplies = session.logonReplies ∧
    next.reconnectReplies = session.reconnectReplies

theorem SameChallenge.trans {first second third : AuthSession}
    (left : SameChallenge first second) (right : SameChallenge second third) :
    SameChallenge first third := by
  constructor
  · simp [right.values, left.values]
  · exact right.account.trans left.account
  · simp [right.client, left.client]
  · exact right.proof.trans left.proof
  · exact right.sentChallenge.trans left.sentChallenge
  · exact right.executor.trans left.executor
  · simp [right.replies, left.replies]

theorem SameChallenge.sameTasks {session next : AuthSession}
    (same : SameChallenge session next) :
    SameChallenge { session with executor := next.executor } next :=
  { same with executor := rfl }

/-- The challenge is kept, and so are the keys until a proof handler has run. -/
theorem Consistent.of_same {session next : AuthSession}
    (consistent : Consistent environment session)
    (same : SameChallenge { session with executor := next.executor } next)
    (challenges : next.executor.countP Task.isChallenge =
      session.executor.countP Task.isChallenge)
    (keys : next.sentProof = true ∨ next.sentProof = session.sentProof ∧
      next.tokenKey = session.tokenKey ∧ next.K = session.K) :
    Consistent environment next := by
  obtain ⟨⟨sEq, vEq, bEq, BEq⟩, account, ⟨build, expversion⟩, proof,
    sentChallenge, _, replies⟩ := same
  have logonReplies : next.logonReplies = session.logonReplies := replies.1
  have reconnectReplies : next.reconnectReplies = session.reconnectReplies :=
    replies.2
  dsimp only at sEq vEq bEq BEq account build expversion proof sentChallenge
  constructor
  · simpa only [AuthSession.challengeCount, challenges, logonReplies,
      reconnectReplies, sentChallenge] using consistent.single
  · rw [expversion, build, consistent.version]
  · intro reply member
    have holds := consistent.logon reply (logonReplies ▸ member)
    constructor
    · rw [account, holds.account]
    · rw [vEq, sEq, bEq, BEq]
      exact holds.values
    · exact holds.drawn
    · rw [build, holds.result]
    · exact holds.allowed
    · rcases keys with sent | ⟨sentProof, tokenKey, _⟩
      · simp [sent]
      · rw [sentProof, tokenKey]
        exact holds.token
  · intro none
    rw [bEq, consistent.noLogon (logonReplies ▸ none)]
  · intro reply member
    have holds := consistent.reconnect reply (reconnectReplies ▸ member)
    constructor
    · rw [account, holds.account]
    · rw [proof, holds.proof]
    · rcases keys with sent | ⟨sentProof, _, K⟩
      · simp [sent]
      · rw [sentProof, K]
        exact holds.key
  · intro none
    rw [proof, consistent.noReconnect (reconnectReplies ▸ none)]

/-- Bookkeeping which the invariant does not mention. -/
theorem Consistent.close {session : AuthSession}
    (consistent : Consistent environment session) :
    Consistent environment session.close :=
  consistent.of_same environment (by constructor <;> simp [AuthSession.close]) rfl
    (.inr ⟨rfl, rfl, rfl⟩)

/-- Before the challenge there is nothing to hold. -/
theorem Consistent.fresh {session : AuthSession}
    (consistent : Consistent environment session)
    (notSent : session.sentChallenge = false) :
    session.executor.countP Task.isChallenge = 0 ∧
      session.logonReplies = [] ∧ session.reconnectReplies = [] := by
  have single := consistent.single
  rw [AuthSession.challengeCount, notSent, Bool.toNat_false] at single
  refine ⟨by omega, ?_, ?_⟩
  · exact List.length_eq_zero_iff.mp (by omega)
  · exact List.length_eq_zero_iff.mp (by omega)

theorem Consistent.of_no_replies {session : AuthSession}
    (logonReplies : session.logonReplies = [])
    (reconnectReplies : session.reconnectReplies = [])
    (single : session.executor.countP Task.isChallenge ≤
      session.sentChallenge.toNat)
    (version : session.expversion = expversionOf session.build)
    (b : session.b = 0) (proof : session.reconnectProof = 0) :
    Consistent environment session where
  single := by
    simpa [AuthSession.challengeCount, logonReplies, reconnectReplies] using single
  version := version
  logon := by simp [logonReplies]
  noLogon := fun _ => b
  reconnect := by simp [reconnectReplies]
  noReconnect := fun _ => proof

theorem handleChallenge_consistent
    {session : AuthSession} (consistent : Consistent environment session)
    (packet : LogonChallengePacket) (busyReply : ServerPacket) (callback : Task) :
    Consistent environment
      (handleChallenge session packet busyReply callback).1 := by
  unfold handleChallenge
  dsimp only
  split_ifs with sent size busy
  · exact consistent
  all_goals
    have notSent : session.sentChallenge = false := by simpa using sent
    obtain ⟨noTask, noLogon, noReconnect⟩ := consistent.fresh environment notSent
    have b := consistent.noLogon noLogon
    have proof := consistent.noReconnect noReconnect
  · exact Consistent.of_no_replies environment noLogon noReconnect
      (by simp [noTask]) consistent.version b proof
  · exact Consistent.of_no_replies environment noLogon noReconnect
      (by simp [AuthSession.send, noTask]) consistent.version b proof
  · refine Consistent.of_no_replies environment noLogon noReconnect ?_ rfl b proof
    simp only [AuthSession.asyncQuery, AuthSession.loadClient,
      List.countP_append, noTask, List.countP_singleton, zero_add,
      Bool.toNat_true]
    split_ifs
    all_goals omega

/-- A challenge callback is running: the challenge was sent and not answered. -/
structure Awaiting (session : AuthSession) : Prop where
  sent : session.sentChallenge = true
  noTask : session.executor.countP Task.isChallenge = 0
  noLogon : session.logonReplies = []
  noReconnect : session.reconnectReplies = []
  version : session.expversion = expversionOf session.build
  b : session.b = 0
  proof : session.reconnectProof = 0

theorem Awaiting.consistent {session next : AuthSession}
    (awaiting : Awaiting session) (same : SameChallenge { session with
      accountInfo := next.accountInfo } next) :
    Consistent environment next := by
  obtain ⟨⟨_, _, b, _⟩, _, ⟨build, expversion⟩, proof, sentChallenge, executor,
    logonReplies, reconnectReplies⟩ := same
  refine Consistent.of_no_replies environment
    (logonReplies.trans awaiting.noLogon)
    (reconnectReplies.trans awaiting.noReconnect) ?_ ?_
    (b.trans awaiting.b) (proof.trans awaiting.proof)
  · simp [executor, awaiting.noTask]
  · rw [expversion, build, awaiting.version]

theorem loadVerifier_eq
    (session : AuthSession) (row : LogonRow) (salt : RandomNumber 256) :
    ∃ s v statements, loadVerifier environment session row salt =
      { session with s := s, v := v, statements := statements } := by
  unfold loadVerifier
  split_ifs
  · exact ⟨_, _, _, rfl⟩
  · exact ⟨_, _, session.statements, rfl⟩

theorem RandomNumber.ne_zero {bits : Nat} (number : RandomNumber bits) :
    number.value ≠ 0 := by
  have odd := number.odd
  intro zero
  simp [zero] at odd

theorem sendLogonChallenge_consistent
    {session : AuthSession} (awaiting : Awaiting session) (row : LogonRow)
    (account : session.accountInfo = .loadResult row.toAccountFields)
    (allowed : logonRejection environment.remoteIpAddress session.ipCountry
      session.accountInfo = none)
    (b : RandomNumber 152) (unk3 : RandomNumber 128) (salt : RandomNumber 256) :
    Consistent environment
      (sendLogonChallenge environment session row b unk3 salt) := by
  obtain ⟨s, v, statements, loaded⟩ := loadVerifier_eq environment session row salt
  unfold sendLogonChallenge
  rw [loaded]
  constructor
  · simp [AuthSession.challengeCount, AuthSession.send, awaiting.noTask,
      awaiting.noLogon, awaiting.noReconnect, awaiting.sent]
  · exact awaiting.version
  · intro reply member
    simp only [AuthSession.send, awaiting.noLogon, List.nil_append,
      List.mem_singleton] at member
    subst reply
    constructor
    · simp [AuthSession.send, account, AccountInfo.loadResult]
    · exact ⟨rfl, rfl, rfl, rfl⟩
    · exact b.ne_zero
    · rfl
    · simpa only [account] using allowed
    · intro _
      rfl
  · simp [AuthSession.send]
  · simp [AuthSession.send, awaiting.noReconnect]
  · intro _
    exact awaiting.proof

theorem logonChallengeCallback_consistent
    {session : AuthSession} (awaiting : Awaiting session)
    (row : Option LogonRow)
    (b : RandomNumber 152) (unk3 : RandomNumber 128) (salt : RandomNumber 256) :
    Consistent environment
      (logonChallengeCallback environment session row b unk3 salt) := by
  unfold logonChallengeCallback
  cases row with
  | none =>
      exact awaiting.consistent environment
        (by constructor <;> simp [AuthSession.rejectChallenge, AuthSession.send])
  | some row =>
      dsimp only
      split
      · exact awaiting.consistent environment
          (by constructor <;> simp [AuthSession.rejectChallenge, AuthSession.send])
      · rename_i allowed
        have still :
            Awaiting { session with accountInfo := .loadResult row.toAccountFields } :=
          { awaiting with }
        exact sendLogonChallenge_consistent environment still row rfl allowed
          b unk3 salt

theorem reconnectChallengeCallback_consistent
    {session : AuthSession} (awaiting : Awaiting session)
    (row : Option ReconnectRow) (proof : RandomNumber 128) :
    Consistent environment (reconnectChallengeCallback session row proof) := by
  unfold reconnectChallengeCallback
  cases row with
  | none =>
      exact awaiting.consistent environment
        (by constructor <;> simp [AuthSession.send])
  | some row =>
      constructor
      · simp [AuthSession.challengeCount, AuthSession.send, awaiting.noTask,
          awaiting.noLogon, awaiting.noReconnect, awaiting.sent]
      · exact awaiting.version
      · simp [AuthSession.send, awaiting.noLogon]
      · intro _
        exact awaiting.b
      · intro reply member
        simp only [AuthSession.send, awaiting.noReconnect, List.nil_append,
          List.mem_singleton] at member
        subst reply
        constructor
        · rfl
        · rfl
        · intro _
          rfl
      · simp [AuthSession.send]

/-- Taking a continuation which is no challenge off the executor. -/
theorem Consistent.pop {session : AuthSession} {task : Task} {rest : List Task}
    (consistent : Consistent environment session)
    (queue : session.executor = task :: rest) (other : task.isChallenge = false) :
    Consistent environment { session with executor := rest } := by
  refine consistent.of_same environment (by constructor <;> simp) ?_ (.inr ⟨rfl, rfl, rfl⟩)
  rw [queue, List.countP_cons, other]
  rfl

/-- Taking a challenge callback off the executor. -/
theorem Consistent.pop_challenge
    {session : AuthSession} {task : Task} {rest : List Task}
    (consistent : Consistent environment session)
    (queue : session.executor = task :: rest) (challenge : task.isChallenge = true) :
    Awaiting { session with executor := rest } := by
  have single := consistent.single
  rw [AuthSession.challengeCount, queue, List.countP_cons, challenge] at single
  have sent : session.sentChallenge = true := by
    by_contra notSent
    simp [Bool.not_eq_true _ |>.mp notSent] at single
  simp only [if_true, sent, Bool.toNat_true] at single
  have noLogon : session.logonReplies = [] :=
    List.length_eq_zero_iff.mp (by omega)
  have noReconnect : session.reconnectReplies = [] :=
    List.length_eq_zero_iff.mp (by omega)
  exact
    { sent := sent
      noTask := by dsimp only; omega
      noLogon := noLogon
      noReconnect := noReconnect
      version := consistent.version
      b := consistent.noLogon noLogon
      proof := consistent.noReconnect noReconnect }

theorem runCallback_consistent
    {session next : AuthSession} {task : Task} {rest : List Task}
    {outcome : QueryOutcome}
    (consistent : Consistent environment session)
    (queue : session.executor = task :: rest)
    (ran : runCallback environment { session with executor := rest } task outcome =
      some next) :
    Consistent environment next := by
  unfold runCallback at ran
  split at ran <;> simp only [Option.some.injEq, reduceCtorEq] at ran
  all_goals subst ran
  · have popped := consistent.pop environment queue rfl
    unfold checkIpCallback
    dsimp only
    split_ifs
    all_goals
      exact popped.of_same environment
        (by constructor <;> simp [AuthSession.rejectChallenge, AuthSession.send])
        rfl (.inr ⟨rfl, rfl, rfl⟩)
  · exact logonChallengeCallback_consistent environment
      (consistent.pop_challenge environment queue rfl) _ _ _ _
  · exact reconnectChallengeCallback_consistent environment
      (consistent.pop_challenge environment queue rfl) _ _
  · exact (consistent.pop environment queue rfl).of_same environment
      (by constructor <;> simp [realmListCallback, AuthSession.send])
      rfl (.inr ⟨rfl, rfl, rfl⟩)
  · exact (consistent.pop environment queue rfl).of_same environment
      (by constructor <;> simp) rfl (.inr ⟨rfl, rfl, rfl⟩)

theorem runExecutor_consistent
    {session : AuthSession} (consistent : Consistent environment session)
    (outcome : QueryOutcome) :
    Consistent environment (runExecutor environment session outcome) := by
  unfold runExecutor
  split_ifs
  · exact consistent
  · split
    · exact consistent
    · rename_i task rest queue
      split
      · exact consistent
      · rename_i next ran
        refine (runCallback_consistent environment consistent queue ran).of_same
          environment (by constructor <;> simp) ?_ (.inr ⟨rfl, rfl, rfl⟩)
        cases task <;> simp [Task.continuation, Task.isChallenge]

/-! ## The proof handlers -/

theorem wrongPassword_same (session : AuthSession) :
    SameChallenge session (wrongPassword environment session) := by
  unfold wrongPassword
  dsimp only
  split_ifs
  all_goals constructor <;> simp [AuthSession.execute]

theorem acceptLogonProof_same
    (session : AuthSession) (packet : LogonProofPacket) (time : Nat) :
    SameChallenge session (acceptLogonProof environment session packet time) := by
  unfold acceptLogonProof
  dsimp only
  split_ifs
  all_goals
    constructor <;>
      simp [AuthSession.send, AuthSession.execute, storeSessionKey]

theorem handleLogonProof_same
    (session : AuthSession) (packet : LogonProofPacket) (time : Nat) :
    SameChallenge session (handleLogonProof environment session packet time).1 := by
  unfold handleLogonProof
  dsimp only
  split_ifs
  · constructor <;> simp
  · constructor <;> simp
  · constructor <;> simp
  · exact SameChallenge.trans (by constructor <;> simp)
      (acceptLogonProof_same environment _ packet time)
  · exact SameChallenge.trans
      (by constructor <;> simp [AuthSession.send]) (wrongPassword_same environment _)

theorem handleLogonProof_sent
    (session : AuthSession) (packet : LogonProofPacket) (time : Nat) :
    (handleLogonProof environment session packet time).1.sentProof = true := by
  unfold handleLogonProof acceptLogonProof wrongPassword
  dsimp only
  split_ifs
  all_goals
    first
      | assumption
      | simp [AuthSession.send, AuthSession.execute, storeSessionKey]

theorem handleReconnectProof_same
    (session : AuthSession) (packet : ReconnectProofPacket) :
    SameChallenge session (handleReconnectProof environment session packet).1 := by
  unfold handleReconnectProof
  dsimp only
  split_ifs
  all_goals constructor <;> simp [AuthSession.send]

theorem handleReconnectProof_sent
    (session : AuthSession) (packet : ReconnectProofPacket) :
    (handleReconnectProof environment session packet).1.sentProof = true := by
  unfold handleReconnectProof
  dsimp only
  split_ifs
  all_goals
    first
      | assumption
      | simp [AuthSession.send]

/-- Where the proof handler accepts, it writes one session key. -/
theorem acceptLogonProof_statements
    (session : AuthSession) (packet : LogonProofPacket) (time : Nat) :
    ∃ update, update.username = session.accountInfo.login ∧
      (acceptLogonProof environment session packet time).statements =
        session.statements ++ [.updLogonProof update] := by
  unfold acceptLogonProof
  dsimp only
  split_ifs
  all_goals exact ⟨_, rfl, rfl⟩

/-- The conditions under which the logon proof handler accepts. -/
def AuthSession.AcceptsLogonProof
    (session : AuthSession) (packet : LogonProofPacket) : Prop :=
  session.sentProof = false ∧ session.expversion ≠ noValidExpFlag ∧
    setBinary packet.A.toList % srpN ≠ 0 ∧
    session.proofMatches environment packet = true

theorem handleLogonProof_cases
    (session : AuthSession) (packet : LogonProofPacket) (time : Nat) :
    (session.AcceptsLogonProof environment packet ∧
      (handleLogonProof environment session packet time).1 =
        acceptLogonProof environment { session with sentProof := true }
          packet time) ∨
    (¬ session.AcceptsLogonProof environment packet ∧
      Quiet session (handleLogonProof environment session packet time).1) := by
  unfold handleLogonProof
  dsimp only
  split_ifs with sent version zero proof
  · exact .inr ⟨fun accepts => by simp [accepts.1] at sent, Quiet.refl session⟩
  · exact .inr ⟨fun accepts => accepts.2.1 version, Quiet.of_eq rfl rfl⟩
  · exact .inr ⟨fun accepts => accepts.2.2.1 zero, Quiet.of_eq rfl rfl⟩
  · exact .inl ⟨⟨by simpa using sent, version, zero, proof⟩, rfl⟩
  · refine .inr ⟨fun accepts => proof accepts.2.2.2, ?_⟩
    refine Quiet.trans ?_ (wrongPassword_quiet environment _)
    exact Quiet.of_eq (by simp only [AuthSession.send]) (by simp only [AuthSession.send])

/-- The conditions under which the reconnect proof handler accepts. -/
def AuthSession.AcceptsReconnectProof
    (session : AuthSession) (packet : ReconnectProofPacket) : Prop :=
  session.sentProof = false ∧ getNumBytes session.reconnectProof ≠ 0 ∧
    reconnectDigest environment session.accountInfo.login
      session.reconnectProof session.K packet = packet.R2

theorem handleReconnectProof_cases
    (session : AuthSession) (packet : ReconnectProofPacket) :
    session.AcceptsReconnectProof environment packet ∨
      Quiet session (handleReconnectProof environment session packet).1 := by
  unfold handleReconnectProof
  dsimp only
  split_ifs with sent missing digest
  · exact .inr (Quiet.refl session)
  · exact .inr (Quiet.of_eq rfl rfl)
  · refine .inl ⟨by simpa using sent, ?_, digest⟩
    exact fun zero => missing (.inr (.inl zero))
  · exact .inr (Quiet.of_eq rfl rfl)

/-! ## One packet -/

theorem handleRealmList_quiet (session : AuthSession) :
    Quiet session (handleRealmList session).1 := by
  unfold handleRealmList
  split_ifs
  all_goals exact Quiet.of_eq rfl rfl

theorem handleRealmList_consistent
    {session : AuthSession} (consistent : Consistent environment session) :
    Consistent environment (handleRealmList session).1 := by
  unfold handleRealmList
  split_ifs
  · exact consistent
  · exact consistent.of_same environment
      (by constructor <;> simp [AuthSession.asyncQuery])
      (by simp [AuthSession.asyncQuery, Task.isChallenge]) (.inr ⟨rfl, rfl, rfl⟩)

theorem handlePacket_consistent
    {session : AuthSession} (consistent : Consistent environment session)
    (packet : ClientPacket) :
    Consistent environment (handlePacket environment session packet).1 := by
  cases packet with
  | logonChallenge packet =>
      exact handleChallenge_consistent environment consistent packet _ _
  | logonProof packet time =>
      have same := handleLogonProof_same environment session packet time
      have sent := handleLogonProof_sent environment session packet time
      exact consistent.of_same environment same.sameTasks
        (congrArg (List.countP Task.isChallenge) same.executor) (.inl sent)
  | reconnectChallenge packet =>
      exact handleChallenge_consistent environment consistent packet _ _
  | reconnectProof packet =>
      have same := handleReconnectProof_same environment session packet
      have sent := handleReconnectProof_sent environment session packet
      exact consistent.of_same environment same.sameTasks
        (congrArg (List.countP Task.isChallenge) same.executor) (.inl sent)
  | realmList => exact handleRealmList_consistent environment consistent
  | unknown => exact consistent

theorem readHandler_cases (session : AuthSession) (packet : ClientPacket) :
    ∃ next,
      (readHandler environment session packet = next ∨
        readHandler environment session packet = next.close) ∧
      ((session.dispatches packet = true ∧
          next = (handlePacket environment session packet).1) ∨
        (session.dispatches packet = false ∧ next = session)) := by
  unfold readHandler AuthSession.dispatches
  dsimp only
  by_cases off : (session.closed || !session.reading) = true
  · rw [if_pos off]
    refine ⟨session, .inl rfl, .inr ⟨?_, rfl⟩⟩
    simp only [Bool.or_eq_true, Bool.not_eq_true'] at off
    rcases off with closed | reading
    · simp [closed]
    · simp [reading]
  · rw [if_neg off]
    simp only [Bool.or_eq_true, Bool.not_eq_true', not_or, Bool.not_eq_true,
      Bool.not_eq_false] at off
    split
    · rename_i required
      exact ⟨session, .inl rfl, .inr ⟨by simp [required], rfl⟩⟩
    · rename_i status required
      split_ifs with different large keep
      · exact ⟨session, .inr rfl,
          .inr ⟨by simp [required, Ne.symm different], rfl⟩⟩
      · exact ⟨session, .inr rfl, .inr ⟨by simp [large], rfl⟩⟩
      · refine ⟨_, .inl rfl, .inl ⟨?_, rfl⟩⟩
        simp [off, required, not_not.mp different, large]
      · refine ⟨_, .inr rfl, .inl ⟨?_, rfl⟩⟩
        simp [off, required, not_not.mp different, large]

theorem Consistent.step
    (session : AuthSession) (event : AuthEvent)
    (consistent : Consistent environment session) :
    Consistent environment (step environment session event) := by
  cases event with
  | packet packet =>
      obtain ⟨next, outcome, origin⟩ :=
        readHandler_cases environment session packet
      have after : Consistent environment next := by
        rcases origin with ⟨_, rfl⟩ | ⟨_, rfl⟩
        · exact handlePacket_consistent environment consistent packet
        · exact consistent
      rcases outcome with same | closed
      · rw [Auth.step, same]
        exact after
      · rw [Auth.step, closed]
        exact after.close
  | callback outcome => exact runExecutor_consistent environment consistent outcome

/-! ## The two ways in -/

theorem Quiet.close {session next : AuthSession}
    (quiet : Quiet session next) : Quiet session next.close :=
  quiet.trans (Quiet.of_eq rfl rfl)

/-- Only the two proof handlers grant, and only where they accept. -/
theorem grant_cases
    {session : AuthSession} {event : AuthEvent}
    (grants : Grants session (step environment session event)) :
    (∃ packet time, event = .packet (.logonProof packet time) ∧
      session.dispatches (.logonProof packet time) = true ∧
      session.AcceptsLogonProof environment packet) ∨
    (∃ packet, event = .packet (.reconnectProof packet) ∧
      session.AcceptsReconnectProof environment packet) := by
  cases event with
  | callback outcome =>
      exact absurd grants (runExecutor_quiet environment session outcome).not_grants
  | packet packet =>
      obtain ⟨next, outcome, origin⟩ :=
        readHandler_cases environment session packet
      have loud : ¬ Quiet session next := by
        intro quiet
        rcases outcome with same | closed
        · rw [step, same] at grants
          exact quiet.not_grants grants
        · rw [step, closed] at grants
          exact quiet.close.not_grants grants
      rcases origin with ⟨dispatched, rfl⟩ | ⟨_, rfl⟩
      · cases packet with
        | logonChallenge packet =>
            exact absurd (handleChallenge_quiet session packet _ _) loud
        | logonProof packet time =>
            rcases handleLogonProof_cases environment session packet time with
              ⟨accepts, _⟩ | ⟨_, quiet⟩
            · exact .inl ⟨packet, time, rfl, dispatched, accepts⟩
            · exact absurd quiet loud
        | reconnectChallenge packet =>
            exact absurd (handleChallenge_quiet session packet _ _) loud
        | reconnectProof packet =>
            rcases handleReconnectProof_cases environment session packet with
              accepts | quiet
            · exact .inr ⟨packet, rfl, accepts⟩
            · exact absurd quiet loud
        | realmList => exact absurd (handleRealmList_quiet session) loud
        | unknown => exact absurd (Quiet.refl session) loud
      · exact absurd (Quiet.refl _) loud

/-- An accepted logon proof writes the session key of the account held. -/
theorem accepted_newStatements
    {session : AuthSession} {packet : LogonProofPacket} (time : Nat)
    (dispatched : session.dispatches (.logonProof packet time) = true)
    (accepts : session.AcceptsLogonProof environment packet) :
    ∃ update, update.username = session.accountInfo.login ∧
      newStatements session
          (step environment session (.packet (.logonProof packet time))) =
        [.updLogonProof update] := by
  obtain ⟨update, username, statements⟩ :=
    acceptLogonProof_statements environment { session with sentProof := true }
      packet time
  refine ⟨update, username, ?_⟩
  have handled :
      (handleLogonProof environment session packet time).1.statements =
        session.statements ++ [.updLogonProof update] := by
    rcases handleLogonProof_cases environment session packet time with
      ⟨_, same⟩ | ⟨rejects, _⟩
    · rw [same, statements]
    · exact absurd accepts rejects
  obtain ⟨next, outcome, origin⟩ :=
    readHandler_cases environment session (.logonProof packet time)
  rcases origin with ⟨_, rfl⟩ | ⟨ignored, _⟩
  · rcases outcome with same | closed
    · rw [newStatements, step, same, handlePacket, handled, List.drop_left]
    · rw [newStatements, step, closed, AuthSession.close, handlePacket,
        handled, List.drop_left]
  · simp [dispatched] at ignored

/-- The version test of the proof handler is the one of the challenge reply. -/
theorem expversionOf_ne_iff (build : Nat) :
    expversionOf build ≠ noValidExpFlag ↔ challengeResult build = .success := by
  unfold expversionOf challengeResult isAcceptedClientBuild
  cases isPostBCAcceptedClientBuild build <;>
    cases isPreBCAcceptedClientBuild build <;>
    simp [postBcExpFlag, preBcExpFlag, noValidExpFlag]

theorem logonProved_of_reply
    {session : AuthSession} (consistent : Consistent environment session)
    {packet : LogonProofPacket} (time : Nat)
    (dispatched : session.dispatches (.logonProof packet time) = true)
    (accepts : session.AcceptsLogonProof environment packet)
    (drawn : session.b ≠ 0)
    (token : session.tokenKey ≠ "" →
      tokenCorrect environment session.tokenKey packet time = true) :
    LogonProved environment session (.packet (.logonProof packet time)) := by
  obtain ⟨reply, member⟩ : ∃ reply, reply ∈ session.logonReplies := by
    refine List.exists_mem_of_ne_nil _ ?_
    exact fun none => drawn (consistent.noLogon none)
  have holds := consistent.logon reply member
  obtain ⟨notSent, version, _, proof⟩ := accepts
  have tokenKey := holds.token notSent
  refine ⟨packet, time, rfl, reply, member, ⟨?_, holds.allowed⟩, holds.account,
    holds.values, ?_, ?_, ?_⟩
  · rw [holds.result]
    rw [consistent.version] at version
    exact (expversionOf_ne_iff session.build).mp version
  · obtain ⟨v, s, b, B⟩ := holds.values
    rw [AuthSession.proofMatches, v, s, b, B, ← holds.account] at proof
    exact proof
  · rw [← tokenKey]
    exact token
  · intro update member
    obtain ⟨written, username, statements⟩ :=
      accepted_newStatements environment time dispatched
        ⟨notSent, version, ‹_›, proof⟩
    rw [statements, List.mem_singleton, LoginStatement.updLogonProof.injEq] at member
    rw [member, username, holds.account]

theorem reconnectProved_of_accepts
    {session : AuthSession} (consistent : Consistent environment session)
    {packet : ReconnectProofPacket}
    (accepts : session.AcceptsReconnectProof environment packet) :
    ReconnectProved environment session (.packet (.reconnectProof packet)) := by
  obtain ⟨notSent, drawn, digest⟩ := accepts
  obtain ⟨reply, member⟩ : ∃ reply, reply ∈ session.reconnectReplies := by
    refine List.exists_mem_of_ne_nil _ ?_
    intro none
    rw [consistent.noReconnect none] at drawn
    exact drawn (getNumBytes_eq_zero_iff.mpr rfl)
  have holds := consistent.reconnect reply member
  refine ⟨packet, rfl, reply, member, holds.account, ?_⟩
  rw [holds.account, ← holds.proof, ← holds.key notSent]
  exact digest

theorem grantIsProved_iff
    (session : AuthSession) (event : AuthEvent)
    (consistent : Consistent environment session) :
    GrantIsProved environment session event ↔
      ProofAfterReply environment session event := by
  constructor
  · intro proved
    rcases event with ⟨_ | ⟨packet, time⟩ | _ | _ | _ | _⟩ | _
    case packet.logonProof =>
        intro dispatched notSent version unit proof
        have accepts : session.AcceptsLogonProof environment packet :=
          ⟨notSent, version, unit, proof⟩
        obtain ⟨update, _, statements⟩ :=
          accepted_newStatements environment time dispatched accepts
        have grants : Grants session
            (step environment session (.packet (.logonProof packet time))) :=
          .inr ⟨update, by simp [statements]⟩
        rcases proved grants with logon | ⟨_, other, _⟩
        · obtain ⟨_, _, same, reply, member, _, _, ⟨_, _, b, _⟩, _, token, _⟩ := logon
          obtain ⟨rfl, rfl⟩ : packet = _ ∧ time = _ := by simpa using same
          have holds := consistent.logon reply member
          refine ⟨b.symm ▸ holds.drawn, ?_⟩
          rw [holds.token notSent]
          exact token
        · simp at other
    all_goals exact trivial
  · intro condition grants
    rcases grant_cases environment grants with
      ⟨packet, time, rfl, dispatched, accepts⟩ | ⟨packet, rfl, accepts⟩
    · obtain ⟨notSent, version, unit, proof⟩ := accepts
      obtain ⟨drawn, token⟩ := condition dispatched notSent version unit proof
      exact .inl (logonProved_of_reply environment consistent time dispatched
        ⟨notSent, version, unit, proof⟩ drawn token)
    · exact .inr (reconnectProved_of_accepts environment consistent accepts)

/--
Over every order of packets and callbacks: all grants are proved exactly when
each logon proof that is let through follows a drawn `b` and a correct token.
-/
theorem everyGrantIsProved_iff (events : List AuthEvent) :
    EveryStep (step environment) (GrantIsProved environment)
        AuthSession.start events ↔
      EveryStep (step environment) (ProofAfterReply environment)
        AuthSession.start events :=
  everyStep_congr
    (fun session event consistent =>
      Consistent.step environment session event consistent)
    (grantIsProved_iff environment)
    (Consistent.start environment)

theorem session_consistent (events : List AuthEvent) :
    Throughout (step environment) (Consistent environment) AuthSession.start events :=
  throughout_of_invariant (fun session event holds _ => holds.step environment session event)
    (Consistent.start environment) (everyStep_iff_forall.mpr fun _ _ => trivial)

/-! ## A logon proof after a reconnect challenge -/

def victimChallenge : LogonChallengePacket where
  size := 36
  build := 12340
  os := "niW"
  country := "SUne"
  lengthOfI := 6
  login := "VICTIM"

def victimRow : ReconnectRow where
  id := 1
  username := "VICTIM"
  locked := true
  lockCountry := ""
  lastIp := "10.0.0.1"
  failedLogins := 0
  banned := false
  permanentlyBanned := false
  gmLevel := 3
  sessionKey := "5A"

def reconnectNonce : RandomNumber 128 where
  value := 2 ^ 127 + 1
  topBit := by decide
  bounded := by decide
  odd := by decide

/-- The session after its reconnect challenge was answered. -/
def afterReconnectChallenge : List AuthEvent :=
  [.callback (.ipInfo []), .callback .done,
    .packet (.reconnectChallenge victimChallenge),
    .callback (.reconnect (some victimRow) reconnectNonce), .callback .done]

/-- `A = 1`. -/
def forgedA : Vector UInt8 32 := (Vector.replicate 32 0).set 0 1

/-- The proof for the values nobody set: it needs no password. -/
def forgedProof : LogonProofPacket where
  A := forgedA
  M1 :=
    let M := expectedProof environment "VICTIM" 0 0 0 0
      { A := forgedA, M1 := Vector.replicate 20 0, securityFlags := 0, token := [] }
    ⟨((asByteArray 20 M).take 20).toArray, by
      simpa using asByteArray_length_ge 20 M⟩
  securityFlags := 0
  token := []

def impersonation : List AuthEvent :=
  afterReconnectChallenge ++ [.packet (.logonProof (forgedProof environment) 0)]

/-- Whatever the hash function is, the forged proof authenticates. -/
theorem impersonation_grants :
    ¬ EveryStep (step environment) (GrantIsProved environment)
      AuthSession.start (impersonation environment) := by
  intro proved
  have last := ((everyStep_append _ _ _ _).mp proved).2.1
  have everyStep :
      EveryStep (step environment) (fun _ _ => True)
        AuthSession.start afterReconnectChallenge := by
    simp [afterReconnectChallenge]
  have consistent := run_invariant
    (fun session event holds _ => Consistent.step environment session event holds)
    (Consistent.start environment) everyStep
  have version : expversionOf 12340 ≠ noValidExpFlag := by decide
  have unit : setBinary forgedA.toList % srpN ≠ 0 := by decide
  have proof :
      (asByteArray 20 (expectedProof environment "VICTIM" 0 0 0 0
        (forgedProof environment))).take 20 =
        (forgedProof environment).M1.toList := rfl
  obtain ⟨drawn, _⟩ := (grantIsProved_iff environment _ _ consistent).mp last
    rfl rfl version unit (beq_iff_eq.mpr proof)
  exact drawn rfl

/-- A configuration with a hash function which can be computed by hand. -/
def zeroHashEnvironment : AuthEnvironment where
  sha1 := fun _ => Vector.replicate 20 0
  generateToken := fun _ _ => 0
  remoteIpAddress := "10.0.0.2"
  maxWrongPassCount := 0
  wrongPassBanTime := 600
  wrongPassBanType := false

theorem impersonation_not_proved :
    ¬ EveryStep (step zeroHashEnvironment) (GrantIsProved zeroHashEnvironment)
      AuthSession.start (impersonation zeroHashEnvironment) :=
  impersonation_grants zeroHashEnvironment

end RealmServer.Auth
