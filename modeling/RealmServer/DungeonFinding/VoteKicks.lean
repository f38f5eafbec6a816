import RealmServer.Lib.Counting
import RealmServer.Lib.Transition
import RealmServer.DungeonFinding.Queue

/-!
# Votes to kick somebody

`InitBoot` opens a vote with an entry for every member of the group, `UpdateBoot`
counts the entries again with every answer.  The answers of a group are looked
up with `operator[]`: whoever joins during the vote and answers gets an entry
with the default answer, which denies.

A `Poll` is the same vote as the members see it.  A group which a kick leaves
too small disbands in a step of its own.
-/

namespace RealmServer.DungeonFinding

open Table Transition

/-- `LFG_GROUP_KICK_VOTES_NEEDED` -/
def kickVotesNeeded : Nat := 3

/-- `LFG_TIME_BOOT` -/
def timeBoot : Nat := 120

/-- `LfgAnswer(accept)` -/
def LfgAnswer.ofBool (accept : Bool) : LfgAnswer := if accept then .agree else .deny

/-- An entry of `LfgAnswerContainer`. -/
structure BootVote where
  guid : ObjectGuid
  answer : LfgAnswer
deriving DecidableEq, Repr

structure LfgPlayerBoot where
  cancelTime : Nat
  inProgress : Bool
  votes : List BootVote
  victim : ObjectGuid
  reason : String
deriving DecidableEq, Repr

structure LfgGroupData where
  players : List ObjectGuid
  voteKickActive : Bool
  kicksLeft : UInt8
deriving DecidableEq, Repr

/-- The constructor, with `LFG_GROUP_MAX_KICKS`. -/
def LfgGroupData.new : LfgGroupData := ⟨[], false, 3⟩

/-- The part of `LFGMgr` with the votes, and what it asks of the groups. -/
structure VoteKicks where
  /-- `GetGroup` of each player. -/
  playersStore : ObjectGuid → Option ObjectGuid
  groupsStore : ObjectGuid → LfgGroupData
  bootsStore : ObjectGuid → Option LfgPlayerBoot
  /-- The groups which `GetGroupByGUID` finds. -/
  groups : ObjectGuid → Bool
  /-- The calls of `RemoveFromGroup` with `GROUP_REMOVEMETHOD_KICK_LFG`. -/
  kicked : List (ObjectGuid × ObjectGuid)

namespace LfgPlayerBoot

/-- `votes[guid] = answer` -/
def setVote (boot : LfgPlayerBoot) (guid : ObjectGuid) (answer : LfgAnswer) : LfgPlayerBoot :=
  { boot with votes := assign BootVote.guid boot.votes ⟨guid, answer⟩ }

/-- `votes[guid]`, which adds an entry with `LfgAnswer()` where there is none. -/
def vote (boot : LfgPlayerBoot) (guid : ObjectGuid) : LfgAnswer × LfgPlayerBoot :=
  match find BootVote.guid boot.votes guid with
  | some vote => (vote.answer, boot)
  | none => (.deny, boot.setVote guid .deny)

/-- The first loop of `UpdateBoot`: `votesNum` and `agreeNum`. -/
def countVotes (boot : LfgPlayerBoot) : UInt8 × UInt8 :=
  boot.votes.foldl (fun (counts : UInt8 × UInt8) vote =>
    if vote.answer ≠ .pending then
      (counts.1 + 1, if vote.answer = .agree then counts.2 + 1 else counts.2)
    else counts) (0, 0)

end LfgPlayerBoot

namespace VoteKicks

variable (mgr : VoteKicks)

/-! ## Groups -/

def setVoteKick (gguid : ObjectGuid) (active : Bool) : VoteKicks :=
  { mgr with
    groupsStore := Function.update mgr.groupsStore gguid
      { mgr.groupsStore gguid with voteKickActive := active } }

def decreaseKicksLeft (gguid : ObjectGuid) : VoteKicks :=
  let data := mgr.groupsStore gguid
  let kicksLeft := if data.kicksLeft ≠ 0 then data.kicksLeft - 1 else data.kicksLeft
  { mgr with groupsStore := Function.update mgr.groupsStore gguid { data with kicksLeft } }

/-- `OnAddMember`: `SetGroup` and `AddPlayerToGroup`. -/
def onAddMember (gguid guid : ObjectGuid) : VoteKicks :=
  let data := mgr.groupsStore gguid
  let players := if guid ∈ data.players then data.players else data.players ++ [guid]
  { mgr with
    playersStore := Function.update mgr.playersStore guid (some gguid)
    groupsStore := Function.update mgr.groupsStore gguid { data with players }
    groups := Function.update mgr.groups gguid true }

/-- `OnRemoveMember`: `SetGroup` and `RemovePlayerFromGroup`. -/
def onRemoveMember (gguid guid : ObjectGuid) : VoteKicks :=
  let data := mgr.groupsStore gguid
  { mgr with
    playersStore := Function.update mgr.playersStore guid none
    groupsStore := Function.update mgr.groupsStore gguid
      { data with players := data.players.filter (· ≠ guid) } }

/-- `OnDisband`, with `RemoveGroupData`. -/
def onDisband (gguid : ObjectGuid) : VoteKicks :=
  { mgr with
    playersStore := fun guid =>
      if guid ∈ (mgr.groupsStore gguid).players then none else mgr.playersStore guid
    groupsStore := Function.update mgr.groupsStore gguid .new
    groups := Function.update mgr.groups gguid false }

/-! ## Votes -/

/-- `InitBoot`, at a time. -/
def initBoot (gguid kicker victim : ObjectGuid) (reason : String) (time : Nat) : VoteKicks :=
  let mgr := mgr.setVoteKick gguid true
  let boot := (mgr.bootsStore gguid).getD ⟨0, false, [], victim, ""⟩
  let boot := { boot with inProgress := true, cancelTime := time + timeBoot, reason, victim }
  let players := (mgr.groupsStore gguid).players
  let boot := players.foldl (fun boot guid => boot.setVote guid .pending) boot
  let boot := (boot.setVote victim .deny).setVote kicker .agree
  { mgr with bootsStore := Function.update mgr.bootsStore gguid (some boot) }

/-- "Vote passed - Kick player" -/
def kick (gguid victim : ObjectGuid) : VoteKicks :=
  let mgr :=
    if mgr.groups gguid then
      { mgr.onRemoveMember gguid victim with kicked := mgr.kicked ++ [(gguid, victim)] }
    else mgr
  mgr.decreaseKicksLeft gguid

/-- The rest of `UpdateBoot` with an answer: all are counted, and enough of them end the vote. -/
def settleBoot (gguid : ObjectGuid) (boot : LfgPlayerBoot) : VoteKicks :=
  let counts := boot.countVotes
  let votesNum := counts.1.toNat
  let agreeNum := counts.2.toNat
  if (agreeNum : Int) < kickVotesNeeded ∧ (votesNum : Int) - agreeNum < kickVotesNeeded then
    { mgr with bootsStore := Function.update mgr.bootsStore gguid (some boot) }
  else
    let ended := mgr.setVoteKick gguid false
    let ended := if agreeNum = kickVotesNeeded then ended.kick gguid boot.victim else ended
    { ended with bootsStore := Function.update ended.bootsStore gguid none }

/-- `UpdateBoot`, which `HandleLfgSetBootVoteOpcode` calls with the player of the session. -/
def updateBoot (guid : ObjectGuid) (accept : Bool) : VoteKicks :=
  match mgr.playersStore guid with
  | none => mgr
  | some gguid =>
      match mgr.bootsStore gguid with
      | none => mgr
      | some boot =>
          let looked := boot.vote guid
          if looked.1 ≠ .pending then
            { mgr with bootsStore := Function.update mgr.bootsStore gguid (some looked.2) }
          else mgr.settleBoot gguid (looked.2.setVote guid (.ofBool accept))

/-- "Remove obsolete kicks", in `Update`. -/
def removeObsoleteKicks (currTime : Nat) : VoteKicks :=
  let obsolete (gguid : ObjectGuid) : Bool :=
    match mgr.bootsStore gguid with
    | some boot => boot.cancelTime < currTime
    | none => false
  { mgr with
    groupsStore := fun gguid =>
      if obsolete gguid then { mgr.groupsStore gguid with voteKickActive := false }
      else mgr.groupsStore gguid
    bootsStore := fun gguid => if obsolete gguid then none else mgr.bootsStore gguid }

end VoteKicks

/-- What happens while a vote runs. -/
inductive BootEvent where
  | updateBoot (guid : ObjectGuid) (accept : Bool)
  | addMember (gguid guid : ObjectGuid)
  | removeMember (gguid guid : ObjectGuid)
  | disband (gguid : ObjectGuid)
  | removeObsoleteKicks (currTime : Nat)
deriving DecidableEq, Repr

def VoteKicks.step (mgr : VoteKicks) : BootEvent → VoteKicks
  | .updateBoot guid accept => mgr.updateBoot guid accept
  | .addMember gguid guid => mgr.onAddMember gguid guid
  | .removeMember gguid guid => mgr.onRemoveMember gguid guid
  | .disband gguid => mgr.onDisband gguid
  | .removeObsoleteKicks currTime => mgr.removeObsoleteKicks currTime

/-! ## The vote as it is meant -/

/-- A vote with those who may answer, and those who have. -/
structure Poll where
  victim : ObjectGuid
  cancelTime : Nat
  voters : List ObjectGuid
  agreed : List ObjectGuid
  denied : List ObjectGuid
  cancelled : Bool
deriving DecidableEq, Repr

namespace Poll

/-- The members vote; the initiator agrees and the victim denies. -/
def start (players : List ObjectGuid) (kicker victim : ObjectGuid) (time : Nat) : Poll where
  victim
  cancelTime := time + timeBoot
  voters := players ++ [victim, kicker]
  agreed := [kicker]
  denied := [victim]
  cancelled := false

def passed (poll : Poll) : Bool := kickVotesNeeded ≤ poll.agreed.length

def failed (poll : Poll) : Bool := kickVotesNeeded ≤ poll.denied.length

def ended (poll : Poll) : Bool := poll.passed || poll.failed || poll.cancelled

/-- The first answer of a voter counts, as long as the vote runs. -/
def cast (poll : Poll) (guid : ObjectGuid) (accept : Bool) : Poll :=
  if poll.ended || guid ∉ poll.voters || guid ∈ poll.agreed || guid ∈ poll.denied then poll
  else if accept then { poll with agreed := guid :: poll.agreed }
  else { poll with denied := guid :: poll.denied }

def cancel (poll : Poll) (currTime : Nat) : Poll :=
  if !poll.ended && poll.cancelTime < currTime then { poll with cancelled := true } else poll

/-- The answers of a group's members go to its vote. -/
def follow (gguid : ObjectGuid) (mgr : VoteKicks) (poll : Poll) : BootEvent → Poll
  | .updateBoot guid accept =>
      if mgr.playersStore guid = some gguid then poll.cast guid accept else poll
  | .removeObsoleteKicks currTime => poll.cancel currTime
  | _ => poll

/-- Everybody is counted once, and only voters are; at most one of the two counts is reached. -/
structure Fair (kicker : ObjectGuid) (poll : Poll) : Prop where
  once : (poll.agreed ++ poll.denied).Nodup
  voters : ∀ guid ∈ poll.agreed ++ poll.denied, guid ∈ poll.voters
  kicker : kicker ∈ poll.agreed
  victim : poll.victim ∈ poll.denied
  agreedEnough : poll.agreed.length ≤ kickVotesNeeded
  deniedEnough : poll.denied.length ≤ kickVotesNeeded
  notBoth : ¬(poll.passed = true ∧ poll.failed = true)

end Poll

/-! ## The vote of a group beside its poll -/

/-- Those whom the votes of a group have kicked. -/
def VoteKicks.kickedFrom (mgr : VoteKicks) (gguid : ObjectGuid) : List ObjectGuid :=
  (mgr.kicked.filter fun kick => kick.1 = gguid).map Prod.snd

/-- The entries of a vote are the answers of its poll. -/
structure Records (votes : List BootVote) (poll : Poll) : Prop where
  keys : (votes.map BootVote.guid).Nodup
  answer : ∀ guid, (find BootVote.guid votes guid).map BootVote.answer =
    if guid ∈ poll.agreed then some .agree
    else if guid ∈ poll.denied then some .deny
    else if guid ∈ poll.voters then some .pending
    else none

/-- The vote of a group runs as long as its poll, and kicks the victim if this passes. -/
structure Tallies (gguid : ObjectGuid) (earlier : List ObjectGuid) (mgr : VoteKicks)
    (poll : Poll) : Prop where
  running : poll.ended = false → ∃ boot, mgr.bootsStore gguid = some boot ∧
    boot.inProgress = true ∧ boot.victim = poll.victim ∧ boot.cancelTime = poll.cancelTime ∧
      Records boot.votes poll
  finished : poll.ended = true → mgr.bootsStore gguid = none
  kicks : mgr.kickedFrom gguid = earlier ++ if poll.passed then [poll.victim] else []

/-- A player with a group is one of its members, and the group exists. -/
def VoteKicks.Consistent (mgr : VoteKicks) : Prop :=
  ∀ guid gguid, mgr.playersStore guid = some gguid →
    guid ∈ (mgr.groupsStore gguid).players ∧ mgr.groups gguid = true

/-- The vote and its poll, beside each other. -/
def stepBoth (gguid : ObjectGuid) (state : VoteKicks × Poll) (event : BootEvent) :
    VoteKicks × Poll :=
  (state.1.step event, state.2.follow gguid state.1 event)

/-- While the vote runs, nobody answers who has come to the group since it began. -/
def NoNewcomerAnswers (gguid : ObjectGuid) (state : VoteKicks × Poll) : BootEvent → Prop
  | .updateBoot guid _ =>
      state.1.playersStore guid = some gguid → state.2.ended = false → guid ∈ state.2.voters
  | _ => True

/-! ## Entries of a vote -/

/-- The answer in the entry of a player. -/
def answerOf (votes : List BootVote) (guid : ObjectGuid) : Option LfgAnswer :=
  (find BootVote.guid votes guid).map BootVote.answer

theorem answerOf_setVote (boot : LfgPlayerBoot) (guid other : ObjectGuid) (answer : LfgAnswer) :
    answerOf (boot.setVote guid answer).votes other =
      if other = guid then some answer else answerOf boot.votes other := by
  rw [answerOf, LfgPlayerBoot.setVote]
  split_ifs with same
  · rw [same]
    exact congrArg (Option.map BootVote.answer) (find_assign_self boot.votes ⟨guid, answer⟩)
  · exact congrArg (Option.map BootVote.answer) (find_assign_of_ne same)

theorem keys_setVote {boot : LfgPlayerBoot} (keys : (boot.votes.map BootVote.guid).Nodup)
    (guid : ObjectGuid) (answer : LfgAnswer) :
    ((boot.setVote guid answer).votes.map BootVote.guid).Nodup :=
  assign_keys keys ⟨guid, answer⟩

/-- An entry is looked up, and there is one. -/
theorem vote_of_answerOf {boot : LfgPlayerBoot} {guid : ObjectGuid} {answer : LfgAnswer}
    (found : answerOf boot.votes guid = some answer) : boot.vote guid = (answer, boot) := by
  obtain ⟨vote, entry, same⟩ := Option.map_eq_some_iff.mp found
  rw [LfgPlayerBoot.vote, entry]
  exact congrArg (·, boot) same

/-- Entries of a kind are as many as the players who have one. -/
theorem countP_answers {votes : List BootVote} (keys : (votes.map BootVote.guid).Nodup)
    {kind : LfgAnswer → Bool} {guids : List ObjectGuid} (once : guids.Nodup)
    (same : ∀ guid, (∃ answer, answerOf votes guid = some answer ∧ kind answer = true) ↔
      guid ∈ guids) :
    votes.countP (fun vote => kind vote.answer) = guids.length := by
  have perm : ((votes.filter fun vote => kind vote.answer).map BootVote.guid).Perm guids := by
    rw [List.perm_ext_iff_of_nodup (filter_keys keys _) once]
    intro guid
    rw [← same, List.mem_map]
    constructor
    · rintro ⟨vote, member, rfl⟩
      obtain ⟨entry, chosen⟩ := List.mem_filter.mp member
      refine ⟨vote.answer, ?_, chosen⟩
      rw [answerOf, find_of_mem keys entry]
      rfl
    · rintro ⟨answer, found, chosen⟩
      obtain ⟨vote, entry, rfl⟩ := Option.map_eq_some_iff.mp found
      exact ⟨vote, List.mem_filter.mpr ⟨mem_of_find entry, chosen⟩, key_of_find entry⟩
  rw [List.countP_eq_length_filter, ← perm.length_eq, List.length_map]

/-- The counters of the loop have eight bits. -/
theorem toNat_countVotes (boot : LfgPlayerBoot) :
    boot.countVotes.1.toNat =
        (boot.votes.countP fun vote => decide (vote.answer ≠ .pending)) % 2 ^ 8 ∧
      boot.countVotes.2.toNat =
        (boot.votes.countP fun vote => decide (vote.answer = .agree)) % 2 ^ 8 := by
  rw [LfgPlayerBoot.countVotes]
  suffices fold : ∀ (votes : List BootVote) (counts : UInt8 × UInt8),
      (votes.foldl (fun (counts : UInt8 × UInt8) vote =>
        if vote.answer ≠ .pending then
          (counts.1 + 1, if vote.answer = .agree then counts.2 + 1 else counts.2)
        else counts) counts).1.toNat =
          (counts.1.toNat + votes.countP fun vote => decide (vote.answer ≠ .pending)) % 2 ^ 8 ∧
      (votes.foldl (fun (counts : UInt8 × UInt8) vote =>
        if vote.answer ≠ .pending then
          (counts.1 + 1, if vote.answer = .agree then counts.2 + 1 else counts.2)
        else counts) counts).2.toNat =
          (counts.2.toNat + votes.countP fun vote => decide (vote.answer = .agree)) % 2 ^ 8 by
    have counted := fold boot.votes (0, 0)
    simpa using counted
  intro votes
  induction votes with
  | nil =>
      intro counts
      have first := counts.1.toNat_lt
      have second := counts.2.toNat_lt
      simp [Nat.mod_eq_of_lt first, Nat.mod_eq_of_lt second]
  | cons vote rest induction =>
      intro counts
      rw [List.foldl_cons, List.countP_cons, List.countP_cons]
      obtain ⟨first, second⟩ := induction (if vote.answer ≠ .pending then
        (counts.1 + 1, if vote.answer = .agree then counts.2 + 1 else counts.2) else counts)
      rw [first, second]
      cases vote.answer with
      | pending => simp
      | deny =>
          simp [UInt8.toNat_add]
          omega
      | agree =>
          simp [UInt8.toNat_add]
          omega

namespace Records

variable {votes : List BootVote} {boot : LfgPlayerBoot} {poll : Poll} {guid : ObjectGuid}

theorem answerOf_of_agreed (records : Records votes poll) (agreed : guid ∈ poll.agreed) :
    answerOf votes guid = some .agree := by
  rw [answerOf, records.answer, if_pos agreed]

theorem answerOf_of_denied (records : Records votes poll) (not : guid ∉ poll.agreed)
    (denied : guid ∈ poll.denied) : answerOf votes guid = some .deny := by
  rw [answerOf, records.answer, if_neg not, if_pos denied]

theorem answerOf_of_open (records : Records votes poll) (notAgreed : guid ∉ poll.agreed)
    (notDenied : guid ∉ poll.denied) (voter : guid ∈ poll.voters) :
    answerOf votes guid = some .pending := by
  rw [answerOf, records.answer, if_neg notAgreed, if_neg notDenied, if_pos voter]

theorem counts (records : Records boot.votes poll) {kicker : ObjectGuid}
    (fair : poll.Fair kicker) :
    boot.countVotes.1.toNat = poll.agreed.length + poll.denied.length ∧
      boot.countVotes.2.toNat = poll.agreed.length := by
  have agreedFew := fair.agreedEnough
  have deniedFew := fair.deniedEnough
  unfold kickVotesNeeded at agreedFew deniedFew
  have answered (guid : ObjectGuid) : (∃ answer, answerOf boot.votes guid = some answer ∧
      decide (answer ≠ .pending) = true) ↔ guid ∈ poll.agreed ++ poll.denied := by
    rw [answerOf, records.answer, List.mem_append]
    split_ifs with agreed denied voter
    · simp [agreed]
    · simp [denied]
    · simp [agreed, denied]
    · simp [agreed, denied]
  have agreeing (guid : ObjectGuid) : (∃ answer, answerOf boot.votes guid = some answer ∧
      decide (answer = .agree) = true) ↔ guid ∈ poll.agreed := by
    rw [answerOf, records.answer]
    split_ifs with agreed denied voter
    · simp [agreed]
    · simp [agreed]
    · simp [agreed]
    · simp [agreed]
  obtain ⟨votesNum, agreeNum⟩ := toNat_countVotes boot
  rw [countP_answers records.keys fair.once answered, List.length_append] at votesNum
  rw [countP_answers records.keys (List.nodup_append.mp fair.once).1 agreeing] at agreeNum
  rw [votesNum, agreeNum]
  exact ⟨Nat.mod_eq_of_lt (by omega), Nat.mod_eq_of_lt (by omega)⟩

end Records

/-! ## Polls are fair -/

namespace Poll

variable {poll : Poll} {kicker guid : ObjectGuid}

theorem ended_eq_false_iff :
    poll.ended = false ↔ poll.agreed.length < kickVotesNeeded ∧
      poll.denied.length < kickVotesNeeded ∧ poll.cancelled = false := by
  simp [ended, passed, failed, and_assoc]

theorem not_passed_of_running (running : poll.ended = false) : poll.passed = false := by
  simp [ended] at running
  exact running.1.1

/-- Nobody's answer changes a poll but the first one of a voter while it runs. -/
theorem cast_eq (running : poll.ended = false) (voter : guid ∈ poll.voters)
    (notAgreed : guid ∉ poll.agreed) (notDenied : guid ∉ poll.denied) (accept : Bool) :
    poll.cast guid accept =
      if accept then { poll with agreed := guid :: poll.agreed }
      else { poll with denied := guid :: poll.denied } := by
  simp [cast, running, voter, notAgreed, notDenied]

theorem cast_of_answered (answered : guid ∈ poll.agreed ∨ guid ∈ poll.denied) (accept : Bool) :
    poll.cast guid accept = poll := by
  rcases answered with agreed | denied
  · simp [cast, agreed]
  · simp [cast, denied]

theorem cast_of_ended (ended : poll.ended = true) (accept : Bool) :
    poll.cast guid accept = poll := by
  simp [cast, ended]

theorem Fair.start {players : List ObjectGuid} {victim : ObjectGuid} {time : Nat}
    (differ : kicker ≠ victim) : (Poll.start players kicker victim time).Fair kicker where
  once := by simpa [Poll.start] using differ
  voters := by simp [Poll.start]
  kicker := List.mem_singleton_self kicker
  victim := List.mem_singleton_self victim
  agreedEnough := by simp [Poll.start, kickVotesNeeded]
  deniedEnough := by simp [Poll.start, kickVotesNeeded]
  notBoth := by simp [Poll.start, passed, kickVotesNeeded]

theorem Fair.cast (fair : poll.Fair kicker) (guid : ObjectGuid) (accept : Bool) :
    (poll.cast guid accept).Fair kicker := by
  by_cases skipped : (poll.ended || guid ∉ poll.voters || guid ∈ poll.agreed ||
      guid ∈ poll.denied) = true
  · rw [Poll.cast, if_pos skipped]
    exact fair
  · simp only [Bool.or_eq_true, decide_eq_true_eq, not_or, Bool.not_eq_true, not_not] at skipped
    obtain ⟨⟨⟨running, voter⟩, notAgreed⟩, notDenied⟩ := skipped
    obtain ⟨agreedFew, deniedFew, _⟩ := ended_eq_false_iff.mp running
    rw [cast_eq running voter notAgreed notDenied]
    have once := fair.once
    have new : guid ∉ poll.agreed ++ poll.denied := by simp [notAgreed, notDenied]
    cases accept with
    | true =>
        exact {
          once := List.nodup_cons.mpr ⟨new, once⟩
          voters := List.forall_mem_cons.mpr ⟨voter, fair.voters⟩
          kicker := List.mem_cons_of_mem _ fair.kicker
          victim := fair.victim
          agreedEnough := agreedFew
          deniedEnough := fair.deniedEnough
          notBoth := fun both => absurd (of_decide_eq_true both.2) (Nat.not_le.mpr deniedFew) }
    | false =>
        have moved : (poll.agreed ++ guid :: poll.denied).Perm
            (guid :: (poll.agreed ++ poll.denied)) := List.perm_middle
        exact {
          once := moved.nodup_iff.mpr (List.nodup_cons.mpr ⟨new, once⟩)
          voters := fun other member =>
            List.forall_mem_cons.mpr ⟨voter, fair.voters⟩ other (moved.mem_iff.mp member)
          kicker := fair.kicker
          victim := List.mem_cons_of_mem _ fair.victim
          agreedEnough := fair.agreedEnough
          deniedEnough := deniedFew
          notBoth := fun both => absurd (of_decide_eq_true both.1) (Nat.not_le.mpr agreedFew) }

theorem Fair.cancel (fair : poll.Fair kicker) (currTime : Nat) :
    (poll.cancel currTime).Fair kicker := by
  rw [Poll.cancel]
  split_ifs with late
  · exact { fair with }
  · exact fair

theorem Fair.follow (fair : poll.Fair kicker) (gguid : ObjectGuid) (mgr : VoteKicks)
    (event : BootEvent) : (poll.follow gguid mgr event).Fair kicker := by
  cases event with
  | updateBoot guid accept =>
      rw [Poll.follow]
      split_ifs with member
      · exact fair.cast guid accept
      · exact fair
  | addMember other guid => exact fair
  | removeMember other guid => exact fair
  | disband other => exact fair
  | removeObsoleteKicks currTime => exact fair.cancel currTime

end Poll

/-! ## The beginning of a vote -/

theorem answerOf_foldl_pending (players : List ObjectGuid) (boot : LfgPlayerBoot)
    (guid : ObjectGuid) :
    answerOf (players.foldl (fun boot guid => boot.setVote guid .pending) boot).votes guid =
      if guid ∈ players then some .pending else answerOf boot.votes guid := by
  induction players generalizing boot with
  | nil => rfl
  | cons first rest induction =>
      rw [List.foldl_cons, induction, answerOf_setVote]
      by_cases later : guid ∈ rest
      · rw [if_pos later, if_pos (List.mem_cons_of_mem _ later)]
      · by_cases same : guid = first
        · simp [same]
        · simp [later, same]

/-- Setting votes changes nothing but the entries, of which each stays the only one. -/
theorem foldl_setVote_fields (players : List ObjectGuid) {boot : LfgPlayerBoot}
    (keys : (boot.votes.map BootVote.guid).Nodup) :
    let after := players.foldl (fun boot guid => boot.setVote guid .pending) boot
    (after.votes.map BootVote.guid).Nodup ∧ after.inProgress = boot.inProgress ∧
      after.victim = boot.victim ∧ after.cancelTime = boot.cancelTime := by
  induction players generalizing boot with
  | nil => exact ⟨keys, rfl, rfl, rfl⟩
  | cons first rest induction => exact induction (keys_setVote keys first .pending)

namespace VoteKicks

variable {mgr : VoteKicks} {gguid kicker victim : ObjectGuid}

theorem tallies_initBoot (idle : mgr.bootsStore gguid = none) (differ : kicker ≠ victim)
    (reason : String) (time : Nat) :
    Tallies gguid (mgr.kickedFrom gguid) (mgr.initBoot gguid kicker victim reason time)
      (Poll.start (mgr.groupsStore gguid).players kicker victim time) := by
  have same : ((mgr.setVoteKick gguid true).groupsStore gguid).players =
      (mgr.groupsStore gguid).players := by
    rw [setVoteKick]
    dsimp only
    rw [Function.update_self]
  let opened : LfgPlayerBoot := ⟨time + timeBoot, true, [], victim, reason⟩
  let asked := (mgr.groupsStore gguid).players.foldl
    (fun boot guid => boot.setVote guid .pending) opened
  obtain ⟨keys, inProgress, askedVictim, cancelTime⟩ :=
    foldl_setVote_fields (mgr.groupsStore gguid).players (show (opened.votes.map _).Nodup from
      List.nodup_nil)
  have stored : (mgr.initBoot gguid kicker victim reason time).bootsStore gguid =
      some ((asked.setVote victim .deny).setVote kicker .agree) := by
    rw [initBoot]
    dsimp only
    rw [Function.update_self, same]
    have none : (mgr.setVoteKick gguid true).bootsStore gguid = .none := idle
    rw [none]
    rfl
  refine ⟨fun _ => ⟨_, stored, inProgress, askedVictim, cancelTime, ?_⟩, ?_, ?_⟩
  · refine ⟨keys_setVote (keys_setVote keys _ _) _ _, fun guid => ?_⟩
    show answerOf _ guid = _
    rw [answerOf_setVote, answerOf_setVote, answerOf_foldl_pending]
    have nothing : answerOf opened.votes guid = none := rfl
    by_cases isKicker : guid = kicker
    · simp [Poll.start, isKicker]
    · by_cases isVictim : guid = victim
      · simp [Poll.start, isVictim, differ.symm]
      · simp [Poll.start, isKicker, isVictim, nothing]
  · intro ended
    have running :
        (Poll.start (mgr.groupsStore gguid).players kicker victim time).ended = false := by
      simp [Poll.start, Poll.ended, Poll.passed, Poll.failed, kickVotesNeeded]
    rw [running] at ended
    cases ended
  · have open' :
        (Poll.start (mgr.groupsStore gguid).players kicker victim time).passed = false := by
      simp [Poll.start, Poll.passed, kickVotesNeeded]
    rw [open']
    exact (List.append_nil _).symm

/-! ## Members and their groups -/

variable {guid other : ObjectGuid}

/-- Nothing but the players of a group and the groups of a player matters. -/
theorem Consistent.congr {after : VoteKicks} (consistent : mgr.Consistent)
    (stores : after.playersStore = mgr.playersStore)
    (players : ∀ gguid, (after.groupsStore gguid).players = (mgr.groupsStore gguid).players)
    (groups : after.groups = mgr.groups) : after.Consistent := by
  intro guid gguid member
  rw [stores] at member
  rw [players, groups]
  exact consistent guid gguid member

theorem players_update (gguid other : ObjectGuid) (data : LfgGroupData)
    (same : data.players = (mgr.groupsStore gguid).players) :
    (Function.update mgr.groupsStore gguid data other).players =
      (mgr.groupsStore other).players := by
  by_cases here : other = gguid
  · rw [here, Function.update_self, same]
  · rw [Function.update_of_ne here]

theorem Consistent.setVoteKick (consistent : mgr.Consistent) (gguid : ObjectGuid) (active : Bool) :
    (mgr.setVoteKick gguid active).Consistent :=
  consistent.congr rfl (fun other => players_update gguid other _ rfl) rfl

theorem Consistent.decreaseKicksLeft (consistent : mgr.Consistent) (gguid : ObjectGuid) :
    (mgr.decreaseKicksLeft gguid).Consistent :=
  consistent.congr rfl (fun other => players_update gguid other _ rfl) rfl

theorem Consistent.onAddMember (consistent : mgr.Consistent) (gguid guid : ObjectGuid) :
    (mgr.onAddMember gguid guid).Consistent := by
  intro player group member
  rw [VoteKicks.onAddMember] at member ⊢
  dsimp only at member ⊢
  by_cases here : group = gguid
  · rw [here, Function.update_self, Function.update_self]
    refine ⟨?_, rfl⟩
    dsimp only
    by_cases joins : player = guid
    · split_ifs with known
      · rw [joins]
        exact known
      · rw [joins]
        simp
    · rw [Function.update_of_ne joins, here] at member
      have stays := (consistent player gguid member).1
      split_ifs with known
      · exact stays
      · exact List.mem_append_left _ stays
  · have stays : player ≠ guid := by
      rintro rfl
      rw [Function.update_self] at member
      exact here (Option.some.inj member).symm
    rw [Function.update_of_ne stays] at member
    rw [Function.update_of_ne here, Function.update_of_ne here]
    exact consistent player group member

theorem Consistent.onRemoveMember (consistent : mgr.Consistent) (gguid guid : ObjectGuid) :
    (mgr.onRemoveMember gguid guid).Consistent := by
  intro player group member
  rw [VoteKicks.onRemoveMember] at member ⊢
  dsimp only at member ⊢
  have stays : player ≠ guid := by
    rintro rfl
    rw [Function.update_self] at member
    cases member
  rw [Function.update_of_ne stays] at member
  obtain ⟨known, isGroup⟩ := consistent player group member
  refine ⟨?_, isGroup⟩
  by_cases here : group = gguid
  · rw [here] at known ⊢
    rw [Function.update_self]
    simpa [stays] using known
  · rw [Function.update_of_ne here]
    exact known

theorem Consistent.onDisband (consistent : mgr.Consistent) (gguid : ObjectGuid) :
    (mgr.onDisband gguid).Consistent := by
  intro player group member
  rw [VoteKicks.onDisband] at member ⊢
  dsimp only at member ⊢
  split_ifs at member with gone
  obtain ⟨known, isGroup⟩ := consistent player group member
  have elsewhere : group ≠ gguid := by
    rintro rfl
    exact gone known
  rw [Function.update_of_ne elsewhere, Function.update_of_ne elsewhere]
  exact ⟨known, isGroup⟩

theorem Consistent.kick (consistent : mgr.Consistent) (gguid victim : ObjectGuid) :
    (mgr.kick gguid victim).Consistent := by
  rw [VoteKicks.kick]
  apply Consistent.decreaseKicksLeft
  split_ifs with isGroup
  · exact (consistent.onRemoveMember gguid victim).congr rfl (fun _ => rfl) rfl
  · exact consistent

theorem Consistent.settleBoot (consistent : mgr.Consistent) (gguid : ObjectGuid)
    (boot : LfgPlayerBoot) : (mgr.settleBoot gguid boot).Consistent := by
  rw [VoteKicks.settleBoot]
  dsimp only
  split_ifs with running passed
  · exact consistent.congr rfl (fun _ => rfl) rfl
  · exact ((consistent.setVoteKick gguid false).kick gguid _).congr rfl (fun _ => rfl) rfl
  · exact (consistent.setVoteKick gguid false).congr rfl (fun _ => rfl) rfl

theorem Consistent.updateBoot (consistent : mgr.Consistent) (guid : ObjectGuid) (accept : Bool) :
    (mgr.updateBoot guid accept).Consistent := by
  rw [VoteKicks.updateBoot]
  split
  · exact consistent
  · split
    · exact consistent
    · dsimp only
      split_ifs with answered
      · exact consistent.congr rfl (fun _ => rfl) rfl
      · exact consistent.settleBoot _ _

theorem Consistent.removeObsoleteKicks (consistent : mgr.Consistent) (currTime : Nat) :
    (mgr.removeObsoleteKicks currTime).Consistent := by
  refine consistent.congr rfl (fun gguid => ?_) rfl
  rw [VoteKicks.removeObsoleteKicks]
  dsimp only
  split_ifs with obsolete
  · rfl
  · rfl

theorem Consistent.step (consistent : mgr.Consistent) (event : BootEvent) :
    (mgr.step event).Consistent := by
  cases event with
  | updateBoot guid accept => exact consistent.updateBoot guid accept
  | addMember gguid guid => exact consistent.onAddMember gguid guid
  | removeMember gguid guid => exact consistent.onRemoveMember gguid guid
  | disband gguid => exact consistent.onDisband gguid
  | removeObsoleteKicks currTime => exact consistent.removeObsoleteKicks currTime

theorem Consistent.initBoot (consistent : mgr.Consistent) (gguid kicker victim : ObjectGuid)
    (reason : String) (time : Nat) :
    (mgr.initBoot gguid kicker victim reason time).Consistent :=
  (consistent.setVoteKick gguid true).congr rfl (fun _ => rfl) rfl

/-! ## An answer -/

theorem kickedFrom_append (kicks : List (ObjectGuid × ObjectGuid)) (gguid other victim : ObjectGuid)
    (same : mgr.kicked = kicks ++ [(other, victim)]) :
    mgr.kickedFrom gguid =
      ((kicks.filter fun kick => kick.1 = gguid).map Prod.snd) ++
        if other = gguid then [victim] else [] := by
  rw [kickedFrom, same, List.filter_append, List.map_append]
  by_cases here : other = gguid
  · simp [here]
  · simp [here]

/-- A kick is one of the group of the vote, if this still exists. -/
theorem kickedFrom_kick (gguid other victim : ObjectGuid) :
    (mgr.kick other victim).kickedFrom gguid =
      mgr.kickedFrom gguid ++ if mgr.groups other = true ∧ other = gguid then [victim] else [] := by
  by_cases isGroup : mgr.groups other = true
  · rw [kick, if_pos isGroup]
    refine (kickedFrom_append mgr.kicked gguid other victim rfl).trans ?_
    simp only [isGroup, true_and]
    rfl
  · rw [kick, if_neg isGroup, if_neg fun both => isGroup both.1, List.append_nil]
    rfl

theorem bootsStore_kick (other victim : ObjectGuid) :
    (mgr.kick other victim).bootsStore = mgr.bootsStore := by
  rw [kick]
  split_ifs with isGroup
  · rfl
  · rfl

theorem settleBoot_elsewhere {other : ObjectGuid} (apart : other ≠ gguid) (boot : LfgPlayerBoot) :
    (mgr.settleBoot other boot).bootsStore gguid = mgr.bootsStore gguid ∧
      (mgr.settleBoot other boot).kickedFrom gguid = mgr.kickedFrom gguid := by
  rw [settleBoot]
  dsimp only
  split_ifs with running passed
  · exact ⟨Function.update_of_ne apart.symm _ _, rfl⟩
  · refine ⟨(Function.update_of_ne apart.symm _ _).trans ?_, ?_⟩
    · rw [bootsStore_kick]
      rfl
    · refine (kickedFrom_kick gguid other _).trans ?_
      rw [if_neg fun both => apart both.2, List.append_nil]
      rfl
  · exact ⟨Function.update_of_ne apart.symm _ _, rfl⟩

/-- The answer of somebody from elsewhere leaves the vote of a group alone. -/
theorem updateBoot_elsewhere (elsewhere : mgr.playersStore guid ≠ some gguid) (accept : Bool) :
    (mgr.updateBoot guid accept).bootsStore gguid = mgr.bootsStore gguid ∧
      (mgr.updateBoot guid accept).kickedFrom gguid = mgr.kickedFrom gguid := by
  rw [updateBoot]
  split
  · exact ⟨rfl, rfl⟩
  · next own found =>
    have apart : own ≠ gguid := fun same => elsewhere (same ▸ found)
    split
    · exact ⟨rfl, rfl⟩
    · dsimp only
      split_ifs with answered
      · exact ⟨Function.update_of_ne apart.symm _ _, rfl⟩
      · exact settleBoot_elsewhere apart _

theorem updateBoot_eq {boot : LfgPlayerBoot} (member : mgr.playersStore guid = some gguid)
    (stored : mgr.bootsStore gguid = some boot) (accept : Bool) :
    mgr.updateBoot guid accept =
      if (boot.vote guid).1 ≠ .pending then
        { mgr with bootsStore := Function.update mgr.bootsStore gguid (some (boot.vote guid).2) }
      else mgr.settleBoot gguid ((boot.vote guid).2.setVote guid (.ofBool accept)) := by
  rw [updateBoot, member]
  dsimp only
  rw [stored]

end VoteKicks

/-! ## The vote follows its poll -/

section

variable {mgr : VoteKicks} {gguid guid kicker : ObjectGuid} {earlier : List ObjectGuid}
  {poll : Poll} {boot : LfgPlayerBoot}

/-- A first answer gets into the table and into the poll. -/
theorem Records.cast (records : Records boot.votes poll) (running : poll.ended = false)
    (voter : guid ∈ poll.voters) (notAgreed : guid ∉ poll.agreed) (notDenied : guid ∉ poll.denied)
    (accept : Bool) :
    Records (boot.setVote guid (.ofBool accept)).votes (poll.cast guid accept) where
  keys := keys_setVote records.keys _ _
  answer := by
    intro other
    show answerOf _ other = _
    have before : answerOf boot.votes other = _ := records.answer other
    rw [answerOf_setVote, before, Poll.cast_eq running voter notAgreed notDenied]
    by_cases same : other = guid
    · rw [same]
      cases accept with
      | true => simp [LfgAnswer.ofBool]
      | false => simp [LfgAnswer.ofBool, notAgreed]
    · cases accept with
      | true => simp [same]
      | false => simp [same]

/-- The count of the answers ends the vote exactly when its poll ends. -/
theorem settleBoot_tallies (records : Records boot.votes poll) (fair : poll.Fair kicker)
    (inProgress : boot.inProgress = true) (victim : boot.victim = poll.victim)
    (cancelTime : boot.cancelTime = poll.cancelTime) (lasting : poll.cancelled = false)
    (isGroup : mgr.groups gguid = true) (kicks : mgr.kickedFrom gguid = earlier) :
    Tallies gguid earlier (mgr.settleBoot gguid boot) poll := by
  obtain ⟨votesNum, agreeNum⟩ := records.counts fair
  have few : ((boot.countVotes.2.toNat : Int) < kickVotesNeeded ∧
      (boot.countVotes.1.toNat : Int) - boot.countVotes.2.toNat < kickVotesNeeded) ↔
        poll.ended = false := by
    rw [votesNum, agreeNum, Poll.ended_eq_false_iff]
    constructor
    · rintro ⟨agreed, denied⟩
      exact ⟨by omega, by omega, lasting⟩
    · rintro ⟨agreed, denied, _⟩
      exact ⟨by omega, by omega⟩
  rw [VoteKicks.settleBoot]
  dsimp only
  by_cases running : poll.ended = false
  · rw [if_pos (few.mpr running)]
    refine ⟨fun _ => ⟨boot, Function.update_self .., inProgress, victim, cancelTime, records⟩,
      ?_, ?_⟩
    · intro ended
      rw [running] at ended
      cases ended
    · rw [Poll.not_passed_of_running running]
      exact kicks.trans (List.append_nil _).symm
  · rw [if_neg (few.not.mpr running)]
    refine ⟨fun continues => absurd continues running, fun _ => Function.update_self .., ?_⟩
    by_cases passed : boot.countVotes.2.toNat = kickVotesNeeded
    · have enough : poll.passed = true := by
        rw [agreeNum] at passed
        exact decide_eq_true passed.ge
      rw [if_pos passed, enough]
      refine (VoteKicks.kickedFrom_kick gguid gguid boot.victim).trans ?_
      have kept : (mgr.setVoteKick gguid false).kickedFrom gguid = earlier := kicks
      rw [if_pos ⟨isGroup, rfl⟩, victim, kept]
      rfl
    · have fewer : poll.passed = false := by
        rw [agreeNum] at passed
        have most := fair.agreedEnough
        exact decide_eq_false (by omega)
      rw [if_neg passed, fewer]
      exact kicks.trans (List.append_nil _).symm

namespace Tallies

/-- Only the vote of the group and its kicks matter. -/
theorem congr {after : VoteKicks} (tallies : Tallies gguid earlier mgr poll)
    (boots : after.bootsStore gguid = mgr.bootsStore gguid)
    (kicks : after.kickedFrom gguid = mgr.kickedFrom gguid) :
    Tallies gguid earlier after poll where
  running := by
    rw [boots]
    exact tallies.running
  finished := by
    rw [boots]
    exact tallies.finished
  kicks := by
    rw [kicks]
    exact tallies.kicks

theorem updateBoot (tallies : Tallies gguid earlier mgr poll) (fair : poll.Fair kicker)
    (consistent : mgr.Consistent) {accept : Bool}
    (noNewcomer : NoNewcomerAnswers gguid (mgr, poll) (.updateBoot guid accept)) :
    Tallies gguid earlier (mgr.updateBoot guid accept)
      (poll.follow gguid mgr (.updateBoot guid accept)) := by
  rw [Poll.follow]
  by_cases member : mgr.playersStore guid = some gguid
  swap
  · rw [if_neg member]
    obtain ⟨boots, kicks⟩ := VoteKicks.updateBoot_elsewhere member accept
    exact tallies.congr boots kicks
  rw [if_pos member]
  by_cases ended : poll.ended = true
  · have unchanged : mgr.updateBoot guid accept = mgr := by
      rw [VoteKicks.updateBoot, member]
      dsimp only
      rw [tallies.finished ended]
    rw [unchanged, Poll.cast_of_ended ended]
    exact tallies
  have running : poll.ended = false := Bool.eq_false_iff.mpr ended
  have voter : guid ∈ poll.voters := noNewcomer member running
  obtain ⟨boot, stored, inProgress, victim, cancelTime, records⟩ := tallies.running running
  have notPassed := Poll.not_passed_of_running running
  rw [VoteKicks.updateBoot_eq member stored]
  by_cases answered : guid ∈ poll.agreed ∨ guid ∈ poll.denied
  · have known : boot.vote guid = ((boot.vote guid).1, boot) ∧ (boot.vote guid).1 ≠ .pending := by
      by_cases agreed : guid ∈ poll.agreed
      · rw [vote_of_answerOf (records.answerOf_of_agreed agreed)]
        exact ⟨rfl, nofun⟩
      · rw [vote_of_answerOf (records.answerOf_of_denied agreed (answered.resolve_left agreed))]
        exact ⟨rfl, nofun⟩
    rw [if_pos known.2, known.1, Poll.cast_of_answered answered]
    refine tallies.congr ?_ rfl
    exact (Function.update_self ..).trans stored.symm
  · rw [not_or] at answered
    have looked := vote_of_answerOf (records.answerOf_of_open answered.1 answered.2 voter)
    have lasting : (poll.cast guid accept).cancelled = false := by
      rw [Poll.cast_eq running voter answered.1 answered.2]
      cases accept with
      | true => exact (Poll.ended_eq_false_iff.mp running).2.2
      | false => exact (Poll.ended_eq_false_iff.mp running).2.2
    have same : (poll.cast guid accept).victim = poll.victim ∧
        (poll.cast guid accept).cancelTime = poll.cancelTime := by
      rw [Poll.cast_eq running voter answered.1 answered.2]
      cases accept with
      | true => exact ⟨rfl, rfl⟩
      | false => exact ⟨rfl, rfl⟩
    have kicks := tallies.kicks
    rw [notPassed] at kicks
    rw [looked, if_neg (not_not.mpr rfl)]
    exact settleBoot_tallies (records.cast running voter answered.1 answered.2 accept)
      (fair.cast guid accept) inProgress (victim.trans same.1.symm)
      (cancelTime.trans same.2.symm) lasting (consistent guid gguid member).2
      (kicks.trans (List.append_nil _))

theorem removeObsoleteKicks (tallies : Tallies gguid earlier mgr poll) (currTime : Nat) :
    Tallies gguid earlier (mgr.removeObsoleteKicks currTime) (poll.cancel currTime) := by
  have kept : (mgr.removeObsoleteKicks currTime).kickedFrom gguid = mgr.kickedFrom gguid := rfl
  by_cases ended : poll.ended = true
  · have same : poll.cancel currTime = poll := by simp [Poll.cancel, ended]
    rw [same]
    refine tallies.congr ?_ kept
    simp [VoteKicks.removeObsoleteKicks, tallies.finished ended]
  have running : poll.ended = false := Bool.eq_false_iff.mpr ended
  obtain ⟨boot, stored, inProgress, victim, cancelTime, records⟩ := tallies.running running
  by_cases late : poll.cancelTime < currTime
  · have cancelled : poll.cancel currTime = { poll with cancelled := true } := by
      simp [Poll.cancel, running, late]
    have gone : ({ poll with cancelled := true } : Poll).ended = true := by simp [Poll.ended]
    rw [cancelled]
    refine ⟨fun continues => ?_, fun _ => ?_, kept.trans tallies.kicks⟩
    · rw [gone] at continues
      cases continues
    · simp [VoteKicks.removeObsoleteKicks, stored, cancelTime, late]
  · have same : poll.cancel currTime = poll := by simp [Poll.cancel, late]
    rw [same]
    refine tallies.congr ?_ kept
    simp [VoteKicks.removeObsoleteKicks, stored, cancelTime, late]

theorem step (tallies : Tallies gguid earlier mgr poll) (fair : poll.Fair kicker)
    (consistent : mgr.Consistent) {event : BootEvent}
    (noNewcomer : NoNewcomerAnswers gguid (mgr, poll) event) :
    Tallies gguid earlier (mgr.step event) (poll.follow gguid mgr event) := by
  cases event with
  | updateBoot guid accept => exact tallies.updateBoot fair consistent noNewcomer
  | addMember other guid => exact tallies.congr rfl rfl
  | removeMember other guid => exact tallies.congr rfl rfl
  | disband other => exact tallies.congr rfl rfl
  | removeObsoleteKicks currTime => exact tallies.removeObsoleteKicks currTime

end Tallies

/-- As long as no newcomer answers, the vote of a group is that of its members: each of them is
counted once, and the victim is kicked if and when enough of them agree before enough deny. -/
theorem voteKick_tallies {victim : ObjectGuid} (consistent : mgr.Consistent)
    (idle : mgr.bootsStore gguid = none) (differ : kicker ≠ victim) (reason : String) (time : Nat)
    (events : List BootEvent)
    (noNewcomers : EveryStep (stepBoth gguid) (NoNewcomerAnswers gguid)
      (mgr.initBoot gguid kicker victim reason time,
        Poll.start (mgr.groupsStore gguid).players kicker victim time) events) :
    Throughout (stepBoth gguid)
      (fun state => Tallies gguid (mgr.kickedFrom gguid) state.1 state.2 ∧ state.2.Fair kicker)
      (mgr.initBoot gguid kicker victim reason time,
        Poll.start (mgr.groupsStore gguid).players kicker victim time) events := by
  have preserved : ∀ (state : VoteKicks × Poll) event,
      (Tallies gguid (mgr.kickedFrom gguid) state.1 state.2 ∧ state.2.Fair kicker ∧
        state.1.Consistent) → NoNewcomerAnswers gguid state event →
      Tallies gguid (mgr.kickedFrom gguid) (stepBoth gguid state event).1
          (stepBoth gguid state event).2 ∧
        (stepBoth gguid state event).2.Fair kicker ∧ (stepBoth gguid state event).1.Consistent :=
    fun state event holds noNewcomer =>
      ⟨holds.1.step holds.2.1 holds.2.2 noNewcomer, holds.2.1.follow gguid state.1 event,
        holds.2.2.step event⟩
  have started := VoteKicks.tallies_initBoot idle differ reason time
  have throughout := throughout_of_invariant preserved
    ⟨started, Poll.Fair.start differ, consistent.initBoot gguid kicker victim reason time⟩
    noNewcomers
  exact throughout.mono fun _ holds => ⟨holds.1, holds.2.1⟩

end

/-! ## A group of five -/

def fivePlayers : List ObjectGuid := [.player 1, .player 2, .player 3, .player 4, .player 5]

/-- Before the vote; all groups look alike. -/
def groupOfFive : VoteKicks where
  playersStore := fun guid => if guid ∈ fivePlayers then some (.group 1) else none
  groupsStore := fun _ => ⟨fivePlayers, false, 3⟩
  bootsStore := fun _ => none
  groups := fun _ => true
  kicked := []

theorem groupOfFive_consistent : groupOfFive.Consistent := by
  intro guid gguid member
  refine ⟨?_, rfl⟩
  by_contra outside
  have none : groupOfFive.playersStore guid = .none := if_neg outside
  rw [none] at member
  cases member

/-- The third and the fourth player agree with the first. -/
theorem voteKick_tallies_groupOfFive :
    (run (stepBoth (.group 1))
        (groupOfFive.initBoot (.group 1) (.player 1) (.player 2) "" 0,
          Poll.start fivePlayers (.player 1) (.player 2) 0)
        [.updateBoot (.player 3) true, .updateBoot (.player 4) true]).1.kickedFrom (.group 1) =
      [.player 2] := by
  have throughout := voteKick_tallies groupOfFive_consistent (show groupOfFive.bootsStore
    (.group 1) = none from rfl) (show ObjectGuid.player 1 ≠ .player 2 by decide) "" 0
    [.updateBoot (.player 3) true, .updateBoot (.player 4) true]
    ⟨fun _ _ => by decide, fun _ _ => by decide, trivial⟩
  exact throughout.last.1.kicks

/-- The sixth player comes for the fifth and agrees, and when the fourth denies the vote is over. -/
theorem newcomer_denies :
    ¬∀ (mgr : VoteKicks) (gguid kicker victim : ObjectGuid) (reason : String) (time : Nat)
      (events : List BootEvent), mgr.Consistent → mgr.bootsStore gguid = none → kicker ≠ victim →
      Throughout (stepBoth gguid)
        (fun state => Tallies gguid (mgr.kickedFrom gguid) state.1 state.2 ∧ state.2.Fair kicker)
        (mgr.initBoot gguid kicker victim reason time,
          Poll.start (mgr.groupsStore gguid).players kicker victim time) events := by
  intro always
  have throughout := always groupOfFive (.group 1) (.player 1) (.player 2) "" 0
    [.removeMember (.group 1) (.player 5), .addMember (.group 1) (.player 6),
      .updateBoot (.player 6) true, .updateBoot (.player 4) false]
    groupOfFive_consistent rfl (by decide)
  obtain ⟨boot, stored, _⟩ := throughout.last.1.running (by decide)
  have gone : (run (stepBoth (.group 1))
      (groupOfFive.initBoot (.group 1) (.player 1) (.player 2) "" 0,
        Poll.start fivePlayers (.player 1) (.player 2) 0)
      [.removeMember (.group 1) (.player 5), .addMember (.group 1) (.player 6),
        .updateBoot (.player 6) true, .updateBoot (.player 4) false]).1.bootsStore (.group 1) =
      none := by decide
  have both : none = some boot := gone.symm.trans stored
  cases both

end RealmServer.DungeonFinding
