import RealmServer.Battlegrounds.Membership
import RealmServer.Battlegrounds.ProposalSearch

/-!
# The best proposal

A proposal with a quality gives no team more players than there are slots, and
`StartProposal` invites no others.  The first proposal has its quality of an
earlier time, so the best one may have it as well.
-/

namespace RealmServer.Battlegrounds

open Table

/-! ## `StartProposal` -/

namespace MatchmakingData

theorem length_addPlayerData (data : MatchmakingData) (guid : ObjectGuid) (player : PlayerState)
    (team other : Team) (groupSize : Nat) :
    ((data.addPlayerData guid player team groupSize).playerData other).length ≤
      (data.playerData other).length + if other = team then 1 else 0 := by
  show (Function.update data.playerData team _ other).length ≤ _
  by_cases same : other = team
  · subst same
    rw [Function.update_self, if_pos rfl]
    unfold assign erase
    rw [List.length_append, List.length_singleton]
    exact Nat.succ_le_succ (List.length_filter_le _ _)
  · rw [Function.update_of_ne same]
    exact Nat.le_add_right _ _

end MatchmakingData

namespace MatchRequest

/-- How many players a group has. -/
def sizeOf (queue : BattlegroundQueue) (id : GroupId) : Nat :=
  ((queue.group id).map fun group => group.players.length).getD 0

theorem sizeOf_of_same {queue next : BattlegroundQueue}
    (same : BattlegroundQueue.SameMembership queue next) (id : GroupId) :
    sizeOf next id = sizeOf queue id := by
  have view : ∀ queue : BattlegroundQueue, (queue.group id).map (fun group => group.players) =
      ((queue.groupInfos.map fun group => (group.id, group.players)).find? fun pair =>
        pair.1 = id).map Prod.snd := by
    intro queue
    unfold BattlegroundQueue.group find
    rw [List.find?_map, Option.map_map]
    rfl
  have players : (next.group id).map (fun group => group.players) =
      (queue.group id).map fun group => group.players := by
    rw [view, view, same.groups]
  unfold sizeOf
  have lengths := congrArg (Option.map List.length) players
  rw [Option.map_map, Option.map_map] at lengths
  exact congrArg (Option.getD · 0) lengths

theorem playersOf_modifyBattleground {queue : BattlegroundQueue} {instanceId more : Nat}
    {team : Team} {change : Battleground → Battleground}
    (sameId : ∀ battleground, (change battleground).instanceId = battleground.instanceId)
    (adds : ∀ battleground, ((change battleground).matchmakingData.playerData team).length ≤
      (battleground.matchmakingData.playerData team).length + more) :
    playersOf (queue.modifyBattleground instanceId change) instanceId team ≤
      playersOf queue instanceId team + more := by
  unfold playersOf BattlegroundQueue.modifyBattleground
  dsimp only
  rw [find_modify_self instanceId change sameId]
  cases find Battleground.instanceId queue.battlegrounds instanceId with
  | none => exact Nat.zero_le _
  | some battleground => exact adds battleground

theorem playersOf_invitePlayer (surroundings : Surroundings) (instanceId : Nat)
    (team other : Team) (groupSize : Nat) (queue : BattlegroundQueue) (guid : ObjectGuid) :
    playersOf (queue.invitePlayer surroundings instanceId team groupSize guid) instanceId other ≤
      playersOf queue instanceId other + if other = team then 1 else 0 := by
  unfold BattlegroundQueue.invitePlayer
  dsimp only
  by_cases offline : (!(surroundings.player guid).canBeInvited) = true
  · rw [if_pos offline]
    exact Nat.le_add_right _ _
  · rw [if_neg offline]
    apply playersOf_modifyBattleground
    · exact fun battleground =>
        BattlegroundQueue.increaseInvitedCount_instanceId battleground team
    · intro battleground
      have kept : (battleground.increaseInvitedCount team).matchmakingData =
          battleground.matchmakingData := by
        cases team
        · rfl
        · rfl
      dsimp only
      rw [kept]
      exact MatchmakingData.length_addPlayerData _ guid _ team other groupSize

theorem playersOf_invitePlayers (surroundings : Surroundings) (instanceId : Nat)
    (team other : Team) (groupSize : Nat) (queue : BattlegroundQueue) (guids : List ObjectGuid) :
    playersOf (guids.foldl (BattlegroundQueue.invitePlayer surroundings instanceId team groupSize)
        queue) instanceId other ≤
      playersOf queue instanceId other + if other = team then guids.length else 0 := by
  induction guids generalizing queue with
  | nil => exact Nat.le_add_right _ _
  | cons guid rest induction =>
      have first := playersOf_invitePlayer surroundings instanceId team other groupSize queue guid
      have later := induction
        (queue.invitePlayer surroundings instanceId team groupSize guid)
      rw [List.foldl_cons, List.length_cons]
      split_ifs at first later ⊢
      · omega
      · omega

theorem playersOf_inviteGroupToBG (surroundings : Surroundings) (queue : BattlegroundQueue)
    (ginfo : GroupId) (instanceId : Nat) (side other : Team) :
    playersOf (queue.inviteGroupToBG surroundings ginfo instanceId (some side)) instanceId other ≤
      playersOf queue instanceId other + if other = side then sizeOf queue ginfo else 0 := by
  unfold BattlegroundQueue.inviteGroupToBG
  cases isGroup : queue.group ginfo with
  | none => exact Nat.le_add_right _ _
  | some group =>
      have size : sizeOf queue ginfo = group.players.length := by
        unfold sizeOf
        rw [isGroup]
        rfl
      rw [size]
      dsimp only [Option.getD_some]
      split_ifs with invited isSide
      · exact Nat.le_add_right _ _
      · exact Nat.le_refl _
      · exact (playersOf_invitePlayers _ _ _ _ _ _ _).trans_eq (by rw [if_pos ‹_›]; rfl)
      · exact (playersOf_invitePlayers _ _ _ _ _ _ _).trans_eq (by rw [if_neg ‹_›]; rfl)

/-- How many players of the groups a proposal assigns to a team. -/
def assignedTo (team : Team) (sizes : List Nat) (assigment : List Int) : Nat :=
  ((sizes.zip assigment).map fun (size, entry) => if entry = team.index then size else 0).sum

theorem playersOf_startOne (surroundings : Surroundings) (instanceId : Nat) (team : Team)
    (queue : BattlegroundQueue) (id : GroupId) (entry : Int) :
    let next :=
      if entry = 0 then queue.inviteGroupToBG surroundings id instanceId (some .alliance)
      else if entry = 1 then queue.inviteGroupToBG surroundings id instanceId (some .horde)
      else queue
    BattlegroundQueue.SameMembership queue next ∧
      playersOf next instanceId team ≤
        playersOf queue instanceId team + if entry = team.index then sizeOf queue id else 0 := by
  dsimp only
  by_cases isAlliance : entry = 0
  · rw [if_pos isAlliance, isAlliance]
    refine ⟨BattlegroundQueue.same_inviteGroupToBG queue _ _ _ _, ?_⟩
    have invited := playersOf_inviteGroupToBG surroundings queue id instanceId .alliance team
    cases team
    · exact invited
    · exact invited
  · rw [if_neg isAlliance]
    by_cases isHorde : entry = 1
    · rw [if_pos isHorde, isHorde]
      refine ⟨BattlegroundQueue.same_inviteGroupToBG queue _ _ _ _, ?_⟩
      have invited := playersOf_inviteGroupToBG surroundings queue id instanceId .horde team
      cases team
      · exact invited
      · exact invited
    · rw [if_neg isHorde]
      exact ⟨.refl _, Nat.le_add_right _ _⟩

theorem playersOf_startProposal (surroundings : Surroundings) (instanceId : Nat) (team : Team)
    (queue : BattlegroundQueue) (ids : List GroupId) (assigment : List Int) :
    playersOf (queue.startProposal surroundings instanceId ids assigment) instanceId team ≤
      playersOf queue instanceId team + assignedTo team (ids.map (sizeOf queue)) assigment := by
  induction ids generalizing queue assigment with
  | nil => exact Nat.le_add_right _ _
  | cons id rest induction =>
      cases assigment with
      | nil => exact Nat.le_add_right _ _
      | cons entry others =>
          obtain ⟨same, first⟩ := playersOf_startOne surroundings instanceId team queue id entry
          have later := induction (if entry = 0 then
              queue.inviteGroupToBG surroundings id instanceId (some .alliance)
            else if entry = 1 then
              queue.inviteGroupToBG surroundings id instanceId (some .horde)
            else queue) others
          rw [List.map_congr_left fun other _ => sizeOf_of_same same other] at later
          have added : assignedTo team ((id :: rest).map (sizeOf queue)) (entry :: others) =
              (if entry = team.index then sizeOf queue id else 0) +
                assignedTo team (rest.map (sizeOf queue)) others := rfl
          rw [added]
          exact later.trans (by omega)

/-! ## The slots -/

variable (request : MatchRequest)

/-- How many players each group has, in the order of the queue. -/
def sizes : List Nat := request.groups.map fun group => group.players.length

theorem playerCount_eq (assigment : List Int) (team : Team) :
    request.playerCount assigment team =
      (request.battleground.matchmakingData.playerData team).length +
        assignedTo team request.sizes assigment := by
  unfold playerCount assignedTo sizes
  rw [List.zip_map_left, List.map_map]
  rfl

theorem group_of_mem {group : GroupQueueInfo} (member : group ∈ request.groups) :
    request.queue.group group.id = some group := by
  obtain ⟨id, _, isGroup⟩ := List.mem_filterMap.mp (List.mem_mergeSort.mp member)
  rw [key_of_find isGroup]
  exact isGroup

/-- A team has no more players than slots after it was started. -/
theorem playersOf_startProposal_le {Quality : Type} (surroundings : Surroundings)
    (best : Proposal Quality) (team : Team) :
    playersOf (request.startProposal surroundings best) request.battleground.instanceId team ≤
      request.playerCount best.assigment team := by
  have started := playersOf_startProposal surroundings request.battleground.instanceId team
    request.queue (request.groups.map GroupQueueInfo.id) best.assigment
  have sizes : (request.groups.map GroupQueueInfo.id).map (sizeOf request.queue) =
      request.sizes := by
    rw [List.map_map]
    apply List.map_congr_left
    intro group member
    show sizeOf request.queue group.id = _
    unfold sizeOf
    rw [request.group_of_mem member]
    rfl
  have before : playersOf request.queue request.battleground.instanceId team =
      (request.battleground.matchmakingData.playerData team).length := by
    unfold playersOf
    rw [request.exists_battleground]
  rw [sizes, before] at started
  rw [playerCount_eq]
  exact started

/-! ### Groups which wait -/

theorem assignedTo_set (team : Team) (sizes : List Nat) {assigment : List Int} {place : Nat}
    (unassigned : assigment[place]? = some (-1)) :
    assignedTo team sizes (assigment.set place (bgTeamsCount : Int)) =
      assignedTo team sizes assigment := by
  induction sizes generalizing assigment place with
  | nil => rfl
  | cons size rest induction =>
      cases assigment with
      | nil => cases unassigned
      | cons entry others =>
          cases place with
          | zero =>
              have isMinus : entry = -1 := Option.some.inj unassigned
              subst isMinus
              unfold assignedTo
              rw [List.set_cons_zero, List.zip_cons_cons, List.zip_cons_cons, List.map_cons,
                List.map_cons, List.sum_cons, List.sum_cons]
              cases team
              · rfl
              · rfl
          | succ place =>
              have later := @induction others place unassigned
              unfold assignedTo at later ⊢
              rw [List.set_cons_succ, List.zip_cons_cons, List.zip_cons_cons, List.map_cons,
                List.map_cons, List.sum_cons, List.sum_cons, later]

theorem assignedTo_replicate (team : Team) (sizes : List Nat) (more : Nat) :
    assignedTo team sizes (List.replicate more (-1)) = 0 := by
  unfold assignedTo
  apply List.sum_eq_zero
  intro count member
  obtain ⟨⟨size, entry⟩, isPair, rfl⟩ := List.mem_map.mp member
  have isMinus := List.eq_of_mem_replicate (List.of_mem_zip isPair).2
  dsimp only
  rw [isMinus]
  cases team
  · rfl
  · rfl

theorem assignedTo_append (team : Team) (sizes : List Nat) (assigment : List Int) (more : Nat) :
    assignedTo team sizes (assigment ++ List.replicate more (-1)) =
      assignedTo team sizes assigment := by
  induction sizes generalizing assigment with
  | nil => rfl
  | cons size rest induction =>
      cases assigment with
      | nil => exact assignedTo_replicate team (size :: rest) more
      | cons entry others =>
          have later := induction others
          unfold assignedTo at later ⊢
          rw [List.cons_append, List.zip_cons_cons, List.zip_cons_cons, List.map_cons,
            List.map_cons, List.sum_cons, List.sum_cons, later]

/-! ### Qualities -/

section Quality

variable {request} {Quality : Type} {quality : UInt32 → List Int → WithBot Quality}

theorem quality_ne_bot (isQuality : request.IsQuality quality) {timestamp : UInt32}
    {assigment : List Int} : quality timestamp assigment ≠ ⊥ ↔
      ∀ team, request.playerCount assigment team ≤ request.maxPlayersPerTeam := by
  rw [ne_eq, isQuality timestamp assigment, not_exists]
  exact forall_congr' fun _ => not_lt

theorem waits_of_isQuality (isQuality : request.IsQuality quality) (timestamp : UInt32)
    (assigment : List Int) (place : Nat) (unassigned : assigment[place]? = some (-1))
    (feasible : quality timestamp assigment ≠ ⊥) :
    quality timestamp (assigment.set place (bgTeamsCount : Int)) ≠ ⊥ := by
  rw [quality_ne_bot isQuality] at feasible ⊢
  intro team
  rw [playerCount_eq, assignedTo_set team request.sizes unassigned, ← playerCount_eq]
  exact feasible team

theorem grows_of_isQuality (isQuality : request.IsQuality quality) (timestamp : UInt32)
    (assigment : List Int) (more : Nat) (feasible : quality timestamp assigment ≠ ⊥) :
    quality timestamp (assigment ++ List.replicate more (-1)) ≠ ⊥ := by
  rw [quality_ne_bot isQuality] at feasible ⊢
  intro team
  rw [playerCount_eq, assignedTo_append, ← playerCount_eq]
  exact feasible team

/-- With too many players already there, there is no other quality than minus infinity. -/
theorem quality_eq_bot (isQuality : request.IsQuality quality)
    (tooMany : ∃ team, request.maxPlayersPerTeam <
      (request.battleground.matchmakingData.playerData team).length)
    (timestamp : UInt32) (assigment : List Int) : quality timestamp assigment = ⊥ := by
  obtain ⟨team, tooMany⟩ := tooMany
  rw [isQuality timestamp assigment]
  exact ⟨team, tooMany.trans_le (Nat.le_add_right _ _)⟩

theorem initial_wellFormed (request : MatchRequest)
    (quality : UInt32 → List Int → WithBot Quality) :
    (request.initial quality).WellFormed request.groups :=
  let new := (Proposal.new_wellFormed request.groups :
    (Proposal.new request.groups : Proposal Quality).WellFormed request.groups)
  { new with }

variable [LinearOrder Quality]

/-- With slots for the players who are there, and one quality for the first proposal. -/
theorem soundSearch_of_initial (isQuality : request.IsQuality quality)
    (slots : ∀ team, (request.battleground.matchmakingData.playerData team).length ≤
      request.maxPlayersPerTeam)
    (same : (request.initial quality).quality =
      quality request.now (request.initial quality).assigment) :
    request.SoundSearch quality := by
  have wellFormed := request.initial_wellFormed quality
  have feasible : quality request.now (request.initial quality).assigment ≠ ⊥ := by
    rw [quality_ne_bot isQuality]
    intro team
    rw [playerCount_eq]
    show _ + assignedTo team request.sizes (List.replicate _ (-1)) ≤ _
    rw [assignedTo_replicate]
    exact slots team
  have ends : ∃ best, request.findProposal quality
      (request.groups.length + performanceGroupsPerIteration + 1) = some best ∧
        Fits request.groups (quality request.now)
          (quality request.now (request.initial quality).assigment) best := by
    apply searchLoop_ends (waits_of_isQuality isQuality request.now)
      (grows_of_isQuality isQuality request.now) wellFormed feasible ⟨wellFormed, same, same.ge⟩
    have bounded := wellFormed.bounded
    push_cast
    omega
  obtain ⟨best, isBest, fits⟩ := ends
  refine ⟨fun rounds proposal member => counter_of_loopSearched wellFormed member, _, best, isBest,
    fits.wellFormed.length, fits.wellFormed.assigns, fits.evaluated, fits.least, ?_⟩
  intro found surroundings team
  rw [fits.evaluated, quality_ne_bot isQuality] at found
  exact (request.playersOf_startProposal_le surroundings best team).trans (found team)

/-- Without groups the first proposal is the best one. -/
theorem soundSearch_of_nil (isQuality : request.IsQuality quality)
    (tooMany : ∃ team, request.maxPlayersPerTeam <
      (request.battleground.matchmakingData.playerData team).length)
    (nothing : request.queuedGroups = []) : request.SoundSearch quality := by
  have wellFormed := request.initial_wellFormed quality
  have noGroups : request.groups = [] := by
    unfold groups
    rw [nothing]
    exact List.mergeSort_nil
  have counter : (request.initial quality).unassignedCounter = 0 := by
    show ((min request.groups.length performanceGroupsPerIteration : Nat) : Int) = 0
    rw [noGroups]
    rfl
  have ends : request.findProposal quality 1 = some (request.initial quality) := by
    unfold MatchRequest.findProposal searchLoop
    rw [if_neg (by omega)]
  have bot : (request.initial quality).quality = ⊥ := quality_eq_bot isQuality tooMany _ _
  refine ⟨fun rounds proposal member => counter_of_loopSearched wellFormed member, 1, _, ends,
    wellFormed.length, wellFormed.assigns, ?_, ?_, fun found => absurd bot found⟩
  · rw [bot, quality_eq_bot isQuality tooMany]
  · rw [quality_eq_bot isQuality tooMany]
    exact bot_le

end Quality

/-- The search does not end where no proposal is better than minus infinity. -/
theorem findProposal_endless {Quality : Type} [LinearOrder Quality] (request : MatchRequest)
    (waiting : request.queuedGroups ≠ []) (rounds : Nat) :
    request.findProposal (fun _ _ => (⊥ : WithBot Quality)) rounds = none := by
  apply searchLoop_of_bot fun _ => rfl
  intro nothing
  obtain ⟨id, isQueued⟩ := List.exists_mem_of_ne_nil _ waiting
  obtain ⟨group, isGroup⟩ := Option.isSome_iff_exists.mp (request.exists_group id isQueued)
  have member : group ∈ request.groups :=
    List.mem_mergeSort.mpr (List.mem_filterMap.mpr ⟨id, isQueued, isGroup⟩)
  rw [nothing] at member
  exact List.not_mem_nil member

end MatchRequest

open MatchRequest

/-- The search is sound for every quality if and only if the players who are there have slots
and the time has not changed; where they have not, there must be no groups. -/
theorem findProposal_sound_iff (request : MatchRequest) :
    (∀ quality : UInt32 → List Int → WithBot ℝ, request.IsQuality quality →
        request.SoundSearch quality) ↔
      ((∃ team, request.maxPlayersPerTeam <
          (request.battleground.matchmakingData.playerData team).length) →
        request.queuedGroups = []) ∧
      ((∀ team, (request.battleground.matchmakingData.playerData team).length ≤
          request.maxPlayersPerTeam) → request.timestamp = request.now) := by
  constructor
  · intro sound
    constructor
    · intro tooMany
      by_contra waiting
      have isQuality : request.IsQuality fun _ _ => (⊥ : WithBot ℝ) := by
        intro timestamp assigment
        obtain ⟨team, tooMany⟩ := tooMany
        exact iff_of_true rfl ⟨team, tooMany.trans_le (Nat.le_add_right _ _)⟩
      obtain ⟨rounds, best, isBest, _⟩ := (sound _ isQuality).ends
      rw [request.findProposal_endless waiting] at isBest
      cases isBest
    · intro slots
      by_contra changed
      classical
      -- All proposals are better at the old time.
      let quality : UInt32 → List Int → WithBot ℝ := fun timestamp assigment =>
        if ∃ team, request.maxPlayersPerTeam < request.playerCount assigment team then ⊥
        else if timestamp = request.timestamp then (1 : ℝ) else (0 : ℝ)
      have isQuality : request.IsQuality quality := by
        intro timestamp assigment
        show (if _ then _ else _) = _ ↔ _
        split_ifs with tooMany isOld
        · exact iff_of_true rfl tooMany
        · exact iff_of_false (WithBot.coe_ne_bot) tooMany
        · exact iff_of_false (WithBot.coe_ne_bot) tooMany
      obtain ⟨rounds, best, isBest, isSound⟩ := (sound quality isQuality).ends
      have first : (request.initial quality).quality = (1 : ℝ) := by
        show (if _ then _ else _) = _
        rw [if_neg, if_pos rfl]
        rw [← isQuality request.timestamp, ← ne_eq, quality_ne_bot isQuality]
        intro team
        rw [playerCount_eq]
        show _ + assignedTo team request.sizes (List.replicate _ (-1)) ≤ _
        rw [assignedTo_replicate]
        exact slots team
      have least := le_of_searchLoop isBest
      have later : quality request.now best.assigment ≤ (0 : ℝ) := by
        show (if _ then _ else _) ≤ _
        split_ifs with tooMany isOld
        · exact bot_le
        · exact absurd isOld (Ne.symm changed)
        · exact le_rfl
      rw [first, isSound.evaluated] at least
      have wrong := WithBot.coe_le_coe.mp (least.trans later)
      exact absurd wrong (by norm_num)
  · rintro ⟨nothing, sameTime⟩ quality isQuality
    by_cases tooMany : ∃ team, request.maxPlayersPerTeam <
        (request.battleground.matchmakingData.playerData team).length
    · exact soundSearch_of_nil isQuality tooMany (nothing tooMany)
    · rw [not_exists] at tooMany
      have slots := fun team => not_lt.mp (tooMany team)
      apply soundSearch_of_initial isQuality slots
      show quality request.timestamp _ = quality request.now _
      rw [sameTime slots]
      rfl

/-- A battleground with two players in a team for one, and a player who waits. -/
def crowdedRequest : MatchRequest where
  queue :=
    { BattlegroundQueue.empty with
      groupInfos := [⟨7, [30], .horde, 2, false, 0, 0, 100, 0, 0, 0, 0, 0, 0, false⟩]
      battlegrounds := [⟨1, 2, 2, 0,
        { MatchmakingData.empty with
          playerData := Function.update (fun _ => []) .alliance
            [⟨10, 0, false, false, 0, 1⟩, ⟨20, 0, false, false, 0, 1⟩] }, []⟩] }
  battleground := ⟨1, 2, 2, 0,
    { MatchmakingData.empty with
      playerData := Function.update (fun _ => []) .alliance
        [⟨10, 0, false, false, 0, 1⟩, ⟨20, 0, false, false, 0, 1⟩] }, []⟩
  exists_battleground := rfl
  queuedGroups := [7]
  exists_group := by
    intro id isQueued
    rw [List.mem_singleton.mp isQueued]
    rfl
  maxPlayersPerTeam := 1
  timestamp := 200
  now := 200

/-- Every proposal has too many players, and the search does not end. -/
theorem crowdedRequest_endless :
    crowdedRequest.IsQuality (fun _ _ => (⊥ : WithBot ℝ)) ∧
      ¬crowdedRequest.SoundSearch (fun _ _ => (⊥ : WithBot ℝ)) := by
  constructor
  · intro timestamp assigment
    refine iff_of_true rfl ⟨.alliance, ?_⟩
    exact Nat.lt_of_lt_of_le (Nat.lt_succ_self 1) (Nat.le_add_right _ _)
  · intro sound
    obtain ⟨rounds, best, isBest, _⟩ := sound.ends
    rw [crowdedRequest.findProposal_endless (List.cons_ne_nil _ _)] at isBest
    cases isBest

end RealmServer.Battlegrounds
