import RealmServer.Battlegrounds.Queue

/-!
# The match maker

`FindProposal` looks for the best assignment of waiting groups to the teams of a
battleground.  It assigns two to four groups at once, keeps the best of all
assignments it tried, and goes on from there until no group is left.  Their
quality is a parameter here: a number, or minus infinity for a team with too
many players.
-/

namespace RealmServer.Battlegrounds

open Table

/-- `TEAM_ALLIANCE` and `TEAM_HORDE`. -/
def Team.index : Team → Int
  | .alliance => 0
  | .horde => 1

/-- `BG_TEAMS_COUNT`. -/
def bgTeamsCount : Nat := 2

/-- `PERFORMANCE_GROUPS_PER_ITERATION`. -/
def performanceGroupsPerIteration : Nat := 25

/-- `CanJoinBGTeam`. -/
def GroupQueueInfo.canJoinBGTeam (group : GroupQueueInfo) (joinTeam : Nat) : Bool :=
  if joinTeam = 0 then group.team = .alliance || group.allowCrossfaction
  else if joinTeam = 1 then group.team = .horde || group.allowCrossfaction
  else false

/-- A number for each of the first groups: a team, 2 for none, -1 if not yet assigned. -/
structure Proposal (Quality : Type) where
  assigment : List Int
  /-- The bottom is minus infinity. -/
  quality : WithBot Quality
  unassignedCounter : Int

/-- `resize` of a vector. -/
def resize (values : List Int) (size : Nat) (value : Int) : List Int :=
  values.take size ++ List.replicate (size - values.length) value

section Search

variable {Quality : Type}

namespace Proposal

/-- The constructor; `baseQueue` is not null in a search. -/
def new (groups : List GroupQueueInfo) : Proposal Quality :=
  let size := min groups.length performanceGroupsPerIteration
  { assigment := List.replicate size (-1)
    quality := ⊥
    unassignedCounter := size }

def updateSearchRange (groups : List GroupQueueInfo) (proposal : Proposal Quality) :
    Proposal Quality :=
  let increasedSize := min ((groups.length : Int) - proposal.assigment.length)
    (performanceGroupsPerIteration - proposal.unassignedCounter)
  { proposal with
    assigment := resize proposal.assigment (proposal.assigment.length + increasedSize).toNat (-1)
    unassignedCounter := proposal.unassignedCounter + increasedSize }

/-- The better one of two, the first if they are equal. -/
def better [LinearOrder Quality] (currentBest found : Proposal Quality) : Proposal Quality :=
  if currentBest.quality < found.quality then found else currentBest

end Proposal

/-- What the two loops of `FindProposal` try: each unassigned group from an index on in each team
it can join, and in none. -/
def candidates (groups : List GroupQueueInfo) (index : Nat) (current : Proposal Quality) :
    List (Nat × Proposal Quality) :=
  (List.range' index (current.assigment.length - index)).flatMap fun place =>
    match current.assigment[place]?, groups[place]? with
    | some entry, some group =>
        if 0 ≤ entry then []
        else
          let teams := (List.range (bgTeamsCount + 1)).filter fun team =>
            !(decide (team < bgTeamsCount) && !group.canJoinBGTeam team)
          teams.map fun (team : Nat) =>
            (place, { current with assigment := current.assigment.set place (team : Int) })
    | _, _ => []

/-- Whether a candidate is not assigned further. -/
def isLeaf (depth : Nat) (candidate : Proposal Quality) : Prop :=
  depth ≤ 1 ∨ candidate.unassignedCounter = 0

instance (depth : Nat) (candidate : Proposal Quality) : Decidable (isLeaf depth candidate) :=
  inferInstanceAs (Decidable (_ ∨ _))

/-- What `FindProposal` makes of a candidate; `deeper` is its recursion. -/
def explore (quality : List Int → WithBot Quality)
    (deeper : Nat → Proposal Quality → Proposal Quality) (depth : Nat)
    (candidate : Nat × Proposal Quality) : Proposal Quality :=
  if isLeaf depth candidate.2 then
    { candidate.2 with quality := quality candidate.2.assigment }
  else deeper candidate.1 candidate.2

/-- `FindProposal` up to its recursion. -/
def searchFrom [LinearOrder Quality] (groups : List GroupQueueInfo)
    (quality : List Int → WithBot Quality)
    (deeper : Nat → Proposal Quality → Proposal Quality) (depth index : Nat)
    (current : Proposal Quality) : Proposal Quality :=
  let current := { current with unassignedCounter := current.unassignedCounter - 1 }
  (candidates groups index current).foldl
    (fun currentBest candidate => currentBest.better (explore quality deeper depth candidate))
    (.new groups)

/-- `FindProposal` with a depth and an index; `itr` is at the index. -/
def findProposal [LinearOrder Quality] (groups : List GroupQueueInfo)
    (quality : List Int → WithBot Quality) :
    Nat → Nat → Proposal Quality → Proposal Quality
  | 0 => searchFrom groups quality (fun _ candidate => candidate) 0
  | depth + 1 => searchFrom groups quality (findProposal groups quality depth) (depth + 1)

/-- The proposals whose counters `FindProposal` reads. -/
def searched (groups : List GroupQueueInfo) :
    Nat → Nat → Proposal Quality → List (Proposal Quality)
  | depth, index, current =>
      let current := { current with unassignedCounter := current.unassignedCounter - 1 }
      (candidates groups index current).flatMap fun candidate =>
        candidate.2 ::
          match depth with
          | 0 => []
          | next + 1 =>
              if isLeaf depth candidate.2 then []
              else searched groups next candidate.1 candidate.2

def searchDepth (unassignedCounter : Int) : Nat :=
  if unassignedCounter ≤ 6 then 4
  else if unassignedCounter ≤ 12 then 3
  else 2

/-- The loop of `FindProposal`, with a bound for its rounds. -/
def searchLoop [LinearOrder Quality] (groups : List GroupQueueInfo)
    (quality : List Int → WithBot Quality) :
    Nat → Proposal Quality → Proposal Quality → Option (Proposal Quality)
  | 0, _, _ => none
  | rounds + 1, current, best =>
      if 0 < current.unassignedCounter then
        let current := findProposal groups quality (searchDepth current.unassignedCounter) 0 current
        searchLoop groups quality rounds (current.updateSearchRange groups) (best.better current)
      else some best

/-- The proposals whose counters are read in some rounds of the loop. -/
def loopSearched [LinearOrder Quality] (groups : List GroupQueueInfo)
    (quality : List Int → WithBot Quality) :
    Nat → Proposal Quality → List (Proposal Quality)
  | 0, _ => []
  | rounds + 1, current =>
      current ::
        if 0 < current.unassignedCounter then
          let depth := searchDepth current.unassignedCounter
          let next := findProposal groups quality depth 0 current
          searched groups depth 0 current ++
            next :: loopSearched groups quality rounds (next.updateSearchRange groups)
        else []

end Search

/-! ## A call of the match maker -/

/-- The groups which wait for a battleground and its match maker.  The groups are pointers. -/
structure MatchRequest where
  queue : BattlegroundQueue
  battleground : Battleground
  exists_battleground :
    find Battleground.instanceId queue.battlegrounds battleground.instanceId = some battleground
  queuedGroups : List GroupId
  exists_group : ∀ id ∈ queuedGroups, (queue.group id).isSome
  maxPlayersPerTeam : Nat
  /-- The member `timestamp` before the call. -/
  timestamp : UInt32
  /-- What `getMSTime` returns. -/
  now : UInt32

namespace MatchRequest

variable (request : MatchRequest)

/-- The queue after `sort` with `QueueTimeComparator`. -/
def groups : List GroupQueueInfo :=
  (request.queuedGroups.filterMap request.queue.group).mergeSort
    fun first second => decide (first.joinTime ≤ second.joinTime)

/-- `playerCount` of `CalculateProposalQuality`. -/
def playerCount (assigment : List Int) (team : Team) : Nat :=
  (request.battleground.matchmakingData.playerData team).length +
    ((request.groups.zip assigment).map fun (group, entry) =>
      if entry = team.index then group.players.length else 0).sum

/-- The quality is minus infinity if and only if a team has no free slots for its players. -/
def IsQuality {Quality : Type} (quality : UInt32 → List Int → WithBot Quality) : Prop :=
  ∀ timestamp assigment, quality timestamp assigment = ⊥ ↔
    ∃ team, request.maxPlayersPerTeam < request.playerCount assigment team

section Quality

variable {Quality : Type} (quality : UInt32 → List Int → WithBot Quality)

/-- The first proposal; it has the quality at the old timestamp. -/
def initial : Proposal Quality :=
  let current : Proposal Quality := .new request.groups
  { current with quality := quality request.timestamp current.assigment }

/-- `FindProposal` without other arguments. -/
def findProposal [LinearOrder Quality] (rounds : Nat) : Option (Proposal Quality) :=
  searchLoop request.groups (quality request.now) rounds (request.initial quality)
    (request.initial quality)

end Quality

/-- `StartProposal` for the battleground. -/
def startProposal {Quality : Type} (surroundings : Surroundings) (best : Proposal Quality) :
    BattlegroundQueue :=
  request.queue.startProposal surroundings request.battleground.instanceId
    (request.groups.map GroupQueueInfo.id) best.assigment

/-- How many players the match maker of a battleground knows for a team. -/
def playersOf (queue : BattlegroundQueue) (instanceId : Nat) (team : Team) : Nat :=
  match find Battleground.instanceId queue.battlegrounds instanceId with
  | none => 0
  | some battleground => (battleground.matchmakingData.playerData team).length

/-- A number which a proposal may have for the group at a place. -/
def Assigns (groups : List GroupQueueInfo) (place : Nat) (entry : Int) : Prop :=
  entry = -1 ∨ entry = bgTeamsCount ∨
    ∃ team < bgTeamsCount, entry = team ∧
      ∃ group, groups[place]? = some group ∧ group.canJoinBGTeam team = true

/-- What is required of the proposal which is found. -/
structure SoundProposal {Quality : Type} [LinearOrder Quality]
    (quality : UInt32 → List Int → WithBot Quality) (best : Proposal Quality) : Prop where
  length : best.assigment.length ≤ request.groups.length
  assigns : ∀ place entry, best.assigment[place]? = some entry →
    Assigns request.groups place entry
  evaluated : best.quality = quality request.now best.assigment
  /-- It is not worse than leaving every group waiting. -/
  waiting : quality request.now (request.initial quality).assigment ≤ best.quality
  started : best.quality ≠ ⊥ → ∀ surroundings team,
    playersOf (request.startProposal surroundings best) request.battleground.instanceId team ≤
      request.maxPlayersPerTeam

/-- The search ends with a sound proposal, and its counters are right whenever they are read. -/
structure SoundSearch {Quality : Type} [LinearOrder Quality]
    (quality : UInt32 → List Int → WithBot Quality) : Prop where
  counters : ∀ rounds, ∀ proposal ∈
    loopSearched request.groups (quality request.now) rounds (request.initial quality),
      proposal.unassignedCounter = proposal.assigment.count (-1)
  ends : ∃ rounds best, request.findProposal quality rounds = some best ∧
    request.SoundProposal quality best

end MatchRequest

end RealmServer.Battlegrounds
