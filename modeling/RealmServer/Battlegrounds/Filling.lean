import RealmServer.Battlegrounds.Pairing

/-!
# Filling a running match

`FillPlayersToBG` selects groups for both teams of a match that has started.
With the invitation type `even` it then kicks groups until the teams are about
equally full.  Each turn of this loop gives up a group for good, because the
position in the list of a team never moves back.
-/

namespace RealmServer.Battlegrounds.Filling

/-! ## Integers of the source -/

/-- The value of an `int32`. -/
def int32 (value : Int) : Int := value.bmod (2 ^ 32)

/-- The value of a `uint32`. -/
def uint32 (value : Int) : Nat := (value % 2 ^ 32).toNat

theorem int32_of_small {value : Int} (lower : -2 ^ 31 ≤ value) (upper : value < 2 ^ 31) :
    int32 value = value :=
  Int.bmod_eq_of_le (by omega) (by omega)

theorem uint32_of_small {value : Int} (lower : 0 ≤ value) (upper : value < 2 ^ 32) :
    (uint32 value : Int) = value := by
  unfold uint32
  rw [Int.emod_eq_of_lt lower upper]
  exact Int.toNat_of_nonneg lower

@[simp]
theorem uint32_natCast {count : Nat} (small : count < 2 ^ 32) : uint32 count = count := by
  have same : (uint32 count : Int) = count := uint32_of_small (by omega) (by omega)
  exact_mod_cast same

/-! ## Free slots -/

inductive BattlegroundStatus where
  | none
  | waitQueue
  | waitJoin
  | inProgress
  | waitLeave
deriving DecidableEq, Repr

/-- A battleground with what `GetFreeSlotsForTeam` reads of it. -/
structure Match extends Battleground where
  status : BattlegroundStatus
  /-- `m_PlayersCount`. -/
  playersCount : Team → UInt32
  /-- The limits of the template have 16 bits. -/
  maxPlayersPerTeam : UInt16
  minPlayersPerTeam : UInt16

namespace Match

def getInvitedCount (bg : Match) : Team → UInt32
  | .alliance => bg.invitedAlliance
  | .horde => bg.invitedHorde

/-- How many players the team has less than its limit. -/
def belowMaximum (bg : Match) (team : Team) : UInt32 :=
  if bg.getInvitedCount team < bg.maxPlayersPerTeam.toUInt32 then
    bg.maxPlayersPerTeam.toUInt32 - bg.getInvitedCount team
  else 0

/-- `GetFreeSlotsForTeam` -/
def getFreeSlotsForTeam (bg : Match) (team : Team) : UInt32 :=
  match bg.status with
  | .waitJoin => bg.belowMaximum team
  | .inProgress =>
      let otherTeam := bg.getInvitedCount team.other
      let otherIn := bg.playersCount team.other
      -- difference based on ppl invited (not necessarily entered battle)
      let diff : UInt32 :=
        if otherTeam = bg.getInvitedCount team then 1
        else if bg.getInvitedCount team < otherTeam then otherTeam - bg.getInvitedCount team
        else 0
      let diff2 := bg.belowMaximum team
      -- difference based on players who already entered
      let diff3 : UInt32 :=
        if otherIn = bg.playersCount team then 1
        else if bg.playersCount team < otherIn then otherIn - bg.playersCount team
        else if bg.getInvitedCount team ≤ bg.minPlayersPerTeam.toUInt32 then
          bg.minPlayersPerTeam.toUInt32 - bg.getInvitedCount team + 1
        else 0
      min (min diff diff2) diff3
  | _ => 0

theorem belowMaximum_le (bg : Match) (team : Team) :
    (bg.belowMaximum team).toNat ≤ bg.maxPlayersPerTeam.toNat := by
  unfold belowMaximum
  split_ifs with below
  · rw [UInt32.toNat_sub_of_le _ _ (UInt32.le_of_lt below), UInt16.toNat_toUInt32]
    exact Nat.sub_le _ _
  · exact Nat.zero_le _

theorem getFreeSlotsForTeam_le (bg : Match) (team : Team) :
    (bg.getFreeSlotsForTeam team).toNat ≤ bg.maxPlayersPerTeam.toNat := by
  unfold getFreeSlotsForTeam
  split
  · exact bg.belowMaximum_le team
  · dsimp only
    apply le_trans _ (bg.belowMaximum_le team)
    exact UInt32.le_iff_toNat_le.mp (UInt32.le_trans Std.min_le_left Std.min_le_right)
  · exact Nat.zero_le _

theorem getFreeSlotsForTeam_lt (bg : Match) (team : Team) :
    (bg.getFreeSlotsForTeam team).toNat < 2 ^ 16 :=
  (bg.getFreeSlotsForTeam_le team).trans_lt bg.maxPlayersPerTeam.toNat_lt

end Match

/-! ## Selection pools -/

/-- A pool with the groups it points to, as `KickGroup` asks for their sizes. -/
structure SelectionPool where
  selectedGroups : List GroupQueueInfo
  playerCount : Nat
deriving DecidableEq

namespace SelectionPool

def init : SelectionPool := ⟨[], 0⟩

/-- `SelectionPool::AddGroup`. -/
def addGroup (pool : SelectionPool) (ginfo : GroupQueueInfo) (desiredCount : Nat) :
    Bool × SelectionPool :=
  if !ginfo.isInvited && pool.playerCount + ginfo.players.length ≤ desiredCount then
    (true, ⟨pool.selectedGroups ++ [ginfo], uint32 (pool.playerCount + ginfo.players.length)⟩)
  else (pool.playerCount < desiredCount, pool)

/-- `groupToKick` in the loop of `KickGroup`: where it is, and how large the group is. -/
structure Choice where
  found : Bool
  index : Nat
  size : Nat

/-- One turn of the loop, with a group and its index. -/
def Choice.consider (size : Nat) (choice : Choice) (entry : GroupQueueInfo × Nat) : Choice :=
  let length := entry.1.players.length
  if (int32 (length - size)).natAbs ≤ 1 then ⟨true, entry.2, length⟩
  else if !choice.found && choice.size ≤ length then ⟨choice.found, entry.2, length⟩
  else choice

/-- The index of the last group of about this size, or else of the greatest group. -/
def groupToKick (groups : List GroupQueueInfo) (size : Nat) : Nat :=
  let first := (groups.head?.map fun ginfo => ginfo.players.length).getD 0
  (groups.zipIdx.foldl (Choice.consider size) ⟨false, 0, first⟩).index

/-- `SelectionPool::KickGroup`. -/
def kickGroup (pool : SelectionPool) (size : Nat) : Bool × SelectionPool :=
  -- if pool is empty, do nothing
  if pool.playerCount = 0 then (true, pool)
  else
    match pool.selectedGroups[groupToKick pool.selectedGroups size]? with
    | none => (true, pool)
    | some ginfo =>
        -- there is no more to do if we kicked a smaller group
        (!(ginfo.players.length ≤ uint32 (size + 1)),
          ⟨pool.selectedGroups.eraseIdx (groupToKick pool.selectedGroups size),
            uint32 (pool.playerCount - ginfo.players.length)⟩)

end SelectionPool

/-! ## `FillPlayersToBG` -/

/-- A pool and the groups of the list from the iterator on. -/
structure Side where
  pool : SelectionPool
  waiting : List GroupQueueInfo

namespace Side

/-- The loop that moves the iterator as long as the pool takes more. -/
def addGroups (desiredCount : Nat) (pool : SelectionPool) : List GroupQueueInfo → Side
  | [] => ⟨pool, []⟩
  | ginfo :: rest =>
      let (more, pool) := pool.addGroup ginfo desiredCount
      if more then addGroups desiredCount pool rest else ⟨pool, ginfo :: rest⟩

/-- The first selection, from the groups which the 32-bit count of the list covers. -/
def select (free : Int) (groups : List GroupQueueInfo) : Side :=
  addGroups (uint32 free) .init (groups.take (uint32 groups.length))

/-- A group is kicked, and others are added if needed. -/
def replaceGroup (side : Side) (free diffOther : Int) (size : Nat) : Side :=
  let (more, pool) := side.pool.kickGroup size
  if more then
    addGroups (uint32 (if diffOther ≤ free then int32 (free - diffOther) else 0)) pool side.waiting
  else ⟨pool, side.waiting⟩

/-- `diffAli` or `diffHorde`. -/
def diff (side : Side) (free : Int) : Int :=
  int32 (free - int32 side.pool.playerCount)

end Side

/-- What a turn of the loop leaves of the team it is about and of the other one. -/
structure Turn where
  own : Side
  other : Side
  /-- It ended with `break`. -/
  stopped : Bool

/-- A turn for the team that has less room left: `Ali` in the first branch of the loop. -/
def turn (ownFree diffOwn diffOther : Int) (own other : Side) : Turn :=
  let size := uint32 (int32 (diffOther - diffOwn))
  let own := own.replaceGroup ownFree diffOther size
  -- if the selection is already empty, then kick a group of the other team
  if own.pool.playerCount = 0 then
    if ownFree ≤ int32 (diffOther + 1) then ⟨own, other, true⟩
    else ⟨own, ⟨(other.pool.kickGroup size).2, other.waiting⟩, false⟩
  else ⟨own, other, false⟩

/-- `m_SelectionPools`. -/
structure Pools where
  alliance : SelectionPool
  horde : SelectionPool
deriving DecidableEq

def Pools.pool (pools : Pools) : Team → SelectionPool
  | .alliance => pools.alliance
  | .horde => pools.horde

/-- The `while` loop, with a bound for its turns. -/
def evenOut (aliFree hordeFree : Int) : Nat → Side → Side → Option Pools
  | 0, _, _ => none
  | turns + 1, ali, horde =>
      let diffAli := ali.diff aliFree
      let diffHorde := horde.diff hordeFree
      if 1 < (int32 (diffAli - diffHorde)).natAbs ∧
          (0 < horde.pool.playerCount ∨ 0 < ali.pool.playerCount) then
        if diffAli < diffHorde then
          let next := turn aliFree diffAli diffHorde ali horde
          if next.stopped then some ⟨next.own.pool, next.other.pool⟩
          else evenOut aliFree hordeFree turns next.own next.other
        else
          let next := turn hordeFree diffHorde diffAli horde ali
          if next.stopped then some ⟨next.other.pool, next.own.pool⟩
          else evenOut aliFree hordeFree turns next.other next.own
      else some ⟨ali.pool, horde.pool⟩

/-- `FillPlayersToBG` with the lists of the bracket, for two pools which were cleared before. -/
def fillPlayersToBG (turns : Nat) (bg : Match) (invitationType : UInt32)
    (queuedGroups : Team → List GroupQueueInfo) : Option Pools :=
  let hordeFree := int32 (bg.getFreeSlotsForTeam .horde).toNat
  let aliFree := int32 (bg.getFreeSlotsForTeam .alliance).toNat
  let ali := Side.select aliFree (queuedGroups .alliance)
  let horde := Side.select hordeFree (queuedGroups .horde)
  if invitationType = 0 then some ⟨ali.pool, horde.pool⟩
  else evenOut aliFree hordeFree turns ali horde

/-! ## What a pool has selected -/

def playersOf (groups : List GroupQueueInfo) : Nat :=
  (groups.map fun ginfo => ginfo.players.length).sum

/-- A pool for a team with free slots, with groups of a list. -/
structure SelectionPool.Filled (free : Nat) (groups : List GroupQueueInfo)
    (pool : SelectionPool) : Prop where
  counted : pool.playerCount = playersOf pool.selectedGroups
  within : pool.playerCount ≤ free
  uninvited : ∀ ginfo ∈ pool.selectedGroups, ginfo.isInvited = false
  /-- In the order of the list and each at most once. -/
  chosen : pool.selectedGroups.Sublist groups

namespace SelectionPool

theorem filled_init (free : Nat) : init.Filled free [] :=
  ⟨rfl, Nat.zero_le free, fun _ none => absurd none List.not_mem_nil, List.Sublist.refl []⟩

theorem Filled.mono {free : Nat} {groups more : List GroupQueueInfo} {pool : SelectionPool}
    (filled : pool.Filled free groups) (sublist : groups.Sublist more) : pool.Filled free more :=
  { filled with chosen := filled.chosen.trans sublist }

theorem Filled.addGroup {free : Nat} {groups : List GroupQueueInfo} {pool : SelectionPool}
    (filled : pool.Filled free groups) (small : free < 2 ^ 16) (ginfo : GroupQueueInfo)
    {desiredCount : Nat} (desired : desiredCount ≤ free) :
    (pool.addGroup ginfo desiredCount).2.Filled free (groups ++ [ginfo]) := by
  unfold SelectionPool.addGroup
  split_ifs with fits
  · rw [Bool.and_eq_true, Bool.not_eq_true', decide_eq_true_eq] at fits
    obtain ⟨uninvited, fits⟩ := fits
    have same : uint32 (pool.playerCount + ginfo.players.length) =
        pool.playerCount + ginfo.players.length := by
      exact_mod_cast uint32_natCast (show pool.playerCount + ginfo.players.length < 2 ^ 32 by omega)
    refine ⟨?_, ?_, ?_, filled.chosen.append_right [ginfo]⟩
    · dsimp only
      rw [same, filled.counted]
      simp [playersOf]
    · dsimp only
      rw [same]
      exact fits.trans desired
    · intro other member
      rcases List.mem_append.mp member with old | new
      · exact filled.uninvited other old
      · rw [List.mem_singleton.mp new]
        exact uninvited
  · exact filled.mono (List.sublist_append_left groups [ginfo])

theorem length_addGroup_le (pool : SelectionPool) (ginfo : GroupQueueInfo) (desiredCount : Nat) :
    (pool.addGroup ginfo desiredCount).2.selectedGroups.length ≤
      pool.selectedGroups.length + 1 := by
  unfold addGroup
  split_ifs
  · rw [List.length_append, List.length_singleton]
  · exact Nat.le_succ _

/-- A refused group leaves the pool as it is. -/
theorem addGroup_of_refused {pool : SelectionPool} {ginfo : GroupQueueInfo} {desiredCount : Nat}
    (refused : (pool.addGroup ginfo desiredCount).1 = false) :
    (pool.addGroup ginfo desiredCount).2 = pool := by
  unfold addGroup at refused ⊢
  split_ifs at refused ⊢ with fits
  rfl

/-! ### The group to kick -/

theorem index_foldl_consider (size : Nat) {bound : Nat} (entries : List (GroupQueueInfo × Nat))
    (inside : ∀ entry ∈ entries, entry.2 < bound) (choice : Choice)
    (start : choice.index < bound) :
    (entries.foldl (Choice.consider size) choice).index < bound := by
  induction entries generalizing choice with
  | nil => exact start
  | cons entry rest induction =>
      rw [List.foldl_cons]
      apply induction (fun other member => inside other (List.mem_cons_of_mem _ member))
      have here := inside entry List.mem_cons_self
      unfold Choice.consider
      dsimp only
      split_ifs
      · exact here
      · exact here
      · exact start

theorem groupToKick_lt {groups : List GroupQueueInfo} (some : groups ≠ []) (size : Nat) :
    groupToKick groups size < groups.length := by
  apply index_foldl_consider
  · rintro ⟨ginfo, index⟩ member
    exact List.snd_lt_of_mem_zipIdx member
  · exact List.length_pos_of_ne_nil some

/-- Without players nothing is kicked. -/
theorem kickGroup_of_empty {pool : SelectionPool} (empty : pool.playerCount = 0) (size : Nat) :
    pool.kickGroup size = (true, pool) :=
  if_pos empty

theorem kickGroup_of_players {free : Nat} {groups : List GroupQueueInfo} {pool : SelectionPool}
    (filled : pool.Filled free groups) (small : free < 2 ^ 16) (players : pool.playerCount ≠ 0)
    (size : Nat) :
    ∃ index, index < pool.selectedGroups.length ∧ ∃ more, pool.kickGroup size =
      (more, ⟨pool.selectedGroups.eraseIdx index,
        playersOf (pool.selectedGroups.eraseIdx index)⟩) := by
  have some : pool.selectedGroups ≠ [] := by
    intro none
    rw [filled.counted, none] at players
    exact players rfl
  have inside := groupToKick_lt some size
  unfold kickGroup
  rw [if_neg players, List.getElem?_eq_getElem inside]
  generalize groupToKick pool.selectedGroups size = index at inside
  have sum : playersOf (pool.selectedGroups.eraseIdx index) +
      pool.selectedGroups[index].players.length = pool.playerCount := by
    have permuted := (List.getElem_cons_eraseIdx_perm inside).map fun ginfo =>
      ginfo.players.length
    rw [filled.counted, Nat.add_comm]
    exact permuted.sum_nat
  have fewer := filled.within
  have same : uint32 (pool.playerCount - pool.selectedGroups[index].players.length) =
      playersOf (pool.selectedGroups.eraseIdx index) := by
    rw [← uint32_natCast (show playersOf (pool.selectedGroups.eraseIdx index) < 2 ^ 32 by omega),
      ← sum]
    congr 1
    push_cast
    exact Int.add_sub_cancel _ _
  exact ⟨index, inside, _, by dsimp only; rw [same]⟩

theorem Filled.kickGroup {free : Nat} {groups : List GroupQueueInfo} {pool : SelectionPool}
    (filled : pool.Filled free groups) (small : free < 2 ^ 16) (size : Nat) :
    (pool.kickGroup size).2.Filled free groups := by
  by_cases players : pool.playerCount = 0
  · rw [kickGroup_of_empty players]
    exact filled
  · obtain ⟨index, -, more, kicked⟩ := kickGroup_of_players filled small players size
    have fewer := List.eraseIdx_sublist pool.selectedGroups index
    rw [kicked]
    refine ⟨rfl, ?_, ?_, fewer.trans filled.chosen⟩
    · apply le_trans _ filled.within
      rw [filled.counted]
      exact (fewer.map _).sum_le_sum fun _ _ => Nat.zero_le _
    · intro ginfo member
      exact filled.uninvited ginfo (fewer.subset member)

theorem length_kickGroup_lt {free : Nat} {groups : List GroupQueueInfo} {pool : SelectionPool}
    (filled : pool.Filled free groups) (small : free < 2 ^ 16) (players : pool.playerCount ≠ 0)
    (size : Nat) :
    (pool.kickGroup size).2.selectedGroups.length < pool.selectedGroups.length := by
  obtain ⟨index, inside, more, kicked⟩ := kickGroup_of_players filled small players size
  rw [kicked, List.length_eraseIdx_of_lt inside]
  exact Nat.sub_lt (Nat.zero_lt_of_lt inside) Nat.one_pos

theorem length_kickGroup_le {free : Nat} {groups : List GroupQueueInfo} {pool : SelectionPool}
    (filled : pool.Filled free groups) (small : free < 2 ^ 16) (size : Nat) :
    (pool.kickGroup size).2.selectedGroups.length ≤ pool.selectedGroups.length := by
  by_cases players : pool.playerCount = 0
  · rw [kickGroup_of_empty players]
  · exact (length_kickGroup_lt filled small players size).le

end SelectionPool

/-! ## One side -/

/-- The groups before the iterator, from which the pool is selected. -/
structure Side.Sound (free : Nat) (groups : List GroupQueueInfo) (side : Side) : Prop where
  small : free < 2 ^ 16
  selected : ∃ taken, taken ++ side.waiting = groups ∧ side.pool.Filled free taken

namespace Side

/-- The groups that the loop can still add or kick. -/
def left (side : Side) : Nat :=
  side.pool.selectedGroups.length + side.waiting.length

variable {free : Nat} {groups : List GroupQueueInfo}

theorem Sound.filled {side : Side} (sound : side.Sound free groups) :
    side.pool.Filled free groups := by
  obtain ⟨taken, rfl, filled⟩ := sound.selected
  exact filled.mono (List.sublist_append_left taken side.waiting)

theorem Sound.addGroups {pool : SelectionPool} {waiting : List GroupQueueInfo}
    (sound : Sound free groups ⟨pool, waiting⟩) {desiredCount : Nat}
    (desired : desiredCount ≤ free) :
    (Side.addGroups desiredCount pool waiting).Sound free groups ∧
      (Side.addGroups desiredCount pool waiting).left ≤ left ⟨pool, waiting⟩ := by
  induction waiting generalizing pool with
  | nil => exact ⟨sound, le_refl _⟩
  | cons ginfo rest induction =>
      unfold Side.addGroups
      dsimp only
      split_ifs with more
      · have next : Sound free groups ⟨(pool.addGroup ginfo desiredCount).2, rest⟩ := by
          obtain ⟨taken, rfl, filled⟩ := sound.selected
          exact ⟨sound.small, taken ++ [ginfo], by simp,
            filled.addGroup sound.small ginfo desired⟩
        have bound := pool.length_addGroup_le ginfo desiredCount
        obtain ⟨after, fewer⟩ := induction next
        refine ⟨after, fewer.trans ?_⟩
        simp only [left, List.length_cons]
        omega
      · rw [SelectionPool.addGroup_of_refused (Bool.eq_false_iff.mpr more)]
        exact ⟨sound, le_refl _⟩

theorem Sound.kickGroup {side : Side} (sound : side.Sound free groups) (size : Nat) :
    Sound free groups ⟨(side.pool.kickGroup size).2, side.waiting⟩ := by
  obtain ⟨taken, rfl, filled⟩ := sound.selected
  exact ⟨sound.small, taken, rfl, filled.kickGroup sound.small size⟩

/-- A pool without players gets none if none are desired. -/
theorem addGroups_zero {pool : SelectionPool} (empty : pool.playerCount = 0)
    (waiting : List GroupQueueInfo) : (addGroups 0 pool waiting).pool.playerCount = 0 := by
  induction waiting generalizing pool with
  | nil => exact empty
  | cons ginfo rest induction =>
      have next : (pool.addGroup ginfo 0).2.playerCount = 0 := by
        unfold SelectionPool.addGroup
        split_ifs with fits
        · simp only [Bool.and_eq_true, decide_eq_true_eq, Nat.le_zero] at fits
          dsimp only
          exact_mod_cast congrArg uint32 (congrArg Int.ofNat fits.2)
        · exact empty
      unfold addGroups
      dsimp only
      split_ifs
      · exact induction next
      · exact next

/-- The first selection, out of the whole list. -/
theorem sound_select (small : free < 2 ^ 16) (groups : List GroupQueueInfo) :
    (select free groups).Sound free (groups.take (uint32 groups.length)) ∧
      (select free groups).left ≤ groups.length := by
  have start : Sound free (groups.take (uint32 groups.length))
      ⟨.init, groups.take (uint32 groups.length)⟩ :=
    ⟨small, [], rfl, SelectionPool.filled_init free⟩
  have desired : uint32 free ≤ free := (uint32_natCast (by omega)).le
  obtain ⟨sound, fewer⟩ := start.addGroups desired
  refine ⟨sound, fewer.trans ?_⟩
  simp only [left, SelectionPool.init, List.length_nil, Nat.zero_add]
  exact List.length_take_le' _ _

theorem Sound.diff {side : Side} (sound : side.Sound free groups) :
    side.diff free = free - side.pool.playerCount := by
  have small := sound.small
  have within := sound.filled.within
  unfold Side.diff
  have count : int32 side.pool.playerCount = side.pool.playerCount :=
    int32_of_small (by omega) (by omega)
  rw [count]
  exact int32_of_small (by omega) (by omega)

/-- The room after the difference for the other team. -/
theorem desired_le {free : Nat} (small : free < 2 ^ 16) {diffOther : Int} (room : 0 ≤ diffOther) :
    uint32 (if diffOther ≤ (free : Int) then int32 (free - diffOther) else 0) ≤ free := by
  split_ifs with fits
  · rw [int32_of_small (by omega) (by omega)]
    have same := uint32_of_small (show 0 ≤ (free : Int) - diffOther by omega) (by omega)
    omega
  · exact Nat.zero_le free

theorem Sound.replaceGroup {side : Side} (sound : side.Sound free groups) {diffOther : Int}
    (room : 0 ≤ diffOther) (size : Nat) :
    (side.replaceGroup free diffOther size).Sound free groups ∧
      (side.replaceGroup free diffOther size).left ≤
        left ⟨(side.pool.kickGroup size).2, side.waiting⟩ := by
  have kicked := sound.kickGroup size
  have desired := desired_le sound.small room
  unfold Side.replaceGroup
  dsimp only
  split
  · exact kicked.addGroups desired
  · exact ⟨kicked, le_refl _⟩

/-- A team without players and with less room gets none. -/
theorem replaceGroup_of_empty {side : Side} (empty : side.pool.playerCount = 0)
    {free diffOther : Int} (less : free < diffOther) (size : Nat) :
    (side.replaceGroup free diffOther size).pool.playerCount = 0 := by
  unfold replaceGroup
  rw [SelectionPool.kickGroup_of_empty empty, if_neg (not_le.mpr less)]
  exact addGroups_zero empty side.waiting

theorem Sound.left_kickGroup_lt {side : Side} (sound : side.Sound free groups)
    (players : side.pool.playerCount ≠ 0) (size : Nat) :
    left ⟨(side.pool.kickGroup size).2, side.waiting⟩ < side.left :=
  Nat.add_lt_add_right
    (SelectionPool.length_kickGroup_lt sound.filled sound.small players size) _

theorem Sound.left_kickGroup_le {side : Side} (sound : side.Sound free groups) (size : Nat) :
    left ⟨(side.pool.kickGroup size).2, side.waiting⟩ ≤ side.left :=
  Nat.add_le_add_right (SelectionPool.length_kickGroup_le sound.filled sound.small size) _

end Side

/-! ## One turn -/

section Turns

variable {ownFree otherFree : Nat} {ownGroups otherGroups : List GroupQueueInfo}

/-- What is known after a turn. -/
structure Turn.Sound (ownFree otherFree : Nat) (ownGroups otherGroups : List GroupQueueInfo)
    (before : Nat) (turn : Turn) : Prop where
  own : turn.own.Sound ownFree ownGroups
  other : turn.other.Sound otherFree otherGroups
  /-- The loop is left when there is nobody to balance with. -/
  stopped : turn.stopped = true → turn.own.pool.playerCount = 0
  /-- Otherwise a group is gone. -/
  progress : turn.stopped = false → turn.own.left + turn.other.left < before

theorem sound_turn {own other : Side} (ownSound : own.Sound ownFree ownGroups)
    (otherSound : other.Sound otherFree otherGroups) {diffOwn diffOther : Int}
    (ownDiff : diffOwn = ownFree - own.pool.playerCount)
    (otherDiff : diffOther = otherFree - other.pool.playerCount)
    (less : diffOwn + 1 < diffOther) :
    (turn ownFree diffOwn diffOther own other).Sound
      ownFree otherFree ownGroups otherGroups (own.left + other.left) := by
  have ownSmall := ownSound.small
  have otherSmall := otherSound.small
  have ownWithin := ownSound.filled.within
  have otherWithin := otherSound.filled.within
  have room : 0 ≤ diffOther := by omega
  have next : int32 (diffOther + 1) = diffOther + 1 := int32_of_small (by omega) (by omega)
  unfold turn
  dsimp only
  rw [next]
  generalize uint32 _ = size
  obtain ⟨ownNext, ownLeft⟩ := ownSound.replaceGroup room size
  have otherNext := otherSound.kickGroup size
  have otherLeft := otherSound.left_kickGroup_le size
  -- the first pool has lost a group unless it was empty
  have kicked : own.pool.playerCount ≠ 0 →
      (own.replaceGroup ownFree diffOther size).left < own.left :=
    fun players => ownLeft.trans_lt (ownSound.left_kickGroup_lt players size)
  by_cases empty : own.pool.playerCount = 0
  · have still := Side.replaceGroup_of_empty empty
      (show (ownFree : Int) < diffOther by omega) size
    rw [if_pos still, if_pos (by omega)]
    exact ⟨ownNext, otherSound, fun _ => still, nofun⟩
  · have fewer := kicked empty
    split_ifs with none stop
    · exact ⟨ownNext, otherSound, fun _ => none, nofun⟩
    · exact ⟨ownNext, otherNext, nofun, fun _ => by
        dsimp only
        omega⟩
    · exact ⟨ownNext, otherSound, nofun, fun _ => by
        dsimp only
        omega⟩

end Turns

/-! ## The whole loop -/

/-- How the loop is left: the differences are close, or a pool is without players. -/
def Pools.Even (pools : Pools) (aliFree hordeFree : Nat) : Prop :=
  (((aliFree : Int) - pools.alliance.playerCount) -
      (hordeFree - pools.horde.playerCount)).natAbs ≤ 1 ∨
    ∃ team, (pools.pool team).playerCount = 0

theorem evenOut_ends {aliFree hordeFree : Nat} {aliGroups hordeGroups : List GroupQueueInfo}
    {ali horde : Side} (aliSound : ali.Sound aliFree aliGroups)
    (hordeSound : horde.Sound hordeFree hordeGroups) {turns : Nat}
    (enough : ali.left + horde.left < turns) :
    ∃ pools, evenOut aliFree hordeFree turns ali horde = some pools ∧
      pools.alliance.Filled aliFree aliGroups ∧ pools.horde.Filled hordeFree hordeGroups ∧
      pools.Even aliFree hordeFree := by
  induction turns generalizing ali horde with
  | zero => exact absurd enough (Nat.not_lt_zero _)
  | succ turns induction =>
      have aliSmall := aliSound.small
      have hordeSmall := hordeSound.small
      have aliWithin := aliSound.filled.within
      have hordeWithin := hordeSound.filled.within
      have aliDiff := aliSound.diff
      have hordeDiff := hordeSound.diff
      unfold evenOut
      dsimp only
      generalize ali.diff aliFree = diffAli at aliDiff ⊢
      generalize horde.diff hordeFree = diffHorde at hordeDiff ⊢
      rw [int32_of_small (show -2 ^ 31 ≤ diffAli - diffHorde by omega) (by omega)]
      split_ifs with uneven less stopped stopped
      · have next := sound_turn aliSound hordeSound aliDiff hordeDiff (by omega)
        exact ⟨_, rfl, next.own.filled, next.other.filled, .inr ⟨.alliance, next.stopped stopped⟩⟩
      · have next := sound_turn aliSound hordeSound aliDiff hordeDiff (by omega)
        have progress := next.progress (Bool.eq_false_iff.mpr stopped)
        exact induction next.own next.other (by omega)
      · have next := sound_turn hordeSound aliSound hordeDiff aliDiff (by omega)
        exact ⟨_, rfl, next.other.filled, next.own.filled, .inr ⟨.horde, next.stopped stopped⟩⟩
      · have next := sound_turn hordeSound aliSound hordeDiff aliDiff (by omega)
        have progress := next.progress (Bool.eq_false_iff.mpr stopped)
        exact induction next.other next.own (by omega)
      · refine ⟨_, rfl, aliSound.filled, hordeSound.filled, ?_⟩
        rw [not_and_or] at uneven
        rcases uneven with close | empty
        · left
          dsimp only
          omega
        · exact .inr ⟨.alliance, by
            dsimp only [Pools.pool]
            omega⟩

/-- More turns make no difference. -/
theorem evenOut_of_le {aliFree hordeFree : Int} {turns more : Nat} (atLeast : turns ≤ more)
    {ali horde : Side} {pools : Pools}
    (ended : evenOut aliFree hordeFree turns ali horde = some pools) :
    evenOut aliFree hordeFree more ali horde = some pools := by
  induction turns generalizing more ali horde with
  | zero => exact nomatch ended
  | succ turns induction =>
      cases more with
      | zero => exact absurd atLeast (Nat.not_succ_le_zero turns)
      | succ more =>
          have fewer := Nat.le_of_succ_le_succ atLeast
          unfold evenOut at ended ⊢
          dsimp only at ended ⊢
          split_ifs at ended ⊢
          · exact ended
          · exact induction fewer ended
          · exact ended
          · exact induction fewer ended
          · exact ended

namespace SelectionPool

variable {free : Nat} {groups : List GroupQueueInfo} {pool : SelectionPool}

theorem Filled.distinct (filled : pool.Filled free groups)
    (unique : (groups.map GroupQueueInfo.id).Nodup) :
    (pool.selectedGroups.map GroupQueueInfo.id).Nodup :=
  (filled.chosen.map GroupQueueInfo.id).nodup unique

end SelectionPool

/-- The loop ends, with pools that are filled and even. -/
theorem fillPlayersToBG_ends (bg : Match) (invitationType : UInt32)
    (queuedGroups : Team → List GroupQueueInfo) :
    ∃ pools : Pools,
      (∀ turns, (queuedGroups .alliance).length + (queuedGroups .horde).length < turns →
        fillPlayersToBG turns bg invitationType queuedGroups = some pools) ∧
      (∀ team, (pools.pool team).Filled (bg.getFreeSlotsForTeam team).toNat
        (queuedGroups team)) ∧
      (invitationType ≠ 0 → pools.Even (bg.getFreeSlotsForTeam .alliance).toNat
        (bg.getFreeSlotsForTeam .horde).toNat) := by
  have small := bg.getFreeSlotsForTeam_lt
  have same : ∀ team, int32 (bg.getFreeSlotsForTeam team).toNat =
      (bg.getFreeSlotsForTeam team).toNat := by
    intro team
    have bound := small team
    exact int32_of_small (by omega) (by omega)
  have selected := fun team => Side.sound_select (small team) (queuedGroups team)
  have whole := fun team => List.take_sublist (uint32 (queuedGroups team).length)
    (queuedGroups team)
  unfold fillPlayersToBG
  rw [same, same]
  by_cases any : invitationType = 0
  · refine ⟨_, fun _ _ => if_pos any, ?_, fun even => absurd any even⟩
    rintro (_ | _)
    · exact (selected .alliance).1.filled.mono (whole .alliance)
    · exact (selected .horde).1.filled.mono (whole .horde)
  · obtain ⟨pools, ended, alliance, horde, even⟩ :=
      evenOut_ends (selected .alliance).1 (selected .horde).1 (Nat.lt_succ_self _)
    refine ⟨pools, ?_, ?_, fun _ => even⟩
    · intro turns enough
      dsimp only
      rw [if_neg any]
      apply evenOut_of_le _ ended
      have aliLeft := (selected .alliance).2
      have hordeLeft := (selected .horde).2
      omega
    · rintro (_ | _)
      · exact alliance.mono (whole .alliance)
      · exact horde.mono (whole .horde)

/-- Both pools are within the free slots, and even if that is asked for. -/
theorem fillPlayersToBG_fills (bg : Match) (invitationType : UInt32)
    (queuedGroups : Team → List GroupQueueInfo) :
    ∃ pools : Pools,
      (∀ turns, (queuedGroups .alliance).length + (queuedGroups .horde).length < turns →
        fillPlayersToBG turns bg invitationType queuedGroups = some pools) ∧
      (∀ team, (pools.pool team).Filled (bg.getFreeSlotsForTeam team).toNat
        (queuedGroups team)) ∧
      (∀ team, ((queuedGroups team).map GroupQueueInfo.id).Nodup →
        ((pools.pool team).selectedGroups.map GroupQueueInfo.id).Nodup) ∧
      (invitationType ≠ 0 → pools.Even (bg.getFreeSlotsForTeam .alliance).toNat
        (bg.getFreeSlotsForTeam .horde).toNat) := by
  obtain ⟨pools, ended, filled, even⟩ := fillPlayersToBG_ends bg invitationType queuedGroups
  exact ⟨pools, ended, filled, fun team => (filled team).distinct, even⟩

end RealmServer.Battlegrounds.Filling
