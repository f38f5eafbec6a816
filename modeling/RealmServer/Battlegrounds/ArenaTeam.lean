import RealmServer.Groups.Group

/-!
# Ratings of arena teams

A rated queue takes the average, the highest or the lowest matchmaker rating of
the members of an arena team who are in the group.  The lowest one starts its
search from 0, and the average counts also members who are connected but not in
the world.
-/

namespace RealmServer.Battlegrounds

open Groups

structure ArenaTeamMember where
  guid : Groups.ObjectGuid
  matchMakerRating : UInt16
deriving DecidableEq, Repr

structure ArenaTeam where
  members : List ArenaTeamMember

/-- A player whom `ObjectAccessor` knows. -/
structure ConnectedPlayer where
  isInWorld : Bool
deriving DecidableEq, Repr

/-- `ObjectAccessor`, with `HashMapHolder<Player>`. -/
structure ObjectAccessor where
  players : Groups.ObjectGuid → Option ConnectedPlayer

namespace ObjectAccessor

def findConnectedPlayer (accessor : ObjectAccessor) (guid : Groups.ObjectGuid) :
    Option ConnectedPlayer :=
  accessor.players guid

def findPlayer (accessor : ObjectAccessor) (guid : Groups.ObjectGuid) : Option ConnectedPlayer :=
  match accessor.findConnectedPlayer guid with
  | some player => if player.isInWorld then some player else none
  | none => none

end ObjectAccessor

namespace ArenaTeam

variable (accessor : ObjectAccessor) (team : ArenaTeam)

/-! ## The three aggregates -/

/-- `std::max` -/
def larger (first second : UInt32) : UInt32 := if first < second then second else first

/-- `std::min` -/
def smaller (first second : UInt32) : UInt32 := if second < first then second else first

/-- The body of the loop: `matchMakerRating` and `playerDivider`. -/
def addRating (group : Group) (totals : UInt32 × UInt32) (member : ArenaTeamMember) :
    UInt32 × UInt32 :=
  if (accessor.findConnectedPlayer member.guid).isNone then totals
  else if !group.isMember member.guid then totals
  else (totals.1 + member.matchMakerRating.toUInt32, totals.2 + 1)

def getAverageMMR : Option Group → UInt32
  | none => 0
  | some group =>
      let totals := team.members.foldl (addRating accessor group) (0, 0)
      let playerDivider := if totals.2 = 0 then 1 else totals.2
      totals.1 / playerDivider

def getMaxMMR : Option Group → UInt32
  | none => 0
  | some group =>
      team.members.foldl (fun value member =>
        if (accessor.findPlayer member.guid).isNone then value
        else if !group.isMember member.guid then value
        else larger value member.matchMakerRating.toUInt32) 0

def getMinMMR : Option Group → UInt32
  | none => 0
  | some group =>
      team.members.foldl (fun value member =>
        if (accessor.findPlayer member.guid).isNone then value
        else if !group.isMember member.guid then value
        else smaller value member.matchMakerRating.toUInt32) 0

/-! ## What they are about -/

/-- The member is in the world and in the group. -/
def isPresent (group : Group) (member : ArenaTeamMember) : Bool :=
  (accessor.findPlayer member.guid).isSome && group.isMember member.guid

/-- The member is connected and in the group, but perhaps between two maps. -/
def isConnected (group : Group) (member : ArenaTeamMember) : Bool :=
  (accessor.findConnectedPlayer member.guid).isSome && group.isMember member.guid

def rating (member : ArenaTeamMember) : Nat := member.matchMakerRating.toNat

/-- The ratings of the members in the world and in the group. -/
def presentRatings (group : Group) : List Nat :=
  (team.members.filter (isPresent accessor group)).map rating

def connectedRatings (group : Group) : List Nat :=
  (team.members.filter (isConnected accessor group)).map rating

/-- The aggregates are the lowest, the highest and the mean rating of the members who are present,
if there are any, in whatever order the team lists them. -/
def AggregatesAgree (group : Group) : Prop :=
  let present := team.presentRatings accessor group
  present ≠ [] →
    IsLeast {value | value ∈ present} (team.getMinMMR accessor (some group)).toNat ∧
    IsGreatest {value | value ∈ present} (team.getMaxMMR accessor (some group)).toNat ∧
    (team.getAverageMMR accessor (some group)).toNat = present.sum / present.length ∧
    team.getMinMMR accessor (some group) ≤ team.getAverageMMR accessor (some group) ∧
    team.getAverageMMR accessor (some group) ≤ team.getMaxMMR accessor (some group) ∧
    ∀ other : ArenaTeam, other.members.Perm team.members →
      other.getMinMMR accessor (some group) = team.getMinMMR accessor (some group) ∧
      other.getMaxMMR accessor (some group) = team.getMaxMMR accessor (some group) ∧
      other.getAverageMMR accessor (some group) = team.getAverageMMR accessor (some group)

/-- The members who are only connected leave the mean between the same two whole numbers. -/
def MeanKept (group : Group) : Prop :=
  let present := team.presentRatings accessor group
  let connected := team.connectedRatings accessor group
  let mean := present.sum / present.length
  let number := max 1 (connected.length % 2 ^ 32)
  number * mean ≤ connected.sum % 2 ^ 32 ∧ connected.sum % 2 ^ 32 < number * (mean + 1)

variable {accessor team} {group : Group}

/-! ## The lowest rating -/

theorem getMinMMR_eq_zero : team.getMinMMR accessor (some group) = 0 := by
  rw [getMinMMR]
  apply List.foldlRecOn (motive := fun value : UInt32 => value = 0) _ _ rfl
  intro value zero member _
  rw [zero]
  split_ifs with offline outside
  · rfl
  · rfl
  · exact if_neg (UInt32.not_lt.mpr UInt32.zero_le)

theorem isLeast_getMinMMR_iff {present : List Nat} :
    IsLeast {value | value ∈ present} (team.getMinMMR accessor (some group)).toNat ↔
      0 ∈ present := by
  rw [getMinMMR_eq_zero]
  constructor
  · intro least
    exact least.1
  · intro member
    exact ⟨member, fun value _ => Nat.zero_le value⟩

/-! ## The highest rating -/

theorem toNat_larger (first second : UInt32) :
    (larger first second).toNat = max first.toNat second.toNat := by
  rw [larger]
  split_ifs with less
  · rw [max_eq_right (UInt32.lt_iff_toNat_lt.mp less).le]
  · rw [max_eq_left (Nat.not_lt.mp (UInt32.lt_iff_toNat_lt.not.mp less))]

theorem toNat_getMaxMMR :
    (team.getMaxMMR accessor (some group)).toNat =
      (team.presentRatings accessor group).foldl max 0 := by
  rw [getMaxMMR, presentRatings]
  suffices fold : ∀ (members : List ArenaTeamMember) (start : UInt32),
      (members.foldl (fun value member =>
        if (accessor.findPlayer member.guid).isNone then value
        else if !group.isMember member.guid then value
        else larger value member.matchMakerRating.toUInt32) start).toNat =
      ((members.filter (isPresent accessor group)).map rating).foldl max start.toNat from
    fold team.members 0
  intro members
  induction members with
  | nil =>
      intro start
      rfl
  | cons member rest induction =>
      intro start
      rw [List.foldl_cons, induction]
      by_cases offline : (accessor.findPlayer member.guid).isNone
      · have absent : ¬isPresent accessor group member = true := by
          simp_all [isPresent]
        rw [if_pos offline, List.filter_cons_of_neg absent]
      · by_cases inGroup : group.isMember member.guid
        · have present : isPresent accessor group member = true := by
            simp_all [isPresent, Option.isSome_iff_ne_none]
          rw [if_neg offline, if_neg (by simp [inGroup]), List.filter_cons_of_pos present,
            List.map_cons, List.foldl_cons, toNat_larger, UInt16.toNat_toUInt32]
          rfl
        · have absent : ¬isPresent accessor group member = true := by
            simp_all [isPresent]
          rw [if_neg offline, if_pos (by simp [inGroup]), List.filter_cons_of_neg absent]

/-- The largest number of a list and a start is one of them and above all. -/
theorem foldl_max_spec (values : List Nat) (start : Nat) :
    (values.foldl max start = start ∨ values.foldl max start ∈ values) ∧
      start ≤ values.foldl max start ∧ ∀ value ∈ values, value ≤ values.foldl max start := by
  induction values generalizing start with
  | nil => exact ⟨Or.inl rfl, Nat.le_refl start, by simp⟩
  | cons first rest induction =>
      obtain ⟨found, above, bound⟩ := induction (max start first)
      rw [List.foldl_cons]
      refine ⟨?_, (le_max_left start first).trans above, ?_⟩
      · rcases found with same | member
        · rcases max_choice start first with left | right
          · exact Or.inl (same.trans left)
          · right
            rw [same, right]
            exact List.mem_cons_self
        · exact Or.inr (List.mem_cons_of_mem _ member)
      · intro value member
        rcases List.mem_cons.mp member with rfl | later
        · exact (le_max_right start value).trans above
        · exact bound value later

theorem isGreatest_getMaxMMR (some : team.presentRatings accessor group ≠ []) :
    IsGreatest {value | value ∈ team.presentRatings accessor group}
      (team.getMaxMMR accessor (.some group)).toNat := by
  obtain ⟨found, _, bound⟩ := foldl_max_spec (team.presentRatings accessor group) 0
  rw [toNat_getMaxMMR]
  refine ⟨?_, bound⟩
  rcases found with zero | member
  · obtain ⟨first, present⟩ := List.exists_mem_of_ne_nil _ some
    have none : first = 0 := by
      have below := bound first present
      omega
    rw [Set.mem_ofPred_eq, zero]
    exact none ▸ present
  · exact member

/-! ## The average rating -/

theorem foldl_addRating (members : List ArenaTeamMember) (totals : UInt32 × UInt32) :
    (members.foldl (addRating accessor group) totals).1.toNat =
        (totals.1.toNat + ((members.filter (isConnected accessor group)).map rating).sum) % 2 ^ 32 ∧
      (members.foldl (addRating accessor group) totals).2.toNat =
        (totals.2.toNat + (members.filter (isConnected accessor group)).length) % 2 ^ 32 := by
  induction members generalizing totals with
  | nil =>
      have sum := totals.1.toNat_lt
      have number := totals.2.toNat_lt
      simp [Nat.mod_eq_of_lt sum, Nat.mod_eq_of_lt number]
  | cons member rest induction =>
      rw [List.foldl_cons]
      by_cases counted : isConnected accessor group member = true
      · have added : addRating accessor group totals member =
            (totals.1 + member.matchMakerRating.toUInt32, totals.2 + 1) := by
          simp_all [isConnected, addRating, Option.isSome_iff_ne_none]
        have sum : (totals.1 + member.matchMakerRating.toUInt32).toNat =
            (totals.1.toNat + rating member) % 2 ^ 32 := by
          rw [UInt32.toNat_add, UInt16.toNat_toUInt32]
          rfl
        have number : (totals.2 + 1).toNat = (totals.2.toNat + 1) % 2 ^ 32 := UInt32.toNat_add _ _
        obtain ⟨sums, numbers⟩ := induction (addRating accessor group totals member)
        rw [added] at sums numbers ⊢
        rw [List.filter_cons_of_pos counted, List.map_cons, List.sum_cons, List.length_cons, sums,
          numbers, sum, number, Nat.mod_add_mod, Nat.mod_add_mod, Nat.add_assoc, Nat.add_assoc,
          Nat.add_comm 1]
        exact ⟨rfl, rfl⟩
      · have skipped : addRating accessor group totals member = totals := by
          by_cases offline : (accessor.findConnectedPlayer member.guid).isNone
          · rw [addRating, if_pos offline]
          · have outside : group.isMember member.guid = false := by
              simp_all [isConnected, Option.isSome_iff_ne_none]
            rw [addRating, if_neg offline, outside, Bool.not_false, if_pos rfl]
        rw [skipped, List.filter_cons_of_neg counted]
        exact induction totals

theorem toNat_getAverageMMR :
    (team.getAverageMMR accessor (some group)).toNat =
      (team.connectedRatings accessor group).sum % 2 ^ 32 /
        max 1 ((team.connectedRatings accessor group).length % 2 ^ 32) := by
  obtain ⟨sum, number⟩ := @foldl_addRating accessor group team.members (0, 0)
  have zero : (0 : UInt32).toNat = 0 := rfl
  have length : (team.connectedRatings accessor group).length =
      (team.members.filter (isConnected accessor group)).length := List.length_map ..
  rw [zero, Nat.zero_add] at sum number
  rw [getAverageMMR, length, connectedRatings]
  generalize team.members.foldl (addRating accessor group) (0, 0) = totals at sum number ⊢
  have divider : (if totals.2 = 0 then 1 else totals.2).toNat = max 1 totals.2.toNat := by
    split_ifs with none
    · rw [none]
      rfl
    · have positive : totals.2.toNat ≠ 0 := fun zero => none (UInt32.toNat_inj.mp zero)
      rw [max_eq_right (Nat.one_le_iff_ne_zero.mpr positive)]
  rw [UInt32.toNat_div, divider, sum, number]

theorem toNat_getAverageMMR_iff :
    (team.getAverageMMR accessor (some group)).toNat =
        (team.presentRatings accessor group).sum / (team.presentRatings accessor group).length ↔
      team.MeanKept accessor group := by
  have positive : 0 < max 1 ((team.connectedRatings accessor group).length % 2 ^ 32) :=
    Nat.lt_of_lt_of_le Nat.zero_lt_one (le_max_left _ _)
  rw [toNat_getAverageMMR, Nat.div_eq_iff positive, MeanKept]
  rw [Nat.mul_add_one, Nat.mul_comm]
  omega

/-- The mean is kept where nobody in the group is between two maps. -/
theorem meanKept_of_present (few : team.members.length ≤ 2 ^ 16)
    (inWorld : ∀ member ∈ team.members,
      isConnected accessor group member = isPresent accessor group member)
    (some : team.presentRatings accessor group ≠ []) : team.MeanKept accessor group := by
  have same : team.connectedRatings accessor group = team.presentRatings accessor group :=
    congrArg (List.map rating) (List.filter_congr inWorld)
  have length : (team.presentRatings accessor group).length ≤ 2 ^ 16 := by
    rw [presentRatings, List.length_map]
    exact (List.length_filter_le _ _).trans few
  have sum : (team.presentRatings accessor group).sum ≤
      (team.presentRatings accessor group).length * (2 ^ 16 - 1) := by
    apply List.sum_le_card_nsmul
    intro value member
    obtain ⟨rated, _, rfl⟩ := List.mem_map.mp member
    exact Nat.le_sub_one_of_lt rated.matchMakerRating.toNat_lt
  have positive := List.length_pos_of_ne_nil some
  unfold MeanKept
  dsimp only
  rw [same, Nat.mod_eq_of_lt (by omega : _ < 2 ^ 32), Nat.mod_eq_of_lt (by omega : _ < 2 ^ 32),
    max_eq_right positive]
  exact ⟨Nat.mul_div_le _ _, Nat.lt_mul_div_succ _ positive⟩

/-- No mean is above the largest number. -/
theorem mean_le {values : List Nat} {largest : Nat} (bound : ∀ value ∈ values, value ≤ largest) :
    values.sum / values.length ≤ largest := by
  apply Nat.div_le_of_le_mul
  have sum := List.sum_le_card_nsmul values largest bound
  rw [smul_eq_mul] at sum
  exact sum

/-! ## Any order of the members -/

variable {other : ArenaTeam}

theorem getMaxMMR_perm (same : other.members.Perm team.members)
    (some : team.presentRatings accessor group ≠ []) :
    other.getMaxMMR accessor (.some group) = team.getMaxMMR accessor (.some group) := by
  have present : (other.presentRatings accessor group).Perm (team.presentRatings accessor group) :=
    (same.filter _).map _
  have otherSome : other.presentRatings accessor group ≠ [] := by
    intro none
    rw [none] at present
    exact some present.symm.eq_nil
  have largest := isGreatest_getMaxMMR otherSome
  have members : {value | value ∈ other.presentRatings accessor group} =
      {value | value ∈ team.presentRatings accessor group} := by
    ext value
    exact present.mem_iff
  rw [members] at largest
  exact UInt32.toNat_inj.mp (largest.unique (isGreatest_getMaxMMR some))

theorem getAverageMMR_perm (same : other.members.Perm team.members) :
    other.getAverageMMR accessor (some group) = team.getAverageMMR accessor (some group) := by
  have connected :
      (other.connectedRatings accessor group).Perm (team.connectedRatings accessor group) :=
    (same.filter _).map _
  apply UInt32.toNat_inj.mp
  rw [toNat_getAverageMMR, toNat_getAverageMMR, connected.sum_eq, connected.length_eq]

/-! ## When they agree -/

theorem aggregatesAgree_iff (accessor : ObjectAccessor) (team : ArenaTeam) (group : Group) :
    team.AggregatesAgree accessor group ↔
      (team.presentRatings accessor group ≠ [] →
        0 ∈ team.presentRatings accessor group ∧ team.MeanKept accessor group) := by
  rw [AggregatesAgree]
  refine forall_congr' fun some => ?_
  rw [isLeast_getMinMMR_iff, toNat_getAverageMMR_iff]
  constructor
  · rintro ⟨lowest, _, average, _⟩
    exact ⟨lowest, average⟩
  · rintro ⟨lowest, average⟩
    have largest := isGreatest_getMaxMMR some
    have belowLargest : team.getAverageMMR accessor (.some group) ≤
        team.getMaxMMR accessor (.some group) := by
      rw [UInt32.le_iff_toNat_le, toNat_getAverageMMR_iff.mpr average]
      exact mean_le largest.2
    refine ⟨lowest, largest, average, ?_, belowLargest, ?_⟩
    · rw [getMinMMR_eq_zero]
      exact UInt32.zero_le
    · intro other same
      rw [getMinMMR_eq_zero, getMinMMR_eq_zero]
      exact ⟨rfl, getMaxMMR_perm same some, getAverageMMR_perm same⟩

/-! ## A team of one -/

def single : ArenaTeam where
  members := [⟨1, 1500⟩]

/-- A group with only this member. -/
def groupOfOne : Group :=
  { Group.new false false (Looting.fresh 0) with memberSlots := [⟨1, 0, 0⟩] }

/-- The lowest rating of a member with 1500 is 0. -/
theorem single_disagrees :
    ¬∀ (accessor : ObjectAccessor) (team : ArenaTeam) (group : Group),
      team.AggregatesAgree accessor group := by
  intro always
  have agree := always ⟨fun _ => some ⟨true⟩⟩ single groupOfOne
  rw [aggregatesAgree_iff] at agree
  exact absurd (agree (by decide)).1 (by decide)

end ArenaTeam

end RealmServer.Battlegrounds
