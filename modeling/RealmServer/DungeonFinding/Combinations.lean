import RealmServer.DungeonFinding.Arrangements
import RealmServer.Lib.Hereditary
import RealmServer.Lib.Transition

/-!
# The combinations in the queue

`BuildCombinationInfo` looks at the premades of a set in their order, but what
it finds does not depend on it.  `Compatible` says what it asks for, and
`compatibleSets` is the family of the sets it accepts; the family is hereditary,
and `allCombinations` stores its members among the queued premades.
-/

namespace RealmServer.DungeonFinding

open Hereditary Transition

/-! ## Roles for everybody -/

/-- Everybody can have a role. -/
def Arrangeable (players : List (ObjectGuid × UInt8)) : Prop :=
  ∃ arrangement, Arranges players neededAllRoles arrangement

theorem Arrangeable.perm {first second : List (ObjectGuid × UInt8)}
    (same : first.Perm second) (arrangeable : Arrangeable first) : Arrangeable second := by
  obtain ⟨arrangement, fills, counts⟩ := arrangeable
  obtain ⟨moved, movedFills, perm⟩ := List.perm_comp_forall₂ same.symm fills
  exact ⟨moved, movedFills, fun role => (perm.countP_eq _).trans_le (counts role)⟩

theorem Arrangeable.of_append {first second : List (ObjectGuid × UInt8)}
    (arrangeable : Arrangeable (first ++ second)) : Arrangeable second := by
  obtain ⟨arrangement, fills, counts⟩ := arrangeable
  have rest := List.forall₂_drop first.length fills
  rw [List.drop_left] at rest
  exact ⟨_, rest, fun role => ((List.drop_sublist _ _).countP_le).trans (counts role)⟩

theorem checkRoles_ne_nil (players : List (ObjectGuid × UInt8)) (full : Bool) :
    checkRoles players full ≠ [] ↔ Arrangeable players := by
  have found : arrangements players neededAllRoles ≠ [] ↔ Arrangeable players := by
    constructor
    · intro some
      obtain ⟨arrangement, member⟩ := List.exists_mem_of_ne_nil _ some
      exact ⟨arrangement, mem_arrangements.mp member⟩
    · rintro ⟨arrangement, arranges⟩
      exact List.ne_nil_of_mem (mem_arrangements.mpr arranges)
  rw [← found]
  cases full with
  | true => rw [checkRoles_full]
  | false =>
      rw [checkRoles_first]
      cases arrangements players neededAllRoles <;> simp

/-! ## The players of some premades -/

variable {hasIgnore : ObjectGuid → ObjectGuid → Bool} {owner : ObjectGuid → ObjectGuid}
  {data other : ObjectGuid → QueueData} {premades permuted rest : List ObjectGuid}
  {premade : ObjectGuid} {surroundings : Surroundings}

/-- The players of the premade belong to it and to no other one. -/
def Owned (owner : ObjectGuid → ObjectGuid) (premade : ObjectGuid) (roles : LfgRolesMap) : Prop :=
  ∀ entry ∈ roles.players, owner entry.1 = premade

def playersOf (data : ObjectGuid → QueueData) (premades : List ObjectGuid) :
    List (ObjectGuid × UInt8) :=
  premades.flatMap fun premade => (data premade).roles.players

@[simp]
theorem playersOf_cons :
    playersOf data (premade :: rest) = (data premade).roles.players ++ playersOf data rest := rfl

theorem playersOf_perm (same : premades.Perm permuted) :
    (playersOf data premades).Perm (playersOf data permuted) :=
  same.flatMap_right _

theorem playersOf_congr (agree : ∀ premade ∈ premades, data premade = other premade) :
    playersOf data premades = playersOf other premades :=
  List.flatMap_congr fun premade member => by rw [agree premade member]

theorem players_nodup (roles : LfgRolesMap) : (roles.players.map Prod.fst).Nodup := by
  rw [List.Nodup, List.pairwise_map]
  refine roles.sorted.imp ?_
  rintro first second isBefore same
  rw [same] at isBefore
  exact ObjectGuid.not_before_self second.1 isBefore

/-- No player occurs twice. -/
theorem playersOf_nodup (nodup : premades.Nodup)
    (owned : ∀ premade ∈ premades, Owned owner premade (data premade).roles) :
    ((playersOf data premades).map Prod.fst).Nodup := by
  induction premades with
  | nil => exact List.nodup_nil
  | cons premade rest induction =>
      rw [List.nodup_cons] at nodup
      rw [playersOf_cons, List.map_append, List.nodup_append]
      refine ⟨players_nodup _, induction nodup.2
        fun other member => owned other (List.mem_cons_of_mem _ member), ?_⟩
      intro player isMine other isOther same
      obtain ⟨entry, entryMember, rfl⟩ := List.mem_map.mp isMine
      obtain ⟨otherEntry, otherMember, rfl⟩ := List.mem_map.mp isOther
      obtain ⟨second, secondMember, isSeconds⟩ := List.mem_flatMap.mp otherMember
      have mine := owned premade List.mem_cons_self entry entryMember
      have seconds := owned second (List.mem_cons_of_mem _ secondMember) otherEntry isSeconds
      rw [← same, mine] at seconds
      rw [seconds] at nodup
      exact nodup.1 secondMember

theorem insertRoles_perm {roles : List (ObjectGuid × UInt8)} {entry : ObjectGuid × UInt8}
    (new : entry.1 ∉ roles.map Prod.fst) : (insertRoles roles entry).Perm (entry :: roles) := by
  refine OrderedSet.insert_perm ?_
  intro other member same
  have sameGuid : entry.1 = other.1 := ObjectGuid.eq_of_not_before same.1 same.2
  rw [sameGuid] at new
  exact new (List.mem_map_of_mem member)

theorem insertAll_perm {entries roles : List (ObjectGuid × UInt8)}
    (nodup : ((roles ++ entries).map Prod.fst).Nodup) :
    (entries.foldl insertRoles roles).Perm (roles ++ entries) := by
  induction entries generalizing roles with
  | nil =>
      rw [List.append_nil]
      exact List.Perm.refl _
  | cons entry entries induction =>
      have moved : (roles ++ entry :: entries).Perm (entry :: roles ++ entries) :=
        List.perm_middle
      have new : entry.1 ∉ roles.map Prod.fst := by
        have first := List.nodup_cons.mp ((moved.map Prod.fst).nodup_iff.mp nodup)
        intro member
        refine first.1 ?_
        show entry.1 ∈ (roles ++ entries).map Prod.fst
        rw [List.map_append]
        exact List.mem_append_left _ member
      have inserted := (insertRoles_perm new).append_right entries
      rw [List.foldl_cons]
      refine (induction ?_).trans (inserted.trans moved.symm)
      exact ((inserted.trans moved.symm).map Prod.fst).nodup_iff.mpr nodup

theorem rolesOf_perm (nodup : premades.Nodup)
    (owned : ∀ premade ∈ premades, Owned owner premade (data premade).roles) :
    (rolesOf data premades).Perm (playersOf data premades) := by
  have whole : rolesOf data premades = (playersOf data premades).foldl insertRoles [] := by
    unfold rolesOf playersOf
    rw [List.foldl_flatMap]
  rw [whole]
  exact insertAll_perm (playersOf_nodup nodup owned)

theorem mem_commonDungeons {dungeon : Nat} {common : Finset Nat} :
    dungeon ∈ premades.foldl (fun common premade => (data premade).dungeons ∩ common) common ↔
      dungeon ∈ common ∧ ∀ premade ∈ premades, dungeon ∈ (data premade).dungeons := by
  induction premades generalizing common with
  | nil => simp
  | cons premade rest induction =>
      rw [List.foldl_cons, induction, Finset.mem_inter, List.forall_mem_cons]
      constructor
      · rintro ⟨⟨mine, common⟩, others⟩
        exact ⟨common, mine, others⟩
      · rintro ⟨common, mine, others⟩
        exact ⟨⟨mine, common⟩, others⟩

theorem commonDungeonsOf_eq_empty (some : premades ≠ []) :
    commonDungeonsOf data premades = ∅ ↔
      ¬∃ dungeon, ∀ premade ∈ premades, dungeon ∈ (data premade).dungeons := by
  cases premades with
  | nil => exact absurd rfl some
  | cons first rest =>
      rw [Finset.eq_empty_iff_forall_notMem, not_exists]
      refine forall_congr' fun dungeon => not_congr ?_
      show dungeon ∈ List.foldl _ _ (first :: rest) ↔ _
      rw [mem_commonDungeons]
      exact and_iff_right_of_imp fun all => all first List.mem_cons_self

theorem anyIgnore_eq_false :
    anyIgnore surroundings data premades = false ↔
      ∀ premade ∈ premades, ∀ other ∈ premades, premade ≠ other →
        ∀ player ∈ (data premade).roles.players, ∀ ignored ∈ (data other).roles.players,
          surroundings.hasIgnore player.1 ignored.1 = false := by
  simp only [anyIgnore, List.any_eq_false, Bool.and_eq_true, decide_eq_true_eq, List.any_eq_true,
    not_and, not_exists, Bool.not_eq_true]

/-! ## Compatible premades -/

/-- What `BuildCombinationInfo` asks of a set of premades. -/
structure Compatible (hasIgnore : ObjectGuid → ObjectGuid → Bool)
    (data : ObjectGuid → QueueData) (premades : List ObjectGuid) : Prop where
  nonempty : premades ≠ []
  players : (playersOf data premades).length ≤ maxGroupSize
  dungeon : ∃ dungeon, ∀ premade ∈ premades, dungeon ∈ (data premade).dungeons
  roles : Arrangeable (playersOf data premades)
  groups : (premades.filter fun premade => (data premade).isLfgGroup).length ≤ 1
  noIgnore : ∀ premade ∈ premades, ∀ other ∈ premades, premade ≠ other →
    ∀ player ∈ (data premade).roles.players, ∀ ignored ∈ (data other).roles.players,
      hasIgnore player.1 ignored.1 = false

theorem Compatible.perm (same : premades.Perm permuted)
    (compatible : Compatible hasIgnore data premades) : Compatible hasIgnore data permuted where
  nonempty := fun none => compatible.nonempty (List.perm_nil.mp (none ▸ same))
  players := (playersOf_perm same).length_eq ▸ compatible.players
  dungeon := by
    obtain ⟨dungeon, all⟩ := compatible.dungeon
    exact ⟨dungeon, fun premade member => all premade (same.mem_iff.mpr member)⟩
  roles := compatible.roles.perm (playersOf_perm same)
  groups := (same.filter _).length_eq ▸ compatible.groups
  noIgnore := fun premade member other otherMember =>
    compatible.noIgnore premade (same.mem_iff.mpr member) other (same.mem_iff.mpr otherMember)

/-- What is left when a premade goes is compatible. -/
theorem Compatible.tail (compatible : Compatible hasIgnore data (premade :: rest))
    (some : rest ≠ []) : Compatible hasIgnore data rest where
  nonempty := some
  players := by
    have players := compatible.players
    rw [playersOf_cons, List.length_append] at players
    exact (Nat.le_add_left _ _).trans players
  dungeon := by
    obtain ⟨dungeon, all⟩ := compatible.dungeon
    exact ⟨dungeon, fun premade member => all premade (List.mem_cons_of_mem _ member)⟩
  roles := by
    have roles := compatible.roles
    rw [playersOf_cons] at roles
    exact roles.of_append
  groups := ((List.sublist_cons_self premade rest).filter _).length_le.trans compatible.groups
  noIgnore := fun first member other otherMember =>
    compatible.noIgnore first (List.mem_cons_of_mem _ member) other
      (List.mem_cons_of_mem _ otherMember)

theorem Compatible.congr
    (agree : ∀ premade ∈ premades, data premade = other premade)
    (compatible : Compatible hasIgnore data premades) : Compatible hasIgnore other premades where
  nonempty := compatible.nonempty
  players := playersOf_congr agree ▸ compatible.players
  dungeon := by
    obtain ⟨dungeon, all⟩ := compatible.dungeon
    refine ⟨dungeon, fun premade member => ?_⟩
    rw [← agree premade member]
    exact all premade member
  roles := playersOf_congr agree ▸ compatible.roles
  groups := by
    have same : (premades.filter fun premade => (other premade).isLfgGroup) =
        premades.filter fun premade => (data premade).isLfgGroup :=
      List.filter_congr fun premade member => by rw [agree premade member]
    rw [same]
    exact compatible.groups
  noIgnore := by
    intro premade member second secondMember
    rw [← agree premade member, ← agree second secondMember]
    exact compatible.noIgnore premade member second secondMember

/-- The sets of premades which may grow, and those with five players. -/
def compatibleSets (hasIgnore : ObjectGuid → ObjectGuid → Bool)
    (data : ObjectGuid → QueueData) : Family ObjectGuid where
  growing premades :=
    Compatible hasIgnore data premades ∧ (playersOf data premades).length ≠ maxGroupSize
  full premades :=
    Compatible hasIgnore data premades ∧ (playersOf data premades).length = maxGroupSize
  growing_perm := fun same growing =>
    ⟨growing.1.perm same, (playersOf_perm same).length_eq ▸ growing.2⟩
  full_perm := fun same full => ⟨full.1.perm same, (playersOf_perm same).length_eq ▸ full.2⟩
  growing_nonempty := fun growing => growing.1.nonempty rfl
  full_nonempty := fun full => full.1.nonempty rfl
  apart := fun growing full => growing.2 full.2
  smaller := by
    intro premade rest larger some
    have compatible : Compatible hasIgnore data rest :=
      (larger.elim And.left And.left).tail some
    exact (ne_or_eq _ _).imp (And.intro compatible) (And.intro compatible)

end RealmServer.DungeonFinding
