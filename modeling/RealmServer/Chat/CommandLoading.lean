import RealmServer.Chat.CommandPlaces

/-!
# Loading the commands

Each round keeps the forest what the places say, or asks a destroyed parent;
with the rounds behind it, the initialization of the root comes to all that have
a chain of places, and the cleanup destroys the rest of what has a root.
-/

namespace RealmServer.Chat

open Ownership Recursion

namespace Loading

variable {loading : Loading} {done later : List Command} {forest : CommandForest}
  {command : Command}

/-- The forest after these commands, none of which used a destroyed one. -/
structure Reached (loading : Loading) (done : List Command) (forest : CommandForest) : Prop where
  subCommands : ∀ owned, owned ∈ forest.subCommands ↔
    owned.2 ∈ done ∧ loading.Placed owned.2 ∧ owned.1 = owned.2.parentId
  subCommands_nodup : forest.subCommands.Nodup
  unused : ∀ id, id ∈ forest.unusedCommands ↔
    ∃ command ∈ done, command.id = id ∧ ¬ loading.Usable command
  unused_nodup : forest.unusedCommands.Nodup
  destroyed : ∀ id, id ∈ forest.destroyed ↔ loading.DestroyedAt done id
  destroyed_nodup : forest.destroyed.Nodup
  stray : forest.stray = []

theorem reached_empty (loading : Loading) : loading.Reached [] CommandForest.empty where
  subCommands _ := ⟨fun member => absurd member List.not_mem_nil,
    fun owns => absurd owns.1 List.not_mem_nil⟩
  subCommands_nodup := List.nodup_nil
  unused _ := ⟨fun member => absurd member List.not_mem_nil,
    fun ⟨_, member, _⟩ => absurd member List.not_mem_nil⟩
  unused_nodup := List.nodup_nil
  destroyed _ := ⟨fun member => absurd member List.not_mem_nil,
    fun ⟨_, member, _⟩ => absurd member List.not_mem_nil⟩
  destroyed_nodup := List.nodup_nil
  stray := rfl

theorem Reached.container_iff (reached : loading.Reached done forest) (id : Nat)
    (other : Command) :
    other ∈ forest.container id ↔ other ∈ done ∧ loading.Placed other ∧ other.parentId = id := by
  unfold CommandForest.container
  rw [List.mem_map]
  constructor
  · rintro ⟨owned, member, isOther⟩
    rw [List.mem_filter, decide_eq_true_iff, reached.subCommands] at member
    obtain ⟨⟨isDone, placed, isParent⟩, isOwner⟩ := member
    subst isOther
    exact ⟨isDone, placed, isParent.symm.trans isOwner⟩
  · rintro ⟨isDone, placed, isParent⟩
    refine ⟨(id, other), ?_, rfl⟩
    rw [List.mem_filter, decide_eq_true_iff, reached.subCommands]
    exact ⟨⟨isDone, placed, isParent.symm⟩, rfl⟩

theorem Reached.owned_iff (reached : loading.Reached done forest) (owner id : Nat) :
    id ∈ forest.owned owner ↔ loading.OwnsAt done owner id := by
  unfold CommandForest.owned
  rw [List.mem_map]
  constructor
  · rintro ⟨other, member, isId⟩
    obtain ⟨isDone, placed, isOwner⟩ := (reached.container_iff owner other).mp member
    exact ⟨other, isDone, isId, isOwner, placed⟩
  · rintro ⟨other, isDone, isId, isOwner, placed⟩
    exact ⟨other, (reached.container_iff owner other).mpr ⟨isDone, placed, isOwner⟩, isId⟩

theorem Reached.owns_eq (reached : loading.Reached done forest) :
    (fun owner id => id ∈ forest.owned owner) = loading.OwnsAt done := by
  funext owner id
  exact propext (reached.owned_iff owner id)

theorem Reached.owned_nodup (reached : loading.Reached done forest)
    (within : ∀ command ∈ done, command ∈ loading.commandStorage) (id : Nat) :
    (forest.owned id).Nodup := by
  unfold CommandForest.owned CommandForest.container
  rw [List.map_map]
  refine List.Nodup.map_on ?_ (reached.subCommands_nodup.filter _)
  intro first firstMember second secondMember sameId
  rw [List.mem_filter, reached.subCommands] at firstMember secondMember
  have same := eq_of_id (within _ firstMember.1.1) (within _ secondMember.1.1) sameId
  exact Prod.ext (by rw [firstMember.1.2.2, secondMember.1.2.2, same]) same

/-- A root can be destroyed, with what it owns. -/
theorem Reached.subtree_ends (reached : loading.Reached done forest)
    (within : ∀ command ∈ done, command ∈ loading.commandStorage) {id : Nat}
    (root : Root (loading.OwnsAt done) id) :
    ∃ nodes, (nodes.Nodup ∧ ∀ other, other ∈ nodes ↔ Reaches (loading.OwnsAt done) id other) ∧
      EndsWith (fun turns => subtree forest.owned turns id) nodes := by
  have unique := OwnsAt.unique within
  have finite : ∀ owner id, loading.OwnsAt done owner id → id ∈ done.map Command.id := by
    rintro owner id ⟨other, member, isId, _⟩
    exact isId ▸ List.mem_map_of_mem member
  have acc := root.acc unique finite
  rw [← reached.owns_eq] at unique
  simp only [← reached.owned_iff] at acc
  obtain ⟨nodes, isSubtree, ends⟩ :=
    Ownership.subtree_ends unique (reached.owned_nodup within) acc
  refine ⟨nodes, ⟨isSubtree.nodup, fun other => ?_⟩, ends⟩
  rw [isSubtree.mem_iff, reached.owns_eq]

/-! ## Freeing -/

theorem DestroyedAt.of_within {more : List Command} (within : ∀ command ∈ done, command ∈ more)
    {id : Nat} (destroyed : loading.DestroyedAt done id) : loading.DestroyedAt more id := by
  obtain ⟨loser, member, loses, reaches⟩ := destroyed
  have weaker : loading.OwnsAt done ≤ loading.OwnsAt more := fun _ _ => OwnsAt.mono within
  exact ⟨loser, within loser member, loses, Relation.ReflTransGen.mono weaker _ _ reaches⟩

theorem DestroyedAt.exists_mem {id : Nat} (destroyed : loading.DestroyedAt done id) :
    ∃ other ∈ done, other.id = id := by
  obtain ⟨loser, member, _, reaches⟩ := destroyed
  cases reaches with
  | refl => exact ⟨loser, member, rfl⟩
  | tail _ owns =>
      obtain ⟨other, otherMember, isId, _⟩ := owns
      exact ⟨other, otherMember, isId⟩

theorem not_destroyedAt_of_root (within : ∀ command ∈ done, command ∈ loading.commandStorage)
    {root id : Nat} (isRoot : Root (loading.OwnsAt done) root)
    (notLoser : ∀ loser ∈ done, loading.Loses loser → loser.id ≠ root)
    (reaches : Reaches (loading.OwnsAt done) root id) : ¬ loading.DestroyedAt done id := by
  rintro ⟨loser, member, loses, fromLoser⟩
  have loserRoot : Root (loading.OwnsAt done) loser.id :=
    root_of_not_placed within (within loser member) fun _ placed => placed.2 loses
  exact notLoser loser member loses
    ((OwnsAt.unique within).eq_of_roots loserRoot isRoot fromLoser reaches)

/-! ## One round -/

theorem ownsAt_of_not_placed (notPlaced : ¬ loading.Placed command) :
    loading.OwnsAt (done ++ [command]) = loading.OwnsAt done := by
  funext owner id
  refine propext ⟨?_, OwnsAt.mono fun other member => List.mem_append_left _ member⟩
  rintro ⟨other, member, rest⟩
  rcases List.mem_append.mp member with isDone | isNew
  · exact ⟨other, isDone, rest⟩
  · rw [List.mem_singleton.mp isNew] at rest
    exact absurd rest.2.2 notPlaced

theorem destroyedAt_of_not_placed (notPlaced : ¬ loading.Placed command) (id : Nat) :
    loading.DestroyedAt (done ++ [command]) id ↔ loading.DestroyedAt done id ∨
      loading.Loses command ∧ Reaches (loading.OwnsAt done) command.id id := by
  unfold DestroyedAt
  rw [ownsAt_of_not_placed notPlaced]
  constructor
  · rintro ⟨loser, member, loses, reaches⟩
    rcases List.mem_append.mp member with isDone | isNew
    · exact .inl ⟨loser, isDone, loses, reaches⟩
    · rw [List.mem_singleton.mp isNew] at loses reaches
      exact .inr ⟨loses, reaches⟩
  · rintro (⟨loser, isDone, loses, reaches⟩ | ⟨loses, reaches⟩)
    · exact ⟨loser, List.mem_append_left _ isDone, loses, reaches⟩
    · exact ⟨command, List.mem_append_right _ (List.mem_singleton_self command), loses, reaches⟩

/-- Nothing alive owns more, and nothing destroyed is given anything. -/
theorem destroyedAt_of_alive (placed : loading.Placed command)
    (alive : ¬ loading.DestroyedAt done command.parentId) (id : Nat) :
    loading.DestroyedAt (done ++ [command]) id ↔ loading.DestroyedAt done id := by
  refine ⟨?_, DestroyedAt.of_within fun other member => List.mem_append_left _ member⟩
  rintro ⟨loser, member, loses, reaches⟩
  have isDone : loser ∈ done := (List.mem_append.mp member).resolve_right fun isNew =>
    placed.2 (List.mem_singleton.mp isNew ▸ loses)
  refine ⟨loser, isDone, loses, ?_⟩
  induction reaches with
  | refl => exact .refl
  | tail _ owns induction =>
      obtain ⟨other, otherMember, isId, isOwner, otherPlaced⟩ := owns
      rcases List.mem_append.mp otherMember with otherDone | isNew
      · exact induction.tail ⟨other, otherDone, isId, isOwner, otherPlaced⟩
      · rw [List.mem_singleton.mp isNew] at isOwner
        subst isOwner
        exact absurd ⟨loser, isDone, loses, induction⟩ alive

theorem unused_of_usable (reached : loading.Reached done forest)
    (usable : loading.Usable command) (id : Nat) :
    id ∈ forest.unusedCommands ↔
      ∃ other ∈ done ++ [command], other.id = id ∧ ¬ loading.Usable other := by
  rw [reached.unused]
  refine exists_congr fun other => ?_
  rw [List.mem_append, List.mem_singleton, or_and_right]
  exact (or_iff_left fun isNew => isNew.2.2 (isNew.1 ▸ usable)).symm

section Round

variable (split : loading.commandStorage = done ++ command :: later)

include split

theorem within_of_split : ∀ other ∈ done, other ∈ loading.commandStorage := by
  intro other member
  rw [split]
  exact List.mem_append_left _ member

theorem mem_of_split : command ∈ loading.commandStorage := by
  rw [split]
  exact List.mem_append_right done List.mem_cons_self

theorem id_notMem_of_split (other : Command) (member : other ∈ done) : other.id ≠ command.id := by
  intro sameId
  have same := eq_of_id (within_of_split split other member) (mem_of_split split) sameId
  exact notMem_of_split split (same ▸ member)

theorem Reached.addUnused (reached : loading.Reached done forest)
    (notUsable : ¬ loading.Usable command) :
    loading.Reached (done ++ [command]) (forest.addUnused command) where
  __ := reached
  subCommands owned := by
    have notPlaced : owned.2 = command → ¬ loading.Placed owned.2 := by
      intro isNew placed
      exact notUsable (isNew ▸ placed.1)
    unfold CommandForest.addUnused
    rw [reached.subCommands, List.mem_append, List.mem_singleton]
    tauto
  unused id := by
    unfold CommandForest.addUnused
    simp only [List.mem_append, List.mem_singleton, reached.unused, or_and_right, exists_or,
      exists_eq_left]
    exact or_congr_right ⟨fun isId => ⟨isId.symm, notUsable⟩, fun isId => isId.1.symm⟩
  unused_nodup := by
    refine List.Nodup.append reached.unused_nodup (List.nodup_singleton _) ?_
    rw [List.disjoint_singleton, reached.unused]
    rintro ⟨other, member, sameId, _⟩
    exact id_notMem_of_split split other member sameId
  destroyed id := by
    rw [destroyedAt_of_not_placed fun placed => notUsable placed.1]
    exact (reached.destroyed id).trans
      (or_iff_left fun loses => notUsable loses.1.1).symm

/-- Who loses the place is destroyed with all that it owns by then. -/
theorem Reached.destroy (reached : loading.Reached done forest)
    (loses : loading.Loses command) :
    ∃ next, loading.Reached (done ++ [command]) next ∧
      EndsWith (fun turns => forest.destroy turns command.id) next := by
  have within := within_of_split split
  have notPlaced : ¬ loading.Placed command := fun placed => placed.2 loses
  have root : Root (loading.OwnsAt done) command.id :=
    root_of_not_placed within (mem_of_split split) fun _ => notPlaced
  obtain ⟨nodes, ⟨nodup, isOwned⟩, ends⟩ := reached.subtree_ends within root
  refine ⟨{ forest with destroyed := forest.destroyed ++ nodes }, ?_, ends.map _⟩
  constructor
  case subCommands =>
    intro owned
    have isOld : owned.2 = command → ¬ loading.Placed owned.2 := fun isNew => isNew ▸ notPlaced
    rw [reached.subCommands, List.mem_append, List.mem_singleton]
    tauto
  case subCommands_nodup => exact reached.subCommands_nodup
  case unused =>
    intro id
    exact unused_of_usable reached loses.1 id
  case unused_nodup => exact reached.unused_nodup
  case destroyed =>
    intro id
    rw [destroyedAt_of_not_placed notPlaced, List.mem_append, reached.destroyed, isOwned]
    exact or_congr_right (and_iff_right loses).symm
  case destroyed_nodup =>
    refine List.Nodup.append reached.destroyed_nodup nodup ?_
    intro id destroyed owned
    rw [reached.destroyed] at destroyed
    rw [isOwned] at owned
    have notLoser : ∀ loser ∈ done, loading.Loses loser → loser.id ≠ command.id :=
      fun loser member _ => id_notMem_of_split split loser member
    exact not_destroyedAt_of_root within root notLoser owned destroyed
  case stray => exact reached.stray

theorem Reached.insert (reached : loading.Reached done forest) (placed : loading.Placed command)
    (alive : ¬ loading.DestroyedAt done command.parentId) :
    loading.Reached (done ++ [command])
      { forest with subCommands := forest.subCommands ++ [(command.parentId, command)] } where
  __ := reached
  subCommands owned := by
    have isNew : owned = (command.parentId, command) ↔
        owned.2 = command ∧ loading.Placed owned.2 ∧ owned.1 = owned.2.parentId := by
      constructor
      · rintro rfl
        exact ⟨rfl, placed, rfl⟩
      · rintro ⟨isCommand, _, isOwner⟩
        exact Prod.ext (isCommand ▸ isOwner) isCommand
    rw [List.mem_append, List.mem_singleton, reached.subCommands, isNew, List.mem_append,
      List.mem_singleton, or_and_right]
  subCommands_nodup := by
    refine List.Nodup.append reached.subCommands_nodup (List.nodup_singleton _) ?_
    rw [List.disjoint_singleton, reached.subCommands]
    exact fun isOwned => notMem_of_split split isOwned.1
  unused id := by
    have isUnused := unused_of_usable reached placed.1 id
    exact isUnused
  destroyed id := (reached.destroyed id).trans (destroyedAt_of_alive placed alive id).symm

theorem Reached.addSubCommand (reached : loading.Reached done forest)
    (usable : loading.Usable command)
    (alive : ¬ loading.DestroyedAt done command.parentId) :
    ∃ next, loading.Reached (done ++ [command]) next ∧
      EndsWith (fun turns => forest.addSubCommand turns command.parentId command) next := by
  have excluded : ((forest.container command.parentId).any fun other =>
      other.excludes command) = true ↔ loading.Loses command := by
    rw [loses_iff split usable, List.any_eq_true]
    refine exists_congr fun other => ?_
    rw [reached.container_iff, Command.excludes_iff]
    tauto
  unfold CommandForest.addSubCommand
  by_cases loses : loading.Loses command
  · simp only [if_pos (excluded.mpr loses)]
    exact reached.destroy split loses
  · simp only [if_neg fun excludes => loses (excluded.mp excludes)]
    exact ⟨_, reached.insert split ⟨usable, loses⟩ alive, endsWith_some _⟩

/-- A round asks a destroyed parent, or keeps the forest what the places say. -/
theorem Reached.attach (reached : loading.Reached done forest) :
    (loading.DestroyedAt done command.parentId ∧ ∀ turns,
      CommandForest.attach loading.commandStorage turns forest command =
        some (forest.addStray command)) ∨
    ¬ loading.DestroyedAt done command.parentId ∧
      ∃ next, loading.Reached (done ++ [command]) next ∧ EndsWith
        (fun turns => CommandForest.attach loading.commandStorage turns forest command) next := by
  have within := within_of_split split
  unfold CommandForest.attach
  by_cases isTop : command.parentId = 0
  · have alive : ¬ loading.DestroyedAt done command.parentId := by
      rw [isTop]
      refine not_destroyedAt_of_root within (root_zero within) ?_ .refl
      exact fun loser member _ => id_ne_zero (within loser member)
    have round := reached.addSubCommand split (.inl isTop) alive
    simp only [if_pos isTop]
    rw [isTop] at round
    exact .inr ⟨alive, round⟩
  simp only [if_neg isTop]
  cases found : loading.commandStorage.find? fun parent => parent.id = command.parentId with
  | none =>
      have absent := List.find?_eq_none.mp found
      have notUsable : ¬ loading.Usable command := by
        rintro (isZero | ⟨parent, member, isParent, _⟩)
        · exact isTop isZero
        · exact absent parent member (decide_eq_true isParent)
      have alive : ¬ loading.DestroyedAt done command.parentId := by
        intro destroyed
        obtain ⟨other, member, isParent⟩ := destroyed.exists_mem
        exact absent other (within other member) (decide_eq_true isParent)
      exact .inr ⟨alive, _, reached.addUnused split notUsable, endsWith_some _⟩
  | some parent =>
      have member := List.mem_of_find?_eq_some found
      have isParent : parent.id = command.parentId := by
        have isFound := List.find?_some found
        exact of_decide_eq_true isFound
      have isDestroyed := reached.destroyed parent.id
      rw [isParent] at isDestroyed
      dsimp only
      rw [isParent]
      by_cases destroyed : loading.DestroyedAt done command.parentId
      · exact .inl ⟨destroyed, fun _ => if_pos (isDestroyed.mpr destroyed)⟩
      · refine .inr ⟨destroyed, ?_⟩
        simp only [if_neg fun isIn => destroyed (isDestroyed.mp isIn)]
        cases kind : parent.kind with
        | simple =>
            have notUsable : ¬ loading.Usable command := by
              rintro (isZero | ⟨other, otherMember, isOther, otherKind⟩)
              · exact isTop isZero
              · have same := eq_of_id otherMember member (isOther.trans isParent.symm)
                rw [same, kind] at otherKind
                cases otherKind
            exact ⟨_, reached.addUnused split notUsable, endsWith_some _⟩
        | metaCommand =>
            exact reached.addSubCommand split (.inr ⟨parent, member, isParent, kind⟩) destroyed

end Round

end Loading

end RealmServer.Chat
