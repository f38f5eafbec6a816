import RealmServer.Chat.CommandLoading

/-!
# The exact command tree

The tree has exactly the commands with a chain of places, and everything else is
destroyed once, if and only if what hangs below a loser comes before it and no
commands own each other.
-/

namespace RealmServer.Chat

open Ownership Recursion

/-! ## Strays stay -/

theorem CommandForest.destroy_stray {turns id : Nat} {forest next : CommandForest}
    (isNext : forest.destroy turns id = some next) : next.stray = forest.stray := by
  obtain ⟨freed, _, isFreed⟩ := Option.map_eq_some_iff.mp isNext
  rw [← isFreed]

theorem CommandForest.addSubCommand_stray {turns parentId : Nat} {forest next : CommandForest}
    {command : Command} (isNext : forest.addSubCommand turns parentId command = some next) :
    next.stray = forest.stray := by
  unfold CommandForest.addSubCommand at isNext
  split_ifs at isNext
  · exact destroy_stray isNext
  · rw [← Option.some.inj isNext]

theorem CommandForest.attach_stray {commandStorage : List Command} {turns : Nat}
    {forest next : CommandForest} {command : Command}
    (isNext : forest.attach commandStorage turns command = some next)
    (none : next.stray = []) : forest.stray = [] := by
  unfold CommandForest.attach at isNext
  split_ifs at isNext with isTop
  · exact (addSubCommand_stray isNext).symm.trans none
  · split at isNext
    · rw [← Option.some.inj isNext] at none
      exact none
    · split_ifs at isNext
      · rw [← Option.some.inj isNext] at none
        exact absurd none (List.append_ne_nil_of_right_ne_nil _ (List.cons_ne_nil _ _))
      · split at isNext
        · rw [← Option.some.inj isNext] at none
          exact none
        · exact (addSubCommand_stray isNext).symm.trans none

theorem CommandForest.attachAll_stray {commandStorage commands : List Command} {turns : Nat}
    {forest last : CommandForest}
    (isLast : commands.foldlM (CommandForest.attach commandStorage turns) forest = some last)
    (none : last.stray = []) : forest.stray = [] := by
  induction commands generalizing forest with
  | nil => exact (Option.some.inj isLast) ▸ none
  | cons command later induction =>
      obtain ⟨next, isNext, rest⟩ := Option.bind_eq_some_iff.mp isLast
      exact attach_stray isNext (induction rest)

theorem CommandForest.destroyAll_stray {ids : List Nat} {turns : Nat}
    {forest last : CommandForest}
    (isLast : ids.foldlM (CommandForest.destroy turns) forest = some last) :
    last.stray = forest.stray := by
  induction ids generalizing forest with
  | nil => rw [Option.some.inj isLast]
  | cons id later induction =>
      obtain ⟨next, isNext, rest⟩ := Option.bind_eq_some_iff.mp isLast
      exact (induction rest).trans (destroy_stray isNext)

namespace Loading

variable {loading : Loading}

/-! ## The rounds -/

/-- All the rounds: either no destroyed parent is asked and the forest is what the places
say, or there are strays in the end. -/
theorem Reached.run {done later : List Command} {forest : CommandForest}
    (reached : loading.Reached done forest) (split : loading.commandStorage = done ++ later) :
    ((∀ before command after, later = before ++ command :: after →
        ¬ loading.DestroyedAt (done ++ before) command.parentId) ∧
      ∃ last, loading.Reached loading.commandStorage last ∧ EndsWith
        (fun turns => later.foldlM (CommandForest.attach loading.commandStorage turns) forest)
        last) ∨
    (∃ before command after, later = before ++ command :: after ∧
        loading.DestroyedAt (done ++ before) command.parentId) ∧
      ∃ bound, ∀ turns, bound ≤ turns → ∀ last,
        later.foldlM (CommandForest.attach loading.commandStorage turns) forest = some last →
          last.stray ≠ [] := by
  induction later generalizing done forest with
  | nil =>
      rw [List.append_nil] at split
      refine .inl ⟨fun before command after isEmpty => ?_, forest, split ▸ reached, endsWith_some _⟩
      exact absurd isEmpty.symm (List.append_ne_nil_of_right_ne_nil _ (List.cons_ne_nil _ _))
  | cons command later induction =>
      rcases reached.attach split with ⟨destroyed, isStray⟩ | ⟨alive, next, nextReached, isNext⟩
      · have atHead : loading.DestroyedAt (done ++ []) command.parentId := by
          rw [List.append_nil]
          exact destroyed
        refine .inr ⟨⟨[], command, later, rfl, atHead⟩, 0, fun turns _ last isLast none => ?_⟩
        obtain ⟨next, isNext, rest⟩ := Option.bind_eq_some_iff.mp isLast
        rw [isStray] at isNext
        have nextNone := CommandForest.attachAll_stray rest none
        rw [← Option.some.inj isNext] at nextNone
        exact List.append_ne_nil_of_right_ne_nil _ (List.cons_ne_nil _ _) nextNone
      · have nextSplit : loading.commandStorage = (done ++ [command]) ++ later := by
          rw [split, List.append_assoc, List.singleton_append]
        rcases induction nextReached nextSplit with
          ⟨laterAlive, last, lastReached, isLast⟩ |
            ⟨⟨before, other, after, isLater, otherDestroyed⟩, bound, laterStray⟩
        · refine .inl ⟨?_, last, lastReached, isNext.bind isLast⟩
          intro before other after isLater
          cases before with
          | nil =>
              rw [(List.cons.inj isLater).1.symm, List.append_nil]
              exact alive
          | cons first before =>
              have isFirst := (List.cons.inj isLater).1
              subst isFirst
              have otherAlive := laterAlive before other after (List.cons.inj isLater).2
              rw [List.append_assoc, List.singleton_append] at otherAlive
              exact otherAlive
        · obtain ⟨nextBound, nextEnough⟩ := isNext
          rw [List.append_assoc, List.singleton_append] at otherDestroyed
          refine .inr ⟨⟨command :: before, other, after, congrArg (command :: ·) isLater,
            otherDestroyed⟩, max nextBound bound, fun turns atLeast last isLast => ?_⟩
          obtain ⟨middle, isMiddle, rest⟩ := Option.bind_eq_some_iff.mp isLast
          have isNext := nextEnough turns (le_of_max_le_left atLeast)
          dsimp only at isNext
          rw [isNext] at isMiddle
          rw [← Option.some.inj isMiddle] at rest
          exact laterStray turns (le_of_max_le_right atLeast) last rest

theorem build_ends (never : loading.NeverStray) :
    ∃ last, loading.Reached loading.commandStorage last ∧ EndsWith loading.build last := by
  rcases (reached_empty loading).run rfl with ⟨_, ends⟩ |
    ⟨⟨before, command, after, split, stray⟩, _⟩
  · exact ends
  · exact absurd stray (never before command after split)

/-! ## The cleanup -/

theorem owns_unique (loading : Loading) : Unique loading.Owns :=
  OwnsAt.unique fun _ member => member

theorem root_zero_owns (loading : Loading) : Root loading.Owns 0 :=
  root_zero fun _ member => member

theorem root_of_lost {command : Command} (member : command ∈ loading.commandStorage)
    (lost : ¬ loading.Placed command) : Root loading.Owns command.id :=
  root_of_not_placed (fun _ member => member) member fun _ => lost

/-- Roots are freed one after the other, with all they own, and nothing twice. -/
theorem Reached.cleanup {forest : CommandForest}
    (reached : loading.Reached loading.commandStorage forest) {ids : List Nat} (nodup : ids.Nodup)
    (roots : ∀ id ∈ ids, Root loading.Owns id) {destroyed : List Nat}
    (destroyed_nodup : destroyed.Nodup)
    (alive : ∀ id ∈ ids, ∀ other, Reaches loading.Owns id other → other ∉ destroyed) :
    ∃ cleaned : List Nat, cleaned.Nodup ∧
      (∀ other, other ∈ cleaned ↔
        other ∈ destroyed ∨ ∃ id ∈ ids, Reaches loading.Owns id other) ∧
      EndsWith (fun turns => ids.foldlM (CommandForest.destroy turns)
        { forest with destroyed := destroyed }) { forest with destroyed := cleaned } := by
  induction ids generalizing destroyed with
  | nil =>
      refine ⟨destroyed, destroyed_nodup, fun other => ?_, endsWith_some _⟩
      exact (or_iff_left fun ⟨_, member, _⟩ => absurd member List.not_mem_nil).symm
  | cons id later induction =>
      rw [List.forall_mem_cons] at roots alive
      rw [List.nodup_cons] at nodup
      obtain ⟨nodes, ⟨nodes_nodup, isOwned⟩, ends⟩ :=
        reached.subtree_ends (fun _ member => member) roots.1
      have freed_nodup : (destroyed ++ nodes).Nodup := by
        refine List.Nodup.append destroyed_nodup nodes_nodup ?_
        intro other isDestroyed isNode
        exact alive.1 other ((isOwned other).mp isNode) isDestroyed
      have laterAlive : ∀ next ∈ later, ∀ other, Reaches loading.Owns next other →
          other ∉ destroyed ++ nodes := by
        intro next member other reaches inFreed
        rcases List.mem_append.mp inFreed with isDestroyed | isNode
        · exact alive.2 next member other reaches isDestroyed
        · have same := loading.owns_unique.eq_of_roots (roots.2 next member) roots.1 reaches
            ((isOwned other).mp isNode)
          exact nodup.1 (same ▸ member)
      obtain ⟨cleaned, cleaned_nodup, isCleaned, rest⟩ :=
        induction nodup.2 roots.2 freed_nodup laterAlive
      refine ⟨cleaned, cleaned_nodup, fun other => ?_, (ends.map _).bind rest⟩
      rw [isCleaned, List.mem_append, or_assoc, isOwned]
      simp only [List.mem_cons, or_and_right, exists_or, exists_eq_left]
      rfl

/-- What is destroyed in the end hangs below a loser or below an unused command. -/
def DestroyedFinally (loading : Loading) (id : Nat) : Prop :=
  ∃ command ∈ loading.commandStorage, ¬ loading.Placed command ∧
    Reaches loading.Owns command.id id

theorem loadCommands_ends (never : loading.NeverStray) :
    ∃ loaded, EndsWith loading.loadCommands loaded ∧ loaded.stray = [] ∧
      (∀ id, id ∈ loaded.tree ↔ Reaches loading.Owns 0 id) ∧ loaded.destroyed.Nodup ∧
      ∀ id, id ∈ loaded.destroyed ↔ loading.DestroyedFinally id := by
  obtain ⟨forest, reached, isForest⟩ := build_ends never
  obtain ⟨tree, ⟨_, inTree⟩, isTree⟩ :=
    reached.subtree_ends (fun _ member => member) loading.root_zero_owns
  have isUnused : ∀ id ∈ loading.cleanupOrder forest.unusedCommands,
      ∃ command ∈ loading.commandStorage, command.id = id ∧ ¬ loading.Usable command := by
    intro id member
    exact (reached.unused id).mp ((loading.cleanupOrder_perm _).mem_iff.mp member)
  have roots : ∀ id ∈ loading.cleanupOrder forest.unusedCommands, Root loading.Owns id := by
    intro id member
    obtain ⟨command, created, isId, notUsable⟩ := isUnused id member
    exact isId ▸ root_of_lost created fun placed => notUsable placed.1
  have alive : ∀ id ∈ loading.cleanupOrder forest.unusedCommands, ∀ other,
      Reaches loading.Owns id other → other ∉ forest.destroyed := by
    intro id member other reaches
    obtain ⟨command, created, isId, notUsable⟩ := isUnused id member
    rw [reached.destroyed]
    refine not_destroyedAt_of_root (fun _ member => member) (roots id member) ?_ reaches
    intro loser loserCreated loses sameId
    have same := eq_of_id loserCreated created (sameId.trans isId.symm)
    exact notUsable (same ▸ loses.1)
  have nodup : (loading.cleanupOrder forest.unusedCommands).Nodup :=
    (loading.cleanupOrder_perm _).nodup_iff.mpr reached.unused_nodup
  obtain ⟨cleaned, cleaned_nodup, isCleaned, ends⟩ :=
    reached.cleanup nodup roots reached.destroyed_nodup alive
  refine ⟨⟨tree, cleaned, forest.stray⟩, isForest.bind (isTree.bind (ends.map _)), reached.stray,
    inTree, cleaned_nodup, fun id => ?_⟩
  rw [isCleaned, reached.destroyed]
  constructor
  · rintro (⟨loser, created, loses, reaches⟩ | ⟨root, member, reaches⟩)
    · exact ⟨loser, created, fun placed => placed.2 loses, reaches⟩
    · obtain ⟨command, created, isId, notUsable⟩ := isUnused root member
      exact ⟨command, created, fun placed => notUsable placed.1, isId ▸ reaches⟩
  · rintro ⟨command, created, lost, reaches⟩
    by_cases usable : loading.Usable command
    · have loses : loading.Loses command := by
        by_contra keeps
        exact lost ⟨usable, keeps⟩
      exact .inl ⟨command, created, loses, reaches⟩
    · have unused := (reached.unused command.id).mpr ⟨command, created, rfl, usable⟩
      exact .inr ⟨command.id, (loading.cleanupOrder_perm _).mem_iff.mpr unused, reaches⟩

theorem neverStray_of_loaded {loaded : Loaded} (ends : EndsWith loading.loadCommands loaded)
    (none : loaded.stray = []) : loading.NeverStray := by
  rcases (reached_empty loading).run rfl with ⟨alive, _⟩ | ⟨_, bound, strays⟩
  · exact alive
  · obtain ⟨loadedBound, enough⟩ := ends
    have isLoaded := enough (max loadedBound bound) (Nat.le_max_left _ _)
    obtain ⟨forest, isForest, isFinished⟩ := Option.bind_eq_some_iff.mp isLoaded
    obtain ⟨tree, _, rest⟩ := Option.bind_eq_some_iff.mp isFinished
    obtain ⟨cleaned, isCleaned, isResult⟩ := Option.map_eq_some_iff.mp rest
    rw [← isResult] at none
    have forestNone := (CommandForest.destroyAll_stray isCleaned).symm.trans none
    exact absurd forestNone (strays _ (Nat.le_max_right _ _) forest isForest)

/-! ## Chains -/

theorem chained_iff (id : Nat) : loading.Chained id ↔ Reaches loading.Owns 0 id := by
  constructor
  · intro chained
    induction chained with
    | root => exact .refl
    | sub created placed _ induction => exact induction.tail ⟨_, created, rfl, rfl, placed⟩
  · intro reaches
    induction reaches with
    | refl => exact .root
    | tail _ owns induction =>
        obtain ⟨command, created, isId, isOwner, placed⟩ := owns
        subst isId isOwner
        exact .sub created placed induction

/-- Without circles, the way up from a command ends at the root or at a place that is lost. -/
theorem NoCircle.chained_or (noCircle : loading.NoCircle) {command : Command}
    (member : command ∈ loading.commandStorage) :
    Reaches loading.Owns 0 command.id ∨ loading.DestroyedFinally command.id := by
  let ownedBy : Nat → Nat → Prop := fun id owner => loading.Owns owner id
  have finite : ∀ id owner, ownedBy id owner →
      owner ∈ 0 :: loading.commandStorage.map Command.id := by
    rintro id owner ⟨_, _, _, isOwner, (isTop | ⟨parent, created, isParent, _⟩), _⟩
    · exact List.mem_cons.mpr (.inl (isOwner.symm.trans isTop))
    · refine List.mem_cons_of_mem 0 ?_
      rw [← isOwner, ← isParent]
      exact List.mem_map_of_mem created
  have acyclic : ∀ id, ¬ Relation.TransGen ownedBy id id := fun id circle =>
    noCircle id (Relation.transGen_swap.mp circle)
  have acc := acc_of_acyclic finite acyclic command.id
  generalize isId : command.id = id at acc
  induction acc generalizing command with
  | intro id _ induction =>
      subst isId
      by_cases placed : loading.Placed command
      · have owns : loading.Owns command.parentId command.id :=
          ⟨command, member, rfl, rfl, placed⟩
        rcases placed.1 with isTop | ⟨parent, created, isParent, _⟩
        · rw [isTop] at owns
          exact .inl (.single owns)
        · rw [← isParent] at owns
          refine (induction parent.id owns created rfl).imp (·.tail owns) ?_
          rintro ⟨root, rootCreated, lost, reaches⟩
          exact ⟨root, rootCreated, lost, reaches.tail owns⟩
      · exact .inr ⟨command, member, placed, .refl⟩

/-! ## Exactness -/

theorem treeIsExact_of (never : loading.NeverStray) (noCircle : loading.NoCircle) :
    loading.TreeIsExact := by
  obtain ⟨loaded, ends, noStray, inTree, nodup, isDestroyed⟩ := loadCommands_ends never
  refine ⟨loaded, ends, noStray, fun row _ => (inTree row.id).trans (chained_iff row.id).symm, ?_⟩
  intro command created
  split_ifs with isInTree
  · refine List.count_eq_zero_of_not_mem fun destroyed => ?_
    obtain ⟨root, rootCreated, lost, reaches⟩ := (isDestroyed command.id).mp destroyed
    have same := loading.owns_unique.eq_of_roots loading.root_zero_owns
      (root_of_lost rootCreated lost) ((inTree command.id).mp isInTree) reaches
    exact id_ne_zero rootCreated same.symm
  · have notReached : ¬ Reaches loading.Owns 0 command.id :=
      fun reaches => isInTree ((inTree command.id).mpr reaches)
    have destroyed := (noCircle.chained_or created).resolve_left notReached
    exact List.count_eq_one_of_mem nodup ((isDestroyed command.id).mpr destroyed)

theorem neverStray_of_treeIsExact (isExact : loading.TreeIsExact) : loading.NeverStray := by
  obtain ⟨loaded, ends, noStray, _⟩ := isExact
  exact neverStray_of_loaded ends noStray

theorem noCircle_of_treeIsExact (isExact : loading.TreeIsExact) : loading.NoCircle := by
  intro id circle
  have never := neverStray_of_treeIsExact isExact
  obtain ⟨loaded, ends, _, _, counts⟩ := isExact
  obtain ⟨other, otherEnds, _, inTree, _, isDestroyed⟩ := loadCommands_ends never
  have same : loaded = other := ends.unique otherEnds
  subst same
  obtain ⟨_, _, command, created, isId, _⟩ := Relation.TransGen.tail'_iff.mp circle
  subst isId
  have onCircle : ∀ root, Root loading.Owns root → ¬ Reaches loading.Owns root command.id :=
    fun root isRoot reaches =>
      isRoot.not_circle (loading.owns_unique.circle_of_reaches reaches circle)
  have counted := counts command created
  rw [if_neg fun member => onCircle 0 loading.root_zero_owns ((inTree command.id).mp member)]
    at counted
  have destroyed : command.id ∈ loaded.destroyed :=
    List.count_pos_iff.mp (counted ▸ Nat.one_pos)
  obtain ⟨root, rootCreated, lost, reaches⟩ := (isDestroyed command.id).mp destroyed
  exact onCircle root.id (root_of_lost rootCreated lost) reaches

/-- The tree is exact exactly if losers come last and nothing owns itself. -/
theorem treeIsExact_iff (loading : Loading) :
    loading.TreeIsExact ↔ loading.LosersLast ∧ loading.NoCircle := by
  rw [← neverStray_iff]
  exact ⟨fun isExact => ⟨neverStray_of_treeIsExact isExact, noCircle_of_treeIsExact isExact⟩,
    fun ⟨never, noCircle⟩ => treeIsExact_of never noCircle⟩

/-! ## A child of a loser -/

def childOfLoser : Loading where
  rows := [⟨1, 0, "a", 0, ""⟩, ⟨2, 0, "A", 0, ""⟩, ⟨3, 0, "x", 2, ""⟩]
  ids_nodup := by decide
  ids_ne_zero := by decide
  parents := by decide
  createCommand _ := some .metaCommand
  commandStorage :=
    [⟨1, 0, "a", 0, .metaCommand⟩, ⟨2, 0, "A", 0, .metaCommand⟩, ⟨3, 0, "x", 2, .metaCommand⟩]
  created := List.Perm.refl _
  cleanupOrder ids := ids
  cleanupOrder_perm := List.Perm.refl

/-- The second row loses its place to the first and is destroyed; the third is its child. -/
theorem childOfLoser_not_exact : ¬ childOfLoser.TreeIsExact := by
  intro isExact
  have loses : childOfLoser.Loses ⟨2, 0, "A", 0, .metaCommand⟩ :=
    ⟨.inl rfl, ⟨1, 0, "a", 0, .metaCommand⟩,
      ⟨[⟨1, 0, "a", 0, .metaCommand⟩], [⟨3, 0, "x", 2, .metaCommand⟩], rfl, List.mem_cons_self⟩,
      rfl, by decide +kernel⟩
  refine neverStray_of_treeIsExact isExact
    [⟨1, 0, "a", 0, .metaCommand⟩, ⟨2, 0, "A", 0, .metaCommand⟩] ⟨3, 0, "x", 2, .metaCommand⟩ []
    rfl ?_
  exact ⟨⟨2, 0, "A", 0, .metaCommand⟩, List.mem_cons_of_mem _ List.mem_cons_self, loses, .refl⟩

end Loading

end RealmServer.Chat
