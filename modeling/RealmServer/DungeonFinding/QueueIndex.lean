import RealmServer.DungeonFinding.Combinations

/-!
# What the queue has stored

A search introduces the first new premade: it is combined with every stored
combination, and where one of them becomes full, the premades of that one leave.
So `allCombinations` stores what is compatible among the queued premades, and
nobody who could play waits.
-/

namespace RealmServer.DungeonFinding

open Hereditary Transition

variable {hasIgnore : ObjectGuid → ObjectGuid → Bool}

namespace LFGQueue

/-- The sets of premades which are compatible, with fewer than five players or with five. -/
def sets (hasIgnore : ObjectGuid → ObjectGuid → Bool) (queue : LFGQueue) : Family ObjectGuid :=
  compatibleSets hasIgnore queue.data

/-- The stored combinations are those of the queue, once each, and none in it is full. -/
def Indexed (hasIgnore : ObjectGuid → ObjectGuid → Bool) (queue : LFGQueue) : Prop :=
  (queue.sets hasIgnore).Index queue.queue (queue.allCombinations.map Combination.premades)

/-- No player with these roles waits in another premade. -/
def Apart (queue : LFGQueue) (guid : ObjectGuid) (roles : LfgRolesMap) : Prop :=
  ∀ other ∈ queue.newToQueue ++ queue.queue, other ≠ guid →
    ∀ entry ∈ (queue.data other).roles.players, entry.1 ∉ roles.players.map Prod.fst

/-- A new premade is not queued and has no delayed dungeon, none of the players of what is
added waits in another premade, and who ignores whom stays as given. -/
def Allows (hasIgnore : ObjectGuid → ObjectGuid → Bool) (queue : LFGQueue) :
    LFGQueueEvent → Prop
  | .addNewToQueue now guid _ dungeonTimes roles _ =>
      queue.isQueued guid = false ∧ (∀ timed ∈ dungeonTimes, timed.2 ≤ now) ∧
        queue.Apart guid roles
  | .addOldToQueue guid =>
      ∀ data ∈ (queue.queueDataStore guid).or (queue.queueDataCellar guid),
        queue.Apart guid data.roles
  | .findGroups surroundings => surroundings.hasIgnore = hasIgnore
  | .removeFromSystem _ => True

end LFGQueue

/-! ## One set of premades -/

/-- What is said about a set of premades. -/
inductive Answers (family : Family ObjectGuid) (set : List ObjectGuid) (info : CombinationInfo) :
    Prop where
  | complete (state : info.state = .complete) (same : info.premades = set)
      (full : family.full set)
  | incomplete (state : info.state = .incomplete) (same : info.premades = set)
      (growing : family.growing set)
  | invalid (state : info.state = .invalid) (neither : ¬ (family.growing set ∨ family.full set))

section Building

variable {data : ObjectGuid → QueueData} {owner : ObjectGuid → ObjectGuid}
  {set : List ObjectGuid} (surroundings : Surroundings)

theorem buildCombinationInfo_answers (nodup : set.Nodup) (some : set ≠ [])
    (owned : ∀ premade ∈ set, Owned owner premade (data premade).roles) :
    Answers (compatibleSets surroundings.hasIgnore data) set
      (buildCombinationInfo surroundings data set) := by
  have roles := rolesOf_perm nodup owned
  have count := roles.length_eq
  have neither (fails : ¬ Compatible surroundings.hasIgnore data set) :
      ¬ ((compatibleSets surroundings.hasIgnore data).growing set ∨
        (compatibleSets surroundings.hasIgnore data).full set) :=
    fun member => fails (member.elim And.left And.left)
  unfold buildCombinationInfo
  dsimp only
  split_ifs with tooMany noDungeon noRoles twoGroups ignores notFull
  · rw [count] at tooMany
    exact .invalid rfl
      (neither fun compatible => absurd compatible.players (Nat.not_le.2 tooMany))
  · rw [commonDungeonsOf_eq_empty some] at noDungeon
    exact .invalid rfl (neither fun compatible => noDungeon compatible.dungeon)
  · refine .invalid rfl (neither fun compatible => ?_)
    exact (checkRoles_ne_nil _ _).2 (compatible.roles.perm roles.symm) noRoles
  · exact .invalid rfl
      (neither fun compatible => absurd compatible.groups (Nat.not_le.2 twoGroups))
  · refine .invalid rfl (neither fun compatible => ?_)
    rw [anyIgnore_eq_false.2 compatible.noIgnore] at ignores
    cases ignores
  all_goals
    have compatible : Compatible surroundings.hasIgnore data set := by
      refine ⟨some, ?_, ?_, ?_, Nat.not_lt.1 twoGroups, ?_⟩
      · rw [← count]
        exact Nat.not_lt.1 tooMany
      · exact not_not.1 fun none => noDungeon ((commonDungeonsOf_eq_empty some).2 none)
      · exact ((checkRoles_ne_nil _ _).1 noRoles).perm roles
      · exact anyIgnore_eq_false.1 (Bool.eq_false_of_not_eq_true ignores)
  · refine .incomplete rfl rfl ⟨compatible, ?_⟩
    rw [← count]
    simpa using notFull
  · refine .complete rfl rfl ⟨compatible, ?_⟩
    rw [← count]
    simpa using notFull

variable {premade : ObjectGuid}

theorem put_perm (new : premade ∉ set) :
    (OrderedSet.insert (PremadeBefore data) premade set).Perm (premade :: set) := by
  apply OrderedSet.insert_perm
  intro other member same
  rw [equivalent_premadeBefore_iff.1 same] at new
  exact new member

/-- The premade can be combined with the set. -/
def Joinable (owner : ObjectGuid → ObjectGuid) (data : ObjectGuid → QueueData)
    (premade : ObjectGuid) (set : List ObjectGuid) : Prop :=
  premade ∉ set ∧ set.Nodup ∧ ∀ other ∈ premade :: set, Owned owner other (data other).roles

theorem Joinable.answers (joinable : Joinable owner data premade set) :
    Answers (compatibleSets surroundings.hasIgnore data)
      (OrderedSet.insert (PremadeBefore data) premade set)
      (buildCombinationInfo surroundings data
        (OrderedSet.insert (PremadeBefore data) premade set)) := by
  obtain ⟨new, nodup, owned⟩ := joinable
  have put := @put_perm data _ _ new
  refine buildCombinationInfo_answers surroundings ?_ ?_ fun other member =>
    owned other (put.mem_iff.1 member)
  · exact put.nodup_iff.2 (List.nodup_cons.2 ⟨new, nodup⟩)
  · exact fun none => by simpa [none] using put.length_eq

/-- The sets with which a premade grows: what a search that ends without a group has found. -/
structure Picked (family : Family ObjectGuid) (premade : ObjectGuid)
    (stored picked : List (List ObjectGuid)) : Prop where
  sublist : picked.Sublist stored
  complete : ∀ set ∈ stored, family.growing (premade :: set) → set ∈ picked
  grows : ∀ set ∈ picked, family.growing (premade :: set)
  noneFull : ∀ set ∈ stored, ¬ family.full (premade :: set)

section Search

variable {existing found : List Combination}
  (joinable : ∀ combination ∈ existing, Joinable owner data premade combination.premades)

include joinable

theorem searchCombinations_completes {combination : Combination} {info : CombinationInfo}
    (ends : LFGQueue.searchCombinations surroundings data premade existing found =
      .inl (combination, info)) :
    combination ∈ existing ∧ info.premades.Perm (premade :: combination.premades) ∧
      (compatibleSets surroundings.hasIgnore data).full info.premades := by
  induction existing generalizing found with
  | nil => cases ends
  | cons first rest hypothesis =>
      have later := fun found => @hypothesis found
        fun other member => joinable other (List.mem_cons_of_mem _ member)
      have joins := joinable first List.mem_cons_self
      rw [LFGQueue.searchCombinations] at ends
      cases joins.answers surroundings with
      | complete state same full =>
          simp only [state, Sum.inl.injEq, Prod.mk.injEq] at ends
          obtain ⟨rfl, rfl⟩ := ends
          rw [same]
          exact ⟨List.mem_cons_self, put_perm joins.1, full⟩
      | incomplete state | invalid state =>
          simp only [state] at ends
          obtain ⟨member, whole⟩ := later _ ends
          exact ⟨List.mem_cons_of_mem _ member, whole⟩

theorem searchCombinations_picks {result : List Combination}
    (ends : LFGQueue.searchCombinations surroundings data premade existing found = .inr result) :
    ∃ picked, Picked (compatibleSets surroundings.hasIgnore data) premade
        (existing.map Combination.premades) picked ∧
      (result.map Combination.premades).Perm (found.map Combination.premades ++
        picked.map (OrderedSet.insert (PremadeBefore data) premade)) := by
  induction existing generalizing found with
  | nil =>
      rw [LFGQueue.searchCombinations, Sum.inr.injEq] at ends
      rw [ends]
      exact ⟨[], ⟨List.Sublist.refl _, by simp, by simp, by simp⟩, by simp⟩
  | cons combination rest hypothesis =>
      have later := fun found => @hypothesis found
        fun other member => joinable other (List.mem_cons_of_mem _ member)
      have joins := joinable combination List.mem_cons_self
      have put := @put_perm data _ _ joins.1
      rw [LFGQueue.searchCombinations] at ends
      cases joins.answers surroundings with
      | complete state => simp only [state, reduceCtorEq] at ends
      | incomplete state same grows =>
          simp only [state] at ends
          obtain ⟨picked, picks, stored⟩ := later _ ends
          have member := (compatibleSets surroundings.hasIgnore data).growing_perm put grows
          refine ⟨combination.premades :: picked, ⟨picks.sublist.cons_cons _, ?_, ?_, ?_⟩, ?_⟩
          · intro set isStored growing
            cases List.mem_cons.1 isStored with
            | inl first => exact first ▸ List.mem_cons_self
            | inr other => exact List.mem_cons_of_mem _ (picks.complete set other growing)
          · exact List.forall_mem_cons.2 ⟨member, picks.grows⟩
          · exact List.forall_mem_cons.2
              ⟨(compatibleSets surroundings.hasIgnore data).apart member, picks.noneFull⟩
          · refine stored.trans ?_
            have inserted := (List.perm_orderedInsert Combination.Before (toCombination data
              (buildCombinationInfo surroundings data
                (OrderedSet.insert (PremadeBefore data) premade combination.premades)))
              found).map Combination.premades
            refine (inserted.append_right _).trans ?_
            rw [List.map_cons, toCombination, same, List.map_cons]
            exact List.perm_middle.symm
      | invalid state neither =>
          simp only [state] at ends
          obtain ⟨picked, picks, stored⟩ := later _ ends
          rw [not_or] at neither
          refine ⟨picked, ⟨picks.sublist.cons _, ?_, picks.grows, ?_⟩, stored⟩
          · intro set isStored growing
            cases List.mem_cons.1 isStored with
            | inl first =>
                rw [first] at growing
                exact absurd (Family.growing_perm _ put.symm growing) neither.1
            | inr other => exact picks.complete set other growing
          · exact List.forall_mem_cons.2
              ⟨fun full => neither.2 (Family.full_perm _ put.symm full), picks.noneFull⟩

end Search

end Building

section Agreement

variable {data other : ObjectGuid → QueueData}

/-- The family depends on what the premades bring. -/
theorem compatibleSets_congr {set : List ObjectGuid}
    (agree : ∀ premade ∈ set, data premade = other premade) :
    ((compatibleSets hasIgnore data).growing set ↔ (compatibleSets hasIgnore other).growing set) ∧
      ((compatibleSets hasIgnore data).full set ↔ (compatibleSets hasIgnore other).full set) := by
  have compatible : Compatible hasIgnore data set ↔ Compatible hasIgnore other set :=
    ⟨Compatible.congr agree, Compatible.congr fun premade member => (agree premade member).symm⟩
  have players := playersOf_congr agree
  exact ⟨and_congr compatible (by rw [players]), and_congr compatible (by rw [players])⟩

theorem index_congr {ground : List ObjectGuid} {stored : List (List ObjectGuid)}
    (agree : ∀ premade ∈ ground, data premade = other premade)
    (index : (compatibleSets hasIgnore data).Index ground stored) :
    (compatibleSets hasIgnore other).Index ground stored :=
  index.congr
    (fun _ inside => (compatibleSets_congr fun premade member => agree premade (inside member)).1)
    (fun _ inside => (compatibleSets_congr fun premade member => agree premade (inside member)).2)

end Agreement

/-! ## The index in a run -/

/-- A premade waits in one place only, its players in no other one, and the index is right. -/
structure LFGQueue.Kept (hasIgnore : ObjectGuid → ObjectGuid → Bool) (queue : LFGQueue) :
    Prop where
  known : ∀ premade ∈ queue.newToQueue ++ queue.queue, (queue.queueDataStore premade).isSome
  nodup : (queue.newToQueue ++ queue.queue).Nodup
  owned : ∃ owner, ∀ premade ∈ queue.newToQueue ++ queue.queue,
    Owned owner premade (queue.data premade).roles
  noDelays : queue.timedDungeonEntries = []
  index : queue.Indexed hasIgnore

namespace LFGQueue

variable {queue : LFGQueue} {premade : ObjectGuid}

theorem mem_of_mem_removePremade {other : ObjectGuid}
    (member : other ∈ (queue.removePremade premade).newToQueue ++
      (queue.removePremade premade).queue) : other ∈ queue.newToQueue ++ queue.queue := by
  rw [removePremade, ← List.filter_append] at member
  exact List.mem_of_mem_filter member

theorem not_mem_removePremade :
    premade ∉ (queue.removePremade premade).newToQueue ++ (queue.removePremade premade).queue := by
  rw [removePremade, ← List.filter_append]
  simp

theorem not_mem_of_not_isQueued (new : queue.isQueued premade = false) :
    premade ∉ queue.newToQueue ++ queue.queue := by
  simpa [isQueued, and_comm] using new

theorem Kept.removePremade (kept : queue.Kept hasIgnore) (premade : ObjectGuid) :
    (queue.removePremade premade).Kept hasIgnore where
  known := fun other member => kept.known other (mem_of_mem_removePremade member)
  nodup := by
    rw [LFGQueue.removePremade, ← List.filter_append]
    exact kept.nodup.filter _
  owned := by
    obtain ⟨owner, owned⟩ := kept.owned
    exact ⟨owner, fun other member => owned other (mem_of_mem_removePremade member)⟩
  noDelays := kept.noDelays
  index := by
    have left := kept.index.remove premade
    rw [List.filter_map] at left
    exact left

theorem Kept.removePremades (kept : queue.Kept hasIgnore) (leaving : List ObjectGuid) :
    (queue.removePremades leaving).Kept hasIgnore := by
  unfold LFGQueue.removePremades
  induction leaving generalizing queue with
  | nil => exact kept
  | cons premade rest induction => exact induction (kept.removePremade premade)

/-- The data of a premade which does not wait can change. -/
theorem Kept.withData (kept : queue.Kept hasIgnore)
    (away : premade ∉ queue.newToQueue ++ queue.queue)
    {store cellar : ObjectGuid → Option QueueData}
    (same : ∀ other, other ≠ premade → store other = queue.queueDataStore other) :
    { queue with queueDataStore := store, queueDataCellar := cellar }.Kept hasIgnore := by
  have agrees : ∀ other ∈ queue.newToQueue ++ queue.queue,
      store other = queue.queueDataStore other :=
    fun other member => same other fun equal => away (equal ▸ member)
  obtain ⟨owner, owned⟩ := kept.owned
  refine ⟨?_, kept.nodup, ⟨owner, ?_⟩, kept.noDelays, ?_⟩
  · intro other member
    dsimp only
    rw [agrees other member]
    exact kept.known other member
  · intro other member
    show Owned owner other ((store other).getD default).roles
    rw [agrees other member]
    exact owned other member
  · refine index_congr (fun other member => ?_) kept.index
    show (queue.queueDataStore other).getD default = (store other).getD default
    rw [agrees other (List.mem_append_right _ member)]

theorem Kept.insertNewToQueue (kept : queue.Kept hasIgnore)
    (known : (queue.queueDataStore premade).isSome)
    (apart : queue.Apart premade (queue.data premade).roles) :
    (queue.insertNewToQueue premade).Kept hasIgnore := by
  unfold LFGQueue.insertNewToQueue
  dsimp only
  generalize isBefore : (if queue.isQueued premade = true then queue.removePremade premade
    else queue) = before
  have prepared : before.Kept hasIgnore ∧ premade ∉ before.newToQueue ++ before.queue ∧
      (before.queueDataStore premade).isSome ∧
        before.Apart premade (before.data premade).roles := by
    split_ifs at isBefore with queued
    · subst isBefore
      exact ⟨kept.removePremade premade, not_mem_removePremade, known,
        fun other member => apart other (mem_of_mem_removePremade member)⟩
    · subst isBefore
      exact ⟨kept, not_mem_of_not_isQueued (Bool.eq_false_of_not_eq_true queued), known, apart⟩
  obtain ⟨kept, new, known, apart⟩ := prepared
  obtain ⟨owner, owned⟩ := kept.owned
  have put : (OrderedSet.insert (PremadeBefore before.data) premade before.newToQueue ++
      before.queue).Perm (premade :: (before.newToQueue ++ before.queue)) :=
    (put_perm fun member => new (List.mem_append_left _ member)).append_right _
  refine ⟨?_, ?_, ⟨fun player => if player ∈ (before.data premade).roles.players.map Prod.fst
    then premade else owner player, ?_⟩, kept.noDelays, kept.index⟩
  · intro other member
    rcases List.mem_cons.1 (put.mem_iff.1 member) with rfl | old
    · exact known
    · exact kept.known other old
  · exact put.nodup_iff.2 (List.nodup_cons.2 ⟨new, kept.nodup⟩)
  · intro other member entry isPlayer
    rcases List.mem_cons.1 (put.mem_iff.1 member) with rfl | old
    · exact if_pos (List.mem_map_of_mem isPlayer)
    · have differs : other ≠ premade := fun equal => new (equal ▸ old)
      dsimp only
      rw [if_neg (apart other old differs entry isPlayer)]
      exact owned other old entry isPlayer

/-- A premade which does not wait is added with new data. -/
theorem Kept.insertData (kept : queue.Kept hasIgnore)
    (away : premade ∉ queue.newToQueue ++ queue.queue) {data : QueueData}
    (apart : queue.Apart premade data.roles) :
    ({ queue with queueDataStore := Function.update queue.queueDataStore premade (some data) }
      |>.insertNewToQueue premade).Kept hasIgnore := by
  have others : ∀ other, other ≠ premade →
      Function.update queue.queueDataStore premade (some data) other =
        queue.queueDataStore other := fun _ differs => Function.update_of_ne differs _ _
  apply (kept.withData away others).insertNewToQueue
  · dsimp only
    rw [Function.update_self]
    rfl
  · intro other member differs
    unfold LFGQueue.data
    dsimp only
    rw [Function.update_self, others other differs]
    exact apart other member differs

theorem Kept.removeFromSystem (kept : queue.Kept hasIgnore) :
    (queue.removeFromSystem premade).Kept hasIgnore := by
  have alone : queue.assertNotUpdating.Kept hasIgnore := { kept with }
  unfold LFGQueue.removeFromSystem removeFromQueue
  rw [assertNotUpdating_queueDataStore]
  cases stored : queue.queueDataStore premade with
  | none => simpa [stored] using alone
  | some data =>
      simp only [Option.isSome_some, if_true, removePremade_queueDataStore,
        assertNotUpdating_queueDataStore, stored]
      exact (alone.removePremade premade).withData not_mem_removePremade
        fun other differs => Function.update_of_ne differs _ _

theorem Kept.addOldToQueue (kept : queue.Kept hasIgnore)
    (apart : ∀ data ∈ (queue.queueDataStore premade).or (queue.queueDataCellar premade),
      queue.Apart premade data.roles) : (queue.addOldToQueue premade).Kept hasIgnore := by
  have alone : queue.assertNotUpdating.Kept hasIgnore := { kept with }
  unfold LFGQueue.addOldToQueue
  dsimp only
  split
  case h_1 data stored =>
      have isStored : queue.queueDataStore premade = some data := stored
      have here : queue.data premade = data := by rw [LFGQueue.data, isStored, Option.getD_some]
      apply alone.insertNewToQueue
      · rw [stored]
        rfl
      · show queue.Apart premade (queue.data premade).roles
        rw [here]
        exact apart data (by rw [isStored]; rfl)
  case h_2 => exact alone
  case h_3 archived missing stored =>
      have noData : queue.queueDataStore premade = none := missing
      have isArchived : queue.queueDataCellar premade = some archived := stored
      have away : premade ∉ queue.newToQueue ++ queue.queue := fun member => by
        simpa [noData] using kept.known premade member
      exact alone.insertData away (apart archived (by rw [noData, isArchived]; rfl))

/-- The head of the new premades is done. -/
theorem Kept.tail (kept : queue.Kept hasIgnore) :
    { queue with newToQueue := queue.newToQueue.tail, combinationsUpdated := true }.Kept
      hasIgnore :=
  have left : (queue.newToQueue.tail ++ queue.queue).Sublist (queue.newToQueue ++ queue.queue) :=
    (List.tail_sublist _).append_right _
  { kept with
    known := fun other member => kept.known other (left.subset member)
    nodup := kept.nodup.sublist left
    owned := by
      obtain ⟨owner, owned⟩ := kept.owned
      exact ⟨owner, fun other member => owned other (left.subset member)⟩ }

theorem Kept.new (kept : queue.Kept hasIgnore) {rest : List ObjectGuid}
    (waits : queue.newToQueue = premade :: rest) : premade ∉ rest ++ queue.queue := by
  have nodup := kept.nodup
  rw [waits, List.cons_append, List.nodup_cons] at nodup
  exact nodup.1

theorem foldl_orderedInsert_perm (combinations kept : List Combination) :
    (combinations.foldl (fun all combination => all.orderedInsert Combination.Before combination)
      kept).Perm (combinations ++ kept) := by
  induction combinations generalizing kept with
  | nil => exact List.Perm.refl _
  | cons combination rest induction =>
      have put := List.perm_orderedInsert Combination.Before combination kept
      exact (induction _).trans ((put.append_left rest).trans List.perm_middle)

/-- How a search for a premade ends. -/
inductive Searched (hasIgnore : ObjectGuid → ObjectGuid → Bool) (queue : LFGQueue)
    (premade : ObjectGuid) : LFGQueue × Option LfgProposal → Prop where
  | invalid (neither : ¬ ((queue.sets hasIgnore).growing [premade] ∨
      (queue.sets hasIgnore).full [premade])) :
      Searched hasIgnore queue premade (queue, none)
  | proposes {proposal : LfgProposal} {leaving : List ObjectGuid}
      (full : (queue.sets hasIgnore).full proposal.queues)
      (perm : proposal.queues.Perm (premade :: leaving)) (nodup : leaving.Nodup)
      (within : leaving ⊆ queue.queue) :
      Searched hasIgnore queue premade (queue.removePremades leaving, some proposal)
  | joins {all : List Combination}
      (index : (queue.sets hasIgnore).Index (premade :: queue.queue)
        (all.map Combination.premades)) :
      Searched hasIgnore queue premade
        ({ queue with
            queue := OrderedSet.insert (PremadeBefore queue.data) premade queue.queue
            allCombinations := all }, none)

theorem Kept.searched (kept : queue.Kept hasIgnore) {rest : List ObjectGuid}
    (waits : queue.newToQueue = premade :: rest) {surroundings : Surroundings}
    (same : surroundings.hasIgnore = hasIgnore) :
    Searched hasIgnore queue premade (queue.findGroup surroundings premade) := by
  have new : premade ∉ queue.queue := fun member =>
    kept.new waits (List.mem_append_right _ member)
  obtain ⟨owner, waitingOwned⟩ := kept.owned
  have owned : ∀ other ∈ premade :: queue.queue, Owned owner other (queue.data other).roles := by
    refine fun other member => waitingOwned other ?_
    rw [waits, List.cons_append]
    exact List.cons_subset_cons premade (List.subset_append_right rest queue.queue) member
  have answer := @buildCombinationInfo_answers queue.data owner [premade] surroundings
    (List.nodup_singleton premade) (List.cons_ne_nil premade [])
    fun other member => owned other (List.cons_subset_cons premade (List.nil_subset _) member)
  rw [same] at answer
  unfold LFGQueue.findGroup
  dsimp only
  cases answer with
  | invalid state neither =>
      simp only [state]
      exact .invalid neither
  | complete state sameSet full =>
      simp only [state]
      refine @Searched.proposes hasIgnore queue premade _ [] ?_ ?_ List.nodup_nil
        (List.nil_subset _)
      · show (queue.sets hasIgnore).full (buildCombinationInfo _ _ _).premades
        rw [sameSet]
        exact full
      · show (buildCombinationInfo _ _ _).premades.Perm _
        rw [sameSet]
  | incomplete state sameSet alone =>
      simp only [state]
      have stored : ∀ combination ∈ queue.allCombinations,
          combination.premades.Nodup ∧ combination.premades ⊆ queue.queue := by
        intro combination member
        have isStored : combination.premades ∈ queue.allCombinations.map Combination.premades :=
          List.mem_map_of_mem member
        exact ⟨kept.index.nodup _ isStored, kept.index.within _ isStored⟩
      have joinable : ∀ combination ∈ queue.allCombinations,
          Joinable owner queue.data premade combination.premades := by
        intro combination member
        obtain ⟨nodup, within⟩ := stored combination member
        exact ⟨fun inside => new (within inside), nodup, fun other inside =>
          owned other (List.cons_subset_cons premade within inside)⟩
      cases ends : searchCombinations surroundings queue.data premade queue.allCombinations
        [toCombination queue.data (buildCombinationInfo surroundings queue.data [premade])] with
      | inl found =>
          obtain ⟨member, perm, full⟩ :=
            searchCombinations_completes surroundings joinable ends
          obtain ⟨nodup, within⟩ := stored found.1 member
          rw [same] at full
          exact .proposes full perm nodup within
      | inr newCombinations =>
          obtain ⟨picked, picks, found⟩ := searchCombinations_picks surroundings joinable ends
          rw [same] at picks
          have after := kept.index.introduce new alone picks.noneFull picks.sublist
            picks.complete picks.grows fun set member =>
              @put_perm queue.data _ _ fun inside => new (kept.index.within set member inside)
          refine .joins (after.perm (fun _ => Iff.rfl) ?_)
          refine (((foldl_orderedInsert_perm _ _).map Combination.premades).trans ?_).symm
          rw [List.map_append]
          refine (found.append_right _).trans ?_
          rw [List.map_singleton, toCombination, sameSet]
          exact List.Perm.refl _

theorem Kept.findGroup (kept : queue.Kept hasIgnore) {rest : List ObjectGuid}
    (waits : queue.newToQueue = premade :: rest) {result : LFGQueue × Option LfgProposal}
    (searched : Searched hasIgnore queue premade result) :
    { result.1 with
      newToQueue := result.1.newToQueue.tail
      combinationsUpdated := true }.Kept hasIgnore := by
  cases searched with
  | invalid neither => exact kept.tail
  | proposes => exact (kept.removePremades _).tail
  | joins index =>
      have new := kept.new waits
      have put := @put_perm queue.data _ _ fun member => new (List.mem_append_right rest member)
      have moved : (rest ++ OrderedSet.insert (PremadeBefore queue.data) premade
          queue.queue).Perm (queue.newToQueue ++ queue.queue) := by
        rw [waits]
        exact (put.append_left rest).trans List.perm_middle
      obtain ⟨owner, owned⟩ := kept.owned
      dsimp only
      rw [waits]
      exact ⟨fun other member => kept.known other (moved.mem_iff.1 member),
        moved.nodup_iff.2 kept.nodup,
        ⟨owner, fun other member => owned other (moved.mem_iff.1 member)⟩, kept.noDelays,
        index.perm (fun _ => put.mem_iff.symm) (List.Perm.refl _)⟩

theorem Kept.noTimed (kept : queue.Kept hasIgnore) {now : Int} :
    addTimedDungeons now queue.timedDungeonEntries queue = queue := by
  rw [kept.noDelays, addTimedDungeons, ← kept.noDelays]

theorem Kept.step (kept : queue.Kept hasIgnore) {event : LFGQueueEvent}
    (allowed : queue.Allows hasIgnore event) : (queue.step event).Kept hasIgnore := by
  cases event with
  | addNewToQueue now guid joinTime dungeonTimes roles isLfgGroup =>
      obtain ⟨new, past, apart⟩ := allowed
      have alone : queue.assertNotUpdating.Kept hasIgnore := { kept with }
      have noDelays : dungeonTimes.filter (now < ·.2) = [] :=
        List.filter_eq_nil_iff.2 fun timed member => by simpa using past timed member
      unfold LFGQueue.step addNewToQueue
      dsimp only
      rw [noDelays]
      exact alone.insertData (not_mem_of_not_isQueued new) apart
  | addOldToQueue guid => exact kept.addOldToQueue allowed
  | removeFromSystem guid => exact kept.removeFromSystem
  | findGroups surroundings =>
      unfold LFGQueue.step findGroups
      dsimp only
      rw [kept.noTimed]
      split
      case h_1 => exact kept
      case h_2 premade rest waits => exact kept.findGroup waits (kept.searched waits allowed)

theorem empty_kept : LFGQueue.empty.Kept hasIgnore where
  known := fun _ member => absurd member List.not_mem_nil
  nodup := List.nodup_nil
  owned := ⟨id, fun _ member => absurd member List.not_mem_nil⟩
  noDelays := rfl
  index := Family.Index.nil _

end LFGQueue

variable {events : List LFGQueueEvent}

theorem kept_throughout
    (allowed : EveryStep LFGQueue.step (LFGQueue.Allows hasIgnore) LFGQueue.empty events) :
    Throughout LFGQueue.step (LFGQueue.Kept hasIgnore) LFGQueue.empty events :=
  throughout_of_invariant (fun _ _ kept allowed => kept.step allowed) LFGQueue.empty_kept allowed

/-- Whatever comes and goes, what is stored are the combinations of the queue. -/
theorem queue_indexed
    (allowed : EveryStep LFGQueue.step (LFGQueue.Allows hasIgnore) LFGQueue.empty events) :
    Throughout LFGQueue.step (LFGQueue.Indexed hasIgnore) LFGQueue.empty events :=
  (kept_throughout allowed).mono fun _ kept => kept.index

/-! ## Who is proposed -/

theorem LFGQueue.removePremades_lists (queue : LFGQueue) (leaving : List ObjectGuid) :
    (queue.removePremades leaving).newToQueue = queue.newToQueue.filter (· ∉ leaving) ∧
      (queue.removePremades leaving).queue = queue.queue.filter (· ∉ leaving) := by
  unfold LFGQueue.removePremades
  induction leaving generalizing queue with
  | nil => simp
  | cons premade rest induction =>
      obtain ⟨new, queued⟩ := induction (queue.removePremade premade)
      rw [List.foldl_cons, new, queued]
      simp [LFGQueue.removePremade, List.filter_filter, Bool.and_comm]

/-- The search for a premade proposes a group exactly if there is one, and its premades are gone. -/
theorem LFGQueue.Kept.proposes {queue : LFGQueue} (kept : queue.Kept hasIgnore)
    {premade : ObjectGuid} {rest : List ObjectGuid} (waits : queue.newToQueue = premade :: rest)
    {result : LFGQueue × Option LfgProposal} (searched : Searched hasIgnore queue premade result) :
    (result.2.isSome ↔
        ∃ set, set.Nodup ∧ set ⊆ premade :: queue.queue ∧ (queue.sets hasIgnore).full set) ∧
      ∀ proposal ∈ result.2, (queue.sets hasIgnore).full proposal.queues ∧ proposal.queues.Nodup ∧
        ∀ member ∈ proposal.queues, member ∉ result.1.newToQueue.tail ++ result.1.queue := by
  have new := kept.new waits
  cases searched with
  | invalid neither =>
      refine ⟨iff_of_false nofun ?_, nofun⟩
      rintro ⟨set, nodup, within, full⟩
      by_cases present : premade ∈ set
      · exact neither (Family.member_alone present (.inr full))
      · exact kept.index.noneFull set nodup
          (fun _ member => (List.mem_cons.1 (within member)).resolve_left fun same =>
            present (same ▸ member)) full
  | @proposes proposal leaving full perm nodup within =>
      have newLeaves : premade ∉ leaving := fun member =>
        new (List.mem_append_right rest (within member))
      have whole : proposal.queues.Nodup :=
        perm.nodup_iff.2 (List.nodup_cons.2 ⟨newLeaves, nodup⟩)
      refine ⟨iff_of_true rfl ⟨proposal.queues, whole, ?_, full⟩, ?_⟩
      · exact List.Subset.trans perm.subset (List.cons_subset_cons premade within)
      rintro _ ⟨⟩
      refine ⟨full, whole, fun member inside => ?_⟩
      obtain ⟨newToQueue, inQueue⟩ := queue.removePremades_lists leaving
      rw [newToQueue, inQueue, waits, List.filter_cons_of_pos (by simpa using newLeaves),
        List.tail_cons, ← List.filter_append]
      rcases List.mem_cons.1 (perm.mem_iff.1 inside) with rfl | leaves
      · exact fun stays => new (List.mem_of_mem_filter stays)
      · exact fun stays => by simpa [leaves] using (List.mem_filter.1 stays).2
  | joins index =>
      exact ⟨iff_of_false nofun fun ⟨set, nodup, within, full⟩ =>
        index.noneFull set nodup within full, nofun⟩

/--
`FindGroups` proposes a group exactly if the next new premade is part of a full set with queued
ones; the proposal is for such a set, and none of its premades waits any longer.
-/
theorem findGroups_proposes
    (allowed : EveryStep LFGQueue.step (LFGQueue.Allows hasIgnore) LFGQueue.empty events)
    {surroundings : Surroundings} (same : surroundings.hasIgnore = hasIgnore)
    {queue : LFGQueue} (isQueue : queue = run LFGQueue.step LFGQueue.empty events) :
    ((queue.findGroups surroundings).2.isSome ↔ ∃ set, set.Nodup ∧
        set ⊆ queue.newToQueue.take 1 ++ queue.queue ∧ (queue.sets hasIgnore).full set) ∧
      ∀ proposal ∈ (queue.findGroups surroundings).2,
        (queue.sets hasIgnore).full proposal.queues ∧ proposal.queues.Nodup ∧
          ∀ member ∈ proposal.queues,
            (queue.findGroups surroundings).1.isQueued member = false := by
  have kept : queue.Kept hasIgnore := by
    rw [isQueue]
    exact (kept_throughout allowed).last
  unfold LFGQueue.findGroups
  dsimp only
  rw [kept.noTimed]
  cases waits : queue.newToQueue with
  | nil =>
      refine ⟨iff_of_false nofun ?_, nofun⟩
      rintro ⟨set, nodup, within, full⟩
      exact kept.index.noneFull set nodup within full
  | cons premade rest =>
      obtain ⟨found, proposed⟩ := kept.proposes waits (kept.searched waits same)
      refine ⟨found, fun proposal isProposed => ?_⟩
      obtain ⟨full, nodup, gone⟩ := proposed proposal isProposed
      refine ⟨full, nodup, fun member inside => ?_⟩
      have absent := gone member inside
      rw [List.mem_append, not_or] at absent
      simp [LFGQueue.isQueued, absent]

/-! ## Five players -/

def oneDraw : Surroundings where
  now := 1
  hasIgnore := fun _ _ => false
  getGroup := fun _ => none
  oldStateIsDungeon := fun _ => false
  random := fun _ => (0, 0, 0)

/-- Everybody takes any role. -/
def anyRole (guid : ObjectGuid) : LfgRolesMap where
  players := [(guid, 14)]
  sorted := List.pairwise_singleton _ _

/-- The first two players as a group. -/
def twoFriends : LfgRolesMap where
  players := [(.player 1, 14), (.player 2, 14)]
  sorted := by decide

def queueAlone (counter : Nat) : LFGQueueEvent :=
  .addNewToQueue 1 (.player counter) 1 [(1, 0)] (anyRole (.player counter)) false

/-- The first player queues alone, leaves, and queues again with a friend; three others join. -/
def fiveFriends : List LFGQueueEvent :=
  [queueAlone 1, .findGroups oneDraw, .removeFromSystem (.player 1),
    .addNewToQueue 1 (.group 1) 1 [(1, 0)] twoFriends false, .findGroups oneDraw,
    queueAlone 3, .findGroups oneDraw, queueAlone 4, .findGroups oneDraw, queueAlone 5]

instance (queue : LFGQueue) (guid : ObjectGuid) (roles : LfgRolesMap) :
    Decidable (queue.Apart guid roles) :=
  inferInstanceAs (Decidable (∀ other ∈ _, _ → ∀ entry ∈ _, _ ∉ _))

theorem fiveFriends_allowed :
    EveryStep LFGQueue.step (LFGQueue.Allows oneDraw.hasIgnore) LFGQueue.empty fiveFriends := by
  have past : ∀ timed ∈ [((1 : Nat), (0 : Int))], timed.2 ≤ 1 := by decide
  refine ⟨⟨rfl, past, ?_⟩, rfl, trivial, ⟨?_, past, ?_⟩, rfl, ⟨?_, past, ?_⟩, rfl,
    ⟨?_, past, ?_⟩, rfl, ⟨?_, past, ?_⟩, trivial⟩
  all_goals decide +kernel

theorem queue_indexed_fiveFriends :
    Throughout LFGQueue.step (LFGQueue.Indexed oneDraw.hasIgnore) LFGQueue.empty fiveFriends :=
  queue_indexed fiveFriends_allowed

/-- The last search finds a group of all of them. -/
theorem findGroups_proposes_fiveFriends :
    let queue := run LFGQueue.step LFGQueue.empty fiveFriends
    (queue.findGroups oneDraw).2.isSome = true ∧
      ∀ proposal ∈ (queue.findGroups oneDraw).2,
        (queue.sets oneDraw.hasIgnore).full proposal.queues ∧ proposal.queues.Nodup ∧
          ∀ member ∈ proposal.queues, (queue.findGroups oneDraw).1.isQueued member = false :=
  ⟨by decide +kernel, (findGroups_proposes fiveFriends_allowed rfl rfl).2⟩

end RealmServer.DungeonFinding
