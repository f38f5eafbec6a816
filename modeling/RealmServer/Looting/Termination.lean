import RealmServer.Lib.Recursion
import RealmServer.Looting.Slots

/-!
# The end of loot generation

The functions follow an entry with a reference to the template it names, unless
the entry names a group of it.  They end if no template leads back to itself in
this way; and where one does, asking for the quest drops of a player without
quests goes on forever.
-/

namespace RealmServer.Looting

open Recursion

/-! ## References -/

/-- The template of `id` leads to that of `next`, not only to a group of it. -/
def Refers (store : LootTemplateMap) (id next : Nat) : Prop :=
  ∃ template, store.lookup id = some template ∧ ∃ item ∈ template.entries,
    item.reference = next ∧ 0 < next ∧ item.groupid = 0 ∧ store.lookup next ≠ none

def Acyclic (store : LootTemplateMap) : Prop :=
  ∀ id, ¬ Relation.TransGen (Refers store) id id

theorem mem_of_lookup {store : LootTemplateMap} {id : Nat} {template : LootTemplate}
    (isTemplate : store.lookup id = some template) : (id, template) ∈ store := by
  obtain ⟨before, later, isStore, _⟩ := List.lookup_eq_some_iff.mp isTemplate
  rw [isStore]
  exact List.mem_append_right before List.mem_cons_self

theorem GoodStore.lookup {templates : ItemTemplates} {store : LootTemplateMap}
    (good : GoodStore templates store) {id : Nat} {template : LootTemplate}
    (isTemplate : store.lookup id = some template) : template.Good templates :=
  good _ (mem_of_lookup isTemplate)

theorem Acyclic.acc {store : LootTemplateMap} (acyclic : Acyclic store) (id : Nat) :
    Acc (fun next id => Refers store id next) id := by
  have finite : ∀ id next, Refers store id next → next ∈ store.map Prod.fst := by
    intro id next ⟨_, _, _, _, _, _, _, exists_template⟩
    obtain ⟨template, isTemplate⟩ := Option.ne_none_iff_exists'.mp exists_template
    exact List.mem_map_of_mem (mem_of_lookup isTemplate)
  exact acc_of_acyclic finite acyclic id

/-- The templates an entry leads to, which the functions follow. -/
def LootStoreItem.Leads (store : LootTemplateMap) (item : LootStoreItem)
    (referenced : LootTemplate) : Prop :=
  0 < item.reference ∧ store.lookup item.reference = some referenced

theorem LootStoreItem.Leads.refers {store : LootTemplateMap} {item : LootStoreItem}
    {template referenced : LootTemplate} (leads : item.Leads store referenced) {id : Nat}
    (isTemplate : store.lookup id = some template) (member : item ∈ template.entries)
    (notGrouped : item.groupid = 0) : Refers store id item.reference :=
  ⟨template, isTemplate, item, member, rfl, leads.1, notGrouped,
    leads.2 ▸ Option.some_ne_none referenced⟩

theorem World.goodStore_references (world : World) :
    GoodStore world.itemTemplates world.references :=
  goodStore_loadLootTable world.referenceRows

theorem World.goodStore_of_mem {world : World} {store : LootTemplateMap}
    (member : store ∈ world.stores) : GoodStore world.itemTemplates store := by
  rcases List.mem_cons.mp member with isReferences | isOther
  · rw [isReferences]
    exact world.goodStore_references
  · obtain ⟨rows, _, isStore⟩ := List.mem_map.mp isOther
    rw [← isStore]
    exact goodStore_loadLootTable rows

/-! ## Quest drops -/

section QuestDrops

variable {wanted : LootStoreItem → Bool} {store : LootTemplateMap}

theorem hasDrop_ends_of_group (template : LootTemplate) {groupId : Nat} (isGroup : groupId ≠ 0) :
    Ends fun turns => LootTemplate.hasDrop wanted store turns template groupId := by
  refine ⟨((template.group? groupId).map (LootGroup.hasDrop wanted)).getD false, ?_⟩
  refine EndsWith.of_succ (fun turns => ?_) (endsWith_some _)
  unfold LootTemplate.hasDrop
  rw [if_pos isGroup]
  cases template.group? groupId with
  | none => rfl
  | some group => rfl

/-- One step: the question to a template ends if those to its references do. -/
theorem hasDrop_ends_of_references (template : LootTemplate)
    (references : ∀ item ∈ template.entries, ∀ referenced, item.Leads store referenced →
      Ends fun turns => LootTemplate.hasDrop wanted store turns referenced item.groupid.toNat) :
    Ends fun turns => LootTemplate.hasDrop wanted store turns template 0 := by
  have entry : ∀ item ∈ template.entries,
      Ends fun turns => item.hasDrop wanted store (LootTemplate.hasDrop wanted store turns) := by
    intro item member
    unfold LootStoreItem.hasDrop
    by_cases isReference : 0 < item.reference
    · simp only [if_pos isReference]
      cases isReferenced : store.lookup item.reference with
      | none => exact ⟨false, endsWith_some false⟩
      | some referenced => exact references item member referenced ⟨isReference, isReferenced⟩
    · simp only [if_neg isReference]
      exact ⟨wanted item, endsWith_some _⟩
  obtain ⟨found, isFound⟩ := anyM_ends entry
  exact ⟨found || template.hasGroupDrop wanted, EndsWith.of_succ (fun _ => rfl) (isFound.map _)⟩

theorem Acyclic.hasDrop_ends (acyclic : Acyclic store) {id : Nat} {template : LootTemplate}
    (isTemplate : store.lookup id = some template) (groupId : Nat) :
    Ends fun turns => LootTemplate.hasDrop wanted store turns template groupId := by
  induction acyclic.acc id generalizing template groupId with
  | intro id _ induction =>
      by_cases isGroup : groupId = 0
      · subst isGroup
        refine hasDrop_ends_of_references template fun item member referenced leads => ?_
        by_cases notGrouped : item.groupid = 0
        · exact induction item.reference (leads.refers isTemplate member notGrouped) leads.2 _
        · exact hasDrop_ends_of_group referenced fun isZero =>
            notGrouped (UInt8.toNat_inj.mp isZero)
      · exact hasDrop_ends_of_group template isGroup

theorem LootGroup.hasDrop_nothing (group : LootGroup) : group.hasDrop (fun _ => false) = false :=
  List.any_eq_false.mpr fun _ _ => Bool.false_ne_true

theorem LootTemplate.hasGroupDrop_nothing (template : LootTemplate) :
    template.hasGroupDrop (fun _ => false) = false := by
  refine List.any_eq_false.mpr fun group _ => ?_
  cases group with
  | none => exact Bool.false_ne_true
  | some group => exact ne_true_of_eq_false group.hasDrop_nothing

theorem LootStoreItem.hasDrop_nothing {hasReferenced : LootTemplate → Nat → Option Bool}
    (never : ∀ template groupId found, hasReferenced template groupId = some found → found = false)
    {item : LootStoreItem} {found : Bool}
    (isFound : item.hasDrop (fun _ => false) store hasReferenced = some found) :
    found = false := by
  unfold LootStoreItem.hasDrop at isFound
  split_ifs at isFound with isReference
  · cases isReferenced : store.lookup item.reference with
    | none =>
        rw [isReferenced] at isFound
        exact (Option.some.inj isFound).symm
    | some referenced =>
        rw [isReferenced] at isFound
        exact never referenced _ found isFound
  · exact (Option.some.inj isFound).symm

/-- If nothing is wanted the answer is no. -/
theorem hasDrop_nothing {turns : Nat} {template : LootTemplate} {groupId : Nat} {found : Bool}
    (isFound : LootTemplate.hasDrop (fun _ => false) store turns template groupId = some found) :
    found = false := by
  induction turns generalizing template groupId found with
  | zero => exact absurd isFound (Option.some_ne_none found).symm
  | succ turns induction =>
      unfold LootTemplate.hasDrop at isFound
      split_ifs at isFound with isGroup
      · cases isSome : template.group? groupId with
        | none =>
            rw [isSome] at isFound
            exact (Option.some.inj isFound).symm
        | some group =>
            rw [isSome] at isFound
            exact (Option.some.inj isFound).symm.trans group.hasDrop_nothing
      · obtain ⟨asked, isAsked, isResult⟩ := Option.map_eq_some_iff.mp isFound
        have never := anyM_of_never (fun item _ holds isHolds =>
          item.hasDrop_nothing (fun _ _ _ => induction) isHolds) isAsked
        rw [never.1, template.hasGroupDrop_nothing] at isResult
        exact isResult.symm

/-- To give it, all the entries were asked. -/
theorem entry_of_hasDrop_nothing {turns : Nat} {template : LootTemplate} {found : Bool}
    (isFound : LootTemplate.hasDrop (fun _ => false) store (turns + 1) template 0 = some found) :
    ∀ item ∈ template.entries, item.hasDrop (fun _ => false) store
      (LootTemplate.hasDrop (fun _ => false) store turns) = some false := by
  obtain ⟨asked, isAsked, _⟩ := Option.map_eq_some_iff.mp isFound
  exact (anyM_of_never (fun item _ holds isHolds =>
    item.hasDrop_nothing (fun _ _ _ => hasDrop_nothing) isHolds) isAsked).2

theorem acc_of_hasDrop {turns : Nat} {id : Nat} {template : LootTemplate} {found : Bool}
    (isTemplate : store.lookup id = some template)
    (isFound : LootTemplate.hasDrop (fun _ => false) store turns template 0 = some found) :
    Acc (fun next id => Refers store id next) id := by
  induction turns generalizing id template found with
  | zero => exact absurd isFound (Option.some_ne_none found).symm
  | succ turns induction =>
      refine ⟨id, fun next follows => ?_⟩
      obtain ⟨same, isSame, item, member, isNext, positive, notGrouped, exists_template⟩ := follows
      rw [isTemplate] at isSame
      obtain rfl := Option.some.inj isSame
      obtain ⟨referenced, isReferenced⟩ := Option.ne_none_iff_exists'.mp exists_template
      have entry := entry_of_hasDrop_nothing isFound item member
      unfold LootStoreItem.hasDrop at entry
      rw [isNext, if_pos positive, isReferenced, notGrouped] at entry
      exact induction isReferenced entry

end QuestDrops

/-! ## Processing -/

section Processing

variable {world : World} {rate : Bool} {lootMode : BitVec 16}

/-- The processing of a template ends within the bounds, wherever it starts in them. -/
def ProcessEnds (world : World) (rate : Bool) (lootMode : BitVec 16) (template : LootTemplate)
    (groupId : Nat) : Prop :=
  ∀ filling : Filling, filling.WithinBounds world → ∃ last : Filling, last.WithinBounds world ∧
    EndsWith (fun turns => LootTemplate.process world rate lootMode turns template groupId filling)
      last

theorem processEnds_of_group {template : LootTemplate} (good : template.Good world.itemTemplates)
    {groupId : Nat} (isGroup : groupId ≠ 0) :
    ProcessEnds world rate lootMode template groupId := by
  intro filling bounds
  cases isSome : template.group? groupId with
  | none =>
      refine ⟨filling, bounds, EndsWith.of_succ (fun turns => ?_) (endsWith_some filling)⟩
      unfold LootTemplate.process
      rw [if_pos isGroup, isSome]
  | some group =>
      have known : some group ∈ template.groups := by
        unfold LootTemplate.group? at isSome
        exact List.mem_of_getElem? (Option.join_eq_some_iff.mp isSome)
      refine ⟨group.process world lootMode filling,
        bounds.processGroup (good.grouped group known),
        EndsWith.of_succ (fun turns => ?_) (endsWith_some _)⟩
      unfold LootTemplate.process
      rw [if_pos isGroup, isSome]

theorem processEntry_ends {item : LootStoreItem}
    (drops : item.reference = 0 → item.Drops world.itemTemplates)
    (references : ∀ referenced, item.Leads world.references referenced →
      ProcessEnds world rate lootMode referenced item.groupid.toNat)
    {filling : Filling} (bounds : filling.WithinBounds world) :
    ∃ next : Filling, next.WithinBounds world ∧ EndsWith
      (fun turns => item.processEntry world rate lootMode
        (LootTemplate.process world rate lootMode turns) filling) next := by
  unfold LootStoreItem.processEntry
  by_cases otherMode : item.lootmode &&& lootMode = 0
  · simp only [if_pos otherMode]
    exact ⟨filling, bounds, endsWith_some filling⟩
  simp only [if_neg otherMode]
  have sameLoot := @LootStoreItem.rollEntry_loot world filling item rate
  cases isRolled : item.rollEntry world rate filling with
  | mk taken rolled =>
      have rolledBounds : rolled.WithinBounds world := by
        rw [isRolled] at sameLoot
        unfold Filling.WithinBounds
        rw [sameLoot]
        exact bounds
      cases taken with
      | false => exact ⟨rolled, rolledBounds, endsWith_some rolled⟩
      | true =>
          by_cases isReference : 0 < item.reference
          · simp only [if_pos isReference]
            cases isReferenced : world.references.lookup item.reference with
            | none => exact ⟨rolled, rolledBounds, endsWith_some rolled⟩
            | some referenced =>
                refine foldlM_ends (fun _ _ filling filled => ?_) rolledBounds
                exact references referenced ⟨isReference, isReferenced⟩ filling filled
          · simp only [if_neg isReference]
            have notReference : item.reference = 0 := Nat.eq_zero_of_not_pos isReference
            exact ⟨rolled.addItem world item, rolledBounds.addItem (drops notReference),
              endsWith_some _⟩

theorem processEnds_of_references {template : LootTemplate}
    (good : template.Good world.itemTemplates)
    (references : ∀ item ∈ template.entries, ∀ referenced,
      item.Leads world.references referenced →
        ProcessEnds world rate lootMode referenced item.groupid.toNat) :
    ProcessEnds world rate lootMode template 0 := by
  intro filling bounds
  have entry : ∀ item ∈ template.entries, ∀ filling : Filling, filling.WithinBounds world →
      ∃ next : Filling, next.WithinBounds world ∧ EndsWith
        (fun turns => item.processEntry world rate lootMode
          (LootTemplate.process world rate lootMode turns) filling) next := by
    intro item member filling bounds
    exact processEntry_ends (good.entries item member) (references item member) bounds
  obtain ⟨filled, filledBounds, isFilled⟩ := foldlM_ends entry bounds
  exact ⟨template.processGroups world lootMode filled, filledBounds.processGroups good,
    EndsWith.of_succ (fun _ => rfl) (isFilled.map _)⟩

theorem processEnds_of_reference (acyclic : Acyclic world.references) {id : Nat}
    {template : LootTemplate} (isTemplate : world.references.lookup id = some template)
    (groupId : Nat) : ProcessEnds world rate lootMode template groupId := by
  induction acyclic.acc id generalizing template groupId with
  | intro id _ induction =>
      have good := world.goodStore_references.lookup isTemplate
      by_cases isGroup : groupId = 0
      · subst isGroup
        refine processEnds_of_references good fun item member referenced leads => ?_
        by_cases notGrouped : item.groupid = 0
        · exact induction item.reference (leads.refers isTemplate member notGrouped) leads.2 _
        · have referencedGood := world.goodStore_references.lookup leads.2
          exact processEnds_of_group referencedGood fun isZero =>
            notGrouped (UInt8.toNat_inj.mp isZero)
      · exact processEnds_of_group good isGroup

/-- Whatever store the template is from, its references are in the one for references. -/
theorem processEnds_of_acyclic (acyclic : Acyclic world.references) {template : LootTemplate}
    (good : template.Good world.itemTemplates) (groupId : Nat) :
    ProcessEnds world rate lootMode template groupId := by
  by_cases isGroup : groupId = 0
  · subst isGroup
    exact processEnds_of_references good fun item _ referenced leads =>
      processEnds_of_reference acyclic leads.2 item.groupid.toNat
  · exact processEnds_of_group good isGroup

end Processing

/-! ## Generation -/

/-- All the questions and all the processing end, the latter within the bounds. -/
structure GenerationEnds (world : World) : Prop where
  hasQuestDrop : ∀ store ∈ world.stores, ∀ id template, store.lookup id = some template →
    ∀ groupId, Ends fun turns => LootTemplate.hasQuestDrop store turns template groupId
  hasQuestDropForPlayer : ∀ store ∈ world.stores, ∀ id template,
    store.lookup id = some template → ∀ player groupId,
      Ends fun turns => LootTemplate.hasQuestDropForPlayer store player turns template groupId
  process : ∀ store ∈ world.stores, ∀ id template, store.lookup id = some template →
    ∀ rate lootMode groupId, ProcessEnds world rate lootMode template groupId

theorem generationEnds_of_acyclic {world : World}
    (acyclic : ∀ store ∈ world.stores, Acyclic store) : GenerationEnds world where
  hasQuestDrop store member _ _ isTemplate groupId :=
    (acyclic store member).hasDrop_ends isTemplate groupId
  hasQuestDropForPlayer store member _ _ isTemplate _ groupId :=
    (acyclic store member).hasDrop_ends isTemplate groupId
  process _ member _ _ isTemplate _ _ groupId :=
    processEnds_of_acyclic (acyclic world.references List.mem_cons_self)
      ((world.goodStore_of_mem member).lookup isTemplate) groupId

/-- A player without quests has all the references followed. -/
theorem acyclic_of_generationEnds {world : World} (ends : GenerationEnds world)
    {store : LootTemplateMap} (member : store ∈ world.stores) : Acyclic store := by
  intro id circle
  obtain ⟨_, ⟨template, isTemplate, _⟩, _⟩ := Relation.TransGen.head'_iff.mp circle
  obtain ⟨found, bound, enough⟩ := ends.hasQuestDropForPlayer store member id template isTemplate
    ⟨false, fun _ => 0, fun _ => false, fun _ => none⟩ 0
  exact not_transGen_of_acc (acc_of_hasDrop isTemplate (enough bound le_rfl)) circle

/-- Loot generation ends, and within the bounds, exactly for tables without a circle of
references; whether there is one is not looked at when they are loaded. -/
theorem generationEnds_iff (world : World) :
    GenerationEnds world ↔ ∀ store ∈ world.stores, Acyclic store :=
  ⟨fun ends _ member => acyclic_of_generationEnds ends member, generationEnds_of_acyclic⟩

/-! ## A template which is its own reference -/

def selfReference : LootRow where
  entry := 1
  item := 1
  reference := 1
  chance := 100
  needsquest := false
  lootmode := 1
  groupid := 0
  mincount := 1
  maxcount := 1

def worldOfSelfReference : World where
  itemTemplates _ := none
  hasConditions _ := false
  rateReferenced := 1
  rateReferencedAmount := 1
  rolls := ⟨fun _ => 0, fun _ least _ => least, fun _ _ _ ordered => ⟨le_rfl, ordered⟩⟩
  referenceRows := [selfReference]
  otherRows := []

/-- The loader takes the row, `CheckLootRefs` reports nothing, and generation does not end. -/
theorem selfReference_never_ends :
    worldOfSelfReference.references.lookup 1 =
        some ⟨[selfReference.storeItem], []⟩ ∧
      (∀ known ∈ worldOfSelfReference.references,
        known.2.checkLootRefs worldOfSelfReference.references = []) ∧
      ¬ GenerationEnds worldOfSelfReference := by
  have isLoaded : worldOfSelfReference.references = [(1, ⟨[selfReference.storeItem], []⟩)] := by
    decide +kernel
  have isTemplate : worldOfSelfReference.references.lookup 1 =
      some ⟨[selfReference.storeItem], []⟩ := by
    rw [isLoaded]
    rfl
  refine ⟨isTemplate, by decide +kernel, fun ends => ?_⟩
  have circle : Refers worldOfSelfReference.references 1 1 :=
    ⟨_, isTemplate, selfReference.storeItem, List.mem_singleton_self _, rfl, Nat.one_pos, rfl,
      isTemplate ▸ Option.some_ne_none _⟩
  exact acyclic_of_generationEnds ends List.mem_cons_self 1 (.single circle)

end RealmServer.Looting
