import Mathlib

/-!
# Loot tables

A loot template has entries, which are items or references to templates of the
reference table, and groups of which one item drops.  The loader takes the rows
of a table which are valid one by one; whether references exist is only
reported, and nothing looks at where they lead.
-/

namespace RealmServer.Looting

/-- A row of a `*_loot_template` table. -/
structure LootRow where
  entry : Nat
  item : Nat
  reference : Nat
  chance : ℚ
  needsquest : Bool
  lootmode : BitVec 16
  groupid : UInt8
  mincount : UInt8
  maxcount : UInt8
deriving DecidableEq, Repr

structure LootStoreItem where
  itemid : Nat
  reference : Nat
  chance : ℚ
  lootmode : BitVec 16
  needsQuest : Bool
  groupid : UInt8
  mincount : UInt8
  maxcount : UInt8
  /-- Whether the loader of the conditions left some for the item. -/
  hasConditions : Bool
deriving DecidableEq, Repr

structure LootGroup where
  explicitlyChanced : List LootStoreItem
  equalChanced : List LootStoreItem
deriving DecidableEq, Repr

structure LootTemplate where
  entries : List LootStoreItem
  groups : List (Option LootGroup)
deriving DecidableEq, Repr

abbrev LootTemplateMap := List (Nat × LootTemplate)

structure ItemTemplate where
  displayInfoID : Nat
  stackable : ℤ
  isMultiDrop : Bool
  /-- The drop rate of its quality. -/
  qualityRate : ℚ
deriving DecidableEq, Repr

def ItemTemplate.getMaxStackSize (proto : ItemTemplate) : Nat :=
  if proto.stackable = 2147483647 ∨ proto.stackable ≤ 0 then 0x7FFFFFFF - 1
  else proto.stackable.toNat

theorem ItemTemplate.getMaxStackSize_pos (proto : ItemTemplate) : 0 < proto.getMaxStackSize := by
  unfold getMaxStackSize
  split_ifs with unlimited
  · decide
  · omega

/-- `sObjectMgr->GetItemTemplate`. -/
abbrev ItemTemplates := Nat → Option ItemTemplate

/-! ## Loading -/

def LootStoreItem.isValid (templates : ItemTemplates) (item : LootStoreItem) : Bool :=
  if item.mincount = 0 then false
  else if item.reference = 0 then
    if templates item.itemid = none then false
    else if item.chance = 0 ∧ item.groupid = 0 then false
    else if item.chance ≠ 0 ∧ item.chance < 1 / 1000000 then false
    else if item.maxcount < item.mincount then false
    else true
  else if item.needsQuest then true
  else if item.chance = 0 then false
  else true

def LootGroup.addEntry (group : LootGroup) (item : LootStoreItem) : LootGroup :=
  if item.chance ≠ 0 then
    { group with explicitlyChanced := group.explicitlyChanced ++ [item] }
  else { group with equalChanced := group.equalChanced ++ [item] }

/-- `Groups.resize`, where there are not enough of them. -/
def LootTemplate.resizedGroups (template : LootTemplate) (groupid : Nat) :
    List (Option LootGroup) :=
  if template.groups.length ≤ groupid then
    template.groups ++ List.replicate (groupid - template.groups.length) none
  else template.groups

def LootTemplate.addEntry (template : LootTemplate) (item : LootStoreItem) : LootTemplate :=
  if 0 < item.groupid ∧ item.reference = 0 then
    { template with
      groups := (template.resizedGroups item.groupid.toNat).modify (item.groupid.toNat - 1)
        fun group => some ((group.getD ⟨[], []⟩).addEntry item) }
  else { template with entries := template.entries ++ [item] }

/-- The template of an entry with one more row. -/
def addRow (store : LootTemplateMap) (entry : Nat) (item : LootStoreItem) : LootTemplateMap :=
  match store.lookup entry with
  | none => store ++ [(entry, LootTemplate.addEntry ⟨[], []⟩ item)]
  | some _ => store.map fun known =>
      if known.1 = entry then (known.1, known.2.addEntry item) else known

def LootRow.storeItem (row : LootRow) : LootStoreItem where
  itemid := row.item
  reference := row.reference
  chance := row.chance
  lootmode := row.lootmode
  needsQuest := row.needsquest
  groupid := row.groupid
  mincount := row.mincount
  maxcount := row.maxcount
  hasConditions := false

/-- The rows one after the other; a wrong group id ends the loading. -/
def loadRows (templates : ItemTemplates) : List LootRow → LootTemplateMap → LootTemplateMap
  | [], store => store
  | row :: later, store =>
      if 2 ^ 7 ≤ row.groupid.toNat then store
      else if row.storeItem.isValid templates then
        loadRows templates later (addRow store row.entry row.storeItem)
      else loadRows templates later store

def loadLootTable (templates : ItemTemplates) (rows : List LootRow) : LootTemplateMap :=
  loadRows templates rows []

/-- `CheckLootRefs` of a template: the missing references it reports. -/
def LootTemplate.checkLootRefs (references : LootTemplateMap) (template : LootTemplate) :
    List Nat :=
  (template.entries.filter fun item =>
    0 < item.reference && (references.lookup item.reference).isNone).map LootStoreItem.reference

/-! ## What is loaded -/

def LootGroup.items (group : LootGroup) : List LootStoreItem :=
  group.explicitlyChanced ++ group.equalChanced

/-- An item which may drop: it exists, and its counts are in order. -/
structure LootStoreItem.Drops (templates : ItemTemplates) (item : LootStoreItem) : Prop where
  exists_template : templates item.itemid ≠ none
  counts : item.mincount ≤ item.maxcount

structure LootTemplate.Good (templates : ItemTemplates) (template : LootTemplate) : Prop where
  entries : ∀ item ∈ template.entries, item.reference = 0 → item.Drops templates
  grouped : ∀ group, some group ∈ template.groups →
    ∀ item ∈ group.items, item.Drops templates

def GoodStore (templates : ItemTemplates) (store : LootTemplateMap) : Prop :=
  ∀ known ∈ store, known.2.Good templates

variable {templates : ItemTemplates} {item : LootStoreItem}

theorem drops_of_isValid (isValid : item.isValid templates = true)
    (notReference : item.reference = 0) : item.Drops templates := by
  unfold LootStoreItem.isValid at isValid
  rw [if_pos notReference] at isValid
  split_ifs at isValid with noCount noTemplate noGroup low wrong
  exact ⟨noTemplate, UInt8.not_lt.mp wrong⟩

theorem LootGroup.mem_addEntry {group : LootGroup} {other : LootStoreItem}
    (member : other ∈ (group.addEntry item).items) : other ∈ group.items ∨ other = item := by
  unfold LootGroup.addEntry at member
  unfold LootGroup.items at member ⊢
  split_ifs at member with isChanced
  all_goals
    simp only [List.mem_append, List.mem_singleton] at member ⊢
    tauto

/-- A group after a row is one from before, no group at all, or has the new item. -/
theorem LootTemplate.mem_groups_addEntry {template : LootTemplate} {items : LootGroup}
    {other : LootStoreItem} (member : some items ∈ (template.addEntry item).groups)
    (otherMember : other ∈ items.items) :
    (∃ before, some before ∈ template.groups ∧ other ∈ before.items) ∨
      other = item ∧ item.reference = 0 := by
  have ofResized : ∀ group, some group ∈ template.resizedGroups item.groupid.toNat →
      some group ∈ template.groups := by
    intro group resized
    unfold LootTemplate.resizedGroups at resized
    split_ifs at resized
    · exact (List.mem_append.mp resized).resolve_right fun new =>
        absurd (List.eq_of_mem_replicate new) (Option.some_ne_none group)
    · exact resized
  unfold LootTemplate.addEntry at member
  split_ifs at member with isGrouped
  · obtain ⟨position, inBounds, isGroup⟩ := List.mem_iff_getElem.mp member
    rw [List.getElem_modify] at isGroup
    rw [List.length_modify] at inBounds
    have known := List.getElem_mem inBounds
    split_ifs at isGroup with isPosition
    · rw [← Option.some.inj isGroup] at otherMember
      rcases LootGroup.mem_addEntry otherMember with old | isNew
      · cases isKnown : (template.resizedGroups item.groupid.toNat)[position] with
        | none =>
            rw [isKnown] at old
            exact absurd old List.not_mem_nil
        | some group =>
            rw [isKnown] at old known
            exact .inl ⟨group, ofResized group known, old⟩
      · exact .inr ⟨isNew, isGrouped.2⟩
    · rw [isGroup] at known
      exact .inl ⟨items, ofResized items known, otherMember⟩
  · exact .inl ⟨items, member, otherMember⟩

theorem LootTemplate.Good.addEntry {template : LootTemplate} (good : template.Good templates)
    (isValid : item.isValid templates = true) : (template.addEntry item).Good templates := by
  refine ⟨fun other member notReference => ?_, fun items member other otherMember => ?_⟩
  · have oldOrNew : other ∈ template.entries ∨ other = item := by
      unfold LootTemplate.addEntry at member
      split_ifs at member
      · exact .inl member
      · exact (List.mem_append.mp member).imp_right List.mem_singleton.mp
    rcases oldOrNew with old | isNew
    · exact good.entries other old notReference
    · subst isNew
      exact drops_of_isValid isValid notReference
  · rcases LootTemplate.mem_groups_addEntry member otherMember with old | ⟨isNew, notReference⟩
    · obtain ⟨before, known, inBefore⟩ := old
      exact good.grouped before known other inBefore
    · subst isNew
      exact drops_of_isValid isValid notReference

theorem LootTemplate.good_empty : LootTemplate.Good templates ⟨[], []⟩ :=
  ⟨fun _ member => absurd member List.not_mem_nil, fun _ member => absurd member List.not_mem_nil⟩

theorem GoodStore.addRow {store : LootTemplateMap} (good : GoodStore templates store)
    (isValid : item.isValid templates = true) (entry : Nat) :
    GoodStore templates (addRow store entry item) := by
  intro known member
  unfold Looting.addRow at member
  split at member
  · rcases List.mem_append.mp member with old | isNew
    · exact good known old
    · rw [List.mem_singleton.mp isNew]
      exact LootTemplate.good_empty.addEntry isValid
  · obtain ⟨before, old, isKnown⟩ := List.mem_map.mp member
    rw [← isKnown]
    split_ifs
    · exact (good before old).addEntry isValid
    · exact good before old

theorem GoodStore.loadRows {store : LootTemplateMap} (good : GoodStore templates store)
    (rows : List LootRow) : GoodStore templates (loadRows templates rows store) := by
  induction rows generalizing store with
  | nil => exact good
  | cons row later induction =>
      unfold Looting.loadRows
      split_ifs with wrongGroup isValid
      · exact good
      · exact induction (good.addRow isValid row.entry)
      · exact induction good

/-- What the loader lets through is in order, apart from where the references lead. -/
theorem goodStore_loadLootTable (rows : List LootRow) :
    GoodStore templates (loadLootTable templates rows) :=
  GoodStore.loadRows (fun _ member => absurd member List.not_mem_nil) rows

end RealmServer.Looting
