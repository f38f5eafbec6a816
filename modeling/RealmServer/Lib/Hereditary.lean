import Mathlib

/-!
# Storing a hereditary family

A finite set is a list without repetitions here, up to permutation.  A
hereditary family contains the nonempty parts of its members; some members are
full.  An `Index` stores every member inside a ground set once, while the ground
set has no full member.  It is kept when an element leaves, and when an element
is introduced by combining it with what is stored already: a member with the
new element consists of it and a stored member.
-/

namespace RealmServer.Hereditary

universe u

variable {Element : Type u}

/-- A hereditary family; a member is either growing or full. -/
structure Family (Element : Type u) where
  growing : List Element → Prop
  full : List Element → Prop
  growing_perm : ∀ {first second}, first.Perm second → growing first → growing second
  full_perm : ∀ {first second}, first.Perm second → full first → full second
  growing_nonempty : ¬growing []
  full_nonempty : ¬full []
  apart : ∀ {set}, growing set → ¬full set
  smaller : ∀ {element set}, growing (element :: set) ∨ full (element :: set) → set ≠ [] →
    growing set ∨ full set

namespace Family

variable {family other : Family Element} {element : Element} {ground larger : List Element}
  {stored permuted picked : List (List Element)}

/-- What is stored are the growing members inside the ground set, each of them once. -/
structure Index (family : Family Element) (ground : List Element)
    (stored : List (List Element)) : Prop where
  nodup : ∀ set ∈ stored, set.Nodup
  within : ∀ set ∈ stored, set ⊆ ground
  growing : ∀ set ∈ stored, family.growing set
  complete : ∀ set : List Element, set.Nodup → set ⊆ ground → family.growing set →
    ∃ same ∈ stored, same.Perm set
  once : stored.Pairwise fun first second => ¬first.Perm second
  noneFull : ∀ set : List Element, set.Nodup → set ⊆ ground → ¬family.full set

theorem Index.nil (family : Family Element) : family.Index [] [] where
  nodup := fun _ member => absurd member List.not_mem_nil
  within := fun _ member => absurd member List.not_mem_nil
  growing := fun _ member => absurd member List.not_mem_nil
  complete := by
    intro set _ inside growing
    rw [List.subset_nil.mp inside] at growing
    exact absurd growing family.growing_nonempty
  once := List.Pairwise.nil
  noneFull := by
    intro set _ inside
    rw [List.subset_nil.mp inside]
    exact family.full_nonempty

/-- Only the part of the family inside the ground set matters. -/
theorem Index.congr (index : family.Index ground stored)
    (growing : ∀ set, set ⊆ ground → (family.growing set ↔ other.growing set))
    (full : ∀ set, set ⊆ ground → (family.full set ↔ other.full set)) :
    other.Index ground stored where
  __ := index
  growing := fun set member => (growing set (index.within set member)).mp (index.growing set member)
  complete := fun set nodup inside member =>
    index.complete set nodup inside ((growing set inside).mpr member)
  noneFull := fun set nodup inside member =>
    index.noneFull set nodup inside ((full set inside).mpr member)

theorem Index.perm (index : family.Index ground stored)
    (sameGround : ∀ element, element ∈ ground ↔ element ∈ larger)
    (sameStored : stored.Perm permuted) : family.Index larger permuted where
  nodup := fun set member => index.nodup set (sameStored.mem_iff.mpr member)
  within := fun set member _ inside =>
    (sameGround _).mp (index.within set (sameStored.mem_iff.mpr member) inside)
  growing := fun set member => index.growing set (sameStored.mem_iff.mpr member)
  complete := by
    intro set nodup inside growing
    obtain ⟨same, member, perm⟩ := index.complete set nodup
      (fun _ member => (sameGround _).mpr (inside member)) growing
    exact ⟨same, sameStored.mem_iff.mp member, perm⟩
  once := (sameStored.pairwise_iff fun differ same => differ same.symm).mp index.once
  noneFull := fun set nodup inside =>
    index.noneFull set nodup fun _ member => (sameGround _).mpr (inside member)

/-- An element leaves, and with it every set in which it is. -/
theorem Index.remove [DecidableEq Element] (index : family.Index ground stored)
    (element : Element) :
    family.Index (ground.filter (· ≠ element)) (stored.filter (element ∉ ·)) where
  nodup := fun set member => index.nodup set (List.mem_of_mem_filter member)
  within := by
    intro set member other inside
    have without : element ∉ set := by simpa using (List.mem_filter.mp member).2
    refine List.mem_filter.mpr ⟨index.within set (List.mem_of_mem_filter member) inside, ?_⟩
    simp only [decide_eq_true_eq]
    rintro rfl
    exact without inside
  growing := fun set member => index.growing set (List.mem_of_mem_filter member)
  complete := by
    intro set nodup inside growing
    obtain ⟨same, member, perm⟩ := index.complete set nodup
      (fun _ member => List.mem_of_mem_filter (inside member)) growing
    refine ⟨same, List.mem_filter.mpr ⟨member, ?_⟩, perm⟩
    simp only [decide_eq_true_eq]
    intro present
    have left := (List.mem_filter.mp (inside (perm.mem_iff.mp present))).2
    simp at left
  once := index.once.sublist List.filter_sublist
  noneFull := fun set nodup inside =>
    index.noneFull set nodup fun _ member => List.mem_of_mem_filter (inside member)

/-- What is left of a member when the elements in front go. -/
theorem member_of_append {front rest : List Element} (some : rest ≠ [])
    (member : family.growing (front ++ rest) ∨ family.full (front ++ rest)) :
    family.growing rest ∨ family.full rest := by
  induction front with
  | nil => exact member
  | cons element front induction =>
      exact induction (family.smaller member (List.append_ne_nil_of_right_ne_nil front some))

theorem member_alone [DecidableEq Element] {set : List Element} (present : element ∈ set)
    (member : family.growing set ∨ family.full set) :
    family.growing [element] ∨ family.full [element] := by
  have moved : set.Perm (set.erase element ++ [element]) :=
    (List.perm_cons_erase present).trans (List.perm_append_singleton element _).symm
  exact member_of_append (List.cons_ne_nil element [])
    (member.imp (family.growing_perm moved) (family.full_perm moved))

/-- A member with the new element, without it. -/
theorem Index.exists_stored [DecidableEq Element] (index : family.Index ground stored)
    {set : List Element} (nodup : set.Nodup) (inside : set ⊆ element :: ground)
    (present : element ∈ set) (member : family.growing set ∨ family.full set) :
    set.Perm [element] ∨ ∃ same ∈ stored, set.Perm (element :: same) := by
  have split : set.Perm (element :: set.erase element) := List.perm_cons_erase present
  have without := List.nodup_cons.mp (split.nodup_iff.mp nodup)
  by_cases alone : set.erase element = []
  · left
    rwa [alone] at split
  right
  have older : set.erase element ⊆ ground := by
    intro other member
    rcases List.mem_cons.mp (inside (List.mem_of_mem_erase member)) with rfl | old
    · exact absurd member without.1
    · exact old
  have whole : family.growing (element :: set.erase element) ∨
      family.full (element :: set.erase element) :=
    member.imp (family.growing_perm split) (family.full_perm split)
  rcases family.smaller whole alone with growing | full
  · obtain ⟨same, stored, perm⟩ := index.complete _ without.2 older growing
    exact ⟨same, stored, split.trans (perm.symm.cons element)⟩
  · exact absurd full (index.noneFull _ without.2 older)

/--
A new element is combined with every stored set.  `picked` are those with which
it is a growing member, and none with which it is a full one.
-/
theorem Index.introduce [DecidableEq Element] (index : family.Index ground stored)
    (new : element ∉ ground) (alone : family.growing [element])
    (noneFull : ∀ set ∈ stored, ¬family.full (element :: set))
    (sublist : picked.Sublist stored)
    (isPicked : ∀ set ∈ stored, family.growing (element :: set) → set ∈ picked)
    (pickedGrows : ∀ set ∈ picked, family.growing (element :: set))
    {put : List Element → List Element}
    (putPerm : ∀ set ∈ stored, (put set).Perm (element :: set)) :
    family.Index (element :: ground) ([element] :: (picked.map put ++ stored)) := by
  have absent : ∀ set ∈ stored, element ∉ set :=
    fun set member inside => new (index.within set member inside)
  have cases : ∀ {property : List Element → Prop}, property [element] →
      (∀ set ∈ picked, property (put set)) → (∀ set ∈ stored, property set) →
        ∀ set ∈ [element] :: (picked.map put ++ stored), property set := by
    intro property single combined old set member
    rcases List.mem_cons.mp member with rfl | member
    · exact single
    rcases List.mem_append.mp member with member | member
    · obtain ⟨before, isPicked, rfl⟩ := List.mem_map.mp member
      exact combined before isPicked
    · exact old set member
  refine ⟨?_, ?_, ?_, ?_, ?_, ?_⟩
  · refine cases (List.nodup_singleton element) (fun set member => ?_) index.nodup
    have isStored := sublist.subset member
    rw [(putPerm set isStored).nodup_iff]
    exact List.nodup_cons.mpr ⟨absent set isStored, index.nodup set isStored⟩
  · refine cases (List.cons_subset_cons element (List.nil_subset ground))
      (fun set member => ?_) fun set member => List.subset_cons_of_subset element
        (index.within set member)
    have isStored := sublist.subset member
    exact List.Subset.trans (putPerm set isStored).subset
      (List.cons_subset_cons element (index.within set isStored))
  · refine cases alone (fun set member => ?_) index.growing
    exact family.growing_perm (putPerm set (sublist.subset member)).symm (pickedGrows set member)
  · intro set nodup inside growing
    by_cases present : element ∈ set
    · rcases index.exists_stored nodup inside present (.inl growing) with
        single | ⟨same, isStored, perm⟩
      · exact ⟨[element], List.mem_cons_self, single.symm⟩
      · refine ⟨put same, List.mem_cons_of_mem _ (List.mem_append_left _ ?_),
          (putPerm same isStored).trans perm.symm⟩
        exact List.mem_map_of_mem (isPicked same isStored (family.growing_perm perm growing))
    · have older : set ⊆ ground := by
        intro other member
        rcases List.mem_cons.mp (inside member) with rfl | old
        · exact absurd member present
        · exact old
      obtain ⟨same, isStored, perm⟩ := index.complete set nodup older growing
      exact ⟨same, List.mem_cons_of_mem _ (List.mem_append_right _ isStored), perm⟩
  · rw [List.pairwise_cons, List.pairwise_append]
    refine ⟨?_, ?_, index.once, ?_⟩
    · intro set member perm
      rcases List.mem_append.mp member with member | member
      · obtain ⟨before, isPicked, rfl⟩ := List.mem_map.mp member
        have isStored := sublist.subset isPicked
        have length := (perm.trans (putPerm before isStored)).length_eq
        have nothing : before = [] := List.length_eq_zero_iff.mp (by simpa using length.symm)
        rw [nothing] at isStored
        exact family.growing_nonempty (index.growing [] isStored)
      · exact absent set member (perm.mem_iff.mp List.mem_cons_self)
    · rw [List.pairwise_map]
      refine (index.once.sublist sublist).imp_of_mem ?_
      intro first second isFirst isSecond differ perm
      apply differ
      have whole := (putPerm first (sublist.subset isFirst)).symm.trans
        (perm.trans (putPerm second (sublist.subset isSecond)))
      exact whole.cons_inv
    · intro combined isCombined set member perm
      obtain ⟨before, isPicked, rfl⟩ := List.mem_map.mp isCombined
      have inFront := (putPerm before (sublist.subset isPicked)).symm.trans perm
      exact absent set member (inFront.mem_iff.mp List.mem_cons_self)
  · intro set nodup inside full
    by_cases present : element ∈ set
    · rcases index.exists_stored nodup inside present (.inr full) with
        single | ⟨same, isStored, perm⟩
      · exact family.apart alone (family.full_perm single full)
      · exact noneFull same isStored (family.full_perm perm full)
    · refine index.noneFull set nodup ?_ full
      intro other member
      rcases List.mem_cons.mp (inside member) with rfl | old
      · exact absurd member present
      · exact old

end Family

end RealmServer.Hereditary
