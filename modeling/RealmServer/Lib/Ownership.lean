import RealmServer.Lib.Recursion

/-!
# Ownership

Where nothing has two owners, what is reached from two roots is disjoint, and
from a root there is no way into a circle.  So whatever frees a root and all it
owns comes to an end and frees each of them once.
-/

namespace RealmServer.Ownership

open Recursion

universe u

variable {Node : Type u}

section Owners

variable {owns : Node → Node → Prop} {first second target : Node}

def Unique (owns : Node → Node → Prop) : Prop :=
  ∀ first second target, owns first target → owns second target → first = second

def Root (owns : Node → Node → Prop) (node : Node) : Prop := ∀ owner, ¬ owns owner node

abbrev Reaches (owns : Node → Node → Prop) : Node → Node → Prop := Relation.ReflTransGen owns

theorem Root.eq_of_reaches (root : Root owns second) (reaches : Reaches owns first second) :
    first = second := by
  cases reaches with
  | refl => rfl
  | tail _ owned => exact absurd owned (root _)

/-- Of two owners of the same thing one owns the other. -/
theorem Unique.comparable (unique : Unique owns) (fromFirst : Reaches owns first target)
    (fromSecond : Reaches owns second target) :
    Reaches owns first second ∨ Reaches owns second first := by
  induction fromFirst with
  | refl => exact .inr fromSecond
  | @tail middle target before owned induction =>
      cases fromSecond with
      | refl => exact .inl (before.tail owned)
      | @tail other _ otherBefore otherOwned =>
          have same := unique middle other target owned otherOwned
          subst same
          exact induction otherBefore

theorem Unique.eq_of_roots (unique : Unique owns) (firstRoot : Root owns first)
    (secondRoot : Root owns second) (fromFirst : Reaches owns first target)
    (fromSecond : Reaches owns second target) : first = second := by
  rcases unique.comparable fromFirst fromSecond with reaches | reaches
  · exact secondRoot.eq_of_reaches reaches
  · exact (firstRoot.eq_of_reaches reaches).symm

theorem Unique.circle_of_reaches (unique : Unique owns) (reaches : Reaches owns first target)
    (circle : Relation.TransGen owns target target) : Relation.TransGen owns first first := by
  induction reaches with
  | refl => exact circle
  | @tail middle target _ owned induction =>
      apply induction
      obtain ⟨last, around, back⟩ := Relation.TransGen.tail'_iff.mp circle
      have same := unique last middle target back owned
      subst same
      exact Relation.TransGen.head' owned around

theorem Root.not_circle (root : Root owns first) : ¬ Relation.TransGen owns first first := by
  intro circle
  obtain ⟨last, _, back⟩ := Relation.TransGen.tail'_iff.mp circle
  exact root last back

theorem Root.acc (root : Root owns first) (unique : Unique owns) {targets : List Node}
    (finite : ∀ owner node, owns owner node → node ∈ targets) :
    Acc (fun node owner => owns owner node) first := by
  let inside : Node → Node → Prop := fun owner node => Reaches owns first owner ∧ owns owner node
  have acyclic : ∀ node, ¬ Relation.TransGen inside node node := by
    intro node circle
    obtain ⟨_, ⟨reaches, _⟩, _⟩ := Relation.TransGen.head'_iff.mp circle
    have weaker : inside ≤ owns := fun _ _ step => step.2
    have owned : Relation.TransGen owns node node := Relation.TransGen.mono weaker _ _ circle
    exact root.not_circle (unique.circle_of_reaches reaches owned)
  have accInside : ∀ node, Acc (fun node owner => inside owner node) node :=
    acc_of_acyclic (fun owner node step => finite owner node step.2) acyclic
  have reached : ∀ node, Reaches owns first node →
      Acc (fun node owner => owns owner node) node := by
    intro node
    induction accInside node with
    | intro node _ induction =>
        intro reaches
        exact ⟨node, fun next owned =>
          induction next ⟨reaches, owned⟩ (reaches.tail owned)⟩
  exact reached first .refl

end Owners

/-! ## All that is owned -/

section Subtree

variable {owned : Node → List Node}

/-- The node and all that it owns; the owned ones have one turn less. -/
def subtree (owned : Node → List Node) : Nat → Node → Option (List Node)
  | 0, _ => none
  | turns + 1, node =>
      ((owned node).mapM (subtree owned turns)).map fun parts => node :: parts.flatten

/-- What a list has of the node and of all that it owns, each of them once. -/
structure IsSubtree (owned : Node → List Node) (node : Node) (nodes : List Node) : Prop where
  nodup : nodes.Nodup
  mem_iff : ∀ other, other ∈ nodes ↔ Reaches (fun owner target => target ∈ owned owner) node other

theorem IsSubtree.cons (unique : Unique fun owner target => target ∈ owned owner) {node : Node}
    (nodup : (owned node).Nodup)
    (notCircle : ¬ Relation.TransGen (fun owner target => target ∈ owned owner) node node)
    {parts : Node → List Node}
    (isPart : ∀ child ∈ owned node, IsSubtree owned child (parts child)) :
    IsSubtree owned node (node :: ((owned node).map parts).flatten) := by
  have inParts : ∀ other, other ∈ ((owned node).map parts).flatten ↔
      ∃ child ∈ owned node, Reaches (fun owner target => target ∈ owned owner) child other := by
    intro other
    rw [← List.flatMap_def, List.mem_flatMap]
    refine exists_congr fun child => and_congr_right fun member => ?_
    exact (isPart child member).mem_iff other
  refine ⟨List.nodup_cons.mpr ⟨?_, ?_⟩, ?_⟩
  · rw [inParts]
    rintro ⟨child, member, reaches⟩
    exact notCircle (Relation.TransGen.head' member reaches)
  · rw [← List.flatMap_def, List.nodup_flatMap]
    refine ⟨fun child member => (isPart child member).nodup, ?_⟩
    refine List.Pairwise.imp_of_mem ?_ nodup
    intro first second firstMember secondMember differ other inFirst inSecond
    rw [(isPart first firstMember).mem_iff] at inFirst
    rw [(isPart second secondMember).mem_iff] at inSecond
    -- one of the two would own the other, and the node itself
    have impossible : ∀ child ∈ owned node, ∀ sibling ∈ owned node, child ≠ sibling →
        ¬ Reaches (fun owner target => target ∈ owned owner) child sibling := by
      intro child childMember sibling siblingMember apart reaches
      rcases Relation.ReflTransGen.cases_tail reaches with same | ⟨last, before, isOwned⟩
      · exact apart same.symm
      · have isNode := unique last node sibling isOwned siblingMember
        subst isNode
        exact notCircle (Relation.TransGen.head' childMember before)
    rcases unique.comparable inFirst inSecond with reaches | reaches
    · exact impossible first firstMember second secondMember differ reaches
    · exact impossible second secondMember first firstMember differ.symm reaches
  · intro other
    rw [List.mem_cons, inParts]
    have cases := @Relation.ReflTransGen.cases_head_iff Node
      (fun owner target => target ∈ owned owner) node other
    exact (or_congr_left eq_comm).trans cases.symm

theorem subtree_ends (unique : Unique fun owner target => target ∈ owned owner)
    (nodup : ∀ node, (owned node).Nodup) {node : Node}
    (acc : Acc (fun target owner => target ∈ owned owner) node) :
    ∃ nodes, IsSubtree owned node nodes ∧
      EndsWith (fun turns => subtree owned turns node) nodes := by
  induction acc with
  | intro node acc induction =>
      have children : ∀ child ∈ owned node, ∃ nodes, IsSubtree owned child nodes ∧
          EndsWith (fun turns => subtree owned turns child) nodes := induction
      choose! parts isPart ends using children
      have notCircle := @not_transGen_of_acc _ (fun owner target => target ∈ owned owner) node
        (Acc.intro node acc)
      exact ⟨_, IsSubtree.cons unique (nodup node) notCircle isPart,
        EndsWith.of_succ (fun _ => rfl) ((mapM_ends ends).map _)⟩

end Subtree

end RealmServer.Ownership
