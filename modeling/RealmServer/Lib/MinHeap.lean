import Mathlib.Data.List.Basic
import Mathlib.Order.Lattice
import Mathlib.Order.Defs.LinearOrder
import Mathlib.Tactic.SplitIfs

/-!
# Binary heaps in lists

The least element is in front, and every other one has its parent at half of its
position.  `pushHeap` lets the last element rise to its place.  `popHeap` puts the
front behind all others: a hole sinks from the front to a leaf, always to the
smaller child, and the element which was the last rises from there.  Both keep
the elements, and the heap order of what they are to order.
-/

namespace RealmServer.MinHeap

universe u

variable {Element : Type u}

/-! ## Exchanging elements -/

def swap (heap : List Element) (first second : Nat) : List Element :=
  match heap[first]?, heap[second]? with
  | some lower, some upper => (heap.set first upper).set second lower
  | _, _ => heap

section Swapping

variable {heap : List Element} {first second : Nat} {lower upper : Element}

theorem swap_eq (isLower : heap[first]? = some lower) (isUpper : heap[second]? = some upper) :
    swap heap first second = (heap.set first upper).set second lower := by
  rw [swap, isLower, isUpper]

theorem length_swap (heap : List Element) (first second : Nat) :
    (swap heap first second).length = heap.length := by
  rw [swap]
  split
  · rw [List.length_set, List.length_set]
  · rfl

theorem swap_perm (heap : List Element) (first second : Nat) :
    (swap heap first second).Perm heap := by
  rw [swap]
  split
  · rename_i lower upper isLower isUpper
    obtain ⟨inside, rfl⟩ := List.getElem?_eq_some_iff.1 isLower
    obtain ⟨insideSecond, rfl⟩ := List.getElem?_eq_some_iff.1 isUpper
    exact List.set_set_perm inside insideSecond
  · exact List.Perm.refl _

theorem getElem?_swap_second (isLower : heap[first]? = some lower)
    (isUpper : heap[second]? = some upper) : (swap heap first second)[second]? = some lower := by
  obtain ⟨inside, _⟩ := List.getElem?_eq_some_iff.1 isUpper
  rw [swap_eq isLower isUpper, List.getElem?_set_self (by rw [List.length_set]; exact inside)]

theorem getElem?_swap_first (isLower : heap[first]? = some lower)
    (isUpper : heap[second]? = some upper) (other : first ≠ second) :
    (swap heap first second)[first]? = some upper := by
  obtain ⟨inside, _⟩ := List.getElem?_eq_some_iff.1 isLower
  rw [swap_eq isLower isUpper, List.getElem?_set_ne other.symm, List.getElem?_set_self inside]

theorem getElem?_swap_of_ne {position : Nat} (notFirst : position ≠ first)
    (notSecond : position ≠ second) : (swap heap first second)[position]? = heap[position]? := by
  rw [swap]
  split
  · rw [List.getElem?_set_ne notSecond.symm, List.getElem?_set_ne notFirst.symm]
  · rfl

end Swapping

variable [LinearOrder Element]

/-! ## The order -/

def parent (position : Nat) : Nat := (position - 1) / 2

/-- The first element is not above the second one, if both are there. -/
def AtMost (first second : Option Element) : Prop :=
  ∀ lower ∈ first, ∀ upper ∈ second, lower ≤ upper

def IsHeap (heap : List Element) : Prop :=
  ∀ child, 0 < child → AtMost heap[parent child]? heap[child]?

theorem parent_lt {child : Nat} (positive : 0 < child) : parent child < child := by
  rw [parent]
  omega

theorem atMost_none (first : Option Element) : AtMost first none := nofun

theorem atMost_some {lower upper : Element} :
    AtMost (some lower) (some upper) ↔ lower ≤ upper := by
  constructor
  · intro ordered
    exact ordered lower rfl upper rfl
  · intro le first isFirst second isSecond
    rw [← Option.some.inj isFirst, ← Option.some.inj isSecond]
    exact le

/-- The element between two others is there. -/
theorem AtMost.trans {first third : Option Element} {middle : Element}
    (lower : AtMost first (some middle)) (upper : AtMost (some middle) third) :
    AtMost first third := fun least isLeast greatest isGreatest =>
  (lower least isLeast middle rfl).trans (upper middle rfl greatest isGreatest)

theorem IsHeap.le_of_mem {front : Element} {rest : List Element}
    (isHeap : IsHeap (front :: rest)) : ∀ element ∈ front :: rest, front ≤ element := by
  have reached : ∀ position : Nat, AtMost (some front) (front :: rest)[position]? := by
    intro position
    induction position using Nat.strong_induction_on with
    | h position induction =>
        rcases Nat.eq_zero_or_pos position with rfl | positive
        · exact atMost_some.2 le_rfl
        · have shorter := parent_lt positive
          cases found : (front :: rest)[position]? with
          | none => exact atMost_none _
          | some element =>
              obtain ⟨inside, _⟩ := List.getElem?_eq_some_iff.1 found
              have above := List.getElem?_eq_getElem (shorter.trans inside)
              have ordered := isHeap position positive
              have lower := induction (parent position) shorter
              rw [above] at ordered lower
              rw [found] at ordered
              exact lower.trans ordered
  intro element member
  obtain ⟨position, found⟩ := List.getElem?_of_mem member
  exact reached position front rfl element found

theorem isHeap_nil : IsHeap ([] : List Element) := by
  intro child _
  exact atMost_none _

theorem IsHeap.take {heap : List Element} (isHeap : IsHeap heap) (length : Nat) :
    IsHeap (heap.take length) := by
  intro child positive
  rw [List.getElem?_take, List.getElem?_take]
  split_ifs with above inside inside
  · exact isHeap child positive
  · exact atMost_none _
  · exact absurd ((parent_lt positive).trans inside) above
  · exact atMost_none _

/-- An element which is not below any other may stand at the end. -/
theorem IsHeap.concat {heap : List Element} (isHeap : IsHeap heap) {last : Element}
    (greatest : ∀ element ∈ heap, element ≤ last) : IsHeap (heap ++ [last]) := by
  intro child positive
  have shorter := parent_lt positive
  rcases Nat.lt_trichotomy child heap.length with before | rfl | behind
  · rw [List.getElem?_append_left before, List.getElem?_append_left (shorter.trans before)]
    exact isHeap child positive
  · rw [List.getElem?_append_left shorter, List.getElem?_concat_length,
      List.getElem?_eq_getElem shorter, atMost_some]
    exact greatest _ (List.getElem_mem shorter)
  · have missing : (heap ++ [last])[child]? = none := by
      apply List.getElem?_eq_none
      rw [List.length_append, List.length_singleton]
      exact behind
    rw [missing]
    exact atMost_none _

/-! ## Rising -/

/-- The element at a position rises while its parent is above it. -/
def siftUp (heap : List Element) (hole : Nat) : List Element :=
  match heap[parent hole]?, heap[hole]? with
  | some above, some element =>
      if _rises : 0 < hole ∧ element < above then
        siftUp (swap heap hole (parent hole)) (parent hole)
      else heap
  | _, _ => heap
termination_by hole
decreasing_by exact parent_lt _rises.1

/-- Only the element of the hole may be below its parent. -/
structure UpReady (heap : List Element) (hole : Nat) : Prop where
  ordered : ∀ child, 0 < child → child ≠ hole → AtMost heap[parent child]? heap[child]?
  grand : 0 < hole → ∀ child, 0 < child → parent child = hole →
    AtMost heap[parent hole]? heap[child]?

theorem UpReady.swap {heap : List Element} {hole : Nat} (ready : UpReady heap hole)
    {above element : Element} (isAbove : heap[parent hole]? = some above)
    (isElement : heap[hole]? = some element) (positive : 0 < hole) (rises : element < above) :
    UpReady (swap heap hole (parent hole)) (parent hole) := by
  have shorter := parent_lt positive
  have atParent := getElem?_swap_second isElement isAbove
  have atHole := getElem?_swap_first isElement isAbove shorter.ne'
  constructor
  · intro child childPositive notParent
    have childShorter := parent_lt childPositive
    by_cases isHole : child = hole
    · rw [isHole, atParent, atHole, atMost_some]
      exact rises.le
    · rw [getElem?_swap_of_ne isHole notParent]
      have old := ready.ordered child childPositive isHole
      by_cases below : parent child = hole
      · rw [below, atHole, ← isAbove]
        exact ready.grand positive child childPositive below
      · by_cases sibling : parent child = parent hole
        · rw [sibling, isAbove] at old
          rw [sibling, atParent]
          exact (atMost_some.2 rises.le).trans old
        · rw [getElem?_swap_of_ne below sibling]
          exact old
  · intro parentPositive child childPositive isChild
    have grandShorter := parent_lt parentPositive
    have upper := ready.ordered (parent hole) parentPositive shorter.ne
    rw [getElem?_swap_of_ne (grandShorter.trans shorter).ne grandShorter.ne]
    rw [isAbove] at upper
    by_cases isHole : child = hole
    · rw [isHole, atHole]
      exact upper
    · have notParent : child ≠ parent hole := by
        rw [← isChild]
        exact (parent_lt childPositive).ne'
      have old := ready.ordered child childPositive isHole
      rw [isChild, isAbove] at old
      rw [getElem?_swap_of_ne isHole notParent]
      exact upper.trans old

theorem UpReady.siftUp {heap : List Element} {hole : Nat} (ready : UpReady heap hole) :
    IsHeap (siftUp heap hole) := by
  induction heap, hole using siftUp.induct with
  | case1 heap hole above element isElement isAbove rises induction =>
      rw [MinHeap.siftUp, isElement, isAbove]
      simp only [dif_pos rises]
      exact induction (ready.swap isAbove isElement rises.1 rises.2)
  | case2 heap hole above element isElement isAbove stays =>
      rw [MinHeap.siftUp, isElement, isAbove]
      simp only [dif_neg stays]
      intro child positive
      by_cases isHole : child = hole
      · rw [isHole, isAbove, isElement, atMost_some]
        rw [isHole] at positive
        exact not_lt.1 fun rises => stays ⟨positive, rises⟩
      · exact ready.ordered child positive isHole
  | case3 heap hole missing =>
      have same : MinHeap.siftUp heap hole = heap := by
        rw [MinHeap.siftUp]
        split
        · rename_i above element isAbove isElement
          exact absurd isElement (missing above element isAbove)
        · rfl
      rw [same]
      intro child positive
      by_cases isHole : child = hole
      · cases isElement : heap[child]? with
        | none => exact atMost_none _
        | some element =>
            cases isAbove : heap[parent child]? with
            | none => exact nofun
            | some above =>
                rw [isHole] at isElement isAbove
                exact absurd isElement (missing above element isAbove)
      · exact ready.ordered child positive isHole

theorem siftUp_perm (heap : List Element) (hole : Nat) : (siftUp heap hole).Perm heap := by
  induction heap, hole using siftUp.induct with
  | case1 heap hole above element isElement isAbove rises induction =>
      rw [siftUp, isElement, isAbove]
      simp only [dif_pos rises]
      exact induction.trans (swap_perm heap hole (parent hole))
  | case2 heap hole above element isElement isAbove stays =>
      rw [siftUp, isElement, isAbove]
      simp only [dif_neg stays]
      exact List.Perm.refl _
  | case3 heap hole missing =>
      rw [siftUp]
      split
      · rename_i above element isAbove isElement
        exact absurd isElement (missing above element isAbove)
      · exact List.Perm.refl _

/-- `std::push_heap` with `std::greater`.  An empty range is outside its precondition; nothing is
done to it here. -/
def pushHeap (heap : List Element) : List Element := siftUp heap (heap.length - 1)

theorem pushHeap_perm (heap : List Element) : (pushHeap heap).Perm heap := siftUp_perm heap _

theorem pushHeap_isHeap {heap : List Element} (isHeap : IsHeap heap.dropLast) :
    IsHeap (pushHeap heap) := by
  have before (child : Nat) (inside : child < heap.length - 1) :
      heap.dropLast[child]? = heap[child]? := by
    rw [List.dropLast_eq_take, List.getElem?_take_of_lt inside]
  apply UpReady.siftUp
  constructor
  · intro child positive notLast
    rcases Nat.lt_or_ge child heap.length with inside | outside
    · have shorter := parent_lt positive
      have ordered := isHeap child positive
      rw [before child (by omega), before (parent child) (by omega)] at ordered
      exact ordered
    · rw [List.getElem?_eq_none outside]
      exact atMost_none _
  · intro _ child positive isChild
    have shorter := parent_lt positive
    rw [List.getElem?_eq_none (show heap.length ≤ child by omega)]
    exact atMost_none _

/-! ## Sinking -/

/-- The smaller one of the children of a position, the right one of equal ones. -/
def smallerChild (heap : List Element) (position : Nat) : Option Nat :=
  match heap[2 * position + 1]?, heap[2 * position + 2]? with
  | none, _ => none
  | some _, none => some (2 * position + 1)
  | some left, some right =>
      if left < right then some (2 * position + 1) else some (2 * position + 2)

theorem eq_of_parent {child position : Nat} (positive : 0 < child)
    (isChild : parent child = position) : child = 2 * position + 1 ∨ child = 2 * position + 2 := by
  rw [parent] at isChild
  omega

theorem parent_left (position : Nat) : parent (2 * position + 1) = position := by
  rw [parent]
  omega

theorem parent_right (position : Nat) : parent (2 * position + 2) = position := by
  rw [parent]
  omega

theorem smallerChild_none {heap : List Element} {position : Nat}
    (leaf : smallerChild heap position = none) {child : Nat} (positive : 0 < child)
    (isChild : parent child = position) : heap[child]? = none := by
  rw [smallerChild] at leaf
  split at leaf
  · rename_i noLeft
    have outside := List.getElem?_eq_none_iff.1 noLeft
    apply List.getElem?_eq_none
    rcases eq_of_parent positive isChild with isLeft | isRight <;> omega
  · cases leaf
  · split_ifs at leaf

/-- The child which is found is there and not above the other one. -/
structure IsSmaller (heap : List Element) (position child : Nat) : Prop where
  positive : 0 < child
  isChild : parent child = position
  inside : child < heap.length
  smaller : ∀ other, 0 < other → parent other = position → AtMost heap[child]? heap[other]?

theorem smallerChild_some {heap : List Element} {position child : Nat}
    (found : smallerChild heap position = some child) : IsSmaller heap position child := by
  rw [smallerChild] at found
  split at found
  · cases found
  · rename_i left isLeft noRight
    obtain ⟨inside, _⟩ := List.getElem?_eq_some_iff.1 isLeft
    rw [← Option.some.inj found]
    refine ⟨by omega, parent_left position, inside, fun other positive isChild => ?_⟩
    rcases eq_of_parent positive isChild with rfl | rfl
    · rw [isLeft, atMost_some]
    · rw [noRight]
      exact atMost_none _
  · rename_i left right isLeft isRight
    obtain ⟨insideLeft, _⟩ := List.getElem?_eq_some_iff.1 isLeft
    obtain ⟨insideRight, _⟩ := List.getElem?_eq_some_iff.1 isRight
    split_ifs at found with less
    · rw [← Option.some.inj found]
      refine ⟨by omega, parent_left position, insideLeft, fun other positive isChild => ?_⟩
      rcases eq_of_parent positive isChild with rfl | rfl
      · rw [isLeft, atMost_some]
      · rw [isLeft, isRight, atMost_some]
        exact less.le
    · rw [← Option.some.inj found]
      refine ⟨by omega, parent_right position, insideRight, fun other positive isChild => ?_⟩
      rcases eq_of_parent positive isChild with rfl | rfl
      · rw [isLeft, isRight, atMost_some]
        exact not_lt.1 less
      · rw [isRight, atMost_some]

/-- The hole with its element sinks to a leaf. -/
def sink (heap : List Element) (hole : Nat) : List Element × Nat :=
  match _found : smallerChild heap hole with
  | none => (heap, hole)
  | some child => sink (swap heap hole child) child
termination_by heap.length - hole
decreasing_by
  have smaller := smallerChild_some _found
  have below := parent_lt smaller.positive
  have isChild := smaller.isChild
  have inside := smaller.inside
  rw [length_swap]
  omega

/-- The order but for the element of the hole. -/
structure DownReady (heap : List Element) (hole : Nat) : Prop where
  ordered : ∀ child, 0 < child → child ≠ hole → parent child ≠ hole →
    AtMost heap[parent child]? heap[child]?
  grand : 0 < hole → ∀ child, 0 < child → parent child = hole →
    AtMost heap[parent hole]? heap[child]?
  inside : hole < heap.length

theorem DownReady.swap {heap : List Element} {hole child : Nat} (ready : DownReady heap hole)
    (smaller : IsSmaller heap hole child) : DownReady (swap heap hole child) child := by
  have shorter := parent_lt smaller.positive
  rw [smaller.isChild] at shorter
  have isElement := List.getElem?_eq_getElem ready.inside
  have isSmaller := List.getElem?_eq_getElem smaller.inside
  have atChild := getElem?_swap_second isElement isSmaller
  have atHole := getElem?_swap_first isElement isSmaller shorter.ne
  constructor
  · intro other positive notChild notBelow
    have otherShorter := parent_lt positive
    by_cases isHole : other = hole
    · have above := ready.grand (isHole ▸ positive) child smaller.positive smaller.isChild
      rw [isHole, atHole, ← isSmaller,
        getElem?_swap_of_ne (parent_lt (isHole ▸ positive)).ne
          ((parent_lt (isHole ▸ positive)).trans shorter).ne]
      exact above
    · rw [getElem?_swap_of_ne isHole notChild]
      by_cases sibling : parent other = hole
      · rw [sibling, atHole, ← isSmaller]
        exact smaller.smaller other positive sibling
      · rw [getElem?_swap_of_ne sibling notBelow]
        exact ready.ordered other positive isHole sibling
  · intro _ other positive isOther
    have otherShorter := parent_lt positive
    rw [isOther] at otherShorter
    have old := ready.ordered other positive (shorter.trans otherShorter).ne'
      (by rw [isOther]; exact shorter.ne')
    rw [isOther] at old
    rw [smaller.isChild, atHole, ← isSmaller,
      getElem?_swap_of_ne (shorter.trans otherShorter).ne' otherShorter.ne']
    exact old
  · rw [length_swap]
    exact smaller.inside

/-- At a leaf, the element may rise. -/
theorem DownReady.sink {heap : List Element} {hole : Nat} (ready : DownReady heap hole) :
    UpReady (sink heap hole).1 (sink heap hole).2 := by
  induction heap, hole using sink.induct with
  | case1 heap hole leaf =>
      rw [MinHeap.sink]
      split
      · constructor
        · intro child positive notHole
          by_cases below : parent child = hole
          · rw [smallerChild_none leaf positive below]
            exact atMost_none _
          · exact ready.ordered child positive notHole below
        · intro _ child positive isChild
          rw [smallerChild_none leaf positive isChild]
          exact atMost_none _
      · rename_i child found
        rw [leaf] at found
        cases found
  | case2 heap hole child found induction =>
      rw [MinHeap.sink]
      split
      · rename_i leaf
        rw [found] at leaf
        cases leaf
      · rename_i other foundOther
        rw [found] at foundOther
        cases foundOther
        exact induction (ready.swap (smallerChild_some found))

theorem sink_perm (heap : List Element) (hole : Nat) : (sink heap hole).1.Perm heap := by
  induction heap, hole using sink.induct with
  | case1 heap hole leaf =>
      rw [sink]
      split
      · exact List.Perm.refl _
      · rename_i child found
        rw [leaf] at found
        cases found
  | case2 heap hole child found induction =>
      rw [sink]
      split
      · exact List.Perm.refl _
      · rename_i other foundOther
        rw [found] at foundOther
        cases foundOther
        exact induction.trans (swap_perm heap hole child)

/-- `std::__adjust_heap` from the front. -/
def adjustHeap (heap : List Element) : List Element := siftUp (sink heap 0).1 (sink heap 0).2

/-- `std::pop_heap` with `std::greater`. -/
def popHeap : List Element → List Element
  | [] => []
  | front :: rest => adjustHeap (rest.getLast?.toList ++ rest.dropLast) ++ [front]

/-- What stays of a heap without its front, the last element in front. -/
theorem downReady_of_isHeap {front last : Element} {middle : List Element}
    (isHeap : IsHeap (front :: (middle ++ [last]))) : DownReady (last :: middle) 0 := by
  have same {position : Nat} (positive : 0 < position) (inside : position < middle.length + 1) :
      (last :: middle)[position]? = (front :: (middle ++ [last]))[position]? := by
    obtain ⟨before, rfl⟩ := Nat.exists_eq_add_of_lt positive
    rw [Nat.zero_add, List.getElem?_cons_succ, List.getElem?_cons_succ,
      List.getElem?_append_left (by omega)]
  constructor
  · intro child positive _ notFront
    have shorter := parent_lt positive
    rcases Nat.lt_or_ge child (middle.length + 1) with inside | outside
    · rw [same positive inside, same (Nat.pos_of_ne_zero notFront) (shorter.trans inside)]
      exact isHeap child positive
    · have missing : (last :: middle)[child]? = none := List.getElem?_eq_none outside
      rw [missing]
      exact atMost_none _
  · intro positive
    exact absurd positive (Nat.lt_irrefl 0)
  · exact Nat.succ_pos _

theorem adjustHeap_isHeap {front : Element} {rest : List Element}
    (isHeap : IsHeap (front :: rest)) :
    IsHeap (adjustHeap (rest.getLast?.toList ++ rest.dropLast)) := by
  rcases List.eq_nil_or_concat rest with rfl | ⟨middle, last, rfl⟩
  · have nothing :=
      (siftUp_perm (sink ([] : List Element) 0).1 (sink ([] : List Element) 0).2).trans
      (sink_perm [] 0)
    have empty : adjustHeap (([] : List Element).getLast?.toList ++ [].dropLast) = [] :=
      nothing.eq_nil
    rw [empty]
    exact isHeap_nil
  · rw [List.concat_eq_append] at isHeap ⊢
    rw [List.getLast?_concat, List.dropLast_concat]
    exact (downReady_of_isHeap isHeap).sink.siftUp

theorem popHeap_perm (front : Element) (rest : List Element) :
    ∃ kept, popHeap (front :: rest) = kept ++ [front] ∧ kept.Perm rest := by
  refine ⟨_, rfl, (siftUp_perm _ _).trans ((sink_perm _ _).trans ?_)⟩
  rcases List.eq_nil_or_concat rest with rfl | ⟨middle, last, rfl⟩
  · exact List.Perm.refl _
  · rw [List.concat_eq_append, List.getLast?_concat, List.dropLast_concat]
    exact List.perm_append_comm

theorem popHeap_isHeap {heap : List Element} (isHeap : IsHeap heap) :
    IsHeap (popHeap heap).dropLast := by
  cases heap with
  | nil => exact isHeap_nil
  | cons front rest =>
      rw [popHeap, List.dropLast_concat]
      exact adjustHeap_isHeap isHeap

example : popHeap (pushHeap [2, 5, 3, 9, 1]) = [2, 5, 3, 9, 1] := by decide +kernel

end RealmServer.MinHeap
