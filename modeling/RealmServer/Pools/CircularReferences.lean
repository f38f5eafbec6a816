import RealmServer.Pools.MotherPools

/-!
# The check for circular references

The check removes the last link of each circle of first mothers, and nothing
else.  A child with several mothers keeps the other links, which the search map
does not show.
-/

namespace RealmServer.Pools

open Ascent

namespace MotherPools

/-! ## One way up -/

/-- How the way up from a pool can go on. -/
inductive CircularLink (searchMap : Nat → Option Nat) (start : Nat) :
    Option (Nat × Nat) → Prop where
  | ends (steps : Nat) : above searchMap start steps = none → CircularLink searchMap start none
  | closes (pool mother steps entry : Nat) : above searchMap start steps = some pool →
      searchMap pool = some mother → above searchMap start entry = some mother →
      entry ≤ steps → (∀ earlier < steps, above searchMap start earlier ≠ some pool) →
      CircularLink searchMap start (some (pool, mother))

/-- The checked pools are those between the start and this pool. -/
structure Checked (searchMap : Nat → Option Nat) (start pool : Nat) (checkedPools : List Nat) :
    Prop where
  position : above searchMap start checkedPools.length = some pool
  visited : ∀ other, other ∈ checkedPools ↔
    ∃ steps < checkedPools.length, above searchMap start steps = some other
  fresh : pool ∉ checkedPools
  unique : checkedPools.Nodup
  linked : ∀ other ∈ checkedPools, searchMap other ≠ none

variable {searchMap : Nat → Option Nat} {start pool : Nat} {checkedPools : List Nat}

theorem Checked.next (checked : Checked searchMap start pool checkedPools) {mother : Nat}
    (link : searchMap pool = some mother) (new : mother ∉ pool :: checkedPools) :
    Checked searchMap start mother (pool :: checkedPools) where
  position := by
    rw [List.length_cons, above_succ, checked.position]
    exact link
  visited other := by
    rw [List.mem_cons, checked.visited, List.length_cons]
    constructor
    · rintro (rfl | ⟨steps, less, reached⟩)
      · exact ⟨_, Nat.lt_succ_self _, checked.position⟩
      · exact ⟨steps, Nat.lt_succ_of_lt less, reached⟩
    · rintro ⟨steps, less, reached⟩
      rcases Nat.lt_succ_iff_lt_or_eq.mp less with before | rfl
      · exact .inr ⟨steps, before, reached⟩
      · exact .inl (Option.some.inj (reached.symm.trans checked.position))
  fresh := new
  unique := List.nodup_cons.mpr ⟨checked.fresh, checked.unique⟩
  linked := by
    rw [List.forall_mem_cons, link]
    exact ⟨nofun, checked.linked⟩

theorem length_le_of_bounded {pools : List Nat} {bound : Nat} (unique : pools.Nodup)
    (bounded : ∀ pool ∈ pools, pool ≤ bound) : pools.length ≤ bound + 1 := by
  have inside : pools ⊆ List.range (bound + 1) := fun pool member =>
    List.mem_range.mpr (Nat.lt_succ_of_le (bounded pool member))
  have length := (unique.subperm inside).length_le
  rwa [List.length_range] at length

/-- The way up comes to an end, since it meets each pool once. -/
theorem circularLink_spec {bound : Nat} (bounded : ∀ pool, searchMap pool ≠ none → pool ≤ bound)
    (fuel : Nat) (checked : Checked searchMap start pool checkedPools)
    (enough : bound + 2 ≤ fuel + checkedPools.length) :
    ∃ result, circularLink searchMap fuel pool checkedPools = some result ∧
      CircularLink searchMap start result := by
  induction fuel generalizing pool checkedPools with
  | zero =>
      have few := length_le_of_bounded checked.unique fun other member =>
        bounded other (checked.linked other member)
      omega
  | succ fuel induction =>
      unfold circularLink
      cases link : searchMap pool with
      | none =>
          refine ⟨none, rfl, .ends (checkedPools.length + 1) ?_⟩
          rw [above_succ, checked.position]
          exact link
      | some mother =>
          dsimp only
          by_cases met : mother ∈ pool :: checkedPools
          · rw [if_pos met]
            refine ⟨_, rfl, ?_⟩
            have before : ∀ earlier < checkedPools.length,
                above searchMap start earlier ≠ some pool := fun earlier less reached =>
              checked.fresh ((checked.visited pool).mpr ⟨earlier, less, reached⟩)
            rcases List.mem_cons.mp met with rfl | member
            · exact .closes mother mother _ _ checked.position link checked.position le_rfl before
            · obtain ⟨entry, less, reached⟩ := (checked.visited mother).mp member
              exact .closes pool mother _ entry checked.position link reached less.le before
          · rw [if_neg met]
            apply induction (checked.next link met)
            rw [List.length_cons]
            omega

/-- The link which is found closes a circle, also where links have been removed before. -/
theorem closes_of_circularLink {mother : Nat → Option Nat} (isFewer : Fewer searchMap mother)
    {child entry : Nat} (found : CircularLink searchMap start (some (child, entry))) :
    mother child = some entry ∧ OnCircle searchMap child ∧ Closes mother start child := by
  cases found with
  | closes _ _ steps first isAbove link isEntry le before =>
      have between : above searchMap entry (steps - first) = some child := by
        rw [← above_add isEntry, Nat.sub_add_cancel le]
        exact isAbove
      have onCircle : OnCircle searchMap child := by
        refine onCircle_iff.mpr ⟨steps - first + 1, Nat.succ_pos _, ?_⟩
        rw [above_succ_of_mother link, between]
      have stays : OnCircle mother child := isFewer.onCircle onCircle
      have isLink : mother child = some entry := isFewer.link child entry link
      have oneStep : above mother child 1 = some entry := isLink
      refine ⟨isLink, onCircle, stays, entry, first, isLink, isFewer.above isEntry,
        stays.above oneStep, ?_⟩
      -- The pool below the entry would be the child itself, which the way up meets later.
      intro earlier less other isOther otherOnCircle
      obtain ⟨last, rfl⟩ := Nat.exists_eq_add_one_of_ne_zero (Nat.ne_of_gt (Nat.zero_lt_of_lt less))
      obtain ⟨below, isBelow⟩ := above_of_le isEntry (Nat.le_succ last)
      have isBelowToo := isFewer.above isBelow
      have belowOnCircle : OnCircle mother below := by
        have isAbove : above mother other (last - earlier) = some below := by
          rw [← above_add isOther, Nat.sub_add_cancel (Nat.le_of_lt_succ less)]
          exact isBelowToo
        exact otherOnCircle.above isAbove
      have belowLink : mother below = some entry := by
        have reached := isFewer.above isEntry
        rw [above_succ, isBelowToo] at reached
        exact reached
      obtain rfl := belowOnCircle.eq_of_mother stays belowLink isLink
      exact before last (by omega) isBelow

/-! ## All ways up -/

/-- Each circle above a pool below the bound has a link which is cut. -/
theorem exists_cutLink {mother : Nat → Option Nat} {bound start pool steps : Nat}
    (less : start < bound) (onCircle : OnCircle mother pool)
    (reached : above mother start steps = some pool) :
    ∃ last more, CutLink mother bound last ∧ above mother pool more = some last := by
  classical
  have meets : ∃ start, ∃ steps, above mother start steps = some pool := ⟨start, steps, reached⟩
  obtain ⟨count, isAbove⟩ := Nat.find_spec meets
  obtain ⟨last, closes⟩ := exists_closes onCircle isAbove
  obtain ⟨others, isLast⟩ := closes.reached
  obtain ⟨more, isMore⟩ := closes.onCircle.above_of_above isAbove isLast
  refine ⟨last, more, ⟨Nat.find meets, (Nat.find_min' meets ⟨steps, reached⟩).trans_lt less,
    closes, ?_⟩, isMore⟩
  intro earlier before count reachesLast
  obtain ⟨back, isBack⟩ := onCircle.returns isMore
  apply Nat.find_min meets before
  exact ⟨back + count, (above_add reachesLast back).trans isBack⟩

/-- The links of the search map so far, and the entries of the groups. -/
structure CutBelow (loaded : MotherPools) (bound : Nat) (pools : MotherPools) : Prop where
  cut : ∀ pool, CutLink loaded.searchMap bound pool → pools.searchMap pool = none
  kept : ∀ pool, ¬CutLink loaded.searchMap bound pool →
    pools.searchMap pool = loaded.searchMap pool
  taken : ∀ mother pool isExplicit, CutLink loaded.searchMap bound pool →
    loaded.searchMap pool = some mother → (pools.groups mother).copies isExplicit pool =
      (loaded.groups mother).copies isExplicit pool - 1
  left : ∀ mother pool isExplicit,
    ¬(CutLink loaded.searchMap bound pool ∧ loaded.searchMap pool = some mother) →
      (pools.groups mother).copies isExplicit pool =
        (loaded.groups mother).copies isExplicit pool

variable {loaded pools : MotherPools} {bound : Nat}

theorem CutBelow.fewer (cutBelow : CutBelow loaded bound pools) :
    Fewer pools.searchMap loaded.searchMap := by
  constructor
  intro child mother link
  by_cases cut : CutLink loaded.searchMap bound child
  · rw [cutBelow.cut child cut] at link
    cases link
  · rw [← cutBelow.kept child cut]
    exact link

/-- The bound is not the first pool below a circle whose way up ends. -/
theorem CutBelow.not_closes_of_ends (cutBelow : CutBelow loaded bound pools) {steps : Nat}
    (ends : above pools.searchMap bound steps = none) {pool : Nat}
    (closes : Closes loaded.searchMap bound pool) :
    ∃ earlier < bound, ∃ steps, above loaded.searchMap earlier steps = some pool := by
  by_contra noEarlier
  push Not at noEarlier
  obtain ⟨count, isAbove⟩ := closes.reached
  have same : ∀ steps other, above loaded.searchMap bound steps = some other →
      pools.searchMap other = loaded.searchMap other := by
    intro steps other isOther
    apply cutBelow.kept
    rintro ⟨start, less, otherCloses, _⟩
    obtain ⟨others, reached⟩ := otherCloses.reached
    obtain ⟨more, isMore⟩ := closes.onCircle.above_of_above isOther isAbove
    exact noEarlier start less (more + others) ((above_add reached more).trans isMore)
  rw [above_eq_of_links same] at ends
  obtain ⟨other, isOther⟩ := closes.onCircle.endless steps
  rw [← above_add isAbove] at isOther
  rw [above_none_of_le ends (Nat.le_add_right steps count)] at isOther
  cases isOther

/-- No earlier pool is below a circle which still has all its links. -/
theorem CutBelow.not_reached (cutBelow : CutBelow loaded bound pools) {pool : Nat}
    (onCircle : OnCircle pools.searchMap pool) {earlier : Nat} (less : earlier < bound)
    (steps : Nat) : above loaded.searchMap earlier steps ≠ some pool := by
  intro reached
  obtain ⟨last, more, cut, isLast⟩ := exists_cutLink less
    (cutBelow.fewer.onCircle onCircle) reached
  obtain ⟨other, isOther⟩ := onCircle.endless more
  have same := cutBelow.fewer.above isOther
  rw [isLast] at same
  obtain rfl := Option.some.inj same
  obtain ⟨next, isNext⟩ := (onCircle.above isOther).endless 1
  have link : pools.searchMap last = some next := isNext
  rw [cutBelow.cut last cut] at link
  cases link

theorem cutLink_succ {mother : Nat → Option Nat} {pool : Nat} :
    CutLink mother (bound + 1) pool ↔ CutLink mother bound pool ∨
      Closes mother bound pool ∧ ∀ earlier < bound, ∀ steps,
        above mother earlier steps ≠ some pool := by
  constructor
  · rintro ⟨start, less, closes, first⟩
    rcases Nat.lt_succ_iff_lt_or_eq.mp less with before | rfl
    · exact .inl ⟨start, before, closes, first⟩
    · exact .inr ⟨closes, first⟩
  · rintro (cut | ⟨closes, first⟩)
    · obtain ⟨start, less, closes, first⟩ := cut
      exact ⟨start, Nat.lt_succ_of_lt less, closes, first⟩
    · exact ⟨bound, Nat.lt_succ_self bound, closes, first⟩

theorem CutBelow.ends (cutBelow : CutBelow loaded bound pools)
    (same : ∀ pool, CutLink loaded.searchMap (bound + 1) pool ↔
      CutLink loaded.searchMap bound pool) : CutBelow loaded (bound + 1) pools := by
  constructor
  · intro pool
    rw [same]
    exact cutBelow.cut pool
  · intro pool
    rw [same]
    exact cutBelow.kept pool
  · intro mother pool isExplicit
    rw [same]
    exact cutBelow.taken mother pool isExplicit
  · intro mother pool isExplicit
    rw [same]
    exact cutBelow.left mother pool isExplicit

theorem copies_removeLink (child mother other pool : Nat) (isExplicit : Bool) :
    ((pools.removeLink child mother).groups other).copies isExplicit pool =
      (pools.groups other).copies isExplicit pool -
        if other = mother ∧ child = pool then 1 else 0 := by
  unfold removeLink
  dsimp only
  by_cases same : other = mother
  · subst same
    rw [Function.update_self, PoolGroup.copies_removeOneRelation]
    simp only [true_and]
  · rw [Function.update_of_ne same, if_neg fun both => same both.1, Nat.sub_zero]

theorem CutBelow.removeLink (cutBelow : CutBelow loaded bound pools) {child mother : Nat}
    (link : loaded.searchMap child = some mother)
    (notCut : ¬CutLink loaded.searchMap bound child)
    (also : ∀ pool, CutLink loaded.searchMap (bound + 1) pool ↔
      CutLink loaded.searchMap bound pool ∨ pool = child) :
    CutBelow loaded (bound + 1) (pools.removeLink child mother) := by
  constructor
  · intro pool isCut
    unfold MotherPools.removeLink
    dsimp only
    by_cases isChild : pool = child
    · rw [isChild, Function.update_self]
    · rw [Function.update_of_ne isChild]
      exact cutBelow.cut pool (((also pool).mp isCut).resolve_right isChild)
  · intro pool isKept
    rw [also, not_or] at isKept
    unfold MotherPools.removeLink
    dsimp only
    rw [Function.update_of_ne isKept.2]
    exact cutBelow.kept pool isKept.1
  · intro other pool isExplicit isCut isLink
    rw [copies_removeLink]
    by_cases isChild : pool = child
    · subst isChild
      obtain rfl := Option.some.inj (link.symm.trans isLink)
      rw [if_pos ⟨rfl, rfl⟩, cutBelow.left _ _ _ fun both => notCut both.1]
    · rw [if_neg fun both => isChild both.2.symm, Nat.sub_zero]
      exact cutBelow.taken other pool isExplicit
        (((also pool).mp isCut).resolve_right isChild) isLink
  · intro other pool isExplicit isLeft
    rw [also] at isLeft
    have notBoth : ¬(other = mother ∧ child = pool) := by
      rintro ⟨rfl, rfl⟩
      exact isLeft ⟨.inr rfl, link⟩
    rw [copies_removeLink, if_neg notBoth, Nat.sub_zero]
    exact cutBelow.left other pool isExplicit fun both => isLeft ⟨.inl both.1, both.2⟩

theorem CutBelow.next (cutBelow : CutBelow loaded bound pools) {maxPoolId fuel : Nat}
    (bounded : ∀ pool, loaded.searchMap pool ≠ none → pool ≤ maxPoolId)
    (enough : maxPoolId + 2 ≤ fuel) :
    ∃ next, checkCircularReference fuel pools bound = some next ∧
      CutBelow loaded (bound + 1) next := by
  have started : Checked pools.searchMap bound bound [] := by
    constructor
    · rfl
    · simp
    · exact List.not_mem_nil
    · exact .nil
    · nofun
  have stillBounded : ∀ pool, pools.searchMap pool ≠ none → pool ≤ maxPoolId := by
    intro pool linked
    obtain ⟨mother, link⟩ := Option.ne_none_iff_exists'.mp linked
    apply bounded
    rw [cutBelow.fewer.link pool mother link]
    nofun
  obtain ⟨result, found, isLink⟩ := circularLink_spec stillBounded fuel started enough
  unfold checkCircularReference
  rw [found]
  cases result with
  | none =>
      refine ⟨pools, rfl, cutBelow.ends fun pool => ?_⟩
      rw [cutLink_succ, or_iff_left]
      rintro ⟨closes, first⟩
      cases isLink with
      | ends steps ends =>
          obtain ⟨earlier, less, others, reached⟩ := cutBelow.not_closes_of_ends ends closes
          exact first earlier less others reached
  | some linked =>
      obtain ⟨child, mother⟩ := linked
      obtain ⟨link, onCircle, closes⟩ := closes_of_circularLink cutBelow.fewer isLink
      have first : ∀ earlier < bound, ∀ steps,
          above loaded.searchMap earlier steps ≠ some child := fun earlier less steps =>
        cutBelow.not_reached onCircle less steps
      refine ⟨_, rfl, cutBelow.removeLink link ?_ fun pool => ?_⟩
      · rintro ⟨start, less, otherCloses, _⟩
        obtain ⟨steps, reached⟩ := otherCloses.reached
        exact first start less steps reached
      · rw [cutLink_succ]
        constructor
        · rintro (cut | ⟨otherCloses, _⟩)
          · exact .inl cut
          · exact .inr (otherCloses.unique closes)
        · rintro (cut | rfl)
          · exact .inl cut
          · exact .inr ⟨closes, first⟩

theorem cutBelow_zero (loaded : MotherPools) : CutBelow loaded 0 loaded := by
  have nothing : ∀ pool, ¬CutLink loaded.searchMap 0 pool := by
    rintro pool ⟨start, less, _⟩
    exact absurd less (Nat.not_lt_zero start)
  exact
    { cut := fun pool isCut => absurd isCut (nothing pool)
      kept := fun pool _ => rfl
      taken := fun _ pool _ isCut => absurd isCut (nothing pool)
      left := fun _ _ _ _ => rfl }

theorem loadPoolPools_cut {maxPoolId : Nat} {maxLimit : Nat → Nat} {rows : List PoolRow}
    {fuel : Nat} (enough : maxPoolId + 2 ≤ fuel) :
    ∃ pools, loadPoolPools fuel maxPoolId maxLimit rows = some pools ∧
      CutBelow (loadRows maxPoolId maxLimit rows) maxPoolId pools := by
  have bounded : ∀ pool, (loadRows maxPoolId maxLimit rows).searchMap pool ≠ none →
      pool ≤ maxPoolId := by
    intro pool linked
    obtain ⟨mother, link⟩ := Option.ne_none_iff_exists'.mp linked
    rw [loadRows_searchMap] at link
    exact (firstMother_bounded link).1
  have checked : ∀ bound, ∃ pools, (List.range bound).foldlM (checkCircularReference fuel)
      (loadRows maxPoolId maxLimit rows) = some pools ∧
        CutBelow (loadRows maxPoolId maxLimit rows) bound pools := by
    intro bound
    induction bound with
    | zero => exact ⟨_, rfl, cutBelow_zero _⟩
    | succ bound induction =>
        obtain ⟨pools, isPools, cutBelow⟩ := induction
        obtain ⟨next, isNext, further⟩ := cutBelow.next bounded enough
        refine ⟨next, ?_, further⟩
        rw [List.range_succ, List.foldlM_append, isPools]
        show (checkCircularReference fuel pools bound).bind some = some next
        rw [isNext]
        rfl
  exact checked maxPoolId

variable {maxPoolId : Nat} {maxLimit : Nat → Nat} {rows : List PoolRow}

theorem loadRows_firstMother :
    (loadRows maxPoolId maxLimit rows).searchMap = firstMother maxPoolId rows := by
  funext pool
  exact loadRows_searchMap pool

theorem isMother_iff_staysMember
    (cut : CutBelow (loadRows maxPoolId maxLimit rows) maxPoolId pools) (mother pool : Nat) :
    pools.IsMother mother pool ↔ StaysMember maxPoolId maxLimit rows mother pool := by
  unfold IsMother StaysMember
  apply exists_congr
  intro isExplicit
  rw [← loadRows_copies, ← @loadRows_firstMother maxPoolId maxLimit rows]
  by_cases isCut : CutLink (loadRows maxPoolId maxLimit rows).searchMap maxPoolId pool ∧
      (loadRows maxPoolId maxLimit rows).searchMap pool = some mother
  · rw [cut.taken mother pool isExplicit isCut.1 isCut.2]
    constructor
    · intro left
      exact ⟨by omega, fun _ _ => by omega⟩
    · rintro ⟨_, more⟩
      have twice := more isCut.2 isCut.1
      omega
  · rw [cut.left mother pool isExplicit isCut]
    exact ⟨fun left => ⟨left, fun link cutLink => absurd ⟨cutLink, link⟩ isCut⟩, And.left⟩

theorem isMother_of_firstMother {pool mother : Nat}
    (isFirst : firstMother maxPoolId rows pool = some mother) :
    (loadRows maxPoolId maxLimit rows).IsMother mother pool := by
  obtain ⟨row, isRow, accepted, rfl, rfl⟩ := firstMother_row isFirst
  obtain ⟨isExplicit, isListed⟩ := @listed_of_row maxPoolId maxLimit rows row isRow accepted
  exact ⟨isExplicit, by rw [loadRows_copies]; exact isListed⟩

/-- Going up first mothers goes up members. -/
theorem transGen_of_above {pool top : Nat} {steps : Nat}
    (reached : above (firstMother maxPoolId rows) pool (steps + 1) = some top) :
    Relation.TransGen (loadRows maxPoolId maxLimit rows).IsMother top pool := by
  induction steps generalizing top with
  | zero => exact .single (isMother_of_firstMother reached)
  | succ steps induction =>
      rw [above_succ] at reached
      obtain ⟨middle, isMiddle, link⟩ := Option.bind_eq_some_iff.mp reached
      exact .head (isMother_of_firstMother link) (induction isMiddle)

/-- Only links of circles are removed. -/
theorem transGen_of_removed
    (cut : CutBelow (loadRows maxPoolId maxLimit rows) maxPoolId pools) {mother pool : Nat}
    {isExplicit : Bool} (removed : (pools.groups mother).copies isExplicit pool <
      ((loadRows maxPoolId maxLimit rows).groups mother).copies isExplicit pool) :
    Relation.TransGen (loadRows maxPoolId maxLimit rows).IsMother pool mother := by
  by_cases isCut : CutLink (loadRows maxPoolId maxLimit rows).searchMap maxPoolId pool ∧
      (loadRows maxPoolId maxLimit rows).searchMap pool = some mother
  · obtain ⟨⟨start, _, closes, _⟩, link⟩ := isCut
    obtain ⟨period, positive, returns⟩ := onCircle_iff.mp closes.onCircle
    obtain ⟨steps, rfl⟩ := Nat.exists_eq_add_one_of_ne_zero (Nat.ne_of_gt positive)
    rw [above_succ_of_mother link] at returns
    rw [loadRows_firstMother] at returns link
    cases steps with
    | zero => exact absurd (Option.some.inj returns) (firstMother_bounded link).2.2
    | succ steps => exact transGen_of_above returns
  · rw [cut.left mother pool isExplicit isCut] at removed
    exact absurd removed (lt_irrefl _)

end MotherPools

/-- The check breaks all circles if and only if none is left among the rows without those whose
link is cut. -/
theorem loadPoolPools_breaksCircles_iff (maxPoolId : Nat) (maxLimit : Nat → Nat)
    (rows : List PoolRow) :
    BreaksCircles maxPoolId maxLimit rows ↔
      ∀ pool, ¬Relation.TransGen (StaysMember maxPoolId maxLimit rows) pool pool := by
  have same : ∀ {pools}, MotherPools.CutBelow (MotherPools.loadRows maxPoolId maxLimit rows)
      maxPoolId pools → pools.IsMother = StaysMember maxPoolId maxLimit rows := by
    intro pools cut
    funext mother pool
    exact propext (MotherPools.isMother_iff_staysMember cut mother pool)
  constructor
  · rintro ⟨enough, ends⟩
    obtain ⟨pools, isPools, noCircle, _⟩ := ends (max enough (maxPoolId + 2)) (le_max_left _ _)
    obtain ⟨others, isOthers, cut⟩ := @MotherPools.loadPoolPools_cut maxPoolId maxLimit rows _
      (le_max_right enough _)
    obtain rfl := Option.some.inj (isOthers.symm.trans isPools)
    rw [← same cut]
    exact noCircle
  · intro noCircle
    refine ⟨maxPoolId + 2, fun fuel enough => ?_⟩
    obtain ⟨pools, isPools, cut⟩ := @MotherPools.loadPoolPools_cut maxPoolId maxLimit rows _ enough
    refine ⟨pools, isPools, ?_, fun mother pool isExplicit removed => ?_⟩
    · rw [same cut]
      exact noCircle
    · exact MotherPools.transGen_of_removed cut removed

section TwoMothers

/-- Pool 1 is first in pool 2 and then in pool 3, which is in pool 1. -/
def twoMothers : List PoolRow := [⟨1, 2, 0⟩, ⟨1, 3, 0⟩, ⟨3, 1, 0⟩]

/-- The search map of pool 1 leads to pool 2, where the way up ends; the circle of pools 1 and 3
is not seen. -/
theorem twoMothers_circle : ¬BreaksCircles 3 (fun _ => 1) twoMothers := by
  rintro ⟨enough, ends⟩
  obtain ⟨pools, isPools, noCircle, _⟩ := ends (max enough 5) (le_max_left _ _)
  obtain ⟨others, isOthers, cut⟩ := @MotherPools.loadPoolPools_cut 3 (fun _ => 1) twoMothers _
    (le_max_right enough 5)
  obtain rfl := Option.some.inj (isOthers.symm.trans isPools)
  have down : others.IsMother 3 1 := by
    rw [MotherPools.isMother_iff_staysMember cut]
    refine ⟨false, by decide, fun isFirst => ?_⟩
    exact absurd isFirst (by decide)
  have up : others.IsMother 1 3 := by
    rw [MotherPools.isMother_iff_staysMember cut]
    refine ⟨false, by decide, fun _ isCut => ?_⟩
    obtain ⟨start, _, closes, _⟩ := isCut
    obtain ⟨other, isOther⟩ := closes.onCircle.endless 3
    exact absurd isOther (by decide +revert)
  exact noCircle 1 (.trans (.single up) (.single down))

end TwoMothers

end RealmServer.Pools
