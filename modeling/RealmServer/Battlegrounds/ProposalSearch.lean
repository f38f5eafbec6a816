import RealmServer.Battlegrounds.Matchmaking

/-!
# The search for a proposal

A candidate has one unassigned group less than the proposal it is made of.  A
search from a proposal which fits finds one which fits as well, since some
group can be left waiting; so each round of the loop assigns a group, and the
loop ends.  If the teams are too large from the start, no candidate is better
than a new proposal, with which the loop begins again.
-/

namespace RealmServer.Battlegrounds

variable {Quality : Type} {groups : List GroupQueueInfo}

namespace Proposal

/-- What the counter says of the numbers, and the numbers of the groups. -/
structure WellFormed (groups : List GroupQueueInfo) (proposal : Proposal Quality) : Prop where
  length : proposal.assigment.length ≤ groups.length
  counter : proposal.unassignedCounter = proposal.assigment.count (-1)
  bounded : proposal.unassignedCounter ≤ performanceGroupsPerIteration
  assigns : ∀ place entry, proposal.assigment[place]? = some entry →
    MatchRequest.Assigns groups place entry

theorem new_wellFormed (groups : List GroupQueueInfo) :
    (new groups : Proposal Quality).WellFormed groups where
  length := by
    unfold new
    rw [List.length_replicate]
    exact Nat.min_le_left _ _
  counter := by
    unfold new
    dsimp only
    rw [List.count_replicate_self]
  bounded := by
    unfold new
    dsimp only
    omega
  assigns place entry found := by
    have unassigned := List.eq_of_mem_replicate (List.mem_of_getElem? found)
    exact .inl unassigned

/-- The better ones of a list, one after the other. -/
theorem foldl_better [LinearOrder Quality] {Input : Type} (find : Input → Proposal Quality)
    (inputs : List Input) (first : Proposal Quality) :
    let best := inputs.foldl (fun best input => best.better (find input)) first
    (best = first ∨ ∃ input ∈ inputs, best = find input) ∧ first.quality ≤ best.quality ∧
      ∀ input ∈ inputs, (find input).quality ≤ best.quality := by
  induction inputs generalizing first with
  | nil => exact ⟨.inl rfl, le_rfl, fun _ member => absurd member List.not_mem_nil⟩
  | cons input rest induction =>
      obtain ⟨isOne, least, others⟩ := induction (first.better (find input))
      dsimp only [List.foldl_cons]
      by_cases improves : first.quality < (find input).quality
      · have better : first.better (find input) = find input := if_pos improves
        rw [better] at isOne least others ⊢
        refine ⟨.inr ?_, improves.le.trans least, ?_⟩
        · rcases isOne with isFirst | ⟨other, member, isFound⟩
          · exact ⟨input, List.mem_cons_self, isFirst⟩
          · exact ⟨other, List.mem_cons_of_mem _ member, isFound⟩
        · rw [List.forall_mem_cons]
          exact ⟨least, others⟩
      · have better : first.better (find input) = first := if_neg improves
        rw [better] at isOne least others ⊢
        refine ⟨?_, least, ?_⟩
        · rcases isOne with isFirst | ⟨other, member, isFound⟩
          · exact .inl isFirst
          · exact .inr ⟨other, List.mem_cons_of_mem _ member, isFound⟩
        · rw [List.forall_mem_cons]
          exact ⟨(not_lt.mp improves).trans least, others⟩

end Proposal

section Candidates

variable {index : Nat} {current : Proposal Quality}

/-- A candidate assigns one group which was not assigned. -/
structure IsCandidate (groups : List GroupQueueInfo) (index : Nat) (current : Proposal Quality)
    (place : Nat) (candidate : Proposal Quality) : Prop where
  late : index ≤ place
  unassigned : ∃ entry < 0, current.assigment[place]? = some entry
  team : ∃ team : Nat, MatchRequest.Assigns groups place team ∧
    candidate = { current with assigment := current.assigment.set place team }

theorem isCandidate_of_mem {place : Nat} {candidate : Proposal Quality}
    (member : (place, candidate) ∈ candidates groups index current) :
    IsCandidate groups index current place candidate := by
  unfold candidates at member
  obtain ⟨tried, isTried, member⟩ := List.mem_flatMap.mp member
  have late := (List.mem_range'_1.mp isTried).1
  split at member
  case h_1 entry group isEntry isGroup =>
      split_ifs at member with assigned
      · exact absurd member List.not_mem_nil
      · obtain ⟨team, isTeam, same⟩ := List.mem_map.mp member
        obtain ⟨rfl, rfl⟩ := Prod.mk.inj same
        refine ⟨late, ⟨entry, not_le.mp assigned, isEntry⟩, team, ?_, rfl⟩
        obtain ⟨inRange, allowed⟩ := List.mem_filter.mp isTeam
        rw [List.mem_range] at inRange
        by_cases isNone : team = bgTeamsCount
        · exact .inr (.inl (congrArg _ isNone))
        · have isTeam : team < bgTeamsCount := by omega
          refine .inr (.inr ⟨team, isTeam, rfl, group, isGroup, ?_⟩)
          simpa [isTeam] using allowed
  case h_2 => exact absurd member List.not_mem_nil

/-- Each unassigned group can be left waiting. -/
theorem mem_candidates {place : Nat} (late : index ≤ place)
    (unassigned : current.assigment[place]? = some (-1))
    (length : current.assigment.length ≤ groups.length) :
    (place, { current with
      assigment := current.assigment.set place (bgTeamsCount : Int) }) ∈
        candidates groups index current := by
  have inside : place < current.assigment.length := (List.getElem?_eq_some_iff.mp unassigned).1
  obtain ⟨group, isGroup⟩ : ∃ group, groups[place]? = some group :=
    Option.ne_none_iff_exists'.mp (mt List.getElem?_eq_none_iff.mp (by omega))
  unfold candidates
  apply List.mem_flatMap.mpr
  refine ⟨place, List.mem_range'_1.mpr ⟨late, by omega⟩, ?_⟩
  rw [unassigned, isGroup]
  dsimp only
  rw [if_neg (by omega)]
  apply List.mem_map.mpr
  refine ⟨bgTeamsCount, List.mem_filter.mpr ⟨List.mem_range.mpr (Nat.lt_succ_self _), ?_⟩, rfl⟩
  simp

/-- `current.unassignedCounter--`. -/
def Proposal.decrement (current : Proposal Quality) : Proposal Quality :=
  { current with unassignedCounter := current.unassignedCounter - 1 }

theorem IsCandidate.count {place : Nat} {candidate : Proposal Quality}
    (isCandidate : IsCandidate groups index current.decrement place candidate)
    (wellFormed : current.WellFormed groups) :
    current.assigment[place]? = some (-1) ∧
      candidate.assigment.count (-1) + 1 = current.assigment.count (-1) := by
  obtain ⟨_, ⟨entry, negative, isEntry⟩, team, _, rfl⟩ := isCandidate
  have isEntry : current.assigment[place]? = some entry := isEntry
  have unassigned : entry = -1 := by
    rcases wellFormed.assigns place entry isEntry with same | same | ⟨_, _, same, _⟩
    · exact same
    · rw [same] at negative
      exact absurd negative (by decide)
    · omega
  subst unassigned
  obtain ⟨inside, isMinus⟩ := List.getElem?_eq_some_iff.mp isEntry
  refine ⟨isEntry, ?_⟩
  have positive : 0 < current.assigment.count (-1) :=
    List.count_pos_iff.mpr (List.mem_of_getElem? isEntry)
  show (current.assigment.set place team).count (-1) + 1 = _
  rw [List.count_set inside, isMinus, beq_self_eq_true, if_pos rfl, if_neg (by simp)]
  omega

theorem IsCandidate.wellFormed {place : Nat} {candidate : Proposal Quality}
    (isCandidate : IsCandidate groups index current.decrement place candidate)
    (wellFormed : current.WellFormed groups) :
    candidate.WellFormed groups ∧
      candidate.assigment.length = current.assigment.length ∧
        candidate.unassignedCounter + 1 = current.unassignedCounter := by
  have counted := (isCandidate.count wellFormed).2
  have counter := wellFormed.counter
  have bounded := wellFormed.bounded
  obtain ⟨_, _, team, assigns, rfl⟩ := isCandidate
  have length : (current.assigment.set place (team : Int)).length = current.assigment.length :=
    List.length_set
  refine ⟨⟨?_, ?_, ?_, ?_⟩, length, ?_⟩
  · exact length.trans_le wellFormed.length
  · show current.unassignedCounter - 1 = (current.assigment.set place (team : Int)).count (-1)
    change (current.assigment.set place (team : Int)).count (-1) + 1 = _ at counted
    omega
  · show current.unassignedCounter - 1 ≤ _
    omega
  · intro other entry isEntry
    change (current.assigment.set place (team : Int))[other]? = _ at isEntry
    by_cases same : place = other
    · subst same
      have inside := (List.getElem?_eq_some_iff.mp isEntry).1
      rw [length] at inside
      rw [List.getElem?_set_self inside] at isEntry
      rw [← Option.some.inj isEntry]
      exact assigns
    · rw [List.getElem?_set_ne same] at isEntry
      exact wellFormed.assigns other entry isEntry
  · show current.unassignedCounter - 1 + 1 = _
    omega

/-- Counters are right whenever they are read. -/
theorem counter_of_searched (depth index : Nat) {current proposal : Proposal Quality}
    (wellFormed : current.WellFormed groups)
    (member : proposal ∈ searched groups depth index current) :
    proposal.unassignedCounter = proposal.assigment.count (-1) := by
  induction depth generalizing index current with
  | zero =>
      obtain ⟨candidate, isOne, member⟩ := List.mem_flatMap.mp member
      have fits := ((isCandidate_of_mem isOne).wellFormed wellFormed).1
      rw [List.mem_singleton.mp member]
      exact fits.counter
  | succ depth induction =>
      obtain ⟨candidate, isOne, member⟩ := List.mem_flatMap.mp member
      have fits := ((isCandidate_of_mem isOne).wellFormed wellFormed).1
      rcases List.mem_cons.mp member with rfl | deeper
      · exact fits.counter
      · split_ifs at deeper
        · exact absurd deeper List.not_mem_nil
        · exact induction candidate.1 fits deeper

end Candidates

/-! ## The search range -/

theorem updateSearchRange_eq {current : Proposal Quality} (wellFormed : current.WellFormed groups) :
    ∃ more : Nat, current.assigment.length + more ≤ groups.length ∧
      current.unassignedCounter + more ≤ performanceGroupsPerIteration ∧
        current.updateSearchRange groups =
          { current with
            assigment := current.assigment ++ List.replicate more (-1)
            unassignedCounter := current.unassignedCounter + more } := by
  have length := wellFormed.length
  have bounded := wellFormed.bounded
  obtain ⟨more, isMore⟩ : ∃ more : Nat,
      (more : Int) = min ((groups.length : Int) - current.assigment.length)
        (performanceGroupsPerIteration - current.unassignedCounter) :=
    ⟨_, Int.toNat_of_nonneg (by omega)⟩
  refine ⟨more, by omega, by omega, ?_⟩
  have resized : resize current.assigment (current.assigment.length + more : Int).toNat (-1) =
      current.assigment ++ List.replicate more (-1) := by
    unfold resize
    rw [List.take_of_length_le (by omega)]
    congr 2
    omega
  unfold Proposal.updateSearchRange
  dsimp only
  rw [← isMore, resized]

theorem updateSearchRange_wellFormed {current : Proposal Quality}
    (wellFormed : current.WellFormed groups) :
    (current.updateSearchRange groups).WellFormed groups := by
  obtain ⟨more, length, bounded, same⟩ := updateSearchRange_eq wellFormed
  rw [same]
  refine ⟨?_, ?_, bounded, ?_⟩
  · rw [List.length_append, List.length_replicate]
    exact length
  · have counter := wellFormed.counter
    dsimp only
    rw [List.count_append, List.count_replicate_self]
    omega
  · intro place entry isEntry
    dsimp only at isEntry
    rw [List.getElem?_append] at isEntry
    split_ifs at isEntry
    · exact wellFormed.assigns place entry isEntry
    · exact .inl (List.eq_of_mem_replicate (List.mem_of_getElem? isEntry))

/-! ## What is found -/

section Found

variable [LinearOrder Quality] {quality : List Int → WithBot Quality}

/-- A search finds nothing, or a proposal with more groups assigned. -/
structure Finds (groups : List GroupQueueInfo) (quality : List Int → WithBot Quality)
    (current found : Proposal Quality) : Prop where
  wellFormed : found.WellFormed groups
  found : found = .new groups ∨
    found.quality = quality found.assigment ∧
      found.assigment.length = current.assigment.length ∧
        found.unassignedCounter < current.unassignedCounter

theorem searchFrom_finds {deeper : Nat → Proposal Quality → Proposal Quality} {depth : Nat}
    (finds : ∀ place candidate, ¬isLeaf depth candidate → candidate.WellFormed groups →
      Finds groups quality candidate (deeper place candidate))
    (index : Nat) {current : Proposal Quality} (wellFormed : current.WellFormed groups) :
    Finds groups quality current (searchFrom groups quality deeper depth index current) := by
  obtain ⟨isNew | ⟨⟨place, candidate⟩, member, isFound⟩, _⟩ :=
    Proposal.foldl_better (explore quality deeper depth)
      (candidates groups index current.decrement) (.new groups)
  · have same : searchFrom groups quality deeper depth index current = .new groups := isNew
    rw [same]
    exact ⟨Proposal.new_wellFormed groups, .inl rfl⟩
  · have same : searchFrom groups quality deeper depth index current =
        explore quality deeper depth (place, candidate) := isFound
    obtain ⟨fits, length, counter⟩ := (isCandidate_of_mem member).wellFormed wellFormed
    rw [same]
    unfold explore
    split_ifs with leaf
    · exact ⟨{ fits with },
        .inr ⟨rfl, length, show candidate.unassignedCounter < _ by omega⟩⟩
    · obtain ⟨wellFormed, isNew | ⟨evaluated, sameLength, less⟩⟩ := finds place candidate leaf fits
      · exact ⟨wellFormed, .inl isNew⟩
      · have fewer : (deeper place candidate).unassignedCounter < current.unassignedCounter := by
          omega
        exact ⟨wellFormed, .inr ⟨evaluated, sameLength.trans length, fewer⟩⟩

theorem findProposal_finds (depth index : Nat) {current : Proposal Quality}
    (wellFormed : current.WellFormed groups) :
    Finds groups quality current (findProposal groups quality depth index current) := by
  induction depth generalizing index current with
  | zero =>
      apply searchFrom_finds _ index wellFormed
      exact fun _ _ notLeaf => absurd (.inl (Nat.zero_le 1)) notLeaf
  | succ depth induction =>
      exact searchFrom_finds (fun place _ _ fits => induction place fits) index wellFormed

/-! ## Something is found -/

/-- The first unassigned group from an index on. -/
theorem exists_unassigned {assigment : List Int} {index : Nat}
    (remains : 0 < (assigment.drop index).count (-1)) :
    ∃ place ≥ index, assigment[place]? = some (-1) ∧
      ((assigment.set place (bgTeamsCount : Int)).drop place).count (-1) + 1 =
        (assigment.drop index).count (-1) := by
  obtain ⟨before, after, split, notBefore⟩ :=
    List.eq_append_cons_of_mem (List.count_pos_iff.mp remains)
  have isPlace : assigment.drop (index + before.length) = -1 :: after := by
    rw [← List.drop_drop, split, List.drop_left]
  refine ⟨index + before.length, Nat.le_add_right _ _, ?_, ?_⟩
  · rw [← Nat.add_zero (index + before.length), ← List.getElem?_drop, isPlace]
    rfl
  · rw [List.drop_set, if_neg (Nat.lt_irrefl _), isPlace, Nat.sub_self, split, List.count_append,
      List.count_eq_zero_of_not_mem notBefore, List.set_cons_zero, List.count_cons_self,
      List.count_cons_of_ne (by decide)]
    omega

theorem searchFrom_ne_bot {deeper : Nat → Proposal Quality → Proposal Quality}
    {depth index : Nat} {current : Proposal Quality} {candidate : Nat × Proposal Quality}
    (member : candidate ∈ candidates groups index current.decrement)
    (found : (explore quality deeper depth candidate).quality ≠ ⊥) :
    (searchFrom groups quality deeper depth index current).quality ≠ ⊥ := by
  have least := (Proposal.foldl_better (explore quality deeper depth)
    (candidates groups index current.decrement) (.new groups)).2.2 candidate member
  exact fun nothing => found (le_bot_iff.mp (least.trans_eq nothing))

/-- A search which has enough groups to assign finds something better than nothing. -/
theorem findProposal_ne_bot
    (waits : ∀ assigment place, assigment[place]? = some (-1) → quality assigment ≠ ⊥ →
      quality (assigment.set place (bgTeamsCount : Int)) ≠ ⊥)
    (depth index : Nat) {current : Proposal Quality} (wellFormed : current.WellFormed groups)
    (feasible : quality current.assigment ≠ ⊥)
    (remains : 0 < (current.assigment.drop index).count (-1))
    (enough : min depth (current.assigment.count (-1)) ≤
      (current.assigment.drop index).count (-1)) :
    (findProposal groups quality depth index current).quality ≠ ⊥ := by
  induction depth generalizing index current with
  | zero =>
      obtain ⟨place, late, unassigned, _⟩ := exists_unassigned remains
      have member := @mem_candidates _ groups index current.decrement place late unassigned
        wellFormed.length
      apply searchFrom_ne_bot member
      unfold explore
      rw [if_pos (.inl (Nat.zero_le 1))]
      exact waits _ _ unassigned feasible
  | succ depth induction =>
      obtain ⟨place, late, unassigned, left⟩ := exists_unassigned remains
      have member := @mem_candidates _ groups index current.decrement place late unassigned
        wellFormed.length
      have isCandidate := isCandidate_of_mem member
      have fits := (isCandidate.wellFormed wellFormed).1
      have counted := (isCandidate.count wellFormed).2
      have waiting := waits _ _ unassigned feasible
      apply searchFrom_ne_bot member
      unfold explore
      split_ifs with leaf
      · exact waiting
      · obtain ⟨deep, unfinished⟩ := not_or.mp leaf
        rw [fits.counter] at unfinished
        apply induction place fits waiting
        · dsimp only at counted unfinished ⊢
          change _ < ((current.assigment.set place (bgTeamsCount : Int)).drop place).count (-1)
          change (current.assigment.set place (bgTeamsCount : Int)).count (-1) + 1 = _ at counted
          change ¬((current.assigment.set place (bgTeamsCount : Int)).count (-1) : Int) = 0
            at unfinished
          omega
        · change min depth ((current.assigment.set place (bgTeamsCount : Int)).count (-1)) ≤
            ((current.assigment.set place (bgTeamsCount : Int)).drop place).count (-1)
          change (current.assigment.set place (bgTeamsCount : Int)).count (-1) + 1 = _ at counted
          omega

/-! ## The loop -/

theorem counter_of_loopSearched {rounds : Nat} {current proposal : Proposal Quality}
    (wellFormed : current.WellFormed groups)
    (member : proposal ∈ loopSearched groups quality rounds current) :
    proposal.unassignedCounter = proposal.assigment.count (-1) := by
  induction rounds generalizing current with
  | zero => exact absurd member List.not_mem_nil
  | succ rounds induction =>
      unfold loopSearched at member
      rcases List.mem_cons.mp member with rfl | member
      · exact wellFormed.counter
      · split_ifs at member
        · have next : (findProposal groups quality (searchDepth current.unassignedCounter) 0
              current).WellFormed groups := (findProposal_finds _ 0 wellFormed).wellFormed
          rcases List.mem_append.mp member with isSearched | member
          · exact counter_of_searched _ 0 wellFormed isSearched
          · rcases List.mem_cons.mp member with rfl | later
            · exact next.counter
            · exact induction (updateSearchRange_wellFormed next) later
        · exact absurd member List.not_mem_nil

/-- What the best proposal is at any time, with a bound for its quality. -/
structure Fits (groups : List GroupQueueInfo) (quality : List Int → WithBot Quality)
    (least : WithBot Quality) (best : Proposal Quality) : Prop where
  wellFormed : best.WellFormed groups
  evaluated : best.quality = quality best.assigment
  least : least ≤ best.quality

/-- In each round a group is assigned, if only for waiting. -/
theorem searchLoop_ends
    (waits : ∀ assigment place, assigment[place]? = some (-1) → quality assigment ≠ ⊥ →
      quality (assigment.set place (bgTeamsCount : Int)) ≠ ⊥)
    (grows : ∀ assigment more, quality assigment ≠ ⊥ →
      quality (assigment ++ List.replicate more (-1)) ≠ ⊥)
    {least : WithBot Quality} {rounds : Nat} {current best : Proposal Quality}
    (wellFormed : current.WellFormed groups) (feasible : quality current.assigment ≠ ⊥)
    (fits : Fits groups quality least best)
    (enough : (groups.length : Int) - current.assigment.length + current.unassignedCounter <
      rounds) :
    ∃ found, searchLoop groups quality rounds current best = some found ∧
      Fits groups quality least found := by
  induction rounds generalizing current best with
  | zero =>
      have length := wellFormed.length
      have counter := wellFormed.counter
      omega
  | succ rounds induction =>
      unfold searchLoop
      split_ifs with unfinished
      · have counter := wellFormed.counter
        have found := findProposal_ne_bot waits (searchDepth current.unassignedCounter) 0
          wellFormed feasible
          (by rw [List.drop_zero]; omega) (by rw [List.drop_zero]; exact Nat.min_le_right _ _)
        have finds : Finds groups quality current
            (findProposal groups quality (searchDepth current.unassignedCounter) 0 current) :=
          findProposal_finds _ 0 wellFormed
        obtain ⟨nextWellFormed, isNew | ⟨evaluated, length, less⟩⟩ := finds
        · rw [isNew] at found
          exact absurd rfl found
        · generalize findProposal groups quality (searchDepth current.unassignedCounter) 0 current =
            next at *
          have better : Fits groups quality least (best.better next) := by
            unfold Proposal.better
            split_ifs with improves
            · exact ⟨nextWellFormed, evaluated, fits.least.trans improves.le⟩
            · exact fits
          have nextFeasible : quality next.assigment ≠ ⊥ := evaluated ▸ found
          obtain ⟨more, _, _, same⟩ := updateSearchRange_eq nextWellFormed
          have stillFeasible : quality (next.updateSearchRange groups).assigment ≠ ⊥ := by
            rw [same]
            exact grows _ more nextFeasible
          apply induction (updateSearchRange_wellFormed nextWellFormed) stillFeasible better
          rw [same]
          dsimp only
          rw [List.length_append, List.length_replicate]
          omega
      · exact ⟨best, rfl, fits⟩

/-- The best proposal only gets better. -/
theorem le_of_searchLoop {rounds : Nat} {current best found : Proposal Quality}
    (isFound : searchLoop groups quality rounds current best = some found) :
    best.quality ≤ found.quality := by
  induction rounds generalizing current best with
  | zero => cases isFound
  | succ rounds induction =>
      unfold searchLoop at isFound
      split_ifs at isFound
      · refine le_trans ?_ (induction isFound)
        unfold Proposal.better
        split_ifs with improves
        · exact improves.le
        · exact le_rfl
      · rw [Option.some.inj isFound]

/-! ## Nothing is found -/

theorem foldl_better_of_bot {Input : Type} {find : Input → Proposal Quality} {inputs : List Input}
    (nothing : ∀ input ∈ inputs, (find input).quality = ⊥) (first : Proposal Quality) :
    inputs.foldl (fun best input => best.better (find input)) first = first := by
  induction inputs with
  | nil => rfl
  | cons input rest induction =>
      rw [List.forall_mem_cons] at nothing
      have same : first.better (find input) = first := by
        unfold Proposal.better
        rw [nothing.1, if_neg not_lt_bot]
      rw [List.foldl_cons, same]
      exact induction nothing.2

theorem findProposal_of_bot (nothing : ∀ assigment, quality assigment = ⊥) (depth index : Nat)
    (current : Proposal Quality) :
    findProposal groups quality depth index current = .new groups := by
  induction depth generalizing index current with
  | zero =>
      apply foldl_better_of_bot
      intro candidate _
      unfold explore
      rw [if_pos (.inl (Nat.zero_le 1))]
      exact nothing _
  | succ depth induction =>
      apply foldl_better_of_bot
      intro candidate _
      unfold explore
      split_ifs
      · exact nothing _
      · rw [induction]
        rfl

/-- The loop begins again and again. -/
theorem searchLoop_of_bot (nothing : ∀ assigment, quality assigment = ⊥) (waiting : groups ≠ [])
    (rounds : Nat) (best : Proposal Quality) :
    searchLoop groups quality rounds (.new groups) best = none := by
  induction rounds generalizing best with
  | zero => rfl
  | succ rounds induction =>
      have unfinished : 0 < (Proposal.new groups : Proposal Quality).unassignedCounter := by
        have positive := List.length_pos_of_ne_nil waiting
        show (0 : Int) < (min groups.length performanceGroupsPerIteration : Nat)
        have limit : 0 < performanceGroupsPerIteration := by decide
        omega
      have again : (Proposal.new groups : Proposal Quality).updateSearchRange groups =
          .new groups := by
        obtain ⟨more, length, bounded, same⟩ :=
          updateSearchRange_eq (Proposal.new_wellFormed groups : (Proposal.new groups :
            Proposal Quality).WellFormed groups)
        change (List.replicate (min groups.length performanceGroupsPerIteration) (-1 : Int)).length
          + more ≤ _ at length
        change ((min groups.length performanceGroupsPerIteration : Nat) : Int) + more ≤ _ at bounded
        rw [List.length_replicate] at length
        have isZero : more = 0 := by omega
        rw [same, isZero]
        unfold Proposal.new
        simp
      unfold searchLoop
      rw [if_pos unfinished]
      dsimp only
      rw [findProposal_of_bot nothing, again]
      exact induction _

end Found

end RealmServer.Battlegrounds
