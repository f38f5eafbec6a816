import RealmServer.Pools.ActivePoolData

/-!
# Quest pools

`ChangeDailyQuests` and `ChangeWeeklyQuests` go through the quest pools by id
and choose new quests for those of their kind.  Where a pool has too few
inactive quests, active ones are recycled: not those of the pool but any, since
`GetActiveQuests` is the set over all pools.
-/

namespace RealmServer.Pools

/-- What is read of a `Quest`. -/
structure QuestTemplate where
  isDaily : Bool
  isWeekly : Bool
deriving DecidableEq, Repr

/-- A quest pool; its members are all in `EqualChanced`, and it has no mother pool. -/
structure QuestPool where
  poolId : Nat
  maxLimit : UInt32
  quests : List Nat
  unique : quests.Nodup
  nonempty : quests ≠ []

/-- `mPoolQuestGroups`, a map, with members of one pool each. -/
structure QuestPools where
  pools : List QuestPool
  ordered : (pools.map QuestPool.poolId).Pairwise (· < ·)
  disjoint : pools.Pairwise fun first second => first.quests.Disjoint second.quests

inductive QuestChange where
  | daily
  | weekly
deriving DecidableEq, Repr

/-- The random numbers of one `SpawnObject`, for its two loops. -/
structure Draws where
  recycled : Nat → Nat
  activated : Nat → Nat

/-- `SelectRandomContainerElement` of a container which is not empty. -/
def selectRandom (draw : Nat) (container : List Nat) : Nat :=
  container.getD (draw % container.length) 0

/-- A call of `ActivateObject<Quest>`. -/
structure QuestActivation where
  questId : Nat
  poolId : Nat
deriving DecidableEq, Repr

/-- The active quests, with the calls that activated quests so far. -/
structure QuestState where
  spawns : ActivePoolData
  activations : List QuestActivation

namespace QuestState

def activateQuest (state : QuestState) (questId poolId : Nat) : QuestState where
  spawns := state.spawns.activateObject .quest questId poolId
  activations := state.activations ++ [⟨questId, poolId⟩]

end QuestState

/-! ## One pool -/

/-- `DespawnObject`: every active quest of the pool is removed. -/
def despawnQuests (poolId : Nat) (quests : List Nat) (spawns : ActivePoolData) :
    ActivePoolData :=
  quests.foldl (fun spawns quest =>
    if spawns.isActiveObject .quest quest then spawns.removeObject .quest quest poolId
    else spawns) spawns

/-- "Recycle minimal amount of quests": the loop over the current quests. -/
def recycleQuests (draws : Nat → Nat) (limit : Nat) : Nat → List Nat → List Nat → List Nat
  | 0, newQuests, _ => newQuests
  | rounds + 1, newQuests, currentQuests =>
      let questId := selectRandom (draws rounds) currentQuests
      let newQuests := newQuests.insert questId
      let currentQuests := currentQuests.erase questId
      if newQuests.length < limit ∧ currentQuests ≠ [] then
        recycleQuests draws limit rounds newQuests currentQuests
      else newQuests

/-- "Activate <limit> random quests", with an unsigned limit. -/
def activateQuests (draws : Nat → Nat) (poolId : Nat) :
    Nat → List Nat → Nat → QuestState → QuestState
  | 0, _, _, state => state
  | rounds + 1, newQuests, limit, state =>
      let questId := selectRandom (draws rounds) newQuests
      let state := state.activateQuest questId poolId
      let newQuests := newQuests.erase questId
      let limit := (limit + (2 ^ 32 - 1)) % 2 ^ 32
      if limit ≠ 0 ∧ newQuests ≠ [] then activateQuests draws poolId rounds newQuests limit state
      else state

/-- `PoolGroup<Quest>::SpawnObject`, triggered so that nothing is loaded. -/
def QuestPool.spawnObject (pool : QuestPool) (draws : Draws) (state : QuestState) : QuestState :=
  let limit := pool.maxLimit.toNat
  let currentQuests := state.spawns.activeQuests
  let newQuests := pool.quests.filter fun quest => !state.spawns.isActiveObject .quest quest
  let state := { state with spawns := despawnQuests pool.poolId pool.quests state.spawns }
  let newQuests :=
    if newQuests.length < limit ∧ currentQuests ≠ [] then
      recycleQuests draws.recycled limit currentQuests.length newQuests currentQuests
    else newQuests
  -- Without new quests the last loop is not entered.
  activateQuests draws.activated pool.poolId newQuests.length newQuests limit state

/-! ## All pools -/

/-- The first quest of the pool has a template, and it is not of the other kind. -/
def QuestPool.isChanged (templates : Nat → Option QuestTemplate) (change : QuestChange)
    (pool : QuestPool) : Bool :=
  match templates (pool.quests.headD 0), change with
  | none, _ => false
  | some template, .daily => !template.isWeekly
  | some template, .weekly => !template.isDaily

/-- The pools which `ChangeDailyQuests` or `ChangeWeeklyQuests` updates. -/
def QuestPools.changed (pools : QuestPools) (templates : Nat → Option QuestTemplate)
    (change : QuestChange) : List QuestPool :=
  pools.pools.filter (QuestPool.isChanged templates change)

/-- Updates of pools one after the other, each with random numbers of its own. -/
def updatePools (draws : Nat → Draws) (turn : List QuestPool) (state : QuestState) : QuestState :=
  turn.foldl (fun state pool => pool.spawnObject (draws pool.poolId) state) state

/-- `ChangeDailyQuests` and `ChangeWeeklyQuests`. -/
def changeQuests (pools : QuestPools) (templates : Nat → Option QuestTemplate)
    (change : QuestChange) (draws : Nat → Draws) (spawns : ActivePoolData) : QuestState :=
  updatePools draws (pools.changed templates change) ⟨spawns, []⟩

namespace QuestPool

/-- How many members are active. -/
def activeCount (pool : QuestPool) (spawns : ActivePoolData) : Nat :=
  pool.quests.countP (· ∈ spawns.activeQuests)

/-- How many quests of the pool should be active. -/
def share (pool : QuestPool) : Nat := min pool.maxLimit.toNat pool.quests.length

end QuestPool

/-- Each active quest is a member of a pool, and the counters have the active members. -/
structure EachInItsPool (pools : List QuestPool) (spawns : ActivePoolData) : Prop where
  unique : spawns.activeQuests.Nodup
  member : ∀ quest ∈ spawns.activeQuests, ∃ pool ∈ pools, quest ∈ pool.quests
  counter : ∀ pool ∈ pools, spawns.getActiveObjectCount pool.poolId = pool.activeCount spawns

/-- A pool has its share of its own quests, all new ones if there are enough. -/
structure HasItsShare (before after : ActivePoolData) (pool : QuestPool) : Prop where
  active : pool.activeCount after = pool.share
  counter : after.getActiveObjectCount pool.poolId = pool.share
  recycled : ∀ quest ∈ pool.quests, quest ∈ before.activeQuests → quest ∈ after.activeQuests →
    pool.quests.length - pool.activeCount before < pool.maxLimit.toNat

/-- Each quest was activated under a pool it is a member of. -/
def Inside (pools : List QuestPool) (activations : List QuestActivation) : Prop :=
  ∀ activation ∈ activations, ∃ pool ∈ pools,
    pool.poolId = activation.poolId ∧ activation.questId ∈ pool.quests

/-- All pools whose turn it was have their shares, quests were activated under their own pool
only, and the other pools are as before. -/
structure StaysInside (pools turn : List QuestPool) (before : ActivePoolData)
    (after : QuestState) : Prop where
  inside : Inside pools after.activations
  changed : ∀ pool ∈ turn, HasItsShare before after.spawns pool
  others : ∀ pool ∈ pools, pool ∉ turn →
    (∀ quest ∈ pool.quests, quest ∈ after.spawns.activeQuests ↔ quest ∈ before.activeQuests) ∧
      after.spawns.getActiveObjectCount pool.poolId = before.getActiveObjectCount pool.poolId

/-- With these numbers of active quests before the turn of the first pool: a pool without limit
has no inactive quest, and a pool with more limit than inactive quests is the only one with
active quests.  After its turn a pool has its share. -/
def FillsFrom (pools : List QuestPool) : (Nat → Nat) → List QuestPool → Prop
  | _, [] => True
  | active, pool :: rest =>
      (pool.maxLimit = 0 → active pool.poolId = pool.quests.length) ∧
        (pool.maxLimit.toNat ≤ pool.quests.length - active pool.poolId ∨
          ∀ other ∈ pools, other.poolId ≠ pool.poolId → active other.poolId = 0) ∧
        FillsFrom pools (Function.update active pool.poolId pool.share) rest

namespace ActivePoolData

@[simp]
theorem getActiveObjectCount_setCounter (spawns : ActivePoolData) (poolId value : Nat) :
    (spawns.setCounter poolId value).getActiveObjectCount poolId = value := by
  unfold setCounter getActiveObjectCount
  dsimp only
  rw [Function.update_self]
  rfl

theorem getActiveObjectCount_setCounter_of_ne (spawns : ActivePoolData) {poolId other : Nat}
    (different : other ≠ poolId) (value : Nat) :
    (spawns.setCounter poolId value).getActiveObjectCount other =
      spawns.getActiveObjectCount other := by
  unfold setCounter getActiveObjectCount
  dsimp only
  rw [Function.update_of_ne different]

end ActivePoolData

/-! ## The loops -/

theorem selectRandom_mem (draw : Nat) {container : List Nat} (nonempty : container ≠ []) :
    selectRandom draw container ∈ container := by
  have inside : draw % container.length < container.length :=
    Nat.mod_lt _ (List.length_pos_of_ne_nil nonempty)
  unfold selectRandom
  rw [List.getD_eq_getElem _ _ inside]
  exact List.getElem_mem inside

theorem exists_selectRandom {container : List Nat} {quest : Nat} (member : quest ∈ container) :
    ∃ draw, selectRandom draw container = quest := by
  obtain ⟨draw, inside, isQuest⟩ := List.getElem_of_mem member
  refine ⟨draw, ?_⟩
  unfold selectRandom
  rw [Nat.mod_eq_of_lt inside, List.getD_eq_getElem _ _ inside]
  exact isQuest

/-- What the despawn leaves of the active quests and the counters. -/
structure Despawned (poolId : Nat) (quests : List Nat) (before after : ActivePoolData) :
    Prop where
  unique : after.activeQuests.Nodup
  active : ∀ quest, quest ∈ after.activeQuests ↔ quest ∈ before.activeQuests ∧ quest ∉ quests
  counter : after.getActiveObjectCount poolId =
    before.getActiveObjectCount poolId - quests.countP (· ∈ before.activeQuests)
  others : ∀ other, other ≠ poolId →
    after.getActiveObjectCount other = before.getActiveObjectCount other

theorem despawnQuests_despawned (poolId : Nat) {quests : List Nat} (distinct : quests.Nodup)
    {spawns : ActivePoolData} (unique : spawns.activeQuests.Nodup) :
    Despawned poolId quests spawns (despawnQuests poolId quests spawns) := by
  induction quests generalizing spawns with
  | nil => exact ⟨unique, by simp [despawnQuests], rfl, fun _ _ => rfl⟩
  | cons quest rest induction =>
      rw [List.nodup_cons] at distinct
      show Despawned poolId (quest :: rest) spawns (despawnQuests poolId rest
        (if spawns.isActiveObject .quest quest then spawns.removeObject .quest quest poolId
          else spawns))
      by_cases isActive : quest ∈ spawns.activeQuests
      · have active : spawns.isActiveObject .quest quest = true := decide_eq_true isActive
        rw [if_pos active]
        obtain ⟨stillUnique, active, counter, others⟩ :=
          @induction distinct.2 (spawns.removeObject .quest quest poolId) (unique.erase quest)
        have removed : ∀ other, other ∈ (spawns.removeObject .quest quest poolId).activeQuests ↔
            other ≠ quest ∧ other ∈ spawns.activeQuests := fun other => unique.mem_erase_iff
        have one : (spawns.removeObject .quest quest poolId).getActiveObjectCount poolId =
            spawns.getActiveObjectCount poolId - 1 :=
          ActivePoolData.getActiveObjectCount_setCounter _ _ _
        have same : rest.countP (· ∈ (spawns.removeObject .quest quest poolId).activeQuests) =
            rest.countP (· ∈ spawns.activeQuests) := by
          apply List.countP_congr
          intro other member
          have different : other ≠ quest := fun same => distinct.1 (same ▸ member)
          rw [decide_eq_true_iff, decide_eq_true_iff, removed, and_iff_right different]
        refine ⟨stillUnique, fun other => ?_, ?_, fun other different => ?_⟩
        · rw [active, removed, List.mem_cons, not_or]
          constructor
          · rintro ⟨⟨different, isOther⟩, notRest⟩
            exact ⟨isOther, different, notRest⟩
          · rintro ⟨isOther, different, notRest⟩
            exact ⟨⟨different, isOther⟩, notRest⟩
        · rw [counter, one, same, List.countP_cons_of_pos (by simpa using isActive)]
          omega
        · rw [others other different]
          exact ActivePoolData.getActiveObjectCount_setCounter_of_ne _ different _
      · have inactive : ¬spawns.isActiveObject .quest quest = true := by
          rw [ActivePoolData.isActiveObject, decide_eq_true_iff]
          exact isActive
        rw [if_neg inactive]
        obtain ⟨stillUnique, active, counter, others⟩ := induction distinct.2 unique
        refine ⟨stillUnique, fun other => ?_, ?_, others⟩
        · rw [active, List.mem_cons, not_or]
          constructor
          · rintro ⟨isOther, notRest⟩
            exact ⟨isOther, fun same => isActive (same ▸ isOther), notRest⟩
          · rintro ⟨isOther, _, notRest⟩
            exact ⟨isOther, notRest⟩
        · rw [counter, List.countP_cons_of_neg (by simpa using isActive)]

/-- What the recycling makes of the new quests. -/
structure Recycled (draws : Nat → Nat) (limit : Nat) (newQuests currentQuests result : List Nat) :
    Prop where
  unique : result.Nodup
  kept : newQuests ⊆ result
  within : ∀ quest ∈ result, quest ∈ newQuests ∨ quest ∈ currentQuests
  length : result.length = min limit (newQuests.length + currentQuests.length)
  first : selectRandom (draws (currentQuests.length - 1)) currentQuests ∈ result

theorem recycleQuests_recycled (draws : Nat → Nat) {limit rounds : Nat}
    {newQuests currentQuests : List Nat} (distinct : newQuests.Nodup)
    (unique : currentQuests.Nodup) (disjoint : newQuests.Disjoint currentQuests)
    (few : newQuests.length < limit) (length : currentQuests.length = rounds + 1) :
    Recycled draws limit newQuests currentQuests
      (recycleQuests draws limit (rounds + 1) newQuests currentQuests) := by
  induction rounds using Nat.strong_induction_on generalizing newQuests currentQuests with
  | _ rounds induction =>
      have nonempty : currentQuests ≠ [] := by
        rintro rfl
        cases length
      have chosen := selectRandom_mem (draws rounds) nonempty
      have drawn : currentQuests.length - 1 = rounds := by omega
      have isNew : selectRandom (draws rounds) currentQuests ∉ newQuests := fun member =>
        disjoint member chosen
      have left : (currentQuests.erase (selectRandom (draws rounds) currentQuests)).length =
          rounds := by
        rw [List.length_erase_of_mem chosen, drawn]
      have more : (selectRandom (draws rounds) currentQuests :: newQuests).Nodup :=
        List.nodup_cons.mpr ⟨isNew, distinct⟩
      unfold recycleQuests
      dsimp only
      rw [List.insert_of_not_mem isNew]
      split_ifs with goesOn
      · obtain ⟨next, rfl⟩ : ∃ next, rounds = next + 1 :=
          Nat.exists_eq_add_one_of_ne_zero fun isZero =>
            goesOn.2 (List.eq_nil_of_length_eq_zero (left.trans isZero))
        have apart : (selectRandom (draws (next + 1)) currentQuests :: newQuests).Disjoint
            (currentQuests.erase (selectRandom (draws (next + 1)) currentQuests)) := by
          rw [List.disjoint_cons_left]
          exact ⟨unique.not_mem_erase, fun quest member rest =>
            disjoint member (List.mem_of_mem_erase rest)⟩
        have rest := induction next (Nat.lt_succ_self next) more (unique.erase _) apart goesOn.1
          left
        refine ⟨rest.unique, fun quest member => rest.kept (List.mem_cons_of_mem _ member), ?_,
          ?_, ?_⟩
        · intro quest member
          rcases rest.within quest member with isNow | isLater
          · rcases List.mem_cons.mp isNow with rfl | before
            · exact .inr chosen
            · exact .inl before
          · exact .inr (List.mem_of_mem_erase isLater)
        · rw [rest.length, List.length_cons, left, length]
          congr 1
          omega
        · rw [drawn]
          exact rest.kept List.mem_cons_self
      · refine ⟨more, fun quest => List.mem_cons_of_mem _, ?_, ?_, ?_⟩
        · intro quest member
          rcases List.mem_cons.mp member with rfl | before
          · exact .inr chosen
          · exact .inl before
        · rw [not_and_or, not_lt, not_not] at goesOn
          rw [List.length_cons] at goesOn ⊢
          rcases goesOn with full | nothing
          · omega
          · rw [nothing, List.length_nil] at left
            omega
        · rw [drawn]
          exact List.mem_cons_self

/-- What the last loop does: it activates the chosen quests under the pool. -/
structure Activates (poolId : Nat) (newQuests : List Nat) (before : QuestState)
    (chosen : List Nat) (after : QuestState) : Prop where
  distinct : chosen.Nodup
  within : chosen ⊆ newQuests
  activations : after.activations =
    before.activations ++ chosen.map fun quest => ⟨quest, poolId⟩
  unique : before.spawns.activeQuests.Nodup → after.spawns.activeQuests.Nodup
  active : ∀ quest, quest ∈ after.spawns.activeQuests ↔
    quest ∈ before.spawns.activeQuests ∨ quest ∈ chosen
  counter : after.spawns.getActiveObjectCount poolId =
    before.spawns.getActiveObjectCount poolId + chosen.length
  others : ∀ other, other ≠ poolId →
    after.spawns.getActiveObjectCount other = before.spawns.getActiveObjectCount other

theorem activates_nil (poolId : Nat) (newQuests : List Nat) (state : QuestState) :
    Activates poolId newQuests state [] state where
  distinct := .nil
  within := List.nil_subset _
  activations := (List.append_nil _).symm
  unique := id
  active quest := by
    rw [or_iff_left List.not_mem_nil]
  counter := rfl
  others _ _ := rfl

/-- One quest before the others. -/
theorem Activates.cons {poolId quest : Nat} {newQuests rest : List Nat}
    {state after : QuestState} (distinct : newQuests.Nodup) (member : quest ∈ newQuests)
    (activates : Activates poolId (newQuests.erase quest) (state.activateQuest quest poolId) rest
      after) : Activates poolId newQuests state (quest :: rest) after where
  distinct := by
    rw [List.nodup_cons]
    exact ⟨fun again => distinct.not_mem_erase (activates.within again), activates.distinct⟩
  within := by
    rw [List.cons_subset]
    exact ⟨member, fun other later => List.mem_of_mem_erase (activates.within later)⟩
  activations := by
    rw [activates.activations, List.map_cons]
    exact List.append_assoc _ _ _
  unique unique := activates.unique (List.Nodup.insert unique)
  active other := by
    have isActive : other ∈ (state.activateQuest quest poolId).spawns.activeQuests ↔
        other = quest ∨ other ∈ state.spawns.activeQuests := List.mem_insert_iff
    rw [activates.active, isActive, List.mem_cons]
    tauto
  counter := by
    have counter : (state.activateQuest quest poolId).spawns.getActiveObjectCount poolId =
        state.spawns.getActiveObjectCount poolId + 1 :=
      ActivePoolData.getActiveObjectCount_setCounter _ _ _
    rw [activates.counter, counter, List.length_cons]
    omega
  others other different := by
    rw [activates.others other different]
    exact ActivePoolData.getActiveObjectCount_setCounter_of_ne _ different _

/-- An unsigned limit of zero is one of `2 ^ 32`. -/
theorem activateQuests_activates (draws : Nat → Nat) (poolId : Nat) {rounds limit : Nat}
    {newQuests : List Nat} (distinct : newQuests.Nodup) (length : newQuests.length = rounds)
    (bounded : limit < 2 ^ 32) (state : QuestState) :
    ∃ chosen, Activates poolId newQuests state chosen
        (activateQuests draws poolId rounds newQuests limit state) ∧
      chosen.length = min (if limit = 0 then 2 ^ 32 else limit) rounds := by
  induction rounds generalizing newQuests limit state with
  | zero => exact ⟨[], activates_nil poolId newQuests state, (Nat.min_zero _).symm⟩
  | succ rounds induction =>
      have nonempty : newQuests ≠ [] := by
        rintro rfl
        cases length
      have chosen := selectRandom_mem (draws rounds) nonempty
      generalize isQuest : selectRandom (draws rounds) newQuests = quest at chosen
      have left : (newQuests.erase quest).length = rounds := by
        rw [List.length_erase_of_mem chosen]
        omega
      unfold activateQuests
      dsimp only
      rw [isQuest]
      by_cases goesOn : (limit + (2 ^ 32 - 1)) % 2 ^ 32 ≠ 0 ∧ newQuests.erase quest ≠ []
      · rw [if_pos goesOn]
        obtain ⟨rest, activates, count⟩ := induction (distinct.erase quest) left
          (Nat.mod_lt _ (by omega)) (state.activateQuest quest poolId)
        refine ⟨quest :: rest, activates.cons distinct chosen, ?_⟩
        rw [List.length_cons, count, if_neg goesOn.1]
        split_ifs with isZero
        · subst isZero
          omega
        · omega
      · rw [if_neg goesOn]
        refine ⟨[quest], (activates_nil poolId _ _).cons distinct chosen, ?_⟩
        rw [List.length_singleton]
        rw [not_and_or, not_not, not_not] at goesOn
        rcases goesOn with isOne | nothing
        · split_ifs with isZero
          · subst isZero
            omega
          · omega
        · rw [nothing, List.length_nil] at left
          split_ifs
          · omega
          · omega

/-! ## One pool -/

namespace QuestPool

variable (pool : QuestPool)

/-- The members which are not active. -/
def inactive (spawns : ActivePoolData) : List Nat :=
  pool.quests.filter fun quest => !spawns.isActiveObject .quest quest

variable {pool}

theorem mem_inactive {spawns : ActivePoolData} {quest : Nat} :
    quest ∈ pool.inactive spawns ↔ quest ∈ pool.quests ∧ quest ∉ spawns.activeQuests := by
  unfold inactive
  rw [List.mem_filter, ActivePoolData.isActiveObject, Bool.not_eq_true', decide_eq_false_iff_not]

theorem inactive_length (spawns : ActivePoolData) :
    (pool.inactive spawns).length + pool.activeCount spawns = pool.quests.length := by
  have split := List.length_eq_countP_add_countP (· ∈ spawns.activeQuests) (l := pool.quests)
  have same : pool.quests.countP (fun quest => !spawns.isActiveObject .quest quest) =
      pool.quests.countP fun quest => ¬decide (quest ∈ spawns.activeQuests) = true := by
    apply List.countP_congr
    intro quest _
    simp [ActivePoolData.isActiveObject]
  unfold inactive activeCount
  rw [← List.countP_eq_length_filter, same, split, Nat.add_comm]

end QuestPool

/-- What the update of a pool does: the chosen quests take the place of its active ones. -/
structure Spawned (pool : QuestPool) (draws : Draws) (before : QuestState) (chosen : List Nat)
    (after : QuestState) : Prop where
  distinct : chosen.Nodup
  activations : after.activations =
    before.activations ++ chosen.map fun quest => ⟨quest, pool.poolId⟩
  unique : after.spawns.activeQuests.Nodup
  active : ∀ quest, quest ∈ after.spawns.activeQuests ↔
    quest ∈ before.spawns.activeQuests ∧ quest ∉ pool.quests ∨ quest ∈ chosen
  counter : after.spawns.getActiveObjectCount pool.poolId =
    before.spawns.getActiveObjectCount pool.poolId - pool.activeCount before.spawns +
      chosen.length
  others : ∀ other, other ≠ pool.poolId →
    after.spawns.getActiveObjectCount other = before.spawns.getActiveObjectCount other
  fresh : pool.maxLimit.toNat ≤ (pool.inactive before.spawns).length ∨
      before.spawns.activeQuests = [] →
    chosen ⊆ pool.inactive before.spawns ∧
      chosen.length = min (if pool.maxLimit.toNat = 0 then 2 ^ 32 else pool.maxLimit.toNat)
        (pool.inactive before.spawns).length
  recycled : (pool.inactive before.spawns).length < pool.maxLimit.toNat →
    before.spawns.activeQuests ≠ [] →
      (∀ quest ∈ chosen, quest ∈ pool.quests ∨ quest ∈ before.spawns.activeQuests) ∧
        chosen.length = min pool.maxLimit.toNat
          ((pool.inactive before.spawns).length + before.spawns.activeQuests.length) ∧
        selectRandom (draws.recycled (before.spawns.activeQuests.length - 1))
          before.spawns.activeQuests ∈ chosen

theorem Activates.spawned {pool : QuestPool} {draws : Draws} {newQuests chosen : List Nat}
    {before after : QuestState} (unique : before.spawns.activeQuests.Nodup)
    (activates : Activates pool.poolId newQuests
      { before with spawns := despawnQuests pool.poolId pool.quests before.spawns } chosen after)
    (fresh : pool.maxLimit.toNat ≤ (pool.inactive before.spawns).length ∨
        before.spawns.activeQuests = [] →
      chosen ⊆ pool.inactive before.spawns ∧
        chosen.length = min (if pool.maxLimit.toNat = 0 then 2 ^ 32 else pool.maxLimit.toNat)
          (pool.inactive before.spawns).length)
    (recycled : (pool.inactive before.spawns).length < pool.maxLimit.toNat →
      before.spawns.activeQuests ≠ [] →
        (∀ quest ∈ chosen, quest ∈ pool.quests ∨ quest ∈ before.spawns.activeQuests) ∧
          chosen.length = min pool.maxLimit.toNat
            ((pool.inactive before.spawns).length + before.spawns.activeQuests.length) ∧
          selectRandom (draws.recycled (before.spawns.activeQuests.length - 1))
            before.spawns.activeQuests ∈ chosen) :
    Spawned pool draws before chosen after := by
  have despawned := despawnQuests_despawned pool.poolId pool.unique unique
  exact
    { distinct := activates.distinct
      activations := activates.activations
      unique := activates.unique despawned.unique
      active := fun quest => (activates.active quest).trans (or_congr_left (despawned.active quest))
      counter := by
        rw [activates.counter, despawned.counter]
        rfl
      others := fun other different =>
        (activates.others other different).trans (despawned.others other different)
      fresh
      recycled }

theorem spawnObject_spawned (pool : QuestPool) (draws : Draws) {state : QuestState}
    (unique : state.spawns.activeQuests.Nodup) :
    ∃ chosen, Spawned pool draws state chosen (pool.spawnObject draws state) := by
  have inactiveUnique : (pool.inactive state.spawns).Nodup := pool.unique.filter _
  have bounded : pool.maxLimit.toNat < 2 ^ 32 := pool.maxLimit.toNat_lt
  unfold QuestPool.spawnObject
  dsimp only
  by_cases recycles : (pool.inactive state.spawns).length < pool.maxLimit.toNat ∧
      state.spawns.activeQuests ≠ []
  · rw [show (if (pool.quests.filter fun quest => !state.spawns.isActiveObject .quest quest).length
        < pool.maxLimit.toNat ∧ state.spawns.activeQuests ≠ [] then _ else _) = _ from
          if_pos recycles]
    have length : state.spawns.activeQuests.length =
        state.spawns.activeQuests.length - 1 + 1 := by
      have positive := List.length_pos_of_ne_nil recycles.2
      omega
    have disjoint : (pool.inactive state.spawns).Disjoint state.spawns.activeQuests :=
      fun quest isInactive isActive => (QuestPool.mem_inactive.mp isInactive).2 isActive
    have result := recycleQuests_recycled draws.recycled inactiveUnique unique disjoint recycles.1
      length
    rw [← length] at result
    change Recycled _ _ _ _ (recycleQuests draws.recycled pool.maxLimit.toNat
      state.spawns.activeQuests.length
      (pool.quests.filter fun quest => !state.spawns.isActiveObject .quest quest)
      state.spawns.activeQuests) at result
    generalize recycleQuests draws.recycled pool.maxLimit.toNat state.spawns.activeQuests.length
      (pool.quests.filter fun quest => !state.spawns.isActiveObject .quest quest)
      state.spawns.activeQuests = newQuests at *
    obtain ⟨chosen, activates, count⟩ := activateQuests_activates draws.activated pool.poolId
      result.unique rfl bounded
      { state with spawns := despawnQuests pool.poolId pool.quests state.spawns }
    refine ⟨chosen, activates.spawned unique ?_ ?_⟩
    · rintro (enough | nothing)
      · exact absurd recycles.1 (not_lt.mpr enough)
      · exact absurd nothing recycles.2
    · intro _ _
      have all : chosen.length = newQuests.length := by
        rw [count, result.length]
        split_ifs
        · omega
        · omega
      refine ⟨fun quest member => ?_, by rw [all, result.length], ?_⟩
      · rcases result.within quest (activates.within member) with isInactive | isActive
        · exact .inl (QuestPool.mem_inactive.mp isInactive).1
        · exact .inr isActive
      · have same := (activates.distinct.subperm activates.within).perm_of_length_le all.ge
        exact same.mem_iff.mpr result.first
  · rw [show (if (pool.quests.filter fun quest => !state.spawns.isActiveObject .quest quest).length
        < pool.maxLimit.toNat ∧ state.spawns.activeQuests ≠ [] then _ else _) = _ from
          if_neg recycles]
    obtain ⟨chosen, activates, count⟩ := activateQuests_activates draws.activated pool.poolId
      inactiveUnique rfl bounded
      { state with spawns := despawnQuests pool.poolId pool.quests state.spawns }
    refine ⟨chosen, activates.spawned unique (fun _ => ⟨activates.within, count⟩) ?_⟩
    intro few some
    exact absurd ⟨few, some⟩ recycles

/-- Only own members or active quests are ever chosen. -/
theorem Spawned.chosen_within {pool : QuestPool} {draws : Draws} {before after : QuestState}
    {chosen : List Nat} (spawned : Spawned pool draws before chosen after) {quest : Nat}
    (member : quest ∈ chosen) : quest ∈ pool.quests ∨ quest ∈ before.spawns.activeQuests := by
  by_cases recycles : (pool.inactive before.spawns).length < pool.maxLimit.toNat ∧
      before.spawns.activeQuests ≠ []
  · exact (spawned.recycled recycles.1 recycles.2).1 quest member
  · rw [not_and_or, not_lt, not_not] at recycles
    exact .inl (QuestPool.mem_inactive.mp ((spawned.fresh recycles).1 member)).1

/-- Members of other pools stay as they are. -/
theorem Spawned.active_iff {pool : QuestPool} {draws : Draws} {before after : QuestState}
    {chosen : List Nat} (spawned : Spawned pool draws before chosen after) {quest : Nat}
    (other : quest ∉ pool.quests) :
    quest ∈ after.spawns.activeQuests ↔ quest ∈ before.spawns.activeQuests := by
  rw [spawned.active]
  constructor
  · rintro (⟨isActive, _⟩ | member)
    · exact isActive
    · exact (spawned.chosen_within member).resolve_left other
  · exact fun isActive => .inl ⟨isActive, other⟩

theorem QuestPool.activeCount_congr {pool : QuestPool} {before after : ActivePoolData}
    (same : ∀ quest ∈ pool.quests, quest ∈ after.activeQuests ↔ quest ∈ before.activeQuests) :
    pool.activeCount after = pool.activeCount before := by
  apply List.countP_congr
  intro quest member
  rw [decide_eq_true_iff, decide_eq_true_iff, same quest member]

/-- The active members are those of a list which has only members. -/
theorem QuestPool.activeCount_eq_length {pool : QuestPool} {spawns : ActivePoolData}
    {chosen : List Nat} (distinct : chosen.Nodup) (within : chosen ⊆ pool.quests)
    (active : ∀ quest ∈ pool.quests, quest ∈ spawns.activeQuests ↔ quest ∈ chosen) :
    pool.activeCount spawns = chosen.length := by
  unfold activeCount
  rw [List.countP_eq_length_filter]
  apply List.Perm.length_eq
  rw [List.perm_ext_iff_of_nodup (pool.unique.filter _) distinct]
  intro quest
  rw [List.mem_filter, decide_eq_true_iff]
  constructor
  · rintro ⟨member, isActive⟩
    exact (active quest member).mp isActive
  · intro isChosen
    exact ⟨within isChosen, (active quest (within isChosen)).mpr isChosen⟩

section Pools

variable {pools : QuestPools} {pool : QuestPool} {draws : Draws} {before after : QuestState}
  {chosen : List Nat}

theorem QuestPools.disjoint_of_ne (pools : QuestPools) {first second : QuestPool}
    (isFirst : first ∈ pools.pools) (isSecond : second ∈ pools.pools)
    (different : first.poolId ≠ second.poolId) : first.quests.Disjoint second.quests := by
  have symmetric : Std.Symm fun first second : QuestPool =>
      first.quests.Disjoint second.quests := ⟨fun _ _ disjoint => disjoint.symm⟩
  exact pools.disjoint.forall isFirst isSecond fun same => different (same ▸ rfl)

theorem QuestPools.eq_of_poolId (pools : QuestPools) {first second : QuestPool}
    (isFirst : first ∈ pools.pools) (isSecond : second ∈ pools.pools)
    (same : first.poolId = second.poolId) : first = second :=
  List.inj_on_of_nodup_map (pools.ordered.imp Nat.ne_of_lt) isFirst isSecond same

/-- Where no other pool has active quests, all active quests are members. -/
theorem EachInItsPool.within (each : EachInItsPool pools.pools before.spawns)
    (alone : ∀ other ∈ pools.pools, other.poolId ≠ pool.poolId →
      before.spawns.getActiveObjectCount other.poolId = 0)
    (isPool : pool ∈ pools.pools) : before.spawns.activeQuests ⊆ pool.quests := by
  intro quest isActive
  obtain ⟨other, isOther, member⟩ := each.member quest isActive
  by_cases same : other.poolId = pool.poolId
  · exact pools.eq_of_poolId isOther isPool same ▸ member
  · have nothing := alone other isOther same
    rw [each.counter other isOther] at nothing
    have some : 0 < other.activeCount before.spawns :=
      List.countP_pos_iff.mpr ⟨quest, member, decide_eq_true isActive⟩
    omega

theorem Spawned.hasItsShare (spawned : Spawned pool draws before chosen after)
    (each : EachInItsPool pools.pools before.spawns) (isPool : pool ∈ pools.pools)
    (limitless : pool.maxLimit = 0 →
      before.spawns.getActiveObjectCount pool.poolId = pool.quests.length)
    (fills : pool.maxLimit.toNat ≤
        pool.quests.length - before.spawns.getActiveObjectCount pool.poolId ∨
      ∀ other ∈ pools.pools, other.poolId ≠ pool.poolId →
        before.spawns.getActiveObjectCount other.poolId = 0) :
    chosen ⊆ pool.quests ∧ HasItsShare before.spawns after.spawns pool := by
  have counter := each.counter pool isPool
  have inactive := pool.inactive_length before.spawns
  rw [counter] at limitless fills
  have isZero : pool.maxLimit.toNat = 0 → pool.activeCount before.spawns = pool.quests.length :=
    fun zero => limitless (UInt32.toNat_inj.mp zero)
  have shares : chosen ⊆ pool.quests ∧ chosen.length = pool.share ∧
      ∀ quest ∈ chosen, quest ∈ before.spawns.activeQuests →
        pool.quests.length - pool.activeCount before.spawns < pool.maxLimit.toNat := by
    unfold QuestPool.share
    by_cases recycles : (pool.inactive before.spawns).length < pool.maxLimit.toNat ∧
        before.spawns.activeQuests ≠ []
    · have alone := fills.resolve_left (by omega)
      have within := each.within alone isPool
      have length : before.spawns.activeQuests.length = pool.activeCount before.spawns :=
        (pool.activeCount_eq_length each.unique within fun quest _ => Iff.rfl).symm
      obtain ⟨own, count, _⟩ := spawned.recycled recycles.1 recycles.2
      refine ⟨fun quest member => (own quest member).elim id fun isActive => within isActive,
        by omega, fun _ _ _ => by omega⟩
    · rw [not_and_or, not_lt, not_not] at recycles
      obtain ⟨own, count⟩ := spawned.fresh recycles
      refine ⟨fun quest member => (QuestPool.mem_inactive.mp (own member)).1, ?_,
        fun quest member isActive => absurd isActive
          (QuestPool.mem_inactive.mp (own member)).2⟩
      rw [count]
      rcases recycles with enough | nothing
      · split_ifs with zero
        · have full := isZero zero
          omega
        · omega
      · have none : pool.activeCount before.spawns = 0 := by
          unfold QuestPool.activeCount
          rw [nothing]
          exact List.countP_eq_zero.mpr (by simp)
        split_ifs with zero
        · have full := isZero zero
          omega
        · omega
  obtain ⟨within, length, recycled⟩ := shares
  have active : ∀ quest ∈ pool.quests,
      quest ∈ after.spawns.activeQuests ↔ quest ∈ chosen := by
    intro quest member
    rw [spawned.active, or_iff_right]
    exact fun both => both.2 member
  refine ⟨within, ?_, ?_, ?_⟩
  · rw [pool.activeCount_eq_length spawned.distinct within active, length]
  · rw [spawned.counter, counter, Nat.sub_self, Nat.zero_add, length]
  · intro quest member isActive stays
    exact recycled quest ((active quest member).mp stays) isActive

/-- The state after a pool which got its share. -/
theorem Spawned.each (spawned : Spawned pool draws before chosen after)
    (each : EachInItsPool pools.pools before.spawns) (isPool : pool ∈ pools.pools)
    (within : chosen ⊆ pool.quests) (share : HasItsShare before.spawns after.spawns pool) :
    EachInItsPool pools.pools after.spawns where
  unique := spawned.unique
  member quest isActive := by
    rcases (spawned.active quest).mp isActive with ⟨wasActive, _⟩ | isChosen
    · exact each.member quest wasActive
    · exact ⟨pool, isPool, within isChosen⟩
  counter other isOther := by
    by_cases same : other.poolId = pool.poolId
    · obtain rfl := pools.eq_of_poolId isOther isPool same
      rw [share.counter, share.active]
    · have apart := pools.disjoint_of_ne isOther isPool same
      have unchanged : other.activeCount after.spawns = other.activeCount before.spawns :=
        QuestPool.activeCount_congr fun quest member => spawned.active_iff (apart member)
      rw [spawned.others _ same, each.counter other isOther, unchanged]

end Pools

/-! ## All pools -/

section Turns

variable {pools : QuestPools}

/-- What the updates leave alone, whatever they choose. -/
structure LeavesAlone (pools turn : List QuestPool) (before after : QuestState) : Prop where
  unique : after.spawns.activeQuests.Nodup
  activations : before.activations ⊆ after.activations
  active : ∀ pool ∈ pools, pool ∉ turn → ∀ quest ∈ pool.quests,
    quest ∈ after.spawns.activeQuests ↔ quest ∈ before.spawns.activeQuests
  counter : ∀ pool ∈ pools, pool ∉ turn →
    after.spawns.getActiveObjectCount pool.poolId = before.spawns.getActiveObjectCount pool.poolId

theorem updatePools_leavesAlone (draws : Nat → Draws) {turn : List QuestPool}
    (arePools : turn ⊆ pools.pools) {state : QuestState}
    (unique : state.spawns.activeQuests.Nodup) :
    LeavesAlone pools.pools turn state (updatePools draws turn state) := by
  induction turn generalizing state with
  | nil => exact ⟨unique, List.Subset.refl _, fun _ _ _ _ _ => Iff.rfl, fun _ _ _ => rfl⟩
  | cons pool rest induction =>
      rw [List.cons_subset] at arePools
      obtain ⟨chosen, spawned⟩ := spawnObject_spawned pool (draws pool.poolId) unique
      have later := induction arePools.2 spawned.unique
      have apart : ∀ other ∈ pools.pools, other ∉ pool :: rest →
          other.poolId ≠ pool.poolId ∧ other ∉ rest := by
        intro other isOther notTurn
        rw [List.mem_cons, not_or] at notTurn
        exact ⟨fun same => notTurn.1 (pools.eq_of_poolId isOther arePools.1 same), notTurn.2⟩
      refine ⟨later.unique, ?_, ?_, ?_⟩
      · intro activation member
        apply later.activations
        rw [spawned.activations]
        exact List.mem_append_left _ member
      · intro other isOther notTurn quest member
        obtain ⟨different, notRest⟩ := apart other isOther notTurn
        have disjoint := pools.disjoint_of_ne isOther arePools.1 different
        exact (later.active other isOther notRest quest member).trans
          (spawned.active_iff (disjoint member))
      · intro other isOther notTurn
        obtain ⟨different, notRest⟩ := apart other isOther notTurn
        exact (later.counter other isOther notRest).trans (spawned.others _ different)

/-- The random numbers of other pools do not matter. -/
theorem updatePools_congr {draws others : Nat → Draws} {turn : List QuestPool}
    (same : ∀ pool ∈ turn, draws pool.poolId = others pool.poolId) (state : QuestState) :
    updatePools draws turn state = updatePools others turn state := by
  unfold updatePools
  apply List.foldl_ext
  intro state pool member
  rw [same pool member]

/-- A share is one also where other pools had their turns before or after. -/
theorem HasItsShare.congr {pool : QuestPool} {before after first last : ActivePoolData}
    (share : HasItsShare before after pool)
    (start : ∀ quest ∈ pool.quests, quest ∈ before.activeQuests ↔ quest ∈ first.activeQuests)
    (stop : ∀ quest ∈ pool.quests, quest ∈ last.activeQuests ↔ quest ∈ after.activeQuests)
    (counter : last.getActiveObjectCount pool.poolId = after.getActiveObjectCount pool.poolId) :
    HasItsShare first last pool where
  active := by
    rw [QuestPool.activeCount_congr stop]
    exact share.active
  counter := counter.trans share.counter
  recycled quest member isActive stays := by
    rw [← QuestPool.activeCount_congr start]
    exact share.recycled quest member ((start quest member).mpr isActive)
      ((stop quest member).mp stays)

theorem Spawned.inside {pool : QuestPool} {draws : Draws} {before after : QuestState}
    {chosen : List Nat} (spawned : Spawned pool draws before chosen after)
    (isPool : pool ∈ pools.pools) (within : chosen ⊆ pool.quests)
    (inside : Inside pools.pools before.activations) :
    Inside pools.pools after.activations := by
  intro activation member
  rw [spawned.activations] at member
  rcases List.mem_append.mp member with old | new
  · exact inside activation old
  · obtain ⟨quest, isChosen, rfl⟩ := List.mem_map.mp new
    exact ⟨pool, isPool, rfl, within isChosen⟩

/-- The counters after a pool got its share. -/
theorem Spawned.counters {pool : QuestPool} {draws : Draws} {before after : QuestState}
    {chosen : List Nat} (spawned : Spawned pool draws before chosen after)
    (share : HasItsShare before.spawns after.spawns pool) :
    after.spawns.getActiveObjectCount =
      Function.update before.spawns.getActiveObjectCount pool.poolId pool.share := by
  funext poolId
  by_cases same : poolId = pool.poolId
  · rw [same, Function.update_self, share.counter]
  · rw [Function.update_of_ne same, spawned.others poolId same]

/-- The first pool's turn before those of the rest. -/
theorem StaysInside.cons {pool : QuestPool} {rest : List QuestPool} {draws : Nat → Draws}
    {before next : QuestState} {chosen : List Nat} (arePools : pool :: rest ⊆ pools.pools)
    (once : (pool :: rest).Nodup) (spawned : Spawned pool (draws pool.poolId) before chosen next)
    (share : HasItsShare before.spawns next.spawns pool)
    (later : StaysInside pools.pools rest next.spawns (updatePools draws rest next)) :
    StaysInside pools.pools (pool :: rest) before.spawns (updatePools draws rest next) := by
  rw [List.cons_subset] at arePools
  rw [List.nodup_cons] at once
  have apart : ∀ other ∈ pools.pools, other ≠ pool →
      other.poolId ≠ pool.poolId ∧ other.quests.Disjoint pool.quests := by
    intro other isOther different
    have ids : other.poolId ≠ pool.poolId := fun same =>
      different (pools.eq_of_poolId isOther arePools.1 same)
    exact ⟨ids, pools.disjoint_of_ne isOther arePools.1 ids⟩
  refine ⟨later.inside, ?_, ?_⟩
  · intro other member
    rcases List.mem_cons.mp member with rfl | isRest
    · obtain ⟨active, counter⟩ := later.others other arePools.1 once.1
      exact share.congr (fun _ _ => Iff.rfl) active counter
    · have different : other ≠ pool := fun same => once.1 (same ▸ isRest)
      obtain ⟨_, disjoint⟩ := apart other (arePools.2 isRest) different
      exact (later.changed other isRest).congr
        (fun quest isQuest => spawned.active_iff (disjoint isQuest)) (fun _ _ => Iff.rfl) rfl
  · intro other isOther notTurn
    rw [List.mem_cons, not_or] at notTurn
    obtain ⟨ids, disjoint⟩ := apart other isOther notTurn.1
    obtain ⟨active, counter⟩ := later.others other isOther notTurn.2
    exact ⟨fun quest isQuest =>
        (active quest isQuest).trans (spawned.active_iff (disjoint isQuest)),
      counter.trans (spawned.others _ ids)⟩

/-- The rest has its shares also from where the first pool's turn has ended. -/
theorem StaysInside.rest {pool : QuestPool} {rest : List QuestPool} {draws : Nat → Draws}
    {before next : QuestState} {chosen : List Nat} (arePools : pool :: rest ⊆ pools.pools)
    (once : (pool :: rest).Nodup) (spawned : Spawned pool (draws pool.poolId) before chosen next)
    (stays : StaysInside pools.pools (pool :: rest) before.spawns
      (updatePools draws rest next)) :
    StaysInside pools.pools rest next.spawns (updatePools draws rest next) := by
  rw [List.cons_subset] at arePools
  rw [List.nodup_cons] at once
  have alone := updatePools_leavesAlone draws arePools.2 spawned.unique
  refine ⟨stays.inside, ?_, fun other isOther notRest =>
    ⟨alone.active other isOther notRest, alone.counter other isOther notRest⟩⟩
  intro other isRest
  have ids : other.poolId ≠ pool.poolId := fun same =>
    once.1 (pools.eq_of_poolId (arePools.2 isRest) arePools.1 same ▸ isRest)
  have disjoint := pools.disjoint_of_ne (arePools.2 isRest) arePools.1 ids
  exact (stays.changed other (List.mem_cons_of_mem _ isRest)).congr
    (fun quest isQuest => (spawned.active_iff (disjoint isQuest)).symm) (fun _ _ => Iff.rfl) rfl

/-- Without a limit, inactive quests are all activated. -/
theorem limitless_of_staysInside {pool : QuestPool} {rest : List QuestPool}
    {draws : Nat → Draws} {state : QuestState} (arePools : pool :: rest ⊆ pools.pools)
    (once : (pool :: rest).Nodup) (each : EachInItsPool pools.pools state.spawns)
    (stays : StaysInside pools.pools (pool :: rest) state.spawns
      (updatePools draws (pool :: rest) state)) (limitless : pool.maxLimit = 0) :
    state.spawns.getActiveObjectCount pool.poolId = pool.quests.length := by
  rw [List.cons_subset] at arePools
  rw [List.nodup_cons] at once
  obtain ⟨chosen, spawned⟩ := spawnObject_spawned pool (draws pool.poolId) each.unique
  have alone := updatePools_leavesAlone draws arePools.2 spawned.unique
  have counter := (stays.changed pool List.mem_cons_self).counter
  have kept : (updatePools draws (pool :: rest) state).spawns.getActiveObjectCount pool.poolId =
      _ := alone.counter pool arePools.1 once.1
  have zero : pool.maxLimit.toNat = 0 := by
    rw [limitless]
    rfl
  have inactive := pool.inactive_length state.spawns
  obtain ⟨_, count⟩ := spawned.fresh (.inl (by omega))
  rw [if_pos zero] at count
  rw [kept, spawned.counter, each.counter pool arePools.1] at counter
  rw [each.counter pool arePools.1]
  unfold QuestPool.share at counter
  omega

/-- A pool with too few inactive quests may take active quests of another one. -/
theorem fills_of_staysInside {pool : QuestPool} {rest : List QuestPool} {state : QuestState}
    (arePools : pool :: rest ⊆ pools.pools)
    (each : EachInItsPool pools.pools state.spawns)
    (stays : ∀ draws, StaysInside pools.pools (pool :: rest) state.spawns
      (updatePools draws (pool :: rest) state)) :
    pool.maxLimit.toNat ≤
        pool.quests.length - state.spawns.getActiveObjectCount pool.poolId ∨
      ∀ other ∈ pools.pools, other.poolId ≠ pool.poolId →
        state.spawns.getActiveObjectCount other.poolId = 0 := by
  rw [List.cons_subset] at arePools
  by_contra wrong
  rw [not_or] at wrong
  obtain ⟨few, others⟩ := wrong
  push Not at others
  obtain ⟨other, isOther, ids, busy⟩ := others
  rw [each.counter other isOther] at busy
  rw [each.counter pool arePools.1] at few
  obtain ⟨quest, isQuest, isActive⟩ := List.countP_pos_iff.mp (Nat.pos_of_ne_zero busy)
  have isActive : quest ∈ state.spawns.activeQuests := of_decide_eq_true isActive
  obtain ⟨draw, drawn⟩ := exists_selectRandom isActive
  obtain ⟨chosen, spawned⟩ := spawnObject_spawned pool ⟨fun _ => draw, fun _ => 0⟩ each.unique
  have inactive := pool.inactive_length state.spawns
  obtain ⟨_, _, first⟩ := spawned.recycled (by omega) (List.ne_nil_of_mem isActive)
  rw [drawn] at first
  have alone := updatePools_leavesAlone (fun _ => ⟨fun _ => draw, fun _ => 0⟩) arePools.2
    spawned.unique
  have activated : ⟨quest, pool.poolId⟩ ∈
      (updatePools (fun _ => ⟨fun _ => draw, fun _ => 0⟩) (pool :: rest) state).activations := by
    apply alone.activations
    rw [spawned.activations]
    exact List.mem_append_right _ (List.mem_map_of_mem first)
  obtain ⟨owner, isOwner, same, isMember⟩ := (stays _).inside _ activated
  obtain rfl := pools.eq_of_poolId isOwner arePools.1 same
  exact pools.disjoint_of_ne isOther isOwner ids isQuest isMember

theorem updatePools_staysInside_iff {turn : List QuestPool} (arePools : turn ⊆ pools.pools)
    (once : turn.Nodup) {state : QuestState} (each : EachInItsPool pools.pools state.spawns)
    (inside : Inside pools.pools state.activations) :
    (∀ draws, StaysInside pools.pools turn state.spawns (updatePools draws turn state)) ↔
      FillsFrom pools.pools state.spawns.getActiveObjectCount turn := by
  induction turn generalizing state with
  | nil =>
      refine iff_of_true (fun draws => ⟨inside, nofun, fun _ _ _ => ⟨fun _ _ => Iff.rfl, rfl⟩⟩)
        trivial
  | cons pool rest induction =>
      obtain ⟨isPool, areRest⟩ := List.cons_subset.mp arePools
      have onceRest := (List.nodup_cons.mp once).2
      constructor
      · intro stays
        have limitless := limitless_of_staysInside arePools once each (stays fun _ => ⟨id, id⟩)
        have fills := fills_of_staysInside arePools each stays
        refine ⟨limitless, fills, ?_⟩
        obtain ⟨chosen, spawned⟩ := spawnObject_spawned pool ⟨id, id⟩ each.unique
        obtain ⟨within, share⟩ := spawned.hasItsShare each isPool limitless fills
        rw [← spawned.counters share]
        apply (induction areRest onceRest (spawned.each each isPool within share)
          (spawned.inside isPool within inside)).mp
        intro draws
        -- The first pool draws as before, the others as they like.
        have same : ∀ other ∈ rest,
            Function.update draws pool.poolId ⟨id, id⟩ other.poolId = draws other.poolId := by
          intro other isRest
          apply Function.update_of_ne
          intro ids
          have isOther := pools.eq_of_poolId (areRest isRest) isPool ids
          exact (List.nodup_cons.mp once).1 (isOther ▸ isRest)
        have drawn : Function.update draws pool.poolId ⟨id, id⟩ pool.poolId = ⟨id, id⟩ :=
          Function.update_self _ _ _
        have both := stays (Function.update draws pool.poolId ⟨id, id⟩)
        have first : updatePools (Function.update draws pool.poolId ⟨id, id⟩) (pool :: rest)
            state = updatePools (Function.update draws pool.poolId ⟨id, id⟩) rest
              (pool.spawnObject ⟨id, id⟩ state) := by
          show updatePools _ rest (pool.spawnObject _ state) = _
          rw [drawn]
        rw [first] at both
        have drawnFirst : Spawned pool (Function.update draws pool.poolId ⟨id, id⟩ pool.poolId)
            state chosen (pool.spawnObject ⟨id, id⟩ state) := by
          rw [drawn]
          exact spawned
        have later := StaysInside.rest arePools once drawnFirst both
        rw [updatePools_congr same] at later
        exact later
      · rintro ⟨limitless, fills, restFills⟩ draws
        obtain ⟨chosen, spawned⟩ := spawnObject_spawned pool (draws pool.poolId) each.unique
        obtain ⟨within, share⟩ := spawned.hasItsShare each isPool limitless fills
        rw [← spawned.counters share] at restFills
        have later := (induction areRest onceRest (spawned.each each isPool within share)
          (spawned.inside isPool within inside)).mpr restFills draws
        exact StaysInside.cons arePools once spawned share later

end Turns

/-- Quest pools stay inside their pools, whatever is drawn, if and only if each pool fills itself
when its turn comes. -/
theorem changeQuests_staysInside_iff (pools : QuestPools)
    (templates : Nat → Option QuestTemplate) (change : QuestChange) (spawns : ActivePoolData)
    (each : EachInItsPool pools.pools spawns) :
    (∀ draws, StaysInside pools.pools (pools.changed templates change) spawns
        (changeQuests pools templates change draws spawns)) ↔
      FillsFrom pools.pools spawns.getActiveObjectCount (pools.changed templates change) := by
  have once : (pools.changed templates change).Nodup :=
    (List.Nodup.of_map _ (pools.ordered.imp Nat.ne_of_lt)).filter _
  have start : Inside pools.pools [] := fun _ member => absurd member List.not_mem_nil
  exact @updatePools_staysInside_iff pools _ (List.filter_subset_self _) once ⟨spawns, []⟩ each
    start

/-- Two daily quest pools with one active quest each.  The first should have both of its quests,
but only one of them is inactive. -/
def twoDailyPools : QuestPools where
  pools :=
    [⟨1, 2, [11, 12], by decide, by decide⟩, ⟨2, 1, [21, 22], by decide, by decide⟩]
  ordered := by decide
  disjoint := by simp

def oneActiveEach : ActivePoolData where
  spawnedCreatures := []
  spawnedGameobjects := []
  activeQuests := [11, 21]
  spawnedPools poolId := if poolId = 1 ∨ poolId = 2 then some 1 else none

theorem oneActiveEach_eachInItsPool : EachInItsPool twoDailyPools.pools oneActiveEach := by
  refine ⟨by decide, ?_, ?_⟩
  · intro quest isActive
    rcases List.mem_cons.mp isActive with rfl | isActive
    · exact ⟨_, List.mem_cons_self, by decide⟩
    · rw [List.mem_singleton.mp isActive]
      exact ⟨_, List.mem_cons_of_mem _ List.mem_cons_self, by decide⟩
  · intro pool isPool
    rcases List.mem_cons.mp isPool with rfl | isPool
    · rfl
    · rw [List.mem_singleton.mp isPool]
      rfl

theorem changeQuests_staysInside_iff_twoDailyPools :
    (∀ draws, StaysInside twoDailyPools.pools
        (twoDailyPools.changed (fun _ => some ⟨true, false⟩) .daily) oneActiveEach
        (changeQuests twoDailyPools (fun _ => some ⟨true, false⟩) .daily draws oneActiveEach)) ↔
      FillsFrom twoDailyPools.pools oneActiveEach.getActiveObjectCount
        (twoDailyPools.changed (fun _ => some ⟨true, false⟩) .daily) :=
  changeQuests_staysInside_iff twoDailyPools _ .daily oneActiveEach oneActiveEach_eachInItsPool

/-- The first pool recycles the active quest of the second one. -/
theorem twoDailyPools_recycle : EachInItsPool twoDailyPools.pools oneActiveEach ∧
    ¬∀ draws, StaysInside twoDailyPools.pools
        (twoDailyPools.changed (fun _ => some ⟨true, false⟩) .daily) oneActiveEach
        (changeQuests twoDailyPools (fun _ => some ⟨true, false⟩) .daily draws
          oneActiveEach) := by
  refine ⟨oneActiveEach_eachInItsPool, fun stays => ?_⟩
  obtain ⟨pool, isPool, isFirst, member⟩ := (stays fun _ => ⟨fun _ => 1, fun _ => 0⟩).inside
    ⟨21, 1⟩ (by decide)
  rcases List.mem_cons.mp isPool with rfl | isPool
  · exact absurd member (by decide)
  · rw [List.mem_singleton.mp isPool] at isFirst
    exact absurd isFirst (by decide)

end RealmServer.Pools
