import RealmServer.Lib.OrderedSet
import RealmServer.Lib.Transition
import RealmServer.Battlegrounds.Queue

/-!
# Ids of battlegrounds for the client

The client numbers the battlegrounds of one type and bracket.  `BattlegroundMgr`
keeps the numbers in use in an ordered set: `CreateNewBattleground` looks for a
gap in it, `Update` takes the number of a deleted battleground out.  The search
for the gap never moves its iterator from the first id.
-/

namespace RealmServer.Battlegrounds

open Table Transition

/-! ## `BattlegroundTypeId` -/

def battlegroundNA : Nat := 4

def battlegroundBE : Nat := 5

def battlegroundRL : Nat := 8

def battlegroundDS : Nat := 10

def battlegroundRV : Nat := 11

def battlegroundRB : Nat := 32

def isArenaType (bgTypeId : Nat) : Bool :=
  bgTypeId = battlegroundAA || bgTypeId = battlegroundBE || bgTypeId = battlegroundNA ||
    bgTypeId = battlegroundDS || bgTypeId = battlegroundRV || bgTypeId = battlegroundRL

/-- A battleground of `m_Battlegrounds` which is not a template. -/
structure RunningBattleground where
  instanceId : Nat
  typeId : Nat
  bracketId : BracketId
  clientInstanceId : UInt32
deriving DecidableEq, Repr

/-- The part of `BattlegroundMgr` with the battlegrounds and their ids for the client. -/
structure BattlegroundMgr where
  battlegrounds : List RunningBattleground
  /-- `m_ClientBattlegroundIds` of each type. -/
  clientBattlegroundIds : Nat × BracketId → List UInt32
  nextInstanceId : Nat

/-- A call of `CreateNewBattleground` for which there is a template. -/
structure NewBattleground where
  originalBgTypeId : Nat
  /-- The original type, or what `GetRandomBG` makes of it. -/
  bgTypeId : Nat
  bracketId : BracketId
  notRandom : originalBgTypeId ≠ battlegroundRB → originalBgTypeId ≠ battlegroundAA →
    bgTypeId = originalBgTypeId
  randomArena : originalBgTypeId = battlegroundAA → isArenaType bgTypeId = true

/-- The type in whose set a new battleground gets its id. -/
def NewBattleground.idType (new : NewBattleground) : Nat :=
  if new.originalBgTypeId = battlegroundRB then battlegroundRB else new.bgTypeId

namespace BattlegroundMgr

/-- The loop of `CreateClientVisibleInstanceId`; nothing moves its iterator. -/
def searchGap (clientIds : List UInt32) (lastId : UInt32) : UInt32 :=
  match clientIds with
  | [] => lastId
  | first :: rest =>
      if next : lastId + 1 = first then searchGap (first :: rest) first else lastId + 1
termination_by if clientIds.head? = some lastId then 0 else 1
decreasing_by
  have moved : first ≠ lastId := by
    intro same
    rw [same] at next
    simp at next
  simp [moved]

def freeClientId (clientIds : List UInt32) : UInt32 := searchGap clientIds 0 + 1

def createClientVisibleInstanceId (mgr : BattlegroundMgr) (bgTypeId : Nat)
    (bracketId : BracketId) : UInt32 × BattlegroundMgr :=
  if isArenaType bgTypeId then (0, mgr)
  else
    let clientIds := mgr.clientBattlegroundIds (bgTypeId, bracketId)
    let lastId := freeClientId clientIds
    (lastId,
      { mgr with
        clientBattlegroundIds :=
          Function.update mgr.clientBattlegroundIds (bgTypeId, bracketId)
            (OrderedSet.insert (· < ·) lastId clientIds) })

/-- `CreateNewBattleground`, and `AddBattleground` when it is started. -/
def createNewBattleground (mgr : BattlegroundMgr) (new : NewBattleground) :
    BattlegroundMgr :=
  let created := mgr.createClientVisibleInstanceId new.idType new.bracketId
  { created.2 with
    battlegrounds := created.2.battlegrounds ++
      [{ instanceId := mgr.nextInstanceId, typeId := new.originalBgTypeId,
         bracketId := new.bracketId, clientInstanceId := created.1 }]
    nextInstanceId := mgr.nextInstanceId + 1 }

/-- A battleground which is to be deleted, in the loop of `Update`. -/
def deleteBattleground (mgr : BattlegroundMgr) (bg : RunningBattleground) :
    BattlegroundMgr :=
  let clients := mgr.clientBattlegroundIds (bg.typeId, bg.bracketId)
  { mgr with
    battlegrounds := erase RunningBattleground.instanceId mgr.battlegrounds bg.instanceId
    clientBattlegroundIds :=
      Function.update mgr.clientBattlegroundIds (bg.typeId, bg.bracketId)
        (clients.filter (· ≠ bg.clientInstanceId)) }

/-- The loop of `Update` over the battlegrounds. -/
def updateBattlegrounds (mgr : BattlegroundMgr) (toBeDeleted : Nat → Bool) :
    BattlegroundMgr :=
  mgr.battlegrounds.foldl
    (fun mgr bg => if toBeDeleted bg.instanceId then mgr.deleteBattleground bg else mgr) mgr

def start : BattlegroundMgr where
  battlegrounds := []
  clientBattlegroundIds := fun _ => []
  nextInstanceId := 1

end BattlegroundMgr

inductive BattlegroundMgrEvent where
  | create (new : NewBattleground)
  | update (toBeDeleted : Nat → Bool)

namespace BattlegroundMgr

def step (mgr : BattlegroundMgr) : BattlegroundMgrEvent → BattlegroundMgr
  | .create new => mgr.createNewBattleground new
  | .update toBeDeleted => mgr.updateBattlegrounds toBeDeleted

/-! ## What the ids are for -/

/-- The smallest positive number which is not among the ids. -/
def IsSmallestFree (clientIds : List UInt32) (id : UInt32) : Prop :=
  IsLeast {number : Nat | 0 < number ∧ ∀ used ∈ clientIds, used.toNat ≠ number} id.toNat

/-- A call gives the smallest free id and adds exactly it; arenas have no ids. -/
def GivesSmallestFree (mgr : BattlegroundMgr) (bgTypeId : Nat) (bracketId : BracketId) :
    Prop :=
  let clientIds := mgr.clientBattlegroundIds (bgTypeId, bracketId)
  let created := mgr.createClientVisibleInstanceId bgTypeId bracketId
  isArenaType bgTypeId = false →
    IsSmallestFree clientIds created.1 ∧
      ∀ other, other ∈ created.2.clientBattlegroundIds (bgTypeId, bracketId) ↔
        other = created.1 ∨ other ∈ clientIds

/-- No two battlegrounds of a type and bracket have one id. -/
def UniqueClientIds (mgr : BattlegroundMgr) : Prop :=
  ∀ first ∈ mgr.battlegrounds, ∀ second ∈ mgr.battlegrounds,
    isArenaType first.typeId = false → first.typeId = second.typeId →
      first.bracketId = second.bracketId →
        first.clientInstanceId = second.clientInstanceId → first = second

/-- The id which a step gives. -/
def StepGivesSmallestFree (mgr : BattlegroundMgr) : BattlegroundMgrEvent → Prop
  | .create new => mgr.GivesSmallestFree new.idType new.bracketId
  | .update _ => True

/-- Every call of the run gives the smallest free id, and no two live ones share theirs. -/
def ClientIdsExact (mgr : BattlegroundMgr) (events : List BattlegroundMgrEvent) : Prop :=
  EveryStep step StepGivesSmallestFree mgr events ∧
    Throughout step UniqueClientIds mgr events

/-- A battleground is created while its type and bracket have no id in use. -/
def CreatesAlone (mgr : BattlegroundMgr) : BattlegroundMgrEvent → Prop
  | .create new =>
      isArenaType new.idType = false →
        mgr.clientBattlegroundIds (new.idType, new.bracketId) = []
  | .update _ => True

/-! ## One call -/

theorem freeClientId_nil : freeClientId [] = 1 := by
  rw [freeClientId, searchGap]
  rfl

/-- The search compares with the first id only. -/
theorem freeClientId_cons (first : UInt32) (rest : List UInt32) :
    freeClientId (first :: rest) = if first = 1 then 3 else 2 := by
  rw [freeClientId, searchGap]
  by_cases isOne : first = 1
  · subst isOne
    rw [dif_pos (by decide), searchGap, dif_neg (by decide), if_pos rfl]
    decide
  · have notFound : ¬(0 : UInt32) + 1 = first := fun found => isOne found.symm
    rw [dif_neg notFound, if_neg isOne]
    decide

theorem isSmallestFree_iff {clientIds : List UInt32} {id : UInt32} :
    IsSmallestFree clientIds id ↔
      0 < id.toNat ∧ id ∉ clientIds ∧
        ∀ number, 0 < number → number < id.toNat →
          ∃ used ∈ clientIds, used.toNat = number := by
  unfold IsSmallestFree IsLeast lowerBounds
  simp only [Set.mem_ofPred_eq, and_assoc]
  have free : (∀ used ∈ clientIds, used.toNat ≠ id.toNat) ↔ id ∉ clientIds := by
    constructor
    · intro differs member
      exact differs id member rfl
    · intro notMember used member same
      exact notMember (UInt32.toNat_inj.mp same ▸ member)
  rw [free]
  refine and_congr_right fun _ => and_congr_right fun _ => ?_
  constructor
  · intro least number positive smaller
    by_contra unused
    push Not at unused
    exact absurd (least ⟨positive, unused⟩) (Nat.not_le.mpr smaller)
  · rintro filled number ⟨positive, unused⟩
    by_contra smaller
    obtain ⟨used, member, same⟩ := filled number positive (Nat.not_le.mp smaller)
    exact unused used member same

theorem freeClientId_smallest_iff {clientIds : List UInt32}
    (sorted : clientIds.Pairwise (· < ·)) (positive : 0 ∉ clientIds) :
    IsSmallestFree clientIds (freeClientId clientIds) ↔
      clientIds = [] ∨ 1 ∈ clientIds ∧ 2 ∈ clientIds ∧ 3 ∉ clientIds := by
  cases clientIds with
  | nil =>
      rw [isSmallestFree_iff, freeClientId_nil]
      refine ⟨fun _ => .inl rfl, fun _ => ⟨by decide, List.not_mem_nil, ?_⟩⟩
      intro number isPositive smaller
      have bound : (1 : UInt32).toNat = 1 := rfl
      omega
  | cons first rest =>
      rw [isSmallestFree_iff, freeClientId_cons]
      by_cases isOne : first = 1
      · subst isOne
        rw [if_pos rfl]
        have three : (3 : UInt32).toNat = 3 := rfl
        constructor
        · rintro ⟨_, free, filled⟩
          obtain ⟨used, member, same⟩ := filled 2 (by decide) (by decide)
          have isTwo : used = 2 := UInt32.toNat_inj.mp same
          exact .inr ⟨List.mem_cons_self, isTwo ▸ member, free⟩
        · rintro (nothing | ⟨_, two, free⟩)
          · cases nothing
          · refine ⟨by decide, free, ?_⟩
            intro number isPositive smaller
            have cases : number = 1 ∨ number = 2 := by omega
            rcases cases with rfl | rfl
            · exact ⟨1, List.mem_cons_self, rfl⟩
            · exact ⟨2, two, rfl⟩
      · rw [if_neg isOne]
        have oneFree : (1 : UInt32) ∉ first :: rest := by
          intro member
          rcases List.mem_cons.mp member with same | later
          · exact isOne same.symm
          · have below := (List.pairwise_cons.mp sorted).1 1 later
            have isZero : first = 0 := by
              apply UInt32.toNat_inj.mp
              rw [UInt32.lt_iff_toNat_lt] at below
              exact Nat.lt_one_iff.mp below
            exact positive (isZero ▸ List.mem_cons_self)
        constructor
        · rintro ⟨_, _, filled⟩
          obtain ⟨used, member, same⟩ := filled 1 (by decide) (by decide)
          have isOne : used = 1 := UInt32.toNat_inj.mp same
          exact absurd (isOne ▸ member) oneFree
        · rintro (nothing | ⟨one, _⟩)
          · cases nothing
          · exact absurd one oneFree

/-! ## Runs -/

/-- The ids in use are those of the live battlegrounds, at most one of each bracket. -/
structure Alone (mgr : BattlegroundMgr) : Prop where
  instances : (mgr.battlegrounds.map RunningBattleground.instanceId).Nodup
  below : ∀ bg ∈ mgr.battlegrounds, bg.instanceId < mgr.nextInstanceId
  ids : ∀ bgTypeId bracketId, isArenaType bgTypeId = false →
    mgr.clientBattlegroundIds (bgTypeId, bracketId) = [] ∨
      mgr.clientBattlegroundIds (bgTypeId, bracketId) = [1]
  used : ∀ bg ∈ mgr.battlegrounds, isArenaType bg.typeId = false →
    bg.clientInstanceId = 1 ∧ mgr.clientBattlegroundIds (bg.typeId, bg.bracketId) = [1]
  unique : UniqueClientIds mgr

theorem alone_start : Alone start where
  instances := List.nodup_nil
  below := fun _ member => absurd member List.not_mem_nil
  ids := fun _ _ _ => .inl rfl
  used := fun _ member => absurd member List.not_mem_nil
  unique := fun _ member => absurd member List.not_mem_nil

/-- Outside arenas the id is of the type the battleground is kept under. -/
theorem idType_eq (new : NewBattleground) :
    new.idType = new.originalBgTypeId ∨
      isArenaType new.idType = true ∧ isArenaType new.originalBgTypeId = true := by
  unfold NewBattleground.idType
  by_cases random : new.originalBgTypeId = battlegroundRB
  · rw [if_pos random, random]
    exact .inl rfl
  · rw [if_neg random]
    by_cases arena : new.originalBgTypeId = battlegroundAA
    · refine .inr ⟨new.randomArena arena, ?_⟩
      rw [arena]
      rfl
    · exact .inl (new.notRandom random arena)

variable {mgr : BattlegroundMgr}

theorem createClientVisibleInstanceId_arena {bgTypeId : Nat} (bracketId : BracketId)
    (arena : isArenaType bgTypeId = true) :
    mgr.createClientVisibleInstanceId bgTypeId bracketId = (0, mgr) :=
  if_pos arena

theorem createClientVisibleInstanceId_battleground {bgTypeId : Nat} (bracketId : BracketId)
    (battleground : isArenaType bgTypeId = false) {clientIds : List UInt32}
    (inUse : mgr.clientBattlegroundIds (bgTypeId, bracketId) = clientIds) :
    mgr.createClientVisibleInstanceId bgTypeId bracketId =
      (freeClientId clientIds,
        { mgr with
          clientBattlegroundIds :=
            Function.update mgr.clientBattlegroundIds (bgTypeId, bracketId)
              (OrderedSet.insert (· < ·) (freeClientId clientIds) clientIds) }) := by
  subst inUse
  exact if_neg (Bool.not_eq_true _ ▸ battleground)

theorem Alone.nodup_new (alone : Alone mgr) {new : RunningBattleground}
    (fresh : new.instanceId = mgr.nextInstanceId) :
    ((mgr.battlegrounds ++ [new]).map RunningBattleground.instanceId).Nodup := by
  rw [List.map_append, List.nodup_append]
  refine ⟨alone.instances, List.nodup_singleton _, ?_⟩
  rintro id old _ isNew rfl
  obtain ⟨bg, member, same⟩ := List.mem_map.mp old
  have isId : id = new.instanceId := by simpa using isNew
  have below := alone.below bg member
  omega

theorem below_new {new : RunningBattleground} (fresh : new.instanceId = mgr.nextInstanceId)
    (below : ∀ bg ∈ mgr.battlegrounds, bg.instanceId < mgr.nextInstanceId) :
    ∀ bg ∈ mgr.battlegrounds ++ [new], bg.instanceId < mgr.nextInstanceId + 1 := by
  intro bg member
  rcases List.mem_append.mp member with old | isNew
  · exact Nat.lt_succ_of_lt (below bg old)
  · rw [List.mem_singleton.mp isNew, fresh]
    exact Nat.lt_succ_self _

/-- An arena has no id, and changes nothing for the others. -/
theorem Alone.createArena (alone : Alone mgr) {new : NewBattleground}
    (arena : isArenaType new.idType = true)
    (kept : isArenaType new.originalBgTypeId = true) :
    Alone (mgr.createNewBattleground new) := by
  unfold createNewBattleground
  rw [createClientVisibleInstanceId_arena _ arena]
  constructor
  · exact alone.nodup_new rfl
  · exact below_new rfl alone.below
  · exact alone.ids
  · intro bg member battleground
    rcases List.mem_append.mp member with old | isNew
    · exact alone.used bg old battleground
    · rw [List.mem_singleton.mp isNew, kept] at battleground
      cases battleground
  · intro first isFirst second isSecond battleground sameType sameBracket sameId
    rcases List.mem_append.mp isFirst with oldFirst | newFirst
    · rcases List.mem_append.mp isSecond with oldSecond | newSecond
      · exact alone.unique first oldFirst second oldSecond battleground sameType sameBracket
          sameId
      · rw [sameType, List.mem_singleton.mp newSecond, kept] at battleground
        cases battleground
    · rw [List.mem_singleton.mp newFirst, kept] at battleground
      cases battleground

/-- Without an id in use, no battleground of the bracket is live. -/
theorem Alone.createFirst (alone : Alone mgr) {new : NewBattleground}
    (sameType : new.idType = new.originalBgTypeId)
    (battleground : isArenaType new.idType = false)
    (empty : mgr.clientBattlegroundIds (new.idType, new.bracketId) = []) :
    Alone (mgr.createNewBattleground new) := by
  have nobody : ∀ bg ∈ mgr.battlegrounds, isArenaType bg.typeId = false →
      (bg.typeId, bg.bracketId) ≠ (new.idType, new.bracketId) := by
    intro bg member isBattleground same
    have inUse := (alone.used bg member isBattleground).2
    rw [same, empty] at inUse
    cases inUse
  unfold createNewBattleground
  rw [createClientVisibleInstanceId_battleground _ battleground empty, freeClientId_nil]
  constructor
  · exact alone.nodup_new rfl
  · exact below_new rfl alone.below
  · intro bgTypeId bracketId isBattleground
    by_cases same : (bgTypeId, bracketId) = (new.idType, new.bracketId)
    · rw [same]
      exact .inr (Function.update_self ..)
    · dsimp only
      rw [Function.update_of_ne same]
      exact alone.ids bgTypeId bracketId isBattleground
  · intro bg member isBattleground
    rcases List.mem_append.mp member with old | isNew
    · dsimp only
      rw [Function.update_of_ne (nobody bg old isBattleground)]
      exact alone.used bg old isBattleground
    · rw [List.mem_singleton.mp isNew]
      dsimp only
      rw [← sameType]
      exact ⟨rfl, Function.update_self ..⟩
  · intro first isFirst second isSecond isBattleground types brackets ids
    rcases List.mem_append.mp isFirst with oldFirst | newFirst
    · rcases List.mem_append.mp isSecond with oldSecond | newSecond
      · exact alone.unique first oldFirst second oldSecond isBattleground types brackets ids
      · have alike : (first.typeId, first.bracketId) = (new.idType, new.bracketId) := by
          rw [types, brackets, List.mem_singleton.mp newSecond, sameType]
        exact absurd alike (nobody first oldFirst isBattleground)
    · rcases List.mem_append.mp isSecond with oldSecond | newSecond
      · have alike : (second.typeId, second.bracketId) = (new.idType, new.bracketId) := by
          rw [← types, ← brackets, List.mem_singleton.mp newFirst, sameType]
        exact absurd alike (nobody second oldSecond (types ▸ isBattleground))
      · rw [List.mem_singleton.mp newFirst, List.mem_singleton.mp newSecond]

theorem Alone.deleteBattleground (alone : Alone mgr) {bg : RunningBattleground}
    (member : bg ∈ mgr.battlegrounds) : Alone (mgr.deleteBattleground bg) := by
  have stays : ∀ other ∈ (mgr.deleteBattleground bg).battlegrounds,
      other ∈ mgr.battlegrounds ∧ other ≠ bg := by
    intro other isOther
    obtain ⟨old, differs⟩ := mem_erase.mp isOther
    refine ⟨old, ?_⟩
    rintro rfl
    exact differs rfl
  constructor
  · exact erase_keys alone.instances _
  · intro other isOther
    exact alone.below other (stays other isOther).1
  · intro bgTypeId bracketId isBattleground
    have before := alone.ids bgTypeId bracketId isBattleground
    unfold BattlegroundMgr.deleteBattleground
    by_cases same : (bgTypeId, bracketId) = (bg.typeId, bg.bracketId)
    · left
      obtain ⟨rfl, rfl⟩ := Prod.mk.inj same
      obtain ⟨isOne, ids⟩ := alone.used bg member isBattleground
      dsimp only
      rw [Function.update_self, ids, isOne]
      rfl
    · dsimp only
      rw [Function.update_of_ne same]
      exact before
  · intro other isOther isBattleground
    obtain ⟨old, differs⟩ := stays other isOther
    have before := alone.used other old isBattleground
    have elsewhere : (other.typeId, other.bracketId) ≠ (bg.typeId, bg.bracketId) := by
      intro same
      obtain ⟨types, brackets⟩ := Prod.mk.inj same
      have ofDeleted := alone.used bg member (types ▸ isBattleground)
      exact differs (alone.unique other old bg member isBattleground types brackets
        (before.1.trans ofDeleted.1.symm))
    unfold BattlegroundMgr.deleteBattleground
    dsimp only
    rw [Function.update_of_ne elsewhere]
    exact before
  · intro first isFirst second isSecond
    exact alone.unique first (stays first isFirst).1 second (stays second isSecond).1

theorem Alone.updateBattlegrounds (alone : Alone mgr) (toBeDeleted : Nat → Bool) :
    Alone (mgr.updateBattlegrounds toBeDeleted) := by
  unfold BattlegroundMgr.updateBattlegrounds
  -- what the loop still has to visit is in the store
  suffices visits : ∀ (rest : List RunningBattleground) (now : BattlegroundMgr), Alone now →
      (rest.map RunningBattleground.instanceId).Nodup → (∀ bg ∈ rest, bg ∈ now.battlegrounds) →
        Alone (rest.foldl (fun mgr bg =>
          if toBeDeleted bg.instanceId then mgr.deleteBattleground bg else mgr) now) from
    visits mgr.battlegrounds mgr alone alone.instances fun _ member => member
  intro rest
  induction rest with
  | nil =>
      intro now isAlone _ _
      exact isAlone
  | cons bg rest induction =>
      intro now isAlone different present
      rw [List.map_cons, List.nodup_cons] at different
      have later : ∀ other ∈ rest, other ∈ now.battlegrounds :=
        fun other member => present other (List.mem_cons_of_mem _ member)
      rw [List.foldl_cons]
      split_ifs
      · refine induction _ (isAlone.deleteBattleground (present bg List.mem_cons_self))
          different.2 ?_
        intro other member
        refine mem_erase.mpr ⟨later other member, ?_⟩
        intro same
        exact different.1 (same ▸ List.mem_map_of_mem member)
      · exact induction now isAlone different.2 later

theorem Alone.step (alone : Alone mgr) {event : BattlegroundMgrEvent}
    (creates : CreatesAlone mgr event) : Alone (mgr.step event) := by
  cases event with
  | create new =>
      by_cases arena : isArenaType new.idType = true
      · rcases idType_eq new with same | ⟨_, kept⟩
        · exact alone.createArena arena (same ▸ arena)
        · exact alone.createArena arena kept
      · have battleground := Bool.eq_false_of_not_eq_true arena
        rcases idType_eq new with same | ⟨isArena, _⟩
        · exact alone.createFirst same battleground (creates battleground)
        · exact absurd isArena arena
  | update toBeDeleted => exact alone.updateBattlegrounds toBeDeleted

/-- With one id in use, the next one is not the smallest that is free. -/
theorem Alone.givesSmallestFree_iff (alone : Alone mgr) (event : BattlegroundMgrEvent) :
    StepGivesSmallestFree mgr event ↔ CreatesAlone mgr event := by
  cases event with
  | update toBeDeleted => exact Iff.rfl
  | create new =>
      refine forall_congr' fun battleground => ?_
      rw [createClientVisibleInstanceId_battleground _ battleground rfl]
      dsimp only
      rw [Function.update_self]
      rcases alone.ids new.idType new.bracketId battleground with empty | one
      · rw [empty]
        refine ⟨fun _ => rfl, fun _ => ⟨?_, ?_⟩⟩
        · exact (freeClientId_smallest_iff List.Pairwise.nil List.not_mem_nil).mpr (.inl rfl)
        · intro other
          exact List.mem_singleton.trans (or_iff_left List.not_mem_nil).symm
      · rw [one]
        have exactly := freeClientId_smallest_iff (List.pairwise_singleton (· < ·) (1 : UInt32))
          (by decide)
        constructor
        · rintro ⟨smallest, _⟩
          rcases exactly.mp smallest with nothing | ⟨_, two, _⟩
          · cases nothing
          · exact absurd two (by decide)
        · intro empty
          cases empty

/-- Ids are as low as possible, and live ones differ, exactly if each battleground is created
while its type and bracket have none in use. -/
theorem clientIds_exact_iff (events : List BattlegroundMgrEvent) :
    ClientIdsExact start events ↔ EveryStep step CreatesAlone start events := by
  have preserved : ∀ (mgr : BattlegroundMgr) event, Alone mgr → CreatesAlone mgr event →
      Alone (mgr.step event) := fun _ _ alone creates => alone.step creates
  have agree : EveryStep step StepGivesSmallestFree start events ↔
      EveryStep step CreatesAlone start events :=
    everyStep_congr_of_admissible preserved
      (fun mgr event alone => alone.givesSmallestFree_iff event) alone_start
  constructor
  · rintro ⟨smallest, _⟩
    exact agree.mp smallest
  · intro creates
    have alone := throughout_of_invariant preserved alone_start creates
    exact ⟨agree.mpr creates, alone.mono fun _ isAlone => isAlone.unique⟩

/-- Warsong Gulch, in the first bracket. -/
def warsongGulch : NewBattleground where
  originalBgTypeId := 2
  bgTypeId := 2
  bracketId := ⟨0, by decide⟩
  notRandom := fun _ _ => rfl
  randomArena := by decide

theorem createWarsong {clientIds : List UInt32}
    (inUse : mgr.clientBattlegroundIds (2, warsongGulch.bracketId) = clientIds) :
    (mgr.createNewBattleground warsongGulch).battlegrounds =
        mgr.battlegrounds ++
          [{ instanceId := mgr.nextInstanceId, typeId := 2,
             bracketId := warsongGulch.bracketId,
             clientInstanceId := freeClientId clientIds }] ∧
      (mgr.createNewBattleground warsongGulch).clientBattlegroundIds
          (2, warsongGulch.bracketId) =
        OrderedSet.insert (· < ·) (freeClientId clientIds) clientIds ∧
      (mgr.createNewBattleground warsongGulch).nextInstanceId = mgr.nextInstanceId + 1 := by
  have created := createClientVisibleInstanceId_battleground warsongGulch.bracketId
    (show isArenaType 2 = false from rfl) inUse
  have idType : warsongGulch.idType = 2 := rfl
  unfold createNewBattleground
  rw [idType, created]
  refine ⟨rfl, ?_, rfl⟩
  dsimp only
  exact Function.update_self ..

/-- The second battleground gets the id 3, and so does the one after it. -/
theorem threeWarsongs_share :
    ¬ClientIdsExact start [.create warsongGulch, .create warsongGulch, .create warsongGulch] := by
  rintro ⟨_, _, _, _, unique⟩
  have emptyStart : start.clientBattlegroundIds (2, warsongGulch.bracketId) = [] := rfl
  obtain ⟨firstBgs, firstIds, firstNext⟩ := createWarsong emptyStart
  rw [freeClientId_nil] at firstBgs firstIds
  obtain ⟨secondBgs, secondIds, secondNext⟩ := createWarsong firstIds
  have secondId : freeClientId (OrderedSet.insert (· < ·) 1 []) = 3 := freeClientId_cons 1 []
  rw [secondId] at secondBgs secondIds
  obtain ⟨thirdBgs, _, _⟩ := createWarsong secondIds
  have thirdId : freeClientId (OrderedSet.insert (· < ·) 3 (OrderedSet.insert (· < ·) 1 [])) =
      3 := freeClientId_cons 1 [3]
  rw [thirdId, secondBgs, firstBgs, secondNext, firstNext] at thirdBgs
  have third : UniqueClientIds (((start.createNewBattleground warsongGulch).createNewBattleground
      warsongGulch).createNewBattleground warsongGulch) := unique
  unfold UniqueClientIds at third
  rw [thirdBgs] at third
  have shared := third ⟨2, 2, warsongGulch.bracketId, 3⟩ (by decide)
    ⟨3, 2, warsongGulch.bracketId, 3⟩ (by decide) rfl rfl rfl rfl
  exact absurd (congrArg RunningBattleground.instanceId shared) (by decide)

end BattlegroundMgr

end RealmServer.Battlegrounds
