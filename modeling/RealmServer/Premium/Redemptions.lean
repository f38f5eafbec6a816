import RealmServer.Lib.Transition
import RealmServer.Premium.PremiumCodeMgr

/-!
# No code is lost or granted twice

The service moves a code to in progress for one player and reports it once, so
that `HandleCode` runs once for a code, for that player, and only what it granted
is saved and invalidated.  But it may have nothing to grant: the type is none it
knows, the item no longer fits, or the amount is more than a byte.  The code stays
in progress then.
-/

namespace RealmServer.Premium

open Players Players.Inventory Players.Storage Transition

/-! ## What is promised -/

def CodeStatus.holder : CodeStatus → Option Nat
  | valid => none
  | inProgress guid => some guid
  | used guid => some guid

/-- The statement saves the benefit of a code of this type. -/
def Statement.Saves (statement : Statement) (type : CodeType) : Prop :=
  (type.IsItem ∧ statement = .inventoryAndCurrencies) ∨ (type.IsFlag ∧ statement = .atLoginFlag)

/-- The flag is set, or the player has the item in the code's amount besides what he had. -/
def PremiumCode.HasBenefit (premium : PremiumCode) (before after : Player) : Prop :=
  (premium.type.IsFlag ∧ after = before.applyCharModifyCode premium) ∨
    (premium.type.IsItem ∧ after.storage.inventory.holds (piecesOf premium.itemId) =
      before.storage.inventory.holds (piecesOf premium.itemId) + premium.amount)

namespace Handling

def rawCode (handling : Handling) : String := handling.redemption.rawCode

/-- The player was found, and has the benefit. -/
def Granted (handling : Handling) : Prop :=
  handling.returned = some true ∧ ∃ before after, handling.before = some before ∧
    handling.after = some after ∧ handling.redemption.premium.HasBenefit before after

end Handling

namespace World

/-- What holds whatever the inventories are. -/
structure Safe (world : World) : Prop where
  once : (world.handled.map Handling.rawCode).Nodup
  onlyInProgress : ∀ handling ∈ world.handled,
    (world.service handling.rawCode).holder = some handling.redemption.guid
  nothingElse : ∀ handling ∈ world.handled,
    handling.returned ≠ some true → handling.after = handling.before
  afterCommit : ∀ redemption ∈ world.invalidated,
    (∃ handling ∈ world.handled, handling.redemption = redemption ∧
      handling.returned = some true) ∧
    ∃ statement, (redemption, statement) ∈ world.committed ∧
      statement.Saves redemption.premium.type

/-- A code handled for a player who was online is granted, or valid again. -/
def NotLost (world : World) : Prop :=
  ∀ handling ∈ world.handled, handling.before.isSome →
    handling.Granted ∨ world.service handling.rawCode = .valid

end World

/-- The benefit is a flag, or an item in an amount that is a byte and fits now. -/
def Player.Takes (player : Player) (premium : PremiumCode) : Prop :=
  premium.type.IsFlag ∨
    (premium.type.IsItem ∧ premium.amount ≠ 0 ∧ premium.amount < 256 ∧
      (player.storage.canStoreNewItem NULL_BAG NULL_SLOT [] premium.itemId
        premium.amount).result = .ok)

/-- A continuation for a player who is online finds him able to take the benefit. -/
def World.Grantable (world : World) : Event → Prop
  | .continues index => world.stopped = false → ∀ redemption player,
      world.reported[index]? = some (redemption, true) →
        world.online redemption.guid = some player → player.Takes redemption.premium
  | _ => True

/-! ## Granting -/

section Granting

variable {player after : Player} {premium : PremiumCode} {nextItemGuid next : Nat}

theorem planItem_total (isOk : (player.planItem premium).result = .ok) :
    (player.planItem premium).plan.total = premium.getAmount := by
  have small := smallBags_of_templates player.loaded.templates
  have slotIsByte : NULL_SLOT < 256 := by decide
  obtain ⟨_, _, _, total⟩ := @canStoreNewItem_ok _ NULL_BAG _
    ⟨premium.itemId, premium.getAmount⟩ small slotIsByte [] isOk
  rw [Player.planItem, total]
  simp

/-- As many items are created as were planned. -/
theorem holds_storeItem (isOk : (player.planItem premium).result = .ok)
    (positive : premium.getAmount ≠ 0) (nextItemGuid : Nat) :
    (player.storeItem premium nextItemGuid).storage.inventory.holds (piecesOf premium.itemId) =
      player.storage.inventory.holds (piecesOf premium.itemId) + premium.getAmount := by
  have small := smallBags_of_templates player.loaded.templates
  have slotIsByte : NULL_SLOT < 256 := by decide
  obtain ⟨proto, known, similar, _⟩ := @canStoreNewItem_ok _ NULL_BAG _
    ⟨premium.itemId, premium.getAmount⟩ small slotIsByte [] isOk
  have empty : player.storage.IsStorable premium.itemId ⟨[], 0⟩ :=
    ⟨List.nodup_nil, fun _ member => absurd member List.not_mem_nil⟩
  have storable := @isStorable_canStoreNewItem _ proto NULL_BAG _
    ⟨premium.itemId, premium.getAmount⟩ small known similar positive slotIsByte _ empty
  rw [← planItem_total isOk]
  exact holds_storeNewItem player.loaded.sound storable nextItemGuid

theorem not_isItem_of_isFlag {type : CodeType} (isFlag : type.IsFlag) : ¬ type.IsItem := by
  rintro (rfl | rfl) <;> rcases isFlag with isFlag | isFlag | isFlag | isFlag <;> cases isFlag

theorem getAmount_eq_iff : premium.getAmount = premium.amount ↔ premium.amount < 256 := by
  unfold PremiumCode.getAmount
  omega

/-- What `AddItem` ends with. -/
inductive ItemGranting (player : Player) (premium : PremiumCode) (nextItemGuid : Nat) :
    Player.Granting → Prop where
  | applied (isOk : (player.planItem premium).result = .ok) (positive : premium.getAmount ≠ 0)
      (next : Nat) : ItemGranting player premium nextItemGuid
        (.applied (player.storeItem premium nextItemGuid) next)
  | refused (notOk : (player.planItem premium).result ≠ .ok) :
      ItemGranting player premium nextItemGuid .refused
  | asserts (isZero : premium.getAmount = 0) : ItemGranting player premium nextItemGuid .asserts

theorem itemGranting (player : Player) (premium : PremiumCode) (nextItemGuid : Nat) :
    ItemGranting player premium nextItemGuid (player.addItem premium nextItemGuid) := by
  unfold Player.addItem
  split_ifs with isOk isNone
  · rw [planItem_total isOk] at isNone
    exact .asserts (Nat.lt_one_iff.1 isNone)
  · rw [planItem_total isOk] at isNone
    exact .applied isOk (fun isZero => isNone (isZero ▸ Nat.one_pos)) _
  · exact .refused isOk

/-- The benefit is granted exactly if the player can take it. -/
theorem itemGranting_iff {granting : Player.Granting} (isItem : premium.type.IsItem)
    (ends : ItemGranting player premium nextItemGuid granting) :
    (∃ after next, granting = .applied after next ∧ premium.HasBenefit player after) ↔
      player.Takes premium := by
  have notFlag : ¬ premium.type.IsFlag := fun isFlag => not_isItem_of_isFlag isFlag isItem
  constructor
  · rintro ⟨after, next, rfl, benefit⟩
    cases ends with
    | applied isOk positive next =>
        have same : premium.getAmount = premium.amount := by
          cases benefit with
          | inl flag => exact absurd flag.1 notFlag
          | inr item =>
              have holds := item.2
              rw [holds_storeItem isOk positive] at holds
              exact Nat.add_left_cancel holds
        refine Or.inr ⟨isItem, ?_, getAmount_eq_iff.1 same, ?_⟩
        · rw [← same]
          exact positive
        · rw [← same]
          exact isOk
  · rintro (isFlag | ⟨-, positive, isByte, isOk⟩)
    · exact absurd isFlag notFlag
    · rw [← getAmount_eq_iff] at isByte
      rw [← isByte] at positive isOk
      cases ends with
      | applied isOk positive next =>
          refine ⟨_, next, rfl, Or.inr ⟨isItem, ?_⟩⟩
          rw [holds_storeItem isOk positive, isByte]
      | refused notOk => exact absurd isOk notOk
      | asserts isZero => exact absurd isZero positive

theorem grant_iff :
    (∃ after next, player.grant premium nextItemGuid = .applied after next ∧
      premium.HasBenefit player after) ↔ player.Takes premium := by
  by_cases isItem : premium.type.IsItem
  · apply itemGranting_iff isItem
    have adds : player.grant premium nextItemGuid = player.addItem premium nextItemGuid := by
      unfold Player.grant
      cases isItem with
      | inl isPet => rw [isPet]
      | inr isCard => rw [isCard]
    rw [adds]
    exact itemGranting player premium nextItemGuid
  by_cases isFlag : premium.type.IsFlag
  · have applies : player.grant premium nextItemGuid =
        .applied (player.applyCharModifyCode premium) nextItemGuid := by
      unfold Player.grant
      rcases isFlag with isType | isType | isType | isType <;> rw [isType]
    exact iff_of_true ⟨_, _, applies, Or.inl ⟨isFlag, rfl⟩⟩ (Or.inl isFlag)
  · refine iff_of_false ?_ fun takes => ?_
    · rintro ⟨after, next, -, flag | item⟩
      · exact isFlag flag.1
      · exact isItem item.1
    · cases takes with
      | inl flag => exact isFlag flag
      | inr item => exact isItem item.1

end Granting

theorem type_of_applied {player after : Player} {premium : PremiumCode} {nextItemGuid next : Nat}
    (applied : player.grant premium nextItemGuid = .applied after next) :
    premium.type.IsItem ∨ premium.type.IsFlag := by
  unfold Player.grant at applied
  cases isType : premium.type with
  | pet => exact Or.inl (Or.inl rfl)
  | tradingCard => exact Or.inl (Or.inr rfl)
  | charChangeName => exact Or.inr (Or.inl rfl)
  | charCustomize => exact Or.inr (Or.inr (Or.inl rfl))
  | charChangeRace => exact Or.inr (Or.inr (Or.inr (Or.inl rfl)))
  | charChangeFaction => exact Or.inr (Or.inr (Or.inr (Or.inr rfl)))
  | unknown =>
      rw [isType] at applied
      cases applied
  | charMoveOnRealm =>
      rw [isType] at applied
      cases applied
  | guildRename =>
      rw [isType] at applied
      cases applied

theorem saves_of_applied {player after : Player} {redemption : Redemption}
    {nextItemGuid next : Nat}
    (applied : player.grant redemption.premium nextItemGuid = .applied after next) :
    redemption.premium.saves.Saves redemption.premium.type := by
  unfold PremiumCode.saves
  cases type_of_applied applied with
  | inl isItem =>
      rw [if_pos (redemption.named isItem)]
      exact Or.inl ⟨isItem, rfl⟩
  | inr isFlag =>
      have unnamed : ¬ redemption.premium.itemId ≠ 0 := fun named =>
        not_isItem_of_isFlag isFlag (redemption.premium.onlyItems named)
      rw [if_neg unnamed]
      exact Or.inr ⟨isFlag, rfl⟩

/-! ## The service -/

section Service

variable {service : String → CodeStatus} {redemption : Redemption} {code : String} {guid : Nat}

theorem holder_setUsed :
    (World.setUsed service redemption code).holder = (service code).holder := by
  unfold World.setUsed
  split_ifs with inProgress
  · by_cases same : code = redemption.rawCode
    · rw [same, Function.update_self, inProgress]
      rfl
    · rw [Function.update_of_ne same]
  · rfl

/-- A code that somebody holds stays his. -/
theorem holder_setInProgress (held : (service code).holder = some guid) :
    (World.setInProgress service redemption code).holder = some guid := by
  unfold World.setInProgress
  split_ifs with isValid
  · have other : code ≠ redemption.rawCode := by
      intro same
      rw [same, isValid] at held
      cases held
    rw [Function.update_of_ne other]
    exact held
  · exact held

theorem holder_of_valid (isValid : service redemption.rawCode = .valid) :
    (World.setInProgress service redemption redemption.rawCode).holder = some redemption.guid := by
  rw [World.setInProgress, if_pos isValid, Function.update_self]
  rfl

end Service

/-! ## The invariant -/

namespace World

/-- The codes the service has reported as moved, whether handled already or not. -/
def taken (world : World) : List Redemption :=
  (world.reported.filter Prod.snd).map Prod.fst ++ world.handled.map Handling.redemption

/-- The redemption was granted, and the statement saves it. -/
def Backed (world : World) (saving : Redemption × Statement) : Prop :=
  (∃ handling ∈ world.handled, handling.redemption = saving.1 ∧ handling.returned = some true) ∧
    saving.2.Saves saving.1.premium.type

structure Consistent (world : World) : Prop where
  distinct : (world.taken.map Redemption.rawCode).Nodup
  held : ∀ redemption ∈ world.taken,
    (world.service redemption.rawCode).holder = some redemption.guid
  nothingElse : ∀ handling ∈ world.handled,
    handling.returned ≠ some true → handling.after = handling.before
  committing : ∀ saving ∈ world.committing, world.Backed saving
  committed : ∀ saving ∈ world.committed, world.Backed saving
  invalidated : ∀ redemption ∈ world.invalidated,
    ∃ statement, (redemption, statement) ∈ world.committed

variable {world : World}

theorem Consistent.safe (consistent : world.Consistent) : world.Safe where
  once := by
    have all := consistent.distinct
    rw [taken, List.map_append, List.map_map] at all
    have handled := all.of_append_right
    rw [List.map_map] at handled
    exact handled
  onlyInProgress handling member :=
    consistent.held handling.redemption
      (List.mem_append_right _ (List.mem_map_of_mem member))
  nothingElse := consistent.nothingElse
  afterCommit redemption member := by
    obtain ⟨statement, saved⟩ := consistent.invalidated redemption member
    have backed := consistent.committed _ saved
    exact ⟨backed.1, statement, saved, backed.2⟩

/-- A code that was handled is not valid any more. -/
theorem Consistent.notLost_iff (consistent : world.Consistent) :
    world.NotLost ↔ ∀ handling ∈ world.handled, handling.before.isSome → handling.Granted := by
  constructor
  · intro notLost handling member online
    cases notLost handling member online with
    | inl granted => exact granted
    | inr isValid =>
        have held := consistent.safe.onlyInProgress handling member
        rw [isValid] at held
        cases held
  · exact fun granted handling member online => Or.inl (granted handling member online)

theorem consistent_start (service : String → CodeStatus) (online : Nat → Option Player)
    (nextItemGuid : Nat) : (start service online nextItemGuid).Consistent where
  distinct := List.nodup_nil
  held _ member := absurd member List.not_mem_nil
  nothingElse _ member := absurd member List.not_mem_nil
  committing _ member := absurd member List.not_mem_nil
  committed _ member := absurd member List.not_mem_nil
  invalidated _ member := absurd member List.not_mem_nil

/-! ## The steps -/

/-- The service may take more codes, and reports may be about codes that were not taken. -/
theorem Consistent.of_service {next : World} (consistent : world.Consistent)
    (taken : next.taken.Perm world.taken) (handled : next.handled = world.handled)
    (committing : next.committing = world.committing)
    (committed : next.committed = world.committed)
    (invalidated : next.invalidated = world.invalidated)
    (service : ∀ code guid, (world.service code).holder = some guid →
      (next.service code).holder = some guid) : next.Consistent where
  distinct := (taken.map _).nodup_iff.2 consistent.distinct
  held redemption member :=
    service _ _ (consistent.held redemption (taken.mem_iff.1 member))
  nothingElse := handled ▸ consistent.nothingElse
  committing saving member := by
    rw [Backed, handled]
    exact consistent.committing saving (committing ▸ member)
  committed saving member := by
    rw [Backed, handled]
    exact consistent.committed saving (committed ▸ member)
  invalidated := by
    rw [invalidated, committed]
    exact consistent.invalidated

theorem Consistent.redeem (consistent : world.Consistent) (guid : Nat) (premium : PremiumCode) :
    (world.redeem guid premium).Consistent := by
  unfold World.redeem
  split
  · exact consistent
  · dsimp only
    split
    · exact consistent
    · exact consistent.of_service (List.Perm.refl _) rfl rfl rfl rfl fun _ _ => id
    · exact consistent.of_service (List.Perm.refl _) rfl rfl rfl rfl fun _ _ => id

theorem Consistent.factionChecked (consistent : world.Consistent) (index : Nat) (passes : Bool) :
    (world.factionChecked index passes).Consistent := by
  unfold World.factionChecked
  split
  · exact consistent
  · split_ifs
    · exact consistent.of_service (List.Perm.refl _) rfl rfl rfl rfl fun _ _ => id
    · exact consistent.of_service (List.Perm.refl _) rfl rfl rfl rfl fun _ _ => id

theorem Consistent.timesOut (consistent : world.Consistent) (index : Nat) :
    (world.timesOut index).Consistent := by
  unfold World.timesOut
  split
  · exact consistent
  · refine consistent.of_service (List.Perm.of_eq ?_) rfl rfl rfl rfl fun _ _ => id
    simp [taken]

theorem Consistent.arrivesLate (consistent : world.Consistent) (index : Nat) :
    (world.arrivesLate index).Consistent := by
  unfold World.arrivesLate
  split
  · exact consistent
  · exact consistent.of_service (List.Perm.refl _) rfl rfl rfl rfl fun _ _ => holder_setInProgress

theorem Consistent.invalidationArrives (consistent : world.Consistent) (index : Nat) :
    (world.invalidationArrives index).Consistent := by
  unfold World.invalidationArrives
  split
  · exact consistent
  · refine consistent.of_service (List.Perm.refl _) rfl rfl rfl rfl fun code guid held => ?_
    exact holder_setUsed.trans held

theorem Consistent.arrives (consistent : world.Consistent) (index : Nat) (answered : Bool) :
    (world.arrives index answered).Consistent := by
  unfold World.arrives
  split
  · exact consistent
  · rename_i redemption found
    cases succeeds : answered && (world.service redemption.rawCode = .valid : Bool) with
    | false =>
        refine consistent.of_service (List.Perm.of_eq ?_) rfl rfl rfl rfl
          fun _ _ => holder_setInProgress
        simp [taken]
    | true =>
        have isValid : world.service redemption.rawCode = .valid := by
          simpa using (Bool.and_eq_true_iff.1 succeeds).2
        have moved : (((world.reported ++ [(redemption, true)]).filter Prod.snd).map Prod.fst ++
            world.handled.map Handling.redemption).Perm (redemption :: world.taken) := by
          rw [List.filter_append, List.map_append, List.append_assoc]
          exact List.perm_middle
        have absent : redemption.rawCode ∉ world.taken.map Redemption.rawCode := by
          intro member
          obtain ⟨other, isTaken, same⟩ := List.mem_map.1 member
          have held := consistent.held other isTaken
          rw [same, isValid] at held
          cases held
        refine ⟨(moved.map _).nodup_iff.2 (List.nodup_cons.2 ⟨absent, consistent.distinct⟩),
          fun other isTaken => ?_, consistent.nothingElse, consistent.committing,
          consistent.committed, consistent.invalidated⟩
        cases List.mem_cons.1 (moved.mem_iff.1 isTaken) with
        | inl same =>
            rw [same]
            exact holder_of_valid isValid
        | inr before => exact holder_setInProgress (consistent.held other before)

theorem Consistent.commits (consistent : world.Consistent) (index : Nat) (succeeds : Bool) :
    (world.commits index succeeds).Consistent := by
  unfold World.commits
  split
  · exact consistent
  · rename_i redemption statement found
    have backed := consistent.committing _ (List.mem_of_getElem? found)
    have waiting : ∀ saving ∈ world.committing.eraseIdx index, world.Backed saving :=
      fun saving member => consistent.committing saving (List.mem_of_mem_eraseIdx member)
    have committed : ∀ saving ∈ world.committed ++ [(redemption, statement)],
        world.Backed saving := by
      intro saving member
      cases List.mem_append.1 member with
      | inl before => exact consistent.committed saving before
      | inr now =>
          rw [List.mem_singleton.1 now]
          exact backed
    have invalidated : ∀ other ∈ world.invalidated,
        ∃ saved, (other, saved) ∈ world.committed ++ [(redemption, statement)] := by
      intro other member
      obtain ⟨saved, before⟩ := consistent.invalidated other member
      exact ⟨saved, List.mem_append_left _ before⟩
    dsimp only
    split_ifs
    · refine { consistent with
        committing := waiting, committed, invalidated := fun other member => ?_ }
      cases List.mem_append.1 member with
      | inl before => exact invalidated other before
      | inr now =>
          rw [List.mem_singleton.1 now]
          exact ⟨statement, List.mem_append_right _ List.mem_cons_self⟩
    · exact { consistent with committing := waiting, committed, invalidated }
    · exact { consistent with committing := waiting }

/-- One more call of `HandleCode`, for a code that was reported. -/
theorem Consistent.handles {next : World} {handling : Handling} (consistent : world.Consistent)
    (taken : next.taken.Perm world.taken) (service : next.service = world.service)
    (handled : next.handled = world.handled ++ [handling])
    (nothing : handling.returned ≠ some true → handling.after = handling.before)
    (committing : ∀ saving ∈ next.committing, saving ∈ world.committing ∨
      (handling.redemption = saving.1 ∧ handling.returned = some true ∧
        saving.2.Saves saving.1.premium.type))
    (committed : next.committed = world.committed)
    (invalidated : next.invalidated = world.invalidated) : next.Consistent := by
  have backed : ∀ saving, world.Backed saving → next.Backed saving := by
    rintro saving ⟨⟨before, member, same⟩, saves⟩
    refine ⟨⟨before, ?_, same⟩, saves⟩
    rw [handled]
    exact List.mem_append_left _ member
  refine ⟨(taken.map _).nodup_iff.2 consistent.distinct, fun redemption member => ?_,
    fun other member => ?_, fun saving member => ?_, fun saving member => ?_, ?_⟩
  · rw [service]
    exact consistent.held redemption (taken.mem_iff.1 member)
  · rw [handled] at member
    cases List.mem_append.1 member with
    | inl before => exact consistent.nothingElse other before
    | inr now =>
        rw [List.mem_singleton.1 now]
        exact nothing
  · cases committing saving member with
    | inl before => exact backed saving (consistent.committing saving before)
    | inr now =>
        refine ⟨⟨handling, ?_, now.1, now.2.1⟩, now.2.2⟩
        rw [handled]
        exact List.mem_append_right _ List.mem_cons_self
  · exact backed saving (consistent.committed saving (committed ▸ member))
  · rw [invalidated, committed]
    exact consistent.invalidated

theorem taken_of_report {redemption : Redemption} {index : Nat}
    (found : world.reported[index]? = some (redemption, true)) :
    ((((world.reported.eraseIdx index).filter Prod.snd).map Prod.fst ++
      (world.handled.map Handling.redemption ++ [redemption])).Perm world.taken) := by
  obtain ⟨inside, atIndex⟩ := List.getElem?_eq_some_iff.1 found
  have erased : ((redemption, true) :: world.reported.eraseIdx index).Perm world.reported := by
    rw [← atIndex]
    exact List.getElem_cons_eraseIdx_perm inside
  have successes := ((erased.filter Prod.snd).map Prod.fst).append_right
    (world.handled.map Handling.redemption)
  rw [List.filter_cons_of_pos rfl, List.map_cons, List.cons_append] at successes
  refine List.Perm.trans ?_ successes
  rw [← List.append_assoc]
  exact List.perm_append_singleton redemption _

theorem taken_of_failure {redemption : Redemption} {index : Nat}
    (found : world.reported[index]? = some (redemption, false)) :
    ((((world.reported.eraseIdx index).filter Prod.snd).map Prod.fst ++
      world.handled.map Handling.redemption).Perm world.taken) := by
  obtain ⟨inside, atIndex⟩ := List.getElem?_eq_some_iff.1 found
  have erased : ((redemption, false) :: world.reported.eraseIdx index).Perm world.reported := by
    rw [← atIndex]
    exact List.getElem_cons_eraseIdx_perm inside
  have successes := (erased.filter Prod.snd).map Prod.fst
  rw [List.filter_cons_of_neg Bool.false_ne_true] at successes
  exact successes.append_right _

/-- What `continues` does for a report of success: one call of `HandleCode`. -/
theorem continues_handles (consistent : world.Consistent) {index : Nat} {redemption : Redemption}
    (found : world.reported[index]? = some (redemption, true)) :
    ∃ handling, (world.continues index).handled = world.handled ++ [handling] ∧
      (world.continues index).Consistent ∧
      ((handling.before.isSome → handling.Granted) ↔
        ∀ player, world.online redemption.guid = some player →
          player.Takes redemption.premium) := by
  have taken := taken_of_report found
  rw [continues, found]
  simp only [if_true]
  unfold handleCode
  dsimp only
  cases online : world.online redemption.guid with
  | none =>
      refine ⟨⟨redemption, none, none, some false⟩, rfl, ?_, ?_⟩
      · refine consistent.handles ?_ rfl rfl (fun _ => rfl) (fun _ => Or.inl) rfl rfl
        simpa [World.taken] using taken
      · simp
  | some player =>
      have grants := @grant_iff player redemption.premium world.nextItemGuid
      have forAll : (∀ other, some player = some other → other.Takes redemption.premium) ↔
          player.Takes redemption.premium := by simp
      rw [forAll, ← grants]
      dsimp only
      cases ends : player.grant redemption.premium world.nextItemGuid with
      | applied after next =>
          refine ⟨⟨redemption, some player, some after, some true⟩, rfl, ?_, ?_⟩
          · refine consistent.handles ?_ rfl rfl (fun failed => absurd rfl failed) ?_ rfl rfl
            · simpa [World.taken] using taken
            · intro saving member
              cases List.mem_append.1 member with
              | inl before => exact Or.inl before
              | inr now =>
                  rw [List.mem_singleton.1 now]
                  exact Or.inr ⟨rfl, rfl, saves_of_applied ends⟩
          · simp [Handling.Granted]
      | refused =>
          refine ⟨⟨redemption, some player, some player, some false⟩, rfl, ?_, ?_⟩
          · refine consistent.handles ?_ rfl rfl (fun _ => rfl) (fun _ => Or.inl) rfl rfl
            simpa [World.taken] using taken
          · simp [Handling.Granted]
      | asserts =>
          refine ⟨⟨redemption, some player, some player, none⟩, rfl, ?_, ?_⟩
          · refine consistent.handles ?_ rfl rfl (fun _ => rfl) (fun _ => Or.inl) rfl rfl
            simpa [World.taken] using taken
          · simp [Handling.Granted]

theorem Consistent.continues (consistent : world.Consistent) (index : Nat) :
    (world.continues index).Consistent := by
  cases found : world.reported[index]? with
  | none =>
      rw [World.continues, found]
      exact consistent
  | some report =>
      obtain ⟨redemption, ok⟩ := report
      cases ok with
      | true =>
          obtain ⟨_, _, kept, _⟩ := continues_handles consistent found
          exact kept
      | false =>
          rw [World.continues, found]
          exact consistent.of_service (taken_of_failure found) rfl rfl rfl rfl fun _ _ => id

/-- Every step keeps the invariant. -/
theorem Consistent.step (consistent : world.Consistent) (event : Event) :
    (world.step event).Consistent := by
  unfold World.step
  split_ifs
  · exact consistent
  · cases event with
    | redeem guid premium => exact consistent.redeem guid premium
    | factionChecked index passes => exact consistent.factionChecked index passes
    | arrives index answered => exact consistent.arrives index answered
    | timesOut index => exact consistent.timesOut index
    | arrivesLate index => exact consistent.arrivesLate index
    | continues index => exact consistent.continues index
    | commits index succeeds => exact consistent.commits index succeeds
    | invalidationArrives index => exact consistent.invalidationArrives index
    | changes guid player =>
        exact consistent.of_service (List.Perm.refl _) rfl rfl rfl rfl fun _ _ => id

/-! ## Only a continuation calls `HandleCode` -/

theorem handled_step {event : Event} (other : ∀ index, event ≠ .continues index) :
    (world.step event).handled = world.handled := by
  unfold World.step
  split_ifs
  · rfl
  · cases event with
    | redeem guid premium =>
        dsimp only [World.redeem]
        split
        · rfl
        · split <;> rfl
    | factionChecked index passes =>
        dsimp only [World.factionChecked]
        split
        · rfl
        · split_ifs <;> rfl
    | arrives index answered =>
        dsimp only [World.arrives]
        split <;> rfl
    | timesOut index =>
        dsimp only [World.timesOut]
        split <;> rfl
    | arrivesLate index =>
        dsimp only [World.arrivesLate]
        split <;> rfl
    | continues index => exact absurd rfl (other index)
    | commits index succeeds =>
        dsimp only [World.commits]
        split
        · rfl
        · split_ifs <;> rfl
    | invalidationArrives index =>
        dsimp only [World.invalidationArrives]
        split <;> rfl
    | changes guid player => rfl

/-! ## What a step loses -/

theorem notLost_of_handled (consistent : world.Consistent) (notLost : world.NotLost)
    {next : World} (kept : next.Consistent) (handled : next.handled = world.handled) :
    next.NotLost := by
  rw [kept.notLost_iff, handled]
  exact consistent.notLost_iff.1 notLost

theorem notLost_continues_iff (consistent : world.Consistent) (notLost : world.NotLost)
    (index : Nat) :
    (world.continues index).NotLost ↔ ∀ redemption player,
      world.reported[index]? = some (redemption, true) →
        world.online redemption.guid = some player → player.Takes redemption.premium := by
  have kept := consistent.continues index
  cases found : world.reported[index]? with
  | none =>
      refine iff_of_true ?_ (by simp)
      apply notLost_of_handled consistent notLost kept
      rw [World.continues, found]
  | some report =>
      obtain ⟨redemption, ok⟩ := report
      cases ok with
      | false =>
          refine iff_of_true ?_ (by simp)
          apply notLost_of_handled consistent notLost kept
          rw [World.continues, found]
          rfl
      | true =>
          obtain ⟨handling, handled, _, granted⟩ := continues_handles consistent found
          rw [kept.notLost_iff, handled, List.forall_mem_append, List.forall_mem_singleton,
            granted]
          constructor
          · intro both other player same online
            obtain rfl := (Prod.mk.inj (Option.some.inj same)).1
            exact both.2 player online
          · exact fun takes => ⟨consistent.notLost_iff.1 notLost,
              fun player online => takes redemption player rfl online⟩

theorem notLost_step_iff (event : Event) (consistent : world.Consistent)
    (notLost : world.NotLost) :
    (world.step event).NotLost ↔ world.Grantable event := by
  have kept := consistent.step event
  cases event with
  | continues index =>
      cases stops : world.stopped with
      | true =>
          have same : world.step (.continues index) = world := by simp [World.step, stops]
          rw [same]
          exact iff_of_true notLost (by simp [Grantable, stops])
      | false =>
          simp only [World.step, Grantable, stops, Bool.false_eq_true, if_false, forall_const]
          exact notLost_continues_iff consistent notLost index
  | _ =>
      refine iff_of_true (notLost_of_handled consistent notLost kept ?_) trivial
      exact handled_step (by simp)

/-- Every run is safe, and it loses no code exactly if each continuation can grant. -/
theorem redemptions_exact (service : String → CodeStatus) (online : Nat → Option Player)
    (nextItemGuid : Nat) (events : List Event) :
    Throughout step Safe (start service online nextItemGuid) events ∧
      (Throughout step NotLost (start service online nextItemGuid) events ↔
        EveryStep step Grantable (start service online nextItemGuid) events) := by
  have initial := consistent_start service online nextItemGuid
  have preserved : ∀ (world : World) event, world.Consistent → (world.step event).Consistent :=
    fun _ event consistent => consistent.step event
  constructor
  · have admissible : EveryStep step (fun _ _ => True) (start service online nextItemGuid)
        events := everyStep_iff_forall.2 fun _ _ => trivial
    have always : Throughout step Consistent (start service online nextItemGuid) events :=
      throughout_of_invariant (fun world event consistent _ => preserved world event consistent)
        initial admissible
    exact always.mono fun _ consistent => consistent.safe
  · apply throughout_iff_everyStep preserved
      (fun world event consistent notLost => notLost_step_iff event consistent notLost) initial
    exact fun _ member => absurd member List.not_mem_nil

/-! ## A full backpack -/

/-- A pet for one slot. -/
def petItem : ItemTemplate where
  itemClass := 15
  subClass := 2
  inventoryType := 0
  maxCount := 0
  stackable := 1
  containerSlots := 0
  socketColor := 0
  gemProperties := 0
  bagFamily := 0
  itemLimitCategory := 0

/-- A backpack in which so many slots are taken. -/
def backpack (taken : Nat) : Storage where
  inventory := (slotsFrom INVENTORY_SLOT_ITEM_START (INVENTORY_SLOT_ITEM_START + taken)).map
    fun slot =>
      { owner := 1
        pos := position INVENTORY_SLOT_BAG_0 slot
        item := { guid := slot, entry := 1, count := 1 } }
  owner := 1
  getItemTemplate entry := if entry = 13582 then some petItem else none
  limitCategories _ := none
  lootGenerated _ := false
  getGemCountWithID _ _ := 0

theorem backpack_templates (taken entry : Nat) (proto : ItemTemplate)
    (known : (backpack taken).getItemTemplate entry = some proto) :
    proto.containerSlots ≤ MAX_BAG_SIZE := by
  unfold backpack at known
  dsimp only at known
  split_ifs at known
  obtain rfl := Option.some.inj known
  decide

theorem isLoaded_backpack_empty : (backpack 0).IsLoaded where
  sound := by unfold Inventory.Sound; decide +kernel
  templates := backpack_templates 0

theorem isLoaded_backpack_full : (backpack 16).IsLoaded where
  sound := by unfold Inventory.Sound; decide +kernel
  templates := backpack_templates 16

def roomy : Player := ⟨.alliance, 1, 0, backpack 0, isLoaded_backpack_empty⟩

def crowded : Player := ⟨.alliance, 1, 0, backpack 16, isLoaded_backpack_full⟩

theorem pet_isItem : CodeType.pet.IsItem := Or.inl rfl

theorem pet_ne_zero : 13582 ≠ 0 := by decide

def petCode : PremiumCode where
  type := .pet
  rawCode := "PET"
  amount := 1
  itemId := 13582
  onlyItems _ := pet_isItem
  petChosen _ := pet_ne_zero

/-- The backpack fills up while the service moves the code. -/
def fillsUp : List Event :=
  [.redeem 7 petCode, .changes 7 (some crowded), .arrives 0 true, .continues 0]

def beforeFilling : World := start (fun _ => .valid) (fun _ => some roomy) 40

/-- The code stays in progress, and nothing is granted. -/
theorem fillsUp_loses :
    (run step beforeFilling fillsUp).service "PET" = .inProgress 7 ∧
      (run step beforeFilling fillsUp).handled.map Handling.returned = [some false] ∧
      ¬ Throughout step NotLost beforeFilling fillsUp := by
  have status : (run step beforeFilling fillsUp).service "PET" = .inProgress 7 := by
    decide +kernel
  have returned : (run step beforeFilling fillsUp).handled.map Handling.returned =
      [some false] := by decide +kernel
  have handled : (run step beforeFilling fillsUp).handled.map
      (fun handling => (handling.rawCode, handling.before.isSome, handling.returned)) =
        [("PET", true, some false)] := by decide +kernel
  refine ⟨status, returned, fun notLost => ?_⟩
  obtain ⟨handling, isOnly, fields⟩ := List.map_eq_singleton_iff.1 handled
  have member : handling ∈ (run step beforeFilling fillsUp).handled := by
    rw [isOnly]
    exact List.mem_cons_self
  simp only [Prod.mk.injEq] at fields
  cases notLost.last handling member fields.2.1 with
  | inl granted =>
      rw [Handling.Granted, fields.2.2] at granted
      cases granted.1
  | inr isValid =>
      rw [fields.1, status] at isValid
      cases isValid

end World

end RealmServer.Premium
