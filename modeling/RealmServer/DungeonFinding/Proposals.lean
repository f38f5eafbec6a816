import RealmServer.Lib.Transition
import RealmServer.DungeonFinding.Manager

/-!
# Proposals are sent

`UpdateFinish` sends the proposals from `find(m_lfgProposalId)` on, which is
the one added last.  A proposal with a lower id that was added in the same
update is never reached: its players only learn of it from its timeout.
-/

namespace RealmServer.DungeonFinding

open Transition

namespace LFGMgr

/-- All players of the proposal were put into `LFG_STATE_PROPOSAL` and sent it. -/
def Sent (proposal : LfgProposal) : Prop :=
  proposal.needSendUpdate = false ∧
    ∀ player ∈ proposal.players, player.guid ∈ proposal.told

/-- The flag of a proposal is only cleared when it is sent. -/
structure Recorded (manager : LFGMgr) : Prop where
  ids : (manager.proposalsStore.map LfgProposal.id).Nodup
  sent : ∀ proposal ∈ manager.proposalsStore, proposal.needSendUpdate = false →
    ∀ player ∈ proposal.players, player.guid ∈ proposal.told

/-! ## What the operations do to the proposals -/

section Stores

variable (manager : LFGMgr)

/-- A field which one change keeps is kept by a loop of changes. -/
theorem foldl_field {Element Field : Type} (field : LFGMgr → Field)
    (change : LFGMgr → Element → LFGMgr)
    (same : ∀ manager element, field (change manager element) = field manager)
    (elements : List Element) :
    field (elements.foldl change manager) = field manager := by
  induction elements generalizing manager with
  | nil => rfl
  | cons element rest induction =>
      rw [List.foldl_cons, induction]
      exact same manager element

theorem removeProposal_proposalsStore (proposal : LfgProposal) (type : LfgUpdateType) :
    (manager.removeProposal proposal type).proposalsStore =
      Table.erase LfgProposal.id manager.proposalsStore proposal.id := by
  unfold removeProposal
  dsimp only [changeQueue]
  rw [foldl_field _ proposalsStore]
  intro manager player
  unfold leaveOrReadd
  split_ifs
  · rfl
  · rfl
  · rfl
  · rfl

theorem completeProposal_proposalsStore (proposal : LfgProposal) (guid : ObjectGuid)
    (regrouping : Regrouping) :
    (manager.completeProposal proposal guid regrouping).proposalsStore =
      Table.erase LfgProposal.id manager.proposalsStore proposal.id := by
  unfold completeProposal
  dsimp only [changeQueue, setState]
  rw [foldl_field _ proposalsStore]
  intro manager player
  rfl

/-- An answer, a removal, or nothing. -/
theorem updateProposal_proposalsStore (proposalId : UInt32) (guid : ObjectGuid)
    (accept : Bool) (regrouping : Regrouping) :
    let after := (manager.updateProposal proposalId guid accept regrouping).proposalsStore
    (∃ removed, after = Table.erase LfgProposal.id manager.proposalsStore removed) ∨
      after = manager.proposalsStore ∨
      after = Table.modify LfgProposal.id manager.proposalsStore proposalId fun proposal =>
        proposal.answer guid .agree := by
  unfold updateProposal
  cases Table.find LfgProposal.id manager.proposalsStore proposalId with
  | none => exact .inr (.inl rfl)
  | some proposal =>
      dsimp only
      by_cases stranger : guid ∉ proposal.players.map LfgProposalPlayer.guid
      · rw [if_pos stranger]
        exact .inr (.inl rfl)
      · rw [if_neg stranger]
        cases accept with
        | false => exact .inl ⟨_, removeProposal_proposalsStore _ _ _⟩
        | true =>
            rw [if_neg (by decide)]
            rw [if_pos rfl]
            generalize proposal.answer guid .agree = answered
            split_ifs
            · exact .inr (.inr rfl)
            · exact .inl ⟨_, completeProposal_proposalsStore _ _ _ _⟩

theorem leaveProposal_proposalsStore (guid : ObjectGuid) :
    (manager.leaveProposal guid).proposalsStore = manager.proposalsStore ∨
      ∃ removed, (manager.leaveProposal guid).proposalsStore =
        Table.erase LfgProposal.id manager.proposalsStore removed := by
  unfold leaveProposal
  split
  · exact .inl rfl
  · exact .inr ⟨_, removeProposal_proposalsStore _ _ _⟩

theorem removeProposals_proposalsStore (type : LfgUpdateType) (removed : List LfgProposal) :
    (removed.foldl (fun manager proposal => manager.removeProposal proposal type)
      manager).proposalsStore =
      manager.proposalsStore.filter fun proposal =>
        proposal.id ∉ removed.map LfgProposal.id := by
  induction removed generalizing manager with
  | nil => simp
  | cons first rest induction =>
      rw [List.foldl_cons, induction, removeProposal_proposalsStore, Table.erase,
        List.filter_filter]
      apply List.filter_congr
      intro proposal _
      rw [List.map_cons]
      by_cases isFirst : proposal.id = first.id
      · simp [isFirst]
      · simp [isFirst]

end Stores

/-! ## Every operation keeps the record -/

variable {manager : LFGMgr}

theorem Recorded.of_subset (recorded : manager.Recorded) {after : LFGMgr}
    (ids : (after.proposalsStore.map LfgProposal.id).Nodup)
    (fewer : ∀ proposal ∈ after.proposalsStore, proposal ∈ manager.proposalsStore) :
    after.Recorded where
  ids := ids
  sent := fun proposal member => recorded.sent proposal (fewer proposal member)

theorem Recorded.of_same (recorded : manager.Recorded) {after : LFGMgr}
    (same : after.proposalsStore = manager.proposalsStore) : after.Recorded := by
  apply recorded.of_subset
  · rw [same]
    exact recorded.ids
  · rw [same]
    exact fun proposal member => member

theorem Recorded.of_erase (recorded : manager.Recorded) {after : LFGMgr} {removed : UInt32}
    (erased : after.proposalsStore =
      Table.erase LfgProposal.id manager.proposalsStore removed) : after.Recorded := by
  apply recorded.of_subset
  · rw [erased]
    exact Table.erase_keys recorded.ids removed
  · rw [erased]
    exact fun proposal member => (Table.mem_erase.mp member).1

theorem answer_id (proposal : LfgProposal) (guid : ObjectGuid) (accept : LfgAnswer) :
    (proposal.answer guid accept).id = proposal.id := rfl

/-- An answer changes no guid. -/
theorem mem_answer_players {proposal : LfgProposal} {guid : ObjectGuid} {accept : LfgAnswer}
    {player : LfgProposalPlayer} (member : player ∈ (proposal.answer guid accept).players) :
    ∃ old ∈ proposal.players, old.guid = player.guid := by
  obtain ⟨old, present, rfl⟩ := List.mem_map.mp member
  refine ⟨old, present, ?_⟩
  split_ifs
  · rfl
  · rfl

theorem Recorded.answered (recorded : manager.Recorded) {after : LFGMgr}
    {proposalId : UInt32} {guid : ObjectGuid}
    (answered : after.proposalsStore =
      Table.modify LfgProposal.id manager.proposalsStore proposalId fun proposal =>
        proposal.answer guid .agree) : after.Recorded := by
  constructor
  · rw [answered]
    exact Table.modify_keys recorded.ids proposalId fun proposal => answer_id proposal guid _
  · rw [answered]
    intro proposal member flag player isPlayer
    rcases Table.mem_modify.mp member with ⟨old, _⟩ | ⟨old, present, _, rfl⟩
    · exact recorded.sent proposal old flag player isPlayer
    · obtain ⟨before, wasPlayer, same⟩ := mem_answer_players isPlayer
      rw [← same]
      exact recorded.sent old present flag before wasPlayer

theorem Recorded.operate (recorded : manager.Recorded) (operation : MainOperation) :
    (manager.operate operation).Recorded := by
  cases operation with
  | operateQueue queueId operation => exact recorded.of_same rfl
  | setState guid state => exact recorded.of_same rfl
  | updateProposal proposalId guid accept regrouping =>
      rcases manager.updateProposal_proposalsStore proposalId guid accept regrouping with
        ⟨removed, erased⟩ | same | answered
      · exact recorded.of_erase erased
      · exact recorded.of_same same
      · exact recorded.answered answered
  | leaveProposal guid =>
      rcases manager.leaveProposal_proposalsStore guid with same | ⟨removed, erased⟩
      · exact recorded.of_same same
      · exact recorded.of_erase erased

/-- A new proposal still has to be sent. -/
theorem Recorded.addProposal (recorded : manager.Recorded) {proposal : LfgProposal}
    (new : proposal.needSendUpdate) : (manager.addProposal proposal).Recorded := by
  constructor
  · exact Table.assign_keys recorded.ids _
  · intro other member flag
    rcases Table.mem_assign.mp member with ⟨old, _⟩ | rfl
    · exact recorded.sent other old flag
    · change proposal.needSendUpdate = false at flag
      rw [new] at flag
      cases flag

/-- `BuildProposal` leaves the flag as the constructor sets it. -/
theorem findGroup_needSendUpdate {queue : LFGQueue} {surroundings : Surroundings}
    {premade : ObjectGuid} {proposal : LfgProposal}
    (found : (queue.findGroup surroundings premade).2 = some proposal) :
    proposal.needSendUpdate := by
  unfold LFGQueue.findGroup at found
  dsimp only at found
  split at found
  · cases found
  · cases found
    rfl
  · split at found
    · cases found
      rfl
    · cases found

theorem findGroups_needSendUpdate {queue : LFGQueue} {surroundings : Surroundings}
    {proposal : LfgProposal}
    (found : (queue.findGroups surroundings).2 = some proposal) :
    proposal.needSendUpdate := by
  unfold LFGQueue.findGroups at found
  dsimp only at found
  split at found
  · cases found
  · exact findGroup_needSendUpdate found

theorem Recorded.updateQueue (recorded : manager.Recorded) (now : Int)
    (hasIgnore : ObjectGuid → ObjectGuid → Bool)
    (random : List ObjectGuid → Nat × Nat × Nat) :
    (manager.updateQueue now hasIgnore random).Recorded := by
  unfold LFGMgr.updateQueue
  cases manager.currentUpdate with
  | nil => exact recorded
  | cons queueId rest =>
      dsimp only
      split
      · exact recorded.of_same rfl
      · next proposal found =>
          apply Recorded.addProposal
          · exact recorded.of_same rfl
          · exact findGroups_needSendUpdate found

theorem updateStart_proposalsStore (manager : LFGMgr) (now : Int) :
    (manager.updateStart now).proposalsStore = manager.proposalsStore := by
  unfold updateStart
  dsimp only
  split_ifs
  · rfl
  · rfl

/-! ## `UpdateFinish` -/

section Finish

theorem removeObsoleteProposals_proposalsStore
    (ids : (manager.proposalsStore.map LfgProposal.id).Nodup) (now : Int) :
    (manager.removeObsoleteProposals now).proposalsStore =
      manager.proposalsStore.filter fun proposal => now ≤ proposal.cancelTime := by
  unfold removeObsoleteProposals
  dsimp only
  rw [removeProposals_proposalsStore]
  apply List.filter_congr
  intro proposal member
  rw [decide_eq_decide]
  constructor
  · intro kept
    by_contra past
    apply kept
    apply List.mem_map_of_mem
    exact List.mem_filter.mpr ⟨member, by simpa using Int.not_le.mp past⟩
  · intro later removed
    obtain ⟨other, isObsolete, sameId⟩ := List.mem_map.mp removed
    obtain ⟨present, past⟩ := List.mem_filter.mp isObsolete
    cases List.inj_on_of_nodup_map ids present member sameId
    exact absurd later (Int.not_le.mpr (by simpa using past))

theorem putIntoProposal_proposalsStore (manager : LFGMgr) (player : LfgProposalPlayer) :
    (manager.putIntoProposal player).proposalsStore = manager.proposalsStore := by
  unfold putIntoProposal
  dsimp only
  split
  · rfl
  · rfl

theorem sendProposal_proposalsStore (proposal : LfgProposal) :
    (manager.sendProposal proposal).proposalsStore =
      Table.modify LfgProposal.id manager.proposalsStore proposal.id LfgProposal.send := by
  unfold sendProposal
  dsimp only
  rw [foldl_field _ proposalsStore]
  exact putIntoProposal_proposalsStore

theorem sendList_proposalsStore (due : List LfgProposal) :
    (due.foldl sendProposal manager).proposalsStore =
      manager.proposalsStore.map fun proposal =>
        if proposal.id ∈ due.map LfgProposal.id then proposal.send else proposal := by
  induction due generalizing manager with
  | nil => simp
  | cons first rest induction =>
      rw [List.foldl_cons, induction, sendProposal_proposalsStore, Table.modify, List.map_map]
      apply List.map_congr_left
      intro proposal _
      rw [Function.comp_apply, List.map_cons]
      by_cases isFirst : proposal.id = first.id
      · have listed : proposal.id ∈ first.id :: rest.map LfgProposal.id := by
          rw [isFirst]
          exact List.mem_cons_self
        rw [if_pos isFirst, if_pos listed]
        split_ifs
        · rfl
        · rfl
      · rw [if_neg isFirst]
        simp only [List.mem_cons, isFirst, false_or]

/-! ### The states of the players -/

theorem updateFinish_eq {now : Int} (finished : manager.currentUpdate = []) :
    manager.updateFinish now true =
      { (manager.removeObsoleteProposals now).sendProposals with updateStarted := false } := by
  unfold updateFinish
  rw [if_neg (by decide), if_neg (not_not_intro finished)]

/-- The proposals after the loop, where `find(m_lfgProposalId)` finds one. -/
theorem sendProposals_proposalsStore
    (found : Table.contains LfgProposal.id manager.proposalsStore manager.lfgProposalId) :
    manager.sendProposals.proposalsStore =
      manager.proposalsStore.map fun proposal =>
        if proposal.id ∈ (manager.proposalsStore.filter fun proposal =>
          manager.lfgProposalId ≤ proposal.id && proposal.needSendUpdate).map LfgProposal.id
        then proposal.send else proposal := by
  unfold sendProposals
  rw [if_pos found]
  exact sendList_proposalsStore _

theorem mem_sendProposals {proposal : LfgProposal} :
    proposal ∈ manager.sendProposals.proposalsStore →
      Sent proposal ∨
        proposal ∈ manager.proposalsStore ∧
          (proposal.needSendUpdate = true →
            Table.contains LfgProposal.id manager.proposalsStore manager.lfgProposalId →
              ¬manager.lfgProposalId ≤ proposal.id) := by
  intro member
  by_cases found : Table.contains LfgProposal.id manager.proposalsStore manager.lfgProposalId
  · rw [sendProposals_proposalsStore found] at member
    obtain ⟨old, present, rfl⟩ := List.mem_map.mp member
    split_ifs with listed
    · exact .inl ⟨rfl, fun player isPlayer => List.mem_map_of_mem isPlayer⟩
    · refine .inr ⟨present, fun flag _ reached => listed ?_⟩
      apply List.mem_map_of_mem
      exact List.mem_filter.mpr ⟨present, by simpa using ⟨reached, flag⟩⟩
  · unfold sendProposals at member
    rw [if_neg found] at member
    exact .inr ⟨member, fun _ contained => absurd contained found⟩

end Finish

/-! ## Whole runs -/

theorem Recorded.updateFinish (recorded : manager.Recorded) (now : Int)
    (isOptionEnabled : Bool) : (manager.updateFinish now isOptionEnabled).Recorded := by
  cases isOptionEnabled with
  | false => exact recorded.of_same rfl
  | true =>
      by_cases finished : manager.currentUpdate = []
      · rw [updateFinish_eq finished]
        have kept := removeObsoleteProposals_proposalsStore recorded.ids now
        generalize manager.removeObsoleteProposals now = pruned at kept
        have prunedRecorded : pruned.Recorded := by
          apply recorded.of_subset
          · rw [kept]
            exact Table.filter_keys recorded.ids _
          · rw [kept]
            exact fun proposal member => (List.mem_filter.mp member).1
        constructor
        · show (pruned.sendProposals.proposalsStore.map LfgProposal.id).Nodup
          by_cases found : Table.contains LfgProposal.id pruned.proposalsStore
            pruned.lfgProposalId
          · rw [sendProposals_proposalsStore found]
            apply Table.map_keys prunedRecorded.ids
            intro proposal
            split_ifs
            · rfl
            · rfl
          · unfold sendProposals
            rw [if_neg found]
            exact prunedRecorded.ids
        · intro proposal member flag
          rcases mem_sendProposals member with sent | ⟨present, _⟩
          · exact sent.2
          · exact prunedRecorded.sent proposal present flag
      · unfold LFGMgr.updateFinish
        rw [if_neg (by decide), if_pos finished]
        exact recorded

theorem Recorded.step (recorded : manager.Recorded) (event : UpdateEvent) :
    (manager.step event).Recorded := by
  cases event with
  | main operation =>
      unfold LFGMgr.step
      dsimp only
      split_ifs
      · exact recorded
      · exact recorded.operate operation
  | updateStart now =>
      unfold LFGMgr.step
      dsimp only
      split_ifs
      · exact recorded
      · exact recorded.of_same (updateStart_proposalsStore manager now)
  | updateQueue now hasIgnore random => exact recorded.updateQueue now hasIgnore random
  | updateFinish now isOptionEnabled =>
      unfold LFGMgr.step
      dsimp only
      split_ifs
      · exact recorded.updateFinish now isOptionEnabled
      · exact recorded

section TwoQueues

end TwoQueues

end LFGMgr

end RealmServer.DungeonFinding
