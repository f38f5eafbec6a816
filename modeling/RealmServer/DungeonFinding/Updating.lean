import RealmServer.Lib.Transition
import RealmServer.DungeonFinding.Proposals

/-!
# The assertions of an update

A queue asserts that it is not being updated whenever a premade is added or
removed.  `FindGroups` runs in the update itself, and calls `AddOldToQueue` for
a premade in `queue` whose delayed dungeon has come.
-/

namespace RealmServer.DungeonFinding

open Transition

namespace LFGQueue

/-- Neither updating nor caught by an assertion. -/
def Quiet (queue : LFGQueue) : Prop := queue.isUpdating = false ∧ queue.assertFailed = false

/-- Both flags of the assertions. -/
def flags (queue : LFGQueue) : Bool × Bool := (queue.isUpdating, queue.assertFailed)

theorem quiet_iff {queue : LFGQueue} : queue.Quiet ↔ queue.flags = (false, false) := by
  unfold Quiet flags
  rw [Prod.mk.injEq]

section Flags

variable (queue : LFGQueue) (guid : ObjectGuid)

theorem removeFromQueue_flags : (queue.removeFromQueue guid).flags = queue.flags := by
  unfold removeFromQueue
  split_ifs
  · rfl
  · rfl

theorem removePremades_flags (premades : List ObjectGuid) :
    (queue.removePremades premades).flags = queue.flags := by
  unfold removePremades
  induction premades generalizing queue with
  | nil => rfl
  | cons premade rest induction => exact induction (queue.removePremade premade)

theorem insertNewToQueue_flags : (queue.insertNewToQueue guid).flags = queue.flags := by
  unfold insertNewToQueue
  dsimp only
  split_ifs
  · rfl
  · rfl

theorem findGroup_flags (surroundings : Surroundings) :
    (queue.findGroup surroundings guid).1.flags = queue.flags := by
  unfold findGroup
  dsimp only
  split
  · rfl
  · rfl
  · split
    · exact removePremades_flags _ _
    · rfl

end Flags

theorem assertNotUpdating_quiet {queue : LFGQueue} (quiet : queue.Quiet) :
    queue.assertNotUpdating.Quiet := by
  refine ⟨quiet.1, ?_⟩
  show (queue.assertFailed || queue.isUpdating) = false
  rw [quiet.1, quiet.2]
  rfl

theorem Quiet.operate {queue : LFGQueue} (quiet : queue.Quiet) (operation : QueueOperation) :
    (queue.operate operation).Quiet := by
  have asserted := quiet_iff.mp (assertNotUpdating_quiet quiet)
  rw [quiet_iff]
  cases operation with
  | addNewToQueue now guid joinTime dungeonTimes roles isLfgGroup =>
      exact (insertNewToQueue_flags _ guid).trans asserted
  | addOldToQueue guid =>
      unfold LFGQueue.operate addOldToQueue
      dsimp only
      split
      · exact (insertNewToQueue_flags _ guid).trans asserted
      · exact asserted
      · exact (insertNewToQueue_flags _ guid).trans asserted
  | removeFromSystem guid =>
      unfold LFGQueue.operate removeFromSystem
      dsimp only
      split
      · exact (removeFromQueue_flags _ guid).trans asserted
      · exact (removeFromQueue_flags _ guid).trans asserted

theorem Quiet.operateAll {Element : Type} {queue : LFGQueue} (quiet : queue.Quiet)
    (operation : Element → QueueOperation) (elements : List Element) :
    (elements.foldl (fun queue element => queue.operate (operation element)) queue).Quiet := by
  induction elements generalizing queue with
  | nil => exact quiet
  | cons element rest induction => exact induction (quiet.operate (operation element))

theorem Quiet.removeCompleted {queue : LFGQueue} (quiet : queue.Quiet)
    (queues : List ObjectGuid) : (queue.removeCompleted queues).Quiet := by
  unfold LFGQueue.removeCompleted
  dsimp only
  split_ifs
  · have noted : ({ queue with timesUpdated := true } : LFGQueue).Quiet := quiet
    exact noted.operateAll .removeFromSystem queues
  · exact quiet.operateAll .removeFromSystem queues

/-! ## The search -/

/-- The delayed dungeon of an entry has come for a premade in `queue`. -/
def Due (queue : LFGQueue) (now : Int) (entry : DelayedDungeonEntry) : Prop :=
  entry.timeToAdd ≤ now ∧ entry.premade ∈ queue.queue ∧
    ∃ data, queue.queueDataStore entry.premade = some data ∧ data.joinTime = entry.joinTime

theorem addTimedDungeon_of_notDue {queue : LFGQueue} {now : Int} {entry : DelayedDungeonEntry}
    (reached : entry.timeToAdd ≤ now) (notDue : ¬queue.Due now entry) :
    (queue.addTimedDungeon entry).flags = queue.flags ∧
      (queue.addTimedDungeon entry).queue = queue.queue := by
  unfold addTimedDungeon
  cases stored : queue.queueDataStore entry.premade with
  | none => exact ⟨rfl, rfl⟩
  | some data =>
      dsimp only
      split_ifs with sameTime inQueue
      · exact absurd ⟨reached, inQueue, data, stored, sameTime⟩ notDue
      · exact ⟨rfl, rfl⟩
      · exact ⟨rfl, rfl⟩

theorem due_addTimedDungeon_iff {queue : LFGQueue} {now : Int} {entry : DelayedDungeonEntry}
    (same : (queue.addTimedDungeon entry).queue = queue.queue) (other : DelayedDungeonEntry) :
    (queue.addTimedDungeon entry).Due now other ↔ queue.Due now other := by
  have joinTime : ∀ guid time,
      (∃ data, (queue.addTimedDungeon entry).queueDataStore guid = some data ∧
        data.joinTime = time) ↔
      ∃ data, queue.queueDataStore guid = some data ∧ data.joinTime = time := by
    intro guid time
    rw [addTimedDungeon_queueDataStore]
    by_cases isPremade : guid = entry.premade
    · rw [isPremade, Function.update_self]
      cases queue.queueDataStore entry.premade with
      | none => simp
      | some data =>
          simp only [Option.map_some, Option.some.injEq, exists_eq_left']
          split_ifs
          · exact Iff.rfl
          · exact Iff.rfl
    · rw [Function.update_of_ne isPremade]
  unfold Due
  rw [same, joinTime]

theorem addTimedDungeons_flags {queue : LFGQueue} {now : Int}
    {entries : List DelayedDungeonEntry}
    (notDue : ∀ entry ∈ entries, ¬queue.Due now entry) :
    (addTimedDungeons now entries queue).flags = queue.flags := by
  induction entries generalizing queue with
  | nil => rfl
  | cons entry rest induction =>
      unfold addTimedDungeons
      split_ifs with reached
      · obtain ⟨sameFlags, sameQueue⟩ :=
          addTimedDungeon_of_notDue reached (notDue entry List.mem_cons_self)
        rw [induction, sameFlags]
        intro other later
        rw [due_addTimedDungeon_iff sameQueue]
        exact notDue other (List.mem_cons_of_mem _ later)
      · rfl

theorem findGroups_flags {queue : LFGQueue} {surroundings : Surroundings}
    (notDue : ∀ entry ∈ queue.timedDungeonEntries, ¬queue.Due surroundings.now entry) :
    (queue.findGroups surroundings).1.flags = queue.flags := by
  have added := addTimedDungeons_flags notDue
  unfold findGroups
  dsimp only
  split
  · exact added
  · exact (findGroup_flags _ _ _).trans added

end LFGQueue

namespace LFGMgr

/-- No call reached its assertion in an update. -/
def NoAssertFails (manager : LFGMgr) : Prop :=
  ∀ queueId, (manager.queuesStore queueId).assertFailed = false

/--
A queue which searches has no delayed dungeon for a premade in `queue`, and
`UpdateFinish` does not return before the update is complete.
-/
def NothingDue (manager : LFGMgr) : UpdateEvent → Prop
  | .updateQueue now _ _ =>
      ∀ queueId ∈ manager.currentUpdate.head?,
        ∀ entry ∈ (manager.queuesStore queueId).timedDungeonEntries,
          ¬(manager.queuesStore queueId).Due now entry
  | .updateFinish _ isOptionEnabled =>
      manager.updateStarted → isOptionEnabled ∨ manager.currentUpdate = []
  | _ => True

/-- Only queues which the update has still to reach are marked as updating. -/
structure Undisturbed (manager : LFGMgr) : Prop where
  noAssertFails : manager.NoAssertFails
  updating : ∀ queueId, (manager.queuesStore queueId).isUpdating = true →
    queueId ∈ manager.currentUpdate
  complete : manager.updateStarted = false → manager.currentUpdate = []

variable {manager : LFGMgr}

/-! ## The main thread -/

/-- All queues are quiet, as they are while no update runs. -/
def AllQuiet (queues : UInt8 → LFGQueue) : Prop := ∀ queueId, (queues queueId).Quiet

theorem Undisturbed.allQuiet (undisturbed : manager.Undisturbed)
    (complete : manager.currentUpdate = []) : AllQuiet manager.queuesStore := by
  intro queueId
  refine ⟨?_, undisturbed.noAssertFails queueId⟩
  apply Bool.eq_false_iff.mpr
  intro updating
  have waits := undisturbed.updating queueId updating
  rw [complete] at waits
  cases waits

theorem AllQuiet.update {queues : UInt8 → LFGQueue} (quiet : AllQuiet queues)
    (queueId : UInt8) {queue : LFGQueue} (changed : queue.Quiet) :
    AllQuiet (Function.update queues queueId queue) := by
  intro other
  by_cases same : other = queueId
  · rw [same, Function.update_self]
    exact changed
  · rw [Function.update_of_ne same]
    exact quiet other

/-- The main thread keeps the update, and the queues quiet. -/
structure OnMainThread (before after : LFGMgr) : Prop where
  quiet : AllQuiet before.queuesStore → AllQuiet after.queuesStore
  currentUpdate : after.currentUpdate = before.currentUpdate
  updateStarted : after.updateStarted = before.updateStarted

theorem OnMainThread.refl (manager : LFGMgr) : OnMainThread manager manager :=
  ⟨id, rfl, rfl⟩

theorem OnMainThread.trans {first second third : LFGMgr} (before : OnMainThread first second)
    (after : OnMainThread second third) : OnMainThread first third where
  quiet := after.quiet ∘ before.quiet
  currentUpdate := after.currentUpdate.trans before.currentUpdate
  updateStarted := after.updateStarted.trans before.updateStarted

/-- Where the queues and the update are the same, nothing else matters. -/
theorem OnMainThread.of_same {after : LFGMgr} (queues : after.queuesStore = manager.queuesStore)
    (currentUpdate : after.currentUpdate = manager.currentUpdate)
    (updateStarted : after.updateStarted = manager.updateStarted) :
    OnMainThread manager after where
  quiet := fun quiet => queues ▸ quiet
  currentUpdate := currentUpdate
  updateStarted := updateStarted

theorem onMainThread_foldl {Element : Type} {change : LFGMgr → Element → LFGMgr}
    (keeps : ∀ manager element, OnMainThread manager (change manager element))
    (elements : List Element) (manager : LFGMgr) :
    OnMainThread manager (elements.foldl change manager) := by
  induction elements generalizing manager with
  | nil => exact .refl manager
  | cons element rest induction => exact (keeps manager element).trans (induction _)

theorem onMainThread_changeQueue (manager : LFGMgr) (queueId : UInt8)
    {change : LFGQueue → LFGQueue}
    (keeps : ∀ {queue : LFGQueue}, queue.Quiet → (change queue).Quiet) :
    OnMainThread manager (manager.changeQueue queueId change) where
  quiet := fun quiet => quiet.update queueId (keeps (quiet queueId))
  currentUpdate := rfl
  updateStarted := rfl

theorem onMainThread_leaveOrReadd (removed : List ObjectGuid) (manager : LFGMgr)
    (player : LfgProposalPlayer) :
    OnMainThread manager (manager.leaveOrReadd removed player) := by
  unfold leaveOrReadd
  split_ifs
  · exact .of_same rfl rfl rfl
  · exact .of_same rfl rfl rfl
  · exact .of_same rfl rfl rfl
  · exact .of_same rfl rfl rfl

theorem onMainThread_removeProposal (manager : LFGMgr) (proposal : LfgProposal)
    (type : LfgUpdateType) : OnMainThread manager (manager.removeProposal proposal type) := by
  have states := onMainThread_foldl (onMainThread_leaveOrReadd (manager.toRemove proposal type))
    proposal.players manager
  unfold LFGMgr.removeProposal
  dsimp only
  generalize proposal.players.foldl (leaveOrReadd (manager.toRemove proposal type)) manager =
    restored at states
  have requeued := onMainThread_changeQueue restored
    ((proposal.players.head?.map fun player => restored.queueId player.guid).getD 0)
    (fun {queue : LFGQueue} (quiet : queue.Quiet) =>
      (quiet.operateAll .removeFromSystem (manager.toRemove proposal type)).operateAll
        .addOldToQueue (proposal.queues.filter (· ∉ manager.toRemove proposal type)))
  exact (states.trans requeued).trans (.of_same rfl rfl rfl)

theorem onMainThread_completeProposal (manager : LFGMgr) (proposal : LfgProposal)
    (guid : ObjectGuid) (regrouping : Regrouping) :
    OnMainThread manager (manager.completeProposal proposal guid regrouping) := by
  have states := onMainThread_foldl
    (fun manager (player : LfgProposalPlayer) =>
      (OnMainThread.of_same rfl rfl rfl : OnMainThread manager
        (manager.setState player.guid .dungeon))) proposal.players manager
  unfold LFGMgr.completeProposal
  dsimp only
  generalize proposal.players.foldl
    (fun manager player => manager.setState player.guid .dungeon) manager = inDungeon at states
  have completed := onMainThread_changeQueue inDungeon (inDungeon.queueId guid)
    (fun {queue : LFGQueue} (quiet : queue.Quiet) => quiet.removeCompleted proposal.queues)
  exact (states.trans completed).trans (.of_same rfl rfl rfl)

theorem onMainThread_operate (manager : LFGMgr) (operation : MainOperation) :
    OnMainThread manager (manager.operate operation) := by
  cases operation with
  | operateQueue queueId operation =>
      exact onMainThread_changeQueue manager queueId fun quiet => quiet.operate operation
  | setState guid state => exact .of_same rfl rfl rfl
  | updateProposal proposalId guid accept regrouping =>
      unfold LFGMgr.operate updateProposal
      dsimp only
      split
      · exact .refl manager
      · next proposal _ =>
        generalize proposal.answer guid (if accept then .agree else .deny) = answered
        split_ifs
        · exact onMainThread_removeProposal _ _ _
        · exact .of_same rfl rfl rfl
        · exact onMainThread_completeProposal _ _ _ _
        · exact .refl manager
  | leaveProposal guid =>
      unfold LFGMgr.operate leaveProposal
      dsimp only
      split
      · exact .refl manager
      · exact onMainThread_removeProposal _ _ _

/-! ## Updates -/

theorem onMainThread_removeObsoleteProposals (manager : LFGMgr) (now : Int) :
    OnMainThread manager (manager.removeObsoleteProposals now) := by
  unfold removeObsoleteProposals
  dsimp only
  exact (onMainThread_foldl
    (fun manager proposal => onMainThread_removeProposal manager proposal _) _ manager).trans
      (.of_same rfl rfl rfl)

theorem onMainThread_putIntoProposal (manager : LFGMgr) (player : LfgProposalPlayer) :
    OnMainThread manager (manager.putIntoProposal player) := by
  unfold putIntoProposal
  dsimp only
  split
  · exact .of_same rfl rfl rfl
  · exact .of_same rfl rfl rfl

theorem onMainThread_sendProposals (manager : LFGMgr) :
    OnMainThread manager manager.sendProposals := by
  unfold sendProposals
  split_ifs
  · apply onMainThread_foldl
    intro manager proposal
    unfold sendProposal
    dsimp only
    apply OnMainThread.trans _
      (onMainThread_foldl onMainThread_putIntoProposal proposal.players _)
    exact .of_same rfl rfl rfl
  · exact .refl manager

theorem OnMainThread.undisturbed {after : LFGMgr} (operation : OnMainThread manager after)
    (undisturbed : manager.Undisturbed) (complete : manager.currentUpdate = []) :
    after.Undisturbed := by
  have quiet := operation.quiet (undisturbed.allQuiet complete)
  constructor
  · exact fun queueId => (quiet queueId).2
  · intro queueId updating
    rw [(quiet queueId).1] at updating
    cases updating
  · intro _
    rw [operation.currentUpdate]
    exact complete

theorem Undisturbed.updateStart (undisturbed : manager.Undisturbed) (now : Int)
    (complete : manager.currentUpdate = []) : (manager.updateStart now).Undisturbed := by
  have quiet := undisturbed.allQuiet complete
  unfold LFGMgr.updateStart
  dsimp only
  split_ifs
  · constructor
    · intro queueId
      dsimp only
      split_ifs
      · exact (quiet queueId).2
      · exact (quiet queueId).2
    · intro queueId updating
      dsimp only at updating ⊢
      split_ifs at updating with listed
      · exact List.mem_append_right _ listed
      · rw [(quiet queueId).1] at updating
        cases updating
    · nofun
  · exact ⟨undisturbed.noAssertFails, undisturbed.updating, nofun⟩

/-- The worker thread clears the flag of a queue which it has searched. -/
theorem Undisturbed.updateQueue (undisturbed : manager.Undisturbed) {now : Int}
    {hasIgnore : ObjectGuid → ObjectGuid → Bool} {random : List ObjectGuid → Nat × Nat × Nat}
    (nothingDue : manager.NothingDue (.updateQueue now hasIgnore random)) :
    (manager.updateQueue now hasIgnore random).Undisturbed := by
  unfold LFGMgr.updateQueue
  cases pending : manager.currentUpdate with
  | nil => exact undisturbed
  | cons queueId rest =>
      dsimp only
      have notDue := nothingDue queueId (by rw [pending]; rfl)
      generalize surroundingsAre :
        ({ now, hasIgnore, getGroup := manager.group,
           oldStateIsDungeon := fun group => (manager.states group).oldState = .dungeon
           random } : Surroundings) = surroundings
      have flags : ((manager.queuesStore queueId).findGroups surroundings).1.flags =
          (manager.queuesStore queueId).flags := by
        apply LFGQueue.findGroups_flags
        rw [← surroundingsAre]
        exact notDue
      generalize (manager.queuesStore queueId).findGroups surroundings = found at flags
      obtain ⟨queue, proposal⟩ := found
      dsimp only at flags ⊢
      have searched : Undisturbed
          { manager with
            currentUpdate := rest
            queuesStore := Function.update manager.queuesStore queueId
              ({ queue with combinationsUpdated := false, timesUpdated := false
                }.setDebugUpdating false) } := by
        constructor
        · intro other
          dsimp only
          by_cases same : other = queueId
          · rw [same, Function.update_self]
            exact (congrArg Prod.snd flags).trans (undisturbed.noAssertFails queueId)
          · rw [Function.update_of_ne same]
            exact undisturbed.noAssertFails other
        · intro other updating
          dsimp only at updating ⊢
          by_cases same : other = queueId
          · rw [same, Function.update_self] at updating
            cases updating
          · rw [Function.update_of_ne same] at updating
            have waits := undisturbed.updating other updating
            rw [pending] at waits
            exact List.mem_of_ne_of_mem same waits
        · intro idle
          have complete := undisturbed.complete idle
          rw [pending] at complete
          cases complete
      cases proposal with
      | none => exact searched
      | some proposal => exact { searched with }

theorem Undisturbed.updateFinish (undisturbed : manager.Undisturbed) {now : Int}
    {isOptionEnabled : Bool} (started : manager.updateStarted)
    (nothingDue : manager.NothingDue (.updateFinish now isOptionEnabled)) :
    (manager.updateFinish now isOptionEnabled).Undisturbed := by
  cases isOptionEnabled with
  | false =>
      have complete : manager.currentUpdate = [] := by
        rcases nothingDue started with enabled | complete
        · cases enabled
        · exact complete
      exact ⟨undisturbed.noAssertFails, undisturbed.updating, fun _ => complete⟩
  | true =>
      by_cases complete : manager.currentUpdate = []
      · rw [updateFinish_eq complete]
        have finished : OnMainThread manager
            (manager.removeObsoleteProposals now).sendProposals :=
          (onMainThread_removeObsoleteProposals manager now).trans (onMainThread_sendProposals _)
        have sent := finished.undisturbed undisturbed complete
        exact ⟨sent.noAssertFails, sent.updating, fun _ => finished.currentUpdate.trans complete⟩
      · unfold LFGMgr.updateFinish
        rw [if_neg (by decide), if_pos complete]
        exact undisturbed

/-! ## Whole runs -/

theorem Undisturbed.step (undisturbed : manager.Undisturbed) (event : UpdateEvent)
    (nothingDue : manager.NothingDue event) : (manager.step event).Undisturbed := by
  cases event with
  | main operation =>
      unfold LFGMgr.step
      dsimp only
      split_ifs with started
      · exact undisturbed
      · exact (onMainThread_operate manager operation).undisturbed undisturbed
          (undisturbed.complete (Bool.eq_false_iff.mpr started))
  | updateStart now =>
      unfold LFGMgr.step
      dsimp only
      split_ifs with started
      · exact undisturbed
      · exact undisturbed.updateStart now
          (undisturbed.complete (Bool.eq_false_iff.mpr started))
  | updateQueue now hasIgnore random => exact undisturbed.updateQueue nothingDue
  | updateFinish now isOptionEnabled =>
      unfold LFGMgr.step
      dsimp only
      split_ifs with started
      · exact undisturbed.updateFinish started nothingDue
      · exact undisturbed

section ComeDue

end ComeDue

end LFGMgr

end RealmServer.DungeonFinding
