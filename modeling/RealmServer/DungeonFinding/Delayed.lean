import RealmServer.Lib.Transition
import RealmServer.DungeonFinding.Queue

/-!
# Delayed dungeons

A dungeon whose time has not come is kept in `timedDungeonEntries`, and a
search adds it to the data of its premade once it has.  The entries are ordered
by their time alone: of two entries for one time only the first is kept.
-/

namespace RealmServer.DungeonFinding

open Transition

/-- The queue, and how each premade was last added to it. -/
structure DelayedQueue where
  queue : LFGQueue
  added : ObjectGuid → Option (Int × TimedDungeonSet)

namespace DelayedQueue

def empty : DelayedQueue where
  queue := .empty
  added := fun _ => none

def step (state : DelayedQueue) (event : LFGQueueEvent) : DelayedQueue where
  queue := state.queue.step event
  added :=
    match event with
    | .addNewToQueue _ guid joinTime dungeonTimes _ _ =>
        Function.update state.added guid (some (joinTime, dungeonTimes))
    | _ => state.added

/-- A property of the map of a premade which still has the join time it was added with. -/
def ForAdded (state : DelayedQueue)
    (property : ObjectGuid → Int → QueueData → Nat × Int → Prop) : Prop :=
  ∀ guid joinTime dungeonTimes data,
    state.added guid = some (joinTime, dungeonTimes) →
      state.queue.queueDataStore guid = some data → data.joinTime = joinTime →
        ∀ timed ∈ dungeonTimes, property guid joinTime data timed

/-- Every dungeon whose time has come is there. -/
def Activated (now : Int) (state : DelayedQueue) : Prop :=
  state.ForAdded fun _ _ data timed => timed.2 ≤ now → timed.1 ∈ data.dungeons

/-- A search leaves no dungeon out. -/
def ActivatesAll (state : DelayedQueue) : LFGQueueEvent → Prop
  | .findGroups surroundings => Activated surroundings.now (state.step (.findGroups surroundings))
  | _ => True

/-- The dungeon is there or waits for its time. -/
def Pending (entries : List DelayedDungeonEntry) (guid : ObjectGuid) (joinTime : Int)
    (data : QueueData) (timed : Nat × Int) : Prop :=
  timed.1 ∈ data.dungeons ∨ delayedDungeonEntry guid joinTime timed ∈ entries

/--
No other entry has the place of a delayed one, and archived data which comes
back has not missed a time.
-/
def LosesNoEntry (state : DelayedQueue) : LFGQueueEvent → Prop
  | .addNewToQueue now guid joinTime dungeonTimes _ _ =>
      ∀ timed ∈ dungeonTimes, now < timed.2 →
        (∀ other ∈ state.queue.timedDungeonEntries, other.timeToAdd = timed.2 →
          other = delayedDungeonEntry guid joinTime timed) ∧
        ∀ other ∈ dungeonTimes, other.2 = timed.2 → other = timed
  | .addOldToQueue guid =>
      state.queue.queueDataStore guid = none →
        ∀ data joinTime dungeonTimes,
          state.queue.queueDataCellar guid = some data →
            state.added guid = some (joinTime, dungeonTimes) → data.joinTime = joinTime →
              ∀ timed ∈ dungeonTimes,
                Pending state.queue.timedDungeonEntries guid joinTime data timed
  | _ => True

/-- Entries are in the order of their times, and nothing which was added is lost. -/
structure Kept (state : DelayedQueue) (entries : List DelayedDungeonEntry) : Prop where
  sorted : entries.Pairwise DelayedDungeonEntry.Before
  pending : state.ForAdded (Pending entries)

/-! ## Adding -/

theorem before_trans (first second third : DelayedDungeonEntry) :
    first.Before second → second.Before third → first.Before third :=
  Int.lt_trans

theorem mem_foldl_insert {guid : ObjectGuid} {joinTime : Int} {delayed : List (Nat × Int)}
    {entries : List DelayedDungeonEntry} {entry : DelayedDungeonEntry}
    (member : entry ∈ entries) :
    entry ∈ delayed.foldl (fun entries timed =>
      OrderedSet.insert DelayedDungeonEntry.Before (delayedDungeonEntry guid joinTime timed)
        entries) entries := by
  induction delayed generalizing entries with
  | nil => exact member
  | cons timed rest induction => exact induction (OrderedSet.mem_insert_of_mem member)

theorem foldl_insert_sorted {guid : ObjectGuid} {joinTime : Int} (delayed : List (Nat × Int))
    {entries : List DelayedDungeonEntry}
    (sorted : entries.Pairwise DelayedDungeonEntry.Before) :
    (delayed.foldl (fun entries timed =>
      OrderedSet.insert DelayedDungeonEntry.Before (delayedDungeonEntry guid joinTime timed)
        entries) entries).Pairwise DelayedDungeonEntry.Before := by
  induction delayed generalizing entries with
  | nil => exact sorted
  | cons timed rest induction =>
      apply induction
      exact OrderedSet.insert_sorted before_trans _ sorted

/-- Every delayed dungeon is inserted where nothing else has its time. -/
theorem foldl_insert_complete {guid : ObjectGuid} {joinTime : Int}
    {delayed : List (Nat × Int)} {entries : List DelayedDungeonEntry}
    (place : ∀ timed ∈ delayed, ∀ other ∈ entries, other.timeToAdd = timed.2 →
      other = delayedDungeonEntry guid joinTime timed)
    (apart : ∀ timed ∈ delayed, ∀ other ∈ delayed, other.2 = timed.2 → other = timed) :
    ∀ timed ∈ delayed, delayedDungeonEntry guid joinTime timed ∈
      delayed.foldl (fun entries timed =>
        OrderedSet.insert DelayedDungeonEntry.Before (delayedDungeonEntry guid joinTime timed)
          entries) entries := by
  induction delayed generalizing entries with
  | nil => nofun
  | cons first rest induction =>
      intro timed member
      rw [List.foldl_cons]
      rcases List.mem_cons.mp member with rfl | later
      · apply mem_foldl_insert
        apply OrderedSet.mem_insert_self
        intro other present same
        apply place timed List.mem_cons_self other present
        exact Int.le_antisymm (Int.not_lt.mp same.1) (Int.not_lt.mp same.2)
      · apply induction _ _ timed later
        · intro timed later other present sameTime
          rcases OrderedSet.eq_or_mem_of_mem_insert present with rfl | present
          · have same := apart timed (List.mem_cons_of_mem _ later) first List.mem_cons_self
              sameTime
            rw [same]
          · exact place timed (List.mem_cons_of_mem _ later) other present sameTime
        · intro timed later other otherLater
          exact apart timed (List.mem_cons_of_mem _ later) other
            (List.mem_cons_of_mem _ otherLater)

theorem addNewToQueue_queueDataStore (queue : LFGQueue) (now : Int) (guid : ObjectGuid)
    (joinTime : Int) (dungeonTimes : TimedDungeonSet) (roles : LfgRolesMap)
    (isLfgGroup : Bool) :
    (queue.addNewToQueue now guid joinTime dungeonTimes roles isLfgGroup).queueDataStore =
      Function.update queue.queueDataStore guid
        (some
          { joinTime
            dungeons := ((dungeonTimes.filter (·.2 ≤ now)).map Prod.fst).toFinset
            roles
            isLfgGroup }) := by
  unfold LFGQueue.addNewToQueue
  dsimp only
  rw [LFGQueue.insertNewToQueue_queueDataStore]
  rfl

theorem addNewToQueue_timedDungeonEntries (queue : LFGQueue) (now : Int) (guid : ObjectGuid)
    (joinTime : Int) (dungeonTimes : TimedDungeonSet) (roles : LfgRolesMap)
    (isLfgGroup : Bool) :
    (queue.addNewToQueue now guid joinTime dungeonTimes roles isLfgGroup).timedDungeonEntries =
      (dungeonTimes.filter (now < ·.2)).foldl (fun entries timed =>
        OrderedSet.insert DelayedDungeonEntry.Before (delayedDungeonEntry guid joinTime timed)
          entries) queue.timedDungeonEntries := by
  unfold LFGQueue.addNewToQueue
  dsimp only
  rw [LFGQueue.insertNewToQueue_timedDungeonEntries]
  rfl

variable {state : DelayedQueue}

theorem Kept.addNewToQueue (kept : state.Kept state.queue.timedDungeonEntries)
    {now : Int} {guid : ObjectGuid} {joinTime : Int} {dungeonTimes : TimedDungeonSet}
    {roles : LfgRolesMap} {isLfgGroup : Bool}
    (loses : state.LosesNoEntry
      (.addNewToQueue now guid joinTime dungeonTimes roles isLfgGroup)) :
    Kept (state.step (.addNewToQueue now guid joinTime dungeonTimes roles isLfgGroup))
      (state.queue.addNewToQueue now guid joinTime dungeonTimes roles
        isLfgGroup).timedDungeonEntries := by
  rw [addNewToQueue_timedDungeonEntries]
  constructor
  · exact foldl_insert_sorted _ kept.sorted
  · intro other otherTime otherDungeons data isAdded stored sameTime timed member
    change Function.update state.added guid _ other = _ at isAdded
    change (state.queue.addNewToQueue now guid joinTime dungeonTimes roles
      isLfgGroup).queueDataStore other = _ at stored
    rw [addNewToQueue_queueDataStore] at stored
    by_cases isOther : other = guid
    · subst isOther
      rw [Function.update_self] at isAdded stored
      cases isAdded
      cases stored
      by_cases isLater : now < timed.2
      · apply Or.inr
        apply foldl_insert_complete
        · intro delayed isDelayed
          have filtered := List.mem_filter.mp isDelayed
          exact (loses delayed filtered.1 (by simpa using filtered.2)).1
        · intro delayed isDelayed another isAnother
          have filtered := List.mem_filter.mp isDelayed
          exact (loses delayed filtered.1 (by simpa using filtered.2)).2 another
            (List.mem_filter.mp isAnother).1
        · exact List.mem_filter.mpr ⟨member, by simpa using isLater⟩
      · apply Or.inl
        rw [List.mem_toFinset]
        apply List.mem_map_of_mem
        exact List.mem_filter.mpr ⟨member, by simpa using Int.not_lt.mp isLater⟩
    · rw [Function.update_of_ne isOther] at isAdded stored
      rcases kept.pending other otherTime otherDungeons data isAdded stored sameTime timed
        member with present | waits
      · exact .inl present
      · exact .inr (mem_foldl_insert waits)

theorem Kept.addOldToQueue (kept : state.Kept state.queue.timedDungeonEntries)
    {guid : ObjectGuid} (loses : state.LosesNoEntry (.addOldToQueue guid)) :
    Kept (state.step (.addOldToQueue guid))
      (state.queue.addOldToQueue guid).timedDungeonEntries := by
  rw [LFGQueue.addOldToQueue_timedDungeonEntries]
  constructor
  · exact kept.sorted
  · intro other joinTime dungeonTimes data isAdded stored sameTime timed member
    change state.added other = _ at isAdded
    change (state.queue.addOldToQueue guid).queueDataStore other = _ at stored
    rw [LFGQueue.addOldToQueue_queueDataStore] at stored
    by_cases isOther : other = guid
    · subst isOther
      rw [Function.update_self] at stored
      cases wasStored : state.queue.queueDataStore other with
      | some old =>
          rw [wasStored, Option.some_or] at stored
          cases stored
          exact kept.pending other joinTime dungeonTimes data isAdded wasStored sameTime timed
            member
      | none =>
          rw [wasStored, Option.none_or] at stored
          exact loses wasStored data joinTime dungeonTimes stored isAdded sameTime timed member
    · rw [Function.update_of_ne isOther] at stored
      exact kept.pending other joinTime dungeonTimes data isAdded stored sameTime timed member

theorem Kept.removeFromSystem (kept : state.Kept state.queue.timedDungeonEntries)
    (guid : ObjectGuid) :
    Kept (state.step (.removeFromSystem guid))
      (state.queue.removeFromSystem guid).timedDungeonEntries := by
  rw [LFGQueue.removeFromSystem_timedDungeonEntries]
  constructor
  · exact kept.sorted
  · intro other joinTime dungeonTimes data isAdded stored sameTime timed member
    change (state.queue.removeFromSystem guid).queueDataStore other = _ at stored
    rw [LFGQueue.removeFromSystem_queueDataStore] at stored
    by_cases isOther : other = guid
    · subst isOther
      rw [Function.update_self] at stored
      cases stored
    · rw [Function.update_of_ne isOther] at stored
      exact kept.pending other joinTime dungeonTimes data isAdded stored sameTime timed member

/-! ## The search -/

/-- What the first entry was kept for is in the data now. -/
theorem Kept.addTimedDungeon {entry : DelayedDungeonEntry} {rest : List DelayedDungeonEntry}
    (kept : state.Kept (entry :: rest)) :
    Kept { state with queue := state.queue.addTimedDungeon entry } rest := by
  constructor
  · exact (List.pairwise_cons.mp kept.sorted).2
  · intro guid joinTime dungeonTimes data isAdded stored sameTime timed member
    change (state.queue.addTimedDungeon entry).queueDataStore guid = _ at stored
    rw [LFGQueue.addTimedDungeon_queueDataStore] at stored
    by_cases isPremade : guid = entry.premade
    · subst isPremade
      rw [Function.update_self] at stored
      obtain ⟨old, wasStored, same⟩ := Option.map_eq_some_iff.mp stored
      have oldTime : old.joinTime = joinTime := by
        rw [← sameTime, ← same]
        split_ifs
        · rfl
        · rfl
      have grows : ∀ dungeon ∈ old.dungeons, dungeon ∈ data.dungeons := by
        intro dungeon present
        rw [← same]
        split_ifs
        · exact Finset.mem_insert_of_mem present
        · exact present
      rcases kept.pending entry.premade joinTime dungeonTimes old isAdded wasStored oldTime
        timed member with present | waits
      · exact .inl (grows timed.1 present)
      · rcases List.mem_cons.mp waits with isEntry | later
        · apply Or.inl
          have matching : old.joinTime = entry.joinTime := by
            rw [oldTime, ← isEntry]
            rfl
          rw [← same, if_pos matching, ← isEntry]
          exact Finset.mem_insert_self _ _
        · exact .inr later
    · rw [Function.update_of_ne isPremade] at stored
      rcases kept.pending guid joinTime dungeonTimes data isAdded stored sameTime timed
        member with present | waits
      · exact .inl present
      · rcases List.mem_cons.mp waits with isEntry | later
        · exact absurd (congrArg DelayedDungeonEntry.premade isEntry) isPremade
        · exact .inr later

/-- The loop stops at an entry whose time has not come, and so have none of the later ones. -/
theorem Kept.addTimedDungeons {entries : List DelayedDungeonEntry}
    (kept : state.Kept entries) (now : Int) :
    let queue := LFGQueue.addTimedDungeons now entries state.queue
    Kept { state with queue } queue.timedDungeonEntries ∧
      ∀ entry ∈ queue.timedDungeonEntries, now < entry.timeToAdd := by
  induction entries generalizing state with
  | nil => exact ⟨⟨.nil, kept.pending⟩, nofun⟩
  | cons entry rest induction =>
      unfold LFGQueue.addTimedDungeons
      split_ifs with due
      · exact induction kept.addTimedDungeon
      · refine ⟨⟨kept.sorted, kept.pending⟩, ?_⟩
        have first : now < entry.timeToAdd := Int.not_le.mp due
        intro other member
        rcases List.mem_cons.mp member with rfl | later
        · exact first
        · exact Int.lt_trans first ((List.pairwise_cons.mp kept.sorted).1 other later)

theorem Kept.findGroups (kept : state.Kept state.queue.timedDungeonEntries)
    (surroundings : Surroundings) :
    Kept (state.step (.findGroups surroundings))
        (state.queue.findGroups surroundings).1.timedDungeonEntries ∧
      ∀ entry ∈ (state.queue.findGroups surroundings).1.timedDungeonEntries,
        surroundings.now < entry.timeToAdd := by
  have added := kept.addTimedDungeons surroundings.now
  rw [LFGQueue.findGroups_timedDungeonEntries]
  refine ⟨⟨added.1.sorted, ?_⟩, added.2⟩
  intro guid joinTime dungeonTimes data isAdded stored
  change (state.queue.findGroups surroundings).1.queueDataStore guid = _ at stored
  rw [LFGQueue.findGroups_queueDataStore] at stored
  exact added.1.pending guid joinTime dungeonTimes data isAdded stored

/-! ## Whole runs -/

theorem Kept.step (kept : state.Kept state.queue.timedDungeonEntries) (event : LFGQueueEvent)
    (loses : state.LosesNoEntry event) :
    Kept (state.step event) (state.step event).queue.timedDungeonEntries := by
  cases event with
  | addNewToQueue now guid joinTime dungeonTimes roles isLfgGroup =>
      exact kept.addNewToQueue loses
  | addOldToQueue guid => exact kept.addOldToQueue loses
  | removeFromSystem guid => exact kept.removeFromSystem guid
  | findGroups surroundings => exact (kept.findGroups surroundings).1

theorem Kept.activatesAll (kept : state.Kept state.queue.timedDungeonEntries)
    (event : LFGQueueEvent) : state.ActivatesAll event := by
  cases event with
  | addNewToQueue now guid joinTime dungeonTimes roles isLfgGroup => trivial
  | addOldToQueue guid => trivial
  | removeFromSystem guid => trivial
  | findGroups surroundings =>
      obtain ⟨after, waiting⟩ := kept.findGroups surroundings
      intro guid joinTime dungeonTimes data isAdded stored sameTime timed member due
      rcases after.pending guid joinTime dungeonTimes data isAdded stored sameTime timed
        member with present | waits
      · exact present
      · exact absurd due (Int.not_le.mpr (waiting _ waits))

/-- Where no entry is lost, every search activates every dungeon whose time has come. -/
theorem activatesAll_run (events : List LFGQueueEvent)
    (loses : EveryStep step LosesNoEntry empty events) :
    EveryStep step ActivatesAll empty events := by
  have initial : Kept empty empty.queue.timedDungeonEntries := ⟨.nil, nofun⟩
  exact everyStep_of_invariant (fun _ event kept loses => Kept.step kept event loses)
    (fun _ event kept _ => kept.activatesAll event) initial loses

section SameTime

/-- A search at a time in which nothing else matters. -/
def quietSearch (now : Int) : Surroundings where
  now := now
  hasIgnore := fun _ _ => false
  getGroup := fun _ => none
  oldStateIsDungeon := fun _ => false
  random := fun _ => (0, 0, 0)

/-- A damage dealer joins alone. -/
def joins (dungeonTimes : TimedDungeonSet) : LFGQueueEvent :=
  .addNewToQueue 5 (.player 1) 5 dungeonTimes
    { players := [(.player 1, 8)], sorted := List.pairwise_singleton _ _ } false

/-- Dungeons 20 and 21 are as far from his level as each other. -/
theorem sameTime_loses :
    ¬EveryStep step ActivatesAll empty
      [joins [(10, 0), (20, 35), (21, 35)], .findGroups (quietSearch 40)] := by
  rintro ⟨_, activated, _⟩
  have stored :
      ((((empty.step (joins [(10, 0), (20, 35), (21, 35)])).step
        (.findGroups (quietSearch 40))).queue.queueDataStore (.player 1)).map
          QueueData.dungeons) = some {20, 10} := by
    decide
  obtain ⟨data, found, dungeons⟩ := Option.map_eq_some_iff.mp stored
  have joinTime :
      ((((empty.step (joins [(10, 0), (20, 35), (21, 35)])).step
        (.findGroups (quietSearch 40))).queue.queueDataStore (.player 1)).map
          QueueData.joinTime) = some 5 := by
    decide
  rw [found] at joinTime
  have present := activated (.player 1) 5 [(10, 0), (20, 35), (21, 35)] data rfl found
    (Option.some.inj joinTime) (21, 35) (by decide) (by decide)
  rw [dungeons] at present
  exact absurd present (by decide)

theorem otherTimes_activates :
    EveryStep step ActivatesAll empty
      [joins [(10, 0), (20, 35), (21, 65)], .findGroups (quietSearch 40),
        .findGroups (quietSearch 70)] := by
  apply activatesAll_run
  refine ⟨?_, trivial, trivial, trivial⟩
  intro timed member later
  constructor
  · nofun
  · revert timed
    decide

end SameTime

end DelayedQueue

end RealmServer.DungeonFinding
