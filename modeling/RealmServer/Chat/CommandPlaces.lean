import RealmServer.Chat.CommandTree

/-!
# Places in the command tree

While no destroyed command is used, the forest after some commands is known from
those commands alone: who has a place is owned by the parent, and what hangs
below a command which lost its place is destroyed.  So whether the tree comes out
exact can be read off the table and the order.
-/

namespace RealmServer.Chat

open Ownership Recursion

/-- A sibling of the same name. -/
def Command.isRival (command other : Command) : Bool :=
  other.parentId = command.parentId && isIequal other.name command.name

theorem Command.isRival_iff (command : Command) {other : Command} :
    command.isRival other = true ↔
      other.parentId = command.parentId ∧ isIequal other.name command.name = true := by
  unfold Command.isRival
  rw [Bool.and_eq_true, decide_eq_true_iff]

namespace Loading

variable {loading : Loading}

/-! ## The table -/

theorem commandStorage_ids_nodup (loading : Loading) :
    (loading.commandStorage.map Command.id).Nodup := by
  rw [(loading.created.map Command.id).nodup_iff]
  refine List.Nodup.sublist ?_ loading.ids_nodup
  rw [List.map_filterMap]
  induction loading.rows with
  | nil => exact .slnil
  | cons row later induction =>
      rw [List.map_cons, List.filterMap_cons]
      cases loading.createCommand row with
      | none => exact induction.cons row.id
      | some kind => exact induction.cons_cons row.id

theorem eq_of_id {first second : Command} (firstMember : first ∈ loading.commandStorage)
    (secondMember : second ∈ loading.commandStorage) (same : first.id = second.id) :
    first = second :=
  List.inj_on_of_nodup_map loading.commandStorage_ids_nodup firstMember secondMember same

theorem commandStorage_nodup (loading : Loading) : loading.commandStorage.Nodup :=
  List.Nodup.of_map Command.id loading.commandStorage_ids_nodup

theorem row_of_mem {command : Command} (member : command ∈ loading.commandStorage) :
    ∃ row ∈ loading.rows, row.id = command.id := by
  obtain ⟨row, rowMember, isCreated⟩ := List.mem_filterMap.mp (loading.created.mem_iff.mp member)
  obtain ⟨kind, _, isCommand⟩ := Option.map_eq_some_iff.mp isCreated
  exact ⟨row, rowMember, congrArg Command.id isCommand⟩

theorem id_ne_zero {command : Command} (member : command ∈ loading.commandStorage) :
    command.id ≠ 0 := by
  obtain ⟨row, rowMember, same⟩ := row_of_mem member
  exact same ▸ loading.ids_ne_zero row rowMember

/-! ## The order -/

variable {done later : List Command} {command : Command}

theorem notMem_of_split (split : loading.commandStorage = done ++ command :: later) :
    command ∉ done := by
  have nodup := loading.commandStorage_nodup
  rw [split, List.nodup_append] at nodup
  exact fun member => nodup.2.2 command member command List.mem_cons_self rfl

theorem before_iff (split : loading.commandStorage = done ++ command :: later) (other : Command) :
    loading.Before other command ↔ other ∈ done := by
  refine ⟨fun ⟨before, after, otherSplit, member⟩ => ?_, fun member => ⟨done, later, split, member⟩⟩
  rw [otherSplit, List.append_eq_append_iff] at split
  rcases split with ⟨between, isDone, _⟩ | ⟨between, isBefore, isLater⟩
  · rw [isDone]
    exact List.mem_append_left between member
  · cases between with
    | nil =>
        rw [List.append_nil] at isBefore
        exact isBefore ▸ member
    | cons next between =>
        have isNext : command = next := (List.cons.inj isLater).1
        have inBefore : command ∈ before := by
          rw [isBefore, isNext]
          exact List.mem_append_right done List.mem_cons_self
        exact absurd inBefore (notMem_of_split otherSplit)

theorem usable_congr {first second : Command} (same : first.parentId = second.parentId) :
    loading.Usable first ↔ loading.Usable second := by
  unfold Usable
  rw [same]

theorem isIequal_trans {first second third : String} (left : isIequal first second = true)
    (right : isIequal second third = true) : isIequal first third = true :=
  decide_eq_true ((of_decide_eq_true left).trans (of_decide_eq_true right))

/-- Who loses does so against a sibling which has the place. -/
theorem loses_iff (split : loading.commandStorage = done ++ command :: later)
    (usable : loading.Usable command) :
    loading.Loses command ↔ ∃ sibling ∈ done, loading.Placed sibling ∧
      sibling.parentId = command.parentId ∧ isIequal sibling.name command.name = true := by
  constructor
  · rintro ⟨_, sibling, before, sameParent, sameName⟩
    rw [before_iff split] at before
    -- the first of the rivals has lost to nobody
    cases found : done.find? command.isRival with
    | none =>
        have isRival := command.isRival_iff.mpr ⟨sameParent, sameName⟩
        exact absurd isRival (List.find?_eq_none.mp found sibling before)
    | some first =>
        obtain ⟨firstIsRival, earlier, between, isDone, noRival⟩ :=
          List.find?_eq_some_iff_append.mp found
        rw [command.isRival_iff] at firstIsRival
        have firstSplit : loading.commandStorage =
            earlier ++ first :: (between ++ command :: later) := by
          rw [split, isDone, List.append_assoc, List.cons_append]
        have firstUsable := (usable_congr firstIsRival.1).mpr usable
        refine ⟨first, List.mem_of_find?_eq_some found, ⟨firstUsable, ?_⟩, firstIsRival⟩
        rintro ⟨_, other, otherBefore, otherParent, otherName⟩
        rw [before_iff firstSplit] at otherBefore
        have otherIsRival := command.isRival_iff.mpr
          ⟨otherParent.trans firstIsRival.1, isIequal_trans otherName firstIsRival.2⟩
        have isNoRival := noRival other otherBefore
        rw [otherIsRival] at isNoRival
        exact Bool.false_ne_true isNoRival
  · rintro ⟨sibling, before, _, sameParent, sameName⟩
    exact ⟨usable, sibling, (before_iff split sibling).mpr before, sameParent, sameName⟩

/-! ## Owners -/

/-- What is owned after some of the commands. -/
def OwnsAt (loading : Loading) (done : List Command) (owner id : Nat) : Prop :=
  ∃ command ∈ done, command.id = id ∧ command.parentId = owner ∧ loading.Placed command

/-- What is destroyed while the tree is built. -/
def DestroyedAt (loading : Loading) (done : List Command) (id : Nat) : Prop :=
  ∃ loser ∈ done, loading.Loses loser ∧ Reaches (loading.OwnsAt done) loser.id id

theorem OwnsAt.unique (within : ∀ command ∈ done, command ∈ loading.commandStorage) :
    Unique (loading.OwnsAt done) := by
  rintro first second id ⟨command, member, isId, isFirst, _⟩
    ⟨other, otherMember, sameId, isSecond, _⟩
  have same := eq_of_id (within command member) (within other otherMember) (isId.trans sameId.symm)
  rw [← isFirst, ← isSecond, same]

theorem root_zero (within : ∀ command ∈ done, command ∈ loading.commandStorage) :
    Root (loading.OwnsAt done) 0 := by
  rintro owner ⟨command, member, isZero, _⟩
  exact id_ne_zero (within command member) isZero

/-- Who is not placed has no owner, and neither has who did not come yet. -/
theorem root_of_not_placed (within : ∀ command ∈ done, command ∈ loading.commandStorage)
    (member : command ∈ loading.commandStorage)
    (notPlaced : command ∈ done → ¬ loading.Placed command) :
    Root (loading.OwnsAt done) command.id := by
  rintro owner ⟨other, otherMember, sameId, _, placed⟩
  have same := eq_of_id (within other otherMember) member sameId
  subst same
  exact notPlaced otherMember placed

theorem OwnsAt.mono {more : List Command} (within : ∀ command ∈ done, command ∈ more)
    {owner id : Nat} (owns : loading.OwnsAt done owner id) : loading.OwnsAt more owner id := by
  obtain ⟨command, member, rest⟩ := owns
  exact ⟨command, within command member, rest⟩

/-! ## Reading the order -/

/-- No parent is destroyed before its command comes. -/
def NeverStray (loading : Loading) : Prop :=
  ∀ done command later, loading.commandStorage = done ++ command :: later →
    ¬ loading.DestroyedAt done command.parentId

theorem neverStray_of_losersLast (last : loading.LosersLast) : loading.NeverStray := by
  rintro done command later split ⟨loser, member, loses, reaches⟩
  have within : ∀ other ∈ done, other ∈ loading.commandStorage := by
    intro other otherMember
    rw [split]
    exact List.mem_append_left _ otherMember
  have below : ∀ owner id, loading.OwnsAt done owner id → loading.Below owner id := by
    rintro owner id ⟨other, otherMember, isId, isOwner, placed⟩
    exact ⟨other, within other otherMember, isId, isOwner, placed.1⟩
  have inStorage : command ∈ loading.commandStorage := by
    rw [split]
    exact List.mem_append_right done List.mem_cons_self
  have hangsBelow := Relation.ReflTransGen.mono below _ _ reaches
  exact last loser (within loser member) loses command.parentId hangsBelow command inStorage rfl
    ((before_iff split loser).mpr member)

/-- What could hang below a loser came before it, and is destroyed with it. -/
theorem NeverStray.destroyedAt (never : loading.NeverStray) {loser : Command}
    (loses : loading.Loses loser) {id : Nat}
    (below : Relation.ReflTransGen loading.Below loser.id id) {done later : List Command}
    (split : loading.commandStorage = done ++ later) (member : loser ∈ done) :
    loading.DestroyedAt done id := by
  induction below generalizing done later with
  | refl => exact ⟨loser, member, loses, .refl⟩
  | tail _ isBelow induction =>
      obtain ⟨command, inStorage, isId, isOwner, usable⟩ := isBelow
      subst isId isOwner
      rw [split, List.mem_append] at inStorage
      rcases inStorage with isDone | isLater
      · obtain ⟨other, otherMember, otherLoses, reaches⟩ := induction split member
        by_cases commandLoses : loading.Loses command
        · exact ⟨command, isDone, commandLoses, .refl⟩
        · have owns : loading.OwnsAt done command.parentId command.id :=
            ⟨command, isDone, rfl, rfl, usable, commandLoses⟩
          exact ⟨other, otherMember, otherLoses, reaches.tail owns⟩
      · obtain ⟨before, after, isSplit⟩ := List.append_of_mem isLater
        rw [isSplit, ← List.append_assoc] at split
        have stray := induction split (List.mem_append_left before member)
        exact absurd stray (never _ command after split)

theorem neverStray_iff (loading : Loading) : loading.NeverStray ↔ loading.LosersLast := by
  refine ⟨fun never => ?_, neverStray_of_losersLast⟩
  rintro loser _ loses parent below command _ isParent ⟨done, later, split, member⟩
  subst isParent
  exact never done command later split (never.destroyedAt loses below split member)

end Loading

end RealmServer.Chat
