import RealmServer.DungeonFinding.Arrangements

/-!
# The roles of a group

`CheckGroupRoles` takes roles away from players who have selected several, one at
a time, and starts again with what is left.  A branch which fails puts the role
back.  In the end everybody has one role, if there are roles for everybody; the
number of players is compared as a `uint8`.
-/

namespace RealmServer.DungeonFinding

/-- The entries of `groles`, in the order of the guids. -/
abbrev Roles := List (ObjectGuid × UInt8)

/-! ## The search -/

/-- What a part of a round of the loop does. -/
inductive Round where
  | returns (result : Bool) (groles : Roles)
  | goesOn (counts : LfgRole → Nat) (groles : Roles)

/-- `it->second -= role` -/
def subtractRole (groles : Roles) (index : Nat) (role : LfgRole) : Roles :=
  groles.modify index fun entry => (entry.1, entry.2 - role.bit)

/-- `it->second += role` -/
def addRole (groles : Roles) (index : Nat) (role : LfgRole) : Roles :=
  groles.modify index fun entry => (entry.1, entry.2 + role.bit)

/-- What is done about one role; `selected` are the roles as they were when the round began. -/
def checkRole (recurse : Roles → Option (Bool × Roles)) (index : Nat) (selected : UInt8)
    (role : LfgRole) (counts : LfgRole → Nat) (groles : Roles) : Option Round :=
  if selected &&& role.bit = 0 then some (.goesOn counts groles)
  else if selected ≠ role.bit then
    match recurse (subtractRole groles index role) with
    | none => none
    | some (true, after) => some (.returns true after)
    | some (false, after) => some (.goesOn counts (addRole after index role))
  else if counts role = neededAllRoles role then some (.returns false groles)
  else some (.goesOn (Function.update counts role (counts role + 1)) groles)

/-- The same for one role after the other. -/
def checkEach (recurse : Roles → Option (Bool × Roles)) (index : Nat) (selected : UInt8) :
    List LfgRole → (LfgRole → Nat) → Roles → Option Round
  | [], counts, groles => some (.goesOn counts groles)
  | role :: roles, counts, groles =>
      match checkRole recurse index selected role counts groles with
      | some (.goesOn counts groles) => checkEach recurse index selected roles counts groles
      | ends => ends

/-- A round of the loop. -/
def checkPlayer (recurse : Roles → Option (Bool × Roles)) (index : Nat) (counts : LfgRole → Nat)
    (groles : Roles) (entry : ObjectGuid × UInt8) : Option Round :=
  let selected := entry.2 &&& ~~~playerRoleLeader
  if selected = 0 then some (.returns false groles)
  else checkEach recurse index selected [.damage, .healer, .tank] counts groles

/-- The loop, for so many more players. -/
def checkPlayers (recurse : Roles → Option (Bool × Roles)) :
    Nat → (LfgRole → Nat) → Roles → Option (Bool × Roles)
  | 0, counts, groles =>
      some (decide (counts .tank + counts .healer + counts .damage = groles.length % 256), groles)
  | left + 1, counts, groles =>
      match groles[groles.length - (left + 1)]? with
      | none => none
      | some entry =>
          match checkPlayer recurse (groles.length - (left + 1)) counts groles entry with
          | none => none
          | some (.returns result after) => some (result, after)
          | some (.goesOn counts after) => checkPlayers recurse left counts after

/-- `CheckGroupRoles`, for a bounded depth of the recursion. -/
def checkGroupRolesWithin : Nat → Roles → Option (Bool × Roles)
  | 0, _ => none
  | depth + 1, groles =>
      if groles = [] then some (false, groles)
      else checkPlayers (checkGroupRolesWithin depth) groles.length (fun _ => 0) groles

/-- Each call takes a role away. -/
def weight (groles : Roles) : Nat := (groles.map fun entry => entry.2.toNat).sum

/-- The result, and the map which is left. -/
def checkGroupRoles (groles : Roles) : Option (Bool × Roles) :=
  checkGroupRolesWithin (weight groles + 1) groles

example : checkGroupRoles [(.player 1, 7), (.player 2, 2)] =
    some (true, [(.player 1, 5), (.player 2, 2)]) := by decide

/-! ## Taking roles away -/

/-- At least one role of a selection is left, and whether he leads has not changed. -/
structure Narrows (few many : UInt8) : Prop where
  leader : few &&& playerRoleLeader = many &&& playerRoleLeader
  roles : few &&& many = few
  some : few &&& ~~~playerRoleLeader ≠ 0

instance (few many : UInt8) : Decidable (Narrows few many) :=
  decidable_of_iff (few &&& playerRoleLeader = many &&& playerRoleLeader ∧ few &&& many = few ∧
    few &&& ~~~playerRoleLeader ≠ 0)
    ⟨fun holds => ⟨holds.1, holds.2.1, holds.2.2⟩, fun narrows =>
      ⟨narrows.leader, narrows.roles, narrows.some⟩⟩

/-- The role is the only one which is selected. -/
def IsSingle (role : LfgRole) (selected : UInt8) : Prop :=
  selected &&& ~~~playerRoleLeader = role.bit

instance (role : LfgRole) (selected : UInt8) : Decidable (IsSingle role selected) :=
  inferInstanceAs (Decidable (_ = _))

/-- What holds of all combinations of the four bits. -/
theorem forall_selection (property : UInt8 → Prop)
    (holds : ∀ number : Fin 16, property (UInt8.ofNat number)) {selected : UInt8}
    (small : selected < 16) : property selected := by
  have bound : selected.toNat < 16 := UInt8.lt_iff_toNat_lt.mp small
  have same : UInt8.ofNat selected.toNat = selected := UInt8.ofNat_toNat
  rw [← same]
  exact holds ⟨selected.toNat, bound⟩

variable {role : LfgRole} {few many selected : UInt8}

theorem Narrows.refl (some : selected &&& ~~~playerRoleLeader ≠ 0) : Narrows selected selected :=
  ⟨rfl, UInt8.and_self, some⟩

theorem Narrows.trans {fewest : UInt8} (first : Narrows fewest few) (second : Narrows few many) :
    Narrows fewest many where
  leader := first.leader.trans second.leader
  roles := by rw [← first.roles, UInt8.and_assoc, second.roles]
  some := first.some

theorem Narrows.small (narrows : Narrows few many) (small : many < 16) : few < 16 := by
  have below : (few &&& many).toNat ≤ many.toNat := by
    rw [UInt8.toNat_and]
    exact Nat.and_le_right
  rw [narrows.roles] at below
  exact UInt8.lt_iff_toNat_lt.mpr (below.trans_lt (UInt8.lt_iff_toNat_lt.mp small))

/-- A role which is not the only one can be taken away and put back. -/
theorem narrows_sub (small : selected < 16)
    (has : selected &&& ~~~playerRoleLeader &&& role.bit ≠ 0) (several : ¬ IsSingle role selected) :
    Narrows (selected - role.bit) selected ∧ selected - role.bit + role.bit = selected ∧
      (selected - role.bit).toNat < selected.toNat := by
  revert has several
  refine forall_selection (fun selected =>
    selected &&& ~~~playerRoleLeader &&& role.bit ≠ 0 → ¬ IsSingle role selected →
      Narrows (selected - role.bit) selected ∧ selected - role.bit + role.bit = selected ∧
        (selected - role.bit).toNat < selected.toNat) ?_ small
  cases role <;> decide

/-- The role is one of several, and can go. -/
def GoesWithout (role : LfgRole) (few many : UInt8) : Prop :=
  many &&& ~~~playerRoleLeader &&& role.bit ≠ 0 ∧ ¬ IsSingle role many ∧
    Narrows few (many - role.bit)

instance (role : LfgRole) (few many : UInt8) : Decidable (GoesWithout role few many) :=
  inferInstanceAs (Decidable (_ ∧ _ ∧ _))

/-- Less of several roles is left after one of them has been taken away. -/
theorem exists_goesWithout (small : many < 16) (narrows : Narrows few many)
    (differ : few ≠ many) : ∃ role, GoesWithout role few many := by
  have fewSmall := narrows.small small
  have finite : GoesWithout .tank few many ∨ GoesWithout .healer few many ∨
      GoesWithout .damage few many := by
    revert narrows differ
    refine forall_selection (fun many => Narrows few many → few ≠ many →
      GoesWithout .tank few many ∨ GoesWithout .healer few many ∨
        GoesWithout .damage few many) ?_ small
    refine forall_selection (fun few => ∀ number : Fin 16, Narrows few (UInt8.ofNat number) →
      few ≠ UInt8.ofNat number → GoesWithout .tank few (UInt8.ofNat number) ∨
        GoesWithout .healer few (UInt8.ofNat number) ∨
          GoesWithout .damage few (UInt8.ofNat number)) ?_ fewSmall
    decide
  rcases finite with tank | healer | damage
  · exact ⟨_, tank⟩
  · exact ⟨_, healer⟩
  · exact ⟨_, damage⟩

/-! ## What can be reached -/

/-- Every player has kept at least one of his roles. -/
def Reduces (fewer groles : Roles) : Prop :=
  List.Forall₂ (fun few many => few.1 = many.1 ∧ Narrows few.2 many.2) fewer groles

/-- How many players have one role, and which. -/
def singles (role : LfgRole) (groles : Roles) : Nat :=
  groles.countP fun entry => IsSingle role entry.2

/-- The loop goes through to its end, and the sum is right. -/
structure Fits (target : Nat) (groles : Roles) : Prop where
  counts : ∀ role, singles role groles ≤ neededAllRoles role
  sum : singles .tank groles + singles .healer groles + singles .damage groles = target

/-- The search can reach roles which fit. -/
def Reachable (groles : Roles) : Prop :=
  ∃ fewer, Reduces fewer groles ∧ Fits (groles.length % 256) fewer

/-- The search has found what there is, or nothing, and then everything is as it was. -/
def Decides (groles : Roles) (result : Option (Bool × Roles)) : Prop :=
  (∃ after, result = some (true, after) ∧ Reduces after groles ∧
    Fits (groles.length % 256) after) ∨
  (result = some (false, groles) ∧ ¬ Reachable groles)

theorem singles_append (role : LfgRole) (first second : Roles) :
    singles role (first ++ second) = singles role first + singles role second :=
  List.countP_append

theorem singles_cons (role : LfgRole) (entry : ObjectGuid × UInt8) (groles : Roles) :
    singles role (entry :: groles) =
      singles role groles + if IsSingle role entry.2 then 1 else 0 := by
  rw [singles, List.countP_cons]
  simp only [decide_eq_true_eq]
  rfl

theorem modify_length {Element : Type} (change : Element → Element) (before rest : List Element)
    (element : Element) :
    (before ++ element :: rest).modify before.length change = before ++ change element :: rest := by
  induction before with
  | nil => rfl
  | cons first before induction => exact congrArg (first :: ·) induction

theorem subtractRole_append (before rest : Roles) (entry : ObjectGuid × UInt8) (role : LfgRole) :
    subtractRole (before ++ entry :: rest) before.length role =
      before ++ (entry.1, entry.2 - role.bit) :: rest :=
  modify_length _ _ _ _

theorem addRole_append (before rest : Roles) (entry : ObjectGuid × UInt8) (role : LfgRole) :
    addRole (before ++ entry :: rest) before.length role =
      before ++ (entry.1, entry.2 + role.bit) :: rest :=
  modify_length _ _ _ _

/-- What is left of the players up to one of them. -/
theorem Reduces.split {fewer before rest : Roles} {entry : ObjectGuid × UInt8}
    (reduces : Reduces fewer (before ++ entry :: rest)) :
    ∃ first here later, fewer = first ++ here :: later ∧ Reduces first before ∧
      here.1 = entry.1 ∧ Narrows here.2 entry.2 ∧ Reduces later rest := by
  obtain ⟨first, others, rfl, isFirst, isLater⟩ := forall₂_append_left reduces.flip
  cases isLater with
  | cons here later => exact ⟨first, _, _, rfl, isFirst.flip, here.1, here.2, later.flip⟩

/-- A player whose other roles have all been tried is left as he is. -/
theorem Reduces.kept {fewer before rest : Roles} {entry : ObjectGuid × UInt8} {target : Nat}
    (reduces : Reduces fewer (before ++ entry :: rest)) (fits : Fits target fewer)
    (small : entry.2 < 16) (passed : before <+: fewer)
    (tried : ∀ role, entry.2 &&& ~~~playerRoleLeader &&& role.bit ≠ 0 → ¬ IsSingle role entry.2 →
      ¬ ∃ fewer, Reduces fewer (before ++ (entry.1, entry.2 - role.bit) :: rest) ∧
        Fits target fewer) : before ++ [entry] <+: fewer := by
  obtain ⟨first, here, later, rfl, isFirst, guid, narrows, isLater⟩ := reduces.split
  have same : first = before := by
    obtain ⟨behind, same⟩ := passed
    exact (List.append_inj same (List.Forall₂.length_eq isFirst).symm).1.symm
  have selection : here.2 = entry.2 := by
    by_contra differ
    obtain ⟨role, has, several, less⟩ := exists_goesWithout small narrows differ
    exact tried role has several ⟨_, List.rel_append isFirst (.cons ⟨guid, less⟩ isLater), fits⟩
  have whole : here = entry := Prod.ext guid selection
  rw [same, whole]
  exact ⟨later, by rw [List.append_assoc, List.singleton_append]⟩

/-! ## One player -/

/-- The loop has come to a player without a decision. -/
structure Passed (before rest : Roles) : Prop where
  counts : ∀ role, singles role before ≤ neededAllRoles role
  some : ∀ entry ∈ before, entry.2 &&& ~~~playerRoleLeader ≠ 0
  kept : ∀ fewer, Reduces fewer (before ++ rest) →
    Fits ((before ++ rest).length % 256) fewer → before <+: fewer

/-- A round decides. -/
def RoundDecides (groles : Roles) (result : Option Round) : Prop :=
  (∃ after, result = some (.returns true after) ∧ Reduces after groles ∧
    Fits (groles.length % 256) after) ∨
  (result = some (.returns false groles) ∧ ¬ Reachable groles)

/-- The roles which can be tried at a player do not lead anywhere. -/
def Tried (before rest : Roles) (entry : ObjectGuid × UInt8) (role : LfgRole) : Prop :=
  entry.2 &&& ~~~playerRoleLeader &&& role.bit ≠ 0 → ¬ IsSingle role entry.2 →
    ¬ Reachable (before ++ (entry.1, entry.2 - role.bit) :: rest)

theorem LfgRole.bit_ne_zero (role : LfgRole) : role.bit ≠ 0 := by
  cases role <;> decide

theorem weight_append (first second : Roles) :
    weight (first ++ second) = weight first + weight second := by
  rw [weight, List.map_append, List.sum_append]
  rfl

theorem weight_cons (entry : ObjectGuid × UInt8) (groles : Roles) :
    weight (entry :: groles) = entry.2.toNat + weight groles := rfl

section

variable {recurse : Roles → Option (Bool × Roles)} {before rest : Roles}
  {entry : ObjectGuid × UInt8} {counts : LfgRole → Nat}

/-- The calls with fewer roles decide. -/
def DecidesBelow (recurse : Roles → Option (Bool × Roles)) (groles : Roles) : Prop :=
  ∀ fewer : Roles, fewer.length = groles.length → (∀ entry ∈ fewer, entry.2 < 16) →
    weight fewer < weight groles → Decides fewer (recurse fewer)

/-- A role of which no more players are needed cannot be the only one of another player. -/
theorem not_reachable_of_full (passed : Passed before (entry :: rest)) (small : entry.2 < 16)
    {role : LfgRole} (single : IsSingle role entry.2)
    (full : singles role before = neededAllRoles role) :
    ¬ Reachable (before ++ entry :: rest) := by
  rintro ⟨fewer, reduces, fits⟩
  have kept := passed.kept fewer reduces fits
  have tried : ∀ other : LfgRole, entry.2 &&& ~~~playerRoleLeader &&& other.bit ≠ 0 →
      ¬ IsSingle other entry.2 → False := by
    intro other has several
    rw [single] at has
    have same : other = role := by
      revert has
      cases other <;> cases role <;> decide
    exact several (same ▸ single)
  obtain ⟨behind, rfl⟩ := reduces.kept fits small kept
    fun other has several => (tried other has several).elim
  have count := fits.counts role
  rw [singles_append, singles_append, singles_cons, if_pos single] at count
  omega

/-- What fits after a role has gone fits before. -/
theorem Reduces.widen {fewer : Roles} {selected : UInt8} (narrows : Narrows selected entry.2)
    (reduces : Reduces fewer (before ++ (entry.1, selected) :: rest)) :
    Reduces fewer (before ++ entry :: rest) := by
  obtain ⟨first, here, later, rfl, isFirst, guid, less, isLater⟩ := reduces.split
  exact List.rel_append isFirst (.cons ⟨guid, less.trans narrows⟩ isLater)

/-- The counters after a role of a player has been looked at. -/
def countRole (role : LfgRole) (entry : ObjectGuid × UInt8) (counts : LfgRole → Nat) :
    LfgRole → Nat :=
  if IsSingle role entry.2 then Function.update counts role (counts role + 1) else counts

theorem checkRole_spec (below : DecidesBelow recurse (before ++ entry :: rest))
    (small : ∀ other ∈ before ++ entry :: rest, other.2 < 16)
    (passed : Passed before (entry :: rest)) (role : LfgRole)
    (counted : counts role = singles role before) :
    RoundDecides (before ++ entry :: rest)
      (checkRole recurse before.length (entry.2 &&& ~~~playerRoleLeader) role counts
        (before ++ entry :: rest)) ∨
    (checkRole recurse before.length (entry.2 &&& ~~~playerRoleLeader) role counts
        (before ++ entry :: rest) =
      some (.goesOn (countRole role entry counts) (before ++ entry :: rest)) ∧
      Tried before rest entry role ∧
      (IsSingle role entry.2 → singles role before < neededAllRoles role)) := by
  have smallEntry : entry.2 < 16 := small entry (by simp)
  unfold checkRole
  by_cases lacks : entry.2 &&& ~~~playerRoleLeader &&& role.bit = 0
  · have notSingle : ¬ IsSingle role entry.2 := by
      intro single
      rw [show entry.2 &&& ~~~playerRoleLeader = role.bit from single, UInt8.and_self] at lacks
      exact role.bit_ne_zero lacks
    rw [if_pos lacks, countRole, if_neg notSingle]
    exact .inr ⟨rfl, fun has => absurd lacks has, fun single => absurd single notSingle⟩
  rw [if_neg lacks]
  by_cases single : IsSingle role entry.2
  · have isOnly : entry.2 &&& ~~~playerRoleLeader = role.bit := single
    rw [if_neg (not_not.mpr isOnly)]
    by_cases full : counts role = neededAllRoles role
    · rw [if_pos full]
      exact .inl (.inr ⟨rfl, not_reachable_of_full passed smallEntry single
        (counted.symm.trans full)⟩)
    · rw [if_neg full, countRole, if_pos single]
      have room := passed.counts role
      exact .inr ⟨rfl, fun _ several => absurd single several, fun _ => by omega⟩
  · have several : entry.2 &&& ~~~playerRoleLeader ≠ role.bit := single
    rw [if_pos several, countRole, if_neg single, subtractRole_append]
    obtain ⟨narrows, restored, lighter⟩ := narrows_sub smallEntry lacks single
    have sameLength : (before ++ (entry.1, entry.2 - role.bit) :: rest).length =
        (before ++ entry :: rest).length := by simp
    have smaller : ∀ other ∈ before ++ (entry.1, entry.2 - role.bit) :: rest, other.2 < 16 := by
      intro other member
      rw [List.mem_append, List.mem_cons] at member
      rcases member with isFirst | rfl | isLater
      · exact small other (by simp [isFirst])
      · exact narrows.small smallEntry
      · exact small other (by simp [isLater])
    have less : weight (before ++ (entry.1, entry.2 - role.bit) :: rest) <
        weight (before ++ entry :: rest) := by
      rw [weight_append, weight_append, weight_cons, weight_cons]
      exact Nat.add_lt_add_left (Nat.add_lt_add_right lighter _) _
    rcases below _ sameLength smaller less with ⟨after, found, reduces, fits⟩ | ⟨failed, none⟩
    · rw [found]
      rw [sameLength] at fits
      exact .inl (.inl ⟨after, rfl, reduces.widen narrows, fits⟩)
    · rw [failed]
      refine .inr ⟨?_, fun _ _ => none, fun isSingle => absurd isSingle single⟩
      simp only [addRole_append, restored]

/-- Some roles have been looked at. -/
def countRoles (entry : ObjectGuid × UInt8) (roles : List LfgRole) (counts : LfgRole → Nat) :
    LfgRole → Nat :=
  roles.foldl (fun counts role => countRole role entry counts) counts

theorem countRole_of_ne {role other : LfgRole} (differ : other ≠ role) :
    countRole role entry counts other = counts other := by
  unfold countRole
  split_ifs
  · exact Function.update_of_ne differ _ _
  · rfl

theorem checkEach_spec (below : DecidesBelow recurse (before ++ entry :: rest))
    (small : ∀ other ∈ before ++ entry :: rest, other.2 < 16)
    (passed : Passed before (entry :: rest)) {roles : List LfgRole} (distinct : roles.Nodup)
    (counted : ∀ role ∈ roles, counts role = singles role before) :
    RoundDecides (before ++ entry :: rest)
      (checkEach recurse before.length (entry.2 &&& ~~~playerRoleLeader) roles counts
        (before ++ entry :: rest)) ∨
    (checkEach recurse before.length (entry.2 &&& ~~~playerRoleLeader) roles counts
        (before ++ entry :: rest) =
      some (.goesOn (countRoles entry roles counts) (before ++ entry :: rest)) ∧
      ∀ role ∈ roles, Tried before rest entry role ∧
        (IsSingle role entry.2 → singles role before < neededAllRoles role)) := by
  induction roles generalizing counts with
  | nil => exact .inr ⟨rfl, by simp⟩
  | cons role roles induction =>
      rw [List.nodup_cons] at distinct
      rw [List.forall_mem_cons] at counted
      unfold checkEach
      rcases checkRole_spec below small passed role counted.1 with
        (⟨after, returns, found⟩ | ⟨returns, none⟩) | ⟨goesOn, tried⟩
      · rw [returns]
        exact .inl (.inl ⟨after, rfl, found⟩)
      · rw [returns]
        exact .inl (.inr ⟨rfl, none⟩)
      · rw [goesOn]
        have others : ∀ other ∈ roles,
            countRole role entry counts other = singles other before := by
          intro other member
          have differ : other ≠ role := by
            rintro rfl
            exact distinct.1 member
          rw [countRole_of_ne differ]
          exact counted.2 other member
        rcases induction distinct.2 others with decides | ⟨rest, all⟩
        · exact .inl decides
        · exact .inr ⟨rest, List.forall_mem_cons.mpr ⟨tried, all⟩⟩

/-- The counters after a whole round. -/
theorem countRoles_eq (counted : ∀ role, counts role = singles role before) :
    countRoles entry [.damage, .healer, .tank] counts =
      fun role => singles role (before ++ [entry]) := by
  have same : counts = fun role => singles role before := funext counted
  subst same
  funext role
  have last : singles role [entry] = if IsSingle role entry.2 then 1 else 0 := by
    rw [singles_cons]
    exact Nat.zero_add _
  rw [singles_append, last]
  show countRole .tank entry (countRole .healer entry (countRole .damage entry _)) role = _
  cases role with
  | damage =>
      rw [countRole_of_ne (by decide), countRole_of_ne (by decide), countRole]
      split_ifs <;> simp
  | healer =>
      rw [countRole_of_ne (by decide), countRole, apply_ite (fun counts : LfgRole → Nat =>
        counts .healer), Function.update_self, countRole_of_ne (by decide)]
      split_ifs <;> rfl
  | tank =>
      rw [countRole, apply_ite (fun counts : LfgRole → Nat => counts .tank), Function.update_self,
        countRole_of_ne (by decide), countRole_of_ne (by decide)]
      split_ifs <;> rfl

theorem checkPlayer_spec (below : DecidesBelow recurse (before ++ entry :: rest))
    (small : ∀ other ∈ before ++ entry :: rest, other.2 < 16)
    (passed : Passed before (entry :: rest)) (counted : ∀ role, counts role = singles role before) :
    RoundDecides (before ++ entry :: rest)
      (checkPlayer recurse before.length counts (before ++ entry :: rest) entry) ∨
    (checkPlayer recurse before.length counts (before ++ entry :: rest) entry =
      some (.goesOn (fun role => singles role (before ++ [entry])) (before ++ entry :: rest)) ∧
      Passed (before ++ [entry]) rest) := by
  have smallEntry : entry.2 < 16 := small entry (by simp)
  unfold checkPlayer
  by_cases none : entry.2 &&& ~~~playerRoleLeader = 0
  · rw [if_pos none]
    refine .inl (.inr ⟨rfl, ?_⟩)
    rintro ⟨fewer, reduces, -⟩
    obtain ⟨_, here, _, -, -, -, narrows, -⟩ := reduces.split
    refine narrows.some ?_
    rw [← narrows.roles, UInt8.and_assoc, none, UInt8.and_zero]
  rw [if_neg none]
  have distinct : [LfgRole.damage, .healer, .tank].Nodup := by decide
  rcases checkEach_spec below small passed distinct (fun role _ => counted role) with
    decides | ⟨goesOn, tried⟩
  · exact .inl decides
  · rw [goesOn, countRoles_eq counted]
    have all : ∀ role, Tried before rest entry role ∧
        (IsSingle role entry.2 → singles role before < neededAllRoles role) := by
      intro role
      cases role <;> exact tried _ (by decide)
    refine .inr ⟨rfl, fun role => ?_, fun other member => ?_, fun fewer reduces fits => ?_⟩
    · rw [singles_append, singles_cons]
      have count := passed.counts role
      have room := (all role).2
      split_ifs with single
      · exact room single
      · exact count
    · rw [List.mem_append, List.mem_singleton] at member
      rcases member with isFirst | rfl
      · exact passed.some other isFirst
      · exact none
    · rw [List.append_assoc, List.singleton_append] at reduces fits
      refine reduces.kept fits smallEntry (passed.kept fewer reduces fits) ?_
      intro role has several found
      refine (all role).1 has several ?_
      unfold Reachable
      have sameLength : (before ++ (entry.1, entry.2 - role.bit) :: rest).length =
          (before ++ entry :: rest).length := by simp
      rw [sameLength]
      exact found

end

/-! ## The whole search -/

theorem checkPlayers_decides {recurse : Roles → Option (Bool × Roles)} {before rest : Roles}
    {counts : LfgRole → Nat} (below : DecidesBelow recurse (before ++ rest))
    (small : ∀ other ∈ before ++ rest, other.2 < 16) (passed : Passed before rest)
    (counted : ∀ role, counts role = singles role before) :
    Decides (before ++ rest) (checkPlayers recurse rest.length counts (before ++ rest)) := by
  induction rest generalizing before counts with
  | nil =>
      rw [List.append_nil] at *
      have refl : Reduces before before := by
        refine List.forall₂_same.mpr fun entry member => ⟨rfl, .refl (passed.some entry member)⟩
      show Decides before (some (decide _, before))
      by_cases sum : counts .tank + counts .healer + counts .damage = before.length % 256
      · refine .inl ⟨before, by rw [decide_eq_true sum], refl, passed.counts, ?_⟩
        rw [← counted, ← counted, ← counted]
        exact sum
      · refine .inr ⟨by rw [decide_eq_false sum], ?_⟩
        rintro ⟨fewer, reduces, fits⟩
        have kept := passed.kept fewer (by rwa [List.append_nil]) (by rwa [List.append_nil])
        obtain rfl := kept.eq_of_length (List.Forall₂.length_eq reduces).symm
        rw [counted, counted, counted] at sum
        exact sum fits.sum
  | cons entry rest induction =>
      have index : (before ++ entry :: rest).length - (rest.length + 1) = before.length := by
        rw [List.length_append, List.length_cons]
        omega
      have here : (before ++ entry :: rest)[before.length]? = some entry := by simp
      rw [List.length_cons, checkPlayers, index, here]
      dsimp only
      rcases checkPlayer_spec below small passed counted with
        (⟨after, returns, found⟩ | ⟨returns, none⟩) | ⟨goesOn, next⟩
      · rw [returns]
        exact .inl ⟨after, rfl, found⟩
      · rw [returns]
        exact .inr ⟨rfl, none⟩
      · rw [goesOn]
        have whole : before ++ entry :: rest = before ++ [entry] ++ rest := by simp
        rw [whole] at below small ⊢
        exact induction below small next fun _ => rfl

theorem checkGroupRolesWithin_decides {depth : Nat} {groles : Roles} (some : groles ≠ [])
    (small : ∀ entry ∈ groles, entry.2 < 16) (deep : weight groles < depth) :
    Decides groles (checkGroupRolesWithin depth groles) := by
  induction depth generalizing groles with
  | zero => omega
  | succ depth induction =>
      rw [checkGroupRolesWithin, if_neg some]
      have below : DecidesBelow (checkGroupRolesWithin depth) ([] ++ groles) := by
        intro fewer length smaller lighter
        have someFewer : fewer ≠ [] := by
          rw [← List.length_pos_iff, length]
          exact List.length_pos_iff.mpr some
        rw [List.nil_append] at lighter
        exact induction someFewer smaller (by omega)
      have passed : Passed [] groles :=
        ⟨fun role => Nat.zero_le _, by simp, fun fewer _ _ => List.nil_prefix⟩
      exact checkPlayers_decides below small passed fun role => rfl

/-- `CheckGroupRoles` decides for every map over the four bits. -/
theorem checkGroupRoles_decides {groles : Roles} (some : groles ≠ [])
    (small : ∀ entry ∈ groles, entry.2 < 16) : Decides groles (checkGroupRoles groles) :=
  checkGroupRolesWithin_decides some small (Nat.lt_succ_self _)

/-! ## One role for everybody -/

/-- The map after everybody has got his role; who leads still does. -/
def settled (players : Roles) (arrangement : List (ObjectGuid × LfgRole)) : Roles :=
  List.zipWith (fun player entry => (player.1, player.2 &&& playerRoleLeader ||| entry.2.bit))
    players arrangement

theorem IsSingle.unique {other : LfgRole} (first : IsSingle role selected)
    (second : IsSingle other selected) : role = other := by
  have same : role.bit = other.bit := first.symm.trans second
  revert same
  cases role <;> cases other <;> decide

/-- How many players have one role. -/
def singlesSum (groles : Roles) : Nat :=
  singles .tank groles + singles .healer groles + singles .damage groles

theorem singlesSum_cons_of_single (groles : Roles) {entry : ObjectGuid × UInt8}
    (single : IsSingle role entry.2) : singlesSum (entry :: groles) = singlesSum groles + 1 := by
  have each : ∀ other, singles other (entry :: groles) =
      singles other groles + if role = other then 1 else 0 := by
    intro other
    rw [singles_cons]
    congr 1
    by_cases same : role = other
    · rw [if_pos same, if_pos (same ▸ single)]
    · rw [if_neg same, if_neg fun also => same (single.unique also)]
  rw [singlesSum, singlesSum, each, each, each]
  cases role <;> simp <;> omega

theorem singlesSum_cons_of_not (groles : Roles) {entry : ObjectGuid × UInt8}
    (several : ∀ role, ¬ IsSingle role entry.2) :
    singlesSum (entry :: groles) = singlesSum groles := by
  simp only [singlesSum, singles_cons, if_neg (several _), Nat.add_zero]

theorem singlesSum_le (groles : Roles) : singlesSum groles ≤ groles.length := by
  induction groles with
  | nil => exact Nat.zero_le _
  | cons entry groles induction =>
      rw [List.length_cons]
      by_cases single : ∃ role, IsSingle role entry.2
      · obtain ⟨role, single⟩ := single
        rw [singlesSum_cons_of_single groles single]
        exact Nat.succ_le_succ induction
      · rw [singlesSum_cons_of_not groles (not_exists.mp single)]
        exact Nat.le_succ_of_le induction

/-- If the sum is the number of players, all of them have one role. -/
theorem single_of_sum {groles : Roles} (sum : singlesSum groles = groles.length) :
    ∀ entry ∈ groles, ∃ role, IsSingle role entry.2 := by
  induction groles with
  | nil => simp
  | cons entry groles induction =>
      rw [List.length_cons] at sum
      have bound := singlesSum_le groles
      by_cases single : ∃ role, IsSingle role entry.2
      · refine List.forall_mem_cons.mpr ⟨single, induction ?_⟩
        obtain ⟨role, single⟩ := single
        rw [singlesSum_cons_of_single groles single] at sum
        omega
      · rw [singlesSum_cons_of_not groles (not_exists.mp single)] at sum
        omega

theorem roleCount_sum (arrangement : List (ObjectGuid × LfgRole)) :
    roleCount .tank arrangement + roleCount .healer arrangement + roleCount .damage arrangement =
      arrangement.length := by
  induction arrangement with
  | nil => rfl
  | cons entry arrangement induction =>
      rw [roleCount_cons, roleCount_cons, roleCount_cons, List.length_cons, ← induction]
      cases entry.2 <;> simp <;> omega

/-- One role is left of what a player has selected. -/
theorem settled_of_narrows (small : many < 16) (narrows : Narrows few many)
    (single : IsSingle role few) :
    Fills role many ∧ few = many &&& playerRoleLeader ||| role.bit := by
  have fewSmall := narrows.small small
  revert narrows single
  refine forall_selection (fun many => Narrows few many → IsSingle role few →
    Fills role many ∧ few = many &&& playerRoleLeader ||| role.bit) ?_ small
  refine forall_selection (fun few => ∀ number : Fin 16, Narrows few (UInt8.ofNat number) →
    IsSingle role few → Fills role (UInt8.ofNat number) ∧
      few = UInt8.ofNat number &&& playerRoleLeader ||| role.bit) ?_ fewSmall
  cases role <;> decide

theorem narrows_settled (small : many < 16) (fills : Fills role many) :
    Narrows (many &&& playerRoleLeader ||| role.bit) many ∧
      IsSingle role (many &&& playerRoleLeader ||| role.bit) := by
  revert fills
  refine forall_selection (fun many => Fills role many →
    Narrows (many &&& playerRoleLeader ||| role.bit) many ∧
      IsSingle role (many &&& playerRoleLeader ||| role.bit)) ?_ small
  cases role <;> decide

/-- What fits with one role for everybody is an arrangement. -/
theorem exists_arranges {after groles : Roles} (small : ∀ entry ∈ groles, entry.2 < 16)
    (reduces : Reduces after groles) (fits : Fits groles.length after) :
    ∃ arrangement, Arranges groles neededAllRoles arrangement ∧
      after = settled groles arrangement := by
  have length : after.length = groles.length := List.Forall₂.length_eq reduces
  have single := single_of_sum (fits.sum.trans length.symm)
  have entries : ∃ arrangement, List.Forall₂
      (fun player entry => entry.1 = player.1 ∧ Fills entry.2 player.2) groles arrangement ∧
      after = settled groles arrangement ∧
      ∀ role, roleCount role arrangement = singles role after := by
    clear fits length
    unfold Reduces at reduces
    induction reduces with
    | nil => exact ⟨[], .nil, rfl, fun role => rfl⟩
    | @cons few many after groles here _ induction =>
        rw [List.forall_mem_cons] at small single
        obtain ⟨arrangement, fills, same, counts⟩ := induction small.2 single.2
        obtain ⟨role, isOnly⟩ := single.1
        obtain ⟨fillsMany, left⟩ := settled_of_narrows small.1 here.2 isOnly
        refine ⟨(many.1, role) :: arrangement, .cons ⟨rfl, fillsMany⟩ fills, ?_, fun other => ?_⟩
        · rw [settled, List.zipWith_cons_cons, ← settled, ← same, ← left, ← here.1]
        · rw [roleCount_cons, singles_cons, counts]
          congr 1
          by_cases sameRole : role = other
          · rw [if_pos sameRole, if_pos (sameRole ▸ isOnly)]
          · rw [if_neg sameRole, if_neg fun also => sameRole (isOnly.unique also)]
  obtain ⟨arrangement, fills, same, counts⟩ := entries
  exact ⟨arrangement, ⟨fills, fun role => counts role ▸ fits.counts role⟩, same⟩

theorem reachable_of_arranges {groles : Roles} (small : ∀ entry ∈ groles, entry.2 < 16)
    {arrangement : List (ObjectGuid × LfgRole)}
    (arranges : Arranges groles neededAllRoles arrangement) :
    ∃ after, Reduces after groles ∧ Fits groles.length after := by
  obtain ⟨fills, counts⟩ := arranges
  have entries : Reduces (settled groles arrangement) groles ∧
      ∀ role, singles role (settled groles arrangement) = roleCount role arrangement := by
    clear counts
    induction fills with
    | nil => exact ⟨.nil, fun role => rfl⟩
    | @cons player entry groles arrangement here _ induction =>
        rw [List.forall_mem_cons] at small
        obtain ⟨reduces, counts⟩ := induction small.2
        obtain ⟨narrows, isOnly⟩ := narrows_settled small.1 here.2
        rw [settled, List.zipWith_cons_cons, ← settled]
        refine ⟨.cons ⟨rfl, narrows⟩ reduces, fun other => ?_⟩
        rw [roleCount_cons, singles_cons, counts]
        congr 1
        by_cases sameRole : entry.2 = other
        · rw [if_pos sameRole, if_pos (sameRole ▸ isOnly)]
        · rw [if_neg sameRole, if_neg fun also => sameRole (isOnly.unique also)]
  refine ⟨_, entries.1, fun role => entries.2 role ▸ counts role, ?_⟩
  rw [entries.2, entries.2, entries.2, roleCount_sum]
  exact fills.length_eq.symm

/-- Nobody gets a role in a group of more than five players. -/
theorem Arranges.length_le {players : Roles} {arrangement : List (ObjectGuid × LfgRole)}
    (arranges : Arranges players neededAllRoles arrangement) : players.length ≤ maxGroupSize := by
  have tanks : roleCount .tank arrangement ≤ 1 := arranges.counts .tank
  have healers : roleCount .healer arrangement ≤ 1 := arranges.counts .healer
  have dealers : roleCount .damage arrangement ≤ 3 := arranges.counts .damage
  rw [arranges.fills.length_eq, ← roleCount_sum, maxGroupSize]
  omega

theorem checkRoles_ne_nil_iff (players : Roles) :
    checkRoles players false ≠ [] ↔
      ∃ arrangement, Arranges players neededAllRoles arrangement := by
  rw [checkRoles_first]
  constructor
  · intro some
    obtain ⟨arrangement, found⟩ := List.exists_mem_of_ne_nil _ some
    exact ⟨arrangement, mem_arrangements.mp (List.mem_of_mem_take found)⟩
  · rintro ⟨arrangement, arranges⟩ none
    have member := mem_arrangements.mpr arranges
    rw [List.take_eq_nil_iff] at none
    rcases none with one | none
    · cases one
    · rw [none] at member
      cases member

/-- The two solvers agree about groups whose size fits into a byte.  In any case `CheckGroupRoles`
comes to an end, leaves the map as it was if it fails, and if it succeeds it has taken away roles
until as many players have one role as the size of the group says, modulo 256. -/
theorem checkGroupRoles_agrees (groles : LfgRolesMap) (some : groles.players ≠ [])
    (bits : ∀ entry ∈ groles.players, entry.2 < 16) :
    ∃ found after, checkGroupRoles groles.players = Option.some (found, after) ∧
      (found = true ↔ Reachable groles.players) ∧
      (found = true → Reduces after groles.players ∧
        Fits (groles.players.length % 256) after) ∧
      (found = false → after = groles.players) ∧
      (checkRoles groles.players false ≠ [] ↔
        ∃ arrangement, Arranges groles.players neededAllRoles arrangement) ∧
      (groles.players.length < 256 →
        (found = true ↔ checkRoles groles.players false ≠ []) ∧
        (found = true → ∃ arrangement, Arranges groles.players neededAllRoles arrangement ∧
          after = settled groles.players arrangement)) := by
  have reachable : groles.players.length < 256 → (Reachable groles.players ↔
      ∃ arrangement, Arranges groles.players neededAllRoles arrangement) := by
    intro few
    unfold Reachable
    rw [Nat.mod_eq_of_lt few]
    constructor
    · rintro ⟨fewer, reduces, fits⟩
      obtain ⟨arrangement, arranges, -⟩ := exists_arranges bits reduces fits
      exact ⟨arrangement, arranges⟩
    · rintro ⟨arrangement, arranges⟩
      exact reachable_of_arranges bits arranges
  rcases checkGroupRoles_decides some bits with ⟨after, result, reduces, fits⟩ | ⟨result, none⟩
  · refine ⟨true, after, result, iff_of_true rfl ⟨after, reduces, fits⟩, fun _ => ⟨reduces, fits⟩,
      fun failed => (nomatch failed), checkRoles_ne_nil_iff _, fun few => ⟨?_, fun _ => ?_⟩⟩
    · rw [checkRoles_ne_nil_iff, ← reachable few]
      exact iff_of_true rfl ⟨after, reduces, fits⟩
    · rw [Nat.mod_eq_of_lt few] at fits
      exact exists_arranges bits reduces fits
  · refine ⟨false, groles.players, result, iff_of_false (by decide) none,
      fun found => (nomatch found), fun _ => rfl, checkRoles_ne_nil_iff _,
      fun few => ⟨?_, fun found => (nomatch found)⟩⟩
    rw [checkRoles_ne_nil_iff, ← reachable few]
    exact iff_of_false (by decide) none

/-- Two players, of whom the first one can do everything and leads. -/
def leaderAndTank : LfgRolesMap where
  players := [(.player 1, 15), (.player 2, 2)]
  sorted := by decide

theorem checkGroupRoles_agrees_leaderAndTank :
    ∃ after, checkGroupRoles leaderAndTank.players = some (true, after) ∧
      ∃ arrangement, Arranges leaderAndTank.players neededAllRoles arrangement ∧
        after = settled leaderAndTank.players arrangement := by
  obtain ⟨found, after, result, -, -, -, -, agrees⟩ :=
    checkGroupRoles_agrees leaderAndTank (by decide) (by decide)
  obtain ⟨same, settles⟩ := agrees (by decide)
  have isFound : found = true := same.mpr (by decide)
  exact ⟨after, isFound ▸ result, settles isFound⟩

/-- As many players who can tank and heal. -/
def tanksAndHealers (count : Nat) : LfgRolesMap where
  players := (List.range count).map fun number => (.player number, 6)
  sorted := by
    rw [List.pairwise_map]
    exact List.pairwise_lt_range

/-- Of 256 players who all have selected two roles none has one role, which is as many as the size
says in a byte. -/
theorem checkGroupRoles_of_256 :
    (∃ after, checkGroupRoles (tanksAndHealers 256).players = some (true, after)) ∧
    checkRoles (tanksAndHealers 256).players false = [] ∧
    ¬ ∃ arrangement, Arranges (tanksAndHealers 256).players neededAllRoles arrangement := by
  have size : (tanksAndHealers 256).players.length = 256 := by
    rw [tanksAndHealers, List.length_map, List.length_range]
  have two : ∀ entry ∈ (tanksAndHealers 256).players, entry.2 = 6 := by
    intro entry member
    obtain ⟨_, -, rfl⟩ := List.mem_map.mp member
    rfl
  have noArrangement :
      ¬ ∃ arrangement, Arranges (tanksAndHealers 256).players neededAllRoles arrangement := by
    rintro ⟨arrangement, arranges⟩
    have few := arranges.length_le
    rw [size, maxGroupSize] at few
    omega
  have noSingle : ∀ role, singles role (tanksAndHealers 256).players = 0 := by
    intro role
    refine List.countP_eq_zero.mpr fun entry member => ?_
    rw [two entry member]
    cases role <;> decide
  have reachable : Reachable (tanksAndHealers 256).players := by
    refine ⟨(tanksAndHealers 256).players, List.forall₂_same.mpr fun entry member => ⟨rfl, ?_⟩,
      fun role => ?_, ?_⟩
    · rw [two entry member]
      decide
    · rw [noSingle]
      exact Nat.zero_le _
    · rw [noSingle, noSingle, noSingle, size]
  refine ⟨?_, ?_, noArrangement⟩
  · have some : (tanksAndHealers 256).players ≠ [] := by
      rw [← List.length_pos_iff, size]
      decide
    have small : ∀ entry ∈ (tanksAndHealers 256).players, entry.2 < 16 := by
      intro entry member
      rw [two entry member]
      decide
    rcases checkGroupRoles_decides some small with ⟨after, result, -⟩ | ⟨-, none⟩
    · exact ⟨after, result⟩
    · exact absurd reachable none
  · by_contra some
    exact noArrangement ((checkRoles_ne_nil_iff _).mp some)

end RealmServer.DungeonFinding
