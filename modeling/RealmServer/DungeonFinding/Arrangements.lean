import RealmServer.DungeonFinding.Queue

/-!
# What `CheckRoles` enumerates

`checkRoles` goes through the players in their order and through the roles in the
order of their bits.  What it collects are all arrangements, each once; what it
stops at is the first of them, which takes the lowest role that a player can
have.  For tanks this is the best choice.  For healers it is not, if the only
healer is the first who can tank.
-/

namespace RealmServer.DungeonFinding

/-- The player has selected the role. -/
def Fills (role : LfgRole) (selected : UInt8) : Prop := role.bit &&& selected ≠ 0

instance (role : LfgRole) (selected : UInt8) : Decidable (Fills role selected) :=
  inferInstanceAs (Decidable (_ ≠ _))

/-- How many players have a role. -/
def roleCount (role : LfgRole) (arrangement : List (ObjectGuid × LfgRole)) : Nat :=
  arrangement.countP fun entry => entry.2 = role

/-- A role is needed once less. -/
def without (role : LfgRole) (needed : LfgRole → Nat) : LfgRole → Nat :=
  Function.update needed role (needed role - 1)

/-- Everybody gets one of the roles he has selected, and no role is given away more often than it
is needed. -/
structure Arranges (players : List (ObjectGuid × UInt8)) (needed : LfgRole → Nat)
    (arrangement : List (ObjectGuid × LfgRole)) : Prop where
  fills : List.Forall₂ (fun player entry => entry.1 = player.1 ∧ Fills entry.2 player.2)
    players arrangement
  counts : ∀ role, roleCount role arrangement ≤ needed role

/-- The arrangements in the order in which they are found. -/
def arrangements : List (ObjectGuid × UInt8) → (LfgRole → Nat) →
    List (List (ObjectGuid × LfgRole))
  | [], _ => [[]]
  | player :: players, needed =>
      LfgRole.all.flatMap fun role =>
        if needed role = 0 ∨ role.bit &&& player.2 = 0 then []
        else (arrangements players (without role needed)).map ((player.1, role) :: ·)

variable {player : ObjectGuid × UInt8} {players : List (ObjectGuid × UInt8)}
  {needed : LfgRole → Nat} {entry : ObjectGuid × LfgRole}
  {arrangement other : List (ObjectGuid × LfgRole)}

/-! ## The recursion collects the arrangements -/

/-- A search goes on, or has already found enough. -/
def collect {Element : Type} (full : Bool) (result found : List Element) : List Element :=
  if !full && !result.isEmpty then result else if full then result ++ found else found.take 1

section Collect

variable {Element : Type} (full : Bool) (result : List Element)

theorem collect_nil : collect full result [] = result := by
  cases full <;> cases result <;> simp [collect]

theorem collect_collect (first second : List Element) :
    collect full (collect full result first) second = collect full result (first ++ second) := by
  cases full <;> cases result <;> cases first <;> simp [collect]

end Collect

theorem checkRolesFrom_eq (full : Bool) (players : List (ObjectGuid × UInt8))
    (needed : LfgRole → Nat) (interim : List (ObjectGuid × LfgRole))
    (result : List (List (ObjectGuid × LfgRole))) :
    checkRolesFrom full players needed interim result =
      collect full result ((arrangements players needed).map (interim ++ ·)) := by
  induction players generalizing needed interim result with
  | nil => cases full <;> cases result <;> simp [checkRolesFrom, arrangements, collect]
  | cons player players induction =>
      have round : ∀ role result,
          (if needed role = 0 ∨ role.bit &&& player.2 = 0 then result
            else checkRolesFrom full players (without role needed)
              (interim ++ [(player.1, role)]) result) =
            collect full result ((if needed role = 0 ∨ role.bit &&& player.2 = 0 then []
              else (arrangements players (without role needed)).map
                ((player.1, role) :: ·)).map (interim ++ ·)) := by
        intro role result
        split_ifs
        · rw [List.map_nil, collect_nil]
        · rw [induction, List.map_map]
          simp only [Function.comp_def, List.append_assoc, List.singleton_append]
      unfold checkRolesFrom
      split_ifs with enough
      · rw [collect, if_pos enough]
      · show LfgRole.all.foldl (fun result role =>
          if needed role = 0 ∨ role.bit &&& player.2 = 0 then result
          else checkRolesFrom full players (without role needed)
            (interim ++ [(player.1, role)]) result) result = _
        simp only [round, arrangements, LfgRole.all, List.foldl_cons, List.foldl_nil,
          List.flatMap_cons, List.flatMap_nil, List.append_nil, List.map_append, collect_collect,
          List.append_assoc]

theorem checkRoles_full (players : List (ObjectGuid × UInt8)) :
    checkRoles players true = arrangements players neededAllRoles := by
  rw [checkRoles, checkRolesFrom_eq]
  simp [collect]

theorem checkRoles_first (players : List (ObjectGuid × UInt8)) :
    checkRoles players false = (arrangements players neededAllRoles).take 1 := by
  rw [checkRoles, checkRolesFrom_eq]
  simp [collect]

/-! ## Each arrangement is found, and found once -/

theorem roleCount_cons (role : LfgRole) :
    roleCount role (entry :: arrangement) =
      roleCount role arrangement + if entry.2 = role then 1 else 0 := by
  rw [roleCount, List.countP_cons]
  simp only [decide_eq_true_eq]
  rfl

theorem counts_cons :
    (∀ role, roleCount role (entry :: arrangement) ≤ needed role) ↔
      needed entry.2 ≠ 0 ∧ ∀ role, roleCount role arrangement ≤ without entry.2 needed role := by
  constructor
  · intro counts
    constructor
    · have mine := counts entry.2
      rw [roleCount_cons, if_pos rfl] at mine
      omega
    · intro role
      have count := counts role
      rw [roleCount_cons] at count
      by_cases same : role = entry.2
      · subst same
        rw [if_pos rfl] at count
        rw [without, Function.update_self]
        omega
      · rw [without, Function.update_of_ne same]
        omega
  · rintro ⟨isNeeded, counts⟩ role
    have count := counts role
    rw [roleCount_cons]
    by_cases same : role = entry.2
    · subst same
      rw [without, Function.update_self] at count
      rw [if_pos rfl]
      omega
    · rw [without, Function.update_of_ne same] at count
      rw [if_neg (Ne.symm same)]
      exact count

theorem arranges_nil : Arranges [] needed arrangement ↔ arrangement = [] := by
  constructor
  · intro arranges
    cases arranges.fills
    rfl
  · rintro rfl
    exact ⟨.nil, fun role => Nat.zero_le _⟩

theorem arranges_cons :
    Arranges (player :: players) needed (entry :: arrangement) ↔
      entry.1 = player.1 ∧ Fills entry.2 player.2 ∧ needed entry.2 ≠ 0 ∧
        Arranges players (without entry.2 needed) arrangement := by
  constructor
  · rintro ⟨fills, counts⟩
    obtain ⟨⟨guid, role⟩, rest⟩ := List.forall₂_cons.mp fills
    obtain ⟨isNeeded, counts⟩ := counts_cons.mp counts
    exact ⟨guid, role, isNeeded, rest, counts⟩
  · rintro ⟨guid, role, isNeeded, rest, counts⟩
    exact ⟨List.forall₂_cons.mpr ⟨⟨guid, role⟩, rest⟩, counts_cons.mpr ⟨isNeeded, counts⟩⟩

theorem LfgRole.mem_all (role : LfgRole) : role ∈ LfgRole.all := by
  cases role <;> decide

theorem mem_arrangements :
    arrangement ∈ arrangements players needed ↔ Arranges players needed arrangement := by
  induction players generalizing needed arrangement with
  | nil => rw [arrangements, List.mem_singleton, arranges_nil]
  | cons player players induction =>
      rw [arrangements, List.mem_flatMap]
      constructor
      · rintro ⟨role, -, found⟩
        split_ifs at found with unfit
        · cases found
        · rw [not_or] at unfit
          obtain ⟨rest, inRest, rfl⟩ := List.mem_map.mp found
          exact arranges_cons.mpr ⟨rfl, unfit.2, unfit.1, induction.mp inRest⟩
      · intro arranges
        cases arrangement with
        | nil => cases arranges.fills
        | cons entry arrangement =>
            obtain ⟨guid, fills, isNeeded, rest⟩ := arranges_cons.mp arranges
            refine ⟨entry.2, entry.2.mem_all, ?_⟩
            rw [if_neg (not_or.mpr ⟨isNeeded, fills⟩)]
            refine List.mem_map.mpr ⟨arrangement, induction.mpr rest, ?_⟩
            rw [← guid]

theorem arrangements_nodup (players : List (ObjectGuid × UInt8)) (needed : LfgRole → Nat) :
    (arrangements players needed).Nodup := by
  induction players generalizing needed with
  | nil => exact List.nodup_singleton []
  | cons player players induction =>
      rw [arrangements, List.nodup_flatMap]
      constructor
      · intro role _
        split_ifs
        · exact List.nodup_nil
        · exact (induction _).map fun first second same => (List.cons.inj same).2
      · have distinct : LfgRole.all.Nodup := by decide
        refine distinct.imp fun {first second} differ => ?_
        show List.Disjoint _ _
        intro arrangement inFirst inSecond
        dsimp only at inFirst inSecond
        split_ifs at inFirst inSecond
        · cases inFirst
        · cases inFirst
        · cases inSecond
        · obtain ⟨_, -, rfl⟩ := List.mem_map.mp inFirst
          obtain ⟨_, -, same⟩ := List.mem_map.mp inSecond
          have heads := (List.cons.inj same).1
          exact differ (congrArg Prod.snd heads).symm

/-! ## The first arrangement -/

/-- The first arrangement gives the first player the lowest role he can have. -/
theorem head_cons
    (found : (arrangements (player :: players) needed).head? = some arrangement) :
    ∃ role rest, arrangement = (player.1, role) :: rest ∧
      (arrangements players (without role needed)).head? = some rest ∧
      ∀ lower : LfgRole, lower.bit < role.bit →
        ¬ ∃ behind, Arranges (player :: players) needed ((player.1, lower) :: behind) := by
  have branch : ∀ role : LfgRole,
      (if needed role = 0 ∨ role.bit &&& player.2 = 0 then []
        else (arrangements players (without role needed)).map ((player.1, role) :: ·)) = [] →
      ¬ ∃ behind, Arranges (player :: players) needed ((player.1, role) :: behind) := by
    rintro role none ⟨behind, arranges⟩
    obtain ⟨-, fills, isNeeded, rest⟩ := arranges_cons.mp arranges
    rw [if_neg (not_or.mpr ⟨isNeeded, fills⟩), List.map_eq_nil_iff] at none
    have member := mem_arrangements.mpr rest
    rw [none] at member
    cases member
  have first : ∀ role : LfgRole, ∀ found : List (ObjectGuid × LfgRole),
      (if needed role = 0 ∨ role.bit &&& player.2 = 0 then []
        else (arrangements players (without role needed)).map
          ((player.1, role) :: ·)).head? = some found →
      ∃ rest, found = (player.1, role) :: rest ∧
        (arrangements players (without role needed)).head? = some rest := by
    intro role found isHead
    split_ifs at isHead
    · cases isHead
    · rw [List.head?_map] at isHead
      obtain ⟨rest, isFirst, rfl⟩ := Option.map_eq_some_iff.mp isHead
      exact ⟨rest, rfl, isFirst⟩
  simp only [arrangements, LfgRole.all, List.flatMap_cons, List.flatMap_nil, List.append_nil,
    List.head?_append, Option.or_eq_some_iff, List.head?_eq_none_iff] at found
  rcases found with tank | ⟨noTank, healer | ⟨noHealer, damage⟩⟩
  · obtain ⟨rest, rfl, isFirst⟩ := first _ _ tank
    refine ⟨.tank, rest, rfl, isFirst, fun lower isLower => ?_⟩
    cases lower <;> exact absurd isLower (by decide)
  · obtain ⟨rest, rfl, isFirst⟩ := first _ _ healer
    refine ⟨.healer, rest, rfl, isFirst, fun lower isLower => ?_⟩
    cases lower with
    | tank => exact branch _ noTank
    | healer => exact absurd isLower (by decide)
    | damage => exact absurd isLower (by decide)
  · obtain ⟨rest, rfl, isFirst⟩ := first _ _ damage
    refine ⟨.damage, rest, rfl, isFirst, fun lower isLower => ?_⟩
    cases lower with
    | tank => exact branch _ noTank
    | healer => exact branch _ noHealer
    | damage => exact absurd isLower (by decide)

/-- Where another arrangement leaves the first one, it does not take a lower role. -/
theorem not_lower_of_head {common behind behind' : List (ObjectGuid × LfgRole)}
    {mine theirs : ObjectGuid × LfgRole}
    (found : (arrangements players needed).head? = some (common ++ mine :: behind))
    (arranges : Arranges players needed (common ++ theirs :: behind')) :
    ¬ theirs.2.bit < mine.2.bit := by
  induction players generalizing common needed with
  | nil => cases common <;> cases arranges.fills
  | cons player players induction =>
      obtain ⟨role, rest, same, isFirst, lowest⟩ := head_cons found
      cases common with
      | nil =>
          obtain ⟨rfl, rfl⟩ := List.cons.inj same
          intro lower
          have guid : theirs = (player.1, theirs.2) := by
            rw [← (arranges_cons.mp arranges).1]
          rw [List.nil_append, guid] at arranges
          exact lowest theirs.2 lower ⟨behind', arranges⟩
      | cons entry common =>
          obtain ⟨rfl, rfl⟩ := List.cons.inj same
          exact induction isFirst (arranges_cons.mp arranges).2.2.2

/-! ## Tanks first, then healers -/

/-- As many tanks and then as many healers as possible. -/
structure Best (players : List (ObjectGuid × UInt8)) (needed : LfgRole → Nat)
    (arrangement : List (ObjectGuid × LfgRole)) : Prop where
  tanks : ∀ other, Arranges players needed other →
    roleCount .tank other ≤ roleCount .tank arrangement
  healers : ∀ other, Arranges players needed other →
    roleCount .tank other = roleCount .tank arrangement →
      roleCount .healer other ≤ roleCount .healer arrangement

/-- Of the players only one can heal, all others can deal damage, and the healer is the first who
can tank, but not the only one. -/
def HealerTanksFirst (players : List (ObjectGuid × UInt8)) : Prop :=
  ∃ before player behind, players = before ++ player :: behind ∧
    Fills .tank player.2 ∧ Fills .healer player.2 ∧
    (∀ other ∈ before, Fills .damage other.2 ∧ ¬ Fills .healer other.2 ∧ ¬ Fills .tank other.2) ∧
    (∀ other ∈ behind, Fills .damage other.2 ∧ ¬ Fills .healer other.2) ∧
    ∃ other ∈ behind, Fills .tank other.2

theorem roleCount_append (role : LfgRole) (first second : List (ObjectGuid × LfgRole)) :
    roleCount role (first ++ second) = roleCount role first + roleCount role second :=
  List.countP_append

theorem Arranges.replace {before behind : List (ObjectGuid × UInt8)}
    {entries entries' : List (ObjectGuid × LfgRole)} {role : LfgRole}
    (arranges : Arranges (before ++ player :: behind) needed (entries ++ entry :: entries'))
    (length : entries.length = before.length) (fills : Fills role player.2)
    (room : entry.2 = role ∨ roleCount role (entries ++ entry :: entries') < needed role) :
    Arranges (before ++ player :: behind) needed
      (entries ++ (player.1, role) :: entries') := by
  obtain ⟨pointwise, counts⟩ := arranges
  have parts : List.Forall₂ (fun player entry => entry.1 = player.1 ∧ Fills entry.2 player.2)
      before entries ∧ List.Forall₂ (fun player entry =>
        entry.1 = player.1 ∧ Fills entry.2 player.2) (player :: behind) (entry :: entries') := by
    have first := List.forall₂_take before.length pointwise
    have second := List.forall₂_drop before.length pointwise
    rw [List.take_left, ← length, List.take_left] at first
    rw [List.drop_left, ← length, List.drop_left] at second
    exact ⟨first, second⟩
  refine ⟨List.rel_append parts.1 (.cons ⟨rfl, fills⟩ (List.forall₂_cons.mp parts.2).2), ?_⟩
  intro other
  have count := counts other
  rw [roleCount_append, roleCount_cons] at count room ⊢
  by_cases same : role = other
  · subst same
    rw [if_pos rfl]
    rcases room with rfl | room
    · rw [if_pos rfl] at count
      exact count
    · omega
  · rw [if_neg same]
    split_ifs at count <;> omega

/-- What belongs to two lists one behind the other. -/
theorem forall₂_append_left {First Second : Type} {relation : First → Second → Prop}
    {before behind : List First} {all : List Second}
    (pointwise : List.Forall₂ relation (before ++ behind) all) :
    ∃ entries entries', all = entries ++ entries' ∧ List.Forall₂ relation before entries ∧
      List.Forall₂ relation behind entries' := by
  induction before generalizing all with
  | nil => exact ⟨[], all, rfl, .nil, pointwise⟩
  | cons first before induction =>
      cases pointwise with
      | cons here later =>
          obtain ⟨entries, entries', rfl, mine, others⟩ := induction later
          exact ⟨_ :: entries, entries', rfl, .cons here mine, others⟩

theorem Arranges.split {before behind : List (ObjectGuid × UInt8)}
    (arranges : Arranges (before ++ player :: behind) needed arrangement) :
    ∃ entries entry entries', arrangement = entries ++ entry :: entries' ∧
      entries.length = before.length ∧ Fills entry.2 player.2 := by
  obtain ⟨entries, others, rfl, first, second⟩ := forall₂_append_left arranges.fills
  cases second with
  | cons here later => exact ⟨entries, _, _, rfl, first.length_eq.symm, here.2⟩

theorem Arranges.player_of_mem (arranges : Arranges players needed arrangement)
    (member : entry ∈ arrangement) :
    ∃ before player behind, players = before ++ player :: behind ∧ Fills entry.2 player.2 := by
  obtain ⟨entries, entries', rfl⟩ := List.append_of_mem member
  obtain ⟨before, others, rfl, -, second⟩ := forall₂_append_left arranges.fills.flip
  cases second with
  | cons here later => exact ⟨before, _, _, rfl, here.2⟩

theorem roleCount_pos {role : LfgRole} :
    0 < roleCount role arrangement ↔ ∃ entry ∈ arrangement, entry.2 = role := by
  simp [roleCount]

/-- The first arrangement gives nobody a higher role than it has to. -/
theorem not_improved {before behind : List (ObjectGuid × UInt8)}
    {entries entries' : List (ObjectGuid × LfgRole)} {role : LfgRole}
    (found : (arrangements (before ++ player :: behind) needed).head? =
      some (entries ++ entry :: entries'))
    (length : entries.length = before.length) (fills : Fills role player.2)
    (room : roleCount role (entries ++ entry :: entries') < needed role) :
    ¬ role.bit < entry.2.bit := by
  have arranges := mem_arrangements.mp (List.mem_of_mem_head? found)
  exact not_lower_of_head found (arranges.replace length fills (.inr room))

/-- Where the first arrangement lacks a role, who could have it has a lower one. -/
theorem lower_of_lacking {before behind : List (ObjectGuid × UInt8)} {role : LfgRole}
    (found : (arrangements (before ++ player :: behind) needed).head? = some arrangement)
    (fills : Fills role player.2) (none : roleCount role arrangement = 0)
    (isNeeded : needed role ≠ 0) :
    ∃ entries entry entries', arrangement = entries ++ entry :: entries' ∧
      entries.length = before.length ∧ entry.2.bit < role.bit := by
  obtain ⟨entries, entry, entries', rfl, length, -⟩ :=
    (mem_arrangements.mp (List.mem_of_mem_head? found)).split
  refine ⟨entries, entry, entries', rfl, length, ?_⟩
  have notHigher := not_improved found length fills (by omega)
  have other : entry.2 ≠ role := by
    intro same
    have some : 0 < roleCount role (entries ++ entry :: entries') :=
      roleCount_pos.mpr ⟨entry, by simp, same⟩
    omega
  revert notHigher other
  cases entry.2 <;> cases role <;> decide

/-- The first arrangement has a tank if one is possible. -/
theorem head_tanks (found : (arrangements players neededAllRoles).head? = some arrangement)
    (arranges : Arranges players neededAllRoles other) :
    roleCount .tank other ≤ roleCount .tank arrangement := by
  by_contra fewer
  have one : roleCount .tank other ≤ 1 := arranges.counts .tank
  obtain ⟨entry, member, isTank⟩ := roleCount_pos.mp (show 0 < roleCount .tank other by omega)
  obtain ⟨before, player, behind, rfl, fills⟩ := arranges.player_of_mem member
  rw [isTank] at fills
  obtain ⟨_, lower, _, -, -, below⟩ := lower_of_lacking found fills (by omega) (by decide)
  revert below
  cases lower.2 <;> decide

theorem roleCount_eq_zero {role : LfgRole} :
    roleCount role arrangement = 0 ↔ ∀ entry ∈ arrangement, entry.2 ≠ role := by
  simp [roleCount]

/-- What belongs to an element of the first list. -/
theorem forall₂_split {First Second : Type} {relation : First → Second → Prop}
    {all : List First} {others : List Second} (pointwise : List.Forall₂ relation all others)
    {element : First} (member : element ∈ all) :
    ∃ before behind entries entry entries', all = before ++ element :: behind ∧
      others = entries ++ entry :: entries' ∧ entries.length = before.length ∧
      relation element entry := by
  obtain ⟨before, behind, rfl⟩ := List.append_of_mem member
  obtain ⟨entries, entries', rfl, first, second⟩ := forall₂_append_left pointwise
  cases second with
  | cons here later => exact ⟨before, behind, entries, _, _, rfl, rfl, first.length_eq.symm, here⟩

/-- The first arrangement has no healer, and its tank could heal. -/
structure HealerTanks (before : List (ObjectGuid × UInt8)) (player : ObjectGuid × UInt8)
    (behind : List (ObjectGuid × UInt8)) (entries : List (ObjectGuid × LfgRole))
    (entry : ObjectGuid × LfgRole) (entries' : List (ObjectGuid × LfgRole)) : Prop where
  found : (arrangements (before ++ player :: behind) neededAllRoles).head? =
    some (entries ++ entry :: entries')
  first : List.Forall₂ (fun player entry => entry.1 = player.1 ∧ Fills entry.2 player.2)
    before entries
  later : List.Forall₂ (fun player entry => entry.1 = player.1 ∧ Fills entry.2 player.2)
    behind entries'
  tank : entry.2 = .tank
  heals : Fills .healer player.2
  noHealer : roleCount .healer (entries ++ entry :: entries') = 0

namespace HealerTanks

variable {before behind : List (ObjectGuid × UInt8)}
  {entries entries' : List (ObjectGuid × LfgRole)}

theorem arranges (tanks : HealerTanks before player behind entries entry entries') :
    Arranges (before ++ player :: behind) neededAllRoles (entries ++ entry :: entries') :=
  mem_arrangements.mp (List.mem_of_mem_head? tanks.found)

/-- All others deal damage. -/
theorem damage (tanks : HealerTanks before player behind entries entry entries')
    {dealer : ObjectGuid × LfgRole} (member : dealer ∈ entries ∨ dealer ∈ entries') :
    dealer.2 = .damage := by
  have oneTank : roleCount .tank (entries ++ entry :: entries') ≤ 1 := tanks.arranges.counts .tank
  rw [roleCount_append, roleCount_cons, if_pos tanks.tank] at oneTank
  have noTank : dealer.2 ≠ .tank := by
    rcases member with isFirst | isLater
    · exact roleCount_eq_zero.mp (show roleCount .tank entries = 0 by omega) dealer isFirst
    · exact roleCount_eq_zero.mp (show roleCount .tank entries' = 0 by omega) dealer isLater
  have noHealer : dealer.2 ≠ .healer := by
    refine roleCount_eq_zero.mp tanks.noHealer dealer ?_
    rw [List.mem_append, List.mem_cons]
    exact member.imp_right Or.inr
  revert noTank noHealer
  cases dealer.2 <;> decide

/-- Nobody but the tank could heal: who deals damage would have got the role. -/
theorem not_heals {others : List (ObjectGuid × UInt8)} {dealer : ObjectGuid × UInt8}
    {rest : List (ObjectGuid × UInt8)} {mine mine' : List (ObjectGuid × LfgRole)}
    {deals : ObjectGuid × LfgRole}
    (found : (arrangements (others ++ dealer :: rest) neededAllRoles).head? =
      some (mine ++ deals :: mine'))
    (length : mine.length = others.length) (damage : deals.2 = .damage)
    (noHealer : roleCount .healer (mine ++ deals :: mine') = 0) : ¬ Fills .healer dealer.2 := by
  intro heals
  have notHigher := not_improved found length heals (by rw [noHealer]; decide)
  rw [damage] at notHigher
  exact notHigher (by decide)

/-- A player before the tank deals damage, and can do nothing else. -/
theorem of_before (tanks : HealerTanks before player behind entries entry entries')
    {dealer : ObjectGuid × UInt8} (member : dealer ∈ before) :
    Fills .damage dealer.2 ∧ ¬ Fills .healer dealer.2 ∧ ¬ Fills .tank dealer.2 := by
  have length := tanks.first.length_eq.symm
  obtain ⟨others, rest, mine, deals, mine', rfl, rfl, lengthMine, -, fills⟩ :=
    forall₂_split tanks.first member
  have damage : deals.2 = .damage := tanks.damage (.inl (by simp))
  have found := tanks.found
  have noHealer := tanks.noHealer
  rw [damage] at fills
  rw [List.append_assoc, List.append_assoc, List.cons_append, List.cons_append] at found
  rw [List.append_assoc, List.cons_append] at noHealer
  refine ⟨fills, not_heals found lengthMine damage noHealer, fun fillsTank => ?_⟩
  -- the tank heals, and the player before him tanks
  have healed := tanks.arranges.replace length tanks.heals (.inr (by rw [tanks.noHealer]; decide))
  have noTank : roleCount .tank ((mine ++ deals :: mine') ++ (player.1, LfgRole.healer) :: entries')
      = 0 := by
    refine roleCount_eq_zero.mpr fun dealer member => ?_
    rw [List.mem_append, List.mem_cons] at member
    rcases member with isFirst | rfl | isLater
    · rw [tanks.damage (.inl isFirst)]
      decide
    · simp
    · rw [tanks.damage (.inr isLater)]
      decide
  rw [List.append_assoc, List.append_assoc, List.cons_append, List.cons_append] at healed
  rw [List.append_assoc, List.cons_append] at noTank
  have swapped := healed.replace lengthMine fillsTank (.inr (by rw [noTank]; decide))
  have notLower := not_lower_of_head found swapped
  rw [damage] at notLower
  exact notLower (show LfgRole.tank.bit < LfgRole.damage.bit by decide)

theorem of_behind (tanks : HealerTanks before player behind entries entry entries')
    {dealer : ObjectGuid × UInt8} (member : dealer ∈ behind) :
    Fills .damage dealer.2 ∧ ¬ Fills .healer dealer.2 := by
  have length := tanks.first.length_eq.symm
  obtain ⟨others, rest, mine, deals, mine', rfl, rfl, lengthMine, -, fills⟩ :=
    forall₂_split tanks.later member
  have damage : deals.2 = .damage := tanks.damage (.inr (by simp))
  have found := tanks.found
  have noHealer := tanks.noHealer
  rw [damage] at fills
  rw [List.append_cons, List.append_cons entries, ← List.append_assoc, ← List.append_assoc] at found
  rw [List.append_cons, ← List.append_assoc] at noHealer
  refine ⟨fills, not_heals found ?_ damage noHealer⟩
  simp only [List.length_append, List.length_singleton, length, lengthMine]

end HealerTanks

/-- An arrangement which lacks healers, although a healer would not cost a tank, gives the tank's
role to the only healer. -/
theorem healerTanksFirst_of_lacking
    (found : (arrangements players neededAllRoles).head? = some arrangement)
    (arranges : Arranges players neededAllRoles other)
    (sameTanks : roleCount .tank other = roleCount .tank arrangement)
    (fewer : roleCount .healer arrangement < roleCount .healer other) :
    HealerTanksFirst players := by
  have valid := mem_arrangements.mp (List.mem_of_mem_head? found)
  have oneHealer : roleCount .healer other ≤ 1 := arranges.counts .healer
  have noHealer : roleCount .healer arrangement = 0 := by omega
  -- the healer of the other arrangement tanks in the first one
  obtain ⟨healer, isHealer, heals⟩ :=
    roleCount_pos.mp (show 0 < roleCount .healer other by omega)
  obtain ⟨others, others', rfl⟩ := List.append_of_mem isHealer
  obtain ⟨before, rest, rfl, first, second⟩ := forall₂_append_left arranges.fills.flip
  cases second with
  | @cons _ player _ behind here later =>
  have playerHeals : Fills .healer player.2 := heals ▸ here.2
  obtain ⟨entries, _, rfl, firstMine, secondMine⟩ := forall₂_append_left valid.fills
  cases secondMine with
  | @cons _ entry _ entries' hereMine laterMine =>
  have length : entries.length = before.length := firstMine.length_eq.symm
  have notHigher := not_improved found length playerHeals (by rw [noHealer]; decide)
  have notHealer := roleCount_eq_zero.mp noHealer entry (by simp)
  have tank : entry.2 = .tank := by
    revert notHigher notHealer
    cases entry.2 <;> decide
  have tanks : HealerTanks before player behind entries entry entries' :=
    ⟨found, firstMine, laterMine, tank, playerHeals, noHealer⟩
  refine ⟨before, player, behind, rfl, tank ▸ hereMine.2, playerHeals,
    fun _ member => tanks.of_before member, fun _ member => tanks.of_behind member, ?_⟩
  -- the tank of the other arrangement is somebody else
  have someTank : 0 < roleCount .tank (others ++ healer :: others') := by
    rw [sameTanks]
    exact roleCount_pos.mpr ⟨entry, by simp, tank⟩
  obtain ⟨tanker, isTanker, tanking⟩ := roleCount_pos.mp someTank
  rw [List.mem_append, List.mem_cons] at isTanker
  rcases isTanker with isFirst | rfl | isLater
  · obtain ⟨_, _, _, player', _, -, same, -, -, fills⟩ := forall₂_split first isFirst
    have member : player' ∈ before := by
      rw [same]
      simp
    exact absurd (tanking ▸ fills) (tanks.of_before member).2.2
  · rw [heals] at tanking
    cases tanking
  · obtain ⟨_, _, _, player', _, -, same, -, -, fills⟩ := forall₂_split later isLater
    refine ⟨player', ?_, tanking ▸ fills⟩
    rw [same]
    simp

/-- All players get one role. -/
def give (role : LfgRole) (players : List (ObjectGuid × UInt8)) : List (ObjectGuid × LfgRole) :=
  players.map fun player => (player.1, role)

theorem give_fills {role : LfgRole} (fills : ∀ player ∈ players, Fills role player.2) :
    List.Forall₂ (fun player entry => entry.1 = player.1 ∧ Fills entry.2 player.2)
      players (give role players) := by
  rw [give, List.forall₂_map_right_iff, List.forall₂_same]
  exact fun player member => ⟨rfl, fills player member⟩

theorem roleCount_give (role given : LfgRole) (players : List (ObjectGuid × UInt8)) :
    roleCount role (give given players) = if given = role then players.length else 0 := by
  split_ifs with same
  · rw [roleCount, List.countP_eq_length.mpr, give, List.length_map]
    intro entry member
    obtain ⟨_, -, rfl⟩ := List.mem_map.mp member
    exact decide_eq_true same
  · refine roleCount_eq_zero.mpr fun entry member => ?_
    obtain ⟨_, -, rfl⟩ := List.mem_map.mp member
    exact same

/-- Who can do nothing else deals damage. -/
theorem eq_give_damage
    (pointwise : List.Forall₂ (fun player entry => entry.1 = player.1 ∧ Fills entry.2 player.2)
      players arrangement)
    (others : ∀ player ∈ players, ¬ Fills .healer player.2 ∧ ¬ Fills .tank player.2) :
    arrangement = give .damage players := by
  induction pointwise with
  | nil => rfl
  | @cons player entry players arrangement here _ induction =>
      rw [List.forall_mem_cons] at others
      have role : entry.2 = .damage := by
        cases isRole : entry.2 with
        | tank => exact absurd (isRole ▸ here.2) others.1.2
        | healer => exact absurd (isRole ▸ here.2) others.1.1
        | damage => rfl
      rw [induction others.2, give, give, List.map_cons, ← here.1, ← role]

/-- The only healer tanks, although somebody else could. -/
theorem not_best_of_healerTanksFirst (size : players.length < maxGroupSize)
    (healerTanks : HealerTanksFirst players) :
    ∃ arrangement, (arrangements players neededAllRoles).head? = some arrangement ∧
      ¬ Best players neededAllRoles arrangement := by
  obtain ⟨before, player, behind, rfl, tanks, heals, first, later, tanker, isTanker, tankerTanks⟩ :=
    healerTanks
  have dealFirst := give_fills fun player member => (first player member).1
  have tanking : Arranges (before ++ player :: behind) neededAllRoles
      (give .damage before ++ (player.1, LfgRole.tank) :: give .damage behind) := by
    refine ⟨List.rel_append dealFirst (.cons ⟨rfl, tanks⟩
      (give_fills fun player member => (later player member).1)), fun role => ?_⟩
    rw [List.length_append, List.length_cons] at size
    rw [roleCount_append, roleCount_cons, roleCount_give, roleCount_give]
    cases role <;> simp [neededAllRoles, maxGroupSize] at size ⊢
    omega
  have healing : ∃ rest, Arranges (before ++ player :: behind) neededAllRoles
        (give .damage before ++ (player.1, LfgRole.healer) :: rest) ∧ roleCount .tank rest = 1 := by
    obtain ⟨middle, last, rfl⟩ := List.append_of_mem isTanker
    refine ⟨give .damage middle ++ (tanker.1, LfgRole.tank) :: give .damage last, ⟨?_, ?_⟩, ?_⟩
    · have dealMiddle : ∀ player ∈ middle, Fills .damage player.2 :=
        fun player member => (later player (List.mem_append_left _ member)).1
      have dealLast : ∀ player ∈ last, Fills .damage player.2 := fun player member =>
        (later player (List.mem_append_right _ (List.mem_cons_of_mem _ member))).1
      exact List.rel_append dealFirst (.cons ⟨rfl, heals⟩ (List.rel_append (give_fills dealMiddle)
        (.cons ⟨rfl, tankerTanks⟩ (give_fills dealLast))))
    · intro role
      rw [List.length_append, List.length_cons, List.length_append, List.length_cons] at size
      rw [roleCount_append, roleCount_cons, roleCount_append, roleCount_cons, roleCount_give,
        roleCount_give, roleCount_give]
      cases role <;> simp [neededAllRoles, maxGroupSize] at size ⊢
      omega
    · rw [roleCount_append, roleCount_cons, roleCount_give, roleCount_give]
      rfl
  obtain ⟨rest, healing, oneTank⟩ := healing
  have some : ∃ arrangement, (arrangements (before ++ player :: behind) neededAllRoles).head? =
      some arrangement := by
    rw [← Option.isSome_iff_exists, List.isSome_head?]
    exact List.ne_nil_of_mem (mem_arrangements.mpr tanking)
  obtain ⟨arrangement, found⟩ := some
  refine ⟨arrangement, found, fun best => ?_⟩
  have valid := mem_arrangements.mp (List.mem_of_mem_head? found)
  obtain ⟨entries, _, rfl, firstMine, secondMine⟩ := forall₂_append_left valid.fills
  cases secondMine with
  | @cons _ entry _ entries' here laterMine =>
  obtain rfl := eq_give_damage firstMine fun player member => (first player member).2
  have isTank : entry.2 = .tank := by
    have notLower := not_lower_of_head found tanking
    revert notLower
    show ¬ LfgRole.tank.bit < entry.2.bit → _
    cases entry.2 <;> decide
  have noHealer : roleCount .healer (give .damage before ++ entry :: entries') = 0 := by
    rw [roleCount_append, roleCount_cons, roleCount_give, isTank]
    have others : roleCount .healer entries' = 0 := by
      refine roleCount_eq_zero.mpr fun dealer member isHealer => ?_
      obtain ⟨_, _, _, player', _, -, same, -, -, fills⟩ := forall₂_split laterMine.flip member
      refine (later player' ?_).2 (isHealer ▸ fills)
      rw [same]
      simp
    rw [others]
    rfl
  have tankCount : roleCount .tank (give .damage before ++ entry :: entries') = 1 := by
    have atMost : roleCount .tank (give .damage before ++ entry :: entries') ≤ 1 :=
      valid.counts .tank
    have atLeast := roleCount_pos.mpr ⟨entry, (by simp : entry ∈ give .damage before ++
      entry :: entries'), isTank⟩
    omega
  have healers := best.healers _ healing (by
    rw [tankCount, roleCount_append, roleCount_cons, roleCount_give, oneTank]
    rfl)
  rw [noHealer, roleCount_append, roleCount_cons, if_pos rfl] at healers
  omega

/-- `CheckRoles` finds all arrangements, each once; of an incomplete group it finds at most one,
and this is the best one unless the only healer is the first who can tank. -/
theorem checkRoles_exact (roles : LfgRolesMap) :
    (checkRoles roles.players true).Nodup ∧
    (∀ arrangement, arrangement ∈ checkRoles roles.players true ↔
      Arranges roles.players neededAllRoles arrangement) ∧
    (roles.players.length < maxGroupSize →
      (checkRoles roles.players false).length ≤ 1 ∧
      ((∀ arrangement ∈ checkRoles roles.players false,
        Best roles.players neededAllRoles arrangement) ↔ ¬ HealerTanksFirst roles.players)) := by
  refine ⟨?_, fun arrangement => ?_, fun size => ⟨?_, ?_⟩⟩
  · rw [checkRoles_full]
    exact arrangements_nodup _ _
  · rw [checkRoles_full]
    exact mem_arrangements
  · rw [checkRoles_first]
    exact List.length_take_le 1 _
  · have first : ∀ arrangement, arrangement ∈ checkRoles roles.players false ↔
        (arrangements roles.players neededAllRoles).head? = some arrangement := by
      intro arrangement
      rw [checkRoles_first]
      cases arrangements roles.players neededAllRoles <;> simp [eq_comm]
    constructor
    · intro best healerTanks
      obtain ⟨arrangement, found, notBest⟩ := not_best_of_healerTanksFirst size healerTanks
      exact notBest (best arrangement ((first arrangement).mpr found))
    · intro exempt arrangement member
      have found := (first arrangement).mp member
      refine ⟨fun other arranges => head_tanks found arranges, fun other arranges same => ?_⟩
      by_contra fewer
      exact exempt (healerTanksFirst_of_lacking found arranges same (Nat.not_le.mp fewer))

/-- One player can tank and heal, the other one can tank and deal damage. -/
def tankAndHealer : LfgRolesMap where
  players := [(.player 1, 6), (.player 2, 10)]
  sorted := by decide

theorem checkRoles_exact_tankAndHealer :
    ¬ ∀ arrangement ∈ checkRoles tankAndHealer.players false,
      Best tankAndHealer.players neededAllRoles arrangement := by
  refine fun best => ((checkRoles_exact tankAndHealer).2.2 (by decide)).2.mp best ?_
  exact ⟨[], (.player 1, 6), [(.player 2, 10)], rfl, by decide, by decide, by simp, by decide,
    by decide⟩

/-- The second player could tank and the first one heal, but the first one tanks and nobody
heals. -/
theorem checkRoles_without_healer :
    checkRoles tankAndHealer.players false = [[(.player 1, .tank), (.player 2, .damage)]] ∧
    Arranges tankAndHealer.players neededAllRoles [(.player 1, .healer), (.player 2, .tank)] ∧
    ¬ Best tankAndHealer.players neededAllRoles [(.player 1, .tank), (.player 2, .damage)] := by
  have healing : Arranges tankAndHealer.players neededAllRoles
      [(.player 1, .healer), (.player 2, .tank)] := by
    refine mem_arrangements.mp ?_
    decide
  refine ⟨by decide, healing, fun best => ?_⟩
  have healers := best.healers _ healing (by decide)
  revert healers
  decide

end RealmServer.DungeonFinding
