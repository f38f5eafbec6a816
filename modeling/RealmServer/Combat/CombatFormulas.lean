import Mathlib

/-!
# The base table of an attack

`CreateBaseTable` puts together how likely each outcome of an attack is and which
of them can happen at all.  Percentages are rational numbers; the skills of the
two sides are subtracted as 32-bit integers before they become percentages.
-/

namespace RealmServer.Combat

/-- `AttackTableEntry` -/
inductive AttackTableEntry where
  | miss | resist | deflect | dodge | parry | glancing | block | crit | crushing
deriving DecidableEq, Repr, Inhabited

abbrev AttackModTable := AttackTableEntry → ℚ

abbrev AttackCheckTable := AttackTableEntry → Bool

structure BaseTable where
  mods : AttackModTable
  checks : AttackCheckTable

/-- The fields of `AttackerParams` beside the attacker. -/
structure AttackerValues where
  isPlayer : Bool
  isRanged : Bool
  hit : ℚ
  crit : ℚ
  expertise : ℚ
  weaponSkill : UInt32

/-- The fields of `VictimParams` beside the victim. -/
structure VictimValues where
  isPlayer : Bool
  isAttackedFromBehind : Bool
  cantDefend : Bool
  level : UInt8
  miss : ℚ
  dodge : ℚ
  parry : ℚ
  block : ℚ
  resist : ℚ
  deflect : ℚ
  defenseSkill : UInt32

/-- A player or a creature, each with its own way to turn entries on and off. -/
structure ICombatant where
  evaluateAttackerTable : AttackCheckTable → AttackerValues → AttackCheckTable
  evaluateVictimTable : AttackCheckTable → VictimValues → AttackCheckTable

structure AttackerParams extends AttackerValues where
  attacker : ICombatant

structure VictimParams extends VictimValues where
  victim : ICombatant

/-! ## Base values -/

/-- `BuildAttackTableBase` -/
def buildAttackTableBase (attacker : AttackerParams) (victim : VictimParams) : BaseTable :=
  let canDefend := !(victim.cantDefend || victim.isAttackedFromBehind)
  { mods := fun
      | .miss => victim.miss - attacker.hit
      | .crit => attacker.crit
      | .parry => victim.parry - attacker.expertise
      | .dodge => victim.dodge - attacker.expertise
      | .block => victim.block
      | .resist => victim.resist
      | .deflect => victim.deflect
      | .glancing => 0
      | .crushing => 0
    checks := fun
      | .miss => true
      | .resist => true
      | .deflect => attacker.isRanged && !victim.isAttackedFromBehind
      | .dodge => decide (0 < victim.dodge) && !victim.cantDefend
      | .parry => decide (0 < victim.parry) && canDefend
      | .glancing => !attacker.isRanged
      | .block => decide (0 < victim.block) && canDefend
      | .crit => true
      | .crushing => true }

/-! ## Skills -/

def pctPerSkill : ℚ := 4 / 100

def highPctPerSkill : ℚ := 1 / 10

def skillPerLevel : Int32 := 5

def skillBreakpoint : Int32 := skillPerLevel * 2

/-- An integer becomes a percentage. -/
def percentage (number : Int32) : ℚ := number.toInt

/-- What a player gets against a creature which is not weaker: the modifiers of misses, parries,
and of dodges and blocks. -/
def playerSkillMods (skillDifference : Int32) : ℚ × ℚ × ℚ :=
  let scaled := percentage skillDifference * highPctPerSkill
  if skillDifference ≤ skillBreakpoint then (scaled, scaled, scaled)
  else
    let modifiedSkillDiff := skillDifference - skillBreakpoint
    let parryModifier :=
      if skillBreakpoint + skillPerLevel ≤ skillDifference then
        9 + pctPerSkill * percentage (modifiedSkillDiff - skillPerLevel)
      else scaled
    (1 + percentage modifiedSkillDiff * (4 / 10), parryModifier, scaled)

/-- `skillMods` of `ApplySkillMods`. -/
def skillMods (attackerIsPlayer victimIsPlayer : Bool) (skillDifference skillDiff2 : Int32) :
    AttackModTable :=
  let modifiers :=
    if attackerIsPlayer && !victimIsPlayer && decide (0 ≤ skillDifference) then
      playerSkillMods skillDifference
    else
      let scaled := percentage skillDifference * pctPerSkill
      (scaled, scaled, scaled)
  fun
    | .miss => modifiers.1
    | .parry => modifiers.2.1
    | .dodge => modifiers.2.2
    | .block => modifiers.2.2
    | .crit => percentage (-skillDiff2) * pctPerSkill
    | _ => 0

/-- `ApplySkillMods` -/
def applySkillMods (mods : AttackModTable) (attackerIsPlayer victimIsPlayer : Bool)
    (skillDifference skillDiff2 : Int32) : AttackModTable :=
  let skill := skillMods attackerIsPlayer victimIsPlayer skillDifference skillDiff2
  let mods :=
    if 0 ≤ skillDifference then
      Function.update mods .glancing (min (percentage (10 + skillDifference) * (96 / 100)) 40)
    else mods
  let mods :=
    if skillDifference ≤ -20 then
      Function.update mods .crushing (percentage (-skillDifference) * 2 - 15)
    else mods
  [.miss, .parry, .dodge, .block, .crit].foldl
    (fun (mods : AttackModTable) entry =>
      Function.update mods entry (mods entry + skill entry)) mods

/-! ## The table -/

/-- `FinalizeAttackTable` -/
def finalizeAttackTable (attacker : AttackerParams) (victim : VictimParams) (table : BaseTable)
    (skillDifference : Int32) : BaseTable :=
  let checks := attacker.attacker.evaluateAttackerTable table.checks attacker.toAttackerValues
  let checks := victim.victim.evaluateVictimTable checks victim.toVictimValues
  let skillDiff2 := (victim.defenseSkill - attacker.weaponSkill).toInt32
  { mods := applySkillMods table.mods attacker.isPlayer victim.isPlayer skillDifference skillDiff2
    checks }

/-- `std::min<int32>(victim.defenseSkill, victim.level * 5)` -/
def cappedDefense (victim : VictimParams) : Int32 :=
  let defense := victim.defenseSkill.toInt32
  let cap := Int32.ofNat (victim.level.toNat * 5)
  if cap < defense then cap else defense

/-- `CreateBaseTable`; the difference is one of unsigned numbers. -/
def createBaseTable (attacker : AttackerParams) (victim : VictimParams) : BaseTable :=
  let skillDifference := ((cappedDefense victim).toUInt32 - attacker.weaponSkill).toInt32
  finalizeAttackTable attacker victim (buildAttackTableBase attacker victim) skillDifference

end RealmServer.Combat
