import Mathlib
import RealmServer.Lib.Transition

/-!
# Temporary threat

A reference remembers the threat which a taunt or an aura has added to it, and
takes it back when the effect ends.  Threat and modifier are stored as their
sum, so every other way to change the threat meets the sum.  What is left
without the modifier is the base, and it has to be the threat of the same run
without any temporary operation.
-/

namespace RealmServer.Combat

open RealmServer.Transition

structure HostileReference where
  unitGuid : Nat
  threat : ℚ
  tempThreatModifier : ℚ
deriving DecidableEq, Repr

/-- `AddPct`. -/
def addPct (base : ℚ) (percent : ℤ) : ℚ := base + base * percent / 100

namespace HostileReference

def addThreat (ref : HostileReference) (modThreat : ℚ) : HostileReference :=
  { ref with threat := ref.threat + modThreat }

def setThreat (ref : HostileReference) (threat : ℚ) : HostileReference :=
  ref.addThreat (threat - ref.threat)

def addThreatPercent (ref : HostileReference) (percent : ℤ) : HostileReference :=
  let changed := ref.setThreat (addPct ref.threat percent)
  { changed with tempThreatModifier := addPct changed.tempThreatModifier percent }

def scaleThreat (ref : HostileReference) (factor : ℚ) : HostileReference :=
  ref.setThreat (ref.threat * factor)

def addTempThreat (ref : HostileReference) (threat : ℚ) : HostileReference :=
  let changed := { ref with tempThreatModifier := threat }
  if changed.tempThreatModifier ≠ 0 then changed.addThreat changed.tempThreatModifier
  else changed

def setTempThreat (ref : HostileReference) (threat : ℚ) : HostileReference :=
  ref.addTempThreat (threat - ref.threat)

def resetTempThreat (ref : HostileReference) : HostileReference :=
  if ref.tempThreatModifier ≠ 0 then
    { ref.addThreat (-ref.tempThreatModifier) with tempThreatModifier := 0 }
  else ref

/-- `ThreatManager::tauntApply`, for the reference of the taunter. -/
def tauntApply (ref : HostileReference) (currentVictim : Option HostileReference) :
    HostileReference :=
  match currentVictim with
  | none => ref
  | some victim =>
      if ref.threat < victim.threat then
        if ref.tempThreatModifier = 0 then ref.setTempThreat victim.threat else ref
      else ref

/-- `ThreatManager::resetAllAggro`, for one reference of the list. -/
def resetAllAggro (ref : HostileReference) : HostileReference := ref.setThreat 0

/-- `HostileRefManager::addTempThreat`, for one reference of the unit. -/
def modifyTotalThreat (ref : HostileReference) (threat : ℚ) (apply : Bool) : HostileReference :=
  if apply then
    if ref.tempThreatModifier = 0 then ref.addTempThreat threat else ref
  else ref.resetTempThreat

/-! ## Operations -/

inductive Operation where
  | addThreat (modThreat : ℚ)
  | setThreat (threat : ℚ)
  | addThreatPercent (percent : ℤ)
  | scaleThreat (factor : ℚ)
  | resetAllAggro
  | tauntApply (currentVictim : Option HostileReference)
  | tauntFadeOut
  | modifyTotalThreat (threat : ℚ) (apply : Bool)
deriving DecidableEq, Repr

def perform (ref : HostileReference) : Operation → HostileReference
  | .addThreat modThreat => ref.addThreat modThreat
  | .setThreat threat => ref.setThreat threat
  | .addThreatPercent percent => ref.addThreatPercent percent
  | .scaleThreat factor => ref.scaleThreat factor
  | .resetAllAggro => ref.resetAllAggro
  | .tauntApply currentVictim => ref.tauntApply currentVictim
  | .tauntFadeOut => ref.resetTempThreat
  | .modifyTotalThreat threat apply => ref.modifyTotalThreat threat apply

/-- The operations which also a run without temporary threat has. -/
def Operation.isPlain : Operation → Bool
  | .tauntApply _ | .tauntFadeOut | .modifyTotalThreat _ _ => false
  | _ => true

/-- The threat without the modifier. -/
def base (ref : HostileReference) : ℚ := ref.threat - ref.tempThreatModifier

/-- An active modifier is not overwritten together with the threat. -/
def KeepsModifier (ref : HostileReference) : Operation → Prop
  | .setThreat _ | .resetAllAggro => ref.tempThreatModifier = 0
  | .scaleThreat factor => ref.tempThreatModifier = 0 ∨ factor = 1
  | _ => True

instance (ref : HostileReference) (operation : Operation) :
    Decidable (ref.KeepsModifier operation) := by
  cases operation <;> unfold KeepsModifier <;> infer_instance

/-! ## One operation -/

variable {ref plain : HostileReference}

theorem addTempThreat_base (inactive : ref.tempThreatModifier = 0) (threat : ℚ) :
    (ref.addTempThreat threat).base = ref.base := by
  unfold addTempThreat base
  dsimp only
  split_ifs with active
  · unfold addThreat
    dsimp only
    rw [inactive]
    ring
  · rw [not_not] at active
    rw [active, inactive]

theorem resetTempThreat_base : ref.resetTempThreat.base = ref.base := by
  unfold resetTempThreat base
  split_ifs with active
  · unfold addThreat
    dsimp only
    ring
  · rfl

theorem setThreat_threat (threat : ℚ) : (ref.setThreat threat).threat = threat := by
  unfold setThreat addThreat
  dsimp only
  ring

theorem setThreat_base (threat : ℚ) :
    (ref.setThreat threat).base = threat - ref.tempThreatModifier := by
  unfold base
  rw [setThreat_threat]
  rfl

theorem perform_base_of_temporary {operation : Operation} (temporary : operation.isPlain = false) :
    (ref.perform operation).base = ref.base := by
  cases operation with
  | tauntApply currentVictim =>
      change (ref.tauntApply currentVictim).base = ref.base
      unfold tauntApply
      cases currentVictim with
      | none => rfl
      | some victim =>
          dsimp only
          split_ifs with above inactive
          · exact addTempThreat_base inactive _
          · rfl
          · rfl
  | tauntFadeOut => exact resetTempThreat_base
  | modifyTotalThreat threat apply =>
      change (ref.modifyTotalThreat threat apply).base = ref.base
      unfold modifyTotalThreat
      split_ifs with applies inactive
      · exact addTempThreat_base inactive threat
      · rfl
      · exact resetTempThreat_base
  | addThreat | setThreat | addThreatPercent | scaleThreat | resetAllAggro => cases temporary

/-- A plain operation keeps a reference without a modifier in that state. -/
theorem perform_inactive (inactive : plain.tempThreatModifier = 0) {operation : Operation}
    (isPlain : operation.isPlain = true) :
    (plain.perform operation).tempThreatModifier = 0 := by
  cases operation with
  | addThreatPercent percent =>
      change addPct plain.tempThreatModifier percent = 0
      unfold addPct
      rw [inactive, zero_mul, zero_div, add_zero]
  | addThreat | setThreat | scaleThreat | resetAllAggro => exact inactive
  | tauntApply | tauntFadeOut | modifyTotalThreat => cases isPlain

/-- A plain operation does to the base what it does to the threat, or overwrites the modifier. -/
theorem perform_base_iff (same : ref.base = plain.threat) {operation : Operation}
    (isPlain : operation.isPlain = true) :
    (ref.perform operation).base = (plain.perform operation).threat ↔
      ref.KeepsModifier operation := by
  have sum : ref.threat = plain.threat + ref.tempThreatModifier := by
    rw [← same]
    unfold base
    ring
  cases operation with
  | addThreat modThreat =>
      refine iff_of_true ?_ trivial
      change ref.threat + modThreat - ref.tempThreatModifier = plain.threat + modThreat
      rw [sum]
      ring
  | setThreat threat =>
      change (ref.setThreat threat).base = (plain.setThreat threat).threat ↔
        ref.tempThreatModifier = 0
      rw [setThreat_base, setThreat_threat, sub_eq_self]
  | addThreatPercent percent =>
      refine iff_of_true ?_ trivial
      change (ref.setThreat (addPct ref.threat percent)).threat -
          addPct ref.tempThreatModifier percent =
        (plain.setThreat (addPct plain.threat percent)).threat
      rw [setThreat_threat, setThreat_threat, sum]
      unfold addPct
      ring
  | scaleThreat factor =>
      change (ref.setThreat (ref.threat * factor)).base =
          (plain.setThreat (plain.threat * factor)).threat ↔
        ref.tempThreatModifier = 0 ∨ factor = 1
      rw [setThreat_base, setThreat_threat, sum]
      have difference : (plain.threat + ref.tempThreatModifier) * factor -
          ref.tempThreatModifier - plain.threat * factor =
            ref.tempThreatModifier * (factor - 1) := by ring
      rw [← sub_eq_zero, difference, mul_eq_zero, sub_eq_zero]
  | resetAllAggro =>
      change (ref.setThreat 0).base = (plain.setThreat 0).threat ↔ ref.tempThreatModifier = 0
      rw [setThreat_base, setThreat_threat, sub_eq_self]
  | tauntApply | tauntFadeOut | modifyTotalThreat => cases isPlain

/-! ## Runs -/

/-- What holds after every part of a run, first operation apart. -/
theorem forall_prefix_cons {property : List Operation → Prop} {operation : Operation}
    {rest : List Operation} :
    (∀ first later, operation :: rest = first ++ later → property first) ↔
      property [] ∧ ∀ first later, rest = first ++ later → property (operation :: first) := by
  constructor
  · intro holds
    refine ⟨holds [] _ rfl, fun first later split => holds (operation :: first) later ?_⟩
    rw [split, List.cons_append]
  · rintro ⟨nothing, something⟩ first later split
    cases first with
    | nil => exact nothing
    | cons head tail =>
        obtain ⟨rfl, rest⟩ := List.cons.inj split
        exact something tail later rest

/-- The base is the threat of the plain run exactly while no modifier is overwritten. -/
theorem base_eq_plain_iff (operations : List Operation)
    (inactive : plain.tempThreatModifier = 0) (same : ref.base = plain.threat) :
    (∀ first later, operations = first ++ later →
        (run perform ref first).base =
          (run perform plain (first.filter Operation.isPlain)).threat) ↔
      EveryStep perform KeepsModifier ref operations := by
  induction operations generalizing ref plain with
  | nil =>
      refine iff_of_true ?_ trivial
      intro first later split
      rw [(List.append_eq_nil_iff.mp split.symm).1]
      exact same
  | cons operation rest induction =>
      rw [forall_prefix_cons, everyStep_cons]
      dsimp only [run_cons, run_nil, List.filter_nil]
      rw [and_iff_right same]
      cases isPlain : operation.isPlain with
      | false =>
          have keeps : ref.KeepsModifier operation := by
            cases operation with
            | tauntApply | tauntFadeOut | modifyTotalThreat => trivial
            | addThreat | setThreat | addThreatPercent | scaleThreat | resetAllAggro =>
                cases isPlain
          have sameAfter : (ref.perform operation).base = plain.threat :=
            (perform_base_of_temporary isPlain).trans same
          rw [and_iff_right keeps, ← induction inactive sameAfter]
          simp only [List.filter_cons, isPlain, Bool.false_eq_true, if_false]
      | true =>
          simp only [List.filter_cons, isPlain, if_true, run_cons]
          rw [← perform_base_iff same isPlain]
          constructor
          · intro holds
            have sameAfter : (ref.perform operation).base = (plain.perform operation).threat :=
              holds [] rest rfl
            exact ⟨sameAfter, (induction (perform_inactive inactive isPlain) sameAfter).mp holds⟩
          · rintro ⟨sameAfter, kept⟩
            exact (induction (perform_inactive inactive isPlain) sameAfter).mpr kept

/--
Temporary threat is undone exactly in every run which overwrites no active
modifier: without a modifier, the threat is that of the plain run.
-/
theorem threat_eq_plain (operations : List Operation) (inactive : ref.tempThreatModifier = 0)
    (kept : EveryStep perform KeepsModifier ref operations)
    (undone : (run perform ref operations).tempThreatModifier = 0) :
    (run perform ref operations).threat =
      (run perform ref (operations.filter Operation.isPlain)).threat := by
  have same : ref.base = ref.threat := by
    unfold base
    rw [inactive, sub_zero]
  have based := (base_eq_plain_iff operations inactive same).mpr kept operations []
    (List.append_nil operations).symm
  unfold base at based
  rw [undone, sub_zero] at based
  exact based

/-- A taunt, half of the threat taken while it lasts, and its end. -/
theorem threat_eq_plain_taunt :
    (run perform ⟨1, 100, 0⟩
        [.tauntApply (some ⟨2, 300, 0⟩), .addThreat 50, .addThreatPercent (-50),
          .tauntFadeOut]).threat =
      (run perform ⟨1, 100, 0⟩
        ([.tauntApply (some ⟨2, 300, 0⟩), .addThreat 50, .addThreatPercent (-50),
          .tauntFadeOut].filter Operation.isPlain)).threat :=
  threat_eq_plain _ rfl ⟨trivial, trivial, trivial, trivial, trivial⟩ (by decide +kernel)

/-- An aura takes 40 of the threat, all aggro is reset and the aura ends. -/
theorem modifier_survives_reset :
    run perform ⟨1, 100, 0⟩
        [.modifyTotalThreat (-40) true, .resetAllAggro, .modifyTotalThreat (-40) false] =
      ⟨1, 40, 0⟩ ∧
    run perform ⟨1, 100, 0⟩
        ([.modifyTotalThreat (-40) true, .resetAllAggro,
          .modifyTotalThreat (-40) false].filter Operation.isPlain) = ⟨1, 0, 0⟩ := by
  decide +kernel

end HostileReference

end RealmServer.Combat
