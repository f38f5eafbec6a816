import RealmServer.Battlegrounds.ClientIds

/-!
# Scheduled updates of the queues

`ScheduleQueueUpdate` packs five values into a number and remembers each number
once.  `Update` takes all numbers at a tick and updates the queue of each; the
updates can schedule others, which stay for the next tick.  The counter of this
loop has eight bits: with 256 numbers it never ends.
-/

namespace RealmServer.Battlegrounds

/-! ## `BattlegroundTypeId` -/

def battlegroundAV : Nat := 1

def battlegroundWS : Nat := 2

def battlegroundAB : Nat := 3

def battlegroundEY : Nat := 7

def battlegroundSA : Nat := 9

def battlegroundIC : Nat := 30

/-- `MAX_BATTLEGROUND_QUEUE_TYPES` -/
def maxBattlegroundQueueTypes : Nat := 13

/-! ## Scheduling -/

/-- The arguments of `ScheduleQueueUpdate`. -/
structure QueueUpdate where
  arenaMatchmakerRating : UInt32
  arenaType : UInt8
  bgQueueTypeId : Fin maxBattlegroundQueueTypes
  bgTypeId : Fin 256
  bracketId : BracketId
deriving DecidableEq, Repr

/-- The five values as `Update` has them. -/
structure ScheduledValues where
  arenaMMRating : UInt32
  arenaType : UInt8
  bgQueueTypeId : Nat
  bgTypeId : Nat
  bracketId : Nat
deriving DecidableEq, Repr

def QueueUpdate.values (update : QueueUpdate) : ScheduledValues where
  arenaMMRating := update.arenaMatchmakerRating
  arenaType := update.arenaType
  bgQueueTypeId := update.bgQueueTypeId
  bgTypeId := update.bgTypeId
  bracketId := update.bracketId

/-- `scheduleId` of `ScheduleQueueUpdate`. -/
def QueueUpdate.scheduleId (update : QueueUpdate) : UInt64 :=
  update.arenaMatchmakerRating.toUInt64 <<< 32 |||
    (update.arenaType.toUInt32 <<< 24).toUInt64 |||
    UInt64.ofNat (update.bgQueueTypeId.val <<< 16) |||
    UInt64.ofNat (update.bgTypeId.val <<< 8) |||
    UInt64.ofNat update.bracketId.val

/-- The shifts and masks of `Update`. -/
def scheduledValues (scheduled : UInt64) : ScheduledValues where
  arenaMMRating := (scheduled >>> 32).toUInt32
  arenaType := (scheduled >>> 24 &&& 255).toUInt8
  bgQueueTypeId := (scheduled >>> 16 &&& 255).toNat
  bgTypeId := (scheduled >>> 8 &&& 255).toNat
  bracketId := (scheduled &&& 255).toNat

/-- `ScheduleQueueUpdate`, on `m_QueueUpdateScheduler`. -/
def scheduleQueueUpdate (scheduler : List UInt64) (update : QueueUpdate) : List UInt64 :=
  if update.scheduleId ∈ scheduler then scheduler else scheduler ++ [update.scheduleId]

/-! ## One tick -/

/-- A call of a queue of `m_BattlegroundQueues`. -/
inductive QueueCall where
  | battlegroundQueueUpdate (bgQueueTypeId : Nat) (diff : UInt32) (bgTypeId bracketId : Nat)
      (arenaType : UInt8) (isRated : Bool) (arenaRating : UInt32)
  | battlegroundMatchmaking (bgQueueTypeId bgTypeId bracketId : Nat)
deriving DecidableEq, Repr

/-- The `switch` over the type. -/
def ScheduledValues.call (diff : UInt32) (values : ScheduledValues) : Option QueueCall :=
  if values.bgTypeId = battlegroundAA then
    some (.battlegroundQueueUpdate values.bgQueueTypeId diff values.bgTypeId values.bracketId
      values.arenaType (0 < values.arenaMMRating) values.arenaMMRating)
  else if values.bgTypeId ∈ [battlegroundRB, battlegroundAV, battlegroundWS, battlegroundAB,
      battlegroundEY, battlegroundSA, battlegroundIC] then
    some (.battlegroundMatchmaking values.bgQueueTypeId values.bgTypeId values.bracketId)
  else none

/-- What the loop has done: the values it has taken out, the calls it has made for them, and
`m_QueueUpdateScheduler`, which the calls write to. -/
structure Tick where
  queueUpdateScheduler : List UInt64
  handled : List ScheduledValues
  calls : List QueueCall
deriving DecidableEq, Repr

section

variable (diff : UInt32) (added : Nat → List QueueUpdate)

/-- The body of the loop; `added` is what the calls of each turn schedule. -/
def Tick.turn (tick : Tick) (scheduled : UInt64) : Tick where
  queueUpdateScheduler :=
    (added tick.handled.length).foldl scheduleQueueUpdate tick.queueUpdateScheduler
  handled := tick.handled ++ [scheduledValues scheduled]
  calls := tick.calls ++ ((scheduledValues scheduled).call diff).toList

/-- `for (uint8 i = 0; i < scheduled.size(); i++)`, for some turns. -/
def scheduledLoop (scheduled : List UInt64) : Nat → UInt8 → Tick → Option Tick
  | 0, _, _ => none
  | turns + 1, i, tick =>
      if inside : i.toNat < scheduled.length then
        scheduledLoop scheduled turns (i + 1) (tick.turn diff added scheduled[i.toNat])
      else some tick

/-- The scheduled queues in `Update`. -/
def updateScheduledQueues (turns : Nat) (scheduler : List UInt64) : Option Tick :=
  if scheduler.isEmpty then some ⟨scheduler, [], []⟩
  else scheduledLoop diff added scheduler turns 0 ⟨[], [], []⟩

end

/-! ## Packing and unpacking -/

/-- The five values do not overlap. -/
theorem QueueUpdate.toNat_scheduleId (update : QueueUpdate) :
    update.scheduleId.toNat =
      update.arenaMatchmakerRating.toNat * 2 ^ 32 + update.arenaType.toNat * 2 ^ 24 +
        update.bgQueueTypeId.val * 2 ^ 16 + update.bgTypeId.val * 2 ^ 8 + update.bracketId.val := by
  have rating := update.arenaMatchmakerRating.toNat_lt
  have arena := update.arenaType.toNat_lt
  have queueType : update.bgQueueTypeId.val < 13 := update.bgQueueTypeId.isLt
  have bgType := update.bgTypeId.isLt
  have bracket : update.bracketId.val < 16 := update.bracketId.isLt
  have joined (high : Nat) {low shift : Nat} (below : low < 2 ^ shift) :
      high * 2 ^ shift ||| low = high * 2 ^ shift + low := by
    rw [← Nat.shiftLeft_eq, Nat.shiftLeft_add_eq_or_of_lt below]
  have ratingWord : (update.arenaMatchmakerRating.toUInt64 <<< 32).toNat =
      update.arenaMatchmakerRating.toNat * 2 ^ 32 := by
    rw [UInt64.toNat_shiftLeft, UInt32.toNat_toUInt64, Nat.shiftLeft_eq]
    exact Nat.mod_eq_of_lt (by simp; omega)
  have arenaWord : (update.arenaType.toUInt32 <<< 24).toUInt64.toNat =
      update.arenaType.toNat * 2 ^ 24 := by
    rw [UInt32.toNat_toUInt64, UInt32.toNat_shiftLeft, UInt8.toNat_toUInt32, Nat.shiftLeft_eq]
    exact Nat.mod_eq_of_lt (by simp; omega)
  have smallWord {word : Nat} (small : word < 2 ^ 32) : (UInt64.ofNat word).toNat = word := by
    rw [UInt64.toNat_ofNat']
    exact Nat.mod_eq_of_lt (by omega)
  rw [scheduleId, UInt64.toNat_or, UInt64.toNat_or, UInt64.toNat_or, UInt64.toNat_or, ratingWord,
    arenaWord, Nat.shiftLeft_eq, Nat.shiftLeft_eq, smallWord (by omega), smallWord (by omega),
    smallWord (by omega)]
  rw [joined update.arenaMatchmakerRating.toNat (by omega)]
  have arenaFactor : update.arenaMatchmakerRating.toNat * 2 ^ 32 + update.arenaType.toNat * 2 ^ 24 =
      (update.arenaMatchmakerRating.toNat * 2 ^ 8 + update.arenaType.toNat) * 2 ^ 24 := by ring
  have queueFactor :
      (update.arenaMatchmakerRating.toNat * 2 ^ 8 + update.arenaType.toNat) * 2 ^ 24 +
          update.bgQueueTypeId.val * 2 ^ 16 =
        ((update.arenaMatchmakerRating.toNat * 2 ^ 8 + update.arenaType.toNat) * 2 ^ 8 +
          update.bgQueueTypeId.val) * 2 ^ 16 := by ring
  have bgFactor :
      ((update.arenaMatchmakerRating.toNat * 2 ^ 8 + update.arenaType.toNat) * 2 ^ 8 +
          update.bgQueueTypeId.val) * 2 ^ 16 + update.bgTypeId.val * 2 ^ 8 =
        (((update.arenaMatchmakerRating.toNat * 2 ^ 8 + update.arenaType.toNat) * 2 ^ 8 +
          update.bgQueueTypeId.val) * 2 ^ 8 + update.bgTypeId.val) * 2 ^ 8 := by ring
  rw [arenaFactor, joined _ (by omega), queueFactor, joined _ (by omega), bgFactor,
    joined _ (by omega)]

/-- Each value comes out as it was put in. -/
theorem scheduledValues_scheduleId (update : QueueUpdate) :
    scheduledValues update.scheduleId = update.values := by
  have packed := update.toNat_scheduleId
  have rating := update.arenaMatchmakerRating.toNat_lt
  have arena := update.arenaType.toNat_lt
  have queueType : update.bgQueueTypeId.val < 13 := update.bgQueueTypeId.isLt
  have bgType := update.bgTypeId.isLt
  have bracket : update.bracketId.val < 16 := update.bracketId.isLt
  have low (word : Nat) : word &&& 255 = word % 2 ^ 8 := Nat.and_two_pow_sub_one_eq_mod word 8
  have ratingOut : (update.scheduleId >>> 32).toUInt32 = update.arenaMatchmakerRating := by
    apply UInt32.toNat_inj.mp
    rw [UInt64.toNat_toUInt32, UInt64.toNat_shiftRight, packed, Nat.shiftRight_eq_div_pow]
    simp
    omega
  have arenaOut : (update.scheduleId >>> 24 &&& 255).toUInt8 = update.arenaType := by
    apply UInt8.toNat_inj.mp
    rw [UInt64.toNat_toUInt8, UInt64.toNat_and, UInt64.toNat_shiftRight, packed,
      Nat.shiftRight_eq_div_pow]
    simp [low]
    omega
  have queueOut : (update.scheduleId >>> 16 &&& 255).toNat = update.bgQueueTypeId.val := by
    rw [UInt64.toNat_and, UInt64.toNat_shiftRight, packed, Nat.shiftRight_eq_div_pow]
    simp [low]
    omega
  have bgOut : (update.scheduleId >>> 8 &&& 255).toNat = update.bgTypeId.val := by
    rw [UInt64.toNat_and, UInt64.toNat_shiftRight, packed, Nat.shiftRight_eq_div_pow]
    simp [low]
    omega
  have bracketOut : (update.scheduleId &&& 255).toNat = update.bracketId.val := by
    rw [UInt64.toNat_and, packed]
    simp [low]
    omega
  rw [scheduledValues, ratingOut, arenaOut, queueOut, bgOut, bracketOut]
  rfl

theorem scheduleId_injective : Function.Injective QueueUpdate.scheduleId := by
  intro first second same
  have values : first.values = second.values := by
    rw [← scheduledValues_scheduleId, same, scheduledValues_scheduleId]
  cases first
  cases second
  simp only [QueueUpdate.values, ScheduledValues.mk.injEq] at values
  rw [QueueUpdate.mk.injEq]
  exact ⟨values.1, values.2.1, Fin.ext values.2.2.1, Fin.ext values.2.2.2.1,
    Fin.ext values.2.2.2.2⟩

/-! ## What is scheduled -/

/-- Every update is in the list once, where it was scheduled first. -/
theorem foldl_scheduleQueueUpdate (requests : List QueueUpdate) :
    requests.foldl scheduleQueueUpdate [] = requests.eraseDups.map QueueUpdate.scheduleId := by
  induction requests using List.reverseRecOn with
  | nil => rfl
  | append_singleton requests update induction =>
      rw [List.foldl_append, induction, List.eraseDups_append]
      simp only [List.foldl_cons, List.foldl_nil, scheduleQueueUpdate]
      have member : update.scheduleId ∈ requests.eraseDups.map QueueUpdate.scheduleId ↔
          update ∈ requests := by
        rw [List.mem_map_of_injective scheduleId_injective, List.mem_eraseDups]
      by_cases known : update ∈ requests
      · have nothing : [update].removeAll requests = [] := by simp [List.removeAll, known]
        rw [if_pos (member.mpr known), nothing, List.eraseDups_nil, List.append_nil]
      · have new : [update].removeAll requests = [update] := by simp [List.removeAll, known]
        have single : [update].eraseDups = [update] := rfl
        rw [if_neg (member.not.mpr known), new, single, List.map_append, List.map_singleton]

theorem eraseDups_nodup {Element : Type} [DecidableEq Element] (elements : List Element) :
    elements.eraseDups.Nodup := by
  induction elements using List.reverseRecOn with
  | nil => exact List.nodup_nil
  | append_singleton elements element induction =>
      rw [List.eraseDups_append]
      by_cases known : element ∈ elements
      · have nothing : [element].removeAll elements = [] := by simp [List.removeAll, known]
        rw [nothing, List.eraseDups_nil, List.append_nil]
        exact induction
      · have new : [element].removeAll elements = [element] := by simp [List.removeAll, known]
        have single : [element].eraseDups = [element] := rfl
        rw [new, single]
        apply List.Nodup.append induction (List.nodup_singleton element)
        simpa using known

theorem length_eraseDups {Element : Type} [DecidableEq Element] (elements : List Element) :
    elements.eraseDups.length = elements.toFinset.card := by
  rw [← List.toFinset_card_of_nodup (eraseDups_nodup elements)]
  congr 1
  ext element
  simp

/-! ## The loop -/

section

variable {diff : UInt32} {added : Nat → List QueueUpdate}

/-- With 256 numbers the counter never gets behind the last one. -/
theorem scheduledLoop_endless {scheduled : List UInt64} (many : 256 ≤ scheduled.length)
    (turns : Nat) (i : UInt8) (tick : Tick) :
    scheduledLoop diff added scheduled turns i tick = none := by
  induction turns generalizing i tick with
  | zero => rfl
  | succ turns induction =>
      have inside : i.toNat < scheduled.length := i.toNat_lt.trans_le many
      rw [scheduledLoop, dif_pos inside]
      exact induction _ _

/-- With fewer it takes each in its turn. -/
theorem scheduledLoop_ends (done rest : List UInt64) (few : done.length + rest.length ≤ 255)
    (tick : Tick) :
    scheduledLoop diff added (done ++ rest) (rest.length + 1) (UInt8.ofNat done.length) tick =
      some (rest.foldl (Tick.turn diff added) tick) := by
  induction rest generalizing done tick with
  | nil =>
      have place : (UInt8.ofNat done.length).toNat = done.length := by
        rw [UInt8.toNat_ofNat']
        exact Nat.mod_eq_of_lt (by simp at few; omega)
      rw [List.length_nil, scheduledLoop, dif_neg (by simp [place])]
      rfl
  | cons id rest induction =>
      have place : (UInt8.ofNat done.length).toNat = done.length := by
        rw [UInt8.toNat_ofNat']
        exact Nat.mod_eq_of_lt (by simp at few; omega)
      have inside : (UInt8.ofNat done.length).toNat < (done ++ id :: rest).length := by
        rw [place, List.length_append, List.length_cons]
        omega
      have element : (done ++ id :: rest)[(UInt8.ofNat done.length).toNat] = id := by
        simp [place]
      have next : UInt8.ofNat done.length + 1 = UInt8.ofNat (done ++ [id]).length := by
        rw [List.length_append, List.length_singleton, UInt8.ofNat_add]
        rfl
      have split : done ++ id :: rest = (done ++ [id]) ++ rest := by simp
      rw [List.length_cons, scheduledLoop, dif_pos inside, element, next, List.foldl_cons]
      rw [split]
      apply induction
      simp at few ⊢
      omega

theorem foldl_turn (updates : List QueueUpdate) (tick : Tick) :
    (updates.map QueueUpdate.scheduleId).foldl (Tick.turn diff added) tick =
      { queueUpdateScheduler :=
          ((List.range' tick.handled.length updates.length).flatMap added).foldl
            scheduleQueueUpdate tick.queueUpdateScheduler
        handled := tick.handled ++ updates.map QueueUpdate.values
        calls := tick.calls ++ updates.filterMap fun update => update.values.call diff } := by
  induction updates generalizing tick with
  | nil => simp
  | cons update rest induction =>
      rw [List.map_cons, List.foldl_cons, induction]
      simp only [Tick.turn, scheduledValues_scheduleId, List.length_append, List.length_cons,
        List.range'_succ, List.flatMap_cons, List.foldl_append, List.map_cons,
        List.append_assoc, List.singleton_append, List.filterMap_cons]
      cases update.values.call diff with
      | none => simp
      | some call => simp

/-- With at most 255 numbers the loop takes each in its turn and ends. -/
theorem updateScheduledQueues_of_few {updates : List QueueUpdate} (few : updates.length ≤ 255) :
    updateScheduledQueues diff added (updates.length + 1)
        (updates.map QueueUpdate.scheduleId) =
      some
        { queueUpdateScheduler :=
            ((List.range updates.length).flatMap added).foldl scheduleQueueUpdate []
          handled := updates.map QueueUpdate.values
          calls := updates.filterMap fun update => update.values.call diff } := by
  cases updates with
  | nil => rfl
  | cons first rest =>
      rw [updateScheduledQueues, if_neg (by simp)]
      have ended := @scheduledLoop_ends diff added []
        ((first :: rest).map QueueUpdate.scheduleId) (by simpa using few) ⟨[], [], []⟩
      rw [foldl_turn, List.length_map] at ended
      rw [List.range_eq_range']
      exact ended

/-- However many turns it may take, a loop which ends has done the same. -/
theorem scheduledLoop_unique {scheduled : List UInt64} {turns more : Nat} {i : UInt8}
    {tick first second : Tick}
    (ended : scheduledLoop diff added scheduled turns i tick = some first)
    (also : scheduledLoop diff added scheduled more i tick = some second) : first = second := by
  induction turns generalizing more i tick with
  | zero => cases ended
  | succ turns induction =>
      cases more with
      | zero => cases also
      | succ more =>
          rw [scheduledLoop] at ended also
          split_ifs at ended also
          · exact induction ended also
          · exact Option.some.inj (ended.symm.trans also)

theorem updateScheduledQueues_unique {scheduler : List UInt64} {turns more : Nat}
    {first second : Tick}
    (ended : updateScheduledQueues diff added turns scheduler = some first)
    (also : updateScheduledQueues diff added more scheduler = some second) : first = second := by
  unfold updateScheduledQueues at ended also
  split_ifs at ended also
  · exact Option.some.inj (ended.symm.trans also)
  · exact scheduledLoop_unique ended also

end

/-! ## Every update once -/

/-- The types for which `Update` calls a queue; it ignores the others. -/
def QueueUpdate.Dispatched (update : QueueUpdate) : Prop :=
  update.bgTypeId.val ∈ [battlegroundAA, battlegroundRB, battlegroundAV, battlegroundWS,
    battlegroundAB, battlegroundEY, battlegroundSA, battlegroundIC]

instance : DecidablePred QueueUpdate.Dispatched :=
  fun _ => inferInstanceAs (Decidable (_ ∈ _))

/-- What a request asks its queue for: all its values for arenas, rated with a rating above 0,
and the type and bracket for battlegrounds. -/
def QueueUpdate.wanted (diff : UInt32) (update : QueueUpdate) : QueueCall :=
  if update.bgTypeId.val = battlegroundAA then
    .battlegroundQueueUpdate update.bgQueueTypeId diff update.bgTypeId update.bracketId
      update.arenaType (0 < update.arenaMatchmakerRating) update.arenaMatchmakerRating
  else .battlegroundMatchmaking update.bgQueueTypeId update.bgTypeId update.bracketId

/-- The tick after some requests comes to an end.  It handles each of them once, with its five
values and in the order of the first requests, and makes one call for each, the one it asks for;
what the calls request is what is left. -/
def EachUpdatedOnce (diff : UInt32) (added : Nat → List QueueUpdate)
    (requests : List QueueUpdate) : Prop :=
  let distinct := requests.eraseDups
  ∃ turns tick,
    updateScheduledQueues diff added turns (requests.foldl scheduleQueueUpdate []) = some tick ∧
      tick.handled = distinct.map QueueUpdate.values ∧
      tick.calls = distinct.map (QueueUpdate.wanted diff) ∧
      tick.queueUpdateScheduler =
        ((List.range distinct.length).flatMap added).foldl scheduleQueueUpdate []

/-- The `switch` makes the call which is asked for, or none. -/
theorem QueueUpdate.call_values (diff : UInt32) (update : QueueUpdate) :
    update.values.call diff = if update.Dispatched then some (update.wanted diff) else none := by
  have isDispatched : update.Dispatched ↔ update.bgTypeId.val = battlegroundAA ∨
      update.bgTypeId.val ∈ [battlegroundRB, battlegroundAV, battlegroundWS, battlegroundAB,
        battlegroundEY, battlegroundSA, battlegroundIC] := List.mem_cons
  unfold ScheduledValues.call wanted
  by_cases arenas : update.bgTypeId.val = battlegroundAA
  · simp only [values, isDispatched, arenas, if_true, true_or]
  · simp only [values, isDispatched, arenas, if_false, false_or]
    rfl

/-- One call for each is made exactly if no type is ignored. -/
theorem calls_eq_wanted_iff (diff : UInt32) (updates : List QueueUpdate) :
    updates.filterMap (fun update => update.values.call diff) =
        updates.map (QueueUpdate.wanted diff) ↔
      ∀ update ∈ updates, update.Dispatched := by
  constructor
  · intro same update member
    have lengths := congrArg List.length same
    rw [List.length_map, List.filterMap_length_eq_length] at lengths
    have called := lengths update member
    rw [update.call_values] at called
    by_contra ignored
    simp [ignored] at called
  · intro dispatched
    rw [← List.filterMap_eq_map]
    apply List.filterMap_congr
    intro update member
    rw [update.call_values, if_pos (dispatched update member)]
    rfl

/--
The scheduled updates are made once each exactly if no more than 255 of them differ, so that the
counter of eight bits gets behind the last one, and none has a type which `Update` ignores.
-/
theorem eachUpdatedOnce_iff (diff : UInt32) (added : Nat → List QueueUpdate)
    (requests : List QueueUpdate) :
    EachUpdatedOnce diff added requests ↔
      requests.toFinset.card ≤ 255 ∧ ∀ update ∈ requests, update.Dispatched := by
  have members : (∀ update ∈ requests, update.Dispatched) ↔
      ∀ update ∈ requests.eraseDups, update.Dispatched := by
    simp only [List.mem_eraseDups]
  rw [EachUpdatedOnce, foldl_scheduleQueueUpdate, ← length_eraseDups, members]
  generalize requests.eraseDups = distinct
  constructor
  · rintro ⟨turns, tick, ended, _, calls, _⟩
    have few : distinct.length ≤ 255 := by
      by_contra many
      have long : 256 ≤ (distinct.map QueueUpdate.scheduleId).length := by
        rw [List.length_map]
        omega
      have some : ¬(distinct.map QueueUpdate.scheduleId).isEmpty = true := by
        intro empty
        rw [List.isEmpty_iff.mp empty] at long
        cases long
      rw [updateScheduledQueues, if_neg some, scheduledLoop_endless long] at ended
      cases ended
    rw [updateScheduledQueues_unique ended (updateScheduledQueues_of_few few)] at calls
    exact ⟨few, (calls_eq_wanted_iff diff distinct).mp calls⟩
  · rintro ⟨few, dispatched⟩
    exact ⟨_, _, updateScheduledQueues_of_few few, rfl,
      (calls_eq_wanted_iff diff distinct).mpr dispatched, rfl⟩

/-- An arena update for a rating. -/
def arenaUpdate (rating : Nat) : QueueUpdate where
  arenaMatchmakerRating := UInt32.ofNat rating
  arenaType := 2
  bgQueueTypeId := ⟨8, by decide⟩
  bgTypeId := ⟨battlegroundAA, by decide⟩
  bracketId := ⟨14, by decide⟩

/-- Teams of 256 ratings sign up between two ticks. -/
theorem manyRatings_endless :
    ¬∀ (diff : UInt32) (added : Nat → List QueueUpdate) (requests : List QueueUpdate),
      EachUpdatedOnce diff added requests := by
  intro always
  have once := always 0 (fun _ => []) ((List.range 256).map arenaUpdate)
  rw [eachUpdatedOnce_iff] at once
  have injective : Set.InjOn arenaUpdate (Finset.range 256 : Set Nat) := by
    intro first firstMember second secondMember same
    have ratings : UInt32.ofNat first = UInt32.ofNat second :=
      congrArg QueueUpdate.arenaMatchmakerRating same
    have numbers := congrArg UInt32.toNat ratings
    rw [UInt32.toNat_ofNat', UInt32.toNat_ofNat'] at numbers
    have firstSmall := Finset.mem_range.mp firstMember
    have secondSmall := Finset.mem_range.mp secondMember
    omega
  have all : ((List.range 256).map arenaUpdate).toFinset =
      (Finset.range 256).image arenaUpdate := by
    ext update
    simp
  rw [all, Finset.card_image_of_injOn injective, Finset.card_range] at once
  omega

end RealmServer.Battlegrounds
