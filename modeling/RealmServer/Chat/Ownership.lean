import RealmServer.Chat.Channel

/-!
# The owner of a channel

A channel with members has one owner, who is in it and moderates it.  Two
steps break this: joining a channel that its owner emptied, and an owner who
removes himself while others stay.  All the others keep it.
-/

namespace RealmServer.Chat

open Table Transition

/-! ## Entries of the container -/

namespace PlayerContainer

variable {store : PlayerContainer} {guid : ObjectGuid}

theorem contains_iff : store.contains guid = true ↔ ∃ entry ∈ store, entry.1 = guid :=
  Table.contains_iff

theorem access_of_contains (present : store.contains guid = true) : store.access guid = store :=
  if_pos present

theorem access_perm (missing : store.contains guid = false) :
    (store.access guid).Perm ((guid, .init) :: store) := by
  unfold access
  rw [missing, if_neg Bool.false_ne_true]
  exact List.perm_orderedInsert _ _ _

theorem access_keys (keys : (store.map Prod.fst).Nodup) :
    ((store.access guid).map Prod.fst).Nodup := by
  cases present : store.contains guid with
  | true =>
      rw [access_of_contains present]
      exact keys
  | false =>
      rw [((access_perm present).map Prod.fst).nodup_iff, List.map_cons, List.nodup_cons]
      refine ⟨fun member => ?_, keys⟩
      obtain ⟨entry, isEntry, same⟩ := List.mem_map.mp member
      exact absurd (contains_iff.mpr ⟨entry, isEntry, same⟩) (by simp [present])

theorem change_keys (keys : (store.map Prod.fst).Nodup) (put : PlayerInfo → PlayerInfo) :
    ((store.change guid put).map Prod.fst).Nodup :=
  modify_keys (access_keys keys) guid fun _ => rfl

theorem change_of_contains (present : store.contains guid = true)
    (put : PlayerInfo → PlayerInfo) :
    store.change guid put = modify Prod.fst store guid fun entry => (entry.1, put entry.2) := by
  unfold change
  rw [access_of_contains present]

theorem contains_change (other : ObjectGuid) (present : store.contains guid = true)
    (put : PlayerInfo → PlayerInfo) :
    (store.change guid put).contains other = store.contains other := by
  rw [change_of_contains present, Bool.eq_iff_iff, contains_iff, contains_iff]
  constructor
  · rintro ⟨entry, isEntry, rfl⟩
    rcases mem_modify.mp isEntry with ⟨isOld, -⟩ | ⟨old, isOld, -, rfl⟩
    · exact ⟨entry, isOld, rfl⟩
    · exact ⟨old, isOld, rfl⟩
  · rintro ⟨entry, isEntry, rfl⟩
    by_cases same : entry.1 = guid
    · exact ⟨_, mem_modify.mpr (.inr ⟨entry, isEntry, same, rfl⟩), rfl⟩
    · exact ⟨entry, mem_modify.mpr (.inl ⟨isEntry, same⟩), rfl⟩

theorem mem_change_of_missing (missing : store.contains guid = false)
    (put : PlayerInfo → PlayerInfo) {entry : ObjectGuid × PlayerInfo} :
    entry ∈ store.change guid put ↔ entry ∈ store ∨ entry = (guid, put .init) := by
  have absent : ∀ other ∈ store, other.1 ≠ guid := by
    intro other isOther same
    exact absurd (contains_iff.mpr ⟨other, isOther, same⟩) (by simp [missing])
  unfold change
  rw [mem_modify]
  simp only [(access_perm missing).mem_iff, List.mem_cons]
  constructor
  · rintro (⟨rfl | isOld, differs⟩ | ⟨old, rfl | isOld, same, rfl⟩)
    · exact absurd rfl differs
    · exact .inl isOld
    · exact .inr rfl
    · exact absurd same (absent old isOld)
  · rintro (isOld | rfl)
    · exact .inl ⟨.inr isOld, absent entry isOld⟩
    · exact .inr ⟨_, .inl rfl, rfl, rfl⟩

theorem get_of_mem (keys : (store.map Prod.fst).Nodup) {entry : ObjectGuid × PlayerInfo}
    (isEntry : entry ∈ store) : store.get entry.1 = entry.2 := by
  unfold get
  rw [find_of_mem keys isEntry]
  rfl

end PlayerContainer

/-! ## Channels with an owner -/

/-- Every entry is of a player inside, and bears his guid. -/
def Genuine (store : PlayerContainer) (inside : List ObjectGuid) : Prop :=
  ∀ entry ∈ store, entry.1 ∈ inside ∧ entry.2.player = entry.1

structure Owned (state : State) : Prop where
  genuine : Genuine state.channel.playersStore state.inside
  /-- A channel with members has an owner, who moderates it. -/
  owner : state.channel.playersStore ≠ [] → ∃ entry ∈ state.channel.playersStore,
    entry.1 = state.channel.ownerGUID ∧ entry.2.isOwner = true ∧ entry.2.isModerator = true
  /-- No other member has the flag. -/
  one : ∀ entry ∈ state.channel.playersStore, entry.2.isOwner = true →
    entry.1 = state.channel.ownerGUID

/-- What holds of every channel. -/
structure Sound (state : State) : Prop where
  ownership : state.channel.ownership = true
  keys : (state.channel.playersStore.map Prod.fst).Nodup
  players : ∀ guid ∈ state.inside, guid ≠ 0

/--
Nobody may join a channel that was left by its owner, and owners do not remove
themselves while others stay.
-/
def KeepsOwner (state : State) (event : Event) : Prop :=
  match event.request with
  | .joinChannel pass => state.channel.playersStore = [] → state.channel.ownerGUID ≠ 0 →
      state.channel.isBanned event.player.guid = true ∨
        (state.channel.password ≠ "" ∧ pass ≠ state.channel.password)
  | .kickOrBan badname _ => event.player.guid = state.channel.ownerGUID →
      event.connected badname = some event.player →
        state.channel.playersStore.erase event.player.guid = []
  | _ => True

namespace Channel

variable {channel : Channel} {inside : List ObjectGuid} {guid : ObjectGuid}

/-- The former owner loses his flag. -/
def withoutOwner (channel : Channel) : PlayerContainer :=
  if channel.ownerGUID ≠ 0 then
    modify Prod.fst channel.playersStore channel.ownerGUID
      fun entry => (entry.1, entry.2.setOwner false)
  else channel.playersStore

theorem mem_withoutOwner {entry : ObjectGuid × PlayerInfo}
    (isEntry : entry ∈ channel.withoutOwner) :
    ∃ old ∈ channel.playersStore, entry.1 = old.1 ∧ entry.2.player = old.2.player ∧
      (entry.2.isOwner = true → old.2.isOwner = true ∧
        (channel.ownerGUID ≠ 0 → old.1 ≠ channel.ownerGUID)) := by
  unfold withoutOwner at isEntry
  split_ifs at isEntry with some
  · rcases mem_modify.mp isEntry with ⟨isOld, differs⟩ | ⟨old, isOld, same, rfl⟩
    · exact ⟨entry, isOld, rfl, rfl, fun isOwner => ⟨isOwner, fun _ => differs⟩⟩
    · exact ⟨old, isOld, rfl, rfl, fun isOwner => absurd isOwner (by simp)⟩
  · exact ⟨entry, isEntry, rfl, rfl, fun isOwner => ⟨isOwner, fun other => absurd other some⟩⟩

theorem contains_withoutOwner : channel.withoutOwner.contains guid = channel.isOn guid := by
  unfold withoutOwner isOn
  split_ifs
  · rw [Bool.eq_iff_iff, PlayerContainer.contains_iff, PlayerContainer.contains_iff]
    constructor
    · rintro ⟨entry, isEntry, rfl⟩
      rcases mem_modify.mp isEntry with ⟨isOld, -⟩ | ⟨old, isOld, -, rfl⟩
      · exact ⟨entry, isOld, rfl⟩
      · exact ⟨old, isOld, rfl⟩
    · rintro ⟨entry, isEntry, rfl⟩
      by_cases same : entry.1 = channel.ownerGUID
      · exact ⟨_, mem_modify.mpr (.inr ⟨entry, isEntry, same, rfl⟩), rfl⟩
      · exact ⟨entry, mem_modify.mpr (.inl ⟨isEntry, same⟩), rfl⟩
  · rfl

theorem withoutOwner_keys (keys : (channel.playersStore.map Prod.fst).Nodup) :
    (channel.withoutOwner.map Prod.fst).Nodup := by
  unfold withoutOwner
  split_ifs
  · exact modify_keys keys _ fun _ => rfl
  · exact keys

theorem setOwnerGUID_eq (isPlayer : guid ≠ 0) :
    channel.setOwnerGUID guid = { channel with
      ownerGUID := guid
      playersStore := (channel.withoutOwner.change guid (·.setModerator true)).change guid
        (·.setOwner true) } := by
  unfold setOwnerGUID withoutOwner
  dsimp only
  rw [if_pos isPlayer]

theorem mem_setOwnerGUID (present : channel.isOn guid = true) (isPlayer : guid ≠ 0)
    {entry : ObjectGuid × PlayerInfo} :
    entry ∈ (channel.setOwnerGUID guid).playersStore ↔
      (entry ∈ channel.withoutOwner ∧ entry.1 ≠ guid) ∨
        ∃ old ∈ channel.withoutOwner, old.1 = guid ∧
          (old.1, (old.2.setModerator true).setOwner true) = entry := by
  have first : channel.withoutOwner.contains guid = true := by rw [contains_withoutOwner, present]
  have second := PlayerContainer.contains_change guid first (·.setModerator true)
  rw [first] at second
  rw [setOwnerGUID_eq isPlayer]
  dsimp only
  rw [PlayerContainer.change_of_contains second, PlayerContainer.change_of_contains first]
  simp only [mem_modify]
  constructor
  · rintro (⟨⟨isOld, -⟩ | ⟨old, isOld, same, rfl⟩, differs⟩ |
      ⟨middle, ⟨-, differs⟩ | ⟨old, isOld, same, rfl⟩, alsoSame, rfl⟩)
    · exact .inl ⟨isOld, differs⟩
    · exact absurd same differs
    · exact absurd alsoSame differs
    · exact .inr ⟨old, isOld, same, rfl⟩
  · rintro (⟨isOld, differs⟩ | ⟨old, isOld, same, rfl⟩)
    · exact .inl ⟨.inl ⟨isOld, differs⟩, differs⟩
    · exact .inr ⟨_, .inr ⟨old, isOld, same, rfl⟩, same, rfl⟩

theorem owned_setOwnerGUID (genuine : Genuine channel.playersStore inside)
    (marked : ∀ entry ∈ channel.playersStore, entry.2.isOwner = true →
      entry.1 = channel.ownerGUID ∧ channel.ownerGUID ≠ 0)
    (present : channel.isOn guid = true) (isPlayer : guid ≠ 0) :
    Owned ⟨channel.setOwnerGUID guid, inside⟩ := by
  have isGUID : (channel.setOwnerGUID guid).ownerGUID = guid := rfl
  refine ⟨?_, fun _ => ?_, ?_⟩
  · intro entry isEntry
    rcases (mem_setOwnerGUID present isPlayer).mp isEntry with ⟨isOther, -⟩ | ⟨new, isNew, -, rfl⟩
    · obtain ⟨old, isOld, sameKey, samePlayer, -⟩ := mem_withoutOwner isOther
      rw [samePlayer, sameKey]
      exact genuine old isOld
    · obtain ⟨oldest, isOld, sameKey, samePlayer, -⟩ := mem_withoutOwner isNew
      dsimp only [PlayerInfo.setOwner_player, PlayerInfo.setModerator_player]
      rw [samePlayer, sameKey]
      exact genuine oldest isOld
  · obtain ⟨old, isOld, same⟩ :=
      PlayerContainer.contains_iff.mp (contains_withoutOwner.trans present)
    exact ⟨_, (mem_setOwnerGUID present isPlayer).mpr (.inr ⟨old, isOld, same, rfl⟩), same,
      by simp, by simp⟩
  · intro entry isEntry isOwner
    rcases (mem_setOwnerGUID present isPlayer).mp isEntry with ⟨isEntry, -⟩ | ⟨old, -, same, rfl⟩
    · obtain ⟨old, isOld, -, -, flag⟩ := mem_withoutOwner isEntry
      obtain ⟨wasOwner, elsewhere⟩ := flag isOwner
      obtain ⟨same, some⟩ := marked old isOld wasOwner
      exact absurd same (elsewhere some)
    · exact same

theorem owned_change (owned : Owned ⟨channel, inside⟩) (present : channel.isOn guid = true)
    {put : PlayerInfo → PlayerInfo} (samePlayer : ∀ info, (put info).player = info.player)
    (sameOwner : ∀ info, (put info).isOwner = info.isOwner)
    (moderates : guid = channel.ownerGUID → ∀ info, info.isModerator = true →
      (put info).isModerator = true) :
    Owned ⟨{ channel with playersStore := channel.playersStore.change guid put }, inside⟩ := by
  rw [PlayerContainer.change_of_contains present]
  refine ⟨?_, fun _ => ?_, ?_⟩
  · intro entry isEntry
    rcases mem_modify.mp isEntry with ⟨isOld, -⟩ | ⟨old, isOld, -, rfl⟩
    · exact owned.genuine entry isOld
    · dsimp only
      rw [samePlayer]
      exact owned.genuine old isOld
  · obtain ⟨first, isFirst, -⟩ := PlayerContainer.contains_iff.mp present
    obtain ⟨entry, isEntry, isGUID, isOwner, isModerator⟩ :=
      owned.owner (List.ne_nil_of_mem isFirst)
    by_cases same : entry.1 = guid
    · exact ⟨_, mem_modify.mpr (.inr ⟨entry, isEntry, same, rfl⟩), isGUID,
        (sameOwner _).trans isOwner, moderates (same.symm.trans isGUID) _ isModerator⟩
    · exact ⟨entry, mem_modify.mpr (.inl ⟨isEntry, same⟩), isGUID, isOwner, isModerator⟩
  · intro entry isEntry isOwner
    rcases mem_modify.mp isEntry with ⟨isOld, -⟩ | ⟨old, isOld, -, rfl⟩
    · exact owned.one entry isOld isOwner
    · exact owned.one old isOld ((sameOwner _).symm.trans isOwner)

/-- A member without the flag of the owner goes. -/
theorem owned_erase (owned : Owned ⟨channel, inside⟩) (others : guid ≠ channel.ownerGUID)
    (bannedStore : List ObjectGuid) :
    Owned ⟨{ channel with
      bannedStore := bannedStore
      playersStore := channel.playersStore.erase guid }, inside.filter (· ≠ guid)⟩ := by
  refine ⟨?_, fun some => ?_, ?_⟩
  · intro entry isEntry
    obtain ⟨isOld, differs⟩ := mem_erase.mp isEntry
    obtain ⟨isInside, same⟩ := owned.genuine entry isOld
    exact ⟨List.mem_filter.mpr ⟨isInside, by simpa using differs⟩, same⟩
  · obtain ⟨first, isFirst⟩ := List.exists_mem_of_ne_nil _ some
    obtain ⟨entry, isEntry, isGUID, flags⟩ :=
      owned.owner (List.ne_nil_of_mem (mem_erase.mp isFirst).1)
    exact ⟨entry, mem_erase.mpr ⟨isEntry, fun same => others (same.symm.trans isGUID)⟩, isGUID,
      flags⟩
  · intro entry isEntry
    exact owned.one entry (mem_erase.mp isEntry).1

/-! ## The requests one by one -/

theorem isOn_iff : channel.isOn guid = true ↔ ∃ entry ∈ channel.playersStore, entry.1 = guid :=
  PlayerContainer.contains_iff

theorem owned_of_empty (isEmpty : channel.playersStore = []) : Owned ⟨channel, inside⟩ := by
  refine ⟨?_, fun some => absurd isEmpty some, ?_⟩ <;> simp [Genuine, isEmpty]

/-- An owner leaves others behind, one of whom is the next owner. -/
theorem owned_handOver (owned : Owned ⟨channel, inside⟩) (players : ∀ guid ∈ inside, guid ≠ 0)
    (bannedStore : List ObjectGuid) {newowner : ObjectGuid}
    (stays : ∃ entry ∈ channel.playersStore.erase channel.ownerGUID, entry.1 = newowner) :
    Owned ⟨({ channel with
      bannedStore := bannedStore
      playersStore := (channel.playersStore.erase channel.ownerGUID).change newowner
        (·.setModerator true) } : Channel).setOwnerGUID newowner,
      inside.filter (· ≠ channel.ownerGUID)⟩ := by
  have present := PlayerContainer.contains_iff.mpr stays
  obtain ⟨entry, isEntry, rfl⟩ := stays
  have isPlayer : entry.1 ≠ 0 := players _ (owned.genuine entry (mem_erase.mp isEntry).1).1
  have before : ∀ next ∈ (channel.playersStore.erase channel.ownerGUID).change entry.1
      (·.setModerator true), ∃ old ∈ channel.playersStore, old.1 ≠ channel.ownerGUID ∧
        next.1 = old.1 ∧ next.2.player = old.2.player ∧ next.2.isOwner = old.2.isOwner := by
    intro next isNext
    rw [PlayerContainer.change_of_contains present] at isNext
    rcases mem_modify.mp isNext with ⟨isOld, -⟩ | ⟨old, isOld, -, rfl⟩
    · obtain ⟨isOld, differs⟩ := mem_erase.mp isOld
      exact ⟨next, isOld, differs, rfl, rfl, rfl⟩
    · obtain ⟨isOld, differs⟩ := mem_erase.mp isOld
      exact ⟨old, isOld, differs, rfl, by simp, by simp⟩
  apply owned_setOwnerGUID
  · intro next isNext
    obtain ⟨old, isOld, differs, sameKey, samePlayer, -⟩ := before next isNext
    obtain ⟨isInside, same⟩ := owned.genuine old isOld
    rw [samePlayer, sameKey]
    exact ⟨List.mem_filter.mpr ⟨isInside, by simpa using differs⟩, same⟩
  · intro next isNext isOwner
    obtain ⟨old, isOld, differs, -, -, sameFlag⟩ := before next isNext
    exact absurd (owned.one old isOld (sameFlag ▸ isOwner)) differs
  · exact (PlayerContainer.contains_change _ present (·.setModerator true)).trans present
  · exact isPlayer

/-- The flag of an entry is what `LeaveChannel` asks for. -/
theorem isOwner_get_iff (owned : Owned ⟨channel, inside⟩)
    (keys : (channel.playersStore.map Prod.fst).Nodup) (present : channel.isOn guid = true) :
    (channel.playersStore.get guid).isOwner = true ↔ guid = channel.ownerGUID := by
  obtain ⟨entry, isEntry, rfl⟩ := isOn_iff.mp present
  rw [PlayerContainer.get_of_mem keys isEntry]
  constructor
  · exact owned.one entry isEntry
  · intro same
    obtain ⟨other, isOther, isGUID, isOwner, -⟩ := owned.owner (List.ne_nil_of_mem isEntry)
    have equal := List.inj_on_of_nodup_map keys isEntry isOther (same.trans isGUID.symm)
    exact equal ▸ isOwner

theorem owned_leaveChannel (owned : Owned ⟨channel, inside⟩)
    (sound : Sound ⟨channel, inside⟩) {player : Player} {left : Bool} {next : Channel}
    (result : channel.leaveChannel player = (left, next)) :
    Owned ⟨next, if left then inside.filter (· ≠ player.guid) else inside⟩ := by
  unfold leaveChannel at result
  split_ifs at result with missing
  · obtain ⟨rfl, rfl⟩ := Prod.mk.inj result
    exact owned
  · have present : channel.isOn player.guid = true := by simpa using missing
    have ownership : channel.ownership = true := sound.ownership
    dsimp only at result
    split at result
    · rename_i isEmpty
      obtain ⟨rfl, rfl⟩ := Prod.mk.inj result
      exact owned_of_empty isEmpty
    · rename_i first rest others
      split_ifs at result with changeowner
      · obtain ⟨rfl, rfl⟩ := Prod.mk.inj result
        rw [Bool.and_eq_true, isOwner_get_iff owned sound.keys present] at changeowner
        have isFirst : first ∈ channel.playersStore.erase player.guid := by simp [others]
        have samePlayer := (owned.genuine first (mem_erase.mp isFirst).1).2
        rw [if_pos rfl, changeowner.1, samePlayer]
        rw [changeowner.1] at isFirst
        exact owned_handOver owned sound.players channel.bannedStore ⟨first, isFirst, rfl⟩
      · obtain ⟨rfl, rfl⟩ := Prod.mk.inj result
        have member : player.guid ≠ channel.ownerGUID := by
          intro same
          exact changeowner (by
            rw [(isOwner_get_iff owned sound.keys present).mpr same, ownership, Bool.and_self])
        exact owned_erase owned member channel.bannedStore

theorem kickOrBan_cases {event : Event} {badname : String} {ban : Bool}
    {removed : Option ObjectGuid} {next : Channel} (ownership : channel.ownership = true)
    (result : channel.kickOrBan event badname ban = (removed, next)) :
    (removed = none ∧ next = channel) ∨ ∃ victim bannedStore,
      removed = some victim ∧ channel.isOn event.player.guid = true ∧
      (∃ bad, event.connected badname = some bad ∧ bad.guid = victim) ∧
      ((victim ≠ channel.ownerGUID ∨ channel.playersStore.erase victim = []) ∧
          next = { channel with
            bannedStore := bannedStore
            playersStore := channel.playersStore.erase victim } ∨
        victim = channel.ownerGUID ∧ channel.playersStore.erase victim ≠ [] ∧
          next = ({ channel with
            bannedStore := bannedStore
            playersStore := (channel.playersStore.erase victim).change event.player.guid
              (·.setModerator true) } : Channel).setOwnerGUID event.player.guid) := by
  unfold kickOrBan at result
  dsimp only at result
  split_ifs at result with missing rights
  · obtain ⟨rfl, rfl⟩ := Prod.mk.inj result
    exact .inl ⟨rfl, rfl⟩
  · obtain ⟨rfl, rfl⟩ := Prod.mk.inj result
    exact .inl ⟨rfl, rfl⟩
  · split at result
    · obtain ⟨rfl, rfl⟩ := Prod.mk.inj result
      exact .inl ⟨rfl, rfl⟩
    · rename_i bad isBad
      generalize (if ban && !channel.isBanned bad.guid then bad.guid :: channel.bannedStore
        else channel.bannedStore) = bannedStore at result
      split_ifs at result with absent guarded changes
      · obtain ⟨rfl, rfl⟩ := Prod.mk.inj result
        exact .inl ⟨rfl, rfl⟩
      · obtain ⟨rfl, rfl⟩ := Prod.mk.inj result
        exact .inl ⟨rfl, rfl⟩
      · obtain ⟨rfl, rfl⟩ := Prod.mk.inj result
        refine .inr ⟨bad.guid, bannedStore, rfl, by simpa using missing, ⟨bad, isBad, rfl⟩,
          .inr ?_⟩
        simp only [ownership, Bool.and_true, Bool.and_eq_true, decide_eq_true_eq,
          Bool.not_eq_true', List.isEmpty_eq_false_iff] at changes
        exact ⟨changes.1.symm, changes.2, rfl⟩
      · obtain ⟨rfl, rfl⟩ := Prod.mk.inj result
        refine .inr ⟨bad.guid, bannedStore, rfl, by simpa using missing, ⟨bad, isBad, rfl⟩,
          .inl ⟨?_, rfl⟩⟩
        simp only [ownership, Bool.and_true, Bool.and_eq_true, decide_eq_true_eq,
          Bool.not_eq_true', List.isEmpty_eq_false_iff, not_and_or, not_not] at changes
        exact changes.imp Ne.symm id

theorem owned_kickOrBan (owned : Owned ⟨channel, inside⟩) (sound : Sound ⟨channel, inside⟩)
    {event : Event} {badname : String} {ban : Bool} {victim : ObjectGuid} {next : Channel}
    (result : channel.kickOrBan event badname ban = (some victim, next))
    (keeps : victim = event.player.guid → event.player.guid = channel.ownerGUID →
      channel.playersStore.erase event.player.guid = []) :
    Owned ⟨next, inside.filter (· ≠ victim)⟩ := by
  have sure : channel.ownership = true := sound.ownership
  rcases kickOrBan_cases sure result with ⟨nobody, -⟩ |
    ⟨_, bannedStore, isVictim, isOn, -, ⟨stays, rfl⟩ | ⟨isOwner, others, rfl⟩⟩
  · exact absurd nobody (by simp)
  · obtain rfl := Option.some.inj isVictim
    rcases stays with member | isEmpty
    · exact owned_erase owned member bannedStore
    · exact owned_of_empty isEmpty
  · obtain rfl := Option.some.inj isVictim
    subst isOwner
    obtain ⟨entry, isEntry, isGood⟩ := isOn_iff.mp isOn
    refine owned_handOver owned sound.players bannedStore ⟨entry, mem_erase.mpr ⟨isEntry, ?_⟩,
      isGood⟩
    intro himself
    have isOwner := isGood.symm.trans himself
    exact others (isOwner ▸ keeps isOwner.symm isOwner)

/-- Nothing keeps an owner from removing himself. -/
theorem kickOrBan_himself (owned : Owned ⟨channel, inside⟩) (sound : Sound ⟨channel, inside⟩)
    {event : Event} {badname : String} (ban : Bool)
    (isOwner : event.player.guid = channel.ownerGUID)
    (himself : event.connected badname = some event.player) (some : channel.playersStore ≠ []) :
    (channel.kickOrBan event badname ban).1 = Option.some event.player.guid := by
  obtain ⟨entry, isEntry, isGUID, -, isModerator⟩ := owned.owner some
  have same : entry.1 = event.player.guid := isGUID.trans isOwner.symm
  have isOn : channel.isOn channel.ownerGUID = true := isOn_iff.mpr ⟨entry, isEntry, isGUID⟩
  have moderates : channel.mayModerate event.player = true := by
    unfold mayModerate
    rw [← same, PlayerContainer.get_of_mem sound.keys isEntry, isModerator, Bool.true_or]
  unfold kickOrBan
  simp only [isOn, moderates, himself, isOwner, Bool.not_true, Bool.false_eq_true, if_false,
    ne_eq, not_true_eq_false, decide_false, Bool.and_false]
  split_ifs <;> rfl

/-- An owner who removes himself gets an entry that is nobody's. -/
theorem not_owned_kickOrBan (sound : Sound ⟨channel, inside⟩) {event : Event}
    {badname : String} {ban : Bool} {next : Channel}
    (result : channel.kickOrBan event badname ban = (some event.player.guid, next))
    (isOwner : event.player.guid = channel.ownerGUID)
    (others : channel.playersStore.erase event.player.guid ≠ []) (inside : List ObjectGuid) :
    ¬Owned ⟨next, inside⟩ := by
  have isPlayer := event.player.notEmpty
  have sure : channel.ownership = true := sound.ownership
  rcases kickOrBan_cases sure result with ⟨nobody, -⟩ |
    ⟨_, bannedStore, isVictim, -, -, ⟨stays, -⟩ | ⟨-, -, rfl⟩⟩
  · exact absurd nobody (by simp)
  · obtain rfl := Option.some.inj isVictim
    rcases stays with member | isEmpty
    · exact absurd isOwner member
    · exact absurd isEmpty others
  · obtain rfl := Option.some.inj isVictim
    intro owned
    have missing : (channel.playersStore.erase event.player.guid).contains event.player.guid =
        false := by
      rw [← Bool.not_eq_true, PlayerContainer.contains_iff]
      rintro ⟨entry, isEntry, same⟩
      exact (mem_erase.mp isEntry).2 same
    have isNew : ∀ {entry}, entry ∈ (channel.playersStore.erase event.player.guid).change
        event.player.guid (·.setModerator true) → entry.1 = event.player.guid →
          entry.2.player = 0 := by
      intro entry isEntry same
      rcases (PlayerContainer.mem_change_of_missing missing _).mp isEntry with isOld | rfl
      · exact absurd same (mem_erase.mp isOld).2
      · rfl
    have present : ({ channel with
        bannedStore := bannedStore
        playersStore := (channel.playersStore.erase event.player.guid).change event.player.guid
          (·.setModerator true) } : Channel).isOn event.player.guid = true :=
      isOn_iff.mpr ⟨(event.player.guid, PlayerInfo.init.setModerator true),
        (PlayerContainer.mem_change_of_missing missing (·.setModerator true)).mpr (.inr rfl), rfl⟩
    obtain ⟨new, isEntry, same⟩ :=
      PlayerContainer.contains_iff.mp (contains_withoutOwner.trans present)
    obtain ⟨old, isOld, sameKey, samePlayer, -⟩ := mem_withoutOwner isEntry
    have genuine := (owned.genuine _ ((mem_setOwnerGUID present isPlayer).mpr
      (.inr ⟨new, isEntry, same, rfl⟩))).2
    dsimp only [PlayerInfo.setOwner_player, PlayerInfo.setModerator_player] at genuine
    rw [samePlayer, isNew isOld (sameKey.symm.trans same), same] at genuine
    exact isPlayer genuine.symm

/-- Someone new gets his entry. -/
def entered (channel : Channel) (player : Player) : Channel :=
  { channel with
    playersStore := channel.playersStore.change player.guid
      fun _ => ⟨player.guid, memberFlagNone⟩ }

theorem joinChannel_cases {player : Player} {pass : String} {joined : Bool} {next : Channel}
    (ownership : channel.ownership = true)
    (result : channel.joinChannel player pass = (joined, next)) :
    (joined = false ∧ next = channel ∧ (channel.isOn player.guid = true ∨
        channel.isBanned player.guid = true ∨ (channel.password ≠ "" ∧ pass ≠ channel.password))) ∨
      joined = true ∧ channel.isOn player.guid = false ∧
        ¬(channel.isBanned player.guid = true ∨
          (channel.password ≠ "" ∧ pass ≠ channel.password)) ∧
        (channel.ownerGUID ≠ 0 ∧ next = channel.entered player ∨
          channel.ownerGUID = 0 ∧
            next = { (channel.entered player).setOwnerGUID player.guid with
              playersStore :=
                ((channel.entered player).setOwnerGUID player.guid).playersStore.change player.guid
                  (·.setModerator true) }) := by
  unfold joinChannel at result
  dsimp only at result
  split_ifs at result with inside banned password owner
  · obtain ⟨rfl, rfl⟩ := Prod.mk.inj result
    exact .inl ⟨rfl, rfl, .inl inside⟩
  · obtain ⟨rfl, rfl⟩ := Prod.mk.inj result
    exact .inl ⟨rfl, rfl, .inr (.inl banned)⟩
  · obtain ⟨rfl, rfl⟩ := Prod.mk.inj result
    exact .inl ⟨rfl, rfl, .inr (.inr password)⟩
  · obtain ⟨rfl, rfl⟩ := Prod.mk.inj result
    exact .inr ⟨rfl, by simpa using inside, not_or.mpr ⟨banned, password⟩, .inr ⟨owner.1, rfl⟩⟩
  · obtain ⟨rfl, rfl⟩ := Prod.mk.inj result
    refine .inr ⟨rfl, by simpa using inside, not_or.mpr ⟨banned, password⟩,
      .inl ⟨fun noOwner => ?_, rfl⟩⟩
    exact owner ⟨noOwner, ownership⟩

/-- The entry of someone new. -/
theorem mem_joined {player : Player} (outside : channel.isOn player.guid = false)
    {entry : ObjectGuid × PlayerInfo} :
    entry ∈ (channel.entered player).playersStore ↔
      entry ∈ channel.playersStore ∨ entry = (player.guid, ⟨player.guid, memberFlagNone⟩) :=
  PlayerContainer.mem_change_of_missing outside fun _ => ⟨player.guid, memberFlagNone⟩

theorem not_isOwner_joined (guid : ObjectGuid) :
    (PlayerInfo.mk guid memberFlagNone).isOwner = false := by
  simp [PlayerInfo.isOwner, PlayerInfo.hasFlag, memberFlagNone]

theorem genuine_joined (genuine : Genuine channel.playersStore inside) {player : Player}
    (outside : channel.isOn player.guid = false) :
    Genuine (channel.entered player).playersStore (player.guid :: inside) := by
  intro entry isEntry
  rcases (mem_joined outside).mp isEntry with isOld | rfl
  · obtain ⟨isInside, same⟩ := genuine entry isOld
    exact ⟨List.mem_cons_of_mem _ isInside, same⟩
  · exact ⟨List.mem_cons_self, rfl⟩

theorem owned_joinChannel (owned : Owned ⟨channel, inside⟩) (sound : Sound ⟨channel, inside⟩)
    {player : Player} {pass : String} {next : Channel}
    (result : channel.joinChannel player pass = (true, next))
    (keeps : channel.playersStore = [] → channel.ownerGUID = 0) :
    Owned ⟨next, player.guid :: inside⟩ := by
  have sure : channel.ownership = true := sound.ownership
  rcases joinChannel_cases sure result with ⟨refused, -⟩ |
    ⟨-, outside, -, ⟨hasOwner, rfl⟩ | ⟨noOwner, rfl⟩⟩
  · exact absurd refused (by simp)
  · refine ⟨genuine_joined owned.genuine outside, fun _ => ?_, ?_⟩
    · obtain ⟨entry, isEntry, flags⟩ :=
        owned.owner fun isEmpty => hasOwner (keeps isEmpty)
      exact ⟨entry, (mem_joined outside).mpr (.inl isEntry), flags⟩
    · intro entry isEntry isOwner
      rcases (mem_joined outside).mp isEntry with isOld | rfl
      · exact owned.one entry isOld isOwner
      · exact absurd isOwner (by simp [not_isOwner_joined])
  · have present : (channel.entered player).isOn player.guid = true :=
      isOn_iff.mpr ⟨(player.guid, ⟨player.guid, memberFlagNone⟩),
        (mem_joined outside).mpr (.inr rfl), rfl⟩
    have handed := owned_setOwnerGUID (genuine_joined owned.genuine outside) (by
      intro entry isEntry isOwner
      rcases (mem_joined outside).mp isEntry with isOld | rfl
      · have isGUID := owned.one entry isOld isOwner
        exact absurd (isGUID.trans noOwner) (sound.players _ (owned.genuine entry isOld).1)
      · exact absurd isOwner (by simp [not_isOwner_joined])) present player.notEmpty
    obtain ⟨entry, isEntry, isGUID, -⟩ := handed.owner (by
      obtain ⟨old, isOld, same⟩ :=
        PlayerContainer.contains_iff.mp (contains_withoutOwner.trans present)
      exact List.ne_nil_of_mem ((mem_setOwnerGUID present player.notEmpty).mpr
        (.inr ⟨old, isOld, same, rfl⟩)))
    exact owned_change handed (isOn_iff.mpr ⟨entry, isEntry, isGUID⟩) (by simp) (by simp) (by simp)

/-- The first to join a channel that was left by its owner does not own it. -/
theorem not_owned_joinChannel (sound : Sound ⟨channel, inside⟩) {player : Player} {pass : String}
    {next : Channel} (result : channel.joinChannel player pass = (true, next))
    (isEmpty : channel.playersStore = []) (hasOwner : channel.ownerGUID ≠ 0)
    (inside : List ObjectGuid) : ¬Owned ⟨next, inside⟩ := by
  have sure : channel.ownership = true := sound.ownership
  rcases joinChannel_cases sure result with ⟨refused, -⟩ |
    ⟨-, outside, -, ⟨-, rfl⟩ | ⟨noOwner, -⟩⟩
  · exact absurd refused (by simp)
  · intro owned
    have isNew := (mem_joined outside).mpr (.inr rfl)
    obtain ⟨entry, isEntry, -, isOwner, -⟩ := owned.owner (List.ne_nil_of_mem isNew)
    rcases (mem_joined outside).mp isEntry with isOld | rfl
    · exact absurd isOld (by simp [isEmpty])
    · exact absurd isOwner (by simp [not_isOwner_joined])
  · exact absurd noOwner hasOwner

theorem owned_setMode (owned : Owned ⟨channel, inside⟩) (event : Event) (p2n : String)
    (mod set : Bool) : Owned ⟨channel.setMode event p2n mod set, inside⟩ := by
  unfold setMode
  dsimp only
  split
  · exact owned
  · split
    · exact owned
    · split
      · exact owned
      · rename_i own
        split
        · exact owned
        · rename_i newp found
          split
          · exact owned
          · rename_i refused
            have present : channel.isOn newp.guid = true := by
              simp only [Bool.or_eq_true, not_or, Bool.not_eq_true', Bool.not_eq_false] at refused
              exact refused.1
            split
            · exact owned
            · rename_i guarded
              unfold putMode
              split_ifs with isMod
              · refine owned_change owned present (by simp) (by simp) fun isOwner => ?_
                -- only the owner himself gets here, and he has not that name
                have himself : newp.guid = event.player.guid := by
                  by_contra other
                  exact guarded ⟨isOwner.symm, fun same => other (isOwner.trans same)⟩
                have equal := event.himself p2n newp found himself
                exact absurd ⟨himself.symm.trans isOwner,
                  (event.named p2n newp found).symm.trans (congrArg Player.name equal), isMod⟩ own
              · rw [PlayerContainer.access_of_contains present]
                exact owned
              · exact owned_change owned present (by simp) (by simp) (by simp)
              · rw [PlayerContainer.access_of_contains present]
                exact owned

theorem owned_setOwner (owned : Owned ⟨channel, inside⟩) (sound : Sound ⟨channel, inside⟩)
    (event : Event) (newname : String) : Owned ⟨channel.setOwner event newname, inside⟩ := by
  unfold setOwner
  dsimp only
  split_ifs with missing rights
  · exact owned
  · exact owned
  · split
    · exact owned
    · rename_i newp found
      split_ifs with refused
      · exact owned
      · have present : channel.isOn newp.guid = true := by
          simp only [Bool.or_eq_true, not_or, Bool.not_eq_true', Bool.not_eq_false] at refused
          exact refused.1
        have old : ∀ entry ∈ channel.playersStore.change newp.guid (·.setModerator true),
            ∃ before ∈ channel.playersStore, entry.1 = before.1 ∧
              entry.2.player = before.2.player ∧ entry.2.isOwner = before.2.isOwner := by
          intro entry isEntry
          rw [PlayerContainer.change_of_contains present] at isEntry
          rcases mem_modify.mp isEntry with ⟨isOld, -⟩ | ⟨before, isOld, -, rfl⟩
          · exact ⟨entry, isOld, rfl, rfl, rfl⟩
          · exact ⟨before, isOld, rfl, by simp, by simp⟩
        refine owned_setOwnerGUID ?_ ?_ ?_ newp.notEmpty
        · intro entry isEntry
          obtain ⟨before, isOld, sameKey, samePlayer, -⟩ := old entry isEntry
          rw [samePlayer, sameKey]
          exact owned.genuine before isOld
        · intro entry isEntry isOwner
          obtain ⟨before, isOld, sameKey, -, sameFlag⟩ := old entry isEntry
          have isGUID := owned.one before isOld (sameFlag ▸ isOwner)
          refine ⟨sameKey.trans isGUID, ?_⟩
          rw [← isGUID]
          exact sound.players _ (owned.genuine before isOld).1
        · exact (PlayerContainer.contains_change _ present (·.setModerator true)).trans present

/-! ## What no request changes -/

/-- The container keeps one entry for each key. -/
structure Kept (channel next : Channel) : Prop where
  ownership : next.ownership = channel.ownership
  keys : (channel.playersStore.map Prod.fst).Nodup → (next.playersStore.map Prod.fst).Nodup

theorem Kept.refl (channel : Channel) : Kept channel channel := ⟨rfl, id⟩

theorem Kept.trans {first second third : Channel} (before : Kept first second)
    (after : Kept second third) : Kept first third :=
  ⟨after.ownership.trans before.ownership, fun keys => after.keys (before.keys keys)⟩

theorem kept_change (channel : Channel) (guid : ObjectGuid) (put : PlayerInfo → PlayerInfo) :
    Kept channel { channel with playersStore := channel.playersStore.change guid put } :=
  ⟨rfl, fun keys => PlayerContainer.change_keys keys put⟩

theorem kept_erase (channel : Channel) (guid : ObjectGuid) (bannedStore : List ObjectGuid) :
    Kept channel { channel with
      bannedStore := bannedStore
      playersStore := channel.playersStore.erase guid } :=
  ⟨rfl, fun keys => erase_keys keys guid⟩

theorem kept_setOwnerGUID (channel : Channel) (guid : ObjectGuid) :
    Kept channel (channel.setOwnerGUID guid) := by
  refine ⟨rfl, fun keys => ?_⟩
  have cleared : (channel.withoutOwner.map Prod.fst).Nodup := withoutOwner_keys keys
  by_cases isPlayer : guid = 0
  · unfold setOwnerGUID
    dsimp only
    rw [if_neg (not_not.mpr isPlayer)]
    exact cleared
  · rw [setOwnerGUID_eq isPlayer]
    show (((channel.withoutOwner.change guid (·.setModerator true)).change guid
      (·.setOwner true)).map Prod.fst).Nodup
    exact PlayerContainer.change_keys (PlayerContainer.change_keys cleared _) _

theorem kept_leaveChannel (channel : Channel) (player : Player) :
    Kept channel (channel.leaveChannel player).2 := by
  unfold leaveChannel
  dsimp only
  have erased := kept_erase channel player.guid channel.bannedStore
  split
  · exact .refl channel
  · split
    · exact erased
    · split
      · exact erased.trans ((kept_change _ _ _).trans (kept_setOwnerGUID _ _))
      · exact erased

theorem kept_setMode (channel : Channel) (event : Event) (p2n : String) (mod set : Bool) :
    Kept channel (channel.setMode event p2n mod set) := by
  have put : ∀ guid is put, Kept channel (channel.putMode guid is put set) := by
    intro guid is put
    unfold putMode
    split_ifs
    · exact kept_change _ _ _
    · exact ⟨rfl, PlayerContainer.access_keys⟩
  unfold setMode
  dsimp only
  split
  · exact .refl channel
  · split
    · exact .refl channel
    · split
      · exact .refl channel
      · split
        · exact .refl channel
        · split_ifs
          · exact .refl channel
          · exact .refl channel
          · exact put _ _ _
          · exact put _ _ _

theorem kept_setOwner (channel : Channel) (event : Event) (newname : String) :
    Kept channel (channel.setOwner event newname) := by
  unfold setOwner
  dsimp only
  split
  · exact .refl channel
  · split
    · exact .refl channel
    · split
      · exact .refl channel
      · split
        · exact .refl channel
        · exact (kept_change _ _ _).trans (kept_setOwnerGUID _ _)

theorem kept_unBan (channel : Channel) (event : Event) (badname : String) :
    Kept channel (channel.unBan event badname) := by
  unfold unBan
  split
  · exact .refl channel
  · split
    · exact .refl channel
    · split
      · exact .refl channel
      · split
        · exact .refl channel
        · exact ⟨rfl, id⟩

theorem kept_changePassword (channel : Channel) (player : Player) (pass : String) :
    Kept channel (channel.changePassword player pass) := by
  unfold changePassword
  split_ifs
  · exact .refl channel
  · exact .refl channel
  · exact ⟨rfl, id⟩

theorem kept_joinChannel (ownership : channel.ownership = true) (player : Player) (pass : String) :
    Kept channel (channel.joinChannel player pass).2 := by
  have entry : Kept channel (channel.entered player) := kept_change _ _ _
  rcases joinChannel_cases ownership (Prod.mk.eta (p := channel.joinChannel player pass)).symm
    with ⟨-, next, -⟩ | ⟨-, -, -, ⟨-, next⟩ | ⟨-, next⟩⟩
  · rw [next]
    exact .refl channel
  · rw [next]
    exact entry
  · rw [next]
    exact entry.trans ((kept_setOwnerGUID _ _).trans (kept_change _ _ _))

theorem kept_kickOrBan (ownership : channel.ownership = true) (event : Event) (badname : String)
    (ban : Bool) : Kept channel (channel.kickOrBan event badname ban).2 := by
  rcases kickOrBan_cases ownership (Prod.mk.eta (p := channel.kickOrBan event badname ban)).symm
    with ⟨-, next⟩ | ⟨victim, bannedStore, -, -, -, ⟨-, next⟩ | ⟨-, -, next⟩⟩
  · rw [next]
    exact .refl channel
  · rw [next]
    exact kept_erase channel victim bannedStore
  · rw [next]
    exact (kept_erase channel victim bannedStore).trans
      ((kept_change _ _ _).trans (kept_setOwnerGUID _ _))

end Channel

/-! ## All runs -/

open Channel

theorem Sound.of_kept {state next : State} (sound : Sound state)
    (kept : Kept state.channel next.channel) (players : ∀ guid ∈ next.inside, guid ≠ 0) :
    Sound next :=
  ⟨kept.ownership.trans sound.ownership, kept.keys sound.keys, players⟩

/-- One step, whatever is asked for. -/
theorem sound_step (state : State) (event : Event) (sound : Sound state) :
    Sound (step state event) := by
  have fewer : ∀ keep : ObjectGuid → Bool, ∀ guid ∈ state.inside.filter keep, guid ≠ 0 :=
    fun _ guid member => sound.players guid (List.mem_of_mem_filter member)
  unfold step
  cases event.request with
  | joinChannel pass =>
      refine sound.of_kept (kept_joinChannel sound.ownership event.player pass) ?_
      dsimp only
      split_ifs
      · exact List.forall_mem_cons.mpr ⟨event.player.notEmpty, sound.players⟩
      · exact sound.players
  | leaveChannel =>
      refine sound.of_kept (kept_leaveChannel state.channel event.player) ?_
      dsimp only
      split_ifs
      · exact fewer _
      · exact sound.players
  | kickOrBan badname ban =>
      refine sound.of_kept (kept_kickOrBan sound.ownership event badname ban) ?_
      dsimp only
      split
      · exact sound.players
      · exact fewer _
  | unBan badname => exact sound.of_kept (kept_unBan _ _ _) sound.players
  | changePassword pass => exact sound.of_kept (kept_changePassword _ _ _) sound.players
  | setMode p2n mod set => exact sound.of_kept (kept_setMode _ _ _ _ _) sound.players
  | setOwner newname => exact sound.of_kept (kept_setOwner _ _ _) sound.players

/-- One step keeps the owner exactly under the condition. -/
theorem owned_step_iff (state : State) (event : Event) (sound : Sound state)
    (owned : Owned state) : Owned (step state event) ↔ KeepsOwner state event := by
  obtain ⟨channel, inside⟩ := state
  unfold step KeepsOwner
  cases event.request with
  | joinChannel pass =>
      dsimp only
      cases result : channel.joinChannel event.player pass with
      | mk joined next =>
          cases joined with
          | false =>
              rcases joinChannel_cases sound.ownership result with ⟨-, rfl, refused⟩ | ⟨joined, -⟩
              · refine iff_of_true (by simpa using owned) fun isEmpty _ => ?_
                exact refused.resolve_left fun isOn => by
                  obtain ⟨entry, isEntry, -⟩ := isOn_iff.mp isOn
                  exact absurd isEntry (by simp [isEmpty])
              · exact absurd joined Bool.false_ne_true
          | true =>
              have accepted : ¬(channel.isBanned event.player.guid = true ∨
                  (channel.password ≠ "" ∧ pass ≠ channel.password)) := by
                rcases joinChannel_cases sound.ownership result with ⟨refused, -⟩ |
                  ⟨-, -, accepted, -⟩
                · exact absurd refused (by simp)
                · exact accepted
              simp only [if_true]
              constructor
              · intro next isEmpty hasOwner
                exact absurd next (not_owned_joinChannel sound result isEmpty hasOwner _)
              · intro keeps
                apply owned_joinChannel owned sound result
                intro isEmpty
                by_contra hasOwner
                exact accepted (keeps isEmpty hasOwner)
  | leaveChannel =>
      exact iff_of_true (owned_leaveChannel owned sound Prod.mk.eta.symm) trivial
  | kickOrBan badname ban =>
      dsimp only
      cases result : channel.kickOrBan event badname ban with
      | mk removed next =>
          cases removed with
          | none =>
              rcases kickOrBan_cases sound.ownership result with ⟨-, rfl⟩ | ⟨_, _, removed, -⟩
              · refine iff_of_true (by simpa using owned) fun isOwner himself => ?_
                by_contra others
                have stays : next.playersStore ≠ [] := fun isEmpty => others (by simp [isEmpty,
                  PlayerContainer.erase, Table.erase])
                have removed := kickOrBan_himself owned sound ban isOwner himself stays
                exact absurd (result ▸ removed) (by simp)
              · exact absurd removed (by simp)
          | some victim =>
              dsimp only
              rcases kickOrBan_cases sound.ownership result with ⟨nobody, -⟩ |
                ⟨_, _, isVictim, -, ⟨bad, isBad, sameGUID⟩, -⟩
              · exact absurd nobody (by simp)
              obtain rfl := Option.some.inj isVictim
              constructor
              · intro next isOwner himself
                by_contra others
                obtain rfl := Option.some.inj (isBad.symm.trans himself)
                rw [← sameGUID] at result
                exact not_owned_kickOrBan sound result isOwner others _ next
              · intro keeps
                apply owned_kickOrBan owned sound result
                rintro same isOwner
                have equal := event.himself badname bad isBad (sameGUID.trans same)
                exact keeps isOwner (equal ▸ isBad)
  | unBan badname =>
      refine iff_of_true ?_ trivial
      dsimp only
      unfold unBan
      split
      · exact owned
      · split
        · exact owned
        · split
          · exact owned
          · split
            · exact owned
            · exact { owned with }
  | changePassword pass =>
      refine iff_of_true ?_ trivial
      dsimp only
      unfold changePassword
      split_ifs
      · exact owned
      · exact owned
      · exact { owned with }
  | setMode p2n mod set => exact iff_of_true (owned_setMode owned event p2n mod set) trivial
  | setOwner newname => exact iff_of_true (owned_setOwner owned sound event newname) trivial

/-- A channel nobody has joined yet. -/
def State.start (password : String) (bannedStore : List ObjectGuid) : State :=
  ⟨.init password bannedStore, []⟩

theorem sound_start (password : String) (bannedStore : List ObjectGuid) :
    Sound (.start password bannedStore) :=
  ⟨rfl, List.nodup_nil, fun _ member => absurd member List.not_mem_nil⟩

/--
The first to join a channel owns it afterwards, and who was banned is not in
it.
-/
def FirstOwnsAndBannedIsOut (state : State) (event : Event) : Prop :=
  match event.request with
  | .joinChannel pass => state.channel.playersStore = [] →
      (state.channel.joinChannel event.player pass).1 = true →
        (step state event).channel.ownerGUID = event.player.guid
  | .kickOrBan badname true => ∀ victim,
      (state.channel.kickOrBan event badname true).1 = some victim →
        (step state event).channel.isOn victim = false
  | _ => True

theorem firstOwnsAndBannedIsOut {state : State} {event : Event} (sound : Sound state)
    (owned : Owned state) (keeps : KeepsOwner state event) :
    FirstOwnsAndBannedIsOut state event := by
  have next := (owned_step_iff state event sound owned).mpr keeps
  unfold FirstOwnsAndBannedIsOut
  unfold KeepsOwner at keeps
  cases request : event.request with
  | joinChannel pass =>
      rw [request] at keeps
      dsimp only at keeps ⊢
      intro isEmpty joined
      have result := (Prod.mk.eta (p := state.channel.joinChannel event.player pass)).symm
      rw [joined] at result
      rcases joinChannel_cases sound.ownership result with ⟨refused, -⟩ |
        ⟨-, -, accepted, ⟨hasOwner, -⟩ | ⟨-, isNext⟩⟩
      · exact absurd refused (by simp)
      · exact absurd (keeps isEmpty hasOwner) accepted
      · unfold step
        rw [request]
        dsimp only
        rw [isNext]
        rfl
  | kickOrBan badname ban =>
      cases ban with
      | false => trivial
      | true =>
          intro victim removed
          by_contra isOn
          rw [Bool.not_eq_false] at isOn
          obtain ⟨entry, isEntry, rfl⟩ := isOn_iff.mp isOn
          have isInside := (next.genuine entry isEntry).1
          unfold step at isInside
          rw [request] at isInside
          dsimp only at isInside
          rw [removed] at isInside
          simp at isInside
  | _ => trivial

/--
The channel has its owner throughout a run exactly when nobody joins it after
its owner left it empty, and no owner removes himself while others stay.
-/
theorem owned_throughout_iff (password : String) (bannedStore : List ObjectGuid)
    (events : List Event) :
    (Throughout step Owned (.start password bannedStore) events ↔
      EveryStep step KeepsOwner (.start password bannedStore) events) ∧
    (EveryStep step KeepsOwner (.start password bannedStore) events →
      EveryStep step FirstOwnsAndBannedIsOut (.start password bannedStore) events) := by
  have sound := sound_start password bannedStore
  have owned : Owned (.start password bannedStore) := owned_of_empty rfl
  have preserved : ∀ state event, Sound state ∧ Owned state → KeepsOwner state event →
      Sound (step state event) ∧ Owned (step state event) := fun state event holds keeps =>
    ⟨sound_step state event holds.1, (owned_step_iff state event holds.1 holds.2).mpr keeps⟩
  exact ⟨throughout_iff_everyStep sound_step owned_step_iff sound owned, everyStep_of_invariant
    preserved (fun _ _ holds keeps => firstOwnsAndBannedIsOut holds.1 holds.2 keeps)
    ⟨sound, owned⟩⟩

/-! ## Two ways to lose the owner -/

def somePlayer (number : Nat) (name : String) : Player where
  guid := number + 1
  notEmpty := Nat.succ_ne_zero number
  name := name
  team := .alliance
  changesNotModerator := false
  twoSideInteraction := false

/-- A request of a player who is the only one to be found by name. -/
def someEvent (player : Player) (request : Request) : Event where
  player := player
  connected := fun name => if name = player.name then some player else none
  named := by
    intro name found isFound
    split_ifs at isFound with same
    exact (Option.some.inj isFound) ▸ same.symm
  himself := by
    intro name found isFound _
    split_ifs at isFound
    exact (Option.some.inj isFound).symm
  request := request

/-- Someone joins a channel after its only member has left it. -/
def joinAfterOwner : List Event :=
  [someEvent (somePlayer 0 "Anna") (.joinChannel ""), someEvent (somePlayer 0 "Anna") .leaveChannel,
    someEvent (somePlayer 1 "Bert") (.joinChannel "")]

/-- An owner bans himself. -/
def banOneself : List Event :=
  [someEvent (somePlayer 0 "Anna") (.joinChannel ""),
    someEvent (somePlayer 1 "Bert") (.joinChannel ""),
    someEvent (somePlayer 0 "Anna") (.kickOrBan "Anna" true)]

/-- The new member is no owner, and the banned one is still there. -/
theorem channel_without_owner :
    ¬Throughout step Owned (.start "" []) joinAfterOwner ∧
      ¬Throughout step Owned (.start "" []) banOneself := by
  constructor
  · intro holds
    have store : (run step (.start "" []) joinAfterOwner).channel.playersStore = [(2, ⟨2, 0⟩)] := by
      decide
    obtain ⟨entry, isEntry, -, isOwner, -⟩ := holds.last.owner (by rw [store]; simp)
    rw [store, List.mem_singleton] at isEntry
    subst isEntry
    exact absurd isOwner (by decide)
  · intro holds
    have store : (run step (.start "" []) banOneself).channel.playersStore =
        [(1, ⟨0, 3⟩), (2, ⟨2, 0⟩)] := by
      decide
    have genuine := holds.last.genuine (1, ⟨0, 3⟩) (by rw [store]; simp)
    exact absurd genuine.2 (by decide)

end RealmServer.Chat
