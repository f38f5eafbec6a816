import RealmServer.ArenaReplays.ReplayFormat

/-!
# Replays which survive the disk

A recording comes back from the disk if each packet has bytes, and no packet and
no player's looks have more bytes than the reader accepts.  Whatever the file is,
`LoadFromFile` accepts it if it begins with an image, and its loops go
through no more entries than the file has bytes.
-/

namespace RealmServer.ArenaReplays

open Network (Bytes)
open Packets (ByteBuffer Operation Failure)
open LittleEndian (encode)
open InputStream

variable {memory : Memory} {fresh : ReplayData}

/-! ## What is accepted -/

theorem loadFromFile_image {image : Image} (loadable : image.Loadable) (rest : Bytes) :
    loadFromFile memory fresh (image.bytes ++ rest) =
      (true, image.load { replay := fresh }) := by
  have ends : Ends (loadReplay memory)
      { rest := image.bytes ++ rest, data := { replay := fresh } } true
      { rest := rest, data := image.load { replay := fresh } } :=
    ends_loadReplay.mpr (.inl ⟨rfl, rfl, image, loadable, rfl, rfl⟩)
  unfold loadFromFile
  rw [ends.1]
  rfl

theorem loadFromFile_eq_true_iff {file : Bytes} :
    (loadFromFile memory fresh file).1 = true ↔
      ∃ image : Image, image.Loadable ∧ image.bytes <+: file := by
  constructor
  · intro accepted
    unfold loadFromFile at accepted
    cases ended : (loadReplay memory).run { rest := file, data := { replay := fresh } } with
    | ok valid after =>
        simp only [ended, Bool.and_eq_true] at accepted
        rcases ends_loadReplay.mp ⟨ended, accepted.2⟩ with
          ⟨-, -, image, loadable, split, -⟩ | ⟨invalid, -⟩
        · exact ⟨image, loadable, after.rest, split.symm⟩
        · rw [invalid] at accepted
          cases accepted.1
    | error failure after =>
        rw [ended] at accepted
        cases accepted
  · rintro ⟨image, loadable, rest, rfl⟩
    rw [loadFromFile_image loadable]

theorem loadFromFile_eq_false_iff {file : Bytes} :
    (loadFromFile memory fresh file).1 = false ↔
      ¬ ∃ image : Image, image.Loadable ∧ image.bytes <+: file := by
  rw [← @loadFromFile_eq_true_iff memory fresh, Bool.not_eq_true]

/-- Of the beginnings of an image only the whole image can be accepted. -/
theorem eq_of_accepted {image : Image} (writable : image.Writable) {file : Bytes}
    (begins : file <+: image.bytes) (accepted : (loadFromFile memory fresh file).1 = true) :
    file = image.bytes ∧ image.Loadable := by
  obtain ⟨other, loadable, beginsFile⟩ := loadFromFile_eq_true_iff.mp accepted
  obtain rfl : other = image :=
    prefixCode_image.eq_of_begins loadable.writable writable (beginsFile.trans begins)
  have length := le_antisymm begins.length_le beginsFile.length_le
  exact ⟨List.IsPrefix.eq_of_length begins length, loadable⟩

/-! ## How long the loops run -/

/-- Entries gone through, and bytes left for more. -/
def weight (stream : InputStream Loading) : Nat := stream.data.rounds + stream.rest.length

theorem weight_shrinks (stream : InputStream Loading) (rest : Bytes) (good : Bool) (misses : Nat)
    (shorter : rest.length ≤ stream.rest.length) :
    weight ⟨rest, good, misses, stream.data⟩ ≤ weight stream :=
  Nat.add_le_add_left shorter _

theorem within_readReplayNumber (width : Nat) :
    Within weight (readNumber memory width : Loader Nat) :=
  within_readNumber memory width weight_shrinks

theorem within_onBuffer {Value : Type} (operation : Operation Value) (buffer : ByteBuffer) :
    Within weight (onBuffer operation buffer) := by
  unfold onBuffer
  split
  · exact within_pure
  · exact within_throw _

theorem within_readBuffer (buffer : ByteBuffer) (size : Nat) :
    Within weight (readBuffer buffer size) :=
  within_bind (within_onBuffer _ _) fun _ => within_bind (within_onBuffer _ _) fun _ =>
    within_bind (within_read size weight_shrinks) fun _ => within_onBuffer _ _

theorem withinFailures_round (change : Loading → Loading)
    (same : ∀ loading, (change loading).rounds = loading.rounds) (failure : LoadFailure) :
    WithinFailures weight
      (do modifyData change; throwAtEnd failure; modifyData Loading.nextRound) := by
  refine withinFailures_bind (within_modifyData fun stream => ?_) fun _ =>
    withinFailures_bind (within_throwAtEnd failure) fun _ => withinFailures_modifyData _
  rw [weight, same]
  exact le_refl _

theorem surely_round (change : Loading → Loading) (failure : LoadFailure) :
    Surely (do modifyData change; throwAtEnd failure; modifyData Loading.nextRound) :=
  surely_bind fun _ => surely_throwAtEnd_bind

theorem within_loadPlayer : Within weight (loadPlayer memory) := by
  have surely : Surely (loadPlayer memory) :=
    surely_bind fun _ => surely_bind fun _ => surely_ite _ (surely_throw _) <|
      surely_bind fun _ => surely_bind fun _ => surely_round _ _
  have failures : WithinFailures weight (loadPlayer memory) := by
    refine withinFailures_bind (within_readReplayNumber 8) fun guid =>
      withinFailures_bind (within_readReplayNumber 8) fun size => ?_
    split_ifs
    · exact (within_throw _).failures
    · exact withinFailures_bind within_get fun _ =>
        withinFailures_bind (within_readBuffer _ _) fun _ =>
          withinFailures_round (Loading.addPlayer _ _) (fun _ => rfl) _
  refine accepts_loadPlayer.within surely failures fun stream row rest valid split => ?_
  have length := congrArg List.length split
  simp only [playerBytes, List.length_append, LittleEndian.encode_length] at length
  simp only [weight, Loading.withPlayer, Loading.nextRound, Loading.addPlayer]
  omega

theorem within_loadOwner : Within weight (loadOwner memory) := by
  have surely : Surely (loadOwner memory) :=
    surely_bind fun _ => surely_bind fun _ => surely_round _ _
  have failures : WithinFailures weight (loadOwner memory) :=
    withinFailures_bind (within_readReplayNumber 8) fun _ =>
      withinFailures_bind (within_readReplayNumber 8) fun _ =>
        withinFailures_round (Loading.addOwner _ _) (fun _ => rfl) _
  refine accepts_loadOwner.within surely failures fun stream row rest valid split => ?_
  have length := congrArg List.length split
  simp only [ownerBytes, List.length_append, LittleEndian.encode_length] at length
  simp only [weight, Loading.withOwner, Loading.nextRound, Loading.addOwner]
  omega

theorem within_loadPacket : Within weight (loadPacket memory) := by
  have surely : Surely (loadPacket memory) :=
    surely_bind fun _ => surely_bind fun _ => surely_bind fun _ => surely_ite _ (surely_throw _) <|
      surely_bind fun _ => surely_round _ _
  have failures : WithinFailures weight (loadPacket memory) := by
    refine withinFailures_bind (within_readReplayNumber 4) fun time =>
      withinFailures_bind (within_readReplayNumber 8) fun size =>
        withinFailures_bind (within_readReplayNumber 2) fun opcode => ?_
    split_ifs
    · exact (within_throw _).failures
    · exact withinFailures_bind (within_readBuffer _ _) fun _ =>
        withinFailures_round (Loading.pushPacket _ _) (fun _ => rfl) _
  refine accepts_loadPacket.within surely failures fun stream row rest valid split => ?_
  have length := congrArg List.length split
  simp only [packetBytes, List.length_append, LittleEndian.encode_length] at length
  simp only [weight, Loading.withPacket, Loading.nextRound, Loading.pushPacket]
  omega

theorem within_loadSection {loadRow : Loader Unit} (within : Within weight loadRow) :
    Within weight (loadSection memory loadRow) :=
  within_bind (within_readReplayNumber 8) fun count => within_repeatTimes within count

theorem within_loadReplay : Within weight (loadReplay memory) := by
  have sections : Within weight (loadSections memory) :=
    within_bind (within_readReplayNumber 4) fun _ =>
      within_bind (within_modifyData fun _ => le_refl _) fun _ =>
        within_bind (within_loadSection within_loadPlayer) fun _ =>
          within_bind (within_loadSection within_loadOwner) fun _ =>
            within_loadSection within_loadPacket
  have headerRead : Within weight (readInto memory header.length : Loader Bytes) :=
    within_bind within_get fun _ => within_bind (within_read _ weight_shrinks) fun _ => within_pure
  exact within_bind headerRead fun _ =>
    within_ite _ (within_bind sections fun _ => within_pure) within_pure

/-- The loops go through no more entries than there are bytes. -/
theorem rounds_le (memory : Memory) (fresh : ReplayData) (file : Bytes) :
    (loadFromFile memory fresh file).2.rounds ≤ file.length := by
  have within := @within_loadReplay memory { rest := file, data := { replay := fresh } }
  have start : weight { rest := file, data := { replay := fresh } } = file.length :=
    Nat.zero_add _
  rw [start] at within
  unfold loadFromFile
  cases ended : (loadReplay memory).run { rest := file, data := { replay := fresh } } with
  | ok valid after =>
      rw [ended] at within
      exact (Nat.le_add_right _ _).trans within
  | error failure after =>
      rw [ended] at within
      exact (Nat.le_add_right _ _).trans within

/-! ## What is saved -/

/-- What a part of `SaveToFile` writes: all of its bytes, or if there is an exception some. -/
def Writes (writer : Writer) (bytes : Bytes) (complete : Prop) : Prop :=
  ∀ before, (complete ∧ writer.run before = .ok () (before ++ bytes)) ∨
    (¬ complete ∧ ∃ failure part, part <+: bytes ∧
      writer.run before = .error failure (before ++ part))

theorem writes_write (bytes : Bytes) : Writes (write bytes) bytes True :=
  fun _ => .inl ⟨trivial, rfl⟩

theorem writes_bind {first second : Writer} {bytes bytes' : Bytes} {complete complete' : Prop}
    (writesFirst : Writes first bytes complete) (writesSecond : Writes second bytes' complete') :
    Writes (first >>= fun _ => second) (bytes ++ bytes') (complete ∧ complete') := by
  intro before
  rcases writesFirst before with ⟨whole, ran⟩ | ⟨cut, failure, part, begins, ran⟩
  · have continued : (first >>= fun _ => second).run before = second.run (before ++ bytes) := by
      rw [EStateM.run_bind, ran]
    rcases writesSecond (before ++ bytes) with
      ⟨whole', ran'⟩ | ⟨cut', failure, part, begins, ran'⟩
    · exact .inl ⟨⟨whole, whole'⟩, by rw [continued, ran', List.append_assoc]⟩
    · exact .inr ⟨fun both => cut' both.2, failure, bytes ++ part,
        (List.prefix_append_right_inj bytes).mpr begins, by
          rw [continued, ran', List.append_assoc]⟩
  · refine .inr ⟨fun both => cut both.1, failure, part,
      begins.trans (List.prefix_append bytes bytes'), ?_⟩
    rw [EStateM.run_bind, ran]

theorem writes_contents (buffer : ByteBuffer) :
    Writes (writeContents buffer) buffer.storage (buffer.storage ≠ []) := by
  intro before
  have run : contents.run buffer =
      if buffer.storage = [] then .error .value buffer else .ok buffer.storage buffer := by
    unfold contents
    simp only [EStateM.run_bind, EStateM.run_get, ByteBuffer.run_ite]
    split_ifs <;> rfl
  unfold writeContents
  rw [run]
  split_ifs with none
  · exact .inr ⟨fun some => some none, .value, [], List.nil_prefix, by
      rw [List.append_nil]
      rfl⟩
  · exact .inl ⟨none, rfl⟩

theorem writes_all {Row : Type} {writeRow : Row → Writer} {rowBytes : Row → Bytes}
    {complete : Row → Prop} (writes : ∀ row, Writes (writeRow row) (rowBytes row) (complete row))
    (rows : List Row) :
    Writes (writeAll writeRow rows) (rows.flatMap rowBytes) (∀ row ∈ rows, complete row) := by
  induction rows with
  | nil => exact fun before => .inl ⟨by simp, by simp [writeAll]⟩
  | cons row rest induction =>
      have both := writes_bind (writes row) induction
      rw [← List.forall_mem_cons] at both
      exact both

theorem Writes.congr {writer : Writer} {bytes : Bytes} {complete complete' : Prop}
    (writes : Writes writer bytes complete) (same : complete ↔ complete') :
    Writes writer bytes complete' := by
  rwa [propext same] at writes

theorem writes_savePlayer (row : ObjectGuid × ByteBuffer) :
    Writes (savePlayer row) (playerBytes (row.1, row.2.storage)) (row.2.storage ≠ []) :=
  (writes_bind (writes_write _) (writes_bind (writes_write _) (writes_contents row.2))).congr
    (by simp only [true_and])

theorem writes_saveOwner (row : ObjectGuid × ObjectGuid) :
    Writes (saveOwner row) (ownerBytes row) True :=
  (writes_bind (writes_write _) (writes_write _)).congr (by simp only [and_self])

theorem writes_savePacket (row : UInt32 × WorldPacket) :
    Writes (savePacket row) (packetBytes (row.1, row.2.opcode, row.2.buffer.storage))
      (row.2.buffer.storage ≠ []) :=
  (writes_bind (writes_write _) (writes_bind (writes_write _) (writes_bind (writes_write _)
    (writes_contents row.2.buffer)))).congr (by simp only [true_and])

theorem writes_saveSection {Row Shown : Type} {writeRow : Row → Writer} {shown : Row → Shown}
    {rowBytes : Shown → Bytes} {complete : Row → Prop}
    (writes : ∀ row, Writes (writeRow row) (rowBytes (shown row)) (complete row))
    (rows : List Row) :
    Writes (saveSection writeRow rows) (sectionBytes rowBytes (rows.map shown))
      (∀ row ∈ rows, complete row) := by
  have both := writes_bind (writes_write (encode 8 rows.length)) (writes_all writes rows)
  rw [true_and] at both
  rw [sectionBytes, List.length_map, List.flatMap_map]
  exact both

theorem writes_saveToFile (replay : ReplayData) (order : Order replay) :
    Writes (saveToFile replay order) (imageOf replay order).bytes
      ((∀ row ∈ order.mirrorImageData, row.2.storage ≠ []) ∧
        ∀ row ∈ replay.packets, row.2.buffer.storage ≠ []) := by
  have owners := writes_saveSection (fun row => writes_saveOwner (id row)) order.mirrorImageOwners
  rw [List.map_id] at owners
  have start := writes_write (encode 4 replay.matchStart.toNat)
  have all := writes_bind (writes_write header) (writes_bind start
    (writes_bind (writes_saveSection writes_savePlayer order.mirrorImageData)
      (writes_bind owners (writes_saveSection writes_savePacket replay.packets))))
  exact all.congr (by simp)

theorem savedFile_begins (replay : ReplayData) (order : Order replay) :
    savedFile replay order <+: (imageOf replay order).bytes := by
  unfold savedFile
  rcases writes_saveToFile replay order [] with ⟨-, ran⟩ | ⟨-, failure, part, begins, ran⟩
  · rw [ran]
    exact List.prefix_rfl
  · rw [ran]
    exact begins

theorem saveToFile_run {replay : ReplayData} {order : Order replay}
    (players : ∀ row ∈ order.mirrorImageData, row.2.storage ≠ [])
    (packets : ∀ row ∈ replay.packets, row.2.buffer.storage ≠ []) :
    (saveToFile replay order).run [] = .ok () (imageOf replay order).bytes := by
  rcases writes_saveToFile replay order [] with ⟨-, ran⟩ | ⟨cut, -⟩
  · exact ran
  · exact absurd ⟨players, packets⟩ cut

theorem savedFile_eq {replay : ReplayData} {order : Order replay}
    (players : ∀ row ∈ order.mirrorImageData, row.2.storage ≠ [])
    (packets : ∀ row ∈ replay.packets, row.2.buffer.storage ≠ []) :
    savedFile replay order = (imageOf replay order).bytes := by
  rw [savedFile, saveToFile_run players packets]

/-! ## What an image loads -/

def playerRow (row : ObjectGuid × Bytes) : ObjectGuid × ByteBuffer := (row.1, loaded row.2)

def packetRow (row : UInt32 × UInt16 × Bytes) : UInt32 × WorldPacket :=
  (row.1, ⟨row.2.1, loaded row.2.2⟩)

theorem foldl_withPlayer (rows : List (ObjectGuid × Bytes)) (loading : Loading) :
    (rows.foldl (fun loading row => loading.withPlayer row) loading).replay =
      { loading.replay with
        mirrorImageData := (rows.map playerRow).foldl (Table.assign Prod.fst)
          loading.replay.mirrorImageData } := by
  induction rows generalizing loading with
  | nil => rfl
  | cons row rest induction => exact induction _

theorem foldl_withOwner (rows : List (ObjectGuid × ObjectGuid)) (loading : Loading) :
    (rows.foldl (fun loading row => loading.withOwner row) loading).replay =
      { loading.replay with
        mirrorImageOwners := rows.foldl (Table.assign Prod.fst)
          loading.replay.mirrorImageOwners } := by
  induction rows generalizing loading with
  | nil => rfl
  | cons row rest induction => exact induction _

theorem foldl_withPacket (rows : List (UInt32 × UInt16 × Bytes)) (loading : Loading) :
    (rows.foldl (fun loading row => loading.withPacket row) loading).replay =
      { loading.replay with packets := loading.replay.packets ++ rows.map packetRow } := by
  induction rows generalizing loading with
  | nil =>
      rw [List.map_nil, List.append_nil]
      rfl
  | cons row rest induction =>
      rw [List.foldl_cons, induction, List.map_cons, List.append_cons]
      rfl

/-- An image without repeated guids is loaded as it stands there. -/
theorem Image.load_create {image : Image} (players : (image.players.map Prod.fst).Nodup)
    (owners : (image.owners.map Prod.fst).Nodup) (recordTime matchStart : UInt32) :
    (image.load { replay := .create recordTime matchStart }).replay =
      { ReplayData.create recordTime image.matchStart with
        packets := image.packets.map packetRow
        mirrorImageData := image.players.map playerRow
        mirrorImageOwners := image.owners } := by
  have playerRows : (image.players.map playerRow).foldl (Table.assign Prod.fst) [] =
      image.players.map playerRow :=
    Table.foldl_assign (by simpa [Function.comp_def, playerRow] using players)
  have ownerRows : image.owners.foldl (Table.assign Prod.fst) [] = image.owners :=
    Table.foldl_assign owners
  rw [Image.load, foldl_withPacket, foldl_withOwner, foldl_withPlayer]
  simp only [Loading.setMatchStart, ReplayData.create, UInt32.ofNat_toNat, playerRows, ownerRows,
    List.nil_append]

/-! ## Recordings -/

/-- A replay which a match has recorded, as it is saved.  No container has more elements than a
`size_t` counts. -/
structure Recording where
  recordTime : UInt32
  matchStart : UInt32
  events : List Event
  replay : ReplayData
  recorded : record (.create recordTime matchStart) events = .ok replay
  order : Order replay
  fits : (imageOf replay order).Writable

namespace Recording

variable (recording : Recording)

abbrev file : Bytes := savedFile recording.replay recording.order

theorem tracked : Tracked recording.replay fun guid => joins guid recording.events := by
  have tracked := (tracked_create recording.recordTime recording.matchStart).record
    recording.recorded
  simpa only [Nat.zero_add] using tracked

/-- Nobody is in the map before he has joined. -/
theorem players_nonempty :
    ∀ row ∈ recording.order.mirrorImageData, row.2.storage ≠ [] := by
  intro row member none
  have row' := recording.order.dataPerm.mem_iff.mp member
  have size := recording.tracked.sizes row row'
  have positive := recording.tracked.joinedPos row row'
  rw [none, List.length_nil] at size
  omega

/-- The looks have bytes, and they are not too many if nobody has joined too often. -/
theorem players_storable_iff :
    (∀ row ∈ recording.order.mirrorImageData, Storable row.2.storage) ↔
      ∀ guid, joins guid recording.events ≤ 1092 := by
  constructor
  · intro storable guid
    by_contra tooOften
    obtain ⟨row, member, rfl⟩ := recording.tracked.present guid (by omega)
    have size := recording.tracked.sizes row member
    have small := (storable row (recording.order.dataPerm.mem_iff.mpr member)).2
    omega
  · intro seldom row member
    have row' := recording.order.dataPerm.mem_iff.mp member
    have size := recording.tracked.sizes row row'
    have positive := recording.tracked.joinedPos row row'
    have bound := seldom row.1
    exact ⟨by omega, by omega⟩

theorem loadable_iff :
    (imageOf recording.replay recording.order).Loadable ↔
      (∀ row ∈ recording.replay.packets, Storable row.2.buffer.storage) ∧
        ∀ guid, joins guid recording.events ≤ 1092 := by
  rw [← players_storable_iff]
  constructor
  · intro loadable
    constructor
    · exact fun row member => loadable.packets _ (List.mem_map_of_mem member)
    · exact fun row member => loadable.players _ (List.mem_map_of_mem member)
  · rintro ⟨packets, players⟩
    refine { recording.fits with players := ?_, packets := ?_ }
    · exact List.forall_mem_map.mpr players
    · exact List.forall_mem_map.mpr packets

end Recording

/-- The bytes of a packet, with its time and its opcode. -/
def packetContent (row : UInt32 × WorldPacket) : UInt32 × UInt16 × Bytes :=
  (row.1, row.2.opcode, row.2.buffer.storage)

/-- The bytes for the mirror images of a player. -/
def mirrorImageBytes (replay : ReplayData) (guid : ObjectGuid) : Option Bytes :=
  (Table.find Prod.fst replay.mirrorImageData guid).map fun row => row.2.storage

/-- The packets and the looks. -/
def ReplayData.buffers (replay : ReplayData) : List ByteBuffer :=
  replay.mirrorImageData.map Prod.snd ++ replay.packets.map fun row => row.2.buffer

/-- All bytes can be extracted. -/
def Readable (buffer : ByteBuffer) : Prop :=
  ∃ after, (ByteBuffer.extract buffer.size).run buffer = .ok buffer.storage after

/-- One replay holds what another one does. -/
structure Survives (saved loaded : ReplayData) : Prop where
  matchStart : loaded.matchStart = saved.matchStart
  mirrorImageData : ∀ guid, mirrorImageBytes loaded guid = mirrorImageBytes saved guid
  mirrorImageOwners : ∀ image, Table.find Prod.fst loaded.mirrorImageOwners image =
    Table.find Prod.fst saved.mirrorImageOwners image
  packets : loaded.packets.map packetContent = saved.packets.map packetContent
  readable : ∀ buffer ∈ loaded.buffers, Readable buffer

/-- What has been saved is loaded into a new replay, whatever was in memory before. -/
def RoundTrips (memory : Memory) (recordTime matchStart : UInt32) (recording : Recording) : Prop :=
  let result := loadFromFile memory (.create recordTime matchStart) recording.file
  result.1 = true ∧ Survives recording.replay result.2.replay

theorem readable_loaded {bytes : Bytes} (small : bytes.length < 2 ^ 64) :
    Readable (loaded bytes) := by
  have sum : ByteBuffer.sizeAdd 0 bytes.length = bytes.length := by
    rw [ByteBuffer.sizeAdd_of_lt (by omega), Nat.zero_add]
  have whole : ByteBuffer.slice bytes 0 bytes.length = bytes := by
    rw [ByteBuffer.slice, List.drop_zero, List.take_length]
  refine ⟨⟨bytes, bytes.length, bytes.length⟩, ?_⟩
  simp [ByteBuffer.extract, loaded, ByteBuffer.size_mk, sum, ByteBuffer.memory_run, whole,
    ByteBuffer.moveRpos]

/-- The bytes of a player, in rows which show them. -/
theorem mirrorImageBytes_map (rows : List (ObjectGuid × ByteBuffer)) (guid : ObjectGuid) :
    (Table.find Prod.fst (rows.map fun row => playerRow (row.1, row.2.storage)) guid).map
        (fun row => row.2.storage) =
      (Table.find Prod.fst rows guid).map fun row => row.2.storage := by
  rw [Table.find, Table.find, List.find?_map, Option.map_map]
  rfl

namespace Recording

variable (recording : Recording)

theorem images_nodup : (recording.order.mirrorImageOwners.map Prod.fst).Nodup :=
  (recording.order.ownersPerm.map Prod.fst).nodup_iff.mpr recording.tracked.images

theorem players_nodup :
    ((imageOf recording.replay recording.order).players.map Prod.fst).Nodup := by
  have guids := (recording.order.dataPerm.map Prod.fst).nodup_iff.mpr recording.tracked.guids
  simpa only [imageOf, List.map_map, Function.comp_def] using guids

/-- What the image of a recording loads holds all of the recording. -/
theorem survives_load (recordTime matchStart : UInt32) :
    Survives recording.replay ((imageOf recording.replay recording.order).load
      { replay := .create recordTime matchStart }).replay := by
  rw [Image.load_create recording.players_nodup recording.images_nodup]
  constructor
  · rfl
  · intro guid
    simp only [mirrorImageBytes, imageOf, List.map_map, Function.comp_def]
    rw [mirrorImageBytes_map,
      Table.find_eq_of_perm recording.tracked.guids recording.order.dataPerm]
  · exact Table.find_eq_of_perm recording.tracked.images recording.order.ownersPerm
  · simp [imageOf, packetContent, packetRow, loaded, Function.comp_def]
  · intro buffer member
    rcases List.mem_append.mp member with isPlayer | isPacket
    · obtain ⟨_, inMap, rfl⟩ := List.mem_map.mp isPlayer
      obtain ⟨row, inImage, rfl⟩ := List.mem_map.mp inMap
      exact readable_loaded (recording.fits.players row inImage)
    · obtain ⟨_, inMap, rfl⟩ := List.mem_map.mp isPacket
      obtain ⟨row, inImage, rfl⟩ := List.mem_map.mp inMap
      exact readable_loaded (recording.fits.packets row inImage)

/-- A recording survives exactly if the reader accepts all of its sizes. -/
theorem survives_iff (memory : Memory) (recordTime matchStart : UInt32) :
    RoundTrips memory recordTime matchStart recording ↔
      (∀ row ∈ recording.replay.packets, Storable row.2.buffer.storage) ∧
        ∀ guid, joins guid recording.events ≤ 1092 := by
  rw [← loadable_iff]
  constructor
  · rintro ⟨accepted, -⟩
    exact (eq_of_accepted recording.fits (savedFile_begins _ _) accepted).2
  · intro loadable
    have packets : ∀ row ∈ recording.replay.packets, row.2.buffer.storage ≠ [] := by
      intro row member
      have storable := (recording.loadable_iff.mp loadable).1 row member
      exact List.ne_nil_of_length_pos storable.1
    have file : recording.file = (imageOf recording.replay recording.order).bytes ++ [] := by
      rw [List.append_nil]
      exact savedFile_eq recording.players_nonempty packets
    unfold RoundTrips
    rw [file, loadFromFile_image loadable]
    exact ⟨rfl, recording.survives_load recordTime matchStart⟩

/-- A part of the file of a recording is not accepted. -/
theorem begins_rejected {memory : Memory} {fresh : ReplayData} {bytes : Bytes}
    (begins : bytes <+: recording.file) (shorter : bytes ≠ recording.file) :
    (loadFromFile memory fresh bytes).1 = false := by
  by_contra accepted
  have ends := eq_of_accepted recording.fits (begins.trans (savedFile_begins _ _))
    (Bool.eq_true_of_not_eq_false accepted)
  have long := (savedFile_begins recording.replay recording.order).length_le
  have whole := begins.eq_of_length_le (by rw [ends.1]; exact long)
  exact shorter whole

end Recording

/-- Every recording whose packets have bytes is saved whole, and comes back if nothing in it is
larger than the reader accepts; no part of its file is accepted.  Of all files those are accepted
which begin with an image, after at most as many rounds as they have bytes. -/
theorem recordings_survive (memory : Memory) (recordTime matchStart : UInt32) :
    (∀ recording : Recording,
      (∀ row ∈ recording.replay.packets, row.2.buffer.storage ≠ []) →
        (saveToFile recording.replay recording.order).run [] = .ok () recording.file ∧
        (RoundTrips memory recordTime matchStart recording ↔
          (∀ row ∈ recording.replay.packets, row.2.buffer.size ≤ 0xFFFF) ∧
            ∀ guid, joins guid recording.events ≤ 1092) ∧
        ∀ bytes, bytes <+: recording.file → bytes ≠ recording.file →
          (loadFromFile memory (.create recordTime matchStart) bytes).1 = false) ∧
    ∀ file, (loadFromFile memory (.create recordTime matchStart) file).2.rounds ≤ file.length ∧
      ((loadFromFile memory (.create recordTime matchStart) file).1 = false ↔
        ¬ ∃ image : Image, image.Loadable ∧ image.bytes <+: file) := by
  constructor
  · intro recording packets
    refine ⟨?_, ?_, fun bytes begins shorter => recording.begins_rejected begins shorter⟩
    · rw [Recording.file, savedFile_eq recording.players_nonempty packets]
      exact saveToFile_run recording.players_nonempty packets
    · have storable : (∀ row ∈ recording.replay.packets, Storable row.2.buffer.storage) ↔
          ∀ row ∈ recording.replay.packets, row.2.buffer.size ≤ 0xFFFF :=
        forall₂_congr fun row member =>
          and_iff_right (List.length_pos_of_ne_nil (packets row member))
      rw [recording.survives_iff, storable]
  · exact fun file => ⟨rounds_le memory _ file, loadFromFile_eq_false_iff⟩

def dueller : Player where
  guid := 3
  displayId := 49
  race := 1
  gender := 0
  playerClass := 8
  skin := 2
  face := 3
  hair := 4
  hairColor := 5
  facialHair := 6
  guildId := 0
  hideHelm := true
  hideCloak := false
  getItemByPos := fun _ => some 1000

/-- A player joins, and there are two packets at different times. -/
def duelEvents : List Event :=
  [.startRecord, .onPlayerAdded dueller 1, .addPacket ⟨1, loaded [7]⟩, .update 5,
    .addPacket ⟨2, loaded [8, 9]⟩]

def duelReplay : ReplayData :=
  (record (.create 0 0) duelEvents).toOption.getD (.create 0 0)

theorem duel_recorded : record (.create 0 0) duelEvents = .ok duelReplay := by
  have ended : (record (.create 0 0) duelEvents).toOption.isSome = true := by decide +kernel
  unfold duelReplay
  cases recorded : record (.create 0 0) duelEvents with
  | error failure =>
      rw [recorded] at ended
      cases ended
  | ok replay => rfl

def duel : Recording where
  recordTime := 0
  matchStart := 0
  events := duelEvents
  replay := duelReplay
  recorded := duel_recorded
  order := ⟨duelReplay.mirrorImageData, duelReplay.mirrorImageOwners, .refl _, .refl _⟩
  fits := by constructor <;> decide +kernel

theorem recordings_survive_duel : RoundTrips (fun _ _ => 0) 0 0 duel := by
  refine (((recordings_survive (fun _ _ => 0) 0 0).1 duel (by decide +kernel)).2.1).mpr
    ⟨by decide +kernel, ?_⟩
  intro guid
  show (if dueller.guid = guid then 1 else 0) + 0 ≤ 1092
  split_ifs
  · decide
  · decide

/-- A match in which one packet is recorded. -/
def onePacket (payload : Bytes) (fits : payload.length < 256 ^ 8) : Recording where
  recordTime := 0
  matchStart := 0
  events := [.startRecord, .addPacket ⟨0, loaded payload⟩]
  replay := { (ReplayData.create 0 0).startRecord with packets := [(0, ⟨0, loaded payload⟩)] }
  recorded := rfl
  order := ⟨[], [], .refl _, .refl _⟩
  fits := by
    refine ⟨(by decide : 0 < 256 ^ 8), ?_, (by decide : 0 < 256 ^ 8), (by decide : 1 < 256 ^ 8), ?_⟩
    · rintro _ ⟨⟩
    · intro row member
      obtain rfl := List.mem_singleton.mp member
      exact fits

/-- The shortest payload which the reader takes for an error. -/
def longPayload : Bytes := List.replicate 0x10000 0

theorem longPayload_length : longPayload.length = 0x10000 := List.length_replicate

/-- A packet of 65536 bytes is saved and makes the replay invalid; and a file with a byte behind
the replay is accepted, which no recording has left. -/
theorem not_every_recording_survives :
    ¬ RoundTrips (fun _ _ => 0) 0 0 (onePacket longPayload (by
      rw [longPayload_length]
      decide)) ∧
    (loadFromFile (fun _ _ => 0) (.create 0 0)
      ((onePacket [7] (by decide)).file ++ [0])).1 = true ∧
    ∀ recording : Recording, recording.file ≠ (onePacket [7] (by decide)).file ++ [0] := by
  have loadable : (imageOf (onePacket [7] (by decide)).replay
      (onePacket [7] (by decide)).order).Loadable := by
    refine (onePacket [7] (by decide)).loadable_iff.mpr ⟨?_, fun _ => Nat.zero_le _⟩
    intro row member
    obtain rfl := List.mem_singleton.mp member
    decide
  have accepted : (loadFromFile (fun _ _ => 0) (.create 0 0)
      ((onePacket [7] (by decide)).file ++ [0])).1 = true :=
    congrArg Prod.fst (loadFromFile_image loadable [0])
  refine ⟨?_, accepted, ?_⟩
  · intro survives
    have storable := ((onePacket _ _).survives_iff _ _ _).mp survives
    have small : longPayload.length ≤ 0xFFFF :=
      (storable.1 _ (List.mem_singleton.mpr rfl)).2
    rw [longPayload_length] at small
    omega
  · intro recording same
    have begins : (onePacket [7] (by decide)).file <+: recording.file := by
      rw [same]
      exact List.prefix_append _ _
    have rejected : (loadFromFile (fun _ _ => 0) (.create 0 0)
        (onePacket [7] (by decide)).file).1 = false :=
      recording.begins_rejected begins (by
        rw [same]
        exact fun equal => by simpa using congrArg List.length equal)
    have whole : (loadFromFile (fun _ _ => 0) (.create 0 0)
        ((onePacket [7] (by decide)).file ++ [])).1 = true :=
      congrArg Prod.fst (loadFromFile_image loadable [])
    rw [List.append_nil, rejected] at whole
    cases whole

end RealmServer.ArenaReplays
