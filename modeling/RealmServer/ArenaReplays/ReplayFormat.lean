import RealmServer.Lib.PrefixCode
import RealmServer.ArenaReplays.ReplayFile

/-!
# The format of replay files

The bytes of an image are written in a prefix code, whatever the sizes are, so a
file says one thing only.  `LoadFromFile` reads a section entry by entry, and
what it accepts are the images whose entries have bytes, but not too many.
-/

namespace RealmServer.ArenaReplays

open Network (Bytes)
open Packets (ByteBuffer Operation Failure)
open LittleEndian (encode)
open InputStream

/-! ## Sizes -/

/-- The size of a payload which the reader accepts. -/
def Storable (payload : Bytes) : Prop := 0 < payload.length ∧ payload.length ≤ 0xFFFF

instance (payload : Bytes) : Decidable (Storable payload) :=
  inferInstanceAs (Decidable (_ ∧ _))

/-- An image whose sizes can be written down, for payloads of some kind. -/
structure Image.Sized (payloads : Bytes → Prop) (image : Image) : Prop where
  playerCount : image.players.length < 256 ^ 8
  players : ∀ row ∈ image.players, payloads row.2
  ownerCount : image.owners.length < 256 ^ 8
  packetCount : image.packets.length < 256 ^ 8
  packets : ∀ row ∈ image.packets, payloads row.2.2

/-- The sizes fit into a `size_t`. -/
abbrev Image.Writable : Image → Prop := Image.Sized fun payload => payload.length < 256 ^ 8

/-- `LoadFromFile` accepts the sizes. -/
abbrev Image.Loadable : Image → Prop := Image.Sized Storable

theorem Image.Sized.writable {image : Image} (loadable : image.Loadable) : image.Writable where
  __ := loadable
  players row member := lt_of_le_of_lt (loadable.players row member).2 (by norm_num)
  packets row member := lt_of_le_of_lt (loadable.packets row member).2 (by norm_num)

/-! ## An image is the only one in its bytes -/

theorem prefixCode_encode (width : Nat) :
    PrefixCode (fun value => value < 256 ^ width) (encode width) := by
  refine .of_width width (fun value _ => LittleEndian.encode_length width value) ?_
  intro first second smallFirst smallSecond same
  rw [← LittleEndian.decode_encode_of_lt smallFirst, same,
    LittleEndian.decode_encode_of_lt smallSecond]

theorem prefixCode_guid : PrefixCode (fun _ : ObjectGuid => True) fun guid => encode 8 guid.toNat :=
  ((prefixCode_encode 8).comap UInt64.toNat fun _ _ => UInt64.toNat_inj.mp).mono fun guid _ =>
    guid.toNat_lt

theorem prefixCode_time : PrefixCode (fun _ : UInt32 => True) fun time => encode 4 time.toNat :=
  ((prefixCode_encode 4).comap UInt32.toNat fun _ _ => UInt32.toNat_inj.mp).mono fun time _ =>
    time.toNat_lt

theorem prefixCode_opcode :
    PrefixCode (fun _ : UInt16 => True) fun opcode => encode 2 opcode.toNat :=
  ((prefixCode_encode 2).comap UInt16.toNat fun _ _ => UInt16.toNat_inj.mp).mono
    fun opcode _ => opcode.toNat_lt

/-- Bytes of a length one knows. -/
theorem prefixCode_bytes (length : Nat) :
    PrefixCode (fun bytes : Bytes => bytes.length = length) id :=
  .of_width length (fun _ same => same) fun _ _ _ _ same => same

theorem prefixCode_player :
    PrefixCode (fun row : ObjectGuid × Bytes => row.2.length < 256 ^ 8) playerBytes := by
  have code := prefixCode_guid.andThen fun _ _ =>
    (prefixCode_encode 8).andThen fun length _ => prefixCode_bytes length
  refine (code.comap (fun row : ObjectGuid × Bytes => (row.1, row.2.length, row.2)) ?_).mono
    fun row small => ⟨trivial, small, rfl⟩
  rintro ⟨guid, bytes⟩ ⟨guid', bytes'⟩ same
  simp only [Prod.mk.injEq] at same
  obtain ⟨rfl, -, rfl⟩ := same
  rfl

theorem prefixCode_owner :
    PrefixCode (fun _ : ObjectGuid × ObjectGuid => True) ownerBytes :=
  (prefixCode_guid.andThen fun _ _ => prefixCode_guid).mono fun _ _ => ⟨trivial, trivial⟩

theorem prefixCode_packet :
    PrefixCode (fun row : UInt32 × UInt16 × Bytes => row.2.2.length < 256 ^ 8) packetBytes := by
  have code := prefixCode_time.andThen fun _ _ =>
    (prefixCode_encode 8).andThen fun length _ =>
      prefixCode_opcode.andThen fun _ _ => prefixCode_bytes length
  refine (code.comap (fun row : UInt32 × UInt16 × Bytes =>
    (row.1, row.2.2.length, row.2.1, row.2.2)) ?_).mono
      fun row small => ⟨trivial, small, trivial, rfl⟩
  rintro ⟨time, opcode, bytes⟩ ⟨time', opcode', bytes'⟩ same
  simp only [Prod.mk.injEq] at same
  obtain ⟨rfl, -, rfl, rfl⟩ := same
  rfl

theorem prefixCode_section {Row : Type} {valid : Row → Prop} {rowBytes : Row → Bytes}
    (code : PrefixCode valid rowBytes) :
    PrefixCode (fun rows : List Row => rows.length < 256 ^ 8 ∧ ∀ row ∈ rows, valid row)
      (sectionBytes rowBytes) := by
  have counted := (prefixCode_encode 8).andThen fun count _ => code.repeated count
  refine (counted.comap (fun rows : List Row => (rows.length, rows)) ?_).mono
    fun rows ⟨small, valids⟩ => ⟨small, rfl, valids⟩
  intro first second same
  exact congrArg Prod.snd same

theorem prefixCode_image : PrefixCode Image.Writable Image.bytes := by
  have sections := prefixCode_time.andThen fun _ _ =>
    (prefixCode_section prefixCode_player).andThen fun _ _ =>
      (prefixCode_section prefixCode_owner).andThen fun _ _ => prefixCode_section prefixCode_packet
  have code := (prefixCode_bytes header.length).andThen fun _ _ => sections
  refine (code.comap (fun image : Image =>
    (header, image.matchStart, image.players, image.owners, image.packets)) ?_).mono
      fun image writable => ⟨rfl, trivial, ⟨writable.playerCount, writable.players⟩,
        ⟨writable.ownerCount, fun _ _ => trivial⟩, writable.packetCount, writable.packets⟩
  rintro ⟨start, players, owners, packets⟩ ⟨start', players', owners', packets'⟩ same
  cases same
  rfl

/-! ## What the reader accepts -/

variable {memory : Memory} {before after : InputStream Loading} {value : Unit}

theorem sticky_onBuffer {Value : Type} (operation : Operation Value) (buffer : ByteBuffer) :
    Sticky (onBuffer operation buffer) := by
  unfold onBuffer
  split
  · exact sticky_pure
  · exact sticky_throw _

theorem sticky_readBuffer (buffer : ByteBuffer) (size : Nat) :
    Sticky (readBuffer buffer size) :=
  sticky_bind (sticky_onBuffer _ _) fun _ => sticky_bind (sticky_onBuffer _ _) fun _ =>
    sticky_bind (sticky_read size) fun _ => sticky_onBuffer _ _

/-- A buffer after its bytes have been read. -/
def loaded (bytes : Bytes) : ByteBuffer := ⟨bytes, 0, bytes.length⟩

theorem onBuffer_resize (buffer : ByteBuffer) {size : Nat} (small : size ≤ ByteBuffer.maxSize) :
    onBuffer (ByteBuffer.resize size) buffer =
      pure ⟨ByteBuffer.resized buffer.storage size, 0, size⟩ := by
  have run : (ByteBuffer.resize size).run buffer =
      .ok () ⟨ByteBuffer.resized buffer.storage size, 0, size⟩ := by
    simp [ByteBuffer.resize, ByteBuffer.growStorage, Nat.not_lt.mpr small]
  rw [onBuffer, run]

theorem onBuffer_contents (buffer : ByteBuffer) :
    onBuffer contents buffer =
      if buffer.storage = [] then throw (.buffer .value) else pure buffer := by
  unfold onBuffer contents
  simp only [EStateM.run_bind, EStateM.run_get, ByteBuffer.run_ite]
  split_ifs <;> rfl

theorem onBuffer_store {storage bytes : Bytes} {rpos wpos : Nat}
    (same : bytes.length = storage.length) :
    onBuffer (ByteBuffer.store 0 bytes) ⟨storage, rpos, wpos⟩ = pure ⟨bytes, rpos, wpos⟩ := by
  have whole : ByteBuffer.overwrite storage 0 bytes = bytes := by
    rw [ByteBuffer.overwrite, Nat.zero_add, List.drop_eq_nil_of_le same.ge, List.append_nil]
    rfl
  rw [onBuffer, ByteBuffer.store_run, ByteBuffer.size_mk, Nat.zero_add, if_pos same.le, whole]

/-- A buffer is read if it has bytes and the file has as many. -/
theorem ends_readBuffer {buffer result : ByteBuffer} {size : Nat} (small : size ≤ 0xFFFF) :
    Ends (readBuffer buffer size) before result after ↔
      before.good = true ∧ ∃ bytes, 0 < bytes.length ∧ bytes.length = size ∧
        before.rest = bytes ++ after.rest ∧ result = loaded bytes ∧
        after = { before with rest := after.rest } := by
  have fits : size ≤ ByteBuffer.maxSize := small.trans (by norm_num [ByteBuffer.maxSize])
  unfold readBuffer
  rw [onBuffer_resize buffer fits, pure_bind, onBuffer_contents]
  by_cases none : size = 0
  · subst none
    rw [if_pos (List.length_eq_zero_iff.mp ByteBuffer.resized_length)]
    constructor
    · rintro ⟨ended, -⟩
      cases ended
    · rintro ⟨-, bytes, positive, zero, -⟩
      exact absurd zero positive.ne'
  · have some : ByteBuffer.resized buffer.storage size ≠ [] := by
      intro nil
      have length := @ByteBuffer.resized_length buffer.storage size
      rw [nil] at length
      exact none length.symm
    rw [if_neg some, pure_bind, ends_bind fun _ => sticky_onBuffer _ _]
    constructor
    · rintro ⟨bytes, middle, reading, storing⟩
      obtain ⟨good, length, split, same⟩ := ends_read.mp reading
      rw [onBuffer_store (by rw [length, ByteBuffer.resized_length]), ends_pure] at storing
      obtain ⟨-, rfl, rfl⟩ := storing
      exact ⟨good, bytes, by omega, length, split, by rw [loaded, length], same⟩
    · rintro ⟨good, bytes, -, length, split, rfl, same⟩
      have reading : Ends (read size : Loader Bytes) before bytes after :=
        ends_read.mpr ⟨good, length, split, same⟩
      refine ⟨bytes, after, reading, ?_⟩
      rw [onBuffer_store (by rw [length, ByteBuffer.resized_length]), ends_pure]
      exact ⟨reading.2, by rw [loaded, length], rfl⟩

theorem ends_round {change : Loading → Loading} {failure : LoadFailure} :
    Ends (do modifyData change; throwAtEnd failure; modifyData Loading.nextRound)
        before value after ↔
      before.good = true ∧ after = { before with data := (change before.data).nextRound } := by
  rw [ends_bind fun _ => sticky_bind (sticky_throwAtEnd _) fun _ => sticky_modifyData _]
  constructor
  · rintro ⟨_, changed, changing, rest⟩
    obtain ⟨good, rfl⟩ := ends_modifyData.mp changing
    obtain ⟨_, checked, checking, counting⟩ := (ends_bind fun _ => sticky_modifyData _).mp rest
    obtain ⟨-, rfl⟩ := ends_throwAtEnd.mp checking
    exact ⟨good, (ends_modifyData.mp counting).2⟩
  · rintro ⟨good, rfl⟩
    exact ⟨(), { before with data := change before.data }, ends_modifyData.mpr ⟨good, rfl⟩,
      (ends_bind fun _ => sticky_modifyData _).mpr ⟨(), _, ends_throwAtEnd.mpr ⟨good, rfl⟩,
        ends_modifyData.mpr ⟨good, rfl⟩⟩⟩

theorem sticky_round (change : Loading → Loading) (failure : LoadFailure) :
    Sticky (do modifyData change; throwAtEnd failure; modifyData Loading.nextRound) :=
  sticky_bind (sticky_modifyData _) fun _ => sticky_bind (sticky_throwAtEnd _) fun _ =>
    sticky_modifyData _

theorem sticky_loadPlayer : Sticky (loadPlayer memory) :=
  sticky_bind (sticky_readNumber _ _) fun _ => sticky_bind (sticky_readNumber _ _) fun _ =>
    sticky_ite _ (sticky_throw _) <| sticky_bind sticky_get fun _ =>
      sticky_bind (sticky_readBuffer _ _) fun _ => sticky_round _ _

theorem sticky_loadOwner : Sticky (loadOwner memory) :=
  sticky_bind (sticky_readNumber _ _) fun _ => sticky_bind (sticky_readNumber _ _) fun _ =>
    sticky_round _ _

theorem sticky_loadPacket : Sticky (loadPacket memory) :=
  sticky_bind (sticky_readNumber _ _) fun _ => sticky_bind (sticky_readNumber _ _) fun _ =>
    sticky_bind (sticky_readNumber _ _) fun _ => sticky_ite _ (sticky_throw _) <|
      sticky_bind (sticky_readBuffer _ _) fun _ => sticky_round _ _

def Loading.withPlayer (row : ObjectGuid × Bytes) (loading : Loading) : Loading :=
  (loading.addPlayer row.1 (loaded row.2)).nextRound

def Loading.withOwner (row : ObjectGuid × ObjectGuid) (loading : Loading) : Loading :=
  (loading.addOwner row.1 row.2).nextRound

def Loading.withPacket (row : UInt32 × UInt16 × Bytes) (loading : Loading) : Loading :=
  (loading.pushPacket row.1 ⟨row.2.1, loaded row.2.2⟩).nextRound

theorem toNat_ofNat_guid {number : Nat} (small : number < 256 ^ 8) :
    (UInt64.ofNat number).toNat = number := by
  rw [UInt64.toNat_ofNat']
  exact Nat.mod_eq_of_lt (by omega)

theorem toNat_ofNat_time {number : Nat} (small : number < 256 ^ 4) :
    (UInt32.ofNat number).toNat = number := by
  rw [UInt32.toNat_ofNat']
  exact Nat.mod_eq_of_lt (by omega)

theorem accepts_loadPlayer :
    Accepts (loadPlayer memory) (fun row => Storable row.2) playerBytes Loading.withPlayer := by
  intro before value after
  unfold loadPlayer
  rw [ends_readNumber_bind fun _ => sticky_bind (sticky_readNumber _ _) fun _ =>
    sticky_ite _ (sticky_throw _) <| sticky_bind sticky_get fun _ =>
      sticky_bind (sticky_readBuffer _ _) fun _ => sticky_round _ _]
  simp only [ends_readNumber_bind fun _ => sticky_ite _ (sticky_throw _) <|
    sticky_bind sticky_get fun _ => sticky_bind (sticky_readBuffer _ _) fun _ => sticky_round _ _,
    ends_ite, ends_throw, ends_get_bind, ends_bind fun _ => sticky_round _ _, ends_round]
  constructor
  · rintro ⟨good, guidRaw, rest, smallGuid, split, -, size, rest', smallSize, split', body⟩
    rcases body with ⟨-, ⟨⟩⟩ | ⟨small, buffer, middle, reading, -, same⟩
    obtain ⟨-, bytes, positive, rfl, split'', rfl, middleSame⟩ :=
      (ends_readBuffer (Nat.not_lt.mp small)).mp reading
    refine ⟨good, (UInt64.ofNat guidRaw, bytes), ⟨positive, Nat.not_lt.mp small⟩, ?_, ?_⟩
    · simp only at split''
      rw [same, split, split', split'']
      simp only [playerBytes, toNat_ofNat_guid smallGuid, List.append_assoc]
    · rw [same, middleSame]
      rfl
  · rintro ⟨good, ⟨guid, bytes⟩, ⟨positive, small⟩, split, same⟩
    refine ⟨good, guid.toNat, encode 8 bytes.length ++ (bytes ++ after.rest), guid.toNat_lt, ?_,
      good, bytes.length, bytes ++ after.rest, lt_of_le_of_lt small (by norm_num), rfl, .inr
        ⟨Nat.not_lt.mpr small, loaded bytes, { before with rest := after.rest },
          (ends_readBuffer small).mpr ⟨good, bytes, positive, rfl, rfl, rfl, rfl⟩, good, ?_⟩⟩
    · simpa only [playerBytes, List.append_assoc] using split
    · rw [same, UInt64.ofNat_toNat]
      rfl

theorem accepts_loadOwner :
    Accepts (loadOwner memory) (fun _ => True) ownerBytes Loading.withOwner := by
  intro before value after
  unfold loadOwner
  rw [ends_readNumber_bind fun _ => sticky_bind (sticky_readNumber _ _) fun _ => sticky_round _ _]
  simp only [ends_readNumber_bind fun _ => sticky_round _ _, ends_round]
  constructor
  · rintro ⟨good, image, rest, smallImage, split, -, owner, rest', smallOwner, split', -, same⟩
    refine ⟨good, (UInt64.ofNat image, UInt64.ofNat owner), trivial, ?_, ?_⟩
    · rw [same, split, split']
      simp only [ownerBytes, toNat_ofNat_guid smallImage, toNat_ofNat_guid smallOwner,
        List.append_assoc]
    · rw [same]
      rfl
  · rintro ⟨good, ⟨image, owner⟩, -, split, same⟩
    refine ⟨good, image.toNat, encode 8 owner.toNat ++ after.rest, image.toNat_lt, ?_, good,
      owner.toNat, after.rest, owner.toNat_lt, rfl, good, ?_⟩
    · simpa only [ownerBytes, List.append_assoc] using split
    · rw [same, UInt64.ofNat_toNat, UInt64.ofNat_toNat]
      rfl

theorem accepts_loadPacket :
    Accepts (loadPacket memory) (fun row => Storable row.2.2) packetBytes Loading.withPacket := by
  intro before value after
  unfold loadPacket
  rw [ends_readNumber_bind fun _ => sticky_bind (sticky_readNumber _ _) fun _ =>
    sticky_bind (sticky_readNumber _ _) fun _ => sticky_ite _ (sticky_throw _) <|
      sticky_bind (sticky_readBuffer _ _) fun _ => sticky_round _ _]
  simp only [ends_readNumber_bind fun _ => sticky_bind (sticky_readNumber _ _) fun _ =>
    sticky_ite _ (sticky_throw _) <| sticky_bind (sticky_readBuffer _ _) fun _ =>
      sticky_round _ _,
    ends_readNumber_bind fun _ => sticky_ite _ (sticky_throw _) <|
      sticky_bind (sticky_readBuffer _ _) fun _ => sticky_round _ _,
    ends_ite, ends_throw, ends_bind fun _ => sticky_round _ _, ends_round]
  constructor
  · rintro ⟨good, time, rest₁, smallTime, split₁, -, size, rest₂, smallSize, split₂, -, opcode,
      rest₃, smallOpcode, split₃, body⟩
    rcases body with ⟨-, ⟨⟩⟩ | ⟨small, buffer, middle, reading, -, same⟩
    obtain ⟨-, bytes, positive, rfl, split₄, rfl, middleSame⟩ :=
      (ends_readBuffer (Nat.not_lt.mp small)).mp reading
    refine ⟨good, (UInt32.ofNat time, UInt16.ofNat opcode, bytes),
      ⟨positive, Nat.not_lt.mp small⟩, ?_, ?_⟩
    · have opcodeSame : (UInt16.ofNat opcode).toNat = opcode := by
        rw [UInt16.toNat_ofNat']
        exact Nat.mod_eq_of_lt (by omega)
      simp only at split₄
      rw [same, split₁, split₂, split₃, split₄]
      simp only [packetBytes, toNat_ofNat_time smallTime, opcodeSame, List.append_assoc]
    · rw [same, middleSame]
      rfl
  · rintro ⟨good, ⟨time, opcode, bytes⟩, ⟨positive, small⟩, split, same⟩
    refine ⟨good, time.toNat,
      encode 8 bytes.length ++ (encode 2 opcode.toNat ++ (bytes ++ after.rest)), time.toNat_lt, ?_,
      good, bytes.length, encode 2 opcode.toNat ++ (bytes ++ after.rest),
      lt_of_le_of_lt small (by norm_num), rfl, good, opcode.toNat, bytes ++ after.rest,
      opcode.toNat_lt, rfl, .inr ⟨Nat.not_lt.mpr small, loaded bytes,
        { before with rest := after.rest },
        (ends_readBuffer small).mpr ⟨good, bytes, positive, rfl, rfl, rfl, rfl⟩, good, ?_⟩⟩
    · simpa only [packetBytes, List.append_assoc] using split
    · rw [same, UInt32.ofNat_toNat, UInt16.ofNat_toNat]
      rfl

/-! ## The whole reader -/

/-- What has been loaded after the sections of an image. -/
def Image.load (image : Image) (loading : Loading) : Loading :=
  image.packets.foldl (fun loading row => loading.withPacket row)
    (image.owners.foldl (fun loading row => loading.withOwner row)
      (image.players.foldl (fun loading row => loading.withPlayer row)
        (loading.setMatchStart image.matchStart.toNat)))

theorem sticky_loadSection {loadRow : Loader Unit} (sticky : Sticky loadRow) :
    Sticky (loadSection memory loadRow) :=
  sticky_bind (sticky_readNumber _ _) fun _ => sticky_repeatTimes sticky _

theorem sticky_loadSections : Sticky (loadSections memory) :=
  sticky_bind (sticky_readNumber _ _) fun _ => sticky_bind (sticky_modifyData _) fun _ =>
    sticky_bind (sticky_loadSection sticky_loadPlayer) fun _ =>
      sticky_bind (sticky_loadSection sticky_loadOwner) fun _ =>
        sticky_loadSection sticky_loadPacket

/-- The sections behind each other, as the reader takes them. -/
theorem accepts_rows :
    Accepts (do
        loadSection memory (loadPlayer memory)
        loadSection memory (loadOwner memory)
        loadSection memory (loadPacket memory))
      (fun rows : List (ObjectGuid × Bytes) × List (ObjectGuid × ObjectGuid) ×
          List (UInt32 × UInt16 × Bytes) =>
        (rows.1.length < 256 ^ 8 ∧ ∀ row ∈ rows.1, Storable row.2) ∧
          (rows.2.1.length < 256 ^ 8 ∧ ∀ row ∈ rows.2.1, True) ∧
            rows.2.2.length < 256 ^ 8 ∧ ∀ row ∈ rows.2.2, Storable row.2.2)
      (fun rows => sectionBytes playerBytes rows.1 ++
        (sectionBytes ownerBytes rows.2.1 ++ sectionBytes packetBytes rows.2.2))
      fun rows loading =>
        rows.2.2.foldl (fun loading row => loading.withPacket row)
          (rows.2.1.foldl (fun loading row => loading.withOwner row)
            (rows.1.foldl (fun loading row => loading.withPlayer row) loading)) := by
  have players := (@accepts_loadPlayer memory).counted sticky_loadPlayer memory 8
  have owners := (@accepts_loadOwner memory).counted sticky_loadOwner memory 8
  have packets := (@accepts_loadPacket memory).counted sticky_loadPacket memory 8
  have stickyPackets : Sticky (loadSection memory (loadPacket memory)) :=
    sticky_loadSection sticky_loadPacket
  have stickyOwners : Sticky (loadSection memory (loadOwner memory)) :=
    sticky_loadSection sticky_loadOwner
  exact players.andThen (owners.andThen packets stickyPackets)
    (sticky_bind stickyOwners fun _ => stickyPackets)

theorem accepts_loadSections :
    Accepts (loadSections memory) Image.Loadable Image.sections Image.load := by
  intro before value after
  unfold loadSections
  rw [ends_readNumber_bind fun _ => sticky_bind (sticky_modifyData _) fun _ =>
    sticky_bind (sticky_loadSection sticky_loadPlayer) fun _ =>
      sticky_bind (sticky_loadSection sticky_loadOwner) fun _ =>
        sticky_loadSection sticky_loadPacket]
  simp only [ends_modifyData_bind, accepts_rows _ _ _]
  constructor
  · rintro ⟨good, start, rest, small, split, -, rows, ⟨players, owners, packets⟩, split', same⟩
    refine ⟨good, ⟨UInt32.ofNat start, rows.1, rows.2.1, rows.2.2⟩,
      ⟨players.1, players.2, owners.1, packets.1, packets.2⟩, ?_, ?_⟩
    · rw [same, split, split']
      simp only [Image.sections, toNat_ofNat_time small, List.append_assoc]
    · rw [same]
      simp only [Image.load, toNat_ofNat_time small]
  · rintro ⟨good, image, loadable, split, same⟩
    refine ⟨good, image.matchStart.toNat, _, image.matchStart.toNat_lt, ?_, good,
      (image.players, image.owners, image.packets),
      ⟨⟨loadable.playerCount, loadable.players⟩, ⟨loadable.ownerCount, fun _ _ => trivial⟩,
        loadable.packetCount, loadable.packets⟩, rfl, same⟩
    simpa only [Image.sections, List.append_assoc] using split

/-- The whole program ends well if the file begins with an image, or if it has another header. -/
theorem ends_loadReplay {valid : Bool} :
    Ends (loadReplay memory) before valid after ↔
      (valid = true ∧ before.good = true ∧ ∃ image : Image, image.Loadable ∧
        before.rest = image.bytes ++ after.rest ∧
        after = { before with rest := after.rest, data := image.load before.data }) ∨
      (valid = false ∧ before.good = true ∧ ∃ bytes, bytes.length = header.length ∧
        bytes ≠ header ∧ before.rest = bytes ++ after.rest ∧
        after = { before with rest := after.rest }) := by
  unfold loadReplay
  rw [ends_bind fun _ => sticky_ite _ (sticky_bind sticky_loadSections fun _ => sticky_pure)
    sticky_pure]
  constructor
  · rintro ⟨bytes, middle, reading, later⟩
    obtain ⟨good, length, split, same⟩ := ends_readInto.mp reading
    rcases (ends_ite _ _ _).mp later with ⟨rfl, ended⟩ | ⟨other, ended⟩
    · obtain ⟨_, last, sections, ended⟩ := (ends_bind fun _ => sticky_pure).mp ended
      obtain ⟨-, rfl, rfl⟩ := (ends_pure _).mp ended
      obtain ⟨-, image, loadable, split', same'⟩ := (accepts_loadSections _ _ _).mp sections
      refine .inl ⟨rfl, good, image, loadable, ?_, ?_⟩
      · rw [split, split', Image.bytes, List.append_assoc]
      · rw [same', same]
    · obtain ⟨-, rfl, rfl⟩ := (ends_pure _).mp ended
      exact .inr ⟨rfl, good, bytes, length, other, split, same⟩
  · rintro (⟨rfl, good, image, loadable, split, same⟩ |
      ⟨rfl, good, bytes, length, other, split, same⟩)
    · rw [Image.bytes, List.append_assoc] at split
      have sections : Ends (loadSections memory)
          { before with rest := image.sections ++ after.rest } () after :=
        (accepts_loadSections _ _ _).mpr ⟨good, image, loadable, rfl, same⟩
      exact ⟨header, _, ends_readInto.mpr ⟨good, rfl, split, rfl⟩, (ends_ite _ _ _).mpr <| .inl
        ⟨rfl, (ends_bind fun _ => sticky_pure).mpr
          ⟨(), after, sections, (ends_pure _).mpr ⟨sections.2, rfl, rfl⟩⟩⟩⟩
    · have reading : Ends (readInto memory header.length : Loader Bytes) before bytes after :=
        ends_readInto.mpr ⟨good, length, split, same⟩
      exact ⟨bytes, after, reading, (ends_ite _ _ _).mpr <| .inr
        ⟨other, (ends_pure _).mpr ⟨reading.2, rfl, rfl⟩⟩⟩

end RealmServer.ArenaReplays
