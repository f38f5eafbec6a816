import RealmServer.Lib.LittleEndian

/-!
# Input streams

A program that reads a file from an `std::istream` does not look at the result
of each read.  A read for which not enough bytes are left takes what there is
and marks the stream; later reads get nothing, and a variable which a read did
not fill keeps what was in its memory before.  In the end the program asks the
stream whether all went well.

`Ends` is the judgement for such programs: the program has come to its end and
the stream is still good.  Its rules follow the shape of the program, the mark of
a failed read stays (`Sticky`), and a loop reads one entry in each round.
-/

namespace RealmServer

universe u

/-- A stream, and what the program has made of it so far. -/
structure InputStream (Data : Type u) where
  rest : List UInt8
  good : Bool := true
  /-- How many reads have failed. -/
  misses : Nat := 0
  data : Data

/-- What is in memory before a read that fails, by the number of the failure and the offset. -/
abbrev Memory := Nat → Nat → UInt8

namespace InputStream

variable {Data Failure Value Result : Type}

/-- A program which reads from a stream. -/
abbrev Reader (Failure Data Value : Type) := EStateM Failure (InputStream Data) Value

/-- `read`: the bytes that have arrived. -/
def read (count : Nat) : Reader Failure Data (List UInt8) := fun stream =>
  if stream.good = false then .ok [] { stream with misses := stream.misses + 1 }
  else if count ≤ stream.rest.length then
    .ok (stream.rest.take count) { stream with rest := stream.rest.drop count }
  else .ok stream.rest { stream with rest := [], good := false, misses := stream.misses + 1 }

/-- The bytes of a variable after a read into it. -/
def overlay (arrived : List UInt8) (count : Nat) (before : Nat → UInt8) : List UInt8 :=
  arrived ++ (List.range' arrived.length (count - arrived.length)).map before

/-- A read into memory nobody has written to. -/
def readInto (memory : Memory) (count : Nat) : Reader Failure Data (List UInt8) := do
  let stream ← get
  let arrived ← read count
  return overlay arrived count (memory stream.misses)

/-- A read into a variable of so many bytes. -/
def readNumber (memory : Memory) (width : Nat) : Reader Failure Data Nat := do
  let bytes ← readInto memory width
  return LittleEndian.decode bytes

def modifyData (change : Data → Data) : Reader Failure Data Unit :=
  modify fun stream => { stream with data := change stream.data }

/-- `if (stream.eof()) throw failure;` only a read that finds too little marks the stream. -/
def throwAtEnd (failure : Failure) : Reader Failure Data Unit := fun stream =>
  if stream.good then .ok () stream else .error failure stream

/-- `for (size_t i = 0; i < count; ++i)` -/
def repeatTimes (body : Reader Failure Data Unit) : Nat → Reader Failure Data Unit
  | 0 => pure ()
  | count + 1 => do
      body
      repeatTimes body count

/-! ## Programs which come to their end -/

/-- The program comes to its end, and no read has failed. -/
def Ends (reader : Reader Failure Data Value) (before : InputStream Data) (value : Value)
    (after : InputStream Data) : Prop :=
  reader.run before = .ok value after ∧ after.good = true

/-- The mark of a failed read stays. -/
def Sticky (reader : Reader Failure Data Value) : Prop :=
  ∀ before value after, before.good = false → reader.run before = .ok value after →
    after.good = false

variable {reader : Reader Failure Data Value} {next : Value → Reader Failure Data Result}
  {before after : InputStream Data} {value : Value} {result : Result}

theorem Sticky.good_of_ends (sticky : Sticky reader) (ends : Ends reader before value after) :
    before.good = true := by
  by_contra bad
  have marked := sticky before value after (Bool.eq_false_of_not_eq_true bad) ends.1
  rw [ends.2] at marked
  cases marked

theorem run_bind_eq_ok :
    (reader >>= next).run before = .ok result after ↔
      ∃ value middle, reader.run before = .ok value middle ∧
        (next value).run middle = .ok result after := by
  rw [EStateM.run_bind]
  cases reader.run before with
  | ok value middle => simp
  | error failure middle => simp

theorem ends_bind (sticky : ∀ value, Sticky (next value)) :
    Ends (reader >>= next) before result after ↔
      ∃ value middle, Ends reader before value middle ∧ Ends (next value) middle result after := by
  unfold Ends
  rw [run_bind_eq_ok]
  constructor
  · rintro ⟨⟨value, middle, first, second⟩, good⟩
    exact ⟨value, middle, ⟨first, (sticky value).good_of_ends ⟨second, good⟩⟩, second, good⟩
  · rintro ⟨value, middle, ⟨first, -⟩, second, good⟩
    exact ⟨⟨value, middle, first, second⟩, good⟩

@[simp]
theorem ends_pure (other : Value) :
    Ends (pure value : Reader Failure Data Value) before other after ↔
      before.good = true ∧ other = value ∧ after = before := by
  unfold Ends
  rw [EStateM.run_pure]
  constructor
  · rintro ⟨ended, good⟩
    cases ended
    exact ⟨good, rfl, rfl⟩
  · rintro ⟨good, rfl, rfl⟩
    exact ⟨rfl, good⟩

@[simp]
theorem ends_throw (failure : Failure) :
    Ends (throw failure : Reader Failure Data Value) before value after ↔ False :=
  iff_of_false (fun ends => nomatch ends.1) id

theorem ends_ite (condition : Prop) [Decidable condition]
    (first second : Reader Failure Data Value) :
    Ends (if condition then first else second) before value after ↔
      (condition ∧ Ends first before value after) ∨
        (¬ condition ∧ Ends second before value after) := by
  split_ifs with holds
  · simp [holds]
  · simp [holds]

/-- A read comes to its end if the bytes are there. -/
theorem ends_read {count : Nat} {bytes : List UInt8} :
    Ends (read count : Reader Failure Data (List UInt8)) before bytes after ↔
      before.good = true ∧ bytes.length = count ∧ before.rest = bytes ++ after.rest ∧
        after = { before with rest := after.rest } := by
  unfold Ends EStateM.run read
  split_ifs with bad enough
  · constructor
    · rintro ⟨ended, good⟩
      cases ended
      exact absurd (bad.symm.trans good) (by decide)
    · rintro ⟨good, -⟩
      exact absurd (bad.symm.trans good) (by decide)
  · constructor
    · rintro ⟨ended, good⟩
      cases ended
      refine ⟨good, ?_, (List.take_append_drop count before.rest).symm, rfl⟩
      rw [List.length_take, min_eq_left enough]
    · rintro ⟨good, rfl, split, same⟩
      refine ⟨?_, ?_⟩
      · rw [split, List.take_left, List.drop_left, ← same]
      · rw [same]
        exact good
  · constructor
    · rintro ⟨ended, good⟩
      cases ended
      cases good
    · rintro ⟨good, rfl, split, same⟩
      rw [split, List.length_append] at enough
      omega

theorem overlay_of_length {arrived : List UInt8} {count : Nat} (length : arrived.length = count)
    (old : Nat → UInt8) : overlay arrived count old = arrived := by
  rw [overlay, length, Nat.sub_self]
  exact List.append_nil arrived

theorem sticky_pure : Sticky (pure value : Reader Failure Data Value) := by
  intro before value after bad ended
  cases ended
  exact bad

theorem sticky_throw (failure : Failure) : Sticky (throw failure : Reader Failure Data Value) := by
  intro before value after bad ended
  cases ended

theorem sticky_bind (first : Sticky reader) (second : ∀ value, Sticky (next value)) :
    Sticky (reader >>= next) := by
  intro before result after bad ended
  obtain ⟨value, middle, ended, rest⟩ := run_bind_eq_ok.mp ended
  exact second value middle result after (first before value middle bad ended) rest

theorem sticky_ite (condition : Prop) [Decidable condition]
    {first second : Reader Failure Data Value} (stickyFirst : Sticky first)
    (stickySecond : Sticky second) : Sticky (if condition then first else second) := by
  split_ifs
  · exact stickyFirst
  · exact stickySecond

theorem sticky_get : Sticky (get : Reader Failure Data (InputStream Data)) := by
  intro before value after bad ended
  cases ended
  exact bad

theorem sticky_modifyData (change : Data → Data) :
    Sticky (modifyData change : Reader Failure Data Unit) := by
  intro before value after bad ended
  cases ended
  exact bad

theorem sticky_read (count : Nat) : Sticky (read count : Reader Failure Data (List UInt8)) := by
  intro before value after bad ended
  unfold EStateM.run read at ended
  rw [if_pos bad] at ended
  cases ended
  exact bad

theorem sticky_readInto (memory : Memory) (count : Nat) :
    Sticky (readInto memory count : Reader Failure Data (List UInt8)) :=
  sticky_bind sticky_get fun _ => sticky_bind (sticky_read count) fun _ => sticky_pure

theorem sticky_readNumber (memory : Memory) (width : Nat) :
    Sticky (readNumber memory width : Reader Failure Data Nat) :=
  sticky_bind (sticky_readInto memory width) fun _ => sticky_pure

theorem sticky_throwAtEnd (failure : Failure) :
    Sticky (throwAtEnd failure : Reader Failure Data Unit) := by
  intro before value after bad ended
  unfold EStateM.run throwAtEnd at ended
  rw [if_neg (by simp [bad])] at ended
  cases ended

theorem sticky_repeatTimes {body : Reader Failure Data Unit} (sticky : Sticky body) (count : Nat) :
    Sticky (repeatTimes body count) := by
  induction count with
  | zero => exact sticky_pure
  | succ count induction => exact sticky_bind sticky fun _ => induction

@[simp]
theorem ends_get {value : InputStream Data} :
    Ends (get : Reader Failure Data (InputStream Data)) before value after ↔
      before.good = true ∧ value = before ∧ after = before := by
  constructor
  · rintro ⟨ended, good⟩
    cases ended
    exact ⟨good, rfl, rfl⟩
  · rintro ⟨good, rfl, rfl⟩
    exact ⟨rfl, good⟩

theorem ends_modifyData {change : Data → Data} {value : Unit} :
    Ends (modifyData change : Reader Failure Data Unit) before value after ↔
      before.good = true ∧ after = { before with data := change before.data } := by
  constructor
  · rintro ⟨ended, good⟩
    cases ended
    exact ⟨good, rfl⟩
  · rintro ⟨good, rfl⟩
    exact ⟨rfl, good⟩

theorem ends_throwAtEnd {failure : Failure} {value : Unit} :
    Ends (throwAtEnd failure : Reader Failure Data Unit) before value after ↔
      before.good = true ∧ after = before := by
  unfold Ends EStateM.run throwAtEnd
  split_ifs with good
  · constructor
    · rintro ⟨ended, -⟩
      cases ended
      exact ⟨good, rfl⟩
    · rintro ⟨-, rfl⟩
      exact ⟨rfl, good⟩
  · constructor
    · rintro ⟨ended, -⟩
      cases ended
    · rintro ⟨marked, -⟩
      exact absurd marked good

theorem ends_readInto {memory : Memory} {count : Nat} {bytes : List UInt8} :
    Ends (readInto memory count : Reader Failure Data (List UInt8)) before bytes after ↔
      before.good = true ∧ bytes.length = count ∧ before.rest = bytes ++ after.rest ∧
        after = { before with rest := after.rest } := by
  unfold readInto
  rw [ends_bind fun _ => sticky_bind (sticky_read count) fun _ => sticky_pure]
  simp only [ends_bind (fun _ => sticky_pure), ends_get, ends_pure]
  constructor
  · rintro ⟨_, _, ⟨-, rfl, rfl⟩, arrived, middle, reading, -, rfl, rfl⟩
    have ends := ends_read.mp reading
    rw [overlay_of_length ends.2.1]
    exact ends
  · intro ends
    have reading : Ends (read count : Reader Failure Data (List UInt8)) before bytes after :=
      ends_read.mpr ends
    refine ⟨before, before, ⟨ends.1, rfl, rfl⟩, bytes, after, reading, reading.2, ?_, rfl⟩
    rw [overlay_of_length ends.2.1]

/-- A number of a fixed width is there if its bytes are. -/
theorem ends_readNumber {memory : Memory} {width number : Nat} :
    Ends (readNumber memory width : Reader Failure Data Nat) before number after ↔
      before.good = true ∧ number < 256 ^ width ∧
        before.rest = LittleEndian.encode width number ++ after.rest ∧
        after = { before with rest := after.rest } := by
  unfold readNumber
  rw [ends_bind fun _ => sticky_pure]
  simp only [ends_pure]
  constructor
  · rintro ⟨bytes, middle, reading, -, rfl, rfl⟩
    obtain ⟨good, rfl, split, same⟩ := ends_readInto.mp reading
    exact ⟨good, LittleEndian.decode_lt bytes, by rw [LittleEndian.encode_decode, split], same⟩
  · rintro ⟨good, small, split, same⟩
    have reading : Ends (readInto memory width : Reader Failure Data (List UInt8)) before
        (LittleEndian.encode width number) after :=
      ends_readInto.mpr ⟨good, LittleEndian.encode_length _ _, split, same⟩
    exact ⟨_, after, reading, reading.2, (LittleEndian.decode_encode_of_lt small).symm, rfl⟩

theorem ends_readNumber_bind {memory : Memory} {width : Nat}
    {next : Nat → Reader Failure Data Result} (sticky : ∀ number, Sticky (next number)) :
    Ends (readNumber memory width >>= next) before result after ↔
      before.good = true ∧ ∃ number rest, number < 256 ^ width ∧
        before.rest = LittleEndian.encode width number ++ rest ∧
        Ends (next number) { before with rest := rest } result after := by
  rw [ends_bind sticky]
  constructor
  · rintro ⟨number, middle, reading, later⟩
    obtain ⟨good, small, split, same⟩ := ends_readNumber.mp reading
    exact ⟨good, number, middle.rest, small, split, by rwa [← same]⟩
  · rintro ⟨good, number, rest, small, split, later⟩
    exact ⟨number, _, ends_readNumber.mpr ⟨good, small, split, rfl⟩, later⟩

theorem ends_get_bind {next : InputStream Data → Reader Failure Data Result} :
    Ends (get >>= next) before result after ↔ Ends (next before) before result after := Iff.rfl

theorem ends_modifyData_bind {change : Data → Data} {next : Unit → Reader Failure Data Result} :
    Ends (modifyData change >>= next) before result after ↔
      Ends (next ()) { before with data := change before.data } result after := Iff.rfl

/-! ## Entries -/

section

variable {Entry : Type} {valid : Entry → Prop} {spell : Entry → List UInt8}
  {effect : Entry → Data → Data} {body : Reader Failure Data Unit}

/-- The program reads one entry and does with the data what the entry says. -/
def Accepts (body : Reader Failure Data Unit) (valid : Entry → Prop)
    (spell : Entry → List UInt8) (effect : Entry → Data → Data) : Prop :=
  ∀ before value after, Ends body before value after ↔
    before.good = true ∧ ∃ entry, valid entry ∧ before.rest = spell entry ++ after.rest ∧
      after = { before with rest := after.rest, data := effect entry before.data }

/-- One entry after another. -/
theorem Accepts.andThen {Next : Type} {validNext : Next → Prop} {spellNext : Next → List UInt8}
    {effectNext : Next → Data → Data} {second : Reader Failure Data Unit}
    (first : Accepts body valid spell effect)
    (next : Accepts second validNext spellNext effectNext) (sticky : Sticky second) :
    Accepts (body >>= fun _ => second) (fun pair : Entry × Next => valid pair.1 ∧ validNext pair.2)
      (fun pair => spell pair.1 ++ spellNext pair.2)
      fun pair data => effectNext pair.2 (effect pair.1 data) := by
  intro before value after
  rw [ends_bind fun _ => sticky]
  constructor
  · rintro ⟨_, middle, ended, later⟩
    obtain ⟨good, entry, validEntry, split, same⟩ := (first _ _ _).mp ended
    obtain ⟨-, other, validOther, split', same'⟩ := (next _ _ _).mp later
    refine ⟨good, (entry, other), ⟨validEntry, validOther⟩, ?_, ?_⟩
    · rw [split, split', List.append_assoc]
    · rw [same', same]
  · rintro ⟨good, ⟨entry, other⟩, ⟨validEntry, validOther⟩, split, same⟩
    rw [List.append_assoc] at split
    refine ⟨(), { before with
      rest := spellNext other ++ after.rest, data := effect entry before.data },
      (first _ _ _).mpr ⟨good, entry, validEntry, split, rfl⟩,
      (next _ _ _).mpr ⟨good, other, validOther, rfl, ?_⟩⟩
    rw [same]

/-- A loop over entries reads as many of them as it has rounds. -/
theorem Accepts.repeatTimes (accepts : Accepts body valid spell effect) (sticky : Sticky body)
    (count : Nat) :
    Accepts (repeatTimes body count)
      (fun entries : List Entry => entries.length = count ∧ ∀ entry ∈ entries, valid entry)
      (fun entries => entries.flatMap spell)
      fun entries data => entries.foldl (fun data entry => effect entry data) data := by
  induction count with
  | zero =>
      intro before value after
      unfold InputStream.repeatTimes
      rw [ends_pure]
      constructor
      · rintro ⟨good, -, rfl⟩
        exact ⟨good, [], ⟨rfl, by simp⟩, rfl, rfl⟩
      · rintro ⟨good, entries, ⟨none, -⟩, split, same⟩
        obtain rfl := List.length_eq_zero_iff.mp none
        refine ⟨good, rfl, ?_⟩
        rw [same]
        cases before
        simp only [List.flatMap_nil, List.nil_append] at split
        simp [split]
  | succ count induction =>
      intro before value after
      unfold InputStream.repeatTimes
      rw [ends_bind fun _ => sticky_repeatTimes sticky count]
      constructor
      · rintro ⟨_, middle, first, later⟩
        obtain ⟨good, entry, validEntry, split, same⟩ := (accepts _ _ _).mp first
        obtain ⟨-, entries, ⟨length, valids⟩, split', same'⟩ := (induction _ _ _).mp later
        refine ⟨good, entry :: entries, ⟨by rw [List.length_cons, length], ?_⟩, ?_, ?_⟩
        · exact List.forall_mem_cons.mpr ⟨validEntry, valids⟩
        · simp only [split, split', List.flatMap_cons, List.append_assoc]
        · rw [same', same]
          rfl
      · rintro ⟨good, entries, ⟨length, valids⟩, split, same⟩
        obtain ⟨entry, entries, rfl⟩ := List.exists_cons_of_length_eq_add_one length
        rw [List.forall_mem_cons] at valids
        simp only [List.flatMap_cons, List.append_assoc] at split
        refine ⟨(), { before with
          rest := entries.flatMap spell ++ after.rest, data := effect entry before.data },
          (accepts _ _ _).mpr ⟨good, entry, valids.1, split, rfl⟩, (induction _ _ _).mpr
            ⟨good, entries, ⟨Nat.succ.inj length, valids.2⟩, rfl, ?_⟩⟩
        rw [same]
        rfl

/-- The number of entries stands in front of them. -/
theorem Accepts.counted (accepts : Accepts body valid spell effect) (sticky : Sticky body)
    (memory : Memory) (width : Nat) :
    Accepts (readNumber memory width >>= fun count => InputStream.repeatTimes body count)
      (fun entries : List Entry => entries.length < 256 ^ width ∧ ∀ entry ∈ entries, valid entry)
      (fun entries => LittleEndian.encode width entries.length ++ entries.flatMap spell)
      fun entries data => entries.foldl (fun data entry => effect entry data) data := by
  intro before value after
  rw [ends_readNumber_bind fun _ => sticky_repeatTimes sticky _]
  constructor
  · rintro ⟨good, count, rest, small, split, later⟩
    obtain ⟨-, entries, ⟨rfl, valids⟩, split', same⟩ :=
      (accepts.repeatTimes sticky count _ _ _).mp later
    refine ⟨good, entries, ⟨small, valids⟩, ?_, by rw [same]⟩
    simp only at split'
    rw [split, split', List.append_assoc]
  · rintro ⟨good, entries, ⟨small, valids⟩, split, same⟩
    rw [List.append_assoc] at split
    exact ⟨good, entries.length, entries.flatMap spell ++ after.rest, small, split,
      (accepts.repeatTimes sticky _ _ _ _).mpr ⟨good, entries, ⟨rfl, valids⟩, rfl, same⟩⟩

end

/-! ## What a program uses up -/

/-- The stream which is left, whether the program has come to its end or has thrown. -/
def left : EStateM.Result Failure (InputStream Data) Value → InputStream Data
  | .ok _ stream => stream
  | .error _ stream => stream

/-- However the program ends, it does not increase a measure of the stream. -/
def Within (measure : InputStream Data → Nat) (reader : Reader Failure Data Value) : Prop :=
  ∀ before, measure (left (reader.run before)) ≤ measure before

/-- The same, of a program which throws. -/
def WithinFailures (measure : InputStream Data → Nat) (reader : Reader Failure Data Value) : Prop :=
  ∀ before failure after, reader.run before = .error failure after →
    measure after ≤ measure before

/-- The program comes to its end only if no read has failed. -/
def Surely (reader : Reader Failure Data Value) : Prop :=
  ∀ before value after, reader.run before = .ok value after → after.good = true

section

variable {measure : InputStream Data → Nat}

theorem within_pure : Within measure (pure value : Reader Failure Data Value) :=
  fun _ => le_refl _

theorem within_throw (failure : Failure) :
    Within measure (throw failure : Reader Failure Data Value) :=
  fun _ => le_refl _

theorem within_get : Within measure (get : Reader Failure Data (InputStream Data)) :=
  fun _ => le_refl _

theorem within_bind (first : Within measure reader)
    (second : ∀ value, Within measure (next value)) : Within measure (reader >>= next) := by
  intro before
  rw [EStateM.run_bind]
  have step := first before
  cases ended : reader.run before with
  | ok value middle =>
      rw [ended] at step
      exact (second value middle).trans step
  | error failure middle =>
      rw [ended] at step
      exact step

theorem within_ite (condition : Prop) [Decidable condition]
    {first second : Reader Failure Data Value} (withinFirst : Within measure first)
    (withinSecond : Within measure second) :
    Within measure (if condition then first else second) := by
  split_ifs
  · exact withinFirst
  · exact withinSecond

theorem within_repeatTimes {body : Reader Failure Data Unit} (within : Within measure body)
    (count : Nat) : Within measure (repeatTimes body count) := by
  induction count with
  | zero => exact within_pure
  | succ count induction => exact within_bind within fun _ => induction

theorem within_throwAtEnd (failure : Failure) :
    Within measure (throwAtEnd failure : Reader Failure Data Unit) := by
  intro before
  unfold EStateM.run throwAtEnd
  split_ifs <;> exact le_refl _

/-- A read takes bytes from the stream, and nothing else changes. -/
theorem within_read (count : Nat)
    (shrinks : ∀ (stream : InputStream Data) rest good misses,
      rest.length ≤ stream.rest.length →
        measure ⟨rest, good, misses, stream.data⟩ ≤ measure stream) :
    Within measure (read count : Reader Failure Data (List UInt8)) := by
  intro before
  unfold EStateM.run read
  split_ifs
  · exact shrinks before before.rest _ _ le_rfl
  · exact shrinks before _ _ _ (by rw [List.length_drop]; omega)
  · exact shrinks before _ _ _ (Nat.zero_le _)

theorem within_readNumber (memory : Memory) (width : Nat)
    (shrinks : ∀ (stream : InputStream Data) rest good misses,
      rest.length ≤ stream.rest.length →
        measure ⟨rest, good, misses, stream.data⟩ ≤ measure stream) :
    Within measure (readNumber memory width : Reader Failure Data Nat) :=
  within_bind (within_bind within_get fun _ => within_bind (within_read width shrinks) fun _ =>
    within_pure) fun _ => within_pure

theorem within_modifyData {change : Data → Data}
    (same : ∀ stream : InputStream Data,
      measure { stream with data := change stream.data } ≤ measure stream) :
    Within measure (modifyData change : Reader Failure Data Unit) := same

theorem Within.failures (within : Within measure reader) : WithinFailures measure reader := by
  intro before failure after thrown
  have step := within before
  rw [thrown] at step
  exact step

theorem withinFailures_bind (first : Within measure reader)
    (second : ∀ value, WithinFailures measure (next value)) :
    WithinFailures measure (reader >>= next) := by
  intro before failure after thrown
  rw [EStateM.run_bind] at thrown
  have step := first before
  cases ended : reader.run before with
  | ok value middle =>
      rw [ended] at step thrown
      exact (second value middle failure after thrown).trans step
  | error failure' middle =>
      rw [ended] at step thrown
      cases thrown
      exact step

theorem withinFailures_modifyData (change : Data → Data) :
    WithinFailures measure (modifyData change : Reader Failure Data Unit) := by
  rintro before failure after ⟨⟩

theorem surely_bind (second : ∀ value, Surely (next value)) : Surely (reader >>= next) := by
  intro before result after ended
  obtain ⟨value, middle, -, later⟩ := run_bind_eq_ok.mp ended
  exact second value middle result after later

theorem surely_throw (failure : Failure) : Surely (throw failure : Reader Failure Data Value) := by
  rintro before value after ⟨⟩

theorem surely_ite (condition : Prop) [Decidable condition]
    {first second : Reader Failure Data Value} (surelyFirst : Surely first)
    (surelySecond : Surely second) : Surely (if condition then first else second) := by
  split_ifs
  · exact surelyFirst
  · exact surelySecond

/-- A check for the end of the file, before a program which reads no more. -/
theorem surely_throwAtEnd_bind {failure : Failure} {change : Data → Data} :
    Surely (throwAtEnd failure >>= fun _ => modifyData change : Reader Failure Data Unit) := by
  intro before value after ended
  obtain ⟨_, middle, checked, later⟩ := run_bind_eq_ok.mp ended
  unfold EStateM.run throwAtEnd at checked
  split_ifs at checked with good
  cases checked
  cases later
  exact good

/-- What an entry adds to the measure is paid for by its bytes. -/
theorem Accepts.within {Entry : Type} {valid : Entry → Prop} {spell : Entry → List UInt8}
    {effect : Entry → Data → Data} {body : Reader Failure Data Unit}
    (accepts : Accepts body valid spell effect) (surely : Surely body)
    (failures : WithinFailures measure body)
    (paid : ∀ (stream : InputStream Data) entry rest, valid entry →
      stream.rest = spell entry ++ rest →
        measure { stream with rest := rest, data := effect entry stream.data } ≤ measure stream) :
    Within measure body := by
  intro before
  cases ended : body.run before with
  | ok value after =>
      obtain ⟨-, entry, validEntry, split, same⟩ :=
        (accepts before value after).mp ⟨ended, surely before value after ended⟩
      show measure after ≤ measure before
      rw [same]
      exact paid before entry after.rest validEntry split
  | error failure after => exact failures before failure after ended

end

end InputStream

end RealmServer
