import RealmServer.Network.Fragmentation

/-!
# A stream in chunks

However a stream arrives, a `ReceivingSocket` follows `readAll`, up to the
pause: `Outcome` says that a read ends with everything read that can be read,
or right behind an accepted `CMSG_AUTH_SESSION` in the bytes of that very read.
There the rest of the read stays in the buffer.  The next read takes it up, so
that only a pause in the last chunk of all makes a difference.
-/

namespace RealmServer.Network

open Framing Transition

variable {environment : ReceiverEnvironment} {receiver next : Receiver}
  {bytes all head tail frame rest : Bytes} {packet : ClientPacket}

theorem readAll_none (none : readPacket environment receiver bytes = none) :
    (packetReader environment).readAll receiver bytes = ⟨[], receiver, bytes⟩ :=
  FrameReader.readAll_of_none none

theorem readAll_found {value : Option ClientPacket}
    (found : readPacket environment receiver bytes = some (value, next, rest)) :
    (packetReader environment).readAll receiver bytes =
      { (packetReader environment).readAll next rest with
        values := value :: ((packetReader environment).readAll next rest).values } :=
  FrameReader.readAll_of_some found

theorem readAll_alone {value : Option ClientPacket}
    (alone : readPacket environment receiver frame = some (value, next, []))
    (more : Bytes) :
    (packetReader environment).readAll receiver (frame ++ more) =
      { (packetReader environment).readAll next more with
        values := value :: ((packetReader environment).readAll next more).values } :=
  FrameReader.readAll_frame alone more

/-! ## The pause in the stream -/

/-- Reading these bytes ends with an accepted `CMSG_AUTH_SESSION`. -/
structure PausedAt (environment : ReceiverEnvironment) (receiver : Receiver)
    (bytes : Bytes) : Prop where
  left : ((packetReader environment).readAll receiver bytes).left = []
  isOpen : ((packetReader environment).readAll receiver bytes).state.isOpen = true
  last : ∃ packet : ClientPacket, packet.opcode = cmsgAuthSession ∧
    ((packetReader environment).readAll receiver bytes).values.getLast? = some (some packet)

/-- Nowhere in these bytes reading pauses. -/
def NeverPaused (environment : ReceiverEnvironment) (receiver : Receiver)
    (bytes : Bytes) : Prop :=
  ∀ head, head <+: bytes → ¬ PausedAt environment receiver head

theorem PausedAt.found (paused : PausedAt environment receiver bytes) :
    ∃ value next rest, readPacket environment receiver bytes = some (value, next, rest) := by
  cases found : readPacket environment receiver bytes with
  | none =>
      obtain ⟨packet, _, last⟩ := paused.last
      rw [readAll_none found] at last
      exact absurd last (by simp)
  | some result => exact ⟨result.1, result.2.1, result.2.2, rfl⟩

/-- The packet behind which reading pauses, or a pause later on. -/
theorem PausedAt.cases {value : Option ClientPacket}
    (paused : PausedAt environment receiver bytes)
    (found : readPacket environment receiver bytes = some (value, next, rest)) :
    (∃ packet, value = some packet ∧ packet.opcode = cmsgAuthSession ∧
        next.isOpen = true ∧ rest = []) ∨
      PausedAt environment next rest := by
  obtain ⟨left, isOpen, packet, opcode, last⟩ := paused
  rw [readAll_found found] at left isOpen last
  dsimp only at left isOpen last
  cases later : ((packetReader environment).readAll next rest).values with
  | nil =>
      left
      rw [later] at last
      have none : readPacket environment next rest = none := by
        cases again : readPacket environment next rest with
        | none => rfl
        | some result =>
            rw [readAll_found again] at later
            exact absurd later (by simp)
      rw [readAll_none none] at left isOpen
      exact ⟨packet, by simpa using last, opcode, isOpen, left⟩
  | cons first values =>
      right
      refine ⟨left, isOpen, packet, opcode, ?_⟩
      rw [later] at last ⊢
      rwa [List.getLast?_cons_cons] at last

theorem PausedAt.behind {value : Option ClientPacket}
    (found : readPacket environment receiver frame = some (value, next, []))
    (paused : PausedAt environment next bytes) :
    PausedAt environment receiver (frame ++ bytes) := by
  obtain ⟨left, isOpen, packet, opcode, last⟩ := paused
  have read := readAll_alone found bytes
  refine ⟨?_, ?_, packet, opcode, ?_⟩
  · rw [read]
    exact left
  · rw [read]
    exact isOpen
  · rw [read]
    show List.getLast? (value :: _) = _
    rw [List.getLast?_cons, last]
    rfl

theorem PausedAt.of_packet
    (found : readPacket environment receiver frame = some (some packet, next, []))
    (opcode : packet.opcode = cmsgAuthSession) (isOpen : next.isOpen = true) :
    PausedAt environment receiver frame := by
  have read := readAll_found found
  have behind : (packetReader environment).readAll next [] = ⟨[], next, []⟩ :=
    readAll_none readPacket_nil
  rw [behind] at read
  refine ⟨?_, ?_, packet, opcode, ?_⟩
  · rw [read]
  · rw [read]
    exact isOpen
  · rw [read]
    rfl

/-! ## Who is logged in -/

theorem readPacket_authed {value : Option ClientPacket}
    (found : readPacket environment receiver bytes = some (value, next, rest))
    (authed : receiver.authed = true) : next.authed = true := by
  rw [readPacket_next found]
  cases value with
  | none => exact authed
  | some packet => exact Receiver.finish_authed authed

theorem readAll_authed (authed : receiver.authed = true) (bytes : Bytes) :
    ((packetReader environment).readAll receiver bytes).state.authed = true := by
  induction receiver, bytes using FrameReader.frames_induction (packetReader environment) with
  | stuck receiver bytes none =>
      rw [readAll_none none]
      exact authed
  | frame receiver bytes value next rest found induction =>
      rw [readAll_found found]
      exact induction (readPacket_authed found authed)

/-- Nobody has logged in before a pause. -/
theorem PausedAt.notAuthed (paused : PausedAt environment receiver bytes) :
    receiver.authed = false := by
  induction receiver, bytes using FrameReader.frames_induction (packetReader environment) with
  | stuck receiver bytes none =>
      obtain ⟨value, next, rest, found⟩ := paused.found
      exact absurd (none.symm.trans found) (by simp)
  | frame receiver bytes value next rest found induction =>
      by_contra authed
      simp only [Bool.not_eq_false] at authed
      rcases paused.cases found with ⟨packet, rfl, opcode, isOpen, _⟩ | later
      · have closed : (receiver.afterHeader.finish environment packet).isOpen = false :=
          Receiver.finish_again authed opcode
        have received := readPacket_next found
        subst received
        exact absurd (isOpen.symm.trans closed) (by simp)
      · have before := induction later
        rw [readPacket_authed found authed] at before
        exact absurd before (by simp)

/-- Somebody is logged in behind a pause. -/
theorem PausedAt.authed (paused : PausedAt environment receiver bytes) :
    ((packetReader environment).readAll receiver bytes).state.authed = true := by
  induction receiver, bytes using FrameReader.frames_induction (packetReader environment) with
  | stuck receiver bytes none =>
      obtain ⟨value, next, rest, found⟩ := paused.found
      exact absurd (none.symm.trans found) (by simp)
  | frame receiver bytes value next rest found induction =>
      rw [readAll_found found]
      rcases paused.cases found with ⟨packet, rfl, opcode, isOpen, _⟩ | later
      · have received := readPacket_next found
        subst received
        exact readAll_authed (Receiver.finish_accepted opcode isOpen) rest
      · exact induction later

/-- Behind some bytes, a pause is where it is behind all of them. -/
theorem PausedAt.later (paused : PausedAt environment receiver (head ++ tail))
    (some : tail ≠ []) :
    PausedAt environment ((packetReader environment).readAll receiver head).state
      (((packetReader environment).readAll receiver head).left ++ tail) := by
  obtain ⟨left, isOpen, packet, opcode, last⟩ := paused
  rw [FrameReader.readAll_append] at left isOpen last
  dsimp only at left isOpen last
  refine ⟨left, isOpen, packet, opcode, ?_⟩
  rw [List.getLast?_append] at last
  generalize later : (packetReader environment).readAll _ _ = reading at left isOpen last ⊢
  cases empty : reading.values.getLast? with
  | some value =>
      rw [empty] at last
      exact last
  | none =>
      -- without a packet in it the tail would be left
      exfalso
      rw [List.getLast?_eq_none_iff] at empty
      rw [← later] at empty left
      cases found : (packetReader environment).read
          ((packetReader environment).readAll receiver head).state
          (((packetReader environment).readAll receiver head).left ++ tail) with
      | none =>
          rw [readAll_none found] at left
          exact some (List.append_eq_nil_iff.mp left).2
      | some result =>
          rw [readAll_found found] at empty
          exact absurd empty (by simp)

theorem PausedAt.append (paused : PausedAt environment
      ((packetReader environment).readAll receiver head).state
      (((packetReader environment).readAll receiver head).left ++ tail)) :
    PausedAt environment receiver (head ++ tail) := by
  obtain ⟨left, isOpen, packet, opcode, last⟩ := paused
  refine ⟨?_, ?_, packet, opcode, ?_⟩
  · rw [FrameReader.readAll_append]
    exact left
  · rw [FrameReader.readAll_append]
    exact isOpen
  · rw [FrameReader.readAll_append]
    show List.getLast? (_ ++ _) = _
    rw [List.getLast?_append, last]
    rfl

/-- There is no second pause. -/
theorem PausedAt.once (paused : PausedAt environment receiver head)
    (again : PausedAt environment receiver (head ++ tail)) : tail = [] := by
  by_contra some
  have later := (again.later some).notAuthed
  rw [paused.authed] at later
  exact absurd later (by simp)

theorem PausedAt.unique (paused : PausedAt environment receiver head)
    (again : PausedAt environment receiver rest) (first : head <+: bytes)
    (second : rest <+: bytes) : head = rest := by
  rcases List.prefix_or_prefix_of_prefix first second with ⟨tail, rfl⟩ | ⟨tail, rfl⟩
  · rw [paused.once again, List.append_nil]
  · rw [again.once paused, List.append_nil]

theorem NeverPaused.of_none (none : readPacket environment receiver bytes = none) :
    NeverPaused environment receiver bytes := by
  rintro head ⟨tail, rfl⟩ paused
  obtain ⟨value, next, rest, found⟩ := paused.found
  exact absurd (none.symm.trans (readPacket_extend found tail)) (by simp)

theorem NeverPaused.of_first {value : Option ClientPacket}
    (found : readPacket environment receiver bytes = some (value, next, rest))
    (first : ∀ packet, value = some packet → packet.opcode = cmsgAuthSession →
      next.isOpen = false)
    (later : NeverPaused environment next rest) :
    NeverPaused environment receiver bytes := by
  rintro head ⟨tail, rfl⟩ paused
  obtain ⟨value', next', rest', found'⟩ := paused.found
  have same := found.symm.trans (readPacket_extend found' tail)
  simp only [Option.some.injEq, Prod.mk.injEq] at same
  obtain ⟨rfl, rfl, rfl⟩ := same
  rcases paused.cases found' with ⟨packet, isPacket, opcode, isOpen, _⟩ | inside
  · have closed := first packet isPacket opcode
    rw [isOpen] at closed
    exact absurd closed (by simp)
  · exact later rest' (List.prefix_append rest' tail) inside

namespace ReceivingSocket

variable {socket final : ReceivingSocket} {left held read : Bytes}

/-! ## The end of a read -/

/-- The socket has dealt with `read`; `held` lies in the read buffer. -/
structure Stands (environment : ReceiverEnvironment) (receiver : Receiver)
    (read held : Bytes) (socket : ReceivingSocket) : Prop where
  holds : Holds environment ((packetReader environment).readAll receiver read).state socket
    ((packetReader environment).readAll receiver read).left
  isOpen : ((packetReader environment).readAll receiver read).state.isOpen = true
  counted : Counted ((packetReader environment).readAll receiver read).state
  readBuffer : socket.readBuffer.Valid
  active : socket.readBuffer.active = held
  space : 0 < socket.readBuffer.getRemainingSpace
  size : 2 ≤ socket.readBuffer.storage.length
  reading : socket.reading = true
  waiting : socket.waiting = false
  asserted : socket.asserted = false

/-- The socket has been closed on the way. -/
structure ClosedBehind (environment : ReceiverEnvironment) (receiver : Receiver)
    (bytes : Bytes) (socket : ReceivingSocket) : Prop where
  state : socket.receiver = ((packetReader environment).readAll receiver bytes).state
  closed : socket.receiver.isOpen = false
  once : socket.DecryptedOnce
  reading : socket.reading = false
  waiting : socket.waiting = false
  asserted : socket.asserted = false

/-- Where a read that ends with these bytes leaves the socket. -/
inductive Outcome (environment : ReceiverEnvironment) (receiver : Receiver)
    (bytes : Bytes) (socket : ReceivingSocket) : Prop where
  | closed (never : NeverPaused environment receiver bytes)
      (behind : ClosedBehind environment receiver bytes socket)
  | whole (never : NeverPaused environment receiver bytes)
      (stands : Stands environment receiver bytes [] socket)
  | paused {head tail : Bytes} (split : bytes = head ++ tail)
      (at' : PausedAt environment receiver head)
      (stands : Stands environment receiver head tail socket)

theorem Holds.none (holds : Holds environment receiver socket left)
    (isOpen : receiver.isOpen = true) : readPacket environment receiver left = none := by
  cases holds with
  | header atHeader same => exact readPacket_short atHeader.short
  | payload atPayload partly =>
      rw [readPacket_valid isOpen atPayload.rawLength atPayload.isValid, if_pos partly]

theorem Holds.congr {other : ReceivingSocket}
    (holds : Holds environment receiver socket left)
    (sameReceiver : other.receiver = socket.receiver)
    (headerBuffer : other.headerBuffer = socket.headerBuffer)
    (packetBuffer : other.packetBuffer = socket.packetBuffer) :
    Holds environment receiver other left := by
  cases holds with
  | header atHeader same =>
      exact .header (atHeader.congr headerBuffer packetBuffer) (sameReceiver.trans same)
  | payload atPayload partly =>
      refine .payload ⟨atPayload.toHeaderBuffer.congr headerBuffer, atPayload.rawLength,
        sameReceiver.trans atPayload.decrypted, atPayload.isValid, ?_, ?_, ?_, ?_⟩ partly
      · rw [packetBuffer]
        exact atPayload.packetValid
      · rw [packetBuffer]
        exact atPayload.packetFront
      · rw [packetBuffer]
        exact atPayload.packetSize
      · rw [packetBuffer]
        exact atPayload.packetActive

theorem Holds.isOpen (holds : Holds environment receiver socket left) :
    socket.receiver.isOpen = receiver.isOpen := by
  cases holds with
  | header atHeader same => rw [same]
  | payload atPayload partly =>
      rw [atPayload.decrypted]
      rfl

theorem Stands.asyncRead
    (holds : Holds environment ((packetReader environment).readAll receiver read).state socket
      ((packetReader environment).readAll receiver read).left)
    (isOpen : ((packetReader environment).readAll receiver read).state.isOpen = true)
    (counted : Counted ((packetReader environment).readAll receiver read).state)
    (readBuffer : socket.readBuffer.Valid ∧ socket.readBuffer.active = held)
    (size : 2 ≤ socket.readBuffer.storage.length)
    (waiting : socket.waiting = false) (asserted : socket.asserted = false) :
    Stands environment receiver read held socket.asyncRead := by
  have still : socket.receiver.isOpen = true := holds.isOpen.trans isOpen
  have next : socket.asyncRead = { socket with
      readBuffer := socket.readBuffer.normalize.ensureFreeSpace
      reading := true } := if_pos still
  rw [next]
  have normal := MessageBuffer.normalize_valid readBuffer.1
  have normalSize : 2 ≤ socket.readBuffer.normalize.storage.length := by
    rw [MessageBuffer.normalize_length readBuffer.1]
    exact size
  refine ⟨holds.congr rfl rfl rfl, isOpen, counted, ?_, ?_, ?_, ?_, rfl, waiting, asserted⟩
  · exact MessageBuffer.ensureFreeSpace_valid normal
  · show (socket.readBuffer.normalize.ensureFreeSpace).active = held
    rw [MessageBuffer.ensureFreeSpace_active normal,
      MessageBuffer.normalize_active readBuffer.1]
    exact readBuffer.2
  · exact MessageBuffer.ensureFreeSpace_remaining normal normalSize
  · exact normalSize.trans (MessageBuffer.ensureFreeSpace_length _)

/-- What is read behind a packet is read together with it. -/
theorem Outcome.behind (found : readPacket environment receiver bytes =
      some (some packet, next, rest))
    (other : packet.opcode ≠ cmsgAuthSession)
    (outcome : Outcome environment next rest socket) :
    Outcome environment receiver bytes socket := by
  obtain ⟨frame, rfl, alone⟩ := readPacket_alone found
  have state : ∀ more, ((packetReader environment).readAll receiver (frame ++ more)).state =
      ((packetReader environment).readAll next more).state := by
    intro more
    rw [readAll_alone alone]
  have left : ∀ more, ((packetReader environment).readAll receiver (frame ++ more)).left =
      ((packetReader environment).readAll next more).left := by
    intro more
    rw [readAll_alone alone]
  have never : NeverPaused environment next rest →
      NeverPaused environment receiver (frame ++ rest) := by
    refine NeverPaused.of_first found ?_
    rintro packet' same opcode
    cases same
    exact absurd opcode other
  have stands : ∀ {head tail}, Stands environment next head tail socket →
      Stands environment receiver (frame ++ head) tail socket := by
    intro head tail stands
    refine ⟨?_, ?_, ?_, stands.readBuffer, stands.active, stands.space, stands.size,
      stands.reading, stands.waiting, stands.asserted⟩
    · rw [state, left]
      exact stands.holds
    · rw [state]
      exact stands.isOpen
    · rw [state]
      exact stands.counted
  cases outcome with
  | closed neverBehind closed =>
      exact .closed (never neverBehind) ⟨closed.state.trans (state rest).symm, closed.closed,
        closed.once, closed.reading, closed.waiting, closed.asserted⟩
  | whole neverBehind standing => exact .whole (never neverBehind) (stands standing)
  | paused split at' standing =>
      subst split
      exact .paused (List.append_assoc _ _ _).symm (at'.behind alone) (stands standing)

/-! ## The loop -/

/-- The loop is running, and `left` is what the buffers hold of a packet. -/
structure Running (environment : ReceiverEnvironment) (receiver : Receiver)
    (left : Bytes) (socket : ReceivingSocket) : Prop where
  holds : Holds environment receiver socket left
  isOpen : receiver.isOpen = true
  counted : Counted receiver
  readBuffer : socket.readBuffer.Valid
  size : 2 ≤ socket.readBuffer.storage.length
  reading : socket.reading = false
  waiting : socket.waiting = false
  asserted : socket.asserted = false

theorem resume_of_answered (answered : socket.waiting = false) :
    socket.resume environment = socket :=
  if_neg (by rw [answered]; exact Bool.false_ne_true)

/-- `break`: the bytes are all taken, and do not make a whole packet. -/
theorem Outcome.ofTaken (none : readPacket environment receiver bytes = none)
    (holds : Holds environment receiver socket bytes) (isOpen : receiver.isOpen = true)
    (counted : Counted receiver)
    (readBuffer : socket.readBuffer.Valid ∧ socket.readBuffer.active = [])
    (size : 2 ≤ socket.readBuffer.storage.length)
    (waiting : socket.waiting = false) (asserted : socket.asserted = false) :
    Outcome environment receiver bytes (socket.asyncRead.resume environment) := by
  have read := readAll_none none
  have stands : Stands environment receiver bytes [] socket.asyncRead := by
    refine .asyncRead ?_ ?_ ?_ readBuffer size waiting asserted
    · rw [read]
      exact holds
    · rw [read]
      exact isOpen
    · rw [read]
      exact counted
  rw [resume_of_answered stands.waiting]
  exact .whole (.of_none none) stands

/-- The callback of the query, when the loop has stopped for it. -/
theorem Outcome.ofPaused
    (found : readPacket environment receiver bytes =
      some (some packet, socket.receiver.authSessionCallback environment, rest))
    (atHeader : AtHeader socket []) (isOpen : socket.receiver.isOpen = true)
    (counted : Counted socket.receiver) (opcode : packet.opcode = cmsgAuthSession)
    (readBuffer : socket.readBuffer.Valid ∧ socket.readBuffer.active = rest)
    (size : 2 ≤ socket.readBuffer.storage.length)
    (waiting : socket.waiting = true) (reading : socket.reading = false)
    (asserted : socket.asserted = false) :
    Outcome environment receiver bytes (socket.resume environment) := by
  obtain ⟨frame, rfl, alone⟩ := readPacket_alone found
  have behind : (packetReader environment).readAll receiver frame =
      ⟨[some packet], socket.receiver.authSessionCallback environment, []⟩ := by
    rw [readAll_found alone,
      readAll_none readPacket_nil]
  have nextCounted : Counted (socket.receiver.authSessionCallback environment) := by
    unfold Receiver.authSessionCallback
    split <;> exact counted
  have nextHeader : ∀ {next : ReceivingSocket}, next.headerBuffer = socket.headerBuffer →
      next.packetBuffer = socket.packetBuffer → AtHeader next [] := by
    intro next headerBuffer packetBuffer
    exact atHeader.congr headerBuffer packetBuffer
  unfold resume
  rw [if_pos waiting]
  dsimp only
  -- a failed login closes the socket, and nothing is read any more
  have refused : (socket.receiver.authSessionCallback environment).isOpen = false →
      Outcome environment receiver (frame ++ rest) { socket with
        receiver := socket.receiver.authSessionCallback environment
        waiting := false } := by
    intro closed
    refine .closed (.of_first found (fun _ _ _ => closed)
      (.of_none (readPacket_closed closed))) ⟨?_, closed, ?_, reading, rfl, asserted⟩
    · rw [readAll_found found,
        readAll_none (readPacket_closed closed)]
    · exact .of_header (nextHeader rfl rfl) nextCounted
  cases outcome : environment.authOutcome socket.receiver.delivered with
  | unknownAccount =>
      apply refused
      unfold Receiver.authSessionCallback
      rw [outcome]
      exact Bool.and_false _
  | rejected =>
      apply refused
      unfold Receiver.authSessionCallback
      rw [outcome]
      exact Bool.and_false _
  | accepted =>
      have open' : (socket.receiver.authSessionCallback environment).isOpen = true := by
        unfold Receiver.authSessionCallback
        rw [outcome]
        exact isOpen
      refine .paused rfl (.of_packet alone opcode open') (.asyncRead ?_ ?_ ?_ readBuffer size
        rfl asserted)
      · rw [behind]
        exact .header (nextHeader rfl rfl) rfl
      · rw [behind]
        exact open'
      · rw [behind]
        exact nextCounted

/-- The socket a part of the loop body ends with. -/
def Turn.reached : Turn → ReceivingSocket
  | .goOn socket => socket
  | .leave socket => socket
  | .stop socket => socket

theorem readHeader_storage (environment : ReceiverEnvironment) (socket : ReceivingSocket) :
    (socket.readHeader environment).reached.readBuffer.storage = socket.readBuffer.storage := by
  unfold readHeader readHeaderHandler
  dsimp only
  repeat' split
  all_goals rfl

theorem readPayload_storage (socket : ReceivingSocket) :
    socket.readPayload.reached.readBuffer.storage = socket.readBuffer.storage := by
  unfold readPayload
  dsimp only
  repeat' split
  all_goals rfl

theorem readData_storage (environment : ReceiverEnvironment) (socket : ReceivingSocket) :
    (socket.readData environment).reached.readBuffer.storage = socket.readBuffer.storage := by
  unfold readData
  dsimp only
  split <;> rfl

/-- The block of the read buffer stays the same. -/
theorem readNext_storage (environment : ReceiverEnvironment) (socket : ReceivingSocket) :
    (socket.readNext environment).reached.readBuffer.storage = socket.readBuffer.storage := by
  have header := readHeader_storage environment socket
  unfold readNext
  cases first : socket.readHeader environment with
  | leave next => rwa [first] at header
  | stop next => rwa [first] at header
  | goOn next =>
      rw [first] at header
      have payload := readPayload_storage next
      show (next.readPayload.andThen _).reached.readBuffer.storage = _
      cases second : next.readPayload with
      | leave later =>
          rw [second] at payload
          exact payload.trans header
      | stop later =>
          rw [second] at payload
          exact payload.trans header
      | goOn later =>
          rw [second] at payload
          exact (readData_storage environment later).trans (payload.trans header)

theorem loop_outcome (turns : Nat) (running : Running environment receiver left socket)
    (enough : socket.readBuffer.active.length ≤ turns) :
    Outcome environment receiver (left ++ socket.readBuffer.active)
      ((socket.loop environment turns).resume environment) := by
  have taken : socket.readBuffer.active = [] →
      Outcome environment receiver (left ++ socket.readBuffer.active)
        (socket.asyncRead.resume environment) := by
    intro nothing
    rw [nothing, List.append_nil]
    exact .ofTaken (running.holds.none running.isOpen) running.holds running.isOpen
      running.counted ⟨running.readBuffer, nothing⟩ running.size running.waiting running.asserted
  induction turns generalizing socket receiver left with
  | zero => exact taken (List.length_eq_zero_iff.mp (Nat.le_zero.mp enough))
  | succ turns induction =>
      have size := MessageBuffer.getActiveSize_eq running.readBuffer
      unfold loop
      by_cases nothing : socket.readBuffer.active = []
      · have none : socket.readBuffer.getActiveSize = 0 := by
          rw [size, nothing]
          rfl
        rw [if_pos none]
        exact taken nothing
      have some : socket.readBuffer.getActiveSize ≠ 0 := by
        rw [size]
        exact fun none => nothing (List.length_eq_zero_iff.mp none)
      rw [if_neg some]
      have turn := readNext_turnOf running.holds running.readBuffer nothing running.isOpen
        running.counted
      have storage := readNext_storage environment socket
      generalize socket.readNext environment = result at turn storage
      cases turn with
      | partly none holds readBuffer marks =>
          exact .ofTaken none holds running.isOpen running.counted readBuffer
            (storage.symm ▸ running.size) (marks.waiting.trans running.waiting)
            (marks.asserted.trans running.asserted)
      | @whole next packet rest found other atHeader isOpen counted readBuffer shorter marks =>
          refine .behind found other ?_
          have onwards : Running environment next.receiver [] next :=
            ⟨.header atHeader rfl, isOpen, counted, readBuffer.1,
              storage.symm ▸ running.size, marks.reading.trans running.reading,
              marks.waiting.trans running.waiting,
              marks.asserted.trans running.asserted⟩
          have fewer : next.readBuffer.active.length ≤ turns := by
            rw [readBuffer.2]
            omega
          have later := induction onwards fewer ?_
          · rwa [List.nil_append, readBuffer.2] at later
          · intro nothing
            rw [nothing]
            exact .ofTaken readPacket_nil onwards.holds isOpen counted ⟨readBuffer.1, nothing⟩
              onwards.size onwards.waiting onwards.asserted
      | refused found closed once marks =>
          rw [resume_of_answered (marks.waiting.trans running.waiting)]
          refine .closed (.of_first found (fun _ _ _ => closed)
            (.of_none (readPacket_closed closed))) ⟨?_, closed, once,
              marks.reading.trans running.reading, marks.waiting.trans running.waiting,
              marks.asserted.trans running.asserted⟩
          rw [readAll_found found,
            readAll_none (readPacket_closed closed)]
      | paused found atHeader isOpen counted opcode readBuffer shorter waiting marks =>
          exact .ofPaused found atHeader isOpen counted opcode readBuffer
            (storage.symm ▸ running.size) waiting (marks.2.trans running.reading)
            (marks.1.trans running.asserted)

/-! ## One chunk after the other -/

variable {chunks first second : List Bytes} {chunk more : Bytes}

theorem stands_start (environment : ReceiverEnvironment) :
    Stands environment {} [] [] ({} : ReceivingSocket) := by
  have start : (packetReader environment).readAll {} [] = ⟨[], {}, []⟩ :=
    readAll_none readPacket_nil
  refine ⟨?_, ?_, ?_, MessageBuffer.ofSize_valid _, MessageBuffer.ofSize_active _, ?_, ?_,
    rfl, rfl, rfl⟩
  · rw [start]
    exact .header ⟨⟨MessageBuffer.ofSize_valid _, List.length_replicate, rfl,
      MessageBuffer.ofSize_active _⟩, by decide, rfl, rfl⟩ rfl
  · rw [start]
    rfl
  · rw [start]
    rfl
  · rw [MessageBuffer.ofSize_remaining]
    decide
  · show 2 ≤ (List.replicate defaultBufferSize (0 : UInt8)).length
    rw [List.length_replicate]
    decide

/-- What a chunk makes of a socket which stands behind `read`. -/
theorem Stands.receive (stands : Stands environment receiver read held socket)
    (possible : Possible socket chunk) :
    Outcome environment ((packetReader environment).readAll receiver read).state
      (((packetReader environment).readAll receiver read).left ++ (held ++ chunk))
      (socket.receive environment chunk) := by
  obtain ⟨_, fits⟩ := possible stands.reading
  have active : (socket.readBuffer.write chunk).active = held ++ chunk := by
    rw [MessageBuffer.write_active stands.readBuffer fits, stands.active]
  have open' : socket.receiver.isOpen = true := stands.holds.isOpen.trans stands.isOpen
  have running : Running environment ((packetReader environment).readAll receiver read).state
      ((packetReader environment).readAll receiver read).left { socket with
        readBuffer := socket.readBuffer.write chunk
        reading := false } := by
    refine ⟨stands.holds.congr rfl rfl rfl, stands.isOpen, stands.counted,
      MessageBuffer.write_valid stands.readBuffer fits, ?_, rfl, stands.waiting,
      stands.asserted⟩
    show 2 ≤ (socket.readBuffer.write chunk).storage.length
    rw [MessageBuffer.write_length stands.readBuffer]
    exact stands.size
  have outcome := loop_outcome _ running (Nat.le_refl _)
  unfold ReceivingSocket.receive readHandlerInternal readHandler
  rw [if_pos stands.reading, if_pos open']
  rw [← active]
  exact outcome

/-- Seen from the start of the stream, a read pauses in what it brings or not at all. -/
theorem Outcome.fromStart
    (none : readPacket environment ((packetReader environment).readAll receiver read).state
      ((packetReader environment).readAll receiver read).left = none)
    (outcome : Outcome environment ((packetReader environment).readAll receiver read).state
      (((packetReader environment).readAll receiver read).left ++ more) socket) :
    ((∀ head, head ≠ [] → head <+: more → ¬ PausedAt environment receiver (read ++ head)) ∧
      (ClosedBehind environment receiver (read ++ more) socket ∨
        Stands environment receiver (read ++ more) [] socket)) ∨
    ∃ head tail, more = head ++ tail ∧ head ≠ [] ∧
      PausedAt environment receiver (read ++ head) ∧
        Stands environment receiver (read ++ head) tail socket := by
  have state : ∀ more, ((packetReader environment).readAll receiver (read ++ more)).state =
      ((packetReader environment).readAll
        ((packetReader environment).readAll receiver read).state
        (((packetReader environment).readAll receiver read).left ++ more)).state := by
    intro more
    rw [FrameReader.readAll_append]
  have left : ∀ more, ((packetReader environment).readAll receiver (read ++ more)).left =
      ((packetReader environment).readAll
        ((packetReader environment).readAll receiver read).state
        (((packetReader environment).readAll receiver read).left ++ more)).left := by
    intro more
    rw [FrameReader.readAll_append]
  have stands : ∀ {more tail}, Stands environment
        ((packetReader environment).readAll receiver read).state
        (((packetReader environment).readAll receiver read).left ++ more) tail socket →
      Stands environment receiver (read ++ more) tail socket := by
    intro more tail stands
    refine ⟨?_, ?_, ?_, stands.readBuffer, stands.active, stands.space, stands.size,
      stands.reading, stands.waiting, stands.asserted⟩
    · rw [state, left]
      exact stands.holds
    · rw [state]
      exact stands.isOpen
    · rw [state]
      exact stands.counted
  have never : NeverPaused environment ((packetReader environment).readAll receiver read).state
        (((packetReader environment).readAll receiver read).left ++ more) →
      ∀ head, head ≠ [] → head <+: more → ¬ PausedAt environment receiver (read ++ head) := by
    intro never head some inside paused
    exact never _ ((List.prefix_append_right_inj _).mpr inside) (paused.later some)
  cases outcome with
  | closed neverPaused behind =>
      exact .inl ⟨never neverPaused, .inl ⟨behind.state.trans (state more).symm,
        behind.closed, behind.once, behind.reading, behind.waiting, behind.asserted⟩⟩
  | whole neverPaused standing => exact .inl ⟨never neverPaused, .inr (stands standing)⟩
  | @paused head tail split at' standing =>
      right
      -- the pause cannot be in what was left
      have beyond : ((packetReader environment).readAll receiver read).left <+: head := by
        rcases List.prefix_or_prefix_of_prefix (List.prefix_append _ more)
          (split ▸ List.prefix_append head tail) with beyond | ⟨part, inside⟩
        · exact beyond
        · obtain ⟨value, next, rest, found⟩ := at'.found
          rw [← inside, readPacket_extend found part] at none
          exact absurd none (by simp)
      obtain ⟨part, rfl⟩ := beyond
      rw [List.append_assoc] at split
      refine ⟨part, tail, List.append_cancel_left split, ?_, at'.append, stands standing⟩
      rintro rfl
      obtain ⟨value, next, rest, found⟩ := at'.found
      rw [List.append_nil, none] at found
      exact absurd found (by simp)

/-- In the last chunk reading does not pause. -/
def NeverInLast (environment : ReceiverEnvironment) (chunks : List Bytes) : Prop :=
  ∀ init head tail, chunks = init ++ [head ++ tail] → head ≠ [] →
    ¬ PausedAt environment {} (init.flatten ++ head)

/-- Where a socket can be after some chunks. -/
inductive Reached (environment : ReceiverEnvironment) (chunks : List Bytes)
    (socket : ReceivingSocket) : Prop where
  | closed (never : NeverInLast environment chunks)
      (behind : ClosedBehind environment {} chunks.flatten socket)
  | whole (never : NeverInLast environment chunks)
      (stands : Stands environment {} chunks.flatten [] socket)
  | paused {init : List Bytes} {head tail : Bytes}
      (split : chunks = init ++ [head ++ tail]) (some : head ≠ [])
      (at' : PausedAt environment {} (init.flatten ++ head))
      (stands : Stands environment {} (init.flatten ++ head) tail socket)

theorem neverInLast_append
    (never : ∀ head, head ≠ [] → head <+: chunk →
      ¬ PausedAt environment {} (chunks.flatten ++ head)) :
    NeverInLast environment (chunks ++ [chunk]) := by
  intro init head tail split some
  obtain ⟨rfl, last⟩ := List.append_inj' split rfl
  cases last
  exact never head some (List.prefix_append head tail)

theorem flatten_append_singleton (chunks : List Bytes) (chunk : Bytes) :
    (chunks ++ [chunk]).flatten = chunks.flatten ++ chunk := by
  rw [List.flatten_append, List.flatten_singleton]

theorem Reached.receive (reached : Reached environment chunks socket)
    (possible : Possible socket chunk) :
    Reached environment (chunks ++ [chunk]) (socket.receive environment chunk) := by
  cases reached with
  | closed never behind =>
      have still : socket.receive environment chunk = socket :=
        if_neg (by rw [behind.reading]; exact Bool.false_ne_true)
      have closed : ((packetReader environment).readAll {} chunks.flatten).state.isOpen =
          false := by
        rw [← behind.state]
        exact behind.closed
      rw [still]
      refine .closed (neverInLast_append ?_) ⟨?_, behind.closed, behind.once, behind.reading,
        behind.waiting, behind.asserted⟩
      · intro head some _ paused
        obtain ⟨value, next, rest, found⟩ := (paused.later some).found
        rw [readPacket_closed closed] at found
        exact absurd found (by simp)
      · rw [flatten_append_singleton, FrameReader.readAll_append,
          readAll_none (readPacket_closed closed)]
        exact behind.state
  | whole never stands =>
      have outcome := stands.receive possible
      rw [List.nil_append] at outcome
      rcases outcome.fromStart (stands.holds.none stands.isOpen) with
        ⟨never, behind | standing⟩ | ⟨head, tail, rfl, some, at', standing⟩
      · rw [← flatten_append_singleton] at behind
        exact .closed (neverInLast_append never) behind
      · rw [← flatten_append_singleton] at standing
        exact .whole (neverInLast_append never) standing
      · exact .paused rfl some at' standing
  | @paused init head tail split some at' stands =>
      have bytes : chunks.flatten = (init.flatten ++ head) ++ tail := by
        rw [split, flatten_append_singleton, List.append_assoc]
      have never : NeverInLast environment (chunks ++ [chunk]) := by
        refine neverInLast_append ?_
        intro part there _ again
        rw [bytes, List.append_assoc] at again
        exact there (List.append_eq_nil_iff.mp (at'.once again)).2
      have whole : init.flatten ++ head ++ (tail ++ chunk) = (chunks ++ [chunk]).flatten := by
        rw [flatten_append_singleton, bytes, List.append_assoc _ tail]
      have outcome := (stands.receive possible).fromStart (stands.holds.none stands.isOpen)
      rw [whole] at outcome
      rcases outcome with ⟨_, behind | standing⟩ | ⟨part, _, _, there, again, _⟩
      · exact .closed never behind
      · exact .whole never standing
      · exact absurd (at'.once again) there

theorem receiveAll_reached
    (possible : EveryStep (ReceivingSocket.receive environment) Possible {} chunks) :
    Reached environment chunks (receiveAll environment chunks) := by
  induction chunks using List.reverseRecOn with
  | nil =>
      refine .whole ?_ (stands_start environment)
      intro init head tail split
      exact absurd split (by simp)
  | append_singleton chunks chunk induction =>
      rw [everyStep_append] at possible
      unfold receiveAll
      rw [run_append]
      exact (induction possible.1).receive possible.2.1

/-! ## Two ways of cutting one stream -/

/-- The same packets have been delivered, and the socket is closed or not. -/
structure SameReading (first second : Receiver) : Prop where
  delivered : first.delivered = second.delivered
  closed : first.closed = second.closed
  closing : first.closing = second.closing

/-- No whole packet, and no malformed header, lies unread in the buffer. -/
def NothingWaits (environment : ReceiverEnvironment) (socket : ReceivingSocket) : Prop :=
  readPacket environment socket.receiver socket.readBuffer.active = none

/-- What one socket has to do with its stream. -/
structure ReadWell (environment : ReceiverEnvironment) (socket : ReceivingSocket) : Prop where
  notAsserted : socket.asserted = false
  decryptedOnce : socket.DecryptedOnce
  nothingWaits : NothingWaits environment socket

/--
In the last chunk a `CMSG_AUTH_SESSION` that is accepted ends, and more than a
part of a packet lies behind it.
-/
def HeldBack (environment : ReceiverEnvironment) (chunks : List Bytes) : Prop :=
  ∃ init head tail, chunks = init ++ [head ++ tail] ∧ head ≠ [] ∧
    PausedAt environment {} (init.flatten ++ head) ∧
      readPacket environment
        ((packetReader environment).readAll {} (init.flatten ++ head)).state tail ≠ none

theorem SameReading.refl (receiver : Receiver) : SameReading receiver receiver := ⟨rfl, rfl, rfl⟩

theorem SameReading.symm {first second : Receiver} (same : SameReading first second) :
    SameReading second first :=
  ⟨same.delivered.symm, same.closed.symm, same.closing.symm⟩

theorem SameReading.trans {first second third : Receiver}
    (same : SameReading first second) (other : SameReading second third) :
    SameReading first third :=
  ⟨same.delivered.trans other.delivered, same.closed.trans other.closed,
    same.closing.trans other.closing⟩

theorem Holds.sameReading (holds : Holds environment receiver socket left) :
    SameReading socket.receiver receiver := by
  cases holds with
  | header atHeader same =>
      rw [same]
      exact .refl receiver
  | payload atPayload partly =>
      rw [atPayload.decrypted]
      exact ⟨rfl, rfl, rfl⟩

/-- Behind a pause the buffers hold nothing of a packet. -/
theorem Stands.receiver_of_paused (stands : Stands environment receiver read held socket)
    (paused : PausedAt environment receiver read) :
    socket.receiver = ((packetReader environment).readAll receiver read).state := by
  have holds := stands.holds
  rw [paused.left] at holds
  generalize none : ([] : Bytes) = nothing at holds
  cases holds with
  | header atHeader same => exact same
  | payload atPayload partly =>
      have length := atPayload.rawLength
      rw [(List.append_eq_nil_iff.mp none.symm).1] at length
      exact absurd length (by decide)

theorem Reached.asserted (reached : Reached environment chunks socket) :
    socket.asserted = false := by
  cases reached with
  | closed never behind => exact behind.asserted
  | whole never stands => exact stands.asserted
  | paused split some at' stands => exact stands.asserted

theorem Reached.decryptedOnce (reached : Reached environment chunks socket) :
    socket.DecryptedOnce := by
  cases reached with
  | closed never behind => exact behind.once
  | whole never stands => exact stands.holds.decryptedOnce stands.counted
  | paused split some at' stands => exact stands.holds.decryptedOnce stands.counted

theorem not_heldBack (never : NeverInLast environment chunks) :
    ¬ HeldBack environment chunks := by
  rintro ⟨init, head, tail, split, some, paused, _⟩
  exact never init head tail split some paused

/-- The cut of the last chunk is the one at the pause. -/
theorem heldBack_iff {init : List Bytes} (split : chunks = init ++ [head ++ tail])
    (some : head ≠ []) (paused : PausedAt environment {} (init.flatten ++ head)) :
    HeldBack environment chunks ↔
      readPacket environment
        ((packetReader environment).readAll {} (init.flatten ++ head)).state tail ≠ none := by
  constructor
  · rintro ⟨init', head', tail', split', some', paused', waits⟩
    obtain ⟨rfl, last⟩ := List.append_inj' (split.symm.trans split') rfl
    simp only [List.cons.injEq, and_true] at last
    have prefix' : init.flatten ++ head' <+: init.flatten ++ (head ++ tail) := by
      rw [last, ← List.append_assoc]
      exact List.prefix_append _ _
    have within : init.flatten ++ head <+: init.flatten ++ (head ++ tail) := by
      rw [← List.append_assoc]
      exact List.prefix_append _ _
    obtain rfl := List.append_cancel_left (paused.unique paused' within prefix')
    rwa [List.append_cancel_left last]
  · intro waits
    exact ⟨init, head, tail, split, some, paused, waits⟩

theorem Reached.nothingWaits_iff (reached : Reached environment chunks socket) :
    NothingWaits environment socket ↔ ¬ HeldBack environment chunks := by
  cases reached with
  | closed never behind =>
      exact iff_of_true (readPacket_closed behind.closed) (not_heldBack never)
  | whole never stands =>
      refine iff_of_true ?_ (not_heldBack never)
      unfold NothingWaits
      rw [stands.active]
      exact readPacket_nil
  | paused split some at' stands =>
      rw [heldBack_iff split some at', not_not]
      unfold NothingWaits
      rw [stands.active, stands.receiver_of_paused at']

/-- Where nothing is held back the socket has read what `readAll` reads. -/
theorem Reached.follows (reached : Reached environment chunks socket)
    (notHeld : ¬ HeldBack environment chunks) :
    SameReading socket.receiver
      ((packetReader environment).readAll {} chunks.flatten).state := by
  cases reached with
  | closed never behind =>
      rw [behind.state]
      exact .refl _
  | whole never stands => exact stands.holds.sameReading
  | @paused init head tail split some at' stands =>
      have none := (heldBack_iff split some at').not.mp notHeld
      rw [not_not] at none
      rw [split, flatten_append_singleton, ← List.append_assoc, FrameReader.readAll_append,
        at'.left, List.nil_append, readAll_none none]
      exact stands.holds.sameReading

/-- Where something is held back the socket has stopped at the pause. -/
theorem Reached.stopped (reached : Reached environment chunks socket)
    (heldBack : HeldBack environment chunks) :
    ∃ head tail, chunks.flatten = head ++ tail ∧ PausedAt environment {} head ∧
      readPacket environment ((packetReader environment).readAll {} head).state tail ≠ none ∧
        socket.receiver = ((packetReader environment).readAll {} head).state := by
  cases reached with
  | closed never behind => exact absurd heldBack (not_heldBack never)
  | whole never stands => exact absurd heldBack (not_heldBack never)
  | @paused init head tail split some at' stands =>
      refine ⟨_, tail, ?_, at', (heldBack_iff split some at').mp heldBack,
        stands.receiver_of_paused at'⟩
      rw [split, flatten_append_singleton, List.append_assoc]

theorem readAll_delivered (receiver : Receiver) (bytes : Bytes) :
    receiver.delivered <+:
      ((packetReader environment).readAll receiver bytes).state.delivered := by
  induction receiver, bytes using FrameReader.frames_induction (packetReader environment) with
  | stuck receiver bytes none =>
      rw [readAll_none none]
  | frame receiver bytes value next rest found induction =>
      rw [readAll_found found]
      refine List.IsPrefix.trans ?_ induction
      have after := readPacket_next found
      subst after
      cases value with
      | none => exact List.prefix_refl _
      | some packet =>
          show receiver.delivered <+:
            (receiver.afterHeader.finish environment packet).delivered
          rw [Receiver.finish_delivered]
          exact List.prefix_append _ _

/-- Another packet or a malformed header is something else to have read. -/
theorem not_sameReading (isOpen : receiver.isOpen = true)
    (waits : readPacket environment receiver bytes ≠ none) :
    ¬ SameReading receiver ((packetReader environment).readAll receiver bytes).state := by
  intro same
  cases found : readPacket environment receiver bytes with
  | none => exact waits found
  | some result =>
      obtain ⟨value, next, rest⟩ := result
      have after := readPacket_next found
      subst after
      rw [readAll_found found] at same
      cases value with
      | none =>
          have shut : (receiver.after environment none).isOpen = false := rfl
          rw [readAll_none (readPacket_closed shut)] at same
          have closed : receiver.closed = true := same.closed
          unfold Receiver.isOpen at isOpen
          rw [closed] at isOpen
          exact absurd isOpen (by simp)
      | some packet =>
          have grown : (receiver.after environment (some packet)).delivered <+:
              ((packetReader environment).readAll
                (receiver.after environment (some packet)) rest).state.delivered :=
            readAll_delivered _ rest
          have grows := grown.length_le
          rw [← same.delivered] at grows
          have more : (receiver.after environment (some packet)).delivered =
            receiver.delivered ++ [packet] := Receiver.finish_delivered
          rw [more, List.length_append, List.length_singleton] at grows
          omega

theorem Reached.not_follows (reached : Reached environment chunks socket)
    (heldBack : HeldBack environment chunks) :
    ¬ SameReading socket.receiver
      ((packetReader environment).readAll {} chunks.flatten).state := by
  obtain ⟨head, tail, split, paused, waits, stopped⟩ := reached.stopped heldBack
  rw [split, FrameReader.readAll_append, paused.left, List.nil_append, stopped]
  exact not_sameReading paused.isOpen waits

/-- Two sockets agree unless the pause holds something back in one of them only. -/
theorem Reached.sameReading_iff {other : ReceivingSocket}
    (reached : Reached environment first socket) (reachedOther : Reached environment second other)
    (stream : first.flatten = second.flatten) :
    SameReading socket.receiver other.receiver ↔
      (HeldBack environment first ↔ HeldBack environment second) := by
  by_cases held : HeldBack environment first <;> by_cases heldOther : HeldBack environment second
  · refine iff_of_true ?_ (iff_of_true held heldOther)
    obtain ⟨head, tail, split, paused, _, stopped⟩ := reached.stopped held
    obtain ⟨head', tail', split', paused', _, stopped'⟩ := reachedOther.stopped heldOther
    have same : head = head' := paused.unique paused' (List.prefix_append head tail)
      (split ▸ stream ▸ split' ▸ List.prefix_append head' tail')
    rw [stopped, stopped', same]
    exact .refl _
  · refine iff_of_false ?_ (fun both => heldOther (both.mp held))
    intro same
    have follows := reachedOther.follows heldOther
    rw [← stream] at follows
    exact reached.not_follows held (same.trans follows)
  · refine iff_of_false ?_ (fun both => held (both.mpr heldOther))
    intro same
    have follows := reached.follows held
    rw [stream] at follows
    exact reachedOther.not_follows heldOther (same.symm.trans follows)
  · refine iff_of_true ?_ (iff_of_false held heldOther)
    have follows := reachedOther.follows heldOther
    rw [← stream] at follows
    exact (reached.follows held).trans follows.symm

theorem receiveAll_readWell_iff
    (stream : first.flatten = second.flatten)
    (possible : EveryStep (ReceivingSocket.receive environment) Possible {} first)
    (possibleSecond : EveryStep (ReceivingSocket.receive environment) Possible {} second) :
    ((SameReading (receiveAll environment first).receiver
          (receiveAll environment second).receiver ∧
        ReadWell environment (receiveAll environment first) ∧
          ReadWell environment (receiveAll environment second)) ↔
      ¬ HeldBack environment first ∧ ¬ HeldBack environment second) ∧
    (SameReading (receiveAll environment first).receiver
        (receiveAll environment second).receiver ↔
      (HeldBack environment first ↔ HeldBack environment second)) := by
  have reached := receiveAll_reached possible
  have reachedSecond := receiveAll_reached possibleSecond
  have same := reached.sameReading_iff reachedSecond stream
  refine ⟨?_, same⟩
  constructor
  · rintro ⟨_, well, wellSecond⟩
    exact ⟨reached.nothingWaits_iff.mp well.nothingWaits,
      reachedSecond.nothingWaits_iff.mp wellSecond.nothingWaits⟩
  · rintro ⟨notHeld, notHeldSecond⟩
    exact ⟨same.mpr (iff_of_false notHeld notHeldSecond),
      ⟨reached.asserted, reached.decryptedOnce, reached.nothingWaits_iff.mpr notHeld⟩,
      ⟨reachedSecond.asserted, reachedSecond.decryptedOnce,
        reachedSecond.nothingWaits_iff.mpr notHeldSecond⟩⟩

/-! ## Byte by byte -/

/-- Whenever a read is under way there is space for a byte. -/
theorem Reached.possible_singleton (reached : Reached environment chunks socket) (byte : UInt8) :
    Possible socket [byte] := by
  intro reading
  refine ⟨List.cons_ne_nil _ _, ?_⟩
  cases reached with
  | closed never behind =>
      rw [behind.reading] at reading
      exact absurd reading Bool.false_ne_true
  | whole never stands => exact stands.space
  | paused split some at' stands => exact stands.space

def byteByByte (bytes : Bytes) : List Bytes := bytes.map fun byte => [byte]

theorem byteByByte_flatten (bytes : Bytes) : (byteByByte bytes).flatten = bytes := by
  unfold byteByByte
  rw [← List.flatMap_def, List.flatMap_singleton']

/-- Every stream can arrive byte by byte. -/
theorem byteByByte_possible (environment : ReceiverEnvironment) (bytes : Bytes) :
    EveryStep (ReceivingSocket.receive environment) Possible {} (byteByByte bytes) := by
  induction bytes using List.reverseRecOn with
  | nil => trivial
  | append_singleton bytes byte induction =>
      have split : byteByByte (bytes ++ [byte]) = byteByByte bytes ++ [[byte]] := by
        unfold byteByByte
        rw [List.map_append, List.map_singleton]
      rw [split, everyStep_append]
      exact ⟨induction, (receiveAll_reached induction).possible_singleton byte, trivial⟩

theorem byteByByte_not_heldBack (environment : ReceiverEnvironment) (bytes : Bytes) :
    ¬ HeldBack environment (byteByByte bytes) := by
  rintro ⟨init, head, tail, split, some, _, waits⟩
  have last : head ++ tail ∈ byteByByte bytes := by
    rw [split]
    exact List.mem_append_right init (List.mem_singleton_self _)
  obtain ⟨byte, _, single⟩ := List.mem_map.mp last
  have nothing : tail = [] := by
    cases head with
    | nil => exact absurd rfl some
    | cons first head =>
        rw [List.cons_append, List.cons.injEq] at single
        exact (List.append_eq_nil_iff.mp single.2.symm).2
  rw [nothing] at waits
  exact waits readPacket_nil

/-! ## A login in one chunk -/

/-- Nobody has to wait for a key here, and the login is accepted. -/
def acceptingEnvironment : ReceiverEnvironment where
  keystream := fun _ => 0
  overSpeed := fun _ => false
  authOutcome := fun _ => .accepted

/-- A `CMSG_AUTH_SESSION` of the shortest kind. -/
def authSessionBytes : Bytes := [0, 61, 0xED, 1, 0, 0] ++ List.replicate 57 0

def keepAliveBytes : Bytes := [0, 4, 7, 4, 0, 0]

theorem readPacket_authSessionBytes :
    readPacket acceptingEnvironment {} authSessionBytes =
      some (some ⟨cmsgAuthSession, List.replicate 57 0⟩,
        ({} : Receiver).afterHeader.finish acceptingEnvironment
          ⟨cmsgAuthSession, List.replicate 57 0⟩, []) := rfl

theorem authSessionBytes_paused : PausedAt acceptingEnvironment {} authSessionBytes :=
  .of_packet readPacket_authSessionBytes rfl rfl

theorem readAll_authSessionBytes :
    ((packetReader acceptingEnvironment).readAll {} authSessionBytes).state =
      ({} : Receiver).afterHeader.finish acceptingEnvironment
        ⟨cmsgAuthSession, List.replicate 57 0⟩ := by
  rw [readAll_found readPacket_authSessionBytes, readAll_none readPacket_nil]

/-- A stream that fits into the buffer can arrive in one chunk. -/
theorem possible_one (some : bytes ≠ []) (fits : bytes.length ≤ defaultBufferSize) :
    EveryStep (ReceivingSocket.receive environment) Possible {} [bytes] := by
  refine ⟨fun _ => ⟨some, ?_⟩, trivial⟩
  show bytes.length ≤ (MessageBuffer.ofSize defaultBufferSize).getRemainingSpace
  rw [MessageBuffer.ofSize_remaining]
  exact fits

/-- The login alone is read in the same way in one chunk and byte by byte. -/
theorem login_readWell :
    SameReading (receiveAll acceptingEnvironment [authSessionBytes]).receiver
        (receiveAll acceptingEnvironment (byteByByte authSessionBytes)).receiver ∧
      ReadWell acceptingEnvironment (receiveAll acceptingEnvironment [authSessionBytes]) ∧
        ReadWell acceptingEnvironment
          (receiveAll acceptingEnvironment (byteByByte authSessionBytes)) := by
  have stream : [authSessionBytes].flatten = (byteByByte authSessionBytes).flatten := by
    rw [byteByByte_flatten, List.flatten_singleton]
  have notHeld : ¬ HeldBack acceptingEnvironment [authSessionBytes] := by
    have split : [authSessionBytes] = [] ++ [authSessionBytes ++ []] := by
      rw [List.append_nil, List.nil_append]
    rw [heldBack_iff split (List.cons_ne_nil _ _) authSessionBytes_paused, not_not]
    exact readPacket_nil
  exact (receiveAll_readWell_iff stream (possible_one (List.cons_ne_nil _ _) (by decide))
    (byteByByte_possible _ _)).1.mpr ⟨notHeld, byteByByte_not_heldBack _ _⟩

/-- A `CMSG_KEEP_ALIVE` in the chunk of the login is not delivered. -/
theorem keepAlive_heldBack :
    [authSessionBytes ++ keepAliveBytes].flatten =
        (byteByByte (authSessionBytes ++ keepAliveBytes)).flatten ∧
      EveryStep (ReceivingSocket.receive acceptingEnvironment) Possible {}
        [authSessionBytes ++ keepAliveBytes] ∧
      EveryStep (ReceivingSocket.receive acceptingEnvironment) Possible {}
        (byteByByte (authSessionBytes ++ keepAliveBytes)) ∧
      ¬ SameReading
        (receiveAll acceptingEnvironment [authSessionBytes ++ keepAliveBytes]).receiver
        (receiveAll acceptingEnvironment
          (byteByByte (authSessionBytes ++ keepAliveBytes))).receiver := by
  have stream : [authSessionBytes ++ keepAliveBytes].flatten =
      (byteByByte (authSessionBytes ++ keepAliveBytes)).flatten := by
    rw [byteByByte_flatten, List.flatten_singleton]
  have possible : EveryStep (ReceivingSocket.receive acceptingEnvironment) Possible {}
      [authSessionBytes ++ keepAliveBytes] := possible_one (List.cons_ne_nil _ _) (by decide)
  have possibleSecond := byteByByte_possible acceptingEnvironment
    (authSessionBytes ++ keepAliveBytes)
  have held : HeldBack acceptingEnvironment [authSessionBytes ++ keepAliveBytes] := by
    refine ⟨[], authSessionBytes, keepAliveBytes, rfl, List.cons_ne_nil _ _,
      authSessionBytes_paused, ?_⟩
    show readPacket acceptingEnvironment
      ((packetReader acceptingEnvironment).readAll {} authSessionBytes).state _ ≠ none
    rw [readAll_authSessionBytes]
    decide
  refine ⟨stream, possible, possibleSecond, ?_⟩
  rw [(receiveAll_reached possible).sameReading_iff (receiveAll_reached possibleSecond) stream]
  exact fun both => byteByByte_not_heldBack _ _ (both.mp held)

end ReceivingSocket

end RealmServer.Network
