import RealmServer.Lib.Transition
import RealmServer.Auth.Authentication

/-!
# What the auth session reads

`ReadHandler` takes packets out of the read buffer until there is no whole
packet left.  It compares the size of a packet with the number of received
bytes; two handlers do not keep to that size.  The challenge handlers look at
`I_len`, whatever size the challenge announces, and the logon proof is followed
by a token whose length is a byte of its own.

`AuthReader` is the session together with its read buffer.  `overrun` and
`disordered` are not in the source: they remember that somebody looked at a
byte which was never received, and that a position of the buffer left its
bounds.
-/

namespace RealmServer.Auth

open BigNumber Transition Network

variable (environment : AuthEnvironment)

/-! ## Packets as they lie in the buffer -/

def sizeofLogonProof : Nat := 75
def sizeofReconnectProof : Nat := 58
def realmListPacketSize : Nat := 5

/-- One character for each byte. -/
def textOf (bytes : Bytes) : String :=
  String.ofList (bytes.map fun byte => Char.ofNat byte.toNat)

def uint16At (buffer : MessageBuffer) (offset : Nat) : Nat :=
  setBinary (buffer.bytesAt offset 2)

/-- `sAuthLogonChallenge_C` at the read pointer. -/
def challengeAt (buffer : MessageBuffer) : LogonChallengePacket where
  size := uint16At buffer 2
  build := uint16At buffer 11
  os := textOf ((buffer.bytesAt 17 4).takeWhile (· != 0))
  country := textOf (buffer.bytesAt 21 4)
  lengthOfI := (buffer.byteAt 33).toNat
  login := textOf (buffer.bytesAt 34 (buffer.byteAt 33).toNat)

/-- The length byte of the token. -/
def tokenLength (buffer : MessageBuffer) : Nat :=
  (buffer.byteAt sizeofLogonProof).toNat

/-- `sAuthLogonProof_C` at the read pointer, and the token behind it. -/
def logonProofAt (buffer : MessageBuffer) : LogonProofPacket where
  A := Vector.ofFn fun index => buffer.byteAt (1 + index)
  M1 := Vector.ofFn fun index => buffer.byteAt (33 + index)
  securityFlags := buffer.byteAt 74
  token := buffer.bytesAt (sizeofLogonProof + 1) (tokenLength buffer)

/-- `sAuthReconnectProof_C` at the read pointer. -/
def reconnectProofAt (buffer : MessageBuffer) : ReconnectProofPacket where
  R1 := Vector.ofFn fun index => buffer.byteAt (1 + index)
  R2 := Vector.ofFn fun index => buffer.byteAt (17 + index)

/-- The packet of the command byte; `time` is what the handler will be told. -/
def packetAt (buffer : MessageBuffer) (time : Nat) : ClientPacket :=
  match buffer.byteAt 0 with
  | 0x00 => .logonChallenge (challengeAt buffer)
  | 0x01 => .logonProof (logonProofAt buffer) time
  | 0x02 => .reconnectChallenge (challengeAt buffer)
  | 0x03 => .reconnectProof (reconnectProofAt buffer)
  | 0x10 => .realmList
  | _ => .unknown

/-- The size column of `InitHandlers`. -/
def ClientPacket.packetSize : ClientPacket → Nat
  | .logonChallenge _ | .reconnectChallenge _ => authLogonChallengeInitialSize
  | .logonProof _ _ => sizeofLogonProof
  | .reconnectProof _ => sizeofReconnectProof
  | .realmList => realmListPacketSize
  | .unknown => 0

/-- `size` when the handler is called. -/
def ClientPacket.fullSize : ClientPacket → Nat
  | .logonChallenge packet | .reconnectChallenge packet =>
      (authLogonChallengeInitialSize + packet.size) % 2 ^ 16
  | packet => packet.packetSize

/-! ## How far the handlers look -/

/-- `challenge->size` is the one field the loop itself looks at. -/
def ClientPacket.sizeReach : ClientPacket → Nat
  | .logonChallenge _ | .reconnectChallenge _ => authLogonChallengeInitialSize
  | _ => 0

/-- Both challenge handlers look at `I_len`, and at `I` if its length fits. -/
def AuthSession.challengeReach
    (session : AuthSession) (packet : LogonChallengePacket) : Nat :=
  if session.sentChallenge then 0
  else if packet.sizeMatches then 34 + packet.lengthOfI
  else 34

/-- Whether `HandleLogonProof` comes to the token. -/
def AuthSession.readsToken
    (session : AuthSession) (packet : LogonProofPacket) : Bool :=
  !session.sentProof && session.expversion != noValidExpFlag
    && setBinary packet.A.toList % srpN != 0
    && session.proofMatches environment packet && session.checksToken packet

/--
The number of bytes from the read pointer on which the handler looks at.  A
proof counts as a whole, even where its handler returns early.
-/
def AuthSession.reach (session : AuthSession) : ClientPacket → Nat
  | .logonChallenge packet | .reconnectChallenge packet =>
      session.challengeReach packet
  | .logonProof packet _ =>
      if session.readsToken environment packet then
        sizeofLogonProof + 1 + packet.token.length
      else sizeofLogonProof
  | .reconnectProof _ => sizeofReconnectProof
  | .realmList | .unknown => 0

/-- The bytes `HandleLogonProof` takes itself. -/
def AuthSession.tokenBytes (session : AuthSession) : ClientPacket → Nat
  | .logonProof packet _ =>
      if session.readsToken environment packet then 1 + packet.token.length else 0
  | _ => 0

/-! ## The reader -/

structure AuthReader where
  session : AuthSession
  readBuffer : MessageBuffer := .ofSize defaultBufferSize
  /-- The loop of `ReadHandler` is running. -/
  handling : Bool := false
  overrun : Bool := false
  disordered : Bool := false
  /-- The loop has gone on without taking bytes. -/
  hung : Bool := false

namespace AuthReader

def start : AuthReader where
  session := .start

/-- Somebody looks at `reach` bytes from the read pointer on. -/
def look (reader : AuthReader) (reach : Nat) : AuthReader :=
  { reader with
    overrun := reader.overrun || decide (reader.readBuffer.active.length < reach) }

/-- `GetReadBuffer().ReadCompleted(bytes)`. -/
def readCompleted (reader : AuthReader) (bytes : Nat) : AuthReader :=
  { reader with
    readBuffer := reader.readBuffer.readCompleted bytes
    disordered := reader.disordered ||
      !decide (reader.readBuffer.readCompleted bytes).Valid }

/-- The loop is left by `break`. -/
def asyncRead (reader : AuthReader) : AuthReader :=
  { reader with
    handling := false
    readBuffer := reader.readBuffer.normalize.ensureFreeSpace }

/-- The loop is left by `CloseSocket` and `return`. -/
def closeSocket (reader : AuthReader) : AuthReader :=
  { reader with handling := false, session := reader.session.close }

/-- The handler runs on a packet, and the loop takes the packet away. -/
def dispatch (reader : AuthReader) (packet : ClientPacket) : AuthReader :=
  let looked := reader.look (reader.session.reach environment packet)
  let taken := looked.readCompleted (reader.session.tokenBytes environment packet)
  let (session, keep) := handlePacket environment reader.session packet
  let handled := { taken with session := session }
  if keep then handled.readCompleted packet.fullSize else handled.closeSocket

/-- One turn of the loop of `ReadHandler`. -/
def handleNext (reader : AuthReader) (time : Nat) : AuthReader :=
  if !reader.handling then reader
  else if reader.readBuffer.getActiveSize = 0 then reader.asyncRead
  else
    let packet := packetAt reader.readBuffer time
    let reader := reader.look 1
    match packet.requiredStatus with
    | none => { reader with readBuffer := reader.readBuffer.reset }.asyncRead
    | some status =>
        if reader.session.status ≠ status then reader.closeSocket
        else if reader.readBuffer.getActiveSize < packet.packetSize then
          reader.asyncRead
        else
          let reader := reader.look packet.sizeReach
          if packet.tooLarge then reader.closeSocket
          else if reader.readBuffer.getActiveSize < packet.fullSize then
            reader.asyncRead
          else reader.dispatch environment packet

def loop (reader : AuthReader) (turns : List Nat) : AuthReader :=
  run (handleNext environment) reader turns

/-- The reader at the first turn of the loop. -/
def enter (reader : AuthReader) : AuthReader := { reader with handling := true }

/-- As many turns as there are bytes to take, and one more to see that. -/
def turns (reader : AuthReader) (time : Nat) : List Nat :=
  List.replicate (reader.readBuffer.active.length + 1) time

/-- The loop has to be over when all its turns have been taken. -/
def readHandler (reader : AuthReader) (time : Nat) : AuthReader :=
  let left := loop environment reader.enter (reader.turns time)
  { left with hung := left.hung || left.handling }

/-- What happens to a connection. -/
inductive Event where
  /-- `ReadHandlerInternal` with the bytes of one read. -/
  | received (bytes : Bytes) (time : Nat)
  /-- `ReadHandlerInternal` with an error. -/
  | failed
  | callback (outcome : QueryOutcome)

/-- A read ends only where one was begun, with bytes the buffer has space for. -/
def receives (reader : AuthReader) (bytes : Bytes) : Bool :=
  reader.session.reading && !reader.session.closed && bytes != [] &&
    decide (bytes.length ≤ reader.readBuffer.getRemainingSpace)

/-- The reader when `ReadHandler` is called. -/
def fill (reader : AuthReader) (bytes : Bytes) : AuthReader :=
  { reader with readBuffer := reader.readBuffer.write bytes }

def step (reader : AuthReader) : Event → AuthReader
  | .received bytes time =>
      if reader.receives bytes then
        (reader.fill bytes).readHandler environment time
      else reader
  | .failed => { reader with session := reader.session.close }
  | .callback outcome =>
      { reader with session := runExecutor environment reader.session outcome }

variable {environment} {reader : AuthReader} {time : Nat}

/-! ## Nobody looks too far -/

/-- Every look was at received bytes, and the positions are in order. -/
structure Clean (reader : AuthReader) : Prop where
  noOverrun : reader.overrun = false
  ordered : reader.disordered = false
  valid : reader.readBuffer.Valid

/-- Positions out of order do not go unnoticed. -/
def Remembers (reader : AuthReader) : Prop :=
  reader.disordered = false → reader.readBuffer.Valid

theorem Clean.remembers (clean : reader.Clean) : reader.Remembers :=
  fun _ => clean.valid

theorem look_of_le {reach : Nat} (le : reach ≤ reader.readBuffer.active.length) :
    reader.look reach = reader := by
  simp [look, Nat.not_lt.mpr le]

@[simp]
theorem look_readBuffer (reader : AuthReader) (reach : Nat) :
    (reader.look reach).readBuffer = reader.readBuffer := rfl

@[simp]
theorem look_session (reader : AuthReader) (reach : Nat) :
    (reader.look reach).session = reader.session := rfl

@[simp]
theorem look_disordered (reader : AuthReader) (reach : Nat) :
    (reader.look reach).disordered = reader.disordered := rfl

theorem look_clean_iff (clean : reader.Clean) (reach : Nat) :
    (reader.look reach).Clean ↔ reach ≤ reader.readBuffer.active.length := by
  constructor
  · intro still
    have none := still.noOverrun
    simp only [look, clean.noOverrun, Bool.false_or, decide_eq_false_iff_not] at none
    exact Nat.not_lt.mp none
  · intro le
    rw [look_of_le le]
    exact clean

theorem readCompleted_clean_iff (clean : reader.Clean) (bytes : Nat) :
    (reader.readCompleted bytes).Clean ↔
      bytes ≤ reader.readBuffer.active.length := by
  rw [← MessageBuffer.readCompleted_valid_iff clean.valid]
  constructor
  · exact Clean.valid
  · intro still
    refine ⟨clean.noOverrun, ?_, still⟩
    simp [readCompleted, clean.ordered, still]

theorem asyncRead_clean (clean : reader.Clean) : reader.asyncRead.Clean :=
  ⟨clean.noOverrun, clean.ordered,
    MessageBuffer.ensureFreeSpace_valid (MessageBuffer.normalize_valid clean.valid)⟩

theorem closeSocket_clean_iff : reader.closeSocket.Clean ↔ reader.Clean :=
  ⟨fun clean => ⟨clean.1, clean.2, clean.3⟩, fun clean => ⟨clean.1, clean.2, clean.3⟩⟩

/-! ### What one turn of the loop does -/

/-- The turn calls the handler of a packet. -/
def Dispatches (reader : AuthReader) (packet : ClientPacket) : Prop :=
  reader.handling = true ∧ reader.readBuffer.active ≠ [] ∧
    packet.requiredStatus = some reader.session.status ∧
    packet.packetSize ≤ reader.readBuffer.active.length ∧
    packet.tooLarge = false ∧ packet.fullSize ≤ reader.readBuffer.active.length

/-- The turn leaves the loop without calling a handler. -/
inductive Leaves (reader : AuthReader) : AuthReader → Prop where
  | incomplete : Leaves reader reader.asyncRead
  | ignored : Leaves reader { reader with readBuffer := reader.readBuffer.reset }.asyncRead
  | refused : Leaves reader reader.closeSocket

theorem sizeReach_le_packetSize (packet : ClientPacket) :
    packet.sizeReach ≤ packet.packetSize := by
  cases packet <;> simp [ClientPacket.sizeReach, ClientPacket.packetSize]

theorem handleNext_idle (done : reader.handling = false) :
    reader.handleNext environment time = reader := by
  simp [handleNext, done]

theorem handleNext_cases (environment : AuthEnvironment) (time : Nat)
    (valid : reader.readBuffer.Valid)
    (handling : reader.handling = true) :
    (reader.Dispatches (packetAt reader.readBuffer time) ∧
      reader.handleNext environment time =
        reader.dispatch environment (packetAt reader.readBuffer time)) ∨
    (¬ reader.Dispatches (packetAt reader.readBuffer time) ∧
      reader.Leaves (reader.handleNext environment time)) := by
  have size := MessageBuffer.getActiveSize_eq valid
  unfold handleNext Dispatches
  rw [handling, size]
  simp only [Bool.not_true, Bool.false_eq_true, if_false, List.length_eq_zero_iff]
  by_cases empty : reader.readBuffer.active = []
  · rw [if_pos empty]
    exact .inr ⟨by simp [empty], .incomplete⟩
  rw [if_neg empty]
  have first : reader.look 1 = reader :=
    look_of_le (List.length_pos_iff.mpr empty)
  rw [first]
  generalize packetAt reader.readBuffer time = packet
  cases required : packet.requiredStatus with
  | none => exact .inr ⟨by simp, .ignored⟩
  | some status =>
      dsimp only
      by_cases wrong : reader.session.status ≠ status
      · rw [if_pos wrong]
        refine .inr ⟨?_, .refused⟩
        rintro ⟨_, _, same, _⟩
        exact wrong (Option.some.inj same).symm
      rw [if_neg wrong, size]
      have right : reader.session.status = status := not_ne_iff.mp wrong
      by_cases short : reader.readBuffer.active.length < packet.packetSize
      · rw [if_pos short]
        refine .inr ⟨?_, .incomplete⟩
        rintro ⟨_, _, _, enough, _⟩
        exact Nat.not_le.mpr short enough
      rw [if_neg short]
      have enough := Nat.not_lt.mp short
      rw [look_of_le ((sizeReach_le_packetSize packet).trans enough)]
      by_cases large : packet.tooLarge = true
      · rw [if_pos large]
        exact .inr ⟨by simp [large], .refused⟩
      rw [if_neg large, size]
      by_cases partly : reader.readBuffer.active.length < packet.fullSize
      · rw [if_pos partly]
        refine .inr ⟨?_, .incomplete⟩
        rintro ⟨_, _, _, _, _, whole⟩
        exact Nat.not_le.mpr partly whole
      rw [if_neg partly]
      refine .inl ⟨⟨trivial, empty, ?_, enough, ?_, Nat.not_lt.mp partly⟩, rfl⟩
      · rw [right]
      · simpa using large

theorem Leaves.clean {next : AuthReader} (leaves : reader.Leaves next)
    (clean : reader.Clean) : next.Clean := by
  cases leaves with
  | incomplete => exact asyncRead_clean clean
  | ignored =>
      apply asyncRead_clean
      exact ⟨clean.noOverrun, clean.ordered, MessageBuffer.reset_valid _⟩
  | refused => exact closeSocket_clean_iff.mpr clean

theorem Leaves.done {next : AuthReader} (leaves : reader.Leaves next) :
    next.handling = false := by
  cases leaves <;> rfl

/-! ### The handlers -/

/-- A logon proof with a token is not answered by closing the connection. -/
theorem handleLogonProof_keeps (time : Nat) {session : AuthSession} {packet : LogonProofPacket}
    (token : session.readsToken environment packet = true) :
    (handleLogonProof environment session packet time).2 = true := by
  simp only [AuthSession.readsToken, Bool.and_eq_true, Bool.not_eq_true',
    bne_iff_ne, ne_eq] at token
  obtain ⟨⟨⟨⟨fresh, version⟩, nonzero⟩, same⟩, _⟩ := token
  unfold handleLogonProof
  rw [if_neg (by simp [fresh]), if_neg version, if_neg nonzero]
  split <;> rfl

theorem withSession_clean_iff (session : AuthSession) :
    ({ reader with session := session } : AuthReader).Clean ↔ reader.Clean :=
  ⟨fun clean => ⟨clean.1, clean.2, clean.3⟩, fun clean => ⟨clean.1, clean.2, clean.3⟩⟩

theorem dispatch_overrun (environment : AuthEnvironment) (reader : AuthReader)
    (packet : ClientPacket) :
    (reader.dispatch environment packet).overrun =
      (reader.look (reader.session.reach environment packet)).overrun := by
  unfold dispatch
  dsimp only
  split <;> rfl

theorem dispatch_disordered (environment : AuthEnvironment) (reader : AuthReader)
    (packet : ClientPacket)
    (broken : (reader.readCompleted
      (reader.session.tokenBytes environment packet)).disordered = true) :
    (reader.dispatch environment packet).disordered = true := by
  unfold dispatch
  dsimp only
  split
  · show (_ || _) = true
    rw [Bool.or_eq_true]
    exact .inl broken
  · exact broken

theorem dispatch_clean_iff (clean : reader.Clean) (packet : ClientPacket) :
    (reader.dispatch environment packet).Clean ↔
      reader.session.reach environment packet ≤ reader.readBuffer.active.length ∧
      reader.session.tokenBytes environment packet ≤
        reader.readBuffer.active.length ∧
      ((handlePacket environment reader.session packet).2 = true →
        packet.fullSize ≤ reader.readBuffer.active.length -
          reader.session.tokenBytes environment packet) := by
  by_cases near : reader.session.reach environment packet ≤
      reader.readBuffer.active.length
  case neg =>
      have looked := dispatch_overrun environment reader packet
      refine iff_of_false (fun still => near ?_) (fun bounds => near bounds.1)
      apply (look_clean_iff clean _).mp
      exact ⟨looked ▸ still.noOverrun, clean.ordered, clean.valid⟩
  by_cases token : reader.session.tokenBytes environment packet ≤
      reader.readBuffer.active.length
  case neg =>
      refine iff_of_false (fun still => ?_) (fun bounds => token bounds.2.1)
      apply token
      apply (MessageBuffer.readCompleted_valid_iff clean.valid _).mp
      by_contra broken
      have remembered := dispatch_disordered environment reader packet
        (by simp [readCompleted, broken])
      rw [still.ordered] at remembered
      exact Bool.false_ne_true remembered
  have taken := (readCompleted_clean_iff clean _).mpr token
  simp only [near, token, true_and]
  unfold dispatch
  rw [look_of_le near]
  dsimp only
  split
  case isTrue keep =>
      simp only [keep, true_implies]
      rw [readCompleted_clean_iff ((withSession_clean_iff _).mpr taken)]
      show packet.fullSize ≤ (reader.readBuffer.readCompleted _).active.length ↔ _
      rw [MessageBuffer.readCompleted_active, List.length_drop]
  case isFalse refused =>
      refine iff_of_true ?_ (fun keep => absurd keep refused)
      exact closeSocket_clean_iff.mpr ((withSession_clean_iff _).mpr taken)

/-! ### The condition -/

/--
What the size of a packet does not promise: a challenge which is looked at has
an `I_len`, and a logon proof which comes to its token has the whole token.
-/
def EnoughFor (environment : AuthEnvironment) (reader : AuthReader) :
    ClientPacket → Prop
  | .logonChallenge _ | .reconnectChallenge _ =>
      reader.session.sentChallenge = false → 34 ≤ reader.readBuffer.active.length
  | .logonProof packet _ =>
      reader.session.readsToken environment packet = true →
        sizeofLogonProof + 1 + packet.token.length ≤ reader.readBuffer.active.length
  | _ => True

theorem packetAt_challenge {buffer : MessageBuffer} {packet : LogonChallengePacket}
    (which : packetAt buffer time = .logonChallenge packet ∨
      packetAt buffer time = .reconnectChallenge packet) :
    packet.lengthOfI < 256 := by
  have read : packet = challengeAt buffer := by
    unfold packetAt at which
    split at which <;>
      simp only [ClientPacket.logonChallenge.injEq, ClientPacket.reconnectChallenge.injEq,
        reduceCtorEq, or_false, false_or] at which
    all_goals exact which.symm
  rw [read]
  exact (buffer.byteAt 33).toNat_lt

/-- A challenge whose lengths agree is not longer than it announces. -/
theorem challengeReach_le {packet : LogonChallengePacket}
    (bounded : packet.lengthOfI < 256) (session : AuthSession) {available : Nat}
    (whole : (authLogonChallengeInitialSize + packet.size) % 2 ^ 16 ≤ available) :
    session.challengeReach packet ≤ available ↔
      (session.sentChallenge = false → 34 ≤ available) := by
  unfold AuthSession.challengeReach
  split
  case isTrue sent => simp [sent]
  case isFalse fresh =>
      have unsent : session.sentChallenge = false := by simpa using fresh
      rw [unsent]
      simp only [true_implies]
      split
      case isTrue same =>
          simp only [LogonChallengePacket.sizeMatches, sizeofLogonChallenge,
            authLogonChallengeInitialSize, beq_iff_eq] at same whole
          omega
      case isFalse => exact Iff.rfl

theorem dispatch_keeps_clean_iff (clean : reader.Clean)
    (dispatches : reader.Dispatches (packetAt reader.readBuffer time)) :
    (reader.dispatch environment (packetAt reader.readBuffer time)).Clean ↔
      reader.EnoughFor environment (packetAt reader.readBuffer time) := by
  rw [dispatch_clean_iff clean]
  obtain ⟨_, _, _, _, _, whole⟩ := dispatches
  cases which : packetAt reader.readBuffer time with
  | logonChallenge packet =>
      rw [which] at whole
      have reach := challengeReach_le (packetAt_challenge (.inl which))
        reader.session whole
      simpa [EnoughFor, AuthSession.reach, AuthSession.tokenBytes, whole] using reach
  | reconnectChallenge packet =>
      rw [which] at whole
      have reach := challengeReach_le (packetAt_challenge (.inr which))
        reader.session whole
      simpa [EnoughFor, AuthSession.reach, AuthSession.tokenBytes, whole] using reach
  | logonProof packet time =>
      rw [which] at whole
      change sizeofLogonProof ≤ _ at whole
      by_cases token : reader.session.readsToken environment packet = true
      · have keeps := handleLogonProof_keeps time token
        simp only [EnoughFor, AuthSession.reach, AuthSession.tokenBytes, token, if_true,
          handlePacket, keeps, true_implies, ClientPacket.fullSize,
          ClientPacket.packetSize]
        omega
      · simp [EnoughFor, AuthSession.reach, AuthSession.tokenBytes, token, whole,
          ClientPacket.fullSize, ClientPacket.packetSize]
  | reconnectProof packet =>
      rw [which] at whole
      change sizeofReconnectProof ≤ _ at whole
      simp [EnoughFor, AuthSession.reach, AuthSession.tokenBytes, whole,
        ClientPacket.fullSize, ClientPacket.packetSize]
  | realmList =>
      rw [which] at whole
      simp [EnoughFor, AuthSession.reach, AuthSession.tokenBytes, whole]
  | unknown =>
      simp [EnoughFor, AuthSession.reach, AuthSession.tokenBytes,
        ClientPacket.fullSize, ClientPacket.packetSize]

/-- The next turn of the loop calls a handler with enough bytes for it. -/
def EnoughReceived (environment : AuthEnvironment) (reader : AuthReader) (time : Nat) : Prop :=
  reader.Dispatches (packetAt reader.readBuffer time) →
    reader.EnoughFor environment (packetAt reader.readBuffer time)

theorem handleNext_clean_iff (clean : reader.Clean) :
    (reader.handleNext environment time).Clean ↔
      reader.EnoughReceived environment time := by
  cases handling : reader.handling with
  | false =>
      rw [handleNext_idle handling]
      refine iff_of_true clean ?_
      rintro ⟨running, _⟩
      rw [handling] at running
      exact absurd running Bool.false_ne_true
  | true =>
      rcases handleNext_cases environment time clean.valid handling
        with ⟨dispatches, next⟩ | ⟨none, leaves⟩
      · rw [next, dispatch_keeps_clean_iff clean dispatches]
        exact ⟨fun enough _ => enough, fun enough => enough dispatches⟩
      · exact iff_of_true (leaves.clean clean) (fun dispatches => absurd dispatches none)

/-! ## The loop -/

theorem look_overrun (seen : reader.overrun = true) (reach : Nat) :
    (reader.look reach).overrun = true := by
  simp [look, seen]

/-- What has been noticed stays noticed. -/
theorem handleNext_overrun (environment : AuthEnvironment) (time : Nat)
    (seen : reader.overrun = true) :
    (reader.handleNext environment time).overrun = true := by
  unfold handleNext
  split
  · exact seen
  split
  · exact seen
  dsimp only
  have first := look_overrun seen 1
  generalize packetAt reader.readBuffer time = packet
  cases packet.requiredStatus with
  | none => exact first
  | some status =>
      dsimp only
      split
      · exact first
      split
      · exact first
      have second := look_overrun first packet.sizeReach
      split
      · exact second
      split
      · exact second
      · rw [dispatch_overrun]
        exact look_overrun second _

theorem handleNext_disordered (environment : AuthEnvironment) (time : Nat)
    (seen : reader.disordered = true) :
    (reader.handleNext environment time).disordered = true := by
  unfold handleNext
  split
  · exact seen
  split
  · exact seen
  dsimp only
  generalize packetAt reader.readBuffer time = packet
  cases packet.requiredStatus with
  | none => exact seen
  | some status =>
      dsimp only
      repeat' split
      all_goals first
        | exact seen
        | exact dispatch_disordered environment _ packet (by simp [readCompleted, seen])

theorem readCompleted_remembers (reader : AuthReader) (bytes : Nat) :
    (reader.readCompleted bytes).Remembers := by
  intro ordered
  simp only [readCompleted, Bool.or_eq_false_iff, Bool.not_eq_false',
    decide_eq_true_eq] at ordered
  exact ordered.2

theorem asyncRead_remembers (remembers : reader.Remembers) :
    reader.asyncRead.Remembers := fun ordered =>
  MessageBuffer.ensureFreeSpace_valid (MessageBuffer.normalize_valid (remembers ordered))

theorem dispatch_remembers (packet : ClientPacket) :
    (reader.dispatch environment packet).Remembers := by
  unfold dispatch
  dsimp only
  split
  · exact readCompleted_remembers _ _
  · exact readCompleted_remembers (reader.look _) _

theorem handleNext_remembers (remembers : reader.Remembers) :
    (reader.handleNext environment time).Remembers := by
  have reset : ({ reader with readBuffer := reader.readBuffer.reset }
      : AuthReader).Remembers := fun _ => MessageBuffer.reset_valid _
  unfold handleNext
  split
  · exact remembers
  split
  · exact asyncRead_remembers remembers
  dsimp only
  generalize packetAt reader.readBuffer time = packet
  cases packet.requiredStatus with
  | none => exact asyncRead_remembers reset
  | some status =>
      dsimp only
      split
      · exact remembers
      split
      · exact asyncRead_remembers remembers
      split
      · exact remembers
      split
      · exact asyncRead_remembers remembers
      · exact dispatch_remembers packet

theorem clean_of_handleNext (remembers : reader.Remembers)
    (still : (reader.handleNext environment time).Clean) : reader.Clean := by
  have near : reader.overrun = false := by
    by_contra seen
    have later := handleNext_overrun environment time
      (Bool.eq_true_of_not_eq_false seen)
    exact absurd still.noOverrun (by simp [later])
  have ordered : reader.disordered = false := by
    by_contra seen
    have later := handleNext_disordered environment time
      (Bool.eq_true_of_not_eq_false seen)
    exact absurd still.ordered (by simp [later])
  exact ⟨near, ordered, remembers ordered⟩

/-- In every turn of the loop the handlers have the bytes they look at. -/
def LoopEnough (environment : AuthEnvironment) : AuthReader → List Nat → Prop :=
  EveryStep (handleNext environment)
    (EnoughReceived environment)

theorem loop_clean_iff (clean : reader.Clean) (turns : List Nat) :
    (loop environment reader turns).Clean ↔ LoopEnough environment reader turns := by
  have backward : (loop environment reader turns).Clean ↔
      Throughout (handleNext environment) Clean reader turns := run_iff_throughout
    (fun _ _ remembers => handleNext_remembers remembers)
    (fun _ _ remembers still => clean_of_handleNext remembers still)
    turns clean.remembers
  apply backward.trans
  exact throughout_iff_everyStep (fun _ _ remembers => handleNext_remembers remembers)
    (fun _ _ _ clean => handleNext_clean_iff clean) clean.remembers clean

theorem loop_done (done : reader.handling = false) (turns : List Nat) :
    loop environment reader turns = reader := by
  induction turns with
  | nil => rfl
  | cons time rest induction =>
      show loop environment (reader.handleNext environment time) rest = reader
      rw [handleNext_idle done]
      exact induction

theorem handleChallenge_sizeMatches {session : AuthSession}
    {packet : LogonChallengePacket} {busyReply : ServerPacket} {callback : Task}
    (keep : (handleChallenge session packet busyReply callback).2 = true) :
    packet.sizeMatches = true := by
  unfold handleChallenge at keep
  split at keep
  · exact absurd keep Bool.false_ne_true
  dsimp only at keep
  split at keep
  · exact absurd keep Bool.false_ne_true
  case isFalse same => simpa using same

/-- A handler that lets the loop go on takes at least one byte. -/
theorem fullSize_pos {session : AuthSession} (buffer : MessageBuffer) (time : Nat)
    (keep : (handlePacket environment session (packetAt buffer time)).2 = true)
    (known : (packetAt buffer time).requiredStatus ≠ none) :
    0 < (packetAt buffer time).fullSize := by
  have positive : ∀ packet : LogonChallengePacket, packet.lengthOfI < 256 →
      packet.sizeMatches = true →
      0 < (authLogonChallengeInitialSize + packet.size) % 2 ^ 16 := by
    intro packet bounded same
    simp only [LogonChallengePacket.sizeMatches, sizeofLogonChallenge,
      authLogonChallengeInitialSize, beq_iff_eq] at same ⊢
    omega
  cases which : packetAt buffer time with
  | logonChallenge packet =>
      rw [which] at keep
      exact positive packet (packetAt_challenge (.inl which))
        (handleChallenge_sizeMatches keep)
  | reconnectChallenge packet =>
      rw [which] at keep
      exact positive packet (packetAt_challenge (.inr which))
        (handleChallenge_sizeMatches keep)
  | unknown => exact absurd (congrArg ClientPacket.requiredStatus which) known
  | logonProof packet time => exact Nat.succ_pos _
  | reconnectProof packet => exact Nat.succ_pos _
  | realmList => exact Nat.succ_pos _

theorem dispatch_progress (dispatches : reader.Dispatches (packetAt reader.readBuffer time)) :
    (reader.dispatch environment (packetAt reader.readBuffer time)).handling = false ∨
      (reader.dispatch environment
        (packetAt reader.readBuffer time)).readBuffer.active.length <
        reader.readBuffer.active.length := by
  obtain ⟨_, nonempty, known, _⟩ := dispatches
  unfold dispatch
  dsimp only
  split
  case isFalse => exact .inl rfl
  case isTrue keep =>
      have taken := fullSize_pos reader.readBuffer time keep (by rw [known]; simp)
      have available := List.length_pos_iff.mpr nonempty
      apply Or.inr
      show ((reader.readBuffer.readCompleted _).readCompleted _).active.length < _
      rw [MessageBuffer.readCompleted_add, MessageBuffer.readCompleted_active,
        List.length_drop]
      omega

/-- The loop ends: each turn that does not leave it takes a byte. -/
theorem loop_ends (clean : reader.Clean) {count : Nat}
    (enough : LoopEnough environment reader (List.replicate count time))
    (short : reader.readBuffer.active.length < count) :
    (loop environment reader (List.replicate count time)).handling = false := by
  induction count generalizing reader with
  | zero => exact absurd short (Nat.not_lt_zero _)
  | succ count induction =>
      show (loop environment (reader.handleNext environment time) _).handling = false
      have later : (reader.handleNext environment time).Clean :=
        (handleNext_clean_iff clean).mpr enough.1
      by_cases done : (reader.handleNext environment time).handling = false
      · rw [loop_done done]
        exact done
      have handling : reader.handling = true := by
        by_contra idle
        rw [handleNext_idle (by simpa using idle)] at done
        exact done (by simpa using idle)
      apply induction later enough.2
      rcases handleNext_cases environment time clean.valid handling
        with ⟨dispatches, next⟩ | ⟨_, leaves⟩
      · rw [next] at done ⊢
        have progress := (dispatch_progress dispatches).resolve_left done
        omega
      · exact absurd leaves.done done

/-! ## Whole connections -/

/-- Nobody has looked too far, the positions are in order, and every loop has ended. -/
def Safe (reader : AuthReader) : Prop :=
  reader.Clean ∧ reader.hung = false

/-- In the loop a read starts, the handlers have the bytes they look at. -/
def Sufficient (environment : AuthEnvironment) (reader : AuthReader) : Event → Prop
  | .received bytes time =>
      reader.receives bytes = true →
        LoopEnough environment (reader.fill bytes).enter
          ((reader.fill bytes).turns time)
  | _ => True

theorem handleNext_hung (reader : AuthReader) (time : Nat) :
    (reader.handleNext environment time).hung = reader.hung := by
  unfold handleNext
  split
  · rfl
  split
  · rfl
  dsimp only
  generalize packetAt reader.readBuffer time = packet
  cases packet.requiredStatus with
  | none => rfl
  | some status =>
      dsimp only
      repeat' split
      all_goals first | rfl | (unfold dispatch; dsimp only; split <;> rfl)

theorem loop_hung (reader : AuthReader) (turns : List Nat) :
    (loop environment reader turns).hung = reader.hung := by
  induction turns generalizing reader with
  | nil => rfl
  | cons time rest induction =>
      exact (induction (reader.handleNext environment time)).trans
        (handleNext_hung reader time)

theorem fill_clean (clean : reader.Clean) {bytes : Bytes}
    (receives : reader.receives bytes = true) : (reader.fill bytes).Clean := by
  simp only [AuthReader.receives, Bool.and_eq_true, decide_eq_true_eq] at receives
  exact ⟨clean.noOverrun, clean.ordered,
    MessageBuffer.write_valid clean.valid receives.2⟩

theorem readHandler_safe_iff (clean : reader.Clean) (ended : reader.hung = false) :
    (reader.readHandler environment time).Safe ↔
      LoopEnough environment reader.enter (reader.turns time) := by
  have entered : reader.enter.Clean := ⟨clean.1, clean.2, clean.3⟩
  have whole : (loop environment reader.enter (reader.turns time)).Clean ↔
      LoopEnough environment reader.enter (reader.turns time) :=
    loop_clean_iff entered _
  constructor
  · rintro ⟨last, _⟩
    exact whole.mp ⟨last.1, last.2, last.3⟩
  · intro enough
    have last := whole.mpr enough
    have done : (loop environment reader.enter (reader.turns time)).handling = false :=
      loop_ends entered enough (Nat.lt_succ_self _)
    refine ⟨⟨last.1, last.2, last.3⟩, ?_⟩
    show (_ || _) = false
    rw [loop_hung, done, Bool.or_false]
    exact ended

theorem step_safe_iff (safe : reader.Safe) (event : Event) :
    (reader.step environment event).Safe ↔ reader.Sufficient environment event := by
  obtain ⟨clean, ended⟩ := safe
  cases event with
  | received bytes time =>
      show (if _ then _ else _ : AuthReader).Safe ↔ (_ → _)
      split
      case isTrue receives =>
          simp only [receives, true_implies]
          exact readHandler_safe_iff (fill_clean clean receives) ended
      case isFalse refused =>
          exact iff_of_true ⟨clean, ended⟩ (fun receives => absurd receives refused)
  | failed => exact iff_of_true ⟨⟨clean.1, clean.2, clean.3⟩, ended⟩ trivial
  | callback outcome =>
      exact iff_of_true ⟨⟨clean.1, clean.2, clean.3⟩, ended⟩ trivial

theorem throughout_safe_iff (safe : reader.Safe) (events : List Event) :
    Throughout (step environment) Safe reader events ↔
      EveryStep (step environment) (Sufficient environment) reader events :=
  throughout_iff_everyStep (fun _ _ (kept : True) => kept)
    (fun _ event _ safe => step_safe_iff safe event) trivial safe

theorem start_safe : start.Safe :=
  ⟨⟨rfl, rfl, MessageBuffer.ofSize_valid _⟩, rfl⟩

/-! ## The packets behind the bytes -/

/-- The loop runs on an open connection. -/
def OpenInLoop (reader : AuthReader) : Prop :=
  reader.handling = true →
    reader.session.closed = false ∧ reader.session.reading = true

/-- `next` has handled some packets and callbacks, and may have been closed then. -/
def Follows (environment : AuthEnvironment) (session next : AuthSession) : Prop :=
  ∃ events : List AuthEvent,
    next = run (Auth.step environment) session events ∨
      next = (run (Auth.step environment) session events).close

/-- Nothing happens to a closed session. -/
theorem run_closed {session : AuthSession} (closed : session.closed = true)
    (events : List AuthEvent) :
    run (Auth.step environment) session events = session := by
  induction events with
  | nil => rfl
  | cons event rest induction =>
      have stays : Auth.step environment session event = session := by
        cases event with
        | packet packet => simp [Auth.step, Auth.readHandler, closed]
        | callback outcome => simp [Auth.step, runExecutor, closed]
      rw [run_cons, stays]
      exact induction

theorem Follows.refl (session : AuthSession) : Follows environment session session :=
  ⟨[], .inl rfl⟩

theorem Follows.one {session next : AuthSession} (event : AuthEvent)
    (same : next = Auth.step environment session event) :
    Follows environment session next := ⟨[event], .inl same⟩

theorem Follows.close (session : AuthSession) :
    Follows environment session session.close := ⟨[], .inr rfl⟩

theorem Follows.trans {first second third : AuthSession}
    (left : Follows environment first second) (right : Follows environment second third) :
    Follows environment first third := by
  obtain ⟨before, rfl | rfl⟩ := left
  · obtain ⟨after, same⟩ := right
    rw [← run_append] at same
    exact ⟨before ++ after, same⟩
  · obtain ⟨after, same⟩ := right
    rw [run_closed rfl] at same
    rcases same with rfl | rfl
    · exact ⟨before, .inr rfl⟩
    · exact ⟨before, .inr rfl⟩

/-- The connection is open, or closed, as before, and so is the reading. -/
structure SameConnection (session next : AuthSession) : Prop where
  closed : next.closed = session.closed
  reading : next.reading = session.reading

theorem SameConnection.trans {first second third : AuthSession}
    (left : SameConnection first second) (right : SameConnection second third) :
    SameConnection first third :=
  ⟨right.closed.trans left.closed, right.reading.trans left.reading⟩

theorem wrongPassword_connection (environment : AuthEnvironment)
    (session : AuthSession) :
    SameConnection session (wrongPassword environment session) := by
  unfold wrongPassword
  dsimp only
  split_ifs <;> exact ⟨rfl, rfl⟩

theorem acceptLogonProof_connection (environment : AuthEnvironment)
    (session : AuthSession) (packet : LogonProofPacket) (time : Nat) :
    SameConnection session (acceptLogonProof environment session packet time) := by
  unfold acceptLogonProof
  dsimp only
  generalize proofKey environment _ _ _ packet = K
  split_ifs <;> exact ⟨rfl, rfl⟩

theorem handleChallenge_connection
    (session : AuthSession) (packet : LogonChallengePacket)
    (busyReply : ServerPacket) (callback : Task) :
    SameConnection session (handleChallenge session packet busyReply callback).1 := by
  unfold handleChallenge
  dsimp only
  split_ifs <;> exact ⟨rfl, rfl⟩

/-- No handler closes the connection or stops the reading by itself. -/
theorem handlePacket_connection (session : AuthSession) (packet : ClientPacket) :
    SameConnection session (handlePacket environment session packet).1 := by
  cases packet with
  | logonChallenge packet => exact handleChallenge_connection session packet _ _
  | reconnectChallenge packet => exact handleChallenge_connection session packet _ _
  | logonProof packet time =>
      show SameConnection session (handleLogonProof environment session packet time).1
      unfold handleLogonProof
      dsimp only
      split_ifs
      · exact ⟨rfl, rfl⟩
      · exact ⟨rfl, rfl⟩
      · exact ⟨rfl, rfl⟩
      · exact SameConnection.trans (by constructor <;> simp)
          (acceptLogonProof_connection environment _ packet time)
      · exact SameConnection.trans (by constructor <;> simp [AuthSession.send])
          (wrongPassword_connection environment _)
  | reconnectProof packet =>
      show SameConnection session (handleReconnectProof environment session packet).1
      unfold handleReconnectProof
      dsimp only
      split_ifs <;> exact ⟨rfl, rfl⟩
  | realmList =>
      show SameConnection session (handleRealmList session).1
      unfold handleRealmList
      split_ifs <;> exact ⟨rfl, rfl⟩
  | unknown => exact ⟨rfl, rfl⟩

/-- A packet which reaches its handler is one step of the session. -/
theorem dispatch_follows {packet : ClientPacket} {status : AuthStatus}
    (isOpen : reader.session.closed = false ∧ reader.session.reading = true)
    (required : packet.requiredStatus = some status)
    (right : ¬ reader.session.status ≠ status) (small : ¬ packet.tooLarge = true) :
    Follows environment reader.session (reader.dispatch environment packet).session := by
  apply Follows.one (.packet packet)
  show _ = Auth.readHandler environment reader.session packet
  unfold Auth.readHandler dispatch
  rw [isOpen.1, isOpen.2, required]
  simp only [Bool.not_true, Bool.or_self, Bool.false_eq_true, if_false, right, small]
  split <;> rfl

theorem closeSocket_follows {packet : ClientPacket} {status : AuthStatus}
    (isOpen : reader.session.closed = false ∧ reader.session.reading = true)
    (required : packet.requiredStatus = some status)
    (refused : reader.session.status ≠ status ∨ packet.tooLarge = true) :
    Follows environment reader.session reader.closeSocket.session := by
  apply Follows.one (.packet packet)
  show reader.session.close = Auth.readHandler environment reader.session packet
  unfold Auth.readHandler
  rw [isOpen.1, isOpen.2, required]
  rcases refused with wrong | large
  · simp [wrong]
  · by_cases wrong : reader.session.status = status
    · simp [wrong, large]
    · simp [wrong]

theorem handleNext_follows (inLoop : reader.OpenInLoop) :
    Follows environment reader.session (reader.handleNext environment time).session ∧
      (reader.handleNext environment time).OpenInLoop := by
  have closedLoop : ∀ next : AuthReader, next.handling = false → next.OpenInLoop :=
    fun next done running => absurd (done ▸ running) Bool.false_ne_true
  unfold handleNext
  split
  · exact ⟨.refl _, inLoop⟩
  case isFalse running =>
  have isOpen := inLoop (by simpa using running)
  split
  · exact ⟨.refl _, closedLoop _ rfl⟩
  dsimp only
  generalize packetAt reader.readBuffer time = packet
  cases required : packet.requiredStatus with
  | none => exact ⟨.refl _, closedLoop _ rfl⟩
  | some status =>
      dsimp only
      split
      case isTrue wrong =>
          exact ⟨closeSocket_follows isOpen required (.inl wrong), closedLoop _ rfl⟩
      case isFalse right =>
      split
      · exact ⟨.refl _, closedLoop _ rfl⟩
      split
      case isTrue large =>
          exact ⟨closeSocket_follows isOpen required (.inr large), closedLoop _ rfl⟩
      case isFalse small =>
      split
      · exact ⟨.refl _, closedLoop _ rfl⟩
      have follows : Follows environment reader.session
          (((reader.look 1).look packet.sizeReach).dispatch environment packet).session :=
        dispatch_follows isOpen required right small
      refine ⟨follows, ?_⟩
      unfold dispatch
      dsimp only
      split
      · intro _
        have same : SameConnection reader.session
            (handlePacket environment reader.session packet).1 :=
          handlePacket_connection reader.session packet
        exact ⟨same.closed.trans isOpen.1, same.reading.trans isOpen.2⟩
      · exact closedLoop _ rfl

theorem loop_follows (turns : List Nat) (inLoop : reader.OpenInLoop) :
    Follows environment reader.session (loop environment reader turns).session := by
  induction turns generalizing reader with
  | nil => exact .refl _
  | cons time rest induction =>
      have next : Follows environment reader.session
            (reader.handleNext environment time).session ∧
          (reader.handleNext environment time).OpenInLoop := handleNext_follows inLoop
      exact next.1.trans (induction next.2)

theorem step_follows (reader : AuthReader) (event : Event) :
    Follows environment reader.session (reader.step environment event).session := by
  cases event with
  | received bytes time =>
      show Follows environment reader.session (if _ then _ else _ : AuthReader).session
      split
      case isFalse => exact .refl _
      case isTrue receives =>
          simp only [AuthReader.receives, Bool.and_eq_true, Bool.not_eq_true'] at receives
          exact loop_follows ((reader.fill bytes).turns time)
            (fun _ => ⟨receives.1.1.2, receives.1.1.1⟩)
  | failed => exact .close _
  | callback outcome => exact .one (.callback outcome) rfl

/-- The bytes drive the session as a sequence of packets does. -/
theorem run_follows (events : List Event) (reader : AuthReader) :
    Follows environment reader.session (run (step environment) reader events).session := by
  induction events generalizing reader with
  | nil => exact .refl _
  | cons event rest induction => exact (step_follows reader event).trans (induction _)

end AuthReader

open AuthReader

/--
The reader looks at received bytes only, keeps its positions in order and comes
out of every loop, exactly when no challenge that it looks at is shorter than
`I_len` and no token longer than what was received.
-/
theorem reader_safe_iff (events : List Event) :
    Throughout (AuthReader.step environment) Safe start events ↔
      EveryStep (AuthReader.step environment) (Sufficient environment) start events :=
  throughout_safe_iff start_safe events

/-! ## A challenge of four bytes -/

/-- Command 0, no error, and a size field of zero. -/
def shortChallenge : Bytes := [0, 0, 0, 0]

/-- The connection waits for its first packet. -/
structure AwaitsFirst (reader : AuthReader) : Prop where
  readBuffer : reader.readBuffer = .ofSize defaultBufferSize
  reading : reader.session.reading = true
  isOpen : reader.session.closed = false
  connected : reader.session.status = .connected
  unsent : reader.session.sentChallenge = false

namespace AwaitsFirst

variable {reader : AuthReader} (awaits : AwaitsFirst reader)

include awaits

theorem space : shortChallenge.length ≤ reader.readBuffer.getRemainingSpace := by
  rw [awaits.readBuffer, MessageBuffer.ofSize_remaining]
  decide

theorem receives : reader.receives shortChallenge = true := by
  unfold AuthReader.receives
  rw [awaits.reading, awaits.isOpen, decide_eq_true awaits.space]
  rfl

theorem valid : (reader.readBuffer.write shortChallenge).Valid := by
  apply MessageBuffer.write_valid _ awaits.space
  rw [awaits.readBuffer]
  exact MessageBuffer.ofSize_valid _

theorem active :
    (reader.readBuffer.write shortChallenge).active = shortChallenge := by
  have space := awaits.space
  rw [awaits.readBuffer] at space ⊢
  rw [MessageBuffer.write_active (MessageBuffer.ofSize_valid _) space,
    MessageBuffer.ofSize_active]
  rfl

theorem packet :
    packetAt (reader.readBuffer.write shortChallenge) 0 =
        .logonChallenge (challengeAt (reader.readBuffer.write shortChallenge)) ∧
      (challengeAt (reader.readBuffer.write shortChallenge)).size = 0 := by
  have valid := awaits.valid
  have active := awaits.active
  generalize reader.readBuffer.write shortChallenge = buffer at valid active ⊢
  have command : buffer.byteAt 0 = 0 := by
    rw [MessageBuffer.byteAt_eq valid (by rw [active]; decide), active]
    rfl
  constructor
  · unfold packetAt
    rw [command]
    rfl
  · show setBinary (buffer.bytesAt 2 2) = 0
    rw [MessageBuffer.bytesAt_eq valid (by rw [active]; decide), active]
    rfl

/-- Four bytes have been received, and the handler looks at byte 33. -/
theorem not_sufficient :
    ¬ reader.Sufficient environment (.received shortChallenge 0) := by
  intro enough
  obtain ⟨which, size⟩ := awaits.packet
  have first := (enough awaits.receives).1
  have length : (reader.fill shortChallenge).enter.readBuffer.active.length = 4 :=
    congrArg List.length awaits.active
  have reached : 34 ≤ (reader.fill shortChallenge).enter.readBuffer.active.length := by
    have asked := first ?_
    · rw [show packetAt (reader.fill shortChallenge).enter.readBuffer 0 = _ from which]
        at asked
      exact asked awaits.unsent
    · rw [show packetAt (reader.fill shortChallenge).enter.readBuffer 0 = _ from which]
      refine ⟨rfl, ?_, ?_, ?_, ?_, ?_⟩
      · exact List.ne_nil_of_length_eq_add_one length
      · exact congrArg some awaits.connected.symm
      · rw [length]
        exact Nat.le_refl 4
      · unfold ClientPacket.tooLarge
        dsimp only
        rw [size]
        decide
      · unfold ClientPacket.fullSize
        dsimp only
        rw [length, size]
        decide
  omega

end AwaitsFirst

theorem shortChallenge_overruns :
    ¬ Throughout (AuthReader.step zeroHashEnvironment) Safe start
      [.callback (.ipInfo []), .received shortChallenge 0] := by
  intro all
  have steps := (throughout_safe_iff start_safe _).mp all
  simp only [everyStep_cons] at steps
  have awaits : AwaitsFirst
      (AuthReader.step zeroHashEnvironment start (.callback (.ipInfo []))) :=
    ⟨rfl, rfl, rfl, rfl, rfl⟩
  obtain ⟨_, second, _⟩ := steps
  apply awaits.not_sufficient zeroHashEnvironment
  assumption

end RealmServer.Auth
