import RealmServer.Sessions.WorldSession

/-!
# Every packet once, and in order

The invariant `Holding` speaks about a session while a run holds some packets
back.  The packets held back and those in the queue stay in the order in which
they came, and nothing gets lost between them and the history.  A packet that
was handled has left behind only those which its own run had set aside.
-/

namespace RealmServer.Sessions

open Network Transition

/-! ## What is promised -/

def SameStatus (opcodeTable : OpcodeTable) (first second : Received) : Prop :=
  (opcodeTable first.packet.opcode).status = (opcodeTable second.packet.opcode).status

/-- Among some entries of the history the filter of a run rejected a packet. -/
def SetAsideIn (entries : List Taken) (run : Nat) (received : Received) : Prop :=
  ∃ taken ∈ entries, taken.received = received ∧ taken.run = run ∧ taken.outcome = .setAside

theorem SetAsideIn.cons {entries : List Taken} {run : Nat} {received : Received}
    (aside : SetAsideIn entries run received) (taken : Taken) :
    SetAsideIn (taken :: entries) run received := by
  obtain ⟨entry, member, rest⟩ := aside
  exact ⟨entry, List.mem_cons_of_mem _ member, rest⟩

namespace WorldSession

def outcomes (session : WorldSession) (outcome : Outcome) : List Received :=
  (session.history.filter fun taken => taken.outcome = outcome).map Taken.received

/--
Packets with one status are handled in the order in which they came, but for
those that were set aside in the run which handled a later one.
-/
def HandledInOrder (opcodeTable : OpcodeTable) (session : WorldSession) : Prop :=
  ∀ later earlier, later :: earlier <:+ session.history → later.outcome = .handled →
    ∀ first before, first :: before <:+ earlier → first.outcome = .handled →
      SameStatus opcodeTable first.received later.received →
        later.received.number < first.received.number →
          SetAsideIn before first.run later.received

/-- What becomes of the packets of a session. -/
structure Orderly (opcodeTable : OpcodeTable) (session : WorldSession) : Prop where
  /-- Every accepted packet waits, was handled or was refused, once. -/
  kept : ((session.recvQueue ++ session.outcomes .handled ++ session.outcomes .refused).map
    Received.number).Perm (List.range session.accepted)
  /-- The queue is in the order in which the packets came. -/
  sorted : (session.recvQueue.map Received.number).Pairwise (· < ·)
  inOrder : HandledInOrder opcodeTable session

/-! ## The invariant -/

/-- Some packets are held back by a run. -/
structure Holding (opcodeTable : OpcodeTable) (held : List Received) (session : WorldSession) :
    Prop where
  kept : ((held ++ session.recvQueue ++ session.outcomes .handled ++
    session.outcomes .refused).map Received.number).Perm (List.range session.accepted)
  sorted : ((held ++ session.recvQueue).map Received.number).Pairwise (· < ·)
  inOrder : HandledInOrder opcodeTable session
  /-- Who was overtaken by a handled packet was set aside in its run. -/
  overtaken : ∀ first before, first :: before <:+ session.history → first.outcome = .handled →
    ∀ other ∈ held ++ session.recvQueue, SameStatus opcodeTable first.received other →
      other.number < first.received.number → SetAsideIn before first.run other
  /-- Packets are held back by the filter, or as there is no player. -/
  reason : ∀ received ∈ held, SetAsideIn session.history session.runs received ∨
    ((opcodeTable received.packet.opcode).status = .loggedIn ∧ session.player = none)

variable {opcodeTable : OpcodeTable} {held : List Received} {session : WorldSession}

theorem Holding.orderly (holding : Holding opcodeTable [] session) :
    Orderly opcodeTable session :=
  { holding with }

theorem number_lt_of_handled (holding : Holding opcodeTable held session) {taken : Taken}
    (member : taken ∈ session.history) (handled : taken.outcome = .handled) :
    taken.received.number < session.accepted := by
  rw [← List.mem_range, ← holding.kept.mem_iff]
  apply List.mem_map_of_mem
  apply List.mem_append_left
  apply List.mem_append_right
  exact List.mem_map_of_mem (List.mem_filter.mpr ⟨member, by simpa using handled⟩)

theorem number_lt_of_pending (holding : Holding opcodeTable held session) {received : Received}
    (pending : received ∈ held ++ session.recvQueue) : received.number < session.accepted := by
  rw [← List.mem_range, ← holding.kept.mem_iff]
  apply List.mem_map_of_mem
  exact List.mem_append_left _ (List.mem_append_left _ pending)

/-! ## Packets come in -/

/-- The player, the flags and the socket do not matter. -/
theorem Holding.change (holding : Holding opcodeTable held session) (socket socketOpen : Bool)
    (player : Option Bool) (flags : SessionFlags) (dropIncoming : Bool)
    (stays : session.player = none → player = none) :
    Holding opcodeTable held
      { session with socket, socketOpen, player, flags, dropIncoming } :=
  { holding with
    reason := fun received member => (holding.reason received member).imp_right
      fun noPlayer => ⟨noPlayer.1, stays noPlayer.2⟩ }

theorem perm_append_last (held queue handled refused : List Received) (received : Received) :
    (held ++ (queue ++ [received]) ++ handled ++ refused).Perm
      (held ++ queue ++ handled ++ refused ++ [received]) := by
  rw [← List.append_assoc held]
  simp only [List.append_assoc]
  refine List.Perm.append_left _ (List.Perm.append_left _ ?_)
  rw [← List.append_assoc handled]
  exact List.perm_append_comm

theorem Holding.add (holding : Holding opcodeTable held session) (packet : ClientPacket) :
    Holding opcodeTable held (session.add packet) := by
  obtain ⟨kept, sorted, inOrder, overtaken, reason⟩ := holding
  refine ⟨?_, ?_, inOrder, ?_, reason⟩
  · have numbers := (perm_append_last held session.recvQueue (session.outcomes .handled)
      (session.outcomes .refused) ⟨session.accepted, packet⟩).map Received.number
    have counted := kept.append_right [session.accepted]
    rw [← List.range_succ] at counted
    refine numbers.trans ?_
    rw [List.map_append]
    exact counted
  · unfold WorldSession.add
    rw [← List.append_assoc, List.map_append, List.pairwise_append]
    refine ⟨sorted, List.pairwise_singleton _ _, fun number member new isNew => ?_⟩
    obtain ⟨received, pending, rfl⟩ := List.mem_map.mp member
    rw [List.mem_singleton.mp isNew]
    exact number_lt_of_pending ⟨kept, sorted, inOrder, overtaken, reason⟩ pending
  · intro first before suffix handled other pending same older
    unfold WorldSession.add at pending
    rw [← List.append_assoc] at pending
    rcases List.mem_append.mp pending with old | new
    · exact overtaken first before suffix handled other old same older
    · rw [List.mem_singleton.mp new] at older
      have known := number_lt_of_handled ⟨kept, sorted, inOrder, overtaken, reason⟩
        (suffix.subset (List.mem_cons_self ..)) handled
      exact absurd known (not_lt.mpr older.le)

theorem Holding.queuePacket (holding : Holding opcodeTable held session) (antiflood : Antiflood)
    (packet : ClientPacket) :
    Holding opcodeTable held (session.queuePacket antiflood packet) := by
  have switched : Holding opcodeTable held (session.switchDrop antiflood).2 := by
    unfold switchDrop
    split_ifs
    · exact holding.change _ _ _ _ _ id
    · exact holding
    · exact holding.change _ _ _ _ _ id
    · exact holding
    · exact holding
  unfold WorldSession.queuePacket
  dsimp only
  split_ifs
  · exact switched
  · exact switched
  · exact switched.add packet

theorem Holding.arrivals (holding : Holding opcodeTable held session) (antiflood : Antiflood)
    (packets : List ClientPacket) :
    Holding opcodeTable held (packets.foldl (WorldSession.queuePacket antiflood) session) := by
  induction packets generalizing session with
  | nil => exact holding
  | cons first rest induction => exact induction (holding.queuePacket antiflood first)

/-! ## A packet is taken -/

/-- What the `switch` over the status does with a packet. -/
structure Dispatched (opcodeTable : OpcodeTable) (session : WorldSession) (packet : ClientPacket)
    (result : WorldSession × Outcome) : Prop where
  changed : ∃ player flags socketOpen, result.1 = { session with player, flags, socketOpen } ∧
    (session.player = none → player = none)
  passed : result.2 ≠ .setAside
  reAdded : result.2 = .reAdded →
    (opcodeTable packet.opcode).status = .loggedIn ∧ session.player = none
  handled : result.2 = .handled →
    (opcodeTable packet.opcode).status = .loggedIn → session.player ≠ none

theorem kickPlayer_eq (session : WorldSession) :
    ∃ socketOpen, session.kickPlayer = { session with socketOpen } := by
  unfold kickPlayer
  split_ifs
  · exact ⟨false, rfl⟩
  · exact ⟨session.socketOpen, rfl⟩

theorem Dispatched.refused (packet : ClientPacket) :
    Dispatched opcodeTable session packet (session, .refused) :=
  ⟨⟨session.player, session.flags, session.socketOpen, rfl, id⟩, by simp, by simp, by simp⟩

theorem Dispatched.runHandler {packet : ClientPacket} (handling : Handling)
    (flags : SessionFlags)
    (hasPlayer : (opcodeTable packet.opcode).status = .loggedIn → session.player ≠ none) :
    Dispatched opcodeTable session packet
      ({ session with flags }.runHandler handling) := by
  refine ⟨?_, by simp [WorldSession.runHandler], by simp [WorldSession.runHandler],
    fun _ => hasPlayer⟩
  have stays : session.player = none → session.player.bind handling.player = none := by
    intro noPlayer
    rw [noPlayer]
    rfl
  unfold WorldSession.runHandler
  dsimp only
  split_ifs
  · obtain ⟨socketOpen, isKicked⟩ := kickPlayer_eq { session with
      player := session.player.bind handling.player
      flags := handling.flags flags }
    exact ⟨_, _, socketOpen, isKicked, stays⟩
  · exact ⟨_, _, session.socketOpen, rfl, stays⟩

theorem dispatched_handlePacket (handling : Handling) (session : WorldSession)
    (packet : ClientPacket) :
    Dispatched opcodeTable session packet
      (session.handlePacket opcodeTable handling packet) := by
  unfold handlePacket
  cases status : (opcodeTable packet.opcode).status with
  | loggedIn =>
      dsimp only
      cases isPlayer : session.player with
      | none =>
          refine ⟨⟨session.player, session.flags, session.socketOpen, rfl, id⟩, ?_, ?_, ?_⟩
          · dsimp only
            split_ifs <;> simp
          · exact fun _ => ⟨status, isPlayer⟩
          · dsimp only
            split_ifs <;> simp
      | some inWorld =>
          dsimp only
          split_ifs
          · exact .runHandler handling session.flags fun _ => by rw [isPlayer]; simp
          · exact .refused packet
  | loggedInOrRecentlyLoggout =>
      dsimp only
      split_ifs
      · exact .refused packet
      · exact .runHandler handling session.flags fun other => by simp [status] at other
  | transfer =>
      dsimp only
      cases session.player with
      | none => exact .refused packet
      | some inWorld =>
          dsimp only
          split_ifs
          · exact .refused packet
          · exact .runHandler handling session.flags fun other => by simp [status] at other
  | authed =>
      dsimp only
      split_ifs
      · exact .refused packet
      · exact .runHandler handling _ fun other => by simp [status] at other
      · exact .runHandler handling session.flags fun other => by simp [status] at other
  | never =>
      obtain ⟨socketOpen, isKicked⟩ := kickPlayer_eq session
      exact ⟨⟨session.player, session.flags, socketOpen, isKicked, id⟩, by simp, by simp,
        by simp⟩
  | unhandled => exact .refused packet

/-- The packet is not handled, but held back or refused. -/
theorem Holding.recordKept (holding : Holding opcodeTable held session) {received : Received}
    {rest : List Received} (next : session.recvQueue = received :: rest) (filter : Filter)
    {outcome : Outcome} (waits : outcome = .setAside ∨
      (outcome = .reAdded ∧ (opcodeTable received.packet.opcode).status = .loggedIn ∧
        session.player = none)) :
    Holding opcodeTable (held ++ [received])
      ({ session with recvQueue := rest }.record filter received outcome) := by
  obtain ⟨kept, sorted, inOrder, overtaken, reason⟩ := holding
  have same : held ++ [received] ++ rest = held ++ session.recvQueue := by
    rw [next, List.append_assoc, List.singleton_append]
  have unhandled : outcome ≠ .handled := by
    rcases waits with rfl | ⟨rfl, -⟩ <;> decide
  have unrefused : outcome ≠ .refused := by
    rcases waits with rfl | ⟨rfl, -⟩ <;> decide
  have outcomesSame : ∀ other, outcome ≠ other →
      ({ session with recvQueue := rest }.record filter received outcome).outcomes other =
        session.outcomes other := by
    intro other differs
    unfold outcomes record
    rw [List.filter_cons_of_neg (by simpa using differs)]
  refine ⟨?_, ?_, ?_, ?_, ?_⟩
  · rw [outcomesSame _ unhandled, outcomesSame _ unrefused]
    exact same ▸ kept
  · exact same ▸ sorted
  · intro later earlier suffix handled
    rcases List.suffix_cons_iff.mp suffix with isNew | old
    · obtain ⟨rfl, rfl⟩ := List.cons.inj isNew
      exact absurd handled unhandled
    · exact inOrder later earlier old handled
  · intro first before suffix handled other pending
    rcases List.suffix_cons_iff.mp suffix with isNew | old
    · obtain ⟨rfl, rfl⟩ := List.cons.inj isNew
      exact absurd handled unhandled
    · exact overtaken first before old handled other (same ▸ pending)
  · intro other member
    rcases List.mem_append.mp member with old | new
    · exact (reason other old).imp_left fun aside => aside.cons _
    · rw [List.mem_singleton.mp new]
      rcases waits with isAside | ⟨-, noPlayer⟩
      · exact .inl ⟨_, List.mem_cons_self .., rfl, rfl, isAside⟩
      · exact .inr noPlayer

/-- The packet is refused, or handled although nothing was held back for lack of a player. -/
theorem Holding.recordDone (holding : Holding opcodeTable held session) {received : Received}
    {rest : List Received} (next : session.recvQueue = received :: rest) (filter : Filter)
    {outcome : Outcome} (done : outcome = .refused ∨ (outcome = .handled ∧
      ((opcodeTable received.packet.opcode).status = .loggedIn → session.player ≠ none))) :
    Holding opcodeTable held
      ({ session with recvQueue := rest }.record filter received outcome) := by
  obtain ⟨kept, sorted, inOrder, overtaken, reason⟩ := holding
  rw [next] at kept sorted overtaken
  have fewer : (held ++ rest).Sublist (held ++ received :: rest) :=
    List.Sublist.append_left (List.sublist_cons_self ..) _
  have moved : ∀ handled refused : List Received,
      (held ++ rest ++ handled ++ received :: refused).Perm
          (held ++ received :: rest ++ handled ++ refused) ∧
        (held ++ rest ++ received :: handled ++ refused).Perm
          (held ++ received :: rest ++ handled ++ refused) := by
    intro handled refused
    have front : (received :: (held ++ rest ++ handled ++ refused)).Perm
        (held ++ received :: rest ++ handled ++ refused) := by
      rw [← List.cons_append, ← List.cons_append]
      exact (List.perm_middle.symm.append_right _).append_right _
    refine ⟨List.perm_middle.trans front, ?_⟩
    refine List.Perm.trans ?_ front
    rw [← List.cons_append]
    exact List.perm_middle.append_right _
  refine ⟨?_, sorted.sublist (fewer.map _), ?_, ?_, ?_⟩
  · rcases done with rfl | ⟨rfl, -⟩
    · exact ((moved _ _).1.map _).trans kept
    · exact ((moved _ _).2.map _).trans kept
  · intro later earlier suffix handled
    rcases List.suffix_cons_iff.mp suffix with isNew | old
    · obtain ⟨rfl, rfl⟩ := List.cons.inj isNew
      intro first before isBefore isHandled same older
      exact overtaken first before isBefore isHandled received
        (List.mem_append_right _ (List.mem_cons_self ..)) same older
    · exact inOrder later earlier old handled
  · intro first before suffix handled other pending same older
    rcases List.suffix_cons_iff.mp suffix with isNew | old
    · obtain ⟨rfl, rfl⟩ := List.cons.inj isNew
      -- the queue is sorted, so the other one is held back
      have isHeld : other ∈ held := by
        rcases List.mem_append.mp pending with isHeld | waits
        · exact isHeld
        · rw [List.map_append, List.map_cons, List.pairwise_append, List.pairwise_cons] at sorted
          have behind := sorted.2.1.1 other.number (List.mem_map_of_mem waits)
          exact absurd older (not_lt.mpr behind.le)
      rcases reason other isHeld with aside | ⟨loggedIn, noPlayer⟩
      · exact aside
      · rcases done with isRefused | ⟨-, hasPlayer⟩
        · exact absurd (handled.symm.trans isRefused) (by decide)
        · exact absurd noPlayer (hasPlayer (same.trans loggedIn))
    · exact overtaken first before old handled other (fewer.subset pending) same older
  · intro other member
    exact (reason other member).imp_left fun aside => aside.cons _

/-- One round. -/
theorem Holding.takePacket (holding : Holding opcodeTable held session) {received : Received}
    {rest : List Received} (next : session.recvQueue = received :: rest) (filter : Filter)
    (handling : Handling) :
    let (session, requeued) := { session with recvQueue := rest }.takePacket opcodeTable filter
      handling received
    Holding opcodeTable (if requeued then held ++ [received] else held) session := by
  unfold WorldSession.takePacket
  split_ifs with passes
  swap
  · exact holding.recordKept next filter (.inl rfl)
  have dispatched : Dispatched opcodeTable { session with recvQueue := rest } received.packet
      (handlePacket opcodeTable handling { session with recvQueue := rest } received.packet) :=
    dispatched_handlePacket handling _ _
  generalize handlePacket opcodeTable handling { session with recvQueue := rest }
    received.packet = result at dispatched ⊢
  obtain ⟨after, outcome⟩ := result
  obtain ⟨⟨player, flags, socketOpen, rfl, stays⟩, passed, reAdded, handled⟩ := dispatched
  dsimp only at reAdded handled passed stays ⊢
  cases outcome with
  | setAside => exact absurd rfl passed
  | reAdded =>
      have waits := holding.recordKept next filter (.inr ⟨rfl, reAdded rfl⟩)
      exact waits.change _ _ _ _ _ stays
  | refused =>
      have done := holding.recordDone next filter (.inl rfl)
      exact done.change _ _ _ _ _ stays
  | handled =>
      have done := holding.recordDone next filter (.inr ⟨rfl, handled rfl⟩)
      exact done.change _ _ _ _ _ stays

/-! ## Runs -/

theorem Holding.handleRounds (holding : Holding opcodeTable held session)
    (antiflood : Antiflood) (filter : Filter) (rounds : Nat → Round) (handled round : Nat) :
    let (session, requeuePackets) :=
      WorldSession.handleRounds opcodeTable antiflood filter rounds handled round session held
    Holding opcodeTable requeuePackets session := by
  induction handled generalizing held session round with
  | zero => exact holding
  | succ handled induction =>
      unfold WorldSession.handleRounds
      split_ifs
      · exact holding
      have arrived := holding.arrivals antiflood (rounds round).arrivals
      dsimp only
      split
      · exact arrived
      · rename_i received rest next
        have taken := arrived.takePacket next filter (rounds round).handling
        exact induction taken (round + 1)

theorem Holding.handlePackets (holding : Holding opcodeTable [] session) (antiflood : Antiflood)
    (filter : Filter) (rounds : Nat → Round) (atEnd : List ClientPacket) :
    Holding opcodeTable []
      (session.handlePackets opcodeTable antiflood filter rounds atEnd) := by
  unfold WorldSession.handlePackets
  have rounded := holding.handleRounds antiflood filter rounds
    (if antiflood.active then antiflood.maxProcess else 2 ^ 32 - 1) 0
  dsimp only
  generalize WorldSession.handleRounds opcodeTable antiflood filter rounds
    (if antiflood.active then antiflood.maxProcess else 2 ^ 32 - 1) 0 session [] = result
      at rounded ⊢
  obtain ⟨after, requeuePackets⟩ := result
  have ended := Holding.arrivals rounded antiflood atEnd
  exact { ended with reason := fun received member => absurd member List.not_mem_nil }

theorem holding_step (holding : Holding opcodeTable [] session) (event : Event) :
    Holding opcodeTable [] (session.step opcodeTable event) := by
  have anyChange : ∀ socket socketOpen player flags, Holding opcodeTable []
      { session with socket, socketOpen, player, flags } := fun _ _ _ _ =>
    { holding with reason := fun received member => absurd member List.not_mem_nil }
  cases event with
  | queuePacket antiflood packet => exact holding.queuePacket antiflood packet
  | handlePackets antiflood filter rounds atEnd =>
      exact holding.handlePackets antiflood filter rounds atEnd
  | changePlayer player flags => exact anyChange _ _ _ _
  | closeSocket => exact anyChange _ _ _ _
  | dropSocket =>
      unfold step
      dsimp only
      split_ifs
      · exact anyChange _ _ _ _
      · exact holding

theorem holding_start (session : WorldSession) : Holding opcodeTable [] session.start := by
  have nothing : ∀ {taken : Taken} {entries : List Taken},
      ¬taken :: entries <:+ session.start.history :=
    fun suffix => absurd (List.suffix_nil.mp suffix) (List.cons_ne_nil _ _)
  exact ⟨List.Perm.refl _, List.Pairwise.nil, fun _ _ suffix => absurd suffix nothing,
    fun _ _ suffix => absurd suffix nothing, fun _ member => absurd member List.not_mem_nil⟩

/--
Whatever the filters, the limits and the handlers do: every packet that was
accepted waits, was handled or was refused, and packets overtake only those
which the filter of their run has set aside.
-/
theorem orderly_throughout (opcodeTable : OpcodeTable) (session : WorldSession)
    (events : List Event) :
    Throughout (step opcodeTable) (Orderly opcodeTable) session.start events := by
  have unconditional : EveryStep (step opcodeTable) (fun _ _ => True) session.start events :=
    everyStep_iff_forall.mpr fun _ _ => trivial
  have holds : Throughout (step opcodeTable) (Holding opcodeTable []) session.start events :=
    throughout_of_invariant (fun _ event holding _ => holding_step holding event)
      (holding_start session) unconditional
  exact holds.mono fun _ holding => holding.orderly

/-! ## A logout between two requests -/

/-- What the promise would be without the filters. -/
def HandledAsReceived (opcodeTable : OpcodeTable) (session : WorldSession) : Prop :=
  ∀ later earlier, later :: earlier <:+ session.history → later.outcome = .handled →
    ∀ first ∈ earlier, first.outcome = .handled → first.filter = later.filter →
      SameStatus opcodeTable first.received later.received →
        first.received.number < later.received.number

/-- The entries of the opcodes below. -/
def someOpcodes (opcode : Nat) : OpcodeHandler :=
  if opcode = cmsgRequestAccountData then ⟨.authed, .threadSafeMap⟩
  else if opcode = cmsgLogoutRequest then ⟨.loggedIn, .threadUnsafe⟩
  else ⟨.never, .inplace⟩

/-- In the world, with nothing in the queue. -/
def inGame : WorldSession where
  socket := true
  socketOpen := true
  player := some true
  flags := ⟨false, false, false, false⟩
  dropIncoming := false
  recvQueue := []
  accepted := 0
  runs := 0
  history := []

/-- The second packet logs the player out at once. -/
def logoutRound (round : Nat) : Round where
  arrivals := []
  handling := {
    player := fun inWorld => if round = 1 then none else some inWorld
    flags := fun flags => { flags with
      playerRecentlyLogout := flags.playerRecentlyLogout || round == 1 }
    throws := false }

def fewPackets : Antiflood := ⟨true, 10, 1000, 100⟩

/-- The first request comes while the player is in the world, the other one is read after him. -/
def logoutBetweenRequests : List Event :=
  [.queuePacket fewPackets ⟨cmsgRequestAccountData, []⟩,
    .queuePacket fewPackets ⟨cmsgLogoutRequest, []⟩,
    .queuePacket fewPackets ⟨cmsgRequestAccountData, []⟩,
    .handlePackets fewPackets .world logoutRound [],
    .handlePackets fewPackets .world (fun _ => logoutRound 0) []]

theorem requests_not_handledAsReceived :
    ¬Throughout (step someOpcodes) (HandledAsReceived someOpcodes) inGame.start
      logoutBetweenRequests := by
  intro ordered
  have history : (run (step someOpcodes) inGame.start logoutBetweenRequests).history =
      [⟨1, .world, ⟨0, ⟨cmsgRequestAccountData, []⟩⟩, .handled⟩,
        ⟨0, .world, ⟨2, ⟨cmsgRequestAccountData, []⟩⟩, .handled⟩,
        ⟨0, .world, ⟨1, ⟨cmsgLogoutRequest, []⟩⟩, .handled⟩,
        ⟨0, .world, ⟨0, ⟨cmsgRequestAccountData, []⟩⟩, .setAside⟩] := by
    decide
  have last := ordered.last
  unfold HandledAsReceived at last
  rw [history] at last
  exact absurd (last _ _ (List.suffix_refl _) rfl _ (List.mem_cons_self ..) rfl rfl rfl)
    (by decide)

end WorldSession

end RealmServer.Sessions
