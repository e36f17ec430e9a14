import NexusComms.Signaling.Turns

/-! Who is seated where, in every state of every run: the metas are those of the connected
sockets, only connected sockets are in rooms, and every socket remembers calls and users that
exist.
-/

namespace NexusComms.Signaling

open Concurrency Storage

namespace Seats

/-- The metas are those of the connected sockets, and only they are in rooms. -/
structure Tidy (seats : Seats) : Prop where
  known (socketId : SocketId)
    : seats.connected socketId ↔ (seats.sockets.lookup socketId).isSome
  inside {room : Text} {socketId : SocketId} (member : (room, socketId) ∈ seats.rooms)
    : seats.connected socketId

section Connected

variable {seats : Seats} {socketId other : SocketId}

@[simp]
theorem updateMeta_connected (change : SocketMeta → SocketMeta)
    : (seats.updateMeta socketId change).connected other ↔ seats.connected other := by
  simp [connected]

@[simp]
theorem setCallId_connected (callId : Option Text)
    : (seats.setCallId socketId callId).connected other ↔ seats.connected other :=
  updateMeta_connected _

@[simp]
theorem setRoomId_connected (roomId : Text)
    : (seats.setRoomId socketId roomId).connected other ↔ seats.connected other :=
  updateMeta_connected _

/-- A room that a connected socket enters connects nobody else. -/
theorem join_connected (present : seats.connected socketId) (room : Text)
    : (seats.join room socketId).connected other ↔ seats.connected other := by
  simp only [connected, join, List.mem_insert_iff, Prod.mk.injEq, or_iff_right_iff_imp]
  rintro ⟨_, same⟩
  exact same ▸ present

/-- Who leaves another room than its own stays connected. -/
theorem leave_connected {room : Text} (apart : room ≠ .socket socketId)
    : (seats.leave room socketId).connected other ↔ seats.connected other := by
  simp only [connected, leave, List.mem_filter, decide_eq_true_eq, and_iff_left_iff_imp]
  intro _ same
  obtain ⟨named, rfl⟩ := Prod.mk.inj same
  exact apart named.symm

theorem leaveAll_connected
    : (seats.leaveAll socketId).connected other
      ↔ seats.connected other ∧ other ≠ socketId := by
  simp [connected, leaveAll]

theorem socketsJoin_connected (tidy : seats.Tidy) (source room : Text)
    : (seats.socketsJoin source room).connected other ↔ seats.connected other := by
  simp only [connected, mem_socketsJoin, or_iff_left_iff_imp]
  exact fun entered => tidy.inside entered.2

@[simp]
theorem forget_connected (known : SocketMeta)
    : (seats.forget socketId known).connected other ↔ seats.connected other := by
  simp [connected]

@[simp]
theorem openRoom_connected (roomId : Text)
    : (seats.openRoom roomId).connected other ↔ seats.connected other := by
  simp [connected]

end Connected

namespace Tidy

variable {seats : Seats} {socketId : SocketId}

theorem updateMeta (tidy : seats.Tidy) (change : SocketMeta → SocketMeta)
    : (seats.updateMeta socketId change).Tidy where
  known other := by
    rw [updateMeta_connected, updateMeta_isSome]
    exact tidy.known other
  inside member := by
    rw [updateMeta_rooms] at member
    exact (updateMeta_connected change).mpr (tidy.inside member)

theorem join (tidy : seats.Tidy) (present : seats.connected socketId) (room : Text)
    : (seats.join room socketId).Tidy where
  known other := (join_connected present room).trans (tidy.known other)
  inside member := by
    rw [join_connected present room]
    rcases List.mem_insert_iff.mp member with same | earlier
    · exact (Prod.mk.inj same).2 ▸ present
    · exact tidy.inside earlier

theorem leave (tidy : seats.Tidy) {room : Text} (apart : room ≠ .socket socketId)
    : (seats.leave room socketId).Tidy where
  known other := (leave_connected apart).trans (tidy.known other)
  inside member := (leave_connected apart).mpr (tidy.inside (List.mem_filter.mp member).1)

theorem socketsJoin (tidy : seats.Tidy) (source room : Text)
    : (seats.socketsJoin source room).Tidy where
  known other := by
    rw [socketsJoin_connected tidy, socketsJoin_sockets]
    exact tidy.known other
  inside member := by
    rw [socketsJoin_connected tidy]
    rcases mem_socketsJoin seats |>.mp member with earlier | ⟨_, entered⟩
    · exact tidy.inside earlier
    · exact tidy.inside entered

theorem openRoom (tidy : seats.Tidy) (roomId : Text) : (seats.openRoom roomId).Tidy where
  known other := by
    rw [openRoom_connected, openRoom_sockets]
    exact tidy.known other
  inside member := by
    rw [openRoom_rooms] at member
    exact (openRoom_connected roomId).mpr (tidy.inside member)

/-- A socket that leaves all rooms and is forgotten leaves tidy seats behind. -/
theorem forget (tidy : seats.Tidy) (known : SocketMeta)
    : ((seats.leaveAll socketId).forget socketId known).Tidy where
  known other := by
    rw [forget_connected, leaveAll_connected, forget_sockets]
    by_cases same : other = socketId
    · subst same
      simp
    · rw [AList.lookup_erase_ne same, tidy.known other]
      exact and_iff_left same
  inside member := by
    rw [forget_rooms] at member
    obtain ⟨earlier, stays⟩ := List.mem_filter.mp member
    rw [forget_connected, leaveAll_connected]
    exact ⟨tidy.inside earlier, by simpa using stays⟩

/-- A new socket gets its room and its meta. -/
theorem connect (tidy : seats.Tidy) (known : SocketMeta)
    : ({
        seats.join (.socket socketId) socketId with
        sockets := seats.sockets.insert socketId known
      } : Seats).Tidy where
  known other := by
    by_cases same : other = socketId
    · subst same
      simp [connected, Seats.join]
    · rw [AList.lookup_insert_ne same, ← tidy.known other]
      simp [connected, Seats.join, same]
  inside {room other} member := by
    rcases List.mem_insert_iff.mp member with same | earlier
    · rw [(Prod.mk.inj same).2]
      exact List.mem_insert_self
    · exact List.mem_insert_of_mem (tidy.inside earlier)

end Tidy

end Seats

section Handlers

variable {gateway : Gateway} {event : Event} {outcome : Outcome}

/-- A known socket is connected. -/
theorem Seats.Tidy.knows (tidy : gateway.seats.Tidy) {socketId : SocketId}
    : gateway.knows socketId = true ↔ gateway.seats.connected socketId :=
  (tidy.known socketId).symm

/-- The disconnect of a connected socket with a sound call does not fail. -/
theorem Seats.Tidy.unbroken (tidy : gateway.seats.Tidy) {socketId : SocketId}
    (connected : gateway.seats.connected socketId)
    (calls : ∀ {callId}, gateway.seats.callOf socketId = some callId → callId.cast.isSome)
    (broken
      : gateway.sockets.lookup socketId = none
        ∨ ∃ callId, gateway.callOf socketId = some callId ∧ callId.cast = none)
    : False := by
  rcases broken with absent | ⟨callId, remembered, cast⟩
  · have known := (tidy.known socketId).mp connected
    rw [seats_sockets, absent] at known
    cases known
  · have named := calls (Option.filter_eq_some_iff.mp remembered).1
    rw [cast] at named
    cases named

/-- The handlers keep the seats tidy, as long as no disconnect fails. -/
theorem Turn.tidy (turn : Turn gateway event outcome) (tidy : gateway.seats.Tidy)
    (present
      : ∀ {socketId}, event.sender = some socketId → gateway.seats.connected socketId)
    (calls
      : ∀ {socketId callId}, gateway.seats.callOf socketId = some callId → callId.cast.isSome)
    : outcome.gateway.seats.Tidy := by
  cases turn with
  | quiet _ _ same => exact same ▸ tidy
  | connected seats => exact seats ▸ tidy.connect _
  | dropped broken _ => exact (tidy.unbroken (present rfl) calls broken).elim
  | gone found seats => exact seats ▸ tidy.forget _
  | initiated found _ seats =>
      rw [seats]
      refine Seats.Tidy.join (tidy.updateMeta _) ?_ _
      exact (Seats.setCallId_connected _).mpr (present rfl)
  | accepted found _ _ seats =>
      rw [seats]
      refine Seats.Tidy.join (tidy.updateMeta _) ?_ _
      exact (Seats.setCallId_connected _).mpr (present rfl)
  | ended found named _ seats =>
      rw [seats]
      refine Seats.Tidy.updateMeta (tidy.leave ?_) _
      rintro rfl
      cases named
  | paired a b _ seats =>
      exact seats ▸ (((tidy.socketsJoin _ _).socketsJoin _ _).updateMeta _).updateMeta _
  | seated found _ seats =>
      rw [seats]
      refine Seats.Tidy.join ((tidy.openRoom _).updateMeta _) ?_ _
      rw [Seats.updateMeta_connected, Seats.openRoom_connected]
      exact present rfl
  | opened _ _ seats =>
      rw [seats]
      exact ⟨tidy.known, tidy.inside⟩

/-- A handler connects and disconnects nobody but the socket of its event. -/
theorem Turn.connected_iff (turn : Turn gateway event outcome) (tidy : gateway.seats.Tidy)
    (present
      : ∀ {socketId}, event.sender = some socketId → gateway.seats.connected socketId)
    {socketId : SocketId}
    : outcome.gateway.seats.connected socketId
      ↔ (∃ userId anonymousId, event = .connect socketId userId anonymousId)
        ∨ gateway.seats.connected socketId ∧ event ≠ .disconnect socketId := by
  have moved (stays : event.moves = false)
      : ((∃ userId anonymousId, event = .connect socketId userId anonymousId)
          ∨ gateway.seats.connected socketId ∧ event ≠ .disconnect socketId)
        ↔ gateway.seats.connected socketId := by
    constructor
    · rintro (⟨userId, anonymousId, rfl⟩ | ⟨here, _⟩)
      · cases stays
      · exact here
    · intro here
      refine .inr ⟨here, ?_⟩
      rintro rfl
      cases stays
  cases turn with
  | quiet stays _ same => rw [same, moved stays]
  | @connected other userId anonymousId _ seats =>
      rw [seats]
      simp [Seats.connected, Seats.join, eq_comm]
  | dropped _ seats =>
      rw [seats, Seats.leaveAll_connected]
      simp [eq_comm]
  | gone _ seats =>
      rw [seats, Seats.forget_connected, Seats.leaveAll_connected]
      simp [eq_comm]
  | initiated _ _ seats =>
      rw [seats, moved rfl]
      refine (Seats.join_connected ?_ _).trans (Seats.setCallId_connected _)
      exact (Seats.setCallId_connected _).mpr (present rfl)
  | accepted _ _ _ seats =>
      rw [seats, moved rfl]
      refine (Seats.join_connected ?_ _).trans (Seats.setCallId_connected _)
      exact (Seats.setCallId_connected _).mpr (present rfl)
  | ended _ named _ seats =>
      rw [seats, moved rfl, Seats.setCallId_connected]
      refine Seats.leave_connected ?_
      rintro rfl
      cases named
  | paired a b _ seats =>
      rw [seats, moved rfl, Seats.setCallId_connected, Seats.setCallId_connected,
        Seats.socketsJoin_connected (tidy.socketsJoin _ _), Seats.socketsJoin_connected tidy]
  | @seated sender roomId _ _ _ seats =>
      have sits : ((gateway.seats.openRoom roomId).setRoomId sender roomId).connected sender := by
        rw [Seats.setRoomId_connected, Seats.openRoom_connected]
        exact present rfl
      rw [seats, moved rfl, Seats.join_connected sits, Seats.setRoomId_connected,
        Seats.openRoom_connected]
  | opened _ _ seats =>
      rw [seats, moved rfl]
      exact Iff.rfl

end Handlers

/-- What holds in every state of every run: the seats are tidy, a socket id that is connected
has been opened, and whoever is known remembers a call and a user that exist. -/
structure Seated (world : World) : Prop where
  tidy : world.gateway.seats.Tidy
  opened {socketId : SocketId} (connected : world.gateway.seats.connected socketId)
    : socketId ∈ world.opened
  called {socketId : SocketId} {callId : Text}
    (remembered : world.gateway.seats.callOf socketId = some callId)
    : ∃ id, callId.cast = some id ∧ (world.session id).isSome
  registered {socketId : SocketId} {userId : Uuid}
    (user : world.gateway.userOf socketId = some userId)
    : world.gateway.db.references (some userId) = true

/-- Nobody is seated at the start. -/
theorem seated_start : Seated World.start where
  tidy := {
    known := by simp [World.start, Gateway.empty, Seats.connected]
    inside := by simp [World.start, Gateway.empty]
  }
  opened := by simp [World.start, Gateway.empty, Seats.connected]
  called := by simp [World.start, Gateway.empty, Seats.callOf]
  registered := by simp [World.start, Gateway.empty, Gateway.userOf]

namespace Seated

variable {runtime : Runtime} {world : World} {stimulus : Stimulus}

/-- The sender of an event is connected. -/
theorem present (admitted : world.admits stimulus = true) {socketId : SocketId}
    (sent : stimulus.event.sender = some socketId)
    : world.gateway.seats.connected socketId :=
  Gateway.connected_iff.mp (sender_connected admitted sent)

/-- A remembered call is named by a UUID. -/
theorem named (seated : Seated world) {socketId : SocketId} {callId : Text}
    (remembered : world.gateway.seats.callOf socketId = some callId)
    : callId.cast.isSome := by
  obtain ⟨id, cast, _⟩ := seated.called remembered
  rw [cast]
  rfl

/-- Only connects and disconnects change who is connected. -/
theorem connected_iff (seated : Seated world) (admitted : world.admits stimulus = true)
    {socketId : SocketId}
    : (world.after runtime stimulus).gateway.seats.connected socketId
      ↔ (∃ userId anonymousId, stimulus.event = .connect socketId userId anonymousId)
        ∨ world.gateway.seats.connected socketId ∧ stimulus.event ≠ .disconnect socketId :=
  (handle_turn runtime stimulus.now world.gateway stimulus.event).connected_iff seated.tidy
    (present admitted)

/-- Every step keeps everybody seated. -/
theorem step (seated : Seated world) (admitted : world.admits stimulus = true)
    : Seated (world.after runtime stimulus) where
  tidy :=
    (handle_turn runtime stimulus.now world.gateway stimulus.event).tidy seated.tidy
      (present admitted) seated.named
  opened {socketId} connected := by
    change socketId ∈ stimulus.event.opens ++ world.opened
    rcases (seated.connected_iff admitted).mp connected with
      ⟨userId, anonymousId, sent⟩ | ⟨before, _⟩
    · simp [sent, Event.opens]
    · exact List.mem_append_right _ (seated.opened before)
  called {socketId callId} remembered := by
    have handled := handle_handled runtime stimulus.now world.gateway stimulus.event
    obtain ⟨known, found, call⟩ := Option.bind_eq_some_iff.mp remembered
    rcases handled.calls found call with
      ⟨earlier, there, same⟩ | ⟨id, rfl, _, created, _⟩ | ⟨data, reply, sent, rfl, replied⟩
    · obtain ⟨id, cast, present⟩ := seated.called (Option.bind_eq_some_iff.mpr ⟨_, there, same⟩)
      exact ⟨id, cast, session_stays present⟩
    · exact ⟨id, rfl, created⟩
    · rw [sent] at replied
      obtain ⟨_, id, accepted⟩ := accept_ok replied
      exact ⟨id, accepted.cast, session_stays accepted.found⟩
  registered {socketId userId} user := by
    have handled := handle_handled runtime stimulus.now world.gateway stimulus.event
    obtain ⟨known, found, registered⟩ := Option.bind_eq_some_iff.mp user
    rcases handled.users found with ⟨earlier, there, same⟩ | ⟨anonymousId, sent⟩
    · exact handled.references
        (seated.registered (Option.bind_eq_some_iff.mpr ⟨_, there, same.trans registered⟩))
    · rw [registered] at sent
      exact handled.references (connect_admitted admitted sent).2

variable (runtime) in
/-- The disconnect of a socket finds its meta and ends with forgetting it. -/
theorem disconnected (seated : Seated world) (admitted : world.admits stimulus = true)
    {socketId : SocketId} (sent : stimulus.event = .disconnect socketId)
    : ∃ known,
        world.gateway.sockets.lookup socketId = some known
        ∧ (world.after runtime stimulus).gateway.seats
          = (world.gateway.seats.leaveAll socketId).forget socketId known := by
  have sends : stimulus.event.sender = some socketId := by rw [sent]; rfl
  have connected := present admitted sends
  have turn := handle_turn runtime stimulus.now world.gateway stimulus.event
  change ∃ known, _ ∧ (handle runtime stimulus.now world.gateway stimulus.event).gateway.seats = _
  rw [sent] at turn ⊢
  generalize handle runtime stimulus.now world.gateway (.disconnect socketId) = outcome at turn ⊢
  cases turn with
  | quiet moves _ _ => cases moves
  | dropped broken _ => exact (seated.tidy.unbroken connected seated.named broken).elim
  | gone found seats => exact ⟨_, found, seats⟩

/-- Everybody is seated in every reachable state. -/
theorem of_reaches {actions : List Stimulus}
    (run : (gatewayMachine runtime).Reaches actions world)
    : Seated world :=
  run.invariant Seated seated_start (fun seated step => by
    obtain ⟨admitted, rfl⟩ := step_eq_some.mp step
    exact seated.step admitted)

end Seated

end NexusComms.Signaling
