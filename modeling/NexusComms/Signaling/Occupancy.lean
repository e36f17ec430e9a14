import NexusComms.Signaling.Seating

/-! How long a room of the SFU stays open. A member has joined the room with `sfu:join`, a
participant has a transport there, and a disconnect deletes the room when it takes out the
last participant.
-/

namespace NexusComms.Signaling

open Concurrency Storage

/-- The room that a socket has joined by this occurrence. -/
def Occurrence.joins (socketId : SocketId) (occurrence : Occurrence) : Option Text :=
  match occurrence.event, occurrence.reply with
  | .sfuJoin sender roomId, .ok _ => if sender = socketId then some roomId else none
  | _, _ => none

namespace World

/-- The room of a socket's latest successful `sfu:join`. -/
def lastJoined (world : World) (socketId : SocketId) : Option Text :=
  world.trace.reverse.findSome? (Occurrence.joins socketId)

/-- The socket is connected, and the room is the one that it has joined last. -/
def member (world : World) (roomId : Text) (socketId : SocketId) : Bool :=
  world.gateway.connected socketId && decide (world.lastJoined socketId = some roomId)

end World

/-- The rooms of all members exist, and their `sfu:create-transport` succeeds. -/
structure OccupiedOpen (world : World) : Prop where
  room {roomId : Text} {socketId : SocketId} (member : world.member roomId socketId = true)
    : (world.gateway.sfuRooms.lookup roomId).isSome
  transport {roomId : Text} {socketId : SocketId}
    (member : world.member roomId socketId = true) (transportId : Uuid)
    : (SignalingGateway.onCreateTransport world.gateway socketId roomId transportId).reply
      = .ok (.transport transportId)

/-- A disconnect that takes the last participant out of the room that it leaves finds no other
member there. -/
def leavesNobody (world : World) (stimulus : Stimulus) : Bool :=
  match stimulus.event with
  | .disconnect socketId =>
      ((world.lastJoined socketId).filter Text.truthy).all
        (fun roomId =>
          (world.gateway.sfuRooms.lookup roomId).all
            (fun room =>
              decide (room.participants.erase socketId ≠ [])
                || world.opened.all
                    (fun other =>
                      decide (other = socketId) || !world.member roomId other)))
  | _ => true

namespace Seats

/-- Every connected socket finds the room that it has joined last. -/
def Open (seats : Seats) : Prop :=
  ∀ socketId roomId,
    seats.connected socketId → seats.roomOf socketId = some roomId →
      (seats.sfuRooms.lookup roomId).isSome

section RoomOf

variable {seats : Seats} {socketId other : SocketId}

@[simp]
theorem setCallId_roomOf (callId : Option Text)
    : (seats.setCallId socketId callId).roomOf other = seats.roomOf other := by
  unfold roomOf setCallId
  rw [lookup_updateMeta]
  split
  · cases seats.sockets.lookup other with
    | none => rfl
    | some known => rfl
  · rfl

@[simp]
theorem join_roomOf (room : Text)
    : (seats.join room socketId).roomOf other = seats.roomOf other :=
  rfl

@[simp]
theorem leave_roomOf (room : Text)
    : (seats.leave room socketId).roomOf other = seats.roomOf other :=
  rfl

@[simp]
theorem socketsJoin_roomOf (source room : Text)
    : (seats.socketsJoin source room).roomOf other = seats.roomOf other := by
  unfold roomOf
  rw [socketsJoin_sockets]

theorem setRoomId_roomOf (roomId : Text)
    : (seats.setRoomId socketId roomId).roomOf other
      = if other = socketId then (seats.sockets.lookup other).map (fun _ => roomId)
        else seats.roomOf other := by
  unfold roomOf setRoomId
  rw [lookup_updateMeta]
  split
  · cases seats.sockets.lookup other with
    | none => rfl
    | some known => rfl
  · rfl

@[simp]
theorem openRoom_roomOf (roomId : Text)
    : (seats.openRoom roomId).roomOf other = seats.roomOf other := by
  unfold roomOf
  rw [openRoom_sockets]

theorem forget_roomOf (known : SocketMeta) (apart : other ≠ socketId)
    : (seats.forget socketId known).roomOf other = seats.roomOf other := by
  unfold roomOf
  rw [forget_sockets, AList.lookup_erase_ne apart]

end RoomOf

section SfuRooms

variable {seats : Seats} {roomId other : Text}

@[simp]
theorem join_sfuRooms (room : Text) (socketId : SocketId)
    : (seats.join room socketId).sfuRooms = seats.sfuRooms :=
  rfl

@[simp]
theorem leave_sfuRooms (room : Text) (socketId : SocketId)
    : (seats.leave room socketId).sfuRooms = seats.sfuRooms :=
  rfl

@[simp]
theorem setCallId_sfuRooms (socketId : SocketId) (callId : Option Text)
    : (seats.setCallId socketId callId).sfuRooms = seats.sfuRooms :=
  updateMeta_sfuRooms seats socketId _

@[simp]
theorem setRoomId_sfuRooms (socketId : SocketId)
    : (seats.setRoomId socketId roomId).sfuRooms = seats.sfuRooms :=
  updateMeta_sfuRooms seats socketId _

/-- A room that is opened exists, and so do the rooms that existed. -/
theorem openRoom_isSome
    : ((seats.openRoom roomId).sfuRooms.lookup other).isSome
      ↔ other = roomId ∨ (seats.sfuRooms.lookup other).isSome := by
  unfold openRoom
  split
  · by_cases same : other = roomId
    · subst same
      simp
    · simp [same, AList.lookup_insert_ne]
  · next present =>
      constructor
      · exact .inr
      · rintro (rfl | existed)
        · simpa [Option.isSome_iff_ne_none] using present
        · exact existed

/-- A transport is added to a room that exists. -/
theorem addTransport_isSome {room : SfuRoom} {peerId : SocketId} {transportId : Uuid}
    (found : seats.sfuRooms.lookup roomId = some room)
    : ((seats.addTransport roomId room peerId transportId).sfuRooms.lookup other).isSome
      ↔ (seats.sfuRooms.lookup other).isSome := by
  unfold addTransport
  by_cases same : other = roomId
  · subst same
    simp [found]
  · simp [same, AList.lookup_insert_ne]

/-- A room goes with its last participant, and no other room goes. -/
theorem removeParticipant_isSome {peerId : SocketId}
    : ((seats.removeParticipant roomId peerId).sfuRooms.lookup other).isSome
      ↔ (seats.sfuRooms.lookup other).isSome
        ∧ ∀ room,
            other = roomId → seats.sfuRooms.lookup roomId = some room →
              room.participants.erase peerId ≠ [] := by
  unfold removeParticipant
  cases found : seats.sfuRooms.lookup roomId with
  | none => simp
  | some room =>
      dsimp only
      by_cases emptied : (withoutPeer room peerId).participants = []
      · rw [if_pos emptied]
        by_cases same : other = roomId
        · subst same
          rw [AList.lookup_erase]
          constructor
          · intro gone
            cases gone
          · intro stays
            exact absurd emptied (stays.2 room rfl rfl)
        · simp [same, AList.lookup_erase_ne]
      · rw [if_neg emptied]
        by_cases same : other = roomId
        · subst same
          rw [AList.lookup_insert, found]
          simp only [Option.isSome_some, Option.some.injEq, true_and, true_iff]
          rintro _ _ rfl
          exact emptied
        · simp [same, AList.lookup_insert_ne]

end SfuRooms

end Seats

section Handlers

variable {gateway : Gateway} {event : Event} {outcome : Outcome}

/-- A connected socket keeps the room that it has joined last, unless it joins another one or
is new. -/
theorem Turn.roomOf (turn : Turn gateway event outcome) (tidy : gateway.seats.Tidy)
    (present
      : ∀ {socketId}, event.sender = some socketId → gateway.seats.connected socketId)
    {socketId : SocketId} (now : outcome.gateway.seats.connected socketId)
    : (∃ roomId,
          event = .sfuJoin socketId roomId
          ∧ outcome.reply = .ok .routerRtpCapabilities
          ∧ outcome.gateway.seats.roomOf socketId = some roomId)
      ∨ (∃ userId anonymousId,
          event = .connect socketId userId anonymousId
          ∧ outcome.gateway.seats.roomOf socketId = none)
      ∨ gateway.seats.connected socketId
        ∧ outcome.gateway.seats.roomOf socketId = gateway.seats.roomOf socketId
        ∧ ∀ roomId,
            event = .sfuJoin socketId roomId → ∃ failure, outcome.reply = .error failure := by
  have connected := (turn.connected_iff tidy present).mp now
  have here (same : event.moves = false) : gateway.seats.connected socketId := by
    rcases connected with ⟨_, _, rfl⟩ | ⟨here, _⟩
    · cases same
    · exact here
  cases turn with
  | quiet moves idle same =>
      refine .inr (.inr ⟨here moves, by rw [same], ?_⟩)
      rintro roomId rfl
      rcases idle with idle | failed
      · cases idle
      · exact failed
  | @connected other userId anonymousId _ seats =>
      by_cases new : socketId = other
      · subst new
        exact .inr (.inl ⟨userId, anonymousId, rfl, by simp [seats, Seats.roomOf]⟩)
      · rcases connected with ⟨_, _, same⟩ | ⟨before, _⟩
        · cases same
          exact absurd rfl new
        · refine .inr (.inr ⟨before, ?_, by rintro _ ⟨⟩⟩)
          simp [seats, Seats.roomOf, AList.lookup_insert_ne new]
  | dropped _ seats => 
      rcases connected with ⟨_, _, same⟩ | ⟨before, apart⟩
      · cases same
      · exact .inr (.inr ⟨before, by rw [seats]; rfl, by rintro _ ⟨⟩⟩)
  | gone found seats =>
      rcases connected with ⟨_, _, same⟩ | ⟨before, apart⟩
      · cases same
      · refine .inr (.inr ⟨before, ?_, by rintro _ ⟨⟩⟩)
        rw [seats]
        exact Seats.forget_roomOf _ (fun same => apart (by rw [same]))
  | initiated _ _ seats => exact .inr (.inr ⟨here rfl, by simp [seats], by rintro _ ⟨⟩⟩)
  | accepted _ _ _ seats => exact .inr (.inr ⟨here rfl, by simp [seats], by rintro _ ⟨⟩⟩)
  | ended _ _ _ seats => exact .inr (.inr ⟨here rfl, by simp [seats], by rintro _ ⟨⟩⟩)
  | paired a b _ seats => exact .inr (.inr ⟨here rfl, by simp [seats], by rintro _ ⟨⟩⟩)
  | @seated sender entered _ found reply seats =>
      by_cases same : socketId = sender
      · subst same
        refine .inl ⟨entered, rfl, reply, ?_⟩
        obtain ⟨known, lookup⟩ := Option.isSome_iff_exists.mp found
        rw [seats, Seats.join_roomOf, Seats.setRoomId_roomOf, if_pos rfl,
          Seats.openRoom_sockets, seats_sockets, lookup]
        rfl
      · refine .inr (.inr ⟨here rfl, ?_, ?_⟩)
        · rw [seats, Seats.join_roomOf, Seats.setRoomId_roomOf, if_neg same,
            Seats.openRoom_roomOf]
        · intro roomId sent
          cases sent
          exact absurd rfl same
  | opened _ _ seats => exact .inr (.inr ⟨here rfl, by rw [seats]; rfl, by rintro _ ⟨⟩⟩)

/-- Only a disconnect can close a room. -/
theorem Turn.keepsRoom (turn : Turn gateway event outcome)
    (stays : ∀ socketId, event ≠ .disconnect socketId) {roomId : Text}
    (exists_room : (gateway.seats.sfuRooms.lookup roomId).isSome)
    : (outcome.gateway.seats.sfuRooms.lookup roomId).isSome := by
  cases turn with
  | quiet _ _ same => rwa [same]
  | connected seats => rwa [seats]
  | dropped _ _ => exact absurd rfl (stays _)
  | gone _ _ => exact absurd rfl (stays _)
  | initiated _ _ seats => simpa [seats] using exists_room
  | accepted _ _ _ seats => simpa [seats] using exists_room
  | ended _ _ _ seats => simpa [seats] using exists_room
  | paired a b _ seats => simpa [seats] using exists_room
  | seated _ _ seats =>
      rw [seats, Seats.join_sfuRooms, Seats.setRoomId_sfuRooms, Seats.openRoom_isSome]
      exact .inr exists_room
  | opened found _ seats => rwa [seats, Seats.addTransport_isSome found]

/-- The room that a socket joins exists afterwards. -/
theorem Turn.opensRoom {socketId : SocketId} {roomId : Text} {reply : Reply}
    (turn : Turn gateway (.sfuJoin socketId roomId) outcome)
    (replied : outcome.reply = .ok reply)
    : (outcome.gateway.seats.sfuRooms.lookup roomId).isSome := by
  cases turn with
  | quiet _ idle _ =>
      rcases idle with idle | ⟨failure, failed⟩
      · cases idle
      · cases failed.symm.trans replied
  | seated _ _ seats =>
      rw [seats, Seats.join_sfuRooms, Seats.setRoomId_sfuRooms, Seats.openRoom_isSome]
      exact .inl rfl

/-- So the rooms of all connected sockets stay open until one of them disconnects. -/
theorem Turn.keepsOpen (turn : Turn gateway event outcome) (tidy : gateway.seats.Tidy)
    (stays : ∀ socketId, event ≠ .disconnect socketId)
    (present
      : ∀ {socketId}, event.sender = some socketId → gateway.seats.connected socketId)
    (before : gateway.seats.Open)
    : outcome.gateway.seats.Open := by
  intro socketId roomId now joined
  rcases turn.roomOf tidy present now with
    ⟨entered, rfl, replied, room⟩ | ⟨_, _, _, room⟩ | ⟨here, room, _⟩
  · cases room.symm.trans joined
    exact turn.opensRoom replied
  · cases room.symm.trans joined
  · exact turn.keepsRoom stays (before socketId roomId here (room.symm.trans joined))

/-- A disconnect keeps the rooms of the others open exactly if it does not take the last
participant out of a room that another socket has joined last. -/
theorem Seats.open_forget {seats : Seats} (before : seats.Open) {socketId : SocketId}
    (known : SocketMeta)
    : ((seats.leaveAll socketId).forget socketId known).Open
      ↔ ∀ roomId room,
          known.roomId.filter Text.truthy = some roomId →
            seats.sfuRooms.lookup roomId = some room →
              room.participants.erase socketId = [] →
                ∀ other,
                  seats.connected other → seats.roomOf other = some roomId →
                    other = socketId := by
  have left (other : SocketId) (apart : other ≠ socketId)
      : ((seats.leaveAll socketId).forget socketId known).roomOf other
        = seats.roomOf other :=
    Seats.forget_roomOf known apart
  have stays (other : SocketId)
      : ((seats.leaveAll socketId).forget socketId known).connected other
        ↔ seats.connected other ∧ other ≠ socketId :=
    (Seats.forget_connected known).trans Seats.leaveAll_connected
  cases joined : known.roomId.filter Text.truthy with
  | none =>
      have same
          : ((seats.leaveAll socketId).forget socketId known).sfuRooms = seats.sfuRooms := by
        simp [Seats.forget, joined, Seats.leaveAll]
      constructor
      · intro _ roomId room entered
        cases entered
      · intro _ other roomId connected last
        rw [same]
        obtain ⟨here, apart⟩ := (stays other).mp connected
        exact before other roomId here ((left other apart).symm.trans last)
  | some entered =>
      have same
          : ((seats.leaveAll socketId).forget socketId known).sfuRooms
            = ((seats.leaveAll socketId).removeParticipant entered socketId).sfuRooms := by
        simp [Seats.forget, joined]
      constructor
      · intro opened roomId room sameRoom found emptied other here last
        cases sameRoom
        by_contra apart
        have exists_room := opened other entered ((stays other).mpr ⟨here, apart⟩)
          ((left other apart).trans last)
        rw [same, Seats.removeParticipant_isSome] at exists_room
        exact exists_room.2 room rfl found emptied
      · intro alone other roomId connected last
        obtain ⟨here, apart⟩ := (stays other).mp connected
        rw [left other apart] at last
        rw [same, Seats.removeParticipant_isSome]
        refine ⟨before other roomId here last, ?_⟩
        rintro room rfl found emptied
        exact apart (alone roomId room rfl found emptied other here last)

end Handlers

/-- What a run remembers of the rooms: the meta of a connected socket names the room that it
has joined last, and a socket id that has not been opened has joined none. -/
structure RoomsRecorded (world : World) : Prop where
  seated : Seated world
  joined {socketId : SocketId} (connected : world.gateway.seats.connected socketId)
    : world.gateway.seats.roomOf socketId = world.lastJoined socketId
  fresh {socketId : SocketId} (new : socketId ∉ world.opened)
    : world.lastJoined socketId = none

section Steps

variable {runtime : Runtime} {world : World} {stimulus : Stimulus}

/-- A successful `sfu:join` is the latest one. -/
theorem lastJoined_joined {socketId : SocketId} {roomId : Text} {reply : Reply}
    (sent : stimulus.event = .sfuJoin socketId roomId)
    (replied
      : (handle runtime stimulus.now world.gateway stimulus.event).reply = .ok reply)
    : (world.after runtime stimulus).lastJoined socketId = some roomId := by
  simp only [World.lastJoined, World.after, List.reverse_append, List.reverse_singleton,
    List.singleton_append, List.findSome?_cons, Occurrence.joins, replied]
  rw [sent]
  simp only [if_true]

/-- Another event is no join of the socket. -/
theorem lastJoined_same {socketId : SocketId}
    (other
      : ∀ roomId,
          stimulus.event = .sfuJoin socketId roomId →
            ∃ failure,
              (handle runtime stimulus.now world.gateway stimulus.event).reply
                = .error failure)
    : (world.after runtime stimulus).lastJoined socketId = world.lastJoined socketId := by
  have nothing
      : Occurrence.joins socketId
          ⟨stimulus.event, stimulus.event.sender.bind world.userOf,
            (handle runtime stimulus.now world.gateway stimulus.event).reply,
            (handle runtime stimulus.now world.gateway stimulus.event).outputs⟩
        = none := by
    unfold Occurrence.joins
    split
    · next sender roomId reply sent succeeded =>
        refine if_neg ?_
        rintro rfl
        obtain ⟨failure, failed⟩ := other roomId sent
        cases failed.symm.trans succeeded
    · rfl
  simp [World.lastJoined, World.after, nothing]

/-- Every step keeps the record. -/
theorem RoomsRecorded.step (recorded : RoomsRecorded world)
    (admitted : world.admits stimulus = true)
    : RoomsRecorded (world.after runtime stimulus) where
  seated := recorded.seated.step admitted
  joined {socketId} connected := by
    have turn := handle_turn runtime stimulus.now world.gateway stimulus.event
    rcases turn.roomOf recorded.seated.tidy (Seated.present admitted) connected with
      ⟨roomId, sent, replied, room⟩ | ⟨userId, anonymousId, sent, room⟩
        | ⟨before, room, other⟩
    · exact room.trans (lastJoined_joined sent replied).symm
    · have new := (connect_admitted admitted sent).1
      refine room.trans ((lastJoined_same ?_).trans (recorded.fresh new)).symm
      intro roomId joins
      cases sent.symm.trans joins
    · exact room.trans ((recorded.joined before).trans (lastJoined_same other).symm)
  fresh {socketId} new := by
    have unopened : socketId ∉ world.opened :=
      fun opened => new (List.mem_append_right _ opened)
    refine (lastJoined_same ?_).trans (recorded.fresh unopened)
    intro roomId sent
    have present := Seated.present admitted (show stimulus.event.sender = some socketId by rw [sent]; rfl)
    exact absurd (recorded.seated.opened present) unopened

end Steps

/-- Nobody has joined a room at the start. -/
theorem roomsRecorded_start : RoomsRecorded World.start where
  seated := seated_start
  joined connected := by simp [World.start, Gateway.empty, Seats.connected] at connected
  fresh _ := rfl

section Runs

variable {runtime : Runtime} {world : World} {stimulus : Stimulus}

/-- A member is a connected socket whose meta names the room. -/
theorem RoomsRecorded.member_iff (recorded : RoomsRecorded world) {roomId : Text}
    {socketId : SocketId}
    : world.member roomId socketId = true
      ↔ world.gateway.seats.connected socketId
        ∧ world.gateway.seats.roomOf socketId = some roomId := by
  simp only [World.member, Bool.and_eq_true, decide_eq_true_eq, Gateway.connected_iff]
  constructor
  · rintro ⟨connected, last⟩
    exact ⟨connected, (recorded.joined connected).trans last⟩
  · rintro ⟨connected, room⟩
    exact ⟨connected, (recorded.joined connected).symm.trans room⟩

/-- A transport is created in every room that exists. -/
theorem RoomsRecorded.open_iff (recorded : RoomsRecorded world)
    : OccupiedOpen world ↔ world.gateway.seats.Open := by
  constructor
  · intro occupied socketId roomId connected room
    exact occupied.room (recorded.member_iff.mpr ⟨connected, room⟩)
  · intro opened
    have exists_room {roomId : Text} {socketId : SocketId}
        (member : world.member roomId socketId = true)
        : (world.gateway.sfuRooms.lookup roomId).isSome := by
      obtain ⟨connected, room⟩ := recorded.member_iff.mp member
      exact opened socketId roomId connected room
    refine ⟨exists_room, fun {roomId socketId} member transportId => ?_⟩
    obtain ⟨room, found⟩ := Option.isSome_iff_exists.mp (exists_room member)
    simp [SignalingGateway.onCreateTransport, SfuService.createWebRtcTransport, found]

/-- A step that starts with open rooms keeps them open exactly if it meets the condition. -/
theorem occupiedOpen_iff (recorded : RoomsRecorded world) (occupied : OccupiedOpen world)
    (admitted : world.admits stimulus = true)
    : OccupiedOpen (world.after runtime stimulus) ↔ leavesNobody world stimulus = true := by
  rw [(recorded.step admitted).open_iff]
  have before := recorded.open_iff.mp occupied
  by_cases leaves : ∃ socketId, stimulus.event = .disconnect socketId
  · obtain ⟨socketId, sent⟩ := leaves
    have sends : stimulus.event.sender = some socketId := by rw [sent]; rfl
    obtain ⟨known, found, seats⟩ :=
      recorded.seated.disconnected runtime admitted sent
    have room : world.lastJoined socketId = known.roomId := by
      rw [← recorded.joined (Seated.present admitted sends)]
      simp [Seats.roomOf, found]
    rw [seats, Seats.open_forget before]
    simp only [leavesNobody, sent, room, Option.all_eq_true, List.all_eq_true,
      Bool.or_eq_true, decide_eq_true_eq, Bool.not_eq_true', Bool.eq_false_iff]
    constructor
    · intro alone roomId entered sfuRoom lookup
      by_cases emptied : sfuRoom.participants.erase socketId = []
      · right
        intro other _
        by_cases same : other = socketId
        · exact .inl same
        · right
          intro member
          obtain ⟨here, last⟩ := recorded.member_iff.mp member
          exact same (alone roomId sfuRoom entered lookup emptied other here last)
      · exact .inl emptied
    · intro kept roomId sfuRoom entered lookup emptied other here last
      rcases kept roomId entered sfuRoom lookup with occupied | nobody
      · exact absurd emptied occupied
      · rcases nobody other (recorded.seated.opened here) with same | apart
        · exact same
        · exact absurd (recorded.member_iff.mpr ⟨here, last⟩) apart
  · have stays : ∀ socketId, stimulus.event ≠ .disconnect socketId :=
      fun socketId sent => leaves ⟨socketId, sent⟩
    have kept : leavesNobody world stimulus = true := by
      unfold leavesNobody
      split
      · next sent => exact absurd sent (stays _)
      · rfl
    refine ⟨fun _ => kept, fun _ => ?_⟩
    exact (handle_turn runtime stimulus.now world.gateway stimulus.event).keepsOpen
      recorded.seated.tidy stays (Seated.present admitted) before

/-- In every run, the rooms of all members stay open exactly if every disconnect that takes the
last participant out of a room finds no other member there. -/
theorem occupied_rooms {actions : List Stimulus}
    (run : (gatewayMachine runtime).Reaches actions world)
    : (gatewayMachine runtime).Throughout OccupiedOpen .start actions
      ↔ (gatewayMachine runtime).Along
          (fun before stimulus => leavesNobody before stimulus = true) .start actions := by
  have startOpen : OccupiedOpen .start := by
    rw [roomsRecorded_start.open_iff]
    intro socketId roomId connected
    simp [World.start, Gateway.empty, Seats.connected] at connected
  refine Machine.throughout_iff_along _ RoomsRecorded ?_ ?_ roomsRecorded_start startOpen run
  · intro before stimulus after recorded taken
    obtain ⟨admitted, rfl⟩ := step_eq_some.mp taken
    exact recorded.step admitted
  · intro before stimulus after recorded occupied taken
    obtain ⟨admitted, rfl⟩ := step_eq_some.mp taken
    exact occupiedOpen_iff recorded occupied admitted

end Runs

/-- Two users join a room, and the first one creates a transport. -/
def roomOfTwo : List Stimulus := twoUsers ++ [
  ⟨1, .sfuJoin 11 (.other 7)⟩,
  ⟨1, .sfuJoin 12 (.other 7)⟩,
  ⟨2, .createTransport 11 (.other 7) 301⟩
]

/-- The second one creates a transport too before the first one leaves. -/
def bothPublish : List Stimulus :=
  roomOfTwo ++ [⟨3, .createTransport 12 (.other 7) 302⟩, ⟨4, .disconnect 11⟩]

/-- Their room stays open. -/
theorem occupied_rooms_two
    : (worldAfter bothPublish).member (.other 7) 12 = true
      ∧ (gatewayMachine plainRuntime).Throughout OccupiedOpen .start bothPublish := by
  have run
      : (gatewayMachine plainRuntime).Reaches bothPublish (worldAfter bothPublish) :=
    rfl
  exact ⟨by decide, (occupied_rooms run).mpr (by decide)⟩

/-- The first one leaves before the second one has created a transport. -/
def leavesEarly : List Stimulus := roomOfTwo ++ [⟨3, .disconnect 11⟩]

/-- The room of the second one is gone. -/
theorem member_finds_no_room
    : (gatewayMachine plainRuntime).Reaches leavesEarly (worldAfter leavesEarly)
      ∧ (worldAfter leavesEarly).member (.other 7) 12 = true
      ∧ (SignalingGateway.onCreateTransport (worldAfter leavesEarly).gateway 12 (.other 7)
          302).reply
        = .error (.roomNotFound (.other 7))
      ∧ ¬ (gatewayMachine plainRuntime).Throughout OccupiedOpen .start leavesEarly := by
  refine ⟨rfl, by decide, rfl, fun throughout => ?_⟩
  have occupied := throughout leavesEarly [] (worldAfter leavesEarly) (by simp) rfl
  have member : (worldAfter leavesEarly).member (.other 7) 12 = true := by decide
  exact absurd (occupied.room member) (by decide)

end NexusComms.Signaling
