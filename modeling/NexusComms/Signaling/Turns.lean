import NexusComms.Signaling.Answering

/-! What one handler does to the seats: the metas of the sockets, the Socket.IO rooms and the
rooms of the SFU. Most events leave all of them alone; the others are listed in `Turn`.
-/

namespace NexusComms.Signaling

open Matchmaking Storage

/-- The metas, the rooms of Socket.IO and the rooms of the SFU. -/
structure Seats where
  sockets : AList (fun _ : SocketId => SocketMeta)
  rooms : Rooms
  sfuRooms : AList (fun _ : Text => SfuRoom)

def Gateway.seats (gateway : Gateway) : Seats :=
  ⟨gateway.sockets, gateway.rooms, gateway.sfuRooms⟩

namespace Seats

/-- A socket is connected as long as it is in its own room. -/
def connected (seats : Seats) (socketId : SocketId) : Prop :=
  (Text.socket socketId, socketId) ∈ seats.rooms

/-- The call that a socket remembers. -/
def callOf (seats : Seats) (socketId : SocketId) : Option Text :=
  (seats.sockets.lookup socketId).bind SocketMeta.callId

/-- The room of the SFU that a socket has joined last. -/
def roomOf (seats : Seats) (socketId : SocketId) : Option Text :=
  (seats.sockets.lookup socketId).bind SocketMeta.roomId

def updateMeta (seats : Seats) (socketId : SocketId) (change : SocketMeta → SocketMeta)
    : Seats :=
  match seats.sockets.lookup socketId with
  | none => seats
  | some known => { seats with sockets := seats.sockets.replace socketId (change known) }

def setCallId (seats : Seats) (socketId : SocketId) (callId : Option Text) : Seats :=
  seats.updateMeta socketId (fun known => { known with callId := callId })

def setRoomId (seats : Seats) (socketId : SocketId) (roomId : Text) : Seats :=
  seats.updateMeta socketId (fun known => { known with roomId := roomId })

def join (seats : Seats) (room : Text) (socketId : SocketId) : Seats :=
  { seats with rooms := seats.rooms.insert (room, socketId) }

def leave (seats : Seats) (room : Text) (socketId : SocketId) : Seats :=
  { seats with rooms := seats.rooms.filter (fun entry => entry ≠ (room, socketId)) }

/-- The transport takes a socket out of all rooms. -/
def leaveAll (seats : Seats) (socketId : SocketId) : Seats :=
  { seats with rooms := seats.rooms.filter (fun entry => entry.2 ≠ socketId) }

def socketsJoin (seats : Seats) (source room : Text) : Seats :=
  (seats.rooms.members source).foldl (fun joined socketId => joined.join room socketId) seats

/-- `createRoom`, unless the room exists. -/
def openRoom (seats : Seats) (roomId : Text) : Seats :=
  if (seats.sfuRooms.lookup roomId).isNone then
    { seats with sfuRooms := seats.sfuRooms.insert roomId ⟨[], []⟩ }
  else
    seats

/-- A new transport of a peer in a room. -/
def addTransport (seats : Seats) (roomId : Text) (room : SfuRoom) (peerId : SocketId)
    (transportId : Uuid)
    : Seats :=
  let room' : SfuRoom := {
    participants := room.participants.insert peerId
    transports := room.transports ++ [(peerId, transportId)]
  }
  { seats with sfuRooms := seats.sfuRooms.insert roomId room' }

/-- A room without one of its peers. -/
def withoutPeer (room : SfuRoom) (peerId : SocketId) : SfuRoom :=
  {
    participants := room.participants.erase peerId
    transports := room.transports.filter (fun transport => transport.1 ≠ peerId)
  }

def removeParticipant (seats : Seats) (roomId : Text) (peerId : SocketId) : Seats :=
  match seats.sfuRooms.lookup roomId with
  | none => seats
  | some room =>
      if (withoutPeer room peerId).participants = [] then
        { seats with sfuRooms := seats.sfuRooms.erase roomId }
      else
        { seats with sfuRooms := seats.sfuRooms.insert roomId (withoutPeer room peerId) }

/-- The end of a disconnect: the room that was joined last and the metas forget the socket. -/
def forget (seats : Seats) (socketId : SocketId) (known : SocketMeta) : Seats :=
  let removed := match known.roomId.filter Text.truthy with
    | none => seats
    | some roomId => seats.removeParticipant roomId socketId
  { removed with sockets := removed.sockets.erase socketId }

section Lemmas

variable (seats : Seats)

@[simp]
theorem updateMeta_rooms (socketId : SocketId) (change : SocketMeta → SocketMeta)
    : (seats.updateMeta socketId change).rooms = seats.rooms := by
  unfold updateMeta
  split
  · rfl
  · rfl

@[simp]
theorem updateMeta_sfuRooms (socketId : SocketId) (change : SocketMeta → SocketMeta)
    : (seats.updateMeta socketId change).sfuRooms = seats.sfuRooms := by
  unfold updateMeta
  split
  · rfl
  · rfl

/-- A change of a meta touches one socket. -/
@[simp]
theorem lookup_updateMeta (socketId other : SocketId) (change : SocketMeta → SocketMeta)
    : (seats.updateMeta socketId change).sockets.lookup other
      = if other = socketId then (seats.sockets.lookup other).map change
        else seats.sockets.lookup other := by
  unfold updateMeta
  by_cases same : other = socketId
  · subst same
    split
    · next absent => simp [absent]
    · next known found => simp [found, lookup_replace]
  · split
    · simp [same]
    · simp [same, lookup_replace]

/-- No socket gets a meta by a change of one. -/
theorem updateMeta_isSome (socketId other : SocketId) (change : SocketMeta → SocketMeta)
    : ((seats.updateMeta socketId change).sockets.lookup other).isSome
      = (seats.sockets.lookup other).isSome := by
  rw [lookup_updateMeta]
  split
  · rw [Option.isSome_map]
  · rfl

/-- Entering a room together changes nothing but the rooms, by induction on who enters. -/
theorem socketsJoin_eq (source room : Text)
    : seats.socketsJoin source room
      = { seats with rooms := (seats.socketsJoin source room).rooms } := by
  unfold socketsJoin
  generalize seats.rooms.members source = entering
  induction entering generalizing seats with
  | nil => rfl
  | cons socketId rest ih => exact ih (seats.join room socketId)

@[simp]
theorem socketsJoin_sockets (source room : Text)
    : (seats.socketsJoin source room).sockets = seats.sockets := by
  rw [socketsJoin_eq]

@[simp]
theorem socketsJoin_sfuRooms (source room : Text)
    : (seats.socketsJoin source room).sfuRooms = seats.sfuRooms := by
  rw [socketsJoin_eq]

/-- Who is in a room after others have entered one together, by induction on who enters. -/
theorem mem_socketsJoin {source room name : Text} {socketId : SocketId}
    : (name, socketId) ∈ (seats.socketsJoin source room).rooms
      ↔ (name, socketId) ∈ seats.rooms
        ∨ name = room ∧ (source, socketId) ∈ seats.rooms := by
  have entered (entering : List SocketId) (current : Seats)
      : (name, socketId)
          ∈ (entering.foldl (fun joined other => joined.join room other) current).rooms
        ↔ (name, socketId) ∈ current.rooms ∨ name = room ∧ socketId ∈ entering := by
    induction entering generalizing current with
    | nil => simp
    | cons first rest ih =>
        rw [List.foldl_cons, ih, join, List.mem_insert_iff, List.mem_cons, Prod.mk.injEq]
        constructor
        · rintro ((⟨same, here⟩ | earlier) | ⟨same, later⟩)
          · exact .inr ⟨same, .inl here⟩
          · exact .inl earlier
          · exact .inr ⟨same, .inr later⟩
        · rintro (earlier | ⟨same, here | later⟩)
          · exact .inl (.inr earlier)
          · exact .inl (.inl ⟨same, here⟩)
          · exact .inr ⟨same, later⟩
  exact (entered _ seats).trans (by rw [mem_members])

@[simp]
theorem openRoom_rooms (roomId : Text) : (seats.openRoom roomId).rooms = seats.rooms := by
  unfold openRoom
  split
  · rfl
  · rfl

@[simp]
theorem openRoom_sockets (roomId : Text)
    : (seats.openRoom roomId).sockets = seats.sockets := by
  unfold openRoom
  split
  · rfl
  · rfl

@[simp]
theorem removeParticipant_rooms (roomId : Text) (peerId : SocketId)
    : (seats.removeParticipant roomId peerId).rooms = seats.rooms := by
  unfold removeParticipant
  split
  · rfl
  · split
    · rfl
    · rfl

@[simp]
theorem removeParticipant_sockets (roomId : Text) (peerId : SocketId)
    : (seats.removeParticipant roomId peerId).sockets = seats.sockets := by
  unfold removeParticipant
  split
  · rfl
  · split
    · rfl
    · rfl

@[simp]
theorem forget_rooms (socketId : SocketId) (known : SocketMeta)
    : (seats.forget socketId known).rooms = seats.rooms := by
  unfold forget
  dsimp only
  split
  · rfl
  · exact removeParticipant_rooms seats _ _

@[simp]
theorem forget_sockets (socketId : SocketId) (known : SocketMeta)
    : (seats.forget socketId known).sockets = seats.sockets.erase socketId := by
  unfold forget
  dsimp only
  split
  · rfl
  · rw [removeParticipant_sockets]

end Lemmas

end Seats

section Projections

variable (gateway : Gateway)

@[simp]
theorem seats_sockets : gateway.seats.sockets = gateway.sockets := rfl

@[simp]
theorem seats_rooms : gateway.seats.rooms = gateway.rooms := rfl

@[simp]
theorem seats_sfuRooms : gateway.seats.sfuRooms = gateway.sfuRooms := rfl

/-- The seats depend neither on the queue nor on the database. -/
@[simp]
theorem seats_stores (redis : QueueStore) (db : Database)
    : ({ gateway with redis := redis, db := db } : Gateway).seats = gateway.seats :=
  rfl

@[simp]
theorem cancelTimer_seats (callId : Text)
    : (gateway.cancelTimer callId).seats = gateway.seats :=
  rfl

@[simp]
theorem deletePending_seats (callId : Text)
    : (gateway.deletePending callId).seats = gateway.seats :=
  rfl

@[simp]
theorem join_seats (room : Text) (socketId : SocketId)
    : (gateway.join room socketId).seats = gateway.seats.join room socketId :=
  rfl

@[simp]
theorem leave_seats (room : Text) (socketId : SocketId)
    : (gateway.leave room socketId).seats = gateway.seats.leave room socketId :=
  rfl

@[simp]
theorem updateMeta_seats (socketId : SocketId) (change : SocketMeta → SocketMeta)
    : (gateway.updateMeta socketId change).seats
      = gateway.seats.updateMeta socketId change := by
  unfold Gateway.updateMeta Seats.updateMeta
  rw [seats_sockets]
  cases gateway.sockets.lookup socketId with
  | none => rfl
  | some known => rfl

@[simp]
theorem setCallId_seats (socketId : SocketId) (callId : Option Text)
    : (gateway.setCallId socketId callId).seats = gateway.seats.setCallId socketId callId :=
  updateMeta_seats gateway socketId _

/-- By induction on who enters. -/
@[simp]
theorem socketsJoin_seats (source room : Text)
    : (gateway.socketsJoin source room).seats = gateway.seats.socketsJoin source room := by
  unfold Gateway.socketsJoin Seats.socketsJoin
  rw [seats_rooms]
  generalize gateway.rooms.members source = entering
  induction entering generalizing gateway with
  | nil => rfl
  | cons socketId rest ih => exact ih (gateway.join room socketId)

theorem removeParticipant_seats (roomId : Text) (peerId : SocketId)
    : (SfuService.removeParticipant gateway roomId peerId).seats
      = gateway.seats.removeParticipant roomId peerId := by
  unfold SfuService.removeParticipant Seats.removeParticipant
  rw [seats_sfuRooms]
  cases gateway.sfuRooms.lookup roomId with
  | none => rfl
  | some room =>
      dsimp only
      split
      · next emptied =>
          rw [if_pos (show (Seats.withoutPeer room peerId).participants = [] from emptied)]
          rfl
      · next occupied =>
          rw [if_neg (show ¬ (Seats.withoutPeer room peerId).participants = [] from occupied)]
          rfl

theorem forget_seats (socketId : SocketId) (known : SocketMeta)
    : (SignalingGateway.forget gateway socketId known).gateway.seats
      = gateway.seats.forget socketId known := by
  simp only [SignalingGateway.forget, Seats.forget]
  cases known.roomId.filter Text.truthy with
  | none => rfl
  | some roomId =>
      dsimp only
      rw [← removeParticipant_seats]
      rfl

end Projections

/-- The events whose handlers change seats when they succeed. A join of the queue does so only
when it finds a pair. -/
def Event.seats : Event → Bool
  | .connect _ _ _ | .disconnect _ | .callInitiate _ _ _ | .callAccept _ _ | .callEnd _ _
  | .sfuJoin _ _ | .createTransport _ _ _ => true
  | _ => false

/-- The events with which a socket comes or goes. -/
def Event.moves : Event → Bool
  | .connect _ _ _ | .disconnect _ => true
  | _ => false

/-- The output tells a socket that it has been matched in a call. -/
def Output.matches (callId : Uuid) (socketId : SocketId) : Output → Bool
  | .emit ⟨.room (.socket other) none, .matchFound id _ _ _ _, _, _⟩ =>
      decide (other = socketId) && decide (id = callId)
  | _ => false

/-- All that one handler can do to the seats. -/
inductive Turn (gateway : Gateway) : Event → Outcome → Prop
  /-- Nothing: the event is of another kind, or its handler has failed. -/
  | quiet {event outcome} (stays : event.moves = false)
      (idle : event.seats = false ∨ ∃ failure, outcome.reply = .error failure)
      (same : outcome.gateway.seats = gateway.seats)
    : Turn gateway event outcome
  | connected {socketId userId anonymousId outcome}
      (seats
        : outcome.gateway.seats
          = {
              gateway.seats.join (.socket socketId) socketId with
              sockets :=
                gateway.sockets.insert socketId
                  { userId := userId, anonymousId := anonymousId }
            })
    : Turn gateway (.connect socketId userId anonymousId) outcome
  /-- The disconnect of a socket that is not known, or whose call cannot be ended. -/
  | dropped {socketId outcome}
      (broken
        : gateway.sockets.lookup socketId = none
          ∨ ∃ callId, gateway.callOf socketId = some callId ∧ callId.cast = none)
      (seats : outcome.gateway.seats = gateway.seats.leaveAll socketId)
    : Turn gateway (.disconnect socketId) outcome
  | gone {socketId known outcome} (found : gateway.sockets.lookup socketId = some known)
      (seats
        : outcome.gateway.seats = (gateway.seats.leaveAll socketId).forget socketId known)
    : Turn gateway (.disconnect socketId) outcome
  | initiated {socketId data callId outcome} (found : gateway.knows socketId = true)
      (reply : outcome.reply = .ok (.callId callId))
      (seats
        : outcome.gateway.seats
          = (gateway.seats.setCallId socketId (some (.uuid callId))).join (.uuid callId)
              socketId)
    : Turn gateway (.callInitiate socketId data callId) outcome
  | accepted {socketId data outcome} (found : gateway.knows socketId = true)
      (named : data.callId.cast.isSome) (reply : outcome.reply = .ok .ok)
      (seats
        : outcome.gateway.seats
          = (gateway.seats.setCallId socketId (some data.callId)).join data.callId socketId)
    : Turn gateway (.callAccept socketId data) outcome
  | ended {socketId callId outcome} (found : gateway.knows socketId = true)
      (named : callId.cast.isSome) (reply : outcome.reply = .ok .ok)
      (seats
        : outcome.gateway.seats
          = (gateway.seats.leave callId socketId).setCallId socketId none)
    : Turn gateway (.callEnd socketId callId) outcome
  | paired {socketId preferredType callId outcome} (a b : TimedEntry)
      (told
        : ∀ other,
            other = a.socketId ∨ other = b.socketId →
              outcome.outputs.any (Output.matches callId other) = true)
      (seats
        : outcome.gateway.seats
          = (((gateway.seats.socketsJoin (.socket a.socketId) (.uuid callId)).socketsJoin
                (.socket b.socketId) (.uuid callId)).setCallId a.socketId
              (some (.uuid callId))).setCallId b.socketId (some (.uuid callId)))
    : Turn gateway (.joinQueue socketId preferredType callId) outcome
  | seated {socketId roomId outcome} (found : gateway.knows socketId = true)
      (reply : outcome.reply = .ok .routerRtpCapabilities)
      (seats
        : outcome.gateway.seats
          = ((gateway.seats.openRoom roomId).setRoomId socketId roomId).join roomId socketId)
    : Turn gateway (.sfuJoin socketId roomId) outcome
  | opened {socketId roomId transportId room outcome}
      (found : gateway.sfuRooms.lookup roomId = some room)
      (reply : outcome.reply = .ok (.transport transportId))
      (seats
        : outcome.gateway.seats = gateway.seats.addTransport roomId room socketId transportId)
    : Turn gateway (.createTransport socketId roomId transportId) outcome

section Handlers

variable (now : Time) (gateway : Gateway) (socketId : SocketId)

theorem initiate_turn (runtime : Runtime) (data : InitiateData) (callId : Uuid)
    : Turn gateway (.callInitiate socketId data callId)
        (SignalingGateway.onCallInitiate runtime now gateway socketId data callId) := by
  unfold SignalingGateway.onCallInitiate
  split
  · exact .quiet rfl (.inr ⟨_, rfl⟩) rfl
  · next known found =>
      split
      · exact .quiet rfl (.inr ⟨_, rfl⟩) rfl
      · dsimp only
        split
        · exact .quiet rfl (.inr ⟨_, rfl⟩) rfl
        · refine .initiated (knows_of_lookup gateway socketId found) rfl ?_
          change (Gateway.join (Gateway.setCallId _ _ _) _ _).seats = _
          rw [join_seats, setCallId_seats, seats_stores]

theorem accept_turn (data : AcceptData)
    : Turn gateway (.callAccept socketId data)
        (SignalingGateway.onCallAccept now gateway socketId data) := by
  unfold SignalingGateway.onCallAccept
  split
  · exact .quiet rfl (.inr ⟨_, rfl⟩) rfl
  · next known found =>
      split
      · exact .quiet rfl (.inr ⟨_, rfl⟩) rfl
      · split
        · exact .quiet rfl (.inr ⟨_, rfl⟩) rfl
        · dsimp only
          split
          · exact .quiet rfl (.inr ⟨_, rfl⟩) rfl
          · next session accepted =>
              obtain ⟨id, cast, _⟩ := acceptCall_ok accepted
              refine .accepted (knows_of_lookup gateway socketId found) ?_ rfl ?_
              · change data.callId.cast = some id at cast
                rw [cast]
                rfl
              · simp

theorem reject_turn (callId : Text)
    : Turn gateway (.callReject socketId callId)
        (SignalingGateway.onCallReject now gateway socketId callId) := by
  refine .quiet rfl (.inl rfl) ?_
  unfold SignalingGateway.onCallReject
  split
  · rfl
  · split
    · rfl
    · dsimp only
      split
      · rfl
      · rfl

theorem end_turn (callId : Text)
    : Turn gateway (.callEnd socketId callId)
        (SignalingGateway.onCallEnd now gateway socketId callId) := by
  unfold SignalingGateway.onCallEnd
  split
  · exact .quiet rfl (.inr ⟨_, rfl⟩) rfl
  · next known found =>
      dsimp only
      split
      · exact .quiet rfl (.inr ⟨_, rfl⟩) rfl
      · next ended =>
          have named : callId.cast.isSome := by
            unfold CallsService.endCall at ended
            split at ended
            · cases ended
            · next cast => simp [cast]
          refine .ended (knows_of_lookup gateway socketId found) named rfl ?_
          simp

theorem disconnect_turn
    : Turn gateway (.disconnect socketId)
        (SignalingGateway.handleDisconnect now gateway socketId) := by
  unfold SignalingGateway.handleDisconnect
  dsimp only
  split
  · next absent => exact .dropped (.inl absent) rfl
  · next known found =>
      unfold SignalingGateway.endOrForget
      split
      · refine .gone found ?_
        rw [forget_seats]
        rfl
      · next callId remembered =>
          dsimp only
          split
          · next failure failed =>
              refine .dropped (.inr ⟨callId, by simp [Gateway.callOf, found, remembered], ?_⟩) rfl
              unfold CallsService.endCall at failed
              split at failed
              · assumption
              · cases failed
          · refine .gone found ?_
            rw [forget_seats]
            rfl

theorem missedCall_turn (runtime : Runtime) (callId : Uuid)
    : Turn gateway (.missedCall callId) (handle runtime now gateway (.missedCall callId)) := by
  refine .quiet rfl (.inl rfl) ?_
  simp only [handle]
  split
  · rfl
  · unfold SignalingGateway.missedCall
    dsimp only
    split
    · split
      · rfl
      · rfl
    · rfl

theorem mediaToggle_turn (data : MediaData)
    : Turn gateway (.mediaToggle socketId data)
        (SignalingGateway.onMediaToggle gateway socketId data) := by
  refine .quiet rfl (.inl rfl) ?_
  unfold SignalingGateway.onMediaToggle
  split
  · rfl
  · dsimp only
    split
    · rfl
    · rfl

theorem switchType_turn (data : SwitchData)
    : Turn gateway (.switchType socketId data)
        (SignalingGateway.onSwitchType now gateway socketId data) := by
  refine .quiet rfl (.inl rfl) ?_
  unfold SignalingGateway.onSwitchType
  split
  · rfl
  · dsimp only
    split
    · rfl
    · rfl

/-- A pairing changes all seats at once, or it finds nobody or fails before it has changed
any. -/
theorem tryPairUsers_seats (callId : Uuid)
    : (SignalingGateway.tryPairUsers now gateway callId).gateway.seats = gateway.seats
      ∨ ∃ a b : TimedEntry,
          (∀ other,
              other = a.socketId ∨ other = b.socketId →
                (SignalingGateway.tryPairUsers now gateway callId).outputs.any
                    (Output.matches callId other)
                  = true)
          ∧ (SignalingGateway.tryPairUsers now gateway callId).gateway.seats
            = (((gateway.seats.socketsJoin (.socket a.socketId) (.uuid callId)).socketsJoin
                  (.socket b.socketId) (.uuid callId)).setCallId a.socketId
                (some (.uuid callId))).setCallId b.socketId (some (.uuid callId)) := by
  unfold SignalingGateway.tryPairUsers
  dsimp only
  split
  · exact .inl rfl
  · next a b _ =>
      unfold SignalingGateway.pairUsers
      dsimp only
      split
      · exact .inl rfl
      · split
        · exact .inl rfl
        · refine .inr ⟨a, b, ?_, by simp⟩
          rintro other (rfl | rfl)
          · simp [Gateway.emit, Output.matches]
          · simp [Gateway.emit, Output.matches]

theorem joinQueue_turn (preferredType : Option CallType) (callId : Uuid)
    : Turn gateway (.joinQueue socketId preferredType callId)
        (SignalingGateway.onJoinQueue now gateway socketId preferredType callId) := by
  unfold SignalingGateway.onJoinQueue
  split
  · exact .quiet rfl (.inl rfl) rfl
  · dsimp only
    split
    · rcases tryPairUsers_seats now _ callId with same | ⟨a, b, told, seats⟩
      · exact .quiet rfl (.inl rfl) same
      · exact .paired a b (fun other here => by simp [told other here]) seats
    · rcases tryPairUsers_seats now _ callId with same | ⟨a, b, told, seats⟩
      · exact .quiet rfl (.inl rfl) same
      · exact .paired a b (fun other here => by simp [told other here]) seats

theorem sfuJoin_turn (runtime : Runtime) (roomId : Text)
    : Turn gateway (.sfuJoin socketId roomId)
        (SignalingGateway.onSfuJoin runtime gateway socketId roomId) := by
  unfold SignalingGateway.onSfuJoin
  split
  · exact .quiet rfl (.inr ⟨_, rfl⟩) rfl
  · split
    · exact .quiet rfl (.inr ⟨_, rfl⟩) rfl
    · next known found =>
        refine .seated (knows_of_lookup gateway socketId found) rfl ?_
        dsimp only
        simp only [join_seats, updateMeta_seats, Seats.setRoomId, Seats.openRoom]
        congr 2
        split
        · next new => exact (if_pos new).symm
        · next present => exact (if_neg present).symm

theorem createTransport_turn (roomId : Text) (transportId : Uuid)
    : Turn gateway (.createTransport socketId roomId transportId)
        (SignalingGateway.onCreateTransport gateway socketId roomId transportId) := by
  unfold SignalingGateway.onCreateTransport SfuService.createWebRtcTransport
  cases found : gateway.sfuRooms.lookup roomId with
  | none => exact .quiet rfl (.inr ⟨_, rfl⟩) rfl
  | some room => exact .opened found rfl rfl

theorem requestContactSave_turn (data : ContactData) (requestId : Uuid)
    : Turn gateway (.requestContactSave socketId data requestId)
        (SignalingGateway.onRequestContactSave gateway socketId data requestId) := by
  refine .quiet rfl (.inl rfl) ?_
  unfold SignalingGateway.onRequestContactSave
  split
  · rfl
  · split
    · rfl
    · dsimp only
      split
      · rfl
      · rfl

end Handlers

/-- What every handler does to the seats. -/
theorem handle_turn (runtime : Runtime) (now : Time) (gateway : Gateway) (event : Event)
    : Turn gateway event (handle runtime now gateway event) := by
  cases event with
  | connect socketId userId anonymousId => exact .connected rfl
  | disconnect socketId => exact disconnect_turn now gateway socketId
  | callInitiate socketId data callId =>
      exact initiate_turn now gateway socketId runtime data callId
  | missedCall callId => exact missedCall_turn now gateway runtime callId
  | callAccept socketId data => exact accept_turn now gateway socketId data
  | callReject socketId callId => exact reject_turn now gateway socketId callId
  | callEnd socketId callId => exact end_turn now gateway socketId callId
  | mediaToggle socketId data => exact mediaToggle_turn gateway socketId data
  | switchType socketId data => exact switchType_turn now gateway socketId data
  | joinQueue socketId preferredType callId =>
      exact joinQueue_turn now gateway socketId preferredType callId
  | sfuJoin socketId roomId => exact sfuJoin_turn gateway socketId runtime roomId
  | createTransport socketId roomId transportId =>
      exact createTransport_turn gateway socketId roomId transportId
  | requestContactSave socketId data requestId =>
      exact requestContactSave_turn gateway socketId data requestId
  | produce socketId data producerId =>
      refine .quiet rfl (.inl rfl) ?_
      simp only [handle, SignalingGateway.onProduce]
      split
      · rfl
      · rfl
  | register _ _ => exact .quiet rfl (.inl rfl) rfl
  | signalOffer _ _ _ => exact .quiet rfl (.inl rfl) rfl
  | signalAnswer _ _ _ => exact .quiet rfl (.inl rfl) rfl
  | signalIce _ _ _ => exact .quiet rfl (.inl rfl) rfl
  | leaveQueue _ => exact .quiet rfl (.inl rfl) rfl
  | queueStatusRequest _ => exact .quiet rfl (.inl rfl) rfl

end NexusComms.Signaling
