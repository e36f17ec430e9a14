import NexusComms.Signaling.Creation
import NexusComms.Signaling.Seating

/-! Who receives what the gateway emits. Calls, rooms of the SFU and sockets share one namespace
of Socket.IO rooms, and `sfu:join` enters any of them, so a call stays among its parties as long
as nobody joins it as a room of the SFU.
-/

namespace NexusComms.Signaling

open Concurrency Storage

/-- The occurrence brings a socket into a call: its `call:initiate`, a successful
`call:accept`, or a pairing that has told it so. -/
def Occurrence.enters (callId : Uuid) (socketId : SocketId) (occurrence : Occurrence)
    : Bool :=
  match occurrence.event, occurrence.reply with
  | .callInitiate sender _ id, .ok _ => decide (sender = socketId) && decide (id = callId)
  | .callAccept sender data, .ok _ =>
      decide (sender = socketId) && decide (data.callId.cast = some callId)
  | .joinQueue _ _ _, _ => occurrence.outputs.any (Output.matches callId socketId)
  | _, _ => false

/-- The socket has entered the call at some time. -/
def World.entered (world : World) (callId : Uuid) (socketId : SocketId) : Bool :=
  world.trace.any (Occurrence.enters callId socketId)

/-- A message to a single socket reaches nobody else, and a message to the room of a call
reaches only sockets that have entered the call. -/
structure Emission.Discreet (world : World) (emission : Emission) : Prop where
  client {socketId receiver : SocketId} (target : emission.target = .client socketId)
    (receives : receiver ∈ emission.receivers)
    : receiver = socketId
  private_room {socketId receiver : SocketId} {sender : Option SocketId}
    (target : emission.target = .room (.socket socketId) sender)
    (receives : receiver ∈ emission.receivers)
    : receiver = socketId
  call_room {name : Text} {sender : Option SocketId} {callId : Uuid} {receiver : SocketId}
    (target : emission.target = .room name sender) (cast : name.cast = some callId)
    (exists_call : (world.session callId).isSome) (receives : receiver ∈ emission.receivers)
    : world.entered callId receiver = true

/-- All that a step emits is discreet. -/
def DiscreetStep (runtime : Runtime) (before : World) (stimulus : Stimulus) : Prop :=
  ∀ emission,
    Output.emit emission
        ∈ (handle runtime stimulus.now before.gateway stimulus.event).outputs →
      emission.Discreet (before.after runtime stimulus)

/-- `sfu:join` names no other socket and no call that its sender has not entered, and nobody is
in a room that is named like the call that an event is about to create. -/
def entersOwn (world : World) (stimulus : Stimulus) : Bool :=
  match stimulus.event with
  | .sfuJoin socketId (.socket other) => decide (other = socketId)
  | .sfuJoin socketId roomId =>
      roomId.cast.all
        (fun callId => (world.session callId).isNone || world.entered callId socketId)
  | .callInitiate _ _ callId | .joinQueue _ _ callId =>
      world.gateway.rooms.all (fun entry => decide (entry.1.cast ≠ some callId))
  | _ => true

/-- How a socket has come to be in a room when a handler is done. -/
inductive Entrance (gateway : Gateway)
    : Event → Outcome → Text → SocketId → Prop
  | stayed {event outcome name socketId} (before : (name, socketId) ∈ gateway.rooms)
    : Entrance gateway event outcome name socketId
  | connected {socketId userId anonymousId outcome}
    : Entrance gateway (.connect socketId userId anonymousId) outcome (.socket socketId)
        socketId
  | initiated {socketId data callId outcome reply} (replied : outcome.reply = .ok reply)
    : Entrance gateway (.callInitiate socketId data callId) outcome (.uuid callId) socketId
  | accepted {socketId data outcome reply} (named : data.callId.cast.isSome)
      (replied : outcome.reply = .ok reply)
    : Entrance gateway (.callAccept socketId data) outcome data.callId socketId
  | matched {sender preferredType callId outcome other socketId}
      (told : outcome.outputs.any (Output.matches callId other) = true)
      (private_room : (.socket other, socketId) ∈ gateway.rooms)
    : Entrance gateway (.joinQueue sender preferredType callId) outcome (.uuid callId)
        socketId
  | seated {socketId roomId outcome}
    : Entrance gateway (.sfuJoin socketId roomId) outcome roomId socketId

/-- Everybody in a room has been there before or has entered in one of these ways. -/
theorem Turn.entrance {gateway : Gateway} {event : Event} {outcome : Outcome}
    (turn : Turn gateway event outcome) {name : Text} {socketId : SocketId}
    (member : (name, socketId) ∈ outcome.gateway.seats.rooms)
    : Entrance gateway event outcome name socketId := by
  cases turn with
  | quiet _ _ same =>
      rw [same] at member
      exact .stayed member
  | connected seats =>
      rw [seats] at member
      rcases List.mem_insert_iff.mp member with same | before
      · cases same
        exact .connected
      · exact .stayed before
  | dropped _ seats =>
      rw [seats] at member
      exact .stayed (List.mem_filter.mp member).1
  | gone _ seats =>
      rw [seats, Seats.forget_rooms] at member
      exact .stayed (List.mem_filter.mp member).1
  | initiated _ replied seats =>
      rw [seats] at member
      rcases List.mem_insert_iff.mp member with same | before
      · cases same
        exact .initiated replied
      · rw [Seats.setCallId, Seats.updateMeta_rooms] at before
        exact .stayed before
  | accepted _ named replied seats =>
      rw [seats] at member
      rcases List.mem_insert_iff.mp member with same | before
      · cases same
        exact .accepted named replied
      · rw [Seats.setCallId, Seats.updateMeta_rooms] at before
        exact .stayed before
  | ended _ _ _ seats =>
      rw [seats, Seats.setCallId, Seats.updateMeta_rooms] at member
      exact .stayed (List.mem_filter.mp member).1
  | @paired _ _ callId _ a b told seats =>
      rw [seats, Seats.setCallId, Seats.updateMeta_rooms, Seats.setCallId,
        Seats.updateMeta_rooms, Seats.mem_socketsJoin, Seats.mem_socketsJoin,
        Seats.mem_socketsJoin] at member
      rcases member with (before | ⟨rfl, entered⟩) | ⟨rfl, entered | ⟨other, _⟩⟩
      · exact .stayed before
      · exact .matched (told a.socketId (.inl rfl)) entered
      · exact .matched (told b.socketId (.inr rfl)) entered
      · cases other
  | seated _ _ seats =>
      rw [seats] at member
      rcases List.mem_insert_iff.mp member with same | before
      · cases same
        exact .seated
      · rw [Seats.setRoomId, Seats.updateMeta_rooms, Seats.openRoom_rooms] at before
        exact .stayed before
  | opened _ _ seats =>
      rw [seats] at member
      exact .stayed member

/-- An emission to a room has reached only sockets in that room, and one to a socket only this
socket; `inside` says who is in which room. -/
def Output.Reaches (inside : Text × SocketId → Prop) : Output → Prop
  | .emit emission =>
      ∀ receiver ∈ emission.receivers,
        match emission.target with
        | .room name _ => inside (name, receiver)
        | .client socketId => receiver = socketId
        | .everyone => True
  | _ => True

/-- All outputs of a handler reach nobody else. -/
def AllReach (inside : Text × SocketId → Prop) (outputs : List Output) : Prop :=
  ∀ output ∈ outputs, output.Reaches inside

section Outputs

variable {inside : Text × SocketId → Prop}

@[simp]
theorem allReach_nil : AllReach inside [] := by simp [AllReach]

@[simp]
theorem allReach_cons {output : Output} {rest : List Output}
    : AllReach inside (output :: rest) ↔ output.Reaches inside ∧ AllReach inside rest := by
  simp [AllReach]

@[simp]
theorem allReach_append {first second : List Output}
    : AllReach inside (first ++ second)
      ↔ AllReach inside first ∧ AllReach inside second := by
  simp only [AllReach, List.mem_append]
  constructor
  · intro both
    exact ⟨fun output member => both output (.inl member),
      fun output member => both output (.inr member)⟩
  · rintro ⟨early, late⟩ output (member | member)
    · exact early output member
    · exact late output member

/-- Socket.IO delivers to the members of a room. -/
theorem emit_reaches {gateway : Gateway} (members : ∀ entry ∈ gateway.rooms, inside entry)
    (target : Target) (message : Message)
    : (gateway.emit target message).Reaches inside := by
  intro receiver receives
  cases target with
  | room name sender =>
      obtain ⟨member, _⟩ := List.mem_filter.mp receives
      exact members _ (mem_members.mp member)
  | client socketId =>
      simp only [Gateway.receivers] at receives
      split at receives
      · exact List.mem_singleton.mp receives
      · cases receives
  | everyone => trivial

theorem emitToTabs_reach {gateway : Gateway} (members : ∀ entry ∈ gateway.rooms, inside entry)
    (userId : Text) (message : Message)
    : AllReach inside (gateway.emitToTabs userId message) := by
  intro output sent
  obtain ⟨socketId, _, rfl⟩ := List.mem_map.mp sent
  exact emit_reaches members _ message

@[simp]
theorem log_reach (db : Database) (userId : Option Uuid) (event : AuditEvent)
    : AllReach inside (AuditService.log db userId event) := by
  unfold AuditService.log
  split
  · simp [Output.Reaches]
  · simp

@[simp]
theorem updateStatus_reach (now : Time) (db : Database) (id : Uuid) (update : StatusUpdate)
    : AllReach inside (CallsRepository.updateStatus now db id update).2 := by
  unfold CallsRepository.updateStatus
  split
  · simp
  · simp [Output.Reaches]

@[simp]
theorem endCall_reach (now : Time) (db : Database) (params : CallsService.EndParams)
    : AllReach inside (CallsService.endCall now db params).outputs := by
  unfold CallsService.endCall
  split
  · simp
  · simp

@[simp]
theorem initiateCall_reach (now : Time) (db : Database) (id : Uuid)
    (params : CallsService.InitiateParams)
    : AllReach inside (CallsService.initiateCall now db id params).outputs := by
  unfold CallsService.initiateCall
  split
  · simp
  · split
    · simp
    · simp

@[simp]
theorem acceptCall_reach (now : Time) (db : Database) (params : CallsService.AcceptParams)
    : AllReach inside (CallsService.acceptCall now db params).outputs := by
  unfold CallsService.acceptCall
  split
  · simp
  · split
    · simp
    · dsimp only
      split
      · simp
      · simp

@[simp]
theorem toggleCallType_reach (now : Time) (db : Database) (callId : Text) (userId : Uuid)
    (newType : CallType)
    : AllReach inside (CallsService.toggleCallType now db callId userId newType).outputs := by
  unfold CallsService.toggleCallType
  split
  · simp
  · simp

@[simp]
theorem toggleMedia_reach (db : Database) (params : CallsService.MediaParams)
    : AllReach inside (CallsService.toggleMedia db params).outputs := by
  unfold CallsService.toggleMedia
  split
  · simp
  · split
    · simp
    · unfold CallsService.mediaLog
      cases params.mic <;> cases params.camera <;> simp

@[simp]
theorem requestContactSave_reach (db : Database) (id : Uuid) (callId : Text)
    (fromUserId : Uuid) (toUserId : Text)
    : AllReach inside
        (ContactsService.requestContactSave db id callId fromUserId toUserId).outputs := by
  unfold ContactsService.requestContactSave
  split
  · dsimp only
    split
    · simp
    · split
      · simp
      · simp
  · simp

end Outputs

section Handlers

variable {inside : Text × SocketId → Prop} (now : Time) (gateway : Gateway)
  (socketId : SocketId)

theorem forget_reach (known : SocketMeta) (members : ∀ entry ∈ gateway.rooms, inside entry)
    : AllReach inside (SignalingGateway.forget gateway socketId known).outputs := by
  have forgotten
      : ∀ entry ∈ (SignalingGateway.forget gateway socketId known).gateway.rooms,
          inside entry := by
    rwa [forget_rooms]
  revert forgotten
  simp only [SignalingGateway.forget, allReach_append, allReach_cons, allReach_nil, and_true]
  intro forgotten
  refine ⟨?_, emit_reaches forgotten _ _⟩
  split
  · simp
  · simpa using emit_reaches members _ _

theorem disconnect_reach (members : ∀ entry ∈ gateway.rooms, inside entry)
    : AllReach inside (SignalingGateway.handleDisconnect now gateway socketId).outputs := by
  have left
      : ∀ entry ∈ gateway.rooms.filter (fun entry => entry.2 ≠ socketId), inside entry :=
    fun entry member => members entry (List.mem_filter.mp member).1
  unfold SignalingGateway.handleDisconnect
  dsimp only
  split
  · simp
  · unfold SignalingGateway.endOrForget
    split
    · exact forget_reach _ _ _ left
    · dsimp only
      split
      · simp
      · simp only [allReach_append, endCall_reach, allReach_cons, true_and]
        exact ⟨emit_reaches left _ _, forget_reach _ _ _ left⟩

/-- A pairing emits after everybody has entered. -/
theorem joinQueue_reach (preferredType : Option CallType) (callId : Uuid)
    (before : ∀ entry ∈ gateway.rooms, inside entry)
    : (∀ entry
          ∈ (SignalingGateway.onJoinQueue now gateway socketId preferredType callId
              |>.gateway.rooms),
          inside entry)
      → AllReach inside
          (SignalingGateway.onJoinQueue now gateway socketId preferredType callId).outputs := by
  have paired (gateway' : Gateway)
      : (∀ entry ∈ (SignalingGateway.tryPairUsers now gateway' callId).gateway.rooms,
          inside entry)
        → AllReach inside (SignalingGateway.tryPairUsers now gateway' callId).outputs := by
    unfold SignalingGateway.tryPairUsers
    dsimp only
    split
    · simp
    · unfold SignalingGateway.pairUsers
      dsimp only
      split
      · simp
      · split
        · simp
        · intro after
          simp only [allReach_append, initiateCall_reach, acceptCall_reach, allReach_cons,
            allReach_nil, true_and, and_true]
          exact ⟨emit_reaches after _ _, emit_reaches after _ _⟩
  unfold SignalingGateway.onJoinQueue
  split
  · simp [Outcome.refused]
  · dsimp only
    split
    · intro after
      rw [allReach_cons]
      exact ⟨emit_reaches before _ _, paired _ after⟩
    · intro after
      simp only [List.cons_append, allReach_cons, allReach_append, allReach_nil, and_true]
      exact ⟨emit_reaches before _ _, paired _ after, emit_reaches after _ _⟩

/-- All emissions of a handler reach only the members that rooms have before or after it. -/
theorem handle_reach (runtime : Runtime) (event : Event)
    (before : ∀ entry ∈ gateway.rooms, inside entry)
    (after : ∀ entry ∈ (handle runtime now gateway event).gateway.rooms, inside entry)
    : AllReach inside (handle runtime now gateway event).outputs := by
  revert after
  cases event with
  | register userId email => exact fun _ => allReach_nil
  | connect socketId userId anonymousId =>
      intro after
      exact allReach_cons.mpr ⟨emit_reaches after _ _, allReach_nil⟩
  | disconnect socketId => exact fun _ => disconnect_reach now gateway socketId before
  | callInitiate socketId data callId =>
      simp only [handle, SignalingGateway.onCallInitiate]
      split
      · simp [Outcome.refused]
      · split
        · simp [Outcome.refused]
        · split
          · simp
          · intro after
            rw [allReach_append]
            exact ⟨initiateCall_reach _ _ _ _, emitToTabs_reach after _ _⟩
  | missedCall callId =>
      simp only [handle]
      split
      · simp
      · unfold SignalingGateway.missedCall
        dsimp only
        split
        · split
          · simp
          · intro after
            rw [allReach_append, allReach_cons]
            exact ⟨endCall_reach _ _ _, emit_reaches after _ _, allReach_nil⟩
        · simp
  | callAccept socketId data =>
      simp only [handle, SignalingGateway.onCallAccept]
      split
      · simp [Outcome.refused]
      · split
        · simp [Outcome.refused]
        · split
          · simp [Outcome.refused]
          · split
            · simp
            · intro after
              rw [allReach_append, allReach_cons]
              exact ⟨acceptCall_reach _ _ _, emit_reaches after _ _, allReach_nil⟩
  | callReject socketId callId =>
      simp only [handle, SignalingGateway.onCallReject]
      split
      · simp [Outcome.refused]
      · split
        · simp [Outcome.refused]
        · split
          · simp
          · intro after
            rw [allReach_append, allReach_cons]
            exact ⟨endCall_reach _ _ _, emit_reaches after _ _, allReach_nil⟩
  | callEnd socketId callId =>
      simp only [handle, SignalingGateway.onCallEnd]
      split
      · simp [Outcome.refused]
      · split
        · simp
        · intro _
          rw [allReach_append, allReach_cons]
          exact ⟨endCall_reach _ _ _, emit_reaches before _ _, allReach_nil⟩
  | signalOffer socketId callId sdp =>
      exact fun _ => allReach_cons.mpr ⟨emit_reaches before _ _, allReach_nil⟩
  | signalAnswer socketId callId sdp =>
      exact fun _ => allReach_cons.mpr ⟨emit_reaches before _ _, allReach_nil⟩
  | signalIce socketId callId candidate =>
      exact fun _ => allReach_cons.mpr ⟨emit_reaches before _ _, allReach_nil⟩
  | mediaToggle socketId data =>
      simp only [handle, SignalingGateway.onMediaToggle]
      split
      · simp [Outcome.refused]
      · split
        · simp
        · intro after
          rw [allReach_append, allReach_cons]
          exact ⟨toggleMedia_reach _ _, emit_reaches after _ _, allReach_nil⟩
  | switchType socketId data =>
      simp only [handle, SignalingGateway.onSwitchType]
      split
      · simp [Outcome.refused]
      · split
        · simp
        · intro after
          rw [allReach_append, allReach_cons]
          exact ⟨toggleCallType_reach _ _ _ _ _, emit_reaches after _ _, allReach_nil⟩
  | joinQueue socketId preferredType callId =>
      exact joinQueue_reach now gateway socketId preferredType callId before
  | leaveQueue socketId =>
      exact fun after => allReach_cons.mpr ⟨emit_reaches after _ _, allReach_nil⟩
  | queueStatusRequest socketId =>
      exact fun _ => allReach_cons.mpr ⟨emit_reaches before _ _, allReach_nil⟩
  | sfuJoin socketId roomId =>
      simp only [handle, SignalingGateway.onSfuJoin]
      split
      · simp [Outcome.refused]
      · split
        · simp [Outcome.refused]
        · intro after
          rw [allReach_append, allReach_cons]
          refine ⟨?_, emit_reaches after _ _, log_reach _ _ _⟩
          split
          · exact log_reach _ _ _
          · exact allReach_nil
  | createTransport socketId roomId transportId =>
      simp only [handle, SignalingGateway.onCreateTransport]
      split
      · simp [Outcome.refused]
      · simp
  | produce socketId data producerId =>
      simp only [handle, SignalingGateway.onProduce]
      split
      · simp [Outcome.refused]
      · exact fun _ => allReach_cons.mpr ⟨emit_reaches before _ _, allReach_nil⟩
  | requestContactSave socketId data requestId =>
      simp only [handle, SignalingGateway.onRequestContactSave]
      split
      · simp [Outcome.refused]
      · split
        · simp [Outcome.refused]
        · split
          · simp
          · intro after
            rw [allReach_append]
            exact ⟨requestContactSave_reach _ _ _ _ _, emitToTabs_reach after _ _⟩

end Handlers

/-- A member of a socket's own room is this socket, and a member of a call's room has entered
the call. -/
structure Entitled (world : World) (entry : Text × SocketId) : Prop where
  own {socketId : SocketId} (named : entry.1 = .socket socketId) : entry.2 = socketId
  call {callId : Uuid} (cast : entry.1.cast = some callId)
    (exists_call : (world.session callId).isSome)
    : world.entered callId entry.2 = true

/-- Everybody is entitled to be where it is. -/
structure RoomsPrivate (world : World) : Prop where
  seated : Seated world
  members : ∀ entry ∈ world.gateway.rooms, Entitled world entry

section Steps

variable {runtime : Runtime} {world : World} {stimulus : Stimulus}

/-- Who has entered a call has entered it for good. -/
theorem entered_stays {callId : Uuid} {socketId : SocketId}
    (before : world.entered callId socketId = true)
    : (world.after runtime stimulus).entered callId socketId = true := by
  simp only [World.entered, World.after, List.any_append, Bool.or_eq_true]
  exact .inl before

/-- The event brings a socket into a call. -/
theorem entered_now {callId : Uuid} {socketId : SocketId}
    (enters
      : Occurrence.enters callId socketId
          ⟨stimulus.event, stimulus.event.sender.bind world.userOf,
            (handle runtime stimulus.now world.gateway stimulus.event).reply,
            (handle runtime stimulus.now world.gateway stimulus.event).outputs⟩
        = true)
    : (world.after runtime stimulus).entered callId socketId = true := by
  simp only [World.entered, World.after, List.any_append, List.any_cons, Bool.or_eq_true]
  exact .inr (.inl enters)

/-- A new call finds nobody in a room of its name, so everybody stays entitled. -/
theorem Entitled.stays (kept : entersOwn world stimulus = true) {entry : Text × SocketId}
    (member : entry ∈ world.gateway.rooms) (entitled : Entitled world entry)
    : Entitled (world.after runtime stimulus) entry where
  own := entitled.own
  call {callId} cast exists_call := by
    cases before : world.session callId with
    | some row =>
        have existed : (world.session callId).isSome := by
          rw [before]
          rfl
        exact entered_stays (entitled.call cast existed)
    | none =>
        have creates := session_created before exists_call
        have outside (rooms
            : world.gateway.rooms.all (fun entry => decide (entry.1.cast ≠ some callId))
              = true)
            : False := by
          have apart := List.all_eq_true.mp rooms entry member
          simp [cast] at apart
        unfold Event.creates at creates
        split at creates
        · next sent =>
            obtain rfl := decide_eq_true_eq.mp creates
            simp only [entersOwn, sent] at kept
            exact (outside kept).elim
        · next sent =>
            obtain rfl := decide_eq_true_eq.mp creates
            simp only [entersOwn, sent] at kept
            exact (outside kept).elim
        · cases creates

/-- A call that is joined as a room of the SFU has been entered before. -/
theorem joins_own (kept : entersOwn world stimulus = true) {socketId : SocketId}
    {roomId : Text} {callId : Uuid} (sent : stimulus.event = .sfuJoin socketId roomId)
    (cast : roomId.cast = some callId) (existed : (world.session callId).isSome)
    : world.entered callId socketId = true := by
  have own
      : roomId.cast.all
          (fun callId => (world.session callId).isNone || world.entered callId socketId)
        = true := by
    cases roomId with
    | socket other => cases cast
    | uuid id => simpa [entersOwn, sent] using kept
    | variant id spelling => simpa [entersOwn, sent] using kept
    | other spelling => cases cast
    | empty => cases cast
  obtain ⟨row, found⟩ := Option.isSome_iff_exists.mp existed
  simpa [cast, found] using own

/-- A step that meets the condition lets nobody in who is not entitled. -/
theorem RoomsPrivate.step (inv : RoomsPrivate world) (admitted : world.admits stimulus = true)
    (kept : entersOwn world stimulus = true)
    : RoomsPrivate (world.after runtime stimulus) where
  seated := inv.seated.step admitted
  members := by
    rintro ⟨name, socketId⟩ member
    have turn := handle_turn runtime stimulus.now world.gateway stimulus.event
    have entrance := turn.entrance member
    generalize done : handle runtime stimulus.now world.gateway stimulus.event = outcome
      at entrance
    generalize sent : stimulus.event = event at entrance
    cases entrance with
    | stayed before => exact (inv.members _ before).stays kept before
    | connected =>
        refine ⟨fun named => ?_, fun cast _ => (by cases cast)⟩
        cases named
        rfl
    | @initiated _ data callId _ reply replied =>
        refine ⟨fun named => (by cases named), fun {id} cast _ => ?_⟩
        obtain rfl : callId = id := Option.some.inj cast
        refine entered_now ?_
        rw [done]
        simp [Occurrence.enters, sent, replied]
    | @accepted _ data _ reply named replied =>
        refine ⟨fun same => ?_, fun {id} cast _ => ?_⟩
        · change data.callId = _ at same
          rw [same] at named
          cases named
        · refine entered_now ?_
          rw [done]
          simpa [Occurrence.enters, sent, replied] using cast
    | @matched sender preferredType callId _ other _ told private_room =>
        refine ⟨fun named => (by cases named), fun {id} cast _ => ?_⟩
        obtain rfl : callId = id := Option.some.inj cast
        obtain rfl : socketId = other := (inv.members _ private_room).own rfl
        refine entered_now ?_
        rw [done]
        simpa [Occurrence.enters, sent] using told
    | seated =>
        refine ⟨fun {other} named => ?_, fun {id} cast exists_call => ?_⟩
        · change name = _ at named
          rw [named] at sent
          simpa [entersOwn, sent, eq_comm] using kept
        · have existed : (world.session id).isSome := by
            cases before : world.session id with
            | some row => rfl
            | none =>
                have creates := session_created before exists_call
                rw [sent] at creates
                cases creates
          exact entered_stays (joins_own kept sent cast existed)

/-- So all that it emits is discreet. -/
theorem RoomsPrivate.discreet (inv : RoomsPrivate world)
    (admitted : world.admits stimulus = true) (kept : entersOwn world stimulus = true)
    : DiscreetStep runtime world stimulus := by
  intro emission sent
  have next : RoomsPrivate (world.after runtime stimulus) := inv.step admitted kept
  have reach := handle_reach stimulus.now world.gateway runtime stimulus.event
    (fun entry member => (inv.members entry member).stays kept member) next.members
  have reaches := reach _ sent
  refine ⟨?_, ?_, ?_⟩
  · intro socketId receiver target receives
    have only := reaches receiver receives
    rw [target] at only
    exact only
  · intro socketId receiver sender target receives
    have only := reaches receiver receives
    rw [target] at only
    exact only.own rfl
  · intro name sender callId receiver target cast exists_call receives
    have only := reaches receiver receives
    rw [target] at only
    exact only.call cast exists_call

end Steps

/-- In every run in which nobody joins another socket's room, or a call that it has not
entered, as a room of the SFU, every step is discreet. -/
theorem rooms_confidential {runtime : Runtime} {actions first rest : List Stimulus}
    {stimulus : Stimulus} {before world : World}
    (run : (gatewayMachine runtime).Reaches actions world)
    (kept
      : (gatewayMachine runtime).Along
          (fun before stimulus => entersOwn before stimulus = true) .start actions)
    (split : actions = first ++ stimulus :: rest)
    (reached : (gatewayMachine runtime).Reaches first before)
    : DiscreetStep runtime before stimulus := by
  subst split
  obtain ⟨middle, ran, later⟩ := Machine.exec_append_some _ run
  obtain rfl : before = middle := Option.some.inj (reached.symm.trans ran)
  obtain ⟨next, taken, _⟩ := Option.bind_eq_some_iff.mp later
  have admitted := (step_eq_some.mp taken).1
  have startPrivate : RoomsPrivate .start := ⟨seated_start, by simp [World.start, Gateway.empty]⟩
  have inv : RoomsPrivate before := by
    refine kept.left.exec_preserves RoomsPrivate ?_ startPrivate reached
    intro state action next inv own step
    obtain ⟨admitted, rfl⟩ := step_eq_some.mp step
    exact inv.step admitted own
  exact inv.discreet admitted (kept.right ran).1

/-- The callee accepts, and the caller sends an offer. -/
def offered : List Stimulus := ringing ++ [
  ⟨2, .callAccept 12 ⟨.uuid 201, .video⟩⟩,
  ⟨3, .signalOffer 11 (.uuid 201) "offer"⟩
]

/-- Nobody but the callee receives the offer. -/
theorem rooms_confidential_offer
    : DiscreetStep plainRuntime (worldAfter offered.dropLast)
        ⟨3, .signalOffer 11 (.uuid 201) "offer"⟩ := by
  have run : (gatewayMachine plainRuntime).Reaches offered (worldAfter offered) := rfl
  exact rooms_confidential run (by decide) (show offered = offered.dropLast ++ _ :: [] from rfl) rfl

/-- A third user joins the call and the callee's socket as rooms of the SFU. -/
def eavesdrops : List Stimulus := strangerConnects ++ [
  ⟨2, .sfuJoin 13 (.uuid 201)⟩,
  ⟨2, .sfuJoin 13 (.socket 12)⟩
]

/-- The caller's offer, and a second call of the same callee. -/
def overheard : Stimulus × Stimulus :=
  (⟨3, .signalOffer 11 (.uuid 201) "offer"⟩,
    ⟨3, .callInitiate 11 ⟨some "callee@example.org", none, .voice⟩ 202⟩)

/-- The third user receives the caller's offer and the next `call:incoming` of the callee. -/
theorem stranger_overhears
    : (gatewayMachine plainRuntime).Reaches eavesdrops (worldAfter eavesdrops)
      ∧ (worldAfter eavesdrops).admits overheard.1 = true
      ∧ (worldAfter eavesdrops).admits overheard.2 = true
      ∧ ((worldAfter eavesdrops).after plainRuntime overheard.1).entered 201 13 = false
      ∧ ¬ DiscreetStep plainRuntime (worldAfter eavesdrops) overheard.1
      ∧ ¬ DiscreetStep plainRuntime (worldAfter eavesdrops) overheard.2 := by
  refine ⟨rfl, by decide, by decide, by decide, fun discreet => ?_, fun discreet => ?_⟩
  · have offer := discreet
      ⟨.room (.uuid 201) (some 11), .signalOffer (.uuid 201) "offer", [13],
        (worldAfter eavesdrops).gateway.rooms⟩
      (by decide)
    have entered
        : ((worldAfter eavesdrops).after plainRuntime overheard.1).entered 201 13 = true :=
      offer.call_room rfl rfl (by decide) (by decide)
    exact absurd entered (by decide)
  · have incoming := discreet
      ⟨.room (.socket 12) none, .callIncoming 202 (some 1) (some 1) .voice, [13, 12],
        (worldAfter (eavesdrops ++ [overheard.2])).gateway.rooms⟩
      (by decide)
    have callee : 13 = 12 := incoming.private_room rfl (by decide)
    exact absurd callee (by decide)

end NexusComms.Signaling
