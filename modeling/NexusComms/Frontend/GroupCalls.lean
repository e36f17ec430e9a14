import NexusComms.Concurrency.Refinement
import NexusComms.Frontend.MediaDevices
import NexusComms.Signaling.Occupancy

/-! Group calls from the browser: any number of pages of rooms with `useSFU`, the gateway, and
whatever else uses it. The hook waits for events of its own, and the gateway answers by
acknowledgements, for which the hook does not ask.
-/

namespace NexusComms.Signaling

/-- The name under which the gateway emits an event. -/
def Message.name : Message → String
  | queueStatus _ _ => "match:queue-status"
  | callIncoming _ _ _ _ => "call:incoming"
  | callMissed _ => "call:missed"
  | callAccepted _ _ _ => "call:accepted"
  | callRejected _ => "call:rejected"
  | callEnded _ _ => "call:ended"
  | signalOffer _ _ => "signal:offer"
  | signalAnswer _ _ => "signal:answer"
  | signalIce _ _ => "signal:ice"
  | participantMedia _ _ _ _ => "participant:media"
  | callTypeChanged _ _ => "call:type-changed"
  | matchQueued _ _ _ => "match:queued"
  | matchFound _ _ _ _ _ => "match:found"
  | participantLeft _ => "participant:left"
  | participantJoined _ _ => "participant:joined"
  | newProducer _ _ => "sfu:new-producer"
  | contactSaveRequest _ _ _ => "contact:save-request"

/-- The events by which clients use the SFU. -/
def Event.usesSfu : Event → Bool
  | .sfuJoin _ _ | .createTransport _ _ _ | .produce _ _ _ => true
  | _ => false

/-- No room of the SFU has a peer. -/
def Seats.Unpublished (seats : Seats) : Prop :=
  ∀ roomId room, seats.sfuRooms.lookup roomId = some room →
    room.participants = [] ∧ room.transports = []

namespace Seats.Unpublished

variable {seats : Seats}

theorem of_eq {seats' : Seats} (unpublished : seats.Unpublished)
    (same : seats'.sfuRooms = seats.sfuRooms)
    : seats'.Unpublished := by
  intro roomId room found
  rw [same] at found
  exact unpublished roomId room found

/-- A new room is empty. -/
theorem openRoom (unpublished : seats.Unpublished) (roomId : Text)
    : (seats.openRoom roomId).Unpublished := by
  unfold Seats.openRoom
  split
  · intro other room found
    by_cases same : other = roomId
    · subst same
      rw [AList.lookup_insert] at found
      cases found
      exact ⟨rfl, rfl⟩
    · rw [AList.lookup_insert_ne same] at found
      exact unpublished other room found
  · exact unpublished

/-- A room without peers does not outlast a removal. -/
theorem removeParticipant_lookup (unpublished : seats.Unpublished) (roomId : Text)
    (peerId : SocketId)
    : (seats.removeParticipant roomId peerId).sfuRooms.lookup roomId = none := by
  unfold Seats.removeParticipant
  cases found : seats.sfuRooms.lookup roomId with
  | none => exact found
  | some room =>
      have emptied : (withoutPeer room peerId).participants = [] := by
        simp [withoutPeer, (unpublished roomId room found).1]
      dsimp only
      rw [if_pos emptied]
      exact AList.lookup_erase roomId _

theorem removeParticipant (unpublished : seats.Unpublished) (roomId : Text)
    (peerId : SocketId)
    : (seats.removeParticipant roomId peerId).Unpublished := by
  intro other room found
  by_cases same : other = roomId
  · subst same
    rw [unpublished.removeParticipant_lookup] at found
    cases found
  · refine unpublished other room ?_
    unfold Seats.removeParticipant at found
    split at found
    · exact found
    · split at found
      · rwa [AList.lookup_erase_ne same] at found
      · rwa [AList.lookup_insert_ne same] at found

theorem forget (unpublished : seats.Unpublished) (socketId : SocketId) (known : SocketMeta)
    : (seats.forget socketId known).Unpublished := by
  unfold Seats.forget
  dsimp only
  split
  · exact unpublished.of_eq rfl
  · exact (unpublished.removeParticipant _ socketId).of_eq rfl

/-- Of all events, only `sfu:create-transport` puts a peer into a room. -/
theorem turn {gateway : Gateway} {event : Event} {outcome : Outcome}
    (unpublished : gateway.seats.Unpublished) (turn : Turn gateway event outcome)
    (quiet
      : ∀ socketId roomId transportId, event ≠ .createTransport socketId roomId transportId)
    : outcome.gateway.seats.Unpublished := by
  cases turn with
  | quiet _ _ same => exact same ▸ unpublished
  | connected seats => exact seats ▸ unpublished.of_eq rfl
  | dropped _ seats => exact seats ▸ unpublished.of_eq rfl
  | @gone socketId known _ _ seats =>
      have left : (gateway.seats.leaveAll socketId).Unpublished := unpublished.of_eq rfl
      exact seats ▸ left.forget socketId known
  | initiated _ _ seats => exact seats ▸ unpublished.of_eq (by simp)
  | accepted _ _ _ seats => exact seats ▸ unpublished.of_eq (by simp)
  | ended _ _ _ seats => exact seats ▸ unpublished.of_eq (by simp)
  | paired a b _ seats => exact seats ▸ unpublished.of_eq (by simp)
  | @seated _ roomId _ _ _ seats =>
      exact seats ▸ (unpublished.openRoom roomId).of_eq (by simp)
  | opened _ _ _ => exact (quiet _ _ _ rfl).elim

end Seats.Unpublished

end NexusComms.Signaling

namespace NexusComms.Frontend

open Concurrency Matchmaking Signaling

/-- What the listeners of `useSFU` are called with, as far as they read it. The capabilities of
a router go by its id. -/
inductive SfuEvent where
  | joined (routerRtpCaps : Uuid)
  | transportCreated (transportId : Uuid)
  | transportConnected
  | produced (producerId : Uuid)
deriving DecidableEq, Repr

/-- The names that the hook listens to. -/
def SfuEvent.name : SfuEvent → String
  | joined _ => "sfu:joined"
  | transportCreated _ => "sfu:transport-created"
  | transportConnected => "sfu:transport-connected"
  | produced _ => "sfu:produced"

/-- What the hook and its page emit. -/
inductive SfuPacket where
  | join (roomId : Text)
  | leave (roomId : Text)
  | createTransport (roomId : Text)
  | connectTransport (roomId : Text) (transportId : Uuid)
  | produce (roomId : Text) (transportId : Uuid) (kind : TrackKind)
deriving DecidableEq, Repr

/-- The event of the gateway that a packet is. There is no handler for `sfu:leave`, and the one
for `sfu:connect-transport` changes nothing that the gateway keeps. -/
def SfuPacket.event (socketId : SocketId) (drawn : Uuid) : SfuPacket → Option Event
  | join roomId => some (.sfuJoin socketId roomId)
  | leave _ => none
  | createTransport roomId => some (.createTransport socketId roomId drawn)
  | connectTransport _ _ => none
  | produce roomId transportId _ => some (.produce socketId ⟨roomId, transportId⟩ drawn)

/-- A send transport of mediasoup-client. It asks to be connected when it first has something
to send, and produces its tracks one after the other. -/
structure SendTransport where
  transportId : Uuid
  connecting : Bool
  todo : List TrackKind
deriving DecidableEq, Repr

/-- The state of `useSFU`, its refs, and whether its effect is mounted. -/
structure UseSFU where
  roomId : Text
  isConnected : Bool := false
  localStream : Option (List TrackKind) := none
  device : Option Uuid := none
  error : Bool := false
  mounted : Bool := false
  sendTransport : Option SendTransport := none
  producers : List (TrackKind × Uuid) := []
deriving DecidableEq, Repr

namespace UseSFU

/-- The effect runs again, after its clean-up. -/
def effect (hook : UseSFU) : UseSFU × List SfuPacket :=
  let left := if hook.mounted then [.leave hook.roomId] else []
  if hook.isConnected ∧ hook.roomId.truthy then
    ({ hook with mounted := true }, left ++ [.join hook.roomId])
  else
    ({ hook with mounted := false }, left)

/-- `handleJoined`. The new device makes the effect run again, once the handler is through. -/
def handleJoined (loads : Uuid → Bool) (hook : UseSFU) (routerRtpCaps : Uuid)
    : UseSFU × List SfuPacket :=
  if loads routerRtpCaps then
    let again := effect { hook with device := some routerRtpCaps }
    (again.1, .createTransport hook.roomId :: again.2)
  else
    ({ hook with error := true }, [])

/-- `handleTransportCreated`: the first video track is produced, then the first audio track. -/
def handleTransportCreated (hook : UseSFU) (transportId : Uuid) : UseSFU × List SfuPacket :=
  if hook.device = none then
    (hook, [])
  else
    let tracks := hook.localStream.getD []
    let todo := [TrackKind.video, TrackKind.audio].filter (· ∈ tracks)
    (
      { hook with sendTransport := some ⟨transportId, todo ≠ [], todo⟩ },
      if todo = [] then [] else [.connectTransport hook.roomId transportId]
    )

/-- What a transport that is connected sends next. -/
def produceNext (roomId : Text) (transport : SendTransport) : List SfuPacket :=
  transport.todo.head?.toList.map (.produce roomId transport.transportId)

/-- The listener of `sfu:transport-connected`. -/
def handleTransportConnected (hook : UseSFU) : UseSFU × List SfuPacket :=
  match hook.sendTransport.filter SendTransport.connecting with
  | none => (hook, [])
  | some transport =>
      let connected := { transport with connecting := false }
      ({ hook with sendTransport := some connected }, produceNext hook.roomId connected)

/-- The listener of `sfu:produced`. -/
def handleProduced (hook : UseSFU) (producerId : Uuid) : UseSFU × List SfuPacket :=
  match hook.sendTransport.filter (fun transport => !transport.connecting) with
  | none => (hook, [])
  | some transport =>
      match transport.todo with
      | [] => (hook, [])
      | kind :: rest =>
          let left := { transport with todo := rest }
          (
            {
              hook with
              sendTransport := some left
              producers := hook.producers ++ [(kind, producerId)]
            },
            produceNext hook.roomId left
          )

/-- A listener is called. Those of the effect are there as long as it is mounted. -/
def receive (loads : Uuid → Bool) (hook : UseSFU) : SfuEvent → UseSFU × List SfuPacket
  | .joined routerRtpCaps =>
      if hook.mounted then hook.handleJoined loads routerRtpCaps else (hook, [])
  | .transportCreated transportId =>
      if hook.mounted then hook.handleTransportCreated transportId else (hook, [])
  | .transportConnected => hook.handleTransportConnected
  | .produced producerId => hook.handleProduced producerId

end UseSFU

/-- `RoomContent`, with the socket of its tab. -/
structure RoomPage where
  socketId : Option SocketId
  hook : UseSFU
deriving DecidableEq, Repr

/-- What happens to a page of a room, but for messages: its socket is connected under a new id,
or loses its connection, and the devices give another stream. -/
inductive RoomAction where
  | connected (socketId : SocketId)
  | disconnected
  | media (localStream : Option (List TrackKind))
deriving DecidableEq, Repr

def RoomPage.act (page : RoomPage) : RoomAction → RoomPage × List SfuPacket
  | .connected socketId =>
      if page.hook.isConnected then
        (page, [])
      else
        let done := { page.hook with isConnected := true }.effect
        (⟨some socketId, done.1⟩, done.2)
  | .disconnected =>
      if page.hook.isConnected then
        let done := { page.hook with isConnected := false }.effect
        (⟨none, done.1⟩, done.2)
      else
        (page, [])
  | .media localStream =>
      let done := { page.hook with localStream := localStream }.effect
      ({ page with hook := done.1 }, done.2)

/-- The pages and the gateway, and what is on its way between them. -/
structure GroupCalls where
  world : World
  pages : List RoomPage
  uplink : List (SocketId × SfuPacket)
  downlink : List (SocketId × Message)

/-- What happens next. All other events of the gateway come from anywhere at any time, and
packets arrive in any order. A listener reads anything in a message that it is called with. -/
inductive GroupMove where
  | other (stimulus : Stimulus)
  | openPage (roomId : Text)
  | act (index : Nat) (action : RoomAction)
  | handleLeave (index : Nat)
  | serve (now : Time) (position : Nat) (drawn : Uuid)
  | deliver (position index : Nat) (event : SfuEvent)
deriving DecidableEq, Repr

namespace GroupCalls

def start : GroupCalls := ⟨.start, [], [], []⟩

/-- What the emissions of a handler put on their way. -/
def sent (outputs : List Output) : List (SocketId × Message) :=
  outputs.flatMap
    (fun output =>
      match output with
      | .emit emission =>
          emission.receivers.map (fun socketId => (socketId, emission.message))
      | _ => [])

/-- A page goes on, and sends what it sends over its socket. -/
def put (system : GroupCalls) (index : Nat) (done : RoomPage × List SfuPacket) : GroupCalls :=
  {
    system with
    pages := system.pages.set index done.1
    uplink :=
      system.uplink
        ++ done.1.socketId.toList.flatMap
            (fun socketId => done.2.map (fun packet => (socketId, packet)))
  }

/-- The gateway handles an event, if it admits it. -/
def handled (runtime : Runtime) (system : GroupCalls) (stimulus : Stimulus)
    : Option GroupCalls :=
  (World.step runtime system.world stimulus).map (fun world =>
    {
      system with
      world := world
      downlink :=
        system.downlink
          ++ sent (handle runtime stimulus.now system.world.gateway stimulus.event).outputs
    })

def step (runtime : Runtime) (loads : Uuid → Bool) (system : GroupCalls)
    : GroupMove → Option GroupCalls
  | .other stimulus =>
      if stimulus.event.usesSfu then none else system.handled runtime stimulus
  | .openPage roomId =>
      some { system with pages := system.pages ++ [⟨none, { roomId := roomId }⟩] }
  | .act index action =>
      system.pages[index]?.map (fun page => system.put index (page.act action))
  | .handleLeave index =>
      system.pages[index]?.map (fun page =>
        {
          system.put index (page, [.leave page.hook.roomId]) with
          -- the disconnect of the socket is an event of its own
          pages := system.pages.eraseIdx index
        })
  | .serve now position drawn =>
      system.uplink[position]?.bind (fun entry =>
        let rest := { system with uplink := system.uplink.eraseIdx position }
        match entry.2.event entry.1 drawn with
        | none => some rest
        | some event => some ((rest.handled runtime ⟨now, event⟩).getD rest))
  | .deliver position index event =>
      system.downlink[position]?.bind (fun entry =>
        system.pages[index]?.bind (fun page =>
          if page.socketId = some entry.1 then
            let rest := { system with downlink := system.downlink.eraseIdx position }
            if event.name = entry.2.name then
              let done := page.hook.receive loads event
              some (rest.put index ({ page with hook := done.1 }, done.2))
            else
              some rest
          else
            none))

/-- Every run of the pages of rooms with the gateway. -/
abbrev machine (runtime : Runtime) (loads : Uuid → Bool) : Machine GroupCalls GroupMove where
  init := start
  step := step runtime loads

end GroupCalls

-----------------------------------------------------------------------------------------
-- The hook does not get beyond its join
-----------------------------------------------------------------------------------------

/-- The hook has no device, and so it has neither a transport nor a producer. -/
structure UseSFU.Idle (hook : UseSFU) : Prop where
  device : hook.device = none
  sendTransport : hook.sendTransport = none
  producers : hook.producers = []

/-- The packets that a hook without a device sends. -/
def SfuPacket.idle : SfuPacket → Bool
  | .join _ | .leave _ => true
  | _ => false

/-- The gateway emits nothing that the hook listens to. -/
theorem name_ne (event : SfuEvent) (message : Message) : event.name ≠ message.name := by
  cases event with
  | joined _ => cases message <;> simp [SfuEvent.name, Message.name]
  | transportCreated _ => cases message <;> simp [SfuEvent.name, Message.name]
  | transportConnected => cases message <;> simp [SfuEvent.name, Message.name]
  | produced _ => cases message <;> simp [SfuEvent.name, Message.name]

/-- The effect only joins and leaves. -/
theorem UseSFU.Idle.effect {hook : UseSFU} (idle : hook.Idle)
    : hook.effect.1.Idle ∧ ∀ packet ∈ hook.effect.2, packet.idle = true := by
  have left : ∀ packet ∈ (if hook.mounted then [SfuPacket.leave hook.roomId] else []),
      packet.idle = true := by
    intro packet member
    split at member
    · cases List.mem_singleton.mp member
      rfl
    · cases member
  unfold UseSFU.effect
  dsimp only
  split
  · refine ⟨⟨idle.device, idle.sendTransport, idle.producers⟩, fun packet member => ?_⟩
    rcases List.mem_append.mp member with before | join
    · exact left packet before
    · cases List.mem_singleton.mp join
      rfl
  · exact ⟨⟨idle.device, idle.sendTransport, idle.producers⟩, left⟩

theorem UseSFU.Idle.act {page : RoomPage} (idle : page.hook.Idle) (action : RoomAction)
    : (page.act action).1.hook.Idle ∧ ∀ packet ∈ (page.act action).2, packet.idle = true := by
  have kept : page.hook.Idle ∧ ∀ packet ∈ ([] : List SfuPacket), packet.idle = true :=
    ⟨idle, fun _ member => by cases member⟩
  cases action with
  | connected socketId =>
      unfold RoomPage.act
      dsimp only
      split
      · exact kept
      · exact Idle.effect ⟨idle.device, idle.sendTransport, idle.producers⟩
  | disconnected =>
      unfold RoomPage.act
      dsimp only
      split
      · exact Idle.effect ⟨idle.device, idle.sendTransport, idle.producers⟩
      · exact kept
  | media localStream =>
      exact Idle.effect ⟨idle.device, idle.sendTransport, idle.producers⟩

namespace GroupCalls

/-- Nothing gets beyond the joins. -/
structure Silent (system : GroupCalls) : Prop where
  pages : ∀ page ∈ system.pages, page.hook.Idle
  uplink : ∀ entry ∈ system.uplink, entry.2.idle = true
  rooms : system.world.gateway.seats.Unpublished

section

variable {runtime : Runtime} {loads : Uuid → Bool} {system next : GroupCalls}

/-- A page goes on. -/
theorem Silent.put (silent : Silent system) (index : Nat) {done : RoomPage × List SfuPacket}
    (idle : done.1.hook.Idle ∧ ∀ packet ∈ done.2, packet.idle = true)
    : Silent (system.put index done) where
  pages page member := by
    rcases List.mem_or_eq_of_mem_set member with before | rfl
    · exact silent.pages page before
    · exact idle.1
  uplink entry member := by
    rcases List.mem_append.mp member with before | new
    · exact silent.uplink entry before
    · obtain ⟨_, _, packets⟩ := List.mem_flatMap.mp new
      obtain ⟨packet, among, rfl⟩ := List.mem_map.mp packets
      exact idle.2 packet among
  rooms := silent.rooms

/-- The gateway handles an event that adds no transport. -/
theorem Silent.handled (silent : Silent system) {stimulus : Stimulus}
    (quiet
      : ∀ socketId roomId transportId,
          stimulus.event ≠ .createTransport socketId roomId transportId)
    (done : system.handled runtime stimulus = some next)
    : Silent next := by
  obtain ⟨world, stepped, rfl⟩ := Option.map_eq_some_iff.mp done
  obtain ⟨_, rfl⟩ := step_eq_some.mp stepped
  exact ⟨silent.pages, silent.uplink, silent.rooms.turn (handle_turn runtime _ _ _) quiet⟩

/-- Every move keeps it so. -/
theorem Silent.step (silent : Silent system) {move : GroupMove}
    (taken : GroupCalls.step runtime loads system move = some next)
    : Silent next := by
  cases move with
  | other stimulus =>
      obtain ⟨others, done⟩ := Option.ite_none_left_eq_some.mp taken
      refine silent.handled (fun socketId roomId transportId sent => ?_) done
      rw [sent] at others
      exact others rfl
  | openPage roomId =>
      cases taken
      refine ⟨fun page member => ?_, silent.uplink, silent.rooms⟩
      rcases List.mem_append.mp member with before | new
      · exact silent.pages page before
      · cases List.mem_singleton.mp new
        exact ⟨rfl, rfl, rfl⟩
  | act index action =>
      obtain ⟨page, found, rfl⟩ := Option.map_eq_some_iff.mp taken
      have idle := silent.pages page (List.mem_of_getElem? found)
      exact silent.put index (idle.act action)
  | handleLeave index =>
      obtain ⟨page, found, rfl⟩ := Option.map_eq_some_iff.mp taken
      have idle := silent.pages page (List.mem_of_getElem? found)
      have left : Silent (system.put index (page, [.leave page.hook.roomId])) := by
        refine silent.put index ⟨idle, fun packet member => ?_⟩
        cases List.mem_singleton.mp member
        rfl
      exact ⟨fun page member => silent.pages page (List.mem_of_mem_eraseIdx member),
        left.uplink, left.rooms⟩
  | serve now position drawn =>
      obtain ⟨entry, found, served⟩ := Option.bind_eq_some_iff.mp taken
      have idle := silent.uplink entry (List.mem_of_getElem? found)
      have rest : Silent { system with uplink := system.uplink.eraseIdx position } :=
        ⟨silent.pages,
          fun entry member => silent.uplink entry (List.mem_of_mem_eraseIdx member),
          silent.rooms⟩
      obtain ⟨socketId, packet⟩ := entry
      cases packet with
      | join roomId =>
          cases done
              : GroupCalls.handled runtime
                  { system with uplink := system.uplink.eraseIdx position }
                  ⟨now, .sfuJoin socketId roomId⟩ with
          | none =>
              simp only [SfuPacket.event, done, Option.getD_none, Option.some.injEq] at served
              exact served ▸ rest
          | some joined =>
              simp only [SfuPacket.event, done, Option.getD_some, Option.some.injEq] at served
              exact served ▸ rest.handled (by simp) done
      | leave roomId =>
          cases served
          exact rest
      | createTransport roomId => cases idle
      | connectTransport roomId transportId => cases idle
      | produce roomId transportId kind => cases idle
  | deliver position index event =>
      obtain ⟨entry, _, delivered⟩ := Option.bind_eq_some_iff.mp taken
      obtain ⟨page, _, received⟩ := Option.bind_eq_some_iff.mp delivered
      obtain ⟨_, done⟩ := Option.ite_none_right_eq_some.mp received
      rw [if_neg (name_ne event entry.2)] at done
      cases done
      exact ⟨silent.pages, silent.uplink, silent.rooms⟩

/-- The gateway of a run runs as the gateway. -/
theorem reaches_world {moves : List GroupMove}
    (run : (machine runtime loads).Reaches moves system)
    : ∃ stimuli, (gatewayMachine runtime).Reaches stimuli system.world := by
  have stepped {before after : GroupCalls} {stimulus : Stimulus}
      (done : before.handled runtime stimulus = some after)
      : (gatewayMachine runtime).exec before.world [stimulus] = some after.world := by
    obtain ⟨world, stepped, rfl⟩ := Option.map_eq_some_iff.mp done
    simp [Machine.exec_cons, stepped]
  refine Machine.exec_projects GroupCalls.world (fun _ => True) (fun _ _ => trivial) ?_ trivial
    run
  intro before move after _ taken
  cases move with
  | other stimulus =>
      obtain ⟨_, done⟩ := Option.ite_none_left_eq_some.mp taken
      exact ⟨[stimulus], stepped done⟩
  | openPage roomId =>
      cases taken
      exact ⟨[], rfl⟩
  | act index action =>
      obtain ⟨page, _, rfl⟩ := Option.map_eq_some_iff.mp taken
      exact ⟨[], rfl⟩
  | handleLeave index =>
      obtain ⟨page, _, rfl⟩ := Option.map_eq_some_iff.mp taken
      exact ⟨[], rfl⟩
  | serve now position drawn =>
      obtain ⟨entry, _, served⟩ := Option.bind_eq_some_iff.mp taken
      split at served
      · cases served
        exact ⟨[], rfl⟩
      · rename_i event _
        cases done
            : GroupCalls.handled runtime
                { before with uplink := before.uplink.eraseIdx position } ⟨now, event⟩ with
        | none =>
            simp only [done, Option.getD_none, Option.some.injEq] at served
            cases served
            exact ⟨[], rfl⟩
        | some joined =>
            simp only [done, Option.getD_some, Option.some.injEq] at served
            cases served
            have ran := stepped done
            exact ⟨_, ran⟩
  | deliver position index event =>
      obtain ⟨entry, _, delivered⟩ := Option.bind_eq_some_iff.mp taken
      obtain ⟨page, _, received⟩ := Option.bind_eq_some_iff.mp delivered
      obtain ⟨_, done⟩ := Option.ite_none_right_eq_some.mp received
      split at done
      · cases done
        exact ⟨[], rfl⟩
      · cases done
        exact ⟨[], rfl⟩

/-- Two users open the page of one room, their devices give streams, and both join. -/
def visitRoom : List GroupMove :=
  twoUsers.map .other
    ++ [
      .openPage (.other 7),
      .openPage (.other 7),
      .act 0 (.connected 11),
      .act 1 (.connected 12),
      .act 0 (.media (some [.audio, .video])),
      .serve 2 0 0,
      .serve 2 0 0,
      .deliver 0 0 (.joined 5)
    ]

def callsAfter (moves : List GroupMove) : GroupCalls :=
  ((machine plainRuntime (fun _ => true)).exec start moves).getD start

/-- The first one disconnects. -/
def firstLeft : World :=
  (callsAfter visitRoom).world.after plainRuntime ⟨3, .disconnect 11⟩

end

end GroupCalls

end NexusComms.Frontend
