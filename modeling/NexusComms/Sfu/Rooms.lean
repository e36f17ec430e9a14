import NexusComms.Concurrency.Interleaving
import NexusComms.Signaling.State

/-! The handlers of the signaling gateway that concern the SFU, suspended at every `await`.
A handler that waits in `createWebRtcTransport` holds the room object it has found, which the
map of rooms may forget or replace meanwhile. The SFU is available; otherwise every `sfu:join`
throws and there are no rooms.
-/

namespace NexusComms.Sfu

open Concurrency Signaling

/-- A room object of `SfuService` and its router. A transport is registered under its peer.
`entered` is history: the peers that have ever been added.
-/
structure Room where
  roomId : Text
  routerOpen : Bool
  transports : List (SocketId × Uuid)
  participants : List SocketId
  entered : List SocketId
deriving DecidableEq, Repr

namespace Room

/-- `room.transports.set(…)` and `room.participants.add(peerId)`. -/
def add (room : Room) (peerId : SocketId) (transportId : Uuid) : Room :=
  {
    room with
    transports := room.transports ++ [(peerId, transportId)]
    participants := room.participants.insert peerId
    entered := peerId :: room.entered
  }

/-- The peer is deleted, and its transports are closed and deleted. -/
def without (room : Room) (peerId : SocketId) : Room :=
  {
    room with
    transports := room.transports.filter (fun transport => transport.1 ≠ peerId)
    participants := room.participants.filter (fun participant => participant ≠ peerId)
  }

/-- `room.router.close()`, which closes what is left of its transports. -/
def close (room : Room) : Room := { room with routerOpen := false }

end Room

/-- The rooms of `SfuService`: `this.rooms` refers to room objects, which are never reused.
`drawn` is history: the ids of all transports.
-/
structure Media where
  objects : List Room
  rooms : AList (fun _ : Text => Nat)
  drawn : List Uuid

namespace SfuService

/-- `createRoom` once the router is there: whatever the map holds is replaced. -/
def createRoom (media : Media) (roomId : Text) : Media :=
  {
    media with
    objects := media.objects ++ [⟨roomId, true, [], [], []⟩]
    rooms := media.rooms.insert roomId media.objects.length
  }

/-- `createWebRtcTransport` once the transport is there, in the room object found before. -/
def createWebRtcTransport (media : Media) (room : Nat) (peerId : SocketId)
    (transportId : Uuid)
    : Media :=
  {
    media with
    objects := media.objects.modify room (fun found => found.add peerId transportId)
    drawn := transportId :: media.drawn
  }

/-- How `connectTransport` and `produce` look a transport up. -/
def findTransport (media : Media) (roomId : Text) (transportId : Uuid)
    : Except Failure Unit :=
  match (media.rooms.lookup roomId).bind (fun room => media.objects[room]?) with
  | none => .error (.roomNotFound roomId)
  | some room =>
      if room.transports.any (fun transport => transport.2 = transportId) then
        .ok ()
      else
        .error (.transportNotFound transportId)

/-- `connectTransport` up to its await. -/
def connectTransport (media : Media) (roomId : Text) (transportId : Uuid)
    : Except Failure Unit :=
  findTransport media roomId transportId

/-- `produce` up to its await. -/
def produce (media : Media) (roomId : Text) (transportId : Uuid) : Except Failure Unit :=
  findTransport media roomId transportId

/-- A room that has lost its last participant is closed and deleted from the map. -/
def removeParticipant (media : Media) (roomId : Text) (peerId : SocketId) : Media :=
  match media.rooms.lookup roomId with
  | none => media
  | some room =>
      if media.objects[room]?.all (fun found => (found.without peerId).participants = []) then
        {
          media with
          objects := media.objects.modify room (fun found => (found.without peerId).close)
          rooms := media.rooms.erase roomId
        }
      else
        {
          media with
          objects := media.objects.modify room (fun found => found.without peerId)
        }

end SfuService

/-- The state that the handlers share: the SFU, `meta.roomId` of every socket in
`this.sockets`, and the transport. `used` is history: all socket ids so far. -/
structure Studio where
  media : Media
  sockets : AList (fun _ : SocketId => Option Text)
  connected : SocketId → Bool
  used : List SocketId

namespace Studio

/-- No socket has connected, and there are no rooms. -/
def empty : Studio := ⟨⟨[], ∅, []⟩, ∅, fun _ => false, []⟩

/-- `meta.roomId = data.roomId`; nobody reads the meta of a forgotten socket again. -/
def setRoomId (studio : Studio) (socketId : SocketId) (roomId : Text) : Studio :=
  { studio with sockets := studio.sockets.replace socketId (some roomId) }

end Studio

/-- Where `onSfuJoin` stands. -/
inductive JoinStage where
  | createRouter
  | logCreated
  | joinRoom
  | logJoined
  | returned
  | failed
deriving DecidableEq, Repr

/-- Where `onCreateTransport` stands; its await holds a room object. -/
inductive TransportStage where
  | createWebRtcTransport (room : Nat)
  | returned (transportId : Uuid)
  | failed
deriving DecidableEq, Repr

/-- Where `handleDisconnect` stands. The first stage covers `dequeue` and, for a socket in a
call, `endCall`. -/
inductive DisconnectStage where
  | dequeue
  | removeParticipant
  | queueDepth
  | done
deriving DecidableEq, Repr

/-- A handler of a socket. -/
inductive Handler where
  | connect (socketId : SocketId)
  | join (socketId : SocketId) (roomId : Text) (stage : JoinStage)
  | createTransport (socketId : SocketId) (roomId : Text) (stage : TransportStage)
  | disconnect (socketId : SocketId) (stage : DisconnectStage)
deriving DecidableEq, Repr

/-- How an await ends. Only the media library fails, and it draws the transport ids. -/
inductive Completion where
  | done
  | transport (transportId : Uuid)
  | failed
deriving DecidableEq, Repr

namespace SignalingGateway

/-- `onSfuJoin` up to its first await. -/
def sfuJoin (studio : Studio) (socketId : SocketId) (roomId : Text) : Studio × JoinStage :=
  if (studio.sockets.lookup socketId).isNone then
    (studio, .failed)
  else if (studio.media.rooms.lookup roomId).isNone then
    (studio, .createRouter)
  else
    (studio.setRoomId socketId roomId, .joinRoom)

/-- The next step of `onSfuJoin`. -/
def onSfuJoin (studio : Studio) (socketId : SocketId) (roomId : Text)
    : Completion → JoinStage → Option (Studio × JoinStage)
  | .done, .createRouter =>
      some ({ studio with media := SfuService.createRoom studio.media roomId }, .logCreated)
  | .failed, .createRouter => some (studio, .failed)
  | .done, .logCreated => some (studio.setRoomId socketId roomId, .joinRoom)
  | .done, .joinRoom => some (studio, .logJoined)
  | .done, .logJoined => some (studio, .returned)
  | _, _ => none

/-- `onCreateTransport` up to its await. -/
def createTransport (studio : Studio) (roomId : Text) : TransportStage :=
  match studio.media.rooms.lookup roomId with
  | none => .failed
  | some room => .createWebRtcTransport room

/-- The next step of `onCreateTransport`. -/
def onCreateTransport (studio : Studio) (socketId : SocketId)
    : Completion → TransportStage → Option (Studio × TransportStage)
  | .transport transportId, .createWebRtcTransport room =>
      if transportId ∉ studio.media.drawn then
        let media := SfuService.createWebRtcTransport studio.media room socketId transportId
        some ({ studio with media := media }, .returned transportId)
      else
        none
  | .failed, .createWebRtcTransport _ => some (studio, .failed)
  | _, _ => none

/-- The next step of `handleDisconnect`. `removeParticipant` does its work before the await
of its result. -/
def handleDisconnect (studio : Studio) (socketId : SocketId)
    : Completion → DisconnectStage → Option (Studio × DisconnectStage)
  | .done, .dequeue =>
      match (studio.sockets.lookup socketId).join with
      | none =>
          some ({ studio with sockets := studio.sockets.erase socketId }, .queueDepth)
      | some roomId =>
          let media := SfuService.removeParticipant studio.media roomId socketId
          some ({ studio with media := media }, .removeParticipant)
  | .done, .removeParticipant =>
      some ({ studio with sockets := studio.sockets.erase socketId }, .queueDepth)
  | .done, .queueDepth => some (studio, .done)
  | _, _ => none

end SignalingGateway

open SignalingGateway

namespace Handler

/-- An event arrives. Only a connected socket sends events, and a socket id is never used
again. -/
def start (studio : Studio) : Handler → Option Studio
  | .connect socketId =>
      if socketId ∉ studio.used then
        some {
          studio with
          sockets := studio.sockets.insert socketId none
          connected := Function.update studio.connected socketId true
          used := socketId :: studio.used
        }
      else
        none
  | .join socketId roomId stage =>
      if studio.connected socketId ∧ stage = (sfuJoin studio socketId roomId).2 then
        some (sfuJoin studio socketId roomId).1
      else
        none
  | .createTransport socketId roomId stage =>
      if studio.connected socketId ∧ stage = SignalingGateway.createTransport studio roomId then
        some studio
      else
        none
  | .disconnect socketId stage =>
      if studio.connected socketId ∧ stage = .dequeue then
        some { studio with connected := Function.update studio.connected socketId false }
      else
        none

/-- The next step of a handler. -/
def step (input : Completion) (studio : Studio) : Handler → Option (Studio × Handler)
  | .connect _ => none
  | .join socketId roomId stage =>
      (onSfuJoin studio socketId roomId input stage).map
        (fun result => (result.1, .join socketId roomId result.2))
  | .createTransport socketId roomId stage =>
      (onCreateTransport studio socketId input stage).map
        (fun result => (result.1, .createTransport socketId roomId result.2))
  | .disconnect socketId stage =>
      (handleDisconnect studio socketId input stage).map
        (fun result => (result.1, .disconnect socketId result.2))

/-- The socket whose handler it is. -/
def socketId : Handler → SocketId
  | connect socketId | join socketId _ _ | createTransport socketId _ _
  | disconnect socketId _ => socketId

/-- The handler has returned or thrown. -/
def finished : Handler → Bool
  | connect _ => true
  | join _ _ stage => stage = .returned ∨ stage = .failed
  | createTransport _ _ (.createWebRtcTransport _) => false
  | createTransport _ _ _ => true
  | disconnect _ stage => stage = .done

end Handler

/-- The handlers of any number of sockets. -/
def studioProgram : Program Studio Handler Completion where
  start _ := Handler.start
  step _ := Handler.step

/-- Every interleaving of these handlers, from no rooms. -/
abbrev studioMachine : Machine (Pool Studio Handler) (Move Handler Completion) :=
  studioProgram.machine Studio.empty

-----------------------------------------------------------------------------------------
-- What happens to the rooms
-----------------------------------------------------------------------------------------

/-- What a list contains after one of its elements has been changed. -/
theorem modify_some {α : Type} {values : List α} {index other : Nat}
    {change : α → α} {value : α}
    : (values.modify index change)[other]? = some value
      ↔ (other ≠ index ∧ values[other]? = some value)
        ∨ (other = index ∧ ∃ before, values[index]? = some before ∧ change before = value) := by
  rw [List.getElem?_modify]
  by_cases same : other = index
  · subst same
    simp
  · simp [same, Ne.symm same]

namespace SfuService

variable {media : Media} {roomId : Text} {peerId : SocketId} {transportId : Uuid}
  {ref other : Nat} {room : Room}

/-- A room object after a transport has been added to one of them. -/
theorem createWebRtcTransport_objects
    : (createWebRtcTransport media ref peerId transportId).objects[other]? = some room
      ↔ (other ≠ ref ∧ media.objects[other]? = some room)
        ∨ (other = ref
            ∧ ∃ before,
                media.objects[ref]? = some before ∧ before.add peerId transportId = room) :=
  modify_some

/-- A room object after another one has been created. -/
theorem createRoom_objects
    : (createRoom media roomId).objects[other]? = some room
      ↔ media.objects[other]? = some room
        ∨ (other = media.objects.length ∧ ⟨roomId, true, [], [], []⟩ = room) := by
  dsimp only [createRoom]
  rcases Nat.lt_trichotomy other media.objects.length with earlier | rfl | later
  · have apart : ¬ other = media.objects.length := by omega
    simp [List.getElem?_append_left earlier, apart]
  · simp
  · have apart : ¬ other = media.objects.length := by omega
    rw [List.getElem?_eq_none (by simp; omega), List.getElem?_eq_none (by omega)]
    simp [apart]

/-- What `removeParticipant` does when the map refers to an existing room: the room has lost
the peer, and it is closed and forgotten exactly if nobody is left in it. -/
theorem removeParticipant_found (named : media.rooms.lookup roomId = some ref)
    (found : media.objects[ref]? = some room)
    : removeParticipant media roomId peerId
      = if (room.without peerId).participants = [] then
          {
            media with
            objects := media.objects.modify ref (fun found => (found.without peerId).close)
            rooms := media.rooms.erase roomId
          }
        else
          {
            media with
            objects := media.objects.modify ref (fun found => found.without peerId)
          } := by
  simp only [removeParticipant, named, found, Option.all_some, decide_eq_true_eq]

/-- The other rooms are left alone. -/
theorem removeParticipant_absent (absent : media.rooms.lookup roomId = none)
    : removeParticipant media roomId peerId = media := by
  simp only [removeParticipant, absent]

end SfuService

-----------------------------------------------------------------------------------------
-- What a step can do
-----------------------------------------------------------------------------------------

/-- The steps of the handlers: `await` changes no room, the others are the completions of
the two calls of the media library, and the removal from the room that `meta.roomId` names.
-/
inductive Turn (studio : Studio) : Completion → Handler → Studio → Handler → Prop
  | joining {socketId roomId input stage studio' stage'} (media : studio'.media = studio.media)
    (connected : studio'.connected = studio.connected) (used : studio'.used = studio.used)
    (waits : input ≠ .failed → stage ≠ .createRouter)
    : Turn studio input (.join socketId roomId stage) studio' (.join socketId roomId stage')
  | opened {socketId roomId}
    : Turn studio .done (.join socketId roomId .createRouter)
        { studio with media := SfuService.createRoom studio.media roomId }
        (.join socketId roomId .logCreated)
  | failed {socketId roomId room}
    : Turn studio .failed (.createTransport socketId roomId (.createWebRtcTransport room))
        studio (.createTransport socketId roomId .failed)
  | added {socketId roomId room transportId} (fresh : transportId ∉ studio.media.drawn)
    : Turn studio (.transport transportId)
        (.createTransport socketId roomId (.createWebRtcTransport room))
        {
          studio with
          media :=
            SfuService.createWebRtcTransport studio.media room socketId transportId
        }
        (.createTransport socketId roomId (.returned transportId))
  | unseated {socketId studio'} (seatless : (studio.sockets.lookup socketId).join = none)
    (media : studio'.media = studio.media) (connected : studio'.connected = studio.connected)
    (used : studio'.used = studio.used)
    : Turn studio .done (.disconnect socketId .dequeue) studio'
        (.disconnect socketId .queueDepth)
  | removed {socketId roomId}
    (seat : (studio.sockets.lookup socketId).join = some roomId)
    : Turn studio .done (.disconnect socketId .dequeue)
        {
          studio with
          media := SfuService.removeParticipant studio.media roomId socketId
        }
        (.disconnect socketId .removeParticipant)
  | leaving {socketId input stage studio' stage'} (media : studio'.media = studio.media)
    (connected : studio'.connected = studio.connected) (used : studio'.used = studio.used)
    (later : stage ≠ .dequeue) (onward : stage' ≠ .dequeue)
    : Turn studio input (.disconnect socketId stage) studio' (.disconnect socketId stage')

/-- Every step of a handler is one of these, by its stage and how the await ends. -/
theorem Handler.step_turn {input : Completion} {studio studio' : Studio}
    {handler handler' : Handler}
    (ran : handler.step input studio = some (studio', handler'))
    : Turn studio input handler studio' handler' := by
  cases handler with
  | connect socketId => cases ran
  | join socketId roomId stage =>
      obtain ⟨⟨_, stage'⟩, stepped, same⟩ := Option.map_eq_some_iff.mp ran
      cases same
      cases input <;> cases stage <;> cases stepped
      · exact .opened
      · exact .joining rfl rfl rfl (by simp)
      · exact .joining rfl rfl rfl (by simp)
      · exact .joining rfl rfl rfl (by simp)
      · exact .joining rfl rfl rfl (by simp)
  | createTransport socketId roomId stage =>
      obtain ⟨⟨_, stage'⟩, stepped, same⟩ := Option.map_eq_some_iff.mp ran
      cases same
      cases input with
      | done => cases stepped
      | failed =>
          cases stage <;> cases stepped
          exact .failed
      | transport transportId =>
          cases stage with
          | createWebRtcTransport room =>
              simp only [onCreateTransport] at stepped
              split at stepped
              · next fresh =>
                  cases stepped
                  exact .added fresh
              · cases stepped
          | returned _ => cases stepped
          | failed => cases stepped
  | disconnect socketId stage =>
      obtain ⟨⟨_, stage'⟩, stepped, same⟩ := Option.map_eq_some_iff.mp ran
      cases same
      cases input with
      | failed => cases stepped
      | transport _ => cases stepped
      | done =>
          cases stage with
          | dequeue =>
              simp only [handleDisconnect] at stepped
              split at stepped
              · next seatless =>
                  cases stepped
                  exact .unseated seatless rfl rfl rfl
              · next roomId seat =>
                  cases stepped
                  exact .removed seat
          | removeParticipant =>
              cases stepped
              exact .leaving rfl rfl rfl (by simp) (by simp)
          | queueDepth =>
              cases stepped
              exact .leaving rfl rfl rfl (by simp) (by simp)
          | done => cases stepped

/-- What an arriving event does: it connects or disconnects its socket, or it starts a handler
that has changed no room yet. -/
inductive Arrival (studio : Studio) : Handler → Studio → Prop
  | connect {socketId} (fresh : socketId ∉ studio.used)
    : Arrival studio (.connect socketId)
        {
          studio with
          sockets := studio.sockets.insert socketId none
          connected := Function.update studio.connected socketId true
          used := socketId :: studio.used
        }
  | join {socketId roomId stage studio'} (media : studio'.media = studio.media)
    (connected : studio'.connected = studio.connected) (used : studio'.used = studio.used)
    : Arrival studio (.join socketId roomId stage) studio'
  | createTransport {socketId roomId} (was : studio.connected socketId = true)
    : Arrival studio
        (.createTransport socketId roomId (SignalingGateway.createTransport studio roomId))
        studio
  | disconnect {socketId} (was : studio.connected socketId = true)
    : Arrival studio (.disconnect socketId .dequeue)
        { studio with connected := Function.update studio.connected socketId false }

/-- Every event that can arrive is one of these. -/
theorem Handler.start_arrival {studio studio' : Studio} {handler : Handler}
    (started : handler.start studio = some studio')
    : Arrival studio handler studio' := by
  cases handler with
  | connect socketId =>
      simp only [start] at started
      split at started
      · next fresh =>
          cases started
          exact .connect fresh
      · cases started
  | join socketId roomId stage =>
      simp only [start] at started
      split at started
      · cases started
        unfold sfuJoin
        split
        · exact .join rfl rfl rfl
        · split
          · exact .join rfl rfl rfl
          · exact .join rfl rfl rfl
      · cases started
  | createTransport socketId roomId stage =>
      simp only [start] at started
      split at started
      · next here =>
          cases started
          rw [here.2]
          exact .createTransport here.1
      · cases started
  | disconnect socketId stage =>
      simp only [start] at started
      split at started
      · next here =>
          cases started
          rw [here.2]
          exact .disconnect here.1
      · cases started

/-- An arriving event changes no room. -/
theorem Arrival.media {studio studio' : Studio} {handler : Handler}
    (arrival : Arrival studio handler studio')
    : studio'.media = studio.media := by
  cases arrival with
  | connect _ => rfl
  | join media _ _ => exact media
  | createTransport _ => rfl
  | disconnect _ => rfl

/-- A used id stays used, and a socket that is connected now was connected before, or its id
was new. -/
theorem Arrival.connections {studio studio' : Studio} {handler : Handler}
    (arrival : Arrival studio handler studio') (socketId : SocketId)
    : (socketId ∈ studio.used → socketId ∈ studio'.used)
      ∧ (studio'.connected socketId = true →
          studio.connected socketId = true
          ∨ (socketId ∉ studio.used ∧ socketId ∈ studio'.used)) := by
  cases arrival with
  | @connect newcomer fresh =>
      refine ⟨fun known => List.mem_cons_of_mem _ known, fun now => ?_⟩
      by_cases same : socketId = newcomer
      · subst same
        exact Or.inr ⟨fresh, List.mem_cons_self⟩
      · exact Or.inl ((Function.update_of_ne same _ _).symm.trans now)
  | join _ connected used => exact ⟨fun known => used ▸ known, fun now => Or.inl (connected ▸ now)⟩
  | createTransport _ => exact ⟨id, Or.inl⟩
  | @disconnect leaver _ =>
      refine ⟨id, fun now => ?_⟩
      by_cases same : socketId = leaver
      · subst same
        cases (Function.update_self _ _ _).symm.trans now
      · exact Or.inl ((Function.update_of_ne same _ _).symm.trans now)

/-- A socket that is gone stays gone. -/
theorem Arrival.gone {studio studio' : Studio} {handler : Handler}
    (arrival : Arrival studio handler studio') {socketId : SocketId}
    (known : socketId ∈ studio.used) (gone : studio.connected socketId = false)
    : studio'.connected socketId = false := by
  refine Bool.eq_false_iff.mpr (fun now => ?_)
  rcases (arrival.connections socketId).2 now with before | ⟨fresh, _⟩
  · exact Bool.false_ne_true (gone.symm.trans before)
  · exact fresh known

/-- A step neither connects nor disconnects a socket. -/
theorem Turn.connections {studio studio' : Studio} {input : Completion}
    {handler handler' : Handler} (turn : Turn studio input handler studio' handler')
    : studio'.connected = studio.connected ∧ studio'.used = studio.used := by
  cases turn with
  | joining _ connected used _ => exact ⟨connected, used⟩
  | unseated _ _ connected used => exact ⟨connected, used⟩
  | leaving _ connected used _ _ => exact ⟨connected, used⟩
  | opened => exact ⟨rfl, rfl⟩
  | failed => exact ⟨rfl, rfl⟩
  | added _ => exact ⟨rfl, rfl⟩
  | removed _ => exact ⟨rfl, rfl⟩

end NexusComms.Sfu
