import NexusComms.Concurrency.Interleaving
import NexusComms.Signaling.Updates
import NexusComms.Storage.InverseIndex

/-! The handlers that keep the gateway's two maps of sockets, suspended at every `await`. The
services that they wait for touch neither map and do not fail; what they do to the stores is
left out, and so is what these two handlers emit.
-/

namespace NexusComms.Presence

open Concurrency Signaling Storage

/-- The gateway with the users that have registered. `drawn` and `used` are history: all ids
of users and all anonymous ids, and all socket ids so far. -/
structure Directory where
  gateway : Gateway
  users : List Uuid
  drawn : List Uuid
  used : List SocketId

namespace Directory

/-- Nobody has registered or connected. -/
def empty : Directory := ⟨.empty, [], [], []⟩

end Directory

/-- Where `handleConnection` stands; it has counted the users before its await. -/
inductive ConnectStage where
  | queueDepth (onlineUsers : Nat)
  | done
deriving DecidableEq, Repr

/-- Where `handleDisconnect` stands. -/
inductive DisconnectStage where
  | dequeue
  | endCall
  | removeParticipant
  | queueDepth (onlineUsers : Nat)
  | done
deriving DecidableEq, Repr

/-- The two handlers. The other two are what happens besides: a user registers, and another
handler of the gateway writes `meta.callId` and `meta.roomId`. -/
inductive Handler where
  | connect (socketId : SocketId) (userId : Option Uuid) (anonymousId : Uuid)
    (stage : ConnectStage)
  | disconnect (socketId : SocketId) (stage : DisconnectStage)
  | register (userId : Uuid)
  | assign (socketId : SocketId) (callId roomId : Option Text)
deriving DecidableEq, Repr

/-- The end of `handleDisconnect`: both maps forget the socket. -/
def forgetSocket (gateway : Gateway) (socketId : SocketId) : Gateway :=
  match gateway.sockets.lookup socketId with
  | none => gateway
  | some known =>
      {
        gateway with
        userSockets :=
          match known.userId with
          | none => gateway.userSockets
          | some userId => removeKey gateway.userSockets (.uuid userId) socketId
        sockets := gateway.sockets.erase socketId
      }

namespace SignalingGateway

open Signaling.SignalingGateway

/-- `handleDisconnect` from the maps on, up to its last await. -/
def forget (directory : Directory) (socketId : SocketId) : Directory × DisconnectStage :=
  let gateway := forgetSocket directory.gateway socketId
  ({ directory with gateway := gateway }, .queueDepth (countOnlineUsers gateway))

/-- `handleDisconnect` after the call of the socket has ended. `removeParticipant` does its
work before the await of its result. -/
def leaveRoom (directory : Directory) (socketId : SocketId) : Directory × DisconnectStage :=
  let known := directory.gateway.sockets.lookup socketId
  match (known.bind SocketMeta.roomId).filter Text.truthy with
  | none => forget directory socketId
  | some roomId =>
      let gateway := SfuService.removeParticipant directory.gateway roomId socketId
      ({ directory with gateway := gateway }, .removeParticipant)

/-- The next step of `handleDisconnect`. The call is read anew after each await. -/
def handleDisconnect (directory : Directory) (socketId : SocketId)
    : DisconnectStage → Option (Directory × DisconnectStage)
  | .dequeue =>
      if (directory.gateway.callOf socketId).isSome then
        some (directory, .endCall)
      else
        some (leaveRoom directory socketId)
  | .endCall =>
      let gateway := match directory.gateway.callOf socketId with
        | none => directory.gateway
        | some callId => directory.gateway.cancelTimer callId
      some (leaveRoom { directory with gateway := gateway } socketId)
  | .removeParticipant => some (forget directory socketId)
  | .queueDepth _ => some (directory, .done)
  | .done => none

end SignalingGateway

open SignalingGateway

namespace Handler

open Signaling.SignalingGateway

/-- An event arrives. The subject of a valid token is a user who has registered, `uuidv4()`
draws a new id, and a socket id is never used again. -/
def start (directory : Directory) : Handler → Option Directory
  | .connect socketId userId anonymousId stage =>
      let gateway :=
        (handleConnection directory.gateway socketId userId anonymousId).gateway
      if socketId ∉ directory.used ∧ anonymousId ∉ directory.drawn
          ∧ (∀ id ∈ userId, id ∈ directory.users)
          ∧ stage = .queueDepth (countOnlineUsers gateway) then
        some {
          directory with
          gateway := gateway
          drawn := anonymousId :: directory.drawn
          used := socketId :: directory.used
        }
      else
        none
  | .disconnect socketId stage =>
      let first : DisconnectStage :=
        if directory.gateway.knows socketId then .dequeue else .done
      if directory.gateway.connected socketId ∧ stage = first then
        let rooms := directory.gateway.rooms.filter (fun entry => entry.2 ≠ socketId)
        some { directory with gateway := { directory.gateway with rooms := rooms } }
      else
        none
  | .register userId =>
      if userId ∉ directory.drawn then
        some {
          directory with
          users := userId :: directory.users
          drawn := userId :: directory.drawn
        }
      else
        none
  | .assign socketId callId roomId =>
      let gateway := directory.gateway.updateMeta socketId
        (fun known => { known with callId := callId, roomId := roomId })
      some { directory with gateway := gateway }

/-- The next step of a handler. -/
def step (directory : Directory) : Handler → Option (Directory × Handler)
  | .connect socketId userId anonymousId (.queueDepth _) =>
      some (directory, .connect socketId userId anonymousId .done)
  | .disconnect socketId stage =>
      (SignalingGateway.handleDisconnect directory socketId stage).map
        (fun result => (result.1, .disconnect socketId result.2))
  | _ => none

/-- The handler has returned. -/
def finished : Handler → Bool
  | connect _ _ _ stage => stage = .done
  | disconnect _ stage => stage = .done
  | _ => true

/-- The socket that a `handleDisconnect` has not forgotten yet. -/
def departing : Handler → Option SocketId
  | disconnect _ (.queueDepth _) | disconnect _ .done => none
  | disconnect socketId _ => some socketId
  | _ => none

end Handler

/-- The handlers of any number of sockets and users. -/
def presenceProgram : Program Directory Handler Unit where
  start _ := Handler.start
  step _ _ := Handler.step

/-- Every interleaving of these handlers, from a gateway without sockets. -/
abbrev presenceMachine : Machine (Pool Directory Handler) (Move Handler Unit) :=
  presenceProgram.machine Directory.empty

-----------------------------------------------------------------------------------------
-- What a step can do
-----------------------------------------------------------------------------------------

/-- Both maps, the connections and the history are the same. -/
structure Same (before after : Directory) : Prop where
  sockets : after.gateway.sockets = before.gateway.sockets
  userSockets : after.gateway.userSockets = before.gateway.userSockets
  rooms : after.gateway.rooms = before.gateway.rooms
  users : after.users = before.users
  drawn : after.drawn = before.drawn
  used : after.used = before.used

theorem Same.refl (directory : Directory) : Same directory directory :=
  ⟨rfl, rfl, rfl, rfl, rfl, rfl⟩

/-- Up to the maps, `handleDisconnect` ends as the handler that is not interrupted does. -/
theorem forget_gateway {gateway : Gateway} {socketId : SocketId} {known : SocketMeta}
    (found : gateway.sockets.lookup socketId = some known)
    : (Signaling.SignalingGateway.forget gateway socketId known).gateway
      = forgetSocket
          (match known.roomId.filter Text.truthy with
            | none => gateway
            | some roomId => SfuService.removeParticipant gateway roomId socketId)
          socketId := by
  have kept (roomId : Text)
      : (SfuService.removeParticipant gateway roomId socketId).sockets.lookup socketId
        = some known := by
    rwa [SfuService.removeParticipant_eq]
  unfold forgetSocket Signaling.SignalingGateway.forget
  cases known.roomId.filter Text.truthy with
  | none =>
      simp only [found]
      cases user : known.userId with
      | none => rfl
      | some userId =>
          simp only [removeKey]
          cases gateway.userSockets.lookup (.uuid userId) with
          | none => rfl
          | some tabs => rfl
  | some roomId =>
      simp only [kept]
      cases user : known.userId with
      | none => rfl
      | some userId =>
          simp only [removeKey]
          cases (SfuService.removeParticipant gateway roomId socketId).userSockets.lookup
              (.uuid userId) with
          | none => rfl
          | some tabs => rfl

/-- A step only waits, or it makes both maps forget its socket. -/
inductive Turn (directory : Directory) : Handler → Directory → Handler → Prop
  | waits {handler directory' handler'} (same : Same directory directory')
    (departing : handler'.departing = handler.departing)
    : Turn directory handler directory' handler'
  | forgets {socketId stage directory' onlineUsers}
    (leaves : (Handler.disconnect socketId stage).departing = some socketId)
    (same
      : Same { directory with gateway := forgetSocket directory.gateway socketId } directory')
    : Turn directory (.disconnect socketId stage) directory'
        (.disconnect socketId (.queueDepth onlineUsers))

section

variable {directory directory' : Directory} {socketId : SocketId}

/-- Directories that are the same forget a socket in the same way. -/
theorem Same.forget (same : Same directory directory') (socketId : SocketId)
    : Same { directory with gateway := forgetSocket directory.gateway socketId }
        { directory' with gateway := forgetSocket directory'.gateway socketId } := by
  obtain ⟨sockets, userSockets, rooms, users, drawn, used⟩ := same
  unfold forgetSocket
  rw [sockets]
  cases directory.gateway.sockets.lookup socketId with
  | none => exact ⟨sockets, userSockets, rooms, users, drawn, used⟩
  | some known =>
      rw [userSockets]
      exact ⟨rfl, rfl, rooms, users, drawn, used⟩

/-- Leaving the room of the SFU leads to the forgetting, at once or after an await. -/
theorem leaveRoom_turn {stage stage' : DisconnectStage} {before : Directory}
    (leaves : (Handler.disconnect socketId stage).departing = some socketId)
    (same : Same before directory)
    (ran : leaveRoom directory socketId = (directory', stage'))
    : Turn before (.disconnect socketId stage) directory' (.disconnect socketId stage') := by
  simp only [leaveRoom] at ran
  split at ran
  · cases ran
    exact .forgets leaves (same.forget socketId)
  · next roomId seated =>
      cases ran
      refine .waits ?_ leaves.symm
      rw [SfuService.removeParticipant_eq]
      exact ⟨same.sockets, same.userSockets, same.rooms, same.users, same.drawn, same.used⟩

/-- Every step of a handler is one of these, by its stage. -/
theorem Handler.step_turn {handler handler' : Handler}
    (ran : handler.step directory = some (directory', handler'))
    : Turn directory handler directory' handler' := by
  cases handler with
  | register userId => cases ran
  | assign socketId callId roomId => cases ran
  | connect socketId userId anonymousId stage =>
      cases stage with
      | queueDepth onlineUsers =>
          cases ran
          exact .waits (.refl directory) rfl
      | done => cases ran
  | disconnect socketId stage =>
      obtain ⟨⟨_, stage'⟩, stepped, same⟩ := Option.map_eq_some_iff.mp ran
      cases same
      cases stage with
      | dequeue =>
          simp only [SignalingGateway.handleDisconnect] at stepped
          split at stepped
          · cases stepped
            exact .waits (.refl directory) rfl
          · exact leaveRoom_turn rfl (.refl directory) (Option.some.inj stepped)
      | endCall =>
          simp only [SignalingGateway.handleDisconnect] at stepped
          refine leaveRoom_turn rfl ?_ (Option.some.inj stepped)
          split
          · exact .refl directory
          · exact ⟨rfl, rfl, rfl, rfl, rfl, rfl⟩
      | removeParticipant =>
          cases stepped
          exact .forgets rfl (.refl _)
      | queueDepth onlineUsers =>
          cases stepped
          exact .waits (.refl directory) rfl
      | done => cases stepped

/-- What an arriving event does. -/
inductive Arrival (directory : Directory) : Handler → Directory → Prop
  | connect {socketId userId anonymousId stage} (fresh : socketId ∉ directory.used)
    (drawn : anonymousId ∉ directory.drawn) (registered : ∀ id ∈ userId, id ∈ directory.users)
    : Arrival directory (.connect socketId userId anonymousId stage)
        {
          directory with
          gateway :=
            (Signaling.SignalingGateway.handleConnection directory.gateway socketId userId
              anonymousId).gateway
          drawn := anonymousId :: directory.drawn
          used := socketId :: directory.used
        }
  | disconnect {socketId stage} (connected : directory.gateway.connected socketId = true)
    (first : directory.gateway.knows socketId = true → stage = .dequeue)
    : Arrival directory (.disconnect socketId stage)
        {
          directory with
          gateway := {
            directory.gateway with
            rooms := directory.gateway.rooms.filter (fun entry => entry.2 ≠ socketId)
          }
        }
  | register {userId} (fresh : userId ∉ directory.drawn)
    : Arrival directory (.register userId)
        {
          directory with
          users := userId :: directory.users
          drawn := userId :: directory.drawn
        }
  | assign {socketId callId roomId}
    : Arrival directory (.assign socketId callId roomId)
        {
          directory with
          gateway :=
            directory.gateway.updateMeta socketId
              (fun known => { known with callId := callId, roomId := roomId })
        }

/-- Every event that can arrive is one of these. -/
theorem Handler.start_arrival {handler : Handler}
    (started : handler.start directory = some directory')
    : Arrival directory handler directory' := by
  cases handler with
  | connect socketId userId anonymousId stage =>
      simp only [start] at started
      split at started
      · next here =>
          cases started
          exact .connect here.1 here.2.1 here.2.2.1
      · cases started
  | disconnect socketId stage =>
      simp only [start] at started
      by_cases here
        : directory.gateway.connected socketId = true
          ∧ stage = if directory.gateway.knows socketId = true then .dequeue else .done
      · rw [if_pos here] at started
        cases started
        exact .disconnect here.1 (fun knows => here.2.trans (if_pos knows))
      · rw [if_neg here] at started
        cases started
  | register userId =>
      simp only [start] at started
      split at started
      · next fresh =>
          cases started
          exact .register fresh
      · cases started
  | assign socketId callId roomId =>
      cases started
      exact .assign

end

end NexusComms.Presence
