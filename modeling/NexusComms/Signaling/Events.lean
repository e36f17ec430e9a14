import NexusComms.Concurrency.Runs
import NexusComms.Signaling.Handlers

/-! The gateway as a machine: events of any sockets in any order, each handler run to its end,
at times that never decrease.
-/

namespace NexusComms.Signaling

open Concurrency

/-- What can happen. The last id of some events is the one that their handler draws when it
needs a new one; `register` is the registration of a user over HTTP.
-/
inductive Event where
  | register (userId : Uuid) (email : String)
  | connect (socketId : SocketId) (userId : Option Uuid) (anonymousId : Uuid)
  | disconnect (socketId : SocketId)
  | callInitiate (socketId : SocketId) (data : InitiateData) (callId : Uuid)
  | missedCall (callId : Uuid)
  | callAccept (socketId : SocketId) (data : AcceptData)
  | callReject (socketId : SocketId) (callId : Text)
  | callEnd (socketId : SocketId) (callId : Text)
  | signalOffer (socketId : SocketId) (callId : Text) (sdp : String)
  | signalAnswer (socketId : SocketId) (callId : Text) (sdp : String)
  | signalIce (socketId : SocketId) (callId : Text) (candidate : String)
  | mediaToggle (socketId : SocketId) (data : MediaData)
  | switchType (socketId : SocketId) (data : SwitchData)
  | joinQueue (socketId : SocketId) (preferredType : Option CallType) (callId : Uuid)
  | leaveQueue (socketId : SocketId)
  | queueStatusRequest (socketId : SocketId)
  | sfuJoin (socketId : SocketId) (roomId : Text)
  | createTransport (socketId : SocketId) (roomId : Text) (transportId : Uuid)
  | produce (socketId : SocketId) (data : ProduceData) (producerId : Uuid)
  | requestContactSave (socketId : SocketId) (data : ContactData) (requestId : Uuid)
deriving DecidableEq, Repr

namespace Event

/-- The socket that sends an event; the other events come from elsewhere. -/
def sender : Event → Option SocketId
  | register _ _ | connect _ _ _ | missedCall _ => none
  | disconnect socketId | callInitiate socketId _ _ | callAccept socketId _
  | callReject socketId _ | callEnd socketId _ | signalOffer socketId _ _
  | signalAnswer socketId _ _ | signalIce socketId _ _ | mediaToggle socketId _
  | switchType socketId _ | joinQueue socketId _ _ | leaveQueue socketId
  | queueStatusRequest socketId | sfuJoin socketId _ | createTransport socketId _ _
  | produce socketId _ _ | requestContactSave socketId _ _ => some socketId

/-- The random ids that come into being with an event. -/
def draws : Event → List Uuid
  | register id _ | connect _ _ id | callInitiate _ _ id | joinQueue _ _ id
  | createTransport _ _ id | produce _ _ id | requestContactSave _ _ id => [id]
  | _ => []

/-- The socket ids that come into being with an event. -/
def opens : Event → List SocketId
  | connect socketId _ _ => [socketId]
  | _ => []

end Event

/-- The handler of each event. -/
def handle (runtime : Runtime) (now : Time) (gateway : Gateway) : Event → Outcome
  | .register userId email =>
      let users := gateway.db.users ++ [⟨userId, email⟩]
      ⟨{ gateway with db := { gateway.db with users := users } }, .ok .void, []⟩
  | .connect socketId userId anonymousId =>
      SignalingGateway.handleConnection gateway socketId userId anonymousId
  | .disconnect socketId => SignalingGateway.handleDisconnect now gateway socketId
  | .callInitiate socketId data callId =>
      SignalingGateway.onCallInitiate runtime now gateway socketId data callId
  | .missedCall callId =>
      match gateway.missedCallTimers.lookup (.uuid callId) with
      | none => ⟨gateway, .ok .void, []⟩
      | some timer => SignalingGateway.missedCall now gateway callId timer
  | .callAccept socketId data => SignalingGateway.onCallAccept now gateway socketId data
  | .callReject socketId callId => SignalingGateway.onCallReject now gateway socketId callId
  | .callEnd socketId callId => SignalingGateway.onCallEnd now gateway socketId callId
  | .signalOffer socketId callId sdp => SignalingGateway.onOffer gateway socketId callId sdp
  | .signalAnswer socketId callId sdp =>
      SignalingGateway.onAnswer gateway socketId callId sdp
  | .signalIce socketId callId candidate =>
      SignalingGateway.onIce gateway socketId callId candidate
  | .mediaToggle socketId data => SignalingGateway.onMediaToggle gateway socketId data
  | .switchType socketId data => SignalingGateway.onSwitchType now gateway socketId data
  | .joinQueue socketId preferredType callId =>
      SignalingGateway.onJoinQueue now gateway socketId preferredType callId
  | .leaveQueue socketId => SignalingGateway.onLeaveQueue gateway socketId
  | .queueStatusRequest socketId => SignalingGateway.onQueueStatusRequest gateway socketId
  | .sfuJoin socketId roomId => SignalingGateway.onSfuJoin runtime gateway socketId roomId
  | .createTransport socketId roomId transportId =>
      SignalingGateway.onCreateTransport gateway socketId roomId transportId
  | .produce socketId data producerId =>
      SignalingGateway.onProduce gateway socketId data producerId
  | .requestContactSave socketId data requestId =>
      SignalingGateway.onRequestContactSave gateway socketId data requestId

/-- An event at a time. -/
structure Stimulus where
  now : Time
  event : Event
deriving DecidableEq, Repr

/-- What a handler has done. `user` is the registered user of the sender. -/
structure Occurrence where
  event : Event
  user : Option Uuid
  reply : Except Failure Reply
  outputs : List Output

/-- A call created by `call:initiate`: the socket that called, and whom. -/
structure DirectCall where
  caller : SocketId
  target : Text
deriving DecidableEq, Repr

/-- The gateway and the history of its run: the last time, the random ids and the socket ids
in use so far, the direct calls, and all that handlers have done. -/
structure World where
  gateway : Gateway
  clock : Time
  drawn : List Uuid
  opened : List SocketId
  placed : AList (fun _ : Uuid => DirectCall)
  trace : List Occurrence

namespace World

def start : World := ⟨.empty, 0, [], [], ∅, []⟩

/-- The registered user of a socket. -/
def userOf (world : World) (socketId : SocketId) : Option Uuid :=
  (world.gateway.sockets.lookup socketId).bind SocketMeta.userId

/-- Where an event can come from: only a connected socket sends events, a token names a
registered user, emails are unique, and a timer fires when it is due. -/
def enabled (world : World) (now : Time) : Event → Bool
  | .register _ email => world.gateway.db.users.all (fun user => user.email ≠ email)
  | .connect _ userId _ => world.gateway.db.references userId
  | .missedCall callId =>
      (world.gateway.missedCallTimers.lookup (.uuid callId)).any
        (fun timer => timer.due ≤ now)
  | event => event.sender.any world.gateway.connected

/-- Times never decrease, and random ids and socket ids are never used again. -/
def admits (world : World) (stimulus : Stimulus) : Bool :=
  decide (world.clock ≤ stimulus.now)
    && stimulus.event.draws.all (fun id => id ∉ world.drawn)
    && stimulus.event.opens.all (fun socketId => socketId ∉ world.opened)
    && world.enabled stimulus.now stimulus.event

/-- A successful `call:initiate` adds a direct call. -/
def place (world : World) (event : Event) (outcome : Outcome)
    : AList (fun _ : Uuid => DirectCall) :=
  match event, outcome.reply with
  | .callInitiate socketId _ callId, .ok _ =>
      let target := outcome.gateway.pendingCallTargets.lookup (.uuid callId)
      world.placed.insert callId ⟨socketId, target.getD .empty⟩
  | _, _ => world.placed

/-- The world after an event. -/
def after (runtime : Runtime) (world : World) (stimulus : Stimulus) : World :=
  let outcome := handle runtime stimulus.now world.gateway stimulus.event
  {
    gateway := outcome.gateway
    clock := stimulus.now
    drawn := stimulus.event.draws ++ world.drawn
    opened := stimulus.event.opens ++ world.opened
    placed := world.place stimulus.event outcome
    trace :=
      world.trace
        ++ [⟨stimulus.event, stimulus.event.sender.bind world.userOf, outcome.reply,
            outcome.outputs⟩]
  }

def step (runtime : Runtime) (world : World) (stimulus : Stimulus) : Option World :=
  if world.admits stimulus then some (world.after runtime stimulus) else none

end World

/-- Every run of the gateway. -/
abbrev gatewayMachine (runtime : Runtime) : Machine World Stimulus where
  init := .start
  step := World.step runtime

/-- A step is an admitted event and its handler. -/
theorem step_eq_some {runtime : Runtime} {world next : World} {stimulus : Stimulus}
    : (gatewayMachine runtime).step world stimulus = some next
      ↔ world.admits stimulus = true ∧ world.after runtime stimulus = next := by
  simp only [World.step]
  split
  · next admitted => simp [admitted]
  · next refused => simp [refused]

/-- Time does not run backwards. -/
theorem admits_clock {world : World} {stimulus : Stimulus}
    (admitted : world.admits stimulus = true)
    : world.clock ≤ stimulus.now := by
  simp only [World.admits, Bool.and_eq_true, decide_eq_true_eq] at admitted
  exact admitted.1.1.1

/-- A runtime for runs on concrete inputs: all emails are written in their stored form. -/
def plainRuntime : Runtime := ⟨id, id, true⟩

/-- The world after a run. -/
def worldAfter (actions : List Stimulus) : World :=
  ((gatewayMachine plainRuntime).exec .start actions).getD .start

/-- Two users connect. -/
def twoUsers : List Stimulus := [
  ⟨0, .register 1 "caller@example.org"⟩,
  ⟨0, .register 2 "callee@example.org"⟩,
  ⟨0, .connect 11 (some 1) 101⟩,
  ⟨0, .connect 12 (some 2) 102⟩
]

/-- Then the first one calls the second one. -/
def ringing : List Stimulus :=
  twoUsers ++ [⟨1, .callInitiate 11 ⟨some "callee@example.org", none, .video⟩ 201⟩]

end NexusComms.Signaling
