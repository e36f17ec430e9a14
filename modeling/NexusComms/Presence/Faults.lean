import NexusComms.Presence.Departures
import NexusComms.Signaling.Seating

/-! Every run of the gateway in which disconnections may fail. A socket whose disconnection has
failed stays in both maps, so these know more sockets than are connected; that they agree with
each other is kept nevertheless.
-/

namespace NexusComms.Presence.Scripts

open Concurrency Signaling Storage
open Signaling.Scripts (Progress)

/-- An event, and the commands that fail if it is a disconnection. -/
structure Attempt where
  now : Time
  event : Event
  fails : Command × Script.Moment → Bool

namespace Attempt

/-- Only a connected socket sends events, and a new one has an id that nobody has. -/
def admitted (attempt : Attempt) (gateway : Gateway) : Bool :=
  attempt.event.sender.all gateway.connected
    && attempt.event.opens.all (fun socketId => !gateway.knows socketId)

/-- What the handler of the event leaves. -/
def after (runtime : Runtime) (attempt : Attempt) (gateway : Gateway) : Gateway :=
  match attempt.event with
  | .disconnect socketId =>
      ((SignalingGateway.handleDisconnect attempt.now socketId).run attempt.fails
        ⟨gateway, []⟩).2.gateway
  | event => (handle runtime attempt.now gateway event).gateway

end Attempt

/-- Every run of the gateway, whatever fails in its disconnections. -/
abbrev faultyMachine (runtime : Runtime) : Machine Gateway Attempt where
  init := .empty
  step gateway attempt :=
    if attempt.admitted gateway then some (attempt.after runtime gateway) else none

/-- The maps agree, and they have every connected socket. -/
structure Consistent (gateway : Gateway) : Prop where
  indexes : Indexes (tabOf gateway) gateway.userSockets
  knows {socketId : SocketId} (connected : gateway.connected socketId = true)
    : gateway.knows socketId = true

/-- The sockets have the same users as before, and none is connected that was not. -/
structure SameUsers (after before : Seats) : Prop where
  users (socketId : SocketId)
    : (after.sockets.lookup socketId).map SocketMeta.userId
      = (before.sockets.lookup socketId).map SocketMeta.userId
  connected {socketId : SocketId} (now : after.connected socketId) : before.connected socketId

namespace SameUsers

variable {seats before after : Seats} {socketId : SocketId}

theorem of_same (sockets : after.sockets = before.sockets) (rooms : after.rooms = before.rooms)
    : SameUsers after before where
  users _ := by rw [sockets]
  connected now := by
    unfold Seats.connected at now ⊢
    rwa [rooms] at now

theorem trans (late : SameUsers after seats) (early : SameUsers seats before)
    : SameUsers after before where
  users socketId := (late.users socketId).trans (early.users socketId)
  connected now := early.connected (late.connected now)

theorem updateMeta {change : SocketMeta → SocketMeta}
    (keeps : ∀ known, (change known).userId = known.userId)
    : SameUsers (seats.updateMeta socketId change) seats where
  users other := by
    rw [Seats.lookup_updateMeta]
    split
    · rw [Option.map_map]
      exact congrArg (fun userId => (seats.sockets.lookup other).map userId) (funext keeps)
    · rfl
  connected now := (Seats.updateMeta_connected change).mp now

theorem setCallId (callId : Option Text) : SameUsers (seats.setCallId socketId callId) seats :=
  updateMeta fun _ => rfl

theorem setRoomId (roomId : Text) : SameUsers (seats.setRoomId socketId roomId) seats :=
  updateMeta fun _ => rfl

/-- A connected socket may enter any room, and any socket a room that is nobody's own. -/
theorem join {room : Text}
    (apart : seats.connected socketId ∨ ∀ other, room ≠ .socket other)
    : SameUsers (seats.join room socketId) seats where
  users _ := rfl
  connected {other} now := by
    rcases List.mem_insert_iff.mp now with same | before
    · obtain ⟨named, rfl⟩ := Prod.mk.inj same
      rcases apart with present | apart
      · exact present
      · exact absurd named.symm (apart other)
    · exact before

theorem leave (room : Text) : SameUsers (seats.leave room socketId) seats where
  users _ := rfl
  connected now := (List.mem_filter.mp now).1

theorem socketsJoin {source room : Text} (apart : ∀ other, room ≠ .socket other)
    : SameUsers (seats.socketsJoin source room) seats where
  users _ := by rw [Seats.socketsJoin_sockets]
  connected {other} now := by
    rcases (Seats.mem_socketsJoin seats).mp now with before | ⟨named, _⟩
    · exact before
    · exact absurd named.symm (apart other)

end SameUsers

/-- No handler but that of a connection or disconnection changes whose the sockets are. -/
theorem sameUsers {gateway : Gateway} {event : Event} {outcome : Outcome}
    (turn : Signaling.Turn gateway event outcome) (stays : event.moves = false)
    (present
      : ∀ {socketId}, event.sender = some socketId → gateway.seats.connected socketId)
    : SameUsers outcome.gateway.seats gateway.seats := by
  have apart {callId : Uuid} (other : SocketId) : Text.uuid callId ≠ .socket other := by
    rintro ⟨⟩
  cases turn with
  | quiet _ _ same => exact same ▸ .of_same rfl rfl
  | connected _ => cases stays
  | dropped _ _ => cases stays
  | gone _ _ => cases stays
  | initiated _ _ seats =>
      rw [seats]
      exact (SameUsers.join (.inr apart)).trans (.setCallId _)
  | accepted _ named _ seats =>
      rw [seats]
      refine (SameUsers.join (.inr fun other same => ?_)).trans (.setCallId _)
      rw [same] at named
      cases named
  | ended _ _ _ seats =>
      rw [seats]
      exact (SameUsers.setCallId _).trans (.leave _)
  | paired a b _ seats =>
      rw [seats]
      refine (SameUsers.setCallId _).trans ((SameUsers.setCallId _).trans ?_)
      exact (SameUsers.socketsJoin apart).trans (.socketsJoin apart)
  | @seated socketId roomId _ _ _ seats =>
      rw [seats]
      have opened : SameUsers (gateway.seats.openRoom roomId) gateway.seats :=
        .of_same (Seats.openRoom_sockets _ roomId) (Seats.openRoom_rooms _ roomId)
      refine (SameUsers.join (.inl ?_)).trans ((SameUsers.setRoomId roomId).trans opened)
      exact (Seats.setRoomId_connected roomId).mpr
        ((Seats.openRoom_connected roomId).mpr (present rfl))
  | opened _ _ seats => exact seats ▸ .of_same rfl rfl

section Handlers

variable (now : Time) (gateway : Gateway)

@[simp]
theorem setCallId_userSockets (socketId : SocketId) (callId : Option Text)
    : (gateway.setCallId socketId callId).userSockets = gateway.userSockets := by
  unfold Gateway.setCallId
  rw [Gateway.updateMeta_eq]

@[simp]
theorem socketsJoin_userSockets (source room : Text)
    : (gateway.socketsJoin source room).userSockets = gateway.userSockets := by
  rw [Gateway.socketsJoin_eq]

/-- A pairing leaves the index alone. -/
theorem tryPairUsers_userSockets (callId : Uuid)
    : (Signaling.SignalingGateway.tryPairUsers now gateway callId).gateway.userSockets
      = gateway.userSockets := by
  unfold Signaling.SignalingGateway.tryPairUsers
  dsimp only
  split
  · rfl
  · unfold Signaling.SignalingGateway.pairUsers
    dsimp only
    split
    · rfl
    · split
      · rfl
      · simp

/-- No handler but that of a connection or disconnection changes the index. -/
theorem handle_userSockets (runtime : Runtime) {event : Event} (stays : event.moves = false)
    : (handle runtime now gateway event).gateway.userSockets = gateway.userSockets := by
  cases event with
  | callInitiate socketId data callId =>
      simp only [handle, Signaling.SignalingGateway.onCallInitiate]
      split
      · rfl
      · split
        · rfl
        · split
          · rfl
          · exact setCallId_userSockets _ _ _
  | callAccept socketId data =>
      simp only [handle, Signaling.SignalingGateway.onCallAccept]
      split
      · rfl
      · split
        · rfl
        · split
          · rfl
          · split
            · rfl
            · exact setCallId_userSockets _ _ _
  | callReject socketId callId =>
      simp only [handle, Signaling.SignalingGateway.onCallReject]
      split
      · rfl
      · split
        · rfl
        · split
          · rfl
          · rfl
  | callEnd socketId callId =>
      simp only [handle, Signaling.SignalingGateway.onCallEnd]
      split
      · rfl
      · split
        · rfl
        · exact setCallId_userSockets _ _ _
  | missedCall callId =>
      simp only [handle, Signaling.SignalingGateway.missedCall]
      split
      · rfl
      · split
        · split
          · rfl
          · rfl
        · rfl
  | mediaToggle socketId data =>
      simp only [handle, Signaling.SignalingGateway.onMediaToggle]
      split
      · rfl
      · split
        · rfl
        · rfl
  | switchType socketId data =>
      simp only [handle, Signaling.SignalingGateway.onSwitchType]
      split
      · rfl
      · split
        · rfl
        · rfl
  | joinQueue socketId preferredType callId =>
      simp only [handle, Signaling.SignalingGateway.onJoinQueue]
      split
      · rfl
      · split
        · exact tryPairUsers_userSockets _ _ _
        · exact tryPairUsers_userSockets _ _ _
  | sfuJoin socketId roomId =>
      simp only [handle, Signaling.SignalingGateway.onSfuJoin]
      split
      · rfl
      · split
        · rfl
        · dsimp only [Gateway.join]
          rw [Gateway.updateMeta_eq]
          split
          · rfl
          · rfl
  | createTransport socketId roomId transportId =>
      simp only [handle, Signaling.SignalingGateway.onCreateTransport]
      split
      · rfl
      · next created => rw [Signaling.SfuService.createWebRtcTransport_eq created]
  | produce socketId data producerId =>
      simp only [handle, Signaling.SignalingGateway.onProduce]
      split
      · rfl
      · rfl
  | requestContactSave socketId data requestId =>
      simp only [handle, Signaling.SignalingGateway.onRequestContactSave]
      split
      · rfl
      · split
        · rfl
        · split
          · rfl
          · rfl
  | connect _ _ _ | disconnect _ => cases stays
  | register _ _ | signalOffer _ _ _ | signalAnswer _ _ _ | signalIce _ _ _ | leaveQueue _
  | queueStatusRequest _ => rfl

end Handlers

/-- Who is connected, once the clean-up has left the rooms alone. -/
theorem Sockets.connected {gateway : Gateway} {progress : Progress}
    (same : Sockets gateway progress)
    : progress.gateway.connected = gateway.connected := by
  unfold Gateway.connected
  rw [same.2.2]

namespace Consistent

variable {gateway : Gateway} {socketId : SocketId}

theorem departed (consistent : Consistent gateway) : Consistent (Scripts.departed gateway socketId) where
  indexes := consistent.indexes
  knows connected := consistent.knows ((dropped_connected gateway).mp connected).2

theorem congr {progress : Progress} (consistent : Consistent gateway)
    (same : Sockets gateway progress)
    : Consistent progress.gateway where
  indexes := same.indexes consistent.indexes
  knows {socketId} connected := by
    rw [same.connected] at connected
    unfold Gateway.knows
    rw [same.1]
    exact consistent.knows connected

theorem forget (consistent : Consistent gateway) (gone : gateway.connected socketId = false)
    : Consistent (forgetSocket gateway socketId) where
  indexes := forgetSocket_indexes consistent.indexes
  knows {other} connected := by
    rw [forgetSocket_connected] at connected
    refine (forgetSocket_knows gateway).mpr ⟨?_, consistent.knows connected⟩
    rintro rfl
    cases connected.symm.trans gone

theorem connect (consistent : Consistent gateway) (unknown : gateway.knows socketId = false)
    (userId : Option Uuid) (anonymousId : Uuid)
    : Consistent
        (Signaling.SignalingGateway.handleConnection gateway socketId userId
          anonymousId).gateway where
  indexes := by
    refine connect_indexes consistent.indexes ?_ userId anonymousId
    exact Option.isNone_iff_eq_none.mp (Option.isSome_eq_false_iff.mp unknown)
  knows {other} connected := by
    rw [Gateway.knows, connect_lookup]
    split
    · rfl
    · next apart =>
        rcases (connect_connected _ _ _).mp connected with own | before
        · exact absurd own apart
        · exact consistent.knows before

/-- A disconnection keeps the maps in agreement, whether it gets to the end or not. -/
theorem disconnect (consistent : Consistent gateway) (connected : gateway.connected socketId = true)
    (now : Time) (fails : Command × Script.Moment → Bool)
    : Consistent
        ((SignalingGateway.handleDisconnect now socketId).run fails
          ⟨gateway, []⟩).2.gateway := by
  obtain ⟨known, found⟩ := Option.isSome_iff_exists.mp (consistent.knows connected)
  cases verdict : disturbed fails gateway socketId known with
  | true => exact consistent.departed.congr (handleDisconnect_disturbed now found verdict)
  | false =>
      have left := undisturbed_sockets now verdict
      have forgotten := (consistent.departed.congr left).forget <| by
        rw [left.connected, Bool.eq_false_iff]
        exact fun still => ((dropped_connected gateway).mp still).1 rfl
      rw [undisturbed_run now found verdict]
      split
      · exact forgotten
      · exact forgotten

/-- The other handlers keep it too. -/
theorem handle {event : Event} (consistent : Consistent gateway) (runtime : Runtime) (now : Time)
    (stays : event.moves = false)
    (present
      : ∀ {socketId}, event.sender = some socketId → gateway.seats.connected socketId)
    : Consistent (Signaling.handle runtime now gateway event).gateway := by
  have same := sameUsers (handle_turn runtime now gateway event) stays present
  constructor
  · rw [handle_userSockets now gateway runtime stays]
    refine consistent.indexes.congr fun socketId => ?_
    have user := congrArg (fun userId => userId.bind id) (same.users socketId)
    simp only [Option.bind_map] at user
    exact congrArg (Option.map Text.uuid) user
  · intro socketId connected
    have before : gateway.connected socketId = true :=
      Gateway.connected_iff.mpr (same.connected (Gateway.connected_iff.mp connected))
    have known := congrArg Option.isSome (same.users socketId)
    simp only [Option.isSome_map] at known
    exact known.trans (consistent.knows before)

end Consistent

-----------------------------------------------------------------------------------------
-- Runs
-----------------------------------------------------------------------------------------

section Runs

variable {runtime : Runtime} {gateway next : Gateway} {attempt : Attempt}

/-- A step is an admitted event and its handler. -/
theorem faulty_eq_some
    : (faultyMachine runtime).step gateway attempt = some next
      ↔ attempt.admitted gateway = true ∧ attempt.after runtime gateway = next :=
  Option.ite_none_right_eq_some.trans (and_congr_right fun _ => Option.some_inj)

theorem Consistent.empty : Consistent .empty where
  indexes := Indexes.empty
  knows connected := by cases Gateway.connected_iff.mp connected

/-- Whatever fails, a step keeps the maps in agreement. -/
theorem Consistent.step (consistent : Consistent gateway)
    (step : (faultyMachine runtime).step gateway attempt = some next)
    : Consistent next := by
  obtain ⟨admitted, rfl⟩ := faulty_eq_some.mp step
  obtain ⟨now, event, fails⟩ := attempt
  unfold Attempt.admitted at admitted
  rw [Bool.and_eq_true] at admitted
  obtain ⟨sends, opens⟩ := admitted
  have present {socketId : SocketId} (sender : event.sender = some socketId)
      : gateway.seats.connected socketId := by
    rw [sender] at sends
    exact Gateway.connected_iff.mp sends
  cases event with
  | connect socketId userId anonymousId =>
      refine consistent.connect ?_ userId anonymousId
      simpa [Event.opens] using opens
  | disconnect socketId => exact consistent.disconnect sends now fails
  | _ => exact consistent.handle runtime now rfl present

/-- After every run, whatever has failed in it, and whatever fails now: the disconnection of a
connected socket cleans up exactly if nothing rejects that is awaited before the maps forget the
socket. Its own timer is the one of the call that it remembers; of all timers that it has set,
there must be no others. -/
theorem disconnect_cleans_up {attempts : List Attempt}
    (run : (faultyMachine runtime).Reaches attempts gateway) {socketId : SocketId}
    (connected : gateway.connected socketId = true) (now : Time)
    (fails : Command × Script.Moment → Bool)
    : ∃ known,
        gateway.sockets.lookup socketId = some known
        ∧ (CleansUp (remembers known) fails now gateway socketId known
          ↔ disturbed fails gateway socketId known = false)
        ∧ (CleansUp (set socketId) fails now gateway socketId known
          ↔ disturbed fails gateway socketId known = false
            ∧ ∀ callId timer,
                gateway.missedCallTimers.lookup callId = some timer →
                  timer.socketId = socketId →
                    known.callId.filter Text.truthy = some callId) := by
  have consistent : Consistent gateway :=
    run.invariant Consistent .empty fun before step => before.step step
  obtain ⟨known, found⟩ := Option.isSome_iff_exists.mp (consistent.knows connected)
  refine ⟨known, found, ?_, ?_⟩
  · refine (cleansUp_iff found consistent.indexes).trans ⟨And.left, fun passes => ⟨passes, ?_⟩⟩
    intro callId timer remembered _
    exact remembered
  · refine (cleansUp_iff found consistent.indexes).trans (and_congr_right fun _ => ?_)
    exact forall₂_congr fun callId timer => forall_comm

/-- Two users connect, and the first one calls the second one. -/
def calling : List Attempt :=
  ringing.map (fun stimulus => ⟨stimulus.now, stimulus.event, fun _ => false⟩)

/-- The gateway after a run. -/
def gatewayAfter (attempts : List Attempt) : Gateway :=
  ((faultyMachine plainRuntime).exec .empty attempts).getD .empty

/-- The caller's disconnection cleans up although the depth of the queue cannot be read. -/
theorem disconnect_cleans_up_caller
    : ∃ known,
        (gatewayAfter calling).sockets.lookup 11 = some known
        ∧ CleansUp (remembers known) (fun step => step.1 = .llen) 2 (gatewayAfter calling) 11
            known := by
  have run : (faultyMachine plainRuntime).Reaches calling (gatewayAfter calling) := rfl
  have connected : (gatewayAfter calling).connected 11 = true := by decide
  obtain ⟨known, found, cleans, _⟩ :=
    disconnect_cleans_up run connected 2 (fun step => step.1 = .llen)
  refine ⟨known, found, cleans.mpr ?_⟩
  cases found
  rfl

/-- If Redis rejects the first command of `dequeue`, the caller stays in `sockets`. -/
theorem disconnect_leaves_caller
    : ¬ ∀ (attempts : List Attempt) (gateway : Gateway) (socketId : SocketId)
          (known : SocketMeta),
        (faultyMachine plainRuntime).Reaches attempts gateway →
          gateway.connected socketId = true →
            gateway.sockets.lookup socketId = some known →
              ∀ now fails, CleansUp (remembers known) fails now gateway socketId known := by
  intro all
  have cleans :=
    all calling (gatewayAfter calling) 11 ⟨some 1, 101, some (.uuid 201), none⟩ rfl (by decide)
      rfl 2 (fun step => step = (.hget, .before))
  have forgotten := cleans.forgotten
  cases forgotten

end Runs

end NexusComms.Presence.Scripts
