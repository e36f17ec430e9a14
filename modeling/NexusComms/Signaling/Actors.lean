import NexusComms.Signaling.Creation
import NexusComms.Signaling.Seating

/-! Who acts. A socket keeps the two ids of its connection, users only come into being by a
registration, and a missed-call timer is set by a registered user: the id of an anonymous
visitor is no user's, so that the database refuses a call from it.
-/

namespace NexusComms.Signaling

open Concurrency Matchmaking Storage

/-- Metas are changed without touching the ids that they got with their connection. -/
def Seats.IdsFrom (after before : Seats) : Prop :=
  ∀ socketId known,
    after.sockets.lookup socketId = some known →
      ∃ earlier,
        before.sockets.lookup socketId = some earlier
        ∧ earlier.userId = known.userId
        ∧ earlier.anonymousId = known.anonymousId

namespace Seats.IdsFrom

variable {seats before after : Seats}

theorem of_sockets (sockets : after.sockets = before.sockets) : after.IdsFrom before :=
  fun _ _ found => ⟨_, sockets ▸ found, rfl, rfl⟩

theorem trans (late : after.IdsFrom seats) (early : seats.IdsFrom before)
    : after.IdsFrom before := by
  intro socketId known found
  obtain ⟨middle, there, user, anonymous⟩ := late socketId known found
  obtain ⟨earlier, first, user', anonymous'⟩ := early socketId middle there
  exact ⟨earlier, first, user'.trans user, anonymous'.trans anonymous⟩

theorem setCallId (socketId : SocketId) (callId : Option Text)
    : (seats.setCallId socketId callId).IdsFrom seats := by
  intro other known found
  rw [Seats.setCallId, Seats.lookup_updateMeta] at found
  split at found
  · obtain ⟨earlier, there, rfl⟩ := Option.map_eq_some_iff.mp found
    exact ⟨earlier, there, rfl, rfl⟩
  · exact ⟨known, found, rfl, rfl⟩

theorem setRoomId (socketId : SocketId) (roomId : Text)
    : (seats.setRoomId socketId roomId).IdsFrom seats := by
  intro other known found
  rw [Seats.setRoomId, Seats.lookup_updateMeta] at found
  split at found
  · obtain ⟨earlier, there, rfl⟩ := Option.map_eq_some_iff.mp found
    exact ⟨earlier, there, rfl, rfl⟩
  · exact ⟨known, found, rfl, rfl⟩

theorem forget (socketId : SocketId) (known : SocketMeta)
    : (seats.forget socketId known).IdsFrom seats := by
  intro other known' found
  rw [Seats.forget_sockets] at found
  exact ⟨known', lookup_of_erase found, rfl, rfl⟩

end Seats.IdsFrom

/-- The ids of a meta are older than the event, unless that is the connection. -/
theorem Turn.ids {gateway : Gateway} {event : Event} {outcome : Outcome}
    (turn : Turn gateway event outcome) {socketId : SocketId} {known : SocketMeta}
    (found : outcome.gateway.sockets.lookup socketId = some known)
    : (∃ earlier,
        gateway.sockets.lookup socketId = some earlier
        ∧ earlier.userId = known.userId
        ∧ earlier.anonymousId = known.anonymousId)
      ∨ event = .connect socketId known.userId known.anonymousId := by
  have from_ {seats : Seats} (same : outcome.gateway.seats = seats)
      (ids : seats.IdsFrom gateway.seats)
      : ∃ earlier,
          gateway.sockets.lookup socketId = some earlier
          ∧ earlier.userId = known.userId
          ∧ earlier.anonymousId = known.anonymousId := by
    refine ids socketId known ?_
    rw [← same]
    exact found
  cases turn with
  | quiet _ _ same => exact .inl (from_ same (.of_sockets rfl))
  | @connected other userId anonymousId _ seats =>
      have sockets := congrArg Seats.sockets seats
      change outcome.gateway.sockets = _ at sockets
      rw [sockets] at found
      by_cases own : socketId = other
      · subst own
        rw [AList.lookup_insert] at found
        cases found
        exact .inr rfl
      · rw [AList.lookup_insert_ne own] at found
        exact .inl ⟨known, found, rfl, rfl⟩
  | dropped _ seats => exact .inl (from_ seats (.of_sockets rfl))
  | gone _ seats =>
      exact .inl (from_ seats ((Seats.IdsFrom.forget _ _).trans (.of_sockets rfl)))
  | initiated _ _ seats =>
      exact .inl (from_ seats (.trans (.of_sockets rfl) (Seats.IdsFrom.setCallId _ _)))
  | accepted _ _ _ seats =>
      exact .inl (from_ seats (.trans (.of_sockets rfl) (Seats.IdsFrom.setCallId _ _)))
  | ended _ _ _ seats =>
      exact .inl (from_ seats ((Seats.IdsFrom.setCallId _ _).trans (.of_sockets rfl)))
  | paired a b _ seats =>
      refine .inl (from_ seats ?_)
      refine (Seats.IdsFrom.setCallId _ _).trans ((Seats.IdsFrom.setCallId _ _).trans ?_)
      exact .of_sockets (by simp)
  | seated _ _ seats =>
      refine .inl (from_ seats (.trans (.of_sockets rfl) ?_))
      exact (Seats.IdsFrom.setRoomId _ _).trans (.of_sockets (by simp))
  | opened _ _ seats => exact .inl (from_ seats (.of_sockets rfl))

/-- The users that come into being with an event. -/
def Event.registers : Event → List User
  | register userId email => [⟨userId, email⟩]
  | _ => []

section Handlers

variable (now : Time) (gateway : Gateway)

@[simp]
theorem refused_gateway (failure : Failure)
    : (Outcome.refused gateway failure).gateway = gateway :=
  rfl

theorem toggleCallType_users (db : Database) (callId : Text) (userId : Uuid)
    (newType : CallType)
    : (CallsService.toggleCallType now db callId userId newType).db.users = db.users := by
  unfold CallsService.toggleCallType
  split
  · rfl
  · simp

theorem toggleMedia_users (db : Database) (params : CallsService.MediaParams)
    : (CallsService.toggleMedia db params).db.users = db.users := by
  unfold CallsService.toggleMedia
  split
  · rfl
  · split
    · rfl
    · rfl

theorem requestContactSave_users (db : Database) (requestId : Uuid) (callId : Text)
    (fromUserId : Uuid) (toUserId : Text)
    : (ContactsService.requestContactSave db requestId callId fromUserId toUserId).db.users
      = db.users := by
  unfold ContactsService.requestContactSave
  split
  · dsimp only
    split
    · rfl
    · split
      · rfl
      · rfl
  · rfl

/-- A pairing registers nobody. -/
theorem tryPairUsers_users (callId : Uuid)
    : (SignalingGateway.tryPairUsers now gateway callId).gateway.db.users
      = gateway.db.users := by
  unfold SignalingGateway.tryPairUsers
  dsimp only
  split
  · rfl
  · unfold SignalingGateway.pairUsers
    dsimp only
    split
    · exact initiateCall_users ..
    · split
      · exact (acceptCall_users ..).trans (initiateCall_users ..)
      · simp [acceptCall_users, initiateCall_users]

/-- Only a registration adds a user. -/
theorem handle_users (runtime : Runtime) (event : Event)
    : (handle runtime now gateway event).gateway.db.users
      = gateway.db.users ++ event.registers := by
  cases event with
  | register userId email => rfl
  | callInitiate socketId data callId =>
      simp only [handle, SignalingGateway.onCallInitiate]
      split
      · simp [Event.registers]
      · split
        · simp [Event.registers]
        · split
          · simp [Event.registers, initiateCall_users]
          · simp [Event.registers, initiateCall_users]
  | callAccept socketId data =>
      simp only [handle, SignalingGateway.onCallAccept]
      split
      · simp [Event.registers]
      · split
        · simp [Event.registers]
        · split
          · simp [Event.registers]
          · split
            · simp [Event.registers, acceptCall_users]
            · simp [Event.registers, acceptCall_users]
  | joinQueue socketId preferredType callId =>
      simp only [handle, SignalingGateway.onJoinQueue]
      split
      · simp [Event.registers]
      · split
        · simp [Event.registers, tryPairUsers_users]
        · simp [Event.registers, tryPairUsers_users]
  | requestContactSave socketId data requestId =>
      simp only [handle, SignalingGateway.onRequestContactSave]
      split
      · simp [Event.registers]
      · split
        · simp [Event.registers]
        · split
          · simp [Event.registers, requestContactSave_users]
          · simp [Event.registers, requestContactSave_users]
  | _ =>
      exact handle_holds (fun db => db.users = gateway.db.users ++ [])
        rfl (by simp) (by simp [endCall_users]) (by simp [toggleMedia_users])
        (by simp [toggleCallType_users])

@[simp]
theorem updateMeta_timers (socketId : SocketId) (change : SocketMeta → SocketMeta)
    : (gateway.updateMeta socketId change).missedCallTimers = gateway.missedCallTimers := by
  rw [Gateway.updateMeta_eq]

@[simp]
theorem setCallId_timers (socketId : SocketId) (callId : Option Text)
    : (gateway.setCallId socketId callId).missedCallTimers = gateway.missedCallTimers :=
  updateMeta_timers gateway socketId _

@[simp]
theorem socketsJoin_timers (source room : Text)
    : (gateway.socketsJoin source room).missedCallTimers = gateway.missedCallTimers := by
  rw [Gateway.socketsJoin_eq]

@[simp]
theorem forget_timers (socketId : SocketId) (known : SocketMeta)
    : (SignalingGateway.forget gateway socketId known).gateway.missedCallTimers
      = gateway.missedCallTimers := by
  simp only [SignalingGateway.forget]
  split
  · rfl
  · rw [SfuService.removeParticipant_eq]

/-- A pairing leaves the timers alone. -/
theorem tryPairUsers_timers (callId : Uuid)
    : (SignalingGateway.tryPairUsers now gateway callId).gateway.missedCallTimers
      = gateway.missedCallTimers := by
  unfold SignalingGateway.tryPairUsers
  dsimp only
  split
  · rfl
  · unfold SignalingGateway.pairUsers
    dsimp only
    split
    · rfl
    · split
      · rfl
      · simp

/-- The timer that `call:initiate` sets for a socket. -/
def SocketMeta.missedCallTimer (known : SocketMeta) (socketId : SocketId) (now : Time)
    : MissedCallTimer :=
  ⟨socketId, known.userId, known.anonymousId, now + missedCallTimeout⟩

/-- A timer is older than the event, or it is set by the initiation of a call that succeeds. -/
theorem handle_timers (runtime : Runtime) (event : Event) {callId : Text}
    {timer : MissedCallTimer}
    (set
      : (handle runtime now gateway event).gateway.missedCallTimers.lookup callId
        = some timer)
    : gateway.missedCallTimers.lookup callId = some timer
      ∨ ∃ socketId data id known,
          event = .callInitiate socketId data id
          ∧ callId = .uuid id
          ∧ gateway.sockets.lookup socketId = some known
          ∧ timer = known.missedCallTimer socketId now
          ∧ (∃ target, SignalingGateway.resolveTarget runtime gateway.db data = .ok target)
          ∧ gateway.db.callSessions.lookup id = none
          ∧ gateway.db.references (some known.identity) = true := by
  cases event with
  | callInitiate socketId data id =>
      simp only [handle, SignalingGateway.onCallInitiate] at set
      split at set
      · exact .inl set
      · next known found =>
          split at set
          · exact .inl set
          · next target resolved =>
              split at set
              · exact .inl set
              · next succeeded =>
                  simp only [Gateway.join, setCallId_timers] at set
                  by_cases new : callId = .uuid id
                  · subst new
                    rw [AList.lookup_insert] at set
                    exact .inr ⟨socketId, data, id, known, rfl, rfl, found,
                      (Option.some.inj set).symm, ⟨target, resolved⟩,
                      (initiateCall_ok_iff ..).mp succeeded⟩
                  · rw [AList.lookup_insert_ne new] at set
                    exact .inl set
  | disconnect socketId =>
      left
      simp only [handle, SignalingGateway.handleDisconnect] at set
      split at set
      · exact set
      · unfold SignalingGateway.endOrForget at set
        split at set
        · simpa using set
        · dsimp only at set
          split at set
          · exact set
          · exact lookup_of_erase (by simpa [Gateway.cancelTimer] using set)
  | missedCall id =>
      left
      simp only [handle] at set
      split at set
      · exact set
      · unfold SignalingGateway.missedCall at set
        dsimp only at set
        split at set
        · split at set
          · exact lookup_of_erase set
          · exact lookup_of_erase set
        · exact lookup_of_erase set
  | callAccept socketId data =>
      left
      simp only [handle, SignalingGateway.onCallAccept] at set
      split at set
      · exact set
      · split at set
        · exact set
        · split at set
          · exact set
          · split at set
            · exact set
            · simp only [Gateway.cancelTimer, Gateway.deletePending, Gateway.join,
                setCallId_timers] at set
              exact lookup_of_erase set
  | callReject socketId rejected =>
      left
      simp only [handle, SignalingGateway.onCallReject] at set
      split at set
      · exact set
      · split at set
        · exact set
        · split at set
          · exact set
          · exact lookup_of_erase set
  | callEnd socketId ended =>
      left
      simp only [handle, SignalingGateway.onCallEnd] at set
      split at set
      · exact set
      · split at set
        · exact set
        · rw [setCallId_timers] at set
          exact lookup_of_erase set
  | mediaToggle socketId data =>
      left
      simp only [handle, SignalingGateway.onMediaToggle] at set
      split at set
      · exact set
      · split at set
        · exact set
        · exact set
  | switchType socketId data =>
      left
      simp only [handle, SignalingGateway.onSwitchType] at set
      split at set
      · exact set
      · split at set
        · exact set
        · exact set
  | joinQueue socketId preferredType id =>
      left
      simp only [handle, SignalingGateway.onJoinQueue] at set
      split at set
      · exact set
      · split at set
        · rwa [tryPairUsers_timers] at set
        · rwa [tryPairUsers_timers] at set
  | sfuJoin socketId roomId =>
      left
      simp only [handle, SignalingGateway.onSfuJoin] at set
      split at set
      · exact set
      · split at set
        · exact set
        · split at set
          · simpa [Gateway.join, SfuService.createRoom] using set
          · simpa [Gateway.join] using set
  | createTransport socketId roomId transportId =>
      left
      simp only [handle, SignalingGateway.onCreateTransport] at set
      split at set
      · exact set
      · next created =>
          rwa [SfuService.createWebRtcTransport_eq created] at set
  | produce socketId data producerId =>
      left
      simp only [handle, SignalingGateway.onProduce] at set
      split at set
      · exact set
      · exact set
  | requestContactSave socketId data requestId =>
      left
      simp only [handle, SignalingGateway.onRequestContactSave] at set
      split at set
      · exact set
      · split at set
        · exact set
        · split at set
          · exact set
          · exact set
  | register _ _ | connect _ _ _ | signalOffer _ _ _ | signalAnswer _ _ _ | signalIce _ _ _
  | leaveQueue _ | queueStatusRequest _ => exact .inl set

end Handlers

/-- Ids of users have been drawn, the anonymous id of a socket has been drawn and is no
user's, and whoever waits for an answer is a user. -/
structure ActorsKnown (world : World) : Prop where
  users {id : Uuid} (known : world.gateway.db.references (some id) = true)
    : id ∈ world.drawn
  anonymous {socketId : SocketId} {known : SocketMeta}
    (found : world.gateway.sockets.lookup socketId = some known)
    : known.anonymousId ∈ world.drawn
      ∧ world.gateway.db.references (some known.anonymousId) = false
  timers {callId : Text} {timer : MissedCallTimer}
    (set : world.gateway.missedCallTimers.lookup callId = some timer)
    : world.gateway.db.references (some (timer.userId.getD timer.anonymousId)) = true

namespace ActorsKnown

variable {runtime : Runtime} {world : World} {stimulus : Stimulus}

theorem start : ActorsKnown .start where
  users known := by simp [World.start, Gateway.empty, Database.references] at known
  anonymous found := by simp [World.start, Gateway.empty] at found
  timers set := by simp [World.start, Gateway.empty] at set

/-- Who is referenced after an event was referenced before, or has been registered by it. -/
theorem references_iff (id : Uuid)
    : (world.after runtime stimulus).gateway.db.references (some id) = true
      ↔ world.gateway.db.references (some id) = true
        ∨ ∃ email, stimulus.event = .register id email := by
  have users := handle_users stimulus.now world.gateway runtime stimulus.event
  change (world.after runtime stimulus).gateway.db.users = _ at users
  simp only [Database.references, users, List.any_append, Bool.or_eq_true]
  refine or_congr Iff.rfl ?_
  cases stimulus.event with
  | register userId email => simp [Event.registers]
  | _ => simp [Event.registers]

/-- A new id is not in use. -/
theorem fresh (admitted : world.admits stimulus = true) {id : Uuid}
    (drawn : id ∈ stimulus.event.draws)
    : id ∉ world.drawn := by
  simp only [World.admits, Bool.and_eq_true, List.all_eq_true, decide_eq_true_eq] at admitted
  exact admitted.1.1.2 id drawn

theorem step (actors : ActorsKnown world) (admitted : world.admits stimulus = true)
    : ActorsKnown (world.after runtime stimulus) where
  users {id} known := by
    change id ∈ stimulus.event.draws ++ world.drawn
    rcases (references_iff id).mp known with before | ⟨email, sent⟩
    · exact List.mem_append_right _ (actors.users before)
    · simp [sent, Event.draws]
  anonymous {socketId known} found := by
    change known.anonymousId ∈ stimulus.event.draws ++ world.drawn ∧ _
    have unreferenced {id : Uuid} (before : world.gateway.db.references (some id) = false)
        (unregistered : ∀ email, stimulus.event ≠ .register id email)
        : (world.after runtime stimulus).gateway.db.references (some id) = false := by
      rw [Bool.eq_false_iff, Ne, references_iff]
      rintro (referenced | ⟨email, sent⟩)
      · rw [before] at referenced
        cases referenced
      · exact unregistered email sent
    have turn := handle_turn runtime stimulus.now world.gateway stimulus.event
    rcases turn.ids found with ⟨earlier, there, _, same⟩ | sent
    · obtain ⟨drawn, before⟩ := actors.anonymous there
      rw [same] at drawn before
      refine ⟨List.mem_append_right _ drawn, unreferenced before fun email sent => ?_⟩
      exact fresh admitted (by simp [sent, Event.draws]) drawn
    · have drawn : known.anonymousId ∈ stimulus.event.draws := by simp [sent, Event.draws]
      refine ⟨List.mem_append_left _ drawn, unreferenced ?_ fun email registered => ?_⟩
      · exact Bool.eq_false_iff.mpr fun referenced =>
          fresh admitted drawn (actors.users referenced)
      · rw [registered] at sent
        cases sent
  timers {callId timer} set := by
    rw [references_iff]
    left
    rcases handle_timers stimulus.now world.gateway runtime stimulus.event set with
      before | ⟨_, _, _, known, _, _, _, rfl, _, _, referenced⟩
    · exact actors.timers before
    · exact referenced

end ActorsKnown

end NexusComms.Signaling
