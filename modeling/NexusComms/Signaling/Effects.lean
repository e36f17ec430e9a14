import NexusComms.Signaling.Updates

/-! What each event does to the metas, the pending targets, the guests of the calls, and who
is connected.
-/

namespace NexusComms.Signaling

open CallsRepository Storage

/-- How many guest rows a call has. -/
def Database.guestCount (db : Database) (callId : Uuid) : Nat := (db.guests callId).length

/-- What an event with this reply can have done, each part as what it may have added. -/
structure Handled (event : Event) (before : Gateway) (outcome : Outcome) : Prop where
  /-- Only `call:initiate` adds a pending target, that of the new call. -/
  pending {callId target : Text}
    (found : outcome.gateway.pendingCallTargets.lookup callId = some target)
    : before.pendingCallTargets.lookup callId = some target
      ∨ ∃ socketId data id,
          event = .callInitiate socketId data id ∧ callId = .uuid id
          ∧ outcome.reply = .ok (.callId id)
  /-- A socket gets to remember a new call, or the one that it has accepted. -/
  calls {socketId : SocketId} {known : SocketMeta} {callId : Text}
    (found : outcome.gateway.sockets.lookup socketId = some known)
    (remembered : known.callId = some callId)
    : (∃ earlier,
          before.sockets.lookup socketId = some earlier ∧ earlier.callId = some callId)
      ∨ (∃ id,
          callId = .uuid id
          ∧ before.db.callSessions.lookup id = none
          ∧ (outcome.gateway.db.callSessions.lookup id).isSome
          ∧ ∀ sender data, event = .callInitiate sender data id → socketId = sender)
      ∨ ∃ data reply,
          event = .callAccept socketId data ∧ callId = data.callId
          ∧ outcome.reply = .ok reply
  /-- Only a connection tells whose socket it is. -/
  users {socketId : SocketId} {known : SocketMeta}
    (found : outcome.gateway.sockets.lookup socketId = some known)
    : (∃ earlier,
          before.sockets.lookup socketId = some earlier ∧ earlier.userId = known.userId)
      ∨ ∃ anonymousId, event = .connect socketId known.userId anonymousId
  /-- A guest is added to a new call, or to the one that has been accepted. -/
  guests (id : Uuid)
    : outcome.gateway.db.guestCount id = before.db.guestCount id
      ∨ outcome.gateway.db.guestCount id = before.db.guestCount id + 1
        ∧ ((∃ sender preferredType, event = .joinQueue sender preferredType id)
            ∧ before.db.callSessions.lookup id = none
            ∧ (outcome.gateway.db.callSessions.lookup id).isSome
          ∨ ∃ socketId data reply,
              event = .callAccept socketId data ∧ data.callId.cast = some id
              ∧ outcome.reply = .ok reply)
  /-- Only a connection or the sender itself can be in a socket's own room. -/
  connected {socketId : SocketId} (now : outcome.gateway.connected socketId = true)
    : before.connected socketId = true
      ∨ (∃ userId anonymousId, event = .connect socketId userId anonymousId)
      ∨ event.sender = some socketId ∧ event ≠ .disconnect socketId
  /-- Users stay. -/
  references {userId : Option Uuid} (known : before.db.references userId = true)
    : outcome.gateway.db.references userId = true

section Projections

variable (gateway : Gateway)

@[simp]
theorem setCallId_pending (socketId : SocketId) (callId : Option Text)
    : (gateway.setCallId socketId callId).pendingCallTargets = gateway.pendingCallTargets := by
  rw [Gateway.setCallId, Gateway.updateMeta_eq]

@[simp]
theorem setCallId_rooms (socketId : SocketId) (callId : Option Text)
    : (gateway.setCallId socketId callId).rooms = gateway.rooms := by
  rw [Gateway.setCallId, Gateway.updateMeta_eq]

@[simp]
theorem setCallId_lookup (socketId other : SocketId) (callId : Option Text)
    : (gateway.setCallId socketId callId).sockets.lookup other
      = if other = socketId then
          (gateway.sockets.lookup other).map (fun known => { known with callId := callId })
        else
          gateway.sockets.lookup other :=
  gateway.lookup_updateMeta socketId other _

/-- Who is given a call keeps its user, and all others keep their calls too. -/
theorem setCallId_earlier {socketId other : SocketId} {callId : Option Text}
    {known : SocketMeta}
    (found : (gateway.setCallId socketId callId).sockets.lookup other = some known)
    : ∃ earlier,
        gateway.sockets.lookup other = some earlier
        ∧ earlier.userId = known.userId
        ∧ (earlier.callId = known.callId ∨ other = socketId ∧ known.callId = callId) := by
  rw [setCallId_lookup] at found
  split at found
  · next same =>
      obtain ⟨earlier, here, rfl⟩ := Option.map_eq_some_iff.mp found
      exact ⟨earlier, here, rfl, .inr ⟨same, rfl⟩⟩
  · exact ⟨known, found, rfl, .inl rfl⟩

@[simp]
theorem socketsJoin_pending (source room : Text)
    : (gateway.socketsJoin source room).pendingCallTargets = gateway.pendingCallTargets := by
  rw [Gateway.socketsJoin_eq]

@[simp]
theorem socketsJoin_sockets (source room : Text)
    : (gateway.socketsJoin source room).sockets = gateway.sockets := by
  rw [Gateway.socketsJoin_eq]

/-- Who enters a room together enters that room, by induction on who enters. -/
theorem mem_socketsJoin {source room name : Text} {socketId : SocketId}
    (member : (name, socketId) ∈ (gateway.socketsJoin source room).rooms)
    : name = room ∨ (name, socketId) ∈ gateway.rooms := by
  unfold Gateway.socketsJoin at member
  generalize gateway.rooms.members source = entering at member
  induction entering generalizing gateway with
  | nil => exact .inr member
  | cons first rest ih =>
      rcases ih (gateway.join room first) member with same | earlier
      · exact .inl same
      · rcases List.mem_insert_iff.mp earlier with same | earlier
        · exact .inl (congrArg Prod.fst same)
        · exact .inr earlier

@[simp]
theorem forget_pending (socketId : SocketId) (known : SocketMeta)
    : (SignalingGateway.forget gateway socketId known).gateway.pendingCallTargets
      = gateway.pendingCallTargets := by
  simp only [SignalingGateway.forget]
  split
  · rfl
  · rw [SfuService.removeParticipant_eq]

@[simp]
theorem forget_sockets (socketId : SocketId) (known : SocketMeta)
    : (SignalingGateway.forget gateway socketId known).gateway.sockets
      = gateway.sockets.erase socketId := by
  simp only [SignalingGateway.forget]
  split
  · rfl
  · rw [SfuService.removeParticipant_eq]

@[simp]
theorem forget_rooms (socketId : SocketId) (known : SocketMeta)
    : (SignalingGateway.forget gateway socketId known).gateway.rooms = gateway.rooms := by
  simp only [SignalingGateway.forget]
  split
  · rfl
  · rw [SfuService.removeParticipant_eq]

end Projections

/-- A change of some participants that keeps their calls and roles keeps the guests. -/
theorem updateParticipants_guests (db : Database) (callSessionId userId : Uuid)
    (anonymousId : Option Uuid) {change : CallParticipant → CallParticipant}
    (sameCall : ∀ row, (change row).callSessionId = row.callSessionId)
    (sameRole : ∀ row, (change row).role = row.role) (id : Uuid)
    : (updateParticipants db callSessionId userId anonymousId change).guestCount id
      = db.guestCount id := by
  simp only [Database.guestCount, Database.guests, updateParticipants, List.filter_map,
    List.length_map]
  congr 2
  funext row
  simp only [Function.comp]
  split
  · rw [sameCall, sameRole]
  · rfl

/-- Leaving keeps the guests. -/
theorem markParticipantLeft_guests (now : Time) (db : Database)
    (callSessionId userId : Uuid) (anonymousId : Option Uuid) (id : Uuid)
    : (markParticipantLeft now db callSessionId userId anonymousId).guestCount id
      = db.guestCount id := by
  unfold markParticipantLeft
  apply updateParticipants_guests
  · intro row
    rfl
  · intro row
    rfl

/-- So does toggling a device. -/
theorem updateParticipantMedia_guests (db : Database) (callSessionId userId : Uuid)
    (mic camera : Option Bool) (anonymousId : Option Uuid) (id : Uuid)
    : (updateParticipantMedia db callSessionId userId mic camera anonymousId).guestCount id
      = db.guestCount id := by
  unfold updateParticipantMedia
  apply updateParticipants_guests
  · intro row
    rfl
  · intro row
    rfl

@[simp]
theorem updateStatus_participants (now : Time) (db : Database) (id : Uuid)
    (update : StatusUpdate)
    : (updateStatus now db id update).1.callParticipants = db.callParticipants := by
  unfold updateStatus
  split
  · rfl
  · rfl

@[simp]
theorem updateStatus_users (now : Time) (db : Database) (id : Uuid) (update : StatusUpdate)
    : (updateStatus now db id update).1.users = db.users := by
  unfold updateStatus
  split
  · rfl
  · rfl

/-- `endCall` adds no guest. -/
theorem endCall_guests (now : Time) (db : Database) (params : CallsService.EndParams)
    (id : Uuid)
    : (CallsService.endCall now db params).db.guestCount id = db.guestCount id := by
  unfold CallsService.endCall
  split
  · rfl
  · dsimp only
    rw [markParticipantLeft_guests]
    simp [Database.guestCount, Database.guests]

/-- `endCall` keeps the users. -/
theorem endCall_users (now : Time) (db : Database) (params : CallsService.EndParams)
    : (CallsService.endCall now db params).db.users = db.users := by
  unfold CallsService.endCall
  split
  · rfl
  · simp [markParticipantLeft, updateParticipants]

/-- `acceptCall` adds one guest, unless it fails. -/
theorem acceptCall_guests (now : Time) (db : Database) (params : CallsService.AcceptParams)
    (id : Uuid)
    : (CallsService.acceptCall now db params).db.guestCount id = db.guestCount id
      ∨ (CallsService.acceptCall now db params).db.guestCount id = db.guestCount id + 1
        ∧ params.callId.cast = some id
        ∧ ∃ session, (CallsService.acceptCall now db params).result = .ok session := by
  unfold CallsService.acceptCall
  cases cast : params.callId.cast with
  | none => exact .inl rfl
  | some target =>
      by_cases absent : (db.callSessions.lookup target).isNone
      · left
        simp only [absent, if_true]
      · simp only [absent]
        cases added : addParticipant (updateStatus now db target .accepted).1
            (CallsService.guestRow now target params) with
        | error failure =>
            left
            simp [Database.guestCount, Database.guests]
        | ok db' =>
            rw [addParticipant_ok added]
            by_cases here : target = id
            · right
              subst here
              refine ⟨?_, rfl, _, rfl⟩
              simp [Database.guestCount, Database.guests, CallsService.guestRow]
            · left
              simp [Database.guestCount, Database.guests, CallsService.guestRow, here]

/-- `acceptCall` keeps the users. -/
theorem acceptCall_users (now : Time) (db : Database) (params : CallsService.AcceptParams)
    : (CallsService.acceptCall now db params).db.users = db.users := by
  unfold CallsService.acceptCall
  cases params.callId.cast with
  | none => rfl
  | some target =>
      by_cases absent : (db.callSessions.lookup target).isNone
      · simp only [absent, if_true]
      · simp only [absent]
        cases added : addParticipant (updateStatus now db target .accepted).1
            (CallsService.guestRow now target params) with
        | error failure => simp
        | ok db' =>
            rw [addParticipant_ok added]
            simp

/-- `initiateCall` adds no guest. -/
theorem initiateCall_guests (now : Time) (db : Database) (callId : Uuid)
    (params : CallsService.InitiateParams) (id : Uuid)
    : (CallsService.initiateCall now db callId params).db.guestCount id
      = db.guestCount id := by
  unfold CallsService.initiateCall
  split
  · rfl
  · next created inserted =>
      cases added : addParticipant created (CallsService.hostRow now callId params) with
      | error failure =>
          simp only [(createSession_ok inserted).2]
          rfl
      | ok db' =>
          rw [addParticipant_ok added, (createSession_ok inserted).2]
          simp [Database.guestCount, Database.guests, CallsService.hostRow]

/-- `initiateCall` keeps the users. -/
theorem initiateCall_users (now : Time) (db : Database) (callId : Uuid)
    (params : CallsService.InitiateParams)
    : (CallsService.initiateCall now db callId params).db.users = db.users := by
  unfold CallsService.initiateCall
  split
  · rfl
  · next created inserted =>
      cases added : addParticipant created (CallsService.hostRow now callId params) with
      | error failure => simp only [(createSession_ok inserted).2]
      | ok db' => rw [addParticipant_ok added, (createSession_ok inserted).2]

/-- Nothing that matters for answering a call has been added. -/
structure Calm (before after : Gateway) : Prop where
  pending {callId target : Text}
    (found : after.pendingCallTargets.lookup callId = some target)
    : before.pendingCallTargets.lookup callId = some target
  sockets {socketId : SocketId} {known : SocketMeta}
    (found : after.sockets.lookup socketId = some known)
    : ∃ earlier,
        before.sockets.lookup socketId = some earlier
        ∧ earlier.userId = known.userId
        ∧ (known.callId = none ∨ earlier.callId = known.callId)
  guests (id : Uuid) : after.db.guestCount id = before.db.guestCount id
  users : after.db.users = before.db.users

/-- A state is calm from itself, also with other rows, as long as they are no users or
guests. -/
theorem Calm.of_db (gateway : Gateway) {db : Database}
    (guests : ∀ id, db.guestCount id = gateway.db.guestCount id)
    (users : db.users = gateway.db.users)
    : Calm gateway { gateway with db := db } where
  pending found := found
  sockets found := ⟨_, found, rfl, .inr rfl⟩
  guests := guests
  users := users

/-- So is a state with other rooms, timers and queues. -/
theorem Calm.of_eq {before after : Gateway}
    (pending : after.pendingCallTargets = before.pendingCallTargets)
    (sockets : after.sockets = before.sockets) (db : after.db = before.db)
    : Calm before after where
  pending found := pending ▸ found
  sockets found := ⟨_, sockets ▸ found, rfl, .inr rfl⟩
  guests _ := by rw [db]
  users := by rw [db]

/-- Ending a call is calm. -/
theorem Calm.endCall (now : Time) (gateway : Gateway) (params : CallsService.EndParams)
    : Calm gateway { gateway with db := (CallsService.endCall now gateway.db params).db } :=
  .of_db gateway (endCall_guests now gateway.db params) (endCall_users now gateway.db params)

theorem Calm.refl (gateway : Gateway) : Calm gateway gateway :=
  .of_db gateway (fun _ => rfl) rfl

theorem Calm.trans {first second third : Gateway} (early : Calm first second)
    (late : Calm second third)
    : Calm first third where
  pending found := early.pending (late.pending found)
  sockets found := by
    obtain ⟨middle, there, sameUser, sameCall⟩ := late.sockets found
    obtain ⟨earlier, here, sameUser', sameCall'⟩ := early.sockets there
    refine ⟨earlier, here, sameUser'.trans sameUser, ?_⟩
    rcases sameCall with nothing | same
    · exact .inl nothing
    · rcases sameCall' with nothing | same'
      · exact .inl (same ▸ nothing)
      · exact .inr (same'.trans same)
  guests id := (late.guests id).trans (early.guests id)
  users := late.users.trans early.users

/-- Cancelling the timer of a call and forgetting its target is calm. -/
theorem Calm.settle (gateway : Gateway) (callId : Text)
    : Calm gateway ((gateway.cancelTimer callId).deletePending callId) where
  pending found := lookup_of_erase found
  sockets found := ⟨_, found, rfl, .inr rfl⟩
  guests _ := rfl
  users := rfl

/-- A change of a meta that keeps the user and adds no call is calm. -/
theorem Calm.updateMeta (gateway : Gateway) (socketId : SocketId)
    {change : SocketMeta → SocketMeta}
    (sameUser : ∀ known, (change known).userId = known.userId)
    (sameCall : ∀ known, (change known).callId = none ∨ known.callId = (change known).callId)
    : Calm gateway (gateway.updateMeta socketId change) where
  pending found := by rwa [Gateway.updateMeta_eq] at found
  sockets {other known} found := by
    rw [Gateway.lookup_updateMeta] at found
    split at found
    · obtain ⟨earlier, here, same⟩ := Option.map_eq_some_iff.mp found
      exact ⟨earlier, here, same ▸ (sameUser earlier).symm, same ▸ sameCall earlier⟩
    · exact ⟨known, found, rfl, .inr rfl⟩
  guests id := by rw [updateMeta_db]
  users := by rw [updateMeta_db]

/-- Forgetting a socket is calm. -/
theorem Calm.forget (gateway : Gateway) (socketId : SocketId) (known : SocketMeta)
    : Calm gateway (SignalingGateway.forget gateway socketId known).gateway where
  pending found := by rwa [forget_pending] at found
  sockets found := by
    rw [forget_sockets] at found
    exact ⟨_, lookup_of_erase found, rfl, .inr rfl⟩
  guests id := by rw [forget_db]
  users := by rw [forget_db]

/-- Users that stay are referenced as before. -/
theorem references_of_users {db db' : Database} (same : db'.users = db.users)
    (userId : Option Uuid)
    : db'.references userId = db.references userId := by
  unfold Database.references
  rw [same]

/-- A calm event adds nothing. -/
theorem Calm.handled {event : Event} {before : Gateway} {outcome : Outcome}
    (calm : Calm before outcome.gateway)
    (connected
      : ∀ socketId, outcome.gateway.connected socketId = true →
          before.connected socketId = true
          ∨ event.sender = some socketId ∧ event ≠ .disconnect socketId)
    : Handled event before outcome where
  pending found := .inl (calm.pending found)
  calls found remembered := by
    obtain ⟨earlier, here, _, nothing | same⟩ := calm.sockets found
    · rw [nothing] at remembered
      cases remembered
    · exact .inl ⟨earlier, here, same.trans remembered⟩
  users found := by
    obtain ⟨earlier, here, same, _⟩ := calm.sockets found
    exact .inl ⟨earlier, here, same⟩
  guests id := .inl (calm.guests id)
  connected {socketId} now := by
    rcases connected socketId now with earlier | sends
    · exact .inl earlier
    · exact .inr (.inr sends)
  references known := by rwa [references_of_users calm.users]

/-- A calm event that puts nobody into a room adds nothing. -/
theorem Calm.handled_of_rooms {event : Event} {before : Gateway} {outcome : Outcome}
    (calm : Calm before outcome.gateway)
    (rooms : ∀ entry ∈ outcome.gateway.rooms, entry ∈ before.rooms)
    : Handled event before outcome :=
  calm.handled (fun _ now =>
    .inl (Gateway.connected_iff.mpr (rooms _ (Gateway.connected_iff.mp now))))

/-- A handler that gives up at once adds nothing. -/
theorem Handled.of_eq {event : Event} {before : Gateway} {outcome : Outcome}
    (same : outcome.gateway = before)
    : Handled event before outcome :=
  (Calm.of_eq (by rw [same]) (by rw [same]) (by rw [same])).handled_of_rooms
    (fun _ member => same ▸ member)

section Handlers

variable (now : Time) (gateway : Gateway) (socketId : SocketId)

/-- `call:reject` adds nothing. -/
theorem reject_handled (callId : Text)
    : Handled (.callReject socketId callId) gateway
        (SignalingGateway.onCallReject now gateway socketId callId) := by
  unfold SignalingGateway.onCallReject
  split
  · exact .of_eq rfl
  · split
    · exact .of_eq rfl
    · have ended := Calm.endCall now gateway
      dsimp only
      split
      · exact (ended _).handled_of_rooms (fun _ member => member)
      · exact ((ended _).trans (Calm.settle _ callId)).handled_of_rooms
          (fun _ member => member)

/-- `call:end` adds nothing. -/
theorem end_handled (callId : Text)
    : Handled (.callEnd socketId callId) gateway
        (SignalingGateway.onCallEnd now gateway socketId callId) := by
  unfold SignalingGateway.onCallEnd
  split
  · exact .of_eq rfl
  · have ended := Calm.endCall now gateway
    dsimp only
    split
    · exact (ended _).handled_of_rooms (fun _ member => member)
    · have left : ∀ gateway' : Gateway, Calm gateway' (gateway'.leave callId socketId) :=
        fun gateway' => .of_eq rfl rfl rfl
      have cleared : ∀ gateway' : Gateway, Calm gateway' (gateway'.setCallId socketId none) :=
        fun gateway' => .updateMeta gateway' socketId (fun _ => rfl) (fun _ => .inl rfl)
      refine Calm.handled_of_rooms
        ((ended _).trans ((Calm.settle _ callId).trans ((left _).trans (cleared _)))) ?_
      intro entry member
      rw [setCallId_rooms] at member
      exact (List.mem_filter.mp member).1

/-- A disconnect adds nothing, and the socket is not connected afterwards. -/
theorem disconnect_handled
    : Handled (.disconnect socketId) gateway
        (SignalingGateway.handleDisconnect now gateway socketId) := by
  have gone
      : Calm gateway
          {
            gateway with rooms := gateway.rooms.filter (fun entry => entry.2 ≠ socketId)
          } :=
    .of_eq rfl rfl rfl
  have dequeued
      : ∀ gateway' : Gateway,
          Calm gateway'
            {
              gateway' with
              redis := MatchmakingService.dequeue gateway'.redis socketId
            } :=
    fun gateway' => .of_eq rfl rfl rfl
  have cancelled
      : ∀ (gateway' : Gateway) (callId : Text), Calm gateway' (gateway'.cancelTimer callId) :=
    fun gateway' callId => .of_eq rfl rfl rfl
  unfold SignalingGateway.handleDisconnect
  dsimp only
  split
  · exact gone.handled_of_rooms (fun _ member => (List.mem_filter.mp member).1)
  · next known _ =>
      unfold SignalingGateway.endOrForget
      split
      · refine ((gone.trans (dequeued _)).trans (.forget _ socketId known)).handled_of_rooms ?_
        intro entry member
        rw [forget_rooms] at member
        exact (List.mem_filter.mp member).1
      · next callId _ =>
          dsimp only
          split
          · exact ((gone.trans (dequeued _)).trans (.endCall now _ _)).handled_of_rooms
              (fun _ member => (List.mem_filter.mp member).1)
          · refine Calm.handled_of_rooms
              (((gone.trans (dequeued _)).trans (.endCall now _ _)).trans
                ((cancelled _ callId).trans (.forget _ socketId known))) ?_
            intro entry member
            rw [forget_rooms] at member
            exact (List.mem_filter.mp member).1

/-- The missed-call timer adds nothing. -/
theorem missedCall_handled (runtime : Runtime) (callId : Uuid)
    : Handled (.missedCall callId) gateway
        (handle runtime now gateway (.missedCall callId)) := by
  simp only [handle]
  split
  · exact .of_eq rfl
  · have cleared := Calm.settle gateway (.uuid callId)
    unfold SignalingGateway.missedCall
    dsimp only
    split
    · split
      · exact (cleared.trans (.endCall now _ _)).handled_of_rooms (fun _ member => member)
      · exact (cleared.trans (.endCall now _ _)).handled_of_rooms (fun _ member => member)
    · exact cleared.handled_of_rooms (fun _ member => member)

/-- `call:switch-type` adds nothing. -/
theorem switchType_handled (data : SwitchData)
    : Handled (.switchType socketId data) gateway
        (SignalingGateway.onSwitchType now gateway socketId data) := by
  have switched
      : ∀ userId,
          Calm gateway
            {
              gateway with
              db :=
                (CallsService.toggleCallType now gateway.db data.callId userId data.newType).db
            } := by
    intro userId
    refine .of_db gateway (fun id => ?_) ?_
    · unfold CallsService.toggleCallType
      split
      · rfl
      · simp [Database.guestCount, Database.guests]
    · unfold CallsService.toggleCallType
      split
      · rfl
      · simp
  unfold SignalingGateway.onSwitchType
  split
  · exact .of_eq rfl
  · dsimp only
    split
    · exact (switched _).handled_of_rooms (fun _ member => member)
    · exact (switched _).handled_of_rooms (fun _ member => member)

/-- `media:toggle` adds nothing. -/
theorem mediaToggle_handled (data : MediaData)
    : Handled (.mediaToggle socketId data) gateway
        (SignalingGateway.onMediaToggle gateway socketId data) := by
  have toggled
      : ∀ params,
          Calm gateway
            { gateway with db := (CallsService.toggleMedia gateway.db params).db } := by
    intro params
    refine .of_db gateway (fun id => ?_) ?_
    · unfold CallsService.toggleMedia
      split
      · rfl
      · split
        · rfl
        · exact updateParticipantMedia_guests _ _ _ _ _ _ id
    · unfold CallsService.toggleMedia
      split
      · rfl
      · split
        · rfl
        · rfl
  unfold SignalingGateway.onMediaToggle
  split
  · exact .of_eq rfl
  · dsimp only
    split
    · exact (toggled _).handled_of_rooms (fun _ member => member)
    · exact (toggled _).handled_of_rooms (fun _ member => member)

/-- `contact:request-save` adds nothing. -/
theorem requestContactSave_handled (data : ContactData) (requestId : Uuid)
    : Handled (.requestContactSave socketId data requestId) gateway
        (SignalingGateway.onRequestContactSave gateway socketId data requestId) := by
  have requested
      : ∀ userId,
          Calm gateway
            {
              gateway with
              db :=
                (ContactsService.requestContactSave gateway.db requestId data.callId userId
                  data.toUserId).db
            } := by
    intro userId
    refine .of_db gateway (fun id => ?_) ?_
    · unfold ContactsService.requestContactSave
      split
      · dsimp only
        split
        · rfl
        · split
          · rfl
          · rfl
      · rfl
    · unfold ContactsService.requestContactSave
      split
      · dsimp only
        split
        · rfl
        · split
          · rfl
          · rfl
      · rfl
  unfold SignalingGateway.onRequestContactSave
  split
  · exact .of_eq rfl
  · split
    · exact .of_eq rfl
    · dsimp only
      split
      · exact (requested _).handled_of_rooms (fun _ member => member)
      · exact (requested _).handled_of_rooms (fun _ member => member)

/-- `sfu:join` puts only the sender into a room. -/
theorem sfuJoin_handled (runtime : Runtime) (roomId : Text)
    : Handled (.sfuJoin socketId roomId) gateway
        (SignalingGateway.onSfuJoin runtime gateway socketId roomId) := by
  have joined
      : ∀ gateway' : Gateway,
          Calm gateway'
            ((gateway'.updateMeta socketId
              (fun found => { found with roomId := roomId })).join roomId socketId) := by
    intro gateway'
    have remembered : Calm gateway'
        (gateway'.updateMeta socketId (fun found => { found with roomId := roomId })) :=
      .updateMeta gateway' socketId (fun _ => rfl) (fun _ => .inr rfl)
    exact ⟨remembered.pending, remembered.sockets, remembered.guests, remembered.users⟩
  have entered
      : ∀ (gateway' : Gateway) (other : SocketId),
          gateway'.rooms = gateway.rooms →
            ((gateway'.updateMeta socketId
                (fun found => { found with roomId := roomId })).join roomId socketId).connected
                other
              = true →
              gateway.connected other = true
              ∨ (Event.sfuJoin socketId roomId).sender = some other
                ∧ Event.sfuJoin socketId roomId ≠ .disconnect other := by
    intro gateway' other same now
    rw [Gateway.updateMeta_eq, Gateway.connected_iff] at now
    rcases List.mem_insert_iff.mp now with here | earlier
    · cases here
      exact .inr ⟨rfl, by simp⟩
    · exact .inl (Gateway.connected_iff.mpr (same ▸ earlier))
  unfold SignalingGateway.onSfuJoin
  split
  · exact .of_eq rfl
  · split
    · exact .of_eq rfl
    · dsimp only
      split
      · have created : Calm gateway (SfuService.createRoom gateway roomId) :=
          .of_eq rfl rfl rfl
        exact (created.trans (joined _)).handled (fun other => entered _ other rfl)
      · exact (joined gateway).handled (fun other => entered gateway other rfl)

/-- A connection adds a meta without a call, and the socket's own room. -/
theorem connect_handled (userId : Option Uuid) (anonymousId : Uuid)
    : Handled (.connect socketId userId anonymousId) gateway
        (SignalingGateway.handleConnection gateway socketId userId anonymousId) where
  pending found := .inl found
  calls {other known callId} found remembered := by
    by_cases same : other = socketId
    · subst same
      simp only [SignalingGateway.handleConnection, AList.lookup_insert] at found
      cases found
      cases remembered
    · simp only [SignalingGateway.handleConnection, AList.lookup_insert_ne same] at found
      exact .inl ⟨known, found, remembered⟩
  users {other known} found := by
    by_cases same : other = socketId
    · subst same
      simp only [SignalingGateway.handleConnection, AList.lookup_insert] at found
      cases found
      exact .inr ⟨anonymousId, rfl⟩
    · simp only [SignalingGateway.handleConnection, AList.lookup_insert_ne same] at found
      exact .inl ⟨known, found, rfl⟩
  guests _ := .inl rfl
  connected {other} now := by
    rcases List.mem_insert_iff.mp (Gateway.connected_iff.mp now) with here | earlier
    · cases here
      exact .inr (.inl ⟨userId, anonymousId, rfl⟩)
    · exact .inl (Gateway.connected_iff.mpr earlier)
  references known := known

/-- `call:accept` gives the call to its sender, and adds a guest when it succeeds. -/
theorem accept_handled (data : AcceptData)
    : Handled (.callAccept socketId data) gateway
        (SignalingGateway.onCallAccept now gateway socketId data) := by
  unfold SignalingGateway.onCallAccept
  split
  · exact .of_eq rfl
  · split
    · exact .of_eq rfl
    · next userId _ =>
        split
        · exact .of_eq rfl
        · have guests := acceptCall_guests now gateway.db
            { callId := data.callId, userId := userId, callType := data.callType }
          have users := acceptCall_users now gateway.db
            { callId := data.callId, userId := userId, callType := data.callType }
          dsimp only
          split
          · next failure failed =>
              refine (Calm.of_db gateway (fun id => ?_) users).handled_of_rooms
                (fun _ member => member)
              rcases guests id with same | ⟨_, _, session, accepted⟩
              · exact same
              · rw [failed] at accepted
                cases accepted
          · exact {
              pending := fun found => by
                have earlier := lookup_of_erase found
                change AList.lookup _ (Gateway.setCallId _ socketId _).pendingCallTargets = _
                  at earlier
                exact .inl (by rwa [setCallId_pending] at earlier)
              calls := fun {other known callId} found remembered => by
                obtain ⟨earlier, here, _, same | ⟨rfl, new⟩⟩ := setCallId_earlier _ found
                · exact .inl ⟨earlier, here, same.trans remembered⟩
                · rw [new] at remembered
                  cases remembered
                  exact .inr (.inr ⟨data, .ok, rfl, rfl, rfl⟩)
              users := fun {other known} found => by
                obtain ⟨earlier, here, same, _⟩ := setCallId_earlier _ found
                exact .inl ⟨earlier, here, same⟩
              guests := fun id => by
                change (Gateway.setCallId _ socketId _).db.guestCount id = _
                  ∨ (Gateway.setCallId _ socketId _).db.guestCount id = _ ∧ _
                rw [setCallId_db]
                rcases guests id with same | ⟨one, cast, _⟩
                · exact .inl same
                · exact .inr ⟨one, .inr ⟨socketId, data, .ok, rfl, cast, rfl⟩⟩
              connected := fun {other} now => by
                have member := Gateway.connected_iff.mp now
                rcases List.mem_insert_iff.mp member with here | earlier
                · obtain ⟨_, rfl⟩ := Prod.mk.inj here
                  exact .inr (.inr ⟨rfl, by simp⟩)
                · rw [setCallId_rooms] at earlier
                  exact .inl (Gateway.connected_iff.mpr earlier)
              references := fun {other} known => by
                change (Gateway.setCallId _ socketId _).db.references other = true
                rwa [setCallId_db, references_of_users users]
            }

/-- `call:initiate` gives the new call to its sender. -/
theorem initiate_handled (runtime : Runtime) (data : InitiateData) (callId : Uuid)
    : Handled (.callInitiate socketId data callId) gateway
        (SignalingGateway.onCallInitiate runtime now gateway socketId data callId) := by
  unfold SignalingGateway.onCallInitiate
  split
  · exact .of_eq rfl
  · next known _ =>
      split
      · exact .of_eq rfl
      · next target _ =>
          dsimp only
          generalize ({
            initiatorId := some known.identity
            anonymousId := known.anonymous
            callType := data.callType
            isAnonymous := known.userId.isNone
          } : CallsService.InitiateParams) = params
          have guests := initiateCall_guests now gateway.db callId params
          have users := initiateCall_users now gateway.db callId params
          have created := initiateCall_cases now gateway.db callId params
          split
          · exact (Calm.of_db gateway guests users).handled_of_rooms (fun _ member => member)
          · next succeeded => exact {
              pending := fun {other _} found => by
                change AList.lookup other (AList.insert _ target
                  (Gateway.setCallId _ socketId _).pendingCallTargets) = _ at found
                by_cases same : other = .uuid callId
                · exact .inr ⟨socketId, data, callId, rfl, same, rfl⟩
                · rw [AList.lookup_insert_ne same, setCallId_pending] at found
                  exact .inl found
              calls := fun {other known' _} found remembered => by
                obtain ⟨earlier, here, _, same | ⟨same, new⟩⟩ := setCallId_earlier _ found
                · exact .inl ⟨earlier, here, same.trans remembered⟩
                · rw [new] at remembered
                  cases remembered
                  rcases created with ⟨_, failure, failed⟩ | ⟨absent, inserted⟩
                  · rw [failed] at succeeded
                    cases succeeded
                  · refine .inr (.inl ⟨callId, rfl, absent, ?_, fun sender data' sent => ?_⟩)
                    · change (AList.lookup callId
                        (Gateway.setCallId _ socketId _).db.callSessions).isSome
                      rw [setCallId_db, inserted, AList.lookup_insert]
                      rfl
                    · cases sent
                      exact same
              users := fun {other known'} found => by
                obtain ⟨earlier, here, same, _⟩ := setCallId_earlier _ found
                exact .inl ⟨earlier, here, same⟩
              guests := fun id => by
                left
                change (Gateway.setCallId _ socketId _).db.guestCount id = _
                rw [setCallId_db]
                exact guests id
              connected := fun {other} now => by
                have member := Gateway.connected_iff.mp now
                rcases List.mem_insert_iff.mp member with here | earlier
                · cases here
                · rw [setCallId_rooms] at earlier
                  exact .inl (Gateway.connected_iff.mpr earlier)
              references := fun {other} known => by
                change (Gateway.setCallId _ socketId _).db.references other = true
                rwa [setCallId_db, references_of_users users]
            }

/-- A pairing gives the new call to both sockets, and adds one guest. -/
theorem pairUsers_handled (a b : Matchmaking.TimedEntry) (callId : Uuid)
    (preferredType : Option CallType)
    : Handled (.joinQueue socketId preferredType callId) gateway
        (SignalingGateway.pairUsers now gateway a b callId) := by
  unfold SignalingGateway.pairUsers
  dsimp only
  generalize (if a.preferredType = b.preferredType then a.preferredType else .video) = callType
  generalize ({
    initiatorId := a.userId
    anonymousId := if a.userId.isSome then none else some a.anonymousId
    callType := callType
    isAnonymous := true
  } : CallsService.InitiateParams) = initiateParams
  generalize acceptEq
    : ({
        callId := .uuid callId
        userId := b.userId.getD b.anonymousId
        anonymousId := if b.userId.isSome then none else some b.anonymousId
        isAnonymous := b.userId.isNone
        callType := callType
      } : CallsService.AcceptParams) = acceptParams
  have named : acceptParams.callId = .uuid callId := by rw [← acceptEq]
  have created := initiateCall_cases now gateway.db callId initiateParams
  have noGuest := initiateCall_guests now gateway.db callId initiateParams
  have users := initiateCall_users now gateway.db callId initiateParams
  cases result : (CallsService.initiateCall now gateway.db callId initiateParams).result with
  | error failure =>
      exact (Calm.of_db gateway noGuest users).handled_of_rooms (fun _ member => member)
  | ok _ =>
      rcases created with ⟨_, failure, failed⟩ | ⟨absent, inserted⟩
      · rw [failed] at result
        cases result
      · have guests := acceptCall_guests now
          (CallsService.initiateCall now gateway.db callId initiateParams).db acceptParams
        have users' := (acceptCall_users now
          (CallsService.initiateCall now gateway.db callId initiateParams).db
          acceptParams).trans users
        have present
            : ((CallsService.acceptCall now
                  (CallsService.initiateCall now gateway.db callId initiateParams).db
                  acceptParams).db.callSessions.lookup callId).isSome := by
          have answered := acceptCall_effect now
            (CallsService.initiateCall now gateway.db callId initiateParams).db acceptParams
            callId
          rw [inserted, AList.lookup_insert] at answered
          rcases answered.of_row with ⟨_, same, _⟩ | ⟨_, _, same, _⟩
          · rw [same]
            rfl
          · rw [same]
            rfl
        dsimp only
        split
        · next failure failed =>
            refine (Calm.of_db gateway (fun id => ?_) users').handled_of_rooms
              (fun _ member => member)
            rcases guests id with same | ⟨_, _, session, accepted⟩
            · exact same.trans (noGuest id)
            · rw [failed] at accepted
              cases accepted
        · have given
              : ∀ (gateway' : Gateway) {other : SocketId} {known : SocketMeta},
                  gateway'.sockets = gateway.sockets →
                    ((gateway'.setCallId a.socketId (some (.uuid callId))).setCallId b.socketId
                      (some (.uuid callId))).sockets.lookup other = some known →
                      ∃ earlier,
                        gateway.sockets.lookup other = some earlier
                        ∧ earlier.userId = known.userId
                        ∧ (earlier.callId = known.callId
                          ∨ known.callId = some (.uuid callId)) := by
            intro gateway' other known same found
            obtain ⟨middle, there, sameUser, sameCall⟩ := setCallId_earlier _ found
            obtain ⟨earlier, here, sameUser', sameCall'⟩ := setCallId_earlier _ there
            refine ⟨earlier, same ▸ here, sameUser'.trans sameUser, ?_⟩
            rcases sameCall with kept | ⟨_, new⟩
            · rcases sameCall' with kept' | ⟨_, new⟩
              · exact .inl (kept'.trans kept)
              · exact .inr (kept ▸ new)
            · exact .inr new
          exact {
            pending := fun found => by
              left
              rwa [setCallId_pending, setCallId_pending, socketsJoin_pending,
                socketsJoin_pending] at found
            calls := fun {other known callId'} found remembered => by
              obtain ⟨earlier, here, _, same | new⟩ := given _
                (by rw [socketsJoin_sockets, socketsJoin_sockets]) found
              · exact .inl ⟨earlier, here, same.trans remembered⟩
              · rw [new] at remembered
                cases remembered
                refine .inr (.inl ⟨callId, rfl, absent, ?_, fun _ _ sent => by cases sent⟩)
                rw [setCallId_db, setCallId_db, socketsJoin_db, socketsJoin_db]
                exact present
            users := fun {other known} found => by
              obtain ⟨earlier, here, same, _⟩ := given _
                (by rw [socketsJoin_sockets, socketsJoin_sockets]) found
              exact .inl ⟨earlier, here, same⟩
            guests := fun id => by
              rw [setCallId_db, setCallId_db, socketsJoin_db, socketsJoin_db]
              dsimp only
              rw [← noGuest id]
              rcases guests id with same | ⟨one, cast, _⟩
              · exact .inl same
              · rw [named, Text.cast_uuid] at cast
                cases cast
                exact .inr ⟨one, .inl ⟨⟨socketId, preferredType, rfl⟩, absent, present⟩⟩
            connected := fun {other} now => by
              have member := Gateway.connected_iff.mp now
              rw [setCallId_rooms, setCallId_rooms] at member
              rcases mem_socketsJoin _ member with here | member
              · cases here
              · rcases mem_socketsJoin _ member with here | member
                · cases here
                · exact .inl (Gateway.connected_iff.mpr member)
            references := fun {other} known => by
              rw [setCallId_db, setCallId_db, socketsJoin_db, socketsJoin_db]
              rwa [references_of_users users']
          }

/-- What an event that is no call has done does not depend on its reply. -/
theorem Handled.with_gateway {event : Event} {before before' : Gateway}
    {outcome outcome' : Outcome} (handled : Handled event before outcome)
    (same : outcome'.gateway = outcome.gateway)
    (start : before = { before' with redis := before.redis })
    (joins : ∃ sender preferredType callId, event = .joinQueue sender preferredType callId)
    : Handled event before' outcome' := by
  obtain ⟨sender, preferredType, callId, rfl⟩ := joins
  rw [start] at handled
  exact {
    pending := fun found => by
      rcases handled.pending (same ▸ found) with earlier | ⟨_, _, _, sent, _⟩
      · exact .inl earlier
      · cases sent
    calls := fun found remembered => by
      rw [same] at found ⊢
      rcases handled.calls found remembered with earlier | new | ⟨_, _, sent, _⟩
      · exact .inl earlier
      · exact .inr (.inl new)
      · cases sent
    users := fun found => handled.users (same ▸ found)
    guests := fun id => by
      rw [same]
      rcases handled.guests id with earlier | ⟨one, new | ⟨_, _, _, sent, _⟩⟩
      · exact .inl earlier
      · exact .inr ⟨one, .inl new⟩
      · cases sent
    connected := fun now => handled.connected (same ▸ now)
    references := fun known => same ▸ handled.references known
  }

/-- A join gives a new call to at most two sockets. -/
theorem joinQueue_handled (preferredType : Option CallType) (callId : Uuid)
    : Handled (.joinQueue socketId preferredType callId) gateway
        (SignalingGateway.onJoinQueue now gateway socketId preferredType callId) := by
  have paired
      : ∀ gateway' : Gateway,
          Handled (.joinQueue socketId preferredType callId) gateway'
            (SignalingGateway.tryPairUsers now gateway' callId) := by
    intro gateway'
    unfold SignalingGateway.tryPairUsers
    dsimp only
    split
    · have popped : Calm gateway'
          {
            gateway' with
            redis := (MatchmakingService.tryMatch (dateNow now) gateway'.redis).1
          } :=
        .of_eq rfl rfl rfl
      exact popped.handled_of_rooms (fun _ member => member)
    · next a b _ =>
        exact (pairUsers_handled now
          {
            gateway' with
            redis := (MatchmakingService.tryMatch (dateNow now) gateway'.redis).1
          }
          socketId a b callId preferredType).with_gateway rfl rfl ⟨_, _, _, rfl⟩
  unfold SignalingGateway.onJoinQueue
  split
  · exact .of_eq rfl
  · dsimp only
    split
    · exact (paired _).with_gateway rfl rfl ⟨_, _, _, rfl⟩
    · exact (paired _).with_gateway rfl rfl ⟨_, _, _, rfl⟩

end Handlers

/-- What every event can have added. -/
theorem handle_handled (runtime : Runtime) (now : Time) (gateway : Gateway) (event : Event)
    : Handled event gateway (handle runtime now gateway event) := by
  have quiet
      : ∀ (event : Event) (reply : Except Failure Reply) (outputs : List Output),
          Handled event gateway ⟨gateway, reply, outputs⟩ :=
    fun _ _ _ => .of_eq rfl
  cases event with
  | register userId email => exact {
      pending := .inl
      calls := fun found remembered => .inl ⟨_, found, remembered⟩
      users := fun found => .inl ⟨_, found, rfl⟩
      guests := fun _ => .inl rfl
      connected := .inl
      references := fun {other} known => by
        cases other with
        | none => rfl
        | some id =>
            simp only [handle, Database.references, List.any_append, Bool.or_eq_true]
              at known ⊢
            exact .inl known
    }
  | connect socketId userId anonymousId =>
      exact connect_handled gateway socketId userId anonymousId
  | disconnect socketId => exact disconnect_handled now gateway socketId
  | callInitiate socketId data callId =>
      exact initiate_handled now gateway socketId runtime data callId
  | missedCall callId => exact missedCall_handled now gateway runtime callId
  | callAccept socketId data => exact accept_handled now gateway socketId data
  | callReject socketId callId => exact reject_handled now gateway socketId callId
  | callEnd socketId callId => exact end_handled now gateway socketId callId
  | signalOffer _ _ _ => exact quiet _ _ _
  | signalAnswer _ _ _ => exact quiet _ _ _
  | signalIce _ _ _ => exact quiet _ _ _
  | mediaToggle socketId data => exact mediaToggle_handled gateway socketId data
  | switchType socketId data => exact switchType_handled now gateway socketId data
  | joinQueue socketId preferredType callId =>
      exact joinQueue_handled now gateway socketId preferredType callId
  | leaveQueue socketId =>
      have left : Calm gateway
          { gateway with redis := MatchmakingService.dequeue gateway.redis socketId } :=
        .of_eq rfl rfl rfl
      exact left.handled_of_rooms (fun _ member => member)
  | queueStatusRequest _ => exact quiet _ _ _
  | sfuJoin socketId roomId => exact sfuJoin_handled gateway socketId runtime roomId
  | createTransport socketId roomId transportId =>
      simp only [handle, SignalingGateway.onCreateTransport]
      split
      · exact quiet _ _ _
      · next gateway' created =>
          have opened : Calm gateway gateway' := by
            rw [SfuService.createWebRtcTransport_eq created]
            exact .of_eq rfl rfl rfl
          refine opened.handled_of_rooms (fun _ member => ?_)
          rw [SfuService.createWebRtcTransport_eq created] at member
          exact member
  | produce socketId data producerId =>
      simp only [handle, SignalingGateway.onProduce]
      split
      · exact quiet _ _ _
      · exact quiet _ _ _
  | requestContactSave socketId data requestId =>
      exact requestContactSave_handled gateway socketId data requestId

end NexusComms.Signaling
