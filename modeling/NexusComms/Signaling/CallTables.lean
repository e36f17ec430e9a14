import NexusComms.Signaling.Actors

/-! The two maps of calls that wait for an answer. `pendingCallTargets` and `missedCallTimers`
are filled together, by a `call:initiate`, and most handlers that take a call out of one take
it out of the other under the text that their client has sent. `handleDisconnect` forgets the
timer only, another spelling of the id finds the row but no entry, and a switch of the type
activates a call in the table alone.
-/

namespace NexusComms.Signaling

open Concurrency Storage

/-- The two maps have the same keys, and each key names a call whose status is initiated. -/
structure TablesAgree (gateway : Gateway) : Prop where
  keys (callId : Text)
    : (gateway.pendingCallTargets.lookup callId).isSome
      = (gateway.missedCallTimers.lookup callId).isSome
  initiated {callId : Text} (set : (gateway.missedCallTimers.lookup callId).isSome)
    : ∃ row, gateway.db.sessionNamed callId = some row ∧ row.status = .initiated

namespace Gateway

/-- A text names, in whatever spelling, a call that waits for its answer. -/
def rings (gateway : Gateway) (callId : Text) : Bool :=
  callId.cast.any (fun id => (gateway.missedCallTimers.lookup (.uuid id)).isSome)

/-- A text names no call that waits for its answer except by the key of its entries. -/
def keyed (gateway : Gateway) (callId : Text) : Bool :=
  !gateway.rings callId || (gateway.missedCallTimers.lookup callId).isSome

end Gateway

/-- The event keeps the maps and the table together: whoever accepts, rejects or ends a call
that waits for its answer names it by its key, nobody disconnects who remembers such a call,
and nobody switches its type. Events whose handler does not get to its UPDATE are free. -/
def tablesKept (world : World) (stimulus : Stimulus) : Bool :=
  let gateway := world.gateway
  match stimulus.event with
  | .callAccept socketId data =>
      !gateway.mayAccept socketId data.callId || gateway.keyed data.callId
  | .callReject socketId callId =>
      !(gateway.userOf socketId).isSome || gateway.keyed callId
  | .callEnd socketId callId => !gateway.knows socketId || gateway.keyed callId
  | .disconnect socketId =>
      (gateway.callOf socketId).all (fun callId => !gateway.rings callId)
  | .switchType socketId data => !gateway.knows socketId || !gateway.rings data.callId
  | _ => true

namespace Event

/-- The key that the handler of an event takes out of `pendingCallTargets`, if it is there. -/
def settles (gateway : Gateway) : Event → Option Text
  | callAccept socketId data =>
      if gateway.mayAccept socketId data.callId then some data.callId else none
  | callReject socketId callId =>
      if (gateway.userOf socketId).isSome then some callId else none
  | callEnd socketId callId => if gateway.knows socketId then some callId else none
  | missedCall callId =>
      if (gateway.missedCallTimers.lookup (.uuid callId)).isSome then
        some (.uuid callId)
      else
        none
  | _ => none

/-- The key that it takes out of `missedCallTimers`. -/
def stops (gateway : Gateway) : Event → Option Text
  | disconnect socketId => gateway.callOf socketId
  | event => event.settles gateway

/-- A `call:initiate` puts a key into both maps. -/
def initiates : Event → Bool
  | callInitiate _ _ _ => true
  | _ => false

end Event

--------------------------------------------------------------------------------
-- What an event does to the maps
--------------------------------------------------------------------------------

/-- What the handler of an event does to the entries of a key in the two maps: those that it
takes out are gone, and others are as before. -/
structure Settles (event : Event) (before after : Gateway) (key : Text) : Prop where
  pending
    : after.pendingCallTargets.lookup key
      = if event.settles before = some key then none
        else before.pendingCallTargets.lookup key
  timers
    : after.missedCallTimers.lookup key
      = if event.stops before = some key then none
        else before.missedCallTimers.lookup key

namespace Settles

variable {event : Event} {before after : Gateway} {key other : Text}

/-- A handler that leaves both maps alone and has no key to take out. -/
theorem idle (settles : event.settles before = none) (stops : event.stops before = none)
    (pending : after.pendingCallTargets = before.pendingCallTargets)
    (timers : after.missedCallTimers = before.missedCallTimers)
    : Settles event before after key where
  pending := by rw [settles, pending, if_neg (by simp)]
  timers := by rw [stops, timers, if_neg (by simp)]

/-- A handler that fails leaves other keys alone. -/
theorem of_ne (settles : event.settles before = some other)
    (stops : event.stops before = some other) (apart : other ≠ key)
    (pending : after.pendingCallTargets = before.pendingCallTargets)
    (timers : after.missedCallTimers = before.missedCallTimers)
    : Settles event before after key where
  pending := by rw [settles, pending, if_neg (by simpa using apart)]
  timers := by rw [stops, timers, if_neg (by simpa using apart)]

/-- An entry that has been deleted. -/
theorem lookup_erase {ν : Type} (map : AList (fun _ : Text => ν)) (key other : Text)
    : (map.erase other).lookup key = if some other = some key then none else map.lookup key := by
  by_cases same : other = key
  · subst same
    rw [if_pos rfl, AList.lookup_erase]
  · rw [if_neg (by simpa using same), AList.lookup_erase_ne (Ne.symm same)]

/-- A handler that deletes a key from both maps. -/
theorem both (settles : event.settles before = some other)
    (stops : event.stops before = some other)
    (pending : after.pendingCallTargets = before.pendingCallTargets.erase other)
    (timers : after.missedCallTimers = before.missedCallTimers.erase other)
    : Settles event before after key where
  pending := by rw [settles, pending, lookup_erase]
  timers := by rw [stops, timers, lookup_erase]

end Settles

section Handlers

variable (now : Time) (gateway : Gateway) (socketId : SocketId) {key : Text}

/-- A key that names a call names it by its UUID. -/
theorem cast_of_present {db : Database} (present : (db.sessionNamed key).isSome)
    : ∃ id, key.cast = some id ∧ (db.callSessions.lookup id).isSome := by
  obtain ⟨row, named⟩ := Option.isSome_iff_exists.mp present
  obtain ⟨id, cast, found⟩ := Option.bind_eq_some_iff.mp named
  exact ⟨id, cast, by rw [found]; rfl⟩

/-- `endCall` of a text that names a call does not fail. -/
theorem endCall_succeeds {db : Database} {params : CallsService.EndParams}
    (present : (db.sessionNamed params.callId).isSome)
    : (CallsService.endCall now db params).result = .ok () := by
  obtain ⟨id, cast, _⟩ := cast_of_present present
  simp only [CallsService.endCall, cast]

/-- `call:accept` takes out the entries of a call that exists. -/
theorem accept_settles (data : AcceptData)
    (present : (gateway.db.sessionNamed key).isSome)
    (known
      : ∀ userId,
          gateway.userOf socketId = some userId → gateway.db.references (some userId) = true)
    : Settles (.callAccept socketId data) gateway
        (SignalingGateway.onCallAccept now gateway socketId data).gateway key := by
  unfold SignalingGateway.onCallAccept
  cases found : gateway.sockets.lookup socketId with
  | none =>
      have unknown : gateway.mayAccept socketId data.callId = false := by
        simp [Gateway.mayAccept, Gateway.userOf, found]
      exact .idle (by simp [Event.settles, unknown])
        (by simp [Event.stops, Event.settles, unknown]) rfl rfl
  | some meta' =>
      cases registered : meta'.userId with
      | none =>
          have anonymous : gateway.mayAccept socketId data.callId = false := by
            simp [Gateway.mayAccept, Gateway.userOf, found, registered]
          simp only [registered]
          exact .idle (by simp [Event.settles, anonymous])
            (by simp [Event.stops, Event.settles, anonymous]) rfl rfl
      | some userId =>
          have user : gateway.userOf socketId = some userId := by
            simp [Gateway.userOf, found, registered]
          simp only [registered]
          split
          · next barred =>
              have refused : gateway.mayAccept socketId data.callId = false := by
                simp [Gateway.mayAccept, user, barred]
              exact .idle (by simp [Event.settles, refused])
                (by simp [Event.stops, Event.settles, refused]) rfl rfl
          · next unbarred =>
              have may : gateway.mayAccept socketId data.callId = true := by
                simpa [Gateway.mayAccept, user] using unbarred
              have settles
                  : (Event.callAccept socketId data).settles gateway = some data.callId := by
                simp [Event.settles, may]
              split
              · next failed =>
                  refine .of_ne settles settles (fun same => ?_) rfl rfl
                  obtain ⟨id, cast, exists_row⟩ := cast_of_present present
                  obtain ⟨session, succeeded⟩
                      : ∃ session,
                          (CallsService.acceptCall now gateway.db
                            { callId := data.callId, userId := userId,
                              callType := data.callType }).result
                          = .ok session :=
                    acceptCall_succeeds now (same ▸ cast) exists_row (known userId user)
                  cases failed.symm.trans succeeded
              · refine .both settles settles ?_ ?_
                · exact congrArg (AList.erase data.callId) (setCallId_pending _ _ _)
                · exact congrArg (AList.erase data.callId) (setCallId_timers _ _ _)

/-- So does `call:reject`, under the text that the client has sent. -/
theorem reject_settles (callId : Text) (present : (gateway.db.sessionNamed key).isSome)
    : Settles (.callReject socketId callId) gateway
        (SignalingGateway.onCallReject now gateway socketId callId).gateway key := by
  unfold SignalingGateway.onCallReject
  cases found : gateway.sockets.lookup socketId with
  | none =>
      have unknown : gateway.userOf socketId = none := by simp [Gateway.userOf, found]
      exact .idle (by simp [Event.settles, unknown])
        (by simp [Event.stops, Event.settles, unknown]) rfl rfl
  | some meta' =>
      cases registered : meta'.userId with
      | none =>
          have anonymous : gateway.userOf socketId = none := by
            simp [Gateway.userOf, found, registered]
          simp only [registered]
          exact .idle (by simp [Event.settles, anonymous])
            (by simp [Event.stops, Event.settles, anonymous]) rfl rfl
      | some userId =>
          have user : (gateway.userOf socketId).isSome := by
            simp [Gateway.userOf, found, registered]
          have settles : (Event.callReject socketId callId).settles gateway = some callId := by
            simp [Event.settles, user]
          simp only [registered]
          split
          · next failed =>
              refine .of_ne settles settles (fun same => ?_) rfl rfl
              cases failed.symm.trans (endCall_succeeds now (same ▸ present))
          · exact .both settles settles rfl rfl

/-- So does `call:end`. -/
theorem end_settles (callId : Text) (present : (gateway.db.sessionNamed key).isSome)
    : Settles (.callEnd socketId callId) gateway
        (SignalingGateway.onCallEnd now gateway socketId callId).gateway key := by
  unfold SignalingGateway.onCallEnd
  cases found : gateway.sockets.lookup socketId with
  | none =>
      have unknown : gateway.knows socketId = false := by simp [Gateway.knows, found]
      exact .idle (by simp [Event.settles, unknown])
        (by simp [Event.stops, Event.settles, unknown]) rfl rfl
  | some meta' =>
      have settles : (Event.callEnd socketId callId).settles gateway = some callId := by
        simp [Event.settles, knows_of_lookup gateway socketId found]
      dsimp only
      split
      · next failed =>
          refine .of_ne settles settles (fun same => ?_) rfl rfl
          cases failed.symm.trans (endCall_succeeds now (same ▸ present))
      · exact .both settles settles (setCallId_pending _ _ _) (setCallId_timers _ _ _)

/-- `handleDisconnect` takes out the timer of the call that its socket remembers, and leaves
its target. -/
theorem disconnect_settles (present : (gateway.db.sessionNamed key).isSome)
    : Settles (.disconnect socketId) gateway
        (SignalingGateway.handleDisconnect now gateway socketId).gateway key := by
  unfold SignalingGateway.handleDisconnect
  cases found : gateway.sockets.lookup socketId with
  | none =>
      have unknown : gateway.callOf socketId = none := by simp [Gateway.callOf, found]
      simp only [found]
      exact .idle rfl unknown rfl rfl
  | some meta' =>
      have stops
          : (Event.disconnect socketId).stops gateway = meta'.callId.filter Text.truthy := by
        simp [Event.stops, Gateway.callOf, found]
      simp only [found]
      unfold SignalingGateway.endOrForget
      cases call : meta'.callId.filter Text.truthy with
      | none => exact .idle rfl (stops.trans call) (forget_pending _ _ _) (forget_timers _ _ _)
      | some callId =>
          rw [call] at stops
          dsimp only
          split
          · next failed =>
              refine ⟨rfl, ?_⟩
              rw [stops, if_neg]
              rintro same
              cases same
              cases failed.symm.trans (endCall_succeeds now present)
          · refine ⟨?_, ?_⟩
            · exact congrArg (AList.lookup key) (forget_pending _ _ _)
            · rw [stops, forget_timers]
              exact Settles.lookup_erase _ key callId

/-- The callback of a timeout takes out both entries of its call. -/
theorem missedCall_settles (runtime : Runtime) (callId : Uuid)
    : Settles (.missedCall callId) gateway
        (handle runtime now gateway (.missedCall callId)).gateway key := by
  simp only [handle]
  cases found : gateway.missedCallTimers.lookup (.uuid callId) with
  | none =>
      exact .idle (by simp [Event.settles, found])
        (by simp [Event.stops, Event.settles, found]) rfl rfl
  | some timer =>
      have settles : (Event.missedCall callId).settles gateway = some (.uuid callId) := by
        simp [Event.settles, found]
      simp only [SignalingGateway.missedCall]
      split
      · split
        · exact .both settles settles rfl rfl
        · exact .both settles settles rfl rfl
      · exact .both settles settles rfl rfl

@[simp]
theorem updateMeta_pending (change : SocketMeta → SocketMeta)
    : (gateway.updateMeta socketId change).pendingCallTargets = gateway.pendingCallTargets := by
  rw [Gateway.updateMeta_eq]

/-- A pairing leaves both maps alone. -/
theorem tryPairUsers_pending (callId : Uuid)
    : (SignalingGateway.tryPairUsers now gateway callId).gateway.pendingCallTargets
      = gateway.pendingCallTargets := by
  unfold SignalingGateway.tryPairUsers
  dsimp only
  split
  · rfl
  · unfold SignalingGateway.pairUsers
    dsimp only
    split
    · rfl
    · split
      · rfl
      · simp

/-- What every event but a `call:initiate` does to the entries of a call that exists. -/
theorem handle_settles (runtime : Runtime) {event : Event} (plain : event.initiates = false)
    (present : (gateway.db.sessionNamed key).isSome)
    (known
      : ∀ socketId userId,
          gateway.userOf socketId = some userId → gateway.db.references (some userId) = true)
    : Settles event gateway (handle runtime now gateway event).gateway key := by
  cases event with
  | callInitiate _ _ _ => cases plain
  | callAccept socketId data =>
      exact accept_settles now gateway socketId data present (known socketId)
  | callReject socketId callId => exact reject_settles now gateway socketId callId present
  | callEnd socketId callId => exact end_settles now gateway socketId callId present
  | disconnect socketId => exact disconnect_settles now gateway socketId present
  | missedCall callId => exact missedCall_settles now gateway runtime callId
  | mediaToggle socketId data =>
      refine .idle rfl rfl ?_ ?_
      all_goals
        simp only [handle, SignalingGateway.onMediaToggle]
        split
        · rfl
        · split
          · rfl
          · rfl
  | switchType socketId data =>
      refine .idle rfl rfl ?_ ?_
      all_goals
        simp only [handle, SignalingGateway.onSwitchType]
        split
        · rfl
        · split
          · rfl
          · rfl
  | joinQueue socketId preferredType callId =>
      refine .idle rfl rfl ?_ ?_
      · simp only [handle, SignalingGateway.onJoinQueue]
        split
        · rfl
        · split
          · exact tryPairUsers_pending _ _ _
          · exact tryPairUsers_pending _ _ _
      · simp only [handle, SignalingGateway.onJoinQueue]
        split
        · rfl
        · split
          · exact tryPairUsers_timers _ _ _
          · exact tryPairUsers_timers _ _ _
  | sfuJoin socketId roomId =>
      refine .idle rfl rfl ?_ ?_
      all_goals
        simp only [handle, SignalingGateway.onSfuJoin]
        split
        · rfl
        · split
          · rfl
          · split
            · simp [Gateway.join, SfuService.createRoom]
            · simp [Gateway.join]
  | createTransport socketId roomId transportId =>
      refine .idle rfl rfl ?_ ?_
      all_goals
        simp only [handle, SignalingGateway.onCreateTransport]
        split
        · rfl
        · next created => rw [SfuService.createWebRtcTransport_eq created]
  | produce socketId data producerId =>
      refine .idle rfl rfl ?_ ?_
      all_goals
        simp only [handle, SignalingGateway.onProduce]
        split
        · rfl
        · rfl
  | requestContactSave socketId data requestId =>
      refine .idle rfl rfl ?_ ?_
      all_goals
        simp only [handle, SignalingGateway.onRequestContactSave]
        split
        · rfl
        · split
          · rfl
          · split
            · rfl
            · rfl
  | register _ _ | connect _ _ _ | signalOffer _ _ _ | signalAnswer _ _ _ | signalIce _ _ _
  | leaveQueue _ | queueStatusRequest _ => exact .idle rfl rfl rfl rfl

/-- A `call:initiate` that gets to its end puts a new call into both maps, with its row;
otherwise it changes neither. -/
theorem initiate_tables (runtime : Runtime) (data : InitiateData) (callId : Uuid)
    : let after :=
        (SignalingGateway.onCallInitiate runtime now gateway socketId data callId).gateway
      (after.pendingCallTargets = gateway.pendingCallTargets
        ∧ after.missedCallTimers = gateway.missedCallTimers)
      ∨ (gateway.db.callSessions.lookup callId = none
        ∧ (∃ row, after.db.callSessions.lookup callId = some row ∧ row.status = .initiated)
        ∧ (∃ target,
            after.pendingCallTargets = gateway.pendingCallTargets.insert (.uuid callId) target)
        ∧ ∃ timer,
            after.missedCallTimers
              = gateway.missedCallTimers.insert (.uuid callId) timer) := by
  unfold SignalingGateway.onCallInitiate
  dsimp only
  split
  · exact .inl ⟨rfl, rfl⟩
  · split
    · exact .inl ⟨rfl, rfl⟩
    · split
      · exact .inl ⟨rfl, rfl⟩
      · next known _ _ target _ _ succeeded =>
          right
          rcases initiateCall_cases now gateway.db callId _ with
            ⟨_, failure, failed⟩ | ⟨absent, created⟩
          · cases succeeded.symm.trans failed
          · refine ⟨absent, ?_, ⟨target, ?_⟩, ⟨known.missedCallTimer socketId now, ?_⟩⟩
            · simp only [Gateway.join, setCallId_db, created, AList.lookup_insert]
              exact ⟨_, rfl, rfl⟩
            · exact congrArg (AList.insert _ target) (setCallId_pending _ _ _)
            · exact congrArg (AList.insert _ _) (setCallId_timers _ _ _)

end Handlers

--------------------------------------------------------------------------------
-- One step
--------------------------------------------------------------------------------

/-- What holds in every state of every run: everybody is seated, and the keys of the timers
are UUIDs as the database prints them. -/
structure TimersKeyed (world : World) : Prop where
  seated : Seated world
  keys {callId : Text} (set : (world.gateway.missedCallTimers.lookup callId).isSome)
    : ∃ id, callId = .uuid id

/-- The event leaves the entries of a call and its status together: it takes out both, or it
takes out none and does not update the row. -/
def KeepsTogether (gateway : Gateway) (event : Event) (id : Uuid) : Prop :=
  (event.settles gateway = some (.uuid id) ∧ event.stops gateway = some (.uuid id))
  ∨ (event.settles gateway ≠ some (.uuid id) ∧ event.stops gateway ≠ some (.uuid id)
    ∧ event.updateOf gateway id = none)

/-- No UPDATE sets a call back to initiated. -/
theorem rowUpdate_status {gateway : Gateway} {event : Event} {callId : Text}
    {update : StatusUpdate} (issued : event.rowUpdate gateway = some (callId, update))
    : update.status ≠ .initiated := by
  cases event with
  | disconnect socketId =>
      obtain ⟨_, _, same⟩ := Option.map_eq_some_iff.mp issued
      cases same
      exact fun same => by cases same
  | callAccept _ _ | callReject _ _ | callEnd _ _ | switchType _ _ | missedCall _ =>
      obtain ⟨_, same⟩ := Option.ite_none_right_eq_some.mp issued
      cases same
      exact fun same => by cases same
  | _ => cases issued

section Steps

variable {runtime : Runtime} {world : World} {stimulus : Stimulus}

variable (runtime) in
/-- A call that was initiated still is exactly if the event does not update its row. -/
theorem stays_initiated_iff {id : Uuid} {row : CallSession} (found : world.session id = some row)
    (initiated : row.status = .initiated)
    : (∃ row', (world.after runtime stimulus).session id = some row' ∧ row'.status = .initiated)
      ↔ stimulus.event.updateOf world.gateway id = none := by
  rcases after_of_row runtime stimulus found with
    ⟨unissued, same, _⟩ | ⟨update, issued, same, _⟩
  · exact iff_of_true ⟨row, same, initiated⟩ unissued
  · refine iff_of_false ?_ (by simp [issued])
    rintro ⟨row', found', initiated'⟩
    cases same.symm.trans found'
    obtain ⟨⟨callId, update'⟩, sent, here⟩ := Option.bind_eq_some_iff.mp issued
    obtain ⟨_, same'⟩ := Option.ite_none_right_eq_some.mp here
    cases same'
    exact rowUpdate_status sent initiated'

/-- The row of a call that waits for its answer. -/
theorem TablesAgree.row (agree : TablesAgree world.gateway) {id : Uuid}
    (set : (world.gateway.missedCallTimers.lookup (.uuid id)).isSome)
    : ∃ row, world.session id = some row ∧ row.status = .initiated := by
  obtain ⟨row, named, initiated⟩ := agree.initiated set
  exact ⟨row, named, initiated⟩

/-- An event that initiates no call keeps the maps and the table together exactly if it does so
for each call that waits for its answer. -/
theorem tablesAgree_of_plain (keyed : TimersKeyed world) (agree : TablesAgree world.gateway)
    (plain : stimulus.event.initiates = false)
    : TablesAgree (world.after runtime stimulus).gateway
      ↔ ∀ id,
          (world.gateway.missedCallTimers.lookup (.uuid id)).isSome →
            KeepsTogether world.gateway stimulus.event id := by
  have settles
      : ∀ {id : Uuid},
          (world.gateway.missedCallTimers.lookup (.uuid id)).isSome →
            Settles stimulus.event world.gateway (world.after runtime stimulus).gateway
              (.uuid id) := by
    intro id set
    obtain ⟨row, named, _⟩ := agree.initiated set
    exact handle_settles stimulus.now world.gateway runtime plain (by rw [named]; rfl)
      (fun _ _ user => keyed.seated.registered user)
  have earlier_timer
      : ∀ {callId : Text},
          ((world.after runtime stimulus).gateway.missedCallTimers.lookup callId).isSome →
            (world.gateway.missedCallTimers.lookup callId).isSome := by
    intro callId set
    obtain ⟨timer, set⟩ := Option.isSome_iff_exists.mp set
    rcases handle_timers stimulus.now world.gateway runtime stimulus.event set with
      before | ⟨_, _, _, _, sent, _⟩
    · rw [before]
      rfl
    · rw [sent] at plain
      cases plain
  have earlier_target
      : ∀ {callId : Text},
          ((world.after runtime stimulus).gateway.pendingCallTargets.lookup callId).isSome →
            (world.gateway.missedCallTimers.lookup callId).isSome := by
    intro callId set
    obtain ⟨target, set⟩ := Option.isSome_iff_exists.mp set
    have handled := handle_handled runtime stimulus.now world.gateway stimulus.event
    rcases handled.pending set with before | ⟨_, _, _, sent, _⟩
    · rw [← agree.keys, before]
      rfl
    · rw [sent] at plain
      cases plain
  constructor
  · intro after id set
    obtain ⟨row, found, initiated⟩ := agree.row set
    have keys := after.keys (.uuid id)
    rw [(settles set).pending, (settles set).timers] at keys
    have both : (world.gateway.pendingCallTargets.lookup (.uuid id)).isSome := by
      rw [agree.keys]
      exact set
    by_cases settled : stimulus.event.settles world.gateway = some (.uuid id)
    · by_cases stopped : stimulus.event.stops world.gateway = some (.uuid id)
      · exact .inl ⟨settled, stopped⟩
      · rw [if_pos settled, if_neg stopped, set] at keys
        cases keys
    · by_cases stopped : stimulus.event.stops world.gateway = some (.uuid id)
      · rw [if_neg settled, if_pos stopped, both] at keys
        cases keys
      · refine .inr ⟨settled, stopped, ?_⟩
        refine (stays_initiated_iff runtime found initiated).mp ?_
        refine @TablesAgree.initiated _ after (.uuid id) ?_
        rw [(settles set).timers, if_neg stopped]
        exact set
  · intro together
    refine ⟨fun callId => ?_, fun {callId} set' => ?_⟩
    · by_cases set : (world.gateway.missedCallTimers.lookup callId).isSome
      · obtain ⟨id, rfl⟩ := keyed.keys set
        rw [(settles set).pending, (settles set).timers]
        rcases together id set with ⟨settled, stopped⟩ | ⟨kept, going, _⟩
        · rw [if_pos settled, if_pos stopped]
          rfl
        · rw [if_neg kept, if_neg going, agree.keys]
      · rw [Bool.eq_iff_iff]
        exact iff_of_false (fun target => set (earlier_target target))
          (fun timer => set (earlier_timer timer))
    · have set := earlier_timer set'
      obtain ⟨id, rfl⟩ := keyed.keys set
      obtain ⟨row, found, initiated⟩ := agree.row set
      rcases together id set with ⟨_, stopped⟩ | ⟨_, _, unissued⟩
      · rw [(settles set).timers, if_pos stopped] at set'
        cases set'
      · exact (stays_initiated_iff runtime found initiated).mpr unissued

/-- A `call:initiate` keeps them together: it puts a call that it has created into both maps. -/
theorem tablesAgree_initiate (keyed : TimersKeyed world) (agree : TablesAgree world.gateway)
    {socketId : SocketId} {data : InitiateData} {callId : Uuid}
    (sent : stimulus.event = .callInitiate socketId data callId)
    : TablesAgree (world.after runtime stimulus).gateway := by
  have old
      : ∀ {id : Uuid},
          (world.gateway.missedCallTimers.lookup (.uuid id)).isSome →
            ∃ row,
              (world.after runtime stimulus).gateway.db.sessionNamed (.uuid id) = some row
              ∧ row.status = .initiated := by
    intro id set
    obtain ⟨row, found, initiated⟩ := agree.row set
    refine (stays_initiated_iff runtime found initiated).mpr ?_
    rw [sent]
    rfl
  have tables := initiate_tables stimulus.now world.gateway socketId runtime data callId
  have same
      : (SignalingGateway.onCallInitiate runtime stimulus.now world.gateway socketId data
            callId).gateway
        = (world.after runtime stimulus).gateway := by
    change _ = (handle runtime stimulus.now world.gateway stimulus.event).gateway
    rw [sent]
    rfl
  rw [same] at tables
  rcases tables with ⟨pending, timers⟩ | ⟨_, new, ⟨target, pending⟩, timer, timers⟩
  · refine ⟨fun key => ?_, fun {key} set => ?_⟩
    · rw [pending, timers, agree.keys]
    · rw [timers] at set
      obtain ⟨id, rfl⟩ := keyed.keys set
      exact old set
  · refine ⟨fun key => ?_, fun {key} set => ?_⟩
    · rw [pending, timers]
      by_cases here : key = .uuid callId
      · subst here
        rw [AList.lookup_insert, AList.lookup_insert]
        rfl
      · rw [AList.lookup_insert_ne here, AList.lookup_insert_ne here]
        exact agree.keys key
    · by_cases here : key = .uuid callId
      · subst here
        exact new
      · rw [timers, AList.lookup_insert_ne here] at set
        obtain ⟨id, rfl⟩ := keyed.keys set
        exact old set

/-- What it means that a text names no call that waits for its answer. -/
theorem rings_false_iff {gateway : Gateway} {callId : Text}
    : (!gateway.rings callId) = true
      ↔ ∀ id, (gateway.missedCallTimers.lookup (.uuid id)).isSome → callId.cast ≠ some id := by
  rw [Bool.not_eq_true', Gateway.rings]
  cases cast : callId.cast with
  | none => simp
  | some id =>
      rw [Option.any_some]
      constructor
      · rintro silent other set same
        cases same
        rw [set] at silent
        cases silent
      · intro apart
        by_contra set
        exact apart id ((Bool.not_eq_false _).mp set) rfl

/-- What it means that it names such a call at most by its key. -/
theorem keyed_iff (keyed : TimersKeyed world) {callId : Text}
    : world.gateway.keyed callId = true
      ↔ ∀ id,
          (world.gateway.missedCallTimers.lookup (.uuid id)).isSome →
            callId = .uuid id ∨ callId.cast ≠ some id := by
  rw [Gateway.keyed, Bool.or_eq_true, rings_false_iff]
  constructor
  · rintro (apart | set) id set'
    · exact .inr (apart id set')
    · obtain ⟨other, rfl⟩ := keyed.keys set
      by_cases same : other = id
      · exact .inl (congrArg Text.uuid same)
      · exact .inr fun cast => same (Option.some.inj cast)
  · intro named
    by_cases set : (world.gateway.missedCallTimers.lookup callId).isSome
    · exact .inr set
    · refine .inl fun id set' cast => ?_
      rcases named id set' with rfl | apart
      · exact set set'
      · exact apart cast

/-- An event whose handler, if it passes a check, takes a text out of both maps and updates the
row that it names. -/
theorem together_of_settling (keyed : TimersKeyed world) {event : Event} {check : Bool}
    {callId : Text} {update : StatusUpdate}
    (settles : event.settles world.gateway = if check then some callId else none)
    (stops : event.stops world.gateway = event.settles world.gateway)
    (issued : event.rowUpdate world.gateway = if check then some (callId, update) else none)
    : (!check || world.gateway.keyed callId) = true
      ↔ ∀ id,
          (world.gateway.missedCallTimers.lookup (.uuid id)).isSome →
            KeepsTogether world.gateway event id := by
  unfold KeepsTogether
  rw [stops, settles]
  cases check with
  | false =>
      refine iff_of_true rfl fun id _ => .inr ⟨by simp, by simp, ?_⟩
      exact updateOf_none _ _ issued
  | true =>
      rw [Bool.not_true, Bool.false_or, keyed_iff keyed]
      refine forall_congr' fun id => imp_congr_right fun _ => ?_
      rw [if_pos rfl, updateOf_some _ _ issued, Option.some.injEq]
      by_cases same : callId = .uuid id
      · exact iff_of_true (.inl same) (.inl ⟨same, same⟩)
      · simp [same]

/-- An event that takes a text out of `missedCallTimers` at most and updates the row that it
names. -/
theorem together_of_updating {gateway : Gateway} {event : Event} {callId : Option Text}
    {update : StatusUpdate} (settles : event.settles gateway = none)
    (stops : event.stops gateway = callId ∨ event.stops gateway = none)
    (issued : event.rowUpdate gateway = callId.map (fun named => (named, update)))
    : callId.all (fun named => !gateway.rings named) = true
      ↔ ∀ id,
          (gateway.missedCallTimers.lookup (.uuid id)).isSome →
            KeepsTogether gateway event id := by
  unfold KeepsTogether
  rw [settles]
  cases callId with
  | none =>
      have idle : event.stops gateway = none := by
        rcases stops with stops | stops
        · exact stops
        · exact stops
      refine iff_of_true rfl fun id _ => .inr ⟨by simp, by simp [idle], ?_⟩
      exact updateOf_none _ _ issued
  | some callId =>
      rw [Option.all_some, rings_false_iff]
      refine forall_congr' fun id => imp_congr_right fun _ => ?_
      rw [updateOf_some _ _ issued]
      by_cases cast : callId.cast = some id
      · simp [cast]
      · have apart : event.stops gateway ≠ some (.uuid id) := by
          rintro same
          rcases stops with stops | stops
          · cases stops.symm.trans same
            exact cast rfl
          · cases stops.symm.trans same
        simp [cast, apart]

/-- The condition says that the event keeps each call that waits for its answer together. -/
theorem tablesKept_iff (keyed : TimersKeyed world) (plain : stimulus.event.initiates = false)
    : tablesKept world stimulus = true
      ↔ ∀ id,
          (world.gateway.missedCallTimers.lookup (.uuid id)).isSome →
            KeepsTogether world.gateway stimulus.event id := by
  obtain ⟨now, event⟩ := stimulus
  cases event with
  | callInitiate _ _ _ => cases plain
  | callAccept socketId data => exact together_of_settling keyed rfl rfl rfl
  | callReject socketId callId => exact together_of_settling keyed rfl rfl rfl
  | callEnd socketId callId => exact together_of_settling keyed rfl rfl rfl
  | disconnect socketId => exact together_of_updating rfl (.inl rfl) rfl
  | switchType socketId data =>
      have issued
          : (Event.switchType socketId data).rowUpdate world.gateway
            = (if world.gateway.knows socketId then some data.callId else none).map
                (fun named => (named, StatusUpdate.switched)) := by
        simp only [Event.rowUpdate]
        split
        · rfl
        · rfl
      rw [← together_of_updating rfl (.inr rfl) issued]
      simp only [tablesKept]
      cases world.gateway.knows socketId with
      | false => simp
      | true => simp
  | missedCall callId =>
      refine iff_of_true rfl fun id set => ?_
      by_cases same : callId = id
      · subst same
        exact .inl ⟨by simp [Event.settles, set], by simp [Event.stops, Event.settles, set]⟩
      · have apart : (Event.missedCall callId).settles world.gateway ≠ some (.uuid id) := by
          simp [Event.settles, same]
        refine .inr ⟨apart, apart, ?_⟩
        cases issued : (Event.missedCall callId).rowUpdate world.gateway with
        | none => exact updateOf_none _ _ issued
        | some sent =>
            obtain ⟨_, same'⟩ := Option.ite_none_right_eq_some.mp issued
            cases same'
            rw [updateOf_some _ _ issued, if_neg (by simpa using same)]
  | _ =>
      refine iff_of_true rfl fun id _ => .inr ⟨?_, ?_, rfl⟩
      · rintro ⟨⟩
      · rintro ⟨⟩

/-- A step keeps the maps and the table together exactly if it meets the condition. -/
theorem tablesAgree_iff (keyed : TimersKeyed world) (agree : TablesAgree world.gateway)
    : TablesAgree (world.after runtime stimulus).gateway ↔ tablesKept world stimulus = true := by
  cases plain : stimulus.event.initiates with
  | false => rw [tablesAgree_of_plain keyed agree plain, tablesKept_iff keyed plain]
  | true =>
      cases sent : stimulus.event with
      | callInitiate socketId data callId =>
          refine iff_of_true (tablesAgree_initiate keyed agree sent) ?_
          simp only [tablesKept, sent]
      | _ =>
          rw [sent] at plain
          cases plain

/-- Every step leaves everybody seated and all keys UUIDs. -/
theorem TimersKeyed.step (keyed : TimersKeyed world) (admitted : world.admits stimulus = true)
    : TimersKeyed (world.after runtime stimulus) where
  seated := keyed.seated.step admitted
  keys {callId} set := by
    obtain ⟨timer, set⟩ := Option.isSome_iff_exists.mp set
    rcases handle_timers stimulus.now world.gateway runtime stimulus.event set with
      before | ⟨_, _, id, _, _, named, _⟩
    · exact keyed.keys (by rw [before]; rfl)
    · exact ⟨id, named⟩

end Steps

--------------------------------------------------------------------------------
-- Every run
--------------------------------------------------------------------------------

/-- In every run, after each handler, the two maps have the same keys and these name initiated
calls, exactly if every event of the run keeps them together. -/
theorem tables_agree {runtime : Runtime} {actions : List Stimulus} {world : World}
    (run : (gatewayMachine runtime).Reaches actions world)
    : (gatewayMachine runtime).Throughout (fun reached => TablesAgree reached.gateway) .start
        actions
      ↔ (gatewayMachine runtime).Along
          (fun before stimulus => tablesKept before stimulus = true) .start actions := by
  refine Machine.throughout_iff_along (gatewayMachine runtime) TimersKeyed ?_ ?_
    ⟨seated_start, fun set => by simp [World.start, Gateway.empty] at set⟩
    ⟨fun _ => rfl, fun set => by simp [World.start, Gateway.empty] at set⟩ run
  · intro before stimulus next keyed taken
    obtain ⟨admitted, rfl⟩ := step_eq_some.mp taken
    exact keyed.step admitted
  · intro before stimulus next keyed agree taken
    obtain ⟨_, rfl⟩ := step_eq_some.mp taken
    exact tablesAgree_iff keyed agree

/-- The callee takes the call. -/
def ringingThenAccepted : List Stimulus := ringing ++ [
  ⟨2, .callAccept 12 ⟨.uuid 201, .video⟩⟩,
  ⟨3, .disconnect 11⟩
]

/-- A call that is answered leaves both maps, so that its caller may go. -/
theorem tables_agree_accepted
    : (gatewayMachine plainRuntime).Throughout (fun reached => TablesAgree reached.gateway) .start
        ringingThenAccepted
      ∧ (worldAfter ringing).gateway.rings (.uuid 201) = true := by
  have run
      : (gatewayMachine plainRuntime).Reaches ringingThenAccepted
          (worldAfter ringingThenAccepted) :=
    rfl
  exact ⟨(tables_agree run).mpr (by decide), by decide⟩

/-- The caller's browser is closed while the call rings. -/
def callerGoes : List Stimulus := ringing ++ [⟨2, .disconnect 11⟩]

/-- The timer is cancelled and the call is over, and its target stays in the map. -/
theorem target_stays
    : (gatewayMachine plainRuntime).Reaches callerGoes (worldAfter callerGoes)
      ∧ ((worldAfter callerGoes).gateway.pendingCallTargets.lookup (.uuid 201)).isSome = true
      ∧ ((worldAfter callerGoes).gateway.missedCallTimers.lookup (.uuid 201)).isSome = false
      ∧ ((worldAfter callerGoes).session 201).map CallSession.status = some .ended
      ∧ ¬ TablesAgree (worldAfter callerGoes).gateway := by
  refine ⟨rfl, by decide, by decide, by decide, fun agree => ?_⟩
  exact absurd (agree.keys (.uuid 201)) (by decide)

end NexusComms.Signaling
