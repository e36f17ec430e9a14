import NexusComms.Signaling.Answering

/-! What outsiders can do to a call. No handler but `call:accept` asks whether its sender has
anything to do with the call that it names, so an outsider's event goes unnoticed only where
it finds nothing to change and nobody to tell.
-/

namespace NexusComms.Signaling

open Concurrency CallsRepository

/-- A participant row is that of this socket's user or visitor. -/
def SocketMeta.participates (known : SocketMeta) (row : CallParticipant) : Bool :=
  (known.userId.isSome && decide (row.userId = known.userId))
    || decide (row.anonymousId = some known.identity)

/-- A socket that is neither a participant of the call nor its pending target. -/
def Gateway.outsider (gateway : Gateway) (callId : Uuid) (socketId : SocketId) : Bool :=
  (gateway.sockets.lookup socketId).all
    (fun known =>
      gateway.db.callParticipants.all
          (fun row => decide (row.callSessionId ≠ callId) || !known.participates row)
        && known.userId.all
            (fun userId =>
              decide
                (gateway.pendingCallTargets.lookup (.uuid callId) ≠ some (.uuid userId))))

/-- The events of the seven kinds that take a call id from the client, for this call. -/
def Event.aimsAt (callId : Uuid) : Event → Bool
  | .callReject _ text | .callEnd _ text | .signalOffer _ text _ | .signalAnswer _ text _
  | .signalIce _ text _ => text.cast = some callId
  | .mediaToggle _ data => data.callId.cast = some callId
  | .switchType _ data => data.callId.cast = some callId
  | _ => false

/-- The messages that an output brings to the sockets in the call's room. -/
def Output.receivedIn (callId : Uuid) : Output → List (SocketId × Message)
  | .emit emission =>
      (emission.receivers.filter
          (fun socketId => socketId ∈ emission.rooms.members (.uuid callId))).map
        (fun socketId => (socketId, emission.message))
  | _ => []

/-- What can be seen of a call: its session row, its participant rows, and everything that the
sockets in its room have received. -/
structure CallView where
  session : Option CallSession
  participants : List CallParticipant
  received : List (SocketId × Message)
deriving DecidableEq, Repr

def World.view (world : World) (callId : Uuid) : CallView where
  session := world.session callId
  participants :=
    world.gateway.db.callParticipants.filter (fun row => row.callSessionId = callId)
  received :=
    world.trace.flatMap
      (fun occurrence => occurrence.outputs.flatMap (Output.receivedIn callId))

/-- Nobody in the call's room is in the room that is named, apart from the sender. -/
def Gateway.unheard (gateway : Gateway) (callId : Uuid) (room : Text)
    (sender : Option SocketId := none)
    : Bool :=
  (gateway.receivers (.room room sender)).all
    (fun socketId => socketId ∉ gateway.rooms.members (.uuid callId))

/-- The call has been closed for the same reason at the same time, if it exists. -/
def Gateway.alreadyClosed (gateway : Gateway) (callId : Uuid) (reason : CloseReason)
    (now : Time)
    : Bool :=
  (gateway.db.callSessions.lookup callId).all
    (fun row => decide (row.status = reason.status) && decide (row.endedAt = some now))

/-- No target and no timer is kept under the id. -/
def Gateway.settled (gateway : Gateway) (callId : Text) : Bool :=
  (gateway.pendingCallTargets.lookup callId).isNone
    && (gateway.missedCallTimers.lookup callId).isNone

/-- The event is refused, or it finds nothing to change and nobody of the call to tell:
signals and toggles need a room without other sockets of the call, a switch also a call that
is active, a reject and an end one that has been closed in that way at that time and is no
longer ringing, and an end a sender who is in no call and not in the room. -/
def harmless (callId : Uuid) (world : World) (stimulus : Stimulus) : Bool :=
  let gateway := world.gateway
  match stimulus.event with
  | .signalOffer socketId text _ | .signalAnswer socketId text _
  | .signalIce socketId text _ => gateway.unheard callId text socketId
  | .mediaToggle socketId data =>
      !gateway.knows socketId || gateway.unheard callId data.callId socketId
  | .switchType socketId data =>
      !gateway.knows socketId
        || (gateway.db.callSessions.lookup callId).all
              (fun row => decide (row.status = .active))
            && gateway.unheard callId data.callId
  | .callReject socketId text =>
      !(gateway.userOf socketId).isSome
        || gateway.alreadyClosed callId .rejected stimulus.now && gateway.unheard callId text
            && gateway.settled text
  | .callEnd socketId text =>
      !gateway.knows socketId
        || gateway.alreadyClosed callId .ended stimulus.now && gateway.unheard callId text
            && gateway.settled text && decide ((text, socketId) ∉ gateway.rooms)
            && decide ((gateway.sockets.lookup socketId).bind SocketMeta.callId = none)
  | _ => true

section Handlers

variable {now : Time} {gateway : Gateway} {socketId : SocketId} {id : Uuid}

/-- An UPDATE that sets what is already there changes nothing. -/
theorem updateStatus_same {db : Database} {update : StatusUpdate}
    (same
      : ∀ row, db.callSessions.lookup id = some row → row.write now update = row)
    : (updateStatus now db id update).1 = db := by
  unfold updateStatus
  cases found : db.callSessions.lookup id with
  | none => rfl
  | some row =>
      dsimp only
      rw [same row found, Storage.replace_self found]

/-- An outsider has no row that could be changed. -/
theorem updateParticipants_same {db : Database} {known : SocketMeta} {userId : Uuid}
    {anonymousId : Option Uuid} {change : CallParticipant → CallParticipant}
    (noRow
      : ∀ row ∈ db.callParticipants,
          row.callSessionId = id → known.participates row = false)
    (encoded
      : (known.userId = some userId ∧ anonymousId = none)
        ∨ known.userId = none ∧ anonymousId = some known.anonymousId)
    : updateParticipants db id userId anonymousId change = db := by
  have unselected
      : ∀ row ∈ db.callParticipants, selects id userId anonymousId row = false := by
    intro row member
    by_cases here : row.callSessionId = id
    · have stranger := noRow row member here
      simp only [SocketMeta.participates, Bool.or_eq_false_iff, decide_eq_false_iff_not]
        at stranger
      rcases encoded with ⟨user, rfl⟩ | ⟨visitor, rfl⟩
      · have other : ¬ row.userId = some userId := by
          simpa [user] using stranger.1
        simp [selects, other]
      · have other : ¬ row.anonymousId = some known.anonymousId := by
          simpa [SocketMeta.identity, visitor] using stranger.2
        simp [selects, other]
    · simp [selects, here]
  unfold updateParticipants
  have same
      : db.callParticipants.map
          (fun row => if selects id userId anonymousId row then change row else row)
        = db.callParticipants := by
    conv_rhs => rw [← List.map_id db.callParticipants]
    refine List.map_congr_left (fun row member => ?_)
    rw [if_neg (by rw [unselected row member]; simp)]
    rfl
  rw [same]

/-- An outsider's identity is passed to the services in one of two ways. -/
theorem encoded (known : SocketMeta)
    : (known.userId = some known.identity ∧ known.anonymous = none)
      ∨ known.userId = none ∧ known.anonymous = some known.anonymousId := by
  unfold SocketMeta.identity SocketMeta.anonymous
  cases known.userId with
  | none => exact .inr ⟨rfl, rfl⟩
  | some userId => exact .inl ⟨rfl, rfl⟩

/-- What the outputs of a handler bring to the sockets in the call's room. -/
def heard (callId : Uuid) (outputs : List Output) : List (SocketId × Message) :=
  outputs.flatMap (Output.receivedIn callId)

@[simp]
theorem heard_nil : heard id [] = [] := rfl

@[simp]
theorem heard_append (first second : List Output)
    : heard id (first ++ second) = heard id first ++ heard id second :=
  List.flatMap_append

@[simp]
theorem heard_log (db : Database) (userId : Option Uuid) (event : AuditEvent)
    : heard id (AuditService.log db userId event) = [] := by
  unfold AuditService.log
  split
  · rfl
  · rfl

@[simp]
theorem heard_updateStatus (db : Database) (target : Uuid) (update : StatusUpdate)
    : heard id (updateStatus now db target update).2 = [] := by
  unfold updateStatus
  split
  · rfl
  · rfl

/-- An emission to a room without the call's sockets is not heard. -/
theorem heard_unheard {text : Text} {sender : Option SocketId}
    (unheard : gateway.unheard id text sender = true) (message : Message)
    : heard id [gateway.emit (.room text sender) message] = [] := by
  simp only [heard, List.flatMap_cons, List.flatMap_nil, List.append_nil, Gateway.emit,
    Output.receivedIn, List.map_eq_nil_iff]
  refine List.filter_eq_nil_iff.mpr (fun socketId member => ?_)
  have outside := List.all_eq_true.mp unheard socketId member
  simpa using outside

/-- A call that has been closed in this way at this time is not changed by `endCall` of an
outsider, and the call hears nothing of it. -/
theorem endCall_same (now : Time) (known : SocketMeta) (params : CallsService.EndParams)
    (cast : params.callId.cast = some id)
    (closed : gateway.alreadyClosed id params.reason now = true)
    (noRow
      : ∀ row ∈ gateway.db.callParticipants,
          row.callSessionId = id → known.participates row = false)
    (actor
      : (known.userId = some params.userId ∧ params.anonymousId = none)
        ∨ known.userId = none ∧ params.anonymousId = some known.anonymousId)
    : (CallsService.endCall now gateway.db params).db = gateway.db
      ∧ (CallsService.endCall now gateway.db params).result = .ok ()
      ∧ heard id (CallsService.endCall now gateway.db params).outputs = [] := by
  have sameRow
      : ∀ row,
          gateway.db.callSessions.lookup id = some row →
            row.write now params.reason.update = row := by
    intro row found
    simp only [Gateway.alreadyClosed, found, Option.all_some, Bool.and_eq_true,
      decide_eq_true_eq] at closed
    obtain ⟨status, endedAt⟩ := closed
    cases row
    simp_all [CallSession.write, CloseReason.update]
  unfold CallsService.endCall
  simp only [cast, updateStatus_same sameRow, heard_append, heard_updateStatus, heard_log,
    List.append_nil, and_true]
  exact updateParticipants_same noRow actor

/-- Nothing is kept under the id, so nothing is removed. -/
theorem settle_same {callId : Text} (settled : gateway.settled callId = true)
    : (gateway.cancelTimer callId).deletePending callId = gateway := by
  simp only [Gateway.settled, Bool.and_eq_true, Option.isNone_iff_eq_none] at settled
  simp only [Gateway.cancelTimer, Gateway.deletePending, Storage.erase_absent settled.1,
    Storage.erase_absent settled.2]

/-- What an outsider's meta says about the participant rows. -/
theorem outsider_rows {known : SocketMeta} (outsider : gateway.outsider id socketId = true)
    (found : gateway.sockets.lookup socketId = some known)
    : ∀ row ∈ gateway.db.callParticipants,
        row.callSessionId = id → known.participates row = false := by
  intro row member here
  simp only [Gateway.outsider, found, Option.all_some, Bool.and_eq_true] at outsider
  have stranger := List.all_eq_true.mp outsider.1 row member
  simpa [here] using stranger

/-- A harmless `call:reject` of an outsider changes nothing, and the call hears nothing. -/
theorem reject_unseen {text : Text} (outsider : gateway.outsider id socketId = true)
    (cast : text.cast = some id)
    (meets
      : (!(gateway.userOf socketId).isSome
          || gateway.alreadyClosed id .rejected now && gateway.unheard id text
              && gateway.settled text)
        = true)
    : (SignalingGateway.onCallReject now gateway socketId text).gateway = gateway
      ∧ heard id (SignalingGateway.onCallReject now gateway socketId text).outputs = [] := by
  unfold SignalingGateway.onCallReject
  cases found : gateway.sockets.lookup socketId with
  | none => exact ⟨rfl, rfl⟩
  | some known =>
      cases registered : known.userId with
      | none =>
          simp only [registered]
          exact ⟨rfl, rfl⟩
      | some userId =>
          have user : gateway.userOf socketId = some userId := by
            simp [Gateway.userOf, found, registered]
          simp only [user, Option.isSome_some, Bool.not_true, Bool.false_or,
            Bool.and_eq_true] at meets
          obtain ⟨⟨closed, unheard⟩, settled⟩ := meets
          obtain ⟨same, succeeded, quiet⟩ := endCall_same now known
            { callId := text, userId := userId, reason := .rejected } cast closed
            (outsider_rows outsider found) (.inl ⟨registered, rfl⟩)
          simp only [registered, succeeded, same, settle_same settled, heard_append, quiet,
            heard_unheard unheard, List.append_nil, and_self]

/-- So does a harmless `call:end`. -/
theorem end_unseen {text : Text} (outsider : gateway.outsider id socketId = true)
    (cast : text.cast = some id)
    (meets
      : (!gateway.knows socketId
          || gateway.alreadyClosed id .ended now && gateway.unheard id text
              && gateway.settled text && decide ((text, socketId) ∉ gateway.rooms)
              && decide ((gateway.sockets.lookup socketId).bind SocketMeta.callId = none))
        = true)
    : (SignalingGateway.onCallEnd now gateway socketId text).gateway = gateway
      ∧ heard id (SignalingGateway.onCallEnd now gateway socketId text).outputs = [] := by
  unfold SignalingGateway.onCallEnd
  cases found : gateway.sockets.lookup socketId with
  | none => exact ⟨rfl, rfl⟩
  | some known =>
      simp only [knows_of_lookup gateway socketId found, found, Option.bind_some, Bool.not_true,
        Bool.false_or, Bool.and_eq_true, decide_eq_true_eq] at meets
      obtain ⟨⟨⟨⟨closed, unheard⟩, settled⟩, outside⟩, idle⟩ := meets
      obtain ⟨same, succeeded, quiet⟩ := endCall_same now known {
          callId := text
          userId := known.identity
          anonymousId := known.anonymous
          reason := .ended
        } cast closed (outsider_rows outsider found) (encoded known)
      have left : gateway.leave text socketId = gateway := by
        have stay : gateway.rooms.filter (fun entry => entry ≠ (text, socketId))
            = gateway.rooms := by
          refine List.filter_eq_self.mpr (fun entry member => ?_)
          exact decide_eq_true (fun here => outside (here ▸ member))
        simp only [Gateway.leave, stay]
      have cleared : gateway.setCallId socketId none = gateway := by
        have unchanged : { known with callId := none } = known := by
          cases known
          simp_all
        simp only [Gateway.setCallId, Gateway.updateMeta, found, unchanged,
          Storage.replace_self found]
      simp only [succeeded, same, settle_same settled, left, cleared, heard_append, quiet,
        heard_unheard unheard, List.append_nil, and_self]

/-- So does a harmless `call:switch-type`. -/
theorem switchType_unseen {data : SwitchData} (cast : data.callId.cast = some id)
    (meets
      : (!gateway.knows socketId
          || (gateway.db.callSessions.lookup id).all
                (fun row => decide (row.status = .active))
              && gateway.unheard id data.callId)
        = true)
    : (SignalingGateway.onSwitchType now gateway socketId data).gateway = gateway
      ∧ heard id (SignalingGateway.onSwitchType now gateway socketId data).outputs = [] := by
  unfold SignalingGateway.onSwitchType
  cases found : gateway.sockets.lookup socketId with
  | none => exact ⟨rfl, rfl⟩
  | some known =>
      simp only [knows_of_lookup gateway socketId found, Bool.not_true, Bool.false_or,
        Bool.and_eq_true] at meets
      obtain ⟨active, unheard⟩ := meets
      have sameRow
          : ∀ row,
              gateway.db.callSessions.lookup id = some row →
                row.write now .switched = row := by
        intro row present
        simp only [present, Option.all_some, decide_eq_true_eq] at active
        cases row
        simp_all [CallSession.write, StatusUpdate.switched]
      simp only [CallsService.toggleCallType, cast, updateStatus_same sameRow, heard_append,
        heard_updateStatus, heard_log, heard_unheard unheard, List.append_nil, and_self]

/-- So does a harmless `media:toggle`. -/
theorem mediaToggle_unseen {data : MediaData} (outsider : gateway.outsider id socketId = true)
    (cast : data.callId.cast = some id)
    (meets
      : (!gateway.knows socketId || gateway.unheard id data.callId socketId) = true)
    : (SignalingGateway.onMediaToggle gateway socketId data).gateway = gateway
      ∧ heard id (SignalingGateway.onMediaToggle gateway socketId data).outputs = [] := by
  unfold SignalingGateway.onMediaToggle
  cases found : gateway.sockets.lookup socketId with
  | none => exact ⟨rfl, rfl⟩
  | some known =>
      simp only [knows_of_lookup gateway socketId found, Bool.not_true, Bool.false_or] at meets
      have toggled
          : ∀ params : CallsService.MediaParams,
              params.callId = data.callId → params.userId = known.identity →
                params.anonymousId = known.anonymous →
                  (CallsService.toggleMedia gateway.db params).db = gateway.db
                  ∧ (CallsService.toggleMedia gateway.db params).result = .ok ()
                  ∧ heard id (CallsService.toggleMedia gateway.db params).outputs = [] := by
        intro params named user visitor
        unfold CallsService.toggleMedia
        split
        · exact ⟨rfl, rfl, rfl⟩
        · rw [named, cast]
          refine ⟨?_, rfl, ?_⟩
          · rw [user, visitor]
            exact updateParticipants_same (outsider_rows outsider found) (encoded known)
          · unfold CallsService.mediaLog
            cases params.mic <;> cases params.camera <;> simp
      obtain ⟨same, succeeded, quiet⟩ := toggled {
        callId := data.callId
        userId := known.identity
        anonymousId := known.anonymous
        mic := data.mic
        camera := data.camera
      } rfl rfl rfl
      simp only [succeeded, same, heard_append, quiet, heard_unheard meets, List.append_nil,
        and_self]

/-- A relayed signal changes nothing, and a call without sockets in that room hears
nothing. -/
theorem relay_unseen {text : Text} {message : Message}
    (unheard : gateway.unheard id text socketId = true)
    : (SignalingGateway.relay gateway socketId text message).gateway = gateway
      ∧ heard id (SignalingGateway.relay gateway socketId text message).outputs = [] :=
  ⟨rfl, heard_unheard unheard message⟩

end Handlers

section Runs

variable {runtime : Runtime} {callId : Uuid}

/-- An outsider's harmless event for a call changes nothing, and the call hears nothing, by
the kind of the event. -/
theorem harmless_unseen (runtime : Runtime) {world : World} {stimulus : Stimulus}
    {socketId : SocketId}
    (aims : stimulus.event.aimsAt callId = true)
    (sent : stimulus.event.sender = some socketId)
    (outsider : world.gateway.outsider callId socketId = true)
    (meets : harmless callId world stimulus = true)
    : (handle runtime stimulus.now world.gateway stimulus.event).gateway = world.gateway
      ∧ heard callId (handle runtime stimulus.now world.gateway stimulus.event).outputs
        = [] := by
  obtain ⟨now, event⟩ := stimulus
  cases event
  case callReject sender text =>
    cases sent
    exact reject_unseen outsider (of_decide_eq_true aims) meets
  case callEnd sender text =>
    cases sent
    exact end_unseen outsider (of_decide_eq_true aims) meets
  case signalOffer sender text sdp => exact relay_unseen meets
  case signalAnswer sender text sdp => exact relay_unseen meets
  case signalIce sender text candidate => exact relay_unseen meets
  case mediaToggle sender data =>
    cases sent
    exact mediaToggle_unseen outsider (of_decide_eq_true aims) meets
  case switchType sender data => exact switchType_unseen (of_decide_eq_true aims) meets
  all_goals cases aims

/-- Two worlds of which the first one has seen an event more: nothing but its clock and its
trace can tell, and the trace tells the call nothing. -/
structure Unnoticed (callId : Uuid) (left right : World) : Prop where
  gateway : left.gateway = right.gateway
  clock : right.clock ≤ left.clock
  drawn : left.drawn = right.drawn
  opened : left.opened = right.opened
  placed : left.placed = right.placed
  received : (left.view callId).received = (right.view callId).received

/-- Whatever the first world admits, the second one admits. -/
theorem Unnoticed.admits {left right : World} (same : Unnoticed callId left right)
    {stimulus : Stimulus} (admitted : left.admits stimulus = true)
    : right.admits stimulus = true := by
  have enabled : right.enabled stimulus.now stimulus.event
      = left.enabled stimulus.now stimulus.event := by
    simp only [World.enabled, same.gateway]
  simp only [World.admits, Bool.and_eq_true, decide_eq_true_eq, same.drawn, same.opened]
    at admitted ⊢
  obtain ⟨⟨⟨clock, draws⟩, opens⟩, able⟩ := admitted
  exact ⟨⟨⟨Nat.le_trans same.clock clock, draws⟩, opens⟩, enabled ▸ able⟩

/-- After an event, the call has received what it had, and what its handler brings. -/
theorem received_after (world : World) (stimulus : Stimulus)
    : ((world.after runtime stimulus).view callId).received
      = (world.view callId).received
          ++ heard callId (handle runtime stimulus.now world.gateway stimulus.event).outputs := by
  simp only [World.view, World.after, List.flatMap_append, List.flatMap_cons, List.flatMap_nil,
    List.append_nil, heard]

/-- The two worlds stay as they are when the same event happens in both. -/
theorem Unnoticed.after {left right : World} (same : Unnoticed callId left right)
    (stimulus : Stimulus)
    : Unnoticed callId (left.after runtime stimulus) (right.after runtime stimulus) where
  gateway := by simp only [World.after, same.gateway]
  clock := Nat.le_refl _
  drawn := by simp only [World.after, same.drawn]
  opened := by simp only [World.after, same.opened]
  placed := by simp only [World.after, World.place, same.gateway, same.placed]
  received := by rw [received_after, received_after, same.received, same.gateway]

/-- The world after an outsider's harmless event is unnoticed beside the one before. -/
theorem Unnoticed.begins {world : World} {stimulus : Stimulus} {socketId : SocketId}
    (admitted : world.admits stimulus = true)
    (aims : stimulus.event.aimsAt callId = true)
    (sent : stimulus.event.sender = some socketId)
    (outsider : world.gateway.outsider callId socketId = true)
    (meets : harmless callId world stimulus = true)
    : Unnoticed callId (world.after runtime stimulus) world := by
  obtain ⟨unchanged, unheard⟩ := harmless_unseen runtime aims sent outsider meets
  -- an event with a call id of the client draws no id, opens no socket and places no call
  have plain
      : stimulus.event.draws = []
        ∧ stimulus.event.opens = []
        ∧ ∀ outcome, world.place stimulus.event outcome = world.placed := by
    cases event : stimulus.event
    all_goals first
      | exact ⟨rfl, rfl, fun _ => rfl⟩
      | (rw [event] at aims; cases aims)
  obtain ⟨draws, opens, places⟩ := plain
  exact {
    gateway := unchanged
    clock := admits_clock admitted
    drawn := by simp only [World.after, draws, List.nil_append]
    opened := by simp only [World.after, opens, List.nil_append]
    placed := places _
    received := by rw [received_after, unheard, List.append_nil]
  }

/-- What can be seen of the call is the same in two such worlds. -/
theorem Unnoticed.view {left right : World} (same : Unnoticed callId left right)
    : right.view callId = left.view callId := by
  have session : right.session callId = left.session callId := by
    simp only [World.session, same.gateway]
  have received := same.received
  simp only [World.view] at received ⊢
  rw [session, received, same.gateway]

/-- In every run, an outsider's event for a call that is refused or finds nothing to change
and nobody to tell can be left out: the run goes on without it, and nothing else is seen of
the call. -/
theorem outsiders_unseen {first rest : List Stimulus} {stimulus : Stimulus}
    {socketId : SocketId} {before world : World}
    (reached : (gatewayMachine runtime).Reaches first before)
    (aims : stimulus.event.aimsAt callId = true)
    (sent : stimulus.event.sender = some socketId)
    (outsider : before.gateway.outsider callId socketId = true)
    (meets : harmless callId before stimulus = true)
    (run : (gatewayMachine runtime).Reaches (first ++ stimulus :: rest) world)
    : ∃ other,
        (gatewayMachine runtime).Reaches (first ++ rest) other
        ∧ other.view callId = world.view callId := by
  obtain ⟨middle, earlier, later⟩ := (gatewayMachine runtime).exec_append_some run
  cases Option.some.inj (reached.symm.trans earlier)
  obtain ⟨next, step, remaining⟩ := Option.bind_eq_some_iff.mp later
  obtain ⟨admitted, rfl⟩ := step_eq_some.mp step
  have follows
      : ∀ {left right : World} {action : Stimulus} {after : World},
          Unnoticed callId left right →
            (gatewayMachine runtime).step left action = some after →
              ∃ other,
                (gatewayMachine runtime).step right action = some other
                ∧ Unnoticed callId after other := by
    intro left right action after same taken
    obtain ⟨able, rfl⟩ := step_eq_some.mp taken
    exact ⟨_, step_eq_some.mpr ⟨same.admits able, rfl⟩, same.after action⟩
  obtain ⟨other, ran, same⟩ :=
    (gatewayMachine runtime).exec_follows (gatewayMachine runtime) (Unnoticed callId) follows
      (Unnoticed.begins admitted aims sent outsider meets) remaining
  refine ⟨other, ?_, same.view⟩
  unfold Machine.Reaches
  rw [Machine.exec_append, reached]
  exact ran

end Runs

/-- An anonymous visitor connects while the callee's browser rings. -/
def visitorConnects : List Stimulus := ringing ++ [⟨1, .connect 14 none 104⟩]

/-- The callee accepts, and the caller hangs up. -/
def answeredAndEnded : List Stimulus := [
  ⟨3, .callAccept 12 ⟨.uuid 201, .video⟩⟩,
  ⟨4, .callEnd 11 (.uuid 201)⟩
]

/-- The visitor's `call:reject` is refused, and the call goes on as without it. -/
theorem outsiders_unseen_visitor
    : ∃ other,
        (gatewayMachine plainRuntime).Reaches (visitorConnects ++ answeredAndEnded) other
        ∧ other.view 201
          = (worldAfter
              (visitorConnects ++ ⟨2, .callReject 14 (.uuid 201)⟩ :: answeredAndEnded)).view
              201 := by
  have reached
      : (gatewayMachine plainRuntime).Reaches visitorConnects (worldAfter visitorConnects) :=
    rfl
  have run
      : (gatewayMachine plainRuntime).Reaches
          (visitorConnects ++ ⟨2, .callReject 14 (.uuid 201)⟩ :: answeredAndEnded)
          (worldAfter
            (visitorConnects ++ ⟨2, .callReject 14 (.uuid 201)⟩ :: answeredAndEnded)) :=
    rfl
  exact outsiders_unseen reached (by decide) rfl (by decide) (by decide) run

/-- The callee accepts a call that a third user has nothing to do with. -/
def answeredApart : List Stimulus :=
  strangerConnects ++ [⟨2, .callAccept 12 ⟨.uuid 201, .video⟩⟩]

/-- The third user ends the call, and its sockets are told. -/
theorem stranger_ends
    : (gatewayMachine plainRuntime).Reaches (answeredApart ++ [⟨3, .callEnd 13 (.uuid 201)⟩])
        (worldAfter (answeredApart ++ [⟨3, .callEnd 13 (.uuid 201)⟩]))
      ∧ (gatewayMachine plainRuntime).Reaches answeredApart (worldAfter answeredApart)
      ∧ (worldAfter answeredApart).gateway.outsider 201 13 = true
      ∧ ((worldAfter answeredApart).view 201).session.map CallSession.status = some .active
      ∧ ((worldAfter (answeredApart ++ [⟨3, .callEnd 13 (.uuid 201)⟩])).view 201).session.map
          CallSession.status
        = some .ended
      ∧ (worldAfter (answeredApart ++ [⟨3, .callEnd 13 (.uuid 201)⟩])).view 201
        ≠ (worldAfter answeredApart).view 201 := by
  refine ⟨rfl, rfl, by decide, by decide, by decide, fun same => ?_⟩
  have sessions := congrArg (fun view => view.session.map CallSession.status) same
  exact absurd sessions (by decide)

end NexusComms.Signaling
