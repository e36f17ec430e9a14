import NexusComms.Signaling.Clock
import NexusComms.Signaling.Effects

/-! Who answers a direct call. `call:accept` looks the call up in `pendingCallTargets` and
lets everybody through when it finds nothing, so a call is safe as long as its entry is found.
-/

namespace NexusComms.Signaling

open Concurrency CallsRepository

/-- The occurrence is a `call:accept` for the call that has returned ok. -/
def Occurrence.accepts (callId : Uuid) (occurrence : Occurrence) : Bool :=
  match occurrence.event, occurrence.reply with
  | .callAccept _ data, .ok _ => data.callId.cast = some callId
  | _, _ => false

/-- The occurrence has answered, ended or rejected the call, or found it missed. -/
def Occurrence.settles (callId : Uuid) (occurrence : Occurrence) : Bool :=
  (updatesOf callId occurrence.outputs).any (fun update => update.answeredAt || update.endedAt)

/-- An accept that comes from the callee, before any other one, and while the call is neither
over nor its caller gone. -/
structure FirstAnswer (callId : Uuid) (call : DirectCall) (early : List Occurrence)
    (occurrence : Occurrence) : Prop where
  byCallee : ∃ userId, occurrence.user = some userId ∧ call.target = .uuid userId
  first : ∀ earlier ∈ early, earlier.accepts callId = false
  unsettled : ∀ earlier ∈ early, earlier.settles callId = false
  callerStays : ∀ earlier ∈ early, earlier.event ≠ .disconnect call.caller

/-- Every accept of a direct call that has returned ok was the first answer of its callee, and
the call has at most one guest. -/
structure OnlyCalleeAnswers (world : World) : Prop where
  answers {callId : Uuid} {call : DirectCall} {early late : List Occurrence}
    {occurrence : Occurrence} (placed : world.placed.lookup callId = some call)
    (split : world.trace = early ++ occurrence :: late)
    (accepted : occurrence.accepts callId = true)
    : FirstAnswer callId call early occurrence
  oneGuest {callId : Uuid} {call : DirectCall}
    (placed : world.placed.lookup callId = some call)
    : world.gateway.db.guestCount callId ≤ 1

/-- Where the event is a `call:accept`, whoever is new in the room of a direct call is its
callee. -/
def AcceptsCallee (before : World) (stimulus : Stimulus) (after : World) : Prop :=
  ∀ sender data callId call socketId,
    stimulus.event = .callAccept sender data →
      before.placed.lookup callId = some call →
        socketId ∈ after.gateway.rooms.members (.uuid callId) →
          socketId ∈ before.gateway.rooms.members (.uuid callId)
          ∨ ∃ userId, before.userOf socketId = some userId ∧ call.target = .uuid userId

/-- A `call:accept` that its checks let through finds the entry of a direct call, and the
caller's socket is connected; a `call:reject` or `call:end` names a ringing call by the id
under which its entry is kept. -/
def answerKept (world : World) (stimulus : Stimulus) : Bool :=
  let gateway := world.gateway
  match stimulus.event with
  | .callAccept socketId data =>
      !gateway.mayAccept socketId data.callId
        || (data.callId.cast.bind world.placed.lookup).all
            (fun call =>
              (gateway.pendingCallTargets.lookup data.callId).isSome
                && gateway.connected call.caller)
  | .callReject socketId callId =>
      !(gateway.userOf socketId).isSome
        || callId.cast.all
            (fun id =>
              (gateway.pendingCallTargets.lookup (.uuid id)).isNone
                || decide (callId = .uuid id))
  | .callEnd socketId callId =>
      !gateway.knows socketId
        || callId.cast.all
            (fun id =>
              (gateway.pendingCallTargets.lookup (.uuid id)).isNone
                || decide (callId = .uuid id))
  | _ => true

section Handlers

variable {now : Time} {gateway : Gateway} {socketId : SocketId}

/-- An `acceptCall` that succeeds has found its row and answered it. -/
theorem acceptCall_ok {db : Database} {params : CallsService.AcceptParams}
    {session : Option CallSession}
    (succeeded : (CallsService.acceptCall now db params).result = .ok session)
    : ∃ id,
        params.callId.cast = some id ∧ (db.callSessions.lookup id).isSome
        ∧ updatesOf id (CallsService.acceptCall now db params).outputs = [.accepted] := by
  have effect := acceptCall_effect now db params
  cases cast : params.callId.cast with
  | none =>
      simp only [CallsService.acceptCall, cast] at succeeded
      cases succeeded
  | some id =>
      refine ⟨id, rfl, ?_⟩
      cases found : db.callSessions.lookup id with
      | none =>
          simp only [CallsService.acceptCall, cast, found] at succeeded
          cases succeeded
      | some row =>
          have here := effect id
          rw [cast, if_pos rfl, found] at here
          rcases here.of_row with ⟨issued, _⟩ | ⟨update, issued, _, written⟩
          · cases issued
          · cases issued
            exact ⟨rfl, written⟩

/-- An `acceptCall` of a call that exists, for a user who exists, succeeds. -/
theorem acceptCall_succeeds (now : Time) {db : Database} {params : CallsService.AcceptParams}
    {id : Uuid} (cast : params.callId.cast = some id)
    (present : (db.callSessions.lookup id).isSome)
    (known : db.references (if params.isAnonymous then none else some params.userId) = true)
    : ∃ session, (CallsService.acceptCall now db params).result = .ok session := by
  obtain ⟨row, found⟩ := Option.isSome_iff_exists.mp present
  have updated
      : ((updateStatus now db id .accepted).1.callSessions.lookup id).isSome := by
    simp [updateStatus, found, Storage.lookup_replace]
  have user
      : (updateStatus now db id .accepted).1.references
          (CallsService.guestRow now id params).userId
        = true := by
    rw [references_of_users (updateStatus_users now db id .accepted)]
    exact known
  have added
      : addParticipant (updateStatus now db id .accepted).1
          (CallsService.guestRow now id params)
        = .ok {
            (updateStatus now db id .accepted).1 with
            callParticipants :=
              (updateStatus now db id .accepted).1.callParticipants
                ++ [CallsService.guestRow now id params]
          } := by
    unfold addParticipant
    rw [user]
    simp only [CallsService.guestRow, updated, Bool.and_self, if_true]
  simp [CallsService.acceptCall, cast, found, added]

/-- An `acceptCall` for a user who exists fails only before it has done anything. -/
theorem acceptCall_failed {db : Database} {params : CallsService.AcceptParams}
    {failure : Failure}
    (known : db.references (if params.isAnonymous then none else some params.userId) = true)
    (failed : (CallsService.acceptCall now db params).result = .error failure)
    : (CallsService.acceptCall now db params).outputs = [] := by
  cases cast : params.callId.cast with
  | none => simp only [CallsService.acceptCall, cast]
  | some id =>
      cases found : db.callSessions.lookup id with
      | none => simp [CallsService.acceptCall, cast, found]
      | some row =>
          obtain ⟨session, succeeded⟩ :=
            acceptCall_succeeds now cast (by rw [found]; rfl) known
          cases failed.symm.trans succeeded

/-- What a `call:accept` that returns ok has found and left behind. -/
structure Accepted (gateway : Gateway) (socketId : SocketId) (data : AcceptData)
    (outcome : Outcome) (userId id : Uuid) : Prop where
  user : gateway.userOf socketId = some userId
  unbarred : gateway.bars data.callId userId = false
  cast : data.callId.cast = some id
  found : (gateway.db.callSessions.lookup id).isSome
  answered : updatesOf id outcome.outputs = [.accepted]
  cleared : outcome.gateway.pendingCallTargets.lookup data.callId = none
  rooms : outcome.gateway.rooms = gateway.rooms.insert (data.callId, socketId)

/-- A `call:accept` that returns ok comes from a registered user whom no entry bars. -/
theorem accept_ok {data : AcceptData} {reply : Reply}
    (succeeded : (SignalingGateway.onCallAccept now gateway socketId data).reply = .ok reply)
    : ∃ userId id,
        Accepted gateway socketId data
          (SignalingGateway.onCallAccept now gateway socketId data) userId id := by
  unfold SignalingGateway.onCallAccept at succeeded ⊢
  cases found : gateway.sockets.lookup socketId with
  | none =>
      rw [found] at succeeded
      cases succeeded
  | some known =>
      simp only [found] at succeeded ⊢
      cases registered : known.userId with
      | none =>
          simp only [registered] at succeeded
          cases succeeded
      | some userId =>
          simp only [registered] at succeeded ⊢
          by_cases barred : gateway.bars data.callId userId = true
          · rw [if_pos barred] at succeeded
            cases succeeded
          · rw [if_neg barred] at succeeded ⊢
            cases accepted
              : (CallsService.acceptCall now gateway.db
                  { callId := data.callId, userId := userId, callType := data.callType }).result
              with
            | error failure =>
                rw [accepted] at succeeded
                cases succeeded
            | ok session =>
                obtain ⟨id, cast, present, answered⟩ := acceptCall_ok accepted
                refine ⟨userId, id, ?_⟩
                exact {
                  user := by simp [Gateway.userOf, found, registered]
                  unbarred := by simpa using barred
                  cast := cast
                  found := present
                  answered := by simpa using answered
                  cleared := AList.lookup_erase _ _
                  rooms := by
                    change (Gateway.setCallId _ socketId _).rooms.insert _ = _
                    rw [setCallId_rooms]
                }

/-- A `call:accept` of a user who exists that fails has written nothing. -/
theorem accept_failed {data : AcceptData} {failure : Failure} (id : Uuid)
    (known
      : ∀ userId,
          gateway.userOf socketId = some userId → gateway.db.references (some userId) = true)
    (failed : (SignalingGateway.onCallAccept now gateway socketId data).reply = .error failure)
    : updatesOf id (SignalingGateway.onCallAccept now gateway socketId data).outputs = []
      ∧ (SignalingGateway.onCallAccept now gateway socketId data).gateway.rooms
        = gateway.rooms := by
  unfold SignalingGateway.onCallAccept at failed ⊢
  cases found : gateway.sockets.lookup socketId with
  | none => exact ⟨rfl, rfl⟩
  | some socket =>
      simp only [found] at failed ⊢
      cases registered : socket.userId with
      | none => exact ⟨rfl, rfl⟩
      | some userId =>
          simp only [registered] at failed ⊢
          by_cases barred : gateway.bars data.callId userId = true
          · rw [if_pos barred]
            exact ⟨rfl, rfl⟩
          · rw [if_neg barred] at failed ⊢
            cases accepted
              : (CallsService.acceptCall now gateway.db
                  { callId := data.callId, userId := userId, callType := data.callType }).result
              with
            | error failure =>
                have user := known userId (by simp [Gateway.userOf, found, registered])
                refine ⟨?_, rfl⟩
                change updatesOf id (CallsService.acceptCall now gateway.db _).outputs = []
                rw [acceptCall_failed user accepted]
                rfl
            | ok session =>
                rw [accepted] at failed
                cases failed

/-- A `call:reject` of a registered user removes the entry under the id that it names. -/
theorem reject_cleared (now : Time) {callId : Text} {id : Uuid} (cast : callId.cast = some id)
    (registered : (gateway.userOf socketId).isSome)
    : (SignalingGateway.onCallReject now gateway socketId callId).gateway.pendingCallTargets
      |>.lookup callId |>.isNone := by
  unfold SignalingGateway.onCallReject
  cases found : gateway.sockets.lookup socketId with
  | none => simp [Gateway.userOf, found] at registered
  | some known =>
      cases user : known.userId with
      | none => simp [Gateway.userOf, found, user] at registered
      | some userId =>
          simp only [CallsService.endCall, cast, user]
          rw [Option.isNone_iff_eq_none]
          exact AList.lookup_erase _ _

/-- A `call:end` removes the entry under the id that it names. -/
theorem end_cleared (now : Time) {callId : Text} {id : Uuid} (cast : callId.cast = some id)
    (knows : gateway.knows socketId = true)
    : (SignalingGateway.onCallEnd now gateway socketId callId).gateway.pendingCallTargets
      |>.lookup callId |>.isNone := by
  unfold SignalingGateway.onCallEnd
  cases found : gateway.sockets.lookup socketId with
  | none => simp [Gateway.knows, found] at knows
  | some known =>
      simp only [CallsService.endCall, cast, setCallId_pending]
      rw [Option.isNone_iff_eq_none]
      exact AList.lookup_erase _ _

/-- The timer removes the entry of its call. -/
theorem missedCall_cleared (runtime : Runtime) (now : Time) {callId : Uuid}
    (set : (gateway.missedCallTimers.lookup (.uuid callId)).isSome)
    : ((handle runtime now gateway (.missedCall callId)).gateway.pendingCallTargets.lookup
      (.uuid callId)).isNone := by
  obtain ⟨timer, found⟩ := Option.isSome_iff_exists.mp set
  simp only [handle, found, SignalingGateway.missedCall]
  rw [Option.isNone_iff_eq_none]
  split
  · split
    · exact AList.lookup_erase _ _
    · exact AList.lookup_erase _ _
  · exact AList.lookup_erase _ _

/-- A socket that has disconnected is in no room. -/
theorem disconnect_gone
    : (SignalingGateway.handleDisconnect now gateway socketId).gateway.connected socketId
      = false := by
  have left
      : ∀ entry ∈ (SignalingGateway.handleDisconnect now gateway socketId).gateway.rooms,
          entry.2 ≠ socketId := by
    unfold SignalingGateway.handleDisconnect
    dsimp only
    split
    · intro entry member
      simpa using (List.mem_filter.mp member).2
    · unfold SignalingGateway.endOrForget
      split
      · intro entry member
        rw [forget_rooms] at member
        simpa using (List.mem_filter.mp member).2
      · dsimp only
        split
        · intro entry member
          simpa using (List.mem_filter.mp member).2
        · intro entry member
          rw [forget_rooms] at member
          simpa using (List.mem_filter.mp member).2
  cases connected
    : (SignalingGateway.handleDisconnect now gateway socketId).gateway.connected socketId with
  | false => rfl
  | true => exact absurd rfl (left _ (Gateway.connected_iff.mp connected))

/-- A resolved target is not the empty string. -/
theorem resolveTarget_truthy {runtime : Runtime} {db : Database} {data : InitiateData}
    {target : Text}
    (resolved : SignalingGateway.resolveTarget runtime db data = .ok target)
    : target.truthy = true := by
  unfold SignalingGateway.resolveTarget at resolved
  split at resolved
  · split at resolved
    · cases resolved
    · cases resolved
      rfl
  · split at resolved
    · cases resolved
    · next target' given =>
        cases resolved
        exact (Option.filter_eq_some_iff.mp given).2

/-- What a `call:initiate` that returns has created. -/
structure Initiated (gateway : Gateway) (callId : Uuid) (outcome : Outcome) : Prop where
  absent : gateway.db.callSessions.lookup callId = none
  created : (outcome.gateway.db.callSessions.lookup callId).isSome
  quiet : updatesOf callId outcome.outputs = []
  ringing
    : ∃ target,
        outcome.gateway.pendingCallTargets.lookup (.uuid callId) = some target
        ∧ target.truthy = true

/-- A `call:initiate` that returns has created a call and keeps its target. -/
theorem initiate_ok {runtime : Runtime} {data : InitiateData} {callId : Uuid} {reply : Reply}
    (succeeded
      : (SignalingGateway.onCallInitiate runtime now gateway socketId data callId).reply
        = .ok reply)
    : Initiated gateway callId
        (SignalingGateway.onCallInitiate runtime now gateway socketId data callId) := by
  unfold SignalingGateway.onCallInitiate at succeeded ⊢
  cases found : gateway.sockets.lookup socketId with
  | none =>
      rw [found] at succeeded
      cases succeeded
  | some known =>
      simp only [found] at succeeded ⊢
      cases resolved : SignalingGateway.resolveTarget runtime gateway.db data with
      | error failure =>
          rw [resolved] at succeeded
          cases succeeded
      | ok target =>
          simp only [resolved] at succeeded ⊢
          generalize ({
            initiatorId := some known.identity
            anonymousId := known.anonymous
            callType := data.callType
            isAnonymous := known.userId.isNone
          } : CallsService.InitiateParams) = params at succeeded ⊢
          have created := initiateCall_cases now gateway.db callId params
          have quiet := initiateCall_quiet now gateway.db callId params callId
          cases result : (CallsService.initiateCall now gateway.db callId params).result with
          | error failure =>
              rw [result] at succeeded
              cases succeeded
          | ok _ =>
              rcases created with ⟨_, failure, failed⟩ | ⟨absent, inserted⟩
              · rw [failed] at result
                cases result
              · exact {
                  absent := absent
                  created := by
                    change ((Gateway.setCallId _ socketId _).db.callSessions.lookup callId).isSome
                    rw [setCallId_db, inserted, AList.lookup_insert]
                    rfl
                  quiet := by simpa using quiet
                  ringing :=
                    ⟨target, AList.lookup_insert _, resolveTarget_truthy resolved⟩
                }

end Handlers

/-- A direct call that still has its entry: nobody has answered it, only its caller remembers
it, and it is over only if the caller has gone. -/
structure Ringing (world : World) (callId : Uuid) (call : DirectCall) : Prop where
  unanswered : answers (world.updates callId) = 0
  noGuest : world.gateway.db.guestCount callId = 0
  alone {socketId : SocketId} {known : SocketMeta} {text : Text}
    (found : world.gateway.sockets.lookup socketId = some known)
    (remembered : known.callId = some text) (cast : text.cast = some callId)
    : socketId = call.caller
  running : ends (world.updates callId) = 0 ∨ world.gateway.connected call.caller = false

/-- What holds in every state of a run whose steps all find the entries of the calls that
they accept. -/
structure AnswerInvariant (world : World) : Prop where
  linked : ClockLinked world
  registered {socketId : SocketId} {userId : Uuid}
    (user : world.gateway.userOf socketId = some userId)
    : world.gateway.db.references (some userId) = true
  remembered {socketId : SocketId} {known : SocketMeta} {text : Text} {id : Uuid}
    (found : world.gateway.sockets.lookup socketId = some known)
    (call : known.callId = some text) (cast : text.cast = some id)
    : (world.session id).isSome
  guestless {id : Uuid} (absent : world.session id = none)
    : world.gateway.db.guestCount id = 0
  keyed {text target : Text}
    (entry : world.gateway.pendingCallTargets.lookup text = some target)
    : target.truthy = true
      ∧ ∃ id call,
          text = .uuid id ∧ world.placed.lookup id = some call ∧ call.target = target
  real {id : Uuid} {call : DirectCall} (placed : world.placed.lookup id = some call)
    : (world.session id).isSome ∧ call.caller ∈ world.opened
  ringing {id : Uuid} {call : DirectCall} (placed : world.placed.lookup id = some call)
    (entry : (world.gateway.pendingCallTargets.lookup (.uuid id)).isSome)
    : Ringing world id call
  opened {socketId : SocketId} (connected : world.gateway.connected socketId = true)
    : socketId ∈ world.opened
  gone {occurrence : Occurrence} {socketId : SocketId} (past : occurrence ∈ world.trace)
    (left : occurrence.event = .disconnect socketId)
    : world.gateway.connected socketId = false ∧ socketId ∈ world.opened
  recorded {occurrence : Occurrence} {id : Uuid} (past : occurrence ∈ world.trace)
    (accepted : occurrence.accepts id = true)
    : (∃ update ∈ updatesOf id occurrence.outputs, update.answeredAt = true)
      ∧ (world.session id).isSome
  result : OnlyCalleeAnswers world

section Steps

variable {runtime : Runtime} {world : World} {stimulus : Stimulus}

/-- Rows stay. -/
theorem session_stays {id : Uuid} (present : (world.session id).isSome)
    : ((world.after runtime stimulus).session id).isSome := by
  obtain ⟨row, found⟩ := Option.isSome_iff_exists.mp present
  rcases after_of_row runtime stimulus found with
    ⟨_, same, _⟩ | ⟨_, _, same, _⟩
  · rw [same]
    rfl
  · rw [same]
    rfl

/-- A direct call has been placed before, or the event places it. -/
theorem placed_cases {id : Uuid} {call : DirectCall}
    (placed : (world.after runtime stimulus).placed.lookup id = some call)
    : (∃ socketId data reply,
          stimulus.event = .callInitiate socketId data id
          ∧ (handle runtime stimulus.now world.gateway stimulus.event).reply = .ok reply
          ∧ call = ⟨socketId,
              ((handle runtime stimulus.now world.gateway stimulus.event).gateway
                |>.pendingCallTargets.lookup (.uuid id)).getD .empty⟩)
      ∨ world.placed.lookup id = some call := by
  simp only [World.after, World.place] at placed
  split at placed
  · next socketId data callId reply sent succeeded =>
      by_cases same : id = callId
      · subst same
        rw [AList.lookup_insert] at placed
        cases placed
        exact .inl ⟨socketId, data, reply, sent, succeeded, rfl⟩
      · rw [AList.lookup_insert_ne same] at placed
        exact .inr placed
  · exact .inr placed

/-- An event that is sent comes from a connected socket. -/
theorem sender_connected {socketId : SocketId} (admitted : world.admits stimulus = true)
    (sent : stimulus.event.sender = some socketId)
    : world.gateway.connected socketId = true := by
  simp only [World.admits, Bool.and_eq_true] at admitted
  have enabled := admitted.2
  unfold World.enabled at enabled
  split at enabled
  · next here => simp [here, Event.sender] at sent
  · next here => simp [here, Event.sender] at sent
  · next here => simp [here, Event.sender] at sent
  · rw [sent] at enabled
    exact enabled

/-- A socket id that connects is new, and its user is known. -/
theorem connect_admitted {socketId : SocketId} {userId : Option Uuid} {anonymousId : Uuid}
    (admitted : world.admits stimulus = true)
    (sent : stimulus.event = .connect socketId userId anonymousId)
    : socketId ∉ world.opened ∧ world.gateway.db.references userId = true := by
  simp only [World.admits, World.enabled, sent, Event.opens, Event.draws, Bool.and_eq_true,
    List.all_cons, List.all_nil, decide_eq_true_eq] at admitted
  exact ⟨admitted.1.2.1, admitted.2⟩

/-- A timer that fires has been set. -/
theorem missedCall_admitted {callId : Uuid} (admitted : world.admits stimulus = true)
    (fired : stimulus.event = .missedCall callId)
    : (world.gateway.missedCallTimers.lookup (.uuid callId)).isSome := by
  simp only [World.admits, World.enabled, fired, Bool.and_eq_true] at admitted
  have set := admitted.2
  cases found : world.gateway.missedCallTimers.lookup (.uuid callId) with
  | none => simp [found] at set
  | some timer => rfl

/-- Whoever is connected has been before, or connects. -/
theorem connected_before {socketId : SocketId} (admitted : world.admits stimulus = true)
    (now : (world.after runtime stimulus).gateway.connected socketId = true)
    : world.gateway.connected socketId = true
      ∨ ∃ userId anonymousId, stimulus.event = .connect socketId userId anonymousId := by
  have handled := handle_handled runtime stimulus.now world.gateway stimulus.event
  rcases handled.connected now with before | connects | ⟨sends, _⟩
  · exact .inl before
  · exact .inr connects
  · exact .inl (sender_connected admitted sends)

/-- Whoever has been connected and has gone does not come back. -/
theorem gone_stays {socketId : SocketId} (admitted : world.admits stimulus = true)
    (known : socketId ∈ world.opened) (gone : world.gateway.connected socketId = false)
    : (world.after runtime stimulus).gateway.connected socketId = false := by
  cases now : (world.after runtime stimulus).gateway.connected socketId with
  | false => rfl
  | true =>
      rcases connected_before admitted now with before | ⟨userId, anonymousId, connects⟩
      · rw [gone] at before
        cases before
      · exact absurd known (connect_admitted admitted connects).1

/-- The entry of a call that existed has been there before. -/
theorem entry_before {id : Uuid} (present : (world.session id).isSome)
    (entry
      : ((world.after runtime stimulus).gateway.pendingCallTargets.lookup (.uuid id)).isSome)
    : (world.gateway.pendingCallTargets.lookup (.uuid id)).isSome := by
  have handled := handle_handled runtime stimulus.now world.gateway stimulus.event
  obtain ⟨target, found⟩ := Option.isSome_iff_exists.mp entry
  rcases handled.pending found with before | ⟨socketId, data, id', sent, same, replied⟩
  · rw [before]
    rfl
  · cases same
    rw [sent] at replied
    have absent : world.session id = none := (initiate_ok replied).absent
    rw [absent] at present
    cases present

/-- A `call:accept` of a direct call that is let through finds the entry of that call. -/
theorem accept_finds (inv : AnswerInvariant world)
    (kept : answerKept world stimulus = true) {socketId : SocketId} {data : AcceptData}
    {id : Uuid} {call : DirectCall} (sent : stimulus.event = .callAccept socketId data)
    (may : world.gateway.mayAccept socketId data.callId = true)
    (cast : data.callId.cast = some id) (placed : world.placed.lookup id = some call)
    : data.callId = .uuid id
      ∧ (∃ userId,
          world.gateway.userOf socketId = some userId ∧ call.target = .uuid userId)
      ∧ (world.gateway.pendingCallTargets.lookup (.uuid id)).isSome
      ∧ world.gateway.connected call.caller = true := by
  simp only [answerKept, sent, may, Bool.not_true, Bool.false_or, cast, Option.bind_some,
    placed, Option.all_some, Bool.and_eq_true] at kept
  obtain ⟨target, entry⟩ := Option.isSome_iff_exists.mp kept.1
  obtain ⟨truthy, id', call', same, placed', toTarget⟩ := inv.keyed entry
  rw [same, Text.cast_uuid] at cast
  cases cast
  rw [placed] at placed'
  cases placed'
  unfold Gateway.mayAccept at may
  cases user : world.gateway.userOf socketId with
  | none => simp [user] at may
  | some userId =>
      simp only [user, Option.any_some, decide_eq_true_eq, Gateway.bars, entry, truthy,
        Bool.true_and, decide_eq_false_iff_not, ne_eq, not_not] at may
      exact ⟨same, ⟨userId, rfl, toTarget.trans may⟩, same ▸ kept.1, kept.2⟩

/-- `call:reject` and `call:end` find the entry of a ringing call. -/
theorem named_canonically {check : Bool} {callId : Text} {id : Uuid}
    (checked : check = true) (cast : callId.cast = some id)
    (entry : (world.gateway.pendingCallTargets.lookup (.uuid id)).isSome)
    (kept
      : (!check
          || callId.cast.all
              (fun id =>
                (world.gateway.pendingCallTargets.lookup (.uuid id)).isNone
                  || decide (callId = .uuid id)))
        = true)
    : callId = .uuid id := by
  obtain ⟨target, found⟩ := Option.isSome_iff_exists.mp entry
  simpa [checked, cast, found] using kept

/-- An event after which a direct call still has its entry has not answered it, and it has
closed it only if its caller has disconnected. -/
theorem update_of_ringing (inv : AnswerInvariant world)
    (admitted : world.admits stimulus = true) (kept : answerKept world stimulus = true)
    {id : Uuid} {call : DirectCall} {update : StatusUpdate}
    (placed : world.placed.lookup id = some call)
    (entry
      : ((world.after runtime stimulus).gateway.pendingCallTargets.lookup (.uuid id)).isSome)
    (issued : stimulus.event.updateOf world.gateway id = some update)
    : update.answeredAt = false
      ∧ (update.endedAt = true → stimulus.event = .disconnect call.caller) := by
  have effect := handle_effect runtime stimulus.now world.gateway stimulus.event id
  obtain ⟨row, found⟩ := Option.isSome_iff_exists.mp (inv.real placed).1
  rw [show world.gateway.db.callSessions.lookup id = some row from found, issued] at effect
  change ((handle runtime stimulus.now world.gateway stimulus.event).gateway
    |>.pendingCallTargets.lookup (.uuid id)).isSome at entry
  obtain ⟨⟨callId, update'⟩, written, here⟩ := Option.bind_eq_some_iff.mp issued
  dsimp only at here
  split at here
  · next cast =>
      cases here
      have before := entry_before (inv.real placed).1 entry
      cases sent : stimulus.event <;>
        simp only [sent, Event.rowUpdate, reduceCtorEq] at written
      case callAccept socketId data =>
        split at written
        · next may =>
            cases written
            obtain ⟨same, _⟩ := accept_finds inv kept sent may cast placed
            rw [sent] at entry effect
            cases replied
              : (SignalingGateway.onCallAccept stimulus.now world.gateway socketId data).reply
              with
            | ok reply =>
                -- the accept has removed the entry
                obtain ⟨_, _, accepted⟩ := accept_ok replied
                have cleared := accepted.cleared
                rw [same] at cleared
                simp only [handle, cleared] at entry
                cases entry
            | error failure =>
                -- the accept has failed before it has written anything
                have nothing := (accept_failed id (fun _ user => inv.registered user) replied).1
                rcases effect.of_row with ⟨unissued, _⟩ | ⟨_, _, _, one⟩
                · cases unissued
                · simp only [handle, nothing] at one
                  cases one
        · cases written
      case callReject socketId callId' =>
        split at written
        · next registered =>
            cases written
            simp only [answerKept, sent] at kept
            have same := named_canonically registered cast before kept
            have cleared := reject_cleared stimulus.now cast registered
            rw [sent] at entry
            simp only [handle] at entry
            rw [same, Option.isNone_iff_eq_none] at cleared
            rw [same, cleared] at entry
            cases entry
        · cases written
      case callEnd socketId callId' =>
        split at written
        · next knows =>
            cases written
            simp only [answerKept, sent] at kept
            have same := named_canonically knows cast before kept
            have cleared := end_cleared stimulus.now cast knows
            rw [sent] at entry
            simp only [handle] at entry
            rw [same, Option.isNone_iff_eq_none] at cleared
            rw [same, cleared] at entry
            cases entry
        · cases written
      case disconnect socketId =>
        obtain ⟨text, remembered, same⟩ := Option.map_eq_some_iff.mp written
        cases same
        obtain ⟨call', _⟩ := Option.filter_eq_some_iff.mp remembered
        obtain ⟨known, lookup, calls⟩ := Option.bind_eq_some_iff.mp call'
        have ringing := inv.ringing placed before
        rw [ringing.alone lookup calls cast]
        exact ⟨rfl, fun _ => rfl⟩
      case switchType socketId data =>
        split at written
        · cases written
          exact ⟨rfl, by intro ended; cases ended⟩
        · cases written
      case missedCall callId' =>
        split at written
        · cases written
          cases cast
          have cleared := missedCall_cleared runtime stimulus.now
            (missedCall_admitted admitted sent)
          rw [Option.isNone_iff_eq_none] at cleared
          rw [sent, cleared] at entry
          cases entry
        · cases written
  · cases here

/-- A `call:accept` after which a direct call still has its entry has failed, or it was for
another call. -/
theorem not_accepted (inv : AnswerInvariant world)
    (kept : answerKept world stimulus = true) {socketId : SocketId} {data : AcceptData}
    {reply : Reply} {id : Uuid} {call : DirectCall}
    (placed : world.placed.lookup id = some call)
    (entry
      : ((world.after runtime stimulus).gateway.pendingCallTargets.lookup (.uuid id)).isSome)
    (sent : stimulus.event = .callAccept socketId data) (cast : data.callId.cast = some id)
    (replied
      : (handle runtime stimulus.now world.gateway stimulus.event).reply = .ok reply)
    : False := by
  rw [sent] at replied
  obtain ⟨userId, id', accepted⟩ := accept_ok replied
  have may : world.gateway.mayAccept socketId data.callId = true := by
    simp [Gateway.mayAccept, accepted.user, accepted.unbarred]
  obtain ⟨same, _⟩ := accept_finds inv kept sent may cast placed
  have cleared := accepted.cleared
  rw [same] at cleared
  change ((handle runtime stimulus.now world.gateway stimulus.event).gateway
    |>.pendingCallTargets.lookup (.uuid id)).isSome at entry
  rw [sent] at entry
  simp only [handle, cleared] at entry
  cases entry

/-- A ringing call that keeps its entry goes on ringing. -/
theorem Ringing.step (inv : AnswerInvariant world) (admitted : world.admits stimulus = true)
    (kept : answerKept world stimulus = true) {id : Uuid} {call : DirectCall}
    (placed : world.placed.lookup id = some call)
    (entry
      : ((world.after runtime stimulus).gateway.pendingCallTargets.lookup (.uuid id)).isSome)
    : Ringing (world.after runtime stimulus) id call := by
  have ringing := inv.ringing placed (entry_before (inv.real placed).1 entry)
  have handled := handle_handled runtime stimulus.now world.gateway stimulus.event
  obtain ⟨present, known⟩ := inv.real placed
  obtain ⟨row, found⟩ := Option.isSome_iff_exists.mp present
  have updates
      : answers ((world.after runtime stimulus).updates id) = 0
        ∧ (ends ((world.after runtime stimulus).updates id) = 0
          ∨ (world.after runtime stimulus).gateway.connected call.caller = false) := by
    rcases after_of_row runtime stimulus found with
      ⟨_, _, same⟩ | ⟨update, issued, _, same⟩
    · rw [same]
      refine ⟨ringing.unanswered, ringing.running.imp_right ?_⟩
      exact fun gone => gone_stays admitted known gone
    · obtain ⟨unanswered, closes⟩ :=
        update_of_ringing inv admitted kept placed entry issued
      rw [same, answers_concat, ends_concat, unanswered, ringing.unanswered]
      refine ⟨rfl, ?_⟩
      by_cases ended : update.endedAt = true
      · right
        have left := closes ended
        change (handle runtime stimulus.now world.gateway stimulus.event).gateway.connected
          call.caller = false
        rw [left]
        exact disconnect_gone
      · rw [if_neg ended]
        exact ringing.running.imp_right (fun gone => gone_stays admitted known gone)
  refine ⟨updates.1, ?_, ?_, updates.2⟩
  · rcases handled.guests id with same | ⟨_, ⟨_, absent, _⟩ | ⟨_, _, _, sent, cast, replied⟩⟩
    · exact same.trans ringing.noGuest
    · cases (show world.session id = none from absent).symm.trans found
    · exact (not_accepted inv kept placed entry sent cast replied).elim
  · intro socketId known' text here remembered cast
    rcases handled.calls here remembered with
      ⟨earlier, there, same⟩ | ⟨id', rfl, absent, _⟩ | ⟨data, reply, sent, rfl, replied⟩
    · exact ringing.alone there same cast
    · cases cast
      cases (show world.session id = none from absent).symm.trans found
    · exact (not_accepted inv kept placed entry sent cast replied).elim

/-- A new direct call rings. -/
theorem Ringing.placed (target : Text) (inv : AnswerInvariant world) {id : Uuid}
    {socketId : SocketId} {data : InitiateData} {reply : Reply}
    (sent : stimulus.event = .callInitiate socketId data id)
    (replied
      : (handle runtime stimulus.now world.gateway stimulus.event).reply = .ok reply)
    : Ringing (world.after runtime stimulus) id ⟨socketId, target⟩ := by
  have handled := handle_handled runtime stimulus.now world.gateway stimulus.event
  have initiated
      : Initiated world.gateway id
          (handle runtime stimulus.now world.gateway stimulus.event) := by
    rw [sent] at replied ⊢
    exact initiate_ok replied
  have absent : world.session id = none := initiated.absent
  have none_yet := (inv.linked id).unborn absent
  have updates : (world.after runtime stimulus).updates id = [] := by
    simp only [World.updates, World.after, List.flatMap_append, List.flatMap_cons,
      List.flatMap_nil, initiated.quiet, List.append_nil]
    exact none_yet
  refine ⟨by rw [updates]; rfl, ?_, ?_, by left; rw [updates]; rfl⟩
  · rcases handled.guests id with same | ⟨_, ⟨⟨_, _, joins⟩, _⟩ | ⟨_, _, _, accepts, _⟩⟩
    · exact same.trans (inv.guestless absent)
    · rw [sent] at joins
      cases joins
    · rw [sent] at accepts
      cases accepts
  · intro other known text here remembered cast
    rcases handled.calls here remembered with
      ⟨earlier, there, same⟩ | ⟨id', rfl, _, _, mine⟩ | ⟨_, _, accepts, _⟩
    · have present := inv.remembered there same cast
      rw [absent] at present
      cases present
    · cases cast
      exact mine socketId data sent
    · rw [sent] at accepts
      cases accepts

/-- A call that has been neither answered nor closed has been settled by nobody. -/
theorem unsettled_of_updates {id : Uuid} (unanswered : answers (world.updates id) = 0)
    (unended : ends (world.updates id) = 0) {occurrence : Occurrence}
    (past : occurrence ∈ world.trace) {update : StatusUpdate}
    (written : update ∈ updatesOf id occurrence.outputs)
    : update.answeredAt = false ∧ update.endedAt = false := by
  have member : update ∈ world.updates id := List.mem_flatMap.mpr ⟨occurrence, past, written⟩
  have notAnswered := List.countP_eq_zero.mp unanswered update member
  have notEnded := List.countP_eq_zero.mp unended update member
  exact ⟨by simpa using notAnswered, by simpa using notEnded⟩

/-- The new occurrence is the first answer of the callee, where it is an accept that has
returned ok. -/
theorem firstAnswer_step (inv : AnswerInvariant world)
    (kept : answerKept world stimulus = true) {socketId : SocketId} {data : AcceptData}
    {reply : Reply} {id : Uuid} {call : DirectCall}
    (placed : world.placed.lookup id = some call)
    (sent : stimulus.event = .callAccept socketId data) (cast : data.callId.cast = some id)
    (replied
      : (handle runtime stimulus.now world.gateway stimulus.event).reply = .ok reply)
    {occurrence : Occurrence} (user : occurrence.user = world.gateway.userOf socketId)
    : FirstAnswer id call world.trace occurrence := by
  rw [sent] at replied
  obtain ⟨userId, id', accepted⟩ := accept_ok replied
  have may : world.gateway.mayAccept socketId data.callId = true := by
    simp [Gateway.mayAccept, accepted.user, accepted.unbarred]
  obtain ⟨_, ⟨callee, mine, target⟩, entry, connected⟩ :=
    accept_finds inv kept sent may cast placed
  have ringing := inv.ringing placed entry
  have unended : ends (world.updates id) = 0 := by
    rcases ringing.running with unended | gone
    · exact unended
    · rw [connected] at gone
      cases gone
  exact {
    byCallee := ⟨callee, user.trans mine, target⟩
    first := fun earlier past => by
      cases accepts : earlier.accepts id with
      | false => rfl
      | true =>
          obtain ⟨⟨update, written, answered⟩, _⟩ := inv.recorded past accepts
          have unanswered :=
            (unsettled_of_updates ringing.unanswered unended past written).1
          rw [unanswered] at answered
          cases answered
    unsettled := fun earlier past => by
      refine Bool.eq_false_iff.mpr (fun settled => ?_)
      obtain ⟨update, written, sets⟩ := List.any_eq_true.mp settled
      obtain ⟨unanswered, open_yet⟩ :=
        unsettled_of_updates ringing.unanswered unended past written
      rw [unanswered, open_yet] at sets
      cases sets
    callerStays := fun earlier past left => by
      have gone := (inv.gone past left).1
      rw [connected] at gone
      cases gone
  }

/-- The occurrence of an event. -/
theorem trace_after
    : (world.after runtime stimulus).trace
      = world.trace
        ++ [⟨stimulus.event, stimulus.event.sender.bind world.userOf,
            (handle runtime stimulus.now world.gateway stimulus.event).reply,
            (handle runtime stimulus.now world.gateway stimulus.event).outputs⟩] :=
  rfl

/-- An accept that has returned ok, in terms of its event. -/
theorem accepts_iff {occurrence : Occurrence} {id : Uuid}
    : occurrence.accepts id = true
      ↔ ∃ socketId data reply,
          occurrence.event = .callAccept socketId data ∧ occurrence.reply = .ok reply
          ∧ data.callId.cast = some id := by
  unfold Occurrence.accepts
  split
  · next socketId data reply sent replied =>
      rw [decide_eq_true_eq]
      constructor
      · intro cast
        exact ⟨socketId, data, reply, sent, replied, cast⟩
      · rintro ⟨_, _, _, sent', _, cast⟩
        rw [sent] at sent'
        cases sent'
        exact cast
  · next other =>
      constructor
      · intro impossible
        cases impossible
      · rintro ⟨socketId, data, reply, sent, replied, _⟩
        exact (other socketId data reply sent replied).elim

/-- A step keeps the result. -/
theorem result_step (inv : AnswerInvariant world) (kept : answerKept world stimulus = true)
    : OnlyCalleeAnswers (world.after runtime stimulus) := by
  have handled := handle_handled runtime stimulus.now world.gateway stimulus.event
  refine ⟨?_, ?_⟩
  · intro id call early late occurrence placed split accepted
    rw [trace_after] at split
    rcases List.eq_nil_or_concat late with rfl | ⟨late', last, rfl⟩
    · obtain ⟨rfl, same⟩ := List.append_inj' split rfl
      cases same
      obtain ⟨socketId, data, reply, sent, replied, cast⟩ := accepts_iff.mp accepted
      dsimp only at sent replied
      rcases placed_cases placed with ⟨_, _, _, places, _⟩ | before
      · rw [sent] at places
        cases places
      · refine firstAnswer_step inv kept before sent cast replied ?_
        rw [sent]
        rfl
    · rw [List.concat_eq_append, ← List.cons_append, ← List.append_assoc] at split
      obtain ⟨past, _⟩ := List.append_inj' split rfl
      have member : occurrence ∈ world.trace := by
        rw [past]
        simp
      rcases placed_cases placed with ⟨socketId, data, reply, sent, replied, _⟩ | before
      · -- nobody has accepted a call that did not exist
        have present := (inv.recorded member accepted).2
        rw [sent] at replied
        have absent : world.session id = none := (initiate_ok replied).absent
        rw [absent] at present
        cases present
      · exact inv.result.answers before past accepted
  · intro id call placed
    change (handle runtime stimulus.now world.gateway stimulus.event).gateway.db.guestCount id
      ≤ 1
    rcases placed_cases placed with ⟨socketId, data, reply, sent, replied, _⟩ | before
    · have ringing := Ringing.placed call.target inv sent replied
      have none_yet := ringing.noGuest
      change (handle runtime stimulus.now world.gateway stimulus.event).gateway.db.guestCount id
        = 0 at none_yet
      omega
    · rcases handled.guests id with
        same | ⟨one, ⟨_, absent, _⟩ | ⟨socketId, data, reply, sent, cast, replied⟩⟩
      · have bound := inv.result.oneGuest before
        omega
      · have present := (inv.real before).1
        rw [show world.session id = none from absent] at present
        cases present
      · rw [sent] at replied
        obtain ⟨userId, id', accepted⟩ := accept_ok replied
        have may : world.gateway.mayAccept socketId data.callId = true := by
          simp [Gateway.mayAccept, accepted.user, accepted.unbarred]
        obtain ⟨_, _, entry, _⟩ := accept_finds inv kept sent may cast before
        have none_yet := (inv.ringing before entry).noGuest
        omega

/-- The entries of an event are those of direct calls. -/
theorem keyed_step (inv : AnswerInvariant world) {text target : Text}
    (entry
      : (world.after runtime stimulus).gateway.pendingCallTargets.lookup text = some target)
    : target.truthy = true
      ∧ ∃ id call,
          text = .uuid id
          ∧ (world.after runtime stimulus).placed.lookup id = some call
          ∧ call.target = target := by
  have handled := handle_handled runtime stimulus.now world.gateway stimulus.event
  rcases handled.pending entry with before | ⟨socketId, data, id, sent, rfl, replied⟩
  · obtain ⟨truthy, id, call, rfl, placed, toTarget⟩ := inv.keyed before
    refine ⟨truthy, id, call, rfl, ?_, toTarget⟩
    simp only [World.after, World.place]
    split
    · next _ _ callId _ sent replied =>
        by_cases same : id = callId
        · -- a call that is placed is not created again
          subst same
          have present := (inv.real placed).1
          rw [sent] at replied
          have absent : world.session id = none := (initiate_ok replied).absent
          rw [absent] at present
          cases present
        · rw [AList.lookup_insert_ne same]
          exact placed
    · exact placed
  · have initiated
        : Initiated world.gateway id
            (handle runtime stimulus.now world.gateway stimulus.event) := by
      rw [sent] at replied ⊢
      exact initiate_ok replied
    obtain ⟨kept, found, truthy⟩ := initiated.ringing
    have entry' : AList.lookup (Text.uuid id) (handle runtime stimulus.now world.gateway
        stimulus.event).gateway.pendingCallTargets = some target := entry
    have same : kept = target := Option.some.inj (found.symm.trans entry')
    refine ⟨same ▸ truthy, id, ⟨socketId, target⟩, rfl, ?_, rfl⟩
    simp only [World.after, World.place]
    split
    · next _ _ _ _ sent' _ =>
        rw [sent] at sent'
        cases sent'
        rw [AList.lookup_insert, entry']
        rfl
    · next other => exact (other socketId data id (.callId id) sent replied).elim

/-- A step that meets the condition keeps the invariant. -/
theorem answerInvariant_step (inv : AnswerInvariant world)
    (admitted : world.admits stimulus = true) (kept : answerKept world stimulus = true)
    : AnswerInvariant (world.after runtime stimulus) := by
  have handled := handle_handled runtime stimulus.now world.gateway stimulus.event
  refine {
    linked := clockLinked_step inv.linked admitted
    registered := ?registered
    remembered := ?remembered
    guestless := ?guestless
    keyed := keyed_step inv
    real := ?real
    ringing := ?ringing
    opened := ?opened
    gone := ?gone
    recorded := ?recorded
    result := result_step inv kept
  }
  case registered =>
    intro socketId userId user
    obtain ⟨known, found, mine⟩ := Option.bind_eq_some_iff.mp user
    refine handled.references ?_
    rcases handled.users found with ⟨earlier, there, same⟩ | ⟨anonymousId, connects⟩
    · exact inv.registered (Option.bind_eq_some_iff.mpr ⟨earlier, there, same.trans mine⟩)
    · rw [mine] at connects
      exact (connect_admitted admitted connects).2
  case remembered =>
    intro socketId known text id found call cast
    rcases handled.calls found call with
      ⟨earlier, there, same⟩ | ⟨id', rfl, _, present, _⟩ | ⟨data, reply, sent, rfl, replied⟩
    · exact session_stays (inv.remembered there same cast)
    · cases cast
      exact present
    · rw [sent] at replied
      obtain ⟨_, id', accepted⟩ := accept_ok replied
      have same : id' = id := Option.some.inj (accepted.cast.symm.trans cast)
      exact session_stays (same ▸ accepted.found)
  case guestless =>
    intro id absent
    have before : world.session id = none := by
      cases found : world.session id with
      | none => rfl
      | some row =>
          have present : ((world.after runtime stimulus).session id).isSome :=
            session_stays (by rw [found]; rfl)
          rw [absent] at present
          cases present
    rcases handled.guests id with
      same | ⟨_, ⟨_, _, present⟩ | ⟨socketId, data, reply, sent, cast, replied⟩⟩
    · exact same.trans (inv.guestless before)
    · change ((world.after runtime stimulus).session id).isSome at present
      rw [absent] at present
      cases present
    · rw [sent] at replied
      obtain ⟨_, id', accepted⟩ := accept_ok replied
      have same : id' = id := Option.some.inj (accepted.cast.symm.trans cast)
      have present : (world.session id).isSome := same ▸ accepted.found
      rw [before] at present
      cases present
  case real =>
    intro id call placed
    rcases placed_cases placed with ⟨socketId, data, reply, sent, replied, rfl⟩ | before
    · have connected : world.gateway.connected socketId = true :=
        sender_connected admitted (by rw [sent]; rfl)
      rw [sent] at replied
      refine ⟨?_, List.mem_append_right _ (inv.opened connected)⟩
      change ((handle runtime stimulus.now world.gateway stimulus.event).gateway.db
        |>.callSessions.lookup id).isSome
      rw [sent]
      exact (initiate_ok replied).created
    · exact ⟨session_stays (inv.real before).1,
        List.mem_append_right _ (inv.real before).2⟩
  case ringing =>
    intro id call placed entry
    rcases placed_cases placed with ⟨socketId, data, reply, sent, replied, rfl⟩ | before
    · exact .placed _ inv sent replied
    · exact .step inv admitted kept before entry
  case opened =>
    intro socketId now
    rcases connected_before admitted now with before | ⟨userId, anonymousId, connects⟩
    · exact List.mem_append_right _ (inv.opened before)
    · simp [World.after, connects, Event.opens]
  case gone =>
    intro occurrence socketId past left
    rw [trace_after] at past
    rcases List.mem_append.mp past with before | new
    · obtain ⟨gone, known⟩ := inv.gone before left
      exact ⟨gone_stays admitted known gone, List.mem_append_right _ known⟩
    · cases List.mem_singleton.mp new
      dsimp only at left
      have connected : world.gateway.connected socketId = true :=
        sender_connected admitted (by rw [left]; rfl)
      refine ⟨?_, List.mem_append_right _ (inv.opened connected)⟩
      change (handle runtime stimulus.now world.gateway stimulus.event).gateway.connected
        socketId = false
      rw [left]
      exact disconnect_gone
  case recorded =>
    intro occurrence id past accepted
    rw [trace_after] at past
    rcases List.mem_append.mp past with before | new
    · obtain ⟨written, present⟩ := inv.recorded before accepted
      exact ⟨written, session_stays present⟩
    · cases List.mem_singleton.mp new
      obtain ⟨socketId, data, reply, sent, replied, cast⟩ := accepts_iff.mp accepted
      dsimp only at sent replied ⊢
      rw [sent] at replied ⊢
      obtain ⟨_, id', found⟩ := accept_ok replied
      have same : id' = id := Option.some.inj (found.cast.symm.trans cast)
      subst same
      refine ⟨⟨.accepted, ?_, rfl⟩, session_stays found.found⟩
      change StatusUpdate.accepted ∈ updatesOf id' (SignalingGateway.onCallAccept stimulus.now
        world.gateway socketId data).outputs
      rw [found.answered]
      exact List.mem_singleton_self _

/-- A step puts only the callee into the room of a direct call by `call:accept`. -/
theorem acceptsCallee_step (inv : AnswerInvariant world)
    (kept : answerKept world stimulus = true)
    : AcceptsCallee world stimulus (world.after runtime stimulus) := by
  intro sender data id call socketId sent placed member
  rw [mem_members] at member ⊢
  change (Text.uuid id, socketId)
    ∈ (handle runtime stimulus.now world.gateway stimulus.event).gateway.rooms at member
  rw [sent] at member
  cases replied
    : (SignalingGateway.onCallAccept stimulus.now world.gateway sender data).reply with
  | error failure =>
      have same := (accept_failed id (fun _ user => inv.registered user) replied).2
      simp only [handle, same] at member
      exact .inl member
  | ok reply =>
      obtain ⟨userId, id', accepted⟩ := accept_ok replied
      simp only [handle, accepted.rooms] at member
      rcases List.mem_insert_iff.mp member with here | before
      · obtain ⟨named, rfl⟩ := Prod.mk.inj here
        have may : world.gateway.mayAccept socketId data.callId = true := by
          simp [Gateway.mayAccept, accepted.user, accepted.unbarred]
        obtain ⟨_, ⟨callee, mine, target⟩, _⟩ :=
          accept_finds inv kept sent may (by rw [← named]; rfl) placed
        exact .inr ⟨callee, mine, target⟩
      · exact .inl before

end Steps

/-- Nothing has happened yet. -/
theorem answerInvariant_start : AnswerInvariant .start where
  linked := clockLinked_start
  registered user := by cases user
  remembered found := by cases found
  guestless _ := rfl
  keyed entry := by cases entry
  real placed := by cases placed
  ringing placed := by cases placed
  opened connected := by cases connected
  gone past := by cases past
  recorded past := by cases past
  result := {
    answers := fun placed => by cases placed
    oneGuest := fun placed => by cases placed
  }

/-- In every run whose accepts of direct calls find the entries of these calls and the callers
connected, and whose rejects and ends name ringing calls by their own ids: every accept of a
direct call that returns ok comes from its callee, before any other one and before the call
has been answered, ended, rejected or missed or its caller has gone; the call has at most one
guest, and an accept puts nobody but its callee into its room. -/
theorem only_callee_answers {runtime : Runtime} {actions : List Stimulus} {world : World}
    (run : (gatewayMachine runtime).Reaches actions world)
    (along
      : (gatewayMachine runtime).Along
          (fun before stimulus => answerKept before stimulus = true) .start actions)
    : OnlyCalleeAnswers world
      ∧ (gatewayMachine runtime).Along
          (fun before stimulus =>
            ∀ after, (gatewayMachine runtime).step before stimulus = some after →
              AcceptsCallee before stimulus after)
          .start actions := by
  have preserved
      : ∀ {before : World} {stimulus : Stimulus} {after : World},
          AnswerInvariant before → answerKept before stimulus = true →
            (gatewayMachine runtime).step before stimulus = some after →
              AnswerInvariant after := by
    intro before stimulus after inv kept taken
    obtain ⟨admitted, rfl⟩ := step_eq_some.mp taken
    exact answerInvariant_step inv admitted kept
  constructor
  · exact (along.exec_preserves AnswerInvariant preserved answerInvariant_start run).result
  · refine along.imp AnswerInvariant preserved ?_ answerInvariant_start
    intro before stimulus inv kept after taken
    obtain ⟨_, rfl⟩ := step_eq_some.mp taken
    exact acceptsCallee_step inv kept

/-- A third user connects while the call is ringing. -/
def strangerConnects : List Stimulus :=
  ringing ++ [⟨1, .register 3 "stranger@example.org"⟩, ⟨1, .connect 13 (some 3) 103⟩]

/-- The third user tries to accept, then the callee does. -/
def calleeAnswers : List Stimulus := strangerConnects ++ [
  ⟨2, .callAccept 13 ⟨.uuid 201, .video⟩⟩,
  ⟨3, .callAccept 12 ⟨.uuid 201, .video⟩⟩
]

/-- The third user is refused. -/
theorem only_callee_answers_ringing
    : (worldAfter calleeAnswers).gateway.db.guestCount 201 = 1
      ∧ OnlyCalleeAnswers (worldAfter calleeAnswers) := by
  have run
      : (gatewayMachine plainRuntime).Reaches calleeAnswers (worldAfter calleeAnswers) :=
    rfl
  exact ⟨by decide, (only_callee_answers run (by decide)).1⟩

/-- The callee accepts, then the third user does. -/
def strangerAnswers : List Stimulus := strangerConnects ++ [
  ⟨2, .callAccept 12 ⟨.uuid 201, .video⟩⟩,
  ⟨3, .callAccept 13 ⟨.uuid 201, .video⟩⟩
]

/-- The first accept has removed the entry, so the second one is let through: the call has two
guests, and the third user is in its room. -/
theorem stranger_answers
    : (gatewayMachine plainRuntime).Reaches strangerAnswers (worldAfter strangerAnswers)
      ∧ (worldAfter strangerAnswers).placed.lookup 201 = some ⟨11, .uuid 2⟩
      ∧ (worldAfter strangerAnswers).gateway.rooms.members (.uuid 201) = [13, 12, 11]
      ∧ (worldAfter strangerAnswers).gateway.db.guestCount 201 = 2
      ∧ ¬ OnlyCalleeAnswers (worldAfter strangerAnswers) := by
  refine ⟨rfl, by decide, by decide, by decide, fun only => ?_⟩
  have placed : (worldAfter strangerAnswers).placed.lookup 201 = some ⟨11, .uuid 2⟩ := by
    decide
  exact absurd (only.oneGuest placed) (by decide)

end NexusComms.Signaling
