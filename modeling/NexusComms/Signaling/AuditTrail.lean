import NexusComms.Audit.IpFilter
import NexusComms.Signaling.Actors
import NexusComms.Signaling.Entries
import NexusComms.Signaling.Lifecycle

/-! The audit trail of calls and matches. `AuditService.log` swallows the errors of its
INSERT, so a row that PostgreSQL refuses is lost without a trace. It refuses a user id that
is not in `users` and an address that is no INET.
-/

namespace NexusComms.Signaling

open CallsRepository Concurrency Matchmaking

/-- The types of the rows that the gateway's handlers write. -/
inductive AuditEventType where
  | callInitiated
  | callAccepted
  | callRejected
  | callEnded
  | callMissed
  | callUpgraded
  | callDowngraded
  | mediaMicToggled
  | mediaCameraToggled
  | roomCreated
  | participantJoined
  | matchQueued
  | matchFound
  | matchCancelled
  | contactSaveRequested
deriving DecidableEq, Repr

/-- The types of the matchmaking service. -/
def AuditEventType.ofMatch : AuditEventType → Bool
  | matchQueued | matchFound | matchCancelled => true
  | _ => false

def AuditEvent.type : AuditEvent → AuditEventType
  | callInitiated _ _ _ => .callInitiated
  | callAccepted _ => .callAccepted
  | callEnded _ => .callEnded
  | callRejected _ => .callRejected
  | callMissed _ => .callMissed
  | callUpgraded _ => .callUpgraded
  | callDowngraded _ => .callDowngraded
  | mediaMicToggled _ _ => .mediaMicToggled
  | mediaCameraToggled _ _ => .mediaCameraToggled
  | roomCreated _ => .roomCreated
  | participantJoined _ => .participantJoined
  | contactSaveRequested _ _ => .contactSaveRequested

/-- The type of a row of the matchmaking service. -/
def matchType : Matchmaking.AuditRow → AuditEventType
  | .matchQueued _ _ _ _ => .matchQueued
  | .matchFound _ _ => .matchFound
  | .matchCancelled _ _ _ => .matchCancelled

/-- The `userId` that comes with such a row. -/
def matchUser : Matchmaking.AuditRow → Option Uuid
  | .matchQueued userId _ _ _ | .matchCancelled userId _ _ => userId
  | .matchFound _ _ => none

/-- The `ipAddress` of each socket's meta, and the strings that PostgreSQL reads as INET. -/
structure Network where
  ipAddress : SocketId → String
  inet : String → Bool

namespace Network

variable (network : Network)

/-- A string that is not valid is stored as NULL, any other one has to be an INET. -/
def accepts (ip : String) : Bool := !Audit.isValidIp ip.toList || network.inet ip

/-- The address that the handler of an event passes on to the log. `media:toggle` passes
none, and a pairing no address of a socket. -/
def passed (gateway : Gateway) : Event → Option String
  | .disconnect socketId | .callInitiate socketId _ _ | .callAccept socketId _
  | .callReject socketId _ | .callEnd socketId _ | .switchType socketId _
  | .sfuJoin socketId _ | .requestContactSave socketId _ _ => network.ipAddress socketId
  | .missedCall callId =>
      (gateway.missedCallTimers.lookup (.uuid callId)).map
        (fun timer => network.ipAddress timer.socketId)
  | .joinQueue _ _ _ => "anonymous"
  | _ => none

end Network

/-- The types of the rows among the outputs of a handler, whose user ids are in order. -/
def auditTypes (outputs : List Output) : List AuditEventType :=
  outputs.filterMap
    (fun output =>
      match output with
      | .audit row => some row.event.type
      | _ => none)

/-- The rows that the matchmaking service has written, as far as their user ids are in order.
It passes no addresses. -/
def matchTypes (before after : Gateway) : List AuditEventType :=
  ((after.redis.audits.drop before.redis.audits.length).filter
    (fun row => after.db.references (matchUser row))).map matchType

/-- The types of the rows that an event appends to `audit_logs`. -/
def Network.appended (network : Network) (before : Gateway) (event : Event)
    (outcome : Outcome)
    : List AuditEventType :=
  (if (network.passed before event).all network.accepts then auditTypes outcome.outputs
    else [])
    ++ matchTypes before outcome.gateway

/-- A row for each device that is switched. -/
def deviceTypes (mic camera : Option Bool) : List AuditEventType :=
  (if mic.isSome then [.mediaMicToggled] else [])
    ++ (if camera.isSome then [.mediaCameraToggled] else [])

/-- The rows that the trail owes to an event. A disconnect and a timer owe a row if they end
a call, `media:toggle` owes one for each device, and a match is cancelled if its socket is in
the index. -/
def owed (gateway : Gateway) : Event → List AuditEventType
  | .callInitiate _ _ _ => [.callInitiated]
  | .callAccept _ _ => [.callAccepted]
  | .callReject _ _ => [.callRejected]
  | .callEnd _ _ => [.callEnded]
  | .disconnect socketId =>
      (if (gateway.callOf socketId).isSome then [.callEnded] else [])
        ++ (if (gateway.redis.sockets socketId).isSome then [.matchCancelled] else [])
  | .missedCall callId => if gateway.misses callId then [.callMissed] else []
  | .mediaToggle _ data => deviceTypes data.mic data.camera
  | .joinQueue _ _ _ => [.matchQueued]
  | .leaveQueue socketId =>
      if (gateway.redis.sockets socketId).isSome then [.matchCancelled] else []
  | _ => []

/-- The handler of the event does not fail. -/
def succeeds (runtime : Runtime) (world : World) (stimulus : Stimulus) : Bool :=
  (handle runtime stimulus.now world.gateway stimulus.event).reply.isOk

/-- An event that succeeds appends exactly one row of each type that it owes. -/
def Audited (runtime : Runtime) (network : Network) (world : World) (stimulus : Stimulus)
    : Prop :=
  succeeds runtime world stimulus = true →
    ∀ type ∈ owed world.gateway stimulus.event,
      (network.appended world.gateway stimulus.event
        (handle runtime stimulus.now world.gateway stimulus.event)).count type
      = 1

instance (runtime : Runtime) (network : Network) (world : World) (stimulus : Stimulus)
    : Decidable (Audited runtime network world stimulus) :=
  inferInstanceAs (Decidable (succeeds runtime world stimulus = true → _))

/-- Whether the rows of an event can be stored: the address that comes with them must be an
INET or nothing like one, and whoever ends a call by `call:end` or by leaving, or switches a
device, must be a registered user. -/
def recordable (network : Network) (gateway : Gateway) : Event → Bool
  | .callInitiate socketId _ _ | .callAccept socketId _ | .callReject socketId _ =>
      network.accepts (network.ipAddress socketId)
  | .callEnd socketId _ =>
      (gateway.userOf socketId).isSome && network.accepts (network.ipAddress socketId)
  | .disconnect socketId =>
      (gateway.callOf socketId).isNone
        || (gateway.userOf socketId).isSome && network.accepts (network.ipAddress socketId)
  | .missedCall callId =>
      !gateway.misses callId
        || (gateway.missedCallTimers.lookup (.uuid callId)).all
          (fun timer => network.accepts (network.ipAddress timer.socketId))
  | .mediaToggle socketId data =>
      data.mic.isNone && data.camera.isNone || (gateway.userOf socketId).isSome
  | _ => true

section Types

@[simp]
theorem auditTypes_nil : auditTypes [] = [] := rfl

@[simp]
theorem auditTypes_append (first second : List Output)
    : auditTypes (first ++ second) = auditTypes first ++ auditTypes second :=
  List.filterMap_append

@[simp]
theorem auditTypes_emit (gateway : Gateway) (target : Target) (message : Message)
    (rest : List Output)
    : auditTypes (gateway.emit target message :: rest) = auditTypes rest :=
  rfl

@[simp]
theorem auditTypes_broadcast (gateway : Gateway) (rest : List Output)
    : auditTypes (SignalingGateway.broadcastQueueStatus gateway :: rest) = auditTypes rest :=
  rfl

@[simp]
theorem auditTypes_emitToTabs (gateway : Gateway) (userId : Text) (message : Message)
    : auditTypes (gateway.emitToTabs userId message) = [] := by
  simp only [Gateway.emitToTabs, auditTypes, List.filterMap_map]
  exact List.filterMap_eq_nil_iff.mpr (fun _ _ => rfl)

@[simp]
theorem auditTypes_updateStatus (now : Time) (db : Database) (id : Uuid)
    (update : StatusUpdate)
    : auditTypes (CallsRepository.updateStatus now db id update).2 = [] := by
  unfold CallsRepository.updateStatus
  split
  · rfl
  · rfl

/-- The log keeps a row whose user is referenced. -/
theorem auditTypes_log (db : Database) (userId : Option Uuid) (event : AuditEvent)
    : auditTypes (AuditService.log db userId event)
      = if db.references userId then [event.type] else [] := by
  unfold AuditService.log
  split
  · rfl
  · rfl

@[simp]
theorem auditTypes_forget (gateway : Gateway) (socketId : SocketId) (known : SocketMeta)
    : auditTypes (SignalingGateway.forget gateway socketId known).outputs = [] := by
  simp only [SignalingGateway.forget]
  split
  · rfl
  · rfl

/-- The handlers' own rows are not those of the matchmaking service. -/
theorem auditTypes_count {type : AuditEventType} (ofMatch : type.ofMatch = true)
    (outputs : List Output)
    : (auditTypes outputs).count type = 0 := by
  refine List.count_eq_zero.mpr fun member => ?_
  obtain ⟨output, _, same⟩ := List.mem_filterMap.mp member
  cases output with
  | audit row =>
      have types := Option.some.inj same
      subst types
      cases event : row.event
        <;> simp [event, AuditEvent.type, AuditEventType.ofMatch] at ofMatch
  | emit _ => cases same
  | update _ _ => cases same

/-- The matchmaking service writes no row of a call. -/
theorem matchTypes_count {type : AuditEventType} (ofCall : type.ofMatch = false)
    (before after : Gateway)
    : (matchTypes before after).count type = 0 := by
  refine List.count_eq_zero.mpr fun member => ?_
  obtain ⟨row, _, rfl⟩ := List.mem_map.mp member
  cases row with
  | matchQueued _ _ _ _ => cases ofCall
  | matchFound _ _ => cases ofCall
  | matchCancelled _ _ _ => cases ofCall

variable {network : Network} {before : Gateway} {event : Event} {outcome : Outcome}
  {type : AuditEventType}

/-- The rows of a call are those of the handler, if its address is accepted. -/
theorem appended_call (ofCall : type.ofMatch = false)
    : (network.appended before event outcome).count type
      = if (network.passed before event).all network.accepts then
          (auditTypes outcome.outputs).count type
        else
          0 := by
  rw [Network.appended, List.count_append, matchTypes_count ofCall, Nat.add_zero]
  split
  · rfl
  · rfl

/-- The rows of a match are those of the matchmaking service. -/
theorem appended_match (ofMatch : type.ofMatch = true)
    : (network.appended before event outcome).count type
      = (matchTypes before outcome.gateway).count type := by
  rw [Network.appended, List.count_append]
  split
  · rw [auditTypes_count ofMatch, Nat.zero_add]
  · rw [List.count_nil, Nat.zero_add]

/-- Which of the service's rows are new. -/
theorem matchTypes_of_append {before after : Gateway} {rows : List Matchmaking.AuditRow}
    (audits : after.redis.audits = before.redis.audits ++ rows)
    : matchTypes before after
      = (rows.filter (fun row => after.db.references (matchUser row))).map matchType := by
  unfold matchTypes
  rw [audits, List.drop_left]

end Types

section Services

variable (now : Time) {db : Database}

/-- The trail tells the devices apart. -/
theorem deviceTypes_nodup (mic camera : Option Bool) : (deviceTypes mic camera).Nodup := by
  cases mic <;> cases camera <;> simp [deviceTypes]

theorem deviceTypes_ofMatch {mic camera : Option Bool} {type : AuditEventType}
    (member : type ∈ deviceTypes mic camera)
    : type.ofMatch = false := by
  rcases List.mem_append.mp member with ofMic | ofCamera
  · split at ofMic
    · rw [List.mem_singleton.mp ofMic]
      rfl
    · cases ofMic
  · split at ofCamera
    · rw [List.mem_singleton.mp ofCamera]
      rfl
    · cases ofCamera

theorem deviceTypes_eq_nil {mic camera : Option Bool}
    : deviceTypes mic camera = [] ↔ (mic.isNone && camera.isNone) = true := by
  cases mic <;> cases camera <;> simp [deviceTypes]

/-- `initiateCall` succeeds for an initiator who is referenced, and logs him. -/
theorem initiateCall_types {callId : Uuid} {params : CallsService.InitiateParams}
    (succeeded : (CallsService.initiateCall now db callId params).result = .ok ())
    : auditTypes (CallsService.initiateCall now db callId params).outputs
      = [.callInitiated] := by
  have known := ((initiateCall_ok_iff ..).mp succeeded).2
  have users := initiateCall_users now db callId params
  unfold CallsService.initiateCall at succeeded users ⊢
  cases created : createSession db callId (CallsService.initiatedRow now params) with
  | error failure =>
      rw [created] at succeeded
      cases succeeded
  | ok db' =>
      simp only [created] at succeeded users ⊢
      cases added : addParticipant db' (CallsService.hostRow now callId params) with
      | error failure =>
          rw [added] at succeeded
          cases succeeded
      | ok db'' =>
          simp only [added] at users ⊢
          rw [auditTypes_log, references_of_users users, if_pos known]
          rfl

/-- `acceptCall` logs the guest whom it has added. -/
theorem acceptCall_types {params : CallsService.AcceptParams} {session : Option CallSession}
    (succeeded : (CallsService.acceptCall now db params).result = .ok session)
    : auditTypes (CallsService.acceptCall now db params).outputs = [.callAccepted] := by
  unfold CallsService.acceptCall at succeeded ⊢
  cases cast : params.callId.cast with
  | none =>
      rw [cast] at succeeded
      cases succeeded
  | some id =>
      simp only [cast] at succeeded ⊢
      by_cases absent : (db.callSessions.lookup id).isNone = true
      · rw [if_pos absent] at succeeded
        cases succeeded
      · rw [if_neg absent] at succeeded ⊢
        split at succeeded
        · cases succeeded
        · next db' added =>
            have users : db'.users = db.users := by
              rw [addParticipant_ok added]
              simp
            have known
                : db'.references (if params.isAnonymous then none else some params.userId)
                  = true := by
              unfold CallsRepository.addParticipant at added
              split at added
              · next allowed =>
                  rw [Bool.and_eq_true] at allowed
                  rw [references_of_users users, ← references_of_users
                    (updateStatus_users now db id .accepted)]
                  exact allowed.2
              · cases added
            simp only [auditTypes_append, auditTypes_updateStatus, auditTypes_log, known]
            rfl

/-- `endCall` logs the user that it is given, if that is one. -/
theorem endCall_types {params : CallsService.EndParams}
    (succeeded : (CallsService.endCall now db params).result = .ok ())
    : auditTypes (CallsService.endCall now db params).outputs
      = if db.references (some params.userId) then [(params.reason.event params.callId).type]
        else [] := by
  have users := endCall_users now db params
  unfold CallsService.endCall at succeeded users ⊢
  cases cast : params.callId.cast with
  | none =>
      rw [cast] at succeeded
      cases succeeded
  | some id =>
      simp only [cast] at users ⊢
      rw [auditTypes_append, auditTypes_updateStatus, auditTypes_log,
        references_of_users users]
      rfl

/-- The log of the devices keeps its rows together. -/
theorem mediaLog_types (params : CallsService.MediaParams)
    : auditTypes (CallsService.mediaLog db params)
      = if db.references (some params.userId) then deviceTypes params.mic params.camera
        else [] := by
  unfold CallsService.mediaLog deviceTypes
  by_cases known : db.references (some params.userId) = true
  · cases params.mic <;> cases params.camera
      <;> simp [auditTypes_log, known, AuditEvent.type]
  · cases params.mic <;> cases params.camera <;> simp [auditTypes_log, known]

/-- So does `toggleMedia`, for each device. -/
theorem toggleMedia_types {params : CallsService.MediaParams}
    (succeeded : (CallsService.toggleMedia db params).result = .ok ())
    : auditTypes (CallsService.toggleMedia db params).outputs
      = if db.references (some params.userId) then deviceTypes params.mic params.camera
        else [] := by
  have users := toggleMedia_users db params
  unfold CallsService.toggleMedia at succeeded users ⊢
  split at succeeded
  · next nothing =>
      rw [Bool.and_eq_true, Option.isNone_iff_eq_none, Option.isNone_iff_eq_none] at nothing
      rw [if_pos (by simp [nothing]), nothing.1, nothing.2]
      simp [deviceTypes]
  · next some_device =>
      rw [if_neg some_device] at users ⊢
      cases cast : params.callId.cast with
      | none =>
          rw [cast] at succeeded
          cases succeeded
      | some id =>
          simp only [cast] at users ⊢
          rw [mediaLog_types, references_of_users users]

end Services

section Handlers

variable {runtime : Runtime} {now : Time} {gateway : Gateway} {socketId : SocketId}
  {known : SocketMeta} {reply : Reply}

theorem initiate_types {data : InitiateData} {callId : Uuid}
    (succeeded
      : (SignalingGateway.onCallInitiate runtime now gateway socketId data callId).reply
        = .ok reply)
    : auditTypes
          (SignalingGateway.onCallInitiate runtime now gateway socketId data callId).outputs
      = [.callInitiated] := by
  unfold SignalingGateway.onCallInitiate at succeeded ⊢
  split at succeeded
  · cases succeeded
  · dsimp only
    split at succeeded
    · cases succeeded
    · dsimp only at succeeded ⊢
      split at succeeded
      · cases succeeded
      · next initiated =>
          dsimp only
          rw [auditTypes_append, initiateCall_types now initiated, auditTypes_emitToTabs]
          rfl

theorem accept_types {data : AcceptData}
    (succeeded : (SignalingGateway.onCallAccept now gateway socketId data).reply = .ok reply)
    : auditTypes (SignalingGateway.onCallAccept now gateway socketId data).outputs
      = [.callAccepted] := by
  unfold SignalingGateway.onCallAccept at succeeded ⊢
  split at succeeded
  · cases succeeded
  · dsimp only
    split at succeeded
    · cases succeeded
    · split at succeeded
      · cases succeeded
      · next unbarred =>
          rw [if_neg unbarred]
          dsimp only at succeeded ⊢
          split at succeeded
          · cases succeeded
          · next accepted =>
              simp only [auditTypes_append, acceptCall_types now accepted]
              rfl

/-- Only a registered user rejects. -/
theorem reject_types {callId : Text}
    (known : ∀ userId, gateway.userOf socketId = some userId →
      gateway.db.references (some userId) = true)
    (succeeded
      : (SignalingGateway.onCallReject now gateway socketId callId).reply = .ok reply)
    : auditTypes (SignalingGateway.onCallReject now gateway socketId callId).outputs
      = [.callRejected] := by
  unfold SignalingGateway.onCallReject at succeeded ⊢
  split at succeeded
  · cases succeeded
  · next found =>
      dsimp only
      split at succeeded
      · cases succeeded
      · next userId registered =>
          dsimp only at succeeded ⊢
          split at succeeded
          · cases succeeded
          · next rejected =>
              have user : gateway.userOf socketId = some userId :=
                Option.bind_eq_some_iff.mpr ⟨_, found, registered⟩
              simp only [auditTypes_append, endCall_types now rejected, known userId user]
              rfl

theorem end_types {callId : Text} (found : gateway.sockets.lookup socketId = some known)
    (succeeded : (SignalingGateway.onCallEnd now gateway socketId callId).reply = .ok reply)
    : auditTypes (SignalingGateway.onCallEnd now gateway socketId callId).outputs
      = if gateway.db.references (some known.identity) then [.callEnded] else [] := by
  unfold SignalingGateway.onCallEnd at succeeded ⊢
  simp only [found] at succeeded ⊢
  split at succeeded
  · cases succeeded
  · next ended =>
      simp only [auditTypes_append, endCall_types now ended]
      exact List.append_nil _

theorem mediaToggle_types {data : MediaData}
    (found : gateway.sockets.lookup socketId = some known)
    (succeeded : (SignalingGateway.onMediaToggle gateway socketId data).reply = .ok reply)
    : auditTypes (SignalingGateway.onMediaToggle gateway socketId data).outputs
      = if gateway.db.references (some known.identity) then deviceTypes data.mic data.camera
        else [] := by
  unfold SignalingGateway.onMediaToggle at succeeded ⊢
  simp only [found] at succeeded ⊢
  split at succeeded
  · cases succeeded
  · next toggled =>
      simp only [auditTypes_append, toggleMedia_types toggled]
      exact List.append_nil _

/-- A timer that ends a call logs the initiator. -/
theorem missedCall_types (now : Time) {callId : Uuid} {timer : MissedCallTimer}
    (set : gateway.missedCallTimers.lookup (.uuid callId) = some timer)
    (misses : gateway.misses callId = true)
    (known
      : gateway.db.references (some (timer.userId.getD timer.anonymousId)) = true)
    : auditTypes (SignalingGateway.missedCall now gateway callId timer).outputs
      = [.callMissed] := by
  have initiated
      : (gateway.db.callSessions.lookup callId).map CallSession.status = some .initiated := by
    simp only [Gateway.misses, set, Option.isSome_some, Bool.true_and, decide_eq_true_eq]
      at misses
    exact misses
  simp only [SignalingGateway.missedCall, cancelTimer_db, deletePending_db, initiated]
  split
  · next failed =>
      simp [CallsService.endCall] at failed
  · next ended =>
      simp only [auditTypes_append, endCall_types now ended, known]
      rfl

/-- A disconnect that ends a call logs whoever leaves, if that is a user. -/
theorem disconnect_types (found : gateway.sockets.lookup socketId = some known)
    (succeeded : (SignalingGateway.handleDisconnect now gateway socketId).reply = .ok reply)
    : auditTypes (SignalingGateway.handleDisconnect now gateway socketId).outputs
      = if (gateway.callOf socketId).isSome
            && gateway.db.references (some known.identity) then
          [.callEnded]
        else
          [] := by
  have call : gateway.callOf socketId = known.callId.filter Text.truthy := by
    simp [Gateway.callOf, found]
  simp only [SignalingGateway.handleDisconnect, found, SignalingGateway.endOrForget]
    at succeeded ⊢
  rw [call]
  cases remembered : known.callId.filter Text.truthy with
  | none => simp
  | some callId =>
      simp only [remembered] at succeeded ⊢
      split at succeeded
      · cases succeeded
      · next ended =>
          simp only [auditTypes_append, endCall_types now ended, auditTypes_emit,
            auditTypes_forget]
          simp [CloseReason.event, AuditEvent.type]

/-- A disconnect takes its socket out of the queue, whatever happens to its call. -/
theorem disconnect_redis (found : gateway.sockets.lookup socketId = some known)
    : (SignalingGateway.handleDisconnect now gateway socketId).gateway.redis
      = MatchmakingService.dequeue gateway.redis socketId := by
  simp only [SignalingGateway.handleDisconnect, found, SignalingGateway.endOrForget]
  split
  · rw [forget_redis]
  · split
    · rfl
    · rw [forget_redis]
      rfl

/-- A match is logged, and nothing else is. -/
theorem tryMatch_audits (now : Time) (redis : QueueStore)
    : ∃ rows,
        (MatchmakingService.tryMatch now redis).1.audits = redis.audits ++ rows
        ∧ ∀ row ∈ rows, matchType row = .matchFound := by
  match waiting : redis.queue with
  | [] =>
      rw [tryMatch_few (by simp [waiting])]
      exact ⟨[], by simp, by simp⟩
  | [only] =>
      rw [tryMatch_few (by simp [waiting])]
      exact ⟨[], by simp, by simp⟩
  | first :: second :: rest =>
      cases firstFresh : first.fresh now with
      | true =>
          cases secondFresh : second.fresh now with
          | true =>
              rw [tryMatch_fresh waiting firstFresh secondFresh]
              refine ⟨_, rfl, fun row member => ?_⟩
              rw [List.mem_singleton.mp member]
              rfl
          | false =>
              rw [tryMatch_put_first_back waiting firstFresh secondFresh]
              exact ⟨[], (List.append_nil _).symm, by simp⟩
      | false =>
          cases secondFresh : second.fresh now with
          | true =>
              rw [tryMatch_put_back waiting firstFresh secondFresh]
              exact ⟨[], (List.append_nil _).symm, by simp⟩
          | false =>
              rw [tryMatch_stale waiting firstFresh secondFresh]
              exact ⟨[], (List.append_nil _).symm, by simp⟩

/-- A join is logged once, also when it is matched at once. -/
theorem joinQueue_types {preferredType : Option CallType} {callId : Uuid} {outcome : Outcome}
    (found : gateway.sockets.lookup socketId = some known)
    (joined
      : SignalingGateway.onJoinQueue now gateway socketId preferredType callId = outcome)
    (registered : outcome.gateway.db.references known.userId = true)
    : (matchTypes gateway outcome.gateway).count .matchQueued = 1 := by
  have redis
      : outcome.gateway.redis
        = (MatchmakingService.tryMatch (dateNow now)
            (MatchmakingService.enqueue (dateNow now) gateway.redis
              (known.entry socketId preferredType)).1).1 := by
    rw [← joined]
    simp only [SignalingGateway.onJoinQueue, found]
    split
    · exact tryPairUsers_redis ..
    · exact tryPairUsers_redis ..
  obtain ⟨rows, audits, onlyMatches⟩ := tryMatch_audits (dateNow now)
    (MatchmakingService.enqueue (dateNow now) gateway.redis
      (known.entry socketId preferredType)).1
  rw [← redis, enqueue_eq, List.append_assoc] at audits
  have rest
      : ((rows.filter (fun row => outcome.gateway.db.references (matchUser row))).map
          matchType).count .matchQueued
        = 0 := by
    refine List.count_eq_zero.mpr fun member => ?_
    obtain ⟨row, kept, same⟩ := List.mem_map.mp member
    rw [onlyMatches row (List.mem_filter.mp kept).1] at same
    cases same
  generalize queued : Matchmaking.AuditRow.matchQueued _ _ _ _ = row at audits
  have user : outcome.gateway.db.references (matchUser row) = true := by
    rw [← queued]
    exact registered
  have type : matchType row = .matchQueued := by
    rw [← queued]
    rfl
  rw [matchTypes_of_append audits, List.singleton_append, List.filter_cons, if_pos user,
    List.map_cons, type, List.count_cons_self, rest]

/-- A cancellation is logged if its socket is in the index. -/
theorem dequeue_types {before after : Gateway}
    (redis : after.redis = MatchmakingService.dequeue before.redis socketId)
    (registered
      : before.redis.All (fun entry => after.db.references entry.userId = true))
    : (matchTypes before after).count .matchCancelled
      = if (before.redis.sockets socketId).isSome then 1 else 0 := by
  cases present : before.redis.sockets socketId with
  | none =>
      rw [dequeue_absent present] at redis
      have audits : after.redis.audits = before.redis.audits ++ [] := by simp [redis]
      rw [matchTypes_of_append audits]
      rfl
  | some raw =>
      rw [dequeue_present present] at redis
      have kept : after.db.references raw.parse.userId = true := registered.index present
      rw [matchTypes_of_append (congrArg QueueStore.audits redis)]
      simp [matchUser, kept, matchType]

end Handlers

/-- What is known of those who act, in every state of every run. -/
structure Attributable (world : World) : Prop where
  seated : Seated world
  actors : ActorsKnown world
  entries : EntriesKnown world

namespace Attributable

variable {runtime : Runtime} {network : Network} {world : World} {stimulus : Stimulus}
  {reply : Reply}

theorem start : Attributable .start where
  seated := seated_start
  actors := .start
  entries := .empty

theorem step (attributable : Attributable world) (admitted : world.admits stimulus = true)
    : Attributable (world.after runtime stimulus) where
  seated := attributable.seated.step admitted
  actors := attributable.actors.step admitted
  entries := attributable.entries.step attributable.seated

/-- The identity of a socket is a user's if the socket is registered. -/
theorem identity (attributable : Attributable world) {socketId : SocketId}
    {known : SocketMeta} (found : world.gateway.sockets.lookup socketId = some known)
    : world.gateway.db.references (some known.identity)
      = (world.gateway.userOf socketId).isSome := by
  have user : world.gateway.userOf socketId = known.userId := by
    simp [Gateway.userOf, found]
  rw [user]
  cases registered : known.userId with
  | none =>
      have anonymous := (attributable.actors.anonymous found).2
      simpa [SocketMeta.identity, registered] using anonymous
  | some userId =>
      rw [registered] at user
      simpa [SocketMeta.identity, registered] using attributable.seated.registered user

/-- The rows of a successful event are all appended exactly if they can be stored. -/
theorem owed_iff (attributable : Attributable world) (admitted : world.admits stimulus = true)
    (succeeded
      : (handle runtime stimulus.now world.gateway stimulus.event).reply = .ok reply)
    : (∀ type ∈ owed world.gateway stimulus.event,
          (network.appended world.gateway stimulus.event
            (handle runtime stimulus.now world.gateway stimulus.event)).count type
          = 1)
      ↔ recordable network world.gateway stimulus.event = true := by
  have registered {userId : Option Uuid}
      (before : world.gateway.db.references userId = true)
      : (handle runtime stimulus.now world.gateway stimulus.event).gateway.db.references
          userId
        = true :=
    (handle_handled runtime stimulus.now world.gateway stimulus.event).references before
  have entries := attributable.entries.imp (fun _ before => registered before)
  obtain ⟨now, event⟩ := stimulus
  dsimp only at admitted succeeded registered entries ⊢
  cases event with
  | callInitiate socketId data callId =>
      simp only [owed, List.mem_singleton, forall_eq, recordable]
      rw [appended_call rfl, handle, initiate_types succeeded]
      simp [Network.passed]
  | callAccept socketId data =>
      simp only [owed, List.mem_singleton, forall_eq, recordable]
      rw [appended_call rfl, handle, accept_types succeeded]
      simp [Network.passed]
  | callReject socketId callId =>
      simp only [owed, List.mem_singleton, forall_eq, recordable]
      rw [appended_call rfl, handle,
        reject_types (fun _ user => attributable.seated.registered user) succeeded]
      simp [Network.passed]
  | callEnd socketId callId =>
      cases found : world.gateway.sockets.lookup socketId with
      | none => simp [handle, SignalingGateway.onCallEnd, found, Outcome.refused] at succeeded
      | some known =>
          simp only [owed, List.mem_singleton, forall_eq, recordable]
          have types := end_types found succeeded
          rw [attributable.identity found] at types
          rw [appended_call rfl, handle, types]
          cases (world.gateway.userOf socketId).isSome <;> simp [Network.passed]
  | disconnect socketId =>
      obtain ⟨known, found, _⟩ := attributable.seated.disconnected runtime admitted rfl
      have ended := disconnect_types found succeeded
      have cancelled := dequeue_types (disconnect_redis found) entries
      rw [attributable.identity found] at ended
      simp only [owed, List.mem_append, or_imp, forall_and, recordable]
      have matched
          : ∀ type,
              type ∈ (if (world.gateway.redis.sockets socketId).isSome then
                [AuditEventType.matchCancelled] else []) →
              (network.appended world.gateway (.disconnect socketId)
                (SignalingGateway.handleDisconnect now world.gateway socketId)).count type
              = 1 := by
        intro type member
        split at member
        · next indexed =>
            rw [List.mem_singleton.mp member, appended_match rfl]
            exact cancelled.trans (if_pos indexed)
        · cases member
      refine (and_iff_left matched).trans ?_
      cases remembered : world.gateway.callOf socketId with
      | none => simp
      | some callId =>
          simp only [Option.isSome_some, if_true, List.mem_singleton, forall_eq]
          rw [appended_call rfl, handle, ended, remembered]
          cases (world.gateway.userOf socketId).isSome <;> simp [Network.passed]
  | missedCall callId =>
      simp only [owed, recordable]
      cases misses : world.gateway.misses callId with
      | false => simp
      | true =>
          obtain ⟨timer, set⟩ :=
            Option.isSome_iff_exists.mp (Bool.and_eq_true _ _ |>.mp misses).1
          have types := missedCall_types now set misses (attributable.actors.timers set)
          simp only [if_true, List.mem_singleton, forall_eq]
          rw [appended_call rfl]
          simp only [handle, set, types]
          simp [Network.passed, set]
  | mediaToggle socketId data =>
      cases found : world.gateway.sockets.lookup socketId with
      | none =>
          simp [handle, SignalingGateway.onMediaToggle, found, Outcome.refused] at succeeded
      | some known =>
          have types := mediaToggle_types found succeeded
          rw [attributable.identity found] at types
          change (∀ type ∈ deviceTypes data.mic data.camera, _) ↔ _
          cases user : (world.gateway.userOf socketId).isSome with
          | true =>
              simp only [recordable, user, Bool.or_true, iff_true]
              intro type member
              rw [appended_call (deviceTypes_ofMatch member), handle, types, user]
              exact List.count_eq_one_of_mem (deviceTypes_nodup _ _) member
          | false =>
              rw [user] at types
              simp only [recordable, user, Bool.or_false, ← deviceTypes_eq_nil,
                List.eq_nil_iff_forall_not_mem]
              refine forall_congr' fun type => imp_congr_right fun member => ?_
              rw [appended_call (deviceTypes_ofMatch member), handle, types]
              simp
  | joinQueue socketId preferredType callId =>
      cases found : world.gateway.sockets.lookup socketId with
      | none =>
          simp [handle, SignalingGateway.onJoinQueue, found, Outcome.refused] at succeeded
      | some known =>
          have user : world.gateway.db.references known.userId = true := by
            cases own : known.userId with
            | none => rfl
            | some userId =>
                exact attributable.seated.registered
                  (Option.bind_eq_some_iff.mpr ⟨known, found, own⟩)
          simp only [owed, List.mem_singleton, forall_eq, recordable, iff_true]
          rw [appended_match rfl]
          exact joinQueue_types found rfl (registered user)
  | leaveQueue socketId =>
      simp only [owed, recordable, iff_true]
      intro type member
      split at member
      · next indexed =>
          rw [List.mem_singleton.mp member, appended_match rfl]
          exact (dequeue_types rfl entries).trans (if_pos indexed)
      · cases member
  | _ => simp [owed, recordable]

end Attributable

/-- In every run, every successful event appends exactly one row of each type that it owes
to the audit trail, exactly if the rows of every successful event can be stored. -/
theorem audit_trail {runtime : Runtime} {network : Network} {actions : List Stimulus}
    {world : World} (run : (gatewayMachine runtime).Reaches actions world)
    : (gatewayMachine runtime).Along (Audited runtime network) .start actions
      ↔ (gatewayMachine runtime).Along
          (fun before stimulus =>
            succeeds runtime before stimulus = true →
              recordable network before.gateway stimulus.event = true)
          .start actions := by
  refine Machine.along_congr (gatewayMachine runtime) Attributable ?_ ?_ .start run
  · intro before stimulus next attributable taken
    obtain ⟨admitted, rfl⟩ := step_eq_some.mp taken
    exact attributable.step admitted
  · intro before stimulus next attributable taken
    obtain ⟨admitted, rfl⟩ := step_eq_some.mp taken
    refine imp_congr_right fun succeeded => ?_
    cases replied : (handle runtime stimulus.now before.gateway stimulus.event).reply with
    | error failure =>
        rw [succeeds, replied] at succeeded
        cases succeeded
    | ok reply => exact attributable.owed_iff admitted replied

/-- Everybody connects from one address, which PostgreSQL can read. -/
def oneAddress : Network := ⟨fun _ => "10.0.0.7", fun _ => true⟩

/-- A call of two registered users leaves nothing out. -/
theorem audit_trail_answered
    : (gatewayMachine plainRuntime).Along (Audited plainRuntime oneAddress) .start
        answeredCall := by
  have run : (gatewayMachine plainRuntime).Reaches answeredCall (worldAfter answeredCall) :=
    rfl
  exact (audit_trail run).mpr (by decide)

/-- Two visitors are matched, and one of them hangs up. -/
def visitorsHangUp : List Stimulus := [
  ⟨0, .connect 11 none 101⟩,
  ⟨0, .connect 12 none 102⟩,
  ⟨1000, .joinQueue 11 none 201⟩,
  ⟨2000, .joinQueue 12 none 202⟩,
  ⟨3000, .callEnd 12 (.uuid 202)⟩
]

/-- The anonymous id is passed on as a user id, which the foreign key refuses. -/
theorem hang_up_not_audited
    : (gatewayMachine plainRuntime).Reaches visitorsHangUp (worldAfter visitorsHangUp)
      ∧ ((worldAfter visitorsHangUp).session 202).map CallSession.status = some .ended
      ∧ ¬ (gatewayMachine plainRuntime).Along (Audited plainRuntime oneAddress) .start
          visitorsHangUp :=
  ⟨rfl, by decide, by decide⟩

end NexusComms.Signaling
