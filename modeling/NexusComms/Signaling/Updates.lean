import NexusComms.Signaling.Events

/-! What each event does to one row of `call_sessions`: which UPDATE its handler issues, and
that it does nothing else to rows that exist.
-/

namespace NexusComms.Signaling

open CallsRepository

namespace Gateway

/-- The gateway has a meta for the socket. -/
def knows (gateway : Gateway) (socketId : SocketId) : Bool :=
  (gateway.sockets.lookup socketId).isSome

/-- The registered user of a socket. -/
def userOf (gateway : Gateway) (socketId : SocketId) : Option Uuid :=
  (gateway.sockets.lookup socketId).bind SocketMeta.userId

/-- The call that a socket remembers. -/
def callOf (gateway : Gateway) (socketId : SocketId) : Option Text :=
  ((gateway.sockets.lookup socketId).bind SocketMeta.callId).filter Text.truthy

/-- The checks of `call:accept` let the socket through. -/
def mayAccept (gateway : Gateway) (socketId : SocketId) (callId : Text) : Bool :=
  (gateway.userOf socketId).any (fun userId => gateway.bars callId userId = false)

/-- The timer of a call is about to find it unanswered. -/
def misses (gateway : Gateway) (callId : Uuid) : Bool :=
  (gateway.missedCallTimers.lookup (.uuid callId)).isSome
    && decide ((gateway.db.callSessions.lookup callId).map CallSession.status
      = some .initiated)

end Gateway

/-- The UPDATE of `call_sessions` that the handler of an event issues, apart from the one
that follows an INSERT of its own. -/
def Event.rowUpdate (gateway : Gateway) : Event → Option (Text × StatusUpdate)
  | .callAccept socketId data =>
      if gateway.mayAccept socketId data.callId then some (data.callId, .accepted) else none
  | .callReject socketId callId =>
      if (gateway.userOf socketId).isSome then
        some (callId, CloseReason.rejected.update)
      else
        none
  | .callEnd socketId callId =>
      if gateway.knows socketId then some (callId, CloseReason.ended.update) else none
  | .disconnect socketId =>
      (gateway.callOf socketId).map (fun callId => (callId, CloseReason.ended.update))
  | .switchType socketId data =>
      if gateway.knows socketId then some (data.callId, .switched) else none
  | .missedCall callId =>
      if gateway.misses callId then some (.uuid callId, CloseReason.missed.update) else none
  | _ => none

/-- The part of that UPDATE that concerns one row. -/
def Event.updateOf (gateway : Gateway) (id : Uuid) (event : Event) : Option StatusUpdate :=
  (event.rowUpdate gateway).bind
    (fun issued => if issued.1.cast = some id then some issued.2 else none)

/-- The updates of one row among the outputs of handlers. -/
def updatesOf (id : Uuid) (outputs : List Output) : List StatusUpdate :=
  outputs.filterMap
    (fun output =>
      match output with
      | .update callId update => if callId = id then some update else none
      | _ => none)

@[simp]
theorem updatesOf_nil (id : Uuid) : updatesOf id [] = [] := rfl

@[simp]
theorem updatesOf_append (id : Uuid) (first second : List Output)
    : updatesOf id (first ++ second) = updatesOf id first ++ updatesOf id second :=
  List.filterMap_append

@[simp]
theorem updatesOf_emit (id : Uuid) (emission : Emission) (rest : List Output)
    : updatesOf id (.emit emission :: rest) = updatesOf id rest :=
  rfl

@[simp]
theorem updatesOf_emit' (id : Uuid) (gateway : Gateway) (target : Target)
    (message : Message) (rest : List Output)
    : updatesOf id (gateway.emit target message :: rest) = updatesOf id rest :=
  rfl

@[simp]
theorem updatesOf_broadcast (id : Uuid) (gateway : Gateway) (rest : List Output)
    : updatesOf id (SignalingGateway.broadcastQueueStatus gateway :: rest)
      = updatesOf id rest :=
  rfl

@[simp]
theorem updatesOf_log (id : Uuid) (db : Database) (userId : Option Uuid)
    (event : AuditEvent)
    : updatesOf id (AuditService.log db userId event) = [] := by
  unfold AuditService.log
  split
  · rfl
  · rfl

@[simp]
theorem updatesOf_emitToTabs (id : Uuid) (gateway : Gateway) (userId : Text)
    (message : Message)
    : updatesOf id (gateway.emitToTabs userId message) = [] := by
  simp only [Gateway.emitToTabs, updatesOf, List.filterMap_map]
  exact List.filterMap_eq_nil_iff.mpr (fun _ _ => rfl)

/-- How one row can change while a handler runs that issues `expected` for it: an existing
row is updated once or stays, and a new row is as `initiateCall` creates it, or a pairing
has answered it at once. -/
inductive RowEffect (now : Time)
    : Option StatusUpdate → Option CallSession → Option CallSession → List StatusUpdate → Prop
  | kept (row : Option CallSession) : RowEffect now none row row []
  | missing (update : StatusUpdate) : RowEffect now (some update) none none []
  | written (update : StatusUpdate) (row : CallSession)
    : RowEffect now (some update) (some row) (some (row.write now update)) [update]
  | created (params : CallsService.InitiateParams)
    : RowEffect now none none (some (CallsService.initiatedRow now params)) []
  | paired (params : CallsService.InitiateParams)
    : RowEffect now none none
        (some ((CallsService.initiatedRow now params).write now .accepted)) [.accepted]

/-- An existing row stays or is updated once. -/
theorem RowEffect.of_row {now : Time} {expected : Option StatusUpdate} {row : CallSession}
    {after : Option CallSession} {updates : List StatusUpdate}
    (effect : RowEffect now expected (some row) after updates)
    : (expected = none ∧ after = some row ∧ updates = [])
      ∨ ∃ update,
          expected = some update ∧ after = some (row.write now update)
          ∧ updates = [update] := by
  cases effect with
  | kept => exact .inl ⟨rfl, rfl, rfl⟩
  | written update => exact .inr ⟨update, rfl, rfl, rfl⟩

/-- A row that does not exist is created or stays absent. -/
theorem RowEffect.of_none {now : Time} {expected : Option StatusUpdate}
    {after : Option CallSession} {updates : List StatusUpdate}
    (effect : RowEffect now expected none after updates)
    : (after = none ∧ updates = [])
      ∨ ∃ params : CallsService.InitiateParams,
          (after = some (CallsService.initiatedRow now params) ∧ updates = [])
          ∨ after = some ((CallsService.initiatedRow now params).write now .accepted)
            ∧ updates = [.accepted] := by
  cases effect with
  | kept => exact .inl ⟨rfl, rfl⟩
  | missing => exact .inl ⟨rfl, rfl⟩
  | created params => exact .inr ⟨params, .inl ⟨rfl, rfl⟩⟩
  | paired params => exact .inr ⟨params, .inr ⟨rfl, rfl⟩⟩

/-- A handler that leaves the table alone. -/
theorem RowEffect.of_same {now : Time} {before after : Database} {outputs : List Output}
    {id : Uuid} (same : after.callSessions = before.callSessions)
    (quiet : updatesOf id outputs = [])
    : RowEffect now none (before.callSessions.lookup id) (after.callSessions.lookup id)
        (updatesOf id outputs) := by
  rw [same, quiet]
  exact .kept _

/-- One UPDATE changes the row that its id names. -/
theorem updateStatus_effect (now : Time) (db : Database) (target : Uuid)
    (update : StatusUpdate) (id : Uuid)
    : RowEffect now (if target = id then some update else none)
        (db.callSessions.lookup id)
        ((updateStatus now db target update).1.callSessions.lookup id)
        (updatesOf id (updateStatus now db target update).2) := by
  unfold updateStatus
  by_cases same : target = id
  · subst same
    cases found : db.callSessions.lookup target with
    | none => simpa [found] using RowEffect.missing update
    | some row =>
        simpa [found, updatesOf, Storage.lookup_replace] using RowEffect.written update row
  · cases db.callSessions.lookup target with
    | none => simpa [same] using RowEffect.kept _
    | some row =>
        have other : ¬ id = target := fun h => same h.symm
        simpa [same, other, updatesOf, Storage.lookup_replace] using RowEffect.kept _

/-- `endCall` closes the row that its text names. -/
theorem endCall_effect (now : Time) (db : Database) (params : CallsService.EndParams)
    (id : Uuid)
    : RowEffect now
        (if params.callId.cast = some id then some params.reason.update else none)
        (db.callSessions.lookup id)
        ((CallsService.endCall now db params).db.callSessions.lookup id)
        (updatesOf id (CallsService.endCall now db params).outputs) := by
  unfold CallsService.endCall
  cases cast : params.callId.cast with
  | none => simpa using RowEffect.kept _
  | some target =>
      have effect := updateStatus_effect now db target params.reason.update id
      simpa [markParticipantLeft, updateParticipants] using effect

/-- `toggleCallType` makes the row that its text names active. -/
theorem toggleCallType_effect (now : Time) (db : Database) (callId : Text) (userId : Uuid)
    (newType : CallType) (id : Uuid)
    : RowEffect now (if callId.cast = some id then some .switched else none)
        (db.callSessions.lookup id)
        ((CallsService.toggleCallType now db callId userId newType).db.callSessions.lookup id)
        (updatesOf id (CallsService.toggleCallType now db callId userId newType).outputs) := by
  unfold CallsService.toggleCallType
  cases cast : callId.cast with
  | none => simpa using RowEffect.kept _
  | some target =>
      simpa using updateStatus_effect now db target .switched id

/-- A participant that has been added is the last row. -/
theorem addParticipant_ok {db db' : Database} {row : CallParticipant}
    (added : addParticipant db row = .ok db')
    : db' = { db with callParticipants := db.callParticipants ++ [row] } := by
  unfold addParticipant at added
  split at added
  · exact (Except.ok.inj added).symm
  · cases added

/-- A session that has been created had a free id. -/
theorem createSession_ok {db db' : Database} {id : Uuid} {row : CallSession}
    (created : createSession db id row = .ok db')
    : db.callSessions.lookup id = none
      ∧ db' = { db with callSessions := db.callSessions.insert id row } := by
  unfold createSession at created
  split at created
  · cases created
  · next absent =>
      split at created
      · exact ⟨by simpa using absent, (Except.ok.inj created).symm⟩
      · cases created

/-- `acceptCall` answers the row that its text names, also when it fails afterwards. -/
theorem acceptCall_effect (now : Time) (db : Database) (params : CallsService.AcceptParams)
    (id : Uuid)
    : RowEffect now (if params.callId.cast = some id then some .accepted else none)
        (db.callSessions.lookup id)
        ((CallsService.acceptCall now db params).db.callSessions.lookup id)
        (updatesOf id (CallsService.acceptCall now db params).outputs) := by
  unfold CallsService.acceptCall
  cases cast : params.callId.cast with
  | none => simpa using RowEffect.kept _
  | some target =>
      have effect := updateStatus_effect now db target .accepted id
      simp only [Option.some.injEq]
      by_cases absent : (db.callSessions.lookup target).isNone
      · -- without the row the UPDATE would not have found it either
        have nothing : updateStatus now db target .accepted = (db, []) := by
          unfold updateStatus
          rw [Option.isNone_iff_eq_none.mp absent]
        rw [nothing] at effect
        simpa only [absent, if_true] using effect
      · simp only [absent]
        cases added : addParticipant (updateStatus now db target .accepted).1
            (CallsService.guestRow now target params) with
        | error failure => exact effect
        | ok db' =>
            rw [addParticipant_ok added]
            simpa using effect

/-- `initiateCall` creates the row with the id that the database has drawn, or nothing. -/
theorem initiateCall_cases (now : Time) (db : Database) (callId : Uuid)
    (params : CallsService.InitiateParams)
    : ((CallsService.initiateCall now db callId params).db.callSessions = db.callSessions
        ∧ (∃ failure,
            (CallsService.initiateCall now db callId params).result = .error failure))
      ∨ db.callSessions.lookup callId = none
        ∧ (CallsService.initiateCall now db callId params).db.callSessions
          = db.callSessions.insert callId (CallsService.initiatedRow now params) := by
  unfold CallsService.initiateCall
  split
  · next failure _ => exact .inl ⟨rfl, failure, rfl⟩
  · next created inserted =>
      obtain ⟨absent, same⟩ := createSession_ok inserted
      right
      refine ⟨absent, ?_⟩
      cases added : addParticipant created (CallsService.hostRow now callId params) with
      | error failure => simp only [same]
      | ok db' => simp only [addParticipant_ok added, same]

/-- `initiateCall` issues no UPDATE. -/
theorem initiateCall_quiet (now : Time) (db : Database) (callId : Uuid)
    (params : CallsService.InitiateParams) (id : Uuid)
    : updatesOf id (CallsService.initiateCall now db callId params).outputs = [] := by
  unfold CallsService.initiateCall
  split
  · rfl
  · split
    · rfl
    · simp

/-- `initiateCall` on one row: it is created, or stays. -/
theorem initiateCall_effect (now : Time) (db : Database) (callId : Uuid)
    (params : CallsService.InitiateParams) (id : Uuid)
    : RowEffect now none (db.callSessions.lookup id)
        ((CallsService.initiateCall now db callId params).db.callSessions.lookup id)
        (updatesOf id (CallsService.initiateCall now db callId params).outputs) := by
  rw [initiateCall_quiet]
  rcases initiateCall_cases now db callId params with ⟨same, _⟩ | ⟨absent, same⟩
  · rw [same]
    exact .kept _
  · rw [same]
    by_cases here : id = callId
    · subst here
      rw [absent, AList.lookup_insert]
      exact .created params
    · rw [AList.lookup_insert_ne here]
      exact .kept _

section Databases

variable (gateway : Gateway)

@[simp]
theorem join_db (room : Text) (socketId : SocketId)
    : (gateway.join room socketId).db = gateway.db :=
  rfl

@[simp]
theorem leave_db (room : Text) (socketId : SocketId)
    : (gateway.leave room socketId).db = gateway.db :=
  rfl

@[simp]
theorem cancelTimer_db (callId : Text) : (gateway.cancelTimer callId).db = gateway.db := rfl

@[simp]
theorem deletePending_db (callId : Text)
    : (gateway.deletePending callId).db = gateway.db :=
  rfl

@[simp]
theorem updateMeta_db (socketId : SocketId) (change : SocketMeta → SocketMeta)
    : (gateway.updateMeta socketId change).db = gateway.db := by
  rw [Gateway.updateMeta_eq]

@[simp]
theorem setCallId_db (socketId : SocketId) (callId : Option Text)
    : (gateway.setCallId socketId callId).db = gateway.db :=
  updateMeta_db gateway socketId _

@[simp]
theorem socketsJoin_db (source room : Text)
    : (gateway.socketsJoin source room).db = gateway.db := by
  rw [Gateway.socketsJoin_eq]

@[simp]
theorem removeParticipant_db (roomId : Text) (peerId : SocketId)
    : (SfuService.removeParticipant gateway roomId peerId).db = gateway.db := by
  rw [SfuService.removeParticipant_eq]

@[simp]
theorem forget_db (socketId : SocketId) (known : SocketMeta)
    : (SignalingGateway.forget gateway socketId known).gateway.db = gateway.db := by
  simp only [SignalingGateway.forget]
  split
  · rfl
  · exact removeParticipant_db gateway _ socketId

@[simp]
theorem forget_quiet (socketId : SocketId) (known : SocketMeta) (id : Uuid)
    : updatesOf id (SignalingGateway.forget gateway socketId known).outputs = [] := by
  simp only [SignalingGateway.forget]
  split
  · rfl
  · rfl

end Databases

section Handlers

variable (now : Time) (gateway : Gateway) (socketId : SocketId) (id : Uuid)

/-- Who has an entry in `this.sockets`. -/
theorem knows_of_lookup {known : SocketMeta}
    (found : gateway.sockets.lookup socketId = some known)
    : gateway.knows socketId = true := by
  simp [Gateway.knows, found]

/-- An event without an UPDATE addresses no row. -/
theorem updateOf_none {event : Event} (none_issued : event.rowUpdate gateway = none)
    : event.updateOf gateway id = none := by
  simp [Event.updateOf, none_issued]

/-- An UPDATE addresses the row that its text names. -/
theorem updateOf_some {event : Event} {callId : Text} {update : StatusUpdate}
    (issued : event.rowUpdate gateway = some (callId, update))
    : event.updateOf gateway id
      = if callId.cast = some id then some update else none := by
  simp [Event.updateOf, issued]

/-- `call:accept` answers a row when its checks let the socket through. -/
theorem accept_effect (data : AcceptData)
    : RowEffect now ((Event.callAccept socketId data).updateOf gateway id)
        (gateway.db.callSessions.lookup id)
        ((SignalingGateway.onCallAccept now gateway socketId data).gateway.db
          |>.callSessions.lookup id)
        (updatesOf id (SignalingGateway.onCallAccept now gateway socketId data).outputs) := by
  unfold SignalingGateway.onCallAccept
  cases found : gateway.sockets.lookup socketId with
  | none =>
      rw [updateOf_none]
      · exact .kept _
      · simp [Event.rowUpdate, Gateway.mayAccept, Gateway.userOf, found]
  | some known =>
      dsimp only
      cases registered : known.userId with
      | none =>
          rw [updateOf_none]
          · exact .kept _
          · simp [Event.rowUpdate, Gateway.mayAccept, Gateway.userOf, found, registered]
      | some userId =>
          dsimp only
          by_cases barred : gateway.bars data.callId userId = true
          · rw [updateOf_none, if_pos barred]
            · exact .kept _
            · simp [Event.rowUpdate, Gateway.mayAccept, Gateway.userOf, found, registered,
                barred]
          · have issued
                : (Event.callAccept socketId data).rowUpdate gateway
                  = some (data.callId, .accepted) := by
              simp [Event.rowUpdate, Gateway.mayAccept, Gateway.userOf, found, registered,
                barred]
            have effect := acceptCall_effect now gateway.db
              { callId := data.callId, userId := userId, callType := data.callType } id
            rw [← updateOf_some gateway id issued] at effect
            rw [if_neg barred]
            split
            · exact effect
            · simpa using effect

/-- `call:reject` closes a row for every registered user. -/
theorem reject_effect (callId : Text)
    : RowEffect now ((Event.callReject socketId callId).updateOf gateway id)
        (gateway.db.callSessions.lookup id)
        ((SignalingGateway.onCallReject now gateway socketId callId).gateway.db
          |>.callSessions.lookup id)
        (updatesOf id
          (SignalingGateway.onCallReject now gateway socketId callId).outputs) := by
  unfold SignalingGateway.onCallReject
  cases found : gateway.sockets.lookup socketId with
  | none =>
      rw [updateOf_none]
      · exact .kept _
      · simp [Event.rowUpdate, Gateway.userOf, found]
  | some known =>
      dsimp only
      cases registered : known.userId with
      | none =>
          rw [updateOf_none]
          · exact .kept _
          · simp [Event.rowUpdate, Gateway.userOf, found, registered]
      | some userId =>
          have issued
              : (Event.callReject socketId callId).rowUpdate gateway
                = some (callId, CloseReason.rejected.update) := by
            simp [Event.rowUpdate, Gateway.userOf, found, registered]
          have effect := endCall_effect now gateway.db
            { callId := callId, userId := userId, reason := .rejected } id
          rw [← updateOf_some gateway id issued] at effect
          dsimp only
          split
          · exact effect
          · simpa using effect

/-- `call:end` closes a row for every socket. -/
theorem end_effect (callId : Text)
    : RowEffect now ((Event.callEnd socketId callId).updateOf gateway id)
        (gateway.db.callSessions.lookup id)
        ((SignalingGateway.onCallEnd now gateway socketId callId).gateway.db
          |>.callSessions.lookup id)
        (updatesOf id (SignalingGateway.onCallEnd now gateway socketId callId).outputs) := by
  unfold SignalingGateway.onCallEnd
  cases found : gateway.sockets.lookup socketId with
  | none =>
      rw [updateOf_none]
      · exact .kept _
      · simp [Event.rowUpdate, Gateway.knows, found]
  | some known =>
      have issued
          : (Event.callEnd socketId callId).rowUpdate gateway
            = some (callId, CloseReason.ended.update) := by
        simp [Event.rowUpdate, Gateway.knows, found]
      have effect := endCall_effect now gateway.db {
        callId := callId
        userId := known.identity
        anonymousId := known.anonymous
        reason := .ended
      } id
      rw [← updateOf_some gateway id issued] at effect
      dsimp only
      split
      · exact effect
      · simpa using effect

/-- A disconnect closes the row of the call that the socket remembers. -/
theorem disconnect_effect
    : RowEffect now ((Event.disconnect socketId).updateOf gateway id)
        (gateway.db.callSessions.lookup id)
        ((SignalingGateway.handleDisconnect now gateway socketId).gateway.db
          |>.callSessions.lookup id)
        (updatesOf id (SignalingGateway.handleDisconnect now gateway socketId).outputs) := by
  unfold SignalingGateway.handleDisconnect
  dsimp only
  cases found : gateway.sockets.lookup socketId with
  | none =>
      rw [updateOf_none]
      · exact .kept _
      · simp [Event.rowUpdate, Gateway.callOf, found]
  | some known =>
      dsimp only [SignalingGateway.endOrForget]
      cases remembered : known.callId.filter Text.truthy with
      | none =>
          rw [updateOf_none]
          · simpa using RowEffect.kept _
          · simp [Event.rowUpdate, Gateway.callOf, found, remembered]
      | some callId =>
          have issued
              : (Event.disconnect socketId).rowUpdate gateway
                = some (callId, CloseReason.ended.update) := by
            simp [Event.rowUpdate, Gateway.callOf, found, remembered]
          have effect := endCall_effect now gateway.db {
            callId := callId
            userId := known.identity
            anonymousId := known.anonymous
            reason := .ended
          } id
          rw [← updateOf_some gateway id issued] at effect
          dsimp only
          split
          · exact effect
          · simpa using effect

/-- `call:switch-type` makes a row active for every socket. -/
theorem switchType_effect (data : SwitchData)
    : RowEffect now ((Event.switchType socketId data).updateOf gateway id)
        (gateway.db.callSessions.lookup id)
        ((SignalingGateway.onSwitchType now gateway socketId data).gateway.db
          |>.callSessions.lookup id)
        (updatesOf id (SignalingGateway.onSwitchType now gateway socketId data).outputs) := by
  unfold SignalingGateway.onSwitchType
  cases found : gateway.sockets.lookup socketId with
  | none =>
      rw [updateOf_none]
      · exact .kept _
      · simp [Event.rowUpdate, Gateway.knows, found]
  | some known =>
      have issued
          : (Event.switchType socketId data).rowUpdate gateway
            = some (data.callId, .switched) := by
        simp [Event.rowUpdate, Gateway.knows, found]
      have effect :=
        toggleCallType_effect now gateway.db data.callId known.identity data.newType id
      rw [← updateOf_some gateway id issued] at effect
      dsimp only
      split
      · exact effect
      · simpa using effect

/-- The missed-call timer closes a row that it finds initiated. -/
theorem missedCall_effect (runtime : Runtime) (callId : Uuid)
    : RowEffect now ((Event.missedCall callId).updateOf gateway id)
        (gateway.db.callSessions.lookup id)
        ((handle runtime now gateway (.missedCall callId)).gateway.db.callSessions.lookup id)
        (updatesOf id (handle runtime now gateway (.missedCall callId)).outputs) := by
  simp only [handle]
  cases set : gateway.missedCallTimers.lookup (.uuid callId) with
  | none =>
      rw [updateOf_none]
      · exact .kept _
      · simp [Event.rowUpdate, Gateway.misses, set]
  | some timer =>
      simp only [SignalingGateway.missedCall, deletePending_db, cancelTimer_db]
      split
      · next unanswered =>
          have issued
              : (Event.missedCall callId).rowUpdate gateway
                = some (.uuid callId, CloseReason.missed.update) := by
            simp [Event.rowUpdate, Gateway.misses, set, unanswered]
          have effect := endCall_effect now gateway.db {
            callId := .uuid callId
            userId := timer.userId.getD timer.anonymousId
            anonymousId := if timer.userId.isSome then none else some timer.anonymousId
            reason := .missed
          } id
          rw [← updateOf_some gateway id issued] at effect
          split
          · exact effect
          · simpa using effect
      · next answered =>
          rw [updateOf_none]
          · exact .kept _
          · simpa [Event.rowUpdate, Gateway.misses] using fun _ => answered

/-- `call:initiate` creates one row, or nothing. -/
theorem initiate_effect (runtime : Runtime) (data : InitiateData) (callId : Uuid)
    : RowEffect now none (gateway.db.callSessions.lookup id)
        ((SignalingGateway.onCallInitiate runtime now gateway socketId data callId).gateway.db
          |>.callSessions.lookup id)
        (updatesOf id
          (SignalingGateway.onCallInitiate runtime now gateway socketId data callId
            |>.outputs)) := by
  unfold SignalingGateway.onCallInitiate
  split
  · exact .kept _
  · split
    · exact .kept _
    · dsimp only
      split
      · exact initiateCall_effect now gateway.db callId _ id
      · simpa using initiateCall_effect now gateway.db callId _ id

/-- A pairing creates one row and answers it. -/
theorem pairUsers_effect (a b : Matchmaking.TimedEntry) (callId : Uuid)
    : RowEffect now none (gateway.db.callSessions.lookup id)
        ((SignalingGateway.pairUsers now gateway a b callId).gateway.db.callSessions.lookup id)
        (updatesOf id (SignalingGateway.pairUsers now gateway a b callId).outputs) := by
  unfold SignalingGateway.pairUsers
  dsimp only
  generalize (if a.preferredType = b.preferredType then a.preferredType else .video) = callType
  generalize paramsEq
    : ({
        initiatorId := a.userId
        anonymousId := if a.userId.isSome then none else some a.anonymousId
        callType := callType
        isAnonymous := true
      } : CallsService.InitiateParams) = initiateParams
  generalize acceptEq
    : ({
        callId := .uuid callId
        userId := b.userId.getD b.anonymousId
        anonymousId := if b.userId.isSome then none else some b.anonymousId
        isAnonymous := b.userId.isNone
        callType := callType
      } : CallsService.AcceptParams) = acceptParams
  have named : acceptParams.callId = .uuid callId := by rw [← acceptEq]
  have created := initiateCall_cases now gateway.db callId initiateParams
  cases result : (CallsService.initiateCall now gateway.db callId initiateParams).result with
  | error failure => exact initiateCall_effect now gateway.db callId initiateParams id
  | ok _ =>
      rcases created with ⟨_, failure, failed⟩ | ⟨absent, inserted⟩
      · rw [failed] at result
        cases result
      · have answered := acceptCall_effect now
          (CallsService.initiateCall now gateway.db callId initiateParams).db acceptParams id
        have effect
            : RowEffect now none (gateway.db.callSessions.lookup id)
                ((CallsService.acceptCall now
                    (CallsService.initiateCall now gateway.db callId initiateParams).db
                    acceptParams).db.callSessions.lookup id)
                (updatesOf id
                  ((CallsService.initiateCall now gateway.db callId initiateParams).outputs
                    ++ (CallsService.acceptCall now
                        (CallsService.initiateCall now gateway.db callId initiateParams).db
                        acceptParams).outputs)) := by
          rw [updatesOf_append, initiateCall_quiet, List.nil_append]
          rw [inserted, named, Text.cast_uuid] at answered
          by_cases here : id = callId
          · subst here
            rw [AList.lookup_insert, if_pos rfl] at answered
            rw [absent]
            generalize AList.lookup id _ = row at answered ⊢
            generalize updatesOf id _ = updates at answered ⊢
            cases answered
            exact .paired initiateParams
          · have other : ¬ (some callId = some id) := fun h => here (Option.some.inj h).symm
            rw [AList.lookup_insert_ne here, if_neg other] at answered
            exact answered
        dsimp only
        split
        · exact effect
        · simpa using effect

/-- `tryPairUsers` creates at most one row, that of the pairing. -/
theorem tryPairUsers_effect (callId : Uuid)
    : RowEffect now none (gateway.db.callSessions.lookup id)
        ((SignalingGateway.tryPairUsers now gateway callId).gateway.db.callSessions.lookup id)
        (updatesOf id (SignalingGateway.tryPairUsers now gateway callId).outputs) := by
  unfold SignalingGateway.tryPairUsers
  dsimp only
  split
  · exact .kept _
  · next a b _ =>
      exact pairUsers_effect now
        { gateway with redis := (MatchmakingService.tryMatch (dateNow now) gateway.redis).1 }
        id a b callId

/-- So does a join. -/
theorem joinQueue_effect (preferredType : Option CallType) (callId : Uuid)
    : RowEffect now none (gateway.db.callSessions.lookup id)
        ((SignalingGateway.onJoinQueue now gateway socketId preferredType callId).gateway.db
          |>.callSessions.lookup id)
        (updatesOf id
          (SignalingGateway.onJoinQueue now gateway socketId preferredType callId
            |>.outputs)) := by
  unfold SignalingGateway.onJoinQueue
  split
  · exact .kept _
  · next known _ =>
      have effect := tryPairUsers_effect now
        {
          gateway with
          redis := (MatchmakingService.enqueue (dateNow now) gateway.redis {
            userId := known.userId
            anonymousId := known.anonymousId
            socketId := socketId
            preferredType := preferredType.getD .video
            isAnonymous := known.userId.isNone
          }).1
        }
        id callId
      dsimp only
      split
      · exact effect
      · simpa using effect

/-- `media:toggle` touches no session. -/
theorem mediaToggle_effect (data : MediaData)
    : RowEffect now none (gateway.db.callSessions.lookup id)
        ((SignalingGateway.onMediaToggle gateway socketId data).gateway.db
          |>.callSessions.lookup id)
        (updatesOf id (SignalingGateway.onMediaToggle gateway socketId data).outputs) := by
  unfold SignalingGateway.onMediaToggle
  split
  · exact .kept _
  · next known _ =>
      dsimp only
      generalize ({
        callId := data.callId
        userId := known.identity
        anonymousId := known.anonymous
        mic := data.mic
        camera := data.camera
      } : CallsService.MediaParams) = params
      have effect
          : RowEffect now none (gateway.db.callSessions.lookup id)
              ((CallsService.toggleMedia gateway.db params).db.callSessions.lookup id)
              (updatesOf id (CallsService.toggleMedia gateway.db params).outputs) := by
        unfold CallsService.toggleMedia
        split
        · exact .kept _
        · split
          · exact .kept _
          · refine .of_same rfl ?_
            unfold CallsService.mediaLog
            cases params.mic <;> cases params.camera <;> simp
      split
      · exact effect
      · simpa using effect

/-- `contact:request-save` touches no session. -/
theorem requestContactSave_effect (data : ContactData) (requestId : Uuid)
    : RowEffect now none (gateway.db.callSessions.lookup id)
        ((SignalingGateway.onRequestContactSave gateway socketId data requestId).gateway.db
          |>.callSessions.lookup id)
        (updatesOf id
          (SignalingGateway.onRequestContactSave gateway socketId data requestId
            |>.outputs)) := by
  unfold SignalingGateway.onRequestContactSave
  split
  · exact .kept _
  · split
    · exact .kept _
    · next userId _ =>
        dsimp only
        have effect
            : RowEffect now none (gateway.db.callSessions.lookup id)
                ((ContactsService.requestContactSave gateway.db requestId data.callId userId
                  data.toUserId).db.callSessions.lookup id)
                (updatesOf id
                  (ContactsService.requestContactSave gateway.db requestId data.callId userId
                    data.toUserId).outputs) := by
          unfold ContactsService.requestContactSave
          split
          · dsimp only
            split
            · exact .kept _
            · split
              · exact .of_same rfl (by simp)
              · exact .kept _
          · exact .kept _
        split
        · exact effect
        · simpa using effect

/-- `sfu:join` touches no session. -/
theorem sfuJoin_effect (runtime : Runtime) (roomId : Text)
    : RowEffect now none (gateway.db.callSessions.lookup id)
        ((SignalingGateway.onSfuJoin runtime gateway socketId roomId).gateway.db
          |>.callSessions.lookup id)
        (updatesOf id (SignalingGateway.onSfuJoin runtime gateway socketId roomId).outputs) := by
  unfold SignalingGateway.onSfuJoin
  split
  · exact .kept _
  · split
    · exact .kept _
    · dsimp only
      split
      · exact .of_same (by simp [SfuService.createRoom]) (by simp)
      · exact .of_same (by simp) (by simp)

end Handlers

/-- What every event does to every row of `call_sessions`. -/
theorem handle_effect (runtime : Runtime) (now : Time) (gateway : Gateway) (event : Event)
    (id : Uuid)
    : RowEffect now (event.updateOf gateway id) (gateway.db.callSessions.lookup id)
        ((handle runtime now gateway event).gateway.db.callSessions.lookup id)
        (updatesOf id (handle runtime now gateway event).outputs) := by
  cases event with
  | disconnect socketId => exact disconnect_effect now gateway socketId id
  | callInitiate socketId data callId =>
      exact initiate_effect now gateway socketId id runtime data callId
  | missedCall callId => exact missedCall_effect now gateway id runtime callId
  | callAccept socketId data => exact accept_effect now gateway socketId id data
  | callReject socketId callId => exact reject_effect now gateway socketId id callId
  | callEnd socketId callId => exact end_effect now gateway socketId id callId
  | mediaToggle socketId data => exact mediaToggle_effect now gateway socketId id data
  | switchType socketId data => exact switchType_effect now gateway socketId id data
  | joinQueue socketId preferredType callId =>
      exact joinQueue_effect now gateway socketId id preferredType callId
  | sfuJoin socketId roomId => exact sfuJoin_effect now gateway socketId id runtime roomId
  | requestContactSave socketId data requestId =>
      exact requestContactSave_effect now gateway socketId id data requestId
  | createTransport socketId roomId transportId =>
      simp only [handle, SignalingGateway.onCreateTransport]
      split
      · exact .kept _
      · next created =>
          rw [SfuService.createWebRtcTransport_eq created]
          exact .kept _
  | produce socketId data producerId =>
      simp only [handle, SignalingGateway.onProduce]
      split
      · exact .kept _
      · exact .kept _
  | register _ _ => exact .kept _
  | connect _ _ _ => exact .kept _
  | signalOffer _ _ _ => exact .kept _
  | signalAnswer _ _ _ => exact .kept _
  | signalIce _ _ _ => exact .kept _
  | leaveQueue _ => exact .kept _
  | queueStatusRequest _ => exact .kept _

/-- The events whose handlers can insert rows into tables other than `audit_logs`. -/
def Event.inserts : Event → Bool
  | .register _ _ | .callInitiate _ _ _ | .callAccept _ _ | .joinQueue _ _ _
  | .requestContactSave _ _ _ => true
  | _ => false

section Databases

variable {runtime : Runtime} {now : Time} {gateway : Gateway} {event : Event}
  {holds : Database → Prop}

/-- The end of `handleDisconnect` makes at most one call of a service. -/
theorem endOrForget_holds {socketId : SocketId} (known : SocketMeta)
    (before : holds gateway.db)
    (ended : ∀ params, holds (CallsService.endCall now gateway.db params).db)
    : holds (SignalingGateway.endOrForget now gateway socketId known).gateway.db := by
  unfold SignalingGateway.endOrForget
  split
  · rw [forget_db]
    exact before
  · dsimp only
    split
    · exact ended _
    · rw [forget_db]
      exact ended _

/-- So does the callback of a timeout. -/
theorem missedCall_holds {callId : Uuid} (timer : MissedCallTimer) (before : holds gateway.db)
    (ended : ∀ params, holds (CallsService.endCall now gateway.db params).db)
    : holds (SignalingGateway.missedCall now gateway callId timer).gateway.db := by
  unfold SignalingGateway.missedCall
  dsimp only
  split
  · split
    · exact ended _
    · exact ended _
  · exact before

variable (holds) in
/-- A handler that inserts no rows makes at most one call of a service, so the database is as
before or as that service leaves it. -/
theorem handle_holds (plain : event.inserts = false) (before : holds gateway.db)
    (ended : ∀ params, holds (CallsService.endCall now gateway.db params).db)
    (toggled : ∀ params, holds (CallsService.toggleMedia gateway.db params).db)
    (switched
      : ∀ callId userId newType,
          holds (CallsService.toggleCallType now gateway.db callId userId newType).db)
    : holds (handle runtime now gateway event).gateway.db := by
  cases event with
  | disconnect socketId =>
      simp only [handle, SignalingGateway.handleDisconnect]
      split
      · exact before
      · exact endOrForget_holds _ before ended
  | missedCall callId =>
      simp only [handle]
      split
      · exact before
      · exact missedCall_holds _ before ended
  | callReject socketId callId =>
      simp only [handle, SignalingGateway.onCallReject]
      split
      · exact before
      · split
        · exact before
        · split
          · exact ended _
          · exact ended _
  | callEnd socketId callId =>
      simp only [handle, SignalingGateway.onCallEnd]
      split
      · exact before
      · split
        · exact ended _
        · rw [setCallId_db]
          exact ended _
  | mediaToggle socketId data =>
      simp only [handle, SignalingGateway.onMediaToggle]
      split
      · exact before
      · split
        · exact toggled _
        · exact toggled _
  | switchType socketId data =>
      simp only [handle, SignalingGateway.onSwitchType]
      split
      · exact before
      · split
        · exact switched _ _ _
        · exact switched _ _ _
  | sfuJoin socketId roomId =>
      simp only [handle, SignalingGateway.onSfuJoin]
      split
      · exact before
      · split
        · exact before
        · split
          · simpa [SfuService.createRoom] using before
          · simpa using before
  | createTransport socketId roomId transportId =>
      simp only [handle, SignalingGateway.onCreateTransport]
      split
      · exact before
      · next created =>
          rw [SfuService.createWebRtcTransport_eq created]
          exact before
  | produce socketId data producerId =>
      simp only [handle, SignalingGateway.onProduce]
      split
      · exact before
      · exact before
  | register _ _ | callInitiate _ _ _ | callAccept _ _ | joinQueue _ _ _
  | requestContactSave _ _ _ => cases plain
  | connect _ _ _ | signalOffer _ _ _ | signalAnswer _ _ _ | signalIce _ _ _
  | leaveQueue _ | queueStatusRequest _ => exact before

end Databases

namespace World

/-- The row of a call. -/
def session (world : World) (id : Uuid) : Option CallSession :=
  world.gateway.db.callSessions.lookup id

/-- All updates of a row, in order. -/
def updates (world : World) (id : Uuid) : List StatusUpdate :=
  world.trace.flatMap (fun occurrence => updatesOf id occurrence.outputs)

end World

section Steps

variable {world : World} {id : Uuid}

/-- An event on an existing row: the row stays, or the UPDATE of the event changes it. -/
theorem after_of_row (runtime : Runtime) (stimulus : Stimulus) {row : CallSession}
    (found : world.session id = some row)
    : (stimulus.event.updateOf world.gateway id = none
        ∧ (world.after runtime stimulus).session id = some row
        ∧ (world.after runtime stimulus).updates id = world.updates id)
      ∨ ∃ update,
          stimulus.event.updateOf world.gateway id = some update
          ∧ (world.after runtime stimulus).session id = some (row.write stimulus.now update)
          ∧ (world.after runtime stimulus).updates id = world.updates id ++ [update] := by
  have effect := handle_effect runtime stimulus.now world.gateway stimulus.event id
  rw [show world.gateway.db.callSessions.lookup id = some row from found] at effect
  rcases effect.of_row with ⟨issued, same, quiet⟩ | ⟨update, issued, same, written⟩
  · exact .inl ⟨issued, same, by simp [World.updates, World.after, quiet]⟩
  · exact .inr ⟨update, issued, same, by simp [World.updates, World.after, written]⟩

/-- An event on a row that does not exist: it stays absent, or it is created. -/
theorem after_of_none (runtime : Runtime) (stimulus : Stimulus)
    (absent : world.session id = none)
    : ((world.after runtime stimulus).session id = none
        ∧ (world.after runtime stimulus).updates id = world.updates id)
      ∨ ∃ params : CallsService.InitiateParams,
          ((world.after runtime stimulus).session id
              = some (CallsService.initiatedRow stimulus.now params)
            ∧ (world.after runtime stimulus).updates id = world.updates id)
          ∨ (world.after runtime stimulus).session id
              = some ((CallsService.initiatedRow stimulus.now params).write stimulus.now
                  .accepted)
            ∧ (world.after runtime stimulus).updates id
              = world.updates id ++ [.accepted] := by
  have effect := handle_effect runtime stimulus.now world.gateway stimulus.event id
  rw [show world.gateway.db.callSessions.lookup id = none from absent] at effect
  rcases effect.of_none with ⟨same, quiet⟩ | ⟨params, ⟨same, quiet⟩ | ⟨same, written⟩⟩
  · exact .inl ⟨same, by simp [World.updates, World.after, quiet]⟩
  · exact .inr ⟨params, .inl ⟨same, by simp [World.updates, World.after, quiet]⟩⟩
  · exact .inr ⟨params, .inr ⟨same, by simp [World.updates, World.after, written]⟩⟩

end Steps

end NexusComms.Signaling
