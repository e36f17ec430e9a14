import NexusComms.Signaling.Answering

/-! Which events create calls. Only `call:initiate` and a join of the queue do, under the id that
is drawn for them; all other handlers find their calls in the database or fail.
-/

namespace NexusComms.Signaling

open CallsRepository Storage

/-- The call that the handler of an event may create. -/
def Event.creates (callId : Uuid) : Event → Bool
  | .callInitiate _ _ id | .joinQueue _ _ id => id = callId
  | _ => false

section Services

variable (now : Time) (db : Database) (id : Uuid)

@[simp]
theorem updateStatus_present (target : Uuid) (update : StatusUpdate)
    : ((updateStatus now db target update).1.callSessions.lookup id).isSome
      = (db.callSessions.lookup id).isSome := by
  unfold updateStatus
  split
  · rfl
  · rw [lookup_replace]
    split
    · rw [Option.isSome_map]
    · rfl

@[simp]
theorem updateParticipants_sessions (callSessionId userId : Uuid)
    (anonymousId : Option Uuid) (change : CallParticipant → CallParticipant)
    : (updateParticipants db callSessionId userId anonymousId change).callSessions
      = db.callSessions :=
  rfl

@[simp]
theorem endCall_present (params : CallsService.EndParams)
    : ((CallsService.endCall now db params).db.callSessions.lookup id).isSome
      = (db.callSessions.lookup id).isSome := by
  unfold CallsService.endCall
  split
  · rfl
  · simp [markParticipantLeft]

@[simp]
theorem toggleCallType_present (callId : Text) (userId : Uuid) (newType : CallType)
    : ((CallsService.toggleCallType now db callId userId newType).db.callSessions.lookup
        id).isSome
      = (db.callSessions.lookup id).isSome := by
  unfold CallsService.toggleCallType
  split
  · rfl
  · simp

@[simp]
theorem toggleMedia_sessions (params : CallsService.MediaParams)
    : (CallsService.toggleMedia db params).db.callSessions = db.callSessions := by
  unfold CallsService.toggleMedia
  split
  · rfl
  · split
    · rfl
    · rfl

@[simp]
theorem acceptCall_present (params : CallsService.AcceptParams)
    : ((CallsService.acceptCall now db params).db.callSessions.lookup id).isSome
      = (db.callSessions.lookup id).isSome := by
  unfold CallsService.acceptCall
  split
  · rfl
  · next target _ =>
      split
      · rfl
      · dsimp only
        split
        · simp
        · next added =>
            rw [addParticipant_ok added]
            simp

@[simp]
theorem requestContactSave_sessions (requestId : Uuid) (callId : Text) (fromUserId : Uuid)
    (toUserId : Text)
    : (ContactsService.requestContactSave db requestId callId fromUserId toUserId
        |>.db.callSessions)
      = db.callSessions := by
  unfold ContactsService.requestContactSave
  split
  · dsimp only
    split
    · rfl
    · split
      · rfl
      · rfl
  · rfl

/-- `initiateCall` creates at most the call whose id has been drawn. -/
theorem initiateCall_present {callId : Uuid} (params : CallsService.InitiateParams)
    (apart : id ≠ callId)
    : (CallsService.initiateCall now db callId params).db.callSessions.lookup id
      = db.callSessions.lookup id := by
  rcases initiateCall_cases now db callId params with ⟨same, _⟩ | ⟨_, same⟩
  · rw [same]
  · rw [same, AList.lookup_insert_ne apart]

/-- `initiateCall` succeeds under a new id for an initiator who is referenced. -/
theorem initiateCall_ok_iff {callId : Uuid} {params : CallsService.InitiateParams}
    : (CallsService.initiateCall now db callId params).result = .ok ()
      ↔ db.callSessions.lookup callId = none ∧ db.references params.initiatorId = true := by
  constructor
  · intro succeeded
    unfold CallsService.initiateCall at succeeded
    split at succeeded
    · cases succeeded
    · next created inserted =>
        refine ⟨(createSession_ok inserted).1, ?_⟩
        unfold createSession at inserted
        split at inserted
        · cases inserted
        · split at inserted
          · next known => exact known
          · cases inserted
  · rintro ⟨absent, known⟩
    have created
        : createSession db callId (CallsService.initiatedRow now params)
          = .ok {
              db with
              callSessions :=
                db.callSessions.insert callId (CallsService.initiatedRow now params)
            } := by
      unfold createSession
      rw [absent, if_neg (by simp)]
      exact if_pos known
    have host : db.references (CallsService.hostRow now callId params).userId = true := by
      simp only [CallsService.hostRow]
      split
      · rfl
      · exact known
    unfold CallsService.initiateCall
    simp only [created]
    split
    · next failure failed =>
        unfold addParticipant at failed
        rw [if_pos] at failed
        · cases failed
        · rw [Bool.and_eq_true]
          exact ⟨by simp [CallsService.hostRow], host⟩
    · rfl

end Services

section Handlers

variable (now : Time) (gateway : Gateway) (socketId : SocketId) {id : Uuid}

/-- A pairing creates at most its own call. -/
theorem joinQueue_present (preferredType : Option CallType) {callId : Uuid}
    (apart : id ≠ callId)
    : ((SignalingGateway.onJoinQueue now gateway socketId preferredType callId).gateway.db
        |>.callSessions.lookup id).isSome
      = (gateway.db.callSessions.lookup id).isSome := by
  have paired (gateway' : Gateway)
      : ((SignalingGateway.tryPairUsers now gateway' callId).gateway.db.callSessions.lookup
          id).isSome
        = (gateway'.db.callSessions.lookup id).isSome := by
    unfold SignalingGateway.tryPairUsers
    dsimp only
    split
    · rfl
    · unfold SignalingGateway.pairUsers
      dsimp only
      split
      · simp [initiateCall_present now gateway'.db id _ apart]
      · split
        · simp [initiateCall_present now gateway'.db id _ apart]
        · simp [initiateCall_present now gateway'.db id _ apart]
  unfold SignalingGateway.onJoinQueue
  split
  · rfl
  · dsimp only
    split
    · exact paired _
    · exact paired _

/-- An event that creates no call with this id leaves it as absent or present as it was. -/
theorem handle_present (runtime : Runtime) (event : Event)
    (other : event.creates id = false)
    : ((handle runtime now gateway event).gateway.db.callSessions.lookup id).isSome
      = (gateway.db.callSessions.lookup id).isSome := by
  cases event with
  | callInitiate socketId data callId =>
      have apart : id ≠ callId := by
        rintro rfl
        simp [Event.creates] at other
      simp only [handle, SignalingGateway.onCallInitiate]
      split
      · rfl
      · split
        · rfl
        · split
          · simp [initiateCall_present now gateway.db id _ apart]
          · simp [initiateCall_present now gateway.db id _ apart]
  | joinQueue socketId preferredType callId =>
      refine joinQueue_present now gateway socketId preferredType ?_
      rintro rfl
      simp [Event.creates] at other
  | callAccept socketId data =>
      simp only [handle, SignalingGateway.onCallAccept]
      split
      · rfl
      · split
        · rfl
        · split
          · rfl
          · split
            · simp
            · simp
  | requestContactSave socketId data requestId =>
      simp only [handle, SignalingGateway.onRequestContactSave]
      split
      · rfl
      · split
        · rfl
        · split
          · simp
          · simp
  | register _ _ => rfl
  | _ =>
      exact handle_holds
        (fun db =>
          (db.callSessions.lookup id).isSome = (gateway.db.callSessions.lookup id).isSome)
        rfl rfl (by simp) (by simp) (by simp)

end Handlers

/-- A call that is new after an event has been created by that event. -/
theorem session_created {runtime : Runtime} {world : World} {stimulus : Stimulus} {id : Uuid}
    (absent : world.session id = none)
    (present : ((world.after runtime stimulus).session id).isSome)
    : stimulus.event.creates id = true := by
  by_contra other
  have same := handle_present stimulus.now world.gateway runtime stimulus.event
    (Bool.eq_false_iff.mpr other)
  change ((world.after runtime stimulus).session id).isSome = (world.session id).isSome at same
  rw [present, absent] at same
  cases same

end NexusComms.Signaling
