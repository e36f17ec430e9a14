import NexusComms.Signaling.State

/-! The services that the gateway calls, each call run to its end. NOW() is the same in all
queries of one handler, and an id given as text is read once, since each query of a call
reads it the same way.
-/

namespace NexusComms.Signaling

open Matchmaking

/-- `AuditService.log` never fails: a row that the database refuses is lost. -/
def AuditService.log (db : Database) (userId : Option Uuid) (event : AuditEvent)
    : List Output :=
  if db.references userId then [.audit ⟨userId, event⟩] else []

/-- `UsersService.findByEmail`. -/
def UsersService.findByEmail (db : Database) (email : String) : Option User :=
  db.users.find? (fun user => user.email = email)

namespace CallsRepository

/-- The id is drawn by `gen_random_uuid()`. -/
def createSession (db : Database) (id : Uuid) (row : CallSession)
    : Except Failure Database :=
  if (db.callSessions.lookup id).isSome then
    .error .uniqueViolation
  else if db.references row.initiatorId then
    .ok { db with callSessions := db.callSessions.insert id row }
  else
    .error .foreignKeyViolation

/-- An UPDATE that finds no row changes nothing and does not fail. -/
def updateStatus (now : Time) (db : Database) (id : Uuid) (update : StatusUpdate)
    : Database × List Output :=
  match db.callSessions.lookup id with
  | none => (db, [])
  | some row =>
      ({ db with callSessions := db.callSessions.replace id (row.write now update) },
        [.update id update])

def addParticipant (db : Database) (row : CallParticipant) : Except Failure Database :=
  if (db.callSessions.lookup row.callSessionId).isSome && db.references row.userId then
    .ok { db with callParticipants := db.callParticipants ++ [row] }
  else
    .error .foreignKeyViolation

/-- `call_session_id = $1 AND anonymous_id = $2`, or `user_id = $2` without an anonymous
id, `AND left_at IS NULL`. -/
def selects (callSessionId userId : Uuid) (anonymousId : Option Uuid)
    (row : CallParticipant)
    : Bool :=
  decide (row.callSessionId = callSessionId)
    && (match anonymousId with
        | some id => decide (row.anonymousId = some id)
        | none => decide (row.userId = some userId))
    && row.leftAt.isNone

def updateParticipants (db : Database) (callSessionId userId : Uuid)
    (anonymousId : Option Uuid) (change : CallParticipant → CallParticipant)
    : Database :=
  {
    db with
    callParticipants :=
      db.callParticipants.map
        (fun row =>
          if selects callSessionId userId anonymousId row then change row else row)
  }

def updateParticipantMedia (db : Database) (callSessionId userId : Uuid)
    (mic camera : Option Bool) (anonymousId : Option Uuid)
    : Database :=
  updateParticipants db callSessionId userId anonymousId
    (fun row =>
      {
        row with
        micEnabled := mic.getD row.micEnabled
        cameraEnabled := camera.getD row.cameraEnabled
      })

def markParticipantLeft (now : Time) (db : Database) (callSessionId userId : Uuid)
    (anonymousId : Option Uuid)
    : Database :=
  updateParticipants db callSessionId userId anonymousId
    (fun row => { row with leftAt := some now })

end CallsRepository

/-- What a service has done to the database, what it has written besides, and what it
returns. -/
structure Served (ρ : Type) where
  db : Database
  outputs : List Output
  result : Except Failure ρ

/-- The reasons of `endCall`. -/
inductive CloseReason where
  | ended
  | rejected
  | missed
deriving DecidableEq, Repr

def CloseReason.status : CloseReason → CallStatus
  | ended => .ended
  | rejected => .rejected
  | missed => .missed

/-- `eventMap`. -/
def CloseReason.event (callId : Text) : CloseReason → AuditEvent
  | ended => .callEnded callId
  | rejected => .callRejected callId
  | missed => .callMissed callId

/-- What `endCall` sets. -/
def CloseReason.update (reason : CloseReason) : StatusUpdate :=
  { status := reason.status, endedAt := true }

/-- What `acceptCall` sets. -/
def StatusUpdate.accepted : StatusUpdate := { status := .active, answeredAt := true }

/-- What `toggleCallType` sets. -/
def StatusUpdate.switched : StatusUpdate := { status := .active }

namespace CallsService

open CallsRepository

structure InitiateParams where
  initiatorId : Option Uuid
  anonymousId : Option Uuid
  callType : CallType
  isAnonymous : Bool
deriving DecidableEq, Repr

/-- The row that `initiateCall` creates. -/
def initiatedRow (now : Time) (params : InitiateParams) : CallSession :=
  {
    initiatorId := params.initiatorId
    callType := params.callType
    isAnonymous := params.isAnonymous
    startedAt := now
  }

/-- The participant that `initiateCall` adds. -/
def hostRow (now : Time) (id : Uuid) (params : InitiateParams) : CallParticipant :=
  {
    callSessionId := id
    userId := if params.isAnonymous then none else params.initiatorId
    anonymousId :=
      if params.isAnonymous then params.anonymousId <|> params.initiatorId else none
    role := .host
    joinedAt := now
    cameraEnabled := decide (params.callType ≠ .voice)
  }

def initiateCall (now : Time) (db : Database) (id : Uuid) (params : InitiateParams)
    : Served Unit :=
  match createSession db id (initiatedRow now params) with
  | .error failure => ⟨db, [], .error failure⟩
  | .ok created =>
      match addParticipant created (hostRow now id params) with
      | .error failure => ⟨created, [], .error failure⟩
      | .ok db' =>
          ⟨db',
            AuditService.log db' params.initiatorId
              (.callInitiated (.uuid id) params.callType params.isAnonymous),
            .ok ()⟩

structure AcceptParams where
  callId : Text
  userId : Uuid
  anonymousId : Option Uuid := none
  isAnonymous : Bool := false
  callType : CallType
deriving DecidableEq, Repr

/-- The participant that `acceptCall` adds. -/
def guestRow (now : Time) (id : Uuid) (params : AcceptParams) : CallParticipant :=
  {
    callSessionId := id
    userId := if params.isAnonymous then none else some params.userId
    anonymousId :=
      if params.isAnonymous then some (params.anonymousId.getD params.userId) else none
    role := .guest
    joinedAt := now
    cameraEnabled := decide (params.callType = .video)
  }

/-- The result is the session as it has become. -/
def acceptCall (now : Time) (db : Database) (params : AcceptParams)
    : Served (Option CallSession) :=
  match params.callId.cast with
  | none => ⟨db, [], .error .invalidUuid⟩
  | some id =>
      if (db.callSessions.lookup id).isNone then
        ⟨db, [], .error .callNotFound⟩
      else
        let updated := updateStatus now db id .accepted
        match addParticipant updated.1 (guestRow now id params) with
        | .error failure => ⟨updated.1, updated.2, .error failure⟩
        | .ok db' =>
            let userId := if params.isAnonymous then none else some params.userId
            ⟨db',
              updated.2 ++ AuditService.log db' userId (.callAccepted params.callId),
              .ok (db'.callSessions.lookup id)⟩

structure EndParams where
  callId : Text
  userId : Uuid
  anonymousId : Option Uuid := none
  reason : CloseReason
deriving DecidableEq, Repr

def endCall (now : Time) (db : Database) (params : EndParams) : Served Unit :=
  match params.callId.cast with
  | none => ⟨db, [], .error .invalidUuid⟩
  | some id =>
      let updated := updateStatus now db id params.reason.update
      let left := markParticipantLeft now updated.1 id params.userId params.anonymousId
      ⟨left,
        updated.2
          ++ AuditService.log left (some params.userId) (params.reason.event params.callId),
        .ok ()⟩

def toggleCallType (now : Time) (db : Database) (callId : Text) (userId : Uuid)
    (newType : CallType)
    : Served Unit :=
  match callId.cast with
  | none => ⟨db, [], .error .invalidUuid⟩
  | some id =>
      let updated := updateStatus now db id .switched
      let event : AuditEvent :=
        if newType = .video then .callUpgraded callId else .callDowngraded callId
      ⟨updated.1, updated.2 ++ AuditService.log updated.1 (some userId) event, .ok ()⟩

structure MediaParams where
  callId : Text
  userId : Uuid
  anonymousId : Option Uuid
  mic : Option Bool
  camera : Option Bool
deriving DecidableEq, Repr

/-- The rows that `toggleMedia` logs, one for each device. -/
def mediaLog (db : Database) (params : MediaParams) : List Output :=
  (match params.mic with
    | none => []
    | some mic =>
        AuditService.log db (some params.userId) (.mediaMicToggled params.callId mic))
    ++ (match params.camera with
        | none => []
        | some camera =>
            AuditService.log db (some params.userId)
              (.mediaCameraToggled params.callId camera))

/-- Without a device there is no query. -/
def toggleMedia (db : Database) (params : MediaParams) : Served Unit :=
  if params.mic.isNone && params.camera.isNone then
    ⟨db, [], .ok ()⟩
  else
    match params.callId.cast with
    | none => ⟨db, [], .error .invalidUuid⟩
    | some id =>
        let updated :=
          updateParticipantMedia db id params.userId params.mic params.camera
            params.anonymousId
        ⟨updated, mediaLog updated params, .ok ()⟩

end CallsService

/-- `ContactsService.requestContactSave`. The row of an earlier request with the same key is
returned again. -/
def ContactsService.requestContactSave (db : Database) (id : Uuid) (callId : Text)
    (fromUserId : Uuid) (toUserId : Text)
    : Served Uuid :=
  match callId.cast, toUserId.cast with
  | some call, some addressee =>
      let known := db.contactSaveRequests.find?
        (fun row =>
          row.callSessionId = call ∧ row.fromUserId = fromUserId
            ∧ row.toUserId = addressee)
      match known with
      | some row => ⟨db, [], .ok row.id⟩
      | none =>
          if (db.callSessions.lookup call).isSome && db.references (some fromUserId)
              && db.references (some addressee) then
            let requests := db.contactSaveRequests ++ [⟨id, call, fromUserId, addressee⟩]
            let db' := { db with contactSaveRequests := requests }
            ⟨db',
              AuditService.log db' (some fromUserId) (.contactSaveRequested callId toUserId),
              .ok id⟩
          else
            ⟨db, [], .error .foreignKeyViolation⟩
  | _, _ => ⟨db, [], .error .invalidUuid⟩

/-- The commands of one call of `MatchmakingService`, until it has returned. -/
def complete {τ : Type} (step : QueueStore → τ → Option (QueueStore × τ))
    : Nat → QueueStore → τ → QueueStore × τ
  | 0, store, stage => (store, stage)
  | fuel + 1, store, stage =>
      match step store stage with
      | none => (store, stage)
      | some (store', stage') => complete step fuel store' stage'

/-- `MatchmakingService.enqueue` returns after its fourth command. -/
def MatchmakingService.enqueue (now : Time) (redis : QueueStore) (entry : QueueEntry)
    : QueueStore × Nat :=
  match complete
      (fun store =>
        Matchmaking.MatchmakingService.enqueue redis.pushed.length now store entry)
      4 redis .rpush with
  | (store, .returned position) => (store, position)
  | (store, _) => (store, 0)

/-- `MatchmakingService.tryMatch` returns after its third command at the latest. -/
def MatchmakingService.tryMatch (now : Time) (redis : QueueStore)
    : QueueStore × Option (TimedEntry × TimedEntry) :=
  match complete (Matchmaking.MatchmakingService.tryMatch now) 3 redis .eval with
  | (store, .returned (some (first, second))) =>
      (store, some (first.raw.parse, second.raw.parse))
  | (store, _) => (store, none)

/-- `MatchmakingService.dequeue` returns after its fourth command at the latest. -/
def MatchmakingService.dequeue (redis : QueueStore) (socketId : SocketId) : QueueStore :=
  (complete
    (fun store => Matchmaking.MatchmakingService.dequeue store socketId) 4 redis .hget).1

/-- `MatchmakingService.queueDepth`. -/
def MatchmakingService.queueDepth (redis : QueueStore) : Nat := redis.queue.length

namespace SfuService

/-- `createRoom` puts an empty room under the id. -/
def createRoom (gateway : Gateway) (roomId : Text) : Gateway :=
  { gateway with sfuRooms := gateway.sfuRooms.insert roomId ⟨[], []⟩ }

/-- The id of the transport is drawn by the media library. -/
def createWebRtcTransport (gateway : Gateway) (roomId : Text) (peerId : SocketId)
    (transportId : Uuid)
    : Except Failure Gateway :=
  match gateway.sfuRooms.lookup roomId with
  | none => .error (.roomNotFound roomId)
  | some room =>
      let room' : SfuRoom := {
        participants := room.participants.insert peerId
        transports := room.transports ++ [(peerId, transportId)]
      }
      .ok { gateway with sfuRooms := gateway.sfuRooms.insert roomId room' }

/-- `produce` needs a transport of the room with the given id, whoever owns it. -/
def produce (gateway : Gateway) (roomId : Text) (transportId : Uuid)
    : Except Failure Unit :=
  match gateway.sfuRooms.lookup roomId with
  | none => .error (.roomNotFound roomId)
  | some room =>
      if room.transports.any (fun transport => transport.2 = transportId) then
        .ok ()
      else
        .error (.transportNotFound transportId)

/-- A room that has lost its last participant is deleted. -/
def removeParticipant (gateway : Gateway) (roomId : Text) (peerId : SocketId) : Gateway :=
  match gateway.sfuRooms.lookup roomId with
  | none => gateway
  | some room =>
      let room' : SfuRoom := {
        participants := room.participants.erase peerId
        transports := room.transports.filter (fun transport => transport.1 ≠ peerId)
      }
      if room'.participants = [] then
        { gateway with sfuRooms := gateway.sfuRooms.erase roomId }
      else
        { gateway with sfuRooms := gateway.sfuRooms.insert roomId room' }

/-- A transport is a change of its room. -/
theorem createWebRtcTransport_eq {gateway gateway' : Gateway} {roomId : Text}
    {peerId : SocketId} {transportId : Uuid}
    (created : createWebRtcTransport gateway roomId peerId transportId = .ok gateway')
    : gateway' = { gateway with sfuRooms := gateway'.sfuRooms } := by
  unfold createWebRtcTransport at created
  split at created
  · cases created
  · cases created
    rfl

/-- Removing a participant is a change of the rooms of the SFU. -/
theorem removeParticipant_eq (gateway : Gateway) (roomId : Text) (peerId : SocketId)
    : removeParticipant gateway roomId peerId
      = { gateway with sfuRooms := (removeParticipant gateway roomId peerId).sfuRooms } := by
  unfold removeParticipant
  split
  · rfl
  · dsimp only
    split
    · rfl
    · rfl

end SfuService

end NexusComms.Signaling
