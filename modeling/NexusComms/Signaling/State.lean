import NexusComms.Matchmaking.Queue
import NexusComms.Storage.Maps

/-! What the signaling gateway reads and writes: its own maps, the Socket.IO rooms, the rows of
the calls in PostgreSQL, the matchmaking queue and the rooms of the SFU.
-/

namespace NexusComms.Signaling

open Matchmaking

/-- A string where an id is expected, by what it names: a UUID as the database prints it,
another spelling of one (upper case, braces), a socket id, anything else, or the empty string.
Client data, room names and map keys are of this type.
-/
inductive Text where
  | uuid (id : Uuid)
  | variant (id : Uuid) (spelling : Nat)
  | socket (socketId : SocketId)
  | other (spelling : Nat)
  | empty
deriving DecidableEq, Repr

namespace Text

/-- The UUID that PostgreSQL reads from a string; `none` makes the query fail. -/
def cast : Text → Option Uuid
  | uuid id => some id
  | variant id _ => some id
  | _ => none

/-- The empty string is the only falsy one. -/
def truthy (text : Text) : Bool := text ≠ empty

@[simp]
theorem cast_uuid (id : Uuid) : (uuid id).cast = some id := rfl

end Text

inductive CallStatus where
  | initiated
  | active
  | ended
  | missed
  | rejected
deriving DecidableEq, Repr

/-- The statuses of a call that is over. -/
def CallStatus.closed : CallStatus → Bool
  | ended | missed | rejected => true
  | initiated | active => false

/-- What `updateStatus` sets: the status, and NOW() in the columns of its `extra`. -/
structure StatusUpdate where
  status : CallStatus
  answeredAt : Bool := false
  endedAt : Bool := false
deriving DecidableEq, Repr

/-- A row of `call_sessions`, without its key. -/
structure CallSession where
  initiatorId : Option Uuid
  callType : CallType
  status : CallStatus := .initiated
  isAnonymous : Bool
  startedAt : Time
  answeredAt : Option Time := none
  endedAt : Option Time := none
deriving DecidableEq, Repr

namespace CallSession

/-- One UPDATE of a row. -/
def write (now : Time) (update : StatusUpdate) (row : CallSession) : CallSession :=
  {
    row with
    status := update.status
    answeredAt := if update.answeredAt then some now else row.answeredAt
    endedAt := if update.endedAt then some now else row.endedAt
  }

/-- `EXTRACT(EPOCH FROM (ended_at - answered_at))::INTEGER`, with times in microseconds. The
cast rounds half away from zero. It would fail from 2147483648 seconds on, that is, for calls
of more than 68 years.
-/
def durationSeconds (row : CallSession) : Option Int :=
  match row.answeredAt, row.endedAt with
  | some answered, some ended =>
      let elapsed : Int := (ended : Int) - (answered : Int)
      some (elapsed.sign * ((elapsed.natAbs + 500000) / 1000000 : Nat))
  | _, _ => none

end CallSession

inductive ParticipantRole where
  | host
  | guest
deriving DecidableEq, Repr

/-- A row of `call_participants`. -/
structure CallParticipant where
  callSessionId : Uuid
  userId : Option Uuid
  anonymousId : Option Uuid
  role : ParticipantRole
  joinedAt : Time
  leftAt : Option Time := none
  micEnabled : Bool := true
  cameraEnabled : Bool
deriving DecidableEq, Repr

/-- A row of `contact_save_requests`. -/
structure ContactSaveRequest where
  id : Uuid
  callSessionId : Uuid
  fromUserId : Uuid
  toUserId : Uuid
deriving DecidableEq, Repr

/-- A row of `users`, as far as calls need it. -/
structure User where
  id : Uuid
  email : String
deriving DecidableEq, Repr

structure Database where
  users : List User
  callSessions : AList (fun _ : Uuid => CallSession)
  callParticipants : List CallParticipant
  contactSaveRequests : List ContactSaveRequest

namespace Database

/-- `users.id` is referenced by this value; NULL satisfies every foreign key. -/
def references (db : Database) (userId : Option Uuid) : Bool :=
  match userId with
  | none => true
  | some id => db.users.any (fun user => user.id = id)

/-- The row that a string names. -/
def sessionNamed (db : Database) (callId : Text) : Option CallSession :=
  callId.cast.bind db.callSessions.lookup

/-- The guest rows of a call. -/
def guests (db : Database) (callId : Uuid) : List CallParticipant :=
  db.callParticipants.filter (fun row => row.callSessionId = callId ∧ row.role = .guest)

end Database

/-- The events of `audit_logs` that calls write, with their payloads. -/
inductive AuditEvent where
  | callInitiated (callId : Text) (callType : CallType) (isAnonymous : Bool)
  | callAccepted (callId : Text)
  | callEnded (callId : Text)
  | callRejected (callId : Text)
  | callMissed (callId : Text)
  | callUpgraded (callId : Text)
  | callDowngraded (callId : Text)
  | mediaMicToggled (callId : Text) (mic : Bool)
  | mediaCameraToggled (callId : Text) (camera : Bool)
  | roomCreated (roomId : Text)
  | participantJoined (roomId : Text)
  | contactSaveRequested (callSessionId toUserId : Text)
deriving DecidableEq, Repr

structure AuditRow where
  userId : Option Uuid
  event : AuditEvent
deriving DecidableEq, Repr

/-- `SocketMeta`. -/
structure SocketMeta where
  userId : Option Uuid
  anonymousId : Uuid
  callId : Option Text := none
  roomId : Option Text := none
deriving DecidableEq, Repr

/-- `meta.userId ?? meta.anonymousId`. -/
def SocketMeta.identity (known : SocketMeta) : Uuid := known.userId.getD known.anonymousId

/-- `meta.userId ? undefined : meta.anonymousId`. -/
def SocketMeta.anonymous (known : SocketMeta) : Option Uuid :=
  if known.userId.isSome then none else some known.anonymousId

/-- A timeout set by `call:initiate`, with what its callback has captured. -/
structure MissedCallTimer where
  socketId : SocketId
  userId : Option Uuid
  anonymousId : Uuid
  due : Time
deriving DecidableEq, Repr

/-- A room of the SFU: its peers, and its transports with their owners. -/
structure SfuRoom where
  participants : List SocketId
  transports : List (SocketId × Uuid)
deriving DecidableEq, Repr

inductive EndReason where
  | ended
  | peerDisconnected
deriving DecidableEq, Repr

/-- The events that clients receive, with their payloads. -/
inductive Message where
  | queueStatus (onlineUsers searchingUsers : Nat)
  | callIncoming (callId : Uuid) (callerId partnerUserId : Option Uuid) (callType : CallType)
  | callMissed (callId : Uuid)
  | callAccepted (callId : Text) (acceptorId : Uuid) (initiatorId : Option Uuid)
  | callRejected (callId : Text)
  | callEnded (callId : Text) (reason : EndReason)
  | signalOffer (callId : Text) (sdp : String)
  | signalAnswer (callId : Text) (sdp : String)
  | signalIce (callId : Text) (candidate : String)
  | participantMedia (socketId : SocketId) (userId : Option Uuid) (mic camera : Option Bool)
  | callTypeChanged (callId : Text) (newType : CallType)
  | matchQueued (position onlineUsers searchingUsers : Nat)
  | matchFound (callId : Uuid) (callType : CallType) (isInitiator bothRegistered : Bool)
    (partnerUserId : Option Uuid)
  | participantLeft (socketId : SocketId)
  | participantJoined (socketId : SocketId) (userId : Option Uuid)
  | newProducer (producerId : Uuid) (socketId : SocketId)
  | contactSaveRequest (requestId : Uuid) (callId : Text) (fromUserId : Uuid)
deriving DecidableEq, Repr

/-- Whom an emission addresses: a room, perhaps without its sender, one client, or all. -/
inductive Target where
  | room (name : Text) (sender : Option SocketId := none)
  | client (socketId : SocketId)
  | everyone
deriving DecidableEq, Repr

/-- Who is in which room. A connected socket is in the room of its own id. -/
abbrev Rooms := List (Text × SocketId)

/-- Membership in `Rooms` is decided by comparing the entries. -/
instance : LawfulBEq (Text × SocketId) := inferInstance

/-- The sockets in a room. -/
def Rooms.members (rooms : Rooms) (room : Text) : List SocketId :=
  rooms.filterMap (fun entry => if entry.1 = room then some entry.2 else none)

theorem mem_members {rooms : Rooms} {room : Text} {socketId : SocketId}
    : socketId ∈ rooms.members room ↔ (room, socketId) ∈ rooms := by
  unfold Rooms.members
  rw [List.mem_filterMap]
  constructor
  · rintro ⟨⟨name, member⟩, entry, same⟩
    dsimp only at same
    split at same
    · next here =>
        cases same
        exact here ▸ entry
    · cases same
  · intro entry
    exact ⟨(room, socketId), entry, if_pos rfl⟩

/-- An emission, with the sockets it has reached and the rooms at that moment. -/
structure Emission where
  target : Target
  message : Message
  receivers : List SocketId
  rooms : Rooms
deriving DecidableEq, Repr

/-- What a handler does besides changing the gateway's state: it emits, it adds a row to
`audit_logs`, and it updates a row of `call_sessions`. -/
inductive Output where
  | emit (emission : Emission)
  | audit (row : AuditRow)
  | update (callId : Uuid) (update : StatusUpdate)
deriving DecidableEq, Repr

/-- The state of the gateway and of the stores behind it. -/
structure Gateway where
  sockets : AList (fun _ : SocketId => SocketMeta)
  userSockets : AList (fun _ : Text => List SocketId)
  pendingCallTargets : AList (fun _ : Text => Text)
  missedCallTimers : AList (fun _ : Text => MissedCallTimer)
  rooms : Rooms
  redis : QueueStore
  db : Database
  sfuRooms : AList (fun _ : Text => SfuRoom)

namespace Gateway

/-- Nobody is connected, and all stores are empty. -/
def empty : Gateway := ⟨∅, ∅, ∅, ∅, [], .empty, ⟨[], ∅, [], []⟩, ∅⟩

/-- A socket is in its own room as long as it is connected. -/
def connected (gateway : Gateway) (socketId : SocketId) : Bool :=
  (Text.socket socketId, socketId) ∈ gateway.rooms

theorem connected_iff {gateway : Gateway} {socketId : SocketId}
    : gateway.connected socketId = true ↔ (Text.socket socketId, socketId) ∈ gateway.rooms :=
  decide_eq_true_iff

/-- `socket.join`. -/
def join (gateway : Gateway) (room : Text) (socketId : SocketId) : Gateway :=
  { gateway with rooms := gateway.rooms.insert (room, socketId) }

/-- `server.in(from).socketsJoin(room)`: all sockets of one room enter another. -/
def socketsJoin (gateway : Gateway) (source room : Text) : Gateway :=
  (gateway.rooms.members source).foldl (fun joined socketId => joined.join room socketId)
    gateway

/-- `socket.leave`. -/
def leave (gateway : Gateway) (room : Text) (socketId : SocketId) : Gateway :=
  { gateway with rooms := gateway.rooms.filter (fun entry => entry ≠ (room, socketId)) }

/-- The sockets that an emission reaches. -/
def receivers (gateway : Gateway) : Target → List SocketId
  | .room name sender =>
      (gateway.rooms.members name).filter (fun socketId => some socketId ≠ sender)
  | .client socketId => if gateway.connected socketId then [socketId] else []
  | .everyone =>
      gateway.rooms.filterMap
        (fun entry => if entry.1 = .socket entry.2 then some entry.2 else none)

/-- `emit`. -/
def emit (gateway : Gateway) (target : Target) (message : Message) : Output :=
  .emit ⟨target, message, gateway.receivers target, gateway.rooms⟩

/-- Changes the meta of a socket that is known. -/
def updateMeta (gateway : Gateway) (socketId : SocketId) (change : SocketMeta → SocketMeta)
    : Gateway :=
  match gateway.sockets.lookup socketId with
  | none => gateway
  | some known =>
      { gateway with sockets := gateway.sockets.replace socketId (change known) }

/-- Entering a room is a change of the rooms. -/
theorem join_eq (gateway : Gateway) (room : Text) (socketId : SocketId)
    : gateway.join room socketId
      = { gateway with rooms := (gateway.join room socketId).rooms } :=
  rfl

/-- Entering a room together is a change of the rooms, by induction on who enters. -/
theorem socketsJoin_eq (gateway : Gateway) (source room : Text)
    : gateway.socketsJoin source room
      = { gateway with rooms := (gateway.socketsJoin source room).rooms } := by
  unfold socketsJoin
  generalize gateway.rooms.members source = entering
  induction entering generalizing gateway with
  | nil => rfl
  | cons socketId rest ih => exact ih (gateway.join room socketId)

/-- Changing a meta is a change of the metas. -/
theorem updateMeta_eq (gateway : Gateway) (socketId : SocketId)
    (change : SocketMeta → SocketMeta)
    : gateway.updateMeta socketId change
      = { gateway with sockets := (gateway.updateMeta socketId change).sockets } := by
  unfold updateMeta
  split
  · rfl
  · rfl

/-- A change of a meta touches one socket. -/
theorem lookup_updateMeta (gateway : Gateway) (socketId other : SocketId)
    (change : SocketMeta → SocketMeta)
    : (gateway.updateMeta socketId change).sockets.lookup other
      = if other = socketId then (gateway.sockets.lookup other).map change
        else gateway.sockets.lookup other := by
  unfold updateMeta
  by_cases same : other = socketId
  · subst same
    split
    · next absent => simp [absent]
    · next known found => simp [found, Storage.lookup_replace]
  · split
    · simp [same]
    · simp [same, Storage.lookup_replace]

end Gateway

/-- Why a handler fails. The first group is thrown by the gateway and its services, the
second by the database. -/
inductive Failure where
  | socketNotInitialised
  | userNotFound
  | targetRequired
  | authenticationRequired
  | notIntendedRecipient
  | callNotFound
  | groupCallsUnavailable
  | roomNotFound (roomId : Text)
  | transportNotFound (transportId : Uuid)
  | mustBeRegistered
  | saveRequestConflict
  | invalidUuid
  | foreignKeyViolation
  | uniqueViolation
deriving DecidableEq, Repr

/-- The texts that the source gives to its errors. Those of the SFU contain the id that is
missing, and those of the database are its own. -/
def Failure.message : Failure → Option String
  | socketNotInitialised => "Socket not initialised"
  | userNotFound => "User not found with that email address"
  | targetRequired => "targetUserId or targetEmail must be provided"
  | authenticationRequired => "Authentication required"
  | notIntendedRecipient => "You are not the intended recipient of this call"
  | callNotFound => "Call not found"
  | groupCallsUnavailable => "Group calls not available — MediaSoup not initialised"
  | mustBeRegistered => "Must be registered to save contacts"
  | saveRequestConflict => "Contact save request could not be created."
  | roomNotFound _ | transportNotFound _ => none
  | invalidUuid | foreignKeyViolation | uniqueViolation => none

/-- What a handler returns to its client. -/
inductive Reply where
  | void
  | ok
  | callId (callId : Uuid)
  | queued (onlineUsers searchingUsers : Nat)
  | queueStatus (onlineUsers searchingUsers : Nat)
  | routerRtpCapabilities
  | transport (transportId : Uuid)
  | producerId (producerId : Uuid)
  | requestId (requestId : Uuid)
deriving DecidableEq, Repr

/-- How a handler has run. What it has changed before a failure stays changed. -/
structure Outcome where
  gateway : Gateway
  reply : Except Failure Reply
  outputs : List Output

/-- A failure before anything has happened. -/
def Outcome.refused (gateway : Gateway) (failure : Failure) : Outcome :=
  ⟨gateway, .error failure, []⟩

end NexusComms.Signaling
