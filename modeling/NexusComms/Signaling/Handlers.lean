import NexusComms.Signaling.Services

/-! The handlers of `SignalingGateway`, each run from its event to its end. `now` is the
database's NOW() in microseconds.
-/

namespace NexusComms.Signaling

open Matchmaking

/-- What the handlers take from their surroundings: the string functions of the language,
and whether the media library has been initialised. -/
structure Runtime where
  trim : String → String
  toLowerCase : String → String
  sfuAvailable : Bool

/-- `Date.now()`, in milliseconds. -/
def dateNow (now : Time) : Time := now / 1000

/-- `30_000` milliseconds. -/
def missedCallTimeout : Time := 30000000

namespace Gateway

/-- `expectedTarget && expectedTarget !== meta.userId`. A call without an entry bars nobody. -/
def bars (gateway : Gateway) (callId : Text) (userId : Uuid) : Bool :=
  match gateway.pendingCallTargets.lookup callId with
  | none => false
  | some expectedTarget => expectedTarget.truthy && decide (expectedTarget ≠ .uuid userId)

/-- `clearTimeout`, and the timer's entry is deleted. -/
def cancelTimer (gateway : Gateway) (callId : Text) : Gateway :=
  { gateway with missedCallTimers := gateway.missedCallTimers.erase callId }

/-- `this.pendingCallTargets.delete`. -/
def deletePending (gateway : Gateway) (callId : Text) : Gateway :=
  { gateway with pendingCallTargets := gateway.pendingCallTargets.erase callId }

/-- `meta.callId = …`. -/
def setCallId (gateway : Gateway) (socketId : SocketId) (callId : Option Text) : Gateway :=
  gateway.updateMeta socketId (fun known => { known with callId := callId })

/-- Emits one message to every tab of a user. -/
def emitToTabs (gateway : Gateway) (userId : Text) (message : Message) : List Output :=
  ((gateway.userSockets.lookup userId).getD []).map
    (fun socketId => gateway.emit (.room (.socket socketId)) message)

end Gateway

structure InitiateData where
  targetEmail : Option String
  targetUserId : Option Text
  callType : CallType
deriving DecidableEq, Repr

structure AcceptData where
  callId : Text
  callType : CallType
deriving DecidableEq, Repr

structure MediaData where
  callId : Text
  mic : Option Bool
  camera : Option Bool
deriving DecidableEq, Repr

structure SwitchData where
  callId : Text
  newType : CallType
deriving DecidableEq, Repr

structure ProduceData where
  roomId : Text
  transportId : Uuid
deriving DecidableEq, Repr

structure ContactData where
  callId : Text
  toUserId : Text
deriving DecidableEq, Repr

namespace SignalingGateway

/-- Users count once, however many sockets they have. -/
def countOnlineUsers (gateway : Gateway) : Nat :=
  (gateway.sockets.entries.map (fun entry => entry.2.identity)).dedup.length

def broadcastQueueStatus (gateway : Gateway) : Output :=
  gateway.emit .everyone
    (.queueStatus (countOnlineUsers gateway)
      (MatchmakingService.queueDepth gateway.redis))

/-- `userId` is the subject of a valid token; without one the socket is anonymous. The
transport has put the socket into its own room. -/
def handleConnection (gateway : Gateway) (socketId : SocketId) (userId : Option Uuid)
    (anonymousId : Uuid)
    : Outcome :=
  let userSockets := match userId with
    | none => gateway.userSockets
    | some id =>
        let existing := (gateway.userSockets.lookup (.uuid id)).getD []
        gateway.userSockets.insert (.uuid id) (existing ++ [socketId])
  let connected : Gateway := {
    gateway with
    userSockets := userSockets
    sockets :=
      gateway.sockets.insert socketId { userId := userId, anonymousId := anonymousId }
    rooms := gateway.rooms.insert (.socket socketId, socketId)
  }
  ⟨connected, .ok .void, [broadcastQueueStatus connected]⟩

/-- The end of `handleDisconnect`: the SFU and the maps forget the socket. -/
def forget (gateway : Gateway) (socketId : SocketId) (known : SocketMeta) : Outcome :=
  let removed := match known.roomId.filter Text.truthy with
    | none => gateway
    | some roomId => SfuService.removeParticipant gateway roomId socketId
  let left := match known.roomId.filter Text.truthy with
    | none => []
    | some roomId => [gateway.emit (.room roomId (some socketId)) (.participantLeft socketId)]
  let userSockets := match known.userId with
    | none => removed.userSockets
    | some userId =>
        match removed.userSockets.lookup (.uuid userId) with
        | none => removed.userSockets
        | some tabs =>
            if tabs.erase socketId = [] then
              removed.userSockets.erase (.uuid userId)
            else
              removed.userSockets.insert (.uuid userId) (tabs.erase socketId)
  let forgotten : Gateway := {
    removed with
    userSockets := userSockets
    sockets := removed.sockets.erase socketId
  }
  ⟨forgotten, .ok .void, left ++ [broadcastQueueStatus forgotten]⟩

/-- `handleDisconnect` after the matchmaking queue. The room is told before the socket is
forgotten; a failure of `endCall` leaves the rest undone. -/
def endOrForget (now : Time) (gateway : Gateway) (socketId : SocketId) (known : SocketMeta)
    : Outcome :=
  match known.callId.filter Text.truthy with
  | none => forget gateway socketId known
  | some callId =>
      let served := CallsService.endCall now gateway.db {
        callId := callId
        userId := known.identity
        anonymousId := known.anonymous
        reason := .ended
      }
      let gateway' := { gateway with db := served.db }
      match served.result with
      | .error failure => ⟨gateway', .error failure, served.outputs⟩
      | .ok () =>
          let forgotten := forget (gateway'.cancelTimer callId) socketId known
          {
            forgotten with
            outputs :=
              served.outputs
                ++ gateway'.emit (.room callId) (.callEnded callId .peerDisconnected)
                  :: forgotten.outputs
          }

/-- The transport has taken the socket out of all rooms before the handler runs. -/
def handleDisconnect (now : Time) (gateway : Gateway) (socketId : SocketId) : Outcome :=
  let gone := {
    gateway with rooms := gateway.rooms.filter (fun entry => entry.2 ≠ socketId)
  }
  match gone.sockets.lookup socketId with
  | none => ⟨gone, .ok .void, []⟩
  | some known =>
      let dequeued := { gone with redis := MatchmakingService.dequeue gone.redis socketId }
      endOrForget now dequeued socketId known

/-- Whom `call:initiate` calls. An empty string is no target. -/
def resolveTarget (runtime : Runtime) (db : Database) (data : InitiateData)
    : Except Failure Text :=
  match data.targetEmail.filter (fun email => email ≠ "") with
  | some email =>
      match UsersService.findByEmail db (runtime.toLowerCase (runtime.trim email)) with
      | none => .error .userNotFound
      | some user => .ok (.uuid user.id)
  | none =>
      match data.targetUserId.filter Text.truthy with
      | none => .error .targetRequired
      | some target => .ok target

/-- The id of the new session is drawn by the database. -/
def onCallInitiate (runtime : Runtime) (now : Time) (gateway : Gateway)
    (socketId : SocketId) (data : InitiateData) (callId : Uuid)
    : Outcome :=
  match gateway.sockets.lookup socketId with
  | none => .refused gateway .socketNotInitialised
  | some known =>
      match resolveTarget runtime gateway.db data with
      | .error failure => .refused gateway failure
      | .ok target =>
          let served := CallsService.initiateCall now gateway.db callId {
            initiatorId := some known.identity
            anonymousId := known.anonymous
            callType := data.callType
            isAnonymous := known.userId.isNone
          }
          let gateway' := { gateway with db := served.db }
          match served.result with
          | .error failure => ⟨gateway', .error failure, served.outputs⟩
          | .ok () =>
              let joined := (gateway'.setCallId socketId (some (.uuid callId))).join
                (.uuid callId) socketId
              let ringing : Gateway := {
                joined with
                pendingCallTargets := joined.pendingCallTargets.insert (.uuid callId) target
                missedCallTimers :=
                  joined.missedCallTimers.insert (.uuid callId)
                    ⟨socketId, known.userId, known.anonymousId, now + missedCallTimeout⟩
              }
              let incoming : Message :=
                .callIncoming callId known.userId known.userId data.callType
              ⟨ringing,
                .ok (.callId callId),
                served.outputs ++ joined.emitToTabs target incoming⟩

/-- The callback of the timeout that `call:initiate` has set. -/
def missedCall (now : Time) (gateway : Gateway) (callId : Uuid) (timer : MissedCallTimer)
    : Outcome :=
  let cleared := (gateway.cancelTimer (.uuid callId)).deletePending (.uuid callId)
  match (cleared.db.callSessions.lookup callId).map CallSession.status with
  | some .initiated =>
      let served := CallsService.endCall now cleared.db {
        callId := .uuid callId
        userId := timer.userId.getD timer.anonymousId
        anonymousId := if timer.userId.isSome then none else some timer.anonymousId
        reason := .missed
      }
      let gateway' := { cleared with db := served.db }
      match served.result with
      | .error failure => ⟨gateway', .error failure, served.outputs⟩
      | .ok () =>
          ⟨gateway',
            .ok .void,
            served.outputs ++ [gateway'.emit (.client timer.socketId) (.callMissed callId)]⟩
  | _ => ⟨cleared, .ok .void, []⟩

def onCallAccept (now : Time) (gateway : Gateway) (socketId : SocketId) (data : AcceptData)
    : Outcome :=
  match gateway.sockets.lookup socketId with
  | none => .refused gateway .socketNotInitialised
  | some known =>
      match known.userId with
      | none => .refused gateway .authenticationRequired
      | some userId =>
          if gateway.bars data.callId userId then
            .refused gateway .notIntendedRecipient
          else
            let served := CallsService.acceptCall now gateway.db {
              callId := data.callId
              userId := userId
              callType := data.callType
            }
            let gateway' := { gateway with db := served.db }
            match served.result with
            | .error failure => ⟨gateway', .error failure, served.outputs⟩
            | .ok session =>
                let joined := (gateway'.setCallId socketId (some data.callId)).join
                  data.callId socketId
                let answered := (joined.cancelTimer data.callId).deletePending data.callId
                let accepted : Message :=
                  .callAccepted data.callId userId (session.bind CallSession.initiatorId)
                ⟨answered,
                  .ok .ok,
                  served.outputs ++ [answered.emit (.room data.callId) accepted]⟩

def onCallReject (now : Time) (gateway : Gateway) (socketId : SocketId) (callId : Text)
    : Outcome :=
  match gateway.sockets.lookup socketId with
  | none => .refused gateway .socketNotInitialised
  | some known =>
      match known.userId with
      | none => .refused gateway .authenticationRequired
      | some userId =>
          let served := CallsService.endCall now gateway.db {
            callId := callId
            userId := userId
            reason := .rejected
          }
          let gateway' := { gateway with db := served.db }
          match served.result with
          | .error failure => ⟨gateway', .error failure, served.outputs⟩
          | .ok () =>
              let rejected := (gateway'.cancelTimer callId).deletePending callId
              ⟨rejected,
                .ok .ok,
                served.outputs ++ [rejected.emit (.room callId) (.callRejected callId)]⟩

/-- The room is told before the sender leaves it. -/
def onCallEnd (now : Time) (gateway : Gateway) (socketId : SocketId) (callId : Text)
    : Outcome :=
  match gateway.sockets.lookup socketId with
  | none => .refused gateway .socketNotInitialised
  | some known =>
      let served := CallsService.endCall now gateway.db {
        callId := callId
        userId := known.identity
        anonymousId := known.anonymous
        reason := .ended
      }
      let gateway' := { gateway with db := served.db }
      match served.result with
      | .error failure => ⟨gateway', .error failure, served.outputs⟩
      | .ok () =>
          let ended := (gateway'.cancelTimer callId).deletePending callId
          ⟨(ended.leave callId socketId).setCallId socketId none,
            .ok .ok,
            served.outputs ++ [ended.emit (.room callId) (.callEnded callId .ended)]⟩

/-- `socket.to(data.callId).emit(…)`, without any check. -/
def relay (gateway : Gateway) (socketId : SocketId) (callId : Text) (message : Message)
    : Outcome :=
  ⟨gateway, .ok .void, [gateway.emit (.room callId (some socketId)) message]⟩

def onOffer (gateway : Gateway) (socketId : SocketId) (callId : Text) (sdp : String)
    : Outcome :=
  relay gateway socketId callId (.signalOffer callId sdp)

def onAnswer (gateway : Gateway) (socketId : SocketId) (callId : Text) (sdp : String)
    : Outcome :=
  relay gateway socketId callId (.signalAnswer callId sdp)

def onIce (gateway : Gateway) (socketId : SocketId) (callId : Text) (candidate : String)
    : Outcome :=
  relay gateway socketId callId (.signalIce callId candidate)

def onMediaToggle (gateway : Gateway) (socketId : SocketId) (data : MediaData) : Outcome :=
  match gateway.sockets.lookup socketId with
  | none => .refused gateway .socketNotInitialised
  | some known =>
      let served := CallsService.toggleMedia gateway.db {
        callId := data.callId
        userId := known.identity
        anonymousId := known.anonymous
        mic := data.mic
        camera := data.camera
      }
      let gateway' := { gateway with db := served.db }
      match served.result with
      | .error failure => ⟨gateway', .error failure, served.outputs⟩
      | .ok () =>
          let message : Message :=
            .participantMedia socketId known.userId data.mic data.camera
          ⟨gateway',
            .ok .ok,
            served.outputs ++ [gateway'.emit (.room data.callId (some socketId)) message]⟩

def onSwitchType (now : Time) (gateway : Gateway) (socketId : SocketId) (data : SwitchData)
    : Outcome :=
  match gateway.sockets.lookup socketId with
  | none => .refused gateway .socketNotInitialised
  | some known =>
      let served :=
        CallsService.toggleCallType now gateway.db data.callId known.identity data.newType
      let gateway' := { gateway with db := served.db }
      match served.result with
      | .error failure => ⟨gateway', .error failure, served.outputs⟩
      | .ok () =>
          let message : Message := .callTypeChanged data.callId data.newType
          ⟨gateway', .ok .ok, served.outputs ++ [gateway'.emit (.room data.callId) message]⟩

/-- `tryPairUsers` for a pair that `tryMatch` has returned. -/
def pairUsers (now : Time) (gateway : Gateway) (a b : TimedEntry) (callId : Uuid)
    : Outcome :=
  let callType := if a.preferredType = b.preferredType then a.preferredType else .video
  let initiated := CallsService.initiateCall now gateway.db callId {
    initiatorId := a.userId
    anonymousId := if a.userId.isSome then none else some a.anonymousId
    callType := callType
    isAnonymous := true
  }
  match initiated.result with
  | .error failure => ⟨{ gateway with db := initiated.db }, .error failure, initiated.outputs⟩
  | .ok () =>
      let accepted := CallsService.acceptCall now initiated.db {
        callId := .uuid callId
        userId := b.userId.getD b.anonymousId
        anonymousId := if b.userId.isSome then none else some b.anonymousId
        isAnonymous := b.userId.isNone
        callType := callType
      }
      let gateway' := { gateway with db := accepted.db }
      let written := initiated.outputs ++ accepted.outputs
      match accepted.result with
      | .error failure => ⟨gateway', .error failure, written⟩
      | .ok _ =>
          let joined :=
            (gateway'.socketsJoin (.socket a.socketId) (.uuid callId)).socketsJoin
              (.socket b.socketId) (.uuid callId)
          let paired :=
            (joined.setCallId a.socketId (some (.uuid callId))).setCallId b.socketId
              (some (.uuid callId))
          let bothRegistered := a.userId.isSome && b.userId.isSome
          ⟨paired,
            .ok .void,
            written ++ [
              paired.emit (.room (.socket a.socketId))
                (.matchFound callId callType true bothRegistered b.userId),
              paired.emit (.room (.socket b.socketId))
                (.matchFound callId callType false bothRegistered a.userId)
            ]⟩

def tryPairUsers (now : Time) (gateway : Gateway) (callId : Uuid) : Outcome :=
  let matched := MatchmakingService.tryMatch (dateNow now) gateway.redis
  let gateway' := { gateway with redis := matched.1 }
  match matched.2 with
  | none => ⟨gateway', .ok .void, []⟩
  | some (a, b) => pairUsers now gateway' a b callId

/-- `callId` is the id that the database draws when two users are paired. -/
def onJoinQueue (now : Time) (gateway : Gateway) (socketId : SocketId)
    (preferredType : Option CallType) (callId : Uuid)
    : Outcome :=
  match gateway.sockets.lookup socketId with
  | none => .refused gateway .socketNotInitialised
  | some known =>
      let enqueued := MatchmakingService.enqueue (dateNow now) gateway.redis {
        userId := known.userId
        anonymousId := known.anonymousId
        socketId := socketId
        preferredType := preferredType.getD .video
        isAnonymous := known.userId.isNone
      }
      let waiting := { gateway with redis := enqueued.1 }
      let onlineUsers := countOnlineUsers waiting
      let searchingUsers := MatchmakingService.queueDepth waiting.redis
      let queued :=
        waiting.emit (.client socketId)
          (.matchQueued enqueued.2 onlineUsers searchingUsers)
      let paired := tryPairUsers now waiting callId
      match paired.reply with
      | .error failure => ⟨paired.gateway, .error failure, queued :: paired.outputs⟩
      | .ok _ =>
          ⟨paired.gateway,
            .ok (.queued onlineUsers searchingUsers),
            queued :: paired.outputs ++ [broadcastQueueStatus paired.gateway]⟩

def onLeaveQueue (gateway : Gateway) (socketId : SocketId) : Outcome :=
  let gateway' := {
    gateway with redis := MatchmakingService.dequeue gateway.redis socketId
  }
  ⟨gateway', .ok .ok, [broadcastQueueStatus gateway']⟩

/-- Here the online users are the connected sockets. -/
def onQueueStatusRequest (gateway : Gateway) (socketId : SocketId) : Outcome :=
  let onlineUsers := gateway.sockets.entries.length
  let searchingUsers := MatchmakingService.queueDepth gateway.redis
  ⟨gateway,
    .ok (.queueStatus onlineUsers searchingUsers),
    [gateway.emit (.client socketId) (.queueStatus onlineUsers searchingUsers)]⟩

def onSfuJoin (runtime : Runtime) (gateway : Gateway) (socketId : SocketId) (roomId : Text)
    : Outcome :=
  if runtime.sfuAvailable = false then
    .refused gateway .groupCallsUnavailable
  else
    match gateway.sockets.lookup socketId with
    | none => .refused gateway .socketNotInitialised
    | some known =>
        let isNew := (gateway.sfuRooms.lookup roomId).isNone
        let opened := if isNew then SfuService.createRoom gateway roomId else gateway
        let created :=
          if isNew then AuditService.log gateway.db known.userId (.roomCreated roomId) else []
        let joined :=
          (opened.updateMeta socketId (fun found => { found with roomId := roomId })).join
            roomId socketId
        ⟨joined,
          .ok .routerRtpCapabilities,
          created
            ++ joined.emit (.room roomId (some socketId))
                (.participantJoined socketId known.userId)
              :: AuditService.log joined.db known.userId (.participantJoined roomId)⟩

def onCreateTransport (gateway : Gateway) (socketId : SocketId) (roomId : Text)
    (transportId : Uuid)
    : Outcome :=
  match SfuService.createWebRtcTransport gateway roomId socketId transportId with
  | .error failure => .refused gateway failure
  | .ok gateway' => ⟨gateway', .ok (.transport transportId), []⟩

def onProduce (gateway : Gateway) (socketId : SocketId) (data : ProduceData)
    (producerId : Uuid)
    : Outcome :=
  match SfuService.produce gateway data.roomId data.transportId with
  | .error failure => .refused gateway failure
  | .ok () =>
      ⟨gateway,
        .ok (.producerId producerId),
        [gateway.emit (.room data.roomId (some socketId)) (.newProducer producerId socketId)]⟩

def onRequestContactSave (gateway : Gateway) (socketId : SocketId) (data : ContactData)
    (requestId : Uuid)
    : Outcome :=
  match gateway.sockets.lookup socketId with
  | none => .refused gateway .socketNotInitialised
  | some known =>
      match known.userId with
      | none => .refused gateway .mustBeRegistered
      | some userId =>
          let served := ContactsService.requestContactSave gateway.db requestId data.callId
            userId data.toUserId
          let gateway' := { gateway with db := served.db }
          match served.result with
          | .error failure => ⟨gateway', .error failure, served.outputs⟩
          | .ok id =>
              let message : Message := .contactSaveRequest id data.callId userId
              ⟨gateway',
                .ok (.requestId id),
                served.outputs ++ gateway'.emitToTabs data.toUserId message⟩

end SignalingGateway

end NexusComms.Signaling
