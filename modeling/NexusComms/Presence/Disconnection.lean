import NexusComms.Presence.Index
import NexusComms.Signaling.PairScript

/-! `handleDisconnect` as one script, any of whose commands may fail: those of Redis, the queries
of `endCall`, and the removal from a room of the SFU. A command that fails may have taken effect
or not, and nothing catches what it throws. The audit log catches its own errors.
-/

namespace NexusComms.Presence.Scripts

open Concurrency Signaling Signaling.CallsService
open Matchmaking (QueueStore DequeueStage Serialized)
open Signaling.Scripts (Progress PairError settled)

/-- The commands that a disconnection awaits: those of `dequeue`, of `endCall`, of
`removeParticipant` and of `queueDepth`. -/
inductive Command where
  | hget
  | lrem
  | hdel
  | updateStatus
  | markParticipantLeft
  | removeParticipant
  | llen
deriving DecidableEq, Repr

abbrev DisconnectScript := Script (Command × Script.Moment) Progress PairError

variable {α : Type}

/-- A command of Redis. -/
def redis (command : Command) (effect : QueueStore → QueueStore × α) : DisconnectScript α :=
  Script.awaited command .unavailable
    (fun progress =>
      let (store, value) := effect progress.gateway.redis
      (.ok value, { progress with gateway := { progress.gateway with redis := store } }))

/-- An UPDATE, which the database does not refuse. -/
def update (command : Command) (effect : Database → Database × List Output)
    : DisconnectScript Unit :=
  Script.awaited command .unavailable
    (fun progress =>
      let (db, outputs) := effect progress.gateway.db
      (.ok (),
        {
          gateway := { progress.gateway with db := db }
          outputs := progress.outputs ++ outputs
        }))

/-- What has been said besides. -/
def say (outputs : Gateway → List Output) (progress : Progress) : Progress :=
  { progress with outputs := progress.outputs ++ outputs progress.gateway }

/-- A change of the gateway's own maps. -/
def change (effect : Gateway → Gateway) (progress : Progress) : Progress :=
  { progress with gateway := effect progress.gateway }

/-- The next command of `dequeue`. -/
def advance (socketId : SocketId) (stage : DequeueStage) (store : QueueStore)
    : QueueStore × DequeueStage :=
  (Matchmaking.MatchmakingService.dequeue store socketId stage).getD (store, stage)

/-- `dequeue` of a socket with an entry, from LREM on. -/
def MatchmakingService.removeEntry (socketId : SocketId) (found : DequeueStage)
    : DisconnectScript Unit := do
  let removed ← redis .lrem (advance socketId found)
  let deleted ← redis .hdel (advance socketId removed)
  Script.modify
    (change
      (fun gateway => { gateway with redis := (advance socketId deleted gateway.redis).1 }))

def MatchmakingService.dequeue (socketId : SocketId) : DisconnectScript Unit := do
  let found ← redis .hget (advance socketId .hget)
  match found with
  | .lrem _ => MatchmakingService.removeEntry socketId found
  | _ => pure ()

/-- An id that is no UUID makes the first query fail. -/
def CallsService.endCall (now : Time) (params : EndParams) : DisconnectScript Unit :=
  match params.callId.cast with
  | none => throw (.refused .invalidUuid)
  | some id => do
      update .updateStatus
        (fun db => CallsRepository.updateStatus now db id params.reason.update)
      update .markParticipantLeft
        (fun db =>
          (CallsRepository.markParticipantLeft now db id params.userId params.anonymousId, []))
      Script.modify
        (say
          (fun gateway =>
            AuditService.log gateway.db (some params.userId)
              (params.reason.event params.callId)))

def SfuService.removeParticipant (roomId : Text) (peerId : SocketId) : DisconnectScript Unit :=
  Script.awaited .removeParticipant .unavailable
    (fun progress =>
      (.ok (),
        change (fun gateway => Signaling.SfuService.removeParticipant gateway roomId peerId)
          progress))

/-- What `handleDisconnect` passes to `endCall`. -/
def leaverParams (known : SocketMeta) (callId : Text) : EndParams where
  callId := callId
  userId := known.identity
  anonymousId := known.anonymous
  reason := .ended

namespace SignalingGateway

/-- `if (meta.callId)`. -/
def endActiveCall (now : Time) (known : SocketMeta) : DisconnectScript Unit :=
  match known.callId.filter Text.truthy with
  | none => pure ()
  | some callId => do
      CallsService.endCall now (leaverParams known callId)
      Script.modify
        (say (fun gateway => [gateway.emit (.room callId) (.callEnded callId .peerDisconnected)]))
      Script.modify (change (fun gateway => gateway.cancelTimer callId))

/-- `if (meta.roomId)`. -/
def leaveRoom (socketId : SocketId) (known : SocketMeta) : DisconnectScript Unit :=
  match known.roomId.filter Text.truthy with
  | none => pure ()
  | some roomId => do
      SfuService.removeParticipant roomId socketId
      Script.modify
        (say
          (fun gateway =>
            [gateway.emit (.room roomId (some socketId)) (.participantLeft socketId)]))

/-- The users are counted before the await. -/
def broadcastQueueStatus : DisconnectScript Unit := do
  let status ←
    Script.awaited .llen .unavailable
      (fun progress =>
        (.ok (Signaling.SignalingGateway.broadcastQueueStatus progress.gateway), progress))
  Script.modify (say (fun _ => [status]))

/-- All that comes before the maps forget the socket. -/
def cleanUp (now : Time) (socketId : SocketId) (known : SocketMeta) : DisconnectScript Unit := do
  MatchmakingService.dequeue socketId
  endActiveCall now known
  leaveRoom socketId known

/-- The transport has taken the socket out of all rooms before the handler runs. -/
def handleDisconnect (now : Time) (socketId : SocketId) : DisconnectScript Unit :=
  fun fails progress =>
    let gone := change
      (fun gateway =>
        { gateway with rooms := gateway.rooms.filter (fun entry => entry.2 ≠ socketId) })
      progress
    match gone.gateway.sockets.lookup socketId with
    | none => (.ok (), gone)
    | some known =>
        (do
          cleanUp now socketId known
          Script.modify (change (fun gateway => forgetSocket gateway socketId))
          broadcastQueueStatus : DisconnectScript Unit).run fails gone

end SignalingGateway

-----------------------------------------------------------------------------------------
-- Rejections
-----------------------------------------------------------------------------------------

section Rejections

variable (fails : Command × Script.Moment → Bool)

/-- The command fails, before it takes effect or after. -/
def breaks (command : Command) : Bool := fails (command, .before) || fails (command, .after)

/-- `dequeue` rejects. A socket without an entry needs the first command only. -/
def dequeueRejects (store : QueueStore) (socketId : SocketId) : Bool :=
  breaks fails .hget
    || (store.sockets socketId).isSome && (breaks fails .lrem || breaks fails .hdel)

/-- `endCall` rejects. -/
def endCallRejects (callId : Text) : Bool :=
  callId.cast.isNone || (breaks fails .updateStatus || breaks fails .markParticipantLeft)

/-- One of the services rejects that `handleDisconnect` calls before the maps forget the
socket. -/
def disturbed (gateway : Gateway) (socketId : SocketId) (known : SocketMeta) : Bool :=
  dequeueRejects fails gateway.redis socketId
    || ((known.callId.filter Text.truthy).any (endCallRejects fails)
        || (known.roomId.filter Text.truthy).any (fun _ => breaks fails .removeParticipant))

end Rejections

/-- The queue without the socket. -/
def dequeued (socketId : SocketId) : Progress → Progress :=
  change
    (fun gateway =>
      { gateway with redis := Signaling.MatchmakingService.dequeue gateway.redis socketId })

/-- The call that the leaver remembers is over, its room has been told, and its timer is
cancelled. -/
def callEnded (now : Time) (known : SocketMeta) (progress : Progress) : Progress :=
  match known.callId.filter Text.truthy with
  | none => progress
  | some callId =>
      let served := Signaling.CallsService.endCall now progress.gateway.db
        (leaverParams known callId)
      let gateway := { progress.gateway with db := served.db }
      {
        gateway := gateway.cancelTimer callId
        outputs :=
          progress.outputs ++ served.outputs
            ++ [gateway.emit (.room callId) (.callEnded callId .peerDisconnected)]
      }

/-- The leaver is gone from the room of the SFU, which has been told. -/
def roomLeft (socketId : SocketId) (known : SocketMeta) (progress : Progress) : Progress :=
  match known.roomId.filter Text.truthy with
  | none => progress
  | some roomId =>
      {
        gateway := Signaling.SfuService.removeParticipant progress.gateway roomId socketId
        outputs :=
          progress.outputs
            ++ [progress.gateway.emit (.room roomId (some socketId)) (.participantLeft socketId)]
      }

section Services

variable {fails : Command × Script.Moment → Bool}

theorem completes_redis {command : Command} {effect : QueueStore → QueueStore × α}
    {progress : Progress}
    : (redis command effect).Completes fails progress (breaks fails command)
        (effect progress.gateway.redis).2
        (change (fun gateway => { gateway with redis := (effect gateway.redis).1 }) progress) :=
  Script.completes_awaited rfl

theorem completes_update {command : Command} {effect : Database → Database × List Output}
    {progress : Progress}
    : (update command effect).Completes fails progress (breaks fails command) ()
        {
          gateway := { progress.gateway with db := (effect progress.gateway.db).1 }
          outputs := progress.outputs ++ (effect progress.gateway.db).2
        } :=
  Script.completes_awaited rfl

theorem removeEntry_completes {socketId : SocketId} {progress : Progress} {raw : Serialized}
    (indexed : progress.gateway.redis.sockets socketId = some raw)
    : (MatchmakingService.removeEntry socketId (.lrem raw)).Completes fails progress
        (breaks fails .lrem || breaks fails .hdel) () (dequeued socketId progress) := by
  unfold MatchmakingService.removeEntry
  refine Script.Completes.congr
    (completes_redis.bind (completes_redis.bind (Script.completes_modify _))) (by simp) ?_
  simp [dequeued, change, dequeue_present indexed, advance,
    Matchmaking.MatchmakingService.dequeue, QueueStore.hdel]

/-- `dequeue`, by whether the socket has an entry. -/
theorem dequeue_completes (socketId : SocketId) (progress : Progress)
    : (MatchmakingService.dequeue socketId).Completes fails progress
        (dequeueRejects fails progress.gateway.redis socketId) ()
        (dequeued socketId progress) := by
  have hget
      : (redis .hget (advance socketId .hget)).Completes fails progress (breaks fails .hget)
          ((progress.gateway.redis.sockets socketId).elim .returned .lrem) progress := by
    have completes
        : (redis .hget (advance socketId .hget)).Completes fails progress _ _ _ :=
      completes_redis
    cases indexed : progress.gateway.redis.sockets socketId with
    | none =>
        simpa [advance, change, Matchmaking.MatchmakingService.dequeue, indexed] using completes
    | some raw =>
        simpa [advance, change, Matchmaking.MatchmakingService.dequeue, indexed] using completes
  unfold MatchmakingService.dequeue dequeueRejects
  cases indexed : progress.gateway.redis.sockets socketId with
  | none =>
      rw [indexed] at hget
      have same : dequeued socketId progress = progress := by
        simp [dequeued, change, dequeue_absent indexed]
      rw [same]
      exact hget.bind (Script.completes_pure ())
  | some raw =>
      rw [indexed] at hget
      exact hget.bind (removeEntry_completes indexed)

theorem endCall_completes (now : Time) (params : EndParams) (progress : Progress)
    : (CallsService.endCall now params).Completes fails progress
        (endCallRejects fails params.callId) ()
        {
          gateway := {
            progress.gateway with
            db := (Signaling.CallsService.endCall now progress.gateway.db params).db
          }
          outputs :=
            progress.outputs
              ++ (Signaling.CallsService.endCall now progress.gateway.db params).outputs
        } := by
  unfold CallsService.endCall endCallRejects Signaling.CallsService.endCall
  cases params.callId.cast with
  | none => exact Script.completes_throw _ _ _
  | some id =>
      refine Script.Completes.congr
        (completes_update.bind (completes_update.bind (Script.completes_modify _))) (by simp) ?_
      simp [say]

/-- `if (meta.callId)`. -/
theorem endActiveCall_completes (now : Time) (known : SocketMeta) (progress : Progress)
    : (SignalingGateway.endActiveCall now known).Completes fails progress
        ((known.callId.filter Text.truthy).any (endCallRejects fails)) ()
        (callEnded now known progress) := by
  unfold SignalingGateway.endActiveCall callEnded
  cases known.callId.filter Text.truthy with
  | none => exact Script.completes_pure ()
  | some callId =>
      refine Script.Completes.congr
        ((endCall_completes now (leaverParams known callId) progress).bind
          ((Script.completes_modify _).bind (Script.completes_modify _)))
        (by simp [leaverParams]) rfl

/-- `if (meta.roomId)`. -/
theorem leaveRoom_completes (socketId : SocketId) (known : SocketMeta) (progress : Progress)
    : (SignalingGateway.leaveRoom socketId known).Completes fails progress
        ((known.roomId.filter Text.truthy).any (fun _ => breaks fails .removeParticipant)) ()
        (roomLeft socketId known progress) := by
  unfold SignalingGateway.leaveRoom roomLeft
  cases known.roomId.filter Text.truthy with
  | none => exact Script.completes_pure ()
  | some roomId =>
      have removed
          : (SfuService.removeParticipant roomId socketId).Completes fails progress
              (breaks fails .removeParticipant) () _ :=
        Script.completes_awaited rfl
      refine Script.Completes.congr (removed.bind (Script.completes_modify _)) (by simp) ?_
      simp only [say, change]
      rw [SfuService.removeParticipant_eq]
      rfl

theorem broadcastQueueStatus_completes (progress : Progress)
    : SignalingGateway.broadcastQueueStatus.Completes fails progress (breaks fails .llen) ()
        (say
          (fun gateway => [Signaling.SignalingGateway.broadcastQueueStatus gateway]) progress) := by
  unfold SignalingGateway.broadcastQueueStatus
  exact Script.Completes.congr
    ((Script.completes_awaited rfl).bind (Script.completes_modify _)) (by simp [breaks]) rfl

/-- What the clean-up does before the maps forget the socket, unless a service rejects. -/
theorem cleanUp_completes (now : Time) (socketId : SocketId) (known : SocketMeta)
    (progress : Progress)
    : (SignalingGateway.cleanUp now socketId known).Completes fails progress
        (disturbed fails progress.gateway socketId known) ()
        (roomLeft socketId known (callEnded now known (dequeued socketId progress))) :=
  (dequeue_completes socketId progress).bind
    ((endActiveCall_completes now known _).bind (leaveRoom_completes socketId known _))

end Services

-----------------------------------------------------------------------------------------
-- Without failures
-----------------------------------------------------------------------------------------

section Unbroken

variable {now : Time} {socketId : SocketId} {known : SocketMeta} {progress : Progress}

/-- The end of the handler in the gateway's model. -/
theorem forget_settled (found : progress.gateway.sockets.lookup socketId = some known)
    : settled (Signaling.SignalingGateway.forget progress.gateway socketId known)
        progress.outputs
      = (.ok (),
          say (fun gateway => [Signaling.SignalingGateway.broadcastQueueStatus gateway])
            (change (fun gateway => forgetSocket gateway socketId)
              (roomLeft socketId known progress))) := by
  have same := forget_gateway found
  unfold roomLeft
  cases seated : known.roomId.filter Text.truthy with
  | none =>
      simp only [seated] at same
      simp only [say, change, ← same]
      simp only [settled, Signaling.SignalingGateway.forget, seated, List.nil_append]
  | some roomId =>
      simp only [seated] at same
      simp only [say, change, ← same]
      simp only [settled, Signaling.SignalingGateway.forget, seated, List.append_assoc]

/-- If nothing fails, the script ends as `handleDisconnect` does in the gateway's model. -/
theorem forgotten_unbroken (found : progress.gateway.sockets.lookup socketId = some known)
    : (do
        SignalingGateway.leaveRoom socketId known
        Script.modify (change (fun gateway => forgetSocket gateway socketId))
        SignalingGateway.broadcastQueueStatus : DisconnectScript Unit).run (fun _ => false)
          progress
      = settled (Signaling.SignalingGateway.forget progress.gateway socketId known)
          progress.outputs := by
  rw [forget_settled found]
  refine Script.Completes.run
    ((leaveRoom_completes socketId known progress).bind
      ((Script.completes_modify _).bind (broadcastQueueStatus_completes _))) ?_
  simp [breaks]

/-- If nothing fails, the script does what `handleDisconnect` does in the gateway's model. -/
theorem handleDisconnect_unbroken (now : Time) (socketId : SocketId) (gateway : Gateway)
    (outputs : List Output)
    : (SignalingGateway.handleDisconnect now socketId).run (fun _ => false) ⟨gateway, outputs⟩
      = settled (Signaling.SignalingGateway.handleDisconnect now gateway socketId) outputs := by
  unfold SignalingGateway.handleDisconnect Signaling.SignalingGateway.handleDisconnect
  simp only [change]
  cases found : gateway.sockets.lookup socketId with
  | none => simp [Script.run, found, settled]
  | some known =>
      simp only [Script.run, found]
      change Script.run _ _ _ = _
      unfold SignalingGateway.cleanUp
      rw [Script.bind_assoc, Script.run_bind,
        (dequeue_completes socketId _).run (by simp [dequeueRejects, breaks])]
      dsimp only
      rw [Script.bind_assoc, Script.run_bind]
      unfold Signaling.SignalingGateway.endOrForget
      cases remembered : known.callId.filter Text.truthy with
      | none =>
          rw [(endActiveCall_completes now known _).run (by simp [remembered])]
          simp only [callEnded, remembered]
          exact forgotten_unbroken found
      | some callId =>
          cases cast : callId.cast with
          | none =>
              simp [SignalingGateway.endActiveCall, remembered, CallsService.endCall,
                leaverParams, cast, Script.run, bind, throw, throwThe, MonadExceptOf.throw,
                Signaling.CallsService.endCall, settled, dequeued, change]
          | some id =>
              rw [(endActiveCall_completes now known _).run
                (by simp [remembered, endCallRejects, breaks, cast])]
              simp only [callEnded, remembered]
              refine (forgotten_unbroken found).trans ?_
              simp [Signaling.CallsService.endCall, leaverParams, cast, settled, dequeued, change]

end Unbroken

end NexusComms.Presence.Scripts
