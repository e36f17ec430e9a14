import NexusComms.Presence.Disconnection

/-! What a disconnection leaves behind when services reject. The clean-ups are awaited one after
the other, and the maps forget the socket at the end, so the first service that rejects keeps all
that follows from being done.
-/

namespace NexusComms.Presence.Scripts

open Concurrency Signaling Signaling.CallsService Storage
open Matchmaking (QueueStore)
open Signaling.Scripts (Progress PairError)

/-- The transport has taken the socket out of all rooms. -/
def departed (gateway : Gateway) (socketId : SocketId) : Gateway :=
  { gateway with rooms := gateway.rooms.filter (fun entry => entry.2 ≠ socketId) }

/-- Neither map has the socket, its own timers are cancelled, and each service that would have
succeeded has done its work, with what is said of it. -/
structure CleanedUp (own : Text → MissedCallTimer → Prop)
    (fails : Command × Script.Moment → Bool) (now : Time) (before : Gateway)
    (socketId : SocketId) (known : SocketMeta) (after : Progress)
    : Prop where
  forgotten : after.gateway.sockets.lookup socketId = none
  unlisted (key : Text) : socketId ∉ listed after.gateway.userSockets key
  cancelled {callId : Text} {timer : MissedCallTimer} (owned : own callId timer)
    : after.gateway.missedCallTimers.lookup callId ≠ some timer
  dequeued (succeeds : (MatchmakingService.dequeue socketId).Returns fails ⟨before, []⟩)
    : after.gateway.redis = Signaling.MatchmakingService.dequeue before.redis socketId
  ended {callId : Text} (remembered : known.callId.filter Text.truthy = some callId)
    (succeeds
      : (CallsService.endCall now (leaverParams known callId)).Returns fails ⟨before, []⟩)
    : after.gateway.db
        = (Signaling.CallsService.endCall now before.db (leaverParams known callId)).db
      ∧ (departed before socketId).emit (.room callId) (.callEnded callId .peerDisconnected)
        ∈ after.outputs
  left {roomId : Text} (seated : known.roomId.filter Text.truthy = some roomId)
    (succeeds : (SfuService.removeParticipant roomId socketId).Returns fails ⟨before, []⟩)
    : after.gateway.sfuRooms
        = (Signaling.SfuService.removeParticipant before roomId socketId).sfuRooms
      ∧ (departed before socketId).emit (.room roomId (some socketId))
          (.participantLeft socketId)
        ∈ after.outputs
  announced (succeeds : SignalingGateway.broadcastQueueStatus.Returns fails ⟨before, []⟩)
    : Signaling.SignalingGateway.broadcastQueueStatus after.gateway ∈ after.outputs

/-- The handler leaves everything clean, whether it returns or throws. -/
def CleansUp (own : Text → MissedCallTimer → Prop) (fails : Command × Script.Moment → Bool)
    (now : Time) (before : Gateway) (socketId : SocketId) (known : SocketMeta)
    : Prop :=
  (SignalingGateway.handleDisconnect now socketId).Settles fails ⟨before, []⟩
    (fun _ after => CleanedUp own fails now before socketId known after)

/-- The timer of the call that the socket remembers. -/
def remembers (known : SocketMeta) (callId : Text) (_ : MissedCallTimer) : Prop :=
  known.callId.filter Text.truthy = some callId

/-- A timer that the socket has set. -/
def set (socketId : SocketId) (_ : Text) (timer : MissedCallTimer) : Prop :=
  timer.socketId = socketId

-----------------------------------------------------------------------------------------
-- One disconnection
-----------------------------------------------------------------------------------------

section Disconnection

variable {fails : Command × Script.Moment → Bool} {now : Time} {socketId : SocketId}
  {known : SocketMeta}

/-- The metas are those of the gateway. -/
def Sockets (gateway : Gateway) (progress : Progress) : Prop :=
  progress.gateway.sockets = gateway.sockets
  ∧ progress.gateway.userSockets = gateway.userSockets
  ∧ progress.gateway.rooms = gateway.rooms

variable {gateway : Gateway} {progress : Progress}

theorem redis_keeps {α : Type} (command : Command) (effect : QueueStore → QueueStore × α)
    : (redis command effect).Keeps (Sockets gateway) :=
  Script.keeps_awaited fun _ same => same

theorem update_keeps (command : Command) (effect : Database → Database × List Output)
    : (update command effect).Keeps (Sockets gateway) :=
  Script.keeps_awaited fun _ same => same

theorem say_keeps (outputs : Gateway → List Output)
    : (Script.modify (say outputs) : DisconnectScript Unit).Keeps (Sockets gateway) :=
  Script.keeps_modify fun _ same => same

theorem dequeue_keeps : (MatchmakingService.dequeue socketId).Keeps (Sockets gateway) := by
  refine (redis_keeps _ _).bind fun found => ?_
  cases found with
  | lrem raw =>
      refine (redis_keeps _ _).bind fun removed => (redis_keeps _ _).bind fun deleted => ?_
      exact Script.keeps_modify fun _ same => same
  | _ => exact Script.keeps_pure ()

theorem endCall_keeps (params : EndParams)
    : (CallsService.endCall now params).Keeps (Sockets gateway) := by
  unfold CallsService.endCall
  split
  · exact Script.keeps_throw _
  · exact (update_keeps _ _).bind fun _ => (update_keeps _ _).bind fun _ => say_keeps _

theorem endActiveCall_keeps
    : (SignalingGateway.endActiveCall now known).Keeps (Sockets gateway) := by
  unfold SignalingGateway.endActiveCall
  split
  · exact Script.keeps_pure ()
  · refine (endCall_keeps _).bind fun _ => (say_keeps _).bind fun _ => ?_
    exact Script.keeps_modify fun _ same => same

theorem leaveRoom_keeps
    : (SignalingGateway.leaveRoom socketId known).Keeps (Sockets gateway) := by
  unfold SignalingGateway.leaveRoom
  split
  · exact Script.keeps_pure ()
  · refine Script.Keeps.bind (Script.keeps_awaited fun state same => ?_) fun _ => say_keeps _
    simp only [change]
    rw [SfuService.removeParticipant_eq]
    exact same

/-- Whatever fails, the clean-up changes neither map. -/
theorem cleanUp_keeps
    : (SignalingGateway.cleanUp now socketId known).Keeps (Sockets gateway) :=
  dequeue_keeps.bind fun _ => endActiveCall_keeps.bind fun _ => leaveRoom_keeps

/-- The broadcast, which a failure of `queueDepth` prevents. -/
theorem broadcast_run (progress : Progress)
    : SignalingGateway.broadcastQueueStatus.run fails progress
      = if breaks fails .llen then
          (.error .unavailable, progress)
        else
          (.ok (),
            say (fun gateway => [Signaling.SignalingGateway.broadcastQueueStatus gateway])
              progress) := by
  unfold SignalingGateway.broadcastQueueStatus breaks
  simp only [Script.run, bind, Script.awaited, Script.statement, Script.spoiling, Script.modify]
  cases fails (.llen, .before) with
  | true => simp
  | false =>
      cases fails (.llen, .after) with
      | true => simp
      | false => simp [say]

/-- The state after a disconnection that no service has disturbed, up to the last message. -/
def cleaned (now : Time) (gateway : Gateway) (socketId : SocketId) (known : SocketMeta)
    : Progress :=
  change (fun gateway => forgetSocket gateway socketId)
    (roomLeft socketId known
      (callEnded now known (Scripts.dequeued socketId ⟨departed gateway socketId, []⟩)))

/-- What the handler does for a socket that it knows. -/
theorem handleDisconnect_run (found : gateway.sockets.lookup socketId = some known)
    : (SignalingGateway.handleDisconnect now socketId).run fails ⟨gateway, []⟩
      = (SignalingGateway.cleanUp now socketId known
          >>= fun _ => Script.modify (change (fun gateway => forgetSocket gateway socketId))
          >>= fun _ => SignalingGateway.broadcastQueueStatus).run fails
          ⟨departed gateway socketId, []⟩ := by
  unfold SignalingGateway.handleDisconnect
  simp only [Script.run, change]
  rw [found]
  rfl

variable (now) in
/-- If a service rejects, the maps still have the socket. -/
theorem handleDisconnect_disturbed (found : gateway.sockets.lookup socketId = some known)
    (rejects : disturbed fails gateway socketId known = true)
    : (SignalingGateway.handleDisconnect now socketId).Settles fails ⟨gateway, []⟩
        (fun _ after => Sockets (departed gateway socketId) after) := by
  have kept
      : (SignalingGateway.cleanUp now socketId known).Settles fails
          ⟨departed gateway socketId, []⟩ _ :=
    cleanUp_keeps fails ⟨departed gateway socketId, []⟩ ⟨rfl, rfl, rfl⟩
  obtain ⟨error, left, threw⟩ :=
    (cleanUp_completes now socketId known ⟨departed gateway socketId, []⟩).throws rejects
  unfold Script.Settles at kept ⊢
  rw [handleDisconnect_run found, Script.run_bind]
  rw [threw] at kept ⊢
  exact kept

/-- Otherwise the handler goes on to the last message. -/
theorem handleDisconnect_passes (found : gateway.sockets.lookup socketId = some known)
    (passes : disturbed fails gateway socketId known = false)
    : (SignalingGateway.handleDisconnect now socketId).run fails ⟨gateway, []⟩
      = SignalingGateway.broadcastQueueStatus.run fails
          (cleaned now gateway socketId known) := by
  rw [handleDisconnect_run found, Script.run_bind,
    (cleanUp_completes now socketId known _).run passes]
  rfl

/-- The removal from a room looks at the rooms only. -/
theorem removeParticipant_congr {gateway' : Gateway} (same : gateway'.sfuRooms = gateway.sfuRooms)
    (roomId : Text) (peerId : SocketId)
    : (Signaling.SfuService.removeParticipant gateway' roomId peerId).sfuRooms
      = (Signaling.SfuService.removeParticipant gateway roomId peerId).sfuRooms := by
  unfold Signaling.SfuService.removeParticipant
  rw [same]
  split
  · exact same
  · dsimp only
    split
    · rfl
    · rfl

/-- Forgetting a socket is a change of the two maps. -/
theorem forgetSocket_eq (gateway : Gateway) (socketId : SocketId)
    : forgetSocket gateway socketId
      = {
          gateway with
          userSockets := (forgetSocket gateway socketId).userSockets
          sockets := (forgetSocket gateway socketId).sockets
        } := by
  unfold forgetSocket
  split
  · rfl
  · rfl

/-- What an undisturbed disconnection does to the stores and to the timers. -/
theorem cleaned_stores (now : Time) (gateway : Gateway) (socketId : SocketId)
    (known : SocketMeta)
    : let after := (cleaned now gateway socketId known).gateway
      after.redis = Signaling.MatchmakingService.dequeue gateway.redis socketId
      ∧ after.db
        = (known.callId.filter Text.truthy).elim gateway.db
            (fun callId =>
              (Signaling.CallsService.endCall now gateway.db (leaverParams known callId)).db)
      ∧ after.missedCallTimers
        = (known.callId.filter Text.truthy).elim gateway.missedCallTimers
            (fun callId => gateway.missedCallTimers.erase callId)
      ∧ after.sfuRooms
        = (known.roomId.filter Text.truthy).elim gateway.sfuRooms
            (fun roomId =>
              (Signaling.SfuService.removeParticipant gateway roomId socketId).sfuRooms) := by
  dsimp only [cleaned, change]
  rw [forgetSocket_eq]
  dsimp only [roomLeft, callEnded]
  cases known.roomId.filter Text.truthy with
  | none =>
      cases known.callId.filter Text.truthy with
      | none => exact ⟨rfl, rfl, rfl, rfl⟩
      | some callId => exact ⟨rfl, rfl, rfl, rfl⟩
  | some roomId =>
      cases known.callId.filter Text.truthy with
      | none =>
          dsimp only
          rw [SfuService.removeParticipant_eq]
          exact ⟨rfl, rfl, rfl, removeParticipant_congr (by rfl) roomId socketId⟩
      | some callId =>
          dsimp only
          rw [SfuService.removeParticipant_eq]
          exact ⟨rfl, rfl, rfl, removeParticipant_congr (by rfl) roomId socketId⟩

/-- What it says of the call and of the room. -/
theorem cleaned_outputs (now : Time) (gateway : Gateway) (socketId : SocketId)
    (known : SocketMeta)
    : (∀ callId,
          known.callId.filter Text.truthy = some callId →
            (departed gateway socketId).emit (.room callId)
                (.callEnded callId .peerDisconnected)
              ∈ (cleaned now gateway socketId known).outputs)
      ∧ ∀ roomId,
          known.roomId.filter Text.truthy = some roomId →
            (departed gateway socketId).emit (.room roomId (some socketId))
                (.participantLeft socketId)
              ∈ (cleaned now gateway socketId known).outputs := by
  unfold cleaned change roomLeft callEnded
  constructor
  · intro callId remembered
    rw [remembered]
    cases known.roomId.filter Text.truthy with
    | none => exact List.mem_append_right _ (List.mem_singleton_self _)
    | some roomId =>
        exact List.mem_append_left _ (List.mem_append_right _ (List.mem_singleton_self _))
  · intro roomId seated
    rw [seated]
    cases known.callId.filter Text.truthy with
    | none => exact List.mem_append_right _ (List.mem_singleton_self _)
    | some callId => exact List.mem_append_right _ (List.mem_singleton_self _)

/-- The maps, once the clean-up has left them alone. -/
theorem Sockets.indexes (same : Sockets gateway progress)
    (indexes : Indexes (tabOf gateway) gateway.userSockets)
    : Indexes (tabOf progress.gateway) progress.gateway.userSockets := by
  obtain ⟨sockets, userSockets, _⟩ := same
  rw [userSockets]
  exact indexes.congr fun socketId => by simp only [tabOf, Gateway.userOf, sockets]

/-- Neither map has a socket that has been forgotten. -/
theorem forgetSocket_gone (socketId : SocketId)
    (indexes : Indexes (tabOf gateway) gateway.userSockets)
    : (forgetSocket gateway socketId).sockets.lookup socketId = none
      ∧ ∀ key, socketId ∉ listed (forgetSocket gateway socketId).userSockets key := by
  constructor
  · by_contra present
    obtain ⟨known, found⟩ := Option.ne_none_iff_exists'.mp present
    exact (forgetSocket_lookup found).1 rfl
  · intro key inside
    have owner := (forgetSocket_indexes indexes).mem_iff.mp inside
    rw [tabOf, forgetSocket_userOf, if_pos rfl] at owner
    cases owner

variable (now) in
/-- An undisturbed clean-up leaves the maps alone until it forgets the socket. -/
theorem undisturbed_sockets
    (passes : disturbed fails gateway socketId known = false)
    : Sockets (departed gateway socketId)
        (roomLeft socketId known
          (callEnded now known (Scripts.dequeued socketId ⟨departed gateway socketId, []⟩))) := by
  have kept
      : (SignalingGateway.cleanUp now socketId known).Settles fails
          ⟨departed gateway socketId, []⟩ _ :=
    cleanUp_keeps fails ⟨departed gateway socketId, []⟩ ⟨rfl, rfl, rfl⟩
  unfold Script.Settles at kept
  rw [(cleanUp_completes now socketId known ⟨departed gateway socketId, []⟩).run passes] at kept
  exact kept

variable (now) in
/-- What a disconnection leaves that nothing has disturbed, with or without the last message. -/
theorem undisturbed_run (found : gateway.sockets.lookup socketId = some known)
    (passes : disturbed fails gateway socketId known = false)
    : ((SignalingGateway.handleDisconnect now socketId).run fails ⟨gateway, []⟩).2
      = if breaks fails .llen then
          cleaned now gateway socketId known
        else
          say (fun gateway => [Signaling.SignalingGateway.broadcastQueueStatus gateway])
            (cleaned now gateway socketId known) := by
  rw [handleDisconnect_passes found passes, broadcast_run]
  split
  · rfl
  · rfl

/-- After such a disconnection everything is clean, but for timers of other calls. -/
theorem cleanedUp_iff {own : Text → MissedCallTimer → Prop} {after : Progress}
    (indexes : Indexes (tabOf gateway) gateway.userSockets)
    (passes : disturbed fails gateway socketId known = false)
    (left
      : after
        = if breaks fails .llen then
            cleaned now gateway socketId known
          else
            say (fun gateway => [Signaling.SignalingGateway.broadcastQueueStatus gateway])
              (cleaned now gateway socketId known))
    : CleanedUp own fails now gateway socketId known after
      ↔ ∀ callId timer,
          own callId timer →
            gateway.missedCallTimers.lookup callId = some timer →
              known.callId.filter Text.truthy = some callId := by
  have same : after.gateway = (cleaned now gateway socketId known).gateway := by
    rw [left]
    split
    · rfl
    · rfl
  have kept {output : Output} (member : output ∈ (cleaned now gateway socketId known).outputs)
      : output ∈ after.outputs := by
    rw [left]
    split
    · exact member
    · exact List.mem_append_left _ member
  obtain ⟨redis, db, timers, rooms⟩ := cleaned_stores now gateway socketId known
  obtain ⟨ended, left'⟩ := cleaned_outputs now gateway socketId known
  obtain ⟨forgotten, unlisted⟩ :=
    forgetSocket_gone socketId ((undisturbed_sockets now passes).indexes indexes)
  constructor
  · intro cleaned callId timer owned running
    by_contra other
    refine cleaned.cancelled owned ?_
    rw [same, timers]
    cases remembered : known.callId.filter Text.truthy with
    | none => exact running
    | some callId' =>
        have apart : callId ≠ callId' := by
          rintro rfl
          exact other remembered
        exact (AList.lookup_erase_ne apart).trans running
  · intro remembered
    exact {
      forgotten := same ▸ forgotten
      unlisted := fun key => same ▸ unlisted key
      cancelled := fun {callId timer} owned running => by
        rw [same, timers] at running
        cases call : known.callId.filter Text.truthy with
        | none =>
            rw [call] at running
            cases call.symm.trans (remembered callId timer owned running)
        | some callId' =>
            rw [call] at running
            cases call.symm.trans (remembered callId timer owned (lookup_of_erase running))
            simp at running
      dequeued := fun _ => by rw [same, redis]
      ended := fun {callId} call _ => by
        refine ⟨?_, kept (ended callId call)⟩
        rw [same, db, call]
        rfl
      left := fun {roomId} seated _ => by
        refine ⟨?_, kept (left' roomId seated)⟩
        rw [same, rooms, seated]
        rfl
      announced := fun succeeds => by
        rw [same, left, if_neg]
        · exact List.mem_append_right _ (List.mem_singleton_self _)
        · exact Bool.eq_false_iff.mp
            ((broadcastQueueStatus_completes ⟨gateway, []⟩).returns_iff.mp succeeds)
    }

/-- A disconnection cleans up exactly if no service rejects before the maps forget the socket,
and the socket's own timers are none but that of the call that it remembers. -/
theorem cleansUp_iff {own : Text → MissedCallTimer → Prop}
    (found : gateway.sockets.lookup socketId = some known)
    (indexes : Indexes (tabOf gateway) gateway.userSockets)
    : CleansUp own fails now gateway socketId known
      ↔ disturbed fails gateway socketId known = false
        ∧ ∀ callId timer,
            own callId timer →
              gateway.missedCallTimers.lookup callId = some timer →
                known.callId.filter Text.truthy = some callId := by
  cases verdict : disturbed fails gateway socketId known with
  | true =>
      refine iff_of_false (fun cleans => ?_) (fun both => by cases both.1)
      obtain ⟨same, _⟩ := handleDisconnect_disturbed now found verdict
      have lost := cleans.forgotten
      rw [same] at lost
      cases lost.symm.trans found
  | false =>
      have left := undisturbed_run now found verdict
      refine (cleanedUp_iff indexes verdict left).trans ⟨fun timers => ⟨rfl, timers⟩, And.right⟩

end Disconnection

end NexusComms.Presence.Scripts
