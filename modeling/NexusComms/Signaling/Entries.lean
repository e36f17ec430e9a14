import NexusComms.Signaling.Fifo
import NexusComms.Signaling.Seating

/-! What is stored in the matchmaking queue. Every entry has been stored by a join, so whatever
holds of all that is enqueued holds of all that is stored, matched or cancelled.
-/

namespace NexusComms.Matchmaking

/-- All entries in the two keys have the property. -/
structure QueueStore.All (property : TimedEntry → Prop) (store : QueueStore) : Prop where
  queue : ∀ item ∈ store.queue, property item.raw.parse
  index {socketId : SocketId} {raw : Serialized} (found : store.sockets socketId = some raw)
    : property raw.parse

namespace QueueStore

variable {property : TimedEntry → Prop} {store : QueueStore}

theorem All.empty : QueueStore.empty.All property where
  queue item member := by cases member
  index found := by cases found

theorem All.imp {weaker : TimedEntry → Prop} (all : store.All property)
    (follows : ∀ entry, property entry → weaker entry)
    : store.All weaker where
  queue item member := follows _ (all.queue item member)
  index found := follows _ (all.index found)

/-- What is left of the keys has the property. -/
theorem All.of_less {less : QueueStore} (all : store.All property)
    (queue : ∀ item ∈ less.queue, item ∈ store.queue)
    (index
      : ∀ {socketId raw},
          less.sockets socketId = some raw → store.sockets socketId = some raw)
    : less.All property where
  queue item member := all.queue item (queue item member)
  index found := all.index (index found)

/-- A field that is still there after an HDEL was there before. -/
theorem sockets_of_hdel {deleted socketId : SocketId} {raw : Serialized}
    (found : (store.hdel deleted).sockets socketId = some raw)
    : store.sockets socketId = some raw := by
  simp only [hdel, Function.update_apply] at found
  split at found
  · cases found
  · exact found

end QueueStore

end NexusComms.Matchmaking

namespace NexusComms.Signaling

open Concurrency Matchmaking

section Service

variable {property : TimedEntry → Prop} {redis : QueueStore} (now : Time)

/-- An entry that is enqueued is stored with the others. -/
theorem enqueue_all (all : redis.All property) {entry : QueueEntry}
    (new : property { entry with enqueuedAt := now })
    : (MatchmakingService.enqueue now redis entry).1.All property := by
  rw [enqueue_eq]
  constructor
  · intro item member
    rcases List.mem_append.mp member with earlier | last
    · exact all.queue item earlier
    · rw [List.mem_singleton.mp last]
      exact new
  · intro socketId raw found
    simp only [Function.update_apply] at found
    split at found
    · cases found
      exact new
    · exact all.index found

theorem dequeue_all (all : redis.All property) (socketId : SocketId)
    : (MatchmakingService.dequeue redis socketId).All property := by
  cases present : redis.sockets socketId with
  | none => rwa [dequeue_absent present]
  | some raw =>
      rw [dequeue_present present]
      exact all.of_less (fun item member => List.mem_of_mem_eraseP member)
        QueueStore.sockets_of_hdel

/-- A match takes its pair out of the queue and puts nothing in. -/
theorem tryMatch_all (all : redis.All property)
    : (MatchmakingService.tryMatch now redis).1.All property
      ∧ ∀ a b,
          (MatchmakingService.tryMatch now redis).2 = some (a, b) →
            property a ∧ property b := by
  match waiting : redis.queue with
  | [] =>
      rw [tryMatch_few (by simp [waiting])]
      exact ⟨⟨all.queue, all.index⟩, fun a b none_matched => by cases none_matched⟩
  | [only] =>
      rw [tryMatch_few (by simp [waiting])]
      exact ⟨⟨all.queue, all.index⟩, fun a b none_matched => by cases none_matched⟩
  | first :: second :: rest =>
      have inQueue {item : Item} (member : item ∈ first :: second :: rest)
          : item ∈ redis.queue := by
        rw [waiting]
        exact member
      cases firstFresh : first.fresh now with
      | true =>
          cases secondFresh : second.fresh now with
          | true =>
              rw [tryMatch_fresh waiting firstFresh secondFresh]
              refine ⟨all.of_less ?_ ?_, ?_⟩
              · exact fun item member => inQueue (by simp [member])
              · intro socketId raw found
                exact QueueStore.sockets_of_hdel (QueueStore.sockets_of_hdel found)
              · intro a b matched
                cases matched
                exact ⟨all.queue first (inQueue (by simp)),
                  all.queue second (inQueue (by simp))⟩
          | false =>
              rw [tryMatch_put_first_back waiting firstFresh secondFresh]
              refine ⟨all.of_less ?_ QueueStore.sockets_of_hdel, ?_⟩
              · intro item member
                refine inQueue ?_
                rcases List.mem_cons.mp member with here | later
                · simp [here]
                · simp [later]
              · exact fun a b none_matched => by cases none_matched
      | false =>
          cases secondFresh : second.fresh now with
          | true =>
              rw [tryMatch_put_back waiting firstFresh secondFresh]
              refine ⟨all.of_less ?_ QueueStore.sockets_of_hdel, ?_⟩
              · exact fun item member => inQueue (List.mem_cons_of_mem _ member)
              · exact fun a b none_matched => by cases none_matched
          | false =>
              rw [tryMatch_stale waiting firstFresh secondFresh]
              refine ⟨all.of_less ?_ ?_, ?_⟩
              · exact fun item member => inQueue (by simp [member])
              · intro socketId raw found
                exact QueueStore.sockets_of_hdel (QueueStore.sockets_of_hdel found)
              · exact fun a b none_matched => by cases none_matched

end Service

/-- The entry with which a socket joins the queue. -/
def SocketMeta.entry (known : SocketMeta) (socketId : SocketId)
    (preferredType : Option CallType)
    : QueueEntry :=
  {
    userId := known.userId
    anonymousId := known.anonymousId
    socketId := socketId
    preferredType := preferredType.getD .video
    isAnonymous := known.userId.isNone
  }

section Handlers

variable {property : TimedEntry → Prop} (now : Time) (gateway : Gateway)

@[simp]
theorem updateMeta_redis (socketId : SocketId) (change : SocketMeta → SocketMeta)
    : (gateway.updateMeta socketId change).redis = gateway.redis := by
  rw [Gateway.updateMeta_eq]

@[simp]
theorem setCallId_redis (socketId : SocketId) (callId : Option Text)
    : (gateway.setCallId socketId callId).redis = gateway.redis :=
  updateMeta_redis gateway socketId _

@[simp]
theorem socketsJoin_redis (source room : Text)
    : (gateway.socketsJoin source room).redis = gateway.redis := by
  rw [Gateway.socketsJoin_eq]

@[simp]
theorem forget_redis (socketId : SocketId) (known : SocketMeta)
    : (SignalingGateway.forget gateway socketId known).gateway.redis = gateway.redis := by
  simp only [SignalingGateway.forget]
  split
  · rfl
  · rw [SfuService.removeParticipant_eq]

/-- A pairing changes the queue by its `tryMatch` only. -/
theorem tryPairUsers_redis (callId : Uuid)
    : (SignalingGateway.tryPairUsers now gateway callId).gateway.redis
      = (MatchmakingService.tryMatch (dateNow now) gateway.redis).1 := by
  unfold SignalingGateway.tryPairUsers
  dsimp only
  split
  · rfl
  · unfold SignalingGateway.pairUsers
    dsimp only
    split
    · rfl
    · split
      · rfl
      · simp

/-- What is stored after an event was stored before, or is the entry of the join. -/
theorem handle_all (runtime : Runtime) (event : Event) (all : gateway.redis.All property)
    (new
      : ∀ {socketId preferredType callId known},
          event = .joinQueue socketId preferredType callId →
            gateway.sockets.lookup socketId = some known →
              property { known.entry socketId preferredType with enqueuedAt := dateNow now })
    : (handle runtime now gateway event).gateway.redis.All property := by
  cases event with
  | joinQueue socketId preferredType callId =>
      simp only [handle, SignalingGateway.onJoinQueue]
      split
      · exact all
      · next known found =>
          have waiting := enqueue_all (dateNow now) all (new rfl found)
          split
          · rw [tryPairUsers_redis]
            exact (tryMatch_all _ waiting).1
          · rw [tryPairUsers_redis]
            exact (tryMatch_all _ waiting).1
  | leaveQueue socketId => exact dequeue_all all socketId
  | disconnect socketId =>
      simp only [handle, SignalingGateway.handleDisconnect]
      split
      · exact all
      · unfold SignalingGateway.endOrForget
        split
        · rw [forget_redis]
          exact dequeue_all all socketId
        · dsimp only
          split
          · exact dequeue_all all socketId
          · rw [forget_redis]
            exact dequeue_all all socketId
  | callInitiate socketId data callId =>
      simp only [handle, SignalingGateway.onCallInitiate]
      split
      · exact all
      · split
        · exact all
        · split
          · exact all
          · simpa [Gateway.join] using all
  | missedCall callId =>
      simp only [handle]
      split
      · exact all
      · unfold SignalingGateway.missedCall
        dsimp only
        split
        · split
          · exact all
          · exact all
        · exact all
  | callAccept socketId data =>
      simp only [handle, SignalingGateway.onCallAccept]
      split
      · exact all
      · split
        · exact all
        · split
          · exact all
          · split
            · exact all
            · simpa [Gateway.join, Gateway.cancelTimer, Gateway.deletePending] using all
  | callReject socketId callId =>
      simp only [handle, SignalingGateway.onCallReject]
      split
      · exact all
      · split
        · exact all
        · split
          · exact all
          · exact all
  | callEnd socketId callId =>
      simp only [handle, SignalingGateway.onCallEnd]
      split
      · exact all
      · split
        · exact all
        · simpa [Gateway.leave, Gateway.cancelTimer, Gateway.deletePending] using all
  | mediaToggle socketId data =>
      simp only [handle, SignalingGateway.onMediaToggle]
      split
      · exact all
      · split
        · exact all
        · exact all
  | switchType socketId data =>
      simp only [handle, SignalingGateway.onSwitchType]
      split
      · exact all
      · split
        · exact all
        · exact all
  | sfuJoin socketId roomId =>
      simp only [handle, SignalingGateway.onSfuJoin]
      split
      · exact all
      · split
        · exact all
        · split
          · simpa [Gateway.join, SfuService.createRoom] using all
          · simpa [Gateway.join] using all
  | createTransport socketId roomId transportId =>
      simp only [handle, SignalingGateway.onCreateTransport]
      split
      · exact all
      · next created =>
          rw [SfuService.createWebRtcTransport_eq created]
          exact all
  | produce socketId data producerId =>
      simp only [handle, SignalingGateway.onProduce]
      split
      · exact all
      · exact all
  | requestContactSave socketId data requestId =>
      simp only [handle, SignalingGateway.onRequestContactSave]
      split
      · exact all
      · split
        · exact all
        · split
          · exact all
          · exact all
  | register _ _ => exact all
  | connect _ _ _ => exact all
  | signalOffer _ _ _ => exact all
  | signalAnswer _ _ _ => exact all
  | signalIce _ _ _ => exact all
  | queueStatusRequest _ => exact all

end Handlers

/-- Every stored entry belongs to an anonymous visitor or to a registered user. -/
def EntriesKnown (world : World) : Prop :=
  world.gateway.redis.All (fun entry => world.gateway.db.references entry.userId = true)

/-- Every step keeps the entries known. -/
theorem EntriesKnown.step {runtime : Runtime} {world : World} {stimulus : Stimulus}
    (known : EntriesKnown world) (seated : Seated world)
    : EntriesKnown (world.after runtime stimulus) := by
  have handled := handle_handled runtime stimulus.now world.gateway stimulus.event
  have stored := handle_all stimulus.now world.gateway runtime stimulus.event known
    (fun {socketId preferredType callId meta'} _ found => by
      change world.gateway.db.references meta'.userId = true
      cases user : meta'.userId with
      | none => rfl
      | some userId =>
          exact seated.registered (Option.bind_eq_some_iff.mpr ⟨meta', found, user⟩))
  exact stored.imp (fun _ registered => handled.references registered)

end NexusComms.Signaling
