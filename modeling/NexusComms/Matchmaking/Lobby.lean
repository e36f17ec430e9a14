import Mathlib.Data.List.AList
import NexusComms.Concurrency.Interleaving
import NexusComms.Matchmaking.Queue

/-! The handlers of the signaling gateway that concern the matchmaking queue, suspended at
every `await`. What a handler computes between two awaits belongs to the second one.
-/

namespace NexusComms.Matchmaking

open Concurrency

/-- The part of `SocketMeta` that these handlers read and write. -/
structure SocketMeta where
  userId : Option Uuid
  anonymousId : Uuid
  callId : Option Uuid
deriving DecidableEq, Repr

/-- What the gateway emits, to one socket or, for `queueStatus`, to all of them. -/
inductive Emission where
  | matchQueued (receiver : SocketId) (position onlineUsers searchingUsers : Nat)
  | matchFound (receiver : SocketId) (callId : Uuid) (callType : CallType)
    (isInitiator bothRegistered : Bool) (partnerUserId : Option Uuid)
  | callEnded (callId : Uuid)
  | queueStatus (onlineUsers searchingUsers : Nat)
deriving DecidableEq, Repr

/-- The two entries of a pair that has been announced, and for each of them whether its
owner was still waiting at that moment. -/
structure Announcement where
  first : Item
  second : Item
  firstWaiting : Bool
  secondWaiting : Bool
deriving DecidableEq, Repr

/-- The state that the handlers share: Redis, `this.sockets` and the transport. The last
fields are history: a clock that ticks with joins and departures, when the last `dequeue` of
each socket has returned, the `dequeue` calls that are running, and all announcements.
-/
structure Lobby where
  redis : QueueStore
  sockets : AList (fun _ : SocketId => SocketMeta)
  connected : SocketId → Bool
  used : List SocketId
  emitted : List Emission
  time : Nat
  departedAt : SocketId → Nat
  departing : List (Nat × SocketId)
  announced : List Announcement

namespace Lobby

/-- No socket has connected, and the queue is empty. -/
def empty : Lobby := ⟨.empty, ∅, fun _ => false, [], [], 1, fun _ => 0, [], []⟩

/-- `SignalingGateway.countOnlineUsers`: users count once, however many sockets they have. -/
def countOnlineUsers (lobby : Lobby) : Nat :=
  (lobby.sockets.entries.map (fun entry => entry.2.userId.getD entry.2.anonymousId)).dedup
    |>.length

/-- The owner of an entry is connected, and no `dequeue` of it has returned since the join
that pushed the entry. -/
def waiting (lobby : Lobby) (item : Item) : Bool :=
  lobby.connected item.socketId && decide (lobby.departedAt item.socketId ≤ item.tag)

/-- `meta.callId = session.id`, where the socket is still known. -/
def setCall (lobby : Lobby) (socketId : SocketId) (callId : Uuid) : Lobby :=
  match lobby.sockets.lookup socketId with
  | none => lobby
  | some known =>
      { lobby with sockets := lobby.sockets.insert socketId { known with callId := callId } }

end Lobby

/-- The awaits of `tryPairUsers` after `tryMatch`, down into `CallsService`. -/
inductive PairAwait where
  | createSession
  | addHost
  | logInitiated
  | findSession
  | updateStatus
  | addGuest
  | logAccepted
  | findAccepted
  | joinFirst
  | joinSecond
deriving DecidableEq, Repr

def pairAwaits : List PairAwait := [
  .addHost,
  .logInitiated,
  .findSession,
  .updateStatus,
  .addGuest,
  .logAccepted,
  .findAccepted,
  .joinFirst,
  .joinSecond
]

/-- Where `onJoinQueue` stands; from `tryMatch` to `pairing` it is in `tryPairUsers`. -/
inductive JoinStage where
  | enqueue (stage : EnqueueStage)
  | queueDepth (position onlineUsers : Nat)
  | tryMatch (stage : TryMatchStage)
  | createSession (first second : Item)
  | pairing (first second : Item) (callId : Uuid) (todo : List PairAwait)
  | broadcast (onlineUsers : Nat)
  | done
deriving DecidableEq, Repr

inductive LeaveStage where
  | dequeue (stage : DequeueStage)
  | broadcast (onlineUsers : Nat)
  | done
deriving DecidableEq, Repr

/-- The awaits of `CallsService.endCall`. -/
inductive EndAwait where
  | updateStatus
  | markParticipantLeft
  | logEnded
deriving DecidableEq, Repr

inductive DisconnectStage where
  | dequeue (stage : DequeueStage)
  | endCall (callId : Uuid) (todo : List EndAwait)
  | broadcast (onlineUsers : Nat)
  | done
deriving DecidableEq, Repr

inductive ConnectStage where
  | broadcast (onlineUsers : Nat)
  | done
deriving DecidableEq, Repr

/-- A handler. A join carries the entry it has built and the time of its start. -/
inductive Handler where
  | connect (socketId : SocketId) (userId : Option Uuid) (anonymousId : Uuid)
    (stage : ConnectStage)
  | join (entry : QueueEntry) (since : Nat) (stage : JoinStage)
  | leave (socketId : SocketId) (stage : LeaveStage)
  | disconnect (socketId : SocketId) (stage : DisconnectStage)
deriving DecidableEq, Repr

/-- `Date.now()` and the id that the database draws for a new session. -/
structure Instant where
  now : Time
  uuid : Uuid := 0
deriving DecidableEq, Repr

namespace SignalingGateway

/-- `broadcastQueueStatus` once its queue depth has been read. -/
def broadcastQueueStatus (lobby : Lobby) (onlineUsers : Nat) : Lobby :=
  {
    lobby with
    emitted := lobby.emitted ++ [.queueStatus onlineUsers lobby.redis.queue.length]
  }

/-- The end of `tryPairUsers`: both metas get the call, and both sockets are told. -/
def announce (lobby : Lobby) (first second : Item) (callId : Uuid) : Lobby :=
  let a := first.raw.parse
  let b := second.raw.parse
  let callType := if a.preferredType = b.preferredType then a.preferredType else .video
  let bothRegistered := a.userId.isSome && b.userId.isSome
  let paired := (lobby.setCall a.socketId callId).setCall b.socketId callId
  {
    paired with
    emitted :=
      lobby.emitted
        ++ [.matchFound a.socketId callId callType true bothRegistered b.userId,
            .matchFound b.socketId callId callType false bothRegistered a.userId]
    announced :=
      lobby.announced ++ [⟨first, second, lobby.waiting first, lobby.waiting second⟩]
  }

/-- Setting a call in a meta touches nothing else. -/
theorem setCall_eq (lobby : Lobby) (socketId : SocketId) (callId : Uuid)
    : lobby.setCall socketId callId
      = { lobby with sockets := (lobby.setCall socketId callId).sockets } := by
  unfold Lobby.setCall
  split
  · rfl
  · rfl

/-- An announcement touches the metas, the emissions and the history of announcements. -/
theorem announce_eq (lobby : Lobby) (first second : Item) (callId : Uuid)
    : announce lobby first second callId
      = {
          lobby with
          sockets := (announce lobby first second callId).sockets
          emitted := (announce lobby first second callId).emitted
          announced :=
            lobby.announced
              ++ [⟨first, second, lobby.waiting first, lobby.waiting second⟩]
        } := by
  simp only [announce]
  rw [setCall_eq (lobby.setCall first.raw.parse.socketId callId), setCall_eq lobby]

/-- The next step of `onJoinQueue`. -/
def onJoinQueue (input : Instant) (lobby : Lobby) (entry : QueueEntry) (since : Nat)
    : JoinStage → Option (Lobby × JoinStage)
  | .enqueue stage =>
      (MatchmakingService.enqueue since input.now lobby.redis entry stage).map
        (fun result =>
          let lobby' := { lobby with redis := result.1 }
          match result.2 with
          | .returned position => (lobby', .queueDepth position lobby.countOnlineUsers)
          | next => (lobby', .enqueue next))
  | .queueDepth position onlineUsers =>
      some (
        {
          lobby with
          emitted :=
            lobby.emitted
              ++ [.matchQueued entry.socketId position onlineUsers lobby.redis.queue.length]
        },
        .tryMatch .eval)
  | .tryMatch stage =>
      (MatchmakingService.tryMatch input.now lobby.redis stage).map
        (fun result =>
          let lobby' := { lobby with redis := result.1 }
          match result.2 with
          | .returned none => (lobby', .broadcast lobby.countOnlineUsers)
          | .returned (some (first, second)) => (lobby', .createSession first second)
          | next => (lobby', .tryMatch next))
  | .createSession first second =>
      some (lobby, .pairing first second input.uuid pairAwaits)
  | .pairing first second callId (_ :: todo) =>
      if todo = [] then
        some (announce lobby first second callId, .broadcast lobby.countOnlineUsers)
      else
        some (lobby, .pairing first second callId todo)
  | .pairing _ _ _ [] => none
  | .broadcast onlineUsers => some (broadcastQueueStatus lobby onlineUsers, .done)
  | .done => none

/-- A `dequeue` called by handler `owner` runs its next command; `next` is what the handler
does when it has returned. -/
def dequeueStep {ρ : Type} (owner : Nat) (lobby : Lobby) (socketId : SocketId)
    (stage : DequeueStage) (running : DequeueStage → ρ) (next : Lobby → Lobby × ρ)
    : Option (Lobby × ρ) :=
  (MatchmakingService.dequeue lobby.redis socketId stage).map
    (fun result =>
      match result.2 with
      | .returned =>
          next {
            lobby with
            redis := result.1
            time := lobby.time + 1
            departedAt := Function.update lobby.departedAt socketId lobby.time
            departing := lobby.departing.erase (owner, socketId)
          }
      | stage' => ({ lobby with redis := result.1 }, running stage'))

/-- The next step of `onLeaveQueue`. -/
def onLeaveQueue (owner : Nat) (lobby : Lobby) (socketId : SocketId)
    : LeaveStage → Option (Lobby × LeaveStage)
  | .dequeue stage =>
      dequeueStep owner lobby socketId stage .dequeue
        (fun returned => (returned, .broadcast returned.countOnlineUsers))
  | .broadcast onlineUsers => some (broadcastQueueStatus lobby onlineUsers, .done)
  | .done => none

/-- The end of `handleDisconnect`: the socket is forgotten. -/
def forget (lobby : Lobby) (socketId : SocketId) : Lobby × DisconnectStage :=
  let lobby' := { lobby with sockets := lobby.sockets.erase socketId }
  (lobby', .broadcast lobby'.countOnlineUsers)

/-- `handleDisconnect` after `dequeue`: a call that the socket is in is ended first. -/
def endOrForget (lobby : Lobby) (socketId : SocketId) : Lobby × DisconnectStage :=
  match (lobby.sockets.lookup socketId).bind SocketMeta.callId with
  | some callId => (lobby, .endCall callId [.updateStatus, .markParticipantLeft, .logEnded])
  | none => forget lobby socketId

/-- The next step of `handleDisconnect`. -/
def handleDisconnect (owner : Nat) (lobby : Lobby) (socketId : SocketId)
    : DisconnectStage → Option (Lobby × DisconnectStage)
  | .dequeue stage =>
      dequeueStep owner lobby socketId stage .dequeue
        (fun returned => endOrForget returned socketId)
  | .endCall callId (_ :: todo) =>
      if todo = [] then
        some (forget { lobby with emitted := lobby.emitted ++ [.callEnded callId] } socketId)
      else
        some (lobby, .endCall callId todo)
  | .endCall _ [] => none
  | .broadcast onlineUsers => some (broadcastQueueStatus lobby onlineUsers, .done)
  | .done => none

/-- What follows the `dequeue` of a disconnect only touches `this.sockets`. -/
theorem endOrForget_eq (lobby : Lobby) (socketId : SocketId)
    : (endOrForget lobby socketId).1
      = { lobby with sockets := (endOrForget lobby socketId).1.sockets } := by
  unfold endOrForget
  split
  · rfl
  · rfl

/-- `handleConnection` after its queue depth has been read. -/
def handleConnection (lobby : Lobby) : ConnectStage → Option (Lobby × ConnectStage)
  | .broadcast onlineUsers => some (broadcastQueueStatus lobby onlineUsers, .done)
  | .done => none

end SignalingGateway

open SignalingGateway

/-- An event arrives. Only a connected socket sends events, a socket id is never used again,
and a join builds its entry from the meta of its socket. -/
def Handler.start (owner : Nat) (lobby : Lobby) : Handler → Option Lobby
  | .connect socketId userId anonymousId (.broadcast onlineUsers) =>
      let lobby' := {
        lobby with
        sockets := lobby.sockets.insert socketId ⟨userId, anonymousId, none⟩
        connected := Function.update lobby.connected socketId true
        used := socketId :: lobby.used
      }
      if socketId ∉ lobby.used ∧ onlineUsers = lobby'.countOnlineUsers then
        some lobby'
      else
        none
  | .join entry since (.enqueue .rpush) =>
      match lobby.sockets.lookup entry.socketId with
      | none => none
      | some known =>
          if lobby.connected entry.socketId ∧ since = lobby.time
              ∧ entry.userId = known.userId ∧ entry.anonymousId = known.anonymousId
              ∧ entry.isAnonymous = known.userId.isNone then
            some { lobby with time := lobby.time + 1 }
          else
            none
  | .leave socketId (.dequeue .hget) =>
      if lobby.connected socketId then
        some { lobby with departing := (owner, socketId) :: lobby.departing }
      else
        none
  | .disconnect socketId (.dequeue .hget) =>
      if lobby.connected socketId then
        some {
          lobby with
          connected := Function.update lobby.connected socketId false
          departing := (owner, socketId) :: lobby.departing
        }
      else
        none
  | _ => none

/-- The next step of a handler. -/
def Handler.step (owner : Nat) (input : Instant) (lobby : Lobby)
    : Handler → Option (Lobby × Handler)
  | .connect socketId userId anonymousId stage =>
      (handleConnection lobby stage).map
        (fun result => (result.1, .connect socketId userId anonymousId result.2))
  | .join entry since stage =>
      (onJoinQueue input lobby entry since stage).map
        (fun result => (result.1, .join entry since result.2))
  | .leave socketId stage =>
      (onLeaveQueue owner lobby socketId stage).map
        (fun result => (result.1, .leave socketId result.2))
  | .disconnect socketId stage =>
      (handleDisconnect owner lobby socketId stage).map
        (fun result => (result.1, .disconnect socketId result.2))

/-- The handlers of any number of sockets. -/
def lobbyProgram : Program Lobby Handler Instant where
  start := Handler.start
  step := Handler.step

/-- Every interleaving of these handlers, from an empty queue. -/
abbrev lobbyMachine : Machine (Pool Lobby Handler) (Move Handler Instant) :=
  lobbyProgram.machine Lobby.empty

-----------------------------------------------------------------------------------------
-- Handlers other than joins
-----------------------------------------------------------------------------------------

def Handler.isJoin : Handler → Bool
  | .join _ _ _ => true
  | _ => false

/-- Entries are at most taken out of the list, and nobody is matched. -/
structure TakesOut (lobby lobby' : Lobby) : Prop where
  queue : lobby'.redis.queue.Sublist lobby.redis.queue
  misses : lobby'.redis.misses = lobby.redis.misses
  matched : lobby'.redis.matched = lobby.redis.matched
  announced : lobby'.announced = lobby.announced

theorem TakesOut.of_eq {lobby lobby' : Lobby} (redis : lobby'.redis = lobby.redis)
    (announced : lobby'.announced = lobby.announced)
    : TakesOut lobby lobby' where
  queue := redis ▸ .refl _
  misses := by rw [redis]
  matched := by rw [redis]
  announced := announced

section

variable {lobby lobby' : Lobby} {owner : Nat} {input : Instant}

/-- `dequeue` only takes entries out of the list, and matches nobody. -/
theorem dequeue_takes_out {store store' : QueueStore} {socketId : SocketId}
    {stage stage' : DequeueStage}
    (ran : MatchmakingService.dequeue store socketId stage = some (store', stage'))
    : store'.queue.Sublist store.queue
      ∧ store'.misses = store.misses
      ∧ store'.matched = store.matched := by
  cases stage with
  | hget =>
      simp only [MatchmakingService.dequeue] at ran
      split at ran
      · cases ran
        exact ⟨.refl _, rfl, rfl⟩
      · cases ran
        exact ⟨.refl _, rfl, rfl⟩
  | lrem raw =>
      cases ran
      exact ⟨List.eraseP_sublist, rfl, rfl⟩
  | hdel raw =>
      cases ran
      exact ⟨.refl _, rfl, rfl⟩
  | audit raw =>
      cases ran
      exact ⟨.refl _, rfl, rfl⟩
  | returned => cases ran

/-- So does the handler that calls it, when what follows leaves Redis and the records
alone. -/
theorem dequeueStep_takes_out {ρ : Type} {socketId : SocketId} {stage : DequeueStage}
    {running : DequeueStage → ρ} {next : Lobby → Lobby × ρ} {result : ρ}
    (leaves
      : ∀ lobby,
          (next lobby).1.redis = lobby.redis ∧ (next lobby).1.announced = lobby.announced)
    (ran : dequeueStep owner lobby socketId stage running next = some (lobby', result))
    : TakesOut lobby lobby' := by
  obtain ⟨⟨store, stage'⟩, dequeued, same⟩ := Option.map_eq_some_iff.mp ran
  obtain ⟨queue, misses, matched⟩ := dequeue_takes_out dequeued
  split at same
  · obtain ⟨redis, announced⟩ := leaves {
      lobby with
      redis := store
      time := lobby.time + 1
      departedAt := Function.update lobby.departedAt socketId lobby.time
      departing := lobby.departing.erase (owner, socketId)
    }
    rw [same] at redis announced
    exact ⟨redis ▸ queue, redis ▸ misses, redis ▸ matched, announced⟩
  · cases same
    exact ⟨queue, misses, matched, rfl⟩

/-- Every step of a handler other than a join takes entries out at most. -/
theorem handler_takes_out {handler handler' : Handler} (noJoin : handler.isJoin = false)
    (ran : handler.step owner input lobby = some (lobby', handler'))
    : TakesOut lobby lobby' ∧ handler'.isJoin = false := by
  cases handler with
  | join entry since stage => cases noJoin
  | connect socketId userId anonymousId stage =>
      obtain ⟨⟨_, _⟩, stepped, same⟩ := Option.map_eq_some_iff.mp ran
      cases same
      cases stage with
      | broadcast onlineUsers =>
          cases stepped
          exact ⟨.of_eq rfl rfl, rfl⟩
      | done => cases stepped
  | leave socketId stage =>
      obtain ⟨⟨_, _⟩, stepped, same⟩ := Option.map_eq_some_iff.mp ran
      cases same
      cases stage with
      | dequeue stage =>
          simp only [onLeaveQueue] at stepped
          exact ⟨dequeueStep_takes_out (fun _ => ⟨rfl, rfl⟩) stepped, rfl⟩
      | broadcast onlineUsers =>
          cases stepped
          exact ⟨.of_eq rfl rfl, rfl⟩
      | done => cases stepped
  | disconnect socketId stage =>
      obtain ⟨⟨_, _⟩, stepped, same⟩ := Option.map_eq_some_iff.mp ran
      cases same
      cases stage with
      | dequeue stage =>
          simp only [handleDisconnect] at stepped
          refine ⟨dequeueStep_takes_out (fun _ => ?_) stepped, rfl⟩
          rw [endOrForget_eq]
          exact ⟨rfl, rfl⟩
      | endCall callId todo =>
          cases todo with
          | nil => cases stepped
          | cons head rest =>
              simp only [handleDisconnect] at stepped
              split at stepped
              · cases stepped
                exact ⟨.of_eq rfl rfl, rfl⟩
              · cases stepped
                exact ⟨.of_eq rfl rfl, rfl⟩
      | broadcast onlineUsers =>
          cases stepped
          exact ⟨.of_eq rfl rfl, rfl⟩
      | done => cases stepped

end

end NexusComms.Matchmaking
