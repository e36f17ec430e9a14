import NexusComms.Matchmaking.StatusBoard
import NexusComms.Signaling.Fifo
import NexusComms.Signaling.PairScript
import NexusComms.Signaling.Seating

/-! The handlers of the queue are modelled twice: suspended at every `await`, and run from their
event to their end. When each of them runs by itself, the lobby of the first model is what the
gateway of the second shows of the queue, and the clients are told the same; so runs of the
gateway that only use the queue are runs of the lobby.
-/

namespace NexusComms.Matchmaking

open Concurrency Program SignalingGateway

-----------------------------------------------------------------------------------------
-- Two stores with the same queue
-----------------------------------------------------------------------------------------

/-- The same texts wait, under the same sockets, and the same rows have been written. The tags
of the items are history, and may differ. -/
structure SameQueue (store store' : QueueStore) : Prop where
  queue : store.queue.map Item.raw = store'.queue.map Item.raw
  sockets : store.sockets = store'.sockets
  audits : store.audits = store'.audits

/-- What the commands of `enqueue` leave. -/
def QueueStore.enqueued (store : QueueStore) (tag : Nat) (now : Time) (entry : QueueEntry)
    : QueueStore :=
  let raw : Serialized := .stringify { entry with enqueuedAt := now }
  {
    store with
    queue := store.queue ++ [⟨raw, tag⟩]
    pushed := store.pushed ++ [⟨raw, tag⟩]
    sockets := Function.update store.sockets entry.socketId (some raw)
    audits :=
      store.audits
        ++ [.matchQueued entry.userId entry.anonymousId entry.socketId entry.preferredType]
  }

/-- Whether an item is fresh does not depend on its tag. -/
theorem fresh_congr {item item' : Item} (same : item.raw = item'.raw) (now : Time)
    : item.fresh now = item'.fresh now := by
  simp only [Item.fresh, same]

namespace SameQueue

variable {store store' : QueueStore}

theorem length (same : SameQueue store store') : store.queue.length = store'.queue.length := by
  simpa using congrArg List.length same.queue

/-- `enqueue` pushes the same text, at the same position. -/
theorem enqueue (same : SameQueue store store') (tag : Nat) (now : Time) (entry : QueueEntry)
    : SameQueue (store.enqueued tag now entry)
          (Signaling.MatchmakingService.enqueue now store' entry).1
      ∧ (store.enqueued tag now entry).queue.length
        = (Signaling.MatchmakingService.enqueue now store' entry).2 := by
  rw [Signaling.enqueue_eq]
  refine ⟨⟨?_, ?_, ?_⟩, ?_⟩
  · simp [QueueStore.enqueued, same.queue]
  · simp only [QueueStore.enqueued, same.sockets]
  · simp only [QueueStore.enqueued, same.audits]
  · simp [QueueStore.enqueued, same.length]

/-- `dequeue` takes the same text out. -/
theorem dequeue (same : SameQueue store store') (socketId : SocketId)
    : SameQueue (Signaling.MatchmakingService.dequeue store socketId)
        (Signaling.MatchmakingService.dequeue store' socketId) := by
  have indexed : store'.sockets socketId = store.sockets socketId := by rw [same.sockets]
  cases present : store.sockets socketId with
  | none =>
      rw [Signaling.dequeue_absent present, Signaling.dequeue_absent (indexed.trans present)]
      exact same
  | some raw =>
      rw [Signaling.dequeue_present present, Signaling.dequeue_present (indexed.trans present)]
      refine ⟨?_, ?_, ?_⟩
      · have taken (queue : List Item)
            : (queue.eraseP (fun item => item.raw = raw)).map Item.raw
              = (queue.map Item.raw).eraseP (· = raw) := by
          rw [List.eraseP_map]
          rfl
        simp only [taken, same.queue]
      · simp only [QueueStore.hdel, same.sockets]
      · simp only [same.audits]

/-- `tryMatch` pops the same texts and finds the same pair. -/
theorem tryMatch (same : SameQueue store store') (now : Time)
    : SameQueue (Signaling.MatchmakingService.tryMatch now store).1
          (Signaling.MatchmakingService.tryMatch now store').1
      ∧ (Signaling.MatchmakingService.tryMatch now store).2
        = (Signaling.MatchmakingService.tryMatch now store').2 := by
  have length := same.length
  have raws := same.queue
  match waiting : store.queue, waiting' : store'.queue with
  | [], queue =>
      have few : store'.queue.length < 2 := by rw [← length, waiting]; exact Nat.zero_lt_two
      rw [Signaling.tryMatch_few (by simp [waiting]), Signaling.tryMatch_few few]
      exact ⟨⟨same.queue, same.sockets, same.audits⟩, rfl⟩
  | [only], queue =>
      have few : store'.queue.length < 2 := by rw [← length, waiting]; exact Nat.one_lt_two
      rw [Signaling.tryMatch_few (by simp [waiting]), Signaling.tryMatch_few few]
      exact ⟨⟨same.queue, same.sockets, same.audits⟩, rfl⟩
  | first :: second :: rest, [] => simp [waiting, waiting'] at length
  | first :: second :: rest, [only] => simp [waiting, waiting'] at length
  | first :: second :: rest, first' :: second' :: rest' =>
      rw [waiting, waiting'] at raws
      simp only [List.map_cons, List.cons.injEq] at raws
      obtain ⟨firstRaw, secondRaw, others⟩ := raws
      have firstId : first.socketId = first'.socketId := by simp only [Item.socketId, firstRaw]
      have secondId : second.socketId = second'.socketId := by
        simp only [Item.socketId, secondRaw]
      have firstAge := fresh_congr firstRaw now
      have secondAge := fresh_congr secondRaw now
      cases firstFresh : first.fresh now with
      | false =>
          rw [firstFresh] at firstAge
          cases secondFresh : second.fresh now with
          | false =>
              rw [secondFresh] at secondAge
              rw [Signaling.tryMatch_stale waiting firstFresh secondFresh,
                Signaling.tryMatch_stale waiting' firstAge.symm secondAge.symm]
              refine ⟨⟨others, ?_, same.audits⟩, rfl⟩
              simp only [QueueStore.hdel, same.sockets, firstId, secondId]
          | true =>
              rw [secondFresh] at secondAge
              rw [Signaling.tryMatch_put_back waiting firstFresh secondFresh,
                Signaling.tryMatch_put_back waiting' firstAge.symm secondAge.symm]
              refine ⟨⟨by simp [secondRaw, others], ?_, same.audits⟩, rfl⟩
              simp only [QueueStore.hdel, same.sockets, firstId]
      | true =>
          rw [firstFresh] at firstAge
          cases secondFresh : second.fresh now with
          | false =>
              rw [secondFresh] at secondAge
              rw [Signaling.tryMatch_put_first_back waiting firstFresh secondFresh,
                Signaling.tryMatch_put_first_back waiting' firstAge.symm secondAge.symm]
              refine ⟨⟨by simp [firstRaw, others], ?_, same.audits⟩, rfl⟩
              simp only [QueueStore.hdel, same.sockets, secondId]
          | true =>
              rw [secondFresh] at secondAge
              rw [Signaling.tryMatch_fresh waiting firstFresh secondFresh,
                Signaling.tryMatch_fresh waiting' firstAge.symm secondAge.symm]
              refine ⟨⟨others, ?_, ?_⟩, by simp only [firstRaw, secondRaw]⟩
              · simp only [QueueStore.hdel, same.sockets, firstId, secondId]
              · simp only [same.audits, firstRaw, secondRaw]

end SameQueue

-----------------------------------------------------------------------------------------
-- What the gateway shows
-----------------------------------------------------------------------------------------

/-- What the queue handlers know of a meta. -/
def seenMeta (known : Signaling.SocketMeta) : SocketMeta :=
  ⟨known.userId, known.anonymousId, known.callId.bind Signaling.Text.cast⟩

/-- An emission that concerns the queue. -/
def seenOutput : Signaling.Output → Option Emission
  | .emit ⟨.everyone, .queueStatus onlineUsers searchingUsers, _, _⟩ =>
      some (.queueStatus onlineUsers searchingUsers)
  | .emit ⟨.client receiver, .matchQueued position onlineUsers searchingUsers, _, _⟩ =>
      some (.matchQueued receiver position onlineUsers searchingUsers)
  | .emit ⟨.room (.socket receiver) none,
        .matchFound callId callType isInitiator bothRegistered partnerUserId, _, _⟩ =>
      some (.matchFound receiver callId callType isInitiator bothRegistered partnerUserId)
  | .emit ⟨.room _ none, .callEnded callId .peerDisconnected, _, _⟩ =>
      callId.cast.map .callEnded
  | _ => none

/-- The lobby is what the gateway shows of the queue. The gateway knows whoever is connected. -/
structure Mirrors (lobby : Lobby) (gateway : Signaling.Gateway) : Prop where
  queue : SameQueue lobby.redis gateway.redis
  sockets
    : ∀ socketId,
        lobby.sockets.lookup socketId = (gateway.sockets.lookup socketId).map seenMeta
  connected
    : ∀ socketId, lobby.connected socketId = (gateway.sockets.lookup socketId).isSome

/-- The outcome of a handler is what the lobby has become and what it has emitted. -/
structure Follows (lobby lobby' : Lobby) (opened : List SocketId)
    (outcome : Signaling.Outcome)
    : Prop where
  mirrors : Mirrors lobby' outcome.gateway
  used : lobby'.used = opened ++ lobby.used
  emitted : lobby'.emitted = lobby.emitted ++ outcome.outputs.filterMap seenOutput

/-- A handler runs by itself, from its event to its end. -/
def Runs (owner : Nat) (lobby : Lobby) (handler : Handler) (lobby' : Lobby) : Prop :=
  ∃ started inputs handler',
    handler.start owner lobby = some started
    ∧ lobbyProgram.alone owner started handler inputs = some (lobby', handler')
    ∧ handler'.finished = true

/-- What the metas of a map come to, whatever their order. -/
theorem mem_map_entries {ν β : Type} {map : AList (fun _ : SocketId => ν)} {f : ν → β}
    {value : β}
    : value ∈ map.entries.map (fun entry => f entry.2)
      ↔ ∃ socketId known, map.lookup socketId = some known ∧ f known = value := by
  rw [List.mem_map]
  constructor
  · rintro ⟨⟨socketId, known⟩, member, same⟩
    exact ⟨socketId, known, AList.mem_lookup_iff.mpr member, same⟩
  · rintro ⟨socketId, known, found, same⟩
    exact ⟨⟨socketId, known⟩, AList.mem_lookup_iff.mp found, same⟩

namespace Mirrors

variable {lobby : Lobby} {gateway : Signaling.Gateway}

/-- Commands of the queue change nothing else. -/
theorem redis (mirrors : Mirrors lobby gateway) {redis redis' : QueueStore}
    (same : SameQueue redis redis')
    : Mirrors { lobby with redis := redis } { gateway with redis := redis' } :=
  ⟨same, mirrors.sockets, mirrors.connected⟩

/-- Both count the same people. -/
theorem online (mirrors : Mirrors lobby gateway)
    : lobby.countOnlineUsers = Signaling.SignalingGateway.countOnlineUsers gateway := by
  refine (List.perm_ext_iff_of_nodup (List.nodup_dedup _) (List.nodup_dedup _)).mpr
    (fun person => ?_) |>.length_eq
  rw [List.mem_dedup, List.mem_dedup]
  refine (mem_map_entries (f := SocketMeta.person)).trans (Iff.trans ?_
    (mem_map_entries (f := Signaling.SocketMeta.identity)).symm)
  constructor
  · rintro ⟨socketId, known, found, rfl⟩
    rw [mirrors.sockets] at found
    obtain ⟨known', found', rfl⟩ := Option.map_eq_some_iff.mp found
    exact ⟨socketId, known', found', rfl⟩
  · rintro ⟨socketId, known, found, rfl⟩
    exact ⟨socketId, seenMeta known, by rw [mirrors.sockets, found]; rfl, rfl⟩

/-- Both broadcast the same. -/
theorem broadcast (mirrors : Mirrors lobby gateway)
    : [Signaling.SignalingGateway.broadcastQueueStatus gateway].filterMap seenOutput
      = [.queueStatus lobby.countOnlineUsers lobby.redis.queue.length] := by
  rw [mirrors.online, mirrors.queue.length]
  rfl

/-- A handler that ends with the broadcast does so in both. -/
theorem ends (mirrors : Mirrors lobby gateway) {earlier : Lobby} {opened : List SocketId}
    {reply : Except Signaling.Failure Signaling.Reply} (outputs : List Signaling.Output)
    (used : lobby.used = opened ++ earlier.used)
    (emitted : lobby.emitted = earlier.emitted ++ outputs.filterMap seenOutput)
    : Follows earlier (broadcastQueueStatus lobby lobby.countOnlineUsers) opened
        ⟨gateway, reply,
          outputs ++ [Signaling.SignalingGateway.broadcastQueueStatus gateway]⟩ where
  mirrors := ⟨mirrors.queue, mirrors.sockets, mirrors.connected⟩
  used := used
  emitted := by
    rw [broadcastQueueStatus, emitted, List.filterMap_append, mirrors.broadcast,
      List.append_assoc]

end Mirrors

-----------------------------------------------------------------------------------------
-- Connecting and leaving
-----------------------------------------------------------------------------------------

section

variable {owner : Nat} {lobby : Lobby} {gateway : Signaling.Gateway} {socketId : SocketId}

/-- A connection by itself. -/
theorem handleConnection_alone (owner : Nat) (mirrors : Mirrors lobby gateway)
    (new : socketId ∉ lobby.used) (userId : Option Uuid) (anonymousId : Uuid)
    : ∃ onlineUsers lobby',
        Runs owner lobby (.connect socketId userId anonymousId (.broadcast onlineUsers)) lobby'
        ∧ Follows lobby lobby' [socketId]
            (Signaling.SignalingGateway.handleConnection gateway socketId userId anonymousId)
      := by
  let started : Lobby := {
    lobby with
    sockets := lobby.sockets.insert socketId ⟨userId, anonymousId, none⟩
    connected := Function.update lobby.connected socketId true
    used := socketId :: lobby.used
  }
  have starts
      : Handler.start owner lobby
          (.connect socketId userId anonymousId (.broadcast started.countOnlineUsers))
        = some started :=
    if_pos ⟨new, rfl⟩
  have shown
      : Mirrors started
          (Signaling.SignalingGateway.handleConnection gateway socketId userId
            anonymousId).gateway := by
    refine ⟨mirrors.queue, fun other => ?_, fun other => ?_⟩
    · by_cases same : other = socketId
      · subst same
        simp [started, Signaling.SignalingGateway.handleConnection, seenMeta]
      · simp [started, Signaling.SignalingGateway.handleConnection, same, mirrors.sockets]
    · by_cases same : other = socketId
      · subst same
        simp [started, Signaling.SignalingGateway.handleConnection]
      · simp [started, Signaling.SignalingGateway.handleConnection, same, mirrors.connected]
  exact ⟨_, _, ⟨started, [⟨0, 0⟩], _, starts, rfl, rfl⟩,
    shown.ends [] rfl (List.append_nil _).symm⟩

/-- What a `dequeue` leaves when it returns. -/
def dequeued (owner : Nat) (lobby : Lobby) (socketId : SocketId) : Lobby :=
  {
    lobby with
    redis := Signaling.MatchmakingService.dequeue lobby.redis socketId
    time := lobby.time + 1
    departedAt := Function.update lobby.departedAt socketId lobby.time
    departing := lobby.departing.erase (owner, socketId)
  }

/-- What a handler makes of the stages of its `dequeue`. -/
theorem dequeueStep_map {ρ ρ' : Type} {stage : DequeueStage} {running : DequeueStage → ρ}
    {next : Lobby → Lobby × ρ} (handler : ρ → ρ')
    : (dequeueStep owner lobby socketId stage running next).map
          (fun result => (result.1, handler result.2))
      = dequeueStep owner lobby socketId stage (fun stage => handler (running stage))
          (fun returned => ((next returned).1, handler (next returned).2)) := by
  unfold dequeueStep
  rw [Option.map_map]
  refine congrArg (Option.map · _) (funext fun result => ?_)
  rw [Function.comp_apply]
  split
  · rfl
  · rfl

/-- A `dequeue` by itself, in a handler that goes on with `next`. -/
theorem dequeue_alone {running : DequeueStage → Handler} {next : Lobby → Lobby × Handler}
    (steps
      : ∀ input lobby stage,
          (running stage).step owner input lobby
          = dequeueStep owner lobby socketId stage running next)
    : ∃ inputs,
        lobbyProgram.alone owner lobby (running .hget) inputs
        = some (next (dequeued owner lobby socketId)) := by
  cases present : lobby.redis.sockets socketId with
  | none =>
      refine ⟨[⟨0, 0⟩], ?_⟩
      simp [Program.alone, lobbyProgram, steps, dequeueStep, MatchmakingService.dequeue,
        present, dequeued, Signaling.dequeue_absent present]
  | some raw =>
      refine ⟨[⟨0, 0⟩, ⟨0, 0⟩, ⟨0, 0⟩, ⟨0, 0⟩], ?_⟩
      simp [Program.alone, lobbyProgram, steps, dequeueStep, MatchmakingService.dequeue,
        present, dequeued, Signaling.dequeue_present present, QueueStore.hdel]

/-- A `match:leave` by itself. -/
theorem onLeaveQueue_alone (owner : Nat) (mirrors : Mirrors lobby gateway)
    (known : (gateway.sockets.lookup socketId).isSome = true)
    : ∃ lobby',
        Runs owner lobby (.leave socketId (.dequeue .hget)) lobby'
        ∧ Follows lobby lobby' []
            (Signaling.SignalingGateway.onLeaveQueue gateway socketId) := by
  let started : Lobby := { lobby with departing := (owner, socketId) :: lobby.departing }
  let left := dequeued owner started socketId
  have starts
      : Handler.start owner lobby (.leave socketId (.dequeue .hget)) = some started := by
    simp [Handler.start, mirrors.connected, known, started]
  obtain ⟨inputs, ran⟩
      : ∃ inputs,
          lobbyProgram.alone owner started (.leave socketId (.dequeue .hget)) inputs
          = some (left, .leave socketId (.broadcast left.countOnlineUsers)) := by
    have steps (input : Instant) (lobby : Lobby) (stage : DequeueStage)
        : (Handler.leave socketId (.dequeue stage)).step owner input lobby
          = dequeueStep owner lobby socketId stage
              (fun stage => .leave socketId (.dequeue stage))
              (fun returned =>
                (returned, .leave socketId (.broadcast returned.countOnlineUsers))) := by
      rw [Handler.step, onLeaveQueue]
      exact dequeueStep_map (Handler.leave socketId)
    exact dequeue_alone steps
  have broadcasts
      : lobbyProgram.alone owner left (.leave socketId (.broadcast left.countOnlineUsers))
          [⟨0, 0⟩]
        = some (broadcastQueueStatus left left.countOnlineUsers, .leave socketId .done) :=
    rfl
  let gateway' : Signaling.Gateway := {
    gateway with redis := Signaling.MatchmakingService.dequeue gateway.redis socketId
  }
  have shown : Mirrors left gateway' :=
    ⟨mirrors.queue.dequeue socketId, mirrors.sockets, mirrors.connected⟩
  exact ⟨_, ⟨started, inputs ++ [⟨0, 0⟩], _, starts,
    (lobbyProgram.alone_append _ ran).trans broadcasts, rfl⟩,
    shown.ends [] rfl (List.append_nil _).symm⟩

end

-----------------------------------------------------------------------------------------
-- Disconnecting
-----------------------------------------------------------------------------------------

section Unseen

/-- Audit rows are not told to any client. -/
@[simp]
theorem log_unseen (db : Signaling.Database) (userId : Option Uuid)
    (event : Signaling.AuditEvent)
    : (Signaling.AuditService.log db userId event).filterMap seenOutput = [] := by
  unfold Signaling.AuditService.log
  split
  · rfl
  · rfl

/-- Nor are the statuses of calls. -/
@[simp]
theorem updateStatus_unseen (now : Nat) (db : Signaling.Database) (id : Uuid)
    (update : Signaling.StatusUpdate)
    : (Signaling.CallsRepository.updateStatus now db id update).2.filterMap seenOutput
      = [] := by
  unfold Signaling.CallsRepository.updateStatus
  split
  · rfl
  · rfl

/-- `endCall` tells no client. -/
theorem endCall_unseen (now : Nat) (db : Signaling.Database)
    (params : Signaling.CallsService.EndParams)
    : (Signaling.CallsService.endCall now db params).outputs.filterMap seenOutput = [] := by
  unfold Signaling.CallsService.endCall
  split
  · rfl
  · simp

/-- `endCall` returns only if PostgreSQL reads the id of the call. -/
theorem endCall_ok {now : Nat} {db db' : Signaling.Database}
    {params : Signaling.CallsService.EndParams} {outputs : List Signaling.Output}
    (served : Signaling.CallsService.endCall now db params = ⟨db', outputs, .ok ()⟩)
    : ∃ id, params.callId.cast = some id := by
  unfold Signaling.CallsService.endCall at served
  split at served
  · cases served
  · next id named => exact ⟨id, named⟩

/-- `initiateCall` tells no client. -/
theorem initiateCall_unseen (now : Nat) (db : Signaling.Database) (id : Uuid)
    (params : Signaling.CallsService.InitiateParams)
    : (Signaling.CallsService.initiateCall now db id params).outputs.filterMap seenOutput
      = [] := by
  unfold Signaling.CallsService.initiateCall
  split
  · rfl
  · split
    · rfl
    · simp

/-- `acceptCall` tells no client. -/
theorem acceptCall_unseen (now : Nat) (db : Signaling.Database)
    (params : Signaling.CallsService.AcceptParams)
    : (Signaling.CallsService.acceptCall now db params).outputs.filterMap seenOutput = [] := by
  unfold Signaling.CallsService.acceptCall
  split
  · rfl
  · split
    · rfl
    · dsimp only
      split
      · simp
      · simp

end Unseen

section

variable {owner : Nat} {lobby : Lobby} {gateway : Signaling.Gateway} {socketId : SocketId}

/-- The lobby without a socket, whose call has been ended. -/
def departed (lobby : Lobby) (socketId : SocketId) : Lobby :=
  {
    lobby with
    sockets := lobby.sockets.erase socketId
    emitted :=
      lobby.emitted
        ++ ((lobby.sockets.lookup socketId).bind SocketMeta.callId).toList.map .callEnded
  }

/-- What follows the `dequeue` of a disconnect, by itself. -/
theorem endOrForget_alone (owner : Nat) (lobby : Lobby) (socketId : SocketId)
    : ∃ inputs,
        lobbyProgram.alone owner (endOrForget lobby socketId).1
          (.disconnect socketId (endOrForget lobby socketId).2) inputs
        = some (
            broadcastQueueStatus (departed lobby socketId)
              (departed lobby socketId).countOnlineUsers,
            .disconnect socketId .done) := by
  cases called : (lobby.sockets.lookup socketId).bind SocketMeta.callId with
  | none =>
      refine ⟨[⟨0, 0⟩], ?_⟩
      simp [endOrForget, called, forget, departed, Program.alone, lobbyProgram, Handler.step,
        handleDisconnect]
  | some callId =>
      refine ⟨[⟨0, 0⟩, ⟨0, 0⟩, ⟨0, 0⟩, ⟨0, 0⟩], ?_⟩
      simp [endOrForget, called, forget, departed, Program.alone, lobbyProgram, Handler.step,
        handleDisconnect]

/-- The gateway still knows a socket whose transport is gone; otherwise it shows the lobby. -/
structure Fading (lobby : Lobby) (gateway : Signaling.Gateway) (socketId : SocketId)
    : Prop where
  queue : SameQueue lobby.redis gateway.redis
  sockets
    : ∀ other, lobby.sockets.lookup other = (gateway.sockets.lookup other).map seenMeta
  connected
    : ∀ other,
        lobby.connected other
        = (decide (other ≠ socketId) && (gateway.sockets.lookup other).isSome)

/-- A gateway that has forgotten the socket shows the lobby that it has left. -/
theorem Fading.forget (fading : Fading lobby gateway socketId) (known : Signaling.SocketMeta)
    : Mirrors (departed lobby socketId)
        (Signaling.SignalingGateway.forget gateway socketId known).gateway where
  queue := by
    rw [Signaling.forget_redis]
    exact fading.queue
  sockets := fun other => by
    rw [Signaling.forget_sockets, departed]
    by_cases same : other = socketId
    · subst same
      simp
    · simp [same, fading.sockets]
  connected := fun other => by
    rw [Signaling.forget_sockets]
    refine (fading.connected other).trans ?_
    by_cases same : other = socketId
    · subst same
      simp
    · simp [same]

/-- Of what `forget` tells the clients only the broadcast concerns the queue. -/
theorem forget_unseen (gateway : Signaling.Gateway) (socketId : SocketId)
    (known : Signaling.SocketMeta)
    : (Signaling.SignalingGateway.forget gateway socketId known).outputs.filterMap seenOutput
      = [Signaling.SignalingGateway.broadcastQueueStatus
          (Signaling.SignalingGateway.forget gateway socketId known).gateway].filterMap
          seenOutput := by
  unfold Signaling.SignalingGateway.forget
  cases known.roomId.filter Signaling.Text.truthy with
  | none => rfl
  | some roomId => exact List.filterMap_cons_none (by cases roomId <;> rfl)

/-- The room of a call is told under the id that PostgreSQL reads. -/
theorem callEnded_seen (gateway : Signaling.Gateway) (room callId : Signaling.Text)
    : seenOutput (gateway.emit (.room room) (.callEnded callId .peerDisconnected))
      = callId.cast.map .callEnded := by
  cases room <;> rfl

/-- The gateway ends the same call and forgets the socket, unless `endCall` throws. -/
theorem Fading.endOrForget (fading : Fading lobby gateway socketId) {now : Nat}
    {known : Signaling.SocketMeta} (found : gateway.sockets.lookup socketId = some known)
    {reply : Signaling.Reply}
    (settled
      : (Signaling.SignalingGateway.endOrForget now gateway socketId known).reply = .ok reply)
    : Follows lobby
        (broadcastQueueStatus (departed lobby socketId)
          (departed lobby socketId).countOnlineUsers)
        []
        (Signaling.SignalingGateway.endOrForget now gateway socketId known) := by
  have called
      : (lobby.sockets.lookup socketId).bind SocketMeta.callId
        = known.callId.bind Signaling.Text.cast := by
    rw [fading.sockets, found]
    rfl
  unfold Signaling.SignalingGateway.endOrForget at settled ⊢
  cases call : known.callId.filter Signaling.Text.truthy with
  | none =>
      have idle : known.callId.bind Signaling.Text.cast = none := by
        rw [Option.filter_eq_none_iff] at call
        rw [Option.bind_eq_none_iff]
        intro callId held
        cases callId with
        | empty => rfl
        | _ => exact absurd rfl (call _ held)
      have ends := fading.forget known
      refine ⟨⟨ends.queue, ends.sockets, ends.connected⟩, rfl, ?_⟩
      rw [forget_unseen, ends.broadcast]
      simp [broadcastQueueStatus, departed, called, idle]
  | some callId =>
      obtain ⟨held, present⟩ := Option.filter_eq_some_iff.mp call
      simp only [call] at settled ⊢
      generalize served : Signaling.CallsService.endCall now gateway.db _ = ended at settled ⊢
      obtain ⟨db, outputs, result⟩ := ended
      cases result with
      | error failure => cases settled
      | ok _ =>
          obtain ⟨id, named⟩ := endCall_ok served
          have unseen : outputs.filterMap seenOutput = [] :=
            (congrArg (fun served => served.outputs.filterMap seenOutput) served).symm.trans
              (endCall_unseen now gateway.db _)
          let written : Signaling.Gateway := { gateway with db := db }
          have silent : Fading lobby (written.cancelTimer callId) socketId :=
            ⟨fading.queue, fading.sockets, fading.connected⟩
          have ends := silent.forget known
          refine ⟨⟨ends.queue, ends.sockets, ends.connected⟩, rfl, ?_⟩
          have told := (callEnded_seen written callId callId).trans
            (congrArg (Option.map Emission.callEnded) named)
          change _
            = lobby.emitted
              ++ (outputs
                  ++ written.emit (.room callId) (.callEnded callId .peerDisconnected)
                    :: (Signaling.SignalingGateway.forget (written.cancelTimer callId)
                          socketId known).outputs).filterMap seenOutput
          rw [List.filterMap_append, unseen, List.filterMap_cons_some told, forget_unseen,
            ends.broadcast]
          simp [broadcastQueueStatus, departed, called, held, named]

/-- A disconnect by itself, unless its `endCall` throws. -/
theorem handleDisconnect_alone (owner now : Nat) (mirrors : Mirrors lobby gateway)
    {known : Signaling.SocketMeta} (found : gateway.sockets.lookup socketId = some known)
    {reply : Signaling.Reply}
    (settled
      : (Signaling.SignalingGateway.handleDisconnect now gateway socketId).reply = .ok reply)
    : ∃ lobby',
        Runs owner lobby (.disconnect socketId (.dequeue .hget)) lobby'
        ∧ Follows lobby lobby' []
            (Signaling.SignalingGateway.handleDisconnect now gateway socketId) := by
  let started : Lobby := {
    lobby with
    connected := Function.update lobby.connected socketId false
    departing := (owner, socketId) :: lobby.departing
  }
  let left := dequeued owner started socketId
  have starts
      : Handler.start owner lobby (.disconnect socketId (.dequeue .hget)) = some started := by
    simp [Handler.start, mirrors.connected, found, started]
  obtain ⟨inputs, ran⟩
      : ∃ inputs,
          lobbyProgram.alone owner started (.disconnect socketId (.dequeue .hget)) inputs
          = some ((endOrForget left socketId).1,
              .disconnect socketId (endOrForget left socketId).2) := by
    have steps (input : Instant) (lobby : Lobby) (stage : DequeueStage)
        : (Handler.disconnect socketId (.dequeue stage)).step owner input lobby
          = dequeueStep owner lobby socketId stage
              (fun stage => .disconnect socketId (.dequeue stage))
              (fun returned =>
                ((endOrForget returned socketId).1,
                  .disconnect socketId (endOrForget returned socketId).2)) := by
      rw [Handler.step, handleDisconnect]
      exact dequeueStep_map (Handler.disconnect socketId)
    exact dequeue_alone steps
  obtain ⟨later, ended⟩ := endOrForget_alone owner left socketId
  refine ⟨_, ⟨started, inputs ++ later, _, starts,
    (lobbyProgram.alone_append _ ran).trans ended, rfl⟩, ?_⟩
  unfold Signaling.SignalingGateway.handleDisconnect at settled ⊢
  simp only [found] at settled ⊢
  let gone : Signaling.Gateway := {
    gateway with
    rooms := gateway.rooms.filter (fun entry => entry.2 ≠ socketId)
    redis := Signaling.MatchmakingService.dequeue gateway.redis socketId
  }
  have fading : Fading left gone socketId := by
    refine ⟨mirrors.queue.dequeue socketId, mirrors.sockets, fun other => ?_⟩
    by_cases same : other = socketId
    · subst same
      simp [left, dequeued, started]
    · simp [left, dequeued, started, gone, same, mirrors.connected]
  have followed := fading.endOrForget found settled
  exact ⟨followed.mirrors, followed.used, followed.emitted⟩

end

-----------------------------------------------------------------------------------------
-- Joining
-----------------------------------------------------------------------------------------

section

variable {owner : Nat} {lobby : Lobby} {gateway : Signaling.Gateway} {socketId : SocketId}

/-- Both put the same call into the same metas. -/
theorem Mirrors.setCall (mirrors : Mirrors lobby gateway) (socketId : SocketId) (callId : Uuid)
    : Mirrors (lobby.setCall socketId callId)
        (gateway.setCallId socketId (some (.uuid callId))) where
  queue := by
    rw [setCall_eq, Signaling.setCallId_redis]
    exact mirrors.queue
  sockets := fun other => by
    have seen := mirrors.sockets other
    rw [Signaling.setCallId_lookup, Lobby.setCall]
    split
    · next absent =>
        split
        · next same =>
            subst same
            rw [seen] at absent
            rw [seen, Option.map_map, Option.map_eq_none_iff.mp absent]
            rfl
        · exact seen
    · next known found =>
        by_cases same : other = socketId
        · subst same
          rw [seen] at found
          obtain ⟨known', found', rfl⟩ := Option.map_eq_some_iff.mp found
          simp [found', seenMeta]
        · simp [same, seen]
  connected := fun other => by
    rw [Signaling.setCallId_lookup, setCall_eq]
    refine (mirrors.connected other).trans ?_
    split <;> simp

/-- The four commands of `enqueue`, in a join. -/
theorem enqueue_alone (owner : Nat) (lobby : Lobby) (entry : QueueEntry) (since : Nat)
    (now : Time)
    : lobbyProgram.alone owner lobby (.join entry since (.enqueue .rpush))
        [⟨now, 0⟩, ⟨now, 0⟩, ⟨now, 0⟩, ⟨now, 0⟩]
      = some (
          { lobby with redis := lobby.redis.enqueued since now entry },
          .join entry since (.queueDepth (lobby.redis.enqueued since now entry).queue.length
            lobby.countOnlineUsers)) :=
  rfl

/-- `tryMatch` by itself, in a join: a pair is paired, and otherwise the queue broadcast. -/
theorem tryMatch_alone (owner : Nat) (lobby : Lobby) (entry : QueueEntry) (since : Nat)
    (now : Time)
    : let tried := Signaling.MatchmakingService.tryMatch now lobby.redis
      ∃ inputs stage,
        lobbyProgram.alone owner lobby (.join entry since (.tryMatch .eval)) inputs
          = some ({ lobby with redis := tried.1 }, .join entry since stage)
        ∧ ((tried.2 = none ∧ stage = .broadcast lobby.countOnlineUsers)
          ∨ ∃ first second,
              tried.2 = some (first.raw.parse, second.raw.parse)
              ∧ stage = .createSession first second) := by
  match waiting : lobby.redis.queue with
  | [] =>
      rw [Signaling.tryMatch_few (by simp [waiting])]
      refine ⟨[⟨now, 0⟩], _, ?_, .inl ⟨rfl, rfl⟩⟩
      simp [Program.alone, lobbyProgram, Handler.step, onJoinQueue, MatchmakingService.tryMatch,
        waiting]
  | [only] =>
      rw [Signaling.tryMatch_few (by simp [waiting])]
      refine ⟨[⟨now, 0⟩], _, ?_, .inl ⟨rfl, rfl⟩⟩
      simp [Program.alone, lobbyProgram, Handler.step, onJoinQueue, MatchmakingService.tryMatch,
        waiting]
  | first :: second :: rest =>
      cases firstFresh : first.fresh now with
      | false =>
          cases secondFresh : second.fresh now with
          | false =>
              rw [Signaling.tryMatch_stale waiting firstFresh secondFresh]
              refine ⟨[⟨now, 0⟩, ⟨now, 0⟩], _, ?_, .inl ⟨rfl, rfl⟩⟩
              simp [Program.alone, lobbyProgram, Handler.step, onJoinQueue,
                MatchmakingService.tryMatch, waiting, firstFresh, secondFresh, QueueStore.hdel,
                Lobby.countOnlineUsers]
          | true =>
              rw [Signaling.tryMatch_put_back waiting firstFresh secondFresh]
              refine ⟨[⟨now, 0⟩, ⟨now, 0⟩, ⟨now, 0⟩], _, ?_, .inl ⟨rfl, rfl⟩⟩
              simp [Program.alone, lobbyProgram, Handler.step, onJoinQueue,
                MatchmakingService.tryMatch, waiting, firstFresh, secondFresh, QueueStore.hdel,
                Lobby.countOnlineUsers]
      | true =>
          cases secondFresh : second.fresh now with
          | false =>
              rw [Signaling.tryMatch_put_first_back waiting firstFresh secondFresh]
              refine ⟨[⟨now, 0⟩, ⟨now, 0⟩, ⟨now, 0⟩], _, ?_, .inl ⟨rfl, rfl⟩⟩
              simp [Program.alone, lobbyProgram, Handler.step, onJoinQueue,
                MatchmakingService.tryMatch, waiting, firstFresh, secondFresh, QueueStore.hdel,
                Lobby.countOnlineUsers]
          | true =>
              rw [Signaling.tryMatch_fresh waiting firstFresh secondFresh]
              refine ⟨[⟨now, 0⟩, ⟨now, 0⟩, ⟨now, 0⟩], _, ?_,
                .inr ⟨first, second, rfl, rfl⟩⟩
              simp [Program.alone, lobbyProgram, Handler.step, onJoinQueue,
                MatchmakingService.tryMatch, waiting, firstFresh, secondFresh, QueueStore.hdel]

/-- Ten commands pair two users, and both are told. -/
theorem pairing_alone (owner : Nat) (lobby : Lobby) (entry : QueueEntry) (since : Nat)
    (first second : Item) (callId : Uuid)
    : lobbyProgram.alone owner lobby (.join entry since (.createSession first second))
        (⟨0, callId⟩ :: List.replicate 9 ⟨0, 0⟩)
      = some (announce lobby first second callId,
          .join entry since (.broadcast lobby.countOnlineUsers)) :=
  rfl

/-- Two rooms joined are not shown in the lobby. -/
theorem Mirrors.socketsJoin (mirrors : Mirrors lobby gateway) (source room : Signaling.Text)
    : Mirrors lobby (gateway.socketsJoin source room) where
  queue := by
    rw [Signaling.socketsJoin_redis]
    exact mirrors.queue
  sockets := by
    rw [Signaling.socketsJoin_sockets]
    exact mirrors.sockets
  connected := by
    rw [Signaling.socketsJoin_sockets]
    exact mirrors.connected

/-- The gateway announces the same pair, unless `CallsService` throws. -/
theorem Mirrors.pairUsers (mirrors : Mirrors lobby gateway) (first second : Item)
    {now : Nat} {callId : Uuid} {reply : Signaling.Reply}
    (settled
      : (Signaling.SignalingGateway.pairUsers now gateway first.raw.parse second.raw.parse
          callId).reply = .ok reply)
    : Follows lobby (announce lobby first second callId) []
        (Signaling.SignalingGateway.pairUsers now gateway first.raw.parse second.raw.parse
          callId) := by
  rw [Signaling.Scripts.pairUsers_eq] at settled ⊢
  have unseen := initiateCall_unseen now gateway.db callId
    (Signaling.CallsService.firstParams first.raw.parse second.raw.parse)
  generalize Signaling.CallsService.initiateCall now gateway.db callId _ = initiated
    at settled unseen ⊢
  obtain ⟨db, outputs, result⟩ := initiated
  cases result with
  | error failure => cases settled
  | ok _ =>
      dsimp only at settled unseen ⊢
      have unseen' := acceptCall_unseen now db
        (Signaling.CallsService.secondParams first.raw.parse second.raw.parse callId)
      generalize Signaling.CallsService.acceptCall now db _ = accepted at settled unseen' ⊢
      obtain ⟨db', outputs', result'⟩ := accepted
      cases result' with
      | error failure => cases settled
      | ok _ =>
          dsimp only at unseen' ⊢
          let called : Signaling.Gateway := { gateway with db := db' }
          have mirrors' : Mirrors lobby called :=
            ⟨mirrors.queue, mirrors.sockets, mirrors.connected⟩
          have paired := (((mirrors'.socketsJoin (.socket first.raw.parse.socketId)
            (.uuid callId)).socketsJoin (.socket second.raw.parse.socketId)
            (.uuid callId)).setCall first.raw.parse.socketId callId).setCall
              second.raw.parse.socketId callId
          have used : (announce lobby first second callId).used = lobby.used := by
            rw [announce_eq]
          refine ⟨⟨paired.queue, paired.sockets, paired.connected⟩, used, ?_⟩
          rw [Signaling.Scripts.announce, List.filterMap_append, List.filterMap_append, unseen,
            unseen']
          rfl

/-- `tryPairUsers` by itself, in a join, unless `CallsService` throws. -/
theorem tryPairUsers_alone (owner now : Nat) (mirrors : Mirrors lobby gateway)
    (entry : QueueEntry) (since : Nat) {callId : Uuid} {reply : Signaling.Reply}
    (settled
      : (Signaling.SignalingGateway.tryPairUsers now gateway callId).reply = .ok reply)
    : ∃ inputs lobby',
        lobbyProgram.alone owner lobby (.join entry since (.tryMatch .eval)) inputs
          = some (lobby', .join entry since (.broadcast lobby'.countOnlineUsers))
        ∧ Follows lobby lobby' []
            (Signaling.SignalingGateway.tryPairUsers now gateway callId) := by
  obtain ⟨popped, same⟩ := mirrors.queue.tryMatch (Signaling.dateNow now)
  obtain ⟨inputs, stage, ran, matched⟩ :=
    tryMatch_alone owner lobby entry since (Signaling.dateNow now)
  rw [same] at matched
  unfold Signaling.SignalingGateway.tryPairUsers at settled ⊢
  dsimp only at settled ⊢
  rcases matched with ⟨nobody, rfl⟩ | ⟨first, second, pair, rfl⟩
  · rw [nobody]
    exact ⟨inputs, _, ran, mirrors.redis popped, rfl, by simp⟩
  · rw [pair] at settled ⊢
    dsimp only at settled ⊢
    have follows := (mirrors.redis popped).pairUsers first second settled
    refine ⟨inputs ++ ⟨0, callId⟩ :: List.replicate 9 ⟨0, 0⟩, _,
      (lobbyProgram.alone_append _ ran).trans ?_,
      follows.mirrors, follows.used, follows.emitted⟩
    rw [pairing_alone, countOnlineUsers_announce]

/-- A `match:join` by itself, unless `CallsService` throws. -/
theorem onJoinQueue_alone (owner now : Nat) (mirrors : Mirrors lobby gateway)
    {known : Signaling.SocketMeta} (found : gateway.sockets.lookup socketId = some known)
    (preferredType : Option CallType) {callId : Uuid} {reply : Signaling.Reply}
    (settled
      : (Signaling.SignalingGateway.onJoinQueue now gateway socketId preferredType
          callId).reply = .ok reply)
    : ∃ lobby',
        Runs owner lobby
          (.join
            {
              userId := known.userId
              anonymousId := known.anonymousId
              socketId := socketId
              preferredType := preferredType.getD .video
              isAnonymous := known.userId.isNone
            }
            lobby.time (.enqueue .rpush))
          lobby'
        ∧ Follows lobby lobby' []
            (Signaling.SignalingGateway.onJoinQueue now gateway socketId preferredType
              callId) := by
  let entry : QueueEntry := {
    userId := known.userId
    anonymousId := known.anonymousId
    socketId := socketId
    preferredType := preferredType.getD .video
    isAnonymous := known.userId.isNone
  }
  let instant := Signaling.dateNow now
  let started : Lobby := { lobby with time := lobby.time + 1 }
  let store := started.redis.enqueued lobby.time instant entry
  let pushed : Lobby := { started with redis := store }
  let queued : Lobby := {
    pushed with
    emitted :=
      lobby.emitted
        ++ [.matchQueued socketId store.queue.length started.countOnlineUsers
              store.queue.length]
  }
  have starts
      : Handler.start owner lobby (.join entry lobby.time (.enqueue .rpush))
        = some started := by
    simp [Handler.start, mirrors.sockets, mirrors.connected, found, entry, started, seenMeta]
  have queues
      : lobbyProgram.alone owner started (.join entry lobby.time (.enqueue .rpush))
          (List.replicate 4 ⟨instant, 0⟩ ++ [⟨0, 0⟩])
        = some (queued, .join entry lobby.time (.tryMatch .eval)) :=
    (lobbyProgram.alone_append _ (enqueue_alone owner started entry lobby.time instant)).trans
      rfl
  obtain ⟨same, position⟩ := mirrors.queue.enqueue lobby.time instant entry
  let waiting : Signaling.Gateway := {
    gateway with redis := (Signaling.MatchmakingService.enqueue instant gateway.redis entry).1
  }
  have online : started.countOnlineUsers
      = Signaling.SignalingGateway.countOnlineUsers waiting := mirrors.online
  have shown : Mirrors queued waiting := ⟨same, mirrors.sockets, mirrors.connected⟩
  unfold Signaling.SignalingGateway.onJoinQueue at settled ⊢
  simp only [found] at settled ⊢
  generalize tried : Signaling.SignalingGateway.tryPairUsers now _ callId = outcome at settled ⊢
  change Signaling.SignalingGateway.tryPairUsers now waiting callId = outcome at tried
  obtain ⟨gateway', result, outputs⟩ := outcome
  cases result with
  | error failure => cases settled
  | ok _ =>
      obtain ⟨inputs, paired, ran, follows⟩ :=
        tryPairUsers_alone owner now shown entry lobby.time
          (congrArg Signaling.Outcome.reply tried)
      rw [tried] at follows
      have told
          : seenOutput (waiting.emit (.client socketId)
              (.matchQueued
                (Signaling.MatchmakingService.enqueue instant gateway.redis entry).2
                (Signaling.SignalingGateway.countOnlineUsers waiting)
                (Signaling.MatchmakingService.queueDepth waiting.redis)))
            = some (.matchQueued socketId store.queue.length started.countOnlineUsers
                store.queue.length) := by
        rw [← online, ← position, Signaling.MatchmakingService.queueDepth,
          ← shown.queue.length]
        rfl
      refine ⟨broadcastQueueStatus paired paired.countOnlineUsers,
        ⟨started, _, _, starts, (lobbyProgram.alone_append _ queues).trans
          ((lobbyProgram.alone_append [⟨0, 0⟩] ran).trans rfl), rfl⟩,
        follows.mirrors.ends (_ :: outputs) follows.used ?_⟩
      rw [follows.emitted, List.filterMap_cons_some told, ← List.singleton_append,
        ← List.append_assoc]

end

-----------------------------------------------------------------------------------------
-- Whole runs
-----------------------------------------------------------------------------------------

/-- The events of sockets whose handlers the lobby has. -/
def concernsQueue : Signaling.Event → Bool
  | .connect _ _ _ | .disconnect _ | .joinQueue _ _ _ | .leaveQueue _ => true
  | _ => false

/-- Some run of the lobby, whose handlers have all ended, has come to what the gateway shows
and has told the clients the same. -/
def Mirrored (world : Signaling.World) : Prop :=
  ∃ moves pool,
    lobbyMachine.Reaches moves pool
    ∧ (∀ handler ∈ pool.threads, handler.finished = true)
    ∧ Mirrors pool.shared world.gateway
    ∧ pool.shared.used = world.opened
    ∧ pool.shared.emitted
      = (world.trace.flatMap Signaling.Occurrence.outputs).filterMap seenOutput

section

variable {runtime : Signaling.Runtime} {world : Signaling.World}
  {stimulus : Signaling.Stimulus}

/-- A handler that runs by itself prolongs a run of the lobby. -/
theorem Runs.reaches {pool : Pool Lobby Handler} {moves : List (Move Handler Instant)}
    {handler : Handler} {lobby' : Lobby} (reached : lobbyMachine.Reaches moves pool)
    (ended : ∀ handler ∈ pool.threads, handler.finished = true)
    (runs : Runs pool.threads.length pool.shared handler lobby')
    : ∃ moves' pool',
        lobbyMachine.Reaches moves' pool'
        ∧ pool'.shared = lobby'
        ∧ ∀ handler ∈ pool'.threads, handler.finished = true := by
  obtain ⟨started, inputs, handler', starts, ran, finished⟩ := runs
  let joined : Pool Lobby Handler := ⟨started, pool.threads ++ [handler]⟩
  have arrives : lobbyMachine.step pool (.start handler) = some joined := by
    rw [machine_step, Program.move]
    exact Option.map_eq_some_iff.mpr ⟨started, starts, rfl⟩
  have here : joined.threads[pool.threads.length]? = some handler :=
    List.getElem?_concat_length
  have replaced
      : joined.threads.set pool.threads.length handler' = pool.threads ++ [handler'] := by
    simp [joined]
  have onward := lobbyProgram.exec_alone Lobby.empty here ran
  rw [replaced] at onward
  refine ⟨moves ++ .start handler :: inputs.map (Move.step pool.threads.length),
    ⟨lobby', pool.threads ++ [handler']⟩, ?_, rfl, ?_⟩
  · rw [Machine.Reaches, Machine.exec_append, reached, Option.bind_some, Machine.exec_cons,
      arrives, Option.bind_some]
    exact onward
  · intro other member
    rcases List.mem_append.mp member with before | new
    · exact ended other before
    · exact List.mem_singleton.mp new ▸ finished

/-- An event of the queue that is answered runs in the lobby by itself. -/
theorem handle_alone (owner : Nat) {lobby : Lobby} (mirrors : Mirrors lobby world.gateway)
    (seated : Signaling.Seated world) (used : lobby.used = world.opened)
    (admitted : world.admits stimulus = true)
    (concerned : concernsQueue stimulus.event = true) {reply : Signaling.Reply}
    (settled
      : (Signaling.handle runtime stimulus.now world.gateway stimulus.event).reply
        = .ok reply)
    : ∃ handler lobby',
        Runs owner lobby handler lobby'
        ∧ Follows lobby lobby' stimulus.event.opens
            (Signaling.handle runtime stimulus.now world.gateway stimulus.event) := by
  have known {socketId : SocketId} (sent : stimulus.event.sender = some socketId)
      : ∃ found, world.gateway.sockets.lookup socketId = some found :=
    Option.isSome_iff_exists.mp
      (seated.tidy.knows.mpr (Signaling.Seated.present admitted sent))
  cases happens : stimulus.event with
  | connect socketId userId anonymousId =>
      have new : socketId ∉ lobby.used := used ▸ (Signaling.connect_admitted admitted happens).1
      obtain ⟨onlineUsers, lobby', runs, follows⟩ :=
        handleConnection_alone owner mirrors new userId anonymousId
      exact ⟨_, lobby', runs, follows⟩
  | disconnect socketId =>
      obtain ⟨found, there⟩ := known (congrArg Signaling.Event.sender happens)
      rw [happens] at settled
      obtain ⟨lobby', runs, follows⟩ :=
        handleDisconnect_alone owner stimulus.now mirrors there settled
      exact ⟨_, lobby', runs, follows⟩
  | joinQueue socketId preferredType callId =>
      obtain ⟨found, there⟩ := known (congrArg Signaling.Event.sender happens)
      rw [happens] at settled
      obtain ⟨lobby', runs, follows⟩ :=
        onJoinQueue_alone owner stimulus.now mirrors there preferredType settled
      exact ⟨_, lobby', runs, follows⟩
  | leaveQueue socketId =>
      obtain ⟨found, there⟩ := known (congrArg Signaling.Event.sender happens)
      obtain ⟨lobby', runs, follows⟩ := onLeaveQueue_alone owner mirrors (by rw [there]; rfl)
      exact ⟨_, lobby', runs, follows⟩
  | _ =>
      rw [happens] at concerned
      cases concerned

/-- Sequential runs of the gateway in which only the queue is used, and every event answered,
are runs of the lobby. -/
theorem queue_mirrored {stimuli : List Signaling.Stimulus}
    (run : (Signaling.gatewayMachine runtime).Reaches stimuli world)
    (concerned
      : ∀ occurrence ∈ world.trace,
          concernsQueue occurrence.event = true ∧ ∃ reply, occurrence.reply = .ok reply)
    : Mirrored world := by
  refine (run.invariant
    (fun world =>
      Signaling.Seated world
      ∧ ((∀ occurrence ∈ world.trace,
            concernsQueue occurrence.event = true ∧ ∃ reply, occurrence.reply = .ok reply)
          → Mirrored world))
    ⟨Signaling.seated_start, fun _ => ?_⟩
    (fun {before stimulus after} both step => ?_)).2 concerned
  · exact ⟨[], ⟨.empty, []⟩, rfl, by simp,
      ⟨⟨rfl, rfl, rfl⟩, fun _ => rfl, fun _ => rfl⟩, rfl, rfl⟩
  · obtain ⟨seated, earlier⟩ := both
    obtain ⟨admitted, rfl⟩ := Signaling.step_eq_some.mp step
    refine ⟨seated.step admitted, fun concerned => ?_⟩
    obtain ⟨moves, pool, reached, ended, mirrors, used, told⟩ :=
      earlier (fun occurrence member => concerned occurrence (List.mem_append_left _ member))
    obtain ⟨concerns, reply, settled⟩ :=
      concerned _ (List.mem_append_right _ (List.mem_singleton_self _))
    obtain ⟨handler, lobby', runs, follows⟩ :=
      handle_alone pool.threads.length mirrors seated used admitted concerns settled
    obtain ⟨moves', pool', reached', rfl, ended'⟩ := runs.reaches reached ended
    refine ⟨moves', pool', reached', ended', follows.mirrors, ?_, ?_⟩
    · rw [follows.used, used]
      rfl
    · rw [follows.emitted, told, ← List.filterMap_append]
      simp [Signaling.World.after]

end

end NexusComms.Matchmaking
