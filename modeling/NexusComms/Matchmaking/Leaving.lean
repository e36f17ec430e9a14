import NexusComms.Matchmaking.Waiting

/-! Who may be announced. A `dequeue` looks one entry up by its socket and removes it from
the list, so it misses an entry that is not in the list, or not the one looked up.
-/

namespace NexusComms.Matchmaking

open Concurrency Program SignalingGateway

/-- The entries that a handler has popped and not returned or discarded yet. -/
def Handler.holds : Handler → List Item
  | .join _ _ (.tryMatch (.popped first second _)) => [first, second]
  | .join _ _ (.tryMatch (.hdelStale stale _)) => [stale]
  | .join _ _ (.tryMatch (.audit first second _)) => [first, second]
  | .join _ _ (.createSession first second) => [first, second]
  | .join _ _ (.pairing first second _ _) => [first, second]
  | _ => []

/-- The socket of a join whose entry is not in both Redis keys yet. -/
def Handler.enqueues : Handler → Option SocketId
  | .join entry _ (.enqueue .rpush) => some entry.socketId
  | .join entry _ (.enqueue (.hset _)) => some entry.socketId
  | _ => none

/-- The socket and the time of a join whose entry is still to be pushed. -/
def Handler.pushes : Handler → Option (SocketId × Nat)
  | .join entry since (.enqueue .rpush) => some (entry.socketId, since)
  | _ => none

/-- The entries that the next command of a handler pops. -/
def Handler.pops (store : QueueStore) : Handler → List Item
  | .join _ _ (.tryMatch .eval) =>
      match store.queue with
      | first :: second :: _ => [first, second]
      | _ => []
  | _ => []

/-- The `dequeue` that a handler is running. -/
def Handler.dequeues : Handler → Option (SocketId × DequeueStage)
  | .leave socketId (.dequeue stage) => some (socketId, stage)
  | .disconnect socketId (.dequeue stage) => some (socketId, stage)
  | _ => none

/-- The entries of a socket that wait in the list. -/
def QueueStore.entriesOf (store : QueueStore) (socketId : SocketId) : List Item :=
  store.queue.filter (fun item => item.socketId = socketId)

/-- The socket has at most one entry in the list, and `matchmaking:sockets` names it. -/
def QueueStore.Indexed (store : QueueStore) (socketId : SocketId) : Prop :=
  match store.entriesOf socketId with
  | [] => True
  | [item] => store.sockets socketId = some item.raw
  | _ => False

instance (store : QueueStore) (socketId : SocketId) : Decidable (store.Indexed socketId) := by
  unfold QueueStore.Indexed
  split <;> infer_instance

/-- No `dequeue` of the socket is running. -/
def Lobby.Stays (lobby : Lobby) (socketId : SocketId) : Prop :=
  ∀ departure ∈ lobby.departing, departure.2 ≠ socketId

instance (lobby : Lobby) (socketId : SocketId) : Decidable (lobby.Stays socketId) :=
  inferInstanceAs (Decidable (∀ departure ∈ lobby.departing, departure.2 ≠ socketId))

/-- The departure of a socket starts with its entry in plain sight: no join of it is still
to enqueue, no attempt holds an entry of it, and its one entry in the list is indexed. -/
def InPlainSight (pool : Pool Lobby Handler) (socketId : SocketId) : Prop :=
  (∀ handler ∈ pool.threads,
    handler.enqueues ≠ some socketId
    ∧ ∀ item ∈ handler.holds, item.socketId ≠ socketId)
  ∧ pool.shared.redis.Indexed socketId

/-- A `dequeue` starts with the entry of its socket in plain sight, and while it runs the
socket does not join again and no script pops its entry. -/
def LeavesApart (pool : Pool Lobby Handler) : Move Handler Instant → Prop
  | .start (.leave socketId _) => InPlainSight pool socketId
  | .start (.disconnect socketId _) => InPlainSight pool socketId
  | .start (.join entry _ _) => pool.shared.Stays entry.socketId
  | .start (.connect _ _ _ _) => True
  | .step index _ =>
      ∀ handler ∈ pool.threads[index]?, ∀ item ∈ handler.pops pool.shared.redis,
        pool.shared.Stays item.socketId

instance (pool : Pool Lobby Handler) (socketId : SocketId)
    : Decidable (InPlainSight pool socketId) :=
  inferInstanceAs (Decidable (_ ∧ _))

instance (pool : Pool Lobby Handler)
    : (move : Move Handler Instant) → Decidable (LeavesApart pool move)
  | .start (.leave socketId _) => inferInstanceAs (Decidable (InPlainSight pool socketId))
  | .start (.disconnect socketId _) =>
      inferInstanceAs (Decidable (InPlainSight pool socketId))
  | .start (.join entry _ _) =>
      inferInstanceAs (Decidable (pool.shared.Stays entry.socketId))
  | .start (.connect _ _ _ _) => isTrue trivial
  | .step index _ =>
      inferInstanceAs
        (Decidable
          (∀ handler ∈ pool.threads[index]?, ∀ item ∈ handler.pops pool.shared.redis,
            pool.shared.Stays item.socketId))

/-- Every pair announced so far consisted of two entries whose owners were still waiting. -/
def Lobby.AnnouncesWaiting (lobby : Lobby) : Prop :=
  ∀ announcement ∈ lobby.announced,
    announcement.firstWaiting = true ∧ announcement.secondWaiting = true

/-- The owner of every entry in the list is waiting, unless its `dequeue` is running. -/
structure LobbyInvariant (lobby : Lobby) : Prop where
  listed : ∀ item ∈ lobby.redis.queue, lobby.Stays item.socketId → lobby.waiting item = true
  announced : lobby.AnnouncesWaiting
  clock : ∀ socketId, lobby.departedAt socketId ≤ lobby.time

/-- What a running `dequeue` knows about the entries of its socket. -/
def DequeueHolds (store : QueueStore) (socketId : SocketId) : DequeueStage → Prop
  | .hget => store.Indexed socketId
  | .lrem raw => store.entriesOf socketId = []
      ∨ ∃ item, store.entriesOf socketId = [item] ∧ item.raw = raw
  | .hdel _ => store.entriesOf socketId = []
  | .audit _ => store.entriesOf socketId = []
  | .returned => True

/-- What a handler may rely on: the owners of entries that it pushes or holds stay and are
waiting, and its own `dequeue` is known to be running. -/
structure Handler.Knows (lobby : Lobby) (owner : Nat) (handler : Handler) : Prop where
  held
    : ∀ item ∈ handler.holds, lobby.Stays item.socketId ∧ lobby.waiting item = true
  enqueued : ∀ socketId ∈ handler.enqueues, lobby.Stays socketId
  pushed
    : ∀ push ∈ handler.pushes,
        lobby.connected push.1 = true ∧ lobby.departedAt push.1 ≤ push.2
  dequeued
    : ∀ dequeue ∈ handler.dequeues,
        (owner, dequeue.1) ∈ lobby.departing
        ∧ DequeueHolds lobby.redis dequeue.1 dequeue.2

/-- The assertion of one handler slot. -/
def HandlerHolds (lobby : Lobby) (owner : Nat) (slot : Option Handler) : Prop :=
  ∀ handler ∈ slot, handler.Knows lobby owner

/-- What the step of a handler leaves alone. Sockets that stay keep what is known of them,
and the entries of a socket whose `dequeue` another handler runs can only disappear, which
is the last thing that happens to its index.
-/
structure Stirred (owner : Nat) (before after : Lobby) : Prop where
  stays : ∀ socketId, before.Stays socketId → after.Stays socketId
  known
    : ∀ socketId, before.Stays socketId →
        after.connected socketId = before.connected socketId
        ∧ after.departedAt socketId = before.departedAt socketId
  departing
    : ∀ departure ∈ before.departing, departure.1 ≠ owner → departure ∈ after.departing
  entries
    : ∀ socketId, ¬ before.Stays socketId →
        (after.redis.entriesOf socketId).Sublist (before.redis.entriesOf socketId)
        ∧ (after.redis.entriesOf socketId = []
          ∨ after.redis.sockets socketId = before.redis.sockets socketId)

section

variable {before after : Lobby} {owner other : Nat}

theorem waiting_congr {item : Item}
    (connected : after.connected item.socketId = before.connected item.socketId)
    (departedAt : after.departedAt item.socketId = before.departedAt item.socketId)
    : after.waiting item = before.waiting item := by
  simp only [Lobby.waiting, connected, departedAt]

theorem Stirred.waiting (stirred : Stirred owner before after) {item : Item}
    (stays : before.Stays item.socketId) (waits : before.waiting item = true)
    : after.Stays item.socketId ∧ after.waiting item = true := by
  obtain ⟨connected, departedAt⟩ := stirred.known item.socketId stays
  exact ⟨stirred.stays item.socketId stays, (waiting_congr connected departedAt).trans waits⟩

/-- A socket is indexed when it has no entry, or one that the index names. -/
theorem indexed_iff {store : QueueStore} {socketId : SocketId}
    : store.Indexed socketId
      ↔ store.entriesOf socketId = []
        ∨ ∃ item,
            store.entriesOf socketId = [item] ∧ store.sockets socketId = some item.raw := by
  unfold QueueStore.Indexed
  match store.entriesOf socketId with
  | [] => simp
  | [item] => simp
  | first :: second :: rest => simp

/-- A sublist of one element is empty or the same. -/
theorem sublist_one {α : Type} {items : List α} {item : α} (fewer : items.Sublist [item])
    : items = [] ∨ items = [item] := by
  rcases List.sublist_cons_iff.mp fewer with tail | ⟨rest, same, tail⟩
  · exact Or.inl (List.sublist_nil.mp tail)
  · rw [List.sublist_nil.mp tail] at same
    exact Or.inr same

/-- The running `dequeue` of another handler keeps what it knows. -/
theorem DequeueHolds.frame {socketId : SocketId} {stage : DequeueStage}
    (holds : DequeueHolds before.redis socketId stage)
    (stirred : Stirred owner before after) (running : ¬ before.Stays socketId)
    : DequeueHolds after.redis socketId stage := by
  obtain ⟨fewer, indexed⟩ := stirred.entries socketId running
  cases stage with
  | hget =>
      refine indexed_iff.mpr ?_
      rcases indexed_iff.mp holds with gone | ⟨item, only, named⟩
      · exact Or.inl (List.sublist_nil.mp (gone ▸ fewer))
      · rcases sublist_one (only ▸ fewer) with gone | same
        · exact Or.inl gone
        · rcases indexed with gone | index
          · exact Or.inl gone
          · exact Or.inr ⟨item, same, index.trans named⟩
  | lrem raw =>
      rcases holds with gone | ⟨item, only, text⟩
      · exact Or.inl (List.sublist_nil.mp (gone ▸ fewer))
      · rcases sublist_one (only ▸ fewer) with gone | same
        · exact Or.inl gone
        · exact Or.inr ⟨item, same, text⟩
  | hdel raw => exact List.sublist_nil.mp (holds ▸ fewer)
  | audit raw => exact List.sublist_nil.mp (holds ▸ fewer)
  | returned => trivial

theorem not_stays {lobby : Lobby} {socketId : SocketId}
    (running : (other, socketId) ∈ lobby.departing)
    : ¬ lobby.Stays socketId :=
  fun stays => stays (other, socketId) running rfl

/-- A push is made while the join enqueues. -/
theorem pushes_enqueues {handler : Handler} {push : SocketId × Nat}
    (pushes : handler.pushes = some push)
    : handler.enqueues = some push.1 := by
  unfold Handler.pushes at pushes
  split at pushes
  · cases pushes
    rfl
  · cases pushes

/-- Handlers keep their assertions while others step. -/
theorem HandlerHolds.frame {slot : Option Handler} (holds : HandlerHolds before other slot)
    (stirred : Stirred owner before after) (different : other ≠ owner)
    : HandlerHolds after other slot := by
  intro handler found
  have knows := holds handler found
  refine ⟨?_, ?_, ?_, ?_⟩
  · intro item member
    obtain ⟨stays, waits⟩ := knows.held item member
    exact stirred.waiting stays waits
  · intro socketId enqueues
    exact stirred.stays socketId (knows.enqueued socketId enqueues)
  · intro push pushes
    have stays := knows.enqueued push.1 (pushes_enqueues pushes)
    obtain ⟨connected, departedAt⟩ := stirred.known push.1 stays
    rw [connected, departedAt]
    exact knows.pushed push pushes
  · intro dequeue dequeues
    obtain ⟨running, known⟩ := knows.dequeued dequeue dequeues
    exact ⟨stirred.departing _ running different, known.frame stirred (not_stays running)⟩

end

-----------------------------------------------------------------------------------------
-- The steps
-----------------------------------------------------------------------------------------

/-- Only metas and emissions differ, which no assertion mentions. -/
structure Untouched (before after : Lobby) : Prop where
  redis : after.redis = before.redis
  connected : after.connected = before.connected
  departedAt : after.departedAt = before.departedAt
  departing : after.departing = before.departing
  time : after.time = before.time

section

variable {lobby lobby' : Lobby} {owner : Nat}

theorem Stirred.of_untouched (same : Untouched lobby lobby') : Stirred owner lobby lobby' where
  stays := by
    intro socketId stays
    rw [Lobby.Stays, same.departing]
    exact stays
  known := by
    intro socketId _
    rw [same.connected, same.departedAt]
    exact ⟨rfl, rfl⟩
  departing := by
    intro departure member _
    rw [same.departing]
    exact member
  entries := by
    intro socketId _
    rw [same.redis]
    exact ⟨.refl _, Or.inr rfl⟩

/-- A command that changes entries and index of sockets that stay only. -/
theorem Stirred.of_redis {store : QueueStore}
    (entries
      : ∀ socketId, ¬ lobby.Stays socketId →
          (store.entriesOf socketId).Sublist (lobby.redis.entriesOf socketId)
          ∧ (store.entriesOf socketId = []
            ∨ store.sockets socketId = lobby.redis.sockets socketId))
    : Stirred owner lobby { lobby with redis := store } :=
  ⟨fun _ stays => stays, fun _ _ => ⟨rfl, rfl⟩, fun _ member _ => member, entries⟩

theorem LobbyInvariant.of_untouched (inv : LobbyInvariant lobby)
    (same : Untouched lobby lobby') (announced : lobby'.AnnouncesWaiting)
    : LobbyInvariant lobby' := by
  refine ⟨fun item member stays => ?_, announced, ?_⟩
  · rw [same.redis] at member
    rw [Lobby.Stays, same.departing] at stays
    rw [← inv.listed item member stays]
    exact waiting_congr (by rw [same.connected]) (by rw [same.departedAt])
  · rw [same.departedAt, same.time]
    exact inv.clock

/-- A command that adds entries of waiting sockets only. -/
theorem LobbyInvariant.of_redis (inv : LobbyInvariant lobby) {store : QueueStore}
    (queue
      : ∀ item ∈ store.queue, item ∈ lobby.redis.queue ∨ lobby.waiting item = true)
    : LobbyInvariant { lobby with redis := store } := by
  refine ⟨fun item member stays => ?_, inv.announced, inv.clock⟩
  rcases queue item member with old | waits
  · exact inv.listed item old stays
  · exact waits

/-- A step keeps the invariant, establishes what its handler knows next, and stirs. -/
structure StepKept (owner : Nat) (before after : Lobby) (handler : Handler) : Prop where
  inv : LobbyInvariant after
  knows : handler.Knows after owner
  stirred : Stirred owner before after

/-- A handler without entries, push or `dequeue` in hand knows nothing. -/
theorem knows_nothing {handler : Handler} (holds : handler.holds = [])
    (enqueues : handler.enqueues = none) (pushes : handler.pushes = none)
    (dequeues : handler.dequeues = none)
    : handler.Knows lobby owner :=
  ⟨by simp [holds], by simp [enqueues], by simp [pushes], by simp [dequeues]⟩

/-- A handler that only holds entries. -/
theorem knows_held {handler : Handler}
    (held : ∀ item ∈ handler.holds, lobby.Stays item.socketId ∧ lobby.waiting item = true)
    (enqueues : handler.enqueues = none) (pushes : handler.pushes = none)
    (dequeues : handler.dequeues = none)
    : handler.Knows lobby owner :=
  ⟨held, by simp [enqueues], by simp [pushes], by simp [dequeues]⟩

/-- The entries of a socket whose `dequeue` runs are not those of a socket that stays. -/
theorem entriesOf_cons_other (store : QueueStore) {item : Item} {rest : List Item}
    {socketId : SocketId} (queue : store.queue = item :: rest)
    (stays : lobby.Stays item.socketId) (running : ¬ lobby.Stays socketId)
    : store.entriesOf socketId = rest.filter (fun other => other.socketId = socketId) := by
  have different : item.socketId ≠ socketId := fun same => running (same ▸ stays)
  simp [QueueStore.entriesOf, queue, different]

/-- HDEL of a socket that stays. -/
theorem hdel_other {store : QueueStore} {stayed socketId : SocketId}
    (stays : lobby.Stays stayed) (running : ¬ lobby.Stays socketId)
    : (store.hdel stayed).sockets socketId = store.sockets socketId := by
  have different : socketId ≠ stayed := fun same => running (same ▸ stays)
  simp [QueueStore.hdel, different]

/-- Every command of `enqueue` within a join. -/
theorem enqueue_kept {entry : QueueEntry} {since : Nat} {now : Time}
    {stage stage' : EnqueueStage} {store : QueueStore} (inv : LobbyInvariant lobby)
    (knows : (Handler.join entry since (.enqueue stage)).Knows lobby owner)
    (ran
      : MatchmakingService.enqueue since now lobby.redis entry stage = some (store, stage'))
    : StepKept owner lobby { lobby with redis := store }
        (.join entry since (.enqueue stage')) := by
  cases stage with
  | rpush =>
      cases ran
      have stays : lobby.Stays entry.socketId := knows.enqueued _ rfl
      obtain ⟨connected, departedAt⟩ := knows.pushed (entry.socketId, since) rfl
      refine ⟨inv.of_redis ?_, ⟨?_, ?_, ?_, ?_⟩, .of_redis ?_⟩
      · intro item member
        rcases List.mem_append.mp member with old | new
        · exact Or.inl old
        · rw [List.mem_singleton.mp new]
          exact Or.inr (by simp [Lobby.waiting, Item.socketId, connected, departedAt])
      · intro item held
        cases held
      · intro socketId enqueues
        cases enqueues
        exact stays
      · intro push pushes
        cases pushes
      · intro dequeue dequeues
        cases dequeues
      · intro socketId running
        have different : entry.socketId ≠ socketId := fun same => running (same ▸ stays)
        refine ⟨?_, Or.inr rfl⟩
        simp [QueueStore.entriesOf, List.filter_append, Item.socketId, different]
  | hset raw =>
      cases ran
      have stays : lobby.Stays entry.socketId := knows.enqueued _ rfl
      refine ⟨inv.of_redis (fun item member => Or.inl member),
        knows_nothing rfl rfl rfl rfl, .of_redis ?_⟩
      intro socketId running
      have different : socketId ≠ entry.socketId := fun same => running (same ▸ stays)
      exact ⟨.refl _, Or.inr (by simp [different])⟩
  | audit =>
      cases ran
      exact ⟨inv.of_redis (fun item member => Or.inl member), knows_nothing rfl rfl rfl rfl,
        .of_redis (fun _ _ => ⟨.refl _, Or.inr rfl⟩)⟩
  | llen =>
      cases ran
      exact ⟨inv.of_redis (fun item member => Or.inl member), knows_nothing rfl rfl rfl rfl,
        .of_redis (fun _ _ => ⟨.refl _, Or.inr rfl⟩)⟩
  | returned position => cases ran

/-- Every command of `tryMatch` within a join, if the script pops entries of sockets that
stay only. -/
theorem tryMatch_kept {entry : QueueEntry} {since : Nat} {now : Time}
    {stage stage' : TryMatchStage} {store : QueueStore} (inv : LobbyInvariant lobby)
    (knows : (Handler.join entry since (.tryMatch stage)).Knows lobby owner)
    (apart
      : ∀ item ∈ (Handler.join entry since (.tryMatch stage)).pops lobby.redis,
          lobby.Stays item.socketId)
    (ran : MatchmakingService.tryMatch now lobby.redis stage = some (store, stage'))
    : LobbyInvariant { lobby with redis := store }
      ∧ Stirred owner lobby { lobby with redis := store }
      ∧ ∀ item,
          item ∈ (Handler.join entry since (.tryMatch stage')).holds
            ∨ (∃ first second,
                stage' = .returned (some (first, second)) ∧ (item = first ∨ item = second)) →
            lobby.Stays item.socketId ∧ lobby.waiting item = true := by
  have held := knows.held
  cases stage with
  | eval =>
      simp only [MatchmakingService.tryMatch] at ran
      split at ran
      · rename_i first second rest waiting
        cases ran
        have popped (item : Item) (inPair : item = first ∨ item = second)
            : lobby.Stays item.socketId ∧ lobby.waiting item = true := by
          have stays : lobby.Stays item.socketId := by
            apply apart
            rcases inPair with rfl | rfl
            · simp [Handler.pops, waiting]
            · simp [Handler.pops, waiting]
          refine ⟨stays, inv.listed item ?_ stays⟩
          rw [waiting]
          rcases inPair with rfl | rfl
          · exact List.mem_cons_self
          · exact List.mem_cons_of_mem _ List.mem_cons_self
        refine ⟨inv.of_redis ?_, .of_redis ?_, ?_⟩
        · intro item member
          rw [waiting]
          exact Or.inl (List.mem_cons_of_mem _ (List.mem_cons_of_mem _ member))
        · intro socketId running
          refine ⟨?_, Or.inr rfl⟩
          rw [entriesOf_cons_other _ waiting (popped first (Or.inl rfl)).1 running]
          exact (List.sublist_cons_self second rest).filter _
        · intro item member
          rcases member with holds | ⟨_, _, returned, _⟩
          · exact popped item (by simpa [Handler.holds] using holds)
          · cases returned
      · cases ran
        refine ⟨inv.of_redis (fun item member => Or.inl member),
          .of_redis (fun _ _ => ⟨.refl _, Or.inr rfl⟩), ?_⟩
        intro item member
        rcases member with holds | ⟨_, _, returned, _⟩
        · cases holds
        · cases returned
  | popped first second misses =>
      obtain ⟨staysFirst, waitsFirst⟩ := held first List.mem_cons_self
      obtain ⟨staysSecond, waitsSecond⟩ :=
        held second (List.mem_cons_of_mem _ List.mem_cons_self)
      have both {socketId : SocketId} (running : ¬ lobby.Stays socketId)
          : ((lobby.redis.hdel first.socketId).hdel second.socketId).sockets socketId
            = lobby.redis.sockets socketId :=
        (hdel_other staysSecond running).trans (hdel_other staysFirst running)
      -- one entry goes back to the head of the list, the other one is still held
      have back {kept stale : Item} (staysKept : lobby.Stays kept.socketId)
          (waitsKept : lobby.waiting kept = true) (staysStale : lobby.Stays stale.socketId)
          (waitsStale : lobby.waiting stale = true)
          : LobbyInvariant
              { lobby with redis := { lobby.redis with queue := kept :: lobby.redis.queue } }
            ∧ Stirred owner lobby
                { lobby with redis := { lobby.redis with queue := kept :: lobby.redis.queue } }
            ∧ ∀ item,
                item ∈ (Handler.join entry since (.tryMatch (.hdelStale stale now))).holds
                  ∨ (∃ first second,
                      TryMatchStage.hdelStale stale now = .returned (some (first, second))
                      ∧ (item = first ∨ item = second)) →
                  lobby.Stays item.socketId ∧ lobby.waiting item = true := by
        refine ⟨inv.of_redis ?_, .of_redis ?_, ?_⟩
        · intro item member
          rcases List.mem_cons.mp member with rfl | old
          · exact Or.inr waitsKept
          · exact Or.inl old
        · intro socketId running
          have entries :=
            entriesOf_cons_other { lobby.redis with queue := kept :: lobby.redis.queue } rfl
              staysKept running
          rw [entries]
          exact ⟨.refl _, Or.inr rfl⟩
        · intro item member
          rcases member with holds | ⟨_, _, returned, _⟩
          · rw [List.mem_singleton.mp holds]
            exact ⟨staysStale, waitsStale⟩
          · cases returned
      simp only [MatchmakingService.tryMatch] at ran
      split at ran
      · cases ran
        refine ⟨inv.of_redis (fun item member => Or.inl member),
          .of_redis (fun _ running => ⟨.refl _, Or.inr (both running)⟩), ?_⟩
        intro item member
        rcases member with holds | ⟨_, _, returned, _⟩
        · cases holds
        · cases returned
      · split at ran
        · cases ran
          exact back staysSecond waitsSecond staysFirst waitsFirst
        · split at ran
          · cases ran
            exact back staysFirst waitsFirst staysSecond waitsSecond
          · cases ran
            refine ⟨inv.of_redis (fun item member => Or.inl member),
              .of_redis (fun _ running => ⟨.refl _, Or.inr (both running)⟩), ?_⟩
            intro item member
            rcases member with holds | ⟨_, _, returned, _⟩
            · exact held item holds
            · cases returned
  | hdelStale stale time =>
      cases ran
      obtain ⟨stays, _⟩ := held stale List.mem_cons_self
      refine ⟨inv.of_redis (fun item member => Or.inl member),
        .of_redis (fun _ running => ⟨.refl _, Or.inr (hdel_other stays running)⟩), ?_⟩
      intro item member
      rcases member with holds | ⟨_, _, returned, _⟩
      · cases holds
      · cases returned
  | audit first second time =>
      cases ran
      refine ⟨inv.of_redis (fun item member => Or.inl member),
        .of_redis (fun _ _ => ⟨.refl _, Or.inr rfl⟩), ?_⟩
      intro item member
      rcases member with holds | ⟨_, _, returned, inPair⟩
      · cases holds
      · cases returned
        exact held item (by simpa [Handler.holds] using inPair)
  | returned pair => cases ran

/-- Every step of `onJoinQueue`. -/
theorem join_kept {entry : QueueEntry} {since : Nat} {input : Instant}
    {stage stage' : JoinStage} (inv : LobbyInvariant lobby)
    (knows : (Handler.join entry since stage).Knows lobby owner)
    (apart
      : ∀ item ∈ (Handler.join entry since stage).pops lobby.redis, lobby.Stays item.socketId)
    (ran : onJoinQueue input lobby entry since stage = some (lobby', stage'))
    : StepKept owner lobby lobby' (.join entry since stage') := by
  cases stage with
  | enqueue stage =>
      obtain ⟨⟨store, next⟩, pushed, same⟩ := Option.map_eq_some_iff.mp ran
      obtain ⟨inv', knows', stirred⟩ := enqueue_kept inv knows pushed
      cases next with
      | returned position =>
          cases same
          exact ⟨inv', knows_nothing rfl rfl rfl rfl, stirred⟩
      | _ =>
          cases same
          exact ⟨inv', knows', stirred⟩
  | queueDepth position onlineUsers =>
      cases ran
      have same
          : Untouched lobby {
              lobby with
              emitted :=
                lobby.emitted
                  ++ [.matchQueued entry.socketId position onlineUsers
                        lobby.redis.queue.length]
            } :=
        ⟨rfl, rfl, rfl, rfl, rfl⟩
      exact ⟨inv.of_untouched same inv.announced, knows_nothing rfl rfl rfl rfl,
        .of_untouched same⟩
  | tryMatch stage =>
      obtain ⟨⟨store, next⟩, matched, same⟩ := Option.map_eq_some_iff.mp ran
      obtain ⟨inv', stirred, held⟩ := tryMatch_kept inv knows apart matched
      cases next with
      | returned pair =>
          cases pair with
          | none =>
              cases same
              exact ⟨inv', knows_nothing rfl rfl rfl rfl, stirred⟩
          | some pair =>
              cases same
              refine ⟨inv', knows_held (fun item member => ?_) rfl rfl rfl, stirred⟩
              refine held item (Or.inr ⟨pair.1, pair.2, rfl, ?_⟩)
              simpa [Handler.holds] using member
      | _ =>
          cases same
          exact ⟨inv', knows_held (fun item member => held item (Or.inl member)) rfl rfl rfl,
            stirred⟩
  | createSession first second =>
      cases ran
      exact ⟨inv, knows_held knows.held rfl rfl rfl, .of_untouched ⟨rfl, rfl, rfl, rfl, rfl⟩⟩
  | pairing first second callId todo =>
      cases todo with
      | nil => cases ran
      | cons head rest =>
          simp only [onJoinQueue] at ran
          split at ran
          · -- the announcement: the owners of both entries are still waiting
            cases ran
            have untouched : Untouched lobby (announce lobby first second callId) := by
              rw [announce_eq]
              exact ⟨rfl, rfl, rfl, rfl, rfl⟩
            refine ⟨inv.of_untouched untouched ?_, knows_nothing rfl rfl rfl rfl,
              .of_untouched untouched⟩
            have waitsFirst := (knows.held first List.mem_cons_self).2
            have waitsSecond :=
              (knows.held second (List.mem_cons_of_mem _ List.mem_cons_self)).2
            rw [announce_eq]
            intro announcement member
            rcases List.mem_append.mp member with old | new
            · exact inv.announced announcement old
            · rw [List.mem_singleton.mp new]
              exact ⟨waitsFirst, waitsSecond⟩
          · cases ran
            exact ⟨inv, knows_held knows.held rfl rfl rfl,
              .of_untouched ⟨rfl, rfl, rfl, rfl, rfl⟩⟩
  | broadcast onlineUsers =>
      cases ran
      have same : Untouched lobby (broadcastQueueStatus lobby onlineUsers) :=
        ⟨rfl, rfl, rfl, rfl, rfl⟩
      exact ⟨inv.of_untouched same inv.announced, knows_nothing rfl rfl rfl rfl,
        .of_untouched same⟩
  | done => cases ran

/-- The lobby when a `dequeue` of handler `owner` has returned. -/
def Lobby.departed (lobby : Lobby) (owner : Nat) (socketId : SocketId) (store : QueueStore)
    : Lobby :=
  {
    lobby with
    redis := store
    time := lobby.time + 1
    departedAt := Function.update lobby.departedAt socketId lobby.time
    departing := lobby.departing.erase (owner, socketId)
  }

/-- A `dequeue` returns when its socket has no entry left, so nobody who waits is told to
have left. -/
theorem departed_kept {socketId : SocketId} {store : QueueStore} (inv : LobbyInvariant lobby)
    (running : (owner, socketId) ∈ lobby.departing)
    (gone : lobby.redis.entriesOf socketId = []) (queue : store.queue = lobby.redis.queue)
    (sockets : store.sockets = lobby.redis.sockets)
    : LobbyInvariant (lobby.departed owner socketId store)
      ∧ Stirred owner lobby (lobby.departed owner socketId store) := by
  have others {other : SocketId} (different : other ≠ socketId)
      (stays : (lobby.departed owner socketId store).Stays other)
      : lobby.Stays other := by
    intro departure member same
    refine stays departure ((List.mem_erase_of_ne ?_).mpr member) same
    intro own
    exact different (same.symm.trans (congrArg Prod.snd own))
  constructor
  · refine ⟨fun item member stays => ?_, inv.announced, fun other => ?_⟩
    · have listed : item ∈ lobby.redis.queue := queue ▸ member
      have different : item.socketId ≠ socketId := by
        intro same
        have inEntries : item ∈ lobby.redis.entriesOf socketId :=
          List.mem_filter.mpr ⟨listed, decide_eq_true same⟩
        rw [gone] at inEntries
        cases inEntries
      rw [← inv.listed item listed (others different stays)]
      exact waiting_congr rfl (by simp [Lobby.departed, different])
    · by_cases own : other = socketId
      · simp [Lobby.departed, own]
      · have past := inv.clock other
        simp only [Lobby.departed, Function.update_of_ne own]
        exact Nat.le_succ_of_le past
  · refine ⟨?_, ?_, ?_, ?_⟩
    · intro other stays departure member
      exact stays departure (List.mem_of_mem_erase member)
    · intro other stays
      have different : other ≠ socketId := fun same => not_stays running (same ▸ stays)
      exact ⟨rfl, by simp [Lobby.departed, different]⟩
    · intro departure member different
      refine (List.mem_erase_of_ne ?_).mpr member
      intro own
      exact different (congrArg Prod.fst own)
    · intro other _
      have entries : (lobby.departed owner socketId store).redis.entriesOf other
          = lobby.redis.entriesOf other := by
        simp only [QueueStore.entriesOf, Lobby.departed, queue]
      rw [entries]
      exact ⟨.refl _, Or.inr (congrFun sockets other)⟩

/-- LREM of the one entry of a socket leaves none of that socket. -/
theorem entriesOf_lrem {store : QueueStore} {socketId : SocketId} {item : Item}
    (only : store.entriesOf socketId = [item])
    : { store with queue := store.queue.eraseP (fun other => other.raw = item.raw) }.entriesOf
          socketId
      = [] := by
  have owned : item ∈ store.entriesOf socketId := only ▸ List.mem_singleton_self item
  have named : item.socketId = socketId := of_decide_eq_true (List.mem_filter.mp owned).2
  have implied
      : (fun other : Item => decide (other.raw = item.raw))
        = fun other : Item =>
            decide (other.raw = item.raw) && decide (other.socketId = socketId) := by
    funext other
    by_cases text : other.raw = item.raw
    · have same : other.socketId = socketId := by
        rw [← named, Item.socketId, text, Item.socketId]
      simp [text, same]
    · simp [text]
  show (store.queue.eraseP (fun other => decide (other.raw = item.raw))).filter
      (fun other => decide (other.socketId = socketId)) = []
  rw [implied, ← List.eraseP_filter]
  rw [QueueStore.entriesOf] at only
  rw [only]
  simp

/-- Every command of a `dequeue` that a handler runs, where `next` only touches metas. -/
theorem dequeueStep_kept {ρ : Type} {socketId : SocketId} {stage : DequeueStage}
    {running : DequeueStage → ρ} {next : Lobby → Lobby × ρ} {result : ρ}
    (inv : LobbyInvariant lobby) (known : (owner, socketId) ∈ lobby.departing)
    (holds : DequeueHolds lobby.redis socketId stage)
    (ran : dequeueStep owner lobby socketId stage running next = some (lobby', result))
    : (∃ stage',
        result = running stage'
        ∧ LobbyInvariant lobby'
        ∧ Stirred owner lobby lobby'
        ∧ (owner, socketId) ∈ lobby'.departing
        ∧ DequeueHolds lobby'.redis socketId stage')
      ∨ ∃ departed,
          (lobby', result) = next departed
          ∧ LobbyInvariant departed
          ∧ Stirred owner lobby departed := by
  obtain ⟨⟨store, stage'⟩, dequeued, same⟩ := Option.map_eq_some_iff.mp ran
  cases stage with
  | hget =>
      simp only [MatchmakingService.dequeue] at dequeued
      split at dequeued
      · rename_i unnamed
        cases dequeued
        have gone : lobby.redis.entriesOf socketId = [] := by
          rcases indexed_iff.mp holds with gone | ⟨item, _, named⟩
          · exact gone
          · rw [unnamed] at named
            cases named
        obtain ⟨inv', stirred⟩ := departed_kept inv known gone rfl rfl
        exact Or.inr ⟨lobby.departed owner socketId lobby.redis, same.symm, inv', stirred⟩
      · rename_i raw named
        cases dequeued
        cases same
        refine Or.inl ⟨.lrem raw, rfl, inv.of_redis (fun item member => Or.inl member),
          .of_redis (fun _ _ => ⟨.refl _, Or.inr rfl⟩), known, ?_⟩
        rcases indexed_iff.mp holds with gone | ⟨item, only, text⟩
        · exact Or.inl gone
        · exact Or.inr ⟨item, only, Option.some.inj (text.symm.trans named)⟩
  | lrem raw =>
      cases dequeued
      cases same
      have fewer (other : SocketId)
          : ((lobby.redis.queue.eraseP (fun item => decide (item.raw = raw))).filter
              (fun item => decide (item.socketId = other))).Sublist
            (lobby.redis.entriesOf other) :=
        List.eraseP_sublist.filter _
      refine Or.inl ⟨.hdel raw, rfl, inv.of_redis ?_, .of_redis ?_, known, ?_⟩
      · intro item member
        exact Or.inl (List.eraseP_sublist.subset member)
      · intro other _
        exact ⟨fewer other, Or.inr rfl⟩
      · rcases holds with gone | ⟨item, only, rfl⟩
        · exact List.sublist_nil.mp (gone ▸ fewer socketId)
        · exact entriesOf_lrem only
  | hdel raw =>
      cases dequeued
      cases same
      refine Or.inl ⟨.audit raw, rfl, inv.of_redis (fun item member => Or.inl member),
        .of_redis ?_, known, holds⟩
      intro other _
      refine ⟨.refl _, ?_⟩
      by_cases own : other = socketId
      · subst own
        exact Or.inl holds
      · exact Or.inr (by simp [QueueStore.hdel, own])
  | audit raw =>
      cases dequeued
      refine Or.inr ⟨_, same.symm, ?_⟩
      exact departed_kept inv known holds rfl rfl
  | returned => cases dequeued

theorem Stirred.trans {middle last : Lobby} (first : Stirred owner lobby middle)
    (second : Untouched middle last)
    : Stirred owner lobby last := by
  refine ⟨?_, ?_, ?_, ?_⟩
  · intro socketId stays
    rw [Lobby.Stays, second.departing]
    exact first.stays socketId stays
  · intro socketId stays
    rw [second.connected, second.departedAt]
    exact first.known socketId stays
  · intro departure member different
    rw [second.departing]
    exact first.departing departure member different
  · intro socketId running
    rw [second.redis]
    exact first.entries socketId running

/-- A handler that has only its `dequeue` in hand. -/
theorem knows_dequeue {handler : Handler} {socketId : SocketId} {stage : DequeueStage}
    (running : (owner, socketId) ∈ lobby.departing)
    (holds : DequeueHolds lobby.redis socketId stage)
    (held : handler.holds = []) (enqueues : handler.enqueues = none)
    (pushes : handler.pushes = none) (dequeues : handler.dequeues = some (socketId, stage))
    : handler.Knows lobby owner := by
  refine ⟨by simp [held], by simp [enqueues], by simp [pushes], ?_⟩
  intro dequeue found
  cases Option.some.inj (dequeues.symm.trans found)
  exact ⟨running, holds⟩

/-- Every step of `onLeaveQueue`. -/
theorem leave_kept {socketId : SocketId} {stage stage' : LeaveStage}
    (inv : LobbyInvariant lobby) (knows : (Handler.leave socketId stage).Knows lobby owner)
    (ran : onLeaveQueue owner lobby socketId stage = some (lobby', stage'))
    : StepKept owner lobby lobby' (.leave socketId stage') := by
  cases stage with
  | dequeue stage =>
      simp only [onLeaveQueue] at ran
      obtain ⟨running, holds⟩ := knows.dequeued (socketId, stage) rfl
      rcases dequeueStep_kept inv running holds ran with
        ⟨next, rfl, inv', stirred, running', holds'⟩ | ⟨departed, same, inv', stirred⟩
      · exact ⟨inv', knows_dequeue running' holds' rfl rfl rfl rfl, stirred⟩
      · cases same
        exact ⟨inv', knows_nothing rfl rfl rfl rfl, stirred⟩
  | broadcast onlineUsers =>
      cases ran
      have same : Untouched lobby (broadcastQueueStatus lobby onlineUsers) :=
        ⟨rfl, rfl, rfl, rfl, rfl⟩
      exact ⟨inv.of_untouched same inv.announced, knows_nothing rfl rfl rfl rfl,
        .of_untouched same⟩
  | done => cases ran

/-- Every step of `handleDisconnect`. -/
theorem disconnect_kept {socketId : SocketId} {stage stage' : DisconnectStage}
    (inv : LobbyInvariant lobby)
    (knows : (Handler.disconnect socketId stage).Knows lobby owner)
    (ran : handleDisconnect owner lobby socketId stage = some (lobby', stage'))
    : StepKept owner lobby lobby' (.disconnect socketId stage') := by
  cases stage with
  | dequeue stage =>
      simp only [handleDisconnect] at ran
      obtain ⟨running, holds⟩ := knows.dequeued (socketId, stage) rfl
      rcases dequeueStep_kept inv running holds ran with
        ⟨next, rfl, inv', stirred, running', holds'⟩ | ⟨departed, same, inv', stirred⟩
      · exact ⟨inv', knows_dequeue running' holds' rfl rfl rfl rfl, stirred⟩
      · have left : lobby' = (endOrForget departed socketId).1 := congrArg Prod.fst same
        have right : stage' = (endOrForget departed socketId).2 := congrArg Prod.snd same
        subst left right
        have untouched : Untouched departed (endOrForget departed socketId).1 := by
          rw [endOrForget_eq]
          exact ⟨rfl, rfl, rfl, rfl, rfl⟩
        refine ⟨inv'.of_untouched untouched ?_, ?_, stirred.trans untouched⟩
        · rw [endOrForget_eq]
          exact inv'.announced
        · unfold endOrForget
          split
          · exact knows_nothing rfl rfl rfl rfl
          · exact knows_nothing rfl rfl rfl rfl
  | endCall callId todo =>
      cases todo with
      | nil => cases ran
      | cons head rest =>
          simp only [handleDisconnect] at ran
          split at ran
          · cases ran
            exact ⟨inv.of_untouched ⟨rfl, rfl, rfl, rfl, rfl⟩ inv.announced,
              knows_nothing rfl rfl rfl rfl, .of_untouched ⟨rfl, rfl, rfl, rfl, rfl⟩⟩
          · cases ran
            exact ⟨inv, knows_nothing rfl rfl rfl rfl, .of_untouched ⟨rfl, rfl, rfl, rfl, rfl⟩⟩
  | broadcast onlineUsers =>
      cases ran
      have same : Untouched lobby (broadcastQueueStatus lobby onlineUsers) :=
        ⟨rfl, rfl, rfl, rfl, rfl⟩
      exact ⟨inv.of_untouched same inv.announced, knows_nothing rfl rfl rfl rfl,
        .of_untouched same⟩
  | done => cases ran

/-- Every step of every handler. -/
theorem handler_kept {handler handler' : Handler} {input : Instant}
    (inv : LobbyInvariant lobby) (knows : handler.Knows lobby owner)
    (apart : ∀ item ∈ handler.pops lobby.redis, lobby.Stays item.socketId)
    (ran : handler.step owner input lobby = some (lobby', handler'))
    : StepKept owner lobby lobby' handler' := by
  cases handler with
  | join entry since stage =>
      obtain ⟨⟨_, _⟩, stepped, same⟩ := Option.map_eq_some_iff.mp ran
      cases same
      exact join_kept inv knows apart stepped
  | leave socketId stage =>
      obtain ⟨⟨_, _⟩, stepped, same⟩ := Option.map_eq_some_iff.mp ran
      cases same
      exact leave_kept inv knows stepped
  | disconnect socketId stage =>
      obtain ⟨⟨_, _⟩, stepped, same⟩ := Option.map_eq_some_iff.mp ran
      cases same
      exact disconnect_kept inv knows stepped
  | connect socketId userId anonymousId stage =>
      obtain ⟨⟨_, _⟩, stepped, same⟩ := Option.map_eq_some_iff.mp ran
      cases same
      cases stage with
      | broadcast onlineUsers =>
          cases stepped
          have same : Untouched lobby (broadcastQueueStatus lobby onlineUsers) :=
            ⟨rfl, rfl, rfl, rfl, rfl⟩
          exact ⟨inv.of_untouched same inv.announced, knows_nothing rfl rfl rfl rfl,
            .of_untouched same⟩
      | done => cases stepped

end

-----------------------------------------------------------------------------------------
-- Arrivals, and all runs
-----------------------------------------------------------------------------------------

section

variable {pool : Pool Lobby Handler} {lobby' : Lobby} {owner : Nat}

/-- The lobby when handler `owner` starts the `dequeue` of a socket. -/
def Lobby.departs (lobby : Lobby) (owner : Nat) (socketId : SocketId)
    (connected : SocketId → Bool)
    : Lobby :=
  { lobby with connected := connected, departing := (owner, socketId) :: lobby.departing }

/-- What is known of the other sockets stays when a socket departs in plain sight. -/
theorem departs_kept (owner : Nat) {socketId : SocketId} {connected : SocketId → Bool}
    (inv : LobbyInvariant pool.shared) (sight : InPlainSight pool socketId)
    (slots : ∀ other, HandlerHolds pool.shared other pool.threads[other]?)
    (same
      : ∀ other, other ≠ socketId → connected other = pool.shared.connected other)
    : LobbyInvariant (pool.shared.departs owner socketId connected)
      ∧ ∀ other,
          HandlerHolds (pool.shared.departs owner socketId connected) other
            pool.threads[other]? := by
  have stays {other : SocketId} (different : other ≠ socketId)
      (stayed : pool.shared.Stays other)
      : (pool.shared.departs owner socketId connected).Stays other := by
    intro departure member
    rcases List.mem_cons.mp member with rfl | old
    · exact Ne.symm different
    · exact stayed departure old
  have waiting {item : Item} (different : item.socketId ≠ socketId)
      : (pool.shared.departs owner socketId connected).waiting item
        = pool.shared.waiting item :=
    waiting_congr (same _ different) rfl
  refine ⟨⟨fun item member stayed => ?_, inv.announced, inv.clock⟩, fun other => ?_⟩
  · have different : item.socketId ≠ socketId :=
      fun equal => stayed (owner, socketId) List.mem_cons_self equal.symm
    have stayedBefore : pool.shared.Stays item.socketId :=
      fun departure old => stayed departure (List.mem_cons_of_mem _ old)
    rw [waiting different]
    exact inv.listed item member stayedBefore
  · intro handler found
    obtain ⟨notEnqueues, notHolds⟩ := sight.1 handler (List.mem_of_getElem? found)
    have knows := slots other handler found
    refine ⟨?_, ?_, ?_, ?_⟩
    · intro item member
      obtain ⟨stayed, waits⟩ := knows.held item member
      have different := notHolds item member
      exact ⟨stays different stayed, (waiting different).trans waits⟩
    · intro enqueued enqueues
      have different : enqueued ≠ socketId := by
        intro equal
        exact notEnqueues (equal ▸ enqueues)
      exact stays different (knows.enqueued enqueued enqueues)
    · intro push pushes
      have enqueues := pushes_enqueues pushes
      have different : push.1 ≠ socketId := by
        intro equal
        exact notEnqueues (equal ▸ enqueues)
      obtain ⟨connectedPush, departedAt⟩ := knows.pushed push pushes
      exact ⟨(same _ different).trans connectedPush, departedAt⟩
    · intro dequeue dequeues
      obtain ⟨running, known⟩ := knows.dequeued dequeue dequeues
      exact ⟨List.mem_cons_of_mem _ running, known⟩

/-- A change that only connects sockets or lets time pass. -/
structure Wakes (before after : Lobby) : Prop where
  redis : after.redis = before.redis
  departedAt : after.departedAt = before.departedAt
  departing : after.departing = before.departing
  announced : after.announced = before.announced
  connected
    : ∀ socketId, before.connected socketId = true → after.connected socketId = true
  time : before.time ≤ after.time

theorem Wakes.kept {before after : Lobby} (wakes : Wakes before after)
    (inv : LobbyInvariant before)
    : LobbyInvariant after
      ∧ ∀ other slot, HandlerHolds before other slot → HandlerHolds after other slot := by
  have stays {socketId : SocketId} : after.Stays socketId ↔ before.Stays socketId := by
    rw [Lobby.Stays, Lobby.Stays, wakes.departing]
  have waiting {item : Item} (waits : before.waiting item = true)
      : after.waiting item = true := by
    simp only [Lobby.waiting, Bool.and_eq_true, wakes.departedAt] at waits ⊢
    exact ⟨wakes.connected _ waits.1, waits.2⟩
  refine ⟨⟨?_, ?_, ?_⟩, ?_⟩
  · intro item member stayed
    rw [wakes.redis] at member
    exact waiting (inv.listed item member (stays.mp stayed))
  · rw [Lobby.AnnouncesWaiting, wakes.announced]
    exact inv.announced
  · intro socketId
    rw [wakes.departedAt]
    exact Nat.le_trans (inv.clock socketId) wakes.time
  · intro other slot holds handler found
    have knows := holds handler found
    refine ⟨?_, ?_, ?_, ?_⟩
    · intro item member
      obtain ⟨stayed, waits⟩ := knows.held item member
      exact ⟨stays.mpr stayed, waiting waits⟩
    · intro socketId enqueues
      exact stays.mpr (knows.enqueued socketId enqueues)
    · intro push pushes
      obtain ⟨connected, departedAt⟩ := knows.pushed push pushes
      exact ⟨wakes.connected _ connected, wakes.departedAt ▸ departedAt⟩
    · intro dequeue dequeues
      obtain ⟨running, known⟩ := knows.dequeued dequeue dequeues
      rw [wakes.departing, wakes.redis]
      exact ⟨running, known⟩

/-- A connection and a join wake. -/
theorem start_wakes {handler : Handler}
    (started : handler.start owner pool.shared = some lobby')
    (arrives : handler.dequeues = none)
    : Wakes pool.shared lobby' := by
  unfold Handler.start at started
  split at started
  · rename_i socketId userId anonymousId onlineUsers
    dsimp only at started
    split at started
    · cases started
      refine ⟨rfl, rfl, rfl, rfl, fun other connected => ?_, Nat.le_refl _⟩
      by_cases new : other = socketId
      · simp [new]
      · simp [new, connected]
    · cases started
  · split at started
    · cases started
    · split at started
      · cases started
        exact ⟨rfl, rfl, rfl, rfl, fun _ connected => connected, Nat.le_succ _⟩
      · cases started
  · cases arrives
  · cases arrives
  · cases started

/-- An arriving join is connected, and starts now. -/
theorem start_join {entry : QueueEntry} {since : Nat} {stage : JoinStage}
    (started : (Handler.join entry since stage).start owner pool.shared = some lobby')
    : stage = .enqueue .rpush
      ∧ pool.shared.connected entry.socketId = true
      ∧ since = pool.shared.time := by
  unfold Handler.start at started
  split at started
  · contradiction
  · rename_i same
    cases same
    split at started
    · cases started
    · split at started
      · rename_i allowed
        exact ⟨rfl, allowed.1, allowed.2.1⟩
      · cases started
  · contradiction
  · contradiction
  · cases started

/-- Arrivals keep the outline: departures start in plain sight, joins of sockets that stay. -/
theorem arrival_kept {handler : Handler}
    (valid : Holds LobbyInvariant HandlerHolds pool)
    (apart : LeavesApart pool (.start handler))
    (started : handler.start owner pool.shared = some lobby')
    : LobbyInvariant lobby'
      ∧ handler.Knows lobby' owner
      ∧ ∀ other, HandlerHolds lobby' other pool.threads[other]? := by
  obtain ⟨inv, slots⟩ := valid
  cases handler with
  | connect socketId userId anonymousId stage =>
      obtain ⟨inv', others⟩ := (start_wakes started rfl).kept inv
      exact ⟨inv', knows_nothing rfl rfl rfl rfl, fun other => others other _ (slots other)⟩
  | join entry since stage =>
      have wakes := start_wakes started rfl
      obtain ⟨inv', others⟩ := wakes.kept inv
      obtain ⟨rfl, connected, rfl⟩ := start_join started
      refine ⟨inv', ⟨?_, ?_, ?_, ?_⟩, fun other => others other _ (slots other)⟩
      · intro item held
        cases held
      · intro socketId enqueues
        cases enqueues
        rw [Lobby.Stays, wakes.departing]
        exact apart
      · intro push pushes
        cases pushes
        rw [wakes.departedAt]
        exact ⟨wakes.connected _ connected, inv.clock _⟩
      · intro dequeue dequeues
        cases dequeues
  | leave socketId stage =>
      have departs
          : stage = .dequeue .hget
            ∧ lobby' = pool.shared.departs owner socketId pool.shared.connected := by
        unfold Handler.start at started
        split at started
        · contradiction
        · contradiction
        · rename_i same
          cases same
          split at started
          · exact ⟨rfl, (Option.some.inj started).symm⟩
          · cases started
        · contradiction
        · cases started
      obtain ⟨rfl, rfl⟩ := departs
      obtain ⟨inv', others⟩ := departs_kept owner inv apart slots (fun _ _ => rfl)
      have holds : DequeueHolds pool.shared.redis socketId .hget := apart.2
      exact ⟨inv', knows_dequeue List.mem_cons_self holds rfl rfl rfl rfl, others⟩
  | disconnect socketId stage =>
      have departs
          : stage = .dequeue .hget
            ∧ lobby'
              = pool.shared.departs owner socketId
                  (Function.update pool.shared.connected socketId false) := by
        unfold Handler.start at started
        split at started
        · contradiction
        · contradiction
        · contradiction
        · rename_i same
          cases same
          split at started
          · exact ⟨rfl, (Option.some.inj started).symm⟩
          · cases started
        · cases started
      obtain ⟨rfl, rfl⟩ := departs
      obtain ⟨inv', others⟩ :=
        departs_kept owner inv apart slots
          (fun other different =>
            Function.update_of_ne different false pool.shared.connected)
      have holds : DequeueHolds pool.shared.redis socketId .hget := apart.2
      exact ⟨inv', knows_dequeue List.mem_cons_self holds rfl rfl rfl rfl, others⟩

end

/-- The assertions of all handlers hold together in every run whose departures are apart from
joins and pops. -/
theorem lobby_outline
    : lobbyProgram.GuardedOutline LeavesApart LobbyInvariant HandlerHolds where
  start := by
    intro pool handler lobby' valid apart started
    obtain ⟨inv, knows, others⟩ := arrival_kept valid apart started
    refine ⟨inv, ?_, fun other _ => others other⟩
    intro found same
    cases same
    exact knows
  step := by
    intro pool index input handler lobby' handler' valid apart found ran
    obtain ⟨inv, slots⟩ := valid
    have kept := handler_kept inv (slots index handler found) (apart handler found) ran
    refine ⟨kept.inv, ?_, fun other different => ?_⟩
    · intro next same
      cases same
      exact kept.knows
    · exact (slots other).frame kept.stirred different

/-- No match with someone who left. In every run in which a departure starts with the entry
of its socket in plain sight, and no join or pop concerns the socket while its `dequeue` is
running, both owners of every pair announced are still connected, and no `dequeue` of either
has returned since the join whose entry was used.
-/
theorem announces_waiting {moves : List (Move Handler Instant)} {pool : Pool Lobby Handler}
    (apart : lobbyMachine.Along LeavesApart lobbyMachine.init moves)
    (run : lobbyMachine.Reaches moves pool)
    : pool.shared.AnnouncesWaiting := by
  have begun : Holds LobbyInvariant HandlerHolds lobbyMachine.init := by
    refine .init ⟨?_, ?_, ?_⟩ ?_
    · intro item member
      cases member
    · intro announcement member
      cases member
    · intro socketId
      exact Nat.zero_le _
    · intro index handler found
      cases found
  exact (lobby_outline.exec apart begun run).1.announced

/-- The first visitor leaves while alone; then the other two join and are paired. -/
def leaveThenPair : List (Move Handler Instant) :=
  threeConnect
  ++ joinAndTry 3 1 (visitor 1) 1
  ++ [.step 3 { now := 1 }, .start (.leave 1 (.dequeue .hget))]
  ++ List.replicate 5 (.step 4 { now := 2 })
  ++ joinAndTry 5 3 (visitor 2) 3
  ++ [.step 5 { now := 3 }]
  ++ joinAndTry 6 4 (visitor 3) 4
  ++ List.replicate 2 (.step 6 { now := 4 })
  ++ [.step 6 { now := 4, uuid := 7 }]
  ++ List.replicate 10 (.step 6 { now := 4 })

/-- The first visitor leaves while the second one's attempt holds its entry: LREM finds
nothing, and the pair is announced after the `dequeue` has returned. -/
def leaveDuringPairing : List (Move Handler Instant) :=
  threeConnect
  ++ joinAndTry 3 1 (visitor 1) 1
  ++ [.step 3 { now := 1 }]
  ++ joinAndTry 4 2 (visitor 2) 2
  ++ [.start (.leave 1 (.dequeue .hget))]
  ++ List.replicate 5 (.step 5 { now := 3 })
  ++ List.replicate 2 (.step 4 { now := 4 })
  ++ [.step 4 { now := 4, uuid := 7 }]
  ++ List.replicate 10 (.step 4 { now := 4 })

theorem announces_waiting_apart
    : (lobbyAfter leaveThenPair).shared.announced.length = 1
      ∧ (lobbyAfter leaveThenPair).shared.AnnouncesWaiting := by
  have apart : lobbyMachine.Along LeavesApart lobbyMachine.init leaveThenPair := by decide
  have run : lobbyMachine.Reaches leaveThenPair (lobbyAfter leaveThenPair) := rfl
  exact ⟨by decide, announces_waiting apart run⟩

/-- Otherwise somebody who has left can be announced. -/
theorem announces_departed
    : lobbyMachine.Reaches leaveDuringPairing (lobbyAfter leaveDuringPairing)
      ∧ (∀ handler ∈ (lobbyAfter leaveDuringPairing).threads, handler.finished = true)
      ∧ (lobbyAfter leaveDuringPairing).shared.announced.map
          (fun announcement => (announcement.first.socketId, announcement.firstWaiting))
        = [(1, false)]
      ∧ ¬ (lobbyAfter leaveDuringPairing).shared.AnnouncesWaiting := by
  refine ⟨rfl, by decide, by decide, fun waiting => ?_⟩
  have missed
      : ¬ ∀ announcement ∈ (lobbyAfter leaveDuringPairing).shared.announced,
          announcement.firstWaiting = true ∧ announcement.secondWaiting = true := by
    decide
  exact missed waiting

end NexusComms.Matchmaking
