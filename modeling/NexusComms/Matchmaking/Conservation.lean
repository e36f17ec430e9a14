import Mathlib.Algebra.Order.Group.Multiset
import Mathlib.Tactic.Abel
import NexusComms.Concurrency.Interleaving
import NexusComms.Matchmaking.Queue

/-! Matchmaking loses no entry and duplicates none, however the commands of any number of
calls interleave: every entry pushed is in exactly one place.
-/

namespace NexusComms.Matchmaking

open Concurrency

/-- A call of the service. -/
inductive Call where
  | enqueue (entry : QueueEntry) (stage : EnqueueStage)
  | tryMatch (stage : TryMatchStage)
  | dequeue (socketId : SocketId) (stage : DequeueStage)
deriving DecidableEq, Repr

/-- The next command of a call; the entry that a call pushes is tagged with its index. -/
def Call.step (index : Nat) (now : Time) (store : QueueStore)
    : Call → Option (QueueStore × Call)
  | .enqueue entry stage =>
      (MatchmakingService.enqueue index now store entry stage).map
        (fun result => (result.1, .enqueue entry result.2))
  | .tryMatch stage =>
      (MatchmakingService.tryMatch now store stage).map
        (fun result => (result.1, .tryMatch result.2))
  | .dequeue socketId stage =>
      (MatchmakingService.dequeue store socketId stage).map
        (fun result => (result.1, .dequeue socketId result.2))

def Call.start (store : QueueStore) : Call → Option QueueStore
  | .enqueue _ .rpush => some store
  | .tryMatch .eval => some store
  | .dequeue _ .hget => some store
  | _ => none

/-- Any number of calls, where `Date.now()` is positive. -/
def service : Program QueueStore Call Time where
  start _ store call := call.start store
  step index now store call := if 0 < now then call.step index now store else none

/-- The entries that a `tryMatch` has popped and not finished with. -/
def TryMatchStage.held : TryMatchStage → Multiset Item
  | .eval => 0
  | .popped first second _ => {first, second}
  | .hdelStale stale _ => {stale}
  | .audit first second _ => {first, second}
  | .returned _ => 0

def Call.held : Call → Multiset Item
  | .enqueue _ _ => 0
  | .tryMatch stage => stage.held
  | .dequeue _ _ => 0

/-- The entries of all pairs returned. -/
def QueueStore.returnedItems (store : QueueStore) : List Item :=
  store.matched.flatMap (fun pair => [pair.first, pair.second])

/-- The entries that no call has in hand: waiting, returned, discarded or removed. -/
def QueueStore.settled (store : QueueStore) : Multiset Item :=
  ↑store.queue + ↑store.returnedItems + ↑(store.discarded.map Discard.item)
    + ↑store.removed

/-- LREM takes out one element, the one that it finds. -/
theorem eraseP_append_find_perm {α : Type} (p : α → Bool) (items : List α)
    : (items.eraseP p ++ (items.find? p).toList).Perm items := by
  induction items with
  | nil => exact .refl _
  | cons head rest ih =>
      cases found : p head with
      | true =>
          simp [found]
      | false =>
          simpa [found] using ih

theorem start_balance {store store' : QueueStore} {call : Call}
    (started : call.start store = some store')
    : store' = store ∧ call.held = 0 := by
  unfold Call.start at started
  split at started
  · cases started
    exact ⟨rfl, rfl⟩
  · cases started
    exact ⟨rfl, rfl⟩
  · cases started
    exact ⟨rfl, rfl⟩
  · cases started

/-- `enqueue` pushes its entry onto the list and holds nothing. -/
theorem enqueue_balance {tag : Nat} {now : Time} {store store' : QueueStore}
    {entry : QueueEntry} {stage stage' : EnqueueStage}
    (ran : MatchmakingService.enqueue tag now store entry stage = some (store', stage'))
    : ∃ amount : Multiset Item,
        (store'.pushed : Multiset Item) = store.pushed + amount
        ∧ store'.settled = store.settled + amount := by
  cases stage with
  | rpush =>
      cases ran
      refine ⟨{⟨.stringify { entry with enqueuedAt := now }, tag⟩}, ?_, ?_⟩
      · simp only [← Multiset.coe_add, Multiset.coe_singleton]
      · simp only [QueueStore.settled, QueueStore.returnedItems, ← Multiset.coe_add,
          Multiset.coe_singleton]
        abel
  | hset raw =>
      cases ran
      exact ⟨0, (add_zero _).symm, (add_zero _).symm⟩
  | audit =>
      cases ran
      exact ⟨0, (add_zero _).symm, (add_zero _).symm⟩
  | llen =>
      cases ran
      exact ⟨0, (add_zero _).symm, (add_zero _).symm⟩
  | returned position => cases ran

/-- `tryMatch` moves entries between the list, its own hands and the two ends. -/
theorem tryMatch_balance {now : Time} {store store' : QueueStore}
    {stage stage' : TryMatchStage}
    (ran : MatchmakingService.tryMatch now store stage = some (store', stage'))
    : store'.pushed = store.pushed
      ∧ store'.settled + stage'.held = store.settled + stage.held := by
  cases stage with
  | eval =>
      simp only [MatchmakingService.tryMatch] at ran
      split at ran
      · rename_i first second rest waiting
        cases ran
        refine ⟨rfl, ?_⟩
        simp only [QueueStore.settled, QueueStore.returnedItems, TryMatchStage.held, waiting,
          ← Multiset.cons_coe, ← Multiset.singleton_add, Multiset.insert_eq_cons]
        abel
      · cases ran
        exact ⟨rfl, rfl⟩
  | popped first second misses =>
      simp only [MatchmakingService.tryMatch] at ran
      split at ran
      · cases ran
        refine ⟨rfl, ?_⟩
        simp only [QueueStore.settled, QueueStore.returnedItems, TryMatchStage.held,
          QueueStore.hdel, List.map_append, List.map_cons, List.map_nil, ← Multiset.coe_add,
          ← Multiset.cons_coe, ← Multiset.singleton_add, Multiset.insert_eq_cons,
          Multiset.coe_nil]
        abel
      · split at ran
        · cases ran
          refine ⟨rfl, ?_⟩
          simp only [QueueStore.settled, QueueStore.returnedItems, TryMatchStage.held,
            ← Multiset.cons_coe, ← Multiset.singleton_add, Multiset.insert_eq_cons]
          abel
        · split at ran
          · cases ran
            refine ⟨rfl, ?_⟩
            simp only [QueueStore.settled, QueueStore.returnedItems, TryMatchStage.held,
              ← Multiset.cons_coe, ← Multiset.singleton_add, Multiset.insert_eq_cons]
            abel
          · cases ran
            exact ⟨rfl, rfl⟩
  | hdelStale stale now =>
      cases ran
      refine ⟨rfl, ?_⟩
      simp only [QueueStore.settled, QueueStore.returnedItems, TryMatchStage.held,
        QueueStore.hdel, List.map_append, List.map_cons, List.map_nil, ← Multiset.coe_add,
        Multiset.coe_singleton]
      abel
  | audit first second now =>
      cases ran
      refine ⟨rfl, ?_⟩
      simp only [QueueStore.settled, QueueStore.returnedItems, TryMatchStage.held,
        List.flatMap_append, List.flatMap_cons, List.flatMap_nil, List.append_nil,
        ← Multiset.coe_add, ← Multiset.cons_coe, ← Multiset.singleton_add,
        Multiset.insert_eq_cons, Multiset.coe_nil]
      abel
  | returned pair => cases ran

/-- `dequeue` removes what LREM finds. -/
theorem dequeue_balance {store store' : QueueStore} {socketId : SocketId}
    {stage stage' : DequeueStage}
    (ran : MatchmakingService.dequeue store socketId stage = some (store', stage'))
    : store'.pushed = store.pushed ∧ store'.settled = store.settled := by
  cases stage with
  | hget =>
      simp only [MatchmakingService.dequeue] at ran
      split at ran
      · cases ran
        exact ⟨rfl, rfl⟩
      · cases ran
        exact ⟨rfl, rfl⟩
  | lrem raw =>
      cases ran
      refine ⟨rfl, ?_⟩
      have perm := eraseP_append_find_perm (fun item : Item => decide (item.raw = raw)) store.queue
      have same : (↑(store.queue.eraseP (fun item : Item => decide (item.raw = raw)))
            + ↑(store.queue.find? (fun item : Item => decide (item.raw = raw))).toList
            : Multiset Item)
          = ↑store.queue := by
        rw [Multiset.coe_add]
        exact Multiset.coe_eq_coe.mpr perm
      simp only [QueueStore.settled, QueueStore.returnedItems, ← Multiset.coe_add]
      rw [← same]
      abel
  | hdel raw =>
      cases ran
      exact ⟨rfl, rfl⟩
  | audit raw =>
      cases ran
      exact ⟨rfl, rfl⟩
  | returned => cases ran

/-- The two entries that a call has returned, if it has returned a pair. -/
def Call.returned : Call → Multiset Item
  | .tryMatch (.returned (some (first, second))) => {first, second}
  | _ => 0

theorem service_step_some {index : Nat} {now : Time} {store store' : QueueStore}
    {call call' : Call} (ran : service.step index now store call = some (store', call'))
    : 0 < now ∧ call.step index now store = some (store', call') := by
  simp only [service] at ran
  split at ran
  · rename_i positive
    exact ⟨positive, ran⟩
  · cases ran

/-- Every entry pushed is settled or in the hands of one call. -/
theorem pushed_settled_or_held {moves : List (Move Call Time)} {pool : Pool QueueStore Call}
    (run : (service.machine .empty).Reaches moves pool)
    : (pool.shared.pushed : Multiset Item)
      = pool.shared.settled + Program.total Call.held pool.threads := by
  refine Program.balance (fun store => ↑store.pushed) QueueStore.settled Call.held ?_ ?_
    rfl run
  · intro index store call store' started
    obtain ⟨rfl, nothing⟩ := start_balance started
    exact ⟨0, (add_zero _).symm, by rw [nothing]⟩
  · intro index now store call store' call' ran
    obtain ⟨_, stepped⟩ := service_step_some ran
    cases call with
    | enqueue entry stage =>
        obtain ⟨⟨_, _⟩, enqueued, same⟩ := Option.map_eq_some_iff.mp stepped
        cases same
        obtain ⟨amount, more, settled⟩ := enqueue_balance enqueued
        exact ⟨amount, more, by simp only [Call.held, settled, add_zero]⟩
    | tryMatch stage =>
        obtain ⟨⟨_, _⟩, matched, same⟩ := Option.map_eq_some_iff.mp stepped
        cases same
        obtain ⟨pushed, kept⟩ := tryMatch_balance matched
        exact ⟨0, by rw [pushed, add_zero], by simpa only [Call.held, add_zero] using kept⟩
    | dequeue socketId stage =>
        obtain ⟨⟨_, _⟩, dequeued, same⟩ := Option.map_eq_some_iff.mp stepped
        cases same
        obtain ⟨pushed, kept⟩ := dequeue_balance dequeued
        exact ⟨0, by rw [pushed, add_zero], by simp only [Call.held, kept, add_zero]⟩

/-- What the tables say about ages and tags, whatever calls are running. -/
structure Recorded (store : QueueStore) : Prop where
  tags : (store.pushed.map Item.tag).Nodup
  positive : ∀ item ∈ store.pushed, 0 < item.raw.parse.enqueuedAt
  fresh
    : ∀ pair ∈ store.matched,
        pair.first.fresh pair.now = true ∧ pair.second.fresh pair.now = true
  stale : ∀ discard ∈ store.discarded, discard.item.fresh discard.now = false

/-- A call that has not pushed yet has an unused tag, and a `tryMatch` acts on what it has
found out about its entries. -/
def CallHolds (store : QueueStore) (index : Nat) : Option Call → Prop
  | none => index ∉ store.pushed.map Item.tag
  | some (.enqueue _ .rpush) => index ∉ store.pushed.map Item.tag
  | some (.tryMatch (.hdelStale stale now)) => stale.fresh now = false
  | some (.tryMatch (.audit first second now)) =>
      first.fresh now = true ∧ second.fresh now = true
  | some _ => True

/-- Only the list of pushed entries matters to an assertion, and only its tags. -/
theorem CallHolds.frame {store store' : QueueStore} {other : Nat} {slot : Option Call}
    (holds : CallHolds store other slot)
    (tags : other ∈ store'.pushed.map Item.tag → other ∈ store.pushed.map Item.tag)
    : CallHolds store' other slot := by
  unfold CallHolds at holds ⊢
  split
  · exact fun pushed => holds (tags pushed)
  · exact fun pushed => holds (tags pushed)
  · exact holds
  · exact holds
  · trivial

/-- Each command keeps the records; the cases are the commands in the order of the source. -/
theorem tryMatch_records {now : Time} {store store' : QueueStore} {index : Nat}
    {stage stage' : TryMatchStage} (recorded : Recorded store)
    (holds : CallHolds store index (some (.tryMatch stage)))
    (ran : MatchmakingService.tryMatch now store stage = some (store', stage'))
    : Recorded store' ∧ CallHolds store' index (some (.tryMatch stage')) := by
  cases stage with
  | eval =>
      simp only [MatchmakingService.tryMatch] at ran
      split at ran
      · cases ran
        exact ⟨⟨recorded.tags, recorded.positive, recorded.fresh, recorded.stale⟩, trivial⟩
      · cases ran
        exact ⟨⟨recorded.tags, recorded.positive, recorded.fresh, recorded.stale⟩, trivial⟩
  | popped first second misses =>
      simp only [MatchmakingService.tryMatch] at ran
      split at ran
      · rename_i both
        cases ran
        refine ⟨⟨recorded.tags, recorded.positive, recorded.fresh, ?_⟩, trivial⟩
        intro discard member
        rcases List.mem_append.mp member with old | new
        · exact recorded.stale discard old
        · simp only [List.mem_cons, List.not_mem_nil, or_false] at new
          rcases new with rfl | rfl
          · exact both.1
          · exact both.2
      · split at ran
        · rename_i stale
          cases ran
          exact ⟨⟨recorded.tags, recorded.positive, recorded.fresh, recorded.stale⟩, stale⟩
        · split at ran
          · rename_i stale
            cases ran
            exact ⟨⟨recorded.tags, recorded.positive, recorded.fresh, recorded.stale⟩, stale⟩
          · rename_i first_fresh second_fresh
            cases ran
            exact ⟨⟨recorded.tags, recorded.positive, recorded.fresh, recorded.stale⟩,
              by simpa using first_fresh, by simpa using second_fresh⟩
  | hdelStale stale now =>
      cases ran
      refine ⟨⟨recorded.tags, recorded.positive, recorded.fresh, ?_⟩, trivial⟩
      intro discard member
      rcases List.mem_append.mp member with old | new
      · exact recorded.stale discard old
      · rw [List.mem_singleton.mp new]
        exact holds
  | audit first second now =>
      cases ran
      refine ⟨⟨recorded.tags, recorded.positive, ?_, recorded.stale⟩, trivial⟩
      intro pair member
      rcases List.mem_append.mp member with old | new
      · exact recorded.fresh pair old
      · rw [List.mem_singleton.mp new]
        exact holds
  | returned pair => cases ran

theorem enqueue_records {now : Time} {store store' : QueueStore} {index : Nat}
    {entry : QueueEntry} {stage stage' : EnqueueStage} (recorded : Recorded store)
    (positive : 0 < now) (holds : CallHolds store index (some (.enqueue entry stage)))
    (ran : MatchmakingService.enqueue index now store entry stage = some (store', stage'))
    : Recorded store'
      ∧ CallHolds store' index (some (.enqueue entry stage'))
      ∧ ∀ other, other ≠ index →
          other ∈ store'.pushed.map Item.tag → other ∈ store.pushed.map Item.tag := by
  cases stage with
  | rpush =>
      cases ran
      refine ⟨⟨?_, ?_, recorded.fresh, recorded.stale⟩, trivial, ?_⟩
      · rw [List.map_append, List.nodup_append]
        refine ⟨recorded.tags, by simp, fun left old right new same => ?_⟩
        simp only [List.map_cons, List.map_nil, List.mem_singleton] at new
        exact holds (new ▸ same ▸ old)
      · intro item member
        rcases List.mem_append.mp member with old | new
        · exact recorded.positive item old
        · rw [List.mem_singleton.mp new]
          exact positive
      · intro other different member
        rw [List.map_append] at member
        rcases List.mem_append.mp member with old | new
        · exact old
        · exact absurd (List.mem_singleton.mp new) different
  | hset raw =>
      cases ran
      exact ⟨⟨recorded.tags, recorded.positive, recorded.fresh, recorded.stale⟩, trivial,
        fun _ _ => id⟩
  | audit =>
      cases ran
      exact ⟨⟨recorded.tags, recorded.positive, recorded.fresh, recorded.stale⟩, trivial,
        fun _ _ => id⟩
  | llen =>
      cases ran
      exact ⟨recorded, trivial, fun _ _ => id⟩
  | returned position => cases ran

/-- `dequeue` neither pushes nor matches nor discards. -/
theorem dequeue_records {store store' : QueueStore} {socketId : SocketId}
    {stage stage' : DequeueStage}
    (ran : MatchmakingService.dequeue store socketId stage = some (store', stage'))
    : store'.pushed = store.pushed
      ∧ store'.matched = store.matched
      ∧ store'.discarded = store.discarded := by
  cases stage with
  | hget =>
      simp only [MatchmakingService.dequeue] at ran
      split at ran
      · cases ran
        exact ⟨rfl, rfl, rfl⟩
      · cases ran
        exact ⟨rfl, rfl, rfl⟩
  | lrem raw =>
      cases ran
      exact ⟨rfl, rfl, rfl⟩
  | hdel raw =>
      cases ran
      exact ⟨rfl, rfl, rfl⟩
  | audit raw =>
      cases ran
      exact ⟨rfl, rfl, rfl⟩
  | returned => cases ran

/-- The records hold in every interleaving. -/
theorem service_outline : service.Outline Recorded CallHolds where
  start := by
    intro store store' index call recorded unused started
    obtain ⟨rfl, _⟩ := start_balance started
    refine ⟨recorded, ?_, fun _ _ _ holds => holds⟩
    cases call with
    | enqueue entry stage =>
        cases stage with
        | rpush => exact unused
        | _ => cases started
    | tryMatch stage =>
        cases stage with
        | eval => trivial
        | _ => cases started
    | dequeue socketId stage => trivial
  step := by
    intro store store' index now call call' recorded holds ran
    obtain ⟨positive, stepped⟩ := service_step_some ran
    cases call with
    | enqueue entry stage =>
        obtain ⟨⟨_, _⟩, enqueued, same⟩ := Option.map_eq_some_iff.mp stepped
        cases same
        obtain ⟨after, own, tags⟩ := enqueue_records recorded positive holds enqueued
        exact ⟨after, own, fun other _ different held => held.frame (tags other different)⟩
    | tryMatch stage =>
        obtain ⟨⟨_, _⟩, matched, same⟩ := Option.map_eq_some_iff.mp stepped
        cases same
        obtain ⟨after, own⟩ := tryMatch_records recorded holds matched
        have pushed := (tryMatch_balance matched).1
        exact ⟨after, own, fun other _ _ held => held.frame (by rw [pushed]; exact id)⟩
    | dequeue socketId stage =>
        obtain ⟨⟨_, _⟩, dequeued, same⟩ := Option.map_eq_some_iff.mp stepped
        cases same
        obtain ⟨pushed, matched, discarded⟩ := dequeue_records dequeued
        refine ⟨⟨pushed ▸ recorded.tags, pushed ▸ recorded.positive,
          matched ▸ recorded.fresh, discarded ▸ recorded.stale⟩, trivial, ?_⟩
        exact fun other _ _ held => held.frame (by rw [pushed]; exact id)

theorem start_returned {store store' : QueueStore} {call : Call}
    (started : call.start store = some store')
    : call.returned = 0 := by
  unfold Call.start at started
  split at started
  · rfl
  · rfl
  · rfl
  · cases started

/-- The pairs recorded are the pairs that calls have returned. -/
theorem returned_by_calls {moves : List (Move Call Time)} {pool : Pool QueueStore Call}
    (run : (service.machine .empty).Reaches moves pool)
    : (pool.shared.returnedItems : Multiset Item)
      = Program.total Call.returned pool.threads := by
  have balanced :=
    Program.balance (fun store : QueueStore => (store.returnedItems : Multiset Item))
      (fun _ => 0) Call.returned ?_ ?_ rfl run
  · rwa [zero_add] at balanced
  · intro index store call store' started
    have same := (start_balance started).1
    exact ⟨0, by rw [same, add_zero], by rw [start_returned started]⟩
  · intro index now store call store' call' ran
    obtain ⟨_, stepped⟩ := service_step_some ran
    cases call with
    | enqueue entry stage =>
        obtain ⟨⟨_, _⟩, enqueued, same⟩ := Option.map_eq_some_iff.mp stepped
        cases same
        refine ⟨0, ?_, rfl⟩
        cases stage with
        | returned position => cases enqueued
        | _ =>
            cases enqueued
            exact (add_zero _).symm
    | dequeue socketId stage =>
        obtain ⟨⟨_, _⟩, dequeued, same⟩ := Option.map_eq_some_iff.mp stepped
        cases same
        have matched := (dequeue_records dequeued).2.1
        exact ⟨0, by simp only [QueueStore.returnedItems, matched, add_zero], rfl⟩
    | tryMatch stage =>
        obtain ⟨⟨_, _⟩, matched, same⟩ := Option.map_eq_some_iff.mp stepped
        cases same
        cases stage with
        | eval =>
            simp only [MatchmakingService.tryMatch] at matched
            split at matched
            · cases matched
              exact ⟨0, (add_zero _).symm, rfl⟩
            · cases matched
              exact ⟨0, (add_zero _).symm, rfl⟩
        | popped first second misses =>
            simp only [MatchmakingService.tryMatch] at matched
            split at matched
            · cases matched
              exact ⟨0, (add_zero _).symm, rfl⟩
            · split at matched
              · cases matched
                exact ⟨0, (add_zero _).symm, rfl⟩
              · split at matched
                · cases matched
                  exact ⟨0, (add_zero _).symm, rfl⟩
                · cases matched
                  exact ⟨0, (add_zero _).symm, rfl⟩
        | hdelStale stale time =>
            cases matched
            exact ⟨0, (add_zero _).symm, rfl⟩
        | audit first second time =>
            cases matched
            refine ⟨{first, second}, ?_, rfl⟩
            simp only [QueueStore.returnedItems, List.flatMap_append, List.flatMap_cons,
              List.flatMap_nil, List.append_nil, ← Multiset.coe_add]
            rfl
        | returned pair => cases matched

/-- A positive time of enqueueing is compared with `Date.now()`. -/
theorem fresh_iff_younger {item : Item} (now : Time)
    (positive : 0 < item.raw.parse.enqueuedAt)
    : item.fresh now = true ↔ now < item.raw.parse.enqueuedAt + ttlMs := by
  have ages (enqueuedAt now ttl : Nat) (some_ttl : 0 < ttl) (timed : 0 < enqueuedAt)
      : enqueuedAt = 0 ∨ now - enqueuedAt < ttl ↔ now < enqueuedAt + ttl := by
    omega
  simp only [Item.fresh, Bool.or_eq_true, decide_eq_true_eq]
  exact ages _ _ _ (by decide) positive

/-- Matchmaking conserves entries. At every moment the entries ever pushed are the disjoint
union of those waiting in the list, popped and still in hand, returned in pairs, discarded
and removed by LREM. So no entry is in two pairs; and the entries of a pair are younger than
the TTL at the `Date.now()` of the call that returns them, discarded ones at least that old.
-/
theorem matchmaking_conserves {moves : List (Move Call Time)} {pool : Pool QueueStore Call}
    (run : (service.machine .empty).Reaches moves pool)
    : (pool.shared.pushed : Multiset Item)
        = ↑pool.shared.queue
          + Program.total Call.held pool.threads
          + Program.total Call.returned pool.threads
          + ↑(pool.shared.discarded.map Discard.item)
          + ↑pool.shared.removed
      ∧ (pool.shared.pushed.map Item.tag).Nodup
      ∧ (pool.shared.returnedItems : Multiset Item)
          = Program.total Call.returned pool.threads
      ∧ (pool.shared.returnedItems.map Item.tag).Nodup
      ∧ (∀ pair ∈ pool.shared.matched, ∀ item ∈ [pair.first, pair.second],
          pair.now < item.raw.parse.enqueuedAt + ttlMs)
      ∧ ∀ discard ∈ pool.shared.discarded,
          discard.item.raw.parse.enqueuedAt + ttlMs ≤ discard.now := by
  have conserved := pushed_settled_or_held run
  have calls := returned_by_calls run
  obtain ⟨recorded, _⟩ :=
    service_outline.reaches ⟨by simp [QueueStore.empty], by simp [QueueStore.empty],
      by simp [QueueStore.empty], by simp [QueueStore.empty]⟩
      (fun index => by simp [CallHolds, QueueStore.empty]) run
  have whole
      : (pool.shared.pushed : Multiset Item)
        = ↑pool.shared.queue
          + Program.total Call.held pool.threads
          + Program.total Call.returned pool.threads
          + ↑(pool.shared.discarded.map Discard.item)
          + ↑pool.shared.removed := by
    rw [conserved, QueueStore.settled, ← calls]
    abel
  have returnedSome : (pool.shared.returnedItems : Multiset Item) ≤ ↑pool.shared.pushed := by
    rw [whole, calls]
    exact Multiset.le_iff_exists_add.mpr
      ⟨↑pool.shared.queue + Program.total Call.held pool.threads
        + ↑(pool.shared.discarded.map Discard.item) + ↑pool.shared.removed, by abel⟩
  have discardedSome
      : (pool.shared.discarded.map Discard.item : Multiset Item) ≤ ↑pool.shared.pushed := by
    rw [whole]
    exact Multiset.le_iff_exists_add.mpr
      ⟨↑pool.shared.queue + Program.total Call.held pool.threads
        + Program.total Call.returned pool.threads + ↑pool.shared.removed, by abel⟩
  refine ⟨whole, recorded.tags, calls, ?_, ?_, ?_⟩
  · have fewer := Multiset.map_le_map (f := Item.tag) returnedSome
    rw [Multiset.map_coe, Multiset.map_coe] at fewer
    exact Multiset.coe_nodup.mp (Multiset.nodup_of_le fewer (Multiset.coe_nodup.mpr recorded.tags))
  · intro pair member item inPair
    have known : item ∈ pool.shared.pushed := by
      refine Multiset.mem_coe.mp (Multiset.mem_of_le returnedSome (Multiset.mem_coe.mpr ?_))
      exact List.mem_flatMap.mpr ⟨pair, member, inPair⟩
    apply (fresh_iff_younger pair.now (recorded.positive item known)).mp
    have fresh := recorded.fresh pair member
    simp only [List.mem_cons, List.not_mem_nil, or_false] at inPair
    rcases inPair with rfl | rfl
    · exact fresh.1
    · exact fresh.2
  · intro discard member
    have known : discard.item ∈ pool.shared.pushed :=
      Multiset.mem_coe.mp
        (Multiset.mem_of_le discardedSome (Multiset.mem_coe.mpr (List.mem_map_of_mem member)))
    have stale := recorded.stale discard member
    have younger := fresh_iff_younger discard.now (recorded.positive _ known)
    rw [stale] at younger
    have notYounger : ¬ discard.now < discard.item.raw.parse.enqueuedAt + ttlMs := by
      intro young
      cases younger.mpr young
    exact Nat.le_of_not_lt notYounger

/-- Three visitors, of whom the first is stale when the second is to be matched: the second
is put back and then matched with the third. -/
def staleThenMatched : List (Move Call Time) := [
  .start (.enqueue (visitor 1) .rpush),
  .step 0 1,
  .start (.enqueue (visitor 2) .rpush),
  .step 1 400000,
  .start (.tryMatch .eval),
  .start (.enqueue (visitor 3) .rpush),
  .step 2 400001,
  .step 3 400002,
  .step 2 400003,
  .step 2 400004,
  .start (.tryMatch .eval),
  .step 4 400005,
  .step 4 400006,
  .step 4 400007
]

def afterStaleThenMatched : Pool QueueStore Call :=
  ((service.machine .empty).exec (service.machine .empty).init staleThenMatched).getD
    ⟨.empty, []⟩

theorem matchmaking_conserves_stale
    : afterStaleThenMatched.shared.returnedItems.map Item.tag = [1, 3]
      ∧ (afterStaleThenMatched.shared.pushed : Multiset Item)
        = ↑afterStaleThenMatched.shared.queue
          + Program.total Call.held afterStaleThenMatched.threads
          + Program.total Call.returned afterStaleThenMatched.threads
          + ↑(afterStaleThenMatched.shared.discarded.map Discard.item)
          + ↑afterStaleThenMatched.shared.removed := by
  have run : (service.machine .empty).Reaches staleThenMatched afterStaleThenMatched := rfl
  exact ⟨by decide, (matchmaking_conserves run).1⟩

end NexusComms.Matchmaking
