import NexusComms.Concurrency.Runs
import NexusComms.Matchmaking.Conservation
import NexusComms.Signaling.Services
import NexusComms.Storage.KeyedQueue

/-! The matchmaking service, called one call at a time, is a first-in-first-out queue with a
longest time to wait. The two Redis keys stay in step, and the list stays ordered by age.
-/

namespace NexusComms.Signaling

open Concurrency Matchmaking Storage

inductive QueueCall where
  | enqueue (entry : QueueEntry)
  | tryMatch
  | dequeue (socketId : SocketId)
deriving DecidableEq, Repr

inductive QueueReply where
  | position (position : Nat)
  | pair (pair : Option (TimedEntry × TimedEntry))
  | void
deriving DecidableEq, Repr

/-- A call, and `Date.now()` while it runs. -/
structure TimedCall where
  now : Time
  call : QueueCall
deriving DecidableEq, Repr

-----------------------------------------------------------------------------------------
-- The abstract queue
-----------------------------------------------------------------------------------------

/-- Those who wait, longest first. -/
structure WaitingQueue where
  waiting : List TimedEntry
  clock : Time
  replies : List QueueReply
deriving DecidableEq, Repr

namespace WaitingQueue

/-- The entry has waited for `QUEUE_TTL` or longer. -/
def stale (entry : TimedEntry) (now : Time) : Bool := decide (entry.enqueuedAt + ttlMs ≤ now)

/-- Of the two who have waited longest either both are matched, or those of them who are stale
leave. -/
def pairUp (now : Time)
    : List TimedEntry → List TimedEntry × Option (TimedEntry × TimedEntry)
  | first :: second :: rest =>
      if stale first now then
        (if stale second now then rest else second :: rest, none)
      else
        (rest, some (first, second))
  | waiting => (waiting, none)

/-- Nobody is matched alone. -/
theorem pairUp_few {now : Time} {waiting : List TimedEntry} (few : waiting.length < 2)
    : pairUp now waiting = (waiting, none) := by
  match waiting with
  | [] => rfl
  | [only] => rfl
  | first :: second :: rest =>
      simp only [List.length_cons] at few
      omega

/-- The next state of the abstract queue, with what it answers. -/
def answer (queue : WaitingQueue) (now : Time) : QueueCall → List TimedEntry × QueueReply
  | .enqueue entry =>
      (queue.waiting ++ [{ entry with enqueuedAt := now }],
        .position (queue.waiting.length + 1))
  | .tryMatch =>
      let (waiting, pair) := pairUp now queue.waiting
      (waiting, .pair pair)
  | .dequeue socketId =>
      (without (fun entry => entry.socketId) queue.waiting socketId, .void)

def step (queue : WaitingQueue) (timed : TimedCall) : Option WaitingQueue :=
  let (waiting, reply) := queue.answer timed.now timed.call
  some ⟨waiting, timed.now, queue.replies ++ [reply]⟩

end WaitingQueue

/-- The abstract queue under any calls. -/
abbrev waitingMachine : Machine WaitingQueue TimedCall where
  init := ⟨[], 0, []⟩
  step := WaitingQueue.step

-----------------------------------------------------------------------------------------
-- The service
-----------------------------------------------------------------------------------------

/-- Redis between two calls of the service. -/
structure ServedQueue where
  redis : QueueStore
  clock : Time
  replies : List QueueReply

namespace ServedQueue

def answer (queue : ServedQueue) (now : Time) : QueueCall → QueueStore × QueueReply
  | .enqueue entry =>
      let (redis, position) := MatchmakingService.enqueue now queue.redis entry
      (redis, .position position)
  | .tryMatch =>
      let (redis, pair) := MatchmakingService.tryMatch now queue.redis
      (redis, .pair pair)
  | .dequeue socketId => (MatchmakingService.dequeue queue.redis socketId, .void)

/-- A socket is queued as long as it has an entry in the list. -/
def queued (queue : ServedQueue) (socketId : SocketId) : Bool :=
  queue.redis.queue.any (fun item => item.socketId = socketId)

/-- The clock is positive and never runs backwards, and a socket enqueues only while it is not
queued. -/
def admits (queue : ServedQueue) (timed : TimedCall) : Bool :=
  decide (queue.clock ≤ timed.now) && decide (0 < timed.now)
    && match timed.call with
      | .enqueue entry => !queue.queued entry.socketId
      | _ => true

def step (queue : ServedQueue) (timed : TimedCall) : Option ServedQueue :=
  if queue.admits timed then
    let (redis, reply) := queue.answer timed.now timed.call
    some ⟨redis, timed.now, queue.replies ++ [reply]⟩
  else
    none

end ServedQueue

/-- Every sequential run of the service from empty keys. -/
abbrev servedMachine : Machine ServedQueue TimedCall where
  init := ⟨.empty, 0, []⟩
  step := ServedQueue.step

-----------------------------------------------------------------------------------------
-- What each call leaves
-----------------------------------------------------------------------------------------

section Calls

variable {now : Time} {redis : QueueStore}

/-- `enqueue` pushes one item and puts it under its socket. -/
theorem enqueue_eq (now : Time) (redis : QueueStore) (entry : QueueEntry)
    : MatchmakingService.enqueue now redis entry
      = (
          {
            redis with
            queue :=
              redis.queue
                ++ [⟨.stringify { entry with enqueuedAt := now }, redis.pushed.length⟩]
            pushed :=
              redis.pushed
                ++ [⟨.stringify { entry with enqueuedAt := now }, redis.pushed.length⟩]
            sockets :=
              Function.update redis.sockets entry.socketId
                (some (.stringify { entry with enqueuedAt := now }))
            audits :=
              redis.audits
                ++ [.matchQueued entry.userId entry.anonymousId entry.socketId
                      entry.preferredType]
          },
          redis.queue.length + 1) := by
  simp [MatchmakingService.enqueue, complete, Matchmaking.MatchmakingService.enqueue]

/-- `dequeue` of a socket that is not indexed does nothing. -/
theorem dequeue_absent {socketId : SocketId} (absent : redis.sockets socketId = none)
    : MatchmakingService.dequeue redis socketId = redis := by
  simp [MatchmakingService.dequeue, complete, Matchmaking.MatchmakingService.dequeue, absent]

/-- `dequeue` of an indexed socket takes the first item with the indexed text out. -/
theorem dequeue_present {socketId : SocketId} {raw : Serialized}
    (present : redis.sockets socketId = some raw)
    : MatchmakingService.dequeue redis socketId
      = {
          redis.hdel socketId with
          queue := redis.queue.eraseP (fun item => item.raw = raw)
          removed :=
            redis.removed ++ (redis.queue.find? (fun item => item.raw = raw)).toList
          audits :=
            redis.audits
              ++ [.matchCancelled raw.parse.userId raw.parse.anonymousId socketId]
        } := by
  simp [MatchmakingService.dequeue, complete, Matchmaking.MatchmakingService.dequeue, present,
    QueueStore.hdel]

/-- With fewer than two items `tryMatch` only counts a miss. -/
theorem tryMatch_few (few : redis.queue.length < 2)
    : MatchmakingService.tryMatch now redis
      = ({ redis with misses := redis.misses + 1 }, none) := by
  unfold MatchmakingService.tryMatch
  match waiting : redis.queue with
  | [] => simp [complete, Matchmaking.MatchmakingService.tryMatch, waiting]
  | [only] => simp [complete, Matchmaking.MatchmakingService.tryMatch, waiting]
  | first :: second :: rest =>
      simp only [waiting, List.length_cons] at few
      omega

variable {first second : Item} {rest : List Item}

/-- Two stale items are discarded. -/
theorem tryMatch_stale (waiting : redis.queue = first :: second :: rest)
    (firstStale : first.fresh now = false) (secondStale : second.fresh now = false)
    : MatchmakingService.tryMatch now redis
      = (
          {
            (redis.hdel first.socketId).hdel second.socketId with
            queue := rest
            discarded := redis.discarded ++ [⟨first, now⟩, ⟨second, now⟩]
          },
          none) := by
  simp [MatchmakingService.tryMatch, complete, Matchmaking.MatchmakingService.tryMatch,
    waiting, firstStale, secondStale, QueueStore.hdel]

/-- A stale first item is discarded, and the second one put back. -/
theorem tryMatch_put_back (waiting : redis.queue = first :: second :: rest)
    (firstStale : first.fresh now = false) (secondFresh : second.fresh now = true)
    : MatchmakingService.tryMatch now redis
      = (
          {
            redis.hdel first.socketId with
            queue := second :: rest
            discarded := redis.discarded ++ [⟨first, now⟩]
          },
          none) := by
  simp [MatchmakingService.tryMatch, complete, Matchmaking.MatchmakingService.tryMatch,
    waiting, firstStale, secondFresh, QueueStore.hdel]

/-- A stale second item is discarded, and the first one put back. -/
theorem tryMatch_put_first_back (waiting : redis.queue = first :: second :: rest)
    (firstFresh : first.fresh now = true) (secondStale : second.fresh now = false)
    : MatchmakingService.tryMatch now redis
      = (
          {
            redis.hdel second.socketId with
            queue := first :: rest
            discarded := redis.discarded ++ [⟨second, now⟩]
          },
          none) := by
  simp [MatchmakingService.tryMatch, complete, Matchmaking.MatchmakingService.tryMatch,
    waiting, firstFresh, secondStale, QueueStore.hdel]

/-- Two fresh items are matched. -/
theorem tryMatch_fresh (waiting : redis.queue = first :: second :: rest)
    (firstFresh : first.fresh now = true) (secondFresh : second.fresh now = true)
    : MatchmakingService.tryMatch now redis
      = (
          {
            (redis.hdel first.socketId).hdel second.socketId with
            queue := rest
            audits :=
              redis.audits
                ++ [.matchFound
                      (first.raw.parse.userId.getD first.raw.parse.anonymousId)
                      (second.raw.parse.userId.getD second.raw.parse.anonymousId)]
            matched := redis.matched ++ [⟨first, second, now⟩]
          },
          some (first.raw.parse, second.raw.parse)) := by
  simp [MatchmakingService.tryMatch, complete, Matchmaking.MatchmakingService.tryMatch,
    waiting, firstFresh, secondFresh, QueueStore.hdel]

end Calls

-----------------------------------------------------------------------------------------
-- The service refines the abstract queue
-----------------------------------------------------------------------------------------

/-- The socket of an entry, which is its key in `matchmaking:sockets`. -/
def owner (entry : TimedEntry) : SocketId := entry.socketId

/-- The list holds the waiting entries, each under its own socket in the index, and the longer
an entry has waited the earlier it stands. -/
structure Refines (served : ServedQueue) (queue : WaitingQueue) : Prop where
  entries : served.redis.queue.map (fun item => item.raw.parse) = queue.waiting
  index
    : ∀ socketId,
        served.redis.sockets socketId
          = (keyed owner queue.waiting socketId).map Serialized.stringify
  unique : (queue.waiting.map owner).Nodup
  ordered
    : queue.waiting.Pairwise (fun left right => left.enqueuedAt ≤ right.enqueuedAt)
  dated : ∀ entry ∈ queue.waiting, 0 < entry.enqueuedAt ∧ entry.enqueuedAt ≤ queue.clock
  clock : served.clock = queue.clock
  replies : served.replies = queue.replies

section

variable {served : ServedQueue} {queue : WaitingQueue} {now : Time}

/-- An item of the list is fresh exactly if its entry is not stale. -/
theorem Refines.fresh_iff (refines : Refines served queue) (now : Time) (item : Item)
    (member : item ∈ served.redis.queue)
    : item.fresh now = !WaitingQueue.stale item.raw.parse now := by
  have waits : item.raw.parse ∈ queue.waiting := by
    rw [← refines.entries]
    exact List.mem_map_of_mem member
  have younger := fresh_iff_younger now (refines.dated _ waits).1
  cases fresh : item.fresh now with
  | true =>
      have young := younger.mp fresh
      have current : ¬ item.raw.parse.enqueuedAt + ttlMs ≤ now := Nat.not_le.mpr young
      simp [WaitingQueue.stale, current]
  | false =>
      have old : ¬ now < item.raw.parse.enqueuedAt + ttlMs := by
        intro young
        rw [younger.mpr young] at fresh
        cases fresh
      simp [WaitingQueue.stale, Nat.not_lt.mp old]

/-- Whoever stands behind a fresh item is fresh. -/
theorem Refines.fresh_behind (refines : Refines served queue) {first second : Item}
    {rest : List Item} (waiting : served.redis.queue = first :: second :: rest)
    (firstFresh : first.fresh now = true)
    : second.fresh now = true := by
  have inList : ∀ item ∈ [first, second], item ∈ served.redis.queue := by
    intro item member
    rw [waiting]
    simp only [List.mem_cons, List.not_mem_nil, or_false] at member ⊢
    rcases member with same | same
    · exact .inl same
    · exact .inr (.inl same)
  rw [refines.fresh_iff now second (inList second (by simp))]
  rw [refines.fresh_iff now first (inList first (by simp))] at firstFresh
  have ordered := refines.ordered
  rw [← refines.entries, waiting] at ordered
  have older : first.raw.parse.enqueuedAt ≤ second.raw.parse.enqueuedAt :=
    (List.pairwise_cons.mp ordered).1 _ (by simp)
  simp only [WaitingQueue.stale, Bool.not_eq_true', decide_eq_false_iff_not] at firstFresh ⊢
  exact fun staleNow => firstFresh (Nat.le_trans (Nat.add_le_add_right older _) staleNow)

/-- A socket is queued exactly if it has an entry that waits. -/
theorem Refines.queued_iff (refines : Refines served queue) (socketId : SocketId)
    : served.queued socketId = (keyed owner queue.waiting socketId).isSome := by
  have present : served.queued socketId = true
      ↔ (keyed owner queue.waiting socketId).isSome = true := by
    rw [Option.isSome_iff_ne_none, Ne, keyed_eq_none, ← refines.entries]
    simp only [ServedQueue.queued, List.any_eq_true, decide_eq_true_eq]
    simp [Item.socketId, owner]
  cases left : served.queued socketId with
  | true => exact (present.mp left).symm
  | false =>
      cases right : (keyed owner queue.waiting socketId).isSome with
      | true => rw [present.mpr right] at left; cases left
      | false => rfl

/-- A socket that joins is the last one in the queue. -/
theorem Refines.enqueue (refines : Refines served queue) {entry : QueueEntry}
    (later : queue.clock ≤ now) (positive : 0 < now)
    (absent : keyed owner queue.waiting entry.socketId = none)
    : Refines
        ⟨(MatchmakingService.enqueue now served.redis entry).1, now,
          served.replies
            ++ [.position (MatchmakingService.enqueue now served.redis entry).2]⟩
        ⟨queue.waiting ++ [{ entry with enqueuedAt := now }], now,
          queue.replies ++ [.position (queue.waiting.length + 1)]⟩ := by
  have length : served.redis.queue.length = queue.waiting.length := by
    rw [← refines.entries, List.length_map]
  have apart := keyed_eq_none.mp absent
  rw [enqueue_eq]
  refine {
    entries := by simp [refines.entries]
    index := ?_
    unique := ?_
    ordered := ?_
    dated := ?_
    clock := rfl
    replies := by rw [refines.replies, length]
  }
  · intro socketId
    rw [keyed_concat socketId apart]
    by_cases here : entry.socketId = socketId
    · subst here
      simp [owner]
    · have elsewhere : ¬ owner { entry with enqueuedAt := now } = socketId := here
      simp [elsewhere, Ne.symm here, refines.index socketId]
  · rw [List.map_append, List.nodup_append]
    refine ⟨refines.unique, by simp, ?_⟩
    intro known member last single same
    obtain ⟨other, waits, rfl⟩ := List.mem_map.mp member
    simp only [List.map_cons, List.map_nil, List.mem_singleton] at single
    exact apart other waits (same.trans single)
  · rw [List.pairwise_append]
    refine ⟨refines.ordered, List.pairwise_singleton _ _, ?_⟩
    intro earlier waits last single
    rw [List.mem_singleton.mp single]
    exact Nat.le_trans (refines.dated earlier waits).2 later
  · intro other member
    rcases List.mem_append.mp member with old | new
    · exact ⟨(refines.dated other old).1, Nat.le_trans (refines.dated other old).2 later⟩
    · rw [List.mem_singleton.mp new]
      exact ⟨positive, Nat.le_refl _⟩

/-- Whatever leaves the queue in order keeps everything but the index. -/
theorem Refines.leave (refines : Refines served queue) {redis : QueueStore}
    {waiting : List TimedEntry} {reply : QueueReply} (later : queue.clock ≤ now)
    (fewer : waiting.Sublist queue.waiting)
    (entries : redis.queue.map (fun item => item.raw.parse) = waiting)
    (index
      : ∀ socketId,
          redis.sockets socketId = (keyed owner waiting socketId).map Serialized.stringify)
    : Refines ⟨redis, now, served.replies ++ [reply]⟩
        ⟨waiting, now, queue.replies ++ [reply]⟩ where
  entries := entries
  index := index
  unique := refines.unique.sublist (fewer.map owner)
  ordered := refines.ordered.sublist fewer
  dated entry member :=
    ⟨(refines.dated entry (fewer.subset member)).1,
      Nat.le_trans (refines.dated entry (fewer.subset member)).2 later⟩
  clock := rfl
  replies := by rw [refines.replies]

/-- `dequeue` takes the entry of its socket out of the list, and no other one. -/
theorem Refines.dequeue_queue (refines : Refines served queue) (socketId : SocketId)
    : (MatchmakingService.dequeue served.redis socketId).queue
      = without Item.socketId served.redis.queue socketId := by
  have sockets : served.redis.queue.map Item.socketId = queue.waiting.map owner := by
    rw [← refines.entries, List.map_map]
    rfl
  have unique : (served.redis.queue.map Item.socketId).Nodup := by
    rw [sockets]
    exact refines.unique
  have indexed := refines.index socketId
  cases found : keyed owner queue.waiting socketId with
  | none =>
      rw [found] at indexed
      rw [dequeue_absent indexed]
      refine (without_eq_self (keyed_eq_none.mpr (fun item member same => ?_))).symm
      refine keyed_eq_none.mp found item.raw.parse ?_ same
      rw [← refines.entries]
      exact List.mem_map_of_mem member
  | some entry =>
      rw [found] at indexed
      rw [dequeue_present indexed]
      obtain ⟨waits, owned⟩ := keyed_some found
      refine eraseP_eq_without unique (fun item member => ?_)
      have inQueue : item.raw.parse ∈ queue.waiting := by
        rw [← refines.entries]
        exact List.mem_map_of_mem member
      rw [decide_eq_true_iff]
      constructor
      · intro same
        change owner item.raw.parse = socketId
        rw [same]
        exact owned
      · intro same
        have here : item.raw.parse = entry :=
          List.inj_on_of_nodup_map refines.unique inQueue waits
            ((show owner item.raw.parse = socketId from same).trans owned.symm)
        rw [← here]

/-- A socket that leaves is no longer in the queue. -/
theorem Refines.dequeue (refines : Refines served queue) (socketId : SocketId)
    (later : queue.clock ≤ now)
    : Refines
        ⟨MatchmakingService.dequeue served.redis socketId, now, served.replies ++ [.void]⟩
        ⟨without owner queue.waiting socketId, now, queue.replies ++ [.void]⟩ := by
  refine refines.leave later List.filter_sublist ?_ ?_
  · rw [refines.dequeue_queue, ← refines.entries]
    unfold without
    rw [List.filter_map]
    rfl
  · intro other
    rw [keyed_without]
    have indexed := refines.index socketId
    cases found : keyed owner queue.waiting socketId with
    | none =>
        rw [found] at indexed
        rw [dequeue_absent indexed, refines.index other]
        by_cases same : other = socketId
        · subst same
          simp [found]
        · simp [same]
    | some entry =>
        rw [found] at indexed
        rw [dequeue_present indexed]
        by_cases same : other = socketId
        · subst same
          simp [QueueStore.hdel]
        · simp [QueueStore.hdel, same, refines.index other]

/-- The index without the entry that has waited longest. -/
theorem Refines.index_tail {redis : QueueStore} {head : TimedEntry} {rest : List TimedEntry}
    (index
      : ∀ socketId,
          redis.sockets socketId
            = (keyed owner (head :: rest) socketId).map Serialized.stringify)
    (unique : ((head :: rest).map owner).Nodup) (socketId : SocketId)
    : (redis.hdel head.socketId).sockets socketId
      = (keyed owner rest socketId).map Serialized.stringify := by
  rw [keyed_tail unique]
  by_cases same : head.socketId = socketId
  · subst same
    simp [QueueStore.hdel, owner]
  · have apart : ¬ owner head = socketId := same
    simp [QueueStore.hdel, apart, Ne.symm same, index socketId]

/-- An attempt pairs up as the abstract queue does. -/
theorem Refines.tryMatch (refines : Refines served queue) (later : queue.clock ≤ now)
    : Refines
        ⟨(MatchmakingService.tryMatch now served.redis).1, now,
          served.replies ++ [.pair (MatchmakingService.tryMatch now served.redis).2]⟩
        ⟨(WaitingQueue.pairUp now queue.waiting).1, now,
          queue.replies ++ [.pair (WaitingQueue.pairUp now queue.waiting).2]⟩ := by
  have length : served.redis.queue.length = queue.waiting.length := by
    rw [← refines.entries, List.length_map]
  match waiting : served.redis.queue with
  | [] =>
      rw [waiting] at length
      rw [tryMatch_few (by rw [waiting]; exact Nat.zero_lt_two),
        WaitingQueue.pairUp_few (by rw [← length]; exact Nat.zero_lt_two)]
      exact refines.leave later (List.Sublist.refl _) refines.entries refines.index
  | [only] =>
      rw [waiting] at length
      rw [tryMatch_few (by rw [waiting]; exact Nat.one_lt_two),
        WaitingQueue.pairUp_few (by rw [← length]; exact Nat.one_lt_two)]
      exact refines.leave later (List.Sublist.refl _) refines.entries refines.index
  | first :: second :: rest =>
      have known
          : queue.waiting
            = first.raw.parse :: second.raw.parse
                :: rest.map (fun item => item.raw.parse) := by
        rw [← refines.entries, waiting, List.map_cons, List.map_cons]
      have firstStale := refines.fresh_iff now first (by simp [waiting])
      have secondStale := refines.fresh_iff now second (by simp [waiting])
      have unique := refines.unique
      have index := refines.index
      rw [known] at unique index
      have withoutFirst := Refines.index_tail index unique
      have withoutBoth := Refines.index_tail withoutFirst (List.nodup_cons.mp unique).2
      have fewer : (rest.map (fun item => item.raw.parse)).Sublist queue.waiting := by
        rw [known]
        exact ((List.Sublist.refl _).cons _).cons _
      rw [known]
      cases ageFirst : first.fresh now with
      | false =>
          have tooOld : WaitingQueue.stale first.raw.parse now = true := by
            simpa [ageFirst] using firstStale
          cases ageSecond : second.fresh now with
          | false =>
              have tooOldToo : WaitingQueue.stale second.raw.parse now = true := by
                simpa [ageSecond] using secondStale
              rw [tryMatch_stale waiting ageFirst ageSecond]
              simp only [WaitingQueue.pairUp, tooOld, tooOldToo, if_true]
              exact refines.leave later fewer rfl withoutBoth
          | true =>
              have current : WaitingQueue.stale second.raw.parse now = false := by
                simpa [ageSecond] using secondStale
              rw [tryMatch_put_back waiting ageFirst ageSecond]
              simp only [WaitingQueue.pairUp, tooOld, current, if_true, Bool.false_eq_true,
                if_false]
              refine refines.leave later ?_ rfl withoutFirst
              rw [known]
              exact (List.Sublist.refl _).cons _
      | true =>
          have current : WaitingQueue.stale first.raw.parse now = false := by
            simpa [ageFirst] using firstStale
          have ageSecond := refines.fresh_behind waiting ageFirst
          rw [tryMatch_fresh waiting ageFirst ageSecond]
          simp only [WaitingQueue.pairUp, current, Bool.false_eq_true, if_false]
          exact refines.leave later fewer rfl withoutBoth

/-- Whatever the service does in one call, the abstract queue does. -/
theorem Refines.step (refines : Refines served queue) {timed : TimedCall}
    {next : ServedQueue} (taken : servedMachine.step served timed = some next)
    : ∃ after, waitingMachine.step queue timed = some after ∧ Refines next after := by
  simp only [ServedQueue.step] at taken
  split at taken
  · next admitted =>
      simp only [ServedQueue.admits, Bool.and_eq_true, decide_eq_true_eq] at admitted
      obtain ⟨⟨later, positive⟩, apart⟩ := admitted
      rw [refines.clock] at later
      cases taken
      obtain ⟨now, call⟩ := timed
      cases call with
      | enqueue entry =>
          have absent : keyed owner queue.waiting entry.socketId = none := by
            have idle : served.queued entry.socketId = false := by simpa using apart
            rw [refines.queued_iff] at idle
            simpa using idle
          exact ⟨_, rfl, refines.enqueue later positive absent⟩
      | tryMatch => exact ⟨_, rfl, refines.tryMatch later⟩
      | dequeue socketId => exact ⟨_, rfl, refines.dequeue socketId later⟩
  · cases taken

/-- Nobody waits in empty keys. -/
theorem Refines.start : Refines servedMachine.init waitingMachine.init where
  entries := rfl
  index _ := rfl
  unique := List.nodup_nil
  ordered := List.Pairwise.nil
  dated _ member := by cases member
  clock := rfl
  replies := rfl

end

-----------------------------------------------------------------------------------------
-- Who is left of those who have come
-----------------------------------------------------------------------------------------

/-- The items that have left the list: matched, discarded as stale, or cancelled. -/
def gone (redis : QueueStore) : List Item :=
  redis.returnedItems ++ redis.discarded.map Discard.item ++ redis.removed

/-- The list is what is left of the items pushed, in the order of their arrival. -/
structure Accounted (redis : QueueStore) : Prop where
  tags : redis.pushed.map Item.tag = List.range redis.pushed.length
  known : ∀ item ∈ gone redis, item ∈ redis.pushed
  listed : redis.queue = redis.pushed.filter (fun item => item ∉ gone redis)

section

variable {redis after : QueueStore}

/-- Discarded items are gone. -/
theorem mem_gone_discard {out : List Item} {now : Time}
    (matched : after.matched = redis.matched)
    (discarded
      : after.discarded = redis.discarded ++ out.map (fun item => ⟨item, now⟩))
    (removed : after.removed = redis.removed) (item : Item)
    : item ∈ gone after ↔ item ∈ gone redis ∨ item ∈ out := by
  have again : (out.map (fun item => (⟨item, now⟩ : Discard))).map Discard.item = out := by
    rw [List.map_map]
    exact List.map_id out
  simp only [gone, QueueStore.returnedItems, matched, discarded, removed, List.map_append, again,
    List.mem_append]
  exact ⟨fun gone => by rcases gone with ((m | d | o) | r) <;> simp [*],
    fun gone => by rcases gone with ((m | d) | r) | o <;> simp [*]⟩

/-- Every item is pushed once. -/
theorem Accounted.unique (accounted : Accounted redis) : redis.queue.Nodup := by
  rw [accounted.listed]
  have tags : (redis.pushed.map Item.tag).Nodup := by
    rw [accounted.tags]
    exact List.nodup_range
  exact (List.Nodup.of_map _ tags).filter _

/-- A new item is listed behind the others. -/
theorem Accounted.push (accounted : Accounted redis) {raw : Serialized}
    (queue : after.queue = redis.queue ++ [⟨raw, redis.pushed.length⟩])
    (pushed : after.pushed = redis.pushed ++ [⟨raw, redis.pushed.length⟩])
    (same : gone after = gone redis)
    : Accounted after := by
  have newTag : (⟨raw, redis.pushed.length⟩ : Item) ∉ gone redis := by
    intro before
    have tag := List.mem_map_of_mem (f := Item.tag) (accounted.known _ before)
    rw [accounted.tags] at tag
    exact absurd (List.mem_range.mp tag) (Nat.lt_irrefl _)
  refine ⟨?_, ?_, ?_⟩
  · rw [pushed]
    simp [accounted.tags, List.range_succ]
  · intro item member
    rw [pushed]
    exact List.mem_append_left _ (accounted.known item (same ▸ member))
  · rw [queue, pushed, same, List.filter_append, ← accounted.listed,
      List.filter_cons_of_pos (by simpa using newTag), List.filter_nil]

/-- Items that leave the list are accounted for when the history takes them up. -/
theorem Accounted.remove (accounted : Accounted redis) (out : List Item)
    (pushed : after.pushed = redis.pushed)
    (queue : after.queue = redis.queue.filter (fun item => item ∉ out))
    (members : ∀ item, item ∈ gone after ↔ item ∈ gone redis ∨ item ∈ out)
    (listed : ∀ item ∈ out, item ∈ redis.queue)
    : Accounted after := by
  refine ⟨by rw [pushed]; exact accounted.tags, ?_, ?_⟩
  · intro item member
    rw [pushed]
    rcases (members item).mp member with before | leaving
    · exact accounted.known item before
    · have inQueue := listed item leaving
      rw [accounted.listed] at inQueue
      exact (List.mem_filter.mp inQueue).1
  · rw [queue, pushed, accounted.listed, List.filter_filter]
    refine List.filter_congr (fun item _ => ?_)
    simp only [members item, not_or, Bool.decide_and]
    exact Bool.and_comm _ _

/-- One call keeps the account. -/
theorem Accounted.step (accounted : Accounted redis) (queue : ServedQueue) (now : Time)
    (call : QueueCall) (same : queue.redis = redis)
    : Accounted (queue.answer now call).1 := by
  subst same
  cases call with
  | enqueue entry =>
      simp only [ServedQueue.answer, enqueue_eq]
      exact accounted.push rfl rfl rfl
  | dequeue socketId =>
      simp only [ServedQueue.answer]
      cases indexed : queue.redis.sockets socketId with
      | none =>
          rw [dequeue_absent indexed]
          exact accounted
      | some raw =>
          rw [dequeue_present indexed]
          cases found : queue.redis.queue.find? (fun item => item.raw = raw) with
          | none =>
              have nothing : queue.redis.queue.eraseP (fun item => item.raw = raw)
                  = queue.redis.queue :=
                List.eraseP_of_forall_not (by simpa using List.find?_eq_none.mp found)
              refine accounted.remove [] rfl ?_ ?_ (by simp)
              · simp [nothing]
              · simp [gone, QueueStore.returnedItems, QueueStore.hdel]
          | some item =>
              refine accounted.remove [item] rfl ?_ ?_ ?_
              · simpa using eraseP_eq_filter_found accounted.unique found
              · simp [gone, QueueStore.returnedItems, QueueStore.hdel, or_assoc]
              · simpa using List.mem_of_find?_eq_some found
  | tryMatch =>
      simp only [ServedQueue.answer]
      -- none, one or at least two items wait
      rcases waiting : queue.redis.queue with _ | ⟨first, _ | ⟨second, rest⟩⟩
      · rw [tryMatch_few (by rw [waiting]; exact Nat.zero_lt_two)]
        exact ⟨accounted.tags, accounted.known, accounted.listed⟩
      · rw [tryMatch_few (by rw [waiting]; exact Nat.one_lt_two)]
        exact ⟨accounted.tags, accounted.known, accounted.listed⟩
      · have unique := accounted.unique
        rw [waiting] at unique
        obtain ⟨firstApart, others⟩ := List.nodup_cons.mp unique
        have secondApart := (List.nodup_cons.mp others).1
        have withoutFirst
            : queue.redis.queue.filter (fun item => item ∉ [first]) = second :: rest := by
          rw [waiting, List.filter_cons_of_neg (by simp)]
          refine List.filter_eq_self.mpr (fun item member => ?_)
          have apart : item ≠ first := fun same => firstApart (same ▸ member)
          simpa using apart
        have withoutBoth
            : queue.redis.queue.filter (fun item => item ∉ [first, second]) = rest := by
          rw [waiting, List.filter_cons_of_neg (by simp), List.filter_cons_of_neg (by simp)]
          refine List.filter_eq_self.mpr (fun item member => ?_)
          have apart : item ≠ first := fun same =>
            firstApart (same ▸ List.mem_cons_of_mem _ member)
          have apartToo : item ≠ second := fun same => secondApart (same ▸ member)
          simpa using And.intro apart apartToo
        cases ageFirst : first.fresh now with
        | false =>
            cases ageSecond : second.fresh now with
            | false =>
                rw [tryMatch_stale waiting ageFirst ageSecond]
                exact accounted.remove [first, second] rfl withoutBoth.symm
                  (mem_gone_discard rfl rfl rfl) (by simp [waiting])
            | true =>
                rw [tryMatch_put_back waiting ageFirst ageSecond]
                exact accounted.remove [first] rfl withoutFirst.symm
                  (mem_gone_discard rfl rfl rfl) (by simp [waiting])
        | true =>
            cases ageSecond : second.fresh now with
            | false =>
                have withoutSecond
                    : queue.redis.queue.filter (fun item => item ∉ [second])
                      = first :: rest := by
                  have firstStays : first ≠ second := fun same =>
                    firstApart (same ▸ List.mem_cons_self)
                  rw [waiting, List.filter_cons_of_pos (by simpa using firstStays),
                    List.filter_cons_of_neg (by simp)]
                  congr 1
                  refine List.filter_eq_self.mpr (fun item member => ?_)
                  have apart : item ≠ second := fun same => secondApart (same ▸ member)
                  simpa using apart
                rw [tryMatch_put_first_back waiting ageFirst ageSecond]
                exact accounted.remove [second] rfl withoutSecond.symm
                  (mem_gone_discard rfl rfl rfl) (by simp [waiting])
            | true =>
                rw [tryMatch_fresh waiting ageFirst ageSecond]
                refine accounted.remove [first, second] rfl withoutBoth.symm ?_
                  (by simp [waiting])
                intro item
                simp only [gone, QueueStore.returnedItems, QueueStore.hdel,
                  List.flatMap_append, List.flatMap_cons, List.flatMap_nil, List.append_nil,
                  List.mem_append]
                grind

end

-----------------------------------------------------------------------------------------
-- Matchmaking is a first-in-first-out queue
-----------------------------------------------------------------------------------------

/-- An attempt has taken the two who have waited longest, both fresh, or none but stale ones. -/
def TakesLongest (now : Time) (redis : QueueStore)
    (result : QueueStore × Option (TimedEntry × TimedEntry))
    : Prop :=
  match result.2 with
  | some (one, other) =>
      ∃ first second,
        redis.queue = first :: second :: result.1.queue
        ∧ first.raw.parse = one ∧ second.raw.parse = other
        ∧ first.fresh now = true ∧ second.fresh now = true
  | none =>
      ∃ stale, redis.queue = stale ++ result.1.queue ∧ ∀ item ∈ stale, item.fresh now = false

/-- Where nobody stale stands behind a fresh item, an attempt takes in order. -/
theorem takesLongest {now : Time} {redis : QueueStore}
    (ordered
      : ∀ first second rest,
          redis.queue = first :: second :: rest →
            ¬ (first.fresh now = true ∧ second.fresh now = false))
    : TakesLongest now redis (MatchmakingService.tryMatch now redis) := by
  match waiting : redis.queue with
  | [] =>
      rw [tryMatch_few (by rw [waiting]; exact Nat.zero_lt_two)]
      exact ⟨[], rfl, by simp⟩
  | [only] =>
      rw [tryMatch_few (by rw [waiting]; exact Nat.one_lt_two)]
      exact ⟨[], rfl, by simp⟩
  | first :: second :: rest =>
      cases ageFirst : first.fresh now with
      | false =>
          cases ageSecond : second.fresh now with
          | false =>
              rw [tryMatch_stale waiting ageFirst ageSecond]
              refine ⟨[first, second], waiting, ?_⟩
              simp [ageFirst, ageSecond]
          | true =>
              rw [tryMatch_put_back waiting ageFirst ageSecond]
              exact ⟨[first], waiting, by simp [ageFirst]⟩
      | true =>
          cases ageSecond : second.fresh now with
          | false => exact absurd ⟨ageFirst, ageSecond⟩ (ordered first second rest waiting)
          | true =>
              rw [tryMatch_fresh waiting ageFirst ageSecond]
              exact ⟨first, second, waiting, rfl, rfl, ageFirst, ageSecond⟩

/-- After every sequential run, the list holds those who wait in the abstract queue under the
same calls, the replies have been the same, the index has the entry of each socket that waits
and of no other one, and the list is what is left of all arrivals. The next `dequeue` takes out
its socket's entry alone, and the next attempt takes the two longest-waiting entries, both
fresh, or only stale ones: it never finds a stale one behind a fresh one. -/
theorem matchmaking_is_fifo {calls : List TimedCall} {served : ServedQueue}
    (run : servedMachine.Reaches calls served)
    : (∃ queue,
        waitingMachine.Reaches calls queue
        ∧ served.redis.queue.map (fun item => item.raw.parse) = queue.waiting
        ∧ served.replies = queue.replies
        ∧ ∀ socketId,
            served.redis.sockets socketId
              = (keyed owner queue.waiting socketId).map Serialized.stringify)
      ∧ served.redis.queue
        = served.redis.pushed.filter (fun item => item ∉ gone served.redis)
      ∧ (∀ socketId,
          (MatchmakingService.dequeue served.redis socketId).queue
            = without Item.socketId served.redis.queue socketId)
      ∧ ∀ now,
          TakesLongest now served.redis (MatchmakingService.tryMatch now served.redis)
          ∧ ∀ first second rest,
              served.redis.queue = first :: second :: rest →
                ¬ (first.fresh now = true ∧ second.fresh now = false) := by
  obtain ⟨queue, ran, refines⟩ :=
    servedMachine.exec_follows waitingMachine Refines (fun refines taken => refines.step taken)
      Refines.start run
  have accounted : Accounted served.redis := by
    refine run.invariant (fun served => Accounted served.redis) ⟨rfl, by simp [gone,
      QueueStore.empty, QueueStore.returnedItems], rfl⟩ ?_
    intro before timed after accounted taken
    simp only [ServedQueue.step] at taken
    split at taken
    · cases taken
      exact accounted.step before timed.now timed.call rfl
    · cases taken
  have ordered {now : Time} (first second : Item) (rest : List Item)
      (waiting : served.redis.queue = first :: second :: rest)
      : ¬ (first.fresh now = true ∧ second.fresh now = false) := by
    rintro ⟨firstFresh, secondStale⟩
    rw [refines.fresh_behind waiting firstFresh] at secondStale
    cases secondStale
  exact ⟨⟨queue, ran, refines.entries, refines.replies, refines.index⟩, accounted.listed,
    refines.dequeue_queue, fun now => ⟨takesLongest ordered, ordered⟩⟩

/-- Four visitors: the first one waits until stale, the third one cancels, and the second one
is matched with the fourth. -/
def fourVisitors : List TimedCall := [
  ⟨1, .enqueue (visitor 1)⟩,
  ⟨400000, .enqueue (visitor 2)⟩,
  ⟨400001, .tryMatch⟩,
  ⟨400002, .enqueue (visitor 3)⟩,
  ⟨400003, .dequeue 3⟩,
  ⟨400004, .enqueue (visitor 4)⟩,
  ⟨400005, .tryMatch⟩
]

/-- The service after a sequential run. -/
def servedAfter (calls : List TimedCall) : ServedQueue :=
  (servedMachine.exec servedMachine.init calls).getD servedMachine.init

theorem matchmaking_is_fifo_four
    : (servedAfter fourVisitors).redis.matched.map (fun pair => (pair.first.tag, pair.second.tag))
        = [(1, 3)]
      ∧ (servedAfter fourVisitors).redis.queue
        = (servedAfter fourVisitors).redis.pushed.filter
            (fun item => item ∉ gone (servedAfter fourVisitors).redis) := by
  have run : servedMachine.Reaches fourVisitors (servedAfter fourVisitors) := rfl
  exact ⟨by decide, (matchmaking_is_fifo run).2.1⟩

end NexusComms.Signaling
