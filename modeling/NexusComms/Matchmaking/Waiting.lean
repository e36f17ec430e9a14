import NexusComms.Matchmaking.Lobby

/-! Who is left waiting. Each join pushes one entry and makes one attempt, so an entry that
is put back after another attempt has already come away empty waits for nobody.
-/

namespace NexusComms.Matchmaking

open Concurrency Program SignalingGateway

/-- 1 for a join that has pushed its entry and not made its attempt yet. -/
def Handler.pending : Handler → Nat
  | .join _ _ (.enqueue .rpush) => 0
  | .join _ _ (.enqueue (.returned _)) => 0
  | .join _ _ (.enqueue _) => 1
  | .join _ _ (.queueDepth _ _) => 1
  | .join _ _ (.tryMatch .eval) => 1
  | _ => 0

/-- How many scripts had found fewer than two entries when the attempt that now holds a pair
popped it. -/
def Handler.poppedAt : Handler → Option Nat
  | .join _ _ (.tryMatch (.popped _ _ misses)) => some misses
  | _ => none

/-- 1 for an attempt that holds a pair and has seen no script miss since. -/
def Handler.unmissed (misses : Nat) (handler : Handler) : Nat :=
  if handler.poppedAt = some misses then 1 else 0

/-- `poppedAt` of an attempt whose next command puts one of its two entries back. -/
def Handler.putsBack (now : Time) : Handler → Option Nat
  | .join _ _ (.tryMatch (.popped first second misses)) =>
      if first.fresh now ≠ second.fresh now then some misses else none
  | _ => none

/-- The handler has run to its end. -/
def Handler.finished : Handler → Bool
  | .connect _ _ _ .done => true
  | .join _ _ .done => true
  | .leave _ .done => true
  | .disconnect _ .done => true
  | _ => false

/-- An attempt puts an entry back only if no other script has found fewer than two entries
since its own one popped the pair. -/
def PutsBackInTime (pool : Pool Lobby Handler) : Move Handler Instant → Prop
  | .start _ => True
  | .step index input =>
      ∀ misses ∈ pool.threads[index]?.bind (Handler.putsBack input.now),
        misses = pool.shared.redis.misses

instance (pool : Pool Lobby Handler)
    : (move : Move Handler Instant) → Decidable (PutsBackInTime pool move)
  | .start _ => isTrue trivial
  | .step index input =>
      inferInstanceAs
        (Decidable
          (∀ misses ∈ pool.threads[index]?.bind (Handler.putsBack input.now),
            misses = pool.shared.redis.misses))

/-- The entries in the list and those that may still come back to it are covered by the
attempts to come, up to one. -/
structure Covered (pool : Pool Lobby Handler) : Prop where
  entries
    : pool.shared.redis.queue.length
        + total (Handler.unmissed pool.shared.redis.misses) pool.threads
      ≤ 1 + total Handler.pending pool.threads
  marks
    : ∀ handler ∈ pool.threads, ∀ misses ∈ handler.poppedAt,
        misses ≤ pool.shared.redis.misses

/-- All that one step can do to the count: keep it, or miss with at most one entry in the
list. -/
def Counted (lobby lobby' : Lobby) (handler handler' : Handler) : Prop :=
  (lobby'.redis.misses = lobby.redis.misses
    ∧ lobby'.redis.queue.length + handler'.unmissed lobby.redis.misses + handler.pending
      ≤ lobby.redis.queue.length + handler.unmissed lobby.redis.misses + handler'.pending
    ∧ ∀ misses ∈ handler'.poppedAt, misses ≤ lobby.redis.misses)
  ∨ (lobby'.redis.misses = lobby.redis.misses + 1
    ∧ lobby'.redis.queue.length ≤ 1
    ∧ handler'.poppedAt = none)

/-- A step that leaves the queue and concerns no attempt. -/
theorem Counted.of_queue {lobby lobby' : Lobby} {handler handler' : Handler}
    (queue : lobby'.redis.queue.length ≤ lobby.redis.queue.length)
    (misses : lobby'.redis.misses = lobby.redis.misses)
    (pending : handler.pending ≤ handler'.pending)
    (popped : handler'.poppedAt = none)
    : Counted lobby lobby' handler handler' := by
  refine Or.inl ⟨misses, ?_, by simp [popped]⟩
  have nothing : handler'.unmissed lobby.redis.misses = 0 := by
    simp [Handler.unmissed, popped]
  omega

section

variable {lobby lobby' : Lobby} {handler : Handler} {owner : Nat} {input : Instant}

/-- Every step of `onJoinQueue` counts; the pop of a pair and the push of an entry balance
the attempt that they belong to. -/
theorem join_counted {entry : QueueEntry} {since : Nat} {stage stage' : JoinStage}
    (inTime
      : ∀ misses ∈ (Handler.join entry since stage).putsBack input.now,
          misses = lobby.redis.misses)
    (ran : onJoinQueue input lobby entry since stage = some (lobby', stage'))
    : Counted lobby lobby' (.join entry since stage) (.join entry since stage') := by
  cases stage with
  | enqueue stage =>
      obtain ⟨⟨store, next⟩, pushed, same⟩ := Option.map_eq_some_iff.mp ran
      cases stage with
      | rpush =>
          cases pushed
          cases same
          exact Or.inl ⟨rfl, by simp [Handler.unmissed, Handler.poppedAt, Handler.pending],
            by simp [Handler.poppedAt]⟩
      | hset raw =>
          cases pushed
          cases same
          exact .of_queue (Nat.le_refl _) rfl (Nat.le_refl _) rfl
      | audit =>
          cases pushed
          cases same
          exact .of_queue (Nat.le_refl _) rfl (Nat.le_refl _) rfl
      | llen =>
          cases pushed
          cases same
          exact .of_queue (Nat.le_refl _) rfl (Nat.le_refl _) rfl
      | returned position => cases pushed
  | queueDepth position onlineUsers =>
      cases ran
      exact .of_queue (Nat.le_refl _) rfl (Nat.le_refl _) rfl
  | tryMatch stage =>
      obtain ⟨⟨store, next⟩, matched, same⟩ := Option.map_eq_some_iff.mp ran
      cases stage with
      | eval =>
          simp only [MatchmakingService.tryMatch] at matched
          split at matched
          · rename_i first second rest waiting
            cases matched
            cases same
            refine Or.inl ⟨rfl, ?_, by simp [Handler.poppedAt]⟩
            simp [Handler.unmissed, Handler.poppedAt, Handler.pending, waiting]
          · -- a miss: fewer than two entries are in the list
            rename_i few
            cases matched
            cases same
            refine Or.inr ⟨rfl, ?_, rfl⟩
            show lobby.redis.queue.length ≤ 1
            match found : lobby.redis.queue with
            | [] => exact Nat.zero_le _
            | [only] => exact Nat.le_refl _
            | first :: second :: rest => exact absurd found (few first second rest)
      | popped first second misses =>
          simp only [MatchmakingService.tryMatch] at matched
          split at matched
          · cases matched
            cases same
            exact .of_queue (Nat.le_refl _) rfl (Nat.le_refl _) rfl
          · rename_i notBoth
            split at matched
            · rename_i stale
              cases matched
              cases same
              have apart : first.fresh input.now ≠ second.fresh input.now := by
                intro equal
                exact notBoth ⟨stale, equal ▸ stale⟩
              have unmissed : misses = lobby.redis.misses :=
                inTime misses (by simp [Handler.putsBack, apart])
              exact Or.inl ⟨rfl,
                by simp [Handler.unmissed, Handler.poppedAt, Handler.pending, unmissed],
                by simp [Handler.poppedAt]⟩
            · rename_i freshFirst
              split at matched
              · rename_i stale
                cases matched
                cases same
                have apart : first.fresh input.now ≠ second.fresh input.now := by
                  intro equal
                  exact freshFirst (equal.trans stale)
                have unmissed : misses = lobby.redis.misses :=
                  inTime misses (by simp [Handler.putsBack, apart])
                exact Or.inl ⟨rfl,
                  by simp [Handler.unmissed, Handler.poppedAt, Handler.pending, unmissed],
                  by simp [Handler.poppedAt]⟩
              · cases matched
                cases same
                exact .of_queue (Nat.le_refl _) rfl (Nat.le_refl _) rfl
      | hdelStale stale now =>
          cases matched
          cases same
          exact .of_queue (Nat.le_refl _) rfl (Nat.le_refl _) rfl
      | audit first second now =>
          cases matched
          cases same
          exact .of_queue (Nat.le_refl _) rfl (Nat.le_refl _) rfl
      | returned pair => cases matched
  | createSession first second =>
      cases ran
      exact .of_queue (Nat.le_refl _) rfl (Nat.le_refl _) rfl
  | pairing first second callId todo =>
      cases todo with
      | nil => cases ran
      | cons head rest =>
          simp only [onJoinQueue] at ran
          split at ran
          · cases ran
            have redis : (announce lobby first second callId).redis = lobby.redis := by
              rw [announce_eq]
            exact .of_queue (by rw [redis]) (by rw [redis]) (Nat.le_refl _) rfl
          · cases ran
            exact .of_queue (Nat.le_refl _) rfl (Nat.le_refl _) rfl
  | broadcast onlineUsers =>
      cases ran
      exact .of_queue (Nat.le_refl _) rfl (Nat.le_refl _) rfl
  | done => cases ran

/-- Only joins make attempts. -/
theorem Handler.no_attempt (noJoin : handler.isJoin = false)
    : handler.pending = 0 ∧ handler.poppedAt = none := by
  cases handler with
  | join entry since stage => cases noJoin
  | connect socketId userId anonymousId stage => exact ⟨rfl, rfl⟩
  | leave socketId stage => exact ⟨rfl, rfl⟩
  | disconnect socketId stage => exact ⟨rfl, rfl⟩

/-- Every step of every handler counts. -/
theorem handler_counted {handler' : Handler}
    (inTime : ∀ misses ∈ handler.putsBack input.now, misses = lobby.redis.misses)
    (ran : handler.step owner input lobby = some (lobby', handler'))
    : Counted lobby lobby' handler handler' := by
  cases kind : handler.isJoin with
  | true =>
      cases handler with
      | join entry since stage =>
          obtain ⟨⟨_, _⟩, stepped, same⟩ := Option.map_eq_some_iff.mp ran
          cases same
          exact join_counted inTime stepped
      | connect socketId userId anonymousId stage => cases kind
      | leave socketId stage => cases kind
      | disconnect socketId stage => cases kind
  | false =>
      obtain ⟨takesOut, kind'⟩ := handler_takes_out kind ran
      refine .of_queue takesOut.queue.length_le takesOut.misses ?_ (Handler.no_attempt kind').2
      rw [(Handler.no_attempt kind).1]
      exact Nat.zero_le _

/-- An arriving handler leaves Redis alone and is no attempt yet. -/
theorem start_counted (started : handler.start owner lobby = some lobby')
    : lobby'.redis = lobby.redis ∧ handler.pending = 0 ∧ handler.poppedAt = none := by
  unfold Handler.start at started
  split at started
  · dsimp only at started
    split at started
    · cases started
      exact ⟨rfl, rfl, rfl⟩
    · cases started
  · split at started
    · cases started
    · split at started
      · cases started
        exact ⟨rfl, rfl, rfl⟩
      · cases started
  · split at started
    · cases started
      exact ⟨rfl, rfl, rfl⟩
    · cases started
  · split at started
    · cases started
      exact ⟨rfl, rfl, rfl⟩
    · cases started
  · cases started

end

/-- Attempts that have popped before a miss no longer count. -/
theorem total_unmissed_zero {handlers : List Handler} {misses : Nat}
    (marks : ∀ handler ∈ handlers, ∀ mark ∈ handler.poppedAt, mark < misses)
    : total (Handler.unmissed misses) handlers = 0 := by
  refine List.sum_eq_zero (fun count member => ?_)
  obtain ⟨handler, inHandlers, rfl⟩ := List.mem_map.mp member
  unfold Handler.unmissed
  split
  · rename_i popped
    exact absurd (marks handler inHandlers misses popped) (Nat.lt_irrefl _)
  · rfl

/-- A move that puts entries back in time keeps the count. -/
theorem Covered.move {pool next : Pool Lobby Handler} {move : Move Handler Instant}
    (covered : Covered pool) (inTime : PutsBackInTime pool move)
    (moved : lobbyProgram.move pool move = some next)
    : Covered next := by
  cases move with
  | start handler =>
      obtain ⟨started, threads⟩ := lobbyProgram.move_start_some moved
      obtain ⟨redis, pending, popped⟩ := start_counted started
      have unmissed : handler.unmissed pool.shared.redis.misses = 0 := by
        simp [Handler.unmissed, popped]
      refine ⟨?_, ?_⟩
      · rw [redis, threads, total_concat, total_concat, pending, unmissed]
        exact covered.entries
      · rw [redis, threads]
        intro other member mark marked
        rcases List.mem_append.mp member with old | new
        · exact covered.marks other old mark marked
        · rw [List.mem_singleton.mp new, popped] at marked
          cases marked
  | step index input =>
      obtain ⟨handler, handler', found, ran, threads⟩ := lobbyProgram.move_step_some moved
      have known : handler ∈ pool.threads := List.mem_of_getElem? found
      have counted : Counted pool.shared next.shared handler handler' :=
        handler_counted (fun misses member => inTime misses (by rw [found]; exact member)) ran
      obtain ⟨restPending, pendingBefore, pendingAfter⟩ := total_set Handler.pending found
      obtain ⟨restUnmissed, unmissedBefore, unmissedAfter⟩ :=
        total_set (Handler.unmissed pool.shared.redis.misses) found
      have entries := covered.entries
      have marksOf {other : Handler} (member : other ∈ pool.threads.set index handler')
          : other ∈ pool.threads ∨ other = handler' :=
        List.mem_or_eq_of_mem_set member
      rcases counted with ⟨misses, balance, own⟩ | ⟨misses, few, own⟩
      · refine ⟨?_, ?_⟩
        · rw [misses, threads, pendingAfter, unmissedAfter]
          omega
        · rw [misses, threads]
          intro other member mark marked
          rcases marksOf member with old | new
          · exact covered.marks other old mark marked
          · exact own mark (new ▸ marked)
      · -- after a miss no attempt counts any more, and the list is short
        have below (other : Handler) (member : other ∈ pool.threads.set index handler')
            (mark : Nat) (marked : mark ∈ other.poppedAt)
            : mark < pool.shared.redis.misses + 1 := by
          rcases marksOf member with old | new
          · exact Nat.lt_succ_of_le (covered.marks other old mark marked)
          · rw [new, own] at marked
            cases marked
        refine ⟨?_, ?_⟩
        · rw [misses, threads, total_unmissed_zero below]
          omega
        · rw [misses, threads]
          intro other member mark marked
          exact Nat.le_of_lt_succ (Nat.lt_succ_of_lt (below other member mark marked))

/-- Nobody waits in vain. In every run in which entries are put back in time, at most one
entry is left in the list when all handlers have finished.
-/
theorem at_most_one_waits {moves : List (Move Handler Instant)} {pool : Pool Lobby Handler}
    (inTime : lobbyMachine.Along PutsBackInTime lobbyMachine.init moves)
    (run : lobbyMachine.Reaches moves pool)
    (finished : ∀ handler ∈ pool.threads, handler.finished = true)
    : pool.shared.redis.queue.length ≤ 1 := by
  have covered : Covered pool := by
    refine inTime.exec_preserves Covered (fun kept inTime moved => kept.move inTime moved)
      ⟨?_, ?_⟩ run
    · exact Nat.zero_le _
    · intro handler member
      cases member
  have none_pending : total Handler.pending pool.threads = 0 := by
    refine List.sum_eq_zero (fun count member => ?_)
    obtain ⟨handler, inThreads, rfl⟩ := List.mem_map.mp member
    have done := finished handler inThreads
    unfold Handler.finished at done
    split at done
    · rfl
    · rfl
    · rfl
    · rfl
    · cases done
  have entries := covered.entries
  omega

/-- Three anonymous visitors connect. -/
def threeConnect : List (Move Handler Instant) := [
  .start (.connect 1 none 1001 (.broadcast 1)),
  .start (.connect 2 none 1002 (.broadcast 2)),
  .start (.connect 3 none 1003 (.broadcast 3)),
  .step 0 { now := 1 },
  .step 1 { now := 1 },
  .step 2 { now := 1 }
]

/-- The commands of a join as far as its attempt, all at one time. -/
def joinAndTry (index : Nat) (since : Nat) (entry : QueueEntry) (now : Time)
    : List (Move Handler Instant) :=
  .start (.join entry since (.enqueue .rpush)) :: List.replicate 6 (.step index { now })

/-- The first visitor waits alone until stale; then the second and the third one join, one
after the other. -/
def staleAndTwo : List (Move Handler Instant) :=
  threeConnect
  ++ joinAndTry 3 1 (visitor 1) 1
  ++ [.step 3 { now := 1 }]
  ++ joinAndTry 4 2 (visitor 2) 400000
  ++ List.replicate 3 (.step 4 { now := 400000 })
  ++ joinAndTry 5 3 (visitor 3) 400001
  ++ List.replicate 2 (.step 5 { now := 400001 })
  ++ [.step 5 { now := 400001, uuid := 7 }]
  ++ List.replicate 10 (.step 5 { now := 400001 })

/-- The same, but the third visitor makes its attempt while the second one's entry is in the
hands of the attempt that will put it back. -/
def attemptDuringPutBack : List (Move Handler Instant) :=
  threeConnect
  ++ joinAndTry 3 1 (visitor 1) 1
  ++ [.step 3 { now := 1 }]
  ++ joinAndTry 4 2 (visitor 2) 400000
  ++ joinAndTry 5 3 (visitor 3) 400001
  ++ [.step 5 { now := 400001 }]
  ++ List.replicate 3 (.step 4 { now := 400002 })

/-- The state after a run of the lobby. -/
def lobbyAfter (moves : List (Move Handler Instant)) : Pool Lobby Handler :=
  (lobbyMachine.exec lobbyMachine.init moves).getD ⟨Lobby.empty, []⟩

theorem at_most_one_waits_stale
    : (lobbyAfter staleAndTwo).shared.announced.length = 1
      ∧ (lobbyAfter staleAndTwo).shared.redis.queue.length ≤ 1 := by
  have inTime : lobbyMachine.Along PutsBackInTime lobbyMachine.init staleAndTwo := by decide
  have run : lobbyMachine.Reaches staleAndTwo (lobbyAfter staleAndTwo) := rfl
  exact ⟨by decide, at_most_one_waits inTime run (by decide)⟩

/-- Otherwise two visitors can be left waiting for nobody, with all handlers finished: the
third one's attempt comes away empty, and after it the second one's entry is put back. -/
theorem two_wait_unmatched
    : lobbyMachine.Reaches attemptDuringPutBack (lobbyAfter attemptDuringPutBack)
      ∧ (∀ handler ∈ (lobbyAfter attemptDuringPutBack).threads, handler.finished = true)
      ∧ (lobbyAfter attemptDuringPutBack).shared.redis.queue.map Item.socketId = [2, 3]
      ∧ ¬ (lobbyAfter attemptDuringPutBack).shared.redis.queue.length ≤ 1 := by
  exact ⟨rfl, by decide, by decide, by decide⟩

end NexusComms.Matchmaking
