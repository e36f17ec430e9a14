import Mathlib.Algebra.Order.Group.Multiset
import NexusComms.Matchmaking.Leaving

/-! Who may be matched with whom. No command compares the sockets of two entries: they differ
as long as no socket has two entries, in the list or in the hands of an attempt that may put
one back.
-/

namespace NexusComms.Matchmaking

open Concurrency Program SignalingGateway

/-- The pair of entries that an attempt has popped and goes on with. -/
def Handler.pair : Handler → Option (Item × Item)
  | .join _ _ (.tryMatch (.popped first second _)) => some (first, second)
  | .join _ _ (.tryMatch (.audit first second _)) => some (first, second)
  | .join _ _ (.createSession first second) => some (first, second)
  | .join _ _ (.pairing first second _ _) => some (first, second)
  | _ => none

/-- The sockets of the entries that an attempt has popped and may still put back. -/
def Handler.inHand : Handler → Multiset SocketId
  | .join _ _ (.tryMatch (.popped first second _)) => {first.socketId, second.socketId}
  | _ => 0

/-- The socket whose entry the next command of a handler pushes. -/
def Handler.pushing (handler : Handler) : Multiset SocketId :=
  (handler.pushes.map Prod.fst).toList

/-- The socket of each entry in the list. -/
def Lobby.listed (lobby : Lobby) : Multiset SocketId :=
  lobby.redis.queue.map Item.socketId

/-- The socket of each entry in the list or in the hands of an attempt. -/
def queuedSockets (pool : Pool Lobby Handler) : Multiset SocketId :=
  pool.shared.listed + total Handler.inHand pool.threads

/-- An entry is pushed only for a socket that has no other one. -/
def JoinsOnce (pool : Pool Lobby Handler) : Move Handler Instant → Prop
  | .start _ => True
  | .step index _ =>
      ∀ handler ∈ pool.threads[index]?, ∀ push ∈ handler.pushes, push.1 ∉ queuedSockets pool

instance (pool : Pool Lobby Handler)
    : (move : Move Handler Instant) → Decidable (JoinsOnce pool move)
  | .start _ => isTrue trivial
  | .step index _ =>
      inferInstanceAs
        (Decidable
          (∀ handler ∈ pool.threads[index]?, ∀ push ∈ handler.pushes,
            push.1 ∉ queuedSockets pool))

/-- Every pair that `tryMatch` has returned, and every pair that has been announced, consists
of entries of two sockets. -/
def Lobby.MatchesOthers (lobby : Lobby) : Prop :=
  (∀ pair ∈ lobby.redis.matched, pair.first.socketId ≠ pair.second.socketId)
  ∧ ∀ announcement ∈ lobby.announced,
      announcement.first.socketId ≠ announcement.second.socketId

/-- No socket has two entries, and all pairs so far were entries of two sockets. -/
structure Distinct (pool : Pool Lobby Handler) : Prop where
  sockets : (queuedSockets pool).Nodup
  pairs
    : ∀ handler ∈ pool.threads, ∀ pair ∈ handler.pair, pair.1.socketId ≠ pair.2.socketId
  matched : pool.shared.MatchesOthers

/-- All that one step can do with entries: it pushes its own one, takes the pair at the head
of the list, goes on with its pair, and records it. -/
structure Spread (lobby lobby' : Lobby) (handler handler' : Handler) : Prop where
  sockets : lobby'.listed + handler'.inHand ≤ lobby.listed + handler.inHand + handler.pushing
  pair
    : ∀ pair ∈ handler'.pair,
        pair ∈ handler.pair ∨ {pair.1.socketId, pair.2.socketId} ≤ lobby.listed
  matched
    : ∀ pair ∈ lobby'.redis.matched,
        pair ∈ lobby.redis.matched ∨ (pair.first, pair.second) ∈ handler.pair
  announced
    : ∀ announcement ∈ lobby'.announced,
        announcement ∈ lobby.announced
        ∨ (announcement.first, announcement.second) ∈ handler.pair

section

variable {lobby lobby' : Lobby} {handler handler' : Handler} {owner : Nat} {input : Instant}

/-- A step after which the list holds the same entries or fewer, and that records nothing. -/
theorem Spread.of_queue (queue : lobby'.redis.queue.Sublist lobby.redis.queue)
    (matched : lobby'.redis.matched = lobby.redis.matched)
    (announced : lobby'.announced = lobby.announced) (hand : handler'.inHand = 0)
    (pair : ∀ pair ∈ handler'.pair, pair ∈ handler.pair)
    : Spread lobby lobby' handler handler' where
  sockets := by
    have fewer : lobby'.listed ≤ lobby.listed :=
      Multiset.coe_le.mpr (queue.map Item.socketId).subperm
    rw [hand, add_zero, add_assoc]
    exact le_trans fewer (Multiset.le_add_right _ _)
  pair := fun found member => Or.inl (pair found member)
  matched := by
    rw [matched]
    exact fun _ member => Or.inl member
  announced := by
    rw [announced]
    exact fun _ member => Or.inl member

/-- Every step of `onJoinQueue` spreads. Two entries are taken together by the script only,
and one of them at most goes back. -/
theorem join_spread {entry : QueueEntry} {since : Nat} {stage stage' : JoinStage}
    (ran : onJoinQueue input lobby entry since stage = some (lobby', stage'))
    : Spread lobby lobby' (.join entry since stage) (.join entry since stage') := by
  have nothing (pair : Item × Item) (member : pair ∈ (none : Option (Item × Item)))
      : pair ∈ (Handler.join entry since stage).pair := by
    cases member
  cases stage with
  | enqueue stage =>
      obtain ⟨⟨store, next⟩, pushed, same⟩ := Option.map_eq_some_iff.mp ran
      cases stage with
      | rpush =>
          cases pushed
          cases same
          refine ⟨?_, fun pair member => Or.inl (nothing pair member),
            fun _ member => Or.inl member, fun _ member => Or.inl member⟩
          simp [Lobby.listed, Handler.inHand, Handler.pushing, Handler.pushes, Item.socketId,
            ← Multiset.coe_add]
      | hset raw =>
          cases pushed
          cases same
          exact .of_queue (.refl _) rfl rfl rfl nothing
      | audit =>
          cases pushed
          cases same
          exact .of_queue (.refl _) rfl rfl rfl nothing
      | llen =>
          cases pushed
          cases same
          exact .of_queue (.refl _) rfl rfl rfl nothing
      | returned position => cases pushed
  | queueDepth position onlineUsers =>
      cases ran
      exact .of_queue (.refl _) rfl rfl rfl nothing
  | tryMatch stage =>
      obtain ⟨⟨store, next⟩, matched, same⟩ := Option.map_eq_some_iff.mp ran
      cases stage with
      | eval =>
          simp only [MatchmakingService.tryMatch] at matched
          split at matched
          · rename_i first second rest waiting
            cases matched
            cases same
            have heads
                : lobby.listed
                  = {first.socketId, second.socketId}
                    + (rest.map Item.socketId : Multiset SocketId) := by
              simp [Lobby.listed, waiting, Multiset.cons_coe]
            refine ⟨?_, ?_, fun _ member => Or.inl member, fun _ member => Or.inl member⟩
            · show (rest.map Item.socketId : Multiset SocketId)
                  + {first.socketId, second.socketId}
                ≤ lobby.listed + 0 + 0
              rw [heads, add_zero, add_zero, add_comm]
            · intro pair member
              cases member
              rw [heads]
              exact Or.inr (Multiset.le_add_right _ _)
          · cases matched
            cases same
            exact .of_queue (.refl _) rfl rfl rfl nothing
      | popped first second misses =>
          -- an entry that goes back was in hand before
          have back {kept stale : Item} {now : Time} (held : kept = first ∨ kept = second)
              : Spread lobby
                  { lobby with redis := { lobby.redis with queue := kept :: lobby.redis.queue } }
                  (.join entry since (.tryMatch (.popped first second misses)))
                  (.join entry since (.tryMatch (.hdelStale stale now))) := by
            refine ⟨?_, fun pair member => Or.inl (nothing pair member),
              fun _ member => Or.inl member, fun _ member => Or.inl member⟩
            have one : ({kept.socketId} : Multiset SocketId)
                ≤ {first.socketId, second.socketId} := by
              rcases held with rfl | rfl
              · simp
              · simp
            show ((kept.socketId :: lobby.redis.queue.map Item.socketId : List SocketId)
                : Multiset SocketId) + 0
              ≤ lobby.listed + {first.socketId, second.socketId} + 0
            rw [add_zero, add_zero, ← Multiset.cons_coe, ← Multiset.singleton_add, add_comm]
            exact add_le_add_right one lobby.listed
          simp only [MatchmakingService.tryMatch] at matched
          split at matched
          · cases matched
            cases same
            exact .of_queue (.refl _) rfl rfl rfl nothing
          · split at matched
            · cases matched
              cases same
              exact back (Or.inr rfl)
            · split at matched
              · cases matched
                cases same
                exact back (Or.inl rfl)
              · cases matched
                cases same
                exact .of_queue (.refl _) rfl rfl rfl (fun _ member => member)
      | hdelStale stale now =>
          cases matched
          cases same
          exact .of_queue (.refl _) rfl rfl rfl nothing
      | audit first second now =>
          cases matched
          cases same
          refine ⟨?_, fun _ member => Or.inl member, ?_, fun _ member => Or.inl member⟩
          · show lobby.listed + 0 ≤ lobby.listed + 0 + 0
            simp
          · intro pair member
            rcases List.mem_append.mp member with old | new
            · exact Or.inl old
            · rw [List.mem_singleton.mp new]
              exact Or.inr rfl
      | returned pair => cases matched
  | createSession first second =>
      cases ran
      exact .of_queue (.refl _) rfl rfl rfl (fun _ member => member)
  | pairing first second callId todo =>
      cases todo with
      | nil => cases ran
      | cons head rest =>
          simp only [onJoinQueue] at ran
          split at ran
          · -- the announcement of the pair
            cases ran
            rw [announce_eq]
            refine ⟨?_, fun pair member => Or.inl (nothing pair member),
              fun _ member => Or.inl member, ?_⟩
            · show lobby.listed + 0 ≤ lobby.listed + 0 + 0
              simp
            · intro announcement member
              rcases List.mem_append.mp member with old | new
              · exact Or.inl old
              · rw [List.mem_singleton.mp new]
                exact Or.inr rfl
          · cases ran
            exact .of_queue (.refl _) rfl rfl rfl (fun _ member => member)
  | broadcast onlineUsers =>
      cases ran
      exact .of_queue (.refl _) rfl rfl rfl nothing
  | done => cases ran

/-- Only joins have entries in hand. -/
theorem Handler.empty_handed (noJoin : handler.isJoin = false)
    : handler.inHand = 0 ∧ handler.pair = none := by
  cases handler with
  | join entry since stage => cases noJoin
  | connect socketId userId anonymousId stage => exact ⟨rfl, rfl⟩
  | leave socketId stage => exact ⟨rfl, rfl⟩
  | disconnect socketId stage => exact ⟨rfl, rfl⟩

/-- Every step of every handler spreads. -/
theorem handler_spread (ran : handler.step owner input lobby = some (lobby', handler'))
    : Spread lobby lobby' handler handler' := by
  cases kind : handler.isJoin with
  | true =>
      cases handler with
      | join entry since stage =>
          obtain ⟨⟨_, _⟩, stepped, same⟩ := Option.map_eq_some_iff.mp ran
          cases same
          exact join_spread stepped
      | connect socketId userId anonymousId stage => cases kind
      | leave socketId stage => cases kind
      | disconnect socketId stage => cases kind
  | false =>
      obtain ⟨takesOut, kind'⟩ := handler_takes_out kind ran
      obtain ⟨hand, pair⟩ := Handler.empty_handed kind'
      refine .of_queue takesOut.queue takesOut.matched takesOut.announced hand ?_
      intro found member
      rw [pair] at member
      cases member

/-- An arriving handler leaves the list and the records alone and has no entry in hand. -/
theorem start_spread (started : handler.start owner lobby = some lobby')
    : lobby'.redis = lobby.redis
      ∧ lobby'.announced = lobby.announced
      ∧ handler.inHand = 0
      ∧ handler.pair = none := by
  unfold Handler.start at started
  split at started
  · dsimp only at started
    split at started
    · cases started
      exact ⟨rfl, rfl, rfl, rfl⟩
    · cases started
  · split at started
    · cases started
    · split at started
      · cases started
        exact ⟨rfl, rfl, rfl, rfl⟩
      · cases started
  · split at started
    · cases started
      exact ⟨rfl, rfl, rfl, rfl⟩
    · cases started
  · split at started
    · cases started
      exact ⟨rfl, rfl, rfl, rfl⟩
    · cases started
  · cases started

end

/-- The sockets queued after a push are distinct when the one that joins was not queued. -/
theorem pushing_nodup {queued : Multiset SocketId} {handler : Handler}
    (distinct : queued.Nodup) (once : ∀ push ∈ handler.pushes, push.1 ∉ queued)
    : (queued + handler.pushing).Nodup := by
  unfold Handler.pushing
  cases pushes : handler.pushes with
  | none => simpa using distinct
  | some push =>
      have absent := once push pushes
      show (queued + {push.1}).Nodup
      rw [add_comm, Multiset.singleton_add]
      exact Multiset.nodup_cons.mpr ⟨absent, distinct⟩

/-- A move in which a socket joins only once keeps the sockets distinct. -/
theorem Distinct.move {pool next : Pool Lobby Handler} {move : Move Handler Instant}
    (distinct : Distinct pool) (once : JoinsOnce pool move)
    (moved : lobbyProgram.move pool move = some next)
    : Distinct next := by
  cases move with
  | start handler =>
      obtain ⟨started, threads⟩ := lobbyProgram.move_start_some moved
      obtain ⟨redis, announced, hand, pair⟩ := start_spread started
      have same : queuedSockets next = queuedSockets pool := by
        rw [queuedSockets, Lobby.listed, redis, threads, total_concat, hand, add_zero]
        rfl
      refine ⟨same ▸ distinct.sockets, ?_, ?_⟩
      · rw [threads]
        intro other member found inPair
        rcases List.mem_append.mp member with old | new
        · exact distinct.pairs other old found inPair
        · rw [List.mem_singleton.mp new, pair] at inPair
          cases inPair
      · rw [Lobby.MatchesOthers, redis, announced]
        exact distinct.matched
  | step index input =>
      obtain ⟨handler, handler', found, ran, threads⟩ := lobbyProgram.move_step_some moved
      have known : handler ∈ pool.threads := List.mem_of_getElem? found
      have spread : Spread pool.shared next.shared handler handler' := handler_spread ran
      obtain ⟨rest, before, after⟩ := total_set Handler.inHand found
      have queued : queuedSockets pool = pool.shared.listed + handler.inHand + rest := by
        rw [queuedSockets, before, add_assoc]
      refine ⟨?_, ?_, ?_, ?_⟩
      · have allowed : (queuedSockets pool + handler.pushing).Nodup :=
          pushing_nodup distinct.sockets (once handler found)
        refine Multiset.nodup_of_le ?_ allowed
        calc queuedSockets next
            = next.shared.listed + handler'.inHand + rest := by
                rw [queuedSockets, threads, after, add_assoc]
          _ ≤ pool.shared.listed + handler.inHand + handler.pushing + rest :=
                add_le_add_left spread.sockets rest
          _ = queuedSockets pool + handler.pushing := by rw [queued, add_right_comm]
      · rw [threads]
        intro other member pair inPair
        rcases List.mem_or_eq_of_mem_set member with old | new
        · exact distinct.pairs other old pair inPair
        · -- the pair was in hand, or its entries were both in the list
          rcases spread.pair pair (new ▸ inPair) with held | popped
          · exact distinct.pairs handler known pair held
          · have listed : pool.shared.listed ≤ queuedSockets pool :=
              Multiset.le_add_right _ _
            have apart := Multiset.nodup_of_le (le_trans popped listed) distinct.sockets
            simpa using apart
      · intro pair member
        rcases spread.matched pair member with old | held
        · exact distinct.matched.1 pair old
        · exact distinct.pairs handler known _ held
      · intro announcement member
        rcases spread.announced announcement member with old | held
        · exact distinct.matched.2 announcement old
        · exact distinct.pairs handler known _ held

/-- No self-match. In every run in which an entry is pushed only for a socket that has no
other one, in the list or popped by an attempt that may put it back, all pairs returned by
`tryMatch` and all pairs announced consist of entries of two sockets.
-/
theorem matches_others {moves : List (Move Handler Instant)} {pool : Pool Lobby Handler}
    (once : lobbyMachine.Along JoinsOnce lobbyMachine.init moves)
    (run : lobbyMachine.Reaches moves pool)
    : pool.shared.MatchesOthers := by
  have distinct : Distinct pool := by
    refine once.exec_preserves Distinct (fun kept once moved => kept.move once moved)
      ⟨?_, ?_, ?_, ?_⟩ run
    · exact Multiset.nodup_zero
    · intro handler member
      cases member
    · intro pair member
      cases member
    · intro announcement member
      cases member
  exact distinct.matched

/-- The first visitor joins twice, and the attempt of its second join pops both entries. -/
def joinTwice : List (Move Handler Instant) :=
  threeConnect
  ++ joinAndTry 3 1 (visitor 1) 1
  ++ [.step 3 { now := 1 }]
  ++ joinAndTry 4 2 (visitor 1) 2
  ++ List.replicate 2 (.step 4 { now := 2 })
  ++ [.step 4 { now := 2, uuid := 7 }]
  ++ List.replicate 10 (.step 4 { now := 2 })

theorem matches_others_stale
    : (lobbyAfter staleAndTwo).shared.announced.length = 1
      ∧ (lobbyAfter staleAndTwo).shared.MatchesOthers := by
  have once : lobbyMachine.Along JoinsOnce lobbyMachine.init staleAndTwo := by decide
  have run : lobbyMachine.Reaches staleAndTwo (lobbyAfter staleAndTwo) := rfl
  exact ⟨by decide, matches_others once run⟩

/-- Otherwise a visitor can be announced as its own partner. -/
theorem matched_with_itself
    : lobbyMachine.Reaches joinTwice (lobbyAfter joinTwice)
      ∧ (lobbyAfter joinTwice).shared.redis.matched.map
          (fun pair => (pair.first.socketId, pair.second.socketId))
        = [(1, 1)]
      ∧ (lobbyAfter joinTwice).shared.announced.map
          (fun announcement => (announcement.first.socketId, announcement.second.socketId))
        = [(1, 1)]
      ∧ ¬ (lobbyAfter joinTwice).shared.MatchesOthers := by
  refine ⟨rfl, by decide, by decide, fun others => ?_⟩
  have itself
      : ¬ ∀ announcement ∈ (lobbyAfter joinTwice).shared.announced,
          announcement.first.socketId ≠ announcement.second.socketId := by
    decide
  exact itself others.2

end NexusComms.Matchmaking
