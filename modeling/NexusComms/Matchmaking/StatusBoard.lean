import Mathlib.Data.List.Dedup
import NexusComms.Concurrency.Ordered
import NexusComms.Matchmaking.Waiting

/-! `match:queue-status` as its clients see it: the one that has been broadcast last stands
until the next one comes. Redis answers over one connection, in the order of the commands, so
the handlers that wait for the queue depth broadcast in the order in which they have asked.
-/

namespace NexusComms.Matchmaking

open Concurrency Program SignalingGateway

/-- The online count that a handler has read in `broadcastQueueStatus`, before it waits for the
queue depth. -/
def Handler.announces : Handler → Option Nat
  | .connect _ _ _ (.broadcast onlineUsers) => some onlineUsers
  | .join _ _ (.broadcast onlineUsers) => some onlineUsers
  | .leave _ (.broadcast onlineUsers) => some onlineUsers
  | .disconnect _ (.broadcast onlineUsers) => some onlineUsers
  | _ => none

/-- The handler waits for the answer to its `LLEN`. -/
def Handler.awaitsDepth (handler : Handler) : Bool := handler.announces.isSome

def Emission.status : Emission → Option (Nat × Nat)
  | .queueStatus onlineUsers searchingUsers => some (onlineUsers, searchingUsers)
  | _ => none

/-- The status that has been broadcast last. -/
def Lobby.board (lobby : Lobby) : Nat × Nat :=
  (lobby.emitted.filterMap Emission.status).getLast?.getD (0, 0)

/-- Whom a socket counts for in `countOnlineUsers`. -/
def SocketMeta.person (known : SocketMeta) : Uuid := known.userId.getD known.anonymousId

/-- `SignalingGateway.onQueueStatusRequest`, whose queue depth is answered in a later state. -/
def SignalingGateway.onQueueStatusRequest (asked answered : Lobby) : Nat × Nat :=
  (asked.sockets.entries.length, answered.redis.queue.length)

/-- Nobody has two sockets. -/
def Lobby.OneSocketEach (lobby : Lobby) : Prop :=
  ∀ first second known known',
    lobby.sockets.lookup first = some known → lobby.sockets.lookup second = some known' →
      known.person = known'.person → first = second

/-- Every interleaving of the handlers in which Redis answers in order. -/
abbrev orderedLobby : Machine (Asking Lobby Handler) (Move Handler Instant) :=
  lobbyProgram.ordered Handler.awaitsDepth Lobby.empty

-----------------------------------------------------------------------------------------
-- Counting
-----------------------------------------------------------------------------------------

theorem countOnlineUsers_eq (lobby : Lobby)
    : lobby.countOnlineUsers
      = ((lobby.sockets.entries.map (fun entry => entry.2.person)).dedup).length :=
  rfl

/-- Only the metas count. -/
theorem countOnlineUsers_congr {lobby lobby' : Lobby} (same : lobby'.sockets = lobby.sockets)
    : lobby'.countOnlineUsers = lobby.countOnlineUsers := by
  rw [countOnlineUsers_eq, countOnlineUsers_eq, same]

/-- A meta that gets a call counts as before. -/
theorem countOnlineUsers_setCall (lobby : Lobby) (socketId : SocketId) (callId : Uuid)
    : (lobby.setCall socketId callId).countOnlineUsers = lobby.countOnlineUsers := by
  unfold Lobby.setCall
  split
  · rfl
  · rename_i known found
    have member := AList.mem_lookup_iff.mp (Option.mem_def.mpr found)
    obtain ⟨other, before, behind, -, entries, rest⟩ :=
      List.exists_of_kerase (List.mem_keys_of_mem member)
    have there : Sigma.mk socketId other ∈ lobby.sockets.entries := by simp [entries]
    have same := AList.mem_lookup_iff.mpr there
    rw [Option.mem_def, found] at same
    cases same
    have moved
        : ((lobby.sockets.insert socketId { known with callId := callId }).entries.map
            (fun entry => entry.2.person)).Perm
          (lobby.sockets.entries.map (fun entry => entry.2.person)) := by
      rw [AList.entries_insert, rest, entries, List.map_cons]
      simp only [List.map_append, List.map_cons]
      exact List.perm_middle.symm
    exact moved.dedup.length_eq

theorem countOnlineUsers_announce (lobby : Lobby) (first second : Item) (callId : Uuid)
    : (announce lobby first second callId).countOnlineUsers = lobby.countOnlineUsers := by
  have both
      : (announce lobby first second callId).countOnlineUsers
        = ((lobby.setCall first.raw.parse.socketId callId).setCall second.raw.parse.socketId
            callId).countOnlineUsers :=
    countOnlineUsers_congr rfl
  rw [both, countOnlineUsers_setCall, countOnlineUsers_setCall]

/-- A client that asks is told the number of sockets, which is the online count exactly when
nobody has two of them. -/
theorem sockets_counted_iff (lobby : Lobby)
    : lobby.sockets.entries.length = lobby.countOnlineUsers ↔ lobby.OneSocketEach := by
  have nodup := lobby.sockets.nodupKeys.nodup
  have injective
      : (lobby.sockets.entries.map (fun entry => entry.2.person)).Nodup
        ↔ lobby.OneSocketEach := by
    rw [List.nodup_map_iff_inj_on nodup]
    constructor
    · intro apart first second known known' found found' same
      have equal := apart _ (AList.mem_lookup_iff.mp found) _ (AList.mem_lookup_iff.mp found')
        same
      exact congrArg Sigma.fst equal
    · rintro each ⟨first, known⟩ member ⟨second, known'⟩ member' same
      have found := AList.mem_lookup_iff.mpr member
      have found' := AList.mem_lookup_iff.mpr member'
      cases each first second known known' found found' same
      rw [Option.mem_def.mp found] at found'
      cases Option.some.inj found'
      rfl
  rw [← injective, ← List.dedup_eq_self, countOnlineUsers_eq]
  constructor
  · intro equal
    refine (List.dedup_sublist _).eq_of_length ?_
    rw [← equal, List.length_map]
  · intro equal
    rw [equal, List.length_map]

-----------------------------------------------------------------------------------------
-- What one step shows
-----------------------------------------------------------------------------------------

section

variable {lobby lobby' : Lobby} {owner : Nat} {input : Instant} {handler handler' : Handler}

theorem board_congr (same : lobby'.emitted = lobby.emitted) : lobby'.board = lobby.board := by
  rw [Lobby.board, Lobby.board, same]

theorem board_broadcast (lobby : Lobby) (onlineUsers : Nat)
    : (broadcastQueueStatus lobby onlineUsers).board
      = (onlineUsers, lobby.redis.queue.length) := by
  simp [Lobby.board, broadcastQueueStatus, Emission.status]

/-- The board only changes when a status is broadcast. -/
theorem board_append {emissions : List Emission}
    (emitted : lobby'.emitted = lobby.emitted ++ emissions)
    (silent : emissions.filterMap Emission.status = [])
    : lobby'.board = lobby.board := by
  rw [Lobby.board, Lobby.board, emitted, List.filterMap_append, silent, List.append_nil]

/-- What a step does to the board and the online count. A handler that waits for the queue
depth broadcasts both numbers and ends; every other one goes on, and it has just read the
online count when it starts to wait. -/
structure Shows (before after : Lobby) (handler handler' : Handler) : Prop where
  board
    : after.board = (handler.announces.map (·, after.redis.queue.length)).getD before.board
  count
    : handler'.announces.getD before.countOnlineUsers = after.countOnlineUsers
  ends : handler'.finished = handler.awaitsDepth

/-- A handler that broadcasts. -/
theorem Shows.of_broadcast {onlineUsers : Nat}
    (announces : handler.announces = some onlineUsers)
    (finished : handler'.finished = true) (silent : handler'.announces = none)
    : Shows lobby (broadcastQueueStatus lobby onlineUsers) handler handler' where
  board := by
    rw [announces]
    exact board_broadcast lobby onlineUsers
  count := by
    rw [silent]
    exact (countOnlineUsers_congr rfl).symm
  ends := by rw [finished, Handler.awaitsDepth, announces, Option.isSome_some]

/-- A handler that goes on. -/
theorem Shows.of_silent (silent : handler.announces = none)
    (board : lobby'.board = lobby.board)
    (count : handler'.announces.getD lobby.countOnlineUsers = lobby'.countOnlineUsers)
    (unfinished : handler'.finished = false)
    : Shows lobby lobby' handler handler' where
  board := by rw [silent, board, Option.map_none, Option.getD_none]
  count := count
  ends := by rw [unfinished, Handler.awaitsDepth, silent, Option.isSome_none]

/-- A `dequeue` leaves the metas and the emissions alone until its handler goes on. -/
theorem dequeueStep_cases {ρ : Type} {socketId : SocketId} {stage : DequeueStage}
    {running : DequeueStage → ρ} {next : Lobby → Lobby × ρ} {result : ρ}
    (ran : dequeueStep owner lobby socketId stage running next = some (lobby', result))
    : (∃ returned,
          returned.sockets = lobby.sockets
          ∧ returned.emitted = lobby.emitted
          ∧ next returned = (lobby', result))
      ∨ ∃ stage',
          lobby'.sockets = lobby.sockets
          ∧ lobby'.emitted = lobby.emitted
          ∧ result = running stage' := by
  obtain ⟨⟨store, stage'⟩, _, same⟩ := Option.map_eq_some_iff.mp ran
  split at same
  · refine Or.inl ⟨_, ?_, ?_, same⟩
    · rfl
    · rfl
  · cases same
    exact Or.inr ⟨_, rfl, rfl, rfl⟩

theorem join_shows {entry : QueueEntry} {since : Nat} {stage stage' : JoinStage}
    (ran : onJoinQueue input lobby entry since stage = some (lobby', stage'))
    : Shows lobby lobby' (.join entry since stage) (.join entry since stage') := by
  cases stage with
  | enqueue stage =>
      obtain ⟨⟨store, next⟩, _, same⟩ := Option.map_eq_some_iff.mp ran
      dsimp only at same
      split at same
      · cases same
        exact .of_silent rfl rfl rfl rfl
      · cases same
        exact .of_silent rfl rfl rfl rfl
  | queueDepth position onlineUsers =>
      cases ran
      exact .of_silent rfl (board_append rfl rfl) rfl rfl
  | tryMatch stage =>
      obtain ⟨⟨store, next⟩, _, same⟩ := Option.map_eq_some_iff.mp ran
      dsimp only at same
      split at same
      · cases same
        exact .of_silent rfl rfl rfl rfl
      · cases same
        exact .of_silent rfl rfl rfl rfl
      · cases same
        exact .of_silent rfl rfl rfl rfl
  | createSession first second =>
      cases ran
      exact .of_silent rfl rfl rfl rfl
  | pairing first second callId todo =>
      cases todo with
      | nil => cases ran
      | cons head rest =>
          simp only [onJoinQueue] at ran
          split at ran
          · cases ran
            exact .of_silent rfl (board_append rfl rfl)
              (countOnlineUsers_announce lobby first second callId).symm rfl
          · cases ran
            exact .of_silent rfl rfl rfl rfl
  | broadcast onlineUsers =>
      cases ran
      exact .of_broadcast rfl rfl rfl
  | done => cases ran

theorem disconnect_shows {socketId : SocketId} {stage stage' : DisconnectStage}
    (ran : handleDisconnect owner lobby socketId stage = some (lobby', stage'))
    : Shows lobby lobby' (.disconnect socketId stage) (.disconnect socketId stage') := by
  cases stage with
  | dequeue stage =>
      simp only [handleDisconnect] at ran
      rcases dequeueStep_cases ran with
        ⟨returned, sockets, emitted, next⟩ | ⟨stage, sockets, emitted, rfl⟩
      · unfold endOrForget at next
        split at next
        · cases next
          exact .of_silent rfl (board_congr emitted) (countOnlineUsers_congr sockets).symm rfl
        · cases next
          exact .of_silent rfl (board_congr emitted) rfl rfl
      · exact .of_silent rfl (board_congr emitted) (countOnlineUsers_congr sockets).symm rfl
  | endCall callId todo =>
      cases todo with
      | nil => cases ran
      | cons head rest =>
          simp only [handleDisconnect] at ran
          split at ran
          · cases ran
            exact .of_silent rfl (board_append rfl rfl) rfl rfl
          · cases ran
            exact .of_silent rfl rfl rfl rfl
  | broadcast onlineUsers =>
      cases ran
      exact .of_broadcast rfl rfl rfl
  | done => cases ran

/-- Every step of every handler. -/
theorem handler_shows (ran : handler.step owner input lobby = some (lobby', handler'))
    : Shows lobby lobby' handler handler' := by
  cases handler with
  | join entry since stage =>
      obtain ⟨⟨_, _⟩, stepped, same⟩ := Option.map_eq_some_iff.mp ran
      cases same
      exact join_shows stepped
  | disconnect socketId stage =>
      obtain ⟨⟨_, _⟩, stepped, same⟩ := Option.map_eq_some_iff.mp ran
      cases same
      exact disconnect_shows stepped
  | connect socketId userId anonymousId stage =>
      obtain ⟨⟨_, _⟩, stepped, same⟩ := Option.map_eq_some_iff.mp ran
      cases same
      cases stage with
      | broadcast onlineUsers =>
          cases stepped
          exact .of_broadcast rfl rfl rfl
      | done => cases stepped
  | leave socketId stage =>
      obtain ⟨⟨_, _⟩, stepped, same⟩ := Option.map_eq_some_iff.mp ran
      cases same
      cases stage with
      | dequeue stage =>
          simp only [onLeaveQueue] at stepped
          rcases dequeueStep_cases stepped with
            ⟨returned, sockets, emitted, next⟩ | ⟨stage, sockets, emitted, rfl⟩
          · cases next
            exact .of_silent rfl (board_congr emitted) rfl rfl
          · exact .of_silent rfl (board_congr emitted) (countOnlineUsers_congr sockets).symm
              rfl
      | broadcast onlineUsers =>
          cases stepped
          exact .of_broadcast rfl rfl rfl
      | done => cases stepped

/-- An arriving handler broadcasts nothing yet, and has read the online count if it waits. -/
theorem start_shows (started : handler.start owner lobby = some lobby')
    : lobby'.board = lobby.board
      ∧ handler.announces.getD lobby.countOnlineUsers = lobby'.countOnlineUsers
      ∧ handler.finished = false := by
  unfold Handler.start at started
  split at started
  · dsimp only at started
    split at started
    · rename_i fresh
      cases started
      exact ⟨rfl, fresh.2, rfl⟩
    · cases started
  · split at started
    · cases started
    · split at started
      · cases started
        exact ⟨rfl, rfl, rfl⟩
      · cases started
  · split at started
    · cases started
      exact ⟨rfl, rfl, rfl⟩
    · cases started
  · split at started
    · cases started
      exact ⟨rfl, rfl, rfl⟩
    · cases started
  · cases started

theorem silent_of_finished (finished : handler.finished = true)
    : handler.announces = none := by
  unfold Handler.finished at finished
  split at finished
  · rfl
  · rfl
  · rfl
  · rfl
  · cases finished

end

-----------------------------------------------------------------------------------------
-- Whole runs
-----------------------------------------------------------------------------------------

/-- The handlers report the online count. -/
theorem lobby_reports
    : lobbyProgram.Reports Handler.awaitsDepth (fun handler => handler.announces.getD 0)
        (fun lobby => lobby.board.1) Lobby.countOnlineUsers where
  start began := by
    obtain ⟨board, count, _⟩ := start_shows began
    refine ⟨congrArg Prod.fst board, ?_⟩
    split
    · rename_i waits
      obtain ⟨onlineUsers, announces⟩ := Option.isSome_iff_exists.mp waits
      simpa [announces] using count
    · rename_i free
      have silent := Option.not_isSome_iff_eq_none.mp free
      simpa [silent] using count.symm
  report ran waits := by
    have shows := handler_shows ran
    obtain ⟨onlineUsers, announces⟩ := Option.isSome_iff_exists.mp waits
    have silent := silent_of_finished (shows.ends.trans waits)
    refine ⟨by rw [shows.board, announces]; rfl, ?_, by rw [Handler.awaitsDepth, silent]; rfl⟩
    simpa [silent] using shows.count.symm
  step ran free := by
    have shows := handler_shows ran
    have silent := Option.isNone_iff_eq_none.mp (Option.isSome_eq_false_iff.mp free)
    refine ⟨by rw [shows.board, silent]; rfl, ?_⟩
    split
    · rename_i waits
      obtain ⟨onlineUsers, announces⟩ := Option.isSome_iff_exists.mp waits
      simpa [announces] using shows.count
    · rename_i silent'
      have silent' := Option.not_isSome_iff_eq_none.mp silent'
      simpa [silent'] using shows.count.symm

/-- The board shows the queue depth, unless a handler is still on its way to broadcast it. -/
def DepthShown (pool : Pool Lobby Handler) : Prop :=
  pool.shared.board.2 = pool.shared.redis.queue.length
  ∨ ∃ handler ∈ pool.threads, handler.finished = false

theorem DepthShown.move {pool next : Pool Lobby Handler} {move : Move Handler Instant}
    (moved : lobbyProgram.move pool move = some next)
    : DepthShown next := by
  cases move with
  | start handler =>
      obtain ⟨began, threads⟩ := lobbyProgram.move_start_some moved
      exact Or.inr ⟨handler, by simp [threads], (start_shows began).2.2⟩
  | step index input =>
      obtain ⟨handler, after, found, ran, threads⟩ := lobbyProgram.move_step_some moved
      have shows := handler_shows ran
      cases announces : handler.announces with
      | none =>
          have bound := (List.getElem?_eq_some_iff.mp found).1
          refine Or.inr ⟨after, threads ▸ List.mem_set bound after, ?_⟩
          rw [shows.ends, Handler.awaitsDepth, announces, Option.isSome_none]
      | some onlineUsers =>
          refine Or.inl ?_
          rw [shows.board, announces]
          rfl

/-- The status that clients see. In every run in which Redis answers in order, the handler
that has asked last is going to broadcast the number of people who are online now, and when no
handler waits that number stands on the board; when all handlers have run to their end the
queue depth on the board is right as well. A client that asks for the status is then told the
same exactly if nobody has two sockets.
-/
theorem board_current {moves : List (Move Handler Instant)} {state : Asking Lobby Handler}
    (run : orderedLobby.Reaches moves state)
    : (∀ index handler,
        state.asked.getLast? = some index → state.pool.threads[index]? = some handler →
          handler.announces = some state.pool.shared.countOnlineUsers)
      ∧ ((∀ handler ∈ state.pool.threads, handler.awaitsDepth = false) →
          state.pool.shared.board.1 = state.pool.shared.countOnlineUsers)
      ∧ ((∀ handler ∈ state.pool.threads, handler.finished = true) →
          state.pool.shared.board
            = (state.pool.shared.countOnlineUsers, state.pool.shared.redis.queue.length)
          ∧ (onQueueStatusRequest state.pool.shared state.pool.shared = state.pool.shared.board
            ↔ state.pool.shared.OneSocketEach)) := by
  have sound := ordered_sound run
  have latest := lobby_reports.latest rfl run
  have depth : DepthShown state.pool :=
    (ordered_reaches run).invariant DepthShown (Or.inl rfl) (fun _ moved => .move moved)
  have quiet
      : (∀ handler ∈ state.pool.threads, handler.awaitsDepth = false) →
          state.pool.shared.board.1 = state.pool.shared.countOnlineUsers := by
    intro free
    refine (Asking.latest_told (List.eq_nil_iff_forall_not_mem.mpr ?_)).symm.trans latest
    intro index member
    obtain ⟨handler, found, waits⟩ := (sound.waiting index).mp member
    rw [free handler (List.mem_of_getElem? found)] at waits
    cases waits
  refine ⟨?_, quiet, fun finished => ?_⟩
  · intro index handler last found
    obtain ⟨_, found', waits⟩ := (sound.waiting index).mp (List.mem_of_getLast? last)
    cases Option.some.inj (found'.symm.trans found)
    obtain ⟨onlineUsers, announces⟩ := Option.isSome_iff_exists.mp waits
    rw [Asking.latest_asked last found, announces] at latest
    rw [announces, ← latest]
    rfl
  · have online := quiet (fun handler member => by
      rw [Handler.awaitsDepth, silent_of_finished (finished handler member)]
      rfl)
    have board
        : state.pool.shared.board
          = (state.pool.shared.countOnlineUsers, state.pool.shared.redis.queue.length) := by
      rcases depth with shown | ⟨handler, member, unfinished⟩
      · exact Prod.ext online shown
      · rw [finished handler member] at unfinished
        cases unfinished
    refine ⟨board, ?_⟩
    rw [board, onQueueStatusRequest, Prod.mk.injEq, and_iff_left rfl]
    exact sockets_counted_iff _

/-- A user opens two tabs, and a visitor connects and leaves at once. -/
def twoTabs : List (Move Handler Instant) := [
  .start (.connect 1 (some 9) 1001 (.broadcast 1)),
  .start (.connect 2 (some 9) 1002 (.broadcast 1)),
  .step 0 { now := 1 },
  .start (.connect 3 none 1003 (.broadcast 2)),
  .start (.disconnect 3 (.dequeue .hget)),
  .step 3 { now := 2 },
  .step 1 { now := 2 },
  .step 2 { now := 2 },
  .step 3 { now := 2 }
]

/-- The state after a run in which Redis answers in order. -/
def boardAfter (moves : List (Move Handler Instant)) : Asking Lobby Handler :=
  (orderedLobby.exec orderedLobby.init moves).getD ⟨⟨Lobby.empty, []⟩, []⟩

theorem board_current_twoTabs
    : (boardAfter twoTabs).pool.shared.board = (1, 0)
      ∧ onQueueStatusRequest (boardAfter twoTabs).pool.shared
          (boardAfter twoTabs).pool.shared
        = (2, 0)
      ∧ ¬ (boardAfter twoTabs).pool.shared.OneSocketEach := by
  have run : orderedLobby.Reaches twoTabs (boardAfter twoTabs) := rfl
  have finished : ∀ handler ∈ (boardAfter twoTabs).pool.threads, handler.finished = true := by
    decide
  have current := (board_current run).2.2 finished
  have differ
      : onQueueStatusRequest (boardAfter twoTabs).pool.shared (boardAfter twoTabs).pool.shared
        ≠ (boardAfter twoTabs).pool.shared.board := by
    decide
  exact ⟨by decide, by decide, fun each => differ (current.2.mpr each)⟩

end NexusComms.Matchmaking
