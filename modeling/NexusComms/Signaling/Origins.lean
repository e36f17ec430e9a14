import NexusComms.Signaling.Actors
import NexusComms.Signaling.Orphans

/-! Where the ids of sockets come from. Every meta and every entry of the matchmaking queue has
the ids of one connection, and no two connections share a socket or an anonymous id.
-/

namespace NexusComms.Signaling

open Concurrency Matchmaking

/-- What a connection brings: the user of its token, and the id that is drawn for it. -/
structure Connection where
  socketId : SocketId
  userId : Option Uuid
  anonymousId : Uuid
deriving DecidableEq, Repr

def Event.connection : Event → Option Connection
  | .connect socketId userId anonymousId => some ⟨socketId, userId, anonymousId⟩
  | _ => none

/-- All connections so far. -/
def World.connections (world : World) : List Connection :=
  world.trace.filterMap (fun occurrence => occurrence.event.connection)

/-- The connection of a socket that is known. -/
def SocketMeta.connection (known : SocketMeta) (socketId : SocketId) : Connection :=
  ⟨socketId, known.userId, known.anonymousId⟩

end NexusComms.Signaling

namespace NexusComms.Matchmaking

/-- The connection of the socket that has stored an entry. -/
def TimedEntry.connection (entry : TimedEntry) : Signaling.Connection :=
  ⟨entry.socketId, entry.userId, entry.anonymousId⟩

end NexusComms.Matchmaking

namespace NexusComms.Signaling

open Concurrency Matchmaking

/-- Metas and entries have the ids of connections, which are all different. -/
structure Originates (world : World) : Prop where
  opened {connection : Connection} (made : connection ∈ world.connections)
    : connection.socketId ∈ world.opened
  drawn {connection : Connection} (made : connection ∈ world.connections)
    : connection.anonymousId ∈ world.drawn
  socketIds {first second : Connection} (made : first ∈ world.connections)
    (made' : second ∈ world.connections) (same : first.socketId = second.socketId)
    : first = second
  anonymousIds {first second : Connection} (made : first ∈ world.connections)
    (made' : second ∈ world.connections) (same : first.anonymousId = second.anonymousId)
    : first = second
  metas {socketId : SocketId} {known : SocketMeta}
    (found : world.gateway.sockets.lookup socketId = some known)
    : known.connection socketId ∈ world.connections
  entries : world.gateway.redis.All (fun entry => entry.connection ∈ world.connections)

namespace Originates

variable {runtime : Runtime} {world : World} {stimulus : Stimulus}

theorem start : Originates .start where
  opened made := by cases made
  drawn made := by cases made
  socketIds made := by cases made
  anonymousIds made := by cases made
  metas found := by simp [World.start, Gateway.empty] at found
  entries := .empty

/-- An event adds the connection that it makes. -/
theorem connections_after
    : (world.after runtime stimulus).connections
      = world.connections ++ stimulus.event.connection.toList := by
  simp only [World.connections, World.after, List.filterMap_append]
  cases made : stimulus.event.connection with
  | none => simp [made]
  | some connection => simp [made]

/-- A new connection has a new socket and a new anonymous id. -/
theorem fresh (origins : Originates world) (admitted : world.admits stimulus = true)
    {connection earlier : Connection}
    (new : stimulus.event.connection = some connection)
    (made : earlier ∈ world.connections)
    : earlier.socketId ≠ connection.socketId
      ∧ earlier.anonymousId ≠ connection.anonymousId := by
  cases sent : stimulus.event with
  | connect socketId userId anonymousId =>
      rw [sent] at new
      cases new
      have drawn := ActorsKnown.fresh admitted
        (show anonymousId ∈ stimulus.event.draws by simp [sent, Event.draws])
      simp only [World.admits, Bool.and_eq_true, List.all_eq_true, decide_eq_true_eq, sent,
        Event.opens] at admitted
      have opened := admitted.1.2 socketId (by simp)
      refine ⟨?_, ?_⟩
      · rintro rfl
        exact opened (origins.opened made)
      · rintro rfl
        exact drawn (origins.drawn made)
  | _ => simp [sent, Event.connection] at new

/-- Two connections that agree in an id are one, if that holds of the earlier ones. -/
theorem unique (origins : Originates world) (admitted : world.admits stimulus = true)
    {first second : Connection}
    (made : first ∈ (world.after runtime stimulus).connections)
    (made' : second ∈ (world.after runtime stimulus).connections)
    (same : first.socketId = second.socketId ∨ first.anonymousId = second.anonymousId)
    : first = second := by
  rw [connections_after] at made made'
  have apart {earlier later : Connection} (early : earlier ∈ world.connections)
      (late : later ∈ stimulus.event.connection.toList)
      : earlier.socketId ≠ later.socketId ∧ earlier.anonymousId ≠ later.anonymousId :=
    origins.fresh admitted (Option.mem_toList.mp late) early
  rcases List.mem_append.mp made with early | late <;>
    rcases List.mem_append.mp made' with early' | late'
  · rcases same with same | same
    · exact origins.socketIds early early' same
    · exact origins.anonymousIds early early' same
  · have other := apart early late'
    rcases same with same | same
    · exact absurd same other.1
    · exact absurd same other.2
  · have other := apart early' late
    rcases same with same | same
    · exact absurd same.symm other.1
    · exact absurd same.symm other.2
  · have one := Option.mem_toList.mp late
    have two := Option.mem_toList.mp late'
    exact Option.some.inj (one.symm.trans two)

theorem step (origins : Originates world) (admitted : world.admits stimulus = true)
    : Originates (world.after runtime stimulus) where
  opened {connection} made := by
    rw [connections_after] at made
    change connection.socketId ∈ stimulus.event.opens ++ world.opened
    rcases List.mem_append.mp made with early | late
    · exact List.mem_append_right _ (origins.opened early)
    · cases sent : stimulus.event with
      | connect socketId userId anonymousId =>
          simp only [sent, Event.connection, Option.toList_some, List.mem_singleton] at late
          simp [late, Event.opens]
      | _ => simp [sent, Event.connection] at late
  drawn {connection} made := by
    rw [connections_after] at made
    change connection.anonymousId ∈ stimulus.event.draws ++ world.drawn
    rcases List.mem_append.mp made with early | late
    · exact List.mem_append_right _ (origins.drawn early)
    · cases sent : stimulus.event with
      | connect socketId userId anonymousId =>
          simp only [sent, Event.connection, Option.toList_some, List.mem_singleton] at late
          simp [late, Event.draws]
      | _ => simp [sent, Event.connection] at late
  socketIds made made' same := origins.unique admitted made made' (.inl same)
  anonymousIds made made' same := origins.unique admitted made made' (.inr same)
  metas {socketId known} found := by
    rw [connections_after]
    have turn := handle_turn runtime stimulus.now world.gateway stimulus.event
    rcases turn.ids found with ⟨earlier, there, user, anonymous⟩ | sent
    · have same : known.connection socketId = earlier.connection socketId := by
        simp [SocketMeta.connection, user, anonymous]
      rw [same]
      exact List.mem_append_left _ (origins.metas there)
    · simp [sent, Event.connection, SocketMeta.connection]
  entries := by
    have stored := handle_all stimulus.now world.gateway runtime stimulus.event origins.entries
      (fun {socketId preferredType callId known} _ found => origins.metas found)
    refine stored.imp fun entry made => ?_
    rw [connections_after]
    exact List.mem_append_left _ made

/-- The two whom a join finds in the queue have connected. -/
theorem pairing (origins : Originates world) {now : Time} {socketId : SocketId}
    {preferredType : Option CallType} {a b : TimedEntry}
    (paired : world.gateway.pairing now socketId preferredType = some (a, b))
    : a.connection ∈ world.connections ∧ b.connection ∈ world.connections := by
  obtain ⟨known, found, matched⟩ := Option.bind_eq_some_iff.mp paired
  have own
      : TimedEntry.connection
          { known.entry socketId preferredType with enqueuedAt := dateNow now }
        ∈ world.connections :=
    origins.metas found
  exact (tryMatch_all (dateNow now) (enqueue_all (dateNow now) origins.entries own)).2 a b
    matched

/-- The ids of a socket that is known are those of its entries. -/
theorem agrees (origins : Originates world) {entry : TimedEntry} {known : SocketMeta}
    (made : entry.connection ∈ world.connections)
    (found : world.gateway.sockets.lookup entry.socketId = some known)
    : known.userId = entry.userId ∧ known.anonymousId = entry.anonymousId := by
  have same : known.connection entry.socketId = entry.connection :=
    origins.socketIds (origins.metas found) made rfl
  exact ⟨congrArg Connection.userId same, congrArg Connection.anonymousId same⟩

end Originates

end NexusComms.Signaling
