import NexusComms.Sfu.Identity

/-! What a disconnected peer leaves behind. `handleDisconnect` removes its socket from the room
of `meta.roomId` alone, and a transport that the media library returns later is added all the
same. A run in which neither matters leaves nothing behind. A room object whose router is
closed is no room any more.
-/

namespace NexusComms.Sfu

open Concurrency Signaling

/-- The socket that a `handleDisconnect` is about to remove. -/
def Handler.departing : Handler → Option SocketId
  | .disconnect socketId .dequeue => some socketId
  | _ => none

/-- The socket that a `handleDisconnect` has removed. -/
def Handler.removed : Handler → Option SocketId
  | .disconnect _ .dequeue => none
  | .disconnect socketId _ => some socketId
  | _ => none

/-- The only open room that a socket has entered is the entry of its `meta.roomId`. -/
def Studio.Seated (studio : Studio) (socketId : SocketId) : Prop :=
  ∀ ref < studio.media.objects.length, ∀ room ∈ studio.media.objects[ref]?,
    room.routerOpen = true → socketId ∈ room.participants →
      (studio.sockets.lookup socketId).join.bind
          (fun roomId => studio.media.rooms.lookup roomId)
        = some ref

instance (studio : Studio) (socketId : SocketId) : Decidable (studio.Seated socketId) := by
  unfold Studio.Seated
  infer_instance

/-- A socket is removed from the only open room that it has entered, and no transport comes
for a socket that has been removed, unless the room has been closed meanwhile. -/
def DepartsCleanly (pool : Pool Studio Handler) : Move Handler Completion → Prop
  | .start _ => True
  | .step index input =>
      ∀ handler ∈ pool.threads[index]?, input ≠ .failed →
        (∀ socketId ∈ handler.departing, pool.shared.Seated socketId)
        ∧ ∀ pending ∈ handler.adding, ∀ room ∈ pool.shared.media.objects[pending.2]?,
            room.routerOpen = true →
              ∀ other ∈ pool.threads, other.removed ≠ some handler.socketId

instance (pool : Pool Studio Handler)
    : (move : Move Handler Completion) → Decidable (DepartsCleanly pool move)
  | .start _ => isTrue trivial
  | .step index input =>
      inferInstanceAs
        (Decidable
          (∀ handler ∈ pool.threads[index]?, input ≠ .failed →
            (∀ socketId ∈ handler.departing, pool.shared.Seated socketId)
            ∧ ∀ pending ∈ handler.adding, ∀ room ∈ pool.shared.media.objects[pending.2]?,
                room.routerOpen = true →
                  ∀ other ∈ pool.threads, other.removed ≠ some handler.socketId))

/-- The `handleDisconnect` of a socket and all its other handlers have finished. -/
def Gone (pool : Pool Studio Handler) (socketId : SocketId) : Prop :=
  .disconnect socketId .done ∈ pool.threads
  ∧ ∀ handler ∈ pool.threads, handler.socketId = socketId → handler.finished = true

instance (pool : Pool Studio Handler) (socketId : SocketId) : Decidable (Gone pool socketId) :=
  inferInstanceAs
    (Decidable
      (Handler.disconnect socketId .done ∈ pool.threads
        ∧ ∀ handler ∈ pool.threads, handler.socketId = socketId → handler.finished = true))

/-- A socket that is gone has no transport in an open room and is none of its participants,
and a room that all its peers have left for good is closed. -/
structure NothingLeft (pool : Pool Studio Handler) : Prop where
  removed
    : ∀ {socketId} {ref : Nat} {room : Room},
        Gone pool socketId → pool.shared.media.objects[ref]? = some room →
          room.routerOpen = true →
            socketId ∉ room.participants
            ∧ ∀ transportId, (socketId, transportId) ∉ room.transports
  closed
    : ∀ {ref : Nat} {room : Room},
        pool.shared.media.objects[ref]? = some room → room.entered ≠ [] →
          (∀ peerId ∈ room.entered, Gone pool peerId) → room.routerOpen = false

/-- A socket is in no open room. -/
def Media.Without (media : Media) (socketId : SocketId) : Prop :=
  ∀ (ref : Nat) (room : Room),
    media.objects[ref]? = some room → room.routerOpen = true → socketId ∉ room.participants

section

variable {studio studio' : Studio} {input : Completion} {handler handler' : Handler}
  {socketId : SocketId}

/-- A socket that is in no open room enters one again only by a transport that comes late. -/
theorem Media.Without.turn (sound : studio.media.Sound)
    (turn : Turn studio input handler studio' handler')
    (inTime
      : ∀ pending ∈ handler.adding, input ≠ .failed → handler.socketId = socketId →
          ∀ room ∈ studio.media.objects[pending.2]?, room.routerOpen = false)
    (without : studio.media.Without socketId)
    : studio'.media.Without socketId := by
  intro ref room found isOpen
  rcases turn.origin sound found
    with ⟨before, there, within⟩ | ⟨_, rfl⟩ | ⟨_, _, _, before, rfl, rfl, _, there, rfl⟩
  · intro member
    exact without ref before there (within.routerOpen isOpen) (within.participants _ member)
  · exact List.not_mem_nil
  · intro member
    rcases List.mem_insert_iff.mp member with rfl | old
    · have closed := inTime _ rfl Completion.noConfusion rfl before there
      exact Bool.false_ne_true (closed.symm.trans isOpen)
    · exact without ref before there isOpen old

/-- A `handleDisconnect` that is past its first await has removed its socket. -/
theorem removed_of_later {stage : DisconnectStage} (later : stage ≠ .dequeue)
    : (Handler.disconnect socketId stage).removed = some socketId := by
  cases stage with
  | dequeue => exact absurd rfl later
  | removeParticipant => rfl
  | queueDepth => rfl
  | done => rfl

/-- A removal that meets the condition takes its socket out of every open room. -/
theorem departs (sound : studio.media.Sound)
    (turn : Turn studio input handler studio' handler')
    (leaves : handler'.removed = some socketId)
    (known : handler.removed = some socketId → studio.media.Without socketId)
    (seated : input ≠ .failed → ∀ leaver ∈ handler.departing, studio.Seated leaver)
    : studio'.media.Without socketId := by
  cases turn with
  | joining _ _ _ _ => cases leaves
  | opened => cases leaves
  | failed => cases leaves
  | added _ => cases leaves
  | unseated seatless media _ _ =>
      cases leaves
      rw [media]
      intro ref room found isOpen member
      have bound := (List.getElem?_eq_some_iff.mp found).1
      have named :=
        seated Completion.noConfusion socketId rfl ref bound room found isOpen member
      rw [seatless] at named
      cases named
  | @removed leaver roomId seat =>
      cases leaves
      intro ref room found isOpen member
      obtain ⟨before, there, within, gone⟩ := removeParticipant_within sound found
      have bound := (List.getElem?_eq_some_iff.mp there).1
      have named :=
        seated Completion.noConfusion socketId rfl ref bound before there (within.routerOpen isOpen)
          (within.participants _ member)
      rw [seat] at named
      exact gone named member
  | leaving media _ _ later onward =>
      rw [media]
      rw [removed_of_later onward] at leaves
      exact known ((removed_of_later later).trans leaves)

end

/-- In a clean run, a socket that has been removed is in no open room, whatever the other
handlers do. -/
theorem removed_outline
    : studioProgram.GuardedOutline DepartsCleanly (fun studio => studio.media.Sound)
        (fun studio _ slot =>
          ∀ handler ∈ slot, ∀ socketId ∈ handler.removed, studio.media.Without socketId) where
  start := by
    intro pool handler studio' valid _ started
    have arrival := Handler.start_arrival started
    refine ⟨arrival.media ▸ valid.1, ?_, ?_⟩
    · rintro _ ⟨rfl⟩ socketId removed
      cases arrival <;> cases removed
    · intro other _ handler' there
      rw [arrival.media]
      exact valid.2 other handler' there
  step := by
    intro pool index input handler studio' handler' valid clean running ran
    have turn := Handler.step_turn ran
    refine ⟨Media.Sound.turn valid.1 turn, ?_, ?_⟩
    · rintro _ ⟨rfl⟩ socketId removed
      exact departs valid.1 turn removed
        (fun was => valid.2 index handler running socketId was)
        (fun succeeds => (clean handler running succeeds).1)
    · intro other _ other' there socketId removed
      refine (valid.2 other other' there socketId removed).turn valid.1 turn ?_
      intro pending adding succeeds own room found
      refine Bool.eq_false_iff.mpr (fun isOpen => ?_)
      refine (clean handler running succeeds).2 pending adding room found isOpen other'
        (List.mem_of_getElem? there) ?_
      rw [own]
      exact removed

/-- Two sockets use a room and leave it one after the other. -/
def bothLeave : List (Move Handler Completion) :=
  oneAfterTheOther
  ++ List.replicate 2 (.step 4 .done)
  ++ [.start (.disconnect 1 .dequeue)]
  ++ List.replicate 3 (.step 6 .done)
  ++ [.start (.disconnect 2 .dequeue)]
  ++ List.replicate 3 (.step 7 .done)

/-- A socket drops while it waits for another transport, which comes when the socket has been
removed. Then the other socket leaves, too. -/
def dropsWaiting : List (Move Handler Completion) :=
  oneAfterTheOther
  ++ List.replicate 2 (.step 4 .done)
  ++ [.start (.createTransport 1 (.other 0) (.createWebRtcTransport 0)),
      .start (.disconnect 1 .dequeue)]
  ++ List.replicate 3 (.step 7 .done)
  ++ [.step 6 (.transport 9), .start (.disconnect 2 .dequeue)]
  ++ List.replicate 3 (.step 8 .done)

end NexusComms.Sfu
