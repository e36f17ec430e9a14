import NexusComms.Sfu.Rooms

/-! What every interleaving of the handlers keeps true of the rooms: the map refers to open
rooms of the right id, a transport belongs to a participant, and a room that has had
participants is closed with the last of them.
-/

namespace NexusComms.Sfu

open Concurrency Signaling

/-- The transports of a room belong to its participants, and an open room that has ever been
entered has a participant. `drawn` are the transport ids so far. -/
structure Room.Sound (drawn : List Uuid) (room : Room) : Prop where
  owned : ∀ transport ∈ room.transports, transport.1 ∈ room.participants
  known : ∀ transport ∈ room.transports, transport.2 ∈ drawn
  entered : ∀ peerId ∈ room.participants, peerId ∈ room.entered
  populated : room.routerOpen = true → room.entered ≠ [] → room.participants ≠ []

namespace Room.Sound

variable {drawn : List Uuid} {room : Room} {peerId : SocketId} {transportId : Uuid}

/-- A room that has just been created is empty. -/
theorem fresh (roomId : Text)
    : Room.Sound drawn ⟨roomId, true, [], [], []⟩ where
  owned := by simp
  known := by simp
  entered := by simp
  populated := by simp

/-- More ids may have been drawn. -/
theorem mono (sound : room.Sound drawn) (transportId : Uuid)
    : room.Sound (transportId :: drawn) where
  owned := sound.owned
  known transport member := List.mem_cons_of_mem _ (sound.known transport member)
  entered := sound.entered
  populated := sound.populated

/-- A transport is added together with its peer. -/
theorem add (sound : room.Sound drawn)
    : (room.add peerId transportId).Sound (transportId :: drawn) where
  owned transport member := by
    rcases List.mem_append.mp member with before | added
    · exact List.mem_insert_of_mem (sound.owned transport before)
    · cases List.mem_singleton.mp added
      exact List.mem_insert_self
  known transport member := by
    rcases List.mem_append.mp member with before | added
    · exact List.mem_cons_of_mem _ (sound.known transport before)
    · cases List.mem_singleton.mp added
      exact List.mem_cons_self
  entered other member := by
    rcases List.mem_insert_iff.mp member with rfl | before
    · exact List.mem_cons_self
    · exact List.mem_cons_of_mem _ (sound.entered other before)
  populated _ _ := List.ne_nil_of_mem List.mem_insert_self

/-- A peer is removed with its transports, and the room may be closed by that. -/
theorem removed (sound : room.Sound drawn) (routerOpen : Bool)
    (left : routerOpen = true → (room.without peerId).participants ≠ [])
    : Room.Sound drawn { room.without peerId with routerOpen := routerOpen } where
  owned transport member := by
    obtain ⟨before, other⟩ := List.mem_filter.mp member
    exact List.mem_filter.mpr ⟨sound.owned transport before, other⟩
  known transport member := sound.known transport (List.mem_filter.mp member).1
  entered other member := sound.entered other (List.mem_filter.mp member).1
  populated stillOpen _ := left stillOpen

end Room.Sound

/-- The map refers to open rooms of the right id, and all room objects are sound. -/
structure Media.Sound (media : Media) : Prop where
  registered
    : ∀ {roomId} {ref : Nat},
        media.rooms.lookup roomId = some ref →
          ∃ room, media.objects[ref]? = some room ∧ room.roomId = roomId ∧ room.routerOpen = true
  rooms : ∀ {ref : Nat} {room : Room}, media.objects[ref]? = some room → room.Sound media.drawn

namespace Media.Sound

variable {media : Media}

/-- Without rooms there is nothing to check. -/
theorem empty : Studio.empty.media.Sound where
  registered := by simp [Studio.empty]
  rooms := by simp [Studio.empty]

/-- The entry of the id now refers to the new room, whether or not there was another one. -/
theorem createRoom (sound : media.Sound) (roomId : Text)
    : (SfuService.createRoom media roomId).Sound where
  registered := by
    intro other ref found
    by_cases same : other = roomId
    · subst same
      cases Option.some.inj ((AList.lookup_insert _).symm.trans found)
      exact ⟨_, SfuService.createRoom_objects.mpr (Or.inr ⟨rfl, rfl⟩), rfl, rfl⟩
    · obtain ⟨room, there, facts⟩ :=
        sound.registered ((AList.lookup_insert_ne same).symm.trans found)
      exact ⟨room, SfuService.createRoom_objects.mpr (Or.inl there), facts⟩
  rooms := by
    intro ref room found
    rcases SfuService.createRoom_objects.mp found with there | ⟨_, rfl⟩
    · exact sound.rooms there
    · exact .fresh roomId

/-- The transport is added to one room, registered or not. -/
theorem createWebRtcTransport (sound : media.Sound) (ref : Nat) (peerId : SocketId)
    (transportId : Uuid)
    : (SfuService.createWebRtcTransport media ref peerId transportId).Sound where
  registered := by
    intro roomId other found
    obtain ⟨room, there, facts⟩ := sound.registered found
    by_cases same : other = ref
    · subst same
      exact ⟨room.add peerId transportId,
        SfuService.createWebRtcTransport_objects.mpr (Or.inr ⟨rfl, room, there, rfl⟩), facts⟩
    · exact ⟨room,
        SfuService.createWebRtcTransport_objects.mpr (Or.inl ⟨same, there⟩), facts⟩
  rooms := by
    intro other room found
    rcases SfuService.createWebRtcTransport_objects.mp found
      with ⟨_, there⟩ | ⟨_, before, there, rfl⟩
    · exact (sound.rooms there).mono transportId
    · exact (sound.rooms there).add

/-- A room that loses its last participant loses its entry, too. -/
theorem removeParticipant (sound : media.Sound) (roomId : Text) (peerId : SocketId)
    : (SfuService.removeParticipant media roomId peerId).Sound := by
  cases named : media.rooms.lookup roomId with
  | none => rwa [SfuService.removeParticipant_absent named]
  | some ref =>
      obtain ⟨room, there, right, isOpen⟩ := sound.registered named
      rw [SfuService.removeParticipant_found named there]
      split
      · next emptied =>
          constructor
          · intro other ref' found
            have apart : other ≠ roomId := by
              rintro rfl
              rw [AList.lookup_erase] at found
              cases found
            obtain ⟨room', there', right', isOpen'⟩ :=
              sound.registered (Storage.lookup_of_erase found)
            have different : ref' ≠ ref := by
              rintro rfl
              cases Option.some.inj (there.symm.trans there')
              exact apart (right'.symm.trans right)
            exact ⟨room', modify_some.mpr (Or.inl ⟨different, there'⟩), right', isOpen'⟩
          · intro other room' found
            rcases modify_some.mp found with ⟨_, there'⟩ | ⟨_, before, there', rfl⟩
            · exact sound.rooms there'
            · exact (sound.rooms there').removed false (by simp)
      · next left =>
          constructor
          · intro other ref' found
            obtain ⟨room', there', facts⟩ := sound.registered found
            by_cases same : ref' = ref
            · subst same
              exact ⟨room'.without peerId,
                modify_some.mpr (Or.inr ⟨rfl, room', there', rfl⟩), facts⟩
            · exact ⟨room', modify_some.mpr (Or.inl ⟨same, there'⟩), facts⟩
          · intro other room' found
            rcases modify_some.mp found with ⟨_, there'⟩ | ⟨_, before, there', rfl⟩
            · exact sound.rooms there'
            · cases Option.some.inj (there.symm.trans there')
              exact (sound.rooms there).removed room.routerOpen (fun _ => left)

/-- So every step of a handler keeps the rooms sound. -/
theorem turn {studio studio' : Studio} {input : Completion} {handler handler' : Handler}
    (sound : studio.media.Sound) (turn : Turn studio input handler studio' handler')
    : studio'.media.Sound := by
  cases turn with
  | joining media _ _ _ => exact media ▸ sound
  | opened => exact sound.createRoom _
  | failed => exact sound
  | added _ => exact sound.createWebRtcTransport _ _ _
  | unseated _ media _ _ => exact media ▸ sound
  | removed _ => exact sound.removeParticipant _ _
  | leaving media _ _ _ _ => exact media ▸ sound

end Media.Sound

-----------------------------------------------------------------------------------------
-- Where a room object comes from
-----------------------------------------------------------------------------------------

/-- What a removal leaves of a room. -/
structure Room.Within (room before : Room) : Prop where
  roomId : room.roomId = before.roomId
  transports : ∀ transport ∈ room.transports, transport ∈ before.transports
  participants : ∀ peerId ∈ room.participants, peerId ∈ before.participants
  routerOpen : room.routerOpen = true → before.routerOpen = true

namespace Room.Within

variable {room : Room} {peerId : SocketId}

theorem refl (room : Room) : room.Within room := ⟨rfl, fun _ => id, fun _ => id, id⟩

theorem without : (room.without peerId).Within room where
  roomId := rfl
  transports _ member := (List.mem_filter.mp member).1
  participants _ member := (List.mem_filter.mp member).1
  routerOpen := id

theorem close : (room.without peerId).close.Within room where
  roomId := rfl
  transports _ member := (List.mem_filter.mp member).1
  participants _ member := (List.mem_filter.mp member).1
  routerOpen closed := by cases closed

end Room.Within

/-- A removal takes the peer out of the room that the map names, and out of no other one. -/
theorem removeParticipant_within {media : Media} (sound : media.Sound) {roomId : Text}
    {peerId : SocketId} {ref : Nat} {room : Room}
    (found : (SfuService.removeParticipant media roomId peerId).objects[ref]? = some room)
    : ∃ before,
        media.objects[ref]? = some before
        ∧ room.Within before
        ∧ (media.rooms.lookup roomId = some ref → peerId ∉ room.participants) := by
  have gone (before : Room) : peerId ∉ (before.without peerId).participants := by
    simp [Room.without]
  cases named : media.rooms.lookup roomId with
  | none =>
      rw [SfuService.removeParticipant_absent named] at found
      exact ⟨room, found, .refl room, fun impossible => by cases impossible⟩
  | some target =>
      obtain ⟨old, there, _⟩ := sound.registered named
      rw [SfuService.removeParticipant_found named there] at found
      split at found
      · rcases modify_some.mp found with ⟨apart, same⟩ | ⟨rfl, before, same, rfl⟩
        · exact ⟨room, same, .refl room, fun this => absurd (Option.some.inj this).symm apart⟩
        · exact ⟨before, same, .close, fun _ => gone before⟩
      · rcases modify_some.mp found with ⟨apart, same⟩ | ⟨rfl, before, same, rfl⟩
        · exact ⟨room, same, .refl room, fun this => absurd (Option.some.inj this).symm apart⟩
        · exact ⟨before, same, .without, fun _ => gone before⟩

/-- A room object after a step is what is left of one before it, a new and empty one, or one
to which a handler has added the transport that it waited for. -/
theorem Turn.origin {studio studio' : Studio} {input : Completion} {handler handler' : Handler}
    (sound : studio.media.Sound) (turn : Turn studio input handler studio' handler')
    {ref : Nat} {room : Room} (found : studio'.media.objects[ref]? = some room)
    : (∃ before, studio.media.objects[ref]? = some before ∧ room.Within before)
      ∨ (∃ roomId, room = ⟨roomId, true, [], [], []⟩)
      ∨ ∃ socketId roomId transportId before,
          handler = .createTransport socketId roomId (.createWebRtcTransport ref)
          ∧ input = .transport transportId
          ∧ transportId ∉ studio.media.drawn
          ∧ studio.media.objects[ref]? = some before
          ∧ room = before.add socketId transportId := by
  cases turn with
  | joining media _ _ _ => exact Or.inl ⟨room, media ▸ found, .refl room⟩
  | opened =>
      rcases SfuService.createRoom_objects.mp found with before | ⟨_, rfl⟩
      · exact Or.inl ⟨room, before, .refl room⟩
      · exact Or.inr (Or.inl ⟨_, rfl⟩)
  | failed => exact Or.inl ⟨room, found, .refl room⟩
  | added fresh =>
      rcases SfuService.createWebRtcTransport_objects.mp found
        with ⟨_, before⟩ | ⟨rfl, before, there, rfl⟩
      · exact Or.inl ⟨room, before, .refl room⟩
      · exact Or.inr (Or.inr ⟨_, _, _, before, rfl, rfl, fresh, there, rfl⟩)
  | unseated _ media _ _ => exact Or.inl ⟨room, media ▸ found, .refl room⟩
  | removed _ =>
      obtain ⟨before, there, within, _⟩ := removeParticipant_within sound found
      exact Or.inl ⟨before, there, within⟩
  | leaving media _ _ _ _ => exact Or.inl ⟨room, media ▸ found, .refl room⟩

/-- The ids drawn so far stay drawn. -/
theorem Turn.drawn {studio studio' : Studio} {input : Completion} {handler handler' : Handler}
    (turn : Turn studio input handler studio' handler') {transportId : Uuid}
    (known : transportId ∈ studio.media.drawn)
    : transportId ∈ studio'.media.drawn := by
  cases turn with
  | joining media _ _ _ => exact media ▸ known
  | opened => exact known
  | failed => exact known
  | added _ => exact List.mem_cons_of_mem _ known
  | unseated _ media _ _ => exact media ▸ known
  | removed _ =>
      dsimp only
      unfold SfuService.removeParticipant
      split
      · exact known
      · split
        · exact known
        · exact known
  | leaving media _ _ _ _ => exact media ▸ known

/-- In every interleaving, the rooms are sound. -/
theorem Media.Sound.reaches {moves : List (Move Handler Completion)}
    {pool : Pool Studio Handler} (run : studioMachine.Reaches moves pool)
    : pool.shared.media.Sound := by
  refine run.invariant (fun pool => pool.shared.media.Sound) Media.Sound.empty ?_
  intro pool move next sound moved
  cases move with
  | start handler =>
      have arrival := Handler.start_arrival (studioProgram.move_start_some moved).1
      exact arrival.media ▸ sound
  | step index input =>
      obtain ⟨handler, handler', _, ran, _⟩ := studioProgram.move_step_some moved
      exact sound.turn (Handler.step_turn ran)

end NexusComms.Sfu
