import NexusComms.Sfu.Soundness

/-! One room per id. `createRoom` puts its room into the map without looking again, and
`createWebRtcTransport` adds its transport to the room that it has found before its await. The
entry of a room is never replaced, and the transports that clients are told about are found,
exactly in the runs in which the map has not changed meanwhile.
-/

namespace NexusComms.Sfu

open Concurrency Signaling

/-- The room that a handler is about to create. -/
def Handler.opening : Handler → Option Text
  | .join _ roomId .createRouter => some roomId
  | _ => none

/-- The room id and the room object of a transport that a handler waits for. -/
def Handler.adding : Handler → Option (Text × Nat)
  | .createTransport _ roomId (.createWebRtcTransport room) => some (roomId, room)
  | _ => none

/-- A router comes for a room that does not exist yet, and a transport for a connected socket
comes while the room found before is still the one in the map. -/
def CompletesInPlace (pool : Pool Studio Handler) : Move Handler Completion → Prop
  | .start _ => True
  | .step index input =>
      ∀ handler ∈ pool.threads[index]?, input ≠ .failed →
        (∀ roomId ∈ handler.opening, pool.shared.media.rooms.lookup roomId = none)
        ∧ ∀ pending ∈ handler.adding,
            pool.shared.connected handler.socketId = true →
              pool.shared.media.rooms.lookup pending.1 = some pending.2

instance (pool : Pool Studio Handler)
    : (move : Move Handler Completion) → Decidable (CompletesInPlace pool move)
  | .start _ => isTrue trivial
  | .step index input =>
      inferInstanceAs
        (Decidable
          (∀ handler ∈ pool.threads[index]?, input ≠ .failed →
            (∀ roomId ∈ handler.opening, pool.shared.media.rooms.lookup roomId = none)
            ∧ ∀ pending ∈ handler.adding,
                pool.shared.connected handler.socketId = true →
                  pool.shared.media.rooms.lookup pending.1 = some pending.2))

/-- The entry of a room id stays the same, or it is deleted. -/
def RoomsKept (before after : Pool Studio Handler) : Prop :=
  ∀ roomId ref,
    before.shared.media.rooms.lookup roomId = some ref →
      after.shared.media.rooms.lookup roomId = some ref
      ∨ after.shared.media.rooms.lookup roomId = none

/-- Every open router is that of a room in the map, so that a room id has one at most. -/
def Media.OneRouter (media : Media) : Prop :=
  ∀ (ref : Nat) (room : Room),
    media.objects[ref]? = some room → room.routerOpen = true →
      media.rooms.lookup room.roomId = some ref

/-- A room id has one open router at most, and a transport id that was returned to a socket
that is still connected is found by `connectTransport` and `produce`. -/
structure OneRoomPerId (pool : Pool Studio Handler) : Prop where
  routers : pool.shared.media.OneRouter
  transports
    : ∀ {index : Nat} {socketId roomId transportId},
        pool.threads[index]?
          = some (.createTransport socketId roomId (.returned transportId)) →
          pool.shared.connected socketId = true →
            SfuService.connectTransport pool.shared.media roomId transportId = .ok ()
            ∧ SfuService.produce pool.shared.media roomId transportId = .ok ()

/-- A transport is found in the room that the map names. -/
theorem findTransport_iff {media : Media} {roomId : Text} {transportId : Uuid}
    : SfuService.findTransport media roomId transportId = .ok ()
      ↔ ∃ ref room peerId,
          media.rooms.lookup roomId = some ref
          ∧ media.objects[ref]? = some room
          ∧ (peerId, transportId) ∈ room.transports := by
  unfold SfuService.findTransport
  cases named : media.rooms.lookup roomId with
  | none => simp
  | some ref =>
      cases found : media.objects[ref]? with
      | none => simp [found]
      | some room =>
          simp only [Option.bind_some, found, List.any_eq_true, decide_eq_true_eq]
          split
          · next present =>
              obtain ⟨⟨peerId, id⟩, member, rfl⟩ := present
              simpa [found] using ⟨peerId, member⟩
          · next absent =>
              refine iff_of_false (by simp) ?_
              rintro ⟨other, room', peerId, same, there, member⟩
              cases Option.some.inj same
              cases Option.some.inj (found.symm.trans there)
              exact absent ⟨_, member, rfl⟩

-----------------------------------------------------------------------------------------
-- What every interleaving keeps
-----------------------------------------------------------------------------------------

/-- A transport id that was drawn for a socket alone. -/
structure Studio.DrawnFor (studio : Studio) (socketId : SocketId) (transportId : Uuid) : Prop where
  known : transportId ∈ studio.media.drawn
  own
    : ∀ {ref : Nat} {room : Room} {peerId},
        studio.media.objects[ref]? = some room → (peerId, transportId) ∈ room.transports →
          peerId = socketId

/-- A returned transport id was drawn for its socket alone, and a socket whose
`handleDisconnect` has started is not connected. -/
def Traced (studio : Studio) : Handler → Prop
  | .createTransport socketId _ stage =>
      socketId ∈ studio.used
      ∧ ∀ transportId, stage = .returned transportId → studio.DrawnFor socketId transportId
  | .disconnect socketId _ => socketId ∈ studio.used ∧ studio.connected socketId = false
  | _ => True

/-- No transport is returned before its await. -/
theorem SignalingGateway.createTransport_waits (studio : Studio) (roomId : Text)
    (transportId : Uuid)
    : SignalingGateway.createTransport studio roomId ≠ .returned transportId := by
  unfold SignalingGateway.createTransport
  split
  · exact TransportStage.noConfusion
  · exact TransportStage.noConfusion

section

variable {studio studio' : Studio} {input : Completion} {handler handler' other : Handler}

/-- A step of one handler does not disturb what is known of the others: new transports have
new ids. -/
theorem Traced.turn (sound : studio.media.Sound)
    (turn : Turn studio input handler studio' handler') (traced : Traced studio other)
    : Traced studio' other := by
  obtain ⟨connected, used⟩ := turn.connections
  cases other with
  | connect _ => trivial
  | join _ _ _ => trivial
  | disconnect socketId stage => exact ⟨used ▸ traced.1, connected ▸ traced.2⟩
  | createTransport socketId roomId stage =>
      refine ⟨used ▸ traced.1, fun transportId returned => ?_⟩
      obtain ⟨known, own⟩ := traced.2 transportId returned
      refine ⟨turn.drawn known, fun {ref room peerId} found member => ?_⟩
      rcases turn.origin sound found
        with ⟨before, there, within⟩ | ⟨_, rfl⟩ | ⟨_, _, added, before, _, _, fresh, there, rfl⟩
      · exact own there (within.transports _ member)
      · cases member
      · rcases List.mem_append.mp member with old | new
        · exact own there old
        · cases List.mem_singleton.mp new
          exact absurd known fresh

/-- A transport that has just been returned has an id that no other transport has. -/
theorem Traced.own (sound : studio.media.Sound)
    (turn : Turn studio input handler studio' handler') (traced : Traced studio handler)
    : Traced studio' handler' := by
  cases turn with
  | joining _ _ _ _ => trivial
  | opened => trivial
  | failed => exact ⟨traced.1, fun _ returned => by cases returned⟩
  | @added socketId roomId ref transportId fresh =>
      refine ⟨traced.1, fun _ returned => ?_⟩
      cases returned
      refine ⟨List.mem_cons_self, fun {other room peerId} found member => ?_⟩
      rcases SfuService.createWebRtcTransport_objects.mp found
        with ⟨_, there⟩ | ⟨_, before, there, rfl⟩
      · exact absurd ((sound.rooms there).known _ member) fresh
      · rcases List.mem_append.mp member with old | new
        · exact absurd ((sound.rooms there).known _ old) fresh
        · cases List.mem_singleton.mp new
          rfl
  | unseated _ _ connected used => exact ⟨used ▸ traced.1, connected ▸ traced.2⟩
  | removed _ => exact traced
  | leaving _ connected used _ _ => exact ⟨used ▸ traced.1, connected ▸ traced.2⟩

/-- An arriving event does not disturb what is known of the handlers, since a socket id is
not used again. -/
theorem Traced.arrival (arrival : Arrival studio handler studio') (traced : Traced studio other)
    : Traced studio' other := by
  cases other with
  | connect _ => trivial
  | join _ _ _ => trivial
  | createTransport socketId roomId stage =>
      refine ⟨(arrival.connections socketId).1 traced.1, fun transportId returned => ?_⟩
      obtain ⟨known, own⟩ := traced.2 transportId returned
      exact ⟨arrival.media ▸ known, arrival.media ▸ own⟩
  | disconnect socketId stage =>
      exact ⟨(arrival.connections socketId).1 traced.1, arrival.gone traced.1 traced.2⟩

end

/-- The rooms are sound, and connected sockets have used ids. -/
def Studio.Kept (studio : Studio) : Prop :=
  studio.media.Sound ∧ ∀ socketId, studio.connected socketId = true → socketId ∈ studio.used

/-- All handlers are traced in every interleaving. -/
theorem traced_outline
    : studioProgram.Outline Studio.Kept
        (fun studio _ slot => ∀ handler ∈ slot, Traced studio handler) where
  start := by
    intro studio studio' index handler kept _ started
    have arrival := Handler.start_arrival started
    refine ⟨⟨arrival.media ▸ kept.1, fun socketId now => ?_⟩, ?_, ?_⟩
    · obtain ⟨stays, before⟩ := arrival.connections socketId
      rcases before now with was | ⟨_, known⟩
      · exact stays (kept.2 socketId was)
      · exact known
    · rintro _ ⟨rfl⟩
      cases arrival with
      | connect _ => trivial
      | join _ _ _ => trivial
      | createTransport was =>
          refine ⟨kept.2 _ was, fun transportId returned => ?_⟩
          exact absurd returned (SignalingGateway.createTransport_waits _ _ _)
      | disconnect was => exact ⟨kept.2 _ was, Function.update_self _ _ _⟩
    · intro _ slot _ traced other member
      exact (traced other member).arrival arrival
  step := by
    intro studio studio' index input handler handler' kept traced ran
    have turn := Handler.step_turn ran
    obtain ⟨connected, used⟩ := turn.connections
    refine ⟨⟨kept.1.turn turn, ?_⟩, ?_, ?_⟩
    · rw [connected, used]
      exact kept.2
    · rintro _ ⟨rfl⟩
      exact Traced.own kept.1 turn (traced handler rfl)
    · intro _ slot _ others other member
      exact (others other member).turn kept.1 turn

/-- What every interleaving keeps. -/
abbrev TracedPool : Pool Studio Handler → Prop :=
  Program.Holds Studio.Kept (fun studio _ slot => ∀ handler ∈ slot, Traced studio handler)

theorem TracedPool.init : TracedPool studioMachine.init :=
  Program.Holds.init ⟨Media.Sound.empty, fun _ now => by cases now⟩
    (fun _ _ member => by cases member)

-----------------------------------------------------------------------------------------
-- What each operation does to the routers and to what is found
-----------------------------------------------------------------------------------------

section

variable {media : Media} {roomId other : Text} {peerId socketId : SocketId}
  {transportId id : Uuid} {ref : Nat}

/-- A room that has no entry can be opened. -/
theorem Media.OneRouter.createRoom (one : media.OneRouter)
    (absent : media.rooms.lookup roomId = none)
    : (SfuService.createRoom media roomId).OneRouter := by
  intro ref room found isOpen
  rcases SfuService.createRoom_objects.mp found with there | ⟨rfl, rfl⟩
  · have before := one _ _ there isOpen
    have apart : room.roomId ≠ roomId := by
      intro same
      rw [same, absent] at before
      cases before
    exact (AList.lookup_insert_ne apart).trans before
  · exact AList.lookup_insert _

/-- A transport opens no router. -/
theorem Media.OneRouter.createWebRtcTransport (one : media.OneRouter)
    : (SfuService.createWebRtcTransport media ref peerId transportId).OneRouter := by
  intro other room found isOpen
  rcases SfuService.createWebRtcTransport_objects.mp found
    with ⟨_, there⟩ | ⟨rfl, before, there, rfl⟩
  · exact one _ _ there isOpen
  · have same : media.rooms.lookup before.roomId = some other := one _ _ there isOpen
    exact same

/-- A room that loses its entry is closed. -/
theorem Media.OneRouter.removeParticipant (one : media.OneRouter) (sound : media.Sound)
    : (SfuService.removeParticipant media roomId peerId).OneRouter := by
  cases named : media.rooms.lookup roomId with
  | none => rwa [SfuService.removeParticipant_absent named]
  | some target =>
      obtain ⟨old, present, _⟩ := sound.registered named
      intro ref room found isOpen
      rw [SfuService.removeParticipant_found named present] at found ⊢
      split at found
      · next emptied =>
          rw [if_pos emptied]
          rcases modify_some.mp found with ⟨apart, there⟩ | ⟨_, before, _, rfl⟩
          · have before := one _ _ there isOpen
            have different : room.roomId ≠ roomId := by
              intro same
              rw [same, named] at before
              exact apart (Option.some.inj before).symm
            exact (AList.lookup_erase_ne different).trans before
          · cases isOpen
      · next left =>
          rw [if_neg left]
          rcases modify_some.mp found with ⟨_, there⟩ | ⟨rfl, before, there, rfl⟩
          · exact one _ _ there isOpen
          · have same : media.rooms.lookup before.roomId = some ref := one _ _ there isOpen
            exact same

/-- Opening a room that has no entry hides no transport. -/
theorem finds_createRoom (absent : media.rooms.lookup roomId = none)
    (finds : SfuService.findTransport media other transportId = .ok ())
    : SfuService.findTransport (SfuService.createRoom media roomId) other transportId
      = .ok () := by
  obtain ⟨ref, room, peerId, named, found, member⟩ := findTransport_iff.mp finds
  have apart : other ≠ roomId := by
    rintro rfl
    cases absent.symm.trans named
  exact findTransport_iff.mpr
    ⟨ref, room, peerId, (AList.lookup_insert_ne apart).trans named,
      SfuService.createRoom_objects.mpr (Or.inl found), member⟩

/-- Adding a transport hides no other one. -/
theorem finds_createWebRtcTransport
    (finds : SfuService.findTransport media other id = .ok ())
    : SfuService.findTransport
        (SfuService.createWebRtcTransport media ref peerId transportId) other id
      = .ok () := by
  obtain ⟨found, room, owner, named, there, member⟩ := findTransport_iff.mp finds
  by_cases same : found = ref
  · subst same
    exact findTransport_iff.mpr
      ⟨found, room.add peerId transportId, owner, named,
        SfuService.createWebRtcTransport_objects.mpr (Or.inr ⟨rfl, room, there, rfl⟩),
        List.mem_append_left _ member⟩
  · exact findTransport_iff.mpr
      ⟨found, room, owner, named,
        SfuService.createWebRtcTransport_objects.mpr (Or.inl ⟨same, there⟩), member⟩

/-- A transport is found after it has been added exactly if the map still names the room that
it has been added to. -/
theorem finds_added_iff (sound : media.Sound) (fresh : transportId ∉ media.drawn)
    : SfuService.findTransport
          (SfuService.createWebRtcTransport media ref peerId transportId) roomId transportId
        = .ok ()
      ↔ media.rooms.lookup roomId = some ref := by
  constructor
  · intro finds
    obtain ⟨found, room, owner, named, there, member⟩ := findTransport_iff.mp finds
    rcases SfuService.createWebRtcTransport_objects.mp there with ⟨_, before⟩ | ⟨rfl, _⟩
    · exact absurd ((sound.rooms before).known _ member) fresh
    · exact named
  · intro named
    obtain ⟨room, there, _⟩ := sound.registered named
    exact findTransport_iff.mpr
      ⟨ref, room.add peerId transportId, peerId, named,
        SfuService.createWebRtcTransport_objects.mpr (Or.inr ⟨rfl, room, there, rfl⟩),
        List.mem_append_right _ (List.mem_singleton_self _)⟩

/-- Removing a peer hides no transport of another one: that one is still in the room, which
therefore stays open. -/
theorem finds_removeParticipant (sound : media.Sound)
    (own
      : ∀ {ref : Nat} {room : Room} {owner},
          media.objects[ref]? = some room → (owner, transportId) ∈ room.transports →
            owner = socketId)
    (apart : socketId ≠ peerId)
    (finds : SfuService.findTransport media other transportId = .ok ())
    : SfuService.findTransport (SfuService.removeParticipant media roomId peerId) other
        transportId
      = .ok () := by
  obtain ⟨ref, room, owner, named, found, member⟩ := findTransport_iff.mp finds
  cases own found member
  cases target : media.rooms.lookup roomId with
  | none => rwa [SfuService.removeParticipant_absent target]
  | some removed =>
      obtain ⟨old, present, right, _⟩ := sound.registered target
      rw [SfuService.removeParticipant_found target present]
      by_cases same : ref = removed
      · subst same
        cases Option.some.inj (found.symm.trans present)
        have stays : socketId ∈ (room.without peerId).participants :=
          List.mem_filter.mpr
            ⟨(sound.rooms found).owned _ member, by simpa using apart⟩
        have kept : (socketId, transportId) ∈ (room.without peerId).transports :=
          List.mem_filter.mpr ⟨member, by simpa using apart⟩
        rw [if_neg (List.ne_nil_of_mem stays)]
        exact findTransport_iff.mpr
          ⟨ref, room.without peerId, socketId, named,
            modify_some.mpr (Or.inr ⟨rfl, room, found, rfl⟩), kept⟩
      · have different : other ≠ roomId := by
          rintro rfl
          exact same (Option.some.inj (named.symm.trans target))
        split
        · exact findTransport_iff.mpr
            ⟨ref, room, socketId, (AList.lookup_erase_ne different).trans named,
              modify_some.mpr (Or.inl ⟨same, found⟩), member⟩
        · exact findTransport_iff.mpr
            ⟨ref, room, socketId, named, modify_some.mpr (Or.inl ⟨same, found⟩), member⟩

end

-----------------------------------------------------------------------------------------
-- Runs
-----------------------------------------------------------------------------------------

/-- The handler of one thread has moved on, the others are where they were. -/
theorem threads_set {threads : List Handler} {index other : Nat} {after handler : Handler}
    (found : (threads.set index after)[other]? = some handler)
    : (other = index ∧ handler = after) ∨ threads[other]? = some handler := by
  by_cases same : index = other
  · subst same
    rw [List.getElem?_set_self'] at found
    obtain ⟨_, _, rfl⟩ := Option.map_eq_some_iff.mp found
    exact Or.inl ⟨rfl, rfl⟩
  · exact Or.inr ((List.getElem?_set_ne same).symm.trans found)

/-- Removing a participant leaves the entries of all other rooms. -/
theorem removeParticipant_entries (media : Media) (roomId : Text) (peerId : SocketId)
    (other : Text)
    : (SfuService.removeParticipant media roomId peerId).rooms.lookup other
        = media.rooms.lookup other
      ∨ (SfuService.removeParticipant media roomId peerId).rooms.lookup other = none := by
  unfold SfuService.removeParticipant
  split
  · exact Or.inl rfl
  · split
    · by_cases same : other = roomId
      · subst same
        exact Or.inr (AList.lookup_erase _ _)
      · exact Or.inl (AList.lookup_erase_ne same)
    · exact Or.inl rfl

/-- No handler starts with a transport. -/
theorem Arrival.waits {studio studio' : Studio} {handler : Handler}
    (arrival : Arrival studio handler studio') (socketId : SocketId) (roomId : Text)
    (transportId : Uuid)
    : handler ≠ .createTransport socketId roomId (.returned transportId) := by
  cases arrival with
  | connect _ => exact Handler.noConfusion
  | join _ _ _ => exact Handler.noConfusion
  | createTransport _ =>
      intro same
      exact SignalingGateway.createTransport_waits studio _ transportId
        (Handler.createTransport.inj same).2.2
  | disconnect _ => exact Handler.noConfusion

/-- An arriving event keeps everything; its own handler has returned no transport yet. -/
theorem OneRoomPerId.arrival {pool next : Pool Studio Handler} {handler : Handler}
    (traced : TracedPool pool) (one : OneRoomPerId pool)
    (arrival : Arrival pool.shared handler next.shared)
    (threads : next.threads = pool.threads ++ [handler])
    : RoomsKept pool next ∧ OneRoomPerId next := by
  refine ⟨fun roomId ref named => Or.inl ?_, arrival.media ▸ one.routers, ?_⟩
  · rwa [arrival.media]
  · intro index socketId roomId transportId returned now
    rw [threads] at returned
    rw [arrival.media]
    rcases List.mem_append.mp (List.mem_of_getElem? returned) with old | new
    · obtain ⟨before, there⟩ := List.mem_iff_getElem?.mp old
      rcases (arrival.connections socketId).2 now with was | ⟨fresh, _⟩
      · exact one.transports there was
      · exact absurd (traced.2 before _ there).1 fresh
    · cases List.mem_singleton.mp new
      exact absurd rfl (arrival.waits socketId roomId transportId)

/-- A step that returns no transport keeps what was returned, if it hides no transport of a
connected socket. -/
theorem OneRoomPerId.silent {pool next : Pool Studio Handler} {index : Nat}
    {handler' : Handler} (traced : TracedPool pool) (one : OneRoomPerId pool)
    (connected : next.shared.connected = pool.shared.connected)
    (threads : next.threads = pool.threads.set index handler')
    (returnsNone
      : ∀ socketId roomId transportId,
          handler' ≠ .createTransport socketId roomId (.returned transportId))
    (routers : next.shared.media.OneRouter)
    (finds
      : ∀ {socketId roomId transportId},
          pool.shared.connected socketId = true → pool.shared.DrawnFor socketId transportId →
            SfuService.findTransport pool.shared.media roomId transportId = .ok () →
              SfuService.findTransport next.shared.media roomId transportId = .ok ())
    : OneRoomPerId next := by
  refine ⟨routers, fun {other socketId roomId transportId} returned now => ?_⟩
  rw [threads] at returned
  rcases threads_set returned with ⟨_, same⟩ | there
  · exact absurd same.symm (returnsNone socketId roomId transportId)
  · rw [connected] at now
    have drawn := (traced.2 other _ there).2 transportId rfl
    have before := (one.transports there now).1
    exact ⟨finds now drawn before, finds now drawn before⟩

/-- What a completed `createRouter` keeps. -/
theorem OneRoomPerId.opened_iff {pool next : Pool Studio Handler} {index : Nat}
    {socketId : SocketId} {roomId : Text} (traced : TracedPool pool) (one : OneRoomPerId pool)
    (shared
      : next.shared
        = { pool.shared with media := SfuService.createRoom pool.shared.media roomId })
    (threads
      : next.threads = pool.threads.set index (.join socketId roomId .logCreated))
    : (RoomsKept pool next ∧ OneRoomPerId next)
      ↔ pool.shared.media.rooms.lookup roomId = none := by
  have entry : next.shared.media.rooms.lookup roomId = some pool.shared.media.objects.length := by
    rw [shared]
    exact AList.lookup_insert _
  constructor
  · rintro ⟨kept, _⟩
    cases was : pool.shared.media.rooms.lookup roomId with
    | none => rfl
    | some ref =>
        obtain ⟨room, there, _⟩ := traced.1.1.registered was
        have bound := (List.getElem?_eq_some_iff.mp there).1
        rcases kept roomId ref was with same | deleted
        · cases Option.some.inj (entry.symm.trans same)
          exact absurd bound (Nat.lt_irrefl _)
        · cases entry.symm.trans deleted
  · intro absent
    refine ⟨fun other ref named => Or.inl ?_, ?_⟩
    · have apart : other ≠ roomId := by
        rintro rfl
        cases absent.symm.trans named
      rw [shared]
      exact (AList.lookup_insert_ne apart).trans named
    · refine one.silent traced (by rw [shared]) threads (fun _ _ _ => Handler.noConfusion) ?_ ?_
      · rw [shared]
        exact one.routers.createRoom absent
      · intro _ other transportId _ _ finds
        rw [shared]
        exact finds_createRoom absent finds

/-- What a completed `createWebRtcTransport` keeps. -/
theorem OneRoomPerId.added_iff {pool next : Pool Studio Handler} {index ref : Nat}
    {socketId : SocketId} {roomId : Text} {transportId : Uuid} (traced : TracedPool pool)
    (one : OneRoomPerId pool) (bound : index < pool.threads.length)
    (fresh : transportId ∉ pool.shared.media.drawn)
    (shared
      : next.shared
        = {
            pool.shared with
            media :=
              SfuService.createWebRtcTransport pool.shared.media ref socketId transportId
          })
    (threads
      : next.threads
        = pool.threads.set index (.createTransport socketId roomId (.returned transportId)))
    : (RoomsKept pool next ∧ OneRoomPerId next)
      ↔ (pool.shared.connected socketId = true →
          pool.shared.media.rooms.lookup roomId = some ref) := by
  have found
      : SfuService.findTransport next.shared.media roomId transportId = .ok ()
        ↔ pool.shared.media.rooms.lookup roomId = some ref := by
    rw [shared]
    exact finds_added_iff traced.1.1 fresh
  have own
      : next.threads[index]?
        = some (.createTransport socketId roomId (.returned transportId)) := by
    rw [threads]
    exact List.getElem?_set_self bound
  have connected : next.shared.connected = pool.shared.connected := by rw [shared]
  constructor
  · rintro ⟨_, after⟩ now
    exact found.mp (after.transports own (connected ▸ now)).1
  · intro named
    refine ⟨fun other target entry => Or.inl (by rw [shared]; exact entry), ?_, ?_⟩
    · rw [shared]
      exact one.routers.createWebRtcTransport
    · intro other socketId' roomId' transportId' returned now
      rw [connected] at now
      rw [threads] at returned
      rcases threads_set returned with ⟨_, same⟩ | there
      · cases same
        exact ⟨found.mpr (named now), found.mpr (named now)⟩
      · have before := (one.transports there now).1
        have still
            : SfuService.findTransport next.shared.media roomId' transportId' = .ok () := by
          rw [shared]
          exact finds_createWebRtcTransport before
        exact ⟨still, still⟩

/-- A step that changes no room and returns no transport keeps everything. -/
theorem OneRoomPerId.of_media {pool next : Pool Studio Handler} {index : Nat}
    {handler' : Handler} (traced : TracedPool pool) (one : OneRoomPerId pool)
    (media : next.shared.media = pool.shared.media)
    (connected : next.shared.connected = pool.shared.connected)
    (threads : next.threads = pool.threads.set index handler')
    (returnsNone
      : ∀ socketId roomId transportId,
          handler' ≠ .createTransport socketId roomId (.returned transportId))
    : RoomsKept pool next ∧ OneRoomPerId next := by
  refine ⟨fun roomId ref named => Or.inl (media ▸ named), ?_⟩
  exact one.silent traced connected threads returnsNone (media ▸ one.routers)
    (fun _ _ finds => media ▸ finds)

/-- A step keeps the entries and what is found exactly if what it completes is still in place,
by what the step does. -/
theorem OneRoomPerId.turn_iff {pool next : Pool Studio Handler} {index : Nat}
    {input : Completion} {handler handler' : Handler} (traced : TracedPool pool)
    (one : OneRoomPerId pool) (running : pool.threads[index]? = some handler)
    (turn : Turn pool.shared input handler next.shared handler')
    (threads : next.threads = pool.threads.set index handler')
    : (RoomsKept pool next ∧ OneRoomPerId next)
      ↔ CompletesInPlace pool (.step index input) := by
  have meets
      : CompletesInPlace pool (.step index input)
        ↔ (input ≠ .failed →
            (∀ roomId ∈ handler.opening, pool.shared.media.rooms.lookup roomId = none)
            ∧ ∀ pending ∈ handler.adding,
                pool.shared.connected handler.socketId = true →
                  pool.shared.media.rooms.lookup pending.1 = some pending.2) := by
    simp only [CompletesInPlace, running, Option.mem_def, Option.some.injEq, forall_eq']
  rw [meets]
  generalize same : next.shared = studio at turn
  cases turn with
  | @joining socketId roomId _ stage _ stage' media connected used waits =>
      refine iff_of_true
        (one.of_media traced (same ▸ media) (same ▸ connected) threads
          (fun _ _ _ => Handler.noConfusion))
        (fun succeeds => ⟨fun roomId' opening => ?_, fun _ none => (by cases none)⟩)
      cases stage with
      | createRouter => exact absurd rfl (waits succeeds)
      | logCreated => cases opening
      | joinRoom => cases opening
      | logJoined => cases opening
      | returned => cases opening
      | failed => cases opening
  | opened =>
      rw [one.opened_iff traced same threads]
      simp [Handler.opening, Handler.adding]
  | failed =>
      exact iff_of_true
        (one.of_media traced (by rw [same]) (by rw [same]) threads
          (fun _ _ _ same => by cases same))
        (fun succeeds => absurd rfl succeeds)
  | added fresh =>
      rw [one.added_iff traced (List.getElem?_eq_some_iff.mp running).1 fresh same threads]
      simp [Handler.opening, Handler.adding, Handler.socketId]
  | unseated _ media connected _ =>
      exact iff_of_true
        (one.of_media traced (same ▸ media) (same ▸ connected) threads
          (fun _ _ _ => Handler.noConfusion))
        (fun _ => ⟨fun _ none => (by cases none), fun _ none => (by cases none)⟩)
  | @removed peerId roomId seat =>
      refine iff_of_true ⟨?_, ?_⟩
        (fun _ => ⟨fun _ none => (by cases none), fun _ none => (by cases none)⟩)
      · intro other ref named
        rw [same]
        rcases removeParticipant_entries pool.shared.media roomId peerId other with kept | gone
        · exact Or.inl (kept.trans named)
        · exact Or.inr gone
      · have gone : pool.shared.connected peerId = false := (traced.2 index _ running).2
        refine one.silent traced (by rw [same]) threads (fun _ _ _ => Handler.noConfusion) ?_ ?_
        · rw [same]
          exact one.routers.removeParticipant traced.1.1
        · intro socketId other transportId now drawn finds
          have apart : socketId ≠ peerId := by
            rintro rfl
            cases now.symm.trans gone
          rw [same]
          exact finds_removeParticipant traced.1.1 drawn.own apart finds
  | leaving media connected _ _ _ =>
      exact iff_of_true
        (one.of_media traced (same ▸ media) (same ▸ connected) threads
          (fun _ _ _ => Handler.noConfusion))
        (fun _ => ⟨fun _ none => (by cases none), fun _ none => (by cases none)⟩)

/-- A move keeps the entries and what is found exactly if it completes in place. -/
theorem OneRoomPerId.move_iff {pool next : Pool Studio Handler}
    {move : Move Handler Completion} (traced : TracedPool pool) (one : OneRoomPerId pool)
    (moved : studioProgram.move pool move = some next)
    : (RoomsKept pool next ∧ OneRoomPerId next) ↔ CompletesInPlace pool move := by
  cases move with
  | start handler =>
      obtain ⟨started, threads⟩ := studioProgram.move_start_some moved
      exact iff_of_true (one.arrival traced (Handler.start_arrival started) threads) trivial
  | step index input =>
      obtain ⟨handler, handler', running, ran, threads⟩ := studioProgram.move_step_some moved
      exact one.turn_iff traced running (Handler.step_turn ran) threads

/-- The entries of rooms are never replaced, and returned transports are found, exactly in the
runs whose routers and transports all complete in place. -/
theorem one_room_per_id {moves : List (Move Handler Completion)} {pool : Pool Studio Handler}
    (run : studioMachine.Reaches moves pool)
    : (studioMachine.EachStep RoomsKept studioMachine.init moves
        ∧ studioMachine.Throughout OneRoomPerId studioMachine.init moves)
      ↔ studioMachine.Along CompletesInPlace studioMachine.init moves := by
  have start : OneRoomPerId studioMachine.init := by
    refine ⟨?_, ?_⟩
    · intro ref room found
      cases found
    · intro index socketId roomId transportId found
      cases found
  refine studioMachine.eachStep_throughout_iff_along TracedPool ?_ ?_ TracedPool.init start run
  · intro pool move next traced moved
    exact traced_outline.move traced moved
  · intro pool move next traced one moved
    exact one.move_iff traced moved

/-- Two sockets connect. -/
def twoConnect : List (Move Handler Completion) :=
  [.start (.connect 1), .start (.connect 2)]

/-- The first socket opens a room and gets a transport there, and so does the second one. -/
def oneAfterTheOther : List (Move Handler Completion) :=
  twoConnect
  ++ [.start (.join 1 (.other 0) .createRouter)]
  ++ List.replicate 4 (.step 2 .done)
  ++ [.start (.createTransport 1 (.other 0) (.createWebRtcTransport 0)),
      .step 3 (.transport 7),
      .start (.join 2 (.other 0) .joinRoom),
      .start (.createTransport 2 (.other 0) (.createWebRtcTransport 0)),
      .step 5 (.transport 8)]

/-- Both sockets join at once. The first one gets a transport before the router that the
second one has asked for is there. -/
def bothOpen : List (Move Handler Completion) :=
  twoConnect
  ++ [.start (.join 1 (.other 0) .createRouter), .start (.join 2 (.other 0) .createRouter)]
  ++ List.replicate 4 (.step 2 .done)
  ++ [.start (.createTransport 1 (.other 0) (.createWebRtcTransport 0)),
      .step 4 (.transport 7),
      .step 3 .done]

/-- The state after a run. -/
def studioAfter (moves : List (Move Handler Completion)) : Pool Studio Handler :=
  (studioMachine.exec studioMachine.init moves).getD ⟨.empty, []⟩

theorem one_room_per_id_two
    : (studioAfter oneAfterTheOther).shared.media.rooms.lookup (.other 0) = some 0
      ∧ studioMachine.EachStep RoomsKept studioMachine.init oneAfterTheOther
      ∧ studioMachine.Throughout OneRoomPerId studioMachine.init oneAfterTheOther := by
  have run : studioMachine.Reaches oneAfterTheOther (studioAfter oneAfterTheOther) := rfl
  have inPlace
      : studioMachine.Along CompletesInPlace studioMachine.init oneAfterTheOther := by
    decide
  exact ⟨by decide, (one_room_per_id run).mpr inPlace⟩

/-- When two routers are created for one room, the room of a client is replaced while the
client is connected, and its transport is not found any more. -/
theorem joined_at_once
    : studioMachine.Reaches bothOpen (studioAfter bothOpen)
      ∧ (studioAfter bothOpen).shared.connected 1 = true
      ∧ (studioAfter bothOpen).threads[4]?
        = some (.createTransport 1 (.other 0) (.returned 7))
      ∧ SfuService.connectTransport (studioAfter bothOpen).shared.media (.other 0) 7
        = .error (.transportNotFound 7)
      ∧ ¬ ∀ moves pool,
          studioMachine.Reaches moves pool →
            studioMachine.EachStep RoomsKept studioMachine.init moves
            ∧ studioMachine.Throughout OneRoomPerId studioMachine.init moves := by
  have run : studioMachine.Reaches bothOpen (studioAfter bothOpen) := rfl
  refine ⟨run, by decide, by decide, by decide, fun always => ?_⟩
  have replaced : ¬ studioMachine.Along CompletesInPlace studioMachine.init bothOpen := by decide
  exact replaced ((one_room_per_id run).mp (always bothOpen _ run))

end NexusComms.Sfu
