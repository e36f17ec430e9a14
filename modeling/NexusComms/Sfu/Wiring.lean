import NexusComms.Sfu.Streams

/-! What every interleaving of the calls keeps true of the media objects: they are wired
together as the rooms say, the open transports of a router are those that its room has
registered, and a closed object is never open again.
-/

namespace NexusComms.Sfu.Streams

open Concurrency Signaling Storage

namespace Service

variable {service created : Service} {value : Resource} {parents : List Uuid} {roomId : Text}
  {peerId : SocketId} {ref : Nat} {room : Room}

/-- What `create` answers. -/
theorem create_some (made : service.create value parents = some created)
    : ∃ known, created = { service with library := service.library.create value parents known }
    := by
  unfold create at made
  split at made
  · next known => exact ⟨known, (Option.some.inj made).symm⟩
  · cases made

/-- The map has the room object, and it is there. -/
theorem room_some
    : service.room roomId = some (ref, room)
      ↔ service.rooms.lookup roomId = some ref ∧ service.objects[ref]? = some room := by
  unfold Service.room
  constructor
  · intro found
    obtain ⟨ref', named, there⟩ := Option.bind_eq_some_iff.mp found
    obtain ⟨room', there, same⟩ := Option.map_eq_some_iff.mp there
    cases same
    exact ⟨named, there⟩
  · rintro ⟨named, there⟩
    simp [named, there]

end Service

/-- A change that concerns what a room contains. -/
def Room.Inside (change : Room → Room) : Prop :=
  ∀ room, (change room).roomId = room.roomId ∧ (change room).router = room.router

namespace Room.Inside

theorem addTransport (peerId : SocketId) (transportId : Uuid)
    : Inside (fun room => room.addTransport peerId transportId) :=
  fun _ => ⟨rfl, rfl⟩

theorem addProducer (producerId : Uuid) : Inside (fun room => room.addProducer producerId) :=
  fun _ => ⟨rfl, rfl⟩

theorem addConsumer (consumerId : Uuid) : Inside (fun room => room.addConsumer consumerId) :=
  fun _ => ⟨rfl, rfl⟩

theorem without (peerId : SocketId) : Inside (fun room => room.without peerId) :=
  fun _ => ⟨rfl, rfl⟩

end Room.Inside

/-- What `removeParticipant` closes, in this order. -/
def Room.leaving (room : Room) (peerId : SocketId) : List Uuid :=
  room.transportsOf peerId
  ++ if (room.without peerId).participants = [] then [room.router] else []

namespace Service

variable {service : Service} {roomId : Text} {peerId : SocketId} {ref : Nat} {room : Room}

/-- `removeParticipant` in a room that the map has. -/
theorem removeParticipant_found (found : service.room roomId = some (ref, room))
    : service.removeParticipant roomId peerId
      = {
          service with
          objects := service.objects.modify ref (fun room => room.without peerId)
          library := service.library.closeAll (room.leaving peerId)
          rooms :=
            if (room.without peerId).participants = [] then
              service.rooms.erase roomId
            else
              service.rooms
        } := by
  simp only [removeParticipant, found, Room.leaving]
  split
  · simp [Lifetimes.closeAll]
  · simp

/-- Without a room there is nothing to do. -/
theorem removeParticipant_absent (absent : service.room roomId = none)
    : service.removeParticipant roomId peerId = service := by
  simp only [removeParticipant, absent]

end Service

/-- What a call may do to the service between two awaits. -/
inductive Change (service : Service) : Service → Prop
  | flags {ready mediasoup workerIndex}
    : Change service
        { service with ready := ready, mediasoup := mediasoup, workerIndex := workerIndex }
  | staffed {watched workers ready}
    (known : ∀ parent ∈ [], parent < service.library.objects.length)
    (staff
      : ∀ worker ∈ workers,
          worker ∈ service.workers ∨ worker = service.library.objects.length)
    : Change service
        {
          service with
          library := service.library.create (.worker watched) [] known
          workers := workers
          ready := ready
        }
  | lost {targets}
    (staff : ∀ target ∈ targets, ∃ watched, service.library.Has target (.worker watched) [])
    : Change service { service with library := service.library.closeAll targets }
  | opened {roomId worker watched}
    (known : ∀ parent ∈ [worker], parent < service.library.objects.length)
    (there : service.library.Has worker (.worker watched) [])
    : Change service
        {
          service with
          library := service.library.create .router [worker] known
          objects :=
            service.objects ++ [⟨roomId, service.library.objects.length, [], [], [], []⟩]
          rooms := service.rooms.insert roomId service.objects.length
        }
  | added {ref peerId} {room : Room}
    (known : ∀ parent ∈ [room.router], parent < service.library.objects.length)
    (found : service.objects[ref]? = some room)
    : Change service
        {
          service with
          library := service.library.create (.transport peerId) [room.router] known
          objects :=
            service.objects.modify ref
              (fun room => room.addTransport peerId service.library.objects.length)
        }
  | produced {ref transportId peerId kind} {room : Room}
    (known : ∀ parent ∈ [transportId], parent < service.library.objects.length)
    (found : service.objects[ref]? = some room)
    (there : service.library.Has transportId (.transport peerId) [room.router])
    : Change service
        {
          service with
          library := service.library.create (.producer kind) [transportId] known
          objects :=
            service.objects.modify ref
              (fun room => room.addProducer service.library.objects.length)
        }
  | consumed {ref transportId peerId producerId source sender kind} {room : Room}
    (known : ∀ parent ∈ [transportId, producerId], parent < service.library.objects.length)
    (found : service.objects[ref]? = some room)
    (there : service.library.Has transportId (.transport peerId) [room.router])
    (producer : service.library.Has producerId (.producer kind) [source])
    (source : service.library.Has source (.transport sender) [room.router])
    : Change service
        {
          service with
          library := service.library.create (.consumer kind) [transportId, producerId] known
          objects :=
            service.objects.modify ref
              (fun room => room.addConsumer service.library.objects.length)
        }
  | removed {roomId peerId} : Change service (service.removeParticipant roomId peerId)

/-- Objects and rooms stay what they are, and a closed object stays closed. -/
structure Grows (before after : Service) : Prop where
  length : before.library.objects.length ≤ after.library.objects.length
  has
    : ∀ {index value parents},
        before.library.Has index value parents → after.library.Has index value parents
  closed
    : ∀ {index},
        index < before.library.objects.length → after.library.isOpen index = true →
          before.library.isOpen index = true
  rooms
    : ∀ {ref : Nat} {room : Room},
        before.objects[ref]? = some room →
          ∃ room', after.objects[ref]? = some room'
            ∧ room'.roomId = room.roomId
            ∧ room'.router = room.router

namespace Grows

variable {before middle after : Service}

theorem refl (service : Service) : Grows service service where
  length := Nat.le_refl _
  has := id
  closed _ := id
  rooms found := ⟨_, found, rfl, rfl⟩

theorem trans (left : Grows before middle) (right : Grows middle after)
    : Grows before after where
  length := Nat.le_trans left.length right.length
  has there := right.has (left.has there)
  closed old isOpen := left.closed old (right.closed (Nat.lt_of_lt_of_le old left.length) isOpen)
  rooms found := by
    obtain ⟨room, found, roomId, router⟩ := left.rooms found
    obtain ⟨room', found', roomId', router'⟩ := right.rooms found
    exact ⟨room', found', roomId'.trans roomId, router'.trans router⟩

/-- An object is created, and the room objects keep their ids and routers. -/
theorem create {value : Resource} {parents : List Uuid}
    (known : ∀ parent ∈ parents, parent < before.library.objects.length)
    (library : after.library = before.library.create value parents known)
    (rooms
      : ∀ {ref : Nat} {room : Room},
          before.objects[ref]? = some room →
            ∃ room', after.objects[ref]? = some room'
              ∧ room'.roomId = room.roomId
              ∧ room'.router = room.router)
    : Grows before after where
  length := by
    rw [library, Lifetimes.create_objects]
    simp
  has there := by
    rw [library]
    exact (Lifetimes.has_create known).mpr (Or.inl there)
  closed old isOpen := by
    rwa [library, Lifetimes.isOpen_create_of_lt known old] at isOpen
  rooms := rooms

/-- Some objects are closed, and the room objects keep their ids and routers. -/
theorem closeAll {targets : List Uuid}
    (library : after.library = before.library.closeAll targets)
    (rooms
      : ∀ {ref : Nat} {room : Room},
          before.objects[ref]? = some room →
            ∃ room', after.objects[ref]? = some room'
              ∧ room'.roomId = room.roomId
              ∧ room'.router = room.router)
    : Grows before after where
  length := by rw [library, Lifetimes.length_closeAll]
  has there := by rwa [library, Lifetimes.has_closeAll]
  closed _ isOpen := by
    rw [library] at isOpen
    exact (Lifetimes.isOpen_closeAll.mp isOpen).1
  rooms := rooms

/-- Changing what a room contains keeps its id and its router. -/
theorem rooms_modify {objects : List Room} {target ref : Nat} {change : Room → Room}
    {room : Room} (inside : Room.Inside change) (found : objects[ref]? = some room)
    : ∃ room', (objects.modify target change)[ref]? = some room'
        ∧ room'.roomId = room.roomId
        ∧ room'.router = room.router := by
  rw [List.getElem?_modify, found]
  by_cases same : target = ref
  · exact ⟨change room, by simp [same], inside room⟩
  · exact ⟨room, by simp [same], rfl, rfl⟩

end Grows

/-- Every change makes the service grow. -/
theorem Change.grows {service service' : Service} (change : Change service service')
    : Grows service service' := by
  cases change with
  | flags => exact { Grows.refl service with }
  | staffed known _ => exact .create known rfl (fun found => ⟨_, found, rfl, rfl⟩)
  | lost _ => exact .closeAll rfl (fun found => ⟨_, found, rfl, rfl⟩)
  | opened known _ =>
      refine .create known rfl (fun found => ⟨_, ?_, rfl, rfl⟩)
      exact (List.getElem?_append_left (List.getElem?_eq_some_iff.mp found).1).trans found
  | added known _ =>
      exact .create known rfl (Grows.rooms_modify (.addTransport _ _))
  | produced known _ _ =>
      exact .create known rfl (Grows.rooms_modify (.addProducer _))
  | consumed known _ _ _ _ =>
      exact .create known rfl (Grows.rooms_modify (.addConsumer _))
  | @removed roomId peerId =>
      cases found : service.room roomId with
      | none =>
          rw [Service.removeParticipant_absent found]
          exact .refl service
      | some entry =>
          rw [Service.removeParticipant_found found]
          exact .closeAll rfl (Grows.rooms_modify (.without _))

-----------------------------------------------------------------------------------------
-- Sound rooms
-----------------------------------------------------------------------------------------

/-- What a room has registered: the open transports of its router are there under their peers,
the participants are the peers of the transports, and the consumers are those of the router. -/
structure Room.Sound (library : Library) (room : Room) : Prop where
  made
    : ∀ {peerId transportId},
        (peerId, transportId) ∈ room.transports →
          library.Has transportId (.transport peerId) [room.router]
  registered
    : ∀ {peerId transportId},
        library.Has transportId (.transport peerId) [room.router] →
          library.isOpen transportId = true → (peerId, transportId) ∈ room.transports
  isOpen
    : ∀ {peerId transportId},
        (peerId, transportId) ∈ room.transports → library.isOpen room.router = true →
          library.isOpen transportId = true
  participants
    : ∀ {peerId},
        peerId ∈ room.participants
          ↔ ∃ transportId, (peerId, transportId) ∈ room.transports
  nodup : room.participants.Nodup
  consumers
    : ∀ consumerId ∈ room.consumers,
        ∃ kind transportId producerId peerId,
          library.Has consumerId (.consumer kind) [transportId, producerId]
          ∧ library.Has transportId (.transport peerId) [room.router]

namespace Room.Sound

variable {library : Library} {room : Room} {value : Resource} {parents : List Uuid}
  {known : ∀ parent ∈ parents, parent < library.objects.length}

/-- The room of a new router is empty. -/
theorem fresh (roomId : Text)
    (empty : ∀ transportId peerId,
      ¬ library.Has transportId (.transport peerId) [library.objects.length])
    (known : ∀ parent ∈ parents, parent < library.objects.length)
    : Room.Sound (library.create .router parents known)
        ⟨roomId, library.objects.length, [], [], [], []⟩ where
  made := by simp
  registered := by
    intro peerId transportId there
    rcases (Lifetimes.has_create known).mp there with before | ⟨_, other, _⟩
    · exact absurd before (empty _ _)
    · cases other
  isOpen := by simp
  participants := by simp
  nodup := List.nodup_nil
  consumers := by simp

/-- Another object is created, which is no transport of the router. -/
theorem create (sound : room.Sound library) (router : room.router < library.objects.length)
    (other : ∀ peerId, value = .transport peerId → parents ≠ [room.router])
    : room.Sound (library.create value parents known) where
  made registered := (Lifetimes.has_create known).mpr (Or.inl (sound.made registered))
  registered := by
    intro peerId transportId there isOpen
    rcases (Lifetimes.has_create known).mp there with before | ⟨_, same, router⟩
    · rw [Lifetimes.isOpen_create_of_lt known before.lt] at isOpen
      exact sound.registered before isOpen
    · exact absurd router.symm (other peerId same.symm)
  isOpen := by
    intro peerId transportId registered isOpen
    rw [Lifetimes.isOpen_create_of_lt known router] at isOpen
    rw [Lifetimes.isOpen_create_of_lt known (sound.made registered).lt]
    exact sound.isOpen registered isOpen
  participants := sound.participants
  nodup := sound.nodup
  consumers consumerId member := by
    obtain ⟨kind, transportId, producerId, peerId, there, transport⟩ :=
      sound.consumers consumerId member
    exact ⟨kind, transportId, producerId, peerId,
      (Lifetimes.has_create known).mpr (Or.inl there),
      (Lifetimes.has_create known).mpr (Or.inl transport)⟩

/-- Other objects are closed than the registered transports. -/
theorem closeAll (sound : room.Sound library) {targets : List Uuid}
    (apart
      : ∀ {peerId transportId},
          (peerId, transportId) ∈ room.transports → transportId ∉ targets)
    : room.Sound (library.closeAll targets) where
  made registered := Lifetimes.has_closeAll.mpr (sound.made registered)
  registered there isOpen :=
    sound.registered (Lifetimes.has_closeAll.mp there) (Lifetimes.isOpen_closeAll.mp isOpen).1
  isOpen := by
    intro peerId transportId registered isOpen
    obtain ⟨before, away⟩ := Lifetimes.isOpen_closeAll.mp isOpen
    refine Lifetimes.isOpen_closeAll.mpr ⟨sound.isOpen registered before, ?_⟩
    intro target member depends
    rcases (sound.made registered).dependsOn_iff.mp depends with rfl | ⟨parent, only, above⟩
    · exact apart registered member
    · cases List.mem_singleton.mp only
      exact away target member above
  participants := sound.participants
  nodup := sound.nodup
  consumers consumerId member := by
    obtain ⟨kind, transportId, producerId, peerId, there, transport⟩ :=
      sound.consumers consumerId member
    exact ⟨kind, transportId, producerId, peerId, Lifetimes.has_closeAll.mpr there,
      Lifetimes.has_closeAll.mpr transport⟩

/-- A new transport of the router is registered under its peer. -/
theorem addTransport (sound : room.Sound library) {peerId : SocketId}
    (known : ∀ parent ∈ [room.router], parent < library.objects.length)
    : (room.addTransport peerId library.objects.length).Sound
        (library.create (.transport peerId) [room.router] known) where
  made := by
    intro other transportId registered
    rcases List.mem_append.mp registered with before | added
    · exact (Lifetimes.has_create known).mpr (Or.inl (sound.made before))
    · cases List.mem_singleton.mp added
      exact (Lifetimes.has_create known).mpr (Or.inr ⟨rfl, rfl, rfl⟩)
  registered := by
    intro other transportId there isOpen
    rcases (Lifetimes.has_create known).mp there with before | ⟨rfl, same, _⟩
    · rw [Lifetimes.isOpen_create_of_lt known before.lt] at isOpen
      exact List.mem_append_left _ (sound.registered before isOpen)
    · cases same
      exact List.mem_append_right _ (List.mem_singleton.mpr rfl)
  isOpen := by
    intro other transportId registered isOpen
    have router : room.router < library.objects.length := known _ (List.mem_singleton.mpr rfl)
    have before : library.isOpen room.router = true :=
      (Lifetimes.isOpen_create_of_lt known router).symm.trans isOpen
    rcases List.mem_append.mp registered with old | added
    · rw [Lifetimes.isOpen_create_of_lt known (sound.made old).lt]
      exact sound.isOpen old before
    · cases List.mem_singleton.mp added
      exact (Lifetimes.isOpen_create_new known).mpr (by simpa using before)
  participants := by
    intro other
    simp only [Room.addTransport, List.mem_insert_iff, sound.participants, List.mem_append,
      List.mem_singleton, Prod.mk.injEq, exists_or, exists_and_left, exists_eq, and_true]
    exact or_comm
  nodup := sound.nodup.insert
  consumers consumerId member := by
    obtain ⟨kind, transportId, producerId, peerId, there, transport⟩ :=
      sound.consumers consumerId member
    exact ⟨kind, transportId, producerId, peerId,
      (Lifetimes.has_create known).mpr (Or.inl there),
      (Lifetimes.has_create known).mpr (Or.inl transport)⟩

/-- The producers of a room are read by nobody. -/
theorem addProducer (sound : room.Sound library) (producerId : Uuid)
    : (room.addProducer producerId).Sound library :=
  { sound with }

/-- A consumer of the router is registered. -/
theorem addConsumer (sound : room.Sound library) {consumerId transportId producerId : Uuid}
    {kind : Kind} {peerId : SocketId}
    (there : library.Has consumerId (.consumer kind) [transportId, producerId])
    (transport : library.Has transportId (.transport peerId) [room.router])
    : (room.addConsumer consumerId).Sound library where
  made := sound.made
  registered := sound.registered
  isOpen := sound.isOpen
  participants := sound.participants
  nodup := sound.nodup
  consumers other member := by
    rcases List.mem_append.mp member with before | added
    · exact sound.consumers other before
    · cases List.mem_singleton.mp added
      exact ⟨kind, transportId, producerId, peerId, there, transport⟩

/-- The transports that are registered under a peer. -/
theorem mem_transportsOf {peerId : SocketId} {transportId : Uuid}
    : transportId ∈ room.transportsOf peerId ↔ (peerId, transportId) ∈ room.transports := by
  simp only [transportsOf, List.mem_map, List.mem_filter, decide_eq_true_eq]
  constructor
  · rintro ⟨⟨_, _⟩, ⟨registered, rfl⟩, rfl⟩
    exact registered
  · exact fun registered => ⟨_, ⟨registered, rfl⟩, rfl⟩

/-- What is closed belongs to the peer, or it is the router. -/
theorem mem_leaving {peerId : SocketId} {target : Uuid}
    : target ∈ room.leaving peerId
      ↔ (peerId, target) ∈ room.transports
        ∨ ((room.without peerId).participants = [] ∧ target = room.router) := by
  rw [Room.leaving, List.mem_append, mem_transportsOf]
  refine or_congr_right ?_
  split
  · next emptied => simp [emptied]
  · next left => simp [left]

/-- The peer's transports are closed and no longer registered. -/
theorem without (sound : room.Sound library) {worker : Uuid}
    (router : library.Has room.router .router [worker]) (peerId : SocketId)
    : (room.without peerId).Sound (library.closeAll (room.leaving peerId)) where
  made registered :=
    Lifetimes.has_closeAll.mpr (sound.made (List.mem_filter.mp registered).1)
  registered := by
    intro other transportId there isOpen
    obtain ⟨before, away⟩ := Lifetimes.isOpen_closeAll.mp isOpen
    have registered := sound.registered (Lifetimes.has_closeAll.mp there) before
    refine List.mem_filter.mpr ⟨registered, decide_eq_true ?_⟩
    rintro rfl
    exact away transportId (mem_leaving.mpr (Or.inl registered)) .refl
  isOpen := by
    intro other transportId registered isOpen
    obtain ⟨there, different⟩ := List.mem_filter.mp registered
    obtain ⟨before, away⟩ := Lifetimes.isOpen_closeAll.mp isOpen
    refine Lifetimes.isOpen_closeAll.mpr ⟨sound.isOpen there before, ?_⟩
    intro target member depends
    rcases (sound.made there).dependsOn_iff.mp depends with rfl | ⟨parent, only, above⟩
    · rcases mem_leaving.mp member with same | ⟨_, same⟩
      · cases ((sound.made there).unique (sound.made same)).1
        simp at different
      · cases ((sound.made there).unique (same ▸ router)).1
    · cases List.mem_singleton.mp only
      exact away target member above
  participants := by
    intro other
    simp only [Room.without, List.mem_filter, sound.participants, decide_eq_true_eq]
    exact exists_and_right.symm
  nodup := sound.nodup.filter _
  consumers consumerId member := by
    obtain ⟨kind, transportId, producerId, peerId, there, transport⟩ :=
      sound.consumers consumerId member
    exact ⟨kind, transportId, producerId, peerId, Lifetimes.has_closeAll.mpr there,
      Lifetimes.has_closeAll.mpr transport⟩

end Room.Sound

-----------------------------------------------------------------------------------------
-- A sound service
-----------------------------------------------------------------------------------------

/-- What an object was created on, by its kind; `routers` are those of the rooms. -/
def Fits (library : Library) (routers : List Uuid) (index : Uuid)
    : Resource → List Uuid → Prop
  | .worker _, parents => parents = []
  | .router, parents =>
      index ∈ routers
      ∧ ∃ worker watched, parents = [worker] ∧ library.Has worker (.worker watched) []
  | .transport _, parents => ∃ router ∈ routers, parents = [router]
  | .producer _, parents =>
      ∃ router ∈ routers, ∃ transportId peerId,
        parents = [transportId] ∧ library.Has transportId (.transport peerId) [router]
  | .consumer kind, parents =>
      ∃ router ∈ routers, ∃ transportId peerId producerId source sender,
        parents = [transportId, producerId]
        ∧ library.Has transportId (.transport peerId) [router]
        ∧ library.Has producerId (.producer kind) [source]
        ∧ library.Has source (.transport sender) [router]

/-- All objects fit. -/
def Wired (library : Library) (routers : List Uuid) : Prop :=
  ∀ index value parents,
    library.Has index value parents → Fits library routers index value parents

namespace Wired

variable {library : Library} {routers routers' : List Uuid} {value : Resource}
  {parents : List Uuid}

/-- More objects and more rooms do not matter to an object that fits. -/
theorem fits_mono {library' : Library}
    (has
      : ∀ {index value parents},
          library.Has index value parents → library'.Has index value parents)
    (more : routers ⊆ routers') {index : Uuid} (fits : Fits library routers index value parents)
    : Fits library' routers' index value parents := by
  cases value with
  | worker _ => exact fits
  | router =>
      obtain ⟨member, worker, watched, same, there⟩ := fits
      exact ⟨more member, worker, watched, same, has there⟩
  | transport _ =>
      obtain ⟨router, member, same⟩ := fits
      exact ⟨router, more member, same⟩
  | producer _ =>
      obtain ⟨router, member, transportId, peerId, same, there⟩ := fits
      exact ⟨router, more member, transportId, peerId, same, has there⟩
  | consumer _ =>
      obtain ⟨router, member, transportId, peerId, producerId, source, sender, same, there, made,
        sends⟩ := fits
      exact ⟨router, more member, transportId, peerId, producerId, source, sender, same,
        has there, has made, has sends⟩

/-- A new object that fits is added. -/
theorem create (wired : Wired library routers) (more : routers ⊆ routers')
    (known : ∀ parent ∈ parents, parent < library.objects.length)
    (fits : Fits library routers' library.objects.length value parents)
    : Wired (library.create value parents known) routers' := by
  have has {index value' parents'} (there : library.Has index value' parents')
      : (library.create value parents known).Has index value' parents' :=
    (Lifetimes.has_create known).mpr (Or.inl there)
  intro index value' parents' there
  rcases (Lifetimes.has_create known).mp there with before | ⟨rfl, rfl, rfl⟩
  · exact fits_mono has more (wired _ _ _ before)
  · exact fits_mono has (fun _ => id) fits

/-- Closing objects does not matter. -/
theorem closeAll (wired : Wired library routers) (targets : List Uuid)
    : Wired (library.closeAll targets) routers := by
  intro index value parents there
  exact fits_mono Lifetimes.has_closeAll.mpr (fun _ => id)
    (wired _ _ _ (Lifetimes.has_closeAll.mp there))

end Wired

/-- The objects fit, the rooms are sound, no two rooms share a router, and the map refers to
rooms of the right id. -/
structure Sound (service : Service) : Prop where
  wired : Wired service.library (service.objects.map Room.router)
  staff
    : ∀ worker ∈ service.workers, ∃ watched, service.library.Has worker (.worker watched) []
  rooms
    : ∀ room ∈ service.objects,
        room.Sound service.library ∧ ∃ worker, service.library.Has room.router .router [worker]
  distinct : (service.objects.map Room.router).Nodup
  registered
    : ∀ {roomId} {ref : Nat},
        service.rooms.lookup roomId = some ref →
          ∃ room, service.objects[ref]? = some room ∧ room.roomId = roomId

namespace Sound

variable {service : Service}

/-- Before `onModuleInit` there is nothing. -/
theorem init : Sound Service.init where
  wired := by
    rintro index value parents ⟨_, found⟩
    cases found
  staff := by simp [Service.init]
  rooms := by simp [Service.init]
  distinct := List.nodup_nil
  registered := by simp [Service.init]

/-- Two rooms with one router are the same. -/
theorem same_room (sound : Sound service) {room other : Room} (here : room ∈ service.objects)
    (there : other ∈ service.objects) (same : other.router = room.router)
    : other = room :=
  List.inj_on_of_nodup_map sound.distinct there here same

/-- The routers stay the same when one room changes otherwise. -/
theorem routers_modify {objects : List Room} {ref : Nat} {change : Room → Room}
    (inside : Room.Inside change)
    : (objects.modify ref change).map Room.router = objects.map Room.router := by
  refine List.ext_getElem? (fun index => ?_)
  rw [List.getElem?_map, List.getElem?_map, List.getElem?_modify]
  cases objects[index]? with
  | none => rfl
  | some room =>
      by_cases same : ref = index
      · simp [same, (inside room).2]
      · simp [same]

/-- The rooms after one of them has changed. -/
theorem mem_modify {objects : List Room} {ref : Nat} {change : Room → Room} {room other : Room}
    (found : objects[ref]? = some room) (member : other ∈ objects.modify ref change)
    : other = change room ∨ ∃ index, index ≠ ref ∧ objects[index]? = some other := by
  obtain ⟨index, there⟩ := List.mem_iff_getElem?.mp member
  rw [List.getElem?_modify] at there
  by_cases same : ref = index
  · subst same
    rw [found] at there
    exact Or.inl (by simpa using there.symm)
  · exact Or.inr ⟨index, Ne.symm same, by simpa [same] using there⟩

/-- Another room than the one of the index. -/
theorem other_router (sound : Sound service) {ref index : Nat} {room other : Room}
    (found : service.objects[ref]? = some room) (different : index ≠ ref)
    (there : service.objects[index]? = some other)
    : other.router ≠ room.router := by
  intro same
  refine different ((List.getElem?_inj ?_ sound.distinct).mp ?_)
  · rw [List.length_map]
    exact (List.getElem?_eq_some_iff.mp there).1
  · simp [there, found, same]

/-- The map still refers to rooms of the right id when their contents change. -/
theorem registered_modify (sound : Sound service) {ref : Nat} {change : Room → Room}
    (inside : Room.Inside change) {roomId : Text} {index : Nat}
    (named : service.rooms.lookup roomId = some index)
    : ∃ room,
        (service.objects.modify ref change)[index]? = some room ∧ room.roomId = roomId := by
  obtain ⟨room, there, right⟩ := sound.registered named
  rw [List.getElem?_modify, there]
  by_cases same : ref = index
  · exact ⟨change room, by simp [same], (inside room).1.trans right⟩
  · exact ⟨room, by simp [same], right⟩

/-- A room's router exists. -/
theorem router_lt (sound : Sound service) {room : Room} (here : room ∈ service.objects)
    : room.router < service.library.objects.length := by
  obtain ⟨_, _, there⟩ := sound.rooms room here
  exact there.lt

/-- Rooms in which nothing changes stay sound when an object is created that is no transport of
theirs. -/
theorem rooms_create (sound : Sound service) {value : Resource} {parents : List Uuid}
    (known : ∀ parent ∈ parents, parent < service.library.objects.length) {room : Room}
    (here : room ∈ service.objects)
    (other : ∀ peerId, value = .transport peerId → parents ≠ [room.router])
    : room.Sound (service.library.create value parents known)
      ∧ ∃ worker,
          (service.library.create value parents known).Has room.router .router [worker] := by
  obtain ⟨contents, worker, there⟩ := sound.rooms room here
  exact ⟨contents.create (sound.router_lt here) other, worker,
    (Lifetimes.has_create known).mpr (Or.inl there)⟩

/-- An object is created in a room that changes with it, and fits. -/
theorem create_in (sound : Sound service) {value : Resource} {parents : List Uuid}
    (known : ∀ parent ∈ parents, parent < service.library.objects.length) {ref : Nat}
    {room : Room} (found : service.objects[ref]? = some room) {change : Room → Room}
    (inside : Room.Inside change)
    (fits
      : Fits service.library (service.objects.map Room.router) service.library.objects.length
          value parents)
    (here : (change room).Sound (service.library.create value parents known))
    (other
      : ∀ peerId, value = .transport peerId → parents = [room.router])
    : Sound {
        service with
        library := service.library.create value parents known
        objects := service.objects.modify ref change
      } where
  wired := by
    dsimp only
    rw [routers_modify inside]
    exact sound.wired.create (fun _ => id) known fits
  staff worker member := by
    obtain ⟨watched, there⟩ := sound.staff worker member
    exact ⟨watched, (Lifetimes.has_create known).mpr (Or.inl there)⟩
  rooms := by
    intro other' member
    rcases mem_modify found member with rfl | ⟨index, different, there⟩
    · obtain ⟨_, worker, router⟩ := sound.rooms room (List.mem_of_getElem? found)
      exact ⟨here, worker,
        (Lifetimes.has_create known).mpr (Or.inl ((inside room).2.symm ▸ router))⟩
    · refine sound.rooms_create known (List.mem_of_getElem? there)
        (fun peerId same parents => ?_)
      have router := (other peerId same).symm.trans parents
      exact sound.other_router found different there (List.singleton_inj.mp router).symm
  distinct := by
    dsimp only
    rw [routers_modify inside]
    exact sound.distinct
  registered named := sound.registered_modify inside named

/-- A worker joins the staff, and takes a place there. -/
theorem staffed (sound : Sound service) {watched ready : Bool} {workers : List Uuid}
    (known : ∀ parent ∈ [], parent < service.library.objects.length)
    (staff
      : ∀ worker ∈ workers,
          worker ∈ service.workers ∨ worker = service.library.objects.length)
    : Sound {
        service with
        library := service.library.create (.worker watched) [] known
        workers := workers
        ready := ready
      } where
  wired := by
    have fits
        : Fits service.library (service.objects.map Room.router) service.library.objects.length
            (.worker watched) [] :=
      rfl
    exact sound.wired.create (fun _ => id) known fits
  staff worker member := by
    rcases staff worker member with before | rfl
    · obtain ⟨watched, there⟩ := sound.staff worker before
      exact ⟨watched, (Lifetimes.has_create known).mpr (Or.inl there)⟩
    · exact ⟨_, (Lifetimes.has_create known).mpr (Or.inr ⟨rfl, rfl, rfl⟩)⟩
  rooms room here := sound.rooms_create known here (by simp)
  distinct := sound.distinct
  registered := sound.registered

/-- Workers are lost. -/
theorem lost (sound : Sound service) {targets : List Uuid}
    (staff : ∀ target ∈ targets, ∃ watched, service.library.Has target (.worker watched) [])
    : Sound { service with library := service.library.closeAll targets } where
  wired := sound.wired.closeAll targets
  staff worker member := by
    obtain ⟨watched, there⟩ := sound.staff worker member
    exact ⟨watched, Lifetimes.has_closeAll.mpr there⟩
  rooms room here := by
    obtain ⟨contents, worker, there⟩ := sound.rooms room here
    refine ⟨contents.closeAll ?_, worker, Lifetimes.has_closeAll.mpr there⟩
    intro peerId transportId registered member
    obtain ⟨watched, lost⟩ := staff transportId member
    cases (lost.unique (contents.made registered)).1
  distinct := sound.distinct
  registered := sound.registered

/-- A room is opened, on a router of its own. -/
theorem opened (sound : Sound service) {roomId : Text} {worker : Uuid} {watched : Bool}
    (known : ∀ parent ∈ [worker], parent < service.library.objects.length)
    (there : service.library.Has worker (.worker watched) [])
    : Sound {
        service with
        library := service.library.create .router [worker] known
        objects := service.objects ++ [⟨roomId, service.library.objects.length, [], [], [], []⟩]
        rooms := service.rooms.insert roomId service.objects.length
      } where
  wired := by
    dsimp only
    rw [List.map_append, List.map_singleton]
    have fits
        : Fits service.library
            (service.objects.map Room.router ++ [service.library.objects.length])
            service.library.objects.length .router [worker] :=
      ⟨List.mem_append_right _ List.mem_cons_self, worker, watched, rfl, there⟩
    exact sound.wired.create (fun _ => List.mem_append_left _) known fits
  staff worker member := by
    obtain ⟨watched, there⟩ := sound.staff worker member
    exact ⟨watched, (Lifetimes.has_create known).mpr (Or.inl there)⟩
  rooms room member := by
    rcases List.mem_append.mp member with here | new
    · exact sound.rooms_create known here (by simp)
    · cases List.mem_singleton.mp new
      refine ⟨.fresh roomId (fun transportId peerId made => ?_) known, worker,
        (Lifetimes.has_create known).mpr (Or.inr ⟨rfl, rfl, rfl⟩)⟩
      obtain ⟨router, member, same⟩ := sound.wired _ _ _ made
      obtain ⟨room, here, rfl⟩ := List.mem_map.mp member
      exact Nat.lt_irrefl _ (List.singleton_inj.mp same ▸ sound.router_lt here)
  distinct := by
    dsimp only
    rw [List.map_append, List.map_singleton]
    refine List.nodup_append.mpr ⟨sound.distinct, List.nodup_singleton _, ?_⟩
    intro router member new latest same
    obtain ⟨room, here, rfl⟩ := List.mem_map.mp member
    exact Nat.ne_of_lt (sound.router_lt here) (same.trans (List.mem_singleton.mp latest))
  registered := by
    intro other ref named
    by_cases same : other = roomId
    · subst same
      cases Option.some.inj ((AList.lookup_insert _).symm.trans named)
      exact ⟨_, List.getElem?_concat_length, rfl⟩
    · obtain ⟨room, found, right⟩ :=
        sound.registered ((AList.lookup_insert_ne same).symm.trans named)
      exact ⟨room,
        (List.getElem?_append_left (List.getElem?_eq_some_iff.mp found).1).trans found, right⟩

/-- A peer is removed from the room of an id. -/
theorem removed (sound : Sound service) (roomId : Text) (peerId : SocketId)
    : Sound (service.removeParticipant roomId peerId) := by
  cases found : service.room roomId with
  | none => rwa [Service.removeParticipant_absent found]
  | some entry =>
      obtain ⟨ref, room⟩ := entry
      obtain ⟨named, there⟩ := Service.room_some.mp found
      have here := List.mem_of_getElem? there
      obtain ⟨contents, worker, router⟩ := sound.rooms room here
      rw [Service.removeParticipant_found found]
      constructor
      · dsimp only
        rw [routers_modify (.without peerId)]
        exact sound.wired.closeAll _
      · intro worker member
        obtain ⟨watched, there⟩ := sound.staff worker member
        exact ⟨watched, Lifetimes.has_closeAll.mpr there⟩
      · intro other member
        rcases mem_modify there member with rfl | ⟨index, different, found'⟩
        · exact ⟨contents.without router peerId, worker, Lifetimes.has_closeAll.mpr router⟩
        · obtain ⟨contents', worker', router'⟩ := sound.rooms other (List.mem_of_getElem? found')
          refine ⟨contents'.closeAll ?_, worker', Lifetimes.has_closeAll.mpr router'⟩
          intro other' transportId registered leaving
          have made := contents'.made registered
          rcases Room.Sound.mem_leaving.mp leaving with same | ⟨_, rfl⟩
          · have both := (contents.made same).unique made
            exact sound.other_router there different found' (List.singleton_inj.mp both.2)
          · cases (router.unique made).1
      · dsimp only
        rw [routers_modify (.without peerId)]
        exact sound.distinct
      · intro other index named'
        refine sound.registered_modify (.without peerId) ?_
        split at named'
        · exact lookup_of_erase named'
        · exact named'

/-- Every change keeps the service sound. -/
theorem change {service' : Service} (sound : Sound service) (change : Change service service')
    : Sound service' := by
  cases change with
  | flags => exact ⟨sound.wired, sound.staff, sound.rooms, sound.distinct, sound.registered⟩
  | staffed known staff => exact sound.staffed known staff
  | lost staff => exact sound.lost staff
  | opened known there => exact sound.opened known there
  | @added ref peerId room known found =>
      have here := List.mem_of_getElem? found
      refine sound.create_in known found (.addTransport _ _) ?_ ?_ ?_
      · exact ⟨room.router, List.mem_map_of_mem here, rfl⟩
      · exact (sound.rooms room here).1.addTransport known
      · exact fun _ _ => rfl
  | @produced ref transportId peerId kind room known found there =>
      have here := List.mem_of_getElem? found
      refine sound.create_in known found (.addProducer _) ?_ ?_ (by simp)
      · exact ⟨room.router, List.mem_map_of_mem here, transportId, peerId, rfl, there⟩
      · exact ((sound.rooms room here).1.create (sound.router_lt here) (by simp)).addProducer _
  | @consumed ref transportId peerId producerId source sender kind room known found there made
      sends =>
      have here := List.mem_of_getElem? found
      have has {index value parents} (before : service.library.Has index value parents)
          : (service.library.create (.consumer kind) [transportId, producerId] known).Has
              index value parents :=
        (Lifetimes.has_create known).mpr (Or.inl before)
      refine sound.create_in known found (.addConsumer _) ?_ ?_ (by simp)
      · exact ⟨room.router, List.mem_map_of_mem here, transportId, peerId, producerId, source,
          sender, rfl, there, made, sends⟩
      · exact ((sound.rooms room here).1.create (sound.router_lt here) (by simp)).addConsumer
          ((Lifetimes.has_create known).mpr (Or.inr ⟨rfl, rfl, rfl⟩)) (has there)
  | removed => exact sound.removed _ _

end Sound

end NexusComms.Sfu.Streams
