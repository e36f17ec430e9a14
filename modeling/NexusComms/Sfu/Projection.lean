import NexusComms.Concurrency.Refinement
import NexusComms.Sfu.Calls
import NexusComms.Sfu.Rooms

/-! `SfuService` is modelled with all of its calls, over the objects of the media library, and
as the handlers of the gateway see it, which know rooms, peers and transports. The rooms that
the handlers see are those of the service, and both change by the same acts.
-/

namespace NexusComms.Sfu

open Concurrency Signaling Storage

/-- What changes the rooms: the ends of three calls. -/
inductive RoomAct where
  | createRoom (roomId : Text)
  | createWebRtcTransport (room : Nat) (peerId : SocketId) (transportId : Uuid)
  | removeParticipant (roomId : Text) (peerId : SocketId)
deriving DecidableEq, Repr

/-- The rooms by themselves. A transport has a new id. -/
def roomsMachine : Machine Media RoomAct where
  init := ⟨[], ∅, []⟩
  step media
    | .createRoom roomId => some (SfuService.createRoom media roomId)
    | .createWebRtcTransport room peerId transportId =>
        if transportId ∉ media.drawn then
          some (SfuService.createWebRtcTransport media room peerId transportId)
        else
          none
    | .removeParticipant roomId peerId =>
        some (SfuService.removeParticipant media roomId peerId)

/-- One act leads from the rooms before to the rooms after, or none does. -/
def ActsOnce (before after : Media) : Prop :=
  after = before ∨ ∃ act, roomsMachine.step before act = some after

theorem ActsOnce.exec {before after : Media} (once : ActsOnce before after)
    : ∃ acts, roomsMachine.exec before acts = some after := by
  rcases once with rfl | ⟨act, performed⟩
  · exact ⟨[], rfl⟩
  · refine ⟨[act], ?_⟩
    rw [Machine.exec_cons, performed]
    rfl

-----------------------------------------------------------------------------------------
-- The handlers
-----------------------------------------------------------------------------------------

/-- A step of a handler is one act on the rooms, or none. -/
theorem Turn.acts {input : Completion} {studio studio' : Studio} {handler handler' : Handler}
    (turn : Turn studio input handler studio' handler')
    : ActsOnce studio.media studio'.media := by
  cases turn with
  | joining media _ _ _ => exact Or.inl media
  | opened => exact Or.inr ⟨.createRoom _, rfl⟩
  | failed => exact Or.inl rfl
  | added fresh => exact Or.inr ⟨.createWebRtcTransport _ _ _, if_pos fresh⟩
  | unseated _ media _ _ => exact Or.inl media
  | removed _ => exact Or.inr ⟨.removeParticipant _ _, rfl⟩
  | leaving media _ _ _ _ => exact Or.inl media

/-- The handlers run the rooms. -/
theorem studio_projects {moves : List (Move Handler Completion)} {pool : Pool Studio Handler}
    (run : studioMachine.Reaches moves pool)
    : ∃ acts, roomsMachine.Reaches acts pool.shared.media := by
  refine Machine.exec_projects (fun pool : Pool Studio Handler => pool.shared.media)
    (fun _ => True) (fun _ _ => trivial) (fun {pool action next} _ moved => ?_) trivial run
  cases action with
  | start handler =>
      obtain ⟨started, _⟩ := studioProgram.move_start_some moved
      exact ActsOnce.exec (Or.inl (Handler.start_arrival started).media)
  | step index input =>
      obtain ⟨handler, after, _, ran, _⟩ := studioProgram.move_step_some moved
      exact (Handler.step_turn ran).acts.exec

namespace Streams

-----------------------------------------------------------------------------------------
-- The rooms of the service
-----------------------------------------------------------------------------------------

namespace Library

/-- All transports in the order of their creation: for whom, on what, and under which id. -/
def transports (library : Library) : List (SocketId × List Uuid × Uuid) :=
  library.creations.zipIdx.filterMap (fun entry =>
    match entry.1.1 with
    | .transport peerId => some (peerId, entry.1.2, entry.2)
    | _ => none)

/-- The peers that have been given a transport on the router, the last one first. -/
def entered (library : Library) (router : Uuid) : List SocketId :=
  ((library.transports.filter (fun entry => entry.2.1 = [router])).map Prod.fst).reverse

section

variable {library : Library} {value : Resource} {parents targets : List Uuid} {router : Uuid}
  {known : ∀ parent ∈ parents, parent < library.objects.length}

/-- Another object is created, which is no transport. -/
theorem transports_create (other : ∀ peerId, value ≠ .transport peerId)
    : transports (library.create value parents known) = library.transports := by
  unfold transports
  rw [Lifetimes.creations_create, List.zipIdx_append, List.filterMap_append]
  cases value with
  | transport peerId => exact absurd rfl (other peerId)
  | worker _ => simp
  | router => simp
  | producer _ => simp
  | consumer _ => simp

theorem transports_create_transport {peerId : SocketId}
    : transports (library.create (.transport peerId) parents known)
      = library.transports ++ [(peerId, parents, library.objects.length)] := by
  unfold transports
  rw [Lifetimes.creations_create, List.zipIdx_append, List.filterMap_append]
  simp [Lifetimes.creations]

/-- So nobody enters a router then. -/
theorem entered_create (other : ∀ peerId, value ≠ .transport peerId)
    : entered (library.create value parents known) router = library.entered router := by
  rw [entered, transports_create other, entered]

/-- A new transport enters its peer on its router, and nobody anywhere else. -/
theorem entered_create_transport {peerId : SocketId} {home : Uuid}
    {known : ∀ parent ∈ [home], parent < library.objects.length}
    : entered (library.create (.transport peerId) [home] known) router
      = if home = router then peerId :: library.entered router else library.entered router := by
  rw [entered, transports_create_transport, List.filter_append, List.map_append,
    List.reverse_append, ← entered]
  by_cases same : home = router
  · simp [same]
  · simp [same]

theorem transports_closeAll : transports (library.closeAll targets) = library.transports := by
  unfold transports
  rw [Lifetimes.creations_closeAll]

/-- A transport is there, and so is what it was created on. -/
theorem mem_transports {peerId : SocketId} {transportId : Uuid}
    (member : (peerId, parents, transportId) ∈ library.transports)
    : transportId < library.objects.length ∧ ∀ parent ∈ parents, parent < transportId := by
  obtain ⟨⟨⟨value, on⟩, index⟩, there, same⟩ := List.mem_filterMap.mp member
  have found : library.creations[index]? = some (value, on) :=
    List.mem_zipIdx_iff_getElem?.mp there
  rw [Lifetimes.creations, List.getElem?_map] at found
  obtain ⟨object, here, created⟩ := Option.map_eq_some_iff.mp found
  cases value with
  | transport owner =>
      cases same
      obtain ⟨_, rfl⟩ := Prod.mk.inj created
      exact ⟨(List.getElem?_eq_some_iff.mp here).1, library.earlier here⟩
  | worker _ => cases same
  | router => cases same
  | producer _ => cases same
  | consumer _ => cases same

/-- Nobody has entered a router that is new. -/
theorem entered_new : library.entered library.objects.length = [] := by
  have none (peerId : SocketId) (parents : List Uuid) (transportId : Uuid)
      (member : (peerId, parents, transportId) ∈ library.transports)
      : ¬ parents = [library.objects.length] := by
    rintro rfl
    obtain ⟨there, earlier⟩ := mem_transports member
    exact Nat.lt_asymm there (earlier library.objects.length List.mem_cons_self)
  simpa [entered] using none

end

end Library

/-- A room object as the handlers see it. The router counts as open until it is closed itself,
whatever becomes of its worker. -/
def Room.seen (library : Library) (room : Room) : Sfu.Room where
  roomId := room.roomId
  routerOpen := !library.isClosed room.router
  transports := room.transports
  participants := room.participants
  entered := library.entered room.router

/-- The rooms as the handlers see them. -/
def Service.media (service : Service) : Media where
  objects := service.objects.map (Room.seen service.library)
  rooms := service.rooms
  drawn := (service.library.transports.map (fun entry => entry.2.2)).reverse

section

variable {service : Service} {library : Library} {value : Resource}
  {parents targets : List Uuid} {room : Room} {roomId : Text} {peerId : SocketId}
  {ref : Nat}

/-- Another object is created, which is no transport. -/
theorem Room.seen_create {known : ∀ parent ∈ parents, parent < library.objects.length}
    (old : room.router < library.objects.length) (other : ∀ peerId, value ≠ .transport peerId)
    : room.seen (library.create value parents known) = room.seen library := by
  simp only [Room.seen, Library.entered_create other, Lifetimes.isClosed_create_of_lt known old]

/-- Other objects are closed. -/
theorem Room.seen_closeAll (old : room.router < library.objects.length)
    (apart : room.router ∉ targets)
    : room.seen (library.closeAll targets) = room.seen library := by
  have closed
      : (library.closeAll targets).isClosed room.router = library.isClosed room.router := by
    rw [Bool.eq_iff_iff, Lifetimes.isClosed_closeAll old, or_iff_left apart]
  simp only [Room.seen, Library.entered, Library.transports_closeAll, closed]

/-- One room changes, and the others look as before. -/
theorem seen_modify {objects : List Room} {library' : Library} {change : Room → Room}
    {seen : Sfu.Room → Sfu.Room} (found : objects[ref]? = some room)
    (own : (change room).seen library' = seen (room.seen library))
    (others
      : ∀ index other,
          index ≠ ref → objects[index]? = some other →
            other.seen library' = other.seen library)
    : (objects.modify ref change).map (Room.seen library')
      = (objects.map (Room.seen library)).modify ref seen := by
  refine List.ext_getElem? (fun index => ?_)
  simp only [List.getElem?_map, List.getElem?_modify]
  cases there : objects[index]? with
  | none => rfl
  | some other =>
      by_cases same : ref = index
      · subst same
        cases Option.some.inj (found.symm.trans there)
        simp [own]
      · simp [same, others index other (Ne.symm same) there]

namespace Sound

/-- An object is created which is no transport; the rooms that there are look as before. -/
theorem seen_create (sound : Sound service)
    {known : ∀ parent ∈ parents, parent < service.library.objects.length}
    (other : ∀ peerId, value ≠ .transport peerId)
    : service.objects.map (Room.seen (service.library.create value parents known))
      = service.objects.map (Room.seen service.library) :=
  List.map_congr_left fun _ member => Room.seen_create (sound.router_lt member) other

/-- Workers are closed. -/
theorem seen_lost (sound : Sound service)
    (staff
      : ∀ target ∈ targets, ∃ watched, service.library.Has target (.worker watched) [])
    : service.objects.map (Room.seen (service.library.closeAll targets))
      = service.objects.map (Room.seen service.library) := by
  refine List.map_congr_left fun room member => ?_
  refine Room.seen_closeAll (sound.router_lt member) (fun closed => ?_)
  obtain ⟨watched, worker⟩ := staff _ closed
  obtain ⟨_, home, router⟩ := sound.rooms room member
  cases (router.unique worker).1

/-- `createRoom` opens a room that nobody has entered. -/
theorem media_opened (sound : Sound service) {worker : Uuid}
    {known : ∀ parent ∈ [worker], parent < service.library.objects.length}
    : Service.media {
          service with
          library := service.library.create .router [worker] known
          objects :=
            service.objects ++ [⟨roomId, service.library.objects.length, [], [], [], []⟩]
          rooms := service.rooms.insert roomId service.objects.length
        }
      = SfuService.createRoom service.media roomId := by
  have other (peerId : SocketId) : Resource.router ≠ .transport peerId := by simp
  have empty
      : Room.seen (service.library.create .router [worker] known)
          ⟨roomId, service.library.objects.length, [], [], [], []⟩
        = ⟨roomId, true, [], [], []⟩ := by
    simp only [Room.seen, Library.entered_create other, Library.entered_new,
      Lifetimes.isClosed_create_new, Bool.not_false]
  simp only [Service.media, SfuService.createRoom, List.map_append, List.map_cons, List.map_nil,
    sound.seen_create other, empty, Library.transports_create other, List.length_map]

/-- `createWebRtcTransport` adds the peer to the room object that it holds. -/
theorem media_added (sound : Sound service) (found : service.objects[ref]? = some room)
    {known : ∀ parent ∈ [room.router], parent < service.library.objects.length}
    : Service.media {
          service with
          library := service.library.create (.transport peerId) [room.router] known
          objects :=
            service.objects.modify ref
              (fun room => room.addTransport peerId service.library.objects.length)
        }
      = SfuService.createWebRtcTransport service.media ref peerId
          service.library.objects.length := by
  have objects
      : (service.objects.modify ref
            (fun room => room.addTransport peerId service.library.objects.length)).map
          (Room.seen (service.library.create (.transport peerId) [room.router] known))
        = (service.objects.map (Room.seen service.library)).modify ref
            (fun found => found.add peerId service.library.objects.length) := by
    refine seen_modify found ?_ (fun index other different there => ?_)
    · have old := sound.router_lt (List.mem_of_getElem? found)
      simp [Room.seen, Room.addTransport, Sfu.Room.add, Library.entered_create_transport,
        Lifetimes.isClosed_create_of_lt known old]
    · have old := sound.router_lt (List.mem_of_getElem? there)
      have apart := Ne.symm (sound.other_router found different there)
      simp [Room.seen, Library.entered_create_transport, apart,
        Lifetimes.isClosed_create_of_lt known old]
  simp only [Service.media, SfuService.createWebRtcTransport, objects,
    Library.transports_create_transport]
  simp

/-- What `removeParticipant` closes is no router of another room. -/
theorem leaving_apart (sound : Sound service) (found : service.objects[ref]? = some room)
    (peerId : SocketId) {index : Nat} {other : Room} (different : index ≠ ref)
    (there : service.objects[index]? = some other)
    : other.router ∉ room.leaving peerId := by
  intro leaving
  obtain ⟨contents, _⟩ := sound.rooms room (List.mem_of_getElem? found)
  obtain ⟨_, home, router⟩ := sound.rooms other (List.mem_of_getElem? there)
  rcases Room.Sound.mem_leaving.mp leaving with owned | ⟨_, same⟩
  · cases (router.unique (contents.made owned)).1
  · exact sound.other_router found different there same

/-- The router of the room itself is closed exactly if nobody is left. -/
theorem leaving_router (sound : Sound service) (found : service.objects[ref]? = some room)
    (peerId : SocketId)
    : room.router ∈ room.leaving peerId ↔ (room.without peerId).participants = [] := by
  obtain ⟨contents, home, router⟩ := sound.rooms room (List.mem_of_getElem? found)
  rw [Room.Sound.mem_leaving]
  constructor
  · rintro (owned | ⟨emptied, _⟩)
    · cases (router.unique (contents.made owned)).1
    · exact emptied
  · exact fun emptied => Or.inr ⟨emptied, rfl⟩

/-- `removeParticipant` takes the peer out of the room, and closes and forgets the room if
nobody is left. -/
theorem media_removed (sound : Sound service) (roomId : Text) (peerId : SocketId)
    : (service.removeParticipant roomId peerId).media
      = SfuService.removeParticipant service.media roomId peerId := by
  cases found : service.room roomId with
  | none =>
      have absent : service.media.rooms.lookup roomId = none := by
        cases named : service.rooms.lookup roomId with
        | none => exact named
        | some ref =>
            obtain ⟨room, there, _⟩ := sound.registered named
            cases found.symm.trans (Service.room_some.mpr ⟨named, there⟩)
      rw [Service.removeParticipant_absent found, SfuService.removeParticipant_absent absent]
  | some entry =>
      obtain ⟨ref, room⟩ := entry
      obtain ⟨named, there⟩ := Service.room_some.mp found
      have seen : service.media.objects[ref]? = some (room.seen service.library) := by
        simp [Service.media, there]
      have others (index : Nat) (other : Room) (different : index ≠ ref)
          (here : service.objects[index]? = some other)
          : other.seen (service.library.closeAll (room.leaving peerId))
            = other.seen service.library :=
        Room.seen_closeAll (sound.router_lt (List.mem_of_getElem? here))
          (sound.leaving_apart there peerId different here)
      have closed
          : (service.library.closeAll (room.leaving peerId)).isClosed room.router = true
            ↔ service.library.isClosed room.router = true
              ∨ (room.without peerId).participants = [] :=
        (Lifetimes.isClosed_closeAll (sound.router_lt (List.mem_of_getElem? there))).trans
          (or_congr_right (sound.leaving_router there peerId))
      rw [Service.removeParticipant_found found, SfuService.removeParticipant_found named seen]
      change _ = if (room.without peerId).participants = [] then _ else _
      by_cases emptied : (room.without peerId).participants = []
      · have shut := closed.mpr (Or.inr emptied)
        rw [if_pos emptied]
        simp only [Service.media, if_pos emptied, Library.transports_closeAll]
        refine congrArg (Media.mk · _ _) (seen_modify there ?_ others)
        simp [Room.seen, Room.without, Sfu.Room.without, Sfu.Room.close, Library.entered,
          Library.transports_closeAll, shut]
      · have still := Bool.eq_iff_iff.mpr (closed.trans (or_iff_left emptied))
        rw [if_neg emptied]
        simp only [Service.media, if_neg emptied, Library.transports_closeAll]
        refine congrArg (Media.mk · _ _) (seen_modify there ?_ others)
        simp [Room.seen, Room.without, Sfu.Room.without, Library.entered,
          Library.transports_closeAll, still]

/-- Nobody sees the producers and consumers of a room. -/
theorem media_inside (sound : Sound service) (found : service.objects[ref]? = some room)
    {known : ∀ parent ∈ parents, parent < service.library.objects.length}
    (other : ∀ peerId, value ≠ .transport peerId) {change : Room → Room}
    (unseen : ∀ library, (change room).seen library = room.seen library)
    : Service.media {
          service with
          library := service.library.create value parents known
          objects := service.objects.modify ref change
        }
      = service.media := by
  have objects
      : (service.objects.modify ref change).map
          (Room.seen (service.library.create value parents known))
        = (service.objects.map (Room.seen service.library)).modify ref id := by
    refine seen_modify found ?_ (fun index other' _ there => ?_)
    · rw [unseen]
      exact Room.seen_create (sound.router_lt (List.mem_of_getElem? found)) other
    · exact Room.seen_create (sound.router_lt (List.mem_of_getElem? there)) other
  simp only [Service.media, objects, Library.transports_create other, List.modify_id]

/-- The next id has not been drawn. -/
theorem fresh_id : service.library.objects.length ∉ service.media.drawn := by
  intro drawn
  obtain ⟨⟨owner, on, index⟩, member, same⟩ := List.mem_map.mp (List.mem_reverse.mp drawn)
  exact Nat.ne_of_lt (Library.mem_transports member).1 same

/-- What a call does between two awaits is one act on the rooms, or none. -/
theorem acts {service' : Service} (sound : Sound service) (change : Change service service')
    : ActsOnce service.media service'.media := by
  cases change with
  | flags => exact Or.inl rfl
  | @staffed watched _ _ known _ =>
      have other (peerId : SocketId) : Resource.worker watched ≠ .transport peerId := by simp
      left
      simp only [Service.media, sound.seen_create other, Library.transports_create other]
  | lost staff =>
      left
      simp only [Service.media, sound.seen_lost staff, Library.transports_closeAll]
  | opened known there =>
      exact Or.inr ⟨.createRoom _, congrArg some sound.media_opened.symm⟩
  | @added ref peerId room known found =>
      refine Or.inr
        ⟨.createWebRtcTransport ref peerId service.library.objects.length, ?_⟩
      rw [sound.media_added found]
      exact if_pos fresh_id
  | @produced ref transportId peerId kind room known found _ =>
      have other (peerId : SocketId) : Resource.producer kind ≠ .transport peerId := by simp
      exact Or.inl (sound.media_inside found other (fun _ => rfl))
  | @consumed _ _ _ _ _ _ kind _ known found _ _ _ =>
      have other (peerId : SocketId) : Resource.consumer kind ≠ .transport peerId := by simp
      exact Or.inl (sound.media_inside found other (fun _ => rfl))
  | removed =>
      exact Or.inr ⟨.removeParticipant _ _, congrArg some (sound.media_removed ..).symm⟩

end Sound

/-- The calls of the service run the rooms, too. -/
theorem service_projects {compatible : Uuid → Capabilities → Bool}
    {moves : List (Move Call Completion)} {pool : Pool Service Call}
    (run : (sfuMachine compatible).Reaches moves pool)
    : ∃ acts, roomsMachine.Reaches acts pool.shared.media := by
  refine Machine.exec_projects (fun pool : Pool Service Call => pool.shared.media) Standing
    Standing.move (fun {pool action next} standing moved => ?_)
    ⟨.init, by simp [Program.machine]⟩ run
  exact (standing.sound.acts (move_change standing.sound standing.stands moved).1).exec

/-- A call finds the room object that a handler would find. -/
theorem createWebRtcTransport_media (sound : Sound service)
    : service.createWebRtcTransport roomId
      = match service.media.rooms.lookup roomId with
        | none => .threw (.roomNotFound roomId)
        | some ref => .createWebRtcTransport ref := by
  unfold Service.createWebRtcTransport
  cases named : service.rooms.lookup roomId with
  | none => simp [Service.room, Service.media, named]
  | some ref =>
      obtain ⟨room, there, _⟩ := sound.registered named
      simp [Service.room, Service.media, named, there]

/-- A transport is looked up in the room that the map has. -/
theorem findTransport_media (transportId : Uuid)
    : SfuService.findTransport service.media roomId transportId
      = match service.room roomId with
        | none => .error (.roomNotFound roomId)
        | some (_, room) =>
            if room.hasTransport transportId then
              .ok ()
            else
              .error (.transportNotFound transportId) := by
  have same
      : (service.media.rooms.lookup roomId).bind (fun ref => service.media.objects[ref]?)
        = (service.room roomId).map (fun found => found.2.seen service.library) := by
    simp only [Service.media, Service.room, List.getElem?_map]
    cases service.rooms.lookup roomId with
    | none => rfl
    | some ref => simp [Function.comp_def]
  rw [SfuService.findTransport, same]
  cases service.room roomId with
  | none => rfl
  | some found => rfl

/-- `connectTransport` finds its transport in both models or in neither. -/
theorem connectTransport_media_iff (transportId : Uuid)
    : service.connectTransport roomId transportId = .connect transportId
      ↔ SfuService.connectTransport service.media roomId transportId = .ok () := by
  rw [SfuService.connectTransport, findTransport_media, Service.connectTransport]
  cases service.room roomId with
  | none => simp
  | some found => cases there : found.2.hasTransport transportId <;> simp [there]

/-- `produce` finds its transport in both models or in neither. -/
theorem produce_media_iff (transportId : Uuid)
    : (∃ ref, service.produce roomId transportId = .produce ref)
      ↔ SfuService.produce service.media roomId transportId = .ok () := by
  rw [SfuService.produce, findTransport_media, Service.produce]
  cases service.room roomId with
  | none => simp
  | some found => cases there : found.2.hasTransport transportId <;> simp [there]

end

end Streams

end NexusComms.Sfu
