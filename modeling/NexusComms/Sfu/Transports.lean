import NexusComms.Sfu.Rooms
import NexusComms.Storage.SlotMap
import NexusComms.Strings.Fields

/-! The rooms of `SfuService` with their maps of transports, whose keys are strings: the peer's
id, a colon and the transport's id. The calls of the service come one after another.
-/

namespace NexusComms.Sfu.Keyed

open Concurrency Storage Strings

/-- The ids of rooms, peers and transports, and the keys of transports. -/
abbrev Id := List Char

/-- A room; its router is named by how many routers there were before. `participants` is a
`Set` in the order of insertion. -/
structure Room where
  router : Nat
  transports : SlotMap Id Id
  participants : List Id

/-- A transport that has been created: for whom, in which room and on which router. -/
structure Creation where
  roomId : Id
  peerId : Id
  router : Nat
  transportId : Id
deriving DecidableEq, Repr

/-- What becomes of the objects of the media library: how many routers there are, which routers
and transports have been closed, with one entry for each time, and, as history, all transports.
-/
structure Library where
  routers : Nat
  created : List Creation
  closedTransports : List Id
  closedRouters : List Nat
deriving DecidableEq, Repr

/-- `SfuService`; without the library there are no workers. -/
structure Service where
  workers : Nat
  workerIndex : Nat
  rooms : AList (fun _ : Id => Room)
  library : Library

inductive Failure where
  | notAvailable
  | roomNotFound (roomId : Id)
  | library
deriving DecidableEq, Repr

/-- What `createRoom` answers. The capabilities are those of the router. -/
structure RoomInfo where
  roomId : Id
  routerRtpCaps : Nat
  participantCount : Nat
deriving DecidableEq, Repr

/-- `${peerId}:`. -/
def ownerPrefix (peerId : Id) : Id := peerId ++ [':']

/-- `${peerId}:${transport.id}`. -/
def transportKey (peerId transportId : Id) : Id := peerId ++ ':' :: transportId

namespace Library

/-- `transport.close()`. -/
def close (library : Library) (transportId : Id) : Library :=
  { library with closedTransports := library.closedTransports ++ [transportId] }

/-- The transports of a router that are still open. -/
def openOn (library : Library) (router : Nat) : List Id :=
  (library.created.filter (fun creation =>
      creation.router = router ∧ creation.transportId ∉ library.closedTransports)).map
    Creation.transportId

/-- `router.close()`, which closes the transports of the router that are open. -/
def closeRouter (library : Library) (router : Nat) : Library :=
  {
    library with
    closedTransports := library.closedTransports ++ library.openOn router
    closedRouters := library.closedRouters ++ [router]
  }

end Library

namespace Room

/-- What `createWebRtcTransport` does to the room once the transport is there. -/
def add (room : Room) (peerId transportId : Id) : Room :=
  {
    room with
    transports := room.transports.set (transportKey peerId transportId) transportId
    participants := room.participants.insert peerId
  }

/-- The body of the loop of `removeParticipant`. -/
def closeOwned (peerId key transport : Id) (state : Library × SlotMap Id Id)
    : Library × SlotMap Id Id :=
  if (ownerPrefix peerId).isPrefixOf key then
    (state.1.close transport, state.2.delete key)
  else
    state

/-- `removeParticipant` up to the end of its loop. -/
def without (room : Room) (peerId : Id) (library : Library) : Room × Library :=
  let swept :=
    SlotMap.forOf Prod.snd (closeOwned peerId) room.transports.slots.length 0
      (library, room.transports)
  (
    {
      room with
      transports := swept.2
      participants := room.participants.filter (fun participant => participant ≠ peerId)
    },
    swept.1
  )

end Room

namespace Service

/-- No room yet, and so many workers. -/
def start (workers : Nat) : Service := ⟨workers, 0, ∅, ⟨0, [], [], []⟩⟩

/-- `createRoom`. The library may fail to create the router. -/
def createRoom (service : Service) (roomId : Id) (succeeds : Bool)
    : Service × Except Failure RoomInfo :=
  if service.workers = 0 then
    (service, .error .notAvailable)
  else if succeeds then
    let router := service.library.routers
    (
      {
        service with
        workerIndex := service.workerIndex + 1
        rooms := service.rooms.insert roomId ⟨router, .empty, []⟩
        library := { service.library with routers := router + 1 }
      },
      .ok ⟨roomId, router, 0⟩
    )
  else
    ({ service with workerIndex := service.workerIndex + 1 }, .error .library)

/-- `createWebRtcTransport`. The library draws the transport's id, or it fails. -/
def createWebRtcTransport (service : Service) (roomId peerId : Id) (drawn : Option Id)
    : Service × Except Failure Id :=
  match service.rooms.lookup roomId, drawn with
  | none, _ => (service, .error (.roomNotFound roomId))
  | some _, none => (service, .error .library)
  | some room, some transportId =>
      (
        {
          service with
          rooms := service.rooms.replace roomId (room.add peerId transportId)
          library :=
            {
              service.library with
              created := ⟨roomId, peerId, room.router, transportId⟩ :: service.library.created
            }
        },
        .ok transportId
      )

/-- `removeParticipant`. -/
def removeParticipant (service : Service) (roomId peerId : Id) : Service :=
  match service.rooms.lookup roomId with
  | none => service
  | some room =>
      let (left, library) := room.without peerId service.library
      if left.participants.length = 0 then
        {
          service with
          rooms := service.rooms.erase roomId
          library := library.closeRouter room.router
        }
      else
        { service with rooms := service.rooms.replace roomId left, library }

end Service

/-- The calls, with what the library answers. -/
inductive Call where
  | createRoom (roomId : Id) (succeeds : Bool)
  | createWebRtcTransport (roomId peerId : Id) (drawn : Option Id)
  | removeParticipant (roomId peerId : Id)
deriving DecidableEq, Repr

namespace Call

/-- The ids of rooms to create are absent, the ids of peers contain no colon, and the library
draws no id twice. -/
def Allowed (service : Service) : Call → Prop
  | createRoom roomId _ => service.rooms.lookup roomId = none
  | createWebRtcTransport _ peerId drawn =>
      ':' ∉ peerId
      ∧ ∀ transportId ∈ drawn,
          transportId ∉ service.library.created.map Creation.transportId
  | removeParticipant _ peerId => ':' ∉ peerId

instance (service : Service) : (call : Call) → Decidable (call.Allowed service)
  | createRoom roomId _ =>
      decidable_of_iff ((service.rooms.lookup roomId).isNone = true) Option.isNone_iff_eq_none
  | createWebRtcTransport _ peerId drawn =>
      inferInstanceAs (Decidable (':' ∉ peerId
        ∧ ∀ transportId ∈ drawn,
            transportId ∉ service.library.created.map Creation.transportId))
  | removeParticipant _ peerId => inferInstanceAs (Decidable (':' ∉ peerId))

/-- What a call leaves, whether it returns or throws. -/
def run (service : Service) : Call → Service
  | createRoom roomId succeeds => (service.createRoom roomId succeeds).1
  | createWebRtcTransport roomId peerId drawn =>
      (service.createWebRtcTransport roomId peerId drawn).1
  | removeParticipant roomId peerId => service.removeParticipant roomId peerId

end Call

/-- Every sequence of calls that are allowed where they come. -/
def sfuMachine (workers : Nat) : Machine Service Call where
  init := Service.start workers
  step service call := if call.Allowed service then some (call.run service) else none

/-- Some transport was created with this id for the peer in the room. -/
def Library.CreatedFor (library : Library) (roomId peerId transportId : Id) : Prop :=
  ∃ creation ∈ library.created,
    creation.roomId = roomId ∧ creation.peerId = peerId ∧ creation.transportId = transportId

instance (library : Library) (roomId peerId transportId : Id)
    : Decidable (library.CreatedFor roomId peerId transportId) :=
  inferInstanceAs (Decidable (∃ creation ∈ library.created,
    creation.roomId = roomId ∧ creation.peerId = peerId ∧ creation.transportId = transportId))

/-- The room's map contains a transport that was created for the peer there. -/
def Service.Owns (service : Service) (roomId peerId transportId : Id) : Prop :=
  ∃ room,
    service.rooms.lookup roomId = some room
    ∧ transportId ∈ room.transports.entries.map Prod.snd
    ∧ service.library.CreatedFor roomId peerId transportId

/-- What `removeParticipant` has to do: the transports of the peer in the room that were open
are closed and taken out of the map, each once, and the router is closed and the room deleted
exactly if no other peer owns a transport there. -/
structure RemovesExactly (before : Service) (roomId peerId : Id) (after : Service) : Prop where
  absent : before.rooms.lookup roomId = none → after = before
  others : ∀ other ≠ roomId, after.rooms.lookup other = before.rooms.lookup other
  creates
    : after.library.created = before.library.created
      ∧ after.library.routers = before.library.routers
  closes
    : ∃ closed,
        after.library.closedTransports = before.library.closedTransports ++ closed
        ∧ closed.Nodup
        ∧ ∀ transportId,
            transportId ∈ closed
              ↔ before.library.CreatedFor roomId peerId transportId
                ∧ transportId ∉ before.library.closedTransports
  keeps
    : ∀ {room left},
        before.rooms.lookup roomId = some room → after.rooms.lookup roomId = some left →
          left.router = room.router
          ∧ left.participants = room.participants.filter (fun other => other ≠ peerId)
          ∧ left.transports.entries
            = room.transports.entries.filter
                (fun entry => ¬ before.library.CreatedFor roomId peerId entry.2)
  deletes
    : ∀ {room},
        before.rooms.lookup roomId = some room →
          (after.rooms.lookup roomId = none
            ↔ ∀ other transportId, before.Owns roomId other transportId → other = peerId)
          ∧ after.library.closedRouters
            = before.library.closedRouters
              ++ if (after.rooms.lookup roomId).isNone then [room.router] else []

--------------------------------------------------------------------------------
-- Owners
--------------------------------------------------------------------------------

/-- A key begins with the id of its owner, and with that of no other peer. -/
theorem ownerPrefix_iff {peerId owner transportId : Id} (separated : ':' ∉ peerId)
    (other : ':' ∉ owner)
    : (ownerPrefix peerId).isPrefixOf (transportKey owner transportId) = true
      ↔ owner = peerId := by
  rw [List.isPrefixOf_iff_prefix]
  constructor
  · rintro ⟨rest, same⟩
    have split : owner ++ ':' :: transportId = peerId ++ ':' :: rest := by
      simpa [ownerPrefix, transportKey] using same.symm
    exact ((field_inj other separated).mp split).1
  · rintro rfl
    exact ⟨transportId, by simp [ownerPrefix, transportKey]⟩

/-- A key tells its owner and its transport. -/
theorem transportKey_inj {peerId owner transportId other : Id} (separated : ':' ∉ peerId)
    (separated' : ':' ∉ owner)
    : transportKey peerId transportId = transportKey owner other
      ↔ peerId = owner ∧ transportId = other :=
  field_inj separated separated'

/-- What holds of the rooms and of the library between two calls: the open transports are
those in the maps of the rooms that exist, each in the room that it was created in. -/
structure Consistent (service : Service) : Prop where
  distinct : (service.library.created.map Creation.transportId).Nodup
  separated : ∀ creation ∈ service.library.created, ':' ∉ creation.peerId
  once : service.library.closedTransports.Nodup
  known
    : ∀ transportId ∈ service.library.closedTransports,
        transportId ∈ service.library.created.map Creation.transportId
  earlier
    : ∀ {roomId room},
        service.rooms.lookup roomId = some room → room.router < service.library.routers
  apart
    : ∀ {roomId other room found},
        service.rooms.lookup roomId = some room → service.rooms.lookup other = some found →
          room.router = found.router → roomId = other
  placed
    : ∀ creation ∈ service.library.created,
        creation.transportId ∉ service.library.closedTransports →
          ∃ room,
            service.rooms.lookup creation.roomId = some room ∧ creation.router = room.router
  registered
    : ∀ {roomId room},
        service.rooms.lookup roomId = some room → ∀ key transportId,
          (key, transportId) ∈ room.transports.entries
            ↔ ∃ peerId,
                key = transportKey peerId transportId
                ∧ service.library.CreatedFor roomId peerId transportId
                ∧ transportId ∉ service.library.closedTransports
  present
    : ∀ {roomId room},
        service.rooms.lookup roomId = some room → ∀ peerId,
          peerId ∈ room.participants
            ↔ ∃ transportId,
                service.library.CreatedFor roomId peerId transportId
                ∧ transportId ∉ service.library.closedTransports

namespace Consistent

variable {service : Service} {roomId peerId : Id} {room : Room}

/-- A transport was created once. -/
theorem creation_unique (consistent : Consistent service) {transportId other owner : Id}
    (created : service.library.CreatedFor roomId peerId transportId)
    (created' : service.library.CreatedFor other owner transportId)
    : roomId = other ∧ peerId = owner := by
  obtain ⟨creation, inCreated, rfl, rfl, rfl⟩ := created
  obtain ⟨creation', inCreated', rfl, rfl, same⟩ := created'
  have one : creation' = creation :=
    List.inj_on_of_nodup_map consistent.distinct inCreated' inCreated same
  exact ⟨by rw [one], by rw [one]⟩

/-- The owner of a transport that is in the map of a room. -/
theorem owns_iff (consistent : Consistent service)
    (found : service.rooms.lookup roomId = some room) (transportId : Id)
    : service.Owns roomId peerId transportId
      ↔ service.library.CreatedFor roomId peerId transportId
        ∧ transportId ∉ service.library.closedTransports := by
  constructor
  · rintro ⟨other, found', inMap, created⟩
    cases Option.some.inj (found.symm.trans found')
    obtain ⟨⟨key, _⟩, entry, rfl⟩ := List.mem_map.mp inMap
    obtain ⟨_, _, _, stillOpen⟩ := (consistent.registered found _ _).mp entry
    exact ⟨created, stillOpen⟩
  · rintro ⟨created, stillOpen⟩
    have entry := (consistent.registered found _ _).mpr ⟨peerId, rfl, created, stillOpen⟩
    exact ⟨room, found, List.mem_map.mpr ⟨_, entry, rfl⟩, created⟩

/-- The participants of a room are the owners of the transports in its map. -/
theorem participants_owners (consistent : Consistent service)
    (found : service.rooms.lookup roomId = some room)
    : peerId ∈ room.participants
      ↔ ∃ transportId, service.Owns roomId peerId transportId := by
  rw [consistent.present found]
  exact exists_congr fun transportId => (consistent.owns_iff found transportId).symm

end Consistent

--------------------------------------------------------------------------------
-- Removing a participant
--------------------------------------------------------------------------------

/-- The transports of a room whose keys begin with the peer's id, in the order of the map. -/
def Room.owned (room : Room) (peerId : Id) : List Id :=
  (room.transports.entries.filter fun entry => (ownerPrefix peerId).isPrefixOf entry.1).map
    Prod.snd

/-- Closing transports one after the other. -/
theorem foldl_close (transports : List Id) (library : Library)
    : transports.foldl Library.close library
      = { library with closedTransports := library.closedTransports ++ transports } := by
  induction transports generalizing library with
  | nil => simp
  | cons transportId rest ih =>
      rw [List.foldl_cons, ih]
      simp [Library.close]

/-- The loop takes out what the peer owns, and closes it once. -/
theorem Room.without_eq (room : Room) (peerId : Id) (library : Library)
    : (room.without peerId library).1.transports.entries
        = room.transports.entries.filter
            (fun entry => !(ownerPrefix peerId).isPrefixOf entry.1)
      ∧ (room.without peerId library).2
        = {
            library with
            closedTransports := library.closedTransports ++ room.owned peerId
          } := by
  obtain ⟨kept, closed⟩ :=
    SlotMap.forOf_delete Prod.snd (closeOwned peerId) Prod.fst Library.close
      (fun key => (ownerPrefix peerId).isPrefixOf key)
      (by
        intro key transport state owned
        simp [closeOwned, owned])
      (by
        intro key transport state other
        simp [closeOwned, other])
      (library, room.transports)
  exact ⟨kept, closed.trans (foldl_close _ library)⟩

namespace Consistent

variable {service : Service} {roomId peerId : Id} {room : Room}

/-- The peer's prefix picks the peer's transports. -/
theorem prefix_iff (consistent : Consistent service)
    (found : service.rooms.lookup roomId = some room) (separated : ':' ∉ peerId)
    {entry : Id × Id} (member : entry ∈ room.transports.entries)
    : (ownerPrefix peerId).isPrefixOf entry.1 = true
      ↔ service.library.CreatedFor roomId peerId entry.2 := by
  obtain ⟨key, transportId⟩ := entry
  obtain ⟨owner, rfl, created, _⟩ := (consistent.registered found _ _).mp member
  have colonless : ':' ∉ owner := by
    obtain ⟨creation, inCreated, _, rfl, _⟩ := created
    exact consistent.separated creation inCreated
  rw [ownerPrefix_iff separated colonless]
  constructor
  · rintro rfl
    exact created
  · intro created'
    exact (consistent.creation_unique created created').2

/-- What the loop closes. -/
theorem mem_owned (consistent : Consistent service)
    (found : service.rooms.lookup roomId = some room) (separated : ':' ∉ peerId)
    (transportId : Id)
    : transportId ∈ room.owned peerId
      ↔ service.library.CreatedFor roomId peerId transportId
        ∧ transportId ∉ service.library.closedTransports := by
  constructor
  · intro owned
    obtain ⟨⟨key, _⟩, entry, rfl⟩ := List.mem_map.mp owned
    obtain ⟨member, begins⟩ := List.mem_filter.mp entry
    obtain ⟨_, _, _, stillOpen⟩ := (consistent.registered found _ _).mp member
    exact ⟨(consistent.prefix_iff found separated member).mp begins, stillOpen⟩
  · rintro ⟨created, stillOpen⟩
    have member := (consistent.registered found _ _).mpr ⟨peerId, rfl, created, stillOpen⟩
    have begins := (consistent.prefix_iff found separated member).mpr created
    exact List.mem_map.mpr ⟨_, List.mem_filter.mpr ⟨member, begins⟩, rfl⟩

/-- The loop closes nothing twice: a transport has one entry. -/
theorem owned_nodup (consistent : Consistent service)
    (found : service.rooms.lookup roomId = some room)
    : (room.owned peerId).Nodup := by
  refine (room.transports.entries_nodup.filter _).map_on ?_
  rintro ⟨key, transportId⟩ inFirst ⟨other, _⟩ inSecond rfl
  obtain ⟨owner, rfl, created, _⟩ :=
    (consistent.registered found _ _).mp (List.mem_filter.mp inFirst).1
  obtain ⟨owner', rfl, created', _⟩ :=
    (consistent.registered found _ _).mp (List.mem_filter.mp inSecond).1
  rw [(consistent.creation_unique created created').2]

/-- When nobody else owns a transport in the room, the loop leaves nothing for the router to
close. -/
theorem openOn_nil (consistent : Consistent service)
    (found : service.rooms.lookup roomId = some room) (separated : ':' ∉ peerId)
    (alone : room.participants.filter (fun participant => participant ≠ peerId) = [])
    : (room.without peerId service.library).2.openOn room.router = [] := by
  rw [(room.without_eq peerId service.library).2]
  refine List.map_eq_nil_iff.mpr (List.filter_eq_nil_iff.mpr fun creation inCreated here => ?_)
  obtain ⟨sameRouter, stillOpen⟩ := of_decide_eq_true here
  rw [List.mem_append, not_or] at stillOpen
  obtain ⟨wasOpen, notOwned⟩ := stillOpen
  obtain ⟨other, found', onRouter⟩ := consistent.placed creation inCreated wasOpen
  have inRoom := consistent.apart found' found (onRouter.symm.trans sameRouter)
  have created : service.library.CreatedFor roomId creation.peerId creation.transportId :=
    ⟨creation, inCreated, inRoom, rfl, rfl⟩
  have participates := (consistent.present found creation.peerId).mpr ⟨_, created, wasOpen⟩
  have itself : creation.peerId = peerId := by
    simpa using List.filter_eq_nil_iff.mp alone creation.peerId participates
  refine notOwned ((consistent.mem_owned found separated _).mpr ⟨?_, wasOpen⟩)
  rwa [← itself]

/-- What `removeParticipant` does to a room that is there. -/
theorem removeParticipant_eq (consistent : Consistent service)
    (found : service.rooms.lookup roomId = some room) (separated : ':' ∉ peerId)
    : service.removeParticipant roomId peerId
      = if room.participants.filter (fun participant => participant ≠ peerId) = [] then
          {
            service with
            rooms := service.rooms.erase roomId
            library :=
              {
                service.library with
                closedTransports :=
                  service.library.closedTransports ++ room.owned peerId
                closedRouters := service.library.closedRouters ++ [room.router]
              }
          }
        else
          {
            service with
            rooms := service.rooms.replace roomId (room.without peerId service.library).1
            library :=
              {
                service.library with
                closedTransports :=
                  service.library.closedTransports ++ room.owned peerId
              }
          } := by
  have closes := (room.without_eq peerId service.library).2
  have left
      : (room.without peerId service.library).1.participants
        = room.participants.filter (fun participant => participant ≠ peerId) :=
    rfl
  simp only [Service.removeParticipant, found, List.length_eq_zero_iff, left]
  split
  · next alone =>
      have nothing := consistent.openOn_nil found separated alone
      rw [closes] at nothing ⊢
      simp only [Library.closeRouter, nothing, List.append_nil]
  · rw [closes]

/-- Nobody else participates in the room exactly if nobody else owns a transport there. -/
theorem alone_iff (consistent : Consistent service)
    (found : service.rooms.lookup roomId = some room)
    : room.participants.filter (fun participant => participant ≠ peerId) = []
      ↔ ∀ other transportId, service.Owns roomId other transportId → other = peerId := by
  rw [List.filter_eq_nil_iff]
  constructor
  · intro alone other transportId owns
    have participates := (consistent.participants_owners found).mpr ⟨transportId, owns⟩
    simpa using alone other participates
  · intro alone other participates
    obtain ⟨transportId, owns⟩ := (consistent.participants_owners found).mp participates
    simpa using alone other transportId owns

/-- What the loop keeps in the map. -/
theorem without_entries (consistent : Consistent service)
    (found : service.rooms.lookup roomId = some room) (separated : ':' ∉ peerId)
    : (room.without peerId service.library).1.transports.entries
      = room.transports.entries.filter
          (fun entry => ¬ service.library.CreatedFor roomId peerId entry.2) := by
  rw [(room.without_eq peerId service.library).1]
  refine List.filter_congr fun entry member => ?_
  rw [Bool.eq_iff_iff, Bool.not_eq_true', decide_eq_true_eq,
    ← consistent.prefix_iff found separated member, Bool.not_eq_true]

/-- `removeParticipant` does what it has to, in a consistent state. -/
theorem removes (consistent : Consistent service) (separated : ':' ∉ peerId)
    : RemovesExactly service roomId peerId (service.removeParticipant roomId peerId) := by
  cases found : service.rooms.lookup roomId with
  | none =>
      have unchanged : service.removeParticipant roomId peerId = service := by
        simp only [Service.removeParticipant, found]
      rw [unchanged]
      refine ⟨fun _ => rfl, fun _ _ => rfl, ⟨rfl, rfl⟩, ⟨[], by simp, by simp, ?_⟩, ?_, ?_⟩
      · intro transportId
        refine iff_of_false List.not_mem_nil ?_
        rintro ⟨⟨creation, inCreated, rfl, _, rfl⟩, stillOpen⟩
        obtain ⟨_, found', _⟩ := consistent.placed creation inCreated stillOpen
        cases found.symm.trans found'
      · intro room left found'
        cases found.symm.trans found'
      · intro room found'
        cases found.symm.trans found'
  | some room =>
      have closes := consistent.mem_owned found separated
      have once : (room.owned peerId).Nodup := consistent.owned_nodup found
      have alone_owner
          : room.participants.filter (fun participant => participant ≠ peerId) = []
            ↔ ∀ other transportId,
                service.Owns roomId other transportId → other = peerId :=
        consistent.alone_iff found
      rw [consistent.removeParticipant_eq found separated]
      split
      · next alone =>
          refine ⟨fun missing => ?_, fun other apart => ?_, ⟨rfl, rfl⟩,
            ⟨_, rfl, once, closes⟩, ?_, ?_⟩
          · cases found.symm.trans missing
          · exact AList.lookup_erase_ne apart
          · intro _ left _ left_found
            cases (AList.lookup_erase _ _).symm.trans left_found
          · intro _ found'
            cases found.symm.trans found'
            have gone : (service.rooms.erase roomId).lookup roomId = none :=
              AList.lookup_erase _ _
            exact ⟨iff_of_true gone (alone_owner.mp alone), by simp [gone]⟩
      · next company =>
          have here
              : (service.rooms.replace roomId (room.without peerId service.library).1).lookup
                  roomId
                = some (room.without peerId service.library).1 := by
            rw [lookup_replace, if_pos rfl, found, Option.map_some]
          refine ⟨fun missing => ?_, fun other apart => ?_, ⟨rfl, rfl⟩,
            ⟨_, rfl, once, closes⟩, ?_, ?_⟩
          · cases found.symm.trans missing
          · rw [lookup_replace, if_neg apart]
          · intro _ left found' left_found
            cases found.symm.trans found'
            cases here.symm.trans left_found
            exact ⟨rfl, rfl, consistent.without_entries found separated⟩
          · intro _ found'
            cases found.symm.trans found'
            refine ⟨iff_of_false ?_ fun all => company (alone_owner.mpr all), by simp [here]⟩
            rw [here]
            exact Option.some_ne_none _

end Consistent

namespace RemovesExactly

variable {before after : Service} {roomId peerId other owner transportId : Id} {room : Room}

/-- The same transports have been created. -/
theorem createdFor_iff (removes : RemovesExactly before roomId peerId after)
    : after.library.CreatedFor other owner transportId
      ↔ before.library.CreatedFor other owner transportId := by
  unfold Library.CreatedFor
  rw [removes.creates.1]

/-- A transport is still open unless it was the peer's in that room. -/
theorem open_iff (removes : RemovesExactly before roomId peerId after)
    (consistent : Consistent before)
    (created : before.library.CreatedFor other owner transportId)
    : transportId ∉ after.library.closedTransports
      ↔ transportId ∉ before.library.closedTransports ∧ ¬ (other = roomId ∧ owner = peerId) := by
  obtain ⟨closed, grown, _, closes⟩ := removes.closes
  rw [grown, List.mem_append, not_or, closes]
  refine and_congr_right fun wasOpen => not_congr ?_
  constructor
  · rintro ⟨created', _⟩
    exact consistent.creation_unique created created'
  · rintro ⟨rfl, rfl⟩
    exact ⟨created, wasOpen⟩

/-- A room that is there afterwards was there before, with the same router. -/
theorem was_there (removes : RemovesExactly before roomId peerId after)
    (found : after.rooms.lookup other = some room)
    : ∃ was, before.rooms.lookup other = some was ∧ room.router = was.router := by
  by_cases here : other = roomId
  · subst here
    cases found' : before.rooms.lookup other with
    | none =>
        rw [removes.absent found', found'] at found
        cases found
    | some was => exact ⟨was, rfl, (removes.keeps found' found).1⟩
  · exact ⟨room, (removes.others other here).symm.trans found, rfl⟩

/-- Removing a participant leaves the service consistent. -/
theorem consistent (removes : RemovesExactly before roomId peerId after)
    (consistent : Consistent before)
    : Consistent after where
  distinct := by
    rw [removes.creates.1]
    exact consistent.distinct
  separated := by
    rw [removes.creates.1]
    exact consistent.separated
  once := by
    obtain ⟨closed, grown, distinct, closes⟩ := removes.closes
    rw [grown]
    refine consistent.once.append distinct fun transportId was now => ?_
    exact ((closes transportId).mp now).2 was
  known := by
    obtain ⟨closed, grown, _, closes⟩ := removes.closes
    rw [grown, removes.creates.1]
    intro transportId member
    rcases List.mem_append.mp member with was | now
    · exact consistent.known transportId was
    · obtain ⟨⟨creation, inCreated, _, _, rfl⟩, _⟩ := (closes transportId).mp now
      exact List.mem_map_of_mem inCreated
  earlier := by
    intro other room found
    obtain ⟨was, found', sameRouter⟩ := removes.was_there found
    rw [sameRouter, removes.creates.2]
    exact consistent.earlier found'
  apart := by
    intro first second room found here there same
    obtain ⟨was, here', sameRouter⟩ := removes.was_there here
    obtain ⟨was', there', sameRouter'⟩ := removes.was_there there
    exact consistent.apart here' there' (sameRouter.symm.trans (same.trans sameRouter'))
  placed := by
    rw [removes.creates.1]
    intro creation inCreated stillOpen
    have created
        : before.library.CreatedFor creation.roomId creation.peerId creation.transportId :=
      ⟨creation, inCreated, rfl, rfl, rfl⟩
    obtain ⟨wasOpen, notOwned⟩ := (removes.open_iff consistent created).mp stillOpen
    obtain ⟨room, found, onRouter⟩ := consistent.placed creation inCreated wasOpen
    by_cases here : creation.roomId = roomId
    · -- The room still exists, as the owner is another peer.
      rw [here] at found created ⊢
      cases found' : after.rooms.lookup roomId with
      | none =>
          have alone := (removes.deletes found).1.mp found'
          have owns := (consistent.owns_iff found _).mpr ⟨created, wasOpen⟩
          exact absurd ⟨here, alone _ _ owns⟩ notOwned
      | some left => exact ⟨left, rfl, onRouter.trans (removes.keeps found found').1.symm⟩
    · exact ⟨room, (removes.others _ here).trans found, onRouter⟩
  registered := by
    intro other room found key transportId
    obtain ⟨was, found', _⟩ := removes.was_there found
    have before_iff := consistent.registered found' key transportId
    by_cases here : other = roomId
    · subst here
      obtain ⟨_, _, kept⟩ := removes.keeps found' found
      rw [kept, List.mem_filter, before_iff, decide_eq_true_eq]
      constructor
      · rintro ⟨⟨owner, same, created, wasOpen⟩, notOwned⟩
        refine ⟨owner, same, removes.createdFor_iff.mpr created,
          (removes.open_iff consistent created).mpr ⟨wasOpen, ?_⟩⟩
        rintro ⟨_, rfl⟩
        exact notOwned created
      · rintro ⟨owner, same, created, stillOpen⟩
        rw [removes.createdFor_iff] at created
        obtain ⟨wasOpen, notOwned⟩ := (removes.open_iff consistent created).mp stillOpen
        refine ⟨⟨owner, same, created, wasOpen⟩, fun created' => notOwned ⟨rfl, ?_⟩⟩
        exact (consistent.creation_unique created created').2
    · rw [removes.others other here, found'] at found
      cases found
      rw [before_iff]
      refine exists_congr fun owner => and_congr_right fun _ => ?_
      rw [removes.createdFor_iff]
      refine and_congr_right fun created => ?_
      rw [removes.open_iff consistent created]
      exact (and_iff_left fun both => here both.1).symm
  present := by
    intro other room found owner
    obtain ⟨was, found', _⟩ := removes.was_there found
    have before_iff := consistent.present found' owner
    have still
        : ∀ transportId,
            (after.library.CreatedFor other owner transportId
              ∧ transportId ∉ after.library.closedTransports)
            ↔ (before.library.CreatedFor other owner transportId
                ∧ transportId ∉ before.library.closedTransports)
              ∧ ¬ (other = roomId ∧ owner = peerId) := by
      intro transportId
      rw [removes.createdFor_iff, and_assoc]
      exact and_congr_right (removes.open_iff consistent)
    rw [exists_congr still, exists_and_right, ← before_iff]
    by_cases here : other = roomId
    · subst here
      rw [(removes.keeps found' found).2.1, List.mem_filter]
      simp
    · rw [removes.others other here, found'] at found
      cases found
      exact (and_iff_left fun both => here both.1).symm

end RemovesExactly

--------------------------------------------------------------------------------
-- Creating rooms and transports
--------------------------------------------------------------------------------

namespace Consistent

variable {service : Service} {roomId peerId : Id} {room : Room}

/-- A new room has no transport, and none that is open was ever created there. -/
theorem createRoom (consistent : Consistent service)
    (absent : service.rooms.lookup roomId = none) (succeeds : Bool)
    : Consistent (service.createRoom roomId succeeds).1 := by
  unfold Service.createRoom
  split
  · exact consistent
  cases succeeds with
  | false =>
      exact ⟨consistent.distinct, consistent.separated, consistent.once, consistent.known,
        consistent.earlier, consistent.apart, consistent.placed, consistent.registered,
        consistent.present⟩
  | true =>
      have closed
          : ∀ owner transportId,
              service.library.CreatedFor roomId owner transportId →
                transportId ∈ service.library.closedTransports := by
        rintro owner transportId ⟨creation, inCreated, rfl, _, rfl⟩
        by_contra stillOpen
        obtain ⟨_, found, _⟩ := consistent.placed creation inCreated stillOpen
        cases absent.symm.trans found
      exact {
        distinct := consistent.distinct
        separated := consistent.separated
        once := consistent.once
        known := consistent.known
        earlier := by
          intro other found there
          rcases lookup_insert_some.mp there with ⟨_, rfl⟩ | ⟨_, was⟩
          · exact Nat.lt_succ_self _
          · exact (consistent.earlier was).trans (Nat.lt_succ_self _)
        apart := by
          intro first second left right here there same
          rcases lookup_insert_some.mp here with ⟨rfl, rfl⟩ | ⟨_, was⟩
          · rcases lookup_insert_some.mp there with ⟨rfl, rfl⟩ | ⟨_, was'⟩
            · rfl
            · exact absurd same (consistent.earlier was').ne'
          · rcases lookup_insert_some.mp there with ⟨rfl, rfl⟩ | ⟨_, was'⟩
            · exact absurd same (consistent.earlier was).ne
            · exact consistent.apart was was' same
        placed := by
          intro creation inCreated stillOpen
          obtain ⟨found, was, onRouter⟩ := consistent.placed creation inCreated stillOpen
          have elsewhere : creation.roomId ≠ roomId := by
            rintro rfl
            cases absent.symm.trans was
          exact ⟨found, (AList.lookup_insert_ne elsewhere).trans was, onRouter⟩
        registered := by
          intro other found there key transportId
          rcases lookup_insert_some.mp there with ⟨rfl, rfl⟩ | ⟨_, was⟩
          · refine iff_of_false List.not_mem_nil ?_
            rintro ⟨owner, _, created, stillOpen⟩
            exact stillOpen (closed owner transportId created)
          · exact consistent.registered was key transportId
        present := by
          intro other found there owner
          rcases lookup_insert_some.mp there with ⟨rfl, rfl⟩ | ⟨_, was⟩
          · refine iff_of_false List.not_mem_nil ?_
            rintro ⟨transportId, created, stillOpen⟩
            exact stillOpen (closed owner transportId created)
          · exact consistent.present was owner
      }

end Consistent

/-- The transports that were created for a peer in a room, after one more has been. -/
theorem Library.createdFor_cons {library grown : Library} {creation : Creation}
    {roomId peerId transportId : Id} (more : grown.created = creation :: library.created)
    : grown.CreatedFor roomId peerId transportId
      ↔ (creation.roomId = roomId ∧ creation.peerId = peerId
          ∧ creation.transportId = transportId)
        ∨ library.CreatedFor roomId peerId transportId := by
  unfold Library.CreatedFor
  rw [more]
  simp only [List.exists_mem_cons_iff]

namespace Consistent

variable {service : Service} {roomId peerId : Id} {room : Room}

/-- A transport whose id is new gets a key that is new. -/
theorem fresh_key (consistent : Consistent service)
    (found : service.rooms.lookup roomId = some room) (separated : ':' ∉ peerId)
    {transportId : Id}
    (fresh : transportId ∉ service.library.created.map Creation.transportId)
    : transportKey peerId transportId ∉ room.transports.keys := by
  intro taken
  obtain ⟨⟨key, other⟩, entry, same⟩ := List.mem_map.mp taken
  obtain ⟨owner, rfl, ⟨creation, inCreated, _, rfl, rfl⟩, _⟩ :=
    (consistent.registered found _ _).mp entry
  obtain ⟨_, rfl⟩ :=
    (transportKey_inj (consistent.separated creation inCreated) separated).mp same
  exact fresh (List.mem_map_of_mem inCreated)

/-- A new transport is entered in the map of its room, and its peer participates. -/
theorem createWebRtcTransport (consistent : Consistent service) {drawn : Option Id}
    (separated : ':' ∉ peerId)
    (fresh
      : ∀ transportId ∈ drawn, transportId ∉ service.library.created.map Creation.transportId)
    : Consistent (service.createWebRtcTransport roomId peerId drawn).1 := by
  unfold Service.createWebRtcTransport
  split
  · exact consistent
  · exact consistent
  · next room transportId found =>
      have unused := fresh transportId rfl
      have unclosed : transportId ∉ service.library.closedTransports :=
        fun closed => unused (consistent.known transportId closed)
      have was_there
          : ∀ {other : Id} {now : Room},
              (service.rooms.replace roomId (room.add peerId transportId)).lookup other
                = some now →
                ∃ was,
                  service.rooms.lookup other = some was ∧ now.router = was.router := by
        intro other now there
        rcases (lookup_replace_some found).mp there with ⟨rfl, rfl⟩ | ⟨_, was⟩
        · exact ⟨room, found, rfl⟩
        · exact ⟨now, was, rfl⟩
      have is_there
          : ∀ {other : Id} {was : Room},
              service.rooms.lookup other = some was →
                ∃ now,
                  (service.rooms.replace roomId (room.add peerId transportId)).lookup other
                    = some now
                  ∧ was.router = now.router := by
        intro other was there
        by_cases here : other = roomId
        · subst here
          cases found.symm.trans there
          exact ⟨_, (lookup_replace_some found).mpr (Or.inl ⟨rfl, rfl⟩), rfl⟩
        · exact ⟨was, (lookup_replace_some found).mpr (Or.inr ⟨here, there⟩), rfl⟩
      exact {
        distinct := List.nodup_cons.mpr ⟨unused, consistent.distinct⟩
        separated := by
          intro creation inCreated
          rcases List.mem_cons.mp inCreated with rfl | inOld
          · exact separated
          · exact consistent.separated creation inOld
        once := consistent.once
        known := fun id closed => List.mem_cons_of_mem _ (consistent.known id closed)
        earlier := by
          intro other now there
          obtain ⟨was, there', sameRouter⟩ := was_there there
          rw [sameRouter]
          exact consistent.earlier there'
        apart := by
          intro first second left right here there same
          obtain ⟨was, here', sameRouter⟩ := was_there here
          obtain ⟨was', there', sameRouter'⟩ := was_there there
          exact consistent.apart here' there' (sameRouter.symm.trans (same.trans sameRouter'))
        placed := by
          intro creation inCreated stillOpen
          rcases List.mem_cons.mp inCreated with rfl | inOld
          · obtain ⟨now, there, sameRouter⟩ := is_there found
            exact ⟨now, there, sameRouter⟩
          · obtain ⟨was, there, onRouter⟩ := consistent.placed creation inOld stillOpen
            obtain ⟨now, there', sameRouter⟩ := is_there there
            exact ⟨now, there', onRouter.trans sameRouter⟩
        registered := by
          intro other now there key id
          rw [exists_congr fun owner => and_congr_right fun _ =>
            and_congr_left fun _ => Library.createdFor_cons rfl]
          rcases (lookup_replace_some found).mp there with ⟨rfl, rfl⟩ | ⟨elsewhere, was⟩
          · have entered
                : (room.add peerId transportId).transports.entries
                  = room.transports.entries ++ [(transportKey peerId transportId, transportId)] :=
              SlotMap.entries_set (consistent.fresh_key found separated unused)
            rw [entered, List.mem_append, consistent.registered found, List.mem_singleton]
            constructor
            · rintro (⟨owner, same, created, stillOpen⟩ | ⟨rfl, rfl⟩)
              · exact ⟨owner, same, Or.inr created, stillOpen⟩
              · exact ⟨peerId, rfl, Or.inl ⟨rfl, rfl, rfl⟩, unclosed⟩
            · rintro ⟨owner, rfl, ⟨_, rfl, rfl⟩ | created, stillOpen⟩
              · exact Or.inr rfl
              · exact Or.inl ⟨owner, rfl, created, stillOpen⟩
          · rw [consistent.registered was]
            refine exists_congr fun owner => and_congr_right fun _ => and_congr_left fun _ => ?_
            exact (or_iff_right fun new => elsewhere new.1.symm).symm
        present := by
          intro other now there owner
          rw [exists_congr fun id => and_congr_left fun _ => Library.createdFor_cons rfl]
          rcases (lookup_replace_some found).mp there with ⟨rfl, rfl⟩ | ⟨elsewhere, was⟩
          · change owner ∈ room.participants.insert peerId ↔ _
            rw [List.mem_insert_iff, consistent.present found]
            constructor
            · rintro (rfl | ⟨id, created, stillOpen⟩)
              · exact ⟨transportId, Or.inl ⟨rfl, rfl, rfl⟩, unclosed⟩
              · exact ⟨id, Or.inr created, stillOpen⟩
            · rintro ⟨id, ⟨_, rfl, _⟩ | created, stillOpen⟩
              · exact Or.inl rfl
              · exact Or.inr ⟨id, created, stillOpen⟩
          · rw [consistent.present was]
            refine exists_congr fun id => and_congr_left fun _ => ?_
            exact (or_iff_right fun new => elsewhere new.1.symm).symm
      }

/-- At the start there are no rooms. -/
theorem start (workers : Nat) : Consistent (Service.start workers) where
  distinct := List.nodup_nil
  separated := by simp [Service.start]
  once := List.nodup_nil
  known := by simp [Service.start]
  earlier found := by cases (AList.lookup_empty _).symm.trans found
  apart here _ _ := by cases (AList.lookup_empty _).symm.trans here
  placed := by simp [Service.start]
  registered found := by cases (AList.lookup_empty _).symm.trans found
  present found := by cases (AList.lookup_empty _).symm.trans found

/-- What one call preserves, by the call. -/
theorem step {workers : Nat} {next : Service} {call : Call} (consistent : Consistent service)
    (stepped : (sfuMachine workers).step service call = some next)
    : Consistent next := by
  obtain ⟨allowed, same⟩ := Option.ite_none_right_eq_some.mp stepped
  cases same
  cases call with
  | createRoom roomId succeeds => exact consistent.createRoom allowed succeeds
  | createWebRtcTransport roomId peerId drawn =>
      exact consistent.createWebRtcTransport allowed.1 allowed.2
  | removeParticipant roomId peerId => exact (consistent.removes allowed).consistent consistent

end Consistent

--------------------------------------------------------------------------------
-- Every sequence of calls
--------------------------------------------------------------------------------

/-- After every sequence of calls, the participants of each room are the peers that own a
transport there, and removing a participant does what it has to. -/
theorem removeParticipant_exact {workers : Nat} {calls : List Call} {service : Service}
    (run : (sfuMachine workers).Reaches calls service)
    : (∀ roomId room,
        service.rooms.lookup roomId = some room → ∀ peerId,
          peerId ∈ room.participants ↔ ∃ transportId, service.Owns roomId peerId transportId)
      ∧ ∀ roomId peerId,
          ':' ∉ peerId →
            RemovesExactly service roomId peerId (service.removeParticipant roomId peerId) := by
  have consistent : Consistent service :=
    run.invariant Consistent (Consistent.start workers) Consistent.step
  exact ⟨fun _ _ found _ => consistent.participants_owners found,
    fun _ _ separated => consistent.removes separated⟩

/-- Two peers in a room, of whom one has an id that begins with the other's. -/
def twoPeers : List Call :=
  [.createRoom "r".toList true,
    .createWebRtcTransport "r".toList "a".toList (some "t1".toList),
    .createWebRtcTransport "r".toList "ab".toList (some "t2".toList),
    .createWebRtcTransport "r".toList "a".toList (some "t3".toList)]

/-- The transports of the first one are closed, and no other. -/
theorem removeParticipant_exact_twoPeers
    : ∃ service,
        (sfuMachine 1).Reaches twoPeers service
        ∧ RemovesExactly service "r".toList "a".toList
            (service.removeParticipant "r".toList "a".toList)
        ∧ (service.removeParticipant "r".toList "a".toList).library.closedTransports
          = ["t1".toList, "t3".toList] := by
  obtain ⟨service, run⟩ := Option.isSome_iff_exists.mp
    (show ((sfuMachine 1).exec (Service.start 1) twoPeers).isSome from rfl)
  refine ⟨service, run, (removeParticipant_exact run).2 _ _ (by decide), ?_⟩
  cases run
  decide

--------------------------------------------------------------------------------
-- Rooms whose entries name their peers
--------------------------------------------------------------------------------

/-- Under names for the peers and the transports, a room with string keys holds the transports
and the participants of a room whose entries name their peers. -/
structure Represents (peer : SocketId → Id) (transport : Uuid → Id) (keyed : Room)
    (room : Sfu.Room)
    : Prop where
  transports
    : keyed.transports.entries
      = room.transports.map (fun entry =>
          (transportKey (peer entry.1) (transport entry.2), transport entry.2))
  participants : keyed.participants = room.participants.map peer

namespace Represents

variable {peer : SocketId → Id} {transport : Uuid → Id} {keyed : Room} {room : Sfu.Room}
  {peerId : SocketId} {transportId : Uuid}

/-- The loop over the string keys takes out the peer's entries. -/
theorem without (represents : Represents peer transport keyed room)
    (injective : Function.Injective peer) (separated : ∀ peerId, ':' ∉ peer peerId)
    (library : Library)
    : Represents peer transport (keyed.without (peer peerId) library).1
        (room.without peerId) where
  transports := by
    rw [(keyed.without_eq (peer peerId) library).1, represents.transports, List.filter_map]
    refine congrArg (List.map _) (List.filter_congr fun entry _ => ?_)
    have owner
        : (ownerPrefix (peer peerId)).isPrefixOf
              (transportKey (peer entry.1) (transport entry.2)) = true
          ↔ peer entry.1 = peer peerId :=
      ownerPrefix_iff (separated peerId) (separated entry.1)
    rw [injective.eq_iff] at owner
    rw [Bool.eq_iff_iff, Function.comp_apply, Bool.not_eq_true', decide_eq_true_eq, ne_eq,
      ← owner, Bool.not_eq_true]
  participants := by
    change keyed.participants.filter _ = _
    rw [represents.participants, List.filter_map]
    refine congrArg (List.map peer) (List.filter_congr fun participant _ => ?_)
    simp [injective.eq_iff]

/-- A new transport gets a key that is new. -/
theorem add (represents : Represents peer transport keyed room)
    (injective : Function.Injective peer) (separated : ∀ peerId, ':' ∉ peer peerId)
    (distinct : Function.Injective transport)
    (fresh : transportId ∉ room.transports.map Prod.snd)
    : Represents peer transport (keyed.add (peer peerId) (transport transportId))
        (room.add peerId transportId) where
  transports := by
    have absent : transportKey (peer peerId) (transport transportId) ∉ keyed.transports.keys := by
      intro taken
      rw [SlotMap.keys, represents.transports, List.map_map] at taken
      obtain ⟨entry, inRoom, same⟩ := List.mem_map.mp taken
      have sameTransport :=
        ((transportKey_inj (separated entry.1) (separated peerId)).mp same).2
      exact fresh (List.mem_map.mpr ⟨entry, inRoom, distinct sameTransport⟩)
    change (keyed.transports.set _ _).entries = _
    rw [SlotMap.entries_set absent, represents.transports]
    simp [Sfu.Room.add]
  participants := by
    change keyed.participants.insert (peer peerId) = (room.participants.insert peerId).map peer
    rw [represents.participants]
    by_cases there : peerId ∈ room.participants
    · rw [List.insert_of_mem there, List.insert_of_mem (List.mem_map_of_mem there)]
    · have absent : peer peerId ∉ room.participants.map peer := by
        rintro found
        exact there ((List.mem_map_of_injective injective).mp found)
      rw [List.insert_of_not_mem there, List.insert_of_not_mem absent, List.map_cons]

end Represents

end NexusComms.Sfu.Keyed
