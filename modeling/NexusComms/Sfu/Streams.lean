import NexusComms.Concurrency.Interleaving
import NexusComms.Signaling.State
import NexusComms.Storage.Lifetimes

/-! All of `SfuService`, suspended at every `await`, over the objects of the media library:
workers, routers, transports, producers and consumers. The id of an object is its number. The
library answers or fails as it likes, also after what it works on has been closed, and a worker
may die at any time. Nest lets nobody call the service before `onModuleInit` has returned.
-/

namespace NexusComms.Sfu.Streams

open Concurrency Signaling Storage

inductive Kind where
  | audio
  | video
deriving DecidableEq, Repr

/-- `rtpCapabilities`. -/
abbrev Capabilities := Nat

/-- An object of the media library; `watched` says whether `worker.on('died', …)` is set. The
peer of a transport is history: for whom it has been created. -/
inductive Resource where
  | worker (watched : Bool)
  | router
  | transport (peerId : SocketId)
  | producer (kind : Kind)
  | consumer (kind : Kind)
deriving DecidableEq, Repr

/-- All objects of the media library. A router lives on a worker, a transport on a router, a
producer on a transport, and a consumer on a transport and on what it consumes. -/
abbrev Library := Lifetimes Resource

namespace Library

/-- The kind of a producer, and the router that its transport lives on. -/
def producer (library : Library) (producerId : Uuid) : Option (Kind × Uuid) :=
  match library.objects[producerId]? with
  | some ⟨.producer kind, [transport], _⟩ =>
      match library.objects[transport]? with
      | some ⟨.transport _, [router], _⟩ => some (kind, router)
      | _ => none
  | _ => none

end Library

/-- A room object. A transport is registered under its peer; `roomId` is history: what the room
was created for. -/
structure Room where
  roomId : Text
  router : Uuid
  transports : List (SocketId × Uuid) := []
  producers : List Uuid := []
  consumers : List Uuid := []
  participants : List SocketId := []
deriving DecidableEq, Repr

namespace Room

/-- `room.transports.set(…)` and `room.participants.add(peerId)`. -/
def addTransport (room : Room) (peerId : SocketId) (transportId : Uuid) : Room :=
  {
    room with
    transports := room.transports ++ [(peerId, transportId)]
    participants := room.participants.insert peerId
  }

/-- `room.producers.set(producer.id, producer)`. -/
def addProducer (room : Room) (producerId : Uuid) : Room :=
  { room with producers := room.producers ++ [producerId] }

/-- `room.consumers.set(consumer.id, consumer)`. -/
def addConsumer (room : Room) (consumerId : Uuid) : Room :=
  { room with consumers := room.consumers ++ [consumerId] }

/-- The peer and its transports are deleted. -/
def without (room : Room) (peerId : SocketId) : Room :=
  {
    room with
    transports := room.transports.filter (fun transport => transport.1 ≠ peerId)
    participants := room.participants.filter (fun participant => participant ≠ peerId)
  }

/-- The transports that are registered under a peer. -/
def transportsOf (room : Room) (peerId : SocketId) : List Uuid :=
  (room.transports.filter (fun transport => transport.1 = peerId)).map Prod.snd

/-- The loop of `connectTransport`, `produce` and `consume` over the transports. -/
def hasTransport (room : Room) (transportId : Uuid) : Bool :=
  room.transports.any (fun transport => transport.2 = transportId)

end Room

/-- The fields of `SfuService`, with `this.rooms` referring to room objects. `ready` says that
`onModuleInit` has returned. -/
structure Service where
  ready : Bool
  mediasoup : Bool
  workers : List Uuid
  workerIndex : Nat
  objects : List Room
  rooms : AList (fun _ : Text => Nat)
  library : Library

namespace Service

/-- The service before `onModuleInit`. -/
def init : Service := ⟨false, false, [], 0, [], ∅, .empty⟩

end Service

/-- Why a call throws: `MediaSoup not available`, `Room … not found`, `Transport … not found`,
`Cannot consume — incompatible RTP capabilities`, `Consumer … not found`, or the media library
fails. -/
inductive Failure where
  | notAvailable
  | roomNotFound (roomId : Text)
  | transportNotFound (transportId : Uuid)
  | cannotConsume
  | consumerNotFound (consumerId : Uuid)
  | library
deriving DecidableEq, Repr

/-- What `createRoom` and `getRoomInfo` answer; the capabilities are those of a router. -/
structure RoomInfo where
  roomId : Text
  routerRtpCaps : Uuid
  participantCount : Nat
deriving DecidableEq, Repr

/-- What a call returns. The parameters that come with an id are those of the object. -/
inductive Answer where
  | nothing
  | roomInfo (info : RoomInfo)
  | transport (transportId : Uuid)
  | producer (producerId : Uuid)
  | consumer (consumerId producerId : Uuid) (kind : Kind)
deriving DecidableEq, Repr

/-- A call of the service, a hook of Nest, or the event that a worker emits when it dies. -/
inductive Request where
  | onModuleInit (installed : Bool) (numCpu : Nat)
  | onModuleDestroy
  | died (worker : Uuid)
  | createRoom (roomId : Text)
  | createWebRtcTransport (roomId : Text) (peerId : SocketId)
  | connectTransport (roomId : Text) (transportId : Uuid)
  | produce (roomId : Text) (transportId : Uuid) (kind : Kind) (peerId : SocketId)
  | consume (roomId : Text) (peerId : SocketId) (producerId : Uuid)
      (rtpCapabilities : Capabilities) (transportId : Uuid)
  | resumeConsumer (roomId : Text) (consumerId : Uuid)
  | removeParticipant (roomId : Text) (peerId : SocketId)
deriving DecidableEq, Repr

/-- The await at which a call is suspended, with the objects it has found by then. -/
inductive Stage where
  | createWorker (i : Nat)
  | replaceWorker (idx : Nat)
  | createRouter (worker : Uuid)
  | createWebRtcTransport (room : Nat)
  | connect (transportId : Uuid)
  | produce (room : Nat)
  | consume (room : Nat) (kind : Kind)
  | resume (consumerId : Uuid)
  | returned (answer : Answer)
  | threw (failure : Failure)
deriving DecidableEq, Repr

/-- A call under way, or one that is over. -/
structure Call where
  request : Request
  stage : Stage
deriving DecidableEq, Repr

/-- How an await ends. -/
inductive Completion where
  | done
  | failed
deriving DecidableEq, Repr

namespace Service

/-- The room object that `this.rooms` has for an id. -/
def room (service : Service) (roomId : Text) : Option (Nat × Room) :=
  (service.rooms.lookup roomId).bind
    (fun ref => service.objects[ref]?.map (fun found => (ref, found)))

/-- An object is added to the library. It goes under the next number. -/
def create (service : Service) (value : Resource) (parents : List Uuid) : Option Service :=
  if known : ∀ parent ∈ parents, parent < service.library.objects.length then
    some { service with library := service.library.create value parents known }
  else
    none

/-- A room object is changed. -/
def modify (service : Service) (room : Nat) (change : Room → Room) : Service :=
  { service with objects := service.objects.modify room change }

/-- `Math.max(1, Math.min(numCpu, 4))`. -/
def numWorkers (numCpu : Nat) : Nat := max 1 (min numCpu 4)

/-- `onModuleInit` up to its first await; without the library it only warns. -/
def onModuleInit (service : Service) (installed : Bool) : Service × Stage :=
  if installed then
    ({ service with mediasoup := true }, .createWorker 0)
  else
    ({ service with ready := true }, .returned .nothing)

/-- One round of the loop of `spawnWorkers`, once the worker is there. -/
def spawnWorkers (service : Service) (numCpu i : Nat) : Option (Service × Stage) :=
  let worker := service.library.objects.length
  (service.create (.worker true) []).map (fun created =>
    if i + 1 < numWorkers numCpu then
      ({ created with workers := created.workers ++ [worker] }, .createWorker (i + 1))
    else
      (
        { created with ready := true, workers := created.workers ++ [worker] },
        .returned .nothing
      ))

/-- The worker is gone; a handler that was set calls `replaceWorker`. -/
def died (service : Service) (dead : Uuid) : Service × Stage :=
  let service' := { service with library := service.library.close dead }
  if (service.library.objects[dead]?.any (fun object => object.value = .worker true))
      ∧ dead ∈ service.workers ∧ service.mediasoup then
    (service', .replaceWorker (service.workers.idxOf dead))
  else
    (service', .returned .nothing)

/-- `replaceWorker` once the worker is there. No handler is set on it. -/
def replaceWorker (service : Service) (idx : Nat) : Option (Service × Stage) :=
  let worker := service.library.objects.length
  (service.create (.worker false) []).map (fun created =>
    ({ created with workers := created.workers.set idx worker }, .returned .nothing))

/-- `onModuleDestroy`. -/
def onModuleDestroy (service : Service) : Service :=
  { service with library := service.library.closeAll service.workers }

/-- `nextWorker`. -/
def nextWorker (service : Service) : Service × Option Uuid :=
  if service.workers.length = 0 then
    (service, none)
  else
    (
      { service with workerIndex := service.workerIndex + 1 },
      service.workers[service.workerIndex % service.workers.length]?
    )

/-- `createRoom` up to its await. -/
def createRoom (service : Service) : Service × Stage :=
  if service.mediasoup = false ∨ service.workers.length = 0 then
    (service, .threw .notAvailable)
  else
    match service.nextWorker with
    | (service', some worker) => (service', .createRouter worker)
    | (service', none) => (service', .threw .library)

/-- `createRoom` once the router is there: whatever the map holds is replaced. -/
def routerCreated (service : Service) (roomId : Text) (worker : Uuid)
    : Option (Service × Stage) :=
  let router := service.library.objects.length
  (service.create .router [worker]).map (fun created =>
    (
      {
        created with
        objects := created.objects ++ [{ roomId := roomId, router := router }]
        rooms := created.rooms.insert roomId created.objects.length
      },
      .returned (.roomInfo ⟨roomId, router, 0⟩)
    ))

/-- `createWebRtcTransport` up to its await. -/
def createWebRtcTransport (service : Service) (roomId : Text) : Stage :=
  match service.room roomId with
  | none => .threw (.roomNotFound roomId)
  | some (ref, _) => .createWebRtcTransport ref

/-- `createWebRtcTransport` once the transport is there, in the room object found before. -/
def transportCreated (service : Service) (ref : Nat) (peerId : SocketId)
    : Option (Service × Stage) :=
  service.objects[ref]?.bind (fun room =>
    let transportId := service.library.objects.length
    (service.create (.transport peerId) [room.router]).map (fun created =>
      (
        created.modify ref (fun room => room.addTransport peerId transportId),
        .returned (.transport transportId)
      )))

/-- `connectTransport` up to its await. -/
def connectTransport (service : Service) (roomId : Text) (transportId : Uuid) : Stage :=
  match service.room roomId with
  | none => .threw (.roomNotFound roomId)
  | some (_, room) =>
      if room.hasTransport transportId then
        .connect transportId
      else
        .threw (.transportNotFound transportId)

/-- `produce` up to its await. -/
def produce (service : Service) (roomId : Text) (transportId : Uuid) : Stage :=
  match service.room roomId with
  | none => .threw (.roomNotFound roomId)
  | some (ref, room) =>
      if room.hasTransport transportId then
        .produce ref
      else
        .threw (.transportNotFound transportId)

/-- `produce` once the producer is there. -/
def produced (service : Service) (ref : Nat) (transportId : Uuid) (kind : Kind)
    : Option (Service × Stage) :=
  let producerId := service.library.objects.length
  (service.create (.producer kind) [transportId]).map (fun created =>
    (
      created.modify ref (fun room => room.addProducer producerId),
      .returned (.producer producerId)
    ))

/-- `router.canConsume`, for an open producer of this router; whether the capabilities go with
the producer is up to the library. -/
def canConsume (compatible : Uuid → Capabilities → Bool) (service : Service) (router : Uuid)
    (producerId : Uuid) (rtpCapabilities : Capabilities)
    : Option Kind :=
  match service.library.producer producerId with
  | some (kind, home) =>
      if home = router ∧ service.library.isOpen producerId
          ∧ compatible producerId rtpCapabilities then
        some kind
      else
        none
  | none => none

/-- `consume` up to its await. -/
def consume (compatible : Uuid → Capabilities → Bool) (service : Service) (roomId : Text)
    (producerId : Uuid) (rtpCapabilities : Capabilities) (transportId : Uuid)
    : Stage :=
  match service.room roomId with
  | none => .threw (.roomNotFound roomId)
  | some (ref, room) =>
      match service.canConsume compatible room.router producerId rtpCapabilities with
      | none => .threw .cannotConsume
      | some kind =>
          if room.hasTransport transportId then
            .consume ref kind
          else
            .threw (.transportNotFound transportId)

/-- `consume` once the consumer is there. -/
def consumed (service : Service) (ref : Nat) (transportId producerId : Uuid) (kind : Kind)
    : Option (Service × Stage) :=
  let consumerId := service.library.objects.length
  (service.create (.consumer kind) [transportId, producerId]).map (fun created =>
    (
      created.modify ref (fun room => room.addConsumer consumerId),
      .returned (.consumer consumerId producerId kind)
    ))

/-- `resumeConsumer` up to its await. -/
def resumeConsumer (service : Service) (roomId : Text) (consumerId : Uuid) : Stage :=
  match service.room roomId with
  | none => .threw (.roomNotFound roomId)
  | some (_, room) =>
      if consumerId ∈ room.consumers then
        .resume consumerId
      else
        .threw (.consumerNotFound consumerId)

/-- `removeParticipant`: the peer's transports are closed, and a room without participants is
closed and deleted from the map. -/
def removeParticipant (service : Service) (roomId : Text) (peerId : SocketId) : Service :=
  match service.room roomId with
  | none => service
  | some (ref, room) =>
      let library := service.library.closeAll (room.transportsOf peerId)
      let objects := service.objects.modify ref (fun room => room.without peerId)
      if (room.without peerId).participants = [] then
        {
          service with
          objects := objects
          library := library.close room.router
          rooms := service.rooms.erase roomId
        }
      else
        { service with objects := objects, library := library }

/-- `getRoomInfo`. -/
def getRoomInfo (service : Service) (roomId : Text) : Option RoomInfo :=
  (service.room roomId).map (fun found =>
    ⟨roomId, found.2.router, found.2.participants.length⟩)

/-- A request up to its first await. -/
def begin (compatible : Uuid → Capabilities → Bool) (service : Service)
    : Request → Service × Stage
  | .onModuleInit installed _ => service.onModuleInit installed
  | .onModuleDestroy => (service.onModuleDestroy, .returned .nothing)
  | .died worker => service.died worker
  | .createRoom _ => service.createRoom
  | .createWebRtcTransport roomId _ => (service, service.createWebRtcTransport roomId)
  | .connectTransport roomId transportId =>
      (service, service.connectTransport roomId transportId)
  | .produce roomId transportId _ _ => (service, service.produce roomId transportId)
  | .consume roomId _ producerId rtpCapabilities transportId =>
      (service, service.consume compatible roomId producerId rtpCapabilities transportId)
  | .resumeConsumer roomId consumerId => (service, service.resumeConsumer roomId consumerId)
  | .removeParticipant roomId peerId =>
      (service.removeParticipant roomId peerId, .returned .nothing)

/-- The next step of a request. The `catch` of `onModuleInit` swallows the failure. -/
def next (service : Service) : Completion → Request → Stage → Option (Service × Stage)
  | .done, .onModuleInit _ numCpu, .createWorker i => service.spawnWorkers numCpu i
  | .failed, .onModuleInit _ _, .createWorker _ =>
      some ({ service with ready := true }, .returned .nothing)
  | .done, .died _, .replaceWorker idx => service.replaceWorker idx
  | .done, .createRoom roomId, .createRouter worker => service.routerCreated roomId worker
  | .done, .createWebRtcTransport _ peerId, .createWebRtcTransport ref =>
      service.transportCreated ref peerId
  | .done, .connectTransport _ _, .connect _ => some (service, .returned .nothing)
  | .done, .produce _ transportId kind _, .produce ref =>
      service.produced ref transportId kind
  | .done, .consume _ _ producerId _ transportId, .consume ref kind =>
      service.consumed ref transportId producerId kind
  | .done, .resumeConsumer _ _, .resume _ => some (service, .returned .nothing)
  | .failed, _, .returned _ => none
  | .failed, _, .threw _ => none
  | .failed, _, _ => some (service, .threw .library)
  | _, _, _ => none

/-- When a request may come: the first one is `onModuleInit`, a worker dies while it is open,
and the others wait until the service is ready. -/
def admits (service : Service) (index : Nat) : Request → Bool
  | .onModuleInit _ _ => index = 0
  | .died worker =>
      service.library.isOpen worker
      ∧ service.library.objects[worker]?.any
          (fun object => object.value = .worker true ∨ object.value = .worker false)
  | _ => service.ready

end Service

/-- The calls of `SfuService` and the events it reacts to. -/
def sfuProgram (compatible : Uuid → Capabilities → Bool) : Program Service Call Completion where
  start index service call :=
    if service.admits index call.request
        ∧ call.stage = (service.begin compatible call.request).2 then
      some (service.begin compatible call.request).1
    else
      none
  step _ input service call :=
    (service.next input call.request call.stage).map
      (fun result => (result.1, { call with stage := result.2 }))

/-- Every interleaving of any number of calls. -/
abbrev sfuMachine (compatible : Uuid → Capabilities → Bool)
    : Machine (Pool Service Call) (Move Call Completion) :=
  (sfuProgram compatible).machine Service.init

end NexusComms.Sfu.Streams
