import NexusComms.Sfu.Wiring

/-! What a call knows while it waits, and what its answer says for ever after. The calls do not
disturb each other in that, so all of it holds in every interleaving.
-/

namespace NexusComms.Sfu.Streams

open Concurrency Signaling Storage

/-- The ids that a request works on, with the room that it names. -/
def Request.uses : Request → List (Text × Uuid)
  | .connectTransport roomId transportId => [(roomId, transportId)]
  | .produce roomId transportId _ _ => [(roomId, transportId)]
  | .consume roomId _ producerId _ transportId => [(roomId, producerId), (roomId, transportId)]
  | .resumeConsumer roomId consumerId => [(roomId, consumerId)]
  | _ => []

/-- The id that a call has returned, with the room that it named. -/
def Call.gives : Call → Option (Text × Uuid)
  | ⟨.createWebRtcTransport roomId _, .returned (.transport transportId)⟩ =>
      some (roomId, transportId)
  | ⟨.produce roomId _ _ _, .returned (.producer producerId)⟩ => some (roomId, producerId)
  | ⟨.consume roomId _ _ _ _, .returned (.consumer consumerId _ _)⟩ => some (roomId, consumerId)
  | _ => none

/-- A room object of an id, whatever it contains by now. -/
def Service.RoomOf (service : Service) (roomId : Text) (room : Room) : Prop :=
  room ∈ service.objects ∧ room.roomId = roomId

/-- There is a room object of the id on the router. -/
def Service.Hosts (service : Service) (roomId : Text) (router : Uuid) : Prop :=
  ∃ room, service.RoomOf roomId room ∧ room.router = router

/-- A room object that a call holds. -/
def Service.HoldsRoom (service : Service) (ref : Nat) (roomId : Text) (router : Uuid) : Prop :=
  ∃ room, service.objects[ref]? = some room ∧ room.roomId = roomId ∧ room.router = router

/-- What a call has found by each of its awaits, and what it has made when it returns. -/
inductive Call.Stands (service : Service) : Call → Prop
  | spawning {installed numCpu i}
    : Stands service ⟨.onModuleInit installed numCpu, .createWorker i⟩
  | replacing {worker idx} : Stands service ⟨.died worker, .replaceWorker idx⟩
  | routing {roomId worker watched}
    (there : service.library.Has worker (.worker watched) [])
    : Stands service ⟨.createRoom roomId, .createRouter worker⟩
  | adding {roomId peerId ref router} (room : service.HoldsRoom ref roomId router)
    : Stands service ⟨.createWebRtcTransport roomId peerId, .createWebRtcTransport ref⟩
  | connecting {roomId transportId owner router} (hosts : service.Hosts roomId router)
    (there : service.library.Has transportId (.transport owner) [router])
    : Stands service ⟨.connectTransport roomId transportId, .connect transportId⟩
  | producing {roomId transportId kind peerId ref router owner}
    (room : service.HoldsRoom ref roomId router)
    (there : service.library.Has transportId (.transport owner) [router])
    : Stands service ⟨.produce roomId transportId kind peerId, .produce ref⟩
  | consuming {roomId peerId producerId rtpCapabilities transportId ref kind router owner source
      sender}
    (room : service.HoldsRoom ref roomId router)
    (there : service.library.Has transportId (.transport owner) [router])
    (producer : service.library.Has producerId (.producer kind) [source])
    (sends : service.library.Has source (.transport sender) [router])
    : Stands service
        ⟨.consume roomId peerId producerId rtpCapabilities transportId, .consume ref kind⟩
  | resuming {roomId consumerId kind transportId producerId owner router}
    (hosts : service.Hosts roomId router)
    (there : service.library.Has consumerId (.consumer kind) [transportId, producerId])
    (transport : service.library.Has transportId (.transport owner) [router])
    : Stands service ⟨.resumeConsumer roomId consumerId, .resume consumerId⟩
  | done {request} (plain : request.uses = [])
    : Stands service ⟨request, .returned .nothing⟩
  | created {roomId router} (hosts : service.Hosts roomId router)
    : Stands service ⟨.createRoom roomId, .returned (.roomInfo ⟨roomId, router, 0⟩)⟩
  | added {roomId peerId transportId router} (hosts : service.Hosts roomId router)
    (there : service.library.Has transportId (.transport peerId) [router])
    : Stands service
        ⟨.createWebRtcTransport roomId peerId, .returned (.transport transportId)⟩
  | produced {roomId transportId kind peerId producerId router owner}
    (hosts : service.Hosts roomId router)
    (there : service.library.Has transportId (.transport owner) [router])
    (made : service.library.Has producerId (.producer kind) [transportId])
    : Stands service
        ⟨.produce roomId transportId kind peerId, .returned (.producer producerId)⟩
  | consumed {roomId peerId producerId rtpCapabilities transportId kind router owner source
      sender consumerId}
    (hosts : service.Hosts roomId router)
    (there : service.library.Has transportId (.transport owner) [router])
    (producer : service.library.Has producerId (.producer kind) [source])
    (sends : service.library.Has source (.transport sender) [router])
    (made : service.library.Has consumerId (.consumer kind) [transportId, producerId])
    : Stands service
        ⟨.consume roomId peerId producerId rtpCapabilities transportId,
          .returned (.consumer consumerId producerId kind)⟩
  | connected {roomId transportId owner router} (hosts : service.Hosts roomId router)
    (there : service.library.Has transportId (.transport owner) [router])
    : Stands service ⟨.connectTransport roomId transportId, .returned .nothing⟩
  | resumed {roomId consumerId kind transportId producerId owner router}
    (hosts : service.Hosts roomId router)
    (there : service.library.Has consumerId (.consumer kind) [transportId, producerId])
    (transport : service.library.Has transportId (.transport owner) [router])
    : Stands service ⟨.resumeConsumer roomId consumerId, .returned .nothing⟩
  | threw {request failure} : Stands service ⟨request, .threw failure⟩

namespace Grows

variable {before after : Service} {roomId : Text} {router : Uuid} {ref : Nat}

/-- A room object stays with its router. -/
theorem holdsRoom (grows : Grows before after) (holds : before.HoldsRoom ref roomId router)
    : after.HoldsRoom ref roomId router := by
  obtain ⟨room, found, rfl, rfl⟩ := holds
  obtain ⟨room', found', sameId, sameRouter⟩ := grows.rooms found
  exact ⟨room', found', sameId, sameRouter⟩

theorem hosts (grows : Grows before after) (hosts : before.Hosts roomId router)
    : after.Hosts roomId router := by
  obtain ⟨room, ⟨member, rfl⟩, rfl⟩ := hosts
  obtain ⟨ref, found⟩ := List.mem_iff_getElem?.mp member
  obtain ⟨room', found', sameId, sameRouter⟩ := grows.rooms found
  exact ⟨room', ⟨List.mem_of_getElem? found', sameId⟩, sameRouter⟩

/-- So what a call knows stays true. -/
theorem stands (grows : Grows before after) {call : Call} (stands : call.Stands before)
    : call.Stands after := by
  cases stands with
  | spawning => exact .spawning
  | replacing => exact .replacing
  | routing there => exact .routing (grows.has there)
  | adding room => exact .adding (grows.holdsRoom room)
  | connecting hosts there => exact .connecting (grows.hosts hosts) (grows.has there)
  | producing room there => exact .producing (grows.holdsRoom room) (grows.has there)
  | consuming room there producer sends =>
      exact .consuming (grows.holdsRoom room) (grows.has there) (grows.has producer)
        (grows.has sends)
  | resuming hosts there transport =>
      exact .resuming (grows.hosts hosts) (grows.has there) (grows.has transport)
  | done plain => exact .done plain
  | created hosts => exact .created (grows.hosts hosts)
  | added hosts there => exact .added (grows.hosts hosts) (grows.has there)
  | produced hosts there made =>
      exact .produced (grows.hosts hosts) (grows.has there) (grows.has made)
  | consumed hosts there producer sends made =>
      exact .consumed (grows.hosts hosts) (grows.has there) (grows.has producer)
        (grows.has sends) (grows.has made)
  | connected hosts there => exact .connected (grows.hosts hosts) (grows.has there)
  | resumed hosts there transport =>
      exact .resumed (grows.hosts hosts) (grows.has there) (grows.has transport)
  | threw => exact .threw

end Grows

-----------------------------------------------------------------------------------------
-- What a call finds before its first await
-----------------------------------------------------------------------------------------

namespace Sound

variable {service : Service} {roomId : Text} {ref : Nat} {room : Room}

/-- A room that the map has is of the right id, and sound. -/
theorem found (sound : Sound service) (found : service.room roomId = some (ref, room))
    : service.HoldsRoom ref roomId room.router ∧ room.Sound service.library := by
  obtain ⟨named, there⟩ := Service.room_some.mp found
  obtain ⟨room', there', right⟩ := sound.registered named
  cases Option.some.inj (there.symm.trans there')
  exact ⟨⟨room, there, right, rfl⟩, (sound.rooms room (List.mem_of_getElem? there)).1⟩

/-- What the loop over the transports finds is a transport of the room's router. -/
theorem hasTransport (contents : room.Sound service.library) {transportId : Uuid}
    (has : room.hasTransport transportId = true)
    : ∃ owner, service.library.Has transportId (.transport owner) [room.router] := by
  obtain ⟨⟨owner, other⟩, registered, same⟩ := List.any_eq_true.mp has
  cases of_decide_eq_true same
  exact ⟨owner, contents.made registered⟩

/-- Only a worker can die. -/
theorem worker_of_admitted (sound : Sound service) {worker : Uuid}
    (admitted
      : service.library.objects[worker]?.any
          (fun object => object.value = .worker true ∨ object.value = .worker false)
        = true)
    : ∃ watched, service.library.Has worker (.worker watched) [] := by
  obtain ⟨⟨value, parents, closed⟩, found, kind⟩ := (Option.any_eq_true _ _).mp admitted
  rcases (by simpa using kind : value = .worker true ∨ value = .worker false) with rfl | rfl
  · cases sound.wired _ _ _ ⟨closed, found⟩
    exact ⟨true, closed, found⟩
  · cases sound.wired _ _ _ ⟨closed, found⟩
    exact ⟨false, closed, found⟩

end Sound

namespace Service

variable {compatible : Uuid → Capabilities → Bool} {service service' : Service}
  {roomId : Text} {ref : Nat} {router : Uuid}

theorem HoldsRoom.hosts (holds : service.HoldsRoom ref roomId router)
    : service.Hosts roomId router := by
  obtain ⟨room, found, right, same⟩ := holds
  exact ⟨room, ⟨List.mem_of_getElem? found, right⟩, same⟩

/-- The producer that can be consumed is open and on the router. -/
theorem canConsume_some {producerId : Uuid} {rtpCapabilities : Capabilities} {kind : Kind}
    (able : service.canConsume compatible router producerId rtpCapabilities = some kind)
    : service.library.isOpen producerId = true
      ∧ ∃ source sender,
          service.library.Has producerId (.producer kind) [source]
          ∧ service.library.Has source (.transport sender) [router] := by
  unfold canConsume Library.producer at able
  split at able
  · next found =>
      split at found
      · next producer =>
          split at found
          · next transport =>
              cases found
              split at able
              · next passes =>
                  cases able
                  obtain ⟨rfl, isOpen, _⟩ := passes
                  exact ⟨isOpen, _, _, ⟨_, producer⟩, ⟨_, transport⟩⟩
              · cases able
          · cases found
      · cases found
  · cases able

/-- What a call knows at its first await. -/
theorem begin_stands {index : Nat} {request : Request} (sound : Sound service)
    (admitted : service.admits index request = true)
    : Change service (service.begin compatible request).1
      ∧ Call.Stands (service.begin compatible request).1
          ⟨request, (service.begin compatible request).2⟩ := by
  have same : Change service service := .flags
  cases request with
  | onModuleInit installed numCpu =>
      cases installed with
      | false => exact ⟨.flags, .done rfl⟩
      | true => exact ⟨.flags, .spawning⟩
  | onModuleDestroy => exact ⟨.lost sound.staff, .done rfl⟩
  | died worker =>
      have gone : ∀ target ∈ [worker], ∃ watched,
          service.library.Has target (.worker watched) [] := by
        intro target member
        cases List.mem_singleton.mp member
        simp only [admits, Bool.decide_and, Bool.and_eq_true, decide_eq_true_eq] at admitted
        exact sound.worker_of_admitted admitted.2
      simp only [begin, died]
      split
      · exact ⟨.lost gone, .replacing⟩
      · exact ⟨.lost gone, .done rfl⟩
  | createRoom roomId =>
      simp only [begin, createRoom, nextWorker]
      split
      · exact ⟨same, .threw⟩
      · next present =>
          rw [if_neg (fun none => present (Or.inr none))]
          cases drawn : service.workers[service.workerIndex % service.workers.length]? with
          | none => exact ⟨.flags, .threw⟩
          | some worker =>
              obtain ⟨watched, there⟩ := sound.staff worker (List.mem_of_getElem? drawn)
              exact ⟨.flags, .routing there⟩
  | createWebRtcTransport roomId peerId =>
      simp only [begin, createWebRtcTransport]
      split
      · exact ⟨same, .threw⟩
      · next found => exact ⟨same, .adding (sound.found found).1⟩
  | connectTransport roomId transportId =>
      simp only [begin, connectTransport]
      split
      · exact ⟨same, .threw⟩
      · next found =>
          obtain ⟨holds, contents⟩ := sound.found found
          split
          · next has =>
              obtain ⟨owner, there⟩ := Sound.hasTransport contents has
              exact ⟨same, .connecting holds.hosts there⟩
          · exact ⟨same, .threw⟩
  | produce roomId transportId kind peerId =>
      simp only [begin, produce]
      split
      · exact ⟨same, .threw⟩
      · next found =>
          obtain ⟨holds, contents⟩ := sound.found found
          split
          · next has =>
              obtain ⟨owner, there⟩ := Sound.hasTransport contents has
              exact ⟨same, .producing holds there⟩
          · exact ⟨same, .threw⟩
  | consume roomId peerId producerId rtpCapabilities transportId =>
      simp only [begin, consume]
      split
      · exact ⟨same, .threw⟩
      · next found =>
          obtain ⟨holds, contents⟩ := sound.found found
          split
          · exact ⟨same, .threw⟩
          · next able =>
              obtain ⟨_, source, sender, producer, sends⟩ := canConsume_some able
              split
              · next has =>
                  obtain ⟨owner, there⟩ := Sound.hasTransport contents has
                  exact ⟨same, .consuming holds there producer sends⟩
              · exact ⟨same, .threw⟩
  | resumeConsumer roomId consumerId =>
      simp only [begin, resumeConsumer]
      split
      · exact ⟨same, .threw⟩
      · next found =>
          obtain ⟨holds, contents⟩ := sound.found found
          split
          · next member =>
              obtain ⟨kind, transportId, producerId, owner, there, transport⟩ :=
                contents.consumers consumerId member
              exact ⟨same, .resuming holds.hosts there transport⟩
          · exact ⟨same, .threw⟩
  | removeParticipant roomId peerId => exact ⟨.removed, .done rfl⟩

-----------------------------------------------------------------------------------------
-- What a call does after an await
-----------------------------------------------------------------------------------------

/-- What one step of a request does: an object of the library has come, or nothing has. -/
inductive Turn (service : Service) : Request → Stage → Service → Stage → Prop
  | spawned {installed numCpu i ready stage}
    (known : ∀ parent ∈ [], parent < service.library.objects.length)
    (goes
      : (i + 1 < numWorkers numCpu ∧ ready = service.ready ∧ stage = .createWorker (i + 1))
        ∨ (numWorkers numCpu ≤ i + 1 ∧ ready = true ∧ stage = .returned .nothing))
    : Turn service (.onModuleInit installed numCpu) (.createWorker i)
        {
          service with
          library := service.library.create (.worker true) [] known
          workers := service.workers ++ [service.library.objects.length]
          ready := ready
        }
        stage
  | abandoned {installed numCpu i}
    : Turn service (.onModuleInit installed numCpu) (.createWorker i)
        { service with ready := true } (.returned .nothing)
  | replaced {worker idx} (known : ∀ parent ∈ [], parent < service.library.objects.length)
    : Turn service (.died worker) (.replaceWorker idx)
        {
          service with
          library := service.library.create (.worker false) [] known
          workers := service.workers.set idx service.library.objects.length
        }
        (.returned .nothing)
  | routed {roomId worker} (known : ∀ parent ∈ [worker], parent < service.library.objects.length)
    : Turn service (.createRoom roomId) (.createRouter worker)
        {
          service with
          library := service.library.create .router [worker] known
          objects :=
            service.objects ++ [⟨roomId, service.library.objects.length, [], [], [], []⟩]
          rooms := service.rooms.insert roomId service.objects.length
        }
        (.returned (.roomInfo ⟨roomId, service.library.objects.length, 0⟩))
  | added {roomId peerId ref} {room : Room}
    (known : ∀ parent ∈ [room.router], parent < service.library.objects.length)
    (found : service.objects[ref]? = some room)
    : Turn service (.createWebRtcTransport roomId peerId) (.createWebRtcTransport ref)
        {
          service with
          library := service.library.create (.transport peerId) [room.router] known
          objects :=
            service.objects.modify ref
              (fun room => room.addTransport peerId service.library.objects.length)
        }
        (.returned (.transport service.library.objects.length))
  | connected {roomId transportId found}
    : Turn service (.connectTransport roomId transportId) (.connect found) service
        (.returned .nothing)
  | produced {roomId transportId kind peerId ref}
    (known : ∀ parent ∈ [transportId], parent < service.library.objects.length)
    : Turn service (.produce roomId transportId kind peerId) (.produce ref)
        {
          service with
          library := service.library.create (.producer kind) [transportId] known
          objects :=
            service.objects.modify ref
              (fun room => room.addProducer service.library.objects.length)
        }
        (.returned (.producer service.library.objects.length))
  | consumed {roomId peerId producerId rtpCapabilities transportId ref kind}
    (known : ∀ parent ∈ [transportId, producerId], parent < service.library.objects.length)
    : Turn service (.consume roomId peerId producerId rtpCapabilities transportId)
        (.consume ref kind)
        {
          service with
          library := service.library.create (.consumer kind) [transportId, producerId] known
          objects :=
            service.objects.modify ref
              (fun room => room.addConsumer service.library.objects.length)
        }
        (.returned (.consumer service.library.objects.length producerId kind))
  | resumed {roomId consumerId found}
    : Turn service (.resumeConsumer roomId consumerId) (.resume found) service
        (.returned .nothing)
  | failed {request stage} (waits : ∀ answer, stage ≠ .returned answer)
    (goes : ∀ failure, stage ≠ .threw failure)
    : Turn service request stage service (.threw .library)

/-- Every step is one of these, by the request and its stage. -/
theorem next_turn {input : Completion} {request : Request} {stage stage' : Stage}
    (ran : service.next input request stage = some (service', stage'))
    : Turn service request stage service' stage' := by
  cases input with
  | failed =>
      cases stage with
      | returned answer => cases request <;> cases ran
      | threw failure => cases request <;> cases ran
      | createWorker i =>
          cases request <;> cases ran
          · exact .abandoned
          all_goals exact .failed (by simp) (by simp)
      | _ =>
          cases request <;> cases ran
          all_goals exact .failed (by simp) (by simp)
  | done =>
      cases request with
      | onModuleInit installed numCpu =>
          cases stage with
          | createWorker i =>
              simp only [next, spawnWorkers] at ran
              obtain ⟨created, made, went⟩ := Option.map_eq_some_iff.mp ran
              obtain ⟨known, rfl⟩ := create_some made
              split at went
              · next more =>
                  cases went
                  exact .spawned known (Or.inl ⟨more, rfl, rfl⟩)
              · next last =>
                  cases went
                  exact .spawned known (Or.inr ⟨Nat.le_of_not_lt last, rfl, rfl⟩)
          | _ => cases ran
      | died worker =>
          cases stage with
          | replaceWorker idx =>
              simp only [next, replaceWorker] at ran
              obtain ⟨created, made, went⟩ := Option.map_eq_some_iff.mp ran
              obtain ⟨known, rfl⟩ := create_some made
              cases went
              exact .replaced known
          | _ => cases ran
      | createRoom roomId =>
          cases stage with
          | createRouter worker =>
              obtain ⟨created, made, went⟩ := Option.map_eq_some_iff.mp ran
              obtain ⟨known, rfl⟩ := create_some made
              cases went
              exact .routed known
          | _ => cases ran
      | createWebRtcTransport roomId peerId =>
          cases stage with
          | createWebRtcTransport ref =>
              obtain ⟨room, found, went⟩ := Option.bind_eq_some_iff.mp ran
              obtain ⟨created, made, went⟩ := Option.map_eq_some_iff.mp went
              obtain ⟨known, rfl⟩ := create_some made
              cases went
              exact .added known found
          | _ => cases ran
      | connectTransport roomId transportId =>
          cases stage <;> cases ran
          exact .connected
      | produce roomId transportId kind peerId =>
          cases stage with
          | produce ref =>
              obtain ⟨created, made, went⟩ := Option.map_eq_some_iff.mp ran
              obtain ⟨known, rfl⟩ := create_some made
              cases went
              exact .produced known
          | _ => cases ran
      | consume roomId peerId producerId rtpCapabilities transportId =>
          cases stage with
          | consume ref kind =>
              obtain ⟨created, made, went⟩ := Option.map_eq_some_iff.mp ran
              obtain ⟨known, rfl⟩ := create_some made
              cases went
              exact .consumed known
          | _ => cases ran
      | resumeConsumer roomId consumerId =>
          cases stage <;> cases ran
          exact .resumed
      | _ => cases stage <;> cases ran

/-- A call that has returned does not go on. -/
theorem Turn.waits {request : Request} {stage stage' : Stage}
    (turn : Turn service request stage service' stage') (answer : Answer)
    : stage ≠ .returned answer := by
  cases turn with
  | failed waits _ => exact waits answer
  | _ => simp

/-- What a call knows after it has gone on. -/
theorem turn_stands {request : Request} {stage stage' : Stage}
    (stands : Call.Stands service ⟨request, stage⟩)
    (turn : Turn service request stage service' stage')
    : Change service service' ∧ Call.Stands service' ⟨request, stage'⟩ := by
  have same : Change service service := .flags
  cases turn with
  | spawned known goes =>
      refine ⟨.staffed known (by simp), ?_⟩
      rcases goes with ⟨_, _, rfl⟩ | ⟨_, _, rfl⟩
      · exact .spawning
      · exact .done rfl
  | abandoned => exact ⟨.flags, .done rfl⟩
  | replaced known =>
      exact ⟨.staffed known (fun worker member => List.mem_or_eq_of_mem_set member), .done rfl⟩
  | routed known =>
      cases stands with
      | routing there =>
          exact ⟨.opened known there,
            .created ⟨_, ⟨List.mem_append_right _ List.mem_cons_self, rfl⟩, rfl⟩⟩
  | @added roomId peerId ref room known found =>
      cases stands with
      | adding holds =>
          obtain ⟨_, found', right, rfl⟩ := holds
          cases Option.some.inj (found.symm.trans found')
          have change := @Change.added service ref peerId room known found
          have hosts : service.Hosts roomId room.router :=
            HoldsRoom.hosts ⟨room, found, right, rfl⟩
          exact ⟨change, .added (change.grows.hosts hosts)
            ((Lifetimes.has_create known).mpr (Or.inr ⟨rfl, rfl, rfl⟩))⟩
  | connected =>
      cases stands with
      | connecting hosts there => exact ⟨same, .connected hosts there⟩
  | @produced roomId transportId kind peerId ref known =>
      cases stands with
      | @producing _ _ _ _ _ _ owner holds there =>
          obtain ⟨room, found, right, rfl⟩ := holds
          have change :=
            @Change.produced service ref transportId owner kind room known found there
          have hosts : service.Hosts roomId room.router :=
            HoldsRoom.hosts ⟨room, found, right, rfl⟩
          exact ⟨change, .produced (change.grows.hosts hosts) (change.grows.has there)
            ((Lifetimes.has_create known).mpr (Or.inr ⟨rfl, rfl, rfl⟩))⟩
  | @consumed roomId _ _ _ _ _ _ known =>
      cases stands with
      | consuming holds there producer sends =>
          obtain ⟨room, found, right, rfl⟩ := holds
          have change := Change.consumed known found there producer sends
          have hosts : service.Hosts roomId room.router :=
            HoldsRoom.hosts ⟨room, found, right, rfl⟩
          exact ⟨change, .consumed (change.grows.hosts hosts) (change.grows.has there)
            (change.grows.has producer) (change.grows.has sends)
            ((Lifetimes.has_create known).mpr (Or.inr ⟨rfl, rfl, rfl⟩))⟩
  | resumed =>
      cases stands with
      | resuming hosts there transport => exact ⟨same, .resumed hosts there transport⟩
  | failed _ _ => exact ⟨same, .threw⟩

end Service

-----------------------------------------------------------------------------------------
-- All interleavings
-----------------------------------------------------------------------------------------

section Threads

variable {threads : List Call} {index : Nat} {request : Request} {stage stage' : Stage}

/-- A thread after another one has gone on, or it has itself. -/
theorem getElem?_set_call {other : Nat} {call : Call}
    (found : threads[index]? = some ⟨request, stage⟩)
    : (threads.set index ⟨request, stage'⟩)[other]? = some call
      ↔ (other ≠ index ∧ threads[other]? = some call)
        ∨ (other = index ∧ call = ⟨request, stage'⟩) := by
  rw [List.getElem?_set]
  by_cases same : index = other
  · subst same
    simp [(List.getElem?_eq_some_iff.mp found).1, eq_comm]
  · simp [same, Ne.symm same]

/-- A thread after another one has come. -/
theorem getElem?_concat_call {other : Nat} {call new : Call}
    : (threads ++ [new])[other]? = some call
      ↔ threads[other]? = some call ∨ (other = threads.length ∧ call = new) := by
  rcases Nat.lt_trichotomy other threads.length with old | rfl | beyond
  · have apart : other ≠ threads.length := by omega
    simp [List.getElem?_append_left old, apart]
  · simp [eq_comm]
  · have apart : other ≠ threads.length := by omega
    rw [List.getElem?_eq_none (by simp; omega), List.getElem?_eq_none (by omega)]
    simp [apart]

/-- The requests stay the same. -/
theorem request_of_set {other : Nat} {request' : Request} {stage'' : Stage}
    (found : threads[index]? = some ⟨request, stage⟩)
    (there : (threads.set index ⟨request, stage'⟩)[other]? = some ⟨request', stage''⟩)
    : ∃ before, threads[other]? = some ⟨request', before⟩ := by
  rcases (getElem?_set_call found).mp there with ⟨_, before⟩ | ⟨rfl, same⟩
  · exact ⟨stage'', before⟩
  · cases same
    exact ⟨stage, found⟩

/-- The other calls stay. -/
theorem mem_set_call {call : Call} (found : threads[index]? = some ⟨request, stage⟩)
    (member : call ∈ threads) (apart : call ≠ ⟨request, stage⟩)
    : call ∈ threads.set index ⟨request, stage'⟩ := by
  obtain ⟨place, there⟩ := List.mem_iff_getElem?.mp member
  refine List.mem_iff_getElem?.mpr ⟨place, (getElem?_set_call found).mpr (Or.inl ⟨?_, there⟩)⟩
  rintro rfl
  exact apart (Option.some.inj (found.symm.trans there)).symm

end Threads

section Runs

variable {compatible : Uuid → Capabilities → Bool} {pool next : Pool Service Call}
  {action : Move Call Completion}

/-- A move appends an admitted call, or leads one call on. -/
theorem move_cases
    (moved : (sfuProgram compatible).move pool action = some next)
    : (∃ request,
        pool.shared.admits pool.threads.length request = true
        ∧ next.shared = (pool.shared.begin compatible request).1
        ∧ next.threads
          = pool.threads ++ [⟨request, (pool.shared.begin compatible request).2⟩]
        ∧ action = .start ⟨request, (pool.shared.begin compatible request).2⟩)
      ∨ ∃ index request stage stage',
          pool.threads[index]? = some ⟨request, stage⟩
          ∧ Service.Turn pool.shared request stage next.shared stage'
          ∧ next.threads = pool.threads.set index ⟨request, stage'⟩
          ∧ ∃ input, action = .step index input := by
  cases action with
  | start call =>
      obtain ⟨started, threads⟩ := Program.move_start_some _ moved
      simp only [sfuProgram] at started
      split at started
      · next admitted =>
          obtain ⟨request, stage⟩ := call
          obtain ⟨admitted, reached⟩ := admitted
          dsimp only at admitted reached started
          rw [reached] at threads
          exact Or.inl
            ⟨request, admitted, (Option.some.inj started).symm, threads, by rw [reached]⟩
      · cases started
  | step index input =>
      obtain ⟨⟨request, stage⟩, after, found, ran, threads⟩ := Program.move_step_some _ moved
      obtain ⟨⟨service', stage'⟩, stepped, same⟩ := Option.map_eq_some_iff.mp ran
      cases same
      exact Or.inr
        ⟨index, request, stage, stage', found, Service.next_turn stepped, threads, input, rfl⟩

/-- Every move changes the service as a call may, and leads the moving call on. -/
theorem move_change (sound : Sound pool.shared)
    (stands : ∀ call ∈ pool.threads, call.Stands pool.shared)
    (moved : (sfuProgram compatible).move pool action = some next)
    : Change pool.shared next.shared
      ∧ ∀ call ∈ next.threads, call ∈ pool.threads ∨ call.Stands next.shared := by
  rcases move_cases moved
    with ⟨request, admitted, shared, threads, _⟩
      | ⟨index, request, stage, stage', found, turn, threads, _⟩
  · have begun := @Service.begin_stands compatible _ _ request sound admitted
    rw [shared, threads]
    refine ⟨begun.1, fun call member => ?_⟩
    rcases List.mem_append.mp member with before | new
    · exact Or.inl before
    · cases List.mem_singleton.mp new
      exact Or.inr begun.2
  · have gone := Service.turn_stands (stands _ (List.mem_of_getElem? found)) turn
    refine ⟨gone.1, fun call member => ?_⟩
    rw [threads] at member
    rcases List.mem_or_eq_of_mem_set member with before | rfl
    · exact Or.inl before
    · exact Or.inr gone.2

/-- The service is sound, and every call stands. -/
structure Standing (pool : Pool Service Call) : Prop where
  sound : Sound pool.shared
  stands : ∀ call ∈ pool.threads, call.Stands pool.shared

/-- Every move keeps that. -/
theorem Standing.move (standing : Standing pool)
    (moved : (sfuProgram compatible).move pool action = some next)
    : Standing next := by
  obtain ⟨change, calls⟩ := move_change standing.sound standing.stands moved
  refine ⟨standing.sound.change change, fun call member => ?_⟩
  rcases calls call member with before | stands
  · exact change.grows.stands (standing.stands call before)
  · exact stands

/-- It holds in every interleaving. -/
theorem Standing.reaches {moves : List (Move Call Completion)}
    (run : (sfuMachine compatible).Reaches moves pool)
    : Standing pool :=
  run.invariant Standing ⟨.init, by simp [Program.machine]⟩ Standing.move

/-- From there on the service only grows. -/
theorem Standing.grows {moves : List (Move Call Completion)} (standing : Standing pool)
    (run : (sfuMachine compatible).exec pool moves = some next)
    : Grows pool.shared next.shared :=
  (sfuMachine compatible).exec_relates Standing
    (fun before after => Grows before.shared after.shared)
    Standing.move (fun pool => .refl pool.shared) Grows.trans
    (fun standing moved => (move_change standing.sound standing.stands moved).1.grows)
    standing run

end Runs

end NexusComms.Sfu.Streams
