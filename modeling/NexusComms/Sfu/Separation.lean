import NexusComms.Sfu.Calls

/-! Media does not cross rooms: whatever transport, producer or consumer a call works on has been
returned by a call for the same room, and what a consumer lives on is all of that room.
-/

namespace NexusComms.Sfu.Streams

open Concurrency Signaling Storage

-----------------------------------------------------------------------------------------
-- What an object lives on
-----------------------------------------------------------------------------------------

namespace Wired

variable {library : Library} {routers : List Uuid} {index target router : Uuid}

/-- A worker lives on nothing else. -/
theorem worker_iff (wired : Wired library routers) {watched : Bool} {parents : List Uuid}
    (there : library.Has index (.worker watched) parents)
    : library.DependsOn index target ↔ target = index := by
  cases wired _ _ _ there
  rw [there.dependsOn_iff]
  simp

/-- A router lives on its worker. -/
theorem router_iff (wired : Wired library routers) {worker : Uuid}
    (there : library.Has index .router [worker])
    : library.DependsOn index target ↔ target = index ∨ target = worker := by
  obtain ⟨_, worker', watched, same, lives⟩ := wired _ _ _ there
  cases List.singleton_inj.mp same
  rw [there.dependsOn_iff]
  simp [wired.worker_iff lives]

/-- A transport lives on its router and on what that lives on. -/
theorem transport_iff {peerId : SocketId}
    (there : library.Has index (.transport peerId) [router])
    : library.DependsOn index target ↔ target = index ∨ library.DependsOn router target := by
  rw [there.dependsOn_iff]
  simp

/-- A producer lives on its transport. -/
theorem producer_iff {kind : Kind} {transportId : Uuid}
    (there : library.Has index (.producer kind) [transportId])
    : library.DependsOn index target
      ↔ target = index ∨ library.DependsOn transportId target := by
  rw [there.dependsOn_iff]
  simp

/-- A consumer lives on its transport and on what it consumes. -/
theorem consumer_iff {kind : Kind} {transportId producerId : Uuid}
    (there : library.Has index (.consumer kind) [transportId, producerId])
    : library.DependsOn index target
      ↔ target = index
        ∨ library.DependsOn transportId target
        ∨ library.DependsOn producerId target := by
  rw [there.dependsOn_iff]
  simp

/-- The router of an object other than a worker: it lives on that one alone. -/
inductive Home (library : Library) : Uuid → Uuid → Prop
  | router {index worker} (there : library.Has index .router [worker]) : Home library index index
  | transport {index peerId router} (there : library.Has index (.transport peerId) [router])
    : Home library index router
  | producer {index kind transportId peerId router}
    (there : library.Has index (.producer kind) [transportId])
    (transport : library.Has transportId (.transport peerId) [router])
    : Home library index router
  | consumer {index kind transportId producerId owner source sender router}
    (there : library.Has index (.consumer kind) [transportId, producerId])
    (transport : library.Has transportId (.transport owner) [router])
    (producer : library.Has producerId (.producer kind) [source])
    (sends : library.Has source (.transport sender) [router])
    : Home library index router

/-- Every object other than a worker has one. -/
theorem home (wired : Wired library routers) {value : Resource} {parents : List Uuid}
    (there : library.Has index value parents) (other : ∀ watched, value ≠ .worker watched)
    : ∃ router ∈ routers, Home library index router := by
  cases value with
  | worker watched => exact absurd rfl (other watched)
  | router =>
      obtain ⟨member, worker, _, rfl, _⟩ := wired _ _ _ there
      exact ⟨index, member, .router there⟩
  | transport _ =>
      obtain ⟨router, member, rfl⟩ := wired _ _ _ there
      exact ⟨router, member, .transport there⟩
  | producer _ =>
      obtain ⟨router, member, _, _, rfl, transport⟩ := wired _ _ _ there
      exact ⟨router, member, .producer there transport⟩
  | consumer _ =>
      obtain ⟨router, member, _, _, _, _, _, rfl, transport, producer, sends⟩ :=
        wired _ _ _ there
      exact ⟨router, member, .consumer there transport producer sends⟩

/-- A router that lives on a router is the same one. -/
theorem router_of_router (wired : Wired library routers) {worker other : Uuid}
    {parents : List Uuid} (there : library.Has index .router [worker])
    (router : library.Has other .router parents) (depends : library.DependsOn index other)
    : other = index := by
  rcases (wired.router_iff there).mp depends with same | rfl
  · exact same
  · obtain ⟨_, _, _, same, lives⟩ := wired _ _ _ there
    cases List.singleton_inj.mp same
    cases (router.unique lives).1

/-- An object lives on no other router than its own. -/
theorem Home.router_eq {other worker : Uuid} (home : Home library index router)
    (wired : Wired library routers) (there : library.Has router .router [worker])
    {parents : List Uuid} (isRouter : library.Has other .router parents)
    (depends : library.DependsOn index other)
    : other = router := by
  have apart {index : Uuid} {value : Resource} {parents' : List Uuid}
      (has : library.Has index value parents') (different : value ≠ .router)
      : other ≠ index := by
    rintro rfl
    exact different (isRouter.unique has).1
  have through {transportId : Uuid} {peerId : SocketId}
      (has : library.Has transportId (.transport peerId) [router])
      (depends : library.DependsOn transportId other)
      : other = router := by
    rcases (transport_iff has).mp depends with same | above
    · exact absurd same (apart has (by simp))
    · exact wired.router_of_router there isRouter above
  cases home with
  | router _ => exact wired.router_of_router there isRouter depends
  | transport has => exact through has depends
  | producer has transport =>
      rcases (producer_iff has).mp depends with same | above
      · exact absurd same (apart has (by simp))
      · exact through transport above
  | consumer has transport producer sends =>
      rcases (consumer_iff has).mp depends with same | above | above
      · exact absurd same (apart has (by simp))
      · exact through transport above
      · rcases (producer_iff producer).mp above with same | above
        · exact absurd same (apart producer (by simp))
        · exact through sends above

/-- An object lives on its router. -/
theorem Home.dependsOn (home : Home library index router) : library.DependsOn index router := by
  cases home with
  | router _ => exact .refl
  | transport there => exact (transport_iff there).mpr (Or.inr .refl)
  | producer there transport =>
      exact (producer_iff there).mpr (Or.inr ((transport_iff transport).mpr (Or.inr .refl)))
  | consumer there transport _ _ =>
      exact (consumer_iff there).mpr
        (Or.inr (Or.inl ((transport_iff transport).mpr (Or.inr .refl))))

end Wired

/-- A room's router exists, and the rooms of one router have one id. -/
theorem Sound.hosts_unique {service : Service} (sound : Sound service) {roomId other : Text}
    {router : Uuid} (left : service.Hosts roomId router) (right : service.Hosts other router)
    : other = roomId := by
  obtain ⟨room, ⟨here, rfl⟩, rfl⟩ := left
  obtain ⟨room', ⟨there, rfl⟩, same⟩ := right
  rw [sound.same_room here there same]

-----------------------------------------------------------------------------------------
-- Who made an object
-----------------------------------------------------------------------------------------

namespace Service

variable {compatible : Uuid → Capabilities → Bool} {service service' : Service}
  {request : Request} {index : Uuid} {value : Resource} {parents : List Uuid}

/-- Up to its first await, a call makes nothing. -/
theorem begin_has
    (there : (service.begin compatible request).1.library.Has index value parents)
    : service.library.Has index value parents := by
  cases request with
  | onModuleInit installed numCpu => cases installed <;> exact there
  | onModuleDestroy => exact Lifetimes.has_closeAll.mp there
  | died worker =>
      simp only [begin, died] at there
      split at there
      · exact Lifetimes.has_close.mp there
      · exact Lifetimes.has_close.mp there
  | createRoom roomId =>
      simp only [begin, createRoom, nextWorker] at there
      split at there
      · exact there
      · next present =>
          rw [if_neg (fun none => present (Or.inr none))] at there
          cases drawn : service.workers[service.workerIndex % service.workers.length]? with
          | none =>
              simp only [drawn] at there
              exact there
          | some worker =>
              simp only [drawn] at there
              exact there
  | createWebRtcTransport roomId peerId => exact there
  | connectTransport roomId transportId => exact there
  | produce roomId transportId kind peerId => exact there
  | consume roomId peerId producerId rtpCapabilities transportId => exact there
  | resumeConsumer roomId consumerId => exact there
  | removeParticipant roomId peerId =>
      cases found : service.room roomId with
      | none =>
          simp only [begin, removeParticipant_absent found] at there
          exact there
      | some entry =>
          simp only [begin, removeParticipant_found found] at there
          exact Lifetimes.has_closeAll.mp there

/-- A transport, producer or consumer that a call makes is what it returns. -/
theorem Turn.has {stage stage' : Stage} (turn : Turn service request stage service' stage')
    (there : service'.library.Has index value parents)
    : service.library.Has index value parents
      ∨ (∃ watched, value = .worker watched)
      ∨ value = .router
      ∨ ∃ roomId, Call.gives ⟨request, stage'⟩ = some (roomId, index) := by
  cases turn with
  | abandoned | connected | resumed | failed _ _ => exact Or.inl there
  | spawned known _ | replaced known =>
      rcases (Lifetimes.has_create known).mp there with before | ⟨_, rfl, _⟩
      · exact Or.inl before
      · exact Or.inr (Or.inl ⟨_, rfl⟩)
  | routed known =>
      rcases (Lifetimes.has_create known).mp there with before | ⟨_, rfl, _⟩
      · exact Or.inl before
      · exact Or.inr (Or.inr (Or.inl rfl))
  | added known _ | produced known | consumed known =>
      rcases (Lifetimes.has_create known).mp there with before | ⟨rfl, _, _⟩
      · exact Or.inl before
      · exact Or.inr (Or.inr (Or.inr ⟨_, rfl⟩))

end Service

/-- Transports, producers and consumers are what calls have returned. -/
def Accounted (pool : Pool Service Call) : Prop :=
  ∀ index value parents,
    pool.shared.library.Has index value parents →
      (∃ watched, value = .worker watched)
      ∨ value = .router
      ∨ ∃ call ∈ pool.threads, ∃ roomId, call.gives = some (roomId, index)

variable {compatible : Uuid → Capabilities → Bool}

/-- A call that has given something is still there after a move. -/
theorem gives_stays {pool next : Pool Service Call} {move : Move Call Completion} {call : Call}
    {given : Text × Uuid} (gives : call.gives = some given) (member : call ∈ pool.threads)
    (moved : (sfuProgram compatible).move pool move = some next)
    : call ∈ next.threads := by
  rcases move_cases moved
    with ⟨_, _, _, threads, _⟩ | ⟨index, request, stage, stage', found, turn, threads, _⟩
  · rw [threads]
    exact List.mem_append_left _ member
  · rw [threads]
    refine mem_set_call found member ?_
    rintro rfl
    cases stage with
    | returned answer => exact turn.waits answer rfl
    | _ => cases request <;> cases gives

/-- Every move keeps the account. -/
theorem Accounted.move {pool next : Pool Service Call} {move : Move Call Completion}
    (accounted : Accounted pool) (moved : (sfuProgram compatible).move pool move = some next)
    : Accounted next := by
  intro index value parents there
  have old (before : pool.shared.library.Has index value parents)
      : (∃ watched, value = .worker watched)
        ∨ value = .router
        ∨ ∃ call ∈ next.threads, ∃ roomId, call.gives = some (roomId, index) := by
    refine (accounted index value parents before).imp_right (Or.imp_right ?_)
    rintro ⟨call, member, roomId, gives⟩
    exact ⟨call, gives_stays gives member moved, roomId, gives⟩
  rcases move_cases moved
    with ⟨_, _, shared, _⟩ | ⟨position, request, stage, stage', found, turn, threads, _⟩
  · rw [shared] at there
    exact old (Service.begin_has there)
  · rcases turn.has there with before | worker | router | ⟨roomId, gives⟩
    · exact old before
    · exact Or.inl worker
    · exact Or.inr (Or.inl router)
    · refine Or.inr (Or.inr ⟨_, ?_, roomId, gives⟩)
      rw [threads]
      exact List.mem_set (List.getElem?_eq_some_iff.mp found).1 _

/-- It holds in every interleaving. -/
theorem Accounted.reaches {moves : List (Move Call Completion)} {pool : Pool Service Call}
    (run : (sfuMachine compatible).Reaches moves pool)
    : Accounted pool :=
  run.invariant Accounted
    (by
      rintro index value parents ⟨_, found⟩
      cases found)
    Accounted.move

-----------------------------------------------------------------------------------------
-- Rooms are separate
-----------------------------------------------------------------------------------------

/-- What a call has returned lives on a router of the room that it named. -/
theorem Call.Stands.given {service : Service} {call : Call} {roomId : Text} {index : Uuid}
    (stands : call.Stands service) (gives : call.gives = some (roomId, index))
    : ∃ router, service.Hosts roomId router ∧ Wired.Home service.library index router := by
  cases stands with
  | added hosts there =>
      cases gives
      exact ⟨_, hosts, .transport there⟩
  | produced hosts there made =>
      cases gives
      exact ⟨_, hosts, .producer made there⟩
  | consumed hosts there producer sends made =>
      cases gives
      exact ⟨_, hosts, .consumer made there producer sends⟩
  | @done request _ | @threw request _ => cases request <;> cases gives
  | _ => cases gives

/-- What a call that has returned has worked on lives on a router of the room that it named,
and is neither a worker nor a router. -/
theorem Call.Stands.used {service : Service} {call : Call} {answer : Answer} {roomId : Text}
    {index : Uuid} (stands : call.Stands service) (sound : Sound service)
    (finished : call.stage = .returned answer) (uses : (roomId, index) ∈ call.request.uses)
    : ∃ router value parents,
        service.Hosts roomId router
        ∧ Wired.Home service.library index router
        ∧ service.library.Has index value parents
        ∧ (∀ watched, value ≠ .worker watched)
        ∧ value ≠ .router := by
  cases stands with
  | connected hosts there =>
      cases List.mem_singleton.mp uses
      exact ⟨_, _, _, hosts, .transport there, there, by simp, by simp⟩
  | produced hosts there made =>
      cases List.mem_singleton.mp uses
      exact ⟨_, _, _, hosts, .transport there, there, by simp, by simp⟩
  | consumed hosts there producer sends made =>
      rcases List.mem_cons.mp uses with same | last
      · cases same
        exact ⟨_, _, _, hosts, .producer producer sends, producer, by simp, by simp⟩
      · cases List.mem_singleton.mp last
        exact ⟨_, _, _, hosts, .transport there, there, by simp, by simp⟩
  | resumed hosts there transport =>
      cases List.mem_singleton.mp uses
      obtain ⟨router, _, _, _, _, _, _, same, transport', producer, sends⟩ :=
        sound.wired _ _ _ there
      cases same
      cases (transport.unique transport').2
      exact ⟨_, _, _, hosts, .consumer there transport producer sends, there, by simp, by simp⟩
  | done plain =>
      dsimp only at uses
      rw [plain] at uses
      cases uses
  | added _ _ | created _ => cases uses
  | _ => cases finished

/-- An object that one call for a room has worked on, and another call has given, belongs to the
room for both of them. -/
theorem Standing.same_room {pool : Pool Service Call} (standing : Standing pool)
    {roomId other : Text} {router home index : Uuid}
    (hosts : pool.shared.Hosts roomId router)
    (lives : Wired.Home pool.shared.library index router)
    (hosts' : pool.shared.Hosts other home)
    (lives' : Wired.Home pool.shared.library index home)
    : home = router ∧ other = roomId := by
  have hosts₀ := hosts
  have hosts₁ := hosts'
  obtain ⟨room, ⟨here, _⟩, rfl⟩ := hosts
  obtain ⟨room', ⟨there, _⟩, rfl⟩ := hosts'
  obtain ⟨_, worker, has⟩ := standing.sound.rooms room here
  obtain ⟨_, worker', has'⟩ := standing.sound.rooms room' there
  have same := lives.router_eq standing.sound.wired has has' lives'.dependsOn
  refine ⟨same, ?_⟩
  rw [same] at hosts₁
  exact standing.sound.hosts_unique hosts₀ hosts₁

/-- In every interleaving, a call that returns has worked on what a call for the same room has
returned: nobody connects, produces on, consumes or resumes what belongs to another room. -/
theorem uses_given {moves : List (Move Call Completion)} {pool : Pool Service Call}
    (run : (sfuMachine compatible).Reaches moves pool) {call : Call}
    (member : call ∈ pool.threads) {answer : Answer} (finished : call.stage = .returned answer)
    {roomId : Text} {index : Uuid} (uses : (roomId, index) ∈ call.request.uses)
    : ∃ other ∈ pool.threads, other.gives = some (roomId, index) := by
  have standing := Standing.reaches run
  obtain ⟨router, value, parents, hosts, home, there, notWorker, notRouter⟩ :=
    (standing.stands call member).used standing.sound finished uses
  rcases Accounted.reaches run index value parents there
    with ⟨watched, worker⟩ | isRouter | ⟨other, made, roomId', gives⟩
  · exact absurd worker (notWorker watched)
  · exact absurd isRouter notRouter
  · obtain ⟨router', hosts', home'⟩ := (standing.stands other made).given gives
    cases (standing.same_room hosts home hosts' home').2
    exact ⟨other, made, gives⟩

/-- The pool after a run; all capabilities go with all producers. -/
def poolAfter (moves : List (Move Call Completion)) : Pool Service Call :=
  ((sfuMachine (fun _ _ => true)).exec ⟨.init, []⟩ moves).getD ⟨.init, []⟩

/-- Two peers have transports in a room, and the second one consumes what the first one sends.
-/
def heard : List (Move Call Completion) :=
  [.start ⟨.onModuleInit true 2, .createWorker 0⟩, .step 0 .done, .step 0 .done,
    .start ⟨.createRoom (.other 0), .createRouter 0⟩, .step 1 .done,
    .start ⟨.createWebRtcTransport (.other 0) 7, .createWebRtcTransport 0⟩, .step 2 .done,
    .start ⟨.createWebRtcTransport (.other 0) 8, .createWebRtcTransport 0⟩, .step 3 .done,
    .start ⟨.produce (.other 0) 3 .audio 7, .produce 0⟩, .step 4 .done,
    .start ⟨.consume (.other 0) 8 5 0 4, .consume 0 .audio⟩, .step 5 .done]

theorem uses_given_heard
    : ∃ other ∈ (poolAfter heard).threads, other.gives = some (.other 0, 5) := by
  have run : (sfuMachine (fun _ _ => true)).Reaches heard (poolAfter heard) := rfl
  have member
      : ⟨.consume (.other 0) 8 5 0 4, .returned (.consumer 6 5 .audio)⟩
        ∈ (poolAfter heard).threads := by
    decide
  exact uses_given run member rfl List.mem_cons_self

-----------------------------------------------------------------------------------------
-- What a consumer lives on
-----------------------------------------------------------------------------------------

namespace Standing

variable {pool : Pool Service Call} {roomId : Text} {router index : Uuid}

/-- A transport of a room's router has been returned to its peer, for that room. -/
theorem transport_made (standing : Standing pool) (accounted : Accounted pool)
    {peerId : SocketId} (hosts : pool.shared.Hosts roomId router)
    (there : pool.shared.library.Has index (.transport peerId) [router])
    : ⟨.createWebRtcTransport roomId peerId, .returned (.transport index)⟩ ∈ pool.threads := by
  rcases accounted index _ _ there
    with ⟨_, impossible⟩ | impossible | ⟨call, member, other, gives⟩
  · cases impossible
  · cases impossible
  · obtain ⟨home, hosts', lives⟩ := (standing.stands call member).given gives
    cases (standing.same_room hosts (.transport there) hosts' lives).2
    cases standing.stands call member with
    | added _ has =>
        cases gives
        cases (there.unique has).1
        exact member
    | produced _ _ has =>
        cases gives
        cases (there.unique has).1
    | consumed _ _ _ _ has =>
        cases gives
        cases (there.unique has).1
    | @done request _ | @threw request _ => cases request <;> cases gives
    | _ => cases gives

/-- So has a producer. -/
theorem producer_made (standing : Standing pool) (accounted : Accounted pool) {kind : Kind}
    {source : Uuid} {sender : SocketId} (hosts : pool.shared.Hosts roomId router)
    (there : pool.shared.library.Has index (.producer kind) [source])
    (sends : pool.shared.library.Has source (.transport sender) [router])
    : ∃ peerId,
        ⟨.produce roomId source kind peerId, .returned (.producer index)⟩ ∈ pool.threads := by
  rcases accounted index _ _ there
    with ⟨_, impossible⟩ | impossible | ⟨call, member, other, gives⟩
  · cases impossible
  · cases impossible
  · obtain ⟨home, hosts', lives⟩ := (standing.stands call member).given gives
    cases (standing.same_room hosts (.producer there sends) hosts' lives).2
    cases standing.stands call member with
    | added _ has =>
        cases gives
        cases (there.unique has).1
    | produced _ _ has =>
        cases gives
        obtain ⟨same, parents⟩ := there.unique has
        cases same
        cases parents
        exact ⟨_, member⟩
    | consumed _ _ _ _ has =>
        cases gives
        cases (there.unique has).1
    | @done request _ | @threw request _ => cases request <;> cases gives
    | _ => cases gives

end Standing

/-- In every interleaving, what `consume` returns plays a producer of the same room on a
transport of the same room, and it is closed with these two, with the transport on which the
producer sends, with the router of the room and with its worker, and with nothing else. -/
theorem consumer_lives_on {moves : List (Move Call Completion)} {pool : Pool Service Call}
    (run : (sfuMachine compatible).Reaches moves pool) {roomId : Text} {peerId : SocketId}
    {producerId producerId' transportId consumerId : Uuid} {rtpCapabilities : Capabilities}
    {kind : Kind}
    (consumed
      : ⟨.consume roomId peerId producerId rtpCapabilities transportId,
          .returned (.consumer consumerId producerId' kind)⟩
        ∈ pool.threads)
    : producerId' = producerId
      ∧ ∃ receiver sender producing source router worker,
          ⟨.createWebRtcTransport roomId receiver, .returned (.transport transportId)⟩
            ∈ pool.threads
          ∧ ⟨.createWebRtcTransport roomId sender, .returned (.transport source)⟩ ∈ pool.threads
          ∧ ⟨.produce roomId source kind producing, .returned (.producer producerId)⟩
            ∈ pool.threads
          ∧ pool.shared.Hosts roomId router
          ∧ pool.shared.library.On router worker
          ∧ ∀ target,
              pool.shared.library.DependsOn consumerId target
                ↔ target ∈ [consumerId, transportId, producerId, source, router, worker] := by
  have standing := Standing.reaches run
  have accounted := Accounted.reaches run
  have wired := standing.sound.wired
  cases standing.stands _ consumed with
  | @consumed _ _ _ _ _ _ router owner source sender _ hosts there producer sends made =>
      obtain ⟨producing, producerMade⟩ := standing.producer_made accounted hosts producer sends
      have hosts₀ := hosts
      obtain ⟨room, ⟨here, _⟩, rfl⟩ := hosts₀
      obtain ⟨_, worker, isRouter⟩ := standing.sound.rooms room here
      refine ⟨rfl, owner, sender, producing, source, room.router, worker,
        standing.transport_made accounted hosts there,
        standing.transport_made accounted hosts sends, producerMade, hosts,
        isRouter.on_iff.mpr List.mem_cons_self, fun target => ?_⟩
      rw [Wired.consumer_iff made, Wired.transport_iff there, Wired.producer_iff producer,
        Wired.transport_iff sends, wired.router_iff isRouter]
      simp only [List.mem_cons, List.not_mem_nil, or_false]
      tauto

theorem consumer_lives_on_heard
    : ∃ source router worker,
        ∀ target,
          (poolAfter heard).shared.library.DependsOn 6 target
            ↔ target ∈ [6, 4, 5, source, router, worker] := by
  have run : (sfuMachine (fun _ _ => true)).Reaches heard (poolAfter heard) := rfl
  have member
      : ⟨.consume (.other 0) 8 5 0 4, .returned (.consumer 6 5 .audio)⟩
        ∈ (poolAfter heard).threads := by
    decide
  obtain ⟨_, _, _, _, source, router, worker, _, _, _, _, _, lives⟩ :=
    consumer_lives_on run member
  exact ⟨source, router, worker, lives⟩

end NexusComms.Sfu.Streams
