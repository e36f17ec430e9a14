import NexusComms.Sfu.Removal

/-! The workers of the media library: who is in `this.workers`, and what becomes of a worker that
dies. A worker from `spawnWorkers` is replaced once, its replacement never, and no worker is
open that the service has lost.
-/

namespace NexusComms.Sfu.Streams

open Concurrency Signaling Storage

/-- The service keeps its workers as they are, open or not. -/
structure SameStaff (service service' : Service) : Prop where
  workers : service'.workers = service.workers
  mediasoup : service'.mediasoup = service.mediasoup
  has
    : ∀ {index watched parents},
        service'.library.Has index (.worker watched) parents
          ↔ service.library.Has index (.worker watched) parents
  isOpen
    : ∀ {index watched parents},
        service.library.Has index (.worker watched) parents →
          (service'.library.isOpen index = true ↔ service.library.isOpen index = true)

namespace SameStaff

variable {service service' : Service}

/-- The library is left alone. -/
theorem of_library (library : service'.library = service.library)
    (workers : service'.workers = service.workers)
    (mediasoup : service'.mediasoup = service.mediasoup)
    : SameStaff service service' where
  workers := workers
  mediasoup := mediasoup
  has := by rw [library]
  isOpen _ := by rw [library]

/-- Something else than a worker is created. -/
theorem of_create {value : Resource} {parents : List Uuid}
    (known : ∀ parent ∈ parents, parent < service.library.objects.length)
    (other : ∀ watched, value ≠ .worker watched)
    (library : service'.library = service.library.create value parents known)
    (workers : service'.workers = service.workers)
    (mediasoup : service'.mediasoup = service.mediasoup)
    : SameStaff service service' where
  workers := workers
  mediasoup := mediasoup
  has := by
    intro index watched parents'
    rw [library, Lifetimes.has_create]
    exact or_iff_left (fun new => other watched new.2.1.symm)
  isOpen there := by rw [library, Lifetimes.isOpen_create_of_lt known there.lt]

/-- A removal closes no worker. -/
theorem removed (sound : Sound service) (roomId : Text) (peerId : SocketId)
    : SameStaff service (service.removeParticipant roomId peerId) := by
  cases found : service.room roomId with
  | none =>
      rw [Service.removeParticipant_absent found]
      exact .of_library rfl rfl rfl
  | some entry =>
      obtain ⟨ref, room⟩ := entry
      have here := List.mem_of_getElem? (Service.room_some.mp found).2
      obtain ⟨_, worker, isRouter⟩ := sound.rooms room here
      have shape := @Service.removeParticipant_found service roomId peerId ref room found
      refine ⟨by rw [shape], by rw [shape], ?_, fun {index watched parents} there => ?_⟩
      · intro index watched parents
        rw [shape]
        exact Lifetimes.has_closeAll
      · rw [sound.removal_other found there (Or.inl ⟨watched, rfl⟩)]
        refine and_iff_left ?_
        rintro ⟨rfl, _⟩
        cases (isRouter.unique there).1

/-- A request other than a death and the end leaves the workers alone at first. -/
theorem begun {compatible : Uuid → Capabilities → Bool} (sound : Sound service)
    {request : Request} (alive : ∀ worker, request ≠ .died worker)
    (goesOn : request ≠ .onModuleDestroy) (later : ∀ numCpu, request ≠ .onModuleInit true numCpu)
    : SameStaff service (service.begin compatible request).1 := by
  cases request with
  | onModuleInit installed numCpu =>
      cases installed with
      | false => exact .of_library rfl rfl rfl
      | true => exact absurd rfl (later numCpu)
  | onModuleDestroy => exact absurd rfl goesOn
  | died worker => exact absurd rfl (alive worker)
  | createRoom roomId =>
      simp only [Service.begin, Service.createRoom, Service.nextWorker]
      split
      · exact .of_library rfl rfl rfl
      · next present =>
          rw [if_neg (fun none => present (Or.inr none))]
          cases service.workers[service.workerIndex % service.workers.length]? with
          | none => exact .of_library rfl rfl rfl
          | some worker => exact .of_library rfl rfl rfl
  | removeParticipant roomId peerId => exact removed sound roomId peerId
  | createWebRtcTransport roomId peerId => exact .of_library rfl rfl rfl
  | connectTransport roomId transportId => exact .of_library rfl rfl rfl
  | produce roomId transportId kind peerId => exact .of_library rfl rfl rfl
  | consume roomId peerId producerId rtpCapabilities transportId => exact .of_library rfl rfl rfl
  | resumeConsumer roomId consumerId => exact .of_library rfl rfl rfl

/-- Only `onModuleInit` makes the service ready, at first. -/
theorem ready_begun {compatible : Uuid → Capabilities → Bool} {request : Request}
    (later : ∀ installed numCpu, request ≠ .onModuleInit installed numCpu)
    : (service.begin compatible request).1.ready = service.ready := by
  cases request with
  | onModuleInit installed numCpu => exact absurd rfl (later _ _)
  | died worker =>
      simp only [Service.begin, Service.died]
      split <;> rfl
  | createRoom roomId =>
      simp only [Service.begin, Service.createRoom, Service.nextWorker]
      split
      · rfl
      · next present =>
          rw [if_neg (fun none => present (Or.inr none))]
          cases service.workers[service.workerIndex % service.workers.length]? <;> rfl
  | removeParticipant roomId peerId =>
      simp only [Service.begin]
      cases found : service.room roomId with
      | none => rw [Service.removeParticipant_absent found]
      | some entry => rw [Service.removeParticipant_found found]
  | _ => rfl

/-- A step that creates no worker leaves the workers alone, and whether the service is ready. -/
theorem stepped {request : Request} {stage stage' : Stage}
    (turn : Service.Turn service request stage service' stage')
    (spawns : ∀ i, stage ≠ .createWorker i) (replaces : ∀ idx, stage ≠ .replaceWorker idx)
    : SameStaff service service'
      ∧ service'.ready = service.ready
      ∧ service'.workerIndex = service.workerIndex
      ∧ (∀ i, stage' ≠ .createWorker i)
      ∧ ∀ idx, stage' ≠ .replaceWorker idx := by
  cases turn with
  | spawned _ _ | abandoned => exact absurd rfl (spawns _)
  | replaced _ => exact absurd rfl (replaces _)
  | routed known =>
      exact ⟨.of_create known (by simp) rfl rfl rfl, rfl, rfl, by simp, by simp⟩
  | added known _ =>
      exact ⟨.of_create known (by simp) rfl rfl rfl, rfl, rfl, by simp, by simp⟩
  | produced known =>
      exact ⟨.of_create known (by simp) rfl rfl rfl, rfl, rfl, by simp, by simp⟩
  | consumed known =>
      exact ⟨.of_create known (by simp) rfl rfl rfl, rfl, rfl, by simp, by simp⟩
  | connected | resumed | failed _ _ =>
      exact ⟨.of_library rfl rfl rfl, rfl, rfl, by simp, by simp⟩

end SameStaff

-----------------------------------------------------------------------------------------
-- The staff in every interleaving
-----------------------------------------------------------------------------------------

/-- The service has every open worker. Each worker dies at most once; one from `spawnWorkers`
stays in its place until its replacement comes, unless that fails or the service ends. -/
structure Staffed (pool : Pool Service Call) : Prop where
  nodup : pool.shared.workers.Nodup
  mediasoup : pool.shared.workers ≠ [] → pool.shared.mediasoup = true
  few : pool.shared.workers.length ≤ 4
  kept
    : ∀ {worker watched parents},
        pool.shared.library.Has worker (.worker watched) parents →
          pool.shared.library.isOpen worker = true → worker ∈ pool.shared.workers
  spawning
    : ∀ {installed numCpu i},
        ⟨.onModuleInit installed numCpu, .createWorker i⟩ ∈ pool.threads →
          pool.shared.ready = false
          ∧ pool.shared.mediasoup = true
          ∧ pool.shared.workers.length = i
          ∧ i < Service.numWorkers numCpu
  once
    : ∀ {left right : Nat} {worker stage stage'},
        pool.threads[left]? = some ⟨.died worker, stage⟩ →
          pool.threads[right]? = some ⟨.died worker, stage'⟩ → left = right
  dead
    : ∀ {worker stage},
        ⟨.died worker, stage⟩ ∈ pool.threads →
          (∃ watched, pool.shared.library.Has worker (.worker watched) [])
          ∧ pool.shared.library.isOpen worker = false
  replacing
    : ∀ {worker idx},
        ⟨.died worker, .replaceWorker idx⟩ ∈ pool.threads →
          pool.shared.workers[idx]? = some worker
          ∧ pool.shared.library.Has worker (.worker true) []
  replaced
    : ∀ {worker},
        worker ∈ pool.shared.workers → pool.shared.library.Has worker (.worker true) [] →
          pool.shared.library.isOpen worker = false →
            (∃ idx, ⟨.died worker, .replaceWorker idx⟩ ∈ pool.threads)
            ∨ (∃ failure, ⟨.died worker, .threw failure⟩ ∈ pool.threads)
            ∨ ∃ stage, ⟨.onModuleDestroy, stage⟩ ∈ pool.threads

/-- Only the first request can be `onModuleInit`, and before it nothing is there. -/
structure InitFirst (pool : Pool Service Call) : Prop where
  first
    : ∀ {index : Nat} {installed numCpu stage},
        pool.threads[index]? = some ⟨.onModuleInit installed numCpu, stage⟩ → index = 0
  empty : pool.threads = [] → pool.shared.workers = [] ∧ pool.shared.ready = false

variable {compatible : Uuid → Capabilities → Bool} {pool next : Pool Service Call}

/-- Every move keeps the first request the only `onModuleInit`. -/
theorem InitFirst.move {move : Move Call Completion} (first : InitFirst pool)
    (moved : (sfuProgram compatible).move pool move = some next)
    : InitFirst next := by
  rcases move_cases moved
    with ⟨request, admitted, _, threads, _⟩ | ⟨position, request, _, _, found, _, threads, _⟩
  · refine ⟨fun {index installed numCpu stage} there => ?_, fun none => ?_⟩
    · rw [threads, getElem?_concat_call] at there
      rcases there with before | ⟨rfl, same⟩
      · exact first.first before
      · cases same
        exact of_decide_eq_true admitted
    · rw [threads] at none
      exact absurd none (by simp)
  · refine ⟨fun {index installed numCpu stage} there => ?_, fun none => ?_⟩
    · rw [threads, getElem?_set_call found] at there
      rcases there with ⟨_, before⟩ | ⟨rfl, same⟩
      · exact first.first before
      · cases same
        exact first.first found
    · rw [threads, List.set_eq_nil_iff] at none
      rw [none] at found
      cases found

namespace Staffed

/-- Nothing has happened to a worker, and no death and no start has got any further. -/
theorem frame (staffed : Staffed pool) (same : SameStaff pool.shared next.shared)
    (spawns
      : ∀ installed numCpu i,
          ⟨.onModuleInit installed numCpu, .createWorker i⟩ ∈ next.threads →
            ⟨.onModuleInit installed numCpu, .createWorker i⟩ ∈ pool.threads
            ∧ next.shared.ready = pool.shared.ready)
    (deaths
      : ∀ (index : Nat) worker stage,
          next.threads[index]? = some ⟨.died worker, stage⟩
            ↔ pool.threads[index]? = some ⟨.died worker, stage⟩)
    (ends
      : ∀ stage, ⟨.onModuleDestroy, stage⟩ ∈ pool.threads →
          ∃ stage', ⟨.onModuleDestroy, stage'⟩ ∈ next.threads)
    : Staffed next := by
  have death {worker stage}
      : ⟨.died worker, stage⟩ ∈ next.threads ↔ ⟨.died worker, stage⟩ ∈ pool.threads := by
    simp only [List.mem_iff_getElem?, deaths]
  constructor
  · exact same.workers ▸ staffed.nodup
  · rw [same.workers, same.mediasoup]
    exact staffed.mediasoup
  · exact same.workers ▸ staffed.few
  · intro worker watched parents there isOpen
    rw [same.workers]
    have before := same.has.mp there
    exact staffed.kept before ((same.isOpen before).mp isOpen)
  · intro installed numCpu i member
    obtain ⟨before, ready⟩ := spawns _ _ _ member
    rw [ready, same.mediasoup, same.workers]
    exact staffed.spawning before
  · intro left right worker stage stage' here there
    exact staffed.once ((deaths _ _ _).mp here) ((deaths _ _ _).mp there)
  · intro worker stage member
    obtain ⟨⟨watched, there⟩, closed⟩ := staffed.dead (death.mp member)
    refine ⟨⟨watched, same.has.mpr there⟩, ?_⟩
    rw [← Bool.not_eq_true, same.isOpen there, Bool.not_eq_true]
    exact closed
  · intro worker idx member
    obtain ⟨place, there⟩ := staffed.replacing (death.mp member)
    exact ⟨same.workers ▸ place, same.has.mpr there⟩
  · intro worker member there closed
    rw [same.workers] at member
    have before := same.has.mp there
    have wasClosed : pool.shared.library.isOpen worker = false := by
      rw [← Bool.not_eq_true, ← same.isOpen before, Bool.not_eq_true]
      exact closed
    rcases staffed.replaced member before wasClosed
      with ⟨idx, waits⟩ | ⟨failure, failed⟩ | ⟨stage, ended⟩
    · exact Or.inl ⟨idx, death.mpr waits⟩
    · exact Or.inr (Or.inl ⟨failure, death.mpr failed⟩)
    · exact Or.inr (Or.inr (ends stage ended))

/-- A request comes that is no death, no start and not the end. -/
theorem asked (staffed : Staffed pool) (same : SameStaff pool.shared next.shared)
    (ready : next.shared.ready = pool.shared.ready) {request : Request} {stage : Stage}
    (alive : ∀ worker, request ≠ .died worker)
    (later : ∀ installed numCpu, request ≠ .onModuleInit installed numCpu)
    (threads : next.threads = pool.threads ++ [⟨request, stage⟩])
    : Staffed next := by
  refine staffed.frame same ?_ ?_ ?_
  · intro installed numCpu i member
    rw [threads] at member
    rcases List.mem_append.mp member with before | new
    · exact ⟨before, ready⟩
    · cases List.mem_singleton.mp new
      exact absurd rfl (later _ _)
  · intro index worker stage'
    rw [threads, getElem?_concat_call]
    refine or_iff_left ?_
    rintro ⟨_, same⟩
    cases same
    exact alive _ rfl
  · intro stage' member
    exact ⟨stage', threads ▸ List.mem_append_left _ member⟩

/-- A request goes on that is no death and no start. -/
theorem went (staffed : Staffed pool) (same : SameStaff pool.shared next.shared)
    (ready : next.shared.ready = pool.shared.ready) {index : Nat} {request : Request}
    {stage stage' : Stage} (found : pool.threads[index]? = some ⟨request, stage⟩)
    (alive : ∀ worker, request ≠ .died worker) (later : ∀ i, stage' ≠ .createWorker i)
    (threads : next.threads = pool.threads.set index ⟨request, stage'⟩)
    : Staffed next := by
  refine staffed.frame same ?_ ?_ ?_
  · intro installed numCpu i member
    rw [threads] at member
    rcases List.mem_or_eq_of_mem_set member with before | new
    · exact ⟨before, ready⟩
    · cases new
      exact absurd rfl (later _)
  · intro other worker stage''
    rw [threads, getElem?_set_call found]
    constructor
    · rintro (⟨_, before⟩ | ⟨rfl, same⟩)
      · exact before
      · cases same
        exact absurd rfl (alive _)
    · intro there
      refine Or.inl ⟨?_, there⟩
      rintro rfl
      cases found.symm.trans there
      exact alive _ rfl
  · intro stage'' member
    obtain ⟨place, there⟩ := List.mem_iff_getElem?.mp member
    by_cases moves : place = index
    · subst moves
      cases found.symm.trans there
      refine ⟨stage', List.mem_iff_getElem?.mpr ⟨place, ?_⟩⟩
      rw [threads, getElem?_set_call found]
      exact Or.inr ⟨rfl, rfl⟩
    · refine ⟨stage'', List.mem_iff_getElem?.mpr ⟨place, ?_⟩⟩
      rw [threads, getElem?_set_call found]
      exact Or.inl ⟨moves, there⟩

/-- A closed worker is not open, whatever else is closed. -/
theorem closed_of_lost {library : Library} {targets : List Uuid} {worker : Uuid}
    (lost : library.isOpen worker = false ∨ worker ∈ targets)
    : (library.closeAll targets).isOpen worker = false := by
  rw [← Bool.not_eq_true, Lifetimes.isOpen_closeAll]
  rintro ⟨isOpen, away⟩
  rcases lost with closed | member
  · rw [closed] at isOpen
    cases isOpen
  · exact away worker member .refl

/-- Workers are closed: one that has died, or all of them at the end. -/
theorem lost (staffed : Staffed pool) (sound : Sound pool.shared) {targets : List Uuid}
    {request : Request} {stage : Stage}
    (later : ∀ installed numCpu, request ≠ .onModuleInit installed numCpu)
    (death
      : ∀ worker, request = .died worker →
          worker ∈ targets
          ∧ (∃ watched, pool.shared.library.Has worker (.worker watched) [])
          ∧ pool.shared.library.isOpen worker = true
          ∧ ∀ idx, stage = .replaceWorker idx →
              pool.shared.workers[idx]? = some worker
              ∧ pool.shared.library.Has worker (.worker true) [])
    (served
      : ∀ worker ∈ targets, worker ∈ pool.shared.workers →
          pool.shared.library.Has worker (.worker true) [] →
            pool.shared.library.isOpen worker = true →
              (∃ idx, request = .died worker ∧ stage = .replaceWorker idx)
              ∨ request = .onModuleDestroy)
    : Staffed
        ⟨{ pool.shared with library := pool.shared.library.closeAll targets },
          pool.threads ++ [⟨request, stage⟩]⟩ where
  nodup := staffed.nodup
  mediasoup := staffed.mediasoup
  few := staffed.few
  kept there isOpen :=
    staffed.kept (Lifetimes.has_closeAll.mp there) (Lifetimes.isOpen_closeAll.mp isOpen).1
  spawning member := by
    rcases List.mem_append.mp member with before | new
    · exact staffed.spawning before
    · cases List.mem_singleton.mp new
      exact absurd rfl (later _ _)
  once := by
    intro left right worker stage₁ stage₂ here there
    have fresh {index : Nat} {stage'}
        (old : pool.threads[index]? = some ⟨.died worker, stage'⟩)
        (same : request = .died worker) : False := by
      have closed := (staffed.dead (List.mem_of_getElem? old)).2
      rw [(death worker same).2.2.1] at closed
      cases closed
    rcases getElem?_concat_call.mp here with old | ⟨rfl, same⟩
    · rcases getElem?_concat_call.mp there with old' | ⟨rfl, same'⟩
      · exact staffed.once old old'
      · cases same'
        exact (fresh old rfl).elim
    · rcases getElem?_concat_call.mp there with old' | ⟨rfl, _⟩
      · cases same
        exact (fresh old' rfl).elim
      · rfl
  dead := by
    intro worker stage' member
    rcases List.mem_append.mp member with before | new
    · obtain ⟨⟨watched, there⟩, closed⟩ := staffed.dead before
      exact ⟨⟨watched, Lifetimes.has_closeAll.mpr there⟩, closed_of_lost (Or.inl closed)⟩
    · cases List.mem_singleton.mp new
      obtain ⟨target, ⟨watched, there⟩, _⟩ := death worker rfl
      exact ⟨⟨watched, Lifetimes.has_closeAll.mpr there⟩, closed_of_lost (Or.inr target)⟩
  replacing := by
    intro worker idx member
    rcases List.mem_append.mp member with before | new
    · obtain ⟨place, there⟩ := staffed.replacing before
      exact ⟨place, Lifetimes.has_closeAll.mpr there⟩
    · cases List.mem_singleton.mp new
      obtain ⟨place, there⟩ := (death worker rfl).2.2.2 idx rfl
      exact ⟨place, Lifetimes.has_closeAll.mpr there⟩
  replaced := by
    intro worker member there closed
    have before := Lifetimes.has_closeAll.mp there
    have stays {call : Call} (member : call ∈ pool.threads)
        : call ∈ pool.threads ++ [⟨request, stage⟩] :=
      List.mem_append_left _ member
    cases wasOpen : pool.shared.library.isOpen worker with
    | false =>
        rcases staffed.replaced member before wasOpen
          with ⟨idx, waits⟩ | ⟨failure, failed⟩ | ⟨stage', ended⟩
        · exact Or.inl ⟨idx, stays waits⟩
        · exact Or.inr (Or.inl ⟨failure, stays failed⟩)
        · exact Or.inr (Or.inr ⟨stage', stays ended⟩)
    | true =>
        have target : worker ∈ targets := by
          refine Decidable.byContradiction (fun apart => ?_)
          refine Bool.eq_false_iff.mp closed (Lifetimes.isOpen_closeAll.mpr ⟨wasOpen, ?_⟩)
          intro other isTarget depends
          cases (sound.wired.worker_iff before).mp depends
          exact apart isTarget
        rcases served worker target member before wasOpen with ⟨idx, rfl, rfl⟩ | rfl
        · exact Or.inl ⟨idx, List.mem_append_right _ List.mem_cons_self⟩
        · exact Or.inr (Or.inr ⟨stage, List.mem_append_right _ List.mem_cons_self⟩)

/-- The first request starts, when nobody else has called. -/
theorem started (staffed : Staffed pool) {ready mediasoup : Bool} {request : Request}
    {stage : Stage} (alive : ∀ worker, request ≠ .died worker) (none : pool.shared.workers = [])
    (spawns
      : ∀ installed numCpu i,
          request = .onModuleInit installed numCpu → stage = .createWorker i →
            ready = false ∧ mediasoup = true ∧ i = 0)
    : Staffed
        ⟨{ pool.shared with ready := ready, mediasoup := mediasoup }, [⟨request, stage⟩]⟩ where
  nodup := staffed.nodup
  mediasoup present := absurd none present
  few := staffed.few
  kept := staffed.kept
  spawning := by
    intro installed numCpu i member
    cases List.mem_singleton.mp member
    obtain ⟨notReady, required, rfl⟩ := spawns _ _ _ rfl rfl
    refine ⟨notReady, required, by simp [none], ?_⟩
    exact Nat.lt_of_lt_of_le Nat.one_pos (Nat.le_max_left _ _)
  once := by
    intro left right worker stage₁ stage₂ here _
    cases List.mem_singleton.mp (List.mem_of_getElem? here)
    exact absurd rfl (alive worker)
  dead := by
    intro worker stage' member
    cases List.mem_singleton.mp member
    exact absurd rfl (alive worker)
  replacing := by
    intro worker idx member
    cases List.mem_singleton.mp member
    exact absurd rfl (alive worker)
  replaced := by
    intro worker member
    dsimp only at member
    rw [none] at member
    cases member

/-- The new object is a worker of its own. -/
theorem fresh (sound : Sound pool.shared)
    : pool.shared.library.objects.length ∉ pool.shared.workers := by
  intro member
  obtain ⟨_, there⟩ := sound.staff _ member
  exact Nat.lt_irrefl _ there.lt

/-- A worker is spawned. -/
theorem spawned (staffed : Staffed pool) (sound : Sound pool.shared) (first : InitFirst pool)
    {index i : Nat} {installed : Bool} {numCpu : Nat} {ready : Bool} {stage : Stage}
    (known : ∀ parent ∈ [], parent < pool.shared.library.objects.length)
    (found : pool.threads[index]? = some ⟨.onModuleInit installed numCpu, .createWorker i⟩)
    (goes
      : (i + 1 < Service.numWorkers numCpu
          ∧ ready = pool.shared.ready
          ∧ stage = .createWorker (i + 1))
        ∨ (Service.numWorkers numCpu ≤ i + 1 ∧ ready = true ∧ stage = .returned .nothing))
    : Staffed
        ⟨{
          pool.shared with
          library := pool.shared.library.create (.worker true) [] known
          workers := pool.shared.workers ++ [pool.shared.library.objects.length]
          ready := ready
        }, pool.threads.set index ⟨.onModuleInit installed numCpu, stage⟩⟩ := by
  obtain ⟨notReady, required, count, room⟩ := staffed.spawning (List.mem_of_getElem? found)
  have death {other : Nat} {worker stage'}
      : (pool.threads.set index ⟨.onModuleInit installed numCpu, stage⟩)[other]?
          = some ⟨.died worker, stage'⟩
        ↔ pool.threads[other]? = some ⟨.died worker, stage'⟩ := by
    rw [getElem?_set_call found]
    constructor
    · rintro (⟨_, before⟩ | ⟨_, same⟩)
      · exact before
      · cases same
    · intro there
      refine Or.inl ⟨?_, there⟩
      rintro rfl
      cases found.symm.trans there
  have died {worker stage'}
      : ⟨.died worker, stage'⟩ ∈ pool.threads.set index ⟨.onModuleInit installed numCpu, stage⟩
        ↔ ⟨.died worker, stage'⟩ ∈ pool.threads := by
    simp only [List.mem_iff_getElem?, death]
  have small : Service.numWorkers numCpu ≤ 4 := by
    unfold Service.numWorkers
    omega
  constructor
  · refine List.nodup_append.mpr ⟨staffed.nodup, List.nodup_singleton _, ?_⟩
    intro worker member new latest same
    cases List.mem_singleton.mp latest
    exact fresh sound (same ▸ member)
  · exact fun _ => required
  · dsimp only
    rw [List.length_append, List.length_singleton]
    omega
  · intro worker watched parents there isOpen
    rcases (Lifetimes.has_create known).mp there with before | ⟨rfl, _, _⟩
    · dsimp only at isOpen
      rw [Lifetimes.isOpen_create_of_lt known before.lt] at isOpen
      exact List.mem_append_left _ (staffed.kept before isOpen)
    · exact List.mem_append_right _ List.mem_cons_self
  · intro installed' numCpu' i' member
    obtain ⟨other, there⟩ := List.mem_iff_getElem?.mp member
    rcases (getElem?_set_call found).mp there with ⟨apart, before⟩ | ⟨_, same⟩
    · exact absurd ((first.first before).trans (first.first found).symm) apart
    · cases same
      rcases goes with ⟨more, rfl, same⟩ | ⟨_, _, same⟩
      · cases same
        refine ⟨notReady, required, ?_, more⟩
        dsimp only
        rw [List.length_append, count, List.length_singleton]
      · cases same
  · intro left right worker stage₁ stage₂ here there
    exact staffed.once (death.mp here) (death.mp there)
  · intro worker stage' member
    obtain ⟨⟨watched, there⟩, closed⟩ := staffed.dead (died.mp member)
    refine ⟨⟨watched, (Lifetimes.has_create known).mpr (Or.inl there)⟩, ?_⟩
    exact (Lifetimes.isOpen_create_of_lt known there.lt).trans closed
  · intro worker idx member
    obtain ⟨place, there⟩ := staffed.replacing (died.mp member)
    refine ⟨?_, (Lifetimes.has_create known).mpr (Or.inl there)⟩
    exact (List.getElem?_append_left (List.getElem?_eq_some_iff.mp place).1).trans place
  · intro worker member there closed
    rcases List.mem_append.mp member with old | new
    · obtain ⟨watched, before⟩ := sound.staff worker old
      dsimp only at closed
      rw [Lifetimes.isOpen_create_of_lt known before.lt] at closed
      cases (there.unique ((Lifetimes.has_create known).mpr (Or.inl before))).1
      rcases staffed.replaced old before closed
        with ⟨idx, waits⟩ | ⟨failure, failed⟩ | ⟨stage', ended⟩
      · exact Or.inl ⟨idx, died.mpr waits⟩
      · exact Or.inr (Or.inl ⟨failure, died.mpr failed⟩)
      · exact Or.inr (Or.inr ⟨stage', mem_set_call found ended (by simp)⟩)
    · cases List.mem_singleton.mp new
      have isOpen : (pool.shared.library.create (.worker true) [] known).isOpen
          pool.shared.library.objects.length = true :=
        (Lifetimes.isOpen_create_new known).mpr (by simp)
      exact absurd isOpen (Bool.eq_false_iff.mp closed)

/-- The rest of `spawnWorkers` is given up. -/
theorem abandoned (staffed : Staffed pool) (first : InitFirst pool) {index i : Nat}
    {installed : Bool} {numCpu : Nat}
    (found : pool.threads[index]? = some ⟨.onModuleInit installed numCpu, .createWorker i⟩)
    : Staffed
        ⟨{ pool.shared with ready := true },
          pool.threads.set index ⟨.onModuleInit installed numCpu, .returned .nothing⟩⟩ := by
  refine staffed.frame (.of_library rfl rfl rfl) ?_ ?_ ?_
  · intro installed' numCpu' i' member
    obtain ⟨other, there⟩ := List.mem_iff_getElem?.mp member
    rcases (getElem?_set_call found).mp there with ⟨apart, before⟩ | ⟨_, same⟩
    · exact absurd ((first.first before).trans (first.first found).symm) apart
    · cases same
  · intro other worker stage
    refine (getElem?_set_call found).trans ⟨?_, fun there => Or.inl ⟨?_, there⟩⟩
    · rintro (⟨_, before⟩ | ⟨_, same⟩)
      · exact before
      · cases same
    · rintro rfl
      cases found.symm.trans there
  · exact fun stage member => ⟨stage, mem_set_call found member (by simp)⟩

/-- The replacement of a worker comes, and takes its place. -/
theorem replacement (staffed : Staffed pool) (sound : Sound pool.shared) {index idx : Nat}
    {dead : Uuid} (known : ∀ parent ∈ [], parent < pool.shared.library.objects.length)
    (found : pool.threads[index]? = some ⟨.died dead, .replaceWorker idx⟩)
    : Staffed
        ⟨{
          pool.shared with
          library := pool.shared.library.create (.worker false) [] known
          workers := pool.shared.workers.set idx pool.shared.library.objects.length
        }, pool.threads.set index ⟨.died dead, .returned .nothing⟩⟩ := by
  obtain ⟨place, _⟩ := staffed.replacing (List.mem_of_getElem? found)
  have bound := (List.getElem?_eq_some_iff.mp place).1
  have closed := (staffed.dead (List.mem_of_getElem? found)).2
  have elsewhere {worker : Uuid}
      (member : worker ∈ pool.shared.workers.set idx pool.shared.library.objects.length)
      : worker = pool.shared.library.objects.length
        ∨ (worker ∈ pool.shared.workers ∧ worker ≠ dead) := by
    obtain ⟨position, there⟩ := List.mem_iff_getElem?.mp member
    rw [List.getElem?_set] at there
    by_cases same : idx = position
    · subst same
      rw [if_pos rfl, if_pos bound] at there
      exact Or.inl (Option.some.inj there).symm
    · rw [if_neg same] at there
      refine Or.inr ⟨List.mem_of_getElem? there, ?_⟩
      rintro rfl
      exact same ((List.getElem?_inj bound staffed.nodup).mp (place.trans there.symm))
  constructor
  · exact staffed.nodup.set (fresh sound)
  · exact fun _ => staffed.mediasoup (List.ne_nil_of_mem (List.mem_of_getElem? place))
  · dsimp only
    rw [List.length_set]
    exact staffed.few
  · intro worker watched parents there isOpen
    rcases (Lifetimes.has_create known).mp there with before | ⟨rfl, _, _⟩
    · dsimp only at isOpen
      rw [Lifetimes.isOpen_create_of_lt known before.lt] at isOpen
      obtain ⟨position, here⟩ := List.mem_iff_getElem?.mp (staffed.kept before isOpen)
      refine List.mem_iff_getElem?.mpr ⟨position, ?_⟩
      rw [List.getElem?_set_ne ?_]
      · exact here
      · rintro rfl
        cases Option.some.inj (place.symm.trans here)
        rw [closed] at isOpen
        cases isOpen
    · exact List.mem_set bound _
  · intro installed numCpu i member
    rcases List.mem_or_eq_of_mem_set member with before | same
    · dsimp only
      rw [List.length_set]
      exact staffed.spawning before
    · cases same
  · intro left right worker stage stage' here there
    obtain ⟨_, here⟩ := request_of_set found here
    obtain ⟨_, there⟩ := request_of_set found there
    exact staffed.once here there
  · intro worker stage member
    obtain ⟨other, there⟩ := List.mem_iff_getElem?.mp member
    obtain ⟨_, before⟩ := request_of_set found there
    obtain ⟨⟨watched, has⟩, closed⟩ := staffed.dead (List.mem_of_getElem? before)
    refine ⟨⟨watched, (Lifetimes.has_create known).mpr (Or.inl has)⟩, ?_⟩
    exact (Lifetimes.isOpen_create_of_lt known has.lt).trans closed
  · intro worker position member
    obtain ⟨other, there⟩ := List.mem_iff_getElem?.mp member
    rcases (getElem?_set_call found).mp there with ⟨apart, before⟩ | ⟨_, same⟩
    · obtain ⟨here, has⟩ := staffed.replacing (List.mem_of_getElem? before)
      refine ⟨?_, (Lifetimes.has_create known).mpr (Or.inl has)⟩
      dsimp only
      rw [List.getElem?_set_ne ?_]
      · exact here
      · rintro rfl
        cases Option.some.inj (place.symm.trans here)
        exact apart (staffed.once before found)
    · cases same
  · intro worker member has wasClosed
    rcases elsewhere member with rfl | ⟨old, apart⟩
    · rcases (Lifetimes.has_create known).mp has with before | ⟨_, other, _⟩
      · exact absurd before.lt (Nat.lt_irrefl _)
      · cases other
    · obtain ⟨watched, before⟩ := sound.staff worker old
      cases (has.unique ((Lifetimes.has_create known).mpr (Or.inl before))).1
      dsimp only at wasClosed
      rw [Lifetimes.isOpen_create_of_lt known before.lt] at wasClosed
      rcases staffed.replaced old before wasClosed
        with ⟨position, waits⟩ | ⟨failure, failed⟩ | ⟨stage, ended⟩
      · refine Or.inl ⟨position, mem_set_call found waits ?_⟩
        rintro same
        cases same
        exact apart rfl
      · exact Or.inr (Or.inl ⟨failure, mem_set_call found failed (by simp)⟩)
      · exact Or.inr (Or.inr ⟨stage, mem_set_call found ended (by simp)⟩)

/-- The replacement of a worker cannot be had. -/
theorem unreplaced (staffed : Staffed pool) {index idx : Nat} {dead : Uuid}
    (found : pool.threads[index]? = some ⟨.died dead, .replaceWorker idx⟩)
    : Staffed ⟨pool.shared, pool.threads.set index ⟨.died dead, .threw .library⟩⟩ := by
  constructor
  · exact staffed.nodup
  · exact staffed.mediasoup
  · exact staffed.few
  · exact staffed.kept
  · intro installed numCpu i member
    rcases List.mem_or_eq_of_mem_set member with before | same
    · exact staffed.spawning before
    · cases same
  · intro left right worker stage stage' here there
    obtain ⟨_, here⟩ := request_of_set found here
    obtain ⟨_, there⟩ := request_of_set found there
    exact staffed.once here there
  · intro worker stage member
    obtain ⟨other, there⟩ := List.mem_iff_getElem?.mp member
    obtain ⟨_, before⟩ := request_of_set found there
    exact staffed.dead (List.mem_of_getElem? before)
  · intro worker position member
    rcases List.mem_or_eq_of_mem_set member with before | same
    · exact staffed.replacing before
    · cases same
  · intro worker member has closed
    rcases staffed.replaced member has closed
      with ⟨position, waits⟩ | ⟨failure, failed⟩ | ⟨stage, ended⟩
    · by_cases same : worker = dead
      · subst same
        refine Or.inr (Or.inl ⟨.library, ?_⟩)
        exact List.mem_set (List.getElem?_eq_some_iff.mp found).1 _
      · exact Or.inl ⟨position, mem_set_call found waits (by simp [same])⟩
    · exact Or.inr (Or.inl ⟨failure, mem_set_call found failed (by simp)⟩)
    · exact Or.inr (Or.inr ⟨stage, mem_set_call found ended (by simp)⟩)

/-- A request comes. -/
theorem begun (staffed : Staffed pool) (sound : Sound pool.shared) (first : InitFirst pool)
    {request : Request}
    (admitted : pool.shared.admits pool.threads.length request = true)
    : Staffed
        ⟨(pool.shared.begin compatible request).1,
          pool.threads ++ [⟨request, (pool.shared.begin compatible request).2⟩]⟩ := by
  have ready
      : (∀ installed numCpu, request ≠ .onModuleInit installed numCpu) →
          (pool.shared.begin compatible request).1.ready = pool.shared.ready :=
    SameStaff.ready_begun
  cases request with
  | onModuleInit installed numCpu =>
      have alone : pool.threads = [] :=
        List.length_eq_zero_iff.mp (of_decide_eq_true admitted)
      obtain ⟨none, notReady⟩ := first.empty alone
      rw [alone]
      cases installed with
      | false =>
          exact staffed.started (by simp) none (by simp [Service.begin, Service.onModuleInit])
      | true =>
          refine staffed.started (by simp) none ?_
          intro installed' numCpu' i _ waits
          cases waits
          exact ⟨notReady, rfl, rfl⟩
  | onModuleDestroy =>
      refine staffed.lost sound (by simp) (by simp) ?_
      exact fun _ _ _ _ _ => Or.inr rfl
  | died dead =>
      simp only [Service.admits, Bool.decide_and, Bool.and_eq_true, decide_eq_true_eq]
        at admitted
      obtain ⟨wasOpen, isWorker⟩ := admitted
      obtain ⟨watched, there⟩ := sound.worker_of_admitted isWorker
      have here := staffed.kept there wasOpen
      have required := staffed.mediasoup (List.ne_nil_of_mem here)
      have shape
          : pool.shared.begin compatible (.died dead)
            = ({ pool.shared with library := pool.shared.library.closeAll [dead] },
                if watched = true then
                  .replaceWorker (pool.shared.workers.idxOf dead)
                else
                  .returned .nothing) := by
        obtain ⟨closed, found⟩ := there
        simp only [Service.begin, Service.died, found, required, here, Option.any_some]
        cases watched <;> rfl
      rw [shape]
      refine staffed.lost sound (by simp) ?_ ?_
      · intro worker same
        cases same
        refine ⟨List.mem_cons_self, ⟨watched, there⟩, wasOpen, fun idx waits => ?_⟩
        cases watched with
        | false => cases waits
        | true =>
            cases waits
            exact ⟨List.getElem?_idxOf here, there⟩
      · intro worker target member has _
        cases List.mem_singleton.mp target
        cases (there.unique has).1
        exact Or.inl ⟨_, rfl, rfl⟩
  | _ =>
      exact staffed.asked (.begun sound (by simp) (by simp) (by simp)) (ready (by simp))
        (by simp) (by simp) rfl

/-- Every move keeps the staff. -/
theorem move {action : Move Call Completion} (staffed : Staffed pool) (standing : Standing pool)
    (first : InitFirst pool) (moved : (sfuProgram compatible).move pool action = some next)
    : Staffed next := by
  have sound := standing.sound
  obtain ⟨service, threads⟩ := next
  rcases move_cases moved
    with ⟨request, admitted, rfl, rfl, _⟩ | ⟨index, request, stage, stage', found, turn, rfl, _⟩
  · exact staffed.begun sound first admitted
  · have stands := standing.stands _ (List.mem_of_getElem? found)
    by_cases special
        : (∃ i, stage = .createWorker i)
          ∨ (∃ idx, stage = .replaceWorker idx)
          ∨ ∃ dead, request = .died dead
    · cases turn with
      | spawned known goes => exact staffed.spawned sound first known found goes
      | abandoned => exact staffed.abandoned first found
      | replaced known => exact staffed.replacement sound known found
      | failed waits goes =>
          cases stands with
          | replacing => exact staffed.unreplaced found
          | spawning =>
              exact staffed.went (.of_library rfl rfl rfl) rfl found (by simp) (by simp) rfl
          | done _ => exact absurd rfl (waits _)
          | threw => exact absurd rfl (goes _)
          | _ => simp at special
      | _ => simp at special
    · have quiet := not_or.mp special
      have quieter := not_or.mp quiet.2
      obtain ⟨same, ready, _, spawns, _⟩ :=
        SameStaff.stepped turn (fun i is => quiet.1 ⟨i, is⟩) (fun idx is => quieter.1 ⟨idx, is⟩)
      exact staffed.went same ready found (fun dead is => quieter.2 ⟨dead, is⟩) spawns rfl

/-- All of this holds at first, and every move keeps it. -/
theorem init
    : Standing ⟨Service.init, []⟩
      ∧ InitFirst ⟨Service.init, []⟩
      ∧ Staffed ⟨Service.init, []⟩ := by
  refine ⟨⟨.init, by simp⟩, ⟨?_, fun _ => ⟨rfl, rfl⟩⟩, ?_⟩
  · intro index installed numCpu stage found
    cases found
  · constructor <;> simp [Service.init, Lifetimes.empty, Lifetimes.Has]

theorem moves {action : Move Call Completion}
    (all : Standing pool ∧ InitFirst pool ∧ Staffed pool)
    (moved : (sfuProgram compatible).move pool action = some next)
    : Standing next ∧ InitFirst next ∧ Staffed next := by
  obtain ⟨standing, first, staffed⟩ := all
  exact ⟨standing.move moved, first.move moved, staffed.move standing first moved⟩

/-- So it holds in every interleaving. -/
theorem reaches {moves : List (Move Call Completion)}
    (run : (sfuMachine compatible).Reaches moves pool)
    : Standing pool ∧ InitFirst pool ∧ Staffed pool :=
  run.invariant (fun pool => Standing pool ∧ InitFirst pool ∧ Staffed pool) init Staffed.moves

end Staffed

end NexusComms.Sfu.Streams
