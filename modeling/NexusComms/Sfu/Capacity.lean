import Mathlib.Data.Int.CardIntervalMod
import NexusComms.Sfu.Workers

/-! How many workers there are and how they share the rooms: a place is filled twice at most, the
end closes everything, and `nextWorker` gives all places the same number of rooms, up to one.
-/

namespace NexusComms.Sfu.Streams

open Concurrency Signaling Storage

variable {compatible : Uuid → Capabilities → Bool} {pool next : Pool Service Call}

-----------------------------------------------------------------------------------------
-- How many workers there have been
-----------------------------------------------------------------------------------------

namespace Service

variable {service service' : Service}

/-- A place in `this.workers` that a replacement has. -/
def refilled (service : Service) (worker : Uuid) : Bool :=
  service.library.values[worker]? = some (.worker false)

/-- Up to its first await, a request creates nothing and hires nobody. -/
theorem begin_staff {request : Request}
    : (service.begin compatible request).1.library.values = service.library.values
      ∧ (service.begin compatible request).1.workers = service.workers := by
  cases request with
  | onModuleInit installed numCpu => cases installed <;> exact ⟨rfl, rfl⟩
  | onModuleDestroy => exact ⟨Lifetimes.values_closeAll, rfl⟩
  | died worker =>
      simp only [begin, died]
      split
      · exact ⟨Lifetimes.values_close, rfl⟩
      · exact ⟨Lifetimes.values_close, rfl⟩
  | createRoom roomId =>
      simp only [begin, createRoom, nextWorker]
      split
      · exact ⟨rfl, rfl⟩
      · next present =>
          rw [if_neg (fun none => present (Or.inr none))]
          cases service.workers[service.workerIndex % service.workers.length]? with
          | none => exact ⟨rfl, rfl⟩
          | some worker => exact ⟨rfl, rfl⟩
  | removeParticipant roomId peerId =>
      cases found : service.room roomId with
      | none =>
          rw [begin, removeParticipant_absent found]
          exact ⟨rfl, rfl⟩
      | some entry =>
          rw [begin, removeParticipant_found found]
          exact ⟨Lifetimes.values_closeAll, rfl⟩
  | _ => exact ⟨rfl, rfl⟩

end Service

/-- There has been one worker with a handler for each place, and one without for each place that
has been refilled. -/
structure Counted (service : Service) : Prop where
  spawned : service.library.values.count (.worker true) = service.workers.length
  replaced
    : service.library.values.count (.worker false) = service.workers.countP service.refilled

namespace Counted

variable {service service' : Service}

/-- Nobody is hired. -/
theorem same (counted : Counted service)
    (values : service'.library.values = service.library.values)
    (workers : service'.workers = service.workers)
    : Counted service' := by
  constructor
  · rw [values, workers]
    exact counted.spawned
  · have refilled : service'.refilled = service.refilled := by
      funext worker
      simp only [Service.refilled, values]
    rw [values, workers, refilled]
    exact counted.replaced

/-- The places of earlier workers stay what they are. -/
theorem refilled_append (sound : Sound service) {value : Resource}
    (values : service'.library.values = service.library.values ++ [value])
    : ∀ worker ∈ service.workers, service'.refilled worker = service.refilled worker := by
  intro worker member
  obtain ⟨watched, there⟩ := sound.staff worker member
  have bound : worker < service.library.values.length := by
    simpa [Lifetimes.values] using there.lt
  simp only [Service.refilled, values, List.getElem?_append_left bound]

theorem countP_refilled (sound : Sound service) {value : Resource}
    (values : service'.library.values = service.library.values ++ [value])
    : service.workers.countP service'.refilled = service.workers.countP service.refilled :=
  List.countP_congr fun worker member => by rw [refilled_append sound values worker member]

/-- Something else is created. -/
theorem other (counted : Counted service) (sound : Sound service) {value : Resource}
    (values : service'.library.values = service.library.values ++ [value])
    (workers : service'.workers = service.workers)
    (different : ∀ watched, value ≠ .worker watched)
    : Counted service' := by
  have none (watched : Bool) : [value].count (.worker watched) = 0 :=
    List.count_eq_zero.mpr (by simpa using fun same => different watched same.symm)
  constructor
  · rw [values, workers, List.count_append, none true]
    exact counted.spawned
  · rw [values, workers, List.count_append, none false, countP_refilled sound values]
    exact counted.replaced

/-- A worker is spawned, and takes a new place. -/
theorem spawned_worker (counted : Counted service) (sound : Sound service)
    (values : service'.library.values = service.library.values ++ [.worker true])
    (workers : service'.workers = service.workers ++ [service.library.objects.length])
    : Counted service' := by
  constructor
  · rw [values, workers, List.count_append, counted.spawned]
    simp
  · have length : service.library.values.length = service.library.objects.length :=
      List.length_map _
    have new : service'.refilled service.library.objects.length = false := by
      simp [Service.refilled, values, ← length]
    rw [values, workers, List.count_append, List.countP_append, counted.replaced,
      countP_refilled sound values]
    simp [new]

/-- A replacement takes the place of a worker that had been spawned. -/
theorem replaced_worker (counted : Counted service) (sound : Sound service) {idx : Nat}
    {dead : Uuid} (place : service.workers[idx]? = some dead)
    (there : service.library.Has dead (.worker true) [])
    (values : service'.library.values = service.library.values ++ [.worker false])
    (workers : service'.workers = service.workers.set idx service.library.objects.length)
    : Counted service' := by
  obtain ⟨bound, here⟩ := List.getElem?_eq_some_iff.mp place
  have length : service.library.values.length = service.library.objects.length :=
    List.length_map _
  constructor
  · rw [values, workers, List.count_append, List.length_set, counted.spawned]
    simp
  · have new : service'.refilled service.library.objects.length = true := by
      simp [Service.refilled, values, ← length]
    have old : service'.refilled dead = false := by
      rw [refilled_append sound values dead (List.mem_of_getElem? place)]
      simp [Service.refilled, there.getElem?_values]
    rw [values, workers, List.count_append, List.countP_set bound, here, old, new,
      counted.replaced, countP_refilled sound values]
    simp

/-- Every move keeps the count. -/
theorem move {action : Move Call Completion} (counted : Counted pool.shared)
    (standing : Standing pool) (staffed : Staffed pool)
    (moved : (sfuProgram compatible).move pool action = some next)
    : Counted next.shared := by
  have sound := standing.sound
  obtain ⟨service, threads⟩ := next
  rcases move_cases moved
    with ⟨request, admitted, rfl, rfl, _⟩ | ⟨index, request, stage, stage', found, turn, rfl, _⟩
  · exact counted.same Service.begin_staff.1 Service.begin_staff.2
  · cases turn with
    | spawned known _ => exact counted.spawned_worker sound (Lifetimes.values_create known) rfl
    | replaced known =>
        obtain ⟨place, there⟩ := staffed.replacing (List.mem_of_getElem? found)
        exact counted.replaced_worker sound place there (Lifetimes.values_create known) rfl
    | routed known => exact counted.other sound (Lifetimes.values_create known) rfl (by simp)
    | added known _ => exact counted.other sound (Lifetimes.values_create known) rfl (by simp)
    | produced known => exact counted.other sound (Lifetimes.values_create known) rfl (by simp)
    | consumed known => exact counted.other sound (Lifetimes.values_create known) rfl (by simp)
    | abandoned | connected | resumed | failed _ _ => exact counted.same rfl rfl

/-- It holds in every interleaving. -/
theorem reaches {moves : List (Move Call Completion)}
    (run : (sfuMachine compatible).Reaches moves pool)
    : Counted pool.shared := by
  have both
      : (Standing pool ∧ InitFirst pool ∧ Staffed pool) ∧ Counted pool.shared := by
    refine run.invariant
      (fun pool => (Standing pool ∧ InitFirst pool ∧ Staffed pool) ∧ Counted pool.shared)
      ⟨Staffed.init, rfl, rfl⟩ ?_
    rintro pool action next ⟨all, counted⟩ moved
    exact ⟨Staffed.moves all moved, counted.move all.1 all.2.2 moved⟩
  exact both.2

end Counted

/-- A worker has a handler or not, by induction on the objects. -/
theorem countP_workers (values : List Resource)
    : values.countP (fun value => value = .worker true ∨ value = .worker false)
      = values.count (.worker true) + values.count (.worker false) := by
  induction values with
  | nil => rfl
  | cons value rest ih =>
      rw [List.countP_cons, List.count_cons, List.count_cons, ih]
      cases value with
      | worker watched =>
          cases watched
          · simp
            omega
          · simp
            omega
      | _ => simp

/-- In every interleaving there are at most four places, there have been at most twice as many
workers, all places together, and every open worker has a place. A worker that `spawnWorkers`
has put there is open until the service ends, or its replacement is under way or has failed; a
replacement that has died is never replaced, and stays in its place. -/
theorem workers_replaced_once {moves : List (Move Call Completion)}
    (run : (sfuMachine compatible).Reaches moves pool)
    : pool.shared.workers.length ≤ 4
      ∧ pool.shared.library.values.countP
            (fun value => value = .worker true ∨ value = .worker false)
        ≤ 2 * pool.shared.workers.length
      ∧ (∀ worker watched,
          pool.shared.library.Has worker (.worker watched) [] →
            pool.shared.library.isOpen worker = true → worker ∈ pool.shared.workers)
      ∧ ∀ worker ∈ pool.shared.workers,
          pool.shared.library.isOpen worker = true
          ∨ pool.shared.library.Has worker (.worker false) []
          ∨ (∃ idx, ⟨.died worker, .replaceWorker idx⟩ ∈ pool.threads)
          ∨ (∃ failure, ⟨.died worker, .threw failure⟩ ∈ pool.threads)
          ∨ ∃ stage, ⟨.onModuleDestroy, stage⟩ ∈ pool.threads := by
  obtain ⟨standing, first, staffed⟩ := Staffed.reaches run
  have counted := Counted.reaches run
  refine ⟨staffed.few, ?_, fun worker watched => staffed.kept, fun worker member => ?_⟩
  · have refilled : pool.shared.workers.countP pool.shared.refilled ≤ _ := List.countP_le_length
    rw [countP_workers, counted.spawned, counted.replaced]
    omega
  · obtain ⟨watched, there⟩ := standing.sound.staff worker member
    cases isOpen : pool.shared.library.isOpen worker with
    | true => exact Or.inl rfl
    | false =>
        cases watched with
        | false => exact Or.inr (Or.inl there)
        | true => exact Or.inr (Or.inr (staffed.replaced member there isOpen))

/-- The only worker dies, its replacement comes, and dies as well. -/
def diesTwice : List (Move Call Completion) :=
  [.start ⟨.onModuleInit true 1, .createWorker 0⟩, .step 0 .done,
    .start ⟨.died 0, .replaceWorker 0⟩, .step 1 .done, .start ⟨.died 1, .returned .nothing⟩]

theorem workers_replaced_once_dies_twice
    : (poolAfter diesTwice).shared.workers = [1]
      ∧ (poolAfter diesTwice).shared.library.isOpen 1 = false
      ∧ (poolAfter diesTwice).shared.library.values.countP
            (fun value => value = .worker true ∨ value = .worker false)
        ≤ 2 := by
  have run : (sfuMachine (fun _ _ => true)).Reaches diesTwice (poolAfter diesTwice) := rfl
  exact ⟨by decide, by decide, (workers_replaced_once run).2.1⟩

-----------------------------------------------------------------------------------------
-- The end
-----------------------------------------------------------------------------------------

/-- Every object lives on a worker. -/
theorem Sound.on_worker {service : Service} (sound : Sound service) {index : Uuid}
    {value : Resource} {parents : List Uuid} (there : service.library.Has index value parents)
    : ∃ worker watched,
        service.library.DependsOn index worker
        ∧ service.library.Has worker (.worker watched) [] := by
  by_cases kind : ∃ watched, value = .worker watched
  · obtain ⟨watched, rfl⟩ := kind
    cases sound.wired _ _ _ there
    exact ⟨index, watched, .refl, there⟩
  · obtain ⟨router, member, home⟩ :=
      sound.wired.home there (fun watched same => kind ⟨watched, same⟩)
    obtain ⟨room, here, rfl⟩ := List.mem_map.mp member
    obtain ⟨_, worker, isRouter⟩ := sound.rooms room here
    obtain ⟨_, worker', watched, same, lives⟩ := sound.wired _ _ _ isRouter
    cases List.singleton_inj.mp same
    refine ⟨worker, watched, home.dependsOn.trans ?_, lives⟩
    exact .single (isRouter.on_iff.mpr List.mem_cons_self)

/-- Without an open worker nothing is open. -/
theorem Sound.all_closed {service : Service} (sound : Sound service)
    (closed
      : ∀ worker watched,
          service.library.Has worker (.worker watched) [] →
            service.library.isOpen worker = false)
    (index : Uuid)
    : service.library.isOpen index = false := by
  refine Bool.eq_false_iff.mpr (fun isOpen => ?_)
  obtain ⟨object, found, _⟩ := Lifetimes.isOpen_iff.mp isOpen
  obtain ⟨worker, watched, depends, lives⟩ := sound.on_worker ⟨object.closed, found⟩
  have above := Lifetimes.isOpen_of_dependsOn isOpen depends
  rw [closed worker watched lives] at above
  cases above

/-- The service is at its end: no worker is open, and none is coming. -/
structure Ended (pool : Pool Service Call) : Prop where
  ready : pool.shared.ready = true
  closed
    : ∀ worker watched,
        pool.shared.library.Has worker (.worker watched) [] →
          pool.shared.library.isOpen worker = false
  none : ∀ worker idx, ⟨.died worker, .replaceWorker idx⟩ ∉ pool.threads

/-- Every move keeps it there. -/
theorem Ended.move {action : Move Call Completion} (ended : Ended pool)
    (all : Standing pool ∧ InitFirst pool ∧ Staffed pool)
    (moved : (sfuProgram compatible).move pool action = some next)
    : Ended next := by
  obtain ⟨standing, first, staffed⟩ := all
  have sound := standing.sound
  have grows := (move_change sound standing.stands moved).1.grows
  have stays {worker watched} (there : pool.shared.library.Has worker (.worker watched) [])
      : next.shared.library.isOpen worker = false := by
    refine Bool.eq_false_iff.mpr (fun isOpen => ?_)
    have before := grows.closed there.lt isOpen
    rw [ended.closed worker watched there] at before
    cases before
  obtain ⟨service, threads⟩ := next
  rcases move_cases moved
    with ⟨request, admitted, rfl, rfl, _⟩ | ⟨index, request, stage, stage', found, turn, rfl, _⟩
  · have later (installed : Bool) (numCpu : Nat) : request ≠ .onModuleInit installed numCpu := by
      rintro rfl
      have alone := List.length_eq_zero_iff.mp (of_decide_eq_true admitted)
      cases (first.empty alone).2.symm.trans ended.ready
    refine ⟨(SameStaff.ready_begun later).trans ended.ready, ?_, ?_⟩
    · exact fun worker watched there => stays (Service.begin_has there)
    · intro worker idx member
      rcases List.mem_append.mp member with before | new
      · exact ended.none worker idx before
      · obtain ⟨rfl, _⟩ := Call.mk.inj (List.mem_singleton.mp new)
        simp only [Service.admits, Bool.decide_and, Bool.and_eq_true, decide_eq_true_eq]
          at admitted
        obtain ⟨watched, there⟩ := sound.worker_of_admitted admitted.2
        rw [ended.closed worker watched there] at admitted
        cases admitted.1
  · have member := List.mem_of_getElem? found
    have notSpawning (i : Nat) : stage ≠ .createWorker i := by
      rintro rfl
      cases standing.stands _ member with
      | spawning =>
          have notReady := (staffed.spawning member).1
          rw [ended.ready] at notReady
          cases notReady
    have notReplacing (idx : Nat) : stage ≠ .replaceWorker idx := by
      rintro rfl
      cases standing.stands _ member with
      | replacing => exact ended.none _ _ member
    obtain ⟨same, ready, _, _, replaces⟩ := SameStaff.stepped turn notSpawning notReplacing
    refine ⟨ready.trans ended.ready, ?_, ?_⟩
    · exact fun worker watched there => stays (same.has.mp there)
    · intro worker idx there
      rcases List.mem_or_eq_of_mem_set there with before | new
      · exact ended.none worker idx before
      · cases new
        exact replaces idx rfl

/-- In every interleaving, `onModuleDestroy` closes everything. If no replacement of a worker is
under way at that time, nothing is open from then on, whoever still calls. -/
theorem shutdown_closes_everything {moves : List (Move Call Completion)}
    (run : (sfuMachine compatible).Reaches moves pool)
    (moved
      : (sfuProgram compatible).move pool (.start ⟨.onModuleDestroy, .returned .nothing⟩)
        = some next)
    : (∀ index, next.shared.library.isOpen index = false)
      ∧ ((∀ worker idx, ⟨.died worker, .replaceWorker idx⟩ ∉ pool.threads) →
          ∀ later final, (sfuMachine compatible).exec next later = some final →
            ∀ index, final.shared.library.isOpen index = false) := by
  have all := Staffed.reaches run
  have all' := Staffed.moves all moved
  obtain ⟨standing, _, staffed⟩ := all
  obtain ⟨started, threads⟩ := Program.move_start_some _ moved
  have parts
      : pool.shared.ready = true ∧ pool.shared.onModuleDestroy = next.shared := by
    simp only [sfuProgram] at started
    split at started
    · next admitted => exact ⟨admitted.1, Option.some.inj started⟩
    · cases started
  have closed (worker : Uuid) (watched : Bool)
      (there : next.shared.library.Has worker (.worker watched) [])
      : next.shared.library.isOpen worker = false := by
    rw [← parts.2] at there ⊢
    refine Bool.eq_false_iff.mpr (fun isOpen => ?_)
    obtain ⟨before, away⟩ := Lifetimes.isOpen_closeAll.mp isOpen
    exact away worker (staffed.kept (Lifetimes.has_closeAll.mp there) before) .refl
  refine ⟨all'.1.sound.all_closed closed, fun none later final ran => ?_⟩
  have ended : Ended next := by
    refine ⟨?_, closed, fun worker idx member => ?_⟩
    · rw [← parts.2]
      exact parts.1
    · rw [threads] at member
      rcases List.mem_append.mp member with before | new
      · exact none worker idx before
      · cases List.mem_singleton.mp new
  have both : (Standing final ∧ InitFirst final ∧ Staffed final) ∧ Ended final :=
    (sfuMachine compatible).exec_preserves
      (fun pool => (Standing pool ∧ InitFirst pool ∧ Staffed pool) ∧ Ended pool)
      (fun both moved => ⟨Staffed.moves both.1 moved, both.2.move both.1 moved⟩)
      ⟨all', ended⟩ ran
  exact both.1.1.sound.all_closed both.2.closed

/-- Nest destroys the module. -/
def ending : Move Call Completion := .start ⟨.onModuleDestroy, .returned .nothing⟩

theorem shutdown_closes_everything_heard
    : (poolAfter heard).shared.library.isOpen 6 = true
      ∧ (poolAfter (heard ++ [ending])).shared.library.isOpen 6 = false := by
  have run : (sfuMachine (fun _ _ => true)).Reaches heard (poolAfter heard) := rfl
  have moved
      : (sfuProgram (fun _ _ => true)).move (poolAfter heard) ending
        = some (poolAfter (heard ++ [ending])) :=
    rfl
  exact ⟨by decide, (shutdown_closes_everything run moved).1 6⟩

-----------------------------------------------------------------------------------------
-- How the workers share the rooms
-----------------------------------------------------------------------------------------

/-- A room is about to be created on the worker in this place. -/
def assigns (place : Nat) (taken : Taken (Pool Service Call) (Move Call Completion)) : Bool :=
  match taken.action with
  | .start ⟨.createRoom _, .createRouter worker⟩ =>
      taken.before.shared.workers[place]? = some worker
  | _ => false

@[simp]
theorem assigns_step (place index : Nat) (input : Completion) (before after : Pool Service Call)
    : assigns place ⟨before, .step index input, after⟩ = false :=
  rfl

/-- How often `nextWorker` has come by a place. -/
def turns (place : Nat) (pool : Pool Service Call) : Nat :=
  Nat.count (fun index => index % pool.shared.workers.length = place) pool.shared.workerIndex

/-- Two places of a cycle come by equally often, up to once. -/
theorem count_mod_le {length left right : Nat} (hleft : left < length) (hright : right < length)
    (bound : Nat)
    : Nat.count (fun index => index % length = left) bound
      ≤ Nat.count (fun index => index % length = right) bound + 1 := by
  have positive : 0 < length := Nat.lt_of_le_of_lt (Nat.zero_le _) hleft
  have count {place : Nat} (here : place < length)
      : Nat.count (fun index => index % length = place) bound
        = bound / length + if place < bound % length then 1 else 0 := by
    have modEq := Nat.count_modEq_card bound positive place
    simp only [Nat.ModEq, Nat.mod_eq_of_lt here] at modEq
    exact modEq
  rw [count hleft, count hright]
  split <;> split <;> omega

/-- Nobody has asked for a room before the service is ready. -/
def Waiting (pool : Pool Service Call) : Prop :=
  pool.shared.ready = false → pool.shared.workerIndex = 0

/-- Up to its first await, only `createRoom` draws a worker. -/
theorem begin_index {service : Service} {request : Request}
    (other : ∀ roomId, request ≠ .createRoom roomId)
    : (service.begin compatible request).1.workerIndex = service.workerIndex := by
  cases request with
  | onModuleInit installed numCpu => cases installed <;> rfl
  | died worker =>
      simp only [Service.begin, Service.died]
      split <;> rfl
  | createRoom roomId => exact absurd rfl (other roomId)
  | removeParticipant roomId peerId =>
      simp only [Service.begin]
      cases found : service.room roomId with
      | none => rw [Service.removeParticipant_absent found]
      | some entry => rw [Service.removeParticipant_found found]
  | _ => rfl

/-- It draws the next one in the cycle. -/
theorem begin_turns (nodup : pool.shared.workers.Nodup) (place : Nat) (request : Request)
    : Nat.count (fun index => index % pool.shared.workers.length = place)
          (pool.shared.begin compatible request).1.workerIndex
        = turns place pool
          + if assigns place
              ⟨pool, .start ⟨request, (pool.shared.begin compatible request).2⟩, next⟩
            then 1 else 0 := by
  by_cases asks : ∃ roomId, request = .createRoom roomId
  · obtain ⟨roomId, rfl⟩ := asks
    simp only [Service.begin, Service.createRoom, Service.nextWorker]
    split
    · rfl
    · next present =>
        have positive : 0 < pool.shared.workers.length :=
          Nat.pos_of_ne_zero (fun none => present (Or.inr none))
        rw [if_neg (fun none => present (Or.inr none))]
        have bound := Nat.mod_lt pool.shared.workerIndex positive
        rw [List.getElem?_eq_getElem bound]
        dsimp only [assigns]
        rw [Nat.count_succ, turns]
        refine congrArg _ (if_congr ?_ rfl rfl)
        rw [decide_eq_true_eq, ← List.getElem?_eq_getElem bound]
        exact (List.getElem?_inj bound nodup).symm.trans eq_comm
  · have other (roomId : Text) : request ≠ .createRoom roomId := fun same => asks ⟨roomId, same⟩
    have quiet
        : assigns place ⟨pool, .start ⟨request, (pool.shared.begin compatible request).2⟩, next⟩
          = false := by
      cases request with
      | createRoom roomId => exact absurd rfl (other roomId)
      | _ => rfl
    rw [begin_index other, quiet]
    rfl

/-- Every move lets the cycle go on by the worker that it assigns, if any. -/
theorem turns_move {action : Move Call Completion}
    (all : Standing pool ∧ InitFirst pool ∧ Staffed pool) (waiting : Waiting pool)
    (moved : (sfuProgram compatible).move pool action = some next) (place : Nat)
    : Waiting next
      ∧ turns place next
        = turns place pool + if assigns place ⟨pool, action, next⟩ then 1 else 0 := by
  obtain ⟨standing, first, staffed⟩ := all
  obtain ⟨service, _⟩ := next
  rcases move_cases moved
    with ⟨request, admitted, shared, threads, rfl⟩
      | ⟨index, request, stage, stage', found, turn, threads, input, rfl⟩
  · refine ⟨fun notReady => ?_, ?_⟩
    · have before : pool.shared.ready = false := by
        by_cases starts : ∃ installed numCpu, request = .onModuleInit installed numCpu
        · obtain ⟨installed, numCpu, rfl⟩ := starts
          exact (first.empty (List.length_eq_zero_iff.mp (of_decide_eq_true admitted))).2
        · rw [shared, SameStaff.ready_begun (fun installed numCpu same =>
            starts ⟨installed, numCpu, same⟩)] at notReady
          exact notReady
      rw [shared, begin_index ?_]
      · exact waiting before
      · rintro roomId rfl
        cases admitted.symm.trans before
    · rw [← begin_turns staffed.nodup, turns, shared, Service.begin_staff.2]
  · have member := List.mem_of_getElem? found
    rw [assigns_step]
    by_cases spawns : ∃ i, stage = .createWorker i
    · obtain ⟨i, rfl⟩ := spawns
      have start : pool.shared.workerIndex = 0 := by
        cases standing.stands _ member with
        | spawning => exact waiting (staffed.spawning member).1
      have same : service.workerIndex = pool.shared.workerIndex := by
        cases turn with
        | spawned _ _ | abandoned | failed _ _ => rfl
      refine ⟨fun _ => same.trans start, ?_⟩
      simp [turns, same, start]
    · by_cases replaces : ∃ idx, stage = .replaceWorker idx
      · obtain ⟨idx, rfl⟩ := replaces
        have same
            : service.workerIndex = pool.shared.workerIndex
              ∧ service.ready = pool.shared.ready
              ∧ service.workers.length = pool.shared.workers.length := by
          cases turn with
          | replaced _ => exact ⟨rfl, rfl, List.length_set⟩
          | failed _ _ => exact ⟨rfl, rfl, rfl⟩
        refine ⟨fun notReady => ?_, ?_⟩
        · rw [same.1]
          exact waiting (same.2.1.symm.trans notReady)
        · simp [turns, same.1, same.2.2]
      · obtain ⟨same, ready, cycle, _, _⟩ :=
          SameStaff.stepped turn (fun i is => spawns ⟨i, is⟩) (fun idx is => replaces ⟨idx, is⟩)
        refine ⟨fun notReady => ?_, ?_⟩
        · rw [cycle]
          exact waiting (ready.symm.trans notReady)
        · have workers := same.workers
          dsimp only at cycle workers
          simp [turns, cycle, workers]

/-- In every run, `nextWorker` has assigned to any two places the same number of rooms, up to
one, whatever has happened to the workers there. -/
theorem rooms_balanced {moves : List (Move Call Completion)}
    (run : (sfuMachine compatible).Reaches moves pool) {left right : Nat}
    (hleft : left < pool.shared.workers.length) (hright : right < pool.shared.workers.length)
    : ((sfuMachine compatible).taken (sfuMachine compatible).init moves).countP (assigns left)
      ≤ ((sfuMachine compatible).taken (sfuMachine compatible).init moves).countP (assigns right)
        + 1 := by
  have count (place : Nat)
      : ((sfuMachine compatible).taken (sfuMachine compatible).init moves).countP (assigns place)
        = turns place pool := by
    have counted
        : turns place pool
          = turns place (sfuMachine compatible).init
            + ((sfuMachine compatible).taken (sfuMachine compatible).init moves).countP
                (assigns place) :=
      (sfuMachine compatible).countP_taken
        (fun pool => (Standing pool ∧ InitFirst pool ∧ Staffed pool) ∧ Waiting pool)
        (assigns place) (turns place)
        (fun both moved =>
          ⟨Staffed.moves both.1 moved, (turns_move both.1 both.2 moved place).1⟩)
        (fun both moved => (turns_move both.1 both.2 moved place).2)
        ⟨Staffed.init, fun _ => rfl⟩ run
    have start : turns place (sfuMachine compatible).init = 0 := Nat.count_zero _
    rw [counted, start, Nat.zero_add]
  rw [count, count]
  exact count_mod_le hleft hright pool.shared.workerIndex

/-- Two workers, and three rooms. -/
def threeRooms : List (Move Call Completion) :=
  [.start ⟨.onModuleInit true 2, .createWorker 0⟩, .step 0 .done, .step 0 .done,
    .start ⟨.createRoom (.other 0), .createRouter 0⟩,
    .start ⟨.createRoom (.other 1), .createRouter 1⟩,
    .start ⟨.createRoom (.other 2), .createRouter 0⟩]

theorem rooms_balanced_three
    : ((sfuMachine (fun _ _ => true)).taken (sfuMachine (fun _ _ => true)).init
            threeRooms).countP (assigns 0)
        ≤ ((sfuMachine (fun _ _ => true)).taken (sfuMachine (fun _ _ => true)).init
            threeRooms).countP (assigns 1)
          + 1 := by
  have run : (sfuMachine (fun _ _ => true)).Reaches threeRooms (poolAfter threeRooms) := rfl
  exact rooms_balanced run (by decide) (by decide)

end NexusComms.Sfu.Streams
