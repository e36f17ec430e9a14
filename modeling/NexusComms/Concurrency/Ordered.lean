import NexusComms.Concurrency.Interleaving

/-! Threads that ask over one connection, which answers in the order of the questions. Where
every thread that asks will tell what it has read before asking, the last one that has asked
tells what is current.
-/

namespace NexusComms.Concurrency

/-- A pool, and the threads that wait for an answer in the order in which they have asked. -/
structure Asking (σ τ : Type) where
  pool : Pool σ τ
  asked : List Nat

namespace Asking

variable {σ τ ι α : Type} (waits : τ → Bool)

/-- A thread that waits after its move has asked. -/
def ask (asked : List Nat) (index : Nat) (slot : Option τ) : List Nat :=
  if slot.any waits then asked ++ [index] else asked

/-- The threads that wait after a move. Only the first one that has asked can go on. -/
def after (state : Asking σ τ) (next : Pool σ τ) : Move τ ι → Option (List Nat)
  | .start thread => some (ask waits state.asked state.pool.threads.length (some thread))
  | .step index _ =>
      if state.pool.threads[index]?.any waits then
        if state.asked.head? = some index then
          some (ask waits state.asked.tail index next.threads[index]?)
        else
          none
      else
        some (ask waits state.asked index next.threads[index]?)

/-- Each thread that waits has asked once. -/
structure Sound (state : Asking σ τ) : Prop where
  nodup : state.asked.Nodup
  waiting (index : Nat)
    : index ∈ state.asked ↔ ∃ thread, state.pool.threads[index]? = some thread ∧ waits thread

/-- What will have been told in the end, if nobody asks any more: what the last thread tells
that has asked, or what has been told last. -/
def latest (tell : τ → α) (told : σ → α) (state : Asking σ τ) : α :=
  match state.asked.getLast?.bind (fun index => state.pool.threads[index]?) with
  | none => told state.pool.shared
  | some thread => tell thread

section

variable {waits} {tell : τ → α} {told : σ → α} {state next : Asking σ τ} {index other : Nat}
  {thread : τ} {asked : List Nat} {slot : Option τ}

theorem mem_ask
    : other ∈ ask waits asked index slot
      ↔ other ∈ asked ∨ other = index ∧ slot.any waits = true := by
  unfold ask
  split
  · rename_i waiting
    simp [waiting]
  · rename_i free
    simp [free]

theorem nodup_ask (nodup : asked.Nodup) (free : index ∉ asked)
    : (ask waits asked index slot).Nodup := by
  unfold ask
  split
  · refine List.nodup_append.mpr ⟨nodup, by simp, ?_⟩
    rintro other member last single rfl
    exact free (List.mem_singleton.mp single ▸ member)
  · exact nodup

/-- The last thread that has asked will tell last. -/
theorem latest_asked (last : state.asked.getLast? = some index)
    (found : state.pool.threads[index]? = some thread)
    : state.latest tell told = tell thread := by
  simp [latest, last, found]

/-- If nobody has asked, it has been told. -/
theorem latest_told (nobody : state.asked = [])
    : state.latest tell told = told state.pool.shared := by
  simp [latest, nobody]

end

end Asking

namespace Program

variable {σ τ ι α : Type} (program : Program σ τ ι) (waits : τ → Bool)

/-- The interleavings of the program in which answers come in the order of the questions. -/
def ordered (init : σ) : Machine (Asking σ τ) (Move τ ι) where
  init := ⟨⟨init, []⟩, []⟩
  step state action :=
    (program.move state.pool action).bind
      (fun next => (state.after waits next action).map (fun asked => ⟨next, asked⟩))

variable {program waits} {init : σ} {state next : Asking σ τ} {action : Move τ ι}

/-- A move in order is a move of the program. -/
theorem ordered_step_some (taken : (program.ordered waits init).step state action = some next)
    : program.move state.pool action = some next.pool
      ∧ state.after waits next.pool action = some next.asked := by
  obtain ⟨pool, moved, there⟩ := Option.bind_eq_some_iff.mp taken
  obtain ⟨asked, waiting, rfl⟩ := Option.map_eq_some_iff.mp there
  exact ⟨moved, waiting⟩

/-- A run in order is a run of the program. -/
theorem ordered_reaches {moves : List (Move τ ι)}
    (run : (program.ordered waits init).Reaches moves state)
    : (program.machine init).Reaches moves state.pool := by
  obtain ⟨pool, ran, rfl⟩ :=
    (program.ordered waits init).exec_follows (program.machine init)
      (fun state pool => pool = state.pool)
      (fun same taken => ⟨_, same ▸ (ordered_step_some taken).1, rfl⟩) rfl run
  exact ran

-----------------------------------------------------------------------------------------
-- Who waits
-----------------------------------------------------------------------------------------

/-- What is left of the questions when a thread moves on: it was the first one, or none. -/
theorem after_step {index : Nat} {input : ι} {thread : τ} {pool : Pool σ τ} {asked : List Nat}
    (sound : state.Sound waits) (found : state.pool.threads[index]? = some thread)
    (there : state.after waits pool (.step index input) = some asked)
    : ∃ rest,
        asked = Asking.ask waits rest index pool.threads[index]?
        ∧ rest.Nodup
        ∧ index ∉ rest
        ∧ (waits thread = true ∧ state.asked = index :: rest
          ∨ waits thread = false ∧ state.asked = rest) := by
  simp only [Asking.after, found, Option.any_some] at there
  split at there
  · rename_i waiting
    split at there
    · rename_i first
      obtain ⟨rest, split⟩ := List.head?_eq_some_iff.mp first
      have nodup := sound.nodup
      rw [split, List.nodup_cons] at nodup
      refine ⟨rest, ?_, nodup.2, nodup.1, Or.inl ⟨waiting, split⟩⟩
      simpa [split] using there.symm
    · cases there
  · rename_i free
    refine ⟨state.asked, (Option.some.inj there).symm, sound.nodup, fun member => ?_,
      Or.inr ⟨by simpa using free, rfl⟩⟩
    obtain ⟨other, same, waiting⟩ := (sound.waiting index).mp member
    cases Option.some.inj (found.symm.trans same)
    exact free waiting

theorem sound_step (sound : state.Sound waits)
    (taken : (program.ordered waits init).step state action = some next)
    : next.Sound waits := by
  obtain ⟨moved, there⟩ := ordered_step_some taken
  cases action with
  | start thread =>
      obtain ⟨_, threads⟩ := program.move_start_some moved
      have asked
          : next.asked
            = Asking.ask waits state.asked state.pool.threads.length (some thread) :=
        (Option.some.inj there).symm
      have absent : state.pool.threads.length ∉ state.asked := by
        intro member
        obtain ⟨other, found, _⟩ := (sound.waiting _).mp member
        simp at found
      refine ⟨asked ▸ Asking.nodup_ask sound.nodup absent, fun index => ?_⟩
      rw [asked, Asking.mem_ask, threads]
      by_cases last : index = state.pool.threads.length
      · subst last
        simp [absent]
      · rw [or_iff_left (fun new => last new.1), sound.waiting]
        rcases Nat.lt_or_gt_of_ne last with earlier | later
        · rw [List.getElem?_append_left earlier]
        · rw [List.getElem?_eq_none (by omega), List.getElem?_eq_none (by simp; omega)]
  | step index input =>
      obtain ⟨thread, after, found, _, threads⟩ := program.move_step_some moved
      obtain ⟨rest, asked, nodup, absent, before⟩ := after_step sound found there
      refine ⟨asked ▸ Asking.nodup_ask nodup absent, fun other => ?_⟩
      rw [asked, Asking.mem_ask, threads]
      have bound := (List.getElem?_eq_some_iff.mp found).1
      by_cases same : other = index
      · subst same
        simp [absent, List.getElem?_set_self bound]
      · have kept : other ∈ rest ↔ other ∈ state.asked := by
          rcases before with ⟨_, split⟩ | ⟨_, split⟩
          · simp [split, same]
          · rw [split]
        simp [kept, sound.waiting, same, List.getElem?_set_ne (Ne.symm same)]

theorem ordered_sound {moves : List (Move τ ι)}
    (run : (program.ordered waits init).Reaches moves state)
    : state.Sound waits := by
  refine run.invariant (Asking.Sound waits) ⟨List.nodup_nil, fun index => ?_⟩
    (fun sound taken => sound_step sound taken)
  simp [ordered]

-----------------------------------------------------------------------------------------
-- What is told
-----------------------------------------------------------------------------------------

/-- A thread asks when it has just read what is current, tells that when it has the answer, and
nothing else changes what is current or has been told. -/
structure Reports (program : Program σ τ ι) (waits : τ → Bool) (tell : τ → α)
    (told current : σ → α)
    : Prop where
  start {index : Nat} {shared shared' : σ} {thread : τ}
    (began : program.start index shared thread = some shared')
    : told shared' = told shared
      ∧ if waits thread then tell thread = current shared'
        else current shared' = current shared
  report {index : Nat} {input : ι} {shared shared' : σ} {thread thread' : τ}
    (ran : program.step index input shared thread = some (shared', thread'))
    (waiting : waits thread = true)
    : told shared' = tell thread ∧ current shared' = current shared ∧ waits thread' = false
  step {index : Nat} {input : ι} {shared shared' : σ} {thread thread' : τ}
    (ran : program.step index input shared thread = some (shared', thread'))
    (free : waits thread = false)
    : told shared' = told shared
      ∧ if waits thread' then tell thread' = current shared'
        else current shared' = current shared

variable {tell : τ → α} {told current : σ → α}

/-- A move that lets the last question be the last leaves what will be told. -/
theorem latest_kept (sound : state.Sound waits)
    (asked : next.asked.getLast? = state.asked.getLast?)
    (slots
      : ∀ index,
          state.asked.getLast? = some index →
            next.pool.threads[index]? = state.pool.threads[index]?)
    (same : state.asked = [] → told next.pool.shared = told state.pool.shared)
    : next.latest tell told = state.latest tell told := by
  cases last : state.asked.getLast? with
  | none =>
      simp [Asking.latest, asked, last, same (List.getLast?_eq_none_iff.mp last)]
  | some index =>
      obtain ⟨thread, found, _⟩ := (sound.waiting index).mp (List.mem_of_getLast? last)
      rw [Asking.latest_asked last found, Asking.latest_asked (asked.trans last)
        ((slots index last).trans found)]

/-- In order, the last one to ask tells what is current. -/
theorem Reports.latest_step (reports : program.Reports waits tell told current)
    (sound : state.Sound waits) (valid : state.latest tell told = current state.pool.shared)
    (taken : (program.ordered waits init).step state action = some next)
    : next.latest tell told = current next.pool.shared := by
  obtain ⟨moved, there⟩ := ordered_step_some taken
  cases action with
  | start thread =>
      obtain ⟨began, threads⟩ := program.move_start_some moved
      have asked
          : next.asked
            = Asking.ask waits state.asked state.pool.threads.length (some thread) :=
        (Option.some.inj there).symm
      obtain ⟨same, reads⟩ := reports.start began
      cases waiting : waits thread with
      | true =>
          rw [waiting, if_pos rfl] at reads
          have own : next.pool.threads[state.pool.threads.length]? = some thread := by
            simp [threads]
          rw [Asking.latest_asked (by simp [asked, Asking.ask, waiting]) own, reads]
      | false =>
          simp only [waiting, Bool.false_eq_true, if_false] at reads
          refine (latest_kept sound (by simp [asked, Asking.ask, waiting]) ?_
            (fun _ => same)).trans (valid.trans reads.symm)
          intro index last
          obtain ⟨other, found, _⟩ := (sound.waiting index).mp (List.mem_of_getLast? last)
          rw [threads, List.getElem?_append_left (List.getElem?_eq_some_iff.mp found).1]
  | step index input =>
      obtain ⟨thread, after, found, ran, threads⟩ := program.move_step_some moved
      obtain ⟨rest, asked, _, absent, before⟩ := after_step sound found there
      have own : next.pool.threads[index]? = some after := by
        rw [threads, List.getElem?_set_self (List.getElem?_eq_some_iff.mp found).1]
      have others (other : Nat) (member : other ∈ rest)
          : next.pool.threads[other]? = state.pool.threads[other]? := by
        have different : index ≠ other := fun same => absent (same ▸ member)
        rw [threads, List.getElem?_set_ne different]
      rw [own] at asked
      rcases before with ⟨waiting, split⟩ | ⟨free, split⟩
      · obtain ⟨tells, same, stops⟩ := reports.report ran waiting
        have left : next.asked = rest := by simp [asked, Asking.ask, stops]
        rw [same, ← valid]
        cases rest with
        | nil =>
            rw [Asking.latest_told left, tells, Asking.latest_asked (by simp [split]) found]
        | cons head tail =>
            have asked' : next.asked.getLast? = state.asked.getLast? := by
              rw [left, split, List.getLast?_cons_cons]
            refine latest_kept sound asked' ?_ (fun nobody => ?_)
            · intro other last
              exact others other (left ▸ List.mem_of_getLast? (asked'.trans last))
            · rw [split] at nobody
              cases nobody
      · obtain ⟨same, reads⟩ := reports.step ran free
        cases waiting : waits after with
        | true =>
            rw [waiting, if_pos rfl] at reads
            rw [Asking.latest_asked (by simp [asked, Asking.ask, waiting]) own, reads]
        | false =>
            simp only [waiting, Bool.false_eq_true, if_false] at reads
            refine (latest_kept sound (by simp [asked, Asking.ask, waiting, split]) ?_
              (fun _ => same)).trans (valid.trans reads.symm)
            intro other last
            exact others other (split ▸ List.mem_of_getLast? last)

/-- In every run in order. -/
theorem Reports.latest (reports : program.Reports waits tell told current)
    (initial : told init = current init) {moves : List (Move τ ι)}
    (run : (program.ordered waits init).Reaches moves state)
    : state.latest tell told = current state.pool.shared := by
  refine (run.invariant
    (fun state => state.Sound waits ∧ state.latest tell told = current state.pool.shared)
    ⟨?_, initial⟩ (fun held taken => ?_)).2
  · have begun : (program.ordered waits init).Reaches []
        (program.ordered waits init).init :=
      rfl
    exact ordered_sound begun
  · exact ⟨sound_step held.1 taken, reports.latest_step held.1 held.2 taken⟩

end Program

end NexusComms.Concurrency
