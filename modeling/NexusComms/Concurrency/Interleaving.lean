import Mathlib.Algebra.BigOperators.Group.List.Basic
import NexusComms.Concurrency.Runs

/-! Any number of threads over one shared state, interleaved at the steps of one program.
Two rules give invariants of all interleavings from facts about single steps: an outline
of assertions that other threads do not disturb, under a condition on the moves where one is
needed, and a balance of what threads hold.
-/

namespace NexusComms.Concurrency

/-- What a thread of type `τ` does to a shared state `σ`. Both functions are given the index
of the thread, and `step` an input `ι` chosen by the environment; `none` means that the thread
cannot start, or that it waits.
-/
structure Program (σ τ ι : Type) where
  start : Nat → σ → τ → Option σ
  step : Nat → ι → σ → τ → Option (σ × τ)

/-- The shared state together with all threads started so far, finished ones included. -/
structure Pool (σ τ : Type) where
  shared : σ
  threads : List τ

/-- One move of the scheduler: a new thread arrives, or one thread runs its next step. -/
inductive Move (τ ι : Type) where
  | start (thread : τ)
  | step (index : Nat) (input : ι)

namespace Program

variable {σ τ ι : Type} (program : Program σ τ ι)

/-- The effect of a move on the pool. -/
def move (pool : Pool σ τ) : Move τ ι → Option (Pool σ τ)
  | .start thread =>
      (program.start pool.threads.length pool.shared thread).map
        (fun shared => ⟨shared, pool.threads ++ [thread]⟩)
  | .step index input =>
      pool.threads[index]?.bind (fun thread =>
        (program.step index input pool.shared thread).map
          (fun result => ⟨result.1, pool.threads.set index result.2⟩))

/-- All interleavings of the program from a shared state without threads. -/
def machine (init : σ) : Machine (Pool σ τ) (Move τ ι) where
  init := ⟨init, []⟩
  step := program.move

@[simp]
theorem machine_step (init : σ) : (program.machine init).step = program.move := rfl

/-- A new thread changes the shared state by `start` and joins at the end. -/
theorem move_start_some {pool next : Pool σ τ} {thread : τ}
    (moved : program.move pool (.start thread) = some next)
    : program.start pool.threads.length pool.shared thread = some next.shared
      ∧ next.threads = pool.threads ++ [thread] := by
  obtain ⟨shared, started, rfl⟩ := Option.map_eq_some_iff.mp moved
  exact ⟨started, rfl⟩

/-- A step changes the shared state and the one thread that runs. -/
theorem move_step_some {pool next : Pool σ τ} {index : Nat} {input : ι}
    (moved : program.move pool (.step index input) = some next)
    : ∃ thread after,
        pool.threads[index]? = some thread
        ∧ program.step index input pool.shared thread = some (next.shared, after)
        ∧ next.threads = pool.threads.set index after := by
  obtain ⟨thread, found, stepped⟩ := Option.bind_eq_some_iff.mp moved
  obtain ⟨⟨shared, after⟩, ran, rfl⟩ := Option.map_eq_some_iff.mp stepped
  exact ⟨thread, after, found, ran, rfl⟩

/-- One thread runs by itself. -/
def alone (index : Nat) (state : σ) (thread : τ) : List ι → Option (σ × τ)
  | [] => some (state, thread)
  | input :: rest =>
      (program.step index input state thread).bind
        (fun result => alone index result.1 result.2 rest)

theorem alone_cons {index : Nat} {state next : σ} {thread after : τ} {input : ι}
    (rest : List ι) (step : program.step index input state thread = some (next, after))
    : program.alone index state thread (input :: rest)
      = program.alone index next after rest := by
  rw [alone, step, Option.bind_some]

/-- A thread that runs by itself goes on where it has stopped. -/
theorem alone_append {index : Nat} {state middle : σ} {thread between : τ} {first : List ι}
    (second : List ι) (ran : program.alone index state thread first = some (middle, between))
    : program.alone index state thread (first ++ second)
      = program.alone index middle between second := by
  induction first generalizing state thread with
  | nil =>
      cases ran
      rfl
  | cons input rest ih =>
      obtain ⟨⟨next, after⟩, step, later⟩ := Option.bind_eq_some_iff.mp ran
      rw [List.cons_append, alone_cons program _ step]
      exact ih later

/-- A thread that runs by itself does so in every pool that it is part of, by induction on its
inputs. -/
theorem exec_alone (init : σ) {pool : Pool σ τ} {index : Nat} {thread thread' : τ}
    {state' : σ} {inputs : List ι} (found : pool.threads[index]? = some thread)
    (ran : program.alone index pool.shared thread inputs = some (state', thread'))
    : (program.machine init).exec pool (inputs.map (Move.step index))
      = some ⟨state', pool.threads.set index thread'⟩ := by
  induction inputs generalizing pool thread with
  | nil =>
      cases ran
      have bound := (List.getElem?_eq_some_iff.mp found).1
      have same := (List.getElem?_eq_some_iff.mp found).2
      simp [← same]
  | cons input rest ih =>
      obtain ⟨⟨state, after⟩, step, later⟩ := Option.bind_eq_some_iff.mp ran
      have bound := (List.getElem?_eq_some_iff.mp found).1
      have moved
          : program.move pool (.step index input)
            = some ⟨state, pool.threads.set index after⟩ := by
        simp [move, found, step]
      have there : (pool.threads.set index after)[index]? = some after :=
        List.getElem?_set_self bound
      rw [List.map_cons, Machine.exec_cons, machine_step, moved, Option.bind_some]
      refine (ih there later).trans ?_
      rw [List.set_set]

/-- However the environment chooses among the inputs that it may choose, the thread running
by itself does not get stuck before it stops, and it stops with `post`. -/
inductive Ends (index : Nat) (admits : τ → ι → Prop) (post : σ → τ → Prop) : σ → τ → Prop
  | stop {state thread} (established : post state thread) : Ends index admits post state thread
  | step {state thread}
    (able : ∃ input, admits thread input ∧ (program.step index input state thread).isSome)
    (onward
      : ∀ {input next after},
          admits thread input → program.step index input state thread = some (next, after) →
            Ends index admits post next after)
    : Ends index admits post state thread

/-- The shared invariant and one assertion for each thread slot hold of the pool, where
`none` stands for a slot that no thread has taken yet. -/
def Holds (inv : σ → Prop) (holds : σ → Nat → Option τ → Prop) (pool : Pool σ τ) : Prop :=
  inv pool.shared ∧ ∀ index, holds pool.shared index pool.threads[index]?

/-- Each move that meets `condition` keeps the invariant, establishes the assertion of the
thread that moves and keeps all others.
-/
structure GuardedOutline (condition : Pool σ τ → Move τ ι → Prop) (inv : σ → Prop)
    (holds : σ → Nat → Option τ → Prop)
    : Prop where
  start
    : ∀ {pool : Pool σ τ} {thread state'},
        Holds inv holds pool → condition pool (.start thread) →
          program.start pool.threads.length pool.shared thread = some state' →
            inv state'
            ∧ holds state' pool.threads.length (some thread)
            ∧ ∀ other, other ≠ pool.threads.length → holds state' other pool.threads[other]?
  step
    : ∀ {pool : Pool σ τ} {index input thread state' thread'},
        Holds inv holds pool → condition pool (.step index input) →
          pool.threads[index]? = some thread →
            program.step index input pool.shared thread = some (state', thread') →
              inv state'
              ∧ holds state' index (some thread')
              ∧ ∀ other, other ≠ index → holds state' other pool.threads[other]?

/-- An outline without a condition, whose assertions are kept one by one. -/
structure Outline (inv : σ → Prop) (holds : σ → Nat → Option τ → Prop) : Prop where
  start
    : ∀ {state state' index thread},
        inv state → holds state index none →
          program.start index state thread = some state' →
            inv state'
            ∧ holds state' index (some thread)
            ∧ ∀ other slot,
                other ≠ index → holds state other slot → holds state' other slot
  step
    : ∀ {state state' index input thread thread'},
        inv state → holds state index (some thread) →
          program.step index input state thread = some (state', thread') →
            inv state'
            ∧ holds state' index (some thread')
            ∧ ∀ other slot, other ≠ index → holds state other slot → holds state' other slot

variable {program} {condition : Pool σ τ → Move τ ι → Prop} {inv : σ → Prop}
  {holds : σ → Nat → Option τ → Prop}

/-- Every move that meets the condition keeps the outline; the slots are those of the moving
thread, of the other threads, and the empty ones after them. -/
theorem GuardedOutline.move (outline : program.GuardedOutline condition inv holds)
    {pool next : Pool σ τ} {action : Move τ ι} (valid : Holds inv holds pool)
    (meets : condition pool action) (moved : program.move pool action = some next)
    : Holds inv holds next := by
  cases action with
  | start thread =>
      obtain ⟨started, threads⟩ := program.move_start_some moved
      obtain ⟨shared', own, others⟩ := outline.start valid meets started
      refine ⟨shared', fun index => ?_⟩
      rw [threads]
      by_cases same : index = pool.threads.length
      · subst same
        simpa using own
      · have kept := others index same
        rcases Nat.lt_or_gt_of_ne same with earlier | later
        · rwa [List.getElem?_append_left earlier]
        · rw [List.getElem?_eq_none (by omega)] at kept
          rwa [List.getElem?_eq_none (by simp; omega)]
  | step index input =>
      obtain ⟨thread, after, found, ran, threads⟩ := program.move_step_some moved
      obtain ⟨shared', own, others⟩ := outline.step valid meets found ran
      refine ⟨shared', fun other => ?_⟩
      rw [threads]
      by_cases same : other = index
      · subst same
        have bound := (List.getElem?_eq_some_iff.mp found).1
        simpa [List.getElem?_set_self bound] using own
      · rw [List.getElem?_set_ne (Ne.symm same)]
        exact others other same

/-- An outline without a condition is one under any condition. -/
theorem Outline.guarded (outline : program.Outline inv holds)
    : program.GuardedOutline condition inv holds where
  start := by
    intro pool thread state' valid _ started
    have empty : holds pool.shared pool.threads.length none := by
      simpa using valid.2 pool.threads.length
    obtain ⟨shared', own, others⟩ := outline.start valid.1 empty started
    exact ⟨shared', own, fun other different => others other _ different (valid.2 other)⟩
  step := by
    intro pool index input thread state' thread' valid _ found ran
    obtain ⟨shared', own, others⟩ := outline.step valid.1 (found ▸ valid.2 index) ran
    exact ⟨shared', own, fun other different => others other _ different (valid.2 other)⟩

/-- The empty pool satisfies an outline whose empty slots satisfy it. -/
theorem Holds.init {init : σ} (shared : inv init) (empty : ∀ index, holds init index none)
    : Holds inv holds (program.machine init).init :=
  ⟨shared, fun index => by simpa [machine] using empty index⟩

/-- A run all of whose moves meet the condition keeps the outline. -/
theorem GuardedOutline.exec (outline : program.GuardedOutline condition inv holds)
    {init : σ} {pool next : Pool σ τ} {moves : List (Move τ ι)}
    (along : (program.machine init).Along condition pool moves)
    (valid : Holds inv holds pool)
    (run : (program.machine init).exec pool moves = some next)
    : Holds inv holds next :=
  along.exec_preserves (Holds inv holds)
    (fun valid meets moved => outline.move valid meets moved) valid run

/-- Every move keeps an outline without a condition. -/
theorem Outline.move (outline : program.Outline inv holds) {pool next : Pool σ τ}
    {action : Move τ ι} (valid : Holds inv holds pool)
    (moved : program.move pool action = some next)
    : Holds inv holds next := by
  have guarded : program.GuardedOutline (fun _ _ => True) inv holds := outline.guarded
  exact guarded.move valid trivial moved

/-- So does every run, from whatever pool it holds of. -/
theorem Outline.exec (outline : program.Outline inv holds) {init : σ} {pool next : Pool σ τ}
    {moves : List (Move τ ι)} (valid : Holds inv holds pool)
    (run : (program.machine init).exec pool moves = some next)
    : Holds inv holds next :=
  (program.machine init).exec_preserves (Holds inv holds)
    (fun valid moved => outline.move valid moved) valid run

/-- A valid outline that holds of the empty pool holds of every reachable pool. -/
theorem Outline.reaches (outline : program.Outline inv holds) {init : σ} (shared : inv init)
    (empty : ∀ index, holds init index none) {moves : List (Move τ ι)} {pool : Pool σ τ}
    (run : (program.machine init).Reaches moves pool)
    : Holds inv holds pool :=
  outline.exec (.init shared empty) run

/-- How often one thread moves in a run. -/
def ownSteps (index : Nat) (moves : List (Move τ ι)) : Nat :=
  moves.countP (fun
    | .start _ => false
    | .step moving _ => decide (moving = index))

/-- How many steps a thread has left at most, where one that has not come yet has `bound`. -/
def stepsLeft (left : τ → Nat) (bound : Nat) (pool : Pool σ τ) (index : Nat) : Nat :=
  (pool.threads[index]?.map left).getD bound

/-- A thread moves at most as often as it has steps left, where each step takes one off, by
induction on the run. -/
theorem ownSteps_le (left : τ → Nat) (bound : Nat)
    (start
      : ∀ {index state thread state'},
          program.start index state thread = some state' → left thread ≤ bound)
    (step
      : ∀ {index input state thread state' thread'},
          program.step index input state thread = some (state', thread') →
            left thread' < left thread)
    {init : σ} {pool final : Pool σ τ} {moves : List (Move τ ι)} (index : Nat)
    (run : (program.machine init).exec pool moves = some final)
    : ownSteps index moves + stepsLeft left bound final index
      ≤ stepsLeft left bound pool index := by
  induction moves generalizing pool with
  | nil =>
      cases Option.some.inj run
      simp [ownSteps]
  | cons action rest ih =>
      obtain ⟨next, first, later⟩ := Option.bind_eq_some_iff.mp run
      have onward := ih later
      have count
          : ownSteps index (action :: rest)
            = ownSteps index [action] + ownSteps index rest := by
        simp only [ownSteps, List.countP_cons, List.countP_nil]
        omega
      suffices now
          : ownSteps index [action] + stepsLeft left bound next index
            ≤ stepsLeft left bound pool index by
        omega
      cases action with
      | start thread =>
          obtain ⟨started, threads⟩ := program.move_start_some first
          simp only [ownSteps, stepsLeft, threads]
          rcases Nat.lt_trichotomy index pool.threads.length with early | rfl | late
          · simp [List.getElem?_append_left early]
          · simpa using start started
          · have beyond : (pool.threads ++ [thread])[index]? = none :=
              List.getElem?_eq_none (by simp; omega)
            simp [List.getElem?_eq_none (Nat.le_of_lt late), beyond]
      | step moving input =>
          obtain ⟨thread, after, found, ran, threads⟩ := program.move_step_some first
          have fewer := step ran
          by_cases same : moving = index
          · subst same
            have bound := (List.getElem?_eq_some_iff.mp found).1
            simp [ownSteps, stepsLeft, threads, List.getElem?_set_self bound, found]
            omega
          · simp [ownSteps, stepsLeft, threads, List.getElem?_set_ne same, same]

variable {M : Type} [AddCommMonoid M]

/-- What all threads of the pool hold together, where `held` says it of one thread. -/
def total (held : τ → M) (threads : List τ) : M := (threads.map held).sum

@[simp]
theorem total_nil (held : τ → M) : total held [] = 0 := rfl

/-- A new thread adds what it holds. -/
theorem total_concat (held : τ → M) (threads : List τ) (thread : τ)
    : total held (threads ++ [thread]) = total held threads + held thread := by
  simp [total]

/-- One thread's share can be split off the total, and replacing the thread replaces that
share and leaves the rest. The rest is the same for every replacement.
-/
theorem total_set (held : τ → M) {threads : List τ} {index : Nat} {thread : τ}
    (found : threads[index]? = some thread)
    : ∃ rest,
        total held threads = held thread + rest
        ∧ ∀ after, total held (threads.set index after) = held after + rest := by
  induction threads generalizing index with
  | nil => simp at found
  | cons head tail ih =>
      cases index with
      | zero =>
          cases Option.some.inj found
          exact ⟨total held tail, by simp [total], fun after => by simp [total]⟩
      | succ index =>
          obtain ⟨rest, before, replaced⟩ := ih (by simpa using found)
          refine ⟨held head + rest, ?_, fun after => ?_⟩
          · have split : total held (head :: tail) = held head + total held tail := by
              simp [total]
            rw [split, before, add_left_comm]
          · have split
                : total held ((head :: tail).set (index + 1) after)
                  = held head + total held (tail.set index after) := by
              simp [total]
            rw [split, replaced after, add_left_comm]

/-- Everything issued so far is settled in the shared state or held by a thread, if each
move issues some amount and adds the same amount to these two.
-/
theorem balance {program : Program σ τ ι} (issued settled : σ → M) (held : τ → M)
    (start
      : ∀ {index state thread state'},
          program.start index state thread = some state' →
            ∃ amount,
              issued state' = issued state + amount
              ∧ settled state' + held thread = settled state + amount)
    (step
      : ∀ {index input state thread state' thread'},
          program.step index input state thread = some (state', thread') →
            ∃ amount,
              issued state' = issued state + amount
              ∧ settled state' + held thread' = settled state + held thread + amount)
    {init : σ} (initial : issued init = settled init)
    {moves : List (Move τ ι)} {pool : Pool σ τ}
    (run : (program.machine init).Reaches moves pool)
    : issued pool.shared = settled pool.shared + total held pool.threads := by
  refine run.invariant
    (fun pool => issued pool.shared = settled pool.shared + total held pool.threads)
    (by simpa [machine] using initial) ?_
  intro pool action next balanced moved
  cases action with
  | start thread =>
      obtain ⟨started, threads⟩ := program.move_start_some moved
      obtain ⟨amount, more, split⟩ := start started
      calc issued next.shared
          = settled pool.shared + total held pool.threads + amount := by rw [more, balanced]
        _ = settled pool.shared + amount + total held pool.threads := add_right_comm _ _ _
        _ = settled next.shared + held thread + total held pool.threads := by rw [split]
        _ = settled next.shared + total held next.threads := by
              rw [threads, total_concat, add_assoc, add_comm (held thread)]
  | step index input =>
      obtain ⟨thread, after, found, ran, threads⟩ := program.move_step_some moved
      obtain ⟨amount, more, split⟩ := step ran
      obtain ⟨rest, before, replaced⟩ := total_set held found
      calc issued next.shared
          = settled pool.shared + (held thread + rest) + amount := by
              rw [more, balanced, before]
        _ = settled pool.shared + held thread + amount + rest := by
              rw [← add_assoc, add_right_comm]
        _ = settled next.shared + held after + rest := by rw [split]
        _ = settled next.shared + total held next.threads := by
              rw [threads, replaced, add_assoc]

end Program

end NexusComms.Concurrency
