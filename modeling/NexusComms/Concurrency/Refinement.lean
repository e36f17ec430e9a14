import NexusComms.Concurrency.Interleaving

/-! Interleavings that refine an atomic machine. Each step of a thread is explained by acts of
that thread on the machine, mostly by none at all, so that the machine performs at single
moments what the threads spread over many steps.
-/

namespace NexusComms.Concurrency

/-- Where every step of a machine is some steps of another one, seen through `view`, every run
is a run of that one too. The steps may rely on an invariant, and the proof is by induction on
the run. -/
theorem Machine.exec_projects {σ α κ β : Type} {m : Machine σ α} {n : Machine κ β} (view : σ → κ)
    (inv : σ → Prop)
    (preserved
      : ∀ {state action next}, inv state → m.step state action = some next → inv next)
    (projects
      : ∀ {state action next},
          inv state → m.step state action = some next →
            ∃ steps, n.exec (view state) steps = some (view next))
    {state final : σ} {actions : List α} (start : inv state)
    (run : m.exec state actions = some final)
    : ∃ steps, n.exec (view state) steps = some (view final) := by
  induction actions generalizing state with
  | nil =>
      cases run
      exact ⟨[], rfl⟩
  | cons action rest ih =>
      obtain ⟨next, first, later⟩ := Option.bind_eq_some_iff.mp run
      obtain ⟨now, there⟩ := projects start first
      obtain ⟨further, ends⟩ := ih (preserved start first) later
      refine ⟨now ++ further, ?_⟩
      rw [n.exec_append, there]
      exact ends

/-- The acts of one thread in a log of everybody's acts. -/
def actsOf {β : Type} (log : List (Nat × β)) (index : Nat) : List β :=
  (log.filter (fun entry => entry.1 = index)).map Prod.snd

section

variable {β : Type}

theorem actsOf_append (first second : List (Nat × β)) (index : Nat)
    : actsOf (first ++ second) index = actsOf first index ++ actsOf second index := by
  simp [actsOf]

/-- What one thread adds to the log shows among its own acts. -/
theorem actsOf_tagged_self (index : Nat) (acts : List β)
    : actsOf (acts.map (fun act => (index, act))) index = acts := by
  induction acts with
  | nil => rfl
  | cons act rest ih => simpa [actsOf] using ih

/-- It does not show among the acts of others. -/
theorem actsOf_tagged_other {index other : Nat} (different : other ≠ index) (acts : List β)
    : actsOf (acts.map (fun act => (index, act))) other = [] := by
  simp [actsOf, Ne.symm different]

theorem mem_actsOf {log : List (Nat × β)} {index : Nat} {act : β}
    : act ∈ actsOf log index ↔ (index, act) ∈ log := by
  simp [actsOf]

end

namespace Program

variable {σ τ ι κ β : Type}

/-- Each move of the program is explained by at most one act of the moving thread on `spec`.
`rel` relates the shared state to the state of `spec`, and `holds` is the assertion of a
thread slot together with the acts of this thread so far; both are kept.
-/
structure Refines (program : Program σ τ ι) (spec : Machine κ (Nat × β)) (rel : σ → κ → Prop)
    (holds : σ → κ → Nat → Option τ → List β → Prop)
    : Prop where
  start
    : ∀ {state state' abstract index thread acts},
        rel state abstract → holds state abstract index none acts →
          program.start index state thread = some state' →
            rel state' abstract
            ∧ holds state' abstract index (some thread) acts
            ∧ ∀ other slot done,
                other ≠ index → holds state abstract other slot done →
                  holds state' abstract other slot done
  step
    : ∀ {state state' abstract index input thread thread' acts},
        rel state abstract → holds state abstract index (some thread) acts →
          program.step index input state thread = some (state', thread') →
            ∃ (more : List β) (abstract' : κ),
              more.length ≤ 1
              ∧ spec.exec abstract (more.map (fun act => (index, act))) = some abstract'
              ∧ rel state' abstract'
              ∧ holds state' abstract' index (some thread') (acts ++ more)
              ∧ ∀ other slot done,
                  other ≠ index → holds state abstract other slot done →
                    holds state' abstract' other slot done

/-- The log of acts explains the pool: it leads `spec` to a state related to the shared one,
and every thread has done what its assertion says. -/
structure Explained (spec : Machine κ (Nat × β)) (rel : σ → κ → Prop)
    (holds : σ → κ → Nat → Option τ → List β → Prop) (log : List (Nat × β)) (abstract : κ)
    (pool : Pool σ τ)
    : Prop where
  performed : spec.Reaches log abstract
  related : rel pool.shared abstract
  slots : ∀ index, holds pool.shared abstract index pool.threads[index]? (actsOf log index)

variable {program : Program σ τ ι} {spec : Machine κ (Nat × β)} {rel : σ → κ → Prop}
  {holds : σ → κ → Nat → Option τ → List β → Prop}

/-- A log that explains a pool can be continued, by at most one act, to explain the pool after
a move. -/
theorem Refines.move (refines : program.Refines spec rel holds) {log : List (Nat × β)}
    {abstract : κ} {pool next : Pool σ τ} {action : Move τ ι}
    (explained : Explained spec rel holds log abstract pool)
    (moved : program.move pool action = some next)
    : ∃ (more : List (Nat × β)) (abstract' : κ),
        more.length ≤ 1
        ∧ spec.exec abstract more = some abstract'
        ∧ Explained spec rel holds (log ++ more) abstract' next := by
  cases action with
  | start thread =>
      obtain ⟨started, threads⟩ := program.move_start_some moved
      have empty
          : holds pool.shared abstract pool.threads.length none
              (actsOf log pool.threads.length) := by
        simpa using explained.slots pool.threads.length
      obtain ⟨related, own, others⟩ := refines.start explained.related empty started
      refine ⟨[], abstract, Nat.zero_le _, rfl, by simpa using explained.performed, related,
        fun index => ?_⟩
      rw [threads, List.append_nil]
      by_cases same : index = pool.threads.length
      · subst same
        simpa using own
      · have kept := others index _ _ same (explained.slots index)
        rcases Nat.lt_or_gt_of_ne same with earlier | later
        · rwa [List.getElem?_append_left earlier]
        · rw [List.getElem?_eq_none (by omega)] at kept
          rwa [List.getElem?_eq_none (by simp; omega)]
  | step index input =>
      obtain ⟨thread, after, found, ran, threads⟩ := program.move_step_some moved
      obtain ⟨more, abstract', short, performed, related, own, others⟩ :=
        refines.step explained.related (found ▸ explained.slots index) ran
      refine ⟨more.map (fun act => (index, act)), abstract', by simpa using short, performed,
        ?_, related, fun other => ?_⟩
      · rw [Machine.Reaches, Machine.exec_append, explained.performed]
        exact performed
      · rw [threads, actsOf_append]
        by_cases same : other = index
        · subst same
          have bound := (List.getElem?_eq_some_iff.mp found).1
          rw [List.getElem?_set_self bound, actsOf_tagged_self]
          exact own
        · rw [List.getElem?_set_ne (Ne.symm same), actsOf_tagged_other same, List.append_nil]
          exact others other _ _ same (explained.slots other)

/-- A log that explains a pool can be continued along every run, by no more acts than the run
has moves. -/
theorem Refines.exec (refines : program.Refines spec rel holds) {init : σ}
    {log : List (Nat × β)} {abstract : κ} {pool final : Pool σ τ} {moves : List (Move τ ι)}
    (explained : Explained spec rel holds log abstract pool)
    (run : (program.machine init).exec pool moves = some final)
    : ∃ (more : List (Nat × β)) (abstract' : κ),
        more.length ≤ moves.length
        ∧ spec.exec abstract more = some abstract'
        ∧ Explained spec rel holds (log ++ more) abstract' final := by
  induction moves generalizing log abstract pool with
  | nil =>
      cases Option.some.inj run
      exact ⟨[], abstract, Nat.le_refl _, rfl, by simpa using explained⟩
  | cons action rest ih =>
      obtain ⟨next, first, later⟩ := Option.bind_eq_some_iff.mp run
      obtain ⟨now, middle, short, performed, there⟩ := refines.move explained first
      obtain ⟨further, last, shorter, onward, ends⟩ := ih there later
      refine ⟨now ++ further, last, ?_, ?_, by rwa [← List.append_assoc]⟩
      · rw [List.length_append, List.length_cons]
        omega
      · rw [Machine.exec_append, performed]
        exact onward

/-- A thread that cannot run any more stays as it is. -/
theorem move_stopped {pool next : Pool σ τ} {action : Move τ ι} {index : Nat} {thread : τ}
    (found : pool.threads[index]? = some thread)
    (stopped : ∀ input state, program.step index input state thread = none)
    (moved : program.move pool action = some next)
    : next.threads[index]? = some thread := by
  cases action with
  | start arriving =>
      obtain ⟨_, threads⟩ := program.move_start_some moved
      rw [threads, List.getElem?_append_left (List.getElem?_eq_some_iff.mp found).1]
      exact found
  | step moving input =>
      obtain ⟨running, after, there, ran, threads⟩ := program.move_step_some moved
      have different : moving ≠ index := by
        rintro rfl
        cases Option.some.inj (there.symm.trans found)
        rw [stopped] at ran
        cases ran
      rw [threads, List.getElem?_set_ne different]
      exact found

/-- The empty log explains the empty pool. -/
theorem Explained.init {init : σ} (related : rel init spec.init)
    (empty : ∀ index, holds init spec.init index none [])
    : Explained spec rel holds [] spec.init (program.machine init).init :=
  ⟨rfl, related, fun index => by simpa [machine, actsOf] using empty index⟩

end Program

end NexusComms.Concurrency
