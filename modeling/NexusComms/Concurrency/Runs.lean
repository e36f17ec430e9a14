import Mathlib.Data.List.Basic

/-! Guarded transition systems: finite runs, invariants of runs, and conditions on steps.
A step is a partial function, so a guard that fails is a step that cannot be taken.
-/

namespace NexusComms.Concurrency

/-- A transition system over states `σ` with actions `α`.
The action carries everything the environment chooses: who moves, the clock, randomness.
-/
structure Machine (σ α : Type) where
  init : σ
  step : σ → α → Option σ

/-- A step that a run has taken. -/
structure Taken (σ α : Type) where
  before : σ
  action : α
  after : σ

namespace Machine

variable {σ α : Type} (m : Machine σ α)

/-- The state after a list of actions, when every one of them could be taken. -/
def exec (state : σ) : List α → Option σ
  | [] => some state
  | action :: rest => (m.step state action).bind (fun next => exec next rest)

/-- `m.Reaches actions state` says that the run `actions` leads from the start to `state`. -/
def Reaches (actions : List α) (state : σ) : Prop :=
  m.exec m.init actions = some state

/-- The machine that takes only the steps of `m` that pass a test. -/
def restrict (test : σ → α → Bool) : Machine σ α where
  init := m.init
  step state action := if test state action then m.step state action else none

/-- A step of a restricted machine is a step that passes the test. -/
theorem restrict_eq_some {test : σ → α → Bool} {state next : σ} {action : α}
    : (m.restrict test).step state action = some next
      ↔ test state action = true ∧ m.step state action = some next :=
  Option.ite_none_right_eq_some

/-- `m.Along condition state actions` says that every step of the run meets `condition`,
which speaks about the state before the step and about the action taken there.
-/
def Along (condition : σ → α → Prop) (state : σ) : List α → Prop
  | [] => True
  | action :: rest =>
      condition state action
      ∧ ∀ next, m.step state action = some next → Along condition next rest

/-- A condition that can be decided at each step can be decided along a run. -/
instance decidableAlong {condition : σ → α → Prop}
    [∀ state action, Decidable (condition state action)] (state : σ)
    : (actions : List α) → Decidable (m.Along condition state actions)
  | [] => isTrue trivial
  | action :: rest =>
      match taken : m.step state action with
      | none =>
          decidable_of_iff (condition state action)
            ⟨fun meets => ⟨meets, fun _ step => by rw [taken] at step; cases step⟩, And.left⟩
      | some next =>
          have : Decidable (m.Along condition next rest) := decidableAlong next rest
          decidable_of_iff (condition state action ∧ m.Along condition next rest)
            ⟨fun along =>
              ⟨along.1, fun other step => Option.some.inj (taken.symm.trans step) ▸ along.2⟩,
              fun along => ⟨along.1, along.2 next taken⟩⟩

@[simp]
theorem exec_nil (state : σ) : m.exec state [] = some state := rfl

/-- A run with a first action is one step followed by the rest. -/
theorem exec_cons (state : σ) (action : α) (rest : List α)
    : m.exec state (action :: rest)
      = (m.step state action).bind (fun next => m.exec next rest) :=
  rfl

/-- Runs compose, by induction on the first one. -/
theorem exec_append (state : σ) (first second : List α)
    : m.exec state (first ++ second)
      = (m.exec state first).bind (fun next => m.exec next second) := by
  induction first generalizing state with
  | nil => rfl
  | cons action rest ih =>
      simp only [List.cons_append, exec_cons, Option.bind_assoc]
      congr 1
      funext next
      exact ih next

/-- A run splits at any point into two runs through one middle state. -/
theorem exec_append_some {state final : σ} {first second : List α}
    (run : m.exec state (first ++ second) = some final)
    : ∃ middle, m.exec state first = some middle ∧ m.exec middle second = some final := by
  rw [exec_append] at run
  exact Option.bind_eq_some_iff.mp run

/-- What every step preserves holds after every run, by induction on the run. -/
theorem exec_preserves (inv : σ → Prop)
    (preserved
      : ∀ {state action next}, inv state → m.step state action = some next → inv next)
    {state final : σ} {actions : List α} (start : inv state)
    (run : m.exec state actions = some final)
    : inv final := by
  induction actions generalizing state with
  | nil => exact Option.some.inj run ▸ start
  | cons action rest ih =>
      obtain ⟨next, first, later⟩ := Option.bind_eq_some_iff.mp run
      exact ih (preserved start first) later

/-- A property of the initial state that every step preserves holds in every reachable
state. -/
theorem Reaches.invariant {m : Machine σ α} (inv : σ → Prop)
    (start : inv m.init)
    (preserved
      : ∀ {state action next}, inv state → m.step state action = some next → inv next)
    {actions : List α} {state : σ} (run : m.Reaches actions state)
    : inv state :=
  m.exec_preserves inv preserved start run

/-- A reflexive and transitive relation that every step respects relates the two ends of
every run, where the steps may rely on an invariant. -/
theorem exec_relates (inv : σ → Prop) (rel : σ → σ → Prop)
    (preserved
      : ∀ {state action next}, inv state → m.step state action = some next → inv next)
    (refl : ∀ state, rel state state)
    (trans : ∀ {first second third}, rel first second → rel second third → rel first third)
    (related
      : ∀ {state action next},
          inv state → m.step state action = some next → rel state next)
    {state final : σ} {actions : List α} (start : inv state)
    (run : m.exec state actions = some final)
    : rel state final := by
  induction actions generalizing state with
  | nil => exact Option.some.inj run ▸ refl state
  | cons action rest ih =>
      obtain ⟨next, first, later⟩ := Option.bind_eq_some_iff.mp run
      exact trans (related start first) (ih (preserved start first) later)

/-- A property that the steps meeting a condition preserve holds after every run all of
whose steps meet it. -/
theorem Along.exec_preserves {m : Machine σ α} {condition : σ → α → Prop} (inv : σ → Prop)
    (preserved
      : ∀ {state action next},
          inv state → condition state action → m.step state action = some next → inv next)
    {state final : σ} {actions : List α} (along : m.Along condition state actions)
    (start : inv state) (run : m.exec state actions = some final)
    : inv final := by
  induction actions generalizing state with
  | nil => exact Option.some.inj run ▸ start
  | cons action rest ih =>
      obtain ⟨next, first, later⟩ := Option.bind_eq_some_iff.mp run
      exact ih (along.2 next first) (preserved start along.1 first) later

/-- The steps of the first part of a run meet the condition when all steps do. -/
theorem Along.left {m : Machine σ α} {condition : σ → α → Prop} {state : σ}
    {first second : List α} (along : m.Along condition state (first ++ second))
    : m.Along condition state first := by
  induction first generalizing state with
  | nil => trivial
  | cons action rest ih => exact ⟨along.1, fun next step => ih (along.2 next step)⟩

/-- The steps of the second part of a run meet the condition when all steps do. -/
theorem Along.right {m : Machine σ α} {condition : σ → α → Prop} {state middle : σ}
    {first second : List α} (along : m.Along condition state (first ++ second))
    (run : m.exec state first = some middle)
    : m.Along condition middle second := by
  induction first generalizing state with
  | nil => exact Option.some.inj run ▸ along
  | cons action rest ih =>
      obtain ⟨next, step, later⟩ := Option.bind_eq_some_iff.mp run
      exact ih (along.2 next step) later

/-- Two conditions that agree on the steps taken from invariant states hold of the same
runs from such states. -/
theorem along_congr (inv : σ → Prop) {left right : σ → α → Prop}
    (preserved
      : ∀ {state action next}, inv state → m.step state action = some next → inv next)
    (agree
      : ∀ {state action next},
          inv state → m.step state action = some next →
            (left state action ↔ right state action))
    {state final : σ} {actions : List α} (start : inv state)
    (run : m.exec state actions = some final)
    : m.Along left state actions ↔ m.Along right state actions := by
  induction actions generalizing state with
  | nil => exact Iff.rfl
  | cons action rest ih =>
      obtain ⟨next, step, later⟩ := Option.bind_eq_some_iff.mp run
      have same := agree start step
      have tail := ih (preserved start step) later
      constructor
      · intro along
        obtain ⟨now, after⟩ := along
        refine ⟨same.mp now, fun other taken => ?_⟩
        cases Option.some.inj (step.symm.trans taken)
        exact tail.mp (after next step)
      · intro along
        obtain ⟨now, after⟩ := along
        refine ⟨same.mpr now, fun other taken => ?_⟩
        cases Option.some.inj (step.symm.trans taken)
        exact tail.mpr (after next step)

/-- From a condition that keeps an invariant, a run gets every condition that follows from
both. -/
theorem Along.imp {m : Machine σ α} {condition other : σ → α → Prop} (inv : σ → Prop)
    (preserved
      : ∀ {state action next},
          inv state → condition state action → m.step state action = some next → inv next)
    (follows
      : ∀ {state action}, inv state → condition state action → other state action)
    {state : σ} {actions : List α} (along : m.Along condition state actions)
    (start : inv state)
    : m.Along other state actions := by
  induction actions generalizing state with
  | nil => trivial
  | cons action rest ih =>
      refine ⟨follows start along.1, fun next step => ?_⟩
      exact ih (along.2 next step) (preserved start along.1 step)

/-- A relation under which a machine follows every step of this one relates the ends of their
runs with the same actions, by induction on the actions. -/
theorem exec_follows {τ : Type} (n : Machine τ α) (rel : σ → τ → Prop)
    (follows
      : ∀ {left right action next},
          rel left right → m.step left action = some next →
            ∃ other, n.step right action = some other ∧ rel next other)
    {left final : σ} {right : τ} {actions : List α} (start : rel left right)
    (run : m.exec left actions = some final)
    : ∃ other, n.exec right actions = some other ∧ rel final other := by
  induction actions generalizing left right with
  | nil => exact ⟨right, rfl, Option.some.inj run ▸ start⟩
  | cons action rest ih =>
      obtain ⟨next, first, later⟩ := Option.bind_eq_some_iff.mp run
      obtain ⟨other, taken, related⟩ := follows start first
      obtain ⟨last, ran, ends⟩ := ih related later
      exact ⟨last, by rw [exec_cons, taken]; exact ran, ends⟩

/-- A condition on a run whose first step can be taken. -/
theorem along_cons {condition : σ → α → Prop} {state next : σ} {action : α} {rest : List α}
    (step : m.step state action = some next)
    : m.Along condition state (action :: rest)
      ↔ condition state action ∧ m.Along condition next rest := by
  refine and_congr_right (fun _ => ⟨fun along => along next step, fun along other taken => ?_⟩)
  cases Option.some.inj (step.symm.trans taken)
  exact along

/-- A property that every step has afterwards exactly if it had it before and the step meets a
condition is left at the end of exactly the runs whose steps all meet it. The steps may rely on
what a ghost `γ` says about the state, by induction on the run. -/
theorem good_iff_along {γ : Type} (stands good : σ → γ → Prop) {condition : σ → α → Prop}
    (steps
      : ∀ {state action next ghost},
          stands state ghost → m.step state action = some next →
            ∃ ghost',
              stands next ghost' ∧ (good next ghost' ↔ good state ghost ∧ condition state action))
    {state final : σ} (ghost : γ) {actions : List α} (start : stands state ghost)
    (run : m.exec state actions = some final)
    : ∃ ghost',
        stands final ghost'
        ∧ (good final ghost' ↔ good state ghost ∧ m.Along condition state actions) := by
  induction actions generalizing state ghost with
  | nil =>
      cases run
      exact ⟨ghost, start, (and_iff_left trivial).symm⟩
  | cons action rest ih =>
      obtain ⟨next, step, later⟩ := Option.bind_eq_some_iff.mp run
      obtain ⟨between, known, same⟩ := steps start step
      obtain ⟨last, ends, tail⟩ := ih between known later
      refine ⟨last, ends, ?_⟩
      rw [tail, same, m.along_cons step, and_assoc]

/-- `m.Throughout holds state actions` says that `holds` is true of every state that the run
goes through. -/
def Throughout (holds : σ → Prop) (state : σ) (actions : List α) : Prop :=
  ∀ first last reached,
    actions = first ++ last → m.exec state first = some reached → holds reached

/-- The states of a run are the first one, and those of the rest. -/
theorem throughout_cons {holds : σ → Prop} {state next : σ} {action : α} {rest : List α}
    (step : m.step state action = some next)
    : m.Throughout holds state (action :: rest)
      ↔ holds state ∧ m.Throughout holds next rest := by
  constructor
  · intro throughout
    refine ⟨throughout [] _ state rfl rfl, fun first last reached split ran => ?_⟩
    refine throughout (action :: first) last reached (by simp [split]) ?_
    simp [exec_cons, step, ran]
  · rintro ⟨now, later⟩ first last reached split ran
    cases first with
    | nil => exact Option.some.inj ran ▸ now
    | cons head tail =>
        obtain ⟨rfl, split'⟩ := List.cons.inj split
        obtain ⟨next', step', ran'⟩ := Option.bind_eq_some_iff.mp ran
        cases Option.some.inj (step.symm.trans step')
        exact later tail last reached split' ran'

/-- `m.EachStep rel state actions` relates the states before and after each step of a run. -/
def EachStep (rel : σ → σ → Prop) (state : σ) (actions : List α) : Prop :=
  m.Along (fun before action => ∀ after, m.step before action = some after → rel before after)
    state actions

/-- A relation over steps and a property of states that, from the states that have it, are
both kept by exactly the steps that meet a condition hold of exactly the runs whose steps all
meet it. -/
theorem eachStep_throughout_iff_along (inv : σ → Prop) {rel : σ → σ → Prop} {holds : σ → Prop}
    {condition : σ → α → Prop}
    (preserved
      : ∀ {state action next}, inv state → m.step state action = some next → inv next)
    (agree
      : ∀ {state action next},
          inv state → holds state → m.step state action = some next →
            ((rel state next ∧ holds next) ↔ condition state action))
    {state final : σ} {actions : List α} (start : inv state) (now : holds state)
    (run : m.exec state actions = some final)
    : (m.EachStep rel state actions ∧ m.Throughout holds state actions)
      ↔ m.Along condition state actions := by
  induction actions generalizing state with
  | nil =>
      refine iff_of_true ⟨trivial, fun first last reached split ran => ?_⟩ trivial
      have nothing : first = [] := (List.append_eq_nil_iff.mp split.symm).1
      subst nothing
      exact Option.some.inj ran ▸ now
  | cons action rest ih =>
      obtain ⟨next, step, later⟩ := Option.bind_eq_some_iff.mp run
      have same := agree start now step
      have tail := fun held : holds next => ih (preserved start step) held later
      unfold EachStep at tail ⊢
      rw [m.along_cons step, m.throughout_cons step, m.along_cons step]
      constructor
      · rintro ⟨⟨related, each⟩, _, throughout⟩
        have held : holds next := throughout [] rest next rfl rfl
        exact ⟨same.mp ⟨related next step, held⟩, (tail held).mp ⟨each, throughout⟩⟩
      · rintro ⟨meets, along⟩
        obtain ⟨related, held⟩ := same.mpr meets
        obtain ⟨each, throughout⟩ := (tail held).mpr along
        refine ⟨⟨fun after taken => ?_, each⟩, now, throughout⟩
        exact Option.some.inj (step.symm.trans taken) ▸ related

/-- A property that, from the states that have it, is kept by exactly the steps that meet a
condition holds throughout exactly the runs whose steps all meet it. -/
theorem throughout_iff_along (inv : σ → Prop) {holds : σ → Prop} {condition : σ → α → Prop}
    (preserved
      : ∀ {state action next}, inv state → m.step state action = some next → inv next)
    (agree
      : ∀ {state action next},
          inv state → holds state → m.step state action = some next →
            (holds next ↔ condition state action))
    {state final : σ} {actions : List α} (start : inv state) (now : holds state)
    (run : m.exec state actions = some final)
    : m.Throughout holds state actions ↔ m.Along condition state actions := by
  have both
      : (m.EachStep (fun _ _ => True) state actions ∧ m.Throughout holds state actions)
        ↔ m.Along condition state actions :=
    m.eachStep_throughout_iff_along inv preserved
      (fun valid held step => (Iff.of_eq (true_and _)).trans (agree valid held step)) start now
      run
  have each : m.EachStep (fun _ _ => True) state actions := by
    clear run now start both
    induction actions generalizing state with
    | nil => trivial
    | cons action rest ih => exact ⟨fun _ _ => trivial, fun next _ => ih⟩
  exact ⟨fun throughout => both.mp ⟨each, throughout⟩, fun along => (both.mpr along).2⟩

/-- `m.Between rel state actions` relates any two states that a run goes through, the earlier
one to the later one. -/
def Between (rel : σ → σ → Prop) (state : σ) (actions : List α) : Prop :=
  ∀ first middle last before after,
    actions = first ++ middle ++ last →
      m.exec state first = some before → m.exec before middle = some after →
        rel before after

/-- A reflexive and transitive relation that holds over each step holds over each part of a
run, by induction on the part. -/
theorem EachStep.exec {m : Machine σ α} {rel : σ → σ → Prop} (refl : ∀ state, rel state state)
    (trans : ∀ {first second third}, rel first second → rel second third → rel first third)
    {state final : σ} {actions : List α} (each : m.EachStep rel state actions)
    (run : m.exec state actions = some final)
    : rel state final := by
  induction actions generalizing state with
  | nil => exact Option.some.inj run ▸ refl state
  | cons action rest ih =>
      obtain ⟨next, step, later⟩ := Option.bind_eq_some_iff.mp run
      exact trans (each.1 next step) (ih (each.2 next step) later)

/-- Such a relation holds between any two states of a run exactly if it holds over each
step. -/
theorem between_iff_eachStep {rel : σ → σ → Prop} (refl : ∀ state, rel state state)
    (trans : ∀ {first second third}, rel first second → rel second third → rel first third)
    {state : σ} {actions : List α}
    : m.Between rel state actions ↔ m.EachStep rel state actions := by
  constructor
  · intro between
    induction actions generalizing state with
    | nil => trivial
    | cons action rest ih =>
        refine ⟨fun after step => ?_, fun next step => ih ?_⟩
        · exact between [] [action] rest state after rfl rfl (by simp [exec_cons, step])
        · intro first middle last before after split ran later
          refine between (action :: first) middle last before after ?_ ?_ later
          · simp [split]
          · simp [exec_cons, step, ran]
  · intro each first middle last before after split ran later
    rw [split, List.append_assoc] at each
    have rest : m.EachStep rel before (middle ++ last) := Along.right each ran
    have part : m.EachStep rel before middle := Along.left rest
    exact part.exec refl trans later

/-- All steps of a run, in order. -/
def taken (state : σ) : List α → List (Taken σ α)
  | [] => []
  | action :: rest =>
      match m.step state action with
      | none => []
      | some next => ⟨state, action, next⟩ :: taken next rest

/-- The steps of a run whose first one can be taken. -/
theorem taken_cons {state next : σ} {action : α} (rest : List α)
    (step : m.step state action = some next)
    : m.taken state (action :: rest) = ⟨state, action, next⟩ :: m.taken next rest := by
  simp [taken, step]

/-- Every step taken is one of the machine, from a state that the run has reached. -/
theorem mem_taken {state final : σ} {actions : List α} {taken : Taken σ α}
    (run : m.exec state actions = some final) (member : taken ∈ m.taken state actions)
    : ∃ first last,
        actions = first ++ taken.action :: last
        ∧ m.exec state first = some taken.before
        ∧ m.step taken.before taken.action = some taken.after
        ∧ m.exec taken.after last = some final := by
  induction actions generalizing state with
  | nil => cases member
  | cons action rest ih =>
      obtain ⟨next, step, later⟩ := Option.bind_eq_some_iff.mp run
      rw [m.taken_cons rest step] at member
      rcases List.mem_cons.mp member with rfl | inRest
      · exact ⟨[], rest, rfl, rfl, step, later⟩
      · obtain ⟨first, last, split, ran, own, ends⟩ := ih later inRest
        refine ⟨action :: first, last, by rw [split]; rfl, ?_, own, ends⟩
        rw [exec_cons, step]
        exact ran

/-- A condition along a run is a condition on the steps taken. -/
theorem along_iff_taken {condition : σ → α → Prop} {state final : σ} {actions : List α}
    (run : m.exec state actions = some final)
    : m.Along condition state actions
      ↔ ∀ taken ∈ m.taken state actions, condition taken.before taken.action := by
  induction actions generalizing state with
  | nil => exact iff_of_true trivial (by simp [taken])
  | cons action rest ih =>
      obtain ⟨next, step, later⟩ := Option.bind_eq_some_iff.mp run
      rw [m.taken_cons rest step, List.forall_mem_cons]
      constructor
      · intro along
        exact ⟨along.1, (ih later).mp (along.2 next step)⟩
      · intro meets
        refine ⟨meets.1, fun other taken => ?_⟩
        cases Option.some.inj (step.symm.trans taken)
        exact (ih later).mpr meets.2

/-- Every step taken starts from a state with the invariants that the run keeps. -/
theorem Along.of_taken {m : Machine σ α} {condition : σ → α → Prop} (inv : σ → Prop)
    (preserved
      : ∀ {state action next},
          inv state → condition state action → m.step state action = some next → inv next)
    {state final : σ} {actions : List α} (along : m.Along condition state actions)
    (start : inv state) (run : m.exec state actions = some final) {taken : Taken σ α}
    (member : taken ∈ m.taken state actions)
    : inv taken.before
      ∧ condition taken.before taken.action
      ∧ m.step taken.before taken.action = some taken.after := by
  obtain ⟨first, last, split, reached, step, _⟩ := m.mem_taken run member
  rw [split] at along
  exact ⟨along.left.exec_preserves inv preserved start reached, (along.right reached).1, step⟩

/-- A count that the steps of one kind raise by one, and the others keep, tells how many
steps of that kind a run has taken. -/
theorem countP_taken (inv : σ → Prop) (kind : Taken σ α → Bool) (count : σ → Nat)
    (preserved
      : ∀ {state action next}, inv state → m.step state action = some next → inv next)
    (counts
      : ∀ {state action next},
          inv state → m.step state action = some next →
            count next = count state + if kind ⟨state, action, next⟩ then 1 else 0)
    {state final : σ} {actions : List α} (start : inv state)
    (run : m.exec state actions = some final)
    : count final = count state + (m.taken state actions).countP kind := by
  induction actions generalizing state with
  | nil =>
      cases run
      rfl
  | cons action rest ih =>
      obtain ⟨next, step, later⟩ := Option.bind_eq_some_iff.mp run
      have now := counts start step
      have tail := ih (preserved start step) later
      rw [m.taken_cons rest step, List.countP_cons]
      omega

end Machine

end NexusComms.Concurrency
