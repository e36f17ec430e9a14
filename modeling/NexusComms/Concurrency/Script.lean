import Mathlib.Logic.Basic

/-! Scripts of steps that may fail. A step that throws leaves what the steps before it have
done, so what a script leaves behind depends on how far it has come and on its handlers. The
environment says of every step, by its name, whether it fails.
-/

namespace NexusComms.Concurrency

/-- A script with named steps of type `ν` over states `σ` returns an `α` or throws an `ε`. -/
def Script (ν σ ε α : Type) : Type := (ν → Bool) → σ → Except ε α × σ

namespace Script

variable {ν σ ε α β : Type}

def run (script : Script ν σ ε α) (fails : ν → Bool) (state : σ) : Except ε α × σ :=
  script fails state

instance : Monad (Script ν σ ε) where
  pure value := fun _ state => (.ok value, state)
  bind script next := fun fails state =>
    match script fails state with
    | (.ok value, state') => next value fails state'
    | (.error error, state') => (.error error, state')

instance : MonadExceptOf ε (Script ν σ ε) where
  throw error := fun _ state => (.error error, state)
  tryCatch script handler := fun fails state =>
    match script fails state with
    | (.ok value, state') => (.ok value, state')
    | (.error error, state') => handler error fails state'

instance : MonadFinally (Script ν σ ε) where
  tryFinally' script finalizer := fun fails state =>
    match script fails state with
    | (.ok value, state') =>
        match finalizer (some value) fails state' with
        | (.ok last, state'') => (.ok (value, last), state'')
        | (.error error, state'') => (.error error, state'')
    | (.error error, state') =>
        match finalizer none fails state' with
        | (.ok _, state'') => (.error error, state'')
        | (.error other, state'') => (.error other, state'')

/-- A step that takes effect, or throws and leaves `spoil` of the state. -/
def spoiling (name : ν) (error : ε) (spoil : σ → σ) (effect : σ → Except ε α × σ)
    : Script ν σ ε α :=
  fun fails state => if fails name then (.error error, spoil state) else effect state

/-- A step that takes effect, or throws and changes nothing. -/
def statement (name : ν) (error : ε) (effect : σ → Except ε α × σ) : Script ν σ ε α :=
  spoiling name error id effect

/-- When a step fails: before it takes effect, or after, when only its answer is lost. -/
inductive Moment where
  | before
  | after
deriving DecidableEq, Repr

/-- A step that may fail before it takes effect, or after. -/
def awaited (name : ν) (error : ε) (effect : σ → Except ε α × σ)
    : Script (ν × Moment) σ ε α := do
  let value ← statement (name, .before) error effect
  statement (name, .after) error (fun state => (.ok value, state))

/-- The step fails, at one of the two moments. -/
def breaks (fails : ν × Moment → Bool) (name : ν) : Bool :=
  fails (name, .before) || fails (name, .after)

/-- A step that cannot fail. -/
def modify (change : σ → σ) : Script ν σ ε Unit := fun _ state => (.ok (), change state)

/-- The script ends with `post` of what it returns or throws and of the state it leaves. -/
def Settles (script : Script ν σ ε α) (fails : ν → Bool) (state : σ)
    (post : Except ε α → σ → Prop)
    : Prop :=
  post (script.run fails state).1 (script.run fails state).2

section

variable {script : Script ν σ ε α} {fails : ν → Bool} {state : σ}
  {post weaker : Except ε α → σ → Prop}

/-- What a script ends with decides every postcondition. -/
theorem Settles.iff_of {claim : Prop} (settles : script.Settles fails state post)
    (decides : ∀ result after, post result after → (weaker result after ↔ claim))
    : script.Settles fails state weaker ↔ claim :=
  decides _ _ settles

/-- A weaker postcondition holds as well. -/
theorem Settles.mono (settles : script.Settles fails state post)
    (weakens : ∀ result after, post result after → weaker result after)
    : script.Settles fails state weaker :=
  weakens _ _ settles

@[simp]
theorem settles_pure (value : α)
    : (pure value : Script ν σ ε α).Settles fails state post ↔ post (.ok value) state :=
  Iff.rfl

@[simp]
theorem settles_throw (error : ε)
    : (throw error : Script ν σ ε α).Settles fails state post ↔ post (.error error) state :=
  Iff.rfl

@[simp]
theorem settles_modify {post : Except ε Unit → σ → Prop} (change : σ → σ)
    : (modify change : Script ν σ ε Unit).Settles fails state post
      ↔ post (.ok ()) (change state) :=
  Iff.rfl

/-- What throws ends the sequence. -/
theorem run_bind (next : α → Script ν σ ε β)
    : (script >>= next).run fails state
      = match script.run fails state with
        | (.ok value, after) => (next value).run fails after
        | (.error error, after) => (.error error, after) :=
  rfl

/-- What comes of a sequence comes of its second part, or of the first part if that throws. -/
theorem settles_bind {post : Except ε β → σ → Prop} (next : α → Script ν σ ε β)
    : (script >>= next).Settles fails state post
      ↔ script.Settles fails state
          (fun result after =>
            match result with
            | .ok value => (next value).Settles fails after post
            | .error error => post (.error error) after) := by
  unfold Settles run
  simp only [bind]
  cases script fails state with
  | mk result after =>
      cases result with
      | ok value => exact Iff.rfl
      | error error => exact Iff.rfl

/-- What follows a sequence follows its last step. -/
theorem bind_assoc {γ : Type} (next : α → Script ν σ ε β) (last : β → Script ν σ ε γ)
    : script >>= next >>= last = script >>= fun value => next value >>= last := by
  funext fails state
  simp only [bind]
  cases script fails state with
  | mk result after =>
      cases result with
      | ok value => rfl
      | error error => rfl

/-- A handler goes on in the state that the exception leaves. -/
theorem settles_tryCatch (handler : ε → Script ν σ ε α)
    : (tryCatch script handler).Settles fails state post
      ↔ script.Settles fails state
          (fun result after =>
            match result with
            | .ok value => post (.ok value) after
            | .error error => (handler error).Settles fails after post) := by
  unfold Settles run
  simp only [tryCatch, tryCatchThe, MonadExceptOf.tryCatch]
  cases script fails state with
  | mk result after =>
      cases result with
      | ok value => exact Iff.rfl
      | error error => exact Iff.rfl

/-- A handler that throws again changes nothing. -/
@[simp]
theorem tryCatch_throw : (tryCatch script throw : Script ν σ ε α) = script := by
  funext fails state
  simp only [tryCatch, tryCatchThe, MonadExceptOf.tryCatch]
  cases script fails state with
  | mk result after =>
      cases result with
      | ok value => rfl
      | error error => rfl

/-- A finalizer runs in any case, and what it throws takes the place of the result. -/
theorem settles_tryFinally (finalizer : Script ν σ ε β)
    : (tryFinally script finalizer).Settles fails state post
      ↔ script.Settles fails state
          (fun result after =>
            finalizer.Settles fails after
              (fun last final =>
                match last with
                | .ok _ => post result final
                | .error error => post (.error error) final)) := by
  unfold Settles run
  simp only [tryFinally, tryFinally', Functor.map]
  cases script fails state with
  | mk result after =>
      cases result with
      | ok value =>
          dsimp only
          cases finalizer fails after with
          | mk last final =>
              cases last with
              | ok value => exact Iff.rfl
              | error error => exact Iff.rfl
      | error error =>
          dsimp only
          cases finalizer fails after with
          | mk last final =>
              cases last with
              | ok value => exact Iff.rfl
              | error error => exact Iff.rfl

/-- A step fails, or takes effect. -/
theorem settles_spoiling (name : ν) (error : ε) (spoil : σ → σ) (effect : σ → Except ε α × σ)
    : (spoiling name error spoil effect).Settles fails state post
      ↔ (fails name = true → post (.error error) (spoil state))
        ∧ (fails name = false → post (effect state).1 (effect state).2) := by
  unfold Settles run spoiling
  cases fails name with
  | true => simp
  | false => simp

theorem settles_statement (name : ν) (error : ε) (effect : σ → Except ε α × σ)
    : (statement name error effect).Settles fails state post
      ↔ (fails name = true → post (.error error) state)
        ∧ (fails name = false → post (effect state).1 (effect state).2) :=
  settles_spoiling name error id effect

/-- A step that is awaited fails before it takes effect, or throws by itself, or fails when it
has taken effect, or returns. -/
theorem settles_awaited {fails : ν × Moment → Bool} (name : ν) (error : ε)
    (effect : σ → Except ε α × σ)
    : (awaited name error effect).Settles fails state post
      ↔ (fails (name, .before) = true → post (.error error) state)
        ∧ (fails (name, .before) = false →
            match (effect state).1 with
            | .error thrown => post (.error thrown) (effect state).2
            | .ok value =>
                (fails (name, .after) = true → post (.error error) (effect state).2)
                ∧ (fails (name, .after) = false → post (.ok value) (effect state).2)) := by
  unfold awaited
  rw [settles_bind, settles_statement]
  cases (effect state).1 with
  | error thrown => exact Iff.rfl
  | ok value =>
      dsimp only
      rw [settles_statement]

end

/-- The script keeps a property of the state, whatever fails. -/
def Keeps (property : σ → Prop) (script : Script ν σ ε α) : Prop :=
  ∀ fails state,
    property state → script.Settles fails state (fun _ after => property after)

/-- The script returns. -/
def Returns (script : Script ν σ ε α) (fails : ν → Bool) (state : σ) : Prop :=
  script.Settles fails state (fun result _ => ∃ value, result = .ok value)

section

variable {property : σ → Prop} {script : Script ν σ ε α}

theorem keeps_pure (value : α) : (pure value : Script ν σ ε α).Keeps property :=
  fun _ _ holds => holds

theorem keeps_throw (error : ε) : (throw error : Script ν σ ε α).Keeps property :=
  fun _ _ holds => holds

@[simp]
theorem returns_modify_bind {fails : ν → Bool} {state : σ} (change : σ → σ)
    (next : Unit → Script ν σ ε β)
    : (modify change >>= next).Returns fails state ↔ (next ()).Returns fails (change state) := by
  unfold Returns
  rw [settles_bind, settles_modify]

theorem keeps_modify {change : σ → σ} (kept : ∀ state, property state → property (change state))
    : (modify change : Script ν σ ε Unit).Keeps property :=
  fun _ state holds => kept state holds

theorem Keeps.bind {next : α → Script ν σ ε β} (first : script.Keeps property)
    (second : ∀ value, (next value).Keeps property)
    : (script >>= next).Keeps property := by
  intro fails state holds
  rw [settles_bind]
  refine (first fails state holds).mono fun result after kept => ?_
  cases result with
  | ok value => exact second value fails after kept
  | error error => exact kept

theorem keeps_awaited {name : ν} {error : ε} {effect : σ → Except ε α × σ}
    (kept : ∀ state, property state → property (effect state).2)
    : (awaited name error effect).Keeps property := by
  intro fails state holds
  rw [settles_awaited]
  refine ⟨fun _ => holds, fun _ => ?_⟩
  cases (effect state).1 with
  | ok value => exact ⟨fun _ => kept state holds, fun _ => kept state holds⟩
  | error thrown => exact kept state holds

/-- If all states that a script can leave are good when it returns and bad when it throws, it
has to return. -/
theorem Keeps.settles_iff {fails : ν → Bool} {state : σ} {post : Except ε α → σ → Prop}
    (keeps : script.Keeps property) (holds : property state)
    (good : ∀ value after, property after → post (.ok value) after)
    (bad : ∀ error after, property after → ¬ post (.error error) after)
    : script.Settles fails state post ↔ script.Returns fails state := by
  have kept := keeps fails state holds
  unfold Returns
  unfold Settles at kept ⊢
  cases (script.run fails state).1 with
  | ok value => exact iff_of_true (good value _ kept) ⟨value, rfl⟩
  | error error => exact iff_of_false (bad error _ kept) (fun ⟨_, same⟩ => by cases same)

/-- A step that would take effect is awaited successfully if it does not fail, before or after. -/
theorem returns_awaited_bind {fails : ν × Moment → Bool} {name : ν} {error : ε}
    {effect : σ → Except ε α × σ} {next : α → Script (ν × Moment) σ ε β} {state after : σ}
    {value : α} (takes : effect state = (.ok value, after))
    : (awaited name error effect >>= next).Returns fails state
      ↔ (fails (name, .before) || fails (name, .after)) = false
        ∧ (next value).Returns fails after := by
  unfold Returns
  rw [settles_bind, settles_awaited, takes]
  cases fails (name, .before) with
  | true => simp
  | false =>
      cases fails (name, .after) with
      | true => simp
      | false => simp

/-- A step that throws by itself does not return. -/
theorem not_returns_awaited_bind {fails : ν × Moment → Bool} {name : ν} {error thrown : ε}
    {effect : σ → Except ε α × σ} {next : α → Script (ν × Moment) σ ε β} {state : σ}
    (throws : (effect state).1 = .error thrown)
    : ¬ (awaited name error effect >>= next).Returns fails state := by
  unfold Returns
  rw [settles_bind, settles_awaited, throws]
  cases fails (name, .before) with
  | true => simp
  | false => simp

end

/-- The script throws if it is rejected, and otherwise it returns `value` and leaves `after`. -/
def Completes (script : Script ν σ ε α) (fails : ν → Bool) (state : σ) (rejected : Bool)
    (value : α) (after : σ)
    : Prop :=
  if rejected then
    ∃ error left, script.run fails state = (.error error, left)
  else
    script.run fails state = (.ok value, after)

section

variable {script : Script ν σ ε α} {fails : ν → Bool} {state after : σ} {rejected : Bool}
  {value : α}

theorem completes_pure (value : α)
    : (pure value : Script ν σ ε α).Completes fails state false value state :=
  rfl

theorem completes_throw (error : ε) (value : α) (after : σ)
    : (throw error : Script ν σ ε α).Completes fails state true value after :=
  ⟨error, state, rfl⟩

theorem completes_modify (change : σ → σ)
    : (modify change : Script ν σ ε Unit).Completes fails state false () (change state) :=
  rfl

theorem Completes.run (completes : script.Completes fails state rejected value after)
    (passes : rejected = false)
    : script.run fails state = (.ok value, after) := by
  unfold Completes at completes
  rwa [if_neg (by simp [passes])] at completes

theorem Completes.throws (completes : script.Completes fails state rejected value after)
    (rejects : rejected = true)
    : ∃ error left, script.run fails state = (.error error, left) := by
  unfold Completes at completes
  rwa [if_pos rejects] at completes

theorem Completes.congr {rejected' : Bool} {after' : σ}
    (completes : script.Completes fails state rejected value after)
    (same : rejected = rejected') (same' : after = after')
    : script.Completes fails state rejected' value after' :=
  same ▸ same' ▸ completes

/-- A step that would take effect is rejected if it fails. -/
theorem completes_statement {name : ν} {error : ε} {effect : σ → Except ε α × σ}
    (takes : effect state = (.ok value, after))
    : (statement name error effect).Completes fails state (fails name) value after := by
  unfold Completes run statement spoiling
  cases fails name with
  | true => exact ⟨error, state, rfl⟩
  | false => exact takes

/-- A sequence is rejected with its first part, or with what follows if that returns. -/
theorem Completes.bind {next : α → Script ν σ ε β} {rejected' : Bool} {value' : β} {final : σ}
    (first : script.Completes fails state rejected value after)
    (second : (next value).Completes fails after rejected' value' final)
    : (script >>= next).Completes fails state (rejected || rejected') value' final := by
  unfold Completes at first ⊢
  rw [run_bind]
  cases rejected with
  | true =>
      obtain ⟨error, left, threw⟩ := first
      exact ⟨error, left, by rw [threw]⟩
  | false =>
      rw [if_neg Bool.false_ne_true] at first
      rw [first, Bool.false_or]
      exact second

/-- A step that would take effect is rejected if it fails, before or after. -/
theorem completes_awaited {fails : ν × Moment → Bool} {name : ν} {error : ε}
    {effect : σ → Except ε α × σ} (takes : effect state = (.ok value, after))
    : (awaited name error effect).Completes fails state
        (fails (name, .before) || fails (name, .after)) value after :=
  (completes_statement takes).bind (completes_statement rfl)

/-- What returns has not been rejected. -/
theorem Completes.returns_iff (completes : script.Completes fails state rejected value after)
    : script.Returns fails state ↔ rejected = false := by
  unfold Returns Settles
  unfold Completes at completes
  cases rejected with
  | true =>
      obtain ⟨error, left, threw⟩ := completes
      rw [threw]
      simp
  | false =>
      rw [if_neg Bool.false_ne_true] at completes
      rw [completes]
      simp

end

end Script

end NexusComms.Concurrency
