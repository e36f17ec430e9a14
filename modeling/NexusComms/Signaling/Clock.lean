import NexusComms.Signaling.Lifecycle

/-! The times of a call. Both columns are overwritten with NOW() by every UPDATE that sets
them, so the duration is right as long as each of them is set once.
-/

namespace NexusComms.Signaling

open Concurrency

/-- How often `answered_at` has been written. -/
def answers (updates : List StatusUpdate) : Nat := updates.countP StatusUpdate.answeredAt

/-- How often `ended_at` has been written. -/
def ends (updates : List StatusUpdate) : Nat := updates.countP StatusUpdate.endedAt

/-- Each column of a call is written at most once, `ended_at` is set exactly while the call
is over, and it does not precede `answered_at`. -/
structure RowSound (row : Option CallSession) (updates : List StatusUpdate) : Prop where
  answeredOnce : answers updates ≤ 1
  endedOnce : ends updates ≤ 1
  endedClosed {found : CallSession} (exists_row : row = some found)
    : found.endedAt.isSome = found.status.closed
  ordered {found : CallSession} {answered ended : Time} (exists_row : row = some found)
    (answeredAt : found.answeredAt = some answered) (endedAt : found.endedAt = some ended)
    : answered ≤ ended
  lasting {found : CallSession} {seconds : Int} (exists_row : row = some found)
    (duration : found.durationSeconds = some seconds)
    : 0 ≤ seconds

/-- All calls have sound times. -/
def ClockSound (world : World) : Prop :=
  ∀ id, RowSound (world.session id) (world.updates id)

/-- The columns of a call that has ended do not change, and neither does its duration. -/
def DurationKept (before after : World) : Prop :=
  ∀ id row,
    before.session id = some row → row.endedAt.isSome →
      ∃ row',
        after.session id = some row'
        ∧ row'.answeredAt = row.answeredAt
        ∧ row'.endedAt = row.endedAt
        ∧ row'.durationSeconds = row.durationSeconds

/-- A text names no call that is over, and no answered one either where `unanswered`. -/
def Database.open (db : Database) (callId : Text) (unanswered : Bool) : Bool :=
  (db.sessionNamed callId).all
    (fun row => row.endedAt.isNone && (!unanswered || row.answeredAt.isNone))

/-- The event sets no column again: it answers only a call that is neither answered nor over,
and it rejects, ends or switches only a call that is not over. -/
def clockKept (world : World) (stimulus : Stimulus) : Bool :=
  let gateway := world.gateway
  match stimulus.event with
  | .callAccept socketId data =>
      !gateway.mayAccept socketId data.callId || gateway.db.open data.callId true
  | .callReject socketId callId =>
      !(gateway.userOf socketId).isSome || gateway.db.open callId false
  | .callEnd socketId callId => !gateway.knows socketId || gateway.db.open callId false
  | .disconnect socketId =>
      (gateway.callOf socketId).all (fun callId => gateway.db.open callId false)
  | .switchType socketId data =>
      !gateway.knows socketId || gateway.db.open data.callId false
  | _ => true

/-- What holds of every row in every run: its columns are set exactly if they have been
written, and no column lies in the future. -/
structure RowLinked (clock : Time) (row : Option CallSession) (updates : List StatusUpdate)
    : Prop where
  unborn (absent : row = none) : updates = []
  answered {found : CallSession} (exists_row : row = some found)
    : found.answeredAt = none ↔ answers updates = 0
  ended {found : CallSession} (exists_row : row = some found)
    : found.endedAt = none ↔ ends updates = 0
  past {found : CallSession} {answeredAt : Time} (exists_row : row = some found)
    (answered : found.answeredAt = some answeredAt)
    : answeredAt ≤ clock

/-- A duration of ordered times is not negative. -/
theorem duration_nonneg {row : CallSession} {seconds : Int}
    (ordered
      : ∀ answered ended,
          row.answeredAt = some answered → row.endedAt = some ended → answered ≤ ended)
    (duration : row.durationSeconds = some seconds)
    : 0 ≤ seconds := by
  unfold CallSession.durationSeconds at duration
  cases answeredAt : row.answeredAt with
  | none => simp [answeredAt] at duration
  | some answered =>
      cases endedAt : row.endedAt with
      | none => simp [answeredAt, endedAt] at duration
      | some ended =>
          have before : answered ≤ ended := ordered answered ended answeredAt endedAt
          simp only [answeredAt, endedAt, Option.some.injEq] at duration
          rw [← duration]
          refine Int.mul_nonneg (Int.sign_nonneg_iff.mpr ?_) (Int.natCast_nonneg _)
          exact Int.sub_nonneg.mpr (Int.ofNat_le.mpr before)

section Updates

variable {now clock : Time} {row : CallSession} {updates : List StatusUpdate}
  {update : StatusUpdate}

@[simp]
theorem answers_concat
    : answers (updates ++ [update]) = answers updates + if update.answeredAt then 1 else 0 := by
  simp [answers, List.countP_append, List.countP_singleton]

@[simp]
theorem ends_concat
    : ends (updates ++ [update]) = ends updates + if update.endedAt then 1 else 0 := by
  simp [ends, List.countP_append, List.countP_singleton]

/-- An UPDATE links what it sets to what it has written. -/
theorem RowLinked.write (linked : RowLinked clock (some row) updates) (later : clock ≤ now)
    : RowLinked now (some (row.write now update)) (updates ++ [update]) where
  unborn absent := by cases absent
  answered exists_row := by
    cases exists_row
    have same := linked.answered rfl
    by_cases set : update.answeredAt <;> simp [CallSession.write, set, same]
  ended exists_row := by
    cases exists_row
    have same := linked.ended rfl
    by_cases set : update.endedAt <;> simp [CallSession.write, set, same]
  past {found answeredAt} exists_row answered := by
    cases exists_row
    by_cases set : update.answeredAt
    · simp only [CallSession.write, set, if_true, Option.some.injEq] at answered
      exact answered ▸ le_refl _
    · simp only [CallSession.write, set] at answered
      exact le_trans (linked.past rfl answered) later

/-- A new row is linked to no update. -/
theorem RowLinked.initiated (params : CallsService.InitiateParams)
    : RowLinked now (some (CallsService.initiatedRow now params)) [] where
  unborn absent := by cases absent
  answered exists_row := by
    cases exists_row
    simp [CallsService.initiatedRow, answers]
  ended exists_row := by
    cases exists_row
    simp [CallsService.initiatedRow, ends]
  past exists_row answered := by
    cases exists_row
    cases answered

/-- Time passes. -/
theorem RowLinked.mono {found : Option CallSession} (linked : RowLinked clock found updates)
    (later : clock ≤ now)
    : RowLinked now found updates where
  unborn := linked.unborn
  answered := linked.answered
  ended := linked.ended
  past exists_row answered := le_trans (linked.past exists_row answered) later

end Updates

/-- The links hold in every world that is reached. -/
def ClockLinked (world : World) : Prop :=
  ∀ id, RowLinked world.clock (world.session id) (world.updates id)

theorem clockLinked_start : ClockLinked .start := fun _ => {
  unborn := fun _ => rfl
  answered := fun exists_row => by cases exists_row
  ended := fun exists_row => by cases exists_row
  past := fun exists_row => by cases exists_row
}

/-- Every step keeps the links. -/
theorem clockLinked_step {runtime : Runtime} {world : World} {stimulus : Stimulus}
    (linked : ClockLinked world) (admitted : world.admits stimulus = true)
    : ClockLinked (world.after runtime stimulus) := by
  intro id
  have later : world.clock ≤ stimulus.now := admits_clock admitted
  have here := linked id
  change RowLinked stimulus.now _ _
  cases found : world.session id with
  | some row =>
      rw [found] at here
      rcases after_of_row runtime stimulus found with
        ⟨_, same, quiet⟩ | ⟨update, _, same, written⟩
      · rw [same, quiet]
        exact here.mono later
      · rw [same, written]
        exact here.write later
  | none =>
      have nothing := here.unborn found
      rw [found] at here
      rcases after_of_none runtime stimulus found with
        ⟨same, quiet⟩ | ⟨params, ⟨same, quiet⟩ | ⟨same, written⟩⟩
      · rw [same, quiet]
        exact here.mono later
      · rw [same, quiet, nothing]
        exact .initiated params
      · rw [same, written, nothing]
        exact (RowLinked.initiated params).write (le_refl _)

/-- A row that may be written: it is not over, and where the UPDATE answers it, it has not
been answered. -/
def Writable (row : CallSession) (update : StatusUpdate) : Prop :=
  row.endedAt = none ∧ (update.answeredAt = true → row.answeredAt = none)

/-- Every UPDATE sets `ended_at` with a closed status, and never both columns. -/
theorem issued_shape {gateway : Gateway} {event : Event} {id : Uuid} {update : StatusUpdate}
    (issued : event.updateOf gateway id = some update)
    : update.endedAt = update.status.closed
      ∧ (update.endedAt = true → update.answeredAt = false) := by
  obtain ⟨⟨callId, update'⟩, written, here⟩ := Option.bind_eq_some_iff.mp issued
  dsimp only at here
  split at here
  · cases here
    cases event <;> simp only [Event.rowUpdate, reduceCtorEq] at written
    case disconnect socketId =>
      obtain ⟨_, _, same⟩ := Option.map_eq_some_iff.mp written
      cases same
      exact ⟨rfl, fun _ => rfl⟩
    all_goals
      split at written
      · cases written
        exact ⟨rfl, by decide⟩
      · cases written
  · cases here

/-- A sound row that may be written stays sound. -/
theorem RowSound.write {now clock : Time} {row : CallSession} {updates : List StatusUpdate}
    {update : StatusUpdate} (sound : RowSound (some row) updates)
    (linked : RowLinked clock (some row) updates) (later : clock ≤ now)
    (shape
      : update.endedAt = update.status.closed
        ∧ (update.endedAt = true → update.answeredAt = false))
    (writable : Writable row update)
    : RowSound (some (row.write now update)) (updates ++ [update]) := by
  have linked' : RowLinked now (some (row.write now update)) (updates ++ [update]) :=
    linked.write later
  have unended : ends updates = 0 := (linked.ended rfl).mp writable.1
  have ordered
      : ∀ answered ended,
          (row.write now update).answeredAt = some answered →
            (row.write now update).endedAt = some ended → answered ≤ ended := by
    intro answered ended answeredAt endedAt
    by_cases closes : update.endedAt = true
    · simp only [CallSession.write, closes, if_true, Option.some.injEq] at endedAt
      exact endedAt ▸ linked'.past rfl answeredAt
    · simp [CallSession.write, closes, writable.1] at endedAt
  refine ⟨?_, ?_, ?_, ?_, ?_⟩
  · rw [answers_concat]
    by_cases set : update.answeredAt = true
    · have unanswered := (linked.answered rfl).mp (writable.2 set)
      simp [set, unanswered]
    · simpa [set] using sound.answeredOnce
  · rw [ends_concat, unended]
    split <;> simp
  · intro found exists_row
    cases exists_row
    by_cases closes : update.endedAt = true
    · simp [CallSession.write, closes, ← shape.1]
    · simp [CallSession.write, closes, ← shape.1, writable.1]
  · intro found answered ended exists_row answeredAt endedAt
    cases exists_row
    exact ordered answered ended answeredAt endedAt
  · intro found seconds exists_row duration
    cases exists_row
    exact duration_nonneg ordered duration

/-- A row that stays sound was writable. -/
theorem RowSound.writable {now clock : Time} {row : CallSession}
    {updates : List StatusUpdate} {update : StatusUpdate}
    (linked : RowLinked clock (some row) updates)
    (shape : update.endedAt = update.status.closed)
    (sound : RowSound (some (row.write now update)) (updates ++ [update]))
    : Writable row update := by
  have once := sound.endedOnce
  have answeredOnce := sound.answeredOnce
  rw [ends_concat] at once
  rw [answers_concat] at answeredOnce
  constructor
  · by_cases closes : update.endedAt = true
    · rw [if_pos closes] at once
      exact (linked.ended rfl).mpr (by omega)
    · -- the row is open now, so its `ended_at`, which has stayed, is not set
      have closed := sound.endedClosed rfl
      simp only [CallSession.write, closes, ← shape] at closed
      simpa using closed
  · intro set
    rw [if_pos set] at answeredOnce
    exact (linked.answered rfl).mpr (by omega)

/-- A new row is sound. -/
theorem RowSound.initiated (now : Time) (params : CallsService.InitiateParams)
    : RowSound (some (CallsService.initiatedRow now params)) [] where
  answeredOnce := Nat.zero_le _
  endedOnce := Nat.zero_le _
  endedClosed exists_row := by
    cases exists_row
    rfl
  ordered exists_row answeredAt _ := by
    cases exists_row
    cases answeredAt
  lasting exists_row duration := by
    cases exists_row
    cases duration

/-- From a sound world, the next one is sound exactly if the row that the event updates may
be written. -/
theorem clockSound_iff {runtime : Runtime} {world : World} {stimulus : Stimulus}
    (linked : ClockLinked world) (sound : ClockSound world)
    (admitted : world.admits stimulus = true)
    : ClockSound (world.after runtime stimulus)
      ↔ ∀ id row update, world.session id = some row →
          stimulus.event.updateOf world.gateway id = some update → Writable row update := by
  have later : world.clock ≤ stimulus.now := admits_clock admitted
  constructor
  · intro next id row update found issued
    have here := next id
    have link := linked id
    rw [found] at link
    rcases after_of_row runtime stimulus found with
      ⟨unissued, _⟩ | ⟨update', issued', same, written⟩
    · rw [unissued] at issued
      cases issued
    · rw [issued'] at issued
      cases issued
      rw [same, written] at here
      exact RowSound.writable link (issued_shape issued').1 here
  · intro writable id
    have here := sound id
    have link := linked id
    cases found : world.session id with
    | some row =>
        rw [found] at here link
        rcases after_of_row runtime stimulus found with
          ⟨_, same, quiet⟩ | ⟨update, issued, same, written⟩
        · rw [same, quiet]
          exact here
        · rw [same, written]
          exact here.write link later (issued_shape issued) (writable id row update found issued)
    | none =>
        have nothing := link.unborn found
        rw [found, nothing] at here
        rcases after_of_none runtime stimulus found with
          ⟨same, quiet⟩ | ⟨params, ⟨same, quiet⟩ | ⟨same, written⟩⟩
        · rw [same, quiet, nothing]
          exact here
        · rw [same, quiet, nothing]
          exact .initiated stimulus.now params
        · rw [same, written, nothing]
          exact (RowSound.initiated stimulus.now params).write (RowLinked.initiated params)
            (le_refl _) ⟨rfl, by decide⟩ ⟨rfl, fun _ => rfl⟩

/-- An UPDATE that is issued under a check. -/
theorem open_guarded_iff {db : Database} (check : Bool) {callId : Text}
    (update : StatusUpdate)
    : (!check || db.open callId update.answeredAt) = true
      ↔ ∀ callId' update' row,
          (if check then some (callId, update) else none) = some (callId', update') →
            db.sessionNamed callId' = some row → Writable row update' := by
  have named
      : db.open callId update.answeredAt = true
        ↔ ∀ row, db.sessionNamed callId = some row → Writable row update := by
    unfold Database.open Writable
    cases db.sessionNamed callId with
    | none => simp
    | some row => cases update.answeredAt <;> simp
  cases check with
  | false => simp
  | true =>
      rw [Bool.not_true, Bool.false_or, named]
      constructor
      · intro all callId' update' row issued found
        cases issued
        exact all row found
      · intro all row found
        exact all callId update row rfl found

/-- In a sound world, the condition says of each event that the row that its UPDATE names may
be written. -/
theorem clockKept_iff {world : World} {stimulus : Stimulus} (sound : ClockSound world)
    : clockKept world stimulus = true
      ↔ ∀ callId update row,
          stimulus.event.rowUpdate world.gateway = some (callId, update) →
            world.gateway.db.sessionNamed callId = some row → Writable row update := by
  obtain ⟨now, event⟩ := stimulus
  cases event with
  | callAccept socketId data => exact open_guarded_iff _ .accepted
  | callReject socketId callId => exact open_guarded_iff _ CloseReason.rejected.update
  | callEnd socketId callId => exact open_guarded_iff _ CloseReason.ended.update
  | switchType socketId data => exact open_guarded_iff _ .switched
  | disconnect socketId =>
      simp only [clockKept, Event.rowUpdate]
      cases remembered : world.gateway.callOf socketId with
      | none => simp
      | some callId =>
          exact open_guarded_iff true CloseReason.ended.update
  | missedCall callId =>
      -- an initiated call of a sound world is not over
      simp only [clockKept, Event.rowUpdate, true_iff]
      intro callId' update' row issued named
      split at issued
      · next misses =>
          cases issued
          simp only [Gateway.misses, Bool.and_eq_true, decide_eq_true_eq] at misses
          simp only [Database.sessionNamed, Text.cast_uuid, Option.bind_some] at named
          rw [named, Option.map_some, Option.some.injEq] at misses
          have closed := (sound callId).endedClosed named
          rw [misses.2] at closed
          exact ⟨by simpa [CallStatus.closed] using closed, by intro set; cases set⟩
      · cases issued
  | _ =>
      simp only [clockKept, Event.rowUpdate, true_iff]
      intro callId' update' row issued
      cases issued

theorem DurationKept.refl (world : World) : DurationKept world world :=
  fun _ row found _ => ⟨row, found, rfl, rfl, rfl⟩

theorem DurationKept.trans {first second third : World} (early : DurationKept first second)
    (late : DurationKept second third)
    : DurationKept first third := by
  intro id row found closed
  obtain ⟨row', found', answered', ended', duration'⟩ := early id row found closed
  obtain ⟨row'', found'', answered'', ended'', duration''⟩ := late id row' found'
    (by rw [ended']; exact closed)
  exact ⟨row'', found'', answered''.trans answered', ended''.trans ended',
    duration''.trans duration'⟩

/-- An event that meets the condition leaves the times of calls that are over alone. -/
theorem durationKept_step {runtime : Runtime} {world : World} {stimulus : Stimulus}
    (sound : ClockSound world) (kept : clockKept world stimulus = true)
    : DurationKept world (world.after runtime stimulus) := by
  intro id row found closed
  have writable := (issued_iff Writable).mpr ((clockKept_iff sound).mp kept)
  rcases after_of_row runtime stimulus found with
    ⟨_, same, _⟩ | ⟨update, issued, _, _⟩
  · exact ⟨row, same, rfl, rfl, rfl⟩
  · have open_row := (writable id row update found issued).1
    rw [open_row] at closed
    cases closed

/-- In every run, all calls have sound times in every state and the times of a call that is
over never change, exactly if no event of the run sets a column again. -/
theorem call_clock {runtime : Runtime} {actions : List Stimulus} {world : World}
    (run : (gatewayMachine runtime).Reaches actions world)
    : (gatewayMachine runtime).Throughout ClockSound .start actions
        ∧ (gatewayMachine runtime).Between DurationKept .start actions
      ↔ (gatewayMachine runtime).Along
          (fun before stimulus => clockKept before stimulus = true) .start actions := by
  have soundStart : ClockSound .start := fun _ => {
    answeredOnce := Nat.zero_le _
    endedOnce := Nat.zero_le _
    endedClosed := fun exists_row => by cases exists_row
    ordered := fun exists_row => by cases exists_row
    lasting := fun exists_row => by cases exists_row
  }
  have linkedStep
      : ∀ {before : World} {stimulus : Stimulus} {after : World},
          ClockLinked before → (gatewayMachine runtime).step before stimulus = some after →
            ClockLinked after := by
    intro before stimulus after linked taken
    obtain ⟨admitted, rfl⟩ := step_eq_some.mp taken
    exact clockLinked_step linked admitted
  have agree
      : ∀ {before : World} {stimulus : Stimulus} {after : World},
          ClockLinked before → ClockSound before →
            (gatewayMachine runtime).step before stimulus = some after →
              (ClockSound after ↔ clockKept before stimulus = true) := by
    intro before stimulus after linked sound taken
    obtain ⟨admitted, rfl⟩ := step_eq_some.mp taken
    rw [clockSound_iff linked sound admitted, clockKept_iff sound]
    exact issued_iff Writable
  have throughout :=
    Machine.throughout_iff_along _ ClockLinked linkedStep agree clockLinked_start soundStart run
  rw [← throughout]
  refine ⟨And.left, fun sound => ⟨sound, ?_⟩⟩
  rw [Machine.between_iff_eachStep _ DurationKept.refl DurationKept.trans]
  refine (throughout.mp sound).imp (fun reached => ClockLinked reached ∧ ClockSound reached)
    ?_ ?_ ⟨clockLinked_start, soundStart⟩
  · intro before stimulus after inv kept taken
    exact ⟨linkedStep inv.1 taken, (agree inv.1 inv.2 taken).mpr kept⟩
  · intro before stimulus inv kept after taken
    obtain ⟨_, rfl⟩ := step_eq_some.mp taken
    exact durationKept_step inv.2 kept

/-- A call of three seconds, after which the callee stays. -/
def threeSeconds : List Stimulus := ringing ++ [
  ⟨2000000, .callAccept 12 ⟨.uuid 201, .video⟩⟩,
  ⟨5000000, .disconnect 11⟩
]

/-- Its times are sound throughout. -/
theorem call_clock_three_seconds
    : ((worldAfter threeSeconds).session 201).bind CallSession.durationSeconds = some 3
      ∧ (gatewayMachine plainRuntime).Throughout ClockSound .start threeSeconds
      ∧ (gatewayMachine plainRuntime).Between DurationKept .start threeSeconds := by
  have run
      : (gatewayMachine plainRuntime).Reaches threeSeconds (worldAfter threeSeconds) :=
    rfl
  exact ⟨by decide, (call_clock run).mpr (by decide)⟩

/-- The caller hangs up after three seconds, and the callee's browser is closed a minute
later. -/
def closedLater : List Stimulus := ringing ++ [
  ⟨2000000, .callAccept 12 ⟨.uuid 201, .video⟩⟩,
  ⟨5000000, .callEnd 11 (.uuid 201)⟩,
  ⟨65000000, .disconnect 12⟩
]

/-- The callee's socket still remembers the call, and its disconnect ends the call again. -/
theorem duration_changes
    : (gatewayMachine plainRuntime).Reaches closedLater (worldAfter closedLater)
      ∧ ((worldAfter closedLater.dropLast).session 201).bind CallSession.durationSeconds
        = some 3
      ∧ ((worldAfter closedLater).session 201).bind CallSession.durationSeconds = some 63
      ∧ ¬ ClockSound (worldAfter closedLater)
      ∧ ¬ (gatewayMachine plainRuntime).Between DurationKept .start closedLater := by
  refine ⟨rfl, by decide, by decide, fun sound => ?_, fun between => ?_⟩
  · have once := (sound 201).endedOnce
    exact absurd once (by decide)
  · have kept : DurationKept (worldAfter closedLater.dropLast) (worldAfter closedLater) :=
      between closedLater.dropLast [⟨65000000, .disconnect 12⟩] [] _ _ rfl rfl rfl
    obtain ⟨row', found', _, _, duration'⟩ := kept 201 _ rfl rfl
    have changed
        : ((worldAfter closedLater).session 201).bind CallSession.durationSeconds
          = some 63 := by
      decide
    rw [found', Option.bind_some, duration'] at changed
    exact absurd changed (by decide)

end NexusComms.Signaling
