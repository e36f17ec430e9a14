import NexusComms.Signaling.Updates

/-! The statuses that a call goes through. Seven handlers write them with one unconditional
UPDATE, and only the missed-call timer reads the status first.
-/

namespace NexusComms.Signaling

open Concurrency

/-- The status may stay, and it may move from `initiated` to any other and from `active` to
`ended`. -/
def CallStatus.leadsTo : CallStatus → CallStatus → Bool
  | initiated, _ => true
  | active, active | active, ended => true
  | ended, ended | missed, missed | rejected, rejected => true
  | _, _ => false

/-- A status leads to itself. -/
@[simp]
theorem leadsTo_refl (status : CallStatus) : status.leadsTo status = true := by
  cases status <;> rfl

/-- Moves compose. -/
theorem leadsTo_trans {first second third : CallStatus}
    (early : first.leadsTo second = true) (late : second.leadsTo third = true)
    : first.leadsTo third = true := by
  cases first <;> cases second <;> cases third <;> simp_all [CallStatus.leadsTo]

/-- No session disappears, and every status moves as it may. -/
structure Advances (before after : World) : Prop where
  moved {id : Uuid} {row row' : CallSession} (earlier : before.session id = some row)
    (later : after.session id = some row')
    : row.status.leadsTo row'.status = true
  stays {id : Uuid} (earlier : (before.session id).isSome) : (after.session id).isSome

theorem Advances.refl (world : World) : Advances world world where
  moved earlier later := by
    cases Option.some.inj (earlier.symm.trans later)
    exact leadsTo_refl _
  stays earlier := earlier

theorem Advances.trans {first second third : World} (early : Advances first second)
    (late : Advances second third)
    : Advances first third where
  moved {id row row'} earlier later := by
    have kept : (second.session id).isSome := early.stays (by rw [earlier]; rfl)
    obtain ⟨middle, between⟩ := Option.isSome_iff_exists.mp kept
    exact leadsTo_trans (early.moved earlier between) (late.moved between later)
  stays earlier := late.stays (early.stays earlier)

/-- The session that a text names, if there is one, has one of these statuses. -/
def Database.statusIn (db : Database) (callId : Text) (allowed : List CallStatus) : Bool :=
  (db.sessionNamed callId).all (fun row => row.status ∈ allowed)

/-- The event leaves finished calls as they are: it answers or switches only a call that is
initiated or active, it rejects only one that is initiated or rejected, and it ends only one
that is initiated, active or ended. Events whose handler does not get to its UPDATE are free.
-/
def lifecycleKept (world : World) (stimulus : Stimulus) : Bool :=
  let gateway := world.gateway
  match stimulus.event with
  | .callAccept socketId data =>
      !gateway.mayAccept socketId data.callId
        || gateway.db.statusIn data.callId [.initiated, .active]
  | .callReject socketId callId =>
      !(gateway.userOf socketId).isSome
        || gateway.db.statusIn callId [.initiated, .rejected]
  | .callEnd socketId callId =>
      !gateway.knows socketId
        || gateway.db.statusIn callId [.initiated, .active, .ended]
  | .disconnect socketId =>
      (gateway.callOf socketId).all
        (fun callId => gateway.db.statusIn callId [.initiated, .active, .ended])
  | .switchType socketId data =>
      !gateway.knows socketId
        || gateway.db.statusIn data.callId [.initiated, .active]
  | _ => true

/-- A step keeps the lifecycle exactly if the status that it writes to a row is one that
the row may move to. -/
theorem advances_iff {runtime : Runtime} {world : World} {stimulus : Stimulus}
    : Advances world (world.after runtime stimulus)
      ↔ ∀ id row update, world.session id = some row →
          stimulus.event.updateOf world.gateway id = some update →
            row.status.leadsTo update.status = true := by
  constructor
  · intro advances id row update found issued
    rcases after_of_row runtime stimulus found with
      ⟨unissued, _⟩ | ⟨update', issued', same, _⟩
    · rw [unissued] at issued
      cases issued
    · rw [issued'] at issued
      cases issued
      exact advances.moved found same
  · intro allowed
    refine ⟨fun {id row row'} earlier later => ?_, fun {id} earlier => ?_⟩
    · rcases after_of_row runtime stimulus earlier with
        ⟨_, same, _⟩ | ⟨update, issued, same, _⟩
      · rw [same] at later
        cases later
        exact leadsTo_refl _
      · rw [same] at later
        cases later
        exact allowed id row update earlier issued
    · obtain ⟨row, found⟩ := Option.isSome_iff_exists.mp earlier
      rcases after_of_row runtime stimulus found with
        ⟨_, same, _⟩ | ⟨_, _, same, _⟩
      · rw [same]
        rfl
      · rw [same]
        rfl

/-- What may be written to the rows that an UPDATE finds, in terms of the text that names
them. -/
theorem issued_iff {gateway : Gateway} {event : Event}
    (allowed : CallSession → StatusUpdate → Prop)
    : (∀ id row update, gateway.db.callSessions.lookup id = some row →
          event.updateOf gateway id = some update → allowed row update)
      ↔ ∀ callId update row, event.rowUpdate gateway = some (callId, update) →
          gateway.db.sessionNamed callId = some row → allowed row update := by
  constructor
  · intro all callId update row issued named
    obtain ⟨id, cast, found⟩ := Option.bind_eq_some_iff.mp named
    exact all id row update found (by rw [updateOf_some gateway id issued, if_pos cast])
  · intro all id row update found issued
    obtain ⟨⟨callId, update'⟩, written, here⟩ := Option.bind_eq_some_iff.mp issued
    dsimp only at here
    split at here
    · next cast =>
        cases here
        exact all callId update row written
          (Option.bind_eq_some_iff.mpr ⟨id, cast, found⟩)
    · cases here

/-- The rows that may be closed, answered or switched, as lists of statuses. -/
theorem statusIn_iff {db : Database} {callId : Text} {allowed : List CallStatus}
    {status : CallStatus} (same : ∀ other, other ∈ allowed ↔ other.leadsTo status = true)
    : db.statusIn callId allowed = true
      ↔ ∀ row, db.sessionNamed callId = some row → row.status.leadsTo status = true := by
  unfold Database.statusIn
  cases db.sessionNamed callId with
  | none => simp
  | some row => simp [same]

/-- An UPDATE that is issued under a check. -/
theorem guarded_iff {db : Database} {check : Bool} {callId : Text} {update : StatusUpdate}
    {allowed : List CallStatus}
    (same : ∀ other, other ∈ allowed ↔ other.leadsTo update.status = true)
    : (!check || db.statusIn callId allowed) = true
      ↔ ∀ callId' update' row,
          (if check then some (callId, update) else none) = some (callId', update') →
            db.sessionNamed callId' = some row →
              row.status.leadsTo update'.status = true := by
  cases check with
  | false => simp
  | true =>
      rw [Bool.not_true, Bool.false_or, statusIn_iff same]
      constructor
      · intro all callId' update' row issued named
        cases issued
        exact all row named
      · intro all row named
        exact all callId update row rfl named

theorem mem_initiated_active (other : CallStatus)
    : other ∈ [CallStatus.initiated, .active] ↔ other.leadsTo .active = true := by
  cases other <;> decide

theorem mem_initiated_rejected (other : CallStatus)
    : other ∈ [CallStatus.initiated, .rejected] ↔ other.leadsTo .rejected = true := by
  cases other <;> decide

theorem mem_initiated_active_ended (other : CallStatus)
    : other ∈ [CallStatus.initiated, .active, .ended] ↔ other.leadsTo .ended = true := by
  cases other <;> decide

/-- The condition says of each event that its UPDATE, if it issues one, writes a status that
the named row may move to. -/
theorem lifecycleKept_iff {world : World} {stimulus : Stimulus}
    : lifecycleKept world stimulus = true
      ↔ ∀ callId update row,
          stimulus.event.rowUpdate world.gateway = some (callId, update) →
            world.gateway.db.sessionNamed callId = some row →
              row.status.leadsTo update.status = true := by
  obtain ⟨now, event⟩ := stimulus
  cases event with
  | callAccept socketId data => exact guarded_iff mem_initiated_active
  | callReject socketId callId => exact guarded_iff mem_initiated_rejected
  | callEnd socketId callId => exact guarded_iff mem_initiated_active_ended
  | switchType socketId data => exact guarded_iff mem_initiated_active
  | disconnect socketId =>
      simp only [lifecycleKept, Event.rowUpdate]
      cases world.gateway.callOf socketId with
      | none => simp
      | some callId =>
          rw [Option.all_some, statusIn_iff mem_initiated_active_ended]
          constructor
          · intro all callId' update' row issued named
            cases issued
            exact all row named
          · intro all row named
            exact all callId CloseReason.ended.update row rfl named
  | missedCall callId =>
      -- the timer has read the status
      simp only [lifecycleKept, Event.rowUpdate, true_iff]
      intro callId' update' row issued named
      split at issued
      · next misses =>
          cases issued
          simp only [Gateway.misses, Bool.and_eq_true, decide_eq_true_eq] at misses
          simp only [Database.sessionNamed, Text.cast_uuid, Option.bind_some] at named
          rw [named, Option.map_some, Option.some.injEq] at misses
          rw [misses.2]
          rfl
      · cases issued
  | _ =>
      simp only [lifecycleKept, Event.rowUpdate, true_iff]
      intro callId' update' row issued
      cases issued

/-- In every run, every status moves only from initiated to active, ended, rejected or missed
and from active to ended, whichever two states are compared, exactly if every event of the
run leaves finished calls as they are. -/
theorem call_lifecycle {runtime : Runtime} {actions : List Stimulus} {world : World}
    (run : (gatewayMachine runtime).Reaches actions world)
    : (gatewayMachine runtime).Between Advances .start actions
      ↔ (gatewayMachine runtime).Along
          (fun before stimulus => lifecycleKept before stimulus = true) .start actions := by
  rw [Machine.between_iff_eachStep _ Advances.refl Advances.trans]
  refine Machine.along_congr (gatewayMachine runtime) (fun _ => True) (fun _ _ => trivial) ?_
    trivial run
  intro before stimulus next _ taken
  obtain ⟨_, rfl⟩ := step_eq_some.mp taken
  rw [lifecycleKept_iff, ← issued_iff (fun row update => row.status.leadsTo update.status = true)]
  constructor
  · intro each
    exact advances_iff.mp (each _ taken)
  · intro allowed other step
    obtain ⟨_, rfl⟩ := step_eq_some.mp step
    exact advances_iff.mpr allowed

/-- The call is answered, and the callee hangs up before the caller's browser is closed. -/
def answeredCall : List Stimulus := ringing ++ [
  ⟨2, .callAccept 12 ⟨.uuid 201, .video⟩⟩,
  ⟨3, .callEnd 12 (.uuid 201)⟩,
  ⟨4, .disconnect 11⟩
]

/-- A call that is answered and ended goes through the statuses in this order. -/
theorem call_lifecycle_answered
    : ((worldAfter answeredCall).session 201).map CallSession.status = some .ended
      ∧ (gatewayMachine plainRuntime).Between Advances .start answeredCall := by
  have run : (gatewayMachine plainRuntime).Reaches answeredCall (worldAfter answeredCall) := rfl
  exact ⟨by decide, (call_lifecycle run).mpr (by decide)⟩

/-- Nobody answers, and after the timer the caller's browser is closed. -/
def missedThenGone : List Stimulus := ringing ++ [
  ⟨1 + missedCallTimeout, .missedCall 201⟩,
  ⟨2 + missedCallTimeout, .disconnect 11⟩
]

/-- The caller's socket still remembers the missed call, and its disconnect ends it. -/
theorem missed_call_ends
    : (gatewayMachine plainRuntime).Reaches missedThenGone (worldAfter missedThenGone)
      ∧ ((worldAfter missedThenGone.dropLast).session 201).map CallSession.status
        = some .missed
      ∧ ((worldAfter missedThenGone).session 201).map CallSession.status = some .ended
      ∧ ¬ (gatewayMachine plainRuntime).Between Advances .start missedThenGone := by
  refine ⟨rfl, by decide, by decide, fun between => ?_⟩
  have advances
      : Advances (worldAfter missedThenGone.dropLast) (worldAfter missedThenGone) :=
    between missedThenGone.dropLast [⟨2 + missedCallTimeout, .disconnect 11⟩] [] _ _ rfl rfl
      rfl
  have illegal := @Advances.moved _ _ advances 201 _ _ rfl rfl
  exact absurd illegal (by decide)

end NexusComms.Signaling
