import NexusComms.Concurrency.Interleaving
import NexusComms.Signaling.Events

/-! The missed-call timeout of a direct call against the answers to it, interleaved at every
`await`. A stage is named after what its next step awaits; what follows the last await of a
handler is a step of its own.
-/

namespace NexusComms.Signaling

open Concurrency Program CallsRepository

/-- Where the callback of the timeout stands. The timer is what it has captured. -/
inductive TimerStage where
  | fire
  | getCallById (timer : MissedCallTimer)
  | updateStatus (timer : MissedCallTimer)
  | markParticipantLeft (timer : MissedCallTimer)
  | log (timer : MissedCallTimer)
  | emitMissed (timer : MissedCallTimer)
  | done (missed : Bool)
deriving DecidableEq, Repr

/-- Where `onCallAccept` stands, down into `CallsService.acceptCall`. -/
inductive AcceptStage where
  | check
  | findById (userId : Uuid)
  | updateStatus (userId : Uuid)
  | addParticipant (userId : Uuid)
  | log (userId : Uuid)
  | findAccepted (userId : Uuid)
  | join (userId : Uuid) (session : Option CallSession)
  | answer (userId : Uuid) (session : Option CallSession)
  | returned
  | threw (failure : Failure)
deriving DecidableEq, Repr

/-- A handler that concerns the call. An answer remembers whether the call was 'initiated'
when it began. -/
inductive CallHandler where
  | timer (stage : TimerStage)
  | accept (socketId : SocketId) (data : AcceptData) (ringing : Bool) (stage : AcceptStage)
deriving DecidableEq, Repr

/-- The gateway, and all that its handlers have emitted and written so far. -/
structure Exchange where
  gateway : Gateway
  outputs : List Output

namespace Exchange

def status (exchange : Exchange) (callId : Uuid) : Option CallStatus :=
  (exchange.gateway.db.callSessions.lookup callId).map CallSession.status

/-- A query has changed the database and left its outputs. -/
def query (exchange : Exchange) (db : Database) (outputs : List Output) : Exchange :=
  ⟨{ exchange.gateway with db := db }, exchange.outputs ++ outputs⟩

end Exchange

section

variable (callId : Uuid)

/-- The next step of the callback. -/
def SignalingGateway.missedCallStep (now : Time) (exchange : Exchange)
    : TimerStage → Option (Exchange × TimerStage)
  | .fire =>
      match exchange.gateway.missedCallTimers.lookup (.uuid callId) with
      | none => none
      | some timer =>
          if timer.due ≤ now then
            let cleared :=
              (exchange.gateway.cancelTimer (.uuid callId)).deletePending (.uuid callId)
            some ({ exchange with gateway := cleared }, .getCallById timer)
          else
            none
  | .getCallById timer =>
      match exchange.status callId with
      | some .initiated => some (exchange, .updateStatus timer)
      | _ => some (exchange, .done false)
  | .updateStatus timer =>
      let updated := updateStatus now exchange.gateway.db callId CloseReason.missed.update
      some (exchange.query updated.1 updated.2, .markParticipantLeft timer)
  | .markParticipantLeft timer =>
      let left :=
        markParticipantLeft now exchange.gateway.db callId
          (timer.userId.getD timer.anonymousId)
          (if timer.userId.isSome then none else some timer.anonymousId)
      some (exchange.query left [], .log timer)
  | .log timer =>
      let logged :=
        AuditService.log exchange.gateway.db (some (timer.userId.getD timer.anonymousId))
          (CloseReason.missed.event (.uuid callId))
      some (exchange.query exchange.gateway.db logged, .emitMissed timer)
  | .emitMissed timer =>
      let emitted := exchange.gateway.emit (.client timer.socketId) (.callMissed callId)
      some ({ exchange with outputs := exchange.outputs ++ [emitted] }, .done true)
  | .done _ => none

/-- The parameters with which `onCallAccept` calls `acceptCall`. -/
def AcceptData.params (data : AcceptData) (userId : Uuid) : CallsService.AcceptParams :=
  { callId := data.callId, userId := userId, callType := data.callType }

/-- The next step of `onCallAccept`, whose client names the call in some spelling. -/
def SignalingGateway.onCallAcceptStep (now : Time) (exchange : Exchange) (socketId : SocketId)
    (data : AcceptData)
    : AcceptStage → Option (Exchange × AcceptStage)
  | .check =>
      match exchange.gateway.sockets.lookup socketId with
      | none => some (exchange, .threw .socketNotInitialised)
      | some known =>
          match known.userId with
          | none => some (exchange, .threw .authenticationRequired)
          | some userId =>
              if exchange.gateway.bars data.callId userId then
                some (exchange, .threw .notIntendedRecipient)
              else
                some (exchange, .findById userId)
  | .findById userId =>
      match exchange.gateway.db.callSessions.lookup callId with
      | none => some (exchange, .threw .callNotFound)
      | some _ => some (exchange, .updateStatus userId)
  | .updateStatus userId =>
      let updated := updateStatus now exchange.gateway.db callId .accepted
      some (exchange.query updated.1 updated.2, .addParticipant userId)
  | .addParticipant userId =>
      match addParticipant exchange.gateway.db
          (CallsService.guestRow now callId (data.params userId)) with
      | .error failure => some (exchange, .threw failure)
      | .ok db => some (exchange.query db [], .log userId)
  | .log userId =>
      let logged :=
        AuditService.log exchange.gateway.db (some userId) (.callAccepted data.callId)
      some (exchange.query exchange.gateway.db logged, .findAccepted userId)
  | .findAccepted userId =>
      some (exchange, .join userId (exchange.gateway.db.callSessions.lookup callId))
  | .join userId session =>
      let joined := (exchange.gateway.setCallId socketId (some data.callId)).join data.callId
        socketId
      some ({ exchange with gateway := joined }, .answer userId session)
  | .answer userId session =>
      let answered := (exchange.gateway.cancelTimer data.callId).deletePending data.callId
      let accepted : Message :=
        .callAccepted data.callId userId (session.bind CallSession.initiatorId)
      some (⟨answered, exchange.outputs ++ [answered.emit (.room data.callId) accepted]⟩,
        .returned)
  | .returned => none
  | .threw _ => none

/-- The next step of a handler. -/
def CallHandler.step (now : Time) (exchange : Exchange)
    : CallHandler → Option (Exchange × CallHandler)
  | .timer stage =>
      (SignalingGateway.missedCallStep callId now exchange stage).map
        (fun result => (result.1, .timer result.2))
  | .accept socketId data ringing stage =>
      let ringing' :=
        if stage = .check then decide (exchange.status callId = some .initiated) else ringing
      (SignalingGateway.onCallAcceptStep callId now exchange socketId data stage).map
        (fun result => (result.1, .accept socketId data ringing' result.2))

/-- The callback may run, and answers to the call may come in, by whatever sockets. -/
def CallHandler.start (exchange : Exchange) : CallHandler → Option Exchange
  | .timer .fire => some exchange
  | .accept _ data false .check => if data.callId.cast = some callId then some exchange else none
  | _ => none

/-- The handlers that concern one call. -/
def ringingProgram : Program Exchange CallHandler Time where
  start _ := CallHandler.start callId
  step _ := CallHandler.step callId

/-- Every interleaving of these handlers, from any state of the gateway. -/
abbrev ringingMachine (gateway : Gateway)
    : Machine (Pool Exchange CallHandler) (Move CallHandler Time) :=
  (ringingProgram callId).machine ⟨gateway, []⟩

end

/-- The answer has got past its checks and has not failed. -/
def AcceptStage.live : AcceptStage → Bool
  | .check => false
  | .threw _ => false
  | _ => true

/-- The answer has got past its checks and has not set the status yet. -/
def AcceptStage.unanswered : AcceptStage → Bool
  | .findById _ => true
  | .updateStatus _ => true
  | _ => false

namespace CallHandler

/-- An answer that began while the call was 'initiated' and has got past its checks. -/
def committed : CallHandler → Bool
  | .accept _ _ ringing stage => stage.live && ringing
  | _ => false

/-- Such an answer that has not set the status yet. -/
def unanswered : CallHandler → Bool
  | .accept _ _ ringing stage => stage.unanswered && ringing
  | _ => false

/-- An answer that began while the call was 'initiated' and has returned ok. -/
def answered : CallHandler → Bool
  | .accept _ _ true .returned => true
  | _ => false

/-- The callback has read 'initiated'. -/
def decided : CallHandler → Bool
  | .timer .fire => false
  | .timer (.getCallById _) => false
  | .timer (.done missed) => missed
  | .timer _ => true
  | _ => false

/-- The callback has read 'initiated' and not set the status yet. -/
def aboutToMiss : CallHandler → Bool
  | .timer (.updateStatus _) => true
  | _ => false

/-- The next step of the handler reads the status for the callback. -/
def readsStatus : CallHandler → Bool
  | .timer (.getCallById _) => true
  | _ => false

/-- The next step of the handler begins an answer. -/
def begins : CallHandler → Bool
  | .accept _ _ _ .check => true
  | _ => false

end CallHandler

/-- The emission of `call:missed`. -/
def Output.isMissed (callId : Uuid) : Output → Bool
  | .emit emission => emission.message = .callMissed callId
  | _ => false

/-- While the call is 'initiated', the callback does not read its status in the middle of an
answer, and no answer begins between that reading and the callback's UPDATE. -/
def AnswersApart (callId : Uuid) (pool : Pool Exchange CallHandler)
    : Move CallHandler Time → Prop
  | .start _ => True
  | .step index _ =>
      ∀ handler ∈ pool.threads[index]?, pool.shared.status callId = some .initiated →
        (handler.readsStatus = true → ∀ other ∈ pool.threads, other.unanswered = false)
        ∧ (handler.begins = true → ∀ other ∈ pool.threads, other.aboutToMiss = false)

instance (callId : Uuid) (pool : Pool Exchange CallHandler)
    : (move : Move CallHandler Time) → Decidable (AnswersApart callId pool move)
  | .start _ => isTrue trivial
  | .step index _ =>
      inferInstanceAs
        (Decidable
          (∀ handler ∈ pool.threads[index]?, pool.shared.status callId = some .initiated →
            (handler.readsStatus = true → ∀ other ∈ pool.threads, other.unanswered = false)
            ∧ (handler.begins = true → ∀ other ∈ pool.threads, other.aboutToMiss = false)))

-----------------------------------------------------------------------------------------
-- Handlers that nobody interrupts
-----------------------------------------------------------------------------------------

/-- The steps of a handler that runs alone, up to a number of them. -/
def alone {τ : Type} (step : Exchange → τ → Option (Exchange × τ))
    : Nat → Exchange → τ → Exchange × τ
  | 0, exchange, stage => (exchange, stage)
  | fuel + 1, exchange, stage =>
      match step exchange stage with
      | none => (exchange, stage)
      | some (exchange', stage') => alone step fuel exchange' stage'

/-- An answer that nobody interrupts is `onCallAccept`. -/
theorem onCallAccept_alone {callId : Uuid} (now : Time) (exchange : Exchange)
    (socketId : SocketId) (data : AcceptData) (named : data.callId.cast = some callId)
    : let outcome := SignalingGateway.onCallAccept now exchange.gateway socketId data
      alone (fun exchange => SignalingGateway.onCallAcceptStep callId now exchange socketId data)
          8 exchange .check
        = (⟨outcome.gateway, exchange.outputs ++ outcome.outputs⟩,
            match outcome.reply with
            | .ok _ => .returned
            | .error failure => .threw failure) := by
  cases found : exchange.gateway.sockets.lookup socketId with
  | none =>
      simp [alone, SignalingGateway.onCallAccept, SignalingGateway.onCallAcceptStep, found,
        Outcome.refused]
  | some known =>
      cases user : known.userId with
      | none =>
          simp [alone, SignalingGateway.onCallAccept, SignalingGateway.onCallAcceptStep, found,
            user, Outcome.refused]
      | some userId =>
          by_cases barred : exchange.gateway.bars data.callId userId = true
          · simp [alone, SignalingGateway.onCallAccept, SignalingGateway.onCallAcceptStep, found,
              user, barred, Outcome.refused]
          · cases row : exchange.gateway.db.callSessions.lookup callId with
            | none =>
                simp [alone, SignalingGateway.onCallAccept, SignalingGateway.onCallAcceptStep,
                  found, user, barred, CallsService.acceptCall, named, row]
            | some session =>
                cases added : addParticipant
                    (updateStatus now exchange.gateway.db callId .accepted).1
                    (CallsService.guestRow now callId (data.params userId)) with
                | error failure =>
                    have same := added
                    simp only [AcceptData.params] at same
                    simp [alone, SignalingGateway.onCallAccept,
                      SignalingGateway.onCallAcceptStep, found, user, barred,
                      CallsService.acceptCall, named, row, added, same, Exchange.query]
                | ok db =>
                    have same := added
                    simp only [AcceptData.params] at same
                    simp [alone, SignalingGateway.onCallAccept,
                      SignalingGateway.onCallAcceptStep, found, user, barred,
                      CallsService.acceptCall, named, row, added, same, Exchange.query]

/-- The callback that nobody interrupts is `missedCall`. -/
theorem missedCall_alone {callId : Uuid} {timer : MissedCallTimer} (now : Time)
    (exchange : Exchange)
    (set : exchange.gateway.missedCallTimers.lookup (.uuid callId) = some timer)
    (due : timer.due ≤ now)
    : let outcome := SignalingGateway.missedCall now exchange.gateway callId timer
      alone (fun exchange => SignalingGateway.missedCallStep callId now exchange) 6 exchange
          .fire
        = (⟨outcome.gateway, exchange.outputs ++ outcome.outputs⟩,
            .done (decide (exchange.status callId = some .initiated))) := by
  cases status : exchange.status callId with
  | none =>
      simp only [Exchange.status] at status
      simp [alone, SignalingGateway.missedCall, SignalingGateway.missedCallStep, set, due,
        Gateway.cancelTimer, Gateway.deletePending, status, Exchange.status]
  | some status' =>
      simp only [Exchange.status] at status
      cases status' with
      | initiated =>
          simp [alone, SignalingGateway.missedCall, SignalingGateway.missedCallStep, set, due,
            Gateway.cancelTimer, Gateway.deletePending, status, Exchange.status, Exchange.query,
            CallsService.endCall]
      | active =>
          simp [alone, SignalingGateway.missedCall, SignalingGateway.missedCallStep, set, due,
            Gateway.cancelTimer, Gateway.deletePending, status, Exchange.status]
      | ended =>
          simp [alone, SignalingGateway.missedCall, SignalingGateway.missedCallStep, set, due,
            Gateway.cancelTimer, Gateway.deletePending, status, Exchange.status]
      | missed =>
          simp [alone, SignalingGateway.missedCall, SignalingGateway.missedCallStep, set, due,
            Gateway.cancelTimer, Gateway.deletePending, status, Exchange.status]
      | rejected =>
          simp [alone, SignalingGateway.missedCall, SignalingGateway.missedCallStep, set, due,
            Gateway.cancelTimer, Gateway.deletePending, status, Exchange.status]

-----------------------------------------------------------------------------------------
-- The steps
-----------------------------------------------------------------------------------------

/-- All that one step can do to the status of a call that exists, to the emissions, and to what
its handler is up to. -/
structure Effect (callId : Uuid) (before after : Exchange) (handler handler' : CallHandler)
    : Prop where
  status
    : after.status callId = before.status callId
      ∨ after.status callId = some .active
      ∨ (after.status callId = some .missed ∧ handler.aboutToMiss = true)
  missed
    : ∀ output ∈ after.outputs, output.isMissed callId = true →
        output ∈ before.outputs ∨ handler.decided = true
  committed
    : handler'.committed = true →
        handler.committed = true
        ∨ (handler.begins = true ∧ before.status callId = some .initiated)
  answered
    : handler'.committed = true → handler'.unanswered = false →
        (handler.committed = true ∧ handler.unanswered = false)
        ∨ after.status callId = some .active
  decided
    : handler'.decided = true →
        handler.decided = true
        ∨ (handler.readsStatus = true ∧ before.status callId = some .initiated)
  written
    : handler'.decided = true → handler'.aboutToMiss = false →
        (handler.decided = true ∧ handler.aboutToMiss = false)
        ∨ after.status callId = some .missed
  stays : handler.decided = true → handler'.decided = true

section

variable {callId : Uuid} {exchange exchange' : Exchange} {handler handler' : CallHandler}
  {now : Time}

/-- The UPDATE sets the status of a call that exists. -/
theorem status_updateStatus (now : Time) {status : CallStatus}
    (known : exchange.status callId = some status) (update : StatusUpdate)
    (outputs : List Output)
    : (exchange.query (updateStatus now exchange.gateway.db callId update).1 outputs).status
          callId
      = some update.status := by
  obtain ⟨row, found, _⟩ := Option.map_eq_some_iff.mp known
  have stored
      : (updateStatus now exchange.gateway.db callId update).1.callSessions.lookup callId
        = some (row.write now update) := by
    simp [updateStatus, found, Storage.lookup_replace]
  simp only [Exchange.status, Exchange.query, stored]
  rfl

/-- An UPDATE emits nothing. -/
theorem updateStatus_silent (update : StatusUpdate)
    : ∀ output ∈ (updateStatus now exchange.gateway.db callId update).2,
        output.isMissed callId = false := by
  unfold updateStatus
  split
  · intro output member
    cases member
  · intro output member
    rw [List.mem_singleton.mp member]
    rfl

/-- A row of the audit log emits nothing. -/
theorem log_silent (db : Database) (userId : Option Uuid) (event : AuditEvent)
    : ∀ output ∈ AuditService.log db userId event, output.isMissed callId = false := by
  unfold AuditService.log
  split
  · intro output member
    rw [List.mem_singleton.mp member]
    rfl
  · intro output member
    cases member

/-- A new participant changes no session. -/
theorem addParticipant_sessions {db db' : Database} {row : CallParticipant}
    (added : addParticipant db row = .ok db')
    : db'.callSessions = db.callSessions := by
  unfold addParticipant at added
  split at added
  · cases added
    rfl
  · cases added

/-- Outputs of a query that emit nothing add no missed call. -/
theorem missed_query {db : Database} {outputs : List Output}
    (silent : ∀ output ∈ outputs, output.isMissed callId = false)
    : ∀ output ∈ (exchange.query db outputs).outputs, output.isMissed callId = true →
        output ∈ exchange.outputs ∨ handler.decided = true := by
  intro output member missed
  rcases List.mem_append.mp member with old | new
  · exact Or.inl old
  · rw [silent output new] at missed
    cases missed

/-- The effect of each step of the callback. -/
theorem timer_effect {stage stage' : TimerStage} {status : CallStatus}
    (known : exchange.status callId = some status)
    (ran
      : SignalingGateway.missedCallStep callId now exchange stage = some (exchange', stage'))
    : Effect callId exchange exchange' (.timer stage) (.timer stage') := by
  have old (output : Output) (member : output ∈ exchange.outputs)
      (_ : output.isMissed callId = true)
      : output ∈ exchange.outputs ∨ (CallHandler.timer stage).decided = true :=
    Or.inl member
  cases stage with
  | fire =>
      simp only [SignalingGateway.missedCallStep] at ran
      split at ran
      · cases ran
      · split at ran
        · cases ran
          exact ⟨Or.inl rfl, old, nofun, nofun, nofun, nofun, nofun⟩
        · cases ran
  | getCallById timer =>
      simp only [SignalingGateway.missedCallStep] at ran
      split at ran
      · rename_i initiated
        cases ran
        exact ⟨Or.inl rfl, old, nofun, nofun, fun _ => Or.inr ⟨rfl, initiated⟩, nofun, nofun⟩
      · cases ran
        exact ⟨Or.inl rfl, old, nofun, nofun, nofun, nofun, nofun⟩
  | updateStatus timer =>
      cases ran
      have set := status_updateStatus now known CloseReason.missed.update
        (updateStatus now exchange.gateway.db callId CloseReason.missed.update).2
      exact ⟨Or.inr (Or.inr ⟨set, rfl⟩), missed_query (updateStatus_silent _), nofun, nofun,
        fun _ => Or.inl rfl, fun _ _ => Or.inr set, fun _ => rfl⟩
  | markParticipantLeft timer =>
      cases ran
      exact ⟨Or.inl rfl, missed_query (fun _ member => by cases member), nofun, nofun,
        fun _ => Or.inl rfl, fun _ _ => Or.inl ⟨rfl, rfl⟩, fun _ => rfl⟩
  | log timer =>
      cases ran
      exact ⟨Or.inl rfl, missed_query (log_silent _ _ _), nofun, nofun, fun _ => Or.inl rfl,
        fun _ _ => Or.inl ⟨rfl, rfl⟩, fun _ => rfl⟩
  | emitMissed timer =>
      cases ran
      exact ⟨Or.inl rfl, fun _ _ _ => Or.inr rfl, nofun, nofun, fun _ => Or.inl rfl,
        fun _ _ => Or.inl ⟨rfl, rfl⟩, fun _ => rfl⟩
  | done missed => cases ran

/-- The step of an answer that stays answered or unanswered and leaves the status alone. -/
theorem Effect.of_accept {socketId : SocketId} {data : AcceptData} {ringing : Bool}
    {stage stage' : AcceptStage} (same : exchange'.status callId = exchange.status callId)
    (silent
      : ∀ output ∈ exchange'.outputs, output.isMissed callId = true →
          output ∈ exchange.outputs)
    (committed
      : (CallHandler.accept socketId data ringing stage').committed = true →
          (CallHandler.accept socketId data ringing stage).committed = true)
    (answered
      : (CallHandler.accept socketId data ringing stage').committed = true →
          (CallHandler.accept socketId data ringing stage').unanswered = false →
            (CallHandler.accept socketId data ringing stage).unanswered = false)
    : Effect callId exchange exchange' (.accept socketId data ringing stage)
        (.accept socketId data ringing stage') where
  status := Or.inl same
  missed := fun output member missed => Or.inl (silent output member missed)
  committed := fun now => Or.inl (committed now)
  answered := fun now done => Or.inl ⟨committed now, answered now done⟩
  decided := nofun
  written := nofun
  stays := nofun

/-- Outputs of a query that emit nothing. -/
theorem silent_query {db : Database} {outputs : List Output}
    (silent : ∀ output ∈ outputs, output.isMissed callId = false)
    : ∀ output ∈ (exchange.query db outputs).outputs, output.isMissed callId = true →
        output ∈ exchange.outputs := by
  intro output member missed
  rcases List.mem_append.mp member with old | new
  · exact old
  · rw [silent output new] at missed
    cases missed

/-- The effect of the first step of an answer. -/
theorem check_effect {socketId : SocketId} {data : AcceptData} {ringing : Bool}
    {stage' : AcceptStage}
    (ran
      : SignalingGateway.onCallAcceptStep callId now exchange socketId data .check
        = some (exchange', stage'))
    : Effect callId exchange exchange' (.accept socketId data ringing .check)
        (.accept socketId data (decide (exchange.status callId = some .initiated)) stage') := by
  have shape
      : exchange' = exchange
        ∧ ((∃ failure, stage' = .threw failure) ∨ ∃ userId, stage' = .findById userId) := by
    simp only [SignalingGateway.onCallAcceptStep] at ran
    split at ran
    · cases ran
      exact ⟨rfl, Or.inl ⟨_, rfl⟩⟩
    · split at ran
      · cases ran
        exact ⟨rfl, Or.inl ⟨_, rfl⟩⟩
      · split at ran
        · cases ran
          exact ⟨rfl, Or.inl ⟨_, rfl⟩⟩
        · cases ran
          exact ⟨rfl, Or.inr ⟨_, rfl⟩⟩
  obtain ⟨rfl, next⟩ := shape
  by_cases initiated : exchange'.status callId = some .initiated
  · rw [decide_eq_true initiated]
    rcases next with ⟨failure, rfl⟩ | ⟨userId, rfl⟩
    · exact ⟨Or.inl rfl, fun _ member _ => Or.inl member, nofun, nofun, nofun, nofun, nofun⟩
    · exact ⟨Or.inl rfl, fun _ member _ => Or.inl member, fun _ => Or.inr ⟨rfl, initiated⟩,
        nofun, nofun, nofun, nofun⟩
  · rw [decide_eq_false initiated]
    have idle (live : (stage'.live && false) = true) : False := by
      rw [Bool.and_false] at live
      cases live
    exact ⟨Or.inl rfl, fun _ member _ => Or.inl member, fun live => (idle live).elim,
      fun live => (idle live).elim, nofun, nofun, nofun⟩

/-- The effect of each later step of an answer. -/
theorem onCallAccept_effect {socketId : SocketId} {data : AcceptData} {ringing : Bool}
    {stage stage' : AcceptStage} {status : CallStatus}
    (known : exchange.status callId = some status) (begun : stage ≠ .check)
    (ran
      : SignalingGateway.onCallAcceptStep callId now exchange socketId data stage
        = some (exchange', stage'))
    : Effect callId exchange exchange' (.accept socketId data ringing stage)
        (.accept socketId data ringing stage') := by
  have quiet (output : Output) (member : output ∈ exchange.outputs)
      (_ : output.isMissed callId = true)
      : output ∈ exchange.outputs :=
    member
  cases stage with
  | check => exact absurd rfl begun
  | findById userId =>
      simp only [SignalingGateway.onCallAcceptStep] at ran
      split at ran
      · cases ran
        exact .of_accept rfl quiet (fun live => absurd live Bool.false_ne_true)
          (fun live => absurd live Bool.false_ne_true)
      · cases ran
        exact .of_accept rfl quiet (fun live => live) (fun _ before => before)
  | updateStatus userId =>
      cases ran
      have set := status_updateStatus now known StatusUpdate.accepted
        (updateStatus now exchange.gateway.db callId .accepted).2
      exact ⟨Or.inr (Or.inl set), missed_query (updateStatus_silent _),
        fun live => Or.inl live, fun _ _ => Or.inr set, nofun, nofun, nofun⟩
  | addParticipant userId =>
      simp only [SignalingGateway.onCallAcceptStep] at ran
      split at ran
      · cases ran
        exact .of_accept rfl quiet (fun live => absurd live Bool.false_ne_true)
          (fun live => absurd live Bool.false_ne_true)
      · rename_i db added
        cases ran
        have same : (exchange.query db []).status callId = exchange.status callId := by
          simp only [Exchange.status, Exchange.query, addParticipant_sessions added]
        exact .of_accept same (silent_query (fun _ member => by cases member))
          (fun live => live) (fun _ _ => rfl)
  | log userId =>
      cases ran
      exact .of_accept rfl (silent_query (log_silent _ _ _)) (fun live => live) (fun _ _ => rfl)
  | findAccepted userId =>
      cases ran
      exact .of_accept rfl quiet (fun live => live) (fun _ _ => rfl)
  | join userId session =>
      cases ran
      have db
          : ((exchange.gateway.setCallId socketId (some data.callId)).join data.callId
              socketId).db
            = exchange.gateway.db := by
        rw [Gateway.join_eq, Gateway.setCallId, Gateway.updateMeta_eq]
      refine .of_accept ?_ quiet (fun live => live) (fun _ _ => rfl)
      simp only [Exchange.status, db]
  | answer userId session =>
      cases ran
      refine .of_accept rfl (fun output member missed => ?_) (fun live => live) (fun _ _ => rfl)
      rcases List.mem_append.mp member with old | new
      · exact old
      · rw [List.mem_singleton.mp new] at missed
        cases missed
  | returned => cases ran
  | threw failure => cases ran

/-- The effect of each step of a handler. -/
theorem handler_effect {status : CallStatus} (known : exchange.status callId = some status)
    (ran : handler.step callId now exchange = some (exchange', handler'))
    : Effect callId exchange exchange' handler handler' := by
  cases handler with
  | timer stage =>
      obtain ⟨⟨_, _⟩, stepped, same⟩ := Option.map_eq_some_iff.mp ran
      cases same
      exact timer_effect known stepped
  | accept socketId data ringing stage =>
      obtain ⟨⟨_, _⟩, stepped, same⟩ := Option.map_eq_some_iff.mp ran
      cases same
      by_cases begins : stage = .check
      · subst begins
        exact check_effect stepped
      · rw [if_neg begins]
        exact onCallAccept_effect known begins stepped

/-- A handler that starts has done nothing. -/
theorem handler_start (started : handler.start callId exchange = some exchange')
    : exchange' = exchange ∧ handler.committed = false ∧ handler.decided = false := by
  unfold CallHandler.start at started
  split at started
  · cases started
    exact ⟨rfl, rfl, rfl⟩
  · split at started
    · cases started
      exact ⟨rfl, rfl, rfl⟩
    · cases started
  · cases started

end

-----------------------------------------------------------------------------------------
-- All runs
-----------------------------------------------------------------------------------------

/-- Who has done what, and what the status is by then. The callback and an answer never both
go on from a call that is 'initiated'.
-/
structure Apart (callId : Uuid) (pool : Pool Exchange CallHandler) : Prop where
  known : (pool.shared.status callId).isSome = true
  exclusive
    : ∀ handler ∈ pool.threads, ∀ other ∈ pool.threads,
        handler.decided = true → other.committed = true → False
  answered
    : ∀ handler ∈ pool.threads, handler.committed = true → handler.unanswered = false →
        pool.shared.status callId = some .active
  written
    : ∀ handler ∈ pool.threads, handler.decided = true → handler.aboutToMiss = false →
        pool.shared.status callId ≠ some .initiated
  missed
    : ∀ output ∈ pool.shared.outputs, output.isMissed callId = true →
        ∃ handler ∈ pool.threads, handler.decided = true

section

variable {callId : Uuid} {pool next : Pool Exchange CallHandler}

/-- The callback about to miss the call has decided to. -/
theorem decided_of_aboutToMiss {handler : CallHandler} (about : handler.aboutToMiss = true)
    : handler.decided = true := by
  unfold CallHandler.aboutToMiss at about
  split at about
  · rfl
  · cases about

/-- A handler is the callback or an answer. -/
theorem not_both {handler : CallHandler} (decided : handler.decided = true)
    (committed : handler.committed = true)
    : False := by
  cases handler with
  | timer stage => cases committed
  | accept socketId data ringing stage => cases decided

/-- A move that keeps callback and answers apart keeps the invariant. -/
theorem Apart.move {move : Move CallHandler Time} (apart : Apart callId pool)
    (separate : AnswersApart callId pool move)
    (moved : (ringingProgram callId).move pool move = some next)
    : Apart callId next := by
  cases move with
  | start handler =>
      obtain ⟨started, threads⟩ := (ringingProgram callId).move_start_some moved
      obtain ⟨same, uncommitted, undecided⟩ := handler_start started
      have old {other : CallHandler} (member : other ∈ next.threads)
          : other ∈ pool.threads ∨ other = handler := by
        rw [threads] at member
        simpa using member
      refine ⟨same ▸ apart.known, ?_, ?_, ?_, ?_⟩
      · intro first member second member' decided committed
        rcases old member with before | rfl
        · rcases old member' with before' | rfl
          · exact apart.exclusive first before second before' decided committed
          · rw [uncommitted] at committed
            cases committed
        · rw [undecided] at decided
          cases decided
      · intro other member committed done
        rcases old member with before | rfl
        · exact same ▸ apart.answered other before committed done
        · rw [uncommitted] at committed
          cases committed
      · intro other member decided done
        rcases old member with before | rfl
        · exact same ▸ apart.written other before decided done
        · rw [undecided] at decided
          cases decided
      · rw [same, threads]
        intro output member missed
        obtain ⟨other, before, decided⟩ := apart.missed output member missed
        exact ⟨other, List.mem_append_left _ before, decided⟩
  | step index now =>
      obtain ⟨handler, handler', found, ran, threads⟩ :=
        (ringingProgram callId).move_step_some moved
      obtain ⟨status, known⟩ := Option.isSome_iff_exists.mp apart.known
      have effect : Effect callId pool.shared next.shared handler handler' :=
        handler_effect known ran
      have member : handler ∈ pool.threads := List.mem_of_getElem? found
      have bound := (List.getElem?_eq_some_iff.mp found).1
      have separated := separate handler found
      have old {other : CallHandler} (inNext : other ∈ next.threads)
          : other ∈ pool.threads ∨ other = handler' := by
        rw [threads] at inNext
        exact List.mem_or_eq_of_mem_set inNext
      have nobody {other : CallHandler} (before : other ∈ pool.threads)
          (committed : other.committed = true) (about : handler.aboutToMiss = true)
          : False :=
        apart.exclusive handler member other before (decided_of_aboutToMiss about) committed
      -- the status can only leave 'initiated'
      have initiated (after : next.shared.status callId = some .initiated)
          : pool.shared.status callId = some .initiated := by
        rcases effect.status with same | active | missed
        · rw [← same]
          exact after
        · rw [active] at after
          cases after
        · rw [missed.1] at after
          cases after
      refine ⟨?_, ?_, ?_, ?_, ?_⟩
      · rcases effect.status with same | active | missed
        · exact same ▸ apart.known
        · rw [active]
          rfl
        · rw [missed.1]
          rfl
      · intro first inNext second inNext' decided committed
        rcases old inNext with before | rfl
        · rcases old inNext' with before' | rfl
          · exact apart.exclusive first before second before' decided committed
          · -- an answer goes on, or begins while the callback is about to miss the call
            rcases effect.committed committed with earlier | ⟨begins, ringing⟩
            · exact apart.exclusive first before handler member decided earlier
            · cases about : first.aboutToMiss with
              | true =>
                  rw [(separated ringing).2 begins first before] at about
                  cases about
              | false => exact apart.written first before decided about ringing
        · rcases old inNext' with before' | rfl
          · -- the callback goes on, or reads the status in the middle of an answer
            rcases effect.decided decided with earlier | ⟨reads, ringing⟩
            · exact apart.exclusive handler member second before' earlier committed
            · cases early : second.unanswered with
              | true =>
                  rw [(separated ringing).1 reads second before'] at early
                  cases early
              | false =>
                  rw [apart.answered second before' committed early] at ringing
                  cases ringing
          · exact not_both decided committed
      · intro other inNext committed done
        have kept (before : pool.shared.status callId = some .active)
            (nobody : handler.aboutToMiss = true → False)
            : next.shared.status callId = some .active := by
          rcases effect.status with same | active | missed
          · exact same.trans before
          · exact active
          · exact absurd missed.2 (fun about => nobody about)
        rcases old inNext with before | rfl
        · exact kept (apart.answered other before committed done) (nobody before committed)
        · rcases effect.answered committed done with ⟨earlier, early⟩ | active
          · exact kept (apart.answered handler member earlier early) (nobody member earlier)
          · exact active
      · intro other inNext decided done after
        rcases old inNext with before | rfl
        · exact apart.written other before decided done (initiated after)
        · rcases effect.written decided done with ⟨earlier, early⟩ | missed
          · exact apart.written handler member earlier early (initiated after)
          · rw [missed] at after
            cases after
      · intro output inOutputs missed
        have own : handler' ∈ next.threads := by
          rw [threads]
          exact List.mem_set bound handler'
        rcases effect.missed output inOutputs missed with before | decided
        · obtain ⟨other, inThreads, decided⟩ := apart.missed output before missed
          obtain ⟨position, at'⟩ := List.mem_iff_getElem?.mp inThreads
          by_cases moves : position = index
          · subst moves
            cases Option.some.inj (found.symm.trans at')
            exact ⟨handler', own, effect.stays decided⟩
          · refine ⟨other, List.mem_of_getElem? (i := position) ?_, decided⟩
            rw [threads, List.getElem?_set_ne (Ne.symm moves)]
            exact at'
        · exact ⟨handler', own, effect.stays decided⟩

end

/-- An answered call is never missed. Start from any state of the gateway in which the call
exists. In every interleaving of the callback with answers to the call in which, while the call
is 'initiated', the callback does not read its status in the middle of an answer and no answer
begins between that reading and the callback's UPDATE: once an answer that began while the call
was 'initiated' has returned ok, the status is 'active' and `call:missed` has not been sent.
-/
theorem answered_not_missed {callId : Uuid} {gateway : Gateway}
    {moves : List (Move CallHandler Time)} {pool : Pool Exchange CallHandler}
    (exists' : (gateway.db.callSessions.lookup callId).isSome = true)
    (separate
      : (ringingMachine callId gateway).Along (AnswersApart callId)
          (ringingMachine callId gateway).init moves)
    (run : (ringingMachine callId gateway).Reaches moves pool)
    (answered : ∃ handler ∈ pool.threads, handler.answered = true)
    : pool.shared.status callId = some .active
      ∧ ∀ output ∈ pool.shared.outputs, output.isMissed callId = false := by
  have begun : Apart callId (ringingMachine callId gateway).init := by
    refine ⟨?_, ?_, ?_, ?_, ?_⟩
    · show ((gateway.db.callSessions.lookup callId).map CallSession.status).isSome = true
      rw [Option.isSome_map]
      exact exists'
    · intro handler member
      cases member
    · intro handler member
      cases member
    · intro handler member
      cases member
    · intro output member
      cases member
  have apart : Apart callId pool :=
    separate.exec_preserves (Apart callId) (fun kept meets moved => kept.move meets moved)
      begun run
  obtain ⟨handler, member, ok⟩ := answered
  have through : handler.committed = true ∧ handler.unanswered = false := by
    unfold CallHandler.answered at ok
    split at ok
    · exact ⟨rfl, rfl⟩
    · cases ok
  refine ⟨apart.answered handler member through.1 through.2, fun output emitted => ?_⟩
  refine Bool.eq_false_iff.mpr (fun missed => ?_)
  obtain ⟨other, inThreads, decided⟩ := apart.missed output emitted missed
  exact apart.exclusive other inThreads handler member decided through.1

/-- The gateway while the call 201 of the first user to the second one is ringing. -/
def ringingGateway : Gateway := (worldAfter ringing).gateway

/-- The state after a run of handlers of that call. -/
def ringingAfter (moves : List (Move CallHandler Time)) : Pool Exchange CallHandler :=
  ((ringingMachine 201 ringingGateway).exec (ringingMachine 201 ringingGateway).init moves).getD
    ⟨⟨ringingGateway, []⟩, []⟩

/-- The callee answers, and its answer sets the status before the callback reads it. -/
def answeredInTime : List (Move CallHandler Time) :=
  [.start (.accept 12 ⟨.uuid 201, .video⟩ false .check), .start (.timer .fire)]
  ++ List.replicate 3 (.step 0 30000000)
  ++ List.replicate 2 (.step 1 30000001)
  ++ List.replicate 5 (.step 0 30000002)

/-- The callback reads the status first, and then the callee answers. -/
def answeredTooLate : List (Move CallHandler Time) :=
  [.start (.accept 12 ⟨.uuid 201, .video⟩ false .check), .start (.timer .fire)]
  ++ [.step 0 30000000]
  ++ List.replicate 2 (.step 1 30000001)
  ++ List.replicate 7 (.step 0 30000002)
  ++ List.replicate 4 (.step 1 30000003)

theorem answered_not_missed_in_time
    : (ringingAfter answeredInTime).threads
        = [.accept 12 ⟨.uuid 201, .video⟩ true .returned, .timer (.done false)]
      ∧ (ringingAfter answeredInTime).shared.status 201 = some .active
      ∧ ∀ output ∈ (ringingAfter answeredInTime).shared.outputs,
          output.isMissed 201 = false := by
  have separate
      : (ringingMachine 201 ringingGateway).Along (AnswersApart 201)
          (ringingMachine 201 ringingGateway).init answeredInTime := by
    decide
  have run : (ringingMachine 201 ringingGateway).Reaches answeredInTime
      (ringingAfter answeredInTime) :=
    rfl
  exact ⟨by decide, answered_not_missed (by decide) separate run (by decide)⟩

/-- Otherwise a call can be answered and missed. -/
theorem answered_and_missed
    : (ringingMachine 201 ringingGateway).Reaches answeredTooLate
        (ringingAfter answeredTooLate)
      ∧ (ringingAfter answeredTooLate).threads
        = [.accept 12 ⟨.uuid 201, .video⟩ true .returned, .timer (.done true)]
      ∧ (ringingAfter answeredTooLate).shared.status 201 = some .missed
      ∧ (ringingAfter answeredTooLate).shared.outputs.any (Output.isMissed 201) = true := by
  exact ⟨rfl, by decide, by decide, by decide⟩

end NexusComms.Signaling
