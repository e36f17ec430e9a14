import NexusComms.Concurrency.Script
import NexusComms.Signaling.Participants

/-! `tryPairUsers` as one script, any of whose commands may fail: those of Redis, the queries of
the two services, and the two joins. A command that fails may have taken effect or not. The
audit log catches its errors.
-/

namespace NexusComms.Signaling.Scripts

open Concurrency Matchmaking CallsService

/-- The commands that a pairing awaits. `cleanUp` is the one that follows the Lua script, an
HDEL or, if one of two entries is stale, an LPUSH, and `hdelStale` follows the LPUSH. -/
inductive Command where
  | eval
  | cleanUp
  | hdelStale
  | createSession
  | addHost
  | findSession
  | updateStatus
  | addGuest
  | findAccepted
  | joinFirst
  | joinSecond
deriving DecidableEq, Repr

/-- What a pairing throws: a connection has broken, or the database or a service refuses. -/
inductive PairError where
  | unavailable
  | refused (failure : Failure)
deriving DecidableEq, Repr

/-- The gateway, and what has been done and said so far. -/
structure Progress where
  gateway : Gateway
  outputs : List Output

abbrev PairScript := Script (Command × Script.Moment) Progress PairError

variable {α : Type}

/-- A command of Redis. -/
def redis (command : Command) (effect : QueueStore → QueueStore × α) : PairScript α :=
  Script.awaited command .unavailable
    (fun progress =>
      let (store, value) := effect progress.gateway.redis
      (.ok value, { progress with gateway := { progress.gateway with redis := store } }))

/-- A query. -/
def query (command : Command) (effect : Database → Served α) : PairScript α :=
  Script.awaited command .unavailable
    (fun progress =>
      let served := effect progress.gateway.db
      (served.result.mapError .refused,
        {
          gateway := { progress.gateway with db := served.db }
          outputs := progress.outputs ++ served.outputs
        }))

/-- `AuditService.log`. -/
def log (userId : Option Uuid) (event : AuditEvent) : PairScript Unit :=
  Script.modify
    (fun progress =>
      {
        progress with
        outputs := progress.outputs ++ AuditService.log progress.gateway.db userId event
      })

/-- `await this.server.in(socketId).socketsJoin(callId)`. -/
def socketsJoin (command : Command) (socketId : SocketId) (callId : Uuid) : PairScript Unit :=
  Script.awaited command .unavailable
    (fun progress =>
      (.ok (),
        {
          progress with
          gateway := progress.gateway.socketsJoin (.socket socketId) (.uuid callId)
        }))

/-- The next command of `tryMatch`. -/
def advance (now : Time) (stage : TryMatchStage) (store : QueueStore)
    : QueueStore × TryMatchStage :=
  (Matchmaking.MatchmakingService.tryMatch now store stage).getD (store, stage)

/-- What `tryMatch` does after the clean-up. -/
def MatchmakingService.afterCleanUp (now : Time) (stage : TryMatchStage)
    : PairScript (Option (TimedEntry × TimedEntry)) :=
  match stage with
  | .hdelStale .. => do
      let _ ← redis .hdelStale (advance now stage)
      pure none
  | .audit first second _ => do
      Script.modify
        (fun progress =>
          {
            progress with
            gateway :=
              { progress.gateway with redis := (advance now stage progress.gateway.redis).1 }
          })
      pure (some (first.raw.parse, second.raw.parse))
  | _ => pure none

def MatchmakingService.tryMatch (now : Time)
    : PairScript (Option (TimedEntry × TimedEntry)) := do
  let popped ← redis .eval (advance now .eval)
  match popped with
  | .popped .. =>
      let cleaned ← redis .cleanUp (advance now popped)
      MatchmakingService.afterCleanUp now cleaned
  | _ => pure none

/-- An INSERT returns the database with the new row. -/
def inserted (db : Database) : Except Failure Database → Served Unit
  | .ok db' => ⟨db', [], .ok ()⟩
  | .error failure => ⟨db, [], .error failure⟩

/-- `findById` reads. -/
def findById (command : Command) (id : Uuid) : PairScript (Option CallSession) :=
  query command (fun db => ⟨db, [], .ok (db.callSessions.lookup id)⟩)

def CallsService.initiateCall (now : Time) (id : Uuid) (params : InitiateParams)
    : PairScript Unit := do
  query .createSession
    (fun db => inserted db (CallsRepository.createSession db id (initiatedRow now params)))
  query .addHost
    (fun db => inserted db (CallsRepository.addParticipant db (hostRow now id params)))
  log params.initiatorId (.callInitiated (.uuid id) params.callType params.isAnonymous)

def CallsService.acceptCall (now : Time) (id : Uuid) (params : AcceptParams)
    : PairScript (Option CallSession) := do
  let session ← findById .findSession id
  match session with
  | none => throw (.refused .callNotFound)
  | some _ =>
      query .updateStatus
        (fun db =>
          let updated := CallsRepository.updateStatus now db id .accepted
          ⟨updated.1, updated.2, .ok ()⟩)
      query .addGuest
        (fun db => inserted db (CallsRepository.addParticipant db (guestRow now id params)))
      log (if params.isAnonymous then none else some params.userId)
        (.callAccepted params.callId)
      findById .findAccepted id

/-- The metas of the two sockets get the call, and both are told. -/
def announce (a b : TimedEntry) (callId : Uuid) (progress : Progress) : Progress :=
  let paired :=
    (progress.gateway.setCallId a.socketId (some (.uuid callId))).setCallId b.socketId
      (some (.uuid callId))
  let bothRegistered := a.userId.isSome && b.userId.isSome
  {
    gateway := paired
    outputs :=
      progress.outputs ++ [
        paired.emit (.room (.socket a.socketId))
          (.matchFound callId (pairType a b) true bothRegistered b.userId),
        paired.emit (.room (.socket b.socketId))
          (.matchFound callId (pairType a b) false bothRegistered a.userId)
      ]
  }

/-- What `tryPairUsers` does for a pair. -/
def pairUsers (now : Time) (a b : TimedEntry) (callId : Uuid) : PairScript Unit := do
  CallsService.initiateCall now callId (firstParams a b)
  let _ ← CallsService.acceptCall now callId (secondParams a b callId)
  socketsJoin .joinFirst a.socketId callId
  socketsJoin .joinSecond b.socketId callId
  Script.modify (announce a b callId)

/-- What follows the INSERT of the session. -/
def afterInsert (now : Time) (a b : TimedEntry) (callId : Uuid) : PairScript Unit := do
  query .addHost
    (fun db =>
      inserted db (CallsRepository.addParticipant db (hostRow now callId (firstParams a b))))
  log a.userId (.callInitiated (.uuid callId) (pairType a b) true)
  let _ ← CallsService.acceptCall now callId (secondParams a b callId)
  socketsJoin .joinFirst a.socketId callId
  socketsJoin .joinSecond b.socketId callId
  Script.modify (announce a b callId)

/-- The INSERT of the session is the first of the queries. -/
theorem pairUsers_eq_bind (now : Time) (a b : TimedEntry) (callId : Uuid)
    : pairUsers now a b callId
      = query .createSession
          (fun db =>
            inserted db
              (CallsRepository.createSession db callId (initiatedRow now (firstParams a b))))
        >>= fun _ => afterInsert now a b callId := by
  unfold pairUsers CallsService.initiateCall afterInsert
  simp only [Script.bind_assoc]
  rfl

/-- What `tryPairUsers` does with the result of `tryMatch`. -/
def pairFound (now : Time) (callId : Uuid) : Option (TimedEntry × TimedEntry) → PairScript Unit
  | none => pure ()
  | some (a, b) => pairUsers now a b callId

/-- The handler only logs. -/
def SignalingGateway.tryPairUsers (now : Time) (callId : Uuid) : PairScript Unit := do
  try
    let pair ← MatchmakingService.tryMatch (dateNow now)
    pairFound now callId pair
  catch error =>
    throw error

-----------------------------------------------------------------------------------------
-- Without failures
-----------------------------------------------------------------------------------------

/-- If nothing fails, a script of queries does what the service does. -/
def Agrees (script : PairScript α) (serve : Database → Served α) : Prop :=
  ∀ progress : Progress,
    script.run (fun _ => false) progress
      = ((serve progress.gateway.db).result.mapError .refused,
          {
            gateway := { progress.gateway with db := (serve progress.gateway.db).db }
            outputs := progress.outputs ++ (serve progress.gateway.db).outputs
          })

theorem initiateCall_agrees (now : Time) (id : Uuid) (params : InitiateParams)
    : Agrees (CallsService.initiateCall now id params)
        (fun db => Signaling.CallsService.initiateCall now db id params) := by
  intro progress
  simp only [CallsService.initiateCall, Script.run, bind, query, log, Script.awaited,
    Script.statement, Script.spoiling, Script.modify, Bool.false_eq_true, if_false]
  unfold Signaling.CallsService.initiateCall
  cases CallsRepository.createSession progress.gateway.db id (initiatedRow now params) with
  | error failure => simp [inserted, Except.mapError]
  | ok db =>
      simp only [inserted, Except.mapError]
      cases CallsRepository.addParticipant db (hostRow now id params) with
      | error failure => simp
      | ok db' => simp

theorem acceptCall_agrees (now : Time) {id : Uuid} {params : AcceptParams}
    (named : params.callId.cast = some id)
    : Agrees (CallsService.acceptCall now id params)
        (fun db => Signaling.CallsService.acceptCall now db params) := by
  intro progress
  simp only [CallsService.acceptCall, Script.run, bind, findById, query, log, Script.awaited,
    Script.statement, Script.spoiling, Script.modify, Bool.false_eq_true, if_false]
  unfold Signaling.CallsService.acceptCall
  simp only [named]
  cases progress.gateway.db.callSessions.lookup id with
  | none => simp [Except.mapError, throw, throwThe, MonadExceptOf.throw]
  | some session =>
      simp only [inserted, Except.mapError]
      cases added : CallsRepository.addParticipant
          (CallsRepository.updateStatus now progress.gateway.db id .accepted).1
          (guestRow now id params) with
      | error failure => simp [added]
      | ok db' => simp [added]

/-- How an outcome looks to a script: a failure is thrown. -/
def settled (outcome : Outcome) (outputs : List Output) : Except PairError Unit × Progress :=
  (match outcome.reply with
    | .ok _ => .ok ()
    | .error failure => .error (.refused failure),
    ⟨outcome.gateway, outputs ++ outcome.outputs⟩)

/-- The parts of a pairing in the gateway's model. -/
theorem pairUsers_eq (now : Time) (gateway : Gateway) (a b : TimedEntry) (callId : Uuid)
    : Signaling.SignalingGateway.pairUsers now gateway a b callId
      = match Signaling.CallsService.initiateCall now gateway.db callId (firstParams a b) with
        | ⟨db, outputs, .error failure⟩ => ⟨{ gateway with db := db }, .error failure, outputs⟩
        | ⟨db, outputs, .ok ()⟩ =>
            match Signaling.CallsService.acceptCall now db (secondParams a b callId) with
            | ⟨db', outputs', .error failure⟩ =>
                ⟨{ gateway with db := db' }, .error failure, outputs ++ outputs'⟩
            | ⟨db', outputs', .ok _⟩ =>
                let called : Gateway := { gateway with db := db' }
                let joined :=
                  (called.socketsJoin (.socket a.socketId) (.uuid callId)).socketsJoin
                    (.socket b.socketId) (.uuid callId)
                let last := announce a b callId ⟨joined, outputs ++ outputs'⟩
                ⟨last.gateway, .ok .void, last.outputs⟩ := by
  unfold Signaling.SignalingGateway.pairUsers announce firstParams secondParams pairType
  dsimp only
  generalize Signaling.CallsService.initiateCall now gateway.db callId _ = initiated
  obtain ⟨db, outputs, result⟩ := initiated
  cases result with
  | error failure => rfl
  | ok _ =>
      dsimp only
      generalize Signaling.CallsService.acceptCall now db _ = accepted
      obtain ⟨db', outputs', result'⟩ := accepted
      cases result' with
      | error failure => rfl
      | ok _ => rfl

theorem pairUsers_unbroken (now : Time) (a b : TimedEntry) (callId : Uuid) (gateway : Gateway)
    (outputs : List Output)
    : (pairUsers now a b callId).run (fun _ => false) ⟨gateway, outputs⟩
      = settled (Signaling.SignalingGateway.pairUsers now gateway a b callId) outputs := by
  rw [pairUsers_eq]
  unfold pairUsers
  rw [Script.run_bind, initiateCall_agrees]
  dsimp only
  cases Signaling.CallsService.initiateCall now gateway.db callId (firstParams a b) with
  | mk db written result =>
      cases result with
      | error failure => rfl
      | ok _ =>
          dsimp only [Except.mapError]
          rw [Script.run_bind, acceptCall_agrees now (named a b callId)]
          dsimp only
          cases Signaling.CallsService.acceptCall now db (secondParams a b callId) with
          | mk db' written' result' =>
              cases result' with
              | error failure => simp [Except.mapError, settled]
              | ok _ =>
                  simp [Except.mapError, Script.run, bind, socketsJoin, Script.awaited,
                    Script.statement, Script.spoiling, Script.modify, announce, settled]

theorem tryMatch_unbroken (now : Time) (gateway : Gateway) (outputs : List Output)
    : (MatchmakingService.tryMatch now).run (fun _ => false) ⟨gateway, outputs⟩
      = (.ok (Signaling.MatchmakingService.tryMatch now gateway.redis).2,
          ⟨{
            gateway with
            redis := (Signaling.MatchmakingService.tryMatch now gateway.redis).1
          }, outputs⟩) := by
  unfold MatchmakingService.tryMatch Signaling.MatchmakingService.tryMatch
  simp only [MatchmakingService.afterCleanUp, redis, Script.run, bind, pure, Script.awaited,
    Script.statement, Script.spoiling, Script.modify, Bool.false_eq_true, if_false]
  match waiting : gateway.redis.queue with
  | [] => simp [complete, advance, Matchmaking.MatchmakingService.tryMatch, waiting]
  | [only] => simp [complete, advance, Matchmaking.MatchmakingService.tryMatch, waiting]
  | first :: second :: rest =>
      cases firstFresh : first.fresh now with
      | true =>
          cases secondFresh : second.fresh now with
          | true =>
              simp [complete, advance, Matchmaking.MatchmakingService.tryMatch, waiting,
                firstFresh, secondFresh]
          | false =>
              simp [complete, advance, Matchmaking.MatchmakingService.tryMatch, waiting,
                firstFresh, secondFresh]
      | false =>
          cases secondFresh : second.fresh now with
          | true =>
              simp [complete, advance, Matchmaking.MatchmakingService.tryMatch, waiting,
                firstFresh, secondFresh]
          | false =>
              simp [complete, advance, Matchmaking.MatchmakingService.tryMatch, waiting,
                firstFresh, secondFresh]

/-- If nothing fails, the script does what `tryPairUsers` does in the gateway's model. -/
theorem tryPairUsers_unbroken (now : Time) (callId : Uuid) (gateway : Gateway)
    (outputs : List Output)
    : (SignalingGateway.tryPairUsers now callId).run (fun _ => false) ⟨gateway, outputs⟩
      = settled (Signaling.SignalingGateway.tryPairUsers now gateway callId) outputs := by
  unfold SignalingGateway.tryPairUsers Signaling.SignalingGateway.tryPairUsers
  rw [Script.tryCatch_throw, Script.run_bind, tryMatch_unbroken]
  dsimp only
  cases (Signaling.MatchmakingService.tryMatch (dateNow now) gateway.redis).2 with
  | none => simp [Script.run, pairFound, pure, settled]
  | some pair => exact pairUsers_unbroken now pair.1 pair.2 callId _ outputs

end NexusComms.Signaling.Scripts
