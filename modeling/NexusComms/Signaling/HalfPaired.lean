import NexusComms.Signaling.PairScript
import NexusComms.Signaling.Pairing

/-! A pairing that fails halfway. The two have been taken out of the queue before anything else
is awaited, and the handler of the exception only logs: nobody is put back, and a call that has
been created stays open.
-/

namespace NexusComms.Signaling.Scripts

open Concurrency Matchmaking NexusComms.Signaling.CallsService

/-- Each of the two who is still connected waits in the queue, and no call of theirs is left
open. -/
structure Repaired (still : SocketId → Bool) (before : Gateway) (callId : Uuid)
    (first second : Item) (after : Gateway)
    : Prop where
  queued
    : ∀ item ∈ [first, second],
        still item.socketId = true → item.socketId ∈ after.redis.queue.map Item.socketId
  closed (new : before.db.callSessions.lookup callId = none) {session : CallSession}
    (left : after.db.callSessions.lookup callId = some session)
    : session.status ∉ [CallStatus.initiated, .active]

/-- A pairing that throws has repaired what it has begun. -/
def LosesNobody (still : SocketId → Bool) (before : Gateway) (callId : Uuid)
    (first second : Item) (result : Except PairError Unit) (progress : Progress)
    : Prop :=
  ∀ error, result = .error error → Repaired still before callId first second progress.gateway

/-- Each of the two who is still connected is among these items. -/
def Waits (still : SocketId → Bool) (first second : Item) (queue : List Item) : Prop :=
  ∀ item ∈ [first, second], still item.socketId = true → item.socketId ∈ queue.map Item.socketId

/-- The command fails, before it takes effect or after. -/
def breaks (fails : Command × Script.Moment → Bool) (command : Command) : Bool :=
  fails (command, .before) || fails (command, .after)

/-- The commands that follow the INSERT of the session. -/
def answering : List Command :=
  [.addHost, .findSession, .updateStatus, .addGuest, .findAccepted, .joinFirst, .joinSecond]

section Condition

variable (fails : Command × Script.Moment → Bool) (now : Time) (gateway : Gateway)
  (callId : Uuid) (first second : Item)

/-- The INSERT of the session takes effect for this initiator. -/
def insertsSession (initiatorId : Option Uuid) : Bool :=
  !fails (.createSession, .before) && (gateway.db.callSessions.lookup callId).isNone
    && gateway.db.references initiatorId

/-- The two entries are matched and get a row in `call_sessions`. -/
def creates : Bool :=
  first.fresh (dateNow now) && second.fresh (dateNow now)
    && !breaks fails .eval && !breaks fails .cleanUp
    && insertsSession fails gateway callId first.raw.parse.userId

/-- No command fails, and the database refuses none. -/
def unbroken : Bool :=
  !breaks fails .eval && !breaks fails .cleanUp
    && (if first.fresh (dateNow now) && second.fresh (dateNow now) then
          creates fails now gateway callId first second && !breaks fails .createSession
            && answering.all (fun command => !breaks fails command)
            && gateway.db.references second.raw.parse.userId
        else
          !(first.fresh (dateNow now) || second.fresh (dateNow now))
            || !breaks fails .hdelStale)

/-- What the queue keeps: the others, and the fresh one of two entries if it is put back. -/
def kept (others : List Item) : List Item :=
  if fails (.eval, .after) || fails (.cleanUp, .before) then
    others
  else
    match first.fresh (dateNow now), second.fresh (dateNow now) with
    | true, false => first :: others
    | false, true => second :: others
    | _, _ => others

end Condition

-----------------------------------------------------------------------------------------
-- One command
-----------------------------------------------------------------------------------------

section Commands

variable {α β : Type} {fails : Command × Script.Moment → Bool} {progress : Progress}

/-- A query that the database serves. -/
theorem returns_query_bind {command : Command} {effect : Database → Served α}
    {next : α → PairScript β} {db : Database} {outputs : List Output} {value : α}
    (serves : effect progress.gateway.db = ⟨db, outputs, .ok value⟩)
    : (query command effect >>= next).Returns fails progress
      ↔ breaks fails command = false
        ∧ (next value).Returns fails
            ⟨{ progress.gateway with db := db }, progress.outputs ++ outputs⟩ := by
  unfold query
  rw [Script.returns_awaited_bind]
  · rfl
  · simp [serves, Except.mapError]

/-- A query that the database refuses. -/
theorem not_returns_query_bind {command : Command} {effect : Database → Served α}
    {next : α → PairScript β} {db : Database} {outputs : List Output} {failure : Failure}
    (refuses : effect progress.gateway.db = ⟨db, outputs, .error failure⟩)
    : ¬ (query command effect >>= next).Returns fails progress := by
  unfold query
  apply Script.not_returns_awaited_bind
  rw [refuses]
  rfl

theorem returns_join_bind {command : Command} {socketId : SocketId} {callId : Uuid}
    {next : Unit → PairScript β}
    : (socketsJoin command socketId callId >>= next).Returns fails progress
      ↔ breaks fails command = false
        ∧ (next ()).Returns fails
            {
              progress with
              gateway := progress.gateway.socketsJoin (.socket socketId) (.uuid callId)
            } := by
  unfold socketsJoin
  exact Script.returns_awaited_bind rfl

end Commands

section Inserts

variable {db : Database} {now : Time} {a b : TimedEntry} {callId : Uuid}

/-- The row of the host names no user, so only the call has to exist. -/
theorem host_inserted (now : Time) (a b : TimedEntry)
    (present : (db.callSessions.lookup callId).isSome)
    : ∃ hosted,
        inserted db (CallsRepository.addParticipant db (hostRow now callId (firstParams a b)))
          = ⟨hosted, [], .ok ()⟩
        ∧ hosted.callSessions = db.callSessions
        ∧ hosted.users = db.users := by
  have added
      : CallsRepository.addParticipant db (hostRow now callId (firstParams a b))
        = .ok {
            db with
            callParticipants := db.callParticipants ++ [hostRow now callId (firstParams a b)]
          } :=
    if_pos (by simpa [hostRow, firstParams, Database.references] using present)
  exact ⟨_, congrArg (inserted db) added, rfl, rfl⟩

/-- The user whom the row of the guest names. -/
theorem guest_references
    : db.references (guestRow now callId (secondParams a b callId)).userId
      = db.references b.userId := by
  cases registered : b.userId with
  | none => simp [guestRow, secondParams, registered]
  | some userId => simp [guestRow, secondParams, registered]

theorem guest_inserted (now : Time) (a : TimedEntry)
    (present : (db.callSessions.lookup callId).isSome)
    (known : db.references b.userId = true)
    : ∃ guested,
        inserted db
            (CallsRepository.addParticipant db (guestRow now callId (secondParams a b callId)))
          = ⟨guested, [], .ok ()⟩ := by
  have added
      : CallsRepository.addParticipant db (guestRow now callId (secondParams a b callId))
        = .ok {
            db with
            callParticipants :=
              db.callParticipants ++ [guestRow now callId (secondParams a b callId)]
          } :=
    if_pos (by rw [guest_references, known]; simpa [guestRow] using present)
  exact ⟨_, congrArg (inserted db) added⟩

theorem guest_refused (unknown : db.references b.userId = false)
    : inserted db
          (CallsRepository.addParticipant db (guestRow now callId (secondParams a b callId)))
        = ⟨db, [], .error .foreignKeyViolation⟩ := by
  unfold CallsRepository.addParticipant
  rw [guest_references, unknown, Bool.and_false]
  rfl

end Inserts

/-- What follows the INSERT of the session returns if none of its commands fails, and the guest
is a user who exists. -/
theorem afterInsert_returns {fails : Command × Script.Moment → Bool} {progress : Progress}
    {now : Time} {a b : TimedEntry} {callId : Uuid}
    (present : (progress.gateway.db.callSessions.lookup callId).isSome)
    : (afterInsert now a b callId).Returns fails progress
      ↔ (∀ command ∈ answering, breaks fails command = false)
        ∧ progress.gateway.db.references b.userId = true := by
  obtain ⟨hosted, host, sessions, users⟩ := host_inserted now a b present
  obtain ⟨session, found⟩ := Option.isSome_iff_exists.mp (sessions ▸ present)
  have stays
      : ((CallsRepository.updateStatus now hosted callId .accepted).1.callSessions.lookup
            callId).isSome := by
    simp [CallsRepository.updateStatus, found, Storage.lookup_replace]
  have known
      : (CallsRepository.updateStatus now hosted callId .accepted).1.references b.userId
        = progress.gateway.db.references b.userId := by
    rw [references_of_users (updateStatus_users now hosted callId .accepted),
      references_of_users users]
  unfold afterInsert CallsService.acceptCall findById log
  simp only [Script.bind_assoc]
  rw [returns_query_bind host, Script.returns_modify_bind, returns_query_bind rfl]
  simp only [found, Script.bind_assoc]
  rw [returns_query_bind rfl]
  cases referenced : progress.gateway.db.references b.userId with
  | false =>
      refine iff_of_false ?_ (fun both => by cases both.2)
      rintro ⟨_, _, _, returns⟩
      exact not_returns_query_bind (guest_refused (known.trans referenced)) returns
  | true =>
      obtain ⟨guested, guest⟩ := guest_inserted now a stays (known.trans referenced)
      rw [returns_query_bind guest, Script.returns_modify_bind, returns_query_bind rfl,
        returns_join_bind, returns_join_bind]
      simp [answering, Script.Returns]

-----------------------------------------------------------------------------------------
-- Open calls
-----------------------------------------------------------------------------------------

section Open

variable {still : SocketId → Bool} {before : Gateway} {callId : Uuid} {first second : Item}
  {progress : Progress}

/-- The call is new and open. -/
def Opened (before : Gateway) (callId : Uuid) (progress : Progress) : Prop :=
  before.db.callSessions.lookup callId = none
  ∧ ∃ session,
      progress.gateway.db.callSessions.lookup callId = some session
      ∧ session.status ∈ [CallStatus.initiated, .active]

/-- A change that keeps the sessions keeps the call open. -/
theorem Opened.of_sessions {after : Progress} (opened : Opened before callId progress)
    (same : after.gateway.db.callSessions = progress.gateway.db.callSessions)
    : Opened before callId after := by
  obtain ⟨new, session, found, status⟩ := opened
  exact ⟨new, session, by rw [same, found], status⟩

/-- A pairing that throws while its call is open has not repaired it. -/
theorem not_losesNobody_of_opened {error : PairError} (opened : Opened before callId progress)
    : ¬ LosesNobody still before callId first second (.error error) progress := by
  intro loses
  obtain ⟨new, session, found, status⟩ := opened
  exact (loses error rfl).closed new found status

/-- A pairing that throws before it has created a call has to have the two in the queue. -/
theorem losesNobody_unopened {error : PairError} (same : progress.gateway.db = before.db)
    : LosesNobody still before callId first second (.error error) progress
      ↔ Waits still first second progress.gateway.redis.queue := by
  refine ⟨fun loses => (loses error rfl).queued, fun waits _ _ => ⟨waits, ?_⟩⟩
  intro new session left
  rw [same, new] at left
  cases left

theorem losesNobody_ok (still : SocketId → Bool) (before : Gateway) (callId : Uuid)
    (first second : Item) (progress : Progress)
    : LosesNobody still before callId first second (.ok ()) progress := by
  intro error thrown
  cases thrown

/-- Queries that keep the sessions keep the call open. -/
theorem keeps_query {α : Type} {command : Command} {effect : Database → Served α}
    (same : ∀ db, (effect db).db.callSessions = db.callSessions)
    : (query command effect).Keeps (Opened before callId) :=
  Script.keeps_awaited fun _ opened => opened.of_sessions (same _)

theorem inserted_sessions (db : Database) (row : CallParticipant)
    : (inserted db (CallsRepository.addParticipant db row)).db.callSessions
      = db.callSessions := by
  cases added : CallsRepository.addParticipant db row with
  | error failure => rfl
  | ok db' =>
      rw [addParticipant_ok added]
      rfl

theorem log_keeps (userId : Option Uuid) (event : AuditEvent)
    : (log userId event).Keeps (Opened before callId) :=
  Script.keeps_modify fun _ opened => opened.of_sessions rfl

theorem findById_keeps (command : Command) (id : Uuid)
    : (findById command id).Keeps (Opened before callId) :=
  keeps_query fun _ => rfl

/-- The UPDATE makes the call active. -/
theorem accepted_keeps (now : Time)
    : (query .updateStatus
          (fun db =>
            let updated := CallsRepository.updateStatus now db callId .accepted
            ⟨updated.1, updated.2, .ok ()⟩)).Keeps
        (Opened before callId) := by
  refine Script.keeps_awaited fun progress opened => ?_
  obtain ⟨new, session, found, _⟩ := opened
  refine ⟨new, session.write now .accepted, ?_, by simp [CallSession.write, StatusUpdate.accepted]⟩
  simp [CallsRepository.updateStatus, found, Storage.lookup_replace]

theorem socketsJoin_keeps (command : Command) (socketId : SocketId) (id : Uuid)
    : (socketsJoin command socketId id).Keeps (Opened before callId) :=
  Script.keeps_awaited fun _ opened => opened.of_sessions (by simp)

/-- Whatever fails after the INSERT of the session leaves the call open. -/
theorem afterInsert_keeps (now : Time) (a b : TimedEntry)
    : (afterInsert now a b callId).Keeps (Opened before callId) := by
  unfold afterInsert CallsService.acceptCall
  refine (keeps_query fun db => inserted_sessions db _).bind fun _ => ?_
  refine (log_keeps _ _).bind fun _ => ?_
  refine Script.Keeps.bind ?_ fun _ => ?_
  · refine (findById_keeps _ _).bind fun session => ?_
    cases session with
    | none => exact Script.keeps_throw _
    | some session =>
        refine (accepted_keeps now).bind fun _ => ?_
        refine (keeps_query fun db => inserted_sessions db _).bind fun _ => ?_
        exact (log_keeps _ _).bind fun _ => findById_keeps _ _
  · refine (socketsJoin_keeps _ _ _).bind fun _ => ?_
    refine (socketsJoin_keeps _ _ _).bind fun _ => ?_
    exact Script.keeps_modify fun _ opened => opened.of_sessions (by simp [announce])

end Open

-----------------------------------------------------------------------------------------
-- Every failure
-----------------------------------------------------------------------------------------

section Failures

variable {still : SocketId → Bool} {before : Gateway} {callId : Uuid} {first second : Item}
  {fails : Command × Script.Moment → Bool} {progress : Progress} {now : Time}

/-- Two entries that have been matched: they lose nobody if everything succeeds, or if the
session has not been inserted and the two have other entries in the queue. -/
theorem pairUsers_losesNobody (same : progress.gateway.db = before.db) (a b : TimedEntry)
    : (pairUsers now a b callId).Settles fails progress
          (LosesNobody still before callId first second)
      ↔ if insertsSession fails before callId a.userId then
          breaks fails .createSession = false
          ∧ (∀ command ∈ answering, breaks fails command = false)
          ∧ before.db.references b.userId = true
        else
          Waits still first second progress.gateway.redis.queue := by
  rw [pairUsers_eq_bind, Script.settles_bind, query, Script.settles_awaited]
  unfold insertsSession
  cases failed : fails (.createSession, .before) with
  | true => simp [losesNobody_unopened same]
  | false =>
      rw [same]
      cases present : before.db.callSessions.lookup callId with
      | some session =>
          have refused
              : CallsRepository.createSession before.db callId (initiatedRow now (firstParams a b))
                = .error .uniqueViolation :=
            if_pos (by simp [present])
          simp [refused, inserted, Except.mapError, losesNobody_unopened]
      | none =>
          cases referenced : before.db.references a.userId with
          | false =>
              have refused
                  : CallsRepository.createSession before.db callId
                      (initiatedRow now (firstParams a b))
                    = .error .foreignKeyViolation := by
                simp [CallsRepository.createSession, present, initiatedRow, firstParams,
                  referenced]
              simp [refused, inserted, Except.mapError, losesNobody_unopened]
          | true =>
              have created
                  : CallsRepository.createSession before.db callId
                      (initiatedRow now (firstParams a b))
                    = .ok {
                        before.db with
                        callSessions :=
                          before.db.callSessions.insert callId
                            (initiatedRow now (firstParams a b))
                      } := by
                simp [CallsRepository.createSession, present, initiatedRow, firstParams,
                  referenced]
              simp only [created, inserted, Except.mapError, Option.isNone_none, Bool.not_false,
                Bool.and_self, if_true, forall_const]
              generalize openedEq : Progress.mk _ _ = opened
              have isOpen : Opened before callId opened := by
                rw [← openedEq]
                exact ⟨present, _, AList.lookup_insert _, by simp [initiatedRow]⟩
              have users : opened.gateway.db.references b.userId = before.db.references b.userId := by
                rw [← openedEq]
                rfl
              have returns
                  : (afterInsert now a b callId).Settles fails opened
                        (LosesNobody still before callId first second)
                    ↔ (afterInsert now a b callId).Returns fails opened :=
                (afterInsert_keeps now a b).settles_iff isOpen
                  (fun _ after _ => losesNobody_ok still before callId first second after)
                  (fun _ _ stays => not_losesNobody_of_opened stays)
              have present' : (opened.gateway.db.callSessions.lookup callId).isSome := by
                obtain ⟨_, session, found, _⟩ := isOpen
                rw [found]
                rfl
              rw [returns, afterInsert_returns present', users, breaks, failed, Bool.false_or]
              cases fails (.createSession, .after) with
              | true => simpa using not_losesNobody_of_opened isOpen
              | false => simp

/-- A command of Redis fails, before it takes effect or after, or the script goes on. -/
theorem settles_redis_bind {α β : Type} {command : Command}
    {effect : QueueStore → QueueStore × α} {next : α → PairScript β}
    {post : Except PairError β → Progress → Prop}
    : (redis command effect >>= next).Settles fails progress post
      ↔ (fails (command, .before) = true → post (.error .unavailable) progress)
        ∧ (fails (command, .before) = false →
            let store := (effect progress.gateway.redis).1
            let after : Progress :=
              { progress with gateway := { progress.gateway with redis := store } }
            (fails (command, .after) = true → post (.error .unavailable) after)
            ∧ (fails (command, .after) = false →
                (next (effect progress.gateway.redis).2).Settles fails after post)) := by
  rw [Script.settles_bind, redis, Script.settles_awaited]

/-- What the command after the Lua script makes of the queue, and what comes next. -/
theorem advance_popped (now : Time) (first second : Item) (store : QueueStore) (misses : Nat)
    (evaluated : fails (.eval, .after) = false) (cleaned : fails (.cleanUp, .before) = false)
    : (advance (dateNow now) (.popped first second misses) store).1.queue
        = kept fails now first second store.queue
      ∧ (advance (dateNow now) (.popped first second misses) store).2
        = match first.fresh (dateNow now), second.fresh (dateNow now) with
          | true, true => .audit first second (dateNow now)
          | true, false => .hdelStale second (dateNow now)
          | false, true => .hdelStale first (dateNow now)
          | false, false => .returned none := by
  unfold advance Matchmaking.MatchmakingService.tryMatch kept
  cases firstFresh : first.fresh (dateNow now) with
  | true =>
      cases secondFresh : second.fresh (dateNow now) with
      | true => simp [evaluated, cleaned, firstFresh, secondFresh, QueueStore.hdel]
      | false => simp [evaluated, cleaned, firstFresh, secondFresh]
  | false =>
      cases secondFresh : second.fresh (dateNow now) with
      | true => simp [evaluated, cleaned, firstFresh, secondFresh]
      | false => simp [evaluated, cleaned, firstFresh, secondFresh, QueueStore.hdel]

/-- The HDEL after an entry has been put back. -/
theorem hdelStale_losesNobody {stale : Item} {now' : Time}
    (same : progress.gateway.db = before.db)
    : (MatchmakingService.afterCleanUp (dateNow now) (.hdelStale stale now')
          >>= pairFound now callId).Settles
          fails progress (LosesNobody still before callId first second)
      ↔ breaks fails .hdelStale = false
        ∨ Waits still first second progress.gateway.redis.queue := by
  unfold MatchmakingService.afterCleanUp
  rw [Script.bind_assoc, settles_redis_bind]
  unfold breaks
  cases fails (.hdelStale, .before) with
  | true => simp [losesNobody_unopened same]
  | false =>
      cases fails (.hdelStale, .after) with
      | true =>
          simp [losesNobody_unopened, same, advance, Matchmaking.MatchmakingService.tryMatch,
            QueueStore.hdel]
      | false => simp [pairFound, Script.settles_bind, losesNobody_ok]

/-- The two entries that have been matched. -/
theorem matched_losesNobody {now' : Time} (same : progress.gateway.db = before.db)
    : (MatchmakingService.afterCleanUp (dateNow now) (.audit first second now')
          >>= pairFound now callId).Settles
          fails progress (LosesNobody still before callId first second)
      ↔ if insertsSession fails before callId first.raw.parse.userId then
          breaks fails .createSession = false
          ∧ (∀ command ∈ answering, breaks fails command = false)
          ∧ before.db.references second.raw.parse.userId = true
        else
          Waits still first second progress.gateway.redis.queue := by
  unfold MatchmakingService.afterCleanUp
  rw [Script.bind_assoc, Script.settles_bind, Script.settles_modify]
  dsimp only
  rw [Script.settles_bind, Script.settles_pure]
  refine Iff.trans (pairUsers_losesNobody ?_ first.raw.parse second.raw.parse) Iff.rfl
  exact same

/-- Whatever fails of the commands of a pairing that has taken two entries out of the queue: it
loses nobody exactly if nothing fails, or no session has been inserted and each of the two who
is still connected has an entry among those that the queue keeps. -/
theorem pairing_loses_nobody {others : List Item} {outputs : List Output}
    (waiting : before.redis.queue = first :: second :: others)
    (popped : fails (.eval, .before) = false)
    : (SignalingGateway.tryPairUsers now callId).Settles fails ⟨before, outputs⟩
          (LosesNobody still before callId first second)
      ↔ unbroken fails now before callId first second = true
        ∨ creates fails now before callId first second = false
          ∧ Waits still first second (kept fails now first second others) := by
  have eval
      : advance (dateNow now) .eval before.redis
        = ({ before.redis with queue := others },
            .popped first second before.redis.misses) := by
    simp [advance, Matchmaking.MatchmakingService.tryMatch, waiting]
  unfold SignalingGateway.tryPairUsers MatchmakingService.tryMatch
  rw [Script.tryCatch_throw, Script.bind_assoc, settles_redis_bind]
  simp only [popped, eval, Bool.false_eq_true, false_imp_iff, true_and, forall_const]
  cases evaluated : fails (.eval, .after) with
  | true =>
      simp [losesNobody_unopened, unbroken, creates, breaks, kept, popped, evaluated]
  | false =>
      simp only [Bool.false_eq_true, false_imp_iff, true_and, forall_const]
      rw [Script.bind_assoc, settles_redis_bind]
      cases cleaned : fails (.cleanUp, .before) with
      | true =>
          simp [losesNobody_unopened, unbroken, creates, breaks, kept, popped, evaluated, cleaned]
      | false =>
          simp only [Bool.false_eq_true, false_imp_iff, true_and, forall_const]
          obtain ⟨keeps, stage⟩ :=
            advance_popped now first second { before.redis with queue := others }
              before.redis.misses evaluated cleaned
          dsimp only at keeps stage
          rw [stage]
          generalize afterEq : Progress.mk _ _ = after
          have same : after.gateway.db = before.db := by rw [← afterEq]
          have left : after.gateway.redis.queue = kept fails now first second others := by
            rw [← afterEq]
            exact keeps
          cases cleanedUp : fails (.cleanUp, .after) with
          | true =>
              simp [losesNobody_unopened same, left, unbroken, creates, breaks, popped,
                evaluated, cleanedUp]
          | false =>
              simp only [Bool.false_eq_true, false_imp_iff, true_and, forall_const]
              cases firstFresh : first.fresh (dateNow now) with
              | true =>
                  cases secondFresh : second.fresh (dateNow now) with
                  | true =>
                      refine (matched_losesNobody same).trans ?_
                      have unbrokenEval : breaks fails .eval = false := by
                        simp [breaks, popped, evaluated]
                      have unbrokenCleanUp : breaks fails .cleanUp = false := by
                        simp [breaks, cleaned, cleanedUp]
                      rw [left]
                      cases inserts : insertsSession fails before callId
                          first.raw.parse.userId with
                      | true =>
                          simp [unbroken, creates, unbrokenEval, unbrokenCleanUp, firstFresh,
                            secondFresh, inserts, and_assoc]
                      | false =>
                          simp [unbroken, creates, unbrokenEval, unbrokenCleanUp, firstFresh,
                            secondFresh, inserts]
                  | false =>
                      refine (hdelStale_losesNobody same).trans ?_
                      simp [left, unbroken, creates, breaks, popped, evaluated, cleaned,
                        cleanedUp, firstFresh, secondFresh]
              | false =>
                  cases secondFresh : second.fresh (dateNow now) with
                  | true =>
                      refine (hdelStale_losesNobody same).trans ?_
                      simp [left, unbroken, creates, breaks, popped, evaluated, cleaned,
                        cleanedUp, firstFresh, secondFresh]
                  | false =>
                      refine iff_of_true (losesNobody_ok still before callId first second after) ?_
                      simp [unbroken, creates, breaks, popped, evaluated, cleaned, cleanedUp,
                        firstFresh, secondFresh]

end Failures

/-- Two visitors wait in the queue, as they do when the second `match:join-queue` gets to
`tryPairUsers`. -/
def bothWait : Gateway :=
  let waiting := (worldAfter visitorWaits).gateway
  {
    waiting with
    redis :=
      (Signaling.MatchmakingService.enqueue (dateNow 2000) waiting.redis
        ⟨102, none, 12, .video, true⟩).1
  }

/-- The entry of the visitor who has come first. -/
def firstWaiting : Item := ⟨.stringify ⟨⟨101, none, 11, .video, true⟩, dateNow 1000⟩, 0⟩

/-- The entry of the other one. -/
def secondWaiting : Item := ⟨.stringify ⟨⟨102, none, 12, .video, true⟩, dateNow 2000⟩, 1⟩

/-- Nothing fails, and nobody is lost. -/
theorem pairing_loses_nobody_unbroken
    : (SignalingGateway.tryPairUsers 2000 202).Settles (fun _ => false) ⟨bothWait, []⟩
        (LosesNobody bothWait.connected bothWait 202 firstWaiting secondWaiting) := by
  have waiting : bothWait.redis.queue = firstWaiting :: secondWaiting :: [] := rfl
  exact (pairing_loses_nobody waiting rfl).mpr (.inl (by decide))

/-- If the session cannot be inserted, two connected visitors are in no queue any more; and if
the row of the guest cannot be, their call is left active as well. -/
theorem pair_lost
    : (∃ progress,
        (SignalingGateway.tryPairUsers 2000 202).run (· = (.createSession, .before))
            ⟨bothWait, []⟩
          = (.error .unavailable, progress)
        ∧ progress.gateway.connected 11 = true
        ∧ progress.gateway.connected 12 = true
        ∧ progress.gateway.redis.queue = []
        ∧ ¬ LosesNobody bothWait.connected bothWait 202 firstWaiting secondWaiting
              (.error .unavailable) progress)
      ∧ ∃ progress,
          (SignalingGateway.tryPairUsers 2000 202).run (· = (.addGuest, .before))
              ⟨bothWait, []⟩
            = (.error .unavailable, progress)
          ∧ (progress.gateway.db.callSessions.lookup 202).map CallSession.status
            = some .active
          ∧ ¬ LosesNobody bothWait.connected bothWait 202 firstWaiting secondWaiting
                (.error .unavailable) progress := by
  refine ⟨⟨_, rfl, by decide, by decide, rfl, fun loses => ?_⟩, _, rfl, rfl, fun loses => ?_⟩
  · have waits := (loses .unavailable rfl).queued firstWaiting (by simp) (by decide)
    cases waits
  · have waits := (loses .unavailable rfl).queued firstWaiting (by simp) (by decide)
    cases waits

end NexusComms.Signaling.Scripts
