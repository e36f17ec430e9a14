import NexusComms.Signaling.Actors
import NexusComms.Signaling.Orphans

/-! The rows of `call_participants` and `contact_save_requests`. Rows are never deleted: the
three ways into a call add rows at the end, and all that an UPDATE changes of a row is whether
it has been left and which devices are on.
-/

namespace NexusComms.Signaling

open CallsRepository Matchmaking

/-- What identifies a row of `call_participants`: the call, the two columns of its user, and
its role. -/
def CallParticipant.key (row : CallParticipant)
    : Uuid × Option Uuid × Option Uuid × ParticipantRole :=
  (row.callSessionId, row.userId, row.anonymousId, row.role)

/-- An UPDATE that keeps what identifies a row, and does not reach rows that have been left. -/
structure Amends (change : CallParticipant → CallParticipant) : Prop where
  key (row : CallParticipant) : (change row).key = row.key
  left {row : CallParticipant} (gone : row.leftAt.isSome = true) : change row = row

/-- The rows are amended in their places, and others follow them. -/
def Enlists (before after added : List CallParticipant) : Prop :=
  ∃ change, Amends change ∧ after = before.map change ++ added

namespace CallsService

/-- What `call:initiate` passes to `initiateCall`. -/
def callerParams (known : SocketMeta) (callType : CallType) : InitiateParams where
  initiatorId := some known.identity
  anonymousId := known.anonymous
  callType := callType
  isAnonymous := known.userId.isNone

/-- What `call:accept` passes to `acceptCall`. -/
def calleeParams (data : AcceptData) (userId : Uuid) : AcceptParams where
  callId := data.callId
  userId := userId
  callType := data.callType

/-- The type of the call of two users who are paired. -/
def pairType (a b : TimedEntry) : CallType :=
  if a.preferredType = b.preferredType then a.preferredType else .video

/-- What a pairing passes to `initiateCall` for the first of the two. -/
def firstParams (a b : TimedEntry) : InitiateParams where
  initiatorId := a.userId
  anonymousId := if a.userId.isSome then none else some a.anonymousId
  callType := pairType a b
  isAnonymous := true

/-- What a pairing passes to `acceptCall` for the second. -/
def secondParams (a b : TimedEntry) (callId : Uuid) : AcceptParams where
  callId := .uuid callId
  userId := b.userId.getD b.anonymousId
  anonymousId := if b.userId.isSome then none else some b.anonymousId
  isAnonymous := b.userId.isNone
  callType := pairType a b

theorem named (a b : TimedEntry) (callId : Uuid)
    : (secondParams a b callId).callId.cast = some callId :=
  rfl

end CallsService

open CallsService

/-- The sockets for which an event adds rows, with these rows. -/
def Gateway.enlists (runtime : Runtime) (now : Time) (gateway : Gateway)
    : Event → List (SocketId × CallParticipant)
  | .callInitiate socketId data callId =>
      if gateway.initiates runtime socketId data callId then
        (gateway.sockets.lookup socketId).toList.map
          (fun known => (socketId, hostRow now callId (callerParams known data.callType)))
      else
        []
  | .callAccept socketId data =>
      if gateway.accepts socketId data then
        match gateway.userOf socketId, data.callId.cast with
        | some userId, some id => [(socketId, guestRow now id (calleeParams data userId))]
        | _, _ => []
      else
        []
  | .joinQueue socketId preferredType callId =>
      match gateway.pairing now socketId preferredType with
      | none => []
      | some (a, b) =>
          if (gateway.db.callSessions.lookup callId).isNone then
            [
              (a.socketId, hostRow now callId (firstParams a b)),
              (b.socketId, guestRow now callId (secondParams a b callId))
            ]
          else
            []
  | _ => []

/-- The row that a request by a registered user adds to `contact_save_requests`: that of a call
and an addressee that exist, unless there is one with the same key. -/
def Database.requested (db : Database) (requestId : Uuid) (callId : Text) (fromUserId : Uuid)
    (toUserId : Text)
    : List ContactSaveRequest :=
  match callId.cast, toUserId.cast with
  | some call, some addressee =>
      if (db.callSessions.lookup call).isSome && db.references (some addressee)
          && db.contactSaveRequests.all
              (fun row =>
                !decide (row.callSessionId = call ∧ row.fromUserId = fromUserId
                  ∧ row.toUserId = addressee)) then
        [⟨requestId, call, fromUserId, addressee⟩]
      else
        []
  | _, _ => []

/-- The row that an event adds to `contact_save_requests`. -/
def Gateway.requests (gateway : Gateway) : Event → List ContactSaveRequest
  | .requestContactSave socketId data requestId =>
      match gateway.userOf socketId with
      | none => []
      | some userId => gateway.db.requested requestId data.callId userId data.toUserId
  | _ => []

-----------------------------------------------------------------------------------------
-- The services
-----------------------------------------------------------------------------------------

namespace Enlists

variable {before middle after added : List CallParticipant}

theorem refl (rows : List CallParticipant) : Enlists rows rows [] :=
  ⟨id, ⟨fun _ => rfl, fun _ => rfl⟩, by simp⟩

/-- Rows that are added follow. -/
theorem append (rows added : List CallParticipant) : Enlists rows (rows ++ added) added :=
  ⟨id, ⟨fun _ => rfl, fun _ => rfl⟩, by simp⟩

/-- A row is one of the earlier ones, perhaps amended, or has been added. -/
theorem cases {row : CallParticipant} (enlists : Enlists before after added)
    (listed : row ∈ after)
    : (∃ earlier ∈ before, earlier.key = row.key ∧ (earlier.leftAt.isSome → row = earlier))
      ∨ row ∈ added := by
  obtain ⟨change, amends, rfl⟩ := enlists
  rcases List.mem_append.mp listed with kept | new
  · obtain ⟨earlier, here, rfl⟩ := List.mem_map.mp kept
    exact .inl ⟨earlier, here, (amends.key earlier).symm, amends.left⟩
  · exact .inr new

/-- An UPDATE of the rows that `selects` finds reaches none that has been left. -/
theorem update (db : Database) (callSessionId userId : Uuid) (anonymousId : Option Uuid)
    {change : CallParticipant → CallParticipant}
    (key : ∀ row, (change row).key = row.key)
    : Enlists db.callParticipants
        (updateParticipants db callSessionId userId anonymousId change).callParticipants [] := by
  refine ⟨fun row => if selects callSessionId userId anonymousId row then change row else row,
    ⟨fun row => ?_, fun {row} gone => ?_⟩, by simp [updateParticipants]⟩
  · split
    · exact key row
    · rfl
  · obtain ⟨leftAt, left⟩ := Option.isSome_iff_exists.mp gone
    simp [selects, left]

end Enlists

section Services

variable (now : Time) (db : Database)

theorem endCall_enlists (params : EndParams)
    : Enlists db.callParticipants (endCall now db params).db.callParticipants [] := by
  unfold CallsService.endCall
  cases params.callId.cast with
  | none => exact .refl _
  | some id =>
      dsimp only
      have same := updateStatus_participants now db id params.reason.update
      rw [← same]
      exact .update _ id params.userId params.anonymousId (fun _ => rfl)

theorem toggleMedia_enlists (params : MediaParams)
    : Enlists db.callParticipants (toggleMedia db params).db.callParticipants [] := by
  unfold CallsService.toggleMedia
  split
  · exact .refl _
  · cases params.callId.cast with
    | none => exact .refl _
    | some id => exact .update _ id params.userId params.anonymousId (fun _ => rfl)

theorem toggleCallType_participants (callId : Text) (userId : Uuid) (newType : CallType)
    : (toggleCallType now db callId userId newType).db.callParticipants
      = db.callParticipants := by
  unfold CallsService.toggleCallType
  cases callId.cast with
  | none => rfl
  | some id => exact updateStatus_participants now db id .switched

theorem requestContactSave_participants (requestId : Uuid) (callId : Text) (fromUserId : Uuid)
    (toUserId : Text)
    : (ContactsService.requestContactSave db requestId callId fromUserId
        toUserId).db.callParticipants
      = db.callParticipants := by
  unfold ContactsService.requestContactSave
  split
  · dsimp only
    split
    · rfl
    · split
      · rfl
      · rfl
  · rfl

/-- `initiateCall` adds the host if it succeeds. -/
theorem initiateCall_participants (callId : Uuid) (params : InitiateParams)
    : (initiateCall now db callId params).db.callParticipants
      = db.callParticipants
        ++ if db.callSessions.lookup callId = none ∧ db.references params.initiatorId = true then
            [hostRow now callId params]
          else
            [] := by
  have succeeds
      : (initiateCall now db callId params).result = .ok ()
        ↔ db.callSessions.lookup callId = none
          ∧ db.references params.initiatorId = true :=
    initiateCall_ok_iff now db
  unfold CallsService.initiateCall at succeeds ⊢
  cases inserted : createSession db callId (initiatedRow now params) with
  | error failure =>
      rw [inserted] at succeeds
      rw [if_neg (fun known => by cases succeeds.mpr known), List.append_nil]
  | ok created =>
      rw [inserted] at succeeds
      obtain ⟨_, same⟩ := createSession_ok inserted
      dsimp only at succeeds ⊢
      cases added : addParticipant created (hostRow now callId params) with
      | error failure =>
          rw [added] at succeeds
          rw [if_neg (fun known => by cases succeeds.mpr known), List.append_nil, same]
      | ok db' =>
          rw [added] at succeeds
          rw [if_pos (succeeds.mp rfl)]
          simp only [addParticipant_ok added, same]

/-- `acceptCall` adds the guest if it succeeds. -/
theorem acceptCall_participants {params : AcceptParams} {id : Uuid}
    {session : Option CallSession} (cast : params.callId.cast = some id)
    (succeeded : (acceptCall now db params).result = .ok session)
    : (acceptCall now db params).db.callParticipants
      = db.callParticipants ++ [guestRow now id params] := by
  unfold CallsService.acceptCall at succeeded ⊢
  rw [cast] at succeeded ⊢
  dsimp only at succeeded ⊢
  split at succeeded
  · cases succeeded
  · next present =>
      rw [if_neg present]
      split at succeeded
      · cases succeeded
      · next added =>
          simp only [addParticipant_ok added, updateStatus_participants]

end Services

-----------------------------------------------------------------------------------------
-- The handlers
-----------------------------------------------------------------------------------------

section Handlers

variable (now : Time) (gateway : Gateway) {socketId : SocketId}

/-- `call:initiate` changes the database by its `initiateCall`. -/
theorem initiate_db (runtime : Runtime) (data : InitiateData) (callId : Uuid)
    : (SignalingGateway.onCallInitiate runtime now gateway socketId data callId).gateway.db
      = match gateway.sockets.lookup socketId,
            SignalingGateway.resolveTarget runtime gateway.db data with
        | some known, .ok _ =>
            (initiateCall now gateway.db callId (callerParams known data.callType)).db
        | _, _ => gateway.db := by
  unfold SignalingGateway.onCallInitiate
  cases gateway.sockets.lookup socketId with
  | none => rfl
  | some known =>
      cases SignalingGateway.resolveTarget runtime gateway.db data with
      | error failure => rfl
      | ok target =>
          dsimp only [callerParams]
          split
          · rfl
          · change (Gateway.setCallId _ _ _).db = _
            rw [setCallId_db]

/-- `call:accept` changes the database by its `acceptCall`. -/
theorem accept_db (data : AcceptData)
    : (SignalingGateway.onCallAccept now gateway socketId data).gateway.db
      = match gateway.userOf socketId with
        | none => gateway.db
        | some userId =>
            if gateway.bars data.callId userId then
              gateway.db
            else
              (acceptCall now gateway.db (calleeParams data userId)).db := by
  unfold SignalingGateway.onCallAccept Gateway.userOf
  cases gateway.sockets.lookup socketId with
  | none => rfl
  | some known =>
      cases registered : known.userId with
      | none => simp [registered, Outcome.refused]
      | some userId =>
          simp only [Option.bind_some, registered]
          by_cases barred : gateway.bars data.callId userId = true
          · rw [if_pos barred, if_pos barred]
            rfl
          · rw [if_neg barred, if_neg barred]
            dsimp only [calleeParams]
            split
            · rfl
            · change (Gateway.setCallId _ _ _).db = _
              rw [setCallId_db]

/-- A pairing changes the database by its `initiateCall`, and by its `acceptCall` if that has
succeeded. -/
theorem pairUsers_db (a b : TimedEntry) (callId : Uuid)
    : (SignalingGateway.pairUsers now gateway a b callId).gateway.db
      = match (initiateCall now gateway.db callId (firstParams a b)).result with
        | .error _ => (initiateCall now gateway.db callId (firstParams a b)).db
        | .ok _ =>
            (acceptCall now (initiateCall now gateway.db callId (firstParams a b)).db
              (secondParams a b callId)).db := by
  unfold SignalingGateway.pairUsers
  dsimp only [firstParams, secondParams, pairType]
  split
  · next failed => rw [failed]
  · next initiated =>
      rw [initiated]
      dsimp only
      split
      · rfl
      · simp

/-- When a `call:initiate` succeeds. -/
theorem initiates_iff {runtime : Runtime} {data : InitiateData} {callId : Uuid}
    : gateway.initiates runtime socketId data callId = true
      ↔ ∃ known target,
          gateway.sockets.lookup socketId = some known
          ∧ SignalingGateway.resolveTarget runtime gateway.db data = .ok target
          ∧ gateway.db.callSessions.lookup callId = none
          ∧ gateway.db.references (some known.identity) = true := by
  unfold Gateway.initiates
  cases gateway.sockets.lookup socketId with
  | none => simp
  | some known =>
      cases SignalingGateway.resolveTarget runtime gateway.db data with
      | error failure => simp [Except.toOption]
      | ok target => simp [Except.toOption, and_comm]

/-- When a `call:accept` succeeds. -/
theorem gateway_accepts_iff {data : AcceptData}
    : gateway.accepts socketId data = true
      ↔ ∃ userId id,
          gateway.userOf socketId = some userId
          ∧ gateway.bars data.callId userId = false
          ∧ data.callId.cast = some id
          ∧ (gateway.db.callSessions.lookup id).isSome = true := by
  unfold Gateway.accepts Gateway.mayAccept Database.sessionNamed
  cases gateway.userOf socketId with
  | none => simp
  | some userId =>
      cases data.callId.cast with
      | none => simp
      | some id => simp

/-- What a `call:initiate` adds. -/
theorem initiate_enlists (runtime : Runtime) (data : InitiateData) (callId : Uuid)
    : Enlists gateway.db.callParticipants
        (SignalingGateway.onCallInitiate runtime now gateway socketId data
            callId).gateway.db.callParticipants
        ((gateway.enlists runtime now (.callInitiate socketId data callId)).map Prod.snd) := by
  rw [initiate_db, Gateway.enlists]
  by_cases initiates : gateway.initiates runtime socketId data callId = true
  · obtain ⟨known, target, found, resolved, absent, referenced⟩ :=
      (initiates_iff gateway).mp initiates
    simp only [if_pos initiates, found, resolved, initiateCall_participants]
    rw [if_pos ⟨absent, referenced⟩]
    exact .append _ _
  · rw [if_neg initiates]
    cases found : gateway.sockets.lookup socketId with
    | none => exact .refl _
    | some known =>
        cases resolved : SignalingGateway.resolveTarget runtime gateway.db data with
        | error failure => exact .refl _
        | ok target =>
            dsimp only
            rw [initiateCall_participants, if_neg, List.append_nil]
            · exact .refl _
            · rintro ⟨absent, referenced⟩
              exact initiates ((initiates_iff gateway).mpr
                ⟨known, target, found, resolved, absent, referenced⟩)

/-- What a `call:accept` of a user who exists adds. -/
theorem accept_enlists (runtime : Runtime) (data : AcceptData)
    (known
      : ∀ userId,
          gateway.userOf socketId = some userId → gateway.db.references (some userId) = true)
    : Enlists gateway.db.callParticipants
        (SignalingGateway.onCallAccept now gateway socketId data).gateway.db.callParticipants
        ((gateway.enlists runtime now (.callAccept socketId data)).map Prod.snd) := by
  rw [accept_db, Gateway.enlists]
  by_cases accepts : gateway.accepts socketId data = true
  · obtain ⟨userId, id, user, unbarred, cast, found⟩ := (gateway_accepts_iff gateway).mp accepts
    have named : (calleeParams data userId).callId.cast = some id := cast
    obtain ⟨session, succeeded⟩ := acceptCall_succeeds now named found (known userId user)
    simp only [if_pos accepts, user, cast]
    rw [if_neg (by simp [unbarred]), acceptCall_participants now gateway.db named succeeded]
    exact .append _ _
  · rw [if_neg accepts]
    cases user : gateway.userOf socketId with
    | none => exact .refl _
    | some userId =>
        dsimp only
        split
        · exact .refl _
        · next unbarred =>
            cases cast : data.callId.cast with
            | none => simpa [acceptCall, calleeParams, cast] using Enlists.refl _
            | some id =>
                cases found : gateway.db.callSessions.lookup id with
                | none => simpa [acceptCall, calleeParams, cast, found] using Enlists.refl _
                | some row =>
                    refine absurd ((gateway_accepts_iff gateway).mpr ?_) accepts
                    exact ⟨userId, id, user, by simpa using unbarred, cast, by simp [found]⟩

/-- Both services succeed for two users who exist, under a new id. -/
theorem pairUsers_services {a b : TimedEntry} {callId : Uuid}
    (absent : gateway.db.callSessions.lookup callId = none)
    (first : gateway.db.references a.userId = true)
    (second : gateway.db.references b.userId = true)
    : (initiateCall now gateway.db callId (firstParams a b)).result = .ok ()
      ∧ (initiateCall now gateway.db callId (firstParams a b)).db.callSessions
        = gateway.db.callSessions.insert callId (initiatedRow now (firstParams a b))
      ∧ ∃ session,
          (acceptCall now (initiateCall now gateway.db callId (firstParams a b)).db
            (secondParams a b callId)).result
          = .ok session := by
  have initiated
      : (initiateCall now gateway.db callId (firstParams a b)).result = .ok () :=
    (initiateCall_ok_iff now gateway.db).mpr ⟨absent, first⟩
  have inserted
      : (initiateCall now gateway.db callId (firstParams a b)).db.callSessions
        = gateway.db.callSessions.insert callId (initiatedRow now (firstParams a b)) := by
    rcases initiateCall_cases now gateway.db callId (firstParams a b) with
      ⟨_, failure, failed⟩ | ⟨_, inserted⟩
    · cases failed.symm.trans initiated
    · exact inserted
  have guest
      : (initiateCall now gateway.db callId (firstParams a b)).db.references
          (if (secondParams a b callId).isAnonymous then
            none
          else
            some (secondParams a b callId).userId)
        = true := by
    rw [references_of_users (initiateCall_users now gateway.db callId (firstParams a b))]
    cases user : b.userId with
    | none => simp [secondParams, user, Database.references]
    | some userId => simpa [secondParams, user] using user ▸ second
  exact ⟨initiated, inserted,
    acceptCall_succeeds now (named a b callId) (by rw [inserted, AList.lookup_insert]; rfl)
      guest⟩

/-- What a pairing of users who exist adds under a new id. -/
theorem pairUsers_participants {a b : TimedEntry} {callId : Uuid}
    (absent : gateway.db.callSessions.lookup callId = none)
    (first : gateway.db.references a.userId = true)
    (second : gateway.db.references b.userId = true)
    : (SignalingGateway.pairUsers now gateway a b callId).gateway.db.callParticipants
      = gateway.db.callParticipants
        ++ [hostRow now callId (firstParams a b), guestRow now callId (secondParams a b callId)]
    := by
  obtain ⟨initiated, _, session, accepted⟩ :=
    pairUsers_services now gateway absent first second
  rw [pairUsers_db, initiated]
  dsimp only
  rw [acceptCall_participants now _ (named a b callId) accepted, initiateCall_participants,
    if_pos ⟨absent, first⟩, List.append_assoc]
  rfl

end Handlers

/-- What every event adds to the rows, and that it changes the earlier ones by an UPDATE. -/
theorem handle_enlists {world : World} (seated : Seated world) (entries : EntriesKnown world)
    (runtime : Runtime) (now : Time) (event : Event)
    : Enlists world.gateway.db.callParticipants
        (handle runtime now world.gateway event).gateway.db.callParticipants
        ((world.gateway.enlists runtime now event).map Prod.snd) := by
  cases event with
  | callInitiate socketId data callId =>
      exact initiate_enlists now world.gateway runtime data callId
  | callAccept socketId data =>
      exact accept_enlists now world.gateway runtime data (fun _ user => seated.registered user)
  | joinQueue socketId preferredType callId =>
      simp only [handle, Gateway.enlists]
      rcases joinQueue_cases now world.gateway socketId preferredType callId with
        ⟨unpaired, redis, same⟩ | ⟨a, b, redis, paired, same⟩
      · rw [unpaired, same]
        exact .refl _
      · obtain ⟨first, second⟩ := pairing_known seated entries paired
        rw [paired, same]
        dsimp only
        split
        · next absent =>
            rw [pairUsers_participants now { world.gateway with redis := redis }
              (Option.isNone_iff_eq_none.mp absent) first second]
            exact .append _ _
        · next taken =>
            rw [pairUsers_taken (Option.isSome_iff_ne_none.mpr (by simpa using taken))]
            exact .refl _
  | requestContactSave socketId data requestId =>
      simp only [handle, SignalingGateway.onRequestContactSave]
      split
      · exact .refl _
      · split
        · exact .refl _
        · split
          · rw [requestContactSave_participants]
            exact .refl _
          · rw [requestContactSave_participants]
            exact .refl _
  | register _ _ => exact .refl _
  | _ =>
      refine handle_holds
        (fun db => Enlists world.gateway.db.callParticipants db.callParticipants [])
        rfl (.refl _) (endCall_enlists now _) (toggleMedia_enlists _) ?_
      intro callId userId newType
      rw [toggleCallType_participants]
      exact .refl _

section Requests

variable (now : Time) (db : Database)

theorem updateStatus_requests (id : Uuid) (update : StatusUpdate)
    : (updateStatus now db id update).1.contactSaveRequests = db.contactSaveRequests := by
  unfold updateStatus
  split
  · rfl
  · rfl

theorem endCall_requests (params : EndParams)
    : (endCall now db params).db.contactSaveRequests = db.contactSaveRequests := by
  unfold CallsService.endCall
  split
  · rfl
  · exact updateStatus_requests now db _ _

theorem toggleMedia_requests (params : MediaParams)
    : (toggleMedia db params).db.contactSaveRequests = db.contactSaveRequests := by
  unfold CallsService.toggleMedia
  split
  · rfl
  · split
    · rfl
    · rfl

theorem toggleCallType_requests (callId : Text) (userId : Uuid) (newType : CallType)
    : (toggleCallType now db callId userId newType).db.contactSaveRequests
      = db.contactSaveRequests := by
  unfold CallsService.toggleCallType
  split
  · rfl
  · exact updateStatus_requests now db _ _

theorem initiateCall_requests (callId : Uuid) (params : InitiateParams)
    : (initiateCall now db callId params).db.contactSaveRequests = db.contactSaveRequests := by
  unfold CallsService.initiateCall
  split
  · rfl
  · next created inserted =>
      obtain ⟨_, same⟩ := createSession_ok inserted
      split
      · rw [same]
      · next added => simp only [addParticipant_ok added, same]

theorem acceptCall_requests (params : AcceptParams)
    : (acceptCall now db params).db.contactSaveRequests = db.contactSaveRequests := by
  unfold CallsService.acceptCall
  split
  · rfl
  · split
    · rfl
    · dsimp only
      split
      · exact updateStatus_requests now db _ _
      · next added =>
          simp only [addParticipant_ok added, updateStatus_requests]

/-- `requestContactSave` of a user who exists adds a row if there is none with its key. -/
theorem requestContactSave_requests (requestId : Uuid) (callId toUserId : Text)
    {fromUserId : Uuid} (known : db.references (some fromUserId) = true)
    : (ContactsService.requestContactSave db requestId callId fromUserId
        toUserId).db.contactSaveRequests
      = db.contactSaveRequests ++ db.requested requestId callId fromUserId toUserId := by
  unfold Database.requested
  unfold ContactsService.requestContactSave
  cases callId.cast with
  | none => simp
  | some call =>
      cases toUserId.cast with
      | none => simp
      | some addressee =>
          dsimp only
          split
          · next row found =>
              have same := List.find?_some found
              have member := List.mem_of_find?_eq_some found
              rw [if_neg, List.append_nil]
              simp only [Bool.and_eq_true, List.all_eq_true, not_and]
              intro _ fresh
              have other := fresh row member
              rw [same] at other
              cases other
          · next missing =>
              have fresh := List.find?_eq_none.mp missing
              by_cases referenced
                  : (db.callSessions.lookup call).isSome = true
                    ∧ db.references (some addressee) = true
              · rw [if_pos (by simp [referenced, known]), if_pos]
                simp only [Bool.and_eq_true, List.all_eq_true]
                exact ⟨referenced, fun row member => by simpa [imp_iff_not_or] using fresh row member⟩
              · rw [if_neg (by simpa [known] using referenced), if_neg, List.append_nil]
                simp only [Bool.and_eq_true]
                exact fun all => referenced all.1

/-- Only a request adds to the requests. -/
theorem handle_requests {world : World} (seated : Seated world) (runtime : Runtime)
    (event : Event)
    : (handle runtime now world.gateway event).gateway.db.contactSaveRequests
      = world.gateway.db.contactSaveRequests ++ world.gateway.requests event := by
  cases event with
  | requestContactSave socketId data requestId =>
      simp only [handle, SignalingGateway.onRequestContactSave, Gateway.requests]
      cases user : world.gateway.userOf socketId with
      | none =>
          cases found : world.gateway.sockets.lookup socketId with
          | none => simp [Outcome.refused]
          | some known =>
              have anonymous : known.userId = none := by simpa [Gateway.userOf, found] using user
              simp [anonymous, Outcome.refused]
      | some userId =>
          obtain ⟨known, found, registered⟩ := Option.bind_eq_some_iff.mp user
          have added := requestContactSave_requests world.gateway.db requestId data.callId
            data.toUserId (seated.registered user)
          simp only [found, registered]
          split
          · exact added
          · exact added
  | callInitiate socketId data callId =>
      simp only [handle, initiate_db, Gateway.requests, List.append_nil]
      split
      · exact initiateCall_requests ..
      · rfl
  | callAccept socketId data =>
      simp only [handle, accept_db, Gateway.requests, List.append_nil]
      split
      · rfl
      · split
        · rfl
        · exact acceptCall_requests ..
  | joinQueue socketId preferredType callId =>
      simp only [handle, Gateway.requests, List.append_nil]
      rcases joinQueue_cases now world.gateway socketId preferredType callId with
        ⟨_, redis, same⟩ | ⟨a, b, redis, _, same⟩
      · rw [same]
      · rw [same, pairUsers_db]
        split
        · exact initiateCall_requests ..
        · exact (acceptCall_requests ..).trans (initiateCall_requests ..)
  | register _ _ => exact (List.append_nil _).symm
  | _ =>
      exact handle_holds
        (fun db => db.contactSaveRequests = world.gateway.db.contactSaveRequests ++ [])
        rfl (by simp) (by simp [endCall_requests]) (by simp [toggleMedia_requests])
        (by simp [toggleCallType_requests])

/-- An event adds no request, or one with a new key under the id that it draws, and then no
participant. -/
theorem requests_cases (gateway : Gateway) (event : Event)
    : gateway.requests event = []
      ∨ ∃ row,
          gateway.requests event = [row] ∧ event.draws = [row.id]
          ∧ (∀ other ∈ gateway.db.contactSaveRequests,
              ¬ (other.callSessionId = row.callSessionId ∧ other.fromUserId = row.fromUserId
                  ∧ other.toUserId = row.toUserId))
          ∧ ∀ runtime now, gateway.enlists runtime now event = [] := by
  cases event with
  | requestContactSave socketId data requestId =>
      simp only [Gateway.requests]
      split
      · exact .inl rfl
      · unfold Database.requested
        split
        · split
          · next inserts =>
              simp only [Bool.and_eq_true, List.all_eq_true] at inserts
              refine .inr ⟨_, rfl, rfl, fun other listed same => ?_, fun _ _ => rfl⟩
              have fresh := inserts.2 other listed
              rw [decide_eq_true same] at fresh
              cases fresh
          · exact .inl rfl
        · exact .inl rfl
  | _ => exact .inl rfl

end Requests

section Rows

variable {runtime : Runtime} {world : World} {stimulus : Stimulus}

/-- Ids of calls have been drawn, and every row belongs to a call that exists. -/
structure RowsKnown (world : World) : Prop where
  sessions {id : Uuid} (present : (world.session id).isSome) : id ∈ world.drawn
  calls {row : CallParticipant} (listed : row ∈ world.gateway.db.callParticipants)
    : (world.session row.callSessionId).isSome

theorem rowsKnown_start : RowsKnown .start where
  sessions present := by simp [World.start, World.session, Gateway.empty] at present
  calls listed := by simp [World.start, Gateway.empty] at listed

/-- A row is added for a call that exists, or that the event creates. -/
theorem enlists_present (seated : Seated world) (entries : EntriesKnown world)
    {entrant : SocketId × CallParticipant}
    (added : entrant ∈ world.gateway.enlists runtime stimulus.now stimulus.event)
    : ((world.after runtime stimulus).session entrant.2.callSessionId).isSome := by
  obtain ⟨now, event⟩ := stimulus
  cases event with
  | callInitiate socketId data callId =>
      simp only [Gateway.enlists] at added
      split at added
      · next initiates =>
          obtain ⟨known, target, found, resolved, absent, referenced⟩ :=
            (initiates_iff world.gateway).mp initiates
          rw [found] at added
          obtain rfl := by simpa using added
          change ((SignalingGateway.onCallInitiate runtime now world.gateway socketId data
            callId).gateway.db.callSessions.lookup callId).isSome
          rw [initiate_db, found, resolved]
          dsimp only
          rcases initiateCall_cases now world.gateway.db callId
              (callerParams known data.callType) with
            ⟨_, failure, failed⟩ | ⟨_, inserted⟩
          · cases failed.symm.trans
              ((initiateCall_ok_iff now world.gateway.db).mpr ⟨absent, referenced⟩)
          · rw [inserted, AList.lookup_insert]
            rfl
      · cases added
  | callAccept socketId data =>
      simp only [Gateway.enlists] at added
      split at added
      · next accepts =>
          obtain ⟨userId, id, user, _, cast, found⟩ :=
            (gateway_accepts_iff world.gateway).mp accepts
          rw [user, cast] at added
          obtain rfl := by simpa using added
          exact session_stays found
      · cases added
  | joinQueue socketId preferredType callId =>
      simp only [Gateway.enlists] at added
      rcases joinQueue_cases now world.gateway socketId preferredType callId with
        ⟨unpaired, redis, same⟩ | ⟨a, b, redis, paired, same⟩
      · rw [unpaired] at added
        cases added
      · rw [paired] at added
        dsimp only at added
        split at added
        · next absent =>
            obtain ⟨first, second⟩ := pairing_known seated entries paired
            have active :=
              (pairUsers_paired now { world.gateway with redis := redis }
                (Option.isNone_iff_eq_none.mp absent) first second).2
            rw [← same] at active
            have here : entrant.2.callSessionId = callId := by
              rcases List.mem_pair.mp added with rfl | rfl
              · rfl
              · rfl
            rw [here]
            obtain ⟨row, found, _⟩ := Option.map_eq_some_iff.mp active
            exact Option.isSome_iff_exists.mpr ⟨row, found⟩
        · cases added
  | _ => cases added

/-- The rows stay known. -/
theorem RowsKnown.step (known : RowsKnown world) (seated : Seated world)
    (entries : EntriesKnown world)
    : RowsKnown (world.after runtime stimulus) where
  sessions {id} present := by
    change id ∈ stimulus.event.draws ++ world.drawn
    cases existed : world.session id with
    | some row => exact List.mem_append_right _ (known.sessions (by rw [existed]; rfl))
    | none =>
        have creates := session_created existed present
        refine List.mem_append_left _ ?_
        cases sent : stimulus.event with
        | callInitiate socketId data callId => simp_all [Event.creates, Event.draws]
        | joinQueue socketId preferredType callId => simp_all [Event.creates, Event.draws]
        | _ => simp [sent, Event.creates] at creates
  calls {row} listed := by
    have enlists := handle_enlists seated entries runtime stimulus.now stimulus.event
    rcases enlists.cases listed with ⟨earlier, before, same, _⟩ | added
    · have call : row.callSessionId = earlier.callSessionId := (congrArg Prod.fst same).symm
      rw [call]
      exact session_stays (known.calls before)
    · obtain ⟨entrant, entered, rfl⟩ := List.mem_map.mp added
      exact enlists_present seated entries entered

/-- What holds of the seats, the queue and the rows in every reachable state. -/
theorem known_of_reaches {actions : List Stimulus}
    (run : (gatewayMachine runtime).Reaches actions world)
    : Seated world ∧ EntriesKnown world ∧ RowsKnown world := by
  have start : EntriesKnown .start := QueueStore.All.empty
  refine run.invariant (fun world => Seated world ∧ EntriesKnown world ∧ RowsKnown world)
    ⟨seated_start, start, rowsKnown_start⟩ ?_
  rintro before stimulus after ⟨seated, entries, rows⟩ step
  obtain ⟨admitted, rfl⟩ := step_eq_some.mp step
  exact ⟨seated.step admitted, entries.step seated, rows.step seated entries⟩

end Rows

end NexusComms.Signaling
