import NexusComms.Signaling.Pairing
import NexusComms.Storage.Pagination

/-! The call history of a user, read page by page. It joins the rows of `call_participants`
that name the user in `user_id` with their sessions, and sorts them by the time of their start.
-/

namespace NexusComms.Signaling

open Concurrency CallsService Matchmaking Storage

/-- `CallSessionRecord`: a row of `call_sessions` and its key. -/
structure CallSessionRecord where
  id : Uuid
  session : CallSession
deriving DecidableEq, Repr

abbrev CallSessionRecord.startedAt (record : CallSessionRecord) : Time :=
  record.session.startedAt

/-- The record that a participant of a user is joined with. -/
def CallParticipant.record (db : Database) (userId : Uuid) (row : CallParticipant)
    : Option CallSessionRecord :=
  if row.userId = some userId then
    (db.callSessions.lookup row.callSessionId).map (fun session => ⟨row.callSessionId, session⟩)
  else
    none

namespace CallsRepository

/-- `call_sessions cs JOIN call_participants cp ON cp.call_session_id = cs.id`, where
`cp.user_id` is the user. -/
def joined (db : Database) (userId : Uuid) : List CallSessionRecord :=
  db.callParticipants.filterMap (CallParticipant.record db userId)

/-- `orderBy` is how the database sorts in this query. -/
def findHistory (orderBy : List CallSessionRecord → List CallSessionRecord) (db : Database)
    (userId : Uuid) (limit : Nat := 20) (offset : Nat := 0)
    : List CallSessionRecord :=
  ((orderBy (joined db userId)).drop offset).take limit

end CallsRepository

open CallsRepository

def CallsService.getCallHistory (orderBy : List CallSessionRecord → List CallSessionRecord)
    (db : Database) (userId : Uuid) (limit : Nat := 20) (offset : Nat := 0)
    : List CallSessionRecord :=
  findHistory orderBy db userId limit offset

/-- The pages of a history, each from a query that sorts in its own way. -/
def historyPage (orders : Nat → List CallSessionRecord → List CallSessionRecord)
    (db : Database) (userId : Uuid) (limit query : Nat)
    : List CallSessionRecord :=
  getCallHistory (orders query) db userId limit (query * limit)

/-- Both messages of a match name the partner of the one whom they address, and so both of
the two that are registered. -/
def Output.matchedUser : Output → Option (Uuid × Uuid)
  | .emit ⟨_, .matchFound callId _ _ _ partner, _, _⟩ =>
      partner.map (fun userId => (userId, callId))
  | _ => none

/-- The registered users who have entered a call by what has happened, with the call: by
initiating it, by accepting it, or by being matched. -/
def Occurrence.participants (occurrence : Occurrence) : List (Uuid × Uuid) :=
  match occurrence.event, occurrence.reply, occurrence.user with
  | .callInitiate _ _ callId, .ok _, some userId => [(userId, callId)]
  | .callAccept _ data, .ok _, some userId =>
      data.callId.cast.toList.map (fun callId => (userId, callId))
  | .joinQueue _ _ _, _, _ => occurrence.outputs.filterMap Output.matchedUser
  | _, _, _ => []

/-- The registered user has entered the call at some time. -/
def World.tookPart (world : World) (userId callId : Uuid) : Prop :=
  ∃ occurrence ∈ world.trace, (userId, callId) ∈ occurrence.participants

/-- A listing has the calls that a user has entered, each once and the newest first. -/
structure ListsOnce (world : World) (userId : Uuid) (listing : List CallSessionRecord) : Prop
    where
  once : (listing.map CallSessionRecord.id).Nodup
  entered (id : Uuid) : id ∈ listing.map CallSessionRecord.id ↔ world.tookPart userId id
  newest : listing.Pairwise (fun first second => second.startedAt ≤ first.startedAt)
  stored : ∀ record ∈ listing, world.session record.id = some record.session

/-- Whoever is registered, however long the pages are, and in whatever order rows that started
at the same time come in each query, the pages until an empty one list every call once. No more
pages than rows are read before an empty one. -/
def HistoryComplete (world : World) : Prop :=
  ∀ userId limit orders queries,
    world.gateway.db.references (some userId) = true →
      1 ≤ limit →
        (∀ query rows, OrderedBy CallSessionRecord.startedAt rows (orders query rows)) →
          (joined world.gateway.db userId).length < queries →
            let fetch := historyPage orders world.gateway.db userId limit
            (∃ query < queries, fetch query = [])
              ∧ ListsOnce world userId (readPages fetch queries 0)

/-- A row of the user belongs to a call that started at this time. -/
def Database.hasStarted (db : Database) (userId : Uuid) (time : Time) : Bool :=
  db.callParticipants.any
    (fun row =>
      decide (row.userId = some userId)
        && (db.callSessions.lookup row.callSessionId).any
            (fun session => decide (session.startedAt = time)))

/-- A user who initiates or accepts a call, or is the second of a pair, has no row yet in a call
that started when this one did, and the first of a pair is anonymous or the same user. -/
def keepsHistory (runtime : Runtime) (world : World) (stimulus : Stimulus) : Bool :=
  let gateway := world.gateway
  match stimulus.event with
  | .callInitiate socketId data callId =>
      !gateway.initiates runtime socketId data callId
        || (gateway.userOf socketId).all
            (fun userId => !gateway.db.hasStarted userId stimulus.now)
  | .callAccept socketId data =>
      !gateway.accepts socketId data
        || (gateway.userOf socketId).all
            (fun userId =>
              (gateway.db.sessionNamed data.callId).all
                (fun session => !gateway.db.hasStarted userId session.startedAt))
  | .joinQueue socketId preferredType _ =>
      (gateway.pairing stimulus.now socketId preferredType).all
        (fun pair =>
          (pair.1.userId.isNone || decide (pair.1.userId = pair.2.userId))
            && pair.2.userId.all (fun userId => !gateway.db.hasStarted userId stimulus.now))
  | _ => true

-----------------------------------------------------------------------------------------
-- Listings
-----------------------------------------------------------------------------------------

section Listings

variable {db : Database} {userId : Uuid} {world : World}

theorem mem_joined {record : CallSessionRecord}
    : record ∈ joined db userId
      ↔ ∃ row ∈ db.callParticipants,
          row.userId = some userId
          ∧ row.callSessionId = record.id
          ∧ db.callSessions.lookup record.id = some record.session := by
  unfold joined
  rw [List.mem_filterMap]
  refine exists_congr fun row => and_congr_right fun _ => ?_
  unfold CallParticipant.record
  constructor
  · intro same
    obtain ⟨owner, found⟩ := Option.ite_none_right_eq_some.mp same
    obtain ⟨session, stored, rfl⟩ := Option.map_eq_some_iff.mp found
    exact ⟨owner, rfl, stored⟩
  · rintro ⟨owner, call, stored⟩
    rw [if_pos owner, call, stored]
    rfl

theorem hasStarted_iff {time : Time}
    : db.hasStarted userId time = true
      ↔ time ∈ (joined db userId).map CallSessionRecord.startedAt := by
  simp only [Database.hasStarted, List.any_eq_true, Bool.and_eq_true, decide_eq_true_eq,
    Option.any_eq_true, List.mem_map, mem_joined]
  constructor
  · rintro ⟨row, listed, owner, session, stored, started⟩
    exact ⟨⟨row.callSessionId, session⟩, ⟨row, listed, owner, rfl, stored⟩, started⟩
  · rintro ⟨record, ⟨row, listed, owner, call, stored⟩, started⟩
    exact ⟨row, listed, owner, record.session, by rw [call, stored], started⟩

/-- Calls that started at different times are different calls, as the id of a call tells when
it started. -/
theorem ids_nodup (distinct : ((joined db userId).map CallSessionRecord.startedAt).Nodup)
    : ((joined db userId).map CallSessionRecord.id).Nodup := by
  let startOf := fun id => (db.callSessions.lookup id).elim 0 CallSession.startedAt
  have told
      : (joined db userId).map CallSessionRecord.startedAt
        = ((joined db userId).map CallSessionRecord.id).map startOf := by
    rw [List.map_map]
    refine List.map_congr_left fun record listed => ?_
    obtain ⟨_, _, _, _, stored⟩ := mem_joined.mp listed
    simp [startOf, stored]
  rw [told] at distinct
  exact distinct.of_map startOf

/-- If no two calls started at the same time, the pages are the records in their order. -/
theorem history_whole {limit queries : Nat}
    {orders : Nat → List CallSessionRecord → List CallSessionRecord} (positive : 1 ≤ limit)
    (distinct : ((joined db userId).map CallSessionRecord.startedAt).Nodup)
    (sorted : ∀ query rows, OrderedBy CallSessionRecord.startedAt rows (orders query rows))
    (enough : (joined db userId).length < queries)
    : readPages (historyPage orders db userId limit) queries 0 = orders 0 (joined db userId) :=
  readPages_eq positive distinct (fun query => sorted query _) enough

/-- The rows of a user: no two of their calls started at the same time, and they are in the
calls that the user has entered. -/
structure RowsListed (world : World) (userId : Uuid) : Prop where
  distinct : ((joined world.gateway.db userId).map CallSessionRecord.startedAt).Nodup
  entered (id : Uuid)
    : id ∈ (joined world.gateway.db userId).map CallSessionRecord.id
      ↔ world.tookPart userId id

/-- The pages of a history list every call once if and only if no two of the calls started at
the same time, and the rows are in the calls that the user has entered. -/
theorem historyComplete_iff
    : HistoryComplete world
      ↔ ∀ userId,
          world.gateway.db.references (some userId) = true → RowsListed world userId := by
  constructor
  · intro complete userId registered
    have distinct
        : ((joined world.gateway.db userId).map CallSessionRecord.startedAt).Nodup := by
      refine readPages_nodup_iff.mp fun size queries answers positive enough answered => ?_
      obtain ⟨orders, sorted, same⟩ := exists_orders answered
      have listed := (complete userId size orders queries registered positive sorted enough).2
      have pages
          : historyPage orders world.gateway.db userId size = page size answers := by
        funext query
        simp only [historyPage, getCallHistory, findHistory, page, same]
      rw [pages] at listed
      exact listed.once.of_map _
    obtain ⟨ordered, sorted⟩ :=
      exists_ordered CallSessionRecord.startedAt (joined world.gateway.db userId)
    obtain ⟨orders, sorts, same⟩ := exists_orders (fun _ : Nat => sorted)
    have listed := (complete userId 1 orders _ registered le_rfl sorts (Nat.lt_succ_self _)).2
    rw [history_whole le_rfl distinct sorts (Nat.lt_succ_self _)] at listed
    have ids := (sorts 0 (joined world.gateway.db userId)).perm.map CallSessionRecord.id
    exact ⟨distinct, fun id => ids.mem_iff.symm.trans (listed.entered id)⟩
  · intro rows userId limit orders queries registered positive sorted enough
    obtain ⟨distinct, entered⟩ := rows userId registered
    have answered (query : Nat) := sorted query (joined world.gateway.db userId)
    refine ⟨⟨_, enough, page_empty positive answered⟩, ?_⟩
    rw [history_whole positive distinct sorted enough]
    have ids := (answered 0).perm.map CallSessionRecord.id
    constructor
    case once => exact ids.nodup_iff.mpr (ids_nodup distinct)
    case entered => exact fun id => ids.mem_iff.trans (entered id)
    case newest => exact (answered 0).descending
    case stored =>
      intro record listed
      obtain ⟨_, _, _, _, stored⟩ := mem_joined.mp ((answered 0).perm.mem_iff.mp listed)
      exact stored

end Listings

-----------------------------------------------------------------------------------------
-- Steps
-----------------------------------------------------------------------------------------

/-- The call of a participant's row of a user, and when it started. -/
def CallParticipant.attendance (world : World) (userId : Uuid) (row : CallParticipant)
    : Option (Uuid × Time) :=
  (row.record world.gateway.db userId).map (fun record => (record.id, record.startedAt))

/-- The calls of a user's rows, and when they started. -/
def World.attendances (world : World) (userId : Uuid) : List (Uuid × Time) :=
  world.gateway.db.callParticipants.filterMap (CallParticipant.attendance world userId)

theorem attendances_ids (world : World) (userId : Uuid)
    : (world.attendances userId).map Prod.fst
      = (joined world.gateway.db userId).map CallSessionRecord.id := by
  simp [World.attendances, joined, List.map_filterMap, CallParticipant.attendance,
    Function.comp_def]

theorem attendances_starts (world : World) (userId : Uuid)
    : (world.attendances userId).map Prod.snd
      = (joined world.gateway.db userId).map CallSessionRecord.startedAt := by
  simp [World.attendances, joined, List.map_filterMap, CallParticipant.attendance,
    Function.comp_def]

/-- The rows are in calls that their users have entered, and who has entered a call is
registered. -/
structure UsersKnown (world : World) : Prop where
  rows {userId id : Uuid} {startedAt : Time}
    (listed : (id, startedAt) ∈ world.attendances userId)
    : world.tookPart userId id
  registered {userId id : Uuid} (entered : world.tookPart userId id)
    : world.gateway.db.references (some userId) = true

/-- An event adds a row of `owner`, if there is one, in a call that started at some time, and
brings some registered users into the call. -/
structure Attends (world next : World) (callId : Uuid) (startedAt : Time) (owner : Option Uuid)
    (enters : Uuid → Prop) : Prop where
  rows (userId : Uuid)
    : next.attendances userId
      = world.attendances userId ++ if owner = some userId then [(callId, startedAt)] else []
  entered (userId id : Uuid)
    : next.tookPart userId id ↔ world.tookPart userId id ∨ id = callId ∧ enters userId
  owned {userId : Uuid} (owns : owner = some userId) : enters userId
  rowless {userId : Uuid} (enters : enters userId) (other : owner ≠ some userId)
    : ∀ time, (callId, time) ∉ world.attendances userId
  registered {userId : Uuid} (enters : enters userId)
    : world.gateway.db.references (some userId) = true

section Attendance

variable {world next : World} {callId : Uuid} {startedAt : Time} {owner : Option Uuid}
  {enters : Uuid → Prop}

/-- If all users are listed rightly, they are so after the event exactly if its call started
at another time than those of the row's owner, and nobody else has entered the call. -/
theorem Attends.listed_iff (attends : Attends world next callId startedAt owner enters)
    (held : ∀ userId, RowsListed world userId)
    : (∀ userId, RowsListed next userId)
      ↔ (∀ userId, owner = some userId → startedAt ∉ (world.attendances userId).map Prod.snd)
        ∧ ∀ userId, enters userId → owner = some userId := by
  constructor
  · intro after
    refine ⟨fun userId owns started => ?_, fun userId here => ?_⟩
    · have distinct := (after userId).distinct
      rw [← attendances_starts, attends.rows, if_pos owns, List.map_append] at distinct
      exact (List.nodup_append.mp distinct).2.2 _ started _ (List.mem_singleton_self _) rfl
    · by_contra other
      have inside := ((after userId).entered callId).mpr
        ((attends.entered userId callId).mpr (.inr ⟨rfl, here⟩))
      rw [← attendances_ids, attends.rows, if_neg other, List.append_nil] at inside
      obtain ⟨⟨_, time⟩, listed, rfl⟩ := List.mem_map.mp inside
      exact attends.rowless here other time listed
  · rintro ⟨fresh, only⟩ userId
    obtain ⟨distinct, entered⟩ := held userId
    rw [← attendances_starts] at distinct
    simp only [← attendances_ids] at entered
    by_cases owns : owner = some userId
    · constructor
      · rw [← attendances_starts, attends.rows, if_pos owns, List.map_append, List.map_singleton]
        exact distinct.append (List.nodup_singleton _)
          (List.disjoint_singleton.mpr (fresh userId owns))
      · intro id
        rw [← attendances_ids, attends.rows, if_pos owns, List.map_append, List.mem_append,
          entered, attends.entered, and_iff_left (attends.owned owns)]
        exact or_congr_right List.mem_singleton
    · have outside : ¬ enters userId := fun here => owns (only userId here)
      constructor
      · rw [← attendances_starts, attends.rows, if_neg owns, List.append_nil]
        exact distinct
      · intro id
        rw [← attendances_ids, attends.rows, if_neg owns, List.append_nil, entered,
          attends.entered, or_iff_left (fun here => outside here.2)]

/-- The users stay known. -/
theorem Attends.known (attends : Attends world next callId startedAt owner enters)
    (known : UsersKnown world)
    (stay
      : ∀ {userId},
          world.gateway.db.references (some userId) = true →
            next.gateway.db.references (some userId) = true)
    : UsersKnown next where
  rows {userId id time} listed := by
    rw [attends.rows] at listed
    refine (attends.entered userId id).mpr ?_
    rcases List.mem_append.mp listed with before | added
    · exact .inl (known.rows before)
    · split at added
      · next owns =>
          cases List.mem_singleton.mp added
          exact .inr ⟨rfl, attends.owned owns⟩
      · cases added
  registered {userId id} entered := by
    rcases (attends.entered userId id).mp entered with before | ⟨_, here⟩
    · exact stay (known.registered before)
    · exact stay (attends.registered here)

/-- Histories are complete if and only if all users are listed rightly, as nothing is known of
those who are not registered. -/
theorem complete_iff (known : UsersKnown world)
    : HistoryComplete world ↔ ∀ userId, RowsListed world userId := by
  rw [historyComplete_iff]
  refine forall_congr' fun userId => ⟨fun listed => ?_, fun listed _ => listed⟩
  by_cases registered : world.gateway.db.references (some userId) = true
  · exact listed registered
  · have outside (id : Uuid) : ¬ world.tookPart userId id :=
      fun entered => registered (known.registered entered)
    have none : world.attendances userId = [] :=
      List.eq_nil_iff_forall_not_mem.mpr fun attendance listed =>
        outside attendance.1 (known.rows listed)
    constructor
    · rw [← attendances_starts, none]
      exact List.nodup_nil
    · intro id
      rw [← attendances_ids, none]
      exact iff_of_false List.not_mem_nil (outside id)

end Attendance

section Events

variable {runtime : Runtime} {world : World} {stimulus : Stimulus}

/-- The time at which a call started stays. -/
theorem startedAt_stays (runtime : Runtime) (stimulus : Stimulus) {id : Uuid}
    {session : CallSession}
    (found : world.session id = some session)
    : ∃ session',
        (world.after runtime stimulus).session id = some session'
        ∧ session'.startedAt = session.startedAt := by
  rcases after_of_row runtime stimulus found with ⟨_, same, _⟩ | ⟨update, _, written, _⟩
  · exact ⟨_, same, rfl⟩
  · exact ⟨_, written, rfl⟩

/-- A new call starts when it is created. -/
theorem startedAt_new {id : Uuid} (absent : world.session id = none)
    (present : ((world.after runtime stimulus).session id).isSome)
    : ∃ session,
        (world.after runtime stimulus).session id = some session
        ∧ session.startedAt = stimulus.now := by
  rcases after_of_none runtime stimulus absent with
    ⟨same, _⟩ | ⟨params, ⟨created, _⟩ | ⟨created, _⟩⟩
  · rw [same] at present
    cases present
  · exact ⟨_, created, rfl⟩
  · exact ⟨_, created, rfl⟩

/-- What a row tells does not change, and the rows that are added follow. -/
theorem attendances_after (seated : Seated world) (entries : EntriesKnown world)
    (rows : RowsKnown world) (userId : Uuid)
    : (world.after runtime stimulus).attendances userId
      = world.attendances userId
        ++ (world.gateway.enlists runtime stimulus.now stimulus.event).filterMap
            (fun entrant =>
              entrant.2.attendance (world.after runtime stimulus) userId) := by
  obtain ⟨change, amends, listed⟩ :=
    handle_enlists seated entries runtime stimulus.now stimulus.event
  change (world.after runtime stimulus).gateway.db.callParticipants = _ at listed
  rw [World.attendances, World.attendances, listed, List.filterMap_append, List.filterMap_map,
    List.filterMap_map]
  congr 1
  refine List.filterMap_congr fun row inside => ?_
  obtain ⟨session, found⟩ := Option.isSome_iff_exists.mp (rows.calls inside)
  obtain ⟨session', found', started⟩ :=
    startedAt_stays runtime stimulus found
  have call : (change row).callSessionId = row.callSessionId :=
    congrArg Prod.fst (amends.key row)
  have owner : (change row).userId = row.userId :=
    congrArg (fun key => key.2.1) (amends.key row)
  simp only [Function.comp_apply, CallParticipant.attendance, CallParticipant.record, call,
    owner]
  change Option.map _ (if _ then Option.map _ ((world.after runtime stimulus).session _) else _)
    = Option.map _ (if _ then Option.map _ (world.session _) else _)
  rw [call, found, found']
  split
  · simp [CallSessionRecord.startedAt, started]
  · rfl

/-- What happens by an event. -/
def World.occurrence (runtime : Runtime) (world : World) (stimulus : Stimulus) : Occurrence where
  event := stimulus.event
  user := stimulus.event.sender.bind world.userOf
  reply := (handle runtime stimulus.now world.gateway stimulus.event).reply
  outputs := (handle runtime stimulus.now world.gateway stimulus.event).outputs

/-- Who has taken part after an event. -/
theorem tookPart_after {userId id : Uuid}
    : (world.after runtime stimulus).tookPart userId id
      ↔ world.tookPart userId id
        ∨ (userId, id) ∈ (world.occurrence runtime stimulus).participants := by
  simp [World.tookPart, World.after, World.occurrence, or_and_right, exists_or]

/-- A join is heard as whom it matches. -/
theorem matchedUser_hears : HearsMatches Output.matchedUser := by
  intro output quiet
  unfold Output.matchedUser
  split
  · cases quiet
  · rfl

/-- When the reply to a `call:initiate` is no error. -/
theorem initiate_replies (now : Time) (gateway : Gateway) {socketId : SocketId}
    {data : InitiateData} {callId : Uuid}
    : (∃ reply,
        (SignalingGateway.onCallInitiate runtime now gateway socketId data callId).reply
          = .ok reply)
      ↔ gateway.initiates runtime socketId data callId = true := by
  rw [initiates_iff]
  unfold SignalingGateway.onCallInitiate
  cases found : gateway.sockets.lookup socketId with
  | none => simp [Outcome.refused]
  | some known =>
      cases resolved : SignalingGateway.resolveTarget runtime gateway.db data with
      | error failure => simp [Outcome.refused]
      | ok target =>
          have succeeds
              : (initiateCall now gateway.db callId (callerParams known data.callType)).result
                  = .ok ()
                ↔ _ :=
            initiateCall_ok_iff now gateway.db
          simp only [callerParams] at succeeds
          simp only [Option.some.injEq, Except.ok.injEq, exists_and_left, exists_eq_left',
            ← succeeds]
          split
          · next failed => simp [failed]
          · next succeeded => simp [succeeded]

/-- An event whose condition is that the row of `owner` and those who enter agree. -/
def Attended (runtime : Runtime) (world : World) (stimulus : Stimulus) : Prop :=
  ∃ callId startedAt owner enters,
    Attends world (world.after runtime stimulus) callId startedAt owner enters
    ∧ (keepsHistory runtime world stimulus = true
        ↔ (∀ userId,
              owner = some userId → startedAt ∉ (world.attendances userId).map Prod.snd)
          ∧ ∀ userId, enters userId → owner = some userId)

/-- The row of an entrant tells of the call as it is after the event. -/
theorem attendance_of_session {row : CallParticipant} {userId : Uuid} {session : CallSession}
    (found : (world.after runtime stimulus).session row.callSessionId = some session)
    : row.attendance (world.after runtime stimulus) userId
      = if row.userId = some userId then some (row.callSessionId, session.startedAt)
        else none := by
  unfold CallParticipant.attendance CallParticipant.record
  change Option.map _
      (if _ then Option.map _ ((world.after runtime stimulus).session row.callSessionId) else _)
    = _
  rw [found]
  split
  · rfl
  · rfl

theorem session_of_attendance {userId id : Uuid} {startedAt : Time}
    (listed : (id, startedAt) ∈ world.attendances userId)
    : (world.session id).isSome := by
  have inside : id ∈ (world.attendances userId).map Prod.fst :=
    List.mem_map.mpr ⟨_, listed, rfl⟩
  rw [attendances_ids] at inside
  obtain ⟨record, there, rfl⟩ := List.mem_map.mp inside
  obtain ⟨_, _, _, _, stored⟩ := mem_joined.mp there
  exact Option.isSome_iff_exists.mpr ⟨record.session, stored⟩

/-- The calls of the rows that are added exist after the event. -/
theorem present_of_enlists (runtime : Runtime) (stimulus : Stimulus) (seated : Seated world)
    (entries : EntriesKnown world) {added : List (SocketId × CallParticipant)}
    {entrant : SocketId × CallParticipant}
    (same : world.gateway.enlists runtime stimulus.now stimulus.event = added)
    (listed : entrant ∈ added)
    : ((world.after runtime stimulus).session entrant.2.callSessionId).isSome :=
  enlists_present seated entries (same ▸ listed)

/-- The second of a pair gets a row of theirs. -/
theorem secondParams_owner (now : Time) (a b : TimedEntry) (callId : Uuid)
    : (guestRow now callId (secondParams a b callId)).userId = b.userId := by
  cases user : b.userId with
  | none => simp [guestRow, secondParams, user]
  | some userId => simp [guestRow, secondParams, user]

/-- An event that adds no row, and by which nobody enters a call, meets its condition. -/
theorem idle_attended (seated : Seated world) (entries : EntriesKnown world)
    (rows : RowsKnown world)
    (added : world.gateway.enlists runtime stimulus.now stimulus.event = [])
    (nobody : (world.occurrence runtime stimulus).participants = [])
    (keeps : keepsHistory runtime world stimulus = true)
    : Attended runtime world stimulus := by
  refine ⟨0, 0, none, fun _ => False, ?_, ?_⟩
  · constructor
    case rows => simp [attendances_after seated entries rows, added]
    case entered => simp [tookPart_after, nobody]
    case owned => simp
    case rowless => simp
    case registered => simp
  · simp [keeps]

/-- An event by which one user enters a call and gets a row of it is to start it when none of
the user's calls has started. -/
theorem single_attended (seated : Seated world) (entries : EntriesKnown world)
    (rows : RowsKnown world) {socketId : SocketId} {row : CallParticipant} (userId : Uuid)
    {session : CallSession}
    (added : world.gateway.enlists runtime stimulus.now stimulus.event = [(socketId, row)])
    (owner : row.userId = some userId)
    (found : (world.after runtime stimulus).session row.callSessionId = some session)
    (entered
      : (world.occurrence runtime stimulus).participants = [(userId, row.callSessionId)])
    (registered : world.gateway.db.references (some userId) = true)
    (keeps
      : keepsHistory runtime world stimulus
        = !world.gateway.db.hasStarted userId session.startedAt)
    : Attended runtime world stimulus := by
  refine ⟨row.callSessionId, session.startedAt, some userId, fun other => other = userId, ?_, ?_⟩
  · constructor
    case rows =>
      intro other
      rw [attendances_after seated entries rows, added]
      by_cases same : userId = other
      · simp [attendance_of_session found, owner, same]
      · simp [attendance_of_session found, owner, same]
    case entered =>
      intro other id
      rw [tookPart_after, entered, List.mem_singleton, Prod.mk.injEq, and_comm]
    case owned => exact fun owns => (Option.some.inj owns).symm
    case rowless => exact fun same other => absurd (congrArg some same.symm) other
    case registered => exact fun same => same ▸ registered
  · rw [keeps, Bool.not_eq_true', ← Bool.not_eq_true, hasStarted_iff, ← attendances_starts]
    simp [eq_comm]

/-- By `call:initiate` the caller enters the new call. -/
theorem initiate_attended (seated : Seated world) (entries : EntriesKnown world)
    (rows : RowsKnown world) (actors : ActorsKnown world) {now : Time} {socketId : SocketId}
    {data : InitiateData} {callId : Uuid}
    : Attended runtime world ⟨now, .callInitiate socketId data callId⟩ := by
  by_cases initiates : world.gateway.initiates runtime socketId data callId = true
  · obtain ⟨known, target, found, resolved, absent, referenced⟩ :=
      (initiates_iff world.gateway).mp initiates
    obtain ⟨reply, replied⟩ := (initiate_replies now world.gateway).mpr initiates
    cases user : known.userId with
    | none =>
        simp only [SocketMeta.identity, user, Option.getD_none,
          (actors.anonymous found).2] at referenced
        cases referenced
    | some userId =>
        have sender : world.gateway.userOf socketId = some userId :=
          Option.bind_eq_some_iff.mpr ⟨known, found, user⟩
        have added
            : world.gateway.enlists runtime now (.callInitiate socketId data callId)
              = [(socketId, hostRow now callId (callerParams known data.callType))] := by
          simp [Gateway.enlists, initiates, found]
        have present :=
          present_of_enlists runtime ⟨now, .callInitiate socketId data callId⟩ seated entries
            added List.mem_cons_self
        obtain ⟨session, created, started⟩ := startedAt_new absent present
        refine single_attended seated entries rows userId added ?_ created ?_
          (seated.registered sender) ?_
        · simp [hostRow, callerParams, user, SocketMeta.identity]
        · change Occurrence.participants ⟨_, world.gateway.userOf socketId,
            (SignalingGateway.onCallInitiate runtime now world.gateway socketId data
              callId).reply, _⟩ = _
          rw [replied, sender]
          rfl
        · simp [keepsHistory, initiates, sender, started]
  · refine idle_attended seated entries rows (if_neg initiates) ?_ ?_
    · simp only [World.occurrence, Occurrence.participants, handle]
      cases replied
        : (SignalingGateway.onCallInitiate runtime now world.gateway socketId data
            callId).reply with
      | ok reply => exact absurd ((initiate_replies now world.gateway).mp ⟨_, replied⟩) initiates
      | error failure => rfl
    · simp [keepsHistory, initiates]

/-- By `call:accept` the user enters a call that may have started long ago. -/
theorem accept_attended (seated : Seated world) (entries : EntriesKnown world)
    (rows : RowsKnown world) {now : Time} {socketId : SocketId} {data : AcceptData}
    : Attended runtime world ⟨now, .callAccept socketId data⟩ := by
  by_cases accepts : world.gateway.accepts socketId data = true
  · obtain ⟨userId, id, user, unbarred, cast, present⟩ :=
      (gateway_accepts_iff world.gateway).mp accepts
    obtain ⟨reply, replied⟩ := accept_succeeds now (fun _ user => seated.registered user) accepts
    obtain ⟨session, found⟩ := Option.isSome_iff_exists.mp present
    obtain ⟨session', found', started⟩ :=
      startedAt_stays runtime ⟨now, .callAccept socketId data⟩ found
    have added
        : world.gateway.enlists runtime now (.callAccept socketId data)
          = [(socketId, guestRow now id (calleeParams data userId))] := by
      simp [Gateway.enlists, accepts, user, cast]
    refine single_attended seated entries rows userId added rfl found' ?_
      (seated.registered user) ?_
    · change Occurrence.participants ⟨_, world.gateway.userOf socketId,
        (SignalingGateway.onCallAccept now world.gateway socketId data).reply, _⟩ = _
      rw [replied, user]
      simp [Occurrence.participants, cast, guestRow]
    · simp [keepsHistory, accepts, user, Database.sessionNamed, cast, found, started]
  · refine idle_attended seated entries rows (if_neg accepts) ?_ ?_
    · simp only [World.occurrence, Occurrence.participants, handle]
      cases replied : (SignalingGateway.onCallAccept now world.gateway socketId data).reply with
      | ok reply =>
          obtain ⟨userId, id, accepted⟩ := accept_ok replied
          refine absurd ((gateway_accepts_iff world.gateway).mpr ?_) accepts
          exact ⟨userId, id, accepted.user, accepted.unbarred, accepted.cast, accepted.found⟩
      | error failure => rfl
    · simp [keepsHistory, accepts]

/-- Both users of a pair that are registered are heard of. -/
theorem mem_matched {a b : TimedEntry} {userId callId id : Uuid}
    : (userId, id)
        ∈ [b.userId, a.userId].filterMap
            (fun partner => partner.map (fun registered => (registered, callId)))
      ↔ id = callId ∧ (a.userId = some userId ∨ b.userId = some userId) := by
  simp only [List.mem_filterMap, List.mem_pair, Option.map_eq_some_iff, Prod.mk.injEq]
  constructor
  · rintro ⟨partner, one, _, user, rfl, rfl⟩
    rcases one with rfl | rfl
    · exact ⟨rfl, .inr user⟩
    · exact ⟨rfl, .inl user⟩
  · rintro ⟨rfl, user | user⟩
    · exact ⟨_, .inr rfl, userId, user, rfl, rfl⟩
    · exact ⟨_, .inl rfl, userId, user, rfl, rfl⟩

/-- Of the two rows of a pair, the host's tells nothing of any user, and the guest's of the
second of the two. -/
theorem pair_attendances {now : Time} {a b : TimedEntry} {callId userId : Uuid}
    {session : CallSession}
    (created : (world.after runtime stimulus).session callId = some session)
    : [
        (a.socketId, hostRow now callId (firstParams a b)),
        (b.socketId, guestRow now callId (secondParams a b callId))
      ].filterMap
        (fun entrant => entrant.2.attendance (world.after runtime stimulus) userId)
      = if b.userId = some userId then [(callId, session.startedAt)] else [] := by
  have host
      : (hostRow now callId (firstParams a b)).attendance (world.after runtime stimulus) userId
        = none :=
    attendance_of_session created
  have guest
      : (guestRow now callId (secondParams a b callId)).attendance
          (world.after runtime stimulus) userId
        = if b.userId = some userId then some (callId, session.startedAt) else none := by
    rw [attendance_of_session created, secondParams_owner]
    rfl
  simp only [List.filterMap_cons, List.filterMap_nil, host, guest]
  split_ifs
  · rfl
  · rfl

/-- When a pairing keeps the histories. -/
theorem pairing_keeps {now : Time} {socketId : SocketId} {preferredType : Option CallType}
    {callId : Uuid} {a b : TimedEntry}
    (paired : world.gateway.pairing now socketId preferredType = some (a, b))
    : keepsHistory runtime world ⟨now, .joinQueue socketId preferredType callId⟩ = true
      ↔ (∀ userId, b.userId = some userId → now ∉ (world.attendances userId).map Prod.snd)
        ∧ ∀ userId,
            a.userId = some userId ∨ b.userId = some userId → b.userId = some userId := by
  simp only [keepsHistory, paired, Option.all_some, Bool.and_eq_true, Bool.or_eq_true,
    decide_eq_true_eq, Option.all_eq_true, Bool.not_eq_true', ← Bool.not_eq_true,
    hasStarted_iff, attendances_starts]
  rw [and_comm]
  refine and_congr_right fun _ => ?_
  cases a.userId with
  | none => simp
  | some first =>
      simp only [Option.isNone_some, Bool.false_eq_true, false_or, Option.some.injEq]
      constructor
      · rintro same userId (rfl | user)
        · exact same.symm
        · exact user
      · exact fun all => (all first (.inl rfl)).symm

/-- By a pairing both users enter the new call, and the second gets a row of theirs. -/
theorem joinQueue_attended (seated : Seated world) (entries : EntriesKnown world)
    (rows : RowsKnown world) {now : Time} {socketId : SocketId}
    {preferredType : Option CallType} {callId : Uuid}
    (admitted : world.admits ⟨now, .joinQueue socketId preferredType callId⟩ = true)
    : Attended runtime world ⟨now, .joinQueue socketId preferredType callId⟩ := by
  cases paired : world.gateway.pairing now socketId preferredType with
  | none =>
      refine idle_attended seated entries rows ?_ ?_ ?_
      · simp [Gateway.enlists, paired]
      · exact joinQueue_unpaired now world.gateway callId matchedUser_hears paired
      · simp [keepsHistory, paired]
  | some pair =>
      obtain ⟨a, b⟩ := pair
      have absent : world.session callId = none := by
        by_contra present
        have drawn := rows.sessions (Option.isSome_iff_ne_none.mpr present)
        exact ActorsKnown.fresh admitted (by simp [Event.draws]) drawn
      obtain ⟨first, second⟩ := pairing_known seated entries paired
      obtain ⟨redis, _, told⟩ := joinQueue_pairs now world.gateway callId paired
      have added
          : world.gateway.enlists runtime now (.joinQueue socketId preferredType callId)
            = [
                (a.socketId, hostRow now callId (firstParams a b)),
                (b.socketId, guestRow now callId (secondParams a b callId))
              ] := by
        change world.gateway.db.callSessions.lookup callId = none at absent
        simp [Gateway.enlists, paired, absent]
      have present :=
        present_of_enlists runtime ⟨now, .joinQueue socketId preferredType callId⟩ seated entries
          added List.mem_cons_self
      obtain ⟨session, created, started⟩ := startedAt_new absent present
      have heard
          : (world.occurrence runtime
              ⟨now, .joinQueue socketId preferredType callId⟩).participants
            = [b.userId, a.userId].filterMap
                (fun partner => partner.map (fun registered => (registered, callId))) :=
        (told matchedUser_hears).trans
          (pairUsers_heard now { world.gateway with redis := redis } matchedUser_hears absent
            first second)
      refine ⟨callId, now, b.userId,
        fun userId => a.userId = some userId ∨ b.userId = some userId, ?_, pairing_keeps paired⟩
      constructor
      case rows =>
        intro userId
        rw [attendances_after seated entries rows, added, pair_attendances created, started]
      case entered =>
        intro userId id
        rw [tookPart_after, heard, mem_matched]
      case owned => exact .inr
      case rowless =>
        intro userId _ _ time listed
        exact Option.isSome_iff_ne_none.mp (session_of_attendance listed) absent
      case registered =>
        rintro userId (user | user)
        · exact user ▸ first
        · exact user ▸ second

/-- Every event meets its condition. -/
theorem attended (seated : Seated world) (entries : EntriesKnown world) (rows : RowsKnown world)
    (actors : ActorsKnown world) (admitted : world.admits stimulus = true)
    : Attended runtime world stimulus := by
  obtain ⟨now, event⟩ := stimulus
  cases event with
  | callInitiate _ _ _ => exact initiate_attended seated entries rows actors
  | callAccept _ _ => exact accept_attended seated entries rows
  | joinQueue _ _ _ => exact joinQueue_attended seated entries rows admitted
  | _ => exact idle_attended seated entries rows rfl rfl rfl

end Events

/-- What holds in every reachable state, whether or not histories are complete. -/
structure HistoryKnown (world : World) : Prop where
  seated : Seated world
  entries : EntriesKnown world
  rows : RowsKnown world
  actors : ActorsKnown world
  users : UsersKnown world

/-- At the start there are no rows, and nobody has entered a call. -/
theorem rowsListed_start (userId : Uuid) : RowsListed .start userId where
  distinct := List.nodup_nil
  entered id := by simp [joined, World.start, Gateway.empty, World.tookPart]

theorem HistoryKnown.start : HistoryKnown .start where
  seated := seated_start
  entries := QueueStore.All.empty
  rows := rowsKnown_start
  actors := .start
  users := {
    rows := fun listed => by simp [World.attendances, World.start, Gateway.empty] at listed
    registered := fun entered => by simp [World.tookPart, World.start] at entered
  }

section Runs

variable {runtime : Runtime} {world : World} {stimulus : Stimulus}

theorem HistoryKnown.attended (runtime : Runtime) (known : HistoryKnown world)
    (admitted : world.admits stimulus = true)
    : Attended runtime world stimulus :=
  Signaling.attended known.seated known.entries known.rows known.actors admitted

theorem HistoryKnown.step (known : HistoryKnown world) (admitted : world.admits stimulus = true)
    : HistoryKnown (world.after runtime stimulus) where
  seated := known.seated.step admitted
  entries := known.entries.step known.seated
  rows := known.rows.step known.seated known.entries
  actors := known.actors.step admitted
  users := by
    obtain ⟨_, _, _, _, attends, _⟩ := known.attended runtime admitted
    exact attends.known known.users fun registered =>
      (ActorsKnown.references_iff _).mpr (.inl registered)

end Runs

/-- In every run, the pages of every registered user's history list every call that they have
entered once, the newest first, throughout exactly if nobody initiates, accepts or is the second
of a pair in a call that started when another of their calls did, that call itself included, and
the first of every pair is anonymous or the same user. -/
theorem history_complete {runtime : Runtime} {actions : List Stimulus} {world : World}
    (run : (gatewayMachine runtime).Reaches actions world)
    : (gatewayMachine runtime).Throughout HistoryComplete .start actions
      ↔ (gatewayMachine runtime).Along
          (fun before stimulus => keepsHistory runtime before stimulus = true) .start
          actions := by
  have start : HistoryComplete .start :=
    (complete_iff HistoryKnown.start.users).mpr rowsListed_start
  refine Machine.throughout_iff_along _ HistoryKnown ?_ ?_ .start start run
  · intro before stimulus after known taken
    obtain ⟨admitted, rfl⟩ := step_eq_some.mp taken
    exact known.step admitted
  · intro before stimulus after known complete taken
    obtain ⟨admitted, rfl⟩ := step_eq_some.mp taken
    have known' : HistoryKnown (before.after runtime stimulus) := known.step admitted
    obtain ⟨_, _, _, _, attends, keeps⟩ := known.attended runtime admitted
    rw [complete_iff known'.users, keeps]
    exact attends.listed_iff ((complete_iff known.users).mp complete)

/-- A call is placed and accepted, and the callee is paired with a visitor who has waited. -/
def calleeMatched : List Stimulus :=
  ringing
    ++ [
      ⟨2, .callAccept 12 ⟨.uuid 201, .video⟩⟩,
      ⟨3, .connect 13 none 103⟩,
      ⟨1000, .joinQueue 13 none 202⟩,
      ⟨2000, .joinQueue 12 none 203⟩
    ]

/-- All histories are complete in that run. -/
theorem history_complete_matched
    : (gatewayMachine plainRuntime).Throughout HistoryComplete .start calleeMatched := by
  have run
      : (gatewayMachine plainRuntime).Reaches calleeMatched (worldAfter calleeMatched) :=
    rfl
  exact (history_complete run).mpr (by decide)

/-- A registered user has waited and is paired with a visitor. -/
def userMatched : List Stimulus := userWaits ++ [⟨2000, .joinQueue 12 none 202⟩]

/-- The callee accepts a call twice. -/
def acceptsTwice : List Stimulus :=
  ringing
    ++ [⟨2, .callAccept 12 ⟨.uuid 201, .video⟩⟩, ⟨3, .callAccept 12 ⟨.uuid 201, .video⟩⟩]

/-- The history of the registered user, who has entered the call, is empty; and that of the
callee has the call twice. -/
theorem history_incomplete
    : ((gatewayMachine plainRuntime).Reaches userMatched (worldAfter userMatched)
        ∧ (worldAfter userMatched).gateway.db.references (some 1) = true
        ∧ (worldAfter userMatched).tookPart 1 202
        ∧ joined (worldAfter userMatched).gateway.db 1 = []
        ∧ ¬ HistoryComplete (worldAfter userMatched))
      ∧ (gatewayMachine plainRuntime).Reaches acceptsTwice (worldAfter acceptsTwice)
      ∧ (worldAfter acceptsTwice).gateway.db.references (some 2) = true
      ∧ (joined (worldAfter acceptsTwice).gateway.db 2).map CallSessionRecord.id = [201, 201]
      ∧ ¬ HistoryComplete (worldAfter acceptsTwice) := by
  have empty : joined (worldAfter userMatched).gateway.db 1 = [] := by decide
  have twice
      : (joined (worldAfter acceptsTwice).gateway.db 2).map CallSessionRecord.startedAt
        = [1, 1] := by
    decide
  have entered : (worldAfter userMatched).tookPart 1 202 := by
    unfold World.tookPart
    decide
  refine ⟨⟨rfl, by decide, entered, empty, fun complete => ?_⟩, rfl, by decide, by decide,
    fun complete => ?_⟩
  · have listed := historyComplete_iff.mp complete 1 (by decide)
    have missing := (listed.entered 202).mpr entered
    rw [empty] at missing
    cases missing
  · have listed := historyComplete_iff.mp complete 2 (by decide)
    have distinct := listed.distinct
    rw [twice] at distinct
    revert distinct
    decide

end NexusComms.Signaling
