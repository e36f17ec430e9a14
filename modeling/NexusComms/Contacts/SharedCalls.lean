import NexusComms.Contacts.Handshake
import NexusComms.Signaling.Participants

/-! The gateway and the controllers of contacts, on one database: the gateway adds the rows of
`contact_save_requests` that the controllers accept or reject. Whether a contact comes from a
shared call is decided where the request is added, and nothing is checked there.
-/

namespace NexusComms.Contacts

open Concurrency Program
open Signaling (World Stimulus Runtime Database CallParticipant Seated EntriesKnown RowsKnown)

/-- The user has a row of the call, with the user's id in this column. -/
def participates (column : CallParticipant → Option Uuid) (db : Database)
    (callId userId : Uuid)
    : Bool :=
  db.callParticipants.any
    (fun row => decide (row.callSessionId = callId) && decide (column row = some userId))

/-- The id in either of the two columns of the user. -/
def eitherId (row : CallParticipant) : Option Uuid := row.userId <|> row.anonymousId

/-- The gateway, and the calls of `ContactsService` that the controllers make. -/
structure Platform where
  world : World
  calls : Pool Tables Call

/-- An event of the gateway, a statement of `acceptContactSave` or `rejectContactSave`, or one
of the other two mutations of `ContactsController`. -/
inductive Operation where
  | event (stimulus : Stimulus)
  | call (move : Move Call Drawn)
  | updateNickname (ownerId contactId : Uuid) (nickname : String)
  | removeContact (ownerId contactId : Uuid)

/-- A row that the gateway has added, as the controllers see it. -/
def received (now : Time) (row : Signaling.ContactSaveRequest) : ContactSaveRequest :=
  ⟨row.id, row.callSessionId, row.fromUserId, row.toUserId, .pending, now, none⟩

namespace Tables

/-- The rows that the gateway has added are in the table. -/
def receive (tables : Tables) (now : Time) (rows : List Signaling.ContactSaveRequest)
    : Tables :=
  { tables with requests := tables.requests ++ rows.map (received now) }

end Tables

/-- The calls that controllers make: requests come from the gateway. -/
def Call.overRest : Call → Bool
  | .requestContactSave _ _ _ _ => false
  | .acceptContactSave _ _ _ | .rejectContactSave _ _ _ => true

namespace Platform

def start : Platform := ⟨.start, ⟨.empty, []⟩⟩

/-- The rows that the gateway has added between two of its states. -/
def added (before after : World) : List Signaling.ContactSaveRequest :=
  after.gateway.db.contactSaveRequests.drop before.gateway.db.contactSaveRequests.length

def step (runtime : Runtime) (platform : Platform) : Operation → Option Platform
  | .event stimulus =>
      (platform.world.step runtime stimulus).map
        (fun world =>
          {
            world := world
            calls := {
              platform.calls with
              shared :=
                platform.calls.shared.receive stimulus.now (added platform.world world)
            }
          })
  | .call (.start call) =>
      if call.overRest then
        (contactsProgram.move platform.calls (.start call)).map
          (fun calls => { platform with calls := calls })
      else
        none
  | .call (.step index drawn) =>
      (contactsProgram.move platform.calls (.step index drawn)).map
        (fun calls => { platform with calls := calls })
  | .updateNickname ownerId contactId nickname =>
      some {
        platform with
        calls := {
          platform.calls with
          shared :=
            ContactsService.updateNickname platform.calls.shared ownerId contactId nickname
        }
      }
  | .removeContact ownerId contactId =>
      some {
        platform with
        calls := {
          platform.calls with
          shared := ContactsService.removeContact platform.calls.shared ownerId contactId
        }
      }

end Platform

/-- Every run of the gateway and the controllers. -/
abbrev platformMachine (runtime : Runtime) : Machine Platform Operation where
  init := .start
  step := Platform.step runtime

/-- Every request row is between two participants of its call, and every contact links two
participants of one call. -/
structure SharedCalls (column : CallParticipant → Option Uuid) (platform : Platform) : Prop where
  requests
    : ∀ row ∈ platform.calls.shared.requests,
        ∀ userId ∈ [row.fromUserId, row.toUserId],
          participates column platform.world.gateway.db row.callSessionId userId = true
  contacts
    : ∀ owner contact,
        platform.calls.shared.Linked owner contact →
          ∃ callId, ∀ userId ∈ [owner, contact],
            participates column platform.world.gateway.db callId userId = true

/-- A `contact:request-save` that adds a row comes from a participant of its call, and names
one. -/
def betweenParticipants (column : CallParticipant → Option Uuid) (platform : Platform)
    : Operation → Bool
  | .event stimulus =>
      (platform.world.gateway.requests stimulus.event).all
        (fun row =>
          [row.fromUserId, row.toUserId].all
            (participates column platform.world.gateway.db row.callSessionId))
  | _ => true

-----------------------------------------------------------------------------------------
-- Participants
-----------------------------------------------------------------------------------------

section Participation

variable {column : CallParticipant → Option Uuid} {runtime : Runtime} {world : World}
  {stimulus : Stimulus} {callId userId : Uuid}

/-- A column that an UPDATE cannot change. -/
def Identifies (column : CallParticipant → Option Uuid) : Prop :=
  ∀ row other, row.key = other.key → column row = column other

theorem identifies_userId : Identifies CallParticipant.userId :=
  fun _ _ same => congrArg (fun key => key.2.1) same

theorem identifies_eitherId : Identifies eitherId := by
  intro row other same
  have userId : row.userId = other.userId := congrArg (fun key => key.2.1) same
  have anonymousId : row.anonymousId = other.anonymousId :=
    congrArg (fun key => key.2.2.1) same
  simp only [eitherId, userId, anonymousId]

theorem participates_iff {db : Database}
    : participates column db callId userId = true
      ↔ ∃ row ∈ db.callParticipants, row.callSessionId = callId ∧ column row = some userId := by
  simp [participates]

/-- Who participates after an event has done so before, or the event has added the row. -/
theorem participates_after (identifies : Identifies column) (seated : Seated world)
    (entries : EntriesKnown world)
    : participates column (world.after runtime stimulus).gateway.db callId userId = true
      ↔ participates column world.gateway.db callId userId = true
        ∨ ∃ entrant ∈ world.gateway.enlists runtime stimulus.now stimulus.event,
            entrant.2.callSessionId = callId ∧ column entrant.2 = some userId := by
  have enlists := Signaling.handle_enlists seated entries runtime stimulus.now stimulus.event
  rw [participates_iff, participates_iff]
  constructor
  · rintro ⟨row, listed, call, named⟩
    rcases enlists.cases listed with ⟨earlier, before, same, _⟩ | new
    · refine .inl ⟨earlier, before, ?_, (identifies _ _ same).trans named⟩
      exact (congrArg Prod.fst same).trans call
    · obtain ⟨entrant, added, rfl⟩ := List.mem_map.mp new
      exact .inr ⟨entrant, added, call, named⟩
  · obtain ⟨change, amends, same⟩ := enlists
    change (world.after runtime stimulus).gateway.db.callParticipants = _ at same
    rw [same]
    rintro (⟨row, before, call, named⟩ | ⟨entrant, added, call, named⟩)
    · refine ⟨change row, List.mem_append_left _ (List.mem_map_of_mem before), ?_, ?_⟩
      · exact (congrArg Prod.fst (amends.key row)).trans call
      · exact (identifies _ _ (amends.key row)).trans named
    · exact ⟨entrant.2, List.mem_append_right _ (List.mem_map_of_mem added), call, named⟩

end Participation

-----------------------------------------------------------------------------------------
-- The tables
-----------------------------------------------------------------------------------------

/-- What identifies a row that the gateway has added. -/
def identity (row : Signaling.ContactSaveRequest) : Uuid × Uuid × Uuid × Uuid :=
  (row.id, row.callSessionId, row.fromUserId, row.toUserId)

section Statements

variable {tables tables' : Tables} {call call' : Call} {drawn : Drawn}

/-- The calls that controllers make change no identity of a request. -/
theorem overRest_identities (rest : call.overRest = true)
    (ran : call.step drawn tables = some (tables', call'))
    : call'.overRest = true
      ∧ tables'.requests.map ContactSaveRequest.identity
        = tables.requests.map ContactSaveRequest.identity := by
  cases call with
  | requestContactSave callSessionId fromUserId toUserId stage => cases rest
  | acceptContactSave requestId acceptorId stage =>
      obtain ⟨⟨_, _⟩, stepped, same⟩ := Option.map_eq_some_iff.mp ran
      cases same
      refine ⟨rfl, ?_⟩
      cases stage with
      | update =>
          simp only [ContactsService.acceptContactSave] at stepped
          split at stepped
          · cases stepped
            exact resolve_identities _ _ _ _
          · cases stepped
            exact resolve_identities _ _ _ _
      | insert fromUserId toUserId =>
          obtain ⟨after, inserted, same⟩ := Option.map_eq_some_iff.mp stepped
          obtain ⟨middle, forth, back⟩ := Option.bind_eq_some_iff.mp inserted
          cases same
          rw [(insertContact_some back).1, (insertContact_some forth).1]
      | audit fromUserId toUserId =>
          cases stepped
          rfl
      | returned saved => cases stepped
  | rejectContactSave requestId userId stage =>
      obtain ⟨⟨_, _⟩, stepped, same⟩ := Option.map_eq_some_iff.mp ran
      cases same
      refine ⟨rfl, ?_⟩
      cases stage with
      | update =>
          cases stepped
          exact resolve_identities _ _ _ _
      | audit =>
          cases stepped
          rfl
      | returned => cases stepped

/-- Calls know about requests only. -/
theorem Call.Knows.of_requests (knows : call.Knows tables)
    (same : tables'.requests = tables.requests)
    : call.Knows tables' := by
  have grows : Grows tables { tables' with contacts := tables.contacts } := .of_eq same rfl
  have framed : call.Knows { tables' with contacts := tables.contacts } := knows.frame grows
  exact framed

/-- Contacts that are fewer or renamed come from the same handshakes. -/
theorem Wellformed.of_contacts (wellformed : Wellformed tables)
    (same : tables'.requests = tables.requests)
    (fewer : (tables'.contacts.map ContactRecord.pair).Sublist
      (tables.contacts.map ContactRecord.pair))
    : Wellformed tables' where
  ids := same ▸ wellformed.ids
  triples := same ▸ wellformed.triples
  pairs := wellformed.pairs.sublist fewer
  linked := by
    intro owner contact linked
    have handshakes : tables'.Accepted = tables.Accepted := by
      funext first second
      rw [Tables.Accepted, Tables.Accepted, same]
    rw [handshakes]
    exact wellformed.linked owner contact (fewer.subset linked)

/-- A new name changes no pair. -/
theorem updateNickname_pairs (tables : Tables) (ownerId contactId : Uuid) (nickname : String)
    : (ContactsService.updateNickname tables ownerId contactId nickname).contacts.map
          ContactRecord.pair
      = tables.contacts.map ContactRecord.pair := by
  simp only [ContactsService.updateNickname, List.map_map]
  refine List.map_congr_left (fun row _ => ?_)
  simp only [Function.comp_apply]
  split
  · rfl
  · rfl

end Statements

-----------------------------------------------------------------------------------------
-- Steps
-----------------------------------------------------------------------------------------

/-- What holds in every reachable state: the two components keep their invariants, and the
requests of the controllers are those that the gateway has added. -/
structure PlatformKnown (platform : Platform) : Prop where
  seated : Seated platform.world
  entries : EntriesKnown platform.world
  rows : RowsKnown platform.world
  drawn
    : ∀ row ∈ platform.world.gateway.db.contactSaveRequests, row.id ∈ platform.world.drawn
  same
    : platform.calls.shared.requests.map ContactSaveRequest.identity
      = platform.world.gateway.db.contactSaveRequests.map identity
  overRest : ∀ call ∈ platform.calls.threads, call.overRest = true
  holds : Holds Wellformed CallHolds platform.calls

theorem platformKnown_start : PlatformKnown .start where
  seated := Signaling.seated_start
  entries := Matchmaking.QueueStore.All.empty
  rows := Signaling.rowsKnown_start
  drawn row listed := by cases listed
  same := rfl
  overRest call started := by cases started
  holds := by
    refine ⟨⟨.nil, .nil, .nil, fun owner contact linked => ?_⟩, fun index call started => ?_⟩
    · cases linked
    · cases started

section Steps

variable {column : CallParticipant → Option Uuid} {runtime : Runtime}
  {platform next : Platform} {operation : Operation}

/-- The rows that an event of the gateway adds. -/
theorem added_after (seated : Seated platform.world) (stimulus : Stimulus)
    : Platform.added platform.world (platform.world.after runtime stimulus)
      = platform.world.gateway.requests stimulus.event := by
  have requests := Signaling.handle_requests stimulus.now seated runtime stimulus.event
  change (platform.world.after runtime stimulus).gateway.db.contactSaveRequests = _ at requests
  rw [Platform.added, requests, List.drop_left]

/-- Rows with new keys keep the tables wellformed, and what the calls know. -/
theorem receive_holds (known : PlatformKnown platform) {stimulus : Stimulus}
    (admitted : platform.world.admits stimulus = true)
    : Holds Wellformed CallHolds
        {
          platform.calls with
          shared :=
            platform.calls.shared.receive stimulus.now
              (platform.world.gateway.requests stimulus.event)
        } := by
  obtain ⟨wellformed, knows⟩ := known.holds
  rcases Signaling.requests_cases platform.world.gateway stimulus.event with
    nothing | ⟨row, new, draws, fresh, _⟩
  · have same
        : platform.calls.shared.receive stimulus.now
            (platform.world.gateway.requests stimulus.event)
          = platform.calls.shared := by
      simp [Tables.receive, nothing]
    rw [same]
    exact ⟨wellformed, knows⟩
  · have requests
        : (platform.calls.shared.receive stimulus.now
            (platform.world.gateway.requests stimulus.event)).requests
          = platform.calls.shared.requests ++ [received stimulus.now row] := by
      simp [Tables.receive, new]
    have listed {old : ContactSaveRequest} (member : old ∈ platform.calls.shared.requests)
        : ∃ other ∈ platform.world.gateway.db.contactSaveRequests,
            identity other = old.identity := by
      have there := List.mem_map_of_mem (f := ContactSaveRequest.identity) member
      rw [known.same] at there
      exact List.mem_map.mp there
    refine ⟨wellformed.insert (received stimulus.now row) ?_ ?_ requests rfl,
      fun index call started => (knows index call started).frame (.of_insert requests rfl)⟩
    · intro used
      obtain ⟨old, member, sameId⟩ := List.mem_map.mp used
      obtain ⟨other, there, same⟩ := listed member
      have drawn := known.drawn other there
      have otherId : other.id = row.id := (congrArg Prod.fst same).trans sameId
      rw [otherId] at drawn
      exact Signaling.ActorsKnown.fresh admitted (by simp [draws]) drawn
    · intro used
      obtain ⟨old, member, sameTriple⟩ := List.mem_map.mp used
      obtain ⟨other, there, same⟩ := listed member
      have triple : (other.callSessionId, other.fromUserId, other.toUserId)
          = (row.callSessionId, row.fromUserId, row.toUserId) :=
        (congrArg Prod.snd same).trans sameTriple
      simp only [Prod.mk.injEq] at triple
      exact fresh other there triple

/-- A statement of a call of a controller keeps its pool valid, and the identities of all
requests. -/
theorem PlatformKnown.move (known : PlatformKnown platform) {move : Move Call Drawn}
    {calls : Pool Tables Call} (rest : ∀ call, move = .start call → call.overRest = true)
    (moved : contactsProgram.move platform.calls move = some calls)
    : PlatformKnown { platform with calls := calls } := by
  have holds := contacts_outline.move known.holds moved
  cases move with
  | start call =>
      obtain ⟨started, threads⟩ := contactsProgram.move_start_some moved
      have still : calls.shared = platform.calls.shared := (call_start started).1
      refine { known with same := by rw [still, known.same], overRest := ?_, holds := holds }
      intro other member
      rw [threads] at member
      rcases List.mem_append.mp member with earlier | new
      · exact known.overRest other earlier
      · rw [List.mem_singleton.mp new]
        exact rest call rfl
  | step index drawn =>
      obtain ⟨call, call', found, ran, threads⟩ := contactsProgram.move_step_some moved
      obtain ⟨rest', identities⟩ :=
        overRest_identities (known.overRest call (List.mem_of_getElem? found)) ran
      refine {
        known with
        same := identities.trans known.same
        overRest := ?_
        holds := holds
      }
      intro other member
      rw [threads] at member
      rcases List.mem_or_eq_of_mem_set member with earlier | rfl
      · exact known.overRest other earlier
      · exact rest'

/-- A step of the controllers' calls. -/
theorem call_cases {move : Move Call Drawn}
    (taken : platform.step runtime (.call move) = some next)
    : (∀ call, move = .start call → call.overRest = true)
      ∧ ∃ calls,
          contactsProgram.move platform.calls move = some calls
          ∧ next = { platform with calls := calls } := by
  cases move with
  | start call =>
      simp only [Platform.step] at taken
      split at taken
      · next rest =>
          obtain ⟨calls, moved, rfl⟩ := Option.map_eq_some_iff.mp taken
          refine ⟨fun other same => ?_, calls, moved, rfl⟩
          cases same
          exact rest
      · cases taken
  | step index drawn =>
      obtain ⟨calls, moved, rfl⟩ := Option.map_eq_some_iff.mp taken
      exact ⟨fun other same => (by cases same), calls, moved, rfl⟩

/-- Every step keeps the invariants. -/
theorem PlatformKnown.step (known : PlatformKnown platform)
    (taken : platform.step runtime operation = some next)
    : PlatformKnown next := by
  cases operation with
  | event stimulus =>
      obtain ⟨world, stepped, rfl⟩ := Option.map_eq_some_iff.mp taken
      obtain ⟨admitted, rfl⟩ := Signaling.step_eq_some.mp stepped
      have requests := Signaling.handle_requests stimulus.now known.seated runtime stimulus.event
      change (platform.world.after runtime stimulus).gateway.db.contactSaveRequests = _
        at requests
      rw [added_after known.seated]
      exact {
        seated := known.seated.step admitted
        entries := known.entries.step known.seated
        rows := known.rows.step known.seated known.entries
        drawn := by
          intro row listed
          rw [requests] at listed
          change row.id ∈ stimulus.event.draws ++ platform.world.drawn
          rcases List.mem_append.mp listed with before | new
          · exact List.mem_append_right _ (known.drawn row before)
          · rcases Signaling.requests_cases platform.world.gateway stimulus.event with
              nothing | ⟨only, added, draws, _⟩
            · rw [nothing] at new
              cases new
            · rw [added] at new
              rw [List.mem_singleton.mp new, draws]
              exact List.mem_cons_self
        same := by
          rw [requests, List.map_append, ← known.same]
          simp only [Tables.receive, List.map_append, List.map_map]
          rfl
        overRest := known.overRest
        holds := receive_holds known admitted
      }
  | call move =>
      obtain ⟨rest, calls, moved, rfl⟩ := call_cases taken
      exact known.move rest moved
  | updateNickname ownerId contactId nickname =>
      cases taken
      exact {
        known with
        holds := ⟨known.holds.1.of_contacts rfl (by rw [updateNickname_pairs]),
          fun index call started => (known.holds.2 index call started).of_requests rfl⟩
      }
  | removeContact ownerId contactId =>
      cases taken
      exact {
        known with
        holds := ⟨known.holds.1.of_contacts rfl (List.filter_sublist.map _),
          fun index call started => (known.holds.2 index call started).of_requests rfl⟩
      }

/-- Contacts come from accepted requests, so they link participants of one call if requests
do. -/
theorem sharedCalls_of_requests (known : PlatformKnown platform)
    (requests
      : ∀ row ∈ platform.calls.shared.requests,
          ∀ userId ∈ [row.fromUserId, row.toUserId],
            participates column platform.world.gateway.db row.callSessionId userId = true)
    : SharedCalls column platform where
  requests := requests
  contacts := by
    intro owner contact linked
    rcases known.holds.1.linked owner contact linked with
      ⟨row, listed, _, rfl, rfl⟩ | ⟨row, listed, _, rfl, rfl⟩
    · exact ⟨row.callSessionId, requests row listed⟩
    · refine ⟨row.callSessionId, fun userId either => requests row listed userId ?_⟩
      rcases List.mem_pair.mp either with rfl | rfl
      · simp
      · simp

/-- A step that starts from shared calls keeps them exactly if a request that it adds is
between participants. -/
theorem sharedCalls_iff (identifies : Identifies column) (known : PlatformKnown platform)
    (shared : SharedCalls column platform)
    (taken : platform.step runtime operation = some next)
    : SharedCalls column next ↔ betweenParticipants column platform operation = true := by
  have known' := known.step taken
  cases operation with
  | event stimulus =>
      obtain ⟨world, stepped, rfl⟩ := Option.map_eq_some_iff.mp taken
      obtain ⟨_, rfl⟩ := Signaling.step_eq_some.mp stepped
      rw [added_after known.seated] at known' ⊢
      simp only [betweenParticipants, List.all_eq_true]
      constructor
      · intro after row new userId either
        have listed
            : received stimulus.now row
              ∈ (platform.calls.shared.receive stimulus.now
                  (platform.world.gateway.requests stimulus.event)).requests :=
          List.mem_append_right _ (List.mem_map_of_mem new)
        have there := after.requests _ listed userId either
        rcases (participates_after identifies known.seated known.entries).mp there with
          before | ⟨entrant, entered, _⟩
        · exact before
        · rcases Signaling.requests_cases platform.world.gateway stimulus.event with
            nothing | ⟨_, _, _, _, nobody⟩
          · rw [nothing] at new
            cases new
          · rw [nobody] at entered
            cases entered
      · intro between
        refine sharedCalls_of_requests known' fun row listed userId either => ?_
        refine (participates_after identifies known.seated known.entries).mpr (.inl ?_)
        rcases List.mem_append.mp listed with before | new
        · exact shared.requests row before userId either
        · obtain ⟨origin, added, rfl⟩ := List.mem_map.mp new
          exact between origin added userId either
  | call move =>
      obtain ⟨rest, calls, moved, rfl⟩ := call_cases taken
      refine iff_of_true (sharedCalls_of_requests known' fun row listed userId either => ?_) rfl
      have there := List.mem_map_of_mem (f := ContactSaveRequest.identity) listed
      rw [known'.same, ← known.same] at there
      obtain ⟨old, before, same⟩ := List.mem_map.mp there
      have call : old.callSessionId = row.callSessionId := congrArg (fun key => key.2.1) same
      have sender : old.fromUserId = row.fromUserId := congrArg (fun key => key.2.2.1) same
      have addressee : old.toUserId = row.toUserId := congrArg (fun key => key.2.2.2) same
      rw [← call]
      exact shared.requests old before userId (by rwa [sender, addressee])
  | updateNickname ownerId contactId nickname =>
      cases taken
      exact iff_of_true (sharedCalls_of_requests known' shared.requests) rfl
  | removeContact ownerId contactId =>
      cases taken
      exact iff_of_true (sharedCalls_of_requests known' shared.requests) rfl

/-- In every run of gateway and controllers, all requests are between participants of their
calls, and all contacts link participants of one call, exactly if this is so of every request
when it is added. Who participates may be read from `user_id`, or from either column. -/
theorem requests_from_shared_calls {operations : List Operation} {platform : Platform}
    (run : (platformMachine runtime).Reaches operations platform)
    : ∀ column ∈ [CallParticipant.userId, eitherId],
        (platformMachine runtime).Throughout (SharedCalls column) .start operations
        ↔ (platformMachine runtime).Along
            (fun before operation => betweenParticipants column before operation = true) .start
            operations := by
  intro column either
  have identifies : Identifies column := by
    rcases List.mem_pair.mp either with rfl | rfl
    · exact identifies_userId
    · exact identifies_eitherId
  have nothing : SharedCalls column .start :=
    sharedCalls_of_requests platformKnown_start (fun row listed => by cases listed)
  refine Machine.throughout_iff_along _ PlatformKnown ?_ ?_ platformKnown_start nothing run
  · intro before operation after known taken
    exact known.step taken
  · intro before operation after known shared taken
    exact sharedCalls_iff identifies known shared taken

end Steps

/-- The platform after a run. -/
def platformAfter (operations : List Operation) : Platform :=
  ((platformMachine Signaling.plainRuntime).exec .start operations).getD .start

/-- A call is accepted. -/
def answeredCall : List Operation :=
  Signaling.ringing.map Operation.event ++ [.event ⟨2, .callAccept 12 ⟨.uuid 201, .video⟩⟩]

/-- A controller runs `acceptContactSave` to its end. -/
def accepted (requestId acceptorId : Uuid) : List Operation := [
  .call (.start (.acceptContactSave requestId acceptorId .update)),
  .call (.step 0 ⟨4, 0, 0⟩),
  .call (.step 0 ⟨4, 401, 402⟩),
  .call (.step 0 ⟨4, 0, 0⟩)
]

/-- The caller asks the callee, who accepts. -/
def partiesSave : List Operation :=
  answeredCall
    ++ [.event ⟨3, .requestContactSave 11 ⟨.uuid 201, .uuid 2⟩ 301⟩] ++ accepted 301 2

/-- Their contact comes from their call. -/
theorem parties_share_call
    : (platformMachine Signaling.plainRuntime).Throughout (SharedCalls CallParticipant.userId)
        .start partiesSave := by
  have run
      : (platformMachine Signaling.plainRuntime).Reaches partiesSave
          (platformAfter partiesSave) :=
    rfl
  exact (requests_from_shared_calls run CallParticipant.userId (by simp)).mpr (by decide)

/-- A user who has been in no call asks the caller, who accepts. -/
def strangerSaves : List Operation :=
  answeredCall
    ++ [
      .event ⟨3, .register 3 "stranger@example.org"⟩,
      .event ⟨3, .connect 13 (some 3) 103⟩,
      .event ⟨3, .requestContactSave 13 ⟨.uuid 201, .uuid 1⟩ 301⟩
    ]
    ++ accepted 301 1

/-- The two have each other as contacts, and no row of any call names the stranger. -/
theorem stranger_saved
    : (platformMachine Signaling.plainRuntime).Reaches strangerSaves
        (platformAfter strangerSaves)
      ∧ (platformAfter strangerSaves).calls.shared.Linked 3 1
      ∧ (platformAfter strangerSaves).calls.shared.Linked 1 3
      ∧ (∀ row ∈ (platformAfter strangerSaves).world.gateway.db.callParticipants,
          eitherId row ≠ some 3)
      ∧ ∀ column ∈ [CallParticipant.userId, eitherId],
          ¬ SharedCalls column (platformAfter strangerSaves) := by
  have linked
      : ∀ pair ∈ [(3, 1), (1, 3)],
          pair ∈ (platformAfter strangerSaves).calls.shared.contacts.map ContactRecord.pair := by
    decide
  refine ⟨rfl, linked _ (by simp), linked _ (by simp), by decide,
    fun column either shared => ?_⟩
  have asked
      : ⟨301, 201, 3, 1, .accepted, 3, some 4⟩
        ∈ (platformAfter strangerSaves).calls.shared.requests := by
    decide
  have participant := shared.requests _ asked 3 (by simp)
  rcases List.mem_pair.mp either with rfl | rfl
  · revert participant
    decide
  · revert participant
    decide

end NexusComms.Contacts
