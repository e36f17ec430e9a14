import NexusComms.Http.Mutations

/-! Whether requests that change something carry a CSRF token. `CsrfGuard` decides just that from
the table of tokens, but it is mounted nowhere, so every handler runs with or without one.
-/

namespace NexusComms.Http

open Concurrency Program Storage LockedTable
open Contacts (ContactRecord ContactSaveRequest RequestStatus Tables)
open Sessions (Digest Linked RawToken Request SlotConfined SlotHolds Store Valid ownership_outline
  ownership_tick)

/-- Whatever a handler has changed, its request carried the right token when the guards let it
through. -/
def Protected (pool : Pool Site Exchange) : Prop :=
  ∀ mutation, .mutation mutation ∈ pool.threads →
    mutation.changed = true → mutation.carried = true

/-- The handler that runs for a request that did not carry the right token. -/
def Exchange.unprotected : Exchange → Option Handler
  | .mutation ⟨_, .handling handler, false, _⟩ => some handler
  | _ => none

/-- A handler whose request did not carry the right token finds nothing to change. -/
def FindsNothing (pool : Pool Site Exchange) : Move Exchange Input → Prop
  | .start _ => True
  | .step index input =>
      ∀ exchange ∈ pool.threads[index]?, ∀ handler ∈ exchange.unprotected,
        handler.writes index input pool.shared = false

instance (pool : Pool Site Exchange) (action : Move Exchange Input)
    : Decidable (FindsNothing pool action) :=
  match action with
  | .start _ => isTrue trivial
  | .step index input =>
      inferInstanceAs
        (Decidable
          (∀ exchange ∈ pool.threads[index]?, ∀ handler ∈ exchange.unprotected,
            handler.writes index input pool.shared = false))

/-- The request of an exchange on the session store. -/
def Exchange.request : Exchange → Option Request
  | .session request => some request
  | .mutation ⟨_, .handling (.logout sessionId stage), _, _⟩ => some (.logout sessionId stage)
  | .mutation ⟨_, .handling (.logoutAll userId stage), _, _⟩ => some (.logoutAll userId stage)
  | _ => none

/-- The session store is sound. -/
def StoreSound (sha256 : RawToken → Digest) (site : Site) : Prop :=
  Valid sha256 site.store ∧ Linked site.store

/-- An exchange stays within its own sessions. -/
def SlotSound (sha256 : RawToken → Digest) (site : Site) (index : Nat) (slot : Option Exchange)
    : Prop :=
  SlotHolds sha256 site.store index (slot.bind Exchange.request)
  ∧ SlotConfined sha256 site.store index (slot.bind Exchange.request)

/-- No handler has changed anything for a request that still stands before a guard. -/
def Exchange.Untouched : Exchange → Prop
  | .mutation ⟨_, .guards _, _, changed⟩ => changed = false
  | _ => True

section

variable {sha256 : RawToken → Digest} {site site' : Site} {index : Nat} {input : Input}

-----------------------------------------------------------------------------------------
-- The session store
-----------------------------------------------------------------------------------------

/-- The site at a later time. -/
def Site.tick (site : Site) (now : Time) : Site :=
  { site with store := { site.store with clock := now } }

/-- What one step of an exchange makes of the store and of all slots. -/
def StepSound (sha256 : RawToken → Digest) (site site' : Site) (index : Nat)
    (after : Option Request)
    : Prop :=
  StoreSound sha256 site'
  ∧ (SlotHolds sha256 site'.store index after ∧ SlotConfined sha256 site'.store index after)
  ∧ ∀ other slot,
      other ≠ index → SlotSound sha256 site other slot → SlotSound sha256 site' other slot

/-- The step leaves the session store alone, but for the clock. -/
theorem StepSound.of_tick (sound : StoreSound sha256 site) {slot : Option Request}
    (own : SlotHolds sha256 site.store index slot ∧ SlotConfined sha256 site.store index slot)
    (later : site.store.clock ≤ input.now)
    (same : site'.store = { site.store with clock := input.now })
    : StepSound sha256 site site' index slot := by
  obtain ⟨valid, linked, slots⟩ := ownership_tick sound.1 sound.2 later
  unfold StepSound StoreSound SlotSound
  rw [same]
  exact ⟨⟨valid, linked⟩, slots index slot own.1 own.2,
    fun other _ _ held => slots other _ held.1 held.2⟩

/-- The step is one of a request on the session store. -/
theorem StepSound.of_request (sound : StoreSound sha256 site) {request request' : Request}
    (own
      : SlotHolds sha256 site.store index (some request)
        ∧ SlotConfined sha256 site.store index (some request))
    (later : site.store.clock ≤ input.now)
    (ran
      : request.step sha256 index input.toInput { site.store with clock := input.now }
        = some (site'.store, request'))
    : StepSound sha256 site site' index (some request') := by
  have step
      : (Sessions.program sha256).step index input.toInput site.store request
        = some (site'.store, request') := by
    simp only [Sessions.program, later, if_true]
    exact ran
  obtain ⟨sound', own', others⟩ := ownership_outline.step sound own step
  exact ⟨sound', own', fun other slot different held => others other _ different held⟩

/-- A request on the session store begins. -/
theorem StepSound.of_start (sound : StoreSound sha256 site) {request : Request}
    (own : SlotHolds sha256 site.store index none ∧ SlotConfined sha256 site.store index none)
    (started : request.start sha256 site.store = some site'.store)
    : StepSound sha256 site site' index (some request) := by
  obtain ⟨sound', own', others⟩ := ownership_outline.start sound own started
  exact ⟨sound', own', fun other slot different held => others other _ different held⟩

/-- First one, then the other. -/
theorem StepSound.trans {middle : Site} {before after : Option Request}
    (first : StepSound sha256 site middle index before)
    (second : StepSound sha256 middle site' index after)
    : StepSound sha256 site site' index after :=
  ⟨second.1, second.2.1,
    fun other slot different held =>
      second.2.2 other slot different (first.2.2 other slot different held)⟩

/-- A guard lets a request pass, and its handler may begin. -/
theorem pass_sound (sound : StoreSound sha256 site) (mutation : Mutation) (later : List Guard)
    (own : SlotHolds sha256 site.store index none ∧ SlotConfined sha256 site.store index none)
    : StepSound sha256 site site index
        (Exchange.request (.mutation (mutation.pass site later))) := by
  have quiet : StepSound sha256 site site index none :=
    ⟨sound, own, fun _ _ _ held => held⟩
  unfold Mutation.pass
  split
  · cases bearer : mutation.request.bearer with
    | none => exact quiet
    | some user =>
        cases route : mutation.request.route with
        | register => exact quiet
        | login => exact quiet
        | refresh => exact quiet
        | logout => exact .of_start sound own rfl
        | logoutAll => exact .of_start sound own rfl
        | accept requestId => exact quiet
        | reject requestId => exact quiet
        | updateNickname contactId nickname => exact quiet
        | remove contactId => exact quiet
  · exact quiet

/-- Every step of an exchange keeps the session store sound. -/
theorem exchange_sound (sound : StoreSound sha256 site) {exchange exchange' : Exchange}
    (own : SlotSound sha256 site index (some exchange)) (later : site.store.clock ≤ input.now)
    (ran : exchange.step sha256 index input (site.tick input.now) = some (site', exchange'))
    : StepSound sha256 site site' index exchange'.request := by
  cases exchange with
  | session request =>
      obtain ⟨⟨store, request'⟩, stepped, same⟩ := Option.map_eq_some_iff.mp ran
      cases same
      exact .of_request sound own later stepped
  | signaling call =>
      obtain ⟨⟨tables, call'⟩, _, same⟩ := Option.map_eq_some_iff.mp ran
      cases same
      exact .of_tick sound own later rfl
  | mutation mutation =>
      obtain ⟨⟨_, mutation'⟩, stepped, same⟩ := Option.map_eq_some_iff.mp ran
      cases same
      obtain ⟨request, stage, carried, changed⟩ := mutation
      cases stage with
      | refused refusal => cases stepped
      | guards todo =>
          have ticked : StepSound sha256 site (site.tick input.now) index none :=
            .of_tick sound own later rfl
          cases todo with
          | nil => cases stepped
          | cons guard rest =>
              simp only [Mutation.step] at stepped
              split at stepped
              · cases stepped
                exact ticked
              · cases stepped
                exact ticked.trans (pass_sound ticked.1 _ rest ticked.2.1)
      | handling handler =>
          obtain ⟨⟨_, handler'⟩, handled, same⟩ := Option.map_eq_some_iff.mp stepped
          cases same
          cases handler with
          | logout sessionId stage =>
              obtain ⟨⟨store, stage'⟩, revoked, same⟩ := Option.map_eq_some_iff.mp handled
              cases same
              exact .of_request sound own later (Option.map_eq_some_iff.mpr ⟨_, revoked, rfl⟩)
          | logoutAll userId stage =>
              obtain ⟨⟨store, stage'⟩, revoked, same⟩ := Option.map_eq_some_iff.mp handled
              cases same
              exact .of_request sound own later (Option.map_eq_some_iff.mpr ⟨_, revoked, rfl⟩)
          | accept requestId acceptorId stage =>
              simp only [Handler.step] at handled
              split at handled
              · cases handled
                exact .of_tick sound own later rfl
              · obtain ⟨⟨tables, stage'⟩, _, same⟩ := Option.map_eq_some_iff.mp handled
                cases same
                exact .of_tick sound own later rfl
          | reject requestId userId stage =>
              simp only [Handler.step] at handled
              split at handled
              · cases handled
                exact .of_tick sound own later rfl
              · obtain ⟨⟨tables, stage'⟩, _, same⟩ := Option.map_eq_some_iff.mp handled
                cases same
                exact .of_tick sound own later rfl
          | updateNickname ownerId contactId nickname =>
              simp only [Handler.step] at handled
              split at handled
              · cases handled
                exact .of_tick sound own later rfl
              · cases handled
                exact .of_tick sound own later rfl
          | remove ownerId contactId =>
              simp only [Handler.step] at handled
              split at handled
              · cases handled
                exact .of_tick sound own later rfl
              · cases handled
                exact .of_tick sound own later rfl
          | finished => cases handled

/-- So does the arrival of one. -/
theorem start_sound (sound : StoreSound sha256 site) {exchange : Exchange}
    (own : SlotSound sha256 site index none)
    (started : exchange.start sha256 site = some site')
    : StepSound sha256 site site' index exchange.request := by
  have quiet : StepSound sha256 site site index none := ⟨sound, own, fun _ _ _ held => held⟩
  cases exchange with
  | session request =>
      cases request with
      | login userId stage =>
          obtain ⟨store, began, rfl⟩ := Option.map_eq_some_iff.mp started
          exact .of_start sound own began
      | refresh rawToken stage =>
          obtain ⟨store, began, rfl⟩ := Option.map_eq_some_iff.mp started
          exact .of_start sound own began
      | validate payload stage =>
          obtain ⟨store, began, rfl⟩ := Option.map_eq_some_iff.mp started
          exact .of_start sound own began
      | logout sessionId stage => cases started
      | logoutAll userId stage => cases started
  | signaling call =>
      unfold Exchange.start at started
      split at started
      · rename_i same
        cases same
      · rename_i same
        cases same
      · rename_i same
        cases same
      · cases started
        exact quiet
      · cases started
      · rename_i same
        cases same
  | mutation mutation =>
      obtain ⟨request, stage, carried, changed⟩ := mutation
      obtain ⟨⟨_, waiting, _⟩, same⟩ := Option.ite_none_right_eq_some.mp started
      cases same
      have first : stage = .guards request.route.guards := waiting
      subst first
      exact quiet

theorem start_untouched {exchange : Exchange}
    (started : exchange.start sha256 site = some site')
    : exchange.Untouched := by
  cases exchange with
  | session request => trivial
  | signaling call => trivial
  | mutation mutation =>
      obtain ⟨request, stage, carried, changed⟩ := mutation
      obtain ⟨⟨_, _, _, unchanged⟩, _⟩ := Option.ite_none_right_eq_some.mp started
      cases stage with
      | guards todo => exact unchanged
      | handling handler => trivial
      | refused refusal => trivial

/-- Guards change nothing. -/
theorem step_untouched {exchange exchange' : Exchange} (untouched : exchange.Untouched)
    (ran : exchange.step sha256 index input site = some (site', exchange'))
    : exchange'.Untouched := by
  cases exchange with
  | session request =>
      obtain ⟨_, _, same⟩ := Option.map_eq_some_iff.mp ran
      cases same
      trivial
  | signaling call =>
      obtain ⟨_, _, same⟩ := Option.map_eq_some_iff.mp ran
      cases same
      trivial
  | mutation mutation =>
      obtain ⟨⟨_, mutation'⟩, stepped, same⟩ := Option.map_eq_some_iff.mp ran
      cases same
      obtain ⟨request, stage, carried, changed⟩ := mutation
      cases stage with
      | refused refusal => cases stepped
      | guards todo =>
          cases todo with
          | nil => cases stepped
          | cons guard later =>
              simp only [Mutation.step] at stepped
              split at stepped
              · cases stepped
                trivial
              · cases stepped
                unfold Mutation.pass
                split
                · trivial
                · exact untouched
      | handling handler =>
          obtain ⟨_, _, same⟩ := Option.map_eq_some_iff.mp stepped
          cases same
          trivial

/-- The session store is sound, every exchange stays within its own sessions, and guards change
nothing. -/
theorem site_outline
    : (siteProgram sha256).Outline (StoreSound sha256)
        (fun site index slot =>
          SlotSound sha256 site index slot ∧ ∀ exchange ∈ slot, exchange.Untouched) where
  start := by
    intro site site' index exchange sound own started
    obtain ⟨sound', slot, others⟩ := start_sound sound own.1 started
    refine ⟨sound', ⟨slot, fun other same => ?_⟩, fun other slot different held =>
      ⟨others other slot different held.1, held.2⟩⟩
    cases same
    exact start_untouched started
  step := by
    intro site site' index input exchange exchange' sound own stepped
    obtain ⟨later, ran⟩ := Option.ite_none_right_eq_some.mp stepped
    obtain ⟨sound', slot, others⟩ := exchange_sound sound own.1 later ran
    refine ⟨sound', ⟨slot, fun other same => ?_⟩, fun other slot different held =>
      ⟨others other slot different held.1, held.2⟩⟩
    cases same
    exact step_untouched (own.2 exchange rfl) ran

-----------------------------------------------------------------------------------------
-- What a handler changes
-----------------------------------------------------------------------------------------

theorem revoke_ne_iff {row : Sessions.SessionRow} : row.revoke ≠ row ↔ row.isRevoked = false := by
  obtain ⟨id, userId, isRevoked, createdAt, expiresAt⟩ := row
  cases isRevoked with
  | true => simp [Sessions.SessionRow.revoke]
  | false => simp [Sessions.SessionRow.revoke]

/-- `logout` changes a session that is not revoked. -/
theorem logout_changes_iff {store store' : Store} {sessionId : Uuid}
    {stage stage' : Sessions.LogoutStage} (valid : Valid sha256 store) (linked : Linked store)
    (free : ∀ k, store.sessions.holder k ≠ some index)
    (ran
      : Sessions.AuthService.logout index input.toInput store sessionId stage
        = some (store', stage'))
    : store'.sessions.rows ≠ store.sessions.rows
      ↔ stage = .revoke
        ∧ input.fails = false
        ∧ ∃ row ∈ store.sessions.rows, row.id = sessionId ∧ row.isRevoked = false := by
  cases stage with
  | revoke =>
      simp only [Sessions.AuthService.logout] at ran
      split at ran
      · rename_i fails
        cases ran
        simp [fails]
      · rename_i works
        split at ran
        · cases ran
          have sound := (valid.revoke index sessionId).sessions
          have own (row : Sessions.SessionRow) (member : row ∈ store.sessions.rows)
              : (((store.sessions.lock index sessionId).write Sessions.SessionRow.id sessionId
                    Sessions.SessionRow.revoke).holder row.id
                  = some index
                ∧ (((store.sessions.lock index sessionId).write Sessions.SessionRow.id sessionId
                    Sessions.SessionRow.revoke).dirty row.id).isSome)
                ↔ row.id = sessionId := by
            simp only [write_holder, lock_holder, write_dirty]
            by_cases named : row.id = sessionId
            · subst named
              refine iff_of_true ⟨if_pos rfl, ?_⟩ rfl
              rw [if_pos rfl]
              cases pending : store.sessions.dirty row.id with
              | some version => simp [current, pending]
              | none => simp [current, pending, valid.sessions.find_row member]
            · simp only [named, if_false, iff_false, not_and]
              exact fun held => absurd held (free row.id)
          refine (sound.commit_changes_iff (by simp [insertedBy, linked.sessions])).trans ?_
          simp only [write_rows, lock_rows]
          constructor
          · rintro ⟨row, member, held, written, differs⟩
            exact ⟨trivial, Bool.eq_false_iff.mpr works, row, member,
              (own row member).mp ⟨held, written⟩, revoke_ne_iff.mp differs⟩
          · rintro ⟨_, _, row, member, named, unrevoked⟩
            obtain ⟨held, written⟩ := (own row member).mpr named
            exact ⟨row, member, held, written, revoke_ne_iff.mpr unrevoked⟩
        · cases ran
  | done => cases ran
  | threw => cases ran

/-- `logoutAll` changes the sessions that its transaction has rewritten, when it commits. -/
theorem logoutAll_changes_iff {store store' : Store} {userId : Uuid}
    {stage stage' : Sessions.LogoutAllStage} (valid : Valid sha256 store)
    (linked : Linked store)
    (ran
      : Sessions.AuthService.logoutAll index input.toInput store userId stage
        = some (store', stage'))
    : store'.sessions.rows ≠ store.sessions.rows
      ↔ stage = .updating []
        ∧ input.fails = false
        ∧ ∃ row ∈ store.sessions.rows,
            store.sessions.holder row.id = some index
            ∧ (store.sessions.dirty row.id).isSome
            ∧ row.isRevoked = false := by
  cases stage with
  | revokeAllForUser =>
      simp only [Sessions.AuthService.logoutAll] at ran
      split at ran
      · cases ran
        simp
      · cases ran
        simp
  | updating todo =>
      simp only [Sessions.AuthService.logoutAll] at ran
      split at ran
      · rename_i fails
        cases ran
        simp [fails, Store.rollback]
      · rename_i works
        split at ran
        · rename_i last
          cases ran
          refine (valid.sessions.commit_changes_iff
            (by simp [insertedBy, linked.sessions])).trans ?_
          simp only [revoke_ne_iff, last, Bool.eq_false_iff.mpr works, true_and]
        · rename_i more
          split at ran
          · cases ran
            simp [more]
          · cases ran
  | done => cases ran
  | threw => cases ran

/-- A list is changed by a map that changes a member. -/
theorem map_ne_iff {α : Type} {list : List α} {assign : α → α}
    : list.map assign ≠ list ↔ ∃ item ∈ list, assign item ≠ item := by
  have same : list.map assign = list ↔ ∀ item ∈ list, assign item = item := by
    conv_lhs => rhs; rw [← List.map_id list]
    exact List.map_inj_left
  rw [ne_eq, same]
  push Not
  rfl

theorem with_requests_eq_iff {tables : Tables} {requests : List ContactSaveRequest}
    : { tables with requests := requests } = tables ↔ requests = tables.requests := by
  obtain ⟨earlier, contacts, audits⟩ := tables
  simp

theorem with_contacts_eq_iff {tables : Tables} {contacts : List ContactRecord}
    : { tables with contacts := contacts } = tables ↔ contacts = tables.contacts := by
  obtain ⟨requests, earlier, audits⟩ := tables
  simp

/-- The UPDATE of a request changes the tables if it finds a pending one. -/
theorem resolve_changes_iff {tables : Tables} {requestId userId : Uuid} {status : RequestStatus}
    {now : Time} (resolved : status ≠ .pending)
    : tables.resolve requestId userId status now ≠ tables
      ↔ tables.requests.any (·.isPendingFor requestId userId) = true := by
  rw [ne_eq, Tables.resolve, with_requests_eq_iff, ← ne_eq, map_ne_iff, List.any_eq_true]
  refine exists_congr (fun row => and_congr_right (fun _ => ?_))
  by_cases pending : row.isPendingFor requestId userId = true
  · rw [if_pos pending]
    refine iff_of_true (fun same => ?_) pending
    have status' : (row.resolve status now).status = row.status := by rw [same]
    simp only [ContactSaveRequest.isPendingFor, Bool.and_eq_true, decide_eq_true_eq] at pending
    exact resolved (status'.trans pending.2)
  · rw [if_neg pending]
    exact iff_of_false (fun differs => differs rfl) pending

/-- A contact is inserted if its pair is none yet. -/
theorem insertContact_cases {tables tables' : Tables} {id ownerId contactUserId : Uuid}
    {now : Time} (ran : tables.insertContact id now ownerId contactUserId = some tables')
    : ((ownerId, contactUserId) ∈ tables.contacts.map ContactRecord.pair ∧ tables' = tables)
      ∨ (ownerId, contactUserId) ∉ tables.contacts.map ContactRecord.pair
        ∧ tables'.contacts.length = tables.contacts.length + 1 := by
  unfold Tables.insertContact at ran
  split at ran
  · rename_i present
    exact Or.inl ⟨present, (Option.some.inj ran).symm⟩
  · rename_i absent
    split at ran
    · cases ran
    · cases ran
      exact Or.inr ⟨absent, by simp⟩

/-- The INSERT of both pairs changes the tables if one of them is no contact yet. -/
theorem insertBoth_changes_iff {tables middle tables' : Tables}
    {id secondId fromUserId toUserId : Uuid} {now : Time}
    (first : tables.insertContact id now fromUserId toUserId = some middle)
    (second : middle.insertContact secondId now toUserId fromUserId = some tables')
    : tables' ≠ tables
      ↔ ¬ ((fromUserId, toUserId) ∈ tables.contacts.map ContactRecord.pair
          ∧ (toUserId, fromUserId) ∈ tables.contacts.map ContactRecord.pair) := by
  have longer (more : tables.contacts.length < tables'.contacts.length) : tables' ≠ tables :=
    fun same => by
      rw [same] at more
      exact Nat.lt_irrefl _ more
  rcases insertContact_cases first with ⟨present, rfl⟩ | ⟨absent, one⟩
  · rcases insertContact_cases second with ⟨also, rfl⟩ | ⟨missing, two⟩
    · exact iff_of_false (fun differs => differs rfl) (fun none => none ⟨present, also⟩)
    · exact iff_of_true (longer (by omega)) (fun both => missing both.2)
  · refine iff_of_true (longer ?_) (fun both => absent both.1)
    rcases insertContact_cases second with ⟨_, rfl⟩ | ⟨_, two⟩
    · omega
    · omega

/-- An audit row is a change. -/
theorem log_ne (tables : Tables) (row : Contacts.AuditRow) : tables.log row ≠ tables := by
  intro same
  have audits : (tables.log row).audits.length = tables.audits.length := by rw [same]
  simp [Tables.log] at audits

/-- `updateNickname` changes a contact that has another nickname, or none. -/
theorem updateNickname_changes_iff {tables : Tables} {ownerId contactId : Uuid}
    {nickname : String}
    : Contacts.ContactsService.updateNickname tables ownerId contactId nickname ≠ tables
      ↔ tables.contacts.any
          (fun row =>
            row.id = contactId && row.ownerId = ownerId && row.nickname ≠ some nickname)
        = true := by
  rw [ne_eq, Contacts.ContactsService.updateNickname, with_contacts_eq_iff, ← ne_eq, map_ne_iff,
    List.any_eq_true]
  refine exists_congr (fun row => and_congr_right (fun _ => ?_))
  simp only [Bool.and_eq_true, decide_eq_true_eq]
  by_cases named : row.id = contactId ∧ row.ownerId = ownerId
  · rw [if_pos named]
    refine Iff.trans (not_congr ⟨fun same => ?_, fun same => ?_⟩) (and_iff_right named).symm
    · rw [← same]
    · rw [← same]
  · rw [if_neg named]
    exact iff_of_false (fun differs => differs rfl) (fun own => named own.1)

/-- `removeContact` changes the tables if the contact is there. -/
theorem removeContact_changes_iff {tables : Tables} {ownerId contactId : Uuid}
    : Contacts.ContactsService.removeContact tables ownerId contactId ≠ tables
      ↔ tables.contacts.any (fun row => row.id = contactId && row.ownerId = ownerId) = true := by
  rw [ne_eq, Contacts.ContactsService.removeContact, with_contacts_eq_iff, List.filter_eq_self]
  simp

/-- `acceptContactSave` changes something by each of its statements that finds something to do,
and by its last one in any case. -/
theorem accept_changes_iff {requestId acceptorId : Uuid} {stage stage' : Contacts.AcceptStage}
    {tables' : Tables} (works : input.fails = false)
    (ran
      : Contacts.ContactsService.acceptContactSave input.drawn site.tables requestId acceptorId
          stage
        = some (tables', stage'))
    : tables' ≠ site.tables
      ↔ (Handler.accept requestId acceptorId stage).writes index input site = true := by
  cases stage with
  | update =>
      have resolved
          : tables' = site.tables.resolve requestId acceptorId .accepted input.drawn.now := by
        simp only [Contacts.ContactsService.acceptContactSave] at ran
        split at ran
        · cases ran
          rfl
        · cases ran
          rfl
      rw [resolved, resolve_changes_iff (by decide)]
      simp [Handler.writes, works]
  | insert fromUserId toUserId =>
      obtain ⟨after, inserted, same⟩ := Option.map_eq_some_iff.mp ran
      cases same
      obtain ⟨middle, first, second⟩ := Option.bind_eq_some_iff.mp inserted
      rw [insertBoth_changes_iff first second]
      simp only [Handler.writes, works, Bool.not_false, Bool.true_and, Bool.not_eq_true',
        ← Bool.not_eq_true, Bool.and_eq_true, decide_eq_true_eq]
  | audit fromUserId toUserId =>
      cases ran
      exact iff_of_true (log_ne _ _) (by simp [Handler.writes, works])
  | returned saved => cases ran

theorem reject_changes_iff {requestId userId : Uuid} {stage stage' : Contacts.RejectStage}
    {tables' : Tables} (works : input.fails = false)
    (ran
      : Contacts.ContactsService.rejectContactSave input.drawn site.tables requestId userId stage
        = some (tables', stage'))
    : tables' ≠ site.tables
      ↔ (Handler.reject requestId userId stage).writes index input site = true := by
  cases stage with
  | update =>
      cases ran
      rw [resolve_changes_iff (by decide)]
      simp [Handler.writes, works]
  | audit =>
      cases ran
      exact iff_of_true (log_ne _ _) (by simp [Handler.writes, works])
  | returned => cases ran

theorem data_of_tables {tables : Tables}
    : ({ site with tables := tables } : Site).data ≠ site.data ↔ tables ≠ site.tables := by
  simp [Site.data]

theorem data_of_store {store : Store}
    : ({ site with store := store } : Site).data ≠ site.data
      ↔ store.sessions.rows ≠ site.store.sessions.rows := by
  simp [Site.data]

/-- The step of a handler changes something exactly if it finds something to change. -/
theorem handler_changes_iff {handler handler' : Handler} (sound : StoreSound sha256 site)
    (own
      : ∀ sessionId stage, handler = .logout sessionId stage →
          ∀ k, site.store.sessions.holder k ≠ some index)
    (ran : handler.step index input site = some (site', handler'))
    : site'.data ≠ site.data ↔ handler.writes index input site = true := by
  cases handler with
  | logout sessionId stage =>
      obtain ⟨⟨store, stage'⟩, revoked, same⟩ := Option.map_eq_some_iff.mp ran
      cases same
      rw [data_of_store, logout_changes_iff sound.1 sound.2 (own sessionId stage rfl) revoked]
      cases stage with
      | revoke => simp [Handler.writes]
      | done => cases revoked
      | threw => cases revoked
  | logoutAll userId stage =>
      obtain ⟨⟨store, stage'⟩, revoked, same⟩ := Option.map_eq_some_iff.mp ran
      cases same
      rw [data_of_store, logoutAll_changes_iff sound.1 sound.2 revoked]
      cases stage with
      | revokeAllForUser => simp [Handler.writes]
      | updating todo =>
          cases todo with
          | nil => simp [Handler.writes, and_assoc]
          | cons next later => simp [Handler.writes]
      | done => cases revoked
      | threw => cases revoked
  | accept requestId acceptorId stage =>
      simp only [Handler.step] at ran
      split at ran
      · rename_i fails
        cases ran
        refine iff_of_false (fun differs => differs rfl) ?_
        cases stage <;> simp [Handler.writes, fails]
      · rename_i works
        obtain ⟨⟨tables, stage'⟩, accepted, same⟩ := Option.map_eq_some_iff.mp ran
        cases same
        rw [data_of_tables]
        exact accept_changes_iff (Bool.eq_false_iff.mpr works) accepted
  | reject requestId userId stage =>
      simp only [Handler.step] at ran
      split at ran
      · rename_i fails
        cases ran
        refine iff_of_false (fun differs => differs rfl) ?_
        cases stage <;> simp [Handler.writes, fails]
      · rename_i works
        obtain ⟨⟨tables, stage'⟩, rejected, same⟩ := Option.map_eq_some_iff.mp ran
        cases same
        rw [data_of_tables]
        exact reject_changes_iff (Bool.eq_false_iff.mpr works) rejected
  | updateNickname ownerId contactId nickname =>
      simp only [Handler.step] at ran
      split at ran
      · rename_i fails
        cases ran
        exact iff_of_false (fun differs => differs rfl) (by simp [Handler.writes, fails])
      · rename_i works
        cases ran
        rw [data_of_tables, updateNickname_changes_iff]
        simp [Handler.writes, works]
  | remove ownerId contactId =>
      simp only [Handler.step] at ran
      split at ran
      · rename_i fails
        cases ran
        exact iff_of_false (fun differs => differs rfl) (by simp [Handler.writes, fails])
      · rename_i works
        cases ran
        rw [data_of_tables, removeContact_changes_iff]
        simp [Handler.writes, works]
  | finished => cases ran

/-- A step of a request keeps it protected exactly if it carried the token, or its handler
finds nothing to change. -/
theorem mutation_protected_iff {mutation mutation' : Mutation} (sound : StoreSound sha256 site)
    (own : SlotSound sha256 site index (some (.mutation mutation)))
    (untouched : (Exchange.mutation mutation).Untouched)
    (safe : mutation.changed = true → mutation.carried = true)
    (ran : mutation.step sha256 index input site = some (site', mutation'))
    : (mutation'.changed = true → mutation'.carried = true)
      ↔ ∀ handler ∈ (Exchange.mutation mutation).unprotected,
          handler.writes index input site = false := by
  obtain ⟨request, stage, carried, changed⟩ := mutation
  cases stage with
  | refused refusal => cases ran
  | guards todo =>
      have unchanged : changed = false := untouched
      subst unchanged
      refine iff_of_true (fun touched => ?_) (fun handler running => nomatch running)
      cases todo with
      | nil => cases ran
      | cons guard later =>
          simp only [Mutation.step] at ran
          split at ran
          · cases ran
            cases touched
          · cases ran
            unfold Mutation.pass at touched
            split at touched
            · cases touched
            · cases touched
  | handling handler =>
      obtain ⟨⟨_, handler'⟩, handled, same⟩ := Option.map_eq_some_iff.mp ran
      cases same
      have free (sessionId : Uuid) (stage : Sessions.LogoutStage)
          (running : handler = .logout sessionId stage) (k : Uuid)
          : site.store.sessions.holder k ≠ some index := by
        subst running
        exact fun held => own.2.1.sessions k held
      have changes := handler_changes_iff sound free handled
      cases carried with
      | true => exact iff_of_true (fun _ => rfl) (fun _ running => nomatch running)
      | false =>
          have unchanged : changed = false :=
            Bool.eq_false_iff.mpr (fun touched => nomatch safe touched)
          subst unchanged
          simp only [Bool.false_or, decide_eq_true_eq, Bool.false_eq_true, imp_false,
            Exchange.unprotected, Option.mem_some_iff, forall_eq']
          rw [changes, Bool.not_eq_true]

end

section

variable {sha256 : RawToken → Digest} {pool next : Pool Site Exchange}
  {moves : List (Move Exchange Input)} {action : Move Exchange Input}

/-- The outline of all exchanges. -/
abbrev SiteSound (sha256 : RawToken → Digest) (pool : Pool Site Exchange) : Prop :=
  Holds (StoreSound sha256)
    (fun site index slot =>
      SlotSound sha256 site index slot ∧ ∀ exchange ∈ slot, exchange.Untouched)
    pool

theorem SiteSound.init : SiteSound sha256 (siteMachine sha256).init := by
  refine Holds.init ⟨.empty, .empty⟩ (fun index => ⟨⟨.empty index, .empty index⟩, ?_⟩)
  intro exchange same
  cases same

/-- A move keeps the pool protected exactly if it meets the condition. -/
theorem move_protected_iff (sound : SiteSound sha256 pool) (safe : Protected pool)
    (moved : (siteProgram sha256).move pool action = some next)
    : Protected next ↔ FindsNothing pool action := by
  cases action with
  | start exchange =>
      obtain ⟨started, threads⟩ := (siteProgram sha256).move_start_some moved
      refine iff_of_true (fun mutation member changed => ?_) trivial
      rw [threads] at member
      rcases List.mem_append.mp member with earlier | own
      · exact safe mutation earlier changed
      · rw [List.mem_singleton] at own
        subst own
        obtain ⟨⟨_, _, _, unchanged⟩, _⟩ := Option.ite_none_right_eq_some.mp started
        rw [unchanged] at changed
        cases changed
  | step index input =>
      obtain ⟨exchange, exchange', found, stepped, threads⟩ :=
        (siteProgram sha256).move_step_some moved
      obtain ⟨later, ran⟩ := Option.ite_none_right_eq_some.mp stepped
      have bound : index < pool.threads.length := (List.getElem?_eq_some_iff.mp found).1
      have own : next.threads[index]? = some exchange' := by
        rw [threads]
        exact List.getElem?_set_self bound
      have others {mutation : Mutation} (member : .mutation mutation ∈ next.threads)
          : .mutation mutation ∈ pool.threads ∨ .mutation mutation = exchange' := by
        rw [threads] at member
        exact List.mem_or_eq_of_mem_set member
      have slot := found ▸ sound.2 index
      cases exchange with
      | session request =>
          obtain ⟨result, _, same⟩ := Option.map_eq_some_iff.mp ran
          obtain ⟨_, rfl⟩ := Prod.mk.inj same
          refine iff_of_true (fun mutation member => ?_) (fun other same => ?_)
          · rcases others member with earlier | own
            · exact safe mutation earlier
            · cases own
          · cases Option.some.inj (found.symm.trans same)
            exact fun handler running => nomatch running
      | signaling call =>
          obtain ⟨result, _, same⟩ := Option.map_eq_some_iff.mp ran
          obtain ⟨_, rfl⟩ := Prod.mk.inj same
          refine iff_of_true (fun mutation member => ?_) (fun other same => ?_)
          · rcases others member with earlier | own
            · exact safe mutation earlier
            · cases own
          · cases Option.some.inj (found.symm.trans same)
            exact fun handler running => nomatch running
      | mutation mutation =>
          obtain ⟨⟨site', mutation'⟩, advanced, same⟩ := Option.map_eq_some_iff.mp ran
          obtain ⟨_, rfl⟩ := Prod.mk.inj same
          have ticked
              : StepSound sha256 pool.shared (pool.shared.tick input.now) index
                  (Exchange.mutation mutation).request :=
            .of_tick sound.1 slot.1 later rfl
          have protects :=
            mutation_protected_iff ticked.1 ticked.2.1 (slot.2 _ rfl)
              (safe mutation (List.mem_of_getElem? found)) advanced
          have writes (handler : Handler)
              : handler.writes index input (pool.shared.tick input.now)
                = handler.writes index input pool.shared :=
            rfl
          simp only [writes] at protects
          constructor
          · intro safe' other same
            cases Option.some.inj (found.symm.trans same)
            exact protects.mp (safe' mutation' (List.mem_of_getElem? own))
          · intro nothing other member
            rcases others member with earlier | same
            · exact safe other earlier
            · cases same
              exact protects.mpr (nothing _ found)

/-- No guard looks at the CSRF token of a request. So what handlers change is protected in
exactly the runs in which every statement of a handler whose request did not carry the token
finds nothing to change.
-/
theorem csrf_protection (run : (siteMachine sha256).Reaches moves pool)
    : (siteMachine sha256).Throughout Protected (siteMachine sha256).init moves
      ↔ (siteMachine sha256).Along FindsNothing (siteMachine sha256).init moves := by
  refine (siteMachine sha256).throughout_iff_along (SiteSound sha256) ?_ ?_ .init ?_ run
  · intro before action after sound moved
    exact site_outline.move sound moved
  · intro before action after sound safe moved
    exact move_protected_iff sound safe moved
  · intro mutation member
    cases member

end

/-- User 1 logs in, and is given session 2 with the CSRF token 101. -/
def loggedIn : List (Move Exchange Input) := [
  .start (.session (.login 1 .createSession)),
  .step 0 { now := 1, uuid := 2 },
  .step 0 { now := 1, uuid := 3, familyId := 4, rawToken := 100 },
  .step 0 { now := 1, rawToken := 101 }
]

/-- A request of that session to log out, as far as its handler. -/
def loggingOut (csrfToken : Option RawToken) : List (Move Exchange Input) := [
  .start
    (.mutation
      ⟨⟨.logout, some ⟨1, 2⟩, csrfToken⟩, .guards [.throttlerGuard, .jwtAuthGuard], false, false⟩),
  .step 1 { now := 2 },
  .step 1 { now := 2 },
  .step 1 { now := 2 }
]

/-- The pool after some moves, where the digest of a token is the token. -/
def siteAfter (moves : List (Move Exchange Input)) : Pool Site Exchange :=
  ((siteMachine id).exec (siteMachine id).init moves).getD ⟨Site.empty, []⟩

theorem csrf_protection_carried
    : (siteAfter (loggedIn ++ loggingOut (some 101))).shared.store.sessions.rows.map
          Sessions.SessionRow.isRevoked
        = [true]
      ∧ (siteMachine id).Throughout Protected (siteMachine id).init
          (loggedIn ++ loggingOut (some 101)) := by
  have run
      : (siteMachine id).Reaches (loggedIn ++ loggingOut (some 101))
          (siteAfter (loggedIn ++ loggingOut (some 101))) :=
    rfl
  exact ⟨by decide, (csrf_protection run).mpr (by decide)⟩

/-- Otherwise the request goes through without any token. -/
theorem csrf_missing
    : (siteMachine id).Reaches (loggedIn ++ loggingOut none) (siteAfter (loggedIn ++ loggingOut none))
      ∧ (siteAfter (loggedIn ++ loggingOut none)).threads[1]?
        = some
            (.mutation
              ⟨⟨.logout, some ⟨1, 2⟩, none⟩, .handling (.logout 2 .done), false, true⟩)
      ∧ ¬ Protected (siteAfter (loggedIn ++ loggingOut none)) := by
  have ended
      : (siteAfter (loggedIn ++ loggingOut none)).threads[1]?
        = some
            (.mutation
              ⟨⟨.logout, some ⟨1, 2⟩, none⟩, .handling (.logout 2 .done), false, true⟩) := by
    decide
  refine ⟨rfl, ended, fun safe => ?_⟩
  exact Bool.noConfusion (safe _ (List.mem_of_getElem? ended) rfl)

end NexusComms.Http
