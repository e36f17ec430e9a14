import NexusComms.Concurrency.Script
import NexusComms.Contacts.Handshake

/-! `acceptContactSave` with statements that may fail, before they take effect or after. The
UPDATE of the request and the INSERT of the contacts commit one after the other, so a failure in
between leaves an accepted request without contacts, which no retry finds.
-/

namespace NexusComms.Contacts.Scripts

open Concurrency Script

/-- The statements of `acceptContactSave`. -/
inductive Statement where
  | update
  | insert
  | audit
deriving DecidableEq, Repr

/-- An error of the database. -/
inductive DatabaseError where
  | queryFailed
deriving DecidableEq, Repr

/-- The INSERT of both rows into `contacts`. -/
def insertContacts (tables : Tables) (drawn : Drawn) (fromUserId toUserId : Uuid)
    : Option Tables :=
  (tables.insertContact drawn.id drawn.now fromUserId toUserId).bind
    (fun tables' => tables'.insertContact drawn.secondId drawn.now toUserId fromUserId)

/-- `AuditService.log`: a failure is never thrown. -/
def AuditService.log (row : AuditRow) : Script (Statement × Moment) Tables DatabaseError Unit := do
  try
    .awaited .audit .queryFailed (fun tables => (.ok (), tables.log row))
  catch _ =>
    pure ()

def ContactsService.acceptContactSave (resolvedAt : Time) (drawn : Drawn)
    (requestId acceptorId : Uuid)
    : Script (Statement × Moment) Tables DatabaseError Bool := do
  let reqRows ← .awaited .update .queryFailed (fun tables =>
    (.ok (tables.requests.filter (ContactSaveRequest.isPendingFor requestId acceptorId)),
      tables.resolve requestId acceptorId .accepted resolvedAt))
  match reqRows with
  | [] => pure false
  | row :: _ =>
      .awaited .insert .queryFailed (fun tables =>
        match insertContacts tables drawn row.fromUserId row.toUserId with
        | some tables' => (.ok (), tables')
        | none => (.error .queryFailed, tables))
      AuditService.log (.contactSaved acceptorId row.fromUserId row.toUserId requestId)
      pure true

/-- The ids drawn for the two rows are new. -/
structure NewIds (tables : Tables) (drawn : Drawn) : Prop where
  first : drawn.id ∉ tables.contacts.map ContactRecord.id
  second : drawn.secondId ∉ tables.contacts.map ContactRecord.id
  apart : drawn.secondId ≠ drawn.id

/-- The request is accepted, and each of the two has the other among the contacts. -/
def Completed (row : ContactSaveRequest) (after : Tables) : Prop :=
  (∃ row' ∈ after.requests, row'.id = row.id ∧ row'.status = .accepted)
  ∧ after.Linked row.fromUserId row.toUserId
  ∧ after.Linked row.toUserId row.fromUserId

/-- The request is pending still, no contact has changed, and a retry succeeds. -/
def Untouched (before : Tables) (row : ContactSaveRequest) (after : Tables) : Prop :=
  (∃ row' ∈ after.requests, row'.isPendingFor row.id row.toUserId = true)
  ∧ after.contacts = before.contacts
  ∧ ∀ resolvedAt drawn,
      NewIds after drawn →
        ((ContactsService.acceptContactSave resolvedAt drawn row.id row.toUserId).run
          (fun _ => false) after).1
        = .ok true

section

variable {tables after : Tables} {drawn : Drawn} {resolvedAt : Time}
  {row : ContactSaveRequest} {fails : Statement × Moment → Bool}

/-- The UPDATE finds the pending request. -/
theorem pending_found (keys : (tables.requests.map ContactSaveRequest.id).Nodup)
    (member : row ∈ tables.requests) (pending : row.status = .pending)
    : ∃ rest,
        tables.requests.filter (ContactSaveRequest.isPendingFor row.id row.toUserId)
        = row :: rest := by
  cases rows : tables.requests.filter (ContactSaveRequest.isPendingFor row.id row.toUserId) with
  | nil =>
      have none := List.filter_eq_nil_iff.mp rows row member
      exact absurd (by simp [ContactSaveRequest.isPendingFor, pending]) none
  | cons first rest =>
      have head : first ∈ first :: rest := List.mem_cons_self
      rw [← rows] at head
      obtain ⟨known, own⟩ := List.mem_filter.mp head
      have same : first.id = row.id := by
        simp only [ContactSaveRequest.isPendingFor, Bool.and_eq_true, decide_eq_true_eq] at own
        exact own.1.1
      rw [List.inj_on_of_nodup_map keys known member same]
      exact ⟨rest, rfl⟩

/-- The INSERT does not look at the requests. -/
theorem insertContacts_resolve {requestId acceptorId fromUserId toUserId : Uuid}
    : insertContacts (tables.resolve requestId acceptorId .accepted resolvedAt) drawn
          fromUserId toUserId
      = (insertContacts tables drawn fromUserId toUserId).map
          (fun after => after.resolve requestId acceptorId .accepted resolvedAt) := by
  have one (before : Tables) (id ownerId contactUserId : Uuid)
      : (before.resolve requestId acceptorId .accepted resolvedAt).insertContact id drawn.now
            ownerId contactUserId
        = (before.insertContact id drawn.now ownerId contactUserId).map
            (fun after => after.resolve requestId acceptorId .accepted resolvedAt) := by
    by_cases present : (ownerId, contactUserId) ∈ before.contacts.map ContactRecord.pair
    · simp [Tables.insertContact, Tables.resolve, present]
    · by_cases taken : id ∈ before.contacts.map ContactRecord.id
      · simp [Tables.insertContact, Tables.resolve, present, taken]
      · simp [Tables.insertContact, Tables.resolve, present, taken]
  simp only [insertContacts, one, Option.bind_map, Option.map_bind, Function.comp_def]

/-- With new ids it goes through. -/
theorem insertContacts_new (new : NewIds tables drawn) (fromUserId toUserId : Uuid)
    : (insertContacts tables drawn fromUserId toUserId).isSome = true := by
  obtain ⟨middle, first, ids⟩ :=
    insertContact_new drawn.now fromUserId toUserId new.first
  have unused : drawn.secondId ∉ middle.contacts.map ContactRecord.id := by
    intro taken
    rcases ids _ taken with old | same
    · exact new.second old
    · exact new.apart same
  obtain ⟨after, second, _⟩ := insertContact_new drawn.now toUserId fromUserId unused
  simp [insertContacts, first, second]

/-- And it links the two users, both ways. -/
theorem insertContacts_links {fromUserId toUserId : Uuid}
    (inserted : insertContacts tables drawn fromUserId toUserId = some after)
    : after.requests = tables.requests
      ∧ after.Linked fromUserId toUserId
      ∧ after.Linked toUserId fromUserId := by
  obtain ⟨middle, first, second⟩ := Option.bind_eq_some_iff.mp inserted
  obtain ⟨requests, _, links⟩ := insertContact_some first
  obtain ⟨requests', _, links'⟩ := insertContact_some second
  refine ⟨requests'.trans requests, (links' _ _).mpr (Or.inl ?_), (links' _ _).mpr (Or.inr rfl)⟩
  exact (links _ _).mpr (Or.inr rfl)

/-- Each way through an acceptance of a pending request. -/
theorem accept_settles {rest : List ContactSaveRequest}
    (found
      : tables.requests.filter (ContactSaveRequest.isPendingFor row.id row.toUserId)
        = row :: rest)
    {post : Except DatabaseError Bool → Tables → Prop}
    : (ContactsService.acceptContactSave resolvedAt drawn row.id row.toUserId).Settles fails
          tables post
      ↔ (fails (.update, .before) = true → post (.error .queryFailed) tables)
        ∧ (fails (.update, .before) = false →
            let resolved := tables.resolve row.id row.toUserId .accepted resolvedAt
            (fails (.update, .after) = true → post (.error .queryFailed) resolved)
            ∧ (fails (.update, .after) = false →
                match fails (.insert, .before),
                    insertContacts tables drawn row.fromUserId row.toUserId with
                | false, some after =>
                    let accepted := after.resolve row.id row.toUserId .accepted resolvedAt
                    let logged :=
                      accepted.log
                        (.contactSaved row.toUserId row.fromUserId row.toUserId row.id)
                    if fails (.insert, .after) then
                      post (.error .queryFailed) accepted
                    else
                      post (.ok true) (if fails (.audit, .before) then accepted else logged)
                | _, _ => post (.error .queryFailed) resolved)) := by
  simp only [ContactsService.acceptContactSave, AuditService.log, settles_bind,
    settles_awaited, settles_tryCatch, settles_pure, found, insertContacts_resolve]
  refine and_congr_right (fun _ => imp_congr_right (fun _ => and_congr_right (fun _ =>
    imp_congr_right (fun _ => ?_))))
  cases fails (.insert, .before) with
  | true => simp
  | false =>
      cases insertContacts tables drawn row.fromUserId row.toUserId with
      | none => simp
      | some after =>
          cases fails (.insert, .after) with
          | true => simp
          | false =>
              cases fails (.audit, .before) with
              | true => simp
              | false =>
                  cases fails (.audit, .after) with
                  | true => simp
                  | false => simp

/-- Without a failure the statements are those of the call that others run in between. -/
theorem accept_alone {requestId acceptorId : Uuid} {saved : Bool} (index : Nat)
    (ended
      : (ContactsService.acceptContactSave resolvedAt drawn requestId acceptorId).run
          (fun _ => false) tables
        = (.ok saved, after))
    : ∃ inputs,
        contactsProgram.alone index tables (.acceptContactSave requestId acceptorId .update)
          inputs
        = some (after, .acceptContactSave requestId acceptorId (.returned saved)) := by
  have settles
      : (ContactsService.acceptContactSave resolvedAt drawn requestId acceptorId).Settles
          (fun _ => false) tables (fun result final => result = .ok saved ∧ final = after) :=
    ⟨congrArg Prod.fst ended, congrArg Prod.snd ended⟩
  simp only [ContactsService.acceptContactSave, AuditService.log, settles_bind,
    settles_awaited, Bool.false_eq_true, false_implies, true_and, true_implies] at settles
  cases rows : tables.requests.filter (ContactSaveRequest.isPendingFor requestId acceptorId) with
  | nil =>
      simp only [rows, settles_pure] at settles
      obtain ⟨returned, rfl⟩ := settles
      cases returned
      refine ⟨[⟨resolvedAt, 0, 0⟩], ?_⟩
      simp [Program.alone, contactsProgram, Call.step, Contacts.ContactsService.acceptContactSave,
        rows]
  | cons row rest =>
      simp only [rows, settles_bind, settles_awaited, settles_pure, settles_tryCatch] at settles
      cases inserted
          : insertContacts (tables.resolve requestId acceptorId .accepted resolvedAt) drawn
              row.fromUserId row.toUserId with
      | none =>
          simp only [inserted, Bool.false_eq_true, false_implies, true_and,
            true_implies] at settles
          cases settles.1
      | some linked =>
          simp only [inserted, Bool.false_eq_true, false_implies, true_and,
            true_implies] at settles
          obtain ⟨returned, rfl⟩ := settles
          cases returned
          rw [insertContacts] at inserted
          let resolved := tables.resolve requestId acceptorId .accepted resolvedAt
          let call (stage : AcceptStage) := Call.acceptContactSave requestId acceptorId stage
          have updates
              : contactsProgram.step index ⟨resolvedAt, 0, 0⟩ tables (call .update)
                = some (resolved, call (.insert row.fromUserId row.toUserId)) := by
            simp [contactsProgram, Call.step, Contacts.ContactsService.acceptContactSave, rows,
              call, resolved]
          have inserts
              : contactsProgram.step index drawn resolved
                    (call (.insert row.fromUserId row.toUserId))
                = some (linked, call (.audit row.fromUserId row.toUserId)) := by
            simp only [contactsProgram, Call.step, Contacts.ContactsService.acceptContactSave,
              call, resolved, inserted, Option.map_some]
          refine ⟨[⟨resolvedAt, 0, 0⟩, drawn, drawn], ?_⟩
          rw [Program.alone_cons _ _ updates, Program.alone_cons _ _ inserts]
          rfl

/-- Without a failure a pending request is accepted. -/
theorem accept_succeeds {rest : List ContactSaveRequest}
    (found
      : tables.requests.filter (ContactSaveRequest.isPendingFor row.id row.toUserId)
        = row :: rest)
    (new : NewIds tables drawn)
    : ((ContactsService.acceptContactSave resolvedAt drawn row.id row.toUserId).run
        (fun _ => false) tables).1
      = .ok true := by
  have settles
      : (ContactsService.acceptContactSave resolvedAt drawn row.id row.toUserId).Settles
          (fun _ => false) tables (fun result _ => result = .ok true) := by
    refine (accept_settles found).mpr ⟨Bool.noConfusion, fun _ => ?_⟩
    obtain ⟨after, inserted⟩ :=
      Option.isSome_iff_exists.mp (insertContacts_new new row.fromUserId row.toUserId)
    simp [inserted]
  exact settles

/-- Once the request has been accepted without an INSERT, only contacts of before can link the
two users. -/
theorem resolved_iff (resolvedAt : Time) (member : row ∈ tables.requests)
    (own : row.isPendingFor row.id row.toUserId = true)
    : (Completed row (tables.resolve row.id row.toUserId .accepted resolvedAt)
        ∨ Untouched tables row (tables.resolve row.id row.toUserId .accepted resolvedAt))
      ↔ tables.Linked row.fromUserId row.toUserId
        ∧ tables.Linked row.toUserId row.fromUserId := by
  have resolved
      : row.resolve .accepted resolvedAt
        ∈ (tables.resolve row.id row.toUserId .accepted resolvedAt).requests :=
    mem_resolve.mpr ⟨row, member, Or.inl ⟨own, rfl⟩⟩
  have touched
      : ¬ Untouched tables row (tables.resolve row.id row.toUserId .accepted resolvedAt) := by
    rintro ⟨⟨row', member', own'⟩, _⟩
    obtain ⟨before, _, ⟨_, rfl⟩ | ⟨other, rfl⟩⟩ := mem_resolve.mp member'
    · simp [ContactSaveRequest.isPendingFor, ContactSaveRequest.resolve] at own'
    · exact absurd (own'.symm.trans other) (by decide)
  rw [or_iff_left touched]
  exact ⟨And.right, fun linked => ⟨⟨_, resolved, rfl, rfl⟩, linked⟩⟩

/-- With the INSERT it has been completed. -/
theorem completed_of_inserted (resolvedAt : Time) (member : row ∈ tables.requests)
    (own : row.isPendingFor row.id row.toUserId = true)
    (inserted : insertContacts tables drawn row.fromUserId row.toUserId = some after)
    : Completed row (after.resolve row.id row.toUserId .accepted resolvedAt) := by
  obtain ⟨requests, links⟩ := insertContacts_links inserted
  have accepted
      : row.resolve .accepted resolvedAt
        ∈ (after.resolve row.id row.toUserId .accepted resolvedAt).requests :=
    mem_resolve.mpr ⟨row, requests ▸ member, Or.inl ⟨own, rfl⟩⟩
  exact ⟨⟨_, accepted, rfl, rfl⟩, links⟩

/-- Accepting a contact is atomic exactly if the UPDATE fails before it takes effect, or it does
not fail and the INSERT takes effect, or each of the two has had the other among the contacts
before.
-/
theorem accept_atomic (keys : (tables.requests.map ContactSaveRequest.id).Nodup)
    (member : row ∈ tables.requests) (pending : row.status = .pending)
    : (ContactsService.acceptContactSave resolvedAt drawn row.id row.toUserId).Settles fails
          tables (fun _ after => Completed row after ∨ Untouched tables row after)
      ↔ fails (.update, .before) = true
        ∨ (fails (.update, .after) = false
          ∧ fails (.insert, .before) = false
          ∧ (insertContacts tables drawn row.fromUserId row.toUserId).isSome = true)
        ∨ (tables.Linked row.fromUserId row.toUserId
          ∧ tables.Linked row.toUserId row.fromUserId) := by
  obtain ⟨rest, found⟩ := pending_found keys member pending
  have own : row.isPendingFor row.id row.toUserId = true := by
    simp [ContactSaveRequest.isPendingFor, pending]
  rw [accept_settles found]
  cases fails (.update, .before) with
  | true =>
      refine iff_of_true ⟨fun _ => Or.inr ⟨⟨row, member, own⟩, rfl, ?_⟩, ?_⟩ (Or.inl rfl)
      · exact fun resolvedAt drawn new => accept_succeeds found new
      · rintro ⟨⟩
  | false =>
      -- the UPDATE has committed: no row is pending any more
      have failed := resolved_iff resolvedAt member own
      cases fails (.update, .after) with
      | true => simp [failed]
      | false =>
          cases fails (.insert, .before) with
          | true => simp [failed]
          | false =>
              cases inserted : insertContacts tables drawn row.fromUserId row.toUserId with
              | none => simp [failed]
              | some after =>
                  have completed := completed_of_inserted resolvedAt member own inserted
                  refine iff_of_true
                    ⟨Bool.noConfusion, fun _ => ⟨Bool.noConfusion, fun _ => ?_⟩⟩
                    (Or.inr (Or.inl ⟨rfl, rfl, rfl⟩))
                  dsimp only
                  cases fails (.insert, .after) with
                  | true => exact Or.inl completed
                  | false =>
                      cases fails (.audit, .before) with
                      | true => exact Or.inl completed
                      | false => exact Or.inl completed

end

/-- A pending request of user 1 to user 2. -/
def someTables : Tables where
  requests := [⟨10, 5, 1, 2, .pending, 0, none⟩]
  contacts := []
  audits := []

theorem accept_atomic_update_fails
    : (ContactsService.acceptContactSave 7 ⟨8, 20, 21⟩ 10 2).Settles
        (· = (.update, .before)) someTables
        (fun _ after =>
          Completed ⟨10, 5, 1, 2, .pending, 0, none⟩ after
          ∨ Untouched someTables ⟨10, 5, 1, 2, .pending, 0, none⟩ after) :=
  (accept_atomic (by decide) (by decide) rfl).mpr (Or.inl (by decide))

/-- Otherwise the request is accepted without contacts, and a retry finds nothing to accept. -/
theorem accepted_without_contacts
    : ¬ (ContactsService.acceptContactSave 7 ⟨8, 20, 21⟩ 10 2).Settles
          (· = (.insert, .before)) someTables
          (fun _ after =>
            Completed ⟨10, 5, 1, 2, .pending, 0, none⟩ after
            ∨ Untouched someTables ⟨10, 5, 1, 2, .pending, 0, none⟩ after)
      ∧ ((ContactsService.acceptContactSave 7 ⟨8, 20, 21⟩ 10 2).run (· = (.insert, .before))
          someTables).2
        = ⟨[⟨10, 5, 1, 2, .accepted, 0, some 7⟩], [], []⟩
      ∧ (ContactsService.acceptContactSave 9 ⟨9, 20, 21⟩ 10 2).run (fun _ => false)
          ((ContactsService.acceptContactSave 7 ⟨8, 20, 21⟩ 10 2).run (· = (.insert, .before))
            someTables).2
        = (.ok false, ⟨[⟨10, 5, 1, 2, .accepted, 0, some 7⟩], [], []⟩) := by
  have left
      : ((ContactsService.acceptContactSave 7 ⟨8, 20, 21⟩ 10 2).run (· = (.insert, .before))
          someTables).2
        = ⟨[⟨10, 5, 1, 2, .accepted, 0, some 7⟩], [], []⟩ := by
    decide
  refine ⟨fun atomic => ?_, left, by decide⟩
  unfold Script.Settles at atomic
  rw [left] at atomic
  rcases atomic with ⟨_, linked, _⟩ | ⟨⟨row, member, pending⟩, _⟩
  · cases linked
  · cases List.mem_singleton.mp member
    simp [ContactSaveRequest.isPendingFor] at pending

end NexusComms.Contacts.Scripts
