import NexusComms.Basic
import NexusComms.Concurrency.Interleaving

/-! `ContactsService`: the handshake after a call, suspended at every SQL statement. A stage is
named after the statement that its next step runs.
-/

namespace NexusComms.Contacts

open Concurrency

inductive RequestStatus where
  | pending
  | accepted
  | rejected
  | expired
deriving DecidableEq, Repr

/-- A row of `contact_save_requests`. -/
structure ContactSaveRequest where
  id : Uuid
  callSessionId : Uuid
  fromUserId : Uuid
  toUserId : Uuid
  status : RequestStatus
  createdAt : Time
  resolvedAt : Option Time
deriving DecidableEq, Repr

/-- A row of `contacts`. -/
structure ContactRecord where
  id : Uuid
  ownerId : Uuid
  contactUserId : Uuid
  nickname : Option String
  savedAt : Time
deriving DecidableEq, Repr

/-- The rows that the service writes through `AuditService.log`. -/
inductive AuditRow where
  | contactSaveRequested (userId callSessionId toUserId : Uuid)
  | contactSaved (userId fromUserId toUserId requestId : Uuid)
  | contactSaveRejected (userId requestId : Uuid)
deriving DecidableEq, Repr

/-- The tables that the handshake reads and writes, in insertion order. -/
structure Tables where
  requests : List ContactSaveRequest
  contacts : List ContactRecord
  audits : List AuditRow
deriving DecidableEq, Repr

def Tables.empty : Tables := ⟨[], [], []⟩

/-- UNIQUE (call_session_id, from_user_id, to_user_id). -/
def ContactSaveRequest.triple (row : ContactSaveRequest) : Uuid × Uuid × Uuid :=
  (row.callSessionId, row.fromUserId, row.toUserId)

/-- UNIQUE (owner_id, contact_user_id). -/
def ContactRecord.pair (row : ContactRecord) : Uuid × Uuid :=
  (row.ownerId, row.contactUserId)

/-- `WHERE id = $1 AND to_user_id = $2 AND status = 'pending'`. -/
def ContactSaveRequest.isPendingFor (requestId userId : Uuid) (row : ContactSaveRequest)
    : Bool :=
  row.id = requestId && row.toUserId = userId && row.status = .pending

/-- `SET status = ..., resolved_at = NOW()`. -/
def ContactSaveRequest.resolve (status : RequestStatus) (now : Time)
    (row : ContactSaveRequest)
    : ContactSaveRequest :=
  { row with status := status, resolvedAt := some now }

namespace Tables

/-- The UPDATE of `acceptContactSave` and `rejectContactSave`. -/
def resolve (tables : Tables) (requestId userId : Uuid) (status : RequestStatus) (now : Time)
    : Tables :=
  {
    tables with
    requests :=
      tables.requests.map
        (fun row => if row.isPendingFor requestId userId then row.resolve status now else row)
  }

/-- One row of the INSERT into `contacts`, ON CONFLICT DO NOTHING. A duplicate id fails the
statement. -/
def insertContact (tables : Tables) (id : Uuid) (now : Time) (ownerId contactUserId : Uuid)
    : Option Tables :=
  if (ownerId, contactUserId) ∈ tables.contacts.map ContactRecord.pair then
    some tables
  else if id ∈ tables.contacts.map ContactRecord.id then
    none
  else
    some { tables with contacts := tables.contacts ++ [⟨id, ownerId, contactUserId, none, now⟩] }

def log (tables : Tables) (row : AuditRow) : Tables :=
  { tables with audits := tables.audits ++ [row] }

end Tables

inductive RequestStage where
  | insert
  | select
  | audit (row : ContactSaveRequest)
  | returned (row : ContactSaveRequest)
  | threw (message : String)
deriving DecidableEq, Repr

inductive AcceptStage where
  | update
  | insert (fromUserId toUserId : Uuid)
  | audit (fromUserId toUserId : Uuid)
  | returned (saved : Bool)
deriving DecidableEq, Repr

inductive RejectStage where
  | update
  | audit
  | returned
deriving DecidableEq, Repr

/-- `NOW()` and the ids that `gen_random_uuid()` draws for the rows of a statement. -/
structure Drawn where
  now : Time
  id : Uuid := 0
  secondId : Uuid := 0
deriving DecidableEq, Repr

namespace ContactsService

/-- The next statement of `requestContactSave`. -/
def requestContactSave (drawn : Drawn) (tables : Tables)
    (callSessionId fromUserId toUserId : Uuid)
    : RequestStage → Option (Tables × RequestStage)
  | .insert =>
      if (callSessionId, fromUserId, toUserId)
          ∈ tables.requests.map ContactSaveRequest.triple then
        some (tables, .select)
      else if drawn.id ∈ tables.requests.map ContactSaveRequest.id then
        none
      else
        let row : ContactSaveRequest :=
          ⟨drawn.id, callSessionId, fromUserId, toUserId, .pending, drawn.now, none⟩
        some ({ tables with requests := tables.requests ++ [row] }, .audit row)
  | .select =>
      match tables.requests.filter
          (fun row => row.triple = (callSessionId, fromUserId, toUserId)) with
      | [] => some (tables, .threw "Contact save request could not be created.")
      | existing :: _ => some (tables, .returned existing)
  | .audit row =>
      some (tables.log (.contactSaveRequested fromUserId callSessionId toUserId), .returned row)
  | .returned _ => none
  | .threw _ => none

/-- The next statement of `acceptContactSave`. -/
def acceptContactSave (drawn : Drawn) (tables : Tables) (requestId acceptorId : Uuid)
    : AcceptStage → Option (Tables × AcceptStage)
  | .update =>
      let tables' := tables.resolve requestId acceptorId .accepted drawn.now
      match tables.requests.filter (ContactSaveRequest.isPendingFor requestId acceptorId) with
      | [] => some (tables', .returned false)
      | row :: _ => some (tables', .insert row.fromUserId row.toUserId)
  | .insert fromUserId toUserId =>
      ((tables.insertContact drawn.id drawn.now fromUserId toUserId).bind
        (fun tables' => tables'.insertContact drawn.secondId drawn.now toUserId fromUserId)).map
        (fun tables' => (tables', .audit fromUserId toUserId))
  | .audit fromUserId toUserId =>
      some (tables.log (.contactSaved acceptorId fromUserId toUserId requestId), .returned true)
  | .returned _ => none

/-- The next statement of `rejectContactSave`. -/
def rejectContactSave (drawn : Drawn) (tables : Tables) (requestId userId : Uuid)
    : RejectStage → Option (Tables × RejectStage)
  | .update => some (tables.resolve requestId userId .rejected drawn.now, .audit)
  | .audit => some (tables.log (.contactSaveRejected userId requestId), .returned)
  | .returned => none

/-- `UPDATE contacts SET nickname = $1 WHERE id = $2 AND owner_id = $3`. -/
def updateNickname (tables : Tables) (ownerId contactId : Uuid) (nickname : String) : Tables :=
  {
    tables with
    contacts :=
      tables.contacts.map
        (fun row =>
          if row.id = contactId ∧ row.ownerId = ownerId then
            { row with nickname := some nickname }
          else
            row)
  }

/-- `DELETE FROM contacts WHERE id = $1 AND owner_id = $2`. -/
def removeContact (tables : Tables) (ownerId contactId : Uuid) : Tables :=
  {
    tables with
    contacts :=
      tables.contacts.filter (fun row => ¬ (row.id = contactId ∧ row.ownerId = ownerId))
  }

end ContactsService

/-- A call of the service, with its arguments. -/
inductive Call where
  | requestContactSave (callSessionId fromUserId toUserId : Uuid) (stage : RequestStage)
  | acceptContactSave (requestId acceptorId : Uuid) (stage : AcceptStage)
  | rejectContactSave (requestId userId : Uuid) (stage : RejectStage)
deriving DecidableEq, Repr

/-- A call begins before its first statement and has touched nothing yet. -/
def Call.start (tables : Tables) : Call → Option Tables
  | .requestContactSave _ _ _ .insert => some tables
  | .acceptContactSave _ _ .update => some tables
  | .rejectContactSave _ _ .update => some tables
  | _ => none

/-- The next statement of a call. -/
def Call.step (drawn : Drawn) (tables : Tables) : Call → Option (Tables × Call)
  | .requestContactSave callSessionId fromUserId toUserId stage =>
      (ContactsService.requestContactSave drawn tables callSessionId fromUserId toUserId stage).map
        (fun result =>
          (result.1, .requestContactSave callSessionId fromUserId toUserId result.2))
  | .acceptContactSave requestId acceptorId stage =>
      (ContactsService.acceptContactSave drawn tables requestId acceptorId stage).map
        (fun result => (result.1, .acceptContactSave requestId acceptorId result.2))
  | .rejectContactSave requestId userId stage =>
      (ContactsService.rejectContactSave drawn tables requestId userId stage).map
        (fun result => (result.1, .rejectContactSave requestId userId result.2))

/-- The call has returned. -/
def Call.finished : Call → Bool
  | .requestContactSave _ _ _ (.returned _) => true
  | .requestContactSave _ _ _ (.threw _) => true
  | .acceptContactSave _ _ (.returned _) => true
  | .rejectContactSave _ _ .returned => true
  | _ => false

/-- Any number of calls by any users. -/
def contactsProgram : Program Tables Call Drawn where
  start := fun _ => Call.start
  step := fun _ => Call.step

/-- Every interleaving of their statements, from empty tables. -/
abbrev contactsMachine : Machine (Pool Tables Call) (Move Call Drawn) :=
  contactsProgram.machine Tables.empty

end NexusComms.Contacts
