import Mathlib.Data.List.Nodup
import Mathlib.Logic.Relation
import NexusComms.Contacts.Service

/-! The contacts are what the accepted handshakes make them, in every interleaving of the
calls. Rows are never deleted and a status other than pending is final, so what a call knows
about its rows stays true while others run.
-/

namespace NexusComms.Contacts

open Concurrency Program

/-- A handshake between the two users has been accepted. -/
def Tables.Accepted (tables : Tables) (fromUserId toUserId : Uuid) : Prop :=
  ∃ row ∈ tables.requests,
    row.status = .accepted ∧ row.fromUserId = fromUserId ∧ row.toUserId = toUserId

/-- The first user has the second one among the contacts. -/
def Tables.Linked (tables : Tables) (ownerId contactUserId : Uuid) : Prop :=
  (ownerId, contactUserId) ∈ tables.contacts.map ContactRecord.pair

/-- What identifies a request row: its id and the triple that is unique. -/
def ContactSaveRequest.identity (row : ContactSaveRequest) : Uuid × Uuid × Uuid × Uuid :=
  (row.id, row.triple)

/-- The row that the next UPDATE of a call names, the user it acts as, and the new status. -/
def Call.resolves : Call → Option (Uuid × Uuid × RequestStatus)
  | .acceptContactSave requestId acceptorId .update => some (requestId, acceptorId, .accepted)
  | .rejectContactSave requestId userId .update => some (requestId, userId, .rejected)
  | _ => none

/-- The pair of users whose contacts the next INSERT of a call writes. -/
def Call.inserting : Call → Option (Uuid × Uuid)
  | .acceptContactSave _ _ (.insert fromUserId toUserId) => some (fromUserId, toUserId)
  | _ => none

namespace Tables

/-- The row with this id is pending. -/
def isPending (tables : Tables) (id : Uuid) : Bool :=
  tables.requests.any (fun row => row.id = id && row.status = .pending)

/-- The row with this id has left pending. -/
def isResolved (tables : Tables) (id : Uuid) : Bool :=
  tables.requests.any (fun row => row.id = id && row.status ≠ .pending)

end Tables

/-- In this step the row with this id leaves pending. -/
def leavesPending (id : Uuid) (taken : Taken (Pool Tables Call) (Move Call Drawn)) : Bool :=
  taken.before.shared.isPending id && taken.after.shared.isResolved id

-----------------------------------------------------------------------------------------
-- The tables
-----------------------------------------------------------------------------------------

/-- No row disappears, a request row keeps its identity, and its status is final once it is
not pending. -/
structure Grows (before after : Tables) : Prop where
  requests
    : ∀ row ∈ before.requests,
        ∃ row' ∈ after.requests,
          row'.identity = row.identity ∧ (row.status ≠ .pending → row'.status = row.status)
  contacts : ∀ owner contact, before.Linked owner contact → after.Linked owner contact

/-- The unique keys of the tables, and every contact comes from an accepted handshake. -/
structure Wellformed (tables : Tables) : Prop where
  ids : (tables.requests.map ContactSaveRequest.id).Nodup
  triples : (tables.requests.map ContactSaveRequest.triple).Nodup
  pairs : (tables.contacts.map ContactRecord.pair).Nodup
  linked
    : ∀ owner contact,
        tables.Linked owner contact → Relation.SymmGen tables.Accepted owner contact

section

variable {tables tables' : Tables}

theorem Grows.refl (tables : Tables) : Grows tables tables where
  requests := fun row member => ⟨row, member, rfl, fun _ => rfl⟩
  contacts := fun _ _ linked => linked

theorem Grows.trans {first second third : Tables} (before : Grows first second)
    (after : Grows second third)
    : Grows first third where
  requests := by
    intro row member
    obtain ⟨row', member', same, final⟩ := before.requests row member
    obtain ⟨row'', member'', same', final'⟩ := after.requests row' member'
    refine ⟨row'', member'', same'.trans same, fun settled => ?_⟩
    have kept := final settled
    rw [← kept] at settled ⊢
    exact final' settled
  contacts := fun owner contact linked => after.contacts _ _ (before.contacts _ _ linked)

/-- A step that touches no row. -/
theorem Grows.of_eq (requests : tables'.requests = tables.requests)
    (contacts : tables'.contacts = tables.contacts)
    : Grows tables tables' where
  requests := by
    rw [requests]
    exact fun row member => ⟨row, member, rfl, fun _ => rfl⟩
  contacts := by
    intro owner contact linked
    rw [Tables.Linked, contacts]
    exact linked

/-- An accepted handshake stays accepted. -/
theorem Grows.accepted (grows : Grows tables tables') {fromUserId toUserId : Uuid}
    (accepted : tables.Accepted fromUserId toUserId)
    : tables'.Accepted fromUserId toUserId := by
  obtain ⟨row, member, status, rfl, rfl⟩ := accepted
  obtain ⟨row', member', same, final⟩ := grows.requests row member
  have triple : row'.triple = row.triple := congrArg Prod.snd same
  have users : row'.fromUserId = row.fromUserId ∧ row'.toUserId = row.toUserId := by
    simpa [ContactSaveRequest.triple] using congrArg Prod.snd triple
  exact ⟨row', member', (final (by simp [status])).trans status, users⟩

/-- A row that has left pending does not come back. -/
theorem Grows.resolved (grows : Grows tables tables') {id : Uuid}
    (resolved : tables.isResolved id = true)
    : tables'.isResolved id = true := by
  obtain ⟨row, member, kind⟩ := List.any_eq_true.mp resolved
  simp only [Bool.and_eq_true, decide_eq_true_eq] at kind
  obtain ⟨row', member', same, final⟩ := grows.requests row member
  refine List.any_eq_true.mpr ⟨row', member', ?_⟩
  have sameId : row'.id = row.id := congrArg Prod.fst same
  simp [sameId, kind.1, final kind.2, kind.2]

/-- The rows keep their unique keys, and so do contacts that nobody touches. -/
theorem Wellformed.of_requests (wellformed : Wellformed tables)
    (identities
      : tables'.requests.map ContactSaveRequest.identity
        = tables.requests.map ContactSaveRequest.identity)
    (contacts : tables'.contacts = tables.contacts) (grows : Grows tables tables')
    : Wellformed tables' := by
  have ids
      : tables'.requests.map ContactSaveRequest.id
        = tables.requests.map ContactSaveRequest.id := by
    simpa [Function.comp_def, ContactSaveRequest.identity]
      using congrArg (List.map Prod.fst) identities
  have triples
      : tables'.requests.map ContactSaveRequest.triple
        = tables.requests.map ContactSaveRequest.triple := by
    simpa [Function.comp_def, ContactSaveRequest.identity]
      using congrArg (List.map Prod.snd) identities
  refine ⟨ids ▸ wellformed.ids, triples ▸ wellformed.triples, contacts ▸ wellformed.pairs, ?_⟩
  intro owner contact linked
  rw [Tables.Linked, contacts] at linked
  rcases wellformed.linked owner contact linked with forth | back
  · exact Or.inl (grows.accepted forth)
  · exact Or.inr (grows.accepted back)

/-- An id names one row. -/
theorem Wellformed.same_row (wellformed : Wellformed tables) {row other : ContactSaveRequest}
    (member : row ∈ tables.requests) (member' : other ∈ tables.requests)
    (same : row.id = other.id)
    : row = other :=
  List.inj_on_of_nodup_map wellformed.ids member member' same

-----------------------------------------------------------------------------------------
-- The statements
-----------------------------------------------------------------------------------------

/-- Rows after the UPDATE are those before it, resolved where the UPDATE meets them. -/
theorem mem_resolve {requestId userId : Uuid} {status : RequestStatus} {now : Time}
    {row' : ContactSaveRequest}
    : row' ∈ (tables.resolve requestId userId status now).requests
      ↔ ∃ row ∈ tables.requests,
          (row.isPendingFor requestId userId = true ∧ row' = row.resolve status now)
          ∨ (row.isPendingFor requestId userId = false ∧ row' = row) := by
  constructor
  · intro member
    obtain ⟨row, known, image⟩ := List.mem_map.mp member
    refine ⟨row, known, ?_⟩
    split at image
    · rename_i pending
      exact Or.inl ⟨pending, image.symm⟩
    · rename_i other
      exact Or.inr ⟨Bool.eq_false_iff.mpr other, image.symm⟩
  · rintro ⟨row, known, ⟨pending, rfl⟩ | ⟨other, rfl⟩⟩
    · exact List.mem_map.mpr ⟨row, known, by simp [pending]⟩
    · exact List.mem_map.mpr ⟨row', known, by simp [other]⟩

/-- The UPDATE changes no identity. -/
theorem resolve_identities (requestId userId : Uuid) (status : RequestStatus) (now : Time)
    : (tables.resolve requestId userId status now).requests.map ContactSaveRequest.identity
      = tables.requests.map ContactSaveRequest.identity := by
  simp only [Tables.resolve, List.map_map]
  refine List.map_congr_left (fun row _ => ?_)
  simp only [Function.comp_apply]
  split
  · rfl
  · rfl

/-- The UPDATE changes pending rows only. -/
theorem resolve_grows (requestId userId : Uuid) (status : RequestStatus) (now : Time)
    : Grows tables (tables.resolve requestId userId status now) where
  requests := by
    intro row member
    by_cases pending : row.isPendingFor requestId userId = true
    · refine ⟨row.resolve status now, mem_resolve.mpr ⟨row, member, Or.inl ⟨pending, rfl⟩⟩,
        rfl, fun settled => ?_⟩
      simp only [ContactSaveRequest.isPendingFor, Bool.and_eq_true, decide_eq_true_eq]
        at pending
      exact absurd pending.2 settled
    · exact ⟨row, mem_resolve.mpr ⟨row, member, Or.inr ⟨Bool.eq_false_iff.mpr pending, rfl⟩⟩,
        rfl, fun _ => rfl⟩
  contacts := fun _ _ linked => linked

/-- A row with a new key keeps the keys unique. -/
theorem nodup_map_concat {ρ κ : Type} {key : ρ → κ} {rows : List ρ} {row : ρ}
    (nodup : (rows.map key).Nodup) (absent : key row ∉ rows.map key)
    : ((rows ++ [row]).map key).Nodup := by
  rw [List.map_append, List.map_singleton, ← List.concat_eq_append]
  exact (List.nodup_concat _ _).mpr ⟨absent, nodup⟩

/-- The INSERT of a request row loses nothing. -/
theorem Grows.of_insert {row : ContactSaveRequest}
    (requests : tables'.requests = tables.requests ++ [row])
    (contacts : tables'.contacts = tables.contacts)
    : Grows tables tables' where
  requests := by
    intro old member
    refine ⟨old, ?_, rfl, fun _ => rfl⟩
    rw [requests]
    exact List.mem_append_left _ member
  contacts := by
    intro owner contact linked
    rw [Tables.Linked, contacts]
    exact linked

/-- The INSERT of a request row whose keys are both new. -/
theorem Wellformed.insert (row : ContactSaveRequest) (wellformed : Wellformed tables)
    (newId : row.id ∉ tables.requests.map ContactSaveRequest.id)
    (newTriple : row.triple ∉ tables.requests.map ContactSaveRequest.triple)
    (requests : tables'.requests = tables.requests ++ [row])
    (contacts : tables'.contacts = tables.contacts)
    : Wellformed tables' where
  ids := by
    rw [requests]
    exact nodup_map_concat wellformed.ids newId
  triples := by
    rw [requests]
    exact nodup_map_concat wellformed.triples newTriple
  pairs := contacts ▸ wellformed.pairs
  linked := by
    have grows : Grows tables tables' := .of_insert requests contacts
    intro owner contact linked
    rw [Tables.Linked, contacts] at linked
    rcases wellformed.linked owner contact linked with forth | back
    · exact Or.inl (grows.accepted forth)
    · exact Or.inr (grows.accepted back)

/-- One row of the INSERT into `contacts` links the two users and nobody else. -/
theorem insertContact_some {id : Uuid} {now : Time} {ownerId contactUserId : Uuid}
    (inserted : tables.insertContact id now ownerId contactUserId = some tables')
    : tables'.requests = tables.requests
      ∧ ((tables.contacts.map ContactRecord.pair).Nodup →
          (tables'.contacts.map ContactRecord.pair).Nodup)
      ∧ ∀ owner contact,
          tables'.Linked owner contact
            ↔ tables.Linked owner contact ∨ (owner, contact) = (ownerId, contactUserId) := by
  unfold Tables.insertContact at inserted
  split at inserted
  · rename_i present
    cases inserted
    refine ⟨rfl, fun nodup => nodup, fun owner contact => ⟨Or.inl, ?_⟩⟩
    rintro (linked | same)
    · exact linked
    · rw [Tables.Linked, same]
      exact present
  · rename_i absent
    split at inserted
    · cases inserted
    · cases inserted
      refine ⟨rfl, fun nodup => nodup_map_concat nodup absent, fun owner contact => ?_⟩
      simp [Tables.Linked, ContactRecord.pair]

-----------------------------------------------------------------------------------------
-- The calls
-----------------------------------------------------------------------------------------

/-- What a call may rely on between two of its statements. -/
def Call.Knows (tables : Tables) : Call → Prop
  | .requestContactSave callSessionId fromUserId toUserId .select =>
      (callSessionId, fromUserId, toUserId)
        ∈ tables.requests.map ContactSaveRequest.triple
  | .requestContactSave callSessionId fromUserId toUserId (.audit row) =>
      row.triple = (callSessionId, fromUserId, toUserId)
      ∧ row.identity ∈ tables.requests.map ContactSaveRequest.identity
  | .requestContactSave callSessionId fromUserId toUserId (.returned row) =>
      row.triple = (callSessionId, fromUserId, toUserId)
      ∧ row.identity ∈ tables.requests.map ContactSaveRequest.identity
  | .requestContactSave _ _ _ (.threw _) => False
  | .acceptContactSave _ _ (.insert fromUserId toUserId) =>
      tables.Accepted fromUserId toUserId
  | _ => True

/-- The assertion of one call slot. -/
def CallHolds (tables : Tables) (_ : Nat) (slot : Option Call) : Prop :=
  ∀ call ∈ slot, call.Knows tables

/-- Calls keep what they know while the tables grow. -/
theorem Call.Knows.frame {call : Call} (knows : call.Knows tables)
    (grows : Grows tables tables')
    : call.Knows tables' := by
  have identity {row : ContactSaveRequest}
      (known : row.identity ∈ tables.requests.map ContactSaveRequest.identity)
      : row.identity ∈ tables'.requests.map ContactSaveRequest.identity := by
    obtain ⟨old, member, same⟩ := List.mem_map.mp known
    obtain ⟨row', member', same', _⟩ := grows.requests old member
    exact List.mem_map.mpr ⟨row', member', same'.trans same⟩
  unfold Call.Knows at knows ⊢
  split at knows
  · obtain ⟨old, member, same⟩ := List.mem_map.mp knows
    obtain ⟨row', member', same', _⟩ := grows.requests old member
    have triple : row'.triple = old.triple := congrArg Prod.snd same'
    exact List.mem_map.mpr ⟨row', member', triple.trans same⟩
  · exact ⟨knows.1, identity knows.2⟩
  · exact ⟨knows.1, identity knows.2⟩
  · exact knows
  · exact grows.accepted knows
  · trivial

/-- All that one statement can do: it keeps the keys, loses nothing, settles pending rows only
as their `to_user_id`, and what it accepts or inserts is what its call goes on with. -/
structure CallStep (before after : Tables) (call call' : Call) : Prop where
  wellformed : Wellformed after
  grows : Grows before after
  knows : call'.Knows after
  accepted
    : ∀ fromUserId toUserId, after.Accepted fromUserId toUserId →
        before.Accepted fromUserId toUserId
        ∨ call'.inserting = some (fromUserId, toUserId)
  inserted
    : ∀ pair ∈ call.inserting, after.Linked pair.1 pair.2 ∧ after.Linked pair.2 pair.1
  settled
    : ∀ row' ∈ after.requests, row'.status ≠ .pending →
        ∃ row ∈ before.requests,
          row.identity = row'.identity
          ∧ (row.status ≠ .pending
            ∨ call.resolves = some (row.id, row.toUserId, row'.status))
  effective
    : ∀ row ∈ before.requests, ∀ status,
        call.resolves = some (row.id, row.toUserId, status) → after.isResolved row.id = true

variable {call call' : Call} {drawn : Drawn}

/-- A statement that leaves both tables alone. -/
theorem CallStep.of_eq (wellformed : Wellformed tables)
    (requests : tables'.requests = tables.requests)
    (contacts : tables'.contacts = tables.contacts) (knows : call'.Knows tables')
    (inserting : call.inserting = none) (resolves : call.resolves = none)
    : CallStep tables tables' call call' := by
  have grows : Grows tables tables' := .of_eq requests contacts
  refine ⟨wellformed.of_requests (by rw [requests]) contacts grows, grows, knows, ?_, ?_, ?_, ?_⟩
  · intro fromUserId toUserId accepted
    rw [Tables.Accepted, requests] at accepted
    exact Or.inl accepted
  · rw [inserting]
    intro pair member
    cases member
  · rw [requests]
    intro row member settled
    exact ⟨row, member, rfl, Or.inl settled⟩
  · rw [resolves]
    intro row _ status named
    cases named

/-- An UPDATE by the user that its call acts as. -/
theorem CallStep.of_resolve {requestId userId : Uuid} {status : RequestStatus} {now : Time}
    (wellformed : Wellformed tables)
    (resolves : call.resolves = some (requestId, userId, status))
    (settles : status ≠ .pending) (inserting : call.inserting = none)
    (knows : call'.Knows (tables.resolve requestId userId status now))
    (goesOn
      : ∀ row ∈ tables.requests,
          row.isPendingFor requestId userId = true → status = .accepted →
            call'.inserting = some (row.fromUserId, row.toUserId))
    : CallStep tables (tables.resolve requestId userId status now) call call' := by
  have grows : Grows tables (tables.resolve requestId userId status now) :=
    resolve_grows requestId userId status now
  refine ⟨wellformed.of_requests (resolve_identities _ _ _ _) rfl grows, grows, knows, ?_, ?_,
    ?_, ?_⟩
  · rintro fromUserId toUserId ⟨row', member', accepted, rfl, rfl⟩
    obtain ⟨row, member, ⟨pending, rfl⟩ | ⟨_, rfl⟩⟩ := mem_resolve.mp member'
    · exact Or.inr (goesOn row member pending accepted)
    · exact Or.inl ⟨row', member, accepted, rfl, rfl⟩
  · rw [inserting]
    intro pair member
    cases member
  · intro row' member' settled
    obtain ⟨row, member, ⟨pending, rfl⟩ | ⟨_, rfl⟩⟩ := mem_resolve.mp member'
    · simp only [ContactSaveRequest.isPendingFor, Bool.and_eq_true, decide_eq_true_eq] at pending
      refine ⟨row, member, rfl, Or.inr ?_⟩
      rw [resolves, pending.1.1, pending.1.2]
      rfl
    · exact ⟨row', member, rfl, Or.inl settled⟩
  · intro row member status' named
    rw [resolves] at named
    cases named
    by_cases pending : row.isPendingFor row.id row.toUserId = true
    · refine List.any_eq_true.mpr ⟨row.resolve status now,
        mem_resolve.mpr ⟨row, member, Or.inl ⟨pending, rfl⟩⟩, ?_⟩
      simp [ContactSaveRequest.resolve, settles]
    · have settled : row.status ≠ .pending := by
        simpa [ContactSaveRequest.isPendingFor] using pending
      refine List.any_eq_true.mpr ⟨row,
        mem_resolve.mpr ⟨row, member, Or.inr ⟨Bool.eq_false_iff.mpr pending, rfl⟩⟩, ?_⟩
      simp [settled]

/-- The INSERT of a pending request row whose keys are both new. -/
theorem CallStep.of_insert (row : ContactSaveRequest) (wellformed : Wellformed tables)
    (pending : row.status = .pending)
    (newId : row.id ∉ tables.requests.map ContactSaveRequest.id)
    (newTriple : row.triple ∉ tables.requests.map ContactSaveRequest.triple)
    (requests : tables'.requests = tables.requests ++ [row])
    (contacts : tables'.contacts = tables.contacts) (knows : call'.Knows tables')
    (inserting : call.inserting = none) (resolves : call.resolves = none)
    : CallStep tables tables' call call' := by
  have known {row' : ContactSaveRequest} (member : row' ∈ tables'.requests)
      (settled : row'.status ≠ .pending)
      : row' ∈ tables.requests := by
    rw [requests] at member
    rcases List.mem_append.mp member with old | new
    · exact old
    · rw [List.mem_singleton.mp new] at settled
      exact absurd pending settled
  refine ⟨wellformed.insert row newId newTriple requests contacts, .of_insert requests contacts,
    knows, ?_, ?_, ?_, ?_⟩
  · rintro fromUserId toUserId ⟨row', member, status, users⟩
    exact Or.inl ⟨row', known member (by simp [status]), status, users⟩
  · rw [inserting]
    intro pair member
    cases member
  · intro row' member settled
    exact ⟨row', known member settled, rfl, Or.inl settled⟩
  · rw [resolves]
    intro row' _ status named
    cases named

/-- The INSERT of both contacts of an accepted handshake. -/
theorem CallStep.of_link {fromUserId toUserId : Uuid} {middle : Tables} {id secondId : Uuid}
    {now : Time} (wellformed : Wellformed tables)
    (accepted : tables.Accepted fromUserId toUserId)
    (forth : tables.insertContact id now fromUserId toUserId = some middle)
    (back : middle.insertContact secondId now toUserId fromUserId = some tables')
    (knows : call'.Knows tables') (inserting : call.inserting = some (fromUserId, toUserId))
    (resolves : call.resolves = none)
    : CallStep tables tables' call call' := by
  obtain ⟨requests, pairs, linked⟩ := insertContact_some forth
  obtain ⟨requests', pairs', linked'⟩ := insertContact_some back
  have same : tables'.requests = tables.requests := requests'.trans requests
  have grows : Grows tables tables' := by
    refine ⟨?_, fun owner contact known => ?_⟩
    · rw [same]
      exact fun row member => ⟨row, member, rfl, fun _ => rfl⟩
    · exact (linked' owner contact).mpr (Or.inl ((linked owner contact).mpr (Or.inl known)))
  have handshakes : tables'.Accepted = tables.Accepted := by
    funext first second
    rw [Tables.Accepted, Tables.Accepted, same]
  refine ⟨⟨same ▸ wellformed.ids, same ▸ wellformed.triples, pairs' (pairs wellformed.pairs),
    ?_⟩, grows, knows, ?_, ?_, ?_, ?_⟩
  · intro owner contact known
    rw [handshakes]
    rcases (linked' owner contact).mp known with earlier | second
    · rcases (linked owner contact).mp earlier with old | first
      · exact wellformed.linked owner contact old
      · cases first
        exact Or.inl accepted
    · cases second
      exact Or.inr accepted
  · intro first second known
    rw [handshakes] at known
    exact Or.inl known
  · rw [inserting]
    intro pair member
    cases member
    refine ⟨(linked' _ _).mpr (Or.inl ((linked _ _).mpr (Or.inr rfl))), ?_⟩
    exact (linked' _ _).mpr (Or.inr rfl)
  · rw [same]
    intro row member settled
    exact ⟨row, member, rfl, Or.inl settled⟩
  · rw [resolves]
    intro row _ status named
    cases named

/-- Every statement of `requestContactSave`. The SELECT finds the row that the INSERT has met,
so the exception is never thrown. -/
theorem request_step {callSessionId fromUserId toUserId : Uuid} {stage stage' : RequestStage}
    (wellformed : Wellformed tables)
    (knows : (Call.requestContactSave callSessionId fromUserId toUserId stage).Knows tables)
    (ran
      : ContactsService.requestContactSave drawn tables callSessionId fromUserId toUserId stage
        = some (tables', stage'))
    : CallStep tables tables' (.requestContactSave callSessionId fromUserId toUserId stage)
        (.requestContactSave callSessionId fromUserId toUserId stage') := by
  cases stage with
  | insert =>
      simp only [ContactsService.requestContactSave] at ran
      split at ran
      · rename_i present
        cases ran
        exact .of_eq wellformed rfl rfl present rfl rfl
      · rename_i absent
        split at ran
        · cases ran
        · rename_i unused
          cases ran
          refine .of_insert
            ⟨drawn.id, callSessionId, fromUserId, toUserId, .pending, drawn.now, none⟩
            wellformed rfl unused absent rfl rfl ⟨rfl, ?_⟩ rfl rfl
          exact List.mem_map_of_mem (List.mem_append_right _ (List.mem_singleton_self _))
  | select =>
      obtain ⟨row, member, same⟩ := List.mem_map.mp knows
      simp only [ContactsService.requestContactSave] at ran
      split at ran
      · rename_i nothing
        have found
            : row ∈ tables.requests.filter
                (fun row => row.triple = (callSessionId, fromUserId, toUserId)) :=
          List.mem_filter.mpr ⟨member, decide_eq_true same⟩
        rw [nothing] at found
        cases found
      · rename_i existing rest found
        cases ran
        have selected := List.mem_filter.mp (found ▸ List.mem_cons_self)
        exact .of_eq wellformed rfl rfl
          ⟨of_decide_eq_true selected.2, List.mem_map_of_mem selected.1⟩ rfl rfl
  | audit row =>
      cases ran
      exact .of_eq wellformed rfl rfl knows rfl rfl
  | returned row => cases ran
  | threw message => cases ran

/-- Every statement of `acceptContactSave`. The row that the UPDATE returns is the only one it
has met. -/
theorem accept_step {requestId acceptorId : Uuid} {stage stage' : AcceptStage}
    (wellformed : Wellformed tables)
    (knows : (Call.acceptContactSave requestId acceptorId stage).Knows tables)
    (ran
      : ContactsService.acceptContactSave drawn tables requestId acceptorId stage
        = some (tables', stage'))
    : CallStep tables tables' (.acceptContactSave requestId acceptorId stage)
        (.acceptContactSave requestId acceptorId stage') := by
  cases stage with
  | update =>
      simp only [ContactsService.acceptContactSave] at ran
      split at ran
      · rename_i nothing
        cases ran
        refine .of_resolve wellformed rfl (by decide) rfl trivial ?_
        intro row member pending _
        have found := List.mem_filter.mpr ⟨member, pending⟩
        rw [nothing] at found
        cases found
      · rename_i first rest found
        cases ran
        obtain ⟨member, pending⟩ := List.mem_filter.mp (found ▸ List.mem_cons_self)
        refine .of_resolve wellformed rfl (by decide) rfl ?_ ?_
        · exact ⟨first.resolve .accepted drawn.now,
            mem_resolve.mpr ⟨first, member, Or.inl ⟨pending, rfl⟩⟩, rfl, rfl, rfl⟩
        · intro row member' pending' _
          simp only [ContactSaveRequest.isPendingFor, Bool.and_eq_true, decide_eq_true_eq]
            at pending pending'
          rw [wellformed.same_row member' member (pending'.1.1.trans pending.1.1.symm)]
          rfl
  | insert fromUserId toUserId =>
      obtain ⟨after, inserted, same⟩ := Option.map_eq_some_iff.mp ran
      obtain ⟨middle, forth, back⟩ := Option.bind_eq_some_iff.mp inserted
      cases same
      exact .of_link wellformed knows forth back trivial rfl rfl
  | audit fromUserId toUserId =>
      cases ran
      exact .of_eq wellformed rfl rfl trivial rfl rfl
  | returned saved => cases ran

/-- Every statement of `rejectContactSave`. -/
theorem reject_step {requestId userId : Uuid} {stage stage' : RejectStage}
    (wellformed : Wellformed tables)
    (ran
      : ContactsService.rejectContactSave drawn tables requestId userId stage
        = some (tables', stage'))
    : CallStep tables tables' (.rejectContactSave requestId userId stage)
        (.rejectContactSave requestId userId stage') := by
  cases stage with
  | update =>
      cases ran
      refine .of_resolve wellformed rfl (by decide) rfl trivial ?_
      intro row _ _ rejected
      cases rejected
  | audit =>
      cases ran
      exact .of_eq wellformed rfl rfl trivial rfl rfl
  | returned => cases ran

/-- Every statement of every call. -/
theorem call_step (wellformed : Wellformed tables) (knows : call.Knows tables)
    (ran : call.step drawn tables = some (tables', call'))
    : CallStep tables tables' call call' := by
  cases call with
  | requestContactSave callSessionId fromUserId toUserId stage =>
      obtain ⟨⟨_, _⟩, stepped, same⟩ := Option.map_eq_some_iff.mp ran
      cases same
      exact request_step wellformed knows stepped
  | acceptContactSave requestId acceptorId stage =>
      obtain ⟨⟨_, _⟩, stepped, same⟩ := Option.map_eq_some_iff.mp ran
      cases same
      exact accept_step wellformed knows stepped
  | rejectContactSave requestId userId stage =>
      obtain ⟨⟨_, _⟩, stepped, same⟩ := Option.map_eq_some_iff.mp ran
      cases same
      exact reject_step wellformed stepped

/-- A call that begins has touched nothing and knows nothing. -/
theorem call_start (started : call.start tables = some tables')
    : tables' = tables
      ∧ call.Knows tables
      ∧ call.inserting = none := by
  unfold Call.start at started
  split at started
  · cases started
    exact ⟨rfl, trivial, rfl⟩
  · cases started
    exact ⟨rfl, trivial, rfl⟩
  · cases started
    exact ⟨rfl, trivial, rfl⟩
  · cases started

end

-----------------------------------------------------------------------------------------
-- All runs
-----------------------------------------------------------------------------------------

/-- The keys and what the calls know hold in every interleaving. -/
theorem contacts_outline : contactsProgram.Outline Wellformed CallHolds where
  start := by
    intro tables tables' index call wellformed _ started
    obtain ⟨rfl, knows, _⟩ := call_start started
    refine ⟨wellformed, ?_, fun _ _ _ holds => holds⟩
    intro found same
    cases same
    exact knows
  step := by
    intro tables tables' index drawn call call' wellformed holds ran
    have step := call_step wellformed (holds call rfl) ran
    refine ⟨step.wellformed, ?_, ?_⟩
    · intro found same
      cases same
      exact step.knows
    · intro other slot _ known found member
      exact (known found member).frame step.grows

/-- Every accepted handshake has linked its users, or a call is about to link them. -/
def Complete (pool : Pool Tables Call) : Prop :=
  ∀ fromUserId toUserId, pool.shared.Accepted fromUserId toUserId →
    (pool.shared.Linked fromUserId toUserId ∧ pool.shared.Linked toUserId fromUserId)
    ∨ ∃ call ∈ pool.threads, call.inserting = some (fromUserId, toUserId)

/-- The invariant of the pool. -/
def Valid (pool : Pool Tables Call) : Prop :=
  Holds Wellformed CallHolds pool ∧ Complete pool

/-- Every move keeps the invariant. -/
theorem Valid.move {pool next : Pool Tables Call} {move : Move Call Drawn}
    (valid : Valid pool) (moved : contactsProgram.move pool move = some next)
    : Valid next := by
  refine ⟨contacts_outline.move valid.1 moved, ?_⟩
  obtain ⟨⟨wellformed, knows⟩, complete⟩ := valid
  cases move with
  | start call =>
      obtain ⟨started, threads⟩ := contactsProgram.move_start_some moved
      obtain ⟨same, _, _⟩ := call_start started
      intro fromUserId toUserId accepted
      rw [same] at accepted ⊢
      rcases complete fromUserId toUserId accepted with linked | ⟨other, member, inserting⟩
      · exact Or.inl linked
      · rw [threads]
        exact Or.inr ⟨other, List.mem_append_left _ member, inserting⟩
  | step index drawn =>
      obtain ⟨call, call', found, ran, threads⟩ := contactsProgram.move_step_some moved
      have step : CallStep pool.shared next.shared call call' :=
        call_step wellformed (knows index call found) ran
      have bound := (List.getElem?_eq_some_iff.mp found).1
      have own : call' ∈ next.threads := by
        rw [threads]
        exact List.mem_set bound call'
      intro fromUserId toUserId accepted
      rcases step.accepted fromUserId toUserId accepted with old | new
      · rcases complete fromUserId toUserId old with linked | ⟨other, member, inserting⟩
        · exact Or.inl ⟨step.grows.contacts _ _ linked.1, step.grows.contacts _ _ linked.2⟩
        · obtain ⟨position, at'⟩ := List.mem_iff_getElem?.mp member
          by_cases moves : position = index
          · -- the call that was about to link them has done so now
            subst moves
            cases Option.some.inj (found.symm.trans at')
            exact Or.inl (step.inserted _ inserting)
          · refine Or.inr ⟨other, List.mem_of_getElem? (i := position) ?_, inserting⟩
            rw [threads, List.getElem?_set_ne (Ne.symm moves)]
            exact at'
      · exact Or.inr ⟨call', own, new⟩

/-- Every step keeps the invariant, and lets the tables grow. -/
theorem Valid.grows {pool next : Pool Tables Call} {move : Move Call Drawn}
    (valid : Valid pool) (moved : contactsProgram.move pool move = some next)
    : Grows pool.shared next.shared := by
  cases move with
  | start call =>
      obtain ⟨started, _⟩ := contactsProgram.move_start_some moved
      rw [(call_start started).1]
      exact .refl _
  | step index drawn =>
      obtain ⟨call, call', found, ran, _⟩ := contactsProgram.move_step_some moved
      exact (call_step valid.1.1 (valid.1.2 index call found) ran).grows

/-- A row that leaves pending is settled by a call made as its `to_user_id`. -/
theorem leaves_by_recipient {pool next : Pool Tables Call} {move : Move Call Drawn} {id : Uuid}
    (valid : Valid pool) (moved : contactsProgram.move pool move = some next)
    (leaves : leavesPending id ⟨pool, move, next⟩ = true)
    : ∃ index drawn call row status,
        move = .step index drawn
        ∧ pool.threads[index]? = some call
        ∧ row ∈ pool.shared.requests
        ∧ row.id = id
        ∧ call.resolves = some (id, row.toUserId, status) := by
  obtain ⟨pending, resolved⟩ := Bool.and_eq_true_iff.mp leaves
  obtain ⟨before, member, kind⟩ := List.any_eq_true.mp pending
  obtain ⟨after, member', kind'⟩ := List.any_eq_true.mp resolved
  simp only [Bool.and_eq_true, decide_eq_true_eq] at kind kind'
  cases move with
  | start call =>
      obtain ⟨started, _⟩ := contactsProgram.move_start_some moved
      dsimp only at member'
      rw [(call_start started).1] at member'
      have same := valid.1.1.same_row member member' (kind.1.trans kind'.1.symm)
      rw [same] at kind
      exact absurd kind.2 kind'.2
  | step index drawn =>
      obtain ⟨call, call', found, ran, _⟩ := contactsProgram.move_step_some moved
      have step := call_step valid.1.1 (valid.1.2 index call found) ran
      obtain ⟨row, known, identity, cause⟩ := step.settled after member' kind'.2
      have sameId : row.id = id := (congrArg Prod.fst identity).trans kind'.1
      have same := valid.1.1.same_row known member (sameId.trans kind.1.symm)
      rcases cause with settled | resolves
      · rw [same] at settled
        exact absurd kind.2 settled
      · rw [sameId] at resolves
        exact ⟨index, drawn, call, row, _, rfl, found, known, sameId, resolves⟩

/-- A row is not pending and resolved at once. -/
theorem Wellformed.not_pending {tables : Tables} (wellformed : Wellformed tables) {id : Uuid}
    (resolved : tables.isResolved id = true)
    : tables.isPending id = false := by
  refine Bool.eq_false_iff.mpr (fun pending => ?_)
  obtain ⟨row, member, kind⟩ := List.any_eq_true.mp resolved
  obtain ⟨other, member', kind'⟩ := List.any_eq_true.mp pending
  simp only [Bool.and_eq_true, decide_eq_true_eq] at kind kind'
  have same := wellformed.same_row member member' (kind.1.trans kind'.1.symm)
  exact kind.2 (same ▸ kind'.2)

/-- A row that is resolved after a move was there before it. -/
theorem resolved_before {pool next : Pool Tables Call} {move : Move Call Drawn} {id : Uuid}
    (valid : Valid pool) (moved : contactsProgram.move pool move = some next)
    (resolved : next.shared.isResolved id = true)
    : pool.shared.isResolved id = true ∨ pool.shared.isPending id = true := by
  cases move with
  | start call =>
      obtain ⟨started, _⟩ := contactsProgram.move_start_some moved
      rw [(call_start started).1] at resolved
      exact Or.inl resolved
  | step index drawn =>
      obtain ⟨call, call', found, ran, _⟩ := contactsProgram.move_step_some moved
      have step := call_step valid.1.1 (valid.1.2 index call found) ran
      obtain ⟨after, member', kind⟩ := List.any_eq_true.mp resolved
      simp only [Bool.and_eq_true, decide_eq_true_eq] at kind
      obtain ⟨row, member, identity, _⟩ := step.settled after member' kind.2
      have sameId : row.id = id := (congrArg Prod.fst identity).trans kind.1
      by_cases pending : row.status = .pending
      · exact Or.inr (List.any_eq_true.mpr ⟨row, member, by simp [sameId, pending]⟩)
      · exact Or.inl (List.any_eq_true.mpr ⟨row, member, by simp [sameId, pending]⟩)

/-- How often a row has left pending so far. -/
def timesLeft (moves : List (Move Call Drawn)) (id : Uuid) : Nat :=
  (contactsMachine.taken contactsMachine.init moves).countP (leavesPending id)

theorem valid_init : Valid contactsMachine.init := by
  refine ⟨.init ⟨List.nodup_nil, List.nodup_nil, List.nodup_nil, ?_⟩ ?_, ?_⟩
  · intro owner contact linked
    cases linked
  · intro index call member
    cases member
  · rintro fromUserId toUserId ⟨row, member, _⟩
    cases member

/-- A row has left pending once if it is resolved now, and never otherwise. -/
theorem timesLeft_eq {moves : List (Move Call Drawn)} {pool : Pool Tables Call}
    (run : contactsMachine.Reaches moves pool) (id : Uuid)
    : timesLeft moves id = if pool.shared.isResolved id then 1 else 0 := by
  have counted
      := contactsMachine.countP_taken Valid (leavesPending id)
          (fun pool => if pool.shared.isResolved id then 1 else 0)
          (fun valid moved => valid.move moved) ?_ valid_init run
  · simpa [timesLeft, machine, Tables.empty, Tables.isResolved] using counted.symm
  · intro pool move next valid moved
    have grows := valid.grows moved
    dsimp only [leavesPending]
    cases resolved : pool.shared.isResolved id with
    | true =>
        have still := grows.resolved resolved
        simp [still, valid.1.1.not_pending resolved]
    | false =>
        by_cases resolved' : next.shared.isResolved id = true
        · rcases resolved_before valid moved resolved' with before | pending
          · rw [resolved] at before
            cases before
          · simp [resolved', pending]
        · simp [resolved']

/-- The row that a step names has left pending after it, for good. -/
theorem effective_once {moves : List (Move Call Drawn)} {pool : Pool Tables Call}
    {taken : Taken (Pool Tables Call) (Move Call Drawn)} {index : Nat} {drawn : Drawn}
    {call : Call} {row : ContactSaveRequest} {status : RequestStatus}
    (run : contactsMachine.Reaches moves pool)
    (member : taken ∈ contactsMachine.taken contactsMachine.init moves)
    (action : taken.action = .step index drawn)
    (found : taken.before.threads[index]? = some call)
    (known : row ∈ taken.before.shared.requests)
    (resolves : call.resolves = some (row.id, row.toUserId, status))
    : timesLeft moves row.id = 1 := by
  obtain ⟨first, last, _, ran, own, ends⟩ := contactsMachine.mem_taken run member
  have valid : Valid taken.before :=
    contactsMachine.exec_preserves Valid (fun valid moved => valid.move moved) valid_init ran
  have own' : contactsProgram.move taken.before (.step index drawn) = some taken.after :=
    action ▸ own
  obtain ⟨call', after, found', stepped, _⟩ := contactsProgram.move_step_some own'
  cases Option.some.inj (found.symm.trans found')
  have step := call_step valid.1.1 (valid.1.2 index call found) stepped
  have resolved := step.effective row known status resolves
  have grows : Grows taken.after.shared pool.shared :=
    contactsMachine.exec_relates Valid (fun before after => Grows before.shared after.shared)
      (fun valid moved => valid.move moved) (fun pool => .refl pool.shared)
      (fun before after => before.trans after) (fun valid moved => valid.grows moved)
      (valid.move own) ends
  rw [timesLeft_eq run, if_pos (grows.resolved resolved)]

/-- A row of `contacts` with a new id can be inserted. -/
theorem insertContact_new {tables : Tables} {id : Uuid} (now : Time)
    (ownerId contactUserId : Uuid) (unused : id ∉ tables.contacts.map ContactRecord.id)
    : ∃ tables',
        tables.insertContact id now ownerId contactUserId = some tables'
        ∧ ∀ other ∈ tables'.contacts.map ContactRecord.id,
            other ∈ tables.contacts.map ContactRecord.id ∨ other = id := by
  unfold Tables.insertContact
  split
  · exact ⟨tables, rfl, fun other member => Or.inl member⟩
  · refine ⟨_, rfl, fun other member => ?_⟩
    simpa using member

/-- A call that has not finished can run its next statement whenever the ids drawn are new. -/
theorem unfinished_steps {tables : Tables} {call : Call} {drawn : Drawn}
    (unfinished : call.finished = false)
    (newRequest : drawn.id ∉ tables.requests.map ContactSaveRequest.id)
    (newContact : drawn.id ∉ tables.contacts.map ContactRecord.id)
    (newSecond : drawn.secondId ∉ tables.contacts.map ContactRecord.id)
    (different : drawn.secondId ≠ drawn.id)
    : ∃ result, call.step drawn tables = some result := by
  cases call with
  | requestContactSave callSessionId fromUserId toUserId stage =>
      cases stage with
      | insert =>
          by_cases present
              : (callSessionId, fromUserId, toUserId)
                ∈ tables.requests.map ContactSaveRequest.triple
          · simp [Call.step, ContactsService.requestContactSave, present]
          · simp [Call.step, ContactsService.requestContactSave, present, newRequest]
      | select =>
          cases found : tables.requests.filter
              (fun row => row.triple = (callSessionId, fromUserId, toUserId)) with
          | nil => simp [Call.step, ContactsService.requestContactSave, found]
          | cons existing rest => simp [Call.step, ContactsService.requestContactSave, found]
      | audit row => simp [Call.step, ContactsService.requestContactSave]
      | returned row => cases unfinished
      | threw message => cases unfinished
  | acceptContactSave requestId acceptorId stage =>
      cases stage with
      | update =>
          cases found : tables.requests.filter
              (ContactSaveRequest.isPendingFor requestId acceptorId) with
          | nil => simp [Call.step, ContactsService.acceptContactSave, found]
          | cons row rest => simp [Call.step, ContactsService.acceptContactSave, found]
      | insert fromUserId toUserId =>
          obtain ⟨middle, forth, ids⟩ :=
            insertContact_new drawn.now fromUserId toUserId newContact
          have unused : drawn.secondId ∉ middle.contacts.map ContactRecord.id := by
            intro used
            rcases ids drawn.secondId used with old | same
            · exact newSecond old
            · exact different same
          obtain ⟨after, back, _⟩ := insertContact_new drawn.now toUserId fromUserId unused
          simp [Call.step, ContactsService.acceptContactSave, forth, back]
      | audit fromUserId toUserId => simp [Call.step, ContactsService.acceptContactSave]
      | returned saved => cases unfinished
  | rejectContactSave requestId userId stage =>
      cases stage with
      | update => simp [Call.step, ContactsService.rejectContactSave]
      | audit => simp [Call.step, ContactsService.rejectContactSave]
      | returned => cases unfinished

/-- How many statements a call has left at most. -/
def Call.statementsLeft : Call → Nat
  | .requestContactSave _ _ _ .insert => 3
  | .requestContactSave _ _ _ .select => 2
  | .requestContactSave _ _ _ (.audit _) => 1
  | .acceptContactSave _ _ .update => 3
  | .acceptContactSave _ _ (.insert _ _) => 2
  | .acceptContactSave _ _ (.audit _ _) => 1
  | .rejectContactSave _ _ .update => 2
  | .rejectContactSave _ _ .audit => 1
  | _ => 0

/-- Each statement takes one off, by the stages of the calls. -/
theorem step_statementsLeft {tables tables' : Tables} {call call' : Call} {drawn : Drawn}
    (ran : call.step drawn tables = some (tables', call'))
    : call'.statementsLeft < call.statementsLeft := by
  cases call with
  | requestContactSave callSessionId fromUserId toUserId stage =>
      obtain ⟨⟨_, stage'⟩, stepped, same⟩ := Option.map_eq_some_iff.mp ran
      cases same
      cases stage with
      | insert =>
          simp only [ContactsService.requestContactSave] at stepped
          split at stepped
          · cases stepped
            exact Nat.lt_succ_self 2
          · split at stepped
            · cases stepped
            · cases stepped
              exact Nat.lt_of_succ_lt (Nat.lt_succ_self 2)
      | select =>
          simp only [ContactsService.requestContactSave] at stepped
          split at stepped
          · cases stepped
            exact Nat.zero_lt_succ 1
          · cases stepped
            exact Nat.zero_lt_succ 1
      | audit row =>
          cases stepped
          exact Nat.zero_lt_one
      | returned row => cases stepped
      | threw message => cases stepped
  | acceptContactSave requestId acceptorId stage =>
      obtain ⟨⟨_, stage'⟩, stepped, same⟩ := Option.map_eq_some_iff.mp ran
      cases same
      cases stage with
      | update =>
          simp only [ContactsService.acceptContactSave] at stepped
          split at stepped
          · cases stepped
            exact Nat.zero_lt_succ 2
          · cases stepped
            exact Nat.lt_succ_self 2
      | insert fromUserId toUserId =>
          obtain ⟨after, inserted, same⟩ := Option.map_eq_some_iff.mp stepped
          cases same
          exact Nat.lt_succ_self 1
      | audit fromUserId toUserId =>
          cases stepped
          exact Nat.zero_lt_one
      | returned saved => cases stepped
  | rejectContactSave requestId userId stage =>
      obtain ⟨⟨_, stage'⟩, stepped, same⟩ := Option.map_eq_some_iff.mp ran
      cases same
      cases stage with
      | update =>
          cases stepped
          exact Nat.lt_succ_self 1
      | audit =>
          cases stepped
          exact Nat.zero_lt_one
      | returned => cases stepped

/-- No call runs more than three statements. -/
theorem ownSteps_le_three {moves : List (Move Call Drawn)} {pool : Pool Tables Call}
    (run : contactsMachine.Reaches moves pool) (index : Nat)
    : ownSteps index moves ≤ 3 := by
  have counted := ownSteps_le Call.statementsLeft 3
    (fun {_ _ call _} (started : Call.start _ call = _) => ?_) step_statementsLeft index run
  · exact Nat.le_trans (Nat.le_add_right _ _) counted
  · unfold Call.start at started
    split at started
    · exact Nat.le_refl 3
    · exact Nat.le_refl 3
    · exact Nat.le_succ 2
    · cases started

/-- Contacts are the closure of accepted handshakes. In every interleaving of any calls by any
users, from empty tables:

- A row leaves pending at most once, and exactly once as soon as a call made as its
  `to_user_id` has run its UPDATE. Only such a step makes it leave.
- There is one row for each triple, and every request for it returns that row's id and does
  not throw.
- Calls do not get stuck and end after at most three of their own statements, and when all
  have finished, the contacts are the symmetric closure of the accepted handshakes.
-/
theorem contacts_close_handshakes {moves : List (Move Call Drawn)} {pool : Pool Tables Call}
    (run : contactsMachine.Reaches moves pool)
    : (∀ id, timesLeft moves id ≤ 1)
      ∧ (∀ taken ∈ contactsMachine.taken contactsMachine.init moves, ∀ id,
          leavesPending id taken = true →
            ∃ index drawn call row status,
              taken.action = .step index drawn
              ∧ taken.before.threads[index]? = some call
              ∧ row ∈ taken.before.shared.requests
              ∧ row.id = id
              ∧ call.resolves = some (id, row.toUserId, status))
      ∧ (∀ taken ∈ contactsMachine.taken contactsMachine.init moves,
          ∀ index drawn call, ∀ row ∈ taken.before.shared.requests, ∀ status,
            taken.action = .step index drawn →
              taken.before.threads[index]? = some call →
                call.resolves = some (row.id, row.toUserId, status) →
                  timesLeft moves row.id = 1)
      ∧ (pool.shared.requests.map ContactSaveRequest.triple).Nodup
      ∧ (∀ callSessionId fromUserId toUserId row,
          .requestContactSave callSessionId fromUserId toUserId (.returned row) ∈ pool.threads →
            ∃ stored ∈ pool.shared.requests,
              stored.triple = (callSessionId, fromUserId, toUserId) ∧ stored.id = row.id)
      ∧ (∀ callSessionId fromUserId toUserId message,
          .requestContactSave callSessionId fromUserId toUserId (.threw message)
            ∉ pool.threads)
      ∧ (∀ call ∈ pool.threads, call.finished = false →
          ∀ drawn : Drawn,
            drawn.id ∉ pool.shared.requests.map ContactSaveRequest.id →
              drawn.id ∉ pool.shared.contacts.map ContactRecord.id →
                drawn.secondId ∉ pool.shared.contacts.map ContactRecord.id →
                  drawn.secondId ≠ drawn.id →
                    ∃ result, call.step drawn pool.shared = some result)
      ∧ (∀ index, ownSteps index moves ≤ 3)
      ∧ ((∀ call ∈ pool.threads, call.finished = true) →
          ∀ ownerId contactUserId,
            pool.shared.Linked ownerId contactUserId
              ↔ Relation.SymmGen pool.shared.Accepted ownerId contactUserId) := by
  have valid : Valid pool :=
    contactsMachine.exec_preserves Valid (fun valid moved => valid.move moved) valid_init run
  obtain ⟨⟨wellformed, knows⟩, complete⟩ := valid
  have known {call : Call} (member : call ∈ pool.threads) : call.Knows pool.shared := by
    obtain ⟨index, found⟩ := List.mem_iff_getElem?.mp member
    exact knows index call found
  refine ⟨?_, ?_, ?_, wellformed.triples, ?_, ?_, ?_, ownSteps_le_three run, ?_⟩
  · intro id
    rw [timesLeft_eq run]
    split
    · exact Nat.le_refl _
    · exact Nat.zero_le _
  · intro taken member id leaves
    obtain ⟨first, last, _, ran, own, _⟩ := contactsMachine.mem_taken run member
    have valid : Valid taken.before :=
      contactsMachine.exec_preserves Valid (fun valid moved => valid.move moved) valid_init ran
    exact leaves_by_recipient valid own leaves
  · intro taken member index drawn call row rowKnown status action found resolves
    exact effective_once run member action found rowKnown resolves
  · intro callSessionId fromUserId toUserId row member
    obtain ⟨triple, inTable⟩ := known member
    obtain ⟨stored, storedKnown, same⟩ := List.mem_map.mp inTable
    exact ⟨stored, storedKnown, (congrArg Prod.snd same).trans triple, congrArg Prod.fst same⟩
  · intro callSessionId fromUserId toUserId message member
    exact known member
  · intro call member unfinished drawn newRequest newContact newSecond different
    exact unfinished_steps unfinished newRequest newContact newSecond different
  · intro finished ownerId contactUserId
    refine ⟨wellformed.linked ownerId contactUserId, ?_⟩
    -- no call is left that could still link an accepted handshake
    have linked {first second : Uuid} (accepted : pool.shared.Accepted first second)
        : pool.shared.Linked first second ∧ pool.shared.Linked second first := by
      rcases complete first second accepted with linked | ⟨call, member, inserting⟩
      · exact linked
      · have done := finished call member
        unfold Call.inserting at inserting
        split at inserting
        · cases done
        · cases inserting
    rintro (forth | back)
    · exact (linked forth).1
    · exact (linked back).2

/-- Two users request each other after call 5, and both requests are answered while a second
request for the first triple and a rejection of it are under way. -/
def crossingRequests : List (Move Call Drawn) := [
  .start (.requestContactSave 5 1 2 .insert),
  .start (.requestContactSave 5 2 1 .insert),
  .step 0 { now := 1, id := 10 },
  .step 1 { now := 1, id := 11 },
  .start (.requestContactSave 5 1 2 .insert),
  .start (.acceptContactSave 10 2 .update),
  .start (.rejectContactSave 10 2 .update),
  .step 2 { now := 2 },
  .step 3 { now := 2 },
  .step 4 { now := 3 },
  .step 2 { now := 3 },
  .start (.acceptContactSave 11 1 .update),
  .step 5 { now := 4 },
  .step 3 { now := 4, id := 20, secondId := 21 },
  .step 5 { now := 5, id := 22, secondId := 23 },
  .step 0 { now := 6 },
  .step 1 { now := 6 },
  .step 3 { now := 6 },
  .step 4 { now := 6 },
  .step 5 { now := 6 }
]

/-- The state after a run of the calls. -/
def contactsAfter (moves : List (Move Call Drawn)) : Pool Tables Call :=
  (contactsMachine.exec contactsMachine.init moves).getD ⟨Tables.empty, []⟩

theorem contacts_close_crossing
    : timesLeft crossingRequests 10 ≤ 1
      ∧ (contactsAfter crossingRequests).shared.contacts.map ContactRecord.pair
        = [(1, 2), (2, 1)]
      ∧ (∀ ownerId contactUserId,
          (contactsAfter crossingRequests).shared.Linked ownerId contactUserId
            ↔ Relation.SymmGen (contactsAfter crossingRequests).shared.Accepted ownerId
                contactUserId) := by
  have run : contactsMachine.Reaches crossingRequests (contactsAfter crossingRequests) := rfl
  obtain ⟨once, _, _, _, _, _, _, _, closed⟩ := contacts_close_handshakes run
  exact ⟨once 10, by decide, closed (by decide)⟩

end NexusComms.Contacts
