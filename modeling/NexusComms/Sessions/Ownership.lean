import NexusComms.Sessions.Interleavings
import NexusComms.Storage.Frames

/-! Who owns what. A session belongs to the user of its row, tokens belong to the user of
their session, and each request locks and changes rows of its own sessions only.
-/

namespace NexusComms.Sessions

open Storage Concurrency LockedTable

/-- The session of this id is the user's. -/
def OwnedBy (store : Store) (userId sessionId : Uuid) : Prop :=
  ∃ row ∈ store.sessions.rows, row.id = sessionId ∧ row.userId = userId

instance (store : Store) (userId sessionId : Uuid)
    : Decidable (OwnedBy store userId sessionId) :=
  inferInstanceAs
    (Decidable (∃ row ∈ store.sessions.rows, row.id = sessionId ∧ row.userId = userId))

/-- Every token row belongs to a session, and a session is somebody's. A session row is
committed by the statement that inserts it. -/
structure Linked (store : Store) : Prop where
  sessions : store.sessions.inserted = []
  refreshTokens
    : ∀ row ∈ store.refreshTokens.all, ∃ userId, OwnedBy store userId row.sessionId
  csrfTokens : ∀ row ∈ store.csrfTokens, ∃ userId, OwnedBy store userId row.sessionId

/-- All that request `owner` has locked or inserted belongs to the sessions of `part`. -/
structure Confined (store : Store) (owner : Nat) (part : Uuid → Prop) : Prop where
  tokens
    : ∀ k,
        store.refreshTokens.holder k = some owner →
          ∃ row ∈ store.refreshTokens.rows, row.id = k ∧ part row.sessionId
  inserted : ∀ row ∈ store.refreshTokens.insertedBy owner, part row.sessionId
  sessions : ∀ k, store.sessions.holder k = some owner → part k

/-- What a step of request `owner` does to the rows of sessions: it changes those of `part`
only, and takes no session lock away from another request or gives it one. A token row in a
new family is one of `part`, and in an old family it has the session of that family.
-/
structure Isolated (owner : Nat) (part : Uuid → Prop) (before after : Store) : Prop where
  sessions
    : ChangesOnly (fun row => (row.id, row.userId)) (fun named => part named.1)
        before.sessions.rows after.sessions.rows
  refreshTokens
    : ChangesOnly RefreshTokenRow.sessionId part before.refreshTokens.rows
        after.refreshTokens.rows
  csrfTokens
    : ChangesOnly CsrfTokenRow.sessionId part before.csrfTokens after.csrfTokens
  locks
    : ∀ other,
        other ≠ owner →
          ∀ k, after.sessions.holder k = some other → before.sessions.holder k = some other
  inserted : before.sessions.inserted = [] → after.sessions.inserted = []
  families
    : ∀ row ∈ after.refreshTokens.all,
        (∃ old ∈ before.refreshTokens.all,
          old.familyId = row.familyId ∧ old.sessionId = row.sessionId)
        ∨ row.familyId ∉ before.uuids ∧ part row.sessionId

/-- The sessions whose rows a request may change: those of the user it logs in or out, the
one session that it logs out, or the session of the token that it presents. -/
def Request.scope (sha256 : RawToken → Digest) (store : Store) : Request → Uuid → Prop
  | .login userId _ => OwnedBy store userId
  | .refresh rawToken _ => Owned sha256 store rawToken
  | .logout sessionId _ =>
      fun session => session = sessionId ∧ ∃ userId, OwnedBy store userId session
  | .logoutAll userId _ => OwnedBy store userId
  | .validate _ _ => fun _ => False

/-- The sessions of which a request keeps rows locked from one statement to the next: only
inside the transactions of `rotate` and `logoutAll`. -/
def Request.locks (sha256 : RawToken → Digest) (store : Store) : Request → Uuid → Prop
  | .refresh rawToken (.rotating _) => Owned sha256 store rawToken
  | .logoutAll userId (.updating _) => OwnedBy store userId
  | _ => fun _ => False

/-- What a suspended request will write next lies in its scope, and what it has signed names
the owner of the session. -/
def Request.InScope (sha256 : RawToken → Digest) (store : Store) : Request → Prop
  | .login userId (.issueTokenSet sessionId) => OwnedBy store userId sessionId
  | .login userId (.upsertCsrf sessionId _) => OwnedBy store userId sessionId
  | .login userId (.returned tokens) =>
      tokens.accessToken.sub = userId ∧ OwnedBy store userId tokens.accessToken.sid
  | .refresh rawToken (.rotating (.updateFamily token todo)) =>
      Owned sha256 store rawToken token.sessionId
      ∧ ∀ k ∈ todo,
          ∃ row ∈ store.refreshTokens.rows,
            row.id = k ∧ Owned sha256 store rawToken row.sessionId
  | .refresh _ (.returned tokens) =>
      OwnedBy store tokens.accessToken.sub tokens.accessToken.sid
  | .logoutAll userId (.updating todo) => ∀ k ∈ todo, OwnedBy store userId k
  | _ => True

/-- The assertion of one request slot. -/
def SlotConfined (sha256 : RawToken → Digest) (store : Store) (owner : Nat)
    : Option Request → Prop
  | none => Confined store owner (fun _ => False)
  | some request =>
      Confined store owner (request.locks sha256 store) ∧ request.InScope sha256 store

section

variable {sha256 : RawToken → Digest} {before after : Store} {owner other : Nat}
  {part wider : Uuid → Prop} {userId sessionId : Uuid} {rawToken : RawToken}
  {request request' : Request} {input : Input}

-----------------------------------------------------------------------------------------
-- Ownership is for ever, and lies with one user
-----------------------------------------------------------------------------------------

/-- A session keeps its owner: its row is at most revoked. -/
theorem OwnedBy.frame (owned : OwnedBy before userId sessionId)
    (moved : Moved owner before after)
    : OwnedBy after userId sessionId := by
  obtain ⟨row, member, named, user⟩ := owned
  rcases moved.sessions row member with kept | revoked
  · exact ⟨row, kept, named, user⟩
  · exact ⟨row.revoke, revoked, named, user⟩

/-- A session has one owner, because it has one row. -/
theorem OwnedBy.unique {user : Uuid} (owned : OwnedBy before userId sessionId)
    (also : OwnedBy before user sessionId) (valid : Valid sha256 before)
    : userId = user := by
  obtain ⟨left, inLeft, named, rfl⟩ := owned
  obtain ⟨right, inRight, alsoNamed, rfl⟩ := also
  rw [valid.sessions.row_unique inLeft inRight (named.trans alsoNamed.symm)]

/-- The row of a session that a user owns names that user. -/
theorem OwnedBy.userId_eq (owned : OwnedBy before userId sessionId)
    (valid : Valid sha256 before) {row : SessionRow} (member : row ∈ before.sessions.rows)
    (named : row.id = sessionId)
    : row.userId = userId :=
  OwnedBy.unique ⟨row, member, named, rfl⟩ owned valid

/-- The token that a client presents belongs to the same session after every step. -/
theorem Owned.stays (owned : Owned sha256 before rawToken sessionId)
    (moved : Moved owner before after)
    : Owned sha256 after rawToken sessionId :=
  owned.frame moved (Nat.ne_of_gt (Nat.lt_succ_self owner))

/-- A row that the presented token matches puts its session in scope. -/
theorem Owned.of_row {row : RefreshTokenRow} (member : row ∈ before.refreshTokens.rows)
    (presented : row.tokenHash = sha256 rawToken)
    : Owned sha256 before rawToken row.sessionId :=
  ⟨row, member, presented, rfl⟩

/-- What a request has locked stays in its scope. -/
theorem locks_mono (moved : Moved owner before after)
    (locked : request.locks sha256 before sessionId)
    : request.locks sha256 after sessionId := by
  unfold Request.locks at locked ⊢
  split at locked
  · exact Owned.stays locked moved
  · exact OwnedBy.frame locked moved
  · exact False.elim locked

/-- The sessions in scope exist: no token that a client has presented before the step gets
its row by the step. -/
theorem scope_owned (linked : Linked before) (moved : Moved owner before after)
    (holds : SlotHolds sha256 before other (some request))
    (inScope : request.scope sha256 after sessionId)
    : ∃ userId, OwnedBy after userId sessionId := by
  cases request with
  | login userId stage => exact ⟨userId, inScope⟩
  | refresh rawToken stage =>
      obtain ⟨row, member, presented, rfl⟩ := inScope
      obtain ⟨old, inOld, same⟩ :=
        moved.seen row (List.mem_append_left _ member) (presented ▸ holds.1)
      obtain ⟨userId, owned⟩ := linked.refreshTokens old inOld
      exact ⟨userId, same.sessionId ▸ owned.frame moved⟩
  | logout session stage => exact inScope.2
  | logoutAll userId stage => exact ⟨userId, inScope⟩
  | validate payload stage => exact False.elim inScope

theorem InScope.frame (inScope : request.InScope sha256 before)
    (moved : Moved owner before after)
    : request.InScope sha256 after := by
  have rows {row : RefreshTokenRow} (member : row ∈ before.refreshTokens.rows)
      : ∃ later ∈ after.refreshTokens.rows, SameToken row later :=
    moved.persists (Nat.ne_of_gt (Nat.lt_succ_self owner)) member
  cases request with
  | login userId stage =>
      cases stage with
      | createSession => trivial
      | issueTokenSet sessionId => exact OwnedBy.frame inScope moved
      | upsertCsrf sessionId rawRefreshToken => exact OwnedBy.frame inScope moved
      | returned tokens => exact ⟨inScope.1, inScope.2.frame moved⟩
      | threw => trivial
  | refresh rawToken stage =>
      cases stage with
      | rotating stage =>
          cases stage with
          | updateFamily token todo =>
              refine ⟨inScope.1.stays moved, fun k waiting => ?_⟩
              obtain ⟨row, member, named, owned⟩ := inScope.2 k waiting
              obtain ⟨later, inLater, same⟩ := rows member
              exact ⟨later, inLater, same.id ▸ named, same.sessionId ▸ owned.stays moved⟩
          | begin => trivial
          | select startedAt => trivial
          | lockToken startedAt id => trivial
          | check startedAt token => trivial
          | commitReuse token => trivial
          | insertSuccessor startedAt token => trivial
          | commitRotation token newRawToken successor => trivial
      | upsertCsrf newRawToken sessionId => trivial
      | findActiveSession newRawToken sessionId csrfToken => trivial
      | returned tokens => exact OwnedBy.frame inScope moved
      | threw message => trivial
  | logout sessionId stage => trivial
  | logoutAll userId stage =>
      cases stage with
      | revokeAllForUser => trivial
      | updating todo => exact fun k waiting => (inScope k waiting).frame moved
      | done => trivial
      | threw => trivial
  | validate payload stage => trivial

/-- Steps of other requests leave a confined request so, and a wider scope confines it too. -/
theorem Confined.frame (confined : Confined before other part)
    (moved : Moved owner before after) (different : other ≠ owner)
    (locks
      : ∀ k, after.sessions.holder k = some other → before.sessions.holder k = some other)
    (within : ∀ session, part session → wider session)
    : Confined after other wider where
  tokens := by
    intro k held
    have undisturbed := moved.others other different
    obtain ⟨row, member, named, inPart⟩ := confined.tokens k ((undisturbed.holder k).mp held)
    obtain ⟨later, inLater, same⟩ := moved.persists different member
    exact ⟨later, inLater, same.id ▸ named, same.sessionId ▸ within _ inPart⟩
  inserted := by
    intro row member
    rw [(moved.others other different).inserted] at member
    exact within _ (confined.inserted row member)
  sessions := fun k held => within k (confined.sessions k (locks k held))

theorem Confined.mono (confined : Confined before owner part)
    (within : ∀ session, part session → wider session)
    : Confined before owner wider where
  tokens := by
    intro k held
    obtain ⟨row, member, named, inPart⟩ := confined.tokens k held
    exact ⟨row, member, named, within _ inPart⟩
  inserted := fun row member => within _ (confined.inserted row member)
  sessions := fun k held => within k (confined.sessions k held)

theorem SlotConfined.frame {slot : Option Request}
    (confined : SlotConfined sha256 before other slot) (moved : Moved owner before after)
    (isolated : Isolated owner part before after) (different : other ≠ owner)
    : SlotConfined sha256 after other slot := by
  have locks := isolated.locks other different
  cases slot with
  | none => exact Confined.frame confined moved different locks (fun _ inPart => inPart)
  | some request =>
      exact ⟨confined.1.frame moved different locks (fun _ locked => locks_mono moved locked),
        InScope.frame confined.2 moved⟩

/-- Token rows stay linked to sessions when new ones are in a scope. -/
theorem Linked.step (linked : Linked before) (moved : Moved owner before after)
    (isolated : Isolated owner part before after)
    (exist : ∀ session, part session → ∃ userId, OwnedBy after userId session)
    : Linked after where
  sessions := isolated.inserted linked.sessions
  refreshTokens := by
    intro row member
    rcases isolated.families row member with ⟨old, inOld, _, same⟩ | ⟨_, inPart⟩
    · obtain ⟨userId, owned⟩ := linked.refreshTokens old inOld
      exact ⟨userId, same ▸ owned.frame moved⟩
    · exact exist _ inPart
  csrfTokens := by
    intro row member
    rcases isolated.csrfTokens.label_old member with ⟨old, inOld, same⟩ | inPart
    · obtain ⟨userId, owned⟩ := linked.csrfTokens old inOld
      exact ⟨userId, same ▸ owned.frame moved⟩
    · exact exist _ inPart

-----------------------------------------------------------------------------------------
-- Kinds of statements
-----------------------------------------------------------------------------------------

/-- A statement that writes no row yet: it reads, or locks token rows, or gives up its
locks. -/
theorem Isolated.of_rows_eq (sessions : after.sessions.rows = before.sessions.rows)
    (inserted : before.sessions.inserted = [] → after.sessions.inserted = [])
    (locks
      : ∀ other,
          other ≠ owner →
            ∀ k, after.sessions.holder k = some other → before.sessions.holder k = some other)
    (rows : after.refreshTokens.rows = before.refreshTokens.rows)
    (fewer : NoNewTokens before.refreshTokens after.refreshTokens)
    (csrfTokens : after.csrfTokens = before.csrfTokens)
    : Isolated owner part before after where
  sessions := sessions ▸ .refl _
  refreshTokens := rows ▸ .refl _
  csrfTokens := csrfTokens ▸ .refl _
  locks := locks
  inserted := inserted
  families := by
    intro row member
    obtain ⟨old, inOld, same⟩ := fewer.old member
    exact Or.inl ⟨old, inOld, same.familyId, same.sessionId⟩

theorem Isolated.mono (isolated : Isolated owner part before after)
    (within : ∀ session, part session → wider session)
    : Isolated owner wider before after where
  sessions := isolated.sessions.mono (fun named inPart => within named.1 inPart)
  refreshTokens := isolated.refreshTokens.mono within
  csrfTokens := isolated.csrfTokens.mono within
  locks := isolated.locks
  inserted := isolated.inserted
  families := by
    intro row member
    exact (isolated.families row member).imp_right (fun new => ⟨new.1, within _ new.2⟩)

theorem Isolated.refl (store : Store) : Isolated owner part store store :=
  .of_rows_eq rfl (fun none => none) (fun _ _ _ held => held) rfl (.of_all_eq rfl) rfl

/-- A lock taken on a session takes none from other requests and gives them none. -/
theorem lock_locks (k : Uuid) {table : LockedTable Uuid SessionRow}
    : ∀ other,
        other ≠ owner →
          ∀ name,
            (table.lock owner k).holder name = some other →
              table.holder name = some other := by
  intro other different name held
  rw [lock_holder] at held
  split at held
  · cases held
    exact absurd rfl different
  · exact held

theorem release_inserted {table : LockedTable Uuid SessionRow} (none : table.inserted = [])
    : (table.release owner).inserted = [] := by
  simp [LockedTable.release, none]

/-- ROLLBACK and COMMIT give up locks of the request itself. -/
theorem release_locks (table : LockedTable Uuid SessionRow)
    : ∀ other,
        other ≠ owner →
          ∀ k, (table.release owner).holder k = some other → table.holder k = some other :=
  fun _ _ _ held => (release_holder_iff.mp held).2

theorem Isolated.rollback (store : Store) : Isolated owner part store (store.rollback owner) :=
  .of_rows_eq rfl release_inserted (release_locks store.sessions) rfl
    (.release store.refreshTokens owner) rfl

/-- After COMMIT or ROLLBACK the request holds nothing. -/
theorem Confined.of_release (before : Store)
    (tokens : after.refreshTokens.holder = (before.refreshTokens.release owner).holder)
    (inserted : after.refreshTokens.inserted = (before.refreshTokens.release owner).inserted)
    (sessions : after.sessions.holder = (before.sessions.release owner).holder)
    : Confined after owner part where
  tokens := by
    intro k held
    rw [tokens] at held
    exact absurd rfl (release_holder_iff.mp held).1
  inserted := by
    intro row member
    rw [insertedBy, inserted, ← insertedBy, release_insertedBy, if_pos rfl] at member
    cases member
  sessions := by
    intro k held
    rw [sessions] at held
    exact absurd rfl (release_holder_iff.mp held).1

theorem Confined.rollback (store : Store) : Confined (store.rollback owner) owner part :=
  .of_release store rfl rfl rfl

theorem Confined.completed (store : Store) (rotations : List Rotation)
    (reuseCommits : List Uuid)
    : Confined (store.completed owner rotations reuseCommits) owner part :=
  .of_release store rfl rfl rfl

/-- COMMIT publishes what the request has locked and inserted, all of it in its scope. -/
theorem Isolated.commit (valid : Valid sha256 before) (linked : Linked before)
    (confined : Confined before owner part) (rotations : List Rotation)
    (reuseCommits : List Uuid)
    : Isolated owner part before (before.completed owner rotations reuseCommits) where
  sessions := by
    refine valid.sessions.commit_changesOnly (fun _ => rfl)
      (fun row _ held => confined.sessions row.id held) (fun row member => ?_)
    simp [insertedBy, linked.sessions] at member
  refreshTokens := by
    refine valid.tokens.commit_changesOnly (fun _ => rfl) (fun row member held => ?_)
      confined.inserted
    obtain ⟨found, inRows, named, inPart⟩ := confined.tokens row.id held
    rwa [valid.tokens.row_unique inRows member named] at inPart
  csrfTokens := .refl _
  locks := release_locks before.sessions
  inserted := release_inserted
  families := by
    intro row member
    obtain ⟨old, inOld, same⟩ := (NoNewTokens.commit valid.tokens owner).old member
    exact Or.inl ⟨old, inOld, same.familyId, same.sessionId⟩

/-- A statement that locks session rows and writes `is_revoked` in them. -/
theorem Isolated.of_lock (store : Store) (k : Uuid)
    : Isolated owner part store {
        store with
        sessions := (store.sessions.lock owner k).write SessionRow.id k SessionRow.revoke
      } :=
  .of_rows_eq rfl (fun none => none) (lock_locks k) rfl (.of_all_eq rfl) rfl

/-- A statement that locks token rows or writes in them. -/
theorem Isolated.of_tokens {table : LockedTable Uuid RefreshTokenRow}
    (rows : table.rows = before.refreshTokens.rows)
    (inserted : table.inserted = before.refreshTokens.inserted)
    : Isolated owner part before { before with refreshTokens := table } := by
  refine .of_rows_eq rfl (fun none => none) (fun _ _ _ held => held) rows (.of_all_eq ?_) rfl
  rw [LockedTable.all, LockedTable.all, rows, inserted]

/-- One more session row of the scope is locked. -/
theorem Confined.lock_session (confined : Confined before owner part) {k : Uuid}
    (inPart : part k)
    : Confined {
        before with
        sessions := (before.sessions.lock owner k).write SessionRow.id k SessionRow.revoke
      } owner part where
  tokens := confined.tokens
  inserted := confined.inserted
  sessions := by
    intro name held
    rw [write_holder, lock_holder] at held
    split at held
    · rename_i same
      exact same ▸ inPart
    · exact confined.sessions name held

/-- One more token row of the scope is locked. -/
theorem Confined.lock_token (confined : Confined before owner part)
    {table : LockedTable Uuid RefreshTokenRow} {k : Uuid} {row : RefreshTokenRow}
    (member : row ∈ before.refreshTokens.rows) (named : row.id = k)
    (inPart : part row.sessionId)
    (rows : table.rows = before.refreshTokens.rows)
    (inserted : table.inserted = before.refreshTokens.inserted)
    (holder
      : ∀ name,
          table.holder name = some owner →
            name = k ∨ before.refreshTokens.holder name = some owner)
    : Confined { before with refreshTokens := table } owner part where
  tokens := by
    intro name held
    rw [rows]
    rcases holder name held with rfl | already
    · exact ⟨row, member, named, inPart⟩
    · exact confined.tokens name already
  inserted := by
    intro own waiting
    rw [insertedBy, inserted] at waiting
    exact confined.inserted own waiting
  sessions := confined.sessions

/-- What the statement of a request leaves for its next one. -/
structure Confines (sha256 : RawToken → Digest) (owner : Nat) (request : Request)
    (before after : Store)
    : Prop where
  isolated : Isolated owner (request.scope sha256 after) before after
  confined : Confined after owner (request.locks sha256 after)
  inScope : request.InScope sha256 after

/-- Replacing the CSRF token of a session touches the row of this session, or adds one. -/
theorem upsertCsrf_changes (store : Store) {session : Uuid} (hash : Digest)
    (inPart : part session)
    : ChangesOnly CsrfTokenRow.sessionId part store.csrfTokens
        (store.upsertCsrf session hash).csrfTokens := by
  by_cases known : store.csrfTokens.any (fun old => decide (old.sessionId = session)) = true
  · simp only [Store.upsertCsrf, known, if_true]
    refine .map _ (fun row _ => ?_) (fun row _ => ?_)
    · split
      · rename_i same
        exact same.symm
      · rfl
    · split
      · rename_i same
        exact Or.inr (same ▸ inPart)
      · exact Or.inl rfl
  · simp only [Store.upsertCsrf, known]
    exact .append _ inPart

theorem Isolated.upsertCsrf (store : Store) (uuids : List Uuid) (rawToken : RawToken)
    (hash : Digest) {session : Uuid} (inPart : part session)
    : Isolated owner part store
        ((store.draw sha256 uuids rawToken).upsertCsrf session hash) where
  sessions := .refl _
  refreshTokens := .refl _
  csrfTokens := upsertCsrf_changes (store.draw sha256 uuids rawToken) hash inPart
  locks := fun _ _ _ held => held
  inserted := fun none => none
  families := fun row member => Or.inl ⟨row, member, rfl, rfl⟩

-----------------------------------------------------------------------------------------
-- The requests
-----------------------------------------------------------------------------------------

/-- Every statement of `rotate` stays within the session of the presented token. The family
UPDATE does too, since all rows of a family belong to one session. -/
theorem rotate_confines {stage : RotateStage} {stage' : RefreshStage}
    (valid : Valid sha256 before) (linked : Linked before)
    (holds : stage.Holds sha256 before owner rawToken)
    (confined : Confined before owner (Owned sha256 before rawToken))
    (inScope : (Request.refresh rawToken (.rotating stage)).InScope sha256 before)
    (moved : Moved owner before after)
    (ran
      : RefreshTokenRepository.rotate sha256 owner input before rawToken stage
        = some (after, stage'))
    : Confines sha256 owner (.refresh rawToken stage') before after := by
  cases stage with
  | begin =>
      cases ran
      exact ⟨.refl _, confined, trivial⟩
  | select startedAt =>
      simp only [RefreshTokenRepository.rotate] at ran
      split at ran
      · cases ran
        exact ⟨.rollback _, .rollback _, trivial⟩
      · cases ran
        exact ⟨.refl _, confined, trivial⟩
  | lockToken startedAt id =>
      obtain ⟨_, _, row, member, named, presented⟩ := holds
      simp only [RefreshTokenRepository.rotate] at ran
      split at ran
      · split at ran
        · cases ran
          exact ⟨.rollback _, .rollback _, trivial⟩
        · cases ran
          refine ⟨.of_tokens rfl rfl, ?_, trivial⟩
          refine confined.lock_token member named (.of_row member presented) rfl rfl ?_
          intro name held
          rw [lock_holder] at held
          split at held
          · exact Or.inl ‹_›
          · exact Or.inr held
      · cases ran
  | check startedAt token =>
      obtain ⟨reads, _, _⟩ := holds
      have owned := Owned.of_row reads.committed reads.presented
      simp only [RefreshTokenRepository.rotate] at ran
      split at ran
      · cases ran
        exact ⟨.rollback _, .rollback _, trivial⟩
      · split at ran
        · cases ran
          refine ⟨.refl _, confined, owned, fun k waiting => ?_⟩
          obtain ⟨row, inFamily, rfl⟩ := List.mem_map.mp waiting
          obtain ⟨member, family⟩ := List.mem_filter.mp inFamily
          have same :=
            valid.chained.session row member token reads.committed (of_decide_eq_true family)
          exact ⟨row, member, rfl, same ▸ owned⟩
        · cases ran
          exact ⟨.of_tokens rfl rfl, ⟨confined.tokens, confined.inserted, confined.sessions⟩,
            trivial⟩
  | updateFamily token todo =>
      obtain ⟨owned, pending⟩ := inScope
      cases todo with
      | nil =>
          simp only [RefreshTokenRepository.rotate] at ran
          split at ran
          · cases ran
            exact ⟨.of_lock _ _, confined.lock_session owned, trivial⟩
          · cases ran
      | cons next later =>
          simp only [RefreshTokenRepository.rotate] at ran
          split at ran
          · rename_i reached
            cases ran
            obtain ⟨row, member, named, inPart⟩ := pending input.row reached.1
            refine ⟨.of_tokens rfl rfl, ?_, owned, fun k waiting => ?_⟩
            · refine confined.lock_token member named inPart rfl rfl ?_
              intro name held
              rw [write_holder, lock_holder] at held
              split at held
              · exact Or.inl ‹_›
              · exact Or.inr held
            · exact pending k (List.mem_of_mem_erase waiting)
          · cases ran
  | commitReuse token =>
      cases ran
      have isolated :=
        Isolated.commit valid linked confined before.rotations
          (token.familyId :: before.reuseCommits)
      exact ⟨isolated.mono (fun _ owned => owned.stays moved), .completed _ _ _, trivial⟩
  | insertSuccessor startedAt token =>
      obtain ⟨marked, _⟩ := holds
      have owned := Owned.of_row marked.reads.committed marked.reads.presented
      simp only [RefreshTokenRepository.rotate] at ran
      split at ran
      · cases ran
        refine ⟨⟨.refl _, .refl _, .refl _, fun _ _ _ held => held, fun none => none, ?_⟩,
          ⟨confined.tokens, ?_, confined.sessions⟩, trivial⟩
        · intro row member
          rcases List.mem_append.mp (insert_all _ _ _ ▸ member) with old | new
          · exact Or.inl ⟨row, old, rfl, rfl⟩
          · rw [List.mem_singleton.mp new]
            exact Or.inl
              ⟨token, List.mem_append_left _ marked.reads.committed, rfl, rfl⟩
        · intro row member
          rw [insert_insertedBy, if_pos rfl] at member
          rcases List.mem_append.mp member with old | new
          · exact (confined.inserted row old).stays moved
          · rw [List.mem_singleton.mp new]
            exact owned.stays moved
      · cases ran
  | commitRotation token newRawToken successor =>
      cases ran
      have isolated :=
        Isolated.commit valid linked confined
          (before.rotations ++ [⟨rawToken, token, newRawToken, successor⟩])
          before.reuseCommits
      exact ⟨isolated.mono (fun _ owned => owned.stays moved), .completed _ _ _, trivial⟩

/-- A request outside of a transaction, whose statement leaves the locks as they are. -/
theorem Confines.of_free {store : Store} (confined : Confined store owner (fun _ => False))
    (sessions : after.sessions = store.sessions)
    (tokens : after.refreshTokens = store.refreshTokens)
    (isolated : Isolated owner (request'.scope sha256 after) store after)
    (inScope : request'.InScope sha256 after)
    : Confines sha256 owner request' store after := by
  refine ⟨isolated, ?_, inScope⟩
  have wide : Confined store owner (request'.locks sha256 after) :=
    confined.mono (fun _ none => False.elim none)
  refine ⟨?_, ?_, ?_⟩
  · rw [tokens]
    exact wide.tokens
  · rw [tokens]
    exact wide.inserted
  · rw [sessions]
    exact wide.sessions

/-- What `refresh` signs names the owner of the session that it has just read. -/
theorem findActiveById_owned {session : SessionRow}
    (found : before.findActiveById sessionId = some session)
    : OwnedBy before session.userId sessionId := by
  have active := List.find?_some found
  simp only [Bool.and_eq_true, decide_eq_true_eq] at active
  exact ⟨session, List.mem_of_find?_eq_some found, active.1.1, rfl⟩

/-- Every statement of `refresh` stays within the session of the presented token. -/
theorem refresh_confines {stage stage' : RefreshStage}
    (valid : Valid sha256 before) (linked : Linked before)
    (holds : stage.Holds sha256 before owner rawToken)
    (confined : Confined before owner ((Request.refresh rawToken stage).locks sha256 before))
    (inScope : (Request.refresh rawToken stage).InScope sha256 before)
    (moved : Moved owner before after)
    (ran
      : AuthService.refresh sha256 owner input before rawToken stage = some (after, stage'))
    : Confines sha256 owner (.refresh rawToken stage') before after := by
  cases stage with
  | rotating stage =>
      simp only [AuthService.refresh] at ran
      split at ran
      · cases ran
        exact ⟨.rollback _, .rollback _, trivial⟩
      · exact rotate_confines valid linked holds confined inScope moved ran
  | upsertCsrf newRawToken sessionId =>
      simp only [AuthService.refresh] at ran
      split at ran
      · cases ran
        exact ⟨.refl _, confined, trivial⟩
      · split at ran
        · cases ran
          exact .of_free confined rfl rfl (.upsertCsrf before _ _ _ (holds.2.stays moved)) trivial
        · cases ran
  | findActiveSession newRawToken sessionId csrfToken =>
      simp only [AuthService.refresh] at ran
      split at ran
      · cases ran
        exact ⟨.refl _, confined, trivial⟩
      · split at ran
        · cases ran
          exact ⟨.refl _, confined, trivial⟩
        · rename_i found
          cases ran
          exact ⟨.refl _, confined, findActiveById_owned found⟩
  | returned tokens => cases ran
  | threw message => cases ran

/-- Every statement of `issueTokens` stays within the sessions of the user, one of which the
first statement creates. -/
theorem issueTokens_confines {stage stage' : LoginStage}
    (confined : Confined before owner (fun _ => False))
    (inScope : (Request.login userId stage).InScope sha256 before)
    (moved : Moved owner before after)
    (ran : AuthService.issueTokens sha256 input before userId stage = some (after, stage'))
    : Confines sha256 owner (.login userId stage') before after := by
  cases stage with
  | createSession =>
      simp only [AuthService.issueTokens] at ran
      split at ran
      · cases ran
        exact ⟨.refl _, confined, trivial⟩
      · split at ran
        · cases ran
          have created
              : OwnedBy
                  {
                    before with
                    uuids := input.uuid :: before.uuids
                    sessions :=
                      before.sessions.append
                        ⟨input.uuid, userId, false, input.now, input.now + sevenDays⟩
                  }
                  userId input.uuid :=
            ⟨_, List.mem_append_right _ (List.mem_singleton_self _), rfl, rfl⟩
          exact ⟨⟨.append _ created, .refl _, .refl _, fun _ _ _ held => held,
            fun none => none, fun row member => Or.inl ⟨row, member, rfl, rfl⟩⟩,
            ⟨confined.tokens, confined.inserted, confined.sessions⟩, created⟩
        · cases ran
  | issueTokenSet sessionId =>
      simp only [AuthService.issueTokens] at ran
      split at ran
      · cases ran
        exact ⟨.refl _, confined, trivial⟩
      · split at ran
        · rename_i fresh
          cases ran
          have owned := OwnedBy.frame inScope moved
          refine ⟨⟨.refl _, .append _ owned, .refl _, fun _ _ _ held => held,
            fun none => none, fun row member => ?_⟩, ⟨?_, confined.inserted, confined.sessions⟩,
            owned⟩
          · rcases List.mem_append.mp ((append_all_perm _ _).subset member) with old | new
            · exact Or.inl ⟨row, old, rfl, rfl⟩
            · rw [List.mem_singleton.mp new]
              exact Or.inr ⟨fresh.2, owned⟩
          · intro k held
            obtain ⟨row, member, named, inPart⟩ := confined.tokens k held
            exact ⟨row, List.mem_append_left _ member, named, inPart⟩
        · cases ran
  | upsertCsrf sessionId rawRefreshToken =>
      simp only [AuthService.issueTokens] at ran
      split at ran
      · cases ran
        exact ⟨.refl _, confined, trivial⟩
      · split at ran
        · cases ran
          have owned := OwnedBy.frame inScope moved
          exact .of_free confined rfl rfl (.upsertCsrf before _ _ _ owned) ⟨rfl, owned⟩
        · cases ran
  | returned tokens => cases ran
  | threw => cases ran

/-- `logout` locks and revokes the row of one session, if there is one. -/
theorem logout_confines {stage stage' : LogoutStage}
    (valid : Valid sha256 before) (linked : Linked before)
    (confined : Confined before owner (fun _ => False)) (moved : Moved owner before after)
    (ran : AuthService.logout owner input before sessionId stage = some (after, stage'))
    : Confines sha256 owner (.logout sessionId stage') before after := by
  cases stage with
  | revoke =>
      simp only [AuthService.logout] at ran
      split at ran
      · cases ran
        exact ⟨.refl _, confined, trivial⟩
      · split at ran
        · have revoked := (valid.revoke owner sessionId).sessions
          cases ran
          refine ⟨⟨?_, .refl _, .refl _, ?_, release_inserted,
            fun row member => Or.inl ⟨row, member, rfl, rfl⟩⟩,
            ⟨confined.tokens, confined.inserted, ?_⟩, trivial⟩
          · refine revoked.commit_changesOnly (fun _ => rfl) (fun row member held => ?_)
              (fun row member => ?_)
            · simp only [write_holder, lock_holder] at held
              split at held
              · rename_i same
                have owned : OwnedBy before row.userId row.id := ⟨row, member, rfl, rfl⟩
                exact ⟨same, row.userId, owned.frame moved⟩
              · exact False.elim (confined.sessions row.id held)
            · simp [insertedBy, linked.sessions] at member
          · intro other different k held
            exact lock_locks sessionId other different k (release_holder_iff.mp held).2
          · intro k held
            exact absurd rfl (release_holder_iff.mp held).1
        · cases ran
  | done => cases ran
  | threw => cases ran

/-- `logoutAll` locks and revokes the rows that its snapshot found under the user. -/
theorem logoutAll_confines {stage stage' : LogoutAllStage}
    (valid : Valid sha256 before) (linked : Linked before)
    (confined
      : Confined before owner ((Request.logoutAll userId stage).locks sha256 before))
    (inScope : (Request.logoutAll userId stage).InScope sha256 before)
    (moved : Moved owner before after)
    (ran : AuthService.logoutAll owner input before userId stage = some (after, stage'))
    : Confines sha256 owner (.logoutAll userId stage') before after := by
  cases stage with
  | revokeAllForUser =>
      simp only [AuthService.logoutAll] at ran
      split at ran
      · cases ran
        exact ⟨.refl _, confined, trivial⟩
      · cases ran
        refine ⟨.refl _, confined.mono (fun _ none => False.elim none), fun k waiting => ?_⟩
        obtain ⟨row, found, rfl⟩ := List.mem_map.mp waiting
        obtain ⟨member, user⟩ := List.mem_filter.mp found
        exact ⟨row, member, rfl, of_decide_eq_true user⟩
  | updating todo =>
      simp only [AuthService.logoutAll] at ran
      split at ran
      · cases ran
        exact ⟨.rollback _, .rollback _, trivial⟩
      · split at ran
        · cases ran
          have isolated :=
            Isolated.commit valid linked confined before.rotations before.reuseCommits
          exact ⟨isolated.mono (fun _ owned => owned.frame moved), .completed _ _ _, trivial⟩
        · split at ran
          · rename_i reached
            cases ran
            exact ⟨.of_lock _ _, confined.lock_session (inScope _ reached.1),
              fun k waiting => inScope k (List.mem_of_mem_erase waiting)⟩
          · cases ran
  | done => cases ran
  | threw => cases ran

/-- Every statement of every request stays within the request's own sessions. -/
theorem request_confines
    (valid : Valid sha256 before) (linked : Linked before)
    (holds : SlotHolds sha256 before owner (some request))
    (confined : SlotConfined sha256 before owner (some request))
    (moved : Moved owner before after)
    (ran : request.step sha256 owner input before = some (after, request'))
    : Confines sha256 owner request' before after := by
  cases request with
  | login userId stage =>
      obtain ⟨⟨store, stage'⟩, stepped, same⟩ := Option.map_eq_some_iff.mp ran
      cases same
      exact issueTokens_confines confined.1 confined.2 moved stepped
  | refresh rawToken stage =>
      obtain ⟨⟨store, stage'⟩, stepped, same⟩ := Option.map_eq_some_iff.mp ran
      cases same
      exact refresh_confines valid linked holds.2 confined.1 confined.2 moved stepped
  | logout sessionId stage =>
      obtain ⟨⟨store, stage'⟩, stepped, same⟩ := Option.map_eq_some_iff.mp ran
      cases same
      exact logout_confines valid linked confined.1 moved stepped
  | logoutAll userId stage =>
      obtain ⟨⟨store, stage'⟩, stepped, same⟩ := Option.map_eq_some_iff.mp ran
      cases same
      exact logoutAll_confines valid linked confined.1 confined.2 moved stepped
  | validate payload stage =>
      obtain ⟨⟨store, stage'⟩, stepped, same⟩ := Option.map_eq_some_iff.mp ran
      cases same
      cases validate_store stepped
      exact ⟨.refl _, confined.1, trivial⟩

-----------------------------------------------------------------------------------------
-- All requests together
-----------------------------------------------------------------------------------------

/-- The request that a step suspends next is the same call as before. -/
theorem scope_step (ran : request.step sha256 owner input before = some (after, request'))
    (store : Store)
    : request'.scope sha256 store = request.scope sha256 store := by
  cases request with
  | login userId stage =>
      obtain ⟨_, _, same⟩ := Option.map_eq_some_iff.mp ran
      cases same
      rfl
  | refresh rawToken stage =>
      obtain ⟨_, _, same⟩ := Option.map_eq_some_iff.mp ran
      cases same
      rfl
  | logout sessionId stage =>
      obtain ⟨_, _, same⟩ := Option.map_eq_some_iff.mp ran
      cases same
      rfl
  | logoutAll userId stage =>
      obtain ⟨_, _, same⟩ := Option.map_eq_some_iff.mp ran
      cases same
      rfl
  | validate payload stage =>
      obtain ⟨_, _, same⟩ := Option.map_eq_some_iff.mp ran
      cases same
      rfl

/-- An arriving request has written nothing and signed nothing. -/
theorem start_inScope (started : Request.start sha256 before request = some after)
    : request.InScope sha256 after := by
  unfold Request.start at started
  split at started
  · trivial
  · trivial
  · trivial
  · trivial
  · trivial
  · cases started

/-- The arrival of a request changes no row. -/
theorem start_isolated (started : Request.start sha256 before request = some after)
    : Isolated owner part before after := by
  obtain ⟨seen, rfl⟩ := start_store started
  exact .of_rows_eq rfl (fun none => none) (fun _ _ _ held => held) rfl (.of_all_eq rfl) rfl

/-- The clock is no part of what a step moves. -/
theorem Moved.of_tick {now : Time} (later : before.clock ≤ now)
    (moved : Moved owner { before with clock := now } after)
    : Moved owner before after :=
  ⟨moved.others, moved.uuids, moved.digests, Nat.le_trans later moved.clock, moved.seen,
    moved.sessions⟩

/-- The clock moves on, and nothing else changes. -/
theorem ownership_tick {store : Store} {now : Time} (valid : Valid sha256 store)
    (linked : Linked store) (later : store.clock ≤ now)
    : Valid sha256 { store with clock := now }
      ∧ Linked { store with clock := now }
      ∧ ∀ index slot,
          SlotHolds sha256 store index slot → SlotConfined sha256 store index slot →
            SlotHolds sha256 { store with clock := now } index slot
            ∧ SlotConfined sha256 { store with clock := now } index slot := by
  refine ⟨(tick_kept 0 valid later).1, ⟨linked.sessions, linked.refreshTokens,
    linked.csrfTokens⟩, fun index slot holds confined => ⟨tick_own holds later, ?_⟩⟩
  have moved := (tick_kept (index + 1) valid later).2
  have isolated
      : Isolated (index + 1) (fun _ => False) store { store with clock := now } :=
    .of_rows_eq rfl (fun none => none) (fun _ _ _ held => held) rfl (.of_all_eq rfl) rfl
  exact confined.frame moved isolated (Nat.ne_of_lt (Nat.lt_succ_self index))

/-- In a pool too a statement stays within the request's own sessions. -/
theorem program_confines
    (valid : Valid sha256 before) (linked : Linked before)
    (holds : SlotHolds sha256 before owner (some request))
    (confined : SlotConfined sha256 before owner (some request))
    (ran : (program sha256).step owner input before request = some (after, request'))
    : Confines sha256 owner request' before after ∧ Moved owner before after := by
  obtain ⟨later, stepped⟩ := program_step_some ran
  obtain ⟨valid', linked', ticked⟩ := ownership_tick valid linked later
  obtain ⟨holds', confined'⟩ := ticked owner (some request) holds confined
  have moved := (request_kept valid' rfl holds' stepped).moved
  obtain ⟨isolated, own, inScope⟩ :=
    request_confines valid' linked' holds' confined' moved stepped
  exact ⟨⟨⟨isolated.sessions, isolated.refreshTokens, isolated.csrfTokens, isolated.locks,
    isolated.inserted, isolated.families⟩, own, inScope⟩, moved.of_tick later⟩

/-- In every interleaving the token rows stay linked to the sessions of users, and every
request stays within its scope. -/
theorem ownership_outline
    : (program sha256).Outline
        (fun store => Valid sha256 store ∧ Linked store)
        (fun store index slot =>
          SlotHolds sha256 store index slot ∧ SlotConfined sha256 store index slot) where
  start := by
    intro store store' index request ⟨valid, linked⟩ ⟨idle, confined⟩ started
    obtain ⟨valid', moved⟩ := start_kept index valid started
    have isolated : Isolated index (fun _ => False) store store' := start_isolated started
    have none : Confined store' index (fun _ => False) := by
      obtain ⟨seen, rfl⟩ := start_store started
      exact ⟨confined.tokens, confined.inserted, confined.sessions⟩
    refine ⟨⟨valid', linked.step moved isolated (fun _ inPart => False.elim inPart)⟩,
      ⟨start_own idle started, none.mono (fun _ inPart => False.elim inPart),
        start_inScope started⟩, ?_⟩
    intro other slot different ⟨holds, within⟩
    exact ⟨holds.frame moved different, within.frame moved isolated different⟩
  step := by
    intro store store' index input request request' ⟨valid, linked⟩ ⟨holds, confined⟩ ran
    obtain ⟨valid', own, others⟩ := program_outline.step valid holds ran
    obtain ⟨⟨isolated, within, inScope⟩, moved⟩ :=
      program_confines valid linked holds confined ran
    have exist (session : Uuid) (inPart : request'.scope sha256 store' session)
        : ∃ userId, OwnedBy store' userId session := by
      rw [scope_step (program_step_some ran).2] at inPart
      exact scope_owned linked moved holds inPart
    refine ⟨⟨valid', linked.step moved isolated exist⟩, ⟨own, within, inScope⟩, ?_⟩
    intro other slot different ⟨held, apart⟩
    exact ⟨others other slot different held, apart.frame moved isolated different⟩

theorem Linked.empty : Linked Store.empty :=
  ⟨rfl, by simp [Store.empty, LockedTable.empty, all], by simp [Store.empty]⟩

theorem Confined.empty (owner : Nat) : Confined Store.empty owner (fun _ => False) :=
  ⟨fun _ held => by simp [Store.empty, LockedTable.empty] at held,
    fun _ member => by simp [Store.empty, LockedTable.empty, insertedBy] at member,
    fun _ held => by simp [Store.empty, LockedTable.empty] at held⟩

/-- Every reachable pool satisfies the outline of ownership. -/
theorem reaches_ownership {moves : List (Move Request Input)} {pool : Pool Store Request}
    (run : (machine sha256).Reaches moves pool)
    : Program.Holds
        (fun store => Valid sha256 store ∧ Linked store)
        (fun store index slot =>
          SlotHolds sha256 store index slot ∧ SlotConfined sha256 store index slot)
        pool :=
  ownership_outline.reaches ⟨.empty, .empty⟩ (fun index => ⟨Idle.empty index, .empty index⟩) run

end

end NexusComms.Sessions
