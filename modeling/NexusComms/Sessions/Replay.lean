import NexusComms.Sessions.Ownership
import NexusComms.Sessions.Progress
import NexusComms.Sessions.Rotation

/-! No replay goes undetected on a live session. `rotate` tests the expiry of a token before
it looks whether the token has been used. That hides no replay, because a token is never
older than its session and both live for seven days.
-/

namespace NexusComms.Sessions

open Storage Concurrency LockedTable

-----------------------------------------------------------------------------------------
-- No token expires before its session
-----------------------------------------------------------------------------------------

/-- Sessions and tokens live for seven days, and no token is older than its session. -/
structure Aged (store : Store) : Prop where
  tokens
    : ∀ token ∈ store.refreshTokens.all, token.expiresAt = token.createdAt + sevenDays
  sessions
    : ∀ session ∈ store.sessions.all,
        session.expiresAt = session.createdAt + sevenDays
        ∧ session.createdAt ≤ store.clock
  order
    : ∀ token ∈ store.refreshTokens.all,
        ∀ session ∈ store.sessions.all,
          session.id = token.sessionId → session.createdAt ≤ token.createdAt

/-- The dates of the rows after a statement: a row is an old one up to its flag, or new. A
new session gets a new id, and a new token is as old as the statement or, where it succeeds
another token of its session, not older than that one. -/
structure Redated (before after : Store) : Prop where
  tokens
    : ∀ token ∈ after.refreshTokens.all,
        (∃ old ∈ before.refreshTokens.all, old.markUsed = token.markUsed)
        ∨ token.expiresAt = token.createdAt + sevenDays
          ∧ (token.createdAt = after.clock
            ∨ ∃ old ∈ before.refreshTokens.all,
                old.sessionId = token.sessionId ∧ old.createdAt ≤ token.createdAt)
  sessions
    : ∀ session ∈ after.sessions.all,
        (∃ old ∈ before.sessions.all, old.revoke = session.revoke)
        ∨ session.id ∉ before.uuids
          ∧ session.createdAt = after.clock
          ∧ session.expiresAt = session.createdAt + sevenDays
  clock : before.clock ≤ after.clock

section

variable {sha256 : RawToken → Digest} {before after : Store} {owner : Nat} {input : Input}
  {rawToken : RawToken}

/-- Rows up to their flags have the same dates. -/
theorem same_dates {old token : RefreshTokenRow} (same : old.markUsed = token.markUsed)
    : old.sessionId = token.sessionId
      ∧ old.createdAt = token.createdAt
      ∧ old.expiresAt = token.expiresAt := by
  simp only [RefreshTokenRow.markUsed, RefreshTokenRow.mk.injEq] at same
  exact ⟨same.2.1, same.2.2.2.2.2.1, same.2.2.2.2.2.2⟩

theorem same_session_dates {old session : SessionRow} (same : old.revoke = session.revoke)
    : old.id = session.id
      ∧ old.createdAt = session.createdAt
      ∧ old.expiresAt = session.expiresAt := by
  simp only [SessionRow.revoke, SessionRow.mk.injEq] at same
  exact ⟨same.1, same.2.2.2.1, same.2.2.2.2⟩

/-- New rows keep the order of dates. A new session has no tokens yet. -/
theorem Aged.step (aged : Aged before) (valid : Valid sha256 before) (linked : Linked before)
    (redated : Redated before after)
    : Aged after where
  tokens := by
    intro token member
    rcases redated.tokens token member with ⟨old, inOld, same⟩ | ⟨expires, _⟩
    · obtain ⟨_, created, expires⟩ := same_dates same
      rw [← created, ← expires]
      exact aged.tokens old inOld
    · exact expires
  sessions := by
    intro session member
    rcases redated.sessions session member with ⟨old, inOld, same⟩ | ⟨_, created, expires⟩
    · obtain ⟨_, created, expires⟩ := same_session_dates same
      obtain ⟨lives, begun⟩ := aged.sessions old inOld
      rw [← created, ← expires]
      exact ⟨lives, Nat.le_trans begun redated.clock⟩
    · exact ⟨expires, Nat.le_of_eq created⟩
  order := by
    intro token inTokens session inSessions named
    have unknown (old : RefreshTokenRow) (inOld : old ∈ before.refreshTokens.all)
        (fresh : session.id ∉ before.uuids)
        : old.sessionId ≠ session.id := by
      intro same
      obtain ⟨_, row, inRows, ofToken, _⟩ := linked.refreshTokens old inOld
      exact fresh (same ▸ ofToken ▸ valid.knownSessions row (List.mem_append_left _ inRows))
    rcases redated.sessions session inSessions with ⟨left, inLeft, same⟩ | ⟨fresh, begun, _⟩
    · obtain ⟨id, created, _⟩ := same_session_dates same
      rw [← created]
      rcases redated.tokens token inTokens with
        ⟨old, inOld, same⟩ | ⟨_, now | ⟨old, inOld, of⟩⟩
      · obtain ⟨sessionId, created', _⟩ := same_dates same
        rw [← created']
        exact aged.order old inOld left inLeft (id.trans (named.trans sessionId.symm))
      · rw [now]
        exact Nat.le_trans (aged.sessions left inLeft).2 redated.clock
      · exact Nat.le_trans
          (aged.order old inOld left inLeft (id.trans (named.trans of.1.symm))) of.2
    · rcases redated.tokens token inTokens with
        ⟨old, inOld, same⟩ | ⟨_, now | ⟨old, inOld, of⟩⟩
      · obtain ⟨sessionId, _, _⟩ := same_dates same
        exact absurd (sessionId.trans named.symm) (unknown old inOld fresh)
      · exact Nat.le_of_eq (begun.trans now.symm)
      · exact absurd (of.1.trans named.symm) (unknown old inOld fresh)

/-- A statement without new rows. -/
theorem Redated.of_all
    (tokens
      : ∀ token ∈ after.refreshTokens.all,
          ∃ old ∈ before.refreshTokens.all, old.markUsed = token.markUsed)
    (sessions
      : ∀ session ∈ after.sessions.all,
          ∃ old ∈ before.sessions.all, old.revoke = session.revoke)
    (clock : before.clock ≤ after.clock)
    : Redated before after :=
  ⟨fun token member => .inl (tokens token member),
    fun session member => .inl (sessions session member), clock⟩

theorem Redated.of_eq (tokens : after.refreshTokens.all = before.refreshTokens.all)
    (sessions : after.sessions.all = before.sessions.all)
    (clock : before.clock ≤ after.clock)
    : Redated before after :=
  .of_all (fun token member => ⟨token, tokens ▸ member, rfl⟩)
    (fun session member => ⟨session, sessions ▸ member, rfl⟩) clock

theorem Redated.rollback (store : Store) : Redated store (store.rollback owner) :=
  .of_all
    (fun token member => ⟨token, (release_all_sublist _ _).subset member, rfl⟩)
    (fun session member => ⟨session, (release_all_sublist _ _).subset member, rfl⟩)
    (Nat.le_refl _)

/-- A COMMIT of session rows sets `is_revoked` in some of them. -/
theorem commit_sessions {table : LockedTable Uuid SessionRow}
    (sound : Sound SessionRow.id SessionRow.revoke table) {session : SessionRow}
    (member : session ∈ (table.commit SessionRow.id owner).all)
    : ∃ old ∈ table.all, old.revoke = session.revoke := by
  have image := List.mem_map_of_mem (f := SessionRow.revoke) member
  exact List.mem_map.mp ((sound.commit_all_perm revoke_revoke owner).subset image)

/-- A COMMIT sets flags. -/
theorem Redated.commit (valid : Valid sha256 before) (rotations : List Rotation)
    (reuseCommits : List Uuid)
    : Redated before (before.completed owner rotations reuseCommits) := by
  refine .of_all (fun token member => ?_) (fun session member => ?_) (Nat.le_refl _)
  · have image := List.mem_map_of_mem (f := RefreshTokenRow.markUsed) member
    exact List.mem_map.mp
      ((valid.tokens.commit_all_perm markUsed_markUsed owner).subset image)
  · exact commit_sessions valid.sessions member

/-- Every statement of `rotate` keeps the dates; the successor is not older than the token
that it replaces. -/
theorem rotate_redated {stage : RotateStage} {stage' : RefreshStage}
    (valid : Valid sha256 before) (holds : stage.Holds sha256 before owner rawToken)
    (ran
      : RefreshTokenRepository.rotate sha256 owner input before rawToken stage
        = some (after, stage'))
    : Redated before after := by
  have le := Nat.le_refl before.clock
  cases stage with
  | begin =>
      cases ran
      exact .of_eq rfl rfl le
  | select startedAt =>
      simp only [RefreshTokenRepository.rotate] at ran
      split at ran
      · cases ran
        exact .rollback before
      · cases ran
        exact .of_eq rfl rfl le
  | lockToken startedAt id =>
      simp only [RefreshTokenRepository.rotate] at ran
      split at ran
      · split at ran
        · cases ran
          exact .rollback before
        · cases ran
          exact .of_eq (lock_all _ _ _) rfl le
      · cases ran
  | check startedAt token =>
      simp only [RefreshTokenRepository.rotate] at ran
      split at ran
      · cases ran
        exact .rollback before
      · split at ran
        · cases ran
          exact .of_eq rfl rfl le
        · cases ran
          exact .of_eq (write_all _ _ _ _) rfl le
  | updateFamily token todo =>
      cases todo with
      | nil =>
          simp only [RefreshTokenRepository.rotate] at ran
          split at ran
          · cases ran
            exact .of_eq rfl (write_all _ _ _ _) le
          · cases ran
      | cons next later =>
          simp only [RefreshTokenRepository.rotate] at ran
          split at ran
          · cases ran
            exact .of_eq (write_all _ _ _ _) rfl le
          · cases ran
  | commitReuse token =>
      cases ran
      exact .commit valid before.rotations _
  | insertSuccessor startedAt token =>
      obtain ⟨marked, _⟩ := holds
      simp only [RefreshTokenRepository.rotate] at ran
      split at ran
      · cases ran
        refine ⟨fun row member => ?_, fun session member => .inl ⟨session, member, rfl⟩, le⟩
        rw [insert_all] at member
        rcases List.mem_append.mp member with old | new
        · exact .inl ⟨row, old, rfl⟩
        · cases List.mem_singleton.mp new
          exact .inr ⟨rfl, .inr ⟨token, List.mem_append_left _ marked.reads.committed, rfl,
            marked.reads.created⟩⟩
      · cases ran
  | commitRotation token newRawToken successor =>
      cases ran
      exact .commit valid _ before.reuseCommits

/-- So does every statement of `refresh`. -/
theorem refresh_redated {stage stage' : RefreshStage} (valid : Valid sha256 before)
    (holds : stage.Holds sha256 before owner rawToken)
    (ran
      : AuthService.refresh sha256 owner input before rawToken stage = some (after, stage'))
    : Redated before after := by
  have le := Nat.le_refl before.clock
  cases stage with
  | rotating stage =>
      simp only [AuthService.refresh] at ran
      split at ran
      · cases ran
        exact .rollback before
      · exact rotate_redated valid holds ran
  | upsertCsrf newRawToken sessionId =>
      simp only [AuthService.refresh] at ran
      split at ran
      · cases ran
        exact .of_eq rfl rfl le
      · split at ran
        · cases ran
          exact .of_eq rfl rfl le
        · cases ran
  | findActiveSession newRawToken sessionId csrfToken =>
      simp only [AuthService.refresh] at ran
      split at ran
      · cases ran
        exact .of_eq rfl rfl le
      · split at ran
        · cases ran
          exact .of_eq rfl rfl le
        · cases ran
          exact .of_eq rfl rfl le
  | returned tokens => cases ran
  | threw message => cases ran

/-- A login adds a session and then its first token, each as old as its statement. -/
theorem issueTokens_redated {userId : Uuid} {stage stage' : LoginStage}
    (clock : before.clock = input.now)
    (ran : AuthService.issueTokens sha256 input before userId stage = some (after, stage'))
    : Redated before after := by
  have le := Nat.le_refl before.clock
  cases stage with
  | createSession =>
      simp only [AuthService.issueTokens] at ran
      split at ran
      · cases ran
        exact .of_eq rfl rfl le
      · split at ran
        · next fresh =>
            cases ran
            refine ⟨fun row member => .inl ⟨row, member, rfl⟩, fun session member => ?_, le⟩
            rcases List.mem_append.mp ((append_all_perm _ _).subset member) with old | new
            · exact .inl ⟨session, old, rfl⟩
            · cases List.mem_singleton.mp new
              exact .inr ⟨fresh, clock.symm, rfl⟩
        · cases ran
  | issueTokenSet sessionId =>
      simp only [AuthService.issueTokens] at ran
      split at ran
      · cases ran
        exact .of_eq rfl rfl le
      · split at ran
        · cases ran
          refine ⟨fun row member => ?_, fun session member => .inl ⟨session, member, rfl⟩, le⟩
          rcases List.mem_append.mp ((append_all_perm _ _).subset member) with old | new
          · exact .inl ⟨row, old, rfl⟩
          · cases List.mem_singleton.mp new
            exact .inr ⟨rfl, .inl clock.symm⟩
        · cases ran
  | upsertCsrf sessionId rawRefreshToken =>
      simp only [AuthService.issueTokens] at ran
      split at ran
      · cases ran
        exact .of_eq rfl rfl le
      · split at ran
        · cases ran
          exact .of_eq rfl rfl le
        · cases ran
  | returned tokens => cases ran
  | threw => cases ran

/-- A logout commits one revocation. -/
theorem logout_redated {sessionId : Uuid} {stage stage' : LogoutStage}
    (valid : Valid sha256 before)
    (ran : AuthService.logout owner input before sessionId stage = some (after, stage'))
    : Redated before after := by
  have le := Nat.le_refl before.clock
  cases stage with
  | revoke =>
      simp only [AuthService.logout] at ran
      split at ran
      · cases ran
        exact .of_eq rfl rfl le
      · split at ran
        · cases ran
          refine .of_all (fun row member => ⟨row, member, rfl⟩) (fun session member => ?_) le
          have written := (valid.revoke owner sessionId).sessions
          obtain ⟨old, inOld, same⟩ := commit_sessions written member
          exact ⟨old, by rwa [write_all, lock_all] at inOld, same⟩
        · cases ran
  | done => cases ran
  | threw => cases ran

/-- A logout of all sessions commits some revocations. -/
theorem logoutAll_redated {userId : Uuid} {stage stage' : LogoutAllStage}
    (valid : Valid sha256 before)
    (ran : AuthService.logoutAll owner input before userId stage = some (after, stage'))
    : Redated before after := by
  have le := Nat.le_refl before.clock
  cases stage with
  | revokeAllForUser =>
      simp only [AuthService.logoutAll] at ran
      split at ran
      · cases ran
        exact .of_eq rfl rfl le
      · cases ran
        exact .of_eq rfl rfl le
  | updating todo =>
      simp only [AuthService.logoutAll] at ran
      split at ran
      · cases ran
        exact .rollback before
      · split at ran
        · cases ran
          exact .commit valid before.rotations before.reuseCommits
        · split at ran
          · cases ran
            exact .of_eq rfl (write_all _ _ _ _) le
          · cases ran
  | done => cases ran
  | threw => cases ran

/-- Every statement of every request keeps the dates. -/
theorem request_redated {request request' : Request} (valid : Valid sha256 before)
    (clock : before.clock = input.now) (holds : SlotHolds sha256 before owner (some request))
    (ran : request.step sha256 owner input before = some (after, request'))
    : Redated before after := by
  cases request with
  | login userId stage =>
      obtain ⟨_, stepped, same⟩ := Option.map_eq_some_iff.mp ran
      cases same
      exact issueTokens_redated clock stepped
  | refresh rawToken stage =>
      obtain ⟨_, stepped, same⟩ := Option.map_eq_some_iff.mp ran
      cases same
      exact refresh_redated valid holds.2 stepped
  | logout sessionId stage =>
      obtain ⟨_, stepped, same⟩ := Option.map_eq_some_iff.mp ran
      cases same
      exact logout_redated valid stepped
  | logoutAll userId stage =>
      obtain ⟨_, stepped, same⟩ := Option.map_eq_some_iff.mp ran
      cases same
      exact logoutAll_redated valid stepped
  | validate payload stage =>
      obtain ⟨_, stepped, same⟩ := Option.map_eq_some_iff.mp ran
      cases same
      cases validate_store stepped
      exact .of_eq rfl rfl (Nat.le_refl _)

/-- In every interleaving no token is older than its session. -/
theorem expiry_outline
    : (program sha256).Outline
        (fun store => (Valid sha256 store ∧ Linked store) ∧ Aged store)
        (fun store index slot =>
          SlotHolds sha256 store index slot ∧ SlotConfined sha256 store index slot) where
  start := by
    intro store store' index request ⟨owned, aged⟩ slot started
    obtain ⟨owned', own, others⟩ := ownership_outline.start owned slot started
    obtain ⟨seen, rfl⟩ := start_store started
    exact ⟨⟨owned', aged.tokens, aged.sessions, aged.order⟩, own, others⟩
  step := by
    intro store store' index input request request' ⟨owned, aged⟩ slot ran
    obtain ⟨owned', own, others⟩ := ownership_outline.step owned slot ran
    obtain ⟨later, stepped⟩ := program_step_some ran
    obtain ⟨valid, linked⟩ := owned
    have ticked : Redated store { store with clock := input.now } := .of_eq rfl rfl later
    have valid' := (tick_kept index valid later).1
    have linked' : Linked { store with clock := input.now } :=
      ⟨linked.sessions, linked.refreshTokens, linked.csrfTokens⟩
    have redated := request_redated valid' rfl (tick_own slot.1 later) stepped
    exact ⟨⟨owned', (aged.step valid linked ticked).step valid' linked' redated⟩, own, others⟩

theorem Aged.empty : Aged Store.empty where
  tokens := by simp [Store.empty, LockedTable.empty, all]
  sessions := by simp [Store.empty, LockedTable.empty, all]
  order := by simp [Store.empty, LockedTable.empty, all]

/-- Every reachable pool satisfies this outline. -/
theorem reaches_aged {moves : List (Move Request Input)} {pool : Pool Store Request}
    (run : (machine sha256).Reaches moves pool)
    : Program.Holds
        (fun store => (Valid sha256 store ∧ Linked store) ∧ Aged store)
        (fun store index slot =>
          SlotHolds sha256 store index slot ∧ SlotConfined sha256 store index slot)
        pool :=
  expiry_outline.reaches ⟨⟨.empty, .empty⟩, .empty⟩
    (fun index => ⟨Idle.empty index, .empty index⟩) run

/-- No token of a session expires before the session does. -/
theorem Aged.outlives {store : Store} (aged : Aged store) {token : RefreshTokenRow}
    {session : SessionRow} (member : token ∈ store.refreshTokens.rows)
    (active : session ∈ store.sessions.rows) (named : session.id = token.sessionId)
    : session.expiresAt ≤ token.expiresAt := by
  have inTokens : token ∈ store.refreshTokens.all := List.mem_append_left _ member
  have inSessions : session ∈ store.sessions.all := List.mem_append_left _ active
  rw [aged.tokens token inTokens, (aged.sessions session inSessions).1]
  exact Nat.add_le_add_right (aged.order token inTokens session inSessions named) sevenDays

end

-----------------------------------------------------------------------------------------
-- A replay by itself
-----------------------------------------------------------------------------------------

/-- The request is inside a transaction: a call of `rotate`, or the UPDATE of `logoutAll`. -/
def Request.inTransaction : Request → Bool
  | .refresh _ (.rotating _) => true
  | .logoutAll _ (.updating _) => true
  | _ => false

/-- The expiry of the token has not been tested yet. -/
def RotateStage.untested : RotateStage → Bool
  | .begin | .select _ | .lockToken _ _ | .check _ _ => true
  | _ => false

/-- What may happen to a call of `rotate`: its statements do not fail, application and
database read one clock, and the session has not expired when the token is tested. -/
def Request.keepsTime (session : SessionRow) : Request → Input → Prop
  | .refresh _ (.rotating stage), input =>
      input.fails = false
      ∧ input.appNow = input.now
      ∧ (stage.untested = true → input.now < session.expiresAt)
  | _, _ => True

/-- A replay has been detected: the call has committed with the session revoked and all rows
of the family used, holds no lock any more, and answers as for an unknown token. -/
structure Detected (before : Store) (rawToken : RawToken) (token : RefreshTokenRow)
    (session : SessionRow) (after : Store) (request : Request)
    : Prop where
  answer : request = .refresh rawToken (.threw (some .invalidRefreshToken))
  committed : token.familyId ∈ after.reuseCommits
  family
    : after.family token.familyId
      = (before.family token.familyId).map RefreshTokenRow.markUsed
  session : session.revoke ∈ after.sessions.rows
  unlocked
    : ∀ k, after.refreshTokens.holder k = none ∧ after.sessions.holder k = none

section

variable {sha256 : RawToken → Digest} {base store : Store} {owner : Nat}
  {rawToken : RawToken} {token : RefreshTokenRow} {session : SessionRow}

/-- The next statement of a call of `rotate` that keeps time. -/
theorem rotating_ends {stage : RotateStage} {post : Store → Request → Prop}
    (able
      : ∃ input,
          (Request.refresh rawToken (.rotating stage)).keepsTime session input
          ∧ store.clock ≤ input.now
          ∧ (RefreshTokenRepository.rotate sha256 owner input
              { store with clock := input.now } rawToken stage).isSome)
    (onward
      : ∀ {input next stage'},
          (Request.refresh rawToken (.rotating stage)).keepsTime session input →
            RefreshTokenRepository.rotate sha256 owner input
                { store with clock := input.now } rawToken stage
              = some (next, stage') →
              (program sha256).Ends owner (Request.keepsTime session) post next
                (.refresh rawToken stage'))
    : (program sha256).Ends owner (Request.keepsTime session) post store
        (.refresh rawToken (.rotating stage)) := by
  refine .step ?_ ?_
  · obtain ⟨input, keeps, later, runs⟩ := able
    refine ⟨input, keeps, ?_⟩
    simpa [program, later, Request.step, AuthService.refresh, keeps.1] using runs
  · intro input next after keeps ran
    obtain ⟨_, stepped⟩ := program_step_some ran
    obtain ⟨⟨_, stage'⟩, called, same⟩ := Option.map_eq_some_iff.mp stepped
    cases same
    simp only [AuthService.refresh, keeps.1] at called
    exact onward keeps called

/-- What the call has done to the token rows while it updates the family: all rows are as
they were, nobody else holds a lock, and those of the family that are not left to update have
a used version. No other row has a version. -/
structure Sweeping (base : Store) (owner : Nat) (familyId : Uuid) (todo : List Uuid)
    (table : LockedTable Uuid RefreshTokenRow)
    : Prop where
  rows : table.rows = base.refreshTokens.rows
  mine : ∀ k, table.holder k = none ∨ table.holder k = some owner
  updated
    : ∀ row ∈ base.refreshTokens.rows,
        row.familyId = familyId → row.id ∉ todo →
          table.holder row.id = some owner ∧ table.dirty row.id = some row.markUsed
  others
    : ∀ row ∈ base.refreshTokens.rows, row.familyId ≠ familyId → table.dirty row.id = none
  remaining
    : ∀ k ∈ todo,
        table.dirty k = none
        ∧ ∃ row ∈ base.refreshTokens.rows, row.id = k ∧ row.familyId = familyId
  once : todo.Nodup
  inserted : table.insertedBy owner = []

/-- A used token of an active session is presented while no transaction is under way. -/
structure Replayed (sha256 : RawToken → Digest) (base : Store) (owner : Nat)
    (rawToken : RawToken) (token : RefreshTokenRow) (session : SessionRow)
    : Prop where
  valid : Valid sha256 base
  free : Free base
  inserted : base.refreshTokens.insertedBy owner = []
  member : token ∈ base.refreshTokens.rows
  presented : token.tokenHash = sha256 rawToken
  used : token.isUsed = true
  active : session ∈ base.sessions.rows
  named : session.id = token.sessionId
  outlived : session.expiresAt ≤ token.expiresAt

/-- The session table once the session has been revoked. -/
def Store.revoking (base : Store) (owner : Nat) (sessionId : Uuid)
    : LockedTable Uuid SessionRow :=
  (base.sessions.lock owner sessionId).write SessionRow.id sessionId SessionRow.revoke

/-- The UPDATE starts with all rows of the family, of which one is locked already. -/
theorem Sweeping.begin (valid : Valid sha256 base) (free : Free base)
    (inserted : base.refreshTokens.insertedBy owner = []) (locked familyId : Uuid)
    : Sweeping base owner familyId
        (base.refreshTokens.snapshot RefreshTokenRow.id (fun row => row.familyId = familyId))
        (base.refreshTokens.lock owner locked) where
  rows := rfl
  mine := by
    intro k
    rw [lock_holder]
    by_cases here : k = locked
    · exact .inr (if_pos here)
    · exact .inl (by rw [if_neg here, free.tokens k])
  updated := by
    intro row member ofFamily absent
    refine absurd (List.mem_map_of_mem (List.mem_filter.mpr ⟨member, ?_⟩)) absent
    exact decide_eq_true ofFamily
  others := fun row _ _ => valid.tokens.locked (free.tokens row.id)
  remaining := by
    intro k waits
    obtain ⟨row, inFamily, named⟩ := List.mem_map.mp waits
    obtain ⟨member, ofFamily⟩ := List.mem_filter.mp inFamily
    exact ⟨valid.tokens.locked (free.tokens k), row, member, named, of_decide_eq_true ofFamily⟩
  once := valid.tokens.rows_nodup.sublist (List.filter_sublist.map RefreshTokenRow.id)
  inserted := inserted

/-- One row of the family is updated. -/
theorem Sweeping.update {todo : List Uuid} {familyId k : Uuid}
    {table : LockedTable Uuid RefreshTokenRow} (valid : Valid sha256 base)
    (sweeping : Sweeping base owner familyId todo table) (next : k ∈ todo)
    : Sweeping base owner familyId (todo.erase k)
        ((table.lock owner k).write RefreshTokenRow.id k RefreshTokenRow.markUsed) where
  rows := sweeping.rows
  mine := by
    intro other
    by_cases here : other = k
    · exact .inr (by simp [here])
    · simpa [here] using sweeping.mine other
  updated := by
    intro row member ofFamily later
    by_cases here : row.id = k
    · -- the row just updated had no version, so its new one comes from the committed row
      have found := valid.tokens.find_row member
      rw [here] at found
      have clean := (sweeping.remaining k next).1
      simp [here, LockedTable.current, clean, sweeping.rows, found]
    · have before : row.id ∉ todo := fun waits => later ((List.mem_erase_of_ne here).mpr waits)
      simpa [here] using sweeping.updated row member ofFamily before
  others := by
    intro row member foreign
    obtain ⟨_, own, inOwn, named, ofFamily⟩ := sweeping.remaining k next
    have here : row.id ≠ k := by
      intro same
      have itself := valid.tokens.row_unique member inOwn (same.trans named.symm)
      exact foreign (itself ▸ ofFamily)
    simpa [here] using sweeping.others row member foreign
  remaining := by
    intro other waits
    have apart : other ≠ k := fun same => sweeping.once.not_mem_erase (same ▸ waits)
    obtain ⟨clean, own⟩ := sweeping.remaining other (List.mem_of_mem_erase waits)
    exact ⟨by simpa [apart] using clean, own⟩
  once := sweeping.once.erase k
  inserted := sweeping.inserted

/-- With no row left the COMMIT marks the family and nothing else. -/
theorem Sweeping.commit_rows {familyId : Uuid} {table : LockedTable Uuid RefreshTokenRow}
    (sweeping : Sweeping base owner familyId [] table)
    : (table.commit RefreshTokenRow.id owner).rows
      = base.refreshTokens.rows.map
          (fun row => if row.familyId = familyId then row.markUsed else row) := by
  simp only [LockedTable.commit, sweeping.inserted, List.append_nil, sweeping.rows]
  refine List.map_congr_left (fun row member => ?_)
  by_cases ofFamily : row.familyId = familyId
  · obtain ⟨held, written⟩ := sweeping.updated row member ofFamily (List.not_mem_nil)
    simp [held, written, ofFamily]
  · simp [sweeping.others row member ofFamily, ofFamily]

theorem Sweeping.commit_family {familyId : Uuid} {table : LockedTable Uuid RefreshTokenRow}
    (sweeping : Sweeping base owner familyId [] table)
    : familyRows (table.commit RefreshTokenRow.id owner).rows familyId
      = (base.family familyId).map RefreshTokenRow.markUsed := by
  have valid
      : Marks (fun row : RefreshTokenRow =>
          if row.familyId = familyId then row.markUsed else row) := by
    intro row
    by_cases ofFamily : row.familyId = familyId
    · exact .inr (if_pos ofFamily)
    · exact .inl (if_neg ofFamily)
  rw [sweeping.commit_rows, familyRows_map valid]
  refine List.map_congr_left (fun row member => ?_)
  exact if_pos (of_decide_eq_true (List.mem_filter.mp member).2)

/-- The COMMIT publishes the revoked session, whose row had no version before. -/
theorem revoking_rows (valid : Valid sha256 base) (free : Free base) (sessionId : Uuid)
    : ((base.revoking owner sessionId).commit SessionRow.id owner).rows
      = base.sessions.rows.map
          (fun row => if row.id = sessionId then row.revoke else row) := by
  have none : (base.revoking owner sessionId).insertedBy owner = [] := by
    simp [Store.revoking, insertedBy, free.inserted]
  simp only [LockedTable.commit, none, List.append_nil]
  refine List.map_congr_left (fun row member => ?_)
  by_cases own : row.id = sessionId
  · have clean := valid.sessions.locked (free.sessions row.id)
    simp [Store.revoking, ← own, LockedTable.current, clean, valid.sessions.find_row member]
  · simp [Store.revoking, own, free.sessions]

/-- The COMMIT of the reuse branch detects the replay. -/
theorem commitReuse_ends (replayed : Replayed sha256 base owner rawToken token session)
    (sweeping : Sweeping base owner token.familyId [] store.refreshTokens)
    (sessions : store.sessions = base.revoking owner token.sessionId)
    : (program sha256).Ends owner (Request.keepsTime session)
        (Detected base rawToken token session) store
        (.refresh rawToken (.rotating (.commitReuse token))) := by
  refine rotating_ends ?_ ?_
  · exact ⟨{ now := store.clock, appNow := store.clock },
      ⟨rfl, rfl, fun untested => by cases untested⟩, Nat.le_refl _, rfl⟩
  · intro input next stage' _ ran
    cases ran
    refine .stop {
      answer := rfl
      committed := List.mem_cons_self
      family := sweeping.commit_family
      session := ?_
      unlocked := fun k => ⟨?_, ?_⟩
    }
    · show _ ∈ (store.sessions.commit SessionRow.id owner).rows
      rw [sessions, revoking_rows replayed.valid replayed.free]
      exact List.mem_map.mpr ⟨session, replayed.active, if_pos replayed.named⟩
    · rcases sweeping.mine k with unheld | mine
      · simp [Store.commit, LockedTable.release, unheld]
      · simp [Store.commit, LockedTable.release, mine]
    · simp only [Store.commit, commit_holder, LockedTable.release, sessions, Store.revoking]
      by_cases here : k = token.sessionId
      · simp [here]
      · simp [here, replayed.free.sessions k]

/-- The UPDATE of the family reaches all its rows, in whatever order, and then the session. The
induction is on the number of rows left. -/
theorem updateFamily_ends (replayed : Replayed sha256 base owner rawToken token session)
    {todo : List Uuid}
    (sweeping : Sweeping base owner token.familyId todo store.refreshTokens)
    (sessions : store.sessions = base.sessions)
    : (program sha256).Ends owner (Request.keepsTime session)
        (Detected base rawToken token session) store
        (.refresh rawToken (.rotating (.updateFamily token todo))) := by
  have available (k : Uuid) : store.refreshTokens.available owner k = true :=
    by rcases sweeping.mine k with unheld | mine <;> simp [LockedTable.available, *]
  induction remaining : todo.length generalizing todo store with
  | zero =>
      cases List.length_eq_zero_iff.mp remaining
      have idle : store.sessions.available owner token.sessionId = true := by
        simp [LockedTable.available, sessions, replayed.free.sessions]
      refine rotating_ends ?_ ?_
      · refine ⟨{ now := store.clock, appNow := store.clock },
          ⟨rfl, rfl, fun untested => by cases untested⟩, Nat.le_refl _, ?_⟩
        simp [RefreshTokenRepository.rotate, idle]
      · intro input next stage' _ ran
        simp only [RefreshTokenRepository.rotate, idle, if_true] at ran
        cases ran
        exact commitReuse_ends replayed sweeping (by rw [Store.revoking, ← sessions])
  | succ count ih =>
      obtain ⟨first, rest, rfl⟩ := List.exists_cons_of_length_eq_add_one remaining
      refine rotating_ends ?_ ?_
      · refine ⟨{ now := store.clock, appNow := store.clock, row := first },
          ⟨rfl, rfl, fun untested => by cases untested⟩, Nat.le_refl _, ?_⟩
        simp [RefreshTokenRepository.rotate, available]
      · intro input next stage' _ ran
        simp only [RefreshTokenRepository.rotate] at ran
        split at ran
        · next reached =>
            cases ran
            have updated := sweeping.update replayed.valid reached.1
            refine ih updated sessions ?_ ?_
            · intro k
              rcases updated.mine k with unheld | mine <;> simp [LockedTable.available, *]
            · rw [List.length_erase_of_mem reached.1, remaining]
              rfl
        · cases ran

/-- The token has not expired, since its session has not, and it is used: the family UPDATE
starts with the rows that the family has now. -/
theorem check_ends (replayed : Replayed sha256 base owner rawToken token session)
    {startedAt : Time} (unexpired : store.clock < session.expiresAt)
    (tokens : store.refreshTokens = base.refreshTokens.lock owner token.id)
    (sessions : store.sessions = base.sessions)
    : (program sha256).Ends owner (Request.keepsTime session)
        (Detected base rawToken token session) store
        (.refresh rawToken (.rotating (.check startedAt token))) := by
  have snapshot (now : Time)
      (early : now < session.expiresAt)
      : ¬ token.expiresAt < now :=
    Nat.not_lt.mpr (Nat.le_trans (Nat.le_of_lt early) replayed.outlived)
  refine rotating_ends ?_ ?_
  · refine ⟨{ now := store.clock, appNow := store.clock }, ⟨rfl, rfl, fun _ => unexpired⟩,
      Nat.le_refl _, ?_⟩
    simp [RefreshTokenRepository.rotate, snapshot store.clock unexpired, replayed.used]
  · intro input next stage' keeps ran
    have early : ¬ token.expiresAt < input.appNow := by
      rw [keeps.2.1]
      exact snapshot input.now (keeps.2.2 rfl)
    simp only [RefreshTokenRepository.rotate, if_neg early, replayed.used, if_true] at ran
    cases ran
    refine updateFamily_ends replayed ?_ sessions
    rw [tokens]
    exact .begin replayed.valid replayed.free replayed.inserted token.id token.familyId

/-- The row that the SELECT has found can be locked at once. -/
theorem lockToken_ends (replayed : Replayed sha256 base owner rawToken token session)
    {startedAt : Time} (unexpired : store.clock < session.expiresAt)
    (tokens : store.refreshTokens = base.refreshTokens)
    (sessions : store.sessions = base.sessions)
    : (program sha256).Ends owner (Request.keepsTime session)
        (Detected base rawToken token session) store
        (.refresh rawToken (.rotating (.lockToken startedAt token.id))) := by
  have clean := replayed.valid.tokens.locked (replayed.free.tokens token.id)
  have current : store.refreshTokens.current RefreshTokenRow.id token.id = some token := by
    rw [tokens]
    exact replayed.valid.tokens.current_eq replayed.member clean
  have available : store.refreshTokens.available owner token.id = true := by
    simp [LockedTable.available, tokens, replayed.free.tokens]
  refine rotating_ends ?_ ?_
  · refine ⟨{ now := store.clock, appNow := store.clock }, ⟨rfl, rfl, fun _ => unexpired⟩,
      Nat.le_refl _, ?_⟩
    simp [RefreshTokenRepository.rotate, available, current]
  · intro input next stage' keeps ran
    simp only [RefreshTokenRepository.rotate, available, current, if_true] at ran
    cases ran
    exact check_ends replayed (keeps.2.2 rfl) (by rw [tokens]) sessions

/-- The SELECT finds the row of the token by its hash. -/
theorem select_ends (replayed : Replayed sha256 base owner rawToken token session)
    {startedAt : Time} (unexpired : store.clock < session.expiresAt)
    (tokens : store.refreshTokens = base.refreshTokens)
    (sessions : store.sessions = base.sessions)
    : (program sha256).Ends owner (Request.keepsTime session)
        (Detected base rawToken token session) store
        (.refresh rawToken (.rotating (.select startedAt))) := by
  have found := replayed.valid.find_token replayed.member replayed.presented
  rw [← tokens] at found
  refine rotating_ends ?_ ?_
  · refine ⟨{ now := store.clock, appNow := store.clock }, ⟨rfl, rfl, fun _ => unexpired⟩,
      Nat.le_refl _, ?_⟩
    simp [RefreshTokenRepository.rotate, found]
  · intro input next stage' keeps ran
    simp only [RefreshTokenRepository.rotate, found] at ran
    cases ran
    exact lockToken_ends replayed (keeps.2.2 rfl) tokens sessions

/-- So a replay ends by being detected, from BEGIN to COMMIT. -/
theorem begin_ends (replayed : Replayed sha256 base owner rawToken token session)
    (unexpired : store.clock < session.expiresAt)
    (tokens : store.refreshTokens = base.refreshTokens)
    (sessions : store.sessions = base.sessions)
    : (program sha256).Ends owner (Request.keepsTime session)
        (Detected base rawToken token session) store
        (.refresh rawToken (.rotating .begin)) := by
  refine rotating_ends ?_ ?_
  · exact ⟨{ now := store.clock, appNow := store.clock }, ⟨rfl, rfl, fun _ => unexpired⟩,
      Nat.le_refl _, rfl⟩
  · intro input next stage' keeps ran
    cases ran
    exact select_ends replayed (keeps.2.2 rfl) tokens sessions

/-- Between transactions nobody holds a lock or an insertion. -/
theorem free_of_idle {moves : List (Move Request Input)} {pool : Pool Store Request}
    (reached : (machine sha256).Reaches moves pool)
    (idle : ∀ request ∈ pool.threads, request.inTransaction = false)
    : Free pool.shared ∧ ∀ index, pool.shared.refreshTokens.insertedBy index = [] := by
  obtain ⟨⟨⟨_, linked⟩, _⟩, slots⟩ := reaches_aged reached
  have none (index : Nat) : Confined pool.shared index (fun _ => False) := by
    have confined := (slots index).2
    cases found : pool.threads[index]? with
    | none => rwa [found] at confined
    | some request =>
        rw [found] at confined
        have outside := idle request (List.mem_of_getElem? found)
        have locks : request.locks sha256 pool.shared = fun _ => False := by
          unfold Request.locks
          split
          · cases outside
          · cases outside
          · rfl
        rw [← locks]
        exact confined.1
  refine ⟨⟨fun k => ?_, fun k => ?_, linked.sessions⟩, fun index => ?_⟩
  · cases held : pool.shared.refreshTokens.holder k with
    | none => rfl
    | some index =>
        obtain ⟨_, _, _, impossible⟩ := (none index).tokens k held
        exact impossible.elim
  · cases held : pool.shared.sessions.holder k with
    | none => rfl
    | some index => exact ((none index).sessions k held).elim
  · exact List.eq_nil_iff_forall_not_mem.mpr (fun row => (none index).inserted row)

/-- No reuse goes undetected on a live session. In every reachable state no token expires
before its session. And whenever a used token is presented while its session is active and no
transaction is under way, the call of `rotate` ends: it commits with the session revoked and
every row of the family used, whatever its statements take and in whatever order it updates
the rows.
-/
theorem replay_detected {moves : List (Move Request Input)} {pool : Pool Store Request}
    (reached : (machine sha256).Reaches moves pool)
    : (∀ token ∈ pool.shared.refreshTokens.rows,
        ∀ session ∈ pool.shared.sessions.rows,
          session.id = token.sessionId → session.expiresAt ≤ token.expiresAt)
      ∧ ∀ (rawToken : RawToken) (token : RefreshTokenRow) (session : SessionRow),
          (∀ request ∈ pool.threads, request.inTransaction = false) →
            token ∈ pool.shared.refreshTokens.rows → token.tokenHash = sha256 rawToken →
              token.isUsed = true →
                pool.shared.findActiveById token.sessionId = some session →
                  ∃ store,
                    Request.start sha256 pool.shared
                        (.refresh rawToken (.rotating .begin))
                      = some store
                    ∧ (program sha256).Ends pool.threads.length (Request.keepsTime session)
                        (Detected pool.shared rawToken token session) store
                        (.refresh rawToken (.rotating .begin)) := by
  obtain ⟨⟨⟨valid, _⟩, aged⟩, _⟩ := reaches_aged reached
  refine ⟨fun token member session active named => aged.outlives member active named, ?_⟩
  intro rawToken token session idle member presented used found
  obtain ⟨free, inserted⟩ := free_of_idle reached idle
  have active := List.mem_of_find?_eq_some found
  have meets := List.find?_some found
  simp only [Bool.and_eq_true, decide_eq_true_eq] at meets
  obtain ⟨⟨named, _⟩, unexpired⟩ := meets
  have replayed
      : Replayed sha256 pool.shared pool.threads.length rawToken token session :=
    ⟨valid, free, inserted _, member, presented, used, active, named,
      aged.outlives member active named⟩
  exact ⟨_, rfl, begin_ends replayed unexpired rfl rfl⟩

end

/-- The first token is presented again after its rotation. -/
theorem replay_detected_first
    : ∃ store,
        Request.start id (stateAfter firstRefresh).shared (.refresh 10 (.rotating .begin))
          = some store
        ∧ (program id).Ends 2 (Request.keepsTime ⟨1, 100, false, 1, 1 + sevenDays⟩)
            (Detected (stateAfter firstRefresh).shared 10
              ⟨2, 1, 10, 3, true, 2, 2 + sevenDays⟩ ⟨1, 100, false, 1, 1 + sevenDays⟩)
            store (.refresh 10 (.rotating .begin)) := by
  have reached : (machine id).Reaches firstRefresh (stateAfter firstRefresh) := rfl
  exact (replay_detected reached).2 10 _ _ (by decide) (by decide) rfl rfl (by decide)

end NexusComms.Sessions
