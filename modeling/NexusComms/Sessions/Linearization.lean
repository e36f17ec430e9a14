import NexusComms.Sessions.Accounting

/-! Every statement of every request performs at most one act, so the interleavings of the
session store refine the ledger.
-/

namespace NexusComms.Sessions

open Storage Concurrency LockedTable

section

variable {sha256 : RawToken → Digest} {before after : Store} {ledger : SessionLedger}
  {owner : Nat} {rawToken : RawToken} {acts : List SessionAct} {input : Input}

/-- A used token is a reason to accuse its family. The UPDATE of the family takes its snapshot
in the same statement. -/
theorem accuses_family {startedAt : Time} {token : RefreshTokenRow}
    (accounted : Accounted sha256 before ledger)
    (reads : Reads sha256 before owner rawToken startedAt token) (used : token.isUsed = true)
    : ledger.Admits owner (.accuses (sha256 rawToken))
      ∧ Shows before (ledger.perform owner (.accuses (sha256 rawToken)))
      ∧ Condemning sha256 before (ledger.perform owner (.accuses (sha256 rawToken))) owner
          rawToken
          (before.refreshTokens.snapshot RefreshTokenRow.id
            (fun row => row.familyId = token.familyId)) := by
  obtain ⟨valid, linked, shown⟩ := accounted
  have page : ledger.tokens (sha256 rawToken) = some token.page :=
    reads.presented ▸ shown.page valid reads.committed
  have accused
      : (ledger.perform owner (.accuses (sha256 rawToken))).accused owner
        = ledger.familyOf (sha256 rawToken) := by
    simp [Ledger.perform]
  have inFamily {row : RefreshTokenRow} (member : row ∈ before.refreshTokens.rows)
      : row.tokenHash ∈ ledger.familyOf (sha256 rawToken) ↔ row.familyId = token.familyId := by
    have own := shown.page valid member
    constructor
    · rintro ⟨first, second, found, other, same⟩
      cases page.symm.trans found
      cases own.symm.trans other
      exact same
    · exact fun same => ⟨token.page, row.page, page, own, same⟩
  refine ⟨⟨token.page, page, used⟩, ⟨shown.accounts, shown.tokens⟩, ?_⟩
  have sweep
      : Sweep RefreshTokenRow.id before.refreshTokens owner _
          (before.refreshTokens.snapshot RefreshTokenRow.id
            (fun row => row.familyId = token.familyId)) :=
    .begin (fun k held =>
      ⟨token, reads.committed, by simp, ((reads.holder k).mp held).symm⟩)
  refine ⟨?_, fun digest member => ?_, sweep.congr (fun k => ?_)⟩
  · rw [accused]
    exact reads.presented ▸ (inFamily reads.committed).mpr rfl
  · rw [accused] at member
    obtain ⟨_, _, _, found, _⟩ := member
    obtain ⟨row, inRows, hash, _⟩ := shown.row found
    exact ⟨row, inRows, hash⟩
  · rw [accused]
    constructor
    · rintro ⟨row, member, family, named⟩
      exact ⟨row, member, named, (inFamily member).mpr (of_decide_eq_true family)⟩
    · rintro ⟨row, member, named, hash⟩
      exact ⟨row, member, decide_eq_true ((inFamily member).mp hash), named⟩

/-- The COMMIT of a reuse branch condemns the tokens that it accused. -/
theorem condemns_accused {token : RefreshTokenRow} (rotations : List Rotation)
    (reuseCommits : List Uuid) (accounted : Accounted sha256 before ledger)
    (inserted : before.refreshTokens.insertedBy owner = [])
    (condemning : Condemning sha256 before ledger owner rawToken [])
    (owned : Owned sha256 before rawToken token.sessionId)
    (sweep
      : Sweep SessionRow.id before.sessions owner (fun k => k = token.sessionId) [])
    : ledger.Admits owner (.condemns (sha256 rawToken))
      ∧ Shows (before.completed owner rotations reuseCommits)
          (ledger.perform owner (.condemns (sha256 rawToken))) := by
  obtain ⟨valid, linked, shown⟩ := accounted
  obtain ⟨row, member, presented, ofSession⟩ := owned
  have page : ledger.tokens (sha256 rawToken) = some row.page :=
    presented ▸ shown.page valid member
  refine ⟨condemning.presented, ?_, ?_⟩
  · funext name
    have noneInserted : before.sessions.insertedBy owner = [] := by
      simp [insertedBy, linked.sessions]
    show _ = ((before.sessions.commit SessionRow.id owner).rows.find? _).map _
    rw [valid.sessions.commit_rows, noneInserted, List.append_nil]
    have revoked (row : SessionRow) (member : row ∈ before.sessions.rows)
        : (row.id ∈ { name | name = token.sessionId } →
              before.sessions.published SessionRow.id SessionRow.revoke owner row = row.revoke)
          ∧ (row.id ∉ { name | name = token.sessionId } →
              before.sessions.published SessionRow.id SessionRow.revoke owner row = row) :=
      sweep.published member
    refine Eq.trans ?_ (shown.close (published_session_id _ _) revoked name)
    have part
        : { name | ∃ page, ledger.tokens (sha256 rawToken) = some page ∧ page.account = name }
          = { name | name = token.sessionId } := by
      ext name
      constructor
      · rintro ⟨found, same, rfl⟩
        cases page.symm.trans same
        exact ofSession
      · rintro rfl
        exact ⟨row.page, page, ofSession⟩
    simp only [Ledger.perform, part]
    rfl
  · funext digest
    show _ = ((before.refreshTokens.commit RefreshTokenRow.id owner).rows.find? _).map _
    rw [valid.tokens.commit_rows, inserted, List.append_nil]
    refine shown.spend (published_marks _ _) (fun row member => ?_) digest
    constructor
    · exact fun accused => (condemning.sweep.published member).1 ⟨row, member, rfl, accused⟩
    · intro innocent
      refine (condemning.sweep.published member).2 ?_
      rintro ⟨other, inRows, named, accused⟩
      rw [valid.tokens.row_unique inRows member named] at accused
      exact innocent accused

/-- A request without locks on session rows publishes none. -/
theorem commit_sessions_rows (valid : Valid sha256 before) (linked : Linked before)
    (free : ∀ k, before.sessions.holder k ≠ some owner)
    : (before.sessions.commit SessionRow.id owner).rows = before.sessions.rows := by
  have noneInserted : before.sessions.insertedBy owner = [] := by
    simp [insertedBy, linked.sessions]
  rw [valid.sessions.commit_rows, noneInserted, List.append_nil]
  refine (List.map_congr_left (fun row _ => ?_)).trans (List.map_id _)
  simp [published, free row.id]

/-- The COMMIT of a rotation exchanges the presented token for the new one. -/
theorem exchanges_token {token successor : RefreshTokenRow} {newRawToken : RawToken}
    {startedAt : Time} (rotations : List Rotation) (reuseCommits : List Uuid)
    (accounted : Accounted sha256 before ledger)
    (marked : Marked sha256 before owner rawToken startedAt token)
    (inserted : before.refreshTokens.insertedBy owner = [successor])
    (family : successor.familyId = token.familyId)
    (session : successor.sessionId = token.sessionId) (fresh : successor.isUsed = false)
    (hash : successor.tokenHash = sha256 newRawToken)
    (free : ∀ k, before.sessions.holder k ≠ some owner)
    : ledger.Admits owner (.exchanges (sha256 rawToken) (sha256 newRawToken))
      ∧ Shows (before.completed owner rotations reuseCommits)
          (ledger.perform owner (.exchanges (sha256 rawToken) (sha256 newRawToken))) := by
  obtain ⟨valid, linked, shown⟩ := accounted
  have held := marked.reads.holder
  have member := marked.reads.committed
  have within (row : RefreshTokenRow) (inRows : row ∈ before.refreshTokens.rows)
      : (row.id = token.id →
            before.refreshTokens.published RefreshTokenRow.id RefreshTokenRow.markUsed owner row
              = row.markUsed)
        ∧ (row.id ≠ token.id →
            before.refreshTokens.published RefreshTokenRow.id RefreshTokenRow.markUsed owner row
              = row) := by
    constructor
    · intro same
      exact if_pos ⟨(held row.id).mpr same, same ▸ marked.marked⟩
    · exact fun different => if_neg (fun written => different ((held row.id).mp written.1))
  have newHash (row : RefreshTokenRow) (inRows : row ∈ before.refreshTokens.rows)
      : row.tokenHash ≠ successor.tokenHash := by
    have waiting : successor ∈ before.refreshTokens.insertedBy owner := by simp [inserted]
    obtain ⟨entry, inInserted, same⟩ := List.mem_map.mp waiting
    have hashes := valid.hashes
    rw [LockedTable.all, List.map_append, List.nodup_append] at hashes
    refine hashes.2.2 _ (List.mem_map_of_mem inRows) _ ?_
    refine List.mem_map_of_mem (same ▸ List.mem_map_of_mem ?_)
    exact (List.mem_filter.mp inInserted).1
  have exchanged
      : ledger.Admits owner (.exchanges token.tokenHash successor.tokenHash)
        ∧ Shows (before.completed owner rotations reuseCommits)
            (ledger.perform owner (.exchanges token.tokenHash successor.tokenHash)) :=
    shown.exchanges valid (published_marks _ _) member marked.unused within newHash family
      session fresh (commit_sessions_rows valid linked free)
      (by rw [← inserted]; exact valid.tokens.commit_rows owner)
  rwa [marked.reads.presented, hash] at exchanged

/-- Every statement of `rotate` performs at most one act: to accuse the family, to condemn it,
or to exchange the token. -/
theorem rotate_performs {stage : RotateStage} {stage' : RefreshStage}
    (accounted : Accounted sha256 before ledger)
    (holds : stage.Holds sha256 before owner rawToken)
    (prepared : stage.Prepared sha256 before ledger owner rawToken)
    (did : RefreshStage.Did sha256 rawToken (.rotating stage) acts)
    (ran
      : RefreshTokenRepository.rotate sha256 owner input before rawToken stage
        = some (after, stage'))
    : Explains sha256 owner (.refresh rawToken stage') acts before after ledger := by
  have shown := accounted.shown
  have undisturbed (other : Nat) (_ : other ≠ owner)
      : Undisturbed SessionRow.id SessionRow.revoke other before.sessions before.sessions :=
    .refl other _
  cases stage with
  | begin =>
      cases ran
      exact .quiet shown rfl rfl undisturbed prepared did
  | select startedAt =>
      simp only [RefreshTokenRepository.rotate] at ran
      split at ran
      · cases ran
        exact .rollback shown (Or.inl did)
      · cases ran
        exact .quiet shown rfl rfl undisturbed prepared did
  | lockToken startedAt id =>
      simp only [RefreshTokenRepository.rotate] at ran
      split at ran
      · split at ran
        · cases ran
          exact .rollback shown (Or.inl did)
        · cases ran
          exact .quiet shown rfl rfl undisturbed prepared did
      · cases ran
  | check startedAt token =>
      simp only [RefreshTokenRepository.rotate] at ran
      split at ran
      · cases ran
        exact .rollback shown did
      · split at ran
        · rename_i used
          cases ran
          obtain ⟨admits, shows', condemning⟩ := accuses_family accounted holds.1 used
          have owned := Owned.of_row holds.1.committed holds.1.presented
          refine .act _ ⟨admits, shows'⟩ undisturbed ⟨condemning, owned, prepared⟩ ?_
          exact congrArg (fun done => done ++ [Act.accuses (sha256 rawToken)]) did
        · cases ran
          exact .quiet shown rfl rfl undisturbed prepared did
  | updateFamily token todo =>
      obtain ⟨condemning, owned, free⟩ := prepared
      cases todo with
      | nil =>
          simp only [RefreshTokenRepository.rotate] at ran
          split at ran
          · rename_i available
            cases ran
            obtain ⟨row, member, presented, ofSession⟩ := owned
            obtain ⟨userId, session, inSessions, named, _⟩ :=
              accounted.linked.refreshTokens row (List.mem_append_left _ member)
            have sweep :=
              (Sweep.of_free free inSessions (named.trans ofSession)).lock_write
                accounted.valid.sessions (List.mem_singleton.mpr rfl)
            rw [List.erase_cons_head] at sweep
            refine .quiet shown rfl rfl
              (fun _ different => .lock_write different available) ?_ did
            exact ⟨⟨condemning.presented, condemning.known, condemning.sweep⟩,
              ⟨row, member, presented, ofSession⟩, sweep⟩
          · cases ran
      | cons next later =>
          simp only [RefreshTokenRepository.rotate] at ran
          split at ran
          · rename_i reached
            cases ran
            refine .quiet shown rfl rfl undisturbed ?_ did
            exact ⟨⟨condemning.presented, condemning.known,
              condemning.sweep.lock_write accounted.valid.tokens reached.1⟩, owned, free⟩
          · cases ran
  | commitReuse token =>
      cases ran
      obtain ⟨condemning, owned, sweep⟩ := prepared
      refine .act _ (condemns_accused _ _ accounted holds.1 condemning owned sweep)
        (fun _ different => .commit different accounted.valid.sessions)
        (commit_sessions_free before owner) (Or.inr ?_)
      exact congrArg (fun done => done ++ [Act.condemns (sha256 rawToken)]) did
  | insertSuccessor startedAt token =>
      simp only [RefreshTokenRepository.rotate] at ran
      split at ran
      · cases ran
        exact .quiet shown rfl rfl undisturbed ⟨rfl, rfl, prepared⟩ did
      · cases ran
  | commitRotation token newRawToken successor =>
      cases ran
      obtain ⟨marked, inserted, family, session⟩ := holds
      obtain ⟨fresh, hash, free⟩ := prepared
      refine .act _
        (exchanges_token _ _ accounted marked inserted family session fresh hash free)
        (fun _ different => .commit different accounted.valid.sessions)
        (commit_sessions_free before owner) ?_
      exact congrArg
        (fun done => done ++ [Act.exchanges (sha256 rawToken) (sha256 newRawToken)]) did

/-- Every statement of `refresh` performs at most one act. A statement that fails inside the
transaction takes back what the transaction has written, but not the accusation. -/
theorem refresh_performs {stage stage' : RefreshStage}
    (accounted : Accounted sha256 before ledger)
    (holds : stage.Holds sha256 before owner rawToken)
    (prepared : Request.Prepared sha256 before ledger owner (some (.refresh rawToken stage)))
    (did : stage.Did sha256 rawToken acts)
    (ran
      : AuthService.refresh sha256 owner input before rawToken stage = some (after, stage'))
    : Explains sha256 owner (.refresh rawToken stage') acts before after ledger := by
  have shown := accounted.shown
  have undisturbed (other : Nat) (_ : other ≠ owner)
      : Undisturbed SessionRow.id SessionRow.revoke other before.sessions before.sessions :=
    .refl other _
  cases stage with
  | rotating stage =>
      simp only [AuthService.refresh] at ran
      split at ran
      · cases ran
        refine .rollback shown ?_
        rcases RotateStage.did did with none | accused
        · exact Or.inl none
        · exact Or.inr (Or.inl accused)
      · exact rotate_performs accounted holds prepared did ran
  | upsertCsrf newRawToken sessionId =>
      simp only [AuthService.refresh] at ran
      split at ran
      · cases ran
        exact .quiet shown rfl rfl undisturbed prepared (Or.inr (Or.inr ⟨newRawToken, did⟩))
      · split at ran
        · cases ran
          exact .quiet shown rfl rfl undisturbed prepared did
        · cases ran
  | findActiveSession newRawToken sessionId csrfToken =>
      simp only [AuthService.refresh] at ran
      split at ran
      · cases ran
        exact .quiet shown rfl rfl undisturbed prepared (Or.inr (Or.inr ⟨newRawToken, did⟩))
      · split at ran
        · cases ran
          exact .quiet shown rfl rfl undisturbed prepared ⟨newRawToken, did⟩
        · cases ran
          exact .quiet shown rfl rfl undisturbed prepared did
  | returned tokens => cases ran
  | threw message => cases ran

/-- The statements of a login open the account and issue its first token. -/
theorem issueTokens_performs {userId : Uuid} {stage stage' : LoginStage}
    (accounted : Accounted sha256 before ledger)
    (prepared : Request.Prepared sha256 before ledger owner (some (.login userId stage)))
    (inScope : (Request.login userId stage).InScope sha256 before)
    (did : stage.Did sha256 userId acts)
    (ran : AuthService.issueTokens sha256 input before userId stage = some (after, stage'))
    : Explains sha256 owner (.login userId stage') acts before after ledger := by
  have ⟨valid, _, shown⟩ := accounted
  have undisturbed (other : Nat) (_ : other ≠ owner)
      : Undisturbed SessionRow.id SessionRow.revoke other before.sessions before.sessions :=
    .refl other _
  cases stage with
  | createSession =>
      simp only [AuthService.issueTokens] at ran
      split at ran
      · cases ran
        exact .quiet shown rfl rfl undisturbed prepared (Or.inl did)
      · split at ran
        · rename_i fresh
          cases ran
          refine .act _ (shown.opens valid fresh rfl rfl rfl) (fun _ _ => .append _ _ _)
            prepared ?_
          exact congrArg (fun done => done ++ [Act.opens input.uuid userId]) did
        · cases ran
  | issueTokenSet sessionId =>
      simp only [AuthService.issueTokens] at ran
      split at ran
      · cases ran
        exact .quiet shown rfl rfl undisturbed prepared (Or.inr ⟨sessionId, Or.inl did⟩)
      · split at ran
        · rename_i fresh
          cases ran
          obtain ⟨_, newHash⟩ := fresh_iff.mp fresh.1
          let token : RefreshTokenRow := {
            id := input.uuid
            sessionId := sessionId
            tokenHash := sha256 input.rawToken
            familyId := input.familyId
            isUsed := false
            createdAt := input.now
            expiresAt := input.now + sevenDays
          }
          refine .act _ (shown.issues valid token newHash fresh.2 rfl inScope rfl rfl)
            undisturbed prepared ⟨input.familyId, ?_⟩
          exact congrArg
            (fun done =>
              done ++ [Act.issues sessionId input.familyId (sha256 input.rawToken)]) did
        · cases ran
  | upsertCsrf sessionId rawRefreshToken =>
      obtain ⟨familyId, done⟩ := did
      simp only [AuthService.issueTokens] at ran
      split at ran
      · cases ran
        exact .quiet shown rfl rfl undisturbed prepared
          (Or.inr ⟨sessionId, Or.inr ⟨familyId, rawRefreshToken, done⟩⟩)
      · split at ran
        · cases ran
          exact .quiet shown rfl rfl undisturbed prepared ⟨rfl, familyId, done⟩
        · cases ran
  | returned tokens => cases ran
  | threw => cases ran

/-- Revoking the rows of `part` closes these accounts. -/
theorem closes_part {part : Set Uuid} (shown : Shows before ledger)
    (linked : Linked before) {table : LockedTable Uuid SessionRow}
    (sound : Sound SessionRow.id SessionRow.revoke table)
    (rows : table.rows = before.sessions.rows)
    (inserted : table.inserted = before.sessions.inserted)
    (within
      : ∀ row ∈ before.sessions.rows,
          (row.id ∈ part →
            table.published SessionRow.id SessionRow.revoke owner row = row.revoke)
          ∧ (row.id ∉ part →
            table.published SessionRow.id SessionRow.revoke owner row = row))
    (sessions : after.sessions = table.commit SessionRow.id owner)
    (tokens : after.refreshTokens.rows = before.refreshTokens.rows)
    : Shows after (ledger.close part) where
  accounts := by
    funext name
    have noneInserted : table.insertedBy owner = [] := by
      simp [insertedBy, inserted, linked.sessions]
    rw [Store.account, sessions, sound.commit_rows, noneInserted, List.append_nil, rows]
    exact shown.close (published_session_id _ _) within name
  tokens := by
    funext digest
    rw [Store.page, tokens]
    exact congrFun shown.tokens digest

theorem logout_performs {sessionId : Uuid} {stage stage' : LogoutStage}
    (accounted : Accounted sha256 before ledger)
    (prepared : Request.Prepared sha256 before ledger owner (some (.logout sessionId stage)))
    (did : stage.Did sessionId acts)
    (ran : AuthService.logout owner input before sessionId stage = some (after, stage'))
    : Explains sha256 owner (.logout sessionId stage') acts before after ledger := by
  have ⟨valid, linked, shown⟩ := accounted
  have free : ∀ k, before.sessions.holder k ≠ some owner := by
    cases stage <;> exact prepared
  cases stage with
  | revoke =>
      simp only [AuthService.logout] at ran
      split at ran
      · cases ran
        exact .quiet shown rfl rfl (fun other _ => .refl other _) prepared did
      · split at ran
        · rename_i available
          cases ran
          have sound := (valid.revoke owner sessionId).sessions
          have revoked (row : SessionRow) (member : row ∈ before.sessions.rows) :=
            published_lock_write valid.sessions free sessionId member
          refine .act (.closes sessionId)
            ⟨trivial, closes_part shown linked sound rfl rfl ?_ rfl rfl⟩
            (fun other different => ?_) ?_ ?_
          · intro row member
            rw [revoked row member, Set.mem_singleton_iff]
            exact ⟨fun same => if_pos same, fun different => if_neg different⟩
          · have locked : Undisturbed SessionRow.id SessionRow.revoke other _ _ :=
              .lock_write different available
            exact locked.trans (.commit different sound) revoke_revoke
          · exact fun k held => (release_holder_iff.mp held).1 rfl
          · exact congrArg (fun done => done ++ [Act.closes sessionId]) did
        · cases ran
  | done => cases ran
  | threw => cases ran

/-- The notice given to a user is for the sessions in the snapshot of the UPDATE. -/
theorem notifies_snapshot (shown : Shows before ledger) (valid : Valid sha256 before)
    (userId : Uuid) (k : Uuid)
    : (∃ row ∈ before.sessions.rows, decide (row.userId = userId) = true ∧ row.id = k)
      ↔ k ∈ (ledger.perform owner (.notifies userId)).noticed owner := by
  have noticed
      : (ledger.perform owner (.notifies userId)).noticed owner = ledger.accountsOf userId := by
    simp [Ledger.perform]
  rw [noticed]
  constructor
  · rintro ⟨row, member, user, rfl⟩
    exact ⟨row.account, shown.account valid member, of_decide_eq_true user⟩
  · rintro ⟨account, found, rfl⟩
    obtain ⟨row, member, named, rfl⟩ := shown.session found
    exact ⟨row, member, decide_eq_true rfl, named⟩

/-- The notice of `revokeAllForUser` is its snapshot, and its COMMIT closes what it has
noticed. -/
theorem logoutAll_performs {userId : Uuid} {stage stage' : LogoutAllStage}
    (accounted : Accounted sha256 before ledger) (idle : Idle before owner)
    (prepared : Request.Prepared sha256 before ledger owner (some (.logoutAll userId stage)))
    (did : stage.Did userId acts)
    (ran : AuthService.logoutAll owner input before userId stage = some (after, stage'))
    : Explains sha256 owner (.logoutAll userId stage') acts before after ledger := by
  have ⟨valid, linked, shown⟩ := accounted
  have undisturbed (other : Nat) (_ : other ≠ owner)
      : Undisturbed SessionRow.id SessionRow.revoke other before.sessions before.sessions :=
    .refl other _
  cases stage with
  | revokeAllForUser =>
      simp only [AuthService.logoutAll] at ran
      split at ran
      · cases ran
        exact .quiet shown rfl rfl undisturbed prepared (Or.inl did)
      · cases ran
        refine .act (.notifies userId) ⟨trivial, shown.accounts, shown.tokens⟩ undisturbed ?_ ?_
        · have sweep
              : Sweep SessionRow.id before.sessions owner _
                  (before.sessions.snapshot SessionRow.id (fun row => row.userId = userId)) :=
            .begin (fun k held => absurd held (prepared k))
          exact sweep.congr (notifies_snapshot shown valid userId)
        · exact congrArg (fun done => done ++ [Act.notifies userId]) did
  | updating todo =>
      simp only [AuthService.logoutAll] at ran
      split at ran
      · cases ran
        exact .quiet shown rfl rfl (fun _ different => .release different _)
          (rollback_free before owner) (Or.inr did)
      · split at ran
        · rename_i reached
          cases ran
          subst reached
          refine .act .closesNoticed
            ⟨trivial, closes_part shown linked valid.sessions rfl rfl
              (fun row member => prepared.published member) rfl (idle.commit_rows valid)⟩
            (fun _ different => .commit different valid.sessions)
            (commit_sessions_free before owner) ?_
          exact congrArg (fun done => done ++ [Act.closesNoticed]) did
        · split at ran
          · rename_i next
            cases ran
            exact .quiet shown rfl rfl (fun _ different => .lock_write different next.2)
              (prepared.lock_write valid.sessions next.1) did
          · cases ran
  | done => cases ran
  | threw => cases ran

/-- Every statement of every request performs at most one act. -/
theorem request_performs {request request' : Request}
    (accounted : Accounted sha256 before ledger)
    (slot : SlotAccounted sha256 before ledger owner (some request) acts)
    (ran : request.step sha256 owner input before = some (after, request'))
    : Explains sha256 owner request' acts before after ledger := by
  obtain ⟨holds, confined, prepared, did⟩ := slot
  cases request with
  | login userId stage =>
      obtain ⟨⟨store, stage'⟩, stepped, same⟩ := Option.map_eq_some_iff.mp ran
      cases same
      exact issueTokens_performs accounted prepared confined.2 did stepped
  | refresh rawToken stage =>
      obtain ⟨⟨store, stage'⟩, stepped, same⟩ := Option.map_eq_some_iff.mp ran
      cases same
      exact refresh_performs accounted holds.2 prepared did stepped
  | logout sessionId stage =>
      obtain ⟨⟨store, stage'⟩, stepped, same⟩ := Option.map_eq_some_iff.mp ran
      cases same
      exact logout_performs accounted prepared did stepped
  | logoutAll userId stage =>
      obtain ⟨⟨store, stage'⟩, stepped, same⟩ := Option.map_eq_some_iff.mp ran
      cases same
      exact logoutAll_performs accounted holds prepared did stepped
  | validate payload stage =>
      obtain ⟨⟨store, stage'⟩, stepped, same⟩ := Option.map_eq_some_iff.mp ran
      cases same
      cases validate_store stepped
      exact .quiet accounted.shown rfl rfl (fun other _ => .refl other _) prepared did

-----------------------------------------------------------------------------------------
-- All requests together
-----------------------------------------------------------------------------------------

/-- An arriving request has prepared nothing and done nothing. -/
theorem start_prepared {request : Request} (free : ∀ k, before.sessions.holder k ≠ some owner)
    (started : Request.start sha256 before request = some after)
    : Request.Prepared sha256 after ledger owner (some request)
      ∧ Request.Did sha256 (some request) [] := by
  unfold Request.start at started
  split at started
  · cases started
    exact ⟨free, rfl⟩
  · cases started
    exact ⟨free, rfl⟩
  · cases started
    exact ⟨free, rfl⟩
  · cases started
    exact ⟨free, rfl⟩
  · cases started
    exact ⟨free, rfl⟩
  · cases started

/-- The requests refine the ledger: each move of a pool is explained by at most one act of the
request that moves. -/
theorem program_refines
    : (program sha256).Refines Ledger.machine (Accounted sha256) (SlotAccounted sha256) where
  start := by
    intro store store' ledger index request acts ⟨valid, linked, shown⟩ slot started
    obtain ⟨⟨valid', linked'⟩, ⟨holds, confined⟩, others⟩ :=
      ownership_outline.start ⟨valid, linked⟩ ⟨slot.holds, slot.confined⟩ started
    obtain ⟨_, moved⟩ := start_kept index valid started
    obtain ⟨prepared, did⟩ := start_prepared slot.prepared started
    have none : acts = [] := slot.did
    subst none
    obtain ⟨seen, rfl⟩ := start_store started
    have spares
        : Spares index store { store with digests := seen ++ store.digests } ledger ledger :=
      ⟨fun other _ => .refl other _, fun _ _ => rfl, fun _ _ => rfl⟩
    refine ⟨⟨valid', linked', shown.of_rows_eq rfl rfl⟩, ⟨holds, confined, prepared, did⟩, ?_⟩
    intro other slot' done different held
    obtain ⟨holds', confined'⟩ := others other slot' different ⟨held.holds, held.confined⟩
    exact ⟨holds', confined', Prepared.frame held.prepared moved spares valid' different,
      held.did⟩
  step := by
    intro store store' ledger index input request request' acts ⟨valid, linked, shown⟩ slot ran
    obtain ⟨⟨valid', linked'⟩, ⟨holds, confined⟩, others⟩ :=
      ownership_outline.step ⟨valid, linked⟩ ⟨slot.holds, slot.confined⟩ ran
    obtain ⟨_, moved⟩ := program_confines valid linked slot.holds slot.confined ran
    obtain ⟨later, stepped⟩ := program_step_some ran
    obtain ⟨ticked, linkedThen, slots⟩ := ownership_tick valid linked later
    obtain ⟨holdsThen, confinedThen⟩ := slots index _ slot.holds slot.confined
    -- the clock moves on as if by another request
    have preparedThen :=
      Prepared.frame slot.prepared (tick_kept (index + 1) valid later).2
        ⟨fun other _ => .refl other _, fun _ _ => rfl, fun _ _ => rfl⟩ ticked
        (Nat.ne_of_lt (Nat.lt_succ_self index))
    obtain ⟨more, ledger', short, performed, shown', spares, prepared, did⟩ :=
      request_performs ⟨ticked, linkedThen, shown.of_rows_eq rfl rfl⟩
        ⟨holdsThen, confinedThen, preparedThen, slot.did⟩ stepped
    refine ⟨more, ledger', short, performed, ⟨valid', linked', shown'⟩,
      ⟨holds, confined, prepared, did⟩, ?_⟩
    intro other slot' done different held
    obtain ⟨holds', confined'⟩ := others other slot' different ⟨held.holds, held.confined⟩
    refine ⟨holds', confined', Prepared.frame held.prepared moved ?_ valid' different, held.did⟩
    exact ⟨spares.sessions, spares.accused, spares.noticed⟩

theorem Accounted.empty : Accounted sha256 Store.empty Ledger.empty := ⟨.empty, .empty, .empty⟩

theorem SlotAccounted.empty (owner : Nat)
    : SlotAccounted sha256 Store.empty Ledger.empty owner none [] where
  holds := Idle.empty owner
  confined := Confined.empty owner
  prepared := fun k held => by simp [Store.empty, LockedTable.empty] at held
  did := rfl

/-- A log that explains a pool with all assertions of the proof explains it to a reader. -/
theorem Accounts.of_explained {log : List (Nat × SessionAct)} {pool : Pool Store Request}
    (explained
      : Program.Explained Ledger.machine (Accounted sha256) (SlotAccounted sha256) log ledger
          pool)
    : Accounts sha256 log ledger pool :=
  ⟨explained.performed, explained.related.shown, fun index => (explained.slots index).did⟩

/-- Every reachable pool is explained by a log. -/
theorem reaches_explained {moves : List (Move Request Input)} {pool : Pool Store Request}
    (run : (machine sha256).Reaches moves pool)
    : ∃ log ledger,
        Program.Explained Ledger.machine (Accounted sha256) (SlotAccounted sha256) log ledger
          pool := by
  have begun
      : Program.Explained Ledger.machine (Accounted sha256) (SlotAccounted sha256) []
          Ledger.empty (machine sha256).init :=
    .init .empty SlotAccounted.empty
  obtain ⟨log, ledger, _, _, explained⟩ := program_refines.exec begun run
  exact ⟨[] ++ log, ledger, explained⟩

/-- The session store refines the ledger in every interleaving. The committed rows are those of
a ledger on which the requests have acted one at a time; each request has done exactly the acts
that its stage or its answer tells of, and nothing if it has failed before its COMMIT. As the
run goes on the log only grows, by at most one act with each move.
-/
theorem requests_refine_ledger {moves : List (Move Request Input)} {pool : Pool Store Request}
    (run : (machine sha256).Reaches moves pool)
    : ∃ log ledger,
        Accounts sha256 log ledger pool
        ∧ ∀ later final,
            (machine sha256).exec pool later = some final →
              ∃ more ledger',
                more.length ≤ later.length
                ∧ Ledger.machine.exec ledger more = some ledger'
                ∧ Accounts sha256 (log ++ more) ledger' final := by
  obtain ⟨log, ledger, explained⟩ := reaches_explained run
  refine ⟨log, ledger, .of_explained explained, fun later final ran => ?_⟩
  obtain ⟨more, ledger', short, performed, there⟩ := program_refines.exec explained ran
  exact ⟨more, ledger', short, performed, .of_explained there⟩

end

/-- The refresh of the first token has exchanged it, and so has that of the second, although
the first one is presented again in between. -/
theorem requests_refine_ledger_overlap
    : ∃ log ledger,
        Accounts id log ledger (stateAfter (firstRefresh ++ reuseDuringRotation))
        ∧ actsOf log 1 = [.exchanges 10 12]
        ∧ actsOf log 2 = [.exchanges 12 13] := by
  have run
      : (machine id).Reaches (firstRefresh ++ reuseDuringRotation)
          (stateAfter (firstRefresh ++ reuseDuringRotation)) := rfl
  obtain ⟨log, ledger, accounts, _⟩ := requests_refine_ledger run
  exact ⟨log, ledger, accounts, accounts.slots 1, accounts.slots 2⟩

end NexusComms.Sessions
