import Mathlib.Data.List.Perm.Subperm
import NexusComms.Sessions.Outline

/-! Every statement of every request keeps the outline of the session store. -/

namespace NexusComms.Sessions

open Storage Concurrency LockedTable

section

variable {sha256 : RawToken → Digest} {store : Store} {owner : Nat} {input : Input}
  {request : Request}

-----------------------------------------------------------------------------------------
-- The statements, one by one
-----------------------------------------------------------------------------------------

/-- Tables without new tokens: every row was there before, up to `is_used`. -/
def NoNewTokens (before after : LockedTable Uuid RefreshTokenRow) : Prop :=
  (after.all.map RefreshTokenRow.markUsed).Subperm
    (before.all.map RefreshTokenRow.markUsed)

theorem NoNewTokens.old {before after : LockedTable Uuid RefreshTokenRow}
    (fewer : NoNewTokens before after) {row : RefreshTokenRow} (member : row ∈ after.all)
    : ∃ old ∈ before.all, SameToken old row := by
  have image := fewer.subset (List.mem_map_of_mem member)
  obtain ⟨old, inOld, same⟩ := List.mem_map.mp image
  exact ⟨old, inOld, .of_markUsed same⟩

theorem NoNewTokens.hashes {before after : LockedTable Uuid RefreshTokenRow}
    (fewer : NoNewTokens before after)
    (unique : (before.all.map RefreshTokenRow.tokenHash).Nodup)
    : (after.all.map RefreshTokenRow.tokenHash).Nodup := by
  have hashesOf (rows : List RefreshTokenRow)
      : rows.map RefreshTokenRow.tokenHash
        = (rows.map RefreshTokenRow.markUsed).map RefreshTokenRow.tokenHash := by
    rw [List.map_map]
    rfl
  rw [hashesOf] at unique ⊢
  obtain ⟨rows, perm, sublist⟩ := fewer
  exact ((perm.map _).nodup_iff).mp (unique.sublist (sublist.map _))

/-- Statements that write no new token keep the tables valid when they keep the token table
sound and its chains. -/
theorem Valid.with_tokens (valid : Valid sha256 store)
    {table : LockedTable Uuid RefreshTokenRow} (rotations : List Rotation)
    (sound : Sound RefreshTokenRow.id RefreshTokenRow.markUsed table)
    (fewer : NoNewTokens store.refreshTokens table)
    (chained : Chained sha256 table.rows rotations)
    : Valid sha256 { store with refreshTokens := table, rotations := rotations } where
  tokens := sound
  sessions := valid.sessions
  knownTokens := by
    intro row member
    obtain ⟨old, inOld, same⟩ := fewer.old member
    have known := valid.knownTokens old inOld
    rwa [same.id, same.familyId, same.tokenHash, same.createdAt] at known
  hashes := fewer.hashes valid.hashes
  knownSessions := valid.knownSessions
  chained := chained

theorem Valid.with_sessions (valid : Valid sha256 store)
    {table : LockedTable Uuid SessionRow}
    (sound : Sound SessionRow.id SessionRow.revoke table)
    (known : ∀ row ∈ table.all, row.id ∈ store.uuids)
    : Valid sha256 { store with sessions := table } :=
  ⟨valid.tokens, sound, valid.knownTokens, valid.hashes, known, valid.chained⟩

/-- More random values drawn, a later clock, other CSRF tokens or a longer list of reuse
commits change nothing. -/
theorem Valid.mono (valid : Valid sha256 store) {later : Store}
    (sessions : later.sessions = store.sessions)
    (tokens : later.refreshTokens = store.refreshTokens)
    (rotations : later.rotations = store.rotations)
    (uuids : store.uuids ⊆ later.uuids) (digests : store.digests ⊆ later.digests)
    (clock : store.clock ≤ later.clock)
    : Valid sha256 later where
  tokens := tokens ▸ valid.tokens
  sessions := sessions ▸ valid.sessions
  knownTokens := by
    intro row member
    obtain ⟨id, family, hash, created⟩ := valid.knownTokens row (tokens ▸ member)
    exact ⟨uuids id, uuids family, digests hash, Nat.le_trans created clock⟩
  hashes := tokens ▸ valid.hashes
  knownSessions := fun row member => uuids (valid.knownSessions row (sessions ▸ member))
  chained := by
    rw [tokens, rotations]
    exact valid.chained

theorem Moved.of_tokens_eq {later : Store}
    (tokens : later.refreshTokens = store.refreshTokens)
    (uuids : store.uuids ⊆ later.uuids) (digests : store.digests ⊆ later.digests)
    (clock : store.clock ≤ later.clock) (sessions : SessionsPersist store later)
    : Moved owner store later where
  others := by
    intro other _
    rw [tokens]
    exact .refl other _
  uuids := uuids
  digests := digests
  clock := clock
  seen := by
    intro row member _
    exact ⟨row, tokens ▸ member, ⟨rfl, rfl, rfl, rfl, rfl⟩⟩
  sessions := sessions

theorem Moved.with_tokens {later : Store}
    (others
      : ∀ other,
          other ≠ owner →
            Undisturbed RefreshTokenRow.id RefreshTokenRow.markUsed other
              store.refreshTokens later.refreshTokens)
    (fewer : NoNewTokens store.refreshTokens later.refreshTokens)
    (uuids : later.uuids = store.uuids) (digests : later.digests = store.digests)
    (clock : later.clock = store.clock) (sessions : SessionsPersist store later)
    : Moved owner store later where
  others := others
  uuids := by rw [uuids]; exact List.Subset.refl _
  digests := by rw [digests]; exact List.Subset.refl _
  clock := Nat.le_of_eq clock.symm
  seen := fun _ member _ => fewer.old member
  sessions := sessions

theorem NoNewTokens.of_all_eq {before after : LockedTable Uuid RefreshTokenRow}
    (same : after.all = before.all)
    : NoNewTokens before after := by
  rw [NoNewTokens, same]

theorem NoNewTokens.commit {table : LockedTable Uuid RefreshTokenRow}
    (sound : Sound RefreshTokenRow.id RefreshTokenRow.markUsed table) (owner : Nat)
    : NoNewTokens table (table.commit RefreshTokenRow.id owner) :=
  (sound.commit_all_perm markUsed_markUsed owner).subperm

theorem NoNewTokens.release (table : LockedTable Uuid RefreshTokenRow) (owner : Nat)
    : NoNewTokens table (table.release owner) :=
  ((table.release_all_sublist owner).map _).subperm

/-- After COMMIT or ROLLBACK the request holds nothing. -/
theorem Idle.of_release {later : Store}
    (holder
      : later.refreshTokens.holder = (store.refreshTokens.release owner).holder)
    (inserted
      : later.refreshTokens.insertedBy owner
        = (store.refreshTokens.release owner).insertedBy owner)
    : Idle later owner := by
  refine ⟨fun k held => ?_, ?_⟩
  · rw [holder] at held
    exact (release_holder_iff.mp held).1 rfl
  · rw [inserted, release_insertedBy, if_pos rfl]

/-- All that one statement can do to the committed token rows and the history of commits.
Only a happy-path COMMIT adds a row to a known family, and only a reuse branch marks rows
without adding one.
-/
inductive Effect (owner : Nat) (input : Input) (request : Request) (before after : Store)
    : Prop where
  | quiet
      (rotations : after.rotations = before.rotations)
      (reuseCommits : after.reuseCommits = before.reuseCommits)
      (rows
        : ∀ row ∈ after.refreshTokens.rows,
            row ∈ before.refreshTokens.rows ∨ row.familyId ∉ before.uuids)
  | rotated {rawToken newRawToken : RawToken} {token successor : RefreshTokenRow}
      (running
        : request
          = .refresh rawToken (.rotating (.commitRotation token newRawToken successor)))
      (succeeds : input.fails = false)
      (held : before.refreshTokens.holder token.id = some owner)
      (committed : token ∈ before.refreshTokens.rows)
      (unused : token.isUsed = false)
      (rotations
        : after.rotations
          = before.rotations ++ [⟨rawToken, token, newRawToken, successor⟩])
      (reuseCommits : after.reuseCommits = before.reuseCommits)
      (rows
        : ∀ row ∈ after.refreshTokens.rows, row.isUsed = false →
            row ∈ before.refreshTokens.rows ∨ row.familyId = token.familyId)
  | reused {rawToken : RawToken} {token : RefreshTokenRow}
      (running : request = .refresh rawToken (.rotating (.commitReuse token)))
      (known : token.familyId ∈ before.uuids)
      (rotations : after.rotations = before.rotations)
      (reuseCommits : after.reuseCommits = token.familyId :: before.reuseCommits)
      (rows
        : after.refreshTokens.rows
          = before.refreshTokens.rows.map
              (before.refreshTokens.published RefreshTokenRow.id RefreshTokenRow.markUsed
                owner))

theorem Effect.of_rows_eq {before after : Store}
    (rotations : after.rotations = before.rotations)
    (reuseCommits : after.reuseCommits = before.reuseCommits)
    (rows : after.refreshTokens.rows = before.refreshTokens.rows)
    : Effect owner input request before after :=
  .quiet rotations reuseCommits (fun _ member => Or.inl (rows ▸ member))

/-- A statement of request `owner` keeps the tables valid, establishes its own next
assertion, leaves all others alone and has one of the possible effects. -/
structure Kept (sha256 : RawToken → Digest) (owner : Nat) (input : Input)
    (request : Request) (before after : Store) (own : Prop)
    : Prop where
  valid : Valid sha256 after
  own : own
  moved : Moved owner before after
  effect : Effect owner input request before after

theorem SessionsPersist.of_rows_eq {later : Store}
    (rows : later.sessions.rows = store.sessions.rows)
    : SessionsPersist store later :=
  fun _ member => Or.inl (rows ▸ member)

/-- A COMMIT of session rows revokes some of them and drops none. -/
theorem SessionsPersist.of_commit {later : Store} {table : LockedTable Uuid SessionRow}
    (sound : Sound SessionRow.id SessionRow.revoke table)
    (before : table.rows = store.sessions.rows)
    (after : later.sessions = table.commit SessionRow.id owner)
    : SessionsPersist store later := by
  intro row member
  rw [after, sound.commit_rows]
  have image := List.mem_map_of_mem (f := table.published SessionRow.id SessionRow.revoke owner)
    (before ▸ member)
  unfold published at image
  split at image
  · exact Or.inr (List.mem_append_left _ image)
  · exact Or.inl (List.mem_append_left _ image)

/-- Session rows only change in `is_revoked`, so their ids stay known. -/
theorem Valid.sessions_commit (valid : Valid sha256 store) (owner : Nat)
    : Sound SessionRow.id SessionRow.revoke (store.sessions.commit SessionRow.id owner)
      ∧ ∀ row ∈ (store.sessions.commit SessionRow.id owner).all, row.id ∈ store.uuids := by
  refine ⟨valid.sessions.commit (fun _ => rfl) owner, fun row member => ?_⟩
  have perm := valid.sessions.commit_all_perm revoke_revoke owner
  obtain ⟨old, inOld, same⟩ :=
    List.mem_map.mp (perm.subset (List.mem_map_of_mem (f := SessionRow.revoke) member))
  have id : old.revoke.id = row.revoke.id := congrArg SessionRow.id same
  exact (show old.id = row.id from id) ▸ valid.knownSessions old inOld

theorem Valid.sessions_release (valid : Valid sha256 store) (owner : Nat)
    : Sound SessionRow.id SessionRow.revoke (store.sessions.release owner)
      ∧ ∀ row ∈ (store.sessions.release owner).all, row.id ∈ store.uuids :=
  ⟨valid.sessions.release owner,
    fun row member =>
      valid.knownSessions row ((store.sessions.release_all_sublist owner).subset member)⟩

/-- ROLLBACK, after which the request has ended. -/
theorem Valid.rollback (valid : Valid sha256 store) (owner : Nat)
    : Kept sha256 owner input request store (store.rollback owner)
        (Idle (store.rollback owner) owner) := by
  have sessions := valid.sessions_release owner
  have tokens :=
    valid.with_tokens store.rotations (valid.tokens.release owner)
      (.release store.refreshTokens owner) (by simpa using valid.chained)
  refine ⟨tokens.with_sessions sessions.1 sessions.2, .of_release rfl rfl, ?_,
    .of_rows_eq rfl rfl rfl⟩
  exact .with_tokens (fun other different => .release different _)
    (.release store.refreshTokens owner) rfl rfl rfl (.of_rows_eq rfl)

/-- The store after a COMMIT that completes these rotations and reuse branches. -/
def Store.completed (store : Store) (owner : Nat) (rotations : List Rotation)
    (reuseCommits : List Uuid)
    : Store :=
  { store.commit owner with rotations := rotations, reuseCommits := reuseCommits }

/-- COMMIT keeps the outline when the rotations it completes extend the chains. -/
theorem Valid.commit (valid : Valid sha256 store) (owner : Nat) (rotations : List Rotation)
    (reuseCommits : List Uuid)
    (chained
      : Chained sha256 (store.refreshTokens.commit RefreshTokenRow.id owner).rows rotations)
    (effect : Effect owner input request store (store.completed owner rotations reuseCommits))
    : Kept sha256 owner input request store (store.completed owner rotations reuseCommits)
        (Idle (store.completed owner rotations reuseCommits) owner) := by
  have sessions := valid.sessions_commit owner
  have tokens :=
    valid.with_tokens rotations (valid.tokens.commit (fun _ => rfl) owner)
      (.commit valid.tokens owner) chained
  have both := tokens.with_sessions sessions.1 sessions.2
  refine ⟨?_, .of_release rfl rfl, ?_, effect⟩
  · exact both.mono rfl rfl rfl (List.Subset.refl _) (List.Subset.refl _) (Nat.le_refl _)
  · exact .with_tokens (fun other different => .commit different valid.tokens)
      (.commit valid.tokens owner) rfl rfl rfl (.of_commit valid.sessions rfl rfl)

/-- A request that holds no token row publishes none. -/
theorem Idle.commit_rows (idle : Idle store owner) (valid : Valid sha256 store)
    : (store.refreshTokens.commit RefreshTokenRow.id owner).rows
      = store.refreshTokens.rows := by
  rw [valid.tokens.commit_rows, idle.inserted, List.append_nil]
  refine (List.map_congr_left (fun row _ => ?_)).trans (List.map_id _)
  simp [published, idle.holder row.id]

/-- On the happy path exactly the presented token's row is published as used. -/
theorem Marked.commit_rows {rawToken : RawToken} {startedAt : Time}
    {token successor : RefreshTokenRow}
    (marked : Marked sha256 store owner rawToken startedAt token)
    (inserted : store.refreshTokens.insertedBy owner = [successor])
    (valid : Valid sha256 store)
    : (store.refreshTokens.commit RefreshTokenRow.id owner).rows
        = store.refreshTokens.rows.map
            (store.refreshTokens.published RefreshTokenRow.id RefreshTokenRow.markUsed owner)
          ++ [successor]
      ∧ store.refreshTokens.published RefreshTokenRow.id RefreshTokenRow.markUsed owner token
        = token.markUsed := by
  constructor
  · rw [valid.tokens.commit_rows, inserted]
  · have held := (marked.reads.holder token.id).mpr rfl
    simp [published, held, marked.marked]

/-- A row with a new hash joins the token table, as the insertion of a running transaction
or as a committed row. -/
theorem Valid.with_new_token (valid : Valid sha256 store) {later : Store}
    {row : RefreshTokenRow}
    (sound : Sound RefreshTokenRow.id RefreshTokenRow.markUsed later.refreshTokens)
    (joined : later.refreshTokens.all.Perm (store.refreshTokens.all ++ [row]))
    (newHash : row.tokenHash ∉ store.digests)
    (known
      : row.id ∈ later.uuids ∧ row.familyId ∈ later.uuids ∧ row.tokenHash ∈ later.digests
        ∧ row.createdAt ≤ later.clock)
    (sessions : later.sessions = store.sessions) (uuids : store.uuids ⊆ later.uuids)
    (digests : store.digests ⊆ later.digests) (clock : store.clock ≤ later.clock)
    (chained : Chained sha256 later.refreshTokens.rows later.rotations)
    : Valid sha256 later where
  tokens := sound
  sessions := sessions ▸ valid.sessions
  knownTokens := by
    intro other member
    rcases List.mem_append.mp (joined.subset member) with old | new
    · obtain ⟨id, family, hash, created⟩ := valid.knownTokens other old
      exact ⟨uuids id, uuids family, digests hash, Nat.le_trans created clock⟩
    · exact List.mem_singleton.mp new ▸ known
  hashes := by
    refine ((joined.map RefreshTokenRow.tokenHash).nodup_iff).mpr ?_
    rw [List.map_append, List.nodup_append]
    refine ⟨valid.hashes, by simp, fun left member right single same => ?_⟩
    obtain ⟨old, inOld, rfl⟩ := List.mem_map.mp member
    simp only [List.map_cons, List.map_nil, List.mem_singleton] at single
    exact newHash (single ▸ same ▸ (valid.knownTokens old inOld).2.2.1)
  knownSessions := fun row member => uuids (valid.knownSessions row (sessions ▸ member))
  chained := chained

theorem Moved.with_new_token {later : Store} {row : RefreshTokenRow}
    (others
      : ∀ other,
          other ≠ owner →
            Undisturbed RefreshTokenRow.id RefreshTokenRow.markUsed other
              store.refreshTokens later.refreshTokens)
    (joined : later.refreshTokens.all.Perm (store.refreshTokens.all ++ [row]))
    (newHash : row.tokenHash ∉ store.digests) (uuids : store.uuids ⊆ later.uuids)
    (digests : store.digests ⊆ later.digests) (clock : store.clock ≤ later.clock)
    (sessions : SessionsPersist store later)
    : Moved owner store later where
  others := others
  uuids := uuids
  digests := digests
  clock := clock
  seen := by
    intro other member seen
    rcases List.mem_append.mp (joined.subset member) with old | new
    · exact ⟨other, old, ⟨rfl, rfl, rfl, rfl, rfl⟩⟩
    · exact absurd seen (List.mem_singleton.mp new ▸ newHash)
  sessions := sessions

/-- A UUID that was never drawn is not the id of a token row. -/
theorem Valid.newId (valid : Valid sha256 store) {uuid : Uuid} (fresh : uuid ∉ store.uuids)
    : uuid ∉ store.refreshTokens.all.map RefreshTokenRow.id := by
  intro member
  obtain ⟨old, inOld, same⟩ := List.mem_map.mp member
  exact fresh (same ▸ (valid.knownTokens old inOld).1)

theorem fresh_iff {input : Input}
    : store.fresh sha256 input = true
      ↔ input.uuid ∉ store.uuids ∧ sha256 input.rawToken ∉ store.digests := by
  simp [Store.fresh]

/-- Publishing never makes a row unused. -/
theorem unused_of_published {table : LockedTable Uuid RefreshTokenRow}
    {row : RefreshTokenRow}
    (member
      : row
        ∈ table.rows.map
            (table.published RefreshTokenRow.id RefreshTokenRow.markUsed owner))
    (unused : row.isUsed = false)
    : row ∈ table.rows := by
  obtain ⟨old, inRows, rfl⟩ := List.mem_map.mp member
  rcases published_marks table owner old with same | marked
  · exact same.symm ▸ inRows
  · rw [marked] at unused
    cases unused

/-- A free row was locked by nobody, or by the request itself. -/
theorem available_iff {κ ρ : Type} {table : LockedTable κ ρ} {k : κ}
    : table.available owner k = true
      ↔ table.holder k = none ∨ table.holder k = some owner := by
  simp [available]

-----------------------------------------------------------------------------------------
-- rotate
-----------------------------------------------------------------------------------------

/-- A statement that only reads. -/
theorem Kept.of_read (valid : Valid sha256 store) {own : Prop} (holds : own)
    : Kept sha256 owner input request store store own :=
  ⟨valid, holds,
    .of_tokens_eq rfl (List.Subset.refl _) (List.Subset.refl _) (Nat.le_refl _)
      (.of_rows_eq rfl),
    .of_rows_eq rfl rfl rfl⟩

/-- A statement that locks token rows and writes `is_used` in locked ones. -/
theorem Kept.of_locks (valid : Valid sha256 store) {table : LockedTable Uuid RefreshTokenRow}
    (sound : Sound RefreshTokenRow.id RefreshTokenRow.markUsed table)
    (rows : table.rows = store.refreshTokens.rows)
    (inserted : table.inserted = store.refreshTokens.inserted)
    (others
      : ∀ other,
          other ≠ owner →
            Undisturbed RefreshTokenRow.id RefreshTokenRow.markUsed other
              store.refreshTokens table)
    {own : Prop} (holds : own)
    : Kept sha256 owner input request store { store with refreshTokens := table } own := by
  have same : table.all = store.refreshTokens.all := by
    rw [LockedTable.all, LockedTable.all, rows, inserted]
  refine ⟨?_, holds, ?_, .of_rows_eq rfl rfl rows⟩
  · exact valid.with_tokens store.rotations sound (.of_all_eq same) (rows ▸ valid.chained)
  · exact .with_tokens others (.of_all_eq same) rfl rfl rfl (.of_rows_eq rfl)

/-- A statement that locks session rows, writes `is_revoked` in locked ones, or commits
such rows by itself. -/
theorem Kept.of_sessions (valid : Valid sha256 store) {table : LockedTable Uuid SessionRow}
    (sound : Sound SessionRow.id SessionRow.revoke table)
    (known : ∀ row ∈ table.all, row.id ∈ store.uuids)
    (persist : SessionsPersist store { store with sessions := table }) {own : Prop}
    (holds : own)
    : Kept sha256 owner input request store { store with sessions := table } own :=
  ⟨valid.with_sessions sound known, holds,
    .of_tokens_eq rfl (List.Subset.refl _) (List.Subset.refl _) (Nat.le_refl _) persist,
    .of_rows_eq rfl rfl rfl⟩

section Stages

variable {rawToken : RawToken} {store' : Store} {stage' : RefreshStage}

/-- BEGIN reads the clock of the transaction. -/
theorem begin_kept (valid : Valid sha256 store) (clock : store.clock = input.now)
    (holds : RotateStage.begin.Holds sha256 store owner rawToken)
    (ran
      : RefreshTokenRepository.rotate sha256 owner input store rawToken .begin
        = some (store', stage'))
    : Kept sha256 owner input (.refresh rawToken (.rotating .begin)) store store'
        (stage'.Holds sha256 store' owner rawToken) := by
  simp only [RefreshTokenRepository.rotate, Option.some.injEq, Prod.mk.injEq] at ran
  obtain ⟨rfl, rfl⟩ := ran
  refine .of_read valid ⟨holds, Nat.le_of_eq clock.symm, fun row member _ => ?_⟩
  exact clock ▸ (valid.knownTokens row member).2.2.2

/-- The SELECT finds a row with the hash of the token, or the rotation is rolled back. -/
theorem select_kept {startedAt : Time} (valid : Valid sha256 store)
    (holds : (RotateStage.select startedAt).Holds sha256 store owner rawToken)
    (ran
      : RefreshTokenRepository.rotate sha256 owner input store rawToken (.select startedAt)
        = some (store', stage'))
    : Kept sha256 owner input (.refresh rawToken (.rotating (.select startedAt))) store store'
        (stage'.Holds sha256 store' owner rawToken) := by
  cases found
    : store.refreshTokens.rows.find? (fun row => row.tokenHash = sha256 rawToken) with
  | none =>
      simp only [RefreshTokenRepository.rotate, found, Option.some.injEq,
        Prod.mk.injEq] at ran
      obtain ⟨rfl, rfl⟩ := ran
      exact valid.rollback owner
  | some row =>
      simp only [RefreshTokenRepository.rotate, found, Option.some.injEq,
        Prod.mk.injEq] at ran
      obtain ⟨rfl, rfl⟩ := ran
      have presented : row.tokenHash = sha256 rawToken := by
        simpa using List.find?_some found
      have member := List.mem_of_find?_eq_some found
      exact .of_read valid ⟨holds.1, holds.2, row, member, rfl, presented⟩

/-- FOR UPDATE waits until nobody else has locked the row, and reads it then. -/
theorem lockToken_kept {startedAt : Time} {id : Uuid} (valid : Valid sha256 store)
    (holds : (RotateStage.lockToken startedAt id).Holds sha256 store owner rawToken)
    (ran
      : RefreshTokenRepository.rotate sha256 owner input store rawToken (.lockToken startedAt id)
        = some (store', stage'))
    : Kept sha256 owner input
        (.refresh rawToken (.rotating (.lockToken startedAt id))) store store'
        (stage'.Holds sha256 store' owner rawToken) := by
  obtain ⟨idle, dated, row, member, rfl, presented⟩ := holds
  by_cases free : store.refreshTokens.available owner row.id = true
  · have unlocked : store.refreshTokens.holder row.id = none :=
      (available_iff.mp free).resolve_right (idle.holder row.id)
    have clean := valid.tokens.locked unlocked
    have read := valid.tokens.current_eq member clean
    simp only [RefreshTokenRepository.rotate, free, if_true, read, Option.some.injEq,
      Prod.mk.injEq] at ran
    obtain ⟨rfl, rfl⟩ := ran
    have created := dated.created row (List.mem_append_left _ member) presented
    refine .of_locks valid (valid.tokens.lock owner row.id) rfl rfl
      (fun other different => .lock different free)
      ⟨⟨?_, member, presented, created, dated.started⟩, clean, idle.inserted⟩
    intro k
    by_cases same : k = row.id
    · simp [same]
    · simp [same, idle.holder k]
  · simp [RefreshTokenRepository.rotate, free] at ran

/-- An unused token is marked; an expired one is refused before `is_used` is looked at, and a
used one condemns its family. -/
theorem check_kept {startedAt : Time} {token : RefreshTokenRow} (valid : Valid sha256 store)
    (holds : (RotateStage.check startedAt token).Holds sha256 store owner rawToken)
    (ran
      : RefreshTokenRepository.rotate sha256 owner input store rawToken (.check startedAt token)
        = some (store', stage'))
    : Kept sha256 owner input
        (.refresh rawToken (.rotating (.check startedAt token))) store store'
        (stage'.Holds sha256 store' owner rawToken) := by
  obtain ⟨reads, clean, inserted⟩ := holds
  have held := (reads.holder token.id).mpr rfl
  simp only [RefreshTokenRepository.rotate] at ran
  split at ran
  · -- an expired token is rolled back before is_used is looked at
    simp only [Option.some.injEq, Prod.mk.injEq] at ran
    obtain ⟨rfl, rfl⟩ := ran
    exact valid.rollback owner
  · split at ran
    · simp only [Option.some.injEq, Prod.mk.injEq] at ran
      obtain ⟨rfl, rfl⟩ := ran
      have family :=
        (valid.knownTokens token (List.mem_append_left _ reads.committed)).2.1
      exact .of_read valid ⟨inserted, family⟩
    · rename_i unused
      simp only [Option.some.injEq, Prod.mk.injEq] at ran
      obtain ⟨rfl, rfl⟩ := ran
      have sound := valid.tokens.write markUsed_markUsed (k := token.id) (by simp [held])
      refine .of_locks valid sound rfl rfl (fun other different => .write different held)
        ⟨⟨⟨reads.holder, reads.committed, reads.presented, reads.created, reads.started⟩,
          by simpa using unused, ?_⟩, inserted⟩
      simp [valid.tokens.current_eq reads.committed clean]

/-- The UPDATE of the family takes one row after another, and then revokes the session. -/
theorem updateFamily_kept {token : RefreshTokenRow} {todo : List Uuid}
    (valid : Valid sha256 store)
    (holds : (RotateStage.updateFamily token todo).Holds sha256 store owner rawToken)
    (ran
      : RefreshTokenRepository.rotate sha256 owner input store rawToken
          (.updateFamily token todo)
        = some (store', stage'))
    : Kept sha256 owner input
        (.refresh rawToken (.rotating (.updateFamily token todo))) store store'
        (stage'.Holds sha256 store' owner rawToken) := by
  obtain ⟨inserted, family⟩ := holds
  cases todo with
  | nil =>
      by_cases free : store.sessions.available owner token.sessionId = true
      · simp only [RefreshTokenRepository.rotate, free, if_true, Option.some.injEq,
          Prod.mk.injEq] at ran
        obtain ⟨rfl, rfl⟩ := ran
        have sound :=
          (valid.sessions.lock owner token.sessionId).write revoke_revoke
            (k := token.sessionId) (by simp)
        exact .of_sessions valid sound valid.knownSessions (.of_rows_eq rfl)
          ⟨inserted, family⟩
      · simp [RefreshTokenRepository.rotate, free] at ran
  | cons next later =>
      by_cases reached
        : input.row ∈ next :: later
          ∧ store.refreshTokens.available owner input.row = true
      · simp only [RefreshTokenRepository.rotate, reached, and_self, if_true,
          Option.some.injEq, Prod.mk.injEq] at ran
        obtain ⟨rfl, rfl⟩ := ran
        have sound :=
          (valid.tokens.lock owner input.row).write markUsed_markUsed
            (k := input.row) (by simp)
        exact .of_locks valid sound rfl rfl
          (fun other different => .lock_write different reached.2) ⟨inserted, family⟩
      · simp only [RefreshTokenRepository.rotate, reached, if_false, reduceCtorEq] at ran

/-- The COMMIT of a detected reuse publishes marks only. -/
theorem commitReuse_kept {token : RefreshTokenRow} (valid : Valid sha256 store)
    (holds : (RotateStage.commitReuse token).Holds sha256 store owner rawToken)
    (ran
      : RefreshTokenRepository.rotate sha256 owner input store rawToken (.commitReuse token)
        = some (store', stage'))
    : Kept sha256 owner input (.refresh rawToken (.rotating (.commitReuse token))) store store'
        (stage'.Holds sha256 store' owner rawToken) := by
  simp only [RefreshTokenRepository.rotate, Option.some.injEq, Prod.mk.injEq] at ran
  obtain ⟨rfl, rfl⟩ := ran
  have rows := valid.tokens.commit_rows owner
  rw [holds.1, List.append_nil] at rows
  refine valid.commit owner store.rotations (token.familyId :: store.reuseCommits) ?_
    (.reused rfl holds.2 rfl rfl rows)
  rw [rows]
  exact valid.chained.mark (published_marks _ _)

/-- The INSERT adds the successor, with an id and a hash that are new. -/
theorem insertSuccessor_kept {startedAt : Time} {token : RefreshTokenRow}
    (valid : Valid sha256 store)
    (holds : (RotateStage.insertSuccessor startedAt token).Holds sha256 store owner rawToken)
    (ran
      : RefreshTokenRepository.rotate sha256 owner input store rawToken
          (.insertSuccessor startedAt token)
        = some (store', stage'))
    : Kept sha256 owner input
        (.refresh rawToken (.rotating (.insertSuccessor startedAt token))) store store'
        (stage'.Holds sha256 store' owner rawToken) := by
  obtain ⟨marked, inserted⟩ := holds
  by_cases fresh : store.fresh sha256 input = true
  · simp only [RefreshTokenRepository.rotate, fresh, if_true, Option.some.injEq,
      Prod.mk.injEq] at ran
    obtain ⟨rfl, rfl⟩ := ran
    obtain ⟨newId, newHash⟩ := fresh_iff.mp fresh
    have uuids : store.uuids ⊆ [input.uuid] ++ store.uuids := List.subset_append_right _ _
    have digests : store.digests ⊆ sha256 input.rawToken :: store.digests :=
      List.subset_cons_self _ _
    have family :=
      (valid.knownTokens token (List.mem_append_left _ marked.reads.committed)).2.1
    refine ⟨?_, ⟨⟨⟨marked.reads.holder, marked.reads.committed, marked.reads.presented,
      marked.reads.created, marked.reads.started⟩, marked.unused, marked.marked⟩, ?_,
      rfl, rfl⟩, ?_, .of_rows_eq rfl rfl rfl⟩
    · exact valid.with_new_token (valid.tokens.insert (valid.newId newId))
        (.of_eq (insert_all _ _ _)) newHash
        ⟨List.mem_cons_self, uuids family, List.mem_cons_self, marked.reads.started⟩
        rfl uuids digests (Nat.le_refl _) valid.chained
    · rw [insert_insertedBy, inserted]
      simp
    · exact .with_new_token (fun other different => .insert different _ _)
        (.of_eq (insert_all _ _ _)) newHash uuids digests (Nat.le_refl _)
        (.of_rows_eq rfl)
  · simp [RefreshTokenRepository.rotate, fresh] at ran

/-- The COMMIT of a rotation publishes the mark together with the successor, which continues
the chain of its family. -/
theorem commitRotation_kept {token successor : RefreshTokenRow} {newRawToken : RawToken}
    (valid : Valid sha256 store) (succeeds : input.fails = false)
    (holds
      : (RotateStage.commitRotation token newRawToken successor).Holds sha256 store owner
          rawToken)
    (ran
      : RefreshTokenRepository.rotate sha256 owner input store rawToken
          (.commitRotation token newRawToken successor)
        = some (store', stage'))
    : Kept sha256 owner input
        (.refresh rawToken (.rotating (.commitRotation token newRawToken successor))) store store'
        (stage'.Holds sha256 store' owner rawToken) := by
  obtain ⟨marked, inserted, family, session⟩ := holds
  simp only [RefreshTokenRepository.rotate, Option.some.injEq, Prod.mk.injEq] at ran
  obtain ⟨rfl, rfl⟩ := ran
  obtain ⟨rows, published⟩ := marked.commit_rows inserted valid
  have hashes : (store.refreshTokens.rows.map RefreshTokenRow.tokenHash).Nodup := by
    have all := valid.hashes
    rw [LockedTable.all, List.map_append] at all
    exact (List.nodup_append.mp all).1
  have rotated
      : Chained sha256 (store.refreshTokens.commit RefreshTokenRow.id owner).rows
          (store.rotations ++ [⟨rawToken, token, newRawToken, successor⟩]) := by
    rw [rows]
    exact valid.chained.rotate ⟨rawToken, token, newRawToken, successor⟩
      (published_marks _ _) hashes valid.tokens.rows_nodup
      marked.reads.committed marked.unused published marked.reads.presented family
      session marked.reads.created
  have onlySuccessor (row : RefreshTokenRow)
      (member : row ∈ (store.refreshTokens.commit RefreshTokenRow.id owner).rows)
      (unused : row.isUsed = false)
      : row ∈ store.refreshTokens.rows ∨ row.familyId = token.familyId := by
    rw [rows] at member
    rcases List.mem_append.mp member with old | new
    · exact Or.inl (unused_of_published old unused)
    · exact Or.inr (List.mem_singleton.mp new ▸ family)
  have held := (marked.reads.holder token.id).mpr rfl
  obtain ⟨after, idle, moved, effect⟩ :=
    valid.commit owner _ store.reuseCommits rotated
      (.rotated rfl succeeds held marked.reads.committed marked.unused rfl rfl
        onlySuccessor)
  refine ⟨after, ⟨idle, token.markUsed, ?_, marked.reads.presented, rfl⟩, moved, effect⟩
  show token.markUsed ∈ (store.refreshTokens.commit RefreshTokenRow.id owner).rows
  rw [rows]
  refine List.mem_append_left _ (List.mem_map.mpr ⟨token, ?_, published⟩)
  exact marked.reads.committed

/-- Every statement of `rotate` keeps the outline; the cases are its stages in the order of
the source. -/
theorem rotate_kept {stage : RotateStage} (valid : Valid sha256 store)
    (clock : store.clock = input.now) (succeeds : input.fails = false)
    (holds : stage.Holds sha256 store owner rawToken)
    (ran
      : RefreshTokenRepository.rotate sha256 owner input store rawToken stage
        = some (store', stage'))
    : Kept sha256 owner input (.refresh rawToken (.rotating stage)) store store'
        (stage'.Holds sha256 store' owner rawToken) := by
  cases stage with
  | begin => exact begin_kept valid clock holds ran
  | select startedAt => exact select_kept valid holds ran
  | lockToken startedAt id => exact lockToken_kept valid holds ran
  | check startedAt token => exact check_kept valid holds ran
  | updateFamily token todo => exact updateFamily_kept valid holds ran
  | commitReuse token => exact commitReuse_kept valid holds ran
  | insertSuccessor startedAt token => exact insertSuccessor_kept valid holds ran
  | commitRotation token newRawToken successor =>
      exact commitRotation_kept valid succeeds holds ran

end Stages

end

end NexusComms.Sessions
