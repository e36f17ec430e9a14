import NexusComms.Sessions.Atomicity
import NexusComms.Sessions.Replay

/-! The rotation is modelled twice: as a script any of whose statements may fail, and as a
request whose statements others interleave with. Without a failure, and by itself, it comes to
the same.
-/

namespace NexusComms.Sessions

open Storage Concurrency LockedTable

section

variable {sha256 : RawToken → Digest} {base store : Store} {rawToken : RawToken}
  {token : RefreshTokenRow}

/-- An unknown token is refused at once. -/
theorem unknown_alone (owner : Nat) {now : Time} (later : store.clock ≤ now)
    (absent
      : store.refreshTokens.rows.find? (fun row => row.tokenHash = sha256 rawToken) = none)
    : (program sha256).alone owner store (.refresh rawToken (.rotating .begin))
          [{ now := now }, { now := now }]
        = some (Store.rollback { store with clock := now } owner,
            .refresh rawToken (.threw (some .invalidRefreshToken))) := by
  have begin_
      : (program sha256).step owner { now := now } store (.refresh rawToken (.rotating .begin))
        = some ({ store with clock := now }, .refresh rawToken (.rotating (.select now))) := by
    simp [program, later, Request.step, AuthService.refresh, RefreshTokenRepository.rotate]
  have select
      : (program sha256).step owner { now := now } { store with clock := now }
          (.refresh rawToken (.rotating (.select now)))
        = some (Store.rollback { store with clock := now } owner,
            .refresh rawToken (.threw (some .invalidRefreshToken))) := by
    rw [step_now rfl]
    simp [Request.step, AuthService.refresh, RefreshTokenRepository.rotate, absent]
  rw [Program.alone_cons _ _ begin_, Program.alone_cons _ _ select]
  rfl

/-- An expired token is refused when its row has been read. -/
theorem expires_alone (owner : Nat) (rawToken : RawToken) (now : Time) {appNow : Time}
    (expired : token.expiresAt < appNow)
    : (program sha256).alone owner (store.reading owner now token.id)
          (.refresh rawToken (.rotating (.check now token))) [{ now := now, appNow := appNow }]
        = some ((store.reading owner now token.id).rollback owner,
            .refresh rawToken (.threw (some .refreshTokenExpired))) := by
  have check
      : (program sha256).step owner { now := now, appNow := appNow }
          (store.reading owner now token.id) (.refresh rawToken (.rotating (.check now token)))
        = some ((store.reading owner now token.id).rollback owner,
            .refresh rawToken (.threw (some .refreshTokenExpired))) := by
    rw [step_now rfl]
    simp [Request.step, AuthService.refresh, RefreshTokenRepository.rotate, expired]
  rw [Program.alone_cons _ _ check]
  rfl

/-- The UPDATE of the family takes the rows in the order of its snapshot. -/
theorem sweep_alone (owner : Nat) (rawToken : RawToken) (valid : Valid sha256 base)
    {todo : List Uuid} (sweeping : Sweeping base owner token.familyId todo store.refreshTokens)
    : ∃ store',
        (program sha256).alone owner store
            (.refresh rawToken (.rotating (.updateFamily token todo)))
            (todo.map (fun k => { now := store.clock, row := k }))
          = some (store', .refresh rawToken (.rotating (.updateFamily token [])))
        ∧ Sweeping base owner token.familyId [] store'.refreshTokens
        ∧ store'.sessions = store.sessions
        ∧ store'.csrfTokens = store.csrfTokens := by
  induction todo generalizing store with
  | nil => exact ⟨store, rfl, sweeping, rfl, rfl⟩
  | cons k rest ih =>
      have available : store.refreshTokens.available owner k = true := by
        rcases sweeping.mine k with unheld | mine
        · simp [LockedTable.available, unheld]
        · simp [LockedTable.available, mine]
      let updated : Store :=
        {
          store with
          refreshTokens :=
            (store.refreshTokens.lock owner k).write RefreshTokenRow.id k
              RefreshTokenRow.markUsed
        }
      have update
          : (program sha256).step owner { now := store.clock, row := k } store
              (.refresh rawToken (.rotating (.updateFamily token (k :: rest))))
            = some (updated, .refresh rawToken (.rotating (.updateFamily token rest))) := by
        rw [step_now rfl]
        simp [Request.step, AuthService.refresh, RefreshTokenRepository.rotate, available,
          updated]
      have swept : Sweeping base owner token.familyId rest updated.refreshTokens := by
        simpa [updated] using sweeping.update valid (List.mem_cons_self : k ∈ k :: rest)
      obtain ⟨store', ran, done, sessions, csrfTokens⟩ := ih swept
      refine ⟨store', ?_, done, sessions, csrfTokens⟩
      rw [List.map_cons, Program.alone_cons _ _ update]
      exact ran

/-- A used token revokes its family and its session. -/
theorem reuses_alone (owner : Nat) (rawToken : RawToken) (now : Time)
    (valid : Valid sha256 store) (free : Free store)
    (inserted : store.refreshTokens.insertedBy owner = []) {appNow : Time}
    (used : token.isUsed = true) (unexpired : ¬ token.expiresAt < appNow)
    : ∃ inputs store',
        (program sha256).alone owner (store.reading owner now token.id)
            (.refresh rawToken (.rotating (.check now token))) inputs
          = some (store', .refresh rawToken (.threw (some .invalidRefreshToken)))
        ∧ store'.csrfTokens = store.csrfTokens
        ∧ store'.sessions.rows
          = store.sessions.rows.map
              (fun row => if row.id = token.sessionId then row.revoke else row)
        ∧ store'.refreshTokens.rows
          = store.refreshTokens.rows.map
              (fun row => if row.familyId = token.familyId then row.markUsed else row) := by
  let locked : Store := store.reading owner now token.id
  let family : List Uuid :=
    locked.refreshTokens.snapshot RefreshTokenRow.id (fun row => row.familyId = token.familyId)
  have check
      : (program sha256).step owner { now := now, appNow := appNow } locked
          (.refresh rawToken (.rotating (.check now token)))
        = some (locked, .refresh rawToken (.rotating (.updateFamily token family))) := by
    rw [step_now rfl]
    simp [Request.step, AuthService.refresh, RefreshTokenRepository.rotate, unexpired, used,
      family]
  have begun
      : Sweeping store owner token.familyId family locked.refreshTokens :=
    .begin valid free inserted token.id token.familyId
  obtain ⟨swept, sweeps, done, sessions, csrfTokens⟩ :=
    sweep_alone owner rawToken valid begun
  have available : store.sessions.available owner token.sessionId = true := by
    simp [LockedTable.available, free.sessions]
  let revoked : Store := { swept with sessions := store.revoking owner token.sessionId }
  have revoke
      : (program sha256).step owner { now := swept.clock } swept
          (.refresh rawToken (.rotating (.updateFamily token [])))
        = some (revoked, .refresh rawToken (.rotating (.commitReuse token))) := by
    rw [step_now rfl]
    simp [Request.step, AuthService.refresh, RefreshTokenRepository.rotate, available, revoked,
      Store.revoking, sessions, locked, Store.reading]
  let committed : Store :=
    {
      revoked.commit owner with
      reuseCommits := token.familyId :: revoked.reuseCommits
    }
  have commit
      : (program sha256).step owner { now := swept.clock } revoked
          (.refresh rawToken (.rotating (.commitReuse token)))
        = some (committed, .refresh rawToken (.threw (some .invalidRefreshToken))) := by
    rw [step_now rfl]
    rfl
  have ends
      : (program sha256).alone owner swept
            (.refresh rawToken (.rotating (.updateFamily token [])))
            [{ now := swept.clock }, { now := swept.clock }]
          = some (committed, .refresh rawToken (.threw (some .invalidRefreshToken))) := by
    rw [Program.alone_cons _ _ revoke, Program.alone_cons _ _ commit]
    rfl
  exact ⟨_, committed,
    (Program.alone_cons _ _ check).trans ((Program.alone_append _ _ sweeps).trans ends),
    csrfTokens, revoking_rows valid free token.sessionId, done.commit_rows⟩

end

end NexusComms.Sessions

namespace NexusComms.Sessions.Scripts

open Storage Concurrency LockedTable PooledClient

/-- The committed rows of a store. -/
def Tables.of (store : Store) : Tables :=
  ⟨store.sessions.rows, store.refreshTokens.rows, store.csrfTokens⟩

/-- Where a refresh goes on after its rotation. -/
def answered : Except RefreshError RotateRefreshTokenResult → RefreshStage
  | .ok result => .upsertCsrf result.newRawToken result.sessionId
  | .error .database => .threw none
  | .error (.unauthorized message) => .threw (some message)

/-- What is drawn is new, and the clock does not run backwards. -/
structure Drawn.New (sha256 : RawToken → Digest) (drawn : Drawn) (store : Store) : Prop where
  clock : store.clock ≤ drawn.begunAt
  id : drawn.id ∉ store.uuids
  newRaw : sha256 drawn.newRaw ∉ store.digests

section

variable {sha256 : RawToken → Digest} {store : Store} {drawn : Drawn} {rawToken : RawToken}

/-- Without a failure the statements of the script are those of the request that others run in
between. -/
theorem rotate_alone (owner : Nat) (valid : Valid sha256 store) (free : Free store)
    (inserted : store.refreshTokens.insertedBy owner = []) (new : drawn.New sha256 store)
    {result : Except RefreshError RotateRefreshTokenResult} {client : PooledClient Tables}
    (ended
      : (RefreshTokenRepository.rotate sha256 drawn rawToken).run (fun _ => false)
          (idle (Tables.of store))
        = (result, client))
    : ∃ inputs store',
        (program sha256).alone owner store (.refresh rawToken (.rotating .begin)) inputs
          = some (store', .refresh rawToken (answered result))
        ∧ Tables.of store' = client.committed := by
  have outcome : (result, client.committed) = (Tables.of store).outcome sha256 drawn rawToken := by
    have settles
        : (RefreshTokenRepository.rotate sha256 drawn rawToken).Settles (fun _ => false)
            (idle (Tables.of store)) _ :=
      rotate_unbroken (fun _ => rfl)
    unfold Script.Settles at settles
    rwa [ended] at settles
  rw [Tables.outcome, Tables.withHash, List.head?_filter] at outcome
  cases found
      : store.refreshTokens.rows.find? (fun row => row.tokenHash = sha256 rawToken) with
  | none =>
      simp only [Tables.of, found, Prod.mk.injEq] at outcome
      obtain ⟨rfl, committed⟩ := outcome
      exact ⟨_, _, unknown_alone owner new.clock found, committed.symm⟩
  | some token =>
      have member := List.mem_of_find?_eq_some found
      have presented : token.tokenHash = sha256 rawToken := by simpa using List.find?_some found
      have reads := reads_alone owner valid free member presented new.clock
      simp only [Tables.of, found] at outcome
      by_cases expired : token.expiresAt < drawn.appNow
      · simp only [if_pos expired, Prod.mk.injEq] at outcome
        obtain ⟨rfl, committed⟩ := outcome
        exact ⟨_, _,
          (Program.alone_append _ _ reads).trans
            (expires_alone owner rawToken drawn.begunAt expired),
          committed.symm⟩
      · simp only [if_neg expired] at outcome
        cases used : token.isUsed with
        | true =>
            simp only [used, if_true, Prod.mk.injEq] at outcome
            obtain ⟨rfl, committed⟩ := outcome
            obtain ⟨inputs, store', reuses, csrfTokens, sessions, refreshTokens⟩ :=
              reuses_alone owner rawToken drawn.begunAt valid free inserted used expired
            refine ⟨_, store', (Program.alone_append _ _ reads).trans reuses, ?_⟩
            rw [committed]
            simp [Tables.of, Tables.reused, Tables.markUsed, Tables.revoke, sessions,
              refreshTokens, csrfTokens]
        | false =>
            simp only [used, Bool.false_eq_true, if_false, Prod.mk.injEq] at outcome
            obtain ⟨rfl, committed⟩ := outcome
            obtain ⟨store', rotates, _, _, csrfTokens, sessions, refreshTokens⟩ :=
              rotates_alone owner rawToken drawn.begunAt valid free member used expired new.id
                new.newRaw
            refine ⟨_, store', (Program.alone_append _ _ reads).trans rotates, ?_⟩
            rw [committed]
            simp [Tables.of, Tables.rotated, Tables.markUsed, Tables.insert, successor,
              sessions, refreshTokens, csrfTokens, inserted]

end

end NexusComms.Sessions.Scripts
