import NexusComms.Sessions.Steps

/-! Requests that run by themselves. A login leaves its refresh token as the only unused one
of a family. A refresh with such a token succeeds: nothing but an expired token, a used one
or an ended session keeps the server from answering it with new tokens.
-/

namespace NexusComms.Sessions

open Storage Concurrency LockedTable

/-- What the environment supplies to a refresh none of whose statements fails: one time on
each clock, the id of the successor, and the two tokens drawn. -/
structure Attempt where
  now : Time
  appNow : Time
  uuid : Uuid
  rawToken : RawToken
  csrfToken : RawToken
deriving DecidableEq, Repr

/-- The statements of a refresh on the happy path, BEGIN first. -/
def Attempt.inputs (attempt : Attempt) : List Input := [
  { now := attempt.now },
  { now := attempt.now },
  { now := attempt.now },
  { now := attempt.now, appNow := attempt.appNow },
  { now := attempt.now, uuid := attempt.uuid, rawToken := attempt.rawToken },
  { now := attempt.now },
  { now := attempt.now, rawToken := attempt.csrfToken },
  { now := attempt.now, appNow := attempt.appNow }
]

/-- Neither the token nor its session has expired, and what is drawn is new. -/
structure Attempt.InTime (sha256 : RawToken → Digest) (attempt : Attempt) (store : Store)
    (token : RefreshTokenRow) (session : SessionRow)
    : Prop where
  clock : store.clock ≤ attempt.now
  token : attempt.appNow ≤ token.expiresAt
  session : attempt.now < session.expiresAt
  uuid : attempt.uuid ∉ store.uuids
  rawToken : sha256 attempt.rawToken ∉ store.digests
  csrfToken : sha256 attempt.csrfToken ∉ sha256 attempt.rawToken :: store.digests

/-- An unused token of a session that has not been revoked. -/
structure Usable (sha256 : RawToken → Digest) (store : Store) (rawToken : RawToken)
    (token : RefreshTokenRow) (session : SessionRow)
    : Prop where
  member : token ∈ store.refreshTokens.rows
  presented : token.tokenHash = sha256 rawToken
  unused : token.isUsed = false
  active : session ∈ store.sessions.rows
  named : session.id = token.sessionId
  unrevoked : session.isRevoked = false

/-- The token is usable, and no other token of its family is unused. -/
structure Current (sha256 : RawToken → Digest) (store : Store) (rawToken : RawToken)
    (token : RefreshTokenRow) (session : SessionRow)
    : Prop where
  usable : Usable sha256 store rawToken token session
  only : (store.family token.familyId).filter (fun row => !row.isUsed) = [token]

/-- What a login has established by itself when it is suspended: first its session, then the
current token of that session. -/
def LoginStage.Reached (sha256 : RawToken → Digest) (store : Store) : LoginStage → Prop
  | .issueTokenSet sessionId =>
      ∃ session ∈ store.sessions.rows, session.id = sessionId ∧ session.isRevoked = false
  | .upsertCsrf sessionId rawRefreshToken =>
      ∃ token session,
        Current sha256 store rawRefreshToken token session ∧ token.sessionId = sessionId
  | .returned tokens =>
      ∃ token session,
        Current sha256 store tokens.refreshToken token session
        ∧ token.sessionId = tokens.accessToken.sid
  | _ => True

/-- The one transaction under way has locked the row of a token. -/
def Store.reading (store : Store) (owner : Nat) (now : Time) (id : Uuid) : Store :=
  { store with clock := now, refreshTokens := store.refreshTokens.lock owner id }

/-- No transaction is under way. -/
structure Free (store : Store) : Prop where
  tokens : ∀ k, store.refreshTokens.holder k = none
  sessions : ∀ k, store.sessions.holder k = none
  inserted : store.sessions.inserted = []

section

variable {sha256 : RawToken → Digest} {store : Store} {owner : Nat} {rawToken : RawToken}
  {token : RefreshTokenRow} {session : SessionRow} {attempt : Attempt}

/-- Statements that leave the rows alone leave a current token current. -/
theorem Current.of_rows {after : Store}
    (current : Current sha256 store rawToken token session)
    (rows : after.refreshTokens.rows = store.refreshTokens.rows)
    (sessions : after.sessions.rows = store.sessions.rows)
    : Current sha256 after rawToken token session where
  usable := {
    member := rows ▸ current.usable.member
    presented := current.usable.presented
    unused := current.usable.unused
    active := sessions ▸ current.usable.active
    named := current.usable.named
    unrevoked := current.usable.unrevoked
  }
  only := by
    rw [Store.family, rows]
    exact current.only

/-- The first token of a new family is its only one. -/
theorem Current.of_append {after : Store} (valid : Valid sha256 store)
    (rows : after.refreshTokens.rows = store.refreshTokens.rows ++ [token])
    (family : token.familyId ∉ store.uuids) (presented : token.tokenHash = sha256 rawToken)
    (unused : token.isUsed = false) (active : session ∈ after.sessions.rows)
    (named : session.id = token.sessionId) (unrevoked : session.isRevoked = false)
    : Current sha256 after rawToken token session where
  usable := {
    member := rows ▸ List.mem_append_right _ (List.mem_singleton_self token)
    presented := presented
    unused := unused
    active := active
    named := named
    unrevoked := unrevoked
  }
  only := by
    have others
        : store.refreshTokens.rows.filter (fun row => row.familyId = token.familyId) = [] := by
      refine List.filter_eq_nil_iff.mpr (fun row member same => family ?_)
      have known := (valid.knownTokens row (List.mem_append_left _ member)).2.1
      exact of_decide_eq_true same ▸ known
    rw [Store.family, rows, List.filter_append, others]
    simp [unused]

theorem LoginStage.Reached.of_rows {after : Store} {stage : LoginStage}
    (reached : stage.Reached sha256 store)
    (rows : after.refreshTokens.rows = store.refreshTokens.rows)
    (sessions : after.sessions.rows = store.sessions.rows)
    : stage.Reached sha256 after := by
  cases stage with
  | createSession => trivial
  | issueTokenSet sessionId =>
      obtain ⟨session, active, named, unrevoked⟩ := reached
      exact ⟨session, sessions ▸ active, named, unrevoked⟩
  | upsertCsrf sessionId rawRefreshToken =>
      obtain ⟨token, session, current, same⟩ := reached
      exact ⟨token, session, current.of_rows rows sessions, same⟩
  | returned tokens =>
      obtain ⟨token, session, current, same⟩ := reached
      exact ⟨token, session, current.of_rows rows sessions, same⟩
  | threw => trivial

/-- Each statement of a login that runs by itself establishes what the next one relies on. -/
theorem issueTokens_reached {after : Store} {input : Input} {userId : Uuid}
    {stage stage' : LoginStage} (valid : Valid sha256 store)
    (reached : stage.Reached sha256 store)
    (ran : AuthService.issueTokens sha256 input store userId stage = some (after, stage'))
    : stage'.Reached sha256 after := by
  cases stage with
  | createSession =>
      simp only [AuthService.issueTokens] at ran
      split at ran
      · cases ran
        trivial
      · split at ran
        · cases ran
          exact ⟨_, List.mem_append_right _ (List.mem_singleton_self _), rfl, rfl⟩
        · cases ran
  | issueTokenSet sessionId =>
      obtain ⟨session, active, named, unrevoked⟩ := reached
      simp only [AuthService.issueTokens] at ran
      split at ran
      · cases ran
        trivial
      · split at ran
        · rename_i fresh
          cases ran
          exact ⟨_, session,
            .of_append valid rfl fresh.2 rfl rfl active named unrevoked, rfl⟩
        · cases ran
  | upsertCsrf sessionId rawRefreshToken =>
      simp only [AuthService.issueTokens] at ran
      split at ran
      · cases ran
        trivial
      · split at ran
        · cases ran
          exact LoginStage.Reached.of_rows reached rfl rfl
        · cases ran
  | returned tokens => cases ran
  | threw => cases ran

/-- The row of a committed token is found by its hash. -/
theorem Valid.find_token (valid : Valid sha256 store)
    (member : token ∈ store.refreshTokens.rows) (presented : token.tokenHash = sha256 rawToken)
    : store.refreshTokens.rows.find? (fun row => row.tokenHash = sha256 rawToken)
      = some token := by
  have hashes : (store.refreshTokens.rows.map RefreshTokenRow.tokenHash).Nodup := by
    have all := valid.hashes
    rw [LockedTable.all, List.map_append] at all
    exact (List.nodup_append.mp all).1
  cases found
    : store.refreshTokens.rows.find? (fun row => row.tokenHash = sha256 rawToken) with
  | none =>
      have absent := List.find?_eq_none.mp found token member
      simp [presented] at absent
  | some other =>
      have same : other.tokenHash = sha256 rawToken := by simpa using List.find?_some found
      have itself : other = token :=
        List.inj_on_of_nodup_map hashes (List.mem_of_find?_eq_some found) member
          (same.trans presented.symm)
      rw [itself]

/-- A token that the server knows already may be presented. -/
theorem Attempt.InTime.present (inTime : attempt.InTime sha256 store token session)
    (seen : sha256 rawToken ∈ store.digests)
    : attempt.InTime sha256 { store with digests := sha256 rawToken :: store.digests } token
        session where
  clock := inTime.clock
  token := inTime.token
  session := inTime.session
  uuid := inTime.uuid
  rawToken := by
    intro known
    rcases List.mem_cons.mp known with same | known
    · exact inTime.rawToken (same ▸ seen)
    · exact inTime.rawToken known
  csrfToken := by
    intro known
    refine inTime.csrfToken ?_
    rcases List.mem_cons.mp known with same | known
    · exact List.mem_cons.mpr (Or.inl same)
    · rcases List.mem_cons.mp known with same | known
      · exact List.mem_cons_of_mem _ (same ▸ seen)
      · exact List.mem_cons_of_mem _ known

/-- Who holds no lock commits no session row. -/
theorem commit_free {table : LockedTable Uuid SessionRow} (free : ∀ k, table.holder k = none)
    (inserted : table.inserted = [])
    : (table.commit SessionRow.id owner).rows = table.rows := by
  simp [LockedTable.commit, free, insertedBy, inserted]

/-- A statement at the store's own time. -/
theorem step_now {request : Request} {input : Input} (now : input.now = store.clock)
    : (program sha256).step owner input store request
      = request.step sha256 owner input store := by
  simp only [program, now, Nat.le_refl, if_true]

/-- The first three statements lock the row of the token and read it. -/
theorem reads_alone (owner : Nat) (valid : Valid sha256 store) (free : Free store)
    (member : token ∈ store.refreshTokens.rows) (presented : token.tokenHash = sha256 rawToken)
    {now : Time} (later : store.clock ≤ now)
    : (program sha256).alone owner store (.refresh rawToken (.rotating .begin))
          [{ now := now }, { now := now }, { now := now }]
        = some (store.reading owner now token.id,
            .refresh rawToken (.rotating (.check now token))) := by
  have clean : store.refreshTokens.dirty token.id = none :=
    valid.tokens.locked (free.tokens token.id)
  have current := valid.tokens.current_eq member clean
  have found := valid.find_token member presented
  have available : store.refreshTokens.available owner token.id = true := by
    simp [LockedTable.available, free.tokens]
  let ticked : Store := { store with clock := now }
  have begin_
      : (program sha256).step owner { now := now } store (.refresh rawToken (.rotating .begin))
        = some (ticked, .refresh rawToken (.rotating (.select now))) := by
    simp [program, later, Request.step, AuthService.refresh, RefreshTokenRepository.rotate,
      ticked]
  have select
      : (program sha256).step owner { now := now } ticked
          (.refresh rawToken (.rotating (.select now)))
        = some (ticked, .refresh rawToken (.rotating (.lockToken now token.id))) := by
    rw [step_now rfl]
    simp [Request.step, AuthService.refresh, RefreshTokenRepository.rotate, ticked, found]
  have lock
      : (program sha256).step owner { now := now } ticked
          (.refresh rawToken (.rotating (.lockToken now token.id)))
        = some (store.reading owner now token.id,
            .refresh rawToken (.rotating (.check now token))) := by
    rw [step_now rfl]
    simp [Request.step, AuthService.refresh, RefreshTokenRepository.rotate, ticked, available,
      current, Store.reading]
  rw [Program.alone_cons _ _ begin_, Program.alone_cons _ _ select, Program.alone_cons _ _ lock]
  rfl

/-- The next three rotate a token that has neither been used nor expired. -/
theorem rotates_alone (owner : Nat) (rawToken : RawToken) (now : Time)
    (valid : Valid sha256 store) (free : Free store)
    (member : token ∈ store.refreshTokens.rows) (unused : token.isUsed = false)
    {appNow : Time} {uuid : Uuid} {newRawToken : RawToken}
    (unexpired : ¬ token.expiresAt < appNow) (newId : uuid ∉ store.uuids)
    (newToken : sha256 newRawToken ∉ store.digests)
    : ∃ store',
        (program sha256).alone owner (store.reading owner now token.id)
            (.refresh rawToken (.rotating (.check now token)))
            [
              { now := now, appNow := appNow },
              { now := now, uuid := uuid, rawToken := newRawToken },
              { now := now }
            ]
          = some (store', .refresh rawToken (.upsertCsrf newRawToken token.sessionId))
        ∧ store'.clock = now
        ∧ store'.digests = sha256 newRawToken :: store.digests
        ∧ store'.csrfTokens = store.csrfTokens
        ∧ store'.sessions.rows = store.sessions.rows
        ∧ store'.refreshTokens.rows
          = store.refreshTokens.rows.map
              (fun row => if row.id = token.id then row.markUsed else row)
            ++ (store.refreshTokens.insertedBy owner
              ++ [⟨uuid, token.sessionId, sha256 newRawToken, token.familyId, false, now,
                  now + sevenDays⟩]) := by
  -- the store after each statement that writes
  let locked : Store := store.reading owner now token.id
  let marked : Store :=
    {
      locked with
      refreshTokens :=
        locked.refreshTokens.write RefreshTokenRow.id token.id RefreshTokenRow.markUsed
    }
  let successor : RefreshTokenRow :=
    ⟨uuid, token.sessionId, sha256 newRawToken, token.familyId, false, now, now + sevenDays⟩
  let inserted : Store :=
    {
      marked.draw sha256 [uuid] newRawToken with
      refreshTokens := marked.refreshTokens.insert owner successor
    }
  let rotated : Store :=
    {
      inserted.commit owner with
      rotations := inserted.rotations ++ [⟨rawToken, token, newRawToken, successor⟩]
    }
  have check
      : (program sha256).step owner { now := now, appNow := appNow } locked
          (.refresh rawToken (.rotating (.check now token)))
        = some (marked, .refresh rawToken (.rotating (.insertSuccessor now token))) := by
    rw [step_now rfl]
    simp [Request.step, AuthService.refresh, RefreshTokenRepository.rotate, marked, unexpired,
      unused]
  have insert
      : (program sha256).step owner { now := now, uuid := uuid, rawToken := newRawToken } marked
          (.refresh rawToken (.rotating (.insertSuccessor now token)))
        = some (inserted,
            .refresh rawToken (.rotating (.commitRotation token newRawToken successor))) := by
    have fresh
        : marked.fresh sha256 { now := now, uuid := uuid, rawToken := newRawToken } = true :=
      fresh_iff.mpr ⟨newId, newToken⟩
    rw [step_now rfl]
    simp [Request.step, AuthService.refresh, RefreshTokenRepository.rotate, inserted, successor,
      fresh]
  have commit
      : (program sha256).step owner { now := now } inserted
          (.refresh rawToken (.rotating (.commitRotation token newRawToken successor)))
        = some (rotated, .refresh rawToken (.upsertCsrf newRawToken token.sessionId)) := by
    rw [step_now rfl]
    simp [Request.step, AuthService.refresh, RefreshTokenRepository.rotate, rotated]
  refine ⟨rotated, ?_, rfl, rfl, rfl, commit_free free.sessions free.inserted, ?_⟩
  · rw [Program.alone_cons _ _ check, Program.alone_cons _ _ insert,
      Program.alone_cons _ _ commit]
    rfl
  · have clean : store.refreshTokens.dirty token.id = none :=
      valid.tokens.locked (free.tokens token.id)
    have current := valid.tokens.current_eq member clean
    show (marked.refreshTokens.insert owner successor |>.commit RefreshTokenRow.id owner).rows = _
    simp only [LockedTable.commit, insert_insertedBy, if_true]
    congr 1
    refine List.map_congr_left (fun row inRows => ?_)
    by_cases own : row.id = token.id
    · have itself := valid.tokens.row_unique inRows member own
      simp [marked, locked, Store.reading, itself, LockedTable.current, clean,
        valid.tokens.find_row member]
    · simp [marked, locked, Store.reading, own, free.tokens]

/-- A refresh with an unused token of an active session returns tokens when it runs by itself,
from BEGIN to the read of the session. -/
theorem refresh_alone (valid : Valid sha256 store) (free : Free store)
    (usable : Usable sha256 store rawToken token session)
    (inTime : attempt.InTime sha256 store token session)
    : ∃ store' tokens,
        (program sha256).alone owner store (.refresh rawToken (.rotating .begin))
            attempt.inputs
          = some (store', .refresh rawToken (.returned tokens)) := by
  obtain ⟨rotated, rotates, clock, digests, _, sessions, _⟩ :=
    rotates_alone owner rawToken attempt.now valid free usable.member usable.unused
      (Nat.not_lt.mpr inTime.token) inTime.uuid inTime.rawToken
  let guarded : Store :=
    (rotated.draw sha256 [] attempt.csrfToken).upsertCsrf token.sessionId
      (sha256 attempt.csrfToken)
  have upsert
      : (program sha256).step owner { now := attempt.now, rawToken := attempt.csrfToken } rotated
          (.refresh rawToken (.upsertCsrf attempt.rawToken token.sessionId))
        = some (guarded,
            .refresh rawToken
              (.findActiveSession attempt.rawToken token.sessionId attempt.csrfToken)) := by
    have fresh : sha256 attempt.csrfToken ∉ rotated.digests := digests ▸ inTime.csrfToken
    rw [step_now clock.symm]
    simp [Request.step, AuthService.refresh, fresh, guarded]
  obtain ⟨row, read⟩ : ∃ row, guarded.findActiveById token.sessionId = some row := by
    have rows : guarded.sessions.rows = store.sessions.rows := sessions
    refine Option.isSome_iff_exists.mp
      (List.find?_isSome.mpr ⟨session, rows ▸ usable.active, ?_⟩)
    have alive : guarded.clock < session.expiresAt := clock ▸ inTime.session
    simp [usable.named, usable.unrevoked, alive]
  have answer
      : (program sha256).step owner { now := attempt.now, appNow := attempt.appNow } guarded
          (.refresh rawToken
            (.findActiveSession attempt.rawToken token.sessionId attempt.csrfToken))
        = some (guarded,
            .refresh rawToken
              (.returned
                ⟨⟨row.userId, token.sessionId⟩, attempt.rawToken, attempt.csrfToken⟩)) := by
    rw [step_now clock.symm]
    simp [Request.step, AuthService.refresh, read]
  refine ⟨guarded, ⟨⟨row.userId, token.sessionId⟩, attempt.rawToken, attempt.csrfToken⟩, ?_⟩
  refine (Program.alone_append _ _
    (reads_alone owner valid free usable.member usable.presented inTime.clock)).trans ?_
  refine (Program.alone_append _ _ rotates).trans ?_
  rw [Program.alone_cons _ _ upsert, Program.alone_cons _ _ answer]
  rfl

end

end NexusComms.Sessions
