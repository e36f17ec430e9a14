import NexusComms.Sessions.Scripts

/-! Every failure inside a refresh. The rotation is all or nothing; what comes after its COMMIT
is not part of it.
-/

namespace NexusComms.Sessions.Scripts

open Storage Concurrency PooledClient Script

namespace Tables

variable (sha256 : RawToken → Digest) (drawn : Drawn) (tables : Tables)

/-- What the happy path of `rotate` makes of the tables. -/
def rotated (token : RefreshTokenRow) : Tables :=
  (tables.markUsed (fun row => row.id = token.id)).insert (successor sha256 drawn token)

/-- What a detected reuse makes of the tables. -/
def reused (token : RefreshTokenRow) : Tables :=
  (tables.markUsed (fun row => row.familyId = token.familyId)).revoke token.sessionId

/-- What a rotation comes to without a failure: its result, and the tables it leaves. -/
def outcome (rawToken : RawToken) : Except RefreshError RotateRefreshTokenResult × Tables :=
  match (tables.withHash (sha256 rawToken)).head? with
  | none => (.error (.unauthorized .invalidRefreshToken), tables)
  | some token =>
      if token.expiresAt < drawn.appNow then
        (.error (.unauthorized .refreshTokenExpired), tables)
      else if token.isUsed then
        (.error (.unauthorized .invalidRefreshToken), tables.reused token)
      else
        (.ok ⟨drawn.newRaw, token.sessionId⟩, tables.rotated sha256 drawn token)

end Tables

/-- The client presents a token that has not been used and has not expired. -/
structure Usable (sha256 : RawToken → Digest) (drawn : Drawn) (tables : Tables)
    (rawToken : RawToken) (token : RefreshTokenRow)
    : Prop where
  found : (tables.withHash (sha256 rawToken)).head? = some token
  unused : token.isUsed = false
  unexpired : ¬ token.expiresAt < drawn.appNow

/-- How a rotation may settle: what it returns or throws, and the client it leaves. -/
inductive Settled (sha256 : RawToken → Digest) (drawn : Drawn) (tables : Tables)
    (rawToken : RawToken)
    : Except RefreshError RotateRefreshTokenResult → PooledClient Tables → Prop
  | unchanged (error : RefreshError)
    : Settled sha256 drawn tables rawToken (.error error) ⟨tables, none, 1⟩
  | rotated (token : RefreshTokenRow) (usable : Usable sha256 drawn tables rawToken token)
    : Settled sha256 drawn tables rawToken (.ok ⟨drawn.newRaw, token.sessionId⟩)
        ⟨tables.rotated sha256 drawn token, none, 1⟩
  | reused (token : RefreshTokenRow)
    (found : (tables.withHash (sha256 rawToken)).head? = some token)
    (used : token.isUsed = true)
    : Settled sha256 drawn tables rawToken
        (.error (.unauthorized .invalidRefreshToken)) ⟨tables.reused token, none, 1⟩

section

variable {sha256 : RawToken → Digest} {drawn : Drawn} {rawToken : RawToken} {tables : Tables}
  {fails : Statement × Moment → Bool}

/-- Without a client there is nothing to give back. -/
theorem rotate_unconnected (refused : breaks fails .connect = true)
    : (RefreshTokenRepository.rotate sha256 drawn rawToken).Settles fails (idle tables)
        (fun result client => result = .error .database ∧ client = idle tables) := by
  simp only [RefreshTokenRepository.rotate, settles_bind, settles_connect, refused]
  simp

/-- Each way through a rotation, for every statement that may fail on it. -/
theorem rotate_settles (connected : breaks fails .connect = false)
    (compensated : fails (.compensate, .before) = false)
    (rotationAnswered : fails (.commit, .after) = false)
    (reuseAnswered : fails (.commitReuse, .after) = false)
    : (RefreshTokenRepository.rotate sha256 drawn rawToken).Settles fails (idle tables)
        (Settled sha256 drawn tables rawToken) := by
  simp only [RefreshTokenRepository.rotate, settles_bind, settles_connect, connected,
    settles_compensated, idle]
  refine ⟨Bool.noConfusion, fun _ => ?_⟩
  simp only [settles_begin, settles_query, PooledClient.compensated, compensated]
  refine ⟨fun _ => .unchanged .database, fun _ => ⟨fun _ => .unchanged .database, fun _ =>
    ⟨fun _ => .unchanged .database, fun _ => ?_⟩⟩⟩
  cases rows : tables.withHash (sha256 rawToken) with
  | nil =>
      simp only [settles_bind, settles_rollback, settles_throw]
      exact ⟨fun _ => .unchanged .database,
        fun _ => ⟨fun _ => .unchanged .database, fun _ => .unchanged _⟩⟩
  | cons token rest =>
      have found : (tables.withHash (sha256 rawToken)).head? = some token := by
        rw [rows, List.head?_cons]
      by_cases expired : token.expiresAt < drawn.appNow
      · simp only [if_pos expired, settles_bind, settles_rollback, settles_throw]
        exact ⟨fun _ => .unchanged .database,
          fun _ => ⟨fun _ => .unchanged .database, fun _ => .unchanged _⟩⟩
      · simp only [if_neg expired]
        cases used : token.isUsed with
        | true =>
            simp only [if_true, settles_bind, settles_query, settles_commit, settles_throw,
              reuseAnswered]
            refine ⟨fun _ => .unchanged .database, fun _ => ⟨fun _ => .unchanged .database,
              fun _ => ⟨fun _ => .unchanged .database,
                fun _ => ⟨Bool.noConfusion, fun _ => ?_⟩⟩⟩⟩
            -- what has been committed stays, whatever the handler does
            exact .reused token found used
        | false =>
            simp only [Bool.false_eq_true, if_false, settles_bind, settles_query,
              settles_commit, settles_pure, rotationAnswered]
            refine ⟨fun _ => .unchanged .database, fun _ => ⟨fun _ => .unchanged .database,
              fun _ => ⟨fun _ => .unchanged .database, fun _ => ⟨False.elim, fun _ => ?_⟩⟩⟩⟩
            exact .rotated token ⟨found, used, expired⟩

/-- Without a failure a rotation decides by the token alone. -/
theorem rotate_unbroken (unbroken : ∀ command, fails command = false)
    : (RefreshTokenRepository.rotate sha256 drawn rawToken).Settles fails (idle tables)
        (fun result client =>
          (result, client.committed) = tables.outcome sha256 drawn rawToken) := by
  simp only [RefreshTokenRepository.rotate, settles_bind, settles_connect,
    settles_compensated, idle, breaks, unbroken, settles_begin, settles_query, Tables.outcome]
  refine ⟨Bool.noConfusion, fun _ => ⟨Bool.noConfusion,
    fun _ => ⟨Bool.noConfusion, fun _ => ⟨Bool.noConfusion, fun _ => ?_⟩⟩⟩⟩
  cases tables.withHash (sha256 rawToken) with
  | nil => simp [settles_bind, settles_rollback, settles_throw, unbroken]
  | cons token rest =>
      rw [List.head?_cons]
      by_cases expired : token.expiresAt < drawn.appNow
      · simp [expired, settles_bind, settles_rollback, settles_throw, unbroken]
      · cases used : token.isUsed with
        | true =>
            simp [expired, used, settles_bind, settles_query, settles_commit, settles_throw,
              breaks, unbroken, Tables.reused]
        | false =>
            simp [expired, used, settles_bind, settles_query, settles_commit, breaks, unbroken,
              Tables.rotated]

/-- A statement of a rotation with a usable token fails, and the COMMIT has not taken effect. -/
def rolledBack (fails : Statement × Moment → Bool) : Bool :=
  [.connect, .begin, .select, .markUsed, .insert].any (breaks fails) || fails (.commit, .before)

/-- How a rotation with a usable token ends. It is rolled back exactly if one of its statements
fails before the COMMIT has taken effect. If the answer of the COMMIT is lost, it throws too.
-/
structure Ended (sha256 : RawToken → Digest) (drawn : Drawn) (tables : Tables)
    (fails : Statement × Moment → Bool) (token : RefreshTokenRow)
    (result : Except RefreshError RotateRefreshTokenResult) (committed : Tables)
    : Prop where
  undone : rolledBack fails = true → result = .error .database ∧ committed = tables
  done
    : rolledBack fails = false →
        committed = tables.rotated sha256 drawn token
        ∧ result
          = if fails (.commit, .after) then
              .error .database
            else
              .ok ⟨drawn.newRaw, token.sessionId⟩

theorem rotate_usable {token : RefreshTokenRow}
    (usable : Usable sha256 drawn tables rawToken token)
    : (RefreshTokenRepository.rotate sha256 drawn rawToken).Settles fails (idle tables)
        (fun result client => Ended sha256 drawn tables fails token result client.committed) := by
  obtain ⟨rest, rows⟩ : ∃ rest, tables.withHash (sha256 rawToken) = token :: rest := by
    cases rows : tables.withHash (sha256 rawToken) with
    | nil => exact absurd (rows ▸ usable.found) (by simp)
    | cons first rest =>
        cases Option.some.inj ((congrArg List.head? rows).symm.trans usable.found)
        exact ⟨rest, rfl⟩
  have undone (broken : rolledBack fails = true)
      : Ended sha256 drawn tables fails token (.error .database) tables :=
    ⟨fun _ => ⟨rfl, rfl⟩, fun intact => absurd (broken.symm.trans intact) (by decide)⟩
  simp only [RefreshTokenRepository.rotate, settles_bind, settles_connect, settles_compensated,
    idle, settles_begin, settles_query, rows, if_neg usable.unexpired, usable.unused,
    Bool.false_eq_true, if_false, settles_commit, settles_pure, compensated_committed]
  refine ⟨fun failed => undone (by simp [rolledBack, failed]), fun connected => ?_⟩
  refine ⟨fun failed => undone (by simp [rolledBack, breaks, failed]), fun begun =>
    ⟨fun failed => undone (by simp [rolledBack, breaks, failed]), fun begun' => ?_⟩⟩
  refine ⟨fun failed => undone (by simp [rolledBack, failed]), fun selected => ?_⟩
  refine ⟨fun failed => undone (by simp [rolledBack, failed]), fun marked => ?_⟩
  refine ⟨fun failed => undone (by simp [rolledBack, failed]), fun inserted => ?_⟩
  refine ⟨fun failed => undone (by simp [rolledBack, failed]), fun committed => ?_⟩
  -- the COMMIT has taken effect
  have intact : rolledBack fails = false := by
    have begins : breaks fails .begin = false := by simp [breaks, begun, begun']
    simp [rolledBack, connected, begins, selected, marked, inserted, committed]
  exact ⟨
    fun lost => ⟨fun broken => absurd (broken.symm.trans intact) (by decide),
      fun _ => ⟨rfl, (if_pos lost).symm⟩⟩,
    fun answered => ⟨fun broken => absurd (broken.symm.trans intact) (by decide),
      fun _ => ⟨rfl, by simp [answered]⟩⟩
  ⟩

/-- A rotation is all or nothing. Whichever of its statements fail, as long as the ROLLBACK of
its handler does not and no COMMIT loses its answer: it gives the client that it has taken back
once, without a transaction, and leaves the tables unchanged and throws, or it makes of them
what the happy path does and returns the new token, or it revokes the family and the session
and throws. If nothing fails, an unused token is rotated and a used one revokes.
-/
theorem rotate_all_or_nothing (compensated : fails (.compensate, .before) = false)
    (rotationAnswered : fails (.commit, .after) = false)
    (reuseAnswered : fails (.commitReuse, .after) = false)
    : (RefreshTokenRepository.rotate sha256 drawn rawToken).Settles fails (idle tables)
        (fun result client =>
          client.released = (if breaks fails .connect then 0 else 1)
          ∧ client.transaction = none
          ∧ ((client.committed = tables ∧ ∃ error, result = .error error)
            ∨ (∃ token,
              Usable sha256 drawn tables rawToken token
              ∧ client.committed = tables.rotated sha256 drawn token
              ∧ result = .ok ⟨drawn.newRaw, token.sessionId⟩)
            ∨ ∃ token,
              (tables.withHash (sha256 rawToken)).head? = some token
              ∧ token.isUsed = true
              ∧ client.committed = tables.reused token
              ∧ result = .error (.unauthorized .invalidRefreshToken))
          ∧ ((∀ command, fails command = false) →
            (result, client.committed) = tables.outcome sha256 drawn rawToken)) := by
  cases connected : breaks fails .connect with
  | true =>
      refine (rotate_unconnected connected).mono (fun result client => ?_)
      rintro ⟨rfl, rfl⟩
      refine ⟨rfl, rfl, Or.inl ⟨rfl, .database, rfl⟩, fun unbroken => ?_⟩
      simp [breaks, unbroken] at connected
  | false =>
      have settled
          : (RefreshTokenRepository.rotate sha256 drawn rawToken).Settles fails (idle tables)
              (fun result client =>
                Settled sha256 drawn tables rawToken result client
                ∧ ((∀ command, fails command = false) →
                  (result, client.committed) = tables.outcome sha256 drawn rawToken)) :=
        ⟨rotate_settles connected compensated rotationAnswered reuseAnswered, rotate_unbroken⟩
      refine settled.mono (fun result client ⟨settled, unbroken⟩ => ?_)
      cases settled with
      | unchanged error => exact ⟨rfl, rfl, Or.inl ⟨rfl, error, rfl⟩, unbroken⟩
      | rotated token usable =>
          exact ⟨rfl, rfl, Or.inr (Or.inl ⟨token, usable, rfl, rfl⟩), unbroken⟩
      | reused token found used =>
          exact ⟨rfl, rfl, Or.inr (Or.inr ⟨token, found, used, rfl, rfl⟩), unbroken⟩

end

/-- A refresh that throws has left `refresh_tokens` and `csrf_tokens` as they were. -/
def Retriable (tables : Tables) (result : Except RefreshError AuthTokens)
    (client : PooledClient Tables)
    : Prop :=
  ∀ error,
    result = .error error →
      client.committed.refreshTokens = tables.refreshTokens
      ∧ client.committed.csrfTokens = tables.csrfTokens

section

variable {sha256 : RawToken → Digest} {drawn : Drawn} {rawToken : RawToken} {tables : Tables}
  {fails : Statement × Moment → Bool} {token : RefreshTokenRow}

/-- What has returned has not thrown. -/
theorem retriable_ok {tokens : AuthTokens} {client : PooledClient Tables}
    : Retriable tables (.ok tokens) client := by
  intro error thrown
  cases thrown

/-- Nothing is lost with tables that are unchanged. -/
theorem retriable_unchanged {error : RefreshError} {client : PooledClient Tables}
    (unchanged : client.committed = tables)
    : Retriable tables (.error error) client := by
  intro _ _
  exact ⟨by rw [unchanged], by rw [unchanged]⟩

/-- The rotation has inserted a row. -/
theorem rotated_refreshTokens
    : (tables.rotated sha256 drawn token).refreshTokens ≠ tables.refreshTokens := by
  intro same
  have longer := congrArg List.length same
  simp [Tables.rotated, Tables.insert, Tables.markUsed] at longer

/-- A refresh with a usable token can be retried after it has thrown exactly if the rotation is
rolled back, or nothing fails from its COMMIT on and the session is active.
-/
theorem refresh_retriable (usable : Usable sha256 drawn tables rawToken token)
    : (AuthService.refresh sha256 drawn rawToken).Settles fails (idle tables) (Retriable tables)
      ↔ rolledBack fails = true
        ∨ (fails (.commit, .after) = false
          ∧ breaks fails .upsertCsrf = false
          ∧ breaks fails .findActiveById = false
          ∧ (tables.findActiveById drawn.testedAt token.sessionId).isSome = true) := by
  simp only [AuthService.refresh, SessionsService.rotateRefreshToken, CsrfTokenRepository.upsert,
    settles_bind]
  refine (rotate_usable usable).iff_of (fun result client ended => ?_)
  -- once the rotation has committed, an exception comes too late
  have late (error : RefreshError) (after : PooledClient Tables)
      (rotated
        : after.committed.refreshTokens = (tables.rotated sha256 drawn token).refreshTokens)
      : ¬ Retriable tables (.error error) after :=
    fun retriable => rotated_refreshTokens (rotated.symm.trans (retriable error rfl).1)
  cases broken : rolledBack fails with
  | true =>
      obtain ⟨rfl, unchanged⟩ := ended.undone broken
      exact iff_of_true (retriable_unchanged unchanged) (Or.inl rfl)
  | false =>
      obtain ⟨rotated, rfl⟩ := ended.done broken
      cases fails (.commit, .after) with
      | true => simpa using late _ _ (by rw [rotated])
      | false =>
          simp only [Bool.false_eq_true, if_false, false_or, true_and, settles_poolQuery,
            settles_pure, rotated, breaks]
          cases fails (.upsertCsrf, .before) with
          | true => simpa using late _ _ (by rw [rotated])
          | false =>
              cases fails (.upsertCsrf, .after) with
              | true => simpa using late _ _ rfl
              | false =>
                  have same
                      : ((tables.rotated sha256 drawn token).upsertCsrf
                            ⟨token.sessionId, sha256 drawn.csrfToken,
                              drawn.upsertedAt + oneDay⟩).findActiveById
                          drawn.testedAt token.sessionId
                        = tables.findActiveById drawn.testedAt token.sessionId :=
                    rfl
                  simp only [same]
                  cases fails (.findActiveById, .before) with
                  | true => simpa using late _ _ rfl
                  | false =>
                      cases fails (.findActiveById, .after) with
                      | true => simpa using late _ _ rfl
                      | false =>
                          cases tables.findActiveById drawn.testedAt token.sessionId with
                          | none => simpa using late _ _ rfl
                          | some session => simpa using retriable_ok

end

/-- A hash that keeps tokens apart. -/
def digestOf (rawToken : RawToken) : Digest := rawToken + 100

/-- A session, its refresh token 42 and its CSRF token. -/
def someTables : Tables where
  sessions := [⟨1, 7, false, 0, sevenDays⟩]
  refreshTokens := [⟨2, 1, digestOf 42, 3, false, 0, sevenDays⟩]
  csrfTokens := [⟨1, digestOf 50, oneDay⟩]

/-- What a refresh of that session draws. -/
def someDrawn : Drawn where
  appNow := 10
  begunAt := 10
  upsertedAt := 11
  testedAt := 12
  id := 4
  newRaw := 43
  csrfToken := 51

theorem someTables_usable
    : Usable digestOf someDrawn someTables 42 ⟨2, 1, digestOf 42, 3, false, 0, sevenDays⟩ :=
  ⟨rfl, rfl, by decide⟩

/-- A COMMIT that fails without taking effect rolls the rotation back. -/
theorem rotate_commit_fails
    : ((RefreshTokenRepository.rotate digestOf someDrawn 42).run (· = (.commit, .before))
          (idle someTables)).2
        = ⟨someTables, none, 1⟩
      ∧ ((RefreshTokenRepository.rotate digestOf someDrawn 42).run (· = (.commit, .before))
          (idle someTables)).2.released
        = 1 := by
  have settles
      : (RefreshTokenRepository.rotate digestOf someDrawn 42).Settles (· = (.commit, .before))
          (idle someTables) _ :=
    rotate_all_or_nothing (by decide) (by decide) (by decide)
  exact ⟨by decide, settles.1.trans (by decide)⟩

/-- Then the client can retry. -/
theorem refresh_retriable_commit_fails
    : (AuthService.refresh digestOf someDrawn 42).Settles (· = (.commit, .before))
        (idle someTables) (Retriable someTables) :=
  (refresh_retriable someTables_usable).mpr (Or.inl (by decide))

/-- A CSRF upsert that fails does not, and the retry revokes the session. -/
theorem retry_taken_as_reuse
    : ((AuthService.refresh digestOf someDrawn 42).run (· = (.upsertCsrf, .before))
          (idle someTables)).1
        = .error .database
      ∧ ¬ (AuthService.refresh digestOf someDrawn 42).Settles (· = (.upsertCsrf, .before))
          (idle someTables) (Retriable someTables)
      ∧ ((AuthService.refresh digestOf someDrawn 42).run (fun _ => false)
          (idle
            ((AuthService.refresh digestOf someDrawn 42).run (· = (.upsertCsrf, .before))
              (idle someTables)).2.committed)).1
        = .error (.unauthorized .invalidRefreshToken)
      ∧ ((AuthService.refresh digestOf someDrawn 42).run (fun _ => false)
          (idle
            ((AuthService.refresh digestOf someDrawn 42).run (· = (.upsertCsrf, .before))
              (idle someTables)).2.committed)).2.committed.sessions.map SessionRow.isRevoked
        = [true] := by
  refine ⟨by decide, fun retriable => ?_, by decide, by decide⟩
  exact absurd (retriable .database (by decide)).1 (by decide)

end NexusComms.Sessions.Scripts
