import NexusComms.Sessions.Records
import NexusComms.Storage.PooledClient

/-! `AuthService.refresh` as one script, any of whose statements may fail, before it takes effect
or after: the rotation in a transaction on a client of its own, then the statements of the pool.
-/

namespace NexusComms.Sessions.Scripts

open Storage Concurrency PooledClient Script

/-- The committed rows of `sessions`, `refresh_tokens` and `csrf_tokens`. -/
structure Tables where
  sessions : List SessionRow
  refreshTokens : List RefreshTokenRow
  csrfTokens : List CsrfTokenRow
deriving DecidableEq, Repr

/-- What a refresh reads from the clocks, of the application and at its statements, and the
random values that it draws. -/
structure Drawn where
  appNow : Time
  begunAt : Time
  upsertedAt : Time
  testedAt : Time
  id : Uuid
  newRaw : RawToken
  csrfToken : RawToken
deriving DecidableEq, Repr

namespace Tables

/-- `UPDATE refresh_tokens SET is_used = true WHERE ...`. -/
def markUsed (tables : Tables) (condition : RefreshTokenRow → Bool) : Tables :=
  {
    tables with
    refreshTokens :=
      tables.refreshTokens.map (fun row => if condition row then row.markUsed else row)
  }

/-- `UPDATE sessions SET is_revoked = true WHERE id = $1`. -/
def revoke (tables : Tables) (sessionId : Uuid) : Tables :=
  {
    tables with
    sessions := tables.sessions.map (fun row => if row.id = sessionId then row.revoke else row)
  }

/-- `INSERT INTO refresh_tokens`. -/
def insert (tables : Tables) (row : RefreshTokenRow) : Tables :=
  { tables with refreshTokens := tables.refreshTokens ++ [row] }

/-- `SELECT ... FROM refresh_tokens WHERE token_hash = $1`. -/
def withHash (tables : Tables) (tokenHash : Digest) : List RefreshTokenRow :=
  tables.refreshTokens.filter (fun row => row.tokenHash = tokenHash)

/-- `INSERT INTO csrf_tokens ... ON CONFLICT (session_id) DO UPDATE`. -/
def upsertCsrf (tables : Tables) (row : CsrfTokenRow) : Tables :=
  {
    tables with
    csrfTokens :=
      if tables.csrfTokens.any (fun old => old.sessionId = row.sessionId) then
        tables.csrfTokens.map (fun old => if old.sessionId = row.sessionId then row else old)
      else
        tables.csrfTokens ++ [row]
  }

/-- `SELECT ... FROM sessions WHERE id = $1 AND is_revoked = false AND expires_at > now()`. -/
def findActiveById (tables : Tables) (now : Time) (sessionId : Uuid) : Option SessionRow :=
  tables.sessions.find?
    (fun row => row.id = sessionId && row.isRevoked = false && decide (now < row.expiresAt))

end Tables

/-- The statements of a refresh that may fail, for whatever reason, a violated constraint
included. `compensate` is the ROLLBACK of the handler. -/
inductive Statement where
  | connect
  | begin
  | select
  | rollback
  | updateFamily
  | revokeSession
  | commitReuse
  | markUsed
  | insert
  | commit
  | compensate
  | upsertCsrf
  | findActiveById
deriving DecidableEq, Repr

/-- What a refresh throws: an error of the database, or UnauthorizedException. -/
inductive RefreshError where
  | database
  | unauthorized (message : AuthErrorMessage)
deriving DecidableEq, Repr

structure RotateRefreshTokenResult where
  newRawToken : RawToken
  sessionId : Uuid
deriving DecidableEq, Repr

section

variable (sha256 : RawToken → Digest) (drawn : Drawn)

/-- The row that the happy path inserts. -/
def successor (token : RefreshTokenRow) : RefreshTokenRow where
  id := drawn.id
  sessionId := token.sessionId
  tokenHash := sha256 drawn.newRaw
  familyId := token.familyId
  isUsed := false
  createdAt := drawn.begunAt
  expiresAt := drawn.begunAt + sevenDays

def RefreshTokenRepository.rotate (rawToken : RawToken)
    : Script (Statement × Moment) (PooledClient Tables) RefreshError
        RotateRefreshTokenResult := do
  let tokenHash := sha256 rawToken
  connect .connect .database
  try
    begin .begin .database
    let rows ← query .select .database (fun tables => (tables.withHash tokenHash, tables))
    match rows with
    | [] =>
        rollback .rollback .database
        throw (.unauthorized .invalidRefreshToken)
    | token :: _ =>
        if token.expiresAt < drawn.appNow then
          rollback .rollback .database
          throw (.unauthorized .refreshTokenExpired)
        else if token.isUsed then
          query .updateFamily .database
            (fun tables => ((), tables.markUsed (fun row => row.familyId = token.familyId)))
          query .revokeSession .database (fun tables => ((), tables.revoke token.sessionId))
          commit .commitReuse .database
          throw (.unauthorized .invalidRefreshToken)
        else
          query .markUsed .database
            (fun tables => ((), tables.markUsed (fun row => row.id = token.id)))
          query .insert .database
            (fun tables => ((), tables.insert (successor sha256 drawn token)))
          commit .commit .database
          pure ⟨drawn.newRaw, token.sessionId⟩
  catch error =>
    try
      rollback .compensate .database
    catch _ =>
      pure ()
    throw error
  finally
    release

/-- `CsrfTokenRepository.upsert`. -/
def CsrfTokenRepository.upsert (sessionId : Uuid)
    : Script (Statement × Moment) (PooledClient Tables) RefreshError RawToken := do
  poolQuery .upsertCsrf .database
    (fun tables =>
      ((), tables.upsertCsrf ⟨sessionId, sha256 drawn.csrfToken, drawn.upsertedAt + oneDay⟩))
  pure drawn.csrfToken

/-- `SessionsService.rotateRefreshToken`. Its handler only logs. -/
def SessionsService.rotateRefreshToken (rawToken : RawToken)
    : Script (Statement × Moment) (PooledClient Tables) RefreshError
        (RotateRefreshTokenResult × RawToken) := do
  let result ← RefreshTokenRepository.rotate sha256 drawn rawToken
  let csrfToken ← CsrfTokenRepository.upsert sha256 drawn result.sessionId
  pure (result, csrfToken)

def AuthService.refresh (rawToken : RawToken)
    : Script (Statement × Moment) (PooledClient Tables) RefreshError AuthTokens := do
  let (result, csrfToken) ← SessionsService.rotateRefreshToken sha256 drawn rawToken
  let session ← poolQuery .findActiveById .database
    (fun tables => (tables.findActiveById drawn.testedAt result.sessionId, tables))
  match session with
  | none => throw (.unauthorized .sessionInvalid)
  | some session => pure ⟨⟨session.userId, result.sessionId⟩, result.newRawToken, csrfToken⟩

end

end NexusComms.Sessions.Scripts
