import NexusComms.Basic
import NexusComms.Storage.LockedTable

/-! The rows of `sessions`, `refresh_tokens` and `csrf_tokens`, and the store they live in. -/

namespace NexusComms.Sessions

open Storage

/-- Raw tokens, any string that a client may present. -/
abbrev RawToken := Nat

/-- SHA-256 digests in hexadecimal. -/
abbrev Digest := Nat

/-- `INTERVAL '7 days'`, in microseconds of the database clock. -/
def sevenDays : Time := 7 * 24 * 60 * 60 * 1000000

/-- `INTERVAL '24 hours'`. -/
def oneDay : Time := 24 * 60 * 60 * 1000000

inductive AuthErrorMessage where
  | invalidRefreshToken
  | refreshTokenExpired
  | sessionInvalid
deriving DecidableEq, Repr

def AuthErrorMessage.text : AuthErrorMessage → String
  | .invalidRefreshToken => "Invalid refresh token."
  | .refreshTokenExpired => "Refresh token has expired."
  | .sessionInvalid => "Session is no longer valid."

structure SessionRow where
  id : Uuid
  userId : Uuid
  isRevoked : Bool
  createdAt : Time
  expiresAt : Time
deriving DecidableEq, Repr

/-- `SET is_revoked = true`. -/
def SessionRow.revoke (row : SessionRow) : SessionRow := { row with isRevoked := true }

structure RefreshTokenRow where
  id : Uuid
  sessionId : Uuid
  tokenHash : Digest
  familyId : Uuid
  isUsed : Bool
  createdAt : Time
  expiresAt : Time
deriving DecidableEq, Repr

/-- `SET is_used = true`. -/
def RefreshTokenRow.markUsed (row : RefreshTokenRow) : RefreshTokenRow :=
  { row with isUsed := true }

structure CsrfTokenRow where
  sessionId : Uuid
  tokenHash : Digest
  expiresAt : Time
deriving DecidableEq, Repr

/-- The payload of an access token. -/
structure JwtPayload where
  sub : Uuid
  sid : Uuid
deriving DecidableEq, Repr

structure AuthTokens where
  accessToken : JwtPayload
  refreshToken : RawToken
  csrfToken : RawToken
deriving DecidableEq, Repr

/-- One committed rotation: the token presented, its row as read under the lock, the token
returned and the row inserted for it. -/
structure Rotation where
  rawToken : RawToken
  token : RefreshTokenRow
  newRawToken : RawToken
  successor : RefreshTokenRow
deriving DecidableEq, Repr

/-- The three tables with the database clock. The last four fields are history: all UUIDs
drawn, the digests of all tokens presented or drawn, the committed rotations in order, and
the families for which a reuse branch has committed.
-/
structure Store where
  clock : Time
  sessions : LockedTable Uuid SessionRow
  refreshTokens : LockedTable Uuid RefreshTokenRow
  csrfTokens : List CsrfTokenRow
  uuids : List Uuid
  digests : List Digest
  rotations : List Rotation
  reuseCommits : List Uuid

namespace Store

/-- The migrated database before the first request. -/
def empty : Store := ⟨0, .empty, .empty, [], [], [], [], []⟩

def commit (store : Store) (owner : Nat) : Store :=
  {
    store with
    sessions := store.sessions.commit SessionRow.id owner
    refreshTokens := store.refreshTokens.commit RefreshTokenRow.id owner
  }

def rollback (store : Store) (owner : Nat) : Store :=
  {
    store with
    sessions := store.sessions.release owner
    refreshTokens := store.refreshTokens.release owner
  }

/-- `SessionRepository.findActiveById` at the store's clock. -/
def findActiveById (store : Store) (sessionId : Uuid) : Option SessionRow :=
  store.sessions.rows.find?
    (fun row =>
      row.id = sessionId && row.isRevoked = false && decide (store.clock < row.expiresAt))

/-- `CsrfTokenRepository.upsert`: one row for each session, replaced on conflict. -/
def upsertCsrf (store : Store) (sessionId : Uuid) (tokenHash : Digest) : Store :=
  let row : CsrfTokenRow := ⟨sessionId, tokenHash, store.clock + oneDay⟩
  {
    store with
    csrfTokens :=
      if store.csrfTokens.any (fun old => old.sessionId = sessionId) then
        store.csrfTokens.map (fun old => if old.sessionId = sessionId then row else old)
      else
        store.csrfTokens ++ [row]
  }

/-- The committed rows of a family in the order of their insertion. -/
def family (store : Store) (familyId : Uuid) : List RefreshTokenRow :=
  store.refreshTokens.rows.filter (fun row => row.familyId = familyId)

end Store

/-- What the environment supplies to one step: the database clock, the application clock,
random values, the waiting row that an UPDATE reaches next, and whether the statement fails.
-/
structure Input where
  now : Time
  appNow : Time := 0
  uuid : Uuid := 0
  familyId : Uuid := 0
  rawToken : RawToken := 0
  row : Uuid := 0
  fails : Bool := false
deriving DecidableEq, Repr

end NexusComms.Sessions
