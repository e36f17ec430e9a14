import NexusComms.Concurrency.Interleaving
import NexusComms.Sessions.Records

/-! The requests of `AuthService` on the session store, suspended at every SQL statement.
A stage is named after the statement that its next step runs. A statement that may fail or
be chosen as the victim of a deadlock does so by `Input.fails`.
-/

namespace NexusComms.Sessions

open Storage Concurrency

/-- Where `RefreshTokenRepository.rotate` stands. `lockToken` waits inside the SELECT for
the row its snapshot found; `updateFamily` carries the rows of the UPDATE's snapshot that it
has not reached yet, and with none left the session is next.
-/
inductive RotateStage where
  | begin
  | select (startedAt : Time)
  | lockToken (startedAt : Time) (id : Uuid)
  | check (startedAt : Time) (token : RefreshTokenRow)
  | updateFamily (token : RefreshTokenRow) (todo : List Uuid)
  | commitReuse (token : RefreshTokenRow)
  | insertSuccessor (startedAt : Time) (token : RefreshTokenRow)
  | commitRotation (token : RefreshTokenRow) (newRawToken : RawToken)
    (successor : RefreshTokenRow)
deriving DecidableEq, Repr

/-- Where `AuthService.refresh` stands; `threw none` is an error of the database. -/
inductive RefreshStage where
  | rotating (stage : RotateStage)
  | upsertCsrf (newRawToken : RawToken) (sessionId : Uuid)
  | findActiveSession (newRawToken : RawToken) (sessionId : Uuid) (csrfToken : RawToken)
  | returned (tokens : AuthTokens)
  | threw (message : Option AuthErrorMessage)
deriving DecidableEq, Repr

/-- Where `AuthService.issueTokens`, the end of a successful login, stands. -/
inductive LoginStage where
  | createSession
  | issueTokenSet (sessionId : Uuid)
  | upsertCsrf (sessionId : Uuid) (rawRefreshToken : RawToken)
  | returned (tokens : AuthTokens)
  | threw
deriving DecidableEq, Repr

inductive LogoutStage where
  | revoke
  | done
  | threw
deriving DecidableEq, Repr

/-- Where `SessionRepository.revokeAllForUser` stands, with the rows left to update. -/
inductive LogoutAllStage where
  | revokeAllForUser
  | updating (todo : List Uuid)
  | done
  | threw
deriving DecidableEq, Repr

/-- Where `JwtStrategy.validate` stands. -/
inductive ValidateStage where
  | findActiveSession
  | accepted
  | rejected
  | threw
deriving DecidableEq, Repr

inductive Request where
  | login (userId : Uuid) (stage : LoginStage)
  | refresh (rawToken : RawToken) (stage : RefreshStage)
  | logout (sessionId : Uuid) (stage : LogoutStage)
  | logoutAll (userId : Uuid) (stage : LogoutAllStage)
  | validate (payload : JwtPayload) (stage : ValidateStage)
deriving DecidableEq, Repr

section

variable (sha256 : RawToken → Digest)

/-- `INSERT INTO refresh_tokens` uses a row id and a token that were never seen before. -/
def Store.fresh (store : Store) (input : Input) : Bool :=
  input.uuid ∉ store.uuids && sha256 input.rawToken ∉ store.digests

/-- Record the random values that a statement has used. -/
def Store.draw (store : Store) (uuids : List Uuid) (rawToken : RawToken) : Store :=
  {
    store with
    uuids := uuids ++ store.uuids
    digests := sha256 rawToken :: store.digests
  }

/-- The next statement of `RefreshTokenRepository.rotate` in request `owner`. -/
def RefreshTokenRepository.rotate (owner : Nat) (input : Input) (store : Store)
    (rawToken : RawToken)
    : RotateStage → Option (Store × RefreshStage)
  | .begin =>
      -- now() is the time of BEGIN for the whole transaction
      some (store, .rotating (.select input.now))
  | .select startedAt =>
      match store.refreshTokens.rows.find? (fun row => row.tokenHash = sha256 rawToken) with
      | none => some (store.rollback owner, .threw (some .invalidRefreshToken))
      | some row => some (store, .rotating (.lockToken startedAt row.id))
  | .lockToken startedAt id =>
      if store.refreshTokens.available owner id then
        match store.refreshTokens.current RefreshTokenRow.id id with
        | none => some (store.rollback owner, .threw (some .invalidRefreshToken))
        | some token =>
            some ({ store with refreshTokens := store.refreshTokens.lock owner id },
              .rotating (.check startedAt token))
      else
        none
  | .check startedAt token =>
      if token.expiresAt < input.appNow then
        some (store.rollback owner, .threw (some .refreshTokenExpired))
      else if token.isUsed then
        -- the family UPDATE starts: it will only reach rows committed by now
        some (store,
          .rotating (.updateFamily token
            (store.refreshTokens.snapshot RefreshTokenRow.id
              (fun row => row.familyId = token.familyId))))
      else
        some (
          {
            store with
            refreshTokens :=
              store.refreshTokens.write RefreshTokenRow.id token.id RefreshTokenRow.markUsed
          },
          .rotating (.insertSuccessor startedAt token))
  | .updateFamily token [] =>
      if store.sessions.available owner token.sessionId then
        some (
          {
            store with
            sessions :=
              (store.sessions.lock owner token.sessionId).write SessionRow.id token.sessionId
                SessionRow.revoke
          },
          .rotating (.commitReuse token))
      else
        none
  | .updateFamily token (next :: later) =>
      -- rows are locked one at a time, in any order; family_id never changes, so the
      -- condition still holds of a row that had to be waited for
      if input.row ∈ next :: later ∧ store.refreshTokens.available owner input.row then
        some (
          {
            store with
            refreshTokens :=
              (store.refreshTokens.lock owner input.row).write RefreshTokenRow.id input.row
                RefreshTokenRow.markUsed
          },
          .rotating (.updateFamily token ((next :: later).erase input.row)))
      else
        none
  | .commitReuse token =>
      some (
        {
          store.commit owner with
          reuseCommits := token.familyId :: store.reuseCommits
        },
        .threw (some .invalidRefreshToken))
  | .insertSuccessor startedAt token =>
      if store.fresh sha256 input then
        let successor : RefreshTokenRow := {
          id := input.uuid
          sessionId := token.sessionId
          tokenHash := sha256 input.rawToken
          familyId := token.familyId
          isUsed := false
          createdAt := startedAt
          expiresAt := startedAt + sevenDays
        }
        some (
          {
            store.draw sha256 [input.uuid] input.rawToken with
            refreshTokens := store.refreshTokens.insert owner successor
          },
          .rotating (.commitRotation token input.rawToken successor))
      else
        none
  | .commitRotation token newRawToken successor =>
      some (
        {
          store.commit owner with
          rotations := store.rotations ++ [⟨rawToken, token, newRawToken, successor⟩]
        },
        .upsertCsrf newRawToken token.sessionId)

/-- The next statement of `AuthService.refresh`. -/
def AuthService.refresh (owner : Nat) (input : Input) (store : Store) (rawToken : RawToken)
    : RefreshStage → Option (Store × RefreshStage)
  | .rotating stage =>
      if input.fails then
        some (store.rollback owner, .threw none)
      else
        RefreshTokenRepository.rotate sha256 owner input store rawToken stage
  | .upsertCsrf newRawToken sessionId =>
      if input.fails then
        some (store, .threw none)
      else if sha256 input.rawToken ∉ store.digests then
        some (
          (store.draw sha256 [] input.rawToken).upsertCsrf sessionId (sha256 input.rawToken),
          .findActiveSession newRawToken sessionId input.rawToken)
      else
        none
  | .findActiveSession newRawToken sessionId csrfToken =>
      if input.fails then
        some (store, .threw none)
      else
        match store.findActiveById sessionId with
        | none => some (store, .threw (some .sessionInvalid))
        | some session =>
            some (store, .returned ⟨⟨session.userId, sessionId⟩, newRawToken, csrfToken⟩)
  | .returned _ => none
  | .threw _ => none

/-- The next statement of `AuthService.issueTokens`; each one commits by itself. -/
def AuthService.issueTokens (input : Input) (store : Store) (userId : Uuid)
    : LoginStage → Option (Store × LoginStage)
  | .createSession =>
      if input.fails then
        some (store, .threw)
      else if input.uuid ∉ store.uuids then
        let session : SessionRow :=
          ⟨input.uuid, userId, false, input.now, input.now + sevenDays⟩
        some (
          {
            store with
            uuids := input.uuid :: store.uuids
            sessions := store.sessions.append session
          },
          .issueTokenSet input.uuid)
      else
        none
  | .issueTokenSet sessionId =>
      if input.fails then
        some (store, .threw)
      else if store.fresh sha256 input ∧ input.familyId ∉ store.uuids then
        let token : RefreshTokenRow := {
          id := input.uuid
          sessionId := sessionId
          tokenHash := sha256 input.rawToken
          familyId := input.familyId
          isUsed := false
          createdAt := input.now
          expiresAt := input.now + sevenDays
        }
        some (
          {
            store.draw sha256 [input.uuid, input.familyId] input.rawToken with
            refreshTokens := store.refreshTokens.append token
          },
          .upsertCsrf sessionId input.rawToken)
      else
        none
  | .upsertCsrf sessionId rawRefreshToken =>
      if input.fails then
        some (store, .threw)
      else if sha256 input.rawToken ∉ store.digests then
        some (
          (store.draw sha256 [] input.rawToken).upsertCsrf sessionId (sha256 input.rawToken),
          .returned ⟨⟨userId, sessionId⟩, rawRefreshToken, input.rawToken⟩)
      else
        none
  | .returned _ => none
  | .threw => none

end

/-- `SessionRepository.revoke`: one UPDATE of one row, which waits for the row's lock. -/
def AuthService.logout (owner : Nat) (input : Input) (store : Store) (sessionId : Uuid)
    : LogoutStage → Option (Store × LogoutStage)
  | .revoke =>
      if input.fails then
        some (store, .threw)
      else if store.sessions.available owner sessionId then
        let updated :=
          (store.sessions.lock owner sessionId).write SessionRow.id sessionId
            SessionRow.revoke
        some ({ store with sessions := updated.commit SessionRow.id owner }, .done)
      else
        none
  | .done => none
  | .threw => none

/-- `SessionRepository.revokeAllForUser`: one UPDATE, which locks the rows of its snapshot
one at a time and commits them together. -/
def AuthService.logoutAll (owner : Nat) (input : Input) (store : Store) (userId : Uuid)
    : LogoutAllStage → Option (Store × LogoutAllStage)
  | .revokeAllForUser =>
      if input.fails then
        some (store, .threw)
      else
        some (store,
          .updating
            (store.sessions.snapshot SessionRow.id (fun row => row.userId = userId)))
  | .updating todo =>
      if input.fails then
        some (store.rollback owner, .threw)
      else if todo = [] then
        some (store.commit owner, .done)
      else if input.row ∈ todo ∧ store.sessions.available owner input.row then
        some (
          {
            store with
            sessions :=
              (store.sessions.lock owner input.row).write SessionRow.id input.row
                SessionRow.revoke
          },
          .updating (todo.erase input.row))
      else
        none
  | .done => none
  | .threw => none

/-- `JwtStrategy.validate`, after the signature and the expiry have been checked. -/
def JwtStrategy.validate (input : Input) (store : Store) (payload : JwtPayload)
    : ValidateStage → Option (Store × ValidateStage)
  | .findActiveSession =>
      if input.fails then
        some (store, .threw)
      else
        match store.findActiveById payload.sid with
        | none => some (store, .rejected)
        | some _ => some (store, .accepted)
  | .accepted => none
  | .rejected => none
  | .threw => none

/-- The next statement of a request. -/
def Request.step (sha256 : RawToken → Digest) (owner : Nat) (input : Input) (store : Store)
    : Request → Option (Store × Request)
  | .login userId stage =>
      (AuthService.issueTokens sha256 input store userId stage).map
        (fun result => (result.1, .login userId result.2))
  | .refresh rawToken stage =>
      (AuthService.refresh sha256 owner input store rawToken stage).map
        (fun result => (result.1, .refresh rawToken result.2))
  | .logout sessionId stage =>
      (AuthService.logout owner input store sessionId stage).map
        (fun result => (result.1, .logout sessionId result.2))
  | .logoutAll userId stage =>
      (AuthService.logoutAll owner input store userId stage).map
        (fun result => (result.1, .logoutAll userId result.2))
  | .validate payload stage =>
      (JwtStrategy.validate input store payload stage).map
        (fun result => (result.1, .validate payload result.2))

/-- A request arrives. A presented token counts as seen, so none drawn later equals it. -/
def Request.start (sha256 : RawToken → Digest) (store : Store) : Request → Option Store
  | .login _ .createSession => some store
  | .refresh rawToken (.rotating .begin) =>
      some { store with digests := sha256 rawToken :: store.digests }
  | .logout _ .revoke => some store
  | .logoutAll _ .revokeAllForUser => some store
  | .validate _ .findActiveSession => some store
  | _ => none

/-- All requests on the session store. The database clock never runs backwards. -/
def program (sha256 : RawToken → Digest) : Program Store Request Input where
  start _ store request := request.start sha256 store
  step owner input store request :=
    if store.clock ≤ input.now then
      request.step sha256 owner input { store with clock := input.now }
    else
      none

/-- Every interleaving of requests from the migrated database. -/
abbrev machine (sha256 : RawToken → Digest)
    : Machine (Pool Store Request) (Move Request Input) :=
  (program sha256).machine Store.empty

end NexusComms.Sessions
