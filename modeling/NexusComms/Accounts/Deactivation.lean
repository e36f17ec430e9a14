import NexusComms.Accounts.Enumeration
import NexusComms.Concurrency.Interleaving
import NexusComms.Sessions.Isolation
import NexusComms.Sessions.Revocation

/-! Who is given tokens once `is_active` has been cleared. Logins, registrations, the requests on
the session store and the UPDATE that deactivates a user interleave at their statements. A login
looks at the row of the user, a refresh at the session only.
-/

namespace NexusComms.Accounts

open Concurrency Program
open Sessions (AuthTokens RawToken Request)

/-- What the calls use of other packages: SHA-256, `argon2.verify`, `argon2.hash` with its salt,
and `zxcvbn`. -/
structure Libraries where
  sha256 : RawToken → Sessions.Digest
  verify : String → String → Bool
  hash : String → String → String
  zxcvbn : String → List String → PasswordStrength

/-- What the environment supplies to one step of a call. -/
structure CallInput extends Sessions.Input where
  salt : String := ""
deriving DecidableEq, Repr

/-- The table `users` and the session store. -/
structure Realm where
  users : Users
  store : Sessions.Store

/-- The migrated database. -/
def Realm.empty : Realm := ⟨[], .empty⟩

/-- Where `AuthService.login` stands until it issues tokens; `threw none` is an error of a
library or of the database. -/
inductive CredentialStage where
  | findByEmail
  | verify (user : Option UserRecord)
  | incrementFailedAttempts (userId : Uuid)
  | resetFailedAttempts (userId : Uuid)
  | threw (error : Option Thrown)
deriving DecidableEq, Repr

/-- Where `AuthService.register` stands. -/
inductive RegisterStage where
  | findByEmail
  | create
  | returned (message : String)
  | threw (error : Option Thrown)
deriving DecidableEq, Repr

/-- What runs on the database. A login goes on as the request that issues its tokens. Nothing in
the repository clears `is_active`, so `deactivate` is the statement of an operator.
-/
inductive Task where
  | login (email password : String) (stage : CredentialStage)
  | request (request : Request)
  | register (email password : String) (stage : RegisterStage)
  | deactivate (userId : Uuid)
  | deactivated (userId : Uuid)
deriving DecidableEq, Repr

/-- A task with its history: the users who were inactive when it was called. -/
structure Call where
  inactive : List Uuid
  task : Task
deriving DecidableEq, Repr

/-- `SET is_active = false`. -/
def UserRecord.deactivate (user : UserRecord) : UserRecord := { user with isActive := false }

/-- The ids of the inactive users. -/
def Users.inactive (users : Users) : List Uuid :=
  (users.filter (fun user => user.isActive = false)).map UserRecord.id

section

variable (libraries : Libraries)

/-- The next statement of `AuthService.login`, where the verdict follows `argon2.verify` without
a pause. -/
def AuthService.loginCall (input : CallInput) (realm : Realm) (email password : String)
    (stage : CredentialStage)
    : Option (Realm × Task) :=
  let invalid := Thrown.unauthorized AuthErrorMessage.invalidCredentials.text
  let next (stage : CredentialStage) : Task := .login email password stage
  match stage with
  | .findByEmail =>
      if input.fails then
        some (realm, next (.threw none))
      else
        some (realm, next (.verify (UserRepository.findByEmail realm.users email)))
  | .verify user =>
      let hashToVerify := (user.map UserRecord.passwordHash).getD dummyHash
      if input.fails then
        some (realm, next (.threw none))
      else
        match AuthService.judge input.appNow user (libraries.verify hashToVerify password) with
        | .deny => some (realm, next (.threw (some invalid)))
        | .increment userId => some (realm, next (.incrementFailedAttempts userId))
        | .accept userId => some (realm, next (.resetFailedAttempts userId))
  | .incrementFailedAttempts userId =>
      if input.fails then
        some (realm, next (.threw none))
      else
        match UserRepository.incrementFailedAttempts realm.users input.now userId with
        | .error failed => some (realm, next (.threw (some failed)))
        | .ok users => some ({ realm with users := users }, next (.threw (some invalid)))
  | .resetFailedAttempts userId =>
      if input.fails then
        some (realm, next (.threw none))
      else
        some ({ realm with users := UserRepository.resetFailedAttempts realm.users userId },
          .request (.login userId .createSession))
  | .threw _ => none

/-- The next statement of `AuthService.register`. -/
def AuthService.registerCall (input : CallInput) (users : Users) (email password : String)
    : RegisterStage → Option (Users × RegisterStage)
  | .findByEmail =>
      let strength := libraries.zxcvbn password [email]
      if strength.score < minimumPasswordScore then
        some (users,
          .threw
            (some
              (.badRequest
                (strength.suggestions.head?.getD AuthErrorMessage.passwordTooWeak.text))))
      else if input.fails then
        some (users, .threw none)
      else
        match UserRepository.findByEmail users email with
        | some _ => some (users, .returned registerSuccess)
        | none => some (users, .create)
  | .create =>
      if input.fails then
        some (users, .threw none)
      else
        let passwordHash := libraries.hash input.salt password
        match UsersService.create users input.uuid input.now email passwordHash with
        | .ok users' => some (users', .returned registerSuccess)
        | .error (.conflict _) => some (users, .returned registerSuccess)
        | .error failed => some (users, .threw (some failed))
  | .returned _ => none
  | .threw _ => none

/-- The next statement of a task. -/
def Task.step (owner : Nat) (input : CallInput) (realm : Realm) : Task → Option (Realm × Task)
  | .login email password stage =>
      AuthService.loginCall libraries input realm email password stage
  | .request asked =>
      (asked.step libraries.sha256 owner input.toInput realm.store).map
        (fun result => ({ realm with store := result.1 }, .request result.2))
  | .register email password stage =>
      (AuthService.registerCall libraries input realm.users email password stage).map
        (fun result => ({ realm with users := result.1 }, .register email password result.2))
  | .deactivate userId =>
      some (
        {
          realm with
          users := UserRepository.updateById realm.users userId UserRecord.deactivate
        },
        .deactivated userId)
  | .deactivated _ => none

/-- A task arrives. A login does so with an email and a password. -/
def Task.start (realm : Realm) : Task → Option Realm
  | .login _ _ .findByEmail => some realm
  | .request (.login _ _) => none
  | .request asked =>
      (asked.start libraries.sha256 realm.store).map (fun store => { realm with store := store })
  | .register _ _ .findByEmail => some realm
  | .deactivate _ => some realm
  | _ => none

/-- All calls on the database. Its clock never runs backwards. -/
def callProgram : Program Realm Call CallInput where
  start _ realm call :=
    if call.inactive = realm.users.inactive then
      call.task.start libraries realm
    else
      none
  step owner input realm call :=
    if realm.store.clock ≤ input.now then
      let now := { realm with store := { realm.store with clock := input.now } }
      (call.task.step libraries owner input now).map
        (fun result => (result.1, { call with task := result.2 }))
    else
      none

/-- Every interleaving of calls from the migrated database. -/
abbrev callMachine : Machine (Pool Realm Call) (Move Call CallInput) :=
  (callProgram libraries).machine Realm.empty

end

/-- The tokens that a task has returned. -/
def Task.returned : Task → Option AuthTokens
  | .request asked => asked.returned
  | _ => none

/-- The task is a login. -/
def Task.isLogin : Task → Bool
  | .login _ _ _ => true
  | .request (.login _ _) => true
  | _ => false

/-- Tokens that a call has returned are not for a user who was inactive when it was called. -/
def Call.Respects (call : Call) : Prop :=
  ∀ tokens ∈ call.task.returned, tokens.accessToken.sub ∉ call.inactive

/-- All calls respect what users were inactive when they were called. -/
def Respect (pool : Pool Realm Call) : Prop := ∀ call ∈ pool.threads, call.Respects

/-- The session that a refresh reads with its next statement, its last one. -/
def Task.reads : Task → Option Uuid
  | .request (.refresh _ (.findActiveSession _ sessionId _)) => some sessionId
  | _ => none

/-- A refresh whose last statement goes through finds no session, or one of a user who was not
inactive when it was called. -/
def FindsActive (pool : Pool Realm Call) : Move Call CallInput → Prop
  | .start _ => True
  | .step index input =>
      ∀ call ∈ pool.threads[index]?, ∀ sessionId ∈ call.task.reads, input.fails = false →
        ∀ session ∈
            Sessions.Store.findActiveById { pool.shared.store with clock := input.now }
              sessionId,
          session.userId ∉ call.inactive

-----------------------------------------------------------------------------------------
-- Inactive users stay inactive
-----------------------------------------------------------------------------------------

theorem mem_inactive {users : Users} {userId : Uuid}
    : userId ∈ users.inactive ↔ ∃ user ∈ users, user.id = userId ∧ user.isActive = false := by
  simp only [Users.inactive, List.mem_map, List.mem_filter, decide_eq_true_eq]
  exact exists_congr (fun _ => and_right_comm.trans and_assoc)

/-- The ids stay apart, and no inactive user becomes active. -/
structure KeepsInactive (before after : Users) : Prop where
  keys : (before.map UserRecord.id).Nodup → (after.map UserRecord.id).Nodup
  inactive : ∀ {userId}, userId ∈ before.inactive → userId ∈ after.inactive

theorem KeepsInactive.refl (users : Users) : KeepsInactive users users := ⟨id, id⟩

/-- An UPDATE that activates nobody. -/
theorem KeepsInactive.updateById {assign : UserRecord → UserRecord}
    (keeps : KeepsAccount assign)
    (stays : ∀ user, user.isActive = false → (assign user).isActive = false) (users : Users)
    (userId : Uuid)
    : KeepsInactive users (UserRepository.updateById users userId assign) where
  keys keys := by rwa [updateById_ids keeps]
  inactive {other} member := by
    obtain ⟨user, known, rfl, inactive⟩ := mem_inactive.mp member
    refine mem_inactive.mpr ⟨_, List.mem_map_of_mem known, ?_⟩
    split
    · exact ⟨keeps.id user, stays user inactive⟩
    · exact ⟨rfl, inactive⟩

theorem keeps_deactivate : KeepsAccount UserRecord.deactivate :=
  ⟨fun _ => rfl, fun _ => rfl, fun _ => rfl⟩

/-- A new row is active, and the others stay. -/
theorem KeepsInactive.create {users created : Users} {id : Uuid} {now : Time}
    {email passwordHash : String}
    (new : UsersService.create users id now email passwordHash = .ok created)
    : KeepsInactive users created := by
  have inserted := UsersService.create_ok new
  refine ⟨UserRepository.create_keys inserted, fun member => ?_⟩
  obtain ⟨_, rfl⟩ := UserRepository.create_ok inserted
  obtain ⟨user, known, same, inactive⟩ := mem_inactive.mp member
  exact mem_inactive.mpr ⟨user, List.mem_append_left _ known, same, inactive⟩

section

variable {libraries : Libraries} {owner : Nat} {input : CallInput} {realm realm' : Realm}

/-- What one statement of a login makes of it, where the row is read from these users. -/
inductive Proceeds (users : Users) (appNow : Time) (email password : String)
    : CredentialStage → Task → Prop
  | ends (stage : CredentialStage) (error : Option Thrown)
    : Proceeds users appNow email password stage (.login email password (.threw error))
  | finds
    : Proceeds users appNow email password .findByEmail
        (.login email password (.verify (UserRepository.findByEmail users email)))
  | counts (user : Option UserRecord) (userId : Uuid)
    : Proceeds users appNow email password (.verify user)
        (.login email password (.incrementFailedAttempts userId))
  | accepts {user : Option UserRecord} {passwordValid : Bool} {userId : Uuid}
    (accepted : AuthService.judge appNow user passwordValid = .accept userId)
    : Proceeds users appNow email password (.verify user)
        (.login email password (.resetFailedAttempts userId))
  | issues (userId : Uuid)
    : Proceeds users appNow email password (.resetFailedAttempts userId)
        (.request (.login userId .createSession))

/-- No statement of a login activates a user. -/
theorem loginCall_proceeds {email password : String} {stage : CredentialStage} {task : Task}
    (ran
      : AuthService.loginCall libraries input realm email password stage = some (realm', task))
    : KeepsInactive realm.users realm'.users
      ∧ Proceeds realm.users input.appNow email password stage task := by
  cases stage with
  | findByEmail =>
      simp only [AuthService.loginCall] at ran
      split at ran
      · cases ran
        exact ⟨.refl _, .ends _ none⟩
      · cases ran
        exact ⟨.refl _, .finds⟩
  | verify user =>
      simp only [AuthService.loginCall] at ran
      split at ran
      · cases ran
        exact ⟨.refl _, .ends _ none⟩
      · split at ran
        · cases ran
          exact ⟨.refl _, .ends _ _⟩
        · cases ran
          exact ⟨.refl _, .counts user _⟩
        · rename_i accepted
          cases ran
          exact ⟨.refl _, .accepts accepted⟩
  | incrementFailedAttempts userId =>
      simp only [AuthService.loginCall] at ran
      split at ran
      · cases ran
        exact ⟨.refl _, .ends _ none⟩
      · split at ran
        · cases ran
          exact ⟨.refl _, .ends _ _⟩
        · rename_i users counted
          cases ran
          refine ⟨?_, .ends _ _⟩
          unfold UserRepository.incrementFailedAttempts at counted
          split at counted
          · cases counted
          · cases counted
            exact .updateById (keeps_increment input.now) (fun _ inactive => inactive) _ _
  | resetFailedAttempts userId =>
      simp only [AuthService.loginCall] at ran
      split at ran
      · cases ran
        exact ⟨.refl _, .ends _ none⟩
      · cases ran
        exact ⟨.updateById keeps_reset (fun _ inactive => inactive) _ _, .issues userId⟩
  | threw error => cases ran

/-- Nor does a registration. -/
theorem registerCall_keeps {users users' : Users} {email password : String}
    {stage stage' : RegisterStage}
    (ran
      : AuthService.registerCall libraries input users email password stage
        = some (users', stage'))
    : KeepsInactive users users' := by
  cases stage with
  | findByEmail =>
      simp only [AuthService.registerCall] at ran
      split at ran
      · cases ran
        exact .refl _
      · split at ran
        · cases ran
          exact .refl _
        · split at ran
          · cases ran
            exact .refl _
          · cases ran
            exact .refl _
  | create =>
      simp only [AuthService.registerCall] at ran
      split at ran
      · cases ran
        exact .refl _
      · split at ran
        · rename_i created
          cases ran
          exact .create created
        · cases ran
          exact .refl _
        · cases ran
          exact .refl _
  | returned message => cases ran
  | threw error => cases ran

/-- Nothing that runs activates a user. -/
theorem Task.step_keeps {task task' : Task}
    (ran : task.step libraries owner input realm = some (realm', task'))
    : KeepsInactive realm.users realm'.users := by
  cases task with
  | login email password stage => exact (loginCall_proceeds ran).1
  | request asked =>
      obtain ⟨result, _, same⟩ := Option.map_eq_some_iff.mp ran
      cases same
      exact .refl _
  | register email password stage =>
      obtain ⟨result, stepped, same⟩ := Option.map_eq_some_iff.mp ran
      cases same
      exact registerCall_keeps stepped
  | deactivate userId =>
      cases ran
      exact .updateById keeps_deactivate (fun _ _ => rfl) _ _
  | deactivated userId => cases ran

-----------------------------------------------------------------------------------------
-- What a login has found
-----------------------------------------------------------------------------------------

/-- A login that goes on does so for a user who was not inactive when it was called. -/
def Task.Spares (inactive : List Uuid) : Task → Prop
  | .login _ _ (.verify (some user)) => user.isActive = true → user.id ∉ inactive
  | .login _ _ (.resetFailedAttempts userId) => userId ∉ inactive
  | .request (.login userId stage) =>
      userId ∉ inactive
      ∧ ∀ tokens, stage = .returned tokens → tokens.accessToken.sub = userId
  | _ => True

/-- Who was inactive when the call came still is, and a login spares them. -/
structure Call.Sound (users : Users) (call : Call) : Prop where
  still : ∀ userId ∈ call.inactive, userId ∈ users.inactive
  spares : call.task.Spares call.inactive

/-- An active row is not that of an inactive user. -/
theorem active_spares {users : Users} {user : UserRecord} {inactive : List Uuid}
    (keys : (users.map UserRecord.id).Nodup) (known : user ∈ users)
    (still : ∀ userId ∈ inactive, userId ∈ users.inactive) (active : user.isActive = true)
    : user.id ∉ inactive := by
  intro listed
  obtain ⟨other, member, same, inactive⟩ := mem_inactive.mp (still user.id listed)
  cases List.inj_on_of_nodup_map keys member known same
  exact Bool.noConfusion (active.symm.trans inactive)

/-- The login looks at `is_active` in the row that it reads after it has been called. -/
theorem loginCall_spares {inactive : List Uuid} {email password : String}
    {stage : CredentialStage} {task : Task} (keys : (realm.users.map UserRecord.id).Nodup)
    (still : ∀ userId ∈ inactive, userId ∈ realm.users.inactive)
    (spares : (Task.login email password stage).Spares inactive)
    (ran
      : AuthService.loginCall libraries input realm email password stage = some (realm', task))
    : task.Spares inactive := by
  cases (loginCall_proceeds ran).2 with
  | ends => trivial
  | finds =>
      cases found : UserRepository.findByEmail realm.users email with
      | none => trivial
      | some user =>
          exact fun active => active_spares keys (findByEmail_some found).1 still active
  | counts => trivial
  | accepts accepted =>
      obtain ⟨row, rfl, rfl, active⟩ := AuthService.judge_accept accepted
      exact spares active
  | issues => exact ⟨spares, fun tokens same => nomatch same⟩

/-- `issueTokens` names the user that it was called for. -/
theorem issueTokens_names {store store' : Sessions.Store} {userId : Uuid}
    {stage stage' : Sessions.LoginStage} {tokens : AuthTokens}
    (ran
      : Sessions.AuthService.issueTokens libraries.sha256 input.toInput store userId stage
        = some (store', stage'))
    (returned : stage' = .returned tokens)
    : tokens.accessToken.sub = userId := by
  subst returned
  cases stage with
  | createSession =>
      simp only [Sessions.AuthService.issueTokens] at ran
      split at ran
      · cases ran
      · split at ran
        · cases ran
        · cases ran
  | issueTokenSet sessionId =>
      simp only [Sessions.AuthService.issueTokens] at ran
      split at ran
      · cases ran
      · split at ran
        · cases ran
        · cases ran
  | upsertCsrf sessionId rawRefreshToken =>
      simp only [Sessions.AuthService.issueTokens] at ran
      split at ran
      · cases ran
      · split at ran
        · cases ran
          rfl
        · cases ran
  | returned tokens => cases ran
  | threw => cases ran

/-- Every step of a task keeps what a login has found. -/
theorem Task.step_spares {task task' : Task} {inactive : List Uuid}
    (keys : (realm.users.map UserRecord.id).Nodup)
    (still : ∀ userId ∈ inactive, userId ∈ realm.users.inactive) (spares : task.Spares inactive)
    (ran : task.step libraries owner input realm = some (realm', task'))
    : task'.Spares inactive := by
  cases task with
  | login email password stage => exact loginCall_spares keys still spares ran
  | request asked =>
      obtain ⟨⟨store, asked'⟩, stepped, same⟩ := Option.map_eq_some_iff.mp ran
      cases same
      cases asked with
      | login userId stage =>
          obtain ⟨⟨store, stage'⟩, issued, same⟩ := Option.map_eq_some_iff.mp stepped
          cases same
          exact ⟨spares.1, fun _ returned => issueTokens_names issued returned⟩
      | refresh rawToken stage =>
          obtain ⟨_, _, same⟩ := Option.map_eq_some_iff.mp stepped
          cases same
          trivial
      | logout sessionId stage =>
          obtain ⟨_, _, same⟩ := Option.map_eq_some_iff.mp stepped
          cases same
          trivial
      | logoutAll userId stage =>
          obtain ⟨_, _, same⟩ := Option.map_eq_some_iff.mp stepped
          cases same
          trivial
      | validate payload stage =>
          obtain ⟨_, _, same⟩ := Option.map_eq_some_iff.mp stepped
          cases same
          trivial
  | register email password stage =>
      obtain ⟨_, _, same⟩ := Option.map_eq_some_iff.mp ran
      cases same
      trivial
  | deactivate userId =>
      cases ran
      trivial
  | deactivated userId => cases ran

/-- A task that arrives leaves `users` alone, has returned nothing and claims nothing. -/
theorem Task.start_new {task : Task} (inactive : List Uuid)
    (started : task.start libraries realm = some realm')
    : realm'.users = realm.users ∧ task.returned = none ∧ task.Spares inactive := by
  cases task with
  | login email password stage =>
      cases stage with
      | findByEmail =>
          cases started
          exact ⟨rfl, rfl, trivial⟩
      | verify user => cases started
      | incrementFailedAttempts userId => cases started
      | resetFailedAttempts userId => cases started
      | threw error => cases started
  | request asked =>
      cases asked with
      | login userId stage => cases started
      | refresh rawToken stage =>
          obtain ⟨store, began, rfl⟩ := Option.map_eq_some_iff.mp started
          refine ⟨rfl, ?_, trivial⟩
          cases stage with
          | rotating stage => rfl
          | upsertCsrf newRawToken sessionId => cases began
          | findActiveSession newRawToken sessionId csrfToken => cases began
          | returned tokens => cases began
          | threw message => cases began
      | logout sessionId stage =>
          obtain ⟨store, _, rfl⟩ := Option.map_eq_some_iff.mp started
          exact ⟨rfl, rfl, trivial⟩
      | logoutAll userId stage =>
          obtain ⟨store, _, rfl⟩ := Option.map_eq_some_iff.mp started
          exact ⟨rfl, rfl, trivial⟩
      | validate payload stage =>
          obtain ⟨store, _, rfl⟩ := Option.map_eq_some_iff.mp started
          exact ⟨rfl, rfl, trivial⟩
  | register email password stage =>
      cases stage with
      | findByEmail =>
          cases started
          exact ⟨rfl, rfl, trivial⟩
      | create => cases started
      | returned message => cases started
      | threw error => cases started
  | deactivate userId =>
      cases started
      exact ⟨rfl, rfl, trivial⟩
  | deactivated userId => cases started

-----------------------------------------------------------------------------------------
-- What a refresh finds
-----------------------------------------------------------------------------------------

/-- A refresh that finds its session returns tokens of the user of that session. -/
theorem Task.step_reads {task task' : Task} {sessionId : Uuid} {session : Sessions.SessionRow}
    (ran : task.step libraries owner input realm = some (realm', task'))
    (reads : task.reads = some sessionId) (works : input.fails = false)
    (found : realm.store.findActiveById sessionId = some session)
    : ∃ tokens, task'.returned = some tokens ∧ tokens.accessToken.sub = session.userId := by
  unfold Task.reads at reads
  split at reads
  · cases reads
    simp [Task.step, Request.step, Sessions.AuthService.refresh, works, found] at ran
    obtain ⟨_, rfl⟩ := ran
    exact ⟨_, rfl, rfl⟩
  · cases reads

/-- No other call than a login and a refresh that finds its session returns tokens. -/
theorem Task.step_returned {task task' : Task} {tokens : AuthTokens}
    (ran : task.step libraries owner input realm = some (realm', task'))
    (returned : task'.returned = some tokens) (other : task'.isLogin = false)
    : ∃ sessionId session,
        task.reads = some sessionId
        ∧ input.fails = false
        ∧ realm.store.findActiveById sessionId = some session
        ∧ tokens.accessToken.sub = session.userId := by
  cases task with
  | login email password stage =>
      cases (loginCall_proceeds ran).2 with
      | ends => cases returned
      | finds => cases returned
      | counts => cases returned
      | accepts => cases returned
      | issues => cases returned
  | request asked =>
      obtain ⟨⟨store, asked'⟩, stepped, same⟩ := Option.map_eq_some_iff.mp ran
      cases same
      cases asked with
      | login userId stage =>
          obtain ⟨_, _, same⟩ := Option.map_eq_some_iff.mp stepped
          cases same
          cases other
      | refresh rawToken stage =>
          obtain ⟨⟨store, stage'⟩, refreshed, same⟩ := Option.map_eq_some_iff.mp stepped
          cases same
          cases stage with
          | rotating stage =>
              simp only [Sessions.AuthService.refresh] at refreshed
              split at refreshed
              · cases refreshed
                cases returned
              · have grants
                    : (Request.refresh rawToken stage').grants ≠ some tokens.accessToken.sid :=
                  Sessions.rotate_grants refreshed
                cases stage' with
                | returned others =>
                    cases returned
                    exact absurd rfl grants
                | rotating stage => cases returned
                | upsertCsrf newRawToken sessionId => cases returned
                | findActiveSession newRawToken sessionId csrfToken => cases returned
                | threw message => cases returned
          | upsertCsrf newRawToken sessionId =>
              simp only [Sessions.AuthService.refresh] at refreshed
              split at refreshed
              · cases refreshed
                cases returned
              · split at refreshed
                · cases refreshed
                  cases returned
                · cases refreshed
          | findActiveSession newRawToken sessionId csrfToken =>
              simp only [Sessions.AuthService.refresh] at refreshed
              split at refreshed
              · cases refreshed
                cases returned
              · rename_i works
                cases found : realm.store.findActiveById sessionId with
                | none =>
                    rw [found] at refreshed
                    cases refreshed
                    cases returned
                | some session =>
                    rw [found] at refreshed
                    cases refreshed
                    cases returned
                    exact ⟨sessionId, session, rfl, Bool.eq_false_iff.mpr works, found, rfl⟩
          | returned tokens => cases refreshed
          | threw message => cases refreshed
      | logout sessionId stage =>
          obtain ⟨_, _, same⟩ := Option.map_eq_some_iff.mp stepped
          cases same
          cases returned
      | logoutAll userId stage =>
          obtain ⟨_, _, same⟩ := Option.map_eq_some_iff.mp stepped
          cases same
          cases returned
      | validate payload stage =>
          obtain ⟨_, _, same⟩ := Option.map_eq_some_iff.mp stepped
          cases same
          cases returned
  | register email password stage =>
      obtain ⟨_, _, same⟩ := Option.map_eq_some_iff.mp ran
      cases same
      cases returned
  | deactivate userId =>
      cases ran
      cases returned
  | deactivated userId => cases ran

/-- A login that has returned tokens has spared whoever was inactive. -/
theorem Call.Sound.respects {users : Users} {call : Call} (sound : call.Sound users)
    (login : call.task.isLogin = true)
    : call.Respects := by
  intro tokens returned
  obtain ⟨inactive, task⟩ := call
  have spares : task.Spares inactive := sound.spares
  have given : task.returned = some tokens := returned
  cases task with
  | request asked =>
      cases asked with
      | login userId stage =>
          cases stage with
          | returned others =>
              cases given
              have named : tokens.accessToken.sub = userId := spares.2 tokens rfl
              rw [named]
              exact spares.1
          | createSession => cases given
          | issueTokenSet sessionId => cases given
          | upsertCsrf sessionId rawRefreshToken => cases given
          | threw => cases given
      | refresh rawToken stage => cases login
      | logout sessionId stage => cases login
      | logoutAll userId stage => cases login
      | validate payload stage => cases login
  | login email password stage => cases given
  | register email password stage => cases given
  | deactivate userId => cases given
  | deactivated userId => cases given

/-- The step of a call respects the inactive users exactly if it is no refresh that finds a
session of one of them. -/
theorem Call.Sound.step_respects {call : Call} {task : Task}
    (sound' : Call.Sound realm'.users { call with task := task })
    (ran : call.task.step libraries owner input realm = some (realm', task))
    : Call.Respects { call with task := task }
      ↔ ∀ sessionId ∈ call.task.reads, input.fails = false →
          ∀ session ∈ realm.store.findActiveById sessionId, session.userId ∉ call.inactive := by
  constructor
  · intro respects sessionId reads works session found
    obtain ⟨tokens, returned, named⟩ := Task.step_reads ran reads works found
    rw [← named]
    exact respects tokens returned
  · intro spares tokens returned
    cases login : task.isLogin with
    | true => exact sound'.respects login tokens returned
    | false =>
        obtain ⟨sessionId, session, reads, works, found, named⟩ :=
          Task.step_returned ran returned login
        rw [named]
        exact spares sessionId reads works session found

end

section

variable {libraries : Libraries} {pool next : Pool Realm Call}
  {moves : List (Move Call CallInput)}

/-- The ids of `users` are unique, and every call is sound. -/
theorem calls_outline
    : (callProgram libraries).Outline
        (fun realm => (realm.users.map UserRecord.id).Nodup)
        (fun realm _ slot => ∀ call ∈ slot, call.Sound realm.users) where
  start := by
    intro realm realm' index call keys _ started
    obtain ⟨history, began⟩ := Option.ite_none_right_eq_some.mp started
    obtain ⟨users, _, spares⟩ := Task.start_new call.inactive began
    rw [users]
    refine ⟨keys, fun other same => ?_, fun _ _ _ held => held⟩
    cases same
    exact ⟨fun _ listed => history ▸ listed, spares⟩
  step := by
    intro realm realm' index input call call' keys sound stepped
    obtain ⟨_, goes⟩ := Option.ite_none_right_eq_some.mp stepped
    obtain ⟨⟨_, task⟩, ran, same⟩ := Option.map_eq_some_iff.mp goes
    cases same
    have own := sound call rfl
    have kept := Task.step_keeps ran
    refine ⟨kept.keys keys, fun other same => ?_, fun _ slot _ held other same => ?_⟩
    · cases same
      refine ⟨fun userId listed => kept.inactive (own.still userId listed), ?_⟩
      refine Task.step_spares ?_ ?_ own.spares ran
      · exact keys
      · exact own.still
    · have others := held other same
      exact ⟨fun userId listed => kept.inactive (others.still userId listed), others.spares⟩

/-- The calls are sound in every reachable pool. -/
theorem calls_sound (run : (callMachine libraries).Reaches moves pool)
    : Holds (fun realm => (realm.users.map UserRecord.id).Nodup)
        (fun realm _ slot => ∀ call ∈ slot, call.Sound realm.users) pool := by
  have shared : (Realm.empty.users.map UserRecord.id).Nodup := List.nodup_nil
  exact calls_outline.reaches shared (fun _ _ same => nomatch same) run

/-- No login returns tokens for a user who was inactive when it was called. This is a result of
its own: the condition on runs below is then about refreshes only. -/
theorem logins_respect (run : (callMachine libraries).Reaches moves pool) {call : Call}
    (member : call ∈ pool.threads) (login : call.task.isLogin = true)
    : call.Respects := by
  obtain ⟨index, found⟩ := List.mem_iff_getElem?.mp member
  exact ((calls_sound run).2 index call found).respects login

/-- A move of the calls keeps the inactive users respected exactly if it meets the condition. -/
theorem move_respects_iff
    (valid
      : Holds (fun realm => (realm.users.map UserRecord.id).Nodup)
          (fun realm _ slot => ∀ call ∈ slot, call.Sound realm.users) pool)
    (respect : Respect pool) {action : Move Call CallInput}
    (moved : (callProgram libraries).move pool action = some next)
    : Respect next ↔ FindsActive pool action := by
  have valid' := calls_outline.move valid moved
  cases action with
  | start call =>
      obtain ⟨started, threads⟩ := (callProgram libraries).move_start_some moved
      obtain ⟨_, began⟩ := Option.ite_none_right_eq_some.mp started
      obtain ⟨_, new, _⟩ := Task.start_new call.inactive began
      refine iff_of_true (fun other member => ?_) trivial
      rw [threads] at member
      rcases List.mem_append.mp member with earlier | own
      · exact respect other earlier
      · cases List.mem_singleton.mp own
        intro tokens returned
        rw [new] at returned
        cases returned
  | step index input =>
      obtain ⟨call, after, found, stepped, threads⟩ :=
        (callProgram libraries).move_step_some moved
      obtain ⟨_, goes⟩ := Option.ite_none_right_eq_some.mp stepped
      obtain ⟨⟨_, task⟩, ran, same⟩ := Option.map_eq_some_iff.mp goes
      cases same
      have bound : index < pool.threads.length := (List.getElem?_eq_some_iff.mp found).1
      have own : next.threads[index]? = some { call with task := task } := by
        rw [threads]
        exact List.getElem?_set_self bound
      have step := (valid'.2 index _ own).step_respects ran
      constructor
      · intro respect' other same
        cases Option.some.inj (found.symm.trans same)
        exact step.mp (respect' _ (List.mem_of_getElem? own))
      · intro finds other member
        rw [threads] at member
        rcases List.mem_or_eq_of_mem_set member with earlier | rfl
        · exact respect other earlier
        · exact step.mpr (finds call found)

/-- Deactivation is respected in exactly the runs in which no refresh finds, by its last
statement, an active session of a user who was inactive when it was called. Nothing else is in
the way of such a refresh, whatever happened before.
-/
theorem tokens_respect_deactivation (run : (callMachine libraries).Reaches moves pool)
    : (callMachine libraries).Throughout Respect (callMachine libraries).init moves
      ↔ (callMachine libraries).Along FindsActive (callMachine libraries).init moves := by
  refine (callMachine libraries).throughout_iff_along _ calls_outline.move ?_ ?_ ?_ run
  · intro before action after valid respect moved
    exact move_respects_iff valid respect moved
  · exact .init List.nodup_nil (fun _ _ same => nomatch same)
  · intro call member
    cases member

end

instance (pool : Pool Realm Call) (action : Move Call CallInput)
    : Decidable (FindsActive pool action) :=
  match action with
  | .start _ => isTrue trivial
  | .step index input =>
      inferInstanceAs
        (Decidable
          (∀ call ∈ pool.threads[index]?, ∀ sessionId ∈ call.task.reads, input.fails = false →
            ∀ session ∈
                Sessions.Store.findActiveById { pool.shared.store with clock := input.now }
                  sessionId,
              session.userId ∉ call.inactive))

/-- A hash that is the password, digests that are the tokens, and passwords strong enough. -/
def plainLibraries : Libraries where
  sha256 rawToken := rawToken
  verify passwordHash password := passwordHash = password
  hash _ password := password
  zxcvbn _ _ := ⟨minimumPasswordScore, []⟩

/-- User 1 registers and logs in, and is given the refresh token 100. -/
def signedIn : List (Move Call CallInput) := [
  .start ⟨[], .register "user@example.com" "secret" .findByEmail⟩,
  .step 0 { now := 1 },
  .step 0 { now := 1, uuid := 1 },
  .start ⟨[], .login "user@example.com" "secret" .findByEmail⟩,
  .step 1 { now := 2 },
  .step 1 { now := 2 },
  .step 1 { now := 2 },
  .step 1 { now := 2, uuid := 2 },
  .step 1 { now := 2, uuid := 3, familyId := 4, rawToken := 100 },
  .step 1 { now := 2, rawToken := 101 }
]

/-- The user is deactivated. -/
def deactivation : List (Move Call CallInput) := [
  .start ⟨[], .deactivate 1⟩,
  .step 2 { now := 3 }
]

/-- Thread 3 refreshes the token, as far as its last statement. -/
def refreshing : List (Move Call CallInput) := [
  .step 3 { now := 4 },
  .step 3 { now := 4 },
  .step 3 { now := 4 },
  .step 3 { now := 4 },
  .step 3 { now := 4, uuid := 5, rawToken := 102 },
  .step 3 { now := 4 },
  .step 3 { now := 4, rawToken := 103 },
  .step 3 { now := 4 }
]

/-- A refresh that has been called before the user is deactivated. -/
def refreshedBefore : List (Move Call CallInput) :=
  signedIn
    ++ [
      .start ⟨[], .deactivate 1⟩,
      .start ⟨[], .request (.refresh 100 (.rotating .begin))⟩,
      .step 2 { now := 3 }
    ]
    ++ refreshing

/-- A refresh that is called afterwards. -/
def refreshedAfter : List (Move Call CallInput) :=
  signedIn ++ deactivation ++ [.start ⟨[1], .request (.refresh 100 (.rotating .begin))⟩]
    ++ refreshing

/-- The pool after some moves. -/
def poolAfter (moves : List (Move Call CallInput)) : Pool Realm Call :=
  ((callMachine plainLibraries).exec (callMachine plainLibraries).init moves).getD
    ⟨Realm.empty, []⟩

theorem tokens_respect_deactivation_before
    : (poolAfter refreshedBefore).shared.users.inactive = [1]
      ∧ (poolAfter refreshedBefore).threads.map (fun call => call.task.returned)
        = [none, some ⟨⟨1, 2⟩, 100, 101⟩, none, some ⟨⟨1, 2⟩, 102, 103⟩]
      ∧ (callMachine plainLibraries).Throughout Respect (callMachine plainLibraries).init
          refreshedBefore := by
  have run : (callMachine plainLibraries).Reaches refreshedBefore (poolAfter refreshedBefore) :=
    rfl
  exact ⟨by decide, by decide, (tokens_respect_deactivation run).mpr (by decide)⟩

/-- Otherwise a deactivated user goes on with the tokens of a session that nobody has revoked. -/
theorem deactivated_refreshes
    : (callMachine plainLibraries).Reaches refreshedAfter (poolAfter refreshedAfter)
      ∧ (poolAfter refreshedAfter).threads[3]?
        = some ⟨[1], .request (.refresh 100 (.returned ⟨⟨1, 2⟩, 102, 103⟩))⟩
      ∧ ¬ Respect (poolAfter refreshedAfter) := by
  have returned
      : (poolAfter refreshedAfter).threads[3]?
        = some ⟨[1], .request (.refresh 100 (.returned ⟨⟨1, 2⟩, 102, 103⟩))⟩ := by decide
  refine ⟨rfl, returned, fun respect => ?_⟩
  exact respect _ (List.mem_of_getElem? returned) _ rfl (List.mem_singleton_self 1)

end NexusComms.Accounts
