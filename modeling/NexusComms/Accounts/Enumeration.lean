import Mathlib.Data.List.Nodup
import NexusComms.Accounts.Users
import NexusComms.Concurrency.Runs
import NexusComms.Sessions.Records

/-! What logins and registrations tell about an email. Two tables that differ in the rows of
one email only are compared over the same requests.
-/

namespace NexusComms.Accounts

open Concurrency
open Sessions (AuthTokens RawToken)

/-- `AuthService.DUMMY_HASH`. -/
def dummyHash : String :=
  "$argon2id$v=19$m=65536,t=3,p=4$c29tZXNhbHRzb21lc2FsdA$RdescudvJCsgt3ub+b+dWRWJTmaasfasdf"

/-- `MINIMUM_PASSWORD_SCORE`. -/
def minimumPasswordScore : Nat := 2

/-- The result of `zxcvbn`. -/
structure PasswordStrength where
  score : Nat
  suggestions : List String
deriving DecidableEq, Repr

/-- A login with the times at which `isLocked` and the UPDATE run, and the random values that
are used if it succeeds. -/
structure LoginRequest where
  email : String
  password : String
  testedAt : Time
  updatedAt : Time
  sessionId : Uuid
  rawRefreshToken : RawToken
  csrfToken : RawToken
deriving DecidableEq, Repr

/-- A registration with the id, the time and the salt that are used if a row is inserted. -/
structure RegisterRequest where
  email : String
  password : String
  id : Uuid
  now : Time
  salt : String
deriving DecidableEq, Repr

/-- What the client of a request is sent. -/
abbrev Response (α : Type) := Except ErrorResponse α

def respond {α : Type} (result : Except Thrown α) : Response α :=
  result.mapError GlobalExceptionFilter.catch

section

variable (verify : String → String → Bool)

/-- `AuthService.login`, where `verify` is `argon2.verify`. -/
def AuthService.login (users : Users) (request : LoginRequest)
    : Except Thrown AuthTokens × Users :=
  let user := UserRepository.findByEmail users request.email
  let hashToVerify := (user.map UserRecord.passwordHash).getD dummyHash
  let passwordValid := verify hashToVerify request.password
  let invalid := Thrown.unauthorized AuthErrorMessage.invalidCredentials.text
  match AuthService.judge request.testedAt user passwordValid with
  | .deny => (.error invalid, users)
  | .increment userId =>
      match UserRepository.incrementFailedAttempts users request.updatedAt userId with
      | .error failed => (.error failed, users)
      | .ok users' => (.error invalid, users')
  | .accept userId =>
      (.ok ⟨⟨userId, request.sessionId⟩, request.rawRefreshToken, request.csrfToken⟩,
        UserRepository.resetFailedAttempts users userId)

/-- Logins one after the other. -/
def loginSequence (users : Users) : Machine Users LoginRequest where
  init := users
  step users request := some (AuthService.login verify users request).2

/-- The responses to logins one after the other. -/
def responses (users : Users) : List LoginRequest → List (Response AuthTokens)
  | [] => []
  | request :: rest =>
      respond (AuthService.login verify users request).1
        :: responses (AuthService.login verify users request).2 rest

/-- The table after logins one after the other. -/
def usersAfter (users : Users) (requests : List LoginRequest) : Users :=
  requests.foldl (fun users request => (AuthService.login verify users request).2) users

end

/-- `AuthService.register`. It reads the table `users`, and the INSERT runs on `later`, which
holds what others have registered in between. -/
def AuthService.register (zxcvbn : String → List String → PasswordStrength)
    (hash : String → String → String) (users later : Users) (request : RegisterRequest)
    : Except Thrown String × Users :=
  let strength := zxcvbn request.password [request.email]
  if strength.score < minimumPasswordScore then
    (.error (.badRequest (strength.suggestions.head?.getD AuthErrorMessage.passwordTooWeak.text)),
      users)
  else
    match UserRepository.findByEmail users request.email with
    | some _ => (.ok registerSuccess, users)
    | none =>
        let passwordHash := hash request.salt request.password
        match UsersService.create later request.id request.now request.email passwordHash with
        | .ok later' => (.ok registerSuccess, later')
        | .error (.conflict _) => (.ok registerSuccess, later)
        | .error failed => (.error failed, later)

/-- The same table without the rows of an email. -/
def Users.without (users : Users) (email : String) : Users :=
  users.filter (fun user => user.email ≠ email)

/-- A login for the email does not find an active and unlocked account whose counter is at the
end of its range. -/
def NotExhausted (email : String) (users : Users) (request : LoginRequest) : Prop :=
  request.email = email →
    ∀ user ∈ UserRepository.findByEmail users email,
      user.isActive = true → user.isLocked request.testedAt = false →
        user.failedAttempts ≠ maxInt

instance (email : String) (users : Users) (request : LoginRequest)
    : Decidable (NotExhausted email users request) :=
  inferInstanceAs
    (Decidable
      (request.email = email →
        ∀ user ∈ UserRepository.findByEmail users email,
          user.isActive = true → user.isLocked request.testedAt = false →
            user.failedAttempts ≠ maxInt))

/-- None of the logins for the email carries its password. -/
def NoPassword (verify : String → String → Bool) (email : String) (users : Users)
    (requests : List LoginRequest)
    : Prop :=
  ∀ request ∈ requests, request.email = email →
    ∀ user ∈ users, user.email = email → verify user.passwordHash request.password = false

-----------------------------------------------------------------------------------------
-- The table
-----------------------------------------------------------------------------------------

section

variable {users : Users} {email : String} {userId : Uuid} {assign : UserRecord → UserRecord}

/-- What an UPDATE of the counter leaves alone. -/
structure KeepsAccount (assign : UserRecord → UserRecord) : Prop where
  id : ∀ user, (assign user).id = user.id
  email : ∀ user, (assign user).email = user.email
  passwordHash : ∀ user, (assign user).passwordHash = user.passwordHash

theorem keeps_increment (now : Time) : KeepsAccount (UserRecord.incrementFailedAttempts now) :=
  ⟨fun _ => rfl, fun _ => rfl, fun _ => rfl⟩

theorem keeps_reset : KeepsAccount UserRecord.resetFailedAttempts :=
  ⟨fun _ => rfl, fun _ => rfl, fun _ => rfl⟩

/-- Rows after an UPDATE are rows before it, up to the counter. -/
theorem mem_updateById (keeps : KeepsAccount assign) {user' : UserRecord}
    (member : user' ∈ UserRepository.updateById users userId assign)
    : ∃ user ∈ users, user'.email = user.email ∧ user'.passwordHash = user.passwordHash := by
  obtain ⟨user, known, image⟩ := List.mem_map.mp member
  refine ⟨user, known, ?_⟩
  split at image
  · rw [← image]
    exact ⟨keeps.email user, keeps.passwordHash user⟩
  · rw [← image]
    exact ⟨rfl, rfl⟩

/-- The UPDATE keeps the ids. -/
theorem updateById_ids (keeps : KeepsAccount assign)
    : (UserRepository.updateById users userId assign).map UserRecord.id
      = users.map UserRecord.id := by
  simp only [UserRepository.updateById, List.map_map]
  refine List.map_congr_left (fun user _ => ?_)
  simp only [Function.comp_apply]
  split
  · exact keeps.id user
  · rfl

/-- The UPDATE goes on in the table without an email as in the whole one. -/
theorem without_updateById (keeps : KeepsAccount assign)
    : Users.without (UserRepository.updateById users userId assign) email
      = UserRepository.updateById (Users.without users email) userId assign := by
  simp only [Users.without, UserRepository.updateById, List.filter_map]
  congr 1
  refine List.filter_congr (fun user _ => ?_)
  simp only [Function.comp_apply]
  split
  · rw [keeps.email]
  · rfl

/-- An UPDATE of a row of the email is not seen in the table without it. -/
theorem without_updateById_own (keys : (users.map UserRecord.id).Nodup)
    (keeps : KeepsAccount assign) {user : UserRecord} (known : user ∈ users)
    (owned : user.email = email)
    : Users.without (UserRepository.updateById users user.id assign) email
      = Users.without users email := by
  rw [without_updateById keeps, UserRepository.updateById]
  refine (List.map_congr_left (fun other member => ?_)).trans (List.map_id _)
  obtain ⟨member, different⟩ := List.mem_filter.mp member
  have apart : other.id ≠ user.id := by
    intro same
    have equal := List.inj_on_of_nodup_map keys member known same
    rw [equal, owned] at different
    simp at different
  simp [apart]

/-- Another email is found in the table without one as in the whole one. -/
theorem findByEmail_without (users : Users) {other : String} (different : other ≠ email)
    : UserRepository.findByEmail (Users.without users email) other
      = UserRepository.findByEmail users other := by
  simp only [UserRepository.findByEmail, Users.without, List.find?_filter]
  congr 1
  funext user
  by_cases found : user.email = other
  · simp [found, different]
  · simp [found]

/-- The email itself is not found in the table without it. -/
theorem findByEmail_without_self
    : UserRepository.findByEmail (Users.without users email) email = none := by
  refine List.find?_eq_none.mpr (fun user member found => ?_)
  have different := (List.mem_filter.mp member).2
  rw [of_decide_eq_true found] at different
  simp at different

/-- The row found has the email. -/
theorem findByEmail_some {user : UserRecord}
    (found : UserRepository.findByEmail users email = some user)
    : user ∈ users ∧ user.email = email := by
  have plain : users.find? (fun user => user.email = email) = some user := found
  have same := List.find?_some plain
  exact ⟨List.mem_of_find?_eq_some plain, of_decide_eq_true same⟩

/-- The counter of a row is at the end of its range or not, whatever other rows there are. -/
theorem exhausted_iff (keys : (users.map UserRecord.id).Nodup) {user : UserRecord}
    (known : user ∈ users)
    : users.any (fun other => other.id = user.id && other.failedAttempts = maxInt) = true
      ↔ user.failedAttempts = maxInt := by
  constructor
  · intro some
    obtain ⟨other, member, full⟩ := List.any_eq_true.mp some
    simp only [Bool.and_eq_true, decide_eq_true_eq] at full
    rw [← List.inj_on_of_nodup_map keys member known full.1]
    exact full.2
  · intro full
    exact List.any_eq_true.mpr ⟨user, known, by simp [full]⟩

end

-----------------------------------------------------------------------------------------
-- One request
-----------------------------------------------------------------------------------------

section

variable {verify : String → String → Bool} {users : Users} {email : String}
  {request : LoginRequest}

/-- A login only changes counters. -/
theorem login_keeps (verify : String → String → Bool) (users : Users)
    (request : LoginRequest)
    : (AuthService.login verify users request).2 = users
      ∨ ∃ userId assign,
          KeepsAccount assign
          ∧ (AuthService.login verify users request).2
            = UserRepository.updateById users userId assign := by
  simp only [AuthService.login]
  split
  · exact Or.inl rfl
  · rename_i userId _
    simp only [UserRepository.incrementFailedAttempts]
    split
    · exact Or.inl rfl
    · rename_i users' incremented
      split at incremented
      · cases incremented
      · cases incremented
        exact Or.inr ⟨userId, _, keeps_increment request.updatedAt, rfl⟩
  · rename_i userId _
    exact Or.inr ⟨userId, _, keeps_reset, rfl⟩

/-- So the ids stay unique. -/
theorem login_ids (keys : (users.map UserRecord.id).Nodup)
    : ((AuthService.login verify users request).2.map UserRecord.id).Nodup := by
  rcases login_keeps verify users request with same | update
  · rw [same]
    exact keys
  · obtain ⟨userId, assign, keeps, same⟩ := update
    rw [same, updateById_ids keeps]
    exact keys

/-- And no later login carries the password of the email. -/
theorem NoPassword.login {rest : List LoginRequest}
    (without : NoPassword verify email users (request :: rest))
    : NoPassword verify email (AuthService.login verify users request).2 rest := by
  intro later member same user' member' owned
  have laterIn : later ∈ request :: rest := List.mem_cons_of_mem _ member
  rcases login_keeps verify users request with kept | update
  · rw [kept] at member'
    exact without later laterIn same user' member' owned
  · obtain ⟨userId, assign, keeps, updated⟩ := update
    rw [updated] at member'
    obtain ⟨user, known, sameEmail, sameHash⟩ := mem_updateById keeps member'
    rw [sameHash]
    exact without later laterIn same user known (sameEmail.symm.trans owned)

/-- The login that has found a row, by what it decides on it. -/
theorem login_found {user : UserRecord}
    (found : UserRepository.findByEmail users request.email = some user)
    : AuthService.login verify users request
      = match AuthService.judge request.testedAt (some user)
            (verify user.passwordHash request.password) with
        | .deny => (.error (.unauthorized AuthErrorMessage.invalidCredentials.text), users)
        | .increment userId =>
            match UserRepository.incrementFailedAttempts users request.updatedAt userId with
            | .error failed => (.error failed, users)
            | .ok users' =>
                (.error (.unauthorized AuthErrorMessage.invalidCredentials.text), users')
        | .accept userId =>
            (.ok ⟨⟨userId, request.sessionId⟩, request.rawRefreshToken, request.csrfToken⟩,
              UserRepository.resetFailedAttempts users userId) := by
  simp only [AuthService.login, found]
  rfl

/-- The login that has found no row. -/
theorem login_unknown (absent : UserRepository.findByEmail users request.email = none)
    : AuthService.login verify users request
      = (.error (.unauthorized AuthErrorMessage.invalidCredentials.text), users) := by
  simp only [AuthService.login, absent]
  rfl

/-- The UPDATE of a known row fails only at the end of the range of its counter. -/
theorem incrementFailedAttempts_known (keys : (users.map UserRecord.id).Nodup)
    {user : UserRecord} (known : user ∈ users) (now : Time)
    : UserRepository.incrementFailedAttempts users now user.id
      = if user.failedAttempts = maxInt then
          .error .numericValueOutOfRange
        else
          .ok (UserRepository.updateById users user.id
            (UserRecord.incrementFailedAttempts now)) := by
  simp only [UserRepository.incrementFailedAttempts, exhausted_iff keys known]

/-- A login for another email goes on alike in both tables. -/
theorem login_other (keys : (users.map UserRecord.id).Nodup)
    (different : request.email ≠ email)
    : AuthService.login verify (Users.without users email) request
      = ((AuthService.login verify users request).1,
          Users.without (AuthService.login verify users request).2 email) := by
  have alike := findByEmail_without users different
  cases found : UserRepository.findByEmail users request.email with
  | none => rw [login_unknown found, login_unknown (alike.trans found)]
  | some user =>
      obtain ⟨known, owned⟩ := findByEmail_some found
      have kept : user ∈ Users.without users email :=
        List.mem_filter.mpr ⟨known, by simp [owned, different]⟩
      have keys' : ((Users.without users email).map UserRecord.id).Nodup :=
        (List.filter_sublist.map _).nodup keys
      rw [login_found found, login_found (alike.trans found)]
      rcases AuthService.judge_some request.testedAt user
          (verify user.passwordHash request.password) with deny | increment | accept
      · rw [deny.1]
      · rw [increment.1]
        dsimp only
        rw [incrementFailedAttempts_known keys known, incrementFailedAttempts_known keys' kept]
        by_cases full : user.failedAttempts = maxInt
        · rw [if_pos full, if_pos full]
        · rw [if_neg full, if_neg full]
          simp only [without_updateById (keeps_increment request.updatedAt)]
      · rw [accept.1]
        simp only [UserRepository.resetFailedAttempts, without_updateById keeps_reset]

/-- A login for the email with a wrong password changes nothing outside its rows, and is
answered like one for an unknown email unless its counter is exhausted. -/
theorem login_own (keys : (users.map UserRecord.id).Nodup)
    (without
      : ∀ user ∈ users, user.email = email →
          verify user.passwordHash request.password = false)
    (same : request.email = email)
    : (AuthService.login verify (Users.without users email) request).2
        = Users.without (AuthService.login verify users request).2 email
      ∧ (respond (AuthService.login verify (Users.without users email) request).1
          = respond (AuthService.login verify users request).1
        ↔ NotExhausted email users request) := by
  subst same
  rw [login_unknown findByEmail_without_self]
  cases found : UserRepository.findByEmail users request.email with
  | none =>
      rw [login_unknown found]
      refine ⟨rfl, iff_of_true rfl (fun _ user named => ?_)⟩
      rw [found] at named
      cases named
  | some user =>
      obtain ⟨known, owned⟩ := findByEmail_some found
      have wrong := without user known owned
      rw [login_found found]
      rcases AuthService.judge_some request.testedAt user
          (verify user.passwordHash request.password) with deny | increment | accept
      · rw [deny.1]
        refine ⟨rfl, iff_of_true rfl (fun _ other named active unlocked => ?_)⟩
        cases Option.some.inj (found.symm.trans named)
        rw [deny.2 wrong active] at unlocked
        cases unlocked
      · rw [increment.1]
        dsimp only
        rw [incrementFailedAttempts_known keys known]
        obtain ⟨_, _, active, unlocked⟩ := increment
        by_cases full : user.failedAttempts = maxInt
        · rw [if_pos full]
          refine ⟨rfl, iff_of_false (fun equal => ?_) (fun spared => ?_)⟩
          · -- 401 on the one side, 500 on the other
            have status : (401 : Nat) = 500 :=
              congrArg ErrorResponse.statusCode (Except.error.inj equal)
            exact absurd status (by decide)
          · exact spared rfl user found active unlocked full
        · rw [if_neg full]
          refine ⟨(without_updateById_own keys (keeps_increment _) known owned).symm,
            iff_of_true rfl (fun _ other named _ _ => ?_)⟩
          cases Option.some.inj (found.symm.trans named)
          exact full
      · rw [wrong] at accept
        cases accept.2

end

-----------------------------------------------------------------------------------------
-- Any sequence of requests
-----------------------------------------------------------------------------------------

section

variable {verify : String → String → Bool} {email : String}

/-- The tables stay the same up to the email, and the responses are the same exactly while its
counter is not exhausted, by induction on the logins. -/
theorem responses_without (initial users : Users) (requests : List LoginRequest)
    (keys : (users.map UserRecord.id).Nodup)
    (without : NoPassword verify email users requests)
    : usersAfter verify (Users.without users email) requests
        = Users.without (usersAfter verify users requests) email
      ∧ (responses verify (Users.without users email) requests
          = responses verify users requests
        ↔ (loginSequence verify initial).Along (NotExhausted email) users requests) := by
  induction requests generalizing users with
  | nil => exact ⟨rfl, iff_of_true rfl trivial⟩
  | cons request rest ih =>
      have later := ih (AuthService.login verify users request).2 (login_ids keys) without.login
      have step
          : (AuthService.login verify (Users.without users email) request).2
              = Users.without (AuthService.login verify users request).2 email
            ∧ (respond (AuthService.login verify (Users.without users email) request).1
                = respond (AuthService.login verify users request).1
              ↔ NotExhausted email users request) := by
        by_cases same : request.email = email
        · exact login_own keys (without request List.mem_cons_self same) same
        · rw [login_other keys same]
          exact ⟨rfl, iff_of_true rfl (fun owned => absurd owned same)⟩
      obtain ⟨table, response⟩ := step
      constructor
      · simp only [usersAfter, List.foldl_cons] at later ⊢
        rw [table]
        exact later.1
      · simp only [responses, List.cons.injEq, table, response, later.2]
        constructor
        · intro both
          refine ⟨both.1, fun next taken => ?_⟩
          cases taken
          exact both.2
        · intro along
          exact ⟨along.1, along.2 _ rfl⟩

/-- Whatever stops the INSERT is a conflict. -/
theorem create_cases (users : Users) (id : Uuid) (now : Time) (email passwordHash : String)
    : (∃ users', UsersService.create users id now email passwordHash = .ok users')
      ∨ UsersService.create users id now email passwordHash
        = .error (.conflict "duplicate") := by
  unfold UsersService.create UserRepository.create
  by_cases taken : users.any (fun user => user.id = id || user.email = email) = true
  · exact Or.inr (by rw [if_pos taken])
  · exact Or.inl ⟨_, by rw [if_neg taken]⟩

/-- A registration is answered by its password alone. A duplicate that the INSERT meets is
answered like one found before, and like none. -/
theorem register_response {zxcvbn : String → List String → PasswordStrength}
    {hash : String → String → String} (users later : Users) (request : RegisterRequest)
    : (AuthService.register zxcvbn hash users later request).1
      = if (zxcvbn request.password [request.email]).score < minimumPasswordScore then
          .error
            (.badRequest
              ((zxcvbn request.password [request.email]).suggestions.head?.getD
                AuthErrorMessage.passwordTooWeak.text))
        else
          .ok registerSuccess := by
  simp only [AuthService.register]
  split
  · rfl
  · cases UserRepository.findByEmail users request.email with
    | some user => rfl
    | none =>
        rcases create_cases later request.id request.now request.email
            (hash request.salt request.password) with ⟨later', inserted⟩ | duplicate
        · rw [inserted]
        · rw [duplicate]

end

/-- Account enumeration resistance. Take any table and the same one without an email. Over any
sequence of logins none of which carries the password of the email, the responses are the same
exactly if no login for the email with the wrong password finds it active, unlocked and with a
counter at the end of its range. After any such sequence a registration of the email is
answered alike, whatever others have registered before its INSERT.
-/
theorem enumeration_resistant (verify : String → String → Bool)
    (zxcvbn : String → List String → PasswordStrength) (hash : String → String → String)
    (email : String) (users : Users) (requests : List LoginRequest)
    (keys : (users.map UserRecord.id).Nodup)
    (without : NoPassword verify email users requests)
    : (responses verify (Users.without users email) requests = responses verify users requests
        ↔ (loginSequence verify users).Along (NotExhausted email) users requests)
      ∧ ∀ (later later' : Users) (request : RegisterRequest),
          request.email = email →
            respond
                (AuthService.register zxcvbn hash
                  (usersAfter verify (Users.without users email) requests) later request).1
              = respond
                  (AuthService.register zxcvbn hash (usersAfter verify users requests) later'
                    request).1 := by
  refine ⟨(responses_without users users requests keys without).2, ?_⟩
  intro later later' request _
  rw [register_response, register_response]

/-- `argon2.verify` of a scheme that stores passwords as they are. -/
def verifyStored (passwordHash password : String) : Bool := passwordHash = password

/-- An account that has failed so often, and another one. -/
def usersWithAttempts (failedAttempts : Nat) : Users := [
  ⟨1, "alice@example.com", "rabbit", false, failedAttempts, none, true, 0, 0⟩,
  ⟨2, "bob@example.com", "builder", false, 0, none, true, 0, 0⟩
]

/-- A login at one time. -/
def loginOf (email password : String) (now : Time) : LoginRequest :=
  ⟨email, password, now, now, 100, 200, 300⟩

/-- A guess that locks the account, one on the locked account, and a login of somebody else. -/
def guesses : List LoginRequest := [
  loginOf "alice@example.com" "hole" 10,
  loginOf "alice@example.com" "tea" 11,
  loginOf "bob@example.com" "builder" 12
]

theorem enumeration_resistant_locked
    : responses verifyStored (Users.without (usersWithAttempts 4) "alice@example.com") guesses
        = responses verifyStored (usersWithAttempts 4) guesses
      ∧ (usersAfter verifyStored (usersWithAttempts 4) guesses).map UserRecord.lockedUntil
        = [some (10 + lockout), none] := by
  have keys : ((usersWithAttempts 4).map UserRecord.id).Nodup := by decide
  have without : NoPassword verifyStored "alice@example.com" (usersWithAttempts 4) guesses := by
    unfold NoPassword
    decide
  have resistant
      := enumeration_resistant verifyStored (fun _ _ => ⟨4, []⟩) (fun _ password => password)
          "alice@example.com" (usersWithAttempts 4) guesses keys without
  exact ⟨resistant.1.mpr (by decide), by decide⟩

/-- Otherwise a wrong password tells whether the email is registered. -/
theorem enumeration_by_overflow
    : NoPassword verifyStored "alice@example.com" (usersWithAttempts maxInt)
        [loginOf "alice@example.com" "hole" 10]
      ∧ responses verifyStored (Users.without (usersWithAttempts maxInt) "alice@example.com")
          [loginOf "alice@example.com" "hole" 10]
        = [.error ⟨401, "Invalid email or password."⟩]
      ∧ responses verifyStored (usersWithAttempts maxInt)
          [loginOf "alice@example.com" "hole" 10]
        = [.error ⟨500, "An unexpected error occurred. Please try again later."⟩]
      ∧ responses verifyStored (Users.without (usersWithAttempts maxInt) "alice@example.com")
          [loginOf "alice@example.com" "hole" 10]
        ≠ responses verifyStored (usersWithAttempts maxInt)
            [loginOf "alice@example.com" "hole" 10] := by
  have without
      : responses verifyStored (Users.without (usersWithAttempts maxInt) "alice@example.com")
          [loginOf "alice@example.com" "hole" 10]
        = [.error ⟨401, "Invalid email or password."⟩] := by
    rfl
  have present
      : responses verifyStored (usersWithAttempts maxInt)
          [loginOf "alice@example.com" "hole" 10]
        = [.error ⟨500, "An unexpected error occurred. Please try again later."⟩] := by
    rfl
  refine ⟨?_, without, present, ?_⟩
  · unfold NoPassword
    decide
  · rw [without, present]
    simp

end NexusComms.Accounts
