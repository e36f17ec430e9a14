import NexusComms.Basic

/-! The `users` table: its rows, the statements of `UserRepository`, and what `UsersService` and
`AuthService.login` decide from a row.
-/

namespace NexusComms.Accounts

/-- `LockoutPolicy.MAX_FAILED_ATTEMPTS`. -/
def maxFailedAttempts : Nat := 5

/-- `LockoutPolicy.LOCKOUT_MINUTES`. -/
def lockoutMinutes : Nat := 15

/-- `($3 || ' minutes')::INTERVAL`, in microseconds. -/
def lockout : Time := lockoutMinutes * 60 * 1000000

/-- The greatest value of a column of type INT. -/
def maxInt : Nat := 2147483647

structure UserRecord where
  id : Uuid
  email : String
  passwordHash : String
  mfaEnabled : Bool
  failedAttempts : Nat
  lockedUntil : Option Time
  isActive : Bool
  createdAt : Time
  updatedAt : Time
deriving DecidableEq, Repr

namespace UserRecord

/-- The row that `UserRepository.create` inserts, with the defaults of the table. -/
def create (id : Uuid) (now : Time) (email passwordHash : String) : UserRecord :=
  ⟨id, email, passwordHash, false, 0, none, true, now, now⟩

/-- `SET failed_attempts = failed_attempts + 1, locked_until = CASE ... END`. -/
def incrementFailedAttempts (now : Time) (user : UserRecord) : UserRecord :=
  {
    user with
    failedAttempts := user.failedAttempts + 1
    lockedUntil :=
      if maxFailedAttempts ≤ user.failedAttempts + 1 then
        some (now + lockout)
      else
        user.lockedUntil
  }

/-- `SET failed_attempts = 0, locked_until = NULL`. -/
def resetFailedAttempts (user : UserRecord) : UserRecord :=
  { user with failedAttempts := 0, lockedUntil := none }

/-- `UsersService.isLocked`. The code compares whole milliseconds, and `locked_until` comes with
its microseconds cut off; the model keeps them.
-/
def isLocked (now : Time) (user : UserRecord) : Bool :=
  match user.lockedUntil with
  | none => false
  | some lockedUntil => decide (now < lockedUntil)

end UserRecord

/-- `AuthErrorMessage`, as far as login and registration use it. -/
inductive AuthErrorMessage where
  | invalidCredentials
  | passwordTooWeak
  | unexpectedError
deriving DecidableEq, Repr

def AuthErrorMessage.text : AuthErrorMessage → String
  | .invalidCredentials => "Invalid email or password."
  | .passwordTooWeak => "Password is too weak. Use a mix of letters, numbers, and symbols."
  | .unexpectedError => "An unexpected error occurred. Please try again later."

/-- `RegisterMessage.SUCCESS`. -/
def registerSuccess : String := "If this email is new, your account has been created."

/-- What the code throws: an exception with its status and message, or an error of PostgreSQL
with its code. -/
inductive Thrown where
  | badRequest (message : String)
  | unauthorized (message : String)
  | conflict (message : String)
  | uniqueViolation
  | numericValueOutOfRange
deriving DecidableEq, Repr

/-- The status and message that `GlobalExceptionFilter.catch` sends. -/
structure ErrorResponse where
  statusCode : Nat
  message : String
deriving DecidableEq, Repr

/-- `GlobalExceptionFilter.catch`: errors that are no HTTP exceptions are not shown. -/
def GlobalExceptionFilter.catch : Thrown → ErrorResponse
  | .badRequest message => ⟨400, message⟩
  | .unauthorized message => ⟨401, message⟩
  | .conflict message => ⟨409, message⟩
  | .uniqueViolation => ⟨500, AuthErrorMessage.unexpectedError.text⟩
  | .numericValueOutOfRange => ⟨500, AuthErrorMessage.unexpectedError.text⟩

/-- The rows of `users` in insertion order. -/
abbrev Users := List UserRecord

namespace UserRepository

def findByEmail (users : Users) (email : String) : Option UserRecord :=
  users.find? (fun user => user.email = email)

/-- `UPDATE users SET ... WHERE id = $1`. -/
def updateById (users : Users) (userId : Uuid) (assign : UserRecord → UserRecord) : Users :=
  users.map (fun user => if user.id = userId then assign user else user)

/-- The INSERT fails on a duplicate id as on a duplicate email. -/
def create (users : Users) (id : Uuid) (now : Time) (email passwordHash : String)
    : Except Thrown Users :=
  if users.any (fun user => user.id = id || user.email = email) then
    .error .uniqueViolation
  else
    .ok (users ++ [.create id now email passwordHash])

/-- The UPDATE fails when the counter is at the end of its range. -/
def incrementFailedAttempts (users : Users) (now : Time) (userId : Uuid)
    : Except Thrown Users :=
  if users.any (fun user => user.id = userId && user.failedAttempts = maxInt) then
    .error .numericValueOutOfRange
  else
    .ok (updateById users userId (UserRecord.incrementFailedAttempts now))

def resetFailedAttempts (users : Users) (userId : Uuid) : Users :=
  updateById users userId UserRecord.resetFailedAttempts

end UserRepository

/-- `UsersService.create`: a unique violation becomes a conflict. -/
def UsersService.create (users : Users) (id : Uuid) (now : Time) (email passwordHash : String)
    : Except Thrown Users :=
  match UserRepository.create users id now email passwordHash with
  | .error .uniqueViolation => .error (.conflict "duplicate")
  | other => other

/-- The INSERT goes through for a new id with a new email, and adds the row at the end. -/
theorem UserRepository.create_ok {users created : Users} {id : Uuid} {now : Time}
    {email passwordHash : String}
    (new : UserRepository.create users id now email passwordHash = .ok created)
    : (∀ user ∈ users, user.id ≠ id ∧ user.email ≠ email)
      ∧ created = users ++ [.create id now email passwordHash] := by
  unfold UserRepository.create at new
  split at new
  · cases new
  · rename_i fresh
    refine ⟨fun user member => ?_, (Except.ok.inj new).symm⟩
    have differs := fun taken => fresh (List.any_eq_true.mpr ⟨user, member, taken⟩)
    simpa using differs

theorem UsersService.create_ok {users created : Users} {id : Uuid} {now : Time}
    {email passwordHash : String}
    (new : UsersService.create users id now email passwordHash = .ok created)
    : UserRepository.create users id now email passwordHash = .ok created := by
  unfold UsersService.create at new
  split at new
  · cases new
  · exact new

/-- A new row keeps apart what it does not share with another one. -/
theorem nodup_concat {β : Type} {users : Users} {row : UserRecord} (column : UserRecord → β)
    (keys : (users.map column).Nodup) (apart : ∀ user ∈ users, column user ≠ column row)
    : ((users ++ [row]).map column).Nodup := by
  simp only [List.map_append, List.map_cons, List.map_nil]
  refine List.nodup_append.mpr ⟨keys, by simp, fun left member right own => ?_⟩
  obtain ⟨user, known, rfl⟩ := List.mem_map.mp member
  rw [List.mem_singleton.mp own]
  exact apart user known

/-- A new row keeps the ids apart. -/
theorem UserRepository.create_keys {users created : Users} {id : Uuid} {now : Time}
    {email passwordHash : String}
    (new : UserRepository.create users id now email passwordHash = .ok created)
    (keys : (users.map UserRecord.id).Nodup)
    : (created.map UserRecord.id).Nodup := by
  obtain ⟨apart, rfl⟩ := UserRepository.create_ok new
  exact nodup_concat UserRecord.id keys (fun user known => (apart user known).1)

/-- What `AuthService.login` goes on to do once it has verified the password. -/
inductive Verdict where
  | deny
  | increment (userId : Uuid)
  | accept (userId : Uuid)
deriving DecidableEq, Repr

/-- The decision of `AuthService.login` on the row that it has read, where `now` is the time
at which `isLocked` runs. -/
def AuthService.judge (now : Time) (user : Option UserRecord) (passwordValid : Bool)
    : Verdict :=
  match user with
  | none => .deny
  | some user =>
      if passwordValid = false ∨ user.isActive = false then
        if user.isActive = false then
          .deny
        else if user.isLocked now = false then
          .increment user.id
        else
          .deny
      else if user.isLocked now then
        .deny
      else
        .accept user.id

/-- The login goes on for the row that it has read, if that is active. -/
theorem AuthService.judge_accept {now : Time} {user : Option UserRecord}
    {passwordValid : Bool} {userId : Uuid}
    (accepted : AuthService.judge now user passwordValid = .accept userId)
    : ∃ row, user = some row ∧ row.id = userId ∧ row.isActive = true := by
  cases user with
  | none => cases accepted
  | some row =>
      cases active : row.isActive with
      | true =>
          refine ⟨row, rfl, ?_, active⟩
          rw [AuthService.judge] at accepted
          split at accepted
          · split at accepted
            · cases accepted
            · split at accepted
              · cases accepted
              · cases accepted
          · split at accepted
            · cases accepted
            · exact Verdict.accept.inj accepted
      | false => simp [AuthService.judge, active] at accepted

/-- The decision on a row: whoever is not denied names the row, and a wrong password is counted
exactly if the account is active and not locked. -/
theorem AuthService.judge_some (now : Time) (user : UserRecord) (passwordValid : Bool)
    : (AuthService.judge now (some user) passwordValid = .deny
        ∧ (passwordValid = false → user.isActive = true → user.isLocked now = true))
      ∨ (AuthService.judge now (some user) passwordValid = .increment user.id
        ∧ passwordValid = false ∧ user.isActive = true ∧ user.isLocked now = false)
      ∨ (AuthService.judge now (some user) passwordValid = .accept user.id
        ∧ passwordValid = true) := by
  unfold AuthService.judge
  cases passwordValid with
  | true =>
      cases active : user.isActive with
      | true =>
          cases locked : user.isLocked now with
          | true => exact Or.inl ⟨by simp [active, locked], by simp⟩
          | false => exact Or.inr (Or.inr ⟨by simp [active, locked], rfl⟩)
      | false => exact Or.inl ⟨by simp [active], by simp⟩
  | false =>
      cases active : user.isActive with
      | true =>
          cases locked : user.isLocked now with
          | true => exact Or.inl ⟨by simp [active, locked], fun _ _ => rfl⟩
          | false => exact Or.inr (Or.inl ⟨by simp [active, locked], rfl, rfl, rfl⟩)
      | false => exact Or.inl ⟨by simp [active], by simp⟩

end NexusComms.Accounts
