import NexusComms.Accounts.Enumeration
import NexusComms.Accounts.Lockout
import NexusComms.Concurrency.Spacing

/-! Logins one after the other, and what they make of the lock of one account. The counter
goes on after a lock has run out, so from the limit on every wrong password that is looked at
locks the account again.
-/

namespace NexusComms.Accounts

open Concurrency Program
open Sessions (AuthTokens)

/-- A login to the account that has run to its end: the row of the account before and after
it, and whether it has returned tokens. -/
structure Trial where
  request : LoginRequest
  before : Option UserRecord
  after : Option UserRecord
  succeeded : Bool
deriving DecidableEq, Repr

namespace Trial

/-- The password is the one of the account. -/
def passwordValid (verify : String → String → Bool) (trial : Trial) : Bool :=
  trial.before.any (fun user => verify user.passwordHash trial.request.password)

/-- The account was locked when the login looked at it. -/
def locked (trial : Trial) : Bool :=
  trial.before.any (fun user => user.isLocked trial.request.testedAt)

end Trial

/-- The table, the clock, and the logins to the account so far, newest first. -/
structure Ledger where
  users : Users
  clock : Time
  trials : List Trial
deriving DecidableEq, Repr

section

variable (verify : String → String → Bool) (email : String)

/-- What a login is for the account with that email. -/
def trialOf (users : Users) (request : LoginRequest) : Trial :=
  let (result, users') := AuthService.login verify users request
  ⟨request, UserRepository.findByEmail users email, UserRepository.findByEmail users' email,
    result.isOk⟩

/-- Logins to the account and to others, one after the other. Time never runs backwards. -/
def lockoutAutomaton (users : Users) (createdAt : Time) : Machine Ledger LoginRequest where
  init := ⟨users, createdAt, []⟩
  step ledger request :=
    if ledger.clock ≤ request.testedAt ∧ request.testedAt ≤ request.updatedAt then
      some
        {
          users := (AuthService.login verify ledger.users request).2
          clock := request.updatedAt
          trials :=
            if request.email = email then
              trialOf verify email ledger.users request :: ledger.trials
            else
              ledger.trials
        }
    else
      none

/-- The times of the wrong passwords since the last success that were given while the account
was not locked, newest first. -/
def counted : List Trial → List Time
  | [] => []
  | trial :: earlier =>
      if trial.succeeded then
        []
      else if trial.passwordValid verify = false ∧ trial.locked = false then
        trial.request.updatedAt :: counted earlier
      else
        counted earlier

/-- The row agrees with the logins so far: the counter is the number of the counted ones, and
from the limit on the lock runs out `LOCKOUT_MINUTES` after the last of them. -/
structure Counting (user : UserRecord) (times : List Time) : Prop where
  attempts : user.failedAttempts = times.length
  lock
    : user.lockedUntil
      = if times.length < maxFailedAttempts then
          none
        else
          times.head?.map (fun last => last + lockout)

/-- The lockout of the account with that email. -/
structure Automaton (ledger : Ledger) : Prop where
  row
    : ∃ user,
        UserRepository.findByEmail ledger.users email = some user
        ∧ Counting user (counted verify ledger.trials)
  windows
    : ∀ start,
        (within start lockout (counted verify ledger.trials)).length ≤ maxFailedAttempts
  frozen : ∀ trial ∈ ledger.trials, trial.locked = true → trial.after = trial.before
  succeeds
    : ∀ trial ∈ ledger.trials,
        trial.succeeded = true ↔ trial.passwordValid verify = true ∧ trial.locked = false

/-- What the logins so far leave behind as long as the counter has not reached its end. -/
structure Recorded (user : UserRecord) (clock : Time) (times : List Time) : Prop where
  counting : Counting user times
  spaced : Spaced maxFailedAttempts lockout times
  past : ∀ last ∈ times.head?, last ≤ clock

/-- What holds between two logins. -/
structure Audited (ledger : Ledger) : Prop where
  keys : (ledger.users.map UserRecord.id).Nodup
  row
    : ∃ user,
        UserRepository.findByEmail ledger.users email = some user
        ∧ user.isActive = true
        ∧ user.failedAttempts ≤ maxInt
        ∧ ((counted verify ledger.trials).length ≤ maxInt →
            Recorded user ledger.clock (counted verify ledger.trials))
  frozen : ∀ trial ∈ ledger.trials, trial.locked = true → trial.after = trial.before
  succeeds
    : ∀ trial ∈ ledger.trials,
        trial.succeeded = true ↔ trial.passwordValid verify = true ∧ trial.locked = false

end

-----------------------------------------------------------------------------------------
-- The row of one account
-----------------------------------------------------------------------------------------

section

variable {verify : String → String → Bool} {email : String} {users : Users}
  {request : LoginRequest} {user : UserRecord}

/-- The decision on an active account. -/
theorem AuthService.judge_active (now : Time) (active : user.isActive = true)
    (passwordValid : Bool)
    : AuthService.judge now (some user) passwordValid
      = if user.isLocked now then
          .deny
        else if passwordValid then
          .accept user.id
        else
          .increment user.id := by
  unfold AuthService.judge
  cases passwordValid with
  | true => simp [active]
  | false =>
      cases locked : user.isLocked now with
      | true => simp [active, locked]
      | false => simp [active, locked]

/-- The UPDATE of a counter is found under the email. -/
theorem findByEmail_updateById {userId : Uuid} {assign : UserRecord → UserRecord}
    (keeps : KeepsAccount assign)
    : UserRepository.findByEmail (UserRepository.updateById users userId assign) email
      = (UserRepository.findByEmail users email).map
          (fun user => if user.id = userId then assign user else user) := by
  have alike
      : ((fun user : UserRecord => decide (user.email = email))
          ∘ fun user => if user.id = userId then assign user else user)
        = fun user => decide (user.email = email) := by
    funext user
    simp only [Function.comp_apply]
    split
    · rw [keeps.email]
    · rfl
  simp only [UserRepository.findByEmail, UserRepository.updateById, List.find?_map, alike]

/-- A login to the active account, by whether it is locked and whether the password is right. -/
theorem login_active (verify : String → String → Bool)
    (keys : (users.map UserRecord.id).Nodup)
    (found : UserRepository.findByEmail users request.email = some user)
    (active : user.isActive = true)
    : AuthService.login verify users request
      = if user.isLocked request.testedAt then
          (.error (.unauthorized AuthErrorMessage.invalidCredentials.text), users)
        else if verify user.passwordHash request.password then
          (.ok ⟨⟨user.id, request.sessionId⟩, request.rawRefreshToken, request.csrfToken⟩,
            UserRepository.resetFailedAttempts users user.id)
        else if user.failedAttempts = maxInt then
          (.error .numericValueOutOfRange, users)
        else
          (.error (.unauthorized AuthErrorMessage.invalidCredentials.text),
            UserRepository.updateById users user.id
              (UserRecord.incrementFailedAttempts request.updatedAt)) := by
  have known := (findByEmail_some found).1
  have updated := incrementFailedAttempts_known keys known request.updatedAt
  rw [login_found found, AuthService.judge_active request.testedAt active]
  cases user.isLocked request.testedAt with
  | true => rfl
  | false =>
      cases verify user.passwordHash request.password with
      | true => rfl
      | false =>
          by_cases full : user.failedAttempts = maxInt
          · simp [updated, full]
          · simp [updated, full]

/-- A login to another account leaves the row alone. -/
theorem login_elsewhere (verify : String → String → Bool)
    (keys : (users.map UserRecord.id).Nodup)
    (found : UserRepository.findByEmail users email = some user)
    (different : request.email ≠ email)
    : UserRepository.findByEmail (AuthService.login verify users request).2 email
      = some user := by
  obtain ⟨known, owned⟩ := findByEmail_some found
  have stays {other : UserRecord} {assign : UserRecord → UserRecord}
      (there : UserRepository.findByEmail users request.email = some other)
      (keeps : KeepsAccount assign)
      : UserRepository.findByEmail (UserRepository.updateById users other.id assign) email
        = some user := by
    obtain ⟨knownOther, ownedOther⟩ := findByEmail_some there
    have apart : user.id ≠ other.id := by
      intro same
      have equal := List.inj_on_of_nodup_map keys known knownOther same
      exact different (ownedOther.symm.trans (equal ▸ owned))
    rw [findByEmail_updateById keeps, found]
    simp [apart]
  cases there : UserRepository.findByEmail users request.email with
  | none =>
      rw [login_unknown there]
      exact found
  | some other =>
      rw [login_found there]
      rcases AuthService.judge_some request.testedAt other
          (verify other.passwordHash request.password) with deny | increment | accept
      · rw [deny.1]
        exact found
      · rw [increment.1]
        dsimp only
        rw [incrementFailedAttempts_known keys (findByEmail_some there).1]
        by_cases full : other.failedAttempts = maxInt
        · rw [if_pos full]
          exact found
        · rw [if_neg full]
          exact stays there (keeps_increment request.updatedAt)
      · rw [accept.1]
        exact stays there keeps_reset

end

/-- Where a login that has run to its end stands. -/
def LoginStage.ended : Except Thrown AuthTokens → LoginStage
  | .ok _ => .returned
  | .error error => .threw error

/-- A login whose statements run one after the other, with no other login in between, does to
the row and returns what `AuthService.login` does and returns. -/
theorem login_alone {account : Account} (keys : (users.map UserRecord.id).Nodup)
    (found : UserRepository.findByEmail users request.email = some account.user)
    (active : account.user.isActive = true) (tested : account.clock ≤ request.testedAt)
    (updated : request.testedAt ≤ request.updatedAt) (index : Nat)
    : ∃ times account',
        (loginProgram verify).alone index account ⟨request.password, .findByEmail⟩ times
          = some (account',
              ⟨request.password, .ended (AuthService.login verify users request).1⟩)
        ∧ UserRepository.findByEmail (AuthService.login verify users request).2 request.email
          = some account'.user := by
  have login := login_active verify keys found active
  have judge := AuthService.judge_active request.testedAt active
  have assigned {assign : UserRecord → UserRecord} (keeps : KeepsAccount assign)
      : UserRepository.findByEmail (UserRepository.updateById users account.user.id assign)
          request.email
        = some (assign account.user) := by
    rw [findByEmail_updateById keeps, found, Option.map_some, if_pos rfl]
  let tested' : Account := { account with clock := request.testedAt }
  let valid := verify account.user.passwordHash request.password
  -- the row is read and the password verified at the time of the test
  have begins (rest : List Time)
      : ∃ wrong,
          (loginProgram verify).alone index account ⟨request.password, .findByEmail⟩
              (request.testedAt :: request.testedAt :: rest)
            = (loginProgram verify).alone index { tested' with wrong := wrong }
                ⟨request.password, .judge account.user valid⟩ rest := by
    have read
        : (loginProgram verify).step index request.testedAt account
              ⟨request.password, .findByEmail⟩
          = some (tested', ⟨request.password, .verify account.user⟩) := by
      simp [loginProgram, AuthService.loginStep, tested, tested']
    rw [alone_cons _ _ read]
    by_cases counts : valid = false ∧ account.user.lockedUntil = none
    · refine ⟨account.wrong + 1, alone_cons _ _ ?_⟩
      simp [loginProgram, AuthService.loginStep, tested', valid, counts]
    · refine ⟨account.wrong, alone_cons _ _ ?_⟩
      simp [loginProgram, AuthService.loginStep, tested', valid, counts]
  rw [login]
  cases locked : account.user.isLocked request.testedAt with
  | true =>
      obtain ⟨wrong, begun⟩ := begins [request.testedAt]
      refine ⟨_, { tested' with wrong := wrong }, begun.trans ?_, found⟩
      simp [alone, loginProgram, AuthService.loginStep, judge, locked, tested', LoginStage.ended]
  | false =>
      cases right : verify account.user.passwordHash request.password with
      | true =>
          obtain ⟨wrong, begun⟩ :=
            begins (request.testedAt :: List.replicate 4 request.updatedAt)
          refine ⟨_,
            ⟨account.user.resetFailedAttempts, request.updatedAt, 0⟩,
            begun.trans ?_, assigned keeps_reset⟩
          simp [alone, loginProgram, AuthService.loginStep, judge, locked, right, valid, tested',
            LoginStage.ended, updated]
      | false =>
          obtain ⟨wrong, begun⟩ := begins [request.testedAt, request.updatedAt]
          by_cases full : account.user.failedAttempts = maxInt
          · refine ⟨_, ⟨account.user, request.updatedAt, wrong⟩, begun.trans ?_, ?_⟩
            · simp [alone, loginProgram, AuthService.loginStep, judge, locked, right, valid,
                tested', LoginStage.ended, updated, full]
            · simp [full, found]
          · refine ⟨_,
              ⟨account.user.incrementFailedAttempts request.updatedAt, request.updatedAt, wrong⟩,
              begun.trans ?_, ?_⟩
            · simp [alone, loginProgram, AuthService.loginStep, judge, locked, right, valid,
                tested', LoginStage.ended, updated, full]
            · simp [full, assigned (keeps_increment request.updatedAt)]

-----------------------------------------------------------------------------------------
-- The counter and the lock
-----------------------------------------------------------------------------------------

namespace Recorded

variable {user : UserRecord} {clock testedAt updatedAt : Time} {times : List Time}

/-- Time alone changes nothing. -/
theorem later (recorded : Recorded user clock times) (order : clock ≤ updatedAt)
    : Recorded user updatedAt times where
  counting := recorded.counting
  spaced := recorded.spaced
  past := fun last member => Nat.le_trans (recorded.past last member) order

/-- A reset begins a new count. -/
theorem reset (user : UserRecord) (clock : Time)
    : Recorded user.resetFailedAttempts clock [] where
  counting := ⟨rfl, rfl⟩
  spaced := trivial
  past := by
    intro last member
    cases member

/-- From the limit on an account that is not locked has had its last counted attempt
`LOCKOUT_MINUTES` ago. -/
theorem free (recorded : Recorded user clock times) (unlocked : user.isLocked testedAt = false)
    (many : maxFailedAttempts ≤ times.length)
    : ∀ last ∈ times.head?, last + lockout ≤ testedAt := by
  intro last member
  have lock := recorded.counting.lock
  rw [if_neg (Nat.not_lt.mpr many), member] at lock
  rw [UserRecord.isLocked, lock] at unlocked
  exact Nat.le_of_not_lt (of_decide_eq_false unlocked)

/-- A counted attempt goes on with the count and, from the limit on, renews the lock. -/
theorem increment (recorded : Recorded user clock times) (tested : clock ≤ testedAt)
    (updated : testedAt ≤ updatedAt) (unlocked : user.isLocked testedAt = false)
    : Recorded (user.incrementFailedAttempts updatedAt) updatedAt (updatedAt :: times) where
  counting := by
    have attempts := recorded.counting.attempts
    refine ⟨by simp [UserRecord.incrementFailedAttempts, attempts], ?_⟩
    simp only [UserRecord.incrementFailedAttempts, List.length_cons, List.head?_cons,
      Option.map_some, attempts]
    by_cases many : maxFailedAttempts ≤ times.length + 1
    · rw [if_pos many, if_neg (Nat.not_lt.mpr many)]
    · have few : times.length < maxFailedAttempts := by omega
      rw [if_neg many, if_pos (Nat.lt_of_not_le many), recorded.counting.lock, if_pos few]
  spaced := by
    refine ⟨recorded.spaced, fun last member => ⟨?_, fun many => ?_⟩⟩
    · exact Nat.le_trans (recorded.past last member) (Nat.le_trans tested updated)
    · exact Nat.le_trans (recorded.free unlocked many last member) updated
  past := by
    intro last member
    cases member
    exact Nat.le_refl updatedAt

end Recorded

-----------------------------------------------------------------------------------------
-- Runs
-----------------------------------------------------------------------------------------

section

variable {verify : String → String → Bool} {email : String} {ledger next : Ledger}
  {request : LoginRequest}

/-- What becomes of the row in a login to the active account. -/
theorem trialOf_cases {users : Users} {user : UserRecord} {trial : Trial}
    (keys : (users.map UserRecord.id).Nodup)
    (found : UserRepository.findByEmail users request.email = some user)
    (active : user.isActive = true)
    (own : trial = trialOf verify request.email users request)
    : trial.request = request
      ∧ trial.before = some user
      ∧ ∃ after,
          trial.after = some after
          ∧ ((trial.locked = true ∧ trial.succeeded = false ∧ after = user)
            ∨ (trial.locked = false
              ∧ trial.passwordValid verify = true
              ∧ trial.succeeded = true
              ∧ after = user.resetFailedAttempts)
            ∨ (trial.locked = false
              ∧ trial.passwordValid verify = false
              ∧ trial.succeeded = false
              ∧ after
                = if user.failedAttempts = maxInt then
                    user
                  else
                    user.incrementFailedAttempts request.updatedAt)) := by
  have login := login_active verify keys found active
  have assigned {assign : UserRecord → UserRecord} (keeps : KeepsAccount assign)
      : UserRepository.findByEmail (UserRepository.updateById users user.id assign)
          request.email
        = some (assign user) := by
    rw [findByEmail_updateById keeps, found, Option.map_some, if_pos rfl]
  subst own
  simp only [trialOf, login, found, Trial.locked, Trial.passwordValid, Option.any_some]
  refine ⟨trivial, trivial, ?_⟩
  cases locked : user.isLocked request.testedAt with
  | true => exact ⟨user, by simp [found], Or.inl ⟨rfl, rfl, rfl⟩⟩
  | false =>
      cases valid : verify user.passwordHash request.password with
      | true =>
          refine ⟨_, ?_, Or.inr (Or.inl ⟨rfl, rfl, rfl, rfl⟩)⟩
          simp [UserRepository.resetFailedAttempts, assigned keeps_reset]
      | false =>
          refine ⟨_, ?_, Or.inr (Or.inr ⟨rfl, rfl, ?_, rfl⟩)⟩
          · by_cases full : user.failedAttempts = maxInt
            · simp [full, found]
            · simp [full, assigned (keeps_increment request.updatedAt)]
          · by_cases full : user.failedAttempts = maxInt
            · simp [full, Except.isOk, Except.toBool]
            · simp [full, Except.isOk, Except.toBool]

/-- A success begins a new count. -/
theorem counted_won {trial : Trial} {earlier : List Trial} (won : trial.succeeded = true)
    : counted verify (trial :: earlier) = [] := by
  rw [counted, if_pos won]

/-- A login that meets the lock is not counted. -/
theorem counted_locked {trial : Trial} {earlier : List Trial} (lost : trial.succeeded = false)
    (locked : trial.locked = true)
    : counted verify (trial :: earlier) = counted verify earlier := by
  simp [counted, lost, locked]

/-- A wrong password that meets no lock is counted. -/
theorem counted_wrong {trial : Trial} {earlier : List Trial} (lost : trial.succeeded = false)
    (wrong : trial.passwordValid verify = false) (unlocked : trial.locked = false)
    : counted verify (trial :: earlier)
      = trial.request.updatedAt :: counted verify earlier := by
  simp [counted, lost, wrong, unlocked]

/-- One more login to the account. -/
theorem Audited.attempt (audited : Audited verify request.email ledger)
    (tested : ledger.clock ≤ request.testedAt) (updated : request.testedAt ≤ request.updatedAt)
    : Audited verify request.email
        ⟨(AuthService.login verify ledger.users request).2, request.updatedAt,
          trialOf verify request.email ledger.users request :: ledger.trials⟩ := by
  obtain ⟨user, found, active, bound, recorded⟩ := audited.row
  generalize own : trialOf verify request.email ledger.users request = trial
  obtain ⟨rfl, before, after, rowAfter, outcome⟩ :=
    trialOf_cases audited.keys found active own.symm
  have row
      : UserRepository.findByEmail (AuthService.login verify ledger.users trial.request).2
          trial.request.email
        = some after := by
    rw [← rowAfter, ← own]
    rfl
  have order : ledger.clock ≤ trial.request.updatedAt := Nat.le_trans tested updated
  refine ⟨login_ids audited.keys, ⟨after, row, ?_⟩, ?_, ?_⟩
  · dsimp only
    rcases outcome with ⟨locked, lost, rfl⟩ | ⟨unlocked, valid, won, rfl⟩
      | ⟨unlocked, wrong, lost, rfl⟩
    · rw [counted_locked lost locked]
      exact ⟨active, bound, fun few => (recorded few).later order⟩
    · rw [counted_won won]
      exact ⟨active, Nat.zero_le maxInt, fun _ => Recorded.reset user trial.request.updatedAt⟩
    · have free : user.isLocked trial.request.testedAt = false := by
        rw [Trial.locked, before] at unlocked
        exact unlocked
      rw [counted_wrong lost wrong unlocked, List.length_cons]
      by_cases full : user.failedAttempts = maxInt
      · rw [if_pos full]
        refine ⟨active, bound, fun few => ?_⟩
        -- the counter is at its end only after as many counted attempts
        have attempts := (recorded (by omega)).counting.attempts
        omega
      · rw [if_neg full]
        refine ⟨active, Nat.lt_of_le_of_ne bound full, fun few => ?_⟩
        exact (recorded (Nat.le_of_succ_le few)).increment tested updated free
  · intro other member locked
    rcases List.mem_cons.mp member with rfl | older
    · rcases outcome with ⟨_, _, rfl⟩ | ⟨unlocked, _⟩ | ⟨unlocked, _⟩
      · exact rowAfter.trans before.symm
      · exact absurd (locked.symm.trans unlocked) (by decide)
      · exact absurd (locked.symm.trans unlocked) (by decide)
    · exact audited.frozen other older locked
  · intro other member
    rcases List.mem_cons.mp member with rfl | older
    · rcases outcome with ⟨locked, lost, _⟩ | ⟨unlocked, valid, won, _⟩
        | ⟨unlocked, wrong, lost, _⟩
      · simp [locked, lost]
      · simp [unlocked, valid, won]
      · simp [wrong, lost]
    · exact audited.succeeds other older

/-- Every login keeps the invariant. -/
theorem Audited.step (audited : Audited verify email ledger) {users : Users}
    {createdAt : Time}
    (stepped : (lockoutAutomaton verify email users createdAt).step ledger request = some next)
    : Audited verify email next := by
  obtain ⟨order, same⟩ := Option.ite_none_right_eq_some.mp stepped
  cases Option.some.inj same
  by_cases own : request.email = email
  · subst own
    rw [if_pos rfl]
    exact audited.attempt order.1 order.2
  · rw [if_neg own]
    obtain ⟨user, found, active, bound, recorded⟩ := audited.row
    have stays := login_elsewhere verify audited.keys found own
    refine ⟨login_ids audited.keys, ⟨user, stays, active, bound, fun few => ?_⟩,
      audited.frozen, audited.succeeds⟩
    exact (recorded few).later (Nat.le_trans order.1 order.2)

/-- The account when it has been created. -/
theorem audited_created {users created : Users} {id : Uuid} {now : Time} {passwordHash : String}
    (keys : (users.map UserRecord.id).Nodup)
    (new : UserRepository.create users id now email passwordHash = .ok created)
    : Audited verify email ⟨created, now, []⟩ := by
  have keys' := UserRepository.create_keys new keys
  obtain ⟨apart, rfl⟩ := UserRepository.create_ok new
  refine ⟨keys', ⟨UserRecord.create id now email passwordHash, ?_, rfl, Nat.zero_le maxInt, ?_⟩,
    ?_, ?_⟩
  · have none : users.find? (fun user => user.email = email) = none :=
      List.find?_eq_none.mpr (fun user member => by simpa using (apart user member).2)
    simp [UserRepository.findByEmail, List.find?_append, none, UserRecord.create]
  · intro _
    exact Recorded.reset (UserRecord.create id now email passwordHash) now
  · intro trial member
    cases member
  · intro trial member
    cases member

/-- The lockout automaton. Whatever logins to a newly created account and to others run one
after the other, as long as the counter can hold how many attempts are counted since the last
success, it is that number, and the account is locked from the limit on until `LOCKOUT_MINUTES`
after the last of them; no window of that length contains more of them than the limit, an
attempt that meets the lock leaves the row as it is, and the right password succeeds exactly if
it meets no lock.
-/
theorem lockout_automaton {users created : Users} {id : Uuid} {now : Time}
    {passwordHash : String} (keys : (users.map UserRecord.id).Nodup)
    (new : UserRepository.create users id now email passwordHash = .ok created)
    {requests : List LoginRequest}
    (run : (lockoutAutomaton verify email created now).Reaches requests ledger)
    (few : (counted verify ledger.trials).length ≤ maxInt)
    : Automaton verify email ledger := by
  have audited : Audited verify email ledger :=
    run.invariant (Audited verify email) (audited_created keys new)
      (fun audited stepped => audited.step stepped)
  obtain ⟨user, found, _, _, recorded⟩ := audited.row
  refine ⟨⟨user, found, (recorded few).counting⟩, fun start => ?_, audited.frozen,
    audited.succeeds⟩
  exact (recorded few).spaced.length_within_le (by decide)

/-- Whoever waits for `LOCKOUT_MINUTES` meets no lock, so a wrong password is counted. -/
theorem Audited.guess (audited : Audited verify request.email ledger)
    (wrong : ∀ passwordHash, verify passwordHash request.password = false)
    (few : (counted verify ledger.trials).length ≤ maxInt)
    (waited : ledger.clock + lockout ≤ request.testedAt)
    (updated : request.testedAt ≤ request.updatedAt) (users : Users) (createdAt : Time)
    : ∃ next,
        (lockoutAutomaton verify request.email users createdAt).step ledger request = some next
        ∧ next.clock = request.updatedAt
        ∧ (counted verify next.trials).length = (counted verify ledger.trials).length + 1 := by
  obtain ⟨user, found, active, _, recorded⟩ := audited.row
  have tested : ledger.clock ≤ request.testedAt := Nat.le_of_add_right_le waited
  have unlocked : user.isLocked request.testedAt = false := by
    have lock := (recorded few).counting.lock
    by_cases fewer : (counted verify ledger.trials).length < maxFailedAttempts
    · rw [if_pos fewer] at lock
      rw [UserRecord.isLocked, lock]
    · rw [if_neg fewer] at lock
      cases head : (counted verify ledger.trials).head? with
      | none =>
          rw [head] at lock
          rw [UserRecord.isLocked, lock]
          rfl
      | some last =>
          rw [head] at lock
          rw [UserRecord.isLocked, lock]
          have order : last ≤ ledger.clock := (recorded few).past last head
          refine decide_eq_false (Nat.not_lt.mpr ?_)
          exact Nat.le_trans (Nat.add_le_add_right order lockout) waited
  refine ⟨_, if_pos ⟨tested, updated⟩, rfl, ?_⟩
  dsimp only
  rw [if_pos rfl]
  generalize own : trialOf verify request.email ledger.users request = trial
  obtain ⟨sameRequest, before, _, _, outcome⟩ :=
    trialOf_cases audited.keys found active own.symm
  have free : trial.locked = false := by
    rw [Trial.locked, before, sameRequest]
    exact unlocked
  have invalid : trial.passwordValid verify = false := by
    rw [Trial.passwordValid, before, sameRequest]
    exact wrong user.passwordHash
  have lost : trial.succeeded = false := by
    rcases outcome with ⟨_, lost, _⟩ | ⟨_, valid, _⟩ | ⟨_, _, lost, _⟩
    · exact lost
    · exact absurd (invalid.symm.trans valid) (by decide)
    · exact lost
  rw [counted_wrong lost invalid free, List.length_cons]

end

/-- `argon2.verify` of a scheme that accepts one password. -/
def verifyRight (passwordHash password : String) : Bool :=
  passwordHash = "right" && password = "right"

/-- Logins to `someUser` at the same time each. -/
def loginsAt (attempts : List (String × Time)) : List LoginRequest :=
  attempts.map (fun attempt => loginOf "user@example.com" attempt.1 attempt.2)

/-- Five wrong passwords, the right one while they lock the account, a sixth wrong one as soon
as the lock runs out, and the right one when it has run out again. -/
def lockedTwice : List LoginRequest :=
  loginsAt [
    ("wrong", 10),
    ("wrong", 11),
    ("wrong", 12),
    ("wrong", 13),
    ("wrong", 14),
    ("right", 15),
    ("wrong", 14 + lockout),
    ("right", 15 + lockout),
    ("right", 14 + 2 * lockout)
  ]

/-- The automaton of `someUser`. -/
def someAutomaton : Machine Ledger LoginRequest :=
  lockoutAutomaton verifyRight "user@example.com" [someUser] 0

/-- The ledger of `someUser` after some logins. -/
def ledgerAfter (requests : List LoginRequest) : Ledger :=
  (someAutomaton.exec someAutomaton.init requests).getD ⟨[], 0, []⟩

theorem created_alone : (([] : Users).map UserRecord.id).Nodup := List.nodup_nil

theorem lockout_automaton_twice
    : Automaton verifyRight "user@example.com" (ledgerAfter lockedTwice)
      ∧ (ledgerAfter lockedTwice).trials.map Trial.succeeded
        = [true, false, false, false, false, false, false, false, false]
      ∧ Automaton verifyRight "user@example.com" (ledgerAfter (lockedTwice.take 8))
      ∧ (ledgerAfter (lockedTwice.take 8)).users.map UserRecord.lockedUntil
        = [some (14 + 2 * lockout)] := by
  have automaton (requests : List LoginRequest)
      (run : someAutomaton.Reaches requests (ledgerAfter requests))
      (few : (counted verifyRight (ledgerAfter requests).trials).length ≤ maxInt)
      : Automaton verifyRight "user@example.com" (ledgerAfter requests) :=
    lockout_automaton created_alone rfl run few
  exact ⟨automaton _ rfl (by decide), by decide, automaton _ rfl (by decide), by decide⟩

/-- One wrong password after the other, each `LOCKOUT_MINUTES` after the one before. -/
def patientGuesses : Nat → List LoginRequest
  | 0 => []
  | count + 1 =>
      patientGuesses count ++ [loginOf "user@example.com" "wrong" ((count + 1) * lockout)]

/-- All of them are counted, by induction on their number. -/
theorem patientGuesses_counted (count : Nat) (few : count ≤ maxInt + 1)
    : ∃ ledger,
        someAutomaton.Reaches (patientGuesses count) ledger
        ∧ ledger.clock = count * lockout
        ∧ Audited verifyRight "user@example.com" ledger
        ∧ (counted verifyRight ledger.trials).length = count := by
  induction count with
  | zero =>
      exact ⟨⟨[someUser], 0, []⟩, rfl, by simp, audited_created created_alone rfl, rfl⟩
  | succ count ih =>
      obtain ⟨ledger, run, clock, audited, length⟩ := ih (Nat.le_of_succ_le few)
      let request := loginOf "user@example.com" "wrong" ((count + 1) * lockout)
      have own : Audited verifyRight request.email ledger := audited
      have wrong : ∀ passwordHash, verifyRight passwordHash request.password = false := by
        intro passwordHash
        simp [verifyRight, request, loginOf]
      have waited : ledger.clock + lockout ≤ request.testedAt := by
        rw [clock]
        exact Nat.le_of_eq (Nat.succ_mul count lockout).symm
      obtain ⟨next, stepped, later, longer⟩ :=
        own.guess wrong (by omega) waited (Nat.le_refl _) [someUser] 0
      refine ⟨next, ?_, later, audited.step stepped, by rw [longer, length]⟩
      have last : someAutomaton.step ledger request = some next := stepped
      show someAutomaton.exec _ _ = _
      rw [patientGuesses, Machine.exec_append, run, Option.bind_some, Machine.exec_cons, last]
      rfl

/-- Otherwise the counter stands still: its column holds no number above `maxInt`. -/
theorem counter_overflows
    : ∃ ledger,
        UserRepository.create [] 1 0 "user@example.com" "right" = .ok [someUser]
        ∧ someAutomaton.Reaches (patientGuesses (maxInt + 1)) ledger
        ∧ ¬ Automaton verifyRight "user@example.com" ledger := by
  obtain ⟨ledger, run, _, audited, length⟩ :=
    patientGuesses_counted (maxInt + 1) (Nat.le_refl _)
  refine ⟨ledger, rfl, run, fun automaton => ?_⟩
  obtain ⟨user, found, _, bound, _⟩ := audited.row
  obtain ⟨same, found', counting⟩ := automaton.row
  cases Option.some.inj (found.symm.trans found')
  rw [counting.attempts, length] at bound
  exact absurd bound (Nat.not_succ_le_self maxInt)

end NexusComms.Accounts
