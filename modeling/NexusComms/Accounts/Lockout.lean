import Mathlib.Algebra.Order.Group.Nat
import Mathlib.Algebra.Order.BigOperators.Group.List
import NexusComms.Accounts.Users
import NexusComms.Concurrency.Interleaving

/-! Logins to one account, interleaved at their statements. A login decides on the row that it
has read before the slow verification, so the lockout is what the logins in progress together
leave of it.
-/

namespace NexusComms.Accounts

open Concurrency Program

/-- The statements of `AuthService.issueTokens`. -/
inductive IssueAwait where
  | createSession
  | issueTokenSet
  | upsertCsrf
deriving DecidableEq, Repr

/-- Where `AuthService.login` stands. It carries the row that it has read as long as it looks
at it. -/
inductive LoginStage where
  | findByEmail
  | verify (user : UserRecord)
  | judge (user : UserRecord) (passwordValid : Bool)
  | incrementFailedAttempts
  | resetFailedAttempts
  | issueTokens (todo : List IssueAwait)
  | returned
  | threw (error : Thrown)
deriving DecidableEq, Repr

/-- A login to the account. -/
structure Login where
  password : String
  stage : LoginStage
deriving DecidableEq, Repr

/-- The row of the account and the clock. The last field is history: how many wrong passwords
have been verified since the last reset while `locked_until` was NULL.
-/
structure Account where
  user : UserRecord
  clock : Time
  wrong : Nat
deriving DecidableEq, Repr

/-- The account when it has been created. -/
def Account.created (user : UserRecord) : Account :=
  ⟨{ user with failedAttempts := 0, lockedUntil := none }, user.createdAt, 0⟩

section

variable (verify : String → String → Bool)

/-- The next step of `AuthService.login` at one time, where `verify` is `argon2.verify`. -/
def AuthService.loginStep (now : Time) (account : Account) (password : String)
    : LoginStage → Option (Account × LoginStage)
  | .findByEmail => some (account, .verify account.user)
  | .verify user =>
      let passwordValid := verify user.passwordHash password
      if passwordValid = false ∧ account.user.lockedUntil = none then
        some ({ account with wrong := account.wrong + 1 }, .judge user passwordValid)
      else
        some (account, .judge user passwordValid)
  | .judge user passwordValid =>
      match AuthService.judge now (some user) passwordValid with
      | .deny => some (account, .threw (.unauthorized AuthErrorMessage.invalidCredentials.text))
      | .increment _ => some (account, .incrementFailedAttempts)
      | .accept _ => some (account, .resetFailedAttempts)
  | .incrementFailedAttempts =>
      if account.user.failedAttempts = maxInt then
        some (account, .threw .numericValueOutOfRange)
      else
        some ({ account with user := account.user.incrementFailedAttempts now },
          .threw (.unauthorized AuthErrorMessage.invalidCredentials.text))
  | .resetFailedAttempts =>
      some ({ account with user := account.user.resetFailedAttempts, wrong := 0 },
        .issueTokens [.createSession, .issueTokenSet, .upsertCsrf])
  | .issueTokens (_ :: todo) =>
      if todo = [] then
        some (account, .returned)
      else
        some (account, .issueTokens todo)
  | .issueTokens [] => none
  | .returned => none
  | .threw _ => none

/-- Any number of logins. Time never runs backwards. -/
def loginProgram : Program Account Login Time where
  start _ account login :=
    match login.stage with
    | .findByEmail => some account
    | _ => none
  step _ now account login :=
    if account.clock ≤ now then
      (AuthService.loginStep verify now { account with clock := now } login.password
        login.stage).map (fun result => (result.1, { login with stage := result.2 }))
    else
      none

/-- Every interleaving of logins to an account, from its creation. -/
abbrev loginMachine (user : UserRecord) : Machine (Pool Account Login) (Move Login Time) :=
  (loginProgram verify).machine (Account.created user)

end

namespace LoginStage

/-- The row that a login has read and still looks at. -/
def row : LoginStage → Option UserRecord
  | .verify user => some user
  | .judge user _ => some user
  | _ => none

/-- 1 for a login in progress that no lock holds back: the row it has read is not locked at
this time, or it has looked at it already. -/
def acts (now : Time) : LoginStage → Nat
  | .verify user => if user.isLocked now then 0 else 1
  | .judge user _ => if user.isLocked now then 0 else 1
  | .incrementFailedAttempts => 1
  | .resetFailedAttempts => 1
  | .issueTokens _ => 1
  | _ => 0

/-- 1 for a login whose next statement reads the row of the account. -/
def reads : LoginStage → Nat
  | .findByEmail => 1
  | _ => 0

/-- 1 for a login that has verified a wrong password and not incremented the counter yet. -/
def pendingWrong : LoginStage → Nat
  | .judge _ false => 1
  | .incrementFailedAttempts => 1
  | _ => 0

/-- The next step of the login resets the counter or issues tokens. -/
def grants : LoginStage → Bool
  | .resetFailedAttempts => true
  | .issueTokens _ => true
  | _ => false

end LoginStage

/-- How many logins act at a time. -/
def acting (now : Time) (logins : List Login) : Nat :=
  total (fun login => login.stage.acts now) logins

/-- How many logins have a wrong password to count. -/
def pendingWrong (logins : List Login) : Nat :=
  total (fun login => login.stage.pendingWrong) logins

/-- The logins in progress that no lock holds back, with the one that reads the unlocked row
now. -/
def crowd (pool : Pool Account Login) (now : Time) (login : Login) : Nat :=
  acting now pool.threads + if pool.shared.user.isLocked now then 0 else login.stage.reads

/-- The account is active, and at most one login is in progress that no lock holds back, or
their number and the counter together do not exceed the limit. -/
def Uncrowded (pool : Pool Account Login) : Move Login Time → Prop
  | .start _ => True
  | .step index now =>
      ∀ login ∈ pool.threads[index]?,
        pool.shared.user.isActive = true
        ∧ (crowd pool now login ≤ 1
          ∨ pool.shared.user.failedAttempts + crowd pool now login ≤ maxFailedAttempts)

instance (pool : Pool Account Login)
    : (move : Move Login Time) → Decidable (Uncrowded pool move)
  | .start _ => isTrue trivial
  | .step index now =>
      inferInstanceAs
        (Decidable
          (∀ login ∈ pool.threads[index]?,
            pool.shared.user.isActive = true
            ∧ (crowd pool now login ≤ 1
              ∨ pool.shared.user.failedAttempts + crowd pool now login ≤ maxFailedAttempts)))

/-- What holds of the account and its logins at a time. While a lock is in force nobody acts,
and whoever has read a lock in force has read the one that is stored.
-/
structure Guarded (now : Time) (account : Account) (logins : List Login) : Prop where
  unlocked
    : ∀ login ∈ logins, login.stage.acts now = 1 → account.user.isLocked now = false
  seen
    : ∀ login ∈ logins, ∀ row ∈ login.stage.row,
        row.isActive = account.user.isActive
        ∧ (row.isLocked now = true → account.user.lockedUntil = row.lockedUntil)
  counted
    : account.user.lockedUntil = none →
        account.wrong ≤ account.user.failedAttempts + pendingWrong logins
  bounded : account.wrong ≤ maxFailedAttempts
  few : account.user.lockedUntil = none → account.user.failedAttempts < maxFailedAttempts

section

variable {verify : String → String → Bool} {account account' : Account}
  {stage stage' : LoginStage} {logins : List Login} {now after : Time}

/-- A lock in force later is in force now. -/
theorem isLocked_earlier {user : UserRecord} (order : now ≤ after)
    (locked : user.isLocked after = true)
    : user.isLocked now = true := by
  unfold UserRecord.isLocked at locked ⊢
  split at locked
  · cases locked
  · exact decide_eq_true (Nat.lt_of_le_of_lt order (of_decide_eq_true locked))

/-- The same lock is in force in two rows that agree on it. -/
theorem isLocked_congr {user row : UserRecord} (same : user.lockedUntil = row.lockedUntil)
    : user.isLocked now = row.isLocked now := by
  simp only [UserRecord.isLocked, same]

/-- A row whose lock is in force carries one. -/
theorem lockedUntil_ne_none {user : UserRecord} (locked : user.isLocked now = true)
    : user.lockedUntil ≠ none := by
  intro unlocked
  simp [UserRecord.isLocked, unlocked] at locked

/-- A login that acts later but not now has read a lock that runs out in between. -/
theorem acts_later (now : Time) (acts : stage.acts after = 1)
    : stage.acts now = 1
      ∨ ∃ row ∈ stage.row, row.isLocked now = true ∧ row.isLocked after = false := by
  have byRow (row : UserRecord) (acts : (if row.isLocked after then 0 else 1) = 1)
      : (if row.isLocked now then 0 else 1) = 1
        ∨ (row.isLocked now = true ∧ row.isLocked after = false) := by
    cases lockedAfter : row.isLocked after with
    | true => simp [lockedAfter] at acts
    | false =>
        cases row.isLocked now with
        | true => exact Or.inr ⟨rfl, rfl⟩
        | false => exact Or.inl rfl
  cases stage with
  | verify user =>
      rcases byRow user acts with before | runsOut
      · exact Or.inl before
      · exact Or.inr ⟨user, rfl, runsOut⟩
  | judge user passwordValid =>
      rcases byRow user acts with before | runsOut
      · exact Or.inl before
      · exact Or.inr ⟨user, rfl, runsOut⟩
  | findByEmail => cases acts
  | incrementFailedAttempts => exact Or.inl rfl
  | resetFailedAttempts => exact Or.inl rfl
  | issueTokens todo => exact Or.inl rfl
  | returned => cases acts
  | threw error => cases acts

/-- Time alone keeps the invariant: a login that starts to act has read the stored lock, which
runs out with it. -/
theorem Guarded.later (guarded : Guarded now account logins) (order : now ≤ after)
    : Guarded after account logins where
  unlocked := by
    intro login member acts
    refine Bool.eq_false_iff.mpr (fun locked => ?_)
    have lockedNow := isLocked_earlier order locked
    rcases acts_later now acts with before | ⟨row, found, held, free⟩
    · rw [guarded.unlocked login member before] at lockedNow
      cases lockedNow
    · have same := (guarded.seen login member row found).2 held
      rw [isLocked_congr same, free] at locked
      cases locked
  seen := by
    intro login member row found
    obtain ⟨active, same⟩ := guarded.seen login member row found
    exact ⟨active, fun locked => same (isLocked_earlier order locked)⟩
  counted := guarded.counted
  bounded := guarded.bounded
  few := guarded.few

variable {index : Nat} {login : Login}

/-- Logins after a step: those that were there, and the one that has moved. -/
theorem mem_moved {other : Login}
    (member : other ∈ logins.set index { login with stage := stage' })
    : other ∈ logins ∨ other.stage = stage' := by
  rcases List.mem_or_eq_of_mem_set member with old | rfl
  · exact Or.inl old
  · exact Or.inr rfl

/-- A step after which the row and the count are as before. -/
theorem Guarded.quiet (guarded : Guarded now account logins)
    (found : logins[index]? = some login)
    (acts : stage'.acts now = 1 → account.user.isLocked now = false)
    (seen
      : ∀ row ∈ stage'.row,
          row.isActive = account.user.isActive
          ∧ (row.isLocked now = true → account.user.lockedUntil = row.lockedUntil))
    (pending
      : account.user.lockedUntil = none → login.stage.pendingWrong ≤ stage'.pendingWrong)
    : Guarded now account (logins.set index { login with stage := stage' }) where
  unlocked := by
    intro other member acting
    rcases mem_moved member with old | moved
    · exact guarded.unlocked other old acting
    · exact acts (moved ▸ acting)
  seen := by
    intro other member row inRow
    rcases mem_moved member with old | moved
    · exact guarded.seen other old row inRow
    · exact seen row (moved ▸ inRow)
  counted := by
    intro free
    obtain ⟨rest, before, replaced⟩ := total_set (fun login => login.stage.pendingWrong) found
    have counted := guarded.counted free
    have own := pending free
    rw [pendingWrong, before] at counted
    rw [pendingWrong, replaced]
    dsimp only at counted ⊢
    omega
  bounded := guarded.bounded
  few := guarded.few

/-- While the account carries no lock, every login with a wrong password to count acts. -/
theorem pendingWrong_le_acting (guarded : Guarded now account logins)
    (free : account.user.lockedUntil = none)
    : pendingWrong logins ≤ acting now logins := by
  refine List.sum_le_sum (fun login member => ?_)
  have seen := guarded.seen login member
  cases stage : login.stage with
  | judge user passwordValid =>
      have unlocked : user.isLocked now = false := by
        refine Bool.eq_false_iff.mpr (fun locked => ?_)
        have same := (seen user (by rw [stage]; rfl)).2 locked
        exact lockedUntil_ne_none locked (same.symm.trans free)
      have acts : (LoginStage.judge user passwordValid).acts now = 1 := by
        simp [LoginStage.acts, unlocked]
      rw [acts]
      cases passwordValid with
      | true => exact Nat.zero_le _
      | false => exact Nat.le_refl _
  | findByEmail => exact Nat.zero_le _
  | verify user => exact Nat.zero_le _
  | incrementFailedAttempts => exact Nat.le_refl _
  | resetFailedAttempts => exact Nat.zero_le _
  | issueTokens todo => exact Nat.zero_le _
  | returned => exact Nat.zero_le _
  | threw error => exact Nat.zero_le _

/-- A wrong password is verified on an account without a lock. Everybody who may still count
one acts, and the crowd is small enough. -/
theorem Guarded.verifies (guarded : Guarded now account logins)
    (found : logins[index]? = some login) {user : UserRecord}
    (stage : login.stage = .verify user) (free : account.user.lockedUntil = none)
    (few
      : acting now logins ≤ 1
        ∨ account.user.failedAttempts + acting now logins ≤ maxFailedAttempts)
    : Guarded now { account with wrong := account.wrong + 1 }
        (logins.set index { login with stage := .judge user false }) := by
  have member : login ∈ logins := List.mem_of_getElem? found
  have row : user ∈ login.stage.row := by
    rw [stage]
    rfl
  have seen := guarded.seen login member user row
  have unlocked : user.isLocked now = false := by
    refine Bool.eq_false_iff.mpr (fun locked => ?_)
    exact lockedUntil_ne_none locked ((seen.2 locked).symm.trans free)
  have judged
      : Guarded now account (logins.set index { login with stage := .judge user false }) := by
    refine guarded.quiet found (fun _ => ?_) (fun other same => ?_) (fun _ => ?_)
    · refine guarded.unlocked login member ?_
      simp [stage, LoginStage.acts, unlocked]
    · cases same
      exact seen
    · simp [stage, LoginStage.pendingWrong]
  obtain ⟨rest, before, replaced⟩ := total_set (fun login => login.stage.pendingWrong) found
  have counted := guarded.counted free
  have moved
      : pendingWrong (logins.set index { login with stage := .judge user false })
        = pendingWrong logins + 1 := by
    rw [pendingWrong, pendingWrong, replaced, before, stage]
    simp only [LoginStage.pendingWrong]
    omega
  have all := pendingWrong_le_acting judged free
  have acts : acting now (logins.set index { login with stage := .judge user false })
      = acting now logins := by
    obtain ⟨rest, before, replaced⟩ := total_set (fun login => login.stage.acts now) found
    rw [acting, acting, replaced, before, stage]
    simp only [LoginStage.acts, unlocked]
  have limit := guarded.few free
  refine ⟨judged.unlocked, judged.seen, fun _ => ?_, ?_, judged.few⟩
  · show account.wrong + 1
      ≤ account.user.failedAttempts
        + pendingWrong (logins.set index { login with stage := .judge user false })
    omega
  · show account.wrong + 1 ≤ maxFailedAttempts
    omega

/-- The counter is incremented. If this locks the account, nobody else acts. -/
theorem Guarded.increments (guarded : Guarded now account logins)
    (found : logins[index]? = some login) (stage : login.stage = .incrementFailedAttempts)
    (stops : stage'.acts now = 0 ∧ stage'.row = none ∧ stage'.pendingWrong = 0)
    (few
      : acting now logins ≤ 1
        ∨ account.user.failedAttempts + acting now logins ≤ maxFailedAttempts)
    : Guarded now { account with user := account.user.incrementFailedAttempts now }
        (logins.set index { login with stage := stage' }) := by
  obtain ⟨noActs, noRow, noPending⟩ := stops
  have member : login ∈ logins := List.mem_of_getElem? found
  have free : account.user.isLocked now = false :=
    guarded.unlocked login member (by rw [stage]; rfl)
  obtain ⟨rest, before, replaced⟩ := total_set (fun login => login.stage.acts now) found
  have crowd : acting now logins = 1 + rest := by
    rw [acting, before, stage]
    rfl
  have others : acting now (logins.set index { login with stage := stage' }) = rest := by
    rw [acting, replaced]
    simp [noActs]
  refine ⟨?_, ?_, ?_, guarded.bounded, ?_⟩
  · intro other member acts
    by_cases locks : maxFailedAttempts ≤ account.user.failedAttempts + 1
    · -- the limit is reached, so the one that increments was alone
      have alone : rest = 0 := by omega
      have one : other.stage.acts now ≤ acting now
          (logins.set index { login with stage := stage' }) :=
        List.single_le_sum (fun _ _ => Nat.zero_le _) _ (List.mem_map_of_mem member)
      omega
    · have same : (account.user.incrementFailedAttempts now).lockedUntil
          = account.user.lockedUntil := by
        simp [UserRecord.incrementFailedAttempts, locks]
      rw [isLocked_congr same]
      exact free
  · intro other member row inRow
    rcases mem_moved member with old | moved
    · obtain ⟨active, same⟩ := guarded.seen other old row inRow
      refine ⟨active, fun locked => ?_⟩
      rw [isLocked_congr (same locked), locked] at free
      cases free
    · rw [moved, noRow] at inRow
      cases inRow
  · intro unlocked
    obtain ⟨rest, before, replaced⟩ := total_set (fun login => login.stage.pendingWrong) found
    have split : pendingWrong logins = 1 + rest := by
      rw [pendingWrong, before, stage]
      rfl
    have split' : pendingWrong (logins.set index { login with stage := stage' }) = rest := by
      rw [pendingWrong, replaced]
      simp [noPending]
    simp only [UserRecord.incrementFailedAttempts] at unlocked ⊢
    split at unlocked
    · cases unlocked
    · have counted := guarded.counted unlocked
      omega
  · intro unlocked
    simp only [UserRecord.incrementFailedAttempts] at unlocked ⊢
    split at unlocked
    · cases unlocked
    · omega

/-- The counter is reset. -/
theorem Guarded.resets (guarded : Guarded now account logins)
    (found : logins[index]? = some login) (stage : login.stage = .resetFailedAttempts)
    (todo : List IssueAwait)
    : Guarded now { account with user := account.user.resetFailedAttempts, wrong := 0 }
        (logins.set index { login with stage := .issueTokens todo }) := by
  have member : login ∈ logins := List.mem_of_getElem? found
  have free : account.user.isLocked now = false :=
    guarded.unlocked login member (by rw [stage]; rfl)
  have few : 0 < maxFailedAttempts := by decide
  refine ⟨fun _ _ _ => rfl, ?_, fun _ => Nat.zero_le _, Nat.zero_le _, fun _ => few⟩
  intro other member row inRow
  rcases mem_moved member with old | moved
  · obtain ⟨active, same⟩ := guarded.seen other old row inRow
    refine ⟨active, fun locked => ?_⟩
    rw [isLocked_congr (same locked), locked] at free
    cases free
  · rw [moved] at inRow
    cases inRow

/-- Every step of a login keeps the invariant, in a crowd that is small enough. -/
theorem Guarded.step (guarded : Guarded now account logins)
    (found : logins[index]? = some login)
    (active : account.user.isActive = true)
    (few
      : acting now logins ≤ 1
        ∨ account.user.failedAttempts + acting now logins ≤ maxFailedAttempts)
    (ran
      : AuthService.loginStep verify now account login.password login.stage
        = some (account', stage'))
    : Guarded now account' (logins.set index { login with stage := stage' }) := by
  have member : login ∈ logins := List.mem_of_getElem? found
  have unlocked := guarded.unlocked login member
  have seen := guarded.seen login member
  cases stage : login.stage with
  | findByEmail =>
      rw [stage] at ran
      cases ran
      refine guarded.quiet found (fun acts => ?_) (fun row same => ?_) (fun _ => ?_)
      · cases locked : account.user.isLocked now with
        | true => simp [LoginStage.acts, locked] at acts
        | false => rfl
      · cases same
        exact ⟨rfl, fun _ => rfl⟩
      · rw [stage]
        exact Nat.le_refl _
  | verify user =>
      rw [stage] at ran unlocked seen
      simp only [AuthService.loginStep] at ran
      split at ran
      · rename_i wrong
        cases ran
        rw [wrong.1]
        exact guarded.verifies found stage wrong.2 few
      · cases ran
        refine guarded.quiet found unlocked seen (fun _ => ?_)
        rw [stage]
        exact Nat.zero_le _
  | judge user passwordValid =>
      rw [stage] at ran unlocked seen
      obtain ⟨sameActive, sameLock⟩ := seen user rfl
      have rowActive : user.isActive = true := sameActive.trans active
      have noRow {done : LoginStage} (none : done.row = none) (row : UserRecord)
          (inRow : row ∈ done.row)
          : row.isActive = account.user.isActive
            ∧ (row.isLocked now = true → account.user.lockedUntil = row.lockedUntil) := by
        rw [none] at inRow
        cases inRow
      simp only [AuthService.loginStep, AuthService.judge, rowActive] at ran
      cases locked : user.isLocked now with
      | true =>
          -- the lock that was read is the stored one, so nothing is counted
          have carries : account.user.lockedUntil ≠ none := by
            rw [sameLock locked]
            exact lockedUntil_ne_none locked
          cases passwordValid with
          | true =>
              simp [locked] at ran
              obtain ⟨rfl, rfl⟩ := ran
              exact guarded.quiet found (fun acts => by cases acts) (noRow rfl)
                (fun free => absurd free carries)
          | false =>
              simp [locked] at ran
              obtain ⟨rfl, rfl⟩ := ran
              exact guarded.quiet found (fun acts => by cases acts) (noRow rfl)
                (fun free => absurd free carries)
      | false =>
          have free := unlocked (by simp [LoginStage.acts, locked])
          cases passwordValid with
          | true =>
              simp [locked] at ran
              obtain ⟨rfl, rfl⟩ := ran
              refine guarded.quiet found (fun _ => free) (noRow rfl) (fun _ => ?_)
              rw [stage]
              exact Nat.le_refl _
          | false =>
              simp [locked] at ran
              obtain ⟨rfl, rfl⟩ := ran
              refine guarded.quiet found (fun _ => free) (noRow rfl) (fun _ => ?_)
              rw [stage]
              exact Nat.le_refl _
  | incrementFailedAttempts =>
      rw [stage] at ran
      simp only [AuthService.loginStep] at ran
      split at ran
      · rename_i full
        cases ran
        refine guarded.quiet found (fun acts => by cases acts) (fun row inRow => by cases inRow)
          (fun free => ?_)
        have limit := guarded.few free
        rw [full] at limit
        exact absurd limit (by decide)
      · cases ran
        exact guarded.increments found stage ⟨rfl, rfl, rfl⟩ few
  | resetFailedAttempts =>
      rw [stage] at ran
      cases ran
      exact guarded.resets found stage _
  | issueTokens todo =>
      rw [stage] at ran unlocked
      cases todo with
      | nil => cases ran
      | cons head rest =>
          simp only [AuthService.loginStep] at ran
          split at ran
          · cases ran
            refine guarded.quiet found (fun acts => by cases acts)
              (fun row inRow => by cases inRow) (fun _ => ?_)
            rw [stage]
            exact Nat.le_refl _
          · cases ran
            refine guarded.quiet found unlocked (fun row inRow => by cases inRow) (fun _ => ?_)
            rw [stage]
            exact Nat.le_refl _
  | returned =>
      rw [stage] at ran
      cases ran
  | threw error =>
      rw [stage] at ran
      cases ran

/-- A login leaves the clock alone. -/
theorem loginStep_clock {password : String}
    (ran : AuthService.loginStep verify now account password stage = some (account', stage'))
    : account'.clock = account.clock := by
  cases stage with
  | findByEmail =>
      cases ran
      rfl
  | verify user =>
      simp only [AuthService.loginStep] at ran
      split at ran
      · cases ran
        rfl
      · cases ran
        rfl
  | judge user passwordValid =>
      simp only [AuthService.loginStep] at ran
      split at ran
      · cases ran
        rfl
      · cases ran
        rfl
      · cases ran
        rfl
  | incrementFailedAttempts =>
      simp only [AuthService.loginStep] at ran
      split at ran
      · cases ran
        rfl
      · cases ran
        rfl
  | resetFailedAttempts =>
      cases ran
      rfl
  | issueTokens todo =>
      cases todo with
      | nil => cases ran
      | cons head rest =>
          simp only [AuthService.loginStep] at ran
          split at ran
          · cases ran
            rfl
          · cases ran
            rfl
  | returned => cases ran
  | threw error => cases ran

-----------------------------------------------------------------------------------------
-- All runs
-----------------------------------------------------------------------------------------

/-- The invariant of the pool, at the time of its clock. -/
def GuardedPool (pool : Pool Account Login) : Prop :=
  Guarded pool.shared.clock pool.shared pool.threads

variable {pool next : Pool Account Login}

/-- A step of a login, with the invariant at the time at which it runs. -/
theorem GuardedPool.at_step (guarded : GuardedPool pool)
    (moved : (loginProgram verify).move pool (.step index now) = some next)
    : ∃ login stage',
        pool.threads[index]? = some login
        ∧ Guarded now { pool.shared with clock := now } pool.threads
        ∧ AuthService.loginStep verify now { pool.shared with clock := now } login.password
            login.stage
          = some (next.shared, stage')
        ∧ next.threads = pool.threads.set index { login with stage := stage' } := by
  obtain ⟨login, login', found, ran, threads⟩ := (loginProgram verify).move_step_some moved
  simp only [loginProgram] at ran
  split at ran
  · rename_i order
    obtain ⟨⟨_, stage'⟩, stepped, same⟩ := Option.map_eq_some_iff.mp ran
    cases same
    have later := guarded.later order
    exact ⟨login, stage', found,
      ⟨later.unlocked, later.seen, later.counted, later.bounded, later.few⟩, stepped, threads⟩
  · cases ran

/-- Every move in a crowd that is small enough keeps the invariant. -/
theorem GuardedPool.move {move : Move Login Time} (guarded : GuardedPool pool)
    (uncrowded : Uncrowded pool move) (moved : (loginProgram verify).move pool move = some next)
    : GuardedPool next := by
  cases move with
  | start login =>
      obtain ⟨started, threads⟩ := (loginProgram verify).move_start_some moved
      simp only [loginProgram] at started
      split at started
      · rename_i stage
        have shared : next.shared = pool.shared := (Option.some.inj started).symm
        rw [GuardedPool, shared, threads]
        have old {other : Login} (member : other ∈ pool.threads ++ [login])
            : other ∈ pool.threads ∨ other.stage = .findByEmail := by
          rcases List.mem_append.mp member with before | new
          · exact Or.inl before
          · exact Or.inr (List.mem_singleton.mp new ▸ stage)
        refine ⟨?_, ?_, ?_, guarded.bounded, guarded.few⟩
        · intro other member acts
          rcases old member with before | new
          · exact guarded.unlocked other before acts
          · rw [new] at acts
            cases acts
        · intro other member row inRow
          rcases old member with before | new
          · exact guarded.seen other before row inRow
          · rw [new] at inRow
            cases inRow
        · rw [pendingWrong, total_concat, stage]
          exact guarded.counted
      · cases started
  | step index now =>
      obtain ⟨login, stage', found, guardedNow, ran, threads⟩ := guarded.at_step moved
      obtain ⟨active, few⟩ := uncrowded login found
      have fewer
          : acting now pool.threads ≤ 1
            ∨ pool.shared.user.failedAttempts + acting now pool.threads
              ≤ maxFailedAttempts := by
        rw [crowd] at few
        omega
      have clock : next.shared.clock = now := loginStep_clock ran
      rw [GuardedPool, threads, clock]
      exact guardedNow.step found active fewer ran

end

/-- Lockout under concurrency. In every interleaving in which, at each step, the account is
active and the logins in progress that no lock holds back are at most one, or together with
the counter at most the limit, no login resets the counter or issues tokens while the stored
lock is in force, and since the last reset at most `MAX_FAILED_ATTEMPTS` wrong passwords have
been verified before the account was locked.
-/
theorem lockout_holds {verify : String → String → Bool} {user : UserRecord}
    {moves : List (Move Login Time)} {pool : Pool Account Login}
    (uncrowded
      : (loginMachine verify user).Along Uncrowded (loginMachine verify user).init moves)
    (run : (loginMachine verify user).Reaches moves pool)
    : (∀ taken ∈ (loginMachine verify user).taken (loginMachine verify user).init moves,
        ∀ index now login,
          taken.action = .step index now →
            taken.before.threads[index]? = some login →
              login.stage.grants = true →
                taken.before.shared.user.isLocked now = false)
      ∧ pool.shared.wrong ≤ maxFailedAttempts := by
  have begun : GuardedPool (loginMachine verify user).init := by
    refine ⟨?_, ?_, fun _ => Nat.zero_le _, Nat.zero_le _, fun _ => ?_⟩
    · intro login member
      cases member
    · intro login member
      cases member
    · show 0 < maxFailedAttempts
      decide
  have keeps {state final : Pool Account Login} {actions : List (Move Login Time)}
      (along : (loginMachine verify user).Along Uncrowded state actions)
      (start : GuardedPool state)
      (ran : (loginMachine verify user).exec state actions = some final)
      : GuardedPool final :=
    along.exec_preserves GuardedPool (fun kept small moved => kept.move small moved) start ran
  refine ⟨?_, (keeps uncrowded begun run).bounded⟩
  intro taken member index now login action found grants
  obtain ⟨first, last, split, ran, own, _⟩ := (loginMachine verify user).mem_taken run member
  rw [split] at uncrowded
  have guarded := keeps uncrowded.left begun ran
  rw [action] at own
  obtain ⟨same, _, found', guardedNow, _, _⟩ := guarded.at_step own
  cases Option.some.inj (found.symm.trans found')
  -- a login that grants acts
  refine guardedNow.unlocked login (List.mem_of_getElem? found) ?_
  cases stage : login.stage with
  | resetFailedAttempts => rfl
  | issueTokens todo => rfl
  | _ =>
      rw [stage] at grants
      cases grants

/-- An account whose password is "right", created at time 0. -/
def someUser : UserRecord := ⟨1, "user@example.com", "right", false, 0, none, true, 0, 0⟩

/-- `argon2.verify` of a scheme that stores passwords as they are. -/
def verifyPlain (passwordHash password : String) : Bool := passwordHash = password

/-- A login that runs alone: its index, its password, the time, and how many steps it takes
after the first one. -/
def loginAlone (index : Nat) (password : String) (now : Time) (steps : Nat)
    : List (Move Login Time) :=
  .start ⟨password, .findByEmail⟩ :: List.replicate (steps + 1) (.step index now)

/-- Five wrong passwords lock the account, the right one is refused while the lock is in
force, and accepted afterwards. -/
def lockedThenAccepted : List (Move Login Time) :=
  loginAlone 0 "wrong" 10 3
  ++ loginAlone 1 "wrong" 11 3
  ++ loginAlone 2 "wrong" 12 3
  ++ loginAlone 3 "wrong" 13 3
  ++ loginAlone 4 "wrong" 14 3
  ++ loginAlone 5 "right" 15 2
  ++ loginAlone 6 "right" (14 + lockout) 6

/-- The right password is verified on a row without a lock, then five wrong ones lock the
account, then the first login goes on. -/
def lockedInBetween : List (Move Login Time) :=
  [.start ⟨"right", .findByEmail⟩, .step 0 10]
  ++ loginAlone 1 "wrong" 10 3
  ++ loginAlone 2 "wrong" 11 3
  ++ loginAlone 3 "wrong" 12 3
  ++ loginAlone 4 "wrong" 13 3
  ++ loginAlone 5 "wrong" 14 3
  ++ [.step 0 15, .step 0 15]

/-- Six logins read the row, and all verify a wrong password before the first one counts. -/
def sixGuessesAtOnce : List (Move Login Time) :=
  (List.range 6).map (fun _ => .start ⟨"wrong", .findByEmail⟩)
  ++ (List.range 6).map (fun index => .step index 10)
  ++ (List.range 6).map (fun index => .step index 11)

/-- The state after a run of logins to that account. -/
def accountAfter (moves : List (Move Login Time)) : Pool Account Login :=
  ((loginMachine verifyPlain someUser).exec (loginMachine verifyPlain someUser).init moves).getD
    ⟨Account.created someUser, []⟩

theorem lockout_holds_locked
    : (accountAfter lockedThenAccepted).threads.map Login.stage
        = List.replicate 6 (.threw (.unauthorized "Invalid email or password.")) ++ [.returned]
      ∧ (accountAfter lockedThenAccepted).shared.wrong ≤ maxFailedAttempts := by
  have uncrowded
      : (loginMachine verifyPlain someUser).Along Uncrowded
          (loginMachine verifyPlain someUser).init lockedThenAccepted := by
    decide
  have run
      : (loginMachine verifyPlain someUser).Reaches lockedThenAccepted
          (accountAfter lockedThenAccepted) :=
    rfl
  exact ⟨by decide, (lockout_holds uncrowded run).2⟩

/-- Otherwise a login can reset the counter of a locked account, and more wrong passwords can
be verified than the limit allows. -/
theorem lockout_bypassed
    : (loginMachine verifyPlain someUser).Reaches lockedInBetween (accountAfter lockedInBetween)
      ∧ ((accountAfter lockedInBetween).threads[0]?.map Login.stage
        = some .resetFailedAttempts)
      ∧ (accountAfter lockedInBetween).shared.user.isLocked 16 = true
      ∧ ((loginProgram verifyPlain).move (accountAfter lockedInBetween) (.step 0 16)).isSome
        = true
      ∧ (loginMachine verifyPlain someUser).Reaches sixGuessesAtOnce
          (accountAfter sixGuessesAtOnce)
      ∧ ¬ (accountAfter sixGuessesAtOnce).shared.wrong ≤ maxFailedAttempts := by
  exact ⟨rfl, by decide, by decide, by decide, rfl, by decide⟩

end NexusComms.Accounts
