import Mathlib.Data.Bool.AllAny
import NexusComms.Accounts.Deactivation
import NexusComms.Strings.Normal

/-! Emails are stored in a normal form. Registrations and logins fold the case first and trim
then, `call:initiate` does it the other way around, and all of them compare what they get with
`=`. Registrations interleave at their statements.
-/

namespace NexusComms.Accounts

open Concurrency Program Strings

section

variable (blank : Char → Bool) (lower : Char → Char)

/-- `value.toLowerCase().trim()`, of `RegisterDto` and of `LoginDto`. -/
def RegisterDto.email (typed : List Char) : String :=
  String.ofList (trim blank (typed.map lower))

@[inherit_doc RegisterDto.email]
def LoginDto.email (typed : List Char) : String :=
  String.ofList (trim blank (typed.map lower))

/-- The user of `targetEmail`, which an empty string does not name. -/
def SignalingGateway.findTarget (users : Users) (targetEmail : List Char) : Option UserRecord :=
  if targetEmail = [] then
    none
  else
    UserRepository.findByEmail users (String.ofList ((trim blank targetEmail).map lower))

/-- A registration with the email as it is typed. -/
structure Registration where
  typed : List Char
  password : String
  stage : RegisterStage
deriving DecidableEq, Repr

/-- The table `users`, with what was typed for each row: the id of the row and the email. -/
structure Directory where
  users : Users
  typed : List (Uuid × List Char)
deriving DecidableEq, Repr

/-- The next statement of a registration. Whoever has inserted a row is recorded with it. -/
def Registration.step (libraries : Libraries) (input : CallInput) (directory : Directory)
    (registration : Registration)
    : Option (Directory × Registration) :=
  (AuthService.registerCall libraries input directory.users
    (RegisterDto.email blank lower registration.typed) registration.password
    registration.stage).map fun result =>
      ({
        users := result.1
        typed :=
          if result.1 = directory.users then
            directory.typed
          else
            directory.typed ++ [(input.uuid, registration.typed)]
      },
      { registration with stage := result.2 })

/-- Registrations with emails that are not blank. -/
def registrations (libraries : Libraries) : Program Directory Registration CallInput where
  start _ directory registration :=
    if registration.stage = .findByEmail ∧ trim blank registration.typed ≠ [] then
      some directory
    else
      none
  step _ := Registration.step blank lower libraries

/-- Every interleaving of registrations from the migrated database. -/
abbrev registrationMachine (libraries : Libraries)
    : Machine (Pool Directory Registration) (Move Registration CallInput) :=
  (registrations blank lower libraries).machine ⟨[], []⟩

/-- Each row holds the normal form of what was typed for it, and no two rows the same. -/
structure Directory.Canonical (directory : Directory) : Prop where
  ids : (directory.users.map UserRecord.id).Nodup
  emails : (directory.users.map UserRecord.email).Nodup
  recorded : ∀ user ∈ directory.users, ∃ typed, (user.id, typed) ∈ directory.typed
    ∧ user.email = RegisterDto.email blank lower typed
  kept : ∀ {id typed}, (id, typed) ∈ directory.typed
    → trim blank typed ≠ [] ∧ ∃ user ∈ directory.users, user.id = id
      ∧ user.email = RegisterDto.email blank lower typed

end

variable {blank : Char → Bool} {lower : Char → Char} {libraries : Libraries}

/-- A statement of a registration adds at most the row of its email. -/
theorem registerCall_adds {input : CallInput} {users users' : Users} {email password : String}
    {stage stage' : RegisterStage}
    (ran
      : AuthService.registerCall libraries input users email password stage
        = some (users', stage'))
    : users' = users
      ∨ (∀ user ∈ users, user.id ≠ input.uuid ∧ user.email ≠ email)
        ∧ ∃ passwordHash, users' = users ++ [.create input.uuid input.now email passwordHash] := by
  cases stage with
  | findByEmail =>
      simp only [AuthService.registerCall] at ran
      split at ran
      · cases ran
        exact Or.inl rfl
      · split at ran
        · cases ran
          exact Or.inl rfl
        · split at ran
          · cases ran
            exact Or.inl rfl
          · cases ran
            exact Or.inl rfl
  | create =>
      simp only [AuthService.registerCall] at ran
      split at ran
      · cases ran
        exact Or.inl rfl
      · split at ran
        · rename_i created
          cases ran
          have inserted := UsersService.create_ok created
          obtain ⟨apart, rfl⟩ := UserRepository.create_ok inserted
          exact Or.inr ⟨apart, _, rfl⟩
        · cases ran
          exact Or.inl rfl
        · cases ran
          exact Or.inl rfl
  | returned message => cases ran
  | threw error => cases ran

/-- Two strings have the same email exactly when they are alike. -/
theorem email_eq_iff (folding : CaseFolding blank lower) {x y : List Char}
    : RegisterDto.email blank lower x = RegisterDto.email blank lower y ↔ Alike blank lower x y := by
  rw [RegisterDto.email, RegisterDto.email, String.ofList_inj, trim_map folding, trim_map folding,
    alike_iff folding]

/-- An email is its own email. -/
theorem email_fixed (folding : CaseFolding blank lower) (typed : List Char)
    : RegisterDto.email blank lower (RegisterDto.email blank lower typed).toList
      = RegisterDto.email blank lower typed := by
  simp only [RegisterDto.email, String.toList_ofList, trim_map folding, map_map_lower folding,
    trim_trim]

/-- `call:initiate` looks for the same email as a login. -/
theorem findTarget_eq (folding : CaseFolding blank lower) (users : Users) {typed : List Char}
    (nonempty : typed ≠ [])
    : SignalingGateway.findTarget blank lower users typed
      = UserRepository.findByEmail users (LoginDto.email blank lower typed) := by
  rw [SignalingGateway.findTarget, if_neg nonempty, LoginDto.email, trim_map folding]

section

variable {directory directory' : Directory}

/-- Where no two rows have the same email, a row is found by its own. -/
theorem findByEmail_iff {users : Users} (emails : (users.map UserRecord.email).Nodup)
    {user : UserRecord} (known : user ∈ users) (email : String)
    : UserRepository.findByEmail users email = some user ↔ user.email = email := by
  constructor
  · exact fun found => (findByEmail_some found).2
  · intro same
    cases found : UserRepository.findByEmail users email with
    | none => exact absurd same (by simpa using List.find?_eq_none.mp found user known)
    | some other =>
        obtain ⟨member, equal⟩ := findByEmail_some found
        exact congrArg some (List.inj_on_of_nodup_map emails member known (equal.trans same.symm))

/-- The migrated database has no users. -/
theorem Directory.Canonical.empty : Directory.Canonical blank lower ⟨[], []⟩ where
  ids := List.nodup_nil
  emails := List.nodup_nil
  recorded := by simp
  kept := by simp

/-- A registration keeps the directory canonical. -/
theorem Directory.Canonical.step {input : CallInput} {registration registration' : Registration}
    (canonical : directory.Canonical blank lower)
    (nonblank : trim blank registration.typed ≠ [])
    (ran
      : registration.step blank lower libraries input directory = some (directory', registration'))
    : directory'.Canonical blank lower ∧ registration'.typed = registration.typed := by
  obtain ⟨⟨users', stage'⟩, called, same⟩ := Option.map_eq_some_iff.mp ran
  cases same
  refine ⟨?_, rfl⟩
  rcases registerCall_adds called with rfl | ⟨apart, passwordHash, rfl⟩
  · simpa using canonical
  · have grown : directory.users ++ [.create input.uuid input.now
        (RegisterDto.email blank lower registration.typed) passwordHash] ≠ directory.users := by
      simp
    rw [if_neg grown]
    constructor
    case ids => exact nodup_concat UserRecord.id canonical.ids (fun user known => (apart user known).1)
    case emails =>
      exact nodup_concat UserRecord.email canonical.emails (fun user known => (apart user known).2)
    case recorded =>
      intro user member
      rcases List.mem_append.mp member with known | new
      · obtain ⟨typed, recorded, same⟩ := canonical.recorded user known
        exact ⟨typed, List.mem_append_left _ recorded, same⟩
      · rw [List.mem_singleton.mp new]
        exact ⟨registration.typed, List.mem_append_right _ (List.mem_singleton.mpr rfl), rfl⟩
    case kept =>
      intro id typed member
      rcases List.mem_append.mp member with recorded | new
      · obtain ⟨filled, user, known, same⟩ := canonical.kept recorded
        exact ⟨filled, user, List.mem_append_left _ known, same⟩
      · obtain ⟨rfl, rfl⟩ := Prod.mk.inj (List.mem_singleton.mp new)
        exact ⟨nonblank, _, List.mem_append_right _ (List.mem_singleton.mpr rfl), rfl, rfl⟩

/-- Every interleaving keeps the directory canonical: what was typed is not blank. -/
theorem registrations_outline
    : (registrations blank lower libraries).Outline (Directory.Canonical blank lower)
        (fun _ _ slot => ∀ registration ∈ slot, trim blank registration.typed ≠ []) where
  start := by
    intro directory directory' index registration canonical _ started
    obtain ⟨⟨_, nonblank⟩, same⟩ := Option.ite_none_right_eq_some.mp started
    cases same
    refine ⟨canonical, ?_, fun _ _ _ others => others⟩
    rintro other ⟨⟩
    exact nonblank
  step := by
    intro directory directory' index input registration registration' canonical own ran
    have nonblank := own registration rfl
    obtain ⟨canonical', same⟩ := canonical.step nonblank ran
    refine ⟨canonical', ?_, fun _ _ _ others => others⟩
    rintro other ⟨⟩
    rw [same]
    exact nonblank

/-- In a canonical directory a look-up finds the user of what was typed exactly when it is for
something alike. -/
theorem Directory.Canonical.finds_iff (canonical : directory.Canonical blank lower)
    (folding : CaseFolding blank lower) {id : Uuid} {typed : List Char}
    (recorded : (id, typed) ∈ directory.typed) (asked : List Char)
    : (UserRepository.findByEmail directory.users (LoginDto.email blank lower asked)).map
          UserRecord.id
        = some id
      ↔ Alike blank lower asked typed := by
  obtain ⟨_, user, known, rfl, email⟩ := canonical.kept recorded
  rw [← email_eq_iff folding, ← email]
  constructor
  · intro found
    obtain ⟨other, found, same⟩ := Option.map_eq_some_iff.mp found
    obtain ⟨member, equal⟩ := findByEmail_some found
    rw [← List.inj_on_of_nodup_map canonical.ids member known same]
    exact equal.symm
  · intro same
    have found : UserRepository.findByEmail directory.users (LoginDto.email blank lower asked)
        = some user :=
      (findByEmail_iff canonical.emails known _).mpr same.symm
    rw [found]
    rfl

/-- A blank string is alike to no email. -/
theorem not_alike_blank (folding : CaseFolding blank lower) {typed : List Char}
    (nonblank : trim blank typed ≠ [])
    : ¬ Alike blank lower [] typed := by
  intro alike
  have same := (alike_iff folding).mp alike
  exact nonblank (List.map_eq_nil_iff.mp same.symm)

end

/-- Emails are canonical, and look-ups are complete: after every interleaving of registrations
each stored email is its own normal form, no two rows have emails that are alike, and a login
or a call finds the user that was registered by a string exactly for the strings alike to it. -/
theorem emails_canonical (folding : CaseFolding blank lower) (libraries : Libraries)
    {moves : List (Move Registration CallInput)} {pool : Pool Directory Registration}
    (run : (registrationMachine blank lower libraries).Reaches moves pool)
    : (∀ user ∈ pool.shared.users,
          RegisterDto.email blank lower user.email.toList = user.email)
      ∧ (∀ user ∈ pool.shared.users, ∀ other ∈ pool.shared.users,
          Alike blank lower user.email.toList other.email.toList → user = other)
      ∧ ∀ id typed, (id, typed) ∈ pool.shared.typed → ∀ asked : List Char,
          ((UserRepository.findByEmail pool.shared.users
                (LoginDto.email blank lower asked)).map UserRecord.id
              = some id
            ↔ Alike blank lower asked typed)
          ∧ ((SignalingGateway.findTarget blank lower pool.shared.users asked).map UserRecord.id
              = some id
            ↔ Alike blank lower asked typed) := by
  have canonical : pool.shared.Canonical blank lower :=
    (registrations_outline.reaches .empty (by simp) run).1
  have fixed : ∀ user ∈ pool.shared.users,
      RegisterDto.email blank lower user.email.toList = user.email := by
    intro user member
    obtain ⟨typed, _, email⟩ := canonical.recorded user member
    rw [email, email_fixed folding]
  refine ⟨fixed, fun user member other known alike => ?_, fun id typed recorded asked => ⟨?_, ?_⟩⟩
  · have same := (email_eq_iff folding).mpr alike
    rw [fixed user member, fixed other known] at same
    exact List.inj_on_of_nodup_map canonical.emails member known same
  · exact canonical.finds_iff folding recorded asked
  · by_cases empty : asked = []
    · subst empty
      have blankless := not_alike_blank folding (canonical.kept recorded).1
      simp [SignalingGateway.findTarget, blankless]
    · rw [findTarget_eq folding _ empty]
      exact canonical.finds_iff folding recorded asked

/-- The letters of ASCII that have a lower case. -/
def capitals : List Char := "ABCDEFGHIJKLMNOPQRSTUVWXYZ".toList

/-- `toLowerCase` on ASCII. -/
def asciiLower (c : Char) : Char := if c ∈ capitals then Char.ofNat (c.toNat + 32) else c

theorem ascii_folding : CaseFolding Char.isWhitespace asciiLower := by
  have all : ∀ c ∈ capitals, Char.ofNat (c.toNat + 32) ∉ capitals
      ∧ Char.isWhitespace (Char.ofNat (c.toNat + 32)) = false
      ∧ Char.isWhitespace c = false :=
    List.all_iff_forall_prop.mp (by decide)
  constructor
  case idempotent =>
    intro c
    by_cases capital : c ∈ capitals
    · simp [asciiLower, capital, (all c capital).1]
    · simp [asciiLower, capital]
  case fixes =>
    intro c white
    refine if_neg fun capital => ?_
    rw [(all c capital).2.2] at white
    exact Bool.noConfusion white
  case keeps =>
    intro c visible
    by_cases capital : c ∈ capitals
    · rw [asciiLower, if_pos capital]
      exact (all c capital).2.1
    · rwa [asciiLower, if_neg capital]

/-- Two registrations whose emails are alike, both past their look-up before one inserts. -/
def twiceRegistered : List (Move Registration CallInput) :=
  [
    .start ⟨" Bob@x.io".toList, "secret", .findByEmail⟩,
    .start ⟨"bob@X.io ".toList, "hidden", .findByEmail⟩,
    .step 0 { now := 0, uuid := 1 },
    .step 1 { now := 0, uuid := 2 },
    .step 1 { now := 0, uuid := 3 },
    .step 0 { now := 0, uuid := 4 }
  ]

/-- One row is left, which both strings find. -/
theorem emails_canonical_twice
    : ∃ pool, (registrationMachine Char.isWhitespace asciiLower plainLibraries).Reaches
          twiceRegistered pool
        ∧ pool.shared.typed = [(3, "bob@X.io ".toList)]
        ∧ ∀ asked : List Char,
          (UserRepository.findByEmail pool.shared.users
                (LoginDto.email Char.isWhitespace asciiLower asked)).map UserRecord.id
              = some 3
            ↔ Alike Char.isWhitespace asciiLower asked "bob@X.io ".toList := by
  obtain ⟨pool, run, typed⟩ : ∃ pool,
      (registrationMachine Char.isWhitespace asciiLower plainLibraries).Reaches
          twiceRegistered pool
        ∧ pool.shared.typed = [(3, "bob@X.io ".toList)] :=
    ⟨_, rfl, rfl⟩
  refine ⟨pool, run, typed, fun asked => ?_⟩
  have found := (emails_canonical ascii_folding plainLibraries run).2.2 3 "bob@X.io ".toList
  exact (found (by rw [typed]; exact List.mem_singleton.mpr rfl) asked).1

end NexusComms.Accounts
