import Mathlib.Data.Bool.AllAny
import NexusComms.Basic
import NexusComms.Strings.Patterns

/-! The lifetime of access tokens. `JWT_ACCESS_EXPIRY` is read twice: by the signer, which leaves
it to the package `ms`, and by `accessTokenExpirySeconds`, which knows three units and takes a
string that it can't read for 15 minutes. Numbers are exact, as the program's are up to 2^53.
-/

namespace NexusComms.Accounts

open Strings RegularExpression

--------------------------------------------------------------------------------
-- Settings
--------------------------------------------------------------------------------

/-- The units of `ms`. -/
inductive TimeUnit where
  | year
  | week
  | day
  | hour
  | minute
  | second
  | millisecond
deriving DecidableEq, Repr

/-- The names of a unit, in lower case. A number without a name counts milliseconds. -/
def TimeUnit.names : TimeUnit → List (List Char)
  | year => ["years".toList, "year".toList, "yrs".toList, "yr".toList, "y".toList]
  | week => ["weeks".toList, "week".toList, "w".toList]
  | day => ["days".toList, "day".toList, "d".toList]
  | hour => ["hours".toList, "hour".toList, "hrs".toList, "hr".toList, "h".toList]
  | minute => ["minutes".toList, "minute".toList, "mins".toList, "min".toList, "m".toList]
  | second => ["seconds".toList, "second".toList, "secs".toList, "sec".toList, "s".toList]
  | millisecond =>
      ["milliseconds".toList, "millisecond".toList, "msecs".toList, "msec".toList, "ms".toList, []]

/-- A year has 365.25 days. -/
def TimeUnit.milliseconds : TimeUnit → Nat
  | year => 31557600000
  | week => 604800000
  | day => 86400000
  | hour => 3600000
  | minute => 60000
  | second => 1000
  | millisecond => 1

/-- A setting that the signer accepts: digits, blanks and the name of a unit, together no longer
than `ms` reads. -/
structure Setting where
  value : List Char
  blanks : Nat
  name : List Char
  unit : TimeUnit
  nonempty : value ≠ []
  decimal : ∀ c ∈ value, c ∈ digits
  named : name.map Char.toLower ∈ unit.names
  short : (value ++ (List.replicate blanks ' ' ++ name)).length ≤ 100

/-- `JWT_ACCESS_EXPIRY`. -/
def Setting.text (setting : Setting) : List Char :=
  setting.value ++ (List.replicate setting.blanks ' ' ++ setting.name)

def Setting.milliseconds (setting : Setting) : Nat :=
  numeral setting.value * setting.unit.milliseconds

/-- What `ms` documents of such settings. -/
def Documented (ms : List Char → Option Nat) : Prop :=
  ∀ setting : Setting, ms setting.text = some setting.milliseconds

--------------------------------------------------------------------------------
-- The service
--------------------------------------------------------------------------------

/-- `JwtPayload`, times in seconds. -/
structure AccessClaims where
  sub : Uuid
  sid : Uuid
  iat : Time
  exp : Time
deriving DecidableEq, Repr

/-- `AuthTokens`. -/
structure IssuedTokens where
  accessToken : AccessClaims
  refreshToken : Nat
  csrfToken : Nat
  expiresIn : Nat
deriving DecidableEq, Repr

/-- `config.get('JWT_ACCESS_EXPIRY', '15m')`. -/
def accessExpiry (configured : Option (List Char)) : List Char := configured.getD "15m".toList

/-- `exp` is `Math.floor(iat + milliseconds / 1000)`; a string without a meaning is refused. -/
def signAccessToken (ms : List Char → Option Nat) (configured : Option (List Char)) (now : Time)
    (userId sessionId : Uuid)
    : Option AccessClaims :=
  (ms (accessExpiry configured)).map fun milliseconds =>
    { sub := userId
      sid := sessionId
      iat := now
      exp := (now * 1000 + milliseconds) / 1000 }

/-- `^(\d+)(m|h|d)$`. -/
def expiryPattern : RegularExpression Char :=
  many (oneOf digits) * (char 'm' + char 'h' + char 'd')

/-- The second group of a match is the last character, the first one what comes before it. -/
def accessTokenExpirySeconds (configured : Option (List Char)) : Nat :=
  let expiry := accessExpiry configured
  if expiryPattern.rmatch expiry then
    let n := numeral expiry.dropLast
    match expiry.getLast? with
    | some 'm' => n * 60
    | some 'h' => n * 3600
    | some 'd' => n * 86400
    | _ => 900
  else
    900

/-- The last steps of a login: tokens for the session that has been created. -/
def issueTokens (ms : List Char → Option Nat) (configured : Option (List Char)) (now : Time)
    (userId sessionId : Uuid) (rawRefreshToken csrfToken : Nat)
    : Option IssuedTokens :=
  (signAccessToken ms configured now userId sessionId).map fun accessToken =>
    { accessToken
      refreshToken := rawRefreshToken
      csrfToken
      expiresIn := accessTokenExpirySeconds configured }

/-- The last steps of a refresh: the session is found by its id, and its user with it. -/
def refreshTokens (ms : List Char → Option Nat) (configured : Option (List Char)) (now : Time)
    (findActiveSession : Uuid → Option Uuid) (sessionId : Uuid) (newRawToken csrfToken : Nat)
    : Option IssuedTokens :=
  (findActiveSession sessionId).bind fun userId =>
    (signAccessToken ms configured now userId sessionId).map fun accessToken =>
      { accessToken
        refreshToken := newRawToken
        csrfToken
        expiresIn := accessTokenExpirySeconds configured }

--------------------------------------------------------------------------------
-- The two readings
--------------------------------------------------------------------------------

/-- A number and one of the letters m, h and d. -/
def Setting.Plain (setting : Setting) : Prop :=
  setting.blanks = 0 ∧ setting.name ∈ [['m'], ['h'], ['d']]

instance (setting : Setting) : Decidable setting.Plain :=
  inferInstanceAs (Decidable (_ ∧ _))

theorem expiryPattern_iff {s : List Char}
    : expiryPattern.rmatch s = true
      ↔ ∃ value letter, (value ≠ [] ∧ ∀ c ∈ value, c ∈ digits) ∧ letter ∈ ['m', 'h', 'd']
        ∧ s = value ++ [letter] := by
  rw [rmatch_iff_matches', expiryPattern, matches'_mul, Language.mem_mul]
  constructor
  · rintro ⟨value, hvalue, last, hlast, rfl⟩
    have letter : ∃ c ∈ ['m', 'h', 'd'], last = [c] := by
      rcases hlast with (rfl | rfl) | rfl
      · exact ⟨'m', by decide, rfl⟩
      · exact ⟨'h', by decide, rfl⟩
      · exact ⟨'d', by decide, rfl⟩
    obtain ⟨c, hc, rfl⟩ := letter
    exact ⟨value, c, mem_oneOf_many.mp hvalue, hc, rfl⟩
  · rintro ⟨value, letter, hvalue, hletter, rfl⟩
    refine ⟨value, mem_oneOf_many.mpr hvalue, [letter], ?_, rfl⟩
    rcases List.mem_cons.mp hletter with rfl | hletter
    · exact Or.inl (Or.inl rfl)
    rcases List.mem_cons.mp hletter with rfl | hletter
    · exact Or.inl (Or.inr rfl)
    · exact Or.inr (List.mem_singleton.mp hletter ▸ rfl)

/-- A name has no digit in it. -/
theorem digit_not_in_name {unit : TimeUnit} {name : List Char} (named : name ∈ unit.names)
    {c : Char} (digit : c ∈ digits)
    : c ∉ name := by
  have all : ∀ unit ∈ [TimeUnit.year, .week, .day, .hour, .minute, .second, .millisecond],
      ∀ name ∈ unit.names, digits.all (fun c => c ∉ name) = true := by decide
  have apart := all unit (by cases unit <;> decide) name named
  exact List.all_iff_forall_prop.mp apart c digit

/-- Lower case leaves a digit as it is. -/
theorem toLower_digit {c : Char} (digit : c ∈ digits)
    : c.toLower = c := by
  have all : ∀ c ∈ digits, c.toLower = c := List.all_iff_forall_prop.mp (by decide)
  exact all c digit

/-- The pattern matches the plain settings and no others. -/
theorem Setting.matched_iff (setting : Setting)
    : expiryPattern.rmatch setting.text = true ↔ setting.Plain := by
  rw [expiryPattern_iff]
  constructor
  · rintro ⟨value, letter, ⟨_, decimal⟩, hletter, same⟩
    have letters : letter ∉ digits ∧ letter ≠ ' ' := by
      have all : ∀ c ∈ ['m', 'h', 'd'], c ∉ digits ∧ c ≠ ' ' :=
        List.all_iff_forall_prop.mp (by decide)
      exact all letter hletter
    rcases List.eq_nil_or_concat setting.name with unnamed | ⟨before, last, split⟩
    · -- a setting without a name ends with a digit or with a blank
      have ends : letter ∈ setting.text := by rw [same]; simp
      rw [text, unnamed, List.append_nil] at ends
      rcases List.mem_append.mp ends with digit | blank
      · exact absurd (setting.decimal letter digit) letters.1
      · exact absurd (List.eq_of_mem_replicate blank) letters.2
    · rw [List.concat_eq_append] at split
      rw [text, split, ← List.append_assoc, ← List.append_assoc] at same
      obtain ⟨front, lasts⟩ := List.append_inj' same rfl
      obtain rfl := List.singleton_inj.mp lasts
      have digit {c : Char} (hc : c ∈ List.replicate setting.blanks ' ' ++ before)
          : c ∈ digits :=
        decimal c (by rw [← front, List.append_assoc]; exact List.mem_append_right _ hc)
      have unblanked : setting.blanks = 0 := by
        by_contra some
        have := digit (List.mem_append_left _ (List.mem_replicate.mpr ⟨some, rfl⟩))
        exact absurd this (by decide)
      have alone : before = [] := by
        cases before with
        | nil => rfl
        | cons c rest =>
            have first : c ∈ digits := digit (List.mem_append_right _ (by simp))
            refine absurd ?_ (digit_not_in_name setting.named first)
            rw [split]
            simp [toLower_digit first]
      subst alone
      refine ⟨unblanked, ?_⟩
      rw [split]
      exact List.mem_map_of_mem (f := fun c => [c]) hletter
  · rintro ⟨unblanked, named⟩
    obtain ⟨letter, hletter, single⟩ : ∃ letter ∈ ['m', 'h', 'd'], [letter] = setting.name :=
      List.mem_map.mp named
    refine ⟨setting.value, letter, ⟨setting.nonempty, setting.decimal⟩, hletter, ?_⟩
    rw [text, unblanked, ← single]
    rfl

/-- The letter of a plain setting decides its unit. -/
theorem unit_of_letter {unit : TimeUnit} {letter : Char} (named : [letter.toLower] ∈ unit.names)
    : (letter = 'm' → unit = .minute) ∧ (letter = 'h' → unit = .hour)
      ∧ (letter = 'd' → unit = .day) := by
  refine ⟨?_, ?_, ?_⟩
  all_goals
    rintro rfl
    revert named
    cases unit <;> decide

variable {configured : Option (List Char)} {setting : Setting}

/-- A plain setting is read the same way twice. -/
theorem plain_seconds (same : accessExpiry configured = setting.text) (plain : setting.Plain)
    : accessTokenExpirySeconds configured * 1000 = setting.milliseconds := by
  have matched := setting.matched_iff.mpr plain
  obtain ⟨unblanked, named⟩ := plain
  have letter {c : Char} (single : setting.name = [c])
      : setting.text.dropLast = setting.value ∧ setting.text.getLast? = some c
        ∧ [c.toLower] ∈ setting.unit.names := by
    have whole : setting.text = setting.value ++ [c] := by
      rw [Setting.text, unblanked, single]
      rfl
    rw [whole]
    refine ⟨List.dropLast_concat, List.getLast?_concat, ?_⟩
    have := setting.named
    rwa [single] at this
  rw [accessTokenExpirySeconds, same]
  dsimp only
  rw [if_pos matched, Setting.milliseconds]
  simp only [List.mem_cons, List.not_mem_nil, or_false] at named
  rcases named with minutes | hours | days
  · obtain ⟨front, last, unit⟩ := letter minutes
    rw [front, last, (unit_of_letter unit).1 rfl]
    exact Nat.mul_assoc _ 60 1000
  · obtain ⟨front, last, unit⟩ := letter hours
    rw [front, last, (unit_of_letter unit).2.1 rfl]
    exact Nat.mul_assoc _ 3600 1000
  · obtain ⟨front, last, unit⟩ := letter days
    rw [front, last, (unit_of_letter unit).2.2 rfl]
    exact Nat.mul_assoc _ 86400 1000

/-- Any other setting is reported as 15 minutes. -/
theorem other_seconds (same : accessExpiry configured = setting.text) (other : ¬ setting.Plain)
    : accessTokenExpirySeconds configured = 900 := by
  rw [accessTokenExpirySeconds, same]
  exact if_neg (mt setting.matched_iff.mp other)

/-- The reported lifetime is the real one. -/
def Honest (tokens : IssuedTokens) : Prop :=
  tokens.expiresIn = tokens.accessToken.exp - tokens.accessToken.iat

instance (tokens : IssuedTokens) : Decidable (Honest tokens) :=
  inferInstanceAs (Decidable (_ = _))

/-- The settings that are reported as they are: the plain ones, and those that amount to 15
minutes. -/
def Setting.Reported (setting : Setting) : Prop :=
  setting.Plain ∨ 900000 ≤ setting.milliseconds ∧ setting.milliseconds < 901000

instance (setting : Setting) : Decidable setting.Reported :=
  inferInstanceAs (Decidable (_ ∨ _))

theorem seconds_eq_iff (same : accessExpiry configured = setting.text) (now : Time)
    : accessTokenExpirySeconds configured = (now * 1000 + setting.milliseconds) / 1000 - now
      ↔ setting.Reported := by
  by_cases plain : setting.Plain
  · have := plain_seconds same plain
    exact ⟨fun _ => Or.inl plain, fun _ => by omega⟩
  · rw [other_seconds same plain]
    constructor
    · exact fun equal => Or.inr (by omega)
    · rintro (isPlain | range)
      · exact absurd isPlain plain
      · omega

/-- The signer gives a token its setting. -/
theorem signAccessToken_eq {ms : List Char → Option Nat} (documented : Documented ms)
    (same : accessExpiry configured = setting.text) (now : Time) (userId sessionId : Uuid)
    : signAccessToken ms configured now userId sessionId
      = some
        { sub := userId
          sid := sessionId
          iat := now
          exp := (now * 1000 + setting.milliseconds) / 1000 } := by
  rw [signAccessToken, same, documented setting]
  rfl

/-- A login and a refresh report the lifetime of the token that they sign exactly when the
setting is plain or amounts to 15 minutes. -/
theorem lifetime_reported_iff {ms : List Char → Option Nat} (documented : Documented ms)
    {configured : Option (List Char)} {setting : Setting}
    (same : accessExpiry configured = setting.text) (now : Time) (userId sessionId : Uuid)
    (refreshToken csrfToken : Nat)
    : ((∃ tokens, issueTokens ms configured now userId sessionId refreshToken csrfToken = some tokens
          ∧ Honest tokens)
        ∧ ∀ findActiveSession tokens,
          refreshTokens ms configured now findActiveSession sessionId refreshToken csrfToken
              = some tokens
            → Honest tokens)
      ↔ setting.Reported := by
  have signed := signAccessToken_eq documented same now
  rw [← seconds_eq_iff same now]
  constructor
  · rintro ⟨⟨tokens, issued, honest⟩, -⟩
    rw [issueTokens, signed] at issued
    rw [← Option.some.inj issued] at honest
    exact honest
  · intro equal
    constructor
    · refine ⟨_, by rw [issueTokens, signed]; rfl, ?_⟩
      exact equal
    · intro findActiveSession tokens refreshed
      obtain ⟨owner, -, refreshed⟩ := Option.bind_eq_some_iff.mp refreshed
      rw [signed] at refreshed
      rw [← Option.some.inj refreshed]
      exact equal

--------------------------------------------------------------------------------
-- A package that reads settings
--------------------------------------------------------------------------------

/-- `ms` on strings that begin with digits. -/
def parseDuration (s : List Char) : Option Nat :=
  let value := s.takeWhile (· ∈ digits)
  let name := ((s.dropWhile (· ∈ digits)).dropWhile (· = ' ')).map Char.toLower
  if s.length ≤ 100 ∧ value ≠ [] then
    ([TimeUnit.year, .week, .day, .hour, .minute, .second, .millisecond].find?
      fun unit => name ∈ unit.names).map fun unit => numeral value * unit.milliseconds
  else
    none

/-- A name belongs to one unit. -/
theorem find_unit {unit : TimeUnit} {name : List Char} (named : name ∈ unit.names)
    : [TimeUnit.year, .week, .day, .hour, .minute, .second, .millisecond].find?
        (fun unit => name ∈ unit.names)
      = some unit := by
  have all : ∀ unit ∈ [TimeUnit.year, .week, .day, .hour, .minute, .second, .millisecond],
      ∀ name ∈ unit.names,
        [TimeUnit.year, .week, .day, .hour, .minute, .second, .millisecond].find?
          (fun unit => decide (name ∈ unit.names))
        = some unit := by decide
  exact all unit (by cases unit <;> decide) name named

/-- The name of a setting begins neither with a digit nor with a blank. -/
theorem Setting.name_chars (setting : Setting) {c : Char} (hmem : c ∈ setting.name)
    : c ∉ digits ∧ c ≠ ' ' := by
  have lower : c.toLower ∈ setting.name.map Char.toLower := List.mem_map_of_mem hmem
  constructor
  · intro digit
    exact digit_not_in_name setting.named digit (toLower_digit digit ▸ lower)
  · rintro rfl
    have all : ∀ unit ∈ [TimeUnit.year, .week, .day, .hour, .minute, .second, .millisecond],
        ∀ name ∈ unit.names, ' ' ∉ name := by decide
    exact all setting.unit (by cases setting.unit <;> decide) _ setting.named lower

theorem parseDuration_documented : Documented parseDuration := by
  intro setting
  have apart : ∀ c ∈ List.replicate setting.blanks ' ' ++ setting.name, c ∉ digits := by
    intro c hmem
    rcases List.mem_append.mp hmem with blank | hname
    · rw [List.eq_of_mem_replicate blank]
      decide
    · exact (setting.name_chars hname).1
  have blank : ∀ c ∈ List.replicate setting.blanks ' ', decide (c = ' ') = true :=
    fun c hmem => decide_eq_true (List.eq_of_mem_replicate hmem)
  have unblank : ∀ c ∈ setting.name, decide (c = ' ') = false :=
    fun c hmem => decide_eq_false (setting.name_chars hmem).2
  obtain ⟨value, rest⟩ := span_append
    (fun c hmem => decide_eq_true (setting.decimal c hmem))
    (fun c hmem => decide_eq_false (apart c hmem))
  have name := (span_append blank unblank).2
  rw [parseDuration, Setting.text, value, rest, name,
    if_pos ⟨setting.short, setting.nonempty⟩, find_unit setting.named]
  rfl

/-- The setting without an environment. -/
def fifteenMinutes : Setting where
  value := ['1', '5']
  blanks := 0
  name := ['m']
  unit := .minute
  nonempty := by decide
  decimal := List.all_iff_forall_prop.mp (by decide)
  named := by decide
  short := by decide

theorem lifetime_reported_default
    : (∃ tokens, issueTokens parseDuration none 1000 1 2 3 4 = some tokens ∧ Honest tokens)
      ∧ ∀ findActiveSession tokens,
        refreshTokens parseDuration none 1000 findActiveSession 2 3 4 = some tokens
          → Honest tokens :=
  (lifetime_reported_iff parseDuration_documented
    (show accessExpiry none = fifteenMinutes.text from rfl) 1000 1 2 3 4).mpr (by decide)

/-- A token that is valid for 30 seconds is reported as valid for 15 minutes. -/
theorem seconds_misreported
    : ∃ tokens, issueTokens parseDuration (some "30s".toList) 1000 1 2 3 4 = some tokens
      ∧ tokens.accessToken.exp - tokens.accessToken.iat = 30 ∧ tokens.expiresIn = 900
      ∧ ¬ Honest tokens :=
  ⟨_, rfl, by decide, by decide, by decide⟩

end NexusComms.Accounts
