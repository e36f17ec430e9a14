import NexusComms.Access.Authority
import NexusComms.Sessions.Revocation

/-! How long the tokens of a session last after it has ended. No route lets them through any
more, and the gateway accepts them for as long as they have been signed for.
-/

namespace NexusComms.Sessions

open Concurrency

/-- The session for which a login has still to sign a token. -/
def Request.issuing : Request → Option Uuid
  | .login _ (.issueTokenSet sessionId) => some sessionId
  | .login _ (.upsertCsrf sessionId _) => some sessionId
  | _ => none

/-- A login still has to sign a token for the session. -/
def Issuing (pool : Pool Store Request) (sessionId : Uuid) : Prop :=
  ∃ request ∈ pool.threads, request.issuing = some sessionId

/-- What one statement of `issueTokens` comes to. -/
inductive Issues (input : Input) (store : Store) (userId : Uuid)
    : LoginStage → LoginStage → Prop
  | threw {stage : LoginStage} : Issues input store userId stage .threw
  | opens (fresh : input.uuid ∉ store.uuids)
    : Issues input store userId .createSession (.issueTokenSet input.uuid)
  | issues {sessionId : Uuid}
    : Issues input store userId (.issueTokenSet sessionId)
        (.upsertCsrf sessionId input.rawToken)
  | returns {sessionId : Uuid} {rawToken : RawToken}
    : Issues input store userId (.upsertCsrf sessionId rawToken)
        (.returned ⟨⟨userId, sessionId⟩, rawToken, input.rawToken⟩)

section

variable {sha256 : RawToken → Digest} {store store' : Store} {index : Nat} {input : Input}
  {request request' : Request} {tokens : AuthTokens} {sessionId : Uuid}

theorem start_issuing (started : Request.start sha256 store request = some store')
    : request.issuing ≠ some sessionId := by
  unfold Request.start at started
  split at started
  · simp [Request.issuing]
  · simp [Request.issuing]
  · simp [Request.issuing]
  · simp [Request.issuing]
  · simp [Request.issuing]
  · cases started

/-- Every statement of a login does one of these. -/
theorem issueTokens_issues {userId : Uuid} {stage stage' : LoginStage}
    (ran : AuthService.issueTokens sha256 input store userId stage = some (store', stage'))
    : Issues input store userId stage stage' := by
  cases stage with
  | createSession =>
      simp only [AuthService.issueTokens] at ran
      split at ran
      · cases ran
        exact .threw
      · obtain ⟨fresh, issued⟩ := Option.ite_none_right_eq_some.mp ran
        cases issued
        exact .opens fresh
  | issueTokenSet session =>
      simp only [AuthService.issueTokens] at ran
      split at ran
      · cases ran
        exact .threw
      · obtain ⟨_, issued⟩ := Option.ite_none_right_eq_some.mp ran
        cases issued
        exact .issues
  | upsertCsrf session rawRefreshToken =>
      simp only [AuthService.issueTokens] at ran
      split at ran
      · cases ran
        exact .threw
      · obtain ⟨_, issued⟩ := Option.ite_none_right_eq_some.mp ran
        cases issued
        exact .returns
  | returned earlier => cases ran
  | threw => cases ran

/-- For a session that has ended, only the login that opened it can still sign a token. -/
theorem returned_issuing (valid : Valid sha256 store) (ended : Ended store sessionId)
    (ran : (program sha256).step index input store request = some (store', request'))
    (returned : request'.returned = some tokens) (named : tokens.accessToken.sid = sessionId)
    : request.issuing = some sessionId := by
  obtain ⟨later, stepped⟩ := program_step_some ran
  obtain ⟨valid', ticked⟩ := tick_kept index valid later
  cases request' with
  | login userId stage' =>
      obtain ⟨stage, rfl, issued⟩ := step_login stepped
      cases issueTokens_issues issued with
      | threw => cases returned
      | opens fresh => cases returned
      | issues => cases returned
      | returns =>
          cases returned
          exact congrArg some named
  | refresh rawToken stage' =>
      cases stage' with
      | returned signed =>
          cases returned
          exact absurd ((ended.frame ticked).not_found valid')
            (grants_found stepped (congrArg some named))
      | rotating stage => cases returned
      | upsertCsrf newRawToken session => cases returned
      | findActiveSession newRawToken session csrfToken => cases returned
      | threw message => cases returned
  | logout session stage => cases returned
  | logoutAll userId stage => cases returned
  | validate payload stage => cases returned

/-- A login that still has to sign for a session that has its row did so before. -/
theorem issuing_before (valid : Valid sha256 store) (ended : Ended store sessionId)
    (ran : (program sha256).step index input store request = some (store', request'))
    (issues : request'.issuing = some sessionId)
    : request.issuing = some sessionId := by
  obtain ⟨later, stepped⟩ := program_step_some ran
  cases request' with
  | login userId stage' =>
      obtain ⟨stage, rfl, issued⟩ := step_login stepped
      cases issueTokens_issues issued with
      | threw => cases issues
      | opens fresh =>
          cases issues
          obtain ⟨row, member, named, _⟩ := ended
          have old := valid.knownSessions row (List.mem_append_left _ member)
          exact absurd (named ▸ old) fresh
      | issues => exact issues
      | returns => cases issues
  | refresh rawToken stage' => cases issues
  | logout session stage => cases issues
  | logoutAll userId stage => cases issues
  | validate payload stage => cases issues

end

end NexusComms.Sessions

namespace NexusComms.Access

open Concurrency Sessions Signaling

namespace Platform

/-- The session has ended, and since some state nobody has been let in for it or has signed for
it, but for the login that opened it. -/
structure Fading (sha256 : RawToken → Digest) (since : Platform) (sessionId : Uuid)
    (platform : Platform)
    : Prop where
  requests
    : Program.Holds
        (fun store => Valid sha256 store ∧ Ended store sessionId)
        (fun store index slot =>
          SlotHolds sha256 store index slot
          ∧ ∀ request,
              slot = some request → request.grants = some sessionId →
                since.sessions.threads[index]? = some request)
        platform.sessions
  issuing (pending : Issuing platform.sessions sessionId) : Issuing since.sessions sessionId
  signatures {signature : Signature} (signed : signature ∈ platform.signatures)
    (named : signature.payload.sid = sessionId)
    : Issuing since.sessions sessionId ∨ signature.signedAt ≤ seconds since.clock

section

variable {Token : Type} {jwt : JwtService Token} {sha256 : RawToken → Digest}
  {runtime : Runtime} {since platform next : Platform} {sessionId : Uuid}

/-- A session that has ended fades from there on. -/
theorem Sound.fading (sound : Sound jwt sha256 runtime since)
    (ended : Ended since.sessions.shared sessionId)
    : Fading sha256 since sessionId since := by
  obtain ⟨moves, run⟩ := sound.sessions
  obtain ⟨valid, slots⟩ := reaches_outline run
  exact ⟨⟨⟨valid, ended⟩, fun index => ⟨slots index, fun _ found _ => found⟩⟩, id,
    fun signed _ => Or.inr (sound.signatures signed).1⟩

/-- Every step keeps it so. -/
theorem Fading.step (fading : Fading sha256 since sessionId platform)
    (concerns : Concerns sha256 runtime platform next)
    : Fading sha256 since sessionId next := by
  cases concerns with
  | nothing sessions signatures world =>
      exact ⟨sessions ▸ fading.requests, fun pending => fading.issuing (sessions ▸ pending),
        fun signed => fading.signatures (signatures ▸ signed)⟩
  | event stimulus handled sessions signatures =>
      exact ⟨sessions ▸ fading.requests, fun pending => fading.issuing (sessions ▸ pending),
        fun signed => fading.signatures (signatures ▸ signed)⟩
  | request request began signatures world =>
      refine ⟨(revocation_outline since.sessions sessionId).move fading.requests began, ?_,
        fun signed => fading.signatures (signatures ▸ signed)⟩
      rintro ⟨pending, member, issues⟩
      obtain ⟨started, threads⟩ := (program sha256).move_start_some began
      rw [threads] at member
      rcases List.mem_append.mp member with earlier | new
      · exact fading.issuing ⟨pending, earlier, issues⟩
      · cases List.mem_singleton.mp new
        exact absurd issues (start_issuing started)
  | statement index input ran signatures world =>
      obtain ⟨valid, ended⟩ := fading.requests.1
      obtain ⟨request, after, found, stepped, threads⟩ := (program sha256).move_step_some ran
      refine ⟨(revocation_outline since.sessions sessionId).move fading.requests ran, ?_, ?_⟩
      · rintro ⟨pending, member, issues⟩
        rw [threads] at member
        rcases List.mem_or_eq_of_mem_set member with earlier | rfl
        · exact fading.issuing ⟨pending, earlier, issues⟩
        · have before := issuing_before valid ended stepped issues
          exact fading.issuing ⟨request, List.mem_of_getElem? found, before⟩
      · intro signature signed named
        rw [signatures] at signed
        rcases List.mem_append.mp signed with earlier | new
        · exact fading.signatures earlier named
        · obtain ⟨tokens, returned, rfl⟩ := Option.map_eq_some_iff.mp (Option.mem_toList.mp new)
          have own : next.sessions.threads[index]? = some after := by
            rw [threads, List.getElem?_set_self (List.getElem?_eq_some_iff.mp found).1]
          rw [own] at returned
          have issues := returned_issuing valid ended stepped returned named
          exact Or.inl (fading.issuing ⟨request, List.mem_of_getElem? found, issues⟩)

/-- Once a session has ended, its tokens run out. No handler begins any more for a request with
one of them, but for a request that the guard had let through by then; and no socket is opened
with one of them later than the lifetime of a token after the end, unless the login that opened
the session was still going on.
-/
theorem tokens_run_out [DecidableEq Token] {first second : List (Occasion Token)}
    {middle final : Platform}
    (reached : (machine jwt sha256 runtime).Reaches first middle)
    (later : (machine jwt sha256 runtime).exec middle second = some final)
    (ended : Ended middle.sessions.shared sessionId)
    : (∀ index bearer,
        (index, bearer) ∈ final.handled → bearer.payload.sid = sessionId →
          middle.sessions.threads[bearer.validator]?
            = some (.validate bearer.payload .accepted))
      ∧ ∀ handshake ∈ final.handshakes, ∀ payload,
          handshake.payload = some payload → payload.sid = sessionId →
            Issuing middle.sessions sessionId
            ∨ handshake.connectedAt < seconds middle.clock + jwt.expiresIn := by
  have begun := reaches_sound reached
  have fades
      : Sound jwt sha256 runtime final ∧ Fading sha256 middle sessionId final := by
    refine (machine jwt sha256 runtime).exec_preserves
      (fun platform =>
        Sound jwt sha256 runtime platform ∧ Fading sha256 middle sessionId platform)
      ?_ ⟨begun, begun.fading ended⟩ later
    intro platform occasion next ⟨sound, fading⟩ taken
    obtain ⟨_, concerns, sound'⟩ := sound.step_concerns taken
    have ticked : Fading sha256 middle sessionId { platform with clock := occasion.now } :=
      ⟨fading.requests, fading.issuing, fading.signatures⟩
    exact ⟨sound', ticked.step concerns⟩
  obtain ⟨sound, fading⟩ := fades
  constructor
  · intro index bearer handling named
    have accepted := (sound.handled handling).2
    exact (fading.requests.2 bearer.validator).2 _ accepted (congrArg some named)
  · intro handshake made payload found named
    obtain ⟨signature, signed, same, _, current⟩ := sound.handshakes made found
    rcases fading.signatures signed (same ▸ named) with pending | early
    · exact Or.inl pending
    · exact Or.inr (Nat.lt_of_lt_of_le current (Nat.add_le_add_right early _))

/-- The token of a session that was logged out still opens a socket. -/
theorem tokens_run_out_revisit
    : ∃ handshake ∈ (runAfter (visit ++ revisit)).handshakes,
        handshake.socketId = 12
        ∧ handshake.payload = some ⟨1, 2⟩
        ∧ (Issuing (runAfter visit).sessions 2
          ∨ handshake.connectedAt < seconds (runAfter visit).clock + plainJwt.expiresIn) := by
  have reached : (machine plainJwt id plainRuntime).Reaches visit (runAfter visit) := rfl
  have later
      : (machine plainJwt id plainRuntime).exec (runAfter visit) revisit
        = some (runAfter (visit ++ revisit)) := rfl
  have ended : Ended (runAfter visit).sessions.shared 2 :=
    ⟨⟨2, 1, true, 1, 1 + sevenDays⟩, by decide, rfl, Or.inl rfl⟩
  have made
      : Handshake.mk 12 (some ⟨1, 2⟩) 102 4 ∈ (runAfter (visit ++ revisit)).handshakes := by
    decide
  exact ⟨_, made, rfl, rfl, (tokens_run_out reached later ended).2 _ made _ rfl rfl⟩

end

end Platform

end NexusComms.Access
