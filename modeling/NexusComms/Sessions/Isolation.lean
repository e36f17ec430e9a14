import NexusComms.Sessions.Ownership
import NexusComms.Sessions.Rotation

/-! Users are isolated from each other. `rotate` never looks at a user: that a token only
reaches the rows of the user to whom it was issued follows from its family, which belongs to
the session of one login for ever.
-/

namespace NexusComms.Sessions

open Storage Concurrency LockedTable

/-- During the run a login of the user has begun the family, by inserting its first token. -/
def BegunBy (sha256 : RawToken → Digest) (moves : List (Move Request Input))
    (userId familyId : Uuid)
    : Prop :=
  ∃ first index input last pool sessionId,
    moves = first ++ .step index input :: last
    ∧ (machine sha256).Reaches first pool
    ∧ pool.threads[index]? = some (.login userId (.issueTokenSet sessionId))
    ∧ input.fails = false
    ∧ input.familyId = familyId

/-- The tokens that a request has returned to its client. -/
def Request.returned : Request → Option AuthTokens
  | .login _ (.returned tokens) => some tokens
  | .refresh _ (.returned tokens) => some tokens
  | _ => none

/-- Some request has returned an access token with this payload. -/
def Signed (pool : Pool Store Request) (payload : JwtPayload) : Prop :=
  ∃ request ∈ pool.threads,
    ∃ tokens, request.returned = some tokens ∧ tokens.accessToken = payload

/-- The credentials of a request were issued to the user. A login has none but its password. -/
def Request.Carries (sha256 : RawToken → Digest) (moves : List (Move Request Input))
    (pool : Pool Store Request) (userId : Uuid)
    : Request → Prop
  | .login name _ => name = userId
  | .refresh rawToken _ =>
      ∃ row ∈ pool.shared.refreshTokens.all,
        row.tokenHash = sha256 rawToken ∧ BegunBy sha256 moves userId row.familyId
  | .logout sessionId _ => Signed pool ⟨userId, sessionId⟩
  | .logoutAll name _ => name = userId ∧ ∃ sessionId, Signed pool ⟨userId, sessionId⟩
  | .validate payload _ => payload.sub = userId ∧ Signed pool payload

/-- The request that a move starts or runs. -/
def acting (pool : Pool Store Request) : Move Request Input → Option Request
  | .start request => some request
  | .step index _ => pool.threads[index]?

/-- The rows of the three tables that belong to no session of the user. -/
def Store.foreign (store : Store) (userId : Uuid)
    : List SessionRow × List RefreshTokenRow × List CsrfTokenRow :=
  (store.sessions.rows.filter (fun row => row.userId ≠ userId),
    store.refreshTokens.rows.filter (fun row => ¬ OwnedBy store userId row.sessionId),
    store.csrfTokens.filter (fun row => ¬ OwnedBy store userId row.sessionId))

/-- All rows of the family are tokens of the user's sessions. -/
structure FamilyOf (store : Store) (familyId userId : Uuid) : Prop where
  known : familyId ∈ store.uuids
  owned
    : ∀ row ∈ store.refreshTokens.all,
        row.familyId = familyId → OwnedBy store userId row.sessionId

section

variable {sha256 : RawToken → Digest} {before after : Store} {owner : Nat}
  {part : Uuid → Prop} {userId familyId : Uuid} {request request' : Request} {input : Input}
  {moves : List (Move Request Input)} {pool next : Pool Store Request}
  {action : Move Request Input}

/-- The outline of all requests, with what each of them owns. -/
abbrev Outlined (sha256 : RawToken → Digest) (pool : Pool Store Request) : Prop :=
  Program.Holds
    (fun store => Valid sha256 store ∧ Linked store)
    (fun store index slot =>
      SlotHolds sha256 store index slot ∧ SlotConfined sha256 store index slot)
    pool

-----------------------------------------------------------------------------------------
-- A family stays with the user of its login
-----------------------------------------------------------------------------------------

/-- A step adds rows to a known family only under the session that the family has. -/
theorem FamilyOf.step (family : FamilyOf before familyId userId)
    (moved : Moved owner before after) (isolated : Isolated owner part before after)
    : FamilyOf after familyId userId where
  known := moved.uuids family.known
  owned := by
    intro row member ofFamily
    rcases isolated.families row member with ⟨old, inOld, same, session⟩ | ⟨unknown, _⟩
    · have owned := family.owned old inOld (same.trans ofFamily)
      exact session ▸ owned.frame moved
    · exact absurd (ofFamily ▸ family.known) unknown

/-- The first token of a family is one of the session that the login has created. -/
theorem FamilyOf.begin {sessionId : Uuid} (valid : Valid sha256 before)
    (owned : OwnedBy before userId sessionId) (succeeds : input.fails = false)
    (moved : Moved owner before after)
    (ran
      : (program sha256).step owner input before (.login userId (.issueTokenSet sessionId))
        = some (after, request'))
    : FamilyOf after input.familyId userId := by
  obtain ⟨⟨store, stage'⟩, stepped, same⟩ :=
    Option.map_eq_some_iff.mp (program_step_some ran).2
  cases same
  simp only [AuthService.issueTokens, succeeds, Bool.false_eq_true, if_false] at stepped
  split at stepped
  · rename_i fresh
    cases stepped
    refine ⟨by simp [Store.draw], fun row member ofFamily => ?_⟩
    rcases List.mem_append.mp ((append_all_perm _ _).subset member) with old | new
    · exact absurd (ofFamily ▸ (valid.knownTokens row old).2.1) fresh.2
    · rw [List.mem_singleton.mp new]
      exact owned.frame moved
  · cases stepped

/-- Every move of a pool runs one request, within the sessions of that request. -/
theorem move_confines (outlined : Outlined sha256 pool)
    (moved : (program sha256).move pool action = some next)
    : ∃ request owner,
        acting pool action = some request
        ∧ Isolated owner (request.scope sha256 next.shared) pool.shared next.shared
        ∧ Moved owner pool.shared next.shared := by
  cases action with
  | start request =>
      obtain ⟨started, _⟩ := Program.move_start_some _ moved
      obtain ⟨_, step⟩ := start_kept pool.threads.length outlined.1.1 started
      exact ⟨request, pool.threads.length, rfl, start_isolated started, step⟩
  | step index input =>
      obtain ⟨request, request', found, ran, _⟩ := Program.move_step_some _ moved
      obtain ⟨⟨valid, linked⟩, slots⟩ := outlined
      obtain ⟨holds, confined⟩ := slots index
      rw [found] at holds confined
      obtain ⟨confines, step⟩ := program_confines valid linked holds confined ran
      refine ⟨request, index, found, ?_, step⟩
      rw [← scope_step (program_step_some ran).2]
      exact confines.isolated

/-- A family begun by a login of the user is the user's in every later state. -/
theorem BegunBy.familyOf (begun : BegunBy sha256 moves userId familyId)
    (run : (machine sha256).Reaches moves pool)
    : FamilyOf pool.shared familyId userId := by
  obtain ⟨first, index, input, last, earlier, sessionId, rfl, reached, running, succeeds,
    rfl⟩ := begun
  obtain ⟨start, ran, rest⟩ := (machine sha256).exec_append_some run
  cases Option.some.inj (reached.symm.trans ran)
  obtain ⟨next, step, later⟩ := Option.bind_eq_some_iff.mp rest
  rw [machine, Program.machine_step] at step
  have outlined := reaches_ownership reached
  have outlined' : Outlined sha256 next := ownership_outline.move outlined step
  have begins : FamilyOf next.shared input.familyId userId := by
    obtain ⟨request, request', found, stepped, _⟩ := Program.move_step_some _ step
    cases Option.some.inj (running.symm.trans found)
    obtain ⟨⟨valid, linked⟩, slots⟩ := outlined
    obtain ⟨holds, confined⟩ := slots index
    rw [found] at holds confined
    obtain ⟨_, moved⟩ := program_confines valid linked holds confined stepped
    exact .begin valid confined.2 succeeds moved stepped
  -- by induction on the rest of the run, which knows the family
  refine ((machine sha256).exec_preserves
    (fun pool => Outlined sha256 pool ∧ FamilyOf pool.shared input.familyId userId) ?_
    ⟨outlined', begins⟩ later).2
  intro pool action after ⟨outlined, family⟩ moved
  obtain ⟨_, _, _, isolated, stepped⟩ := move_confines outlined moved
  exact ⟨ownership_outline.move outlined moved, family.step stepped isolated⟩

-----------------------------------------------------------------------------------------
-- Credentials of a user reach the user's sessions only
-----------------------------------------------------------------------------------------

/-- The session of the token that a client presents is the user's when its family is. -/
theorem Owned.ownedBy {rawToken : RawToken} {sessionId : Uuid} {row : RefreshTokenRow}
    (owned : Owned sha256 before rawToken sessionId) (valid : Valid sha256 before)
    (member : row ∈ before.refreshTokens.all) (presented : row.tokenHash = sha256 rawToken)
    (family : FamilyOf before row.familyId userId)
    : OwnedBy before userId sessionId := by
  obtain ⟨other, inRows, hashed, rfl⟩ := owned
  have same : other = row :=
    List.inj_on_of_nodup_map valid.hashes (List.mem_append_left _ inRows) member
      (hashed.trans presented.symm)
  exact same ▸ family.owned row member rfl

/-- Whatever is signed names the owner of the session. -/
theorem Signed.ownedBy {payload : JwtPayload} (signed : Signed pool payload)
    (outlined : Outlined sha256 pool)
    : OwnedBy pool.shared payload.sub payload.sid := by
  obtain ⟨request, member, tokens, returned, rfl⟩ := signed
  obtain ⟨index, found⟩ := List.mem_iff_getElem?.mp member
  have inScope := (outlined.2 index).2
  rw [found] at inScope
  unfold Request.returned at returned
  split at returned
  · cases returned
    exact inScope.2.1 ▸ inScope.2.2
  · cases returned
    exact inScope.2
  · cases returned

/-- The scope of a request with credentials of the user: sessions of the user. -/
theorem scope_ownedBy (run : (machine sha256).Reaches moves pool)
    (moved : Moved owner pool.shared after)
    (carries : request.Carries sha256 moves pool userId) {session : Uuid}
    (inScope : request.scope sha256 after session)
    : OwnedBy after userId session := by
  have outlined := reaches_ownership run
  cases request with
  | login name stage => exact carries ▸ inScope
  | refresh rawToken stage =>
      obtain ⟨row, member, presented, begun⟩ := carries
      obtain ⟨later, inLater, hashed, rfl⟩ := inScope
      have seen : later.tokenHash ∈ pool.shared.digests :=
        hashed.trans presented.symm ▸ (outlined.1.1.knownTokens row member).2.2.1
      obtain ⟨old, inOld, same⟩ := moved.seen later (List.mem_append_left _ inLater) seen
      have itself : old = row :=
        List.inj_on_of_nodup_map outlined.1.1.hashes inOld member
          (same.tokenHash.trans (hashed.trans presented.symm))
      have owned := (begun.familyOf run).owned row member rfl
      rw [← same.sessionId, itself]
      exact owned.frame moved
  | logout sessionId stage =>
      rw [inScope.1]
      exact (Signed.ownedBy carries outlined).frame moved
  | logoutAll name stage => exact carries.1 ▸ inScope
  | validate payload stage => exact False.elim inScope

/-- A step within sessions of one user leaves the rows of all other sessions. -/
theorem Isolated.foreign (isolated : Isolated owner part before after)
    (valid : Valid sha256 after) (linked : Linked before) (moved : Moved owner before after)
    (within : ∀ session, part session → OwnedBy after userId session)
    : after.foreign userId = before.foreign userId := by
  have same (session : Uuid) (exist : ∃ name, OwnedBy before name session)
      : OwnedBy after userId session ↔ OwnedBy before userId session := by
    obtain ⟨name, owned⟩ := exist
    refine ⟨fun later => ?_, fun now => now.frame moved⟩
    exact (owned.frame moved).unique later valid ▸ owned
  unfold Store.foreign
  congr 1
  · refine isolated.sessions.filter_eq (fun left right named => ?_) (fun row member inPart => ?_)
    · simp only [Prod.mk.injEq] at named
      simp [named.2]
    · simpa using (within row.id inPart).userId_eq valid member rfl
  congr 1
  · rw [isolated.refreshTokens.filter_eq (fun left right named => by simp [named])
      (fun row _ inPart => by simpa using within row.sessionId inPart)]
    refine List.filter_congr (fun row member => ?_)
    simp [same row.sessionId (linked.refreshTokens row (List.mem_append_left _ member))]
  · rw [isolated.csrfTokens.filter_eq (fun left right named => by simp [named])
      (fun row _ inPart => by simpa using within row.sessionId inPart)]
    refine List.filter_congr (fun row member => ?_)
    simp [same row.sessionId (linked.csrfTokens row member)]

/-- User isolation and identity preservation. In every run a step of a request that carries
credentials of a user changes rows of this user's sessions only, in the reuse branch too; and
the access token that such a request returns names this user and one of the user's sessions.
-/
theorem user_isolation (run : (machine sha256).Reaches moves pool) (userId : Uuid)
    : (∀ action next request,
        (machine sha256).step pool action = some next →
          acting pool action = some request →
            request.Carries sha256 moves pool userId →
              next.shared.foreign userId = pool.shared.foreign userId)
      ∧ ∀ request ∈ pool.threads,
          request.Carries sha256 moves pool userId →
            ∀ tokens,
              request.returned = some tokens →
                tokens.accessToken.sub = userId
                ∧ OwnedBy pool.shared userId tokens.accessToken.sid := by
  have outlined := reaches_ownership run
  constructor
  · intro action next request moved runs carries
    rw [machine, Program.machine_step] at moved
    have outlined' : Outlined sha256 next := ownership_outline.move outlined moved
    obtain ⟨other, owner, same, isolated, step⟩ := move_confines outlined moved
    cases Option.some.inj (runs.symm.trans same)
    exact isolated.foreign outlined'.1.1 outlined.1.2 step
      (fun session inScope => scope_ownedBy run step carries inScope)
  · intro request member carries tokens returned
    have signed := Signed.ownedBy ⟨request, member, tokens, returned, rfl⟩ outlined
    suffices owned : OwnedBy pool.shared userId tokens.accessToken.sid from
      ⟨signed.unique owned outlined.1.1, owned⟩
    obtain ⟨index, found⟩ := List.mem_iff_getElem?.mp member
    obtain ⟨holds, _, inScope⟩ := found ▸ outlined.2 index
    unfold Request.returned at returned
    split at returned
    · cases returned
      exact carries ▸ inScope.2
    · cases returned
      obtain ⟨row, inRows, presented, begun⟩ := carries
      exact holds.2.2.ownedBy outlined.1.1 inRows presented (begun.familyOf run)
    · cases returned

end

/-- Another user logs in, and the first token of the first user is presented again, as far as
the COMMIT of the reuse branch. -/
def reuseBesideLogin : List (Move Request Input) := [
  .start (.login 200 .createSession),
  .step 2 { now := 6, uuid := 6 },
  .step 2 { now := 6, uuid := 7, familyId := 8, rawToken := 20 },
  .step 2 { now := 6, rawToken := 21 },
  .start (.refresh 10 (.rotating .begin)),
  .step 3 { now := 7 },
  .step 3 { now := 7 },
  .step 3 { now := 7 },
  .step 3 { now := 7 },
  .step 3 { now := 7, row := 2 },
  .step 3 { now := 7, row := 4 },
  .step 3 { now := 7 }
]

/-- The COMMIT revokes the session of user 100 and leaves the rows of user 200. -/
theorem user_isolation_reuse
    : let before := stateAfter (firstRefresh ++ reuseBesideLogin)
      let after :=
        stateAfter (firstRefresh ++ reuseBesideLogin ++ [Move.step 3 { now := 8 }])
      after.shared.foreign 100 = before.shared.foreign 100
      ∧ (after.shared.foreign 100).1 = [⟨6, 200, false, 6, 6 + sevenDays⟩]
      ∧ after.shared.reuseCommits = [3] := by
  have reached
      : (machine id).Reaches (firstRefresh ++ reuseBesideLogin)
          (stateAfter (firstRefresh ++ reuseBesideLogin)) := rfl
  have begun : BegunBy id (firstRefresh ++ reuseBesideLogin) 100 3 :=
    ⟨firstRefresh.take 2, 0, { now := 2, uuid := 2, familyId := 3, rawToken := 10 },
      firstRefresh.drop 3 ++ reuseBesideLogin, stateAfter (firstRefresh.take 2), 1, rfl, rfl,
      rfl, rfl, rfl⟩
  have carries
      : (Request.refresh 10 (.rotating (.commitReuse ⟨2, 1, 10, 3, true, 2, 2 + sevenDays⟩))).Carries
          id (firstRefresh ++ reuseBesideLogin)
          (stateAfter (firstRefresh ++ reuseBesideLogin)) 100 :=
    ⟨⟨2, 1, 10, 3, true, 2, 2 + sevenDays⟩, by decide, rfl, begun⟩
  exact ⟨(user_isolation reached 100).1 (.step 3 { now := 8 }) _ _ rfl rfl carries, rfl, rfl⟩

end NexusComms.Sessions
