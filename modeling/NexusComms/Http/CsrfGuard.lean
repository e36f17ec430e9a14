import NexusComms.Http.Mutations

/-! What `CsrfGuard` would decide if it were mounted. The table holds one row for each session,
which each login and refresh replaces, so the guard accepts just the requests that carry the
token most recently issued for their session.
-/

namespace NexusComms.Http

open Concurrency Program
open Sessions (Digest RawToken Request Store)

/-- The table holds the latest token of each session, and nothing else. -/
def Mirrors (sha256 : RawToken → Digest) (site : Site) : Prop :=
  ∀ row,
    row ∈ site.store.csrfTokens
    ↔ ∃ issue ∈ site.latest row.sessionId,
        row.tokenHash = sha256 issue.token
        ∧ row.expiresAt = issue.issuedAt + Sessions.oneDay

section

variable {sha256 : RawToken → Digest} {store store' : Store} {site site' : Site} {index : Nat}
  {input : Input} {request request' : Request}

/-- The row of the session is replaced, or it is a new one. -/
theorem mem_upsertCsrf {sessionId : Uuid} {tokenHash : Digest} {row : Sessions.CsrfTokenRow}
    : row ∈ (store.upsertCsrf sessionId tokenHash).csrfTokens
      ↔ row = ⟨sessionId, tokenHash, store.clock + Sessions.oneDay⟩
        ∨ row.sessionId ≠ sessionId ∧ row ∈ store.csrfTokens := by
  by_cases known : store.csrfTokens.any (fun old => decide (old.sessionId = sessionId)) = true
  · simp only [Store.upsertCsrf, known, if_true, List.mem_map]
    constructor
    · rintro ⟨old, member, rfl⟩
      split
      · exact Or.inl rfl
      · rename_i other
        exact Or.inr ⟨other, member⟩
    · rintro (rfl | ⟨other, member⟩)
      · obtain ⟨old, member, own⟩ := List.any_eq_true.mp known
        exact ⟨old, member, if_pos (of_decide_eq_true own)⟩
      · exact ⟨row, member, if_neg other⟩
  · simp only [Store.upsertCsrf, known, Bool.false_eq_true, if_false, List.mem_append,
      List.mem_singleton]
    constructor
    · rintro (member | rfl)
      · refine Or.inr ⟨fun own => known ?_, member⟩
        exact List.any_eq_true.mpr ⟨row, member, decide_eq_true own⟩
      · exact Or.inl rfl
    · rintro (rfl | ⟨_, member⟩)
      · exact Or.inr rfl
      · exact Or.inl member

/-- `rotate` leaves the table alone. -/
theorem rotate_csrfTokens {rawToken : RawToken} {stage : Sessions.RotateStage}
    {stage' : Sessions.RefreshStage}
    (ran
      : Sessions.RefreshTokenRepository.rotate sha256 index input.toInput store rawToken stage
        = some (store', stage'))
    : store'.csrfTokens = store.csrfTokens := by
  cases stage with
  | begin =>
      cases ran
      rfl
  | select startedAt =>
      simp only [Sessions.RefreshTokenRepository.rotate] at ran
      split at ran
      · cases ran
        rfl
      · cases ran
        rfl
  | lockToken startedAt id =>
      simp only [Sessions.RefreshTokenRepository.rotate] at ran
      split at ran
      · split at ran
        · cases ran
          rfl
        · cases ran
          rfl
      · cases ran
  | check startedAt token =>
      simp only [Sessions.RefreshTokenRepository.rotate] at ran
      split at ran
      · cases ran
        rfl
      · split at ran
        · cases ran
          rfl
        · cases ran
          rfl
  | updateFamily token todo =>
      cases todo with
      | nil =>
          simp only [Sessions.RefreshTokenRepository.rotate] at ran
          split at ran
          · cases ran
            rfl
          · cases ran
      | cons next later =>
          simp only [Sessions.RefreshTokenRepository.rotate] at ran
          split at ran
          · cases ran
            rfl
          · cases ran
  | commitReuse token =>
      cases ran
      rfl
  | insertSuccessor startedAt token =>
      simp only [Sessions.RefreshTokenRepository.rotate] at ran
      split at ran
      · cases ran
        rfl
      · cases ran
  | commitRotation token newRawToken successor =>
      cases ran
      rfl

/-- Every request leaves the table alone, except by issuing a token. -/
theorem request_csrfTokens
    (ran : request.step sha256 index input.toInput store = some (store', request'))
    : (input.fails = false
        ∧ ∃ sessionId,
            issues request = some sessionId
            ∧ store'.csrfTokens
              = (store.upsertCsrf sessionId (sha256 input.rawToken)).csrfTokens)
      ∨ (input.fails = true ∨ issues request = none)
        ∧ store'.csrfTokens = store.csrfTokens := by
  cases request with
  | login userId stage =>
      obtain ⟨⟨after, stage'⟩, stepped, same⟩ := Option.map_eq_some_iff.mp ran
      cases same
      cases stage with
      | createSession =>
          simp only [Sessions.AuthService.issueTokens] at stepped
          split at stepped
          · cases stepped
            exact Or.inr ⟨Or.inr rfl, rfl⟩
          · split at stepped
            · cases stepped
              exact Or.inr ⟨Or.inr rfl, rfl⟩
            · cases stepped
      | issueTokenSet sessionId =>
          simp only [Sessions.AuthService.issueTokens] at stepped
          split at stepped
          · cases stepped
            exact Or.inr ⟨Or.inr rfl, rfl⟩
          · split at stepped
            · cases stepped
              exact Or.inr ⟨Or.inr rfl, rfl⟩
            · cases stepped
      | upsertCsrf sessionId rawRefreshToken =>
          simp only [Sessions.AuthService.issueTokens] at stepped
          split at stepped
          · rename_i fails
            cases stepped
            exact Or.inr ⟨Or.inl fails, rfl⟩
          · rename_i works
            split at stepped
            · cases stepped
              exact Or.inl ⟨Bool.eq_false_iff.mpr works, sessionId, rfl, rfl⟩
            · cases stepped
      | returned tokens => cases stepped
      | threw => cases stepped
  | refresh rawToken stage =>
      obtain ⟨⟨after, stage'⟩, stepped, same⟩ := Option.map_eq_some_iff.mp ran
      cases same
      cases stage with
      | rotating stage =>
          simp only [Sessions.AuthService.refresh] at stepped
          split at stepped
          · cases stepped
            exact Or.inr ⟨Or.inr rfl, rfl⟩
          · exact Or.inr ⟨Or.inr rfl, rotate_csrfTokens stepped⟩
      | upsertCsrf newRawToken sessionId =>
          simp only [Sessions.AuthService.refresh] at stepped
          split at stepped
          · rename_i fails
            cases stepped
            exact Or.inr ⟨Or.inl fails, rfl⟩
          · rename_i works
            split at stepped
            · cases stepped
              exact Or.inl ⟨Bool.eq_false_iff.mpr works, sessionId, rfl, rfl⟩
            · cases stepped
      | findActiveSession newRawToken sessionId csrfToken =>
          simp only [Sessions.AuthService.refresh] at stepped
          split at stepped
          · cases stepped
            exact Or.inr ⟨Or.inr rfl, rfl⟩
          · split at stepped
            · cases stepped
              exact Or.inr ⟨Or.inr rfl, rfl⟩
            · cases stepped
              exact Or.inr ⟨Or.inr rfl, rfl⟩
      | returned tokens => cases stepped
      | threw message => cases stepped
  | logout sessionId stage =>
      obtain ⟨⟨after, stage'⟩, stepped, same⟩ := Option.map_eq_some_iff.mp ran
      cases same
      refine Or.inr ⟨Or.inr rfl, ?_⟩
      cases stage with
      | revoke =>
          simp only [Sessions.AuthService.logout] at stepped
          split at stepped
          · cases stepped
            rfl
          · split at stepped
            · cases stepped
              rfl
            · cases stepped
      | done => cases stepped
      | threw => cases stepped
  | logoutAll userId stage =>
      obtain ⟨⟨after, stage'⟩, stepped, same⟩ := Option.map_eq_some_iff.mp ran
      cases same
      refine Or.inr ⟨Or.inr rfl, ?_⟩
      cases stage with
      | revokeAllForUser =>
          simp only [Sessions.AuthService.logoutAll] at stepped
          split at stepped
          · cases stepped
            rfl
          · cases stepped
            rfl
      | updating todo =>
          simp only [Sessions.AuthService.logoutAll] at stepped
          split at stepped
          · cases stepped
            rfl
          · split at stepped
            · cases stepped
              rfl
            · split at stepped
              · cases stepped
                rfl
              · cases stepped
      | done => cases stepped
      | threw => cases stepped
  | validate payload stage =>
      obtain ⟨⟨after, stage'⟩, stepped, same⟩ := Option.map_eq_some_iff.mp ran
      cases same
      cases Sessions.validate_store stepped
      exact Or.inr ⟨Or.inr rfl, rfl⟩

/-- A token is issued. -/
theorem Mirrors.issue (mirrors : Mirrors sha256 site) {sessionId : Uuid} {token : RawToken}
    (tokens
      : site'.store.csrfTokens
        = (site.store.upsertCsrf sessionId (sha256 token)).csrfTokens)
    (issued : site'.issued = ⟨sessionId, token, site.store.clock⟩ :: site.issued)
    : Mirrors sha256 site' := by
  have latest (other : Uuid)
      : site'.latest other
        = if sessionId = other then some ⟨sessionId, token, site.store.clock⟩
          else site.latest other := by
    rw [Site.latest, issued, List.find?_cons]
    by_cases own : sessionId = other
    · simp [own]
    · simp [own, Site.latest]
  intro row
  rw [tokens, mem_upsertCsrf, latest]
  by_cases own : sessionId = row.sessionId
  · rw [if_pos own]
    constructor
    · rintro (rfl | ⟨other, _⟩)
      · exact ⟨_, rfl, rfl, rfl⟩
      · exact absurd own.symm other
    · rintro ⟨issue, same, hashed, expires⟩
      cases same
      refine Or.inl ?_
      obtain ⟨session, tokenHash, expiresAt⟩ := row
      dsimp only at own hashed expires
      rw [← own, hashed, expires]
  · rw [if_neg own, mirrors row]
    constructor
    · rintro (rfl | ⟨_, known⟩)
      · exact absurd rfl own
      · exact known
    · exact fun known => Or.inr ⟨fun same => own same.symm, known⟩

/-- A step that leaves the table and the history alone. -/
theorem Mirrors.keep (mirrors : Mirrors sha256 site)
    (tokens : site'.store.csrfTokens = site.store.csrfTokens)
    (issued : site'.issued = site.issued)
    : Mirrors sha256 site' := by
  intro row
  rw [tokens, mirrors row, Site.latest, Site.latest, issued]

/-- A statement of a request on the session store keeps the table in step with the tokens that
have been issued. -/
theorem Mirrors.statement (mirrors : Mirrors sha256 site)
    (ran : request.step sha256 index input.toInput site.store = some (store', request'))
    : Mirrors sha256
        {
          site with
          store := store'
          issued :=
            if input.fails then
              site.issued
            else
              ((issues request).map (⟨·, input.rawToken, site.store.clock⟩)).toList ++ site.issued
        } := by
  rcases request_csrfTokens ran with ⟨works, sessionId, own, tokens⟩ | ⟨none, tokens⟩
  · exact mirrors.issue tokens (by simp [works, own])
  · refine mirrors.keep tokens ?_
    rcases none with fails | none
    · simp [fails]
    · simp [none]

/-- A handler issues no token. -/
theorem Mirrors.handler (mirrors : Mirrors sha256 site) {handler handler' : Handler}
    (ran : handler.step index input site = some (site', handler'))
    : Mirrors sha256 site' := by
  have auth {asked asked' : Request} {store' : Store} (none : issues asked = none)
      (stepped : asked.step sha256 index input.toInput site.store = some (store', asked'))
      : Mirrors sha256 { site with store := store' } := by
    rcases request_csrfTokens stepped with ⟨_, sessionId, own, _⟩ | ⟨_, tokens⟩
    · rw [none] at own
      cases own
    · exact mirrors.keep tokens rfl
  cases handler with
  | logout sessionId stage =>
      obtain ⟨⟨store, stage'⟩, revoked, same⟩ := Option.map_eq_some_iff.mp ran
      cases same
      have asked
          : (Request.logout sessionId stage).step sha256 index input.toInput site.store
            = some (store, .logout sessionId stage') :=
        Option.map_eq_some_iff.mpr ⟨_, revoked, rfl⟩
      exact auth rfl asked
  | logoutAll userId stage =>
      obtain ⟨⟨store, stage'⟩, revoked, same⟩ := Option.map_eq_some_iff.mp ran
      cases same
      have asked
          : (Request.logoutAll userId stage).step sha256 index input.toInput site.store
            = some (store, .logoutAll userId stage') :=
        Option.map_eq_some_iff.mpr ⟨_, revoked, rfl⟩
      exact auth rfl asked
  | accept requestId acceptorId stage =>
      simp only [Handler.step] at ran
      split at ran
      · cases ran
        exact mirrors
      · obtain ⟨_, _, same⟩ := Option.map_eq_some_iff.mp ran
        cases same
        exact mirrors.keep rfl rfl
  | reject requestId userId stage =>
      simp only [Handler.step] at ran
      split at ran
      · cases ran
        exact mirrors
      · obtain ⟨_, _, same⟩ := Option.map_eq_some_iff.mp ran
        cases same
        exact mirrors.keep rfl rfl
  | updateNickname ownerId contactId nickname =>
      simp only [Handler.step] at ran
      split at ran
      · cases ran
        exact mirrors
      · cases ran
        exact mirrors.keep rfl rfl
  | remove ownerId contactId =>
      simp only [Handler.step] at ran
      split at ran
      · cases ran
        exact mirrors
      · cases ran
        exact mirrors.keep rfl rfl
  | finished => cases ran

/-- Every step of an exchange keeps the table in step. -/
theorem Mirrors.exchange (mirrors : Mirrors sha256 site) {exchange exchange' : Exchange}
    (ran : exchange.step sha256 index input site = some (site', exchange'))
    : Mirrors sha256 site' := by
  cases exchange with
  | session request =>
      obtain ⟨⟨store, request'⟩, stepped, same⟩ := Option.map_eq_some_iff.mp ran
      cases same
      exact mirrors.statement stepped
  | signaling call =>
      obtain ⟨_, _, same⟩ := Option.map_eq_some_iff.mp ran
      cases same
      exact mirrors.keep rfl rfl
  | mutation mutation =>
      obtain ⟨⟨_, mutation'⟩, stepped, same⟩ := Option.map_eq_some_iff.mp ran
      cases same
      unfold Mutation.step at stepped
      split at stepped
      · cases stepped
      · split at stepped
        · cases stepped
          exact mirrors
        · cases stepped
          exact mirrors
      · obtain ⟨⟨_, handler'⟩, handled, same⟩ := Option.map_eq_some_iff.mp stepped
        cases same
        exact mirrors.handler handled
      · cases stepped

/-- In every reachable pool the table holds the latest token of each session. -/
theorem reaches_mirrors {moves : List (Move Exchange Input)} {pool : Pool Site Exchange}
    (run : (siteMachine sha256).Reaches moves pool)
    : Mirrors sha256 pool.shared := by
  refine run.invariant (fun pool => Mirrors sha256 pool.shared) (fun row => ?_) ?_
  · refine iff_of_false (fun member => nomatch member) ?_
    rintro ⟨issue, none, _⟩
    cases none
  · intro before action after mirrors moved
    cases action with
    | start exchange =>
        obtain ⟨started, _⟩ := (siteProgram sha256).move_start_some moved
        have same
            : after.shared.store.csrfTokens = before.shared.store.csrfTokens
              ∧ after.shared.issued = before.shared.issued := by
          have started : exchange.start sha256 before.shared = some after.shared := started
          unfold Exchange.start at started
          split at started
          · cases started
          · cases started
          · obtain ⟨store, began, same⟩ := Option.map_eq_some_iff.mp started
            obtain ⟨seen, rfl⟩ := Sessions.start_store began
            rw [← same]
            exact ⟨rfl, rfl⟩
          · rw [← Option.some.inj started]
            exact ⟨rfl, rfl⟩
          · cases started
          · obtain ⟨_, same⟩ := Option.ite_none_right_eq_some.mp started
            rw [← Option.some.inj same]
            exact ⟨rfl, rfl⟩
        exact mirrors.keep same.1 same.2
    | step index input =>
        obtain ⟨exchange, exchange', _, stepped, _⟩ := (siteProgram sha256).move_step_some moved
        obtain ⟨_, ran⟩ := Option.ite_none_right_eq_some.mp stepped
        have ticked
            : Mirrors sha256
                {
                  before.shared with
                  store := { before.shared.store with clock := input.now }
                } :=
          mirrors.keep rfl rfl
        exact ticked.exchange ran

/-- The guard is right: if no two tokens have the same digest, it accepts a request that needs a
token exactly if that is the one most recently issued for its session, less than 24 hours ago.
No route mounts the guard, so this says what the routes would gain, and nothing builds on it.
-/
theorem csrfGuard_accepts_iff (collisionFree : Function.Injective sha256)
    {moves : List (Move Exchange Input)} {pool : Pool Site Exchange}
    (run : (siteMachine sha256).Reaches moves pool) {request : HttpRequest}
    (guarded : request.route.isPublic = false)
    (mutates : request.route.method.unsafeMethod = true)
    : CsrfGuard.canActivate sha256 pool.shared.store request = .ok ()
      ↔ request.Carries pool.shared := by
  have mirrors := reaches_mirrors run
  unfold CsrfGuard.canActivate HttpRequest.Carries
  rw [guarded, mutates]
  cases header : request.csrfToken with
  | none => simp
  | some incoming =>
      cases bearer : request.bearer with
      | none => simp
      | some payload =>
          have valid
              : CsrfTokenRepository.isValid sha256 pool.shared.store payload.sid incoming = true
                ↔ ∃ issue ∈ pool.shared.latest payload.sid,
                    some incoming = some issue.token
                    ∧ pool.shared.store.clock < issue.issuedAt + Sessions.oneDay := by
            simp only [CsrfTokenRepository.isValid, List.any_eq_true, Bool.and_eq_true,
              decide_eq_true_eq]
            constructor
            · rintro ⟨row, member, ⟨own, hashed⟩, current⟩
              obtain ⟨issue, latest, stored, expires⟩ := (mirrors row).mp member
              rw [own] at latest
              refine ⟨issue, latest, ?_, expires ▸ current⟩
              rw [collisionFree (hashed.symm.trans stored)]
            · rintro ⟨issue, latest, same, current⟩
              cases same
              refine ⟨⟨payload.sid, sha256 issue.token, issue.issuedAt + Sessions.oneDay⟩, ?_,
                ⟨rfl, rfl⟩, current⟩
              exact (mirrors _).mpr ⟨issue, latest, rfl, rfl⟩
          simpa using valid

end

end NexusComms.Http
