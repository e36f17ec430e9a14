import NexusComms.Sessions.Rotation

/-! Revocation is final. Rotation never looks at the session row, so the tokens of a dead
session keep rotating; what protects the session is the read of its row that `refresh` and
`validate` make last.
-/

namespace NexusComms.Sessions

open Storage Concurrency LockedTable

/-- The session is revoked or past `expires_at`. -/
def Ended (store : Store) (sessionId : Uuid) : Prop :=
  ∃ row ∈ store.sessions.rows,
    row.id = sessionId ∧ (row.isRevoked = true ∨ row.expiresAt ≤ store.clock)

/-- The session for which a finished request has let its client in. -/
def Request.grants : Request → Option Uuid
  | .refresh _ (.returned tokens) => some tokens.accessToken.sid
  | .validate payload .accepted => some payload.sid
  | _ => none

section

variable {sha256 : RawToken → Digest} {before after : Store} {owner : Nat} {input : Input}
  {request : Request} {sessionId : Uuid}

/-- No statement brings a session back: rows only get revoked, and the clock only moves on. -/
theorem Ended.frame (ended : Ended before sessionId) (moved : Moved owner before after)
    : Ended after sessionId := by
  obtain ⟨row, member, named, gone⟩ := ended
  rcases moved.sessions row member with kept | revoked
  · refine ⟨row, kept, named, ?_⟩
    rcases gone with dead | expired
    · exact Or.inl dead
    · exact Or.inr (Nat.le_trans expired moved.clock)
  · exact ⟨row.revoke, revoked, named, Or.inl rfl⟩

/-- An ended session is not found, because no other row has its id. -/
theorem Ended.not_found (ended : Ended before sessionId) (valid : Valid sha256 before)
    : before.findActiveById sessionId = none := by
  obtain ⟨row, member, named, gone⟩ := ended
  refine List.find?_eq_none.mpr (fun other inRows active => ?_)
  simp only [Bool.and_eq_true, decide_eq_true_eq] at active
  obtain ⟨⟨same, unrevoked⟩, current⟩ := active
  have itself : other = row :=
    valid.sessions.row_unique inRows member (same.trans named.symm)
  rw [itself] at unrevoked current
  rcases gone with dead | expired
  · rw [dead] at unrevoked
    cases unrevoked
  · exact absurd current (Nat.not_lt.mpr expired)

/-- `rotate` itself lets nobody in: it goes on, throws, or hands over to the CSRF token. -/
theorem rotate_grants {rawToken : RawToken} {stage : RotateStage} {stage' : RefreshStage}
    (ran
      : RefreshTokenRepository.rotate sha256 owner input before rawToken stage
        = some (after, stage'))
    : (Request.refresh rawToken stage').grants ≠ some sessionId := by
  intro grants
  cases stage with
  | begin =>
      cases ran
      cases grants
  | select startedAt =>
      simp only [RefreshTokenRepository.rotate] at ran
      split at ran
      · cases ran
        cases grants
      · cases ran
        cases grants
  | lockToken startedAt id =>
      simp only [RefreshTokenRepository.rotate] at ran
      split at ran
      · split at ran
        · cases ran
          cases grants
        · cases ran
          cases grants
      · cases ran
  | check startedAt token =>
      simp only [RefreshTokenRepository.rotate] at ran
      split at ran
      · cases ran
        cases grants
      · split at ran
        · cases ran
          cases grants
        · cases ran
          cases grants
  | updateFamily token todo =>
      cases todo with
      | nil =>
          simp only [RefreshTokenRepository.rotate] at ran
          split at ran
          · cases ran
            cases grants
          · cases ran
      | cons next later =>
          simp only [RefreshTokenRepository.rotate] at ran
          split at ran
          · cases ran
            cases grants
          · cases ran
  | commitReuse token =>
      cases ran
      cases grants
  | insertSuccessor startedAt token =>
      simp only [RefreshTokenRepository.rotate] at ran
      split at ran
      · cases ran
        cases grants
      · cases ran
  | commitRotation token newRawToken successor =>
      cases ran
      cases grants

theorem start_grants (started : Request.start sha256 before request = some after)
    : request.grants ≠ some sessionId := by
  unfold Request.start at started
  split at started
  · simp [Request.grants]
  · simp [Request.grants]
  · simp [Request.grants]
  · simp [Request.grants]
  · simp [Request.grants]
  · cases started

/-- A request lets its client in by a statement that finds the session active. -/
theorem grants_found {request' : Request}
    (ran : request.step sha256 owner input before = some (after, request'))
    (grants : request'.grants = some sessionId)
    : before.findActiveById sessionId ≠ none := by
  cases request with
  | refresh rawToken stage =>
      obtain ⟨⟨store, stage'⟩, stepped, same⟩ := Option.map_eq_some_iff.mp ran
      cases same
      cases stage with
      | rotating stage =>
          simp only [AuthService.refresh] at stepped
          split at stepped
          · cases stepped
            cases grants
          · exact absurd grants (rotate_grants stepped)
      | upsertCsrf newRawToken session =>
          simp only [AuthService.refresh] at stepped
          split at stepped
          · cases stepped
            cases grants
          · split at stepped
            · cases stepped
              cases grants
            · cases stepped
      | findActiveSession newRawToken session csrfToken =>
          simp only [AuthService.refresh] at stepped
          split at stepped
          · cases stepped
            cases grants
          · split at stepped
            · cases stepped
              cases grants
            · rename_i found
              cases stepped
              cases grants
              rw [found]
              exact Option.some_ne_none _
      | returned tokens => cases stepped
      | threw message => cases stepped
  | login userId stage =>
      obtain ⟨_, _, same⟩ := Option.map_eq_some_iff.mp ran
      cases same
      cases grants
  | logout session stage =>
      obtain ⟨_, _, same⟩ := Option.map_eq_some_iff.mp ran
      cases same
      cases grants
  | logoutAll userId stage =>
      obtain ⟨_, _, same⟩ := Option.map_eq_some_iff.mp ran
      cases same
      cases grants
  | validate payload stage =>
      obtain ⟨⟨store, stage'⟩, stepped, same⟩ := Option.map_eq_some_iff.mp ran
      cases same
      cases stage with
      | findActiveSession =>
          simp only [JwtStrategy.validate] at stepped
          split at stepped
          · cases stepped
            cases grants
          · split at stepped
            · cases stepped
              cases grants
            · rename_i found
              cases stepped
              cases grants
              rw [found]
              exact Option.some_ne_none _
      | accepted => cases stepped
      | rejected => cases stepped
      | threw => cases stepped

end

section

variable {sha256 : RawToken → Digest}

/-- The outline with an ended session, which no request is let into that was not let in
already in `since`. -/
theorem revocation_outline (since : Pool Store Request) (sessionId : Uuid)
    : (program sha256).Outline
        (fun store => Valid sha256 store ∧ Ended store sessionId)
        (fun store index slot =>
          SlotHolds sha256 store index slot
          ∧ ∀ request,
              slot = some request → request.grants = some sessionId →
                since.threads[index]? = some request) where
  start := by
    intro store store' index request ⟨valid, ended⟩ ⟨idle, _⟩ started
    obtain ⟨valid', moved⟩ := start_kept index valid started
    refine ⟨⟨valid', ended.frame moved⟩, ⟨start_own idle started, ?_⟩, ?_⟩
    · intro arrived same grants
      cases same
      exact absurd grants (start_grants started)
    · intro other slot different ⟨holds, late⟩
      exact ⟨holds.frame moved different, late⟩
  step := by
    intro store store' index input request request' ⟨valid, ended⟩ ⟨holds, _⟩ ran
    obtain ⟨later, stepped⟩ := program_step_some ran
    obtain ⟨valid', ticked⟩ := tick_kept index valid later
    have ended' := ended.frame ticked
    obtain ⟨after, own, moved, _⟩ := request_kept valid' rfl (tick_own holds later) stepped
    refine ⟨⟨after, ended'.frame moved⟩, ⟨own, ?_⟩, ?_⟩
    · intro next same grants
      cases same
      exact absurd (ended'.not_found valid') (grants_found stepped grants)
    · intro other slot different ⟨held, late⟩
      exact ⟨(held.frame ticked different).frame moved different, late⟩

/-- Revocation is final. A session that has ended stays so; no `refresh` that reads the
session after that returns tokens for it, whichever token of the session was presented; and
no `validate` that reads it after that accepts an access token of it.
-/
theorem revocation_final {first second : List (Move Request Input)}
    {middle final : Pool Store Request} {sessionId : Uuid}
    (reached : (machine sha256).Reaches first middle)
    (later : (machine sha256).exec middle second = some final)
    (ended : Ended middle.shared sessionId)
    : Ended final.shared sessionId
      ∧ final.shared.findActiveById sessionId = none
      ∧ (∀ (index : Nat) (rawToken : RawToken) (tokens : AuthTokens),
          final.threads[index]? = some (.refresh rawToken (.returned tokens)) →
            middle.threads[index]? ≠ some (.refresh rawToken (.returned tokens)) →
              tokens.accessToken.sid ≠ sessionId
              ∧ ∀ row ∈ final.shared.refreshTokens.rows,
                  row.tokenHash = sha256 rawToken → row.sessionId ≠ sessionId)
      ∧ ∀ (index : Nat) (payload : JwtPayload),
          final.threads[index]? = some (.validate payload .accepted) →
            middle.threads[index]? ≠ some (.validate payload .accepted) →
              payload.sid ≠ sessionId := by
  obtain ⟨valid, slots⟩ := reaches_outline reached
  obtain ⟨⟨valid', ended'⟩, slots'⟩ :=
    (revocation_outline middle sessionId).exec
      ⟨⟨valid, ended⟩, fun index => ⟨slots index, fun _ found _ => found⟩⟩ later
  refine ⟨ended', ended'.not_found valid', ?_, ?_⟩
  · intro index rawToken tokens returned wasNot
    obtain ⟨holds, late⟩ := slots' index
    have foreign : tokens.accessToken.sid ≠ sessionId := by
      intro same
      exact wasNot (late _ returned (congrArg some same))
    refine ⟨foreign, fun row member presented ofSession => ?_⟩
    -- the row presented is the one row of this hash, and belongs to the tokens' session
    rw [returned] at holds
    obtain ⟨own, inRows, hashed, owned⟩ := holds.2.2
    have hashes : (final.shared.refreshTokens.rows.map RefreshTokenRow.tokenHash).Nodup := by
      have all := valid'.hashes
      rw [LockedTable.all, List.map_append] at all
      exact (List.nodup_append.mp all).1
    have itself : own = row :=
      List.inj_on_of_nodup_map hashes inRows member (hashed.trans presented.symm)
    exact foreign (owned.symm.trans (itself ▸ ofSession))
  · intro index payload accepted wasNot same
    exact wasNot ((slots' index).2 _ accepted (congrArg some same))

end

/-- The user logs out after the first refresh. -/
def logoutAlone : List (Move Request Input) := [
  .start (.logout 1 .revoke),
  .step 2 { now := 9 }
]

/-- The newest token of the dead session still rotates, and only then is refused. -/
def refreshAfterLogout : List (Move Request Input) :=
  refreshAlone 3 12 ++ [.step 3 { now := 21, rawToken := 42 }, .step 3 { now := 22 }]

theorem revocation_final_logout
    : (stateAfter (firstRefresh ++ logoutAlone ++ refreshAfterLogout)).threads[3]?
        = some (.refresh 12 (.threw (some .sessionInvalid)))
      ∧ (stateAfter (firstRefresh ++ logoutAlone ++ refreshAfterLogout)).shared.findActiveById 1
        = none := by
  have reached
      : (machine id).Reaches (firstRefresh ++ logoutAlone)
          (stateAfter (firstRefresh ++ logoutAlone)) := rfl
  have later
      : (machine id).exec (stateAfter (firstRefresh ++ logoutAlone)) refreshAfterLogout
        = some (stateAfter (firstRefresh ++ logoutAlone ++ refreshAfterLogout)) := rfl
  have ended : Ended (stateAfter (firstRefresh ++ logoutAlone)).shared 1 :=
    ⟨⟨1, 100, true, 1, 1 + sevenDays⟩, by decide, rfl, Or.inl rfl⟩
  exact ⟨rfl, (revocation_final reached later ended).2.1⟩

end NexusComms.Sessions
