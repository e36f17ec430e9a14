import NexusComms.Sessions.Steps

/-! The outline of the whole program: the remaining requests, the start of a request, and
what therefore holds in every interleaving of requests on the session store.
-/

namespace NexusComms.Sessions

open Storage Concurrency LockedTable

section

variable {sha256 : RawToken → Digest} {store : Store} {owner : Nat} {input : Input}
  {request : Request}

/-- The token table is as before, and the request holds none of its rows. -/
theorem Idle.of_tokens_eq {later : Store} (idle : Idle store owner)
    (tokens : later.refreshTokens = store.refreshTokens)
    : Idle later owner :=
  ⟨tokens ▸ idle.holder, tokens ▸ idle.inserted⟩

/-- `CsrfTokenRepository.upsert` with a token that was never seen before. -/
theorem Valid.upsertCsrf (valid : Valid sha256 store) (rawToken : RawToken)
    (sessionId : Uuid) (tokenHash : Digest) {own : Prop} (holds : own)
    : Kept sha256 owner input request store
        ((store.draw sha256 [] rawToken).upsertCsrf sessionId tokenHash) own :=
  ⟨valid.mono rfl rfl rfl (List.Subset.refl _) (List.subset_cons_self _ _) (Nat.le_refl _),
    holds,
    .of_tokens_eq rfl (List.Subset.refl _) (List.subset_cons_self _ _) (Nat.le_refl _)
      (.of_rows_eq rfl),
    .of_rows_eq rfl rfl rfl⟩

/-- Every statement of `refresh` keeps the outline. -/
theorem refresh_kept {rawToken : RawToken} {stage stage' : RefreshStage} {store' : Store}
    (valid : Valid sha256 store) (clock : store.clock = input.now)
    (holds : stage.Holds sha256 store owner rawToken)
    (ran
      : AuthService.refresh sha256 owner input store rawToken stage = some (store', stage'))
    : Kept sha256 owner input (.refresh rawToken stage) store store'
        (stage'.Holds sha256 store' owner rawToken) := by
  cases stage with
  | rotating stage =>
      cases fails : input.fails with
      | true =>
          simp only [AuthService.refresh, fails, if_true, Option.some.injEq,
            Prod.mk.injEq] at ran
          obtain ⟨rfl, rfl⟩ := ran
          exact valid.rollback owner
      | false =>
          simp only [AuthService.refresh, fails, Bool.false_eq_true, if_false] at ran
          exact rotate_kept valid clock fails holds ran
  | upsertCsrf newRawToken sessionId =>
      simp only [AuthService.refresh] at ran
      split at ran
      · simp only [Option.some.injEq, Prod.mk.injEq] at ran
        obtain ⟨rfl, rfl⟩ := ran
        exact .of_read valid holds.1
      · split at ran
        · simp only [Option.some.injEq, Prod.mk.injEq] at ran
          obtain ⟨rfl, rfl⟩ := ran
          exact valid.upsertCsrf _ _ _ ⟨holds.1.of_tokens_eq rfl, holds.2⟩
        · cases ran
  | findActiveSession newRawToken sessionId csrfToken =>
      simp only [AuthService.refresh] at ran
      split at ran
      · simp only [Option.some.injEq, Prod.mk.injEq] at ran
        obtain ⟨rfl, rfl⟩ := ran
        exact .of_read valid holds.1
      · split at ran
        · simp only [Option.some.injEq, Prod.mk.injEq] at ran
          obtain ⟨rfl, rfl⟩ := ran
          exact .of_read valid holds.1
        · simp only [Option.some.injEq, Prod.mk.injEq] at ran
          obtain ⟨rfl, rfl⟩ := ran
          exact .of_read valid holds
  | returned tokens => simp [AuthService.refresh] at ran
  | threw message => simp [AuthService.refresh] at ran

/-- Every statement of `issueTokens` keeps the outline. `issueTokenSet` starts the chain of
a family that has no rows yet, since no row has the fresh family id. -/
theorem issueTokens_kept {userId : Uuid} {stage stage' : LoginStage} {store' : Store}
    (valid : Valid sha256 store) (clock : store.clock = input.now)
    (idle : Idle store owner)
    (ran : AuthService.issueTokens sha256 input store userId stage = some (store', stage'))
    : Kept sha256 owner input request store store' (Idle store' owner) := by
  cases stage with
  | createSession =>
      simp only [AuthService.issueTokens] at ran
      split at ran
      · simp only [Option.some.injEq, Prod.mk.injEq] at ran
        obtain ⟨rfl, rfl⟩ := ran
        exact .of_read valid idle
      · split at ran
        · rename_i fresh
          simp only [Option.some.injEq, Prod.mk.injEq] at ran
          obtain ⟨rfl, rfl⟩ := ran
          have wider
              : Valid sha256 { store with uuids := input.uuid :: store.uuids } :=
            valid.mono rfl rfl rfl (List.subset_cons_self _ _) (List.Subset.refl _)
              (Nat.le_refl _)
          have newSession : input.uuid ∉ store.sessions.all.map SessionRow.id := by
            intro member
            obtain ⟨old, inOld, same⟩ := List.mem_map.mp member
            exact fresh (same ▸ valid.knownSessions old inOld)
          refine ⟨wider.with_sessions (valid.sessions.append newSession) ?_,
            idle.of_tokens_eq rfl,
            .of_tokens_eq rfl (List.subset_cons_self _ _) (List.Subset.refl _)
              (Nat.le_refl _) (fun row member => Or.inl (List.mem_append_left _ member)),
            .of_rows_eq rfl rfl rfl⟩
          intro row member
          rcases List.mem_append.mp ((append_all_perm _ _).subset member) with old | new
          · exact List.mem_cons_of_mem _ (valid.knownSessions row old)
          · rw [List.mem_singleton.mp new]
            exact List.mem_cons_self
        · cases ran
  | issueTokenSet sessionId =>
      simp only [AuthService.issueTokens] at ran
      split at ran
      · simp only [Option.some.injEq, Prod.mk.injEq] at ran
        obtain ⟨rfl, rfl⟩ := ran
        exact .of_read valid idle
      · split at ran
        · rename_i fresh
          simp only [Option.some.injEq, Prod.mk.injEq] at ran
          obtain ⟨rfl, rfl⟩ := ran
          obtain ⟨newId, newHash⟩ := fresh_iff.mp fresh.1
          have uuids : store.uuids ⊆ [input.uuid, input.familyId] ++ store.uuids :=
            List.subset_append_right _ _
          have digests : store.digests ⊆ sha256 input.rawToken :: store.digests :=
            List.subset_cons_self _ _
          have newFamily (old : RefreshTokenRow) (member : old ∈ store.refreshTokens.rows)
              : old.familyId ≠ input.familyId := by
            intro same
            have known := (valid.knownTokens old (List.mem_append_left _ member)).2.1
            exact fresh.2 (same ▸ known)
          refine ⟨?_, ⟨idle.holder, idle.inserted⟩, ?_, .quiet rfl rfl ?_⟩
          · refine valid.with_new_token (valid.tokens.append (valid.newId newId))
              (append_all_perm _ _) newHash ?_ rfl uuids digests (Nat.le_refl _)
              (valid.chained.begin newFamily)
            exact ⟨by simp [Store.draw], by simp [Store.draw], List.mem_cons_self,
              Nat.le_of_eq clock.symm⟩
          · exact .with_new_token (fun other _ => .append other _ _) (append_all_perm _ _)
              newHash uuids digests (Nat.le_refl _) (.of_rows_eq rfl)
          · intro row member
            rcases List.mem_append.mp member with old | new
            · exact Or.inl old
            · exact Or.inr (List.mem_singleton.mp new ▸ fresh.2)
        · cases ran
  | upsertCsrf sessionId rawRefreshToken =>
      simp only [AuthService.issueTokens] at ran
      split at ran
      · simp only [Option.some.injEq, Prod.mk.injEq] at ran
        obtain ⟨rfl, rfl⟩ := ran
        exact .of_read valid idle
      · split at ran
        · simp only [Option.some.injEq, Prod.mk.injEq] at ran
          obtain ⟨rfl, rfl⟩ := ran
          exact valid.upsertCsrf _ _ _ (idle.of_tokens_eq rfl)
        · cases ran
  | returned tokens => simp [AuthService.issueTokens] at ran
  | threw => simp [AuthService.issueTokens] at ran

/-- Locking one session row and revoking it. -/
theorem Valid.revoke (valid : Valid sha256 store) (owner : Nat) (sessionId : Uuid)
    : Valid sha256 {
        store with
        sessions :=
          (store.sessions.lock owner sessionId).write SessionRow.id sessionId
            SessionRow.revoke
      } :=
  valid.with_sessions
    ((valid.sessions.lock owner sessionId).write revoke_revoke (k := sessionId) (by simp))
    valid.knownSessions

theorem logout_kept {sessionId : Uuid} {stage stage' : LogoutStage} {store' : Store}
    (valid : Valid sha256 store) (idle : Idle store owner)
    (ran : AuthService.logout owner input store sessionId stage = some (store', stage'))
    : Kept sha256 owner input request store store' (Idle store' owner) := by
  cases stage with
  | revoke =>
      simp only [AuthService.logout] at ran
      split at ran
      · simp only [Option.some.injEq, Prod.mk.injEq] at ran
        obtain ⟨rfl, rfl⟩ := ran
        exact .of_read valid idle
      · split at ran
        · simp only [Option.some.injEq, Prod.mk.injEq] at ran
          obtain ⟨rfl, rfl⟩ := ran
          have committed := (valid.revoke owner sessionId).sessions_commit owner
          exact .of_sessions valid committed.1 committed.2
            (.of_commit (valid.revoke owner sessionId).sessions rfl rfl)
            (idle.of_tokens_eq rfl)
        · cases ran
  | done => simp [AuthService.logout] at ran
  | threw => simp [AuthService.logout] at ran

theorem logoutAll_kept {userId : Uuid} {stage stage' : LogoutAllStage} {store' : Store}
    (valid : Valid sha256 store) (idle : Idle store owner)
    (ran : AuthService.logoutAll owner input store userId stage = some (store', stage'))
    : Kept sha256 owner input request store store' (Idle store' owner) := by
  cases stage with
  | revokeAllForUser =>
      simp only [AuthService.logoutAll] at ran
      split at ran
      · simp only [Option.some.injEq, Prod.mk.injEq] at ran
        obtain ⟨rfl, rfl⟩ := ran
        exact .of_read valid idle
      · simp only [Option.some.injEq, Prod.mk.injEq] at ran
        obtain ⟨rfl, rfl⟩ := ran
        exact .of_read valid idle
  | updating todo =>
      simp only [AuthService.logoutAll] at ran
      split at ran
      · simp only [Option.some.injEq, Prod.mk.injEq] at ran
        obtain ⟨rfl, rfl⟩ := ran
        exact valid.rollback owner
      · split at ran
        · simp only [Option.some.injEq, Prod.mk.injEq] at ran
          obtain ⟨rfl, rfl⟩ := ran
          refine valid.commit owner store.rotations store.reuseCommits ?_
            (.of_rows_eq rfl rfl (idle.commit_rows valid))
          rw [idle.commit_rows valid]
          exact valid.chained
        · split at ran
          · simp only [Option.some.injEq, Prod.mk.injEq] at ran
            obtain ⟨rfl, rfl⟩ := ran
            have revoked := valid.revoke owner input.row
            exact .of_sessions valid revoked.sessions revoked.knownSessions (.of_rows_eq rfl)
              (idle.of_tokens_eq rfl)
          · cases ran
  | done => simp [AuthService.logoutAll] at ran
  | threw => simp [AuthService.logoutAll] at ran

/-- `validate` changes nothing. -/
theorem validate_store {payload : JwtPayload} {stage stage' : ValidateStage}
    {store' : Store}
    (ran : JwtStrategy.validate input store payload stage = some (store', stage'))
    : store' = store := by
  cases stage with
  | findActiveSession =>
      simp only [JwtStrategy.validate] at ran
      split at ran
      · simp only [Option.some.injEq, Prod.mk.injEq] at ran
        exact ran.1.symm
      · split at ran
        · simp only [Option.some.injEq, Prod.mk.injEq] at ran
          exact ran.1.symm
        · simp only [Option.some.injEq, Prod.mk.injEq] at ran
          exact ran.1.symm
  | accepted => simp [JwtStrategy.validate] at ran
  | rejected => simp [JwtStrategy.validate] at ran
  | threw => simp [JwtStrategy.validate] at ran

/-- Every statement of every request keeps the outline. -/
theorem request_kept {request request' : Request} {store' : Store}
    (valid : Valid sha256 store) (clock : store.clock = input.now)
    (holds : SlotHolds sha256 store owner (some request))
    (ran : request.step sha256 owner input store = some (store', request'))
    : Kept sha256 owner input request store store'
        (SlotHolds sha256 store' owner (some request')) := by
  cases request with
  | login userId stage =>
      obtain ⟨⟨after, stage'⟩, stepped, same⟩ := Option.map_eq_some_iff.mp ran
      cases same
      exact issueTokens_kept valid clock holds stepped
  | refresh rawToken stage =>
      obtain ⟨⟨after, stage'⟩, stepped, same⟩ := Option.map_eq_some_iff.mp ran
      cases same
      obtain ⟨valid', own, moved, effect⟩ := refresh_kept valid clock holds.2 stepped
      exact ⟨valid', ⟨moved.digests holds.1, own⟩, moved, effect⟩
  | logout sessionId stage =>
      obtain ⟨⟨after, stage'⟩, stepped, same⟩ := Option.map_eq_some_iff.mp ran
      cases same
      exact logout_kept valid holds stepped
  | logoutAll userId stage =>
      obtain ⟨⟨after, stage'⟩, stepped, same⟩ := Option.map_eq_some_iff.mp ran
      cases same
      exact logoutAll_kept valid holds stepped
  | validate payload stage =>
      obtain ⟨⟨after, stage'⟩, stepped, same⟩ := Option.map_eq_some_iff.mp ran
      cases same
      cases validate_store stepped
      exact .of_read valid holds

/-- An arriving request changes nothing but the tokens seen. -/
theorem start_store {store' : Store}
    (started : Request.start sha256 store request = some store')
    : ∃ seen, store' = { store with digests := seen ++ store.digests } := by
  unfold Request.start at started
  split at started
  · exact ⟨[], (Option.some.inj started).symm⟩
  · exact ⟨[_], (Option.some.inj started).symm⟩
  · exact ⟨[], (Option.some.inj started).symm⟩
  · exact ⟨[], (Option.some.inj started).symm⟩
  · exact ⟨[], (Option.some.inj started).symm⟩
  · cases started

/-- An arriving request holds nothing yet, and its token has been seen. -/
theorem start_own {store' : Store} (idle : Idle store owner)
    (started : Request.start sha256 store request = some store')
    : SlotHolds sha256 store' owner (some request) := by
  unfold Request.start at started
  split at started
  · cases started
    exact idle
  · cases started
    exact ⟨List.mem_cons_self, idle.of_tokens_eq rfl⟩
  · cases started
    exact idle
  · cases started
    exact idle
  · cases started
    exact idle
  · cases started

/-- An arriving request keeps the tables valid and disturbs nobody. -/
theorem start_kept (owner : Nat) {store' : Store} (valid : Valid sha256 store)
    (started : Request.start sha256 store request = some store')
    : Valid sha256 store' ∧ Moved owner store store' := by
  obtain ⟨seen, rfl⟩ := start_store started
  constructor
  · exact valid.mono rfl rfl rfl (List.Subset.refl _) (List.subset_append_right _ _)
      (Nat.le_refl _)
  · exact .of_tokens_eq rfl (List.Subset.refl _) (List.subset_append_right _ _)
      (Nat.le_refl _) (.of_rows_eq rfl)

end

section

variable {sha256 : RawToken → Digest}

/-- A statement runs at the time it is given, which is not before the last one. -/
theorem program_step_some {owner : Nat} {input : Input} {store store' : Store}
    {request request' : Request}
    (ran : (program sha256).step owner input store request = some (store', request'))
    : store.clock ≤ input.now
      ∧ request.step sha256 owner input { store with clock := input.now }
        = some (store', request') := by
  simp only [program] at ran
  split at ran
  · rename_i later
    exact ⟨later, ran⟩
  · cases ran

/-- A statement of a login comes from `issueTokens`. -/
theorem step_login {owner : Nat} {input : Input} {store store' : Store} {request : Request}
    {userId : Uuid} {stage' : LoginStage}
    (ran : request.step sha256 owner input store = some (store', .login userId stage'))
    : ∃ stage,
        request = .login userId stage
        ∧ AuthService.issueTokens sha256 input store userId stage = some (store', stage') := by
  cases request with
  | login user stage =>
      obtain ⟨⟨_, _⟩, stepped, same⟩ := Option.map_eq_some_iff.mp ran
      cases same
      exact ⟨stage, rfl, stepped⟩
  | refresh rawToken stage => simp [Request.step] at ran
  | logout sessionId stage => simp [Request.step] at ran
  | logoutAll user stage => simp [Request.step] at ran
  | validate payload stage => simp [Request.step] at ran

/-- A statement of a refresh comes from `AuthService.refresh`. -/
theorem step_refresh {owner : Nat} {input : Input} {store store' : Store} {request : Request}
    {rawToken : RawToken} {stage' : RefreshStage}
    (ran : request.step sha256 owner input store = some (store', .refresh rawToken stage'))
    : ∃ stage,
        request = .refresh rawToken stage
        ∧ AuthService.refresh sha256 owner input store rawToken stage = some (store', stage') := by
  cases request with
  | refresh presented stage =>
      obtain ⟨⟨_, _⟩, stepped, same⟩ := Option.map_eq_some_iff.mp ran
      cases same
      exact ⟨stage, rfl, stepped⟩
  | login user stage => simp [Request.step] at ran
  | logout sessionId stage => simp [Request.step] at ran
  | logoutAll user stage => simp [Request.step] at ran
  | validate payload stage => simp [Request.step] at ran

/-- The clock moves on before a statement runs, which is a step of nobody. -/
theorem tick_kept (owner : Nat) {store : Store} {now : Time} (valid : Valid sha256 store)
    (later : store.clock ≤ now)
    : Valid sha256 { store with clock := now }
      ∧ Moved owner store { store with clock := now } :=
  ⟨valid.mono rfl rfl rfl (List.Subset.refl _) (List.Subset.refl _) later,
    .of_tokens_eq rfl (List.Subset.refl _) (List.Subset.refl _) later (.of_rows_eq rfl)⟩

theorem tick_own {owner : Nat} {store : Store} {now : Time} {slot : Option Request}
    (holds : SlotHolds sha256 store owner slot) (later : store.clock ≤ now)
    : SlotHolds sha256 { store with clock := now } owner slot := by
  have moved : Moved (owner + 1) store { store with clock := now } :=
    .of_tokens_eq rfl (List.Subset.refl _) (List.Subset.refl _) later (.of_rows_eq rfl)
  exact holds.frame moved (Nat.ne_of_lt (Nat.lt_succ_self owner))

/-- The assertions of all requests hold together in every interleaving. -/
theorem program_outline
    : (program sha256).Outline (Valid sha256) (SlotHolds sha256) where
  start := by
    intro store store' index request valid idle started
    have own := start_own idle started
    obtain ⟨valid', moved⟩ := start_kept index valid started
    exact ⟨valid', own, fun other slot different holds => holds.frame moved different⟩
  step := by
    intro store store' index input request request' valid holds ran
    obtain ⟨later, stepped⟩ := program_step_some ran
    obtain ⟨valid', moved⟩ := tick_kept index valid later
    obtain ⟨after, own, moved', _⟩ := request_kept valid' rfl (tick_own holds later) stepped
    refine ⟨after, own, fun other slot different others => ?_⟩
    exact (others.frame moved different).frame moved' different

theorem Valid.empty : Valid sha256 Store.empty where
  tokens := .empty
  sessions := .empty
  knownTokens := by simp [Store.empty, LockedTable.empty, all]
  hashes := by simp [Store.empty, LockedTable.empty, all]
  knownSessions := by simp [Store.empty, LockedTable.empty, all]
  chained := .empty sha256

theorem Idle.empty (owner : Nat) : Idle Store.empty owner :=
  ⟨fun _ held => by simp [Store.empty, LockedTable.empty] at held, rfl⟩

/-- Every reachable pool satisfies the outline. -/
theorem reaches_outline {moves : List (Move Request Input)} {pool : Pool Store Request}
    (run : (machine sha256).Reaches moves pool)
    : Program.Holds (Valid sha256) (SlotHolds sha256) pool :=
  program_outline.reaches Valid.empty Idle.empty run

end

end NexusComms.Sessions
