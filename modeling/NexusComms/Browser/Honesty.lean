import NexusComms.Browser.Calls

/-! An honest browser and reuse detection. A refresh token that the tab presents once never
meets the reuse branch. It is presented once if no call reads it while a call that has read
it is unfinished, because every refresh that ends in the tab empties the storage.
-/

namespace NexusComms.Browser

open Storage Sessions Concurrency LockedTable

/-- The request is in the reuse branch of `rotate`. -/
def reusing : Request → Bool
  | .refresh _ (.rotating (.updateFamily _ _)) => true
  | .refresh _ (.rotating (.commitReuse _)) => true
  | _ => false

/-- The token that a call has presented and not yet got an answer for. -/
def Call.presenting (call : Call) : Option RawToken :=
  match call.stage with
  | .refreshing token => some token
  | _ => none

/-- A call reads the stored refresh token only when no call that presents it is unfinished. -/
def ReadsAlone (sha256 : RawToken → Digest) (pool : Pool System Call) : Move Call Event → Prop
  | .start _ => True
  | .step index _ =>
      ∀ call ∈ pool.threads[index]?,
        call.stage = .refreshAuthToken →
          ∀ token ∈ pool.shared.storage.refreshToken,
            ∀ other ∈ pool.threads, ∀ earlier ∈ other.presenting, sha256 earlier ≠ sha256 token

instance (sha256 : RawToken → Digest) (pool : Pool System Call)
    : (move : Move Call Event) → Decidable (ReadsAlone sha256 pool move)
  | .start _ => isTrue trivial
  | .step index _ =>
      inferInstanceAs
        (Decidable
          (∀ call ∈ pool.threads[index]?,
            call.stage = .refreshAuthToken →
              ∀ token ∈ pool.shared.storage.refreshToken,
                ∀ other ∈ pool.threads,
                  ∀ earlier ∈ other.presenting, sha256 earlier ≠ sha256 token))

/-- Used rows have been used up by a rotation of their token. -/
def UsedByRotation (sha256 : RawToken → Digest) (store : Store) : Prop :=
  ∀ row ∈ store.refreshTokens.rows,
    row.isUsed = true → ∃ rotation ∈ store.rotations, sha256 rotation.rawToken = row.tokenHash

/-- The request is on the happy path of `rotate`, with an unused successor, or elsewhere. -/
def Plain : Request → Prop
  | .refresh _ (.rotating (.updateFamily _ _)) => False
  | .refresh _ (.rotating (.commitReuse _)) => False
  | .refresh _ (.rotating (.commitRotation _ _ successor)) => successor.isUsed = false
  | _ => True

/-- The refresh token that a login has drawn and its client has not got yet. -/
def held : Request → Option RawToken
  | .login _ (.upsertCsrf _ rawRefreshToken) => some rawRefreshToken
  | .login _ (.returned tokens) => some tokens.refreshToken
  | _ => none

theorem Plain.not_reusing {request : Request} (plain : Plain request)
    : reusing request = false := by
  unfold Plain at plain
  split at plain
  · exact False.elim plain
  · exact False.elim plain
  · rfl
  · rename_i noUpdate noCommit _
    unfold reusing
    split
    · exact absurd rfl (noUpdate _ _ _)
    · exact absurd rfl (noCommit _ _)
    · rfl

-----------------------------------------------------------------------------------------
-- The happy path
-----------------------------------------------------------------------------------------

section

variable {sha256 : RawToken → Digest} {before after : Store} {owner : Nat} {input : Input}
  {rawToken : RawToken} {request request' : Request}

theorem UsedByRotation.of_rows (used : UsedByRotation sha256 before)
    (rows : after.refreshTokens.rows = before.refreshTokens.rows)
    (rotations : after.rotations = before.rotations)
    : UsedByRotation sha256 after := by
  intro row member
  rw [rows] at member
  rw [rotations]
  exact used row member

/-- A new row is unused. -/
theorem UsedByRotation.append (used : UsedByRotation sha256 before) {row : RefreshTokenRow}
    (unused : row.isUsed = false)
    (rows : after.refreshTokens.rows = before.refreshTokens.rows ++ [row])
    (rotations : after.rotations = before.rotations)
    : UsedByRotation sha256 after := by
  intro other member isUsed
  rw [rows] at member
  rw [rotations]
  rcases List.mem_append.mp member with old | new
  · exact used other old isUsed
  · rw [List.mem_singleton.mp new, unused] at isUsed
    cases isUsed

/-- COMMIT on the happy path: the one row that becomes used is that of the presented token. -/
theorem UsedByRotation.rotate {token successor : RefreshTokenRow} {newRawToken : RawToken}
    (used : UsedByRotation sha256 before) (valid : Valid sha256 before)
    (marked : Marked sha256 before owner rawToken successor.createdAt token)
    (inserted : before.refreshTokens.insertedBy owner = [successor])
    (unused : successor.isUsed = false)
    : UsedByRotation sha256
        (before.completed owner
          (before.rotations ++ [⟨rawToken, token, newRawToken, successor⟩])
          before.reuseCommits) := by
  intro row member isUsed
  have member' : row ∈ (before.refreshTokens.commit RefreshTokenRow.id owner).rows := member
  rw [(marked.commit_rows inserted valid).1] at member'
  rcases List.mem_append.mp member' with published | new
  · obtain ⟨old, inOld, rfl⟩ := List.mem_map.mp published
    by_cases own : old.id = token.id
    · -- the row of the presented token
      have itself : old = token :=
        valid.tokens.row_unique inOld marked.reads.committed own
      refine ⟨_, List.mem_append_right _ (List.mem_singleton_self _), ?_⟩
      have hash := ((published_marks before.refreshTokens owner).sameToken old).tokenHash
      rw [hash, itself]
      exact marked.reads.presented.symm
    · have notHeld : before.refreshTokens.holder old.id ≠ some owner :=
        fun holds => own ((marked.reads.holder old.id).mp holds)
      have kept
          : before.refreshTokens.published RefreshTokenRow.id RefreshTokenRow.markUsed owner old
            = old := by
        simp [LockedTable.published, notHeld]
      rw [kept] at isUsed ⊢
      obtain ⟨rotation, earlier, same⟩ := used old inOld isUsed
      exact ⟨rotation, List.mem_append_left _ earlier, same⟩
  · rw [List.mem_singleton.mp new, unused] at isUsed
    cases isUsed

/-- A rotation of a token that was never rotated before stays on the happy path: the row that
it reads under the lock is unused. -/
theorem rotate_plain {stage : RotateStage} {stage' : RefreshStage}
    (valid : Valid sha256 before) (holds : stage.Holds sha256 before owner rawToken)
    (used : UsedByRotation sha256 before)
    (unrotated : ∀ rotation ∈ before.rotations, sha256 rotation.rawToken ≠ sha256 rawToken)
    (plain : Plain (.refresh rawToken (.rotating stage)))
    (ran
      : RefreshTokenRepository.rotate sha256 owner input before rawToken stage
        = some (after, stage'))
    : Plain (.refresh rawToken stage')
      ∧ UsedByRotation sha256 after
      ∧ ∀ next, stage' = .rotating next → after.rotations = before.rotations := by
  have quiet (store : Store) (rows : store.refreshTokens.rows = before.refreshTokens.rows)
      (rotations : store.rotations = before.rotations)
      : UsedByRotation sha256 store
        ∧ ∀ next, stage' = .rotating next → store.rotations = before.rotations :=
    ⟨used.of_rows rows rotations, fun _ _ => rotations⟩
  cases stage with
  | begin =>
      cases ran
      exact ⟨trivial, quiet _ rfl rfl⟩
  | select startedAt =>
      simp only [RefreshTokenRepository.rotate] at ran
      split at ran
      · cases ran
        exact ⟨trivial, quiet _ rfl rfl⟩
      · cases ran
        exact ⟨trivial, quiet _ rfl rfl⟩
  | lockToken startedAt id =>
      simp only [RefreshTokenRepository.rotate] at ran
      split at ran
      · split at ran
        · cases ran
          exact ⟨trivial, quiet _ rfl rfl⟩
        · cases ran
          exact ⟨trivial, quiet _ rfl rfl⟩
      · cases ran
  | check startedAt token =>
      obtain ⟨reads, _, _⟩ := holds
      simp only [RefreshTokenRepository.rotate] at ran
      split at ran
      · cases ran
        exact ⟨trivial, quiet _ rfl rfl⟩
      · split at ran
        · -- a used row would be the work of an earlier rotation of this token
          rename_i isUsed
          obtain ⟨rotation, earlier, same⟩ := used token reads.committed isUsed
          exact absurd (same.trans reads.presented) (unrotated rotation earlier)
        · cases ran
          exact ⟨trivial, quiet _ rfl rfl⟩
  | updateFamily token todo => exact False.elim plain
  | commitReuse token => exact False.elim plain
  | insertSuccessor startedAt token =>
      simp only [RefreshTokenRepository.rotate] at ran
      split at ran
      · cases ran
        exact ⟨rfl, quiet _ rfl rfl⟩
      · cases ran
  | commitRotation token newRawToken successor =>
      obtain ⟨marked, inserted, _⟩ := holds
      cases ran
      exact ⟨trivial, used.rotate valid marked inserted plain, by simp⟩

/-- A login adds an unused row, and nothing else to the tokens. -/
theorem issueTokens_used {userId : Uuid} {stage stage' : LoginStage}
    (used : UsedByRotation sha256 before)
    (ran : AuthService.issueTokens sha256 input before userId stage = some (after, stage'))
    : UsedByRotation sha256 after := by
  cases stage with
  | createSession =>
      simp only [AuthService.issueTokens] at ran
      split at ran
      · cases ran
        exact used
      · split at ran
        · cases ran
          exact used.of_rows rfl rfl
        · cases ran
  | issueTokenSet sessionId =>
      simp only [AuthService.issueTokens] at ran
      split at ran
      · cases ran
        exact used
      · split at ran
        · cases ran
          exact used.append rfl rfl rfl
        · cases ran
  | upsertCsrf sessionId rawRefreshToken =>
      simp only [AuthService.issueTokens] at ran
      split at ran
      · cases ran
        exact used
      · split at ran
        · cases ran
          exact used.of_rows rfl rfl
        · cases ran
  | returned tokens => cases ran
  | threw => cases ran

/-- `logout` and `logoutAll` leave the token rows alone. -/
theorem logout_used {sessionId : Uuid} {stage stage' : LogoutStage}
    (used : UsedByRotation sha256 before)
    (ran : AuthService.logout owner input before sessionId stage = some (after, stage'))
    : UsedByRotation sha256 after := by
  cases stage with
  | revoke =>
      simp only [AuthService.logout] at ran
      split at ran
      · cases ran
        exact used
      · split at ran
        · cases ran
          exact used.of_rows rfl rfl
        · cases ran
  | done => cases ran
  | threw => cases ran

theorem logoutAll_used {userId : Uuid} {stage stage' : LogoutAllStage}
    (used : UsedByRotation sha256 before) (valid : Valid sha256 before)
    (idle : Idle before owner)
    (ran : AuthService.logoutAll owner input before userId stage = some (after, stage'))
    : UsedByRotation sha256 after := by
  cases stage with
  | revokeAllForUser =>
      simp only [AuthService.logoutAll] at ran
      split at ran
      · cases ran
        exact used
      · cases ran
        exact used
  | updating todo =>
      simp only [AuthService.logoutAll] at ran
      split at ran
      · cases ran
        exact used.of_rows rfl rfl
      · split at ran
        · cases ran
          exact used.of_rows (idle.commit_rows valid) rfl
        · split at ran
          · cases ran
            exact used.of_rows rfl rfl
          · cases ran
  | done => cases ran
  | threw => cases ran

/-- Every statement of every request stays on the happy path. -/
theorem request_plain (valid : Valid sha256 before)
    (holds : SlotHolds sha256 before owner (some request))
    (used : UsedByRotation sha256 before)
    (unrotated
      : ∀ token stage, request = .refresh token (.rotating stage) →
          ∀ rotation ∈ before.rotations, sha256 rotation.rawToken ≠ sha256 token)
    (plain : Plain request)
    (ran : request.step sha256 owner input before = some (after, request'))
    : Plain request'
      ∧ UsedByRotation sha256 after
      ∧ ∀ token next, request' = .refresh token (.rotating next) →
          (∃ stage, request = .refresh token (.rotating stage))
          ∧ after.rotations = before.rotations := by
  cases request with
  | refresh token stage =>
      obtain ⟨⟨store, stage'⟩, stepped, same⟩ := Option.map_eq_some_iff.mp ran
      cases same
      cases stage with
      | rotating stage =>
          simp only [AuthService.refresh] at stepped
          split at stepped
          · cases stepped
            exact ⟨trivial, used.of_rows rfl rfl, by simp⟩
          · obtain ⟨plain', used', kept⟩ :=
              rotate_plain valid holds.2 used (unrotated token stage rfl) plain stepped
            refine ⟨plain', used', fun other next same => ?_⟩
            cases same
            exact ⟨⟨stage, rfl⟩, kept next rfl⟩
      | upsertCsrf newRawToken sessionId =>
          simp only [AuthService.refresh] at stepped
          split at stepped
          · cases stepped
            exact ⟨trivial, used, by simp⟩
          · split at stepped
            · cases stepped
              exact ⟨trivial, used.of_rows rfl rfl, by simp⟩
            · cases stepped
      | findActiveSession newRawToken sessionId csrfToken =>
          simp only [AuthService.refresh] at stepped
          split at stepped
          · cases stepped
            exact ⟨trivial, used, by simp⟩
          · split at stepped
            · cases stepped
              exact ⟨trivial, used, by simp⟩
            · cases stepped
              exact ⟨trivial, used, by simp⟩
      | returned tokens => cases stepped
      | threw message => cases stepped
  | login userId stage =>
      obtain ⟨⟨store, stage'⟩, stepped, same⟩ := Option.map_eq_some_iff.mp ran
      cases same
      exact ⟨trivial, issueTokens_used used stepped, by simp⟩
  | logout sessionId stage =>
      obtain ⟨⟨store, stage'⟩, stepped, same⟩ := Option.map_eq_some_iff.mp ran
      cases same
      exact ⟨trivial, logout_used used stepped, by simp⟩
  | logoutAll userId stage =>
      obtain ⟨⟨store, stage'⟩, stepped, same⟩ := Option.map_eq_some_iff.mp ran
      cases same
      exact ⟨trivial, logoutAll_used used valid holds stepped, by simp⟩
  | validate payload stage =>
      obtain ⟨⟨store, stage'⟩, stepped, same⟩ := Option.map_eq_some_iff.mp ran
      cases same
      cases validate_store stepped
      exact ⟨trivial, used, by simp⟩

/-- A request holds no token but the one that it has held already, or the new one that it
draws in this step. -/
theorem request_drawn (ran : request.step sha256 owner input before = some (after, request'))
    : (drawn request' = [] ∧ ∀ token, held request' = some token → held request = some token)
      ∨ ∃ token,
          drawn request' = [token]
          ∧ held request' = some token
          ∧ sha256 token ∉ before.digests
          ∧ sha256 token ∈ after.digests := by
  cases request with
  | login userId stage =>
      obtain ⟨⟨store, stage'⟩, stepped, same⟩ := Option.map_eq_some_iff.mp ran
      cases same
      cases stage with
      | createSession =>
          simp only [AuthService.issueTokens] at stepped
          split at stepped
          · cases stepped
            exact Or.inl ⟨rfl, by simp [held]⟩
          · split at stepped
            · cases stepped
              exact Or.inl ⟨rfl, by simp [held]⟩
            · cases stepped
      | issueTokenSet sessionId =>
          simp only [AuthService.issueTokens] at stepped
          split at stepped
          · cases stepped
            exact Or.inl ⟨rfl, by simp [held]⟩
          · split at stepped
            · rename_i fresh
              cases stepped
              exact Or.inr ⟨_, rfl, rfl, (fresh_iff.mp fresh.1).2, List.mem_cons_self⟩
            · cases stepped
      | upsertCsrf sessionId rawRefreshToken =>
          simp only [AuthService.issueTokens] at stepped
          split at stepped
          · cases stepped
            exact Or.inl ⟨rfl, by simp [held]⟩
          · split at stepped
            · cases stepped
              exact Or.inl ⟨rfl, fun _ holds => holds⟩
            · cases stepped
      | returned tokens => cases stepped
      | threw => cases stepped
  | refresh rawToken stage =>
      obtain ⟨_, _, same⟩ := Option.map_eq_some_iff.mp ran
      cases same
      exact Or.inl ⟨rfl, by simp [held]⟩
  | logout sessionId stage =>
      obtain ⟨_, _, same⟩ := Option.map_eq_some_iff.mp ran
      cases same
      exact Or.inl ⟨rfl, by simp [held]⟩
  | logoutAll userId stage =>
      obtain ⟨_, _, same⟩ := Option.map_eq_some_iff.mp ran
      cases same
      exact Or.inl ⟨rfl, by simp [held]⟩
  | validate payload stage =>
      obtain ⟨_, _, same⟩ := Option.map_eq_some_iff.mp ran
      cases same
      exact Or.inl ⟨rfl, by simp [held]⟩

end

-----------------------------------------------------------------------------------------
-- Every token is presented once
-----------------------------------------------------------------------------------------

/-- The digests of the tokens in a history. -/
def digestsOf (sha256 : RawToken → Digest) (history : List (Nat × RawToken)) : List Digest :=
  history.map (fun entry => sha256 entry.2)

/-- No token is issued or presented twice, no reuse branch has committed, and only rotations
have used up rows. -/
structure Honest (sha256 : RawToken → Digest) (system : System) : Prop where
  noReuse : system.store.reuseCommits = []
  used : UsedByRotation sha256 system.store
  issuedOnce : (digestsOf sha256 system.issued).Nodup
  presentedOnce : (digestsOf sha256 system.presented).Nodup
  issuedKnown : ∀ entry ∈ system.issued, sha256 entry.2 ∈ system.store.digests
  presentedKnown : ∀ entry ∈ system.presented, sha256 entry.2 ∈ system.store.digests
  storedKnown
    : ∀ token, system.storage.refreshToken = some token → sha256 token ∈ system.store.digests
  rotated
    : ∀ rotation ∈ system.store.rotations,
        sha256 rotation.rawToken ∈ digestsOf sha256 system.presented

/-- What holds of one call: its refresh is the only one of its token, a token that it has
presented is stored only while it is unfinished, and a token that its login holds is nowhere
else. -/
structure CallHonest (sha256 : RawToken → Digest) (system : System) (index : Nat)
    (call : Call)
    : Prop where
  plain : ∀ request, call.request = some request → Plain request
  presents
    : ∀ token stage, call.request = some (.refresh token stage) →
        (index, token) ∈ system.presented
  unrotated
    : ∀ token stage, call.request = some (.refresh token (.rotating stage)) →
        ∀ rotation ∈ system.store.rotations, sha256 rotation.rawToken ≠ sha256 token
  stored
    : ∀ token, (index, token) ∈ system.presented →
        ∀ kept, system.storage.refreshToken = some kept →
          sha256 kept = sha256 token → call.stage = .refreshing token
  holds
    : ∀ request token, call.request = some request → held request = some token →
        (index, token) ∈ system.issued
        ∧ sha256 token ∉ digestsOf sha256 system.presented
        ∧ ∀ kept, system.storage.refreshToken = some kept → sha256 kept ≠ sha256 token

/-- The assertion of one slot; a call that has not arrived has presented nothing. -/
def SlotHonest (sha256 : RawToken → Digest) (system : System) (index : Nat)
    : Option Call → Prop
  | none => ∀ token, (index, token) ∉ system.presented
  | some call => CallHonest sha256 system index call

/-- What a step of call `index` does to the tokens of the tab. -/
structure Advances (sha256 : RawToken → Digest) (index : Nat) (before after : System)
    : Prop where
  presented
    : ∀ entry ∈ after.presented,
        entry ∈ before.presented
        ∨ entry.1 = index ∧ before.storage.refreshToken = some entry.2
  presents : before.presented ⊆ after.presented
  issues : before.issued ⊆ after.issued
  storage
    : ∀ kept, after.storage.refreshToken = some kept →
        before.storage.refreshToken = some kept
        ∨ (index, kept) ∈ before.issued
          ∧ sha256 kept ∉ digestsOf sha256 before.presented
  rotations
    : ∀ rotation ∈ after.store.rotations,
        rotation ∈ before.store.rotations ∨ (index, rotation.rawToken) ∈ before.presented

section

variable {sha256 : RawToken → Digest} {before after : System} {index other : Nat}
  {call call' : Call}

/-- Two entries of a history with the same digest are one entry. -/
theorem digestsOf_unique {history : List (Nat × RawToken)}
    (once : (digestsOf sha256 history).Nodup) {left right : Nat × RawToken}
    (inLeft : left ∈ history) (inRight : right ∈ history)
    (same : sha256 left.2 = sha256 right.2)
    : left = right :=
  List.inj_on_of_nodup_map once inLeft inRight same

theorem mem_digestsOf {history : List (Nat × RawToken)} {entry : Nat × RawToken}
    (member : entry ∈ history)
    : sha256 entry.2 ∈ digestsOf sha256 history :=
  List.mem_map_of_mem (f := fun entry : Nat × RawToken => sha256 entry.2) member

/-- The steps of other calls leave the assertion of a call. -/
theorem CallHonest.frame (own : CallHonest sha256 before other call)
    (honest : Honest sha256 before) (advances : Advances sha256 index before after)
    (different : other ≠ index)
    : CallHonest sha256 after other call where
  plain := own.plain
  presents := fun token stage running => advances.presents (own.presents token stage running)
  unrotated := by
    intro token stage running rotation member same
    rcases advances.rotations rotation member with old | new
    · exact own.unrotated token stage running rotation old same
    · have entry := digestsOf_unique honest.presentedOnce new
        (own.presents token (.rotating stage) running) same
      exact different (congrArg Prod.fst entry).symm
  stored := by
    intro token presented kept now same
    have earlier : (other, token) ∈ before.presented := by
      rcases advances.presented _ presented with old | ⟨new, _⟩
      · exact old
      · exact absurd new different
    rcases advances.storage kept now with still | ⟨_, unseen⟩
    · exact own.stored token earlier kept still same
    · exact absurd (same ▸ mem_digestsOf earlier) unseen
  holds := by
    intro request token running holding
    obtain ⟨issued, unseen, elsewhere⟩ := own.holds request token running holding
    refine ⟨advances.issues issued, fun seen => ?_, fun kept now same => ?_⟩
    · obtain ⟨entry, member, same⟩ := List.mem_map.mp seen
      rcases advances.presented entry member with old | ⟨_, stored⟩
      · exact unseen (same ▸ mem_digestsOf old)
      · exact elsewhere entry.2 stored same
    · rcases advances.storage kept now with still | ⟨new, _⟩
      · exact elsewhere kept still same
      · have entry := digestsOf_unique honest.issuedOnce new issued same
        exact different (congrArg Prod.fst entry).symm

theorem SlotHonest.frame {slot : Option Call} (own : SlotHonest sha256 before other slot)
    (honest : Honest sha256 before) (advances : Advances sha256 index before after)
    (different : other ≠ index)
    : SlotHonest sha256 after other slot := by
  cases slot with
  | none =>
      intro token presented
      rcases advances.presented _ presented with old | ⟨new, _⟩
      · exact own token old
      · exact different new
  | some call => exact CallHonest.frame own honest advances different

/-- Only a rotation of the presented token joins the history of rotations, on the happy path,
and no reuse branch commits there. -/
theorem effect_plain {store store' : Store} {input : Input} {request : Request}
    (effect : Effect index input request store store') (plain : Plain request)
    : store'.reuseCommits = store.reuseCommits
      ∧ ∀ rotation ∈ store'.rotations,
          rotation ∈ store.rotations ∨ ∃ stage, request = .refresh rotation.rawToken stage := by
  cases effect with
  | quiet rotations reuseCommits rows =>
      exact ⟨reuseCommits, fun rotation member => Or.inl (rotations ▸ member)⟩
  | rotated running succeeds held committed unused rotations reuseCommits rows =>
      refine ⟨reuseCommits, fun rotation member => ?_⟩
      rw [rotations] at member
      rcases List.mem_append.mp member with old | new
      · exact Or.inl old
      · rw [List.mem_singleton.mp new]
        exact Or.inr ⟨_, running⟩
  | reused running known rotations reuseCommits rows =>
      rw [running] at plain
      exact False.elim plain

/-- A new token joins a history whose tokens are all known. -/
theorem digestsOf_concat {history : List (Nat × RawToken)} {entry : Nat × RawToken}
    (once : (digestsOf sha256 history).Nodup)
    (new : sha256 entry.2 ∉ digestsOf sha256 history)
    : (digestsOf sha256 (history ++ [entry])).Nodup := by
  rw [digestsOf, List.map_append, List.nodup_append]
  refine ⟨once, by simp, fun left member right single same => ?_⟩
  simp only [List.map_cons, List.map_nil, List.mem_singleton] at single
  exact new (single ▸ same ▸ member)

theorem digestsOf_known {history : List (Nat × RawToken)} {digests : List Digest}
    (known : ∀ entry ∈ history, sha256 entry.2 ∈ digests) {digest : Digest}
    (new : digest ∉ digests)
    : digest ∉ digestsOf sha256 history := by
  intro member
  obtain ⟨entry, inHistory, rfl⟩ := List.mem_map.mp member
  exact new (known entry inHistory)

/-- A statement of the server keeps the tab honest. -/
theorem Honest.serve {input : Input} {request request' : Request} {store : Store}
    (honest : Honest sha256 before) (own : CallHonest sha256 before index call)
    (valid : Valid sha256 before.store)
    (holds : SlotHolds sha256 before.store index (some request))
    (running : call.request = some request)
    (ran
      : (Sessions.program sha256).step index input before.store request
        = some (store, request'))
    (tables : after.store = store) (storage : after.storage = before.storage)
    (presented : after.presented = before.presented)
    (issued
      : after.issued = before.issued ++ (drawn request').map (fun token => (index, token)))
    : Honest sha256 after
      ∧ CallHonest sha256 after index
          { call with request := some request', servedAt := input.appNow }
      ∧ Advances sha256 index before after := by
  obtain ⟨later, stepped⟩ := program_step_some ran
  obtain ⟨valid', _⟩ := tick_kept index valid later
  have holds' := tick_own holds later
  have kept := request_kept valid' rfl holds' stepped
  have plain := own.plain request running
  obtain ⟨plain', used, path⟩ :=
    request_plain valid' holds' honest.used
      (fun token stage same => own.unrotated token stage (running.trans (congrArg some same)))
      plain stepped
  obtain ⟨reuseCommits, rotations⟩ := effect_plain kept.effect plain
  have digests := kept.moved.digests
  have new := request_drawn stepped
  have advances : Advances sha256 index before after := by
    refine ⟨fun entry member => Or.inl (presented ▸ member), ?_, ?_, ?_, ?_⟩
    · rw [presented]
      exact List.Subset.refl _
    · rw [issued]
      exact List.subset_append_left _ _
    · intro kept now
      exact Or.inl (storage ▸ now)
    · intro rotation member
      rw [tables] at member
      rcases rotations rotation member with old | ⟨stage, same⟩
      · exact Or.inl old
      · exact Or.inr (own.presents _ stage (running.trans (congrArg some same)))
  refine ⟨?_, ?_, advances⟩
  · refine ⟨?_, tables ▸ used, ?_, presented ▸ honest.presentedOnce, ?_, ?_, ?_, ?_⟩
    · rw [tables, reuseCommits]
      exact honest.noReuse
    · rw [issued]
      rcases new with ⟨none, _⟩ | ⟨token, drew, _, fresh, _⟩
      · rw [none, List.map_nil, List.append_nil]
        exact honest.issuedOnce
      · rw [drew]
        exact digestsOf_concat honest.issuedOnce (digestsOf_known honest.issuedKnown fresh)
    · intro entry member
      rw [tables]
      rw [issued] at member
      rcases List.mem_append.mp member with old | drew
      · exact digests (honest.issuedKnown entry old)
      · obtain ⟨token, inDrawn, rfl⟩ := List.mem_map.mp drew
        rcases new with ⟨none, _⟩ | ⟨other, one, _, _, known⟩
        · rw [none] at inDrawn
          cases inDrawn
        · rw [one, List.mem_singleton] at inDrawn
          exact inDrawn ▸ known
    · intro entry member
      rw [tables]
      exact digests (honest.presentedKnown entry (presented ▸ member))
    · intro token now
      rw [tables]
      exact digests (honest.storedKnown token (storage ▸ now))
    · intro rotation member
      rw [presented]
      rcases advances.rotations rotation member with old | presents
      · exact honest.rotated rotation old
      · exact mem_digestsOf presents
  · refine ⟨?_, ?_, ?_, ?_, ?_⟩
    · intro other same
      cases same
      exact plain'
    · intro token stage same
      rw [presented]
      obtain ⟨stage', before'⟩ := (refresh_served ran token).mpr ⟨stage, Option.some.inj same⟩
      exact own.presents token stage' (running.trans (congrArg some before'))
    · intro token stage same rotation member
      obtain ⟨⟨stage', before'⟩, unchanged⟩ := path token stage (Option.some.inj same)
      rw [tables, unchanged] at member
      exact own.unrotated token stage' (running.trans (congrArg some before')) rotation member
    · intro token earlier kept now
      exact own.stored token (presented ▸ earlier) kept (storage ▸ now)
    · intro other token same holding
      cases same
      rw [presented, storage, issued]
      rcases new with ⟨none, already⟩ | ⟨raw, drew, holdsRaw, fresh, _⟩
      · obtain ⟨wasIssued, unseen, elsewhere⟩ :=
          own.holds request token running (already token holding)
        exact ⟨List.mem_append_left _ wasIssued, unseen, elsewhere⟩
      · cases Option.some.inj (holding.symm.trans holdsRaw)
        refine ⟨?_, digestsOf_known honest.presentedKnown fresh, fun kept now same => ?_⟩
        · rw [drew]
          exact List.mem_append_right _ (List.mem_singleton_self _)
        · exact fresh (same ▸ honest.storedKnown kept now)

/-- A call with the same request, or with none, holds what it did, when no token is stored or
the call was not one that waits for a refresh. -/
theorem CallHonest.aside (own : CallHonest sha256 before index call)
    (aside : call.Aside call') (tables : after.store = before.store)
    (presented : after.presented = before.presented) (issued : after.issued = before.issued)
    (storage
      : after.storage.refreshToken = none
        ∨ after.storage = before.storage ∧ ∀ token, call.stage ≠ .refreshing token)
    : CallHonest sha256 after index call' := by
  have same (request : Request) (now : call'.request = some request)
      : call.request = some request := by
    rcases aside.request with kept | ⟨_, none⟩
    · exact kept.symm.trans now
    · rw [none] at now
      cases now
  refine ⟨fun request now => own.plain request (same request now), ?_, ?_, ?_, ?_⟩
  · intro token stage now
    rw [presented]
    exact own.presents token stage (same _ now)
  · intro token stage now
    rw [tables]
    exact own.unrotated token stage (same _ now)
  · intro token earlier kept now alike
    rcases storage with none | ⟨unchanged, was⟩
    · rw [none] at now
      cases now
    · rw [unchanged] at now
      exact absurd (own.stored token (presented ▸ earlier) kept now alike) (was token)
  · intro request token now holding
    obtain ⟨wasIssued, unseen, elsewhere⟩ := own.holds request token (same request now) holding
    rw [presented, issued]
    refine ⟨wasIssued, unseen, fun kept now => ?_⟩
    rcases storage with none | ⟨unchanged, _⟩
    · rw [none] at now
      cases now
    · rw [unchanged] at now
      exact elsewhere kept now

/-- A call whose request has drawn and presented nothing is judged by the storage alone. -/
theorem CallHonest.of_fresh
    (fresh
      : ∀ request,
          call.request = some request →
            Plain request
            ∧ held request = none
            ∧ ∀ token stage, request ≠ .refresh token stage)
    (stored
      : ∀ token, (index, token) ∈ after.presented →
          ∀ kept, after.storage.refreshToken = some kept →
            sha256 kept = sha256 token → call.stage = .refreshing token)
    : CallHonest sha256 after index call where
  plain := fun request running => (fresh request running).1
  presents := fun token stage running => absurd rfl ((fresh _ running).2.2 token stage)
  unrotated := fun token stage running => absurd rfl ((fresh _ running).2.2 token _)
  stored := stored
  holds := by
    intro request token running holding
    rw [(fresh request running).2.1] at holding
    cases holding

theorem CallHonest.of_none (none : call.request = none)
    (stored
      : ∀ token, (index, token) ∈ after.presented →
          ∀ kept, after.storage.refreshToken = some kept →
            sha256 kept = sha256 token → call.stage = .refreshing token)
    : CallHonest sha256 after index call :=
  .of_fresh (fun request running => by simp [none] at running) stored

/-- Without new tokens anywhere the tab stays honest. -/
theorem Honest.same (index : Nat) (honest : Honest sha256 before)
    (tables : after.store = before.store)
    (presented : after.presented = before.presented) (issued : after.issued = before.issued)
    (storage
      : after.storage.refreshToken = none ∨ after.storage = before.storage)
    : Honest sha256 after ∧ Advances sha256 index before after := by
  have stored (token : RawToken) (now : after.storage.refreshToken = some token)
      : before.storage.refreshToken = some token := by
    rcases storage with none | unchanged
    · rw [none] at now
      cases now
    · exact unchanged ▸ now
  constructor
  · refine ⟨?_, ?_, issued ▸ honest.issuedOnce, presented ▸ honest.presentedOnce, ?_, ?_, ?_,
      ?_⟩
    · rw [tables]
      exact honest.noReuse
    · rw [tables]
      exact honest.used
    · rw [issued, tables]
      exact honest.issuedKnown
    · rw [presented, tables]
      exact honest.presentedKnown
    · rw [tables]
      exact fun token now => honest.storedKnown token (stored token now)
    · rw [tables, presented]
      exact honest.rotated
  · refine ⟨fun entry member => Or.inl (presented ▸ member), ?_, ?_,
      fun kept now => Or.inl (stored kept now), ?_⟩
    · rw [presented]
      exact List.Subset.refl _
    · rw [issued]
      exact List.Subset.refl _
    · intro rotation member
      exact Or.inl (tables ▸ member)

/-- Every step of a call keeps the tab honest, when the token that it reads is a new one. -/
theorem Happens.honest (valid : Valid sha256 before.store)
    (holds : CallHolds sha256 before.store index (some call))
    (honest : Honest sha256 before) (own : CallHonest sha256 before index call)
    (alone
      : ∀ token, call.stage = .refreshAuthToken →
          before.storage.refreshToken = some token →
            sha256 token ∉ digestsOf sha256 before.presented)
    (happens : Happens sha256 index before call after call')
    : Honest sha256 after
      ∧ CallHonest sha256 after index call'
      ∧ Advances sha256 index before after := by
  cases happens with
  | served running ran =>
      have served : Served sha256 before.store index (some _) := running ▸ holds.1
      exact honest.serve own valid served.1 running ran rfl rfl rfl rfl
  | sent passes quiet from_ =>
      have calm : Honest sha256 before ∧ Advances sha256 index before before :=
        honest.same index rfl rfl rfl (Or.inr rfl)
      have early (token : RawToken) : call.stage ≠ .refreshing token := by
        rcases from_ with ⟨first, _⟩ | ⟨again, _⟩
        · simp [first]
        · simp [again]
      have stored (token : RawToken) (earlier : (index, token) ∈ before.presented)
          (kept : RawToken) (now : before.storage.refreshToken = some kept)
          (same : sha256 kept = sha256 token)
          : False :=
        early token (own.stored token earlier kept now same)
      refine ⟨calm.1, .of_fresh (fun request sent => ?_) (fun token earlier kept now same =>
        (stored token earlier kept now same).elim), calm.2⟩
      rcases fetch_eq sent with ⟨userId, rfl⟩ | ⟨sessionId, rfl⟩
      · exact ⟨trivial, rfl, by simp⟩
      · exact ⟨trivial, rfl, by simp⟩
  | presented reading stored =>
      rename_i token
      have new := alone token reading stored
      refine ⟨⟨honest.noReuse, honest.used, honest.issuedOnce,
        digestsOf_concat honest.presentedOnce new, fun entry member => ?_,
        fun entry member => ?_, fun kept now => ?_, fun rotation member => ?_⟩,
        ⟨?_, ?_, ?_, ?_, ?_⟩,
        ⟨fun entry member => ?_, List.subset_append_left _ _, List.Subset.refl _,
          fun _ now => Or.inl now, fun _ member => Or.inl member⟩⟩
      · exact List.mem_cons_of_mem _ (honest.issuedKnown entry member)
      · rcases List.mem_append.mp member with old | last
        · exact List.mem_cons_of_mem _ (honest.presentedKnown entry old)
        · rw [List.mem_singleton.mp last]
          exact List.mem_cons_self
      · exact List.mem_cons_of_mem _ (honest.storedKnown kept now)
      · rw [digestsOf, List.map_append]
        exact List.mem_append_left _ (honest.rotated rotation member)
      · intro request same
        cases same
        trivial
      · intro other stage same
        cases same
        exact List.mem_append_right _ (List.mem_singleton_self _)
      · intro other stage same rotation member alike
        cases same
        exact new (alike ▸ honest.rotated rotation member)
      · intro other earlier kept now same
        rcases List.mem_append.mp earlier with old | last
        · have waits := own.stored other old kept now same
          rw [reading] at waits
          cases waits
        · cases List.mem_singleton.mp last
          rfl
      · intro request other same holding
        cases same
        cases holding
      · rcases List.mem_append.mp member with old | last
        · exact Or.inl old
        · rw [List.mem_singleton.mp last]
          exact Or.inr ⟨rfl, stored⟩
  | loggedIn waiting purpose answered =>
      rename_i tokens
      obtain ⟨issued, unseen, elsewhere⟩ := own.holds _ tokens.refreshToken answered rfl
      refine ⟨⟨honest.noReuse, honest.used, honest.issuedOnce, honest.presentedOnce,
        honest.issuedKnown, honest.presentedKnown, fun token now => ?_, honest.rotated⟩,
        .of_none rfl (fun token earlier kept now same => ?_),
        ⟨fun _ member => Or.inl member, List.Subset.refl _, List.Subset.refl _,
          fun kept now => ?_, fun _ member => Or.inl member⟩⟩
      · cases now
        exact honest.issuedKnown _ issued
      · cases now
        exact absurd (same ▸ mem_digestsOf earlier) unseen
      · cases now
        exact Or.inr ⟨issued, unseen⟩
  | refreshed waiting answered =>
      have calm
          : Honest sha256 { before with storage := ⟨none, none⟩ }
            ∧ Advances sha256 index before { before with storage := ⟨none, none⟩ } :=
        honest.same index rfl rfl rfl (Or.inl rfl)
      exact ⟨calm.1, .of_none rfl (fun token earlier kept now => by cases now), calm.2⟩
  | cleared aside =>
      have calm
          : Honest sha256 { before with storage := ⟨none, none⟩ }
            ∧ Advances sha256 index before { before with storage := ⟨none, none⟩ } :=
        honest.same index rfl rfl rfl (Or.inl rfl)
      exact ⟨calm.1, own.aside aside rfl rfl rfl (Or.inl rfl), calm.2⟩
  | stayed was aside =>
      obtain ⟨honest', advances⟩ := honest.same index rfl rfl rfl (Or.inr rfl)
      exact ⟨honest', own.aside aside rfl rfl rfl (Or.inr ⟨rfl, was⟩), advances⟩

/-- The stored token has not been presented before, when it is read alone: whoever has
presented it is unfinished while it is stored. -/
theorem ReadsAlone.new {pool : Pool System Call} {event : Event}
    (alone : ReadsAlone sha256 pool (.step index event))
    (slots : ∀ index, SlotHonest sha256 pool.shared index pool.threads[index]?)
    (found : pool.threads[index]? = some call) {token : RawToken}
    (reading : call.stage = .refreshAuthToken)
    (stored : pool.shared.storage.refreshToken = some token)
    : sha256 token ∉ digestsOf sha256 pool.shared.presented := by
  intro seen
  obtain ⟨⟨earlier, raw⟩, member, same⟩ := List.mem_map.mp seen
  have slot := slots earlier
  cases there : pool.threads[earlier]? with
  | none =>
      rw [there] at slot
      exact slot raw member
  | some other =>
      rw [there] at slot
      have waits := CallHonest.stored slot raw member token stored same.symm
      have presenting : raw ∈ other.presenting := by
        simp [Call.presenting, waits]
      exact alone call found reading token stored other (List.mem_of_getElem? there) raw
        presenting same

/-- The assertions of all calls hold together while every call reads alone. -/
theorem honest_outline
    : (program sha256).GuardedOutline (ReadsAlone sha256)
        (fun system =>
          (Valid sha256 system.store ∧ Linked system.store) ∧ Honest sha256 system)
        (fun system index slot =>
          CallHolds sha256 system.store index slot ∧ SlotHonest sha256 system index slot) where
  start := by
    intro pool call system ⟨⟨valid, honest⟩, slots⟩ _ started
    have ⟨idle, absent⟩ := slots pool.threads.length
    rw [List.getElem?_eq_none (Nat.le_refl _)] at idle absent
    obtain ⟨valid', own, _⟩ := call_outline.start valid idle started
    obtain ⟨rfl, _, none, _⟩ := arrives started
    refine ⟨⟨valid', honest⟩, ⟨own, ?_⟩, fun other _ => slots other⟩
    exact .of_none none (fun token earlier => absurd earlier (absent token))
  step := by
    intro pool index event call system call' ⟨⟨valid, honest⟩, slots⟩ alone found ran
    obtain ⟨holds, own⟩ := slots index
    rw [found] at holds own
    have happens := step_happens holds.2 ran
    obtain ⟨valid', holds', others⟩ := happens.kept valid holds
    have new (token : RawToken) (reading : call.stage = .refreshAuthToken)
        (stored : pool.shared.storage.refreshToken = some token)
        : sha256 token ∉ digestsOf sha256 pool.shared.presented :=
      alone.new (fun index => (slots index).2) found reading stored
    obtain ⟨honest', own', advances⟩ := happens.honest valid.1 holds honest own new
    refine ⟨⟨valid', honest'⟩, ⟨holds', own'⟩, fun other different => ?_⟩
    obtain ⟨held, apart⟩ := slots other
    exact ⟨others other _ different held, apart.frame honest advances different⟩

theorem Honest.empty : Honest sha256 System.empty :=
  ⟨rfl, by simp [UsedByRotation, System.empty, Store.empty, LockedTable.empty],
    by simp [System.empty, digestsOf], by simp [System.empty, digestsOf],
    by simp [System.empty], by simp [System.empty], by simp [System.empty],
    by simp [System.empty, Store.empty]⟩

/-- An honest browser is not treated as a thief, in any run in which no call reads the refresh
token while another call that presents it is unfinished: no call of the tab ever enters the
reuse branch, and none has ended a family.
-/
theorem honest_browser {moves : List (Move Call Event)} {pool : Pool System Call}
    (alone : (machine sha256).Along (ReadsAlone sha256) (machine sha256).init moves)
    (run : (machine sha256).Reaches moves pool)
    : (∀ call ∈ pool.threads, ∀ request ∈ call.request, reusing request = false)
      ∧ pool.shared.store.reuseCommits = [] := by
  have start
      : Program.Holds
          (fun system =>
          (Valid sha256 system.store ∧ Linked system.store) ∧ Honest sha256 system)
          (fun system index slot =>
            CallHolds sha256 system.store index slot ∧ SlotHonest sha256 system index slot)
          (machine sha256).init :=
    .init ⟨⟨Valid.empty, Linked.empty⟩, Honest.empty⟩
      (fun index => ⟨.empty index, fun token => by simp [System.empty]⟩)
  obtain ⟨⟨_, honest⟩, slots⟩ := honest_outline.exec alone start run
  refine ⟨fun call member request running => ?_, honest.noReuse⟩
  obtain ⟨index, found⟩ := List.mem_iff_getElem?.mp member
  have own := (slots index).2
  rw [found] at own
  exact (CallHonest.plain own request running).not_reusing

end

/-- A login, until its tokens are stored. -/
def loginOnce : List (Move Call Event) := [
  .start { purpose := .login 100, stage := .apiFetch },
  .step 0 (.tab true false),
  .step 0 (.server { now := 1, uuid := 1 }),
  .step 0 (.server { now := 2, uuid := 2, familyId := 3, rawToken := 10 }),
  .step 0 (.server { now := 3, rawToken := 11 }),
  .step 0 (.tab true false)
]

/-- The server's part of a refresh, as far as the COMMIT of its rotation. -/
def rotateFor (index : Nat) : List (Move Call Event) := [
  .step index (.server { now := 4 }),
  .step index (.server { now := 4 }),
  .step index (.server { now := 4 }),
  .step index (.server { now := 4 }),
  .step index (.server { now := 5, uuid := 4, rawToken := 12 }),
  .step index (.server { now := 5 })
]

/-- The page loads: `initAuth` reads the token and presents it. -/
def silentRefresh : List (Move Call Event) := [
  .start { purpose := .initAuth, stage := .refreshAuthToken },
  .step 1 (.tab true false)
]

/-- The contacts are fetched on the same page load, answered by 401, and refreshed too. -/
def refreshOnUnauthorized : List (Move Call Event) := [
  .start { purpose := .apiFetch, stage := .apiFetch },
  .step 2 (.tab true false),
  .step 2 (.tab true true),
  .step 2 (.tab true false)
]

/-- The refresh token of a row that is used already is presented by call 2. -/
def reuseFor : List (Move Call Event) := [
  .step 2 (.server { now := 6 }),
  .step 2 (.server { now := 6 }),
  .step 2 (.server { now := 6 }),
  .step 2 (.server { now := 6 }),
  .step 2 (.server { now := 6, row := 2 }),
  .step 2 (.server { now := 6, row := 4 }),
  .step 2 (.server { now := 7 }),
  .step 2 (.server { now := 7 })
]

/-- The state after a run of the tab, under the identity as digest. -/
def tabAfter (moves : List (Move Call Event)) : Pool System Call :=
  ((machine id).exec (machine id).init moves).getD ⟨System.empty, []⟩

theorem honest_browser_load
    : (tabAfter (loginOnce ++ silentRefresh ++ rotateFor 1)).shared.store.rotations.length = 1
      ∧ (tabAfter (loginOnce ++ silentRefresh ++ rotateFor 1)).shared.store.reuseCommits
        = [] := by
  have alone
      : (machine id).Along (ReadsAlone id) (machine id).init
          (loginOnce ++ silentRefresh ++ rotateFor 1) := by
    decide
  have run
      : (machine id).Reaches (loginOnce ++ silentRefresh ++ rotateFor 1)
          (tabAfter (loginOnce ++ silentRefresh ++ rotateFor 1)) := rfl
  exact ⟨rfl, (honest_browser alone run).2⟩

/-- Without the condition the honest browser loses its session: the silent refresh and the
refresh after a 401 present the same token, and the server takes the second for a thief. -/
theorem honest_browser_revoked
    : ∃ pool,
        (machine id).Reaches
          (loginOnce ++ silentRefresh ++ refreshOnUnauthorized ++ rotateFor 1 ++ reuseFor) pool
        ∧ pool.shared.presented = [(1, 10), (2, 10)]
        ∧ pool.shared.store.reuseCommits = [3]
        ∧ pool.shared.store.sessions.rows.map SessionRow.isRevoked = [true] := by
  refine ⟨tabAfter
    (loginOnce ++ silentRefresh ++ refreshOnUnauthorized ++ rotateFor 1 ++ reuseFor), rfl, ?_⟩
  decide

end NexusComms.Browser
