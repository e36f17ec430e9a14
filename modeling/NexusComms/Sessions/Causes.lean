import NexusComms.Sessions.Linearization

/-! Nothing in the session tables changes without a cause. What the log of acts says of causes
is read off the requests of a pool.
-/

namespace NexusComms.Sessions

open Storage Concurrency LockedTable

section

variable (sha256 : RawToken → Digest)

/-- A login at this stage has opened a session, namely this one if the stage names any. -/
def LoginStage.Opened (sessionId : Uuid) : LoginStage → Prop
  | .createSession => False
  | .issueTokenSet name => name = sessionId
  | .upsertCsrf name _ => name = sessionId
  | .returned tokens => tokens.accessToken.sid = sessionId
  | .threw => True

/-- A refresh at this stage has rotated its token, namely to this one if the stage names any. -/
def RefreshStage.Exchanged (successor : Digest) : RefreshStage → Prop
  | .rotating _ => False
  | .upsertCsrf newRawToken _ => sha256 newRawToken = successor
  | .findActiveSession newRawToken _ _ => sha256 newRawToken = successor
  | .returned tokens => sha256 tokens.refreshToken = successor
  | .threw none => True
  | .threw (some message) => message = .sessionInvalid

/-- The requests that can have performed an act, as their slot shows. -/
def Request.Answers (slot : Option Request) : SessionAct → Prop
  | .opens sessionId userId =>
      ∃ stage, slot = some (.login userId stage) ∧ stage.Opened sessionId
  | .issues sessionId _ _ =>
      ∃ userId stage, slot = some (.login userId stage) ∧ stage.Opened sessionId
  | .exchanges token successor =>
      ∃ rawToken stage,
        slot = some (.refresh rawToken stage)
        ∧ sha256 rawToken = token
        ∧ stage.Exchanged sha256 successor
  | .accuses token =>
      ∃ rawToken stage, slot = some (.refresh rawToken stage) ∧ sha256 rawToken = token
  | .condemns token =>
      ∃ rawToken,
        slot = some (.refresh rawToken (.threw (some .invalidRefreshToken)))
        ∧ sha256 rawToken = token
  | .closes sessionId => slot = some (.logout sessionId .done)
  | .notifies userId => ∃ stage, slot = some (.logoutAll userId stage)
  | .closesNoticed => ∃ userId, slot = some (.logoutAll userId .done)

/-- A login of the user has opened this session. The log has the act, and the login stands where
it has performed it. -/
def OpenedBy (log : List (Nat × SessionAct)) (pool : Pool Store Request)
    (userId sessionId : Uuid)
    : Prop :=
  ∃ (index : Nat) (stage : LoginStage),
    (index, .opens sessionId userId) ∈ log
    ∧ pool.threads[index]? = some (.login userId stage)
    ∧ stage.Opened sessionId

/-- Why a session is revoked: by the log its logout, a logout of all sessions of its user, or a
token of it that was presented again. -/
def RevokedBy (log : List (Nat × SessionAct)) (pool : Pool Store Request) (row : SessionRow)
    : Prop :=
  (∃ index : Nat,
      (index, .closes row.id) ∈ log ∧ pool.threads[index]? = some (.logout row.id .done))
  ∨ (∃ index : Nat,
      (index, .notifies row.userId) ∈ log
      ∧ (index, .closesNoticed) ∈ log
      ∧ pool.threads[index]? = some (.logoutAll row.userId .done))
  ∨ ∃ (index : Nat) (rawToken : RawToken),
      (index, .condemns (sha256 rawToken)) ∈ log
      ∧ pool.threads[index]? = some (.refresh rawToken (.threw (some .invalidRefreshToken)))
      ∧ Owned sha256 pool.shared rawToken row.id

/-- Why a token is used: by the log a refresh that presented it has rotated it, or one has been
refused for presenting a token of the same family again. -/
def UsedBy (log : List (Nat × SessionAct)) (pool : Pool Store Request) (row : RefreshTokenRow)
    : Prop :=
  (∃ (index : Nat) (rawToken : RawToken) (stage : RefreshStage) (successor : Digest),
      (index, .exchanges row.tokenHash successor) ∈ log
      ∧ pool.threads[index]? = some (.refresh rawToken stage)
      ∧ sha256 rawToken = row.tokenHash
      ∧ stage.Exchanged sha256 successor)
  ∨ ∃ (index : Nat) (rawToken : RawToken),
      (index, .condemns (sha256 rawToken)) ∈ log
      ∧ pool.threads[index]? = some (.refresh rawToken (.threw (some .invalidRefreshToken)))
      ∧ ∃ other ∈ pool.shared.refreshTokens.rows,
          other.tokenHash = sha256 rawToken ∧ other.familyId = row.familyId

end

section

variable {sha256 : RawToken → Digest} {acts : List SessionAct} {act : SessionAct}

theorem LoginStage.answers {userId : Uuid} {stage : LoginStage}
    (did : stage.Did sha256 userId acts) (member : act ∈ acts)
    : Request.Answers sha256 (some (.login userId stage)) act := by
  have byLogin {sessionId familyId : Uuid} {digest : Digest} (opened : stage.Opened sessionId)
      (among : act ∈ [Act.opens sessionId userId, Act.issues sessionId familyId digest])
      : Request.Answers sha256 (some (.login userId stage)) act := by
    rcases List.mem_cons.mp among with rfl | rest
    · exact ⟨stage, rfl, opened⟩
    · cases List.mem_singleton.mp rest
      exact ⟨userId, stage, rfl, opened⟩
  have opens {sessionId : Uuid} (opened : stage.Opened sessionId)
      (among : act ∈ [Act.opens sessionId userId])
      : Request.Answers sha256 (some (.login userId stage)) act := by
    cases List.mem_singleton.mp among
    exact ⟨stage, rfl, opened⟩
  cases stage with
  | createSession =>
      cases (show acts = [] from did)
      cases member
  | issueTokenSet sessionId => exact opens rfl ((show acts = _ from did) ▸ member)
  | upsertCsrf sessionId rawRefreshToken =>
      obtain ⟨familyId, rfl⟩ := did
      exact byLogin rfl member
  | returned tokens =>
      obtain ⟨_, familyId, rfl⟩ := did
      exact byLogin rfl member
  | threw =>
      rcases did with rfl | ⟨sessionId, rfl | ⟨familyId, rawRefreshToken, rfl⟩⟩
      · cases member
      · exact opens trivial member
      · exact byLogin trivial member

theorem RefreshStage.answers {rawToken : RawToken} {stage : RefreshStage}
    (did : stage.Did sha256 rawToken acts) (member : act ∈ acts)
    : Request.Answers sha256 (some (.refresh rawToken stage)) act := by
  have accuses (among : act ∈ [Act.accuses (sha256 rawToken)])
      : Request.Answers sha256 (some (.refresh rawToken stage)) act := by
    cases List.mem_singleton.mp among
    exact ⟨rawToken, stage, rfl, rfl⟩
  have exchanges {successor : Digest} (exchanged : stage.Exchanged sha256 successor)
      (among : act ∈ [Act.exchanges (sha256 rawToken) successor])
      : Request.Answers sha256 (some (.refresh rawToken stage)) act := by
    cases List.mem_singleton.mp among
    exact ⟨rawToken, stage, rfl, rfl, exchanged⟩
  cases stage with
  | rotating stage =>
      rcases RotateStage.did did with rfl | rfl
      · cases member
      · exact accuses member
  | upsertCsrf newRawToken sessionId =>
      exact exchanges rfl ((show acts = _ from did) ▸ member)
  | findActiveSession newRawToken sessionId csrfToken =>
      exact exchanges rfl ((show acts = _ from did) ▸ member)
  | returned tokens => exact exchanges rfl ((show acts = _ from did) ▸ member)
  | threw message =>
      cases message with
      | none =>
          rcases did with rfl | rfl | ⟨newRawToken, rfl⟩
          · cases member
          · exact accuses member
          · exact exchanges trivial member
      | some message =>
          cases message with
          | invalidRefreshToken =>
              rcases did with rfl | rfl
              · cases member
              · rcases List.mem_cons.mp member with rfl | rest
                · exact ⟨rawToken, _, rfl, rfl⟩
                · cases List.mem_singleton.mp rest
                  exact ⟨rawToken, rfl, rfl⟩
          | refreshTokenExpired =>
              cases (show acts = [] from did)
              cases member
          | sessionInvalid =>
              obtain ⟨newRawToken, rfl⟩ := did
              exact exchanges rfl member

/-- An act among those of a request shows in the request's slot. -/
theorem Request.answers {slot : Option Request} (did : Request.Did sha256 slot acts)
    (member : act ∈ acts)
    : Request.Answers sha256 slot act := by
  have absurdly (none : acts = []) : False := by
    rw [none] at member
    cases member
  cases slot with
  | none => exact False.elim (absurdly did)
  | some request =>
      cases request with
      | login userId stage => exact LoginStage.answers did member
      | refresh rawToken stage => exact RefreshStage.answers did member
      | validate payload stage => exact False.elim (absurdly did)
      | logout sessionId stage =>
          cases stage with
          | revoke => exact False.elim (absurdly did)
          | threw => exact False.elim (absurdly did)
          | done =>
              cases (show acts = _ from did)
              cases List.mem_singleton.mp member
              rfl
      | logoutAll userId stage =>
          have notifies (among : act ∈ [Act.notifies userId])
              : Request.Answers sha256 (some (.logoutAll userId stage)) act := by
            cases List.mem_singleton.mp among
            exact ⟨stage, rfl⟩
          cases stage with
          | revokeAllForUser => exact False.elim (absurdly did)
          | updating todo => exact notifies ((show acts = _ from did) ▸ member)
          | done =>
              cases (show acts = _ from did)
              rcases List.mem_cons.mp member with rfl | rest
              · exact ⟨_, rfl⟩
              · cases List.mem_singleton.mp rest
                exact ⟨userId, rfl⟩
          | threw =>
              rcases did with rfl | rfl
              · cases member
              · exact notifies member

variable {moves : List (Move Request Input)} {pool : Pool Store Request}
  {log : List (Nat × SessionAct)} {ledger : SessionLedger}

/-- Every act of the log shows in the slot of the request that has performed it. -/
theorem Accounts.answers (accounts : Accounts sha256 log ledger pool) {index : Nat}
    (performed : (index, act) ∈ log)
    : Request.Answers sha256 pool.threads[index]? act :=
  Request.answers (accounts.slots index) (mem_actsOf.mpr performed)

/-- Every run has a log that accounts for its end. -/
theorem reaches_accounts (run : (machine sha256).Reaches moves pool)
    : ∃ log ledger, Accounts sha256 log ledger pool ∧ Valid sha256 pool.shared := by
  obtain ⟨log, ledger, explained⟩ := reaches_explained run
  exact ⟨log, ledger, .of_explained explained, (reaches_outline run).1⟩

/-- Each session was opened by a login of its user, which the log names. -/
theorem Accounts.opened (accounts : Accounts sha256 log ledger pool)
    (valid : Valid sha256 pool.shared) {row : SessionRow}
    (member : row ∈ pool.shared.sessions.rows)
    : OpenedBy log pool row.userId row.id := by
  have caused := Ledger.reaches_caused accounts.performed
  obtain ⟨index, opened⟩ :=
    caused.opened row.id row.account (accounts.related.account valid member)
  obtain ⟨stage, slot, named⟩ := accounts.answers opened
  exact ⟨index, stage, opened, slot, named⟩

theorem session_opened (run : (machine sha256).Reaches moves pool) {row : SessionRow}
    (member : row ∈ pool.shared.sessions.rows)
    : ∃ log ledger, Accounts sha256 log ledger pool ∧ OpenedBy log pool row.userId row.id := by
  obtain ⟨log, ledger, accounts, valid⟩ := reaches_accounts run
  exact ⟨log, ledger, accounts, accounts.opened valid member⟩

/-- A session is not revoked without a cause. -/
theorem Accounts.revoked (accounts : Accounts sha256 log ledger pool)
    (valid : Valid sha256 pool.shared) {row : SessionRow}
    (member : row ∈ pool.shared.sessions.rows) (revoked : row.isRevoked = true)
    : RevokedBy sha256 log pool row := by
  have shown : Shows pool.shared ledger := accounts.related
  have caused := Ledger.reaches_caused accounts.performed
  rcases caused.closed row.id row.account (shown.account valid member) revoked with
    ⟨index, closed⟩ | ⟨index, notified, closed⟩ | ⟨index, digest, page, condemned, token, same⟩
  · exact Or.inl ⟨index, closed, accounts.answers closed⟩
  · obtain ⟨stage, slot⟩ := accounts.answers notified
    obtain ⟨userId, ended⟩ := accounts.answers closed
    cases slot.symm.trans ended
    exact Or.inr (Or.inl ⟨index, notified, closed, slot⟩)
  · obtain ⟨rawToken, slot, rfl⟩ := accounts.answers condemned
    obtain ⟨tokenRow, inRows, presented, rfl⟩ := shown.row token
    exact Or.inr (Or.inr
      ⟨index, rawToken, condemned, slot, tokenRow, inRows, presented, same⟩)

theorem session_revoked (run : (machine sha256).Reaches moves pool) {row : SessionRow}
    (member : row ∈ pool.shared.sessions.rows) (revoked : row.isRevoked = true)
    : ∃ log ledger, Accounts sha256 log ledger pool ∧ RevokedBy sha256 log pool row := by
  obtain ⟨log, ledger, accounts, valid⟩ := reaches_accounts run
  exact ⟨log, ledger, accounts, accounts.revoked valid member revoked⟩

/-- A token is not used up without a cause. -/
theorem Accounts.used (accounts : Accounts sha256 log ledger pool)
    (valid : Valid sha256 pool.shared) {row : RefreshTokenRow}
    (member : row ∈ pool.shared.refreshTokens.rows) (used : row.isUsed = true)
    : UsedBy sha256 log pool row := by
  have shown : Shows pool.shared ledger := accounts.related
  have caused := Ledger.reaches_caused accounts.performed
  rcases caused.spent row.tokenHash row.page (shown.page valid member) used with
    ⟨index, successor, exchanged⟩ | ⟨index, digest, page, condemned, token, same⟩
  · obtain ⟨rawToken, stage, slot, presented, rotated⟩ := accounts.answers exchanged
    exact Or.inl ⟨index, rawToken, stage, successor, exchanged, slot, presented, rotated⟩
  · obtain ⟨rawToken, slot, rfl⟩ := accounts.answers condemned
    obtain ⟨other, inRows, presented, rfl⟩ := shown.row token
    exact Or.inr ⟨index, rawToken, condemned, slot, other, inRows, presented, same⟩

/-- Nothing in the session tables changes without a cause, in every interleaving. By the log of
the run each session was opened by a login of its user. A revoked one was logged out, or all
sessions of its user were, or the server has refused a token of it as presented again. A used
token was rotated by a refresh that presented it, or a token of its family has been refused so.
-/
theorem rows_have_causes (run : (machine sha256).Reaches moves pool)
    : ∃ log ledger,
        Accounts sha256 log ledger pool
        ∧ (∀ row ∈ pool.shared.sessions.rows,
            OpenedBy log pool row.userId row.id
            ∧ (row.isRevoked = true → RevokedBy sha256 log pool row))
        ∧ ∀ row ∈ pool.shared.refreshTokens.rows,
            row.isUsed = true → UsedBy sha256 log pool row := by
  obtain ⟨log, ledger, accounts, valid⟩ := reaches_accounts run
  exact ⟨log, ledger, accounts,
    fun row member => ⟨accounts.opened valid member, accounts.revoked valid member⟩,
    fun row member => accounts.used valid member⟩

/-- The login in the first slot has opened the session, and the session is revoked after its
first token has been presented twice. -/
theorem rows_have_causes_reuse
    : ∃ log ledger,
        Accounts id log ledger (stateAfter (firstRefresh ++ reuseAlone))
        ∧ OpenedBy log (stateAfter (firstRefresh ++ reuseAlone)) 100 1
        ∧ RevokedBy id log (stateAfter (firstRefresh ++ reuseAlone))
            ⟨1, 100, true, 1, 1 + sevenDays⟩ := by
  have run
      : (machine id).Reaches (firstRefresh ++ reuseAlone)
          (stateAfter (firstRefresh ++ reuseAlone)) := rfl
  have member
      : SessionRow.mk 1 100 true 1 (1 + sevenDays)
        ∈ (stateAfter (firstRefresh ++ reuseAlone)).shared.sessions.rows := by
    decide
  obtain ⟨log, ledger, accounts, sessions, _⟩ := rows_have_causes run
  obtain ⟨opened, revoked⟩ := sessions _ member
  exact ⟨log, ledger, accounts, opened, revoked rfl⟩

end

end NexusComms.Sessions
