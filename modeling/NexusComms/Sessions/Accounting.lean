import NexusComms.Concurrency.Refinement
import NexusComms.Sessions.Pages
import NexusComms.Sessions.Rotation

/-! The session store refines the ledger. However the statements of the requests interleave,
each request performs at single moments the few acts that its answer tells of.
-/

namespace NexusComms.Sessions

open Storage Concurrency LockedTable

section

variable (sha256 : RawToken → Digest)

/-- The acts of a login so far. -/
def LoginStage.Did (userId : Uuid) : LoginStage → List SessionAct → Prop
  | .createSession, acts => acts = []
  | .issueTokenSet sessionId, acts => acts = [.opens sessionId userId]
  | .upsertCsrf sessionId rawRefreshToken, acts =>
      ∃ familyId,
        acts = [.opens sessionId userId, .issues sessionId familyId (sha256 rawRefreshToken)]
  | .returned tokens, acts =>
      tokens.accessToken.sub = userId
      ∧ ∃ familyId,
          acts = [
            .opens tokens.accessToken.sid userId,
            .issues tokens.accessToken.sid familyId (sha256 tokens.refreshToken)
          ]
  | .threw, acts =>
      acts = []
      ∨ ∃ sessionId,
          acts = [.opens sessionId userId]
          ∨ ∃ familyId rawRefreshToken,
              acts = [
                .opens sessionId userId,
                .issues sessionId familyId (sha256 rawRefreshToken)
              ]

/-- The acts of a refresh so far. It has exchanged the token from the COMMIT of the rotation
on, and it accuses the family when the UPDATE of the family takes its snapshot. -/
def RefreshStage.Did (rawToken : RawToken) : RefreshStage → List SessionAct → Prop
  | .rotating (.updateFamily _ _), acts => acts = [.accuses (sha256 rawToken)]
  | .rotating (.commitReuse _), acts => acts = [.accuses (sha256 rawToken)]
  | .rotating _, acts => acts = []
  | .upsertCsrf newRawToken _, acts =>
      acts = [.exchanges (sha256 rawToken) (sha256 newRawToken)]
  | .findActiveSession newRawToken _ _, acts =>
      acts = [.exchanges (sha256 rawToken) (sha256 newRawToken)]
  | .returned tokens, acts =>
      acts = [.exchanges (sha256 rawToken) (sha256 tokens.refreshToken)]
  | .threw (some .invalidRefreshToken), acts =>
      acts = [] ∨ acts = [.accuses (sha256 rawToken), .condemns (sha256 rawToken)]
  | .threw (some .refreshTokenExpired), acts => acts = []
  | .threw (some .sessionInvalid), acts =>
      ∃ newRawToken, acts = [.exchanges (sha256 rawToken) (sha256 newRawToken)]
  | .threw none, acts =>
      acts = []
      ∨ acts = [.accuses (sha256 rawToken)]
      ∨ ∃ newRawToken, acts = [.exchanges (sha256 rawToken) (sha256 newRawToken)]

def LogoutStage.Did (sessionId : Uuid) : LogoutStage → List SessionAct → Prop
  | .revoke, acts => acts = []
  | .done, acts => acts = [.closes sessionId]
  | .threw, acts => acts = []

/-- The acts of `revokeAllForUser`, whose snapshot is the notice. -/
def LogoutAllStage.Did (userId : Uuid) : LogoutAllStage → List SessionAct → Prop
  | .revokeAllForUser, acts => acts = []
  | .updating _, acts => acts = [.notifies userId]
  | .done, acts => acts = [.notifies userId, .closesNoticed]
  | .threw, acts => acts = [] ∨ acts = [.notifies userId]

/-- The acts of a request so far. -/
def Request.Did : Option Request → List SessionAct → Prop
  | some (.login userId stage), acts => stage.Did sha256 userId acts
  | some (.refresh rawToken stage), acts => stage.Did sha256 rawToken acts
  | some (.logout sessionId stage), acts => stage.Did sessionId acts
  | some (.logoutAll userId stage), acts => stage.Did userId acts
  | some (.validate _ _), acts => acts = []
  | none, acts => acts = []

/-- The ledger's acts explain a pool: they lead to a ledger that shows the committed rows, and
each request has done what its stage says. -/
abbrev Accounts (log : List (Nat × SessionAct)) (ledger : SessionLedger)
    (pool : Pool Store Request)
    : Prop :=
  Program.Explained Ledger.machine Shows (fun _ _ _ slot acts => Request.Did sha256 slot acts)
    log ledger pool

-----------------------------------------------------------------------------------------
-- What a request has prepared
-----------------------------------------------------------------------------------------

/-- A reuse branch whose UPDATE has reached all rows of the accused tokens but `todo`. -/
structure Condemning (store : Store) (ledger : SessionLedger) (owner : Nat)
    (rawToken : RawToken) (todo : List Uuid)
    : Prop where
  presented : sha256 rawToken ∈ ledger.accused owner
  known
    : ∀ digest ∈ ledger.accused owner,
        ∃ row ∈ store.refreshTokens.rows, row.tokenHash = digest
  sweep
    : Sweep RefreshTokenRow.id store.refreshTokens owner
        (fun k =>
          ∃ row ∈ store.refreshTokens.rows,
            row.id = k ∧ row.tokenHash ∈ ledger.accused owner)
        todo

/-- The session rows that a transaction holds, and what it has marked for its COMMIT. -/
def RotateStage.Prepared (store : Store) (ledger : SessionLedger) (owner : Nat)
    (rawToken : RawToken)
    : RotateStage → Prop
  | .updateFamily token todo =>
      Condemning sha256 store ledger owner rawToken todo
      ∧ Owned sha256 store rawToken token.sessionId
      ∧ ∀ k, store.sessions.holder k ≠ some owner
  | .commitReuse token =>
      Condemning sha256 store ledger owner rawToken []
      ∧ Owned sha256 store rawToken token.sessionId
      ∧ Sweep SessionRow.id store.sessions owner (fun k => k = token.sessionId) []
  | .commitRotation _ newRawToken successor =>
      successor.isUsed = false
      ∧ successor.tokenHash = sha256 newRawToken
      ∧ ∀ k, store.sessions.holder k ≠ some owner
  | _ => ∀ k, store.sessions.holder k ≠ some owner

def Request.Prepared (store : Store) (ledger : SessionLedger) (owner : Nat)
    : Option Request → Prop
  | some (.refresh rawToken (.rotating stage)) =>
      stage.Prepared sha256 store ledger owner rawToken
  | some (.logoutAll _ (.updating todo)) =>
      Sweep SessionRow.id store.sessions owner (fun k => k ∈ ledger.noticed owner) todo
  | _ => ∀ k, store.sessions.holder k ≠ some owner

/-- The assertion of one request slot with its acts so far. -/
structure SlotAccounted (store : Store) (ledger : SessionLedger) (owner : Nat)
    (slot : Option Request) (acts : List SessionAct)
    : Prop where
  holds : SlotHolds sha256 store owner slot
  confined : SlotConfined sha256 store owner slot
  prepared : Request.Prepared sha256 store ledger owner slot
  did : Request.Did sha256 slot acts

/-- The store has its invariants, and the ledger shows its rows. -/
structure Accounted (store : Store) (ledger : SessionLedger) : Prop where
  valid : Valid sha256 store
  linked : Linked store
  shown : Shows store ledger

end

section

variable {sha256 : RawToken → Digest} {before after : Store} {ledger ledger' : SessionLedger}
  {owner other : Nat} {rawToken : RawToken}

/-- What a step of request `owner` leaves to the others: their session locks, and what they
have collected on the ledger. -/
structure Spares (owner : Nat) (before after : Store) (ledger ledger' : SessionLedger)
    : Prop where
  sessions
    : ∀ other,
        other ≠ owner →
          Undisturbed SessionRow.id SessionRow.revoke other before.sessions after.sessions
  accused : ∀ other, other ≠ owner → ledger'.accused other = ledger.accused other
  noticed : ∀ other, other ≠ owner → ledger'.noticed other = ledger.noticed other

theorem Condemning.frame {todo : List Uuid}
    (condemning : Condemning sha256 before ledger other rawToken todo)
    (moved : Moved owner before after) (valid : Valid sha256 after)
    (accused : ledger'.accused other = ledger.accused other) (different : other ≠ owner)
    : Condemning sha256 after ledger' other rawToken todo := by
  have known (digest : Digest) (member : digest ∈ ledger.accused other)
      : ∃ row ∈ before.refreshTokens.rows,
          ∃ later ∈ after.refreshTokens.rows,
            SameToken row later ∧ later.tokenHash = digest := by
    obtain ⟨row, inRows, hash⟩ := condemning.known digest member
    obtain ⟨later, inLater, same⟩ := moved.persists different inRows
    exact ⟨row, inRows, later, inLater, same, same.tokenHash ▸ hash⟩
  have targets (k : Uuid)
      : (∃ row ∈ before.refreshTokens.rows,
            row.id = k ∧ row.tokenHash ∈ ledger.accused other)
        ↔ ∃ row ∈ after.refreshTokens.rows,
            row.id = k ∧ row.tokenHash ∈ ledger'.accused other := by
    rw [accused]
    constructor
    · rintro ⟨row, inRows, named, inAccused⟩
      obtain ⟨later, inLater, same⟩ := moved.persists different inRows
      exact ⟨later, inLater, same.id ▸ named, same.tokenHash ▸ inAccused⟩
    · rintro ⟨row, inRows, named, inAccused⟩
      obtain ⟨old, inOld, later, inLater, same, hash⟩ := known _ inAccused
      have itself := valid.hash_unique inLater inRows hash
      exact ⟨old, inOld, by rw [same.id, itself, named],
        by rwa [same.tokenHash, itself]⟩
  have sweep :=
    condemning.sweep.frame (moved.others other different) (fun _ => rfl)
  refine ⟨accused ▸ condemning.presented, fun digest member => ?_, ?_⟩
  · obtain ⟨_, _, later, inLater, _, hash⟩ := known digest (accused ▸ member)
    exact ⟨later, inLater, hash⟩
  · exact sweep.congr targets

/-- Steps of other requests leave a request prepared. -/
theorem Prepared.frame {slot : Option Request}
    (prepared : Request.Prepared sha256 before ledger other slot)
    (moved : Moved owner before after) (spares : Spares owner before after ledger ledger')
    (valid : Valid sha256 after) (different : other ≠ owner)
    : Request.Prepared sha256 after ledger' other slot := by
  have sessions := spares.sessions other different
  have frees (free : ∀ k, before.sessions.holder k ≠ some other) (k : Uuid)
      : after.sessions.holder k ≠ some other :=
    fun held => free k ((sessions.holder k).mp held)
  have accused := spares.accused other different
  unfold Request.Prepared at prepared ⊢
  split at prepared
  · rename_i rawToken stage
    cases stage with
    | updateFamily token todo =>
        obtain ⟨condemning, owned, free⟩ := prepared
        exact ⟨condemning.frame moved valid accused different, owned.stays moved, frees free⟩
    | commitReuse token =>
        obtain ⟨condemning, owned, sweep⟩ := prepared
        exact ⟨condemning.frame moved valid accused different, owned.stays moved,
          sweep.frame sessions (fun _ => rfl)⟩
    | commitRotation token newRawToken successor =>
        exact ⟨prepared.1, prepared.2.1, frees prepared.2.2⟩
    | begin => exact frees prepared
    | select startedAt => exact frees prepared
    | lockToken startedAt id => exact frees prepared
    | check startedAt token => exact frees prepared
    | insertSuccessor startedAt token => exact frees prepared
  · rw [spares.noticed other different]
    exact prepared.frame sessions (fun _ => rfl)
  · exact frees prepared

-----------------------------------------------------------------------------------------
-- The statements
-----------------------------------------------------------------------------------------

/-- What a statement of request `owner` performs on the ledger, at most one act. -/
structure Performs (sha256 : RawToken → Digest) (owner : Nat) (request' : Request)
    (acts : List SessionAct) (before after : Store) (ledger : SessionLedger)
    (more : List SessionAct) (ledger' : SessionLedger)
    : Prop where
  short : more.length ≤ 1
  performed : Ledger.machine.exec ledger (more.map (fun act => (owner, act))) = some ledger'
  shown : Shows after ledger'
  spares : Spares owner before after ledger ledger'
  prepared : Request.Prepared sha256 after ledger' owner (some request')
  did : Request.Did sha256 (some request') (acts ++ more)

/-- Some acts explain the statement. -/
def Explains (sha256 : RawToken → Digest) (owner : Nat) (request' : Request)
    (acts : List SessionAct) (before after : Store) (ledger : SessionLedger)
    : Prop :=
  ∃ more ledger', Performs sha256 owner request' acts before after ledger more ledger'

variable {request' : Request} {acts : List SessionAct} {input : Input}

/-- A statement that changes no committed row performs nothing. -/
theorem Explains.quiet (shown : Shows before ledger)
    (sessions : after.sessions.rows = before.sessions.rows)
    (tokens : after.refreshTokens.rows = before.refreshTokens.rows)
    (others
      : ∀ other,
          other ≠ owner →
            Undisturbed SessionRow.id SessionRow.revoke other before.sessions after.sessions)
    (prepared : Request.Prepared sha256 after ledger owner (some request'))
    (did : Request.Did sha256 (some request') acts)
    : Explains sha256 owner request' acts before after ledger :=
  ⟨[], ledger, Nat.zero_le _, rfl, shown.of_rows_eq sessions tokens,
    ⟨others, fun _ _ => rfl, fun _ _ => rfl⟩, prepared, by rwa [List.append_nil]⟩

/-- A statement that performs one act. -/
theorem Explains.act (act : SessionAct)
    (performed : ledger.Admits owner act ∧ Shows after (ledger.perform owner act))
    (others
      : ∀ other,
          other ≠ owner →
            Undisturbed SessionRow.id SessionRow.revoke other before.sessions after.sessions)
    (prepared
      : Request.Prepared sha256 after (ledger.perform owner act) owner (some request'))
    (did : Request.Did sha256 (some request') (acts ++ [act]))
    : Explains sha256 owner request' acts before after ledger :=
  ⟨[act], ledger.perform owner act, Nat.le_refl _, Ledger.exec_single performed.1,
    performed.2,
    ⟨others, fun _ different => (Ledger.perform_collected different).1,
      fun _ different => (Ledger.perform_collected different).2⟩, prepared, did⟩

/-- ROLLBACK gives up all session locks. -/
theorem rollback_free (store : Store) (owner : Nat) (k : Uuid)
    : (store.rollback owner).sessions.holder k ≠ some owner :=
  fun held => (release_holder_iff.mp held).1 rfl

/-- So does COMMIT. -/
theorem commit_sessions_free (store : Store) (owner : Nat) (k : Uuid)
    : (store.commit owner).sessions.holder k ≠ some owner :=
  fun held => (release_holder_iff.mp held).1 rfl

/-- A rotation that is rolled back has performed nothing, or has accused the family. -/
theorem Explains.rollback {message : Option AuthErrorMessage} (shown : Shows before ledger)
    (did : RefreshStage.Did sha256 rawToken (.threw message) acts)
    : Explains sha256 owner (.refresh rawToken (.threw message)) acts before
        (before.rollback owner) ledger :=
  .quiet shown rfl rfl (fun _ different => .release different _) (rollback_free before owner)
    did

/-- Until its COMMIT a rotation has at most accused the family. -/
theorem RotateStage.did {stage : RotateStage}
    (did : RefreshStage.Did sha256 rawToken (.rotating stage) acts)
    : acts = [] ∨ acts = [.accuses (sha256 rawToken)] := by
  cases stage with
  | updateFamily token todo => exact Or.inr did
  | commitReuse token => exact Or.inr did
  | begin => exact Or.inl did
  | select startedAt => exact Or.inl did
  | lockToken startedAt id => exact Or.inl did
  | check startedAt token => exact Or.inl did
  | insertSuccessor startedAt token => exact Or.inl did
  | commitRotation token newRawToken successor => exact Or.inl did

end

end NexusComms.Sessions
