import NexusComms.Sessions.Chains

/-! The proof outline of the session store: an invariant of the tables and an assertion for
each request at each statement, all of which hold in every interleaving.
-/

namespace NexusComms.Sessions

open Storage Concurrency LockedTable

theorem revoke_revoke (row : SessionRow) : row.revoke.revoke = row.revoke := rfl

/-- The tables agree with the history of random values, and the rotations with the rows. -/
structure Valid (sha256 : RawToken → Digest) (store : Store) : Prop where
  tokens : Sound RefreshTokenRow.id RefreshTokenRow.markUsed store.refreshTokens
  sessions : Sound SessionRow.id SessionRow.revoke store.sessions
  knownTokens
    : ∀ row ∈ store.refreshTokens.all,
        row.id ∈ store.uuids
        ∧ row.familyId ∈ store.uuids
        ∧ row.tokenHash ∈ store.digests
        ∧ row.createdAt ≤ store.clock
  hashes : (store.refreshTokens.all.map RefreshTokenRow.tokenHash).Nodup
  knownSessions : ∀ row ∈ store.sessions.all, row.id ∈ store.uuids
  chained : Chained sha256 store.refreshTokens.rows store.rotations

/-- Request `owner` holds no token row and has inserted none. -/
structure Idle (store : Store) (owner : Nat) : Prop where
  holder : ∀ k, store.refreshTokens.holder k ≠ some owner
  inserted : store.refreshTokens.insertedBy owner = []

/-- A transaction has begun at `startedAt`, and the token it presents is not younger. -/
structure Dated (sha256 : RawToken → Digest) (store : Store) (rawToken : RawToken)
    (startedAt : Time)
    : Prop where
  started : startedAt ≤ store.clock
  created
    : ∀ row ∈ store.refreshTokens.all,
        row.tokenHash = sha256 rawToken → row.createdAt ≤ startedAt

/-- The presented token belongs to a session. -/
def Owned (sha256 : RawToken → Digest) (store : Store) (rawToken : RawToken)
    (sessionId : Uuid)
    : Prop :=
  ∃ row ∈ store.refreshTokens.rows,
    row.tokenHash = sha256 rawToken ∧ row.sessionId = sessionId

/-- Request `owner` holds the lock of the presented token's row and of no other, and `token`
is still the committed version of that row. -/
structure Reads (sha256 : RawToken → Digest) (store : Store) (owner : Nat)
    (rawToken : RawToken) (startedAt : Time) (token : RefreshTokenRow)
    : Prop where
  holder : ∀ k, store.refreshTokens.holder k = some owner ↔ k = token.id
  committed : token ∈ store.refreshTokens.rows
  presented : token.tokenHash = sha256 rawToken
  created : token.createdAt ≤ startedAt
  started : startedAt ≤ store.clock

/-- On the happy path the token is unused and its own transaction has marked it. -/
structure Marked (sha256 : RawToken → Digest) (store : Store) (owner : Nat)
    (rawToken : RawToken) (startedAt : Time) (token : RefreshTokenRow)
    : Prop where
  reads : Reads sha256 store owner rawToken startedAt token
  unused : token.isUsed = false
  marked : (store.refreshTokens.dirty token.id).isSome

/-- What holds of a call of `rotate` before its next statement. -/
def RotateStage.Holds (sha256 : RawToken → Digest) (store : Store) (owner : Nat)
    (rawToken : RawToken)
    : RotateStage → Prop
  | .begin => Idle store owner
  | .select startedAt => Idle store owner ∧ Dated sha256 store rawToken startedAt
  | .lockToken startedAt id =>
      Idle store owner
      ∧ Dated sha256 store rawToken startedAt
      ∧ ∃ row ∈ store.refreshTokens.rows, row.id = id ∧ row.tokenHash = sha256 rawToken
  | .check startedAt token =>
      Reads sha256 store owner rawToken startedAt token
      ∧ store.refreshTokens.dirty token.id = none
      ∧ store.refreshTokens.insertedBy owner = []
  | .updateFamily token _ =>
      store.refreshTokens.insertedBy owner = [] ∧ token.familyId ∈ store.uuids
  | .commitReuse token =>
      store.refreshTokens.insertedBy owner = [] ∧ token.familyId ∈ store.uuids
  | .insertSuccessor startedAt token =>
      Marked sha256 store owner rawToken startedAt token
      ∧ store.refreshTokens.insertedBy owner = []
  | .commitRotation token _ successor =>
      Marked sha256 store owner rawToken successor.createdAt token
      ∧ store.refreshTokens.insertedBy owner = [successor]
      ∧ successor.familyId = token.familyId
      ∧ successor.sessionId = token.sessionId

/-- What holds of a call of `refresh` before its next statement. -/
def RefreshStage.Holds (sha256 : RawToken → Digest) (store : Store) (owner : Nat)
    (rawToken : RawToken)
    : RefreshStage → Prop
  | .rotating stage => stage.Holds sha256 store owner rawToken
  | .upsertCsrf _ sessionId => Idle store owner ∧ Owned sha256 store rawToken sessionId
  | .findActiveSession _ sessionId _ =>
      Idle store owner ∧ Owned sha256 store rawToken sessionId
  | .returned tokens =>
      Idle store owner ∧ Owned sha256 store rawToken tokens.accessToken.sid
  | .threw _ => Idle store owner

/-- The assertion of one request slot. Only `refresh` ever locks or inserts token rows. -/
def SlotHolds (sha256 : RawToken → Digest) (store : Store) (owner : Nat)
    : Option Request → Prop
  | some (.refresh rawToken stage) =>
      sha256 rawToken ∈ store.digests ∧ stage.Holds sha256 store owner rawToken
  | _ => Idle store owner

/-- No session row disappears, and none changes except by being revoked. -/
def SessionsPersist (before after : Store) : Prop :=
  ∀ row ∈ before.sessions.rows, row ∈ after.sessions.rows ∨ row.revoke ∈ after.sessions.rows

/-- What a step of request `owner` does to all others. -/
structure Moved (owner : Nat) (before after : Store) : Prop where
  others
    : ∀ other,
        other ≠ owner →
          Undisturbed RefreshTokenRow.id RefreshTokenRow.markUsed other
            before.refreshTokens after.refreshTokens
  uuids : before.uuids ⊆ after.uuids
  digests : before.digests ⊆ after.digests
  clock : before.clock ≤ after.clock
  seen
    : ∀ row ∈ after.refreshTokens.all,
        row.tokenHash ∈ before.digests →
          ∃ old ∈ before.refreshTokens.all, SameToken old row
  sessions : SessionsPersist before after

-----------------------------------------------------------------------------------------
-- Assertions are not disturbed by the steps of other requests
-----------------------------------------------------------------------------------------

section

variable {sha256 : RawToken → Digest} {before after : Store} {owner other : Nat}
  {rawToken : RawToken}

theorem Idle.frame (idle : Idle before other) (moved : Moved owner before after)
    (different : other ≠ owner)
    : Idle after other := by
  have undisturbed := moved.others other different
  refine ⟨fun k held => idle.holder k ((undisturbed.holder k).mp held), ?_⟩
  rw [undisturbed.inserted, idle.inserted]

theorem Dated.frame {startedAt : Time} (dated : Dated sha256 before rawToken startedAt)
    (moved : Moved owner before after) (known : sha256 rawToken ∈ before.digests)
    : Dated sha256 after rawToken startedAt := by
  refine ⟨Nat.le_trans dated.started moved.clock, fun row member presented => ?_⟩
  obtain ⟨old, inOld, same⟩ := moved.seen row member (presented ▸ known)
  rw [← same.createdAt]
  exact dated.created old inOld (same.tokenHash.trans presented)

/-- A committed row keeps everything but `is_used`. -/
theorem Moved.persists (moved : Moved owner before after) (different : other ≠ owner)
    {row : RefreshTokenRow} (member : row ∈ before.refreshTokens.rows)
    : ∃ later ∈ after.refreshTokens.rows, SameToken row later := by
  rcases (moved.others other different).persists row member with kept | marked
  · exact ⟨row, kept, ⟨rfl, rfl, rfl, rfl, rfl⟩⟩
  · exact ⟨row.markUsed, marked, ⟨rfl, rfl, rfl, rfl, rfl⟩⟩

theorem Owned.frame {sessionId : Uuid} (owned : Owned sha256 before rawToken sessionId)
    (moved : Moved owner before after) (different : other ≠ owner)
    : Owned sha256 after rawToken sessionId := by
  obtain ⟨row, member, presented, ofSession⟩ := owned
  obtain ⟨later, inLater, same⟩ := moved.persists different member
  exact ⟨later, inLater, same.tokenHash ▸ presented, same.sessionId ▸ ofSession⟩

theorem Reads.frame {startedAt : Time} {token : RefreshTokenRow}
    (reads : Reads sha256 before other rawToken startedAt token)
    (moved : Moved owner before after) (different : other ≠ owner)
    : Reads sha256 after other rawToken startedAt token := by
  have undisturbed := moved.others other different
  exact {
    holder := fun k => (undisturbed.holder k).trans (reads.holder k)
    committed := undisturbed.held token reads.committed ((reads.holder token.id).mpr rfl)
    presented := reads.presented
    created := reads.created
    started := Nat.le_trans reads.started moved.clock
  }

theorem Marked.frame {startedAt : Time} {token : RefreshTokenRow}
    (marked : Marked sha256 before other rawToken startedAt token)
    (moved : Moved owner before after) (different : other ≠ owner)
    : Marked sha256 after other rawToken startedAt token := by
  have held := (marked.reads.holder token.id).mpr rfl
  refine ⟨marked.reads.frame moved different, marked.unused, ?_⟩
  rw [(moved.others other different).dirty token.id held]
  exact marked.marked

theorem RotateStage.Holds.frame {stage : RotateStage}
    (holds : stage.Holds sha256 before other rawToken) (moved : Moved owner before after)
    (different : other ≠ owner) (known : sha256 rawToken ∈ before.digests)
    : stage.Holds sha256 after other rawToken := by
  have undisturbed := moved.others other different
  cases stage with
  | begin => exact Idle.frame holds moved different
  | select startedAt => exact ⟨holds.1.frame moved different, holds.2.frame moved known⟩
  | lockToken startedAt id =>
      obtain ⟨idle, dated, row, member, named, presented⟩ := holds
      obtain ⟨later, inLater, same⟩ := moved.persists different member
      exact ⟨idle.frame moved different, dated.frame moved known, later, inLater,
        same.id ▸ named, same.tokenHash ▸ presented⟩
  | check startedAt token =>
      obtain ⟨reads, clean, inserted⟩ := holds
      have held := (reads.holder token.id).mpr rfl
      exact ⟨reads.frame moved different, (undisturbed.dirty _ held).trans clean,
        undisturbed.inserted.trans inserted⟩
  | updateFamily token todo =>
      exact ⟨undisturbed.inserted.trans holds.1, moved.uuids holds.2⟩
  | commitReuse token => exact ⟨undisturbed.inserted.trans holds.1, moved.uuids holds.2⟩
  | insertSuccessor startedAt token =>
      exact ⟨holds.1.frame moved different, undisturbed.inserted.trans holds.2⟩
  | commitRotation token newRawToken successor =>
      exact ⟨holds.1.frame moved different, undisturbed.inserted.trans holds.2.1,
        holds.2.2⟩

/-- Whatever a request has established, the steps of other requests leave it so. -/
theorem SlotHolds.frame {slot : Option Request} (holds : SlotHolds sha256 before other slot)
    (moved : Moved owner before after) (different : other ≠ owner)
    : SlotHolds sha256 after other slot := by
  cases slot with
  | none => exact Idle.frame holds moved different
  | some request =>
      cases request with
      | refresh rawToken stage =>
          obtain ⟨known, held⟩ := holds
          refine ⟨moved.digests known, ?_⟩
          cases stage with
          | rotating stage => exact RotateStage.Holds.frame held moved different known
          | upsertCsrf newRawToken sessionId =>
              exact ⟨held.1.frame moved different, held.2.frame moved different⟩
          | findActiveSession newRawToken sessionId csrfToken =>
              exact ⟨held.1.frame moved different, held.2.frame moved different⟩
          | returned tokens =>
              exact ⟨held.1.frame moved different, held.2.frame moved different⟩
          | threw message => exact Idle.frame held moved different
      | login userId stage => exact Idle.frame holds moved different
      | logout sessionId stage => exact Idle.frame holds moved different
      | logoutAll userId stage => exact Idle.frame holds moved different
      | validate payload stage => exact Idle.frame holds moved different

end

end NexusComms.Sessions
