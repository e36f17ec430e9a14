import NexusComms.Sessions.Interleavings

/-! What token rotation guarantees in every interleaving: the tokens of a family form one
chain, and detected reuse ends the family unless a rotation commits while the reuse branch
is still collecting the rows of the family.
-/

namespace NexusComms.Sessions

open Storage Concurrency LockedTable

/-- The committed rotations of a family, oldest first. -/
def Store.rotationsOf (store : Store) (familyId : Uuid) : List Rotation :=
  store.rotations.filter (fun rotation => rotation.token.familyId = familyId)

/-- Rotation is linear. No row and no raw token is ever rotated twice; the rows of a family
are linked by its rotations one after the other, in the order of creation; and at most one
of them is unused.
-/
theorem rotation_linear {sha256 : RawToken → Digest} {moves : List (Move Request Input)}
    {pool : Pool Store Request} (run : (machine sha256).Reaches moves pool)
    : (pool.shared.rotations.map (fun rotation => rotation.token.id)).Nodup
      ∧ (pool.shared.rotations.map Rotation.rawToken).Nodup
      ∧ (pool.shared.refreshTokens.rows.map RefreshTokenRow.id).Nodup
      ∧ ∀ familyId,
          (pool.shared.rotationsOf familyId).map
              (fun rotation => (rotation.token.id, rotation.successor.id))
            = ((pool.shared.family familyId).map RefreshTokenRow.id).zip
                ((pool.shared.family familyId).map RefreshTokenRow.id).tail
          ∧ (pool.shared.family familyId).Pairwise
              (fun left right => left.createdAt ≤ right.createdAt)
          ∧ ((pool.shared.family familyId).filter (fun row => !row.isUsed)).length ≤ 1 := by
  have valid := (reaches_outline run).1
  have chained := valid.chained
  refine ⟨chained.tokensOnce, chained.rawTokensOnce, valid.tokens.rows_nodup, ?_⟩
  intro familyId
  exact ⟨chained.chain familyId, chained.ordered familyId, chained.unused_le_one familyId⟩

/-- A login, then its first refresh. -/
def firstRefresh : List (Move Request Input) := [
  .start (.login 100 .createSession),
  .step 0 { now := 1, uuid := 1 },
  .step 0 { now := 2, uuid := 2, familyId := 3, rawToken := 10 },
  .step 0 { now := 3, rawToken := 11 },
  .start (.refresh 10 (.rotating .begin)),
  .step 1 { now := 4 },
  .step 1 { now := 4 },
  .step 1 { now := 4 },
  .step 1 { now := 4 },
  .step 1 { now := 5, uuid := 4, rawToken := 12 },
  .step 1 { now := 5 }
]

/-- The newest token is refreshed while the first one is presented again: the UPDATE of the
reuse branch takes its snapshot, and the rotation commits before the UPDATE ends. -/
def reuseDuringRotation : List (Move Request Input) := [
  .start (.refresh 12 (.rotating .begin)),
  .start (.refresh 10 (.rotating .begin)),
  .step 2 { now := 6 },
  .step 2 { now := 6 },
  .step 2 { now := 6 },
  .step 2 { now := 6 },
  .step 3 { now := 7 },
  .step 3 { now := 7 },
  .step 3 { now := 7 },
  .step 3 { now := 7 },
  .step 3 { now := 7, row := 2 },
  .step 2 { now := 8, uuid := 5, rawToken := 13 },
  .step 2 { now := 8 },
  .step 3 { now := 9, row := 4 },
  .step 3 { now := 9 },
  .step 3 { now := 9 }
]

/-- The state after a run from the migrated database, under the identity as digest. -/
def stateAfter (moves : List (Move Request Input)) : Pool Store Request :=
  ((machine id).exec (machine id).init moves).getD ⟨Store.empty, []⟩

theorem rotation_linear_overlap
    : (stateAfter (firstRefresh ++ reuseDuringRotation)).shared.rotations.length = 2
      ∧ ((stateAfter (firstRefresh ++ reuseDuringRotation)).shared.rotations.map
          (fun rotation => rotation.token.id)).Nodup := by
  have run
      : (machine id).Reaches (firstRefresh ++ reuseDuringRotation)
          (stateAfter (firstRefresh ++ reuseDuringRotation)) := rfl
  exact ⟨rfl, (rotation_linear run).1⟩

-----------------------------------------------------------------------------------------
-- Reuse detection
-----------------------------------------------------------------------------------------

/-- What reuse detection is for: from `middle` on, where its COMMIT has happened, every row
of the family is used, and the family is never rotated again.
-/
def ReuseKillsFamily (middle final : Store) : Prop :=
  ∀ familyId ∈ middle.reuseCommits,
    (∀ row ∈ middle.family familyId, row.isUsed = true)
    ∧ (∀ row ∈ final.family familyId, row.isUsed = true)
    ∧ final.rotationsOf familyId = middle.rotationsOf familyId

/-- The family that the happy-path COMMIT of a request would extend. -/
def Request.rotates : Request → Option Uuid
  | .refresh _ (.rotating (.commitRotation token _ _)) => some token.familyId
  | _ => none

/-- The family whose rows the UPDATE of a reuse branch has not all reached yet. -/
def Request.collecting : Request → Option Uuid
  | .refresh _ (.rotating (.updateFamily token (_ :: _))) => some token.familyId
  | _ => none

/-- A rotation does not commit while a reuse branch has rows of the same family left to
update. Such a branch works on the rows of its snapshot and does not see the successor.
-/
def RotatesApart (pool : Pool Store Request) : Move Request Input → Prop
  | .start _ => True
  | .step index input =>
      ∀ familyId ∈ pool.threads[index]?.bind Request.rotates,
        input.fails = false → ∀ reusing ∈ pool.threads, reusing.collecting ≠ some familyId

instance (pool : Pool Store Request)
    : (move : Move Request Input) → Decidable (RotatesApart pool move)
  | .start _ => isTrue trivial
  | .step index input =>
      inferInstanceAs
        (Decidable
          (∀ familyId ∈ pool.threads[index]?.bind Request.rotates,
            input.fails = false →
              ∀ reusing ∈ pool.threads, reusing.collecting ≠ some familyId))

/-- Every unused row of the family is still to be updated by `owner`, or `owner` holds it and
has written its used version. -/
def Collects (store : Store) (owner : Nat) (familyId : Uuid) (todo : List Uuid) : Prop :=
  ∀ row ∈ store.refreshTokens.rows,
    row.familyId = familyId → row.isUsed = false →
      row.id ∈ todo
      ∨ store.refreshTokens.holder row.id = some owner
        ∧ (store.refreshTokens.dirty row.id).isSome

/-- The part of a request's assertion that only runs with rotations apart keep. -/
def SlotCollects (store : Store) (owner : Nat) : Option Request → Prop
  | some (.refresh _ (.rotating (.updateFamily token todo))) =>
      Collects store owner token.familyId todo
  | some (.refresh _ (.rotating (.commitReuse token))) =>
      Collects store owner token.familyId []
  | _ => True

/-- Families whose reuse branch has committed have no unused row. -/
def DeadFamilies (store : Store) : Prop :=
  ∀ familyId ∈ store.reuseCommits,
    familyId ∈ store.uuids
    ∧ ∀ row ∈ store.refreshTokens.rows, row.familyId = familyId → row.isUsed = true

section

variable {sha256 : RawToken → Digest} {before after : Store} {owner other : Nat}
  {input : Input} {request : Request}

/-- Without new unused rows in the family, the steps of others leave the collection. -/
theorem Collects.frame {familyId : Uuid} {todo : List Uuid}
    (collects : Collects before other familyId todo) (moved : Moved owner before after)
    (different : other ≠ owner)
    (old
      : ∀ row ∈ after.refreshTokens.rows,
          row.familyId = familyId → row.isUsed = false → row ∈ before.refreshTokens.rows)
    : Collects after other familyId todo := by
  intro row member ofFamily unused
  have undisturbed := moved.others other different
  rcases collects row (old row member ofFamily unused) ofFamily unused with left | taken
  · exact Or.inl left
  · obtain ⟨held, marked⟩ := taken
    refine Or.inr ⟨(undisturbed.holder row.id).mpr held, ?_⟩
    rwa [undisturbed.dirty row.id held]

/-- The unused rows of a known family were there before, unless a rotation of the family has
committed. -/
theorem Effect.old_unused (effect : Effect owner input request before after)
    {familyId : Uuid} (known : familyId ∈ before.uuids)
    (apart
      : ∀ rawToken token newRawToken successor,
          request
              = .refresh rawToken
                  (.rotating (.commitRotation token newRawToken successor)) →
            input.fails = false →
              token ∈ before.refreshTokens.rows → token.isUsed = false →
                before.refreshTokens.holder token.id = some owner →
                  token.familyId ≠ familyId)
    : ∀ row ∈ after.refreshTokens.rows,
        row.familyId = familyId → row.isUsed = false → row ∈ before.refreshTokens.rows := by
  intro row member ofFamily unused
  cases effect with
  | quiet rotations reuseCommits rows =>
      rcases rows row member with old | foreign
      · exact old
      · exact absurd (ofFamily ▸ known) foreign
  | rotated running succeeds held committed fresh rotations reuseCommits rows =>
      rcases rows row member unused with old | rotated
      · exact old
      · have different := apart _ _ _ _ running succeeds committed fresh held
        exact absurd (rotated.symm.trans ofFamily) different
  | reused running family rotations reuseCommits rows =>
      rw [rows] at member
      exact unused_of_published member unused

/-- The statements of `rotate` carry the collection on: the snapshot starts it with every
row of the family, and each UPDATE of a row moves it from the rest to the rows held. -/
theorem rotate_collects {rawToken : RawToken} {stage : RotateStage} {stage' : RefreshStage}
    (collects : SlotCollects before owner (some (.refresh rawToken (.rotating stage))))
    (ran
      : RefreshTokenRepository.rotate sha256 owner input before rawToken stage
        = some (after, stage'))
    : SlotCollects after owner (some (.refresh rawToken stage')) := by
  cases stage with
  | begin =>
      cases ran
      trivial
  | select startedAt =>
      simp only [RefreshTokenRepository.rotate] at ran
      split at ran
      · cases ran
        trivial
      · cases ran
        trivial
  | lockToken startedAt id =>
      simp only [RefreshTokenRepository.rotate] at ran
      split at ran
      · split at ran
        · cases ran
          trivial
        · cases ran
          trivial
      · cases ran
  | check startedAt token =>
      simp only [RefreshTokenRepository.rotate] at ran
      split at ran
      · cases ran
        trivial
      · split at ran
        · cases ran
          intro row member ofFamily _
          refine Or.inl (List.mem_map_of_mem (List.mem_filter.mpr ⟨member, ?_⟩))
          exact decide_eq_true ofFamily
        · cases ran
          trivial
  | updateFamily token todo =>
      cases todo with
      | nil =>
          simp only [RefreshTokenRepository.rotate] at ran
          split at ran
          · cases ran
            exact collects
          · cases ran
      | cons next later =>
          simp only [RefreshTokenRepository.rotate] at ran
          split at ran
          · cases ran
            intro row member ofFamily unused
            by_cases reached : row.id = input.row
            · -- the row just updated: the holder is this request, the version is its own
              refine Or.inr ⟨by simp [reached], ?_⟩
              have exists_row
                  : (before.refreshTokens.rows.find?
                      (fun old => decide (old.id = input.row))).isSome = true :=
                List.find?_isSome.mpr ⟨row, member, decide_eq_true reached⟩
              simp [reached, current, exists_row]
            · rcases collects row member ofFamily unused with waiting | taken
              · exact Or.inl ((List.mem_erase_of_ne reached).mpr waiting)
              · exact Or.inr (by simpa [reached] using taken)
          · cases ran
  | commitReuse token =>
      cases ran
      trivial
  | insertSuccessor startedAt token =>
      simp only [RefreshTokenRepository.rotate] at ran
      split at ran
      · cases ran
        trivial
      · cases ran
  | commitRotation token newRawToken successor =>
      cases ran
      trivial

/-- Every statement of every request establishes the collection it needs next. -/
theorem request_collects {request' : Request}
    (collects : SlotCollects before owner (some request))
    (ran : request.step sha256 owner input before = some (after, request'))
    : SlotCollects after owner (some request') := by
  cases request with
  | refresh rawToken stage =>
      obtain ⟨⟨store, stage'⟩, stepped, same⟩ := Option.map_eq_some_iff.mp ran
      cases same
      cases stage with
      | rotating stage =>
          simp only [AuthService.refresh] at stepped
          split at stepped
          · cases stepped
            trivial
          · exact rotate_collects collects stepped
      | upsertCsrf newRawToken sessionId =>
          simp only [AuthService.refresh] at stepped
          split at stepped
          · cases stepped
            trivial
          · split at stepped
            · cases stepped
              trivial
            · cases stepped
      | findActiveSession newRawToken sessionId csrfToken =>
          simp only [AuthService.refresh] at stepped
          split at stepped
          · cases stepped
            trivial
          · split at stepped
            · cases stepped
              trivial
            · cases stepped
              trivial
      | returned tokens => cases stepped
      | threw message => cases stepped
  | login userId stage =>
      obtain ⟨_, _, same⟩ := Option.map_eq_some_iff.mp ran
      cases same
      trivial
  | logout sessionId stage =>
      obtain ⟨_, _, same⟩ := Option.map_eq_some_iff.mp ran
      cases same
      trivial
  | logoutAll userId stage =>
      obtain ⟨_, _, same⟩ := Option.map_eq_some_iff.mp ran
      cases same
      trivial
  | validate payload stage =>
      obtain ⟨_, _, same⟩ := Option.map_eq_some_iff.mp ran
      cases same
      trivial

/-- An arriving request collects nothing. -/
theorem start_collects (started : Request.start sha256 before request = some after)
    : SlotCollects after owner (some request) := by
  unfold Request.start at started
  split at started
  · trivial
  · trivial
  · trivial
  · trivial
  · trivial
  · cases started

/-- A reuse branch whose collection is complete publishes its whole family as used. -/
theorem published_used {token row : RefreshTokenRow}
    (collects : Collects before owner token.familyId [])
    (member
      : row
        ∈ before.refreshTokens.rows.map
            (before.refreshTokens.published RefreshTokenRow.id RefreshTokenRow.markUsed owner))
    (ofFamily : row.familyId = token.familyId)
    : row.isUsed = true := by
  cases unused : row.isUsed with
  | true => rfl
  | false =>
      have old := unused_of_published member unused
      obtain ⟨source, inRows, same⟩ := List.mem_map.mp member
      rcases published_marks before.refreshTokens owner source with kept | marked
      · -- the row itself was not republished, but the collection holds it
        have itself : source = row := kept.symm.trans same
        rcases collects row old ofFamily unused with waiting | taken
        · cases waiting
        · rw [itself, published, if_pos taken] at same
          rw [← same] at unused
          cases unused
      · rw [← same, marked] at unused
        cases unused

/-- Dead families stay dead and are not rotated; `reuse` is the family whose reuse branch
commits with this step, if any. -/
theorem DeadFamilies.kept (dead : DeadFamilies before)
    (collects : SlotCollects before owner (some request))
    (moved : Moved owner before after) (effect : Effect owner input request before after)
    : DeadFamilies after
      ∧ ∀ familyId ∈ before.reuseCommits,
          familyId ∈ after.reuseCommits
          ∧ after.rotationsOf familyId = before.rotationsOf familyId := by
  have stillUsed
      : ∀ familyId ∈ before.reuseCommits,
          ∀ row ∈ after.refreshTokens.rows,
            row.familyId = familyId → row.isUsed = true := by
    intro familyId reused row member ofFamily
    obtain ⟨known, used⟩ := dead familyId reused
    cases unused : row.isUsed with
    | true => rfl
    | false =>
        have old := effect.old_unused known (fun _ token _ _ _ _ committed fresh _ same => by
          have spent := used token committed same
          rw [fresh] at spent
          cases spent) row member ofFamily unused
        have spent := used row old ofFamily
        rw [unused] at spent
        cases spent
  have stillKnown (familyId : Uuid) (reused : familyId ∈ before.reuseCommits)
      : familyId ∈ after.uuids :=
    moved.uuids (dead familyId reused).1
  cases effect with
  | quiet rotations reuseCommits rows =>
      refine ⟨fun familyId reused => ?_, fun familyId reused => ?_⟩
      · rw [reuseCommits] at reused
        exact ⟨stillKnown familyId reused, stillUsed familyId reused⟩
      · exact ⟨reuseCommits ▸ reused, by rw [Store.rotationsOf, rotations]; rfl⟩
  | rotated running succeeds held committed fresh rotations reuseCommits rows =>
      refine ⟨fun familyId reused => ?_, fun familyId reused => ?_⟩
      · rw [reuseCommits] at reused
        exact ⟨stillKnown familyId reused, stillUsed familyId reused⟩
      · refine ⟨reuseCommits ▸ reused, ?_⟩
        rename_i token _
        have different : token.familyId ≠ familyId := by
          intro same
          have spent := (dead familyId reused).2 token committed same
          rw [fresh] at spent
          cases spent
        simp [Store.rotationsOf, rotations, different]
  | reused running known rotations reuseCommits rows =>
      refine ⟨fun familyId reused => ?_, fun familyId reused => ?_⟩
      · rw [reuseCommits] at reused
        rcases List.mem_cons.mp reused with now | earlier
        · subst now
          refine ⟨moved.uuids known, fun row member ofFamily => ?_⟩
          rw [rows] at member
          rw [running] at collects
          exact published_used collects member ofFamily
        · exact ⟨stillKnown familyId earlier, stillUsed familyId earlier⟩
      · refine ⟨reuseCommits ▸ List.mem_cons_of_mem _ reused, ?_⟩
        rw [Store.rotationsOf, rotations]
        rfl

end

section

variable {sha256 : RawToken → Digest}

/-- The tables are valid, dead families are dead, and the families that were dead in `since`
have not been rotated after it. -/
def ReuseInvariant (sha256 : RawToken → Digest) (since store : Store) : Prop :=
  Valid sha256 store
  ∧ DeadFamilies store
  ∧ ∀ familyId ∈ since.reuseCommits,
      familyId ∈ store.reuseCommits
      ∧ store.rotationsOf familyId = since.rotationsOf familyId

/-- A request's assertion with the rows it collects. -/
def ReuseSlot (sha256 : RawToken → Digest) (store : Store) (owner : Nat)
    (slot : Option Request)
    : Prop :=
  SlotHolds sha256 store owner slot ∧ SlotCollects store owner slot

/-- The step of another request adds no unused row to a collection that is under way. A
rotation commits only apart from collections with rows left; with none left the rotated
row is held by the collection, and so not by the rotation.
-/
theorem SlotCollects.frame {pool : Pool Store Request} {before after : Store}
    {owner other : Nat} {input : Input} {request : Request}
    (collects : SlotCollects before other pool.threads[other]?)
    (holds : SlotHolds sha256 before other pool.threads[other]?)
    (found : pool.threads[owner]? = some request)
    (apart : RotatesApart pool (.step owner input)) (different : other ≠ owner)
    (moved : Moved owner before after) (effect : Effect owner input request before after)
    : SlotCollects after other pool.threads[other]? := by
  cases running : pool.threads[other]? with
  | none => trivial
  | some reusing =>
      rw [running] at collects holds
      -- the family is known, and no rotation of it commits in this step
      have keep {token : RefreshTokenRow} {todo : List Uuid}
          (known : token.familyId ∈ before.uuids)
          (kept : Collects before other token.familyId todo)
          (waits
            : ∀ next later,
                todo = next :: later →
                  ∃ rawToken,
                    reusing = .refresh rawToken (.rotating (.updateFamily token todo)))
          : Collects after other token.familyId todo := by
        refine kept.frame moved different (effect.old_unused known ?_)
        intro rawToken rotated newRawToken successor runs succeeds committed fresh held same
        cases todo with
        | nil =>
            rcases kept rotated committed same fresh with waiting | taken
            · cases waiting
            · have ours := held.symm.trans taken.1
              exact different (Option.some.inj ours).symm
        | cons next later =>
            obtain ⟨reused, stage⟩ := waits next later rfl
            have commits : pool.threads[owner]?.bind Request.rotates = some rotated.familyId := by
              rw [found, runs]
              rfl
            have collecting : reusing.collecting = some token.familyId := by
              rw [stage]
              rfl
            exact apart _ commits succeeds reusing (List.mem_of_getElem? running)
              (collecting.trans (congrArg some same.symm))
      unfold SlotCollects at collects ⊢
      split
      · rename_i rawToken token todo same
        cases same
        exact keep holds.2.2 collects (fun _ _ _ => ⟨rawToken, rfl⟩)
      · rename_i rawToken token same
        cases same
        exact keep holds.2.2 collects (fun _ _ empty => by cases empty)
      · trivial

/-- The conditional part of the outline, on top of the unconditional one. -/
theorem reuse_outline (since : Store)
    : (program sha256).GuardedOutline RotatesApart (ReuseInvariant sha256 since)
        (ReuseSlot sha256) where
  start := by
    intro pool request store' holds _ started
    obtain ⟨⟨valid, dead, frozen⟩, slots⟩ := holds
    have empty : SlotHolds sha256 pool.shared pool.threads.length none := by
      simpa using (slots pool.threads.length).1
    obtain ⟨seen, rfl⟩ := start_store started
    obtain ⟨valid', moved⟩ := start_kept pool.threads.length valid started
    refine ⟨⟨valid', dead, frozen⟩, ⟨start_own empty started, start_collects started⟩, ?_⟩
    intro other different
    exact ⟨(slots other).1.frame moved different, (slots other).2⟩
  step := by
    intro pool index input request store' request' holds apart found ran
    obtain ⟨⟨valid, dead, frozen⟩, slots⟩ := holds
    obtain ⟨later, stepped⟩ := program_step_some ran
    obtain ⟨valid', ticked⟩ := tick_kept index valid later
    have own := slots index
    rw [found] at own
    obtain ⟨after, holds', moved, effect⟩ :=
      request_kept valid' rfl (tick_own own.1 later) stepped
    have deadNow : DeadFamilies { pool.shared with clock := input.now } := dead
    have collects
        : SlotCollects { pool.shared with clock := input.now } index (some request) :=
      own.2
    obtain ⟨dead', unrotated⟩ := deadNow.kept collects moved effect
    refine ⟨⟨after, dead', fun familyId reused => ?_⟩,
      ⟨holds', request_collects collects stepped⟩, fun other different => ⟨?_, ?_⟩⟩
    · obtain ⟨still, same⟩ := frozen familyId reused
      obtain ⟨later, unchanged⟩ := unrotated familyId still
      exact ⟨later, unchanged.trans same⟩
    · exact ((slots other).1.frame ticked different).frame moved different
    · have others
          : SlotCollects { pool.shared with clock := input.now } other
              pool.threads[other]? :=
        (slots other).2
      exact others.frame (tick_own (slots other).1 later) found apart different moved effect

/-- Reuse detection kills the whole family in every run whose rotations commit apart from
running family UPDATEs: in the state where the reuse branch has committed and in all later
ones every row of the family is used, and the family is not rotated any more.
-/
theorem reuse_kills_family {first second : List (Move Request Input)}
    {middle final : Pool Store Request}
    (apart : (machine sha256).Along RotatesApart (machine sha256).init (first ++ second))
    (reached : (machine sha256).Reaches first middle)
    (later : (machine sha256).exec middle second = some final)
    : ReuseKillsFamily middle.shared final.shared := by
  have begun
      : Program.Holds (ReuseInvariant sha256 Store.empty) (ReuseSlot sha256)
          (machine sha256).init := by
    refine .init ⟨.empty, ?_, ?_⟩ (fun index => ⟨.empty index, trivial⟩)
    · intro familyId reused
      cases reused
    · intro familyId reused
      cases reused
  obtain ⟨⟨valid, dead, _⟩, slots⟩ :=
    (reuse_outline Store.empty).exec apart.left begun reached
  have resumed
      : Program.Holds (ReuseInvariant sha256 middle.shared) (ReuseSlot sha256) middle :=
    ⟨⟨valid, dead, fun familyId reused => ⟨reused, rfl⟩⟩, slots⟩
  obtain ⟨⟨_, dead', frozen⟩, _⟩ :=
    (reuse_outline middle.shared).exec (apart.right reached) resumed later
  intro familyId reused
  obtain ⟨still, same⟩ := frozen familyId reused
  refine ⟨fun row member => ?_, fun row member => ?_, same⟩
  · obtain ⟨inRows, ofFamily⟩ := List.mem_filter.mp member
    exact (dead familyId reused).2 row inRows (of_decide_eq_true ofFamily)
  · obtain ⟨inRows, ofFamily⟩ := List.mem_filter.mp member
    exact (dead' familyId still).2 row inRows (of_decide_eq_true ofFamily)

end

/-- The first token presented again when nothing else runs. -/
def reuseAlone : List (Move Request Input) := [
  .start (.refresh 10 (.rotating .begin)),
  .step 2 { now := 6 },
  .step 2 { now := 6 },
  .step 2 { now := 6 },
  .step 2 { now := 6 },
  .step 2 { now := 6, row := 2 },
  .step 2 { now := 6, row := 4 },
  .step 2 { now := 7 },
  .step 2 { now := 7 }
]

/-- A refresh by itself, as far as the COMMIT of its rotation. -/
def refreshAlone (thread : Nat) (rawToken : RawToken) : List (Move Request Input) := [
  .start (.refresh rawToken (.rotating .begin)),
  .step thread { now := 20 },
  .step thread { now := 20 },
  .step thread { now := 20 },
  .step thread { now := 20 },
  .step thread { now := 20, uuid := 40, rawToken := 41 },
  .step thread { now := 20 }
]

theorem reuse_kills_family_alone
    : (stateAfter (firstRefresh ++ reuseAlone)).shared.reuseCommits = [3]
      ∧ ReuseKillsFamily (stateAfter (firstRefresh ++ reuseAlone)).shared
          (stateAfter (firstRefresh ++ reuseAlone)).shared := by
  have apart
      : (machine id).Along RotatesApart (machine id).init
          ((firstRefresh ++ reuseAlone) ++ []) := by
    decide
  have reached
      : (machine id).Reaches (firstRefresh ++ reuseAlone)
          (stateAfter (firstRefresh ++ reuseAlone)) := rfl
  exact ⟨rfl, reuse_kills_family apart reached rfl⟩

/-- Without the condition reuse detection can miss the newest token: the successor that
commits while the family UPDATE waits stays unused, and can be rotated after the reuse
branch has committed. -/
theorem reuse_misses_successor
    : ∃ middle final,
        (machine id).Reaches (firstRefresh ++ reuseDuringRotation) middle
        ∧ (machine id).exec middle (refreshAlone 4 13) = some final
        ∧ 3 ∈ middle.shared.reuseCommits
        ∧ (middle.shared.family 3).any (fun row => !row.isUsed) = true
        ∧ (final.shared.rotationsOf 3).length = (middle.shared.rotationsOf 3).length + 1
        ∧ ¬ ReuseKillsFamily middle.shared final.shared := by
  have reached
      : (machine id).Reaches (firstRefresh ++ reuseDuringRotation)
          (stateAfter (firstRefresh ++ reuseDuringRotation)) := rfl
  have later
      : (machine id).exec (stateAfter (firstRefresh ++ reuseDuringRotation))
          (refreshAlone 4 13)
        = some (stateAfter (firstRefresh ++ reuseDuringRotation ++ refreshAlone 4 13)) := rfl
  refine ⟨_, _, reached, later, by decide, by decide, by decide, fun killed => ?_⟩
  have longer
      : ((stateAfter (firstRefresh ++ reuseDuringRotation ++ refreshAlone 4 13)).shared.rotationsOf
          3).length
        ≠ ((stateAfter (firstRefresh ++ reuseDuringRotation)).shared.rotationsOf 3).length := by
    decide
  exact longer (congrArg List.length (killed 3 (by decide)).2.2)

end NexusComms.Sessions
