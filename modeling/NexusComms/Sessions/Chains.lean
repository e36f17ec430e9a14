import NexusComms.Sessions.Requests

/-! Rotation chains: what the committed rows of a family look like, and how a commit extends
them. The history of rotations is related to the order of the rows, family by family.
-/

namespace NexusComms.Sessions

open Storage LockedTable

@[simp]
theorem markUsed_id (row : RefreshTokenRow) : row.markUsed.id = row.id := rfl

@[simp]
theorem markUsed_familyId (row : RefreshTokenRow) : row.markUsed.familyId = row.familyId :=
  rfl

@[simp]
theorem markUsed_sessionId (row : RefreshTokenRow) : row.markUsed.sessionId = row.sessionId :=
  rfl

@[simp]
theorem markUsed_tokenHash (row : RefreshTokenRow) : row.markUsed.tokenHash = row.tokenHash :=
  rfl

@[simp]
theorem markUsed_createdAt (row : RefreshTokenRow) : row.markUsed.createdAt = row.createdAt :=
  rfl

@[simp]
theorem markUsed_isUsed (row : RefreshTokenRow) : row.markUsed.isUsed = true := rfl

theorem markUsed_markUsed (row : RefreshTokenRow) : row.markUsed.markUsed = row.markUsed := rfl

/-- Two rows that differ at most in `is_used`. -/
structure SameToken (left right : RefreshTokenRow) : Prop where
  id : left.id = right.id
  familyId : left.familyId = right.familyId
  sessionId : left.sessionId = right.sessionId
  tokenHash : left.tokenHash = right.tokenHash
  createdAt : left.createdAt = right.createdAt

theorem SameToken.of_markUsed {left right : RefreshTokenRow}
    (same : left.markUsed = right.markUsed)
    : SameToken left right := by
  simp only [RefreshTokenRow.markUsed, RefreshTokenRow.mk.injEq] at same
  obtain ⟨id, session, hash, family, _, created, _⟩ := same
  exact ⟨id, family, session, hash, created⟩

/-- A list of consecutive pairs grows by one pair when the list grows by one entry. -/
theorem zip_tail_concat {α : Type} (front : List α) (last next : α)
    : (front ++ [last] ++ [next]).zip (front ++ [last] ++ [next]).tail
      = (front ++ [last]).zip (front ++ [last]).tail ++ [(last, next)] := by
  induction front with
  | nil => rfl
  | cons head rest ih =>
      cases rest with
      | nil => rfl
      | cons second rest => simpa using ih

/-- The rows of a family in `rows`, in order. -/
def familyRows (rows : List RefreshTokenRow) (familyId : Uuid) : List RefreshTokenRow :=
  rows.filter (fun row => row.familyId = familyId)

/-- `marks` may set `is_used` in some rows and changes nothing else. -/
def Marks (marks : RefreshTokenRow → RefreshTokenRow) : Prop :=
  ∀ row, marks row = row ∨ marks row = row.markUsed

theorem Marks.sameToken {marks : RefreshTokenRow → RefreshTokenRow} (valid : Marks marks)
    (row : RefreshTokenRow)
    : SameToken (marks row) row := by
  apply SameToken.of_markUsed
  rcases valid row with same | used
  · rw [same]
  · rw [used, markUsed_markUsed]

/-- Publishing under a transaction's locks is such a marking. -/
theorem published_marks (table : LockedTable Uuid RefreshTokenRow) (owner : Nat)
    : Marks (table.published RefreshTokenRow.id RefreshTokenRow.markUsed owner) := by
  intro row
  unfold published
  split
  · exact Or.inr rfl
  · exact Or.inl rfl

theorem familyRows_map {marks : RefreshTokenRow → RefreshTokenRow} (valid : Marks marks)
    (rows : List RefreshTokenRow) (familyId : Uuid)
    : familyRows (rows.map marks) familyId = (familyRows rows familyId).map marks := by
  unfold familyRows
  rw [List.filter_map]
  congr 1
  apply List.filter_congr
  intro row _
  simp [(valid.sameToken row).familyId]

/-- The rows of every family form one chain in the order of creation: each row after the
first was inserted by the rotation of the row before it, all rows but the last are used, and
`created_at` never decreases. Rows of one family belong to one session, and each recorded
rotation used up the row of the token that was presented.
-/
structure Chained (sha256 : RawToken → Digest) (rows : List RefreshTokenRow)
    (rotations : List Rotation)
    : Prop where
  chain
    : ∀ familyId,
        (rotations.filter (fun rotation => rotation.token.familyId = familyId)).map
            (fun rotation => (rotation.token.id, rotation.successor.id))
          = ((familyRows rows familyId).map RefreshTokenRow.id).zip
              ((familyRows rows familyId).map RefreshTokenRow.id).tail
  spent : ∀ familyId, ∀ row ∈ (familyRows rows familyId).dropLast, row.isUsed = true
  ordered
    : ∀ familyId,
        (familyRows rows familyId).Pairwise (fun left right => left.createdAt ≤ right.createdAt)
  session
    : ∀ left ∈ rows, ∀ right ∈ rows,
        left.familyId = right.familyId → left.sessionId = right.sessionId
  rotated
    : ∀ rotation ∈ rotations,
        ∃ row ∈ rows,
          row.id = rotation.token.id
          ∧ row.tokenHash = sha256 rotation.rawToken
          ∧ row.isUsed = true
  tokensOnce : (rotations.map (fun rotation => rotation.token.id)).Nodup
  rawTokensOnce : (rotations.map Rotation.rawToken).Nodup

theorem Chained.empty (sha256 : RawToken → Digest) : Chained sha256 [] [] :=
  ⟨by simp [familyRows], by simp [familyRows], by simp [familyRows], by simp, by simp,
    List.nodup_nil, List.nodup_nil⟩

variable {sha256 : RawToken → Digest} {rows : List RefreshTokenRow}
  {rotations : List Rotation}

/-- Setting `is_used` anywhere keeps the chains. -/
theorem Chained.mark (chained : Chained sha256 rows rotations)
    {marks : RefreshTokenRow → RefreshTokenRow} (valid : Marks marks)
    : Chained sha256 (rows.map marks) rotations := by
  have same := valid.sameToken
  have ids (familyId : Uuid)
      : (familyRows (rows.map marks) familyId).map RefreshTokenRow.id
        = (familyRows rows familyId).map RefreshTokenRow.id := by
    rw [familyRows_map valid, List.map_map]
    exact List.map_congr_left (fun row _ => (same row).id)
  have stays {row : RefreshTokenRow} (used : row.isUsed = true)
      : (marks row).isUsed = true := by
    rcases valid row with unchanged | marked
    · rw [unchanged, used]
    · rw [marked, markUsed_isUsed]
  refine {
    chain := ?_
    spent := ?_
    ordered := ?_
    session := ?_
    rotated := ?_
    tokensOnce := chained.tokensOnce
    rawTokensOnce := chained.rawTokensOnce
  }
  · intro familyId
    rw [ids, chained.chain]
  · intro familyId row member
    rw [familyRows_map valid, ← List.map_dropLast] at member
    obtain ⟨old, inFront, rfl⟩ := List.mem_map.mp member
    exact stays (chained.spent familyId old inFront)
  · intro familyId
    rw [familyRows_map valid, List.pairwise_map]
    refine (chained.ordered familyId).imp ?_
    intro left right le
    rwa [(same left).createdAt, (same right).createdAt]
  · intro left inLeft right inRight family
    obtain ⟨oldLeft, memberLeft, rfl⟩ := List.mem_map.mp inLeft
    obtain ⟨oldRight, memberRight, rfl⟩ := List.mem_map.mp inRight
    rw [(same oldLeft).sessionId, (same oldRight).sessionId]
    rw [(same oldLeft).familyId, (same oldRight).familyId] at family
    exact chained.session oldLeft memberLeft oldRight memberRight family
  · intro rotation member
    obtain ⟨row, inRows, named, hashed, used⟩ := chained.rotated rotation member
    exact ⟨marks row, List.mem_map_of_mem inRows, (same row).id.trans named,
      (same row).tokenHash.trans hashed, stays used⟩

/-- A first row of a new family starts a chain. -/
theorem Chained.begin (chained : Chained sha256 rows rotations) {row : RefreshTokenRow}
    (fresh : ∀ old ∈ rows, old.familyId ≠ row.familyId)
    : Chained sha256 (rows ++ [row]) rotations := by
  have noRows : familyRows rows row.familyId = [] := by
    simpa [familyRows, List.filter_eq_nil_iff] using fresh
  have family (familyId : Uuid)
      : familyRows (rows ++ [row]) familyId
        = if row.familyId = familyId then [row] else familyRows rows familyId := by
    by_cases same : row.familyId = familyId
    · subst same
      simp only [familyRows, List.filter_append] at noRows ⊢
      simp [noRows]
    · simp [familyRows, same]
  refine {
    chain := ?_
    spent := ?_
    ordered := ?_
    session := ?_
    rotated := ?_
    tokensOnce := chained.tokensOnce
    rawTokensOnce := chained.rawTokensOnce
  }
  · intro familyId
    rw [family]
    split
    · rename_i same
      rw [chained.chain, ← same, noRows]
      rfl
    · exact chained.chain familyId
  · intro familyId old member
    rw [family] at member
    split at member
    · simp at member
    · exact chained.spent familyId old member
  · intro familyId
    rw [family]
    split
    · exact List.pairwise_singleton _ _
    · exact chained.ordered familyId
  · intro left inLeft right inRight same
    rcases List.mem_append.mp inLeft with oldLeft | newLeft
    · rcases List.mem_append.mp inRight with oldRight | newRight
      · exact chained.session left oldLeft right oldRight same
      · exact absurd same (List.mem_singleton.mp newRight ▸ fresh left oldLeft)
    · rcases List.mem_append.mp inRight with oldRight | newRight
      · exact absurd same.symm (List.mem_singleton.mp newLeft ▸ fresh right oldRight)
      · rw [List.mem_singleton.mp newLeft, List.mem_singleton.mp newRight]
  · intro rotation member
    obtain ⟨old, inRows, facts⟩ := chained.rotated rotation member
    exact ⟨old, List.mem_append_left _ inRows, facts⟩

/-- An unused row is the last of its family. -/
theorem Chained.unused_last (chained : Chained sha256 rows rotations)
    {row : RefreshTokenRow} (member : row ∈ rows) (unused : row.isUsed = false)
    : familyRows rows row.familyId = (familyRows rows row.familyId).dropLast ++ [row] := by
  have inFamily : row ∈ familyRows rows row.familyId := by simp [familyRows, member]
  have split := List.dropLast_append_getLast (List.ne_nil_of_mem inFamily)
  rw [← split] at inFamily
  rcases List.mem_append.mp inFamily with front | last
  · have used := chained.spent row.familyId row front
    simp [unused] at used
  · rw [← List.mem_singleton.mp last] at split
    exact split.symm

/-- A committed state has at most one unused row in each family. -/
theorem Chained.unused_le_one (chained : Chained sha256 rows rotations) (familyId : Uuid)
    : ((familyRows rows familyId).filter (fun row => !row.isUsed)).length ≤ 1 := by
  rcases List.eq_nil_or_concat (familyRows rows familyId) with none | ⟨front, last, split⟩
  · simp [none]
  · have used : front.filter (fun row => !row.isUsed) = [] := by
      refine List.filter_eq_nil_iff.mpr (fun row member => ?_)
      have spent := chained.spent familyId row (by simpa [split] using member)
      simp [spent]
    rw [split, List.concat_eq_append, List.filter_append, used, List.nil_append]
    exact List.length_filter_le _ [last]

/-- A rotation uses up the last row of its family and appends the successor. The row was
unused until now, so no earlier rotation was of the same row or the same token.
-/
theorem Chained.rotate (chained : Chained sha256 rows rotations) (rotation : Rotation)
    {marks : RefreshTokenRow → RefreshTokenRow} (valid : Marks marks)
    (hashesUnique : (rows.map RefreshTokenRow.tokenHash).Nodup)
    (idsUnique : (rows.map RefreshTokenRow.id).Nodup)
    (member : rotation.token ∈ rows) (unused : rotation.token.isUsed = false)
    (marked : marks rotation.token = rotation.token.markUsed)
    (presented : rotation.token.tokenHash = sha256 rotation.rawToken)
    (sameFamily : rotation.successor.familyId = rotation.token.familyId)
    (sameSession : rotation.successor.sessionId = rotation.token.sessionId)
    (later : rotation.token.createdAt ≤ rotation.successor.createdAt)
    : Chained sha256 (rows.map marks ++ [rotation.successor]) (rotations ++ [rotation]) := by
  have base := chained.mark valid
  have same := valid.sameToken
  have last := chained.unused_last member unused
  have neverId {old : Rotation} (earlier : old ∈ rotations)
      : old.token.id ≠ rotation.token.id := by
    intro equal
    obtain ⟨row, inRows, named, _, used⟩ := chained.rotated old earlier
    have identical := List.inj_on_of_nodup_map idsUnique inRows member (named.trans equal)
    rw [identical, unused] at used
    cases used
  have neverRaw {old : Rotation} (earlier : old ∈ rotations)
      : old.rawToken ≠ rotation.rawToken := by
    intro equal
    obtain ⟨row, inRows, _, hashed, used⟩ := chained.rotated old earlier
    have identical := List.inj_on_of_nodup_map hashesUnique inRows member
      (hashed.trans (equal ▸ presented.symm))
    rw [identical, unused] at used
    cases used
  have family (familyId : Uuid)
      : familyRows (rows.map marks ++ [rotation.successor]) familyId
        = (familyRows rows familyId).map marks
          ++ if rotation.token.familyId = familyId then [rotation.successor] else [] := by
    rw [← familyRows_map valid]
    by_cases this : rotation.token.familyId = familyId
    · simp [familyRows, sameFamily, this]
    · simp [familyRows, sameFamily, this]
  refine {
    chain := ?_
    spent := ?_
    ordered := ?_
    session := ?_
    rotated := ?_
    tokensOnce := ?_
    rawTokensOnce := ?_
  }
  · intro familyId
    have before := base.chain familyId
    rw [familyRows_map valid] at before
    rw [family, List.filter_append, List.map_append, before]
    by_cases this : rotation.token.familyId = familyId
    · subst this
      rw [last]
      simp only [if_true, List.map_append, List.map_cons, List.map_nil, marked,
        markUsed_id, zip_tail_concat]
      simp
    · simp [this]
  · intro familyId row inFront
    rw [family] at inFront
    by_cases this : rotation.token.familyId = familyId
    · subst this
      rw [if_pos rfl, List.dropLast_concat, last, List.map_append] at inFront
      rcases List.mem_append.mp inFront with earlier | newest
      · obtain ⟨old, inOld, rfl⟩ := List.mem_map.mp earlier
        apply base.spent rotation.token.familyId
        rw [familyRows_map valid, ← List.map_dropLast]
        exact List.mem_map_of_mem inOld
      · simp only [List.map_cons, List.map_nil, List.mem_singleton] at newest
        rw [newest, marked, markUsed_isUsed]
    · rw [if_neg this, List.append_nil, ← familyRows_map valid] at inFront
      exact base.spent familyId row inFront
  · intro familyId
    rw [family]
    by_cases this : rotation.token.familyId = familyId
    · subst this
      rw [if_pos rfl, List.pairwise_append]
      refine ⟨?_, List.pairwise_singleton _ _, ?_⟩
      · simpa only [familyRows_map valid] using base.ordered rotation.token.familyId
      · intro row inRow successor isSuccessor
        rw [List.mem_singleton.mp isSuccessor]
        obtain ⟨old, inOld, rfl⟩ := List.mem_map.mp inRow
        rw [(same old).createdAt]
        have sorted := chained.ordered rotation.token.familyId
        rw [last] at sorted inOld
        rcases List.mem_append.mp inOld with front | newest
        · exact Nat.le_trans
            ((List.pairwise_append.mp sorted).2.2 old front _ (by simp)) later
        · rw [List.mem_singleton.mp newest]
          exact later
    · rw [if_neg this, List.append_nil]
      simpa only [familyRows_map valid] using base.ordered familyId
  · have toSuccessor {row : RefreshTokenRow} (inRow : row ∈ rows.map marks)
        (sharing : row.familyId = rotation.successor.familyId)
        : row.sessionId = rotation.successor.sessionId := by
      rw [sameSession]
      have inMarked : marks rotation.token ∈ rows.map marks := List.mem_map_of_mem member
      have linked := base.session row inRow _ inMarked
        (by rw [sharing, sameFamily, marked, markUsed_familyId])
      rwa [marked, markUsed_sessionId] at linked
    intro left inLeft right inRight sharing
    rcases List.mem_append.mp inLeft with oldLeft | newLeft
    · rcases List.mem_append.mp inRight with oldRight | newRight
      · exact base.session left oldLeft right oldRight sharing
      · rw [List.mem_singleton.mp newRight] at sharing ⊢
        exact toSuccessor oldLeft sharing
    · rw [List.mem_singleton.mp newLeft] at sharing ⊢
      rcases List.mem_append.mp inRight with oldRight | newRight
      · exact (toSuccessor oldRight sharing.symm).symm
      · rw [List.mem_singleton.mp newRight]
  · intro entry inRotations
    rcases List.mem_append.mp inRotations with earlier | newest
    · obtain ⟨row, inRows, facts⟩ := base.rotated entry earlier
      exact ⟨row, List.mem_append_left _ inRows, facts⟩
    · rw [List.mem_singleton.mp newest]
      refine ⟨rotation.token.markUsed, ?_, rfl, presented, rfl⟩
      exact List.mem_append_left _ (marked ▸ List.mem_map_of_mem member)
  · rw [List.map_append, List.nodup_append]
    refine ⟨chained.tokensOnce, by simp, ?_⟩
    intro left inLeft right inRight
    obtain ⟨old, earlier, rfl⟩ := List.mem_map.mp inLeft
    simp only [List.map_cons, List.map_nil, List.mem_singleton] at inRight
    exact inRight ▸ neverId earlier
  · rw [List.map_append, List.nodup_append]
    refine ⟨chained.rawTokensOnce, by simp, ?_⟩
    intro left inLeft right inRight
    obtain ⟨old, earlier, rfl⟩ := List.mem_map.mp inLeft
    simp only [List.map_cons, List.map_nil, List.mem_singleton] at inRight
    exact inRight ▸ neverRaw earlier

end NexusComms.Sessions
