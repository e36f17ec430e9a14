import Mathlib.Data.List.Nodup
import Mathlib.Logic.Function.Basic

/-! Tables of a database under READ COMMITTED. A transaction writes new versions of rows it
has locked, others read committed versions only, and COMMIT publishes all versions at once.
-/

namespace NexusComms.Storage

/-- One table with its row locks. `rows` are the committed versions in insertion order;
`dirty` holds the version that the holder of a row's lock has written, and `inserted` the
rows that a running transaction has added. Transactions are named by numbers.
-/
structure LockedTable (κ ρ : Type) where
  rows : List ρ
  holder : κ → Option Nat
  dirty : κ → Option ρ
  inserted : List (Nat × ρ)

namespace LockedTable

variable {κ ρ : Type} (key : ρ → κ)

def empty : LockedTable κ ρ := ⟨[], fun _ => none, fun _ => none, []⟩

/-- The keys of the committed rows that match when a statement takes its snapshot. -/
def snapshot (table : LockedTable κ ρ) (condition : ρ → Bool) : List κ :=
  (table.rows.filter condition).map key

/-- A transaction may lock a row that nobody else holds. -/
def available (table : LockedTable κ ρ) (owner : Nat) (k : κ) : Bool :=
  table.holder k = none || table.holder k = some owner

/-- The version of a row that the holder of its lock reads: its own, or the last committed
one. -/
def current [DecidableEq κ] (table : LockedTable κ ρ) (k : κ) : Option ρ :=
  (table.dirty k).or (table.rows.find? (fun row => key row = k))

def lock [DecidableEq κ] (table : LockedTable κ ρ) (owner : Nat) (k : κ)
    : LockedTable κ ρ :=
  { table with holder := Function.update table.holder k (some owner) }

/-- Write a new version of a row; a key without a row changes nothing. -/
def write [DecidableEq κ] (table : LockedTable κ ρ) (k : κ) (assign : ρ → ρ)
    : LockedTable κ ρ :=
  { table with dirty := Function.update table.dirty k ((table.current key k).map assign) }

/-- INSERT inside a transaction. -/
def insert (table : LockedTable κ ρ) (owner : Nat) (row : ρ) : LockedTable κ ρ :=
  { table with inserted := table.inserted ++ [(owner, row)] }

/-- INSERT as a transaction of its own. -/
def append (table : LockedTable κ ρ) (row : ρ) : LockedTable κ ρ :=
  { table with rows := table.rows ++ [row] }

def insertedBy (table : LockedTable κ ρ) (owner : Nat) : List ρ :=
  (table.inserted.filter (fun entry => entry.1 = owner)).map Prod.snd

/-- Every row of the table, the insertions of running transactions included. -/
def all (table : LockedTable κ ρ) : List ρ := table.rows ++ table.inserted.map Prod.snd

/-- Give up all locks and unpublished versions of a transaction. -/
def release (table : LockedTable κ ρ) (owner : Nat) : LockedTable κ ρ :=
  {
    rows := table.rows
    holder := fun k => if table.holder k = some owner then none else table.holder k
    dirty := fun k => if table.holder k = some owner then none else table.dirty k
    inserted := table.inserted.filter (fun entry => entry.1 ≠ owner)
  }

/-- COMMIT: the versions written under the transaction's locks replace the rows, and its
insertions follow. -/
def commit (table : LockedTable κ ρ) (owner : Nat) : LockedTable κ ρ :=
  {
    table.release owner with
    rows :=
      table.rows.map
        (fun row =>
          if table.holder (key row) = some owner then
            (table.dirty (key row)).getD row
          else
            row)
      ++ table.insertedBy owner
  }

@[simp]
theorem lock_rows [DecidableEq κ] (table : LockedTable κ ρ) (owner : Nat) (k : κ)
    : (table.lock owner k).rows = table.rows :=
  rfl

@[simp]
theorem lock_dirty [DecidableEq κ] (table : LockedTable κ ρ) (owner : Nat) (k : κ)
    : (table.lock owner k).dirty = table.dirty :=
  rfl

@[simp]
theorem lock_inserted [DecidableEq κ] (table : LockedTable κ ρ) (owner : Nat) (k : κ)
    : (table.lock owner k).inserted = table.inserted :=
  rfl

@[simp]
theorem lock_holder [DecidableEq κ] (table : LockedTable κ ρ) (owner : Nat) (k other : κ)
    : (table.lock owner k).holder other
      = if other = k then some owner else table.holder other := by
  simp [lock, Function.update_apply]

@[simp]
theorem write_rows [DecidableEq κ] (table : LockedTable κ ρ) (k : κ) (assign : ρ → ρ)
    : (table.write key k assign).rows = table.rows :=
  rfl

@[simp]
theorem write_holder [DecidableEq κ] (table : LockedTable κ ρ) (k : κ) (assign : ρ → ρ)
    : (table.write key k assign).holder = table.holder :=
  rfl

@[simp]
theorem write_inserted [DecidableEq κ] (table : LockedTable κ ρ) (k : κ) (assign : ρ → ρ)
    : (table.write key k assign).inserted = table.inserted :=
  rfl

@[simp]
theorem write_dirty [DecidableEq κ] (table : LockedTable κ ρ) (k other : κ) (assign : ρ → ρ)
    : (table.write key k assign).dirty other
      = if other = k then (table.current key k).map assign else table.dirty other := by
  by_cases same : other = k
  · subst same
    simp [write]
  · simp [write, same]

@[simp]
theorem insert_rows (table : LockedTable κ ρ) (owner : Nat) (row : ρ)
    : (table.insert owner row).rows = table.rows :=
  rfl

@[simp]
theorem insert_holder (table : LockedTable κ ρ) (owner : Nat) (row : ρ)
    : (table.insert owner row).holder = table.holder :=
  rfl

@[simp]
theorem insert_dirty (table : LockedTable κ ρ) (owner : Nat) (row : ρ)
    : (table.insert owner row).dirty = table.dirty :=
  rfl

@[simp]
theorem append_rows (table : LockedTable κ ρ) (row : ρ)
    : (table.append row).rows = table.rows ++ [row] :=
  rfl

@[simp]
theorem append_holder (table : LockedTable κ ρ) (row : ρ)
    : (table.append row).holder = table.holder :=
  rfl

@[simp]
theorem append_dirty (table : LockedTable κ ρ) (row : ρ)
    : (table.append row).dirty = table.dirty :=
  rfl

@[simp]
theorem append_inserted (table : LockedTable κ ρ) (row : ρ)
    : (table.append row).inserted = table.inserted :=
  rfl

@[simp]
theorem release_rows (table : LockedTable κ ρ) (owner : Nat)
    : (table.release owner).rows = table.rows :=
  rfl

@[simp]
theorem commit_holder (table : LockedTable κ ρ) (owner : Nat)
    : (table.commit key owner).holder = (table.release owner).holder :=
  rfl

@[simp]
theorem commit_dirty (table : LockedTable κ ρ) (owner : Nat)
    : (table.commit key owner).dirty = (table.release owner).dirty :=
  rfl

@[simp]
theorem commit_inserted (table : LockedTable κ ρ) (owner : Nat)
    : (table.commit key owner).inserted = (table.release owner).inserted :=
  rfl

/-- After a release the transaction holds nothing and the locks of others are as before. -/
theorem release_holder_iff {table : LockedTable κ ρ} {owner other : Nat} {k : κ}
    : (table.release owner).holder k = some other
      ↔ other ≠ owner ∧ table.holder k = some other := by
  by_cases held : table.holder k = some owner
  · simp only [release, held, if_true, Option.some.injEq, reduceCtorEq, false_iff, not_and]
    exact fun different same => different same.symm
  · simp only [release, held, if_false]
    constructor
    · intro h
      exact ⟨fun same => held (same ▸ h), h⟩
    · exact And.right

/-- A release leaves the versions written by others. -/
theorem release_dirty_other {table : LockedTable κ ρ} {owner : Nat} {k : κ}
    (other : table.holder k ≠ some owner)
    : (table.release owner).dirty k = table.dirty k := by
  simp [release, other]

/-- A release leaves the insertions of others and drops the transaction's own. -/
theorem release_insertedBy (table : LockedTable κ ρ) (owner other : Nat)
    : (table.release owner).insertedBy other
      = if other = owner then [] else table.insertedBy other := by
  unfold insertedBy release
  rw [List.filter_filter]
  by_cases same : other = owner
  · subst same
    simp
  · simp only [same, if_false]
    congr 1
    apply List.filter_congr
    intro entry _
    by_cases own : entry.1 = other <;> simp [own, same]

/-- An insertion shows among the owner's insertions only. -/
theorem insert_insertedBy (table : LockedTable κ ρ) (owner other : Nat) (row : ρ)
    : (table.insert owner row).insertedBy other
      = table.insertedBy other ++ if other = owner then [row] else [] := by
  by_cases same : other = owner
  · simp [insertedBy, insert, same]
  · simp [insertedBy, insert, same, Ne.symm same]

@[simp]
theorem lock_all [DecidableEq κ] (table : LockedTable κ ρ) (owner : Nat) (k : κ)
    : (table.lock owner k).all = table.all :=
  rfl

@[simp]
theorem write_all [DecidableEq κ] (table : LockedTable κ ρ) (k : κ) (assign : ρ → ρ)
    : (table.write key k assign).all = table.all :=
  rfl

@[simp]
theorem insert_all (table : LockedTable κ ρ) (owner : Nat) (row : ρ)
    : (table.insert owner row).all = table.all ++ [row] := by
  simp [all, LockedTable.insert]

theorem append_all_perm (table : LockedTable κ ρ) (row : ρ)
    : (table.append row).all.Perm (table.all ++ [row]) := by
  simp only [all, append_rows, append_inserted, List.append_assoc]
  exact List.Perm.append_left _ List.perm_append_comm

theorem release_all_sublist (table : LockedTable κ ρ) (owner : Nat)
    : (table.release owner).all.Sublist table.all :=
  (List.Sublist.refl _).append (List.filter_sublist.map _)

/-- The insertions are those of one transaction and those of the others. -/
theorem insertedBy_append_release_perm (table : LockedTable κ ρ) (owner : Nat)
    : (table.insertedBy owner ++ (table.release owner).inserted.map Prod.snd).Perm
        (table.inserted.map Prod.snd) := by
  have parts :=
    List.filter_append_perm (fun entry : Nat × ρ => decide (entry.1 = owner)) table.inserted
  simpa [insertedBy, LockedTable.release] using parts.map Prod.snd

-----------------------------------------------------------------------------------------
-- Tables all of whose UPDATE statements make the same assignment
-----------------------------------------------------------------------------------------

variable (assign : ρ → ρ)

/-- Keys are unique, only locked rows have unpublished versions, and each of these is the
committed row after `assign`. -/
structure Sound (table : LockedTable κ ρ) : Prop where
  keys : (table.all.map key).Nodup
  locked : ∀ {k}, table.holder k = none → table.dirty k = none
  written : ∀ {k version}, table.dirty k = some version →
    ∃ row ∈ table.rows, key row = k ∧ version = assign row

/-- What COMMIT makes of a committed row. -/
def published (table : LockedTable κ ρ) (owner : Nat) (row : ρ) : ρ :=
  if table.holder (key row) = some owner ∧ (table.dirty (key row)).isSome then
    assign row
  else
    row

variable {key assign}

theorem Sound.empty : Sound key assign (empty : LockedTable κ ρ) :=
  ⟨by simp [LockedTable.empty, all], fun _ => rfl, by simp [LockedTable.empty]⟩

/-- The keys of the committed rows alone are unique. -/
theorem Sound.rows_nodup {table : LockedTable κ ρ} (sound : Sound key assign table)
    : (table.rows.map key).Nodup := by
  have keys := sound.keys
  rw [all, List.map_append] at keys
  exact (List.nodup_append.mp keys).1

/-- Committed rows with the same key are the same row. -/
theorem Sound.row_unique {table : LockedTable κ ρ} (sound : Sound key assign table)
    {left right : ρ} (inLeft : left ∈ table.rows) (inRight : right ∈ table.rows)
    (same : key left = key right)
    : left = right :=
  List.inj_on_of_nodup_map sound.rows_nodup inLeft inRight same

/-- Looking a committed row up by its key finds it. -/
theorem Sound.find_row [DecidableEq κ] {table : LockedTable κ ρ}
    (sound : Sound key assign table) {row : ρ} (member : row ∈ table.rows)
    : table.rows.find? (fun other => key other = key row) = some row := by
  cases found : table.rows.find? (fun other => key other = key row) with
  | none =>
      have absent := List.find?_eq_none.mp found row member
      simp at absent
  | some other =>
      have same : key other = key row := by simpa using List.find?_some found
      rw [sound.row_unique (List.mem_of_find?_eq_some found) member same]

/-- Without an unpublished version the current version is a committed row. -/
theorem current_of_clean [DecidableEq κ] {table : LockedTable κ ρ} {k : κ} {row : ρ}
    (clean : table.dirty k = none) (found : table.current key k = some row)
    : row ∈ table.rows ∧ key row = k := by
  simp only [current, clean, Option.none_or] at found
  exact ⟨List.mem_of_find?_eq_some found, by simpa using List.find?_some found⟩

/-- A committed row without an unpublished version is its own current version. -/
theorem Sound.current_eq [DecidableEq κ] {table : LockedTable κ ρ}
    (sound : Sound key assign table) {row : ρ} (member : row ∈ table.rows)
    (clean : table.dirty (key row) = none)
    : table.current key (key row) = some row := by
  simp [current, clean, sound.find_row member]

/-- Locking an available row keeps the table sound. -/
theorem Sound.lock [DecidableEq κ] {table : LockedTable κ ρ}
    (sound : Sound key assign table) (owner : Nat) (k : κ)
    : Sound key assign (table.lock owner k) := by
  refine ⟨sound.keys, ?_, sound.written⟩
  intro other free
  by_cases same : other = k
  · simp [same] at free
  · exact sound.locked (by simpa [same] using free)

/-- Writing `assign` to a locked row keeps the table sound. Writing it a second time does
not change the version, because the assignment is idempotent. -/
theorem Sound.write [DecidableEq κ] {table : LockedTable κ ρ}
    (sound : Sound key assign table)
    (idempotent : ∀ row, assign (assign row) = assign row) {k : κ}
    (held : table.holder k ≠ none)
    : Sound key assign (table.write key k assign) := by
  refine ⟨sound.keys, ?_, ?_⟩
  · intro other free
    have different : other ≠ k := fun same => held (same ▸ free)
    simpa [different] using sound.locked free
  · intro other version found
    by_cases same : other = k
    · subst same
      simp only [write_dirty, if_true, Option.map_eq_some_iff] at found
      obtain ⟨row, read, rfl⟩ := found
      cases dirty : table.dirty other with
      | none =>
          obtain ⟨member, named⟩ := current_of_clean dirty read
          exact ⟨row, member, named, rfl⟩
      | some earlier =>
          obtain ⟨committed, member, named, rfl⟩ := sound.written dirty
          simp only [current, dirty, Option.some_or, Option.some.injEq] at read
          exact ⟨committed, member, named, by rw [← read, idempotent]⟩
    · exact sound.written (by simpa [same] using found)

/-- Inserting a row with a new key keeps the table sound. -/
theorem Sound.insert {table : LockedTable κ ρ} (sound : Sound key assign table)
    {owner : Nat} {row : ρ}
    (fresh : key row ∉ table.all.map key)
    : Sound key assign (table.insert owner row) := by
  refine ⟨?_, sound.locked, sound.written⟩
  rw [insert_all, List.map_append, List.nodup_append]
  refine ⟨sound.keys, by simp, ?_⟩
  intro left member right single same
  simp only [List.map_cons, List.map_nil, List.mem_singleton] at single
  exact fresh (single ▸ same ▸ member)

/-- Appending a committed row with a new key keeps the table sound. -/
theorem Sound.append {table : LockedTable κ ρ} (sound : Sound key assign table) {row : ρ}
    (fresh : key row ∉ table.all.map key)
    : Sound key assign (table.append row) := by
  refine ⟨?_, sound.locked, ?_⟩
  · have moved := (table.append_all_perm row).trans (List.perm_append_singleton row _)
    rw [(moved.map key).nodup_iff, List.map_cons, List.nodup_cons]
    exact ⟨fresh, sound.keys⟩
  · intro k version found
    obtain ⟨old, member, named⟩ := sound.written found
    exact ⟨old, List.mem_append_left _ member, named⟩

/-- ROLLBACK keeps the table sound. -/
theorem Sound.release {table : LockedTable κ ρ} (sound : Sound key assign table)
    (owner : Nat)
    : Sound key assign (table.release owner) := by
  refine ⟨?_, ?_, ?_⟩
  · exact sound.keys.sublist ((table.release_all_sublist owner).map key)
  · intro k free
    by_cases held : table.holder k = some owner
    · simp [LockedTable.release, held]
    · simp only [LockedTable.release, held, if_false] at free ⊢
      exact sound.locked free
  · intro k version found
    by_cases held : table.holder k = some owner
    · simp [LockedTable.release, held] at found
    · simp only [LockedTable.release, held, if_false] at found
      exact sound.written found

/-- COMMIT applies the assignment to the rows written under the transaction's locks and
appends its insertions. -/
theorem Sound.commit_rows {table : LockedTable κ ρ} (sound : Sound key assign table)
    (owner : Nat)
    : (table.commit key owner).rows
      = table.rows.map (table.published key assign owner) ++ table.insertedBy owner := by
  simp only [LockedTable.commit]
  congr 1
  apply List.map_congr_left
  intro row member
  simp only [published]
  cases dirty : table.dirty (key row) with
  | none => simp
  | some version =>
      obtain ⟨committed, inRows, named, rfl⟩ := sound.written dirty
      rw [sound.row_unique inRows member named]
      simp

/-- COMMIT of a transaction without insertions changes the table exactly if it has written a
row to which the assignment makes a difference. -/
theorem Sound.commit_changes_iff {table : LockedTable κ ρ} (sound : Sound key assign table)
    {owner : Nat} (none : table.insertedBy owner = [])
    : (table.commit key owner).rows ≠ table.rows
      ↔ ∃ row ∈ table.rows,
          table.holder (key row) = some owner
          ∧ (table.dirty (key row)).isSome
          ∧ assign row ≠ row := by
  have fixed (row : ρ)
      : table.published key assign owner row = row
        ↔ (table.holder (key row) = some owner → (table.dirty (key row)).isSome →
            assign row = row) := by
    unfold published
    split
    · rename_i own
      exact ⟨fun same _ _ => same, fun same => same own.1 own.2⟩
    · rename_i other
      exact iff_of_true rfl (fun held written => absurd ⟨held, written⟩ other)
  have same
      : (table.commit key owner).rows = table.rows
        ↔ ∀ row ∈ table.rows, table.published key assign owner row = row := by
    rw [sound.commit_rows, none, List.append_nil]
    conv_lhs => rhs; rw [← List.map_id table.rows]
    exact List.map_inj_left
  rw [ne_eq, same]
  simp only [fixed]
  push Not
  rfl

/-- Publishing keeps keys. -/
theorem published_key (keeps : ∀ row, key (assign row) = key row)
    (table : LockedTable κ ρ) (owner : Nat) (row : ρ)
    : key (table.published key assign owner row) = key row := by
  unfold published
  split
  · exact keeps row
  · rfl

/-- COMMIT keeps the table sound. -/
theorem Sound.commit {table : LockedTable κ ρ} (sound : Sound key assign table)
    (keeps : ∀ row, key (assign row) = key row) (owner : Nat)
    : Sound key assign (table.commit key owner) := by
  have released := sound.release owner
  refine ⟨?_, released.locked, ?_⟩
  · have same
        : (table.rows.map (table.published key assign owner)).map key
          = table.rows.map key := by
      simp [published_key keeps]
    have reordered :=
      ((table.insertedBy_append_release_perm owner).append_left table.rows).map key
    rw [all, sound.commit_rows, commit_inserted, List.append_assoc, List.map_append, same,
      ← List.map_append]
    exact reordered.nodup_iff.mpr sound.keys
  · intro k version found
    have held : table.holder k ≠ some owner := by
      intro held
      simp [LockedTable.release, held] at found
    obtain ⟨row, member, named, rfl⟩ := released.written found
    refine ⟨row, ?_, named, rfl⟩
    rw [sound.commit_rows]
    apply List.mem_append_left
    refine List.mem_map.mpr ⟨row, member, ?_⟩
    simp [published, named, held]

/-- Up to the assignment COMMIT only moves the transaction's insertions. -/
theorem Sound.commit_all_perm {table : LockedTable κ ρ} (sound : Sound key assign table)
    (idempotent : ∀ row, assign (assign row) = assign row) (owner : Nat)
    : ((table.commit key owner).all.map assign).Perm (table.all.map assign) := by
  have moved := table.insertedBy_append_release_perm owner
  have same
      : (table.rows.map (table.published key assign owner)).map assign
        = table.rows.map assign := by
    rw [List.map_map]
    apply List.map_congr_left
    intro row _
    simp only [Function.comp_apply, published]
    split
    · exact idempotent row
    · rfl
  simp only [all, sound.commit_rows, commit_inserted, List.map_append, same,
    List.append_assoc]
  simpa only [List.map_append] using (moved.map assign).append_left (table.rows.map assign)

-----------------------------------------------------------------------------------------
-- What a transaction keeps while others run
-----------------------------------------------------------------------------------------

variable (key assign) in
/-- From `before` to `after` the locks, versions and insertions of `owner` are untouched,
the rows it holds keep their committed version, and no committed row disappears.
-/
structure Undisturbed (owner : Nat) (before after : LockedTable κ ρ) : Prop where
  holder : ∀ k, after.holder k = some owner ↔ before.holder k = some owner
  dirty : ∀ k, before.holder k = some owner → after.dirty k = before.dirty k
  inserted : after.insertedBy owner = before.insertedBy owner
  held : ∀ row ∈ before.rows, before.holder (key row) = some owner → row ∈ after.rows
  persists : ∀ row ∈ before.rows, row ∈ after.rows ∨ assign row ∈ after.rows

theorem Undisturbed.refl (owner : Nat) (table : LockedTable κ ρ)
    : Undisturbed key assign owner table table :=
  ⟨fun _ => Iff.rfl, fun _ _ => rfl, rfl, fun _ member _ => member,
    fun _ member => Or.inl member⟩

/-- A lock taken by another transaction was not this one's. -/
theorem Undisturbed.lock [DecidableEq κ] {owner other : Nat} (different : owner ≠ other)
    {table : LockedTable κ ρ} {k : κ} (free : table.available other k)
    : Undisturbed key assign owner table (table.lock other k) := by
  have notOurs : table.holder k ≠ some owner := by
    intro ours
    simp [available, ours, different] at free
  refine ⟨?_, fun _ _ => rfl, rfl, fun _ member _ => member, fun _ member => Or.inl member⟩
  intro key
  by_cases same : key = k
  · subst same
    simp [notOurs, Ne.symm different]
  · simp [same]

/-- A version written by another transaction belongs to a row it holds. -/
theorem Undisturbed.write [DecidableEq κ] {owner other : Nat} (different : owner ≠ other)
    {table : LockedTable κ ρ} {k : κ} (held : table.holder k = some other)
    : Undisturbed key assign owner table (table.write key k assign) := by
  refine ⟨fun _ => Iff.rfl, ?_, rfl, fun _ member _ => member,
    fun _ member => Or.inl member⟩
  intro key ours
  have apart : key ≠ k := by
    intro same
    rw [same, held, Option.some.injEq] at ours
    exact different ours.symm
  simp [apart]

/-- Locking and writing one row, in one statement. -/
theorem Undisturbed.lock_write [DecidableEq κ] {owner other : Nat}
    (different : owner ≠ other) {table : LockedTable κ ρ} {k : κ}
    (free : table.available other k)
    : Undisturbed key assign owner table ((table.lock other k).write key k assign) := by
  have locked : Undisturbed key assign owner table (table.lock other k) :=
    .lock different free
  have written
      : Undisturbed key assign owner (table.lock other k)
          ((table.lock other k).write key k assign) :=
    .write different (by simp)
  exact ⟨fun key => (written.holder key).trans (locked.holder key),
    fun key ours =>
      (written.dirty key ((locked.holder key).mpr ours)).trans (locked.dirty key ours),
    rfl, locked.held, locked.persists⟩

/-- Insertions of another transaction are not this one's. -/
theorem Undisturbed.insert {owner other : Nat} (different : owner ≠ other)
    (table : LockedTable κ ρ) (row : ρ)
    : Undisturbed key assign owner table (table.insert other row) :=
  ⟨fun _ => Iff.rfl, fun _ _ => rfl, by simp [insert_insertedBy, different],
    fun _ member _ => member, fun _ member => Or.inl member⟩

theorem Undisturbed.append (owner : Nat) (table : LockedTable κ ρ) (row : ρ)
    : Undisturbed key assign owner table (table.append row) :=
  ⟨fun _ => Iff.rfl, fun _ _ => rfl, rfl, fun _ member _ => List.mem_append_left _ member,
    fun _ member => Or.inl (List.mem_append_left _ member)⟩

theorem Undisturbed.release {owner other : Nat} (different : owner ≠ other)
    (table : LockedTable κ ρ)
    : Undisturbed key assign owner table (table.release other) := by
  refine ⟨?_, ?_, ?_, fun _ member _ => member, fun _ member => Or.inl member⟩
  · intro k
    simp [release_holder_iff, different]
  · intro k ours
    exact release_dirty_other (by simp [ours, different])
  · simp [release_insertedBy, different]

/-- The commit of another transaction publishes rows that it holds itself. -/
theorem Undisturbed.commit {owner other : Nat} (different : owner ≠ other)
    {table : LockedTable κ ρ} (sound : Sound key assign table)
    : Undisturbed key assign owner table (table.commit key other) := by
  have released : Undisturbed key assign owner table (table.release other) :=
    .release different table
  refine ⟨released.holder, released.dirty, released.inserted, ?_, ?_⟩
  · intro row member ours
    rw [sound.commit_rows]
    apply List.mem_append_left
    refine List.mem_map.mpr ⟨row, member, ?_⟩
    simp [published, ours, different]
  · intro row member
    rw [sound.commit_rows]
    have image := List.mem_map_of_mem (f := table.published key assign other) member
    by_cases written
        : table.holder (key row) = some other ∧ (table.dirty (key row)).isSome
    · rw [published, if_pos written] at image
      exact Or.inr (List.mem_append_left _ image)
    · rw [published, if_neg written] at image
      exact Or.inl (List.mem_append_left _ image)

end LockedTable

end NexusComms.Storage
