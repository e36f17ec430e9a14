import NexusComms.Storage.LockedTable

/-! UPDATE statements of many rows. The statement takes a snapshot of the rows to change, then
locks and writes them one at a time while other transactions go on, and COMMIT publishes them.
-/

namespace NexusComms.Storage

open LockedTable

variable {κ ρ : Type}

/-- Transaction `owner` is writing the rows of `targets`. It holds no other lock, every row of
`targets` exists, and those not in `todo` have been locked and written.
-/
structure Sweep (key : ρ → κ) (table : LockedTable κ ρ) (owner : Nat) (targets : κ → Prop)
    (todo : List κ)
    : Prop where
  within : ∀ k, table.holder k = some owner → targets k
  existing : ∀ k, targets k → ∃ row ∈ table.rows, key row = k
  waiting : ∀ k ∈ todo, targets k
  reached
    : ∀ row ∈ table.rows,
        targets (key row) →
          key row ∈ todo
          ∨ table.holder (key row) = some owner ∧ (table.dirty (key row)).isSome

namespace Sweep

variable {key : ρ → κ} {assign : ρ → ρ} {table after : LockedTable κ ρ} {owner other : Nat}
  {targets : κ → Prop} {todo : List κ}

/-- A transaction that holds nothing begins to write one row. -/
theorem of_free {k : κ} (free : ∀ k, table.holder k ≠ some owner) {row : ρ}
    (member : row ∈ table.rows) (named : key row = k)
    : Sweep key table owner (fun other => other = k) [k] where
  within := fun other held => absurd held (free other)
  existing := fun _ same => ⟨row, member, named.trans same.symm⟩
  waiting := fun _ member => List.mem_singleton.mp member
  reached := fun _ _ same => Or.inl (List.mem_singleton.mpr same)

theorem congr {targets' : κ → Prop} (sweep : Sweep key table owner targets todo)
    (same : ∀ k, targets k ↔ targets' k)
    : Sweep key table owner targets' todo := by
  rwa [← funext (fun k => propext (same k))]

/-- The statement begins with a snapshot, which contains the rows already locked. -/
theorem begin {condition : ρ → Bool}
    (within
      : ∀ k,
          table.holder k = some owner →
            ∃ row ∈ table.rows, condition row = true ∧ key row = k)
    : Sweep key table owner
        (fun k => ∃ row ∈ table.rows, condition row = true ∧ key row = k)
        (table.snapshot key condition) where
  within := within
  existing := by
    rintro k ⟨row, member, _, named⟩
    exact ⟨row, member, named⟩
  waiting := by
    intro k member
    obtain ⟨row, matching, named⟩ := List.mem_map.mp member
    obtain ⟨inRows, meets⟩ := List.mem_filter.mp matching
    exact ⟨row, inRows, meets, named⟩
  reached := by
    rintro row _ ⟨matching, member, meets, named⟩
    refine Or.inl (List.mem_map.mpr ⟨matching, ?_, named⟩)
    exact List.mem_filter.mpr ⟨member, meets⟩

/-- One more row is locked and written. -/
theorem lock_write [DecidableEq κ] (sweep : Sweep key table owner targets todo)
    (sound : Sound key assign table) {k : κ} (next : k ∈ todo)
    : Sweep key ((table.lock owner k).write key k assign) owner targets (todo.erase k) where
  within := by
    intro other held
    rw [write_holder, lock_holder] at held
    by_cases same : other = k
    · exact same ▸ sweep.waiting k next
    · exact sweep.within other (by simpa [same] using held)
  existing := sweep.existing
  waiting := fun other member => sweep.waiting other (List.mem_of_mem_erase member)
  reached := by
    intro row member inTargets
    by_cases same : key row = k
    · refine Or.inr ⟨by simp [same], ?_⟩
      have found := sound.find_row member
      rw [write_dirty, if_pos same, Option.isSome_map, ← same]
      simp only [current, lock_dirty, lock_rows, found]
      cases table.dirty (key row) with
      | none => rfl
      | some version => rfl
    · rcases sweep.reached row member inTargets with waiting | written
      · exact Or.inl ((List.mem_erase_of_ne same).mpr waiting)
      · refine Or.inr ⟨by simpa [same] using written.1, ?_⟩
        simpa [same] using written.2

/-- Other transactions do not disturb it: the rows that they add are none of its targets. -/
theorem frame (sweep : Sweep key table owner targets todo)
    (undisturbed : Undisturbed key assign owner table after)
    (keeps : ∀ row, key (assign row) = key row)
    : Sweep key after owner targets todo where
  within := fun k held => sweep.within k ((undisturbed.holder k).mp held)
  existing := by
    intro k target
    obtain ⟨row, member, named⟩ := sweep.existing k target
    rcases undisturbed.persists row member with kept | changed
    · exact ⟨row, kept, named⟩
    · exact ⟨assign row, changed, (keeps row).trans named⟩
  waiting := sweep.waiting
  reached := by
    intro row _ inTargets
    obtain ⟨old, member, named⟩ := sweep.existing (key row) inTargets
    rw [← named] at inTargets ⊢
    rcases sweep.reached old member inTargets with waiting | written
    · exact Or.inl waiting
    · refine Or.inr ⟨(undisturbed.holder _).mpr written.1, ?_⟩
      rw [undisturbed.dirty _ written.1]
      exact written.2

/-- When all rows have been reached, COMMIT changes exactly the targets. -/
theorem published (sweep : Sweep key table owner targets [])
    {row : ρ} (member : row ∈ table.rows)
    : (targets (key row) → table.published key assign owner row = assign row)
      ∧ (¬ targets (key row) → table.published key assign owner row = row) := by
  constructor
  · intro target
    rcases sweep.reached row member target with waiting | written
    · cases waiting
    · exact if_pos written
  · intro none
    exact if_neg (fun written => none (sweep.within _ written.1))

end Sweep

/-- What two steps in a row do not disturb, when a row is changed only once. -/
theorem LockedTable.Undisturbed.trans {key : ρ → κ} {assign : ρ → ρ} {owner : Nat}
    {before middle after : LockedTable κ ρ}
    (first : Undisturbed key assign owner before middle)
    (second : Undisturbed key assign owner middle after)
    (idempotent : ∀ row, assign (assign row) = assign row)
    : Undisturbed key assign owner before after where
  holder := fun k => (second.holder k).trans (first.holder k)
  dirty := fun k held =>
    (second.dirty k ((first.holder k).mpr held)).trans (first.dirty k held)
  inserted := second.inserted.trans first.inserted
  held := fun row member held =>
    second.held row (first.held row member held) ((first.holder _).mpr held)
  persists := by
    intro row member
    rcases first.persists row member with kept | changed
    · exact second.persists row kept
    · have again := second.persists (assign row) changed
      rw [idempotent, or_self] at again
      exact Or.inr again

/-- A transaction that holds nothing else changes one row by locking and writing it. -/
theorem published_lock_write [DecidableEq κ] {key : ρ → κ} {assign : ρ → ρ}
    {table : LockedTable κ ρ} {owner : Nat} (sound : Sound key assign table)
    (free : ∀ k, table.holder k ≠ some owner) (k : κ) {row : ρ} (member : row ∈ table.rows)
    : ((table.lock owner k).write key k assign).published key assign owner row
      = if key row = k then assign row else row := by
  by_cases same : key row = k
  · have sweep := (Sweep.of_free free member same).lock_write sound (List.mem_singleton.mpr rfl)
    rw [List.erase_cons_head] at sweep
    rw [if_pos same]
    exact (sweep.published member).1 same
  · rw [if_neg same]
    refine if_neg (fun written => free (key row) ?_)
    simpa [same] using written.1

end NexusComms.Storage
