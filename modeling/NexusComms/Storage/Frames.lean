import NexusComms.Storage.LockedTable

/-! Frames of tables: which rows a statement leaves alone. Rows carry a label that no
statement changes, and a statement is confined to the labels of one part.
-/

namespace NexusComms.Storage

section

variable {ρ ν : Type} {label : ρ → ν} {part wider : ν → Prop} {before after : List ρ}

/-- Rows were changed in place or appended, all of them with labels in `part`. -/
def ChangesOnly (label : ρ → ν) (part : ν → Prop) (before after : List ρ) : Prop :=
  ∃ (change : ρ → ρ) (added : List ρ),
    after = before.map change ++ added
    ∧ (∀ row ∈ before, label (change row) = label row)
    ∧ (∀ row ∈ before, change row = row ∨ part (label row))
    ∧ ∀ row ∈ added, part (label row)

theorem ChangesOnly.refl (rows : List ρ) : ChangesOnly label part rows rows :=
  ⟨id, [], by simp, fun _ _ => rfl, fun _ _ => Or.inl rfl, by simp⟩

theorem ChangesOnly.append (rows : List ρ) {row : ρ} (inPart : part (label row))
    : ChangesOnly label part rows (rows ++ [row]) :=
  ⟨id, [row], by simp, fun _ _ => rfl, fun _ _ => Or.inl rfl, by simpa using inPart⟩

theorem ChangesOnly.map (rows : List ρ) {change : ρ → ρ}
    (keeps : ∀ row ∈ rows, label (change row) = label row)
    (inPart : ∀ row ∈ rows, change row = row ∨ part (label row))
    : ChangesOnly label part rows (rows.map change) :=
  ⟨change, [], by simp, keeps, inPart, by simp⟩

theorem ChangesOnly.mono (changes : ChangesOnly label part before after)
    (within : ∀ name, part name → wider name)
    : ChangesOnly label wider before after := by
  obtain ⟨change, added, split, keeps, inPart, new⟩ := changes
  refine ⟨change, added, split, keeps, fun row member => ?_, fun row member => ?_⟩
  · exact (inPart row member).imp_right (within _)
  · exact within _ (new row member)

/-- A row that is there afterwards has the label of an old row, or one in the part. -/
theorem ChangesOnly.label_old (changes : ChangesOnly label part before after) {row : ρ}
    (member : row ∈ after)
    : (∃ old ∈ before, label old = label row) ∨ part (label row) := by
  obtain ⟨change, added, rfl, keeps, _, new⟩ := changes
  rcases List.mem_append.mp member with changed | inAdded
  · obtain ⟨old, inOld, rfl⟩ := List.mem_map.mp changed
    exact Or.inl ⟨old, inOld, (keeps old inOld).symm⟩
  · exact Or.inr (new row inAdded)

/-- The rows outside the part are the same before and after, in the same order. -/
theorem ChangesOnly.filter_eq (changes : ChangesOnly label part before after)
    {outside : ρ → Bool}
    (byLabel : ∀ left right, label left = label right → outside left = outside right)
    (inside : ∀ row ∈ after, part (label row) → outside row = false)
    : after.filter outside = before.filter outside := by
  obtain ⟨change, added, rfl, keeps, inPart, new⟩ := changes
  have noneNew : added.filter outside = [] := by
    refine List.filter_eq_nil_iff.mpr (fun row member => ?_)
    simp [inside row (List.mem_append_right _ member) (new row member)]
  rw [List.filter_append, noneNew, List.append_nil]
  -- by induction on the old rows: a changed row is inside the part, before and after
  have rest
      : ∀ rows : List ρ,
          (∀ row ∈ rows, row ∈ before) →
            (rows.map change).filter outside = rows.filter outside := by
    intro rows
    induction rows with
    | nil => exact fun _ => rfl
    | cons row rows ih =>
        intro members
        have tail := ih (fun other inRows => members other (List.mem_cons_of_mem _ inRows))
        have member := members row List.mem_cons_self
        have same := byLabel _ _ (keeps row member)
        rw [List.map_cons, List.filter_cons, List.filter_cons, tail, same]
        rcases inPart row member with kept | within
        · rw [kept]
        · have changed : change row ∈ before.map change ++ added :=
            List.mem_append_left _ (List.mem_map_of_mem member)
          have gone := inside _ changed (by rwa [keeps row member])
          rw [← same, gone]
          rfl
  exact rest before (fun _ member => member)

end

namespace LockedTable

variable {κ ρ ν : Type} {key : ρ → κ} {assign : ρ → ρ} {label : ρ → ν} {part : ν → Prop}

/-- COMMIT changes only rows that the transaction has locked or inserted. -/
theorem Sound.commit_changesOnly {table : LockedTable κ ρ} (sound : Sound key assign table)
    {owner : Nat} (keeps : ∀ row, label (assign row) = label row)
    (held
      : ∀ row ∈ table.rows, table.holder (key row) = some owner → part (label row))
    (inserted : ∀ row ∈ table.insertedBy owner, part (label row))
    : ChangesOnly label part table.rows (table.commit key owner).rows := by
  refine ⟨_, _, sound.commit_rows owner, fun row _ => ?_, fun row member => ?_, inserted⟩
  · unfold published
    split
    · exact keeps row
    · rfl
  · unfold published
    split
    · rename_i written
      exact Or.inr (held row member written.1)
    · exact Or.inl rfl

end LockedTable

end NexusComms.Storage
