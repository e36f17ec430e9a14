import Mathlib.Data.List.Basic

/-! Keys that must be held, and holders of one key each. When some holders turn to another key,
every live key stays held exactly if they do not leave one behind that nobody else holds.
-/

namespace NexusComms.Storage

/-- Who holds which key, and which keys are live. -/
structure Holding (α κ : Type) where
  holds : α → κ → Prop
  live : κ → Prop

/-- A change of holders and keys: the movers turn to the next key, or to none, one key becomes
live, and one key ceases to be live. -/
structure Shift (α κ : Type) where
  movers : List α := []
  next : Option κ := none
  opened : Option κ := none
  closed : Option κ := none

variable {α κ : Type}

/-- Every live key is held. -/
def Holding.Covered (holding : Holding α κ) : Prop :=
  ∀ key, holding.live key → ∃ holder, holding.holds holder key

namespace Shift

/-- The change leads from one state to the other; only those who are present can hold. -/
structure Applies (shift : Shift α κ) (present : α → Prop) (before after : Holding α κ)
    : Prop where
  moved {holder : α} (mover : holder ∈ shift.movers) (key : κ)
    : after.holds holder key ↔ present holder ∧ shift.next = some key
  stayed {holder : α} (other : holder ∉ shift.movers) (key : κ)
    : after.holds holder key ↔ before.holds holder key
  live (key : κ)
    : after.live key
      ↔ shift.opened = some key ∨ before.live key ∧ shift.closed ≠ some key

/-- The key is held after the change: a mover has turned to it, or somebody else holds it. -/
def Finds (shift : Shift α κ) (present : α → Prop) (before : Holding α κ) (key : κ) : Prop :=
  (shift.next = some key ∧ ∃ holder ∈ shift.movers, present holder)
  ∨ ∃ holder, holder ∉ shift.movers ∧ before.holds holder key

/-- The movers leave no live key behind that is not closed, and the key that becomes live finds
a holder. -/
structure Keeps (shift : Shift α κ) (present : α → Prop) (before : Holding α κ)
    : Prop where
  left {holder : α} {key : κ} (mover : holder ∈ shift.movers)
    (held : before.holds holder key) (live : before.live key)
    (stays : shift.closed ≠ some key)
    : shift.Finds present before key
  opened {key : κ} (opens : shift.opened = some key) : shift.Finds present before key

variable {shift : Shift α κ} {present : α → Prop} {before after : Holding α κ}

/-- Whoever holds a key after the change is found. -/
theorem Applies.finds_iff (applies : shift.Applies present before after) (key : κ)
    : (∃ holder, after.holds holder key) ↔ shift.Finds present before key := by
  constructor
  · rintro ⟨holder, holds⟩
    by_cases mover : holder ∈ shift.movers
    · obtain ⟨here, next⟩ := (applies.moved mover key).mp holds
      exact .inl ⟨next, holder, mover, here⟩
    · exact .inr ⟨holder, mover, (applies.stayed mover key).mp holds⟩
  · rintro (⟨next, holder, mover, here⟩ | ⟨holder, other, holds⟩)
    · exact ⟨holder, (applies.moved mover key).mpr ⟨here, next⟩⟩
    · exact ⟨holder, (applies.stayed other key).mpr holds⟩

/-- The live keys stay covered exactly if the change keeps them. -/
theorem Applies.covered_iff (applies : shift.Applies present before after)
    (covered : before.Covered)
    : after.Covered ↔ shift.Keeps present before := by
  constructor
  · intro still
    refine ⟨fun {holder key} _ _ live stays => ?_, fun {key} opens => ?_⟩
    · exact (applies.finds_iff key).mp (still key ((applies.live key).mpr (.inr ⟨live, stays⟩)))
    · exact (applies.finds_iff key).mp (still key ((applies.live key).mpr (.inl opens)))
  · intro keeps key live
    rw [applies.finds_iff key]
    rcases (applies.live key).mp live with opens | ⟨before_live, stays⟩
    · exact keeps.opened opens
    · obtain ⟨holder, held⟩ := covered key before_live
      by_cases mover : holder ∈ shift.movers
      · exact keeps.left mover held before_live stays
      · exact .inr ⟨holder, mover, held⟩

end Shift

end NexusComms.Storage
