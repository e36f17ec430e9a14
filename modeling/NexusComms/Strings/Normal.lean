import Mathlib.Data.List.DropRight

/-! Trimming and folding the case of strings. Where folding goes character by character and
respects what is blank, the two commute, and a string has one normal form: two strings have
the same one exactly when they are equal up to case and what surrounds them.
-/

namespace NexusComms.Strings

variable {α : Type} (blank : α → Bool) (lower : α → α)

/-- Without what is blank at both ends. -/
def trim (s : List α) : List α := (s.dropWhile blank).rdropWhile blank

/-- Folding is idempotent, leaves blanks as they are and makes no others. -/
structure CaseFolding : Prop where
  idempotent : ∀ a, lower (lower a) = lower a
  fixes : ∀ a, blank a = true → lower a = a
  keeps : ∀ a, blank a = false → blank (lower a) = false

/-- Equal up to case and what is blank at the ends. -/
def Alike (x y : List α) : Prop :=
  ∃ before core after before' core' after' : List α,
    (x = before ++ core ++ after ∧ y = before' ++ core' ++ after')
    ∧ (∀ a ∈ before ++ after ++ before' ++ after', blank a = true)
    ∧ core.map lower = core'.map lower

variable {blank lower}

theorem CaseFolding.blank_lower (folding : CaseFolding blank lower) (a : α)
    : blank (lower a) = blank a := by
  cases known : blank a with
  | true => rw [folding.fixes a known, known]
  | false => exact folding.keeps a known

/-- What is blank at the ends does not change what is left. -/
theorem trim_pad {before core after : List α} (hbefore : ∀ a ∈ before, blank a = true)
    (hafter : ∀ a ∈ after, blank a = true)
    : trim blank (before ++ core ++ after) = trim blank core := by
  rw [trim, List.append_assoc, List.dropWhile_append_of_pos hbefore, List.dropWhile_append]
  split
  · next empty =>
      rw [trim, List.isEmpty_iff.mp empty, List.dropWhile_eq_nil_iff.mpr hafter]
  · rw [List.rdropWhile, List.reverse_append, List.dropWhile_append_of_pos, trim, List.rdropWhile]
    exact fun a hmem => hafter a (List.mem_reverse.mp hmem)

variable (blank) in
/-- A string is what is left and what is blank around it. -/
theorem trim_split (s : List α)
    : ∃ before after, s = before ++ trim blank s ++ after
      ∧ (∀ a ∈ before, blank a = true) ∧ ∀ a ∈ after, blank a = true := by
  refine ⟨s.takeWhile blank, (s.dropWhile blank).rtakeWhile blank, ?_,
    fun a => List.mem_takeWhile_imp, fun a => List.mem_rtakeWhile_imp⟩
  rw [trim, List.append_assoc, List.rdropWhile_append_rtakeWhile, List.takeWhile_append_dropWhile]

theorem trim_trim (s : List α)
    : trim blank (trim blank s) = trim blank s := by
  obtain ⟨before, after, split, hbefore, hafter⟩ := trim_split blank s
  have padded : trim blank (before ++ trim blank s ++ after) = trim blank (trim blank s) :=
    trim_pad hbefore hafter
  rw [← padded, ← split]

/-- Trimming and folding commute. -/
theorem trim_map (folding : CaseFolding blank lower) (s : List α)
    : trim blank (s.map lower) = (trim blank s).map lower := by
  have same : blank ∘ lower = blank := funext folding.blank_lower
  simp only [trim, List.rdropWhile, List.dropWhile_map, same, ← List.map_reverse]

theorem map_map_lower (folding : CaseFolding blank lower) (s : List α)
    : (s.map lower).map lower = s.map lower := by
  rw [List.map_map]
  exact List.map_congr_left fun a _ => folding.idempotent a

/-- Two strings have the same normal form exactly when they are alike. -/
theorem alike_iff (folding : CaseFolding blank lower) {x y : List α}
    : Alike blank lower x y ↔ (trim blank x).map lower = (trim blank y).map lower := by
  constructor
  · rintro ⟨before, core, after, before', core', after', ⟨rfl, rfl⟩, blanks, same⟩
    rw [trim_pad, trim_pad, ← trim_map folding, ← trim_map folding, same]
    all_goals exact fun a hmem => blanks a (by simp [hmem])
  · intro same
    obtain ⟨before, after, hx, hbefore, hafter⟩ := trim_split blank x
    obtain ⟨before', after', hy, hbefore', hafter'⟩ := trim_split blank y
    refine ⟨before, trim blank x, after, before', trim blank y, after', ⟨hx, hy⟩, ?_, same⟩
    intro a hmem
    simp only [List.mem_append] at hmem
    rcases hmem with ((hmem | hmem) | hmem) | hmem
    · exact hbefore a hmem
    · exact hafter a hmem
    · exact hbefore' a hmem
    · exact hafter' a hmem

end NexusComms.Strings
