import Mathlib.Data.List.AList

/-! An index of the keys that have a value: for each value the set of its keys, as a list
without repetitions, and no entry for a value that no key has.
-/

namespace NexusComms.Storage

variable {κ ν : Type} [DecidableEq ν]

/-- The keys that an index lists under a value. -/
def listed (index : AList (fun _ : ν => List κ)) (value : ν) : List κ :=
  (index.lookup value).getD []

/-- `index` is the inverse image of `values`. -/
structure Indexes (values : κ → Option ν) (index : AList (fun _ : ν => List κ)) : Prop where
  mem_iff : ∀ {value key}, key ∈ listed index value ↔ values key = some value
  nodup : ∀ {value}, (listed index value).Nodup
  nonempty : ∀ {value}, index.lookup value ≠ some []

/-- A key is added under a value. -/
def addKey (index : AList (fun _ : ν => List κ)) (value : ν) (key : κ)
    : AList (fun _ : ν => List κ) :=
  index.insert value (listed index value ++ [key])

/-- A key is removed under a value, and the entry of the value with its last key. -/
def removeKey [DecidableEq κ] (index : AList (fun _ : ν => List κ)) (value : ν) (key : κ)
    : AList (fun _ : ν => List κ) :=
  match index.lookup value with
  | none => index
  | some keys =>
      if keys.erase key = [] then index.erase value else index.insert value (keys.erase key)

variable {values : κ → Option ν} {index : AList (fun _ : ν => List κ)} {value other : ν}
  {key : κ}

/-- What is listed after an addition. -/
theorem listed_addKey
    : listed (addKey index value key) other
      = if other = value then listed index other ++ [key] else listed index other := by
  unfold listed addKey
  split
  · next same =>
      subst same
      rw [AList.lookup_insert]
      rfl
  · next apart => rw [AList.lookup_insert_ne apart]

/-- What is listed after a removal. -/
theorem listed_removeKey [DecidableEq κ]
    : listed (removeKey index value key) other
      = if other = value then (listed index other).erase key else listed index other := by
  unfold listed removeKey
  cases found : index.lookup value with
  | none =>
      by_cases same : other = value
      · subst same
        simp [found]
      · simp [same]
  | some keys =>
      by_cases emptied : keys.erase key = []
      · simp only [if_pos emptied]
        split
        · next same =>
            subst same
            simp [AList.lookup_erase, found, emptied]
        · next apart => rw [AList.lookup_erase_ne apart]
      · simp only [if_neg emptied]
        split
        · next same =>
            subst same
            simp [AList.lookup_insert, found]
        · next apart => rw [AList.lookup_insert_ne apart]

namespace Indexes

/-- Without keys there is nothing to list. -/
theorem empty : Indexes (fun _ : κ => (none : Option ν)) ∅ where
  mem_iff := by simp [listed]
  nodup := by simp [listed]
  nonempty := by simp

/-- Values that are the same everywhere have the same index. -/
theorem congr {values' : κ → Option ν} (indexes : Indexes values index)
    (same : ∀ key, values' key = values key)
    : Indexes values' index where
  mem_iff {value key} := by rw [same, indexes.mem_iff]
  nodup := indexes.nodup
  nonempty := indexes.nonempty

/-- A key that had no value gets one. -/
theorem add [DecidableEq κ] (indexes : Indexes values index) (absent : values key = none)
    : Indexes (Function.update values key (some value)) (addKey index value key) where
  mem_iff {other found} := by
    rw [listed_addKey]
    by_cases own : found = key
    · subst own
      have unlisted : found ∉ listed index other := by
        rw [indexes.mem_iff, absent]
        simp
      rw [Function.update_self, Option.some.injEq]
      split
      · next same => simp [same]
      · next apart => simp [unlisted, Ne.symm apart]
    · rw [Function.update_of_ne own, ← indexes.mem_iff]
      split
      · simp [own]
      · rfl
  nodup {other} := by
    rw [listed_addKey]
    split
    · refine List.nodup_append.mpr ⟨indexes.nodup, List.nodup_singleton key, ?_⟩
      intro found member last listed same
      rw [List.mem_singleton.mp listed] at same
      rw [same, indexes.mem_iff, absent] at member
      cases member
    · exact indexes.nodup
  nonempty {other} := by
    unfold addKey
    by_cases same : other = value
    · subst same
      rw [AList.lookup_insert]
      simp
    · rw [AList.lookup_insert_ne same]
      exact indexes.nonempty

/-- A key loses its value. -/
theorem remove [DecidableEq κ] (indexes : Indexes values index) (present : values key = some value)
    : Indexes (Function.update values key none) (removeKey index value key) where
  mem_iff {other found} := by
    rw [listed_removeKey]
    by_cases own : found = key
    · subst own
      rw [Function.update_self]
      split
      · simp [indexes.nodup.mem_erase_iff]
      · next apart =>
          rw [indexes.mem_iff, present, Option.some.injEq]
          simp [Ne.symm apart]
    · rw [Function.update_of_ne own, ← indexes.mem_iff]
      split
      · exact List.mem_erase_of_ne own
      · rfl
  nodup {other} := by
    rw [listed_removeKey]
    split
    · exact indexes.nodup.erase key
    · exact indexes.nodup
  nonempty {other} := by
    unfold removeKey
    cases found : index.lookup value with
    | none => exact indexes.nonempty
    | some keys =>
        by_cases emptied : keys.erase key = []
        · simp only [if_pos emptied]
          by_cases same : other = value
          · subst same
            simp [AList.lookup_erase]
          · rw [AList.lookup_erase_ne same]
            exact indexes.nonempty
        · simp only [if_neg emptied]
          by_cases same : other = value
          · subst same
            rw [AList.lookup_insert]
            exact fun empty => emptied (Option.some.inj empty)
          · rw [AList.lookup_insert_ne same]
            exact indexes.nonempty

/-- A key without a value can be forgotten. -/
theorem forget [DecidableEq κ] (indexes : Indexes values index) (absent : values key = none)
    : Indexes (Function.update values key none) index :=
  indexes.congr (fun other => by
    by_cases own : other = key
    · subst own
      rw [Function.update_self, absent]
    · rw [Function.update_of_ne own])

end Indexes

end NexusComms.Storage
