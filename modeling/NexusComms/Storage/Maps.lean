import Mathlib.Data.List.AList

/-! Insertion-ordered maps: what a value that is replaced in its place, and a key that is
deleted, do to look-ups, and when they do nothing at all.
-/

namespace NexusComms.Storage

variable {κ ν : Type} [DecidableEq κ] {map : AList (fun _ : κ => ν)}

/-- A replaced value is found under its key, by induction on the entries. -/
theorem lookup_replace (map : AList (fun _ : κ => ν)) (key other : κ) (value : ν)
    : (map.replace key value).lookup other
      = if other = key then (map.lookup other).map (fun _ => value)
        else map.lookup other := by
  obtain ⟨entries, nodup⟩ := map
  simp only [AList.replace, AList.lookup]
  clear nodup
  induction entries with
  | nil =>
      change none = _
      simp
  | cons entry rest ih =>
      obtain ⟨name, found⟩ := entry
      by_cases here : key = name
      · subst here
        have replaced
            : List.kreplace key value (⟨key, found⟩ :: rest) = ⟨key, value⟩ :: rest := by
          simp [List.kreplace, List.lookmap_cons_some]
        rw [replaced]
        by_cases same : other = key
        · subst same
          simp
        · rw [List.dlookup_cons_ne _ _ same, List.dlookup_cons_ne _ _ same, if_neg same]
      · have kept
            : List.kreplace key value (⟨name, found⟩ :: rest)
              = ⟨name, found⟩ :: List.kreplace key value rest := by
          simp [List.kreplace, List.lookmap_cons_none, here]
        rw [kept]
        by_cases same : other = name
        · subst same
          have apart : ¬ other = key := fun h => here h.symm
          simp [apart]
        · rw [List.dlookup_cons_ne _ _ same, List.dlookup_cons_ne _ _ same, ih]

/-- What a map contains after a value that it had has been replaced. -/
theorem lookup_replace_some {key other : κ} {old value now : ν}
    (found : map.lookup key = some old)
    : (map.replace key value).lookup other = some now
      ↔ (other = key ∧ now = value) ∨ (other ≠ key ∧ map.lookup other = some now) := by
  rw [lookup_replace]
  by_cases same : other = key
  · subst same
    simp [found, eq_comm]
  · simp [same]

/-- What a map contains after an insertion. -/
theorem lookup_insert_some {key other : κ} {value now : ν}
    : (map.insert key value).lookup other = some now
      ↔ (other = key ∧ now = value) ∨ (other ≠ key ∧ map.lookup other = some now) := by
  by_cases same : other = key
  · subst same
    simp [eq_comm]
  · simp [same]

/-- Replacing a value by itself changes nothing. -/
theorem replace_self {key : κ} {value : ν} (found : map.lookup key = some value)
    : map.replace key value = map :=
  AList.ext (List.kreplace_self map.nodupKeys (AList.mem_lookup_iff.mp found))

/-- What a map still contains after a deletion, it contained before. -/
theorem lookup_of_erase {key deleted : κ} {value : ν}
    (found : (map.erase deleted).lookup key = some value)
    : map.lookup key = some value := by
  by_cases same : key = deleted
  · subst same
    rw [AList.lookup_erase] at found
    cases found
  · rwa [AList.lookup_erase_ne same] at found

/-- Deleting a key that is not there changes nothing. -/
theorem erase_absent {key : κ} (absent : map.lookup key = none) : map.erase key = map := by
  refine AList.ext (List.kerase_of_notMem_keys ?_)
  rw [← AList.keys, ← AList.mem_keys, ← AList.lookup_isSome, absent]
  simp

end NexusComms.Storage
