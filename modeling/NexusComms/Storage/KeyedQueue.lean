import Mathlib.Data.List.Nodup

/-! Queues whose entries have keys of their own: looking an entry up by its key, and taking one
out by its key or by its value.
-/

namespace NexusComms.Storage

variable {α κ : Type} [DecidableEq κ] {key : α → κ}

/-- The first entry with a key. -/
def keyed (key : α → κ) (entries : List α) (k : κ) : Option α :=
  entries.find? (fun entry => key entry = k)

/-- The other entries, in their order. -/
def without (key : α → κ) (entries : List α) (k : κ) : List α :=
  entries.filter (fun entry => key entry ≠ k)

@[simp]
theorem keyed_nil (k : κ) : keyed key [] k = none := rfl

theorem keyed_cons (head : α) (rest : List α) (k : κ)
    : keyed key (head :: rest) k = if key head = k then some head else keyed key rest k := by
  unfold keyed
  rw [List.find?_cons]
  by_cases here : key head = k
  · simp [here]
  · simp [here]

/-- Nothing is found exactly under the keys that no entry has. -/
theorem keyed_eq_none {entries : List α} {k : κ}
    : keyed key entries k = none ↔ ∀ entry ∈ entries, key entry ≠ k := by
  simp [keyed, List.find?_eq_none]

theorem keyed_some {entries : List α} {k : κ} {entry : α}
    (found : keyed key entries k = some entry)
    : entry ∈ entries ∧ key entry = k :=
  ⟨List.mem_of_find?_eq_some found, by simpa using List.find?_some found⟩

/-- A new entry at the end is found under its key. -/
theorem keyed_concat {entries : List α} {last : α} (k : κ)
    (fresh : ∀ entry ∈ entries, key entry ≠ key last)
    : keyed key (entries ++ [last]) k
      = if key last = k then some last else keyed key entries k := by
  by_cases here : key last = k
  · subst here
    have absent : keyed key entries (key last) = none := keyed_eq_none.mpr fresh
    unfold keyed at absent ⊢
    rw [List.find?_append, absent]
    simp
  · unfold keyed
    rw [List.find?_append]
    simp [here]

/-- Without its first entry a queue has everything but that entry's key. -/
theorem keyed_tail {head : α} {rest : List α} (unique : ((head :: rest).map key).Nodup) (k : κ)
    : keyed key rest k = if key head = k then none else keyed key (head :: rest) k := by
  rw [keyed_cons]
  by_cases here : key head = k
  · rw [if_pos here]
    refine keyed_eq_none.mpr (fun entry member same => ?_)
    have apart := (List.nodup_cons.mp unique).1
    exact apart (here.trans same.symm ▸ List.mem_map_of_mem member)
  · rw [if_neg here, if_neg here]

/-- Without the entry of one key, the others are found as before. -/
theorem keyed_without (entries : List α) (k other : κ)
    : keyed key (without key entries k) other
      = if other = k then none else keyed key entries other := by
  by_cases same : other = k
  · subst same
    rw [if_pos rfl]
    refine keyed_eq_none.mpr (fun entry member => ?_)
    simpa [without] using (List.mem_filter.mp member).2
  · rw [if_neg same]
    induction entries with
    | nil => rfl
    | cons head rest ih =>
        by_cases kept : key head = k
        · have dropped : without key (head :: rest) k = without key rest k := by
            simp [without, kept]
          have elsewhere : key head ≠ other := fun here => same (here.symm.trans kept)
          rw [dropped, ih, keyed_cons, if_neg elsewhere]
        · have stays : without key (head :: rest) k = head :: without key rest k := by
            simp [without, kept]
          rw [stays, keyed_cons, keyed_cons, ih]

/-- No entry has the key, so none is left out. -/
theorem without_eq_self {entries : List α} {k : κ}
    (absent : keyed key entries k = none)
    : without key entries k = entries := by
  refine List.filter_eq_self.mpr (fun entry member => ?_)
  simpa using keyed_eq_none.mp absent entry member

/-- Taking out the first entry that meets a test which only the entry of one key meets, by
induction on the queue. -/
theorem eraseP_eq_without {entries : List α} {p : α → Bool} {k : κ}
    (unique : (entries.map key).Nodup)
    (selects : ∀ entry ∈ entries, p entry = true ↔ key entry = k)
    : entries.eraseP p = without key entries k := by
  induction entries with
  | nil => rfl
  | cons head rest ih =>
      have apart := (List.nodup_cons.mp unique).1
      have later := ih (List.nodup_cons.mp unique).2
        (fun entry member => selects entry (List.mem_cons_of_mem _ member))
      by_cases here : key head = k
      · rw [List.eraseP_cons_of_pos ((selects head List.mem_cons_self).mpr here)]
        have absent : keyed key rest k = none := by
          refine keyed_eq_none.mpr (fun entry member same => ?_)
          exact apart (here.trans same.symm ▸ List.mem_map_of_mem member)
        have dropped : without key (head :: rest) k = without key rest k := by
          simp [without, here]
        rw [dropped, without_eq_self absent]
      · have misses : ¬ p head = true := fun hit =>
          here ((selects head List.mem_cons_self).mp hit)
        have stays : without key (head :: rest) k = head :: without key rest k := by
          simp [without, here]
        rw [List.eraseP_cons_of_neg misses, later, stays]

/-- In a queue without duplicates, taking out the first entry that meets a test takes out the
one that is found, by induction on the queue. -/
theorem eraseP_eq_filter_found [DecidableEq α] {entries : List α} {p : α → Bool} {found : α}
    (unique : entries.Nodup) (first : entries.find? p = some found)
    : entries.eraseP p = entries.filter (fun entry => entry ≠ found) := by
  induction entries with
  | nil => cases first
  | cons head rest ih =>
      obtain ⟨apart, unique⟩ := List.nodup_cons.mp unique
      by_cases here : p head = true
      · rw [List.find?_cons_of_pos here] at first
        have itself : head = found := Option.some.inj first
        subst itself
        have kept : rest.filter (fun entry => entry ≠ head) = rest := by
          refine List.filter_eq_self.mpr (fun entry member => ?_)
          exact decide_eq_true (fun same => apart (same ▸ member))
        rw [List.eraseP_cons_of_pos here, List.filter_cons_of_neg (by simp), kept]
      · rw [List.find?_cons_of_neg here] at first
        have other : head ≠ found := by
          intro same
          exact apart (same ▸ List.mem_of_find?_eq_some first)
        rw [List.eraseP_cons_of_neg here, List.filter_cons_of_pos (by simpa using other),
          ih unique first]

end NexusComms.Storage
