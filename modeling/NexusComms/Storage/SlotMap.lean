import Mathlib.Data.List.Nodup
import Mathlib.Data.List.ReduceOption

/-! Insertion-ordered maps that a loop may change while it goes through them. A deleted entry
leaves an empty slot, so that a loop under way keeps its place.
-/

namespace NexusComms.Storage

/-- A map with at most one entry for each key. -/
structure SlotMap (κ ν : Type) where
  slots : List (Option (κ × ν))
  nodupKeys : (slots.reduceOption.map Prod.fst).Nodup

namespace SlotMap

variable {κ ν σ : Type}

/-- The entries in the order of their insertion. -/
def entries (map : SlotMap κ ν) : List (κ × ν) := map.slots.reduceOption

def keys (map : SlotMap κ ν) : List κ := map.entries.map Prod.fst

def empty : SlotMap κ ν := ⟨[], List.nodup_nil⟩

@[simp] theorem entries_empty : (empty : SlotMap κ ν).entries = [] := rfl

theorem entries_nodup (map : SlotMap κ ν) : map.entries.Nodup := map.nodupKeys.of_map _

variable [DecidableEq κ]

/-- What becomes of a slot when a key is deleted. -/
def clear (key : κ) (slot : Option (κ × ν)) : Option (κ × ν) :=
  slot.filter fun entry => entry.1 ≠ key

/-- What is left in the slots when a key is deleted, by induction on the slots. -/
theorem reduceOption_clear (slots : List (Option (κ × ν))) (key : κ)
    : (slots.map (clear key)).reduceOption
      = slots.reduceOption.filter (fun entry => entry.1 ≠ key) := by
  induction slots with
  | nil => rfl
  | cons slot rest ih =>
      cases slot with
      | none => simpa [clear] using ih
      | some entry =>
          by_cases same : entry.1 = key
          · simpa [clear, Option.filter_some, same] using ih
          · simpa [clear, Option.filter_some, same] using ih

/-- `map.delete(key)`. -/
def delete (map : SlotMap κ ν) (key : κ) : SlotMap κ ν where
  slots := map.slots.map (clear key)
  nodupKeys := by
    rw [reduceOption_clear]
    exact map.nodupKeys.sublist (List.filter_sublist.map Prod.fst)

/-- What becomes of a slot when a key is given a new value. -/
def overwrite (key : κ) (value : ν) (slot : Option (κ × ν)) : Option (κ × ν) :=
  slot.map fun entry => if entry.1 = key then (key, value) else entry

theorem reduceOption_overwrite (slots : List (Option (κ × ν))) (key : κ) (value : ν)
    : (slots.map (overwrite key value)).reduceOption.map Prod.fst
      = slots.reduceOption.map Prod.fst := by
  have each
      : Prod.fst ∘ (fun entry : κ × ν => if entry.1 = key then (key, value) else entry)
        = Prod.fst := by
    funext entry
    by_cases same : entry.1 = key
    · simp [same]
    · simp [same]
  change (slots.map (Option.map _)).reduceOption.map Prod.fst = _
  rw [List.reduceOption_map, List.map_map, each]

/-- `map.set(key, value)`: a key that is there keeps its place. -/
def set (map : SlotMap κ ν) (key : κ) (value : ν) : SlotMap κ ν :=
  if absent : key ∉ map.keys then
    {
      slots := map.slots ++ [some (key, value)]
      nodupKeys := by
        rw [List.reduceOption_append, List.reduceOption_singleton, List.map_append]
        refine List.nodup_append.mpr ⟨map.nodupKeys, by simp, fun old hold new hnew same =>
          absent ?_⟩
        have latest : new = key := List.mem_singleton.mp hnew
        rwa [same, latest] at hold
    }
  else
    {
      slots := map.slots.map (overwrite key value)
      nodupKeys := by
        rw [reduceOption_overwrite]
        exact map.nodupKeys
    }

/-- A new key comes last. -/
theorem entries_set {map : SlotMap κ ν} {key : κ} {value : ν} (absent : key ∉ map.keys)
    : (map.set key value).entries = map.entries ++ [(key, value)] := by
  unfold set
  rw [dif_pos absent]
  exact List.reduceOption_append map.slots [some (key, value)]

--------------------------------------------------------------------------------
-- Loops
--------------------------------------------------------------------------------

/-- So many rounds of `for (const [key, value] of map)` from a slot on, where each round reads
the map as the bodies have left it. -/
def forOf (read : σ → SlotMap κ ν) (body : κ → ν → σ → σ)
    : (rounds index : Nat) → σ → σ
  | 0, _, state => state
  | rounds + 1, index, state =>
      match (read state).slots[index]? with
      | some (some (key, value)) =>
          forOf read body rounds (index + 1) (body key value state)
      | _ => forOf read body rounds (index + 1) state

omit [DecidableEq κ] in
/-- The rule for a loop whose body keeps the slots behind the one it visits: an invariant
about the slots passed, those to come and the state holds at the end, where no slot is to
come. By induction on the slots to come. -/
theorem forOf_invariant {read : σ → SlotMap κ ν} {body : κ → ν → σ → σ}
    (inv : List (Option (κ × ν)) → List (Option (κ × ν)) → σ → Prop)
    (reads
      : ∀ {passed left state}, inv passed left state → (read state).slots = passed ++ left)
    (skips
      : ∀ {passed left state},
          inv passed (none :: left) state → inv (passed ++ [none]) left state)
    (visits
      : ∀ {passed key value left state},
          inv passed (some (key, value) :: left) state →
            ∃ slot, inv (passed ++ [slot]) left (body key value state))
    {passed left : List (Option (κ × ν))} {state : σ} (start : inv passed left state)
    : ∃ all, inv all [] (forOf read body left.length passed.length state) := by
  induction left generalizing passed state with
  | nil => exact ⟨passed, start⟩
  | cons slot left ih =>
      have here : (read state).slots[passed.length]? = some slot := by simp [reads start]
      rw [List.length_cons, forOf, here]
      cases slot with
      | none =>
          have later := ih (skips start)
          rwa [List.length_append, List.length_singleton] at later
      | some entry =>
          obtain ⟨slot, next⟩ := visits start
          have later := ih next
          rwa [List.length_append, List.length_singleton] at later

/-- Deleting the entry that a loop visits empties its slot and no other one. -/
theorem delete_slots {map : SlotMap κ ν} {passed left : List (Option (κ × ν))}
    {key : κ} {value : ν} (slots : map.slots = passed ++ some (key, value) :: left)
    : (map.delete key).slots = passed ++ none :: left := by
  have unique := map.nodupKeys
  rw [slots, List.reduceOption_append, List.reduceOption_cons_of_some, List.map_append,
    List.map_cons] at unique
  have elsewhere := ((List.nodup_middle.mp unique)).notMem
  have kept
      : ∀ part : List (Option (κ × ν)),
          key ∉ part.reduceOption.map Prod.fst → part.map (clear key) = part := by
    intro part absent
    refine (List.map_congr_left fun slot inPart => ?_).trans (List.map_id part)
    cases slot with
    | none => rfl
    | some entry =>
        have other : entry.1 ≠ key := by
          rintro rfl
          exact absent (List.mem_map_of_mem (List.reduceOption_mem_iff.mpr inPart))
        simp [clear, Option.filter_some, other]
  rw [← List.map_append, List.mem_map] at elsewhere
  change map.slots.map (clear key) = _
  rw [slots, List.map_append, List.map_cons, kept passed, kept left]
  · simp [clear]
  · intro found
    obtain ⟨entry, inLeft, same⟩ := List.mem_map.mp found
    exact elsewhere ⟨entry, List.mem_append_right _ inLeft, same⟩
  · intro found
    obtain ⟨entry, inPassed, same⟩ := List.mem_map.mp found
    exact elsewhere ⟨entry, List.mem_append_left _ inPassed, same⟩

/-- How far a loop has come that deletes the entries whose key passes a test: those that passed
it are gone among the slots passed, and what is done for each of them has been done. -/
structure Sweeping {τ : Type} (read : σ → SlotMap κ ν) (rest : σ → τ) (effect : τ → ν → τ)
    (test : κ → Bool) (start : σ) (passed left : List (Option (κ × ν))) (now : σ)
    : Prop where
  slots : (read now).slots = passed ++ left
  kept
    : passed.reduceOption ++ left.reduceOption.filter (fun entry => !test entry.1)
      = (read start).entries.filter (fun entry => !test entry.1)
  done
    : ((left.reduceOption.filter (fun entry => test entry.1)).map Prod.snd).foldl effect
        (rest now)
      = (((read start).entries.filter (fun entry => test entry.1)).map Prod.snd).foldl effect
          (rest start)

/-- A loop that deletes what it visits if the key passes a test, and only then does something
else: the entries that pass it are gone, and it has been done for each of them once and in
their order. -/
theorem forOf_delete {τ : Type} (read : σ → SlotMap κ ν) (body : κ → ν → σ → σ) (rest : σ → τ)
    (effect : τ → ν → τ) (test : κ → Bool)
    (deletes
      : ∀ key value state,
          test key = true →
            read (body key value state) = (read state).delete key
            ∧ rest (body key value state) = effect (rest state) value)
    (keeps : ∀ key value state, test key = false → body key value state = state)
    (state : σ)
    : (read (forOf read body (read state).slots.length 0 state)).entries
        = (read state).entries.filter (fun entry => !test entry.1)
      ∧ rest (forOf read body (read state).slots.length 0 state)
        = (((read state).entries.filter (fun entry => test entry.1)).map Prod.snd).foldl effect
            (rest state) := by
  have skips
      : ∀ {passed left now},
          Sweeping read rest effect test state passed (none :: left) now →
            Sweeping read rest effect test state (passed ++ [none]) left now := by
    rintro passed left now ⟨slots, kept, done⟩
    refine ⟨by simpa using slots, ?_, done⟩
    simpa [List.reduceOption_append] using kept
  have visits
      : ∀ {passed key value left now},
          Sweeping read rest effect test state passed (some (key, value) :: left) now →
            ∃ slot,
              Sweeping read rest effect test state (passed ++ [slot]) left
                (body key value now) := by
    rintro passed key value left now ⟨slots, kept, done⟩
    by_cases passes : test key = true
    · obtain ⟨deleted, effected⟩ := deletes key value now passes
      refine ⟨none, ?_, ?_, ?_⟩
      · rw [deleted, delete_slots slots]
        simp
      · simpa [List.reduceOption_append, passes] using kept
      · rw [effected]
        simpa [passes] using done
    · rw [Bool.not_eq_true] at passes
      rw [keeps key value now passes]
      refine ⟨some (key, value), by simpa using slots, ?_, ?_⟩
      · simpa [List.reduceOption_append, passes] using kept
      · simpa [passes] using done
  have start : Sweeping read rest effect test state [] (read state).slots state :=
    ⟨rfl, rfl, rfl⟩
  obtain ⟨all, slots, kept, done⟩ :=
    forOf_invariant (Sweeping read rest effect test state) Sweeping.slots skips visits start
  refine ⟨?_, by simpa using done⟩
  rw [← kept]
  simpa [entries] using congrArg List.reduceOption slots

end SlotMap

end NexusComms.Storage
