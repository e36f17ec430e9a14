import Mathlib.Data.List.GetD
import Mathlib.Data.List.Induction
import Mathlib.Logic.Relation

/-! Objects that live on other objects. Each is created on earlier ones, and closing an object
closes everything that lives on it, directly or not. Nothing is ever opened again.
-/

namespace NexusComms.Storage

/-- An object, the objects it was created on, and whether it has been closed itself. -/
structure Dependent (κ : Type) where
  value : κ
  parents : List Nat
  closed : Bool
deriving DecidableEq, Repr

/-- All objects in the order of their creation, the closed ones included. -/
structure Lifetimes (κ : Type) where
  objects : List (Dependent κ)
  earlier
    : ∀ {index : Nat} {object : Dependent κ},
        objects[index]? = some object → ∀ parent ∈ object.parents, parent < index

namespace Lifetimes

variable {κ : Type}

/-- Nothing has been created. -/
def empty : Lifetimes κ := ⟨[], by simp⟩

/-- A new object on existing ones, open or not. It is the last one. -/
def create (lifetimes : Lifetimes κ) (value : κ) (parents : List Nat)
    (known : ∀ parent ∈ parents, parent < lifetimes.objects.length)
    : Lifetimes κ where
  objects := lifetimes.objects ++ [⟨value, parents, false⟩]
  earlier := by
    intro index object found parent member
    rcases Nat.lt_or_ge index lifetimes.objects.length with old | new
    · rw [List.getElem?_append_left old] at found
      exact lifetimes.earlier found parent member
    · rw [List.getElem?_append_right new] at found
      cases List.mem_singleton.mp (List.mem_of_getElem? found)
      exact Nat.lt_of_lt_of_le (known parent member) new

/-- An object is closed, whether or not it was open. -/
def close (lifetimes : Lifetimes κ) (target : Nat) : Lifetimes κ where
  objects := lifetimes.objects.modify target (fun object => { object with closed := true })
  earlier := by
    intro index object found
    rw [List.getElem?_modify] at found
    obtain ⟨before, there, rfl⟩ := Option.map_eq_some_iff.mp found
    have earlier := lifetimes.earlier there
    by_cases same : target = index
    · simpa [same] using earlier
    · simpa [same] using earlier

/-- Several objects are closed one after another. -/
def closeAll (lifetimes : Lifetimes κ) (targets : List Nat) : Lifetimes κ :=
  targets.foldl close lifetimes

/-- What the objects are, in the order of their creation. -/
def values (lifetimes : Lifetimes κ) : List κ := lifetimes.objects.map Dependent.value

/-- What the objects are and what they were created on, in the order of their creation. -/
def creations (lifetimes : Lifetimes κ) : List (κ × List Nat) :=
  lifetimes.objects.map (fun object => (object.value, object.parents))

/-- Whether an object has been closed itself. -/
def isClosed (lifetimes : Lifetimes κ) (index : Nat) : Bool :=
  lifetimes.objects[index]?.any Dependent.closed

/-- Which of the objects are open: those that have not been closed and whose parents are open.
-/
def opens (objects : List (Dependent κ)) : List Bool :=
  objects.foldl
    (fun flags object =>
      flags ++ [!object.closed && object.parents.all (fun parent => flags.getD parent false)])
    []

/-- Whether an object is open. -/
def isOpen (lifetimes : Lifetimes κ) (index : Nat) : Bool :=
  (opens lifetimes.objects).getD index false

/-- An object exists, open or not, and was created so. -/
def Has (lifetimes : Lifetimes κ) (index : Nat) (value : κ) (parents : List Nat) : Prop :=
  ∃ closed, lifetimes.objects[index]? = some ⟨value, parents, closed⟩

/-- One object was created on the other one. -/
def On (lifetimes : Lifetimes κ) (child parent : Nat) : Prop :=
  ∃ value parents, lifetimes.Has child value parents ∧ parent ∈ parents

/-- One object is the other one or lives on it. -/
def DependsOn (lifetimes : Lifetimes κ) : Nat → Nat → Prop :=
  Relation.ReflTransGen lifetimes.On

-----------------------------------------------------------------------------------------
-- Which objects are open
-----------------------------------------------------------------------------------------

/-- The last object is open if it has not been closed and its parents are open. -/
theorem opens_concat (objects : List (Dependent κ)) (last : Dependent κ)
    : opens (objects ++ [last])
      = opens objects
        ++ [!last.closed && last.parents.all (fun parent => (opens objects).getD parent false)]
    := by
  simp [opens]

/-- Each object is open or not, by induction on the objects from the last one. -/
theorem length_opens (objects : List (Dependent κ))
    : (opens objects).length = objects.length := by
  induction objects using List.reverseRecOn with
  | nil => rfl
  | append_singleton objects last ih => simp [opens_concat, ih]

/-- Later objects decide nothing about the earlier ones. -/
theorem opens_concat_of_lt {objects : List (Dependent κ)} {last : Dependent κ} {index : Nat}
    (old : index < objects.length)
    : (opens (objects ++ [last])).getD index false = (opens objects).getD index false := by
  rw [← length_opens] at old
  rw [opens_concat, List.getD_append _ _ _ _ old]

/-- An object is open exactly if it has not been closed and its parents are open, by induction
on the objects from the last one. -/
theorem opens_iff {objects : List (Dependent κ)}
    (earlier
      : ∀ {index : Nat} {object : Dependent κ},
          objects[index]? = some object → ∀ parent ∈ object.parents, parent < index)
    (index : Nat)
    : (opens objects).getD index false = true
      ↔ ∃ object,
          objects[index]? = some object
          ∧ object.closed = false
          ∧ ∀ parent ∈ object.parents, (opens objects).getD parent false = true := by
  induction objects using List.reverseRecOn with
  | nil => simp [opens]
  | append_singleton objects last ih =>
      have before {index : Nat} {object : Dependent κ} (found : objects[index]? = some object)
          : (objects ++ [last])[index]? = some object := by
        rwa [List.getElem?_append_left (List.getElem?_eq_some_iff.mp found).1]
      rcases Nat.lt_trichotomy index objects.length with old | rfl | beyond
      · rw [opens_concat_of_lt old, ih (fun found => earlier (before found)),
          List.getElem?_append_left old]
        refine exists_congr (fun object => and_congr_right (fun found => and_congr_right
          (fun _ => forall₂_congr (fun parent member => ?_))))
        have known := earlier (before found) parent member
        rw [opens_concat_of_lt (Nat.lt_trans known old)]
      · have new : (objects ++ [last])[objects.length]? = some last := by simp
        have flag
            : (opens (objects ++ [last])).getD objects.length false
              = (!last.closed
                && last.parents.all (fun parent => (opens objects).getD parent false)) := by
          rw [opens_concat, ← length_opens objects]
          simp
        rw [flag, new]
        have parents
            : (∀ parent ∈ last.parents, (opens (objects ++ [last])).getD parent false = true)
              ↔ ∀ parent ∈ last.parents, (opens objects).getD parent false = true :=
          forall₂_congr (fun parent member => by
            rw [opens_concat_of_lt (earlier new parent member)])
        simp only [Option.some.injEq, exists_eq_left', parents]
        simp
      · have left : (opens (objects ++ [last])).length ≤ index := by
          simp [length_opens]
          omega
        have right : (objects ++ [last]).length ≤ index := by
          simp
          omega
        rw [List.getElem?_eq_none right, List.getD_eq_default _ _ left]
        simp

variable {lifetimes : Lifetimes κ} {value value' : κ} {parents parents' : List Nat}
  {index target other : Nat}

/-- An object was created in one way only. -/
theorem Has.unique (has : lifetimes.Has index value parents)
    (has' : lifetimes.Has index value' parents')
    : value' = value ∧ parents' = parents := by
  obtain ⟨closed, found⟩ := has
  obtain ⟨closed', found'⟩ := has'
  cases Option.some.inj (found.symm.trans found')
  exact ⟨rfl, rfl⟩

theorem Has.getElem?_values (has : lifetimes.Has index value parents)
    : lifetimes.values[index]? = some value := by
  obtain ⟨_, found⟩ := has
  simp [values, found]

theorem Has.lt (has : lifetimes.Has index value parents)
    : index < lifetimes.objects.length := by
  obtain ⟨_, found⟩ := has
  exact (List.getElem?_eq_some_iff.mp found).1

/-- Its parents are the ones it was created on. -/
theorem Has.on_iff (has : lifetimes.Has index value parents)
    : lifetimes.On index target ↔ target ∈ parents := by
  constructor
  · rintro ⟨_, _, has', member⟩
    exact (has.unique has').2 ▸ member
  · exact fun member => ⟨value, parents, has, member⟩

/-- An object lives on what its parents live on. -/
theorem Has.dependsOn_iff (has : lifetimes.Has index value parents)
    : lifetimes.DependsOn index target
      ↔ target = index ∨ ∃ parent ∈ parents, lifetimes.DependsOn parent target := by
  rw [DependsOn, Relation.ReflTransGen.cases_head_iff, eq_comm]
  exact or_congr_right (exists_congr fun parent => and_congr_left fun _ => has.on_iff)

/-- An object is open exactly if it has not been closed and its parents are open. -/
theorem isOpen_iff
    : lifetimes.isOpen index = true
      ↔ ∃ object,
          lifetimes.objects[index]? = some object
          ∧ object.closed = false
          ∧ ∀ parent ∈ object.parents, lifetimes.isOpen parent = true :=
  opens_iff lifetimes.earlier index

/-- An open object lives on open ones only. -/
theorem isOpen_of_dependsOn (isOpen : lifetimes.isOpen index = true)
    (depends : lifetimes.DependsOn index target)
    : lifetimes.isOpen target = true := by
  induction depends with
  | refl => exact isOpen
  | tail _ on ih =>
      obtain ⟨value, parents, ⟨closed, found⟩, member⟩ := on
      obtain ⟨_, same, _, isOpen⟩ := isOpen_iff.mp ih
      cases Option.some.inj (found.symm.trans same)
      exact isOpen _ member

/-- An object is open exactly if nothing that it lives on has been closed, by induction on the
order of creation. -/
theorem isOpen_iff_dependsOn
    : lifetimes.isOpen index = true
      ↔ ∀ target, lifetimes.DependsOn index target →
          ∃ object, lifetimes.objects[target]? = some object ∧ object.closed = false := by
  constructor
  · intro isOpen target depends
    obtain ⟨object, found, notClosed, _⟩ := isOpen_iff.mp (isOpen_of_dependsOn isOpen depends)
    exact ⟨object, found, notClosed⟩
  · induction index using Nat.strongRecOn with
    | ind index ih =>
        intro all
        obtain ⟨object, found, notClosed⟩ := all index .refl
        refine isOpen_iff.mpr ⟨object, found, notClosed, fun parent member => ?_⟩
        refine ih parent (lifetimes.earlier found parent member) (fun target depends => ?_)
        exact all target (.head ⟨object.value, _, ⟨object.closed, found⟩, member⟩ depends)

-----------------------------------------------------------------------------------------
-- Creating and closing
-----------------------------------------------------------------------------------------

section Create

variable (known : ∀ parent ∈ parents, parent < lifetimes.objects.length)

theorem create_objects
    : (lifetimes.create value parents known).objects
      = lifetimes.objects ++ [⟨value, parents, false⟩] :=
  rfl

/-- What an object was created on never changes. -/
theorem has_create
    : (lifetimes.create value parents known).Has index value' parents'
      ↔ lifetimes.Has index value' parents'
        ∨ (index = lifetimes.objects.length ∧ value' = value ∧ parents' = parents) := by
  simp only [Has, create_objects]
  rcases Nat.lt_trichotomy index lifetimes.objects.length with old | rfl | beyond
  · have apart : index ≠ lifetimes.objects.length := by omega
    simp [List.getElem?_append_left old, apart]
  · simp [eq_comm]
  · have apart : index ≠ lifetimes.objects.length := by omega
    rw [List.getElem?_eq_none (by simp; omega), List.getElem?_eq_none (by omega)]
    simp [apart]

/-- The other objects are as open as before. -/
theorem isOpen_create_of_lt (old : index < lifetimes.objects.length)
    : (lifetimes.create value parents known).isOpen index = lifetimes.isOpen index :=
  opens_concat_of_lt old

theorem values_create
    : (lifetimes.create value parents known).values = lifetimes.values ++ [value] :=
  List.map_append

theorem creations_create
    : (lifetimes.create value parents known).creations = lifetimes.creations ++ [(value, parents)]
    :=
  List.map_append

/-- The other objects are as closed as before. -/
theorem isClosed_create_of_lt (old : index < lifetimes.objects.length)
    : (lifetimes.create value parents known).isClosed index = lifetimes.isClosed index := by
  simp [isClosed, create_objects, List.getElem?_append_left old]

theorem isClosed_create_new
    : (lifetimes.create value parents known).isClosed lifetimes.objects.length = false := by
  simp [isClosed, create_objects]

/-- The new object is open if its parents are. -/
theorem isOpen_create_new
    : (lifetimes.create value parents known).isOpen lifetimes.objects.length = true
      ↔ ∀ parent ∈ parents, lifetimes.isOpen parent = true := by
  rw [isOpen_iff]
  simp only [create_objects, List.getElem?_concat_length, Option.some.injEq, exists_eq_left',
    true_and]
  exact forall₂_congr (fun parent member => by
    rw [isOpen_create_of_lt known (known parent member)])

end Create

/-- Closing an object leaves it where it is. -/
theorem has_close
    : (lifetimes.close target).Has index value parents ↔ lifetimes.Has index value parents := by
  simp only [Has, close, List.getElem?_modify]
  cases lifetimes.objects[index]? with
  | none => simp
  | some object =>
      by_cases same : target = index
      · cases object
        simp [same]
      · cases object
        simp [same]

/-- Closing an object changes none of the dependencies. -/
theorem dependsOn_close
    : (lifetimes.close target).DependsOn index other ↔ lifetimes.DependsOn index other := by
  have same : (lifetimes.close target).On = lifetimes.On := by
    funext child parent
    simp only [On, has_close]
  simp only [DependsOn, same]

/-- Closing an object closes exactly what lives on it. -/
theorem isOpen_close
    : (lifetimes.close target).isOpen index = true
      ↔ lifetimes.isOpen index = true ∧ ¬ lifetimes.DependsOn index target := by
  simp only [isOpen_iff_dependsOn, dependsOn_close]
  have objects (index : Nat)
      : (∃ object,
          (lifetimes.close target).objects[index]? = some object ∧ object.closed = false)
        ↔ (∃ object, lifetimes.objects[index]? = some object ∧ object.closed = false)
          ∧ index ≠ target := by
    simp only [close, List.getElem?_modify]
    by_cases same : target = index
    · simp [same]
    · simp [same, Ne.symm same]
  constructor
  · intro all
    exact ⟨fun other depends => ((objects other).mp (all other depends)).1,
      fun depends => ((objects target).mp (all target depends)).2 rfl⟩
  · rintro ⟨all, apart⟩ other depends
    exact (objects other).mpr ⟨all other depends, fun same => apart (same ▸ depends)⟩

/-- What the objects are does not change, either. -/
theorem values_close : (lifetimes.close target).values = lifetimes.values := by
  refine List.ext_getElem? (fun index => ?_)
  simp only [values, close, List.getElem?_map, List.getElem?_modify]
  cases lifetimes.objects[index]? with
  | none => rfl
  | some object =>
      by_cases same : target = index
      · simp [same]
      · simp [same]

/-- Nor does what they were created on. -/
theorem creations_close : (lifetimes.close target).creations = lifetimes.creations := by
  refine List.ext_getElem? (fun index => ?_)
  simp only [creations, close, List.getElem?_map, List.getElem?_modify]
  cases lifetimes.objects[index]? with
  | none => rfl
  | some object =>
      by_cases same : target = index
      · simp [same]
      · simp [same]

/-- An object is closed exactly if it was, or is the one that is closed. -/
theorem isClosed_close (there : index < lifetimes.objects.length)
    : (lifetimes.close target).isClosed index = true
      ↔ lifetimes.isClosed index = true ∨ index = target := by
  simp only [isClosed, close, List.getElem?_modify, List.getElem?_eq_getElem there]
  by_cases same : target = index
  · simp [same]
  · simp [same, Ne.symm same]

theorem length_close : (lifetimes.close target).objects.length = lifetimes.objects.length :=
  List.length_modify _ _ _

/-- Closing several objects leaves them where they are, by induction on them. -/
theorem has_closeAll {targets : List Nat}
    : (lifetimes.closeAll targets).Has index value parents
      ↔ lifetimes.Has index value parents := by
  induction targets generalizing lifetimes with
  | nil => rfl
  | cons target rest ih => exact ih.trans has_close

theorem length_closeAll {targets : List Nat}
    : (lifetimes.closeAll targets).objects.length = lifetimes.objects.length := by
  induction targets generalizing lifetimes with
  | nil => rfl
  | cons target rest ih => exact ih.trans length_close

theorem values_closeAll {targets : List Nat}
    : (lifetimes.closeAll targets).values = lifetimes.values := by
  induction targets generalizing lifetimes with
  | nil => rfl
  | cons target rest ih => exact ih.trans values_close

theorem creations_closeAll {targets : List Nat}
    : (lifetimes.closeAll targets).creations = lifetimes.creations := by
  induction targets generalizing lifetimes with
  | nil => rfl
  | cons target rest ih => exact ih.trans creations_close

/-- An object is closed exactly if it was, or is one of those that are closed, by induction on
them. -/
theorem isClosed_closeAll {targets : List Nat} (there : index < lifetimes.objects.length)
    : (lifetimes.closeAll targets).isClosed index = true
      ↔ lifetimes.isClosed index = true ∨ index ∈ targets := by
  induction targets generalizing lifetimes with
  | nil => simp [closeAll]
  | cons target rest ih =>
      have still : index < (lifetimes.close target).objects.length := by rwa [length_close]
      refine (ih still).trans ?_
      rw [isClosed_close there, List.mem_cons, or_assoc]

/-- Closing several objects closes exactly what lives on one of them, by induction on them. -/
theorem isOpen_closeAll {targets : List Nat}
    : (lifetimes.closeAll targets).isOpen index = true
      ↔ lifetimes.isOpen index = true
        ∧ ∀ target ∈ targets, ¬ lifetimes.DependsOn index target := by
  induction targets generalizing lifetimes with
  | nil => simp [closeAll]
  | cons target rest ih =>
      refine (@ih (lifetimes.close target)).trans ?_
      simp only [isOpen_close, dependsOn_close, List.forall_mem_cons]
      exact and_assoc

end Lifetimes

end NexusComms.Storage
