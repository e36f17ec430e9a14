import Mathlib.Computability.RegularExpressions

/-! Patterns over lists of characters: what the usual regular expressions match, and the
number that a string of digits stands for.
-/

namespace NexusComms.Strings

open RegularExpression

/-- Strings are compared by their characters. -/
instance lawfulBEq_chars : LawfulBEq (List Char) := inferInstance

section Patterns

variable {α : Type}

/-- A class in brackets. -/
def oneOf (cs : List α) : RegularExpression α :=
  cs.foldr (fun c rest => char c + rest) 0

/-- `p+`. -/
def many (p : RegularExpression α) : RegularExpression α := p * p.star

/-- `p{0,n}`. -/
def upTo (p : RegularExpression α) : Nat → RegularExpression α
  | 0 => 1
  | n + 1 => 1 + p * upTo p n

/-- `p{m,n}`. -/
def between (p : RegularExpression α) (m n : Nat) : RegularExpression α :=
  p ^ m * upTo p (n - m)

theorem mem_char {c : α} {s : List α}
    : s ∈ (char c).matches' ↔ s = [c] :=
  Iff.rfl

@[simp] theorem mem_oneOf {cs s : List α}
    : s ∈ (oneOf cs).matches' ↔ ∃ c ∈ cs, s = [c] := by
  induction cs with
  | nil => simp [oneOf]
  | cons c cs ih =>
      have unfolded : (oneOf (c :: cs)).matches' = (char c).matches' + (oneOf cs).matches' :=
        rfl
      rw [unfolded, Language.mem_add, mem_char, ih]
      simp

theorem mem_oneOf_star {cs s : List α}
    : s ∈ (oneOf cs).star.matches' ↔ ∀ c ∈ s, c ∈ cs := by
  rw [matches'_star, Language.mem_kstar]
  constructor
  · rintro ⟨parts, rfl, each⟩ c hmem
    obtain ⟨part, hpart, hc⟩ := List.mem_flatten.mp hmem
    obtain ⟨d, hd, rfl⟩ := mem_oneOf.mp (each part hpart)
    rw [List.mem_singleton.mp hc]
    exact hd
  · intro all
    refine ⟨s.map fun c => [c], ?_, fun part hpart => ?_⟩
    · rw [← List.flatMap_def, List.flatMap_singleton']
    obtain ⟨c, hc, rfl⟩ := List.mem_map.mp hpart
    exact mem_oneOf.mpr ⟨c, all c hc, rfl⟩

theorem mem_oneOf_many {cs s : List α}
    : s ∈ (many (oneOf cs)).matches' ↔ s ≠ [] ∧ ∀ c ∈ s, c ∈ cs := by
  rw [many, matches'_mul, Language.mem_mul]
  constructor
  · rintro ⟨first, hfirst, rest, hrest, rfl⟩
    obtain ⟨c, hc, rfl⟩ := mem_oneOf.mp hfirst
    refine ⟨List.cons_ne_nil c rest, fun d hd => ?_⟩
    rcases List.mem_cons.mp hd with rfl | hd
    · exact hc
    · exact mem_oneOf_star.mp hrest d hd
  · rintro ⟨nonempty, all⟩
    obtain ⟨c, rest, rfl⟩ := List.exists_cons_of_ne_nil nonempty
    refine ⟨[c], mem_oneOf.mpr ⟨c, all c (by simp), rfl⟩, rest, ?_, rfl⟩
    exact mem_oneOf_star.mpr fun d hd => all d (List.mem_cons_of_mem c hd)

theorem mem_oneOf_pow {cs : List α} (n : Nat) {s : List α}
    : s ∈ (oneOf cs ^ n).matches' ↔ s.length = n ∧ ∀ c ∈ s, c ∈ cs := by
  induction n generalizing s with
  | zero => cases s <;> simp
  | succ n ih =>
      rw [matches'_pow] at ih ⊢
      rw [pow_succ', Language.mem_mul]
      constructor
      · rintro ⟨first, hfirst, rest, hrest, rfl⟩
        obtain ⟨c, hc, rfl⟩ := mem_oneOf.mp hfirst
        obtain ⟨length, all⟩ := ih.mp hrest
        exact ⟨by simp [length], by simpa [hc] using all⟩
      · rintro ⟨length, all⟩
        obtain ⟨c, rest, rfl⟩ := List.exists_cons_of_length_eq_add_one length
        refine ⟨[c], mem_oneOf.mpr ⟨c, all c (by simp), rfl⟩, rest, ih.mpr ⟨?_, ?_⟩, rfl⟩
        · simpa using length
        · exact fun d hd => all d (List.mem_cons_of_mem c hd)

theorem mem_oneOf_upTo {cs : List α} (n : Nat) {s : List α}
    : s ∈ (upTo (oneOf cs) n).matches' ↔ s.length ≤ n ∧ ∀ c ∈ s, c ∈ cs := by
  induction n generalizing s with
  | zero => cases s <;> simp [upTo]
  | succ n ih =>
      rw [upTo, matches'_add, Language.mem_add, matches'_mul, Language.mem_mul]
      constructor
      · rintro (empty | ⟨first, hfirst, rest, hrest, rfl⟩)
        · simp [Language.mem_one _ |>.mp empty]
        · obtain ⟨c, hc, rfl⟩ := mem_oneOf.mp hfirst
          obtain ⟨length, all⟩ := ih.mp hrest
          exact ⟨by simp; omega, by simpa [hc] using all⟩
      · rintro ⟨length, all⟩
        cases s with
        | nil => exact Or.inl ((Language.mem_one _).mpr rfl)
        | cons c rest =>
            refine Or.inr ⟨[c], mem_oneOf.mpr ⟨c, all c (by simp), rfl⟩, rest, ?_, rfl⟩
            refine ih.mpr ⟨by simpa using length, ?_⟩
            exact fun d hd => all d (List.mem_cons_of_mem c hd)

theorem mem_oneOf_between {cs : List α} {m n : Nat} (le : m ≤ n) {s : List α}
    : s ∈ (between (oneOf cs) m n).matches'
      ↔ (m ≤ s.length ∧ s.length ≤ n) ∧ ∀ c ∈ s, c ∈ cs := by
  rw [between, matches'_mul, Language.mem_mul]
  constructor
  · rintro ⟨first, hfirst, rest, hrest, rfl⟩
    obtain ⟨exactly, all⟩ := (mem_oneOf_pow m).mp hfirst
    obtain ⟨atMost, others⟩ := (mem_oneOf_upTo (n - m)).mp hrest
    refine ⟨by rw [List.length_append]; omega, fun c hmem => ?_⟩
    exact (List.mem_append.mp hmem).elim (all c) (others c)
  · rintro ⟨⟨low, high⟩, all⟩
    refine ⟨s.take m, (mem_oneOf_pow m).mpr ⟨by simpa using low, ?_⟩, s.drop m,
      (mem_oneOf_upTo (n - m)).mpr ⟨by rw [List.length_drop]; omega, ?_⟩, by simp⟩
    · exact fun c hc => all c (List.mem_of_mem_take hc)
    · exact fun c hc => all c (List.mem_of_mem_drop hc)

/-- Where one part of a string ends and the rest begins. -/
theorem span_append {p : α → Bool} {front back : List α} (first : ∀ a ∈ front, p a = true)
    (rest : ∀ a ∈ back, p a = false)
    : (front ++ back).takeWhile p = front ∧ (front ++ back).dropWhile p = back := by
  rw [List.takeWhile_append_of_pos first, List.dropWhile_append_of_pos first]
  cases back with
  | nil => exact ⟨List.append_nil front, rfl⟩
  | cons a back =>
      have stop : ¬ p a = true := by simp [rest a]
      rw [List.takeWhile_cons_of_neg stop, List.dropWhile_cons_of_neg stop]
      exact ⟨List.append_nil front, rfl⟩

end Patterns

/-- `\d`. -/
def digits : List Char := ['0', '1', '2', '3', '4', '5', '6', '7', '8', '9']

/-- The number that a string of digits is in base ten. -/
def numeral (s : List Char) : Nat :=
  s.foldl (fun n c => 10 * n + (c.toNat - '0'.toNat)) 0

end NexusComms.Strings
