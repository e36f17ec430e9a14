import NexusComms.Strings.Patterns

/-! Strings that a separator divides into fields: the parts between the separators, how
often the separator stands twice in a row, and when the parts give the string back.
-/

namespace NexusComms.Strings

variable {α : Type} [DecidableEq α] {sep : α}

/-- The fields with a separator between each two of them. -/
def joined (sep : α) (parts : List (List α)) : List α := [sep].intercalate parts

/-- The fields that are not empty. -/
def parts (sep : α) (s : List α) : List (List α) :=
  (s.splitOn sep).filter fun part => part ≠ []

/-- How often the separator is followed by another one. -/
def doubled (sep : α) : List α → Nat
  | [] => 0
  | a :: rest => doubled sep rest + if a = sep ∧ rest.head? = some sep then 1 else 0

--------------------------------------------------------------------------------
-- Joining
--------------------------------------------------------------------------------

omit [DecidableEq α] in
@[simp] theorem joined_nil : joined sep [] = [] := rfl

omit [DecidableEq α] in
@[simp] theorem joined_singleton {part : List α} : joined sep [part] = part := by
  simp [joined]

omit [DecidableEq α] in
theorem joined_cons {part : List α} {rest : List (List α)} (nonempty : rest ≠ [])
    : joined sep (part :: rest) = part ++ sep :: joined sep rest := by
  rw [joined, List.intercalate_cons_of_ne_nil nonempty]
  simp [joined]

omit [DecidableEq α] in
theorem joined_append {left right : List (List α)} (hleft : left ≠ []) (hright : right ≠ [])
    : joined sep (left ++ right) = joined sep left ++ sep :: joined sep right := by
  induction left with
  | nil => exact absurd rfl hleft
  | cons part left ih =>
      cases left with
      | nil => simpa using joined_cons hright
      | cons next left =>
          rw [List.cons_append, joined_cons (by simp), ih (by simp),
            joined_cons (List.cons_ne_nil next left)]
          simp

omit [DecidableEq α] in
/-- The first separator tells where the first field ends. -/
theorem field_inj {left right back other : List α} (hleft : sep ∉ left) (hright : sep ∉ right)
    : left ++ sep :: back = right ++ sep :: other ↔ left = right ∧ back = other := by
  classical
  constructor
  · intro same
    have first
        : ∀ (field rest : List α),
            sep ∉ field → (field ++ sep :: rest).takeWhile (fun a => a ≠ sep) = field := by
      intro field rest absent
      rw [List.takeWhile_append_of_pos (fun a ha => by
        simpa using fun h : a = sep => absent (h ▸ ha))]
      simp
    have fields : left = right := by
      rw [← first left back hleft, same, first right other hright]
    subst fields
    exact ⟨rfl, by simpa using same⟩
  · rintro ⟨rfl, rfl⟩
    rfl

/-- The fields of a string that has been joined. -/
theorem parts_joined {fields : List (List α)}
    (each : ∀ field ∈ fields, field ≠ [] ∧ sep ∉ field)
    : parts sep (joined sep fields) = fields := by
  by_cases empty : fields = []
  · subst empty
    rfl
  · rw [parts, joined, List.splitOn_intercalate sep (fun field hmem => (each field hmem).2) empty]
    exact List.filter_eq_self.mpr fun field hmem => by simpa using (each field hmem).1

theorem parts_append {x y : List α}
    : parts sep (x ++ sep :: y) = parts sep x ++ parts sep y := by
  rw [parts, List.splitOn_append_cons_self, List.filter_append]
  rfl

/-- Between two separators there is no part. -/
theorem parts_pair {x y : List α}
    : parts sep (x ++ sep :: sep :: y) = parts sep x ++ parts sep y := by
  have inner : parts sep (sep :: y) = parts sep y := parts_append (x := [])
  rw [parts_append, inner]

omit [DecidableEq α] in
/-- A string of fields that are not empty begins with the first field. -/
theorem joined_head {fields : List (List α)}
    (each : ∀ field ∈ fields, field ≠ [] ∧ sep ∉ field)
    : (joined sep fields).head? ≠ some sep := by
  cases fields with
  | nil => simp
  | cons field rest =>
      obtain ⟨nonempty, apart⟩ := each field (by simp)
      obtain ⟨a, field, rfl⟩ := List.exists_cons_of_ne_nil nonempty
      have first : (joined sep ((a :: field) :: rest)).head? = some a := by
        by_cases empty : rest = []
        · simp [empty]
        · simp [joined_cons empty]
      intro starts
      have : a = sep := Option.some.inj (first.symm.trans starts)
      exact apart (this ▸ List.mem_cons_self)

omit [DecidableEq α] in
/-- And it ends with the last one. -/
theorem joined_last {fields : List (List α)}
    (each : ∀ field ∈ fields, field ≠ [] ∧ sep ∉ field)
    : (joined sep fields).getLast? ≠ some sep := by
  induction fields with
  | nil => simp
  | cons field rest ih =>
      by_cases empty : rest = []
      · subst empty
        intro ends
        exact (each field (by simp)).2 (List.mem_of_getLast? (by simpa using ends))
      · have inner := ih fun other hmem => each other (List.mem_cons_of_mem field hmem)
        rw [joined_cons empty]
        have some_last : joined sep rest ≠ [] := by
          obtain ⟨next, rest, rfl⟩ := List.exists_cons_of_ne_nil empty
          intro none
          have := (each next (by simp)).1
          by_cases single : rest = []
          · simp [single] at none
            exact this none
          · rw [joined_cons single] at none
            simp at none
        rw [List.getLast?_append_of_ne_nil _ (List.cons_ne_nil _ _),
          List.getLast?_cons_of_ne_nil some_last]
        exact inner

omit [DecidableEq α] in
/-- `(p sep){n}p` matches `n + 1` fields that `p` matches, by induction on `n`. -/
theorem mem_separated {p : RegularExpression α} (n : Nat) {s : List α}
    : s ∈ ((p * .char sep) ^ n * p).matches'
      ↔ ∃ fields, fields.length = n + 1 ∧ (∀ field ∈ fields, field ∈ p.matches')
        ∧ s = joined sep fields := by
  rw [RegularExpression.matches'_mul, RegularExpression.matches'_pow]
  induction n generalizing s with
  | zero =>
      rw [pow_zero, one_mul]
      constructor
      · exact fun hmem => ⟨[s], rfl, by simpa using hmem, by simp⟩
      · rintro ⟨fields, length, each, rfl⟩
        obtain ⟨field, rfl⟩ := List.length_eq_one_iff.mp length
        simpa using each
  | succ n ih =>
      rw [pow_succ', mul_assoc, Language.mem_mul]
      constructor
      · rintro ⟨first, hfirst, rest, hrest, rfl⟩
        obtain ⟨field, hfield, dot, hdot, rfl⟩ := Language.mem_mul.mp hfirst
        obtain ⟨fields, length, each, rfl⟩ := ih.mp hrest
        have nonempty : fields ≠ [] := List.ne_nil_of_length_eq_add_one length
        refine ⟨field :: fields, by simp [length], ?_, ?_⟩
        · rintro other (_ | ⟨_, hmem⟩)
          · exact hfield
          · exact each other hmem
        · rw [joined_cons nonempty, mem_char.mp hdot]
          simp
      · rintro ⟨fields, length, each, rfl⟩
        obtain ⟨field, rest, rfl⟩ := List.exists_cons_of_length_eq_add_one length
        have more : rest.length = n + 1 := by simpa using length
        refine ⟨field ++ [sep], Language.mem_mul.mpr ⟨field, each field (by simp), [sep], rfl, rfl⟩,
          joined sep rest, ih.mpr ⟨rest, more, ?_, rfl⟩, ?_⟩
        · exact fun other hmem => each other (List.mem_cons_of_mem field hmem)
        · rw [joined_cons (List.ne_nil_of_length_eq_add_one more)]
          simp

--------------------------------------------------------------------------------
-- Doubled separators
--------------------------------------------------------------------------------

theorem doubled_append {x y : List α}
    : doubled sep (x ++ y) = doubled sep x + doubled sep y
      + if x.getLast? = some sep ∧ y.head? = some sep then 1 else 0 := by
  induction x with
  | nil => simp [doubled]
  | cons a x ih =>
      rw [List.cons_append, doubled, ih, doubled]
      cases x with
      | nil => simp [doubled]
      | cons b x =>
          rw [List.getLast?_cons_cons, List.cons_append, List.head?_cons, List.head?_cons]
          omega

theorem doubled_pair {y : List α}
    : doubled sep (sep :: sep :: y)
      = doubled sep y + (if y.head? = some sep then 1 else 0) + 1 := by
  simp [doubled]

theorem doubled_of_not_mem {s : List α} (apart : sep ∉ s)
    : doubled sep s = 0 := by
  induction s with
  | nil => rfl
  | cons a s ih =>
      have first : a ≠ sep := fun same => apart (same ▸ List.mem_cons_self)
      rw [doubled, ih fun hmem => apart (List.mem_cons_of_mem a hmem)]
      simp [first]

theorem doubled_joined {fields : List (List α)}
    (each : ∀ field ∈ fields, field ≠ [] ∧ sep ∉ field)
    : doubled sep (joined sep fields) = 0 := by
  induction fields with
  | nil => rfl
  | cons field rest ih =>
      have others : ∀ other ∈ rest, other ≠ [] ∧ sep ∉ other :=
        fun other hmem => each other (List.mem_cons_of_mem field hmem)
      have apart := (each field (by simp)).2
      by_cases empty : rest = []
      · subst empty
        simpa using doubled_of_not_mem apart
      · have ends : field.getLast? ≠ some sep := fun last => apart (List.mem_of_getLast? last)
        rw [joined_cons empty, doubled_append, doubled_of_not_mem apart, doubled, ih others]
        simp [ends, joined_head others]

/-- A doubled separator is found. -/
theorem exists_of_doubled {s : List α} (some : doubled sep s ≠ 0)
    : ∃ x y, s = x ++ sep :: sep :: y := by
  induction s with
  | nil => exact absurd rfl some
  | cons a s ih =>
      by_cases here : a = sep ∧ s.head? = .some sep
      · obtain ⟨rfl, next⟩ := here
        obtain ⟨rest, rfl⟩ := List.head?_eq_some_iff.mp next
        exact ⟨[], rest, rfl⟩
      · rw [doubled, if_neg here] at some
        obtain ⟨x, y, rfl⟩ := ih some
        exact ⟨a :: x, y, rfl⟩

/-- What is left and right of the only doubled separator. -/
theorem around_single_doubled {x y : List α} (once : doubled sep (x ++ sep :: sep :: y) = 1)
    : (doubled sep x = 0 ∧ x.getLast? ≠ some sep) ∧ doubled sep y = 0 ∧ y.head? ≠ some sep := by
  rw [doubled_append, doubled_pair, List.head?_cons] at once
  have left : x.getLast? ≠ some sep := fun ends => by
    rw [if_pos (show x.getLast? = some sep ∧ some sep = some sep from ⟨ends, rfl⟩)] at once
    omega
  have right : y.head? ≠ some sep := fun starts => by
    rw [if_pos starts] at once
    omega
  exact ⟨⟨by omega, left⟩, by omega, right⟩

/-- A string without a doubled separator does not begin with two. -/
theorem head_of_single {s : List α} (single : doubled sep s = 0)
    (next : s.head? = some sep → s.tail.head? = some sep)
    : s.head? ≠ some sep := by
  intro starts
  obtain ⟨rest, rfl⟩ := List.head?_eq_some_iff.mp starts
  rw [doubled, if_pos ⟨rfl, next starts⟩] at single
  omega

/-- And it does not end with two. -/
theorem last_of_single {s : List α} (single : doubled sep s = 0)
    (previous : s.getLast? = some sep → s.dropLast.getLast? = some sep)
    : s.getLast? ≠ some sep := by
  intro ends
  obtain ⟨rest, rfl⟩ := List.getLast?_eq_some_iff.mp ends
  have before : rest.getLast? = some sep := by simpa using previous ends
  rw [doubled_append, if_pos ⟨before, rfl⟩] at single
  omega

/-- An empty field stands at an end or between two separators. -/
theorem edges_of_empty_field {s : List α} (empty : [] ∈ s.splitOn sep)
    : s = [] ∨ s.head? = some sep ∨ s.getLast? = some sep ∨ doubled sep s ≠ 0 := by
  obtain ⟨left, right, fields⟩ := List.append_of_mem empty
  have whole : s = joined sep (left ++ [] :: right) := by
    rw [← fields, joined, List.intercalate_splitOn]
  by_cases first : left = []
  · subst first
    by_cases last : right = []
    · subst last
      exact Or.inl (by simpa using whole)
    · refine Or.inr (Or.inl ?_)
      rw [whole, List.nil_append, joined_cons last]
      rfl
  · rw [joined_append first (List.cons_ne_nil _ _)] at whole
    by_cases last : right = []
    · subst last
      refine Or.inr (Or.inr (Or.inl ?_))
      simp [whole]
    · refine Or.inr (Or.inr (Or.inr ?_))
      rw [whole, joined_cons last, doubled_append, doubled]
      simp

/-- The parts of a string without a separator at an end and without a doubled one give the
string back. -/
theorem joined_parts {s : List α} (first : s.head? ≠ some sep) (last : s.getLast? ≠ some sep)
    (single : doubled sep s = 0)
    : joined sep (parts sep s) = s := by
  by_cases empty : s = []
  · subst empty
    rfl
  · have all : parts sep s = s.splitOn sep := by
      refine List.filter_eq_self.mpr fun field hmem => ?_
      have : field ≠ [] := by
        rintro rfl
        rcases edges_of_empty_field hmem with none | starts | ends | twice
        · exact empty none
        · exact first starts
        · exact last ends
        · exact twice single
      simpa using this
    rw [all, joined, List.intercalate_splitOn]

/-- The characters of a field are characters of the string, and not the separator. -/
theorem mem_of_mem_splitOn {s field : List α} (hmem : field ∈ s.splitOn sep) {a : α}
    (ha : a ∈ field)
    : a ∈ s ∧ a ≠ sep := by
  induction s generalizing field with
  | nil =>
      rw [List.splitOn_nil] at hmem
      rw [List.mem_singleton.mp hmem] at ha
      exact absurd ha List.not_mem_nil
  | cons b s ih =>
      have later {other : List α} (hother : other ∈ s.splitOn sep) (hb : a ∈ other)
          : a ∈ b :: s ∧ a ≠ sep :=
        (ih hother hb).imp_left (List.mem_cons_of_mem b)
      rw [List.splitOn_cons_eq_if_modifyHead] at hmem
      split at hmem
      · rcases List.mem_cons.mp hmem with rfl | hmem
        · exact absurd ha List.not_mem_nil
        · exact later hmem ha
      · next apart =>
          obtain ⟨first, others, split⟩ := List.exists_cons_of_ne_nil (List.splitOn_ne_nil sep s)
          rw [split, List.modifyHead_cons] at hmem
          rcases List.mem_cons.mp hmem with rfl | hmem
          · rcases List.mem_cons.mp ha with rfl | ha
            · exact ⟨List.mem_cons_self, by simpa using apart⟩
            · exact later (split ▸ List.mem_cons_self) ha
          · exact later (split ▸ List.mem_cons_of_mem first hmem) ha

end NexusComms.Strings
