import NexusComms.Strings.Fields

/-! Addresses as text. The grammar of IPv6 puts eight groups or fewer groups around one "::";
the shape of a string counts its groups and its doubled colons instead.
-/

namespace NexusComms.Audit

open Strings

/-- `[0-9a-fA-F]`. -/
def hexDigits : List Char :=
  digits ++ ['a', 'b', 'c', 'd', 'e', 'f', 'A', 'B', 'C', 'D', 'E', 'F']

/-- One to four hexadecimal digits. -/
structure Group (group : List Char) : Prop where
  nonempty : group ≠ []
  short : group.length ≤ 4
  hex : ∀ c ∈ group, c ∈ hexDigits

/-- An IPv6 address, with `::` for one or more groups of zeros. -/
inductive WellFormedIPv6 : List Char → Prop where
  | full {groups : List (List Char)} (each : ∀ group ∈ groups, Group group)
      (eight : groups.length = 8)
      : WellFormedIPv6 (joined ':' groups)
  | compressed {left right : List (List Char)} (before : ∀ group ∈ left, Group group)
      (after : ∀ group ∈ right, Group group) (fewer : left.length + right.length ≤ 7)
      : WellFormedIPv6 (joined ':' left ++ ':' :: ':' :: joined ':' right)

/-- Up to three decimal digits. -/
structure Octet (octet : List Char) : Prop where
  nonempty : octet ≠ []
  short : octet.length ≤ 3
  decimal : ∀ c ∈ octet, c ∈ digits

/-- How often a string has groups and colons: no group of more than four digits, no single
colon at an end, and eight groups or, with one doubled colon, fewer. -/
structure IPv6Shape (s : List Char) : Prop where
  short : ∀ group ∈ parts ':' s, group.length ≤ 4
  first : s.head? = some ':' → s.tail.head? = some ':'
  last : s.getLast? = some ':' → s.dropLast.getLast? = some ':'
  count : (doubled ':' s = 0 ∧ (parts ':' s).length = 8)
    ∨ (doubled ':' s = 1 ∧ (parts ':' s).length ≤ 7)

instance (s : List Char) : Decidable (IPv6Shape s) :=
  decidable_of_iff
    ((∀ group ∈ parts ':' s, group.length ≤ 4)
      ∧ (s.head? = some ':' → s.tail.head? = some ':')
      ∧ (s.getLast? = some ':' → s.dropLast.getLast? = some ':')
      ∧ ((doubled ':' s = 0 ∧ (parts ':' s).length = 8)
        ∨ (doubled ':' s = 1 ∧ (parts ':' s).length ≤ 7)))
    ⟨fun ⟨short, first, last, count⟩ => ⟨short, first, last, count⟩,
      fun shape => ⟨shape.short, shape.first, shape.last, shape.count⟩⟩

theorem colon_not_hex : ':' ∉ hexDigits := by decide

/-- Groups are fields between colons. -/
theorem Group.field {group : List Char} (each : Group group)
    : group ≠ [] ∧ ':' ∉ group :=
  ⟨each.nonempty, fun colon => colon_not_hex (each.hex ':' colon)⟩

/-- Groups joined by colons have no single colon at an end, and no doubled one. -/
theorem shape_of_full {groups : List (List Char)} (each : ∀ group ∈ groups, Group group)
    (eight : groups.length = 8)
    : IPv6Shape (joined ':' groups) := by
  have fields := fun group hmem => (each group hmem).field
  constructor
  case short =>
    rw [parts_joined fields]
    exact fun group hmem => (each group hmem).short
  case first => exact fun starts => absurd starts (joined_head fields)
  case last => exact fun ends => absurd ends (joined_last fields)
  case count =>
    rw [parts_joined fields]
    exact Or.inl ⟨doubled_joined fields, eight⟩

theorem shape_of_compressed {left right : List (List Char)}
    (before : ∀ group ∈ left, Group group) (after : ∀ group ∈ right, Group group)
    (fewer : left.length + right.length ≤ 7)
    : IPv6Shape (joined ':' left ++ ':' :: ':' :: joined ':' right) := by
  have lefts := fun group hmem => (before group hmem).field
  have rights := fun group hmem => (after group hmem).field
  have groups : parts ':' (joined ':' left ++ ':' :: ':' :: joined ':' right) = left ++ right := by
    rw [parts_pair, parts_joined lefts, parts_joined rights]
  constructor
  case short =>
    rw [groups]
    intro group hmem
    exact (List.mem_append.mp hmem).elim (fun hmem => (before group hmem).short)
      (fun hmem => (after group hmem).short)
  case first =>
    intro starts
    cases hleft : joined ':' left with
    | nil => rfl
    | cons c rest =>
        rw [hleft] at starts
        exact absurd (hleft ▸ starts) (joined_head lefts)
  case last =>
    intro ends
    by_cases empty : joined ':' right = []
    · rw [empty]
      simp
    · rw [List.getLast?_append_of_ne_nil _ (List.cons_ne_nil _ _),
        List.getLast?_cons_of_ne_nil (List.cons_ne_nil _ _),
        List.getLast?_cons_of_ne_nil empty] at ends
      exact absurd ends (joined_last rights)
  case count =>
    refine Or.inr ⟨?_, by rw [groups, List.length_append]; exact fewer⟩
    rw [doubled_append, doubled_joined lefts, doubled_pair, doubled_joined rights]
    simp [joined_head rights, joined_last lefts]

/-- A string of hexadecimal digits and colons has the shape of an address exactly when it is
one. -/
theorem wellFormedIPv6_iff {s : List Char} (chars : ∀ c ∈ s, c ∈ hexDigits ∨ c = ':')
    : WellFormedIPv6 s ↔ IPv6Shape s := by
  constructor
  · intro formed
    cases formed with
    | full each eight => exact shape_of_full each eight
    | compressed before after fewer => exact shape_of_compressed before after fewer
  · intro shape
    have each {x : List Char} (sub : ∀ c ∈ x, c ∈ s)
        (short : ∀ group ∈ parts ':' x, group.length ≤ 4)
        : ∀ group ∈ parts ':' x, Group group := by
      intro group hmem
      obtain ⟨field, nonempty⟩ := List.mem_filter.mp hmem
      refine ⟨by simpa using nonempty, short group hmem, fun c hc => ?_⟩
      obtain ⟨inside, apart⟩ := mem_of_mem_splitOn field hc
      exact (chars c (sub c inside)).resolve_right apart
    rcases shape.count with ⟨single, eight⟩ | ⟨once, fewer⟩
    · have whole := joined_parts (head_of_single single shape.first)
        (last_of_single single shape.last) single
      exact whole ▸ .full (each (fun _ => id) shape.short) eight
    · obtain ⟨x, y, rfl⟩ := exists_of_doubled (s := s) (by rw [once]; decide)
      obtain ⟨⟨singleLeft, lastLeft⟩, singleRight, firstRight⟩ := around_single_doubled once
      have firstLeft : x.head? ≠ some ':' := by
        refine head_of_single singleLeft fun starts => ?_
        obtain ⟨rest, rfl⟩ := List.head?_eq_some_iff.mp starts
        have next := shape.first rfl
        cases rest with
        | nil => exact absurd rfl lastLeft
        | cons c rest => exact next
      have lastRight : y.getLast? ≠ some ':' := by
        refine last_of_single singleRight fun ends => ?_
        obtain ⟨rest, rfl⟩ := List.getLast?_eq_some_iff.mp ends
        have regroup : x ++ ':' :: ':' :: (rest ++ [':']) = (x ++ ':' :: ':' :: rest) ++ [':'] := by
          simp
        have previous := shape.last
        rw [regroup, List.getLast?_concat, List.dropLast_concat] at previous
        have nonempty : rest ≠ [] := by
          rintro rfl
          exact firstRight rfl
        rw [List.dropLast_concat]
        simpa [List.getLast?_append_of_ne_nil, List.getLast?_cons_of_ne_nil, nonempty]
          using previous rfl
      have short := shape.short
      rw [parts_pair] at fewer short
      rw [List.length_append] at fewer
      rw [← joined_parts firstLeft lastLeft singleLeft,
        ← joined_parts firstRight lastRight singleRight]
      exact .compressed
        (each (fun c hc => List.mem_append_left _ hc)
          fun group hmem => short group (List.mem_append_left _ hmem))
        (each (fun c hc => by simp [hc])
          fun group hmem => short group (List.mem_append_right _ hmem))
        fewer

end NexusComms.Audit
