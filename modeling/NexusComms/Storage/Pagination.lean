import Mathlib.Data.List.Sort

/-! Reading the rows of a query page by page, with `LIMIT` and `OFFSET`. Each page is a query of
its own, and rows with equal keys may come in another order each time.
-/

namespace NexusComms.Storage

variable {α β : Type} [LinearOrder β] {key : α → β} {rows ordered : List α}

/-- What `ORDER BY key DESC` may answer: the rows, the larger keys first. -/
structure OrderedBy (key : α → β) (rows ordered : List α) : Prop where
  perm : ordered.Perm rows
  descending : ordered.Pairwise (fun first second => key second ≤ key first)

/-- `LIMIT size OFFSET query * size`. -/
def page (size : Nat) (answers : Nat → List α) (query : Nat) : List α :=
  ((answers query).drop (query * size)).take size

/-- The pages from a query on until one is empty, for so many queries at most. -/
def readPages (fetch : Nat → List α) : (queries query : Nat) → List α
  | 0, _ => []
  | queries + 1, query =>
      if (fetch query).isEmpty then
        []
      else
        fetch query ++ readPages fetch queries (query + 1)

/-- A page that is not empty is followed by the later pages. -/
theorem readPages_succ {queries query : Nat} {fetch : Nat → List α} (filled : fetch query ≠ [])
    : readPages fetch (queries + 1) query
      = fetch query ++ readPages fetch queries (query + 1) := by
  rw [readPages, if_neg (by simpa using filled)]

/-- The page after the last row is empty. -/
theorem page_empty {size : Nat} {answers : Nat → List α} (positive : 1 ≤ size)
    (answered : ∀ query, OrderedBy key rows (answers query))
    : page size answers rows.length = [] := by
  rw [page, List.drop_eq_nil_of_le, List.take_nil]
  rw [(answered rows.length).perm.length_eq]
  exact Nat.le_mul_of_pos_right _ positive

/-- When every query gets the same answer, the pages are the answer from the first of them on,
if there are queries enough. By induction on their number. -/
theorem readPages_same {size queries query : Nat} {answers : Nat → List α} (positive : 1 ≤ size)
    (same : ∀ query, answers query = ordered)
    (enough : ordered.length - query * size < queries)
    : readPages (page size answers) queries query = ordered.drop (query * size) := by
  induction queries generalizing query with
  | zero => exact absurd enough (Nat.not_lt_zero _)
  | succ queries ih =>
      by_cases last : ordered.length ≤ query * size
      · have empty : ordered.drop (query * size) = [] := List.drop_eq_nil_iff.mpr last
        simp [readPages, page, same, empty]
      · have next : (query + 1) * size = query * size + size := Nat.succ_mul query size
        have filled : page size answers query ≠ [] := by
          rw [page, same, Ne, List.take_eq_nil_iff, List.drop_eq_nil_iff]
          omega
        rw [readPages_succ filled, ih (by omega), page, same, next, ← List.drop_drop,
          List.take_append_drop]

/-- Rows with different keys have one order. -/
theorem OrderedBy.unique {other : List α} (distinct : (rows.map key).Nodup)
    (left : OrderedBy key rows ordered) (right : OrderedBy key rows other)
    : ordered = other := by
  refine (left.perm.trans right.perm.symm).eq_of_pairwise ?_ left.descending right.descending
  intro first second inLeft inRight below above
  have inRows : first ∈ rows := left.perm.mem_iff.mp inLeft
  have inRows' : second ∈ rows := right.perm.mem_iff.mp inRight
  exact List.inj_on_of_nodup_map distinct inRows inRows' (le_antisymm above below)

/-- If the keys are different, the pages of any size give the rows in their order. -/
theorem readPages_eq {size queries : Nat} {answers : Nat → List α} (positive : 1 ≤ size)
    (distinct : (rows.map key).Nodup) (answered : ∀ query, OrderedBy key rows (answers query))
    (enough : rows.length < queries)
    : readPages (page size answers) queries 0 = answers 0 := by
  have same : ∀ query, answers query = answers 0 :=
    fun query => (answered query).unique distinct (answered 0)
  have length : (answers 0).length = rows.length := (answered 0).perm.length_eq
  rw [readPages_same positive same (by omega), Nat.zero_mul, List.drop_zero]

/-- The pages from a later query on end all the pages, as long as no page is empty before. By
induction on how much later the query is. -/
theorem readPages_suffix {size : Nat} {answers : Nat → List α} (later queries query : Nat)
    (enough : later ≤ queries)
    (filled : ∀ earlier < later, page size answers (query + earlier) ≠ [])
    : readPages (page size answers) (queries - later) (query + later)
      <:+ readPages (page size answers) queries query := by
  induction later generalizing queries query with
  | zero => exact List.suffix_refl _
  | succ later ih =>
      obtain ⟨fewer, rfl⟩ : ∃ fewer, queries = fewer + 1 := ⟨queries - 1, by omega⟩
      have first : page size answers query ≠ [] := filled 0 (Nat.succ_pos later)
      have rest := ih fewer (query + 1) (by omega) fun earlier before => by
        rw [Nat.add_assoc, Nat.add_comm 1 earlier]
        exact filled (earlier + 1) (by omega)
      rw [readPages_succ first, Nat.add_sub_add_right, Nat.add_comm later 1, ← Nat.add_assoc]
      exact rest.trans (List.suffix_append _ _)

/-- Among rows in the order of their keys, two with equal keys stand next to each other. -/
theorem adjacent_of_ties
    (descending : ordered.Pairwise (fun first second => key second ≤ key first))
    (ties : ¬ (ordered.map key).Nodup)
    : ∃ front first second back,
        ordered = front ++ first :: second :: back ∧ key first = key second := by
  induction ordered with
  | nil => exact absurd List.nodup_nil ties
  | cons first rest ih =>
      obtain ⟨above, descending⟩ := List.pairwise_cons.mp descending
      rw [List.map_cons, List.nodup_cons, not_and_or, not_not] at ties
      rcases ties with repeated | ties
      · obtain ⟨equal, inRest, same⟩ := List.mem_map.mp repeated
        cases rest with
        | nil => cases inRest
        | cons second back =>
            have below : key equal ≤ key second := by
              rcases List.mem_cons.mp inRest with rfl | inBack
              · exact le_refl _
              · exact (List.pairwise_cons.mp descending).1 equal inBack
            refine ⟨[], first, second, back, rfl, le_antisymm (same ▸ below) ?_⟩
            exact above second List.mem_cons_self
      · obtain ⟨front, one, other, back, split, same⟩ := ih descending ties
        exact ⟨first :: front, one, other, back, by rw [split]; rfl, same⟩

/-- Two neighbours with equal keys may change places. -/
theorem OrderedBy.swap {front back : List α} {first second : α} (same : key first = key second)
    (ordered : OrderedBy key rows (front ++ first :: second :: back))
    : OrderedBy key rows (front ++ second :: first :: back) where
  perm :=
    (List.Perm.append_left front (List.Perm.swap first second back)).trans ordered.perm
  descending := by
    have before := ordered.descending
    rw [List.pairwise_append] at before ⊢
    obtain ⟨inFront, behind, between⟩ := before
    simp only [List.pairwise_cons, List.mem_cons, forall_eq_or_imp] at behind between ⊢
    obtain ⟨⟨_, firstBack⟩, secondBack, inBack⟩ := behind
    refine ⟨inFront, ⟨⟨same.le, secondBack⟩, firstBack, inBack⟩, fun row inHere => ?_⟩
    obtain ⟨toFirst, toSecond, toBack⟩ := between row inHere
    exact ⟨toSecond, toFirst, toBack⟩

/-- Some order exists. -/
theorem exists_ordered (key : α → β) (rows : List α)
    : ∃ ordered, OrderedBy key rows ordered := by
  refine ⟨rows.mergeSort (fun first second => decide (key second ≤ key first)),
    List.mergeSort_perm _ _, ?_⟩
  refine (List.pairwise_mergeSort ?_ ?_ rows).imp of_decide_eq_true
  · intro first second third above below
    exact decide_eq_true ((of_decide_eq_true below).trans (of_decide_eq_true above))
  · intro first second
    rw [Bool.or_eq_true, decide_eq_true_eq, decide_eq_true_eq]
    exact (le_total (key second) (key first))

/-- Answers to one query may come from sorting whatever rows there are. -/
theorem exists_orders {answers : Nat → List α}
    (answered : ∀ query, OrderedBy key rows (answers query))
    : ∃ orders : Nat → List α → List α,
        (∀ query others, OrderedBy key others (orders query others))
        ∧ ∀ query, orders query rows = answers query := by
  classical
  choose sort sorted using exists_ordered key
  refine ⟨fun query others => if others = rows then answers query else sort others, ?_, ?_⟩
  · intro query others
    dsimp only
    split
    · next same => exact same ▸ answered query
    · exact sorted others
  · exact fun query => if_pos rfl

/-- Whatever the orders of rows with equal keys, the pages of every size list no row twice,
exactly if the keys of the rows are different. -/
theorem readPages_nodup_iff
    : (∀ size queries answers,
          1 ≤ size → rows.length < queries → (∀ query, OrderedBy key rows (answers query)) →
            (readPages (page size answers) queries 0).Nodup)
      ↔ (rows.map key).Nodup := by
  constructor
  · intro once
    by_contra ties
    obtain ⟨ordered, sorted⟩ := exists_ordered key rows
    have ties' : ¬ (ordered.map key).Nodup := by
      rwa [(sorted.perm.map key).nodup_iff]
    obtain ⟨front, first, second, back, rfl, same⟩ :=
      adjacent_of_ties sorted.descending ties'
    -- With one row a page, the first of the two comes again on the page after its own.
    let answers : Nat → List α := fun query =>
      if query = front.length + 1 then
        front ++ second :: first :: back
      else
        front ++ first :: second :: back
    have answered : ∀ query, OrderedBy key rows (answers query) := by
      intro query
      dsimp only [answers]
      split
      · exact sorted.swap same
      · exact sorted
    have length : ∀ query, (answers query).length = front.length + (back.length + 2) := by
      intro query
      rw [(answered query).perm.length_eq, ← sorted.perm.length_eq]
      simp
    have filled : ∀ query < front.length, page 1 answers (0 + query) ≠ [] := by
      intro query before
      rw [page, Ne, List.take_eq_nil_iff, List.drop_eq_nil_iff, length]
      omega
    have here : page 1 answers front.length = [first] := by simp [page, answers]
    have again : page 1 answers (front.length + 1) = [first] := by
      have past : front.drop (front.length + 1) = [] := List.drop_eq_nil_of_le (by omega)
      simp [page, answers, List.drop_append, past]
    have suffix :=
      readPages_suffix front.length (front.length + 2 + rows.length) 0 (by omega) filled
    rw [Nat.zero_add, show front.length + 2 + rows.length - front.length = rows.length + 1 + 1 by
      omega, readPages_succ (by rw [here]; simp), readPages_succ (by rw [again]; simp), here,
      again] at suffix
    have twice := (once 1 _ answers le_rfl (by omega) answered).sublist suffix.sublist
    simp at twice
  · intro distinct size queries answers positive enough answered
    rw [readPages_eq positive distinct answered enough]
    exact (answered 0).perm.nodup_iff.mpr (distinct.of_map key)

end NexusComms.Storage
