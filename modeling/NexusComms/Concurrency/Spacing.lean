import Mathlib.Data.List.Basic

/-! Times at which something has happened, newest first. A limiter lets a first burst through,
and from then on keeps a gap between one time and the next: how many fall into a window as
long as the gap.
-/

namespace NexusComms.Concurrency

/-- Times never run backwards, and once there are `limit` of them the next one comes at least
`gap` after the last. -/
def Spaced (limit gap : Nat) : List Nat → Prop
  | [] => True
  | time :: earlier =>
      Spaced limit gap earlier
      ∧ ∀ last ∈ earlier.head?, last ≤ time ∧ (limit ≤ earlier.length → last + gap ≤ time)

/-- The times in the half-open window of length `gap` from `start` on. -/
def within (start gap : Nat) (times : List Nat) : List Nat :=
  times.filter (fun time => start ≤ time ∧ time < start + gap)

namespace Spaced

variable {limit gap start : Nat} {times : List Nat}

/-- The first of the list is the latest, by induction on the list. -/
theorem le_head {time : Nat} (spaced : Spaced limit gap (time :: times))
    : ∀ earlier ∈ times, earlier ≤ time := by
  induction times generalizing time with
  | nil =>
      intro earlier member
      cases member
  | cons last rest ih =>
      have order : last ≤ time := (spaced.2 last rfl).1
      intro earlier member
      rcases List.mem_cons.mp member with rfl | older
      · exact order
      · exact Nat.le_trans (ih spaced.1 earlier older) order

/-- Every window as long as the gap contains at most `limit` times, by induction on the list.
Up to the limit there are no more times altogether, and beyond it the latest time is alone in
its window.
-/
theorem length_within_le (positive : 0 < limit) (spaced : Spaced limit gap times)
    : (within start gap times).length ≤ limit := by
  induction times with
  | nil => exact Nat.zero_le limit
  | cons time earlier ih =>
      by_cases inside : start ≤ time ∧ time < start + gap
      · have split : within start gap (time :: earlier) = time :: within start gap earlier :=
          List.filter_cons_of_pos (decide_eq_true inside)
        rw [split, List.length_cons]
        by_cases few : earlier.length < limit
        · have fewer : (within start gap earlier).length ≤ earlier.length :=
            List.length_filter_le _ _
          omega
        · have alone : within start gap earlier = [] := by
            refine List.filter_eq_nil_iff.mpr (fun old member => ?_)
            cases earlier with
            | nil => cases member
            | cons last rest =>
                have gone : last + gap ≤ time := (spaced.2 last rfl).2 (Nat.le_of_not_lt few)
                have older : old ≤ last := by
                  rcases List.mem_cons.mp member with rfl | older
                  · exact Nat.le_refl old
                  · exact spaced.1.le_head old older
                have outside : ¬ (start ≤ old ∧ old < start + gap) := by omega
                simpa using outside
          rw [alone, List.length_nil]
          exact positive
      · have same : within start gap (time :: earlier) = within start gap earlier :=
          List.filter_cons_of_neg (by simpa using inside)
        rw [same]
        exact ih spaced.1

end Spaced

end NexusComms.Concurrency
