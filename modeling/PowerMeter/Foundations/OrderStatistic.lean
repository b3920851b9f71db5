import Mathlib.Data.List.Sort
import Mathlib.Order.UpperLower.Basic

/-!
# Order statistics

The entry at an index of a sorted list lies in a lower set exactly when more entries than the index
do. So the upper median lies in a lower set exactly when more than half of the values do, however
large the other values are.
-/

namespace OrderStatistic

variable {α : Type*} [LinearOrder α]

/-- More than half of the values satisfy the predicate. -/
def Most (predicate : α → Prop) [DecidablePred predicate] (values : List α) : Prop :=
  values.length < 2 * values.countP predicate

/-- The entry at half the length of the sorted list. -/
def upperMedian (values : List α) : Option α :=
  (values.insertionSort (· ≤ ·))[values.length / 2]?

variable {lower : α → Prop} [DecidablePred lower]

theorem getElem_iff_lt_countP (closed : IsLowerSet {value | lower value}) {sorted : List α}
    (ascending : sorted.Pairwise (· ≤ ·)) {index : ℕ} (bound : index < sorted.length) :
    lower sorted[index] ↔ index < sorted.countP lower := by
  induction sorted generalizing index with
  | nil => simp at bound
  | cons value sorted induction =>
      obtain ⟨least, ascending⟩ := List.pairwise_cons.mp ascending
      by_cases low : lower value
      · have counted : (value :: sorted).countP lower = sorted.countP lower + 1 :=
          List.countP_cons_of_pos (decide_eq_true low)
        rw [counted]
        cases index with
        | zero => exact ⟨fun _ => Nat.succ_pos _, fun _ => low⟩
        | succ index =>
            rw [List.getElem_cons_succ, induction ascending]
            exact Nat.succ_lt_succ_iff.symm
      · have none_low : ∀ other ∈ value :: sorted, ¬ lower other := by
          intro other member below
          rcases List.mem_cons.mp member with rfl | later
          · exact low below
          · exact low (closed (least other later) below)
        have uncounted : (value :: sorted).countP lower = 0 := by
          rw [List.countP_eq_zero]
          intro other member
          exact mt of_decide_eq_true (none_low other member)
        rw [uncounted]
        exact ⟨fun below => absurd below (none_low _ (List.getElem_mem bound)),
          fun below => absurd below (Nat.not_lt_zero index)⟩

theorem upperMedian_eq_none {values : List α} : upperMedian values = none ↔ values = [] := by
  rw [upperMedian, List.getElem?_eq_none_iff, List.length_insertionSort]
  constructor
  · intro short
    apply List.length_eq_zero_iff.mp
    omega
  · rintro rfl
    exact Nat.zero_le _

/-- The upper median is low exactly when most of the values are. -/
theorem upperMedian_low_iff (closed : IsLowerSet {value | lower value}) {values : List α}
    {median : α} (is_median : upperMedian values = some median) :
    lower median ↔ Most lower values := by
  obtain ⟨bound, rfl⟩ := List.getElem?_eq_some_iff.mp is_median
  have ascending := List.pairwise_insertionSort (· ≤ ·) values
  have counted := (List.perm_insertionSort (· ≤ ·) values).countP_eq lower
  rw [getElem_iff_lt_countP closed ascending bound, counted, Most]
  omega

end OrderStatistic
