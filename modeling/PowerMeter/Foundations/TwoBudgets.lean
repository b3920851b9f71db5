import Mathlib.Data.List.Chain
import Mathlib.Algebra.Order.Group.Unbundled.Int
import Mathlib.Tactic.Linarith

/-!
# Events paid from two budgets

Along a list of events a quantity and a clock never go back, and every event after the first is
paid for by a rise of the quantity or by the passing of time. The number of events is then bounded
by what the two budgets can pay for.
-/

namespace TwoBudgets

variable {Event : Type*} (quantity : Event → ℕ) (clock : Event → ℤ) (amount : ℕ) (interval : ℤ)

/-- The later event is paid for by a rise of one budget since the earlier one. -/
structure Paid (earlier later : Event) : Prop where
  quantity_le : quantity earlier ≤ quantity later
  clock_le : clock earlier ≤ clock later
  price : quantity earlier + amount ≤ quantity later ∨ clock earlier + interval ≤ clock later

variable {quantity clock amount interval}

/-- Every event after the first is charged to one of the budgets. -/
theorem charges {first last : Event} {events : List Event}
    (chain : (first :: events).IsChain (Paid quantity clock amount interval))
    (last_eq : (first :: events).getLast? = some last) :
    ∃ byQuantity byClock : ℕ, events.length = byQuantity + byClock ∧
      quantity first + byQuantity * amount ≤ quantity last ∧
      clock first + byClock * interval ≤ clock last := by
  induction events generalizing first with
  | nil =>
      obtain rfl : first = last := by simpa using last_eq
      exact ⟨0, 0, by simp⟩
  | cons second events induction =>
      obtain ⟨paid, rest⟩ := List.isChain_cons_cons.mp chain
      rw [List.getLast?_cons_cons] at last_eq
      obtain ⟨byQuantity, byClock, length_eq, quantity_le, clock_le⟩ := induction rest last_eq
      rcases paid.price with rise | wait
      · refine ⟨byQuantity + 1, byClock, ?_, ?_, ?_⟩
        · rw [List.length_cons, length_eq]
          omega
        · linarith
        · linarith [paid.clock_le]
      · refine ⟨byQuantity, byClock + 1, ?_, ?_, ?_⟩
        · rw [List.length_cons, length_eq]
          omega
        · linarith [paid.quantity_le]
        · push_cast
          linarith

/-- There are at most as many events as the two budgets pay for, and the first. -/
theorem length_le {first last : Event} {events : List Event}
    (chain : events.IsChain (Paid quantity clock amount interval))
    (first_eq : events.head? = some first) (last_eq : events.getLast? = some last)
    (amount_pos : 0 < amount) (interval_pos : 0 < interval) :
    events.length ≤ 1 + (quantity last - quantity first) / amount +
      ((clock last - clock first) / interval).toNat := by
  cases events with
  | nil => simp at first_eq
  | cons head events =>
      obtain rfl : head = first := by simpa using first_eq
      obtain ⟨byQuantity, byClock, length_eq, quantity_le, clock_le⟩ := charges chain last_eq
      have byQuantity_le : byQuantity ≤ (quantity last - quantity head) / amount := by
        rw [Nat.le_div_iff_mul_le amount_pos]
        omega
      have byClock_le : (byClock : ℤ) ≤ (clock last - clock head) / interval := by
        rw [Int.le_ediv_iff_mul_le interval_pos]
        linarith
      rw [List.length_cons, length_eq]
      omega

end TwoBudgets
