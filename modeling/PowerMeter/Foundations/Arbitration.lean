import Mathlib.Data.List.MinMax

/-!
# Single-slot arbitration

A slot holds at most one bid. A new bid takes the slot when it is free or when its rank is
strictly smaller than the rank held; otherwise the bid is lost. Without withdrawals the slot is
the leader of all the bids: the earliest among those of smallest rank.
-/

namespace Arbitration

/-- A claim on the slot. -/
structure Bid (Item Rank : Type*) where
  item : Item
  rank : Rank

variable {Item Rank : Type*} [LinearOrder Rank]

/-- The slot after one more bid. -/
def offer (slot : Option (Bid Item Rank)) (bid : Bid Item Rank) : Option (Bid Item Rank) :=
  match slot with
  | none => some bid
  | some held => if bid.rank < held.rank then some bid else some held

/-- The earliest among the bids of smallest rank. -/
def leader (bids : List (Bid Item Rank)) : Option (Bid Item Rank) :=
  bids.argmin Bid.rank

@[simp]
theorem leader_nil : leader ([] : List (Bid Item Rank)) = none := rfl

theorem leader_eq_none {bids : List (Bid Item Rank)} : leader bids = none ↔ bids = [] :=
  List.argmin_eq_none

theorem leader_mem {bids : List (Bid Item Rank)} {best : Bid Item Rank}
    (leads : leader bids = some best) : best ∈ bids :=
  List.argmin_mem leads

/-- Offering one bid after another keeps the slot at their leader. -/
theorem leader_concat (bids : List (Bid Item Rank)) (bid : Bid Item Rank) :
    leader (bids ++ [bid]) = offer (leader bids) bid := by
  rw [leader, List.argmin_concat, ← leader]
  cases leader bids with
  | none => rfl
  | some held => rfl

/-- Every bid before the leader has a larger rank, and none after it has a smaller one. -/
theorem leader_split {bids : List (Bid Item Rank)} {best : Bid Item Rank}
    (leads : leader bids = some best) :
    ∃ before after, bids = before ++ best :: after ∧
      (∀ bid ∈ before, best.rank < bid.rank) ∧ ∀ bid ∈ after, best.rank ≤ bid.rank := by
  induction bids using List.reverseRecOn generalizing best with
  | nil => simp at leads
  | append_singleton bids last induction =>
      rw [leader_concat] at leads
      cases held_eq : leader bids with
      | none =>
          obtain rfl : bids = [] := leader_eq_none.mp held_eq
          obtain rfl : last = best := by simpa [offer] using leads
          exact ⟨[], [], rfl, by simp, by simp⟩
      | some held =>
          obtain ⟨before, after, bids_eq, larger, not_smaller⟩ := induction held_eq
          simp only [held_eq, offer] at leads
          split at leads
          next smaller =>
            obtain rfl := Option.some.inj leads
            refine ⟨bids, [], rfl, ?_, by simp⟩
            intro bid member
            have held_least : ¬ bid.rank < held.rank := List.not_lt_of_mem_argmin member held_eq
            exact smaller.trans_le (not_lt.mp held_least)
          next kept =>
            obtain rfl := Option.some.inj leads
            refine ⟨before, after ++ [last], by simp [bids_eq], larger, ?_⟩
            intro bid member
            rcases List.mem_append.mp member with member | member
            · exact not_smaller bid member
            · obtain rfl := List.mem_singleton.mp member
              exact not_lt.mp kept

end Arbitration
