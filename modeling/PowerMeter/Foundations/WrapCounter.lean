import Mathlib.Data.List.Chain
import Mathlib.Data.Nat.ModEq
import Mathlib.Tactic.Ring

/-!
# Wrapping counters

A counter of modulus `M` shows its true count only modulo `M`. The forward distance between two
readings recovers how far the count advanced, up to whole turns; readings taken less than one turn
apart therefore recover the true count however often the counter wrapped.
-/

namespace WrapCounter

/-- Forward distance from one reading to the next on a counter of modulus `modulus`. -/
def distance (modulus previous current : ℕ) : ℕ :=
  (modulus - previous + current) % modulus

/-- The distance to a reading `advance` counts later is `advance`, up to whole turns. -/
theorem distance_add_mod {modulus previous : ℕ} (previous_lt : previous < modulus)
    (advance : ℕ) :
    distance modulus previous ((previous + advance) % modulus) = advance % modulus := by
  have turned : modulus - previous + (previous + advance) = advance + modulus := by omega
  rw [distance, Nat.add_mod, Nat.mod_mod, ← Nat.add_mod, turned, Nat.add_mod_right]

/-- Two readings less than one turn apart recover the number of counts between them. -/
theorem distance_readings {modulus earlier later : ℕ} (ordered : earlier ≤ later)
    (close : later - earlier < modulus) :
    distance modulus (earlier % modulus) (later % modulus) = later - earlier := by
  have modulus_pos : 0 < modulus := by omega
  have later_eq : later % modulus = (earlier % modulus + (later - earlier)) % modulus := by
    rw [Nat.mod_add_mod, Nat.add_sub_cancel' ordered]
  rw [later_eq, distance_add_mod (Nat.mod_lt _ modulus_pos), Nat.mod_eq_of_lt close]

/-- Counts until a counter at `current` next becomes equal to `target`: at least one, and a whole
turn when it is there already. -/
def countsUntil (modulus current target : ℕ) : ℕ :=
  if current < target then target - current else modulus + target - current

theorem countsUntil_pos {modulus current target : ℕ} (current_lt : current < modulus) :
    0 < countsUntil modulus current target := by
  rw [countsUntil]
  split <;> omega

/-- The next count reaches the target exactly when one count is left. -/
theorem countsUntil_eq_one {modulus current target : ℕ} (current_lt : current < modulus)
    (target_lt : target < modulus) :
    countsUntil modulus current target = 1 ↔ (current + 1) % modulus = target := by
  rw [countsUntil]
  rcases Nat.lt_or_ge (current + 1) modulus with inside | last
  · rw [Nat.mod_eq_of_lt inside]
    split <;> omega
  · obtain rfl : modulus = current + 1 := by omega
    rw [Nat.mod_self]
    split <;> omega

/-- Every count before that brings the target one closer. -/
theorem countsUntil_succ {modulus current target : ℕ} (current_lt : current < modulus)
    (target_lt : target < modulus) (differs : (current + 1) % modulus ≠ target) :
    countsUntil modulus current target =
      countsUntil modulus ((current + 1) % modulus) target + 1 := by
  rw [countsUntil, countsUntil]
  rcases Nat.lt_or_ge (current + 1) modulus with inside | last
  · rw [Nat.mod_eq_of_lt inside] at differs ⊢
    split <;> split <;> omega
  · obtain rfl : modulus = current + 1 := by omega
    rw [Nat.mod_self] at differs ⊢
    split <;> split <;> omega

/-- Total of the forward distances along a list of readings. -/
def unwrapped (modulus : ℕ) : ℕ → List ℕ → ℕ
  | _, [] => 0
  | previous, current :: readings =>
      distance modulus previous current + unwrapped modulus current readings

/-- A count that has advanced by less than one turn. -/
def Advances (modulus earlier later : ℕ) : Prop :=
  earlier ≤ later ∧ later - earlier < modulus

instance (modulus earlier later : ℕ) : Decidable (Advances modulus earlier later) :=
  inferInstanceAs (Decidable (_ ∧ _))

/-- A chain of advances never goes back. -/
theorem le_getLast_of_advances {modulus start : ℕ} {counts : List ℕ}
    (chain : (start :: counts).IsChain (Advances modulus)) :
    start ≤ counts.getLastD start := by
  induction counts generalizing start with
  | nil => rfl
  | cons count counts induction =>
      obtain ⟨⟨ordered, _⟩, rest⟩ := List.isChain_cons_cons.mp chain
      rw [List.getLastD_cons]
      exact ordered.trans (induction rest)

/-- Along a chain of advances a longer prefix ends at a count at least as large. -/
theorem getLast_take_le {modulus start : ℕ} {counts : List ℕ}
    (chain : (start :: counts).IsChain (Advances modulus)) {shorter longer : ℕ}
    (ordered : shorter ≤ longer) :
    (counts.take shorter).getLastD start ≤ (counts.take longer).getLastD start := by
  induction counts generalizing start shorter longer with
  | nil => simp
  | cons count counts induction =>
      cases shorter with
      | zero => exact le_getLast_of_advances (chain.take (longer + 1))
      | succ shorter =>
          obtain ⟨longer, rfl⟩ := Nat.exists_eq_add_one_of_ne_zero (by omega : longer ≠ 0)
          simp only [List.take_succ_cons, List.getLastD_cons]
          apply induction (List.isChain_cons_cons.mp chain).2
          omega

/-- Readings taken less than one turn apart recover the whole advance of the true count, however
many times the counter wrapped. -/
theorem unwrapped_readings {modulus start : ℕ} {counts : List ℕ}
    (chain : (start :: counts).IsChain (Advances modulus)) :
    unwrapped modulus (start % modulus) (counts.map (· % modulus)) =
      counts.getLastD start - start := by
  induction counts generalizing start with
  | nil => simp [unwrapped]
  | cons count counts induction =>
      obtain ⟨⟨ordered, close⟩, rest⟩ := List.isChain_cons_cons.mp chain
      have later := le_getLast_of_advances rest
      rw [List.map_cons, unwrapped, distance_readings ordered close, induction rest,
        List.getLastD_cons]
      omega

end WrapCounter
