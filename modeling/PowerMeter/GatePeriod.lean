import Mathlib.Data.Nat.Notation
import Mathlib.Tactic.SplitIfs
import PowerMeter.LoopPolicies

/-!
# The period of the report gate

`report_gate_advance` divides its calls by the period `report_gate_init` stored: the counter is the
number of calls modulo the period, and a call fires when that remainder returns to zero.
-/

namespace PowerMeter.ReportGate

/-- The gate after `report_gate_init(period)` and a number of calls of `report_gate_advance`. -/
def afterCalls (period : UInt32) : ℕ → ReportGate
  | 0 => init period
  | calls + 1 => (afterCalls period calls).advance.2

/-- What the call that follows `earlier` other calls returns. -/
def fires (period : UInt32) (earlier : ℕ) : Bool :=
  (afterCalls period earlier).advance.1

theorem advance_disabled (counter : UInt32) :
    (⟨0, counter⟩ : ReportGate).advance = (false, ⟨0, counter⟩) :=
  rfl

theorem advance_period (gate : ReportGate) : gate.advance.2.period = gate.period := by
  simp only [advance]
  split_ifs <;> rfl

theorem period_afterCalls (period : UInt32) (calls : ℕ) :
    (afterCalls period calls).period = period := by
  induction calls with
  | zero => rfl
  | succ calls induction => rw [afterCalls, advance_period, induction]

theorem afterCalls_disabled (calls : ℕ) : afterCalls 0 calls = init 0 := by
  induction calls with
  | zero => rfl
  | succ calls induction => rw [afterCalls, induction, init, advance_disabled]

/-- One call moves the counter to the next remainder, and fires when that is zero. -/
theorem advance_modulo (gate : ReportGate) (calls : ℕ) (enabled : 0 < gate.period.toNat)
    (remainder : gate.counter.toNat = calls % gate.period.toNat) :
    gate.advance.2.counter.toNat = (calls + 1) % gate.period.toNat ∧
      (gate.advance.1 = true ↔ gate.period.toNat ∣ calls + 1) := by
  have below : gate.counter.toNat < gate.period.toNat := remainder ▸ Nat.mod_lt calls enabled
  have next : (calls + 1) % gate.period.toNat =
      (gate.counter.toNat + 1) % gate.period.toNat := by
    rw [remainder, Nat.mod_add_mod]
  rw [Nat.dvd_iff_mod_eq_zero, next]
  rcases Nat.lt_or_eq_of_le (show gate.counter.toNat + 1 ≤ gate.period.toNat from below) with
    early | due
  · obtain ⟨counts, counted⟩ := advance_counts early
    rw [counts, Nat.mod_eq_of_lt early]
    exact ⟨counted, by simp⟩
  · rw [advance_fires below (Nat.le_of_eq due.symm), due, Nat.mod_self]
    exact ⟨UInt32.toNat_zero, by simp⟩

/-- The counter holds the number of calls modulo the period. -/
theorem counter_afterCalls {period : UInt32} (enabled : 0 < period.toNat) (calls : ℕ) :
    (afterCalls period calls).counter.toNat = calls % period.toNat := by
  induction calls with
  | zero => exact (Nat.zero_mod _).symm
  | succ calls induction =>
      have unchanged := period_afterCalls period calls
      have moved := advance_modulo (afterCalls period calls) calls
        (by rwa [unchanged]) (by rwa [unchanged])
      rw [unchanged] at moved
      exact moved.1

/-- A call fires when the number of calls made so far, itself included, is a multiple of the
period. -/
theorem fires_iff {period : UInt32} (enabled : 0 < period.toNat) (earlier : ℕ) :
    fires period earlier = true ↔ period.toNat ∣ earlier + 1 := by
  have unchanged := period_afterCalls period earlier
  have remainder := counter_afterCalls enabled earlier
  have moved := advance_modulo (afterCalls period earlier) earlier
    (by rwa [unchanged]) (by rwa [unchanged])
  rw [unchanged] at moved
  exact moved.2

/-- Of the first `calls` calls one fires for every full period. -/
theorem countP_fires {period : UInt32} (enabled : 0 < period.toNat) (calls : ℕ) :
    (List.range calls).countP (fires period) = calls / period.toNat := by
  induction calls with
  | zero => simp
  | succ calls induction =>
      rw [List.range_succ, List.countP_append, induction, Nat.succ_div, List.countP_singleton]
      simp only [fires_iff enabled]

private theorem not_dvd_between {period first between : ℕ} (multiple : period ∣ first)
    (after : first < between) (before : between < first + period) : ¬ period ∣ between := by
  intro also
  have apart : period ∣ between - first := Nat.dvd_sub also multiple
  have le := Nat.le_of_dvd (by omega) apart
  omega

/-- `report_gate` fires on the multiples of its period and nowhere else: `calls / period` times
in any number of calls, at distance `period`, with a counter that never reaches the period. -/
theorem fires_on_multiples (period : UInt32) :
    (0 < period.toNat →
      (∀ earlier, fires period earlier = true ↔ period.toNat ∣ earlier + 1) ∧
      (∀ calls, (List.range calls).countP (fires period) = calls / period.toNat) ∧
      (∀ earlier, fires period earlier = true →
        fires period (earlier + period.toNat) = true ∧
          ∀ between, earlier < between → between < earlier + period.toNat →
            fires period between = false) ∧
      ∀ calls, (afterCalls period calls).counter < period ∧
        ((afterCalls period calls).counter + 1).toNat =
          (afterCalls period calls).counter.toNat + 1) ∧
    (period = 0 → ∀ calls, fires period calls = false ∧ afterCalls period calls = init period) := by
  refine ⟨fun enabled => ⟨fires_iff enabled, countP_fires enabled, ?_, ?_⟩, ?_⟩
  · intro earlier fired
    rw [fires_iff enabled] at fired
    constructor
    · rw [fires_iff enabled, Nat.add_right_comm]
      exact Nat.dvd_add fired (Nat.dvd_refl _)
    · intro between after before
      rw [← Bool.not_eq_true, fires_iff enabled]
      exact not_dvd_between fired (by omega) (by omega)
  · intro calls
    have below : (afterCalls period calls).counter.toNat < period.toNat := by
      rw [counter_afterCalls enabled]
      exact Nat.mod_lt calls enabled
    refine ⟨UInt32.lt_iff_toNat_lt.mpr below, ?_⟩
    have fits := period.toNat_lt
    rw [UInt32.toNat_add, UInt32.toNat_one]
    omega
  · rintro rfl calls
    rw [fires, afterCalls_disabled]
    exact ⟨rfl, rfl⟩

/-- Period four over twelve calls, as in the repository's drift test, and the longest period. -/
theorem fires_on_multiples_four_and_longest :
    (fires 4 3 = true ∧ (List.range 12).countP (fires 4) = 3) ∧
      ∀ calls, (afterCalls 0xFFFFFFFF calls).counter < 0xFFFFFFFF := by
  have four := (fires_on_multiples 4).1 (by decide)
  have longest := (fires_on_multiples 0xFFFFFFFF).1 (by decide)
  exact ⟨⟨(four.1 3).mpr (Nat.dvd_refl 4), four.2.1 12⟩, fun calls => (longest.2.2.2 calls).1⟩

end PowerMeter.ReportGate
