import PowerMeter.PulseAccumulator
import Mathlib.Data.Nat.Bitwise

/-!
# The 48-bit summation attribute

`metering_scale.c` formats the pulse total for the `CurrentSummationDelivered` attribute, a 48-bit
unsigned integer carried as a 32-bit low half and a 16-bit high half. Totals past the ceiling
saturate there.
-/

namespace PowerMeter

/-- `METERING_SUMMATION_U48_MAX`, the largest 48-bit unsigned integer. -/
def meteringSummationU48Max : UInt64 := 0xFFFFFFFFFFFF

/-- `struct metering_u48`. -/
structure MeteringU48 where
  /-- Low 32 bits. -/
  low : UInt32
  /-- High 16 bits. -/
  high : UInt16
  deriving DecidableEq

namespace MeteringU48

/-- The 48-bit number the two halves carry on the wire. -/
def value (summation : MeteringU48) : ℕ :=
  summation.high.toNat * 2 ^ 32 + summation.low.toNat

theorem value_lt (summation : MeteringU48) : summation.value < 2 ^ 48 := by
  have high_lt := summation.high.toNat_lt
  have low_lt := summation.low.toNat_lt
  rw [value]
  omega

end MeteringU48

/-- `metering_scale_to_u48`. -/
def meteringScaleToU48 (pulseTotal : UInt64) : MeteringU48 :=
  let pulseTotal :=
    if pulseTotal > meteringSummationU48Max then meteringSummationU48Max else pulseTotal
  { low := (pulseTotal &&& 0xFFFFFFFF).toUInt32
    high := ((pulseTotal >>> 32) &&& 0xFFFF).toUInt16 }

private theorem value_split (total : UInt64) :
    MeteringU48.value ⟨(total &&& 0xFFFFFFFF).toUInt32, ((total >>> 32) &&& 0xFFFF).toUInt16⟩ =
      total.toNat % 2 ^ 48 := by
  have low_mask : total.toNat &&& 0xFFFFFFFF = total.toNat % 2 ^ 32 :=
    Nat.and_two_pow_sub_one_eq_mod total.toNat 32
  have high_mask : total.toNat / 2 ^ 32 &&& 0xFFFF = total.toNat / 2 ^ 32 % 2 ^ 16 :=
    Nat.and_two_pow_sub_one_eq_mod (total.toNat / 2 ^ 32) 16
  simp only [MeteringU48.value, UInt64.toNat_toUInt32, UInt64.toNat_toUInt16, UInt64.toNat_and,
    UInt64.toNat_shiftRight]
  simp only [UInt64.reduceToNat, Nat.reduceMod, Nat.shiftRight_eq_div_pow]
  rw [low_mask, high_mask]
  omega

/-- The attribute carries the total, saturated at the 48-bit ceiling. -/
theorem value_meteringScaleToU48 (total : UInt64) :
    (meteringScaleToU48 total).value = min total.toNat (2 ^ 48 - 1) := by
  have ceiling : meteringSummationU48Max.toNat = 2 ^ 48 - 1 := by decide
  rw [meteringScaleToU48, value_split]
  split
  next above =>
    rw [gt_iff_lt, UInt64.lt_iff_toNat_lt] at above
    omega
  next below =>
    rw [gt_iff_lt, UInt64.lt_iff_toNat_lt] at below
    omega

theorem meteringScaleToU48_mono {smaller larger : UInt64} (ordered : smaller ≤ larger) :
    (meteringScaleToU48 smaller).value ≤ (meteringScaleToU48 larger).value := by
  rw [UInt64.le_iff_toNat_le] at ordered
  rw [value_meteringScaleToU48, value_meteringScaleToU48]
  omega

/-- Below the ceiling the attribute value determines the total. -/
theorem meteringScaleToU48_injective {left right : UInt64}
    (same : (meteringScaleToU48 left).value = (meteringScaleToU48 right).value)
    (below : (meteringScaleToU48 left).value < 2 ^ 48 - 1) : left = right := by
  rw [value_meteringScaleToU48] at same below
  rw [value_meteringScaleToU48] at same
  rw [← UInt64.toNat_inj]
  omega

namespace PulseAccumulator

/-- The attribute value published after restoring `saved` and sampling `events`. -/
def wireValue (saved : UInt64) (events : List ℕ) : ℕ :=
  (meteringScaleToU48 (afterEvents saved events).total).value

private theorem take_fits {saved : UInt64} {events : List ℕ}
    (chain : (0 :: events).IsChain (WrapCounter.Advances (2 ^ 32)))
    (fits : saved.toNat + events.getLastD 0 < 2 ^ 64) (samples : ℕ) :
    (0 :: events.take samples).IsChain (WrapCounter.Advances (2 ^ 32)) ∧
      saved.toNat + (events.take samples).getLastD 0 < 2 ^ 64 := by
  have prefix_le := WrapCounter.getLast_take_le chain (le_max_left samples events.length)
  rw [List.take_of_length_le (le_max_right samples events.length)] at prefix_le
  exact ⟨chain.take (samples + 1), by omega⟩

/-- Between the hardware counter and the wire nothing is lost: after every sample the total is the
restored total plus the true event count, the wire value is that total saturated, and the wire
values never decrease and are injective below the ceiling. -/
theorem counter_to_wire {saved : UInt64} {events : List ℕ}
    (chain : (0 :: events).IsChain (WrapCounter.Advances (2 ^ 32)))
    (fits : saved.toNat + events.getLastD 0 < 2 ^ 64) :
    (∀ samples, (afterEvents saved (events.take samples)).total.toNat =
        saved.toNat + (events.take samples).getLastD 0) ∧
      (∀ samples, wireValue saved (events.take samples) =
        min (saved.toNat + (events.take samples).getLastD 0) (2 ^ 48 - 1)) ∧
      (∀ shorter longer, shorter ≤ longer →
        wireValue saved (events.take shorter) ≤ wireValue saved (events.take longer)) ∧
      (∀ left right, wireValue saved (events.take left) = wireValue saved (events.take right) →
        wireValue saved (events.take left) < 2 ^ 48 - 1 →
        saved.toNat + (events.take left).getLastD 0 =
          saved.toNat + (events.take right).getLastD 0) := by
  have exact_total : ∀ samples, (afterEvents saved (events.take samples)).total.toNat =
      saved.toNat + (events.take samples).getLastD 0 := fun samples =>
    toNat_total_afterEvents (take_fits chain fits samples).1 (take_fits chain fits samples).2
  have exact_wire : ∀ samples, wireValue saved (events.take samples) =
      min (saved.toNat + (events.take samples).getLastD 0) (2 ^ 48 - 1) := by
    intro samples
    rw [wireValue, value_meteringScaleToU48, exact_total]
  refine ⟨exact_total, exact_wire, ?_, ?_⟩
  · intro shorter longer ordered
    have later := WrapCounter.getLast_take_le chain ordered
    rw [exact_wire, exact_wire]
    omega
  · intro left right same below
    have same_total := meteringScaleToU48_injective same below
    rw [← exact_total left, ← exact_total right, same_total]

/-- A run past two wraps of the hardware counter. -/
theorem counter_to_wire_twoWraps :
    (afterEvents 7 [4294967295, 8589934590, 8589934600]).total.toNat = 7 + 8589934600 ∧
      wireValue 7 [4294967295, 8589934590, 8589934600] = 8589934607 := by
  have wired := @counter_to_wire 7 [4294967295, 8589934590, 8589934600] (by decide) (by decide)
  exact ⟨by simpa using wired.1 3, by simpa using wired.2.1 3⟩

end PulseAccumulator

end PowerMeter
