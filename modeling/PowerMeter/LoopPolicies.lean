import Mathlib.Data.Nat.Notation
import Mathlib.Tactic.ByContra

/-!
# Decision helpers of the sample loop

`persist_policy.c` decides when the live total is written to the store, and `report_gate.c` turns
every N-th publish into an explicit report.
-/

namespace PowerMeter

/-- `struct persist_policy`. -/
structure PersistPolicy where
  intervalMs : UInt64
  maxPulseDelta : UInt64

/-- `persist_policy_should_write`. -/
def PersistPolicy.shouldWrite (policy : PersistPolicy)
    (currentTotal lastSavedTotal msSinceLastWrite : UInt64) : Bool :=
  if currentTotal = lastSavedTotal then false
  else if currentTotal > lastSavedTotal &&
      currentTotal - lastSavedTotal ≥ policy.maxPulseDelta then true
  else if msSinceLastWrite ≥ policy.intervalMs then true
  else false

/-- `PERSIST_INTERVAL_MS`. -/
def persistIntervalMs : UInt64 := 5 * 60 * 1000

/-- `PERSIST_MAX_PULSE_DELTA`. -/
def persistMaxPulseDelta : UInt64 := 100

/-- The policy `main` initializes. -/
def persistPolicy : PersistPolicy := ⟨persistIntervalMs, persistMaxPulseDelta⟩

namespace PersistPolicy

theorem shouldWrite_ne {policy : PersistPolicy} {currentTotal lastSavedTotal ms : UInt64}
    (writes : policy.shouldWrite currentTotal lastSavedTotal ms = true) :
    currentTotal ≠ lastSavedTotal := by
  intro same
  simp [shouldWrite, same] at writes

theorem sub_lt_of_not_shouldWrite {policy : PersistPolicy}
    {currentTotal lastSavedTotal ms : UInt64} (delta_pos : 0 < policy.maxPulseDelta.toNat)
    (saved_le : lastSavedTotal.toNat ≤ currentTotal.toNat)
    (keeps : policy.shouldWrite currentTotal lastSavedTotal ms = false) :
    currentTotal.toNat - lastSavedTotal.toNat < policy.maxPulseDelta.toNat := by
  by_contra far
  have above : lastSavedTotal < currentTotal := by
    rw [UInt64.lt_iff_toNat_lt]
    omega
  have reached : policy.maxPulseDelta ≤ currentTotal - lastSavedTotal := by
    rw [UInt64.le_iff_toNat_le, UInt64.toNat_sub_of_le _ _ (UInt64.le_iff_toNat_le.mpr saved_le)]
    omega
  have distinct : currentTotal ≠ lastSavedTotal := by
    rintro rfl
    exact (Nat.lt_irrefl _ (UInt64.lt_iff_toNat_lt.mp above)).elim
  simp [shouldWrite, distinct, above, reached] at keeps

/-- A total that is written is paid for, by pulses or by time. -/
theorem paid_of_shouldWrite {policy : PersistPolicy} {currentTotal lastSavedTotal ms : UInt64}
    (saved_le : lastSavedTotal ≤ currentTotal)
    (writes : policy.shouldWrite currentTotal lastSavedTotal ms = true) :
    lastSavedTotal < currentTotal ∧
      (lastSavedTotal.toNat + policy.maxPulseDelta.toNat ≤ currentTotal.toNat ∨
        policy.intervalMs.toNat ≤ ms.toNat) := by
  have changed := shouldWrite_ne writes
  have rises : lastSavedTotal.toNat < currentTotal.toNat := by
    have le := UInt64.le_iff_toNat_le.mp saved_le
    have ne : currentTotal.toNat ≠ lastSavedTotal.toNat := fun same =>
      changed (UInt64.toNat_inj.mp same)
    omega
  refine ⟨UInt64.lt_iff_toNat_lt.mpr rises, ?_⟩
  by_contra unpaid
  rw [not_or, Nat.not_le, Nat.not_le] at unpaid
  have close : ¬ policy.maxPulseDelta ≤ currentTotal - lastSavedTotal := by
    rw [UInt64.le_iff_toNat_le, UInt64.toNat_sub_of_le _ _ saved_le]
    omega
  have soon : ¬ policy.intervalMs ≤ ms := by
    rw [UInt64.le_iff_toNat_le]
    omega
  simp [shouldWrite, close, soon] at writes

theorem shouldWrite_of_delta {policy : PersistPolicy} {currentTotal lastSavedTotal ms : UInt64}
    (delta_pos : 0 < policy.maxPulseDelta.toNat)
    (far : lastSavedTotal.toNat + policy.maxPulseDelta.toNat ≤ currentTotal.toNat) :
    policy.shouldWrite currentTotal lastSavedTotal ms = true := by
  by_contra keeps
  have close := sub_lt_of_not_shouldWrite delta_pos (Nat.le_of_add_right_le far)
    (Bool.not_eq_true _ ▸ keeps)
  omega

/-- Once the interval has passed, every changed total is written. -/
theorem shouldWrite_of_interval {policy : PersistPolicy}
    {currentTotal lastSavedTotal ms : UInt64} (changed : currentTotal ≠ lastSavedTotal)
    (elapsed : policy.intervalMs ≤ ms) :
    policy.shouldWrite currentTotal lastSavedTotal ms = true := by
  simp [shouldWrite, changed, elapsed]

end PersistPolicy

/-- `struct report_gate`. -/
structure ReportGate where
  period : UInt32
  counter : UInt32
  deriving DecidableEq

namespace ReportGate

/-- `report_gate_init`. -/
def init (period : UInt32) : ReportGate := ⟨period, 0⟩

/-- `report_gate_advance`. -/
def advance (gate : ReportGate) : Bool × ReportGate :=
  if gate.period = 0 then (false, gate)
  else
    let counter := gate.counter + 1
    if counter ≥ gate.period then (true, { gate with counter := 0 })
    else (false, { gate with counter })

theorem advance_fires {gate : ReportGate} (below : gate.counter.toNat < gate.period.toNat)
    (due : gate.period.toNat ≤ gate.counter.toNat + 1) :
    gate.advance = (true, { gate with counter := 0 }) := by
  have enabled : gate.period ≠ 0 := by
    rintro disabled
    rw [disabled] at below
    exact absurd below (Nat.not_lt_zero _)
  have fits := gate.period.toNat_lt
  have reached : gate.counter + 1 ≥ gate.period := by
    rw [ge_iff_le, UInt32.le_iff_toNat_le, UInt32.toNat_add, UInt32.toNat_one]
    omega
  simp [advance, enabled, reached]

theorem advance_counts {gate : ReportGate}
    (early : gate.counter.toNat + 1 < gate.period.toNat) :
    gate.advance = (false, { gate with counter := gate.counter + 1 }) ∧
      (gate.counter + 1).toNat = gate.counter.toNat + 1 := by
  have enabled : gate.period ≠ 0 := by
    rintro disabled
    rw [disabled] at early
    exact absurd early (Nat.not_lt_zero _)
  have fits := gate.period.toNat_lt
  have counted : (gate.counter + 1).toNat = gate.counter.toNat + 1 := by
    rw [UInt32.toNat_add, UInt32.toNat_one]
    omega
  have unreached : ¬ gate.counter + 1 ≥ gate.period := by
    rw [ge_iff_le, UInt32.le_iff_toNat_le, counted]
    omega
  refine ⟨?_, counted⟩
  simp [advance, enabled, unreached]

end ReportGate

/-- `ZIGBEE_REPORT_PULSE_HEARTBEAT`. -/
def zigbeeReportPulseHeartbeat : UInt32 := 100

end PowerMeter
