import Mathlib.Data.Nat.Notation
import Mathlib.Tactic.TypeStar

/-!
# Calibration ranges and build-time defaults

`calibration.c` accepts a runtime knob only inside its range. The Kconfig menu constrains the two
build-time defaults to the same ranges, so a configuration carries the proof that they are valid.
-/

namespace PowerMeter

/-- `CALIBRATION_IMP_PER_KWH_MIN`. -/
def calibrationImpPerKwhMin : UInt32 := 100

/-- `CALIBRATION_IMP_PER_KWH_MAX`. -/
def calibrationImpPerKwhMax : UInt32 := 10000

/-- `CALIBRATION_PULSE_MIN_WIDTH_US_MIN`. -/
def calibrationPulseMinWidthUsMin : UInt32 := 100

/-- `CALIBRATION_PULSE_MIN_WIDTH_US_MAX`. -/
def calibrationPulseMinWidthUsMax : UInt32 := 10000

/-- The range test both validators make. -/
def calibrationInRange (least greatest value : UInt32) : Bool :=
  value ≥ least && value ≤ greatest

/-- `calibration_is_valid_imp_per_kwh`. -/
def calibrationIsValidImpPerKwh (impPerKwh : UInt32) : Bool :=
  calibrationInRange calibrationImpPerKwhMin calibrationImpPerKwhMax impPerKwh

/-- `calibration_is_valid_pulse_min_width_us`. -/
def calibrationIsValidPulseMinWidthUs (minWidthUs : UInt32) : Bool :=
  calibrationInRange calibrationPulseMinWidthUsMin calibrationPulseMinWidthUsMax minWidthUs

theorem calibrationInRange_iff {least greatest value : UInt32} :
    calibrationInRange least greatest value = true ↔
      least.toNat ≤ value.toNat ∧ value.toNat ≤ greatest.toNat := by
  simp [calibrationInRange, UInt32.le_iff_toNat_le]

theorem calibrationIsValidImpPerKwh_iff {impPerKwh : UInt32} :
    calibrationIsValidImpPerKwh impPerKwh = true ↔
      100 ≤ impPerKwh.toNat ∧ impPerKwh.toNat ≤ 10000 :=
  calibrationInRange_iff

theorem calibrationIsValidPulseMinWidthUs_iff {minWidthUs : UInt32} :
    calibrationIsValidPulseMinWidthUs minWidthUs = true ↔
      100 ≤ minWidthUs.toNat ∧ minWidthUs.toNat ≤ 10000 :=
  calibrationInRange_iff

/-- The Kconfig values the firmware is built with, inside the ranges `Kconfig` gives them. -/
structure Kconfig where
  /-- `CONFIG_APP_PULSE_MIN_WIDTH_US`. -/
  pulseMinWidthUs : UInt32
  /-- `CONFIG_APP_METERING_DEFAULT_IMP_PER_KWH`. -/
  meteringDefaultImpPerKwh : UInt32
  pulseMinWidthUs_valid : calibrationIsValidPulseMinWidthUs pulseMinWidthUs = true
  meteringDefaultImpPerKwh_valid : calibrationIsValidImpPerKwh meteringDefaultImpPerKwh = true

/-- The defaults of the Kconfig menu. -/
def Kconfig.default : Kconfig where
  pulseMinWidthUs := 1000
  meteringDefaultImpPerKwh := 1000
  pulseMinWidthUs_valid := by decide
  meteringDefaultImpPerKwh_valid := by decide

end PowerMeter
