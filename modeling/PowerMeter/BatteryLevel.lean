import PowerMeter.Foundations.WordArithmetic

/-!
# Battery level

`battery_level.c` maps the cell voltage to a percentage and encodes both for the ZCL Power
Configuration cluster, where `0xFF` means unknown. The functions keep a record of the 32-bit
operations they execute. `battery_sample` reads the ADC, which may fail, and publishes the pair.
-/

namespace PowerMeter

open Guarded

/-- `BATTERY_LEVEL_ZCL_UNKNOWN`. -/
def batteryLevelZclUnknown : UInt8 := 0xFF

/-- `battery_level_percent`. -/
def batteryLevelPercent (mv emptyMv fullMv : UInt16) : Recorded UInt8 := do
  if fullMv ≤ emptyMv then
    return 0
  else if mv ≤ emptyMv then
    return 0
  else if mv ≥ fullMv then
    return 100
  else
    let span ← Recorded.sub fullMv.toUInt32 emptyMv.toUInt32
    let above ← Recorded.sub mv.toUInt32 emptyMv.toUInt32
    let hundredfold ← Recorded.mul above 100
    let half ← Recorded.div span 2
    let sum ← Recorded.add hundredfold half
    let percent ← Recorded.div sum span
    return percent.toUInt8

/-- `battery_level_zcl_percentage`. -/
def batteryLevelZclPercentage (percent : UInt8) : Recorded UInt8 := do
  if percent ≥ 100 then
    return 200
  else
    let doubled ← Recorded.mul percent.toUInt32 2
    return doubled.toUInt8

/-- `battery_level_zcl_voltage`. -/
def batteryLevelZclVoltage (mv : UInt16) : Recorded UInt8 := do
  let sum ← Recorded.add mv.toUInt32 50
  let units ← Recorded.div sum 100
  if units > 254 then
    return 254
  else
    return units.toUInt8

/-- What the ADC driver returns during one conversion. -/
structure AdcResults where
  sequenceInit : ℤ
  read : ℤ
  rawToMillivolts : ℤ
  /-- The converted reading. -/
  millivolts : Int32

namespace AdcResults

/-- Some driver call fails. -/
def Fails (adc : AdcResults) : Prop :=
  adc.sequenceInit ≠ 0 ∨ adc.read ≠ 0 ∨ adc.rawToMillivolts ≠ 0

/-- The reading clamped to the 16-bit range. -/
def clamped (adc : AdcResults) : ℤ := max 0 (min adc.millivolts.toInt 65535)

end AdcResults

/-- `battery_read_mv`. -/
def batteryReadMv (adc : AdcResults) (outMv : UInt16) : ℤ × UInt16 :=
  if adc.sequenceInit ≠ 0 then (adc.sequenceInit, outMv)
  else if adc.read ≠ 0 then (adc.read, outMv)
  else if adc.rawToMillivolts ≠ 0 then (adc.rawToMillivolts, outMv)
  else
    let mv := adc.millivolts
    let mv := if mv < 0 then 0 else mv
    let mv := if mv > 65535 then 65535 else mv
    (0, mv.toUInt32.toUInt16)

/-- `pending_battery_voltage` and `pending_battery_percentage`. -/
structure PendingBattery where
  voltage : UInt8
  percentage : UInt8
  deriving DecidableEq

/-- `battery_sample`, for the configured endpoints. -/
def batterySample (emptyMv fullMv : UInt16) (adc : AdcResults) : Recorded PendingBattery := do
  let (err, mv) := batteryReadMv adc 0
  if err ≠ 0 then
    return ⟨batteryLevelZclUnknown, batteryLevelZclUnknown⟩
  else
    let percent ← batteryLevelPercent mv emptyMv fullMv
    let voltage ← batteryLevelZclVoltage mv
    let percentage ← batteryLevelZclPercentage percent
    return ⟨voltage, percentage⟩

/-! ## The percentage -/

/-- The whole percentage nearest to the position of a voltage between the endpoints, halves up. -/
def nearestPercent (mv emptyMv fullMv : ℕ) : ℕ :=
  roundDiv (100 * (min mv fullMv - emptyMv)) (fullMv - emptyMv)

theorem nearestPercent_degenerate {emptyMv fullMv : ℕ} (degenerate : fullMv ≤ emptyMv)
    (mv : ℕ) : nearestPercent mv emptyMv fullMv = 0 := by
  rw [nearestPercent, Nat.sub_eq_zero_of_le degenerate, roundDiv_zero_right]

theorem nearestPercent_empty {mv emptyMv : ℕ} (empty : mv ≤ emptyMv) (fullMv : ℕ) :
    nearestPercent mv emptyMv fullMv = 0 := by
  rcases Nat.lt_or_ge emptyMv fullMv with proper | degenerate
  · have none_above : min mv fullMv - emptyMv = 0 := by omega
    simpa [nearestPercent, none_above] using roundDiv_mul (Nat.sub_pos_of_lt proper) 0
  · exact nearestPercent_degenerate degenerate mv

theorem nearestPercent_full {mv emptyMv fullMv : ℕ} (proper : emptyMv < fullMv)
    (full : fullMv ≤ mv) : nearestPercent mv emptyMv fullMv = 100 := by
  rw [nearestPercent, Nat.min_eq_right full]
  exact roundDiv_mul (Nat.sub_pos_of_lt proper) 100

theorem nearestPercent_mono {lower higher : ℕ} (ordered : lower ≤ higher) (emptyMv fullMv : ℕ) :
    nearestPercent lower emptyMv fullMv ≤ nearestPercent higher emptyMv fullMv := by
  apply roundDiv_mono
  omega

theorem nearestPercent_le (mv emptyMv fullMv : ℕ) : nearestPercent mv emptyMv fullMv ≤ 100 := by
  rcases Nat.lt_or_ge emptyMv fullMv with proper | degenerate
  · calc
      nearestPercent mv emptyMv fullMv ≤ nearestPercent (max mv fullMv) emptyMv fullMv :=
        nearestPercent_mono (Nat.le_max_left mv fullMv) emptyMv fullMv
      _ = 100 := nearestPercent_full proper (Nat.le_max_right mv fullMv)
  · rw [nearestPercent_degenerate degenerate]
    exact Nat.zero_le 100

/-- `battery_level_percent` computes the nearest percentage with exact operations. -/
theorem satisfies_batteryLevelPercent (mv emptyMv fullMv : UInt16) :
    (batteryLevelPercent mv emptyMv fullMv).Satisfies fun percent =>
      percent.toNat = nearestPercent mv.toNat emptyMv.toNat fullMv.toNat := by
  have mv_lt := mv.toNat_lt
  have fullMv_lt := fullMv.toNat_lt
  have bounded := nearestPercent_le mv.toNat emptyMv.toNat fullMv.toNat
  rw [batteryLevelPercent]
  simp only [ge_iff_le, UInt16.le_iff_toNat_le]
  split_ifs with degenerate empty full
  · exact Recorded.satisfies_pure (nearestPercent_degenerate degenerate _).symm
  · exact Recorded.satisfies_pure (nearestPercent_empty empty _).symm
  · exact Recorded.satisfies_pure (nearestPercent_full (by omega) full).symm
  · rw [nearestPercent, Nat.min_eq_left (by omega), roundDiv] at bounded ⊢
    refine (Recorded.satisfies_sub (by simp; omega)).bind ?_
    intro span span_eq
    refine (Recorded.satisfies_sub (by simp; omega)).bind ?_
    intro above above_eq
    rw [UInt16.toNat_toUInt32, UInt16.toNat_toUInt32] at span_eq above_eq
    rw [← span_eq, ← above_eq] at bounded ⊢
    refine (Recorded.satisfies_mul (by simp; omega)).bind ?_
    intro hundredfold hundredfold_eq
    refine (Recorded.satisfies_div (by decide)).bind ?_
    intro half half_eq
    simp only [UInt32.reduceToNat] at hundredfold_eq half_eq
    refine (Recorded.satisfies_add (by omega)).bind ?_
    intro sum sum_eq
    refine (Recorded.satisfies_div (by omega)).bind ?_
    intro percent percent_eq
    apply Recorded.satisfies_pure
    rw [UInt32.toNat_toUInt8, percent_eq, sum_eq, hundredfold_eq, half_eq, Nat.mul_comm]
    exact Nat.mod_eq_of_lt (by omega)

theorem toNat_batteryLevelPercent (mv emptyMv fullMv : UInt16) :
    (batteryLevelPercent mv emptyMv fullMv).result.toNat =
      nearestPercent mv.toNat emptyMv.toNat fullMv.toNat :=
  (satisfies_batteryLevelPercent mv emptyMv fullMv).2

/-! ## The published pair -/

/-- The percentage attribute counts half percents. -/
theorem satisfies_batteryLevelZclPercentage {percent : UInt8} (bounded : percent.toNat ≤ 100) :
    (batteryLevelZclPercentage percent).Satisfies fun percentage =>
      percentage.toNat = 2 * percent.toNat := by
  rw [batteryLevelZclPercentage]
  simp only [ge_iff_le, UInt8.le_iff_toNat_le]
  split_ifs with full
  · simp only [UInt8.reduceToNat] at full
    apply Recorded.satisfies_pure
    rw [Nat.le_antisymm bounded full]
    rfl
  · refine (Recorded.satisfies_mul (by simp; omega)).bind ?_
    intro doubled doubled_eq
    apply Recorded.satisfies_pure
    rw [UInt32.toNat_toUInt8, doubled_eq, UInt8.toNat_toUInt32, Nat.mul_comm]
    exact Nat.mod_eq_of_lt (by simp; omega)

/-- The voltage attribute is the nearest number of 100 mV units, saturated below the sentinel. -/
theorem satisfies_batteryLevelZclVoltage (mv : UInt16) :
    (batteryLevelZclVoltage mv).Satisfies fun voltage =>
      voltage.toNat = min (roundDiv mv.toNat 100) 254 := by
  have mv_lt := mv.toNat_lt
  rw [batteryLevelZclVoltage, roundDiv]
  refine (Recorded.satisfies_add (by simp; omega)).bind ?_
  intro sum sum_eq
  refine (Recorded.satisfies_div (by decide)).bind ?_
  intro units units_eq
  rw [sum_eq, UInt16.toNat_toUInt32] at units_eq
  simp only [UInt32.reduceToNat] at units_eq
  split_ifs with above
  · rw [gt_iff_lt, UInt32.lt_iff_toNat_lt] at above
    apply Recorded.satisfies_pure
    simp only [UInt8.reduceToNat, UInt32.reduceToNat] at above ⊢
    omega
  · rw [gt_iff_lt, UInt32.lt_iff_toNat_lt] at above
    apply Recorded.satisfies_pure
    simp only [UInt32.toNat_toUInt8, UInt32.reduceToNat] at above ⊢
    omega

/-- A signed reading within the 16-bit range survives the unsigned cast. -/
theorem toNat_toUInt16_of_range {mv : Int32} (nonnegative : 0 ≤ mv.toInt)
    (bounded : mv.toInt ≤ 65535) : (mv.toUInt32.toUInt16.toNat : ℤ) = mv.toInt := by
  have signed : mv.toInt =
      if 2 * mv.toUInt32.toNat < 2 ^ 32 then (mv.toUInt32.toNat : ℤ)
      else mv.toUInt32.toNat - (2 ^ 32 : ℕ) :=
    BitVec.toInt_eq_toNat_cond mv.toBitVec
  have unsigned_lt := mv.toUInt32.toNat_lt
  rw [UInt32.toNat_toUInt16]
  split_ifs at signed <;> omega

/-- The two comparisons clamp the reading to the 16-bit range. -/
theorem toInt_clamp (mv : Int32) :
    (let mv := if mv < 0 then 0 else mv
      if mv > 65535 then 65535 else mv : Int32).toInt = max 0 (min mv.toInt 65535) := by
  simp only [gt_iff_lt, Int32.lt_iff_toInt_lt]
  split_ifs <;> simp only [Int32.reduceToInt] at * <;> omega

/-- A read that fails returns an error, and one that succeeds the clamped reading. -/
theorem batteryReadMv_cases (adc : AdcResults) (outMv : UInt16) :
    (adc.Fails ∧ (batteryReadMv adc outMv).1 ≠ 0) ∨
      (¬ adc.Fails ∧ (batteryReadMv adc outMv).1 = 0 ∧
        ((batteryReadMv adc outMv).2.toNat : ℤ) = adc.clamped) := by
  unfold AdcResults.Fails
  rw [batteryReadMv]
  split_ifs with init_fails read_fails convert_fails
  · exact Or.inl ⟨Or.inl init_fails, init_fails⟩
  · exact Or.inl ⟨Or.inr (Or.inl read_fails), read_fails⟩
  · exact Or.inl ⟨Or.inr (Or.inr convert_fails), convert_fails⟩
  · refine Or.inr ⟨by tauto, rfl, ?_⟩
    have clamp_eq := toInt_clamp adc.millivolts
    rw [← AdcResults.clamped] at clamp_eq
    have nonnegative : 0 ≤ adc.clamped := le_max_left 0 _
    have bounded : adc.clamped ≤ 65535 := max_le (by omega) (min_le_right _ _)
    rw [← clamp_eq] at nonnegative bounded ⊢
    exact toNat_toUInt16_of_range nonnegative bounded

/-- A sample publishes the unknown pair after a failed read, and the two encodings of the clamped
reading otherwise. -/
theorem batterySample_cases (emptyMv fullMv : UInt16) (adc : AdcResults) :
    (adc.Fails ∧ batterySample emptyMv fullMv adc =
        ⟨⟨batteryLevelZclUnknown, batteryLevelZclUnknown⟩, []⟩) ∨
      (¬ adc.Fails ∧ ∃ mv : UInt16, (mv.toNat : ℤ) = adc.clamped ∧
        (batterySample emptyMv fullMv adc).Satisfies fun pending =>
          pending.voltage.toNat = min (roundDiv mv.toNat 100) 254 ∧
            pending.percentage.toNat =
              2 * nearestPercent mv.toNat emptyMv.toNat fullMv.toNat) := by
  rcases batteryReadMv_cases adc 0 with ⟨fails, failed⟩ | ⟨succeeds, read_ok, reading⟩
  · refine Or.inl ⟨fails, ?_⟩
    rw [batterySample]
    exact if_pos failed
  · refine Or.inr ⟨succeeds, (batteryReadMv adc 0).2, reading, ?_⟩
    rw [batterySample]
    simp only [read_ok, ne_eq, not_true_eq_false, if_false]
    generalize (batteryReadMv adc 0).2 = mv
    refine (satisfies_batteryLevelPercent mv emptyMv fullMv).bind ?_
    intro percent percent_eq
    have bounded := nearestPercent_le mv.toNat emptyMv.toNat fullMv.toNat
    rw [← percent_eq] at bounded
    refine (satisfies_batteryLevelZclVoltage mv).bind ?_
    intro voltage voltage_eq
    refine (satisfies_batteryLevelZclPercentage bounded).bind ?_
    intro percentage percentage_eq
    exact Recorded.satisfies_pure ⟨voltage_eq, by rw [percentage_eq, percent_eq]⟩

/-! ## The contract -/

/-- What `battery_level.h` promises for one pair of endpoints. -/
structure BatteryContract (emptyMv fullMv : UInt16) : Prop where
  /-- No operation wraps or divides by zero. -/
  percent_exact : ∀ mv, (batteryLevelPercent mv emptyMv fullMv).Exact
  sample_exact : ∀ adc, (batterySample emptyMv fullMv adc).Exact
  percent_empty : ∀ mv, mv ≤ emptyMv → (batteryLevelPercent mv emptyMv fullMv).result = 0
  percent_full : emptyMv < fullMv → ∀ mv, fullMv ≤ mv →
    (batteryLevelPercent mv emptyMv fullMv).result = 100
  /-- Between the endpoints the percentage is the rounded exact one. -/
  percent_between : ∀ mv, emptyMv < mv → mv < fullMv →
    ((batteryLevelPercent mv emptyMv fullMv).result.toNat : ℤ) =
      round (100 * ((mv.toNat : ℚ) - emptyMv.toNat) / (fullMv.toNat - emptyMv.toNat))
  percent_mono : ∀ lower higher, lower ≤ higher →
    (batteryLevelPercent lower emptyMv fullMv).result ≤
      (batteryLevelPercent higher emptyMv fullMv).result
  percent_le : ∀ mv, (batteryLevelPercent mv emptyMv fullMv).result ≤ 100
  /-- A degenerate range gives zero, and nothing is divided. -/
  percent_degenerate : fullMv ≤ emptyMv → ∀ mv,
    batteryLevelPercent mv emptyMv fullMv = ⟨0, []⟩
  /-- Either attribute is unknown exactly after a failed read. -/
  voltage_unknown : ∀ adc,
    (batterySample emptyMv fullMv adc).result.voltage = batteryLevelZclUnknown ↔ adc.Fails
  percentage_unknown : ∀ adc,
    (batterySample emptyMv fullMv adc).result.percentage = batteryLevelZclUnknown ↔ adc.Fails
  percentage_even : ∀ adc, ¬ adc.Fails →
    Even (batterySample emptyMv fullMv adc).result.percentage.toNat ∧
      (batterySample emptyMv fullMv adc).result.percentage.toNat ≤ 200
  /-- A successful read publishes the percentage of the clamped reading, in half percents. -/
  percentage_double : ∀ adc (mv : UInt16), ¬ adc.Fails → (mv.toNat : ℤ) = adc.clamped →
    (batterySample emptyMv fullMv adc).result.percentage.toNat =
      2 * (batteryLevelPercent mv emptyMv fullMv).result.toNat
  voltage_le : ∀ adc, ¬ adc.Fails →
    (batterySample emptyMv fullMv adc).result.voltage.toNat ≤ 254
  /-- A higher reading never lowers an attribute. -/
  sample_mono : ∀ lower higher, ¬ lower.Fails → ¬ higher.Fails → lower.clamped ≤ higher.clamped →
    (batterySample emptyMv fullMv lower).result.voltage ≤
        (batterySample emptyMv fullMv higher).result.voltage ∧
      (batterySample emptyMv fullMv lower).result.percentage ≤
        (batterySample emptyMv fullMv higher).result.percentage
  /-- Below saturation the voltage is within half a unit of the reading. -/
  voltage_near : ∀ adc, ¬ adc.Fails → adc.clamped < 25450 →
    |100 * ((batterySample emptyMv fullMv adc).result.voltage.toNat : ℤ) - adc.clamped| ≤ 50

theorem batterySample_fails {adc : AdcResults} (fails : adc.Fails) (emptyMv fullMv : UInt16) :
    (batterySample emptyMv fullMv adc).result =
      ⟨batteryLevelZclUnknown, batteryLevelZclUnknown⟩ := by
  rcases batterySample_cases emptyMv fullMv adc with ⟨-, unknown⟩ | ⟨succeeds, -⟩
  · rw [unknown]
  · exact absurd fails succeeds

/-- After a successful read the pair encodes the clamped reading. -/
theorem batterySample_ok {adc : AdcResults} (succeeds : ¬ adc.Fails)
    (emptyMv fullMv : UInt16) :
    ∃ mv : UInt16, (mv.toNat : ℤ) = adc.clamped ∧
      (batterySample emptyMv fullMv adc).result.voltage.toNat =
        min (roundDiv mv.toNat 100) 254 ∧
      (batterySample emptyMv fullMv adc).result.percentage.toNat =
        2 * nearestPercent mv.toNat emptyMv.toNat fullMv.toNat := by
  rcases batterySample_cases emptyMv fullMv adc with ⟨fails, -⟩ | ⟨-, mv, reading, -, encoded⟩
  · exact absurd fails succeeds
  · exact ⟨mv, reading, encoded⟩

/-- Between the endpoints the percentage is the exact one, rounded. -/
theorem batteryLevelPercent_eq_round {mv emptyMv fullMv : UInt16} (above_empty : emptyMv < mv)
    (below_full : mv < fullMv) :
    ((batteryLevelPercent mv emptyMv fullMv).result.toNat : ℤ) =
      round (100 * ((mv.toNat : ℚ) - emptyMv.toNat) / (fullMv.toNat - emptyMv.toNat)) := by
  rw [UInt16.lt_iff_toNat_lt] at above_empty below_full
  rw [toNat_batteryLevelPercent, nearestPercent, Nat.min_eq_left below_full.le,
    roundDiv_eq_round]
  congr 1
  push_cast [above_empty.le, (above_empty.trans below_full).le]
  rfl

/-- A published voltage lies below the sentinel. -/
theorem voltage_batterySample_le {adc : AdcResults} (succeeds : ¬ adc.Fails)
    (emptyMv fullMv : UInt16) :
    (batterySample emptyMv fullMv adc).result.voltage.toNat ≤ 254 := by
  obtain ⟨mv, -, voltage_eq, -⟩ := batterySample_ok succeeds emptyMv fullMv
  rw [voltage_eq]
  exact Nat.min_le_right _ _

/-- A published percentage is a whole number of percents, in half percents. -/
theorem percentage_batterySample_even {adc : AdcResults} (succeeds : ¬ adc.Fails)
    (emptyMv fullMv : UInt16) :
    Even (batterySample emptyMv fullMv adc).result.percentage.toNat ∧
      (batterySample emptyMv fullMv adc).result.percentage.toNat ≤ 200 := by
  obtain ⟨mv, -, -, percentage_eq⟩ := batterySample_ok succeeds emptyMv fullMv
  have bounded := nearestPercent_le mv.toNat emptyMv.toNat fullMv.toNat
  rw [percentage_eq]
  exact ⟨even_two_mul _, by omega⟩

/-- The percentage published is twice that of the clamped reading. -/
theorem percentage_batterySample {adc : AdcResults} (succeeds : ¬ adc.Fails) {mv : UInt16}
    (reading : (mv.toNat : ℤ) = adc.clamped) (emptyMv fullMv : UInt16) :
    (batterySample emptyMv fullMv adc).result.percentage.toNat =
      2 * (batteryLevelPercent mv emptyMv fullMv).result.toNat := by
  obtain ⟨sampled, sampled_eq, -, percentage_eq⟩ := batterySample_ok succeeds emptyMv fullMv
  have same : sampled.toNat = mv.toNat := by omega
  rw [percentage_eq, toNat_batteryLevelPercent, same]

/-- A higher reading never lowers an attribute. -/
theorem batterySample_mono {lower higher : AdcResults} (lower_ok : ¬ lower.Fails)
    (higher_ok : ¬ higher.Fails) (ordered : lower.clamped ≤ higher.clamped)
    (emptyMv fullMv : UInt16) :
    (batterySample emptyMv fullMv lower).result.voltage ≤
        (batterySample emptyMv fullMv higher).result.voltage ∧
      (batterySample emptyMv fullMv lower).result.percentage ≤
        (batterySample emptyMv fullMv higher).result.percentage := by
  obtain ⟨lower_mv, lower_eq, lower_voltage, lower_percentage⟩ :=
    batterySample_ok lower_ok emptyMv fullMv
  obtain ⟨higher_mv, higher_eq, higher_voltage, higher_percentage⟩ :=
    batterySample_ok higher_ok emptyMv fullMv
  have mv_le : lower_mv.toNat ≤ higher_mv.toNat := by omega
  have units_le := roundDiv_mono mv_le 100
  have percent_le := nearestPercent_mono mv_le emptyMv.toNat fullMv.toNat
  rw [UInt8.le_iff_toNat_le, UInt8.le_iff_toNat_le]
  omega

/-- The encoding is nearest, monotone, free of faults and apart from the sentinel. -/
theorem battery_encoding (emptyMv fullMv : UInt16) : BatteryContract emptyMv fullMv where
  percent_exact := fun mv => (satisfies_batteryLevelPercent mv emptyMv fullMv).1
  sample_exact := by
    intro adc
    rcases batterySample_cases emptyMv fullMv adc with ⟨-, unknown⟩ | ⟨-, mv, -, exact_ops, -⟩
    · rw [unknown]
      exact List.forall_mem_nil _
    · exact exact_ops
  percent_empty := by
    intro mv empty
    rw [← UInt8.toNat_inj, toNat_batteryLevelPercent]
    exact nearestPercent_empty (UInt16.le_iff_toNat_le.mp empty) _
  percent_full := by
    intro proper mv full
    rw [← UInt8.toNat_inj, toNat_batteryLevelPercent]
    exact nearestPercent_full (UInt16.lt_iff_toNat_lt.mp proper) (UInt16.le_iff_toNat_le.mp full)
  percent_between := fun _ => batteryLevelPercent_eq_round
  percent_mono := by
    intro lower higher ordered
    rw [UInt8.le_iff_toNat_le, toNat_batteryLevelPercent, toNat_batteryLevelPercent]
    exact nearestPercent_mono (UInt16.le_iff_toNat_le.mp ordered) _ _
  percent_le := by
    intro mv
    rw [UInt8.le_iff_toNat_le, toNat_batteryLevelPercent]
    exact nearestPercent_le _ _ _
  percent_degenerate := by
    intro degenerate mv
    rw [batteryLevelPercent, if_pos degenerate]
    rfl
  voltage_unknown := by
    intro adc
    refine ⟨?_, fun fails => by rw [batterySample_fails fails]⟩
    intro unknown
    by_contra succeeds
    have below := voltage_batterySample_le succeeds emptyMv fullMv
    rw [unknown] at below
    exact absurd below (by decide)
  percentage_unknown := by
    intro adc
    refine ⟨?_, fun fails => by rw [batterySample_fails fails]⟩
    intro unknown
    by_contra succeeds
    have below := (percentage_batterySample_even succeeds emptyMv fullMv).2
    rw [unknown] at below
    exact absurd below (by decide)
  percentage_even := fun _ succeeds => percentage_batterySample_even succeeds emptyMv fullMv
  percentage_double := fun _ _ succeeds reading =>
    percentage_batterySample succeeds reading emptyMv fullMv
  voltage_le := fun _ succeeds => voltage_batterySample_le succeeds emptyMv fullMv
  sample_mono := fun _ _ lower_ok higher_ok ordered =>
    batterySample_mono lower_ok higher_ok ordered emptyMv fullMv
  voltage_near := by
    intro adc succeeds unsaturated
    obtain ⟨mv, reading, voltage_eq, -⟩ := batterySample_ok succeeds emptyMv fullMv
    rw [voltage_eq, roundDiv, abs_le]
    omega

end PowerMeter
