import Mathlib.Algebra.Order.Ring.Int
import PowerMeter.Foundations.Attempts
import PowerMeter.Foundations.OrderStatistic

/-!
# Verified power-on reset

`tools/xiao-por.sh` cuts the supply of the device through a relay and judges from a short capture of
`tools/ina219-sample.py` whether the debug latch is clear. It tries again until a capture is clean.
-/

namespace PowerMeter.PorVerify

open OrderStatistic

/-- The two bytes of an INA219 register, in the order they are read. -/
structure RegisterBytes where
  high : UInt8
  low : UInt8

/-- `read_reg`. -/
def readReg (bytes : RegisterBytes) : ℕ := bytes.high.toNat <<< 8 ||| bytes.low.toNat

/-- `sign16`. -/
def sign16 (v : ℕ) : ℤ := if v &&& 0x8000 ≠ 0 then v - (1 <<< 16 : ℕ) else v

/-- `shunt_uV`: the register counts in 10 µV. -/
def shuntUv (shunt : RegisterBytes) : ℤ := sign16 (readReg shunt) * 10

/-- `current_mA` in thousandths, at the default shunt of 0.1 Ω. -/
def currentUa (shunt : RegisterBytes) : ℤ := shuntUv shunt * 10

/-- The currents of a capture. -/
def currents (samples : List RegisterBytes) : List ℤ := samples.map currentUa

/-- The median that `sample_stats` echoes: a sampler that fails or takes no sample prints no
summary. -/
def sampleStats (capture : Option (List RegisterBytes)) : Option ℤ :=
  capture.bind fun samples => upperMedian (currents samples)

/-- What `classify` prints. -/
inductive Verdict
  | clean
  | contaminated
  | busy
  | unknown
  deriving DecidableEq

/-- `CLEAN_MAX_P50`, in thousandths. -/
def cleanMaxP50 : ℤ := 500

/-- `CONTAM_LO_P50`, in thousandths. -/
def contamLoP50 : ℤ := 1000

/-- `CONTAM_HI_P50`, in thousandths. -/
def contamHiP50 : ℤ := 2200

/-- `classify`. -/
def classify (p50 : ℤ) : Verdict :=
  if p50 < cleanMaxP50 then .clean
  else if contamLoP50 ≤ p50 ∧ p50 ≤ contamHiP50 then .contaminated
  else if contamHiP50 < p50 then .busy
  else .unknown

/-- What an attempt meets: the exit status of `por_pulse`, the capture after it, and the second
capture of a busy device. -/
structure Attempt where
  porPulse : ℕ
  capture : Option (List RegisterBytes)
  recapture : Option (List RegisterBytes)

/-- How the script ends. -/
inductive Ending
  | verified
  | unverified
  | samplerMissing
  | contaminated
  | unjudged
  /-- `set -e` ends the script when `por_pulse` fails. -/
  | pulseFailed (status : ℕ)
  deriving DecidableEq

/-- The exit status of the script. -/
def Ending.exitStatus : Ending → ℕ
  | .verified | .unverified => 0
  | .samplerMissing => 1
  | .contaminated => 2
  | .unjudged => 3
  | .pulseFailed status => status

/-- One pass of the loop, where `VERDICT` keeps its value when there is no capture. -/
def tryPor (verdict : Option Verdict) (attempt : Attempt) : Except Ending (Option Verdict) :=
  if attempt.porPulse ≠ 0 then .error (.pulseFailed attempt.porPulse)
  else
    match sampleStats attempt.capture with
    | none => .ok verdict
    | some p50 =>
        match classify p50 with
        | .clean => .error .verified
        | .contaminated => .ok (some .contaminated)
        | .busy =>
            match sampleStats attempt.recapture with
            | none => .ok (some .busy)
            | some p50 =>
                if classify p50 = .clean then .error .verified else .ok (some (classify p50))
        | .unknown => .ok (some .unknown)

/-- The script with the verification on and the sampler in place. -/
def verifyPor (attempts : List Attempt) : Ending :=
  match attempts.foldlM tryPor none with
  | .error ending => ending
  | .ok verdict => if verdict = some .contaminated then .contaminated else .unjudged

/-- `xiao-por.sh`, where `pulse` is the exit status of the only `por_pulse` of `--no-verify`. -/
def xiaoPor (verify samplerFound : Bool) (pulse : ℕ) (attempts : List Attempt) : Ending :=
  if !verify then if pulse ≠ 0 then .pulseFailed pulse else .unverified
  else if !samplerFound then .samplerMissing
  else verifyPor attempts

/-- A capture that shows most of its samples below the clean bound. -/
def Quiet (capture : Option (List RegisterBytes)) : Prop :=
  ∃ samples, capture = some samples ∧ Most (· < cleanMaxP50) (currents samples)

/-- A capture whose samples are mostly up to the top of the plateau, but not mostly below it. -/
def OnPlateau (capture : Option (List RegisterBytes)) : Prop :=
  ∃ samples, capture = some samples ∧ ¬ Most (· < contamLoP50) (currents samples) ∧
    Most (· ≤ contamHiP50) (currents samples)

/-- A capture with at least half of its samples above the plateau. -/
def Swamped (capture : Option (List RegisterBytes)) : Prop :=
  ∃ samples, capture = some samples ∧ samples ≠ [] ∧ ¬ Most (· ≤ contamHiP50) (currents samples)

/-- No summary. -/
def NoData (capture : Option (List RegisterBytes)) : Prop := capture = none ∨ capture = some []

namespace Attempt

/-- The capture that counts is quiet. -/
def ShowsClean (attempt : Attempt) : Prop :=
  Quiet attempt.capture ∨ Swamped attempt.capture ∧ Quiet attempt.recapture

/-- The capture that counts is on the plateau. -/
def ShowsPlateau (attempt : Attempt) : Prop :=
  OnPlateau attempt.capture ∨ Swamped attempt.capture ∧ OnPlateau attempt.recapture

/-- The loop goes on after the attempt. -/
def Inconclusive (attempt : Attempt) : Prop := attempt.porPulse = 0 ∧ ¬ attempt.ShowsClean

end Attempt

theorem classify_clean_iff (p50 : ℤ) : classify p50 = .clean ↔ p50 < cleanMaxP50 := by
  unfold classify
  split_ifs <;> simp [*]

theorem classify_contaminated_iff (p50 : ℤ) :
    classify p50 = .contaminated ↔ ¬ p50 < contamLoP50 ∧ p50 ≤ contamHiP50 := by
  unfold classify cleanMaxP50 contamLoP50 contamHiP50
  split_ifs <;> simp only [false_iff, true_iff] <;> omega

theorem classify_busy_iff (p50 : ℤ) : classify p50 = .busy ↔ ¬ p50 ≤ contamHiP50 := by
  unfold classify cleanMaxP50 contamLoP50 contamHiP50
  split_ifs <;> simp only [false_iff, true_iff] <;> omega

/-- Without a summary a capture shows nothing. -/
theorem shows_nothing {capture : Option (List RegisterBytes)} (stats : sampleStats capture = none) :
    NoData capture ∧ ¬ Quiet capture ∧ ¬ OnPlateau capture ∧ ¬ Swamped capture := by
  have noData : NoData capture := by
    cases capture with
    | none => exact .inl rfl
    | some samples =>
        have empty : currents samples = [] := upperMedian_eq_none.mp stats
        exact .inr (congrArg some (List.map_eq_nil_iff.mp empty))
  refine ⟨noData, ?_⟩
  rcases noData with rfl | rfl
  · simp [Quiet, OnPlateau, Swamped]
  · simp [Quiet, OnPlateau, Swamped, Most, currents]

/-- The verdict on a capture is what most of its samples say. -/
theorem shows_verdict {capture : Option (List RegisterBytes)} {p50 : ℤ}
    (stats : sampleStats capture = some p50) :
    ¬ NoData capture ∧ (Quiet capture ↔ classify p50 = .clean) ∧
      (OnPlateau capture ↔ classify p50 = .contaminated) ∧
      (Swamped capture ↔ classify p50 = .busy) := by
  obtain ⟨samples, rfl, is_median⟩ := Option.bind_eq_some_iff.mp stats
  have nonempty : samples ≠ [] := by
    rintro rfl
    simp [upperMedian, currents] at is_median
  have below (bound : ℤ) : p50 < bound ↔ Most (· < bound) (currents samples) :=
    upperMedian_low_iff (isLowerSet_Iio bound) is_median
  have upTo (bound : ℤ) : p50 ≤ bound ↔ Most (· ≤ bound) (currents samples) :=
    upperMedian_low_iff (isLowerSet_Iic bound) is_median
  refine ⟨by simp [NoData, nonempty], ?_, ?_, ?_⟩
  · rw [classify_clean_iff, below]
    simp [Quiet]
  · rw [classify_contaminated_iff, below, upTo]
    simp [OnPlateau]
  · rw [classify_busy_iff, upTo]
    simp [Swamped, nonempty]

namespace Attempt

/-- What an attempt with a pulse comes to. -/
theorem tryPor_pulsed {attempt : Attempt} (pulsed : attempt.porPulse = 0) :
    (tryPor none attempt = .error .verified ∧ attempt.ShowsClean) ∨
      ∃ verdict, tryPor none attempt = .ok verdict ∧ ¬ attempt.ShowsClean ∧
        (verdict = none ↔ NoData attempt.capture) ∧
        (verdict = some .contaminated ↔ attempt.ShowsPlateau) := by
  cases stats : sampleStats attempt.capture with
  | none =>
      obtain ⟨noData, unquiet, off, unswamped⟩ := shows_nothing stats
      refine .inr ⟨none, by simp [tryPor, pulsed, stats], ?_, by simp [noData], ?_⟩
      · simp [ShowsClean, unquiet, unswamped]
      · simp [ShowsPlateau, off, unswamped]
  | some p50 =>
      obtain ⟨data, quiet, plateau, swamped⟩ := shows_verdict stats
      cases verdict : classify p50 with
      | clean =>
          refine .inl ⟨by simp [tryPor, pulsed, stats, verdict], .inl (quiet.mpr verdict)⟩
      | contaminated | unknown =>
          refine .inr ⟨_, by simp [tryPor, pulsed, stats, verdict]; rfl, ?_, by simp [data], ?_⟩
          · simp [ShowsClean, quiet, swamped, verdict]
          · simp [ShowsPlateau, plateau, swamped, verdict]
      | busy =>
          cases restats : sampleStats attempt.recapture with
          | none =>
              obtain ⟨-, unquiet, off, -⟩ := shows_nothing restats
              refine .inr ⟨some .busy, by simp [tryPor, pulsed, stats, verdict, restats], ?_,
                by simp [data], ?_⟩
              · simp [ShowsClean, quiet, verdict, unquiet]
              · simp [ShowsPlateau, plateau, verdict, off]
          | some second =>
              obtain ⟨-, requiet, replateau, -⟩ := shows_verdict restats
              by_cases clean : classify second = .clean
              · refine .inl ⟨by simp [tryPor, pulsed, stats, verdict, restats, clean], ?_⟩
                exact .inr ⟨swamped.mpr verdict, requiet.mpr clean⟩
              · refine .inr ⟨some (classify second),
                  by simp [tryPor, pulsed, stats, verdict, restats, clean], ?_, by simp [data], ?_⟩
                · simp [ShowsClean, quiet, verdict, requiet, clean]
                · simp [ShowsPlateau, plateau, swamped, verdict, replateau]

/-- An attempt takes nothing from the verdict before it but the verdict itself. -/
theorem judges : Attempts.Judges tryPor (tryPor none) := by
  intro standing attempt
  unfold tryPor
  split
  · rfl
  · cases sampleStats attempt.capture with
    | none => rfl
    | some p50 =>
        dsimp only
        cases classify p50 with
        | clean | contaminated | unknown => rfl
        | busy =>
            cases sampleStats attempt.recapture with
            | none => rfl
            | some second =>
                dsimp only
                split <;> rfl

theorem tryPor_unpulsed {attempt : Attempt} (failed : attempt.porPulse ≠ 0) :
    tryPor none attempt = .error (.pulseFailed attempt.porPulse) := by
  rw [tryPor, if_pos failed]

theorem goesOn_iff (attempt : Attempt) :
    Attempts.GoesOn (tryPor none) attempt ↔ attempt.Inconclusive := by
  by_cases pulsed : attempt.porPulse = 0
  · rcases tryPor_pulsed pulsed with ⟨ended, clean⟩ | ⟨verdict, ok, unclean, -⟩
    · simp [Attempts.GoesOn, ended, Inconclusive, clean]
    · simp [Attempts.GoesOn, ok, Inconclusive, pulsed, unclean]
  · simp [Attempts.GoesOn, tryPor_unpulsed pulsed, Inconclusive, pulsed]

theorem verified_iff (attempt : Attempt) :
    tryPor none attempt = .error .verified ↔ attempt.porPulse = 0 ∧ attempt.ShowsClean := by
  by_cases pulsed : attempt.porPulse = 0
  · rcases tryPor_pulsed pulsed with ⟨ended, clean⟩ | ⟨verdict, ok, unclean, -⟩
    · simp [ended, pulsed, clean]
    · simp [ok, unclean]
  · simp [tryPor_unpulsed pulsed, pulsed]

theorem pulseFailed_iff (attempt : Attempt) (status : ℕ) :
    tryPor none attempt = .error (.pulseFailed status) ↔
      attempt.porPulse = status ∧ status ≠ 0 := by
  by_cases pulsed : attempt.porPulse = 0
  · have unfailed : ¬ (attempt.porPulse = status ∧ status ≠ 0) := by omega
    rcases tryPor_pulsed pulsed with ⟨ended, -⟩ | ⟨verdict, ok, -⟩
    · simp [ended, unfailed]
    · simp [ok, unfailed]
  · simp only [tryPor_unpulsed pulsed, Except.error.injEq, Ending.pulseFailed.injEq]
    omega

/-- The loop ends early on a clean capture or a failed pulse. -/
theorem tryPor_error {attempt : Attempt} {ending : Ending}
    (ended : tryPor none attempt = .error ending) :
    ending = .verified ∨ ∃ status, status ≠ 0 ∧ ending = .pulseFailed status := by
  by_cases pulsed : attempt.porPulse = 0
  · rcases tryPor_pulsed pulsed with ⟨verified, -⟩ | ⟨verdict, ok, -⟩
    · rw [verified] at ended
      exact .inl (Except.error.inj ended).symm
    · rw [ok] at ended
      cases ended
  · rw [tryPor_unpulsed pulsed] at ended
    exact .inr ⟨_, pulsed, (Except.error.inj ended).symm⟩

/-- What an inconclusive attempt leaves. -/
theorem left_iff {attempt : Attempt} (inconclusive : attempt.Inconclusive) :
    (Attempts.left (tryPor none) attempt = some .contaminated ↔ attempt.ShowsPlateau) ∧
      (Attempts.left (tryPor none) attempt = none ↔ NoData attempt.capture) := by
  obtain ⟨pulsed, unclean⟩ := inconclusive
  rcases tryPor_pulsed pulsed with ⟨-, clean⟩ | ⟨verdict, ok, -, noData, plateau⟩
  · exact absurd clean unclean
  · rw [Attempts.left_of_ok ok]
    exact ⟨plateau, noData⟩

end Attempt

/-- The script ends in its loop, or after it with what the last verdict says. -/
theorem verifyPor_cases (attempts : List Attempt) :
    (∃ ending, attempts.foldlM tryPor none = .error ending ∧ verifyPor attempts = ending ∧
      (ending = .verified ∨ ∃ status, status ≠ 0 ∧ ending = .pulseFailed status)) ∨
    ∃ verdict, attempts.foldlM tryPor none = .ok verdict ∧
      verifyPor attempts = if verdict = some .contaminated then .contaminated else .unjudged := by
  unfold verifyPor
  cases looped : attempts.foldlM tryPor none with
  | error ending =>
      obtain ⟨_, tried, _, -, -, ended⟩ := Attempt.judges.foldlM_eq_error_iff.mp looped
      exact .inl ⟨ending, rfl, rfl, Attempt.tryPor_error ended⟩
  | ok verdict => exact .inr ⟨verdict, rfl, rfl⟩

theorem verifyPor_verified_iff (attempts : List Attempt) :
    (verifyPor attempts).exitStatus = 0 ↔ attempts.foldlM tryPor none = .error .verified := by
  rcases verifyPor_cases attempts with ⟨ending, looped, ends, rfl | ⟨status, failed, rfl⟩⟩ |
    ⟨verdict, looped, ends⟩
  · simp [looped, ends, Ending.exitStatus]
  · simp [looped, ends, Ending.exitStatus, failed]
  · rw [looped, ends]
    split <;> simp [Ending.exitStatus]

theorem verifyPor_contaminated_iff (attempts : List Attempt) :
    verifyPor attempts = .contaminated ↔
      attempts.foldlM tryPor none = .ok (some .contaminated) := by
  rcases verifyPor_cases attempts with ⟨ending, looped, ends, rfl | ⟨status, failed, rfl⟩⟩ |
    ⟨verdict, looped, ends⟩
  · simp [looped, ends]
  · simp [looped, ends]
  · rw [looped, ends]
    split <;> simp [*]

theorem verifyPor_pulseFailed_iff (attempts : List Attempt) (status : ℕ) :
    verifyPor attempts = .pulseFailed status ↔
      attempts.foldlM tryPor none = .error (.pulseFailed status) := by
  rcases verifyPor_cases attempts with ⟨ending, looped, ends, -⟩ | ⟨verdict, looped, ends⟩
  · simp [looped, ends]
  · rw [looped, ends]
    split <;> simp

/-- How a run that verifies ends. It succeeds exactly when some attempt shows most of its samples
below the clean bound, and all before it were inconclusive. It reports a contaminated baseline
exactly when no attempt is clean and the last one with a capture is on the plateau, even where later
attempts have none. A failed pulse ends it with its own status. -/
theorem por_verification (pulse : ℕ) (attempts : List Attempt) :
    ((xiaoPor true true pulse attempts).exitStatus = 0 ↔ ∃ earlier attempt later,
      attempts = earlier ++ attempt :: later ∧ (∀ other ∈ earlier, other.Inconclusive) ∧
        attempt.porPulse = 0 ∧ attempt.ShowsClean) ∧
    (xiaoPor true true pulse attempts = .contaminated ↔
      (∀ attempt ∈ attempts, attempt.Inconclusive) ∧ ∃ earlier attempt later,
        attempts = earlier ++ attempt :: later ∧ attempt.ShowsPlateau ∧
          ∀ other ∈ later, NoData other.capture) ∧
    (∀ status, xiaoPor true true pulse attempts = .pulseFailed status ↔ ∃ earlier attempt later,
      attempts = earlier ++ attempt :: later ∧ (∀ other ∈ earlier, other.Inconclusive) ∧
        attempt.porPulse = status ∧ status ≠ 0) := by
  have script : xiaoPor true true pulse attempts = verifyPor attempts := rfl
  rw [script]
  refine ⟨?_, ?_, fun status => ?_⟩
  · rw [verifyPor_verified_iff, Attempt.judges.foldlM_eq_error_iff]
    simp only [Attempt.goesOn_iff, Attempt.verified_iff]
  · rw [verifyPor_contaminated_iff, Attempt.judges.foldlM_eq_ok_iff]
    simp only [Attempt.goesOn_iff]
    refine and_congr_right fun inconclusive => ?_
    refine exists_congr fun earlier => exists_congr fun tried => exists_congr fun later =>
      and_congr_right fun split => ?_
    have own : tried ∈ attempts := split ▸ by simp
    have rest : ∀ other ∈ later, other ∈ attempts := fun other member => split ▸ by simp [member]
    exact and_congr (Attempt.left_iff (inconclusive tried own)).1
      (forall₂_congr fun other member =>
        (Attempt.left_iff (inconclusive other (rest other member))).2)
  · rw [verifyPor_pulseFailed_iff, Attempt.judges.foldlM_eq_error_iff]
    simp only [Attempt.goesOn_iff, Attempt.pulseFailed_iff]

/-- Two attempts without data do not take back a plateau of 1.5 mA with one radio spike on it. -/
example : xiaoPor true true 0
    [⟨0, some [⟨0, 15⟩, ⟨0, 16⟩, ⟨1, 42⟩, ⟨0, 15⟩], none⟩, ⟨0, none, none⟩, ⟨0, none, none⟩] =
      .contaminated := by
  decide

end PowerMeter.PorVerify
