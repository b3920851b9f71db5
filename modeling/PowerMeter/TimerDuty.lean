import PowerMeter.SharedGate

/-!
# How long the width timer runs

A running TIMER3 keeps the high-frequency clock on. It is started by an edge of either pulse source
and stops at the end of the pulse or, through the `COMPARE0_STOP` short, at the threshold.
-/

namespace PowerMeter

/-- The length of a list of pulses, each of them cut at the threshold. -/
def cutLength (threshold : ℕ) : List ℕ → ℕ
  | [] => 0
  | width :: widths => min threshold width + cutLength threshold widths

theorem cutLength_append (threshold : ℕ) (front back : List ℕ) :
    cutLength threshold (front ++ back) = cutLength threshold front + cutLength threshold back := by
  induction front with
  | nil => exact (Nat.zero_add _).symm
  | cons width front induction =>
      rw [List.cons_append, cutLength, cutLength, induction, Nat.add_assoc]

theorem cutLength_le (threshold : ℕ) (widths : List ℕ) :
    cutLength threshold widths ≤ threshold * widths.length := by
  induction widths with
  | nil => exact Nat.zero_le _
  | cons width widths induction =>
      rw [cutLength, List.length_cons, Nat.mul_succ]
      have cut := Nat.min_le_left threshold width
      omega

namespace HwPulseCounter

/-- The microseconds of an interleaving during which TIMER3 runs. -/
def activeUs (hw : HwPulseCounter) : List SharedInput → ℕ
  | [] => 0
  | input :: inputs =>
      (if hw.timer3.running = true ∧ input.merged = .microsecond then 1 else 0) +
        (hw.react input).activeUs inputs

variable {threshold : UInt32} {hw : HwPulseCounter} {train : PulseTrain}

/-- TIMER3 runs exactly during a pulse that is short of the threshold. -/
theorem Tracks.running_iff (tracks : Tracks threshold hw train) :
    hw.timer3.running = true ↔
      ∃ width, train.current = some width ∧ width < threshold.toNat := by
  constructor
  · intro running
    by_contra none_short
    have stopped := tracks.stopped fun width current =>
      Nat.le_of_not_lt fun short => none_short ⟨width, current, short⟩
    rw [stopped] at running
    exact absurd running (by simp)
  · rintro ⟨width, current, short⟩
    exact (tracks.measuring width current short).1

/-- What an input adds to the length of the pulses is what it adds to the time TIMER3 runs. -/
theorem Tracks.cutLength_feed (tracks : Tracks threshold hw train) (input : PulseInput) :
    cutLength threshold.toNat (train.feed input).widths =
      cutLength threshold.toNat train.widths +
        if hw.timer3.running = true ∧ input = .microsecond then 1 else 0 := by
  have runs := tracks.running_iff
  rcases train with ⟨finished, current⟩
  cases input with
  | pulseStart => simp [PulseTrain.feed, PulseTrain.widths, cutLength_append, cutLength]
  | pulseEnd => simp [PulseTrain.feed, PulseTrain.widths, cutLength_append]
  | microsecond =>
      cases current with
      | none =>
          have stands : ¬ (hw.timer3.running = true ∧ PulseInput.microsecond = .microsecond) := by
            simp [runs]
          rw [if_neg stands]
          rfl
      | some width =>
          have grown : cutLength threshold.toNat
              (PulseTrain.feed ⟨finished, some width⟩ .microsecond).widths =
                cutLength threshold.toNat finished + min threshold.toNat (width + 1) := by
            simp [PulseTrain.feed, PulseTrain.widths, cutLength_append, cutLength]
          have before : cutLength threshold.toNat (PulseTrain.widths ⟨finished, some width⟩) =
              cutLength threshold.toNat finished + min threshold.toNat width := by
            simp [PulseTrain.widths, cutLength_append, cutLength]
          rw [grown, before]
          by_cases short : width < threshold.toNat
          · rw [if_pos ⟨runs.mpr ⟨width, rfl, short⟩, rfl⟩]
            omega
          · have stands : ¬ (hw.timer3.running = true ∧
                PulseInput.microsecond = .microsecond) := by
              simpa [runs] using short
            rw [if_neg stands]
            omega

theorem tracks_react (valid : calibrationIsValidPulseMinWidthUs threshold = true)
    (tracks : Tracks threshold hw train) (input : SharedInput) :
    Tracks threshold (hw.react input) (train.feed input.merged) :=
  react_eq hw input ▸ tracks_feed valid tracks .lpcomp input.merged

theorem cutLength_foldl (valid : calibrationIsValidPulseMinWidthUs threshold = true)
    (tracks : Tracks threshold hw train) (inputs : List SharedInput) :
    cutLength threshold.toNat ((inputs.map SharedInput.merged).foldl PulseTrain.feed train).widths =
      cutLength threshold.toNat train.widths + hw.activeUs inputs := by
  induction inputs generalizing hw train with
  | nil => rfl
  | cons input inputs induction =>
      rw [List.map_cons, List.foldl_cons, induction (tracks_react valid tracks input),
        tracks.cutLength_feed, activeUs, Nat.add_assoc]

/-- What the width filter asks of the high-frequency clock. Over any interleaving of the two sources
TIMER3 runs for the length of the pulses it measures, each cut at the threshold; so for at most the
threshold for each pulse of either source. It runs only while a pulse short of the threshold is in
flight. -/
theorem width_timer_duty (valid : calibrationIsValidPulseMinWidthUs threshold = true)
    (inputs : List SharedInput) :
    (started threshold).activeUs inputs =
        cutLength threshold.toNat (mergedTrain inputs).widths ∧
      (started threshold).activeUs inputs ≤ threshold.toNat * pulsesOfBoth inputs ∧
      (((started threshold).runShared inputs).timer3.running = true ↔
        ∃ width, (mergedTrain inputs).current = some width ∧ width < threshold.toNat) := by
  have active : (started threshold).activeUs inputs =
      cutLength threshold.toNat (mergedTrain inputs).widths := by
    have lengths := cutLength_foldl valid (tracks_started threshold) inputs
    exact (lengths.trans (Nat.zero_add _)).symm
  refine ⟨active, ?_, (tracks_runShared valid inputs).running_iff⟩
  rw [active, ← length_widths_mergedTrain]
  exact cutLength_le _ _

/-- A bench pulse that cuts a meter pulse short. -/
theorem width_timer_duty_overlap :
    (started 100).activeUs (overlappingPulses 50 150 50) = 150 := by
  have duty := @width_timer_duty 100 (by decide) (overlappingPulses 50 150 50)
  rw [duty.1, (widths_overlappingPulses 50 150 50).2.2]
  rfl

end HwPulseCounter

end PowerMeter
