import PowerMeter.HwPulseCounter
import PowerMeter.Foundations.WrapCounter

/-!
# Changing the threshold of a pulse in flight

`hw_pulse_counter_set_min_width_us` rewrites `CC[0]` while TIMER3 may be running. The comparator
only fires when the count becomes equal to the register, so a threshold lowered to or below the
running count is not met again before the counter has wrapped.
-/

namespace PowerMeter

open WrapCounter

/-- Counts of TIMER3 before it wraps. -/
def timer3Modulus : ℕ := 65536

namespace HwPulseCounter

variable {hw : HwPulseCounter} {threshold : UInt32}

theorem run_stopped (stopped : hw.timer3.running = false) (source : PulseSource) (elapsed : ℕ) :
    hw.run source (List.replicate elapsed .microsecond) = hw := by
  induction elapsed with
  | zero => rfl
  | succ elapsed induction =>
      rw [List.replicate_succ, run, List.foldl_cons, feed, microsecond_of_stopped stopped]
      exact induction

/-- TIMER3 measuring a pulse. -/
def measuring (timer2 : UInt32) (count : UInt16) (threshold : UInt32) : HwPulseCounter where
  timer2
  timer3 :=
    { running := true
      count
      cc0 := threshold
      compare0Stop := true }

/-- A running timer only counts until its threshold comes up, and then counts the pulse once and
stops. -/
theorem run_measuring (source : PulseSource) (fits : threshold.toNat < timer3Modulus)
    (timer2 : UInt32) (count : UInt16) (elapsed : ℕ) :
    let later := (measuring timer2 count threshold).run source
      (List.replicate elapsed .microsecond)
    let left := countsUntil timer3Modulus count.toNat threshold.toNat
    (elapsed < left → later = measuring timer2 (count + UInt16.ofNat elapsed) threshold) ∧
      (left ≤ elapsed → later.timer2 = timer2 + 1 ∧ later.timer3.running = false) := by
  induction elapsed generalizing count with
  | zero =>
      have left_pos : 0 < countsUntil timer3Modulus count.toNat threshold.toNat :=
        countsUntil_pos count.toNat_lt
      refine ⟨fun _ => ?_, fun late => absurd late (Nat.not_le.mpr left_pos)⟩
      simp [run]
  | succ elapsed induction =>
      have count_lt : count.toNat < timer3Modulus := count.toNat_lt
      have next_eq : (count + 1).toNat = (count.toNat + 1) % timer3Modulus := by
        rw [UInt16.toNat_add, UInt16.toNat_one, timer3Modulus]
      have compares_iff : (count + 1).toUInt32 = threshold ↔
          (count.toNat + 1) % timer3Modulus = threshold.toNat := by
        rw [← UInt32.toNat_inj, UInt16.toNat_toUInt32, next_eq]
      have run_eq : (measuring timer2 count threshold).run source
            (List.replicate (elapsed + 1) .microsecond) =
          (measuring timer2 count threshold).microsecond.run source
            (List.replicate elapsed .microsecond) := by
        rw [List.replicate_succ, run, List.foldl_cons]
        rfl
      rw [run_eq]
      by_cases reached : (count + 1).toUInt32 = threshold
      · have left_eq := (countsUntil_eq_one count_lt fits).mpr (compares_iff.mp reached)
        rw [microsecond_of_reached rfl rfl reached, run_stopped rfl, left_eq]
        exact ⟨fun early => absurd early (by omega), fun _ => ⟨rfl, rfl⟩⟩
      · have left_eq := countsUntil_succ count_lt fits (fun same => reached (compares_iff.mpr same))
        have counted : (measuring timer2 count threshold).microsecond =
            measuring timer2 (count + 1) threshold := microsecond_of_short rfl reached
        rw [counted, left_eq, ← next_eq]
        obtain ⟨counts, fires⟩ := induction (count + 1)
        refine ⟨?_, ?_⟩
        · intro early
          rw [counts (by omega)]
          simp [UInt16.ofNat_add, UInt16.add_assoc, UInt16.add_comm]
        · intro late
          exact fires (by omega)

theorem timer2_pulseEnd (hw : HwPulseCounter) (source : PulseSource) (gap : ℕ) :
    (hw.run source (.pulseEnd :: List.replicate gap .microsecond)).timer2 = hw.timer2 := by
  have ended : (hw.feed source .pulseEnd).timer3.running = false := by simp [feed]
  have rested := run_stopped ended source gap
  rw [run, List.foldl_cons]
  rw [run] at rested
  rw [rested]
  simp [feed]

theorem timer2_rest (source : PulseSource) (fits : threshold.toNat < timer3Modulus)
    (timer2 : UInt32) (count : UInt16) (rest gap : ℕ) :
    ((measuring timer2 count threshold).run source
        (List.replicate rest .microsecond ++
          .pulseEnd :: List.replicate gap .microsecond)).timer2 =
      timer2 + if countsUntil timer3Modulus count.toNat threshold.toNat ≤ rest then 1 else 0 := by
  obtain ⟨counts, fires⟩ := run_measuring source fits timer2 count rest
  have run_eq := timer2_pulseEnd
    ((measuring timer2 count threshold).run source (List.replicate rest .microsecond)) source gap
  rw [run, run, ← List.foldl_append] at run_eq
  rw [run, run_eq]
  split
  next late => exact (fires late).1
  next early =>
    rw [← run, counts (Nat.not_le.mp early), UInt32.add_zero]
    rfl

/-- TIMER3 is set to a valid threshold, with its short on. -/
structure Armed (hw : HwPulseCounter) (threshold : UInt32) : Prop where
  cc0_eq : hw.timer3.cc0 = threshold
  stops : hw.timer3.compare0Stop = true
  valid : calibrationIsValidPulseMinWidthUs threshold = true

theorem threshold_fits (valid : calibrationIsValidPulseMinWidthUs threshold = true) :
    0 < threshold.toNat ∧ threshold.toNat < timer3Modulus := by
  obtain ⟨threshold_ge, threshold_le⟩ := calibrationIsValidPulseMinWidthUs_iff.mp valid
  rw [timer3Modulus]
  omega

theorem feed_pulseStart (armed : hw.Armed threshold) (source : PulseSource) :
    hw.feed source .pulseStart = measuring hw.timer2 0 threshold := by
  obtain ⟨timer2, timer3⟩ := hw
  obtain ⟨running, count, cc0, compare0Stop⟩ := timer3
  obtain rfl : cc0 = threshold := armed.cc0_eq
  obtain rfl : compare0Stop = true := armed.stops
  simp [feed, measuring]

theorem countsUntil_zero (threshold_pos : 0 < threshold.toNat) :
    countsUntil timer3Modulus (0 : UInt16).toNat threshold.toNat = threshold.toNat := by
  rw [countsUntil, UInt16.toNat_zero, if_pos threshold_pos, Nat.sub_zero]

/-- The three instants of a pulse at which a write can come: before it, `elapsed` microseconds
into it, and after its end. -/
theorem pulse_split {width gap : ℕ} {front back : List PulseInput}
    (split : PulseInput.pulse width gap = front ++ back) :
    front = [] ∨
    (∃ elapsed, elapsed ≤ width ∧ front = PulseInput.pulseSoFar elapsed ∧
      back = List.replicate (width - elapsed) .microsecond ++
        .pulseEnd :: List.replicate gap .microsecond) ∨
    ∃ passed left, front = PulseInput.pulseSoFar width ++
        .pulseEnd :: List.replicate passed .microsecond ∧
      back = List.replicate left .microsecond := by
  cases front with
  | nil => exact .inl rfl
  | cons first front =>
      obtain ⟨rfl, rest⟩ := List.cons.inj split
      refine .inr ?_
      rcases List.append_eq_append_iff.mp rest with ⟨passed, front_eq, tail⟩ | ⟨left, body, back_eq⟩
      · cases passed with
        | nil =>
            refine .inl ⟨width, Nat.le_refl width, ?_, ?_⟩
            · rw [front_eq, List.append_nil, PulseInput.pulseSoFar]
            · rw [Nat.sub_self]
              exact tail.symm
        | cons edge passed =>
            obtain ⟨rfl, quiet⟩ := List.cons.inj tail
            obtain ⟨-, passed_eq, back_eq⟩ := List.replicate_eq_append_iff.mp quiet
            refine .inr ⟨passed.length, back.length, ?_, back_eq⟩
            rw [front_eq, ← passed_eq, PulseInput.pulseSoFar, List.cons_append]
      · obtain ⟨lengths, front_eq, left_eq⟩ := List.replicate_eq_append_iff.mp body
        refine .inl ⟨front.length, by omega, ?_, ?_⟩
        · rw [PulseInput.pulseSoFar, ← front_eq]
        · have remaining : width - front.length = left.length := by omega
          rw [back_eq, remaining, ← left_eq]

theorem pulse_at {width elapsed : ℕ} (elapsed_le : elapsed ≤ width) (gap : ℕ) :
    PulseInput.pulse width gap = PulseInput.pulseSoFar elapsed ++
      (List.replicate (width - elapsed) .microsecond ++
        .pulseEnd :: List.replicate gap .microsecond) := by
  have width_eq : width = elapsed + (width - elapsed) := by omega
  rw [PulseInput.pulse, PulseInput.pulseSoFar, PulseInput.pulseSoFar, List.cons_append,
    List.cons_append, ← List.append_assoc, List.replicate_append_replicate, ← width_eq]

/-- A write misses the pulse in flight: it lowers the threshold to or below a count that had not
reached the old one, and the pulse ends before the counter comes around. -/
def MissesPulse (old new : UInt32) (width : ℕ) (front : List PulseInput) : Prop :=
  ∃ elapsed, front = PulseInput.pulseSoFar elapsed ∧ new.toNat ≤ elapsed ∧
    elapsed < old.toNat ∧ old.toNat < width ∧ width < timer3Modulus + new.toNat

theorem missesPulse_pulseSoFar {old new : UInt32} {width elapsed : ℕ} :
    MissesPulse old new width (PulseInput.pulseSoFar elapsed) ↔
      new.toNat ≤ elapsed ∧ elapsed < old.toNat ∧ old.toNat < width ∧
        width < timer3Modulus + new.toNat := by
  constructor
  · rintro ⟨other, so_far, missed⟩
    have lengths := congrArg List.length so_far
    obtain rfl : elapsed = other := by simpa [PulseInput.pulseSoFar] using lengths
    exact missed
  · intro missed
    exact ⟨elapsed, rfl, missed⟩

/-- A counter that adds one exactly if `counted` does what both cases ask, when it has the narrow
case right. -/
private theorem kept_iff {wide narrow counted : Prop} [Decidable counted] (reading : UInt32)
    (narrower : narrow → ¬ counted) :
    ((wide → (reading + if counted then 1 else 0) = reading + 1) ∧
      (narrow → (reading + if counted then 1 else 0) = reading)) ↔ (wide → counted) := by
  by_cases adds : counted
  · simp only [adds, if_true, implies_true, true_and, iff_true]
    exact fun thin => absurd adds (narrower thin)
  · simp only [adds, if_false, UInt32.add_zero, implies_true, and_true]
    have differs : reading ≠ reading + 1 := by
      intro same
      have := congrArg UInt32.toNat same
      rw [UInt32.toNat_add, UInt32.toNat_one] at this
      have := reading.toNat_lt
      omega
    exact imp_congr_right fun _ => iff_of_false differs (by simp)

theorem run_append (hw : HwPulseCounter) (source : PulseSource) (front back : List PulseInput) :
    hw.run source (front ++ back) = (hw.run source front).run source back :=
  List.foldl_append

theorem run_pulseSoFar (armed : hw.Armed threshold) (source : PulseSource) (elapsed : ℕ) :
    hw.run source (PulseInput.pulseSoFar elapsed) =
      (measuring hw.timer2 0 threshold).run source (List.replicate elapsed .microsecond) := by
  rw [PulseInput.pulseSoFar, run, List.foldl_cons, feed_pulseStart armed]
  rfl

theorem timer2_pulse (armed : hw.Armed threshold) (source : PulseSource) (width gap : ℕ) :
    (hw.run source (PulseInput.pulse width gap)).timer2 =
      hw.timer2 + if threshold.toNat ≤ width then 1 else 0 := by
  obtain ⟨threshold_pos, fits⟩ := threshold_fits armed.valid
  rw [PulseInput.pulse, run_append, run_pulseSoFar armed, ← run_append, timer2_rest source fits,
    countsUntil_zero threshold_pos]

/-- A write into a pulse after `elapsed` microseconds: the pulse is counted already, or the new
threshold still has to come up. -/
theorem timer2_write (armed : hw.Armed threshold) {new : UInt32}
    (new_valid : calibrationIsValidPulseMinWidthUs new = true) (source : PulseSource)
    (elapsed rest gap : ℕ) :
    (((hw.run source (PulseInput.pulseSoFar elapsed)).hwPulseCounterSetMinWidthUs new).run source
        (List.replicate rest .microsecond ++
          .pulseEnd :: List.replicate gap .microsecond)).timer2 =
      hw.timer2 + if threshold.toNat ≤ elapsed ∨
        countsUntil timer3Modulus elapsed new.toNat ≤ rest then 1 else 0 := by
  obtain ⟨threshold_pos, fits⟩ := threshold_fits armed.valid
  obtain ⟨-, new_fits⟩ := threshold_fits new_valid
  rw [run_pulseSoFar armed]
  obtain ⟨counts, fires⟩ := run_measuring source fits hw.timer2 0 elapsed
  rw [countsUntil_zero threshold_pos] at counts fires
  rcases Nat.lt_or_ge elapsed threshold.toNat with early | late
  · have count_eq : ((0 : UInt16) + UInt16.ofNat elapsed).toNat = elapsed := by
      have below : elapsed < timer3Modulus := early.trans fits
      rw [timer3Modulus] at below
      rw [UInt16.zero_add, UInt16.toNat_ofNat']
      omega
    have written : (measuring hw.timer2 (0 + UInt16.ofNat elapsed)
          threshold).hwPulseCounterSetMinWidthUs new =
        measuring hw.timer2 (0 + UInt16.ofNat elapsed) new := rfl
    rw [counts early, written, timer2_rest source new_fits, count_eq]
    simp [Nat.not_le.mpr early]
  · obtain ⟨counted, stopped⟩ := fires late
    have idle : (((measuring hw.timer2 0 threshold).run source (List.replicate elapsed
        .microsecond)).hwPulseCounterSetMinWidthUs new).timer3.running = false := stopped
    rw [run_append, timer2_pulseEnd, run_stopped idle, if_pos (.inl late)]
    exact counted

theorem timer2_write_after (armed : hw.Armed threshold) (source : PulseSource) (new : UInt32)
    (width passed left : ℕ) :
    (((hw.run source (PulseInput.pulse width passed)).hwPulseCounterSetMinWidthUs new).run source
        (List.replicate left .microsecond)).timer2 =
      hw.timer2 + if threshold.toNat ≤ width then 1 else 0 := by
  have ended : ((hw.run source (PulseInput.pulseSoFar width)).feed source
      .pulseEnd).timer3.running = false := by simp [feed]
  have run_eq : hw.run source (PulseInput.pulse width passed) =
      (hw.run source (PulseInput.pulseSoFar width)).feed source .pulseEnd := by
    rw [PulseInput.pulse, run_append]
    exact run_stopped ended source passed
  have idle : ((hw.run source (PulseInput.pulse width passed)).hwPulseCounterSetMinWidthUs
      new).timer3.running = false := by
    rw [run_eq]
    exact ended
  rw [run_stopped idle, ← timer2_pulse armed source width passed]
  rfl

/-- A live change of the threshold keeps a pulse wider than both thresholds counted exactly once,
and one narrower than both not counted, exactly unless the write misses the pulse in flight. This
holds after any train of inputs and for a write at any instant of the pulse or of the gap after
it. -/
theorem threshold_change_keeps_pulse_iff {old new : UInt32}
    (old_valid : calibrationIsValidPulseMinWidthUs old = true)
    (new_valid : calibrationIsValidPulseMinWidthUs new = true) (source : PulseSource)
    (inputs : List PulseInput) {width gap : ℕ} {front back : List PulseInput}
    (split : PulseInput.pulse width gap = front ++ back) :
    let before := (started old).run source inputs
    let after := ((before.run source front).hwPulseCounterSetMinWidthUs new).run source back
    ((max old.toNat new.toNat < width →
        after.hwPulseCounterRead = before.hwPulseCounterRead + 1) ∧
      (width < min old.toNat new.toNat →
        after.hwPulseCounterRead = before.hwPulseCounterRead)) ↔
      ¬ MissesPulse old new width front := by
  intro before after
  have tracks := tracks_run old_valid (tracks_started old) source inputs
  have armed : before.Armed old := ⟨tracks.cc0_eq, tracks.stops, old_valid⟩
  simp only [hwPulseCounterRead]
  have counts_of (counted : Prop) [Decidable counted]
      (after_eq : after.timer2 = before.timer2 + if counted then 1 else 0)
      (narrower : width < min old.toNat new.toNat → ¬ counted)
      (wider : (max old.toNat new.toNat < width → counted) ↔ ¬ MissesPulse old new width front) :
      ((max old.toNat new.toNat < width → after.timer2 = before.timer2 + 1) ∧
        (width < min old.toNat new.toNat → after.timer2 = before.timer2)) ↔
        ¬ MissesPulse old new width front := by
    rw [after_eq, kept_iff before.timer2 narrower]
    exact wider
  rcases pulse_split split with front_eq | ⟨elapsed, elapsed_le, front_eq, back_eq⟩ |
    ⟨passed, left, front_eq, back_eq⟩
  · have rearmed : (before.hwPulseCounterSetMinWidthUs new).Armed new := ⟨rfl, rfl, new_valid⟩
    have back_eq : back = PulseInput.pulse width gap := by rw [split, front_eq, List.nil_append]
    refine counts_of (new.toNat ≤ width) ?_ (by omega) (iff_of_true (by omega) ?_)
    · have after_eq := timer2_pulse rearmed source width gap
      rw [← back_eq] at after_eq
      simp only [after, front_eq]
      exact after_eq
    · rintro ⟨elapsed, so_far, -⟩
      simp [front_eq, PulseInput.pulseSoFar] at so_far
  · refine counts_of (old.toNat ≤ elapsed ∨
      countsUntil timer3Modulus elapsed new.toNat ≤ width - elapsed) ?_ ?_ ?_
    · simp only [after, front_eq, back_eq]
      exact timer2_write armed new_valid source elapsed (width - elapsed) gap
    · rw [countsUntil]
      split <;> omega
    · rw [front_eq, missesPulse_pulseSoFar, countsUntil]
      split <;> omega
  · refine counts_of (old.toNat ≤ width) ?_ (by omega) (iff_of_true (by omega) ?_)
    · simp only [after, front_eq, back_eq]
      exact timer2_write_after armed source new width passed left
    · rintro ⟨elapsed, so_far, -⟩
      have ended : PulseInput.pulseEnd ∈ PulseInput.pulseSoFar elapsed := by
        rw [← so_far, front_eq]
        exact List.mem_append_right _ List.mem_cons_self
      simp [PulseInput.pulseSoFar] at ended

/-- A threshold raised half a millisecond into a pulse that is wider than both. -/
theorem threshold_change_keeps_pulse_iff_raised :
    let before := (started 1000).run .lpcomp []
    let after := ((before.run .lpcomp (PulseInput.pulseSoFar 500)).hwPulseCounterSetMinWidthUs
      2000).run .lpcomp
        (List.replicate (3000 - 500) .microsecond ++ .pulseEnd :: List.replicate 7 .microsecond)
    after.hwPulseCounterRead = before.hwPulseCounterRead + 1 := by
  have kept := @threshold_change_keeps_pulse_iff 1000 2000 (by decide) (by decide) .lpcomp []
    3000 7 _ _ (pulse_at (by decide : 500 ≤ 3000) 7)
  refine (kept.mpr ?_).1 (by decide)
  rw [missesPulse_pulseSoFar]
  decide

/-- A threshold lowered to a millisecond after three of a pulse of six loses the pulse. -/
theorem lowered_threshold_loses_pulse :
    ¬ ∀ (old new : UInt32) (width gap : ℕ) (front back : List PulseInput),
      calibrationIsValidPulseMinWidthUs old = true →
      calibrationIsValidPulseMinWidthUs new = true →
      PulseInput.pulse width gap = front ++ back → max old.toNat new.toNat < width →
      ((((started old).run .lpcomp front).hwPulseCounterSetMinWidthUs new).run .lpcomp
        back).hwPulseCounterRead = (started old).hwPulseCounterRead + 1 := by
  intro counted
  have once := counted 5000 1000 6000 0 _ _ (by decide) (by decide)
    (pulse_at (by decide : 3000 ≤ 6000) 0) (by decide)
  have armed : (started 5000).Armed 5000 := ⟨rfl, rfl, by decide⟩
  have missed := @timer2_write (started 5000) 5000 armed 1000 (by decide) .lpcomp 3000
    (6000 - 3000) 0
  rw [hwPulseCounterRead, missed] at once
  exact absurd once (by decide)

end HwPulseCounter

end PowerMeter
