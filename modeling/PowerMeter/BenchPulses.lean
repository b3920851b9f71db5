import PowerMeter.HwPulseCounter

/-!
# Pulses of the bench

`tools/xiao-pulse-us.py` drives the bench input of the pulse counter: it writes an edge, adds the
length of the phase to a target on the clock and waits for the target. Times are in nanoseconds. A
wait may end late by any overshoot, which holds everything up to the next edge.
-/

namespace PowerMeter.BenchPulses

/-- The time after `busy_wait_ns(target)`, entered at `now`. -/
def busyWaitNs (now target overshoot : ℕ) : ℕ := max now target + overshoot

/-- How late the two waits of a pulse end. -/
structure Overshoot where
  pulse : ℕ
  gap : ℕ

/-- A pulse on the wire: its falling edge, its rising edge and the end of its gap. -/
structure BenchPulse where
  low : ℕ
  high : ℕ
  next : ℕ

/-- The loop over the pulses, where `t` is the last target and `now` the time of the next edge. -/
def fire (pulseNs gapNs t now : ℕ) : List Overshoot → List BenchPulse
  | [] => []
  | overshoot :: later =>
      let high := busyWaitNs now (t + pulseNs) overshoot.pulse
      let next := busyWaitNs high (t + pulseNs + gapNs) overshoot.gap
      ⟨now, high, next⟩ :: fire pulseNs gapNs (t + pulseNs + gapNs) next later

/-- The pulses of a run that starts its clock at `t` and writes the first edge `first` later. -/
def benchPulses (pulseUs gapUs t first : ℕ) (overshoots : List Overshoot) : List BenchPulse :=
  fire (pulseUs * 1000) (gapUs * 1000) t (t + first) overshoots

/-- What the counter sees of a pulse: TIMER3 is started by the falling edge and counts whole
microseconds. -/
def BenchPulse.inputs (pulse : BenchPulse) : List PulseInput :=
  PulseInput.pulse ((pulse.high - pulse.low) / 1000) ((pulse.next - pulse.high) / 1000)

/-- The pulse lasts at least as many microseconds. -/
def BenchPulse.Lasts (pulse : BenchPulse) (us : ℕ) : Prop := us * 1000 ≤ pulse.high - pulse.low

instance (pulse : BenchPulse) (us : ℕ) : Decidable (pulse.Lasts us) :=
  inferInstanceAs (Decidable (us * 1000 ≤ pulse.high - pulse.low))

/-- No wait of the run ends later than the jitter. -/
def WithinJitter (jitterNs : ℕ) (overshoots : List Overshoot) : Prop :=
  ∀ overshoot ∈ overshoots, overshoot.pulse ≤ jitterNs ∧ overshoot.gap ≤ jitterNs

variable {pulseNs gapNs jitterNs t now : ℕ} {overshoots : List Overshoot}

theorem length_fire (overshoots : List Overshoot) :
    (fire pulseNs gapNs t now overshoots).length = overshoots.length := by
  induction overshoots generalizing t now with
  | nil => rfl
  | cons overshoot later induction => exact congrArg Nat.succ induction

/-- Both edges of a pulse come on their targets, or late by at most the jitter. -/
structure BenchPulse.OnTime (pulse : BenchPulse) (pulseNs jitterNs target : ℕ) : Prop where
  low : target ≤ pulse.low ∧ pulse.low ≤ target + jitterNs
  high : target + pulseNs ≤ pulse.high ∧ pulse.high ≤ target + pulseNs + jitterNs

/-- Delays do not add up when every wait has a target of its own on the clock: if the jitter is no
longer than a phase, no edge is late by more than the jitter. -/
theorem fire_on_time (fits_pulse : jitterNs ≤ pulseNs) (fits_gap : jitterNs ≤ gapNs)
    (early : t ≤ now) (late : now ≤ t + jitterNs) (jitter : WithinJitter jitterNs overshoots)
    {index : ℕ} {pulse : BenchPulse}
    (fired : (fire pulseNs gapNs t now overshoots)[index]? = some pulse) :
    pulse.OnTime pulseNs jitterNs (t + index * (pulseNs + gapNs)) := by
  induction overshoots generalizing t now index with
  | nil => simp [fire] at fired
  | cons overshoot later induction =>
      obtain ⟨pulse_late, gap_late⟩ := jitter overshoot List.mem_cons_self
      have later_jitter : WithinJitter jitterNs later :=
        fun other member => jitter other (List.mem_cons_of_mem _ member)
      have high_eq : busyWaitNs now (t + pulseNs) overshoot.pulse =
          t + pulseNs + overshoot.pulse := by
        rw [busyWaitNs, Nat.max_eq_right (by omega)]
      have next_eq : busyWaitNs (t + pulseNs + overshoot.pulse) (t + pulseNs + gapNs)
          overshoot.gap = t + pulseNs + gapNs + overshoot.gap := by
        rw [busyWaitNs, Nat.max_eq_right (by omega)]
      rw [fire, high_eq, next_eq] at fired
      cases index with
      | zero =>
          obtain rfl := Option.some.inj fired
          rw [Nat.zero_mul]
          constructor <;> dsimp only <;> omega
      | succ index =>
          have rest := induction (by omega) (by omega) later_jitter fired
          have target_eq : t + (index + 1) * (pulseNs + gapNs) =
              t + pulseNs + gapNs + index * (pulseNs + gapNs) := by
            rw [Nat.succ_mul]
            omega
          rwa [target_eq]

/-- Pulses on time last as long as they should, up to the jitter. -/
theorem BenchPulse.OnTime.width {pulse : BenchPulse} {target : ℕ}
    (onTime : pulse.OnTime pulseNs jitterNs target) :
    pulseNs ≤ pulse.high - pulse.low + jitterNs ∧ pulse.high - pulse.low ≤ pulseNs + jitterNs := by
  obtain ⟨low, high⟩ := onTime
  omega

/-- A burst is measured pulse by pulse. -/
theorem widths_burst (train : PulseTrain) (pulses : List BenchPulse) :
    ((pulses.flatMap BenchPulse.inputs).foldl PulseTrain.feed train).widths =
      train.widths ++ pulses.map fun pulse => (pulse.high - pulse.low) / 1000 := by
  induction pulses generalizing train with
  | nil => simp
  | cons pulse pulses induction =>
      rw [List.flatMap_cons, List.foldl_append, induction, BenchPulse.inputs,
        PulseTrain.foldl_pulse]
      simp [PulseTrain.widths]

theorem accepted_burst (train : PulseTrain) (pulses : List BenchPulse) (threshold : ℕ) :
    ((pulses.flatMap BenchPulse.inputs).foldl PulseTrain.feed train).accepted threshold =
      train.accepted threshold + pulses.countP (·.Lasts threshold) := by
  have reaches : ∀ pulse : BenchPulse,
      threshold ≤ (pulse.high - pulse.low) / 1000 ↔ pulse.Lasts threshold :=
    fun pulse => Nat.le_div_iff_mul_le (by omega)
  rw [PulseTrain.accepted, PulseTrain.accepted, widths_burst, List.countP_append, List.countP_map]
  simp only [Function.comp_def, reaches]

/-- Every pulse on time is wide enough, or none is. -/
theorem countP_lasts {pulses : List BenchPulse} {threshold : ℕ}
    (widths : ∀ pulse ∈ pulses, pulseNs ≤ pulse.high - pulse.low + jitterNs ∧
      pulse.high - pulse.low ≤ pulseNs + jitterNs) :
    (threshold * 1000 + jitterNs ≤ pulseNs →
        pulses.countP (·.Lasts threshold) = pulses.length) ∧
      (pulseNs + jitterNs < threshold * 1000 → pulses.countP (·.Lasts threshold) = 0) := by
  constructor
  · intro wider
    rw [List.countP_eq_length]
    intro pulse member
    obtain ⟨shortest, -⟩ := widths pulse member
    have reached : threshold * 1000 + jitterNs ≤ pulse.high - pulse.low + jitterNs :=
      wider.trans shortest
    exact decide_eq_true (Nat.le_of_add_le_add_right reached)
  · intro narrower
    rw [List.countP_eq_zero]
    intro pulse member lasts
    obtain ⟨-, longest⟩ := widths pulse member
    have reached : threshold * 1000 ≤ pulse.high - pulse.low := of_decide_eq_true lasts
    exact absurd (reached.trans longest) (Nat.not_le.mpr narrower)

open HwPulseCounter

/-- What a burst adds to the counter. Whatever came before it on the wire and however late its waits
end, TIMER2 advances by the number of pulses that last as long as the threshold. As long as the
first edge comes within a jitter of the reading of the clock and no wait ends later than it, where
the jitter is no longer than a phase, every edge of the burst keeps to the schedule up to the
jitter, however many pulses came before it; so all pulses count where the threshold and the jitter
fit into the pulse, and none where the pulse and the jitter fall short of the threshold. -/
theorem burst_counts {threshold : UInt32}
    (valid : calibrationIsValidPulseMinWidthUs threshold = true) (before : List PulseInput)
    (pulseUs gapUs t first : ℕ) (overshoots : List Overshoot) :
    let hw := (started threshold).run .bench before
    let pulses := benchPulses pulseUs gapUs t first overshoots
    let after := hw.run .bench (pulses.flatMap BenchPulse.inputs)
    after.hwPulseCounterRead =
        hw.hwPulseCounterRead + UInt32.ofNat (pulses.countP (·.Lasts threshold.toNat)) ∧
      ∀ jitterNs, jitterNs ≤ pulseUs * 1000 → jitterNs ≤ gapUs * 1000 → first ≤ jitterNs →
        WithinJitter jitterNs overshoots →
        (∀ (index : ℕ) (pulse : BenchPulse), pulses[index]? = some pulse →
          pulse.OnTime (pulseUs * 1000) jitterNs (t + index * (pulseUs * 1000 + gapUs * 1000))) ∧
        (threshold.toNat * 1000 + jitterNs ≤ pulseUs * 1000 →
          after.hwPulseCounterRead = hw.hwPulseCounterRead + UInt32.ofNat overshoots.length) ∧
        (pulseUs * 1000 + jitterNs < threshold.toNat * 1000 →
          after.hwPulseCounterRead = hw.hwPulseCounterRead) := by
  intro hw pulses after
  have counted : after.hwPulseCounterRead =
      hw.hwPulseCounterRead + UInt32.ofNat (pulses.countP (·.Lasts threshold.toNat)) := by
    have joined : after = (started threshold).run .bench
        (before ++ pulses.flatMap BenchPulse.inputs) := (List.foldl_append ..).symm
    rw [hwPulseCounterRead, hwPulseCounterRead, joined, timer2_run valid, timer2_run valid,
      ← UInt32.ofNat_add, PulseTrain.measure, List.foldl_append, accepted_burst]
    rfl
  refine ⟨counted, fun jitterNs fits_pulse fits_gap prompt jitter => ?_⟩
  have onTime : ∀ (index : ℕ) (pulse : BenchPulse), pulses[index]? = some pulse →
      pulse.OnTime (pulseUs * 1000) jitterNs (t + index * (pulseUs * 1000 + gapUs * 1000)) :=
    fun index pulse fired => fire_on_time fits_pulse fits_gap (by omega) (by omega) jitter fired
  have widths : ∀ pulse ∈ pulses, pulseUs * 1000 ≤ pulse.high - pulse.low + jitterNs ∧
      pulse.high - pulse.low ≤ pulseUs * 1000 + jitterNs := by
    intro pulse member
    obtain ⟨index, fired⟩ := List.getElem?_of_mem member
    exact (onTime index pulse fired).width
  obtain ⟨all, none⟩ := @countP_lasts _ jitterNs pulses threshold.toNat widths
  refine ⟨onTime, fun wider => ?_, fun narrower => ?_⟩
  · rw [counted, all wider]
    exact congrArg (hw.hwPulseCounterRead + UInt32.ofNat ·) (length_fire overshoots)
  · rw [counted, none narrower]
    exact UInt32.add_zero _

/-- Three pulses of 1100 µs against a threshold of 1000 µs, with waits up to 50 µs late. -/
theorem burst_counts_above :
    let pulses := benchPulses 1100 5000 0 20000 [⟨50000, 0⟩, ⟨0, 50000⟩, ⟨12345, 678⟩]
    ((started 1000).run .bench (pulses.flatMap BenchPulse.inputs)).hwPulseCounterRead = 3 := by
  have burst := @burst_counts 1000 (by decide) [] 1100 5000 0 20000
    [⟨50000, 0⟩, ⟨0, 50000⟩, ⟨12345, 678⟩]
  have jitter : WithinJitter 50000 [⟨50000, 0⟩, ⟨0, 50000⟩, ⟨12345, 678⟩] := by
    simp [WithinJitter]
  exact (burst.2 50000 (by decide) (by decide) (by decide) jitter).2.1 (by decide)

end PowerMeter.BenchPulses
