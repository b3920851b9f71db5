import PowerMeter.Calibration
import PowerMeter.NvsStore
import Mathlib.Tactic.Linarith

/-!
# The hardware pulse counter

`hw_pulse_counter.c` counts pulses without the CPU. A pulse start clears and starts TIMER3, a pulse
end stops and clears it, and the compare event of TIMER3, which also stops the timer, increments
TIMER2. The model runs the peripherals one microsecond and one edge at a time through the PPI
channels the initialization wires.
-/

namespace PowerMeter

/-- Peripheral events that PPI channels listen to. -/
inductive PpiEvent
  | lpcompUp
  | lpcompDown
  | gpioteInHitolo
  | gpioteInLotohi
  | timer3Compare0
  deriving DecidableEq

/-- Peripheral tasks that PPI channels trigger. -/
inductive PpiTask
  | timer3Start
  | timer3Stop
  | timer3Clear
  | timer2Count

/-- A PPI channel with its event endpoint, task endpoint and fork endpoint. -/
structure PpiChannel where
  event : PpiEvent
  task : PpiTask
  fork : Option PpiTask

/-- The channels `ch_up`, `ch_down`, `ch_bench_h`, `ch_bench_l` and `ch_cnt`. -/
def ppiChannels : List PpiChannel :=
  [⟨.lpcompUp, .timer3Start, some .timer3Clear⟩,
    ⟨.lpcompDown, .timer3Stop, some .timer3Clear⟩,
    ⟨.gpioteInHitolo, .timer3Start, some .timer3Clear⟩,
    ⟨.gpioteInLotohi, .timer3Stop, some .timer3Clear⟩,
    ⟨.timer3Compare0, .timer2Count, none⟩]

/-- TIMER3, a 16-bit timer at one microsecond a tick. -/
structure WidthTimer where
  running : Bool
  count : UInt16
  /-- The threshold register `CC[0]`. -/
  cc0 : UInt32
  /-- The `COMPARE0_STOP` short. -/
  compare0Stop : Bool
  deriving DecidableEq

/-- The counter TIMER2 and the width timer TIMER3. -/
structure HwPulseCounter where
  timer2 : UInt32
  timer3 : WidthTimer
  deriving DecidableEq

namespace HwPulseCounter

/-- Perform one peripheral task. -/
def trigger (hw : HwPulseCounter) : PpiTask → HwPulseCounter
  | .timer3Start => { hw with timer3 := { hw.timer3 with running := true } }
  | .timer3Stop => { hw with timer3 := { hw.timer3 with running := false } }
  | .timer3Clear => { hw with timer3 := { hw.timer3 with count := 0 } }
  | .timer2Count => { hw with timer2 := hw.timer2 + 1 }

/-- Publish an event on every PPI channel that listens to it. -/
def publish (hw : HwPulseCounter) (event : PpiEvent) : HwPulseCounter :=
  ppiChannels.foldl
    (fun hw channel =>
      if channel.event = event then
        (channel.task :: channel.fork.toList).foldl trigger hw
      else hw)
    hw

/-- One microsecond: a running TIMER3 counts, and at `CC[0]` it fires its compare event. -/
def microsecond (hw : HwPulseCounter) : HwPulseCounter :=
  if hw.timer3.running then
    let hw := { hw with timer3 := { hw.timer3 with count := hw.timer3.count + 1 } }
    if hw.timer3.count.toUInt32 = hw.timer3.cc0 then
      let hw := hw.publish .timer3Compare0
      if hw.timer3.compare0Stop then hw.trigger .timer3Stop else hw
    else hw
  else hw

/-- `nrfx_timer_extended_compare` on `CC[0]` with the `COMPARE0_STOP` short. -/
def extendedCompare (hw : HwPulseCounter) (threshold : UInt32) : HwPulseCounter :=
  { hw with timer3 := { hw.timer3 with
      cc0 := threshold
      compare0Stop := true } }

/-- The peripherals as a successful initialization leaves them. -/
def started (threshold : UInt32) : HwPulseCounter where
  timer2 := 0
  timer3 :=
    { running := false
      count := 0
      cc0 := threshold
      compare0Stop := true }

/-- `hw_pulse_counter_read`. -/
def hwPulseCounterRead (hw : HwPulseCounter) : UInt32 := hw.timer2

/-- `hw_pulse_counter_set_min_width_us`. -/
def hwPulseCounterSetMinWidthUs (hw : HwPulseCounter) (minWidthUs : UInt32) : HwPulseCounter :=
  hw.extendedCompare minWidthUs

end HwPulseCounter

/-- `effective_min_width_us_at_init`. -/
def effectiveMinWidthUsAtInit (config : Kconfig) (store : NvsStore) (fault : Option Errno) :
    UInt32 :=
  let (rc, nvsVal) := store.nvsStoreLoadPulseMinWidthUs fault 0
  if rc = 0 then
    if calibrationIsValidPulseMinWidthUs nvsVal then nvsVal else config.pulseMinWidthUs
  else config.pulseMinWidthUs

/-- Whatever the store holds, the threshold in force at boot is inside its range. -/
theorem effectiveMinWidthUsAtInit_valid (config : Kconfig) (store : NvsStore)
    (fault : Option Errno) :
    calibrationIsValidPulseMinWidthUs (effectiveMinWidthUsAtInit config store fault) = true := by
  have default_valid := config.pulseMinWidthUs_valid
  simp only [effectiveMinWidthUsAtInit]
  split_ifs with loaded valid
  · exact valid
  · exact default_valid
  · exact default_valid

/-- Return codes of the nrfx drivers. -/
inductive NrfxErr
  | success
  | already
  | failed

/-- The fallible nrfx calls of `hw_pulse_counter_init`, in source order. -/
inductive NrfxCall
  | timerInitCounter
  | timerInitWidth
  | lpcompInit
  | gpioteInit
  | channelAllocHitolo
  | channelAllocLotohi
  | inputConfigureHitolo
  | inputConfigureLotohi
  | gppiAllocUp
  | gppiAllocDown
  | gppiAllocBenchH
  | gppiAllocBenchL
  | gppiAllocCnt

/-- The results the initialization goes on after: the timers and GPIOTE may be up already. -/
def NrfxCall.accepts : NrfxCall → NrfxErr → Bool
  | _, .success => true
  | .timerInitCounter, .already => true
  | .timerInitWidth, .already => true
  | .gpioteInit, .already => true
  | _, _ => false

/-- All calls, in source order. -/
def NrfxCall.sequence : List NrfxCall :=
  [.timerInitCounter, .timerInitWidth, .lpcompInit, .gpioteInit, .channelAllocHitolo,
    .channelAllocLotohi, .inputConfigureHitolo, .inputConfigureLotohi, .gppiAllocUp,
    .gppiAllocDown, .gppiAllocBenchH, .gppiAllocBenchL, .gppiAllocCnt]

/-- `hw_pulse_counter_init`. -/
def hwPulseCounterInit (config : Kconfig) (store : NvsStore) (fault : Option Errno)
    (nrfx : NrfxCall → NrfxErr) : Except Errno HwPulseCounter :=
  if NrfxCall.sequence.all fun call => call.accepts (nrfx call) then
    .ok (.started (effectiveMinWidthUsAtInit config store fault))
  else .error .eio

/-- A successful initialization starts the counter with a threshold inside its range. -/
theorem hwPulseCounterInit_ok {config : Kconfig} {store : NvsStore} {fault : Option Errno}
    {nrfx : NrfxCall → NrfxErr} {hw : HwPulseCounter}
    (initialized : hwPulseCounterInit config store fault nrfx = .ok hw) :
    ∃ threshold, calibrationIsValidPulseMinWidthUs threshold = true ∧
      hw = .started threshold := by
  rw [hwPulseCounterInit] at initialized
  split at initialized
  next =>
    obtain rfl := Except.ok.inj initialized
    exact ⟨_, effectiveMinWidthUsAtInit_valid config store fault, rfl⟩
  next => simp at initialized

/-- The two inputs whose edges drive the width timer. -/
inductive PulseSource
  | lpcomp
  | bench
  deriving DecidableEq

/-- The event a source publishes when a pulse starts. -/
def PulseSource.startEvent : PulseSource → PpiEvent
  | .lpcomp => .lpcompUp
  | .bench => .gpioteInHitolo

/-- The event a source publishes when a pulse ends. -/
def PulseSource.endEvent : PulseSource → PpiEvent
  | .lpcomp => .lpcompDown
  | .bench => .gpioteInLotohi

/-- One microsecond or one edge of a pulse source. -/
inductive PulseInput
  | microsecond
  | pulseStart
  | pulseEnd
  deriving DecidableEq

namespace HwPulseCounter

/-- React to one input of a pulse source. -/
def feed (source : PulseSource) (hw : HwPulseCounter) : PulseInput → HwPulseCounter
  | .microsecond => hw.microsecond
  | .pulseStart => hw.publish source.startEvent
  | .pulseEnd => hw.publish source.endEvent

/-- React to a whole train of inputs. -/
def run (source : PulseSource) (hw : HwPulseCounter) (inputs : List PulseInput) :
    HwPulseCounter :=
  inputs.foldl (feed source) hw

@[simp]
theorem publish_startEvent (hw : HwPulseCounter) (source : PulseSource) :
    hw.publish source.startEvent =
      { hw with timer3 := { hw.timer3 with
          running := true
          count := 0 } } := by
  cases source <;> rfl

@[simp]
theorem publish_endEvent (hw : HwPulseCounter) (source : PulseSource) :
    hw.publish source.endEvent =
      { hw with timer3 := { hw.timer3 with
          running := false
          count := 0 } } := by
  cases source <;> rfl

@[simp]
theorem publish_timer3Compare0 (hw : HwPulseCounter) :
    hw.publish .timer3Compare0 = { hw with timer2 := hw.timer2 + 1 } := rfl

end HwPulseCounter

/-- What a width filter should see of a train: the widths of the pulses that are over, and the
width so far of the pulse in flight. -/
structure PulseTrain where
  finished : List ℕ
  current : Option ℕ

/-- The first `width` microseconds of a pulse. -/
def PulseInput.pulseSoFar (width : ℕ) : List PulseInput :=
  .pulseStart :: List.replicate width .microsecond

/-- A whole pulse and the gap after it. -/
def PulseInput.pulse (width gap : ℕ) : List PulseInput :=
  PulseInput.pulseSoFar width ++ .pulseEnd :: List.replicate gap .microsecond

namespace PulseTrain

/-- A train with no pulse yet. -/
def quiet : PulseTrain := ⟨[], none⟩

/-- The widths of all pulses, the pulse in flight last. -/
def widths (train : PulseTrain) : List ℕ :=
  train.finished ++ train.current.toList

/-- Measure one more input. An end with no pulse in flight is ignored. -/
def feed (train : PulseTrain) : PulseInput → PulseTrain
  | .microsecond => { train with current := train.current.map (· + 1) }
  | .pulseStart => ⟨train.widths, some 0⟩
  | .pulseEnd => ⟨train.widths, none⟩

/-- Measure a whole train of inputs. -/
def measure (inputs : List PulseInput) : PulseTrain :=
  inputs.foldl feed quiet

/-- The number of pulses at least as wide as the threshold. -/
def accepted (train : PulseTrain) (threshold : ℕ) : ℕ :=
  train.widths.countP (threshold ≤ ·)

theorem accepted_eq (train : PulseTrain) (threshold : ℕ) :
    train.accepted threshold =
      train.finished.countP (threshold ≤ ·) + train.current.toList.countP (threshold ≤ ·) :=
  List.countP_append

theorem accepted_feed_pulseStart (train : PulseTrain) {threshold : ℕ}
    (threshold_pos : 0 < threshold) :
    (train.feed .pulseStart).accepted threshold = train.accepted threshold := by
  simp [feed, accepted, widths, List.countP_append, threshold_pos.ne']

theorem accepted_feed_pulseEnd (train : PulseTrain) (threshold : ℕ) :
    (train.feed .pulseEnd).accepted threshold = train.accepted threshold := by
  simp [feed, accepted, widths]

private theorem foldl_replicate_some (finished : List ℕ) (width elapsed : ℕ) :
    (List.replicate elapsed PulseInput.microsecond).foldl feed ⟨finished, some width⟩ =
      ⟨finished, some (width + elapsed)⟩ := by
  induction elapsed generalizing width with
  | zero => rfl
  | succ elapsed induction =>
      rw [List.replicate_succ, List.foldl_cons]
      exact (induction (width + 1)).trans (by rw [Nat.add_right_comm, Nat.add_assoc])

theorem foldl_replicate_none (finished : List ℕ) (gap : ℕ) :
    (List.replicate gap PulseInput.microsecond).foldl feed ⟨finished, none⟩ =
      ⟨finished, none⟩ := by
  induction gap with
  | zero => rfl
  | succ gap induction =>
      rw [List.replicate_succ, List.foldl_cons]
      exact induction

theorem foldl_pulseSoFar (train : PulseTrain) (width : ℕ) :
    (PulseInput.pulseSoFar width).foldl feed train = ⟨train.widths, some width⟩ := by
  rw [PulseInput.pulseSoFar, List.foldl_cons]
  exact (foldl_replicate_some train.widths 0 width).trans (by rw [Nat.zero_add])

theorem foldl_pulse (train : PulseTrain) (width gap : ℕ) :
    (PulseInput.pulse width gap).foldl feed train = ⟨train.widths ++ [width], none⟩ := by
  rw [PulseInput.pulse, List.foldl_append, foldl_pulseSoFar, List.foldl_cons]
  exact foldl_replicate_none (train.widths ++ [width]) gap

/-- A pulse joins the accepted ones exactly when it has reached the threshold. -/
theorem accepted_of_widths_eq {train later : PulseTrain} {width : ℕ}
    (widths_eq : later.widths = train.widths ++ [width]) (threshold : ℕ) :
    later.accepted threshold =
      train.accepted threshold + if threshold ≤ width then 1 else 0 := by
  simp [accepted, widths_eq, List.countP_append, List.countP_singleton]

end PulseTrain

namespace HwPulseCounter

/-- TIMER3 measures the pulse in flight until the threshold stops it, and TIMER2 has counted
exactly the pulses that reached the threshold. -/
structure Tracks (threshold : UInt32) (hw : HwPulseCounter) (train : PulseTrain) : Prop where
  cc0_eq : hw.timer3.cc0 = threshold
  stops : hw.timer3.compare0Stop = true
  counted : hw.timer2 = UInt32.ofNat (train.accepted threshold.toNat)
  measuring : ∀ width, train.current = some width → width < threshold.toNat →
    hw.timer3.running = true ∧ hw.timer3.count.toNat = width
  stopped : (∀ width, train.current = some width → threshold.toNat ≤ width) →
    hw.timer3.running = false

theorem tracks_started (threshold : UInt32) : Tracks threshold (started threshold) .quiet where
  cc0_eq := rfl
  stops := rfl
  counted := rfl
  measuring := by simp [PulseTrain.quiet]
  stopped _ := rfl

variable {threshold : UInt32} {hw : HwPulseCounter} {train : PulseTrain}

private theorem tracks_pulseStart (threshold_pos : 0 < threshold.toNat)
    (tracks : Tracks threshold hw train) (source : PulseSource) :
    Tracks threshold (hw.feed source .pulseStart) (train.feed .pulseStart) where
  cc0_eq := by simp [feed, tracks.cc0_eq]
  stops := by simp [feed, tracks.stops]
  counted := by
    rw [PulseTrain.accepted_feed_pulseStart train threshold_pos, ← tracks.counted]
    simp [feed]
  measuring := by
    intro width current _
    obtain rfl : 0 = width := by simpa [PulseTrain.feed] using current
    simp [feed]
  stopped late := absurd (late 0 rfl) (by omega)

private theorem tracks_pulseEnd (tracks : Tracks threshold hw train) (source : PulseSource) :
    Tracks threshold (hw.feed source .pulseEnd) (train.feed .pulseEnd) where
  cc0_eq := by simp [feed, tracks.cc0_eq]
  stops := by simp [feed, tracks.stops]
  counted := by
    rw [PulseTrain.accepted_feed_pulseEnd, ← tracks.counted]
    simp [feed]
  measuring := by simp [PulseTrain.feed]
  stopped _ := by simp [feed]

/-- A stopped timer lets a microsecond pass. -/
theorem microsecond_of_stopped (stopped : hw.timer3.running = false) :
    hw.microsecond = hw := by
  simp [microsecond, stopped]

/-- A running timer short of its threshold only counts. -/
theorem microsecond_of_short (running : hw.timer3.running = true)
    (short : (hw.timer3.count + 1).toUInt32 ≠ hw.timer3.cc0) :
    hw.microsecond = { hw with timer3 := { hw.timer3 with count := hw.timer3.count + 1 } } := by
  rw [microsecond, if_pos running]
  exact if_neg short

/-- A running timer that reaches its threshold counts the pulse and stops itself. -/
theorem microsecond_of_reached (running : hw.timer3.running = true)
    (stops : hw.timer3.compare0Stop = true)
    (reached : (hw.timer3.count + 1).toUInt32 = hw.timer3.cc0) :
    hw.microsecond =
      { timer2 := hw.timer2 + 1
        timer3 := { hw.timer3 with
          running := false
          count := hw.timer3.count + 1 } } := by
  rw [microsecond, if_pos running]
  dsimp only
  rw [if_pos reached, publish_timer3Compare0, if_pos stops]
  rfl

/-- One microsecond of a pulse counts it exactly when the threshold is reached. -/
theorem accepted_succ (train : PulseTrain) (threshold width : ℕ) :
    PulseTrain.accepted ⟨train.finished, some (width + 1)⟩ threshold =
      PulseTrain.accepted ⟨train.finished, some width⟩ threshold +
        if width + 1 = threshold then 1 else 0 := by
  simp only [PulseTrain.accepted_eq, Option.toList_some, List.countP_singleton,
    decide_eq_true_eq]
  split_ifs <;> omega

/-- A pulse short of the threshold is measured on, or counted when this microsecond reaches it. -/
private theorem tracks_microsecond_below (threshold_fits : threshold.toNat < 2 ^ 16)
    {finished : List ℕ} {width : ℕ} (tracks : Tracks threshold hw ⟨finished, some width⟩)
    (below : width < threshold.toNat) :
    Tracks threshold hw.microsecond ⟨finished, some (width + 1)⟩ := by
  obtain ⟨cc0_eq, stops, counted, measuring, -⟩ := tracks
  obtain ⟨running, count_eq⟩ := measuring width rfl below
  have accepted_next := accepted_succ ⟨finished, some width⟩ threshold.toNat width
  have next_eq : (hw.timer3.count + 1).toNat = width + 1 := by
    rw [UInt16.toNat_add, count_eq, UInt16.toNat_one]
    omega
  by_cases reached : width + 1 = threshold.toNat
  · have compares : (hw.timer3.count + 1).toUInt32 = hw.timer3.cc0 := by
      rw [cc0_eq, ← UInt32.toNat_inj, UInt16.toNat_toUInt32, next_eq, reached]
    rw [microsecond_of_reached running stops compares]
    refine ⟨cc0_eq, stops, ?_, ?_, fun _ => rfl⟩
    · rw [accepted_next, if_pos reached, UInt32.ofNat_add, ← counted]
      rfl
    · intro later current short
      obtain rfl := Option.some.inj current
      omega
  · have differs : (hw.timer3.count + 1).toUInt32 ≠ hw.timer3.cc0 := by
      rw [cc0_eq, ne_eq, ← UInt32.toNat_inj, UInt16.toNat_toUInt32, next_eq]
      exact reached
    rw [microsecond_of_short running differs]
    refine ⟨cc0_eq, stops, ?_, ?_, ?_⟩
    · rw [accepted_next, if_neg reached]
      exact counted
    · intro later current _
      obtain rfl := Option.some.inj current
      exact ⟨running, next_eq⟩
    · intro late
      have := late (width + 1) rfl
      omega

/-- A pulse that has reached the threshold is not counted again. -/
private theorem tracks_microsecond_beyond {finished : List ℕ} {width : ℕ}
    (tracks : Tracks threshold hw ⟨finished, some width⟩) (beyond : threshold.toNat ≤ width) :
    Tracks threshold hw.microsecond ⟨finished, some (width + 1)⟩ := by
  obtain ⟨cc0_eq, stops, counted, -, stopped⟩ := tracks
  have accepted_next := accepted_succ ⟨finished, some width⟩ threshold.toNat width
  have halted : hw.timer3.running = false := by
    apply stopped
    rintro later ⟨⟩
    exact beyond
  rw [microsecond_of_stopped halted]
  refine ⟨cc0_eq, stops, ?_, ?_, fun _ => halted⟩
  · rw [accepted_next, if_neg (by omega)]
    exact counted
  · intro later current short
    obtain rfl := Option.some.inj current
    omega

private theorem tracks_microsecond (threshold_fits : threshold.toNat < 2 ^ 16)
    (tracks : Tracks threshold hw train) (source : PulseSource) :
    Tracks threshold (hw.feed source .microsecond) (train.feed .microsecond) := by
  obtain ⟨finished, current⟩ := train
  change Tracks threshold hw.microsecond ⟨finished, current.map (· + 1)⟩
  cases current with
  | none =>
      rw [microsecond_of_stopped (tracks.stopped (by simp))]
      exact tracks
  | some width =>
      rcases Nat.lt_or_ge width threshold.toNat with below | beyond
      · exact tracks_microsecond_below threshold_fits tracks below
      · exact tracks_microsecond_beyond tracks beyond

/-- The timers keep track of the train through every input. -/
theorem tracks_feed (valid : calibrationIsValidPulseMinWidthUs threshold = true)
    (tracks : Tracks threshold hw train) (source : PulseSource) (input : PulseInput) :
    Tracks threshold (hw.feed source input) (train.feed input) := by
  obtain ⟨threshold_ge, threshold_le⟩ := calibrationIsValidPulseMinWidthUs_iff.mp valid
  cases input with
  | microsecond => exact tracks_microsecond (by omega) tracks source
  | pulseStart => exact tracks_pulseStart (by omega) tracks source
  | pulseEnd => exact tracks_pulseEnd tracks source

/-- The timers keep track of the train through every run. -/
theorem tracks_run (valid : calibrationIsValidPulseMinWidthUs threshold = true)
    (tracks : Tracks threshold hw train) (source : PulseSource) (inputs : List PulseInput) :
    Tracks threshold (hw.run source inputs) (inputs.foldl PulseTrain.feed train) := by
  induction inputs generalizing hw train with
  | nil => exact tracks
  | cons input inputs induction => exact induction (tracks_feed valid tracks source input)

/-- After any train, TIMER2 has counted the pulses that reached the threshold. -/
theorem timer2_run (valid : calibrationIsValidPulseMinWidthUs threshold = true)
    (source : PulseSource) (inputs : List PulseInput) :
    ((started threshold).run source inputs).timer2 =
      UInt32.ofNat ((PulseTrain.measure inputs).accepted threshold.toNat) :=
  (tracks_run valid (tracks_started threshold) source inputs).counted

/-- A pulse appended to any train, whole or still in flight, is counted exactly once if it has
reached the threshold and not at all otherwise. -/
private theorem timer2_append (valid : calibrationIsValidPulseMinWidthUs threshold = true)
    (source : PulseSource) (inputs pulse : List PulseInput) {width : ℕ}
    (widths_eq : (pulse.foldl PulseTrain.feed (PulseTrain.measure inputs)).widths =
      (PulseTrain.measure inputs).widths ++ [width]) :
    (((started threshold).run source inputs).run source pulse).timer2 =
      ((started threshold).run source inputs).timer2 +
        if threshold.toNat ≤ width then 1 else 0 := by
  have appended : ((started threshold).run source inputs).run source pulse =
      (started threshold).run source (inputs ++ pulse) := (List.foldl_append ..).symm
  have measured : PulseTrain.measure (inputs ++ pulse) =
      pulse.foldl PulseTrain.feed (PulseTrain.measure inputs) := List.foldl_append ..
  rw [appended, timer2_run valid, timer2_run valid, measured,
    PulseTrain.accepted_of_widths_eq widths_eq, UInt32.ofNat_add]
  split <;> rfl

/-- The filter counts exactly the pulses that are wide enough. From the state the initialization
leaves and after any train of inputs from one source, which may begin with an end edge and stop
inside a pulse, TIMER2 shows the number of accepted pulses modulo `2 ^ 32`. A further pulse of any
width, with any gap after it, is counted exactly once when it is wider than the threshold, at the
microsecond that reaches the threshold and never again, and not at all when it is narrower. -/
theorem counts_wide_pulses (valid : calibrationIsValidPulseMinWidthUs threshold = true)
    (source : PulseSource) (inputs : List PulseInput) :
    let hw := (started threshold).run source inputs
    hw.hwPulseCounterRead.toNat =
        (PulseTrain.measure inputs).accepted threshold.toNat % 2 ^ 32 ∧
      (∀ elapsed, (hw.run source (PulseInput.pulseSoFar elapsed)).hwPulseCounterRead =
        hw.hwPulseCounterRead + if threshold.toNat ≤ elapsed then 1 else 0) ∧
      ∀ width gap,
        (threshold.toNat < width →
          (hw.run source (PulseInput.pulse width gap)).hwPulseCounterRead =
            hw.hwPulseCounterRead + 1) ∧
        (width < threshold.toNat →
          (hw.run source (PulseInput.pulse width gap)).hwPulseCounterRead =
            hw.hwPulseCounterRead) := by
  refine ⟨?_, ?_, ?_⟩
  · rw [hwPulseCounterRead, timer2_run valid, UInt32.toNat_ofNat']
  · intro elapsed
    apply timer2_append valid
    rw [PulseTrain.foldl_pulseSoFar]
    rfl
  · intro width gap
    have counted : (((started threshold).run source inputs).run source
        (PulseInput.pulse width gap)).hwPulseCounterRead = _ :=
      timer2_append valid source inputs (PulseInput.pulse width gap) (by
        rw [PulseTrain.foldl_pulse, PulseTrain.widths, Option.toList_none, List.append_nil])
    constructor
    · intro wider
      rw [counted, if_pos wider.le]
      rfl
    · intro narrower
      rw [counted, if_neg (by omega)]
      exact UInt32.add_zero _

/-- A pulse longer than the range of TIMER3, after a stray end edge and a flicker. -/
theorem counts_wide_pulses_afterFlicker :
    let hw := (started 1000).run .lpcomp (.pulseEnd :: PulseInput.pulse 3 2)
    hw.hwPulseCounterRead.toNat = 0 ∧
      (hw.run .lpcomp (PulseInput.pulse 70000 5)).hwPulseCounterRead =
        hw.hwPulseCounterRead + 1 := by
  have counted := @counts_wide_pulses 1000 (by decide) .lpcomp
    (.pulseEnd :: PulseInput.pulse 3 2)
  exact ⟨counted.1.trans (by decide), (counted.2.2 70000 5).1 (by decide)⟩

end HwPulseCounter

end PowerMeter
