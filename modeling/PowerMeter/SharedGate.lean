import Mathlib.Data.List.Basic
import Mathlib.Data.List.Induction
import PowerMeter.HwPulseCounter

/-!
# Two pulse sources on one width timer

The LPCOMP and the D7 channels drive the same start, stop and clear tasks of TIMER3. The timer thus
measures one train, in which the edges of the two sources are not told apart: a pulse of either is
measured up to the next edge of any.
-/

namespace PowerMeter

/-- One microsecond or one edge of either source. -/
inductive SharedInput
  | microsecond
  | pulseStart (source : PulseSource)
  | pulseEnd (source : PulseSource)

namespace SharedInput

/-- The source of an edge. -/
def source? : SharedInput → Option PulseSource
  | .microsecond => none
  | .pulseStart source | .pulseEnd source => some source

/-- The input as the width timer sees it, its source left out. -/
def merged : SharedInput → PulseInput
  | .microsecond => .microsecond
  | .pulseStart _ => .pulseStart
  | .pulseEnd _ => .pulseEnd

/-- The input in the train of one source alone. -/
def own? (source : PulseSource) (input : SharedInput) : Option PulseInput :=
  if input.source? = none ∨ input.source? = some source then some input.merged else none

theorem merged_eq_microsecond_iff {input : SharedInput} :
    input.merged = .microsecond ↔ input = .microsecond := by
  cases input <;> simp [merged]

theorem source?_eq_none_iff {input : SharedInput} :
    input.source? = none ↔ input = .microsecond := by
  cases input <;> simp [source?]

theorem own?_of_source? {input : SharedInput} {source : PulseSource}
    (owned : input.source? = some source) : input.own? source = some input.merged :=
  if_pos (.inr owned)

end SharedInput

/-- The train of one source in an interleaving. -/
def PulseSource.train (source : PulseSource) (inputs : List SharedInput) : PulseTrain :=
  .measure (inputs.filterMap (SharedInput.own? source))

/-- The train the shared timer measures. -/
def mergedTrain (inputs : List SharedInput) : PulseTrain :=
  .measure (inputs.map SharedInput.merged)

/-- The pulses of both sources. -/
def pulsesOfBoth (inputs : List SharedInput) : ℕ :=
  (PulseSource.lpcomp.train inputs).widths.length + (PulseSource.bench.train inputs).widths.length

namespace HwPulseCounter

/-- React to one input of either source. -/
def react (hw : HwPulseCounter) : SharedInput → HwPulseCounter
  | .microsecond => hw.microsecond
  | .pulseStart source => hw.publish source.startEvent
  | .pulseEnd source => hw.publish source.endEvent

/-- React to an interleaving of the two sources. -/
def runShared (hw : HwPulseCounter) (inputs : List SharedInput) : HwPulseCounter :=
  inputs.foldl react hw

/-- How many inputs of an interleaving increment TIMER2. -/
def increments (hw : HwPulseCounter) : List SharedInput → ℕ
  | [] => 0
  | input :: inputs =>
      (if (hw.react input).timer2 = hw.timer2 then 0 else 1) + (hw.react input).increments inputs

/-- The timers do not see which source an edge comes from. -/
theorem react_eq (hw : HwPulseCounter) (input : SharedInput) :
    hw.react input = hw.feed .lpcomp input.merged := by
  cases input with
  | microsecond => rfl
  | pulseStart source | pulseEnd source => simp [react, feed, SharedInput.merged]

end HwPulseCounter

namespace PulseTrain

/-- A microsecond completes at most one pulse. -/
theorem accepted_feed_microsecond (train : PulseTrain) (threshold : ℕ) :
    (train.feed .microsecond).accepted threshold = train.accepted threshold ∨
      (train.feed .microsecond).accepted threshold = train.accepted threshold + 1 := by
  rcases train with ⟨finished, current⟩
  cases current with
  | none => exact .inl rfl
  | some width =>
      have next := HwPulseCounter.accepted_succ ⟨finished, some width⟩ threshold width
      by_cases reached : width + 1 = threshold
      · rw [if_pos reached] at next
        exact .inr next
      · rw [if_neg reached] at next
        exact .inl next

theorem accepted_feed (train : PulseTrain) {threshold : ℕ} (threshold_pos : 0 < threshold)
    (input : PulseInput) :
    (train.feed input).accepted threshold = train.accepted threshold ∨
      (train.feed input).accepted threshold = train.accepted threshold + 1 := by
  cases input with
  | microsecond => exact accepted_feed_microsecond train threshold
  | pulseStart => exact .inl (accepted_feed_pulseStart train threshold_pos)
  | pulseEnd => exact .inl (accepted_feed_pulseEnd train threshold)

theorem length_widths_feed (train : PulseTrain) (input : PulseInput) :
    (train.feed input).widths.length =
      train.widths.length + if input = .pulseStart then 1 else 0 := by
  rcases train with ⟨finished, current⟩
  cases input with
  | microsecond => cases current <;> simp [feed, widths]
  | pulseStart | pulseEnd => simp [feed, widths, Nat.add_assoc]

/-- Every start edge is a pulse. -/
theorem length_widths_foldl (train : PulseTrain) (inputs : List PulseInput) :
    (inputs.foldl feed train).widths.length =
      train.widths.length + inputs.count .pulseStart := by
  induction inputs generalizing train with
  | nil => rfl
  | cons input inputs induction =>
      rw [List.foldl_cons, induction, length_widths_feed, List.count_cons]
      simp only [beq_iff_eq]
      omega

theorem length_widths_measure (inputs : List PulseInput) :
    (measure inputs).widths.length = inputs.count .pulseStart :=
  (length_widths_foldl quiet inputs).trans (Nat.zero_add _)

/-- A finished pulse stays. -/
theorem mem_finished_foldl {train : PulseTrain} {width : ℕ} (member : width ∈ train.finished)
    (inputs : List PulseInput) : width ∈ (inputs.foldl feed train).finished := by
  induction inputs generalizing train with
  | nil => exact member
  | cons input inputs induction =>
      apply induction
      cases input with
      | microsecond => exact member
      | pulseStart | pulseEnd => exact List.mem_append_left _ member

/-- A pulse of this width is over: an edge follows its last microsecond. -/
def Finishes (width : ℕ) (inputs : List PulseInput) : Prop :=
  ∃ before edge after, inputs = before ++ (PulseInput.pulseSoFar width ++ edge :: after) ∧
    edge ≠ .microsecond

/-- A pulse of this width is in flight at the end. -/
def EndsIn (width : ℕ) (inputs : List PulseInput) : Prop :=
  ∃ before, inputs = before ++ PulseInput.pulseSoFar width

theorem measure_concat (inputs : List PulseInput) (input : PulseInput) :
    measure (inputs ++ [input]) = (measure inputs).feed input := by
  rw [measure, List.foldl_append]
  rfl

theorem Finishes.concat {width : ℕ} {inputs : List PulseInput} (finishes : Finishes width inputs)
    (input : PulseInput) : Finishes width (inputs ++ [input]) := by
  obtain ⟨before, edge, after, rfl, edge_ne⟩ := finishes
  exact ⟨before, edge, after ++ [input], by simp, edge_ne⟩

/-- The train records exactly the pulses of the list. -/
theorem measure_records (inputs : List PulseInput) :
    (∀ width ∈ (measure inputs).finished, Finishes width inputs) ∧
      ∀ width, (measure inputs).current = some width → EndsIn width inputs := by
  induction inputs using List.reverseRecOn with
  | nil => simp [measure, quiet]
  | append_singleton inputs input induction =>
      obtain ⟨finished, current⟩ := induction
      have isOver (edge : PulseInput) (edge_ne : edge ≠ .microsecond) :
          ∀ width ∈ (measure inputs).widths, Finishes width (inputs ++ [edge]) := by
        intro width member
        rcases List.mem_append.mp member with member | member
        · exact (finished width member).concat edge
        · obtain ⟨before, inputs_eq⟩ := current width (Option.mem_toList.mp member)
          exact ⟨before, edge, [], by rw [inputs_eq, List.append_assoc], edge_ne⟩
      rw [measure_concat]
      cases input with
      | microsecond =>
          refine ⟨fun width member => (finished width member).concat _, ?_⟩
          intro width grown
          obtain ⟨earlier, flying, rfl⟩ := Option.map_eq_some_iff.mp grown
          obtain ⟨before, inputs_eq⟩ := current earlier flying
          refine ⟨before, ?_⟩
          rw [inputs_eq, PulseInput.pulseSoFar, PulseInput.pulseSoFar, List.replicate_succ']
          simp
      | pulseStart =>
          refine ⟨isOver _ (by simp), ?_⟩
          intro width started
          obtain rfl := Option.some.inj started
          exact ⟨inputs, rfl⟩
      | pulseEnd =>
          refine ⟨isOver _ (by simp), ?_⟩
          intro width flying
          exact absurd flying (Option.some_ne_none width).symm

theorem mem_widths_of_endsIn {width : ℕ} {inputs : List PulseInput} (ends : EndsIn width inputs) :
    width ∈ (measure inputs).widths := by
  obtain ⟨before, rfl⟩ := ends
  rw [measure, List.foldl_append, foldl_pulseSoFar]
  exact List.mem_append_right _ List.mem_cons_self

theorem mem_widths_of_finishes {width : ℕ} {inputs : List PulseInput}
    (finishes : Finishes width inputs) : width ∈ (measure inputs).widths := by
  obtain ⟨before, edge, after, rfl, edge_ne⟩ := finishes
  rw [measure, List.foldl_append, List.foldl_append, foldl_pulseSoFar, List.foldl_cons]
  apply List.mem_append_left
  apply mem_finished_foldl
  cases edge with
  | microsecond => exact absurd rfl edge_ne
  | pulseStart | pulseEnd => exact List.mem_append_right _ List.mem_cons_self

/-- The widths of a train are those of the pulses that are over or in flight. -/
theorem mem_widths_iff {width : ℕ} {inputs : List PulseInput} :
    width ∈ (measure inputs).widths ↔ Finishes width inputs ∨ EndsIn width inputs := by
  obtain ⟨finished, current⟩ := measure_records inputs
  constructor
  · intro member
    rcases List.mem_append.mp member with member | member
    · exact .inl (finished width member)
    · exact .inr (current width (Option.mem_toList.mp member))
  · rintro (finishes | ends)
    · exact mem_widths_of_finishes finishes
    · exact mem_widths_of_endsIn ends

end PulseTrain

/-- Whenever the first edge after a pulse start comes from the other source, it leaves the pulse
the threshold. -/
def Undisturbed (threshold : ℕ) (inputs : List SharedInput) : Prop :=
  ∀ before source elapsed edge other after,
    inputs = before ++ (.pulseStart source :: (List.replicate elapsed .microsecond ++
      edge :: after)) →
    edge.source? = some other → other ≠ source → threshold ≤ elapsed

/-- Every pulse of either source is wider than the threshold. -/
def AllWide (threshold : ℕ) (inputs : List SharedInput) : Prop :=
  ∀ source : PulseSource, ∀ width ∈ (source.train inputs).widths, threshold < width

theorem map_merged_pulseSoFar (source : PulseSource) (elapsed : ℕ) :
    (SharedInput.pulseStart source :: List.replicate elapsed .microsecond).map SharedInput.merged =
      PulseInput.pulseSoFar elapsed := by
  simp [PulseInput.pulseSoFar, SharedInput.merged]

theorem filterMap_own?_pulseSoFar (source : PulseSource) (elapsed : ℕ) :
    (SharedInput.pulseStart source :: List.replicate elapsed .microsecond).filterMap
        (SharedInput.own? source) = PulseInput.pulseSoFar elapsed := by
  have start : (SharedInput.pulseStart source).own? source = some .pulseStart :=
    SharedInput.own?_of_source? rfl
  have tick : SharedInput.microsecond.own? source = some .microsecond := if_pos (.inl rfl)
  rw [List.filterMap_cons_some start, List.filterMap_replicate_of_some tick]
  rfl

/-- A pulse of the merged train starts with an edge of one of the sources. -/
theorem eq_pulseSoFar_of_map_merged {inputs : List SharedInput} {elapsed : ℕ}
    (merged_eq : inputs.map SharedInput.merged = PulseInput.pulseSoFar elapsed) :
    ∃ source, inputs = .pulseStart source :: List.replicate elapsed .microsecond := by
  obtain ⟨start, ticks, rfl, start_eq, ticks_eq⟩ := List.map_eq_cons_iff.mp merged_eq
  obtain ⟨length_eq, ticks_eq⟩ := List.eq_replicate_iff.mp ticks_eq
  rw [List.length_map] at length_eq
  have only_ticks : ticks = List.replicate elapsed .microsecond :=
    List.eq_replicate_iff.mpr ⟨length_eq, fun tick member =>
      SharedInput.merged_eq_microsecond_iff.mp (ticks_eq _ (List.mem_map_of_mem member))⟩
  cases start with
  | microsecond | pulseEnd source => simp [SharedInput.merged] at start_eq
  | pulseStart source => exact ⟨source, by rw [only_ticks]⟩

/-- When all pulses are wide, the merged train cuts none short exactly if no source disturbs the
other. -/
theorem merged_widths_iff {threshold : ℕ} {inputs : List SharedInput}
    (wide : AllWide threshold inputs) :
    (∀ width ∈ (mergedTrain inputs).widths, threshold ≤ width) ↔ Undisturbed threshold inputs := by
  constructor
  · rintro reached before source elapsed edge other after rfl edge_source -
    apply reached
    refine PulseTrain.mem_widths_of_finishes
      ⟨before.map SharedInput.merged, edge.merged, after.map SharedInput.merged, ?_, ?_⟩
    · rw [← map_merged_pulseSoFar source, ← List.cons_append]
      simp
    · intro tick
      rw [SharedInput.merged_eq_microsecond_iff.mp tick] at edge_source
      exact absurd edge_source (Option.some_ne_none other).symm
  · intro undisturbed width member
    rcases PulseTrain.mem_widths_iff.mp member with
      ⟨before', edge', after', split, edge_ne⟩ | ⟨before', split⟩
    · obtain ⟨before, rest, rfl, -, rest_eq⟩ := List.map_eq_append_iff.mp split
      obtain ⟨pulse, tail, rfl, pulse_eq, tail_eq⟩ := List.map_eq_append_iff.mp rest_eq
      obtain ⟨edge, after, rfl, rfl, -⟩ := List.map_eq_cons_iff.mp tail_eq
      obtain ⟨source, rfl⟩ := eq_pulseSoFar_of_map_merged pulse_eq
      cases owner : edge.source? with
      | none =>
          rw [SharedInput.source?_eq_none_iff.mp owner] at edge_ne
          exact absurd rfl edge_ne
      | some other =>
          by_cases same : other = source
          · refine (wide source width (PulseTrain.mem_widths_of_finishes
              ⟨before.filterMap (SharedInput.own? source), edge.merged,
                after.filterMap (SharedInput.own? source), ?_, edge_ne⟩)).le
            rw [List.filterMap_append, List.filterMap_append, filterMap_own?_pulseSoFar,
              List.filterMap_cons_some (SharedInput.own?_of_source? (same ▸ owner))]
          · exact undisturbed before source width edge other after rfl owner same
    · obtain ⟨before, pulse, rfl, -, pulse_eq⟩ := List.map_eq_append_iff.mp split
      obtain ⟨source, rfl⟩ := eq_pulseSoFar_of_map_merged pulse_eq
      refine (wide source width (PulseTrain.mem_widths_of_endsIn
        ⟨before.filterMap (SharedInput.own? source), ?_⟩)).le
      rw [List.filterMap_append, filterMap_own?_pulseSoFar]

/-- A start edge belongs to one of the two sources. -/
theorem count_start_own? (input : SharedInput) :
    [input.merged].count .pulseStart =
      (input.own? .lpcomp).toList.count .pulseStart +
        (input.own? .bench).toList.count .pulseStart := by
  rcases input with _ | source | source
  · rfl
  · cases source <;> rfl
  · cases source <;> rfl

theorem filterMap_own?_cons (source : PulseSource) (input : SharedInput)
    (inputs : List SharedInput) :
    (input :: inputs).filterMap (SharedInput.own? source) =
      (input.own? source).toList ++ inputs.filterMap (SharedInput.own? source) := by
  rw [List.filterMap_cons]
  cases input.own? source <;> rfl

theorem count_start_merged (inputs : List SharedInput) :
    (inputs.map SharedInput.merged).count .pulseStart =
      (inputs.filterMap (SharedInput.own? .lpcomp)).count .pulseStart +
        (inputs.filterMap (SharedInput.own? .bench)).count .pulseStart := by
  induction inputs with
  | nil => rfl
  | cons input inputs induction =>
      rw [List.map_cons, ← List.singleton_append, List.count_append, count_start_own?, induction,
        filterMap_own?_cons, filterMap_own?_cons, List.count_append, List.count_append]
      omega

/-- The merged train has the pulses of both sources. -/
theorem length_widths_mergedTrain (inputs : List SharedInput) :
    (mergedTrain inputs).widths.length = pulsesOfBoth inputs := by
  rw [pulsesOfBoth, PulseSource.train, PulseSource.train, mergedTrain,
    PulseTrain.length_widths_measure, PulseTrain.length_widths_measure,
    PulseTrain.length_widths_measure, count_start_merged]

namespace HwPulseCounter

variable {threshold : UInt32}

/-- TIMER2 is incremented once for every pulse of the merged train that reaches the threshold. -/
theorem increments_eq (valid : calibrationIsValidPulseMinWidthUs threshold = true)
    {hw : HwPulseCounter} {train : PulseTrain} (tracks : Tracks threshold hw train)
    (inputs : List SharedInput) :
    train.accepted threshold.toNat + hw.increments inputs =
      ((inputs.map SharedInput.merged).foldl PulseTrain.feed train).accepted threshold.toNat := by
  have threshold_pos : 0 < threshold.toNat := by
    obtain ⟨threshold_ge, -⟩ := calibrationIsValidPulseMinWidthUs_iff.mp valid
    omega
  induction inputs generalizing hw train with
  | nil => rfl
  | cons input inputs induction =>
      have next : Tracks threshold (hw.react input) (train.feed input.merged) := by
        rw [react_eq]
        exact tracks_feed valid tracks .lpcomp input.merged
      have rest := induction next
      rw [List.map_cons, List.foldl_cons, ← rest, increments, next.counted, tracks.counted]
      rcases train.accepted_feed threshold_pos input.merged with same | more
      · rw [same, if_pos rfl, Nat.zero_add]
      · have differs : UInt32.ofNat (train.accepted threshold.toNat + 1) ≠
            UInt32.ofNat (train.accepted threshold.toNat) := by
          rw [UInt32.ofNat_add]
          simp
        rw [more, if_neg differs, Nat.add_assoc]

theorem tracks_runShared (valid : calibrationIsValidPulseMinWidthUs threshold = true)
    (inputs : List SharedInput) :
    Tracks threshold ((started threshold).runShared inputs) (mergedTrain inputs) := by
  have merged_run : (started threshold).runShared inputs =
      (started threshold).run .lpcomp (inputs.map SharedInput.merged) := by
    rw [runShared, run, List.foldl_map]
    exact congrArg (fun step => inputs.foldl step (started threshold))
      (funext fun hw => funext fun input => react_eq hw input)
  rw [merged_run]
  exact tracks_run valid (tracks_started threshold) .lpcomp _

/-- From the start the increments are the accepted pulses of the merged train. -/
theorem increments_started (valid : calibrationIsValidPulseMinWidthUs threshold = true)
    (inputs : List SharedInput) :
    (started threshold).increments inputs =
      (mergedTrain inputs).accepted threshold.toNat := by
  have counted := increments_eq valid (tracks_started threshold) inputs
  rw [mergedTrain, PulseTrain.measure, ← counted]
  exact (Nat.zero_add _).symm

/-- With wide pulses only, every pulse is counted exactly if no source disturbs the other. -/
theorem increments_eq_pulses_iff (valid : calibrationIsValidPulseMinWidthUs threshold = true)
    {inputs : List SharedInput} (wide : AllWide threshold.toNat inputs) :
    (started threshold).increments inputs = pulsesOfBoth inputs ↔
      Undisturbed threshold.toNat inputs := by
  rw [increments_started valid, ← length_widths_mergedTrain, PulseTrain.accepted,
    List.countP_eq_length, ← merged_widths_iff wide]
  simp only [decide_eq_true_eq]

/-- Two sources of wide pulses add up exactly on the interleavings in which whenever the first edge
after a pulse start comes from the other source, it leaves the pulse the threshold: there TIMER2 is
incremented once for each pulse, and the reading is the number of pulses of both sources. -/
theorem counts_union_iff (valid : calibrationIsValidPulseMinWidthUs threshold = true)
    (inputs : List SharedInput) (wide : AllWide threshold.toNat inputs) :
    ((started threshold).increments inputs = pulsesOfBoth inputs ∧
      ((started threshold).runShared inputs).hwPulseCounterRead =
        UInt32.ofNat (pulsesOfBoth inputs)) ↔ Undisturbed threshold.toNat inputs := by
  rw [← increments_eq_pulses_iff valid wide]
  refine ⟨And.left, fun counted => ⟨counted, ?_⟩⟩
  rw [hwPulseCounterRead, (tracks_runShared valid inputs).counted, ← increments_started valid,
    counted]

/-- A bench pulse starts `lead` microseconds into a meter pulse, which ends `overlap` microseconds
later, and ends `rest` microseconds after that. -/
def overlappingPulses (lead overlap rest : ℕ) : List SharedInput :=
  .pulseStart .lpcomp :: (List.replicate lead .microsecond ++
    .pulseStart .bench :: (List.replicate overlap .microsecond ++
      .pulseEnd .lpcomp :: (List.replicate rest .microsecond ++ [.pulseEnd .bench])))

theorem widths_overlappingPulses (lead overlap rest : ℕ) :
    (PulseSource.lpcomp.train (overlappingPulses lead overlap rest)).widths = [lead + overlap] ∧
      (PulseSource.bench.train (overlappingPulses lead overlap rest)).widths = [overlap + rest] ∧
      (mergedTrain (overlappingPulses lead overlap rest)).widths = [lead, overlap] := by
  have meter : (overlappingPulses lead overlap rest).filterMap (SharedInput.own? .lpcomp) =
      PulseInput.pulse (lead + overlap) rest := by
    simp [overlappingPulses, SharedInput.own?, SharedInput.source?, SharedInput.merged,
      PulseInput.pulse, PulseInput.pulseSoFar, List.replicate_add,
      -List.replicate_append_replicate]
  have bench : (overlappingPulses lead overlap rest).filterMap (SharedInput.own? .bench) =
      List.replicate lead .microsecond ++ PulseInput.pulse (overlap + rest) 0 := by
    simp [overlappingPulses, SharedInput.own?, SharedInput.source?, SharedInput.merged,
      PulseInput.pulse, PulseInput.pulseSoFar, List.replicate_add,
      -List.replicate_append_replicate]
  have merged : (overlappingPulses lead overlap rest).map SharedInput.merged =
      PulseInput.pulseSoFar lead ++ (PulseInput.pulse overlap rest ++ [.pulseEnd]) := by
    simp [overlappingPulses, SharedInput.merged, PulseInput.pulse, PulseInput.pulseSoFar]
  refine ⟨?_, ?_, ?_⟩
  · rw [PulseSource.train, meter, PulseTrain.measure, PulseTrain.foldl_pulse]
    rfl
  · rw [PulseSource.train, bench, PulseTrain.measure, List.foldl_append, PulseTrain.quiet,
      PulseTrain.foldl_replicate_none, PulseTrain.foldl_pulse]
    rfl
  · rw [mergedTrain, merged, PulseTrain.measure, List.foldl_append, PulseTrain.foldl_pulseSoFar,
      List.foldl_append, PulseTrain.foldl_pulse]
    rfl

/-- Pulses that overlap late are both counted. -/
theorem counts_union_iff_lateOverlap : Undisturbed 100 (overlappingPulses 120 150 50) := by
  obtain ⟨meter, bench, merged⟩ := widths_overlappingPulses 120 150 50
  have valid : calibrationIsValidPulseMinWidthUs 100 = true := by decide
  have wide : AllWide (100 : UInt32).toNat (overlappingPulses 120 150 50) := by
    intro source
    cases source with
    | lpcomp => simp [meter]
    | bench => simp [bench]
  refine (counts_union_iff valid _ wide).mp ⟨?_, ?_⟩
  · simp [increments_started valid, pulsesOfBoth, PulseTrain.accepted, meter, bench, merged]
  · rw [hwPulseCounterRead, (tracks_runShared valid _).counted]
    simp [pulsesOfBoth, PulseTrain.accepted, meter, bench, merged]

/-- Two wide pulses that overlap early leave one increment. -/
theorem early_overlap_loses_pulse :
    AllWide (100 : UInt32).toNat (overlappingPulses 50 150 50) ∧
      pulsesOfBoth (overlappingPulses 50 150 50) = 2 ∧
      (started 100).increments (overlappingPulses 50 150 50) = 1 ∧
      ((started 100).runShared (overlappingPulses 50 150 50)).hwPulseCounterRead = 1 := by
  obtain ⟨meter, bench, merged⟩ := widths_overlappingPulses 50 150 50
  have valid : calibrationIsValidPulseMinWidthUs 100 = true := by decide
  refine ⟨?_, ?_, ?_, ?_⟩
  · intro source
    cases source with
    | lpcomp => simp [meter]
    | bench => simp [bench]
  · simp [pulsesOfBoth, meter, bench]
  · simp [increments_started valid, PulseTrain.accepted, merged]
  · rw [hwPulseCounterRead, (tracks_runShared valid _).counted]
    simp [PulseTrain.accepted, merged]

end HwPulseCounter

end PowerMeter
