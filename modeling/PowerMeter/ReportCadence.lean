import PowerMeter.SummationPublish
import PowerMeter.SummationFreshness

/-!
# The cadence of explicit reports

The report gate counts the iterations that publish, and the sample loop forces a report when a
hundred of them have passed. That bounds the pulses between two forced reports as long as no
iteration that only counts sees more than one.
-/

namespace PowerMeter

open Guarded

/-- What the cadence depends on: pulses an iteration finds, and a forced report. -/
inductive CadenceEvent
  | pulses (count : ℕ)
  | report

/-- The pulses since the last forced report, after one more event. -/
def CadenceEvent.sinceReport (since : ℕ) : CadenceEvent → ℕ
  | .pulses count => since + count
  | .report => 0

namespace SummationPublish

/-- The event of a step, if it has one. -/
def cadenceEvent (publish : SummationPublish) : PublishStep → Option CadenceEvent
  | .loop pulses =>
      if publish.loopPc = .asleep then some (.pulses (publish.acc.delta pulses))
      else if publish.loopPc = .updated ∧ publish.decidePublish.loopPc = .sampling then
        some .report
      else none
  | .report => none
  | .zboss => none

/-- The pulses the sample loop has counted since it last called
`zigbee_app_publish_summation_and_report`, or since boot. -/
def pulsesSinceReport (acc : PulseAccumulator) (history : List PublishStep) : ℕ :=
  (machine.observations cadenceEvent (booted acc) history).foldl CadenceEvent.sinceReport 0

/-- An iteration sees at most one pulse, unless the gate is about to fire. -/
def SinglePulses : Machine.Assumption SummationPublish PublishStep := fun _ before action =>
  ∀ pulses, action = .loop pulses → before.loopPc = .asleep →
    before.acc.delta pulses ≤ 1 ∨
      before.pulseHeartbeat.period.toNat ≤ before.pulseHeartbeat.counter.toNat + 1

/-- The loop has found new pulses and not published them yet. -/
def PublishDue (publish : SummationPublish) : Prop :=
  publish.loopPc = .updated ∧ publish.acc.total ≠ publish.lastPublishedTotal

variable {acc : PulseAccumulator} {publish before after final : SummationPublish}
  {action : PublishStep} {history : List PublishStep}

/-- A step finds pulses, counts a due publish, reports with it, or changes nothing here. -/
theorem cadence_cases (paced : publish.Paced)
    (below : publish.pulseHeartbeat.counter.toNat < publish.pulseHeartbeat.period.toNat)
    (step : machine.step publish action = some after) :
    (∃ pulses, action = .loop pulses ∧ publish.loopPc = .asleep ∧
      publish.cadenceEvent action = some (.pulses (publish.acc.delta pulses)) ∧
      (after.PublishDue ↔ publish.acc.delta pulses ≠ 0) ∧
      after.pulseHeartbeat = publish.pulseHeartbeat) ∨
    (publish.PublishDue ∧ ¬ after.PublishDue ∧ publish.cadenceEvent action = none ∧
      after.pulseHeartbeat.period = publish.pulseHeartbeat.period ∧
      after.pulseHeartbeat.counter.toNat = publish.pulseHeartbeat.counter.toNat + 1 ∧
      publish.pulseHeartbeat.counter.toNat + 1 < publish.pulseHeartbeat.period.toNat) ∨
    (publish.PublishDue ∧ ¬ after.PublishDue ∧ publish.cadenceEvent action = some .report ∧
      after.pulseHeartbeat.period = publish.pulseHeartbeat.period ∧
      after.pulseHeartbeat.counter.toNat = 0) ∨
    (publish.cadenceEvent action = none ∧ (after.PublishDue ↔ publish.PublishDue) ∧
      after.pulseHeartbeat = publish.pulseHeartbeat) := by
  cases action with
  | loop pulses =>
      obtain rfl := Option.some.inj step
      cases pc_eq : publish.loopPc with
      | asleep =>
          have published_eq := paced.published_eq (.inr pc_eq)
          refine .inl ⟨pulses, rfl, rfl, by simp [cadenceEvent, pc_eq], ?_, ?_⟩
          · simp only [PublishDue, loopStep, pc_eq, true_and, published_eq, ne_eq,
              PulseAccumulator.total_update_eq_iff]
          · simp only [loopStep, pc_eq]
      | updated =>
          by_cases changed : publish.acc.total = publish.lastPublishedTotal
          · refine .inr (.inr (.inr ⟨?_, ?_, ?_⟩)) <;>
              simp [cadenceEvent, PublishDue, loopStep, decidePublish, pc_eq, changed]
          · rcases Nat.lt_or_ge (publish.pulseHeartbeat.counter.toNat + 1)
                publish.pulseHeartbeat.period.toNat with early | fires
            · obtain ⟨advance_eq, counter_eq⟩ := ReportGate.advance_counts early
              refine .inr (.inl ⟨⟨pc_eq, changed⟩, ?_, ?_, ?_, ?_, early⟩) <;>
                simp [cadenceEvent, PublishDue, loopStep, decidePublish, pc_eq, changed,
                  advance_eq, counter_eq]
            · have advance_eq := ReportGate.advance_fires below fires
              refine .inr (.inr (.inl ⟨⟨pc_eq, changed⟩, ?_, ?_, ?_, ?_⟩)) <;>
                simp [cadenceEvent, PublishDue, loopStep, decidePublish, pc_eq, changed,
                  advance_eq]
      | booted | firstStored | arming | sampling | storing | stored =>
          refine .inr (.inr (.inr ⟨?_, ?_, ?_⟩)) <;>
            simp [cadenceEvent, PublishDue, loopStep, storeTotal, scheduleAppCallback, pc_eq]
  | report =>
      refine .inr (.inr (.inr ⟨rfl, ?_, ?_⟩)) <;>
        rcases reportStep_cases step with ⟨-, -, rfl⟩ | ⟨total, -, rfl⟩ | ⟨total, -, rfl⟩ |
          ⟨-, rfl⟩ <;> rfl
  | zboss =>
      obtain ⟨callback, callbacks, -, rfl⟩ := zbossStep_inv step
      exact .inr (.inr (.inr ⟨rfl, Iff.rfl, rfl⟩))

/-- The gate counts up to its period, and every changed iteration counts at least one pulse. -/
structure Gated (publish : SummationPublish) (since : ℕ) : Prop where
  period_eq : publish.pulseHeartbeat.period = zigbeeReportPulseHeartbeat
  below : publish.pulseHeartbeat.counter.toNat < publish.pulseHeartbeat.period.toNat
  idle_le : ¬ publish.PublishDue → publish.pulseHeartbeat.counter.toNat ≤ since
  due_le : publish.PublishDue → publish.pulseHeartbeat.counter.toNat + 1 ≤ since

/-- While iterations see single pulses, the gate keeps up with them. -/
structure KeepsUp (publish : SummationPublish) (since : ℕ) : Prop where
  idle_ge : ¬ publish.PublishDue → since ≤ publish.pulseHeartbeat.counter.toNat
  due_ge : publish.PublishDue → since ≤ publish.pulseHeartbeat.counter.toNat + 1 ∨
    publish.pulseHeartbeat.period.toNat ≤ publish.pulseHeartbeat.counter.toNat + 1

/-- The count of pulses since the last report, after the event of one more step. -/
def sinceAfter (publish : SummationPublish) (action : PublishStep) (since : ℕ) : ℕ :=
  (publish.cadenceEvent action).elim since (CadenceEvent.sinceReport since)

theorem gated_step {since : ℕ} (paced : publish.Paced) (gated : publish.Gated since)
    (step : machine.step publish action = some after) :
    after.Gated (publish.sinceAfter action since) := by
  obtain ⟨period_eq, below, idle_le, due_le⟩ := gated
  rw [sinceAfter]
  rcases cadence_cases paced below step with ⟨pulses, -, pc_eq, event_eq, due_iff, gate_eq⟩ |
    ⟨due, published, event_eq, same_period, counter_eq, early⟩ |
    ⟨due, published, event_eq, same_period, counter_eq⟩ | ⟨event_eq, due_iff, gate_eq⟩ <;>
    simp only [event_eq, Option.elim, CadenceEvent.sinceReport]
  · have idle := idle_le fun due => by simp [due.1] at pc_eq
    refine ⟨gate_eq ▸ period_eq, gate_eq ▸ below, fun _ => ?_, fun due => ?_⟩
    · rw [gate_eq]
      omega
    · have some_pulses := due_iff.mp due
      rw [gate_eq]
      omega
  · have counted := due_le due
    refine ⟨same_period.trans period_eq, ?_, fun _ => ?_, fun due => absurd due published⟩
    · rwa [same_period, counter_eq]
    · rwa [counter_eq]
  · refine ⟨same_period.trans period_eq, ?_, fun _ => ?_, fun due => absurd due published⟩
    · rw [same_period, counter_eq]
      exact Nat.lt_of_le_of_lt (Nat.zero_le _) below
    · rw [counter_eq]
  · refine ⟨gate_eq ▸ period_eq, gate_eq ▸ below, ?_, ?_⟩ <;> rw [due_iff, gate_eq]
    · exact idle_le
    · exact due_le

theorem keepsUp_step {since : ℕ} (paced : publish.Paced) (gated : publish.Gated since)
    (keepsUp : publish.KeepsUp since) (admitted : SinglePulses history publish action)
    (step : machine.step publish action = some after) :
    after.KeepsUp (publish.sinceAfter action since) := by
  obtain ⟨idle_ge, due_ge⟩ := keepsUp
  rw [sinceAfter]
  rcases cadence_cases paced gated.below step with
    ⟨pulses, action_eq, pc_eq, event_eq, due_iff, gate_eq⟩ |
    ⟨due, published, event_eq, -, counter_eq, early⟩ |
    ⟨due, published, event_eq, -, -⟩ | ⟨event_eq, due_iff, gate_eq⟩ <;>
    simp only [event_eq, Option.elim, CadenceEvent.sinceReport]
  · have idle := idle_ge fun due => by simp [due.1] at pc_eq
    have single := admitted pulses action_eq pc_eq
    refine ⟨fun none_due => ?_, fun _ => ?_⟩ <;> rw [gate_eq]
    · have no_pulse : publish.acc.delta pulses = 0 := by
        by_contra pulsed
        exact none_due (due_iff.mpr pulsed)
      omega
    · omega
  · have kept := due_ge due
    refine ⟨fun _ => ?_, fun due => absurd due published⟩
    rw [counter_eq]
    omega
  · exact ⟨fun _ => Nat.zero_le _, fun due => absurd due published⟩
  · refine ⟨?_, ?_⟩ <;> rw [due_iff, gate_eq]
    · exact idle_ge
    · exact due_ge

/-- One more step adds its event to the count. -/
theorem pulsesSinceReport_concat (ran : machine.run (booted acc) history = some publish)
    (step : machine.step publish action = some after) :
    pulsesSinceReport acc (history ++ [action]) =
      publish.sinceAfter action (pulsesSinceReport acc history) := by
  rw [pulsesSinceReport, Machine.observations_concat cadenceEvent ran step, List.foldl_append,
    sinceAfter]
  cases publish.cadenceEvent action <;> rfl

theorem not_publishDue_booted (acc : PulseAccumulator) : ¬ (booted acc).PublishDue := by
  simp [PublishDue, booted]

theorem gated_path {admits : Machine.Assumption SummationPublish PublishStep}
    (path : machine.Path admits (booted acc) history final) :
    final.Gated (pulsesSinceReport acc history) := by
  induction path with
  | nil =>
      refine ⟨rfl, by simp [booted, ReportGate.init, zigbeeReportPulseHeartbeat],
        fun _ => Nat.zero_le _, ?_⟩
      exact fun due => absurd due (not_publishDue_booted acc)
  | snoc path _ step induction =>
      rw [pulsesSinceReport_concat path.run_eq step]
      exact gated_step (paced_path path) induction step

theorem keepsUp_path (path : machine.Path SinglePulses (booted acc) history final) :
    final.KeepsUp (pulsesSinceReport acc history) := by
  induction path with
  | nil =>
      refine ⟨fun _ => Nat.zero_le _, ?_⟩
      exact fun due => absurd due (not_publishDue_booted acc)
  | snoc path admitted step induction =>
      rw [pulsesSinceReport_concat path.run_eq step]
      exact keepsUp_step (paced_path path) (gated_path path) induction admitted step

/-- The rest of an iteration that finds pulses without a report, and the iteration as a whole. -/
def quietIteration (pulses : UInt32) : List PublishStep :=
  [.loop pulses, .loop 0, .loop 0, .loop 0]

/-- The state after such an iteration. -/
def afterQuiet (publish : SummationPublish) (pulses : UInt32) : SummationPublish :=
  { publish with
    acc := publish.acc.update pulses
    lastPublishedTotal := (publish.acc.update pulses).total
    pulseHeartbeat := { publish.pulseHeartbeat with
      counter := publish.pulseHeartbeat.counter + 1 }
    pendingSummationTotal := (publish.acc.update pulses).total
    callbacks := publish.callbacks ++ [.publishSummationCb] }

/-- An iteration that finds pulses before the gate fires only counts. -/
theorem run_quietIteration (paced : publish.Paced) (asleep : publish.loopPc = .asleep)
    {pulses : UInt32} (some_pulses : publish.acc.delta pulses ≠ 0)
    (early : publish.pulseHeartbeat.counter.toNat + 1 < publish.pulseHeartbeat.period.toNat) :
    machine.run publish (quietIteration pulses) = some (publish.afterQuiet pulses) ∧
      machine.observations cadenceEvent publish (quietIteration pulses) =
        [.pulses (publish.acc.delta pulses)] := by
  have published_eq := paced.published_eq (.inr asleep)
  have changed : (publish.acc.update pulses).total ≠ publish.lastPublishedTotal := by
    rw [published_eq, ne_eq, PulseAccumulator.total_update_eq_iff]
    exact some_pulses
  have advance_eq := (ReportGate.advance_counts early).1
  constructor
  · simp [quietIteration, Machine.run_cons, machine, loopStep, asleep, decidePublish, changed,
      advance_eq, storeTotal, scheduleAppCallback, afterQuiet]
  · simp [quietIteration, Machine.observations, machine, loopStep, asleep, decidePublish, changed,
      advance_eq, storeTotal, scheduleAppCallback, cadenceEvent]

/-- Such an iteration adds its pulses to the count, and one to the gate. -/
theorem path_quietIteration (path : machine.Path .any (booted acc) history publish)
    (asleep : publish.loopPc = .asleep) {pulses : UInt32}
    (some_pulses : publish.acc.delta pulses ≠ 0)
    (early : publish.pulseHeartbeat.counter.toNat + 1 < publish.pulseHeartbeat.period.toNat) :
    machine.Path .any (booted acc) (history ++ quietIteration pulses)
        (publish.afterQuiet pulses) ∧
      pulsesSinceReport acc (history ++ quietIteration pulses) =
        pulsesSinceReport acc history + publish.acc.delta pulses := by
  obtain ⟨ran, seen⟩ := run_quietIteration (paced_path path) asleep some_pulses early
  refine ⟨path.append_run (fun _ _ _ _ => trivial) ran, ?_⟩
  rw [pulsesSinceReport, Machine.observations_append cadenceEvent path.run_eq, seen,
    List.foldl_append]
  rfl

/-- Once the count is ahead of the gate, single pulses take it to a whole period. -/
theorem overdue (path : machine.Path .any (booted acc) history publish)
    (asleep : publish.loopPc = .asleep)
    (ahead : publish.pulseHeartbeat.counter.toNat < pulsesSinceReport acc history) :
    ∃ later final, machine.Path .any (booted acc) (history ++ later) final ∧
      final.loopPc = .asleep ∧
      zigbeeReportPulseHeartbeat.toNat ≤ pulsesSinceReport acc (history ++ later) := by
  have gated := gated_path path
  generalize left_eq : publish.pulseHeartbeat.period.toNat -
    publish.pulseHeartbeat.counter.toNat = left
  induction left generalizing history publish with
  | zero =>
      have below := gated.below
      omega
  | succ left induction =>
      rcases Nat.lt_or_ge (publish.pulseHeartbeat.counter.toNat + 1)
          publish.pulseHeartbeat.period.toNat with early | full
      · obtain ⟨reading, one_pulse⟩ : ∃ reading, publish.acc.delta reading = 1 :=
          ⟨_, publish.acc.delta_advance 1⟩
        have some_pulse : publish.acc.delta reading ≠ 0 := one_pulse ▸ Nat.one_ne_zero
        obtain ⟨longer, since_eq⟩ := path_quietIteration path asleep some_pulse early
        have counter_eq := (ReportGate.advance_counts early).2
        rw [one_pulse] at since_eq
        have still_ahead : (publish.pulseHeartbeat.counter + 1).toNat <
            pulsesSinceReport acc (history ++ quietIteration reading) := by
          rw [counter_eq, since_eq]
          omega
        have one_less : publish.pulseHeartbeat.period.toNat -
            (publish.pulseHeartbeat.counter + 1).toNat = left := by
          omega
        obtain ⟨later, final, path, rest⟩ :=
          induction longer asleep still_ahead (gated_path longer) one_less
        rw [List.append_assoc] at path rest
        exact ⟨_, final, path, rest⟩
      · refine ⟨[], publish, by simpa using path, asleep, ?_⟩
        rw [List.append_nil, ← gated.period_eq]
        omega

/-- At the end of every iteration fewer than a hundred pulses have been counted since the last
forced report, as long as every iteration before the gate fires sees at most one pulse; and any
iteration that sees more can be followed by single pulses up to a hundred without a report. -/
theorem report_cadence (acc : PulseAccumulator) :
    (∀ history final, machine.Path SinglePulses (booted acc) history final →
      final.loopPc = .asleep →
      pulsesSinceReport acc history < zigbeeReportPulseHeartbeat.toNat) ∧
    (∀ history before pulses, machine.Path .any (booted acc) history before →
      ¬ SinglePulses history before (.loop pulses) →
      ∃ later final, machine.Path .any (booted acc) (history ++ .loop pulses :: later) final ∧
        final.loopPc = .asleep ∧ zigbeeReportPulseHeartbeat.toNat ≤
          pulsesSinceReport acc (history ++ .loop pulses :: later)) := by
  constructor
  · intro history final path asleep
    have gated := gated_path path
    have idle : ¬ final.PublishDue := fun due => by simp [due.1] at asleep
    rw [← gated.period_eq]
    exact Nat.lt_of_le_of_lt ((keepsUp_path path).idle_ge idle) gated.below
  · intro history before pulses path breaks
    obtain ⟨asleep, several, early⟩ : before.loopPc = .asleep ∧
        1 < before.acc.delta pulses ∧ before.pulseHeartbeat.counter.toNat + 1 <
          before.pulseHeartbeat.period.toNat := by
      rw [SinglePulses] at breaks
      push Not at breaks
      obtain ⟨same, same_eq, asleep, several, early⟩ := breaks
      obtain rfl := PublishStep.loop.inj same_eq
      exact ⟨asleep, several, early⟩
    have gated := gated_path path
    have idle : ¬ before.PublishDue := fun due => by simp [due.1] at asleep
    have counter_le := gated.idle_le idle
    have counter_eq := (ReportGate.advance_counts early).2
    have some_pulses : before.acc.delta pulses ≠ 0 := by omega
    obtain ⟨longer, since_eq⟩ := path_quietIteration path asleep some_pulses early
    have ahead : (before.pulseHeartbeat.counter + 1).toNat <
        pulsesSinceReport acc (history ++ quietIteration pulses) := by
      rw [counter_eq, since_eq]
      omega
    obtain ⟨later, final, path, rest⟩ := overdue longer asleep ahead
    rw [List.append_assoc] at path rest
    exact ⟨_, final, path, rest⟩

/-- One iteration that finds 150 pulses publishes them without a report. -/
theorem burst_without_report :
    ¬ ∀ acc history final, machine.Path .any (booted acc) history final →
      final.loopPc = .asleep →
      pulsesSinceReport acc history < zigbeeReportPulseHeartbeat.toNat := by
  intro bounded
  have path : machine.Path .any (booted .init) ([.loop 0, .loop 0, .loop 0] ++
      quietIteration 150) _ := Machine.path_of_execute rfl
  exact absurd (bounded _ _ _ path rfl) (by decide)

end SummationPublish

end PowerMeter
