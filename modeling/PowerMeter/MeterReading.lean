import PowerMeter.Foundations.Projection
import PowerMeter.PulseLoss
import PowerMeter.SummationFreshness
import PowerMeter.SummationOrder

/-!
# From the pulses to the attribute

The whole way of a pulse: TIMER2 counts it, the sample loop reads and accumulates it, the publish
step hands the total to the ZBOSS thread, and the attribute shows it. One machine runs `main` with
its publish step, the report work, the ZBOSS thread, the count events and the power cuts. Its first
component is the sample loop of the pulse conservation, its second the publish path since the last
boot; both see the same accumulator. The endpoint is registered, and every callback scheduled is
accepted.
-/

namespace PowerMeter

open Guarded

/-- The variables of `main` and those of the publish path. -/
structure MeterReading where
  loop : SampleLoop
  publish : SummationPublish

/-- A step of the sample loop or of its environment, of its publish step, of the report work, or of
the ZBOSS thread. -/
inductive ReadingAction
  | device (action : LoopAction)
  | publish
  | report
  | zboss

namespace MeterReading

/-- The calls of `main` that come after a publish step. -/
def followsPublish : LoopAction → Bool
  | .read | .persist _ _ => true
  | _ => false

/-- The publish path after a step of the sample loop. It starts over with the power, takes up the
restored total when `main` comes to its first publish, and sees every update. -/
def publishAfter (reading : MeterReading) : LoopAction → SummationPublish
  | .powerCut => .booted .init
  | .armIrq true => .booted reading.loop.acc
  | .update =>
      match reading.loop.pc with
      | .sampled pulses => reading.publish.loopStep pulses
      | _ => reading.publish
  | _ => reading.publish

/-- One step of the meter. -/
def step (config : Kconfig) (reading : MeterReading) : ReadingAction → Option MeterReading
  | .device action =>
      if followsPublish action ∧ reading.publish.loopPc ≠ .asleep then none
      else (SampleLoop.step config reading.loop action).map
        fun loop => ⟨loop, reading.publishAfter action⟩
  | .publish =>
      if (reading.loop.pc = .asleep ∨ reading.loop.pc = .updated) ∧
          reading.publish.loopPc ≠ .asleep then
        some { reading with publish := reading.publish.loopStep 0 }
      else none
  | .report => reading.publish.reportStep.map fun publish => { reading with publish }
  | .zboss => reading.publish.zbossStep.map fun publish => { reading with publish }

/-- The meter as a machine. -/
def machine (config : Kconfig) : Machine MeterReading ReadingAction := ⟨step config⟩

/-- A meter without power. -/
def unpowered (loop : SampleLoop) : MeterReading := ⟨loop, .booted .init⟩

variable {config : Kconfig} {pace : ℕ} {loop : SampleLoop} {reading after final : MeterReading}
  {history : List ReadingAction}

theorem device_step {action : LoopAction}
    (step : (machine config).step reading (.device action) = some after) :
    (followsPublish action = true → reading.publish.loopPc = .asleep) ∧
      (SampleLoop.machine config).step reading.loop action = some after.loop ∧
      after.publish = reading.publishAfter action := by
  simp only [machine, MeterReading.step] at step
  split at step
  · cases step
  next free =>
    obtain ⟨loop, stepped, rfl⟩ := Option.map_eq_some_iff.mp step
    exact ⟨fun follows => not_not.mp fun busy => free ⟨follows, busy⟩, stepped, rfl⟩

/-- The sample loop is a part of the meter. -/
def deviceProjection (config : Kconfig) :
    Machine.Projection (machine config) (SampleLoop.machine config) where
  state := MeterReading.loop
  seen
    | .device action => some action
    | .publish | .report | .zboss => none
  step_eq before action after step := by
    cases action with
    | device action => exact (device_step step).2.1
    | publish =>
        obtain ⟨-, rfl⟩ := Machine.guard_inv step
        rfl
    | report | zboss =>
        obtain ⟨publish, -, rfl⟩ := Option.map_eq_some_iff.mp step
        rfl

/-- What the sample loop sees of a run. -/
def deviceActions (history : List ReadingAction) : List LoopAction :=
  (deviceProjection .default).history history

/-- An undisturbed run of the sample loop, with any steps of the other parties in between. -/
def UndisturbedAt (pace : ℕ) : Machine.Assumption MeterReading ReadingAction :=
  (deviceProjection .default).lift (SampleLoop.UndisturbedAt pace)

/-- In addition, no report stores an old total after the last store of the sample loop. -/
def LiveAt (pace : ℕ) : Machine.Assumption MeterReading ReadingAction :=
  fun history reading action =>
    UndisturbedAt pace history reading action ∧ (action = .report → reading.publish.ReportsLive)

/-- A run of the meter is a run of its sample loop. -/
theorem device_path
    (path : (machine config).Path (UndisturbedAt pace) (unpowered loop) history final) :
    (SampleLoop.machine config).Path (SampleLoop.UndisturbedAt pace) loop (deviceActions history)
      final.loop :=
  (deviceProjection config).path path

/-- `main` is past its restore step and its interrupt is armed. -/
def Runs (reading : MeterReading) : Prop :=
  reading.loop.pc = .asleep ∨ (∃ pulses, reading.loop.pc = .sampled pulses) ∨
    reading.loop.pc = .updated

/-- While `main` runs, both components have the same accumulator, and the publish step rests between
a snapshot and its update; before that the publish path has not begun. -/
structure Linked (reading : MeterReading) : Prop where
  acc_eq : reading.Runs → reading.publish.acc = reading.loop.acc
  stopped : ¬ reading.Runs → reading.publish = .booted .init
  rests : ∀ pulses, reading.loop.pc = .sampled pulses → reading.publish.loopPc = .asleep

theorem linked_unpowered (off : loop.Off) : (unpowered loop).Linked where
  acc_eq runs := by simp [Runs, unpowered, off.pc_eq] at runs
  stopped _ := rfl
  rests pulses sampled := by simp [unpowered, off.pc_eq] at sampled

/-- Only an update changes the accumulator of the publish path. -/
theorem acc_loopStep {publish : SummationPublish} (busy : publish.loopPc ≠ .asleep)
    (pulses : UInt32) : (publish.loopStep pulses).acc = publish.acc := by
  cases pc_eq : publish.loopPc with
  | asleep => exact absurd pc_eq busy
  | updated =>
      simp only [SummationPublish.loopStep, SummationPublish.decidePublish, pc_eq]
      split <;> rfl
  | booted | firstStored | arming | sampling | storing | stored =>
      simp [SummationPublish.loopStep, SummationPublish.storeTotal,
        SummationPublish.scheduleAppCallback, pc_eq]

theorem acc_zbossStep {publish next : SummationPublish} (step : publish.zbossStep = some next) :
    next.acc = publish.acc := by
  obtain ⟨_, _, -, rfl⟩ := SummationPublish.zbossStep_inv step
  rfl

/-- What a step of the meter does to the publish path: a new boot, an update the sample loop makes
too, or a step of one of the three parties. -/
inductive PublishMove (reading after : MeterReading) : ReadingAction → Prop
  | kept {action} (publish_eq : after.publish = reading.publish) : PublishMove reading after action
  | rebooted {action} (acc : PulseAccumulator) (publish_eq : after.publish = .booted acc) :
      PublishMove reading after action
  | updated (pulses : UInt32) (pc_eq : reading.loop.pc = .sampled pulses)
      (publish_eq : after.publish = reading.publish.loopStep pulses) :
      PublishMove reading after (.device .update)
  | published (busy : reading.publish.loopPc ≠ .asleep)
      (publish_eq : after.publish = reading.publish.loopStep 0) :
      PublishMove reading after .publish
  | reported (step : reading.publish.reportStep = some after.publish) :
      PublishMove reading after .report
  | delivered (step : reading.publish.zbossStep = some after.publish) :
      PublishMove reading after .zboss

theorem publishMove {action : ReadingAction}
    (step : (machine config).step reading action = some after) :
    PublishMove reading after action := by
  cases action with
  | device action =>
      obtain ⟨-, stepped, publish_eq⟩ := device_step step
      cases action with
      | powerCut => exact .rebooted .init publish_eq
      | armIrq armed =>
          cases armed with
          | true => exact .rebooted reading.loop.acc publish_eq
          | false => exact .kept publish_eq
      | update =>
          obtain ⟨pulses, pc_eq, -⟩ := SampleLoop.update_step stepped
          simp only [publishAfter, pc_eq] at publish_eq
          exact .updated pulses pc_eq publish_eq
      | count | nvsStoreInit | hwPulseCounterInit | pulseAccumulatorInit | eraseCheck | loadTotal
      | skipRestore | read | persist => exact .kept publish_eq
  | publish =>
      obtain ⟨⟨-, busy⟩, rfl⟩ := Machine.guard_inv step
      exact .published busy rfl
  | report =>
      obtain ⟨publish, stepped, rfl⟩ := Option.map_eq_some_iff.mp step
      exact .reported stepped
  | zboss =>
      obtain ⟨publish, stepped, rfl⟩ := Option.map_eq_some_iff.mp step
      exact .delivered stepped

/-- The publish path sees the update of the sample loop. -/
private theorem linked_update (linked : reading.Linked) {pulses : UInt32}
    (pc_eq : reading.loop.pc = .sampled pulses)
    (publish_eq : after.publish = reading.publish.loopStep pulses)
    (loop_eq : after.loop = { reading.loop with
      pc := .updated
      acc := reading.loop.acc.update pulses }) : after.Linked := by
  have asleep := linked.rests pulses pc_eq
  have acc_eq := linked.acc_eq (.inr (.inl ⟨pulses, pc_eq⟩))
  refine ⟨fun _ => ?_, fun stops => ?_, fun other sampled => ?_⟩
  · rw [publish_eq, loop_eq]
    simp only [SummationPublish.loopStep, asleep, acc_eq]
  · exact absurd (.inr (.inr (by rw [loop_eq]))) stops
  · rw [loop_eq] at sampled
    cases sampled

/-- A step of the sample loop that leaves its accumulator and the publish path alone. -/
private theorem linked_kept (linked : reading.Linked)
    (runs_iff : after.Runs ↔ reading.Runs) (acc_eq : after.loop.acc = reading.loop.acc)
    (publish_eq : after.publish = reading.publish)
    (rests : ∀ pulses, after.loop.pc = .sampled pulses → reading.publish.loopPc = .asleep) :
    after.Linked where
  acc_eq runs := by rw [publish_eq, acc_eq, linked.acc_eq (runs_iff.mp runs)]
  stopped stops := by rw [publish_eq, linked.stopped (mt runs_iff.mpr stops)]
  rests := by
    rw [publish_eq]
    exact rests

/-- Before `main` runs the publish path has not begun. -/
private theorem linked_stopped (not_begun : after.publish = .booted .init)
    (stopped : ¬ after.Runs) : after.Linked where
  acc_eq runs := absurd runs stopped
  stopped _ := not_begun
  rests pulses sampled := absurd (.inr (.inl ⟨pulses, sampled⟩)) stopped

private theorem linked_device (linked : reading.Linked) {action : LoopAction}
    (step : (machine config).step reading (.device action) = some after) : after.Linked := by
  obtain ⟨free, stepped, publish_eq⟩ := device_step step
  cases action with
  | count =>
      obtain ⟨-, loop_eq⟩ := Machine.guard_inv stepped
      have pc_eq : after.loop.pc = reading.loop.pc := by rw [← loop_eq]
      refine linked_kept linked (by rw [Runs, Runs, pc_eq]) (by rw [← loop_eq]) publish_eq ?_
      intro pulses sampled
      exact linked.rests pulses (pc_eq ▸ sampled)
  | powerCut =>
      have loop_eq := Option.some.inj stepped
      exact linked_stopped publish_eq (by simp [Runs, ← loop_eq])
  | nvsStoreInit results =>
      obtain ⟨pc_eq, loop_eq⟩ := Machine.guard_inv stepped
      have not_begun := linked.stopped (by simp [Runs, pc_eq])
      exact linked_stopped (publish_eq.trans not_begun)
        (by simp [Runs, ← loop_eq, SampleLoop.openStore])
  | hwPulseCounterInit fault nrfx =>
      obtain ⟨pc_eq, started⟩ := SampleLoop.hwPulseCounterInit_step stepped
      have not_begun := linked.stopped (by simp [Runs, pc_eq])
      refine linked_stopped (publish_eq.trans not_begun) ?_
      rcases started with ⟨threshold, loop_eq⟩ | loop_eq <;> simp [Runs, loop_eq]
  | pulseAccumulatorInit uptime =>
      obtain ⟨pc_eq, loop_eq⟩ := Machine.guard_inv stepped
      have not_begun := linked.stopped (by simp [Runs, pc_eq])
      exact linked_stopped (publish_eq.trans not_begun) (by simp [Runs, ← loop_eq])
  | eraseCheck polls fault =>
      obtain ⟨⟨pc_eq, -⟩, loop_eq⟩ := Machine.guard_inv stepped
      have not_begun := linked.stopped (by simp [Runs, pc_eq])
      have checked : after.loop.pc = .eraseChecked := by
        rw [← loop_eq, SampleLoop.eraseCheck]
        split <;> rfl
      exact linked_stopped (publish_eq.trans not_begun) (by simp [Runs, checked])
  | loadTotal fault =>
      obtain ⟨pc_eq, loop_eq⟩ := Machine.guard_inv stepped
      have not_begun := linked.stopped (by simp [Runs, pc_eq])
      have restored : after.loop.pc = .restored := by rw [← loop_eq, SampleLoop.pc_restoreTotal]
      exact linked_stopped (publish_eq.trans not_begun) (by simp [Runs, restored])
  | skipRestore =>
      obtain ⟨⟨pc_eq, -⟩, loop_eq⟩ := Machine.guard_inv stepped
      have not_begun := linked.stopped (by simp [Runs, pc_eq])
      exact linked_stopped (publish_eq.trans not_begun) (by simp [Runs, ← loop_eq])
  | armIrq armed =>
      obtain ⟨pc_eq, loop_eq⟩ := Machine.guard_inv stepped
      have not_begun := linked.stopped (by simp [Runs, pc_eq])
      cases armed with
      | true =>
          have asleep : after.loop.pc = .asleep := by rw [← loop_eq, if_pos rfl]
          refine ⟨fun _ => ?_, fun stops => absurd (.inl asleep) stops, fun pulses sampled => ?_⟩
          · rw [publish_eq, ← loop_eq]
            rfl
          · rw [asleep] at sampled
            cases sampled
      | false =>
          exact linked_stopped (publish_eq.trans not_begun) (by simp [Runs, ← loop_eq])
  | read =>
      obtain ⟨pc_eq, loop_eq⟩ := Machine.guard_inv stepped
      refine linked_kept linked ?_ (by rw [← loop_eq]) publish_eq fun _ _ => free rfl
      simp [Runs, ← loop_eq, pc_eq]
  | update =>
      obtain ⟨pulses, pc_eq, loop_eq⟩ := SampleLoop.update_step stepped
      simp only [publishAfter, pc_eq] at publish_eq
      exact linked_update linked pc_eq publish_eq loop_eq
  | persist now fault =>
      obtain ⟨pc_eq, loop_eq⟩ := Machine.guard_inv stepped
      have kept := reading.loop.persist_keeps now fault
      rw [loop_eq] at kept
      refine linked_kept linked ?_ kept.2 publish_eq fun pulses sampled => ?_
      · simp [Runs, kept.1, pc_eq]
      · rw [kept.1] at sampled
        cases sampled

/-- Every step of the meter keeps its components linked. -/
theorem linked_step (linked : reading.Linked) {action : ReadingAction}
    (step : (machine config).step reading action = some after) : after.Linked := by
  cases action with
  | device action => exact linked_device linked step
  | publish =>
      obtain ⟨⟨awake, busy⟩, rfl⟩ := Machine.guard_inv step
      have runs : reading.Runs := awake.imp id .inr
      refine ⟨fun _ => ?_, fun stops => absurd runs stops, fun pulses sampled => ?_⟩
      · exact (acc_loopStep busy 0).trans (linked.acc_eq runs)
      · rcases awake with pc_eq | pc_eq <;> rw [pc_eq] at sampled <;> cases sampled
  | report =>
      obtain ⟨publish, stepped, rfl⟩ := Option.map_eq_some_iff.mp step
      obtain ⟨loopPc_eq, acc_eq, -, -⟩ := SummationPublish.reportStep_keeps stepped
      refine ⟨fun runs => acc_eq.trans (linked.acc_eq runs), fun stops => ?_,
        fun pulses sampled => loopPc_eq.trans (linked.rests pulses sampled)⟩
      rw [linked.stopped stops] at stepped
      cases stepped
  | zboss =>
      obtain ⟨publish, stepped, rfl⟩ := Option.map_eq_some_iff.mp step
      refine ⟨?_, fun stops => ?_, ?_⟩
      · exact fun runs => (acc_zbossStep stepped).trans (linked.acc_eq runs)
      · rw [linked.stopped stops] at stepped
        cases stepped
      · obtain ⟨_, _, -, rfl⟩ := SummationPublish.zbossStep_inv stepped
        exact linked.rests

theorem linked_path {admits : Machine.Assumption MeterReading ReadingAction} (off : loop.Off)
    (path : (machine config).Path admits (unpowered loop) history final) : final.Linked :=
  path.invariant (fun _ reading => reading.Linked) (linked_unpowered off)
    fun _ _ _ _ linked _ step => linked_step linked step

/-- The publish path has gone through a run of its own since the last boot. -/
theorem publish_path {admits : Machine.Assumption MeterReading ReadingAction}
    (live : ∀ history reading, admits history reading .report → reading.publish.ReportsLive)
    (path : (machine config).Path admits (unpowered loop) history final) :
    ∃ acc steps, SummationPublish.machine.Path SummationPublish.LiveReports (.booted acc) steps
      final.publish := by
  refine path.invariant (fun _ reading => ∃ acc steps,
    SummationPublish.machine.Path SummationPublish.LiveReports (.booted acc) steps reading.publish)
    ⟨.init, [], .nil⟩ ?_
  rintro history reading action after ⟨acc, steps, sofar⟩ admitted step
  cases publishMove step with
  | kept publish_eq => exact ⟨acc, steps, by rwa [publish_eq]⟩
  | rebooted acc publish_eq => exact ⟨acc, [], by rw [publish_eq]; exact .nil⟩
  | updated pulses pc_eq publish_eq =>
      have stepped : SummationPublish.machine.step reading.publish (.loop pulses) =
          some after.publish := by rw [publish_eq]; rfl
      exact ⟨acc, _, sofar.snoc (by simp [SummationPublish.LiveReports]) stepped⟩
  | published busy publish_eq =>
      have stepped : SummationPublish.machine.step reading.publish (.loop 0) =
          some after.publish := by rw [publish_eq]; rfl
      exact ⟨acc, _, sofar.snoc (by simp [SummationPublish.LiveReports]) stepped⟩
  | reported reportStep =>
      have stepped : SummationPublish.machine.step reading.publish .report =
          some after.publish := reportStep
      exact ⟨acc, _, sofar.snoc (fun _ => live _ _ admitted) stepped⟩
  | delivered zbossStep =>
      have stepped : SummationPublish.machine.step reading.publish .zboss =
          some after.publish := zbossStep
      exact ⟨acc, _, sofar.snoc (by simp [SummationPublish.LiveReports]) stepped⟩

theorem counted_le_concat (history : List ReadingAction) (action : ReadingAction) :
    LoopAction.counted (deviceActions history) ≤
      LoopAction.counted (deviceActions (history ++ [action])) := by
  rw [deviceActions, deviceActions]
  cases seen : (deviceProjection .default).seen action with
  | none => rw [Machine.Projection.history_concat_none _ seen]
  | some seen_action =>
      rw [Machine.Projection.history_concat_some _ seen, LoopAction.counted_concat]
      exact Nat.le_add_right _ _

/-- No total on its way is ahead of the accumulator, and neither is anything the attribute has
shown. -/
structure NeverAhead (publish : SummationPublish) : Prop where
  pending_le : publish.pendingSummationTotal ≤ publish.acc.total
  inHand_le : ∀ total, SummationPublish.totalInHand publish.reportPc = some total →
    total ≤ publish.acc.total
  written_le : ∀ value ∈ publish.written, value ≤ meteringScaleToU48 publish.acc.total

theorem neverAhead_booted (acc : PulseAccumulator) : NeverAhead (.booted acc) where
  pending_le := UInt64.le_iff_toNat_le.mpr (Nat.zero_le _)
  inHand_le := by simp [SummationPublish.booted, SummationPublish.totalInHand]
  written_le := by simp [SummationPublish.booted]

theorem written_loopStep (publish : SummationPublish) (pulses : UInt32) :
    (publish.loopStep pulses).written = publish.written := by
  cases pc_eq : publish.loopPc with
  | updated =>
      simp only [SummationPublish.loopStep, SummationPublish.decidePublish, pc_eq]
      split <;> rfl
  | booted | firstStored | arming | asleep | sampling | storing | stored =>
      simp [SummationPublish.loopStep, SummationPublish.storeTotal,
        SummationPublish.scheduleAppCallback, pc_eq]

/-- A loop step that does not lower the accumulator leaves everything behind it. -/
theorem neverAhead_loopStep {publish : SummationPublish} (ahead : NeverAhead publish)
    {pulses : UInt32} (grown : publish.acc.total ≤ (publish.loopStep pulses).acc.total) :
    NeverAhead (publish.loopStep pulses) where
  pending_le := by
    rcases publish.pending_loopStep pulses with kept | ⟨stored, acc_eq⟩
    · rw [kept]
      exact UInt64.le_trans ahead.pending_le grown
    · rw [stored, acc_eq]
      exact UInt64.le_refl _
  inHand_le := by
    intro total inHand
    rw [SummationPublish.reportPc_loopStep] at inHand
    exact UInt64.le_trans (ahead.inHand_le total inHand) grown
  written_le := by
    rw [written_loopStep]
    intro value member
    exact (ahead.written_le value member).trans (meteringScaleToU48_mono grown)

theorem neverAhead_reportStep {publish next : SummationPublish} (ahead : NeverAhead publish)
    (step : publish.reportStep = some next) : NeverAhead next := by
  have inHand_le := ahead.inHand_le
  rcases SummationPublish.reportStep_cases step with ⟨pc_eq, -, rfl⟩ | ⟨total, pc_eq, rfl⟩ |
    ⟨total, pc_eq, rfl⟩ | ⟨pc_eq, rfl⟩
  · refine ⟨ahead.pending_le, ?_, ahead.written_le⟩
    intro total inHand
    obtain rfl := Option.some.inj inHand
    exact UInt64.le_refl _
  · rw [pc_eq] at inHand_le
    exact ⟨ahead.pending_le, inHand_le, ahead.written_le⟩
  · rw [pc_eq] at inHand_le
    exact ⟨inHand_le total rfl, by simp [SummationPublish.totalInHand], ahead.written_le⟩
  · exact ⟨ahead.pending_le, by simp [SummationPublish.totalInHand], ahead.written_le⟩

theorem neverAhead_zbossStep {publish next : SummationPublish} (ahead : NeverAhead publish)
    (step : publish.zbossStep = some next) : NeverAhead next := by
  obtain ⟨_, _, -, rfl⟩ := SummationPublish.zbossStep_inv step
  refine ⟨ahead.pending_le, ahead.inHand_le, ?_⟩
  intro value member
  rcases List.mem_append.mp member with earlier | latest
  · exact ahead.written_le value earlier
  · obtain rfl := List.mem_singleton.mp latest
    exact meteringScaleToU48_mono ahead.pending_le

/-- The total of the accumulator never goes back in an update of an undisturbed run. -/
theorem total_le_update {counter : WriteBehind} {loop : SampleLoop} {actions : List LoopAction}
    (implements : loop.Implements actions counter) {pulses : UInt32}
    (pc_eq : loop.pc = .sampled pulses) :
    loop.acc.total ≤ (loop.acc.update pulses).total := by
  have phase := implements.phase
  simp only [SampleLoop.Phase, pc_eq] at phase
  obtain ⟨-, tracks, -, -, total_le⟩ := phase
  rw [UInt64.le_iff_toNat_le, tracks.total_eq]
  exact total_le

/-- In every undisturbed run, whatever the interleaving of the three parties and wherever the power
is cut, nothing on the publish path is ahead of the accumulator. -/
theorem neverAhead_path (off : loop.Off) (blank : loop.store.records nvsIdAccumulatorTotal = none)
    (path : (machine config).Path (UndisturbedAt pace) (unpowered loop) history final)
    (bounded : LoopAction.counted (deviceActions history) < 2 ^ 64) :
    NeverAhead final.publish := by
  revert bounded
  induction path with
  | nil => exact fun _ => neverAhead_booted .init
  | @snoc history reading after action path admitted step induction =>
      intro bounded
      have earlier_bounded : LoopAction.counted (deviceActions history) < 2 ^ 64 :=
        Nat.lt_of_le_of_lt (counted_le_concat history action) bounded
      have ahead := induction earlier_bounded
      obtain ⟨-, counter, implements⟩ :=
        SampleLoop.accounted_path off blank (device_path path) earlier_bounded
      have linked := linked_path off path
      cases publishMove step with
      | kept publish_eq => rwa [publish_eq]
      | rebooted acc publish_eq =>
          rw [publish_eq]
          exact neverAhead_booted acc
      | updated pulses pc_eq publish_eq =>
          rw [publish_eq]
          refine neverAhead_loopStep ahead ?_
          have acc_eq := linked.acc_eq (.inr (.inl ⟨pulses, pc_eq⟩))
          simp only [SummationPublish.loopStep, linked.rests pulses pc_eq, acc_eq]
          exact total_le_update implements pc_eq
      | published busy publish_eq =>
          rw [publish_eq]
          refine neverAhead_loopStep ahead ?_
          rw [acc_loopStep busy]
          exact UInt64.le_refl _
      | reported stepped => exact neverAhead_reportStep ahead stepped
      | delivered stepped => exact neverAhead_zbossStep ahead stepped

theorem isRestored_of_runs (runs : reading.Runs) : reading.loop.pc.isRestored = true := by
  rcases runs with pc_eq | ⟨pulses, pc_eq⟩ | pc_eq <;> rw [pc_eq] <;> rfl

/-- However pulses, power cuts and the three parties interleave, the attribute never shows more
pulses than have been counted. The meter starts from a partition without a saved total, every store
call succeeds, nobody holds the button at boot, fewer than `2 ^ 32` pulses fall between snapshots
and fewer than `2 ^ 64` in all, the endpoint is registered and every callback accepted. -/
theorem never_overstates (off : loop.Off)
    (blank : loop.store.records nvsIdAccumulatorTotal = none)
    (path : (machine config).Path (UndisturbedAt pace) (unpowered loop) history final)
    (bounded : LoopAction.counted (deviceActions history) < 2 ^ 64) :
    ∀ shown ∈ final.publish.written, shown.value ≤ LoopAction.counted (deviceActions history) := by
  intro shown member
  have linked := linked_path off path
  by_cases runs : final.Runs
  · have ahead := neverAhead_path off blank path bounded
    obtain ⟨-, counter, implements⟩ :=
      SampleLoop.accounted_path off blank (device_path path) bounded
    have total_le := (SampleLoop.neverOvercounts_of_implements implements
      (isRestored_of_runs runs)).2
    calc
      shown.value ≤ (meteringScaleToU48 final.publish.acc.total).value :=
        ahead.written_le shown member
      _ ≤ final.loop.acc.total.toNat := by
        rw [value_meteringScaleToU48, linked.acc_eq runs]
        exact Nat.min_le_left _ _
      _ ≤ LoopAction.counted (deviceActions history) := total_le
  · rw [linked.stopped runs] at member
    simp [SummationPublish.booted] at member

/-- Calls of `main` that the publish path does not see. -/
def Unseen (action : LoopAction) : Prop :=
  followsPublish action = false ∧ ∀ reading : MeterReading,
    reading.publishAfter action = reading.publish

theorem run_unseen {publish : SummationPublish} {actions : List LoopAction} {loop next : SampleLoop}
    (unseen : ∀ action ∈ actions, Unseen action)
    (ran : (SampleLoop.machine config).run loop actions = some next) :
    (machine config).run ⟨loop, publish⟩ (actions.map .device) = some ⟨next, publish⟩ := by
  induction actions generalizing loop with
  | nil =>
      obtain rfl := Option.some.inj ran
      rfl
  | cons action actions induction =>
      obtain ⟨middle, stepped, rest⟩ := Option.bind_eq_some_iff.mp ran
      obtain ⟨free, kept⟩ := unseen action List.mem_cons_self
      have step : (machine config).step ⟨loop, publish⟩ (.device action) =
          some ⟨middle, publish⟩ := by
        have stepped : SampleLoop.step config loop action = some middle := stepped
        simp [machine, MeterReading.step, free, stepped, kept]
      rw [List.map_cons, Machine.run_cons, step, Option.bind_some]
      exact induction (fun action member => unseen action (List.mem_cons_of_mem _ member)) rest

/-- A first boot hands the restored total to the publish path. -/
theorem run_firstBoot {publish : SummationPublish} (off : loop.Off) :
    (machine config).run ⟨loop, publish⟩ (SampleLoop.firstBoot.map .device) =
      some ⟨{ (SampleLoop.beforeLoad config loop.store.records).restoreTotal none with
          pc := .asleep },
        .booted ((SampleLoop.beforeLoad config loop.store.records).restoreTotal none).acc⟩ := by
  have loaded : (SampleLoop.machine config).run loop
      (SampleLoop.bootActions ++ [.loadTotal none]) =
        some ((SampleLoop.beforeLoad config loop.store.records).restoreTotal none) := by
    rw [Machine.run_append, SampleLoop.run_bootActions off]
    rfl
  have unseen : ∀ action ∈ SampleLoop.bootActions ++ [.loadTotal none], Unseen action := by
    simp [SampleLoop.bootActions, Unseen, followsPublish, publishAfter]
  have split : SampleLoop.firstBoot =
      (SampleLoop.bootActions ++ [.loadTotal none]) ++ [.armIrq true] := rfl
  rw [split, List.map_append, Machine.run_append, run_unseen unseen loaded]
  simp [Machine.run_cons, machine, MeterReading.step, SampleLoop.step, SampleLoop.pc_restoreTotal,
    followsPublish, publishAfter]

/-- The first publish after a boot, and the callback it schedules. -/
def firstPublish : List ReadingAction := [.publish, .publish, .publish, .zboss]

/-- An iteration that publishes and saves what it finds, and the callback it schedules. -/
def publishedIteration : List ReadingAction :=
  [.device .read, .device .update, .publish, .publish, .publish, .device (.persist 0 none), .zboss]

/-- A boot, one pulse with its publication, a power cut and another boot. -/
def meteredRun : List ReadingAction :=
  SampleLoop.firstBoot.map .device ++ firstPublish ++ [.device .count] ++ publishedIteration ++
    [.device .powerCut] ++ SampleLoop.firstBoot.map .device ++ firstPublish

/-- Actions other than reports and count events are admitted at any pace. -/
theorem liveAt_of_silent {actions : List ReadingAction} (no_report : .report ∉ actions)
    (silent : ∀ action, .device action ∈ actions → action.isCount = false)
    (admitted : ∀ action, .device action ∈ actions → ∀ earlier before,
      SampleLoop.Undisturbed earlier before action) :
    ∀ action ∈ actions, ∀ earlier before, LiveAt pace earlier before action := by
  intro action member earlier before
  refine ⟨fun loop_action seen => ?_, fun report => absurd (report ▸ member) no_report⟩
  cases action with
  | device action =>
      obtain rfl := Option.some.inj seen
      refine ⟨admitted _ member _ _, ?_⟩
      rintro rfl
      exact absurd (silent _ member) (by decide)
  | publish | report | zboss => cases seen

theorem liveAt_firstBoot : ∀ action ∈ SampleLoop.firstBoot.map ReadingAction.device,
    ∀ earlier before, LiveAt pace earlier before action := by
  refine liveAt_of_silent (by simp) (fun action member => ?_) fun action member => ?_
  · have booting : action ∈ SampleLoop.firstBoot := by simpa using member
    exact (by decide : ∀ action ∈ SampleLoop.firstBoot, action.isCount = false) action booting
  · have booting : action ∈ SampleLoop.firstBoot := by simpa using member
    exact SampleLoop.undisturbed_firstBoot action booting

theorem metered_path : ∃ final, (machine .default).Path (LiveAt 1)
    (unpowered (.off SampleLoop.blankRecords)) meteredRun final ∧ final.loop.pc = .asleep ∧
      final.publish.Quiescent ∧ final.loop.acc.total = 1 ∧
      final.publish.written.map MeteringU48.value = [1] := by
  have start : (machine .default).Path (LiveAt 1) (unpowered (.off SampleLoop.blankRecords)) []
    (unpowered (.off SampleLoop.blankRecords)) := .nil
  have publishing : ∀ action ∈ firstPublish, ∀ earlier before, LiveAt 1 earlier before action :=
    liveAt_of_silent (by simp [firstPublish]) (by simp [firstPublish]) (by simp [firstPublish])
  have iterating : ∀ action ∈ publishedIteration, ∀ earlier before,
      LiveAt 1 earlier before action :=
    liveAt_of_silent (by simp [publishedIteration])
      (by simp [publishedIteration, LoopAction.isCount])
      (by simp [publishedIteration, SampleLoop.Undisturbed])
  have cutting : ∀ action ∈ [ReadingAction.device .powerCut], ∀ earlier before,
      LiveAt 1 earlier before action :=
    liveAt_of_silent (by simp) (by simp [LoopAction.isCount]) (by simp [SampleLoop.Undisturbed])
  have booted := start.append_run liveAt_firstBoot (run_firstBoot (SampleLoop.off_isOff _))
  have shown := booted.append_run publishing rfl
  have counting (before : MeterReading) : LiveAt 1
      ([] ++ SampleLoop.firstBoot.map .device ++ firstPublish) before (.device .count) := by
    refine ⟨fun action seen => ?_, fun report => ?_⟩
    · obtain rfl := Option.some.inj seen
      have slow : LoopAction.unread
          (deviceActions ([] ++ SampleLoop.firstBoot.map .device ++ firstPublish)) + 1 ≤ 1 := by
        decide
      exact ⟨Nat.lt_of_le_of_lt slow (by decide), fun _ => slow⟩
    · cases report
  have counted := shown.snoc (counting _) rfl
  have published := counted.append_run iterating rfl
  have cut := published.append_run cutting rfl
  have rebooted := cut.append_run liveAt_firstBoot (run_firstBoot ⟨rfl, rfl⟩)
  exact ⟨_, rebooted.append_run publishing rfl, rfl, ⟨rfl, rfl, rfl⟩, rfl, rfl⟩

/-- A pulse that is counted once is shown once, also after a power cut. -/
theorem never_overstates_metered :
    ∃ final, (machine .default).run (unpowered (.off SampleLoop.blankRecords)) meteredRun =
        some final ∧
      final.publish.written.map MeteringU48.value = [1] ∧
      ∀ shown ∈ final.publish.written,
        shown.value ≤ LoopAction.counted (deviceActions meteredRun) := by
  obtain ⟨final, path, -, -, -, written⟩ := metered_path
  have undisturbed := path.mono fun _ _ _ _ _ admitted _ => admitted.1
  exact ⟨final, path.run_eq, written,
    never_overstates (SampleLoop.off_isOff _) rfl undisturbed (by decide)⟩

/-- What the coordinator reads from a meter at rest: the attribute shows the live total, which lacks
only the pulses on TIMER2 and those lost in power cuts, and is hardly ahead of the saved one. -/
structure ReadsTrue (pace : ℕ) (actions : List LoopAction) (reading : MeterReading) : Prop where
  shown : reading.publish.summation.map MeteringU48.value =
    some (min reading.loop.acc.total.toNat (2 ^ 48 - 1))
  total_le : reading.loop.acc.total.toNat + LoopAction.unread actions ≤ LoopAction.counted actions
  counted_le : LoopAction.counted actions ≤ reading.loop.acc.total.toNat +
    LoopAction.unread actions + LoopAction.powerCuts actions * SampleLoop.lossPerCut pace
  saved_le : reading.loop.savedTotal ≤ reading.loop.acc.total
  lag_lt : reading.loop.acc.total.toNat <
    reading.loop.savedTotal.toNat + persistMaxPulseDelta.toNat

/-- Under the same conditions, if moreover no report stores an old total, the attribute reads true
whenever the meter rests. -/
theorem reads_true_at_rest (off : loop.Off)
    (blank : loop.store.records nvsIdAccumulatorTotal = none)
    (path : (machine config).Path (LiveAt pace) (unpowered loop) history final)
    (bounded : LoopAction.counted (deviceActions history) < 2 ^ 64)
    (asleep : final.loop.pc = .asleep) (quiescent : final.publish.Quiescent) :
    final.ReadsTrue pace (deviceActions history) := by
  have undisturbed : (machine config).Path (UndisturbedAt pace) (unpowered loop) history final :=
    path.mono fun _ _ _ _ _ admitted _ => admitted.1
  have device := device_path undisturbed
  obtain ⟨accounted, counter, implements⟩ :=
    SampleLoop.accounted_path off blank device bounded
  obtain ⟨total_le, counted_le⟩ := SampleLoop.power_cuts_lose_little off blank device bounded
  obtain ⟨acc, steps, since_boot⟩ :=
    publish_path (fun _ _ (admitted : LiveAt pace _ _ _) => admitted.2 rfl) path
  have up_to_date := SummationPublish.upToDate_of_quiescent
    (SummationPublish.paced_path since_boot) (SummationPublish.fresh_path since_boot) quiescent
  have acc_eq := (linked_path off path).acc_eq (.inl asleep)
  have held_le := accounted.held_le
  simp only [SampleLoop.heldTotal, SampleLoop.onTimer2, asleep, LoopPc.counts, if_true,
    SampleLoop.lead] at total_le counted_le held_le
  refine ⟨?_, total_le, counted_le, ?_, ?_⟩
  · rw [up_to_date.summation_eq, up_to_date.published_eq, acc_eq, Option.map_some,
      value_meteringScaleToU48]
  · exact (SampleLoop.neverOvercounts_of_implements implements (by rw [asleep]; rfl)).1
  · have positive : 0 < persistMaxPulseDelta.toNat := by decide
    omega

/-- After the power cut the meter shows the pulse it has saved. -/
theorem reads_true_at_rest_metered :
    ∃ final, (machine .default).run (unpowered (.off SampleLoop.blankRecords)) meteredRun =
        some final ∧
      final.loop.acc.total = 1 ∧ final.ReadsTrue 1 (deviceActions meteredRun) := by
  obtain ⟨final, path, asleep, quiescent, total_eq, -⟩ := metered_path
  exact ⟨final, path.run_eq, total_eq,
    reads_true_at_rest (SampleLoop.off_isOff _) rfl path (by decide) asleep quiescent⟩

end MeterReading

end PowerMeter
