import PowerMeter.Foundations.Machine
import PowerMeter.Foundations.Mirror
import PowerMeter.LoopPolicies
import PowerMeter.MeteringScale

/-!
# Publishing the summation

The sample loop and the report work both hand totals to the ZBOSS thread through
`pending_summation_total` and a queue of scheduled callbacks. The report work takes its total before
a blocking battery conversion and stores it afterwards. Every access to shared state is one atomic
step, the endpoint is registered, and every scheduled callback is accepted.
-/

namespace PowerMeter

open Guarded

instance : Preorder MeteringU48 := Preorder.lift MeteringU48.value

instance : DecidableLE MeteringU48 := fun left right =>
  inferInstanceAs (Decidable (left.value ≤ right.value))

/-- The callbacks that write the summation attribute. -/
inductive SummationCallback
  | publishSummationCb
  | publishSummationAndReportCb
  deriving DecidableEq

/-- Where the sample loop is in its boot and publish steps. -/
inductive PublishPc
  | booted
  | firstStored
  | arming
  | asleep
  | updated
  | sampling
  | storing (callback : SummationCallback)
  | stored (callback : SummationCallback)
  deriving DecidableEq

/-- Where `metering_report_work_handler` is. -/
inductive ReportPc
  | idle
  | sampling (total : UInt64)
  | storing (total : UInt64)
  | stored
  deriving DecidableEq

/-- The variables of the publish path, and every value the attribute has been given. -/
structure SummationPublish where
  loopPc : PublishPc
  acc : PulseAccumulator
  lastPublishedTotal : UInt64
  pulseHeartbeat : ReportGate
  reportPc : ReportPc
  reportScheduled : Bool
  pendingSummationTotal : UInt64
  callbacks : List SummationCallback
  written : List MeteringU48
  deriving DecidableEq

/-- A step of the sample loop, of the report work or of the ZBOSS thread. -/
inductive PublishStep
  | loop (pulses : UInt32)
  | report
  | zboss
  deriving DecidableEq

namespace SummationPublish

/-- The state in which `main` is about to publish the restored total. -/
def booted (acc : PulseAccumulator) : SummationPublish where
  loopPc := .booted
  acc := acc
  lastPublishedTotal := acc.total
  pulseHeartbeat := .init zigbeeReportPulseHeartbeat
  reportPc := .idle
  reportScheduled := false
  pendingSummationTotal := 0
  callbacks := []
  written := []

/-- Store a total into `pending_summation_total`. -/
def storeTotal (publish : SummationPublish) (total : UInt64) : SummationPublish :=
  { publish with pendingSummationTotal := total }

/-- `ZB_SCHEDULE_APP_CALLBACK`. -/
def scheduleAppCallback (publish : SummationPublish) (callback : SummationCallback) :
    SummationPublish :=
  { publish with callbacks := publish.callbacks ++ [callback] }

/-- `write_summation_attribute`. -/
def writeSummationAttribute (publish : SummationPublish) (pulseTotal : UInt64) :
    SummationPublish :=
  { publish with written := publish.written ++ [meteringScaleToU48 pulseTotal] }

/-- The decision of the publish step: which publish function is due, if any. -/
def decidePublish (publish : SummationPublish) : SummationPublish :=
  if publish.acc.total ≠ publish.lastPublishedTotal then
    let (due, pulseHeartbeat) := publish.pulseHeartbeat.advance
    { publish with
      pulseHeartbeat
      loopPc := if due then .sampling else .storing .publishSummationCb }
  else { publish with loopPc := .asleep }

/-- The next step of the sample loop; an update finds `pulses` on the hardware counter. -/
def loopStep (publish : SummationPublish) (pulses : UInt32) : SummationPublish :=
  match publish.loopPc with
  | .booted => { publish.storeTotal publish.acc.total with loopPc := .firstStored }
  | .firstStored => { publish.scheduleAppCallback .publishSummationCb with loopPc := .arming }
  | .arming =>
      { publish with
        reportScheduled := true
        loopPc := .asleep }
  | .asleep =>
      { publish with
        acc := publish.acc.update pulses
        loopPc := .updated }
  | .updated => publish.decidePublish
  | .sampling => { publish with loopPc := .storing .publishSummationAndReportCb }
  | .storing callback =>
      { publish.storeTotal publish.acc.total with loopPc := .stored callback }
  | .stored callback =>
      { publish.scheduleAppCallback callback with
        lastPublishedTotal := publish.acc.total
        loopPc := .asleep }

/-- The next step of `metering_report_work_handler`, which starts when its work is due. -/
def reportStep (publish : SummationPublish) : Option SummationPublish :=
  match publish.reportPc with
  | .idle =>
      if publish.reportScheduled then
        some { publish with
          reportScheduled := false
          reportPc := .sampling publish.acc.total }
      else none
  | .sampling total => some { publish with reportPc := .storing total }
  | .storing total => some { publish.storeTotal total with reportPc := .stored }
  | .stored =>
      some { publish.scheduleAppCallback .publishSummationAndReportCb with
        reportScheduled := true
        reportPc := .idle }

/-- The ZBOSS thread runs the oldest callback; both write the attribute from the shadow. -/
def zbossStep (publish : SummationPublish) : Option SummationPublish :=
  match publish.callbacks with
  | [] => none
  | _ :: callbacks =>
      some { publish.writeSummationAttribute publish.pendingSummationTotal with callbacks }

/-- The three parties as one machine. -/
def machine : Machine SummationPublish PublishStep where
  step publish
    | .loop pulses => some (publish.loopStep pulses)
    | .report => publish.reportStep
    | .zboss => publish.zbossStep

/-- `CurrentSummationDelivered`: the last value written. -/
def summation (publish : SummationPublish) : Option MeteringU48 := publish.written.getLast?

/-- The total that the next step of a report stores. -/
def totalToStore : ReportPc → Option UInt64
  | .storing total => some total
  | .idle | .sampling _ | .stored => none

/-- The report work has stored a total but not scheduled its callback. -/
def reportUnannounced : ReportPc → ℕ
  | .stored => 1
  | .idle | .sampling _ | .storing _ => 0

/-- The sample loop has stored a total but not scheduled its callback. -/
def loopUnannounced : PublishPc → ℕ
  | .firstStored | .stored _ => 1
  | .booted | .arming | .asleep | .updated | .sampling | .storing _ => 0

/-- The attribute as a mirror of the shadow variable. -/
def mirror (publish : SummationPublish) : Mirror MeteringU48 where
  shadow := meteringScaleToU48 publish.pendingSummationTotal
  unannounced := loopUnannounced publish.loopPc + reportUnannounced publish.reportPc
  notices := publish.callbacks.length
  copies := publish.written

/-- The move of the mirror that a step makes. -/
def moveOf (publish : SummationPublish) : PublishStep → Option (Mirror.Move MeteringU48)
  | .loop _ =>
      match publish.loopPc with
      | .booted | .storing _ => some (.store (meteringScaleToU48 publish.acc.total))
      | .firstStored | .stored _ => some .announce
      | _ => none
  | .report =>
      match publish.reportPc with
      | .storing total => some (.store (meteringScaleToU48 total))
      | .stored => some .announce
      | _ => none
  | .zboss => some .deliver

variable {publish after : SummationPublish} {action : PublishStep}

/-- The sample loop only ever stores the live total. -/
theorem moveOf_loop_store {pulses : UInt32} {value : MeteringU48}
    (store : publish.moveOf (.loop pulses) = some (.store value)) :
    value = meteringScaleToU48 publish.acc.total := by
  cases pc_eq : publish.loopPc <;> simp_all [moveOf]

/-- The report work stores the total it has in hand. -/
theorem moveOf_report_store {value : MeteringU48}
    (store : publish.moveOf .report = some (.store value)) :
    ∃ total ∈ totalToStore publish.reportPc, value = meteringScaleToU48 total := by
  cases pc_eq : publish.reportPc <;> simp_all [moveOf, totalToStore]

/-- What a step of the report work does at each of its program points. -/
theorem reportStep_cases (step : publish.reportStep = some after) :
    (publish.reportPc = .idle ∧ publish.reportScheduled = true ∧
        after = { publish with
          reportScheduled := false
          reportPc := .sampling publish.acc.total }) ∨
      (∃ total, publish.reportPc = .sampling total ∧
        after = { publish with reportPc := .storing total }) ∨
      (∃ total, publish.reportPc = .storing total ∧
        after = { publish.storeTotal total with reportPc := .stored }) ∨
      (publish.reportPc = .stored ∧
        after = { publish.scheduleAppCallback .publishSummationAndReportCb with
          reportScheduled := true
          reportPc := .idle }) := by
  cases pc_eq : publish.reportPc with
  | idle =>
      simp only [reportStep, pc_eq] at step
      obtain ⟨scheduled, rfl⟩ := Machine.guard_inv step
      exact Or.inl ⟨rfl, scheduled, rfl⟩
  | sampling total =>
      simp only [reportStep, pc_eq, Option.some.injEq] at step
      exact Or.inr (Or.inl ⟨total, rfl, step.symm⟩)
  | storing total =>
      simp only [reportStep, pc_eq, Option.some.injEq] at step
      exact Or.inr (Or.inr (Or.inl ⟨total, rfl, step.symm⟩))
  | stored =>
      simp only [reportStep, pc_eq, Option.some.injEq] at step
      exact Or.inr (Or.inr (Or.inr ⟨rfl, step.symm⟩))

/-- A step of the ZBOSS thread takes the oldest callback off the queue and writes the shadow. -/
theorem zbossStep_inv (step : publish.zbossStep = some after) :
    ∃ callback callbacks, publish.callbacks = callback :: callbacks ∧
      after = { publish.writeSummationAttribute publish.pendingSummationTotal with callbacks } := by
  cases callbacks_eq : publish.callbacks with
  | nil => simp [zbossStep, callbacks_eq] at step
  | cons callback callbacks =>
      simp only [zbossStep, callbacks_eq, Option.some.injEq] at step
      exact ⟨callback, callbacks, rfl, step.symm⟩

theorem mirror_decidePublish (pc_eq : publish.loopPc = .updated) :
    publish.decidePublish.mirror = publish.mirror := by
  simp only [decidePublish]
  split
  · cases publish.pulseHeartbeat.advance.1 <;> simp [mirror, pc_eq, loopUnannounced]
  · simp [mirror, pc_eq, loopUnannounced]

theorem mirror_loopStep (publish : SummationPublish) (pulses : UInt32) :
    (publish.loopStep pulses).mirror = publish.mirror.reactOpt (publish.moveOf (.loop pulses)) := by
  cases pc_eq : publish.loopPc with
  | updated =>
      simp only [loopStep, moveOf, pc_eq]
      exact mirror_decidePublish pc_eq
  | arming | asleep | sampling =>
      simp [loopStep, moveOf, mirror, Mirror.reactOpt, pc_eq, loopUnannounced]
  | booted | storing =>
      simp [loopStep, moveOf, mirror, Mirror.reactOpt, Mirror.react, storeTotal, pc_eq,
        loopUnannounced, Nat.add_comm]
  | firstStored | stored =>
      simp [loopStep, moveOf, mirror, Mirror.reactOpt, Mirror.react, scheduleAppCallback, pc_eq,
        loopUnannounced]

theorem mirror_reportStep (step : publish.reportStep = some after) :
    after.mirror = publish.mirror.reactOpt (publish.moveOf .report) := by
  rcases reportStep_cases step with ⟨pc_eq, -, rfl⟩ | ⟨total, pc_eq, rfl⟩ | ⟨total, pc_eq, rfl⟩ |
    ⟨pc_eq, rfl⟩
  · simp [moveOf, mirror, Mirror.reactOpt, pc_eq, reportUnannounced]
  · simp [moveOf, mirror, Mirror.reactOpt, pc_eq, reportUnannounced]
  · simp [moveOf, mirror, Mirror.reactOpt, Mirror.react, storeTotal, pc_eq, reportUnannounced]
  · simp [moveOf, mirror, Mirror.reactOpt, Mirror.react, scheduleAppCallback, pc_eq,
      reportUnannounced]

theorem mirror_zbossStep (step : publish.zbossStep = some after) :
    after.mirror = publish.mirror.reactOpt (publish.moveOf .zboss) := by
  obtain ⟨callback, callbacks, callbacks_eq, rfl⟩ := zbossStep_inv step
  simp [mirror, moveOf, Mirror.reactOpt, Mirror.react, writeSummationAttribute, callbacks_eq]

/-- Every step makes its move of the mirror. -/
theorem mirror_step (step : machine.step publish action = some after) :
    after.mirror = publish.mirror.reactOpt (publish.moveOf action) := by
  cases action with
  | loop pulses =>
      obtain rfl := Option.some.inj step
      exact mirror_loopStep publish pulses
  | report => exact mirror_reportStep step
  | zboss => exact mirror_zbossStep step

/-- The state after a report has stored the total in hand and scheduled its callback. -/
def afterReport (publish : SummationPublish) (total : UInt64) : SummationPublish :=
  { publish with
    reportPc := .idle
    reportScheduled := true
    pendingSummationTotal := total
    callbacks := publish.callbacks ++ [.publishSummationAndReportCb] }

theorem run_report {total : UInt64} (storing : total ∈ totalToStore publish.reportPc) :
    machine.run publish [.report, .report] = some (publish.afterReport total) := by
  have pc_eq : publish.reportPc = .storing total := by
    cases pc_eq : publish.reportPc <;> simp_all [totalToStore]
  simp [Machine.run_cons, machine, reportStep, storeTotal, scheduleAppCallback, pc_eq, afterReport]

/-- The state after the ZBOSS thread has run every callback. -/
def drained (publish : SummationPublish) : SummationPublish :=
  { publish with
    callbacks := []
    written := publish.written ++
      List.replicate publish.callbacks.length (meteringScaleToU48 publish.pendingSummationTotal) }

theorem run_zboss (publish : SummationPublish) :
    machine.run publish (List.replicate publish.callbacks.length .zboss) =
      some publish.drained := by
  generalize callbacks_eq : publish.callbacks = callbacks
  induction callbacks generalizing publish with
  | nil =>
      cases publish
      simp_all [drained]
  | cons callback callbacks induction =>
      have step : machine.step publish .zboss =
          some { publish.writeSummationAttribute publish.pendingSummationTotal with
            callbacks } := by
        simp [machine, zbossStep, callbacks_eq]
      rw [List.length_cons, List.replicate_succ, Machine.run_cons, step, Option.bind_some]
      refine (induction _ rfl).trans ?_
      simp [drained, writeSummationAttribute, callbacks_eq, List.replicate_succ]

/-- The first publish with its callback, a whole report, and the publish of one more pulse. -/
def reportInTurn : List PublishStep :=
  [.loop 0, .loop 0, .loop 0, .zboss, .report, .report, .report, .report, .zboss, .loop 1, .loop 0,
    .loop 0, .loop 0, .zboss]

/-- A report takes its total, the loop publishes one more pulse, and the report stores its total. -/
def reportOvertaken : List PublishStep :=
  [.loop 0, .loop 0, .loop 0, .zboss, .report, .loop 1, .loop 0, .loop 0, .loop 0, .zboss, .report,
    .report, .report, .zboss]

end SummationPublish

end PowerMeter
