import PowerMeter.BatteryLevel
import PowerMeter.Foundations.Machine
import PowerMeter.MeteringScale

/-!
# Battery values and reports

`zigbee_app_publish_summation_and_report` samples the battery before it schedules the callback that
writes the attributes and sends the report. Both the sample loop and the report work call it, each
in its own context, and the ZBOSS thread copies the two pending battery values one after the other.
Every value carries the number of conversions made when it was converted; the values of the boot
carry zero. Every access to a shared variable is one step, the endpoint is registered and every
callback is accepted.
-/

namespace PowerMeter

open Guarded

/-- A pending value or an attribute, and the conversions made by then. -/
structure Sampled where
  value : UInt8
  made : ℕ
  deriving DecidableEq

/-- What `power_config_attrs_init` and the initializers of the pending values leave. -/
def Sampled.unknown : Sampled := ⟨batteryLevelZclUnknown, 0⟩

/-- The callers of `zigbee_app_publish_summation_and_report`. -/
inductive Reporter
  | sampleLoop
  | reportWork
  deriving DecidableEq

instance (holds : Reporter → Prop) [DecidablePred holds] : Decidable (∀ reporter, holds reporter) :=
  decidable_of_iff (holds .sampleLoop ∧ holds .reportWork)
    ⟨fun both reporter => by cases reporter; exacts [both.1, both.2], fun all => ⟨all _, all _⟩⟩

/-- The scheduled callbacks; one that reports knows the conversion of its call. -/
inductive ReportCallback
  | publishSummationCb
  | publishSummationAndReportCb (conversion : ℕ)

/-- Where a caller is in its call of a publish function. -/
inductive CallPc
  | returned
  | publishing (total : UInt64)
  | converted (conversion : ℕ) (battery : PendingBattery) (total : UInt64)
  | voltageStored (conversion : ℕ) (battery : PendingBattery) (total : UInt64)
  | percentageStored (conversion : ℕ) (total : UInt64)
  | totalStored (callback : ReportCallback)

/-- Where the ZBOSS thread is in `publish_summation_and_report_cb`. -/
inductive ReportCbPc
  | idle
  | summationWritten (conversion : ℕ)
  | voltageWritten (conversion : ℕ)
  | percentageWritten (conversion : ℕ)

/-- How `send_explicit_summation_report` ends. -/
inductive FrameOutcome
  | noReportingSlot
  | noOutBuffer
  | sent
  deriving DecidableEq

/-- The attributes a coordinator can read when a report reaches it. -/
structure SentReport where
  conversion : ℕ
  summation : MeteringU48
  voltage : Sampled
  percentage : Sampled

/-- The shared variables, the attributes, the conversions made and the reports sent. -/
structure BatteryReports where
  calls : Reporter → CallPc
  conversions : List PendingBattery
  pendingVoltage : Sampled
  pendingPercentage : Sampled
  pendingSummationTotal : UInt64
  callbacks : List ReportCallback
  callbackPc : ReportCbPc
  summation : MeteringU48
  voltage : Sampled
  percentage : Sampled
  sent : List SentReport

/-- A call with its conversion, the next step of a caller, or the next step of the ZBOSS thread. -/
inductive BatteryAction
  | publishSummation (total : UInt64)
  | publishSummationAndReport (reporter : Reporter) (adc : AdcResults) (total : UInt64)
  | proceed (reporter : Reporter)
  | zboss (outcome : FrameOutcome)

namespace BatteryReports

/-- After `zigbee_app_init`. -/
def booted : BatteryReports where
  calls _ := .returned
  conversions := []
  pendingVoltage := .unknown
  pendingPercentage := .unknown
  pendingSummationTotal := 0
  callbacks := []
  callbackPc := .idle
  summation := ⟨0, 0⟩
  voltage := .unknown
  percentage := .unknown
  sent := []

/-- Move a caller on. -/
def goTo (reports : BatteryReports) (reporter : Reporter) (pc : CallPc) : BatteryReports :=
  { reports with calls := Function.update reports.calls reporter pc }

/-- Enter `zigbee_app_publish_summation_and_report` and convert, as in `battery_sample`. -/
def convert (emptyMv fullMv : UInt16) (reports : BatteryReports) (reporter : Reporter)
    (adc : AdcResults) (total : UInt64) : BatteryReports :=
  let battery := (batterySample emptyMv fullMv adc).result
  { reports.goTo reporter (.converted reports.conversions.length battery total) with
    conversions := reports.conversions ++ [battery] }

/-- The next step of a call. -/
def proceed (reports : BatteryReports) (reporter : Reporter) : Option BatteryReports :=
  match reports.calls reporter with
  | .returned => none
  | .publishing total =>
      some { reports.goTo reporter (.totalStored .publishSummationCb) with
        pendingSummationTotal := total }
  | .converted conversion battery total =>
      some { reports.goTo reporter (.voltageStored conversion battery total) with
        pendingVoltage := ⟨battery.voltage, conversion + 1⟩ }
  | .voltageStored conversion battery total =>
      some { reports.goTo reporter (.percentageStored conversion total) with
        pendingPercentage := ⟨battery.percentage, conversion + 1⟩ }
  | .percentageStored conversion total =>
      some { reports.goTo reporter (.totalStored (.publishSummationAndReportCb conversion)) with
        pendingSummationTotal := total }
  | .totalStored callback =>
      some { reports.goTo reporter .returned with callbacks := reports.callbacks ++ [callback] }

/-- The next step of the ZBOSS thread: `write_summation_attribute`, the two writes of
`battery_write_attributes`, and `send_explicit_summation_report`. -/
def zboss (reports : BatteryReports) (outcome : FrameOutcome) : Option BatteryReports :=
  match reports.callbackPc with
  | .idle =>
      match reports.callbacks with
      | [] => none
      | .publishSummationCb :: callbacks =>
          some { reports with
            callbacks
            summation := meteringScaleToU48 reports.pendingSummationTotal }
      | .publishSummationAndReportCb conversion :: callbacks =>
          some { reports with
            callbacks
            summation := meteringScaleToU48 reports.pendingSummationTotal
            callbackPc := .summationWritten conversion }
  | .summationWritten conversion =>
      some { reports with
        voltage := reports.pendingVoltage
        callbackPc := .voltageWritten conversion }
  | .voltageWritten conversion =>
      some { reports with
        percentage := reports.pendingPercentage
        callbackPc := .percentageWritten conversion }
  | .percentageWritten conversion =>
      match outcome with
      | .noReportingSlot | .noOutBuffer => some { reports with callbackPc := .idle }
      | .sent =>
          some { reports with
            callbackPc := .idle
            sent := reports.sent ++
              [⟨conversion, reports.summation, reports.voltage, reports.percentage⟩] }

/-- One step of a caller or of the ZBOSS thread. -/
def step (emptyMv fullMv : UInt16) (reports : BatteryReports) :
    BatteryAction → Option BatteryReports
  | .publishSummation total =>
      match reports.calls .sampleLoop with
      | .returned => some (reports.goTo .sampleLoop (.publishing total))
      | _ => none
  | .publishSummationAndReport reporter adc total =>
      match reports.calls reporter with
      | .returned => some (convert emptyMv fullMv reports reporter adc total)
      | _ => none
  | .proceed reporter => reports.proceed reporter
  | .zboss outcome => reports.zboss outcome

/-- The two callers and the ZBOSS thread as one machine. -/
def machine (emptyMv fullMv : UInt16) : Machine BatteryReports BatteryAction :=
  ⟨step emptyMv fullMv⟩

/-- What a step of a caller does. -/
inductive Proceeded (reports : BatteryReports) (reporter : Reporter) : BatteryReports → Prop
  | plainTotal {total : UInt64} (pc_eq : reports.calls reporter = .publishing total) :
      Proceeded reports reporter
        { reports.goTo reporter (.totalStored .publishSummationCb) with
          pendingSummationTotal := total }
  | voltage {conversion : ℕ} {battery : PendingBattery} {total : UInt64}
      (pc_eq : reports.calls reporter = .converted conversion battery total) :
      Proceeded reports reporter
        { reports.goTo reporter (.voltageStored conversion battery total) with
          pendingVoltage := ⟨battery.voltage, conversion + 1⟩ }
  | percentage {conversion : ℕ} {battery : PendingBattery} {total : UInt64}
      (pc_eq : reports.calls reporter = .voltageStored conversion battery total) :
      Proceeded reports reporter
        { reports.goTo reporter (.percentageStored conversion total) with
          pendingPercentage := ⟨battery.percentage, conversion + 1⟩ }
  | total {conversion : ℕ} {total : UInt64}
      (pc_eq : reports.calls reporter = .percentageStored conversion total) :
      Proceeded reports reporter
        { reports.goTo reporter (.totalStored (.publishSummationAndReportCb conversion)) with
          pendingSummationTotal := total }
  | scheduled {callback : ReportCallback} (pc_eq : reports.calls reporter = .totalStored callback) :
      Proceeded reports reporter
        { reports.goTo reporter .returned with callbacks := reports.callbacks ++ [callback] }

/-- What a step of the ZBOSS thread does. -/
inductive Delivered (reports : BatteryReports) : BatteryReports → Prop
  | plain {callbacks : List ReportCallback} (pc_eq : reports.callbackPc = .idle)
      (callbacks_eq : reports.callbacks = .publishSummationCb :: callbacks) :
      Delivered reports { reports with
        callbacks
        summation := meteringScaleToU48 reports.pendingSummationTotal }
  | summation {conversion : ℕ} {callbacks : List ReportCallback}
      (pc_eq : reports.callbackPc = .idle)
      (callbacks_eq : reports.callbacks = .publishSummationAndReportCb conversion :: callbacks) :
      Delivered reports { reports with
        callbacks
        summation := meteringScaleToU48 reports.pendingSummationTotal
        callbackPc := .summationWritten conversion }
  | voltage {conversion : ℕ} (pc_eq : reports.callbackPc = .summationWritten conversion) :
      Delivered reports { reports with
        voltage := reports.pendingVoltage
        callbackPc := .voltageWritten conversion }
  | percentage {conversion : ℕ} (pc_eq : reports.callbackPc = .voltageWritten conversion) :
      Delivered reports { reports with
        percentage := reports.pendingPercentage
        callbackPc := .percentageWritten conversion }
  | dropped {conversion : ℕ} (pc_eq : reports.callbackPc = .percentageWritten conversion) :
      Delivered reports { reports with callbackPc := .idle }
  | sent {conversion : ℕ} (pc_eq : reports.callbackPc = .percentageWritten conversion) :
      Delivered reports { reports with
        callbackPc := .idle
        sent := reports.sent ++
          [⟨conversion, reports.summation, reports.voltage, reports.percentage⟩] }

variable {emptyMv fullMv : UInt16} {reports after final : BatteryReports}
  {reporter : Reporter} {history : List BatteryAction}

theorem proceeded (step : reports.proceed reporter = some after) :
    Proceeded reports reporter after := by
  rw [proceed] at step
  split at step
  next => cases step
  next pc_eq => exact Option.some.inj step ▸ .plainTotal pc_eq
  next pc_eq => exact Option.some.inj step ▸ .voltage pc_eq
  next pc_eq => exact Option.some.inj step ▸ .percentage pc_eq
  next pc_eq => exact Option.some.inj step ▸ .total pc_eq
  next pc_eq => exact Option.some.inj step ▸ .scheduled pc_eq

theorem delivered {outcome : FrameOutcome} (step : reports.zboss outcome = some after) :
    Delivered reports after := by
  rw [zboss] at step
  split at step
  next pc_eq =>
    split at step
    next => cases step
    next callbacks_eq => exact Option.some.inj step ▸ .plain pc_eq callbacks_eq
    next callbacks_eq => exact Option.some.inj step ▸ .summation pc_eq callbacks_eq
  next pc_eq => exact Option.some.inj step ▸ .voltage pc_eq
  next pc_eq => exact Option.some.inj step ▸ .percentage pc_eq
  next pc_eq =>
    split at step
    next => exact Option.some.inj step ▸ .dropped pc_eq
    next => exact Option.some.inj step ▸ .dropped pc_eq
    next => exact Option.some.inj step ▸ .sent pc_eq

/-- A call that is entered leaves what is shared alone, but for the conversion it makes. -/
theorem entered {action : BatteryAction}
    (step : (machine emptyMv fullMv).step reports action = some after) :
    (∃ total, action = .publishSummation total ∧ reports.calls .sampleLoop = .returned ∧
        after = reports.goTo .sampleLoop (.publishing total)) ∨
      (∃ reporter adc total, action = .publishSummationAndReport reporter adc total ∧
        reports.calls reporter = .returned ∧
        after = convert emptyMv fullMv reports reporter adc total) ∨
      (∃ reporter, action = .proceed reporter ∧ Proceeded reports reporter after) ∨
      (∃ outcome, action = .zboss outcome ∧ Delivered reports after) := by
  cases action with
  | publishSummation total =>
      simp only [machine, BatteryReports.step] at step
      split at step
      next pc_eq => exact .inl ⟨total, rfl, pc_eq, (Option.some.inj step).symm⟩
      next => cases step
  | publishSummationAndReport reporter adc total =>
      simp only [machine, BatteryReports.step] at step
      split at step
      next pc_eq =>
        exact .inr (.inl ⟨reporter, adc, total, rfl, pc_eq, (Option.some.inj step).symm⟩)
      next => cases step
  | proceed reporter => exact .inr (.inr (.inl ⟨reporter, rfl, proceeded step⟩))
  | zboss outcome => exact .inr (.inr (.inr ⟨outcome, rfl, delivered step⟩))

/-- A value is the sentinel of the boot, or what its conversion gave. -/
def StemsFrom (conversions : List PendingBattery) (field : PendingBattery → UInt8)
    (sampled : Sampled) : Prop :=
  (sampled.made = 0 ∧ sampled.value = batteryLevelZclUnknown) ∨
    ∃ conversion battery, sampled.made = conversion + 1 ∧
      conversions[conversion]? = some battery ∧ sampled.value = field battery

/-- A call has what its conversion gave in hand. -/
def CallStemsFrom (conversions : List PendingBattery) : CallPc → Prop
  | .converted conversion battery _ | .voltageStored conversion battery _ =>
      conversions[conversion]? = some battery
  | .returned | .publishing _ | .percentageStored _ _ | .totalStored _ => True

/-- The conversions of a run, in the order they were made. -/
def conversionsOf (emptyMv fullMv : UInt16) (history : List BatteryAction) : List PendingBattery :=
  history.filterMap fun action =>
    match action with
    | .publishSummationAndReport _ adc _ => some (batterySample emptyMv fullMv adc).result
    | .publishSummation _ | .proceed _ | .zboss _ => none

/-- Every value stems from one of the conversions of the run. -/
structure Genuine (conversions : List PendingBattery) (reports : BatteryReports) : Prop where
  conversions_eq : reports.conversions = conversions
  calls_stem : ∀ reporter, CallStemsFrom conversions (reports.calls reporter)
  pendingVoltage_stems : StemsFrom conversions PendingBattery.voltage reports.pendingVoltage
  pendingPercentage_stems :
    StemsFrom conversions PendingBattery.percentage reports.pendingPercentage
  voltage_stems : StemsFrom conversions PendingBattery.voltage reports.voltage
  percentage_stems : StemsFrom conversions PendingBattery.percentage reports.percentage
  sent_stem : ∀ report ∈ reports.sent,
    StemsFrom conversions PendingBattery.voltage report.voltage ∧
      StemsFrom conversions PendingBattery.percentage report.percentage

variable {conversions : List PendingBattery}

theorem genuine_booted : booted.Genuine [] where
  conversions_eq := rfl
  calls_stem _ := trivial
  pendingVoltage_stems := .inl ⟨rfl, rfl⟩
  pendingPercentage_stems := .inl ⟨rfl, rfl⟩
  voltage_stems := .inl ⟨rfl, rfl⟩
  percentage_stems := .inl ⟨rfl, rfl⟩
  sent_stem := List.forall_mem_nil _

/-- Further conversions do not change what a value stems from. -/
theorem StemsFrom.append {field : PendingBattery → UInt8} {sampled : Sampled}
    (stems : StemsFrom conversions field sampled) (more : List PendingBattery) :
    StemsFrom (conversions ++ more) field sampled := by
  rcases stems with unknown | ⟨conversion, battery, made_eq, found, value_eq⟩
  · exact .inl unknown
  · have within := (List.getElem?_eq_some_iff.mp found).1
    exact .inr ⟨conversion, battery, made_eq, (List.getElem?_append_left within).trans found,
      value_eq⟩

theorem CallStemsFrom.append {pc : CallPc} (stems : CallStemsFrom conversions pc)
    (more : List PendingBattery) : CallStemsFrom (conversions ++ more) pc := by
  cases pc with
  | returned | publishing | percentageStored | totalStored => trivial
  | converted | voltageStored =>
      have within := (List.getElem?_eq_some_iff.mp stems).1
      exact (List.getElem?_append_left within).trans stems

theorem Genuine.append (genuine : reports.Genuine conversions) (more : List PendingBattery) :
    Genuine (conversions ++ more) { reports with conversions := conversions ++ more } where
  conversions_eq := rfl
  calls_stem reporter := (genuine.calls_stem reporter).append more
  pendingVoltage_stems := genuine.pendingVoltage_stems.append more
  pendingPercentage_stems := genuine.pendingPercentage_stems.append more
  voltage_stems := genuine.voltage_stems.append more
  percentage_stems := genuine.percentage_stems.append more
  sent_stem report member :=
    ⟨(genuine.sent_stem report member).1.append more,
      (genuine.sent_stem report member).2.append more⟩

theorem Genuine.goTo (genuine : reports.Genuine conversions) (reporter : Reporter) (pc : CallPc)
    (stems : CallStemsFrom conversions pc) : (reports.goTo reporter pc).Genuine conversions :=
  { genuine with
    calls_stem := by
      refine (Function.forall_update_iff reports.calls
        fun _ pc => CallStemsFrom conversions pc).mpr ?_
      exact ⟨stems, fun other _ => genuine.calls_stem other⟩ }

theorem genuine_proceeded (genuine : reports.Genuine conversions)
    (step : Proceeded reports reporter after) : after.Genuine conversions := by
  have stems := genuine.calls_stem reporter
  cases step with
  | plainTotal => exact { genuine.goTo reporter (.totalStored .publishSummationCb) trivial with }
  | @voltage conversion battery total pc_eq =>
      rw [pc_eq] at stems
      exact { genuine.goTo reporter (.voltageStored conversion battery total) stems with
        pendingVoltage_stems := .inr ⟨conversion, battery, rfl, stems, rfl⟩ }
  | @percentage conversion battery total pc_eq =>
      rw [pc_eq] at stems
      exact { genuine.goTo reporter (.percentageStored conversion total) trivial with
        pendingPercentage_stems := .inr ⟨conversion, battery, rfl, stems, rfl⟩ }
  | @total conversion total =>
      exact { genuine.goTo reporter
        (.totalStored (.publishSummationAndReportCb conversion)) trivial with }
  | scheduled => exact { genuine.goTo reporter .returned trivial with }

theorem genuine_delivered (genuine : reports.Genuine conversions)
    (step : Delivered reports after) : after.Genuine conversions := by
  cases step with
  | plain | summation | dropped => exact { genuine with }
  | voltage => exact { genuine with voltage_stems := genuine.pendingVoltage_stems }
  | percentage => exact { genuine with percentage_stems := genuine.pendingPercentage_stems }
  | sent =>
      refine { genuine with sent_stem := ?_ }
      intro report member
      rcases List.mem_append.mp member with earlier | last
      · exact genuine.sent_stem report earlier
      · obtain rfl := List.mem_singleton.mp last
        exact ⟨genuine.voltage_stems, genuine.percentage_stems⟩

theorem genuine_step {action : BatteryAction} (genuine : reports.Genuine conversions)
    (step : (machine emptyMv fullMv).step reports action = some after) :
    after.Genuine (conversions ++ conversionsOf emptyMv fullMv [action]) := by
  rcases entered step with ⟨total, rfl, -, rfl⟩ | ⟨reporter, adc, total, rfl, -, rfl⟩ |
    ⟨reporter, rfl, proceeded⟩ | ⟨outcome, rfl, delivered⟩
  · simpa [conversionsOf] using genuine.goTo .sampleLoop (.publishing total) trivial
  · have longer := genuine.append [(batterySample emptyMv fullMv adc).result]
    have converted := longer.goTo reporter (.converted conversions.length
      (batterySample emptyMv fullMv adc).result total) (by simp [CallStemsFrom])
    rw [convert, genuine.conversions_eq]
    exact converted
  · simpa [conversionsOf] using genuine_proceeded genuine proceeded
  · simpa [conversionsOf] using genuine_delivered genuine delivered

/-- Whatever interleaves, no value is made up. -/
theorem genuine_path {admits : Machine.Assumption BatteryReports BatteryAction}
    (path : (machine emptyMv fullMv).Path admits booted history final) :
    final.Genuine (conversionsOf emptyMv fullMv history) := by
  refine path.invariant
    (fun history reports => reports.Genuine (conversionsOf emptyMv fullMv history))
    genuine_booted ?_
  intro history before action after genuine _ step
  have stepped := genuine_step genuine step
  rwa [conversionsOf, conversionsOf, ← List.filterMap_append] at stepped

end BatteryReports

end PowerMeter
