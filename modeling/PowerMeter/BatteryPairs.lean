import PowerMeter.BatteryReports

/-!
# The battery values of a report

A coordinator that reads the battery attributes in response to a report should see the values of the
same tick, as `publish_summation_and_report_cb` intends. It does unless a caller stores a value that
a later conversion has overtaken, or one caller or the ZBOSS thread gets between the two values of
another.
-/

namespace PowerMeter

open Guarded

/-- The conversions of a voltage and a percentage, compared one by one. -/
abbrev Stamps := ℕ × ℕ

/-- The conversions a coordinator can read from. -/
def SentReport.stamps (report : SentReport) : Stamps :=
  (report.voltage.made, report.percentage.made)

/-- What the pending values must not fall behind once a caller has got this far. -/
def CallPc.due : CallPc → Stamps
  | .voltageStored conversion _ _ => (conversion + 1, 0)
  | .percentageStored conversion _ => (conversion + 1, conversion + 1)
  | .totalStored (.publishSummationAndReportCb conversion) => (conversion + 1, conversion + 1)
  | .returned | .publishing _ | .converted _ _ _ | .totalStored .publishSummationCb => (0, 0)

/-- What the pending values must not fall behind while a callback is queued. -/
def ReportCallback.due : ReportCallback → Stamps
  | .publishSummationCb => (0, 0)
  | .publishSummationAndReportCb conversion => (conversion + 1, conversion + 1)

/-- What the pending values must not fall behind while a callback has yet to read them. -/
def ReportCbPc.due : ReportCbPc → Stamps
  | .summationWritten conversion => (conversion + 1, conversion + 1)
  | .voltageWritten conversion => (0, conversion + 1)
  | .idle | .percentageWritten _ => (0, 0)

/-- What the attributes must not fall behind once a callback has written them. -/
def ReportCbPc.written : ReportCbPc → Stamps
  | .voltageWritten conversion => (conversion + 1, 0)
  | .percentageWritten conversion => (conversion + 1, conversion + 1)
  | .idle | .summationWritten _ => (0, 0)

/-- A caller is between its two stores. -/
def CallPc.storing : CallPc → Bool
  | .voltageStored _ _ _ => true
  | .returned | .publishing _ | .converted _ _ _ | .percentageStored _ _ | .totalStored _ => false

/-- The ZBOSS thread is between its two writes. -/
def ReportCbPc.reading : ReportCbPc → Bool
  | .voltageWritten _ => true
  | .idle | .summationWritten _ | .percentageWritten _ => false

namespace BatteryReports

/-- The conversions of the pending values. -/
def pending (reports : BatteryReports) : Stamps :=
  (reports.pendingVoltage.made, reports.pendingPercentage.made)

/-- The conversions of the attributes. -/
def shown (reports : BatteryReports) : Stamps :=
  (reports.voltage.made, reports.percentage.made)

/-- If a caller is about to store a value, it has not been overtaken by a later conversion. -/
def NotOvertaken (reports : BatteryReports) : CallPc → Prop
  | .converted conversion _ _ => reports.pendingVoltage.made ≤ conversion + 1
  | .voltageStored conversion _ _ => reports.pendingPercentage.made ≤ conversion + 1
  | .returned | .publishing _ | .percentageStored _ _ | .totalStored _ => True

/-- Runs in which no caller stores an overtaken value. -/
def InTurn : Machine.Assumption BatteryReports BatteryAction := fun _ reports action =>
  match action with
  | .proceed reporter => reports.NotOvertaken (reports.calls reporter)
  | _ => True

/-- The pending values keep up with everything that is due, the attributes follow them, and the
reports sent go forward. -/
structure Fresh (reports : BatteryReports) : Prop where
  calls_due : ∀ reporter, (reports.calls reporter).due ≤ reports.pending
  callbacks_due : ∀ callback ∈ reports.callbacks, callback.due ≤ reports.pending
  callback_due : reports.callbackPc.due ≤ reports.pending
  callback_written : reports.callbackPc.written ≤ reports.shown
  shown_le : reports.shown ≤ reports.pending
  sent_due : ∀ report ∈ reports.sent, (report.conversion + 1, report.conversion + 1) ≤ report.stamps
  sent_le : ∀ report ∈ reports.sent, report.stamps ≤ reports.shown
  sorted : reports.sent.Pairwise fun earlier later => earlier.stamps ≤ later.stamps

variable {emptyMv fullMv : UInt16} {reports after final : BatteryReports}
  {reporter : Reporter} {history : List BatteryAction}

theorem zero_le_stamps (stamps : Stamps) : ((0, 0) : Stamps) ≤ stamps :=
  ⟨Nat.zero_le _, Nat.zero_le _⟩

theorem fresh_booted : booted.Fresh where
  calls_due _ := zero_le_stamps _
  callbacks_due := List.forall_mem_nil _
  callback_due := zero_le_stamps _
  callback_written := zero_le_stamps _
  shown_le := le_rfl
  sent_due := List.forall_mem_nil _
  sent_le := List.forall_mem_nil _
  sorted := .nil

/-- Moving a caller on without touching what is shared. -/
theorem Fresh.goTo (fresh : reports.Fresh) (reporter : Reporter) (pc : CallPc)
    (due : pc.due ≤ reports.pending) : (reports.goTo reporter pc).Fresh :=
  { fresh with
    calls_due := by
      refine (Function.forall_update_iff reports.calls fun _ pc => pc.due ≤ reports.pending).mpr ?_
      exact ⟨due, fun other _ => fresh.calls_due other⟩ }

/-- Storing later values keeps up with all that was due. -/
theorem Fresh.store (fresh : reports.Fresh) (voltage percentage : Sampled)
    (later : reports.pending ≤ (voltage.made, percentage.made)) :
    Fresh { reports with
      pendingVoltage := voltage
      pendingPercentage := percentage } :=
  { fresh with
    calls_due := fun reporter => (fresh.calls_due reporter).trans later
    callbacks_due := fun callback queued => (fresh.callbacks_due callback queued).trans later
    callback_due := fresh.callback_due.trans later
    shown_le := fresh.shown_le.trans later }

/-- A step of a caller that stores nothing overtaken. -/
theorem fresh_proceeded (fresh : reports.Fresh)
    (in_turn : reports.NotOvertaken (reports.calls reporter))
    (step : Proceeded reports reporter after) : after.Fresh := by
  have due := fresh.calls_due reporter
  cases step with
  | plainTotal =>
      have moved := fresh.goTo reporter (.totalStored .publishSummationCb) (zero_le_stamps _)
      exact { moved with }
  | @voltage conversion battery total pc_eq =>
      rw [pc_eq] at in_turn
      have stored := fresh.store ⟨battery.voltage, conversion + 1⟩ reports.pendingPercentage
        ⟨in_turn, le_rfl⟩
      exact stored.goTo reporter _ ⟨le_rfl, Nat.zero_le _⟩
  | @percentage conversion battery total pc_eq =>
      rw [pc_eq] at due in_turn
      have stored := fresh.store reports.pendingVoltage ⟨battery.percentage, conversion + 1⟩
        ⟨le_rfl, in_turn⟩
      exact stored.goTo reporter _ ⟨due.1, le_rfl⟩
  | @total conversion total pc_eq =>
      rw [pc_eq] at due
      have moved := fresh.goTo reporter (.totalStored (.publishSummationAndReportCb conversion)) due
      exact { moved with }
  | @scheduled callback pc_eq =>
      rw [pc_eq] at due
      have moved := fresh.goTo reporter .returned (zero_le_stamps _)
      refine { moved with callbacks_due := ?_ }
      intro queued member
      rcases List.mem_append.mp member with earlier | last
      · exact fresh.callbacks_due queued earlier
      · obtain rfl := List.mem_singleton.mp last
        cases queued with
        | publishSummationCb => exact zero_le_stamps _
        | publishSummationAndReportCb conversion => exact due

/-- The ZBOSS thread copies what is pending, and sends what it has copied. -/
theorem fresh_delivered (fresh : reports.Fresh) (step : Delivered reports after) :
    after.Fresh := by
  have callbacks_due := fresh.callbacks_due
  have due := fresh.callback_due
  have written := fresh.callback_written
  cases step with
  | plain _ callbacks_eq =>
      rw [callbacks_eq] at callbacks_due
      exact { fresh with
        callbacks_due := fun queued member => callbacks_due queued (List.mem_cons_of_mem _ member) }
  | summation _ callbacks_eq =>
      rw [callbacks_eq] at callbacks_due
      exact { fresh with
        callbacks_due := fun queued member => callbacks_due queued (List.mem_cons_of_mem _ member)
        callback_due := callbacks_due _ List.mem_cons_self
        callback_written := zero_le_stamps _ }
  | voltage pc_eq =>
      rw [pc_eq] at due
      have voltage_le := fresh.shown_le.1
      exact { fresh with
        callback_due := ⟨Nat.zero_le _, due.2⟩
        callback_written := ⟨due.1, Nat.zero_le _⟩
        shown_le := ⟨le_rfl, fresh.shown_le.2⟩
        sent_le := fun report member =>
          (fresh.sent_le report member).trans ⟨voltage_le, le_rfl⟩ }
  | percentage pc_eq =>
      rw [pc_eq] at due written
      have percentage_le := fresh.shown_le.2
      exact { fresh with
        callback_due := zero_le_stamps _
        callback_written := ⟨written.1, due.2⟩
        shown_le := ⟨fresh.shown_le.1, le_rfl⟩
        sent_le := fun report member =>
          (fresh.sent_le report member).trans ⟨le_rfl, percentage_le⟩ }
  | dropped =>
      exact { fresh with
        callback_due := zero_le_stamps _
        callback_written := zero_le_stamps _ }
  | @sent conversion pc_eq =>
      rw [pc_eq] at written
      refine { fresh with
        callback_due := zero_le_stamps _
        callback_written := zero_le_stamps _
        sent_due := ?_
        sent_le := ?_
        sorted := ?_ }
      · intro report member
        rcases List.mem_append.mp member with earlier | last
        · exact fresh.sent_due report earlier
        · obtain rfl := List.mem_singleton.mp last
          exact written
      · intro report member
        rcases List.mem_append.mp member with earlier | last
        · exact fresh.sent_le report earlier
        · obtain rfl := List.mem_singleton.mp last
          exact le_rfl
      · refine List.pairwise_append.mpr ⟨fresh.sorted, List.pairwise_singleton _ _, ?_⟩
        intro earlier member last last_mem
        obtain rfl := List.mem_singleton.mp last_mem
        exact fresh.sent_le earlier member

theorem fresh_step {action : BatteryAction} (fresh : reports.Fresh)
    (admitted : InTurn history reports action)
    (step : (machine emptyMv fullMv).step reports action = some after) : after.Fresh := by
  rcases entered step with ⟨total, rfl, -, rfl⟩ | ⟨reporter, adc, total, rfl, -, rfl⟩ |
    ⟨reporter, rfl, proceeded⟩ | ⟨outcome, rfl, delivered⟩
  · exact fresh.goTo .sampleLoop (.publishing total) (zero_le_stamps _)
  · have moved := fresh.goTo reporter (.converted reports.conversions.length
      (batterySample emptyMv fullMv adc).result total) (zero_le_stamps _)
    exact { moved with }
  · exact fresh_proceeded fresh admitted proceeded
  · exact fresh_delivered fresh delivered

theorem fresh_path (path : (machine emptyMv fullMv).Path InTurn booted history final) :
    final.Fresh :=
  path.invariant (fun _ reports => reports.Fresh) fresh_booted
    fun _ _ _ _ fresh admitted step => fresh_step fresh admitted step

/-- If a caller is about to store a value, nobody else is within a pair. -/
def StoresUndivided (reports : BatteryReports) : CallPc → Prop
  | .converted _ _ _ =>
      (∀ other, (reports.calls other).storing = false) ∧ reports.callbackPc.reading = false
  | .voltageStored _ _ _ => reports.callbackPc.reading = false
  | .returned | .publishing _ | .percentageStored _ _ | .totalStored _ => True

/-- If the ZBOSS thread is about to read a pair, no caller is within one. -/
def ReadsUndivided (reports : BatteryReports) : ReportCbPc → Prop
  | .summationWritten _ => ∀ reporter, (reports.calls reporter).storing = false
  | .idle | .voltageWritten _ | .percentageWritten _ => True

/-- Runs in which neither the two stores of a caller nor the two writes of the ZBOSS thread are
divided by another pair. -/
def Undivided : Machine.Assumption BatteryReports BatteryAction := fun _ reports action =>
  match action with
  | .proceed reporter => reports.StoresUndivided (reports.calls reporter)
  | .zboss _ => reports.ReadsUndivided reports.callbackPc
  | _ => True

/-- A voltage and a percentage belong together unless one of them has just been replaced. -/
structure Paired (reports : BatteryReports) : Prop where
  one_storing : ∀ reporter other, (reports.calls reporter).storing = true →
    (reports.calls other).storing = true → reporter = other
  stored : ∀ reporter conversion battery total,
    reports.calls reporter = .voltageStored conversion battery total →
      reports.pendingVoltage.made = conversion + 1
  settled : (∀ reporter, (reports.calls reporter).storing = false) →
    reports.pendingVoltage.made = reports.pendingPercentage.made
  reading : reports.callbackPc.reading = true →
    (∀ reporter, (reports.calls reporter).storing = false) ∧
      reports.voltage.made = reports.pendingPercentage.made
  read : ∀ conversion, reports.callbackPc = .percentageWritten conversion →
    reports.voltage.made = reports.percentage.made
  sent_paired : ∀ report ∈ reports.sent, report.voltage.made = report.percentage.made

theorem paired_booted : booted.Paired where
  one_storing _ _ storing := by simp [booted, CallPc.storing] at storing
  stored _ _ _ _ pc_eq := by simp [booted] at pc_eq
  settled _ := rfl
  reading reading := by simp [booted, ReportCbPc.reading] at reading
  read _ pc_eq := by simp [booted] at pc_eq
  sent_paired := List.forall_mem_nil _

/-- Moving a caller that is not between its stores, to a place that is not either. -/
theorem Paired.goTo (paired : reports.Paired) (reporter : Reporter) (pc : CallPc)
    (before : (reports.calls reporter).storing = false) (now : pc.storing = false) :
    (reports.goTo reporter pc).Paired := by
  have same : ∀ other, ((reports.goTo reporter pc).calls other).storing =
      (reports.calls other).storing := by
    intro other
    by_cases moved : other = reporter
    · subst moved
      simp [BatteryReports.goTo, before, now]
    · simp [BatteryReports.goTo, moved]
  refine ⟨?_, ?_, ?_, ?_, paired.read, paired.sent_paired⟩
  · simp only [same]
    exact paired.one_storing
  · intro other conversion battery total pc_eq
    by_cases moved : other = reporter
    · subst moved
      simp only [BatteryReports.goTo, Function.update_self] at pc_eq
      simp [pc_eq, CallPc.storing] at now
    · simp only [BatteryReports.goTo, Function.update_of_ne moved] at pc_eq
      exact paired.stored other conversion battery total pc_eq
  · simp only [same]
    exact paired.settled
  · simp only [same]
    exact paired.reading

/-- A caller that stores its voltage is the only one within a pair. -/
private theorem paired_voltage (paired : reports.Paired) {conversion : ℕ}
    {battery : PendingBattery} {total : UInt64}
    (undivided : reports.StoresUndivided (.converted conversion battery total)) :
    Paired { reports.goTo reporter (.voltageStored conversion battery total) with
      pendingVoltage := ⟨battery.voltage, conversion + 1⟩ } := by
  obtain ⟨none_storing, not_reading⟩ := undivided
  set calls := Function.update reports.calls reporter (.voltageStored conversion battery total)
    with calls_eq
  have own : calls reporter = .voltageStored conversion battery total := Function.update_self ..
  have only : ∀ other, (calls other).storing = true → other = reporter := by
    intro other storing
    by_contra elsewhere
    rw [calls_eq, Function.update_of_ne elsewhere, none_storing other] at storing
    cases storing
  refine ⟨?_, ?_, ?_, ?_, paired.read, paired.sent_paired⟩
  · exact fun first second storing also => (only first storing).trans (only second also).symm
  · intro other number carried carried_total stored_eq
    have stored_eq : calls other = .voltageStored number carried carried_total := stored_eq
    obtain rfl := only other (by rw [stored_eq]; rfl)
    rw [own] at stored_eq
    obtain ⟨rfl, -, -⟩ := CallPc.voltageStored.inj stored_eq
    rfl
  · intro none_left
    have stores : (calls reporter).storing = true := by rw [own]; rfl
    exact absurd stores (Bool.not_eq_true _ ▸ none_left reporter)
  · exact fun reading => absurd reading (Bool.not_eq_true _ ▸ not_reading)

/-- A caller that stores its percentage completes the pair. -/
private theorem paired_percentage (paired : reports.Paired) {conversion : ℕ}
    {battery : PendingBattery} {total : UInt64}
    (pc_eq : reports.calls reporter = .voltageStored conversion battery total)
    (not_reading : reports.callbackPc.reading = false) :
    Paired { reports.goTo reporter (.percentageStored conversion total) with
      pendingPercentage := ⟨battery.percentage, conversion + 1⟩ } := by
  set calls := Function.update reports.calls reporter (.percentageStored conversion total)
    with calls_eq
  have none_left : ∀ other, (calls other).storing = false := by
    intro other
    by_cases moved : other = reporter
    · rw [moved, calls_eq, Function.update_self]
      rfl
    · rw [calls_eq, Function.update_of_ne moved, ← Bool.not_eq_true]
      intro storing
      exact moved (paired.one_storing other reporter storing (by rw [pc_eq]; rfl))
  refine ⟨?_, ?_, ?_, ?_, paired.read, paired.sent_paired⟩
  · exact fun first second storing => absurd storing (Bool.not_eq_true _ ▸ none_left first)
  · intro other number carried carried_total stored_eq
    have stored_eq : calls other = .voltageStored number carried carried_total := stored_eq
    have storing := none_left other
    rw [stored_eq] at storing
    cases storing
  · exact fun _ => paired.stored reporter conversion battery total pc_eq
  · exact fun reading => absurd reading (Bool.not_eq_true _ ▸ not_reading)

theorem paired_proceeded (paired : reports.Paired)
    (undivided : reports.StoresUndivided (reports.calls reporter))
    (step : Proceeded reports reporter after) : after.Paired := by
  cases step with
  | plainTotal pc_eq =>
      exact { paired.goTo reporter (.totalStored .publishSummationCb)
        (by rw [pc_eq]; rfl) rfl with }
  | voltage pc_eq =>
      rw [pc_eq] at undivided
      exact paired_voltage paired undivided
  | percentage pc_eq =>
      rw [pc_eq] at undivided
      exact paired_percentage paired pc_eq undivided
  | @total conversion total pc_eq =>
      exact { paired.goTo reporter (.totalStored (.publishSummationAndReportCb conversion))
        (by rw [pc_eq]; rfl) rfl with }
  | scheduled pc_eq => exact { paired.goTo reporter .returned (by rw [pc_eq]; rfl) rfl with }

theorem paired_delivered (paired : reports.Paired)
    (undivided : reports.ReadsUndivided reports.callbackPc) (step : Delivered reports after) :
    after.Paired := by
  cases step with
  | plain => exact { paired with }
  | summation =>
      exact { paired with
        reading := fun impossible => by cases impossible
        read := fun _ impossible => by cases impossible }
  | voltage pc_eq =>
      rw [pc_eq] at undivided
      exact { paired with
        reading := fun _ => ⟨undivided, paired.settled undivided⟩
        read := fun _ impossible => by cases impossible }
  | percentage pc_eq =>
      have same := (paired.reading (by rw [pc_eq]; rfl)).2
      exact { paired with
        reading := fun impossible => by cases impossible
        read := fun _ _ => same }
  | dropped =>
      exact { paired with
        reading := fun impossible => by cases impossible
        read := fun _ impossible => by cases impossible }
  | @sent conversion pc_eq =>
      refine { paired with
        reading := fun impossible => by cases impossible
        read := fun _ impossible => by cases impossible
        sent_paired := ?_ }
      intro report member
      rcases List.mem_append.mp member with earlier | last
      · exact paired.sent_paired report earlier
      · obtain rfl := List.mem_singleton.mp last
        exact paired.read conversion pc_eq

theorem paired_step {action : BatteryAction} (paired : reports.Paired)
    (undivided : Undivided history reports action)
    (step : (machine emptyMv fullMv).step reports action = some after) : after.Paired := by
  rcases entered step with ⟨total, rfl, pc_eq, rfl⟩ | ⟨reporter, adc, total, rfl, pc_eq, rfl⟩ |
    ⟨reporter, rfl, proceeded⟩ | ⟨outcome, rfl, delivered⟩
  · exact paired.goTo .sampleLoop (.publishing total) (by rw [pc_eq]; rfl) rfl
  · exact { paired.goTo reporter (.converted reports.conversions.length
      (batterySample emptyMv fullMv adc).result total) (by rw [pc_eq]; rfl) rfl with }
  · exact paired_proceeded paired undivided proceeded
  · exact paired_delivered paired undivided delivered

theorem paired_path (path : (machine emptyMv fullMv).Path Undivided booted history final) :
    final.Paired :=
  path.invariant (fun _ reports => reports.Paired) paired_booted
    fun _ _ _ _ paired undivided step => paired_step paired undivided step

/-- Runs in which no caller stores an overtaken value and no pair is divided. -/
def Orderly : Machine.Assumption BatteryReports BatteryAction := fun history reports action =>
  InTurn history reports action ∧ Undivided history reports action

/-- However the callers and the ZBOSS thread interleave, as long as no caller stores an overtaken
value and no pair is divided, a coordinator reads at every report the voltage and the percentage of
one conversion, which is that of the report's own call or a later one, and never an earlier one than
at an earlier report. -/
theorem reports_show_own_sample
    (path : (machine emptyMv fullMv).Path Orderly booted history final) :
    (∀ report ∈ final.sent, ∃ conversion battery, report.conversion ≤ conversion ∧
      (conversionsOf emptyMv fullMv history)[conversion]? = some battery ∧
      report.voltage = ⟨battery.voltage, conversion + 1⟩ ∧
      report.percentage = ⟨battery.percentage, conversion + 1⟩) ∧
    final.sent.Pairwise fun earlier later => earlier.stamps ≤ later.stamps := by
  have genuine := genuine_path path
  have fresh := fresh_path (path.mono fun _ _ _ _ _ orderly _ => orderly.1)
  have paired := paired_path (path.mono fun _ _ _ _ _ orderly _ => orderly.2)
  refine ⟨fun report member => ?_, fresh.sorted⟩
  obtain ⟨voltage_stems, percentage_stems⟩ := genuine.sent_stem report member
  have due := fresh.sent_due report member
  have same := paired.sent_paired report member
  rcases voltage_stems with ⟨unmade, -⟩ | ⟨conversion, battery, made_eq, found, voltage_eq⟩
  · have after_boot : report.conversion + 1 ≤ report.voltage.made := due.1
    omega
  · rcases percentage_stems with ⟨unmade, -⟩ | ⟨number, other, also_made, also_found, percentage_eq⟩
    · omega
    · obtain rfl : number = conversion := by omega
      obtain rfl := Option.some.inj (found.symm.trans also_found)
      have own : report.conversion + 1 ≤ report.voltage.made := due.1
      have voltage : report.voltage = ⟨battery.voltage, number + 1⟩ := by
        rw [← voltage_eq, ← made_eq]
      have percentage : report.percentage = ⟨battery.percentage, number + 1⟩ := by
        rw [← percentage_eq, ← also_made]
      exact ⟨number, battery, by omega, found, voltage, percentage⟩

instance (reports : BatteryReports) : (pc : CallPc) → Decidable (reports.NotOvertaken pc)
  | .converted _ _ _ => inferInstanceAs (Decidable (_ ≤ _))
  | .voltageStored _ _ _ => inferInstanceAs (Decidable (_ ≤ _))
  | .returned | .publishing _ | .percentageStored _ _ | .totalStored _ => .isTrue trivial

instance (reports : BatteryReports) : (pc : CallPc) → Decidable (reports.StoresUndivided pc)
  | .converted _ _ _ => inferInstanceAs (Decidable (_ ∧ _))
  | .voltageStored _ _ _ => inferInstanceAs (Decidable (_ = _))
  | .returned | .publishing _ | .percentageStored _ _ | .totalStored _ => .isTrue trivial

instance (reports : BatteryReports) : (pc : ReportCbPc) → Decidable (reports.ReadsUndivided pc)
  | .summationWritten _ => inferInstanceAs (Decidable (∀ _, _))
  | .idle | .voltageWritten _ | .percentageWritten _ => .isTrue trivial

instance (history : List BatteryAction) (reports : BatteryReports) :
    (action : BatteryAction) → Decidable (Orderly history reports action)
  | .publishSummation _ | .publishSummationAndReport _ _ _ => .isTrue ⟨trivial, trivial⟩
  | .proceed reporter => inferInstanceAs (Decidable (reports.NotOvertaken (reports.calls reporter) ∧
      reports.StoresUndivided (reports.calls reporter)))
  | .zboss _ => inferInstanceAs (Decidable (True ∧ reports.ReadsUndivided reports.callbackPc))

/-- A conversion without failures. -/
def reading (millivolts : Int32) : AdcResults := ⟨0, 0, 0, millivolts⟩

/-- The steps of a call after its conversion. -/
def finishCall (reporter : Reporter) : List BatteryAction := List.replicate 4 (.proceed reporter)

/-- The steps of a callback that reports. -/
def runCallback : List BatteryAction := List.replicate 4 (.zboss .sent)

/-- A report of the work, then one of the sample loop at a lower voltage. -/
def reportsInTurn : List BatteryAction :=
  .publishSummationAndReport .reportWork (reading 3000) 5 :: finishCall .reportWork ++
    runCallback ++ .publishSummationAndReport .sampleLoop (reading 2600) 6 ::
      finishCall .sampleLoop ++ runCallback

theorem reports_show_own_sample_inTurn :
    ∃ final, (machine 2000 3200).run booted reportsInTurn = some final ∧
      final.sent.map (fun report => (report.voltage.value, report.percentage.value)) =
        [(30, 166), (26, 100)] ∧
      final.sent.Pairwise (fun earlier later => earlier.stamps ≤ later.stamps) := by
  have path : (machine 2000 3200).Path Orderly booted reportsInTurn _ := Machine.path_of_execute rfl
  exact ⟨_, path.run_eq, by decide, (reports_show_own_sample path).2⟩

/-- The loop stores a sample that the work has overtaken, before the report of the work. -/
def overtakenSample : List BatteryAction :=
  .publishSummationAndReport .sampleLoop (reading 3000) 5 ::
    .publishSummationAndReport .reportWork (reading 2600) 5 :: finishCall .reportWork ++
      [.proceed .sampleLoop, .proceed .sampleLoop] ++ runCallback

/-- The ZBOSS thread reads the pair while the work replaces it. -/
def dividedPair : List BatteryAction :=
  .publishSummationAndReport .sampleLoop (reading 3000) 5 :: finishCall .sampleLoop ++
    [.publishSummationAndReport .reportWork (reading 2600) 5, .proceed .reportWork] ++ runCallback

/-- Both conditions are needed: an overtaken sample shows in the report of a later conversion, and a
divided pair mixes two conversions. -/
theorem disorder_shows :
    ((machine 2000 3200).run booted overtakenSample).map (fun final =>
      final.sent.map fun report => (report.conversion, report.stamps)) = some [(1, 1, 1)] ∧
    ((machine 2000 3200).run booted dividedPair).map (fun final =>
      final.sent.map fun report => (report.conversion, report.stamps)) = some [(0, 2, 1)] := by
  constructor <;> rfl

end BatteryReports

end PowerMeter
