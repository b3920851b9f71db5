import PowerMeter.SummationPublish

/-!
# The freshness of the published total

At rest the attribute should show the live total. The mirror guarantees that it shows the shadow;
the shadow is the live total unless a report has stored an older one after the last store of the
sample loop, which never publishes a total twice.
-/

namespace PowerMeter

open Guarded

namespace SummationPublish

/-- No callback is queued, no report is running, and the sample loop sleeps. -/
structure Quiescent (publish : SummationPublish) : Prop where
  callbacks_eq : publish.callbacks = []
  reportPc_eq : publish.reportPc = .idle
  loopPc_eq : publish.loopPc = .asleep

/-- The attribute shows the last published total, which is the live one. -/
structure UpToDate (publish : SummationPublish) : Prop where
  summation_eq : publish.summation = some (meteringScaleToU48 publish.lastPublishedTotal)
  published_eq : publish.lastPublishedTotal = publish.acc.total

/-- The sample loop will store the live total before it sleeps again. -/
def owesStore (publish : SummationPublish) : Bool :=
  match publish.loopPc with
  | .booted | .sampling | .storing _ => true
  | .updated => publish.acc.total ≠ publish.lastPublishedTotal
  | .firstStored | .arming | .asleep | .stored _ => false

/-- If a report is about to store a total, the loop still owes a store, or the total shows as the
live one. -/
def ReportsLive (publish : SummationPublish) : Prop :=
  ∀ total ∈ totalToStore publish.reportPc,
    publish.owesStore = true ∨ meteringScaleToU48 total = meteringScaleToU48 publish.acc.total

instance (publish : SummationPublish) : Decidable publish.ReportsLive :=
  Option.decidableForallMem (totalToStore publish.reportPc)

/-- No report stores an old total after the last store of the sample loop. -/
def LiveReports : Machine.Assumption SummationPublish PublishStep := fun _ publish action =>
  action = .report → publish.ReportsLive

instance (history : List PublishStep) (publish : SummationPublish) (action : PublishStep) :
    Decidable (LiveReports history publish action) :=
  inferInstanceAs (Decidable (_ → _))

/-- The sample loop is in its first publish or about to schedule the report work. -/
def booting : PublishPc → Bool
  | .booted | .firstStored | .arming => true
  | .asleep | .updated | .sampling | .storing _ | .stored _ => false

/-- Before and after a publish step the last published total is the live one, and reports run only
after the first publish. -/
structure Paced (publish : SummationPublish) : Prop where
  published_eq : booting publish.loopPc = true ∨ publish.loopPc = .asleep →
    publish.lastPublishedTotal = publish.acc.total
  reports_later : booting publish.loopPc = true →
    publish.reportPc = .idle ∧ publish.reportScheduled = false

/-- The attribute follows the shadow, and the shadow shows the live total unless the loop owes a
store. -/
structure Fresh (publish : SummationPublish) : Prop where
  current : publish.loopPc = .booted ∨ publish.mirror.Current
  paid : publish.owesStore = true ∨
    meteringScaleToU48 publish.pendingSummationTotal = meteringScaleToU48 publish.acc.total

variable {acc : PulseAccumulator} {publish after final : SummationPublish} {action : PublishStep}
  {history : List PublishStep}

theorem paced_booted (acc : PulseAccumulator) : (booted acc).Paced where
  published_eq _ := rfl
  reports_later _ := ⟨rfl, rfl⟩

theorem fresh_booted (acc : PulseAccumulator) : (booted acc).Fresh where
  current := Or.inl rfl
  paid := Or.inl rfl

theorem paced_loop (paced : publish.Paced) (pulses : UInt32) :
    (publish.loopStep pulses).Paced := by
  obtain ⟨published_eq, reports_later⟩ := paced
  cases pc_eq : publish.loopPc with
  | updated =>
      simp only [loopStep, decidePublish, pc_eq]
      split
      next => constructor <;> cases publish.pulseHeartbeat.advance.1 <;> simp [booting]
      next unchanged => exact ⟨fun _ => (not_not.mp unchanged).symm, by simp [booting]⟩
  | booted | firstStored | arming | asleep | sampling | storing | stored =>
      constructor <;> simp_all [loopStep, storeTotal, scheduleAppCallback, booting]

/-- A report step touches nothing of the sample loop; it may store the total in hand. -/
theorem reportStep_keeps (step : publish.reportStep = some after) :
    after.loopPc = publish.loopPc ∧ after.acc = publish.acc ∧
      after.lastPublishedTotal = publish.lastPublishedTotal ∧
      (after.pendingSummationTotal = publish.pendingSummationTotal ∨
        after.pendingSummationTotal ∈ totalToStore publish.reportPc) := by
  rcases reportStep_cases step with ⟨-, -, rfl⟩ | ⟨total, -, rfl⟩ | ⟨total, pc_eq, rfl⟩ | ⟨-, rfl⟩
  · exact ⟨rfl, rfl, rfl, Or.inl rfl⟩
  · exact ⟨rfl, rfl, rfl, Or.inl rfl⟩
  · rw [pc_eq]
    exact ⟨rfl, rfl, rfl, Or.inr rfl⟩
  · exact ⟨rfl, rfl, rfl, Or.inl rfl⟩

theorem paced_report (paced : publish.Paced) (step : publish.reportStep = some after) :
    after.Paced := by
  obtain ⟨loopPc_eq, acc_eq, published_kept, -⟩ := reportStep_keeps step
  constructor
  · rw [loopPc_eq, acc_eq, published_kept]
    exact paced.published_eq
  · intro early
    rw [loopPc_eq] at early
    obtain ⟨idle, unscheduled⟩ := paced.reports_later early
    simp [reportStep, idle, unscheduled] at step

theorem paced_step (paced : publish.Paced) (step : machine.step publish action = some after) :
    after.Paced := by
  cases action with
  | loop pulses =>
      obtain rfl := Option.some.inj step
      exact paced_loop paced pulses
  | report => exact paced_report paced step
  | zboss =>
      obtain ⟨callback, callbacks, -, rfl⟩ := zbossStep_inv step
      exact ⟨paced.published_eq, paced.reports_later⟩

theorem paced_path {admits : Machine.Assumption SummationPublish PublishStep}
    (path : machine.Path admits (booted acc) history final) : final.Paced :=
  path.invariant (fun _ publish => publish.Paced) (paced_booted acc)
    fun _ _ _ _ paced _ step => paced_step paced step

/-- The first store makes the mirror current, and every move keeps it so. -/
theorem current_step (current : publish.loopPc = .booted ∨ publish.mirror.Current)
    (step : machine.step publish action = some after) :
    after.loopPc = .booted ∨ after.mirror.Current := by
  rcases current with pc_eq | current
  · cases action with
    | loop pulses =>
        have move_eq : publish.moveOf (.loop pulses) =
            some (.store (meteringScaleToU48 publish.acc.total)) := by simp [moveOf, pc_eq]
        right
        rw [mirror_step step, move_eq]
        exact Mirror.current_react publish.mirror (.store _)
    | report => exact Or.inl ((reportStep_keeps step).1.trans pc_eq)
    | zboss =>
        right
        rw [mirror_step step]
        exact Mirror.current_react publish.mirror .deliver
  · right
    rw [mirror_step step]
    exact Mirror.current_reactOpt current _

/-- The loop owes a store from the moment its total changes until it stores it. -/
theorem paid_loop (paced : publish.Paced) (fresh : publish.Fresh) (pulses : UInt32) :
    (publish.loopStep pulses).owesStore = true ∨
      meteringScaleToU48 (publish.loopStep pulses).pendingSummationTotal =
        meteringScaleToU48 (publish.loopStep pulses).acc.total := by
  have paid := fresh.paid
  cases pc_eq : publish.loopPc with
  | booted | storing =>
      right
      simp [loopStep, storeTotal, pc_eq]
  | sampling =>
      left
      simp [loopStep, owesStore, pc_eq]
  | firstStored | arming | stored =>
      simpa [loopStep, owesStore, pc_eq, scheduleAppCallback] using paid
  | asleep =>
      have published_eq := paced.published_eq (Or.inr pc_eq)
      simp only [loopStep, pc_eq]
      by_cases same : (publish.acc.update pulses).total = publish.lastPublishedTotal
      · right
        have shown : meteringScaleToU48 publish.pendingSummationTotal =
            meteringScaleToU48 publish.acc.total := by simpa [owesStore, pc_eq] using paid
        rw [shown, same, published_eq]
      · left
        simp [owesStore, same]
  | updated =>
      simp only [loopStep, decidePublish, pc_eq]
      split
      next =>
        left
        cases due : publish.pulseHeartbeat.advance.1 <;> simp [owesStore]
      next unchanged =>
        right
        simpa [owesStore, pc_eq, not_not.mp unchanged] using paid

/-- A live report stores what shows as the live total, unless the loop will store again. -/
theorem paid_report (fresh : publish.Fresh) (live : publish.ReportsLive)
    (step : publish.reportStep = some after) :
    after.owesStore = true ∨
      meteringScaleToU48 after.pendingSummationTotal = meteringScaleToU48 after.acc.total := by
  obtain ⟨loopPc_eq, acc_eq, published_eq, pending⟩ := reportStep_keeps step
  have owes_eq : after.owesStore = publish.owesStore := by
    simp only [owesStore, loopPc_eq, acc_eq, published_eq]
  rw [owes_eq, acc_eq]
  rcases pending with pending_eq | stored
  · rw [pending_eq]
    exact fresh.paid
  · exact live _ stored

theorem fresh_step (paced : publish.Paced) (fresh : publish.Fresh)
    (admitted : LiveReports history publish action)
    (step : machine.step publish action = some after) : after.Fresh := by
  have current := current_step fresh.current step
  cases action with
  | loop pulses =>
      obtain rfl := Option.some.inj step
      exact ⟨current, paid_loop paced fresh pulses⟩
  | report => exact ⟨current, paid_report fresh (admitted rfl) step⟩
  | zboss =>
      obtain ⟨callback, callbacks, -, rfl⟩ := zbossStep_inv step
      exact ⟨current, fresh.paid⟩

theorem fresh_path (path : machine.Path LiveReports (booted acc) history final) :
    final.Fresh := by
  refine (path.invariant (fun _ publish => publish.Paced ∧ publish.Fresh)
    ⟨paced_booted acc, fresh_booted acc⟩ ?_).2
  intro _ _ _ _ ⟨paced, fresh⟩ admitted step
  exact ⟨paced_step paced step, fresh_step paced fresh admitted step⟩

theorem upToDate_of_quiescent (paced : publish.Paced) (fresh : publish.Fresh)
    (quiescent : publish.Quiescent) : publish.UpToDate := by
  obtain ⟨callbacks_eq, reportPc_eq, loopPc_eq⟩ := quiescent
  have published_eq := paced.published_eq (Or.inr loopPc_eq)
  have current : publish.mirror.Current := by simpa [loopPc_eq] using fresh.current
  have shown : publish.summation = some (meteringScaleToU48 publish.pendingSummationTotal) :=
    current (by simp [mirror, loopPc_eq, reportPc_eq, loopUnannounced, reportUnannounced])
      (by simp [mirror, callbacks_eq])
  have live : meteringScaleToU48 publish.pendingSummationTotal =
      meteringScaleToU48 publish.acc.total := by simpa [owesStore, loopPc_eq] using fresh.paid
  refine ⟨?_, published_eq⟩
  rw [shown, live, published_eq]

/-- A loop that owes no store can go to sleep without touching the shadow. -/
theorem loop_sleeps (paced : publish.Paced) (past_boot : booting publish.loopPc = false)
    (paid : publish.owesStore = false) :
    ∃ steps asleep, machine.run publish steps = some asleep ∧ asleep.loopPc = .asleep ∧
      asleep.lastPublishedTotal = publish.acc.total ∧ asleep.reportPc = publish.reportPc ∧
      asleep.pendingSummationTotal = publish.pendingSummationTotal ∧
      publish.callbacks.length ≤ asleep.callbacks.length := by
  cases pc_eq : publish.loopPc with
  | booted | firstStored | arming => simp [pc_eq, booting] at past_boot
  | sampling | storing => simp [pc_eq, owesStore] at paid
  | asleep =>
      exact ⟨[], publish, rfl, pc_eq, paced.published_eq (Or.inr pc_eq), rfl, rfl, le_rfl⟩
  | updated =>
      have unchanged : publish.acc.total = publish.lastPublishedTotal := by
        simpa [pc_eq, owesStore] using paid
      refine ⟨[.loop 0], { publish with loopPc := .asleep }, ?_, rfl, unchanged.symm, rfl, rfl,
        le_rfl⟩
      simp [Machine.run_cons, machine, loopStep, decidePublish, pc_eq, unchanged]
  | stored callback =>
      refine ⟨[.loop 0], { publish.scheduleAppCallback callback with
        lastPublishedTotal := publish.acc.total
        loopPc := .asleep }, ?_, rfl, rfl, rfl, rfl, ?_⟩
      · simp [Machine.run_cons, machine, loopStep, pc_eq]
      · simp [scheduleAppCallback]

/-- Draining a nonempty queue leaves the shadow in the attribute. -/
theorem summation_drained (queued : 0 < publish.callbacks.length) :
    publish.drained.summation = some (meteringScaleToU48 publish.pendingSummationTotal) := by
  obtain ⟨earlier, length_eq⟩ := Nat.exists_eq_add_one.mpr queued
  simp [drained, summation, length_eq, List.replicate_succ', ← List.append_assoc]

/-- After an old total is stored behind the last store of the loop, everything can come to rest on
it. -/
theorem rests_on_old_total {total : UInt64} (paced : publish.Paced)
    (storing : total ∈ totalToStore publish.reportPc) (paid : publish.owesStore = false)
    (old : meteringScaleToU48 total ≠ meteringScaleToU48 publish.acc.total) :
    ∃ later final, machine.run publish (.report :: later) = some final ∧ final.Quiescent ∧
      ¬ final.UpToDate := by
  have past_boot : booting publish.loopPc = false := by
    by_contra early
    have idle := (paced.reports_later (Bool.not_eq_false _ ▸ early)).1
    simp [idle, totalToStore] at storing
  have stored := run_report storing
  have paced_after : (publish.afterReport total).Paced := ⟨paced.published_eq, fun early => by
    rw [afterReport, past_boot] at early
    exact absurd early (by decide)⟩
  obtain ⟨steps, asleep, ran, loopPc_eq, published_eq, reportPc_eq, pending_eq, queued⟩ :=
    loop_sleeps paced_after past_boot paid
  have whole : machine.run publish
      ([.report, .report] ++ (steps ++ List.replicate asleep.callbacks.length .zboss)) =
        some asleep.drained := by
    rw [Machine.run_append, stored, Option.bind_some, Machine.run_append, ran, Option.bind_some,
      run_zboss]
  refine ⟨_, _, whole, ⟨rfl, reportPc_eq, loopPc_eq⟩, ?_⟩
  intro upToDate
  have length_pos : 0 < asleep.callbacks.length :=
    Nat.lt_of_lt_of_le (by simp [afterReport]) queued
  have shown := upToDate.summation_eq
  change asleep.drained.summation = some (meteringScaleToU48 asleep.lastPublishedTotal) at shown
  rw [summation_drained length_pos, pending_eq, published_eq] at shown
  exact old (Option.some.inj shown)

/-- As long as no report stores an old total after the last store of the sample loop, the attribute
is up to date whenever everything rests; any such store can come to rest on an old value. -/
theorem summation_settles (acc : PulseAccumulator) :
    (∀ history final, machine.Path LiveReports (booted acc) history final → final.Quiescent →
      final.UpToDate) ∧
    (∀ history before, machine.Path .any (booted acc) history before → ¬ before.ReportsLive →
      ∃ later final, machine.Path .any (booted acc) (history ++ .report :: later) final ∧
        final.Quiescent ∧ ¬ final.UpToDate) := by
  constructor
  · intro history final path quiescent
    exact upToDate_of_quiescent (paced_path path) (fresh_path path) quiescent
  · intro history before path late
    simp only [ReportsLive, not_forall, not_or] at late
    obtain ⟨total, storing, paid, old⟩ := late
    obtain ⟨later, final, ran, quiescent, outdated⟩ :=
      rests_on_old_total (paced_path path) storing (Bool.not_eq_true _ ▸ paid) old
    exact ⟨later, final, path.append_run (fun _ _ _ _ => trivial) ran, quiescent, outdated⟩

/-- A report that runs before the sixth pulse leaves six in the attribute. -/
theorem summation_settles_inTurn :
    ∃ final, machine.Path LiveReports (booted ⟨5, 0⟩) reportInTurn final ∧ final.Quiescent ∧
      final.acc.total = 6 ∧ final.UpToDate := by
  have path : machine.Path LiveReports (booted ⟨5, 0⟩) reportInTurn _ :=
    Machine.path_of_execute rfl
  exact ⟨_, path, ⟨rfl, rfl, rfl⟩, rfl, (summation_settles ⟨5, 0⟩).1 _ _ path ⟨rfl, rfl, rfl⟩⟩

/-- After an overtaken report everything rests with five in the attribute and six counted. -/
theorem overtaken_report_stays :
    ∃ final, machine.run (booted ⟨5, 0⟩) reportOvertaken = some final ∧ final.Quiescent ∧
      final.summation.map (·.value) = some 5 ∧ final.lastPublishedTotal = 6 ∧
      ¬ ∀ acc history final, machine.Path .any (booted acc) history final → final.Quiescent →
        final.UpToDate := by
  have path : machine.Path .any (booted ⟨5, 0⟩) reportOvertaken _ := Machine.path_of_execute rfl
  refine ⟨_, path.run_eq, ⟨rfl, rfl, rfl⟩, rfl, rfl, ?_⟩
  intro settles
  have shown := (settles _ _ _ path ⟨rfl, rfl, rfl⟩).summation_eq
  exact absurd shown (by decide)

end SummationPublish

end PowerMeter
