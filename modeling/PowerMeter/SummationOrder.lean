import PowerMeter.SummationPublish

/-!
# The order of published totals

A decreasing `CurrentSummationDelivered` looks like a meter reset. The sample loop alone never
writes one, but the report work can store a total that has been overtaken while it sampled the
battery. The written values never decrease exactly as long as no report stores a total below what
the attribute already carries.
-/

namespace PowerMeter

open Guarded

namespace SummationPublish

/-- The accumulator never goes back. -/
def Grows : Machine.Assumption SummationPublish PublishStep := fun _ publish action =>
  match action with
  | .loop pulses =>
      publish.loopPc = .asleep → publish.acc.total ≤ (publish.acc.update pulses).total
  | _ => True

instance (history : List PublishStep) (publish : SummationPublish) (action : PublishStep) :
    Decidable (Grows history publish action) :=
  match action with
  | .loop _ => inferInstanceAs (Decidable (_ → _))
  | .report | .zboss => .isTrue trivial

/-- If a report is about to store a total, the attribute does not already carry a larger one. -/
def NotOvertaken (publish : SummationPublish) : Prop :=
  ∀ total ∈ totalToStore publish.reportPc, ∀ value ∈ publish.summation,
    value ≤ meteringScaleToU48 total

instance (publish : SummationPublish) : Decidable publish.NotOvertaken :=
  @Option.decidableForallMem _ _ (fun _ => Option.decidableForallMem publish.summation) _

/-- In addition, no report stores a total that has been overtaken. -/
def FreshReports : Machine.Assumption SummationPublish PublishStep := fun history publish action =>
  Grows history publish action ∧ (action = .report → publish.NotOvertaken)

instance (history : List PublishStep) (publish : SummationPublish) (action : PublishStep) :
    Decidable (FreshReports history publish action) :=
  inferInstanceAs (Decidable (_ ∧ _))

/-- The values written to the attribute never go back. -/
def NeverDecreases (publish : SummationPublish) : Prop := publish.written.Pairwise (· ≤ ·)

instance (publish : SummationPublish) : Decidable publish.NeverDecreases :=
  inferInstanceAs (Decidable (List.Pairwise _ _))

/-- The total that a running report has taken but not stored. -/
def totalInHand : ReportPc → Option UInt64
  | .sampling total | .storing total => some total
  | .idle | .stored => none

/-- The writes are in order, and no total on its way is ahead of the accumulator. -/
structure Behind (publish : SummationPublish) : Prop where
  ordered : publish.mirror.Ordered
  pending_le : publish.pendingSummationTotal ≤ publish.acc.total
  inHand_le : ∀ total, totalInHand publish.reportPc = some total → total ≤ publish.acc.total

variable {acc : PulseAccumulator} {publish after final : SummationPublish} {action : PublishStep}
  {history : List PublishStep}

theorem behind_booted (acc : PulseAccumulator) : (booted acc).Behind where
  ordered := ⟨.nil, by simp [mirror, booted]⟩
  pending_le := UInt64.le_iff_toNat_le.mpr (Nat.zero_le _)
  inHand_le := by simp [booted, totalInHand]

/-- What the attribute carries never exceeds the live total. -/
theorem Behind.summation_le (behind : publish.Behind) {value : MeteringU48}
    (carries : publish.summation = some value) : value ≤ meteringScaleToU48 publish.acc.total :=
  (behind.ordered.le_shadow value (List.mem_of_getLast? carries)).trans
    (meteringScaleToU48_mono behind.pending_le)

theorem total_le_loopStep {pulses : UInt32} (grows : Grows history publish (.loop pulses)) :
    publish.acc.total ≤ (publish.loopStep pulses).acc.total := by
  cases pc_eq : publish.loopPc with
  | asleep =>
      simp only [loopStep, pc_eq]
      exact grows pc_eq
  | updated =>
      simp only [loopStep, decidePublish, pc_eq]
      split <;> exact UInt64.le_refl _
  | booted | firstStored | arming | sampling | storing | stored =>
      simp only [loopStep, pc_eq]
      exact UInt64.le_refl _

/-- The loop stores the live total or leaves the shadow alone. -/
theorem pending_loopStep (publish : SummationPublish) (pulses : UInt32) :
    (publish.loopStep pulses).pendingSummationTotal = publish.pendingSummationTotal ∨
      ((publish.loopStep pulses).pendingSummationTotal = publish.acc.total ∧
        (publish.loopStep pulses).acc = publish.acc) := by
  cases pc_eq : publish.loopPc with
  | booted | storing => simp [loopStep, storeTotal, pc_eq]
  | updated =>
      simp only [loopStep, decidePublish, pc_eq]
      split <;> exact Or.inl rfl
  | firstStored | arming | asleep | sampling | stored =>
      simp [loopStep, scheduleAppCallback, pc_eq]

theorem reportPc_loopStep (publish : SummationPublish) (pulses : UInt32) :
    (publish.loopStep pulses).reportPc = publish.reportPc := by
  cases pc_eq : publish.loopPc with
  | updated =>
      simp only [loopStep, decidePublish, pc_eq]
      split <;> rfl
  | booted | firstStored | arming | asleep | sampling | storing | stored =>
      simp [loopStep, storeTotal, scheduleAppCallback, pc_eq]

/-- A fresh step keeps the mirror ordered: the loop stores the live total, and a report stores none
that has been overtaken. -/
theorem ordered_step (behind : publish.Behind) (admitted : FreshReports history publish action)
    (step : machine.step publish action = some after) : after.mirror.Ordered := by
  rw [mirror_step step]
  apply Mirror.ordered_reactOpt behind.ordered
  intro value store last carries
  cases action with
  | loop pulses =>
      rw [moveOf_loop_store store]
      exact behind.summation_le carries
  | report =>
      obtain ⟨total, storing, rfl⟩ := moveOf_report_store store
      exact admitted.2 rfl total storing last carries
  | zboss => simp [moveOf] at store

theorem behind_loop (behind : publish.Behind) {pulses : UInt32}
    (grows : Grows history publish (.loop pulses))
    (ordered : (publish.loopStep pulses).mirror.Ordered) : (publish.loopStep pulses).Behind where
  ordered := ordered
  pending_le := by
    have grown := total_le_loopStep grows
    rcases publish.pending_loopStep pulses with kept | ⟨stored, acc_eq⟩
    · rw [kept]
      exact UInt64.le_trans behind.pending_le grown
    · rw [stored, acc_eq]
      exact UInt64.le_refl _
  inHand_le := by
    intro total inHand
    rw [reportPc_loopStep] at inHand
    exact UInt64.le_trans (behind.inHand_le total inHand) (total_le_loopStep grows)

theorem behind_report (behind : publish.Behind) (step : publish.reportStep = some after)
    (ordered : after.mirror.Ordered) : after.Behind := by
  have inHand_le := behind.inHand_le
  rcases reportStep_cases step with ⟨pc_eq, -, rfl⟩ | ⟨total, pc_eq, rfl⟩ | ⟨total, pc_eq, rfl⟩ |
    ⟨pc_eq, rfl⟩
  · refine ⟨ordered, behind.pending_le, ?_⟩
    intro total inHand
    obtain rfl := Option.some.inj inHand
    exact UInt64.le_refl _
  · rw [pc_eq] at inHand_le
    exact ⟨ordered, behind.pending_le, inHand_le⟩
  · rw [pc_eq] at inHand_le
    exact ⟨ordered, inHand_le total rfl, by simp [totalInHand]⟩
  · exact ⟨ordered, behind.pending_le, by simp [totalInHand]⟩

theorem behind_step (behind : publish.Behind) (admitted : FreshReports history publish action)
    (step : machine.step publish action = some after) : after.Behind := by
  have ordered := ordered_step behind admitted step
  cases action with
  | loop pulses =>
      obtain rfl := Option.some.inj step
      exact behind_loop behind admitted.1 ordered
  | report => exact behind_report behind step ordered
  | zboss =>
      obtain ⟨callback, callbacks, -, rfl⟩ := zbossStep_inv step
      exact ⟨ordered, behind.pending_le, behind.inHand_le⟩

theorem behind_path (path : machine.Path FreshReports (booted acc) history final) : final.Behind :=
  path.invariant (fun _ publish => publish.Behind) (behind_booted acc)
    fun _ _ _ _ behind admitted step => behind_step behind admitted step

/-- Once a stale total is stored and its callback scheduled, draining the queue writes it. -/
theorem stale_write {total : UInt64} {value : MeteringU48}
    (carries : publish.summation = some value) (stale : ¬ value ≤ meteringScaleToU48 total) :
    ¬ (publish.afterReport total).drained.NeverDecreases := by
  intro ordered
  have pairs := (List.pairwise_append.mp ordered).2.2
  apply stale
  exact pairs value (List.mem_of_getLast? carries) _ (by simp [afterReport])

/-- As long as no report stores an overtaken total, the writes never go back, and any store of an
overtaken total can be followed by a decreasing write. -/
theorem summation_never_decreases (acc : PulseAccumulator) :
    (∀ history final, machine.Path FreshReports (booted acc) history final →
      final.NeverDecreases) ∧
    (∀ history before, machine.Path Grows (booted acc) history before →
      ¬ before.NotOvertaken →
      ∃ later final, machine.Path Grows (booted acc) (history ++ .report :: later) final ∧
        ¬ final.NeverDecreases) := by
  constructor
  · intro history final path
    exact (behind_path path).ordered.sorted
  · intro history before path overtaken
    simp only [NotOvertaken, not_forall] at overtaken
    obtain ⟨total, storing, value, carries, stale⟩ := overtaken
    have stored := path.append_run (by simp [Grows]) (run_report storing)
    have drained := stored.append_run (by simp [Grows]) (run_zboss _)
    rw [List.append_assoc] at drained
    exact ⟨_, _, drained, stale_write carries stale⟩

/-- A report that runs before the sixth pulse writes five twice, then the loop writes six. -/
theorem summation_never_decreases_inTurn :
    ∃ final, machine.Path FreshReports (booted ⟨5, 0⟩) reportInTurn final ∧
      final.written.map (·.value) = [5, 5, 6] ∧ final.NeverDecreases := by
  have path : machine.Path FreshReports (booted ⟨5, 0⟩) reportInTurn _ :=
    Machine.path_of_execute rfl
  exact ⟨_, path, by decide, (summation_never_decreases ⟨5, 0⟩).1 _ _ path⟩

/-- An overtaken report writes five after six. -/
theorem overtaken_report_decreases :
    (machine.run (booted ⟨5, 0⟩) reportOvertaken).map (fun final => final.written.map (·.value)) =
        some [5, 6, 5] ∧
      ¬ ∀ acc history final, machine.Path Grows (booted acc) history final →
        final.NeverDecreases := by
  constructor
  · decide
  · intro ordered
    have path : machine.Path Grows (booted ⟨5, 0⟩) reportOvertaken _ :=
      Machine.path_of_execute rfl
    exact absurd (ordered _ _ _ path) (by decide)

end SummationPublish

end PowerMeter
