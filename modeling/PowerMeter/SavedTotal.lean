import PowerMeter.SampleLoop

/-!
# The saved total under store errors

The slot should lose pulses only to a deliberate erase. A boot whose load fails goes on with a zero
accumulator and an open store, so its first save overwrites the slot. The slot survives exactly the
runs in which no load fails over a total of two pulses or more.
-/

namespace PowerMeter

open Guarded

namespace SampleLoop

/-- The steps that may lower the saved total: the erase gesture, and the wipe of a partition that
does not mount. -/
def Deliberate : LoopAction → Prop
  | .eraseCheck polls _ => bootButtonHeld polls bootEraseHoldMs = true
  | .nvsStoreInit results => results.Wipes
  | _ => False

/-- The accumulator stays below `2 ^ 64`. -/
def NoWrap : Machine.Assumption SampleLoop LoopAction := fun _ loop action =>
  ∀ pulses, action = .update → loop.pc = .sampled pulses →
    loop.acc.total.toNat + loop.acc.delta pulses < 2 ^ 64

/-- In addition, no load fails while the slot holds two pulses or more. -/
def SafeLoads : Machine.Assumption SampleLoop LoopAction := fun history loop action =>
  NoWrap history loop action ∧
    ∀ errno, action = .loadTotal (some errno) → loop.savedTotal.toNat ≤ 1

/-- No step of an admitted run lowers the saved total, except the deliberate ones. -/
def SlotSurvives (config : Kconfig) (admits : Machine.Assumption SampleLoop LoopAction) : Prop :=
  ∀ (initial : SampleLoop) (history : List LoopAction) (before : SampleLoop) (action : LoopAction)
    (after : SampleLoop), initial.Off → (machine config).Path admits initial history before →
    admits history before action → (machine config).step before action = some after →
    ¬ Deliberate action → before.savedTotal.toNat ≤ after.savedTotal.toNat

theorem noWrap_of_ne_update {action : LoopAction} (other : action ≠ .update)
    {history : List LoopAction} {loop : SampleLoop} : NoWrap history loop action :=
  fun _ updates => absurd updates other

theorem noWrap_update {history : List LoopAction} {loop : SampleLoop} {pulses : UInt32}
    (pc_eq : loop.pc = .sampled pulses)
    (fits : loop.acc.total.toNat + loop.acc.delta pulses < 2 ^ 64) :
    NoWrap history loop .update := by
  rintro sampled - sampled_eq
  obtain rfl := LoopPc.sampled.inj (pc_eq.symm.trans sampled_eq)
  exact fits

/-- What a boot has established at each program point before the restore is over. -/
def Booting (loop : SampleLoop) : Prop :=
  match loop.pc with
  | .reset => loop.store.initialized = false
  | .nvsReady | .counting => loop.nvsErr = 0 ↔ loop.store.initialized = true
  | .accumulating =>
      (loop.nvsErr = 0 ↔ loop.store.initialized = true) ∧ loop.acc = .init ∧
        loop.lastSavedTotal = 0
  | .eraseChecked =>
      loop.store.initialized = true ∧ loop.acc = .init ∧ loop.lastSavedTotal = 0
  | _ => True

/-- The next save cannot lower the slot: `main` knows what the slot holds and has counted on from
there, or the slot holds at most the one pulse that any save amounts to. -/
def Covers (loop : SampleLoop) : Prop :=
  (loop.lastSavedTotal = loop.savedTotal ∧ loop.savedTotal.toNat ≤ loop.acc.total.toNat) ∨
    (loop.lastSavedTotal = 0 ∧ loop.savedTotal.toNat ≤ 1)

/-- Once the restore is over, a store that can be written is covered. -/
def Covered (loop : SampleLoop) : Prop :=
  loop.pc.isRestored = true → loop.store.initialized = true → loop.Covers

variable {config : Kconfig} {loop after : SampleLoop} {history : List LoopAction}

theorem booting_step (booting : loop.Booting) {action : LoopAction}
    (step : (machine config).step loop action = some after) : after.Booting := by
  cases action with
  | count =>
      obtain ⟨-, rfl⟩ := Machine.guard_inv step
      exact booting
  | powerCut =>
      obtain rfl := Option.some.inj step
      rfl
  | nvsStoreInit results =>
      obtain ⟨pc_eq, rfl⟩ := Machine.guard_inv step
      simp only [Booting, pc_eq] at booting
      exact NvsStore.nvsStoreInit_opens booting results
  | hwPulseCounterInit fault nrfx =>
      obtain ⟨pc_eq, ⟨threshold, rfl⟩ | rfl⟩ := hwPulseCounterInit_step step
      · simp only [Booting, pc_eq] at booting
        exact booting
      · trivial
  | pulseAccumulatorInit uptime =>
      obtain ⟨pc_eq, rfl⟩ := Machine.guard_inv step
      simp only [Booting, pc_eq] at booting
      exact ⟨booting, rfl, rfl⟩
  | eraseCheck polls fault =>
      obtain ⟨⟨pc_eq, succeeded⟩, rfl⟩ := Machine.guard_inv step
      simp only [Booting, pc_eq] at booting
      obtain ⟨opened_iff, acc_eq, saved_eq⟩ := booting
      have opened := opened_iff.mp succeeded
      rw [eraseCheck]
      split
      · exact ⟨(NvsStore.initialized_saveRecord _ _ _ _ _).trans opened, acc_eq, saved_eq⟩
      · exact ⟨opened, acc_eq, saved_eq⟩
  | loadTotal fault =>
      obtain ⟨-, rfl⟩ := Machine.guard_inv step
      simp [Booting, pc_restoreTotal]
  | skipRestore =>
      obtain ⟨-, rfl⟩ := Machine.guard_inv step
      trivial
  | armIrq armed =>
      obtain ⟨-, rfl⟩ := Machine.guard_inv step
      cases armed <;> trivial
  | read =>
      obtain ⟨-, rfl⟩ := Machine.guard_inv step
      trivial
  | update =>
      obtain ⟨pulses, -, rfl⟩ := update_step step
      trivial
  | persist now fault =>
      obtain ⟨-, rfl⟩ := Machine.guard_inv step
      rcases loop.persist_cases now fault with ⟨-, -, -, saves⟩ | ⟨-, keeps⟩
      · rw [saves]
        trivial
      · rw [keeps]
        trivial

theorem covers_restoreTotal (opened : loop.store.initialized = true)
    (saved_eq : loop.lastSavedTotal = 0) {fault : Option Errno}
    (safe : ∀ errno, fault = some errno → loop.savedTotal.toNat ≤ 1) :
    (loop.restoreTotal fault).Covers := by
  cases fault with
  | some errno =>
      rw [restoreTotal_fault opened]
      exact Or.inr ⟨saved_eq, safe errno rfl⟩
  | none =>
      rcases restoreTotal_ok opened with restored | ⟨empty, restored⟩
      · rw [restored]
        exact Or.inl ⟨rfl, le_rfl⟩
      · rw [restored]
        refine Or.inl ⟨saved_eq.trans empty.symm, ?_⟩
        change loop.savedTotal.toNat ≤ loop.acc.total.toNat
        rw [empty]
        exact Nat.zero_le _

theorem savedTotal_le_persist (covered : loop.store.initialized = true → loop.Covers) (now : ℤ)
    (fault : Option Errno) :
    loop.savedTotal.toNat ≤ (loop.persist now fault).savedTotal.toNat := by
  rcases loop.persist_cases now fault with ⟨writes, opened, -, saves⟩ | ⟨-, keeps⟩
  · rw [saves]
    change _ ≤ (NvsRecords.savedTotal _).toNat
    rw [NvsStore.savedTotal_update]
    rcases covered opened with ⟨-, saved_le⟩ | ⟨lastSaved_eq, saved_le⟩
    · exact saved_le
    · have total_ne := PersistPolicy.shouldWrite_ne writes
      rw [lastSaved_eq, ne_eq, ← UInt64.toNat_inj] at total_ne
      exact saved_le.trans (Nat.one_le_iff_ne_zero.mpr total_ne)
  · rw [keeps]
    exact le_rfl

/-- A persist step keeps the slot covered: it has saved the live total, or changed nothing. -/
theorem covers_persist (covers : loop.Covers) (now : ℤ) (fault : Option Errno) :
    (loop.persist now fault).Covers := by
  rcases loop.persist_cases now fault with ⟨-, -, -, saves⟩ | ⟨-, keeps⟩
  · rw [saves]
    have slot_eq := NvsStore.savedTotal_update loop.store.records loop.acc.total
    left
    refine ⟨slot_eq.symm, ?_⟩
    exact (congrArg UInt64.toNat slot_eq).le
  · rw [keeps]
    exact covers

theorem covered_step (booting : loop.Booting) (covered : loop.Covered) {action : LoopAction}
    (admitted : SafeLoads history loop action)
    (step : (machine config).step loop action = some after) : after.Covered := by
  obtain ⟨no_wrap, safe⟩ := admitted
  cases action with
  | count =>
      obtain ⟨-, rfl⟩ := Machine.guard_inv step
      exact covered
  | powerCut =>
      obtain rfl := Option.some.inj step
      simp [Covered, LoopPc.isRestored]
  | nvsStoreInit results =>
      obtain ⟨-, rfl⟩ := Machine.guard_inv step
      simp [Covered, LoopPc.isRestored, openStore]
  | hwPulseCounterInit fault nrfx =>
      obtain ⟨-, ⟨threshold, rfl⟩ | rfl⟩ := hwPulseCounterInit_step step
      · simp [Covered, LoopPc.isRestored]
      · simp [Covered, LoopPc.isRestored]
  | pulseAccumulatorInit uptime =>
      obtain ⟨-, rfl⟩ := Machine.guard_inv step
      simp [Covered, LoopPc.isRestored]
  | eraseCheck polls fault =>
      obtain ⟨-, rfl⟩ := Machine.guard_inv step
      rw [eraseCheck]
      split <;> simp [Covered, LoopPc.isRestored]
  | loadTotal fault =>
      obtain ⟨pc_eq, rfl⟩ := Machine.guard_inv step
      simp only [Booting, pc_eq] at booting
      obtain ⟨opened, -, saved_eq⟩ := booting
      intro _ _
      apply covers_restoreTotal opened saved_eq
      intro errno failed
      exact safe errno (by rw [failed])
  | skipRestore =>
      obtain ⟨⟨pc_eq, failed⟩, rfl⟩ := Machine.guard_inv step
      simp only [Booting, pc_eq] at booting
      intro _ opened
      exact absurd (booting.1.mpr opened) failed
  | armIrq armed =>
      obtain ⟨pc_eq, rfl⟩ := Machine.guard_inv step
      intro _
      apply covered
      rw [pc_eq]
      rfl
  | read =>
      obtain ⟨pc_eq, rfl⟩ := Machine.guard_inv step
      intro _
      apply covered
      rw [pc_eq]
      rfl
  | update =>
      obtain ⟨pulses, pc_eq, rfl⟩ := update_step step
      intro _ opened
      have total_eq := PulseAccumulator.toNat_total_update_of_fits (no_wrap pulses rfl pc_eq)
      rcases covered (by rw [pc_eq]; rfl) opened with ⟨lastSaved_eq, saved_le⟩ | started
      · refine Or.inl ⟨lastSaved_eq, saved_le.trans ?_⟩
        exact (Nat.le_add_right _ _).trans total_eq.ge
      · exact Or.inr started
  | persist now fault =>
      obtain ⟨pc_eq, rfl⟩ := Machine.guard_inv step
      intro _ opened
      rw [initialized_persist] at opened
      exact covers_persist (covered (by rw [pc_eq]; rfl) opened) now fault

/-- No step but a deliberate one lowers a covered slot. -/
theorem savedTotal_le_step (covered : loop.Covered) {action : LoopAction}
    (step : (machine config).step loop action = some after) (accidental : ¬ Deliberate action) :
    loop.savedTotal.toNat ≤ after.savedTotal.toNat := by
  cases action with
  | count | pulseAccumulatorInit | skipRestore | armIrq | read =>
      obtain ⟨-, rfl⟩ := Machine.guard_inv step
      exact le_rfl
  | powerCut =>
      obtain rfl := Option.some.inj step
      exact le_rfl
  | nvsStoreInit results =>
      obtain ⟨-, rfl⟩ := Machine.guard_inv step
      have kept := @NvsStore.nvsStoreInit_records loop.store results accidental
      rw [savedTotal, savedTotal, openStore, kept]
  | hwPulseCounterInit fault nrfx =>
      obtain ⟨-, ⟨threshold, rfl⟩ | rfl⟩ := hwPulseCounterInit_step step
      · exact le_rfl
      · exact le_rfl
  | eraseCheck polls fault =>
      obtain ⟨-, rfl⟩ := Machine.guard_inv step
      rw [eraseCheck_released (Bool.not_eq_true _ ▸ accidental)]
      exact le_rfl
  | loadTotal fault =>
      obtain ⟨-, rfl⟩ := Machine.guard_inv step
      simp only [restoreTotal]
      split <;> exact le_rfl
  | update =>
      obtain ⟨pulses, -, rfl⟩ := update_step step
      exact le_rfl
  | persist now fault =>
      obtain ⟨pc_eq, rfl⟩ := Machine.guard_inv step
      exact savedTotal_le_persist (covered (by rw [pc_eq]; rfl)) now fault

/-- A boot reaches the load with an open store and an empty accumulator. -/
theorem booting_path {admits : Machine.Assumption SampleLoop LoopAction} {initial : SampleLoop}
    (off : initial.Off) (path : (machine config).Path admits initial history loop) :
    loop.Booting := by
  have start : initial.Booting := by simp [Booting, off.pc_eq, off.closed]
  exact path.invariant (fun _ loop => loop.Booting) start
    fun _ _ _ _ booting _ step => booting_step booting step

theorem covered_path {initial : SampleLoop} (off : initial.Off)
    (path : (machine config).Path SafeLoads initial history loop) : loop.Covered := by
  have start : initial.Booting ∧ initial.Covered := by
    simp [Booting, Covered, off.pc_eq, off.closed, LoopPc.isRestored]
  refine (path.invariant (fun _ loop => loop.Booting ∧ loop.Covered) start ?_).2
  intro _ _ _ _ ⟨booting, covered⟩ admitted step
  exact ⟨booting_step booting step, covered_step booting covered admitted step⟩

/-- The slot survives every run whose loads are safe. -/
theorem slotSurvives_of_safeLoads (config : Kconfig) : SlotSurvives config SafeLoads := by
  intro initial history before action after off path _ step accidental
  exact savedTotal_le_step (covered_path off path) step accidental

/-- The later steps of the run that overwrites the slot after a failed load. -/
def overwriting (loop : SampleLoop) : List LoopAction :=
  .armIrq true :: List.replicate (1 - loop.hw.timer2).toNat .count ++
    [.read, .update, .persist (loop.lastSavedMs + persistIntervalMs.toNat) none]

/-- The first save after a failed load overwrites the slot, at the latest when the persist interval
has passed. -/
theorem savedTotal_persist_of_interval (opened : loop.store.initialized = true)
    (changed : loop.acc.total ≠ loop.lastSavedTotal) :
    (loop.persist (loop.lastSavedMs + persistIntervalMs.toNat) none).savedTotal =
      loop.acc.total := by
  have elapsed : persistPolicy.intervalMs ≤
      UInt64.ofInt (loop.lastSavedMs + persistIntervalMs.toNat - loop.lastSavedMs) := by
    rw [add_sub_cancel_left]
    decide
  rcases loop.persist_cases (loop.lastSavedMs + persistIntervalMs.toNat) none with
    ⟨-, -, -, saves⟩ | ⟨refused, -⟩
  · rw [saves]
    exact NvsStore.savedTotal_update _ _
  · have writes := PersistPolicy.shouldWrite_of_interval changed elapsed
    rw [refused opened rfl] at writes
    exact absurd writes (by decide)

/-- After a failed load over two pulses or more, count events that leave TIMER2 at one and one
iteration overwrite the slot with a total of one. -/
theorem overwriting_path {initial : SampleLoop} (off : initial.Off)
    (path : (machine config).Path NoWrap initial history loop) (pc_eq : loop.pc = .eraseChecked)
    (errno : Errno) :
    ∃ final, (machine config).Path NoWrap initial
        (history ++ .loadTotal (some errno) :: loop.overwriting) final ∧ final.savedTotal = 1 := by
  have booting := booting_path off path
  simp only [Booting, pc_eq] at booting
  obtain ⟨opened, acc_eq, saved_eq⟩ := booting
  have timer2_eq : loop.hw.timer2 + UInt32.ofNat (1 - loop.hw.timer2).toNat = 1 := by
    rw [UInt32.ofNat_toNat, UInt32.add_comm, UInt32.sub_add_cancel]
  have total_eq : (loop.acc.update 1).total = 1 := by
    rw [acc_eq]
    rfl
  have loaded := path.append_run (by simp [restoreActions, NoWrap])
    (run_restoreActions pc_eq (some errno))
  rw [restoreTotal_fault opened] at loaded
  have counted := path_counts loaded rfl (1 - loop.hw.timer2).toNat
    fun _ _ _ => noWrap_of_ne_update (by simp)
  have reading : LoopAction.read ≠ .update := LoopAction.noConfusion
  have sampled := counted.snoc (noWrap_of_ne_update reading) rfl
  rw [afterCounts, timer2_eq] at sampled
  have fits : loop.acc.total.toNat + loop.acc.delta 1 < 2 ^ 64 := by
    rw [acc_eq]
    decide
  have updated := sampled.snoc (noWrap_update rfl fits) rfl
  have late : LoopAction.persist (loop.lastSavedMs + persistIntervalMs.toNat) none ≠ .update :=
    LoopAction.noConfusion
  have persisted := updated.snoc (noWrap_of_ne_update late) rfl
  refine ⟨_, by simpa [overwriting, restoreActions] using persisted, ?_⟩
  have changed : (loop.acc.update 1).total ≠ loop.lastSavedTotal := by
    rw [total_eq, saved_eq]
    decide
  exact (@savedTotal_persist_of_interval
    { loop with
      pc := .updated
      hw := { loop.hw with timer2 := 1 }
      acc := loop.acc.update 1 } opened changed).trans total_eq

theorem accidental_overwriting (loop : SampleLoop) :
    ∀ action ∈ loop.overwriting, ¬ Deliberate action := by
  intro action member
  simp only [overwriting, List.mem_append, List.mem_cons, List.mem_replicate] at member
  rcases member with (rfl | ⟨-, rfl⟩) | rfl | rfl | rfl | absurd_member
  all_goals first | exact id | simp at absurd_member

/-- Where the slot survives every step, it survives every stretch of a run without deliberate
steps. -/
theorem SlotSurvives.le_of_path {admits : Machine.Assumption SampleLoop LoopAction}
    (survives : SlotSurvives config admits) {initial : SampleLoop} (off : initial.Off)
    (path : (machine config).Path admits initial history loop) {later : List LoopAction}
    (longer : (machine config).Path admits initial (history ++ later) after)
    (accidental : ∀ action ∈ later, ¬ Deliberate action) :
    loop.savedTotal.toNat ≤ after.savedTotal.toNat := by
  induction later using List.reverseRecOn generalizing after with
  | nil =>
      have same := path.run_eq.symm.trans (List.append_nil history ▸ longer).run_eq
      rw [Option.some.inj same]
  | append_singleton later action induction =>
      rw [← List.append_assoc] at longer
      obtain ⟨before, shorter, admitted, step⟩ := longer.snoc_inv
      have earlier := induction shorter fun action member =>
        accidental action (List.mem_append_left _ member)
      exact earlier.trans (survives _ _ _ _ _ off shorter admitted step
        (accidental action (by simp)))

/-- The slot survives every run whose loads are safe, and a load that fails over two pulses or more
can always be followed by count events and one iteration that lower it, with no deliberate step. -/
theorem saved_total_survives {initial : SampleLoop} (off : initial.Off) :
    (∀ history before action after, (machine config).Path SafeLoads initial history before →
      SafeLoads history before action → (machine config).step before action = some after →
      ¬ Deliberate action → before.savedTotal.toNat ≤ after.savedTotal.toNat) ∧
    (∀ history before errno, (machine config).Path NoWrap initial history before →
      before.pc = .eraseChecked → 1 < before.savedTotal.toNat →
      ∃ after, (machine config).Path NoWrap initial
          (history ++ .loadTotal (some errno) :: before.overwriting) after ∧
        (∀ action ∈ before.overwriting, ¬ Deliberate action) ∧
        after.savedTotal.toNat < before.savedTotal.toNat) := by
  constructor
  · intro history before action after path admitted step accidental
    exact slotSurvives_of_safeLoads config initial history before action after off path admitted
      step accidental
  · intro history before errno path pc_eq many
    obtain ⟨after, longer, saved_eq⟩ := overwriting_path off path pc_eq errno
    refine ⟨after, longer, accidental_overwriting before, ?_⟩
    rw [saved_eq]
    exact many

/-- Records that hold a total. -/
def recordsHolding (total : UInt64) : NvsRecords :=
  Function.update blankRecords nvsIdAccumulatorTotal (some (LittleEndian.encode 8 total.toNat))

/-- A boot over 500 pulses, one more pulse, and the save of the first iteration. -/
theorem saved_total_survives_savedPulse :
    ∃ before after, (machine .default).step before (.persist 0 none) = some after ∧
      before.savedTotal = 500 ∧ after.savedTotal = 501 ∧
      before.savedTotal.toNat ≤ after.savedTotal.toNat := by
  have start : (machine .default).Path SafeLoads (off (recordsHolding 500)) []
    (off (recordsHolding 500)) := .nil
  have booted := start.append_run (by simp [bootActions, restoreActions, SafeLoads, NoWrap])
    (run_boot (off_isOff _) none)
  have counted := path_counts booted rfl 1 fun _ _ _ => by simp [SafeLoads, NoWrap]
  have admitted : ∀ action ∈ [LoopAction.read], ∀ earlier before,
      SafeLoads earlier before action := by
    simp [SafeLoads, NoWrap]
  have sampled := counted.append_run admitted rfl
  have fits : (501 : ℕ) < 2 ^ 64 := by decide
  have updated := sampled.snoc
    ⟨noWrap_update rfl fits, fun _ loads => LoopAction.noConfusion loads⟩ rfl
  have survives := (saved_total_survives (off_isOff (recordsHolding 500))).1 _ _
    (.persist 0 none) _ updated (by simp [SafeLoads, NoWrap]) rfl id
  exact ⟨_, _, rfl, rfl, rfl, survives⟩

/-- A failed load over 500 pulses, one pulse and one iteration leave a saved total of one. -/
theorem failed_load_overwrites :
    (∃ before after,
      (machine .default).run (off (recordsHolding 500)) bootActions = some before ∧
      before.savedTotal = 500 ∧
      (machine .default).run before
        (restoreActions (some .eio) ++ [.count, .read, .update, .persist 0 none]) = some after ∧
      after.savedTotal = 1) ∧
    ¬ SlotSurvives .default NoWrap := by
  constructor
  · refine ⟨_, _, run_bootActions (off_isOff _), rfl, rfl, rfl⟩
  · intro survives
    have start : (machine .default).Path NoWrap (off (recordsHolding 500)) []
      (off (recordsHolding 500)) := .nil
    have booted := start.append_run (by simp [bootActions, NoWrap]) (run_bootActions (off_isOff _))
    obtain ⟨after, longer, saved_eq⟩ := overwriting_path (off_isOff _) booted rfl .eio
    have kept := survives.le_of_path (off_isOff _) booted longer
      (List.forall_mem_cons.mpr ⟨id, accidental_overwriting _⟩)
    rw [saved_eq] at kept
    exact absurd kept (by decide)

end SampleLoop

end PowerMeter
