import PowerMeter.Foundations.WriteBehind
import PowerMeter.SampleLoop

/-!
# Pulse conservation across power cycles

In a run without store errors and without the erase gesture, the device is a write-behind counter
of its count events: the slot is the durable copy, the accumulator the tally, and TIMER2 holds what
waits. The bounds of the write-behind counter therefore hold at every crash point.
-/

namespace PowerMeter

open Guarded

namespace LoopAction

/-- The action is a count event. -/
def isCount : LoopAction → Bool
  | .count => true
  | _ => false

/-- Count events on TIMER2 that no snapshot has seen yet, after one more action. -/
def unreadAfter (unread : ℕ) : LoopAction → ℕ
  | .count => unread + 1
  | .hwPulseCounterInit _ _ => 0
  | .read => 0
  | _ => unread

/-- The count events that have ever happened. -/
def counted (history : List LoopAction) : ℕ := history.countP isCount

/-- The count events since TIMER2 was last cleared or read. -/
def unread (history : List LoopAction) : ℕ := history.foldl unreadAfter 0

theorem counted_concat (history : List LoopAction) (action : LoopAction) :
    counted (history ++ [action]) = counted history + if action.isCount then 1 else 0 := by
  rw [counted, List.countP_append, List.countP_singleton]
  rfl

theorem unread_concat (history : List LoopAction) (action : LoopAction) :
    unread (history ++ [action]) = action.unreadAfter (unread history) := by
  simp [unread, unreadAfter]

theorem unread_replicate (history : List LoopAction) (extra : ℕ) :
    unread (history ++ List.replicate extra .count) = unread history + extra := by
  induction extra with
  | zero => simp
  | succ extra induction =>
      rw [List.replicate_succ', ← List.append_assoc, unread_concat, induction]
      rfl

end LoopAction

open LoopAction

namespace SampleLoop

/-- Fewer than `2 ^ 32` count events fall between snapshots, every store call succeeds, and nobody
holds the button at boot. -/
def Undisturbed : Machine.Assumption SampleLoop LoopAction := fun history _ action =>
  match action with
  | .count => unread history + 1 < 2 ^ 32
  | .nvsStoreInit results => results.Mounts
  | .eraseCheck polls _ => bootButtonHeld polls bootEraseHoldMs = false
  | .loadTotal fault => fault = none
  | .persist _ fault => fault = none
  | _ => True

/-- After the restore step of a boot, saved total, live total and count events are in order. -/
def NeverOvercounts (history : List LoopAction) (loop : SampleLoop) : Prop :=
  loop.pc.isRestored = true →
    loop.savedTotal ≤ loop.acc.total ∧ loop.acc.total.toNat ≤ counted history

/-- At the end of an iteration the live total is less than the pulse delta past the saved one. -/
def LagBounded (history : List LoopAction) (loop : SampleLoop) : Prop :=
  ∀ earlier now fault, history = earlier ++ [.persist now fault] →
    loop.acc.total.toNat < loop.savedTotal.toNat + persistMaxPulseDelta.toNat

/-- The accumulator and the pulses it has not seen agree with the write-behind counter. -/
structure Tracks (hw : HwPulseCounter) (acc : PulseAccumulator) (counter : WriteBehind) : Prop where
  timer2_eq : hw.timer2 = acc.lastHw + UInt32.ofNat counter.waiting
  total_eq : acc.total.toNat = counter.tally

/-- The store is open and `main` knows it. -/
def Opened (loop : SampleLoop) : Prop := loop.nvsErr = 0 ∧ loop.store.initialized = true

/-- What each program point adds. Until the restore, the accumulator to come is the saved total on
a cleared counter; between a snapshot and its update, the accumulator is one update behind. -/
def Phase (loop : SampleLoop) (counter : WriteBehind) : Prop :=
  match loop.pc with
  | .reset => loop.store.initialized = false
  | .nvsReady => loop.Opened
  | .counting => loop.Opened ∧ Tracks loop.hw (.restore .init loop.savedTotal) counter
  | .accumulating | .eraseChecked =>
      loop.Opened ∧ Tracks loop.hw (.restore .init loop.savedTotal) counter ∧
        loop.acc = .init ∧ loop.lastSavedTotal = 0
  | .restored | .asleep | .updated =>
      loop.Opened ∧ Tracks loop.hw loop.acc counter ∧ loop.lastSavedTotal = loop.savedTotal
  | .sampled pulses =>
      loop.Opened ∧ Tracks loop.hw (loop.acc.update pulses) counter ∧
        loop.lastSavedTotal = loop.savedTotal ∧ loop.savedTotal ≤ loop.acc.total ∧
        loop.acc.total.toNat ≤ counter.tally
  | .hwFailed => True
  | .armFailed => Tracks loop.hw loop.acc counter

/-- The device implements a write-behind counter. -/
structure Implements (history : List LoopAction) (loop : SampleLoop) (counter : WriteBehind) :
    Prop where
  events_eq : counter.events = counted history
  waiting_eq : counter.waiting = unread history
  waiting_lt : counter.waiting < 2 ^ 32
  durable_eq : counter.durable = loop.savedTotal.toNat
  phase : loop.Phase counter

variable {config : Kconfig} {history : List LoopAction} {loop after : SampleLoop}
  {hw : HwPulseCounter} {acc : PulseAccumulator} {counter : WriteBehind}

theorem implements_off (off : loop.Off)
    (blank : loop.store.records nvsIdAccumulatorTotal = none) :
    loop.Implements [] .zero where
  events_eq := rfl
  waiting_eq := rfl
  waiting_lt := by decide
  durable_eq := by
    simp [savedTotal, NvsRecords.savedTotal, NvsRecords.stored, blank, WriteBehind.zero]
  phase := by simp [Phase, off.pc_eq, off.closed]

theorem Tracks.count (tracks : Tracks hw acc counter) :
    Tracks (hw.trigger .timer2Count) acc (counter.react .happen) where
  timer2_eq := by
    change hw.timer2 + 1 = acc.lastHw + UInt32.ofNat (counter.waiting + 1)
    rw [tracks.timer2_eq, UInt32.ofNat_add, UInt32.add_assoc]
    rfl
  total_eq := tracks.total_eq

/-- An update with the current snapshot collects exactly what waits. -/
theorem Tracks.update (tracks : Tracks hw acc counter) (waiting_lt : counter.waiting < 2 ^ 32)
    (bounded : counter.events < 2 ^ 64) :
    Tracks hw (acc.update hw.hwPulseCounterRead) (counter.react .collect) where
  timer2_eq := by simp [WriteBehind.react, HwPulseCounter.hwPulseCounterRead]
  total_eq := by
    have delta_eq : acc.delta hw.hwPulseCounterRead = counter.waiting := by
      rw [HwPulseCounter.hwPulseCounterRead, tracks.timer2_eq, PulseAccumulator.delta_advance,
        Nat.mod_eq_of_lt waiting_lt]
    have fits : acc.total.toNat + acc.delta hw.hwPulseCounterRead < 2 ^ 64 := by
      rw [delta_eq, tracks.total_eq]
      exact counter.tally_add_waiting_lt bounded
    rw [PulseAccumulator.toNat_total_update_of_fits fits, delta_eq, tracks.total_eq]
    rfl

/-- An action that is no count event and takes no snapshot leaves both ghost counts alone. -/
private theorem implements_of_silent (implements : loop.Implements history counter)
    {action : LoopAction} (silent : action.isCount = false)
    (unread_eq : ∀ unread, action.unreadAfter unread = unread)
    (saved_eq : after.savedTotal = loop.savedTotal) (phase : after.Phase counter) :
    after.Implements (history ++ [action]) counter where
  events_eq := by rw [implements.events_eq, counted_concat, silent]; rfl
  waiting_eq := by rw [implements.waiting_eq, unread_concat, unread_eq]
  waiting_lt := implements.waiting_lt
  durable_eq := by rw [implements.durable_eq, saved_eq]
  phase := phase

private theorem implements_count (implements : loop.Implements history counter)
    (counts : loop.pc.counts = true) (few : unread history + 1 < 2 ^ 32) :
    Implements (history ++ [.count]) { loop with hw := loop.hw.trigger .timer2Count }
      (counter.react .happen) where
  events_eq := by
    rw [counted_concat, ← implements.events_eq]
    rfl
  waiting_eq := by
    rw [unread_concat, ← implements.waiting_eq]
    rfl
  waiting_lt := by
    rw [← implements.waiting_eq] at few
    exact few
  durable_eq := implements.durable_eq
  phase := by
    have phase := implements.phase
    cases pc_eq : loop.pc with
    | reset | nvsReady | hwFailed => simp [pc_eq, LoopPc.counts] at counts
    | counting =>
        simp only [Phase, pc_eq] at phase ⊢
        exact ⟨phase.1, phase.2.count⟩
    | accumulating | eraseChecked | restored | asleep | updated | sampled =>
        simp only [Phase, pc_eq] at phase ⊢
        exact ⟨phase.1, phase.2.1.count, phase.2.2⟩
    | armFailed =>
        simp only [Phase, pc_eq] at phase ⊢
        exact phase.count

/-- Starting the hardware counter loses what waits; the slot is all that is left. -/
private theorem implements_hwPulseCounterInit (implements : loop.Implements history counter)
    {fault : Option Errno} {nrfx : NrfxCall → NrfxErr}
    (saved_eq : after.savedTotal = loop.savedTotal) (phase : after.Phase (counter.react .crash)) :
    after.Implements (history ++ [.hwPulseCounterInit fault nrfx]) (counter.react .crash) where
  events_eq := by
    rw [counted_concat, ← implements.events_eq]
    rfl
  waiting_eq := by
    rw [unread_concat]
    rfl
  waiting_lt := Nat.two_pow_pos 32
  durable_eq := by
    rw [saved_eq, ← implements.durable_eq]
    rfl
  phase := phase

private theorem tracks_started (implements : loop.Implements history counter) (threshold : UInt32) :
    Tracks (.started threshold) (.restore .init loop.savedTotal) (counter.react .crash) where
  timer2_eq := rfl
  total_eq := implements.durable_eq.symm

/-- A snapshot collects what waits; the accumulator follows with its next update. -/
private theorem implements_read (implements : loop.Implements history counter)
    (pc_eq : loop.pc = .asleep) (bounded : counter.events < 2 ^ 64) :
    Implements (history ++ [.read]) { loop with pc := .sampled loop.hw.hwPulseCounterRead }
      (counter.react .collect) where
  events_eq := by
    rw [counted_concat, ← implements.events_eq]
    rfl
  waiting_eq := by
    rw [unread_concat]
    rfl
  waiting_lt := Nat.two_pow_pos 32
  durable_eq := implements.durable_eq
  phase := by
    have phase := implements.phase
    simp only [Phase, pc_eq] at phase
    obtain ⟨opened, tracks, saved_eq⟩ := phase
    refine ⟨opened, tracks.update implements.waiting_lt bounded, saved_eq, ?_, ?_⟩
    · rw [UInt64.le_iff_toNat_le, tracks.total_eq]
      exact implements.durable_eq ▸ counter.durable_le
    · rw [tracks.total_eq]
      exact Nat.le_add_right _ _

/-- A persist step either saves the tally or leaves the counter alone. -/
private theorem implements_persist (implements : loop.Implements history counter)
    (pc_eq : loop.pc = .updated) (now : ℤ) (fault : Option Errno) :
    ∃ move, Implements (history ++ [.persist now fault]) (loop.persist now fault)
      (counter.reactOpt move) := by
  have phase := implements.phase
  simp only [Phase, pc_eq] at phase
  obtain ⟨opened, tracks, saved_eq⟩ := phase
  rcases loop.persist_cases now fault with ⟨-, -, -, saves⟩ | ⟨-, keeps⟩
  · rw [saves]
    have slot_eq := NvsStore.savedTotal_update loop.store.records loop.acc.total
    refine ⟨some .save, ?_, ?_, implements.waiting_lt, ?_, ?_⟩
    · rw [counted_concat]
      exact implements.events_eq
    · rw [unread_concat]
      exact implements.waiting_eq
    · rw [savedTotal, slot_eq, tracks.total_eq]
      rfl
    · exact ⟨opened, ⟨tracks.timer2_eq, tracks.total_eq⟩, slot_eq.symm⟩
  · rw [keeps]
    exact ⟨none, implements_of_silent implements rfl (fun _ => rfl) rfl ⟨opened, tracks, saved_eq⟩⟩

theorem implements_step (implements : loop.Implements history counter) {action : LoopAction}
    (admitted : Undisturbed history loop action)
    (step : (machine config).step loop action = some after)
    (bounded : counted (history ++ [action]) < 2 ^ 64) :
    ∃ move, after.Implements (history ++ [action]) (counter.reactOpt move) := by
  have phase := implements.phase
  cases action with
  | count =>
      obtain ⟨counts, rfl⟩ := Machine.guard_inv step
      exact ⟨some .happen, implements_count implements counts admitted⟩
  | powerCut =>
      obtain rfl := Option.some.inj step
      exact ⟨none, implements_of_silent implements rfl (fun _ => rfl) rfl rfl⟩
  | nvsStoreInit results =>
      obtain ⟨pc_eq, rfl⟩ := Machine.guard_inv step
      simp only [Phase, pc_eq] at phase
      rw [openStore, NvsStore.nvsStoreInit_mounts phase admitted]
      exact ⟨none, implements_of_silent implements rfl (fun _ => rfl) rfl ⟨rfl, rfl⟩⟩
  | hwPulseCounterInit fault nrfx =>
      obtain ⟨pc_eq, ⟨threshold, rfl⟩ | rfl⟩ := hwPulseCounterInit_step step
      · simp only [Phase, pc_eq] at phase
        exact ⟨some .crash, implements_hwPulseCounterInit implements rfl
          ⟨phase, tracks_started implements threshold⟩⟩
      · exact ⟨some .crash, implements_hwPulseCounterInit implements rfl trivial⟩
  | pulseAccumulatorInit uptime =>
      obtain ⟨pc_eq, rfl⟩ := Machine.guard_inv step
      simp only [Phase, pc_eq] at phase
      exact ⟨none, implements_of_silent implements rfl (fun _ => rfl) rfl
        ⟨phase.1, phase.2, rfl, rfl⟩⟩
  | eraseCheck polls fault =>
      obtain ⟨⟨pc_eq, -⟩, rfl⟩ := Machine.guard_inv step
      simp only [Phase, pc_eq] at phase
      rw [eraseCheck_released admitted]
      exact ⟨none, implements_of_silent implements rfl (fun _ => rfl) rfl phase⟩
  | loadTotal fault =>
      obtain ⟨pc_eq, rfl⟩ := Machine.guard_inv step
      obtain rfl : fault = none := admitted
      simp only [Phase, pc_eq] at phase
      obtain ⟨opened, tracks, acc_eq, saved_eq⟩ := phase
      rcases restoreTotal_ok opened.2 with restored | ⟨empty, restored⟩
      · rw [restored]
        exact ⟨none, implements_of_silent implements rfl (fun _ => rfl) rfl ⟨opened, tracks, rfl⟩⟩
      · rw [restored]
        rw [empty] at tracks
        refine ⟨none, implements_of_silent implements rfl (fun _ => rfl) rfl ⟨opened, ?_, ?_⟩⟩
        · change Tracks loop.hw loop.acc counter
          rwa [acc_eq]
        · exact saved_eq.trans empty.symm
  | skipRestore =>
      obtain ⟨⟨pc_eq, failed⟩, rfl⟩ := Machine.guard_inv step
      simp only [Phase, pc_eq] at phase
      exact absurd phase.1.1 failed
  | armIrq armed =>
      obtain ⟨pc_eq, rfl⟩ := Machine.guard_inv step
      simp only [Phase, pc_eq] at phase
      refine ⟨none, implements_of_silent implements rfl (fun _ => rfl) rfl ?_⟩
      cases armed with
      | true => exact phase
      | false => exact phase.2.1
  | read =>
      obtain ⟨pc_eq, rfl⟩ := Machine.guard_inv step
      rw [counted_concat, ← implements.events_eq] at bounded
      exact ⟨some .collect, implements_read implements pc_eq bounded⟩
  | update =>
      obtain ⟨pulses, pc_eq, rfl⟩ := update_step step
      simp only [Phase, pc_eq] at phase
      obtain ⟨opened, tracks, saved_eq, -, -⟩ := phase
      exact ⟨none, implements_of_silent implements rfl (fun _ => rfl) rfl
        ⟨opened, tracks, saved_eq⟩⟩
  | persist now fault =>
      obtain ⟨pc_eq, rfl⟩ := Machine.guard_inv step
      exact implements_persist implements pc_eq now fault

variable {initial final : SampleLoop}

/-- An undisturbed run from a blank slot implements a write-behind counter throughout. -/
theorem implements_path (off : initial.Off)
    (blank : initial.store.records nvsIdAccumulatorTotal = none)
    (path : (machine config).Path Undisturbed initial history final)
    (bounded : counted history < 2 ^ 64) : ∃ counter, final.Implements history counter := by
  revert bounded
  refine path.invariant
    (fun history loop => counted history < 2 ^ 64 → ∃ counter, loop.Implements history counter)
    (fun _ => ⟨_, implements_off off blank⟩) ?_
  intro history before action after implemented admitted step bounded
  have before_bounded : counted history < 2 ^ 64 := by
    rw [counted_concat] at bounded
    exact Nat.lt_of_add_right_lt bounded
  obtain ⟨counter, implements⟩ := implemented before_bounded
  obtain ⟨move, implements⟩ := implements_step implements admitted step bounded
  exact ⟨_, implements⟩

/-- The bounds of the write-behind counter, read off the device. -/
theorem neverOvercounts_of_implements (implements : loop.Implements history counter) :
    loop.NeverOvercounts history := by
  intro restored
  have saved_le : loop.savedTotal.toNat ≤ counter.tally :=
    implements.durable_eq ▸ counter.durable_le
  have tally_le : counter.tally ≤ counted history :=
    implements.events_eq ▸ counter.tally_le_events
  have of_tracks : Tracks loop.hw loop.acc counter →
      loop.savedTotal ≤ loop.acc.total ∧ loop.acc.total.toNat ≤ counted history := by
    intro tracks
    rw [UInt64.le_iff_toNat_le, tracks.total_eq]
    exact ⟨saved_le, tally_le⟩
  have phase := implements.phase
  cases pc_eq : loop.pc with
  | reset | nvsReady | counting | accumulating | eraseChecked | hwFailed =>
      simp [pc_eq, LoopPc.isRestored] at restored
  | restored | asleep | updated =>
      simp only [Phase, pc_eq] at phase
      exact of_tracks phase.2.1
  | armFailed =>
      simp only [Phase, pc_eq] at phase
      exact of_tracks phase
  | sampled pulses =>
      simp only [Phase, pc_eq] at phase
      obtain ⟨-, -, -, saved_le_total, total_le⟩ := phase
      exact ⟨saved_le_total, total_le.trans tally_le⟩

/-- An iteration that does not save has not fallen behind by the pulse delta. -/
theorem lagBounded_of_implements (implements : loop.Implements history counter)
    (pc_eq : loop.pc = .updated) (now : ℤ) :
    (loop.persist now none).acc.total.toNat <
      (loop.persist now none).savedTotal.toNat + persistMaxPulseDelta.toNat := by
  have phase := implements.phase
  simp only [Phase, pc_eq] at phase
  obtain ⟨opened, tracks, saved_eq⟩ := phase
  rcases loop.persist_cases now none with ⟨-, -, -, saves⟩ | ⟨refused, keeps⟩
  · rw [saves, savedTotal, NvsStore.savedTotal_update]
    apply Nat.lt_add_of_pos_right
    decide
  · rw [keeps]
    have saved_le : loop.lastSavedTotal.toNat ≤ loop.acc.total.toNat := by
      rw [saved_eq, tracks.total_eq]
      exact implements.durable_eq ▸ counter.durable_le
    have close := PersistPolicy.sub_lt_of_not_shouldWrite (by decide) saved_le
      (refused opened.2 rfl)
    change loop.acc.total.toNat < loop.savedTotal.toNat + persistPolicy.maxPulseDelta.toNat
    rw [← saved_eq]
    omega

/-- In every undisturbed run from a blank slot with fewer than `2 ^ 64` count events, no pulse is
counted twice whatever the crash points, and every iteration ends close to what is saved. -/
theorem conserves_pulses (off : initial.Off)
    (blank : initial.store.records nvsIdAccumulatorTotal = none)
    (path : (machine config).Path Undisturbed initial history final)
    (bounded : counted history < 2 ^ 64) :
    final.NeverOvercounts history ∧ final.LagBounded history := by
  constructor
  · obtain ⟨counter, implements⟩ := implements_path off blank path bounded
    exact neverOvercounts_of_implements implements
  · rintro earlier now fault rfl
    obtain ⟨before, shorter, admitted, step⟩ := path.snoc_inv
    obtain rfl : fault = none := admitted
    obtain ⟨pc_eq, rfl⟩ := Machine.guard_inv step
    rw [counted_concat] at bounded
    obtain ⟨counter, implements⟩ :=
      implements_path off blank shorter (Nat.lt_of_add_right_lt bounded)
    exact lagBounded_of_implements implements pc_eq now

/-- Count events can follow as long as there are few since the last snapshot. -/
theorem path_counts_undisturbed (path : (machine config).Path Undisturbed initial history loop)
    (counts : loop.pc.counts = true) (extra : ℕ) (few : unread history + extra < 2 ^ 32) :
    (machine config).Path Undisturbed initial (history ++ List.replicate extra .count)
      (loop.afterCounts extra) := by
  apply path_counts path counts
  intro earlier below before
  change unread _ + 1 < 2 ^ 32
  rw [unread_replicate]
  omega

/-- A first boot that meets no failure. -/
def firstBoot : List LoopAction := bootActions ++ restoreActions none

theorem undisturbed_firstBoot : ∀ action ∈ firstBoot, ∀ earlier before,
    Undisturbed earlier before action := by
  simp [firstBoot, bootActions, restoreActions, Undisturbed, bootButtonHeld_untouched,
    NvsStore.MountResults.Mounts, NvsStore.MountResults.success]

/-- Three events, an iteration that saves them, one more event, a power cut and a second boot. -/
def interruptedRun : List LoopAction :=
  firstBoot ++ List.replicate 3 .count ++ [.read, .update, .persist 0 none] ++
    List.replicate 1 .count ++ [.powerCut] ++ firstBoot

/-- The event the power cut hides is lost, and no saved one is counted again. -/
theorem conserves_pulses_interrupted :
    ∃ final, (machine .default).run (off blankRecords) interruptedRun = some final ∧
      final.pc.isRestored = true ∧ final.acc.total = 3 ∧ counted interruptedRun = 4 ∧
      final.NeverOvercounts interruptedRun ∧ final.LagBounded interruptedRun := by
  have start : (machine .default).Path Undisturbed (off blankRecords) [] (off blankRecords) := .nil
  have booted := start.append_run undisturbed_firstBoot (run_boot (off_isOff _) none)
  have counted := path_counts_undisturbed booted rfl 3 (by decide)
  have saved := counted.append_run (by simp [Undisturbed]) (run_iteration rfl 0 none)
  have unseen := path_counts_undisturbed saved rfl 1 (by decide)
  have admitted : ∀ action ∈ [LoopAction.powerCut], ∀ earlier before,
      Undisturbed earlier before action := by
    simp [Undisturbed]
  have cut := unseen.append_run admitted rfl
  have rebooted := cut.append_run undisturbed_firstBoot (run_boot ⟨rfl, rfl⟩ none)
  exact ⟨_, rebooted.run_eq, rfl, rfl, rfl,
    conserves_pulses (off_isOff _) rfl rebooted (by decide)⟩

/-- Asleep, with every count event in the saved total. -/
structure Settled (loop : SampleLoop) (total : ℕ) : Prop where
  pc_eq : loop.pc = .asleep
  opened : loop.store.initialized = true
  read_all : loop.hw.timer2 = loop.acc.lastHw
  total_eq : loop.acc.total.toNat = total
  lastSaved_eq : loop.lastSavedTotal = loop.acc.total
  saved_eq : loop.savedTotal = loop.acc.total

/-- An iteration that finds at least the pulse delta of new events saves all of them. -/
theorem settled_iteration {total extra : ℕ} (settled : loop.Settled total)
    (large : persistMaxPulseDelta.toNat ≤ extra) (extra_lt : extra < 2 ^ 32)
    (fits : total + extra < 2 ^ 64) :
    Settled ((loop.afterCounts extra).afterUpdate.persist 0 none) (total + extra) := by
  have delta_eq : loop.acc.delta (loop.hw.timer2 + UInt32.ofNat extra) = extra := by
    rw [settled.read_all, PulseAccumulator.delta_advance, Nat.mod_eq_of_lt extra_lt]
  have total_eq : (loop.afterCounts extra).afterUpdate.acc.total.toNat = total + extra := by
    have updated := @PulseAccumulator.toNat_total_update_of_fits loop.acc
      (loop.hw.timer2 + UInt32.ofNat extra)
    rw [delta_eq, settled.total_eq] at updated
    exact updated fits
  have far : (loop.afterCounts extra).afterUpdate.lastSavedTotal.toNat +
      persistPolicy.maxPulseDelta.toNat ≤
        (loop.afterCounts extra).afterUpdate.acc.total.toNat := by
    change loop.lastSavedTotal.toNat + _ ≤ _
    rw [settled.lastSaved_eq, settled.total_eq, total_eq]
    apply Nat.add_le_add_left
    exact large
  rcases (loop.afterCounts extra).afterUpdate.persist_cases 0 none with
    ⟨-, -, -, saves⟩ | ⟨refused, -⟩
  · rw [saves]
    exact ⟨rfl, settled.opened, rfl, total_eq, rfl, NvsStore.savedTotal_update _ _⟩
  · have keeps := refused settled.opened rfl
    rw [PersistPolicy.shouldWrite_of_delta (by decide) far] at keeps
    exact absurd keeps (by decide)

/-- Iterations of one size can follow the first boot up to the 64-bit limit. -/
theorem settled_iterations (config : Kconfig) {extra : ℕ}
    (large : persistMaxPulseDelta.toNat ≤ extra) (extra_lt : extra < 2 ^ 32) (iterations : ℕ)
    (fits : iterations * extra < 2 ^ 64) :
    ∃ history loop, (machine config).Path Undisturbed (off blankRecords) history loop ∧
      unread history = 0 ∧ loop.Settled (iterations * extra) := by
  induction iterations with
  | zero =>
      have start : (machine config).Path Undisturbed (off blankRecords) [] (off blankRecords) :=
        .nil
      have booted := start.append_run undisturbed_firstBoot (run_boot (off_isOff _) none)
      refine ⟨_, _, booted, rfl, rfl, rfl, rfl, ?_, rfl, rfl⟩
      rw [Nat.zero_mul]
      rfl
  | succ iterations induction =>
      rw [Nat.succ_mul] at fits ⊢
      obtain ⟨history, loop, path, read_all, settled⟩ :=
        induction (Nat.lt_of_add_right_lt fits)
      have counts : loop.pc.counts = true := by rw [settled.pc_eq]; rfl
      have few : unread history + extra < 2 ^ 32 := by omega
      have counting := path_counts_undisturbed path counts extra few
      have iterated := counting.append_run (by simp [Undisturbed])
        (@run_iteration config (loop.afterCounts extra) settled.pc_eq 0 none)
      refine ⟨_, _, iterated, ?_, settled_iteration settled large extra_lt fits⟩
      simp [unread, unreadAfter]

/-- Without a bound on the events the 64-bit total wraps below what is saved: one event after
`2 ^ 64 - 1` saved ones. -/
theorem total_wraps_below_saved :
    ¬ ∀ (config : Kconfig) (initial final : SampleLoop) (history : List LoopAction), initial.Off →
        initial.store.records nvsIdAccumulatorTotal = none →
        (machine config).Path Undisturbed initial history final →
        final.NeverOvercounts history ∧ final.LagBounded history := by
  intro conserves
  have large : persistMaxPulseDelta.toNat ≤ 2 ^ 32 - 1 := by decide
  obtain ⟨history, loop, path, read_all, settled⟩ :=
    @settled_iterations .default (2 ^ 32 - 1) large (by omega) (2 ^ 32 + 1) (by omega)
  have counts : loop.pc.counts = true := by rw [settled.pc_eq]; rfl
  have few : unread history + 1 < 2 ^ 32 := by omega
  have counting := path_counts_undisturbed path counts 1 few
  have updated := counting.append_run (by simp [Undisturbed])
    (@run_update .default (loop.afterCounts 1) settled.pc_eq)
  have bounds := (conserves _ _ _ _ (off_isOff blankRecords) rfl updated).1 rfl
  have delta_eq : loop.acc.delta (loop.hw.timer2 + UInt32.ofNat 1) = 1 := by
    rw [settled.read_all, PulseAccumulator.delta_advance, Nat.mod_eq_of_lt (by omega)]
  have total_eq := PulseAccumulator.toNat_total_update loop.acc (loop.hw.timer2 + UInt32.ofNat 1)
  rw [delta_eq, settled.total_eq] at total_eq
  have saved_le : loop.savedTotal.toNat ≤
      (loop.acc.update (loop.hw.timer2 + UInt32.ofNat 1)).total.toNat :=
    UInt64.le_iff_toNat_le.mp bounds.1
  rw [settled.saved_eq, settled.total_eq, total_eq] at saved_le
  omega

end SampleLoop

end PowerMeter
