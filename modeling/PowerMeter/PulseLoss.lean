import PowerMeter.PulseConservation

/-!
# What a power cut costs

A power cut loses the pulses that are not in the store yet: fewer than the pulse delta when an
iteration ends, those of the snapshot the next iteration has taken, and those on TIMER2. Between
power cuts nothing is lost.
-/

namespace PowerMeter

open Guarded

namespace LoopAction

/-- The action is a power cut. -/
def isPowerCut : LoopAction → Bool
  | .powerCut => true
  | _ => false

/-- The power cuts of a run. -/
def powerCuts (history : List LoopAction) : ℕ := history.countP isPowerCut

theorem powerCuts_concat (history : List LoopAction) (action : LoopAction) :
    powerCuts (history ++ [action]) = powerCuts history + if action.isPowerCut then 1 else 0 := by
  rw [powerCuts, List.countP_append, List.countP_singleton]
  rfl

end LoopAction

open LoopAction

namespace SampleLoop

/-- An undisturbed run in which at most `pace` count events fall between snapshots. -/
def UndisturbedAt (pace : ℕ) : Machine.Assumption SampleLoop LoopAction :=
  fun history loop action =>
    Undisturbed history loop action ∧ (action = .count → unread history + 1 ≤ pace)

/-- The total the device has in hand: the live one with a snapshot that has been taken, and before
the restore step the saved one. -/
def heldTotal (loop : SampleLoop) : ℕ :=
  match loop.pc with
  | .reset | .nvsReady | .hwFailed | .counting | .accumulating | .eraseChecked =>
      loop.savedTotal.toNat
  | .sampled pulses => (loop.acc.update pulses).total.toNat
  | .restored | .asleep | .updated | .armFailed => loop.acc.total.toNat

/-- The count events on TIMER2, if it counts. -/
def onTimer2 (history : List LoopAction) (loop : SampleLoop) : ℕ :=
  if loop.pc.counts then unread history else 0

/-- How far the total in hand may be ahead of the saved one. -/
def lead (pace : ℕ) : LoopPc → ℕ
  | .asleep => persistMaxPulseDelta.toNat - 1
  | .sampled _ | .updated => persistMaxPulseDelta.toNat - 1 + pace
  | .reset | .nvsReady | .hwFailed | .counting | .accumulating | .eraseChecked | .restored
  | .armFailed => 0

/-- The most one power cut can lose. -/
def lossPerCut (pace : ℕ) : ℕ := persistMaxPulseDelta.toNat - 1 + 2 * pace

/-- The count events that are neither in hand nor on TIMER2 were lost in power cuts. -/
structure Accounted (pace : ℕ) (history : List LoopAction) (loop : SampleLoop) : Prop where
  unread_le : unread history ≤ pace
  held_le : loop.heldTotal ≤ loop.savedTotal.toNat + lead pace loop.pc
  counted_le : counted history ≤
    loop.heldTotal + loop.onTimer2 history + powerCuts history * lossPerCut pace

variable {config : Kconfig} {pace : ℕ} {history : List LoopAction}
  {loop after initial final : SampleLoop} {counter : WriteBehind}

theorem lead_le (pace : ℕ) (pc : LoopPc) :
    lead pace pc ≤ persistMaxPulseDelta.toNat - 1 + pace := by
  cases pc <;> simp [lead]

theorem accounted_off (off : loop.Off) : loop.Accounted pace [] where
  unread_le := Nat.zero_le _
  held_le := by simp [heldTotal, off.pc_eq]
  counted_le := Nat.zero_le _

/-- A power cut loses what is in hand but not saved, and what is on TIMER2. -/
private theorem accounted_powerCut (accounted : loop.Accounted pace history) :
    Accounted pace (history ++ [.powerCut])
      { loop with
        pc := .reset
        store := { loop.store with initialized := false } } where
  unread_le := by
    rw [unread_concat]
    exact accounted.unread_le
  held_le := Nat.le_add_right _ _
  counted_le := by
    have held_le := accounted.held_le
    have counted_le := accounted.counted_le
    have lead_le := lead_le pace loop.pc
    have on_timer_le : loop.onTimer2 history ≤ pace := by
      rw [onTimer2]
      split
      · exact accounted.unread_le
      · exact Nat.zero_le _
    have saved : counted history ≤
        loop.savedTotal.toNat + lossPerCut pace + powerCuts history * lossPerCut pace := by
      rw [lossPerCut] at counted_le ⊢
      omega
    rw [counted_concat, powerCuts_concat]
    simp only [isCount, isPowerCut, Bool.false_eq_true, if_false, if_true, Nat.add_zero,
      Nat.succ_mul]
    change counted history ≤ loop.savedTotal.toNat + 0 + _
    omega

/-- An action that neither counts nor cuts the power keeps the account if the total in hand and the
events on TIMER2 still add up. -/
private theorem accounted_of_balance (accounted : loop.Accounted pace history)
    {action : LoopAction} (not_count : action.isCount = false)
    (not_cut : action.isPowerCut = false)
    (unread_le : action.unreadAfter (unread history) ≤ unread history)
    (held_le : after.heldTotal ≤ after.savedTotal.toNat + lead pace after.pc)
    (balance : loop.heldTotal + loop.onTimer2 history ≤
      after.heldTotal + after.onTimer2 (history ++ [action])) :
    after.Accounted pace (history ++ [action]) where
  unread_le := by
    rw [unread_concat]
    exact unread_le.trans accounted.unread_le
  held_le := held_le
  counted_le := by
    have counted_le := accounted.counted_le
    rw [counted_concat, powerCuts_concat, not_count, not_cut]
    simp only [Bool.false_eq_true, if_false, Nat.add_zero]
    omega

private theorem accounted_count (accounted : loop.Accounted pace history)
    (counts : loop.pc.counts = true) (few : unread history + 1 ≤ pace) :
    Accounted pace (history ++ [.count]) { loop with hw := loop.hw.trigger .timer2Count } where
  unread_le := by
    rw [unread_concat]
    exact few
  held_le := accounted.held_le
  counted_le := by
    have counted_le := accounted.counted_le
    rw [onTimer2, counts, if_pos rfl] at counted_le
    rw [counted_concat, powerCuts_concat, onTimer2, unread_concat, counts]
    simp only [isCount, isPowerCut, unreadAfter, Bool.false_eq_true, if_false, if_true,
      Nat.add_zero]
    change counted history + 1 ≤ loop.heldTotal + _ + _
    omega

/-- An action that leaves TIMER2 and the total in hand alone keeps the account. -/
private theorem accounted_of_kept (accounted : loop.Accounted pace history)
    {action : LoopAction} (not_count : action.isCount = false)
    (not_cut : action.isPowerCut = false)
    (unread_eq : ∀ unread, action.unreadAfter unread = unread)
    (counts_eq : after.pc.counts = loop.pc.counts) (held_eq : after.heldTotal = loop.heldTotal)
    (held_le : after.heldTotal ≤ after.savedTotal.toNat + lead pace after.pc) :
    after.Accounted pace (history ++ [action]) := by
  refine accounted_of_balance accounted not_count not_cut (unread_eq _).le held_le ?_
  rw [held_eq, onTimer2, onTimer2, counts_eq, unread_concat, unread_eq]

/-- A snapshot moves the events on TIMER2 into the hands of the device. -/
private theorem accounted_read (accounted : loop.Accounted pace history)
    (implements : loop.Implements history counter) (pc_eq : loop.pc = .asleep)
    (bounded : counter.events < 2 ^ 64) :
    Accounted pace (history ++ [.read])
      { loop with pc := .sampled loop.hw.hwPulseCounterRead } := by
  have phase := implements.phase
  simp only [Phase, pc_eq] at phase
  obtain ⟨-, tracks, -⟩ := phase
  have live_eq : loop.acc.total.toNat = counter.tally := tracks.total_eq
  have sampled_eq : (loop.acc.update loop.hw.hwPulseCounterRead).total.toNat =
      loop.acc.total.toNat + unread history := by
    rw [(tracks.update implements.waiting_lt bounded).total_eq, live_eq, ← implements.waiting_eq]
    rfl
  have held_le := accounted.held_le
  have unread_le := accounted.unread_le
  refine accounted_of_balance accounted rfl rfl (Nat.zero_le _) ?_ ?_
  · simp only [heldTotal, pc_eq, lead] at held_le ⊢
    rw [sampled_eq]
    change _ ≤ loop.savedTotal.toNat + _
    omega
  · simp only [heldTotal, onTimer2, pc_eq, LoopPc.counts, if_true]
    rw [sampled_eq]
    exact Nat.le_add_right _ _

/-- The restore step puts the saved total in hand. -/
private theorem heldTotal_restoreTotal (opened : loop.Opened) (acc_eq : loop.acc = .init) :
    (loop.restoreTotal none).heldTotal = loop.savedTotal.toNat ∧
      (loop.restoreTotal none).savedTotal = loop.savedTotal := by
  rcases restoreTotal_ok opened.2 with restored | ⟨empty, restored⟩
  · rw [restored]
    exact ⟨rfl, rfl⟩
  · rw [restored, heldTotal, acc_eq, empty]
    exact ⟨rfl, empty⟩

theorem persist_keeps (loop : SampleLoop) (now : ℤ) (fault : Option Errno) :
    (loop.persist now fault).pc = .asleep ∧ (loop.persist now fault).acc = loop.acc := by
  rcases loop.persist_cases now fault with ⟨-, -, -, saves⟩ | ⟨-, keeps⟩
  · rw [saves]
    exact ⟨rfl, rfl⟩
  · rw [keeps]
    exact ⟨rfl, rfl⟩

/-- Every step of a run keeps the account. -/
theorem accounted_step (accounted : loop.Accounted pace history)
    (implements : loop.Implements history counter) {action : LoopAction}
    (admitted : UndisturbedAt pace history loop action)
    (step : (machine config).step loop action = some after)
    (bounded : counter.events < 2 ^ 64) : after.Accounted pace (history ++ [action]) := by
  obtain ⟨undisturbed, slow⟩ := admitted
  have phase := implements.phase
  have held_le := accounted.held_le
  cases action with
  | count =>
      obtain ⟨counts, rfl⟩ := Machine.guard_inv step
      exact accounted_count accounted counts (slow rfl)
  | powerCut =>
      obtain rfl := Option.some.inj step
      exact accounted_powerCut accounted
  | nvsStoreInit results =>
      obtain ⟨pc_eq, rfl⟩ := Machine.guard_inv step
      simp only [Phase, pc_eq] at phase
      rw [openStore, NvsStore.nvsStoreInit_mounts phase undisturbed]
      refine accounted_of_kept accounted rfl rfl (fun _ => rfl) ?_ ?_ (Nat.le_add_right _ _)
      · rw [pc_eq]
        rfl
      · simp only [heldTotal, pc_eq, savedTotal]
  | hwPulseCounterInit fault nrfx =>
      obtain ⟨pc_eq, started | failed⟩ := hwPulseCounterInit_step step
      · obtain ⟨threshold, rfl⟩ := started
        refine accounted_of_balance accounted rfl rfl (Nat.zero_le _) (Nat.le_add_right _ _) ?_
        simp [heldTotal, onTimer2, pc_eq, LoopPc.counts, savedTotal]
      · subst failed
        refine accounted_of_balance accounted rfl rfl (Nat.zero_le _) (Nat.le_add_right _ _) ?_
        simp [heldTotal, onTimer2, pc_eq, LoopPc.counts, savedTotal]
  | pulseAccumulatorInit uptime =>
      obtain ⟨pc_eq, rfl⟩ := Machine.guard_inv step
      refine accounted_of_kept accounted rfl rfl (fun _ => rfl) ?_ ?_ (Nat.le_add_right _ _)
      · rw [pc_eq]
        rfl
      · simp only [heldTotal, pc_eq, savedTotal]
  | eraseCheck polls fault =>
      obtain ⟨⟨pc_eq, -⟩, rfl⟩ := Machine.guard_inv step
      rw [eraseCheck_released undisturbed]
      refine accounted_of_kept accounted rfl rfl (fun _ => rfl) ?_ ?_ (Nat.le_add_right _ _)
      · rw [pc_eq]
        rfl
      · simp only [heldTotal, pc_eq, savedTotal]
  | loadTotal fault =>
      obtain ⟨pc_eq, rfl⟩ := Machine.guard_inv step
      obtain rfl : fault = none := undisturbed
      simp only [Phase, pc_eq] at phase
      obtain ⟨opened, -, acc_eq, -⟩ := phase
      obtain ⟨held_eq, saved_eq⟩ := heldTotal_restoreTotal opened acc_eq
      refine accounted_of_kept accounted rfl rfl (fun _ => rfl) ?_ ?_ ?_
      · rw [pc_restoreTotal, pc_eq]
        rfl
      · rw [held_eq]
        simp only [heldTotal, pc_eq]
      · rw [held_eq, saved_eq]
        exact Nat.le_add_right _ _
  | skipRestore =>
      obtain ⟨⟨pc_eq, failed⟩, rfl⟩ := Machine.guard_inv step
      simp only [Phase, pc_eq] at phase
      exact absurd phase.1.1 failed
  | armIrq armed =>
      obtain ⟨pc_eq, rfl⟩ := Machine.guard_inv step
      simp only [heldTotal, pc_eq, lead, Nat.add_zero] at held_le
      cases armed with
      | true =>
          refine accounted_of_kept accounted rfl rfl (fun _ => rfl) ?_ ?_
            (held_le.trans (Nat.le_add_right _ _))
          · rw [pc_eq]
            rfl
          · simp only [heldTotal, pc_eq, if_true]
      | false =>
          refine accounted_of_kept accounted rfl rfl (fun _ => rfl) ?_ ?_ held_le
          · rw [pc_eq]
            rfl
          · simp [heldTotal, pc_eq]
  | read =>
      obtain ⟨pc_eq, rfl⟩ := Machine.guard_inv step
      exact accounted_read accounted implements pc_eq bounded
  | update =>
      obtain ⟨pulses, pc_eq, rfl⟩ := update_step step
      simp only [heldTotal, pc_eq, lead] at held_le
      refine accounted_of_kept accounted rfl rfl (fun _ => rfl) ?_ ?_ held_le
      · rw [pc_eq]
        rfl
      · simp only [heldTotal, pc_eq]
  | persist now fault =>
      obtain ⟨pc_eq, rfl⟩ := Machine.guard_inv step
      obtain rfl : fault = none := undisturbed
      have close := lagBounded_of_implements implements pc_eq now
      obtain ⟨asleep, acc_eq⟩ := persist_keeps loop now none
      refine accounted_of_kept accounted rfl rfl (fun _ => rfl) ?_ ?_ ?_
      · rw [asleep, pc_eq]
        rfl
      · simp only [heldTotal, asleep, pc_eq, acc_eq]
      · simp only [heldTotal, asleep, lead]
        omega

theorem accounted_path (off : initial.Off)
    (blank : initial.store.records nvsIdAccumulatorTotal = none)
    (path : (machine config).Path (UndisturbedAt pace) initial history final)
    (bounded : counted history < 2 ^ 64) :
    final.Accounted pace history ∧ ∃ counter, final.Implements history counter := by
  revert bounded
  refine path.invariant (fun history loop => counted history < 2 ^ 64 →
    loop.Accounted pace history ∧ ∃ counter, loop.Implements history counter)
    (fun _ => ⟨accounted_off off, _, implements_off off blank⟩) ?_
  intro history before action after induction admitted step bounded
  have before_bounded : counted history < 2 ^ 64 := by
    rw [counted_concat] at bounded
    exact Nat.lt_of_add_right_lt bounded
  obtain ⟨accounted, counter, implements⟩ := induction before_bounded
  refine ⟨accounted_step accounted implements admitted step ?_, ?_⟩
  · rw [implements.events_eq]
    exact before_bounded
  · obtain ⟨move, implements⟩ := implements_step implements admitted.1 step bounded
    exact ⟨_, implements⟩

/-- What is in hand and on TIMER2 was counted. -/
theorem held_le_of_implements (implements : loop.Implements history counter) :
    loop.heldTotal + loop.onTimer2 history ≤ counted history := by
  have accounted := counter.accounted
  have durable_le := counter.durable_le
  rw [implements.events_eq, implements.waiting_eq] at accounted
  rw [implements.durable_eq] at durable_le
  have phase := implements.phase
  cases pc_eq : loop.pc with
  | reset | nvsReady | hwFailed =>
      simp only [heldTotal, onTimer2, pc_eq, LoopPc.counts, Bool.false_eq_true, if_false]
      omega
  | counting =>
      simp only [Phase, pc_eq] at phase
      have saved_eq : loop.savedTotal.toNat = counter.tally := phase.2.total_eq
      simp only [heldTotal, onTimer2, pc_eq, LoopPc.counts, if_true, saved_eq]
      exact accounted
  | accumulating | eraseChecked =>
      simp only [Phase, pc_eq] at phase
      have saved_eq : loop.savedTotal.toNat = counter.tally := phase.2.1.total_eq
      simp only [heldTotal, onTimer2, pc_eq, LoopPc.counts, if_true, saved_eq]
      exact accounted
  | restored | asleep | updated | sampled =>
      simp only [Phase, pc_eq] at phase
      simp only [heldTotal, onTimer2, pc_eq, LoopPc.counts, if_true, phase.2.1.total_eq]
      exact accounted
  | armFailed =>
      simp only [Phase, pc_eq] at phase
      simp only [heldTotal, onTimer2, pc_eq, LoopPc.counts, if_true, phase.total_eq]
      exact accounted

/-- From a partition without a saved total, let every store call succeed, nobody hold the button at
boot, and at most `pace` count events, fewer than `2 ^ 32`, fall between snapshots. As long as fewer
than `2 ^ 64` events are counted, each power cut costs at most `lossPerCut pace` of them, and none
is lost otherwise. -/
theorem power_cuts_lose_little (off : initial.Off)
    (blank : initial.store.records nvsIdAccumulatorTotal = none)
    (path : (machine config).Path (UndisturbedAt pace) initial history final)
    (bounded : counted history < 2 ^ 64) :
    final.heldTotal + final.onTimer2 history ≤ counted history ∧
      counted history ≤
        final.heldTotal + final.onTimer2 history + powerCuts history * lossPerCut pace := by
  obtain ⟨accounted, counter, implements⟩ := accounted_path off blank path bounded
  exact ⟨held_le_of_implements implements, accounted.counted_le⟩

/-- Count events can follow as long as the pace allows them. -/
theorem path_counts_at (path : (machine config).Path (UndisturbedAt pace) initial history loop)
    (fits : pace < 2 ^ 32) (counts : loop.pc.counts = true) (extra : ℕ)
    (few : unread history + extra ≤ pace) :
    (machine config).Path (UndisturbedAt pace) initial (history ++ List.replicate extra .count)
      (loop.afterCounts extra) := by
  refine path_counts path counts extra fun earlier below before => ?_
  have slow : unread (history ++ List.replicate earlier .count) + 1 ≤ pace := by
    rw [unread_replicate]
    omega
  exact ⟨Nat.lt_of_le_of_lt slow fits, fun _ => slow⟩

/-- Actions other than count events are admitted at any pace. -/
theorem undisturbedAt_of_silent {actions : List LoopAction}
    (silent : actions.any isCount = false)
    (admitted : ∀ action ∈ actions, ∀ earlier before, Undisturbed earlier before action) :
    ∀ action ∈ actions, ∀ earlier before, UndisturbedAt pace earlier before action :=
  fun action member earlier before => by
    refine ⟨admitted action member earlier before, ?_⟩
    rintro rfl
    exact absurd rfl (List.any_eq_false.mp silent _ member)

theorem admitted_powerCut : ∀ action ∈ [LoopAction.powerCut], ∀ earlier before,
    UndisturbedAt pace earlier before action :=
  undisturbedAt_of_silent rfl (by simp [Undisturbed])

/-- Of four events the one that comes between the save and the power cut is lost. -/
theorem power_cuts_lose_little_interrupted :
    ∃ final, (machine .default).run (off blankRecords) interruptedRun = some final ∧
      final.heldTotal = 3 ∧ final.onTimer2 interruptedRun = 0 ∧
      counted interruptedRun ≤ 3 + 0 + 1 * lossPerCut 3 := by
  have start : (machine .default).Path (UndisturbedAt 3) (off blankRecords) []
    (off blankRecords) := .nil
  have booted := start.append_run (undisturbedAt_of_silent rfl undisturbed_firstBoot)
    (run_boot (off_isOff _) none)
  have events := path_counts_at booted (by decide) rfl 3 (by decide)
  have saved := events.append_run (undisturbedAt_of_silent rfl (by simp [Undisturbed]))
    (run_iteration rfl 0 none)
  have unseen := path_counts_at saved (by decide) rfl 1 (by decide)
  have cut := unseen.append_run admitted_powerCut rfl
  have rebooted := cut.append_run (undisturbedAt_of_silent rfl undisturbed_firstBoot)
    (run_boot ⟨rfl, rfl⟩ none)
  exact ⟨_, rebooted.run_eq, rfl, rfl,
    (power_cuts_lose_little (off_isOff _) rfl rebooted (by decide)).2⟩

theorem counted_replicate (history : List LoopAction) (extra : ℕ) :
    counted (history ++ List.replicate extra .count) = counted history + extra := by
  rw [counted, List.countP_append, List.countP_replicate]
  rfl

theorem powerCuts_replicate (history : List LoopAction) (extra : ℕ) :
    powerCuts (history ++ List.replicate extra .count) = powerCuts history := by
  rw [powerCuts, List.countP_append, List.countP_replicate]
  rfl

/-- The bound is met: the pulses of two intervals come after an iteration that saves nothing, and
the power is cut before the next one saves. -/
theorem loss_is_attained {pace : ℕ}
    (fast : persistMaxPulseDelta.toNat - 1 ≤ pace) (fits : pace < 2 ^ 32) :
    ∃ history final, (machine .default).Path (UndisturbedAt pace) (off blankRecords) history final ∧
      powerCuts history = 1 ∧
      counted history = final.heldTotal + final.onTimer2 history + lossPerCut pace := by
  have start : (machine .default).Path (UndisturbedAt pace) (off blankRecords) []
    (off blankRecords) := .nil
  have booted := start.append_run (undisturbedAt_of_silent rfl undisturbed_firstBoot)
    (run_boot (off_isOff _) none)
  have first := path_counts_at booted fits rfl 1 (by
    change 0 + 1 ≤ pace
    exact Nat.le_trans (by decide) fast)
  have saved := first.append_run
    (undisturbedAt_of_silent rfl (by simp [Undisturbed])) (run_iteration rfl 0 none)
  have more := path_counts_at saved fits rfl (persistMaxPulseDelta.toNat - 1) (by
    change 0 + _ ≤ pace
    rwa [Nat.zero_add])
  have unsaved := more.append_run
    (undisturbedAt_of_silent rfl (by simp [Undisturbed])) (run_iteration rfl 0 none)
  have interval := path_counts_at unsaved fits rfl pace (by
    change 0 + pace ≤ pace
    exact (Nat.zero_add pace).le)
  have taken := interval.append_run
    (undisturbedAt_of_silent rfl (by simp [Undisturbed])) (run_update rfl)
  have again := path_counts_at taken fits rfl pace (by
    rw [unread, List.foldl_append]
    change 0 + pace ≤ pace
    exact (Nat.zero_add pace).le)
  have cut := again.append_run admitted_powerCut rfl
  refine ⟨_, _, cut, ?_, ?_⟩
  · rw [powerCuts_concat, powerCuts_replicate, powerCuts, List.countP_append, ← powerCuts,
      powerCuts_replicate]
    rfl
  · rw [counted_concat, counted_replicate, counted, List.countP_append, ← counted,
      counted_replicate]
    change 100 + pace + 0 + pace + 0 = 1 + 0 + (99 + 2 * pace)
    omega

end SampleLoop

end PowerMeter
