import PowerMeter.Foundations.Machine
import PowerMeter.HwPulseCounter
import PowerMeter.LoopPolicies
import PowerMeter.PulseAccumulator
import PowerMeter.UserButton

/-!
# The boot and the sample loop of `main`

`main` opens the store, starts the hardware counter, restores the saved total and then samples the
counter every 200 ms. The model takes the calls that matter to the total one at a time, so that a
pulse or a power cut may fall between any two of them.
-/

namespace PowerMeter

open Guarded

/-- Program points of `main`, named after what has just happened. -/
inductive LoopPc
  | reset
  | nvsReady
  | counting
  | accumulating
  | eraseChecked
  | restored
  | asleep
  | sampled (pulses : UInt32)
  | updated
  | hwFailed
  | armFailed
  deriving DecidableEq

namespace LoopPc

/-- TIMER2 counts once `hw_pulse_counter_init` has succeeded. -/
def counts : LoopPc → Bool
  | .reset | .nvsReady | .hwFailed => false
  | .counting | .accumulating | .eraseChecked | .restored | .asleep | .sampled _ | .updated
  | .armFailed => true

/-- The restore step of the current boot is over. -/
def isRestored : LoopPc → Bool
  | .restored | .asleep | .sampled _ | .updated | .armFailed => true
  | .reset | .nvsReady | .counting | .accumulating | .eraseChecked | .hwFailed => false

end LoopPc

/-- The variables of `main` that carry the total, the store and the hardware counter. -/
structure SampleLoop where
  pc : LoopPc
  nvsErr : ℤ
  store : NvsStore
  hw : HwPulseCounter
  acc : PulseAccumulator
  lastSavedTotal : UInt64
  lastSavedMs : ℤ

/-- A count event, a power cut, or the next call of `main` with its outcome. -/
inductive LoopAction
  | count
  | powerCut
  | nvsStoreInit (results : NvsStore.MountResults)
  | hwPulseCounterInit (fault : Option Errno) (nrfx : NrfxCall → NrfxErr)
  | pulseAccumulatorInit (uptime : ℤ)
  | eraseCheck (polls : ℕ → ℤ) (fault : Option Errno)
  | loadTotal (fault : Option Errno)
  | skipRestore
  | armIrq (armed : Bool)
  | read
  | update
  | persist (now : ℤ) (fault : Option Errno)

namespace SampleLoop

/-- Open the store; `main` goes on after a failure, without persistence. -/
def openStore (loop : SampleLoop) (results : NvsStore.MountResults) : SampleLoop :=
  let (nvsErr, store) := loop.store.nvsStoreInit results
  { loop with
    pc := .nvsReady
    nvsErr
    store }

/-- The boot-hold gesture: a button held through every poll saves a zero total. -/
def eraseCheck (loop : SampleLoop) (polls : ℕ → ℤ) (fault : Option Errno) : SampleLoop :=
  if bootButtonHeld polls bootEraseHoldMs then
    { loop with
      pc := .eraseChecked
      store := (loop.store.nvsStoreSaveTotal 0 fault).2 }
  else { loop with pc := .eraseChecked }

/-- Load and restore the saved total; any error leaves the accumulator at zero. -/
def restoreTotal (loop : SampleLoop) (fault : Option Errno) : SampleLoop :=
  let (loadErr, saved) := loop.store.nvsStoreLoadTotal fault 0
  if loadErr = 0 then
    { loop with
      pc := .restored
      acc := loop.acc.restore saved
      lastSavedTotal := saved }
  else { loop with pc := .restored }

/-- The persist step at the end of an iteration. -/
def persist (loop : SampleLoop) (now : ℤ) (fault : Option Errno) : SampleLoop :=
  let total := loop.acc.total
  let elapsedMs := UInt64.ofInt (now - loop.lastSavedMs)
  if persistPolicy.shouldWrite total loop.lastSavedTotal elapsedMs then
    let (saveErr, store) := loop.store.nvsStoreSaveTotal total fault
    if saveErr ≠ 0 then
      { loop with
        pc := .asleep
        store }
    else
      { loop with
        pc := .asleep
        store
        lastSavedTotal := total
        lastSavedMs := now }
  else { loop with pc := .asleep }

/-- One count event, power cut or call of `main`. -/
def step (config : Kconfig) (loop : SampleLoop) : LoopAction → Option SampleLoop
  | .count =>
      if loop.pc.counts then some { loop with hw := loop.hw.trigger .timer2Count } else none
  | .powerCut =>
      some { loop with
        pc := .reset
        store := { loop.store with initialized := false } }
  | .nvsStoreInit results =>
      if loop.pc = .reset then some (loop.openStore results) else none
  | .hwPulseCounterInit fault nrfx =>
      if loop.pc = .nvsReady then
        match hwPulseCounterInit config loop.store fault nrfx with
        | .ok hw =>
            some { loop with
              pc := .counting
              hw }
        | .error _ => some { loop with pc := .hwFailed }
      else none
  | .pulseAccumulatorInit uptime =>
      if loop.pc = .counting then
        some { loop with
          pc := .accumulating
          acc := .init
          lastSavedTotal := 0
          lastSavedMs := uptime - persistIntervalMs.toNat }
      else none
  | .eraseCheck polls fault =>
      if loop.pc = .accumulating ∧ loop.nvsErr = 0 then some (loop.eraseCheck polls fault) else none
  | .loadTotal fault =>
      if loop.pc = .eraseChecked then some (loop.restoreTotal fault) else none
  | .skipRestore =>
      if loop.pc = .accumulating ∧ loop.nvsErr ≠ 0 then some { loop with pc := .restored } else none
  | .armIrq armed =>
      if loop.pc = .restored then
        some { loop with pc := if armed then .asleep else .armFailed }
      else none
  | .read =>
      if loop.pc = .asleep then
        some { loop with pc := .sampled loop.hw.hwPulseCounterRead }
      else none
  | .update =>
      match loop.pc with
      | .sampled pulses =>
          some { loop with
            pc := .updated
            acc := loop.acc.update pulses }
      | _ => none
  | .persist now fault =>
      if loop.pc = .updated then some (loop.persist now fault) else none

/-- The device as a machine. -/
def machine (config : Kconfig) : Machine SampleLoop LoopAction := ⟨step config⟩

/-- A device without power; what its RAM holds does not matter. -/
structure Off (loop : SampleLoop) : Prop where
  pc_eq : loop.pc = .reset
  closed : loop.store.initialized = false

/-- A device without power over the given records. -/
def off (records : NvsRecords) : SampleLoop where
  pc := .reset
  nvsErr := 0
  store := ⟨false, records⟩
  hw := .started 0
  acc := .init
  lastSavedTotal := 0
  lastSavedMs := 0

theorem off_isOff (records : NvsRecords) : (off records).Off := ⟨rfl, rfl⟩

/-- The partition before anything was ever saved. -/
def blankRecords : NvsRecords := fun _ => none

/-- The total in the accumulator slot. -/
def savedTotal (loop : SampleLoop) : UInt64 := loop.store.records.savedTotal

variable {config : Kconfig} {loop after : SampleLoop}

/-- The hardware counter starts with TIMER2 cleared, or `main` halts. -/
theorem hwPulseCounterInit_step {fault : Option Errno} {nrfx : NrfxCall → NrfxErr}
    (step : (machine config).step loop (.hwPulseCounterInit fault nrfx) = some after) :
    loop.pc = .nvsReady ∧
      ((∃ threshold, after = { loop with
          pc := .counting
          hw := .started threshold }) ∨
        after = { loop with pc := .hwFailed }) := by
  simp only [machine, SampleLoop.step, Option.ite_none_right_eq_some] at step
  obtain ⟨pc_eq, started⟩ := step
  refine ⟨pc_eq, ?_⟩
  split at started
  next hw initialized =>
    obtain rfl := Option.some.inj started
    obtain ⟨threshold, -, rfl⟩ := hwPulseCounterInit_ok initialized
    exact Or.inl ⟨threshold, rfl⟩
  next => exact Or.inr (Option.some.inj started).symm

/-- An update takes the snapshot of the read before it. -/
theorem update_step (step : (machine config).step loop .update = some after) :
    ∃ pulses, loop.pc = .sampled pulses ∧
      after = { loop with
        pc := .updated
        acc := loop.acc.update pulses } := by
  simp only [machine, SampleLoop.step] at step
  split at step
  next pulses pc_eq => exact ⟨pulses, pc_eq, (Option.some.inj step).symm⟩
  next => simp at step

/-- The state after `extra` more count events. -/
def afterCounts (loop : SampleLoop) (extra : ℕ) : SampleLoop :=
  { loop with hw := { loop.hw with timer2 := loop.hw.timer2 + UInt32.ofNat extra } }

/-- Any number of count events the assumption admits can follow. -/
theorem path_counts {admits : Machine.Assumption SampleLoop LoopAction} {initial : SampleLoop}
    {history : List LoopAction} (path : (machine config).Path admits initial history loop)
    (counts : loop.pc.counts = true) (extra : ℕ)
    (admitted : ∀ earlier < extra, ∀ before,
      admits (history ++ List.replicate earlier .count) before .count) :
    (machine config).Path admits initial (history ++ List.replicate extra .count)
      (loop.afterCounts extra) := by
  induction extra with
  | zero => simpa [afterCounts] using path
  | succ extra induction =>
      have shorter := induction fun earlier below => admitted earlier (Nat.lt_succ_of_lt below)
      have stepped : (machine config).step (loop.afterCounts extra) .count =
          some (loop.afterCounts (extra + 1)) := by
        simp only [machine, step, afterCounts, counts, if_true, HwPulseCounter.trigger,
          UInt32.ofNat_add, UInt32.ofNat_one, UInt32.add_assoc]
      have extended := Machine.Path.snoc shorter
        (admitted extra (Nat.lt_succ_self extra) (loop.afterCounts extra)) stepped
      rwa [List.append_assoc, ← List.replicate_succ'] at extended

/-- A persist step saves the live total or only ends the iteration. -/
theorem persist_cases (loop : SampleLoop) (now : ℤ) (fault : Option Errno) :
    (persistPolicy.shouldWrite loop.acc.total loop.lastSavedTotal
        (UInt64.ofInt (now - loop.lastSavedMs)) = true ∧
      loop.store.initialized = true ∧ fault = none ∧
      loop.persist now fault =
        { loop with
          pc := .asleep
          store := { loop.store with
            records := Function.update loop.store.records nvsIdAccumulatorTotal
              (some (LittleEndian.encode 8 loop.acc.total.toNat)) }
          lastSavedTotal := loop.acc.total
          lastSavedMs := now }) ∨
      ((loop.store.initialized = true → fault = none →
          persistPolicy.shouldWrite loop.acc.total loop.lastSavedTotal
            (UInt64.ofInt (now - loop.lastSavedMs)) = false) ∧
        loop.persist now fault = { loop with pc := .asleep }) := by
  simp only [persist]
  cases persistPolicy.shouldWrite loop.acc.total loop.lastSavedTotal
      (UInt64.ofInt (now - loop.lastSavedMs)) with
  | false => exact Or.inr ⟨fun _ _ => rfl, rfl⟩
  | true =>
      rcases loop.store.nvsStoreSaveTotal_cases loop.acc.total fault with
        ⟨opened, fault_eq, saved⟩ | ⟨refused, failed, kept⟩
      · left
        refine ⟨rfl, opened, fault_eq, ?_⟩
        simp [saved]
      · right
        refine ⟨fun opened fault_eq => absurd fault_eq (refused opened), ?_⟩
        simp [failed, kept]

@[simp]
theorem initialized_persist (loop : SampleLoop) (now : ℤ) (fault : Option Errno) :
    (loop.persist now fault).store.initialized = loop.store.initialized := by
  rcases loop.persist_cases now fault with ⟨-, -, -, saves⟩ | ⟨-, keeps⟩
  · rw [saves]
  · rw [keeps]

/-- A load that fails leaves the accumulator as it was initialized. -/
theorem restoreTotal_fault (opened : loop.store.initialized = true) (errno : Errno) :
    loop.restoreTotal (some errno) = { loop with pc := .restored } := by
  rw [restoreTotal, NvsStore.nvsStoreLoadTotal, NvsStore.loadRecord_fault opened]
  exact if_neg errno.rc_neg.ne

/-- A load that meets no fault restores the saved total, if there is one. -/
theorem restoreTotal_ok (opened : loop.store.initialized = true) :
    loop.restoreTotal none =
        { loop with
          pc := .restored
          acc := loop.acc.restore loop.savedTotal
          lastSavedTotal := loop.savedTotal } ∨
      (loop.savedTotal = 0 ∧ loop.restoreTotal none = { loop with pc := .restored }) := by
  rw [restoreTotal]
  rcases NvsStore.nvsStoreLoadTotal_ok opened 0 with loaded | ⟨absent, empty⟩
  · rw [loaded]
    exact Or.inl rfl
  · rw [absent]
    exact Or.inr ⟨empty, if_neg Errno.enoent.rc_neg.ne⟩

theorem eraseCheck_released {polls : ℕ → ℤ}
    (released : bootButtonHeld polls bootEraseHoldMs = false) (fault : Option Errno) :
    loop.eraseCheck polls fault = { loop with pc := .eraseChecked } := by
  simp [eraseCheck, released]

/-- The state in which a boot that meets no failure is about to load the total. -/
def beforeLoad (config : Kconfig) (records : NvsRecords) : SampleLoop where
  pc := .eraseChecked
  nvsErr := 0
  store := ⟨true, records⟩
  hw := .started (effectiveMinWidthUsAtInit config ⟨true, records⟩ none)
  acc := .init
  lastSavedTotal := 0
  lastSavedMs := -persistIntervalMs.toNat

/-- A boot that meets no failure, up to the load. -/
def bootActions : List LoopAction :=
  [.nvsStoreInit .success, .hwPulseCounterInit none fun _ => .success, .pulseAccumulatorInit 0,
    .eraseCheck (fun _ => 0) none]

theorem run_bootActions (off : loop.Off) :
    (machine config).run loop bootActions = some (beforeLoad config loop.store.records) := by
  have mounts : NvsStore.MountResults.success.Mounts := by decide
  have mounted := NvsStore.nvsStoreInit_mounts off.closed mounts
  have started (store : NvsStore) : hwPulseCounterInit config store none (fun _ => .success) =
      .ok (.started (effectiveMinWidthUsAtInit config store none)) := rfl
  simp only [bootActions, Machine.run_cons, Machine.run_nil, machine, step, openStore, off.pc_eq,
    mounted, started, if_true, and_self, Option.bind_some,
    eraseCheck_released bootButtonHeld_untouched, beforeLoad, zero_sub]

theorem pc_restoreTotal (loop : SampleLoop) (fault : Option Errno) :
    (loop.restoreTotal fault).pc = .restored := by
  simp only [restoreTotal]
  split <;> rfl

/-- The rest of a boot: the load with its outcome and the button interrupt. -/
def restoreActions (fault : Option Errno) : List LoopAction :=
  [.loadTotal fault, .armIrq true]

theorem run_restoreActions (pc_eq : loop.pc = .eraseChecked) (fault : Option Errno) :
    (machine config).run loop (restoreActions fault) =
      some { loop.restoreTotal fault with pc := .asleep } := by
  simp [restoreActions, Machine.run_cons, machine, step, pc_eq, pc_restoreTotal]

theorem run_boot (off : loop.Off) (fault : Option Errno) :
    (machine config).run loop (bootActions ++ restoreActions fault) =
      some { (beforeLoad config loop.store.records).restoreTotal fault with pc := .asleep } := by
  rw [Machine.run_append, run_bootActions off]
  exact @run_restoreActions config (beforeLoad config loop.store.records) rfl fault

/-- The state between the update and the persist step of an iteration. -/
def afterUpdate (loop : SampleLoop) : SampleLoop :=
  { loop with
    pc := .updated
    acc := loop.acc.update loop.hw.hwPulseCounterRead }

theorem run_update (pc_eq : loop.pc = .asleep) :
    (machine config).run loop [.read, .update] = some loop.afterUpdate := by
  simp [Machine.run_cons, machine, step, pc_eq, afterUpdate]

theorem run_iteration (pc_eq : loop.pc = .asleep) (now : ℤ) (fault : Option Errno) :
    (machine config).run loop [.read, .update, .persist now fault] =
      some (loop.afterUpdate.persist now fault) := by
  refine ((machine config).run_append loop [.read, .update] [.persist now fault]).trans ?_
  rw [run_update pc_eq]
  rfl

end SampleLoop

end PowerMeter
