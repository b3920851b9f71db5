import PowerMeter.LedController

/-!
# Stale ticks

The handler of `tick_work` may have started, and be waiting for the spinlock, when a call switches
the rendered pattern. `k_work_cancel_delayable` cannot stop such an invocation, and the handler
dispatches on the pattern rendered when it gets the lock. The runs in which that is harmless are
those in which it finds no pattern that ticks.
-/

namespace PowerMeter

open Guarded

/-- A started invocation of `tick_handler`: the delay that expired, and whether a call has
switched the rendered pattern since. -/
structure WaitingTick where
  delay : ℕ
  stale : Bool
  deriving DecidableEq

/-- The controller and the invocation that waits for its spinlock, if any. -/
structure TickRace where
  controller : LedController
  waiting : Option WaitingTick
  deriving DecidableEq

/-- A call, the expiry of `tick_work` with the start of its handler, or the handler getting the
lock at an uptime. -/
inductive RaceAction
  | call (op : LedOp)
  | start
  | run (now : ℤ)
  deriving DecidableEq

namespace TickRace

/-- No handler has started. -/
def init : TickRace := ⟨.init, none⟩

/-- The controller and its tick as two parties; the work queue runs one invocation at a time. -/
def machine : Machine TickRace RaceAction where
  step race
    | .call op =>
        let controller := race.controller.call op
        some
          { controller
            waiting := race.waiting.map fun waiting =>
              { waiting with
                stale := waiting.stale || controller.rendered ≠ race.controller.rendered } }
    | .start =>
        if race.waiting = none then
          race.controller.tickWork.map fun delay =>
            { controller := race.controller.cancelTick
              waiting := some ⟨delay, false⟩ }
        else none
    | .run now =>
        if race.waiting.isSome then
          (race.controller.tickHandler now).map fun controller => ⟨controller, none⟩
        else none

/-- The waiting invocation was started before the last switch of pattern. -/
def Stale (race : TickRace) : Prop :=
  ∃ waiting, race.waiting = some waiting ∧ waiting.stale

/-- A stale invocation changes nothing when it runs. -/
def Harmless : Machine.Assumption TickRace RaceAction := fun _ race action =>
  ∀ now, action = .run now → race.Stale →
    race.controller.tickHandler now = some race.controller

/-- A stale invocation finds the controller idle or holding a long press. -/
def FindsNoTick : Machine.Assumption TickRace RaceAction := fun _ race action =>
  ∀ now, action = .run now → race.Stale →
    race.controller.rendered = .none ∨ race.controller.rendered = .longPressHold

/-- The controller as if the handler ran at the moment it gets the lock: an invocation that is not
stale still counts as scheduled. -/
def serial (race : TickRace) : LedController :=
  match race.waiting with
  | none => race.controller
  | some waiting =>
      if waiting.stale then race.controller
      else race.controller.rescheduleTick waiting.delay

/-- What the controller itself is seen to do: its calls, and the ticks that are not stale. -/
def observe (race : TickRace) : RaceAction → Option LedAction
  | .call op => some (.call op)
  | .start => none
  | .run now => race.waiting.bind fun waiting => if waiting.stale then none else some (.tick now)

end TickRace

namespace LedController

variable {controller : LedController}

/-- A call that keeps the rendered pattern leaves its tick alone, and one that switches it starts
the tick afresh. -/
theorem reselect_rescheduleTick (controller : LedController) (delay : ℕ) :
    (controller.rescheduleTick delay).reselectIfChangedLocked =
      if controller.reselectIfChangedLocked.rendered = controller.rendered then
        controller.reselectIfChangedLocked.rescheduleTick delay
      else controller.reselectIfChangedLocked := by
  by_cases same : controller.state.selected = controller.rendered
  · simp [reselectIfChangedLocked, rescheduleTick, same]
  · have fresh := renderStartLocked_cancelTick
      ({ controller.rescheduleTick delay with rendered := controller.state.selected })
      controller.state.selected
    simp only [reselectIfChangedLocked, rescheduleTick, same, if_false,
      renderStartLocked_rendered] at fresh ⊢
    rw [← fresh, ← renderStartLocked_cancelTick]
    rfl

theorem call_rescheduleTick (controller : LedController) (delay : ℕ) (op : LedOp) :
    (controller.rescheduleTick delay).call op =
      if (controller.call op).rendered = controller.rendered then
        (controller.call op).rescheduleTick delay
      else controller.call op := by
  have posted_eq : (controller.rescheduleTick delay).posted op =
      (controller.posted op).rescheduleTick delay := by
    cases op <;> rfl
  rw [call_eq, call_eq, posted_eq, reselect_rescheduleTick, posted_rendered]

theorem call_tickWork {op : LedOp} (same : (controller.call op).rendered = controller.rendered) :
    (controller.call op).tickWork = controller.tickWork := by
  rw [call_eq, reselectIfChangedLocked] at same ⊢
  split
  next => exact posted_tickWork controller op
  next changed =>
    rw [if_neg changed, renderStartLocked_rendered] at same
    exact absurd (same.trans (posted_rendered controller op).symm) changed

private theorem next_phase_ne {phases : ℕ} (several : 2 ≤ phases) (index : ℕ) :
    (index + 1) % phases ≠ index := by
  intro same
  have below : index < phases := same ▸ Nat.mod_lt _ (by omega)
  rcases Nat.lt_or_ge (index + 1) phases with inside | last
  · rw [Nat.mod_eq_of_lt inside] at same
    omega
  · have wraps : index + 1 = phases := by omega
    rw [wraps, Nat.mod_self] at same
    omega

theorem tickHandler_changes (settled : controller.Settled) (scheduled : controller.tickWork.isSome)
    (now : ℤ) : controller.tickHandler now ≠ some controller := by
  intro same
  have ended {pattern : LedPatternId} (shown : controller.rendered = pattern)
      (busy : pattern ≠ .none) : some (controller.ledCancel pattern) ≠ some controller := by
    intro cancelled
    rw [ledCancel_rendered settled.rendered_eq shown busy] at cancelled
    have idle := congrArg rendered (Option.some.inj cancelled)
    exact busy (shown ▸ idle.symm)
  cases shown : controller.rendered with
  | buttonAck | joinSuccess | heartbeat =>
      simp only [tickHandler, shown] at same
      exact ended shown (by simp) same
  | joining =>
      simp only [tickHandler, shown] at same
      have toggled := congrArg joiningPhaseOn (Option.some.inj same)
      simp [rescheduleTick, setLedsRgb] at toggled
  | joinFail =>
      simp only [tickHandler, shown] at same
      split at same
      · exact ended shown (by simp) same
      next more =>
        have consumed := congrArg joinFailTicksRemaining (Option.some.inj same)
        simp only [rescheduleTick, setLedsRgb] at consumed
        omega
  | eraseConfirm =>
      simp only [tickHandler, shown] at same
      split at same
      · exact ended shown (by simp) same
      next more =>
        have consumed := congrArg eraseConfirmTicksRemaining (Option.some.inj same)
        simp only [rescheduleTick, setLedsRgb] at consumed
        omega
  | fatal =>
      simp only [tickHandler, shown] at same
      split at same
      next collapsed =>
        have advanced := congrArg fatalPhaseIndex (Option.some.inj same)
        simp only [fatalCollapsedTick] at advanced
        split at advanced <;> exact next_phase_ne (Nat.le_refl 2) _ advanced
      next early =>
        split at same
        next zero => simp at same
        next positive =>
          have advanced := congrArg fatalPhaseIndex (Option.some.inj same)
          have phases : 2 ≤ 2 * controller.fatalFlashCount := by omega
          exact next_phase_ne phases _ advanced
  | none => exact absurd shown (settled.ticking.mp scheduled).1
  | longPressHold => exact absurd shown (settled.ticking.mp scheduled).2
  | outOfRange code => exact absurd shown (settled.rendered_ne code)

/-- A stale tick leaves a settled controller alone exactly where no pattern ticks. -/
theorem tickHandler_eq_self_iff (settled : controller.Settled) (now : ℤ) :
    controller.tickHandler now = some controller ↔
      controller.rendered = .none ∨ controller.rendered = .longPressHold := by
  constructor
  · intro same
    by_contra ticking
    rw [not_or] at ticking
    exact tickHandler_changes settled (settled.ticking.mpr ticking) now same
  · rintro (shown | shown) <;> simp [tickHandler, shown]

end LedController

namespace TickRace

open LedController

variable {history : List RaceAction} {race : TickRace}

/-- While an invocation waits and is not stale, the tick it came from is not scheduled. -/
def Popped (race : TickRace) : Prop :=
  ∀ waiting, race.waiting = some waiting → waiting.stale = false →
    race.controller.tickWork = none

theorem serial_call {after : TickRace} {op : LedOp} (popped : race.Popped)
    (step : machine.step race (.call op) = some after) :
    after.serial = race.serial.call op ∧ after.Popped := by
  obtain rfl := Option.some.inj step
  obtain ⟨controller, waiting⟩ := race
  cases waiting with
  | none => exact ⟨rfl, by simp [Popped]⟩
  | some waiting =>
      obtain ⟨delay, stale⟩ := waiting
      cases stale with
      | true => exact ⟨rfl, by simp [Popped]⟩
      | false =>
          have unscheduled : controller.tickWork = none := popped _ rfl rfl
          by_cases same : (controller.call op).rendered = controller.rendered
          · refine ⟨?_, ?_⟩
            · simp [serial, same, call_rescheduleTick]
            · simp [Popped, same, call_tickWork same, unscheduled]
          · refine ⟨?_, ?_⟩
            · simp [serial, same, call_rescheduleTick]
            · simp [Popped, same]

theorem serial_start {after : TickRace} (step : machine.step race .start = some after) :
    after.serial = race.serial ∧ after.Popped := by
  obtain ⟨idle, started⟩ := by simpa [machine] using step
  obtain ⟨delay, scheduled, rfl⟩ := started
  refine ⟨?_, ?_⟩
  · simp [serial, idle, rescheduleTick, cancelTick, ← scheduled]
  · simp [Popped, cancelTick]

/-- A handler that is not stale is a tick of the serial controller. -/
theorem serial_run {after : TickRace} {now : ℤ} (popped : race.Popped) (fresh : ¬ race.Stale)
    (step : machine.step race (.run now) = some after) :
    LedController.machine.step race.serial (.tick now) = some after.serial ∧ after.Popped := by
  obtain ⟨waits, controller, ticked, rfl⟩ := by simpa [machine] using step
  obtain ⟨⟨delay, stale⟩, waiting⟩ := Option.isSome_iff_exists.mp waits
  have not_stale : stale = false := by
    by_contra late
    exact fresh ⟨_, waiting, by simpa using late⟩
  have unscheduled := popped _ waiting not_stale
  refine ⟨?_, by simp [Popped]⟩
  have before : (race.controller.rescheduleTick delay).cancelTick = race.controller := by
    rw [rescheduleTick, cancelTick, ← unscheduled]
  simp only [serial, waiting, not_stale, LedController.machine]
  simp only [Bool.false_eq_true, if_false, before, ticked]
  rfl

/-- While every stale tick has been harmless, the controller has done what its calls and its own
ticks do. -/
theorem serial_path (path : machine.Path Harmless init history race) :
    LedController.machine.Path .any .init (machine.observations observe init history)
      race.serial ∧ race.Popped := by
  induction path with
  | nil => exact ⟨.nil, by simp [Popped, init]⟩
  | @snoc history before after action path harmless step induction =>
      obtain ⟨calls, popped⟩ := induction
      rw [Machine.observations_concat observe path.run_eq step]
      cases action with
      | call op =>
          obtain ⟨serial_eq, after_popped⟩ := serial_call popped step
          exact ⟨calls.snoc trivial (congrArg some serial_eq.symm), after_popped⟩
      | start =>
          obtain ⟨serial_eq, after_popped⟩ := serial_start step
          rw [serial_eq]
          exact ⟨by simpa [observe] using calls, after_popped⟩
      | run now =>
          by_cases late : before.Stale
          · obtain ⟨waiting, waiting_eq, stale⟩ := late
            have kept := harmless now rfl ⟨waiting, waiting_eq, stale⟩
            obtain rfl : TickRace.mk before.controller none = after := by
              simpa [machine, waiting_eq, kept] using step
            refine ⟨?_, by simp [Popped]⟩
            simpa [observe, waiting_eq, stale, serial] using calls
          · obtain ⟨ticked, after_popped⟩ := serial_run popped late step
            have shown : observe before (.run now) = some (.tick now) := by
              obtain ⟨waits, -⟩ := by simpa [machine] using step
              obtain ⟨waiting, waiting_eq⟩ := Option.isSome_iff_exists.mp waits
              have not_stale : ¬ waiting.stale := fun stale => late ⟨waiting, waiting_eq, stale⟩
              simp [observe, waiting_eq, not_stale]
            rw [shown]
            exact ⟨calls.snoc trivial ticked, after_popped⟩

theorem serial_of_stale (late : race.Stale) : race.serial = race.controller := by
  obtain ⟨waiting, waiting_eq, stale⟩ := late
  simp [serial, waiting_eq, stale]

/-- Every stale tick of a run is harmless exactly if each finds no pattern that ticks, and then
the controller does what its calls and its own ticks do: every phase of a pattern ends with a tick
that the phase itself scheduled. -/
theorem stale_ticks_harmless_iff (history : List RaceAction) (race : TickRace) :
    (machine.Path Harmless init history race ↔ machine.Path FindsNoTick init history race) ∧
    (machine.Path FindsNoTick init history race →
      LedController.machine.Path .any .init (machine.observations observe init history)
        race.serial) := by
  have finds_of_harmless (path : machine.Path Harmless init history race) :
      machine.Path FindsNoTick init history race := by
    refine path.mono ?_
    intro history before action after path harmless step now run_eq late
    have settled := settled_path (serial_path path).1
    rw [serial_of_stale late] at settled
    exact (tickHandler_eq_self_iff settled now).mp (harmless now run_eq late)
  have harmless_of_finds (path : machine.Path FindsNoTick init history race) :
      machine.Path Harmless init history race := by
    refine path.mono ?_
    intro history before action after path finds step now run_eq late
    rcases finds now run_eq late with shown | shown <;> simp [tickHandler, shown]
  refine ⟨⟨finds_of_harmless, harmless_of_finds⟩, ?_⟩
  intro path
  exact (serial_path (harmless_of_finds path)).1

/-- A tick armed for a button flash that gets the lock after a join has started turns the blink
off. -/
theorem stale_tick_toggles_joining :
    ¬ ∀ history race, machine.Path .any init history race →
      machine.Path Harmless init history race := by
  intro harmless
  have executed : machine.execute .any [] init [.call (.request .buttonAck 7), .start,
      .call (.request .joining 3), .run 100] = some _ := rfl
  have path : machine.Path Harmless init
      ([.call (.request .buttonAck 7), .start, .call (.request .joining 3)] ++ [.run 100]) _ :=
    harmless _ _ (Machine.path_of_execute executed)
  obtain ⟨before, path, unchanged, -⟩ := path.snoc_inv
  obtain rfl := Option.some.inj path.run_eq
  have same := unchanged 100 rfl ⟨_, rfl, rfl⟩
  exact absurd same (by decide)

end TickRace

end PowerMeter
