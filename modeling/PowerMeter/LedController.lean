import PowerMeter.LedPriority
import PowerMeter.Foundations.Machine

/-!
# The LED controller

`led_controller.c` renders the pattern its arbiter selects. Every pattern that changes with time
is driven by one delayable work item, `tick_work`, whose handler dispatches on the pattern then
rendered. A step of the machine is a call into the controller or a firing of the tick.
-/

namespace PowerMeter

open Guarded

/-- Logical levels of the three LEDs. -/
structure Rgb where
  red : Bool
  green : Bool
  blue : Bool
  deriving DecidableEq

/-- All three LEDs off. -/
def Rgb.off : Rgb := ⟨false, false, false⟩

/-- Exactly red on. -/
def Rgb.onlyRed : Rgb := ⟨true, false, false⟩

/-- `BUTTON_ACK_ON_MS`. -/
def buttonAckOnMs : ℕ := 100

/-- `JOINING_HALF_PERIOD_MS`. -/
def joiningHalfPeriodMs : ℕ := 500

/-- `JOIN_SUCCESS_ON_MS`. -/
def joinSuccessOnMs : ℕ := 2000

/-- `JOIN_FAIL_HALF_PERIOD_MS`. -/
def joinFailHalfPeriodMs : ℕ := 200

/-- `JOIN_FAIL_TICKS`. -/
def joinFailTicks : ℕ := 5

/-- `ERASE_CONFIRM_HALF_PERIOD_MS`. -/
def eraseConfirmHalfPeriodMs : ℕ := 150

/-- `ERASE_CONFIRM_TICKS`. -/
def eraseConfirmTicks : ℕ := 7

/-- `FATAL_PULSE_ON_MS`. -/
def fatalPulseOnMs : ℕ := 100

/-- `FATAL_PULSE_OFF_MS`. -/
def fatalPulseOffMs : ℕ := 100

/-- `FATAL_CYCLE_MS`. -/
def fatalCycleMs : ℕ := 5000

/-- `FATAL_COLLAPSE_AFTER_MS`. -/
def fatalCollapseAfterMs : ℤ := 600000

/-- `FATAL_COLLAPSE_ON_MS`. -/
def fatalCollapseOnMs : ℕ := 100

/-- `FATAL_COLLAPSE_OFF_MS`. -/
def fatalCollapseOffMs : ℕ := 9900

/-- `HEARTBEAT_ON_MS`. -/
def heartbeatOnMs : ℕ := 50

/-- The file-scope state of `led_controller.c`, the pins it drives, and the delay `tick_work` is
scheduled for, if it is scheduled. -/
structure LedController where
  state : LedPriorityState
  rendered : LedPatternId
  joiningPhaseOn : Bool
  joinFailTicksRemaining : ℕ
  eraseConfirmTicksRemaining : ℕ
  fatalFlashCount : ℕ
  fatalPhaseIndex : ℕ
  fatalStartMs : ℤ
  leds : Rgb
  tickWork : Option ℕ
  deriving DecidableEq

namespace LedController

/-- The controller after a successful `led_controller_init`. -/
def init : LedController where
  state := .init
  rendered := .none
  joiningPhaseOn := false
  joinFailTicksRemaining := 0
  eraseConfirmTicksRemaining := 0
  fatalFlashCount := 0
  fatalPhaseIndex := 0
  fatalStartMs := 0
  leds := .off
  tickWork := none

/-- `set_leds_rgb`. -/
def setLedsRgb (controller : LedController) (red green blue : Bool) : LedController :=
  { controller with leds := ⟨red, green, blue⟩ }

/-- `set_all_leds`. -/
def setAllLeds (controller : LedController) (on : Bool) : LedController :=
  controller.setLedsRgb on on on

/-- `k_work_cancel_delayable` on `tick_work`. -/
def cancelTick (controller : LedController) : LedController :=
  { controller with tickWork := none }

/-- `k_work_reschedule` of `tick_work`. -/
def rescheduleTick (controller : LedController) (delay : ℕ) : LedController :=
  { controller with tickWork := some delay }

/-- `render_start_locked`. -/
def renderStartLocked (started : LedController) (pattern : LedPatternId) : LedController :=
  let controller := started.cancelTick
  match pattern with
  | .buttonAck => (controller.setAllLeds true).rescheduleTick buttonAckOnMs
  | .joining =>
      ({ controller with joiningPhaseOn := true }.setLedsRgb false false true).rescheduleTick
        joiningHalfPeriodMs
  | .joinSuccess => (controller.setLedsRgb false true false).rescheduleTick joinSuccessOnMs
  | .joinFail =>
      ({ controller with joinFailTicksRemaining := joinFailTicks }.setLedsRgb
        true false false).rescheduleTick joinFailHalfPeriodMs
  | .longPressHold => controller.setLedsRgb true false false
  | .eraseConfirm =>
      ({ controller with eraseConfirmTicksRemaining := eraseConfirmTicks }.setLedsRgb
        true false false).rescheduleTick eraseConfirmHalfPeriodMs
  | .fatal =>
      ({ controller with fatalPhaseIndex := 0 }.setLedsRgb true false false).rescheduleTick
        fatalPulseOnMs
  | .heartbeat => (controller.setLedsRgb false true false).rescheduleTick heartbeatOnMs
  | .none => controller.setAllLeds false
  | .outOfRange _ => controller.setAllLeds false

/-- `reselect_if_changed_locked`. -/
def reselectIfChangedLocked (controller : LedController) : LedController :=
  let selected := controller.state.selected
  if selected = controller.rendered then controller
  else { controller with rendered := selected }.renderStartLocked selected

/-- `led_request`. -/
def ledRequest (controller : LedController) (pattern : LedPatternId) (prio : ℕ) :
    LedController :=
  { controller with
    state := (controller.state.request pattern prio).2 }.reselectIfChangedLocked

/-- `led_cancel`, which is also how a tick ends a one-shot pattern. -/
def ledCancel (controller : LedController) (pattern : LedPatternId) : LedController :=
  { controller with state := controller.state.cancel pattern }.reselectIfChangedLocked

/-- `led_request_fatal` at an uptime. -/
def ledRequestFatal (controller : LedController) (flashCount : ℕ) (now : ℤ) : LedController :=
  let flashCount := if flashCount < 1 then 1 else if flashCount > 5 then 5 else flashCount
  { controller with
    fatalFlashCount := flashCount
    fatalStartMs := now
    state := (controller.state.request .fatal LedPrio.fatal.value).2 }.reselectIfChangedLocked

/-- The collapsed part of the fatal branch of `tick_handler`. -/
def fatalCollapsedTick (controller : LedController) : LedController :=
  let index := (controller.fatalPhaseIndex + 1) % 2
  let controller := { controller with fatalPhaseIndex := index }
  if index = 0 then (controller.setLedsRgb true false false).rescheduleTick fatalCollapseOnMs
  else (controller.setLedsRgb false false false).rescheduleTick fatalCollapseOffMs

/-- The part of the fatal branch before the collapse, whose `phases` is not zero. -/
def fatalPulseTick (controller : LedController) : LedController :=
  let phases := 2 * controller.fatalFlashCount
  let index := (controller.fatalPhaseIndex + 1) % phases
  let on := index % 2 = 0
  let delay :=
    if on then fatalPulseOnMs
    else if index < phases - 1 then fatalPulseOffMs
    else fatalCycleMs - (2 * controller.fatalFlashCount - 1) * fatalPulseOnMs
  ({ controller with fatalPhaseIndex := index }.setLedsRgb on false false).rescheduleTick delay

/-- `tick_handler` at an uptime. There is no result where the source takes a remainder by zero,
which is before the collapse of a fatal pattern with no flash count. -/
def tickHandler (controller : LedController) (now : ℤ) : Option LedController :=
  match controller.rendered with
  | .buttonAck => some (controller.ledCancel .buttonAck)
  | .joining =>
      some (({ controller with joiningPhaseOn := !controller.joiningPhaseOn }.setLedsRgb
        false false (!controller.joiningPhaseOn)).rescheduleTick joiningHalfPeriodMs)
  | .joinSuccess => some (controller.ledCancel .joinSuccess)
  | .joinFail =>
      if controller.joinFailTicksRemaining = 0 then some (controller.ledCancel .joinFail)
      else
        some (({ controller with
          joinFailTicksRemaining := controller.joinFailTicksRemaining - 1 }.setLedsRgb
            (controller.joinFailTicksRemaining % 2 = 0) false false).rescheduleTick
              joinFailHalfPeriodMs)
  | .eraseConfirm =>
      if controller.eraseConfirmTicksRemaining = 0 then some (controller.ledCancel .eraseConfirm)
      else
        some (({ controller with
          eraseConfirmTicksRemaining := controller.eraseConfirmTicksRemaining - 1 }.setLedsRgb
            (controller.eraseConfirmTicksRemaining % 2 = 0) false false).rescheduleTick
              eraseConfirmHalfPeriodMs)
  | .heartbeat => some (controller.ledCancel .heartbeat)
  | .fatal =>
      if now - controller.fatalStartMs ≥ fatalCollapseAfterMs then
        some controller.fatalCollapsedTick
      else if 2 * controller.fatalFlashCount = 0 then none
      else some controller.fatalPulseTick
  | .longPressHold => some controller
  | .none => some controller
  | .outOfRange _ => some controller

end LedController

/-- A call of `led_request`, `led_cancel` or `led_request_fatal`. -/
inductive LedOp
  | request (pattern : LedPatternId) (prio : ℕ)
  | cancel (pattern : LedPatternId)
  | requestFatal (flashCount : ℕ) (now : ℤ)
  deriving DecidableEq

/-- A call into the controller, or a firing of its tick at an uptime. -/
inductive LedAction
  | call (op : LedOp)
  | tick (now : ℤ)
  deriving DecidableEq

namespace LedController

/-- The controller after one call. -/
def call (controller : LedController) : LedOp → LedController
  | .request pattern prio => controller.ledRequest pattern prio
  | .cancel pattern => controller.ledCancel pattern
  | .requestFatal flashCount now => controller.ledRequestFatal flashCount now

/-- The controller under its calls; the tick fires only when it is scheduled. -/
def machine : Machine LedController LedAction where
  step controller
    | .call op => some (controller.call op)
    | .tick now =>
        if controller.tickWork.isSome then controller.cancelTick.tickHandler now else none

/-- What the pins and the tick show agrees with the pattern rendered. -/
structure Rendering (controller : LedController) : Prop where
  ticking : controller.tickWork.isSome ↔
    controller.rendered ≠ .none ∧ controller.rendered ≠ .longPressHold
  dark : controller.rendered = .none → controller.leds = .off
  hold : controller.rendered = .longPressHold → controller.leds = .onlyRed

/-- The phase counters never exceed the values the renderers start them from. -/
structure Bounded (controller : LedController) : Prop where
  joinFail : controller.joinFailTicksRemaining ≤ joinFailTicks
  eraseConfirm : controller.eraseConfirmTicksRemaining ≤ eraseConfirmTicks

/-- What holds of the controller between two operations. -/
structure Settled (controller : LedController) : Prop extends
    Rendering controller, Bounded controller where
  rendered_eq : controller.rendered = controller.state.selected
  selectable : controller.state.selected.Selectable

theorem settled_init : init.Settled where
  ticking := by simp [init]
  dark _ := rfl
  hold := by simp [init]
  joinFail := Nat.zero_le _
  eraseConfirm := Nat.zero_le _
  rendered_eq := rfl
  selectable := .inl rfl

variable {controller : LedController} {pattern : LedPatternId}

@[simp]
theorem renderStartLocked_state (controller : LedController) (pattern : LedPatternId) :
    (controller.renderStartLocked pattern).state = controller.state := by
  cases pattern <;> rfl

@[simp]
theorem renderStartLocked_rendered (controller : LedController) (pattern : LedPatternId) :
    (controller.renderStartLocked pattern).rendered = controller.rendered := by
  cases pattern <;> rfl

/-- A renderer does not look at the tick it replaces. -/
theorem renderStartLocked_cancelTick (controller : LedController) (pattern : LedPatternId) :
    controller.cancelTick.renderStartLocked pattern = controller.renderStartLocked pattern := by
  cases pattern <;> rfl

/-- Starting a renderer brings the pins and the tick in line with it. -/
theorem rendering_renderStartLocked (selectable : pattern.Selectable)
    (rendered_eq : controller.rendered = pattern) :
    (controller.renderStartLocked pattern).Rendering := by
  refine ⟨?_, ?_, ?_⟩ <;> rw [renderStartLocked_rendered, rendered_eq]
  · cases pattern with
    | outOfRange code => simp [LedPatternId.Selectable, LedPatternId.dispatchable] at selectable
    | none | fatal | longPressHold | joining | joinSuccess | joinFail | eraseConfirm | buttonAck
    | heartbeat =>
        simp [renderStartLocked, rescheduleTick, setLedsRgb, setAllLeds, cancelTick]
  · rintro rfl
    rfl
  · rintro rfl
    rfl

theorem bounded_renderStartLocked (bounded : controller.Bounded) (pattern : LedPatternId) :
    (controller.renderStartLocked pattern).Bounded := by
  obtain ⟨joinFail, eraseConfirm⟩ := bounded
  cases pattern with
  | joinFail => exact ⟨Nat.le_refl _, eraseConfirm⟩
  | eraseConfirm => exact ⟨joinFail, Nat.le_refl _⟩
  | none | fatal | longPressHold | joining | joinSuccess | buttonAck | heartbeat
  | outOfRange code => exact ⟨joinFail, eraseConfirm⟩

/-- A reselection settles the controller, whatever happened to the arbiter before it. -/
theorem settled_reselect (bounded : controller.Bounded)
    (selectable : controller.state.selected.Selectable)
    (rendering : controller.state.selected = controller.rendered → controller.Rendering) :
    controller.reselectIfChangedLocked.Settled := by
  rw [reselectIfChangedLocked]
  split
  next same => exact ⟨rendering same, bounded, same.symm, selectable⟩
  next changed =>
    refine ⟨rendering_renderStartLocked selectable rfl, ?_, ?_, ?_⟩
    · apply bounded_renderStartLocked
      exact ⟨bounded.joinFail, bounded.eraseConfirm⟩
    · rw [renderStartLocked_rendered, renderStartLocked_state]
    · rwa [renderStartLocked_state]

/-- What a call has written by the time it reselects. -/
def posted (controller : LedController) : LedOp → LedController
  | .request pattern prio =>
      { controller with state := (controller.state.request pattern prio).2 }
  | .cancel pattern => { controller with state := controller.state.cancel pattern }
  | .requestFatal flashCount now =>
      { controller with
        fatalFlashCount :=
          if flashCount < 1 then 1 else if flashCount > 5 then 5 else flashCount
        fatalStartMs := now
        state := (controller.state.request .fatal LedPrio.fatal.value).2 }

theorem call_eq (controller : LedController) (op : LedOp) :
    controller.call op = (controller.posted op).reselectIfChangedLocked := by
  cases op <;> rfl

@[simp]
theorem posted_rendered (controller : LedController) (op : LedOp) :
    (controller.posted op).rendered = controller.rendered := by
  cases op <;> rfl

@[simp]
theorem posted_tickWork (controller : LedController) (op : LedOp) :
    (controller.posted op).tickWork = controller.tickWork := by
  cases op <;> rfl

theorem selectable_posted (selectable : controller.state.selected.Selectable) (op : LedOp) :
    (controller.posted op).state.selected.Selectable := by
  cases op with
  | request pattern prio => exact LedPriorityState.selectable_request selectable pattern prio
  | cancel pattern => exact LedPriorityState.selectable_cancel selectable pattern
  | requestFatal flashCount now =>
      exact LedPriorityState.selectable_request selectable .fatal _

theorem Settled.call (settled : controller.Settled) (op : LedOp) :
    (controller.call op).Settled := by
  rw [call_eq]
  refine settled_reselect ?_ (selectable_posted settled.selectable op) fun _ => ?_
  · cases op <;> exact ⟨settled.joinFail, settled.eraseConfirm⟩
  · cases op <;> exact ⟨settled.ticking, settled.dark, settled.hold⟩

/-- A settled controller never renders an id outside the enumeration. -/
theorem Settled.rendered_ne (settled : controller.Settled) (code : ℤ) :
    controller.rendered ≠ .outOfRange code := by
  intro shown
  have selectable := settled.selectable
  rw [← settled.rendered_eq, shown] at selectable
  simp [LedPatternId.Selectable, LedPatternId.dispatchable] at selectable

/-- The controller with nothing selected. -/
def idled (controller : LedController) : LedController :=
  { controller with
    state := .init
    rendered := .none
    leds := .off
    tickWork := none }

/-- Cancelling the pattern rendered leaves the controller idle. -/
theorem ledCancel_rendered (rendered_eq : controller.rendered = controller.state.selected)
    (shown : controller.rendered = pattern) (busy : pattern ≠ .none) :
    controller.ledCancel pattern = controller.idled := by
  have active_eq : controller.state.active = pattern := by rw [← shown, rendered_eq]; rfl
  have changed : LedPatternId.none ≠ controller.rendered := by rw [shown]; exact busy.symm
  simp only [ledCancel, LedPriorityState.cancel, active_eq, if_true, reselectIfChangedLocked,
    LedPriorityState.selected, LedPriorityState.init, changed, if_false]
  rfl

/-- How many firings of the tick end the pattern rendered; zero when none of them does. -/
def ticksToIdle (controller : LedController) : ℕ :=
  match controller.rendered with
  | .buttonAck | .joinSuccess | .heartbeat => 1
  | .joinFail => controller.joinFailTicksRemaining + 1
  | .eraseConfirm => controller.eraseConfirmTicksRemaining + 1
  | .joining | .longPressHold | .fatal | .none | .outOfRange _ => 0

/-- What a firing of the tick leaves: an idle controller, or the same pattern in its next phase
with the tick scheduled again. -/
inductive TickOutcome (controller : LedController) : LedController → Prop
  | ended : controller.ticksToIdle = 1 → TickOutcome controller controller.idled
  | advanced {after : LedController} :
      after.state = controller.state → after.rendered = controller.rendered →
      after.tickWork.isSome → after.Bounded →
      after.ticksToIdle = controller.ticksToIdle - 1 →
      controller.ticksToIdle ≠ 1 → TickOutcome controller after

/-- The tick handler has no result exactly at the remainder by zero. -/
theorem tickHandler_eq_none (controller : LedController) (now : ℤ) :
    controller.tickHandler now = none ↔
      controller.rendered = .fatal ∧ controller.fatalFlashCount = 0 ∧
        now - controller.fatalStartMs < fatalCollapseAfterMs := by
  cases shown : controller.rendered with
  | fatal =>
      simp only [tickHandler, shown, true_and]
      split
      next collapsed => simp [collapsed]
      next early =>
        have before_collapse : now - controller.fatalStartMs < fatalCollapseAfterMs := by omega
        split
        next zero =>
          have no_flashes : controller.fatalFlashCount = 0 := by omega
          simp [before_collapse, no_flashes]
        next positive =>
          have flashes : controller.fatalFlashCount ≠ 0 := by
            rintro none
            simp [none] at positive
          simp [flashes]
  | joinFail => simp only [tickHandler, shown]; split <;> simp
  | eraseConfirm => simp only [tickHandler, shown]; split <;> simp
  | none | longPressHold | joining | joinSuccess | buttonAck | heartbeat | outOfRange code =>
      simp [tickHandler, shown]

namespace TickOutcome

variable {after : LedController}

theorem settled (outcome : TickOutcome controller after) (settled : controller.Settled)
    (scheduled : controller.tickWork.isSome) : after.Settled := by
  cases outcome with
  | ended =>
      refine ⟨⟨?_, fun _ => rfl, ?_⟩, ⟨settled.joinFail, settled.eraseConfirm⟩, rfl, .inl rfl⟩
      · simp [idled]
      · simp [idled]
  | advanced state_eq rendered_eq rescheduled bounded =>
      have ticking := settled.ticking.mp scheduled
      refine ⟨⟨?_, ?_, ?_⟩, bounded, ?_, ?_⟩
      · rw [rendered_eq]
        exact iff_of_true rescheduled ticking
      · intro dark
        exact absurd (rendered_eq ▸ dark) ticking.1
      · intro hold
        exact absurd (rendered_eq ▸ hold) ticking.2
      · rw [rendered_eq, state_eq, settled.rendered_eq]
      · rw [state_eq]
        exact settled.selectable

theorem of_ledCancel (settled : controller.Settled) {pattern : LedPatternId}
    (shown : controller.rendered = pattern) (busy : pattern ≠ .none)
    (last : controller.ticksToIdle = 1) :
    TickOutcome controller (controller.cancelTick.ledCancel pattern) := by
  have cancelled : controller.cancelTick.ledCancel pattern = controller.cancelTick.idled :=
    ledCancel_rendered settled.rendered_eq shown busy
  rw [cancelled]
  exact .ended last

theorem of_endless (endless : controller.ticksToIdle = 0)
    (state_eq : after.state = controller.state) (rendered_eq : after.rendered = controller.rendered)
    (rescheduled : after.tickWork.isSome) (bounded : after.Bounded) :
    TickOutcome controller after := by
  refine .advanced state_eq rendered_eq rescheduled bounded ?_ ?_
  · rw [endless]
    unfold ticksToIdle at endless ⊢
    rw [rendered_eq]
    split at endless <;> simp_all
  · rw [endless]
    exact Nat.zero_ne_one

/-- A handler that counts a phase down goes on with the phases left. -/
theorem of_countdown {phases : ℕ} (counting : controller.ticksToIdle = phases + 1)
    (more : phases ≠ 0) (counted : after.ticksToIdle = phases)
    (state_eq : after.state = controller.state) (rendered_eq : after.rendered = controller.rendered)
    (rescheduled : after.tickWork.isSome) (bounded : after.Bounded) :
    TickOutcome controller after := by
  refine .advanced state_eq rendered_eq rescheduled bounded ?_ ?_
  · rw [counted, counting, Nat.add_sub_cancel]
  · rw [counting]
    omega

end TickOutcome

theorem tickHandler_outcome (settled : controller.Settled)
    (scheduled : controller.tickWork.isSome) {now : ℤ} {after : LedController}
    (ticked : controller.cancelTick.tickHandler now = some after) :
    TickOutcome controller after := by
  have bounded : controller.Bounded := ⟨settled.joinFail, settled.eraseConfirm⟩
  have rendered_eq : controller.cancelTick.rendered = controller.rendered := rfl
  cases shown : controller.rendered with
  | buttonAck | joinSuccess | heartbeat =>
      simp only [tickHandler, rendered_eq, shown] at ticked
      obtain rfl := Option.some.inj ticked
      exact .of_ledCancel settled shown (by simp) (by simp only [ticksToIdle, shown])
  | joining =>
      simp only [tickHandler, rendered_eq, shown] at ticked
      obtain rfl := Option.some.inj ticked
      exact .of_endless (by simp only [ticksToIdle, shown]) rfl shown.symm rfl
        ⟨bounded.joinFail, bounded.eraseConfirm⟩
  | joinFail =>
      simp only [tickHandler, rendered_eq, shown] at ticked
      split at ticked
      next finished =>
        obtain rfl := Option.some.inj ticked
        have finished : controller.joinFailTicksRemaining = 0 := finished
        exact .of_ledCancel settled shown (by simp) (by simp only [ticksToIdle, shown, finished])
      next more =>
        obtain rfl := Option.some.inj ticked
        have more : controller.joinFailTicksRemaining ≠ 0 := more
        refine .of_countdown (by simp only [ticksToIdle, shown]) more ?_ rfl shown.symm rfl ?_
        · simp only [ticksToIdle, rescheduleTick, setLedsRgb, cancelTick]
          omega
        · exact ⟨Nat.le_trans (Nat.sub_le _ _) bounded.joinFail, bounded.eraseConfirm⟩
  | eraseConfirm =>
      simp only [tickHandler, rendered_eq, shown] at ticked
      split at ticked
      next finished =>
        obtain rfl := Option.some.inj ticked
        have finished : controller.eraseConfirmTicksRemaining = 0 := finished
        exact .of_ledCancel settled shown (by simp) (by simp only [ticksToIdle, shown, finished])
      next more =>
        obtain rfl := Option.some.inj ticked
        have more : controller.eraseConfirmTicksRemaining ≠ 0 := more
        refine .of_countdown (by simp only [ticksToIdle, shown]) more ?_ rfl shown.symm rfl ?_
        · simp only [ticksToIdle, rescheduleTick, setLedsRgb, cancelTick]
          omega
        · exact ⟨bounded.joinFail, Nat.le_trans (Nat.sub_le _ _) bounded.eraseConfirm⟩
  | fatal =>
      have endless : controller.ticksToIdle = 0 := by simp only [ticksToIdle, shown]
      simp only [tickHandler, rendered_eq, shown] at ticked
      split at ticked
      next collapsed =>
        obtain rfl := Option.some.inj ticked
        rw [fatalCollapsedTick]
        split
        · exact .of_endless endless rfl rfl rfl ⟨bounded.joinFail, bounded.eraseConfirm⟩
        · exact .of_endless endless rfl rfl rfl ⟨bounded.joinFail, bounded.eraseConfirm⟩
      next early =>
        split at ticked
        next zero => simp at ticked
        next positive =>
          obtain rfl := Option.some.inj ticked
          exact .of_endless endless rfl rfl rfl ⟨bounded.joinFail, bounded.eraseConfirm⟩
  | none => exact absurd shown (settled.ticking.mp scheduled).1
  | longPressHold => exact absurd shown (settled.ticking.mp scheduled).2
  | outOfRange code => exact absurd shown (settled.rendered_ne code)

/-- A tick taken by the machine fired while scheduled. -/
theorem tick_inv {now : ℤ} {after : LedController}
    (step : machine.step controller (.tick now) = some after) :
    controller.tickWork.isSome ∧ controller.cancelTick.tickHandler now = some after := by
  simp only [machine] at step
  split at step
  next scheduled => exact ⟨scheduled, step⟩
  next => simp at step

theorem settled_step (settled : controller.Settled) {action : LedAction} {after : LedController}
    (step : machine.step controller action = some after) : after.Settled := by
  cases action with
  | call op =>
      obtain rfl := Option.some.inj step
      exact settled.call op
  | tick now =>
      obtain ⟨scheduled, ticked⟩ := tick_inv step
      exact (tickHandler_outcome settled scheduled ticked).settled settled scheduled

variable {history : List LedAction}

theorem settled_path (path : machine.Path .any init history controller) : controller.Settled :=
  path.invariant (fun _ state => state.Settled) settled_init
    fun _ _ _ _ settled _ step => settled_step settled step

/-- A pattern that the tick ends by itself. -/
def OneShot (pattern : LedPatternId) : Prop :=
  pattern = .buttonAck ∨ pattern = .joinSuccess ∨ pattern = .joinFail ∨
    pattern = .eraseConfirm ∨ pattern = .heartbeat

/-- A one-shot pattern needs between one and eight firings. -/
theorem ticksToIdle_oneShot (bounded : controller.Bounded) (oneShot : OneShot controller.rendered) :
    0 < controller.ticksToIdle ∧ controller.ticksToIdle ≤ 8 := by
  have joinFail := bounded.joinFail
  have eraseConfirm := bounded.eraseConfirm
  rcases oneShot with shown | shown | shown | shown | shown <;>
    simp only [ticksToIdle, shown] <;> simp only [joinFailTicks, eraseConfirmTicks] at * <;> omega

/-- A pattern that needs firings to end is ticking and is not fatal. -/
theorem ticks_of_ticksToIdle (settled : controller.Settled) (pending : 0 < controller.ticksToIdle) :
    controller.tickWork.isSome ∧ controller.rendered ≠ .fatal := by
  rw [settled.ticking]
  refine ⟨⟨?_, ?_⟩, ?_⟩ <;> intro shown <;> simp [ticksToIdle, shown] at pending

/-- Left to its tick, a one-shot pattern ends after as many firings as it needs. -/
theorem run_ticks {nows : List ℤ} (settled : controller.Settled)
    (pending : 0 < controller.ticksToIdle) (firings : nows.length = controller.ticksToIdle) :
    ∃ final, machine.run controller (nows.map .tick) = some final ∧
      final.rendered = .none ∧ final.leds = .off ∧ final.tickWork = none := by
  induction nows generalizing controller with
  | nil =>
      rw [List.length_nil] at firings
      omega
  | cons now nows induction =>
      obtain ⟨scheduled, harmless⟩ := ticks_of_ticksToIdle settled pending
      have defined : controller.cancelTick.tickHandler now ≠ none := by
        rw [Ne, tickHandler_eq_none]
        exact fun undefined => harmless undefined.1
      obtain ⟨after, ticked⟩ := Option.ne_none_iff_exists'.mp defined
      have outcome := tickHandler_outcome settled scheduled ticked
      have after_settled := outcome.settled settled scheduled
      have step : machine.step controller (.tick now) = some after := by
        simp only [machine, scheduled, if_true, ticked]
      simp only [List.map_cons, Machine.run_cons, step, Option.bind_some]
      rw [List.length_cons] at firings
      cases outcome with
      | ended last =>
          obtain rfl : nows = [] := List.length_eq_zero_iff.mp (by omega)
          exact ⟨_, rfl, rfl, rfl, rfl⟩
      | advanced _ _ _ _ left more => exact induction after_settled (by omega) (by omega)

/-- What `led_request_fatal` leaves for the tick. -/
def fatalArming (controller : LedController) : ℕ × ℤ :=
  (controller.fatalFlashCount, controller.fatalStartMs)

theorem reselect_fatalArming (controller : LedController) :
    controller.reselectIfChangedLocked.fatalArming = controller.fatalArming := by
  rw [reselectIfChangedLocked]
  split
  · rfl
  · cases controller.state.selected <;> rfl

theorem ledCancel_fatalArming (controller : LedController) (pattern : LedPatternId) :
    (controller.ledCancel pattern).fatalArming = controller.fatalArming :=
  reselect_fatalArming _

theorem tickHandler_fatalArming {now : ℤ} {after : LedController}
    (ticked : controller.tickHandler now = some after) :
    after.fatalArming = controller.fatalArming := by
  rw [tickHandler] at ticked
  split at ticked
  · exact Option.some.inj ticked ▸ ledCancel_fatalArming controller _
  · exact Option.some.inj ticked ▸ rfl
  · exact Option.some.inj ticked ▸ ledCancel_fatalArming controller _
  · split at ticked
    · exact Option.some.inj ticked ▸ ledCancel_fatalArming controller _
    · exact Option.some.inj ticked ▸ rfl
  · split at ticked
    · exact Option.some.inj ticked ▸ ledCancel_fatalArming controller _
    · exact Option.some.inj ticked ▸ rfl
  · exact Option.some.inj ticked ▸ ledCancel_fatalArming controller _
  · split at ticked
    · obtain rfl := Option.some.inj ticked
      rw [fatalCollapsedTick]
      split <;> rfl
    · split at ticked
      · simp at ticked
      · exact Option.some.inj ticked ▸ rfl
  · exact Option.some.inj ticked ▸ rfl
  · exact Option.some.inj ticked ▸ rfl
  · exact Option.some.inj ticked ▸ rfl

/-- Only `led_request_fatal` touches what the fatal tick reads, and it leaves a flash count. -/
theorem call_fatalArming (controller : LedController) (op : LedOp) :
    ((controller.call op).fatalArming = controller.fatalArming ∧
        ∀ flashCount now, op ≠ .requestFatal flashCount now) ∨
      (∃ flashCount now, op = .requestFatal flashCount now) ∧
        0 < (controller.call op).fatalFlashCount := by
  cases op with
  | request pattern prio => exact .inl ⟨reselect_fatalArming _, by simp⟩
  | cancel pattern => exact .inl ⟨reselect_fatalArming _, by simp⟩
  | requestFatal flashCount now =>
      refine .inr ⟨⟨flashCount, now, rfl⟩, ?_⟩
      have arming := congrArg Prod.fst
        (reselect_fatalArming (controller.posted (.requestFatal flashCount now)))
      rw [← call_eq] at arming
      simp only [fatalArming, posted] at arming
      rw [arming]
      split
      · exact Nat.one_pos
      · split <;> omega

theorem fatalArming_step {action : LedAction} {after : LedController}
    (step : machine.step controller action = some after) :
    (after.fatalArming = controller.fatalArming ∧
        ∀ flashCount now, action ≠ .call (.requestFatal flashCount now)) ∨
      (∃ flashCount now, action = .call (.requestFatal flashCount now)) ∧
        0 < after.fatalFlashCount := by
  cases action with
  | call op =>
      obtain rfl := Option.some.inj step
      simpa using call_fatalArming controller op
  | tick now =>
      have kept := tickHandler_fatalArming (tick_inv step).2
      exact .inl ⟨kept, by simp⟩

/-- The history holds a call of `led_request_fatal`. -/
def FatalRequested (history : List LedAction) : Prop :=
  ∃ flashCount now, .call (.requestFatal flashCount now) ∈ history

/-- The fatal tick has a flash count exactly after a call of `led_request_fatal`. -/
theorem fatalArming_path (path : machine.Path .any init history controller) :
    (FatalRequested history → 0 < controller.fatalFlashCount) ∧
      (¬ FatalRequested history → controller.fatalArming = (0, 0)) := by
  refine path.invariant
    (fun history state => (FatalRequested history → 0 < state.fatalFlashCount) ∧
      (¬ FatalRequested history → state.fatalArming = (0, 0))) ?_ ?_
  · refine ⟨?_, fun _ => rfl⟩
    rintro ⟨flashCount, now, member⟩
    simp at member
  · rintro history before action after ⟨armed, unarmed⟩ - step
    rcases fatalArming_step step with ⟨kept, other⟩ | ⟨⟨flashCount, now, rfl⟩, positive⟩
    · have count_eq : after.fatalFlashCount = before.fatalFlashCount := congrArg Prod.fst kept
      refine ⟨?_, ?_⟩
      · rintro ⟨flashCount, now, member⟩
        rcases List.mem_append.mp member with earlier | last
        · rw [count_eq]
          exact armed ⟨flashCount, now, earlier⟩
        · exact absurd (List.mem_singleton.mp last).symm (other flashCount now)
      · intro absent
        rw [kept]
        exact unarmed fun ⟨flashCount, now, member⟩ =>
          absent ⟨flashCount, now, List.mem_append_left _ member⟩
    · refine ⟨fun _ => positive, ?_⟩
      intro absent
      exact absurd ⟨flashCount, now, List.mem_append_right _ List.mem_cons_self⟩ absent

/-- After every run the controller renders what the arbiter selects, its tick is scheduled exactly
for the patterns that change, its pins are dark when idle and red while a long press is held, and
a one-shot pattern ends within eight firings. The one firing with no result is that of a fatal
pattern requested without `led_request_fatal`, in the first ten minutes. -/
theorem controller_invariant (path : machine.Path .any init history controller) :
    controller.rendered = controller.state.selected ∧
    (controller.tickWork.isSome ↔
      controller.rendered ≠ .none ∧ controller.rendered ≠ .longPressHold) ∧
    (controller.rendered = .none → controller.leds = .off) ∧
    (controller.rendered = .longPressHold → controller.leds = .onlyRed) ∧
    (OneShot controller.rendered →
      ∃ firings, 0 < firings ∧ firings ≤ 8 ∧ ∀ nows : List ℤ, nows.length = firings →
        ∃ final, machine.run controller (nows.map .tick) = some final ∧
          final.rendered = .none ∧ final.leds = .off ∧ final.tickWork = none) ∧
    (controller.tickWork.isSome → ∀ now,
      (machine.step controller (.tick now) = none ↔
        controller.rendered = .fatal ∧ ¬ FatalRequested history ∧ now < fatalCollapseAfterMs)) := by
  have settled := settled_path path
  obtain ⟨armed, unarmed⟩ := fatalArming_path path
  refine ⟨settled.rendered_eq, settled.ticking, settled.dark, settled.hold, ?_, ?_⟩
  · intro oneShot
    obtain ⟨positive, bound⟩ := ticksToIdle_oneShot settled.toBounded oneShot
    exact ⟨_, positive, bound, fun nows firings => run_ticks settled positive firings⟩
  · intro scheduled now
    simp only [machine, scheduled, if_true, tickHandler_eq_none, cancelTick]
    by_cases requested : FatalRequested history
    · have positive := armed requested
      have nonzero : controller.fatalFlashCount ≠ 0 := Nat.ne_of_gt positive
      simp [requested, nonzero]
    · obtain ⟨count_eq, start_eq⟩ := Prod.mk.inj (unarmed requested)
      simp [requested, count_eq, start_eq]

/-- A run that preempts a join blink and ends in its failure blink. -/
theorem controller_invariant_joinFail :
    ∃ controller, machine.run init [.call (.request .joining 3), .tick 500,
        .call (.cancel .joining), .call (.request .joinFail 5)] = some controller ∧
      ∃ firings, 0 < firings ∧ firings ≤ 8 ∧ ∀ nows : List ℤ, nows.length = firings →
        ∃ final, machine.run controller (nows.map .tick) = some final ∧
          final.rendered = .none ∧ final.leds = .off ∧ final.tickWork = none := by
  have executed : machine.execute .any [] init [.call (.request .joining 3), .tick 500,
      .call (.cancel .joining), .call (.request .joinFail 5)] = some _ := rfl
  have path := Machine.path_of_execute executed
  obtain ⟨-, -, -, -, ends, -⟩ := controller_invariant path
  exact ⟨_, path.run_eq, ends (.inr (.inr (.inl rfl)))⟩

/-- The fatal pattern requested as any other has no flash count to divide by. -/
theorem fatal_tick_undefined :
    ¬ ∀ history controller, machine.run init history = some controller →
      controller.tickWork.isSome → ∀ now, (machine.step controller (.tick now)).isSome := by
  intro defined
  have undefined := defined [.call (.request .fatal 1)] _ rfl rfl 100
  exact absurd undefined (by decide)

end LedController

end PowerMeter
