import PowerMeter.Foundations.Machine
import PowerMeter.UserButton
import PowerMeter.LedArbitration

/-!
# The long-press-hold light

A press arms `long_press_hold_arm` for three seconds, and its handler lights the pattern
`LONG_PRESS_HOLD`. A release cancels the work and the pattern, but it cannot cancel a handler that
has started, and the interrupt may come between the start of the handler and its `led_request`.
-/

namespace PowerMeter

open Guarded

/-- The button handler, the three states a delayable work item can be in, and the LED arbiter. -/
structure HoldLight where
  button : UserButton
  lastSample : Option ButtonSample
  delayed : Bool
  queued : Bool
  running : Bool
  led : LedPriorityState

/-- The button interrupt with its sample, the work queue, or a call on behalf of another pattern. -/
inductive HoldAction
  | isr (sample : ButtonSample)
  | expire
  | start
  | ledRequest
  | otherCall (call : LedCall)

namespace HoldLight

/-- Boot ends with the light off and no press seen. -/
def booted : HoldLight where
  button := .init
  lastSample := none
  delayed := false
  queued := false
  running := false
  led := .init

/-- One kernel or LED call of the interrupt handler. A cancel takes the work out of the queue, but
does not stop its handler. -/
def perform (light : HoldLight) : IsrEffect → HoldLight
  | .workReschedule _ => { light with delayed := true }
  | .workCancelDelayable =>
      { light with
        delayed := false
        queued := false }
  | .ledCancel pattern => { light with led := light.led.cancel pattern }
  | .atomicSet _ => light
  | .semGive => light

/-- The whole interrupt handler, which no thread interrupts. -/
def isr (light : HoldLight) (sample : ButtonSample) : HoldLight :=
  let (button, effects) := light.button.userButtonIsr sample
  effects.foldl perform
    { light with
      button
      lastSample := some sample }

/-- The interrupt, the work queue with `long_press_hold_arm_handler`, and the other users of the
LED. -/
def machine : Machine HoldLight HoldAction where
  step light
    | .isr sample => some (light.isr sample)
    | .expire =>
        if light.delayed then
          some
            { light with
              delayed := false
              queued := true }
        else none
    | .start =>
        if light.queued ∧ ¬ light.running then
          some
            { light with
              queued := false
              running := true }
        else none
    | .ledRequest =>
        if light.running then
          some
            { light with
              running := false
              led := (light.led.request .longPressHold LedPrio.longPressHold.value).2 }
        else none
    | .otherCall call =>
        if call.pattern ≠ .longPressHold then some { light with led := light.led.call call }
        else none

/-- The last sample was active. -/
def Pressed (light : HoldLight) : Prop :=
  ∃ sample, light.lastSample = some sample ∧ sample.Active

/-- With the button last seen released and no handler under way, the light is off. -/
def Safe (light : HoldLight) : Prop :=
  ∀ sample, light.lastSample = some sample → ¬ sample.Active → ¬ light.running →
    light.led.selected ≠ .longPressHold

/-- A step that leaves the light safe. -/
def LeavesSafe : Machine.Assumption HoldLight HoldAction := fun _ before action =>
  ∀ after, machine.step before action = some after → after.Safe

/-- The handler makes its request only during a press, or when the request is going to lose. -/
def RequestsInPress : Machine.Assumption HoldLight HoldAction := fun _ before action =>
  action = .ledRequest → before.Pressed ∨
    before.led.Outranks .longPressHold LedPrio.longPressHold.value

variable {light : HoldLight}

/-- The interrupt on an active sample arms the work. -/
theorem isr_active {sample : ButtonSample} (active : sample.Active) :
    light.isr sample =
      { light with
        button := ⟨sample.now⟩
        lastSample := some sample
        delayed := true } := by
  have called : light.button.userButtonIsr sample =
      (⟨sample.now⟩, [.workReschedule buttonLongMinMs]) := if_pos active
  simp only [isr, called, List.foldl_cons, List.foldl_nil, perform]

/-- The interrupt on any other sample cancels the work and the light. -/
theorem isr_inactive {sample : ButtonSample} (inactive : ¬ sample.Active) :
    light.isr sample =
      { light with
        lastSample := some sample
        delayed := false
        queued := false
        led := light.led.cancel .longPressHold } := by
  have called : light.button.userButtonIsr sample =
      (light.button, [.workCancelDelayable, .ledCancel .longPressHold,
        .atomicSet (light.button.releaseDuration sample.now), .semGive]) := if_neg inactive
  simp only [isr, called, List.foldl_cons, List.foldl_nil, perform]

variable {history : List HoldAction}

/-- Nothing of the work is pending before the first press. -/
def Armed (light : HoldLight) : Prop :=
  light.delayed ∨ light.queued ∨ light.running → light.lastSample ≠ none

theorem armed_step {before after : HoldLight} {action : HoldAction} (armed : before.Armed)
    (step : machine.step before action = some after) : after.Armed := by
  cases action with
  | isr sample =>
      obtain rfl := Option.some.inj step
      by_cases active : sample.Active
      · rw [isr_active active]
        simp [Armed]
      · rw [isr_inactive active]
        simp [Armed]
  | expire =>
      obtain ⟨delayed, rfl⟩ := Machine.guard_inv step
      exact fun _ => armed (.inl delayed)
  | start =>
      obtain ⟨⟨queued, -⟩, rfl⟩ := Machine.guard_inv step
      exact fun _ => armed (.inr (.inl queued))
  | ledRequest =>
      obtain ⟨running, rfl⟩ := Machine.guard_inv step
      exact fun _ => armed (.inr (.inr running))
  | otherCall call =>
      obtain ⟨-, rfl⟩ := Machine.guard_inv step
      exact armed

/-- While every request was made in a press, a light outside a press is off. -/
def OffOutsidePress (light : HoldLight) : Prop :=
  ¬ light.Pressed → light.led.selected ≠ .longPressHold

theorem offOutsidePress_step {before after : HoldLight} {action : HoldAction}
    (off : before.OffOutsidePress) (admitted : RequestsInPress history before action)
    (step : machine.step before action = some after) : after.OffOutsidePress := by
  cases action with
  | isr sample =>
      obtain rfl := Option.some.inj step
      by_cases active : sample.Active
      · rw [isr_active active]
        exact fun released => absurd ⟨sample, rfl, active⟩ released
      · rw [isr_inactive active]
        exact fun _ => LedPriorityState.selected_cancel_ne (by simp) before.led
  | expire =>
      obtain ⟨-, rfl⟩ := Machine.guard_inv step
      exact off
  | start =>
      obtain ⟨-, rfl⟩ := Machine.guard_inv step
      exact off
  | ledRequest =>
      obtain ⟨-, rfl⟩ := Machine.guard_inv step
      intro released lit
      rcases admitted rfl with pressed | outranked
      · exact released pressed
      · exact (LedPriorityState.selected_request_iff rfl).mp lit outranked
  | otherCall call =>
      obtain ⟨other, rfl⟩ := Machine.guard_inv step
      exact fun released => LedPriorityState.selected_call_ne (by simp) other (off released)

theorem OffOutsidePress.safe (off : light.OffOutsidePress) : light.Safe := by
  intro sample seen inactive _
  refine off ?_
  rintro ⟨other, other_seen, active⟩
  obtain rfl := Option.some.inj (seen.symm.trans other_seen)
  exact inactive active

/-- In the runs that meet the condition the light is off outside every press. -/
theorem offOutsidePress_path (path : machine.Path RequestsInPress booted history light) :
    light.OffOutsidePress := by
  refine path.invariant (fun _ state => state.OffOutsidePress) ?_ ?_
  · exact fun _ => by simp [booted, LedPriorityState.init, LedPriorityState.selected]
  · intro history before action after off admitted step
    exact offOutsidePress_step off admitted step

theorem armed_path {admits : Machine.Assumption HoldLight HoldAction}
    (path : machine.Path admits booted history light) : light.Armed := by
  refine path.invariant (fun _ state => state.Armed) (by simp [booted, Armed]) ?_
  intro history before action after armed _ step
  exact armed_step armed step

/-- A request outside a press that is not outranked leaves the light on after its press. -/
theorem not_safe_of_request (armed : light.Armed) (running : light.running)
    (released : ¬ light.Pressed)
    (wins : ¬ light.led.Outranks .longPressHold LedPrio.longPressHold.value) {after : HoldLight}
    (step : machine.step light .ledRequest = some after) : ¬ after.Safe := by
  intro safe
  obtain ⟨-, rfl⟩ := Machine.guard_inv step
  obtain ⟨sample, seen⟩ := Option.ne_none_iff_exists'.mp (armed (.inr (.inr running)))
  refine safe sample seen ?_ (by simp) ((LedPriorityState.selected_request_iff rfl).mpr wins)
  exact fun active => released ⟨sample, seen, active⟩

/-- The light outlives no press of a run exactly if every request of the handler is made during a
press or loses to another pattern. -/
theorem light_safe_iff (history : List HoldAction) (light : HoldLight) :
    (machine.Path LeavesSafe booted history light ↔
      machine.Path RequestsInPress booted history light) ∧
    (machine.Path RequestsInPress booted history light → light.Safe) := by
  refine ⟨⟨?_, ?_⟩, fun path => (offOutsidePress_path path).safe⟩
  · intro path
    refine path.mono ?_
    rintro history before action after path safe step rfl
    by_contra breaks
    rw [not_or] at breaks
    obtain ⟨running, -⟩ := Machine.guard_inv step
    exact not_safe_of_request (armed_path path) running breaks.1 breaks.2 step (safe after step)
  · intro path
    refine path.mono ?_
    intro history before action after path admitted _ other step
    exact (offOutsidePress_step (offOutsidePress_path path) admitted step).safe

/-- A release between the start of the handler and its request leaves the light on. -/
theorem light_outlives_press :
    ¬ ∀ history light, machine.Path .any booted history light → light.Safe := by
  intro safe
  have executed : machine.execute .any [] booted [.isr ⟨0, 1⟩, .expire, .start, .isr ⟨3000, 0⟩,
      .ledRequest] = some _ := rfl
  exact safe _ _ (Machine.path_of_execute executed) ⟨3000, 0⟩ rfl (by simp) (by simp) rfl

end HoldLight

end PowerMeter
