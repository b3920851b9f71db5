import PowerMeter.Foundations.Machine
import PowerMeter.LedArbitration

/-!
# The JOINING indication

`zigbee_app_start_join` runs on the dispatch thread in three steps: it sets `user_join_in_flight`,
requests the blink, and queues `start_steering_cb`. The ZBOSS thread runs that callback and
`zboss_signal_handler`, one at a time. Commissioning belongs to the stack: one procedure runs at a
time, steering ends in one STEERING signal, and the re-attach of a reboot in DEVICE_REBOOT.
-/

namespace PowerMeter

open Guarded

/-- `RET_OK`. -/
def retOk : ℤ := 0

/-- Signals `zboss_signal_handler` tells apart. -/
inductive AppSignal
  | bdbSignalSteering
  | bdbSignalDeviceReboot
  | zdoSignalLeave
  | other
  deriving DecidableEq

/-- What `zigbee_app.c` keeps about a join, and the LED arbiter. -/
structure JoinStatus where
  userJoinInFlight : ℤ
  joined : Bool
  led : LedPriorityState
  deriving DecidableEq

namespace JoinStatus

/-- The LED calls that paint the outcome of a user's join. -/
def paintOutcome (led : LedPriorityState) (status : ℤ) : LedPriorityState :=
  let led := led.cancel .joining
  if status = retOk then (led.request .joinSuccess LedPrio.joinSuccess.value).2
  else (led.request .joinFail LedPrio.joinFail.value).2

/-- `zboss_signal_handler`, without its logging and its poll intervals. -/
def zbossSignalHandler (join : JoinStatus) (signal : AppSignal) (status : ℤ) : JoinStatus :=
  match signal with
  | .bdbSignalSteering =>
      let join := { join with joined := status = retOk }
      if join.userJoinInFlight = 1 then
        { join with
          userJoinInFlight := 0
          led := paintOutcome join.led status }
      else join
  | .bdbSignalDeviceReboot => if status = retOk then { join with joined := true } else join
  | .zdoSignalLeave => { join with joined := false }
  | .other => join

end JoinStatus

/-- Where the dispatch thread is in `zigbee_app_start_join`. -/
inductive StartJoinPc
  | idle
  | flagSet
  | requested
  deriving DecidableEq

/-- A procedure the stack is running. -/
inductive Commissioning
  | steering
  | reattach
  deriving DecidableEq

/-- The dispatch thread, the ZBOSS thread with its queued callbacks, and the stack. -/
structure JoinSystem where
  status : JoinStatus
  pc : StartJoinPc
  queuedSteeringCbs : ℕ
  commissioning : Option Commissioning
  deriving DecidableEq

/-- One step of a party, or a call of another user of the LED. -/
inductive JoinAction
  | setFlag
  | requestJoining
  | queueSteeringCb
  | startSteeringCb
  | signal (signal : AppSignal) (status : ℤ)
  | stackSteering
  | otherLedCall (call : LedCall)

namespace JoinSystem

/-- No join yet; the stack may be busy from boot on. -/
def booted (commissioning : Option Commissioning) : JoinSystem where
  status := ⟨0, false, .init⟩
  pc := .idle
  queuedSteeringCbs := 0
  commissioning

/-- `bdb_start_top_level_commissioning`, which starts nothing while a procedure runs. -/
def bdbStartTopLevelCommissioning (running : Option Commissioning) :
    Bool × Option Commissioning :=
  match running with
  | none => (true, some .steering)
  | some procedure => (false, some procedure)

/-- The procedure a signal ends, if it is the end of one. -/
def ends : AppSignal → Option Commissioning
  | .bdbSignalSteering => some .steering
  | .bdbSignalDeviceReboot => some .reattach
  | .zdoSignalLeave => none
  | .other => none

/-- The parties of a join. -/
def machine : Machine JoinSystem JoinAction where
  step system
    | .setFlag =>
        if system.pc = .idle then
          some
            { system with
              pc := .flagSet
              status := { system.status with userJoinInFlight := 1 } }
        else none
    | .requestJoining =>
        if system.pc = .flagSet then
          some
            { system with
              pc := .requested
              status := { system.status with
                led := (system.status.led.request .joining LedPrio.joining.value).2 } }
        else none
    | .queueSteeringCb =>
        if system.pc = .requested then
          some
            { system with
              pc := .idle
              queuedSteeringCbs := system.queuedSteeringCbs + 1 }
        else none
    | .startSteeringCb =>
        if 0 < system.queuedSteeringCbs then
          some
            { system with
              queuedSteeringCbs := system.queuedSteeringCbs - 1
              commissioning := (bdbStartTopLevelCommissioning system.commissioning).2 }
        else none
    | .signal signal status =>
        let handled := { system with status := system.status.zbossSignalHandler signal status }
        match ends signal with
        | none => some handled
        | some procedure =>
            if system.commissioning = some procedure then
              some { handled with commissioning := none }
            else none
    | .stackSteering =>
        if system.commissioning = none then some { system with commissioning := some .steering }
        else none
    | .otherLedCall call =>
        if call.pattern ≠ .joining then
          some { system with status := { system.status with led := system.status.led.call call } }
        else none

/-- A blink outside `zigbee_app_start_join` has its flag set, and a STEERING signal ahead. -/
def Safe (system : JoinSystem) : Prop :=
  system.pc = .idle → system.status.led.selected = .joining →
    system.status.userJoinInFlight = 1 ∧
      (0 < system.queuedSteeringCbs ∨ system.commissioning = some .steering)

/-- The blink is requested while the flag is still set, or loses; and the last queued callback does
not fall into a re-attach with the blink on. -/
def Undisturbed : Machine.Assumption JoinSystem JoinAction := fun _ before action =>
  (action = .requestJoining → before.status.userJoinInFlight = 1 ∨
    before.status.led.Outranks .joining LedPrio.joining.value) ∧
  (action = .startSteeringCb → before.commissioning = some .reattach →
    before.queuedSteeringCbs = 1 → before.pc = .idle → before.status.led.selected ≠ .joining)

end JoinSystem

namespace JoinStatus

theorem selected_paintOutcome (led : LedPriorityState) (status : ℤ) :
    (paintOutcome led status).selected ≠ .joining := by
  have joining_ne : LedPatternId.joining ≠ .none := by simp
  have cancelled := LedPriorityState.selected_cancel_ne joining_ne led
  rw [paintOutcome]
  split
  · exact LedPriorityState.selected_request_ne joining_ne (by simp) cancelled
  · exact LedPriorityState.selected_request_ne joining_ne (by simp) cancelled

/-- A signal either leaves the flag and the LED alone or ends the blink of a STEERING. -/
theorem zbossSignalHandler_cases (join : JoinStatus) (signal : AppSignal) (status : ℤ) :
    ((join.zbossSignalHandler signal status).userJoinInFlight = join.userJoinInFlight ∧
      (join.zbossSignalHandler signal status).led = join.led ∧
      (signal = .bdbSignalSteering → join.userJoinInFlight ≠ 1)) ∨
    (signal = .bdbSignalSteering ∧
      (join.zbossSignalHandler signal status).led.selected ≠ .joining) := by
  cases signal with
  | bdbSignalSteering =>
      by_cases inFlight : join.userJoinInFlight = 1
      · refine .inr ⟨rfl, ?_⟩
        simp only [zbossSignalHandler, inFlight, if_true]
        exact selected_paintOutcome join.led status
      · refine .inl ?_
        simp [zbossSignalHandler, inFlight]
  | bdbSignalDeviceReboot =>
      refine .inl ?_
      by_cases ok : status = retOk <;> simp [zbossSignalHandler, ok]
  | zdoSignalLeave => exact .inl ⟨rfl, rfl, by simp⟩
  | other => exact .inl ⟨rfl, rfl, by simp⟩

end JoinStatus

namespace JoinSystem

variable {before after system : JoinSystem} {history : List JoinAction}

/-- What a signal step does besides the handler. -/
theorem signal_inv {signal : AppSignal} {status : ℤ}
    (step : machine.step before (.signal signal status) = some after) :
    after.status = before.status.zbossSignalHandler signal status ∧ after.pc = before.pc ∧
      after.queuedSteeringCbs = before.queuedSteeringCbs ∧
      (after.commissioning = before.commissioning ∨
        before.commissioning = ends signal ∧ after.commissioning = none) := by
  simp only [machine] at step
  split at step
  next none_ended =>
    obtain rfl := Option.some.inj step
    exact ⟨rfl, rfl, rfl, .inl rfl⟩
  next procedure ended =>
    obtain ⟨running, rfl⟩ := Machine.guard_inv step
    exact ⟨rfl, rfl, rfl, .inr ⟨running.trans ended.symm, rfl⟩⟩

/-- A blink has its flag set, and a STEERING signal ahead or a callback still to be queued. -/
def Answered (system : JoinSystem) : Prop :=
  system.status.led.selected = .joining →
    system.status.userJoinInFlight = 1 ∧
      (0 < system.queuedSteeringCbs ∨ system.commissioning = some .steering ∨ system.pc ≠ .idle)

theorem answered_booted (commissioning : Option Commissioning) :
    (booted commissioning).Answered := by
  intro blinking
  simp [booted, LedPriorityState.init, LedPriorityState.selected] at blinking

/-- A signal other than the end of steering keeps what lies ahead. -/
theorem answered_signal {signal : AppSignal} {status : ℤ} (answered : before.Answered)
    (step : machine.step before (.signal signal status) = some after) : after.Answered := by
  obtain ⟨status_eq, pc_eq, queued_eq, commissioning⟩ := signal_inv step
  intro blinking
  rw [status_eq] at blinking ⊢
  rcases before.status.zbossSignalHandler_cases signal status with
    ⟨flag_eq, led_eq, silent⟩ | ⟨-, ended⟩
  · rw [led_eq] at blinking
    obtain ⟨flag, ahead⟩ := answered blinking
    rw [flag_eq, pc_eq, queued_eq]
    refine ⟨flag, ?_⟩
    rcases commissioning with kept | ⟨running, -⟩
    · rwa [kept]
    · rcases ahead with queued | steering | midway
      · exact .inl queued
      · have steered : signal = .bdbSignalSteering := by
          rw [steering] at running
          cases signal <;> simp_all [ends]
        exact absurd flag (silent steered)
      · exact .inr (.inr midway)
  · exact absurd blinking ended

/-- The callback finds no procedure, the steering it was going to start, or the re-attach. -/
theorem answered_startSteeringCb (answered : before.Answered)
    (admitted : Undisturbed history before .startSteeringCb)
    (step : machine.step before .startSteeringCb = some after) : after.Answered := by
  obtain ⟨queued, rfl⟩ := Machine.guard_inv step
  intro blinking
  obtain ⟨flag, ahead⟩ := answered blinking
  refine ⟨flag, ?_⟩
  cases running : before.commissioning with
  | none => exact .inr (.inl rfl)
  | some procedure =>
      cases procedure with
      | steering => exact .inr (.inl rfl)
      | reattach =>
          by_cases last : before.queuedSteeringCbs = 1
          · refine .inr (.inr fun idle => ?_)
            exact admitted.2 rfl running last idle blinking
          · refine .inl ?_
            show 0 < before.queuedSteeringCbs - 1
            omega

theorem answered_step {action : JoinAction} (answered : before.Answered)
    (admitted : Undisturbed history before action)
    (step : machine.step before action = some after) : after.Answered := by
  cases action with
  | setFlag =>
      obtain ⟨-, rfl⟩ := Machine.guard_inv step
      exact fun _ => ⟨rfl, .inr (.inr (by simp))⟩
  | requestJoining =>
      obtain ⟨-, rfl⟩ := Machine.guard_inv step
      intro blinking
      rcases admitted.1 rfl with flag | outranked
      · exact ⟨flag, .inr (.inr (by simp))⟩
      · exact absurd outranked ((LedPriorityState.selected_request_iff rfl).mp blinking)
  | queueSteeringCb =>
      obtain ⟨-, rfl⟩ := Machine.guard_inv step
      intro blinking
      exact ⟨(answered blinking).1, .inl (Nat.succ_pos _)⟩
  | startSteeringCb => exact answered_startSteeringCb answered admitted step
  | signal signal status => exact answered_signal answered step
  | stackSteering =>
      obtain ⟨-, rfl⟩ := Machine.guard_inv step
      exact fun blinking => ⟨(answered blinking).1, .inr (.inl rfl)⟩
  | otherLedCall call =>
      obtain ⟨other, rfl⟩ := Machine.guard_inv step
      intro blinking
      by_cases earlier : before.status.led.selected = .joining
      · exact answered earlier
      · exact absurd blinking (LedPriorityState.selected_call_ne (by simp) other earlier)

theorem answered_path {commissioning : Option Commissioning}
    (path : machine.Path Undisturbed (booted commissioning) history system) :
    system.Answered := by
  refine path.invariant (fun _ state => state.Answered) (answered_booted commissioning) ?_
  intro history before action after answered admitted step
  exact answered_step answered admitted step

/-- A disturbed step leaves a blink that no signal is going to end, at the latest when the call of
`zigbee_app_start_join` returns. -/
theorem not_safe_of_disturbed {action : JoinAction}
    (disturbed : ¬ Undisturbed history before action)
    (step : machine.step before action = some after) :
    ¬ after.Safe ∨
      ∃ final, machine.step after .queueSteeringCb = some final ∧ ¬ final.Safe := by
  rw [Undisturbed, not_and_or] at disturbed
  rcases disturbed with unflagged | stranded
  · rw [Classical.not_imp, not_or] at unflagged
    obtain ⟨rfl, unset, wins⟩ := unflagged
    obtain ⟨-, rfl⟩ := Machine.guard_inv step
    refine .inr ⟨_, rfl, ?_⟩
    intro safe
    exact unset (safe rfl ((LedPriorityState.selected_request_iff rfl).mpr wins)).1
  · simp only [Classical.not_imp, not_not] at stranded
    obtain ⟨rfl, running, last, idle, blinking⟩ := stranded
    obtain ⟨-, rfl⟩ := Machine.guard_inv step
    refine .inl fun safe => ?_
    obtain ⟨-, queued | steering⟩ := safe idle blinking
    · simp [last] at queued
    · simp [running, bdbStartTopLevelCommissioning] at steering

/-- The blink never outlives its join while every request for it finds the flag set and no last
callback falls into a re-attach; and each step that breaks this leaves a blink behind. -/
theorem blink_answered (commissioning : Option Commissioning) :
    (∀ history system, machine.Path Undisturbed (booted commissioning) history system →
      system.Safe) ∧
    ∀ history before action after, machine.Path .any (booted commissioning) history before →
      machine.step before action = some after → ¬ Undisturbed history before action →
      ¬ after.Safe ∨
        ∃ final, machine.step after .queueSteeringCb = some final ∧ ¬ final.Safe := by
  refine ⟨?_, ?_⟩
  · intro history system path idle blinking
    obtain ⟨flag, queued | steering | midway⟩ := answered_path path blinking
    · exact ⟨flag, .inl queued⟩
    · exact ⟨flag, .inr steering⟩
    · exact absurd idle midway
  · intro history before action after _ step disturbed
    exact not_safe_of_disturbed disturbed step

/-- A join pressed during the re-attach of a reboot blinks on with nothing to end it. -/
theorem blink_outlives_rejected_join :
    ¬ ∀ commissioning history system, machine.Path .any (booted commissioning) history system →
      system.Safe := by
  intro safe
  have executed : machine.execute .any [] (booted (some .reattach))
      [.setFlag, .requestJoining, .queueSteeringCb, .startSteeringCb] = some _ := rfl
  have answered := safe _ _ _ (Machine.path_of_execute executed) rfl rfl
  simp [booted, bdbStartTopLevelCommissioning] at answered

end JoinSystem

end PowerMeter
