import PowerMeter.Foundations.Trace
import PowerMeter.JoinIndication

/-!
# Painting the outcome of a join

`zboss_signal_handler` on the ZBOSS thread takes the flag that `zigbee_app_start_join` set on the
dispatch thread, and paints the outcome. The model takes the handler apart into the accesses other
threads can see, lets both threads and the other users of the LED interleave between any two of
them, and admits signals of any kind and status at any time. An access that calls the LED controller
says so, and its event in the trace is that call.
-/

namespace PowerMeter

open Guarded Trace

/-- The requests no one but `zboss_signal_handler` makes. -/
def LedCall.requestsOutcome : LedCall → Bool
  | .request pattern _ => pattern = .joinSuccess || pattern = .joinFail
  | .cancel _ => false

namespace JoinStatus

/-- What the switch of `zboss_signal_handler` stores in `joined`. -/
def storeJoined (join : JoinStatus) (signal : AppSignal) (status : ℤ) : JoinStatus :=
  match signal with
  | .bdbSignalSteering => { join with joined := status = retOk }
  | .bdbSignalDeviceReboot => if status = retOk then { join with joined := true } else join
  | .zdoSignalLeave => { join with joined := false }
  | .other => join

end JoinStatus

/-- `led_request` of the outcome. -/
def outcomeRequest (status : ℤ) : LedCall :=
  if status = retOk then .request .joinSuccess LedPrio.joinSuccess.value
  else .request .joinFail LedPrio.joinFail.value

/-- Where the ZBOSS thread is in `zboss_signal_handler`. -/
inductive HandlerPc
  | idle
  | entered (status : ℤ)
  | taken (status : ℤ)
  | cancelled (status : ℤ)
  | returning (signal : AppSignal) (status : ℤ)
  deriving DecidableEq

/-- The two threads and what they share. -/
structure JoinHandling where
  status : JoinStatus
  startJoin : StartJoinPc
  handler : HandlerPc
  deriving DecidableEq

/-- One access of `zigbee_app_start_join`, of `zboss_signal_handler`, of `factory_reset_cb`, or of
another user of the LED. -/
inductive JoinStep
  | setFlag
  | requestJoining
  | queueSteeringCb
  | signal (signal : AppSignal) (status : ℤ)
  | atomicCas (status : ℤ)
  | cancelJoining (status : ℤ)
  | requestOutcome (status : ℤ)
  | handlerReturn (signal : AppSignal) (status : ℤ)
  | factoryResetCb
  | otherLedCall (call : LedCall)

/-- Who calls the LED controller. -/
inductive LedCaller
  | zigbeeAppStartJoin
  | zbossSignalHandler
  | other
  deriving DecidableEq

/-- What an observer of the flag, of the handler and of the LED controller sees. -/
inductive JoinEvent
  | flagSet
  | handling (signal : AppSignal) (status : ℤ)
  | flagTaken
  | ledCalled (caller : LedCaller) (call : LedCall)
  | handled (signal : AppSignal) (status : ℤ) (joined : Bool)
  deriving DecidableEq

namespace JoinHandling

/-- No join and no signal yet. -/
def booted : JoinHandling where
  status := ⟨0, false, .init⟩
  startJoin := .idle
  handler := .idle

/-- Where the handler goes after `joined` has been stored. -/
def enter (signal : AppSignal) (status : ℤ) : HandlerPc :=
  match signal with
  | .bdbSignalSteering => .entered status
  | .bdbSignalDeviceReboot => .returning .bdbSignalDeviceReboot status
  | .zdoSignalLeave => .returning .zdoSignalLeave status
  | .other => .returning .other status

/-- `atomic_cas(&user_join_in_flight, 1, 0)`. -/
def atomicCas (handling : JoinHandling) (status : ℤ) : JoinHandling :=
  if handling.status.userJoinInFlight = 1 then
    { handling with
      status := { handling.status with userJoinInFlight := 0 }
      handler := .taken status }
  else { handling with handler := .returning .bdbSignalSteering status }

/-- The LED controller takes a call, if there is one. -/
def callLed (handling : JoinHandling) (called : Option (LedCaller × LedCall)) : JoinHandling :=
  called.elim handling fun (_, call) =>
    { handling with status := { handling.status with led := handling.status.led.call call } }

/-- What an access changes apart from the LED, and the call of the LED controller it makes. -/
def access (handling : JoinHandling) :
    JoinStep → Option (JoinHandling × Option (LedCaller × LedCall))
  | .setFlag =>
      if handling.startJoin = .idle then
        some
          ({ handling with
              status := { handling.status with userJoinInFlight := 1 }
              startJoin := .flagSet }, none)
      else none
  | .requestJoining =>
      if handling.startJoin = .flagSet then
        some ({ handling with startJoin := .requested },
          some (.zigbeeAppStartJoin, .request .joining LedPrio.joining.value))
      else none
  | .queueSteeringCb =>
      if handling.startJoin = .requested then some ({ handling with startJoin := .idle }, none)
      else none
  | .signal signal status =>
      if handling.handler = .idle then
        some
          ({ handling with
              status := handling.status.storeJoined signal status
              handler := enter signal status }, none)
      else none
  | .atomicCas status =>
      if handling.handler = .entered status then some (handling.atomicCas status, none) else none
  | .cancelJoining status =>
      if handling.handler = .taken status then
        some ({ handling with handler := .cancelled status },
          some (.zbossSignalHandler, .cancel .joining))
      else none
  | .requestOutcome status =>
      if handling.handler = .cancelled status then
        some ({ handling with handler := .returning .bdbSignalSteering status },
          some (.zbossSignalHandler, outcomeRequest status))
      else none
  | .handlerReturn signal status =>
      if handling.handler = .returning signal status then
        some ({ handling with handler := .idle }, none)
      else none
  | .factoryResetCb =>
      if handling.handler = .idle then
        some ({ handling with status := { handling.status with joined := false } }, none)
      else none
  | .otherLedCall call =>
      if call.requestsOutcome = false then some (handling, some (.other, call)) else none

/-- The two threads, one access at a time. -/
def machine : Machine JoinHandling JoinStep where
  step handling action := (handling.access action).map fun (after, called) => after.callLed called

/-- What the observer sees of the flag and of the handler. -/
def seen (handling : JoinHandling) : JoinStep → Option JoinEvent
  | .setFlag => some .flagSet
  | .signal signal status => some (.handling signal status)
  | .atomicCas _ => if handling.status.userJoinInFlight = 1 then some .flagTaken else none
  | .handlerReturn signal status => some (.handled signal status handling.status.joined)
  | .requestJoining | .queueSteeringCb | .cancelJoining _ | .requestOutcome _ | .factoryResetCb
  | .otherLedCall _ => none

/-- What the observer sees of a step: the call of the LED controller if the access makes one. -/
def observe (handling : JoinHandling) (action : JoinStep) : Option JoinEvent :=
  match (handling.access action).bind Prod.snd with
  | some (caller, call) => some (.ledCalled caller call)
  | none => handling.seen action

/-- The events of a run from boot. -/
def trace (history : List JoinStep) : List JoinEvent :=
  machine.observations observe booted history

/-- The accesses of the handler when nothing comes between them. -/
def handlerSteps (handling : JoinHandling) (signal : AppSignal) (status : ℤ) : List JoinStep :=
  .signal signal status ::
    (if signal = .bdbSignalSteering then
      .atomicCas status ::
        if handling.status.userJoinInFlight = 1 then
          [.cancelJoining status, .requestOutcome status]
        else []
    else []) ++ [.handlerReturn signal status]

/-- Taken together, the accesses of the handler are the handler. -/
theorem run_handlerSteps {handling : JoinHandling} (idle : handling.handler = .idle)
    (signal : AppSignal) (status : ℤ) :
    machine.run handling (handling.handlerSteps signal status) =
      some { handling with status := handling.status.zbossSignalHandler signal status } := by
  rcases handling with ⟨join, startJoin, handler⟩
  obtain rfl : handler = .idle := idle
  cases signal with
  | bdbSignalSteering =>
      by_cases inFlight : join.userJoinInFlight = 1
      · by_cases ok : status = retOk <;>
          simp [handlerSteps, inFlight, ok, Machine.run, machine, access, callLed, enter,
            JoinHandling.atomicCas, JoinStatus.storeJoined, JoinStatus.zbossSignalHandler,
            JoinStatus.paintOutcome, outcomeRequest, LedPriorityState.call]
      · simp [handlerSteps, inFlight, Machine.run, machine, access, callLed, enter,
          JoinHandling.atomicCas, JoinStatus.storeJoined, JoinStatus.zbossSignalHandler]
  | bdbSignalDeviceReboot | zdoSignalLeave | other =>
      simp [handlerSteps, Machine.run, machine, access, callLed, enter, JoinStatus.storeJoined,
        JoinStatus.zbossSignalHandler]

end JoinHandling

/-- Requests of an outcome. -/
def JoinEvent.isOutcome : JoinEvent → Bool
  | .ledCalled _ call => call.requestsOutcome
  | .flagSet | .handling _ _ | .flagTaken | .handled _ _ _ => false

namespace HandlerPc

/-- The flag has been taken and the outcome is still to be requested. -/
def painting : HandlerPc → Bool
  | .taken _ | .cancelled _ => true
  | .idle | .entered _ | .returning _ _ => false

end HandlerPc

namespace JoinHandling

section Steps

variable {trace : List JoinEvent} {before after : JoinHandling}

end Steps

/-- `zigbee_app_start_join` does not set the flag while an outcome is being painted: the dispatch
thread has the lowest application priority, and the handler does not wait between taking the flag
and requesting the outcome. -/
def Undivided : Machine.Assumption JoinHandling JoinStep := fun _ before action =>
  action = .setFlag → before.handler.painting = false

/-- Whole calls of the handler are undivided, wherever they come in a run. -/
theorem path_handlerSteps {history : List JoinStep} {handling : JoinHandling}
    (path : machine.Path Undivided booted history handling) (idle : handling.handler = .idle)
    (signal : AppSignal) (status : ℤ) :
    machine.Path Undivided booted (history ++ handling.handlerSteps signal status)
      { handling with status := handling.status.zbossSignalHandler signal status } := by
  refine path.append_run ?_ (run_handlerSteps idle signal status)
  rintro action member earlier before rfl
  rw [handlerSteps] at member
  split_ifs at member <;> simp at member

/-- A flag has been set after an outcome. -/
def SetAfter (_ : List JoinEvent) (event : JoinEvent) (after : List JoinEvent) : Prop :=
  event.isOutcome = true → .flagSet ∈ after

/-- Since every outcome the flag has been set again, before it was taken for the next one. -/
structure Separated (trace : List JoinEvent) (handling : JoinHandling) : Prop where
  cleared : handling.handler.painting = true → handling.status.userJoinInFlight ≠ 1
  setAgain : handling.status.userJoinInFlight = 1 ∨ handling.handler.painting = true →
    AtEvery SetAfter trace
  separated : AtEvery (fun earlier event _ => event.isOutcome = true → AtEvery SetAfter earlier)
    trace

section Separation

variable {trace : List JoinEvent} {before after : JoinHandling}

theorem setAfter_concat {event : JoinEvent} (setAgain : AtEvery SetAfter trace)
    (quiet : event.isOutcome = false) : AtEvery SetAfter (trace ++ [event]) := by
  refine atEvery_concat (setAgain.imp fun _ _ _ rule outcome => ?_) ?_
  · exact List.mem_append_left _ (rule outcome)
  · intro outcome
    exact absurd outcome (by rw [quiet]; exact Bool.false_ne_true)

/-- A step that requests no outcome and neither sets the flag nor takes one that is not there. -/
theorem Separated.quiet (separated : Separated trace before) {event : Option JoinEvent}
    (quiet : ∀ seen, event = some seen → seen.isOutcome = false)
    (cleared : after.handler.painting = true → after.status.userJoinInFlight ≠ 1)
    (earlier : after.status.userJoinInFlight = 1 ∨ after.handler.painting = true →
      before.status.userJoinInFlight = 1 ∨ before.handler.painting = true) :
    Separated (trace ++ event.toList) after := by
  cases event with
  | none =>
      rw [Option.toList_none, List.append_nil]
      exact ⟨cleared, fun now => separated.setAgain (earlier now), separated.separated⟩
  | some seen =>
      have unseen := quiet seen rfl
      refine ⟨cleared, fun now => ?_, atEvery_concat separated.separated fun outcome => ?_⟩
      · exact setAfter_concat (separated.setAgain (earlier now)) unseen
      · exact absurd outcome (by rw [unseen]; exact Bool.false_ne_true)

end Separation

end JoinHandling

end PowerMeter
