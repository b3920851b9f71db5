import PowerMeter.ButtonDispatch
import PowerMeter.Foundations.Projection
import PowerMeter.Foundations.Settling
import PowerMeter.PollControl

/-!
# From a press of the button to the stack

The interrupt handler, `button_dispatch_thread` and the ZBOSS thread as one system. The dispatch
thread routes a duration by the join state it reads, then makes the calls of the action one after
the other; `ZB_SCHEDULE_APP_CALLBACK` puts a callback at the end of a queue that the ZBOSS thread
works through between the signals of the stack. The code does not look at the result of
`ZB_SCHEDULE_APP_CALLBACK`; the model takes every callback to be accepted. Every call is one atomic
step. Of what the parties share only `joined` matters to a request; the LED and the flag of a user's
join have modules of their own.
-/

namespace PowerMeter

open Guarded

/-- Callbacks that run on the ZBOSS thread on behalf of the button. -/
inductive AppCallback
  | startSteeringCb
  | factoryResetCb
  | wakeTurboPollCb
  deriving DecidableEq

/-- Calls of the dispatch thread, those of the `zigbee_app` functions it enters among them. -/
inductive RequestCall
  | ledRequest (pattern : LedPatternId) (prio : LedPrio)
  /-- `k_sleep(K_MSEC(100))`. -/
  | settle
  /-- `atomic_set(&user_join_in_flight, 1)`. -/
  | setUserJoinInFlight
  /-- The checks at the head of `zigbee_app_wake_for_write`. -/
  | wakeForWrite
  | scheduleAppCallback (callback : AppCallback)
  deriving DecidableEq

/-- The calls of a case of `button_dispatch_thread`. -/
def requestCalls : ButtonAction → List RequestCall
  | .join =>
      [.ledRequest .buttonAck .buttonAck, .settle, .setUserJoinInFlight,
        .ledRequest .joining .joining, .scheduleAppCallback .startSteeringCb]
  | .wake => [.ledRequest .buttonAck .buttonAck, .wakeForWrite]
  | .factoryReset =>
      [.scheduleAppCallback .factoryResetCb, .ledRequest .eraseConfirm .eraseConfirm]
  | .none => []

/-- What `zigbee_app_wake_for_write` still calls after its checks. -/
def wakeForWriteCalls (config : PollConfig) (joined : Bool) : List RequestCall :=
  if !config.sleepyEd then []
  else if !joined then []
  else [.scheduleAppCallback .wakeTurboPollCb]

/-- The three parties, the queue between them, and what they have done so far. -/
structure ButtonSession where
  dispatch : ButtonDispatch
  joined : Bool
  polling : SleepyPolling
  /-- Calls the dispatch thread still has to make for the action it took. -/
  calls : List RequestCall
  callbacks : List AppCallback
  acted : List ButtonAction
  ran : List AppCallback
  ignoredWakes : ℕ

/-- A step of the handler, of the dispatch thread, of the ZBOSS thread, or of the stack. -/
inductive SessionStep
  | isr (sample : ButtonSample)
  | isrEffect
  | take
  | get
  | act (joined : Bool)
  | call (call : RequestCall)
  | callback (callback : AppCallback)
  | signal (signal : AppSignal) (status : ℤ)
  /-- The stack rewrites the attributes, on a command of the coordinator or from its NVRAM. -/
  | stackAttributes (attrs : PollControlAttrs)
  | stackLongPollInterval (ms : UInt32)

namespace ButtonSession

/-- After `zigbee_app_init`, with the interval the PIM starts from. -/
def booted (config : PollConfig) (zboss : ZbossPolling) (longPollIntervalMs : UInt32) :
    ButtonSession where
  dispatch := .init
  joined := false
  polling := ⟨pollControlAttrsInit config zboss, longPollIntervalMs, []⟩
  calls := []
  callbacks := []
  acted := []
  ran := []
  ignoredWakes := 0

/-- Let the handler or the dispatch thread take a step. -/
def dispatchStep (session : ButtonSession) (step : DispatchStep) : Option ButtonSession :=
  (session.dispatch.step step).map fun dispatch => { session with dispatch := dispatch }

/-- Make one call of the dispatch thread. -/
def perform (config : PollConfig) (session : ButtonSession) : RequestCall → Option ButtonSession
  | .ledRequest _ _ | .setUserJoinInFlight => some session
  | .settle => session.dispatchStep .startJoin
  | .wakeForWrite =>
      let calls := wakeForWriteCalls config session.joined
      some { session with
        calls := calls
        ignoredWakes := session.ignoredWakes + if calls = [] then 1 else 0 }
  | .scheduleAppCallback callback =>
      some { session with callbacks := session.callbacks ++ [callback] }

/-- Run a callback on the ZBOSS thread. -/
def runCallback (config : PollConfig) (session : ButtonSession) (callback : AppCallback) :
    ButtonSession :=
  let session := { session with ran := session.ran ++ [callback] }
  match callback with
  | .startSteeringCb => session
  | .factoryResetCb => { session with joined := false }
  | .wakeTurboPollCb => { session with polling := session.polling.wakeTurboPollCb config }

/-- The handler, the dispatch thread, the ZBOSS thread and the stack. -/
def machine (config : PollConfig) (zboss : ZbossPolling) : Machine ButtonSession SessionStep where
  step session
    | .isr sample => session.dispatchStep (.isr sample)
    | .isrEffect => session.dispatchStep .isrEffect
    | .take => if session.calls = [] then session.dispatchStep .take else none
    | .get => session.dispatchStep .get
    | .act joined =>
        match session.dispatch.pc with
        | .fetched duration =>
            if joined = session.joined then
              let action := dispatchedAction duration joined
              (session.dispatchStep (.act joined)).map fun session =>
                { session with
                  calls := requestCalls action
                  acted := session.acted ++ [action] }
            else none
        | _ => none
    | .call call =>
        match session.calls with
        | next :: calls =>
            if call = next then perform config { session with calls := calls } call else none
        | [] => none
    | .callback callback =>
        match session.callbacks with
        | next :: callbacks =>
            if callback = next then
              some (runCallback config { session with callbacks := callbacks } callback)
            else none
        | [] => none
    | .signal signal status =>
        some { session with
          joined := joinedAfterSignal session.joined signal status
          polling := session.polling.signal config zboss signal status }
    | .stackAttributes attrs =>
        some { session with polling := { session.polling with attrs := attrs } }
    | .stackLongPollInterval ms =>
        some { session with polling := { session.polling with longPollIntervalMs := ms } }

/-- The callback a call schedules. -/
def schedules : RequestCall → Option AppCallback
  | .scheduleAppCallback callback => some callback
  | .ledRequest _ _ | .settle | .setUserJoinInFlight | .wakeForWrite => none

/-- The callbacks that ran, that are queued and that are about to be scheduled, in order. -/
def requested (session : ButtonSession) : List AppCallback :=
  session.ran ++ session.callbacks ++ session.calls.filterMap schedules

/-- The callback an action asks for unconditionally. -/
def callbackOf : ButtonAction → Option AppCallback
  | .join => some .startSteeringCb
  | .factoryReset => some .factoryResetCb
  | .wake | .none => none

/-- The kind of a press of the duration. -/
def pressKind (duration : ℤ) : ButtonPressKind :=
  buttonClassifier.classify (UInt32.ofInt duration)

/-- The action is what the thread makes of the duration, by some join state. -/
def Routes (duration : ℤ) (action : ButtonAction) : Prop :=
  ∃ joined, action = dispatchedAction duration joined

/-- Where the dispatch thread is when it still has the calls to make. -/
inductive Requesting : List RequestCall → DispatchPc → Prop
  | none {pc : DispatchPc} : pc ≠ .joinDelay → Requesting [] pc
  | joinAck : Requesting (requestCalls .join) .joinDelay
  | joinSettle :
      Requesting
        [.settle, .setUserJoinInFlight, .ledRequest .joining .joining,
          .scheduleAppCallback .startSteeringCb] .joinDelay
  | joinFlag :
      Requesting
        [.setUserJoinInFlight, .ledRequest .joining .joining,
          .scheduleAppCallback .startSteeringCb] .waiting
  | joinBlink :
      Requesting [.ledRequest .joining .joining, .scheduleAppCallback .startSteeringCb] .waiting
  | joinSchedule : Requesting [.scheduleAppCallback .startSteeringCb] .waiting
  | wakeAck : Requesting (requestCalls .wake) .waiting
  | wakeCheck : Requesting [.wakeForWrite] .waiting
  | wakeSchedule : Requesting [.scheduleAppCallback .wakeTurboPollCb] .waiting
  | resetSchedule : Requesting (requestCalls .factoryReset) .waiting
  | resetConfirm : Requesting [.ledRequest .eraseConfirm .eraseConfirm] .waiting

/-- What holds of every session: presses and the callbacks they ask for are accounted for. -/
structure Accounted (session : ButtonSession) : Prop where
  requesting : Requesting session.calls session.dispatch.pc
  /-- Joins and resets are requested in the order of the presses. -/
  inOrder :
    session.requested.filter (· ≠ .wakeTurboPollCb) = session.acted.filterMap callbackOf
  /-- A wake is requested, ignored or not decided yet. -/
  wakes :
    session.requested.count .wakeTurboPollCb + session.ignoredWakes +
      session.calls.count .wakeForWrite = session.acted.count .wake
  routed : List.Forall₂ Routes session.dispatch.handled session.acted

section Steps

variable {config : PollConfig} {zboss : ZbossPolling} {before after : ButtonSession}

theorem dispatchStep_inv {step : DispatchStep}
    (stepped : before.dispatchStep step = some after) :
    ∃ dispatch, before.dispatch.step step = some dispatch ∧
      after = { before with dispatch := dispatch } := by
  obtain ⟨dispatch, dispatch_step, rfl⟩ := Option.map_eq_some_iff.mp stepped
  exact ⟨dispatch, dispatch_step, rfl⟩

theorem dispatchStep_of_step {step : DispatchStep} {dispatch : ButtonDispatch}
    (stepped : before.dispatch.step step = some dispatch) :
    before.dispatchStep step = some { before with dispatch := dispatch } := by
  rw [dispatchStep, stepped, Option.map_some]

theorem act_inv {joined : Bool}
    (step : (machine config zboss).step before (.act joined) = some after) :
    ∃ duration, before.dispatch.pc = .fetched duration ∧ joined = before.joined ∧
      after = { before with
        dispatch := { before.dispatch with
          pc := ButtonDispatch.pcAfterAction (dispatchedAction duration joined)
          handled := before.dispatch.handled ++ [duration] }
        calls := requestCalls (dispatchedAction duration joined)
        acted := before.acted ++ [dispatchedAction duration joined] } := by
  simp only [machine] at step
  split at step
  next duration fetched =>
    split at step
    next read =>
      obtain ⟨middle, dispatched, rfl⟩ := Option.map_eq_some_iff.mp step
      obtain ⟨dispatch, dispatch_step, rfl⟩ := dispatchStep_inv dispatched
      simp only [ButtonDispatch.step, fetched, Option.some.injEq] at dispatch_step
      exact ⟨duration, fetched, read, by rw [← dispatch_step]⟩
    next => simp at step
  next => simp at step

theorem call_inv {call : RequestCall}
    (step : (machine config zboss).step before (.call call) = some after) :
    ∃ calls, before.calls = call :: calls ∧
      perform config { before with calls := calls } call = some after := by
  simp only [machine] at step
  split at step
  next next_call calls calls_eq =>
    split at step
    next same => exact ⟨calls, by rw [calls_eq, same], step⟩
    next => simp at step
  next => simp at step

theorem callback_inv {callback : AppCallback}
    (step : (machine config zboss).step before (.callback callback) = some after) :
    ∃ callbacks, before.callbacks = callback :: callbacks ∧
      after = runCallback config { before with callbacks := callbacks } callback := by
  simp only [machine] at step
  split at step
  next next_callback callbacks callbacks_eq =>
    split at step
    next same =>
      exact ⟨callbacks, by rw [callbacks_eq, same], (Option.some.inj step).symm⟩
    next => simp at step
  next => simp at step

/-- A running callback moves from the queue to those that ran. -/
theorem requested_runCallback (config : PollConfig) {callback : AppCallback}
    {callbacks : List AppCallback}
    (queued : before.callbacks = callback :: callbacks) :
    (runCallback config { before with callbacks := callbacks } callback).requested =
      before.requested := by
  cases callback <;> simp [runCallback, requested, queued]

theorem filterMap_schedules_requestCalls (action : ButtonAction) :
    (requestCalls action).filterMap schedules = (callbackOf action).toList := by
  cases action <;> rfl

theorem dispatchedAction_eq (duration : ℤ) (joined : Bool) :
    dispatchedAction duration joined = buttonActionForPress (pressKind duration) joined := rfl

/-- The thread has no call to make between taking the semaphore and acting. -/
theorem Requesting.calls_eq_nil {calls : List RequestCall} {pc : DispatchPc}
    (requesting : Requesting calls pc) (busy : pc ≠ .waiting) (undelayed : pc ≠ .joinDelay) :
    calls = [] := by
  cases requesting with
  | none => rfl
  | joinAck | joinSettle => exact absurd rfl undelayed
  | _ => exact absurd rfl busy

theorem requesting_requestCalls (action : ButtonAction) :
    Requesting (requestCalls action) (ButtonDispatch.pcAfterAction action) := by
  cases action with
  | none => exact .none (by simp [ButtonDispatch.pcAfterAction])
  | join => exact .joinAck
  | wake => exact .wakeAck
  | factoryReset => exact .resetSchedule

/-- What is accounted for depends on these fields only. -/
private theorem Accounted.of_same (accounted : before.Accounted)
    (calls : after.calls = before.calls) (callbacks : after.callbacks = before.callbacks)
    (acted : after.acted = before.acted) (ran : after.ran = before.ran)
    (ignored : after.ignoredWakes = before.ignoredWakes)
    (handled : after.dispatch.handled = before.dispatch.handled)
    (requesting : Requesting after.calls after.dispatch.pc) : after.Accounted := by
  have requested_eq : after.requested = before.requested := by
    rw [requested, requested, ran, callbacks, calls]
  constructor
  · exact requesting
  · rw [requested_eq, acted]
    exact accounted.inOrder
  · rw [requested_eq, acted, ignored, calls]
    exact accounted.wakes
  · rw [acted, handled]
    exact accounted.routed

private theorem accounted_act {joined : Bool} (accounted : before.Accounted)
    (step : (machine config zboss).step before (.act joined) = some after) :
    after.Accounted := by
  obtain ⟨duration, fetched, -, rfl⟩ := act_inv step
  have calls_eq : before.calls = [] := by
    have requesting := accounted.requesting
    rw [fetched] at requesting
    exact requesting.calls_eq_nil (by simp) (by simp)
  obtain ⟨-, inOrder, wakes, routed⟩ := accounted
  constructor
  · exact requesting_requestCalls _
  · simp only [requested, filterMap_schedules_requestCalls]
    simp only [requested, calls_eq, List.filterMap_nil, List.append_nil] at inOrder
    rw [List.filter_append, inOrder, List.filterMap_append]
    generalize dispatchedAction duration joined = action
    cases action <;> rfl
  · simp only [requested, filterMap_schedules_requestCalls]
    simp only [requested, calls_eq, List.filterMap_nil, List.append_nil, List.count_nil] at wakes
    simp only [List.count_append] at wakes ⊢
    generalize dispatchedAction duration joined = action
    cases action <;> simp [callbackOf, requestCalls] <;> omega
  · exact List.rel_append routed (.cons ⟨joined, rfl⟩ .nil)

/-- A call that schedules nothing and decides nothing keeps the accounts. -/
private theorem Accounted.drop {call : RequestCall} {calls : List RequestCall} {pc : DispatchPc}
    (accounted : before.Accounted) (calls_eq : before.calls = call :: calls)
    (silent : schedules call = none) (decided : call ≠ .wakeForWrite)
    (requesting : Requesting calls pc) :
    Accounted { before with
      calls := calls
      dispatch := { before.dispatch with pc := pc } } := by
  obtain ⟨-, inOrder, wakes, routed⟩ := accounted
  simp only [requested, calls_eq, List.filterMap_cons_none silent] at inOrder wakes
  rw [List.count_cons_of_ne decided] at wakes
  exact ⟨requesting, inOrder, wakes, routed⟩

/-- A scheduled callback moves from the calls to the queue. -/
private theorem Accounted.schedule {callback : AppCallback} {calls : List RequestCall}
    (accounted : before.Accounted)
    (calls_eq : before.calls = .scheduleAppCallback callback :: calls)
    (requesting : Requesting calls before.dispatch.pc) :
    Accounted { before with
      calls := calls
      callbacks := before.callbacks ++ [callback] } := by
  obtain ⟨-, inOrder, wakes, routed⟩ := accounted
  have requested_eq : requested { before with
      calls := calls
      callbacks := before.callbacks ++ [callback] } = before.requested := by
    simp [requested, calls_eq, schedules]
  refine ⟨requesting, by rw [requested_eq]; exact inOrder, ?_, routed⟩
  rw [requested_eq, ← wakes, calls_eq]
  simp

theorem wakeForWriteCalls_cases (config : PollConfig) (joined : Bool) :
    wakeForWriteCalls config joined = [] ∨
      wakeForWriteCalls config joined = [.scheduleAppCallback .wakeTurboPollCb] ∧
        joined = true := by
  cases joined <;> cases sleepy : config.sleepyEd <;> simp [wakeForWriteCalls, sleepy]

/-- The checks of a wake decide it one way or the other. -/
private theorem Accounted.decide (accounted : before.Accounted)
    (calls_eq : before.calls = [.wakeForWrite]) (waiting : before.dispatch.pc = .waiting)
    (performed : perform config { before with calls := [] } .wakeForWrite = some after) :
    after.Accounted := by
  obtain rfl := Option.some.inj performed
  obtain ⟨-, inOrder, wakes, routed⟩ := accounted
  have undecided : [RequestCall.wakeForWrite].filterMap schedules = [] := rfl
  simp only [requested, calls_eq, undecided] at inOrder wakes
  rcases wakeForWriteCalls_cases config before.joined with ignored | ⟨kept, -⟩
  · refine ⟨?_, ?_, ?_, routed⟩
    · simp only [ignored, waiting]
      exact .none (by simp)
    · simpa [requested, ignored] using inOrder
    · simp only [requested, ignored]
      simp at wakes ⊢
      omega
  · refine ⟨?_, ?_, ?_, routed⟩
    · simp only [kept, waiting]
      exact .wakeSchedule
    · simpa [requested, kept, schedules] using inOrder
    · simp only [requested, kept]
      simp [schedules] at wakes ⊢
      omega

private theorem accounted_call {call : RequestCall} (accounted : before.Accounted)
    (step : (machine config zboss).step before (.call call) = some after) :
    after.Accounted := by
  obtain ⟨calls, calls_eq, performed⟩ := call_inv step
  have requesting := accounted.requesting
  rw [calls_eq] at requesting
  generalize pc_eq : before.dispatch.pc = pc at requesting
  cases requesting with
  | joinAck =>
      obtain rfl := Option.some.inj performed
      exact accounted.drop calls_eq rfl (by simp) (pc_eq ▸ .joinSettle)
  | joinSettle =>
      obtain ⟨dispatch, dispatch_step, rfl⟩ := dispatchStep_inv performed
      obtain ⟨-, rfl⟩ := Machine.guard_inv dispatch_step
      exact accounted.drop calls_eq rfl (by simp) .joinFlag
  | joinFlag =>
      obtain rfl := Option.some.inj performed
      exact accounted.drop calls_eq rfl (by simp) (pc_eq ▸ .joinBlink)
  | joinBlink =>
      obtain rfl := Option.some.inj performed
      exact accounted.drop calls_eq rfl (by simp) (pc_eq ▸ .joinSchedule)
  | joinSchedule | wakeSchedule =>
      obtain rfl := Option.some.inj performed
      exact accounted.schedule calls_eq (pc_eq ▸ .none (by simp))
  | wakeAck =>
      obtain rfl := Option.some.inj performed
      exact accounted.drop calls_eq rfl (by simp) (pc_eq ▸ .wakeCheck)
  | wakeCheck => exact accounted.decide calls_eq pc_eq performed
  | resetSchedule =>
      obtain rfl := Option.some.inj performed
      exact accounted.schedule calls_eq (pc_eq ▸ .resetConfirm)
  | resetConfirm =>
      obtain rfl := Option.some.inj performed
      exact accounted.drop calls_eq rfl (by simp) (pc_eq ▸ .none (by simp))

private theorem accounted_callback {callback : AppCallback} (accounted : before.Accounted)
    (step : (machine config zboss).step before (.callback callback) = some after) :
    after.Accounted := by
  obtain ⟨callbacks, queued, rfl⟩ := callback_inv step
  have requested_eq := requested_runCallback config queued
  obtain ⟨requesting, inOrder, wakes, routed⟩ := accounted
  rw [← requested_eq] at inOrder wakes
  cases callback <;> exact ⟨requesting, inOrder, wakes, routed⟩

theorem isrEffect_inv (stepped : before.dispatchStep .isrEffect = some after) :
    ∃ effect rest, before.dispatch.pendingIsr = effect :: rest ∧
      after = { before with
        dispatch :=
          ButtonDispatch.perform { before.dispatch with pendingIsr := rest } effect } := by
  obtain ⟨dispatch, dispatch_step, rfl⟩ := dispatchStep_inv stepped
  simp only [ButtonDispatch.step] at dispatch_step
  split at dispatch_step
  next => simp at dispatch_step
  next effect rest pending_eq =>
    exact ⟨effect, rest, pending_eq, by rw [← Option.some.inj dispatch_step]⟩

theorem perform_keeps (dispatch : ButtonDispatch) (effect : IsrEffect) :
    (dispatch.perform effect).pc = dispatch.pc ∧
      (dispatch.perform effect).handled = dispatch.handled ∧
      (dispatch.perform effect).pendingIsr = dispatch.pendingIsr := by
  cases effect <;> exact ⟨rfl, rfl, rfl⟩

theorem take_inv (step : (machine config zboss).step before .take = some after) :
    before.calls = [] ∧ before.dispatch.pc = .waiting ∧ 0 < before.dispatch.releaseSem ∧
      after = { before with
        dispatch := { before.dispatch with
          releaseSem := before.dispatch.releaseSem - 1
          pc := .taken } } := by
  simp only [machine] at step
  split at step
  next calls_eq =>
    obtain ⟨dispatch, dispatch_step, rfl⟩ := dispatchStep_inv step
    obtain ⟨⟨waiting, given⟩, rfl⟩ := Machine.guard_inv dispatch_step
    exact ⟨calls_eq, waiting, given, rfl⟩
  next => simp at step

theorem get_inv (step : (machine config zboss).step before .get = some after) :
    before.dispatch.pc = .taken ∧
      after = { before with
        dispatch := { before.dispatch with pc := .fetched before.dispatch.durationMs } } := by
  obtain ⟨dispatch, dispatch_step, rfl⟩ := dispatchStep_inv step
  obtain ⟨taken, rfl⟩ := Machine.guard_inv dispatch_step
  exact ⟨taken, rfl⟩

/-- Every step keeps the accounts. -/
theorem accounted_step {action : SessionStep} (accounted : before.Accounted)
    (step : (machine config zboss).step before action = some after) : after.Accounted := by
  cases action with
  | isr sample =>
      obtain ⟨dispatch, dispatch_step, rfl⟩ := dispatchStep_inv step
      obtain ⟨-, rfl⟩ := Machine.guard_inv dispatch_step
      exact accounted.of_same rfl rfl rfl rfl rfl rfl accounted.requesting
  | isrEffect =>
      obtain ⟨effect, rest, -, rfl⟩ := isrEffect_inv step
      obtain ⟨pc_eq, handled_eq, -⟩ :=
        perform_keeps { before.dispatch with pendingIsr := rest } effect
      exact accounted.of_same rfl rfl rfl rfl rfl handled_eq (pc_eq ▸ accounted.requesting)
  | take =>
      obtain ⟨calls_eq, -, -, rfl⟩ := take_inv step
      exact accounted.of_same rfl rfl rfl rfl rfl rfl (calls_eq ▸ .none (by simp))
  | get =>
      obtain ⟨taken, rfl⟩ := get_inv step
      have calls_eq : before.calls = [] :=
        accounted.requesting.calls_eq_nil (by simp [taken]) (by simp [taken])
      exact accounted.of_same rfl rfl rfl rfl rfl rfl (calls_eq ▸ .none (by simp))
  | act joined => exact accounted_act accounted step
  | call call => exact accounted_call accounted step
  | callback callback => exact accounted_callback accounted step
  | signal | stackAttributes | stackLongPollInterval =>
      obtain rfl := Option.some.inj step
      exact accounted.of_same rfl rfl rfl rfl rfl rfl accounted.requesting

end Steps

variable {config : PollConfig} {zboss : ZbossPolling} {longPollIntervalMs : UInt32}

theorem accounted_booted : (booted config zboss longPollIntervalMs).Accounted where
  requesting := .none (by simp [booted, ButtonDispatch.init])
  inOrder := rfl
  wakes := rfl
  routed := .nil

/-- The hand-off of durations is part of the system. -/
def dispatchProjection (config : PollConfig) (zboss : ZbossPolling) :
    Machine.Projection (machine config zboss) ButtonDispatch.machine where
  state := dispatch
  seen
    | .isr sample => some (.isr sample)
    | .isrEffect => some .isrEffect
    | .take => some .take
    | .get => some .get
    | .act joined => some (.act joined)
    | .call .settle => some .startJoin
    | _ => none
  step_eq before action after step := by
    cases action with
    | isr | isrEffect | get =>
        obtain ⟨dispatch, dispatch_step, rfl⟩ := dispatchStep_inv step
        exact dispatch_step
    | take =>
        obtain ⟨-, waiting, given, rfl⟩ := take_inv step
        exact if_pos ⟨waiting, given⟩
    | act joined =>
        obtain ⟨duration, fetched, -, rfl⟩ := act_inv step
        simp [ButtonDispatch.machine, ButtonDispatch.step, fetched]
    | call call =>
        obtain ⟨calls, -, performed⟩ := call_inv step
        cases call with
        | settle =>
            obtain ⟨dispatch, dispatch_step, rfl⟩ := dispatchStep_inv performed
            exact dispatch_step
        | _ =>
            obtain rfl := Option.some.inj performed
            rfl
    | callback callback =>
        obtain ⟨callbacks, -, rfl⟩ := callback_inv step
        cases callback <;> rfl
    | signal | stackAttributes | stackLongPollInterval =>
        obtain rfl := Option.some.inj step
        rfl

/-- The handler sets the slot only when the thread has read the previous duration. -/
abbrev ReadBeforeSet (config : PollConfig) (zboss : ZbossPolling) :
    Machine.Assumption ButtonSession SessionStep :=
  (dispatchProjection config zboss).lift ButtonDispatch.ReadBeforeSet

/-- Nothing is left to do for any release so far. -/
structure Settled (session : ButtonSession) : Prop where
  quiescent : session.dispatch.Quiescent
  called : session.calls = []
  drained : session.callbacks = []

theorem accounted_path {history : List SessionStep} {session : ButtonSession}
    (path : (machine config zboss).Path .any (booted config zboss longPollIntervalMs) history
      session) : session.Accounted :=
  path.invariant (fun _ session => session.Accounted) accounted_booted
    fun _ _ _ _ accounted _ step => accounted_step accounted step

/-- The callbacks other than wakes are those of the joins and resets. -/
theorem Accounted.count_requested {session : ButtonSession} (accounted : session.Accounted) :
    session.requested.count .startSteeringCb = session.acted.count .join ∧
      session.requested.count .factoryResetCb = session.acted.count .factoryReset := by
  have count_acted : ∀ (acted : List ButtonAction),
      (acted.filterMap callbackOf).count .startSteeringCb = acted.count .join ∧
        (acted.filterMap callbackOf).count .factoryResetCb = acted.count .factoryReset := by
    intro acted
    induction acted with
    | nil => exact ⟨rfl, rfl⟩
    | cons action acted induction =>
        cases action <;> simpa [callbackOf, List.filterMap_cons] using induction
  have counted := count_acted session.acted
  rw [← accounted.inOrder, List.count_filter (by decide), List.count_filter (by decide)] at counted
  exact counted

/-- Long presses are the factory resets, short ones the joins and wakes. -/
theorem count_of_routes {durations : List ℤ} {actions : List ButtonAction}
    (routes : List.Forall₂ Routes durations actions) :
    actions.count .factoryReset = durations.countP (pressKind · = .long) ∧
      actions.count .join + actions.count .wake = durations.countP (pressKind · = .short) := by
  induction routes with
  | nil => exact ⟨rfl, rfl⟩
  | @cons duration action durations actions routed _ induction =>
      obtain ⟨joined, rfl⟩ := routed
      obtain ⟨longs, shorts⟩ := induction
      rw [dispatchedAction_eq]
      cases kind : pressKind duration <;> cases joined <;>
        simp [kind, buttonActionForPress, longs] <;> omega

/-- The hand-off inside a session is a sound mailbox. -/
theorem sound_of_path {history : List SessionStep} {session : ButtonSession}
    (path : (machine config zboss).Path .any (booted config zboss longPollIntervalMs) history
      session) : session.dispatch.Consistent ∧ session.dispatch.mailbox.Sound := by
  have lifted : (machine config zboss).Path ((dispatchProjection config zboss).lift .any)
      (booted config zboss longPollIntervalMs) history session :=
    path.mono fun _ _ _ _ _ _ _ _ _ => trivial
  exact ButtonDispatch.sound_of_path ((dispatchProjection config zboss).path lifted)

/-- A press the thread has handled was published by the handler. -/
theorem mem_published_of_handled {history : List SessionStep} {session : ButtonSession}
    (path : (machine config zboss).Path .any (booted config zboss longPollIntervalMs) history
      session) {duration : ℤ} (handled : duration ∈ session.dispatch.handled) :
    duration ∈ session.dispatch.published := by
  obtain ⟨-, -, inOrder, -⟩ := sound_of_path path
  exact Mailbox.mem_of_picksInOrder (Mailbox.picksInOrder_of_append inOrder) handled

/-- When every release finds the slot read, a session at rest has handled what was published. -/
theorem handled_of_settled {history : List SessionStep} {session : ButtonSession}
    (path : (machine config zboss).Path (ReadBeforeSet config zboss)
      (booted config zboss longPollIntervalMs) history session) (settled : session.Settled) :
    session.dispatch.handled = session.dispatch.published := by
  have lossless := ButtonDispatch.lossless_of_path ((dispatchProjection config zboss).path path)
  rw [← ButtonDispatch.quiescent_reads settled.quiescent]
  exact lossless.settled (ButtonDispatch.quiescent_tokens settled.quiescent)

/-- Presses reach the stack exactly once. In every interleaving the actions taken are those of the
presses handled, one for each and in their order; there are as many factory resets run, queued or
about to be queued as long presses handled, short presses likewise are joins and wakes or wakes
ignored, joins and resets keep the order of the actions, and nothing is handled that the handler did
not publish. When every release finds the previous one read, a session at rest has
run one reset for each long press published, and one join or wake for each short press, but for
ignored wakes. -/
theorem presses_reach_the_stack (config : PollConfig) (zboss : ZbossPolling)
    (longPollIntervalMs : UInt32) :
    (∀ history session,
      (machine config zboss).Path .any (booted config zboss longPollIntervalMs) history session →
        List.Forall₂ Routes session.dispatch.handled session.acted ∧
        session.requested.count .factoryResetCb =
          session.dispatch.handled.countP (pressKind · = .long) ∧
        session.requested.count .startSteeringCb + session.requested.count .wakeTurboPollCb +
            session.ignoredWakes + session.calls.count .wakeForWrite =
          session.dispatch.handled.countP (pressKind · = .short) ∧
        session.requested.filter (· ≠ .wakeTurboPollCb) =
          session.acted.filterMap callbackOf ∧
        ∀ duration ∈ session.dispatch.handled, duration ∈ session.dispatch.published) ∧
    ∀ history session,
      (machine config zboss).Path (ReadBeforeSet config zboss)
        (booted config zboss longPollIntervalMs) history session → session.Settled →
        session.ran.count .factoryResetCb =
          session.dispatch.published.countP (pressKind · = .long) ∧
        session.ran.count .startSteeringCb + session.ran.count .wakeTurboPollCb +
            session.ignoredWakes =
          session.dispatch.published.countP (pressKind · = .short) := by
  have accounts : ∀ {history session},
      (machine config zboss).Path .any (booted config zboss longPollIntervalMs) history session →
        session.requested.count .factoryResetCb =
          session.dispatch.handled.countP (pressKind · = .long) ∧
        session.requested.count .startSteeringCb + session.requested.count .wakeTurboPollCb +
            session.ignoredWakes + session.calls.count .wakeForWrite =
          session.dispatch.handled.countP (pressKind · = .short) := by
    intro history session path
    have accounted := accounted_path path
    obtain ⟨joins, resets⟩ := accounted.count_requested
    obtain ⟨longs, shorts⟩ := count_of_routes accounted.routed
    have wakes := accounted.wakes
    exact ⟨resets.trans longs, by omega⟩
  constructor
  · intro history session path
    have accounted := accounted_path path
    obtain ⟨longs, shorts⟩ := accounts path
    exact ⟨accounted.routed, longs, shorts, accounted.inOrder,
      fun _ handled => mem_published_of_handled path handled⟩
  · intro history session path settled
    obtain ⟨longs, shorts⟩ := accounts (path.mono fun _ _ _ _ _ _ _ => trivial)
    have requested_eq : session.requested = session.ran := by
      simp [requested, settled.called, settled.drained]
    rw [requested_eq, handled_of_settled path settled] at longs shorts
    rw [settled.called, List.count_nil] at shorts
    exact ⟨longs, shorts⟩

/-- The steps of a press and its release, and of the thread and the ZBOSS thread after it. -/
def pressSteps (pressed released : ℤ) (joined : Bool) : List SessionStep :=
  [.isr ⟨pressed, 1⟩, .isrEffect, .isr ⟨released, 0⟩, .isrEffect, .isrEffect, .isrEffect,
    .isrEffect, .take, .get, .act joined]

/-- An attached device, and a press of four seconds that resets it. -/
def resetSteps : List SessionStep :=
  .signal .bdbSignalSteering retOk :: pressSteps 1000 5000 true ++
    (requestCalls .factoryReset).map .call ++ [.callback .factoryResetCb]

/-- One press of four seconds runs one factory reset. -/
theorem presses_reach_the_stack_longPress :
    ∃ session,
      (machine .default .zcl).Path (ReadBeforeSet .default .zcl) (booted .default .zcl 5000)
        resetSteps session ∧
      session.Settled ∧ session.ran.count .factoryResetCb = 1 ∧ session.joined = false := by
  have ran : (machine .default .zcl).execute (ReadBeforeSet .default .zcl) []
      (booted .default .zcl 5000) resetSteps = some
        { booted .default .zcl 5000 with
          dispatch := ⟨⟨1000⟩, [], 4000, 0, .waiting, [4000], [4000]⟩
          polling := ⟨pollControlAttrsInit .default .zcl, 60000, [30000]⟩
          acted := [.factoryReset]
          ran := [.factoryResetCb] } := rfl
  have path := Machine.path_of_execute ran
  have settled : Settled
      { booted .default .zcl 5000 with
        dispatch := ⟨⟨1000⟩, [], 4000, 0, .waiting, [4000], [4000]⟩
        polling := ⟨pollControlAttrsInit .default .zcl, 60000, [30000]⟩
        acted := [.factoryReset]
        ran := [.factoryResetCb] } := ⟨⟨rfl, rfl, rfl⟩, rfl, rfl⟩
  have counted := ((presses_reach_the_stack .default .zcl 5000).2 _ _ path settled).1
  exact ⟨_, path, settled, counted.trans rfl, rfl⟩

end ButtonSession

end PowerMeter
