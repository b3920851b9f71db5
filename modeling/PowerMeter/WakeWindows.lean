import PowerMeter.ButtonRequests
import Mathlib.Data.List.Induction

/-!
# Turbo-poll windows and the long poll interval

A window is opened by an attach or by a short press on a joined device. The callback of a press runs
later than the press was routed, so the device may have left its network by then. The PIM holds the
attribute the last attach found.
-/

namespace PowerMeter

open Guarded

/-- The device attaches to a network. -/
def SessionStep.attaches : SessionStep → Bool
  | .signal event status => event.attaches status
  | _ => false

/-- The device has no network from here on. -/
def SessionStep.parts : SessionStep → Bool
  | .signal event status => event.parts status
  | .callback .factoryResetCb => true
  | _ => false

/-- The join state a step leaves, if it is about the join state. -/
def SessionStep.joins (step : SessionStep) : Option Bool :=
  if step.attaches then some true else if step.parts then some false else none

/-- The attributes the stack rewrites in a step. -/
def SessionStep.rewrites : SessionStep → Option PollControlAttrs
  | .stackAttributes attrs => some attrs
  | _ => none

/-- The interval of the PIM is set in a step. -/
def SessionStep.setsLongPoll : SessionStep → Bool
  | .signal event status => event.attaches status
  | .stackLongPollInterval _ => true
  | _ => false

namespace ButtonSession

variable {config : PollConfig} {zboss : ZbossPolling} {longPollIntervalMs : UInt32}
  {before after session : ButtonSession} {action : SessionStep} {history : List SessionStep}

/-- What a step does to the join state, the attributes and the PIM of a sleepy end device. -/
structure Polled (zboss : ZbossPolling) (before : ButtonSession) (action : SessionStep)
    (after : ButtonSession) : Prop where
  joined : after.joined = action.joins.getD before.joined
  attrs : after.polling.attrs = action.rewrites.getD before.polling.attrs
  attached : action.attaches →
    after.polling.longPollIntervalMs =
      zboss.quarterSecondsToMsec before.polling.attrs.longPollInterval
  kept : ¬ action.setsLongPoll →
    after.polling.longPollIntervalMs = before.polling.longPollIntervalMs
  windows :
    after.polling.windows.length + before.ran.count .wakeTurboPollCb =
      before.polling.windows.length + after.ran.count .wakeTurboPollCb +
        [action].countP (·.attaches)

private theorem polled_of_same (joined : after.joined = before.joined)
    (polling : after.polling = before.polling) (ran : after.ran = before.ran)
    (joins : action.joins = none) (attaches : action.attaches = false)
    (rewrites : action.rewrites = none) : Polled zboss before action after := by
  constructor
  · rw [joined, joins, Option.getD_none]
  · rw [polling, rewrites, Option.getD_none]
  · simp [attaches]
  · rw [polling]
    exact fun _ => rfl
  · rw [polling, ran]
    simp [attaches]

private theorem polled_signal {signal : AppSignal} {status : ℤ} (sleepy : config.sleepyEd)
    (step : (machine config zboss).step before (.signal signal status) = some after) :
    Polled zboss before (.signal signal status) after := by
  obtain rfl := Option.some.inj step
  by_cases attaches : signal.attaches status
  · rw [SleepyPolling.signal_of_attaches sleepy attaches, joinedAfterSignal_of_attaches attaches]
    constructor
    · simp [SessionStep.joins, SessionStep.attaches, attaches]
    · rfl
    · exact fun _ => rfl
    · simp [SessionStep.setsLongPoll, attaches]
    · simp [SessionStep.attaches, attaches]
      omega
  · rw [SleepyPolling.signal_of_not_attaches attaches]
    constructor
    · by_cases parts : signal.parts status
      · rw [joinedAfterSignal_of_parts parts]
        simp [SessionStep.joins, SessionStep.attaches, SessionStep.parts, attaches, parts]
      · rw [joinedAfterSignal_of_neither attaches parts]
        simp [SessionStep.joins, SessionStep.attaches, SessionStep.parts, attaches, parts]
    · rfl
    · exact fun attached => absurd attached attaches
    · exact fun _ => rfl
    · simp [SessionStep.attaches, attaches]

private theorem polled_callback {callback : AppCallback}
    (step : (machine config zboss).step before (.callback callback) = some after) :
    Polled zboss before (.callback callback) after := by
  obtain ⟨callbacks, -, rfl⟩ := callback_inv step
  cases callback with
  | startSteeringCb =>
      refine ⟨rfl, rfl, by simp [SessionStep.attaches], fun _ => rfl, ?_⟩
      simp [runCallback, SessionStep.attaches]
  | factoryResetCb =>
      refine ⟨rfl, rfl, by simp [SessionStep.attaches], fun _ => rfl, ?_⟩
      simp [runCallback, SessionStep.attaches]
  | wakeTurboPollCb =>
      refine ⟨rfl, rfl, by simp [SessionStep.attaches], fun _ => rfl, ?_⟩
      simp [runCallback, SleepyPolling.wakeTurboPollCb, SleepyPolling.pim, SessionStep.attaches]
      omega

/-- What one step of the system does to the join state and the polling. -/
theorem polled_step (sleepy : config.sleepyEd)
    (step : (machine config zboss).step before action = some after) :
    Polled zboss before action after := by
  cases action with
  | isr | isrEffect | get =>
      obtain ⟨dispatch, -, rfl⟩ := dispatchStep_inv step
      exact polled_of_same rfl rfl rfl rfl rfl rfl
  | take =>
      obtain ⟨-, -, -, rfl⟩ := take_inv step
      exact polled_of_same rfl rfl rfl rfl rfl rfl
  | act joined =>
      obtain ⟨duration, -, -, rfl⟩ := act_inv step
      exact polled_of_same rfl rfl rfl rfl rfl rfl
  | call call =>
      obtain ⟨calls, -, performed⟩ := call_inv step
      cases call with
      | settle =>
          obtain ⟨dispatch, -, rfl⟩ := dispatchStep_inv performed
          exact polled_of_same rfl rfl rfl rfl rfl rfl
      | _ =>
          obtain rfl := Option.some.inj performed
          exact polled_of_same rfl rfl rfl rfl rfl rfl
  | callback callback => exact polled_callback step
  | signal signal status => exact polled_signal sleepy step
  | stackAttributes attrs =>
      obtain rfl := Option.some.inj step
      exact ⟨rfl, rfl, by simp [SessionStep.attaches], fun _ => rfl, by simp [SessionStep.attaches]⟩
  | stackLongPollInterval ms =>
      obtain rfl := Option.some.inj step
      exact ⟨rfl, rfl, by simp [SessionStep.attaches], by simp [SessionStep.setsLongPoll],
        by simp [SessionStep.attaches]⟩

/-- A wake has been routed, and its window is not open yet. -/
def WakeUnderway (session : ButtonSession) : Prop :=
  .wakeForWrite ∈ session.calls ∨ .scheduleAppCallback .wakeTurboPollCb ∈ session.calls ∨
    .wakeTurboPollCb ∈ session.callbacks

instance (session : ButtonSession) : Decidable session.WakeUnderway :=
  inferInstanceAs (Decidable (_ ∨ _ ∨ _))

/-- The device keeps its network while a wake is under way. -/
def KeepsParent : Machine.Assumption ButtonSession SessionStep := fun _ before action =>
  before.WakeUnderway → action.parts = false

instance (history : List SessionStep) (before : ButtonSession) (action : SessionStep) :
    Decidable (KeepsParent history before action) :=
  inferInstanceAs (Decidable (_ → _))

private theorem joined_of_wake {duration : ℤ} {joined : Bool}
    (wake : dispatchedAction duration joined = .wake) : joined = true := by
  rw [dispatchedAction_eq] at wake
  cases joined with
  | true => rfl
  | false => cases kind : pressKind duration <;> simp [kind, buttonActionForPress] at wake

private theorem underway_act {joined : Bool}
    (step : (machine config zboss).step before (.act joined) = some after)
    (underway : after.WakeUnderway) : before.WakeUnderway ∨ before.joined = true := by
  obtain ⟨duration, -, rfl, rfl⟩ := act_inv step
  cases action_eq : dispatchedAction duration before.joined with
  | wake => exact .inr (joined_of_wake action_eq)
  | none | join | factoryReset =>
      refine .inl (.inr (.inr ?_))
      simpa [WakeUnderway, action_eq, requestCalls] using underway

private theorem underway_call {call : RequestCall}
    (step : (machine config zboss).step before (.call call) = some after)
    (underway : after.WakeUnderway) : before.WakeUnderway := by
  obtain ⟨calls, calls_eq, performed⟩ := call_inv step
  cases call with
  | wakeForWrite => exact .inl (by simp [calls_eq])
  | settle =>
      obtain ⟨dispatch, -, rfl⟩ := dispatchStep_inv performed
      simpa [WakeUnderway, calls_eq] using underway
  | ledRequest | setUserJoinInFlight =>
      obtain rfl := Option.some.inj performed
      simpa [WakeUnderway, calls_eq] using underway
  | scheduleAppCallback callback =>
      obtain rfl := Option.some.inj performed
      rw [WakeUnderway, calls_eq]
      rcases underway with undecided | unscheduled | queued
      · exact .inl (List.mem_cons_of_mem _ undecided)
      · exact .inr (.inl (List.mem_cons_of_mem _ unscheduled))
      · rcases List.mem_append.mp queued with earlier | last
        · exact .inr (.inr earlier)
        · obtain rfl := List.mem_singleton.mp last
          exact .inr (.inl (by simp))

/-- A wake under way was under way before the step, or the step routed it on a joined device. -/
theorem underway_step (step : (machine config zboss).step before action = some after)
    (underway : after.WakeUnderway) :
    before.WakeUnderway ∨ before.joined = true ∧ action.joins = none := by
  cases action with
  | isr | isrEffect | get =>
      obtain ⟨dispatch, -, rfl⟩ := dispatchStep_inv step
      exact .inl underway
  | take =>
      obtain ⟨-, -, -, rfl⟩ := take_inv step
      exact .inl underway
  | act joined => exact (underway_act step underway).imp_right fun joined => ⟨joined, rfl⟩
  | call call => exact .inl (underway_call step underway)
  | callback callback =>
      obtain ⟨callbacks, queued, rfl⟩ := callback_inv step
      left
      cases callback <;>
        · simp only [WakeUnderway, runCallback, queued, List.mem_cons] at underway ⊢
          tauto
  | signal | stackAttributes | stackLongPollInterval =>
      obtain rfl := Option.some.inj step
      exact .inl underway

/-- A wake is ignored only where its check finds the device unjoined. -/
theorem ignored_step (sleepy : config.sleepyEd)
    (step : (machine config zboss).step before action = some after) :
    after.ignoredWakes = before.ignoredWakes ∨ before.WakeUnderway ∧ before.joined = false := by
  cases action with
  | isr | isrEffect | get =>
      obtain ⟨dispatch, -, rfl⟩ := dispatchStep_inv step
      exact .inl rfl
  | take =>
      obtain ⟨-, -, -, rfl⟩ := take_inv step
      exact .inl rfl
  | act joined =>
      obtain ⟨duration, -, -, rfl⟩ := act_inv step
      exact .inl rfl
  | call call =>
      obtain ⟨calls, calls_eq, performed⟩ := call_inv step
      cases call with
      | settle =>
          obtain ⟨dispatch, -, rfl⟩ := dispatchStep_inv performed
          exact .inl rfl
      | wakeForWrite =>
          obtain rfl := Option.some.inj performed
          cases joined : before.joined with
          | true => exact .inl (by simp [wakeForWriteCalls, sleepy])
          | false => exact .inr ⟨.inl (by simp [calls_eq]), rfl⟩
      | ledRequest | setUserJoinInFlight | scheduleAppCallback =>
          obtain rfl := Option.some.inj performed
          exact .inl rfl
  | callback callback =>
      obtain ⟨callbacks, -, rfl⟩ := callback_inv step
      cases callback <;> exact .inl rfl
  | signal | stackAttributes | stackLongPollInterval =>
      obtain rfl := Option.some.inj step
      exact .inl rfl

/-- Every wake under way has a parent, and none has been ignored. -/
structure Parented (session : ButtonSession) : Prop where
  joined : session.WakeUnderway → session.joined = true
  heard : session.ignoredWakes = 0

theorem parented_step (sleepy : config.sleepyEd) (parented : before.Parented)
    (keeps : KeepsParent history before action)
    (step : (machine config zboss).step before action = some after) : after.Parented := by
  obtain ⟨joined, heard⟩ := parented
  have joined_eq := (polled_step sleepy step).joined
  constructor
  · intro underway
    rw [joined_eq]
    rcases underway_step step underway with earlier | ⟨routed, unrelated⟩
    · rw [SessionStep.joins, keeps earlier, joined earlier]
      split <;> rfl
    · rw [unrelated]
      exact routed
  · rcases ignored_step sleepy step with same | ⟨underway, unjoined⟩
    · exact same.trans heard
    · rw [joined underway] at unjoined
      exact absurd unjoined (by simp)

/-- On a sleepy end device that keeps its network while a wake is under way, no short press is
lost to the race between routing it and opening its window: every press routed to a wake opens, or
still is to open, one window, and the device is joined when a window opens. -/
theorem wakes_find_their_parent (config : PollConfig) (zboss : ZbossPolling)
    (longPollIntervalMs : UInt32) (sleepy : config.sleepyEd = true)
    (history : List SessionStep) (session : ButtonSession)
    (path : (machine config zboss).Path KeepsParent (booted config zboss longPollIntervalMs)
      history session) :
    session.requested.count .wakeTurboPollCb + session.calls.count .wakeForWrite =
        session.acted.count .wake ∧
      ∀ after, (machine config zboss).step session (.callback .wakeTurboPollCb) = some after →
        session.joined = true ∧
        after.polling.windows = session.polling.windows ++ [config.wakeTurboPollMs] := by
  have parented : session.Parented := by
    refine path.invariant (fun _ session => session.Parented) ⟨?_, rfl⟩
      fun _ _ _ _ parented keeps step => parented_step sleepy parented keeps step
    simp [WakeUnderway, booted]
  have wakes := (accounted_path (path.mono fun _ _ _ _ _ _ _ => trivial)).wakes
  rw [parented.heard] at wakes
  refine ⟨by omega, fun after step => ?_⟩
  obtain ⟨callbacks, queued, rfl⟩ := callback_inv step
  exact ⟨parented.joined (.inr (.inr (by simp [queued]))), rfl⟩

/-- An attached device, and a click that is routed to a wake. -/
def wakeSteps : List SessionStep :=
  .signal .bdbSignalSteering retOk :: pressSteps 1000 1250 true ++
    [.call (.ledRequest .buttonAck .buttonAck), .call .wakeForWrite,
      .call (.scheduleAppCallback .wakeTurboPollCb)]

/-- The click opens one window, on a joined device. -/
theorem wakes_find_their_parent_click :
    ∃ session after,
      (machine .default .zcl).Path KeepsParent (booted .default .zcl 5000) wakeSteps session ∧
      (machine .default .zcl).step session (.callback .wakeTurboPollCb) = some after ∧
      session.joined = true ∧ after.polling.windows = [30000, 30000] := by
  have ran : (machine .default .zcl).execute KeepsParent [] (booted .default .zcl 5000)
      wakeSteps = some
        { booted .default .zcl 5000 with
          dispatch := ⟨⟨1000⟩, [], 250, 0, .waiting, [250], [250]⟩
          joined := true
          polling := ⟨pollControlAttrsInit .default .zcl, 60000, [30000]⟩
          callbacks := [.wakeTurboPollCb]
          acted := [.wake] } := rfl
  have path := Machine.path_of_execute ran
  obtain ⟨-, opens⟩ := wakes_find_their_parent .default .zcl 5000 rfl _ _ path
  obtain ⟨joined, windows⟩ := opens _ rfl
  exact ⟨_, _, path, rfl, joined, windows⟩

/-- Where the device leaves after the wake was routed, the window opens without a parent. -/
theorem overtaken_wake_opens_alone :
    ∃ session after,
      (machine .default .zcl).Path .any (booted .default .zcl 5000)
        (wakeSteps ++ [.signal .zdoSignalLeave retOk]) session ∧
      (machine .default .zcl).step session (.callback .wakeTurboPollCb) = some after ∧
      session.joined = false ∧ after.polling.windows = [30000, 30000] := by
  have ran : (machine .default .zcl).execute .any [] (booted .default .zcl 5000)
      (wakeSteps ++ [.signal .zdoSignalLeave retOk]) = some
        { booted .default .zcl 5000 with
          dispatch := ⟨⟨1000⟩, [], 250, 0, .waiting, [250], [250]⟩
          polling := ⟨pollControlAttrsInit .default .zcl, 60000, [30000]⟩
          callbacks := [.wakeTurboPollCb]
          acted := [.wake] } := rfl
  exact ⟨_, _, Machine.path_of_execute ran, rfl, rfl, rfl⟩

private theorem getLastD_filterMap_concat {α β : Type*} (observe : α → Option β)
    (earlier : List α) (last : α) (start : β) :
    ((earlier ++ [last]).filterMap observe).getLastD start =
      (observe last).getD ((earlier.filterMap observe).getLastD start) := by
  cases seen : observe last <;> simp [List.filterMap_append, seen]

/-- The join state is what the last attach or part left, and the attributes are the last the stack
wrote, or the seed. -/
theorem joined_attrs_path (sleepy : config.sleepyEd)
    (path : (machine config zboss).Path .any (booted config zboss longPollIntervalMs) history
      session) :
    session.joined = (history.filterMap SessionStep.joins).getLastD false ∧
      session.polling.attrs = (history.filterMap SessionStep.rewrites).getLastD
        (pollControlAttrsInit config zboss) := by
  refine path.invariant (fun history session =>
    session.joined = (history.filterMap SessionStep.joins).getLastD false ∧
      session.polling.attrs = (history.filterMap SessionStep.rewrites).getLastD
        (pollControlAttrsInit config zboss)) ⟨rfl, rfl⟩ ?_
  rintro history before action after ⟨joined, attrs⟩ - step
  have polled := polled_step sleepy step
  rw [getLastD_filterMap_concat, getLastD_filterMap_concat, ← joined, ← attrs]
  exact ⟨polled.joined, polled.attrs⟩

theorem windows_path (sleepy : config.sleepyEd)
    (path : (machine config zboss).Path .any (booted config zboss longPollIntervalMs) history
      session) :
    session.polling.windows.length =
      history.countP (·.attaches) + session.ran.count .wakeTurboPollCb := by
  refine path.invariant (fun history session => session.polling.windows.length =
    history.countP (·.attaches) + session.ran.count .wakeTurboPollCb) rfl ?_
  rintro history before action after opened - step
  have windows := (polled_step sleepy step).windows
  rw [List.countP_append]
  omega

/-- What an attach pushes at the PIM stays there until the next one or until the stack sets an
interval itself. -/
theorem long_poll_path (sleepy : config.sleepyEd) {earlier later : List SessionStep}
    {attach : SessionStep} (attaches : attach.attaches)
    (path : (machine config zboss).Path .any (booted config zboss longPollIntervalMs)
      (earlier ++ attach :: later) session)
    (left : ∀ action ∈ later, action.setsLongPoll = false) :
    session.polling.longPollIntervalMs = zboss.quarterSecondsToMsec
      ((earlier.filterMap SessionStep.rewrites).getLastD
        (pollControlAttrsInit config zboss)).longPollInterval := by
  induction later using List.reverseRecOn generalizing session with
  | nil =>
      obtain ⟨before, before_path, -, step⟩ := path.snoc_inv
      rw [← (joined_attrs_path sleepy before_path).2]
      exact (polled_step sleepy step).attached attaches
  | append_singleton later last induction =>
      rw [← List.cons_append, ← List.append_assoc] at path
      obtain ⟨before, before_path, -, step⟩ := path.snoc_inv
      rw [(polled_step sleepy step).kept (by simp [left last (by simp)])]
      exact induction before_path fun action member => left action (by simp [member])

/-- The polling of a sleepy end device over any run. It is joined if and only if the last attach or
part was an attach. Every turbo-poll window is paid for by an attach or by a short press. The long
poll interval is the attribute as it was at the last attach, which is what the coordinator wrote
last or the configured seed, as long as the stack has not set an interval since. -/
theorem polling_accounted (config : PollConfig) (zboss : ZbossPolling)
    (longPollIntervalMs : UInt32) (sleepy : config.sleepyEd = true) :
    (∀ history session,
      (machine config zboss).Path .any (booted config zboss longPollIntervalMs) history session →
        session.joined = (history.filterMap SessionStep.joins).getLastD false ∧
        session.polling.windows.length =
          history.countP (·.attaches) + session.ran.count .wakeTurboPollCb ∧
        session.ran.count .wakeTurboPollCb ≤
          session.dispatch.handled.countP (pressKind · = .short)) ∧
    ∀ earlier attach later session,
      (machine config zboss).Path .any (booted config zboss longPollIntervalMs)
        (earlier ++ attach :: later) session →
      attach.attaches = true → (∀ action ∈ later, action.setsLongPoll = false) →
        session.polling.longPollIntervalMs = zboss.quarterSecondsToMsec
          ((earlier.filterMap SessionStep.rewrites).getLastD
            (pollControlAttrsInit config zboss)).longPollInterval := by
  constructor
  · intro history session path
    refine ⟨(joined_attrs_path sleepy path).1, windows_path sleepy path, ?_⟩
    have accounted := accounted_path path
    have wakes := accounted.wakes
    obtain ⟨-, shorts⟩ := count_of_routes accounted.routed
    have ran_le : session.ran.count .wakeTurboPollCb ≤
        session.requested.count .wakeTurboPollCb := by
      simp only [requested, List.count_append]
      omega
    omega
  · intro earlier attach later session path attaches left
    exact long_poll_path sleepy attaches path left

/-- The coordinator asks for a long poll of 30 s, and the device reattaches after a reboot. -/
theorem polling_accounted_rewritten :
    ∃ session,
      (machine .default .zcl).Path .any (booted .default .zcl 5000)
        (.stackAttributes { pollControlAttrsInit .default .zcl with longPollInterval := 120 } ::
          .signal .bdbSignalDeviceReboot retOk :: pressSteps 1000 1250 true) session ∧
      session.polling.longPollIntervalMs = 30000 ∧ session.polling.windows.length = 1 := by
  have ran : (machine .default .zcl).execute .any [] (booted .default .zcl 5000)
      (.stackAttributes { pollControlAttrsInit .default .zcl with longPollInterval := 120 } ::
        .signal .bdbSignalDeviceReboot retOk :: pressSteps 1000 1250 true) = some
        { booted .default .zcl 5000 with
          dispatch := ⟨⟨1000⟩, [], 250, 0, .waiting, [250], [250]⟩
          joined := true
          polling := ⟨{ pollControlAttrsInit .default .zcl with longPollInterval := 120 }, 30000,
            [30000]⟩
          calls := requestCalls .wake
          acted := [.wake] } := rfl
  have path := Machine.path_of_execute ran
  obtain ⟨counted, follows⟩ := polling_accounted .default .zcl 5000 rfl
  have interval := follows [_] _ (pressSteps 1000 1250 true) _ path rfl (by decide)
  exact ⟨_, path, interval.trans rfl, (counted _ _ path).2.1.trans rfl⟩

end ButtonSession

end PowerMeter
