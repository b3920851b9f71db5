import PowerMeter.JoinIndication

/-!
# Poll Control and the poll interval manager

The attributes of the Poll Control cluster are seeded from Kconfig and may be rewritten by a
coordinator. The stack falls back to its own long poll interval while it steers, so every
successful attach pushes the attribute at the poll interval manager (PIM) and opens a turbo-poll
window for the interview.
-/

namespace PowerMeter

/-- The Kconfig options of the sleepy end device. -/
structure PollConfig where
  sleepyEd : Bool
  joinTurboPollMs : UInt32
  wakeTurboPollMs : UInt32
  checkinIntervalS : UInt32
  fastPollTimeoutS : UInt32
  longPollIntervalMs : UInt32

/-- The Kconfig defaults. -/
def PollConfig.default : PollConfig where
  sleepyEd := true
  joinTurboPollMs := 30000
  wakeTurboPollMs := 30000
  checkinIntervalS := 900
  fastPollTimeoutS := 20
  longPollIntervalMs := 60000

/-- What the headers of the stack define: the default attributes and
`ZB_QUARTERECONDS_TO_MSEC`. -/
structure ZbossPolling where
  shortPollIntervalDefault : UInt16
  checkinMinIntervalDefault : UInt32
  longPollMinIntervalDefault : UInt32
  fastPollMaxTimeoutDefault : UInt16
  quarterSecondsToMsec : UInt32 → UInt32

/-- The ZCL defaults: a short poll of 500 ms and no limit on what a client may write. -/
def ZbossPolling.zcl : ZbossPolling where
  shortPollIntervalDefault := 2
  checkinMinIntervalDefault := 0
  longPollMinIntervalDefault := 0
  fastPollMaxTimeoutDefault := 0
  quarterSecondsToMsec quarterSeconds := quarterSeconds * 250

/-- The Poll Control attributes of `struct zb_device_ctx`, in quarter-seconds. -/
structure PollControlAttrs where
  checkinInterval : UInt32
  longPollInterval : UInt32
  shortPollInterval : UInt16
  fastPollTimeout : UInt16
  checkinIntervalMin : UInt32
  longPollIntervalMin : UInt32
  fastPollTimeoutMax : UInt16

/-- `QS_FROM_SEC`. -/
def qsFromSec (seconds : UInt32) : UInt32 := seconds * 4

/-- `QS_FROM_MS`. -/
def qsFromMs (ms : UInt32) : UInt32 := ms / 250

/-- `poll_control_attrs_init`. -/
def pollControlAttrsInit (config : PollConfig) (zboss : ZbossPolling) : PollControlAttrs where
  checkinInterval := qsFromSec config.checkinIntervalS
  longPollInterval := qsFromMs config.longPollIntervalMs
  fastPollTimeout := (qsFromSec config.fastPollTimeoutS).toUInt16
  shortPollInterval := zboss.shortPollIntervalDefault
  checkinIntervalMin := zboss.checkinMinIntervalDefault
  longPollIntervalMin := zboss.longPollMinIntervalDefault
  fastPollTimeoutMax := zboss.fastPollMaxTimeoutDefault

/-- Calls `zigbee_app.c` makes to the PIM. -/
inductive PimCall
  | setLongPollInterval (ms : UInt32)
  | startTurboPollContinuous (ms : UInt32)

/-- `apply_sleepy_poll_intervals_if_joined`. The long poll interval attribute is in the attribute
list the device registers, so the lookup is taken to find it. -/
def applySleepyPollIntervalsIfJoined (config : PollConfig) (zboss : ZbossPolling)
    (attrs : PollControlAttrs) (status : ℤ) : List PimCall :=
  if !config.sleepyEd || status ≠ retOk then []
  else
    [.setLongPollInterval (zboss.quarterSecondsToMsec attrs.longPollInterval),
      .startTurboPollContinuous config.joinTurboPollMs]

/-- What `zboss_signal_handler` tells the PIM. -/
def signalPimCalls (config : PollConfig) (zboss : ZbossPolling) (attrs : PollControlAttrs)
    (signal : AppSignal) (status : ℤ) : List PimCall :=
  match signal with
  | .bdbSignalSteering | .bdbSignalDeviceReboot =>
      applySleepyPollIntervalsIfJoined config zboss attrs status
  | .zdoSignalLeave | .other => []

/-- The attributes, the long poll interval of the PIM and the turbo-poll windows opened so far. -/
structure SleepyPolling where
  attrs : PollControlAttrs
  longPollIntervalMs : UInt32
  windows : List UInt32

namespace SleepyPolling

/-- The PIM takes a call. -/
def pim (polling : SleepyPolling) : PimCall → SleepyPolling
  | .setLongPollInterval ms => { polling with longPollIntervalMs := ms }
  | .startTurboPollContinuous ms => { polling with windows := polling.windows ++ [ms] }

/-- The polling state after a signal. -/
def signal (config : PollConfig) (zboss : ZbossPolling) (polling : SleepyPolling)
    (signal : AppSignal) (status : ℤ) : SleepyPolling :=
  (signalPimCalls config zboss polling.attrs signal status).foldl pim polling

/-- `wake_turbo_poll_cb`. -/
def wakeTurboPollCb (config : PollConfig) (polling : SleepyPolling) : SleepyPolling :=
  polling.pim (.startTurboPollContinuous config.wakeTurboPollMs)

end SleepyPolling

/-- A signal that ends in an attach to a network. -/
def AppSignal.attaches (signal : AppSignal) (status : ℤ) : Bool :=
  match signal with
  | .bdbSignalSteering | .bdbSignalDeviceReboot => status = retOk
  | .zdoSignalLeave | .other => false

/-- A signal after which the device has no network. -/
def AppSignal.parts (signal : AppSignal) (status : ℤ) : Bool :=
  match signal with
  | .bdbSignalSteering => status ≠ retOk
  | .zdoSignalLeave => true
  | .bdbSignalDeviceReboot | .other => false

/-- What the switch of `zboss_signal_handler` leaves in `joined`. -/
def joinedAfterSignal (joined : Bool) (signal : AppSignal) (status : ℤ) : Bool :=
  match signal with
  | .bdbSignalSteering => status = retOk
  | .bdbSignalDeviceReboot => if status = retOk then true else joined
  | .zdoSignalLeave => false
  | .other => joined

theorem joinedAfterSignal_of_attaches {signal : AppSignal} {status : ℤ}
    (attaches : signal.attaches status) (joined : Bool) :
    joinedAfterSignal joined signal status = true := by
  cases signal with
  | bdbSignalSteering | bdbSignalDeviceReboot =>
      have ok : status = retOk := by simpa [AppSignal.attaches] using attaches
      simp [joinedAfterSignal, ok]
  | zdoSignalLeave | other => simp [AppSignal.attaches] at attaches

theorem joinedAfterSignal_of_parts {signal : AppSignal} {status : ℤ}
    (parts : signal.parts status) (joined : Bool) :
    joinedAfterSignal joined signal status = false := by
  cases signal with
  | bdbSignalSteering =>
      have failed : status ≠ retOk := by simpa [AppSignal.parts] using parts
      simp [joinedAfterSignal, failed]
  | zdoSignalLeave => rfl
  | bdbSignalDeviceReboot | other => simp [AppSignal.parts] at parts

/-- A signal that neither attaches nor parts leaves the join state alone. -/
theorem joinedAfterSignal_of_neither {signal : AppSignal} {status : ℤ}
    (not_attaches : ¬ signal.attaches status) (not_parts : ¬ signal.parts status)
    (joined : Bool) : joinedAfterSignal joined signal status = joined := by
  cases signal with
  | bdbSignalSteering =>
      have failed : status ≠ retOk := by simpa [AppSignal.attaches] using not_attaches
      exact absurd (by simp [AppSignal.parts, failed]) not_parts
  | bdbSignalDeviceReboot =>
      have failed : status ≠ retOk := by simpa [AppSignal.attaches] using not_attaches
      simp [joinedAfterSignal, failed]
  | zdoSignalLeave => exact absurd rfl not_parts
  | other => rfl

namespace SleepyPolling

variable {config : PollConfig} {zboss : ZbossPolling} {polling : SleepyPolling}
  {signal : AppSignal} {status : ℤ}

/-- On a sleepy end device an attach pushes the attribute and opens one window. -/
theorem signal_of_attaches (sleepy : config.sleepyEd) (attaches : signal.attaches status) :
    polling.signal config zboss signal status =
      { polling with
        longPollIntervalMs := zboss.quarterSecondsToMsec polling.attrs.longPollInterval
        windows := polling.windows ++ [config.joinTurboPollMs] } := by
  cases signal with
  | bdbSignalSteering | bdbSignalDeviceReboot =>
      have ok : status = retOk := by simpa [AppSignal.attaches] using attaches
      simp [SleepyPolling.signal, signalPimCalls, applySleepyPollIntervalsIfJoined, sleepy, ok, pim]
  | zdoSignalLeave | other => simp [AppSignal.attaches] at attaches

/-- Any other signal leaves the PIM alone. -/
theorem signal_of_not_attaches (stays : ¬ signal.attaches status) :
    polling.signal config zboss signal status = polling := by
  cases signal with
  | bdbSignalSteering | bdbSignalDeviceReboot =>
      have failed : status ≠ retOk := by simpa [AppSignal.attaches] using stays
      simp [SleepyPolling.signal, signalPimCalls, applySleepyPollIntervalsIfJoined, failed]
  | zdoSignalLeave | other => rfl

end SleepyPolling

end PowerMeter
