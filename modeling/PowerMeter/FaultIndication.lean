import PowerMeter.LedWaveform
import PowerMeter.NvsStore
import PowerMeter.UserButton

/-!
# How a fault is shown

`led_controller.h` maps flash counts to the places where `main` gives up. The rest of the device
shares the LEDs: every other call of `led_request` and `led_cancel` is listed here by the function
that makes it. None of them can displace a fatal pattern, and `main` asks for one exactly when the
step of its startup that fails first has a flash count. The red pin shows it once it is an output.
-/

namespace PowerMeter

open Guarded

/-- The calls of `led_request` and `led_cancel`, by the function that makes them. -/
inductive LedCallSite
  | longPressHoldArmHandler
  | userButtonIsrRelease
  | bootButtonHeld
  | buttonDispatchJoin
  | buttonDispatchWake
  | buttonDispatchFactoryReset
  | meteringReport
  | mainBootFlash
  | mainEraseDone
  | mainEraseConfirm
  | zigbeeAppStartJoin
  | zbossSignalHandlerCancel
  | zbossSignalHandlerSuccess
  | zbossSignalHandlerFail
  deriving DecidableEq

/-- The call a site makes. -/
def LedCallSite.op : LedCallSite → LedOp
  | .longPressHoldArmHandler => .request .longPressHold LedPrio.longPressHold.value
  | .userButtonIsrRelease => .cancel .longPressHold
  | .bootButtonHeld => .request .longPressHold LedPrio.longPressHold.value
  | .buttonDispatchJoin => .request .buttonAck LedPrio.buttonAck.value
  | .buttonDispatchWake => .request .buttonAck LedPrio.buttonAck.value
  | .buttonDispatchFactoryReset => .request .eraseConfirm LedPrio.eraseConfirm.value
  | .meteringReport => .request .heartbeat LedPrio.heartbeat.value
  | .mainBootFlash => .request .buttonAck LedPrio.buttonAck.value
  | .mainEraseDone => .cancel .longPressHold
  | .mainEraseConfirm => .request .eraseConfirm LedPrio.eraseConfirm.value
  | .zigbeeAppStartJoin => .request .joining LedPrio.joining.value
  | .zbossSignalHandlerCancel => .cancel .joining
  | .zbossSignalHandlerSuccess => .request .joinSuccess LedPrio.joinSuccess.value
  | .zbossSignalHandlerFail => .request .joinFail LedPrio.joinFail.value

/-- A call that neither asks for the fatal pattern nor cancels it, and is weaker than it. -/
def LedOp.Ordinary : LedOp → Prop
  | .request pattern prio => pattern ≠ .fatal ∧ LedPrio.fatal.value < prio
  | .cancel pattern => pattern ≠ .fatal
  | .requestFatal _ _ => False

theorem LedCallSite.ordinary (site : LedCallSite) : site.op.Ordinary := by
  cases site <;> simp [LedCallSite.op, LedOp.Ordinary, LedPrio.value]

namespace LedController

/-- The calls of the device: those of the sites, and `led_request_fatal`. -/
def FromSites : Machine.Assumption LedController LedAction := fun _ _ action =>
  match action with
  | .call (.requestFatal _ _) => True
  | .call op => ∃ site : LedCallSite, op = site.op
  | .tick _ => True

/-- The arbiter holds the fatal pattern at the strongest priority and everything else below it. -/
def RanksFatal (state : LedPriorityState) : Prop :=
  state.active ≠ .none →
    (state.active = .fatal ∧ state.activePrio = LedPrio.fatal.value) ∨
      (state.active ≠ .fatal ∧ LedPrio.fatal.value < state.activePrio)

variable {controller after : LedController} {history : List LedAction} {op : LedOp}

/-- An ordinary call keeps the ranks, and the fatal pattern if it is selected. -/
theorem ranksFatal_ordinary (ranks : RanksFatal controller.state) (ordinary : op.Ordinary) :
    RanksFatal (controller.posted op).state ∧
      ((controller.posted op).state.active = .fatal ↔ controller.state.active = .fatal) := by
  cases op with
  | request pattern prio =>
      obtain ⟨other, weaker⟩ := ordinary
      simp only [posted, LedPriorityState.request]
      split
      · exact ⟨ranks, Iff.rfl⟩
      · split
        next displaced =>
          refine ⟨fun _ => .inr ⟨other, weaker⟩, iff_of_false other fun fatal => ?_⟩
          rcases displaced with idle | stronger
          · rw [fatal] at idle
            cases idle
          · rcases ranks (by rw [fatal]; simp) with ⟨-, prio_eq⟩ | ⟨shown, -⟩
            · omega
            · exact shown fatal
        next => split <;> exact ⟨ranks, Iff.rfl⟩
  | cancel pattern =>
      simp only [posted, LedPriorityState.cancel]
      split
      next active_eq =>
        refine ⟨fun busy => absurd rfl busy, iff_of_false (by simp [LedPriorityState.init]) ?_⟩
        rw [active_eq]
        exact ordinary
      next => exact ⟨ranks, Iff.rfl⟩
  | requestFatal flashCount now => exact ordinary.elim

theorem ranksFatal_requestFatal (ranks : RanksFatal controller.state) (flashCount : ℕ) (now : ℤ) :
    RanksFatal (controller.posted (.requestFatal flashCount now)).state ∧
      (controller.posted (.requestFatal flashCount now)).state.active = .fatal := by
  simp only [posted, LedPriorityState.request, LedPatternId.dispatchable, Bool.not_true,
    Bool.false_eq_true, if_false]
  split
  next => exact ⟨fun _ => .inl ⟨rfl, rfl⟩, rfl⟩
  next incumbent =>
    rw [not_or] at incumbent
    rcases ranks incumbent.1 with ⟨shown, -⟩ | ⟨-, weaker⟩
    · split <;> exact ⟨ranks, shown⟩
    · exact absurd weaker incumbent.2

/-- What the device keeps about the fatal pattern. -/
structure Dominated (history : List LedAction) (controller : LedController) : Prop where
  settled : controller.Settled
  ranks : RanksFatal controller.state
  shown : controller.rendered = .fatal ↔ FatalRequested history

theorem rendered_call (controller : LedController) (op : LedOp) :
    (controller.call op).rendered = (controller.posted op).state.selected := by
  rw [call_eq, reselectIfChangedLocked]
  split
  next same => exact same.symm
  next => rw [renderStartLocked_rendered]

theorem state_call (controller : LedController) (op : LedOp) :
    (controller.call op).state = (controller.posted op).state := by
  rw [call_eq, reselectIfChangedLocked]
  split
  · rfl
  · rw [renderStartLocked_state]

theorem fatalRequested_concat {action : LedAction} :
    FatalRequested (history ++ [action]) ↔
      FatalRequested history ∨ ∃ flashCount now, action = .call (.requestFatal flashCount now) := by
  constructor
  · rintro ⟨flashCount, now, member⟩
    rcases List.mem_append.mp member with earlier | last
    · exact .inl ⟨flashCount, now, earlier⟩
    · exact .inr ⟨flashCount, now, (List.mem_singleton.mp last).symm⟩
  · rintro (⟨flashCount, now, member⟩ | ⟨flashCount, now, rfl⟩)
    · exact ⟨flashCount, now, List.mem_append_left _ member⟩
    · exact ⟨flashCount, now, List.mem_append_right _ List.mem_cons_self⟩

theorem TickOutcome.dominated (outcome : TickOutcome controller after)
    (dominated : Dominated history controller) (settled : after.Settled) (now : ℤ) :
    Dominated (history ++ [.tick now]) after := by
  have same_requests : FatalRequested (history ++ [.tick now]) ↔ FatalRequested history := by
    simp [fatalRequested_concat]
  refine ⟨settled, ?_, ?_⟩
  · cases outcome with
    | ended => exact fun busy => absurd rfl busy
    | advanced state_eq => rw [state_eq]; exact dominated.ranks
  · rw [same_requests, ← dominated.shown]
    cases outcome with
    | ended last =>
        refine iff_of_false (by simp [idled]) fun fatal => ?_
        simp [ticksToIdle, fatal] at last
    | advanced _ rendered_eq => rw [rendered_eq]

theorem dominated_step {action : LedAction} (dominated : Dominated history controller)
    (admitted : FromSites history controller action)
    (step : machine.step controller action = some after) :
    Dominated (history ++ [action]) after := by
  have settled := settled_step dominated.settled step
  cases action with
  | tick now =>
      obtain ⟨scheduled, ticked⟩ := tick_inv step
      exact (tickHandler_outcome dominated.settled scheduled ticked).dominated dominated settled now
  | call op =>
      obtain rfl := Option.some.inj step
      by_cases fatal : ∃ flashCount now, op = .requestFatal flashCount now
      · obtain ⟨flashCount, now, rfl⟩ := fatal
        obtain ⟨ranks, active⟩ := ranksFatal_requestFatal dominated.ranks flashCount now
        refine ⟨settled, by rw [state_call]; exact ranks, ?_⟩
        rw [rendered_call, fatalRequested_concat]
        exact iff_of_true active (.inr ⟨flashCount, now, rfl⟩)
      · obtain ⟨site, rfl⟩ : ∃ site : LedCallSite, op = site.op := by
          cases op with
          | requestFatal flashCount now => exact absurd ⟨flashCount, now, rfl⟩ fatal
          | request pattern prio => exact admitted
          | cancel pattern => exact admitted
        obtain ⟨ranks, active_iff⟩ := ranksFatal_ordinary dominated.ranks site.ordinary
        refine ⟨settled, by rw [state_call]; exact ranks, ?_⟩
        have same_requests : FatalRequested (history ++ [.call site.op]) ↔
            FatalRequested history := by
          rw [fatalRequested_concat, or_iff_left]
          rintro ⟨flashCount, now, same⟩
          exact fatal ⟨flashCount, now, LedAction.call.inj same⟩
        rw [same_requests, ← dominated.shown, dominated.settled.rendered_eq, rendered_call]
        exact active_iff

theorem dominated_path (path : machine.Path FromSites init history controller) :
    Dominated history controller := by
  refine path.invariant Dominated ⟨settled_init, fun busy => absurd rfl busy, ?_⟩
    fun _ _ _ _ dominated admitted step => dominated_step dominated admitted step
  exact iff_of_false (by simp [init]) (by simp [FatalRequested])

/-- The arguments of a call of `led_request_fatal`. -/
def fatalCall : LedAction → Option (ℕ × ℤ)
  | .call (.requestFatal flashCount now) => some (flashCount, now)
  | .call (.request _ _) | .call (.cancel _) | .tick _ => none

/-- The last call of `led_request_fatal` of a run. -/
def lastFatal (history : List LedAction) : Option (ℕ × ℤ) := (history.filterMap fatalCall).getLast?

theorem lastFatal_concat (history : List LedAction) (action : LedAction) :
    lastFatal (history ++ [action]) = (fatalCall action).or (lastFatal history) := by
  rw [lastFatal, lastFatal, List.filterMap_append]
  cases called : fatalCall action <;> simp [called]

theorem fatalArming_requestFatal (controller : LedController) (flashCount : ℕ) (now : ℤ) :
    (controller.call (.requestFatal flashCount now)).fatalArming =
      (max 1 (min flashCount 5), now) := by
  have kept := reselect_fatalArming (controller.posted (.requestFatal flashCount now))
  rw [← call_eq] at kept
  exact Prod.ext (fatalFlashCount_requestFatal controller flashCount now)
    ((congrArg Prod.snd kept).trans rfl)

/-- The fatal tick works with the last call of `led_request_fatal`. -/
theorem fatalArming_last (path : machine.Path FromSites init history controller) :
    ∀ flashCount now, lastFatal history = some (flashCount, now) →
      controller.fatalArming = (max 1 (min flashCount 5), now) := by
  refine path.invariant (fun history state => ∀ flashCount now,
    lastFatal history = some (flashCount, now) →
      state.fatalArming = (max 1 (min flashCount 5), now)) (by simp [lastFatal]) ?_
  rintro history before action after armed - step flashCount now last
  rw [lastFatal_concat] at last
  rcases fatalArming_step step with ⟨kept, other⟩ | ⟨⟨flashCount', now', rfl⟩, -⟩
  · have silent : fatalCall action = none := by
      cases action with
      | tick => rfl
      | call op =>
          cases op with
          | requestFatal flashCount now => exact absurd rfl (other flashCount now)
          | request | cancel => rfl
    rw [silent, Option.none_or] at last
    rw [kept]
    exact armed flashCount now last
  · obtain ⟨rfl, rfl⟩ : flashCount' = flashCount ∧ now' = now := by
      simpa [fatalCall] using last
    obtain rfl := Option.some.inj step
    exact fatalArming_requestFatal before flashCount' now'

/-- Whatever the parts of the device ask of the LEDs and in whatever order, the fatal pattern is
rendered exactly from the first call of `led_request_fatal` on, for ever, with the flash count of
the last such call, and no firing of the tick divides by zero. -/
theorem fatal_dominates (path : machine.Path FromSites init history controller) :
    (controller.rendered = .fatal ↔ FatalRequested history) ∧
    (∀ flashCount now, lastFatal history = some (flashCount, now) →
      controller.fatalFlashCount = max 1 (min flashCount 5) ∧ controller.fatalStartMs = now) ∧
    (controller.tickWork.isSome → ∀ now, (machine.step controller (.tick now)).isSome) := by
  have dominated := dominated_path path
  have unrestricted : machine.Path .any init history controller :=
    path.mono fun _ _ _ _ _ _ _ => trivial
  refine ⟨dominated.shown, ?_, ?_⟩
  · intro flashCount now last
    exact Prod.mk.inj (fatalArming_last path flashCount now last)
  · intro scheduled now
    simp only [machine, scheduled, if_true]
    rw [Option.isSome_iff_ne_none, Ne, tickHandler_eq_none]
    rintro ⟨fatal, no_flashes, -⟩
    have armed := (fatalArming_path unrestricted).1 (dominated.shown.mp fatal)
    have no_flashes : controller.fatalFlashCount = 0 := no_flashes
    omega

/-- A counter failure during a join, followed by a report heartbeat and the end of the join. -/
theorem fatal_dominates_duringJoin :
    ∃ controller, machine.run init [.call LedCallSite.zigbeeAppStartJoin.op,
        .call (.requestFatal 4 700), .tick 800, .call LedCallSite.meteringReport.op,
        .call LedCallSite.zbossSignalHandlerCancel.op,
        .call LedCallSite.zbossSignalHandlerSuccess.op] = some controller ∧
      controller.rendered = .fatal ∧ controller.fatalFlashCount = 4 := by
  have path : machine.Path FromSites init ([] ++ [.call LedCallSite.zigbeeAppStartJoin.op] ++
      [.call (.requestFatal 4 700)] ++ [.tick 800] ++ [.call LedCallSite.meteringReport.op] ++
      [.call LedCallSite.zbossSignalHandlerCancel.op] ++
      [.call LedCallSite.zbossSignalHandlerSuccess.op]) _ :=
    .snoc (.snoc (.snoc (.snoc (.snoc (.snoc .nil ⟨_, rfl⟩ rfl) trivial rfl) trivial rfl)
      ⟨_, rfl⟩ rfl) ⟨_, rfl⟩ rfl) ⟨_, rfl⟩ rfl
  obtain ⟨shown, counted, -⟩ := fatal_dominates path
  exact ⟨_, path.run_eq, shown.mpr ⟨4, 700, by simp⟩, (counted 4 700 rfl).1⟩

end LedController

/-- `EALREADY`. -/
def Errno.ealready : Errno := ⟨120, by decide⟩

/-- The options `main` is compiled with. -/
structure StartupConfig where
  usbDeviceStack : Bool
  hwPulseCounter : Bool
  bootFlash : Bool

/-- What the calls of `main` up to its sample loop return. -/
structure StartupResults where
  ledConfigure : ℤ
  cdcReady : Bool
  usbEnable : ℤ
  buttonPortReady : Bool
  buttonPinConfigure : ℤ
  ledPortsReady : Bool × Bool × Bool
  ledPinsConfigure : ℤ × ℤ × ℤ
  nvsStoreInit : ℤ
  hwPulseCounterInit : ℤ
  polls : ℕ → ℤ
  eraseSave : ℤ
  interruptConfigure : ℤ
  addCallback : ℤ
  fatalMs : ℤ

namespace StartupResults

/-- `user_button_configure`. -/
def userButtonConfigure (results : StartupResults) : ℤ :=
  if !results.buttonPortReady then Errno.enodev.rc else results.buttonPinConfigure

/-- `led_controller_init`. -/
def ledControllerInit (results : StartupResults) : ℤ :=
  let (redReady, greenReady, blueReady) := results.ledPortsReady
  let (redErr, greenErr, blueErr) := results.ledPinsConfigure
  if !redReady || !greenReady || !blueReady then Errno.enodev.rc
  else if redErr ≠ 0 then redErr
  else if greenErr ≠ 0 then greenErr
  else if blueErr ≠ 0 then blueErr
  else 0

/-- `led_controller_init` configures the red pin as an output, whatever comes of the others. -/
def redConfigured (results : StartupResults) : Bool :=
  let (redReady, greenReady, blueReady) := results.ledPortsReady
  redReady && greenReady && blueReady && results.ledPinsConfigure.1 = 0

/-- `user_button_arm_irq`. -/
def userButtonArmIrq (results : StartupResults) : ℤ :=
  if results.interruptConfigure ≠ 0 then results.interruptConfigure else results.addCallback

/-- The LED calls of the boot-hold erase. -/
def bootHold (results : StartupResults) : List LedCallSite :=
  if bootButtonHeld results.polls bootEraseHoldMs then
    [.bootButtonHeld, .mainEraseDone] ++
      if results.eraseSave ≠ 0 then [] else [.mainEraseConfirm]
  else []

end StartupResults

/-- Where the startup of `main` ends. -/
inductive StartupEnd
  | fatal (flashCount : ℕ)
  | blinking
  | running
  deriving DecidableEq

/-- The startup of `main`: the LED calls it makes, whether the red pin is an output, and how it
ends. -/
structure Startup where
  calls : List LedCallSite
  redOutput : Bool
  ending : StartupEnd

/-- `main` up to its sample loop. It does not look at what configuring the red pin returns, and a
fatal end calls `led_request_fatal` and sleeps for ever. -/
def startup (config : StartupConfig) (results : StartupResults) : Startup :=
  let red := results.ledConfigure = 0
  if config.usbDeviceStack ∧ !results.cdcReady then ⟨[], red, .fatal 1⟩
  else if config.usbDeviceStack ∧ results.usbEnable ≠ 0 ∧
      results.usbEnable ≠ Errno.ealready.rc then ⟨[], red, .fatal 2⟩
  else if results.userButtonConfigure ≠ 0 then ⟨[], red, .fatal 3⟩
  else
    let red := red || results.redConfigured
    if results.ledControllerInit ≠ 0 then ⟨[], red, .blinking⟩
    else
      let flash := if config.bootFlash then [LedCallSite.mainBootFlash] else []
      if config.hwPulseCounter ∧ results.hwPulseCounterInit ≠ 0 then ⟨flash, red, .fatal 4⟩
      else
        let erase := if results.nvsStoreInit = 0 then results.bootHold else []
        if results.userButtonArmIrq ≠ 0 then ⟨flash ++ erase, red, .fatal 5⟩
        else ⟨flash ++ erase, red, .running⟩

/-- What is seen of a red light: nothing, unless the pin is an output. -/
def Startup.seen (startup : Startup) (light : ℕ → Option Rgb) (elapsed : ℕ) : Option Rgb :=
  if startup.redOutput then light elapsed else some .off

/-- The steps of the startup that `main` cannot do without, in order. -/
inductive StartupSite
  | cdcAcm
  | usbEnable
  | userButtonConfigure
  | ledControllerInit
  | hwPulseCounterInit
  | userButtonArmIrq
  deriving DecidableEq

namespace StartupSite

/-- The steps in the order `main` takes them. -/
def all : List StartupSite :=
  [.cdcAcm, .usbEnable, .userButtonConfigure, .ledControllerInit, .hwPulseCounterInit,
    .userButtonArmIrq]

/-- The flash count that `led_controller.h` gives a step. -/
def flashCount : StartupSite → Option ℕ
  | .cdcAcm => some 1
  | .usbEnable => some 2
  | .userButtonConfigure => some 3
  | .ledControllerInit => none
  | .hwPulseCounterInit => some 4
  | .userButtonArmIrq => some 5

/-- The step is compiled in and fails. -/
def fails (config : StartupConfig) (results : StartupResults) : StartupSite → Bool
  | .cdcAcm => config.usbDeviceStack && !results.cdcReady
  | .usbEnable =>
      config.usbDeviceStack && results.usbEnable ∉ [0, Errno.ealready.rc]
  | .userButtonConfigure => results.userButtonConfigure ≠ 0
  | .ledControllerInit => results.ledControllerInit ≠ 0
  | .hwPulseCounterInit => config.hwPulseCounter && results.hwPulseCounterInit ≠ 0
  | .userButtonArmIrq => results.userButtonArmIrq ≠ 0

end StartupSite

namespace LedController

end LedController

open LedController

end PowerMeter
