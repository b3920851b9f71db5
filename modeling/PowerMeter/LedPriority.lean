import Mathlib.Data.Int.Notation
import Mathlib.Data.Nat.Notation

/-!
# LED patterns and their priority arbiter

`led_priority.c` keeps a single active pattern. A request displaces it only with a numerically
smaller priority, and a request that loses is dropped.
-/

namespace PowerMeter

/-- `enum led_pattern_id`; `outOfRange` stands for any id outside the enumeration. -/
inductive LedPatternId
  | none
  | fatal
  | longPressHold
  | joining
  | joinSuccess
  | joinFail
  | eraseConfirm
  | buttonAck
  | heartbeat
  | outOfRange (code : ℤ)
  deriving DecidableEq

/-- `LED_PATTERN_NONE < pattern < LED_PATTERN_COUNT`. -/
def LedPatternId.dispatchable : LedPatternId → Bool
  | .none => false
  | .outOfRange _ => false
  | _ => true

/-- `enum led_priority`. -/
inductive LedPrio
  | fatal
  | longPressHold
  | joining
  | joinSuccess
  | joinFail
  | eraseConfirm
  | buttonAck
  | heartbeat
  deriving DecidableEq

/-- The numeric priority; lower is stronger. -/
def LedPrio.value : LedPrio → ℕ
  | .fatal => 1
  | .longPressHold => 2
  | .joining => 3
  | .joinSuccess => 4
  | .joinFail => 5
  | .eraseConfirm => 6
  | .buttonAck => 7
  | .heartbeat => 8

/-- `struct led_priority_state`. -/
structure LedPriorityState where
  active : LedPatternId
  activePrio : ℕ
  deriving DecidableEq

namespace LedPriorityState

/-- `led_priority_init`. -/
def init : LedPriorityState := ⟨.none, 0⟩

/-- `led_priority_request`. -/
def request (state : LedPriorityState) (pattern : LedPatternId) (prio : ℕ) :
    Bool × LedPriorityState :=
  if !pattern.dispatchable then (false, state)
  else if state.active = .none ∨ prio < state.activePrio then (true, ⟨pattern, prio⟩)
  else if pattern = state.active then (true, state)
  else (false, state)

/-- `led_priority_cancel`. -/
def cancel (state : LedPriorityState) (pattern : LedPatternId) : LedPriorityState :=
  if state.active = pattern then init else state

/-- `led_priority_selected`. -/
def selected (state : LedPriorityState) : LedPatternId := state.active

end LedPriorityState

/-- A pattern the arbiter can select. -/
def LedPatternId.Selectable (pattern : LedPatternId) : Prop :=
  pattern = .none ∨ pattern.dispatchable

namespace LedPriorityState

variable {state : LedPriorityState}

theorem selectable_init : init.selected.Selectable := .inl rfl

/-- A request keeps the selected pattern in range. -/
theorem selectable_request (selectable : state.selected.Selectable) (pattern : LedPatternId)
    (prio : ℕ) : (state.request pattern prio).2.selected.Selectable := by
  rw [request]
  split
  · exact selectable
  · next valid =>
      split
      · exact .inr (by simpa [selected] using valid)
      · split <;> exact selectable

/-- So does a cancel. -/
theorem selectable_cancel (selectable : state.selected.Selectable) (pattern : LedPatternId) :
    (state.cancel pattern).selected.Selectable := by
  rw [cancel]
  split
  · exact selectable_init
  · exact selectable

end LedPriorityState

end PowerMeter
