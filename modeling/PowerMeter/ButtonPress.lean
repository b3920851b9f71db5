import PowerMeter.LedPriority
import Mathlib.Tactic.SplitIfs

/-!
# Press classification and routing

`button_press_classifier.c` sorts a press by its duration into a short, a long or a neutral band,
and `button_action.c` routes the result by the join state.
-/

namespace PowerMeter

/-- `enum button_press_kind`. -/
inductive ButtonPressKind
  | neither
  | short
  | long
  deriving DecidableEq

/-- `struct button_press_classifier`. -/
structure ButtonPressClassifier where
  shortMaxMs : UInt32
  longMinMs : UInt32

/-- `button_press_classifier_classify`. -/
def ButtonPressClassifier.classify (classifier : ButtonPressClassifier) (durationMs : UInt32) :
    ButtonPressKind :=
  if durationMs = 0 then .neither
  else if durationMs < classifier.shortMaxMs then .short
  else if durationMs ≥ classifier.longMinMs then .long
  else .neither

/-- `enum button_action`. -/
inductive ButtonAction
  | none
  | join
  | wake
  | factoryReset
  deriving DecidableEq

/-- `button_action_for_press`. -/
def buttonActionForPress (kind : ButtonPressKind) (joined : Bool) : ButtonAction :=
  match kind with
  | .short => if joined then .wake else .join
  | .long => .factoryReset
  | .neither => .none

/-- `BUTTON_SHORT_MAX_MS`. -/
def buttonShortMaxMs : UInt32 := 1000

/-- `BUTTON_LONG_MIN_MS`. -/
def buttonLongMinMs : UInt32 := 3000

/-- The classifier `main` initializes. -/
def buttonClassifier : ButtonPressClassifier := ⟨buttonShortMaxMs, buttonLongMinMs⟩

/-- The action the dispatch thread takes for a published duration. -/
def dispatchedAction (duration : ℤ) (joined : Bool) : ButtonAction :=
  buttonActionForPress (buttonClassifier.classify (UInt32.ofInt duration)) joined

theorem toNat_ofInt {duration : ℤ} (nonnegative : 0 ≤ duration) (fits : duration < 4294967296) :
    (UInt32.ofInt duration).toNat = duration.toNat := by
  rw [UInt32.ofInt, UInt32.toNat_ofNat']
  omega

/-- Only a duration of at least three seconds is dispatched as a factory reset. -/
theorem dispatchedAction_eq_factoryReset {duration : ℤ} {joined : Bool}
    (nonnegative : 0 ≤ duration) (fits : duration < 4294967296)
    (reset : dispatchedAction duration joined = .factoryReset) : 3000 ≤ duration := by
  have toNat_eq := toNat_ofInt nonnegative fits
  have classified : buttonClassifier.classify (UInt32.ofInt duration) = .long := by
    cases kind : buttonClassifier.classify (UInt32.ofInt duration) with
    | long => rfl
    | neither => simp [dispatchedAction, kind, buttonActionForPress] at reset
    | short => cases joined <;> simp [dispatchedAction, kind, buttonActionForPress] at reset
  have reached : buttonLongMinMs ≤ UInt32.ofInt duration := by
    unfold ButtonPressClassifier.classify at classified
    split_ifs at classified with zero short long
    exact long
  rw [UInt32.le_iff_toNat_le, toNat_eq] at reached
  have long_eq : buttonLongMinMs.toNat = 3000 := rfl
  omega

/-- Every duration of at least three seconds is dispatched as a factory reset, joined or not. -/
theorem dispatchedAction_of_long {duration : ℤ} (long : 3000 ≤ duration)
    (fits : duration < 4294967296) (joined : Bool) :
    dispatchedAction duration joined = .factoryReset := by
  have nonnegative : 0 ≤ duration := by omega
  have toNat_eq := toNat_ofInt nonnegative fits
  have nonzero : UInt32.ofInt duration ≠ 0 := by
    rw [ne_eq, ← UInt32.toNat_inj, toNat_eq, UInt32.toNat_zero]
    omega
  have not_short : ¬ UInt32.ofInt duration < buttonClassifier.shortMaxMs := by
    rw [UInt32.lt_iff_toNat_lt, toNat_eq]
    have short_eq : buttonClassifier.shortMaxMs.toNat = 1000 := rfl
    omega
  have reached : UInt32.ofInt duration ≥ buttonClassifier.longMinMs := by
    rw [ge_iff_le, UInt32.le_iff_toNat_le, toNat_eq]
    have long_eq : buttonClassifier.longMinMs.toNat = 3000 := rfl
    omega
  rw [dispatchedAction, ButtonPressClassifier.classify, if_neg nonzero, if_neg not_short,
    if_pos reached]
  rfl

end PowerMeter
