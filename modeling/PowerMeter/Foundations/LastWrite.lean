import Mathlib.Data.List.Induction
import Mathlib.Logic.Function.Basic

/-!
# Cells and their last writes

Each cell of a family is empty or holds a value of its own type. A change writes one cell or resets
them all. Replaying a list of changes leaves in a cell its last write since the last reset, and
without such a write what that reset, or the start, put there.
-/

namespace Guarded

/-- The contents of a family of cells. -/
abbrev Cells {Cell : Type*} (Value : Cell → Type*) := ∀ cell, Option (Value cell)

namespace Cells

variable {Cell : Type*} {Value : Cell → Type*}

/-- A write to one cell, or a reset of the whole family. -/
inductive Change (Value : Cell → Type*)
  | write (cell : Cell) (value : Value cell)
  | reset (contents : Cells Value)

/-- The change concerns the cell. -/
def Change.Touches (cell : Cell) : Change Value → Prop
  | .write target _ => target = cell
  | .reset _ => True

/-- No change of the list concerns the cell. -/
def Untouched (cell : Cell) (changes : List (Change Value)) : Prop :=
  ∀ change ∈ changes, ¬ change.Touches cell

/-- The last change of the cell is a write of the value. -/
def LastWrite (changes : List (Change Value)) (cell : Cell) (value : Value cell) : Prop :=
  ∃ earlier later, changes = earlier ++ .write cell value :: later ∧ Untouched cell later

/-- The cell has not been written since the last reset, or the start, gave it the value. -/
def LeftAlone (start : Cells Value) (changes : List (Change Value)) (cell : Cell)
    (value : Value cell) : Prop :=
  (Untouched cell changes ∧ start cell = some value) ∨
    ∃ earlier contents later, changes = earlier ++ .reset contents :: later ∧
      Untouched cell later ∧ contents cell = some value

theorem untouched_nil (cell : Cell) : Untouched cell ([] : List (Change Value)) := by
  intro change member
  simp at member

theorem Untouched.concat {cell : Cell} {changes : List (Change Value)} {change : Change Value}
    (untouched : Untouched cell changes) (spared : ¬ change.Touches cell) :
    Untouched cell (changes ++ [change]) := by
  intro other member
  rcases List.mem_append.mp member with earlier | last
  · exact untouched other earlier
  · rwa [List.mem_singleton.mp last]

section Replay

variable [DecidableEq Cell]

/-- The contents after one change. -/
def apply (contents : Cells Value) : Change Value → Cells Value
  | .write cell value => Function.update contents cell (some value)
  | .reset contents => contents

/-- The contents after a list of changes. -/
def replay (contents : Cells Value) (changes : List (Change Value)) : Cells Value :=
  changes.foldl apply contents

@[simp]
theorem replay_nil (contents : Cells Value) : contents.replay [] = contents := rfl

theorem replay_append (contents : Cells Value) (earlier later : List (Change Value)) :
    contents.replay (earlier ++ later) = (contents.replay earlier).replay later :=
  List.foldl_append

theorem replay_singleton (contents : Cells Value) (change : Change Value) :
    contents.replay [change] = contents.apply change := rfl

theorem apply_of_not_touches (contents : Cells Value) {change : Change Value} {cell : Cell}
    (spared : ¬ change.Touches cell) : contents.apply change cell = contents cell := by
  cases change with
  | write target value => exact Function.update_of_ne (Ne.symm spared) _ _
  | reset => exact absurd trivial spared

/-- What a cell holds after a replay is its last write, or what was left alone there. -/
theorem lastWrite_or_leftAlone {start : Cells Value} {changes : List (Change Value)}
    {cell : Cell} {value : Value cell} (holds : start.replay changes cell = some value) :
    LastWrite changes cell value ∨ LeftAlone start changes cell value := by
  induction changes using List.reverseRecOn with
  | nil => exact Or.inr (Or.inl ⟨untouched_nil cell, holds⟩)
  | append_singleton changes change induction =>
      rw [replay_append, replay_singleton] at holds
      by_cases touches : change.Touches cell
      · cases change with
        | write target written =>
            obtain rfl : target = cell := touches
            obtain rfl : written = value := by simpa [apply] using holds
            exact Or.inl ⟨changes, [], rfl, untouched_nil target⟩
        | reset contents =>
            exact Or.inr (Or.inr ⟨changes, contents, [], rfl, untouched_nil cell, holds⟩)
      · rw [apply_of_not_touches _ touches] at holds
        rcases induction holds with
          ⟨earlier, later, rfl, untouched⟩ |
            ⟨untouched, started⟩ | ⟨earlier, contents, later, rfl, untouched, left⟩
        · exact Or.inl ⟨earlier, later ++ [change], by simp, untouched.concat touches⟩
        · exact Or.inr (Or.inl ⟨untouched.concat touches, started⟩)
        · exact Or.inr (Or.inr
            ⟨earlier, contents, later ++ [change], by simp, untouched.concat touches, left⟩)

end Replay

end Cells

end Guarded
