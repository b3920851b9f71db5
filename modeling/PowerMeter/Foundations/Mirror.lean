import Mathlib.Data.List.Basic
import Mathlib.Order.Basic

/-!
# Mirrors

A mirror copies a shadow variable to a destination by way of notices. A writer stores into the
shadow and then announces the store; each delivered notice copies whatever the shadow holds by
then. Once every store is announced and every notice delivered, the last copy is the shadow. The
copies never go back as long as no store falls below the latest of them.
-/

namespace Guarded

/-- A shadow variable, the stores not announced yet, the notices on their way, and the copies made
so far. -/
structure Mirror (α : Type*) where
  shadow : α
  unannounced : ℕ
  notices : ℕ
  copies : List α

namespace Mirror

variable {α : Type*}

/-- What writers and deliveries do to a mirror. -/
inductive Move (α : Type*)
  | store (value : α)
  | announce
  | deliver

/-- Make one move. -/
def react (mirror : Mirror α) : Move α → Mirror α
  | .store value =>
      { mirror with
        shadow := value
        unannounced := mirror.unannounced + 1 }
  | .announce =>
      { mirror with
        unannounced := mirror.unannounced - 1
        notices := mirror.notices + 1 }
  | .deliver =>
      { mirror with
        notices := mirror.notices - 1
        copies := mirror.copies ++ [mirror.shadow] }

/-- Make a move, or none. -/
def reactOpt (mirror : Mirror α) (move : Option (Move α)) : Mirror α :=
  move.elim mirror mirror.react

/-- With nothing left to announce or deliver, the last copy is the shadow. -/
def Current (mirror : Mirror α) : Prop :=
  mirror.unannounced = 0 → mirror.notices = 0 → mirror.copies.getLast? = some mirror.shadow

variable {mirror : Mirror α}

/-- Every move leaves a mirror current. -/
theorem current_react (mirror : Mirror α) (move : Move α) : (mirror.react move).Current := by
  cases move with
  | store value => exact fun announced => absurd announced (Nat.succ_ne_zero _)
  | announce => exact fun _ delivered => absurd delivered (Nat.succ_ne_zero _)
  | deliver => exact fun _ _ => List.getLast?_concat

theorem current_reactOpt (current : mirror.Current) (move : Option (Move α)) :
    (mirror.reactOpt move).Current := by
  cases move with
  | none => exact current
  | some move => exact current_react mirror move

variable [Preorder α]

/-- The copies never go back, and the shadow is at least the latest of them. -/
structure Ordered (mirror : Mirror α) : Prop where
  sorted : mirror.copies.Pairwise (· ≤ ·)
  le_shadow : ∀ copy ∈ mirror.copies, copy ≤ mirror.shadow

/-- What is at least the last of some sorted copies is at least all of them. -/
theorem Ordered.le_of_getLast (ordered : mirror.Ordered) {value : α}
    (last_le : ∀ last, mirror.copies.getLast? = some last → last ≤ value) :
    ∀ copy ∈ mirror.copies, copy ≤ value := by
  intro copy member
  rcases List.eq_nil_or_concat' mirror.copies with copies_eq | ⟨front, last, copies_eq⟩
  · simp [copies_eq] at member
  · have sorted := ordered.sorted
    rw [copies_eq] at member sorted last_le
    have below := last_le last List.getLast?_concat
    rcases List.mem_append.mp member with earlier | latest
    · exact ((List.pairwise_append.mp sorted).2.2 copy earlier last (by simp)).trans below
    · obtain rfl := List.mem_singleton.mp latest
      exact below

/-- A move keeps the copies ordered if it stores nothing below the last copy. -/
theorem ordered_react (ordered : mirror.Ordered) {move : Move α}
    (fresh : ∀ value, move = .store value →
      ∀ last, mirror.copies.getLast? = some last → last ≤ value) :
    (mirror.react move).Ordered := by
  cases move with
  | store value => exact ⟨ordered.sorted, ordered.le_of_getLast (fresh value rfl)⟩
  | announce => exact ⟨ordered.sorted, ordered.le_shadow⟩
  | deliver =>
      constructor
      · refine List.pairwise_append.mpr ⟨ordered.sorted, List.pairwise_singleton _ _, ?_⟩
        intro copy member latest latest_member
        obtain rfl := List.mem_singleton.mp latest_member
        exact ordered.le_shadow copy member
      · intro copy member
        rcases List.mem_append.mp member with earlier | latest
        · exact ordered.le_shadow copy earlier
        · obtain rfl := List.mem_singleton.mp latest
          exact le_rfl

theorem ordered_reactOpt (ordered : mirror.Ordered) {move : Option (Move α)}
    (fresh : ∀ value, move = some (.store value) →
      ∀ last, mirror.copies.getLast? = some last → last ≤ value) :
    (mirror.reactOpt move).Ordered := by
  cases move with
  | none => exact ordered
  | some move =>
      apply ordered_react ordered
      rintro value rfl
      exact fresh value rfl

end Mirror

end Guarded
