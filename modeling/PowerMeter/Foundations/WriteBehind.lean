import Mathlib.Data.Nat.Notation

/-!
# Write-behind counters

A write-behind counter keeps a volatile tally of events and a durable copy of it. Events wait until
they are collected; a save makes the tally durable; a crash loses what waits and falls back to the
durable copy. The structure carries the two bounds that no crash point breaks.
-/

namespace Guarded

/-- A count of events, those waiting to be collected, the tally and its durable copy. -/
structure WriteBehind where
  events : ℕ
  waiting : ℕ
  tally : ℕ
  durable : ℕ
  durable_le : durable ≤ tally
  accounted : tally + waiting ≤ events

namespace WriteBehind

/-- What can happen to a write-behind counter. -/
inductive Move
  | happen
  | collect
  | save
  | crash

/-- Nothing counted and nothing saved. -/
def zero : WriteBehind where
  events := 0
  waiting := 0
  tally := 0
  durable := 0
  durable_le := Nat.le_refl _
  accounted := Nat.le_refl _

variable (counter : WriteBehind)

/-- Make one move. -/
def react : Move → WriteBehind
  | .happen =>
      { counter with
        events := counter.events + 1
        waiting := counter.waiting + 1
        accounted := Nat.add_le_add_right counter.accounted 1 }
  | .collect =>
      { counter with
        waiting := 0
        tally := counter.tally + counter.waiting
        durable_le := Nat.le_trans counter.durable_le (Nat.le_add_right _ _)
        accounted := counter.accounted }
  | .save =>
      { counter with
        durable := counter.tally
        durable_le := Nat.le_refl _ }
  | .crash =>
      { counter with
        waiting := 0
        tally := counter.durable
        durable_le := Nat.le_refl _
        accounted :=
          Nat.le_trans counter.durable_le (Nat.le_of_add_right_le counter.accounted) }

/-- Make a move, or none. -/
def reactOpt (move : Option Move) : WriteBehind :=
  move.elim counter counter.react

/-- No event is ever tallied twice. -/
theorem tally_le_events : counter.tally ≤ counter.events :=
  Nat.le_of_add_right_le counter.accounted

/-- The tally and what waits fit below any bound on the events. -/
theorem tally_add_waiting_lt {bound : ℕ} (bounded : counter.events < bound) :
    counter.tally + counter.waiting < bound :=
  Nat.lt_of_le_of_lt counter.accounted bounded

end WriteBehind

end Guarded
