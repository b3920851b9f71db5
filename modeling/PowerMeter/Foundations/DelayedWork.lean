import Mathlib.Data.Int.Notation
import Mathlib.Tactic.Ring
import Mathlib.Order.Basic

/-!
# A state driven by one delayable work item

A handler that schedules itself again keeps a state moving with nothing but the clock. Time passes
in whole units; the work fires exactly when its delay has passed. A score lists what such a state
goes through, phase after phase, with the time at which each phase begins.
-/

namespace Guarded

/-- The delay the work item of a state is scheduled for, if it is, and its handler at an uptime. -/
structure DelayedWork (State : Type*) where
  delay : State → Option ℕ
  handler : State → ℤ → Option State

namespace DelayedWork

/-- A state at an uptime, `age` units after its work was scheduled. -/
structure Moment (State : Type*) where
  now : ℤ
  state : State
  age : ℕ

variable {State : Type*} {work : DelayedWork State}

/-- A state whose work has just been scheduled. -/
def fresh (now : ℤ) (state : State) : Moment State := ⟨now, state, 0⟩

/-- One unit of time. -/
def pass (work : DelayedWork State) (moment : Moment State) : Option (Moment State) :=
  if work.delay moment.state = some (moment.age + 1) then
    (work.handler moment.state (moment.now + 1)).map (fresh (moment.now + 1))
  else some ⟨moment.now + 1, moment.state, moment.age + 1⟩

/-- The moment some units later, with no call from outside in between. -/
def later (work : DelayedWork State) (moment : Moment State) : ℕ → Option (Moment State)
  | 0 => some moment
  | elapsed + 1 => (later work moment elapsed).bind (pass work)

theorem later_add (moment : Moment State) (first second : ℕ) :
    work.later moment (first + second) =
      (work.later moment first).bind fun middle => work.later middle second := by
  induction second with
  | zero => simp [later]
  | succ second induction =>
      rw [← Nat.add_assoc, later, induction, Option.bind_assoc]
      rfl

/-- A moment goes on unchanged until its work is due. -/
theorem later_waiting {state : State} {now : ℤ} {elapsed : ℕ}
    (waits : ∀ delay, work.delay state = some delay → elapsed < delay) :
    work.later (fresh now state) elapsed = some ⟨now + elapsed, state, elapsed⟩ := by
  induction elapsed with
  | zero => simp [later, fresh]
  | succ elapsed induction =>
      have earlier : ∀ delay, work.delay state = some delay → elapsed < delay :=
        fun delay scheduled => Nat.lt_of_succ_lt (waits delay scheduled)
      have not_due : work.delay state ≠ some (elapsed + 1) :=
        fun due => Nat.lt_irrefl _ (waits _ due)
      simp only [later, induction earlier, Option.bind_some, pass, not_due, if_false,
        Option.some.injEq, Moment.mk.injEq, and_self, and_true]
      push_cast
      ring

/-- Work that is due runs its handler and starts a new moment. -/
theorem later_due {state next : State} {now : ℤ} {delay : ℕ} (positive : 0 < delay)
    (scheduled : work.delay state = some delay)
    (handled : work.handler state (now + delay) = some next) :
    work.later (fresh now state) delay = some (fresh (now + delay) next) := by
  obtain ⟨before, rfl⟩ := Nat.exists_eq_add_of_lt positive
  have waiting : work.later (fresh now state) before = some ⟨now + before, state, before⟩ := by
    refine later_waiting fun delay also => ?_
    obtain rfl := Option.some.inj (scheduled.symm.trans also)
    omega
  rw [Nat.zero_add] at scheduled handled ⊢
  have uptime : now + (before : ℤ) + 1 = now + (before + 1 : ℕ) := by push_cast; ring
  simp only [later, waiting, Option.bind_some, pass, scheduled, if_true, uptime, handled,
    Option.map_some]

/-- A state goes through the phases one after the other: in each of them its work is scheduled for
the beginning of the next one, where the handler enters it. -/
structure Score (work : DelayedWork State) (start : ℤ) (phase : ℕ → State → Prop)
    (begins : ℕ → ℕ) (count : ℕ) : Prop where
  zero : begins 0 = 0
  lasts : ∀ index < count, begins index < begins (index + 1)
  scheduled : ∀ index < count, ∀ state, phase index state →
    work.delay state = some (begins (index + 1) - begins index)
  turns : ∀ index < count, ∀ state, phase index state →
    ∃ next, work.handler state (start + begins (index + 1)) = some next ∧
      phase (index + 1) next

namespace Score

variable {start : ℤ} {phase : ℕ → State → Prop} {begins : ℕ → ℕ} {count index elapsed : ℕ}
  {state : State}

/-- A phase is entered at its beginning. -/
theorem entered (score : work.Score start phase begins count) (first : phase 0 state)
    (bound : index ≤ count) :
    ∃ next, work.later (fresh start state) (begins index) =
      some (fresh (start + begins index) next) ∧ phase index next := by
  induction index with
  | zero => exact ⟨state, by simp [score.zero, later], first⟩
  | succ index induction =>
      have inside : index < count := bound
      obtain ⟨middle, reached, holds⟩ := induction (Nat.le_of_lt inside)
      have longer := score.lasts index inside
      obtain ⟨next, handled, entered⟩ := score.turns index inside middle holds
      have uptime : start + (begins index : ℤ) + (begins (index + 1) - begins index : ℕ) =
          start + begins (index + 1) := by
        rw [Int.add_assoc, ← Nat.cast_add, Nat.add_sub_cancel' (Nat.le_of_lt longer)]
      have whole : begins index + (begins (index + 1) - begins index) = begins (index + 1) :=
        Nat.add_sub_cancel' (Nat.le_of_lt longer)
      refine ⟨next, ?_, entered⟩
      rw [← whole, later_add, reached, Option.bind_some,
        later_due (Nat.sub_pos_of_lt longer) (score.scheduled index inside middle holds)
          (by rw [uptime]; exact handled), uptime, whole]

/-- After its last phase has begun a state without scheduled work stays as it is. -/
theorem ended (score : work.Score start phase begins count) (first : phase 0 state)
    (rests : ∀ state, phase count state → work.delay state = none)
    (begun : begins count ≤ elapsed) :
    ∃ moment, work.later (fresh start state) elapsed = some moment ∧
      phase count moment.state := by
  obtain ⟨next, reached, holds⟩ := score.entered first (Nat.le_refl count)
  obtain ⟨extra, rfl⟩ := Nat.exists_eq_add_of_le begun
  refine ⟨⟨start + begins count + extra, next, extra⟩, ?_, holds⟩
  rw [later_add, reached, Option.bind_some, later_waiting]
  intro delay scheduled
  rw [rests next holds] at scheduled
  cases scheduled

end Score

end DelayedWork

end Guarded
