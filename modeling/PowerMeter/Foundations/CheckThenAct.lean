import Mathlib.Data.List.Induction
import PowerMeter.Foundations.Machine

/-!
# Check, then act

Parties share a resource without a lock: a party checks that nobody holds it and then, in a later
step, takes it. What was checked may have changed in between. A party that takes the resource on a
timely check, one after which nobody else took it, finds it free; if all of them do, nobody ever
shares it.
-/

namespace Guarded

namespace Machine

variable {State Action Party : Type*}

/-- The actions that matter: a check that looks at the holders, a guess that gives an all-clear
without looking, and the taking of the resource. -/
structure Roles (Action Party : Type*) where
  checks : Action → Option Party
  guesses : Action → Option Party
  takes : Action → Option Party

/-- Since the party last checked it has made no guess and nobody has taken the resource. -/
def Roles.Timely (roles : Roles Action Party) (history : List Action) (party : Party) : Prop :=
  ∃ earlier check later, history = earlier ++ check :: later ∧ roles.checks check = some party ∧
    ∀ action ∈ later, roles.takes action = none ∧ roles.guesses action ≠ some party

/-- Every taking is timely. -/
def Roles.InTime (roles : Roles Action Party) : Assumption State Action :=
  fun history _ action => ∀ party, roles.takes action = some party → roles.Timely history party

/-- A machine in which all-clears come from checks and guesses, and the resource is taken on an
all-clear. -/
structure ChecksThenActs (machine : Machine State Action) (roles : Roles Action Party)
    (holders : State → List Party) (cleared : State → Party → Prop) : Prop where
  evidence : ∀ before action after party, machine.step before action = some after →
    roles.checks action = some party → cleared after party → holders after = []
  source : ∀ before action after party, machine.step before action = some after →
    cleared after party → cleared before party ∨ roles.checks action = some party ∨
      roles.guesses action = some party
  entry : ∀ before action after party, machine.step before action = some after →
    roles.takes action = some party →
      cleared before party ∧ holders after = holders before ++ [party]
  others : ∀ before action after, machine.step before action = some after →
    roles.takes action = none → (holders after).Sublist (holders before)

namespace ChecksThenActs

variable {machine : Machine State Action} {roles : Roles Action Party}
  {holders : State → List Party} {cleared : State → Party → Prop}
  {admits : Assumption State Action} {initial state : State} {history : List Action}
  {party : Party}

/-- On a timely all-clear the resource is free. -/
theorem holders_eq_nil (protocol : machine.ChecksThenActs roles holders cleared)
    (path : machine.Path admits initial history state) (clear : cleared state party)
    (timely : roles.Timely history party) : holders state = [] := by
  obtain ⟨earlier, check, later, rfl, checks, quiet⟩ := timely
  induction later using List.reverseRecOn generalizing state with
  | nil =>
      obtain ⟨before, -, -, step⟩ := path.snoc_inv
      exact protocol.evidence _ _ _ _ step checks clear
  | append_singleton later last induction =>
      rw [← List.cons_append, ← List.append_assoc] at path
      obtain ⟨before, before_path, -, step⟩ := path.snoc_inv
      obtain ⟨untaken, unguessed⟩ := quiet last (by simp)
      rcases protocol.source _ _ _ _ step clear with before_clear | checked | guessed
      · have earlier_quiet : ∀ action ∈ later,
            roles.takes action = none ∧ roles.guesses action ≠ some party :=
          fun action member => quiet action (by simp [member])
        have free := induction before_clear before_path earlier_quiet
        have fewer := protocol.others _ _ _ step untaken
        rw [free] at fewer
        exact List.sublist_nil.mp fewer
      · exact protocol.evidence _ _ _ _ step checked clear
      · exact absurd guessed unguessed

/-- Where every taking is timely nobody shares the resource. -/
theorem exclusive (protocol : machine.ChecksThenActs roles holders cleared)
    (start : (holders initial).length ≤ 1)
    (path : machine.Path roles.InTime initial history state) : (holders state).length ≤ 1 := by
  induction path with
  | nil => exact start
  | @snoc history before after action path inTime step induction =>
      cases takes : roles.takes action with
      | none =>
          apply Nat.le_trans _ induction
          exact (protocol.others _ _ _ step takes).length_le
      | some party =>
          obtain ⟨clear, holders_eq⟩ := protocol.entry _ _ _ _ step takes
          have free := protocol.holders_eq_nil path clear (inTime party takes)
          rw [holders_eq, free]
          simp

end ChecksThenActs

end Machine

end Guarded
