import PowerMeter.Foundations.Machine

/-!
# Machines that settle

Some actions are a machine's own: it takes them without the environment. If each of them costs work
and one is enabled wherever the machine is not settled, then its own runs are no longer than the
work at their start, end settled if they cannot go on, and can always be extended to a settled
state.
-/

namespace Guarded

namespace Machine

variable {State Action : Type*}

/-- Own actions that use up work while an invariant holds. -/
structure Settling (machine : Machine State Action) (own : Action → Prop)
    (Holds Settled : State → Prop) (work : State → ℕ) : Prop where
  kept : ∀ before action after, Holds before → machine.step before action = some after →
    Holds after
  costs : ∀ before action after, Holds before → own action →
    machine.step before action = some after → work after < work before
  enabled : ∀ state, Holds state → ¬ Settled state →
    ∃ action after, own action ∧ machine.step state action = some after

namespace Settling

variable {machine : Machine State Action} {own : Action → Prop} {Holds Settled : State → Prop}
  {work : State → ℕ} {initial final : State} {actions : List Action}

/-- An own run is paid for by the work at its start. -/
theorem length_le (settling : machine.Settling own Holds Settled work) (holds : Holds initial)
    (owned : ∀ action ∈ actions, own action) (ran : machine.run initial actions = some final) :
    actions.length + work final ≤ work initial := by
  induction actions generalizing initial with
  | nil =>
      obtain rfl := Option.some.inj ran
      simp
  | cons action actions induction =>
      obtain ⟨next, step, rest⟩ := Option.bind_eq_some_iff.mp ran
      have next_holds := settling.kept _ _ _ holds step
      have later := induction next_holds (fun other member => owned other (by simp [member])) rest
      have cost := settling.costs _ _ _ holds (owned action (by simp)) step
      simp only [List.length_cons]
      omega

/-- Where no own action is enabled the machine is settled. -/
theorem settled_of_stuck (settling : machine.Settling own Holds Settled work)
    (holds : Holds final) (stuck : ∀ action, own action → machine.step final action = none) :
    Settled final := by
  by_contra unsettled
  obtain ⟨action, after, owned, step⟩ := settling.enabled final holds unsettled
  rw [stuck action owned] at step
  exact absurd step (by simp)

/-- From every state some own run settles. -/
theorem exists_run (settling : machine.Settling own Holds Settled work) (holds : Holds initial) :
    ∃ actions final, (∀ action ∈ actions, own action) ∧
      machine.run initial actions = some final ∧ Settled final := by
  generalize budget_eq : work initial = budget
  induction budget using Nat.strongRecOn generalizing initial with
  | ind budget induction =>
    by_cases settled : Settled initial
    · exact ⟨[], initial, by simp, rfl, settled⟩
    · obtain ⟨action, next, owned, step⟩ := settling.enabled initial holds settled
      have cost := settling.costs _ _ _ holds owned step
      obtain ⟨actions, final, rest_owned, rest, final_settled⟩ :=
        induction (work next) (budget_eq ▸ cost) (settling.kept _ _ _ holds step) rfl
      refine ⟨action :: actions, final, ?_, ?_, final_settled⟩
      · simpa using ⟨owned, rest_owned⟩
      · rw [run_cons, step]
        exact rest

end Settling

end Machine

end Guarded
