import Mathlib.Logic.Relation
import Mathlib.Data.List.Basic

/-!
# Guarded machines and admitted paths

A guarded machine is a partial step function: an action that is not enabled has no successor.
`Machine.run` executes a chronological list of actions. `Machine.Path` is the same execution
under an environment assumption, presented by its final action, so that an invariant may speak
about the whole history of a run.
-/

namespace Guarded

/-- A state machine whose step is defined exactly where the action is enabled. -/
structure Machine (State Action : Type*) where
  /-- Successor of a state under one action, if the action is enabled there. -/
  step : State → Action → Option State

namespace Machine

variable {State Action : Type*}

/-- A guarded step that was taken met its guard. -/
theorem guard_inv {guard : Prop} [Decidable guard] {next after : State}
    (step : (if guard then some next else none) = some after) : guard ∧ next = after := by
  simpa using step

/-- Execute a list of actions, failing at the first one that is not enabled. -/
def run (machine : Machine State Action) : State → List Action → Option State
  | state, [] => some state
  | state, action :: actions =>
      (machine.step state action).bind fun next => machine.run next actions

@[simp]
theorem run_nil (machine : Machine State Action) (state : State) :
    machine.run state [] = some state := rfl

theorem run_cons (machine : Machine State Action) (state : State) (action : Action)
    (actions : List Action) :
    machine.run state (action :: actions) =
      (machine.step state action).bind fun next => machine.run next actions := rfl

theorem run_append (machine : Machine State Action) (state : State)
    (left right : List Action) :
    machine.run state (left ++ right) =
      (machine.run state left).bind fun middle => machine.run middle right := by
  induction left generalizing state with
  | nil => rfl
  | cons action left induction =>
      simp only [List.cons_append, run_cons]
      cases machine.step state action with
      | none => rfl
      | some next => exact induction next

/-- An environment assumption on a step, given the actions before it and the state it leaves. -/
abbrev Assumption (State Action : Type*) := List Action → State → Action → Prop

/-- The assumption that admits every step. -/
def Assumption.any : Assumption State Action := fun _ _ _ => True

instance (history : List Action) (before : State) (action : Action) :
    Decidable (Assumption.any history before action) :=
  .isTrue trivial

/-- A run from `initial` whose steps all meet the assumption, presented by its last step. -/
inductive Path (machine : Machine State Action) (admits : Assumption State Action)
    (initial : State) : List Action → State → Prop
  | nil : Path machine admits initial [] initial
  | snoc {history : List Action} {before after : State} {action : Action} :
      Path machine admits initial history before →
      admits history before action →
      machine.step before action = some after →
      Path machine admits initial (history ++ [action]) after

namespace Path

variable {machine : Machine State Action} {admits : Assumption State Action}
  {initial final : State} {history : List Action}

/-- A path executes. -/
theorem run_eq (path : machine.Path admits initial history final) :
    machine.run initial history = some final := by
  induction path with
  | nil => rfl
  | snoc _ _ step induction => simp [run_append, run_cons, induction, step]

/-- A path goes on with any run of actions the assumption always admits. -/
theorem append_run {state : State} {actions : List Action}
    (path : machine.Path admits initial history state)
    (admitted : ∀ action ∈ actions, ∀ earlier before, admits earlier before action)
    (ran : machine.run state actions = some final) :
    machine.Path admits initial (history ++ actions) final := by
  induction actions generalizing history state with
  | nil =>
      obtain rfl := Option.some.inj ran
      simpa using path
  | cons action actions induction =>
      obtain ⟨next, step, rest⟩ := Option.bind_eq_some_iff.mp ran
      have longer := path.snoc (admitted action List.mem_cons_self history state) step
      have later := induction longer
        (fun action member => admitted action (List.mem_cons_of_mem _ member)) rest
      rwa [List.append_assoc] at later

/-- What holds at the start and is kept by every admitted step holds along every path. -/
theorem invariant (Holds : List Action → State → Prop)
    (start : Holds [] initial)
    (kept : ∀ history before action after, Holds history before →
      admits history before action → machine.step before action = some after →
      Holds (history ++ [action]) after)
    (path : machine.Path admits initial history final) : Holds history final := by
  induction path with
  | nil => exact start
  | snoc _ admitted step induction => exact kept _ _ _ _ induction admitted step

/-- A path whose steps all meet another assumption is a path under it. -/
theorem mono {narrower : Assumption State Action}
    (path : machine.Path admits initial history final)
    (meets : ∀ history before action after, machine.Path admits initial history before →
      admits history before action → machine.step before action = some after →
      narrower history before action) :
    machine.Path narrower initial history final := by
  induction path with
  | nil => exact .nil
  | snoc path admitted step induction =>
      exact .snoc induction (meets _ _ _ _ path admitted step) step

/-- The last step of a nonempty path. -/
theorem snoc_inv {action : Action}
    (path : machine.Path admits initial (history ++ [action]) final) :
    ∃ before, machine.Path admits initial history before ∧
      admits history before action ∧ machine.step before action = some final := by
  generalize whole_eq : history ++ [action] = whole at path
  cases path with
  | nil => simp at whole_eq
  | snoc path admitted step =>
      obtain ⟨rfl, last_eq⟩ := List.append_inj' whole_eq rfl
      obtain rfl := List.singleton_inj.mp last_eq
      exact ⟨_, path, admitted, step⟩

end Path

section Observations

variable {Event : Type*}

/-- What an observer of single steps sees of a run, in order. -/
def observations (machine : Machine State Action) (observe : State → Action → Option Event) :
    State → List Action → List Event
  | _, [] => []
  | state, action :: actions =>
      (machine.step state action).elim [] fun next =>
        (observe state action).toList ++ machine.observations observe next actions

@[simp]
theorem observations_nil (machine : Machine State Action)
    (observe : State → Action → Option Event) (state : State) :
    machine.observations observe state [] = [] := rfl

/-- What is seen of a longer run is what is seen of its two parts. -/
theorem observations_append {machine : Machine State Action}
    (observe : State → Action → Option Event) {initial middle : State}
    {history : List Action} (ran : machine.run initial history = some middle)
    (later : List Action) :
    machine.observations observe initial (history ++ later) =
      machine.observations observe initial history ++
        machine.observations observe middle later := by
  induction history generalizing initial with
  | nil =>
      obtain rfl := Option.some.inj ran
      rfl
  | cons first history induction =>
      obtain ⟨next, first_step, rest⟩ := Option.bind_eq_some_iff.mp ran
      simp [observations, first_step, induction rest]

/-- One more step shows one more observation, if any. -/
theorem observations_concat {machine : Machine State Action}
    (observe : State → Action → Option Event) {initial before after : State}
    {history : List Action} {action : Action} (ran : machine.run initial history = some before)
    (step : machine.step before action = some after) :
    machine.observations observe initial (history ++ [action]) =
      machine.observations observe initial history ++ (observe before action).toList := by
  rw [observations_append observe ran]
  simp [observations, step]

end Observations

/-- Execute a list of actions, failing also at the first one the assumption rejects. -/
def execute (machine : Machine State Action) (admits : Assumption State Action)
    [∀ history before action, Decidable (admits history before action)] :
    List Action → State → List Action → Option State
  | _, state, [] => some state
  | history, state, action :: actions =>
      if admits history state action then
        (machine.step state action).bind fun next =>
          machine.execute admits (history ++ [action]) next actions
      else none

/-- A checked execution is a path. -/
theorem path_of_execute {machine : Machine State Action} {admits : Assumption State Action}
    [∀ history before action, Decidable (admits history before action)]
    {initial final : State} {actions : List Action}
    (executed : machine.execute admits [] initial actions = some final) :
    machine.Path admits initial actions final := by
  suffices extended : ∀ (actions history : List Action) (state : State),
      machine.Path admits initial history state →
      machine.execute admits history state actions = some final →
      machine.Path admits initial (history ++ actions) final from
    extended actions [] initial .nil executed
  intro actions
  induction actions with
  | nil =>
      intro history state path executed
      obtain rfl : state = final := by simpa [execute] using executed
      simpa using path
  | cons action actions induction =>
      intro history state path executed
      rw [execute] at executed
      split at executed
      next admitted =>
        obtain ⟨next, step, rest⟩ := Option.bind_eq_some_iff.mp executed
        simpa using induction (history ++ [action]) next (.snoc path admitted step) rest
      next => simp at executed

end Machine

end Guarded
