import PowerMeter.Foundations.Machine

/-!
# Projections of machines

A machine that is part of a larger one sees some of its actions. If each action of the larger
machine does to the part what the action it is seen as does, or leaves the part alone, then every
path of the larger machine projects to a path of the part.
-/

namespace Guarded

namespace Machine

variable {State PartState Action PartAction : Type*}

/-- The part of a state, and what the part sees of an action. -/
structure Projection (whole : Machine State Action) (part : Machine PartState PartAction) where
  state : State → PartState
  seen : Action → Option PartAction
  step_eq : ∀ before action after, whole.step before action = some after →
    match seen action with
    | none => state after = state before
    | some partAction => part.step (state before) partAction = some (state after)

namespace Projection

variable {whole : Machine State Action} {part : Machine PartState PartAction}
  (projection : Projection whole part)

/-- What the part sees of a run. -/
def history (actions : List Action) : List PartAction := actions.filterMap projection.seen

theorem history_concat_none {actions : List Action} {action : Action}
    (unseen : projection.seen action = none) :
    projection.history (actions ++ [action]) = projection.history actions := by
  simp [history, unseen]

theorem history_concat_some {actions : List Action} {action : Action} {partAction : PartAction}
    (seen : projection.seen action = some partAction) :
    projection.history (actions ++ [action]) = projection.history actions ++ [partAction] := by
  simp [history, seen]

/-- An assumption on the part, made about the whole. -/
def lift (admits : Assumption PartState PartAction) : Assumption State Action :=
  fun actions before action => ∀ partAction, projection.seen action = some partAction →
    admits (projection.history actions) (projection.state before) partAction

instance {admits : Assumption PartState PartAction}
    [∀ history before action, Decidable (admits history before action)] (actions : List Action)
    (before : State) (action : Action) : Decidable (projection.lift admits actions before action) :=
  match seen : projection.seen action with
  | none => .isTrue fun partAction seen_eq => by simp [seen] at seen_eq
  | some partAction =>
      decidable_of_iff (admits (projection.history actions) (projection.state before) partAction)
        ⟨fun admitted _ seen_eq => Option.some.inj (seen.symm.trans seen_eq) ▸ admitted,
          fun lifted => lifted partAction seen⟩

/-- A path of the whole is seen as a path of the part. -/
theorem path {admits : Assumption PartState PartAction} {initial final : State}
    {actions : List Action} (path : whole.Path (projection.lift admits) initial actions final) :
    part.Path admits (projection.state initial) (projection.history actions)
      (projection.state final) := by
  induction path with
  | nil => exact .nil
  | @snoc actions before after action _ admitted step induction =>
      have step_eq := projection.step_eq _ _ _ step
      cases seen : projection.seen action with
      | none =>
          rw [seen] at step_eq
          rw [projection.history_concat_none seen, step_eq]
          exact induction
      | some partAction =>
          rw [seen] at step_eq
          rw [projection.history_concat_some seen]
          exact induction.snoc (admitted partAction seen) step_eq

end Projection

end Machine

end Guarded
