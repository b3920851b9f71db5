import Mathlib.Data.List.Basic

/-!
# Properties of event traces

A property of a trace that speaks about every event together with the events before and after it
is extended one event at a time.
-/

namespace Trace

variable {Event : Type*}

/-- Every event of a trace, with the events before and after it, meets a rule. -/
def AtEvery (rule : List Event → Event → List Event → Prop) (trace : List Event) : Prop :=
  ∀ before event after, trace = before ++ event :: after → rule before event after

/-- A split of a longer trace is a split of the shorter one, or falls on the last event. -/
theorem split_concat {trace before after : List Event} {last event : Event}
    (split : trace ++ [last] = before ++ event :: after) :
    (∃ rest, after = rest ++ [last] ∧ trace = before ++ event :: rest) ∨
      after = [] ∧ event = last ∧ before = trace := by
  rcases List.eq_nil_or_concat' after with rfl | ⟨rest, final, rfl⟩
  · obtain ⟨rfl, same⟩ := List.append_inj' split rfl
    exact .inr ⟨rfl, (List.singleton_inj.mp same).symm, rfl⟩
  · rw [← List.cons_append, ← List.append_assoc] at split
    obtain ⟨rfl, same⟩ := List.append_inj' split rfl
    exact .inl ⟨rest, by rw [List.singleton_inj.mp same], rfl⟩

theorem atEvery_concat {rule : List Event → Event → List Event → Prop} {trace : List Event}
    {last : Event}
    (earlier : AtEvery (fun before event after => rule before event (after ++ [last])) trace)
    (new : rule trace last []) : AtEvery rule (trace ++ [last]) := by
  intro before event after split
  rcases split_concat split with ⟨rest, rfl, trace_eq⟩ | ⟨rfl, rfl, rfl⟩
  · exact earlier before event rest trace_eq
  · exact new

theorem AtEvery.imp {rule weaker : List Event → Event → List Event → Prop} {trace : List Event}
    (every : AtEvery rule trace)
    (implies : ∀ before event after, rule before event after → weaker before event after) :
    AtEvery weaker trace :=
  fun before event after split => implies _ _ _ (every before event after split)

end Trace
