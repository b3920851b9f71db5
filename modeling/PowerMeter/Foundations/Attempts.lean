import Mathlib.Tactic.ByContra

/-!
# Attempts

A loop tries until an attempt ends it. An attempt that does not end it may leave a verdict, and
when the attempts run out the verdict that was left last stands.
-/

namespace Attempts

variable {Attempt Verdict Ending : Type*} {judge : Attempt → Except Ending (Option Verdict)}
  {attempt : Option Verdict → Attempt → Except Ending (Option Verdict)}

/-- What an attempt comes to does not depend on the verdict before it. -/
def Judges (attempt : Option Verdict → Attempt → Except Ending (Option Verdict))
    (judge : Attempt → Except Ending (Option Verdict)) : Prop :=
  ∀ standing tried, attempt standing tried = (judge tried).map (·.or standing)

/-- The attempt does not end the loop. -/
def GoesOn (judge : Attempt → Except Ending (Option Verdict)) (tried : Attempt) : Prop :=
  ∃ left, judge tried = .ok left

/-- The verdict an attempt leaves. -/
def left (judge : Attempt → Except Ending (Option Verdict)) (tried : Attempt) : Option Verdict :=
  match judge tried with
  | .ok left => left
  | .error _ => none

theorem left_of_ok {tried : Attempt} {verdict : Option Verdict}
    (judged : judge tried = .ok verdict) : left judge tried = verdict := by
  rw [left, judged]

theorem Judges.foldlM_cons (judges : Judges attempt judge) (standing : Option Verdict)
    (tried : Attempt) (attempts : List Attempt) :
    (tried :: attempts).foldlM attempt standing =
      (judge tried).bind fun left => attempts.foldlM attempt (left.or standing) := by
  rw [List.foldlM_cons, judges]
  cases judge tried <;> rfl

/-- The loop ends early with the first attempt that ends it. -/
theorem Judges.foldlM_eq_error_iff (judges : Judges attempt judge) {standing : Option Verdict}
    {attempts : List Attempt} {ending : Ending} :
    attempts.foldlM attempt standing = .error ending ↔
      ∃ earlier tried later, attempts = earlier ++ tried :: later ∧
        (∀ other ∈ earlier, GoesOn judge other) ∧ judge tried = .error ending := by
  induction attempts generalizing standing with
  | nil =>
      constructor
      · intro ended
        cases ended
      · rintro ⟨earlier, tried, later, split, -⟩
        simp at split
  | cons tried attempts induction =>
      rw [judges.foldlM_cons]
      cases judged : judge tried with
      | error other =>
          constructor
          · intro ended
            exact ⟨[], tried, attempts, rfl, by simp, judged.trans ended⟩
          · rintro ⟨earlier, last, later, split, goes_on, ended⟩
            cases earlier with
            | nil =>
                obtain ⟨rfl, rfl⟩ := List.cons.inj split
                exact judged.symm.trans ended
            | cons first earlier =>
                obtain ⟨rfl, rfl⟩ := List.cons.inj split
                obtain ⟨left, ok⟩ := goes_on tried List.mem_cons_self
                rw [judged] at ok
                cases ok
      | ok left =>
          refine (@induction (left.or standing)).trans ?_
          constructor
          · rintro ⟨earlier, last, later, rfl, goes_on, ended⟩
            refine ⟨tried :: earlier, last, later, rfl, ?_, ended⟩
            intro other member
            rcases List.mem_cons.mp member with rfl | member
            · exact ⟨left, judged⟩
            · exact goes_on other member
          · rintro ⟨earlier, last, later, split, goes_on, ended⟩
            cases earlier with
            | nil =>
                obtain ⟨rfl, rfl⟩ := List.cons.inj split
                rw [judged] at ended
                cases ended
            | cons first earlier =>
                obtain ⟨rfl, rfl⟩ := List.cons.inj split
                exact ⟨earlier, last, later, rfl,
                  fun other member => goes_on other (List.mem_cons_of_mem _ member), ended⟩

/-- An attempt that does not go on ends the loop. -/
theorem Judges.exists_error (judges : Judges attempt judge) {standing : Option Verdict}
    {attempts : List Attempt} (stops : ¬ ∀ tried ∈ attempts, GoesOn judge tried) :
    ∃ ending, attempts.foldlM attempt standing = .error ending := by
  induction attempts generalizing standing with
  | nil => simp at stops
  | cons tried attempts induction =>
      rw [judges.foldlM_cons]
      cases judged : judge tried with
      | error ending => exact ⟨ending, rfl⟩
      | ok verdict =>
          apply induction
          intro rest
          apply stops
          intro other member
          rcases List.mem_cons.mp member with rfl | member
          · exact ⟨verdict, judged⟩
          · exact rest other member

/-- When every attempt goes on, the verdict that was left last stands. -/
theorem Judges.foldlM_eq_ok (judges : Judges attempt judge) {standing : Option Verdict}
    {attempts : List Attempt} (goes_on : ∀ tried ∈ attempts, GoesOn judge tried) :
    attempts.foldlM attempt standing =
      .ok ((attempts.filterMap (left judge)).getLast?.or standing) := by
  induction attempts generalizing standing with
  | nil => rfl
  | cons tried attempts induction =>
      obtain ⟨verdict, judged⟩ := goes_on tried List.mem_cons_self
      have rest := @induction (verdict.or standing) fun other member =>
        goes_on other (List.mem_cons_of_mem _ member)
      rw [judges.foldlM_cons, judged]
      refine rest.trans ?_
      cases verdict with
      | none => rw [List.filterMap_cons_none (left_of_ok judged), Option.none_or]
      | some verdict =>
          rw [List.filterMap_cons_some (left_of_ok judged), List.getLast?_cons]
          cases (attempts.filterMap (left judge)).getLast? <;> rfl

theorem getLast?_filterMap_eq_some_iff {given : Attempt → Option Verdict} {attempts : List Attempt}
    {verdict : Verdict} :
    (attempts.filterMap given).getLast? = some verdict ↔
      ∃ earlier tried later, attempts = earlier ++ tried :: later ∧ given tried = some verdict ∧
        ∀ other ∈ later, given other = none := by
  rw [List.getLast?_filterMap, List.findSome?_eq_some_iff]
  constructor
  · rintro ⟨later, tried, earlier, split, gives, silent⟩
    refine ⟨earlier.reverse, tried, later.reverse, ?_, gives, by simpa using silent⟩
    simpa using congrArg List.reverse split
  · rintro ⟨earlier, tried, later, rfl, gives, silent⟩
    exact ⟨later.reverse, tried, earlier.reverse, by simp, gives, by simpa using silent⟩

/-- The loop runs out of attempts on a verdict exactly when every attempt goes on and the last one
that leaves a verdict leaves this one. -/
theorem Judges.foldlM_eq_ok_iff (judges : Judges attempt judge) {attempts : List Attempt}
    {verdict : Verdict} :
    attempts.foldlM attempt none = .ok (some verdict) ↔
      (∀ tried ∈ attempts, GoesOn judge tried) ∧
        ∃ earlier tried later, attempts = earlier ++ tried :: later ∧
          left judge tried = some verdict ∧ ∀ other ∈ later, left judge other = none := by
  rw [← getLast?_filterMap_eq_some_iff]
  constructor
  · intro ran_out
    have goes_on : ∀ tried ∈ attempts, GoesOn judge tried := by
      by_contra stops
      obtain ⟨ending, ended⟩ := judges.exists_error stops
      rw [ended] at ran_out
      cases ran_out
    refine ⟨goes_on, ?_⟩
    rw [judges.foldlM_eq_ok goes_on, Option.or_none] at ran_out
    exact Except.ok.inj ran_out
  · rintro ⟨goes_on, last⟩
    rw [judges.foldlM_eq_ok goes_on, Option.or_none, last]

end Attempts
