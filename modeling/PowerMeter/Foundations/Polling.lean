import Mathlib.Data.Nat.Notation
import Mathlib.Order.Basic

/-!
# Polling a feed a bounded number of times

A loop that asks a feed for its next reading, leaves at the first reading that stops it, and gives
up after a fixed number of them. The feed is indexed by the number of readings taken before, so
that several loops may continue one feed.
-/

namespace Polling

/-- The first query of a window whose reading stops the loop. -/
structure FirstHit (stops : ℕ → Bool) (start finish query : ℕ) : Prop where
  start_le : start ≤ query
  lt_finish : query < finish
  hit : stops query = true
  misses : ∀ earlier, start ≤ earlier → earlier < query → stops earlier = false

/-- No query of a window stops the loop. -/
def AllMiss (stops : ℕ → Bool) (start finish : ℕ) : Prop :=
  ∀ query, start ≤ query → query < finish → stops query = false

/-- Poll at most `left` times from query number `asked` on, noting every reading in a state. The
result is the last state and how many queries have been made in all. -/
def pollNoting {State : Type*} (stops : ℕ → Bool) (note : ℕ → State → State) :
    ℕ → ℕ → State → State × ℕ
  | 0, asked, state => (state, asked)
  | left + 1, asked, state =>
      if stops asked then (note asked state, asked + 1)
      else pollNoting stops note left (asked + 1) (note asked state)

/-- Poll for a reading that stops the loop, noting only whether there was one. -/
def pollUntil (stops : ℕ → Bool) (left asked : ℕ) : Bool × ℕ :=
  pollNoting stops (fun query _ => stops query) left asked false

section

variable {stops : ℕ → Bool} {start finish query other : ℕ}

theorem FirstHit.le (first : FirstHit stops start finish query) (start_le : start ≤ other)
    (hit : stops other = true) : query ≤ other := by
  rcases Nat.lt_or_ge other query with earlier | later
  · exact absurd hit (by rw [first.misses other start_le earlier]; exact Bool.false_ne_true)
  · exact later

theorem FirstHit.unique (first : FirstHit stops start finish query)
    (also : FirstHit stops start finish other) : query = other :=
  Nat.le_antisymm (first.le also.start_le also.hit) (also.le first.start_le first.hit)

theorem FirstHit.not_allMiss (first : FirstHit stops start finish query) :
    ¬ AllMiss stops start finish := by
  intro misses
  have missed := misses query first.start_le first.lt_finish
  exact Bool.false_ne_true (missed ▸ first.hit)

/-- A window extended at its start by a query that misses. -/
theorem FirstHit.cons (first : FirstHit stops (start + 1) finish query)
    (missed : stops start = false) : FirstHit stops start finish query where
  start_le := Nat.le_of_succ_le first.start_le
  lt_finish := first.lt_finish
  hit := first.hit
  misses := by
    intro earlier start_le before
    rcases Nat.eq_or_lt_of_le start_le with rfl | after
    · exact missed
    · exact first.misses earlier after before

theorem AllMiss.cons (misses : AllMiss stops (start + 1) finish) (missed : stops start = false) :
    AllMiss stops start finish := by
  intro query start_le before
  rcases Nat.eq_or_lt_of_le start_le with rfl | after
  · exact missed
  · exact misses query after before

/-- Everything a polling loop can do: leave right after the first hit, or exhaust its window. A
property that every miss keeps holds of the state the last reading was noted in. -/
theorem pollNoting_cases {State : Type*} {note : ℕ → State → State}
    {invariant : ℕ → State → Prop}
    (keeps : ∀ query state, stops query = false → invariant query state →
      invariant (query + 1) (note query state))
    (left asked : ℕ) (state : State) (holds : invariant asked state) :
    (∃ query last, FirstHit stops asked (asked + left) query ∧ invariant query last ∧
      pollNoting stops note left asked state = (note query last, query + 1)) ∨
    (AllMiss stops asked (asked + left) ∧ ∃ last, invariant (asked + left) last ∧
      pollNoting stops note left asked state = (last, asked + left)) := by
  induction left generalizing asked state with
  | zero =>
      refine .inr ⟨?_, state, holds, rfl⟩
      intro query start_le before
      omega
  | succ left induction =>
      have window : asked + (left + 1) = asked + 1 + left := by omega
      rw [pollNoting, window]
      cases reading : stops asked with
      | true =>
          refine .inl ⟨asked, state, ⟨Nat.le_refl _, by omega, reading, ?_⟩, holds, rfl⟩
          intro earlier start_le before
          omega
      | false =>
          rw [if_neg Bool.false_ne_true]
          have kept := keeps asked state reading holds
          rcases induction (asked + 1) _ kept with
            ⟨query, last, first, invariant_last, result⟩ | ⟨misses, last, invariant_last, result⟩
          · exact .inl ⟨query, last, first.cons reading, invariant_last, result⟩
          · exact .inr ⟨misses.cons reading, last, invariant_last, result⟩

theorem pollUntil_cases (stops : ℕ → Bool) (left asked : ℕ) :
    (∃ query, FirstHit stops asked (asked + left) query ∧
      pollUntil stops left asked = (true, query + 1)) ∨
    (AllMiss stops asked (asked + left) ∧
      pollUntil stops left asked = (false, asked + left)) := by
  have keeps : ∀ query found, stops query = false → found = false → stops query = false :=
    fun _ _ missed _ => missed
  rcases pollNoting_cases keeps left asked false rfl with
    ⟨query, last, first, -, result⟩ | ⟨misses, last, unfound, result⟩
  · exact .inl ⟨query, first, by rw [pollUntil, result, first.hit]⟩
  · exact .inr ⟨misses, by rw [pollUntil, result, unfound]⟩

/-- The loop succeeds when some query of its window stops it. -/
theorem pollUntil_iff (stops : ℕ → Bool) (left asked : ℕ) :
    (pollUntil stops left asked).1 = true ↔
      ∃ query, asked ≤ query ∧ query < asked + left ∧ stops query = true := by
  rcases pollUntil_cases stops left asked with ⟨query, first, result⟩ | ⟨misses, result⟩
  · rw [result]
    exact iff_of_true rfl ⟨query, first.start_le, first.lt_finish, first.hit⟩
  · rw [result]
    refine iff_of_false Bool.false_ne_true ?_
    rintro ⟨query, start_le, before, hit⟩
    exact Bool.false_ne_true (misses query start_le before ▸ hit)

end

end Polling
