import PowerMeter.LedPriority
import PowerMeter.Foundations.Arbitration

/-!
# The LED arbiter over whole histories

A history is any list of requests and cancels after `led_priority_init`. The two fields of the
arbiter are the leader of the valid requests made since the last reset point.
-/

namespace PowerMeter

open Arbitration

/-- One call to the arbiter. -/
inductive LedCall
  | request (pattern : LedPatternId) (prio : ℕ)
  | cancel (pattern : LedPatternId)
  deriving DecidableEq

/-- The pattern a call names. -/
def LedCall.pattern : LedCall → LedPatternId
  | .request pattern _ => pattern
  | .cancel pattern => pattern

/-- A valid request, as a bid for the LED. -/
abbrev LedBid := Bid LedPatternId ℕ

namespace LedPriorityState

/-- The arbiter after one call. -/
def call (state : LedPriorityState) : LedCall → LedPriorityState
  | .request pattern prio => (state.request pattern prio).2
  | .cancel pattern => state.cancel pattern

/-- The arbiter after a history of calls. -/
def afterCalls (calls : List LedCall) : LedPriorityState :=
  calls.foldl call init

/-- The valid requests since the latest reset point, which is the initialisation or a cancel that
names the pattern then selected. -/
def sinceReset : LedPriorityState → List LedBid → List LedCall → List LedBid
  | _, bids, [] => bids
  | state, bids, .request pattern prio :: calls =>
      sinceReset (state.request pattern prio).2
        (if pattern.dispatchable then bids ++ [⟨pattern, prio⟩] else bids) calls
  | state, bids, .cancel pattern :: calls =>
      sinceReset (state.cancel pattern) (if state.selected = pattern then [] else bids) calls

/-- The valid requests of a whole history since its latest reset point. -/
def validSinceReset (calls : List LedCall) : List LedBid :=
  sinceReset init [] calls

/-- The arbiter that shows a slot. -/
def ofSlot : Option LedBid → LedPriorityState
  | none => init
  | some bid => ⟨bid.item, bid.rank⟩

@[simp]
theorem afterCalls_concat (calls : List LedCall) (last : LedCall) :
    afterCalls (calls ++ [last]) = (afterCalls calls).call last := by
  simp [afterCalls]

theorem dispatchable_ne_none {pattern : LedPatternId} (valid : pattern.dispatchable) :
    pattern ≠ .none := by
  rintro rfl
  simp [LedPatternId.dispatchable] at valid

theorem request_invalid {pattern : LedPatternId} (invalid : ¬ pattern.dispatchable)
    (state : LedPriorityState) (prio : ℕ) : state.request pattern prio = (false, state) := by
  simp [request, invalid]

/-- A valid request is an offer to the slot. -/
theorem request_ofSlot {pattern : LedPatternId} (valid : pattern.dispatchable) (prio : ℕ)
    {slot : Option LedBid} (shown : ∀ held ∈ slot, held.item.dispatchable) :
    ((ofSlot slot).request pattern prio).2 = ofSlot (offer slot ⟨pattern, prio⟩) := by
  cases slot with
  | none => simp [request, valid, ofSlot, init, offer]
  | some held =>
      have active_ne := dispatchable_ne_none (shown held rfl)
      simp only [request, valid, ofSlot, offer, active_ne, false_or]
      by_cases stronger : prio < held.rank
      · simp [stronger]
      · by_cases same : pattern = held.item <;> simp [stronger, same]

/-- A cancel of the selected pattern is a reset point, and any other cancel changes nothing. -/
theorem cancel_eq (state : LedPriorityState) (pattern : LedPatternId) :
    state.cancel pattern = if state.selected = pattern then init else state := rfl

/-- The arbiter shows the leader of the valid bids. -/
structure Shows (state : LedPriorityState) (bids : List LedBid) : Prop where
  state_eq : state = ofSlot (leader bids)
  valid : ∀ bid ∈ bids, bid.item.dispatchable

theorem shows_init : Shows init [] where
  state_eq := rfl
  valid := by simp

theorem Shows.request {state : LedPriorityState} {bids : List LedBid} (shows : Shows state bids)
    (pattern : LedPatternId) (prio : ℕ) :
    Shows (state.request pattern prio).2
      (if pattern.dispatchable then bids ++ [⟨pattern, prio⟩] else bids) := by
  by_cases valid : pattern.dispatchable
  · rw [if_pos valid]
    have shown : ∀ held ∈ leader bids, held.item.dispatchable :=
      fun held held_eq => shows.valid held (leader_mem held_eq)
    refine ⟨?_, ?_⟩
    · rw [leader_concat, shows.state_eq, request_ofSlot valid prio shown]
    · intro bid member
      rcases List.mem_append.mp member with member | member
      · exact shows.valid bid member
      · obtain rfl := List.mem_singleton.mp member
        exact valid
  · rw [if_neg valid, request_invalid valid]
    exact shows

theorem Shows.cancel {state : LedPriorityState} {bids : List LedBid} (shows : Shows state bids)
    (pattern : LedPatternId) :
    Shows (state.cancel pattern) (if state.selected = pattern then [] else bids) := by
  rw [cancel_eq]
  split
  · exact shows_init
  · exact shows

theorem shows_foldl {state : LedPriorityState} {bids : List LedBid} (shows : Shows state bids)
    (calls : List LedCall) : Shows (calls.foldl call state) (sinceReset state bids calls) := by
  induction calls generalizing state bids with
  | nil => exact shows
  | cons first calls induction =>
      cases first with
      | request pattern prio => exact induction (shows.request pattern prio)
      | cancel pattern => exact induction (shows.cancel pattern)

theorem shows_afterCalls (calls : List LedCall) :
    Shows (afterCalls calls) (validSinceReset calls) :=
  shows_foldl shows_init calls

namespace Shows

variable {state : LedPriorityState} {bids : List LedBid}

/-- The arbiter is idle exactly without a valid bid. -/
theorem selected_eq_none (shows : Shows state bids) : state.selected = .none ↔ bids = [] := by
  rw [← leader_eq_none, shows.state_eq]
  cases leader_eq : leader bids with
  | none => simp [ofSlot, init, selected]
  | some best =>
      simpa [ofSlot, selected] using
        dispatchable_ne_none (shows.valid best (leader_mem leader_eq))

/-- Otherwise it shows the earliest among the bids of smallest rank. -/
theorem selected_leader (shows : Shows state bids) (nonempty : bids ≠ []) :
    ∃ before best after, bids = before ++ best :: after ∧
      (∀ bid ∈ before, best.rank < bid.rank) ∧ (∀ bid ∈ after, best.rank ≤ bid.rank) ∧
      state.selected = best.item ∧ state.activePrio = best.rank := by
  cases leader_eq : leader bids with
  | none => exact absurd (leader_eq_none.mp leader_eq) nonempty
  | some best =>
      obtain ⟨before, after, bids_eq, larger, not_smaller⟩ := leader_split leader_eq
      have state_eq := shows.state_eq
      rw [leader_eq] at state_eq
      refine ⟨before, best, after, bids_eq, larger, not_smaller, ?_, ?_⟩
      · rw [state_eq, ofSlot, selected]
      · rw [state_eq, ofSlot]

end Shows

/-- A request returns true exactly when its pattern is valid and is the one selected. -/
theorem request_true_iff (state : LedPriorityState) (pattern : LedPatternId) (prio : ℕ) :
    (state.request pattern prio).1 = true ↔
      pattern.dispatchable ∧ (state.request pattern prio).2.selected = pattern := by
  by_cases valid : pattern.dispatchable
  · simp only [request, valid, Bool.not_true, Bool.false_eq_true, if_false, true_and]
    split
    · simp [selected]
    · split
      next same => simp [selected, same]
      next different => simp [selected, Ne.symm different]
  · simp [request_invalid valid, valid]

/-- One call selects a pattern only if it was selected already or the call requests it. -/
theorem selected_call {state : LedPriorityState} {last : LedCall} {pattern : LedPatternId}
    (shown : (state.call last).selected = pattern) (busy : pattern ≠ .none) :
    state.selected = pattern ∨ ∃ prio, last = .request pattern prio := by
  cases last with
  | request requested prio =>
      simp only [call, request] at shown
      split at shown
      · exact .inl shown
      · split at shown
        · exact .inr ⟨prio, by rw [← shown, selected]⟩
        · split at shown <;> exact .inl shown
  | cancel cancelled =>
      simp only [call, cancel_eq] at shown
      split at shown
      · exact absurd shown.symm busy
      · exact .inl shown

theorem selected_call_ne {state : LedPriorityState} {last : LedCall} {pattern : LedPatternId}
    (busy : pattern ≠ .none) (other : last.pattern ≠ pattern)
    (unselected : state.selected ≠ pattern) : (state.call last).selected ≠ pattern := by
  intro shown
  rcases selected_call shown busy with earlier | ⟨prio, rfl⟩
  · exact unselected earlier
  · exact other rfl

theorem selected_request_ne {state : LedPriorityState} {requested pattern : LedPatternId}
    {prio : ℕ} (busy : pattern ≠ .none) (other : requested ≠ pattern)
    (unselected : state.selected ≠ pattern) :
    (state.request requested prio).2.selected ≠ pattern := by
  intro shown
  rcases selected_call (show (state.call (.request requested prio)).selected = pattern from shown)
    busy with earlier | ⟨same, request_eq⟩
  · exact unselected earlier
  · exact other (LedCall.request.inj request_eq).1

theorem selected_cancel_ne {pattern : LedPatternId} (busy : pattern ≠ .none)
    (state : LedPriorityState) : (state.cancel pattern).selected ≠ pattern := by
  rw [cancel_eq]
  split
  next => exact busy.symm
  next other => exact other

/-- Another pattern is active and a request at this priority loses to it. -/
def Outranks (state : LedPriorityState) (pattern : LedPatternId) (prio : ℕ) : Prop :=
  state.selected ≠ .none ∧ state.selected ≠ pattern ∧ state.activePrio ≤ prio

/-- A valid request leaves its pattern selected unless another outranks it. -/
theorem selected_request_iff {state : LedPriorityState} {pattern : LedPatternId} {prio : ℕ}
    (valid : pattern.dispatchable) :
    (state.request pattern prio).2.selected = pattern ↔ ¬ state.Outranks pattern prio := by
  simp only [request, valid, Bool.not_true, Bool.false_eq_true, if_false, Outranks, selected]
  split
  next wins =>
    rcases wins with idle | weaker
    · simp [idle]
    · simp [Nat.not_le.mpr weaker]
  next loses =>
    rw [not_or, Nat.not_lt] at loses
    split
    next same => simp [← same]
    next other => simp [loses.1, loses.2, Ne.symm other]

/-- A pattern selected after a history was selected before it or requested in it. -/
theorem selected_foldl {state : LedPriorityState} {later : List LedCall}
    {pattern : LedPatternId} (shown : (later.foldl call state).selected = pattern)
    (busy : pattern ≠ .none) :
    state.selected = pattern ∨ ∃ prio, .request pattern prio ∈ later := by
  induction later using List.reverseRecOn generalizing pattern with
  | nil => exact .inl shown
  | append_singleton later last induction =>
      rw [List.foldl_append] at shown
      rcases selected_call shown busy with earlier | ⟨prio, rfl⟩
      · rcases induction earlier busy with held | ⟨prio, member⟩
        · exact .inl held
        · exact .inr ⟨prio, List.mem_append_left _ member⟩
      · exact .inr ⟨prio, List.mem_append_right _ List.mem_cons_self⟩

/-- On every history the arbiter selects the earliest among the valid requests of smallest
priority since the latest reset point, reports each request truthfully, ignores foreign cancels
and never brings a lost request back. -/
theorem arbiter_specification (calls : List LedCall) :
    ((afterCalls calls).selected = .none ↔ validSinceReset calls = []) ∧
    (validSinceReset calls ≠ [] →
      ∃ before best after, validSinceReset calls = before ++ best :: after ∧
        (∀ bid ∈ before, best.rank < bid.rank) ∧ (∀ bid ∈ after, best.rank ≤ bid.rank) ∧
        (afterCalls calls).selected = best.item ∧ (afterCalls calls).activePrio = best.rank) ∧
    (∀ pattern prio, ((afterCalls calls).request pattern prio).1 = true ↔
      pattern.dispatchable ∧
        (afterCalls (calls ++ [.request pattern prio])).selected = pattern) ∧
    (∀ pattern, (afterCalls calls).selected ≠ pattern →
      afterCalls (calls ++ [.cancel pattern]) = afterCalls calls) ∧
    ∀ later pattern, (afterCalls calls).selected ≠ pattern → pattern ≠ .none →
      (afterCalls (calls ++ later)).selected = pattern →
      ∃ prio, .request pattern prio ∈ later := by
  have shows := shows_afterCalls calls
  refine ⟨shows.selected_eq_none, shows.selected_leader, ?_, ?_, ?_⟩
  · intro pattern prio
    rw [afterCalls_concat]
    exact request_true_iff _ pattern prio
  · intro pattern foreign
    rw [afterCalls_concat]
    exact if_neg foreign
  · intro later pattern unselected busy shown
    rw [afterCalls, List.foldl_append] at shown
    rcases selected_foldl shown busy with held | requested
    · exact absurd held unselected
    · exact requested

end LedPriorityState

end PowerMeter
