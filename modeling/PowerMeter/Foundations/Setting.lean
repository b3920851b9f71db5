import Mathlib.Data.List.Basic

/-!
# Persisted settings

A setting holds a value in force that is always valid and, in non-volatile memory, a record that
may be absent or invalid. A valid write takes effect at once and is persisted if its save succeeds;
a reboot restores the persisted value if it is valid and the fallback otherwise.
-/

namespace Guarded

/-- A valid value in force and the record behind it. -/
structure Setting {α : Type*} (valid : α → Bool) where
  inForce : {value : α // valid value = true}
  persisted : Option α

namespace Setting

variable {α : Type*} {valid : α → Bool}

/-- A write with the outcome of its save, or a reboot. -/
inductive Event (α : Type*)
  | write (value : α) (saved : Bool)
  | reboot

/-- The value a boot puts in force. -/
def restore (fallback : {value : α // valid value = true}) (persisted : Option α) :
    {value : α // valid value = true} :=
  match persisted with
  | some value => if accepted : valid value = true then ⟨value, accepted⟩ else fallback
  | none => fallback

/-- The setting after a boot. -/
def boot (fallback : {value : α // valid value = true}) (persisted : Option α) :
    Setting valid :=
  ⟨restore fallback persisted, persisted⟩

/-- React to one event. -/
def react (fallback : {value : α // valid value = true}) (setting : Setting valid) :
    Event α → Setting valid
  | .write value saved =>
      if accepted : valid value = true then
        ⟨⟨value, accepted⟩, if saved then some value else setting.persisted⟩
      else setting
  | .reboot => boot fallback setting.persisted

/-- React to a list of events. -/
def run (fallback : {value : α // valid value = true}) (setting : Setting valid)
    (events : List (Event α)) : Setting valid :=
  events.foldl (react fallback) setting

/-- The record after a list of events: the last valid write whose save succeeded. -/
def lastSaved (valid : α → Bool) (initial : Option α) (events : List (Event α)) : Option α :=
  events.foldl
    (fun persisted event =>
      match event with
      | .write value true => if valid value then some value else persisted
      | _ => persisted)
    initial

/-- Only valid values can be in force. -/
theorem valid_inForce (setting : Setting valid) : valid setting.inForce = true :=
  setting.inForce.property

theorem react_write_of_not_valid {fallback : {value : α // valid value = true}}
    {setting : Setting valid} {value : α} (rejected : valid value ≠ true) (saved : Bool) :
    setting.react fallback (.write value saved) = setting := by
  simp [react, rejected]

theorem react_write_of_valid {fallback : {value : α // valid value = true}}
    {setting : Setting valid} {value : α} (accepted : valid value = true) (saved : Bool) :
    setting.react fallback (.write value saved) =
      ⟨⟨value, accepted⟩, if saved then some value else setting.persisted⟩ := by
  simp [react, accepted]

theorem run_append (fallback : {value : α // valid value = true}) (setting : Setting valid)
    (earlier later : List (Event α)) :
    setting.run fallback (earlier ++ later) = (setting.run fallback earlier).run fallback later :=
  List.foldl_append

/-- The record always is the last valid write whose save succeeded. -/
theorem persisted_run (fallback : {value : α // valid value = true}) (setting : Setting valid)
    (events : List (Event α)) :
    (setting.run fallback events).persisted = lastSaved valid setting.persisted events := by
  induction events generalizing setting with
  | nil => rfl
  | cons event events induction =>
      rw [run, List.foldl_cons, lastSaved, List.foldl_cons]
      refine (induction (setting.react fallback event)).trans ?_
      congr 1
      cases event with
      | reboot => rfl
      | write value saved =>
          by_cases accepted : valid value = true
          · cases saved <;> simp [react_write_of_valid accepted, accepted]
          · cases saved <;> simp [react_write_of_not_valid accepted, accepted]

end Setting

end Guarded
