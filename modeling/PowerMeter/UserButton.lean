import PowerMeter.ButtonPress
import Mathlib.Data.List.Chain

/-!
# The user button

The interrupt handler of the user button and the boot-hold poll of `main.c`. The handler samples
the level itself, takes every sample that is not active for the end of a press, and subtracts a
static start time.
-/

namespace PowerMeter

/-- One invocation of the handler: `k_uptime_get()` and `gpio_pin_get_dt(&user_button)`. -/
structure ButtonSample where
  now : ℤ
  value : ℤ
  deriving DecidableEq

namespace ButtonSample

/-- The handler compares the sampled level with one; an error is not active either. -/
abbrev Active (sample : ButtonSample) : Prop := sample.value = 1

/-- Uptime never goes back. -/
abbrev Ordered (samples : List ButtonSample) : Prop :=
  samples.Pairwise fun before after => before.now ≤ after.now

end ButtonSample

/-- Kernel and LED calls the handler makes. -/
inductive IsrEffect
  | workReschedule (delayMs : UInt32)
  | workCancelDelayable
  | ledCancel (pattern : LedPatternId)
  | atomicSet (duration : ℤ)
  | semGive
  deriving DecidableEq

/-- `INT32_MAX`. -/
def int32Max : ℤ := 2147483647

/-- The static `button_press_start_ms`. -/
structure UserButton where
  pressStartMs : ℤ

namespace UserButton

/-- Statics are zero until the handler first runs. -/
def init : UserButton := ⟨0⟩

/-- The clamped duration of the release branch. -/
def releaseDuration (button : UserButton) (now : ℤ) : ℤ :=
  let duration := now - button.pressStartMs
  let duration := if duration < 0 then 0 else duration
  if duration > int32Max then int32Max else duration

/-- `user_button_isr`. -/
def userButtonIsr (button : UserButton) (sample : ButtonSample) : UserButton × List IsrEffect :=
  if sample.Active then
    ({ pressStartMs := sample.now }, [.workReschedule buttonLongMinMs])
  else
    (button, [.workCancelDelayable, .ledCancel .longPressHold,
      .atomicSet (button.releaseDuration sample.now), .semGive])

/-- The statics after the handler has run on a list of samples. -/
def afterSamples (samples : List ButtonSample) : UserButton :=
  samples.foldl (fun button sample => (button.userButtonIsr sample).1) init

/-- The duration the handler publishes on `sample` after it has run on `front`. -/
def published (front : List ButtonSample) (sample : ButtonSample) : Option ℤ :=
  ((afterSamples front).userButtonIsr sample).2.findSome? fun
    | .atomicSet duration => some duration
    | _ => none

end UserButton

/-- `BOOT_ERASE_HOLD_MS`. -/
def bootEraseHoldMs : ℕ := 3000

/-- `BOOT_ERASE_POLL_MS`. -/
def bootErasePollMs : ℕ := 10

/-- The loop of `boot_button_held`; `polls elapsed` is the level read after `elapsed` ms. -/
def bootButtonHeldFrom (polls : ℕ → ℤ) (thresholdMs elapsed : ℕ) : Bool :=
  if elapsed < thresholdMs then
    if polls elapsed ≠ 1 then false
    else bootButtonHeldFrom polls thresholdMs (elapsed + bootErasePollMs)
  else true
termination_by thresholdMs - elapsed
decreasing_by
  rw [bootErasePollMs]
  omega

/-- `boot_button_held`. -/
def bootButtonHeld (polls : ℕ → ℤ) (thresholdMs : ℕ) : Bool :=
  bootButtonHeldFrom polls thresholdMs 0

theorem bootButtonHeldFrom_iff (polls : ℕ → ℤ) (thresholdMs elapsed : ℕ) :
    bootButtonHeldFrom polls thresholdMs elapsed = true ↔
      ∀ poll, elapsed + bootErasePollMs * poll < thresholdMs →
        polls (elapsed + bootErasePollMs * poll) = 1 := by
  induction elapsed using bootButtonHeldFrom.induct polls thresholdMs with
  | case1 elapsed early released =>
      rw [bootButtonHeldFrom, if_pos early, if_pos released]
      exact iff_of_false (by simp) fun held => released (held 0 early)
  | case2 elapsed early active induction =>
      rw [bootButtonHeldFrom, if_pos early, if_neg active, induction]
      constructor
      · intro held poll within
        cases poll with
        | zero => exact not_not.mp active
        | succ poll =>
            rw [Nat.mul_succ, Nat.add_comm (bootErasePollMs * poll), ← Nat.add_assoc] at within ⊢
            exact held poll within
      · intro held poll within
        rw [Nat.add_assoc, Nat.add_comm bootErasePollMs, ← Nat.mul_succ] at within ⊢
        exact held (poll + 1) within
  | case3 elapsed late =>
      rw [bootButtonHeldFrom, if_neg late]
      exact iff_of_true rfl fun poll within => absurd within (by omega)

/-- The boot-hold gesture is a level that is active at every poll. -/
theorem bootButtonHeld_iff {polls : ℕ → ℤ} {thresholdMs : ℕ} :
    bootButtonHeld polls thresholdMs = true ↔
      ∀ poll, bootErasePollMs * poll < thresholdMs → polls (bootErasePollMs * poll) = 1 := by
  simpa [bootButtonHeld] using bootButtonHeldFrom_iff polls thresholdMs 0

theorem bootButtonHeld_untouched : bootButtonHeld (fun _ => 0) bootEraseHoldMs = false := by
  simp [bootButtonHeld, bootButtonHeldFrom, bootEraseHoldMs]

namespace UserButton

variable {front back samples : List ButtonSample} {sample press release : ButtonSample}

theorem afterSamples_concat (front : List ButtonSample) (sample : ButtonSample) :
    afterSamples (front ++ [sample]) = ((afterSamples front).userButtonIsr sample).1 := by
  simp [afterSamples]

/-- Only a sample that is not active publishes a duration. -/
theorem published_of_active (active : sample.Active) : published front sample = none := by
  rw [published, userButtonIsr, if_pos active]
  rfl

theorem published_of_inactive (inactive : ¬ sample.Active) :
    published front sample = some ((afterSamples front).releaseDuration sample.now) := by
  rw [published, userButtonIsr, if_neg inactive]
  rfl

/-- Whatever was sampled, a published duration fits a signed 32-bit integer. -/
theorem releaseDuration_mem (button : UserButton) (now : ℤ) :
    0 ≤ button.releaseDuration now ∧ button.releaseDuration now ≤ int32Max := by
  simp only [releaseDuration, int32Max]
  split_ifs <;> omega

theorem releaseDuration_of_le {button : UserButton} {now : ℤ} (ordered : button.pressStartMs ≤ now)
    (fits : now - button.pressStartMs ≤ int32Max) :
    button.releaseDuration now = now - button.pressStartMs := by
  simp only [releaseDuration]
  split_ifs <;> omega

/-- A press that no release has consumed: an active sample with only active samples after it. -/
def Unconsumed (front : List ButtonSample) (press : ButtonSample) : Prop :=
  ∃ earlier between, front = earlier ++ press :: between ∧ press.Active ∧
    ∀ sample ∈ between, sample.Active

/-- Every published duration measures a press sampled since arming and not yet consumed, and only
such a press of at least three seconds is dispatched as a factory reset. -/
def OnlyRealPresses (samples : List ButtonSample) : Prop :=
  ∀ front release back, samples = front ++ release :: back →
    ∀ duration, published front release = some duration →
      (∃ press, Unconsumed front press ∧ duration = release.now - press.now) ∧
      ∀ joined, dispatchedAction duration joined = .factoryReset →
        ∃ press, Unconsumed front press ∧
          release.now - press.now ≥ (buttonLongMinMs.toNat : ℤ)

/-- Every sample that is not active comes directly after an active one, and before the duration
reaches its clamp. -/
def ReleasesFollowPresses (samples : List ButtonSample) : Prop :=
  ∀ front release back, samples = front ++ release :: back → ¬ release.Active →
    ∃ press, front.getLast? = some press ∧ press.Active ∧
      release.now - press.now ≤ int32Max

private theorem pressStartMs_of_getLast (last : front.getLast? = some press)
    (active : press.Active) : (afterSamples front).pressStartMs = press.now := by
  obtain ⟨earlier, rfl⟩ := List.getLast?_eq_some_iff.mp last
  rw [afterSamples_concat, userButtonIsr, if_pos active]

/-- A release directly after a press publishes the time between the two samples. -/
private theorem published_of_getLast (last : front.getLast? = some press)
    (active : press.Active) (inactive : ¬ release.Active) (ordered : press.now ≤ release.now)
    (fits : release.now - press.now ≤ int32Max) :
    published front release = some (release.now - press.now) := by
  have start_eq := pressStartMs_of_getLast last active
  rw [published_of_inactive inactive, releaseDuration_of_le, start_eq]
  · rwa [start_eq]
  · rwa [start_eq]

private theorem unconsumed_of_getLast (last : front.getLast? = some press)
    (active : press.Active) : Unconsumed front press := by
  obtain ⟨earlier, rfl⟩ := List.getLast?_eq_some_iff.mp last
  exact ⟨earlier, [], rfl, active, by simp⟩

/-- The last sample before a release with an unconsumed press is active and no earlier than it. -/
private theorem getLast_of_unconsumed (ordered : ButtonSample.Ordered front)
    (unconsumed : Unconsumed front press) :
    ∃ last, front.getLast? = some last ∧ last.Active ∧ press.now ≤ last.now := by
  obtain ⟨earlier, between, rfl, active, between_active⟩ := unconsumed
  rcases between.eq_nil_or_concat with rfl | ⟨inner, last, rfl⟩
  · exact ⟨press, by simp, active, Int.le_refl _⟩
  · have after := (List.pairwise_append.mp ordered).2.1
    refine ⟨last, by simp [List.getLast?_cons], between_active last (by simp), ?_⟩
    exact (List.pairwise_cons.mp after).1 last (by simp)

/-- With uptimes that never go back, the handler publishes nothing but real presses if and only if
every release it samples directly follows a press, within the range of the clamp. -/
theorem onlyRealPresses_iff (ordered : ButtonSample.Ordered samples) :
    OnlyRealPresses samples ↔ ReleasesFollowPresses samples := by
  constructor
  · intro real front release back samples_eq inactive
    subst samples_eq
    obtain ⟨⟨press, unconsumed, duration_eq⟩, -⟩ :=
      real front release back rfl _ (published_of_inactive inactive)
    have front_ordered := (List.pairwise_append.mp ordered).1
    obtain ⟨last, last_eq, active, press_le⟩ := getLast_of_unconsumed front_ordered unconsumed
    have bounded := ((afterSamples front).releaseDuration_mem release.now).2
    exact ⟨last, last_eq, active, by omega⟩
  · intro follows front release back samples_eq duration published_eq
    subst samples_eq
    have inactive : ¬ release.Active := by
      intro active
      rw [published_of_active active] at published_eq
      exact absurd published_eq (by simp)
    obtain ⟨press, last, active, fits⟩ := follows front release back rfl inactive
    have press_le : press.now ≤ release.now :=
      (List.pairwise_append.mp ordered).2.2 press (List.mem_of_getLast? last) release (by simp)
    have unconsumed := unconsumed_of_getLast last active
    obtain rfl : release.now - press.now = duration := by
      rw [published_of_getLast last active inactive press_le fits] at published_eq
      exact Option.some.inj published_eq
    refine ⟨⟨press, unconsumed, rfl⟩, fun joined reset => ⟨press, unconsumed, ?_⟩⟩
    rw [int32Max] at fits
    exact dispatchedAction_eq_factoryReset (by omega) (by omega) reset

/-- A press of 250 ms followed by its release. -/
theorem onlyRealPresses_click : OnlyRealPresses [⟨4000, 1⟩, ⟨4250, 0⟩] := by
  rw [onlyRealPresses_iff (by decide)]
  intro front release back samples_eq inactive
  rcases front with _ | ⟨first, _ | ⟨second, front⟩⟩
  · obtain ⟨rfl, -⟩ := List.cons.inj samples_eq
    exact absurd rfl inactive
  · obtain ⟨rfl, rest_eq⟩ := List.cons.inj samples_eq
    obtain ⟨rfl, -⟩ := List.cons.inj rest_eq
    exact ⟨⟨4000, 1⟩, rfl, rfl, by decide⟩
  · simp at samples_eq

/-- A boot-hold that erases the accumulator is let go nine seconds after boot: the handler sees
only the release, publishes nine seconds, and the dispatch thread takes it for a factory reset. -/
theorem bootHold_letGo_resets :
    bootButtonHeld (fun _ => 1) bootEraseHoldMs = true ∧
      ButtonSample.Ordered [⟨9000, 0⟩] ∧
      published [] ⟨9000, 0⟩ = some 9000 ∧
      (∀ joined, dispatchedAction 9000 joined = .factoryReset) ∧
      ¬ OnlyRealPresses [⟨9000, 0⟩] := by
  refine ⟨?_, by simp, rfl, dispatchedAction_of_long (by decide) (by decide), ?_⟩
  · rw [bootButtonHeld_iff]
    exact fun _ _ => rfl
  · intro real
    obtain ⟨⟨press, ⟨earlier, between, front_eq, -⟩, -⟩, -⟩ := real [] ⟨9000, 0⟩ [] rfl 9000 rfl
    simp at front_eq

end UserButton

end PowerMeter
