import Mathlib.Tactic.ByContra
import PowerMeter.Foundations.Polling

/-!
# The verdict of the join test

`tools/test-join.sh` removes the device from the coordinator's list, verifies the removal, triggers
a join and polls the interview state. The readings of `bridge/devices` are given as feeds indexed by
the number of queries made before; log lines are left out.
-/

namespace PowerMeter.JoinTest

open Polling

/-- What `device_presence` prints. -/
inductive Presence
  | gone
  | present
  | noData
  | queryError
  deriving DecidableEq

/-- `STATE_NAME` of a poll, by the arm of the `case` it selects. -/
inductive StateName
  | successful
  | failed
  | notJoined
  | noData
  | queryError
  | unknown
  | other (name : String)

/-- `OUTCOME`, once it is set. -/
inductive Outcome
  | success
  | stale
  | failed
  | timeout
  deriving DecidableEq

/-- `remove_and_verify`: ten queries, until one reads `GONE`. -/
def removeAndVerify (presence : ℕ → Presence) (asked : ℕ) : Bool × ℕ :=
  pollUntil (fun query => presence query = .gone) 10 asked

/-- `REMOVED` after step 3, and the number of presence queries made: a second remove is issued when
the first one did not take. -/
def removed (presence : ℕ → Presence) : Bool × ℕ :=
  match removeAndVerify presence 0 with
  | (true, asked) => (true, asked)
  | (false, asked) => removeAndVerify presence asked

/-- The variables of the interview loop. -/
structure InterviewWatch where
  outcome : Option Outcome
  sawPreinterview : Bool
  joinedLogged : Bool
  pollErrors : ℕ

/-- The variables before the first poll. -/
def InterviewWatch.start : InterviewWatch := ⟨none, false, false, 0⟩

/-- The arms of the `case` that leave the loop. -/
def StateName.terminal : StateName → Bool
  | .successful | .failed => true
  | .notJoined | .noData | .queryError | .unknown | .other _ => false

/-- The `case` of one poll. -/
def InterviewWatch.poll (watch : InterviewWatch) : StateName → InterviewWatch
  | .successful =>
      { watch with outcome := if watch.sawPreinterview then some .success else some .stale }
  | .failed => { watch with outcome := some .failed }
  | .notJoined => { watch with sawPreinterview := true }
  | .noData | .queryError | .unknown => { watch with pollErrors := watch.pollErrors + 1 }
  | .other _ => { watch with sawPreinterview := true, joinedLogged := true }

/-- `$((INTERVIEW_TIMEOUT_S / 3))`. -/
def interviewPolls : ℕ := 90 / 3

/-- The interview loop of step 6, with the number of polls it made. -/
def interview (states : ℕ → StateName) : InterviewWatch × ℕ :=
  pollNoting (fun poll => (states poll).terminal) (fun poll watch => watch.poll (states poll))
    interviewPolls 0 InterviewWatch.start

/-- The exit status each outcome is mapped to. -/
def Outcome.exitStatus : Outcome → ℕ
  | .success => 0
  | .stale => 3
  | .failed => 1
  | .timeout => 2

/-- How a run of the script ended. -/
structure TestResult where
  exitStatus : ℕ
  presenceQueries : ℕ
  polls : ℕ
  pollErrors : ℕ

/-- Steps 3 to 6 of the script, without `EXPECT_CLUSTERS`, when flashing and the commands of
steps 4 and 5 succeed. -/
def run (presence : ℕ → Presence) (states : ℕ → StateName) : TestResult :=
  match removed presence with
  | (false, asked) => ⟨3, asked, 0, 0⟩
  | (true, asked) =>
      let (watch, polls) := interview states
      ⟨(watch.outcome.getD .timeout).exitStatus, asked, polls, watch.pollErrors⟩

/-- The polls that say something about the device. -/
def StateName.informative : StateName → Bool
  | .noData | .queryError | .unknown => false
  | .successful | .failed | .notJoined | .other _ => true

/-- Some presence query of the two remove attempts read `GONE`. -/
def RemovalVerified (presence : ℕ → Presence) : Prop :=
  ∃ query < 20, presence query = .gone

/-- Number `poll` is the first of the polls that is `SUCCESSFUL` or `FAILED`. -/
def FirstTerminal (states : ℕ → StateName) (poll : ℕ) : Prop :=
  FirstHit (fun poll => (states poll).terminal) 0 interviewPolls poll

/-- Some poll before number `poll` gave real information. -/
def InformedBefore (states : ℕ → StateName) (poll : ℕ) : Prop :=
  ∃ earlier < poll, (states earlier).informative = true

/-- The removal is verified when one of the queries the script makes reads `GONE`. -/
theorem removed_iff (presence : ℕ → Presence) :
    (removed presence).1 = true ↔ RemovalVerified presence := by
  have first := pollUntil_iff (fun query => presence query = .gone) 10 0
  have second := pollUntil_iff (fun query => presence query = .gone) 10 10
  rcases pollUntil_cases (fun query => presence query = .gone) 10 0 with
    ⟨query, hit, result⟩ | ⟨misses, result⟩
  · rw [removed, removeAndVerify, result]
    exact iff_of_true rfl ⟨query, by have := hit.lt_finish; omega, of_decide_eq_true hit.hit⟩
  · rw [removed, removeAndVerify, result]
    refine second.trans ⟨?_, ?_⟩
    · rintro ⟨query, -, before, hit⟩
      exact ⟨query, before, of_decide_eq_true hit⟩
    · rintro ⟨query, before, hit⟩
      rcases Nat.lt_or_ge query 10 with early | late
      · exact absurd hit (of_decide_eq_false (misses query (Nat.zero_le _) (by omega)))
      · exact ⟨query, late, before, decide_eq_true hit⟩

/-- What the loop knows after polls none of which was terminal. -/
structure Watching (states : ℕ → StateName) (polls : ℕ) (watch : InterviewWatch) : Prop where
  undecided : watch.outcome = none
  saw : watch.sawPreinterview = true ↔ InformedBefore states polls

theorem informedBefore_succ {states : ℕ → StateName} {polls : ℕ} :
    InformedBefore states (polls + 1) ↔
      InformedBefore states polls ∨ (states polls).informative = true := by
  constructor
  · rintro ⟨earlier, before, informative⟩
    rcases Nat.lt_succ_iff_lt_or_eq.mp before with before | rfl
    · exact .inl ⟨earlier, before, informative⟩
    · exact .inr informative
  · rintro (⟨earlier, before, informative⟩ | informative)
    · exact ⟨earlier, Nat.lt_succ_of_lt before, informative⟩
    · exact ⟨polls, Nat.lt_succ_self polls, informative⟩

/-- A poll that does not leave the loop counts as evidence when it is informative. -/
theorem Watching.poll {states : ℕ → StateName} {polls : ℕ} {watch : InterviewWatch}
    (continues : (states polls).terminal = false) (watching : Watching states polls watch) :
    Watching states (polls + 1) (watch.poll (states polls)) := by
  have saw := watching.saw
  cases state : states polls with
  | successful => simp [state, StateName.terminal] at continues
  | failed => simp [state, StateName.terminal] at continues
  | notJoined | other name =>
      exact ⟨watching.undecided, iff_of_true rfl (informedBefore_succ.mpr (.inr (by simp [state,
        StateName.informative])))⟩
  | noData | queryError | unknown =>
      refine ⟨watching.undecided, saw.trans (informedBefore_succ.trans ?_).symm⟩
      simp [state, StateName.informative]

/-- The interview loop ends at the first terminal poll, knowing whether an earlier poll was
informative, or makes all its polls. -/
theorem interview_cases (states : ℕ → StateName) :
    (∃ poll watch, FirstTerminal states poll ∧ Watching states poll watch ∧
      interview states = (watch.poll (states poll), poll + 1)) ∨
    (AllMiss (fun poll => (states poll).terminal) 0 interviewPolls ∧
      (interview states).1.outcome = none) := by
  have starts : Watching states 0 InterviewWatch.start := by
    refine ⟨rfl, iff_of_false Bool.false_ne_true ?_⟩
    rintro ⟨earlier, before, -⟩
    exact Nat.not_lt_zero earlier before
  rcases pollNoting_cases (fun _ _ continues watching => watching.poll continues)
      interviewPolls 0 InterviewWatch.start starts with
    ⟨poll, watch, first, watching, result⟩ | ⟨misses, watch, watching, result⟩
  · exact .inl ⟨poll, watch, by simpa [FirstTerminal] using first, watching, result⟩
  · exact .inr ⟨by simpa using misses, by rw [interview, result]; exact watching.undecided⟩

theorem run_of_not_verified {presence : ℕ → Presence} (states : ℕ → StateName)
    (unverified : ¬ RemovalVerified presence) :
    (run presence states).exitStatus = 3 ∧ (run presence states).polls = 0 := by
  have kept : (removed presence).1 = false :=
    (Bool.not_eq_true _).mp fun gone => unverified ((removed_iff presence).mp gone)
  rw [run]
  split
  · exact ⟨rfl, rfl⟩
  · next asked result =>
      rw [result] at kept
      exact absurd kept.symm Bool.false_ne_true

/-- After a verified removal the exit status is that of the interview's outcome. -/
theorem exitStatus_of_verified {presence : ℕ → Presence} (states : ℕ → StateName)
    (verified : RemovalVerified presence) :
    (run presence states).exitStatus =
      ((interview states).1.outcome.getD .timeout).exitStatus := by
  have gone := (removed_iff presence).mpr verified
  rw [run]
  split
  · next asked result =>
      rw [result] at gone
      exact absurd gone Bool.false_ne_true
  · rfl

/-- At the first terminal poll the outcome depends on that poll and on what was known before. -/
theorem outcome_of_firstTerminal {states : ℕ → StateName} {poll : ℕ}
    (first : FirstTerminal states poll) :
    ∃ watch, Watching states poll watch ∧
      (interview states).1.outcome = (watch.poll (states poll)).outcome := by
  rcases interview_cases states with ⟨last, watch, also, watching, result⟩ | ⟨misses, -⟩
  · obtain rfl := first.unique also
    exact ⟨watch, watching, by rw [result]⟩
  · exact absurd misses first.not_allMiss

section

variable {presence : ℕ → Presence} {states : ℕ → StateName} {poll : ℕ}

theorem exitStatus_of_evidence (verified : RemovalVerified presence)
    (first : FirstTerminal states poll) (successful : states poll = .successful)
    (informed : InformedBefore states poll) : (run presence states).exitStatus = 0 := by
  obtain ⟨watch, watching, outcome⟩ := outcome_of_firstTerminal first
  rw [exitStatus_of_verified states verified, outcome, successful, InterviewWatch.poll]
  simp [watching.saw.mpr informed, Outcome.exitStatus]

theorem exitStatus_of_stale (verified : RemovalVerified presence)
    (first : FirstTerminal states poll) (successful : states poll = .successful)
    (uninformed : ¬ InformedBefore states poll) : (run presence states).exitStatus = 3 := by
  obtain ⟨watch, watching, outcome⟩ := outcome_of_firstTerminal first
  have unseen : watch.sawPreinterview = false :=
    (Bool.not_eq_true _).mp fun saw => uninformed (watching.saw.mp saw)
  rw [exitStatus_of_verified states verified, outcome, successful, InterviewWatch.poll]
  simp [unseen, Outcome.exitStatus]

theorem exitStatus_of_failed (verified : RemovalVerified presence)
    (first : FirstTerminal states poll) (failed : states poll = .failed) :
    (run presence states).exitStatus = 1 := by
  obtain ⟨watch, -, outcome⟩ := outcome_of_firstTerminal first
  rw [exitStatus_of_verified states verified, outcome, failed, InterviewWatch.poll]
  rfl

theorem exitStatus_of_timeout (verified : RemovalVerified presence)
    (misses : ∀ poll < interviewPolls, (states poll).terminal = false) :
    (run presence states).exitStatus = 2 := by
  rw [exitStatus_of_verified states verified]
  rcases interview_cases states with ⟨last, -, first, -, -⟩ | ⟨-, undecided⟩
  · exact absurd (fun poll _ before => misses poll before) first.not_allMiss
  · rw [undecided]
    rfl

/-- Exit status 0 is reached on evidence only. -/
theorem evidence_of_passed (passed : (run presence states).exitStatus = 0) :
    RemovalVerified presence ∧ ∃ poll, FirstTerminal states poll ∧
      states poll = .successful ∧ InformedBefore states poll := by
  by_contra unfounded
  by_cases verified : RemovalVerified presence
  · rcases interview_cases states with ⟨poll, -, first, -, -⟩ | ⟨misses, -⟩
    · cases state : states poll with
      | successful =>
          have uninformed : ¬ InformedBefore states poll := fun informed =>
            unfounded ⟨verified, poll, first, state, informed⟩
          simp [exitStatus_of_stale verified first state uninformed] at passed
      | failed => simp [exitStatus_of_failed verified first state] at passed
      | notJoined | noData | queryError | unknown | other name =>
          have terminal := first.hit
          simp [state, StateName.terminal] at terminal
    · have timedOut := exitStatus_of_timeout verified fun poll before =>
        misses poll (Nat.zero_le poll) before
      rw [timedOut] at passed
      exact absurd passed (Nat.succ_ne_zero 1)
  · rw [(run_of_not_verified states verified).1] at passed
    exact absurd passed (Nat.succ_ne_zero 2)

end

/-- The test passes exactly on a verified removal and a first terminal poll that is `SUCCESSFUL`
and comes after an informative one; every other course has its own exit status. -/
theorem passes_on_evidence (presence : ℕ → Presence) (states : ℕ → StateName) :
    ((run presence states).exitStatus = 0 ↔
      RemovalVerified presence ∧ ∃ poll, FirstTerminal states poll ∧
        states poll = .successful ∧ InformedBefore states poll) ∧
    (RemovalVerified presence →
      (∀ poll, FirstTerminal states poll → states poll = .successful →
        ¬ InformedBefore states poll → (run presence states).exitStatus = 3) ∧
      (∀ poll, FirstTerminal states poll → states poll = .failed →
        (run presence states).exitStatus = 1) ∧
      ((∀ poll < interviewPolls, (states poll).terminal = false) →
        (run presence states).exitStatus = 2)) ∧
    (¬ RemovalVerified presence →
      (run presence states).exitStatus = 3 ∧ (run presence states).polls = 0) := by
  refine ⟨⟨evidence_of_passed, ?_⟩, ?_, run_of_not_verified states⟩
  · rintro ⟨verified, poll, first, successful, informed⟩
    exact exitStatus_of_evidence verified first successful informed
  · intro verified
    exact ⟨fun _ first => exitStatus_of_stale verified first,
      fun _ first => exitStatus_of_failed verified first, exitStatus_of_timeout verified⟩

/-- A failed poll before `SUCCESSFUL` is no evidence; `NOT_JOINED` before it is. -/
theorem passes_on_evidence_secondPoll :
    (run (fun _ => .gone) fun poll => if poll = 0 then .noData else .successful).exitStatus = 3 ∧
      (run (fun _ => .gone) fun poll => if poll = 0 then .notJoined else .successful).exitStatus =
        0 := by
  have verified : RemovalVerified fun _ => Presence.gone := ⟨0, by omega, rfl⟩
  have second (early : StateName) (continues : early.terminal = false) :
      FirstTerminal (fun poll => if poll = 0 then early else .successful) 1 := by
    refine ⟨Nat.zero_le 1, by simp [interviewPolls], rfl, ?_⟩
    intro earlier _ before
    obtain rfl := Nat.lt_one_iff.mp before
    exact continues
  refine ⟨((passes_on_evidence _ _).2.1 verified).1 1 (second _ rfl) rfl ?_,
    (passes_on_evidence _ _).1.mpr ⟨verified, 1, second _ rfl, rfl, 0, Nat.one_pos, rfl⟩⟩
  rintro ⟨earlier, before, informative⟩
  obtain rfl := Nat.lt_one_iff.mp before
  exact Bool.false_ne_true informative

end PowerMeter.JoinTest
