import Mathlib.Tactic.ByContra
import PowerMeter.Foundations.Polling

/-!
# The guard of the SWD bus

`tools/lib-swd.sh` decides that no `openocd` drives the two SWD wires by counting the processes the
Pi lists. A rig answers each process query with the list of live processes, or the query fails: the
Pi cannot be reached, or `pgrep` cannot be run there.
-/

namespace PowerMeter.SwdBus

open Polling

/-- A finished command: the lines it printed and its exit status. -/
structure Completed where
  stdout : List String
  status : ℕ

/-- `command || true`. -/
def Completed.orTrue (command : Completed) : Completed := { command with status := 0 }

/-- Why a process query gives no answer. -/
inductive QueryFailure
  | sshUnreachable
  | pgrepNotRunnable
  deriving DecidableEq

/-- The Pi at the time of one process query. -/
structure ProcessQuery where
  failure : Option QueryFailure
  live : List ℕ

/-- `pgrep -x openocd` on the Pi. -/
def pgrep (query : ProcessQuery) : Completed :=
  if query.failure = some .pgrepNotRunnable then ⟨[], 127⟩
  else ⟨query.live.map toString, if query.live = [] then 1 else 0⟩

/-- `ssh "$PI_ALIAS"` with a remote command. -/
def ssh (query : ProcessQuery) (remote : Completed) : Completed :=
  if query.failure = some .sshUnreachable then ⟨[], 255⟩ else remote

/-- `pi_openocd_pids`. -/
def piOpenocdPids (query : ProcessQuery) : Completed :=
  (ssh query (pgrep query).orTrue).orTrue

/-- The number `grep -c .` prints. -/
def grepCount (input : List String) : ℕ := input.countP (· ≠ "")

/-- The number `pi_openocd_count` prints. -/
def piOpenocdCount (query : ProcessQuery) : ℕ := grepCount (piOpenocdPids query).stdout

/-- A Pi over a run of one function: its answers are indexed by the process queries made before. -/
structure Rig where
  piAlias : String
  openocdTelnetPort : ℕ
  telnetResponsive : Bool
  queries : ℕ → ProcessQuery

/-- What a function returned, and how many process queries it issued. -/
structure GuardResult where
  status : ℕ
  issued : ℕ
  stderr : List String

/-- `pi_openocd_manual_clear_advice`. -/
def Rig.manualClearAdvice (rig : Rig) : List String :=
  ["  Clear it interactively — needs your password, because passwordless",
    "  sudo on the Pi is scoped to openocd only:",
    "    ssh " ++ rig.piAlias ++ " 'sudo pkill -x openocd'"]

/-- `pi_release_swd_bus`: six more queries follow the shutdown request. -/
def Rig.piReleaseSwdBus (rig : Rig) : GuardResult :=
  if piOpenocdCount (rig.queries 0) = 0 then ⟨0, 1, []⟩
  else
    match pollUntil (fun query => piOpenocdCount (rig.queries query) = 0) 6 1 with
    | (true, issued) => ⟨0, issued, []⟩
    | (false, issued) => ⟨1, issued, []⟩

/-- `pi_assert_swd_bus_free`: the refusal lists the processes, which is a second query. -/
def Rig.piAssertSwdBusFree (rig : Rig) : GuardResult :=
  let n := piOpenocdCount (rig.queries 0)
  if n = 0 then ⟨0, 1, []⟩
  else
    ⟨1, 2,
      ["error: " ++ toString n ++ " openocd process(es) already hold the SWD bus on " ++
          rig.piAlias ++ ".",
        "  PIDs: " ++ String.join ((piOpenocdPids (rig.queries 1)).stdout.map (· ++ " ")),
        "  Proceeding risks a partially-erased app slot (see issue #68).", "",
        "  Almost always a leaked tools/rtt-tail.sh. Clear it with:",
        "    ./tools/rtt-tail.sh --stop", ""] ++
      if rig.telnetResponsive then []
      else
        ["  NOTE: nothing is listening on telnet port " ++ toString rig.openocdTelnetPort ++
            ", so this",
          "  openocd cannot be shut down gracefully — it lost the port bind but",
          "  still holds the bus. --stop will NOT clear it."] ++ rig.manualClearAdvice⟩

/-- A query that proves the bus free: it was answered, with no process. -/
def ProcessQuery.ReportsFree (query : ProcessQuery) : Prop :=
  query.failure = none ∧ query.live = []

/-- Success is returned only on the evidence of the last query. -/
def Rig.Proven (rig : Rig) (result : GuardResult) : Prop :=
  result.status = 0 →
    ∃ last, result.issued = last + 1 ∧ (rig.queries last).ReportsFree

/-- Every line `pgrep` prints is counted. -/
theorem grepCount_map_toString (pids : List ℕ) : grepCount (pids.map toString) = pids.length := by
  have counted : ∀ line ∈ pids.map toString, decide (line ≠ "") = true := by
    intro line member
    obtain ⟨pid, -, rfl⟩ := List.mem_map.mp member
    exact decide_eq_true Nat.repr_ne_empty
  rw [grepCount, List.countP_eq_length.mpr counted, List.length_map]

/-- A failed query is counted like an answer without processes. -/
theorem piOpenocdCount_eq (query : ProcessQuery) :
    piOpenocdCount query = if query.failure = none then query.live.length else 0 := by
  rcases query with ⟨failure, live⟩
  cases failure with
  | none => exact grepCount_map_toString live
  | some failure =>
      cases failure with
      | sshUnreachable => rfl
      | pgrepNotRunnable => rfl

theorem piOpenocdCount_eq_zero_iff (query : ProcessQuery) :
    piOpenocdCount query = 0 ↔ query.failure ≠ none ∨ query.ReportsFree := by
  rw [piOpenocdCount_eq, ProcessQuery.ReportsFree]
  by_cases answered : query.failure = none
  · simp [answered]
  · simp [answered]

/-- Releasing the bus succeeds at the first of seven queries that counts no process. -/
theorem piReleaseSwdBus_cases (rig : Rig) :
    (∃ last, FirstHit (fun query => piOpenocdCount (rig.queries query) = 0) 0 7 last ∧
      rig.piReleaseSwdBus.status = 0 ∧ rig.piReleaseSwdBus.issued = last + 1) ∨
    (AllMiss (fun query => piOpenocdCount (rig.queries query) = 0) 0 7 ∧
      rig.piReleaseSwdBus.status = 1) := by
  rw [Rig.piReleaseSwdBus]
  by_cases free : piOpenocdCount (rig.queries 0) = 0
  · rw [if_pos free]
    refine .inl ⟨0, ⟨Nat.le_refl 0, by omega, decide_eq_true free, ?_⟩, rfl, rfl⟩
    intro earlier _ before
    omega
  · rw [if_neg free]
    rcases pollUntil_cases (fun query => piOpenocdCount (rig.queries query) = 0) 6 1 with
      ⟨last, first, result⟩ | ⟨misses, result⟩
    · rw [result]
      exact .inl ⟨last, first.cons (decide_eq_false free), rfl, rfl⟩
    · rw [result]
      exact .inr ⟨misses.cons (decide_eq_false free), rfl⟩

/-- Asserting the bus free succeeds when the first query counts no process. -/
theorem piAssertSwdBusFree_cases (rig : Rig) :
    (piOpenocdCount (rig.queries 0) = 0 ∧
      rig.piAssertSwdBusFree.status = 0 ∧ rig.piAssertSwdBusFree.issued = 1) ∨
    (piOpenocdCount (rig.queries 0) ≠ 0 ∧ rig.piAssertSwdBusFree.status = 1) := by
  by_cases free : piOpenocdCount (rig.queries 0) = 0
  · simp [Rig.piAssertSwdBusFree, free]
  · simp [Rig.piAssertSwdBusFree, free]

/-- A success after query `last` is proven by what that query reported. -/
theorem Rig.proven_iff {rig : Rig} {result : GuardResult} {last : ℕ} (succeeds : result.status = 0)
    (issued : result.issued = last + 1) :
    rig.Proven result ↔ (rig.queries last).ReportsFree := by
  refine ⟨?_, fun free _ => ⟨last, issued, free⟩⟩
  intro proven
  obtain ⟨query, issued_eq, free⟩ := proven succeeds
  obtain rfl : last = query := Nat.succ.inj (issued.symm.trans issued_eq)
  exact free

theorem piAssertSwdBusFree_proven_iff (rig : Rig) :
    rig.Proven rig.piAssertSwdBusFree ↔ (rig.queries 0).failure = none := by
  rcases piAssertSwdBusFree_cases rig with ⟨counted, succeeds, issued⟩ | ⟨counted, refuses⟩
  · rw [Rig.proven_iff succeeds issued]
    refine ⟨And.left, fun answered => ?_⟩
    exact ((piOpenocdCount_eq_zero_iff _).mp counted).resolve_left (not_not_intro answered)
  · refine iff_of_true (fun succeeds => ?_) ?_
    · rw [refuses] at succeeds
      exact absurd succeeds Nat.one_ne_zero
    · by_contra failed
      exact counted ((piOpenocdCount_eq_zero_iff _).mpr (.inl failed))

theorem piReleaseSwdBus_proven_iff (rig : Rig) :
    rig.Proven rig.piReleaseSwdBus ↔
      ∀ query < 7, (rig.queries query).failure ≠ none →
        ∃ earlier < query, (rig.queries earlier).ReportsFree := by
  have zero_of_failed (query : ℕ) (failed : (rig.queries query).failure ≠ none) :
      decide (piOpenocdCount (rig.queries query) = 0) = true :=
    decide_eq_true ((piOpenocdCount_eq_zero_iff _).mpr (.inl failed))
  rcases piReleaseSwdBus_cases rig with ⟨last, first, succeeds, issued⟩ | ⟨misses, gives_up⟩
  · rw [Rig.proven_iff succeeds issued]
    constructor
    · intro free query before failed
      have later := first.le (Nat.zero_le query) (zero_of_failed query failed)
      rcases Nat.eq_or_lt_of_le later with rfl | later
      · exact absurd free.1 failed
      · exact ⟨last, later, free⟩
    · intro evidence
      have zero := (piOpenocdCount_eq_zero_iff _).mp (of_decide_eq_true first.hit)
      refine zero.resolve_left fun failed => ?_
      obtain ⟨earlier, before, free⟩ := evidence last first.lt_finish failed
      have missed := of_decide_eq_false (first.misses earlier (Nat.zero_le earlier) before)
      exact missed ((piOpenocdCount_eq_zero_iff _).mpr (.inr free))
  · refine iff_of_true (fun succeeds => ?_) ?_
    · rw [gives_up] at succeeds
      exact absurd succeeds Nat.one_ne_zero
    · intro query before failed
      have missed := misses query (Nat.zero_le query) before
      exact absurd (zero_of_failed query failed) (Bool.not_eq_true _ ▸ missed)

/-- The guards give an all-clear only on evidence exactly on the rigs where no query fails before
one that reports the bus free. -/
theorem all_clear_proven_iff (rig : Rig) :
    (rig.Proven rig.piAssertSwdBusFree ↔ (rig.queries 0).failure = none) ∧
    (rig.Proven rig.piReleaseSwdBus ↔
      ∀ query < 7, (rig.queries query).failure ≠ none →
        ∃ earlier < query, (rig.queries earlier).ReportsFree) :=
  ⟨piAssertSwdBusFree_proven_iff rig, piReleaseSwdBus_proven_iff rig⟩

/-- A Pi that cannot be reached while process 4321 drives the bus. -/
def unreachableRig : Rig where
  piAlias := "rpi-xiao"
  openocdTelnetPort := 4444
  telnetResponsive := false
  queries := fun _ => ⟨some .sshUnreachable, [4321]⟩

/-- Both guards report the bus of an unreachable Pi free. -/
theorem unreachable_pi_all_clear :
    unreachableRig.piAssertSwdBusFree.status = 0 ∧ unreachableRig.piReleaseSwdBus.status = 0 ∧
      ¬ ∀ rig : Rig, rig.Proven rig.piAssertSwdBusFree ∧ rig.Proven rig.piReleaseSwdBus := by
  have uncounted : piOpenocdCount (unreachableRig.queries 0) = 0 := rfl
  refine ⟨by simp [Rig.piAssertSwdBusFree, uncounted],
    by simp [Rig.piReleaseSwdBus, uncounted], ?_⟩
  intro proven
  have answered := (piAssertSwdBusFree_proven_iff unreachableRig).mp (proven unreachableRig).1
  exact Option.some_ne_none _ answered

end PowerMeter.SwdBus
