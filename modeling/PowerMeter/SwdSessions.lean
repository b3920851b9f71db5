import PowerMeter.FlashGuard
import PowerMeter.Foundations.CheckThenAct
import PowerMeter.SwdBusGuard

/-!
# Scripts that share the SWD bus

Any number of runs of `flash-swd.sh`, `rtt-tail.sh` and `rtt-tail.sh --stop` against one Pi. A run
learns from a process query whether the bus is free and starts its `openocd` in a later command, so
other runs come in between. Every remote command is one step, any of them may fail, and a run may be
killed at any time.
-/

namespace PowerMeter.SwdBus

open Guarded

/-- A well-formed Intel HEX file. -/
structure HexFile where
  content : List Char
  records : List IntelHex.Record
  wellFormed : IntelHex.WellFormed content records

/-- A script and what it is run on. -/
inductive Script
  /-- `flash-swd.sh` with its hex file, if there is such a file. -/
  | flashSwd (hex : Option HexFile)
  | rttTail
  /-- `rtt-tail.sh --stop`. -/
  | rttTailStop

/-- Where a run of a script is. -/
inductive ScriptPc
  | started
  /-- Before the first query of `pi_assert_swd_bus_free` or `pi_release_swd_bus`. -/
  | guarding
  /-- Before `pi_stop_openocd` inside `pi_release_swd_bus`. -/
  | requesting
  /-- In the loop of `pi_release_swd_bus`, with as many queries left. -/
  | releasing (left : ℕ)
  /-- The guard has returned 0. -/
  | cleared
  | driving
  /-- In the trap of `rtt-tail.sh`, before `pi_stop_openocd`. -/
  | cleaning (status : ℕ)
  | exited (status : ℕ)
  deriving DecidableEq

/-- The runs and the Pi: the live `openocd` processes by the runs that started them, the one that
listens on the telnet port, and those that have been told to shut down. -/
structure SwdSessions (Run : Type*) where
  pc : Run → ScriptPc
  live : List Run
  telnet : Option Run
  stopping : List Run

/-- A command of a run, its end, or the end of an `openocd`. -/
inductive SwdAction (Run : Type*)
  | begins (run : Run)
  | query (run : Run) (failure : Option QueryFailure)
  | piStopOpenocd (run : Run) (reached : Bool)
  | copyFails (run : Run)
  | start (run : Run)
  /-- The `openocd` of `flash-swd.sh` ends and `ssh` returns. -/
  | finish (run : Run) (succeeded verified : Bool)
  /-- `ssh` fails although its `openocd` may live on. -/
  | disconnect (run : Run)
  /-- `rtt-tail.sh` enters its trap: an error, the end of the stream, or INT, TERM or HUP. -/
  | trap (run : Run) (status : ℕ)
  | killed (run : Run) (signal : ℕ)
  /-- An `openocd` that was told to shut down does so. -/
  | ends (run : Run)
  /-- The `openocd` of a `flash-swd.sh` that is gone comes to the `exit` of its command line. -/
  | reachesExit (run : Run)
  | crash (run : Run)
  /-- An operator clears the Pi by hand: `sudo pkill -x openocd`. -/
  | pkill

/-- What a run makes of a process count. -/
def afterQuery (script : Script) (pc : ScriptPc) (count : ℕ) : Option ScriptPc :=
  match script, pc with
  | .flashSwd _, .guarding => some (if count = 0 then .cleared else .exited 1)
  | .rttTail, .guarding => some (if count = 0 then .cleared else .requesting)
  | .rttTail, .releasing (left + 1) =>
      some (if count = 0 then .cleared else if left = 0 then .cleaning 1 else .releasing left)
  | .rttTailStop, .started => some (if count = 0 then .exited 0 else .guarding)
  | .rttTailStop, .guarding => some (if count = 0 then .exited 0 else .requesting)
  | .rttTailStop, .releasing (left + 1) =>
      some (if count = 0 then .exited 0 else if left = 0 then .exited 1 else .releasing left)
  | _, _ => none

/-- `flash-swd.sh` goes on from its address check. -/
def hexAccepted : Option HexFile → Bool
  | none => false
  | some hex => (FlashGuard.check hex.content).isOk

/-- A run has its trap set: `--stop` exits before it is. -/
def trapSet (script : Script) (pc : ScriptPc) : Bool :=
  match script, pc with
  | .rttTail, .guarding | .rttTail, .requesting | .rttTail, .releasing _ | .rttTail, .cleared
  | .rttTail, .driving => true
  | _, _ => false

namespace SwdSessions

variable {Run : Type*} [DecidableEq Run]

/-- No script runs yet and the bus is free. -/
def idle : SwdSessions Run := ⟨fun _ => .started, [], none, []⟩

/-- Move a run on. -/
def goTo (sessions : SwdSessions Run) (run : Run) (pc : ScriptPc) : SwdSessions Run :=
  { sessions with pc := Function.update sessions.pc run pc }

/-- The `openocd` of a run is gone, and with it its telnet port. -/
def remove (sessions : SwdSessions Run) (run : Run) : SwdSessions Run :=
  { sessions with
    live := sessions.live.erase run
    telnet := if sessions.telnet = some run then none else sessions.telnet
    stopping := sessions.stopping.filter (· ≠ run) }

/-- `pi_stop_openocd`: only the process on the telnet port hears it. -/
def piStopOpenocd (sessions : SwdSessions Run) (reached : Bool) : SwdSessions Run :=
  if reached then { sessions with stopping := sessions.telnet.toList ++ sessions.stopping }
  else sessions

/-- The scripts on one Pi, where the process of a run has the given id. -/
def machine (scripts : Run → Script) (pid : Run → ℕ) :
    Machine (SwdSessions Run) (SwdAction Run) where
  step sessions
    | .begins run =>
        match scripts run, sessions.pc run with
        | .flashSwd hex, .started =>
            some (sessions.goTo run (if hexAccepted hex then .guarding else .exited 1))
        | .rttTail, .started => some (sessions.goTo run .guarding)
        | _, _ => none
    | .query run failure =>
        let count := piOpenocdCount ⟨failure, sessions.live.map pid⟩
        (afterQuery (scripts run) (sessions.pc run) count).map (sessions.goTo run)
    | .piStopOpenocd run reached =>
        match scripts run, sessions.pc run with
        | _, .requesting => some ((sessions.piStopOpenocd reached).goTo run (.releasing 6))
        | .rttTail, .cleaning status =>
            some ((sessions.piStopOpenocd reached).goTo run (.exited status))
        | _, _ => none
    | .copyFails run =>
        match scripts run, sessions.pc run with
        | .flashSwd _, .cleared => some (sessions.goTo run (.exited 1))
        | _, _ => none
    | .start run =>
        if sessions.pc run = .cleared then
          some { sessions.goTo run .driving with
            live := sessions.live ++ [run]
            telnet := some (sessions.telnet.getD run) }
        else none
    | .finish run succeeded verified =>
        match scripts run, sessions.pc run with
        | .flashSwd _, .driving =>
            if run ∈ sessions.live then
              some ((sessions.remove run).goTo run
                (.exited (if succeeded && verified then 0 else 1)))
            else none
        | _, _ => none
    | .disconnect run =>
        match scripts run, sessions.pc run with
        | .flashSwd _, .driving => some (sessions.goTo run (.exited 1))
        | _, _ => none
    | .trap run status =>
        if trapSet (scripts run) (sessions.pc run) then some (sessions.goTo run (.cleaning status))
        else none
    | .killed run signal =>
        match sessions.pc run with
        | .exited _ => none
        | _ => some (sessions.goTo run (.exited (128 + signal)))
    | .ends run =>
        if run ∈ sessions.live ∧ run ∈ sessions.stopping then some (sessions.remove run) else none
    | .reachesExit run =>
        match scripts run, sessions.pc run with
        | .flashSwd _, .exited _ =>
            if run ∈ sessions.live then some (sessions.remove run) else none
        | _, _ => none
    | .crash run => if run ∈ sessions.live then some (sessions.remove run) else none
    | .pkill => some { sessions with
        live := []
        telnet := none
        stopping := [] }

/-- An answered query checks the bus, a failed one guesses, and an `openocd` takes it. -/
def roles : Machine.Roles (SwdAction Run) Run where
  checks
    | .query run none => some run
    | _ => none
  guesses
    | .query run (some _) => some run
    | _ => none
  takes
    | .start run => some run
    | _ => none

theorem afterQuery_stopped {pc : ScriptPc} {count : ℕ}
    (stops : afterQuery .rttTailStop pc count = some (.exited 0)) : count = 0 := by
  by_contra counted
  unfold afterQuery at stops
  split at stops <;> simp [counted] at stops
  all_goals
    split at stops <;> simp at stops

theorem afterQuery_cleared {script : Script} {pc : ScriptPc} {count : ℕ}
    (clears : afterQuery script pc count = some .cleared) : count = 0 := by
  by_contra counted
  unfold afterQuery at clears
  split at clears <;> simp only [counted, if_false, Option.some.injEq, reduceCtorEq] at clears
  all_goals
    split at clears <;> simp at clears

omit [DecidableEq Run] in
@[simp]
theorem piStopOpenocd_pc (sessions : SwdSessions Run) (reached : Bool) :
    (sessions.piStopOpenocd reached).pc = sessions.pc := by
  cases reached <;> rfl

omit [DecidableEq Run] in
@[simp]
theorem piStopOpenocd_live (sessions : SwdSessions Run) (reached : Bool) :
    (sessions.piStopOpenocd reached).live = sessions.live := by
  cases reached <;> rfl

theorem goTo_pc_of_ne {sessions : SwdSessions Run} {run other : Run} {pc : ScriptPc}
    (different : other ≠ run) : (sessions.goTo run pc).pc other = sessions.pc other :=
  Function.update_of_ne different _ _

section Steps

variable {scripts : Run → Script} {pid : Run → ℕ} {before after : SwdSessions Run}
  {action : SwdAction Run} {run other : Run}

theorem query_inv {failure : Option QueryFailure}
    (step : (machine scripts pid).step before (.query run failure) = some after) :
    ∃ pc, afterQuery (scripts run) (before.pc run)
        (piOpenocdCount ⟨failure, before.live.map pid⟩) = some pc ∧ after = before.goTo run pc := by
  obtain ⟨pc, answered, rfl⟩ := Option.map_eq_some_iff.mp step
  exact ⟨pc, answered, rfl⟩

/-- A run that is moved has not exited, gets an all-clear or reports the bus released only on a
query that counts no process, and passes the address check before it goes on. -/
structure Moved (scripts : Run → Script) (pid : Run → ℕ) (before : SwdSessions Run)
    (action : SwdAction Run) (run : Run) (pc : ScriptPc) : Prop where
  running : ∀ status, before.pc run ≠ .exited status
  clears : pc = .cleared → ∃ failure, action = .query run failure ∧
    piOpenocdCount ⟨failure, before.live.map pid⟩ = 0
  stops : scripts run = .rttTailStop → pc = .exited 0 → ∃ failure, action = .query run failure ∧
    piOpenocdCount ⟨failure, before.live.map pid⟩ = 0
  vetted : ∀ hex, scripts run = .flashSwd hex → before.pc run = .started →
    hexAccepted hex = true ∨ ∃ status, pc = .exited status

omit [DecidableEq Run] in
private theorem moved_query {failure : Option QueryFailure} {pc : ScriptPc}
    (answered : afterQuery (scripts run) (before.pc run)
      (piOpenocdCount ⟨failure, before.live.map pid⟩) = some pc) :
    Moved scripts pid before (.query run failure) run pc where
  running status exited := by
    rw [exited] at answered
    cases script : scripts run <;> simp [afterQuery, script] at answered
  clears clear := by
    subst clear
    exact ⟨failure, rfl, afterQuery_cleared answered⟩
  stops script stopped := by
    subst stopped
    rw [script] at answered
    exact ⟨failure, rfl, afterQuery_stopped answered⟩
  vetted hex script started := by
    rw [script, started] at answered
    simp [afterQuery] at answered

omit [DecidableEq Run] in
private theorem moved_on {here pc : ScriptPc} (at_pc : before.pc run = here)
    (running : ∀ status, here ≠ .exited status) (unclear : pc ≠ .cleared)
    (unstopped : scripts run = .rttTailStop → pc ≠ .exited 0)
    (begun : here ≠ .started ∨ ∃ status, pc = .exited status) :
    Moved scripts pid before action run pc where
  running status := at_pc ▸ running status
  clears clear := absurd clear unclear
  stops script stopped := absurd stopped (unstopped script)
  vetted hex _ started := by
    rcases begun with unstarted | exited
    · exact absurd (at_pc.symm.trans started) unstarted
    · exact .inr exited

/-- What a step does. -/
inductive Effect (scripts : Run → Script) (pid : Run → ℕ) (before : SwdSessions Run)
    (action : SwdAction Run) : SwdSessions Run → Prop
  | moves {run : Run} {pc : ScriptPc} (untaken : roles.takes action = none)
      (move : Moved scripts pid before action run pc) :
      Effect scripts pid before action (before.goTo run pc)
  | asks {run : Run} {pc : ScriptPc} (reached : Bool) (untaken : roles.takes action = none)
      (move : Moved scripts pid before action run pc) :
      Effect scripts pid before action ((before.piStopOpenocd reached).goTo run pc)
  | starts {run : Run} (started : action = .start run) (clear : before.pc run = .cleared) :
      Effect scripts pid before action { before.goTo run .driving with
        live := before.live ++ [run]
        telnet := some (before.telnet.getD run) }
  | finishes {run : Run} {pc : ScriptPc} (untaken : roles.takes action = none)
      (move : Moved scripts pid before action run pc) :
      Effect scripts pid before action ((before.remove run).goTo run pc)
  | ends {run : Run} (untaken : roles.takes action = none)
      (cause : run ∈ before.stopping ∨ action = .crash run ∨
        action = .reachesExit run ∧ ∃ hex, scripts run = .flashSwd hex) :
      Effect scripts pid before action (before.remove run)
  | clears (byHand : action = .pkill) :
      Effect scripts pid before action { before with
        live := []
        telnet := none
        stopping := [] }

theorem step_effect (step : (machine scripts pid).step before action = some after) :
    Effect scripts pid before action after := by
  cases action with
  | query run failure =>
      obtain ⟨pc, answered, rfl⟩ := query_inv step
      exact .moves rfl (moved_query answered)
  | begins run =>
      simp only [machine] at step
      split at step
      next hex script at_pc =>
        obtain rfl := Option.some.inj step
        refine .moves rfl ⟨by simp [at_pc], ?_, by simp [script], ?_⟩
        · split <;> simp
        · intro other other_script _
          obtain rfl : hex = other := by simpa [script] using other_script
          cases accepted : hexAccepted hex <;> simp
      next script at_pc =>
        obtain rfl := Option.some.inj step
        refine .moves rfl ⟨by simp [at_pc], by simp, by simp, ?_⟩
        intro other other_script
        simp [script] at other_script
      next => simp at step
  | piStopOpenocd run reached =>
      simp only [machine] at step
      split at step
      next at_pc =>
        obtain rfl := Option.some.inj step
        exact .asks reached rfl (moved_on at_pc (by simp) (by simp) (by simp) (.inl (by simp)))
      next status script at_pc =>
        obtain rfl := Option.some.inj step
        exact .asks reached rfl
          (moved_on at_pc (by simp) (by simp) (by simp [script]) (.inl (by simp)))
      next => simp at step
  | copyFails run | disconnect run =>
      simp only [machine] at step
      split at step
      next script at_pc =>
        obtain rfl := Option.some.inj step
        exact .moves rfl (moved_on at_pc (by simp) (by simp) (by simp) (.inl (by simp)))
      next => simp at step
  | finish run succeeded verified =>
      simp only [machine] at step
      split at step
      next script at_pc =>
        obtain ⟨-, rfl⟩ := Machine.guard_inv step
        exact .finishes rfl (moved_on at_pc (by simp) (by simp) (by simp [script]) (.inl (by simp)))
      next => simp at step
  | start run =>
      obtain ⟨clear, rfl⟩ := Machine.guard_inv step
      exact .starts rfl clear
  | trap run status =>
      obtain ⟨trapped, rfl⟩ := Machine.guard_inv step
      have set := trapped
      refine .moves rfl (moved_on rfl ?_ (by simp) (by simp) (.inl ?_))
      · intro other exited
        rw [exited] at set
        cases script : scripts run <;> simp [trapSet, script] at set
      · intro started
        rw [started] at set
        cases script : scripts run <;> simp [trapSet, script] at set
  | killed run signal =>
      simp only [machine] at step
      split at step
      next => simp at step
      next running =>
        obtain rfl := Option.some.inj step
        exact .moves rfl (moved_on rfl (fun status exited => running status exited) (by simp)
          (by simp) (.inr ⟨_, rfl⟩))
  | ends run =>
      obtain ⟨⟨-, told⟩, rfl⟩ := Machine.guard_inv step
      exact .ends rfl (.inl told)
  | crash run =>
      obtain ⟨-, rfl⟩ := Machine.guard_inv step
      exact .ends rfl (.inr (.inl rfl))
  | reachesExit run =>
      simp only [machine] at step
      split at step
      next hex status script at_pc =>
        obtain ⟨-, rfl⟩ := Machine.guard_inv step
        exact .ends rfl (.inr (.inr ⟨rfl, hex, script⟩))
      next => simp at step
  | pkill =>
      obtain rfl := Option.some.inj step
      exact .clears rfl

/-- A step moves at most one run. -/
theorem pc_inv (step : (machine scripts pid).step before action = some after) :
    after.pc = before.pc ∨ ∃ run pc, after.pc = Function.update before.pc run pc ∧
      Moved scripts pid before action run pc := by
  cases step_effect step with
  | moves untaken move | finishes untaken move => exact .inr ⟨_, _, rfl, move⟩
  | asks reached untaken move => exact .inr ⟨_, _, by simp [goTo], move⟩
  | starts started clear =>
      exact .inr ⟨_, .driving, rfl,
        moved_on clear (by simp) (by simp) (by simp) (.inl (by simp))⟩
  | ends untaken cause => exact .inl rfl
  | clears byHand => exact .inl rfl

/-- Only a start adds a process, and only to those of a run with an all-clear. -/
theorem live_inv (step : (machine scripts pid).step before action = some after) :
    (∃ run, action = .start run ∧ before.pc run = .cleared ∧
      after.live = before.live ++ [run]) ∨
    (roles.takes action = none ∧ after.live.Sublist before.live) := by
  cases step_effect step with
  | moves untaken move => exact .inr ⟨untaken, List.Sublist.refl _⟩
  | asks reached untaken move =>
      exact .inr ⟨untaken, piStopOpenocd_live before reached ▸ List.Sublist.refl _⟩
  | starts started clear => exact .inl ⟨_, started, clear, rfl⟩
  | finishes untaken move => exact .inr ⟨untaken, List.erase_sublist⟩
  | ends untaken cause => exact .inr ⟨untaken, List.erase_sublist⟩
  | clears byHand => exact .inr ⟨byHand ▸ rfl, List.nil_sublist _⟩

/-- The scripts check first and act later. -/
theorem checksThenActs (scripts : Run → Script) (pid : Run → ℕ) :
    (machine scripts pid).ChecksThenActs roles live fun sessions run =>
      sessions.pc run = .cleared where
  evidence before action after run step checks clear := by
    cases action with
    | query asked failure =>
        cases failure with
        | none =>
            obtain rfl : asked = run := Option.some.inj checks
            obtain ⟨pc, answered, rfl⟩ := query_inv step
            obtain rfl : pc = .cleared := by simpa [goTo] using clear
            have counted := afterQuery_cleared answered
            rw [piOpenocdCount_eq, if_pos rfl, List.length_map] at counted
            exact List.length_eq_zero_iff.mp counted
        | some failure => simp [roles] at checks
    | _ => simp [roles] at checks
  source before action after run step clear := by
    rcases pc_inv step with same | ⟨moved, pc, pc_eq, move⟩
    · exact .inl (same ▸ clear)
    · rw [pc_eq] at clear
      by_cases own : run = moved
      · subst own
        rw [Function.update_self] at clear
        obtain ⟨failure, rfl, -⟩ := move.clears clear
        cases failure with
        | none => exact .inr (.inl rfl)
        | some failure => exact .inr (.inr rfl)
      · rw [Function.update_of_ne own] at clear
        exact .inl clear
  entry before action after run step takes := by
    rcases live_inv step with ⟨starter, rfl, clear, live_eq⟩ | ⟨untaken, -⟩
    · obtain rfl : starter = run := Option.some.inj takes
      exact ⟨clear, live_eq⟩
    · rw [untaken] at takes
      exact absurd takes (by simp)
  others before action after step untaken := by
    rcases live_inv step with ⟨starter, rfl, -⟩ | ⟨-, fewer⟩
    · simp [roles] at untaken
    · exact fewer

/-- A run of `flash-swd.sh` past its start has a file the address check accepts, or is over. -/
def Vetted (scripts : Run → Script) (sessions : SwdSessions Run) : Prop :=
  ∀ run hex, scripts run = .flashSwd hex →
    sessions.pc run = .started ∨ hexAccepted hex = true ∨
      ∃ status, sessions.pc run = .exited status

theorem vetted_step (vetted : before.Vetted scripts)
    (step : (machine scripts pid).step before action = some after) : after.Vetted scripts := by
  intro run hex script
  rcases pc_inv step with same | ⟨moved, pc, pc_eq, move⟩
  · rw [same]
    exact vetted run hex script
  · rw [pc_eq]
    by_cases own : run = moved
    · subst own
      rw [Function.update_self]
      rcases vetted run hex script with started | accepted | ⟨status, exited⟩
      · exact .inr (move.vetted hex script started)
      · exact .inr (.inl accepted)
      · exact absurd exited (move.running status)
    · rw [Function.update_of_ne own]
      exact vetted run hex script

/-- An `openocd` that lost the telnet port to another one, and whose script is gone. -/
structure Leaked (sessions : SwdSessions Run) (run : Run) : Prop where
  lives : run ∈ sessions.live
  deaf : sessions.telnet ≠ some run
  untold : run ∉ sessions.stopping
  orphaned : ∃ status, sessions.pc run = .exited status

private theorem Leaked.of_goTo {sessions : SwdSessions Run} {pc : ScriptPc}
    (leaked : sessions.Leaked run) (different : run ≠ other) :
    (sessions.goTo other pc).Leaked run := by
  obtain ⟨lives, deaf, untold, orphaned⟩ := leaked
  refine ⟨lives, deaf, untold, ?_⟩
  rwa [goTo_pc_of_ne different]

private theorem Leaked.of_remove {sessions : SwdSessions Run} (leaked : sessions.Leaked run)
    (different : run ≠ other) : (sessions.remove other).Leaked run := by
  obtain ⟨lives, deaf, untold, orphaned⟩ := leaked
  refine ⟨(List.mem_erase_of_ne different).mpr lives, ?_, ?_, orphaned⟩
  · simp only [remove]
    split
    · simp
    · exact deaf
  · simp only [remove, List.mem_filter]
    exact fun told => untold told.1

omit [DecidableEq Run] in
private theorem Leaked.of_piStopOpenocd {sessions : SwdSessions Run} (leaked : sessions.Leaked run)
    (reached : Bool) : (sessions.piStopOpenocd reached).Leaked run := by
  obtain ⟨lives, deaf, untold, orphaned⟩ := leaked
  cases reached with
  | false => exact ⟨lives, deaf, untold, orphaned⟩
  | true =>
      refine ⟨lives, deaf, ?_, orphaned⟩
      simp only [piStopOpenocd, if_true, List.mem_append, Option.mem_toList]
      exact not_or.mpr ⟨deaf, untold⟩

/-- Short of a crash, of the `exit` of a flash or of clearing the Pi by hand, nothing ends a leaked
`openocd`. -/
theorem Leaked.step (leaked : before.Leaked run) (uncrashed : action ≠ .crash run)
    (unfinished : ∀ hex, scripts run = .flashSwd hex → action ≠ .reachesExit run)
    (kept : action ≠ .pkill) (step : (machine scripts pid).step before action = some after) :
    after.Leaked run := by
  obtain ⟨status, orphaned⟩ := leaked.orphaned
  -- Its script has exited, so the run that moves is another one.
  have different {other : Run} {pc : ScriptPc} (move : Moved scripts pid before action other pc) :
      run ≠ other := by
    rintro rfl
    exact move.running status orphaned
  cases step_effect step with
  | moves untaken move => exact leaked.of_goTo (different move)
  | asks reached untaken move =>
      exact (leaked.of_piStopOpenocd reached).of_goTo (different move)
  | finishes untaken move => exact (leaked.of_remove (different move)).of_goTo (different move)
  | @starts other started clear =>
      have apart : run ≠ other := by
        rintro rfl
        simp [clear] at orphaned
      have moved : (before.goTo other .driving).Leaked run := leaked.of_goTo apart
      obtain ⟨lives, deaf, untold, orphaned⟩ := moved
      refine ⟨List.mem_append_left _ lives, ?_, untold, orphaned⟩
      cases port : before.telnet with
      | none => simpa [port] using Ne.symm apart
      | some holder =>
          intro same
          exact deaf (port.trans same)
  | ends untaken cause =>
      apply leaked.of_remove
      rintro rfl
      rcases cause with told | crashed | ⟨finished, hex, script⟩
      · exact leaked.untold told
      · exact uncrashed crashed
      · exact unfinished hex script finished
  | clears byHand => exact absurd byHand kept

end Steps

/-- Every run of `flash-swd.sh` that goes on past its address check has a file the check accepts. -/
theorem vetted_path {scripts : Run → Script} {pid : Run → ℕ} {history : List (SwdAction Run)}
    {sessions : SwdSessions Run}
    (path : (machine scripts pid).Path .any idle history sessions) : sessions.Vetted scripts :=
  path.invariant (fun _ sessions => sessions.Vetted scripts) (fun _ _ _ => .inl rfl)
    fun _ _ _ _ vetted _ step => vetted_step vetted step

/-- Who shares the bus, and why. In every state a run of `flash-swd.sh` past its address check has
a file the check accepts, or is over. An `openocd` that is started while another one lives was
started on an all-clear that was out of date: a query of its run had failed, or another `openocd`
was started after the run's last query. Where no start is out of date the bus never has two masters,
and when the `openocd` of a waiting `flash-swd.sh` ends, whatever comes of the flash, it was alone
on the bus and leaves it free. -/
theorem bus_exclusion (scripts : Run → Script) (pid : Run → ℕ) :
    (∀ history sessions, (machine scripts pid).Path .any idle history sessions →
      sessions.Vetted scripts ∧
      ∀ run after, (machine scripts pid).step sessions (.start run) = some after →
        sessions.live ≠ [] → ¬ roles.Timely history run) ∧
    ∀ history sessions, (machine scripts pid).Path roles.InTime idle history sessions →
      sessions.live.length ≤ 1 ∧
      ∀ run succeeded verified after,
        (machine scripts pid).step sessions (.finish run succeeded verified) = some after →
        sessions.live = [run] ∧ after.live = [] := by
  have protocol := checksThenActs scripts pid
  constructor
  · intro history sessions path
    refine ⟨vetted_path path, fun run after step shared timely => ?_⟩
    obtain ⟨clear, -⟩ := Machine.guard_inv step
    exact shared (protocol.holders_eq_nil path clear timely)
  · intro history sessions path
    have free : (idle : SwdSessions Run).live.length ≤ 1 := Nat.zero_le 1
    have alone : sessions.live.length ≤ 1 := protocol.exclusive free path
    refine ⟨alone, fun run succeeded verified after step => ?_⟩
    simp only [machine] at step
    split at step
    next =>
      obtain ⟨lives, rfl⟩ := Machine.guard_inv step
      obtain ⟨other, live_eq⟩ : ∃ other, sessions.live = [other] := by
        apply List.length_eq_one_iff.mp
        have nonempty := List.length_pos_of_mem lives
        omega
      rw [live_eq] at lives
      obtain rfl := List.mem_singleton.mp lives
      exact ⟨live_eq, by simp [goTo, remove, live_eq]⟩
    next => simp at step

/-- The file of the application image. -/
def appHex : HexFile where
  content := IntelHex.fileOf FlashGuard.appRecords
  records := FlashGuard.appRecords
  wellFormed := FlashGuard.wellFormed_app

/-- A flash of the application image next to an idle `rtt-tail.sh`. -/
def flashOnly : Bool → Script
  | false => .flashSwd (some appHex)
  | true => .rttTail

/-- The flash is alone on the bus when it succeeds. -/
theorem bus_exclusion_flash :
    ∃ sessions after,
      (machine flashOnly Bool.toNat).Path roles.InTime idle
        [.begins false, .query false none, .start false] sessions ∧
      (machine flashOnly Bool.toNat).step sessions (.finish false true true) = some after ∧
      sessions.live = [false] ∧ after.live = [] := by
  have quiet : ∀ {history sessions} {action : SwdAction Bool}, roles.takes action = none →
      roles.InTime history (sessions : SwdSessions Bool) action := by
    intro history sessions action untaken run takes
    rw [untaken] at takes
    exact absurd takes (by simp)
  have begun : (machine flashOnly Bool.toNat).Path roles.InTime idle [.begins false]
      (idle.goTo false .guarding) := .snoc .nil (quiet rfl) rfl
  have cleared : (machine flashOnly Bool.toNat).Path roles.InTime idle
      [.begins false, .query false none] ((idle.goTo false .guarding).goTo false .cleared) :=
    .snoc begun (quiet rfl) rfl
  have path : (machine flashOnly Bool.toNat).Path roles.InTime idle
      [.begins false, .query false none, .start false]
      { ((idle.goTo false .guarding).goTo false .cleared).goTo false .driving with
        live := [false]
        telnet := some false } := by
    refine .snoc cleared (fun run takes => ?_) rfl
    obtain rfl : false = run := Option.some.inj takes
    exact ⟨[.begins false], .query false none, [], rfl, rfl, by simp⟩
  obtain ⟨alone, gone⟩ :=
    ((bus_exclusion flashOnly Bool.toNat).2 _ _ path).2 false true true _ rfl
  exact ⟨_, _, path, rfl, alone, gone⟩

/-- Two runs of `rtt-tail.sh` that check before either starts share the bus. -/
theorem two_masters :
    ∃ sessions, (machine (fun _ : Bool => .rttTail) Bool.toNat).Path .any idle
      [.begins false, .begins true, .query false none, .query true none, .start false, .start true]
      sessions ∧ sessions.live = [false, true] ∧ sessions.telnet = some false :=
  ⟨_, Machine.path_of_execute rfl, rfl, rfl⟩

/-- While a process lives, an answered query gives no all-clear and no success of `--stop`. -/
theorem unclear_step {scripts : Run → Script} {pid : Run → ℕ} {before after : SwdSessions Run}
    {action : SwdAction Run} (held : before.live ≠ [])
    (answered : ∀ other failure, action ≠ .query other (some failure))
    (step : (machine scripts pid).step before action = some after) (other : Run) :
    (after.pc other = .cleared → before.pc other = .cleared) ∧
      (scripts other = .rttTailStop → after.pc other = .exited 0 →
        before.pc other = .exited 0) := by
  have counts : ¬ ∃ failure, action = .query other failure ∧
      piOpenocdCount ⟨failure, before.live.map pid⟩ = 0 := by
    rintro ⟨failure, rfl, counted⟩
    cases failure with
    | some failure => exact answered other failure rfl
    | none =>
        rw [piOpenocdCount_eq, if_pos rfl, List.length_map] at counted
        exact held (List.length_eq_zero_iff.mp counted)
  rcases pc_inv step with same | ⟨moved, pc, pc_eq, move⟩
  · rw [same]
    exact ⟨id, fun _ => id⟩
  · rw [pc_eq]
    by_cases own : other = moved
    · subst own
      rw [Function.update_self]
      exact ⟨fun clear => absurd (move.clears clear) counts,
        fun script stopped => absurd (move.stops script stopped) counts⟩
    · rw [Function.update_of_ne own]
      exact ⟨id, fun _ => id⟩

/-- A leaked `openocd` that lost the telnet port cannot be stopped, and cannot be overlooked. As
long as nobody clears the Pi by hand, it does not crash, it does not come to its `exit` if it is one
of `flash-swd.sh`, and every query is answered, it lives on whatever the scripts do; no run gets
another all-clear, and no `--stop` reports success. -/
theorem leaked_openocd_blocks (scripts : Run → Script) (pid : Run → ℕ)
    (sessions : SwdSessions Run) (run : Run) (leaked : sessions.Leaked run)
    (actions : List (SwdAction Run)) (final : SwdSessions Run)
    (ran : (machine scripts pid).run sessions actions = some final)
    (kept : ∀ action ∈ actions, action ≠ .crash run ∧ action ≠ .pkill ∧
      (∀ hex, scripts run = .flashSwd hex → action ≠ .reachesExit run) ∧
      ∀ other failure, action ≠ .query other (some failure)) :
    final.Leaked run ∧ ∀ other,
      (final.pc other = .cleared → sessions.pc other = .cleared) ∧
      (scripts other = .rttTailStop → final.pc other = .exited 0 →
        sessions.pc other = .exited 0) := by
  induction actions generalizing sessions with
  | nil =>
      obtain rfl := Option.some.inj ran
      exact ⟨leaked, fun _ => ⟨id, fun _ => id⟩⟩
  | cons action actions induction =>
      obtain ⟨next, step, rest⟩ := Option.bind_eq_some_iff.mp ran
      obtain ⟨uncrashed, uncleared, unfinished, answered⟩ := kept action (by simp)
      have held : sessions.live ≠ [] := List.ne_nil_of_mem leaked.lives
      obtain ⟨still, later⟩ := induction next
        (leaked.step uncrashed unfinished uncleared step) rest fun other member =>
          kept other (by simp [member])
      refine ⟨still, fun other => ?_⟩
      obtain ⟨clear, stopped⟩ := unclear_step held answered step other
      obtain ⟨later_clear, later_stopped⟩ := later other
      exact ⟨fun final_clear => clear (later_clear final_clear),
        fun script final_stopped => stopped script (later_stopped script final_stopped)⟩

/-- Two runs of `rtt-tail.sh`, and `rtt-tail.sh --stop` after them. -/
def stopLast : Fin 3 → Script
  | 0 | 1 => .rttTail
  | 2 => .rttTailStop

/-- Two runs share the bus, and the second is killed. -/
def raceSteps : List (SwdAction (Fin 3)) :=
  [.begins 0, .begins 1, .query 0 none, .query 1 none, .start 0, .start 1, .killed 1 9]

/-- `--stop`, up to its last query. -/
def stopSteps : List (SwdAction (Fin 3)) :=
  [.query 2 none, .query 2 none, .piStopOpenocd 2 true, .ends 0, .query 2 none, .query 2 none,
    .query 2 none, .query 2 none, .query 2 none, .query 2 none]

theorem raceSteps_isSome :
    ((machine stopLast Fin.val).execute .any [] idle raceSteps).isSome := rfl

/-- The second run of the race is dead, and its `openocd` is not. -/
theorem leaked_race : (Option.get _ raceSteps_isSome).Leaked 1 :=
  ⟨by decide, by decide, by decide, 137, rfl⟩

/-- `--stop` clears the first `openocd`, and gives up on the second. -/
theorem leaked_openocd_blocks_killed :
    ∃ sessions final,
      (machine stopLast Fin.val).Path .any idle raceSteps sessions ∧
      (machine stopLast Fin.val).run sessions stopSteps = some final ∧
      final.pc 2 = .exited 1 ∧ final.Leaked 1 := by
  have stopped :
      ((machine stopLast Fin.val).run (Option.get _ raceSteps_isSome) stopSteps).isSome := rfl
  have ran := (Option.some_get stopped).symm
  have blocked := leaked_openocd_blocks stopLast Fin.val _ 1 leaked_race stopSteps _ ran
    (by simp [stopSteps])
  exact ⟨_, _, Machine.path_of_execute (Option.some_get raceSteps_isSome).symm, ran, rfl,
    blocked.1⟩

end SwdSessions

end PowerMeter.SwdBus
