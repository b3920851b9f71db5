import PowerMeter.ButtonRequests

/-!
# Sessions settle

Without another edge of the button or event of the stack, the handler, the dispatch thread and the
queued callbacks run out of steps, and what is then left is a session with nothing to do.
-/

namespace PowerMeter

open Guarded

namespace ButtonSession

variable {config : PollConfig} {zboss : ZbossPolling}

/-- The steps of the handler, of the dispatch thread and of the callbacks, which need no edge of the
button and no event of the stack. -/
def own : SessionStep → Bool
  | .isrEffect | .take | .get | .act _ | .call _ | .callback _ => true
  | .isr _ | .signal _ _ | .stackAttributes _ | .stackLongPollInterval _ => false

/-- What a kernel call of the handler may still cost. -/
def effectWork : IsrEffect → ℕ
  | .semGive => 10
  | .workReschedule _ | .workCancelDelayable | .ledCancel _ | .atomicSet _ => 1

/-- What the thread may still cost before it waits again. -/
def pcWork : DispatchPc → ℕ
  | .waiting | .joinDelay => 0
  | .taken => 8
  | .fetched _ => 7

/-- What a call may still cost. -/
def callWork : RequestCall → ℕ
  | .wakeForWrite => 3
  | .scheduleAppCallback _ => 2
  | .ledRequest _ _ | .settle | .setUserJoinInFlight => 1

/-- What a list of calls may still cost. -/
def totalWork {α : Type*} (cost : α → ℕ) : List α → ℕ
  | [] => 0
  | call :: calls => cost call + totalWork cost calls

/-- A bound on the own steps a session still takes. -/
def work (session : ButtonSession) : ℕ :=
  totalWork effectWork session.dispatch.pendingIsr + 9 * session.dispatch.releaseSem +
    pcWork session.dispatch.pc + totalWork callWork session.calls + session.callbacks.length

variable {before after session : ButtonSession} {action : SessionStep}

private theorem work_isrEffect
    (step : (machine config zboss).step before .isrEffect = some after) :
    work after < work before := by
  obtain ⟨effect, rest, pending_eq, rfl⟩ := isrEffect_inv step
  simp only [work, pending_eq, totalWork]
  cases effect with
  | semGive =>
      simp only [ButtonDispatch.perform, ButtonDispatch.releaseSemLimit, effectWork]
      omega
  | _ =>
      simp only [ButtonDispatch.perform, effectWork]
      omega

private theorem work_call {call : RequestCall}
    (step : (machine config zboss).step before (.call call) = some after) :
    work after < work before := by
  obtain ⟨calls, calls_eq, performed⟩ := call_inv step
  cases call with
  | ledRequest | setUserJoinInFlight =>
      obtain rfl := Option.some.inj performed
      simp only [work, calls_eq, totalWork, callWork]
      omega
  | settle =>
      obtain ⟨dispatch, dispatch_step, rfl⟩ := dispatchStep_inv performed
      obtain ⟨-, rfl⟩ := Machine.guard_inv dispatch_step
      simp only [work, calls_eq, totalWork, callWork, pcWork]
      omega
  | wakeForWrite =>
      obtain rfl := Option.some.inj performed
      simp only [work, calls_eq, totalWork, callWork]
      rcases wakeForWriteCalls_cases config before.joined with ignored | ⟨kept, -⟩
      · simp only [ignored, totalWork]
        omega
      · simp only [kept, totalWork, callWork]
        omega
  | scheduleAppCallback callback =>
      obtain rfl := Option.some.inj performed
      simp only [work, calls_eq, totalWork, callWork, List.length_append,
        List.length_singleton]
      omega

theorem work_step (owned : own action)
    (step : (machine config zboss).step before action = some after) :
    work after < work before := by
  cases action with
  | isr | signal | stackAttributes | stackLongPollInterval => simp [own] at owned
  | isrEffect => exact work_isrEffect step
  | take =>
      obtain ⟨-, waiting, given, rfl⟩ := take_inv step
      simp only [work, waiting, pcWork]
      omega
  | get =>
      obtain ⟨taken, rfl⟩ := get_inv step
      simp only [work, taken, pcWork]
      omega
  | act joined =>
      obtain ⟨duration, fetched, -, rfl⟩ := act_inv step
      simp only [work, fetched, pcWork]
      cases dispatchedAction duration joined <;>
        simp only [ButtonDispatch.pcAfterAction, requestCalls, callWork, totalWork] <;>
        omega
  | call call => exact work_call step
  | callback callback =>
      obtain ⟨callbacks, queued, rfl⟩ := callback_inv step
      cases callback <;>
        simp [work, runCallback, queued]

theorem call_enabled (zboss : ZbossPolling) {call : RequestCall} {calls : List RequestCall}
    (accounted : session.Accounted) (calls_eq : session.calls = call :: calls) :
    ∃ after, (machine config zboss).step session (.call call) = some after := by
  have requesting := accounted.requesting
  simp only [machine, calls_eq, if_true]
  cases call with
  | ledRequest | setUserJoinInFlight | wakeForWrite | scheduleAppCallback => exact ⟨_, rfl⟩
  | settle =>
      have delayed : session.dispatch.pc = .joinDelay := by
        rw [calls_eq] at requesting
        generalize session.dispatch.pc = pc at requesting
        cases requesting
        rfl
      simp [perform, dispatchStep, ButtonDispatch.step, delayed]

/-- A thread with no call to make goes on, or is blocked on the empty semaphore. -/
theorem thread_enabled (accounted : session.Accounted) (called : session.calls = []) :
    (session.dispatch.pc = .waiting ∧ session.dispatch.releaseSem = 0) ∨
      ∃ action after, own action = true ∧
        (machine config zboss).step session action = some after := by
  cases pc_eq : session.dispatch.pc with
  | waiting =>
      by_cases empty : session.dispatch.releaseSem = 0
      · exact .inl ⟨rfl, empty⟩
      · have given : 0 < session.dispatch.releaseSem := by omega
        have step_eq : session.dispatch.step .take = some { session.dispatch with
            releaseSem := session.dispatch.releaseSem - 1
            pc := .taken } := if_pos ⟨pc_eq, given⟩
        exact .inr ⟨.take, _, rfl, (if_pos called).trans (dispatchStep_of_step step_eq)⟩
  | taken =>
      have step_eq : session.dispatch.step .get = some { session.dispatch with
          pc := .fetched session.dispatch.durationMs } := if_pos pc_eq
      exact .inr ⟨.get, _, rfl, dispatchStep_of_step step_eq⟩
  | fetched duration =>
      have acts : ((machine config zboss).step session (.act session.joined)).isSome := by
        simp [machine, dispatchStep, ButtonDispatch.step, pc_eq]
      obtain ⟨after, step⟩ := Option.isSome_iff_exists.mp acts
      exact .inr ⟨.act session.joined, after, rfl, step⟩
  | joinDelay =>
      have requesting := accounted.requesting
      rw [called, pc_eq] at requesting
      cases requesting with
      | none undelayed => exact absurd rfl undelayed

theorem own_enabled (accounted : session.Accounted) (unsettled : ¬ session.Settled) :
    ∃ action after, own action = true ∧
      (machine config zboss).step session action = some after := by
  cases pending_eq : session.dispatch.pendingIsr with
  | cons effect rest =>
      refine ⟨.isrEffect, { session with
        dispatch := ButtonDispatch.perform { session.dispatch with pendingIsr := rest } effect },
        rfl, ?_⟩
      simp only [machine, dispatchStep, ButtonDispatch.step, pending_eq, Option.map_some]
  | nil =>
      cases callbacks_eq : session.callbacks with
      | cons callback callbacks =>
          refine ⟨.callback callback, runCallback config { session with callbacks := callbacks }
            callback, rfl, ?_⟩
          simp only [machine, callbacks_eq, if_true]
      | nil =>
          cases calls_eq : session.calls with
          | cons call calls =>
              obtain ⟨after, step⟩ := call_enabled zboss accounted calls_eq
              exact ⟨.call call, after, rfl, step⟩
          | nil =>
              refine (thread_enabled accounted calls_eq).resolve_left ?_
              rintro ⟨waiting, empty⟩
              exact unsettled ⟨⟨pending_eq, waiting, empty⟩, calls_eq, callbacks_eq⟩

theorem settling (config : PollConfig) (zboss : ZbossPolling) :
    (machine config zboss).Settling (own · = true) Accounted Settled work where
  kept _ _ _ accounted step := accounted_step accounted step
  costs _ _ _ _ owned step := work_step owned step
  enabled _ accounted unsettled := own_enabled accounted unsettled

/-- Every session settles by itself. From any state reached, no own run is longer than the work
there, an own run that cannot go on has left nothing to do, and some own run gets there. A session
with nothing left to do has handled the last duration the handler published. -/
theorem sessions_settle (config : PollConfig) (zboss : ZbossPolling)
    (longPollIntervalMs : UInt32) (history : List SessionStep) (session : ButtonSession)
    (path : (machine config zboss).Path .any (booted config zboss longPollIntervalMs) history
      session) :
    (∀ actions later, (∀ action ∈ actions, own action = true) →
      (machine config zboss).run session actions = some later →
        actions.length ≤ session.work ∧
        ((∀ action, own action = true → (machine config zboss).step later action = none) →
          later.Settled)) ∧
    (∃ actions later, (∀ action ∈ actions, own action = true) ∧
      (machine config zboss).run session actions = some later ∧ later.Settled) ∧
    (session.Settled →
      session.dispatch.handled.getLast? = session.dispatch.published.getLast?) := by
  have accounted := accounted_path path
  have settles := settling config zboss
  refine ⟨fun actions later owned ran => ?_, settles.exists_run accounted, fun settled => ?_⟩
  · have paid := settles.length_le accounted owned ran
    have later_accounted :=
      accounted_path (path.append_run (fun _ _ _ _ => trivial) ran)
    exact ⟨by omega, settles.settled_of_stuck later_accounted⟩
  · obtain ⟨-, -, -, lastRead⟩ := sound_of_path path
    rw [← ButtonDispatch.quiescent_reads settled.quiescent]
    exact lastRead (ButtonDispatch.quiescent_tokens settled.quiescent)

/-- A click whose duration nobody has read yet settles within 25 steps of the parties. -/
theorem sessions_settle_click :
    ∃ session,
      (machine .default .zcl).Path .any (booted .default .zcl 5000)
        [.isr ⟨1000, 1⟩, .isrEffect, .isr ⟨1250, 0⟩] session ∧
      session.work ≤ 25 ∧
      ∃ actions later, (∀ action ∈ actions, own action = true) ∧
        (machine .default .zcl).run session actions = some later ∧ later.Settled := by
  have path : (machine .default .zcl).Path .any (booted .default .zcl 5000)
      [.isr ⟨1000, 1⟩, .isrEffect, .isr ⟨1250, 0⟩]
      { booted .default .zcl 5000 with
        dispatch := ⟨⟨1000⟩,
          [.workCancelDelayable, .ledCancel .longPressHold, .atomicSet 250, .semGive], 0, 0,
          .waiting, [], []⟩ } := Machine.path_of_execute rfl
  exact ⟨_, path, by decide, (sessions_settle .default .zcl 5000 _ _ path).2.1⟩

end ButtonSession

end PowerMeter
