import PowerMeter.Foundations.Machine
import PowerMeter.Foundations.Mailbox
import PowerMeter.UserButton

/-!
# Handing releases to the dispatch thread

The interrupt handler leaves a duration in a one-slot mailbox and gives a semaphore of limit one.
`button_dispatch_thread` takes the semaphore, reads the mailbox, and acts on what it read. Every
kernel call of either party is one atomic step.
-/

namespace PowerMeter

open Guarded

/-- Where the dispatch thread is. -/
inductive DispatchPc
  | waiting
  | taken
  | fetched (duration : ℤ)
  /-- The settling delay before `zigbee_app_start_join`. -/
  | joinDelay
  deriving DecidableEq

/-- The handler, the mailbox and the dispatch thread, with what was published and handled so far. -/
structure ButtonDispatch where
  button : UserButton
  /-- Kernel calls the handler still has to make. -/
  pendingIsr : List IsrEffect
  durationMs : ℤ
  releaseSem : ℕ
  pc : DispatchPc
  published : List ℤ
  handled : List ℤ

/-- One atomic step of the handler or of the thread. -/
inductive DispatchStep
  | isr (sample : ButtonSample)
  | isrEffect
  | take
  | get
  | act (joined : Bool)
  | startJoin
  deriving DecidableEq

namespace ButtonDispatch

/-- `K_SEM_DEFINE(button_release_sem, 0, 1)`, an empty mailbox, and a waiting thread. -/
def init : ButtonDispatch where
  button := .init
  pendingIsr := []
  durationMs := 0
  releaseSem := 0
  pc := .waiting
  published := []
  handled := []

/-- The limit of `button_release_sem`. -/
def releaseSemLimit : ℕ := 1

/-- Make one kernel call of the handler. -/
def perform (state : ButtonDispatch) : IsrEffect → ButtonDispatch
  | .atomicSet duration =>
      { state with
        durationMs := duration
        published := state.published ++ [duration] }
  | .semGive => { state with releaseSem := min (state.releaseSem + 1) releaseSemLimit }
  | .workReschedule _ | .workCancelDelayable | .ledCancel _ => state

/-- Where the thread goes after it has acted on a duration. -/
def pcAfterAction : ButtonAction → DispatchPc
  | .join => .joinDelay
  | .none | .wake | .factoryReset => .waiting

/-- The handler, which the thread cannot interrupt, and `button_dispatch_thread`. -/
def step (state : ButtonDispatch) : DispatchStep → Option ButtonDispatch
  | .isr sample =>
      if state.pendingIsr = [] then
        let (button, effects) := state.button.userButtonIsr sample
        some { state with
          button := button
          pendingIsr := effects }
      else none
  | .isrEffect =>
      match state.pendingIsr with
      | [] => none
      | effect :: rest => some (perform { state with pendingIsr := rest } effect)
  | .take =>
      if state.pc = .waiting ∧ 0 < state.releaseSem then
        some { state with
          releaseSem := state.releaseSem - 1
          pc := .taken }
      else none
  | .get =>
      if state.pc = .taken then some { state with pc := .fetched state.durationMs } else none
  | .act joined =>
      match state.pc with
      | .fetched duration =>
          some { state with
            pc := pcAfterAction (dispatchedAction duration joined)
            handled := state.handled ++ [duration] }
      | _ => none
  | .startJoin => if state.pc = .joinDelay then some { state with pc := .waiting } else none

/-- The dispatch system as a machine. -/
def machine : Machine ButtonDispatch DispatchStep := ⟨step⟩

/-- No handler is running and the thread is blocked on an empty semaphore. -/
structure Quiescent (state : ButtonDispatch) : Prop where
  handler_done : state.pendingIsr = []
  waiting : state.pc = .waiting
  empty : state.releaseSem = 0

/-- The duration the thread is acting on. -/
def inHand : DispatchPc → List ℤ
  | .fetched duration => [duration]
  | _ => []

/-- The durations the thread has read, the one it is acting on last. -/
def reads (state : ButtonDispatch) : List ℤ := state.handled ++ inHand state.pc

/-- A give that the handler still owes after setting the slot. -/
def owedGive : List IsrEffect → ℕ
  | [.semGive] => 1
  | _ => 0

/-- A semaphore the thread has taken without having read the slot since. -/
def takenToken : DispatchPc → ℕ
  | .taken => 1
  | _ => 0

/-- Notifications on their way to a read of the slot. -/
def tokens (state : ButtonDispatch) : ℕ :=
  owedGive state.pendingIsr + state.releaseSem + takenToken state.pc

/-- What a running handler may still have to do. -/
inductive HandlerRest : List IsrEffect → Prop
  | done : HandlerRest []
  | pressed (delayMs : UInt32) : HandlerRest [.workReschedule delayMs]
  | cancelling (duration : ℤ) : HandlerRest
      [.workCancelDelayable, .ledCancel .longPressHold, .atomicSet duration, .semGive]
  | darkening (duration : ℤ) : HandlerRest
      [.ledCancel .longPressHold, .atomicSet duration, .semGive]
  | setting (duration : ℤ) : HandlerRest [.atomicSet duration, .semGive]
  | giving : HandlerRest [.semGive]

theorem handlerRest_isr (button : UserButton) (sample : ButtonSample) :
    HandlerRest (button.userButtonIsr sample).2 := by
  by_cases active : sample.Active
  · rw [UserButton.userButtonIsr, if_pos active]
    exact .pressed _
  · rw [UserButton.userButtonIsr, if_neg active]
    exact .cancelling _

/-- The hand-off as a one-slot mailbox. -/
def mailbox (state : ButtonDispatch) : Mailbox ℤ := ⟨state.published, state.reads, state.tokens⟩

/-- The handler is inside its body, and the slot holds the last publication. -/
structure Consistent (state : ButtonDispatch) : Prop where
  handlerRest : HandlerRest state.pendingIsr
  latest : state.durationMs = state.published.getLastD 0

theorem consistent_init : Consistent init := ⟨.done, rfl⟩

/-- The duration the next kernel call of the handler publishes, if that is what it does. -/
def publishing (state : ButtonDispatch) : DispatchStep → Option ℤ
  | .isrEffect =>
      match state.pendingIsr with
      | .atomicSet duration :: _ => some duration
      | _ => none
  | _ => none

/-- A step of the dispatch system is a step of the mailbox, and publishes only where the handler
sets the slot. -/
structure Refines (state : ButtonDispatch) (action : DispatchStep) (after : ButtonDispatch) :
    Prop where
  consistent : after.Consistent
  steps : ∃ label, Mailbox.Step state.mailbox label after.mailbox ∧
    ∀ duration, label = .publish duration → state.publishing action = some duration

/-- A step that changes neither the slot, the reads nor the tokens refines silently. -/
private theorem refines_silent {state after : ButtonDispatch} {action : DispatchStep}
    (consistent : after.Consistent) (same : after.mailbox = state.mailbox) :
    state.Refines action after := by
  refine ⟨consistent, .silent, ?_, by simp⟩
  rw [same]
  exact .silent _

private theorem isrEffect_refines {state after : ButtonDispatch} (consistent : state.Consistent)
    (step : state.step .isrEffect = some after) : state.Refines .isrEffect after := by
  obtain ⟨button, pendingIsr, durationMs, releaseSem, pc, published, handled⟩ := state
  obtain ⟨handlerRest, latest⟩ := consistent
  cases handlerRest with
  | done => simp [ButtonDispatch.step] at step
  | pressed delayMs =>
      obtain rfl := Option.some.inj step
      exact refines_silent ⟨.done, latest⟩ rfl
  | cancelling duration =>
      obtain rfl := Option.some.inj step
      exact refines_silent ⟨.darkening duration, latest⟩ rfl
  | darkening duration =>
      obtain rfl := Option.some.inj step
      exact refines_silent ⟨.setting duration, latest⟩ rfl
  | setting duration =>
      obtain rfl := Option.some.inj step
      refine ⟨⟨.giving, by simp [perform]⟩, .publish duration, ?_, by simp [publishing]⟩
      convert Mailbox.Step.publish _ duration using 1
      simp only [mailbox, reads, tokens, perform, owedGive, Mailbox.mk.injEq, true_and]
      omega
  | giving =>
      obtain rfl := Option.some.inj step
      refine ⟨⟨.done, latest⟩, .silent, ?_, by simp⟩
      apply Mailbox.Step.merge
      · simp only [tokens, perform, releaseSemLimit, owedGive]
        omega
      · simp only [mailbox, tokens, perform, releaseSemLimit, owedGive]
        omega

private theorem get_refines {state after : ButtonDispatch} (consistent : state.Consistent)
    (sound : state.mailbox.Sound) (step : state.step .get = some after) :
    state.Refines .get after := by
  obtain ⟨taken, rfl⟩ := Machine.guard_inv step
  have tokens_eq : state.mailbox.tokens = owedGive state.pendingIsr + state.releaseSem + 1 := by
    rw [mailbox, tokens, taken, takenToken]
  have counted : state.reads.length + state.mailbox.tokens ≤ state.published.length :=
    sound.counted
  have last_eq : state.mailbox.published.getLast? = some state.durationMs := by
    rw [consistent.latest, List.getLastD_eq_getLast?]
    change state.published.getLast? = _
    cases last : state.published.getLast? with
    | none =>
        rw [List.getLast?_eq_none_iff.mp last, List.length_nil] at counted
        omega
    | some duration => rfl
  refine ⟨⟨consistent.handlerRest, consistent.latest⟩, .fetch, ?_, by simp⟩
  convert Mailbox.Step.fetch tokens_eq last_eq using 1
  simp [mailbox, reads, tokens, taken, inHand, takenToken]

/-- Every step of the dispatch system refines a step of the mailbox. -/
private theorem step_refines {state after : ButtonDispatch} {action : DispatchStep}
    (consistent : state.Consistent) (sound : state.mailbox.Sound)
    (step : state.step action = some after) : state.Refines action after := by
  cases action with
  | isrEffect => exact isrEffect_refines consistent step
  | isr sample =>
      simp only [ButtonDispatch.step] at step
      obtain ⟨idle, rfl⟩ := Machine.guard_inv step
      refine refines_silent ⟨handlerRest_isr state.button sample, consistent.latest⟩ ?_
      have started : owedGive (state.button.userButtonIsr sample).2 = 0 := by
        rw [UserButton.userButtonIsr]
        split <;> rfl
      simp only [mailbox, reads, tokens, idle, started]
      rfl
  | take =>
      obtain ⟨⟨waiting, given⟩, rfl⟩ := Machine.guard_inv step
      refine refines_silent ⟨consistent.handlerRest, consistent.latest⟩ ?_
      simp only [mailbox, reads, tokens, waiting, inHand, takenToken, Mailbox.mk.injEq, true_and]
      omega
  | get => exact get_refines consistent sound step
  | act joined =>
      simp only [ButtonDispatch.step] at step
      split at step
      next duration fetched =>
        obtain rfl := Option.some.inj step
        refine refines_silent ⟨consistent.handlerRest, consistent.latest⟩ ?_
        cases dispatchedAction duration joined <;>
          simp [mailbox, reads, tokens, fetched, pcAfterAction, inHand, takenToken]
      next => simp at step
  | startJoin =>
      obtain ⟨delayed, rfl⟩ := Machine.guard_inv step
      refine refines_silent ⟨consistent.handlerRest, consistent.latest⟩ ?_
      simp [mailbox, reads, tokens, delayed, inHand, takenToken]

/-- In every interleaving the hand-off is a sound mailbox. -/
theorem sound_of_path {history : List DispatchStep} {state : ButtonDispatch}
    (path : machine.Path .any init history state) :
    state.Consistent ∧ state.mailbox.Sound := by
  refine path.invariant (fun _ state => state.Consistent ∧ state.mailbox.Sound)
    ⟨consistent_init, Mailbox.sound_empty⟩ ?_
  rintro - before action after ⟨consistent, sound⟩ - step
  obtain ⟨consistent_after, label, box_step, -⟩ := step_refines consistent sound step
  exact ⟨consistent_after, Mailbox.sound_step sound box_step⟩

/-- The handler sets the slot only when the thread has read the previous duration. -/
def ReadBeforeSet : Machine.Assumption ButtonDispatch DispatchStep :=
  fun _ state action => (state.publishing action).isSome →
    state.releaseSem = 0 ∧ state.pc ≠ .taken

instance (history : List DispatchStep) (state : ButtonDispatch) (action : DispatchStep) :
    Decidable (ReadBeforeSet history state action) :=
  inferInstanceAs (Decidable (_ → _))

private theorem tokens_of_readBeforeSet {history : List DispatchStep} {state : ButtonDispatch}
    {action : DispatchStep} {duration : ℤ} (consistent : state.Consistent)
    (readFirst : ReadBeforeSet history state action)
    (publishes : state.publishing action = some duration) : state.tokens = 0 := by
  obtain ⟨empty, not_taken⟩ := readFirst (by rw [publishes]; rfl)
  have not_owed : owedGive state.pendingIsr = 0 := by
    cases action with
    | isrEffect =>
        have handlerRest := consistent.handlerRest
        simp only [publishing] at publishes
        generalize state.pendingIsr = pending at handlerRest publishes
        cases handlerRest with
        | setting => rfl
        | _ => simp at publishes
    | _ => simp [publishing] at publishes
  have untaken : takenToken state.pc = 0 := by
    cases pc_eq : state.pc <;> simp_all [takenToken]
  rw [tokens, not_owed, empty, untaken]

/-- When the handler always finds the slot read, the hand-off is a lossless mailbox. -/
theorem lossless_of_path {history : List DispatchStep} {state : ButtonDispatch}
    (path : machine.Path ReadBeforeSet init history state) : state.mailbox.Lossless := by
  suffices kept : (state.Consistent ∧ state.mailbox.Sound) ∧ state.mailbox.Lossless from kept.2
  refine path.invariant
    (fun _ state => (state.Consistent ∧ state.mailbox.Sound) ∧ state.mailbox.Lossless)
    ⟨⟨consistent_init, Mailbox.sound_empty⟩, Mailbox.lossless_empty⟩ ?_
  rintro history before action after ⟨⟨consistent, sound⟩, lossless⟩ readFirst step
  obtain ⟨consistent_after, label, box_step, published⟩ := step_refines consistent sound step
  refine ⟨⟨consistent_after, Mailbox.sound_step sound box_step⟩, ?_⟩
  apply Mailbox.lossless_step lossless box_step
  intro duration label_eq
  exact tokens_of_readBeforeSet consistent readFirst (published duration label_eq)

theorem quiescent_reads {state : ButtonDispatch} (quiescent : state.Quiescent) :
    state.reads = state.handled := by
  simp [reads, quiescent.waiting, inHand]

theorem quiescent_tokens {state : ButtonDispatch} (quiescent : state.Quiescent) :
    state.tokens = 0 := by
  simp [tokens, quiescent.handler_done, quiescent.waiting, quiescent.empty, owedGive, takenToken]

end ButtonDispatch

end PowerMeter
