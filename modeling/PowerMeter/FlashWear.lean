import PowerMeter.SampleLoop
import PowerMeter.Foundations.TwoBudgets

/-!
# Flash wear of the persist step

Every successful save of the sample loop is paid for: by a hundred pulses, or by five minutes,
since the save before it. A save that fails moves neither of the two variables the policy compares
with.
-/

namespace PowerMeter

open Guarded TwoBudgets

/-- A successful save: when, and of which total. -/
structure FlashSave where
  now : ℤ
  total : UInt64

namespace SampleLoop

/-- The successful save an action makes, if it makes one. -/
def saveOf (loop : SampleLoop) : LoopAction → Option FlashSave
  | .persist now fault =>
      if persistPolicy.shouldWrite loop.acc.total loop.lastSavedTotal
          (UInt64.ofInt (now - loop.lastSavedMs)) ∧
        (loop.store.nvsStoreSaveTotal loop.acc.total fault).1 = 0 then
        some ⟨now, loop.acc.total⟩
      else none
  | .count | .powerCut | .nvsStoreInit _ | .hwPulseCounterInit _ _ | .pulseAccumulatorInit _
  | .eraseCheck _ _ | .loadTotal _ | .skipRestore | .armIrq _ | .read | .update => none

/-- Iterations of one boot, at uptimes that never go back and with totals that never fall. -/
def Iterates : Machine.Assumption SampleLoop LoopAction := fun history before action =>
  match action with
  | .count | .read => True
  | .update => ∀ pulses, before.pc = .sampled pulses →
      before.acc.total ≤ (before.acc.update pulses).total
  | .persist now _ => ∀ earlier fault, .persist earlier fault ∈ history → earlier ≤ now
  | .powerCut | .nvsStoreInit _ | .hwPulseCounterInit _ _ | .pulseAccumulatorInit _
  | .eraseCheck _ _ | .loadTotal _ | .skipRestore | .armIrq _ => False

/-- The saves of a run, in order. -/
def saves (config : Kconfig) (booted : SampleLoop) (history : List LoopAction) :
    List FlashSave :=
  (machine config).observations saveOf booted history

variable {config : Kconfig} {booted loop after : SampleLoop} {history : List LoopAction}

/-- A persist step makes a save the policy asked for, or leaves what the policy looks at. -/
theorem persist_saveOf (loop : SampleLoop) (now : ℤ) (fault : Option Errno) :
    (loop.saveOf (.persist now fault) = some ⟨now, loop.acc.total⟩ ∧
      persistPolicy.shouldWrite loop.acc.total loop.lastSavedTotal
        (UInt64.ofInt (now - loop.lastSavedMs)) = true ∧
      (loop.persist now fault).lastSavedTotal = loop.acc.total ∧
      (loop.persist now fault).lastSavedMs = now) ∨
    (loop.saveOf (.persist now fault) = none ∧
      (loop.persist now fault).lastSavedTotal = loop.lastSavedTotal ∧
      (loop.persist now fault).lastSavedMs = loop.lastSavedMs) := by
  simp only [saveOf, persist]
  cases persistPolicy.shouldWrite loop.acc.total loop.lastSavedTotal
      (UInt64.ofInt (now - loop.lastSavedMs)) with
  | false => exact .inr (by simp)
  | true =>
      by_cases saved : (loop.store.nvsStoreSaveTotal loop.acc.total fault).1 = 0
      · exact .inl (by simp [saved])
      · exact .inr (by simp [saved])

theorem acc_persist (loop : SampleLoop) (now : ℤ) (fault : Option Errno) :
    (loop.persist now fault).acc = loop.acc := by
  rcases loop.persist_cases now fault with ⟨-, -, -, saves⟩ | ⟨-, keeps⟩
  · rw [saves]
  · rw [keeps]

/-- The cast of the source never shows more time than has passed. -/
theorem toNat_ofInt_le {elapsed : ℤ} (nonnegative : 0 ≤ elapsed) :
    ((UInt64.ofInt elapsed).toNat : ℤ) ≤ elapsed := by
  rw [UInt64.ofInt, UInt64.toNat_ofNat']
  omega

/-- The saved value rises, and the save is paid for by a hundred pulses or five minutes. -/
structure Follows (earlier later : FlashSave) : Prop extends
    Paid (fun save : FlashSave => save.total.toNat) FlashSave.now 100 300000 earlier later where
  rises : earlier.total < later.total

/-- The variables of the loop stand at its last save. -/
structure StandsAt (history : List LoopAction) (loop : SampleLoop) (save : FlashSave) : Prop where
  total_eq : loop.lastSavedTotal = save.total
  now_eq : loop.lastSavedMs = save.now
  total_le : save.total ≤ loop.acc.total
  persisted : ∃ fault, .persist save.now fault ∈ history

/-- A save the policy asks for follows the last one. -/
theorem follows_of_shouldWrite {save : FlashSave} {now : ℤ} (stands : StandsAt history loop save)
    (later : save.now ≤ now)
    (writes : persistPolicy.shouldWrite loop.acc.total loop.lastSavedTotal
      (UInt64.ofInt (now - loop.lastSavedMs)) = true) :
    Follows save ⟨now, loop.acc.total⟩ := by
  rw [stands.total_eq, stands.now_eq] at writes
  obtain ⟨rises, paid⟩ := PersistPolicy.paid_of_shouldWrite stands.total_le writes
  have shown := toNat_ofInt_le (sub_nonneg.mpr later)
  refine ⟨⟨UInt64.le_iff_toNat_le.mp stands.total_le, later, ?_⟩, rises⟩
  rcases paid with pulses | interval
  · exact .inl pulses
  · refine .inr ?_
    have interval : 300000 ≤ (UInt64.ofInt (now - save.now)).toNat := interval
    show save.now + 300000 ≤ now
    omega

/-- The saves made so far follow one another, and the loop stands at the last one. -/
structure Worn (history : List LoopAction) (loop : SampleLoop) (saves : List FlashSave) :
    Prop where
  chain : saves.IsChain Follows
  stands : ∀ last, saves.getLast? = some last → StandsAt history loop last

theorem Worn.keep {saves : List FlashSave} (worn : Worn history loop saves) (action : LoopAction)
    (total_eq : after.lastSavedTotal = loop.lastSavedTotal)
    (now_eq : after.lastSavedMs = loop.lastSavedMs) (total_le : loop.acc.total ≤ after.acc.total) :
    Worn (history ++ [action]) after saves := by
  refine ⟨worn.chain, ?_⟩
  intro last last_eq
  have stands := worn.stands last last_eq
  obtain ⟨fault, persisted⟩ := stands.persisted
  refine ⟨total_eq.trans stands.total_eq, now_eq.trans stands.now_eq, ?_, ?_⟩
  · rw [UInt64.le_iff_toNat_le] at total_le ⊢
    exact (UInt64.le_iff_toNat_le.mp stands.total_le).trans total_le
  · exact ⟨fault, List.mem_append_left _ persisted⟩

theorem Worn.persist {saves : List FlashSave} (worn : Worn history loop saves) {now : ℤ}
    {fault : Option Errno}
    (later : ∀ earlier fault, .persist earlier fault ∈ history → earlier ≤ now) :
    Worn (history ++ [.persist now fault]) (loop.persist now fault)
      (saves ++ (loop.saveOf (.persist now fault)).toList) := by
  have acc_eq := loop.acc_persist now fault
  rcases loop.persist_saveOf now fault with ⟨saved, writes, total_eq, now_eq⟩ |
    ⟨unsaved, total_eq, now_eq⟩
  · rw [saved]
    refine ⟨?_, ?_⟩
    · refine List.isChain_append.mpr ⟨worn.chain, List.isChain_singleton _, ?_⟩
      rintro last last_eq save ⟨⟩
      have stands := worn.stands last last_eq
      obtain ⟨fault, persisted⟩ := stands.persisted
      exact follows_of_shouldWrite stands (later last.now fault persisted) writes
    · intro last last_eq
      obtain rfl : FlashSave.mk now loop.acc.total = last := by simpa using last_eq
      refine ⟨total_eq, now_eq, ?_, fault, List.mem_append_right _ List.mem_cons_self⟩
      rw [acc_eq]
      exact UInt64.le_refl _
  · rw [unsaved, Option.toList_none, List.append_nil]
    refine worn.keep _ total_eq now_eq ?_
    rw [acc_eq]
    exact UInt64.le_refl _

theorem worn_step {saves : List FlashSave} {action : LoopAction}
    (worn : Worn history loop saves) (admitted : Iterates history loop action)
    (step : (machine config).step loop action = some after) :
    Worn (history ++ [action]) after (saves ++ (loop.saveOf action).toList) := by
  cases action with
  | count =>
      obtain ⟨-, rfl⟩ := Machine.guard_inv step
      simp only [saveOf, Option.toList_none, List.append_nil]
      exact worn.keep _ rfl rfl (UInt64.le_refl _)
  | read =>
      obtain ⟨-, rfl⟩ := Machine.guard_inv step
      simp only [saveOf, Option.toList_none, List.append_nil]
      exact worn.keep _ rfl rfl (UInt64.le_refl _)
  | update =>
      obtain ⟨pulses, pc_eq, rfl⟩ := update_step step
      simp only [saveOf, Option.toList_none, List.append_nil]
      exact worn.keep _ rfl rfl (admitted pulses pc_eq)
  | persist now fault =>
      obtain ⟨-, rfl⟩ := Machine.guard_inv step
      exact worn.persist admitted
  | powerCut | nvsStoreInit results | hwPulseCounterInit fault nrfx | pulseAccumulatorInit uptime
  | eraseCheck polls fault | loadTotal fault | skipRestore | armIrq armed => exact admitted.elim

theorem worn_path (path : (machine config).Path Iterates booted history loop) :
    Worn history loop (saves config booted history) := by
  induction path with
  | nil => exact ⟨List.isChain_nil, by simp [saves]⟩
  | snoc path admitted step induction =>
      rw [saves, Machine.observations_concat saveOf path.run_eq step]
      exact worn_step induction admitted step

/-- The flash wear of one boot is bounded. Consecutive saves store larger totals and lie at least a
hundred pulses or five minutes apart, so there is at most one save more than the pulses and the
time between the first and the last of them pay for. -/
theorem flash_wear_bound (path : (machine config).Path Iterates booted history loop) :
    (saves config booted history).IsChain (fun earlier later =>
      earlier.total < later.total ∧
        (earlier.total.toNat + 100 ≤ later.total.toNat ∨ earlier.now + 300000 ≤ later.now)) ∧
    ∀ first last, (saves config booted history).head? = some first →
      (saves config booted history).getLast? = some last →
      (saves config booted history).length ≤
        1 + (last.total.toNat - first.total.toNat) / 100 +
          ((last.now - first.now) / 300000).toNat := by
  have chain := (worn_path path).chain
  refine ⟨chain.imp fun _ _ follows => ⟨follows.rises, follows.price⟩, ?_⟩
  intro first last first_eq last_eq
  have paid := chain.imp fun _ _ follows => follows.toPaid
  exact length_le paid first_eq last_eq (by omega) (by omega)

/-- A first boot over an empty partition, at its first sleep. -/
def firstSleep : SampleLoop :=
  { beforeLoad .default blankRecords with pc := .asleep }

/-- One pulse, one iteration and its save, twice within five minutes. -/
theorem flash_wear_bound_twoPulses :
    (saves .default firstSleep [.count, .read, .update, .persist 0 none, .count, .read, .update,
      .persist 300000 none]).length ≤ 1 + (2 - 1) / 100 + ((300000 - 0) / 300000 : ℤ).toNat := by
  have start : (machine .default).Path Iterates firstSleep [] firstSleep := .nil
  have rises {before : SampleLoop} {pulses : UInt32} (pc_eq : before.pc = .sampled pulses)
      (le : before.acc.total ≤ (before.acc.update pulses).total) (history : List LoopAction) :
      Iterates history before .update := by
    intro others others_eq
    obtain rfl : pulses = others := by simpa [pc_eq] using others_eq
    exact le
  have sampling : ∀ action ∈ [LoopAction.count, .read], ∀ earlier before,
      Iterates earlier before action := by
    simp [Iterates]
  have sampled := start.append_run sampling rfl
  have updated := sampled.snoc (rises rfl (by decide) _) rfl
  have saved : (machine .default).Path Iterates firstSleep
      [.count, .read, .update, .persist 0 none] _ := updated.snoc (by simp [Iterates]) rfl
  have sampledAgain := saved.append_run sampling rfl
  have updatedAgain := sampledAgain.snoc (rises rfl (by decide) _) rfl
  have savedAgain : (machine .default).Path Iterates firstSleep
      [.count, .read, .update, .persist 0 none, .count, .read, .update, .persist 300000 none] _ :=
    updatedAgain.snoc (by simp [Iterates]) rfl
  exact (flash_wear_bound savedAgain).2 ⟨0, 1⟩ ⟨300000, 2⟩ rfl rfl

end SampleLoop

end PowerMeter
