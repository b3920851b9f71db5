import PowerMeter.Foundations.Trace
import PowerMeter.NvsStore
import PowerMeter.Foundations.LastWrite
import Mathlib.Data.List.Basic
import Mathlib.Data.List.Induction

/-!
# The three slots of the store

The load and save pairs of `nvs_store.c` see three cells of an abstract family. Calls may come in
any order, before an initialization or after a reboot, and any backend call may fail. The contents
of the cells are the replay of the successful saves and of the clears, and a load that succeeds
reads its cell.
-/

namespace PowerMeter

open Guarded

/-- The values the store persists. -/
inductive NvsSlot
  | total
  | impPerKwh
  | pulseMinWidthUs
  deriving DecidableEq

namespace NvsSlot

/-- The record id of a slot. -/
def id : NvsSlot → UInt16
  | total => nvsIdAccumulatorTotal
  | impPerKwh => nvsIdImpPerKwh
  | pulseMinWidthUs => nvsIdPulseMinWidthUs

/-- The size of a slot's record. -/
def width : NvsSlot → ℕ
  | total => 8
  | impPerKwh => 4
  | pulseMinWidthUs => 4

/-- The type of a slot's value. -/
abbrev Value : NvsSlot → Type
  | total => UInt64
  | impPerKwh => UInt32
  | pulseMinWidthUs => UInt32

/-- The number the bytes of a value encode. -/
def encode (slot : NvsSlot) (value : slot.Value) : ℕ :=
  match slot, value with
  | total, value => UInt64.toNat value
  | impPerKwh, value => UInt32.toNat value
  | pulseMinWidthUs, value => UInt32.toNat value

/-- The value a decoded number stands for. -/
def decode (slot : NvsSlot) (number : ℕ) : slot.Value :=
  match slot with
  | total => UInt64.ofNat number
  | impPerKwh => UInt32.ofNat number
  | pulseMinWidthUs => UInt32.ofNat number

theorem encode_lt (slot : NvsSlot) (value : slot.Value) :
    slot.encode value < 256 ^ slot.width := by
  cases slot with
  | total => exact UInt64.toNat_lt value
  | impPerKwh => exact UInt32.toNat_lt value
  | pulseMinWidthUs => exact UInt32.toNat_lt value

@[simp]
theorem decode_encode (slot : NvsSlot) (value : slot.Value) :
    slot.decode (slot.encode value) = value := by
  cases slot with
  | total => exact UInt64.ofNat_toNat
  | impPerKwh => exact UInt32.ofNat_toNat
  | pulseMinWidthUs => exact UInt32.ofNat_toNat

/-- No two slots share a record. -/
theorem id_injective : Function.Injective id := by
  intro left right same
  cases left <;> cases right <;> first | rfl | exact absurd same (by decide)

end NvsSlot

/-- The values of the well-formed records. -/
def NvsRecords.contents (records : NvsRecords) : Cells NvsSlot.Value :=
  fun slot => (records.stored slot.id slot.width).map slot.decode

namespace NvsStore

/-- The partition does not mount and cannot be cleared. -/
def MountResults.ClearFails (results : MountResults) : Prop :=
  results.deviceReady = true ∧ results.pageInfo = 0 ∧ results.mount ≠ 0 ∧ results.clear ≠ 0

/-- The partition does not mount, is cleared, and then mounts. -/
def MountResults.Recovers (results : MountResults) : Prop :=
  results.Wipes ∧ results.remount = 0

instance (results : MountResults) : Decidable results.Wipes :=
  inferInstanceAs (Decidable (_ ∧ _ ∧ _ ∧ _))

instance (results : MountResults) : Decidable results.ClearFails :=
  inferInstanceAs (Decidable (_ ∧ _ ∧ _ ∧ _))

/-- `nvs_store_init`, where a failing `nvs_clear` leaves any records behind. -/
def init (store : NvsStore) (results : MountResults) (left : NvsRecords) : ℤ × NvsStore :=
  let (rc, after) := store.nvsStoreInit results
  if store.initialized = false ∧ results.ClearFails then (rc, { after with records := left })
  else (rc, after)

/-- The load function of a slot. -/
def load (store : NvsStore) : (slot : NvsSlot) → Option Errno → slot.Value → ℤ × slot.Value
  | .total => store.nvsStoreLoadTotal
  | .impPerKwh => store.nvsStoreLoadImpPerKwh
  | .pulseMinWidthUs => store.nvsStoreLoadPulseMinWidthUs

/-- The save function of a slot. -/
def save (store : NvsStore) : (slot : NvsSlot) → slot.Value → Option Errno → ℤ × NvsStore
  | .total => store.nvsStoreSaveTotal
  | .impPerKwh => store.nvsStoreSaveImpPerKwh
  | .pulseMinWidthUs => store.nvsStoreSavePulseMinWidthUs

/-- A call with what its backend calls return, or a reboot. -/
inductive Call
  | reboot
  | init (results : MountResults) (left : NvsRecords)
  | load (slot : NvsSlot) (fault : Option Errno) (out : slot.Value)
  | save (slot : NvsSlot) (value : slot.Value) (fault : Option Errno)

/-- The store after a call. -/
def react (store : NvsStore) : Call → NvsStore
  | .reboot => { store with initialized := false }
  | .init results left => (store.init results left).2
  | .load _ _ _ => store
  | .save slot value fault => (store.save slot value fault).2

/-- The store after a list of calls. -/
def run (store : NvsStore) (calls : List Call) : NvsStore :=
  calls.foldl react store

/-- The store at power-up. -/
def powerUp (records : NvsRecords) : NvsStore := ⟨false, records⟩

/-- What a call did to the partition: a successful save, a clear, or a clear cut short. -/
def change (store : NvsStore) : Call → Option (Cells.Change NvsSlot.Value)
  | .reboot => none
  | .init results left =>
      if store.initialized then none
      else if results.Wipes then some (.reset fun _ => none)
      else if results.ClearFails then some (.reset left.contents)
      else none
  | .load _ _ _ => none
  | .save slot value fault =>
      if (store.save slot value fault).1 = 0 then some (.write slot value) else none

/-- What a list of calls did to the partition. -/
def changes (store : NvsStore) : List Call → List (Cells.Change NvsSlot.Value)
  | [] => []
  | call :: calls => (store.change call).toList ++ (store.react call).changes calls

/-- An initialization succeeded after the calls' last reboot. -/
def InitSucceeded (store : NvsStore) (calls : List Call) : Prop :=
  ∃ earlier results left later, calls = earlier ++ .init results left :: later ∧
    .reboot ∉ later ∧ ((store.run earlier).init results left).1 = 0

variable {store : NvsStore}

theorem run_append (store : NvsStore) (earlier later : List Call) :
    store.run (earlier ++ later) = (store.run earlier).run later :=
  List.foldl_append

/-! ## One call -/

theorem load_eq (store : NvsStore) (slot : NvsSlot) (fault : Option Errno) (out : slot.Value) :
    store.load slot fault out = store.loadRecord slot.id slot.width slot.decode fault out := by
  cases slot with
  | total => rfl
  | impPerKwh => rfl
  | pulseMinWidthUs => rfl

theorem save_eq (store : NvsStore) (slot : NvsSlot) (value : slot.Value)
    (fault : Option Errno) :
    store.save slot value fault =
      store.saveRecord slot.id slot.width (slot.encode value) fault := by
  cases slot with
  | total => rfl
  | impPerKwh => rfl
  | pulseMinWidthUs => rfl

theorem load_closed (closed : store.initialized = false) (slot : NvsSlot)
    (fault : Option Errno) (out : slot.Value) :
    store.load slot fault out = (Errno.einval.rc, out) := by
  simp [load_eq, loadRecord, closed]

theorem save_closed (closed : store.initialized = false) (slot : NvsSlot) (value : slot.Value)
    (fault : Option Errno) : store.save slot value fault = (Errno.einval.rc, store) := by
  rw [save_eq, saveRecord_uninitialized closed]

/-- A load either reads its cell or returns an error and leaves the output alone. -/
theorem load_cases (store : NvsStore) (slot : NvsSlot) (fault : Option Errno)
    (out : slot.Value) :
    (store.initialized = true ∧ fault = none ∧ ∃ value,
        store.records.contents slot = some value ∧ store.load slot fault out = (0, value)) ∨
      ((store.initialized = true → fault = none → store.records.contents slot = none) ∧
        (store.load slot fault out).1 < 0 ∧ (store.load slot fault out).2 = out) := by
  cases opened : store.initialized with
  | false =>
      right
      rw [load_closed opened]
      exact ⟨fun impossible => absurd impossible Bool.false_ne_true, Errno.einval.rc_neg, rfl⟩
  | true =>
      cases fault with
      | some errno =>
          right
          rw [load_eq, loadRecord_fault opened]
          exact ⟨fun _ impossible => absurd impossible (Option.some_ne_none errno),
            errno.rc_neg, rfl⟩
      | none =>
          rw [load_eq, loadRecord_ok opened, NvsRecords.contents]
          cases store.records.stored slot.id slot.width with
          | none => exact Or.inr ⟨fun _ _ => rfl, Errno.enoent.rc_neg, rfl⟩
          | some number => exact Or.inl ⟨rfl, rfl, slot.decode number, rfl, rfl⟩

/-- A save either writes its cell or returns an error and changes nothing. -/
theorem save_cases (store : NvsStore) (slot : NvsSlot) (value : slot.Value)
    (fault : Option Errno) :
    (store.initialized = true ∧ fault = none ∧ (store.save slot value fault).1 = 0 ∧
        (store.save slot value fault).2.records.contents =
          store.records.contents.apply (.write slot value)) ∨
      ((store.initialized = true → fault ≠ none) ∧ (store.save slot value fault).1 ≠ 0 ∧
        (store.save slot value fault).2 = store) := by
  rw [save_eq]
  rcases store.saveRecord_cases slot.id slot.width (slot.encode value) fault with
    ⟨opened, no_fault, saved⟩ | failed
  · refine Or.inl ⟨opened, no_fault, by rw [saved], ?_⟩
    rw [saved]
    funext other
    by_cases same : other = slot
    · subst same
      simp [NvsRecords.contents, Cells.apply, NvsRecords.stored_update_self,
        other.encode_lt value]
    · have apart : other.id ≠ slot.id := fun equal => same (NvsSlot.id_injective equal)
      simp [NvsRecords.contents, Cells.apply, NvsRecords.stored, same, apart]
  · exact Or.inr failed

/-- A cell is full exactly when its record has the slot's size. -/
theorem exists_contents_iff (records : NvsRecords) (slot : NvsSlot) :
    (∃ value, records.contents slot = some value) ↔
      ∃ data, records slot.id = some data ∧ data.length = slot.width := by
  rw [NvsRecords.contents, NvsRecords.stored]
  cases records slot.id with
  | none => simp
  | some data => simp [Option.filter]

theorem init_opened (opened : store.initialized = true) (results : MountResults)
    (left : NvsRecords) : store.init results left = (0, store) := by
  simp [init, nvsStoreInit, opened]

/-- A mount opens the store with all its records. -/
theorem init_mounts (closed : store.initialized = false) {results : MountResults}
    (mounts : results.Mounts) (left : NvsRecords) :
    store.init results left = (0, { store with initialized := true }) := by
  have not_fails : ¬ results.ClearFails := fun fails => fails.2.2.1 mounts.2.2
  simp [init, not_fails, nvsStoreInit_mounts closed mounts]

/-- A recovery opens an empty store. -/
theorem init_recovers (closed : store.initialized = false) {results : MountResults}
    (recovers : results.Recovers) (left : NvsRecords) :
    store.init results left = (0, ⟨true, fun _ => none⟩) := by
  obtain ⟨⟨ready, page_ok, mount_fails, clear_ok⟩, remount_ok⟩ := recovers
  simp [init, nvsStoreInit, MountResults.ClearFails, closed, ready, page_ok, mount_fails,
    clear_ok, remount_ok]

/-- An initialization succeeds exactly when it leaves the store open. -/
theorem init_opens (store : NvsStore) (results : MountResults) (left : NvsRecords) :
    (store.init results left).1 = 0 ↔ (store.init results left).2.initialized = true := by
  cases opened : store.initialized with
  | true => simp [init_opened opened, opened]
  | false =>
      have opens := nvsStoreInit_opens opened results
      simp only [init]
      split_ifs <;> exact opens

/-- An initialization keeps the records unless it clears them or fails to. -/
theorem records_init (closed : store.initialized = false) (results : MountResults)
    (left : NvsRecords) :
    (store.init results left).2.records =
      if results.Wipes then fun _ => none
      else if results.ClearFails then left
      else store.records := by
  by_cases fails : results.ClearFails
  · have not_wiped : ¬ results.Wipes := fun wipes => fails.2.2.2 wipes.2.2.2
    simp [init, closed, fails, not_wiped]
  · by_cases wipes : results.Wipes
    · obtain ⟨ready, page_ok, mount_fails, clear_ok⟩ := wipes
      by_cases remount_ok : results.remount = 0 <;>
        simp [init, nvsStoreInit, MountResults.ClearFails, MountResults.Wipes, closed, ready,
          page_ok, mount_fails, clear_ok, remount_ok]
    · simp [init, fails, wipes, nvsStoreInit_records wipes]

/-! ## Runs of calls -/

/-- A call changes the contents as recorded. -/
theorem contents_react (store : NvsStore) (call : Call) :
    (store.react call).records.contents =
      store.records.contents.replay (store.change call).toList := by
  cases call with
  | reboot => rfl
  | init results left =>
      cases opened : store.initialized with
      | true => simp [react, change, init_opened opened, opened]
      | false =>
          rw [react, change, records_init opened, opened]
          split_ifs <;> first | contradiction | rfl
  | load => rfl
  | save slot value fault =>
      rcases store.save_cases slot value fault with
        ⟨-, -, succeeded, written⟩ | ⟨-, failed, kept⟩
      · simp [react, change, succeeded, written, Cells.replay_singleton]
      · simp [react, change, failed, kept]

/-- The contents are the replay of what the calls did to the partition. -/
theorem contents_run (store : NvsStore) (calls : List Call) :
    (store.run calls).records.contents = store.records.contents.replay (store.changes calls) := by
  induction calls generalizing store with
  | nil => rfl
  | cons call calls induction =>
      rw [changes, Cells.replay_append, ← contents_react]
      exact induction (store.react call)

theorem initSucceeded_concat (store : NvsStore) (calls : List Call) (call : Call) :
    store.InitSucceeded (calls ++ [call]) ↔
      (∃ results left, call = .init results left ∧
          ((store.run calls).init results left).1 = 0) ∨
        (call ≠ .reboot ∧ store.InitSucceeded calls) := by
  constructor
  · rintro ⟨earlier, results, left, later, whole, spared, succeeded⟩
    rcases Trace.split_concat whole with ⟨later, rfl, calls_eq⟩ | ⟨-, init_eq, rfl⟩
    · rw [List.mem_append, List.mem_singleton, not_or] at spared
      exact Or.inr
        ⟨Ne.symm spared.2, earlier, results, left, later, calls_eq, spared.1, succeeded⟩
    · exact Or.inl ⟨results, left, init_eq.symm, succeeded⟩
  · rintro (⟨results, left, rfl, succeeded⟩ |
      ⟨not_reboot, earlier, results, left, later, rfl, spared, succeeded⟩)
    · exact ⟨calls, results, left, [], rfl, by simp, succeeded⟩
    · exact ⟨earlier, results, left, later ++ [call], by simp, by simp [spared, not_reboot.symm],
        succeeded⟩

/-- After power-up the store is open exactly after a successful initialization. -/
theorem initialized_run_iff (records : NvsRecords) (calls : List Call) :
    ((powerUp records).run calls).initialized = true ↔
      (powerUp records).InitSucceeded calls := by
  induction calls using List.reverseRecOn with
  | nil => simp [run, powerUp, InitSucceeded]
  | append_singleton calls call induction =>
      rw [initSucceeded_concat, ← induction, run_append]
      generalize (powerUp records).run calls = store
      change (store.react call).initialized = true ↔ _
      cases call with
      | reboot => simp [react]
      | init results left =>
          cases opened : store.initialized with
          | true => simp [react, init_opened opened, opened]
          | false => simp [react, init_opens]
      | load slot fault out => simp [react]
      | save slot value fault => simp [react, save_eq]

/-! ## The contract -/

/-- What the callers of the store rely on, after some calls on a partition that held `start`. -/
structure Contract (start : NvsRecords) (calls : List Call) (store : NvsStore) : Prop where
  /-- The store is open exactly after a successful initialization. -/
  opened_iff : store.initialized = true ↔ (powerUp start).InitSucceeded calls
  /-- A closed store loads nothing. -/
  load_closed : store.initialized = false → ∀ slot fault out,
    store.load slot fault out = (Errno.einval.rc, out)
  /-- A closed store saves nothing. -/
  save_closed : store.initialized = false → ∀ slot value fault,
    store.save slot value fault = (Errno.einval.rc, store)
  /-- A load succeeds exactly on a record of the slot's size that the backend reads. -/
  load_hits : ∀ slot fault out, (store.load slot fault out).1 = 0 ↔
    store.initialized = true ∧ fault = none ∧
      ∃ data, store.records slot.id = some data ∧ data.length = slot.width
  /-- It returns the last successful save since the last clear, or what was there before. -/
  load_value : ∀ slot fault out, (store.load slot fault out).1 = 0 →
    Cells.LastWrite ((powerUp start).changes calls) slot (store.load slot fault out).2 ∨
      Cells.LeftAlone start.contents ((powerUp start).changes calls) slot
        (store.load slot fault out).2
  /-- A load that fails leaves the output alone. -/
  load_fails : ∀ slot fault out, (store.load slot fault out).1 ≠ 0 →
    (store.load slot fault out).2 = out
  /-- A save succeeds exactly on an open store whose backend writes, and can then be loaded. -/
  save_hits : ∀ slot value fault, (store.save slot value fault).1 = 0 ↔
    store.initialized = true ∧ fault = none
  save_load : ∀ slot value fault out, (store.save slot value fault).1 = 0 →
    (store.save slot value fault).2.load slot none out = (0, value)
  /-- A save keeps every other slot. -/
  save_frame : ∀ slot value fault other, other ≠ slot →
    (store.save slot value fault).2.records other.id = store.records other.id
  /-- A save that fails keeps all slots. -/
  save_fails : ∀ slot value fault, (store.save slot value fault).1 ≠ 0 →
    (store.save slot value fault).2 = store
  /-- Another initialization of an open store does nothing. -/
  init_again : store.initialized = true → ∀ results left, store.init results left = (0, store)
  /-- An initialization that mounts the partition opens the store and keeps all slots. -/
  init_mounts : store.initialized = false → ∀ results left, results.Mounts →
    store.init results left = (0, { store with initialized := true })
  /-- What was saved can be loaded after a reboot and a mount. -/
  save_survives : ∀ slot value fault results left out, (store.save slot value fault).1 = 0 →
    results.Mounts →
    (((store.save slot value fault).2.react .reboot).init results left).2.load slot none out =
      (0, value)
  /-- An initialization that recovers opens the store with all slots empty. -/
  init_recovers : store.initialized = false → ∀ results left, results.Recovers →
    (store.init results left).1 = 0 ∧
      (∀ slot : NvsSlot, (store.init results left).2.records slot.id = none) ∧
      ∀ slot out, (store.init results left).2.load slot none out = (Errno.enoent.rc, out)

theorem load_hits (store : NvsStore) (slot : NvsSlot) (fault : Option Errno)
    (out : slot.Value) :
    (store.load slot fault out).1 = 0 ↔ store.initialized = true ∧ fault = none ∧
      ∃ data, store.records slot.id = some data ∧ data.length = slot.width := by
  rw [← exists_contents_iff]
  rcases store.load_cases slot fault out with
    ⟨opened, rfl, value, holds, loaded⟩ | ⟨misses, failed, -⟩
  · exact iff_of_true (by rw [loaded]) ⟨opened, rfl, value, holds⟩
  · refine iff_of_false failed.ne ?_
    rintro ⟨opened, no_fault, value, holds⟩
    rw [misses opened no_fault] at holds
    exact Option.some_ne_none value holds.symm

theorem save_hits (store : NvsStore) (slot : NvsSlot) (value : slot.Value)
    (fault : Option Errno) :
    (store.save slot value fault).1 = 0 ↔ store.initialized = true ∧ fault = none := by
  rcases store.save_cases slot value fault with
    ⟨opened, no_fault, succeeded, -⟩ | ⟨faulty, failed, -⟩
  · exact iff_of_true succeeded ⟨opened, no_fault⟩
  · exact iff_of_false failed fun ⟨opened, no_fault⟩ => faulty opened no_fault

/-- A successful load reads its cell. -/
theorem contents_of_load {slot : NvsSlot} {fault : Option Errno} {out : slot.Value}
    (loaded : (store.load slot fault out).1 = 0) :
    store.records.contents slot = some (store.load slot fault out).2 := by
  rcases store.load_cases slot fault out with ⟨-, -, value, holds, returned⟩ | ⟨-, failed, -⟩
  · rw [holds, returned]
  · exact absurd loaded failed.ne

/-- A value that was saved can be loaded. -/
theorem load_of_save {slot : NvsSlot} {value : slot.Value} {fault : Option Errno}
    (saved : (store.save slot value fault).1 = 0) (out : slot.Value) :
    (store.save slot value fault).2.load slot none out = (0, value) := by
  have still_open : (store.save slot value fault).2.initialized = store.initialized := by
    simp [save_eq]
  rcases store.save_cases slot value fault with ⟨opened, -, -, written⟩ | ⟨-, failed, -⟩
  · have holds : (store.save slot value fault).2.records.contents slot = some value := by
      simp [written, Cells.apply]
    rcases (store.save slot value fault).2.load_cases slot none out with
      ⟨-, -, loaded, held, returned⟩ | ⟨misses, -, -⟩
    · rw [returned, Option.some.inj (held.symm.trans holds)]
    · rw [misses (still_open.trans opened) rfl] at holds
      exact absurd holds.symm (Option.some_ne_none value)
  · exact absurd saved failed

/-- A store that was saved to is open. -/
theorem save_opened {slot : NvsSlot} {value : slot.Value} {fault : Option Errno}
    (saved : (store.save slot value fault).1 = 0) :
    (store.save slot value fault).2.initialized = true := by
  have opened := ((store.save_hits slot value fault).mp saved).1
  simpa [save_eq] using opened

/-- A mount after a reboot brings an open store back. -/
theorem init_reboot (opened : store.initialized = true) {results : MountResults}
    (mounts : results.Mounts) (left : NvsRecords) :
    (store.react .reboot).init results left = (0, store) := by
  rw [init_mounts rfl mounts left, react, ← opened]

/-- After any calls, with any backend failures, the store keeps its contract. -/
theorem three_slot_store (start : NvsRecords) (calls : List Call) :
    Contract start calls ((powerUp start).run calls) where
  opened_iff := initialized_run_iff start calls
  load_closed := load_closed
  save_closed := save_closed
  load_hits := load_hits _
  load_value := by
    intro slot fault out loaded
    have holds := contents_of_load loaded
    rw [contents_run] at holds
    exact Cells.lastWrite_or_leftAlone holds
  load_fails := by
    intro slot fault out failed
    rcases load_cases _ slot fault out with ⟨-, -, value, -, loaded⟩ | ⟨-, -, kept⟩
    · rw [loaded] at failed
      exact absurd rfl failed
    · exact kept
  save_hits := save_hits _
  save_load := fun slot value fault out saved => load_of_save saved out
  save_frame := by
    intro slot value fault other distinct
    rw [save_eq]
    exact records_saveRecord_of_ne _ (NvsSlot.id_injective.ne distinct) _ _ _
  save_fails := by
    intro slot value fault failed
    rcases save_cases _ slot value fault with ⟨-, -, succeeded, -⟩ | ⟨-, -, kept⟩
    · exact absurd succeeded failed
    · exact kept
  init_again := init_opened
  init_mounts := fun closed results left mounts => init_mounts closed mounts left
  save_survives := by
    intro slot value fault results left out saved mounts
    rw [init_reboot (save_opened saved) mounts left]
    exact load_of_save saved out
  init_recovers := by
    intro closed results left recovers
    rw [init_recovers closed recovers left]
    refine ⟨rfl, fun slot => rfl, ?_⟩
    intro slot out
    rw [load_eq, loadRecord_ok rfl]
    rfl

end NvsStore

end PowerMeter
