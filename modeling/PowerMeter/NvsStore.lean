import PowerMeter.Foundations.LittleEndian
import Mathlib.Logic.Function.Basic
import Mathlib.Tactic.SplitIfs

/-!
# The persistent store

`nvs_store.c` keeps three fixed-width records on Zephyr's NVS. A backend call either follows the
Zephyr contract or returns a negative error, and a failed write leaves the stored record as it was.
The three load and save pairs differ only in record id and width.
-/

namespace PowerMeter

/-- An error code; the C functions return its negation. -/
structure Errno where
  code : ℕ
  code_pos : 0 < code
  deriving DecidableEq

namespace Errno

/-- The value a C function returns for an error. -/
def rc (errno : Errno) : ℤ := -errno.code

theorem rc_neg (errno : Errno) : errno.rc < 0 := by
  have code_pos := errno.code_pos
  rw [rc]
  omega

/-- `ENOENT`. -/
def enoent : Errno := ⟨2, by decide⟩

/-- `EIO`. -/
def eio : Errno := ⟨5, by decide⟩

/-- `ENODEV`. -/
def enodev : Errno := ⟨19, by decide⟩

/-- `EINVAL`. -/
def einval : Errno := ⟨22, by decide⟩

end Errno

/-- `NVS_ID_ACCUMULATOR_TOTAL`. -/
def nvsIdAccumulatorTotal : UInt16 := 1

/-- `NVS_ID_IMP_PER_KWH`. -/
def nvsIdImpPerKwh : UInt16 := 2

/-- `NVS_ID_PULSE_MIN_WIDTH_US`. -/
def nvsIdPulseMinWidthUs : UInt16 := 3

/-- The records of the NVS partition. -/
abbrev NvsRecords := UInt16 → Option (List UInt8)

namespace NvsRecords

/-- `nvs_read`: a length or a negative error, and the bytes copied into the buffer. -/
def nvsRead (records : NvsRecords) (id : UInt16) (len : ℕ) (fault : Option Errno) :
    ℤ × List UInt8 :=
  match fault with
  | some errno => (errno.rc, [])
  | none =>
      match records id with
      | some data => (data.length, data.take len)
      | none => (Errno.enoent.rc, [])

/-- `nvs_write`: the number of bytes written, zero when the record already holds the data. -/
def nvsWrite (records : NvsRecords) (id : UInt16) (data : List UInt8) (fault : Option Errno) :
    ℤ × NvsRecords :=
  match fault with
  | some errno => (errno.rc, records)
  | none =>
      (if records id = some data then 0 else data.length, Function.update records id (some data))

/-- The number a record of the given width holds, if there is such a record. -/
def stored (records : NvsRecords) (id : UInt16) (width : ℕ) : Option ℕ :=
  ((records id).filter fun data => data.length = width).map LittleEndian.decode

theorem stored_update_self (records : NvsRecords) (id : UInt16) {width value : ℕ}
    (fits : value < 256 ^ width) :
    NvsRecords.stored
      (Function.update records id (some (LittleEndian.encode width value))) id width =
        some value := by
  simp [stored, LittleEndian.decode_encode_of_lt fits]

/-- The pulse total held in the accumulator slot; no well-formed record counts as zero. -/
def savedTotal (records : NvsRecords) : UInt64 :=
  UInt64.ofNat ((records.stored nvsIdAccumulatorTotal 8).getD 0)

end NvsRecords

/-- The static state of `nvs_store.c` and the partition behind it. -/
structure NvsStore where
  initialized : Bool
  records : NvsRecords

namespace NvsStore

/-- What the flash driver and `nvs_mount`, `nvs_clear` return during one initialization. -/
structure MountResults where
  deviceReady : Bool
  pageInfo : ℤ
  mount : ℤ
  clear : ℤ
  remount : ℤ

/-- The results of an initialization that meets no failure. -/
def MountResults.success : MountResults := ⟨true, 0, 0, 0, 0⟩

/-- The flash driver is ready and the partition mounts. -/
def MountResults.Mounts (results : MountResults) : Prop :=
  results.deviceReady = true ∧ results.pageInfo = 0 ∧ results.mount = 0

instance (results : MountResults) : Decidable results.Mounts :=
  inferInstanceAs (Decidable (_ ∧ _ ∧ _))

/-- A partition that does not mount is cleared. -/
def MountResults.Wipes (results : MountResults) : Prop :=
  results.deviceReady = true ∧ results.pageInfo = 0 ∧ results.mount ≠ 0 ∧ results.clear = 0

/-- `nvs_store_init`; a successful `nvs_clear` empties the partition. -/
def nvsStoreInit (store : NvsStore) (results : MountResults) : ℤ × NvsStore :=
  if store.initialized then (0, store)
  else if !results.deviceReady then (Errno.enodev.rc, store)
  else if results.pageInfo ≠ 0 then (results.pageInfo, store)
  else if results.mount ≠ 0 then
    if results.clear = 0 then
      let store := { store with records := fun _ => none }
      if results.remount ≠ 0 then (results.remount, store)
      else (0, { store with initialized := true })
    else (results.mount, store)
  else (0, { store with initialized := true })

variable {α : Type*}

/-- The body the three load functions share. -/
def loadRecord (store : NvsStore) (id : UInt16) (width : ℕ) (ofNat : ℕ → α)
    (fault : Option Errno) (out : α) : ℤ × α :=
  if !store.initialized then (Errno.einval.rc, out)
  else
    let (n, val) := store.records.nvsRead id width fault
    if n = width then (0, ofNat (LittleEndian.decode val))
    else if n < 0 then (n, out)
    else (Errno.enoent.rc, out)

/-- The body the three save functions share. -/
def saveRecord (store : NvsStore) (id : UInt16) (width value : ℕ) (fault : Option Errno) :
    ℤ × NvsStore :=
  if !store.initialized then (Errno.einval.rc, store)
  else
    let (n, records) := store.records.nvsWrite id (LittleEndian.encode width value) fault
    let store := { store with records }
    if n < 0 then (n, store) else (0, store)

/-- `nvs_store_load_total`. -/
def nvsStoreLoadTotal (store : NvsStore) (fault : Option Errno) (out : UInt64) : ℤ × UInt64 :=
  store.loadRecord nvsIdAccumulatorTotal 8 UInt64.ofNat fault out

/-- `nvs_store_save_total`. -/
def nvsStoreSaveTotal (store : NvsStore) (total : UInt64) (fault : Option Errno) :
    ℤ × NvsStore :=
  store.saveRecord nvsIdAccumulatorTotal 8 total.toNat fault

/-- `nvs_store_load_imp_per_kwh`. -/
def nvsStoreLoadImpPerKwh (store : NvsStore) (fault : Option Errno) (out : UInt32) :
    ℤ × UInt32 :=
  store.loadRecord nvsIdImpPerKwh 4 UInt32.ofNat fault out

/-- `nvs_store_save_imp_per_kwh`. -/
def nvsStoreSaveImpPerKwh (store : NvsStore) (impPerKwh : UInt32) (fault : Option Errno) :
    ℤ × NvsStore :=
  store.saveRecord nvsIdImpPerKwh 4 impPerKwh.toNat fault

/-- `nvs_store_load_pulse_min_width_us`. -/
def nvsStoreLoadPulseMinWidthUs (store : NvsStore) (fault : Option Errno) (out : UInt32) :
    ℤ × UInt32 :=
  store.loadRecord nvsIdPulseMinWidthUs 4 UInt32.ofNat fault out

/-- `nvs_store_save_pulse_min_width_us`. -/
def nvsStoreSavePulseMinWidthUs (store : NvsStore) (minWidthUs : UInt32)
    (fault : Option Errno) : ℤ × NvsStore :=
  store.saveRecord nvsIdPulseMinWidthUs 4 minWidthUs.toNat fault

variable {store : NvsStore} {id : UInt16} {width : ℕ}

theorem loadRecord_fault (opened : store.initialized = true) (ofNat : ℕ → α) (errno : Errno)
    (out : α) : store.loadRecord id width ofNat (some errno) out = (errno.rc, out) := by
  have negative := errno.rc_neg
  have not_width : errno.rc ≠ width := by omega
  simp [loadRecord, opened, NvsRecords.nvsRead, not_width, negative]

/-- A load that meets no fault returns the stored number, or `-ENOENT`. -/
theorem loadRecord_ok (opened : store.initialized = true) (ofNat : ℕ → α) (out : α) :
    store.loadRecord id width ofNat none out =
      match store.records.stored id width with
      | some value => (0, ofNat value)
      | none => (Errno.enoent.rc, out) := by
  have negative := Errno.enoent.rc_neg
  have not_width : Errno.enoent.rc ≠ width := by omega
  rw [loadRecord, NvsRecords.stored, NvsRecords.nvsRead]
  cases record : store.records id with
  | none => simp [opened, not_width, negative]
  | some data =>
      by_cases length_eq : data.length = width
      · simp [opened, Option.filter, ← length_eq]
      · simp [opened, Option.filter, length_eq]

theorem saveRecord_uninitialized (closed : store.initialized = false) (value : ℕ)
    (fault : Option Errno) :
    store.saveRecord id width value fault = (Errno.einval.rc, store) := by
  simp [saveRecord, closed]

theorem saveRecord_fault (opened : store.initialized = true) (value : ℕ) (errno : Errno) :
    store.saveRecord id width value (some errno) = (errno.rc, store) := by
  have negative := errno.rc_neg
  cases store with
  | mk initialized records =>
      obtain rfl : initialized = true := opened
      simp [saveRecord, NvsRecords.nvsWrite, negative]

/-- A save that meets no fault stores the encoded value and nothing else. -/
theorem saveRecord_ok (opened : store.initialized = true) (value : ℕ) :
    store.saveRecord id width value none =
      (0, { store with
        records :=
          Function.update store.records id (some (LittleEndian.encode width value)) }) := by
  have nonnegative : ¬((if store.records id = some (LittleEndian.encode width value) then 0
      else ((LittleEndian.encode width value).length : ℤ)) < 0) := by
    split <;> omega
  rw [saveRecord, NvsRecords.nvsWrite]
  simp only [opened, nonnegative, Bool.not_true, Bool.false_eq_true, if_false]

/-- A save succeeds on an open store that meets no fault, and changes nothing otherwise. -/
theorem saveRecord_cases (store : NvsStore) (id : UInt16) (width value : ℕ)
    (fault : Option Errno) :
    (store.initialized = true ∧ fault = none ∧ store.saveRecord id width value fault =
        (0, { store with
          records :=
            Function.update store.records id (some (LittleEndian.encode width value)) })) ∨
      ((store.initialized = true → fault ≠ none) ∧
        (store.saveRecord id width value fault).1 ≠ 0 ∧
        (store.saveRecord id width value fault).2 = store) := by
  cases opened : store.initialized with
  | false =>
      right
      rw [saveRecord_uninitialized opened]
      exact ⟨fun impossible => absurd impossible Bool.false_ne_true, Errno.einval.rc_neg.ne, rfl⟩
  | true =>
      cases fault with
      | some errno =>
          right
          rw [saveRecord_fault opened]
          exact ⟨fun _ => Option.some_ne_none errno, errno.rc_neg.ne, rfl⟩
      | none =>
          left
          refine ⟨rfl, rfl, ?_⟩
          rw [saveRecord_ok opened, opened]

@[simp]
theorem initialized_saveRecord (store : NvsStore) (id : UInt16) (width value : ℕ)
    (fault : Option Errno) :
    (store.saveRecord id width value fault).2.initialized = store.initialized := by
  rcases store.saveRecord_cases id width value fault with ⟨-, -, saved⟩ | ⟨-, -, kept⟩
  · rw [saved]
  · rw [kept]

theorem records_saveRecord_of_ne (store : NvsStore) {id other : UInt16} (distinct : other ≠ id)
    (width value : ℕ) (fault : Option Errno) :
    (store.saveRecord id width value fault).2.records other = store.records other := by
  rcases store.saveRecord_cases id width value fault with ⟨-, -, saved⟩ | ⟨-, -, kept⟩
  · rw [saved]
    exact Function.update_of_ne distinct _ _
  · rw [kept]

theorem stored_saveRecord (opened : store.initialized = true) {value : ℕ}
    (fits : value < 256 ^ width) (fault : Option Errno) :
    (store.saveRecord id width value fault).2.records.stored id width =
      if fault.isNone then some value else store.records.stored id width := by
  cases fault with
  | some errno => simp [saveRecord_fault opened]
  | none =>
      rw [saveRecord_ok opened]
      exact NvsRecords.stored_update_self store.records id fits

theorem savedTotal_update (records : NvsRecords) (total : UInt64) :
    NvsRecords.savedTotal (Function.update records nvsIdAccumulatorTotal
      (some (LittleEndian.encode 8 total.toNat))) = total := by
  rw [NvsRecords.savedTotal, NvsRecords.stored_update_self records _ total.toNat_lt,
    Option.getD_some, UInt64.ofNat_toNat]

/-- A save of the total succeeds on an open store that meets no fault, and changes nothing
otherwise. -/
theorem nvsStoreSaveTotal_cases (store : NvsStore) (total : UInt64) (fault : Option Errno) :
    (store.initialized = true ∧ fault = none ∧
      store.nvsStoreSaveTotal total fault =
        (0, { store with
          records := Function.update store.records nvsIdAccumulatorTotal
            (some (LittleEndian.encode 8 total.toNat)) })) ∨
      ((store.initialized = true → fault ≠ none) ∧
        (store.nvsStoreSaveTotal total fault).1 ≠ 0 ∧
        (store.nvsStoreSaveTotal total fault).2 = store) :=
  store.saveRecord_cases nvsIdAccumulatorTotal 8 total.toNat fault

/-- A load of the total that meets no fault returns the saved total; on a cold boot that is zero
and the output stays as it was. -/
theorem nvsStoreLoadTotal_ok (opened : store.initialized = true) (out : UInt64) :
    store.nvsStoreLoadTotal none out = (0, store.records.savedTotal) ∨
      (store.nvsStoreLoadTotal none out = (Errno.enoent.rc, out) ∧
        store.records.savedTotal = 0) := by
  rw [nvsStoreLoadTotal, loadRecord_ok opened, NvsRecords.savedTotal]
  cases store.records.stored nvsIdAccumulatorTotal 8 with
  | none => exact Or.inr ⟨rfl, rfl⟩
  | some value => exact Or.inl rfl

/-- A partition that mounts opens the store and keeps its records. -/
theorem nvsStoreInit_mounts (closed : store.initialized = false) {results : MountResults}
    (mounts : results.Mounts) :
    store.nvsStoreInit results = (0, { store with initialized := true }) := by
  obtain ⟨ready, page_ok, mount_ok⟩ := mounts
  simp [nvsStoreInit, closed, ready, page_ok, mount_ok]

theorem nvsStoreInit_opens (closed : store.initialized = false) (results : MountResults) :
    (store.nvsStoreInit results).1 = 0 ↔ (store.nvsStoreInit results).2.initialized = true := by
  have enodev_ne := Errno.enodev.rc_neg.ne
  unfold nvsStoreInit
  split_ifs <;> simp_all

theorem nvsStoreInit_records {results : MountResults} (kept : ¬ results.Wipes) :
    (store.nvsStoreInit results).2.records = store.records := by
  unfold MountResults.Wipes at kept
  unfold nvsStoreInit
  split_ifs <;> simp_all

end NvsStore

end PowerMeter
