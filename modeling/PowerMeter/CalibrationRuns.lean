import PowerMeter.Foundations.Setting
import PowerMeter.ZclDevice

/-!
# Runs of the two calibration knobs

Over boots, coordinator writes and reboots each knob behaves as a persisted setting. The attribute
of the pulse width, which the rejecting branch rolls back to a value already overwritten, is
truthful exactly as long as no write is rejected.
-/

namespace PowerMeter

open Guarded

namespace MeterDevice

variable {zbUint32ToUint24 : UInt32 → ZbUint24} {config : Kconfig} {records : NvsRecords}
  {results : BootResults} {device : MeterDevice} {param : DeviceCallbackParam}

/-! ## What one write does -/

/-- A rejected width keeps whatever the attribute storage holds. -/
theorem setMinPulseWidth_of_not_valid {newWidth : UInt16}
    (rejected : calibrationIsValidPulseMinWidthUs newWidth.toUInt32 = false)
    (fault : Option Errno) :
    device.setMinPulseWidth newWidth fault = (.retOutOfRange, device) := by
  simp [setMinPulseWidth, rejected]

theorem setMinPulseWidth_of_valid {newWidth : UInt16}
    (accepted : calibrationIsValidPulseMinWidthUs newWidth.toUInt32 = true)
    (fault : Option Errno) :
    device.setMinPulseWidth newWidth fault =
      (.retOk,
        { device with
          ctx := { device.ctx with meteringMinPulseWidthUs := newWidth }
          hw := device.hw.hwPulseCounterSetMinWidthUs newWidth.toUInt32
          store := (device.store.nvsStoreSavePulseMinWidthUs newWidth.toUInt32 fault).2 }) := by
  simp [setMinPulseWidth, accepted]

/-- A rejected divisor puts the divisor in force back into the attribute storage. -/
theorem setDivisor_of_not_valid {newDivisor : UInt32}
    (rejected : calibrationIsValidImpPerKwh newDivisor = false) (fault : Option Errno) :
    device.setDivisor zbUint32ToUint24 newDivisor fault =
      (.retOutOfRange,
        { device with ctx := { device.ctx with
            meteringDivisor := zbUint32ToUint24 device.effectiveDivisor } }) := by
  simp [setDivisor, rejected]

theorem setDivisor_of_valid {newDivisor : UInt32}
    (accepted : calibrationIsValidImpPerKwh newDivisor = true) (fault : Option Errno) :
    device.setDivisor zbUint32ToUint24 newDivisor fault =
      (.retOk,
        { device with
          effectiveDivisor := newDivisor
          store := (device.store.nvsStoreSaveImpPerKwh newDivisor fault).2 }) := by
  simp [setDivisor, accepted]

/-! ## The pulse-width attribute -/

/-- The width a read returns is the threshold in force, and it is inside its range. -/
structure Truthful (device : MeterDevice) : Prop where
  attribute_eq : device.ctx.meteringMinPulseWidthUs.toUInt32 = device.hw.timer3.cc0
  valid : calibrationIsValidPulseMinWidthUs device.hw.timer3.cc0 = true

/-- The device after a list of callbacks, each with the outcome of the save it may make. -/
def serveAll (zbUint32ToUint24 : UInt32 → ZbUint24) (device : MeterDevice)
    (callbacks : List (DeviceCallbackParam × Option Errno)) : MeterDevice :=
  callbacks.foldl (fun device callback => (device.serve zbUint32ToUint24 callback.1 callback.2).2)
    device

/-- A callback that writes a width inside the range, or no width at all. -/
def WidthInRange (param : DeviceCallbackParam) : Prop :=
  ∀ newWidth, param.knobWrite = .minPulseWidth newWidth →
    calibrationIsValidPulseMinWidthUs newWidth.toUInt32 = true

/-- A 32-bit number inside the width range survives its 16-bit attribute. -/
private theorem toUInt16_toUInt32_of_valid {width : UInt32}
    (valid : calibrationIsValidPulseMinWidthUs width = true) :
    width.toUInt16.toUInt32 = width := by
  obtain ⟨-, width_le⟩ := calibrationIsValidPulseMinWidthUs_iff.mp valid
  rw [← UInt32.toNat_inj, UInt16.toNat_toUInt32, UInt32.toNat_toUInt16]
  omega

/-- Both loads of the width at boot come to the same value. -/
private theorem meteringAttrsInit_width (config : Kconfig) (store : NvsStore)
    (divisorFault widthFault : Option Errno) :
    (meteringAttrsInit zbUint32ToUint24 config store divisorFault
      widthFault).1.meteringMinPulseWidthUs =
        (effectiveMinWidthUsAtInit config store widthFault).toUInt16 := by
  simp only [meteringAttrsInit, effectiveMinWidthUsAtInit]
  split_ifs <;> simp_all

/-- What a successful boot leaves. -/
private theorem boot_eq_some
    (booted : boot zbUint32ToUint24 config records results = some device) :
    let store := (NvsStore.nvsStoreInit ⟨false, records⟩ results.mount).2
    let attrs := meteringAttrsInit zbUint32ToUint24 config store results.impPerKwh
      results.widthAtAttrs
    device =
      { ctx := attrs.1
        effectiveDivisor := attrs.2
        hw := .started (effectiveMinWidthUsAtInit config store results.widthAtInit)
        store := store } := by
  unfold boot hwPulseCounterInit at booted
  dsimp only at booted
  split at booted
  next => simp at booted
  next hw started =>
    split at started
    · obtain rfl := Except.ok.inj started
      exact (Option.some.inj booted).symm
    · simp at started

theorem truthful_boot (loads : results.Loads)
    (booted : boot zbUint32ToUint24 config records results = some device) :
    device.Truthful := by
  have valid := effectiveMinWidthUsAtInit_valid config
    (NvsStore.nvsStoreInit ⟨false, records⟩ results.mount).2 none
  rw [boot_eq_some booted, loads.widthAtInit, loads.widthAtAttrs]
  refine ⟨?_, valid⟩
  rw [meteringAttrsInit_width]
  exact toUInt16_toUInt32_of_valid valid

variable (zbUint32ToUint24) in
/-- From a truthful device one callback keeps the attribute truthful if and only if it does not
write a width outside the range. -/
theorem truthful_serve_iff (truthful : device.Truthful) (param : DeviceCallbackParam)
    (fault : Option Errno) :
    (device.serve zbUint32ToUint24 param fault).2.Truthful ↔ WidthInRange param := by
  cases writes : param.knobWrite with
  | unrelated =>
      rw [serve_unrelated writes]
      exact iff_of_true truthful (by simp [WidthInRange, writes])
  | divisor newDivisor =>
      refine iff_of_true ?_ (by simp [WidthInRange, writes])
      rw [serve_divisor writes]
      cases accepted : calibrationIsValidImpPerKwh newDivisor.value with
      | true =>
          rw [setDivisor_of_valid accepted]
          exact ⟨truthful.attribute_eq, truthful.valid⟩
      | false =>
          rw [setDivisor_of_not_valid accepted]
          exact ⟨truthful.attribute_eq, truthful.valid⟩
  | minPulseWidth newWidth =>
      rw [serve_minPulseWidth writes]
      cases accepted : calibrationIsValidPulseMinWidthUs newWidth.toUInt32 with
      | true =>
          rw [setMinPulseWidth_of_valid accepted]
          refine iff_of_true ⟨rfl, accepted⟩ ?_
          simp [WidthInRange, writes, accepted]
      | false =>
          -- The roll-back returns the value ZBOSS has just stored.
          rw [setMinPulseWidth_of_not_valid accepted]
          refine iff_of_false ?_ (by simp [WidthInRange, writes, accepted])
          rintro ⟨attribute_eq, valid⟩
          rw [← attribute_eq, accepted] at valid
          exact absurd valid (by simp)

/-- The width attribute tells the truth after boot and after every callback of a run if and only
if no callback writes a width outside the calibration range. -/
theorem truthful_run_iff (loads : results.Loads)
    (booted : boot zbUint32ToUint24 config records results = some device)
    (callbacks : List (DeviceCallbackParam × Option Errno)) :
    (∀ served, served <+: callbacks → (device.serveAll zbUint32ToUint24 served).Truthful) ↔
      ∀ callback ∈ callbacks, WidthInRange callback.1 := by
  have truthful := truthful_boot loads booted
  clear booted
  induction callbacks generalizing device with
  | nil =>
      refine iff_of_true ?_ (by simp)
      intro served served_prefix
      rwa [List.prefix_nil.mp served_prefix]
  | cons callback callbacks induction =>
      have served_iff := truthful_serve_iff zbUint32ToUint24 truthful callback.1 callback.2
      rw [List.forall_mem_cons]
      constructor
      · intro always
        have first_truthful := always [callback] (by simp)
        refine ⟨served_iff.mp first_truthful, (induction first_truthful).mp ?_⟩
        intro served served_prefix
        exact always (callback :: served) (List.cons_prefix_cons.mpr ⟨rfl, served_prefix⟩)
      · rintro ⟨first, rest⟩ served served_prefix
        rcases List.prefix_cons_iff.mp served_prefix with rfl | ⟨later, rfl, later_prefix⟩
        · exact truthful
        · exact (induction (served_iff.mpr first)).mpr rest later later_prefix

/-! ## Boots and writes without failures -/

/-- The results of a boot that meets no failure. -/
def BootResults.success : BootResults :=
  ⟨.success, fun _ => .success, none, none, none⟩

/-- A boot of an initialized store whose loads return the stored records. -/
structure BootResults.Clean (results : BootResults) : Prop extends results.Loads where
  mount : results.mount = .success

theorem BootResults.clean_success : BootResults.success.Clean := ⟨⟨rfl, rfl, rfl⟩, rfl⟩

/-- A split of 32-bit numbers into the halves of `zb_uint24_t`. -/
def splitUint24 (value : UInt32) : ZbUint24 := ⟨value.toUInt16, (value >>> 16).toUInt8⟩

theorem splits_splitUint24 : SplitsUint24 splitUint24 := by
  intro value value_lt
  have high_eq : value.toNat >>> 16 % 2 ^ 8 = value.toNat / 2 ^ 16 := by
    rw [Nat.shiftRight_eq_div_pow]
    omega
  have low_lt : value.toNat % 2 ^ 16 < 2 ^ 16 := Nat.mod_lt _ (by decide)
  have joined := Nat.shiftLeft_add_eq_or_of_lt low_lt (value.toNat / 2 ^ 16)
  rw [← UInt32.toNat_inj]
  simp only [ZbUint24.value, splitUint24, UInt32.toNat_or, UInt32.toNat_shiftLeft,
    UInt8.toNat_toUInt32, UInt32.toNat_toUInt8, UInt32.toNat_shiftRight, UInt16.toNat_toUInt32,
    UInt32.toNat_toUInt16, UInt32.reduceToNat, Nat.reduceMod, high_eq]
  rw [Nat.mod_eq_of_lt, ← joined, Nat.shiftLeft_eq]
  · omega
  · rw [Nat.shiftLeft_eq]
    omega

/-- A coordinator write of the pulse width. -/
def widthWrite (newWidth : UInt16) : DeviceCallbackParam :=
  ⟨.setAttrValue, zbZclClusterIdMetering, zbZclAttrMeteringMinPulseWidthUsId, ⟨newWidth, 0⟩⟩

/-- A coordinator write of the divisor. -/
def divisorWrite (newDivisor : UInt32) : DeviceCallbackParam :=
  ⟨.setAttrValue, zbZclClusterIdMetering, zbZclAttrMeteringDivisorId, splitUint24 newDivisor⟩

theorem widthInRange_widthWrite {newWidth : UInt16}
    (accepted : calibrationIsValidPulseMinWidthUs newWidth.toUInt32 = true) :
    WidthInRange (widthWrite newWidth) := by
  rintro written ⟨⟩
  exact accepted

/-- The default firmware after its first boot from empty storage. -/
def freshDevice : MeterDevice where
  ctx := ⟨⟨1000, 0⟩, 1000⟩
  effectiveDivisor := 1000
  hw := .started 1000
  store := ⟨true, fun _ => none⟩

theorem boot_freshDevice :
    boot splitUint24 .default (fun _ => none) .success = some freshDevice := rfl

/-- Two accepted widths, the second of which is not saved. -/
theorem truthful_run_accepted :
    (freshDevice.serveAll splitUint24
      [(widthWrite 500, none), (widthWrite 9000, some .eio)]).Truthful := by
  refine (truthful_run_iff BootResults.clean_success.toLoads boot_freshDevice _).mpr ?_ _
    (List.prefix_refl _)
  rw [List.forall_mem_cons, List.forall_mem_singleton]
  exact ⟨widthInRange_widthWrite (by decide), widthInRange_widthWrite (by decide)⟩

/-- A width below the range is rejected but stays in the attribute: the roll-back stores the
rejected value again, and the threshold in force is another one. -/
theorem rejected_width_stays :
    boot splitUint24 .default (fun _ => none) .success = some freshDevice ∧
      (freshDevice.serve splitUint24 (widthWrite 50) none).1 = .retOutOfRange ∧
      (freshDevice.serve splitUint24 (widthWrite 50) none).2.ctx.meteringMinPulseWidthUs = 50 ∧
      (freshDevice.serve splitUint24 (widthWrite 50) none).2.hw.timer3.cc0 = 1000 ∧
      ¬ (freshDevice.serveAll splitUint24 [(widthWrite 50, none)]).Truthful := by
  refine ⟨rfl, rfl, rfl, rfl, ?_⟩
  rintro ⟨attribute_eq, -⟩
  exact absurd attribute_eq (by decide)

/-! ## Both knobs as persisted settings -/

/-- A callback with the outcome of the save it may make, or a reboot. -/
inductive MeterEvent
  | callback (param : DeviceCallbackParam) (fault : Option Errno)
  | reboot (results : BootResults)

/-- The device as a machine; a reboot that the pulse counter halts has no successor. -/
def machine (zbUint32ToUint24 : UInt32 → ZbUint24) (config : Kconfig) :
    Machine MeterDevice MeterEvent where
  step device
    | .callback param fault => some (device.serve zbUint32ToUint24 param fault).2
    | .reboot results => boot zbUint32ToUint24 config device.store.records results

/-- Every reboot initializes the store and loads the stored records. -/
def CleanReboots : Machine.Assumption MeterDevice MeterEvent :=
  fun _ _ event => ∀ results, event = .reboot results → results.Clean

/-- The number a four-byte record holds. -/
def storedUInt32 (records : NvsRecords) (id : UInt16) : Option UInt32 :=
  (records.stored id 4).map UInt32.ofNat

/-- The build-time divisor as a fallback. -/
def defaultDivisor (config : Kconfig) :
    {value : UInt32 // calibrationIsValidImpPerKwh value = true} :=
  ⟨config.meteringDefaultImpPerKwh, config.meteringDefaultImpPerKwh_valid⟩

/-- The build-time pulse width as a fallback. -/
def defaultWidth (config : Kconfig) :
    {value : UInt32 // calibrationIsValidPulseMinWidthUs value = true} :=
  ⟨config.pulseMinWidthUs, config.pulseMinWidthUs_valid⟩

/-- What an event means to the divisor. -/
def divisorEvent : MeterEvent → Option (Setting.Event UInt32)
  | .callback param fault =>
      match param.knobWrite with
      | .divisor newDivisor => some (.write newDivisor.value fault.isNone)
      | _ => none
  | .reboot _ => some .reboot

/-- What an event means to the pulse width. -/
def widthEvent : MeterEvent → Option (Setting.Event UInt32)
  | .callback param fault =>
      match param.knobWrite with
      | .minPulseWidth newWidth => some (.write newWidth.toUInt32 fault.isNone)
      | _ => none
  | .reboot _ => some .reboot

/-- The device implements one setting for each knob, and its divisor attribute is truthful. -/
structure Implements (device : MeterDevice) (divisor : Setting calibrationIsValidImpPerKwh)
    (width : Setting calibrationIsValidPulseMinWidthUs) : Prop where
  opened : device.store.initialized = true
  attribute_eq : device.ctx.meteringDivisor.value = device.effectiveDivisor
  divisor_inForce : device.effectiveDivisor = divisor.inForce
  divisor_persisted : storedUInt32 device.store.records nvsIdImpPerKwh = divisor.persisted
  width_inForce : device.hw.timer3.cc0 = width.inForce
  width_persisted : storedUInt32 device.store.records nvsIdPulseMinWidthUs = width.persisted

/-- A load of a four-byte record restores what it holds. -/
private theorem restore_loadRecord {store : NvsStore} (opened : store.initialized = true)
    {valid : UInt32 → Bool} (fallback : {value : UInt32 // valid value = true}) (id : UInt16) :
    (if (store.loadRecord id 4 UInt32.ofNat none 0).1 = 0 then
        if valid (store.loadRecord id 4 UInt32.ofNat none 0).2 then
          (store.loadRecord id 4 UInt32.ofNat none 0).2
        else (fallback : UInt32)
      else fallback) = Setting.restore fallback (storedUInt32 store.records id) := by
  have enoent_ne := Errno.enoent.rc_neg.ne
  rw [NvsStore.loadRecord_ok opened, storedUInt32]
  cases store.records.stored id 4 with
  | none => simp [enoent_ne, Setting.restore]
  | some value =>
      by_cases accepted : valid (UInt32.ofNat value) = true
      · simp [accepted, Setting.restore]
      · simp [accepted, Setting.restore]

/-- A valid divisor fits 24 bits. -/
private theorem value_split_of_valid (splits : SplitsUint24 zbUint32ToUint24) {divisor : UInt32}
    (valid : calibrationIsValidImpPerKwh divisor = true) :
    (zbUint32ToUint24 divisor).value = divisor := by
  obtain ⟨-, divisor_le⟩ := calibrationIsValidImpPerKwh_iff.mp valid
  apply splits
  omega

/-- A clean boot implements two freshly booted settings over the stored records. -/
theorem implements_boot (splits : SplitsUint24 zbUint32ToUint24) (clean : results.Clean)
    (booted : boot zbUint32ToUint24 config records results = some device) :
    device.Implements
      (Setting.boot (defaultDivisor config) (storedUInt32 records nvsIdImpPerKwh))
      (Setting.boot (defaultWidth config) (storedUInt32 records nvsIdPulseMinWidthUs)) := by
  have opened : (NvsStore.nvsStoreInit ⟨false, records⟩ results.mount).2 = ⟨true, records⟩ := by
    rw [clean.mount]
    rfl
  have opened_rfl : (⟨true, records⟩ : NvsStore).initialized = true := rfl
  have device_eq := boot_eq_some booted
  rw [opened, clean.widthAtInit, clean.impPerKwh, clean.widthAtAttrs] at device_eq
  have divisor_eq : device.effectiveDivisor =
      Setting.restore (defaultDivisor config) (storedUInt32 records nvsIdImpPerKwh) := by
    rw [device_eq]
    exact restore_loadRecord opened_rfl (defaultDivisor config) nvsIdImpPerKwh
  have width_eq : device.hw.timer3.cc0 =
      Setting.restore (defaultWidth config) (storedUInt32 records nvsIdPulseMinWidthUs) := by
    rw [device_eq]
    exact restore_loadRecord opened_rfl (defaultWidth config) nvsIdPulseMinWidthUs
  have store_eq : device.store = ⟨true, records⟩ := by rw [device_eq]
  have attribute_eq : device.ctx.meteringDivisor = zbUint32ToUint24 device.effectiveDivisor := by
    rw [device_eq]
    rfl
  refine ⟨by rw [store_eq], ?_, divisor_eq, by rw [store_eq]; rfl, width_eq,
    by rw [store_eq]; rfl⟩
  rw [attribute_eq]
  apply value_split_of_valid splits
  rw [divisor_eq]
  exact (Setting.restore (defaultDivisor config) _).property

/-- A save of a four-byte record is seen in its own slot exactly when it meets no fault. -/
private theorem storedUInt32_save {store : NvsStore} (opened : store.initialized = true)
    (id : UInt16) (value : UInt32) (fault : Option Errno) :
    storedUInt32 (store.saveRecord id 4 value.toNat fault).2.records id =
      if fault.isNone then some value else storedUInt32 store.records id := by
  rw [storedUInt32, NvsStore.stored_saveRecord opened value.toNat_lt]
  cases fault <;> simp [storedUInt32]

private theorem storedUInt32_save_of_ne (store : NvsStore) {id other : UInt16}
    (distinct : other ≠ id) (value : ℕ) (fault : Option Errno) :
    storedUInt32 (store.saveRecord id 4 value fault).2.records other =
      storedUInt32 store.records other := by
  rw [storedUInt32, NvsRecords.stored, store.records_saveRecord_of_ne distinct]
  rfl

variable {divisor : Setting calibrationIsValidImpPerKwh}
  {width : Setting calibrationIsValidPulseMinWidthUs}

private theorem implements_setDivisor (splits : SplitsUint24 zbUint32ToUint24)
    (implements : device.Implements divisor width) (newDivisor : ZbUint24)
    (fault : Option Errno) :
    (setDivisor zbUint32ToUint24
        { device with ctx := { device.ctx with meteringDivisor := newDivisor } }
        newDivisor.value fault).2.Implements
      (divisor.react (defaultDivisor config) (.write newDivisor.value fault.isNone)) width := by
  obtain ⟨opened, attribute_eq, divisor_inForce, divisor_persisted, width_inForce,
    width_persisted⟩ := implements
  by_cases accepted : calibrationIsValidImpPerKwh newDivisor.value = true
  · rw [setDivisor_of_valid accepted, Setting.react_write_of_valid accepted]
    refine ⟨?_, rfl, rfl, ?_, width_inForce, ?_⟩
    · exact (device.store.initialized_saveRecord _ _ _ _).trans opened
    · rw [← divisor_persisted]
      exact storedUInt32_save opened nvsIdImpPerKwh newDivisor.value fault
    · rw [← width_persisted]
      exact storedUInt32_save_of_ne device.store (by decide) _ fault
  · have rejected := Bool.not_eq_true _ ▸ accepted
    rw [setDivisor_of_not_valid rejected, Setting.react_write_of_not_valid accepted]
    refine ⟨opened, ?_, divisor_inForce, divisor_persisted, width_inForce, width_persisted⟩
    apply value_split_of_valid splits
    rw [divisor_inForce]
    exact divisor.valid_inForce

private theorem implements_setMinPulseWidth (implements : device.Implements divisor width)
    (newWidth : UInt16) (fault : Option Errno) :
    (setMinPulseWidth
        { device with ctx := { device.ctx with meteringMinPulseWidthUs := newWidth } }
        newWidth fault).2.Implements
      divisor (width.react (defaultWidth config) (.write newWidth.toUInt32 fault.isNone)) := by
  obtain ⟨opened, attribute_eq, divisor_inForce, divisor_persisted, width_inForce,
    width_persisted⟩ := implements
  by_cases accepted : calibrationIsValidPulseMinWidthUs newWidth.toUInt32 = true
  · rw [setMinPulseWidth_of_valid accepted, Setting.react_write_of_valid accepted]
    refine ⟨?_, attribute_eq, divisor_inForce, ?_, rfl, ?_⟩
    · exact (device.store.initialized_saveRecord _ _ _ _).trans opened
    · rw [← divisor_persisted]
      exact storedUInt32_save_of_ne device.store (by decide) _ fault
    · rw [← width_persisted]
      exact storedUInt32_save opened nvsIdPulseMinWidthUs newWidth.toUInt32 fault
  · have rejected := Bool.not_eq_true _ ▸ accepted
    rw [setMinPulseWidth_of_not_valid rejected, Setting.react_write_of_not_valid accepted]
    exact ⟨opened, attribute_eq, divisor_inForce, divisor_persisted, width_inForce,
      width_persisted⟩

/-- One event acts on both settings as the code acts on the device. -/
theorem implements_step (splits : SplitsUint24 zbUint32ToUint24)
    (implements : device.Implements divisor width) {event : MeterEvent} {after : MeterDevice}
    (clean : ∀ results, event = .reboot results → results.Clean)
    (step : (machine zbUint32ToUint24 config).step device event = some after) :
    after.Implements (divisor.run (defaultDivisor config) (divisorEvent event).toList)
      (width.run (defaultWidth config) (widthEvent event).toList) := by
  cases event with
  | reboot results =>
      have booted := implements_boot splits (clean results rfl) step
      rwa [implements.divisor_persisted, implements.width_persisted] at booted
  | callback param fault =>
      obtain rfl := Option.some.inj step
      cases writes : param.knobWrite with
      | unrelated =>
          rw [serve_unrelated writes]
          simpa [divisorEvent, widthEvent, writes, Setting.run] using implements
      | divisor newDivisor =>
          rw [serve_divisor writes]
          simpa [divisorEvent, widthEvent, writes, Setting.run] using
            implements_setDivisor splits implements newDivisor fault
      | minPulseWidth newWidth =>
          rw [serve_minPulseWidth writes]
          simpa [divisorEvent, widthEvent, writes, Setting.run] using
            implements_setMinPulseWidth implements newWidth fault

private theorem filterMap_concat (meaning : MeterEvent → Option (Setting.Event UInt32))
    (history : List MeterEvent) (event : MeterEvent) :
    (history ++ [event]).filterMap meaning =
      history.filterMap meaning ++ (meaning event).toList := by
  rw [List.filterMap_append]
  cases meant : meaning event <;> simp [meant]

/-- Every run from a clean boot implements the two settings run over its writes and reboots. -/
theorem implements_path (splits : SplitsUint24 zbUint32ToUint24) (clean : results.Clean)
    {booted after : MeterDevice}
    (boots : boot zbUint32ToUint24 config records results = some booted)
    {history : List MeterEvent}
    (path : (machine zbUint32ToUint24 config).Path CleanReboots booted history after) :
    after.Implements
      ((Setting.boot (defaultDivisor config) (storedUInt32 records nvsIdImpPerKwh)).run
        (defaultDivisor config) (history.filterMap divisorEvent))
      ((Setting.boot (defaultWidth config) (storedUInt32 records nvsIdPulseMinWidthUs)).run
        (defaultWidth config) (history.filterMap widthEvent)) := by
  induction path with
  | nil => exact implements_boot splits clean boots
  | snoc _ admitted step induction =>
      have stepped := implements_step splits induction admitted step
      rwa [← Setting.run_append, ← Setting.run_append, ← filterMap_concat,
        ← filterMap_concat] at stepped

/-- A callback that writes a knob outside its range. -/
def Rejected (param : DeviceCallbackParam) : Prop :=
  match param.knobWrite with
  | .minPulseWidth newWidth => calibrationIsValidPulseMinWidthUs newWidth.toUInt32 = false
  | .divisor newDivisor => calibrationIsValidImpPerKwh newDivisor.value = false
  | .unrelated => False

/-- Both values in force and the whole store are as before. -/
structure SameCalibration (before after : MeterDevice) : Prop where
  divisor : after.effectiveDivisor = before.effectiveDivisor
  width : after.hw.timer3.cc0 = before.hw.timer3.cc0
  store : after.store = before.store

/-- Nothing but the divisor, its attribute and its record has changed. -/
structure OnlyDivisor (before after : MeterDevice) : Prop where
  width_attribute : after.ctx.meteringMinPulseWidthUs = before.ctx.meteringMinPulseWidthUs
  hw : after.hw = before.hw
  records : ∀ id ≠ nvsIdImpPerKwh, after.store.records id = before.store.records id

/-- Nothing but the threshold, its attribute and its record has changed. -/
structure OnlyWidth (before after : MeterDevice) : Prop where
  divisor_attribute : after.ctx.meteringDivisor = before.ctx.meteringDivisor
  divisor : after.effectiveDivisor = before.effectiveDivisor
  records : ∀ id ≠ nvsIdPulseMinWidthUs, after.store.records id = before.store.records id

theorem serve_rejected (rejected : Rejected param) (fault : Option Errno) :
    (device.serve zbUint32ToUint24 param fault).1 = .retOutOfRange ∧
      SameCalibration device (device.serve zbUint32ToUint24 param fault).2 := by
  cases writes : param.knobWrite with
  | unrelated => simp [Rejected, writes] at rejected
  | divisor newDivisor =>
      simp only [Rejected, writes] at rejected
      rw [serve_divisor writes, setDivisor_of_not_valid rejected]
      exact ⟨rfl, rfl, rfl, rfl⟩
  | minPulseWidth newWidth =>
      simp only [Rejected, writes] at rejected
      rw [serve_minPulseWidth writes, setMinPulseWidth_of_not_valid rejected]
      exact ⟨rfl, rfl, rfl, rfl⟩

theorem serve_accepted_divisor {newDivisor : ZbUint24}
    (writes : param.knobWrite = .divisor newDivisor)
    (accepted : calibrationIsValidImpPerKwh newDivisor.value = true) (fault : Option Errno) :
    (device.serve zbUint32ToUint24 param fault).1 = .retOk ∧
      (device.serve zbUint32ToUint24 param fault).2.effectiveDivisor = newDivisor.value ∧
      OnlyDivisor device (device.serve zbUint32ToUint24 param fault).2 := by
  rw [serve_divisor writes, setDivisor_of_valid accepted]
  refine ⟨rfl, rfl, rfl, rfl, fun id distinct => ?_⟩
  exact device.store.records_saveRecord_of_ne distinct _ _ fault

theorem serve_accepted_width {newWidth : UInt16}
    (writes : param.knobWrite = .minPulseWidth newWidth)
    (accepted : calibrationIsValidPulseMinWidthUs newWidth.toUInt32 = true)
    (fault : Option Errno) :
    (device.serve zbUint32ToUint24 param fault).1 = .retOk ∧
      (device.serve zbUint32ToUint24 param fault).2.hw.timer3.cc0 = newWidth.toUInt32 ∧
      OnlyWidth device (device.serve zbUint32ToUint24 param fault).2 := by
  rw [serve_minPulseWidth writes, setMinPulseWidth_of_valid accepted]
  refine ⟨rfl, rfl, rfl, rfl, fun id distinct => ?_⟩
  exact device.store.records_saveRecord_of_ne distinct _ _ fault

/-- What holds of both knobs after any run of callbacks and reboots, whatever the store held at
first and whichever saves failed: both values are in range, a rejected or unrelated callback
changes neither them nor the store, an accepted write changes only its own knob, the divisor
attribute is the divisor in force, and a reboot puts in force the last accepted value whose save
succeeded, or what the store held at first, or the build-time default. -/
theorem calibration_sound (splits : SplitsUint24 zbUint32ToUint24) (clean : results.Clean)
    {booted : MeterDevice}
    (boots : boot zbUint32ToUint24 config records results = some booted)
    {history : List MeterEvent}
    (path : (machine zbUint32ToUint24 config).Path CleanReboots booted history device) :
    (calibrationIsValidImpPerKwh device.effectiveDivisor = true ∧
        calibrationIsValidPulseMinWidthUs device.hw.timer3.cc0 = true) ∧
      (∀ param fault, Rejected param →
        (device.serve zbUint32ToUint24 param fault).1 = .retOutOfRange ∧
          SameCalibration device (device.serve zbUint32ToUint24 param fault).2) ∧
      (∀ param fault, param.knobWrite = .unrelated →
        device.serve zbUint32ToUint24 param fault = (.retOk, device)) ∧
      (∀ param fault newDivisor, param.knobWrite = .divisor newDivisor →
        calibrationIsValidImpPerKwh newDivisor.value = true →
        (device.serve zbUint32ToUint24 param fault).1 = .retOk ∧
          (device.serve zbUint32ToUint24 param fault).2.effectiveDivisor = newDivisor.value ∧
          OnlyDivisor device (device.serve zbUint32ToUint24 param fault).2) ∧
      (∀ param fault newWidth, param.knobWrite = .minPulseWidth newWidth →
        calibrationIsValidPulseMinWidthUs newWidth.toUInt32 = true →
        (device.serve zbUint32ToUint24 param fault).1 = .retOk ∧
          (device.serve zbUint32ToUint24 param fault).2.hw.timer3.cc0 = newWidth.toUInt32 ∧
          OnlyWidth device (device.serve zbUint32ToUint24 param fault).2) ∧
      device.ctx.meteringDivisor.value = device.effectiveDivisor ∧
      ∀ results rebooted, results.Clean →
        boot zbUint32ToUint24 config device.store.records results = some rebooted →
        rebooted.effectiveDivisor = Setting.restore (defaultDivisor config)
            (Setting.lastSaved calibrationIsValidImpPerKwh (storedUInt32 records nvsIdImpPerKwh)
              (history.filterMap divisorEvent)) ∧
          rebooted.hw.timer3.cc0 = Setting.restore (defaultWidth config)
            (Setting.lastSaved calibrationIsValidPulseMinWidthUs
              (storedUInt32 records nvsIdPulseMinWidthUs) (history.filterMap widthEvent)) := by
  have implements := implements_path splits clean boots path
  refine ⟨⟨?_, ?_⟩, fun _ fault rejected => serve_rejected rejected fault,
    fun _ fault unrelated => serve_unrelated unrelated fault,
    fun _ fault _ writes accepted => serve_accepted_divisor writes accepted fault,
    fun _ fault _ writes accepted => serve_accepted_width writes accepted fault,
    implements.attribute_eq, ?_⟩
  · rw [implements.divisor_inForce]
    exact Setting.valid_inForce _
  · rw [implements.width_inForce]
    exact Setting.valid_inForce _
  · intro later rebooted later_clean reboots
    have rebooted_implements := implements_boot splits later_clean reboots
    rw [implements.divisor_persisted, implements.width_persisted, Setting.persisted_run,
      Setting.persisted_run] at rebooted_implements
    exact ⟨rebooted_implements.divisor_inForce, rebooted_implements.width_inForce⟩

/-- An accepted divisor, then a rejected one: the attribute and the value in force agree, and the
accepted divisor survives the reboot. -/
theorem calibration_sound_afterRejection :
    ∃ device, (machine splitUint24 .default).Path CleanReboots freshDevice
        [.callback (divisorWrite 500) none, .callback (divisorWrite 50) none] device ∧
      device.ctx.meteringDivisor.value = device.effectiveDivisor ∧
      ∀ rebooted, boot splitUint24 .default device.store.records .success = some rebooted →
        rebooted.effectiveDivisor = 500 := by
  have path : (machine splitUint24 .default).Path CleanReboots freshDevice
      [.callback (divisorWrite 500) none, .callback (divisorWrite 50) none] _ :=
    .snoc (.snoc .nil (by rintro results ⟨⟩) rfl) (by rintro results ⟨⟩) rfl
  have sound := calibration_sound splits_splitUint24 BootResults.clean_success boot_freshDevice
    path
  obtain ⟨-, -, -, -, -, attribute_eq, restored⟩ := sound
  exact ⟨_, path, attribute_eq, fun rebooted boots =>
    (restored _ rebooted BootResults.clean_success boots).1⟩

/-- A divisor is accepted while its save fails: the reboot goes back to the build-time default. -/
theorem unsaved_divisor_reverts :
    boot splitUint24 .default (fun _ => none) .success = some freshDevice ∧
      (freshDevice.serve splitUint24 (divisorWrite 500) (some .eio)).1 = .retOk ∧
      (freshDevice.serve splitUint24 (divisorWrite 500) (some .eio)).2.effectiveDivisor = 500 ∧
      ∃ rebooted, boot splitUint24 .default
          (freshDevice.serve splitUint24 (divisorWrite 500) (some .eio)).2.store.records
          .success = some rebooted ∧
        rebooted.effectiveDivisor = 1000 ∧ rebooted.effectiveDivisor ≠ 500 :=
  ⟨rfl, rfl, rfl, _, rfl, rfl, by decide⟩

end MeterDevice

end PowerMeter
