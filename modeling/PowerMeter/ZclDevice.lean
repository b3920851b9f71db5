import PowerMeter.Foundations.Machine
import PowerMeter.HwPulseCounter

/-!
# The ZCL device callback

The metering part of `zigbee_app.c`: the attribute storage in `dev_ctx`, its initialization from
the persistent store, and `zcl_device_cb`, which ZBOSS invokes after it has stored an incoming
write. The conversion `zb_uint32_to_uint24` belongs to ZBOSS and is a parameter.
-/

namespace PowerMeter

open Guarded

/-- `zb_uint24_t`, a packed pair of halves. -/
structure ZbUint24 where
  low : UInt16
  high : UInt8
  deriving DecidableEq

/-- The number the callback rebuilds from the halves. -/
def ZbUint24.value (halves : ZbUint24) : UInt32 :=
  halves.high.toUInt32 <<< 16 ||| halves.low.toUInt32

/-- What the firmware relies on in `zb_uint32_to_uint24`: it splits any 24-bit number into the
halves that stand for it. -/
def SplitsUint24 (zbUint32ToUint24 : UInt32 → ZbUint24) : Prop :=
  ∀ value : UInt32, value.toNat < 2 ^ 24 → (zbUint32ToUint24 value).value = value

/-- `ZB_ZCL_CLUSTER_ID_METERING`. -/
def zbZclClusterIdMetering : UInt16 := 0x0702

/-- `ZB_ZCL_ATTR_METERING_DIVISOR_ID`. -/
def zbZclAttrMeteringDivisorId : UInt16 := 0x0302

/-- `ZB_ZCL_ATTR_METERING_MIN_PULSE_WIDTH_US_ID`. -/
def zbZclAttrMeteringMinPulseWidthUsId : UInt16 := 0xF000

/-- The two runtime-writable attributes of `struct zb_device_ctx`. -/
structure ZbDeviceCtx where
  meteringDivisor : ZbUint24
  meteringMinPulseWidthUs : UInt16
  deriving DecidableEq

/-- The state the callback reads and writes: attribute storage, the shadow `effective_divisor`,
the pulse counter peripherals and the persistent store. -/
structure MeterDevice where
  ctx : ZbDeviceCtx
  effectiveDivisor : UInt32
  hw : HwPulseCounter
  store : NvsStore

/-- `device_cb_id`; only attribute writes matter here. -/
inductive DeviceCbId
  | setAttrValue
  | other (id : UInt8)
  deriving DecidableEq

/-- `zb_zcl_device_callback_param_t` of an attribute write. The value union shares its bytes:
`data24` is the whole value and `data16` its low half. -/
structure DeviceCallbackParam where
  deviceCbId : DeviceCbId
  clusterId : UInt16
  attrId : UInt16
  data24 : ZbUint24

/-- The 16-bit view of the value union. -/
def DeviceCallbackParam.data16 (param : DeviceCallbackParam) : UInt16 := param.data24.low

/-- The statuses the callback returns. -/
inductive ZbRet
  | retOk
  | retOutOfRange
  deriving DecidableEq

namespace MeterDevice

/-- `metering_attrs_init`: the attribute storage and the divisor in force. -/
def meteringAttrsInit (zbUint32ToUint24 : UInt32 → ZbUint24) (config : Kconfig)
    (store : NvsStore) (divisorFault widthFault : Option Errno) : ZbDeviceCtx × UInt32 :=
  let (rc, nvsVal) := store.nvsStoreLoadImpPerKwh divisorFault 0
  let divisor :=
    if rc = 0 then
      if calibrationIsValidImpPerKwh nvsVal then nvsVal else config.meteringDefaultImpPerKwh
    else config.meteringDefaultImpPerKwh
  let (rcWidth, nvsWidth) := store.nvsStoreLoadPulseMinWidthUs widthFault 0
  let minWidthUs :=
    if rcWidth = 0 ∧ calibrationIsValidPulseMinWidthUs nvsWidth then nvsWidth
    else config.pulseMinWidthUs
  ({ meteringDivisor := zbUint32ToUint24 divisor
     meteringMinPulseWidthUs := minWidthUs.toUInt16 }, divisor)

/-- What the drivers and the store return during one boot. -/
structure BootResults where
  mount : NvsStore.MountResults
  nrfx : NrfxCall → NrfxErr
  widthAtInit : Option Errno
  impPerKwh : Option Errno
  widthAtAttrs : Option Errno

/-- A boot whose loads return the stored records. -/
structure BootResults.Loads (results : BootResults) : Prop where
  widthAtInit : results.widthAtInit = none
  impPerKwh : results.impPerKwh = none
  widthAtAttrs : results.widthAtAttrs = none

/-- The boot of `main`, as far as the two knobs go: `nvs_store_init`, `hw_pulse_counter_init`,
whose failure halts the device, and `metering_attrs_init`. -/
def boot (zbUint32ToUint24 : UInt32 → ZbUint24) (config : Kconfig) (records : NvsRecords)
    (results : BootResults) : Option MeterDevice :=
  let store := (NvsStore.nvsStoreInit ⟨false, records⟩ results.mount).2
  match hwPulseCounterInit config store results.widthAtInit results.nrfx with
  | .error _ => none
  | .ok hw =>
      let (ctx, divisor) :=
        meteringAttrsInit zbUint32ToUint24 config store results.impPerKwh results.widthAtAttrs
      some
        { ctx := ctx
          effectiveDivisor := divisor
          hw := hw
          store := store }

/-- ZBOSS stores the value of an attribute write before it invokes the callback. -/
def zbossStore (device : MeterDevice) (param : DeviceCallbackParam) : MeterDevice :=
  if param.deviceCbId = .setAttrValue ∧ param.clusterId = zbZclClusterIdMetering then
    if param.attrId = zbZclAttrMeteringMinPulseWidthUsId then
      { device with ctx := { device.ctx with meteringMinPulseWidthUs := param.data16 } }
    else if param.attrId = zbZclAttrMeteringDivisorId then
      { device with ctx := { device.ctx with meteringDivisor := param.data24 } }
    else device
  else device

/-- The branch of `zcl_device_cb` for the minimum pulse width. -/
def setMinPulseWidth (device : MeterDevice) (newWidth : UInt16) (fault : Option Errno) :
    ZbRet × MeterDevice :=
  if !calibrationIsValidPulseMinWidthUs newWidth.toUInt32 then
    let rollback := device.ctx.meteringMinPulseWidthUs
    (.retOutOfRange,
      { device with ctx := { device.ctx with meteringMinPulseWidthUs := rollback } })
  else
    let hw := device.hw.hwPulseCounterSetMinWidthUs newWidth.toUInt32
    let (_, store) := device.store.nvsStoreSavePulseMinWidthUs newWidth.toUInt32 fault
    (.retOk,
      { device with
        ctx := { device.ctx with meteringMinPulseWidthUs := newWidth }
        hw := hw
        store := store })

/-- The branch of `zcl_device_cb` for the divisor. -/
def setDivisor (zbUint32ToUint24 : UInt32 → ZbUint24) (device : MeterDevice)
    (newDivisor : UInt32) (fault : Option Errno) : ZbRet × MeterDevice :=
  if !calibrationIsValidImpPerKwh newDivisor then
    let rollback := zbUint32ToUint24 device.effectiveDivisor
    (.retOutOfRange, { device with ctx := { device.ctx with meteringDivisor := rollback } })
  else
    let (_, store) := device.store.nvsStoreSaveImpPerKwh newDivisor fault
    (.retOk,
      { device with
        effectiveDivisor := newDivisor
        store := store })

/-- `zcl_device_cb`; `fault` is the outcome of the save it may make. -/
def zclDeviceCb (zbUint32ToUint24 : UInt32 → ZbUint24) (device : MeterDevice)
    (param : DeviceCallbackParam) (fault : Option Errno) : ZbRet × MeterDevice :=
  if param.deviceCbId ≠ .setAttrValue then (.retOk, device)
  else if param.clusterId ≠ zbZclClusterIdMetering then (.retOk, device)
  else if param.attrId = zbZclAttrMeteringMinPulseWidthUsId then
    device.setMinPulseWidth param.data16 fault
  else if param.attrId ≠ zbZclAttrMeteringDivisorId then (.retOk, device)
  else device.setDivisor zbUint32ToUint24 param.data24.value fault

/-- One callback as the coordinator causes it: the value is stored, then the callback runs. -/
def serve (zbUint32ToUint24 : UInt32 → ZbUint24) (device : MeterDevice)
    (param : DeviceCallbackParam) (fault : Option Errno) : ZbRet × MeterDevice :=
  (device.zbossStore param).zclDeviceCb zbUint32ToUint24 param fault

end MeterDevice

/-- The knob a callback writes, with the value written. -/
inductive KnobWrite
  | minPulseWidth (newWidth : UInt16)
  | divisor (newDivisor : ZbUint24)
  | unrelated

/-- What a callback asks for. -/
def DeviceCallbackParam.knobWrite (param : DeviceCallbackParam) : KnobWrite :=
  if param.deviceCbId = .setAttrValue ∧ param.clusterId = zbZclClusterIdMetering then
    if param.attrId = zbZclAttrMeteringMinPulseWidthUsId then .minPulseWidth param.data16
    else if param.attrId = zbZclAttrMeteringDivisorId then .divisor param.data24
    else .unrelated
  else .unrelated

namespace MeterDevice

variable {zbUint32ToUint24 : UInt32 → ZbUint24} {config : Kconfig} {device : MeterDevice}
  {param : DeviceCallbackParam}

/-- A callback for anything but the two knobs does nothing and reports success. -/
theorem serve_unrelated (unrelated : param.knobWrite = .unrelated) (fault : Option Errno) :
    device.serve zbUint32ToUint24 param fault = (.retOk, device) := by
  unfold DeviceCallbackParam.knobWrite at unrelated
  unfold serve zclDeviceCb zbossStore
  split_ifs at unrelated ⊢ <;> simp_all

theorem serve_minPulseWidth {newWidth : UInt16}
    (writes : param.knobWrite = .minPulseWidth newWidth) (fault : Option Errno) :
    device.serve zbUint32ToUint24 param fault =
      setMinPulseWidth
        { device with ctx := { device.ctx with meteringMinPulseWidthUs := newWidth } }
        newWidth fault := by
  unfold DeviceCallbackParam.knobWrite at writes
  unfold serve zclDeviceCb zbossStore
  split_ifs at writes ⊢ <;> simp_all

theorem serve_divisor {newDivisor : ZbUint24} (writes : param.knobWrite = .divisor newDivisor)
    (fault : Option Errno) :
    device.serve zbUint32ToUint24 param fault =
      setDivisor zbUint32ToUint24
        { device with ctx := { device.ctx with meteringDivisor := newDivisor } }
        newDivisor.value fault := by
  unfold DeviceCallbackParam.knobWrite at writes
  unfold serve zclDeviceCb zbossStore
  split_ifs at writes ⊢ <;> simp_all

end MeterDevice

end PowerMeter
