import PowerMeter.Foundations.WrapCounter

/-!
# The pulse accumulator

`pulse_accumulator.c` extends the 32-bit hardware pulse counter to a 64-bit total. Each update adds
the forward distance from the previous snapshot, computed by `uint32_t` subtraction.
-/

namespace PowerMeter

/-- `struct pulse_accumulator`. -/
structure PulseAccumulator where
  /-- Cumulative pulse count. -/
  total : UInt64
  /-- Hardware snapshot the total already includes. -/
  lastHw : UInt32
  deriving DecidableEq

namespace PulseAccumulator

/-- `pulse_accumulator_init`. -/
def init : PulseAccumulator := ⟨0, 0⟩

/-- `pulse_accumulator_update`. -/
def update (acc : PulseAccumulator) (hwCounter : UInt32) : PulseAccumulator :=
  let delta := hwCounter - acc.lastHw
  { total := acc.total + delta.toUInt64
    lastHw := hwCounter }

/-- `pulse_accumulator_restore`; it also forgets the previous snapshot. -/
def restore (_ : PulseAccumulator) (savedTotal : UInt64) : PulseAccumulator :=
  { total := savedTotal
    lastHw := 0 }

/-- Pulses an update adds: the forward distance between two snapshots. -/
def delta (acc : PulseAccumulator) (hwCounter : UInt32) : ℕ :=
  WrapCounter.distance (2 ^ 32) acc.lastHw.toNat hwCounter.toNat

@[simp]
theorem lastHw_update (acc : PulseAccumulator) (hwCounter : UInt32) :
    (acc.update hwCounter).lastHw = hwCounter := rfl

theorem toNat_total_update (acc : PulseAccumulator) (hwCounter : UInt32) :
    (acc.update hwCounter).total.toNat =
      (acc.total.toNat + acc.delta hwCounter) % 2 ^ 64 := by
  rw [update, UInt64.toNat_add, UInt32.toNat_toUInt64, UInt32.toNat_sub]
  rfl

/-- Without 64-bit overflow an update adds exactly its delta. -/
theorem toNat_total_update_of_fits {acc : PulseAccumulator} {hwCounter : UInt32}
    (fits : acc.total.toNat + acc.delta hwCounter < 2 ^ 64) :
    (acc.update hwCounter).total.toNat = acc.total.toNat + acc.delta hwCounter := by
  rw [toNat_total_update, Nat.mod_eq_of_lt fits]

/-- A total changes exactly when pulses have come in. -/
theorem total_update_eq_iff (acc : PulseAccumulator) (hwCounter : UInt32) :
    (acc.update hwCounter).total = acc.total ↔ acc.delta hwCounter = 0 := by
  have small : acc.delta hwCounter < 2 ^ 32 := Nat.mod_lt _ (by decide)
  have fits := acc.total.toNat_lt
  rw [← UInt64.toNat_inj, toNat_total_update]
  omega

/-- The delta to a counter that has advanced by `advance` pulses is `advance`, up to whole turns. -/
theorem delta_advance (acc : PulseAccumulator) (advance : ℕ) :
    acc.delta (acc.lastHw + UInt32.ofNat advance) = advance % 2 ^ 32 := by
  rw [delta, UInt32.toNat_add, UInt32.toNat_ofNat', Nat.add_mod_mod]
  exact WrapCounter.distance_add_mod acc.lastHw.toNat_lt advance

/-- A run of updates adds the unwrapped advance of the counter to the total, modulo `2 ^ 64`. -/
theorem toNat_total_foldl (acc : PulseAccumulator) (snapshots : List UInt32) :
    (snapshots.foldl update acc).total.toNat =
      (acc.total.toNat + WrapCounter.unwrapped (2 ^ 32) acc.lastHw.toNat
        (snapshots.map UInt32.toNat)) % 2 ^ 64 := by
  induction snapshots generalizing acc with
  | nil => simp [WrapCounter.unwrapped, Nat.mod_eq_of_lt acc.total.toNat_lt]
  | cons snapshot snapshots induction =>
      rw [List.foldl_cons, induction, toNat_total_update, lastHw_update, List.map_cons,
        WrapCounter.unwrapped, Nat.mod_add_mod, Nat.add_assoc]
      rfl

/-- The accumulator after restoring a saved total and sampling a counter whose true event counts
are `events`; each 32-bit snapshot is the true count modulo `2 ^ 32`. -/
def afterEvents (saved : UInt64) (events : List ℕ) : PulseAccumulator :=
  (events.map UInt32.ofNat).foldl update (init.restore saved)

/-- Snapshots less than one turn apart make the total exact, however often the counter wrapped. -/
theorem toNat_total_afterEvents {saved : UInt64} {events : List ℕ}
    (chain : (0 :: events).IsChain (WrapCounter.Advances (2 ^ 32)))
    (fits : saved.toNat + events.getLastD 0 < 2 ^ 64) :
    (afterEvents saved events).total.toNat = saved.toNat + events.getLastD 0 := by
  have readings : (events.map UInt32.ofNat).map UInt32.toNat = events.map (· % 2 ^ 32) := by
    rw [List.map_map]
    exact List.map_congr_left fun event _ => UInt32.toNat_ofNat'
  have advanced := WrapCounter.unwrapped_readings chain
  rw [Nat.zero_mod, Nat.sub_zero] at advanced
  rw [afterEvents, toNat_total_foldl, readings]
  change (saved.toNat + WrapCounter.unwrapped (2 ^ 32) 0 _) % 2 ^ 64 = _
  rw [advanced, Nat.mod_eq_of_lt fits]

end PulseAccumulator

end PowerMeter
