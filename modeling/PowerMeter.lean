import PowerMeter.Foundations.Machine
import PowerMeter.Foundations.Mailbox
import PowerMeter.Foundations.Setting
import PowerMeter.Foundations.WrapCounter
import PowerMeter.Foundations.LittleEndian
import PowerMeter.PulseAccumulator
import PowerMeter.MeteringScale
import PowerMeter.Calibration
import PowerMeter.NvsStore
import PowerMeter.LoopPolicies
import PowerMeter.HwPulseCounter
import PowerMeter.LedPriority
import PowerMeter.LedArbitration
import PowerMeter.ButtonPress
import PowerMeter.UserButton
import PowerMeter.ButtonDispatch
import PowerMeter.ZclDevice
import PowerMeter.CalibrationRuns
import PowerMeter.Foundations.WriteBehind
import PowerMeter.SampleLoop
import PowerMeter.PulseConservation
import PowerMeter.SavedTotal
import PowerMeter.Foundations.Mirror
import PowerMeter.SummationPublish
import PowerMeter.SummationOrder
import PowerMeter.SummationFreshness
import PowerMeter.LedController
import PowerMeter.StaleTick
import PowerMeter.LongPressHold
import PowerMeter.JoinIndication
import PowerMeter.LiveThreshold
import PowerMeter.FlashWear
import PowerMeter.ReportCadence
import PowerMeter.Foundations.LastWrite
import PowerMeter.NvsSlots
import PowerMeter.BatteryLevel
import PowerMeter.Foundations.Polling
import PowerMeter.GatePeriod
import PowerMeter.JoinTest
import PowerMeter.FlashGuard
import PowerMeter.SwdBusGuard
import PowerMeter.SharedGate
import PowerMeter.Foundations.Trace
import PowerMeter.JoinOutcomes
import PowerMeter.Foundations.DelayedWork
import PowerMeter.LedWaveform
import PowerMeter.FaultIndication
import PowerMeter.PulseLoss
import PowerMeter.Foundations.Projection
import PowerMeter.MeterReading
import PowerMeter.BatteryReports
import PowerMeter.BatteryPairs
import PowerMeter.Foundations.Settling
import PowerMeter.PollControl
import PowerMeter.ButtonRequests
import PowerMeter.RequestsSettle
import PowerMeter.WakeWindows
import PowerMeter.Foundations.CheckThenAct
import PowerMeter.SwdSessions
import PowerMeter.Foundations.OrderStatistic
import PowerMeter.Foundations.Attempts
import PowerMeter.PorVerify
import PowerMeter.Foundations.DelimitedText
import PowerMeter.EventLog
import PowerMeter.BenchPulses
import PowerMeter.TimerDuty
import PowerMeter.Foundations.LineFilters
import PowerMeter.ClusterAssertion
