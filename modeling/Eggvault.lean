import Eggvault.ForStd.Budget
import Eggvault.ForStd.Counter
import Eggvault.ForStd.Debounce
import Eggvault.ForStd.Deadline
import Eggvault.ForStd.KeyStore
import Eggvault.ForStd.Layout
import Eggvault.ForStd.MachineInt
import Eggvault.ForStd.Prog
import Eggvault.ForStd.Simulation
import Eggvault.ForStd.Trace
import Eggvault.ForStd.Weekly
import Eggvault.Native.Calendar
import Eggvault.Native.Control
import Eggvault.Native.Device
import Eggvault.Native.Flash
import Eggvault.Native.Hal
import Eggvault.Native.Main
import Eggvault.Native.Menu
import Eggvault.Native.Preferences
import Eggvault.Native.Types
import Eggvault.Spec.Actions
import Eggvault.Spec.ActionsCorrect
import Eggvault.Spec.AlarmCorrect
import Eggvault.Spec.Base
import Eggvault.Spec.BootActions
import Eggvault.Spec.BootCorrect
import Eggvault.Spec.ButtonFrame
import Eggvault.Spec.ChainCorrect
import Eggvault.Spec.ClockCorrect
import Eggvault.Spec.CycleCorrect
import Eggvault.Spec.DateCorrect
import Eggvault.Spec.DayCorrect
import Eggvault.Spec.DoorCorrect
import Eggvault.Spec.EditCorrect
import Eggvault.Spec.EntryCorrect
import Eggvault.Spec.ErrorCorrect
import Eggvault.Spec.Events
import Eggvault.Spec.ExitCorrect
import Eggvault.Spec.FlashCorrect
import Eggvault.Spec.IdleCorrect
import Eggvault.Spec.LatchCorrect
import Eggvault.Spec.LightCorrect
import Eggvault.Spec.LightPauseCorrect
import Eggvault.Spec.MenuCorrect
import Eggvault.Spec.ModeCorrect
import Eggvault.Spec.MotorCorrect
import Eggvault.Spec.MotorFrame
import Eggvault.Spec.MoveCorrect
import Eggvault.Spec.PauseCorrect
import Eggvault.Spec.PollCorrect
import Eggvault.Spec.PositionCorrect
import Eggvault.Spec.RecursionCorrect
import Eggvault.Spec.RepeatCorrect
import Eggvault.Spec.RoundTripCorrect
import Eggvault.Spec.Rounds
import Eggvault.Spec.RunCorrect
import Eggvault.Spec.SaveCorrect
import Eggvault.Spec.SchedulerCorrect
import Eggvault.Spec.SetupCorrect
import Eggvault.Spec.SyncCorrect
import Eggvault.Spec.TerminationCorrect
import Eggvault.Spec.TravelCorrect
import Eggvault.Spec.UntouchedCorrect
import Eggvault.Spec.WakeupCorrect
import Eggvault.Spec.WeekdayCorrect
