import Mathlib.Data.List.Range
import Eggvault.Native.Types

/-!
# A civil calendar for TimeLib

The conversion that TimeLib documents for `makeTime`: whole days since 1970 by the
Gregorian rule, then hours, minutes and seconds.  The results about runs are proved for
every `TimeLib`; this instance is for their concrete cases.
-/

namespace Eggvault.Native

/-- `LEAP_YEAR`. -/
def leapYear (y : Nat) : Bool := y % 4 = 0 && (y % 100 ≠ 0 || y % 400 = 0)

/-- `monthDays`. -/
def monthDays : List Nat := [31, 28, 31, 30, 31, 30, 31, 31, 30, 31, 30, 31]

/-- The days from 1970-01-01 to the date of `tm`. -/
def daysBefore (tm : TmElements) : Nat :=
  365 * tm.year.toNat + ((List.range tm.year.toNat).filter fun y => leapYear (1970 + y)).length +
    (monthDays.take (tm.month.toNat - 1)).sum +
    (if tm.month > 2 && leapYear (1970 + tm.year.toNat) then 1 else 0) + (tm.day.toNat - 1)

instance civilTime : TimeLib where
  makeTime tm := Int32.ofNat
    (daysBefore tm * 86400 + tm.hour.toNat * 3600 + tm.minute.toNat * 60 + tm.second.toNat)
  hour t := secs t / 3600 % 24
  minute t := secs t / 60 % 60
  weekday t := (secs t / 86400 + 4) % 7 + 1
  hour_eq _ := rfl
  minute_eq _ := rfl
  weekday_eq _ := rfl

end Eggvault.Native
