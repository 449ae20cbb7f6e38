import ChannelBridge.Power

/-! # Civil dates

Dates in the proleptic Gregorian calendar, numbered by days from 1970-01-01. `daysOfDate` and
`dateOfDays` are the two directions of that numbering, computed by 400-year eras.
-/

namespace ChannelBridge

/-- A calendar date: year, month `1 … 12` and day `1 … 31`. -/
structure CivilDate where
  year : Int
  month : Nat
  day : Nat
  deriving DecidableEq, Repr

namespace CivilDate

/-- Leap years: divisible by 4, except centuries not divisible by 400. -/
def isLeapYear (y : Int) : Bool :=
  y % 4 == 0 && (y % 100 != 0 || y % 400 == 0)

/-- The number of days of a month. -/
def daysInMonth (y : Int) (m : Nat) : Nat :=
  if m = 2 then (if isLeapYear y then 29 else 28)
  else if m = 4 ∨ m = 6 ∨ m = 9 ∨ m = 11 then 30
  else 31

/-- Whether month and day name a real date of the year. -/
def isValid (d : CivilDate) : Bool :=
  1 ≤ d.month && d.month ≤ 12 && 1 ≤ d.day && d.day ≤ daysInMonth d.year d.month

/-- Days from 1970-01-01 to the date. -/
def toDays (d : CivilDate) : Int :=
  let y : Int := if d.month ≤ 2 then d.year - 1 else d.year
  let era := y / 400
  let yoe := y - era * 400
  let mp : Int := if d.month > 2 then Int.ofNat d.month - 3 else Int.ofNat d.month + 9
  let doy := (153 * mp + 2) / 5 + Int.ofNat d.day - 1
  let doe := yoe * 365 + yoe / 4 - yoe / 100 + doy
  era * 146097 + doe - 719468

/-- The date a number of days after 1970-01-01. -/
def ofDays (z : Int) : CivilDate :=
  let z := z + 719468
  let era := z / 146097
  let doe := z - era * 146097
  let yoe := (doe - doe / 1460 + doe / 36524 - doe / 146096) / 365
  let doy := doe - (365 * yoe + yoe / 4 - yoe / 100)
  let mp := (5 * doy + 2) / 153
  let day := doy - (153 * mp + 2) / 5 + 1
  let month := if mp < 10 then mp + 3 else mp - 9
  let year := yoe + era * 400 + (if month ≤ 2 then 1 else 0)
  ⟨year, month.toNat, day.toNat⟩

end CivilDate

end ChannelBridge
