import ChannelBridge.Timestamp.Civil

/-! # Timestamps

An envelope carries the instant it was made, in UTC. `Timestamp` holds the day number, the second
of the day and the nanoseconds; nanoseconds from `10^9` on mark a leap second, which is written as
second `60`.

The text form is RFC 3339 with a `Z`: the fraction is left out when it is zero and otherwise has 3, 6
or 9 digits, the fewest that show it exactly. Years outside `0 … 9999` carry a sign and at least four
digits.
-/

namespace ChannelBridge

/-- An instant in UTC. -/
structure Timestamp where
  /-- Days since 1970-01-01. -/
  days : Int
  /-- Seconds since midnight, below 86400. -/
  secondOfDay : Nat
  /-- Nanoseconds into the second; `10^9` and more within a leap second. -/
  nano : Nat
  deriving DecidableEq, Repr, Inhabited

namespace Timestamp

/-- `n` in decimal, padded with zeros to `width` digits. -/
def padded (width n : Nat) : String :=
  let s := toString n
  String.ofList (List.replicate (width - s.length) '0') ++ s

/-- The year as written: four digits within `0 … 9999`, otherwise a sign and at least four digits. -/
def yearText (y : Int) : String :=
  if 0 ≤ y ∧ y ≤ 9999 then padded 4 y.toNat
  else (if y < 0 then "-" else "+") ++ padded 4 y.natAbs

/-- The fraction as written: nothing, or 3, 6 or 9 digits after a point. -/
def fractionText (nano : Nat) : String :=
  if nano = 0 then ""
  else if nano % 1000000 = 0 then "." ++ padded 3 (nano / 1000000)
  else if nano % 1000 = 0 then "." ++ padded 6 (nano / 1000)
  else "." ++ padded 9 nano

/-- The RFC 3339 text of an instant, with `Z` for UTC. -/
def render (t : Timestamp) : String :=
  let date := CivilDate.ofDays t.days
  let leap := decide (1000000000 ≤ t.nano)
  let second := t.secondOfDay % 60 + (if leap then 1 else 0)
  let nano := if leap then t.nano - 1000000000 else t.nano
  yearText date.year ++ "-" ++ padded 2 date.month ++ "-" ++ padded 2 date.day ++ "T" ++
    padded 2 (t.secondOfDay / 3600) ++ ":" ++ padded 2 (t.secondOfDay / 60 % 60) ++ ":" ++
    padded 2 second ++ fractionText nano ++ "Z"

end Timestamp

end ChannelBridge
