import ChannelBridge.Power

/-! # Rounding exact ratios to doubles

A finite double is `mantissa · 2^exponent` with a 53-bit mantissa and an exponent not below
`-1074`. `Dyadic.nearest` takes any non-negative `num / den · 2^e` to the nearest such value, a tie
going to the even mantissa, and says when the result passes the largest finite double. With it the
two operations a double performs, multiplication and division, are exact arithmetic followed by one
rounding, as IEEE 754 requires: `Dyadic.mul` and `Dyadic.div`.

Everything is `Nat` arithmetic; `Dyadic.toFloat` only assembles the bit pattern at the end.
-/

namespace ChannelBridge

/-- A non-negative value `mantissa · 2^exponent`. `Dyadic.nearest` returns them normalised: zero
has mantissa `0`, and otherwise the mantissa is below `2^53`, at least `2^52` unless the exponent
is `-1074`, and the exponent is at most `971`. -/
structure Dyadic where
  mantissa : Nat
  exponent : Int
  deriving DecidableEq, Repr, Inhabited

namespace Dyadic

/-- The zero value. -/
def zero : Dyadic := ⟨0, 0⟩

/-- `num / den` rounded to the nearest natural number, a tie going to the even one. -/
def roundRatio (num den : Nat) : Nat :=
  let q := num / den
  let twice := 2 * (num % den)
  if twice < den then q
  else if den < twice then q + 1
  else if q % 2 = 0 then q else q + 1

/-- `⌊log₂ (num / den)⌋` for positive `num` and `den`. The two `log2`s bound the ratio to
`(2^(t-1), 2^(t+1))`, so one comparison settles between `t` and `t - 1`. -/
def floorLog2 (num den : Nat) : Int :=
  let t : Int := Int.ofNat num.log2 - Int.ofNat den.log2
  if den * 2 ^ t.toNat ≤ num * 2 ^ (-t).toNat then t else t - 1

/-- The exponent of the last mantissa bit of the nearest double to `num / den · 2^e`: 52 bits
below the leading one, but never below `-1074`, where the subnormals end. -/
def quantum (num den : Nat) (e : Int) : Int :=
  max (floorLog2 num den + e - 52) (-1074)

/-- The double nearest to `num / den · 2^e`, ties to even; `none` when it rounds past the largest
finite double `(2^53 - 1) · 2^971`. A mantissa that rounds up to `2^53` moves to the next binade. -/
def nearest (num den : Nat) (e : Int) : Option Dyadic :=
  if num = 0 then some zero
  else
    let q := quantum num den e
    let r := roundRatio (num * 2 ^ (e - q).toNat) (den * 2 ^ (q - e).toNat)
    let (m, q) := if r = 2 ^ 53 then (2 ^ 52, q + 1) else (r, q)
    if 971 < q then none else some ⟨m, q⟩

/-- The double nearest to a natural number, which is never beyond the range for `n < 2^64`. -/
def ofNat (n : Nat) : Dyadic := (nearest n 1 0).getD zero

/-- The double product of two doubles: the exact product, rounded; `none` on overflow. -/
def mul (a b : Dyadic) : Option Dyadic :=
  nearest (a.mantissa * b.mantissa) 1 (a.exponent + b.exponent)

/-- The double quotient of two doubles: the exact quotient, rounded; `none` on overflow.
The divisor is taken to be non-zero. -/
def div (a b : Dyadic) : Option Dyadic :=
  nearest a.mantissa b.mantissa (a.exponent - b.exponent)

/-- The double with this value and the given sign, assembled from its bit fields. A normalised
value with mantissa below `2^52` is subnormal and is stored with biased exponent `0`. -/
def toFloat (negative : Bool) (d : Dyadic) : Float :=
  let sign : Nat := if negative then 2 ^ 63 else 0
  if d.mantissa < 2 ^ 52 then Float.ofBits (sign + d.mantissa).toUInt64
  else Float.ofBits (sign + (d.exponent + 1075).toNat * 2 ^ 52 + (d.mantissa - 2 ^ 52)).toUInt64

@[simp] theorem nearest_zero (den : Nat) (e : Int) : nearest 0 den e = some zero := by
  simp [nearest]

/-- Rounding a ratio gives its floor or one more. -/
theorem roundRatio_eq_or (num den : Nat) :
    roundRatio num den = num / den ∨ roundRatio num den = num / den + 1 := by
  unfold roundRatio
  dsimp only
  -- below half, above half, and a tie going to the even one of the two
  split
  · exact .inl rfl
  split
  · exact .inr rfl
  split
  · exact .inl rfl
  · exact .inr rfl

theorem roundRatio_le (num den : Nat) : roundRatio num den ≤ num / den + 1 := by
  rcases roundRatio_eq_or num den with h | h <;> omega

theorem le_roundRatio (num den : Nat) : num / den ≤ roundRatio num den := by
  rcases roundRatio_eq_or num den with h | h <;> omega

end Dyadic

end ChannelBridge
