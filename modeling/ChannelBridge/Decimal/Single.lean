import ChannelBridge.Decimal.Shortest

/-! # Single-precision values

A dictation level is a single-precision number. `Binary32` keeps its bit pattern; `Binary32.round`
takes any `±m · 2^e` to the nearest single (ties to the even neighbour, infinity beyond the range,
subnormals below it), and `Binary32.toFloat` widens a single to the double with the same value,
which is always exact.
-/

namespace ChannelBridge

/-- An IEEE 754 binary32 value, kept as its bit pattern so that equality is decidable. -/
structure Binary32 where
  bits : UInt32
  deriving DecidableEq, Repr, Inhabited

namespace Binary32

/-- `⌊m / 2^k⌋` rounded to nearest, a tie going to the even quotient. -/
def roundShift (m k : Nat) : Nat :=
  let q := m / 2 ^ k
  let twice := 2 * (m % 2 ^ k)
  if twice < 2 ^ k then q
  else if 2 ^ k < twice then q + 1
  else if q % 2 = 0 then q else q + 1

/-- The single nearest to `±m · 2^e`. -/
def round (negative : Bool) (m : Nat) (e : Int) : Binary32 :=
  let sign : Nat := if negative then 2 ^ 31 else 0
  if m = 0 then ⟨sign.toUInt32⟩
  else
    let top : Int := Int.ofNat (Nat.log2 m) + e
    let q₀ : Int := max (top - 23) (-149)
    let (mant, q) : Nat × Int :=
      if q₀ ≤ e then (m * 2 ^ (e - q₀).toNat, q₀)
      else
        let r := roundShift m (q₀ - e).toNat
        if r = 2 ^ 24 then (2 ^ 23, q₀ + 1) else (r, q₀)
    if 127 < q + 23 then ⟨(sign + 0x7F800000).toUInt32⟩
    else if mant < 2 ^ 23 then ⟨(sign + mant).toUInt32⟩
    else ⟨(sign + (q + 150).toNat * 2 ^ 23 + (mant - 2 ^ 23)).toUInt32⟩

/-- The single nearest to a double. -/
def ofFloat (f : Float) : Binary32 :=
  match BinaryShape.ofFloat f with
  | .nan => ⟨0x7FC00000⟩
  | .infinite negative => ⟨((if negative then 2 ^ 31 else 0) + 0x7F800000 : Nat).toUInt32⟩
  | .finite negative m e => round negative m e

/-- The single nearest to a natural number. -/
def ofNat (n : Nat) : Binary32 := round false n 0

/-- The single nearest to an integer. -/
def ofInt (i : Int) : Binary32 := round (i < 0) i.natAbs 0

/-- The fields of the bit pattern: sign, biased exponent, fraction. -/
def fields (x : Binary32) : Bool × Nat × Nat :=
  let n := x.bits.toNat
  (decide (2 ^ 31 ≤ n), n / 2 ^ 23 % 2 ^ 8, n % 2 ^ 23)

/-- Whether the value is neither infinite nor a NaN. -/
def isFinite (x : Binary32) : Bool := x.fields.2.1 != 255

/-- The double `±m · 2^q` for `m < 2^24` and `q ≥ -149`, which is exactly representable. -/
def exactDouble (negative : Bool) (m : Nat) (q : Int) : Float :=
  let sign : Nat := if negative then 2 ^ 63 else 0
  if m = 0 then Float.ofBits sign.toUInt64
  else
    let l := Nat.log2 m
    let biased := (Int.ofNat l + q + 1023).toNat
    Float.ofBits (sign + biased * 2 ^ 52 + (m * 2 ^ (52 - l) - 2 ^ 52)).toUInt64

/-- The double with the same value. -/
def toFloat (x : Binary32) : Float :=
  let (negative, biased, fraction) := x.fields
  if biased = 255 then
    if fraction = 0 then
      Float.ofBits ((if negative then 2 ^ 63 else 0) + 0x7FF0000000000000 : Nat).toUInt64
    else Float.ofBits 0x7FF8000000000000
  else if biased = 0 then exactDouble negative fraction (-149)
  else exactDouble negative (fraction + 2 ^ 23) (Int.ofNat biased - 150)

end Binary32

end ChannelBridge
