import ChannelBridge.Power

/-! # Shortest decimal text of a double

A finite double `m · 2^e` stands for every real that rounds to it: the interval halfway to its two
neighbours, ends included when `m` is even. The text written for it is the decimal with the fewest
significant digits inside that interval, and of two such decimals the one nearer the double.
Everything is exact `Nat` arithmetic on the bit pattern; no floating-point operation is used.

`FloatStyle` then decides where positional notation ends and how an exponent is marked.
-/

namespace ChannelBridge

/-- What a binary64 bit pattern stands for: a NaN, an infinity, or `±mantissa · 2^exponent`. -/
inductive BinaryShape where
  | nan
  | infinite (negative : Bool)
  | finite (negative : Bool) (mantissa : Nat) (exponent : Int)
  deriving Repr, DecidableEq

namespace BinaryShape

/-- Reads the sign, the biased exponent and the fraction fields of a bit pattern. -/
def ofBits (bits : UInt64) : BinaryShape :=
  let n := bits.toNat
  let negative := decide (2 ^ 63 ≤ n)
  let biased := n / 2 ^ 52 % 2 ^ 11
  let fraction := n % 2 ^ 52
  if biased = 2 ^ 11 - 1 then
    if fraction = 0 then .infinite negative else .nan
  else if biased = 0 then .finite negative fraction (-1074)
  else .finite negative (fraction + 2 ^ 52) (Int.ofNat biased - 1075)

/-- The shape of a double. -/
def ofFloat (f : Float) : BinaryShape := ofBits f.toBits

end BinaryShape

namespace Decimal

/-- The number of decimal digits of `n` less one, that is `⌊log₁₀ n⌋` for `n > 0`. -/
def log10 (n : Nat) : Nat :=
  if h : n < 10 then 0 else 1 + log10 (n / 10)
termination_by n
decreasing_by omega

/-- A non-negative rational `num / den`, compared by cross-multiplication. -/
structure Ratio where
  num : Nat
  den : Nat

namespace Ratio

/-- The rational `x · 2^q`. -/
def ofBinary (x : Nat) (q : Int) : Ratio := ⟨x * 2 ^ q.toNat, 2 ^ (-q).toNat⟩

/-- The rational `d · 10^j`. -/
def ofDecimal (d : Nat) (j : Int) : Ratio := ⟨d * 10 ^ j.toNat, 10 ^ (-j).toNat⟩

/-- `a ≤ b`. -/
def le (a b : Ratio) : Bool := a.num * b.den ≤ b.num * a.den

/-- `a < b`. -/
def lt (a b : Ratio) : Bool := a.num * b.den < b.num * a.den

/-- `⌊a / 10^j⌋` and whether the division is exact. -/
def floorDecimal (a : Ratio) (j : Int) : Nat × Bool :=
  let num := a.num * 10 ^ (-j).toNat
  let den := a.den * 10 ^ j.toNat
  (num / den, num % den == 0)

end Ratio

/-- The exponent `E` with `10^E ≤ m · 2^e < 10^(E+1)`, for `m > 0`. -/
def pointOf (m : Nat) (e : Int) : Int :=
  let num := m * 2 ^ e.toNat
  let den := 2 ^ (-e).toNat
  if den ≤ num then Int.ofNat (log10 (num / den))
  else
    let t := log10 (den / num)
    if num * 10 ^ t = den then -Int.ofNat t else -(Int.ofNat t + 1)

/-- Drops trailing zero digits, raising the exponent by one for each. -/
def stripZeros (d : Nat) (j : Int) : Nat × Int :=
  if h : 0 < d ∧ d % 10 = 0 then stripZeros (d / 10) (j + 1) else (d, j)
termination_by d
decreasing_by omega

/-- The decimal `d · 10^j` with the fewest significant digits that rounds to `m · 2^e`, where
`m > 0`; `lowerCloser` says that the gap below is half the gap above (the mantissa is a power of
two). Of two candidates of the shortest length the nearer wins, and an exact tie goes to the even
digit string. -/
def shortest (m : Nat) (e : Int) (lowerCloser : Bool) : Nat × Int :=
  let q := e - 2
  let v := Ratio.ofBinary (4 * m) q
  let hi := Ratio.ofBinary (4 * m + 2) q
  let lo := Ratio.ofBinary (if lowerCloser then 4 * m - 1 else 4 * m - 2) q
  let closed := m % 2 == 0
  let inside (r : Ratio) : Bool :=
    if closed then lo.le r && r.le hi else lo.lt r && r.lt hi
  let point := pointOf m e
  let attempt (n : Nat) : Option (Nat × Int) :=
    let j := point - Int.ofNat n + 1
    let (d, exact) := v.floorDecimal j
    if exact then some (d, j)
    else
      let below := inside (Ratio.ofDecimal d j)
      let above := inside (Ratio.ofDecimal (d + 1) j)
      if below && above then
        -- compare `2v` with the midpoint `(2d + 1) · 10^j` of the two candidates
        let twice : Ratio := ⟨2 * v.num, v.den⟩
        let mid := Ratio.ofDecimal (2 * d + 1) j
        if twice.lt mid then some (d, j)
        else if mid.lt twice then some (d + 1, j)
        else if d % 2 == 0 then some (d, j) else some (d + 1, j)
      else if below then some (d, j)
      else if above then some (d + 1, j)
      else none
  match ((List.range 17).map (· + 1)).findSome? attempt with
  | some (d, j) => stripZeros d j
  | none => stripZeros (v.floorDecimal (point - 16)).1 (point - 16)

/-- Shortest digits and exponent of a positive finite double given by its shape fields. -/
def shortestOf (mantissa : Nat) (exponent : Int) : Nat × Int :=
  shortest mantissa exponent (mantissa == 2 ^ 52 && exponent > -1074)

end Decimal

/-- How a double is written: which decimal-point positions are written positionally, and how an
exponent is marked. The point position `k` of a value is the `k` with `0.d₁d₂… × 10^k`. -/
structure FloatStyle where
  /-- Largest point position written without an exponent. -/
  maxPoint : Int
  /-- Smallest point position written without an exponent. -/
  minPoint : Int
  /-- Whether a non-negative exponent is written with a plus sign. -/
  plusSign : Bool

namespace FloatStyle

/-- Doubles in messages and in JSON text: positional for point positions from `-4` to `16`,
otherwise one digit before the point and a signed exponent (`1e+300`, `1.5e-7`). -/
def json : FloatStyle := ⟨16, -4, true⟩

/-- `n` zero characters. -/
def zeros (n : Nat) : List Char := List.replicate n '0'

/-- Text of the positive decimal `d · 10^j` with `d` free of trailing zeros. -/
def decimalText (style : FloatStyle) (d : Nat) (j : Int) : String :=
  let s := (toString d).toList
  let point := Int.ofNat s.length + j
  if 0 ≤ j ∧ point ≤ style.maxPoint then
    String.ofList (s ++ zeros j.toNat ++ ['.', '0'])
  else if 0 < point ∧ point ≤ style.maxPoint then
    String.ofList (s.take point.toNat ++ ['.'] ++ s.drop point.toNat)
  else if style.minPoint ≤ point ∧ point ≤ 0 then
    String.ofList (['0', '.'] ++ zeros (-point).toNat ++ s)
  else
    let exp := point - 1
    let expText :=
      if exp < 0 then "-" ++ toString exp.natAbs
      else (if style.plusSign then "+" else "") ++ toString exp.toNat
    let mantissa := match s with
      | [] => "0"
      | [c] => String.singleton c
      | c :: rest => String.ofList (c :: '.' :: rest)
    mantissa ++ "e" ++ expText

/-- Text of a finite double, or `none` for a NaN or an infinity. -/
def render (style : FloatStyle) (f : Float) : Option String :=
  match BinaryShape.ofFloat f with
  | .nan => none
  | .infinite _ => none
  | .finite negative m e =>
    let sign := if negative then "-" else ""
    if m = 0 then some (sign ++ "0.0")
    else
      let (d, j) := Decimal.shortestOf m e
      some (sign ++ style.decimalText d j)

end FloatStyle

end ChannelBridge
