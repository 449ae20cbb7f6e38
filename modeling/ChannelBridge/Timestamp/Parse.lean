import ChannelBridge.Timestamp.Basic
import ChannelBridge.Text.Blank

/-! # Reading timestamps

The accepted text is RFC 3339, read leniently:

* blanks may stand before every number and around the `-` and `:` separators;
* the date and the time are separated by `T`, `t` or one space;
* a month, day, hour, minute or second may have one digit; a year without a sign has at most
  four digits, and one with a sign any number;
* the fraction has at least one digit; digits after the ninth are ignored;
* the offset is `Z`, `z`, `UTC` in any case, or a sign (`+`, `-` or U+2212), two hour digits,
  optional colons or blanks, and two minute digits;
* only blanks may follow.

The instant is then moved to UTC. Failures are told in five words: the text ends too early, holds a
character that does not fit, has a field out of range (also an impossible date), goes on after the
offset, or names a local time whose UTC instant falls outside the years a date may have.
-/

namespace ChannelBridge

/-- Why a text is not a timestamp. -/
inductive TimestampProblem where
  | outOfRange
  | impossible
  | invalid
  | tooShort
  | tooLong
  deriving DecidableEq, Repr

/-- The words for a timestamp problem. -/
def TimestampProblem.text : TimestampProblem → String
  | .outOfRange => "input is out of range"
  | .impossible => "no possible date and time matching input"
  | .invalid => "input contains invalid characters"
  | .tooShort => "premature end of input"
  | .tooLong => "trailing input"

namespace TimestampReader

/-- Drops leading blanks. -/
def skipBlank (s : List Char) : List Char := s.dropWhile Text.isBlank

/-- The value of a list of decimal digits. -/
def digitValue (ds : List Char) : Nat :=
  ds.foldl (fun acc d => acc * 10 + (d.toNat - '0'.toNat)) 0

/-- Reads from one to `max` decimal digits. -/
def number (s : List Char) (max : Nat) : Except TimestampProblem (Nat × List Char) :=
  if s.isEmpty then .error .tooShort
  else
    let ds := (s.take max).takeWhile Char.isDigit
    if ds.isEmpty then .error .invalid
    else .ok (digitValue ds, s.drop ds.length)

/-- The largest value of a signed 64-bit field. -/
def maxSigned : Nat := 2 ^ 63 - 1

/-- Reads a year: blanks, then a sign and any number of digits, or up to four digits. -/
def year (s : List Char) : Except TimestampProblem (Int × List Char) := do
  let s := skipBlank s
  let (y, s) ← match s with
    | '-' :: r => do
      let (v, r) ← number r r.length
      if v > maxSigned then .error .outOfRange else pure (-Int.ofNat v, r)
    | '+' :: r => do
      let (v, r) ← number r r.length
      if v > maxSigned then .error .outOfRange else pure (Int.ofNat v, r)
    | _ => do
      let (v, r) ← number s 4
      pure (Int.ofNat v, r)
  if y < -(2 ^ 31) ∨ 2 ^ 31 - 1 < y then .error .outOfRange else pure (y, s)

/-- Reads blanks, then one or two digits whose value must lie in `lo … hi`. -/
def field (s : List Char) (lo hi : Nat) : Except TimestampProblem (Nat × List Char) := do
  let (v, s) ← number (skipBlank s) 2
  if v < lo ∨ hi < v then .error .outOfRange else pure (v, s)

/-- Reads blanks, then the character `c`. -/
def separator (s : List Char) (c : Char) : Except TimestampProblem (List Char) :=
  match skipBlank s with
  | [] => .error .tooShort
  | x :: r => if x = c then .ok r else .error .invalid

/-- Reads an optional fraction of a second as nanoseconds. -/
def fraction (s : List Char) : Except TimestampProblem (Nat × List Char) :=
  match s with
  | '.' :: r => do
    let (v, r') ← number r 9
    let count := r.length - r'.length
    pure (v * 10 ^ (9 - count), r'.dropWhile Char.isDigit)
  | _ => .ok (0, s)

/-- Whether the text begins with two ASCII characters accepted by `ok₁` and `ok₂`; `none` when it
is too short to tell (fewer than two bytes). -/
def pairOf (s : List Char) (ok₁ ok₂ : Char → Bool) : Option Bool :=
  match s with
  | a :: b :: _ => some (ok₁ a && ok₂ b)
  | [a] => if a.utf8Size ≥ 2 then some false else none
  | [] => none

/-- Whether a character is a decimal digit from `lo` to `hi`. -/
def digitIn (lo hi : Char) (c : Char) : Bool := lo ≤ c && c ≤ hi

/-- The value of two leading digits. -/
def pairValue (s : List Char) : Nat := digitValue (s.take 2)

/-- Reads a UTC offset in seconds. -/
def offset (s : List Char) : Except TimestampProblem (Int × List Char) :=
  match s with
  | 'Z' :: r => .ok (0, r)
  | 'z' :: r => .ok (0, r)
  | [] => .error .tooShort
  | c :: r => do
    let negative ←
      if c = '+' then pure false
      else if c = '-' ∨ c = '−' then pure true
      else .error .invalid
    let hoursOk := pairOf r Char.isDigit Char.isDigit
    match hoursOk with
    | none => .error .tooShort
    | some false => .error .invalid
    | some true =>
      let hours := pairValue r
      let r := (r.drop 2).dropWhile (fun c => c = ':' || Text.isBlank c)
      match pairOf r (digitIn '0' '5') Char.isDigit with
      | some true =>
        let seconds : Int := Int.ofNat (hours * 3600 + pairValue r * 60)
        pure (if negative then -seconds else seconds, r.drop 2)
      | some false =>
        match pairOf r (digitIn '6' '9') Char.isDigit with
        | some true => .error .outOfRange
        | _ => .error .invalid
      | none => .error .tooShort

/-- Whether the text begins with `UTC` in any case. -/
def startsWithUtc (s : List Char) : Bool :=
  match s with
  | u :: t :: c :: _ => u.toLower == 'u' && t.toLower == 't' && c.toLower == 'c'
  | _ => false

/-- The fields of a timestamp text, before they are checked as a whole. -/
structure Fields where
  year : Int
  month : Nat
  day : Nat
  hour : Nat
  minute : Nat
  second : Nat
  nano : Nat
  offset : Int

/-- Reads the fields of a timestamp text. -/
def fields (text : String) : Except TimestampProblem Fields := do
  let (y, s) ← year text.toList
  let s ← separator s '-'
  let (mo, s) ← field s 1 12
  let s ← separator s '-'
  let (d, s) ← field s 1 31
  let s ← match s with
    | c :: r => if c = 'T' ∨ c = 't' ∨ c = ' ' then pure r else .error .invalid
    | [] => .error .tooShort
  let (h, s) ← field s 0 23
  let s ← separator s ':'
  let (mi, s) ← field s 0 59
  let s ← separator s ':'
  let (se, s) ← field s 0 60
  let (n, s) ← fraction s
  let s := skipBlank s
  let (off, s) ← if startsWithUtc s then pure (0, s.drop 3) else offset s
  if (skipBlank s).isEmpty then pure ⟨y, mo, d, h, mi, se, n, off⟩ else .error .tooLong

/-- The years a date may have. -/
def minYear : Int := -262143

/-- The years a date may have. -/
def maxYear : Int := 262142

end TimestampReader

open TimestampReader in
/-- Reads a timestamp text and moves the instant to UTC. -/
def Timestamp.parse (text : String) : Except TimestampProblem Timestamp := do
  let f ← fields text
  let date : CivilDate := ⟨f.year, f.month, f.day⟩
  if !(date.isValid && minYear ≤ f.year && f.year ≤ maxYear) then .error .outOfRange
  else if 86400 ≤ f.offset.natAbs then .error .outOfRange
  else
    let (second, nano) := if f.second = 60 then (59, f.nano + 1000000000) else (f.second, f.nano)
    let wall : Int := date.toDays * 86400 + Int.ofNat (f.hour * 3600 + f.minute * 60 + second)
    let utc := wall - f.offset
    let days := utc / 86400
    let y := (CivilDate.ofDays days).year
    if y < minYear ∨ maxYear < y then .error .impossible
    else pure ⟨days, (utc % 86400).toNat, nano⟩

end ChannelBridge
