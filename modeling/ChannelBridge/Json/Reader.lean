import ChannelBridge.Json.Value
import ChannelBridge.Decimal.Double

/-! # Reading JSON text

The reader turns a line of text into a `Json` value or says where and why it is not JSON, in the
words of the usual JSON reader: `expected value at line 1 column 1`. Columns count UTF-8 bytes from
the start of the line; an error about the next character is placed one byte further on.

Integers become `JsonNumber.nat` or `JsonNumber.neg` when they fit 64 bits and doubles otherwise;
`-0` is the double `-0.0`. Arrays and objects nest at most 127 deep; the 128th is refused.

A number with a fraction or an exponent is not rounded once from its decimal value. Its digits are
gathered into a 64-bit significand, digits beyond that being dropped (in the integer part each one
raises the exponent), the significand is rounded to a double, and that double is multiplied or
divided by the double nearest a power of ten (`scaleByTen`). The two roundings can leave the result
one unit in the last place from the nearest double: `7e33` reads as `6.999999999999999e33`.
-/

namespace ChannelBridge

/-- Why a text is not JSON. -/
inductive SyntaxProblem where
  | eofInValue
  | eofInList
  | eofInObject
  | eofInString
  | expectedColon
  | expectedListCommaOrEnd
  | expectedObjectCommaOrEnd
  | expectedIdent
  | expectedValue
  | invalidEscape
  | invalidNumber
  | numberOutOfRange
  | invalidUnicodeCodePoint
  | controlCharacterInString
  | keyMustBeAString
  | loneLeadingSurrogate
  | unexpectedEndOfHexEscape
  | trailingComma
  | trailingCharacters
  | recursionLimitExceeded
  deriving DecidableEq, Repr

namespace SyntaxProblem

/-- The words for a problem. -/
def text : SyntaxProblem → String
  | .eofInValue => "EOF while parsing a value"
  | .eofInList => "EOF while parsing a list"
  | .eofInObject => "EOF while parsing an object"
  | .eofInString => "EOF while parsing a string"
  | .expectedColon => "expected `:`"
  | .expectedListCommaOrEnd => "expected `,` or `]`"
  | .expectedObjectCommaOrEnd => "expected `,` or `\x7d`"
  | .expectedIdent => "expected ident"
  | .expectedValue => "expected value"
  | .invalidEscape => "invalid escape"
  | .invalidNumber => "invalid number"
  | .numberOutOfRange => "number out of range"
  | .invalidUnicodeCodePoint => "invalid unicode code point"
  | .controlCharacterInString => "control character (\\u0000-\\u001F) found while parsing a string"
  | .keyMustBeAString => "key must be a string"
  | .loneLeadingSurrogate => "lone leading surrogate in hex escape"
  | .unexpectedEndOfHexEscape => "unexpected end of hex escape"
  | .trailingComma => "trailing comma"
  | .trailingCharacters => "trailing characters"
  | .recursionLimitExceeded => "recursion limit exceeded"

end SyntaxProblem

/-- A problem and the line and column where it was found. -/
structure SyntaxError where
  problem : SyntaxProblem
  line : Nat
  column : Nat
  deriving DecidableEq, Repr

/-- The error text: the problem, then its place. -/
def SyntaxError.message (e : SyntaxError) : String :=
  e.problem.text ++ " at line " ++ toString e.line ++ " column " ++ toString e.column

namespace JsonReader

/-- The unread rest of the text and the place of its first character. -/
structure Cursor where
  rest : List Char
  line : Nat
  column : Nat

namespace Cursor

/-- Steps over one character. -/
def advance (c : Cursor) : Cursor :=
  match c.rest with
  | [] => c
  | ch :: r => if ch = '\n' then ⟨r, c.line + 1, 0⟩ else ⟨r, c.line, c.column + ch.utf8Size⟩

/-- The next character, if any. -/
def peek (c : Cursor) : Option Char := c.rest.head?

/-- An error placed after what has been read. -/
def fail {α : Type} (c : Cursor) (p : SyntaxProblem) : Except SyntaxError α :=
  .error ⟨p, c.line, c.column⟩

/-- An error placed one byte after what has been read, on the next character. -/
def failAhead {α : Type} (c : Cursor) (p : SyntaxProblem) : Except SyntaxError α :=
  match c.rest with
  | [] => .error ⟨p, c.line, c.column⟩
  | '\n' :: _ => .error ⟨p, c.line + 1, 0⟩
  | _ :: _ => .error ⟨p, c.line, c.column + 1⟩

/-- Skips blanks: space, tab, line feed and carriage return. -/
def skipBlank : Cursor → Cursor
  | ⟨ch :: r, line, column⟩ =>
    if ch = '\n' then skipBlank ⟨r, line + 1, 0⟩
    else if ch = ' ' ∨ ch = '\t' ∨ ch = '\r' then skipBlank ⟨r, line, column + 1⟩
    else ⟨ch :: r, line, column⟩
  | c => c
termination_by c => c.rest.length

end Cursor

/-- Reads the rest of a literal word such as the `ull` of `null`. -/
def literal (c : Cursor) : List Char → Except SyntaxError Cursor
  | [] => .ok c
  | w :: ws =>
    match c.peek with
    | none => c.fail .eofInValue
    | some ch => if ch = w then literal c.advance ws else c.advance.fail .expectedIdent

/-- The largest significand, `2^64 - 1`: the digits of a number are gathered into a 64-bit
unsigned integer. -/
def significandMax : Nat := 2 ^ 64 - 1

/-- The largest exponent after an `e`, `2^31 - 1`: it is gathered into a 32-bit signed integer. -/
def exponentMax : Nat := 2 ^ 31 - 1

/-- Clamps an exponent to the 32-bit signed range, as a saturating sum does. -/
def clampExponent (e : Int) : Int := max (min e (2 ^ 31 - 1)) (-2 ^ 31)

/-- Gathers digits into `acc` while it stays at most `significandMax`, counting them. Stops before
a non-digit, or before a digit that would pass the bound; the flag says it was the latter. -/
def gather : Cursor → Nat → Nat → Nat × Nat × Bool × Cursor
  | ⟨ch :: r, line, column⟩, acc, count =>
    if ch.isDigit then
      let d := ch.toNat - '0'.toNat
      if significandMax < acc * 10 + d then (acc, count, true, ⟨ch :: r, line, column⟩)
      else gather ⟨r, line, column + 1⟩ (acc * 10 + d) (count + 1)
    else (acc, count, false, ⟨ch :: r, line, column⟩)
  | c, acc, count => (acc, count, false, c)
termination_by c => c.rest.length

/-- Steps over digits, counting them. -/
def skipDigits : Cursor → Nat → Nat × Cursor
  | ⟨ch :: r, line, column⟩, count =>
    if ch.isDigit then skipDigits ⟨r, line, column + 1⟩ (count + 1)
    else (count, ⟨ch :: r, line, column⟩)
  | c, count => (count, c)
termination_by c => c.rest.length

/-- Reads the digits of an exponent after its first, `acc` so far. A digit that would pass
`exponentMax` is stepped over and ends the reading with `none`. -/
def exponentDigits : Cursor → Nat → Option Nat × Cursor
  | ⟨ch :: r, line, column⟩, acc =>
    if ch.isDigit then
      let d := ch.toNat - '0'.toNat
      if exponentMax < acc * 10 + d then (none, ⟨r, line, column + 1⟩)
      else exponentDigits ⟨r, line, column + 1⟩ (acc * 10 + d)
    else (some acc, ⟨ch :: r, line, column⟩)
  | c, acc => (some acc, c)
termination_by c => c.rest.length

/-- `10^k` as a double, rounded once; the reader keeps these for `k ≤ 308`. -/
def powerOfTen (k : Nat) : Dyadic := Dyadic.ofNat (10 ^ k)

/-- Scales `f` by `10^e` the way the reader does: one multiplication or division by the double
`powerOfTen |e|` when `|e| ≤ 308`; beyond that, zero stays zero, a positive exponent is out of
range, and a negative one divides by `10^308` and tries again. The significand was rounded to a
double first and each step rounds again, so the result can be a unit in the last place away from
the double nearest the decimal. `none` when a product overflows. -/
def scaleByTen (f : Dyadic) (e : Int) : Option Dyadic :=
  if e.natAbs ≤ 308 then
    if 0 ≤ e then f.mul (powerOfTen e.natAbs) else f.div (powerOfTen e.natAbs)
  else if f.mantissa = 0 then some f
  else if 0 ≤ e then none
  else
    match f.div (powerOfTen 308) with
    | some g => scaleByTen g (e + 308)
    | none => none
termination_by (-e).toNat
decreasing_by omega

/-- The double `±significand · 10^e` as the reader computes it, or out of range. -/
def decimalValue (c : Cursor) (negative : Bool) (significand : Nat) (e : Int) :
    Except SyntaxError JsonNumber :=
  match scaleByTen (Dyadic.ofNat significand) e with
  | some d => .ok (.float (d.toFloat negative))
  | none => c.fail .numberOutOfRange

/-- Reads an exponent after its `e` and finishes `±significand · 10^(start ± exponent)`. An
exponent past `exponentMax` gives zero, unless it is positive and the significand is not zero. -/
def exponentPart (c : Cursor) (negative : Bool) (significand : Nat) (start : Int) :
    Except SyntaxError (JsonNumber × Cursor) :=
  let (expNegative, c) :=
    if c.peek = some '-' then (true, c.advance)
    else if c.peek = some '+' then (false, c.advance)
    else (false, c)
  match c.peek with
  | none => c.fail .eofInValue
  | some ch =>
    if ch.isDigit then
      match exponentDigits c.advance (ch.toNat - '0'.toNat) with
      | (some ex, c) =>
        let e := clampExponent (if expNegative then start - ex else start + ex)
        match decimalValue c negative significand e with
        | .ok n => .ok (n, c)
        | .error err => .error err
      | (none, c) =>
        if significand ≠ 0 ∧ ¬expNegative then c.fail .numberOutOfRange
        else .ok (.float (Dyadic.zero.toFloat negative), (skipDigits c 0).2)
    else c.advance.fail .invalidNumber

/-- Reads a fraction after its point, then an exponent if one follows. Digits that would pass the
significand bound are stepped over and do not move the exponent. -/
def fractionPart (c : Cursor) (negative : Bool) (significand : Nat) (start : Int) :
    Except SyntaxError (JsonNumber × Cursor) :=
  let (m, count, full, c) := gather c significand 0
  if ¬full ∧ count = 0 then
    match c.peek with
    | some _ => c.failAhead .invalidNumber
    | none => c.failAhead .eofInValue
  else
    let c := if full then (skipDigits c 0).2 else c
    let e := start - Int.ofNat count
    if c.peek = some 'e' ∨ c.peek = some 'E' then exponentPart c.advance negative m e
    else
      match decimalValue c negative m e with
      | .ok n => .ok (n, c)
      | .error err => .error err

/-- Finishes a number after its integer digits: a fraction, an exponent, or the integer itself.
`long` says the integer had more digits than the significand holds, the `start` dropped ones. -/
def numberTail (c : Cursor) (negative : Bool) (significand : Nat) (start : Nat) (long : Bool) :
    Except SyntaxError (JsonNumber × Cursor) :=
  if c.peek = some '.' then fractionPart c.advance negative significand start
  else if c.peek = some 'e' ∨ c.peek = some 'E' then exponentPart c.advance negative significand start
  else if long then
    match decimalValue c negative significand start with
    | .ok n => .ok (n, c)
    | .error err => .error err
  else if ¬negative then .ok (.nat significand, c)
  else if significand = 0 then .ok (.float (Dyadic.zero.toFloat true), c)
  else if significand ≤ 2 ^ 63 then .ok (.neg (-Int.ofNat significand), c)
  else .ok (.float ((Dyadic.ofNat significand).toFloat true), c)

/-- Reads a number whose sign, if any, has been read. -/
def number (c : Cursor) (negative : Bool) : Except SyntaxError (JsonNumber × Cursor) :=
  match c.peek with
  | some '0' =>
    let c := c.advance
    match c.peek with
    | some ch => if ch.isDigit then c.failAhead .invalidNumber else numberTail c negative 0 0 false
    | none => numberTail c negative 0 0 false
  | some ch =>
    if ch.isDigit then
      match gather c.advance (ch.toNat - '0'.toNat) 0 with
      | (m, _, true, c) =>
        let (dropped, c) := skipDigits c 0
        numberTail c negative m dropped true
      | (m, _, false, c) => numberTail c negative m 0 false
    else c.advance.fail .invalidNumber
  | none => c.fail .eofInValue

/-- The value of a hexadecimal digit. -/
def hexValue (ch : Char) : Option Nat :=
  if '0' ≤ ch ∧ ch ≤ '9' then some (ch.toNat - '0'.toNat)
  else if 'a' ≤ ch ∧ ch ≤ 'f' then some (ch.toNat - 'a'.toNat + 10)
  else if 'A' ≤ ch ∧ ch ≤ 'F' then some (ch.toNat - 'A'.toNat + 10)
  else none

/-- The line and column `k` bytes further on, or at the end of the text if it is shorter. A
character that the `k` bytes end inside counts only with the bytes taken. -/
def placeAfter : List Char → Nat → Nat → Nat → Nat × Nat
  | [], _, line, column => (line, column)
  | _, 0, line, column => (line, column)
  | ch :: r, k + 1, line, column =>
    if ch = '\n' then placeAfter r k (line + 1) 0
    else if ch.utf8Size ≤ k + 1 then placeAfter r (k + 1 - ch.utf8Size) line (column + ch.utf8Size)
    else (line, column + k + 1)

/-- Reads the four hexadecimal digits of a `\u` escape. The four bytes are taken together: fewer
than four left is the end of the text, and four that are not all digits are an invalid escape
placed after them. -/
def hex4 (c : Cursor) : Except SyntaxError (Nat × Cursor) :=
  match c.rest with
  | a :: b :: d :: e :: r =>
    match hexValue a, hexValue b, hexValue d, hexValue e with
    | some va, some vb, some vd, some ve =>
      .ok (((va * 16 + vb) * 16 + vd) * 16 + ve, ⟨r, c.line, c.column + 4⟩)
    | _, _, _, _ =>
      let (line, column) := placeAfter c.rest 4 c.line c.column
      .error ⟨.invalidEscape, line, column⟩
  | _ =>
    if (String.ofList c.rest).utf8ByteSize < 4 then
      let (line, column) := placeAfter c.rest (4 * c.rest.length) c.line c.column
      .error ⟨.eofInString, line, column⟩
    else
      let (line, column) := placeAfter c.rest 4 c.line c.column
      .error ⟨.invalidEscape, line, column⟩

/-- Reads the characters of a string whose opening quote has been read, up to its closing quote;
`fuel` bounds the characters read. -/
def stringBody (fuel : Nat) (c : Cursor) (acc : List Char) : Except SyntaxError (String × Cursor) :=
  match fuel with
  | 0 => c.fail .eofInString
  | fuel + 1 =>
  match c.rest with
  | [] => c.fail .eofInString
  | ch :: _ =>
    if ch = '"' then .ok (String.ofList acc.reverse, c.advance)
    else if ch = '\\' then
      let c1 := c.advance
      match c1.rest with
      | [] => c1.fail .eofInString
      | e :: _ =>
        let c2 := c1.advance
        let simple (out : Char) := stringBody fuel c2 (out :: acc)
        if e = '"' then simple '"'
        else if e = '\\' then simple '\\'
        else if e = '/' then simple '/'
        else if e = 'b' then simple '\x08'
        else if e = 'f' then simple '\x0c'
        else if e = 'n' then simple '\n'
        else if e = 'r' then simple '\r'
        else if e = 't' then simple '\t'
        else if e = 'u' then
          match hex4 c2 with
          | .error err => .error err
          | .ok (n, c3) =>
            if 0xDC00 ≤ n ∧ n ≤ 0xDFFF then c3.fail .loneLeadingSurrogate
            else if 0xD800 ≤ n ∧ n ≤ 0xDBFF then
              match c3.rest with
              | '\\' :: 'u' :: _ =>
                match hex4 c3.advance.advance with
                | .error err => .error err
                | .ok (n2, c4) =>
                  if 0xDC00 ≤ n2 ∧ n2 ≤ 0xDFFF then
                    let code := 0x10000 + (n - 0xD800) * 0x400 + (n2 - 0xDC00)
                    stringBody fuel c4 (Char.ofNat code :: acc)
                  else c4.fail .loneLeadingSurrogate
              | ['\\'] => c3.advance.fail .eofInString
              | '\\' :: _ => c3.advance.failAhead .unexpectedEndOfHexEscape
              | [] => c3.fail .eofInString
              | _ => c3.failAhead .unexpectedEndOfHexEscape
            else stringBody fuel c3 (Char.ofNat n :: acc)
        else c2.fail .invalidEscape
    else if ch.toNat < 0x20 then c.advance.fail .controlCharacterInString
    else stringBody fuel c.advance (ch :: acc)

/-- The nesting of arrays and objects that is refused: the open ones, counting the new one. -/
def depthLimit : Nat := 128

mutual
/-- Reads one value; `fuel` bounds the calls and `depth` counts the open arrays and objects. -/
def value (fuel depth : Nat) (c : Cursor) : Except SyntaxError (Json × Cursor) :=
  match fuel with
  | 0 => c.fail .recursionLimitExceeded
  | fuel + 1 =>
    let c := c.skipBlank
    match c.peek with
    | none => c.failAhead .eofInValue
    | some ch =>
      if ch = 'n' then do let c ← literal c.advance ['u', 'l', 'l']; pure (.null, c)
      else if ch = 't' then do let c ← literal c.advance ['r', 'u', 'e']; pure (.bool true, c)
      else if ch = 'f' then do let c ← literal c.advance ['a', 'l', 's', 'e']; pure (.bool false, c)
      else if ch = '-' then do let (n, c) ← number c.advance true; pure (.num n, c)
      else if ch.isDigit then do let (n, c) ← number c false; pure (.num n, c)
      else if ch = '"' then do let (s, c) ← stringBody (c.rest.length + 1) c.advance []; pure (.str s, c)
      else if ch = '[' then
        if depthLimit ≤ depth + 1 then c.failAhead .recursionLimitExceeded
        else items fuel (depth + 1) c.advance true []
      else if ch = '{' then
        if depthLimit ≤ depth + 1 then c.failAhead .recursionLimitExceeded
        else members fuel (depth + 1) c.advance true []
      else c.failAhead .expectedValue

/-- Reads the items of an array after its opening bracket. -/
def items (fuel depth : Nat) (c : Cursor) (first : Bool) (acc : List Json) :
    Except SyntaxError (Json × Cursor) :=
  match fuel with
  | 0 => c.fail .recursionLimitExceeded
  | fuel + 1 =>
    let c := c.skipBlank
    match c.peek with
    | none => c.failAhead .eofInList
    | some ']' => .ok (.arr acc.reverse, c.advance)
    | some ch => do
      let c ←
        if ch = ',' ∧ !first then
          let c := c.advance.skipBlank
          match c.peek with
          | some ']' => c.failAhead .trailingComma
          | none => c.failAhead .eofInValue
          | some _ => pure c
        else if first then pure c
        else c.failAhead .expectedListCommaOrEnd
      let (v, c) ← value fuel depth c
      items fuel depth c false (v :: acc)

/-- Reads the members of an object after its opening brace. -/
def members (fuel depth : Nat) (c : Cursor) (first : Bool) (acc : List (String × Json)) :
    Except SyntaxError (Json × Cursor) :=
  match fuel with
  | 0 => c.fail .recursionLimitExceeded
  | fuel + 1 =>
    let c := c.skipBlank
    match c.peek with
    | none => c.failAhead .eofInObject
    | some '}' => .ok (Json.object acc.reverse, c.advance)
    | some ch => do
      let c ←
        if ch = ',' ∧ !first then pure c.advance.skipBlank
        else if first then pure c
        else c.failAhead .expectedObjectCommaOrEnd
      match c.peek with
      | some '"' =>
        let (k, c) ← stringBody (c.rest.length + 1) c.advance []
        let c := c.skipBlank
        match c.peek with
        | some ':' =>
          let (v, c) ← value fuel depth c.advance
          members fuel depth c false ((k, v) :: acc)
        | some _ => c.failAhead .expectedColon
        | none => c.failAhead .eofInObject
      | some '}' => c.failAhead .trailingComma
      | some _ => c.failAhead .keyMustBeAString
      | none => c.failAhead .eofInValue
end

end JsonReader

/-- Reads a whole text as one JSON value; only blanks may follow it. -/
def Json.parse (text : String) : Except SyntaxError Json := do
  let start : JsonReader.Cursor := ⟨text.toList, 1, 0⟩
  let (v, c) ← JsonReader.value (2 * start.rest.length + 2) 0 start
  let c := c.skipBlank
  match c.peek with
  | none => pure v
  | some _ => c.failAhead .trailingCharacters

end ChannelBridge
