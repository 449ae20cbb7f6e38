import ChannelBridge.Json.Value
import ChannelBridge.Decimal.Shortest

/-! # Writing JSON text

Compact JSON text: no blanks, members in the value's (sorted) order. A string escapes the quote,
the backslash and the control characters; everything else is written as itself. A double is written
with its shortest digits and always with a point or an exponent, so that it reads back as a double.
-/

namespace ChannelBridge

namespace Json

/-- The hexadecimal digit of a value below 16. -/
def hexDigit (n : Nat) : Char :=
  if n < 10 then Char.ofNat ('0'.toNat + n) else Char.ofNat ('a'.toNat + n - 10)

/-- The characters that stand for one character inside a string literal. -/
def escapeChar (c : Char) : List Char :=
  if c = '"' then ['\\', '"']
  else if c = '\\' then ['\\', '\\']
  else if c = '\n' then ['\\', 'n']
  else if c = '\r' then ['\\', 'r']
  else if c = '\t' then ['\\', 't']
  else if c = '\x08' then ['\\', 'b']
  else if c = '\x0c' then ['\\', 'f']
  else if c.toNat < 0x20 then
    ['\\', 'u', '0', '0', hexDigit (c.toNat / 16), hexDigit (c.toNat % 16)]
  else [c]

/-- A string literal. -/
def quote (s : String) : String :=
  String.ofList ('"' :: (s.toList.flatMap escapeChar ++ ['"']))

/-- The text of a number. -/
def numberText : JsonNumber → String
  | .nat n => toString n
  | .neg i => toString i
  | .float f => (FloatStyle.json.render f).getD "null"

mutual
/-- Compact text of a value. -/
def render : Json → String
  | .null => "null"
  | .bool true => "true"
  | .bool false => "false"
  | .num n => numberText n
  | .str s => quote s
  | .arr items => "[" ++ renderItems items ++ "]"
  | .obj members => "\x7b" ++ renderMembers members ++ "\x7d"

/-- Items separated by commas. -/
def renderItems : List Json → String
  | [] => ""
  | [v] => render v
  | v :: rest => render v ++ "," ++ renderItems rest

/-- Members separated by commas. -/
def renderMembers : List (String × Json) → String
  | [] => ""
  | [(k, v)] => quote k ++ ":" ++ render v
  | (k, v) :: rest => quote k ++ ":" ++ render v ++ "," ++ renderMembers rest
end

end Json

end ChannelBridge
