import ChannelBridge.Text.Escaped

/-! # Quoted strings in diagnostic text

Diagnostic messages quote a string between double quotes. Inside, the backslash and the double
quote are escaped, the NUL, tab, carriage return and line feed have their short escapes, and any
other character of `Text.escapedRanges` is written as `\u{hex}` with lower-case digits and no
leading zeros. Every other character stands for itself.
-/

namespace ChannelBridge

namespace Text

/-- Lower-case hexadecimal digits of `n`, without leading zeros. -/
def hexDigits (n : Nat) : List Char :=
  (Nat.toDigits 16 n)

/-- The characters that stand for `c` inside a quoted string. -/
def escapeQuoted (c : Char) : List Char :=
  if c = '\x00' then ['\\', '0']
  else if c = '\t' then ['\\', 't']
  else if c = '\r' then ['\\', 'r']
  else if c = '\n' then ['\\', 'n']
  else if c = '\\' then ['\\', '\\']
  else if c = '"' then ['\\', '"']
  else if isEscaped c then ['\\', 'u', '\x7b'] ++ hexDigits c.toNat ++ ['\x7d']
  else [c]

/-- A string between double quotes, escaped as diagnostic text does. -/
def quoted (s : String) : String :=
  String.ofList ('"' :: s.toList.flatMap escapeQuoted ++ ['"'])

end Text

end ChannelBridge
