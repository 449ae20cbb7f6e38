import ChannelBridge.Power

/-! # Blank characters

The characters of the Unicode `White_Space` property, and trimming them from both ends of a
string. Configuration values and log-format names are trimmed this way, so an ideographic space
(U+3000) around a value is dropped while a zero-width space (U+200B) is kept.
-/

namespace ChannelBridge

namespace Text

/-- The Unicode `White_Space` characters. -/
def isBlank (c : Char) : Bool :=
  let n := c.toNat
  (0x09 ≤ n && n ≤ 0x0D) || n == 0x20 || n == 0x85 || n == 0xA0 || n == 0x1680 ||
    (0x2000 ≤ n && n ≤ 0x200A) || n == 0x2028 || n == 0x2029 || n == 0x202F || n == 0x205F ||
    n == 0x3000

/-- Drops blank characters from both ends. -/
def trimBlank (s : String) : String :=
  String.ofList ((s.toList.dropWhile isBlank).reverse.dropWhile isBlank).reverse

/-- Every character that core counts as whitespace is blank. -/
theorem isBlank_of_isWhitespace (c : Char) (h : c.isWhitespace = true) : isBlank c = true := by
  -- core's whitespace is four characters: space, tab, carriage return and line feed
  have hc : c = ' ' ∨ c = '\t' ∨ c = '\r' ∨ c = '\n' := by
    simpa only [Char.isWhitespace, Bool.or_eq_true, decide_eq_true_eq, or_assoc] using h
  rcases hc with rfl | rfl | rfl | rfl <;> decide

end Text

end ChannelBridge
