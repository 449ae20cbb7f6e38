import ChannelBridge.Power

/-! # Kebab case

Wire names of enumerations can be derived from the identifiers of their variants. An identifier in
upper camel case is renamed to kebab case: a hyphen goes before every upper-case letter but the
first character, each letter is lowered, and an underscore becomes a hyphen. The rule is stated for
ASCII identifiers, which is what the variants here are.
-/

namespace ChannelBridge

namespace Text

/-- The characters written for the character `c` at index `i` of an identifier. -/
def kebabChar (i : Nat) (c : Char) : List Char :=
  (if 0 < i && c.isUpper then ['-'] else []) ++ [if c = '_' then '-' else c.toLower]

/-- An identifier renamed to kebab case. -/
def kebabCase (ident : String) : String :=
  String.ofList (ident.toList.zipIdx.flatMap fun (c, i) => kebabChar i c)

end Text

end ChannelBridge
