import ChannelBridge.Text.Blank
import ChannelBridge.Text.Alphanumeric

/-! # Pattern syntax

A field value in a log filter that is neither a number nor a boolean is a regular expression. This
module reads one into a tree, or says that it cannot be read. The grammar:

* a pattern is alternatives separated by `|`, each a sequence of items;
* an item is a literal, `.`, an anchor (`^`, `$`, `\A`, `\z`, the word boundaries `\b`, `\B`, `\<`,
  `\>`, `\b{start}`, `\b{end}`, `\b{start-half}`, `\b{end-half}`), an escape class (`\d`, `\s`,
  `\w`, their negations, `\p…`, `\P…`), a bracketed class, or a group;
* an item may be followed by a repetition `*`, `+`, `?`, `{m}`, `{m,}` or `{m,n}`, itself
  optionally followed by `?`;
* groups are `(…)`, `(?:…)`, `(?flags:…)`, `(?P<name>…)` and `(?<name>…)`, and `(?flags)` sets
  flags up to the end of the enclosing group;
* with the `x` flag, blanks and `#` comments between items are skipped.

Every other use of a special character is an error: a repetition with nothing to repeat, an
unopened or unclosed group or class, an unknown escape, a backreference, a look-around, an empty,
repeated or unknown flag, an empty, invalid or repeated group name, a count that does not fit 32
bits or whose bounds are reversed, a reversed class range, and so on.

The reader is a loop over the characters with a stack of open groups (and, inside a class, a stack
of open brackets and pending set operations). Each turn of a loop consumes a character, so the
length of the text bounds the turns; that bound is the fuel.
-/

namespace ChannelBridge

namespace Pattern

/-- A flag set by `(?flags)` or `(?flags:…)`. -/
inductive Flag where
  | caseInsensitive
  | multiLine
  | dotMatchesNewLine
  | swapGreed
  | unicode
  | crlf
  | ignoreWhitespace
  deriving DecidableEq, Repr

/-- One item of a flag group: a flag, or the `-` that turns off the flags after it. -/
inductive FlagItem where
  | flag (f : Flag)
  | negation
  deriving DecidableEq, Repr

/-- What the items of a flag group do to a flag: turn it on, turn it off, or nothing. -/
def flagState (items : List FlagItem) (f : Flag) : Option Bool :=
  go items true
where
  /-- Walks the items; `on` is false once the `-` has been passed. -/
  go : List FlagItem → Bool → Option Bool
    | [], _ => none
    | .negation :: rest, _ => go rest false
    | .flag g :: rest, on => if g = f then some on else go rest on

/-- A literal character. `byte` is its value when it was written as an `\x` escape below 256:
outside Unicode mode such an escape stands for a byte rather than a character. -/
structure Literal where
  char : Char
  byte : Option Nat
  deriving DecidableEq, Repr

/-- The escape classes `\d`, `\s` and `\w`. -/
inductive ShorthandKind where
  | digit
  | space
  | word
  deriving DecidableEq, Repr

/-- The zero-width assertions. -/
inductive Assertion where
  | startLine
  | endLine
  | startText
  | endText
  | wordBoundary
  | notWordBoundary
  | wordStartAngle
  | wordEndAngle
  | wordStart
  | wordEnd
  | wordStartHalf
  | wordEndHalf
  deriving DecidableEq, Repr

/-- Whether an assertion looks at word characters on either side. -/
def Assertion.isWordBoundary : Assertion → Bool
  | .startLine | .endLine | .startText | .endText => false
  | _ => true

/-- What a `\p` class names: one letter, a name, or a property and a value. -/
inductive PropertyQuery where
  | oneLetter (c : Char)
  | named (name : String)
  | byValue (name value : String)
  deriving DecidableEq, Repr

/-- The set operations of bracketed classes: `&&`, `--` and `~~`. -/
inductive SetOp where
  | intersection
  | difference
  | symmetricDifference
  deriving DecidableEq, Repr

mutual
/-- An item of a bracketed class. -/
inductive ClassItem where
  | empty
  | literal (l : Literal)
  | range (lo hi : Literal)
  | ascii (name : String) (negated : Bool)
  | property (q : PropertyQuery) (negated : Bool)
  | shorthand (k : ShorthandKind) (negated : Bool)
  | bracketed (negated : Bool) (set : ClassSet)
  | union (items : List ClassItem)

/-- The contents of a bracketed class: an item, or a set operation on two contents. -/
inductive ClassSet where
  | item (i : ClassItem)
  | op (kind : SetOp) (lhs rhs : ClassSet)
end

/-- A pattern tree. -/
inductive Ast where
  | empty
  | flags (items : List FlagItem)
  | literal (l : Literal)
  | dot
  | assertion (a : Assertion)
  | property (q : PropertyQuery) (negated : Bool)
  | shorthand (k : ShorthandKind) (negated : Bool)
  | bracketed (negated : Bool) (set : ClassSet)
  | repetition (min : Nat) (max : Option Nat) (sub : Ast)
  | group (flags : Option (List FlagItem)) (sub : Ast)
  | alternation (branches : List Ast)
  | concat (items : List Ast)

/-- A sequence of items as one tree: nothing, the single item, or their concatenation. -/
def Ast.ofItems : List Ast → Ast
  | [] => .empty
  | [a] => a
  | items => .concat items

/-- The items of a class as one item: nothing, the single item, or their union. -/
def ClassItem.ofItems : List ClassItem → ClassItem
  | [] => .empty
  | [i] => i
  | items => .union items

/-- A single element read by the escape and primitive readers. -/
inductive Primitive where
  | literal (l : Literal)
  | dot
  | assertion (a : Assertion)
  | property (q : PropertyQuery) (negated : Bool)
  | shorthand (k : ShorthandKind) (negated : Bool)

namespace Primitive

/-- The element as an item of a sequence. -/
def toAst : Primitive → Ast
  | .literal l => .literal l
  | .dot => .dot
  | .assertion a => .assertion a
  | .property q n => .property q n
  | .shorthand k n => .shorthand k n

/-- The element as an item of a class: anchors and `.` are not allowed there. -/
def toClassItem : Primitive → Option ClassItem
  | .literal l => some (.literal l)
  | .property q n => some (.property q n)
  | .shorthand k n => some (.shorthand k n)
  | _ => none

/-- The element as an end of a class range: only a literal. -/
def toLiteral : Primitive → Option Literal
  | .literal l => some l
  | _ => none

end Primitive

/-- The pattern text and the place of the reader in it. -/
structure Reader where
  text : Array Char
  pos : Nat
  /-- Whether blanks and `#` comments between items are skipped (the `x` flag). -/
  spaced : Bool
  /-- The names given to capture groups so far. -/
  names : List String

namespace Reader

/-- Whether the whole text has been read. -/
def atEnd (r : Reader) : Bool := r.text.size ≤ r.pos

/-- The character under the reader; a blank at the end. -/
def current (r : Reader) : Char := r.text.getD r.pos ' '

/-- The character after the current one. -/
def peek (r : Reader) : Option Char := r.text[r.pos + 1]?

/-- Steps over the current character. -/
def bump (r : Reader) : Reader := if r.atEnd then r else { r with pos := r.pos + 1 }

/-- The unread characters. -/
def rest (r : Reader) : List Char := r.text.toList.drop r.pos

/-- Whether the unread text starts with `s`. -/
def startsWith (r : Reader) (s : String) : Bool := s.toList.isPrefixOf r.rest

/-- Steps over `n` characters. -/
def skip (r : Reader) (n : Nat) : Reader := { r with pos := min (r.pos + n) r.text.size }

/-- Steps over the rest of a `#` comment, up to and including the end of its line. -/
def skipComment (r : Reader) : Nat → Reader
  | 0 => r
  | fuel + 1 =>
    if r.atEnd then r
    else if r.current = '\n' then r.bump
    else skipComment r.bump fuel

/-- Steps over blanks and comments, in `x` mode only. -/
def skipSpace (r : Reader) : Reader :=
  if r.spaced then go r r.text.size else r
where
  /-- Steps over blanks and comments, at most `fuel` of them. -/
  go (r : Reader) : Nat → Reader
    | 0 => r
    | fuel + 1 =>
      if r.atEnd then r
      else if Text.isBlank r.current then go r.bump fuel
      else if r.current = '#' then go (skipComment r.bump r.text.size) fuel
      else r

/-- Steps over the current character, then over blanks and comments in `x` mode. -/
def advance (r : Reader) : Reader := r.bump.skipSpace

/-- The character after the current one, past blanks and comments in `x` mode. Inside a comment
the search stops at the first character that is not blank; when nothing stops it, the answer is
the character right after the current one. -/
def peekSpace (r : Reader) : Option Char :=
  if !r.spaced then r.peek
  else if r.atEnd then none
  else
    let after := r.text.toList.drop (r.pos + 1)
    go after after false
where
  /-- Walks the characters after the current one. -/
  go (after : List Char) : List Char → Bool → Option Char
    | [], _ => after.head?
    | c :: cs, inComment =>
      if Text.isBlank c then go after cs inComment
      else if !inComment && c = '#' then go after cs true
      else if inComment && c = '\n' then go after cs false
      else some c

end Reader

/-- Reads what the parser-level steps read: a value and the reader after it, or a refusal. -/
abbrev Step (α : Type) := Except Unit (α × Reader)

/-- Refuses the pattern. -/
def refuse {α : Type} : Except Unit α := .error ()

/-- The value of a hexadecimal digit. -/
def hexValue (c : Char) : Option Nat :=
  if '0' ≤ c ∧ c ≤ '9' then some (c.toNat - '0'.toNat)
  else if 'a' ≤ c ∧ c ≤ 'f' then some (c.toNat - 'a'.toNat + 10)
  else if 'A' ≤ c ∧ c ≤ 'F' then some (c.toNat - 'A'.toNat + 10)
  else none

/-- Whether a number is a Unicode scalar value: at most `0x10FFFF` and not a surrogate. -/
def isScalar (n : Nat) : Bool := n ≤ 0x10FFFF && !(0xD800 ≤ n && n ≤ 0xDFFF)

/-- The characters that are special in patterns and may always be escaped. -/
def isMeta (c : Char) : Bool :=
  "\\.+*?()|[]\x7b\x7d^$#&-~".toList.contains c

/-- The characters that may be escaped without meaning anything more: the special ones, and ASCII
characters other than letters, digits, `<` and `>`. -/
def isEscapable (c : Char) : Bool :=
  isMeta c || (c.toNat < 128 && !c.isAlphanum && c ≠ '<' && c ≠ '>')

/-- Whether a character may stand in a capture name; the first must be a letter or `_`. -/
def isNameChar (c : Char) (first : Bool) : Bool :=
  if first then c = '_' || Text.isAlphabetic c
  else c = '_' || c = '.' || c = '[' || c = ']' || Text.isAlphanumeric c

/-- Reads a count: blanks, decimal digits (blanks between them skipped in `x` mode), blanks. There
must be a digit, and the value must fit 32 bits. -/
def decimal (r : Reader) : Step Nat :=
  let r := leading r r.text.size
  let (digits, r) := body r 0 r.text.size
  let r := trailing r r.text.size
  match digits with
  | none => refuse
  | some n => if n < 2 ^ 32 then .ok (n, r) else refuse
where
  /-- Steps over blanks before the digits. -/
  leading (r : Reader) : Nat → Reader
    | 0 => r
    | fuel + 1 => if !r.atEnd && Text.isBlank r.current then leading r.bump fuel else r
  /-- Reads the digits; `none` when there are none. -/
  body (r : Reader) (acc : Nat) : Nat → Option Nat × Reader
    | 0 => (none, r)
    | fuel + 1 =>
      if !r.atEnd && r.current.isDigit then
        let v := acc * 10 + (r.current.toNat - '0'.toNat)
        match body r.advance v fuel with
        | (none, r) => (some v, r)
        | (some w, r) => (some w, r)
      else (none, r)
  /-- Steps over blanks after the digits. -/
  trailing (r : Reader) : Nat → Reader
    | 0 => r
    | fuel + 1 => if !r.atEnd && Text.isBlank r.current then trailing r.advance fuel else r

/-- Reads a fixed number of hexadecimal digits, the first under the reader. -/
def hexDigits (r : Reader) (count : Nat) : Step Nat :=
  match go r 0 0 count with
  | .ok (v, r) => if isScalar v then .ok (v, r.advance) else refuse
  | .error e => .error e
where
  /-- Reads the digits from the `i`-th on. -/
  go (r : Reader) (i acc : Nat) : Nat → Step Nat
    | 0 => .ok (acc, r)
    | left + 1 =>
      let r := if i > 0 then r.advance else r
      if r.atEnd then refuse
      else match hexValue r.current with
        | some v => go r (i + 1) (acc * 16 + v) left
        | none => refuse

/-- Reads hexadecimal digits between braces, the `{` under the reader. -/
def hexBraced (r : Reader) : Step Nat :=
  match go r [] r.text.size with
  | .ok (digits, r) =>
    if r.atEnd then refuse
    else
      let r := r.advance
      let v := digits.foldl (fun acc d => acc * 16 + d) 0
      if digits.isEmpty || !isScalar v then refuse else .ok (v, r)
  | .error e => .error e
where
  /-- Reads digits up to the closing brace or the end. -/
  go (r : Reader) (acc : List Nat) : Nat → Step (List Nat)
    | 0 => .ok (acc, r)
    | fuel + 1 =>
      let r := r.advance
      if r.atEnd || r.current = '}' then .ok (acc, r)
      else match hexValue r.current with
        | some v => go r (acc ++ [v]) fuel
        | none => refuse

/-- Reads a hexadecimal escape after its backslash, with `x`, `u` or `U` under the reader: two,
four or eight digits, or any number between braces. -/
def hexEscape (r : Reader) : Step Literal :=
  let kind := r.current
  let r := r.advance
  if r.atEnd then refuse
  else
    let read := if r.current = '{' then hexBraced r
      else hexDigits r (if kind = 'x' then 2 else if kind = 'u' then 4 else 8)
    match read with
    | .ok (v, r) =>
      .ok (⟨Char.ofNat v, if kind = 'x' && v < 256 then some v else none⟩, r)
    | .error e => .error e

/-- Splits a property text at the first `!=`, `:` or `=`, in that order of preference. -/
def propertyQuery (text : String) : PropertyQuery × Bool :=
  match text.splitOn "!=" with
  | name :: value :: more => (.byValue name ("!=".intercalate (value :: more)), true)
  | _ =>
    match text.splitOn ":" with
    | name :: value :: more => (.byValue name (":".intercalate (value :: more)), false)
    | _ =>
      match text.splitOn "=" with
      | name :: value :: more => (.byValue name ("=".intercalate (value :: more)), false)
      | _ => (.named text, false)

/-- Reads a property class after its backslash, with `p` or `P` under the reader: one letter, or a
text between braces. `\P` and `!=` each negate. -/
def propertyEscape (r : Reader) : Step Primitive :=
  let negated := r.current = 'P'
  let r := r.advance
  if r.atEnd then refuse
  else if r.current = '{' then
    let (text, r) := go r [] r.text.size
    if r.atEnd then refuse
    else
      let (q, flip) := propertyQuery (String.ofList text)
      .ok (.property q (negated != flip), r.bump)
  else if r.current = '\\' then refuse
  else .ok (.property (.oneLetter r.current) negated, r.advance)
where
  /-- Collects the characters up to the closing brace or the end. -/
  go (r : Reader) (acc : List Char) : Nat → List Char × Reader
    | 0 => (acc, r)
    | fuel + 1 =>
      let r := r.advance
      if r.atEnd || r.current = '}' then (acc, r) else go r (acc ++ [r.current]) fuel

/-- After `\b`, reads `{start}`, `{end}`, `{start-half}` or `{end-half}` when the brace opens one:
`none` (and the reader left on the brace) when the brace opens a count instead. -/
def specialBoundary (r : Reader) : Except Unit (Option (Assertion × Reader)) :=
  let r1 := r.advance
  if r1.atEnd then refuse
  else if !isWordChar r1.current then .ok none
  else
    let (name, r2) := go r1 [] r.text.size
    if r2.atEnd || r2.current ≠ '}' then refuse
    else
      let r3 := r2.bump
      match String.ofList name with
      | "start" => .ok (some (.wordStart, r3))
      | "end" => .ok (some (.wordEnd, r3))
      | "start-half" => .ok (some (.wordStartHalf, r3))
      | "end-half" => .ok (some (.wordEndHalf, r3))
      | _ => refuse
where
  /-- The characters such a name is made of. -/
  isWordChar (c : Char) : Bool := ('a' ≤ c && c ≤ 'z') || ('A' ≤ c && c ≤ 'Z') || c = '-'
  /-- Collects the name. -/
  go (r : Reader) (acc : List Char) : Nat → List Char × Reader
    | 0 => (acc, r)
    | fuel + 1 =>
      if !r.atEnd && isWordChar r.current then go r.advance (acc ++ [r.current]) fuel
      else (acc, r)

/-- Reads an escape, the backslash under the reader. -/
def escape (r : Reader) : Step Primitive :=
  let r := r.bump
  if r.atEnd then refuse
  else
    let c := r.current
    if c.isDigit then refuse
    else if c = 'x' || c = 'u' || c = 'U' then
      match hexEscape r with
      | .ok (l, r) => .ok (.literal l, r)
      | .error e => .error e
    else if c = 'p' || c = 'P' then propertyEscape r
    else if c = 'd' then .ok (.shorthand .digit false, r.bump)
    else if c = 'D' then .ok (.shorthand .digit true, r.bump)
    else if c = 's' then .ok (.shorthand .space false, r.bump)
    else if c = 'S' then .ok (.shorthand .space true, r.bump)
    else if c = 'w' then .ok (.shorthand .word false, r.bump)
    else if c = 'W' then .ok (.shorthand .word true, r.bump)
    else
      let r := r.bump
      let literal (ch : Char) : Step Primitive := .ok (.literal ⟨ch, none⟩, r)
      if isEscapable c then literal c
      else if c = 'a' then literal '\x07'
      else if c = 'f' then literal '\x0C'
      else if c = 't' then literal '\t'
      else if c = 'n' then literal '\n'
      else if c = 'r' then literal '\r'
      else if c = 'v' then literal '\x0B'
      else if c = 'A' then .ok (.assertion .startText, r)
      else if c = 'z' then .ok (.assertion .endText, r)
      else if c = 'B' then .ok (.assertion .notWordBoundary, r)
      else if c = '<' then .ok (.assertion .wordStartAngle, r)
      else if c = '>' then .ok (.assertion .wordEndAngle, r)
      else if c = 'b' then
        if !r.atEnd && r.current = '{' then
          match specialBoundary r with
          | .ok (some (a, r)) => .ok (.assertion a, r)
          | .ok none => .ok (.assertion .wordBoundary, r)
          | .error e => .error e
        else .ok (.assertion .wordBoundary, r)
      else refuse

/-- Reads one element outside a class: an escape, `.`, `^`, `$` or a literal character. -/
def primitive (r : Reader) : Step Primitive :=
  match r.current with
  | '\\' => escape r
  | '.' => .ok (.dot, r.bump)
  | '^' => .ok (.assertion .startLine, r.bump)
  | '$' => .ok (.assertion .endLine, r.bump)
  | c => .ok (.literal ⟨c, none⟩, r.bump)

/-- The names of the ASCII classes `[:name:]`. -/
def asciiClassNames : List String :=
  ["alnum", "alpha", "ascii", "blank", "cntrl", "digit", "graph", "lower", "print", "punct",
    "space", "upper", "word", "xdigit"]

/-- Reads `[:name:]` or `[:^name:]` inside a class, the `[` under the reader; `none` when the text
there is not one, and the bracket then opens a nested class. -/
def asciiClass (r : Reader) : Option (ClassItem × Reader) :=
  let r1 := r.bump
  if r1.atEnd || r1.current ≠ ':' then none
  else
    let r2 := r1.bump
    if r2.atEnd then none
    else
      let (negated, r3) := if r2.current = '^' then (true, r2.bump) else (false, r2)
      if r3.atEnd then none
      else
        let name := (r3.rest.takeWhile (· ≠ ':'))
        let r4 := r3.skip name.length
        if r4.atEnd || !r4.startsWith ":]" then none
        else if asciiClassNames.contains (String.ofList name) then
          some (.ascii (String.ofList name) negated, r4.skip 2)
        else none

/-- Reads the start of a bracketed class, the `[` under the reader: an optional `^`, then leading
`-`s, or a leading `]`, which are literal there. -/
def classOpen (r : Reader) : Except Unit (Bool × List ClassItem × Reader) :=
  let r := r.advance
  if r.atEnd then refuse
  else
    let opened : Except Unit (Bool × Reader) :=
      if r.current = '^' then
        let r := r.advance
        if r.atEnd then refuse else .ok (true, r)
      else .ok (false, r)
    match opened with
    | .error e => .error e
    | .ok (negated, r) =>
      match dashes r [] r.text.size with
      | .error e => .error e
      | .ok (items, r) =>
        if items.isEmpty && r.current = ']' then
          let r := r.advance
          if r.atEnd then refuse else .ok (negated, [.literal ⟨']', none⟩], r)
        else .ok (negated, items, r)
where
  /-- Reads leading `-`s as literals. -/
  dashes (r : Reader) (acc : List ClassItem) : Nat → Except Unit (List ClassItem × Reader)
    | 0 => .ok (acc, r)
    | fuel + 1 =>
      if r.current = '-' then
        let r := r.advance
        if r.atEnd then refuse else dashes r (acc ++ [.literal ⟨'-', none⟩]) fuel
      else .ok (acc, r)

/-- Reads one element inside a class: an escape or a literal character. -/
def classPrimitive (r : Reader) : Step Primitive :=
  if r.current = '\\' then escape r else .ok (.literal ⟨r.current, none⟩, r.bump)

/-- Reads a class item or a range `a-b`. A `-` before `]` or before another `-` is not a range. -/
def classRange (r : Reader) : Step ClassItem :=
  match classPrimitive r with
  | .error e => .error e
  | .ok (p1, r) =>
    let r := r.skipSpace
    if r.atEnd then refuse
    else if r.current ≠ '-' || r.peekSpace = some ']' || r.peekSpace = some '-' then
      match p1.toClassItem with
      | some i => .ok (i, r)
      | none => refuse
    else
      let r := r.advance
      if r.atEnd then refuse
      else
        match classPrimitive r with
        | .error e => .error e
        | .ok (p2, r) =>
          match p1.toLiteral, p2.toLiteral with
          | some lo, some hi => if hi.char < lo.char then refuse else .ok (.range lo hi, r)
          | _, _ => refuse

/-- A frame of the class reader: an open bracket with the items read before it, or a pending set
operation with its left side. -/
inductive ClassFrame where
  | opened (before : List ClassItem) (negated : Bool)
  | pending (kind : SetOp) (lhs : ClassSet)

/-- Combines `rhs` with the pending set operation on top of the stack, if there is one. -/
def combinePending (stack : List ClassFrame) (rhs : ClassSet) : ClassSet × List ClassFrame :=
  match stack with
  | .pending kind lhs :: rest => (.op kind lhs rhs, rest)
  | _ => (rhs, stack)

/-- The class reader: `items` are the items of the innermost open bracket so far. It ends at the
`]` that closes the outermost bracket, with that class's negation and contents. -/
def classLoop (r : Reader) (items : List ClassItem) (stack : List ClassFrame) :
    Nat → Step (Bool × ClassSet)
  | 0 => refuse
  | fuel + 1 =>
    let r := r.skipSpace
    if r.atEnd then refuse
    else
      let c := r.current
      let operation : Option SetOp :=
        if c = '&' && r.peek = some '&' then some .intersection
        else if c = '-' && r.peek = some '-' then some .difference
        else if c = '~' && r.peek = some '~' then some .symmetricDifference
        else none
      if c = '[' then
        match (if stack.isEmpty then none else asciiClass r) with
        | some (item, r) => classLoop r (items ++ [item]) stack fuel
        | none =>
          match classOpen r with
          | .ok (negated, nested, r) => classLoop r nested (.opened items negated :: stack) fuel
          | .error e => .error e
      else if c = ']' then
        let (set, stack) := combinePending stack (.item (ClassItem.ofItems items))
        match stack with
        | .opened before negated :: rest =>
          let r := r.bump
          if rest.isEmpty then .ok ((negated, set), r)
          else classLoop r (before ++ [.bracketed negated set]) rest fuel
        | _ => refuse
      else
        match operation with
        | some kind =>
          let (lhs, stack) := combinePending stack (.item (ClassItem.ofItems items))
          classLoop (r.skip 2) [] (.pending kind lhs :: stack) fuel
        | none =>
          match classRange r with
          | .ok (item, r) => classLoop r (items ++ [item]) stack fuel
          | .error e => .error e

/-- Reads a capture name up to its `>`, which is stepped over. -/
def captureName (r : Reader) : Step String :=
  if r.atEnd then refuse
  else
    let start := r.pos
    match go r true r.text.size with
    | .error e => .error e
    | .ok r =>
      if r.atEnd then refuse
      else
        let name := String.ofList ((r.text.toList.drop start).take (r.pos - start))
        if name = "" || r.names.contains name then refuse
        else .ok (name, { r.bump with names := name :: r.names })
where
  /-- Steps over name characters up to `>` or the end. -/
  go (r : Reader) (first : Bool) : Nat → Except Unit Reader
    | 0 => .ok r
    | fuel + 1 =>
      if r.current = '>' then .ok r
      else if !isNameChar r.current first then refuse
      else
        let r := r.bump
        if r.atEnd then .ok r else go r false fuel

/-- The flag a letter names. -/
def flagOf : Char → Option Flag
  | 'i' => some .caseInsensitive
  | 'm' => some .multiLine
  | 's' => some .dotMatchesNewLine
  | 'U' => some .swapGreed
  | 'u' => some .unicode
  | 'R' => some .crlf
  | 'x' => some .ignoreWhitespace
  | _ => none

/-- Reads the items of a flag group up to its `:` or `)`, which is left under the reader. A flag
or a `-` may appear once, and a `-` may not come last. -/
def flagItems (r : Reader) (items : List FlagItem) (lastNegation : Bool) :
    Nat → Step (List FlagItem)
  | 0 => refuse
  | fuel + 1 =>
    let c := r.current
    if c = ':' || c = ')' then
      if lastNegation then refuse else .ok (items, r)
    else
      let item : Option FlagItem :=
        if c = '-' then (if items.contains .negation then none else some .negation)
        else match flagOf c with
          | some f => if items.contains (.flag f) then none else some (.flag f)
          | none => none
      match item with
      | none => refuse
      | some item =>
        let r := r.bump
        if r.atEnd then refuse else flagItems r (items ++ [item]) (c = '-') fuel

/-- A frame of the main reader: an open group with the items read before it, its flags and the
`x` mode outside it, or the alternatives read so far in the innermost group. -/
inductive Frame where
  | group (before : List Ast) (flags : Option (List FlagItem)) (spaced : Bool)
  | alternation (branches : List Ast)

/-- Takes the last item of a sequence for a repetition; there must be one, and not a flag group. -/
def repeatable (items : List Ast) : Option (List Ast × Ast) :=
  match items.getLast? with
  | none => none
  | some (.flags _) => none
  | some .empty => none
  | some last => some (items.dropLast, last)

/-- Reads a count `{m}`, `{m,}` or `{m,n}` with an optional `?`, the `{` under the reader; gives
the bounds. -/
def countedBounds (r : Reader) : Step (Nat × Option Nat) :=
  let r := r.advance
  if r.atEnd then refuse
  else
    match decimal r with
    | .error e => .error e
    | .ok (lo, r) =>
      if r.atEnd then refuse
      else
        let upper : Except Unit (Option (Option Nat) × Reader) :=
          if r.current = ',' then
            let r := r.advance
            if r.atEnd then refuse
            else if r.current ≠ '}' then
              match decimal r with
              | .ok (hi, r) => .ok (some (some hi), r)
              | .error e => .error e
            else .ok (some none, r)
          else .ok (none, r)
        match upper with
        | .error e => .error e
        | .ok (hi, r) =>
          if r.atEnd || r.current ≠ '}' then refuse
          else
            let r := r.advance
            let r := if !r.atEnd && r.current = '?' then r.advance else r
            match hi with
            | none => .ok ((lo, some lo), r)
            | some none => .ok ((lo, none), r)
            | some (some h) => if h < lo then refuse else .ok ((lo, some h), r)

/-- The main reader: `items` are the items of the innermost open group so far. -/
def mainLoop (r : Reader) (items : List Ast) (stack : List Frame) : Nat → Except Unit Ast
  | 0 => refuse
  | fuel + 1 =>
    let r := r.skipSpace
    if r.atEnd then
      match stack with
      | [] => .ok (Ast.ofItems items)
      | [.alternation branches] => .ok (.alternation (branches ++ [Ast.ofItems items]))
      | _ => refuse
    else
      let c := r.current
      if c = '(' then
        let r := r.advance
        if r.startsWith "?=" || r.startsWith "?!" || r.startsWith "?<=" || r.startsWith "?<!" then
          refuse
        else if r.startsWith "?P<" || r.startsWith "?<" then
          match captureName (r.skip (if r.startsWith "?P<" then 3 else 2)) with
          | .ok (_, r') => mainLoop r' [] (.group items none r.spaced :: stack) fuel
          | .error e => .error e
        else if r.startsWith "?" then
          let r := r.skip 1
          if r.atEnd then refuse
          else
            match flagItems r [] false r.text.size with
            | .error e => .error e
            | .ok (flags, r) =>
              let closing := r.current
              let r := r.bump
              let spaced := (flagState flags .ignoreWhitespace).getD r.spaced
              if closing = ')' then
                if flags.isEmpty then refuse
                else mainLoop { r with spaced } (items ++ [.flags flags]) stack fuel
              else mainLoop { r with spaced } [] (.group items (some flags) r.spaced :: stack) fuel
        else mainLoop r [] (.group items none r.spaced :: stack) fuel
      else if c = ')' then
        match stack with
        | .group before flags spaced :: rest =>
          mainLoop { r.bump with spaced } (before ++ [.group flags (Ast.ofItems items)]) rest fuel
        | .alternation branches :: .group before flags spaced :: rest =>
          let sub := Ast.alternation (branches ++ [Ast.ofItems items])
          mainLoop { r.bump with spaced } (before ++ [.group flags sub]) rest fuel
        | _ => refuse
      else if c = '|' then
        let branch := Ast.ofItems items
        let stack := match stack with
          | .alternation branches :: rest => .alternation (branches ++ [branch]) :: rest
          | _ => .alternation [branch] :: stack
        mainLoop r.bump [] stack fuel
      else if c = '[' then
        match classLoop r [] [] r.text.size with
        | .ok ((negated, set), r) => mainLoop r (items ++ [.bracketed negated set]) stack fuel
        | .error e => .error e
      else if c = '?' || c = '*' || c = '+' then
        match repeatable items with
        | none => refuse
        | some (before, last) =>
          let r := r.bump
          let r := if !r.atEnd && r.current = '?' then r.bump else r
          let (lo, hi) := if c = '?' then (0, some 1) else if c = '*' then (0, none) else (1, none)
          mainLoop r (before ++ [.repetition lo hi last]) stack fuel
      else if c = '{' then
        match repeatable items with
        | none => refuse
        | some (before, last) =>
          match countedBounds r with
          | .ok ((lo, hi), r) => mainLoop r (before ++ [.repetition lo hi last]) stack fuel
          | .error e => .error e
      else
        match primitive r with
        | .ok (p, r) => mainLoop r (items ++ [p.toAst]) stack fuel
        | .error e => .error e

/-- Reads a pattern, in Unicode mode and without `x` mode; `none` when it cannot be read. -/
def parse (text : String) : Option Ast :=
  let chars := text.toList.toArray
  match mainLoop ⟨chars, 0, false, []⟩ [] [] (chars.size + 1) with
  | .ok ast => some ast
  | .error _ => none

end Pattern

end ChannelBridge
