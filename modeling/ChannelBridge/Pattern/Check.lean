import ChannelBridge.Pattern.Syntax

/-! # Usable patterns

A pattern that reads may still not be usable as a field value matcher. The matcher is an automaton
over the bytes of UTF-8 text, built in three stages, and each may refuse:

* the tree is resolved into sets of characters and bytes. The automaton is built without any
  Unicode tables, so everything that needs one is refused: `\p` and `\P` classes of any name, the
  escape classes `\d`, `\s`, `\w` (and their negations) in Unicode mode, and in Unicode mode with
  case-insensitive matching every literal and every bracketed class that names a character, since
  those would need case folding (a class built only from empty operands of set operations, such
  as `[&&]` or `[^[&&]]`, stands for no character or for all of them, and needs none). Outside Unicode mode (`(?-u)`) nothing may match a byte that cannot appear in UTF-8
  text, so `.`, negated classes and escape classes, escapes `\x80`–`\xFF` and non-ASCII class
  members are refused there;
* nesting deeper than 250 groups, repetitions, alternations, sequences and classes is refused;
* the automaton cannot decide Unicode word boundaries (`\b`, `\B`, `\<`, `\>` and `\b{…}` in
  Unicode mode), unless they sit under a repetition `{0}`, which drops them.

The first two give the words `error building NFA`; the last has its own message.
-/

namespace ChannelBridge

namespace Pattern

/-- Why a pattern cannot serve as a matcher. -/
inductive Problem where
  /-- It does not read, or does not resolve into sets. -/
  | unbuildable
  /-- It asks the automaton for Unicode word boundaries. -/
  | unicodeWordBoundary
  deriving DecidableEq, Repr

/-- The words for a problem. -/
def Problem.message : Problem → String
  | .unbuildable => "error building NFA"
  | .unicodeWordBoundary =>
    "unsupported regex feature for DFAs: cannot build DFAs for regexes with Unicode word " ++
      "boundaries; switch to ASCII word boundaries, or heuristically enable Unicode word " ++
      "boundaries or use a different regex engine"

/-- The greatest nesting a pattern may have. -/
def nestLimit : Nat := 250

mutual
/-- How deeply a class item nests: brackets and unions count. -/
def ClassItem.depth : ClassItem → Nat
  | .bracketed _ set => 1 + set.depth
  | .union items => 1 + ClassItem.depthList items
  | _ => 0

/-- The deepest nesting among class items. -/
def ClassItem.depthList : List ClassItem → Nat
  | [] => 0
  | i :: rest => max i.depth (ClassItem.depthList rest)

/-- How deeply class contents nest: set operations count. -/
def ClassSet.depth : ClassSet → Nat
  | .item i => i.depth
  | .op _ lhs rhs => 1 + max lhs.depth rhs.depth
end

mutual
/-- How deeply a pattern nests: repetitions, groups, alternations, sequences and classes count. -/
def Ast.depth : Ast → Nat
  | .repetition _ _ sub => 1 + sub.depth
  | .group _ sub => 1 + sub.depth
  | .alternation branches => 1 + Ast.depthList branches
  | .concat items => 1 + Ast.depthList items
  | .bracketed _ set => 1 + set.depth
  | _ => 0

/-- The deepest nesting among patterns. -/
def Ast.depthList : List Ast → Nat
  | [] => 0
  | a :: rest => max a.depth (Ast.depthList rest)
end

/-- The two flags that decide whether a piece resolves: Unicode mode, and case-insensitive
matching. A pattern starts in Unicode mode with case-sensitive matching. -/
structure Modes where
  unicode : Bool
  caseInsensitive : Bool
  deriving DecidableEq, Repr

namespace Modes

/-- The modes a pattern starts in. -/
def initial : Modes := ⟨true, false⟩

/-- The modes after a flag group: a flag the group names is turned on or off as it says, a flag it
does not name keeps its state. -/
def after (m : Modes) (items : List FlagItem) : Modes :=
  ⟨(flagState items .unicode).getD m.unicode,
    (flagState items .caseInsensitive).getD m.caseInsensitive⟩

/-- Whether case folding is asked for where it would need Unicode tables. -/
def folds (m : Modes) : Bool := m.unicode && m.caseInsensitive

end Modes

/-- Whether a literal may stand in a class: in Unicode mode always, otherwise only as ASCII. -/
def classLiteralFits (unicode : Bool) (l : Literal) : Bool :=
  unicode || (match l.byte with
    | some b => b < 128
    | none => l.char.toNat < 128)

/-- Whether an escape class resolves: only outside Unicode mode, where it is an ASCII set, and
then only when it is not negated (the negation would match bytes beyond ASCII). -/
def shorthandFits (unicode negated : Bool) : Bool := !unicode && !negated

mutual
/-- Whether a class item resolves: `unicode` says whether Unicode mode is on. -/
def ClassItem.resolves (unicode : Bool) : ClassItem → Bool
  | .empty => true
  | .literal l => classLiteralFits unicode l
  | .range lo hi => classLiteralFits unicode lo && classLiteralFits unicode hi
  | .ascii _ negated => unicode || !negated
  | .property _ _ => false
  | .shorthand _ negated => shorthandFits unicode negated
  | .bracketed negated set => (unicode || !negated) && set.resolves unicode
  | .union items => ClassItem.resolvesAll unicode items

/-- Whether all class items resolve. -/
def ClassItem.resolvesAll (unicode : Bool) : List ClassItem → Bool
  | [] => true
  | i :: rest => i.resolves unicode && ClassItem.resolvesAll unicode rest

/-- Whether class contents resolve. -/
def ClassSet.resolves (unicode : Bool) : ClassSet → Bool
  | .item i => i.resolves unicode
  | .op _ lhs rhs => lhs.resolves unicode && rhs.resolves unicode
end

mutual
/-- Whether a class item names a character: a literal, a range or a named class, directly or
inside a nested class. -/
def ClassItem.namesCharacters : ClassItem → Bool
  | .empty => false
  | .bracketed _ set => set.namesCharacters
  | .union items => ClassItem.anyNamesCharacters items
  | _ => true

/-- Whether one of the class items names a character. -/
def ClassItem.anyNamesCharacters : List ClassItem → Bool
  | [] => false
  | i :: rest => i.namesCharacters || ClassItem.anyNamesCharacters rest

/-- Whether class contents name a character. -/
def ClassSet.namesCharacters : ClassSet → Bool
  | .item i => i.namesCharacters
  | .op _ lhs rhs => lhs.namesCharacters || rhs.namesCharacters
end

/-- Whether a bracketed class resolves under the given modes. Outside Unicode mode a negated class
would match bytes beyond ASCII; with case folding asked for, a class may not name a character. -/
def classFits (m : Modes) (negated : Bool) (set : ClassSet) : Bool :=
  (m.unicode || !negated) && set.resolves m.unicode && !(m.folds && set.namesCharacters)

/-- What resolving part of a pattern tells: the modes after it (flag groups change them for the
rest of their group), and whether it keeps a Unicode word boundary. -/
structure Resolution where
  modes : Modes
  wordBoundary : Bool

mutual
/-- Resolves a pattern under the given modes; `none` when it does not resolve. -/
def Ast.resolve (m : Modes) : Ast → Option Resolution
  | .empty => some ⟨m, false⟩
  | .dot => if m.unicode then some ⟨m, false⟩ else none
  | .flags items => some ⟨m.after items, false⟩
  | .literal l =>
    if m.folds || (!m.unicode && (l.byte.getD 0) ≥ 128) then none else some ⟨m, false⟩
  | .assertion a => some ⟨m, m.unicode && a.isWordBoundary⟩
  | .property _ _ => none
  | .shorthand _ negated => if shorthandFits m.unicode negated then some ⟨m, false⟩ else none
  | .bracketed negated set => if classFits m negated set then some ⟨m, false⟩ else none
  | .repetition _ max sub =>
    (sub.resolve m).map fun t => ⟨m, t.wordBoundary && max ≠ some 0⟩
  | .group items sub =>
    (sub.resolve ((items.map m.after).getD m)).map fun t => ⟨m, t.wordBoundary⟩
  | .alternation branches => Ast.resolveAll m branches
  | .concat items => Ast.resolveAll m items

/-- Resolves patterns in order, the flags of each carrying over to the next. -/
def Ast.resolveAll (m : Modes) : List Ast → Option Resolution
  | [] => some ⟨m, false⟩
  | a :: rest =>
    match a.resolve m with
    | none => none
    | some t =>
      (Ast.resolveAll t.modes rest).map fun u => ⟨u.modes, t.wordBoundary || u.wordBoundary⟩
end

/-- A `\p` class never resolves: there are no tables to look its name up in. -/
theorem resolve_property (m : Modes) (q : PropertyQuery) (negated : Bool) :
    (Ast.property q negated).resolve m = none := by
  simp [Ast.resolve]

/-- In Unicode mode an escape class never resolves. -/
theorem resolve_shorthand_unicode (m : Modes) (h : m.unicode = true) (k : ShorthandKind)
    (negated : Bool) : (Ast.shorthand k negated).resolve m = none := by
  simp [Ast.resolve, shorthandFits, h]

/-- With case folding asked for in Unicode mode, no literal resolves. -/
theorem resolve_literal_folds (m : Modes) (h : m.folds = true) (l : Literal) :
    (Ast.literal l).resolve m = none := by
  simp [Ast.resolve, h]

/-- Whether a text reads as a floating-point number: an optional sign, then `inf`, `infinity` or
`nan` in any case, or digits with an optional point and fraction, at least one digit in all, and
an optional exponent `e` or `E` with an optional sign and at least one digit. Integers and the
booleans aside, these are the field values that are not patterns. -/
def isNumberText (s : String) : Bool :=
  let cs := match s.toList with
    | '+' :: rest | '-' :: rest => rest
    | cs => cs
  let word := String.ofList (cs.map Char.toLower)
  if word = "inf" || word = "infinity" || word = "nan" then true
  else
    let whole := cs.takeWhile Char.isDigit
    let cs := cs.drop whole.length
    let (fraction, cs) := match cs with
      | '.' :: rest => (rest.takeWhile Char.isDigit, rest.drop (rest.takeWhile Char.isDigit).length)
      | _ => ([], cs)
    let mantissa := !(whole.isEmpty && fraction.isEmpty)
    let exponentOk := match cs with
      | [] => true
      | e :: rest =>
        (e = 'e' || e = 'E') &&
          (let digits := match rest with
            | '+' :: ds | '-' :: ds => ds
            | ds => ds
          !digits.isEmpty && digits.all Char.isDigit)
    mantissa && exponentOk

/-- Why a pattern text cannot serve as a matcher, if it cannot. -/
def problem (text : String) : Option Problem :=
  match parse text with
  | none => some .unbuildable
  | some ast =>
    if nestLimit < ast.depth then some .unbuildable
    else
      match ast.resolve Modes.initial with
      | none => some .unbuildable
      | some t => if t.wordBoundary then some .unicodeWordBoundary else none

/-- Why a field value cannot be used, if it cannot: a boolean or a number is always fine, and
anything else must be a usable pattern. -/
def valueProblem (value : String) : Option Problem :=
  if value = "true" || value = "false" || isNumberText value then none else problem value

end Pattern

end ChannelBridge
