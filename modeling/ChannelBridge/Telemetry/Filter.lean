import ChannelBridge.Telemetry.Event
import ChannelBridge.Config
import ChannelBridge.Text.Alphanumeric
import ChannelBridge.Pattern.Check

/-! # Log filters

A log filter is written as directives separated by commas; empty pieces are skipped. A directive is
`target[span{field,…}]=level` with every part optional:

* a bare level (`info`, `OFF`, `3`) sets the level for every target;
* a bare name that is not a level is a target with every level let through;
* a level may be a name in any ASCII case, a number `0`–`5`, or empty (which means `error` after a
  target-less bare word, and `trace` after `=`).

A directive names a span, or a field with a value, only in contexts this program never creates, so
such a directive never lets an event through. The others are kept most specific first: a longer
target first, then more field names; two directives with the same target and field names keep the
later one. An event passes when the first directive that covers it (its target is a prefix of the
event's target and its field names are all fields of the event) lets its level through. With no
such directive the event is dropped.

A field value must be a boolean, a number, or a usable pattern (see `Pattern.valueProblem`);
otherwise the directive is refused with the pattern's problem.

The directive reader walks the trimmed text but cuts pieces out of the untrimmed text at the same
byte offsets, so blanks around a directive shift what it names. When such a cut falls inside a
character the program stops altogether (`DirectiveError.brokenText`).
-/

namespace ChannelBridge

/-- The most verbose level a directive lets through, or none at all. -/
inductive LevelFilter where
  | off
  | error
  | warn
  | info
  | debug
  | trace
  deriving DecidableEq, Repr

namespace LevelFilter

/-- How verbose the filter is: `off` is 0 and `trace` is 5. -/
def verbosity : LevelFilter → Nat
  | .off => 0
  | .error => 1
  | .warn => 2
  | .info => 3
  | .debug => 4
  | .trace => 5

/-- Whether the filter lets a level through. -/
def allows (f : LevelFilter) (l : LogLevel) : Bool := l.verbosity ≤ f.verbosity

/-- Reads a level filter: an unsigned number from 0 to 5, the empty text (`error`), or a level
name in any ASCII case. -/
def parse (s : String) : Option LevelFilter :=
  match BridgeConfig.parseUnsigned s with
  | some 0 => some .off
  | some 1 => some .error
  | some 2 => some .warn
  | some 3 => some .info
  | some 4 => some .debug
  | some 5 => some .trace
  | _ =>
    let t := s.toLower
    if s = "" then some .error
    else if t = "error" then some .error
    else if t = "warn" then some .warn
    else if t = "info" then some .info
    else if t = "debug" then some .debug
    else if t = "trace" then some .trace
    else if t = "off" then some .off
    else none

end LevelFilter

/-- Why a directive could not be read. -/
inductive DirectiveError where
  /-- The directive is not well formed. -/
  | invalid
  /-- The level is not a level. -/
  | level
  /-- A field value is neither a number, a boolean nor a usable pattern; the reason says why. -/
  | field (reason : String)
  /-- The reader cut the text inside a character. This is not a refusal but a fault: it stops
  the whole program. -/
  | brokenText
  deriving DecidableEq, Repr

/-- The words of a directive error. -/
def DirectiveError.message : DirectiveError → String
  | .invalid => "invalid filter directive"
  | .level =>
    "error parsing level filter: expected one of \"off\", \"error\", \"warn\", \"info\", " ++
      "\"debug\", \"trace\", or a number 0-5"
  | .field reason => "invalid field filter: " ++ reason
  | .brokenText => "byte index is not a char boundary"

/-- A field a directive asks for, with the value it must have, if any. -/
structure FieldMatch where
  name : String
  value : Option String
  deriving DecidableEq, Repr

/-- Reads a field match: the name, then after `=` the value up to any further `=`. A value that
is not a boolean or a number must be a usable pattern. -/
def FieldMatch.parse (s : String) : Except DirectiveError FieldMatch :=
  match s.splitOn "=" with
  | name :: value :: _ =>
    match Pattern.valueProblem value with
    | some p => .error (.field p.message)
    | none => .ok ⟨name, some value⟩
  | [name] => .ok ⟨name, none⟩
  | [] => .ok ⟨"", none⟩

/-- One directive of a filter. -/
structure Directive where
  level : LevelFilter
  target : Option String
  span : Option String
  fields : List FieldMatch
  deriving DecidableEq, Repr

namespace Directive

/-- Where the reader is inside a directive; the numbers are byte offsets where a piece started. -/
inductive ReadState where
  | start
  | levelOrTarget (start : Nat)
  | span (start : Nat)
  | field (start : Nat)
  | fields
  | target
  | level (start : Nat)
  | complete
  deriving DecidableEq, Repr

/-- Each character with the byte offset it starts at. -/
def withOffsets (cs : List Char) : List (Nat × Char) :=
  (cs.foldl (fun (acc, offset) c => (acc ++ [(offset, c)], offset + c.utf8Size)) ([], 0)).1

/-- The characters of `cs` from byte `a` up to byte `b`; `none` when an end falls inside a
character or past the end. -/
def sliceBytes (cs : List Char) (a b : Nat) : Option String :=
  let placed := withOffsets cs
  let total := (cs.map Char.utf8Size).foldl (· + ·) 0
  let boundary (n : Nat) : Bool := n == total || placed.any (·.1 == n)
  if boundary a && boundary b && a ≤ b then
    some (String.ofList ((placed.filter fun (o, _) => a ≤ o && o < b).map (·.2)))
  else none

/-- Whether a character may open a target: a Unicode letter or number, `-`, `:` or `_`. -/
def opensTarget (c : Char) : Bool :=
  c = '-' || c = ':' || c = '_' || Text.isAlphanumeric c

/-- The level after `=`: empty means `trace`. -/
def levelAfterEquals (s : String) : Except DirectiveError LevelFilter :=
  if s = "" then .ok .trace
  else match LevelFilter.parse s with
    | some l => .ok l
    | none => .error .level

/-- A piece of the directive text, cut at byte offsets; an offset inside a character is a fault. -/
def cut (src : List Char) (a b : Nat) : Except DirectiveError String :=
  match sliceBytes src a b with
  | some s => .ok s
  | none => .error .brokenText

/-- One step of the reader: the character `c` at byte offset `i` of the trimmed text. -/
def step (src : List Char) (d : Directive) (st : ReadState) (i : Nat) (c : Char) :
    Except DirectiveError (Directive × ReadState) :=
  match st with
  | .start =>
    if c = '[' then .ok (d, .span (i + 1))
    else if opensTarget c then .ok (d, .levelOrTarget i)
    else .error .invalid
  | .levelOrTarget s =>
    if c = '=' then do
      let t ← cut src s i
      pure ({ d with target := some t }, .level (i + 1))
    else if c = '[' then do
      let t ← cut src s i
      pure ({ d with target := some t }, .span (i + 1))
    else if c = ',' then do
      let t ← cut src s i
      match LevelFilter.parse t with
      | some l => pure ({ d with level := l }, .complete)
      | none => pure ({ d with target := some t }, .complete)
    else .ok (d, st)
  | .target => if c = '=' then .ok (d, .level (i + 1)) else .error .invalid
  | .span s =>
    if c = ']' then do
      let t ← cut src s i
      pure ({ d with span := some t }, .target)
    else if c = '{' then do
      let t ← cut src s i
      pure ({ d with span := if t = "" then none else some t }, .field (i + 1))
    else .ok (d, st)
  | .field s =>
    if c = '}' || c = ',' then do
      let t ← cut src s i
      if t = "" then throw .invalid
      let m ← FieldMatch.parse t
      let d := { d with fields := d.fields ++ [m] }
      pure (d, if c = '}' then .fields else .field (i + 1))
    else .ok (d, st)
  | .fields => if c = ']' then .ok (d, .target) else .error .invalid
  | .level s =>
    if c = ',' then do
      let t ← cut src s i
      let l ← levelAfterEquals t
      pure ({ d with level := l }, .complete)
    else .ok (d, st)
  | .complete => .error .invalid

/-- Ends the reader after the last character. -/
def finish (src : List Char) (d : Directive) : ReadState → Except DirectiveError Directive
  | .levelOrTarget s => do
    let t ← cut src s (String.ofList src).utf8ByteSize
    match LevelFilter.parse t with
    | some l => pure { d with level := l }
    | none => pure { d with target := some t }
  | .level s => do
    let t ← cut src s (String.ofList src).utf8ByteSize
    let l ← levelAfterEquals t
    pure { d with level := l }
  | .target | .complete => .ok d
  | _ => .error .invalid

/-- Runs the reader over the characters `cs` of the trimmed text, the first one at byte `i`. -/
def run (src : List Char) : List Char → Nat → Directive → ReadState →
    Except DirectiveError (Directive × ReadState)
  | [], _, d, st => .ok (d, st)
  | c :: rest, i, d, st => do
    let (d, st) ← step src d st i c
    run src rest (i + c.utf8Size) d st

/-- Reads one directive. -/
def parse (text : String) : Except DirectiveError Directive := do
  let src := text.toList
  let (d, st) ← run src (Text.trimBlank text).toList 0 ⟨.trace, none, none, []⟩ .start
  finish src d st

/-- Whether the directive can let an event through outside any span: it names no span and asks
for no field value. -/
def isStatic (d : Directive) : Bool := d.span.isNone && d.fields.all (·.value.isNone)

end Directive

/-- A directive that can let events through: a target prefix, field names and a level. -/
structure StaticDirective where
  target : Option String
  fieldNames : List String
  level : LevelFilter
  deriving DecidableEq, Repr

namespace StaticDirective

/-- Compares two optional numbers, none first. -/
def compareLength : Option Nat → Option Nat → Ordering
  | none, none => .eq
  | none, some _ => .lt
  | some _, none => .gt
  | some a, some b => compare a b

/-- Compares two optional texts, none first. -/
def compareTarget : Option String → Option String → Ordering
  | none, none => .eq
  | none, some _ => .lt
  | some _, none => .gt
  | some a, some b => compare a b

/-- Compares two lists of names lexicographically. -/
def compareNames : List String → List String → Ordering
  | [], [] => .eq
  | [], _ :: _ => .lt
  | _ :: _, [] => .gt
  | a :: as, b :: bs => (compare a b).then (compareNames as bs)

/-- How specific `a` is next to `b`: by target length, then number of field names, then by the
target and names themselves. -/
def specificity (a b : StaticDirective) : Ordering :=
  (compareLength (a.target.map String.length) (b.target.map String.length)).then
    ((compare a.fieldNames.length b.fieldNames.length).then
      ((compareTarget a.target b.target).then (compareNames a.fieldNames b.fieldNames)))

/-- Whether the directive covers an event: its target is a prefix of the event's target and each
of its field names is a field of the event. -/
def covers (d : StaticDirective) (e : LogEvent) : Bool :=
  d.fieldNames.all (fun n => n = "message" || e.fields.any (·.1 == n)) &&
    match d.target with
    | some t => e.target.startsWith t
    | none => true

end StaticDirective

/-- The static form of a directive, when it has one. -/
def Directive.toStatic (d : Directive) : Option StaticDirective :=
  if d.isStatic then some ⟨d.target, d.fields.map (·.name), d.level⟩ else none

/-- A log filter: its static directives, most specific first. -/
structure LogFilter where
  directives : List StaticDirective
  deriving DecidableEq, Repr

namespace LogFilter

/-- A filter with no directives. -/
def empty : LogFilter := ⟨[]⟩

/-- Inserts a directive before the first less specific one, replacing an equally specific one. -/
def insert (d : StaticDirective) : List StaticDirective → List StaticDirective
  | [] => [d]
  | x :: rest =>
    match d.specificity x with
    | .eq => d :: rest
    | .gt => d :: x :: rest
    | .lt => x :: insert d rest

/-- Adds a directive; one that cannot let events through changes nothing. -/
def add (f : LogFilter) (d : Directive) : LogFilter :=
  match d.toStatic with
  | some s => ⟨insert s f.directives⟩
  | none => f

/-- Whether the filter lets an event through. -/
def enables (f : LogFilter) (e : LogEvent) : Bool :=
  match f.directives.find? (·.covers e) with
  | some d => d.level.allows e.level
  | none => false

/-- The non-empty pieces of a filter text. -/
def pieces (spec : String) : List String := (spec.splitOn ",").filter (· ≠ "")

/-- The warning written for a directive that cannot be read. -/
def skipWarning (piece : String) (e : DirectiveError) : String :=
  "ignoring " ++ "\x60" ++ piece ++ "\x60" ++ ": " ++ e.message

/-- Reads directives one by one after the warnings `written`, skipping the ones that cannot be
read. -/
def readLossy : List String → LogFilter → List String → List String × Option LogFilter
  | [], f, written => (written, some f)
  | piece :: rest, f, written =>
    match Directive.parse piece with
    | .ok d => readLossy rest (f.add d) written
    | .error .brokenText => (written, none)
    | .error e => readLossy rest f (written ++ [skipWarning piece e])

/-- Reads a filter, skipping the directives that cannot be read, and returns the warning written
for each skipped one, in order. A directive whose reading cuts a character stops everything: there
is then no filter, and only the warnings written before it. -/
def lossy (spec : String) : List String × Option LogFilter := readLossy (pieces spec) empty []

/-- Reads a filter in which every directive must be readable. -/
def strict (spec : String) : Except DirectiveError LogFilter :=
  (pieces spec).foldlM (fun f piece => f.add <$> Directive.parse piece) empty

end LogFilter

end ChannelBridge
