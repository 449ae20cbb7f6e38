import ChannelBridge.Json.Value
import ChannelBridge.Text.Quoted

/-! # Log events

Every diagnostic the bridge emits is a `LogEvent`: a level, the module path it comes from (its
target), a message and named fields. Events are data; whether one is written, and how, is decided
later by the installed log filter and format.

A field remembers how it was recorded, because the two line formats differ on it:

* a string slice is written quoted in a text line and as a JSON string;
* a value recorded through its display or debug form is written as that text, unquoted;
* unsigned integers and booleans are written as numbers and booleans.
-/

namespace ChannelBridge

/-- The level of a log event. -/
inductive LogLevel where
  | trace
  | debug
  | info
  | warn
  | error
  deriving DecidableEq, Repr

namespace LogLevel

/-- How verbose a level is: `error` is 1 and `trace` is 5. A filter set to verbosity `v` lets
through the events whose verbosity is at most `v`. -/
def verbosity : LogLevel → Nat
  | .error => 1
  | .warn => 2
  | .info => 3
  | .debug => 4
  | .trace => 5

/-- The level's name in capitals, as log lines show it. -/
def label : LogLevel → String
  | .trace => "TRACE"
  | .debug => "DEBUG"
  | .info => "INFO"
  | .warn => "WARN"
  | .error => "ERROR"

theorem verbosity_pos (l : LogLevel) : 0 < l.verbosity := by
  cases l <;> decide

theorem verbosity_le_five (l : LogLevel) : l.verbosity ≤ 5 := by
  cases l <;> decide

end LogLevel

/-- The value of a log field, with how it was recorded. -/
inductive FieldValue where
  /-- A string slice. -/
  | text (s : String)
  /-- A value recorded through its display text. -/
  | shown (s : String)
  /-- A value recorded through its debug text. -/
  | described (s : String)
  /-- An unsigned integer. -/
  | count (n : Nat)
  /-- A boolean. -/
  | flag (b : Bool)
  deriving DecidableEq, Repr

namespace FieldValue

/-- The field as a member of a JSON log line. -/
def toJson : FieldValue → Json
  | .text s => .str s
  | .shown s => .str s
  | .described s => .str s
  | .count n => Json.ofNat n
  | .flag b => .bool b

/-- The field's value in a text log line. -/
def toText : FieldValue → String
  | .text s => Text.quoted s
  | .shown s => s
  | .described s => s
  | .count n => toString n
  | .flag b => toString b

/-- An optional string in its debug form: `Some("…")` or `None`. -/
def optionalText : Option String → FieldValue
  | some s => .described ("Some(" ++ Text.quoted s ++ ")")
  | none => .described "None"

end FieldValue

/-- One diagnostic event. -/
structure LogEvent where
  level : LogLevel
  /-- The module path the event comes from. -/
  target : String
  message : String
  fields : List (String × FieldValue)
  deriving DecidableEq, Repr

namespace LogEvent

/-- The event as a JSON log line: level, then the message and the fields together. -/
def toJson (e : LogEvent) : Json :=
  Json.object [("level", .str e.level.label),
    ("fields", Json.object (("message", .str e.message) :: e.fields.map fun (k, v) => (k, v.toJson)))]

/-- The event as a text log line: level, message, then `name=value` for each field. -/
def toText (e : LogEvent) : String :=
  " ".intercalate (e.level.label :: e.message :: e.fields.map fun (k, v) => k ++ "=" ++ v.toText)

end LogEvent

end ChannelBridge
