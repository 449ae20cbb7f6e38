import ChannelBridge.Json.Value
import ChannelBridge.Decimal.Shortest
import ChannelBridge.Text.Quoted
import ChannelBridge.Timestamp.Parse

/-! # Decoding errors

A decoder reads a typed value out of a JSON value. When it cannot, `DecodeError` says why, as a
cause: a value of the wrong kind, a value out of the expected range, an array of the wrong length,
an unknown variant name, a missing member, or a timestamp text that does not read. `message` gives
the words, one function for all of them.
-/

namespace ChannelBridge

/-- What a decoder found where it expected something else. -/
inductive Unexpected where
  | null
  | bool (b : Bool)
  | unsigned (n : Nat)
  | signed (i : Int)
  | float (f : Float)
  | str (s : String)
  | seq
  | map
  deriving DecidableEq

namespace Unexpected

/-- The kind of a JSON value, as a decoder reports it. -/
def ofJson : Json → Unexpected
  | .null => .null
  | .bool b => .bool b
  | .num (.nat n) => .unsigned n
  | .num (.neg i) => .signed i
  | .num (.float f) => .float f
  | .str s => .str s
  | .arr _ => .seq
  | .obj _ => .map

/-- The words for what was found. -/
def text : Unexpected → String
  | .null => "null"
  | .bool b => "boolean `" ++ toString b ++ "`"
  | .unsigned n => "integer `" ++ toString n ++ "`"
  | .signed i => "integer `" ++ toString i ++ "`"
  | .float f => "floating point `" ++ ((FloatStyle.json.render f).getD "NaN") ++ "`"
  | .str s => "string " ++ Text.quoted s
  | .seq => "sequence"
  | .map => "map"

end Unexpected

/-- Why a JSON value does not decode. -/
inductive DecodeError where
  /-- A value of another kind than `expected`. -/
  | invalidType (found : Unexpected) (expected : String)
  /-- A value of the right kind but outside what `expected` allows. -/
  | invalidValue (found : Unexpected) (expected : String)
  /-- A sequence of `length` items where `expected` says otherwise. -/
  | invalidLength (length : Nat) (expected : String)
  /-- A variant name that is none of `variants`. -/
  | unknownVariant (name : String) (variants : List String)
  /-- A required member that is absent. -/
  | missingField (name : String)
  /-- A member given twice. -/
  | duplicateField (name : String)
  /-- A timestamp text that does not read. -/
  | timestamp (problem : TimestampProblem)
  deriving DecidableEq

namespace DecodeError

/-- The list of allowed names: one name, two names joined by `or`, or `one of` and a list. -/
def oneOf : List String → String
  | [] => "nothing"
  | [a] => "`" ++ a ++ "`"
  | [a, b] => "`" ++ a ++ "` or `" ++ b ++ "`"
  | names => "one of " ++ ", ".intercalate (names.map fun n => "`" ++ n ++ "`")

/-- The words for a decoding error. -/
def message : DecodeError → String
  | .invalidType found expected => "invalid type: " ++ found.text ++ ", expected " ++ expected
  | .invalidValue found expected => "invalid value: " ++ found.text ++ ", expected " ++ expected
  | .invalidLength length expected =>
    "invalid length " ++ toString length ++ ", expected " ++ expected
  | .unknownVariant name [] => "unknown variant `" ++ name ++ "`, there are no variants"
  | .unknownVariant name variants =>
    "unknown variant `" ++ name ++ "`, expected " ++ oneOf variants
  | .missingField name => "missing field `" ++ name ++ "`"
  | .duplicateField name => "duplicate field `" ++ name ++ "`"
  | .timestamp problem => problem.text

/-- A value of the wrong kind. -/
def wrongType (j : Json) (expected : String) : DecodeError :=
  .invalidType (Unexpected.ofJson j) expected

end DecodeError

end ChannelBridge
