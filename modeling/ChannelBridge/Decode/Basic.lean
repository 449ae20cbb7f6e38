import ChannelBridge.Decode.Error
import ChannelBridge.Decimal.Single

/-! # Reading typed values out of JSON

The readers here are shared by every payload schema:

* scalars: strings, unsigned 64-bit integers, single-precision numbers;
* `optional`: `null` is absence;
* `unitVariant`: a name, given as a string or as a one-member object whose value is `null`;
* `record`: a record given as an object or as an array in member order.

A record read from an object checks its known members in key order and ignores the others; only
then is the first absent required member, in declaration order, reported. Read from an array, the
items are checked in order, an absent optional member takes its default, an absent required one is a
length error, and items left over are an error of their own.
-/

namespace ChannelBridge

namespace Decode

/-- A string. -/
def string : Json → Except DecodeError String
  | .str s => .ok s
  | j => .error (.wrongType j "a string")

/-- An unsigned 64-bit integer; a negative integer is out of range, a double is of the wrong kind. -/
def u64 : Json → Except DecodeError Nat
  | .num (.nat n) => .ok n
  | .num (.neg i) => .error (.invalidValue (.signed i) "u64")
  | j => .error (.wrongType j "u64")

/-- A single-precision number: any JSON number, rounded to the nearest single. -/
def single : Json → Except DecodeError Binary32
  | .num (.nat n) => .ok (Binary32.ofNat n)
  | .num (.neg i) => .ok (Binary32.ofInt i)
  | .num (.float f) => .ok (Binary32.ofFloat f)
  | j => .error (.wrongType j "f32")

/-- An optional value: `null` is absence, anything else must read. -/
def optional {α : Type} (read : Json → Except DecodeError α) : Json → Except DecodeError (Option α)
  | .null => .ok none
  | j => some <$> read j

/-- The variant called `name` among named `variants`. -/
def variantNamed {α : Type} (variants : List (String × α)) (name : String) :
    Except DecodeError α :=
  match variants.lookup name with
  | some a => .ok a
  | none => .error (.unknownVariant name (variants.map Prod.fst))

/-- A variant without data: its name as a string, or a one-member object of its name and `null`. -/
def unitVariant {α : Type} (variants : List (String × α)) : Json → Except DecodeError α
  | .str s => variantNamed variants s
  | .obj [(k, v)] => do
    let a ← variantNamed variants k
    match v with
    | .null => pure a
    | other => .error (.wrongType other "unit")
  | .obj _ => .error (.invalidValue .map "map with a single key")
  | other => .error (.wrongType other "string or map")

/-- One member of a record schema. -/
structure Member where
  /-- The wire name. -/
  name : String
  /-- Whether the member may be absent. -/
  optional : Bool
  /-- Whether a value reads as this member. -/
  check : Json → Except DecodeError Unit

/-- A member of a record schema checked by a reader. -/
def Member.of {α : Type} (name : String) (optional : Bool) (read : Json → Except DecodeError α) :
    Member :=
  ⟨name, optional, fun j => (read j).map fun _ => ()⟩

/-- The expectation of a record read from an array: its description and its member count. -/
def withElements (what : String) (count : Nat) : String :=
  what ++ " with " ++ toString count ++ (if count = 1 then " element" else " elements")

/-- Checks the members of an object that the schema knows, in the object's key order. -/
def checkKnown (schema : List Member) : List (String × Json) → Except DecodeError Unit
  | [] => .ok ()
  | (k, v) :: rest =>
    match schema.find? (fun m => m.name == k) with
    | some m => do m.check v; checkKnown schema rest
    | none => checkKnown schema rest

/-- The first absent required member, in declaration order. -/
def checkPresent (present : List (String × Json)) : List Member → Except DecodeError Unit
  | [] => .ok ()
  | m :: rest =>
    if m.optional || (present.lookup m.name).isSome then checkPresent present rest
    else .error (.missingField m.name)

/-- Reads a record from an object: the known members, by name. -/
def recordOfObject (schema : List Member) (members : List (String × Json)) :
    Except DecodeError (List (String × Json)) := do
  checkKnown schema members
  checkPresent members schema
  pure (members.filter fun (k, _) => schema.any fun m => m.name == k)

/-- Reads a record from sequence items in member order; `index` counts the members passed and
`tooMany total taken` is the error for items left over. -/
def recordOfItems (expecting : String) (tooMany : Nat → Nat → DecodeError) :
    List Member → List Json → Nat → Except DecodeError (List (String × Json))
  | [], [], _ => .ok []
  | [], rest, index => .error (tooMany (index + rest.length) index)
  | m :: ms, v :: rest, index => do
    m.check v
    let others ← recordOfItems expecting tooMany ms rest (index + 1)
    pure ((m.name, v) :: others)
  | m :: ms, [], index =>
    if m.optional then recordOfItems expecting tooMany ms [] (index + 1)
    else .error (.invalidLength index expecting)

/-- Reads a record described as `what` from an object or an array. -/
def record (what : String) (schema : List Member) : Json → Except DecodeError (List (String × Json))
  | .obj members => recordOfObject schema members
  | .arr items =>
    recordOfItems (withElements what schema.length)
      (fun total _ => .invalidLength total "fewer elements in array") schema items 0
  | j => .error (.wrongType j what)

/-- Reads a required member from the members a record reader found. -/
def required {α : Type} (found : List (String × Json)) (name : String)
    (read : Json → Except DecodeError α) : Except DecodeError α :=
  match found.lookup name with
  | some v => read v
  | none => .error (.missingField name)

/-- Reads a member that may be absent, with its default. -/
def withDefault {α : Type} (found : List (String × Json)) (name : String)
    (read : Json → Except DecodeError α) (default : α) : Except DecodeError α :=
  match found.lookup name with
  | some v => read v
  | none => .ok default

end Decode

end ChannelBridge
