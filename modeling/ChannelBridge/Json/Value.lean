import ChannelBridge.Power

/-! # JSON values

Payloads travel as JSON values. A number remembers how the wire reader classified it: a
non-negative integer that fits 64 bits, a negative integer that fits 64 signed bits, or a double for
everything else. Objects keep their members sorted by key, with each key once, so that two objects
with the same members are the same value and members are visited in key order.
-/

namespace ChannelBridge

/-- A JSON number as read from text. -/
inductive JsonNumber where
  /-- A non-negative integer below `2^64`. -/
  | nat (n : Nat)
  /-- A negative integer not below `-2^63`. -/
  | neg (i : Int)
  /-- Any other number, as a double. -/
  | float (f : Float)
  deriving DecidableEq, Inhabited

/-- A JSON value. Object members are sorted by key and keys are distinct. -/
inductive Json where
  | null
  | bool (b : Bool)
  | num (n : JsonNumber)
  | str (s : String)
  | arr (items : List Json)
  | obj (members : List (String × Json))
  deriving Inhabited

namespace Json

mutual
/-- Structural equality of JSON values. -/
def beq : Json → Json → Bool
  | .null, .null => true
  | .bool a, .bool b => a == b
  | .num a, .num b => decide (a = b)
  | .str a, .str b => a == b
  | .arr a, .arr b => beqList a b
  | .obj a, .obj b => beqMembers a b
  | _, _ => false

/-- Pointwise equality of two item lists. -/
def beqList : List Json → List Json → Bool
  | [], [] => true
  | a :: as, b :: bs => beq a b && beqList as bs
  | _, _ => false

/-- Pointwise equality of two member lists. -/
def beqMembers : List (String × Json) → List (String × Json) → Bool
  | [], [] => true
  | (k, a) :: as, (l, b) :: bs => k == l && beq a b && beqMembers as bs
  | _, _ => false
end

instance : BEq Json := ⟨beq⟩

/-- A natural-number value. -/
def ofNat (n : Nat) : Json := .num (.nat n)

/-- A double value; JSON has no text for a NaN or an infinity, so those become `null`. -/
def ofFloat (f : Float) : Json :=
  if f.isFinite then .num (.float f) else .null

/-- Inserts a member into a sorted member list, replacing an equal key. -/
def insertMember (k : String) (v : Json) : List (String × Json) → List (String × Json)
  | [] => [(k, v)]
  | (k', v') :: rest =>
    if k < k' then (k, v) :: (k', v') :: rest
    else if k = k' then (k, v) :: rest
    else (k', v') :: insertMember k v rest

/-- An object from members in any order; a later member wins over an earlier one with its key. -/
def object (members : List (String × Json)) : Json :=
  .obj (members.foldl (fun acc (k, v) => insertMember k v acc) [])

/-- The value of a member, if the value is an object that has it. -/
def get? (j : Json) (key : String) : Option Json :=
  match j with
  | .obj members => members.lookup key
  | _ => none

/-- The value of a member, with a missing member read as `null`. -/
def field (j : Json) (key : String) : Json := (j.get? key).getD .null

/-- The string, if the value is one. -/
def str? : Json → Option String
  | .str s => some s
  | _ => none

/-- The array items, if the value is an array. -/
def arr? : Json → Option (List Json)
  | .arr items => some items
  | _ => none

/-- The natural number, if the value is an integer in `0 .. 2^64 - 1`. -/
def nat? : Json → Option Nat
  | .num (.nat n) => some n
  | _ => none

/-- The boolean, if the value is one. -/
def bool? : Json → Option Bool
  | .bool b => some b
  | _ => none

end Json

end ChannelBridge
