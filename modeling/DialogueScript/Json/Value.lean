import DialogueScript.Decimal.Notation
import DialogueScript.Text.Basic

/-!
# JSON values

An object keeps its members as they are written, in order and with repetitions. `Json.canonical`
is the value that a program sees: keys in code point order, of equal keys the last member.

A number is an integer of 64 bits, signed or unsigned, or a double precision number.
-/

namespace DialogueScript

/-- A JSON number. -/
inductive Number where
  | int (n : Int)
  | float (x : Float)

/-- A JSON value. -/
inductive Json where
  | null
  | boolean (b : Bool)
  | number (n : Number)
  | string (t : Text)
  | array (items : List Json)
  | object (members : List (Text × Json))

/-- Floating point numbers in JSON: positional for decimal exponents from -5 to 15. -/
def Json.floatFormat : Decimal.FloatFormat := ⟨-5, 15⟩

/-- A JSON number as it is written. -/
def Number.write : Number → Text
  | .int (.ofNat n) => Text.ofNat n
  | .int (.negSucc n) => '-' :: Text.ofNat (n + 1)
  | .float x => Json.floatFormat.write x

namespace Json

/-- Puts a member into a list of members that is in order, in place of one with the same key. -/
def insertMember {α : Type} (key : Text) (value : α) : List (Text × α) → List (Text × α)
  | [] => [(key, value)]
  | (k, v) :: rest =>
    if key < k then (key, value) :: (k, v) :: rest
    else if key = k then (key, value) :: rest
    else (k, v) :: insertMember key value rest

/-- Members in key order; of equal keys the last one stays. -/
def sortMembers {α : Type} (members : List (Text × α)) : List (Text × α) :=
  members.foldl (fun sorted (key, value) => insertMember key value sorted) []

mutual

/-- The value with the members of every object in key order. -/
def canonical : Json → Json
  | .array items => .array (canonicalItems items)
  | .object members => .object (sortMembers (canonicalMembers members))
  | .null => .null
  | .boolean b => .boolean b
  | .number n => .number n
  | .string t => .string t

/-- `canonical` on each item. -/
def canonicalItems : List Json → List Json
  | [] => []
  | v :: items => canonical v :: canonicalItems items

/-- `canonical` on the value of each member. -/
def canonicalMembers : List (Text × Json) → List (Text × Json)
  | [] => []
  | (k, v) :: members => (k, canonical v) :: canonicalMembers members

end

/-- The value of the first member with this key, in an object. -/
def member? (key : Text) : Json → Option Json
  | .object members => members.lookup key
  | _ => none

end Json

end DialogueScript
