import DialogueScript.Json.Value
import DialogueScript.Script.Defect
import DialogueScript.Text.Quoted

/-!
# Faults of JSON texts

A text is refused because it is no JSON, because it ends too early, or because what it says has
the wrong shape. Only a wrong shape is worded. `Token` is what the front of a value tells: a
scalar in full, of a container only its opening.
-/

namespace DialogueScript.Json

/-- The front of a value. -/
inductive Token where
  | null
  | boolean (b : Bool)
  | number (n : Number)
  | string (t : Text)
  | openArray
  | openObject

/-- A token as a message names it. -/
def Token.describe : Token → Text
  | .null => "null".toList
  | .boolean true => "boolean \x60true\x60".toList
  | .boolean false => "boolean \x60false\x60".toList
  | .number (.int n) => "integer \x60".toList ++ (Number.int n).write ++ ['\x60']
  | .number (.float x) => "floating point \x60".toList ++ (Number.float x).write ++ ['\x60']
  | .string t => "string ".toList ++ Text.quoted t
  | .openArray => "sequence".toList
  | .openObject => "map".toList

/-- The front of a value that has been read. -/
def front : Json → Token
  | .null => .null
  | .boolean b => .boolean b
  | .number n => .number n
  | .string t => .string t
  | .array _ => .openArray
  | .object _ => .openObject

/-- How a value differs from the shape it should have. -/
inductive Mismatch where
  /-- A value of another kind than `expected`. -/
  | invalidType (found : Token) (expected : Text)
  /-- A value of the right kind that is not allowed. -/
  | invalidValue (found : Token) (expected : Text)
  /-- An array with too few or too many items. -/
  | invalidLength (length : Nat) (expected : Text)
  | missingField (name : Text)
  | duplicateField (name : Text)
  | unknownVariant (name : Text) (known : List Text)
  /-- A script that cannot be assembled. -/
  | refusedScript (defect : Defect)

/-- A name between backquotes. -/
def ticked (name : Text) : Text := '\x60' :: name ++ ['\x60']

/-- The names that may stand in a place. -/
def alternatives : List Text → Text
  | [] => "there are no variants".toList
  | [a] => "expected ".toList ++ ticked a
  | [a, b] => "expected ".toList ++ ticked a ++ " or ".toList ++ ticked b
  | names => "expected one of ".toList ++ ", ".toList.intercalate (names.map ticked)

/-- What precedes the digits at the end of a text. There must be at least one, and their number
must fit 64 bits. -/
def beforeNumber? (t : Text) : Option Text :=
  let digits := (t.reverse.takeWhile Char.isDigit).reverse
  if digits ≠ [] ∧ Text.decimalValue digits < Nat.pow 2 64 then
    some (t.reverse.dropWhile Char.isDigit).reverse
  else none

/-- What precedes a place in a text, line and column, where a wording ends in one. -/
def beforePlace? (t : Text) : Option Text := do
  let t ← beforeNumber? t
  let t ← Text.before? " column ".toList t
  let t ← beforeNumber? t
  Text.before? " at line ".toList t

/-- The wording of a mismatch. An ending that reads as a place is left out, also if it belongs to
an id. -/
def Mismatch.message : Mismatch → Text
  | .invalidType found expected =>
    "invalid type: ".toList ++ found.describe ++ ", expected ".toList ++ expected
  | .invalidValue found expected =>
    "invalid value: ".toList ++ found.describe ++ ", expected ".toList ++ expected
  | .invalidLength length expected =>
    "invalid length ".toList ++ Text.ofNat length ++ ", expected ".toList ++ expected
  | .missingField name => "missing field ".toList ++ ticked name
  | .duplicateField name => "duplicate field ".toList ++ ticked name
  | .unknownVariant name known =>
    "unknown variant ".toList ++ ticked name ++ ", ".toList ++ alternatives known
  | .refusedScript defect => (beforePlace? defect.message).getD defect.message

/-- Why a JSON text is refused. -/
inductive Fault where
  /-- The text is no JSON. -/
  | malformed
  /-- The text ends too early. -/
  | endOfText
  /-- The text says something of the wrong shape. -/
  | mismatch (m : Mismatch)

/-- The wording of a mismatch as an error of its own. -/
def Mismatch.report (m : Mismatch) : Text := "JSON error: ".toList ++ m.message

end DialogueScript.Json
