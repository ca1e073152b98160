import DialogueScript.Script.Assembly
import DialogueScript.Variable.Store

/-!
# Kinds of values

A schema gives a kind to each variable that a script expects. `checkKinds` compares a store with
a schema and reports, in key order, every variable that is missing or of another kind.
-/

namespace DialogueScript

/-- The kind of a value. -/
inductive VarType where
  | string
  | number
  | boolean
  | array
  | object
  | null
deriving DecidableEq

namespace VarType

/-- The kinds in the order in which messages list them. -/
def all : List VarType := [.string, .number, .boolean, .array, .object, .null]

/-- The name of a kind. -/
def name : VarType → Text
  | .string => "string".toList
  | .number => "number".toList
  | .boolean => "boolean".toList
  | .array => "array".toList
  | .object => "object".toList
  | .null => "null".toList

/-- The kind of a value. -/
def of : Json → VarType
  | .null => .null
  | .boolean _ => .boolean
  | .number _ => .number
  | .string _ => .string
  | .array _ => .array
  | .object _ => .object

end VarType

/-- The kinds that variables should have, in key order. -/
abbrev Schema := List (Text × VarType)

namespace Variable

/-- What is wrong with one variable, if anything is. -/
def kindComplaint? (vars : Variables) (name : Text) (expected : VarType) : Option Text :=
  match vars.lookup name with
  | none =>
    some ("variable \"".toList ++ name ++ "\" is missing (expected ".toList ++ expected.name ++
      [')'])
  | some v =>
    if VarType.of v = expected then none
    else some ("variable \"".toList ++ name ++ "\" should be ".toList ++ expected.name ++
      " but is ".toList ++ (VarType.of v).name)

/-- The report on a store. -/
def checkKinds (vars : Variables) (schema : Schema) : Report :=
  .ofErrors (schema.filterMap fun (name, expected) => kindComplaint? vars name expected)

end Variable

end DialogueScript
