import DialogueScript.Json.Decoder
import DialogueScript.Variable.Kind

/-!
# Variable stores and schemas in JSON

Both are objects whose keys name the variables. Of equal keys the last counts, and the members
are looked at in key order.
-/

namespace DialogueScript

open Json

/-- A kind of value in JSON. -/
def VarType.decoder : Decoder VarType := .variant (VarType.all.map fun k => (k.name, k))

/-- A variable store in JSON. -/
def Variables.decoder : Decoder Variables := Decoder.object.map Variables.ofMembers

/-- A schema from the members of an object. -/
def Schema.ofMembers (members : List (Text × Json)) : Except Fault Schema :=
  (Variables.ofMembers members).mapM fun (name, v) => do
    let kind ← VarType.decoder.ofValue v
    return (name, kind)

/-- A schema from a value. -/
def Schema.ofJson (v : Json) : Except Fault Schema := do
  let members ← Decoder.object.ofValue v
  Schema.ofMembers members

end DialogueScript
