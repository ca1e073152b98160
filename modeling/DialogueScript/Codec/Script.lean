import DialogueScript.Codec.Line
import DialogueScript.Json.Printer
import DialogueScript.Script.Assembly

/-!
# Scripts in JSON

`Script.toJson` leaves out a header without fields. A script is read in two steps: the text is
decoded into a header and nodes, and these are assembled. `Script.load` does so for a whole text
and tells a fault of the text from a defect of the script; `Script.decoder`, which may stand
inside other decoders, has faults only.
-/

namespace DialogueScript

open Json

/-- A header as JSON. -/
def Metadata.toJson (m : Metadata) : Json :=
  .object (m.entries.map fun (field, value) => (field.key, .string value))

/-- The members of a header. -/
def Metadata.shape : Decoder.Shape :=
  ⟨"struct Metadata".toList, Field.all.map fun f => ⟨f.key, false⟩⟩

/-- How the members of a header are read; the state holds the fields read so far. -/
def Metadata.member : Decoder.Member (List (Field × Option Text)) := fun seen key =>
  match Field.all.find? fun f => f.key = key with
  | some f => Decoder.once key (seen.lookup f) (.optional .text) fun value => (f, value) :: seen
  | none => .ok none

/-- A header in JSON. -/
def Metadata.decoder : Decoder Metadata :=
  .record Metadata.shape Metadata.member [] fun seen =>
    let value (f : Field) : Option Text := (seen.lookup f).join
    .ok ⟨value .title, value .author, value .version, value .autoclear⟩

/-- A node as JSON. -/
def Node.toJson (n : Node) : Json :=
  .object (("id".toList, .string n.id) :: ("lines".toList, .array (n.lines.map Line.toJson)) ::
    optionalMember "jump".toList n.jump)

/-- The members of a node read so far. -/
structure NodeFields where
  id : Option Text := none
  lines : Option (List Line) := none
  jump : Option (Option Text) := none

/-- The members of a node. -/
def Node.shape : Decoder.Shape :=
  ⟨"struct Node".toList, [⟨"id".toList, true⟩, ⟨"lines".toList, false⟩, ⟨"jump".toList, false⟩]⟩

/-- How the members of a node are read. -/
def NodeFields.member : Decoder.Member NodeFields := fun st key =>
  if key = "id".toList then
    Decoder.once key st.id .text fun t => { st with id := some t }
  else if key = "lines".toList then
    Decoder.once key st.lines (.list Line.decoder) fun ls => { st with lines := some ls }
  else if key = "jump".toList then
    Decoder.once key st.jump (.optional .text) fun t => { st with jump := some t }
  else .ok none

/-- A node in JSON. -/
def Node.decoder : Decoder Node :=
  .record Node.shape NodeFields.member {} fun st => do
    let id ← Decoder.required "id".toList st.id
    return ⟨id, st.lines.getD [], st.jump.join⟩

/-- A script as JSON. -/
def Script.toJson (s : Script) : Json :=
  .object ((if s.metadata.isEmpty then [] else [("metadata".toList, s.metadata.toJson)]) ++
    [("nodes".toList, .array (s.nodes.map Node.toJson))])

/-- The members of a script read so far. -/
structure ScriptFields where
  metadata : Option Metadata := none
  nodes : Option (List Node) := none

/-- The members of a script. -/
def Script.shape : Decoder.Shape :=
  ⟨"struct RawScript".toList, [⟨"metadata".toList, false⟩, ⟨"nodes".toList, true⟩]⟩

/-- How the members of a script are read. -/
def ScriptFields.member : Decoder.Member ScriptFields := fun st key =>
  if key = "metadata".toList then
    Decoder.once key st.metadata Metadata.decoder fun m => { st with metadata := some m }
  else if key = "nodes".toList then
    Decoder.once key st.nodes (.list Node.decoder) fun ns => { st with nodes := some ns }
  else .ok none

/-- The header and the nodes of a script in JSON, before they are assembled. -/
def Script.partsDecoder : Decoder (Metadata × List Node) :=
  .record Script.shape ScriptFields.member {} fun st => do
    let nodes ← Decoder.required "nodes".toList st.nodes
    return (st.metadata.getD {}, nodes)

/-- A script in JSON. -/
def Script.decoder : Decoder Script :=
  Script.partsDecoder.check fun (metadata, nodes) =>
    match Script.assemble metadata nodes with
    | .ok s => .ok s
    | .error defect => .error (.mismatch (.refusedScript defect))

/-- Why no script comes out of a text. -/
inductive LoadError where
  /-- The JSON text is refused. -/
  | json (fault : Fault)
  /-- What the text says makes no script. -/
  | script (error : ScriptError)

/-- The script that a JSON text holds. -/
def Script.load (t : Text) : Except LoadError Script :=
  match Script.partsDecoder.run t with
  | .error fault => .error (.json fault)
  | .ok (metadata, nodes) =>
    match Script.assemble metadata nodes with
    | .error defect => .error (.script ⟨none, defect⟩)
    | .ok s => .ok s

/-- A script as a JSON text that people can read. -/
def Script.toJsonText (s : Script) : Text := s.toJson.pretty

end DialogueScript
