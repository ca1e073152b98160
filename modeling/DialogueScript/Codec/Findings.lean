import DialogueScript.Json.Decoder
import DialogueScript.Script.Stats
import DialogueScript.Script.Assembly

/-!
# Findings in JSON

Statistics, flow edges and reports. All their members are required.
-/

namespace DialogueScript

open Json

/-- A list of texts as JSON. -/
def textsToJson (ts : List Text) : Json := .array (ts.map .string)

/-- A count as JSON. -/
def countToJson (n : Nat) : Json := .number (.int n)

namespace Stats

/-- The counts of statistics. -/
inductive Count where
  | nodes
  | dialogues
  | choices
  | commands
  | inputs
  | names
  | branches
deriving DecidableEq

namespace Count

/-- The counts in the order in which they are written. -/
def all : List Count := [.nodes, .dialogues, .choices, .commands, .inputs, .names, .branches]

/-- The name of a count. -/
def key : Count → Text
  | .nodes => "nodeCount".toList
  | .dialogues => "dialogueCount".toList
  | .choices => "choiceCount".toList
  | .commands => "commandCount".toList
  | .inputs => "inputCount".toList
  | .names => "variableCount".toList
  | .branches => "branchCount".toList

end Count

/-- The value of a count. -/
def get (s : Stats) : Count → Nat
  | .nodes => s.nodes
  | .dialogues => s.dialogues
  | .choices => s.choices
  | .commands => s.commands
  | .inputs => s.inputs
  | .names => s.names
  | .branches => s.branches

/-- Statistics as JSON. -/
def toJson (s : Stats) : Json := .object (Count.all.map fun c => (c.key, countToJson (s.get c)))

/-- The members of statistics. -/
def shape : Decoder.Shape :=
  ⟨"struct ScriptStats".toList, Count.all.map fun c => ⟨c.key, true⟩⟩

/-- How the members of statistics are read; the state holds the counts read so far. -/
def member : Decoder.Member (List (Count × Nat)) := fun seen key =>
  match Count.all.find? fun c => c.key = key with
  | some c => Decoder.once key (seen.lookup c) .count fun n => (c, n) :: seen
  | none => .ok none

/-- Statistics in JSON. -/
def decoder : Decoder Stats :=
  .record shape member [] fun seen => do
    let value (c : Count) : Except Fault Nat := Decoder.required c.key (seen.lookup c)
    return {
      nodes := ← value .nodes
      dialogues := ← value .dialogues
      choices := ← value .choices
      commands := ← value .commands
      inputs := ← value .inputs
      names := ← value .names
      branches := ← value .branches }

end Stats

/-- The name of a kind of edge. -/
def EdgeKind.name : EdgeKind → Text
  | .jump => "jump".toList
  | .option => "option".toList

/-- A kind of edge in JSON. -/
def EdgeKind.decoder : Decoder EdgeKind :=
  .variant ([EdgeKind.jump, EdgeKind.option].map fun k => (k.name, k))

/-- An edge as JSON. -/
def FlowEdge.toJson (e : FlowEdge) : Json :=
  .object [("from".toList, .string e.source), ("to".toList, .string e.target),
    ("kind".toList, .string e.kind.name)]

/-- The members of an edge read so far. -/
structure EdgeFields where
  source : Option Text := none
  target : Option Text := none
  kind : Option EdgeKind := none

/-- The members of an edge. -/
def FlowEdge.shape : Decoder.Shape :=
  ⟨"struct FlowEdge".toList, [⟨"from".toList, true⟩, ⟨"to".toList, true⟩, ⟨"kind".toList, true⟩]⟩

/-- How the members of an edge are read. -/
def EdgeFields.member : Decoder.Member EdgeFields := fun st key =>
  if key = "from".toList then
    Decoder.once key st.source .text fun t => { st with source := some t }
  else if key = "to".toList then
    Decoder.once key st.target .text fun t => { st with target := some t }
  else if key = "kind".toList then
    Decoder.once key st.kind EdgeKind.decoder fun k => { st with kind := some k }
  else .ok none

/-- An edge in JSON. -/
def FlowEdge.decoder : Decoder FlowEdge :=
  .record FlowEdge.shape EdgeFields.member {} fun st => do
    let source ← Decoder.required "from".toList st.source
    let target ← Decoder.required "to".toList st.target
    let kind ← Decoder.required "kind".toList st.kind
    return ⟨source, target, kind⟩

/-- A report as JSON. -/
def Report.toJson (r : Report) : Json :=
  .object [("valid".toList, .boolean r.valid), ("errors".toList, textsToJson r.errors)]

/-- The members of a report read so far. -/
structure ReportFields where
  valid : Option Bool := none
  errors : Option (List Text) := none

/-- The members of a report. -/
def Report.shape : Decoder.Shape :=
  ⟨"struct ValidationReport".toList, [⟨"valid".toList, true⟩, ⟨"errors".toList, true⟩]⟩

/-- How the members of a report are read. -/
def ReportFields.member : Decoder.Member ReportFields := fun st key =>
  if key = "valid".toList then
    Decoder.once key st.valid .flag fun b => { st with valid := some b }
  else if key = "errors".toList then
    Decoder.once key st.errors (.list .text) fun es => { st with errors := some es }
  else .ok none

/-- A report in JSON. -/
def Report.decoder : Decoder Report :=
  .record Report.shape ReportFields.member {} fun st => do
    let valid ← Decoder.required "valid".toList st.valid
    let errors ← Decoder.required "errors".toList st.errors
    return ⟨valid, errors⟩

end DialogueScript
