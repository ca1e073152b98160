import DialogueScript.Codec.Findings
import DialogueScript.Codec.Script
import DialogueScript.Codec.Variables
import DialogueScript.Flow.Path
import DialogueScript.Flow.Reach
import DialogueScript.Source.Parse

/-!
# From text to text

Answers about a source text, as JSON texts, for users who hold no script themselves. Sources are
read with the default options.
-/

namespace DialogueScript.Export

/-- A source as a JSON text. -/
def script (source : Text) : Except ScriptError Text :=
  (Source.parse {} source).map Script.toJsonText

/-- The statistics of a source. -/
def stats (source : Text) : Except ScriptError Text :=
  (Source.parse {} source).map fun s => s.stats.toJson.pretty

/-- The paths of a source to a target. -/
def paths (source target : Text) : Except ScriptError Text :=
  (Source.parse {} source).map fun s => (Json.array ((s.pathsTo target).map textsToJson)).compact

/-- The unreachable nodes of a source. -/
def unreachable (source : Text) : Except ScriptError Text :=
  (Source.parse {} source).map fun s => (textsToJson s.unreachable).compact

/-- A text, interpolated with the variable store of a JSON text. -/
def interpolate (text store : Text) : Except Json.Fault Text :=
  (Variables.decoder.run store).map fun vars => Variable.interpolate vars text

end DialogueScript.Export
