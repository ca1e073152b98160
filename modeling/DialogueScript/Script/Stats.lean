import DialogueScript.Flow.Edge
import DialogueScript.Variable.Extract

/-!
# Statistics

How many nodes, lines of each kind, variables and flow edges a script has.
-/

namespace DialogueScript

/-- The counts of a script; `names` counts its variables, `branches` its flow edges. -/
structure Stats where
  nodes : Nat
  dialogues : Nat
  choices : Nat
  commands : Nat
  inputs : Nat
  names : Nat
  branches : Nat
deriving DecidableEq

/-- The number of lines of a kind. -/
def Script.countLines (s : Script) (kind : LineKind) : Nat := s.allLines.countP (·.kind = kind)

/-- The counts of a script. -/
def Script.stats (s : Script) : Stats where
  nodes := s.nodes.length
  dialogues := s.countLines .dialogue
  choices := s.countLines .choice
  commands := s.countLines .command
  inputs := s.countLines .input
  names := s.variableNames.length
  branches := s.flowEdges.length

end DialogueScript
