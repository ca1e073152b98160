import DialogueScript.Flow.Edge

/-!
# Defects

What can be wrong with a script, by cause, and the wording of each cause. A defect found on a
source line is located there; one of the script as a whole has no line.
-/

namespace DialogueScript

/-- The cause for which a script is refused. -/
inductive Defect where
  /-- A node directive without an id. -/
  | emptyNodeId
  /-- A node id that an earlier node carries. -/
  | duplicateNode (id : Text)
  /-- A jump before the first node. -/
  | jumpOutsideNode
  /-- A jump directive without a target. -/
  | emptyJumpTarget
  /-- Content before the first node, where that is refused. -/
  | outsideNode (content : Text)
  /-- A line of no known form. -/
  | unknownLine (text : Text)
  /-- An option without any text. -/
  | malformedOption (text : Text)
  /-- A code block that is never closed. -/
  | unterminatedCodeBlock
  /-- No node carries the start id. -/
  | missingStart
  /-- Edges whose target no node carries. -/
  | danglingReferences (edges : List FlowEdge)
deriving DecidableEq

/-- What the checker says of an edge whose target is missing. -/
def FlowEdge.complaint (e : FlowEdge) : Text :=
  let verb := match e.kind with
    | .jump => "\" jumps to missing node \"".toList
    | .option => "\" has a choice option targeting missing node \"".toList
  "node \"".toList ++ e.source ++ verb ++ e.target ++ ['"']

/-- The wording of a cause. -/
def Defect.message : Defect → Text
  | .emptyNodeId => "node id must not be empty".toList
  | .duplicateNode id => "duplicate node id: ".toList ++ id
  | .jumpOutsideNode => "@jump outside of a node".toList
  | .emptyJumpTarget => "jump target must not be empty".toList
  | .outsideNode content => "content outside of a node: ".toList ++ content
  | .unknownLine text => "unknown line format: ".toList ++ text
  | .malformedOption text => "malformed choice option: ".toList ++ text
  | .unterminatedCodeBlock => "unterminated code block".toList
  | .missingStart => "script must contain a \"start\" node".toList
  | .danglingReferences edges => ['\n'].intercalate (edges.map FlowEdge.complaint)

/-- A defect, with the source line it is tied to if there is one. Lines count from 1. -/
structure ScriptError where
  line : Option Nat
  defect : Defect
deriving DecidableEq

/-- The wording of an error: its line, then its cause. -/
def ScriptError.message (e : ScriptError) : Text :=
  match e.line with
  | some n => "line ".toList ++ Text.ofNat n ++ ": ".toList ++ e.defect.message
  | none => e.defect.message

end DialogueScript
