import DialogueScript.Script.Basic
import DialogueScript.Text.Order
import DialogueScript.Variable.Assignment
import DialogueScript.Variable.Placeholder

/-!
# The variables of a script

A script uses a variable if a text that is shown or run has a placeholder for it, or a command
assigns it. The variable that an input line asks for is not counted on that ground alone.
-/

namespace DialogueScript

open Variable

/-- The texts of a line in which placeholders are looked for. -/
def Line.texts : Line → List Text
  | .dialogue speaker content _ => speaker.toList ++ [content]
  | .command content _ => [content]
  | .choice content options _ => content :: options.map ChoiceOption.text
  | .input _ content _ => [content]

/-- The variables that a line assigns. -/
def Line.assigned : Line → List Text
  | .command content _ => assignedNames content
  | _ => []

/-- The lines of a script, node by node. -/
def Script.allLines (s : Script) : List Line := s.nodes.flatMap Node.lines

/-- The names of the variables of a script, in code point order. -/
def Script.variableNames (s : Script) : List Text :=
  Text.sortNames (s.allLines.flatMap fun line =>
    line.texts.flatMap placeholderNames ++ line.assigned)

end DialogueScript
