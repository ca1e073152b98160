import DialogueScript.Text.Blank
import DialogueScript.Text.Word

/-!
# Assignments

A command may hold several segments, parted by semicolons. A segment that begins with the word
`set`, blanks and a name assigns that variable; what follows the name does not matter here.
-/

namespace DialogueScript.Variable

open Text

/-- The variable that a segment assigns, and what follows its name. -/
def assigned? (segment : Text) : Option (Text × Text) :=
  match skipBlanks segment with
  | 's' :: 'e' :: 't' :: c :: t =>
    if isBlank c then
      match (skipBlanks t).takeWhile isWord with
      | [] => none
      | name => some (name, (skipBlanks t).dropWhile isWord)
    else none
  | _ => none

/-- The variables that a command assigns, in order. -/
def assignedNames (command : Text) : List Text :=
  (command.splitOn ';').filterMap fun segment => (assigned? segment).map Prod.fst

end DialogueScript.Variable
