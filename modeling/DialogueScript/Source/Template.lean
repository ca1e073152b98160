import DialogueScript.Text.Blank

/-!
# The starter script

A small source text that shows every kind of line. The title is the writer's own text, so its
white space is brought down to single spaces, and it is never empty.
-/

namespace DialogueScript.Source

open Text

/-- The title as it is put into the starter script. -/
def templateTitle (title : Text) : Text :=
  match words title with
  | [] => "Untitled".toList
  | ws => [' '].intercalate ws

/-- The lines of the starter script. -/
def templateLines (title : Text) : List Text := [
  "# title: ".toList ++ title,
  "# version: 1.0".toList,
  [],
  "@node start".toList,
  "> Narrator: Welcome to ".toList ++ title ++ ['.'],
  "$ set visits = 1".toList,
  "? Where do you want to go?".toList,
  "- Explore -> explore".toList,
  "- Rest [visits > 0] -> rest".toList,
  [],
  "@node explore".toList,
  "> Narrator: You look around.".toList,
  "@jump end".toList,
  [],
  "@node rest".toList,
  "? \x7bname\x7d What is your name?".toList,
  "> Narrator: Sleep well, \x7bname\x7d.".toList,
  "@jump end".toList,
  [],
  "@node end".toList,
  "> Narrator: The end.".toList]

/-- The starter script with this title. -/
def template (title : Text) : Text := (templateLines (templateTitle title)).flatMap (· ++ ['\n'])

end DialogueScript.Source
