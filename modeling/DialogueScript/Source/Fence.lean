import DialogueScript.Text.Basic

/-!
# Code blocks

A code block is kept as one content: its captured lines between two fences, each on a line of its
own. `fenced` makes such a content, `captured?` takes it apart.
-/

namespace DialogueScript.Source

open Text

/-- The mark that opens and closes a code block: three backquotes. -/
def fence : Text := ['\x60', '\x60', '\x60']

/-- Captured lines between two fences. -/
def fenced (captured : List Text) : Text :=
  fence ++ '\n' :: (['\n'].intercalate captured ++ '\n' :: fence)

/-- The captured lines of a content that is a code block. -/
def captured? (content : Text) : Option (List Text) :=
  ((after? (fence ++ ['\n']) content).bind (before? ('\n' :: fence))).map (·.splitOn '\n')

end DialogueScript.Source
