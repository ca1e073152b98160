import DialogueScript.Source.Fence
import DialogueScript.Script.Basic
import DialogueScript.Text.Blank

/-!
# Writing a source text

A script is written as sections parted by an empty line: the header, if it has a field, and each
node. Every part below is a list of lines; a line feed is put after each of them at the very end.

An option keeps its condition in brackets behind its text. A code block is opened by the line of
its dialogue. If its first captured line begins with a fence, it would close the block at once: it
can only have stood in front of the opening fence, and is written there.
-/

namespace DialogueScript

open Text Source

/-- A guard in front of a line. -/
def guarded (condition : Option Text) (t : Text) : Text :=
  match condition with
  | some c => '[' :: c ++ ']' :: ' ' :: t
  | none => t

/-- An option without its dash. -/
def ChoiceOption.toSource (o : ChoiceOption) : Text :=
  let condition := match o.condition with
    | some c => ' ' :: '[' :: c ++ [']']
    | none => []
  let target := match o.target with
    | some t => " -> ".toList ++ t
    | none => []
  o.text ++ condition ++ target

/-- The text of a dialogue up to its content. -/
def dialogueHead (speaker condition : Option Text) : Text :=
  guarded condition ('>' :: ' ' :: match speaker with
    | some speaker => speaker ++ [':', ' ']
    | none => [])

/-- The source lines of a dialogue with this head. -/
def dialogueLines (head content : Text) : List Text :=
  match captured? content with
  | none => [trimEnd (head ++ content)]
  | some [] => [head ++ fence, fence]
  | some (first :: rest) =>
    if fence.isPrefixOf first then (head ++ first ++ ' ' :: fence) :: rest ++ [fence]
    else (head ++ fence) :: first :: rest ++ [fence]

/-- The source lines of a line. -/
def Line.sourceLines : Line → List Text
  | .dialogue speaker content condition => dialogueLines (dialogueHead speaker condition) content
  | .command content condition => [trimEnd (guarded condition ('$' :: ' ' :: content))]
  | .choice content options condition =>
    trimEnd (guarded condition ('?' :: ' ' :: content)) ::
      options.map fun o => trimEnd ('-' :: ' ' :: o.toSource)
  | .input name content condition =>
    [trimEnd (guarded condition ("? \x7b".toList ++ name ++ '}' :: ' ' :: content))]

/-- The source lines of a node. -/
def Node.sourceLines (n : Node) : List Text :=
  ("@node ".toList ++ n.id) :: n.lines.flatMap Line.sourceLines ++
    n.jump.toList.map ("@jump ".toList ++ ·)

/-- The source lines of a header. -/
def Metadata.sourceLines (m : Metadata) : List Text :=
  m.entries.map fun (field, value) => '#' :: ' ' :: field.key ++ ':' :: ' ' :: value

/-- The sections of a script. -/
def Script.sections (s : Script) : List (List Text) :=
  (if s.metadata.isEmpty then [] else [s.metadata.sourceLines]) ++ s.nodes.map Node.sourceLines

/-- The source text of a script. -/
def Script.toSource (s : Script) : Text :=
  ([[]].intercalate s.sections).flatMap (· ++ ['\n'])

end DialogueScript
