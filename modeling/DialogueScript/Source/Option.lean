import DialogueScript.Script.Basic
import DialogueScript.Text.Blank

/-!
# Guards and options

A bracketed guard is `[condition]` with at least one character and no `]` inside. An option is
`text [condition] -> target`, both parts optional. Its text is the shortest non-empty beginning
after which everything that is left is an option tail: so `A -> b -> c` leads to `b -> c`, and
brackets followed by more text belong to the text.
-/

namespace DialogueScript.Source

open Text

/-- A bracketed guard at the front, and what follows it. -/
def bracketed? : Text → Option (Text × Text)
  | '[' :: t =>
    match cut? ']' t with
    | some (c :: condition, rest) => some (c :: condition, rest)
    | _ => none
  | _ => none

/-- The end of an option: a condition, a target, or neither. -/
structure Tail where
  condition : Option Text
  target : Option Text
deriving DecidableEq

/-- Reads the arrow part of a tail, which is absent at the end of the text. A target has at
least one character after the blanks. -/
def arrow? : Text → Option (Option Text)
  | [] => some none
  | '-' :: '>' :: t =>
    match skipBlanks t with
    | [] => none
    | target => some (some (trimEnd target))
  | _ => none

/-- Reads a whole text as an option tail. -/
def Tail.read? (t : Text) : Option Tail :=
  match bracketed? (skipBlanks t) with
  | some (condition, rest) => (arrow? (skipBlanks rest)).map fun target => ⟨some condition, target⟩
  | none => (arrow? (skipBlanks t)).map fun target => ⟨none, target⟩

/-- The shortest non-empty beginning of a text whose rest is a tail, and that tail. -/
def shortestSplit? : Text → Option (Text × Tail)
  | [] => none
  | c :: t =>
    match Tail.read? t with
    | some tail => some ([c], tail)
    | none => (shortestSplit? t).map fun (text, tail) => (c :: text, tail)

/-- Reads an option; only the empty text is none. -/
def option? (t : Text) : Option ChoiceOption :=
  (shortestSplit? t).map fun (text, tail) => ⟨trimEnd text, tail.condition, tail.target⟩

end DialogueScript.Source
