import DialogueScript.Source.Builder
import DialogueScript.Text.Lines

/-!
# Reading a source text

`pass` takes in the physical lines of a text, `parseLogged` then assembles the script and keeps
the log of the whole run, and `parse` keeps only its result. Byte order marks at the very front
of a text are no part of its first line.
-/

namespace DialogueScript.Source

open Text

/-- The byte order mark. -/
def byteOrderMark : Char := '\ufeff'

/-- The physical lines of a source text. -/
def sourceLines (text : Text) : List Text :=
  match lines text with
  | [] => []
  | first :: rest => first.dropWhile (· == byteOrderMark) :: rest

/-- Takes in a whole text; the result holds its header and its nodes. -/
def pass (o : ParseOptions) (text : Text) : Except Halt Builder := do
  let b ← Builder.advance o 1 (sourceLines text) {}
  b.finish o

/-- The result of reading a text, with the records of the run. -/
structure Outcome where
  log : List LogRecord
  result : Except ScriptError Script

/-- Reads a text and keeps the log. -/
def parseLogged (o : ParseOptions) (text : Text) : Outcome :=
  match pass o text with
  | .error halt => ⟨halt.log, .error halt.error⟩
  | .ok b =>
    match Script.assemble b.metadata b.nodes with
    | .error defect => ⟨b.log, .error ⟨none, defect⟩⟩
    | .ok s => ⟨b.log ++ [.parsed s.nodes.length], .ok s⟩

/-- Reads a text. -/
def parse (o : ParseOptions) (text : Text) : Except ScriptError Script :=
  (parseLogged o text).result

theorem parse_eq_ok_iff {o : ParseOptions} {text : Text} {s : Script} :
    parse o text = .ok s ↔
      ∃ b, pass o text = .ok b ∧ Script.assemble b.metadata b.nodes = .ok s := by
  unfold parse parseLogged
  cases pass o text with
  | error halt => simp
  | ok b => cases h : Script.assemble b.metadata b.nodes <;> simp [h]

end DialogueScript.Source
