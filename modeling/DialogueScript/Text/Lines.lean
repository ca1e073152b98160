import DialogueScript.Text.Basic

/-!
# Physical lines

A text is cut after each line feed (`pieces`, which lose nothing: `flatten_pieces`). A line is a
piece without its ending: the line feed, and a carriage return directly before that line feed.
A carriage return elsewhere belongs to the line, also at the very end of the text.
-/

namespace DialogueScript.Text

/-- The text cut after each line feed. Only the last piece may lack one. -/
def pieces : Text → List Text
  | [] => []
  | c :: t =>
    if c = '\n' then [c] :: pieces t
    else match pieces t with
      | [] => [[c]]
      | piece :: rest => (c :: piece) :: rest

theorem flatten_pieces (t : Text) : (pieces t).flatten = t := by
  induction t with
  | nil => rfl
  | cons c t ih =>
    unfold pieces
    split
    · simp [ih]
    · split
      · rename_i h; rw [h] at ih; simp_all
      · rename_i h; rw [h] at ih; simp_all

/-- A piece without its line ending. -/
def withoutEnding (piece : Text) : Text :=
  match before? ['\r', '\n'] piece with
  | some line => line
  | none => (before? ['\n'] piece).getD piece

/-- The physical lines of a text. -/
def lines (t : Text) : List Text := (pieces t).map withoutEnding

end DialogueScript.Text
