import DialogueScript.Text.Word
import DialogueScript.Text.UnseenRanges

/-!
# Quoted texts in messages

A message shows a text between quotes, with every character that could mislead a reader written
as an escape: controls, extending marks, fillers, and characters without a glyph.
-/

namespace DialogueScript.Text

/-- Controls, and the characters beyond ASCII that extend another, may be ignored or have no
glyph. -/
def isUnseen (c : Char) : Bool :=
  c.toNat < 0x20 || c.toNat == 0x7F || (0x80 ≤ c.toNat && inRanges unseenRanges c.toNat)

/-- A character as a quoted text shows it. -/
def quotedChar (c : Char) : Text :=
  if c = '\x00' then ['\\', '0']
  else if c = '\t' then ['\\', 't']
  else if c = '\r' then ['\\', 'r']
  else if c = '\n' then ['\\', 'n']
  else if c = '"' then ['\\', '"']
  else if c = '\\' then ['\\', '\\']
  else if isUnseen c then ['\\', 'u', '{'] ++ Nat.toDigits 16 c.toNat ++ ['}']
  else [c]

/-- The text between quotes. -/
def quoted (t : Text) : Text := '"' :: t.flatMap quotedChar ++ ['"']

end DialogueScript.Text
