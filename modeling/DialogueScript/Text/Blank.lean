import DialogueScript.Text.Basic

/-!
# Blank characters

Two classes are kept apart. `isSpace` is the Unicode property White_Space and rules trimming and
the separator of a directive; `isBlank` holds the four characters that the bracket and arrow
grammars, and JSON, skip between their parts (`isSpace_of_isBlank`).
-/

namespace DialogueScript.Text

/-- The Unicode property White_Space. -/
def isSpace (c : Char) : Bool :=
  (0x09 ≤ c.toNat && c.toNat ≤ 0x0D) || c.toNat == 0x20 || c.toNat == 0x85 || c.toNat == 0xA0 ||
    c.toNat == 0x1680 || (0x2000 ≤ c.toNat && c.toNat ≤ 0x200A) || c.toNat == 0x2028 ||
    c.toNat == 0x2029 || c.toNat == 0x202F || c.toNat == 0x205F || c.toNat == 0x3000

/-- Space, tab, carriage return or line feed. -/
def isBlank (c : Char) : Bool := c == ' ' || c == '\t' || c == '\r' || c == '\n'

theorem isSpace_of_isBlank {c : Char} (h : isBlank c = true) : isSpace c = true := by
  simp only [isBlank, Bool.or_eq_true, beq_iff_eq] at h
  obtain ((rfl | rfl) | rfl) | rfl := h <;> rfl

/-- The text without its leading blanks. -/
def skipBlanks (t : Text) : Text := t.dropWhile isBlank

/-- The text without leading white space. -/
def trimStart (t : Text) : Text := t.dropWhile isSpace

/-- The text without trailing white space. -/
def trimEnd (t : Text) : Text := (t.reverse.dropWhile isSpace).reverse

/-- The text without white space at either end. -/
def trim (t : Text) : Text := trimEnd (trimStart t)

/-- The maximal runs of characters that are not white space, in order. -/
def words (t : Text) : List Text := (t.splitOnP isSpace).filter (!·.isEmpty)

end DialogueScript.Text
