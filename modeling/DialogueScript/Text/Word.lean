import DialogueScript.Text.Basic
import DialogueScript.Text.WordRanges

/-!
# Word characters

The characters of a variable name: letters, numbers and the underscore. ASCII is decided
directly, the rest by the table in `Text/WordRanges`.
-/

namespace DialogueScript.Text

/-- Whether one of the closed ranges holds `n`. -/
def inRanges (ranges : List (Nat × Nat)) (n : Nat) : Bool :=
  ranges.any fun (low, high) => low ≤ n && n ≤ high

/-- The underscore, and every character that is Alphabetic or of category Nd, Nl or No. -/
def isWord (c : Char) : Bool :=
  c.isAlphanum || c == '_' || (0x80 ≤ c.toNat && inRanges wordRanges c.toNat)

end DialogueScript.Text
