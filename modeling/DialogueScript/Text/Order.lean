import DialogueScript.Text.Basic

/-!
# Texts in order

Texts are ordered by code point. `sortNames` lists the given names once each, in that order.
-/

namespace DialogueScript.Text

/-- Puts a name into a list of names that is in order, unless it is there. -/
def insertName (name : Text) : List Text → List Text
  | [] => [name]
  | n :: names =>
    if name < n then name :: n :: names
    else if name = n then n :: names
    else n :: insertName name names

/-- The names in order, once each. -/
def sortNames (names : List Text) : List Text :=
  names.foldl (fun sorted name => insertName name sorted) []

theorem mem_insertName {name x : Text} {names : List Text} :
    x ∈ insertName name names ↔ x = name ∨ x ∈ names := by
  induction names with
  | nil => simp [insertName]
  | cons n names ih =>
    unfold insertName
    split
    · simp
    · split
      · rename_i h; subst h; simp
      · simp only [List.mem_cons, ih]
        constructor
        · rintro (h | h | h) <;> simp [h]
        · rintro (h | h | h) <;> simp [h]

theorem mem_sortNames {x : Text} {names : List Text} : x ∈ sortNames names ↔ x ∈ names := by
  suffices h : ∀ sorted : List Text,
      x ∈ names.foldl (fun sorted name => insertName name sorted) sorted ↔
        x ∈ sorted ∨ x ∈ names by
    simpa [sortNames] using h []
  induction names with
  | nil => simp
  | cons n names ih =>
    intro sorted
    rw [List.foldl_cons, ih, mem_insertName, List.mem_cons, or_assoc, or_left_comm]

end DialogueScript.Text
