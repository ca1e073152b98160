import DialogueScript.Text.Word

/-!
# Placeholders

A placeholder is `{name}` with one or more word characters for a name. `placeholders` lists those
of a text from left to right with their places in the UTF-8 form. A name holds no brace, so that
placeholders never overlap and a search may go on at the very next character.
-/

namespace DialogueScript

open Text

/-- A placeholder, from its opening brace at byte `start` up to byte `stop` after its closing
brace. -/
structure Placeholder where
  start : Nat
  stop : Nat
  name : Text
deriving DecidableEq

namespace Variable

/-- A placeholder's name at the front of a text, and what follows its closing brace. -/
def braced? : Text → Option (Text × Text)
  | '{' :: t =>
    match t.dropWhile isWord with
    | '}' :: rest => if t.takeWhile isWord = [] then none else some (t.takeWhile isWord, rest)
    | _ => none
  | _ => none

theorem eq_of_braced? {t name rest : Text} (h : braced? t = some (name, rest)) :
    t = '{' :: (name ++ '}' :: rest) ∧ name ≠ [] ∧ ∀ c ∈ name, isWord c = true := by
  unfold braced? at h
  split at h
  · rename_i t
    split at h
    · rename_i r hdrop
      split at h
      · cases h
      · rename_i hne
        simp only [Option.some.injEq, Prod.mk.injEq] at h
        obtain ⟨rfl, rfl⟩ := h
        refine ⟨?_, hne, List.all_eq_true.1 List.all_takeWhile⟩
        have := List.takeWhile_append_dropWhile (p := isWord) (l := t)
        rw [hdrop] at this
        rw [this]
    · cases h
  · cases h

theorem braced?_append {name rest : Text} (hne : name ≠ []) (hword : ∀ c ∈ name, isWord c = true) :
    braced? ('{' :: (name ++ '}' :: rest)) = some (name, rest) := by
  have hbrace : isWord '}' = false := by decide
  have hdrop : (name ++ '}' :: rest).dropWhile isWord = '}' :: rest := by
    rw [List.dropWhile_append_of_pos hword, List.dropWhile_cons, hbrace]
    rfl
  have htake : (name ++ '}' :: rest).takeWhile isWord = name := by
    rw [List.takeWhile_append_of_pos hword, List.takeWhile_cons, hbrace]
    simp
  rw [braced?, hdrop, htake]
  exact if_neg hne

theorem length_braced? {t name rest : Text} (h : braced? t = some (name, rest)) :
    rest.length < t.length := by
  obtain ⟨rfl, -, -⟩ := eq_of_braced? h
  simp only [List.length_cons, List.length_append]; omega

/-- The placeholders of a text that begins at byte `offset`. -/
def placeholdersFrom (offset : Nat) : Text → List Placeholder
  | [] => []
  | c :: t =>
    let later := placeholdersFrom (offset + c.utf8Size) t
    match braced? (c :: t) with
    | some (name, _) => ⟨offset, offset + byteSize name + 2, name⟩ :: later
    | none => later

/-- The placeholders of a text. -/
def placeholders (t : Text) : List Placeholder := placeholdersFrom 0 t

/-- The names of the placeholders of a text. -/
def placeholderNames (t : Text) : List Text := (placeholders t).map Placeholder.name

end Variable

end DialogueScript
