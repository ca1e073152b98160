import DialogueScript.Json.Printer
import DialogueScript.Variable.Placeholder

/-!
# Variable stores

A store gives values to variables. Interpolation is one pass from left to right: each placeholder
whose variable has a value is replaced by the text of that value, everything else stays as it is,
and what has been put in is not looked at again.
-/

namespace DialogueScript

/-- Values of variables, in key order. -/
abbrev Variables := List (Text × Json)

/-- The store that the members of an object make. -/
def Variables.ofMembers (members : List (Text × Json)) : Variables :=
  Json.sortMembers (Json.canonicalMembers members)

namespace Variable

/-- The text of a value: a string is shown without quotes. -/
def stringify : Json → Text
  | .string t => t
  | v => v.compact

/-- The text with the placeholders of known variables replaced. -/
def interpolate (vars : Variables) : Text → Text
  | [] => []
  | c :: t =>
    match _h : braced? (c :: t) with
    | some (name, rest) =>
      let shown := match vars.lookup name with
        | some v => stringify v
        | none => '{' :: name ++ ['}']
      shown ++ interpolate vars rest
    | none => c :: interpolate vars t
termination_by t => t.length
decreasing_by
  · exact length_braced? _h
  · simp

theorem interpolate_of_braced {vars : Variables} {t name rest : Text}
    (h : braced? t = some (name, rest)) :
    interpolate vars t =
      (match vars.lookup name with
        | some v => stringify v
        | none => '{' :: name ++ ['}']) ++ interpolate vars rest := by
  cases t with
  | nil => cases h
  | cons c t =>
    rw [interpolate]
    split
    · rename_i name' rest' h'
      cases h.symm.trans h'
      rfl
    · rename_i hnone
      cases h.symm.trans hnone

theorem interpolate_of_not_braced {vars : Variables} {c : Char} {t : Text}
    (h : braced? (c :: t) = none) : interpolate vars (c :: t) = c :: interpolate vars t := by
  rw [interpolate]
  split
  · rename_i h'
    cases h.symm.trans h'
  · rfl

end Variable

end DialogueScript
