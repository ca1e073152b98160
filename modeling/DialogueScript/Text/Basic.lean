/-!
# Texts

A text is the list of its Unicode scalar values. Every grammar of the library is a function on
such lists, so that it can be defined by recursion on the characters still to be read.

* `after?` and `before?` take a known beginning or ending off a text (`after?_eq_some_iff`,
  `before?_eq_some_iff`: they undo appending);
* `cut?` splits at the first occurrence of a character (`cut?_eq_some_iff`, `cut?_eq_none_iff`);
* `byteSize` measures a text in bytes of its UTF-8 form (`byteSize_append`).
-/

namespace DialogueScript

/-- A text, as the list of its Unicode scalar values. -/
abbrev Text := List Char

namespace Text

instance : LawfulBEq Text := inferInstance

/-- Number of bytes of the UTF-8 form. -/
def byteSize : Text → Nat
  | [] => 0
  | c :: t => c.utf8Size + byteSize t

theorem byteSize_append (a b : Text) : byteSize (a ++ b) = byteSize a + byteSize b := by
  induction a with
  | nil => simp [byteSize]
  | cons c a ih => rw [List.cons_append, byteSize, byteSize, ih, Nat.add_assoc]

/-- The decimal form of a number. -/
def ofNat (n : Nat) : Text := Nat.toDigits 10 n

/-- The value of a decimal digit. -/
def digitValue (c : Char) : Nat := c.toNat - '0'.toNat

/-- The number that decimal digits write. -/
def decimalValue (digits : Text) : Nat := digits.foldl (fun n c => n * 10 + digitValue c) 0

/-- What follows `start`, in a text that begins with it. -/
def after? : (start t : Text) → Option Text
  | [], t => some t
  | _ :: _, [] => none
  | s :: start, c :: t => if s = c then after? start t else none

theorem after?_eq_some_iff {start t r : Text} : after? start t = some r ↔ t = start ++ r := by
  induction start generalizing t with
  | nil => simp [after?]
  | cons s start ih =>
    cases t with
    | nil => simp [after?]
    | cons c t =>
      by_cases h : s = c
      · simp [after?, h, ih]
      · simp [after?, h, Ne.symm h]

/-- What precedes `ending`, in a text that ends with it. -/
def before? (ending t : Text) : Option Text :=
  (after? ending.reverse t.reverse).map List.reverse

theorem before?_eq_some_iff {ending t r : Text} : before? ending t = some r ↔ t = r ++ ending := by
  simp only [before?, Option.map_eq_some_iff, after?_eq_some_iff]
  constructor
  · rintro ⟨u, hu, rfl⟩
    simpa using congrArg List.reverse hu
  · rintro rfl
    exact ⟨r.reverse, by simp, by simp⟩

/-- The texts before and after the first `c`. -/
def cut? (c : Char) : Text → Option (Text × Text)
  | [] => none
  | x :: t =>
    if x = c then some ([], t) else (cut? c t).map fun (before, after) => (x :: before, after)

theorem cut?_eq_some_iff {c : Char} {t a b : Text} :
    cut? c t = some (a, b) ↔ t = a ++ c :: b ∧ c ∉ a := by
  induction t generalizing a with
  | nil => simp [cut?]
  | cons x t ih =>
    by_cases h : x = c
    · subst h
      simp only [cut?, if_true, Option.some.injEq, Prod.mk.injEq]
      constructor
      · rintro ⟨rfl, rfl⟩; simp
      · rintro ⟨hab, hmem⟩
        cases a with
        | nil => simpa using hab
        | cons y a => simp_all
    · simp only [cut?, h, if_false, Option.map_eq_some_iff]
      constructor
      · rintro ⟨⟨a', b'⟩, hcut, heq⟩
        simp only [Prod.mk.injEq] at heq
        obtain ⟨rfl, rfl⟩ := heq
        obtain ⟨rfl, hmem⟩ := ih.1 hcut
        simp [hmem, Ne.symm h]
      · rintro ⟨hab, hmem⟩
        cases a with
        | nil => simp_all
        | cons y a =>
          simp only [List.cons_append, List.cons.injEq] at hab
          obtain ⟨rfl, rfl⟩ := hab
          exact ⟨(a, b), ih.2 ⟨rfl, fun hc => hmem (by simp [hc])⟩, rfl⟩

theorem cut?_eq_none_iff {c : Char} {t : Text} : cut? c t = none ↔ c ∉ t := by
  induction t with
  | nil => simp [cut?]
  | cons x t ih =>
    by_cases h : x = c
    · simp [cut?, h]
    · simp [cut?, h, ih, Ne.symm h]

theorem length_cut? {c : Char} {t a b : Text} (h : cut? c t = some (a, b)) :
    b.length < t.length := by
  obtain ⟨rfl, -⟩ := cut?_eq_some_iff.1 h
  simp only [List.length_append, List.length_cons]; omega

end Text

end DialogueScript
