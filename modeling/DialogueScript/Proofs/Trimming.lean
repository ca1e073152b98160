import DialogueScript.Text.Blank
import Mathlib.Data.List.DropRight
import Mathlib.Tactic.Common

/-!
# Trimmed texts

A text is trimmed if it neither begins nor ends with white space (`trim_eq_self_iff`). What comes
out of a trimming is such a text (`trim_trim`), and another trimming leaves it as it is. The lemmas
about `trimEnd` and `skipBlanks` say how far they reach into an appended text.
-/

namespace DialogueScript.Text

variable {a b t : Text} {c : Char}

/-! ## The end of a text -/

/-- Nothing is trimmed off behind if the last character is no white space. -/
lemma trimEnd_eq_self_iff : trimEnd t = t ↔ ∀ a c, t = a ++ [c] → isSpace c = false := by
  have hlast : trimEnd t = t ↔ ∀ h : t ≠ [], ¬isSpace (t.getLast h) = true :=
    List.rdropWhile_eq_self_iff
  rw [hlast]
  constructor
  · rintro h a c rfl
    simpa using h (by simp)
  · intro h hne
    rw [h _ _ (List.dropLast_append_getLast hne).symm]
    exact Bool.false_ne_true

lemma trimEnd_trimEnd (t : Text) : trimEnd (trimEnd t) = trimEnd t :=
  List.rdropWhile_idempotent isSpace t

/-- What is trimmed off behind is white space. -/
lemma exists_eq_trimEnd_append (t : Text) :
    ∃ w, t = trimEnd t ++ w ∧ ∀ c ∈ w, isSpace c = true := by
  refine ⟨t.rtakeWhile isSpace, List.rdropWhile_append_rtakeWhile.symm, fun c hc => ?_⟩
  exact List.mem_rtakeWhile_imp hc

/-- Trimming behind does not reach over a character that it leaves. -/
lemma trimEnd_append_of_ne_nil (a : Text) (h : trimEnd b ≠ []) :
    trimEnd (a ++ b) = a ++ trimEnd b := by
  have hne : (b.reverse.dropWhile isSpace).isEmpty = false := by
    rw [List.isEmpty_eq_false_iff]
    exact fun hnil => h (by rw [trimEnd, hnil]; rfl)
  rw [trimEnd, List.reverse_append, List.dropWhile_append, hne]
  simp [trimEnd]

/-- White space behind a text is trimmed off, and so is any that the text itself ends in. -/
lemma trimEnd_append_of_space (a : Text) (h : ∀ c ∈ b, isSpace c = true) :
    trimEnd (a ++ b) = trimEnd a := by
  have hnil : b.reverse.dropWhile isSpace = [] := by
    rw [List.dropWhile_eq_nil_iff]
    exact fun c hc => h c (List.mem_reverse.1 hc)
  rw [trimEnd, List.reverse_append, List.dropWhile_append, hnil]
  rfl

/-- A visible character in front is out of reach of a trimming behind. -/
lemma trimEnd_cons (h : isSpace c = false) (t : Text) : trimEnd (c :: t) = c :: trimEnd t := by
  by_cases hnil : trimEnd t = []
  · have hspace : ∀ a ∈ t, isSpace a = true := List.rdropWhile_eq_nil_iff.1 hnil
    have hc : trimEnd [c] = [c] := List.rdropWhile_concat_neg isSpace [] c (by simp [h])
    rw [hnil, ← List.singleton_append, trimEnd_append_of_space [c] hspace, hc]
  · exact trimEnd_append_of_ne_nil [c] hnil

lemma trimEnd_append_eq_self (a : Text) (hne : b ≠ []) (h : trimEnd b = b) :
    trimEnd (a ++ b) = a ++ b := by
  rw [trimEnd_append_of_ne_nil a (by rwa [h]), h]

/-- The end of a text without trailing white space has none either. -/
lemma trimEnd_eq_self_of_append (h : trimEnd (a ++ b) = a ++ b) : trimEnd b = b := by
  rw [trimEnd_eq_self_iff] at h ⊢
  intro b' c hb
  exact h (a ++ b') c (by rw [hb, List.append_assoc])

/-- A text of nothing but white space has lost it. -/
lemma eq_nil_of_trimEnd_eq_self (h : trimEnd t = t) (hspace : ∀ c ∈ t, isSpace c = true) :
    t = [] := by
  rw [← h]
  exact List.rdropWhile_eq_nil_iff.2 hspace

/-! ## Both ends -/

lemma trimStart_cons_of_not_space (h : isSpace c = false) : trimStart (c :: t) = c :: t := by
  rw [trimStart, List.dropWhile_cons, h]
  rfl

/-- Nothing is trimmed off in front if the first character is no white space. -/
lemma trimStart_eq_self_iff : trimStart t = t ↔ ∀ c a, t = c :: a → isSpace c = false := by
  cases t with
  | nil => exact iff_of_true rfl fun c a h => by cases h
  | cons c a =>
    constructor
    · intro h d b heq
      cases heq
      cases hspace : isSpace c with
      | false => rfl
      | true =>
        -- a dropped character would have made the text shorter
        have hlen := congrArg List.length h
        have hle : (List.dropWhile isSpace a).length ≤ a.length := List.length_dropWhile_le _ _
        rw [trimStart, List.dropWhile_cons, hspace, if_pos rfl, List.length_cons] at hlen
        omega
    · exact fun h => trimStart_cons_of_not_space (h c a rfl)

/-- The front of a text without leading white space has none either. -/
lemma trimStart_eq_self_of_append (h : trimStart (a ++ b) = a ++ b) : trimStart a = a := by
  rw [trimStart_eq_self_iff] at h ⊢
  intro c a' ha
  exact h c (a' ++ b) (by rw [ha, List.cons_append])

lemma trim_cons_of_not_space (h : isSpace c = false) : trim (c :: t) = trimEnd (c :: t) := by
  rw [trim, trimStart_cons_of_not_space h]

lemma trim_cons_of_space (h : isSpace c = true) : trim (c :: t) = trim t := by
  rw [trim, trim, trimStart, List.dropWhile_cons, h]
  rfl

/-- What is trimmed off in front is white space. -/
lemma exists_eq_append_trimStart (t : Text) :
    ∃ w, t = w ++ trimStart t ∧ ∀ c ∈ w, isSpace c = true :=
  ⟨t.takeWhile isSpace, List.takeWhile_append_dropWhile.symm,
    fun _ hc => List.all_eq_true.1 List.all_takeWhile _ hc⟩

/-- A text is what trimming leaves of it, between two pieces of white space. -/
lemma exists_eq_append_trim (t : Text) :
    ∃ v w, t = v ++ (trim t ++ w) ∧ (∀ c ∈ v, isSpace c = true) ∧ ∀ c ∈ w, isSpace c = true := by
  obtain ⟨v, hv, hvspace⟩ := exists_eq_append_trimStart t
  obtain ⟨w, hw, hwspace⟩ := exists_eq_trimEnd_append (trimStart t)
  exact ⟨v, w, hv.trans (congrArg (v ++ ·) hw), hvspace, hwspace⟩

lemma mem_of_mem_trim (h : c ∈ trim t) : c ∈ t := by
  obtain ⟨v, w, heq, -, -⟩ := exists_eq_append_trim t
  rw [heq]
  exact List.mem_append_right v (List.mem_append_left w h)

/-- A trimmed text does not begin with white space, though its end is trimmed last. -/
lemma trimStart_trim (t : Text) : trimStart (trim t) = trim t := by
  cases htrim : trim t with
  | nil => rfl
  | cons c u =>
    -- what is cut off behind leaves the first character where it is
    obtain ⟨w, hw, -⟩ := exists_eq_trimEnd_append (trimStart t)
    have hstart : t.dropWhile isSpace = c :: (u ++ w) := by
      have heq : trimEnd (trimStart t) = c :: u := htrim
      rw [heq] at hw
      exact hw
    have hc : isSpace c = false := by
      have hne : t.dropWhile isSpace ≠ [] := by
        rw [hstart]
        exact List.cons_ne_nil c _
      have hhead := List.head_dropWhile_not isSpace hne
      simpa [hstart] using hhead
    exact trimStart_cons_of_not_space hc

/-- Trimming a text once is enough. -/
lemma trim_trim (t : Text) : trim (trim t) = trim t := by
  rw [trim, trimStart_trim, trim, trimEnd_trimEnd]

lemma trimEnd_trim (t : Text) : trimEnd (trim t) = trim t := trimEnd_trimEnd (trimStart t)

/-- A text is trimmed if nothing is trimmed off either end. -/
lemma trim_eq_self_iff : trim t = t ↔ trimStart t = t ∧ trimEnd t = t := by
  constructor
  · intro h
    refine ⟨?_, ?_⟩
    · rw [← h]
      exact trimStart_trim t
    · rw [← h]
      exact trimEnd_trim t
  · rintro ⟨hstart, hend⟩
    rw [trim, hstart, hend]

/-- Trimming reaches only the end of a text that begins trimmed. -/
lemma trim_append (hne : a ≠ []) (h : trimStart a = a) : trim (a ++ b) = trimEnd (a ++ b) := by
  obtain ⟨c, a', rfl⟩ := List.exists_cons_of_ne_nil hne
  exact trim_cons_of_not_space (trimStart_eq_self_iff.1 h c a' rfl)

/-- Trimming removes white space behind. -/
lemma trim_append_space (a : Text) (h : ∀ c ∈ b, isSpace c = true) : trim (a ++ b) = trim a := by
  rw [trim, trim, trimStart, trimStart, List.dropWhile_append]
  split
  · rename_i hnil
    rw [List.isEmpty_iff.1 hnil, List.dropWhile_eq_nil_iff.2 h]
  · exact trimEnd_append_of_space _ h

/-- Trimming removes white space in front. -/
lemma trim_space_append (h : ∀ c ∈ a, isSpace c = true) (b : Text) : trim (a ++ b) = trim b := by
  rw [trim, trimStart, List.dropWhile_append_of_pos h]
  rfl

/-- Trimming behind first makes no difference to trimming both ends. -/
lemma trim_trimEnd (t : Text) : trim (trimEnd t) = trim t := by
  obtain ⟨w, hw, hspace⟩ := exists_eq_trimEnd_append t
  conv_rhs => rw [hw]
  exact (trim_append_space _ hspace).symm

/-! ## Blanks in front -/

/-- Skipping blanks does not reach over a character that it leaves. -/
lemma skipBlanks_append_of_ne_nil (b : Text) (h : skipBlanks a ≠ []) :
    skipBlanks (a ++ b) = skipBlanks a ++ b := by
  rw [skipBlanks, List.dropWhile_append, if_neg (by rwa [List.isEmpty_iff])]
  rfl

/-- Blanks in front of a text are skipped, and so are any that the text itself begins with. -/
lemma skipBlanks_append_blanks (h : ∀ c ∈ a, isBlank c = true) :
    skipBlanks (a ++ b) = skipBlanks b :=
  List.dropWhile_append_of_pos h

lemma skipBlanks_eq_self_iff : skipBlanks t = t ↔ ∀ c, t.head? = some c → isBlank c = false := by
  rw [skipBlanks, List.dropWhile_eq_self_iff]
  cases t <;> simp

/-- What is skipped is made of blanks. -/
lemma exists_eq_append_skipBlanks (t : Text) :
    ∃ w, t = w ++ skipBlanks t ∧ ∀ c ∈ w, isBlank c = true :=
  ⟨t.takeWhile isBlank, List.takeWhile_append_dropWhile.symm,
    fun _ hc => List.all_eq_true.1 List.all_takeWhile _ hc⟩

lemma skipBlanks_skipBlanks (t : Text) : skipBlanks (skipBlanks t) = skipBlanks t :=
  List.dropWhile_idempotent isBlank t

/-- A text whose end is no white space is not made of blanks alone. -/
lemma skipBlanks_ne_nil (hne : t ≠ []) (h : trimEnd t = t) : skipBlanks t ≠ [] := by
  intro hnil
  rw [skipBlanks, List.dropWhile_eq_nil_iff] at hnil
  exact hne (eq_nil_of_trimEnd_eq_self h fun c hc => isSpace_of_isBlank (hnil c hc))

end DialogueScript.Text
