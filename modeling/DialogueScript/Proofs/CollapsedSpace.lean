import DialogueScript.Proofs.Trimming
import DialogueScript.Proofs.VariableNames

/-!
# Collapsed white space

A text is brought down to single spaces when its words are joined by one space each. What comes of
this is said here without words: each run of white space becomes one space (`collapse`), and the
ends are trimmed (`trim_collapse`).

A placeholder holds no white space, so that it is found in a text if and only if it is found in the
collapsed one (`mentions_trim_collapse_iff`).
-/

namespace DialogueScript

namespace Text

variable {t : Text} {c d : Char}

/-- The text with one space for each run of white space. It stands for the last character of the
run. -/
def collapse : Text → Text
  | [] => []
  | c :: t =>
    if isSpace c = false then c :: collapse t
    else if t.head?.any isSpace then collapse t
    else ' ' :: collapse t

/-! ## Words -/

/-- The words of a text with one space between each two of them. -/
def joined (t : Text) : Text := [' '].intercalate (words t)

lemma words_cons_of_space (h : isSpace c = true) (t : Text) : words (c :: t) = words t := by
  rw [words, List.splitOnP_cons_eq_if_modifyHead, if_pos h]
  rfl

/-- White space ends a word. -/
lemma words_cons_cons_of_space (hc : isSpace c = false) (hd : isSpace d = true) (t : Text) :
    words (c :: d :: t) = [c] :: words t := by
  rw [words, List.splitOnP_cons_eq_if_modifyHead, hc, List.splitOnP_cons_eq_if_modifyHead, if_pos hd]
  rfl

/-- Two characters that are no white space belong to one word. -/
lemma exists_words_cons_cons (hc : isSpace c = false) (hd : isSpace d = false) (t : Text) :
    ∃ w ws, words (d :: t) = (d :: w) :: ws ∧ words (c :: d :: t) = (c :: d :: w) :: ws := by
  obtain ⟨w, ws, hsplit⟩ := List.exists_cons_of_ne_nil (List.splitOnP_ne_nil isSpace t)
  refine ⟨w, ws.filter (!·.isEmpty), ?_, ?_⟩
  · rw [words, List.splitOnP_cons_eq_if_modifyHead, hd, hsplit]
    rfl
  · rw [words, List.splitOnP_cons_eq_if_modifyHead, hc, List.splitOnP_cons_eq_if_modifyHead, hd,
      hsplit]
    rfl

lemma joined_cons_of_space (h : isSpace c = true) (t : Text) : joined (c :: t) = joined t := by
  rw [joined, words_cons_of_space h, joined]

lemma joined_ne_nil (h : words t ≠ []) : joined t ≠ [] := by
  obtain ⟨w, ws, hws⟩ := List.exists_cons_of_ne_nil h
  have hw : w ≠ [] := by
    have hmem : w ∈ words t := by
      rw [hws]
      exact List.mem_cons_self
    simpa [words] using (List.mem_filter.1 hmem).2
  rw [joined, hws]
  cases ws with
  | nil => simpa using hw
  | cons v ws =>
    rw [List.intercalate_cons_cons]
    simp

/-- The space in front of the words, if there are any and the text does not begin with one. -/
def leadingSpace (t : Text) : Text := if t.head?.any isSpace ∧ words t ≠ [] then [' '] else []

lemma leadingSpace_cons (h : isSpace c = false) (t : Text) : leadingSpace (c :: t) = [] := by
  simp [leadingSpace, h]

/-- The first word begins with the first character. -/
lemma joined_cons (h : isSpace c = false) (t : Text) :
    joined (c :: t) = c :: (leadingSpace t ++ joined t) := by
  cases t with
  | nil =>
    have hwords : words [c] = [[c]] := by
      rw [words, List.splitOnP_cons_eq_if_modifyHead, h]
      rfl
    rw [joined, hwords]
    rfl
  | cons d t =>
    cases hd : isSpace d with
    | true =>
      have hspace : leadingSpace (d :: t) = if words t ≠ [] then [' '] else [] := by
        simp [leadingSpace, words_cons_of_space hd, hd]
      rw [joined, words_cons_cons_of_space h hd, hspace, joined_cons_of_space hd, joined]
      cases words t with
      | nil => rfl
      | cons w ws => rw [List.intercalate_cons_cons, if_pos (List.cons_ne_nil w ws)]; rfl
    | false =>
      obtain ⟨w, ws, hwords, hlonger⟩ := exists_words_cons_cons h hd t
      rw [leadingSpace_cons hd, joined, hlonger, joined, hwords]
      cases ws with
      | nil => rfl
      | cons v ws => rw [List.intercalate_cons_cons, List.intercalate_cons_cons]; rfl

lemma trimStart_joined (t : Text) : trimStart (joined t) = joined t := by
  induction t with
  | nil => rfl
  | cons c t ih =>
    cases hc : isSpace c with
    | true => rwa [joined_cons_of_space hc]
    | false =>
      rw [joined_cons hc]
      exact trimStart_cons_of_not_space hc

/-- Behind the last word nothing is left of a collapsed text. -/
lemma trimEnd_collapse (t : Text) : trimEnd (collapse t) = leadingSpace t ++ joined t := by
  induction t with
  | nil => rfl
  | cons c t ih =>
    cases hc : isSpace c with
    | false =>
      rw [collapse, if_pos hc, trimEnd_cons hc, ih, leadingSpace_cons hc, joined_cons hc]
      rfl
    | true =>
      have hvisible : ¬isSpace c = false := by simp [hc]
      rw [collapse, if_neg hvisible, joined_cons_of_space hc]
      by_cases hrun : t.head?.any isSpace = true
      · -- the run goes on
        have hspace : leadingSpace (c :: t) = leadingSpace t := by
          simp [leadingSpace, words_cons_of_space hc, hc, hrun]
        rw [if_pos hrun, ih, hspace]
      · have hnone : leadingSpace t = [] := by simp [leadingSpace, hrun]
        have hspace : leadingSpace (c :: t) = if words t ≠ [] then [' '] else [] := by
          simp [leadingSpace, words_cons_of_space hc, hc]
        rw [hnone, List.nil_append] at ih
        rw [if_neg hrun, hspace]
        by_cases hwords : words t = []
        · have hempty : joined t = [] := by
            rw [joined, hwords]
            rfl
          have hspaces : ∀ a ∈ collapse t, isSpace a = true :=
            List.rdropWhile_eq_nil_iff.1 (ih.trans hempty)
          have hall : ∀ a ∈ ' ' :: collapse t, isSpace a = true :=
            List.forall_mem_cons.2 ⟨rfl, hspaces⟩
          rw [if_neg (not_not_intro hwords), hempty]
          exact List.rdropWhile_eq_nil_iff.2 hall
        · have hne : trimEnd (collapse t) ≠ [] := by
            rw [ih]
            exact joined_ne_nil hwords
          rw [if_pos hwords, ← ih]
          exact trimEnd_append_of_ne_nil [' '] hne

/-- Joining the words of a text is collapsing its white space and trimming it. -/
lemma trim_collapse (t : Text) : trim (collapse t) = joined t := by
  have hend : trimEnd (joined t) = joined t := by
    apply trimEnd_eq_self_of_append (a := leadingSpace t)
    rw [← trimEnd_collapse, trimEnd_trimEnd]
  have hjoined : trim (joined t) = joined t := trim_eq_self_iff.2 ⟨trimStart_joined t, hend⟩
  rw [← trim_trimEnd, trimEnd_collapse]
  unfold leadingSpace
  split
  · exact (trim_cons_of_space rfl).trans hjoined
  · exact hjoined

/-- An em space, a line ending and a no-break space are white space as well. -/
example : collapse "\u2003a \r\n b\u00a0".toList = " a b ".toList ∧
    joined "\u2003a \r\n b\u00a0".toList = "a b".toList := by decide

lemma mem_collapse (h : c ∈ collapse t) (hc : isSpace c = true) : c = ' ' := by
  induction t with
  | nil => cases h
  | cons d t ih =>
    rw [collapse] at h
    split at h
    · rename_i hd
      rcases List.mem_cons.1 h with rfl | h
      · rw [hc] at hd
        cases hd
      · exact ih h
    · split at h
      · exact ih h
      · exact (List.mem_cons.1 h).elim id ih

/-! ## Parts of a text -/

variable {a b p : Text}

/-- A part that begins with `c` is not touched by what stands in front and has no `c`. -/
lemma infix_append_left_iff (h : c ∉ a) : c :: p <:+: a ++ t ↔ c :: p <:+: t := by
  induction a with
  | nil => rfl
  | cons d a ih =>
    rw [List.mem_cons, not_or] at h
    rw [List.cons_append, List.infix_cons_iff, ih h.2, List.cons_prefix_cons]
    exact or_iff_right fun hd => h.1 hd.1

lemma infix_append_right_iff (h : c ∉ b) : p ++ [c] <:+: t ++ b ↔ p ++ [c] <:+: t := by
  have hreverse (u : Text) : p ++ [c] <:+: u ↔ c :: p.reverse <:+: u.reverse := by
    rw [← List.reverse_infix, List.reverse_append]
    rfl
  rw [hreverse, hreverse, List.reverse_append]
  exact infix_append_left_iff (by rwa [List.mem_reverse])

lemma prefix_collapse_iff (h : ∀ c ∈ p, isSpace c = false) : p <+: collapse t ↔ p <+: t := by
  induction t generalizing p with
  | nil => rfl
  | cons c t ih =>
    cases p with
    | nil => exact iff_of_true List.nil_prefix List.nil_prefix
    | cons d p =>
      have hd : isSpace d = false := h d List.mem_cons_self
      cases hc : isSpace c with
      | false =>
        rw [collapse, if_pos hc, List.cons_prefix_cons, List.cons_prefix_cons,
          ih fun a ha => h a (List.mem_cons_of_mem d ha)]
      | true =>
        -- the part begins with a character that is no white space
        have hnot {u : Text} {e : Char} (he : isSpace e = true) : ¬d :: p <+: e :: u := by
          rw [List.cons_prefix_cons]
          rintro ⟨rfl, -⟩
          rw [hd] at he
          cases he
        have hvisible : ¬isSpace c = false := by simp [hc]
        rw [collapse, if_neg hvisible]
        split
        · rename_i hrun
          rw [ih h]
          cases t with
          | nil => cases hrun
          | cons e t => exact iff_of_false (hnot hrun) (hnot hc)
        · exact iff_of_false (hnot rfl) (hnot hc)

/-- Collapsing leaves alone what holds no white space. -/
lemma infix_collapse_iff (h : ∀ a ∈ c :: p, isSpace a = false) :
    c :: p <:+: collapse t ↔ c :: p <:+: t := by
  induction t with
  | nil => rfl
  | cons d t ih =>
    cases hd : isSpace d with
    | false =>
      have hcollapse : collapse (d :: t) = d :: collapse t := by rw [collapse, if_pos hd]
      have hprefix : c :: p <+: d :: collapse t ↔ c :: p <+: d :: t := by
        rw [← hcollapse]
        exact prefix_collapse_iff h
      rw [hcollapse, List.infix_cons_iff, List.infix_cons_iff, hprefix, ih]
    | true =>
      have hskip {e : Char} (he : isSpace e = true) (u : Text) :
          c :: p <:+: e :: u ↔ c :: p <:+: u := by
        refine infix_append_left_iff (a := [e]) fun hmem => ?_
        rw [← List.mem_singleton.1 hmem, h c List.mem_cons_self] at he
        cases he
      have hvisible : ¬isSpace d = false := by simp [hd]
      rw [hskip hd, ← ih, collapse, if_neg hvisible]
      split
      · rfl
      · exact hskip rfl (collapse t)

lemma isWord_of_isSpace (h : isSpace c = true) : isWord c = false := by
  let spaces : List ℕ := List.range' 0x09 5 ++ [0x20, 0x85, 0xA0, 0x1680] ++
    List.range' 0x2000 11 ++ [0x2028, 0x2029, 0x202F, 0x205F, 0x3000]
  have hmem : c.toNat ∈ spaces := by
    simp only [isSpace, Bool.or_eq_true, Bool.and_eq_true, decide_eq_true_eq, beq_iff_eq] at h
    simp only [spaces, List.mem_append, List.mem_range'_1, List.mem_cons, List.not_mem_nil]
    omega
  have hword : ∀ m ∈ spaces, isWord (Char.ofNat m) = false := by decide +kernel
  rw [← Char.ofNat_toNat c]
  exact hword c.toNat hmem

end Text

namespace Variable

open Text

variable {a b n t : Text}

/-! ## Placeholders in a part of a text -/

lemma mentions_append_left_iff (h : '{' ∉ a) : Mentions (a ++ t) n ↔ Mentions t n :=
  and_congr_right' (infix_append_left_iff h)

lemma mentions_append_right_iff (h : '}' ∉ b) : Mentions (t ++ b) n ↔ Mentions t n := by
  refine and_congr_right' ?_
  rw [← List.cons_append]
  exact infix_append_right_iff h

/-- A placeholder is as well found in a text whose white space has been brought down. -/
lemma mentions_trim_collapse_iff : Mentions (trim (collapse t)) n ↔ Mentions t n := by
  have hspace {w : Text} (hw : ∀ c ∈ w, isSpace c = true) : '{' ∉ w ∧ '}' ∉ w :=
    ⟨fun hmem => absurd (hw _ hmem) (by decide), fun hmem => absurd (hw _ hmem) (by decide)⟩
  have htrim : Mentions (trim (collapse t)) n ↔ Mentions (collapse t) n := by
    obtain ⟨v, w, heq, hv, hw⟩ := exists_eq_append_trim (collapse t)
    conv_rhs => rw [heq]
    rw [mentions_append_left_iff (hspace hv).1, mentions_append_right_iff (hspace hw).2]
  rw [htrim]
  refine and_congr_right fun hn => infix_collapse_iff fun c hc => ?_
  rw [← Bool.not_eq_true]
  intro hspace
  -- neither a brace nor a character of a word is white space
  have hword : isWord c = false := isWord_of_isSpace hspace
  rcases List.mem_cons.1 hc with rfl | hc
  · cases hspace
  · rcases List.mem_append.1 hc with hc | hc
    · rw [hn.2 c hc] at hword
      cases hword
    · rw [List.mem_singleton.1 hc] at hspace
      cases hspace

end Variable

end DialogueScript
