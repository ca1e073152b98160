import DialogueScript.Source.Parse
import DialogueScript.Source.Printer
import Mathlib.Tactic.Common

/-!
# Line breaks

A physical line holds no line feed (`not_mem_of_mem_sourceLines`). Lines that are each ended by a
line feed come back as the physical lines of the text, but for one thing: a carriage return at the
end of a line is taken for a part of the line ending (`lines_flatMap`, `Text.withoutReturn`).
-/

namespace DialogueScript

open Text Source

namespace Text

variable {l t : Text} {c : Char}

/-- The line without a carriage return at its end. -/
def withoutReturn (l : Text) : Text := (before? ['\r'] l).getD l

/-- A line loses nothing if it does not end in a carriage return. -/
lemma withoutReturn_eq_self_iff : l.withoutReturn = l ↔ ∀ a, l ≠ a ++ ['\r'] := by
  unfold withoutReturn
  cases hreturn : before? ['\r'] l with
  | none =>
    apply iff_of_true rfl
    intro a ha
    rw [before?_eq_some_iff.2 ha] at hreturn
    cases hreturn
  | some a =>
    have hl : l = a ++ ['\r'] := before?_eq_some_iff.1 hreturn
    refine iff_of_false (fun h => ?_) fun h => h a hl
    have hlen := congrArg List.length (h.trans hl)
    simp at hlen

/-- A carriage return is lost, or nothing is. -/
lemma eq_withoutReturn_append (l : Text) :
    ∃ w, l = l.withoutReturn ++ w ∧ (w = [] ∨ w = ['\r']) := by
  unfold withoutReturn
  cases hreturn : before? ['\r'] l with
  | none => exact ⟨[], (List.append_nil l).symm, .inl rfl⟩
  | some a => exact ⟨['\r'], before?_eq_some_iff.1 hreturn, .inr rfl⟩

lemma before?_cons {ending : Text} (h : c ∉ ending) (t : Text) :
    before? ending (c :: t) = (before? ending t).map (c :: ·) := by
  ext r
  rw [before?_eq_some_iff, Option.map_eq_some_iff]
  simp only [before?_eq_some_iff]
  constructor
  · intro heq
    cases r with
    | nil => exact absurd (by rw [← List.nil_append ending, ← heq]; exact List.mem_cons_self) h
    | cons d r =>
      obtain ⟨rfl, rfl⟩ := List.cons.inj heq
      exact ⟨r, rfl, rfl⟩
  · rintro ⟨r, rfl, rfl⟩
    rfl

lemma withoutReturn_cons (h : c ≠ '\r') (t : Text) : withoutReturn (c :: t) = c :: t.withoutReturn := by
  have hc : c ∉ ['\r'] := by simpa using h
  rw [withoutReturn, before?_cons hc, withoutReturn]
  cases before? ['\r'] t <;> rfl

/-- What is dropped at the front of a line does not depend on a carriage return at its end. -/
lemma dropWhile_withoutReturn {p : Char → Bool} (hp : p '\r' = false) (l : Text) :
    l.withoutReturn.dropWhile p = withoutReturn (l.dropWhile p) := by
  induction l with
  | nil => rfl
  | cons c l ih =>
    cases hc : p c with
    | true =>
      have hreturn : c ≠ '\r' := by
        rintro rfl
        rw [hp] at hc
        cases hc
      rw [withoutReturn_cons hreturn, List.dropWhile_cons_of_pos hc, List.dropWhile_cons_of_pos hc,
        ih]
    | false =>
      have hkeep : ¬p c = true := Bool.not_eq_true _ ▸ hc
      have hright : (c :: l).dropWhile p = c :: l := List.dropWhile_cons_of_neg hkeep
      rw [hright]
      -- the line keeps its first character, or it was a carriage return and nothing else
      obtain ⟨w, hw, -⟩ := eq_withoutReturn_append (c :: l)
      cases hkept : withoutReturn (c :: l) with
      | nil => rfl
      | cons d u =>
        rw [hkept] at hw
        obtain ⟨rfl, -⟩ := List.cons.inj hw
        exact List.dropWhile_cons_of_neg hkeep

/-- A line feed that ends a line takes with it the carriage return in front. -/
lemma withoutEnding_append (l : Text) : withoutEnding (l ++ ['\n']) = l.withoutReturn := by
  unfold withoutEnding withoutReturn
  cases hreturn : before? ['\r'] l with
  | none =>
    -- an ending of two characters would put a carriage return at the end of the line
    have hboth : before? ['\r', '\n'] (l ++ ['\n']) = none := by
      rw [Option.eq_none_iff_forall_ne_some]
      intro a ha
      have hl : l ++ ['\n'] = (a ++ ['\r']) ++ ['\n'] := by
        simpa using before?_eq_some_iff.1 ha
      rw [before?_eq_some_iff.2 (List.append_cancel_right hl)] at hreturn
      cases hreturn
    rw [hboth, before?_eq_some_iff.2 rfl]
    rfl
  | some a =>
    have hboth : before? ['\r', '\n'] (l ++ ['\n']) = some a := by
      rw [before?_eq_some_iff, before?_eq_some_iff.1 hreturn]
      simp
    rw [hboth]
    rfl

lemma pieces_append (h : '\n' ∉ l) (t : Text) :
    pieces (l ++ '\n' :: t) = (l ++ ['\n']) :: pieces t := by
  induction l with
  | nil => rw [List.nil_append, pieces, if_pos rfl, List.nil_append]
  | cons c l ih =>
    rw [List.mem_cons, not_or] at h
    rw [List.cons_append, pieces, if_neg (Ne.symm h.1), ih h.2]
    rfl

/-- The physical lines of lines that are each ended by a line feed. -/
lemma lines_flatMap {ls : List Text} (h : ∀ l ∈ ls, '\n' ∉ l) :
    lines (ls.flatMap (· ++ ['\n'])) = ls.map withoutReturn := by
  induction ls with
  | nil => rfl
  | cons l ls ih =>
    have hl : '\n' ∉ l := h l List.mem_cons_self
    have hrest := ih fun m hm => h m (List.mem_cons_of_mem l hm)
    rw [lines] at hrest ⊢
    rw [List.flatMap_cons, List.append_assoc, List.singleton_append, pieces_append hl,
      List.map_cons, hrest, withoutEnding_append, List.map_cons]

/-- Behind a line feed, or at the very beginning, a piece of its own begins. -/
lemma pieces_append_of_ended (h : t = [] ∨ t.getLast? = some '\n') (u : Text) :
    pieces (t ++ u) = pieces t ++ pieces u := by
  induction t with
  | nil => rfl
  | cons c t ih =>
    by_cases hbreak : c = '\n'
    · have htail : t = [] ∨ t.getLast? = some '\n' := by
        cases t with
        | nil => exact Or.inl rfl
        | cons c' t => exact Or.inr (by simpa using h)
      rw [List.cons_append, pieces, pieces, if_pos hbreak, if_pos hbreak, ih htail,
        List.cons_append]
    · -- the line of `c` goes on in `t`
      have hne : t ≠ [] := by
        rintro rfl
        rcases h with h | h
        · cases h
        · exact hbreak (by simpa using h)
      have htail : t.getLast? = some '\n' := by
        obtain ⟨c', t, rfl⟩ := List.exists_cons_of_ne_nil hne
        simpa using h
      have hpieces : pieces t ≠ [] := by
        intro hnil
        have hflat := flatten_pieces t
        rw [hnil] at hflat
        exact hne hflat.symm
      obtain ⟨p, ps, hp⟩ := List.exists_cons_of_ne_nil hpieces
      rw [List.cons_append, pieces, pieces, if_neg hbreak, if_neg hbreak, ih (Or.inr htail), hp]
      rfl

/-- Whole lines keep their physical lines in front of anything else. -/
lemma lines_append_of_ended (h : t = [] ∨ t.getLast? = some '\n') (u : Text) :
    lines (t ++ u) = lines t ++ lines u := by
  rw [lines, pieces_append_of_ended h, List.map_append]
  rfl

/-- A piece ends at its line feed. -/
lemma exists_of_mem_pieces {p : Text} (h : p ∈ pieces t) :
    ∃ l, '\n' ∉ l ∧ (p = l ∨ p = l ++ ['\n']) := by
  induction t generalizing p with
  | nil => cases h
  | cons c t ih =>
    unfold pieces at h
    split at h
    · rename_i hc
      rcases List.mem_cons.1 h with rfl | hmem
      · exact ⟨[], List.not_mem_nil, .inr (by rw [hc]; rfl)⟩
      · exact ih hmem
    · rename_i hc
      split at h
      · rw [List.mem_singleton] at h
        refine ⟨[c], ?_, .inl h⟩
        rw [List.mem_singleton]
        exact Ne.symm hc
      · -- the character joins the first piece, and the others stay
        rename_i piece rest hpieces
        rw [hpieces] at ih
        rcases List.mem_cons.1 h with rfl | hmem
        · obtain ⟨l, hl, hp⟩ := ih List.mem_cons_self
          refine ⟨c :: l, ?_, ?_⟩
          · rw [List.mem_cons, not_or]
            exact ⟨Ne.symm hc, hl⟩
          · rcases hp with rfl | rfl
            · exact .inl rfl
            · exact .inr rfl
        · exact ih (List.mem_cons_of_mem piece hmem)

lemma withoutEnding_isPrefix (p : Text) : withoutEnding p <+: p := by
  unfold withoutEnding
  split
  · rename_i line hline
    exact ⟨['\r', '\n'], (before?_eq_some_iff.1 hline).symm⟩
  · cases hline : before? ['\n'] p with
    | none => exact List.prefix_rfl
    | some line => exact ⟨['\n'], (before?_eq_some_iff.1 hline).symm⟩

/-- The ending of a line is all of it that breaks. -/
lemma not_mem_of_mem_lines (h : l ∈ lines t) : '\n' ∉ l := by
  obtain ⟨p, hp, rfl⟩ := List.mem_map.1 h
  obtain ⟨m, hm, rfl | rfl⟩ := exists_of_mem_pieces hp
  · exact fun hmem => hm ((withoutEnding_isPrefix p).subset hmem)
  · rw [withoutEnding_append]
    obtain ⟨w, hw, -⟩ := eq_withoutReturn_append m
    intro hmem
    rw [hw] at hm
    exact hm (List.mem_append_left w hmem)

end Text

namespace Source

/-- No physical line of a source breaks, the first one included, which loses its marks. -/
lemma not_mem_of_mem_sourceLines {raw text : Text} (h : raw ∈ sourceLines text) : '\n' ∉ raw := by
  unfold sourceLines at h
  split at h
  · cases h
  · rename_i first rest hlines
    rcases List.mem_cons.1 h with rfl | hmem
    · have hfirst : '\n' ∉ first := not_mem_of_mem_lines (by rw [hlines]; exact List.mem_cons_self)
      exact fun hmem => hfirst ((List.dropWhile_sublist _).subset hmem)
    · exact not_mem_of_mem_lines (by rw [hlines]; exact List.mem_cons_of_mem first hmem)

end Source

end DialogueScript
