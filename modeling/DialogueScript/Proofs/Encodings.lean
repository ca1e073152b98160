import DialogueScript.Proofs.CodeBlocks
import DialogueScript.Proofs.WrittenLines

/-!
# Texts that are read alike

Three things depend on the program that has saved a text, and not on what it says: a byte order mark
at its front, a line feed at its end, and carriage returns in front of its line feeds. None of them
makes a difference to the pass (`pass_mark`, `pass_newline`, `pass_withReturns`), be it to what it
finds or to the error in which it ends.

The physical lines are the same, but for the last one: behind a final line feed it may have lost a
carriage return, or be an empty line more. At the end of a text neither matters
(`Builder.conclude_last`, `Builder.conclude_blank`).
-/

namespace DialogueScript

open Text

namespace Text

variable {l t : Text} {c : Char}

/-- The text with a carriage return in front of each line feed. -/
def withReturns (t : Text) : Text := t.flatMap fun c => if c = '\n' then ['\r', '\n'] else [c]

lemma withReturns_eq_self (h : '\n' ∉ t) : withReturns t = t := by
  induction t with
  | nil => rfl
  | cons c t ih =>
    rw [List.mem_cons, not_or] at h
    have hc : c ≠ '\n' := Ne.symm h.1
    rw [withReturns, List.flatMap_cons, if_neg hc]
    exact congrArg (c :: ·) (ih h.2)

/-- A carriage return does not cut a line. -/
lemma pieces_withReturns (t : Text) : pieces (withReturns t) = (pieces t).map withReturns := by
  induction t with
  | nil => rfl
  | cons c t ih =>
    by_cases hc : c = '\n'
    · subst hc
      show pieces ('\r' :: '\n' :: withReturns t) = _
      rw [pieces, pieces, if_pos rfl, if_neg (by decide), ih, pieces, if_pos rfl]
      rfl
    · have hcons : withReturns (c :: t) = c :: withReturns t := by
        rw [withReturns, List.flatMap_cons, if_neg hc]
        rfl
      rw [hcons, pieces, pieces, if_neg hc, if_neg hc, ih]
      cases pieces t with
      | nil => simp [withReturns, hc]
      | cons p ps => simp [withReturns, hc]

lemma withoutEnding_eq_self (h : '\n' ∉ l) : withoutEnding l = l := by
  have hnone {w : Text} : before? (w ++ ['\n']) l = none := by
    rw [Option.eq_none_iff_forall_ne_some]
    intro a ha
    apply h
    rw [before?_eq_some_iff.1 ha]
    simp
  have hboth : before? ['\r', '\n'] l = none := hnone (w := ['\r'])
  have hfeed : before? ['\n'] l = none := hnone (w := [])
  rw [withoutEnding, hboth, hfeed]
  rfl

/-- Carriage returns in front of line feeds belong to the line endings. -/
lemma lines_withReturns (h : '\r' ∉ t) : lines (withReturns t) = lines t := by
  rw [lines, pieces_withReturns, List.map_map, lines]
  apply List.map_congr_left
  intro p hp
  have hreturn : '\r' ∉ p := by
    intro hmem
    apply h
    rw [← flatten_pieces t]
    exact List.mem_flatten.2 ⟨p, hp, hmem⟩
  obtain ⟨l, hl, rfl | rfl⟩ := exists_of_mem_pieces hp
  · rw [Function.comp_apply, withReturns_eq_self hl]
  · have hends : withReturns (l ++ ['\n']) = l ++ ['\r'] ++ ['\n'] := by
      rw [withReturns, List.flatMap_append]
      show withReturns l ++ _ = _
      rw [withReturns_eq_self hl]
      simp
    have hkept : l.withoutReturn = l := by
      rw [withoutReturn_eq_self_iff]
      rintro a rfl
      simp at hreturn
    rw [Function.comp_apply, hends, withoutEnding_append, withoutEnding_append, hkept, withoutReturn,
      before?_eq_some_iff.2 rfl]
    rfl

/-! ## The end of a text -/

/-- A text is some whole lines and what stands behind the last line feed. -/
lemma exists_eq_ended_append (t : Text) :
    ∃ a l, t = a ++ l ∧ (a = [] ∨ a.getLast? = some '\n') ∧ '\n' ∉ l := by
  induction t with
  | nil => exact ⟨[], [], rfl, .inl rfl, List.not_mem_nil⟩
  | cons c t ih =>
    obtain ⟨a, l, rfl, ha | ha, hl⟩ := ih
    · subst ha
      by_cases hc : c = '\n'
      · exact ⟨[c], l, rfl, .inr (by rw [hc]; rfl), hl⟩
      · refine ⟨[], c :: l, rfl, .inl rfl, ?_⟩
        rw [List.mem_cons, not_or]
        exact ⟨Ne.symm hc, hl⟩
    · refine ⟨c :: a, l, rfl, .inr ?_, hl⟩
      rw [List.getLast?_cons, ha]
      rfl

lemma pieces_of_not_mem (h : '\n' ∉ l) (hne : l ≠ []) : pieces l = [l] := by
  induction l with
  | nil => exact absurd rfl hne
  | cons c l ih =>
    rw [List.mem_cons, not_or] at h
    rw [pieces, if_neg (Ne.symm h.1)]
    cases l with
    | nil => rfl
    | cons d l => rw [ih h.2 (List.cons_ne_nil d l)]

/-- With another line feed at the end of a text, its last line may lose a carriage return. A text of
whole lines gets an empty line more. -/
lemma exists_lines_newline (t : Text) :
    ∃ (ls : List Text) (l : Text), lines (t ++ ['\n']) = ls ++ [l.withoutReturn] ∧
      (lines t = ls ++ [l] ∨ l = [] ∧ lines t = ls) := by
  obtain ⟨a, l, rfl, ha, hl⟩ := exists_eq_ended_append t
  refine ⟨lines a, l, ?_, ?_⟩
  · have hline : lines (l ++ ['\n']) = [l.withoutReturn] := by
      rw [lines, pieces_append hl, List.map_cons, withoutEnding_append]
      rfl
    rw [List.append_assoc, lines_append_of_ended ha, hline]
  · rw [lines_append_of_ended ha]
    by_cases hne : l = []
    · subst hne
      exact .inr ⟨rfl, List.append_nil _⟩
    · have hline : lines l = [l] := by
        rw [lines, pieces_of_not_mem hl hne, List.map_singleton, withoutEnding_eq_self hl]
      exact .inl (by rw [hline])

/-! ## The front of a text -/

lemma withoutEnding_cons (hreturn : c ≠ '\r') (hfeed : c ≠ '\n') (t : Text) :
    withoutEnding (c :: t) = c :: withoutEnding t := by
  have hboth : c ∉ ['\r', '\n'] := by simp [hreturn, hfeed]
  have hone : c ∉ ['\n'] := by simpa using hfeed
  rw [withoutEnding, before?_cons hboth, before?_cons hone, withoutEnding]
  cases before? ['\r', '\n'] t with
  | some l => rfl
  | none => cases before? ['\n'] t <;> rfl

/-- A character in front of a text stands in front of its first line. -/
lemma lines_cons (hreturn : c ≠ '\r') (hfeed : c ≠ '\n') (t : Text) :
    lines (c :: t) = (c :: (lines t).headD []) :: (lines t).tail := by
  rw [lines, pieces, if_neg hfeed, lines]
  cases pieces t with
  | nil => exact congrArg (List.cons · []) (withoutEnding_cons hreturn hfeed [])
  | cons p ps => exact congrArg (List.cons · _) (withoutEnding_cons hreturn hfeed p)

end Text

namespace Source

/-! ## The physical lines of a source -/

/-- The lines without byte order marks in front of the first one. -/
def unmarked : List Text → List Text
  | [] => []
  | first :: rest => first.dropWhile (· == byteOrderMark) :: rest

lemma sourceLines_eq (text : Text) : sourceLines text = unmarked (lines text) := by
  rw [sourceLines]
  cases lines text <;> rfl

/-- A byte order mark is no part of the first line, but a text of nothing else has a line. -/
lemma sourceLines_mark (text : Text) :
    sourceLines (byteOrderMark :: text) = sourceLines text ∨
      sourceLines (byteOrderMark :: text) = [[]] ∧ sourceLines text = [] := by
  rw [sourceLines_eq, sourceLines_eq, lines_cons (by decide) (by decide)]
  cases lines text with
  | nil => exact .inr ⟨rfl, rfl⟩
  | cons first rest => exact .inl rfl

lemma unmarked_append_singleton (ls : List Text) (l : Text) :
    ∃ (ls' : List Text) (l' : Text), unmarked (ls ++ [l]) = ls' ++ [l'] ∧
      unmarked (ls ++ [l.withoutReturn]) = ls' ++ [l'.withoutReturn] ∧
      (l = [] → l' = [] ∧ unmarked ls = ls') := by
  cases ls with
  | nil =>
    refine ⟨[], l.dropWhile (· == byteOrderMark), rfl, ?_, ?_⟩
    · exact congrArg ([·]) (dropWhile_withoutReturn rfl l)
    · rintro rfl
      exact ⟨rfl, rfl⟩
  | cons first rest =>
    exact ⟨first.dropWhile (· == byteOrderMark) :: rest, l, rfl, rfl, fun h => ⟨h, rfl⟩⟩

/-- With another line feed at the end of a source, its last line may lose a carriage return. A source
of whole lines gets an empty line more. -/
lemma exists_sourceLines_newline (text : Text) :
    ∃ (ls : List Text) (l : Text), sourceLines (text ++ ['\n']) = ls ++ [l.withoutReturn] ∧
      (sourceLines text = ls ++ [l] ∨ l = [] ∧ sourceLines text = ls) := by
  obtain ⟨ls, l, hnewline, hlines⟩ := exists_lines_newline text
  obtain ⟨ls', l', hmore, hless, hempty⟩ := unmarked_append_singleton ls l
  refine ⟨ls', l', ?_, ?_⟩
  · rw [sourceLines_eq, hnewline, hless]
  · rw [sourceLines_eq]
    rcases hlines with hlines | ⟨hl, hlines⟩
    · exact .inl (by rw [hlines, hmore])
    · obtain ⟨hl', hls⟩ := hempty hl
      exact .inr ⟨hl', by rw [hlines, hls]⟩

/-! ## The last line -/

namespace Builder

variable {o : ParseOptions} {n : ℕ} {b : Builder} {raw : Text}

/-- A captured line at the end of a text is lost, for its block is not closed. -/
lemma conclude_captured {k : CodeBlock} (hblock : b.block = some k) (h : ¬fence <+: trim raw) :
    conclude o n [raw] b = b.finish o := by
  have hinside : ∀ r ∈ [raw], ¬fence <+: trim r := by simpa using h
  have hadvance := advance_captured (o := o) (n := n) hblock hinside []
  rw [List.append_nil] at hadvance
  rw [conclude, hadvance, finish, hblock]
  rfl

/-- It makes no difference whether the last line has a carriage return at its end. -/
lemma conclude_last (l : Text) : conclude o n [l.withoutReturn] b = conclude o n [l] b := by
  have hstep (h : classify b.context l.withoutReturn = classify b.context l) :
      conclude o n [l.withoutReturn] b = conclude o n [l] b := by
    rw [conclude, conclude, advance, advance, step, step, h]
  cases hblock : b.block with
  | none =>
    apply hstep
    rw [context, hblock]
    exact classify_withoutReturn l
  | some k =>
    by_cases hfence : fence <+: trim l
    · apply hstep
      rw [classify_of_fence hfence, classify_of_fence (by rwa [trim_withoutReturn])]
    · have hfence' : ¬fence <+: trim l.withoutReturn := by rwa [trim_withoutReturn]
      rw [conclude_captured hblock hfence, conclude_captured hblock hfence']

/-- An empty line closes the waiting choice, and so does the end of the text. -/
lemma conclude_blank : conclude o n [[]] b = b.finish o := by
  cases hblock : b.block with
  | some k => exact conclude_captured hblock (by decide)
  | none =>
    have hread : classify b.context [] = .blank := by
      rw [context, hblock]
      rfl
    rw [conclude, advance, step, hread, handle]
    cases hclose : b.closeChoice o with
    | error halt =>
      rw [finish, hblock, hclose]
      rfl
    | ok b₁ =>
      obtain ⟨log, rfl⟩ := closeChoice_ok hclose
      show Builder.finish o { b.settled with log := log } = _
      rw [finish, finish, show ({ b.settled with log := log } : Builder).block = none from hblock,
        hblock, hclose, closeChoice_of_none (by rfl)]

end Builder

/-! ## The pass -/

variable (o : ParseOptions) (text : Text)

lemma pass_mark : pass o (byteOrderMark :: text) = pass o text := by
  rw [pass_eq_conclude, pass_eq_conclude]
  obtain hsame | ⟨hmark, hnone⟩ := sourceLines_mark text
  · rw [hsame]
  · rw [hmark, hnone, Builder.conclude_blank]
    rfl

lemma pass_newline : pass o (text ++ ['\n']) = pass o text := by
  rw [pass_eq_conclude, pass_eq_conclude]
  obtain ⟨ls, l, hnewline, hsame | ⟨rfl, hless⟩⟩ := exists_sourceLines_newline text
  · rw [hnewline, hsame, Builder.conclude_append, Builder.conclude_append]
    simp only [Builder.conclude_last]
  · have hlast : withoutReturn [] = [] := rfl
    rw [hnewline, hless, Builder.conclude_append, hlast]
    simp only [Builder.conclude_blank]
    rfl

variable {text} in
lemma pass_withReturns (h : '\r' ∉ text) : pass o (withReturns text) = pass o text := by
  rw [pass_eq_conclude, pass_eq_conclude, sourceLines, lines_withReturns h]
  rfl

/-- A byte order mark at the front of a text and a line feed at its end make no difference to what it is
read as, and nor do carriage returns in front of all of its line feeds: the script is the same, or
the error and the line it names. -/
theorem parse_of_encoding :
    parse o (byteOrderMark :: text) = parse o text ∧
      parse o (text ++ ['\n']) = parse o text ∧
      ('\r' ∉ text → parse o (withReturns text) = parse o text) := by
  simp only [parse, parseLogged]
  rw [pass_mark, pass_newline]
  exact ⟨rfl, rfl, fun h => by rw [pass_withReturns o h]⟩

/-- A text that ends in an open choice, with a code block of two lines. -/
theorem parse_of_encoding_open_choice :
    let text : Text := "@node start\n\x60\x60\x60\nx \n\n\x60\x60\x60\n? q".toList
    let s : Script := ⟨{}, [⟨startId, [.dialogue none (fenced [['x', ' '], []]) none,
      .choice ['q'] [] none], none⟩], [(startId, 0)]⟩
    parse {} text = .ok s ∧ parse {} ("\ufeff".toList ++ text) = .ok s ∧
      parse {} (text ++ "\n".toList) = .ok s ∧ '\r' ∉ text ∧
      parse {} "@node start\r\n\x60\x60\x60\r\nx \r\n\r\n\x60\x60\x60\r\n? q".toList = .ok s := by
  intro text s
  have hparse : parse {} text = .ok s := rfl
  have hreturn : '\r' ∉ text := by decide
  obtain ⟨hmark, hnewline, hreturns⟩ := parse_of_encoding {} text
  exact ⟨hparse, hmark.trans hparse, hnewline.trans hparse, hreturn,
    (hreturns hreturn).trans hparse⟩

end Source

end DialogueScript
