import DialogueScript.Proofs.OptionGrammar
import DialogueScript.Source.Printer

/-!
# Spelling an option

An option is written with another tail than it was read with: a guard of its line has become a
bracket, and white space that is no blank has become a space. What stands in the text of the option
may now begin the tail. An option that has been read (`ChoiceOption.Normal`, `normal_of_option?`)
is read again from what is written if, and only if, its text does not
(`ChoiceOption.Respells`, `option?_toSource_eq_some_iff`). Without a guard that becomes a bracket,
the only texts that do are those that end in a closed bracket (`option?_rendered_iff`).
-/

namespace DialogueScript

open Text Source

/-! ## Options as they are read -/

/-- A condition that has been read. -/
structure Source.IsGuard (c : Text) : Prop where
  ne_nil : c ≠ []
  not_mem : ']' ∉ c
  unbroken : '\n' ∉ c

/-- A condition that has been read, if there is one. -/
def Source.IsCondition (condition : Option Text) : Prop := ∀ c, condition = some c → IsGuard c

lemma Source.isCondition_none : IsCondition none := by
  intro c hc
  cases hc

/-- What an option is like that has been read. -/
structure ChoiceOption.Normal (o : ChoiceOption) : Prop where
  text_ne_nil : o.text ≠ []
  trim_text : trim o.text = o.text
  condition : IsCondition o.condition
  target : ∀ g, o.target = some g → g ≠ [] ∧ skipBlanks g = g ∧ trimEnd g = g
  unbroken : '\n' ∉ o.toSource
  /-- What stood behind the text did not begin in it. -/
  behind : ∃ w, trimEnd (o.text ++ w) = o.text ++ w ∧
    (∀ p s, p ≠ [] → s ≠ [] → o.text = p ++ s → Tail.read? (s ++ w) = none) ∧
    (o.condition = none → o.target = none → w = []) ∧
    (o.condition = none → ∀ g, o.target = some g → ∃ v, w = v ++ g ∧ v ≠ [] ∧ ']' ∉ v)

/-- An option that is read back as it is written. Its text may contain a bracket or an arrow, but
not where the tail that is written behind it makes these a tail.

* A written condition closes an open bracket, and is a target for an arrow.
* A written target makes a condition of a closed bracket in front of it. -/
def ChoiceOption.Respells (o : ChoiceOption) : Prop :=
  match o.condition, o.target with
  | some _, _ => ∀ p, p ≠ [] → o.text ≠ p ++ ['-', '>'] ∧ ∀ c, o.text = p ++ '[' :: c → ']' ∈ c
  | none, some _ => ∀ p c, p ≠ [] → c ≠ [] → o.text = p ++ '[' :: (c ++ [']']) → ']' ∈ c
  | none, none => True

namespace ChoiceOption

variable {o : ChoiceOption}

/-- How the target of an option is written. -/
def writtenTarget (o : ChoiceOption) : Text :=
  match o.target with
  | some g => [' ', '-', '>', ' '] ++ g
  | none => []

/-- What is written behind the text of an option. -/
def writtenTail (o : ChoiceOption) : Text :=
  match o.condition with
  | some c => ' ' :: '[' :: (c ++ ']' :: o.writtenTarget)
  | none => o.writtenTarget

lemma toSource_eq (o : ChoiceOption) : o.toSource = o.text ++ o.writtenTail := by
  obtain ⟨text, condition, target⟩ := o
  cases condition <;> cases target <;> simp [toSource, writtenTail, writtenTarget]

lemma arrow?_writtenTarget (h : o.Normal) :
    arrow? (skipBlanks o.writtenTarget) = some o.target := by
  cases htarget : o.target with
  | none =>
    rw [writtenTarget, htarget]
    rfl
  | some g =>
    obtain ⟨hne, hskip, hend⟩ := h.target g htarget
    have hg : skipBlanks (' ' :: g) = g := hskip
    rw [writtenTarget, htarget]
    show arrow? ('-' :: '>' :: ' ' :: g) = some (some g)
    rw [arrow?_arrow (by rwa [hg]), hg, hend]

/-- What is written behind the text is a tail with the parts of the option. -/
lemma read?_writtenTail (h : o.Normal) :
    Tail.read? o.writtenTail = some ⟨o.condition, o.target⟩ := by
  have harrow := arrow?_writtenTarget h
  cases hcondition : o.condition with
  | none =>
    have hnone : bracketed? (skipBlanks o.writtenTarget) = none := by
      cases htarget : o.target <;> rw [writtenTarget, htarget] <;> rfl
    rw [writtenTail, hcondition]
    show Tail.read? o.writtenTarget = _
    rw [read?_of_no_bracket hnone, harrow]
    rfl
  | some c =>
    have hguard : IsGuard c := h.condition c hcondition
    rw [writtenTail, hcondition]
    show Tail.read? (' ' :: '[' :: (c ++ ']' :: o.writtenTarget)) = _
    rw [read?_of_bracket rfl hguard.ne_nil hguard.not_mem, harrow]
    rfl

/-- The written tail begins in no text that respells. -/
lemma read?_append_writtenTail (h : o.Normal) (hrespells : o.Respells) {p s : Text} (hp : p ≠ [])
    (hs : s ≠ []) (heq : o.text = p ++ s) : Tail.read? (s ++ o.writtenTail) = none := by
  obtain ⟨w, hwend, hearlier, hplain, hjump⟩ := h.behind
  have hread : Tail.read? (s ++ w) = none := hearlier p s hp hs heq
  have hsend : trimEnd s = s := by
    refine trimEnd_eq_self_of_append (a := p) ?_
    rw [← heq]
    exact (trim_eq_self_iff.1 h.trim_text).2
  have hne (q : Text) : p ++ q ≠ [] := List.append_ne_nil_of_left_ne_nil hp q
  cases hcondition : o.condition with
  | none =>
    cases htarget : o.target with
    | none =>
      have htail : o.writtenTail = w := by
        simp only [hplain hcondition htarget, writtenTail, writtenTarget, hcondition, htarget]
      rwa [htail]
    | some g =>
      obtain ⟨v, hv, hvne, hmem⟩ := hjump hcondition g htarget
      obtain ⟨hg, -, hgend⟩ := h.target g htarget
      have htail : o.writtenTail = [' ', '-', '>', ' '] ++ g := by
        simp only [writtenTail, writtenTarget, hcondition, htarget]
      simp only [Respells, hcondition, htarget] at hrespells
      rw [htail]
      rw [hv] at hread
      refine read?_append_target hs hsend hread hvne hmem hg hgend fun q c hq hc => ?_
      exact hrespells (p ++ q) c (hne q) hc (by rw [heq, hq, List.append_assoc])
  | some c =>
    simp only [Respells, hcondition] at hrespells
    have htail : o.writtenTail = ' ' :: '[' :: (c ++ ']' :: o.writtenTarget) := by
      simp only [writtenTail, hcondition]
    rw [htail]
    refine read?_append_condition hs hsend hread ?_ (fun q hq => ?_) fun q d hq => ?_
    · refine trimEnd_eq_self_of_append (a := p) ?_
      rw [heq] at hwend
      simpa using hwend
    · exact (hrespells (p ++ q) (hne q)).1 (by rw [heq, hq, List.append_assoc])
    · exact (hrespells (p ++ q) (hne q)).2 d (by rw [heq, hq, List.append_assoc])

/-- A condition behind a text that begins no tail with it stands behind no arrow and no open
bracket. -/
lemma respells_of_read?_eq_none {c y z : Text} (hcondition : o.condition ≠ none)
    (hfree : ']' ∉ z ++ '[' :: c) (hy : arrow? (skipBlanks y) ≠ none)
    (hnone : ∀ p s, p ≠ [] → s ≠ [] → o.text = p ++ s →
      Tail.read? (s ++ (z ++ '[' :: (c ++ ']' :: y))) = none) : o.Respells := by
  obtain ⟨c', hc'⟩ := Option.ne_none_iff_exists'.1 hcondition
  simp only [Respells, hc']
  intro p hp
  constructor
  · intro heq
    have hread := hnone p _ hp (List.cons_ne_nil _ _) heq
    rw [read?_of_no_bracket rfl, Option.map_eq_none_iff] at hread
    have hnil : skipBlanks (z ++ '[' :: (c ++ ']' :: y)) = [] := arrow?_arrow_eq_none_iff.1 hread
    rw [skipBlanks, List.dropWhile_eq_nil_iff] at hnil
    exact absurd (hnil '[' (by simp)) (by decide)
  · intro d heq
    by_contra hd
    have hread := hnone p _ hp (List.cons_ne_nil _ _) heq
    rw [read?_open_bracket_eq_none_iff rfl hd] at hread
    exact hy (hread (z ++ '[' :: c) y (by simp) hfree (by simp))

/-- In a text that does not respell, the written tail begins earlier. -/
lemma exists_read?_append_ne_none (h : o.Normal) (hrespells : ¬o.Respells) :
    ∃ p s, p ≠ [] ∧ s ≠ [] ∧ o.text = p ++ s ∧ Tail.read? (s ++ o.writtenTail) ≠ none := by
  have harrow : arrow? (skipBlanks o.writtenTarget) ≠ none := by
    rw [arrow?_writtenTarget h]
    exact Option.some_ne_none _
  by_contra hnot
  push Not at hnot
  refine hrespells ?_
  cases hcondition : o.condition with
  | none =>
    cases htarget : o.target with
    | none => simp only [Respells, hcondition, htarget]
    | some g =>
      simp only [Respells, hcondition, htarget]
      intro p c hp hc heq
      by_contra hmem
      have hread := hnot p _ hp (List.cons_ne_nil _ _) heq
      have hskip : skipBlanks ('[' :: (c ++ [']']) ++ o.writtenTail) =
          '[' :: (c ++ ']' :: o.writtenTarget) := by
        simp [writtenTail, hcondition, skipBlanks, isBlank]
      rw [read?_of_bracket hskip hc hmem, Option.map_eq_none_iff] at hread
      exact harrow hread
  | some c =>
    have htail : o.writtenTail = [' '] ++ '[' :: (c ++ ']' :: o.writtenTarget) := by
      simp only [writtenTail, hcondition, List.singleton_append]
    rw [htail] at hnot
    have hfree : ']' ∉ [' '] ++ '[' :: c := by
      simp [(h.condition c hcondition).not_mem]
    exact respells_of_read?_eq_none (by simp [hcondition]) hfree harrow hnot

theorem option?_toSource_eq_some_iff (h : o.Normal) : option? o.toSource = some o ↔ o.Respells := by
  constructor
  · intro hsome
    by_contra hrespells
    obtain ⟨p, s, hp, hs, heq, hread⟩ := exists_read?_append_ne_none h hrespells
    obtain ⟨⟨q, tail⟩, hsplit, ho⟩ := Option.map_eq_some_iff.1 hsome
    rw [toSource_eq, heq, List.append_assoc] at hsplit
    -- the text that is read is shorter than the text that was written
    have hle := length_le_of_shortestSplit? hp hread hsplit
    have htext : trimEnd q = o.text := congrArg text ho
    have hstarts : (trimEnd q).length ≤ q.length := (List.rdropWhile_prefix isSpace q).length_le
    have hspos : 0 < s.length := List.length_pos_iff.2 hs
    rw [htext, heq, List.length_append] at hstarts
    omega
  · intro hrespells
    have hsplit : shortestSplit? o.toSource = some (o.text, ⟨o.condition, o.target⟩) := by
      rw [toSource_eq]
      exact shortestSplit?_append h.text_ne_nil (read?_writtenTail h)
        fun p s hp hs heq => read?_append_writtenTail h hrespells hp hs heq
    have hend : trimEnd o.text = o.text := (trim_eq_self_iff.1 h.trim_text).2
    rw [option?, hsplit, Option.map_some]
    show some ⟨trimEnd o.text, o.condition, o.target⟩ = some o
    rw [hend]

lemma trimEnd_append_writtenTarget (h : o.Normal) {a : Text} (ha : trimEnd a = a) :
    trimEnd (a ++ o.writtenTarget) = a ++ o.writtenTarget := by
  cases htarget : o.target with
  | none =>
    have hnil : o.writtenTarget = [] := by simp only [writtenTarget, htarget]
    rw [hnil, List.append_nil, ha]
  | some g =>
    obtain ⟨hne, -, hend⟩ := h.target g htarget
    have hg : o.writtenTarget = [' ', '-', '>', ' '] ++ g := by simp only [writtenTarget, htarget]
    rw [hg, ← List.append_assoc]
    exact trimEnd_append_eq_self _ hne hend

lemma toSource_ne_nil (h : o.Normal) : o.toSource ≠ [] := by
  rw [toSource_eq]
  exact List.append_ne_nil_of_left_ne_nil h.text_ne_nil _

/-- A written option is trimmed. -/
lemma trim_toSource (h : o.Normal) : trim o.toSource = o.toSource := by
  obtain ⟨hstart, hend⟩ := trim_eq_self_iff.1 h.trim_text
  rw [toSource_eq, trim_append h.text_ne_nil hstart, writtenTail]
  cases o.condition with
  | none => exact trimEnd_append_writtenTarget h hend
  | some c =>
    have hbracket : trimEnd (o.text ++ ' ' :: '[' :: c ++ [']']) =
        o.text ++ ' ' :: '[' :: c ++ [']'] :=
      trimEnd_append_eq_self _ (List.cons_ne_nil _ _) rfl
    have htail := trimEnd_append_writtenTarget h hbracket
    simpa using htail

lemma not_mem_toSource (htext : '\n' ∉ o.text) (hcondition : ∀ c, o.condition = some c → '\n' ∉ c)
    (htarget : ∀ g, o.target = some g → '\n' ∉ g) : '\n' ∉ o.toSource := by
  rw [toSource_eq, writtenTail, writtenTarget]
  cases hc : o.condition <;> cases hg : o.target <;> simp_all

/-! ## Options off a line -/

/-- The front of a text that begins with something visible is not white space alone. -/
lemma trimEnd_ne_nil_of_trimStart {q r : Text} (hq : q ≠ [])
    (hstart : trimStart (q ++ r) = q ++ r) : trimEnd q ≠ [] := by
  intro hnil
  obtain ⟨c, p, rfl⟩ := List.exists_cons_of_ne_nil hq
  have hc : isSpace c = false := trimStart_eq_self_iff.1 hstart c (p ++ r) rfl
  obtain ⟨w, hw, hspace⟩ := exists_eq_trimEnd_append (c :: p)
  rw [hnil, List.nil_append] at hw
  rw [hspace c (hw ▸ List.mem_cons_self)] at hc
  cases hc

/-- A target at the end of a trimmed text is trimmed. -/
lemma exists_of_spellsTarget {full : Option Text} {a b g : Text}
    (hend : trimEnd (a ++ b) = a ++ b) (hb : SpellsTarget full b)
    (hg : full.map trimEnd = some g) :
    g ≠ [] ∧ skipBlanks g = g ∧ trimEnd g = g ∧ ∃ y, IsGap y ∧ b = '-' :: '>' :: (y ++ g) := by
  cases hb with
  | absent => cases hg
  | @arrow y g' hy hne hstart =>
    have hgend : trimEnd g' = g' := by
      refine trimEnd_eq_self_of_append (a := a ++ '-' :: '>' :: y) ?_
      simpa using hend
    cases hg
    rw [hgend]
    exact ⟨hne, skipBlanks_eq_self_iff.2 hstart, hgend, y, hy, rfl⟩

/-- An option that is read off a trimmed text, and its condition, or else the guard of the line. -/
lemma normal_of_option? {t : Text} {guard : Option Text} (ht : trim t = t) (hbreak : '\n' ∉ t)
    (hguard : IsCondition guard) (h : option? t = some o) :
    ({ o with condition := o.condition.or guard } : ChoiceOption).Normal := by
  obtain ⟨⟨q, tail⟩, hsplit, rfl⟩ := Option.map_eq_some_iff.1 h
  obtain ⟨hq, r, rfl, hread, hearlier⟩ := exists_of_shortestSplit? hsplit
  obtain ⟨w, hw, hspace⟩ := exists_eq_trimEnd_append q
  obtain ⟨full, ⟨v, a, u, b, rfl, hv, ha, hu, hb⟩, hfull⟩ := read?_eq_some_iff.1 hread
  obtain ⟨hstart, hend⟩ := trim_eq_self_iff.1 ht
  have hqstart : trimStart q = q := trimStart_eq_self_of_append hstart
  have hguards : ∀ c, tail.condition.or guard = some c → IsGuard c := by
    intro c hc
    rcases Option.or_eq_some_iff.1 hc with hown | ⟨-, hline⟩
    · rw [hown] at ha
      cases ha with
      | bracket hcne hcmem => exact ⟨hcne, hcmem, fun hmem => hbreak (by simp [hmem])⟩
    · exact hguard c hline
  have hnone (hc : tail.condition.or guard = none) : a = [] := by
    rw [(Option.or_eq_none_iff.1 hc).1] at ha
    cases ha
    rfl
  have htarget : ∀ g, tail.target = some g → g ≠ [] ∧ skipBlanks g = g ∧ trimEnd g = g ∧
      ∃ y, IsGap y ∧ b = '-' :: '>' :: (y ++ g) := by
    intro g hg
    rw [hg] at hfull
    refine exists_of_spellsTarget (a := q ++ (v ++ (a ++ u))) ?_ hb hfull.symm
    simpa using hend
  have hgap {y : Text} (hy : IsGap y) : ∀ c ∈ y, isSpace c = true :=
    fun c hc => isSpace_of_isBlank (hy c hc)
  refine {
    text_ne_nil := trimEnd_ne_nil_of_trimStart hq hstart
    trim_text := ?_
    condition := hguards
    target := fun g hg => ?_
    unbroken := ?_
    behind := ⟨w ++ (v ++ (a ++ (u ++ b))), ?_, fun p s hp hs heq => ?_, fun hc hg => ?_,
      fun hc g hg => ?_⟩ }
  · exact trim_eq_self_iff.2
      ⟨trimStart_eq_self_of_append (b := w) (by rw [← hw]; exact hqstart), trimEnd_trimEnd q⟩
  · obtain ⟨hgne, hgskip, hgend, -⟩ := htarget g hg
    exact ⟨hgne, hgskip, hgend⟩
  · refine not_mem_toSource (fun hmem => ?_) (fun c hc => (hguards c hc).unbroken)
      fun g hg hmem => ?_
    · exact hbreak (List.mem_append_left _ ((List.rdropWhile_prefix isSpace q).subset hmem))
    · obtain ⟨-, -, -, y, -, rfl⟩ := htarget g hg
      exact hbreak (by simp [show '\n' ∈ g from hmem])
  · rw [← List.append_assoc, ← hw]
    exact hend
  · have hlater := hearlier p (s ++ w) hp (List.append_ne_nil_of_left_ne_nil hs w)
      (hw.trans (by rw [show trimEnd q = p ++ s from heq, List.append_assoc]))
    rwa [List.append_assoc] at hlater
  · -- no condition and no target: the tail was made of blanks, and the text was trimmed
    have hb : b = [] := by
      rw [show tail.target = none from hg, eq_comm, Option.map_eq_none_iff] at hfull
      rw [hfull] at hb
      cases hb
      rfl
    refine eq_nil_of_trimEnd_eq_self (trimEnd_eq_self_of_append (a := trimEnd q) ?_) fun c hmem => ?_
    · rw [← List.append_assoc, ← hw]
      exact hend
    · rw [hnone hc, hb, List.nil_append, List.append_nil, List.mem_append, List.mem_append] at hmem
      rcases hmem with hmem | hmem | hmem
      · exact hspace c hmem
      · exact hgap hv c hmem
      · exact hgap hu c hmem
  · -- in front of the target there are blanks and the arrow only
    obtain ⟨-, -, -, y, hy, rfl⟩ := htarget g hg
    refine ⟨w ++ (v ++ (u ++ '-' :: '>' :: y)), by simp [hnone hc], by simp, fun hmem => ?_⟩
    have hcases : ']' ∈ w ∨ ']' ∈ v ∨ ']' ∈ u ∨ ']' ∈ y := by simpa using hmem
    rcases hcases with hmem | hmem | hmem | hmem
    · exact absurd (hspace _ hmem) (by decide)
    · exact absurd (hv _ hmem) (by decide)
    · exact absurd (hu _ hmem) (by decide)
    · exact absurd (hy _ hmem) (by decide)

/-! ## Options as they are written -/

/-- A condition that stood in the option itself stands behind no bracket and no arrow that could
take it: these would have begun the tail. -/
lemma respells_of_condition {t c : Text} (h : option? t = some o) (hc : o.condition = some c) :
    o.Respells := by
  obtain ⟨⟨q, tail⟩, hsplit, rfl⟩ := Option.map_eq_some_iff.1 h
  obtain ⟨-, r, -, hread, hearlier⟩ := exists_of_shortestSplit? hsplit
  obtain ⟨w, hw, hspace⟩ := exists_eq_trimEnd_append q
  obtain ⟨g, ⟨v, a, u, b, rfl, hv, ha, hu, hb⟩, -⟩ := read?_eq_some_iff.1 hread
  rw [show tail.condition = some c from hc] at ha
  cases ha with
  | bracket hne hmem =>
    have hfree : ']' ∉ w ++ v ++ '[' :: c := by
      intro hin
      have hcases : ']' ∈ w ∨ ']' ∈ v ∨ ']' ∈ c := by simpa using hin
      rcases hcases with hin | hin | hin
      · exact absurd (hspace _ hin) (by decide)
      · exact absurd (hv _ hin) (by decide)
      · exact hmem hin
    have harrow : arrow? (skipBlanks (u ++ b)) = some (g.map trimEnd) := by
      rw [skipBlanks_append_blanks hu, hb.skipBlanks]
      exact arrow?_eq_some_iff.2 ⟨g, hb, rfl⟩
    refine respells_of_read?_eq_none (c := c) (y := u ++ b) (z := w ++ v) ?_ hfree ?_
      fun p s hp hs heq => ?_
    · rw [hc]
      exact Option.some_ne_none c
    · rw [harrow]
      exact Option.some_ne_none _
    · have hnone := hearlier p (s ++ w) hp (List.append_ne_nil_of_left_ne_nil hs w)
        (by rw [← List.append_assoc, ← show trimEnd q = p ++ s from heq, ← hw])
      simpa using hnone

/-- The text ends in a closed bracket. A target that is written behind it makes it a condition. -/
def EndsInBracket (o : ChoiceOption) : Prop :=
  ∃ p c, p ≠ [] ∧ c ≠ [] ∧ ']' ∉ c ∧ o.text = p ++ '[' :: (c ++ [']'])

/-- What an option is read from is written again, and read as the same option, unless it leads
somewhere without a condition and its text ends in a closed bracket. -/
theorem option?_rendered_iff {t : Text} (hne : t ≠ []) (ht : trim t = t) (hbreak : '\n' ∉ t) :
    ∃ o, option? t = some o ∧ trimEnd ('-' :: ' ' :: o.toSource) = '-' :: ' ' :: o.toSource ∧
      (option? o.toSource = some o ↔
        (o.condition = none → o.target ≠ none → ¬o.EndsInBracket)) := by
  obtain ⟨o, ho⟩ := Option.ne_none_iff_exists'.1 (mt option?_eq_none_iff.1 hne)
  have hnormal : o.Normal := by
    have hline := normal_of_option? ht hbreak isCondition_none ho
    rwa [Option.or_none] at hline
  refine ⟨o, ho, ?_, ?_⟩
  · have hend : trimEnd o.toSource = o.toSource := (trim_eq_self_iff.1 (trim_toSource hnormal)).2
    exact trimEnd_append_eq_self ['-', ' '] (toSource_ne_nil hnormal) hend
  · rw [option?_toSource_eq_some_iff hnormal]
    cases hcondition : o.condition with
    | some c => exact iff_of_true (respells_of_condition ho hcondition) fun hnone => by cases hnone
    | none =>
      cases htarget : o.target with
      | none =>
        refine iff_of_true ?_ fun _ hsome => absurd rfl hsome
        simp only [Respells, hcondition, htarget]
      | some g =>
        have hrespells : o.Respells ↔
            ∀ p c, p ≠ [] → c ≠ [] → o.text = p ++ '[' :: (c ++ [']']) → ']' ∈ c := by
          simp only [Respells, hcondition, htarget]
        rw [hrespells]
        constructor
        · rintro hall - - ⟨p, c, hp, hc, hmem, heq⟩
          exact hmem (hall p c hp hc heq)
        · intro hnot p c hp hc heq
          by_contra hmem
          exact hnot rfl (Option.some_ne_none g) ⟨p, c, hp, hc, hmem, heq⟩

/-- White space that is no blank parts a text with brackets in it from its target. -/
theorem option?_rendered_of_visible_end :
    option? "Say [hi] now\u00a0-> x".toList = some ⟨"Say [hi] now".toList, none, some ['x']⟩ ∧
      option? (toSource ⟨"Say [hi] now".toList, none, some ['x']⟩) =
        some ⟨"Say [hi] now".toList, none, some ['x']⟩ := by
  have hread : option? "Say [hi] now\u00a0-> x".toList =
      some ⟨"Say [hi] now".toList, none, some ['x']⟩ := rfl
  obtain ⟨o, ho, -, hiff⟩ := option?_rendered_iff (t := "Say [hi] now\u00a0-> x".toList)
    (by decide) (by decide) (by decide)
  cases hread.symm.trans ho
  refine ⟨hread, hiff.2 fun _ _ hends => ?_⟩
  obtain ⟨p, c, -, -, -, heq⟩ := hends
  have hlast := congrArg List.getLast? heq
  rw [← List.cons_append, ← List.append_assoc, List.getLast?_append] at hlast
  cases hlast

/-- Only white space that is no blank keeps the bracket of this text away from the arrow. It is
written as a space, and the bracket is read as a condition. -/
theorem option?_rendered_ne :
    trim "A [c]\u00a0-> x".toList = "A [c]\u00a0-> x".toList ∧ '\n' ∉ "A [c]\u00a0-> x".toList ∧
      option? "A [c]\u00a0-> x".toList = some ⟨"A [c]".toList, none, some ['x']⟩ ∧
      toSource ⟨"A [c]".toList, none, some ['x']⟩ = "A [c] -> x".toList ∧
      option? "A [c] -> x".toList = some ⟨['A'], some ['c'], some ['x']⟩ ∧
      (⟨['A'], some ['c'], some ['x']⟩ : ChoiceOption) ≠ ⟨"A [c]".toList, none, some ['x']⟩ :=
  ⟨rfl, by decide, rfl, rfl, rfl, by decide⟩

end ChoiceOption

end DialogueScript
