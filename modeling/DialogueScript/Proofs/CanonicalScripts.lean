import DialogueScript.Proofs.WrittenLines

/-!
# The texts of a script that has been read

What a source is read as has a canonical form (`Script.Canonical`), which is said here of its texts
alone, without the grammar that has cut them out and without the printer: ids, speakers and option
texts are visible and trimmed, conditions hold no closing bracket, a choice does not look like an
input, and the content of a dialogue keeps to one line or is a code block that only its first line
could close too early (`canonical_of_parse`).
-/

namespace DialogueScript

open Text Source Variable

/-! ## Canonical forms -/

namespace Source

/-- An id, a speaker or the text of an option: it is not empty, keeps to one line and has no white
space at its ends. -/
structure IsLabel (t : Text) : Prop where
  ne_nil : t ≠ []
  inline : Inline t

/-- The captured lines of a code block, of which only the first one may begin with a fence. -/
structure IsEnclosed (first : Text) (rest : List Text) : Prop where
  unbroken : ∀ l ∈ first :: rest, '\n' ∉ l
  not_fence : ∀ l ∈ rest, ¬fence <+: trim l

/-- The content of a dialogue: one line that opens no code block, or a code block. -/
def IsSpoken (content : Text) : Prop :=
  (Inline content ∧ ¬fence <:+ content) ∨
    ∃ first rest, content = fenced (first :: rest) ∧ IsEnclosed first rest

end Source

/-- An option as a source can offer it. -/
structure ChoiceOption.Canonical (o : ChoiceOption) : Prop where
  text : IsLabel o.text
  condition : IsCondition o.condition

/-- A line as a source can say it. -/
def Line.Canonical : Line → Prop
  | .dialogue speaker content condition =>
    IsCondition condition ∧ (∀ sp, speaker = some sp → IsLabel sp) ∧ IsSpoken content
  | .command content condition => IsCondition condition ∧ Inline content
  | .choice content options condition =>
    IsCondition condition ∧ Inline content ∧
      (∀ name rest, name ≠ [] → (∀ c ∈ name, isWord c = true) →
        content ≠ '{' :: (name ++ '}' :: rest)) ∧
      ∀ o ∈ options, o.Canonical
  | .input name content condition =>
    IsCondition condition ∧ name ≠ [] ∧ (∀ c ∈ name, isWord c = true) ∧
      content ≠ [] ∧ '\n' ∉ content ∧ trimEnd content = content

/-- A script as a source can say it. -/
structure Script.Canonical (s : Script) : Prop where
  metadata : ∀ f v, s.metadata.get f = some v → Inline v
  ids : ∀ n ∈ s.nodes, IsLabel n.id
  lines : ∀ n ∈ s.nodes, ∀ l ∈ n.lines, l.Canonical

/-! ## Normal lines are canonical -/

namespace Source

lemma Speaks.isLabel {speaker : Option Text} {content sp : Text} (h : Speaks speaker content)
    (hsp : speaker = some sp) : IsLabel sp := by
  subst hsp
  obtain ⟨hne, hinline, -⟩ := h
  exact ⟨hne, hinline⟩

lemma not_suffix_of_before?_eq_none {ending t : Text} (h : before? ending t = none) :
    ¬ending <:+ t := by
  rintro ⟨r, rfl⟩
  rw [before?_eq_some_iff.2 rfl] at h
  cases h

/-- A block that has been read holds at least one line, be it an empty one. -/
lemma IsBlock.isSpoken {speaker leading : Option Text} {raws : List Text}
    (h : IsBlock speaker leading raws) : IsSpoken (fenced (leading.toList ++ raws)) := by
  obtain ⟨first, rest, hcaptured, hrest, -⟩ := h.exists_captured?
  obtain ⟨hcontent, -, hbreak⟩ := eq_fenced_of_captured? hcaptured
  exact Or.inr ⟨first, rest, hcontent, hbreak, fun l hl => (hrest l hl).not_fence⟩

end Source

lemma ChoiceOption.Normal.canonical {o : ChoiceOption} (h : o.Normal) : o.Canonical := by
  have hbreak : '\n' ∉ o.text := by
    intro hmem
    apply h.unbroken
    rw [o.toSource_eq]
    exact List.mem_append_left _ hmem
  exact ⟨⟨h.text_ne_nil, h.trim_text, hbreak⟩, h.condition⟩

lemma Line.Normal.canonical {l : Line} (h : l.Normal) : l.Canonical := by
  cases l with
  | dialogue speaker content condition =>
    obtain ⟨hguard, ⟨hcontent, hspeaks, hfence⟩ | ⟨leading, raws, rfl, hblock⟩⟩ := h
    · refine ⟨hguard, fun sp => hspeaks.isLabel, Or.inl ⟨hcontent, ?_⟩⟩
      exact not_suffix_of_before?_eq_none hfence
    · exact ⟨hguard, fun sp => hblock.speaks.isLabel, hblock.isSpoken⟩
  | command content condition => exact h
  | choice content options condition =>
    obtain ⟨hguard, hcontent, hbraced, hoptions⟩ := h
    refine ⟨hguard, hcontent, ?_, fun o ho => (hoptions o ho).canonical⟩
    -- a name in braces would have made the line an input
    rintro name rest hne hword rfl
    rw [braced?_append hne hword] at hbraced
    cases hbraced
  | input name content condition =>
    obtain ⟨hguard, hinput, hne⟩ := h
    exact ⟨hguard, hinput.name_ne_nil, hinput.isWord_name, hne, hinput.unbroken,
      hinput.trimEnd_prompt⟩

namespace Source

/-- What is read with the default options is canonical. -/
theorem canonical_of_parse {text : Text} {s : Script} (h : parse {} text = .ok s) :
    s.Canonical := by
  obtain ⟨hnodes, hmetadata⟩ := normal_of_parse h
  refine ⟨hmetadata, fun n hn => ⟨(hnodes n hn).id_ne_nil, (hnodes n hn).id⟩, fun n hn l hl => ?_⟩
  exact ((hnodes n hn).lines l hl).canonical

/-- A blank guard, a text with a fence in front of the opening fence, an input without a text, braces
without a name, and an option whose text ends in brackets that are no condition. -/
theorem canonical_of_parse_blank_guard :
    ∃ s : Script, s.Canonical ∧ parse {} ("# Title: \u00a0T\n@node start\n".toList ++
      "[ ] > A: \x60\x60\x60foo\x60\x60\x60\n@node x\n\x60\x60\x60\n".toList ++
      "? \x7bn\x7d\n? \x7b\x7d q\n[g] - B [] ".toList) = .ok s := by
  let block : Line :=
    .dialogue (some ['A']) (fenced ["\x60\x60\x60foo".toList, "@node x".toList]) (some [' '])
  let choice : Line := .choice "\x7b\x7d q".toList [⟨"B []".toList, some ['g'], none⟩] none
  let node : Node := ⟨startId, [block, .input ['n'] "Enter n:".toList none, choice], none⟩
  let s : Script := ⟨{ title := some ['T'] }, [node], [(startId, 0)]⟩
  have hparse : parse {} ("# Title: \u00a0T\n@node start\n".toList ++
      "[ ] > A: \x60\x60\x60foo\x60\x60\x60\n@node x\n\x60\x60\x60\n".toList ++
      "? \x7bn\x7d\n? \x7b\x7d q\n[g] - B [] ".toList) = .ok s := rfl
  exact ⟨s, canonical_of_parse hparse, hparse⟩

end Source

end DialogueScript
