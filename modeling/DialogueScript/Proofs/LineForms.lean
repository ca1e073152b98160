import DialogueScript.Proofs.LineBreaks
import DialogueScript.Proofs.OptionSpelling
import DialogueScript.Proofs.Steps

/-!
# The forms of lines that have been read

A line comes out of the grammar in one of a few forms: its texts are trimmed and keep to one line,
a speaker ends before the colon that set it off, a prompt is no input, and so on.
`SourceLine.Normal` says this of what a physical line says (`classify_normal`), `Line.Normal` and
`Node.Normal` of what the pass makes of it, and `Builder.Normal` is the invariant of the pass
(`normal_effect`). A script that has been read is made of normal nodes (`normal_of_parse`).
-/

namespace DialogueScript

open Text Source Variable

namespace Text

/-- A text within one line, without white space at its ends. -/
structure Inline (t : Text) : Prop where
  trim_eq : trim t = t
  unbroken : '\n' ∉ t

/-- What is trimmed keeps to the line that it was trimmed from. -/
lemma inline_trim {t : Text} (h : '\n' ∉ t) : Inline (trim t) :=
  ⟨trim_trim t, fun hmem => h (mem_of_mem_trim hmem)⟩

end Text

namespace Source

/-! ## Speakers -/

/-- Read from bracket depth `d` on, the text has no colon outside brackets and ends outside of
them. -/
def Closes : ℕ → Text → Prop
  | d, [] => d = 0
  | d, c :: t => ¬(c = ':' ∧ d = 0) ∧ Closes (depthAfter d c) t

/-- The cut is at a colon outside of all brackets, and the brackets in front of it close. -/
lemma cutAtColon?_eq_some_iff {d : ℕ} {t a r : Text} :
    cutAtColon? d t = some (a, r) ↔ t = a ++ ':' :: r ∧ Closes d a := by
  induction t generalizing d a with
  | nil => simp [cutAtColon?]
  | cons c t ih =>
    by_cases hcolon : c = ':' ∧ d = 0
    · rcases hcolon with ⟨rfl, rfl⟩
      -- this is the colon that is looked for
      cases a with
      | nil => simp [cutAtColon?, Closes]
      | cons c' a =>
        refine iff_of_false (by simp [cutAtColon?]) ?_
        rintro ⟨heq, hcloses⟩
        cases heq
        exact hcloses.1 ⟨rfl, rfl⟩
    · rw [cutAtColon?, if_neg (by simpa using hcolon), Option.map_eq_some_iff]
      cases a with
      | nil =>
        refine iff_of_false ?_ ?_
        · rintro ⟨⟨a', r'⟩, -, heq⟩
          cases heq
        · rintro ⟨heq, hd⟩
          cases heq
          exact hcolon ⟨rfl, hd⟩
      | cons c' a =>
        constructor
        · rintro ⟨⟨a', r'⟩, hsome, heq⟩
          cases heq
          obtain ⟨rfl, hcloses⟩ := ih.1 hsome
          exact ⟨rfl, hcolon, hcloses⟩
        · rintro ⟨heq, -, hcloses⟩
          cases heq
          exact ⟨(a, r), ih.2 ⟨rfl, hcloses⟩, rfl⟩

lemma depthAfter_of_space {d : ℕ} {c : Char} (h : isSpace c = true) : depthAfter d c = d := by
  have hopen : ¬(c = '[' ∨ c = '(' ∨ c = '{') := by
    rintro (rfl | rfl | rfl) <;> exact absurd h (by decide)
  have hclose : ¬(c = ']' ∨ c = ')' ∨ c = '}') := by
    rintro (rfl | rfl | rfl) <;> exact absurd h (by decide)
  simp only [depthAfter, Bool.or_eq_true, decide_eq_true_eq, or_assoc, if_neg hopen, if_neg hclose]

lemma closes_append_of_space {w : Text} (h : ∀ c ∈ w, isSpace c = true) {d : ℕ} {t : Text} :
    Closes d (w ++ t) ↔ Closes d t := by
  induction w with
  | nil => rfl
  | cons c w ih =>
    have hc : isSpace c = true := h c List.mem_cons_self
    have hcolon : c ≠ ':' := by
      rintro rfl
      exact absurd hc (by decide)
    rw [List.cons_append, Closes, depthAfter_of_space hc]
    simp only [hcolon, false_and, not_false_iff, true_and]
    exact ih fun a ha => h a (List.mem_cons_of_mem c ha)

lemma closes_append_space {w : Text} (h : ∀ c ∈ w, isSpace c = true) {d : ℕ} {t : Text} :
    Closes d (t ++ w) ↔ Closes d t := by
  induction t generalizing d with
  | nil =>
    have hw := closes_append_of_space (d := d) (t := []) h
    rwa [List.append_nil] at hw
  | cons c t ih => rw [List.cons_append, Closes, Closes, ih]

/-- White space has no part in whether brackets close. -/
lemma closes_trim {t : Text} (h : Closes 0 t) : Closes 0 (trim t) := by
  obtain ⟨v, w, heq, hv, hw⟩ := exists_eq_append_trim t
  rw [heq, closes_append_of_space hv, closes_append_space hw] at h
  exact h

lemma speaker?_append {sp r : Text} (hne : sp ≠ []) (htrim : trim sp = sp) (hcloses : Closes 0 sp) :
    speaker? (sp ++ ':' :: r) = some (sp, trim r) := by
  simp only [speaker?, cutAtColon?_eq_some_iff.2 ⟨rfl, hcloses⟩, htrim, if_neg hne]

lemma speaker?_eq_none_iff {t : Text} :
    speaker? t = none ↔ ∀ b r, t = b ++ ':' :: r → Closes 0 b → trim b = [] := by
  unfold speaker?
  cases hcut : cutAtColon? 0 t with
  | none =>
    apply iff_of_true rfl
    intro b r ht hb
    rw [cutAtColon?_eq_some_iff.2 ⟨ht, hb⟩] at hcut
    cases hcut
  | some br =>
    obtain ⟨b, r⟩ := br
    have hhere := cutAtColon?_eq_some_iff.1 hcut
    constructor
    · intro hnone b' r' ht hb
      rw [cutAtColon?_eq_some_iff.2 ⟨ht, hb⟩] at hcut
      cases hcut
      by_contra hne
      simp [hne] at hnone
    · intro hall
      simp [hall b r hhere.1 hhere.2]

/-- Whether a text has a speaker does not depend on what stands behind it without a colon. -/
lemma speaker?_append_eq_none {a x y : Text} (hy : ':' ∉ y) (h : speaker? (a ++ x) = none) :
    speaker? (a ++ y) = none := by
  rw [speaker?_eq_none_iff] at h ⊢
  intro b r heq hb
  -- the colon cannot stand in `y`
  obtain ⟨d, rfl⟩ : ∃ d, a = b ++ ':' :: d := by
    rcases List.append_eq_append_iff.1 heq with ⟨d, -, hd⟩ | ⟨d, ha, hd⟩
    · exact absurd (by rw [hd]; simp) hy
    · cases d with
      | nil => exact absurd (by rw [← List.nil_append y, ← hd]; exact List.mem_cons_self) hy
      | cons c d =>
        obtain ⟨rfl, -⟩ := List.cons.inj hd
        exact ⟨d, ha⟩
  exact h b (d ++ x) (by simp) hb

/-- The speaker of a dialogue with this content. -/
def Speaks (speaker : Option Text) (content : Text) : Prop :=
  match speaker with
  | some sp => sp ≠ [] ∧ Inline sp ∧ Closes 0 sp
  | none => speaker? content = none

/-- A speaker can also speak a code block. -/
lemma Speaks.fence {speaker : Option Text} {content : Text} (h : Speaks speaker content) :
    Speaks speaker fence := by
  cases speaker with
  | none => rfl
  | some sp => exact h

/-! ## Lines -/

/-- The name and the text of an input. -/
structure IsInput (name prompt : Text) : Prop where
  name_ne_nil : name ≠ []
  isWord_name : ∀ c ∈ name, isWord c = true
  trimEnd_prompt : trimEnd prompt = prompt
  skipBlanks_prompt : skipBlanks prompt = prompt
  unbroken : '\n' ∉ prompt

/-- A line that a code block can capture. -/
structure IsCaptured (raw : Text) : Prop where
  unbroken : '\n' ∉ raw
  not_fence : ¬fence <+: trim raw

/-- What the part of a content line behind its guard is like. -/
def Body.Normal : Body → Prop
  | .dialogue speaker content => Inline content ∧ Speaks speaker content
  | .command content => Inline content
  | .prompt content => Inline content ∧ braced? content = none
  | .input name text => IsInput name text
  | .option o => ∃ t, Inline t ∧ option? t = some o
  | _ => True

/-- What a line is like that has been read. -/
def SourceLine.Normal : SourceLine → Prop
  | .verbatim raw => IsCaptured raw
  | .header _ value => Inline value
  | .node id => Inline id
  | .jump target => Inline target
  | .content condition body => IsCondition condition ∧ body.Normal
  | _ => True

/-- What is found as a speaker can be one, and the content behind it keeps to the line. -/
lemma speaks_of_speaker? {t sp content : Text} (ht : '\n' ∉ t)
    (h : speaker? t = some (sp, content)) : Inline content ∧ Speaks (some sp) content := by
  unfold speaker? at h
  split at h
  · rename_i before after hcut
    split at h
    · cases h
    · rename_i hne
      cases h
      obtain ⟨rfl, hcloses⟩ := cutAtColon?_eq_some_iff.1 hcut
      have hbefore : '\n' ∉ before := fun hmem => ht (List.mem_append_left _ hmem)
      have hafter : '\n' ∉ after := fun hmem => ht (by simp [hmem])
      exact ⟨inline_trim hafter, hne, inline_trim hbefore, closes_trim hcloses⟩
  · cases h

lemma isInput_of_braced? {t name rest : Text} (ht : Inline t)
    (h : braced? t = some (name, rest)) : IsInput name (skipBlanks rest) := by
  obtain ⟨rfl, hne, hword⟩ := eq_of_braced? h
  obtain ⟨w, hw, -⟩ := exists_eq_append_skipBlanks rest
  refine ⟨hne, hword, ?_, skipBlanks_skipBlanks rest, fun hmem => ?_⟩
  · refine trimEnd_eq_self_of_append (a := '{' :: (name ++ '}' :: w)) ?_
    have hend := (trim_eq_self_iff.1 ht.trim_eq).2
    rw [hw] at hend
    simpa using hend
  · refine ht.unbroken ?_
    rw [hw]
    simp [hmem]

/-- Whatever form a content line has, it is read as a normal one. -/
lemma readBody_normal {pending : Bool} {t : Text} (h : '\n' ∉ t) : (readBody pending t).Normal := by
  have htail {c : Char} {u : Text} (ht : t = c :: u) : Inline (trim u) :=
    inline_trim fun hmem => h (by rw [ht]; exact List.mem_cons_of_mem c hmem)
  unfold readBody
  split
  · have hinline := htail rfl
    split
    · rename_i speaker content hspeaker
      exact speaks_of_speaker? hinline.unbroken hspeaker
    · rename_i hnone
      exact ⟨hinline, hnone⟩
  · exact htail rfl
  · have hinline := htail rfl
    split
    · rename_i name rest hbraced
      exact isInput_of_braced? hinline hbraced
    · rename_i hnone
      exact ⟨hinline, hnone⟩
  · have hinline := htail rfl
    split
    · split
      · rename_i o hoption
        exact ⟨_, hinline, hoption⟩
      · exact trivial
    · exact trivial
  · exact trivial

lemma readContent_normal {pending : Bool} {t : Text} (h : '\n' ∉ t) :
    (readContent pending t).Normal := by
  have hplain : (SourceLine.content none (readBody pending t)).Normal :=
    ⟨isCondition_none, readBody_normal h⟩
  unfold readContent
  split
  · rename_i condition rest hbracket
    split
    · exact hplain
    · obtain ⟨rfl, hne, hmem⟩ := bracketed?_eq_some_iff.1 hbracket
      obtain ⟨w, hw, -⟩ := exists_eq_append_skipBlanks rest
      refine ⟨fun c hc => ?_, readBody_normal fun hbody => h ?_⟩
      · cases hc
        exact ⟨hne, hmem, fun hcond => h (by simp [hcond])⟩
      · rw [hw]
        simp [hbody]
  · exact hplain

lemma inline_of_directive? {keyword t u : Text} (ht : '\n' ∉ t)
    (h : directive? keyword t = some u) : Inline u := by
  unfold directive? at h
  split at h
  · cases h
    exact ⟨rfl, List.not_mem_nil⟩
  · rename_i c r hafter
    split at h
    · cases h
      have hmem : t = keyword ++ c :: r := after?_eq_some_iff.1 hafter
      exact inline_trim fun hbreak => ht (by rw [hmem]; exact List.mem_append_right _ hbreak)
    · cases h
  · cases h

lemma inline_of_header? {t value : Text} {f : Field} (ht : '\n' ∉ t)
    (h : header? t = some (f, value)) : Inline value := by
  unfold header? at h
  split at h
  · rename_i key v hcut
    obtain ⟨g, -, heq⟩ := Option.map_eq_some_iff.1 h
    cases heq
    obtain ⟨rfl, -⟩ := cut?_eq_some_iff.1 hcut
    exact inline_trim fun hmem => ht (by simp [hmem])
  · cases h

/-- Every line within one line is read as a normal one. -/
lemma classify_normal {c : Context} {raw : Text} (h : '\n' ∉ raw) : (classify c raw).Normal := by
  have htrim : '\n' ∉ trim raw := fun hmem => h (mem_of_mem_trim hmem)
  unfold classify
  split
  · exact trivial
  · rename_i hfence
    split
    · exact ⟨h, by simpa using hfence⟩
    · unfold readTrimmed
      split
      · exact trivial
      · exact trivial
      · rename_i t heq
        split
        · rename_i f value hheader
          refine inline_of_header? (t := t) (fun hmem => htrim ?_) hheader
          rw [heq]
          exact List.mem_cons_of_mem _ hmem
        · exact trivial
      · split
        · rename_i id hid
          exact inline_of_directive? htrim hid
        · split
          · rename_i target htarget
            exact inline_of_directive? htrim htarget
          · exact readContent_normal htrim

/-- The lines of a code block: a text that stood in front of the opening fence, if there was one,
and captured lines. -/
structure IsBlock (speaker : Option Text) (leading : Option Text) (raws : List Text) : Prop where
  speaks : Speaks speaker fence
  leading : ∀ first, leading = some first →
    first ≠ [] ∧ Inline first ∧ Speaks speaker (first ++ ' ' :: fence)
  captured : ∀ raw ∈ raws, IsCaptured raw

/-- A block that has just been opened. -/
lemma isBlock_nil {speaker : Option Text} (h : Speaks speaker fence) : IsBlock speaker none [] where
  speaks := h
  leading := by simp
  captured := by simp

end Source

/-- What a line of a node is like that has been read. -/
def Line.Normal : Line → Prop
  | .dialogue speaker content condition =>
    IsCondition condition ∧
      ((Inline content ∧ Speaks speaker content ∧ before? fence content = none) ∨
        ∃ leading raws, content = fenced (leading.toList ++ raws) ∧ IsBlock speaker leading raws)
  | .command content condition => IsCondition condition ∧ Inline content
  | .choice content options condition =>
    IsCondition condition ∧ Inline content ∧ braced? content = none ∧
      ∀ o ∈ options, o.Normal
  | .input name content condition =>
    IsCondition condition ∧ IsInput name content ∧ content ≠ []

/-- What a node is like that has been read. -/
structure Node.Normal (n : Node) : Prop where
  id_ne_nil : n.id ≠ []
  id : Inline n.id
  lines : ∀ l ∈ n.lines, l.Normal
  jump : ∀ t, n.jump = some t → t ≠ [] ∧ Inline t

namespace Source

/-- The invariant of the pass. -/
structure Builder.Normal (b : Builder) : Prop where
  metadata : ∀ f v, b.metadata.get f = some v → Inline v
  nodes : ∀ m ∈ b.nodes, m.Normal
  current : ∀ m, b.current = some m → m.Normal
  choice : ∀ c, b.choice = some c → c.toLine.Normal
  block : ∀ k, b.block = some k → IsCondition k.condition ∧
    ∃ leading raws, k.captured = leading.toList ++ raws ∧ IsBlock k.speaker leading raws

namespace Builder

variable {n : ℕ} {b : Builder} {line : SourceLine}

lemma normal_empty : ({} : Builder).Normal where
  metadata f v hv := by cases f <;> cases hv
  nodes := by simp
  current := by simp
  choice := by simp
  block := by simp

lemma Normal.log (h : b.Normal) (log : List LogRecord) : ({ b with log := log } : Builder).Normal :=
  ⟨h.metadata, h.nodes, h.current, h.choice, h.block⟩

lemma Normal.append (h : b.Normal) {ls : List Line} (hls : ∀ l ∈ ls, l.Normal) :
    (b.append ls).Normal := by
  refine { h with current := fun m hm => ?_ }
  obtain ⟨m', hcurrent, rfl⟩ := Option.map_eq_some_iff.1 hm
  have hnode : m'.Normal := h.current m' hcurrent
  refine { hnode with lines := fun l hl => ?_ }
  exact (List.mem_append.1 hl).elim (hnode.lines l) (hls l)

lemma Normal.settled (h : b.Normal) : b.settled.Normal := by
  have hwaiting : ∀ l ∈ b.waiting, l.Normal := by
    intro l hl
    rw [waiting, Option.mem_toList, Option.map_eq_some_iff] at hl
    rcases hl with ⟨c, hchoice, rfl⟩
    exact h.choice c hchoice
  exact { h.append hwaiting with choice := fun c hc => by cases hc }

lemma Normal.committed (h : b.Normal) : b.committed.Normal := by
  refine { h with nodes := fun m hm => ?_, current := fun m hm => by cases hm }
  rcases List.mem_append.1 hm with hm | hm
  · exact h.nodes m hm
  · exact h.current m (Option.mem_toList.1 hm)

/-- The text in front of an opening fence. -/
lemma isBlock_of_leading {speaker : Option Text} {content leading : Text}
    (hcontent : Inline content) (hspeaks : Speaks speaker content)
    (hfence : before? fence content = some leading) :
    ∃ first raws, (if trim leading = [] then [] else [trim leading]) = first.toList ++ raws ∧
      IsBlock speaker first raws := by
  obtain rfl := before?_eq_some_iff.1 hfence
  split
  · exact ⟨none, [], rfl, isBlock_nil hspeaks.fence⟩
  · rename_i hne
    refine ⟨some (trim leading), [], rfl, ?_⟩
    refine { isBlock_nil hspeaks.fence with leading := fun first h => ?_ }
    cases h
    refine ⟨hne, inline_trim fun hmem => hcontent.unbroken (List.mem_append_left _ hmem), ?_⟩
    cases speaker with
    | some sp => exact hspeaks
    | none =>
      -- the text in front of the fence begins where the content begins
      have hstart : trimStart leading = leading :=
        trimStart_eq_self_of_append (trim_eq_self_iff.1 hcontent.trim_eq).1
      obtain ⟨w, hw, -⟩ := exists_eq_trimEnd_append leading
      have htrim : leading = trim leading ++ w := by
        rw [trim, hstart]
        exact hw
      have hnone : speaker? (trim leading ++ (w ++ fence)) = none := by
        rw [← List.append_assoc, ← htrim]
        exact hspeaks
      exact speaker?_append_eq_none (by decide) hnone

/-- The default prompt is a text of an input. -/
lemma isInput_fillPrompt {name text : Text} (h : IsInput name text) :
    IsInput name (fillPrompt name ({} : ParseOptions).inputPrompt) := by
  have hfill : fillPrompt name ({} : ParseOptions).inputPrompt =
      ['E', 'n', 't', 'e', 'r', ' '] ++ name ++ [':'] := rfl
  rw [hfill]
  refine { h with trimEnd_prompt := ?_, skipBlanks_prompt := rfl, unbroken := fun hmem => ?_ }
  · exact trimEnd_append_eq_self _ (List.cons_ne_nil _ _) rfl
  · have hname : '\n' ∈ name := by simpa using hmem
    exact absurd (h.isWord_name _ hname) (by decide)

/-- The invariant holds after a line. -/
lemma normal_effect (h : b.Normal) (hline : line.Normal) (hok : line.Acceptable b) :
    (b.effect {} n line).Normal := by
  have hsettled : b.settled.Normal := h.settled
  cases line with
  | fence =>
    cases hblock : b.block with
    | some k =>
      rw [effect_fence_of_block hblock]
      obtain ⟨hcondition, leading, raws, hcaptured, hraws⟩ := h.block k hblock
      -- the block goes to the node as it stands
      have hadded : ∀ l ∈ [k.toLine], l.Normal := by
        intro l hl
        rw [List.mem_singleton.1 hl]
        exact ⟨hcondition, .inr ⟨leading, raws, by rw [hcaptured], hraws⟩⟩
      exact { hsettled.append hadded with block := fun k hk => by cases hk }
    | none =>
      rw [effect_fence_of_no_block hblock]
      refine { hsettled with block := fun k hk => ?_ }
      cases hk
      exact ⟨isCondition_none, none, [], rfl, isBlock_nil rfl⟩
  | verbatim raw =>
    cases hblock : b.block with
    | none =>
      rw [effect, takeVerbatim, hblock]
      exact h
    | some k =>
      obtain ⟨hcondition, leading, raws, hcaptured, hraws⟩ := h.block k hblock
      rw [effect, takeVerbatim, hblock]
      refine { h with block := fun k' hk => ?_ }
      cases hk
      refine ⟨hcondition, leading, raws ++ [raw], by simp [hcaptured], ?_⟩
      refine { hraws with captured := fun r hr => ?_ }
      rcases List.mem_append.1 hr with hr | hr
      · exact hraws.captured r hr
      · rw [List.mem_singleton.1 hr]
        exact hline
  | blank => exact hsettled
  | comment => exact hsettled
  | header field value =>
    refine { hsettled with metadata := fun f v hv => ?_ }
    have hget : (if f = field then some value else b.metadata.get f) = some v := by
      rw [← Metadata.get_set]
      exact hv
    split at hget
    · cases hget
      exact hline
    · exact h.metadata f v hget
  | node id =>
    refine { hsettled.committed with current := fun m hm => ?_ }
    cases hm
    exact ⟨hok.1, hline, by simp, by simp⟩
  | jump target =>
    refine { h with current := fun m hm => ?_ }
    obtain ⟨m', hcurrent, rfl⟩ := Option.map_eq_some_iff.1 hm
    refine { h.current m' hcurrent with jump := fun t ht => ?_ }
    cases ht
    exact ⟨hok.2, hline⟩
  | content condition body =>
    rcases hline with ⟨hcondition, hbody⟩
    cases body with
    | dialogue speaker content =>
      cases hfence : before? fence content with
      | some leading =>
        rw [effect_dialogue_of_fence hfence]
        refine { hsettled with block := fun k hk => ?_ }
        cases hk
        exact ⟨hcondition, isBlock_of_leading hbody.1 hbody.2 hfence⟩
      | none =>
        rw [effect_dialogue_of_no_fence hfence]
        apply hsettled.append
        intro l hl
        rw [List.mem_singleton.1 hl]
        exact ⟨hcondition, .inl ⟨hbody.1, hbody.2, hfence⟩⟩
    | command content =>
      apply hsettled.append
      intro l hl
      rw [List.mem_singleton.1 hl]
      exact ⟨hcondition, hbody⟩
    | input name prompt =>
      apply hsettled.append
      intro l hl
      rw [List.mem_singleton.1 hl]
      by_cases hprompt : prompt = []
      · rw [if_pos hprompt]
        exact ⟨hcondition, isInput_fillPrompt hbody, List.cons_ne_nil _ _⟩
      · rw [if_neg hprompt]
        exact ⟨hcondition, hbody, hprompt⟩
    | prompt content =>
      refine { hsettled with choice := fun c hc => ?_ }
      cases hc
      exact ⟨hcondition, hbody.1, hbody.2, by simp⟩
    | option option =>
      refine { h with choice := fun c hc => ?_ }
      -- the guard of the line can become the condition of the option
      obtain ⟨c', hchoice, rfl⟩ := Option.map_eq_some_iff.1 hc
      obtain ⟨hguard, hcontent, hbraced, hoptions⟩ := h.choice c' hchoice
      rcases hbody with ⟨t, ht, hoption⟩
      refine ⟨hguard, hcontent, hbraced, fun o ho => ?_⟩
      rcases List.mem_append.1 ho with ho | ho
      · exact hoptions o ho
      · rw [List.mem_singleton.1 ho]
        exact ChoiceOption.normal_of_option? ht.trim_eq ht.unbroken hcondition hoption
    | malformedOption text => exact hok.elim
    | unknown text => exact hok.elim

/-- The invariant holds after all lines, by induction on them. -/
lemma normal_advance {raws : List Text} {b' : Builder} (h : b.Normal)
    (hraws : ∀ raw ∈ raws, '\n' ∉ raw) (hadvance : advance {} n raws b = .ok b') : b'.Normal := by
  induction raws generalizing n b with
  | nil =>
    cases hadvance
    exact h
  | cons raw rest ih =>
    obtain ⟨b₁, hstep, hrest⟩ := exists_of_bind_ok hadvance
    obtain ⟨hok, log, rfl⟩ := handle_ok hstep
    have hline : (classify b.context raw).Normal := classify_normal (hraws raw List.mem_cons_self)
    have heffect := normal_effect (n := n) h hline hok
    exact ih (heffect.log log) (fun r hr => hraws r (List.mem_cons_of_mem raw hr)) hrest

end Builder

/-- The nodes of a script that has been read are normal, and its header values keep to a line. -/
lemma normal_of_parse {text : Text} {s : Script} (h : parse {} text = .ok s) :
    (∀ n ∈ s.nodes, n.Normal) ∧ ∀ f v, s.metadata.get f = some v → Inline v := by
  obtain ⟨b, hpass, hassemble⟩ := parse_eq_ok_iff.1 h
  obtain ⟨b₁, hadvance, hfinish⟩ := Builder.exists_of_bind_ok hpass
  obtain ⟨hmetadata, hnodes, -⟩ := Script.assemble_eq_ok_iff.1 hassemble
  obtain ⟨-, log, rfl⟩ := Builder.finish_ok hfinish
  have hnormal : b₁.Normal :=
    Builder.normal_advance Builder.normal_empty (fun _ => not_mem_of_mem_sourceLines) hadvance
  have hend : b₁.settled.committed.Normal := hnormal.settled.committed
  rw [hmetadata, hnodes]
  exact ⟨hend.nodes, hend.metadata⟩

end Source

end DialogueScript
