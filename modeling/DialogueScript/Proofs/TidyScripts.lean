import DialogueScript.Proofs.SourceRoundTrip

/-!
# The scripts that a source can spell

A script need not come from a source text: one that is read from JSON may hold any texts. It is tidy
(`Script.Tidy`) if each of its texts stays clear of the marks of the source format, which is said
here of the texts alone, without the grammar that reads them. A tidy script is what its own source
text is read as, if each of its code blocks can be put between fences (`Line.Enclosed`), and only
then (`parse_toSource_iff_enclosed`).

A tidy line has the form of a line that has been read (`Line.Tidy.normal`), so that the theory of
written lines applies to it.
-/

namespace DialogueScript

open Text Source Variable

/-! ## Tidy texts -/

namespace Source

/-- A speaker without a colon and without opening brackets. -/
structure IsSpeaker (sp : Text) : Prop where
  ne_nil : sp ≠ []
  inline : Inline sp
  clear : ∀ c ∈ sp, c ≠ ':' ∧ c ≠ '[' ∧ c ≠ '(' ∧ c ≠ '{'

end Source

/-- An option whose text holds no opening bracket and no arrow. -/
structure ChoiceOption.Tidy (o : ChoiceOption) : Prop where
  text_ne_nil : o.text ≠ []
  text : Inline o.text
  bracket : '[' ∉ o.text
  arrow : ¬['-', '>'] <:+: o.text
  condition : IsCondition o.condition

/-- A line whose texts stay clear of the marks of the format. The content of a dialogue keeps to one
line, or is a code block of at least one line. -/
def Line.Tidy : Line → Prop
  | .dialogue speaker content condition =>
    IsCondition condition ∧ (∀ sp, speaker = some sp → IsSpeaker sp) ∧
      ((Inline content ∧ ¬fence <:+ content ∧ (speaker = none → speaker? content = none)) ∨
        ∃ ls, ls ≠ [] ∧ (∀ l ∈ ls, '\n' ∉ l) ∧ content = fenced ls)
  | .command content condition => IsCondition condition ∧ Inline content
  | .choice content options condition =>
    IsCondition condition ∧ Inline content ∧
      (∀ name rest, name ≠ [] → (∀ c ∈ name, isWord c = true) →
        content ≠ '{' :: (name ++ '}' :: rest)) ∧
      ∀ o ∈ options, o.Tidy
  | .input name content condition =>
    IsCondition condition ∧ name ≠ [] ∧ (∀ c ∈ name, isWord c = true) ∧ content ≠ [] ∧
      '\n' ∉ content ∧ trimEnd content = content ∧
      ∀ c, content.head? = some c → c ≠ ' ' ∧ c ≠ '\t' ∧ c ≠ '\r'

/-- A script whose texts stay clear of the marks of the format. Nothing is asked of targets: they
are ids. -/
structure Script.Tidy (s : Script) : Prop where
  metadata : ∀ f v, s.metadata.get f = some v → Inline v
  ids : ∀ n ∈ s.nodes, n.id ≠ [] ∧ Inline n.id
  lines : ∀ n ∈ s.nodes, ∀ l ∈ n.lines, l.Tidy

/-- A line that can be put between fences, if it is a code block. A captured line that begins with a
fence would close the block. Only the first one can stand in front of the opening fence instead,
where it is trimmed, and where it must not be taken for a speaker. -/
def Line.Enclosed : Line → Prop
  | .dialogue speaker content _ =>
    ∀ first rest, captured? content = some (first :: rest) →
      (¬fence <+: trim first ∨
        trim first = first ∧ (speaker = none → speaker? (first ++ ' ' :: fence) = none)) ∧
      ∀ raw ∈ rest, ¬fence <+: trim raw
  | _ => True

/-- No line of a code block ends in a carriage return. -/
def Line.WithoutReturns : Line → Prop
  | .dialogue _ content _ =>
    ∀ captured, captured? content = some captured → ∀ raw ∈ captured, raw.getLast? ≠ some '\r'
  | _ => True

/-! ## Options -/

namespace ChoiceOption

variable {o : ChoiceOption}

/-- No tail begins in a text without brackets and arrows, whatever stands behind it. -/
lemma Tidy.read?_append_eq_none (h : o.Tidy) {p s w : Text} (hs : s ≠ []) (heq : o.text = p ++ s)
    (hw : w.head? ≠ some '>') : Tail.read? (s ++ w) = none := by
  have hend : trimEnd s = s := by
    apply trimEnd_eq_self_of_append (a := p)
    rw [← heq]
    exact (trim_eq_self_iff.1 h.text.trim_eq).2
  have hbracket : '[' ∉ s := by
    intro hmem
    apply h.bracket
    rw [heq]
    exact List.mem_append_right p hmem
  cases opening hs hend with
  | arrow q u hq _ =>
    refine absurd ⟨p ++ q, u, ?_⟩ h.arrow
    rw [heq, hq]
    simp
  | closed q c hq _ _ _ => exact absurd (by rw [hq]; simp) hbracket
  | opened q c hq _ _ => exact absurd (by rw [hq]; simp) hbracket
  | other hnone => exact hnone w hw

lemma Tidy.respells (h : o.Tidy) : o.Respells := by
  have hbracket {p c : Text} (heq : o.text = p ++ '[' :: c) : False := by
    apply h.bracket
    rw [heq]
    simp
  unfold Respells
  split
  · intro p _
    refine ⟨fun heq => h.arrow ⟨p, [], ?_⟩, fun c heq => (hbracket heq).elim⟩
    rw [heq, List.append_nil]
  · intro p c _ _ heq
    exact (hbracket heq).elim
  · trivial

lemma skipBlanks_of_inline {g : Text} (h : Inline g) : skipBlanks g = g := by
  cases g with
  | nil => rfl
  | cons c g =>
    have hspace : isSpace c = false :=
      trimStart_eq_self_iff.1 (trim_eq_self_iff.1 h.trim_eq).1 c g rfl
    have hblank : ¬isBlank c = true := by
      intro hblank
      rw [isSpace_of_isBlank hblank] at hspace
      cases hspace
    exact List.dropWhile_cons_of_neg hblank

lemma Tidy.normal (h : o.Tidy) (htarget : ∀ g, o.target = some g → g ≠ [] ∧ Inline g) :
    o.Normal where
  text_ne_nil := h.text_ne_nil
  trim_text := h.text.trim_eq
  condition := h.condition
  target := by
    intro g hg
    obtain ⟨hne, hinline⟩ := htarget g hg
    exact ⟨hne, skipBlanks_of_inline hinline, (trim_eq_self_iff.1 hinline.trim_eq).2⟩
  unbroken := not_mem_toSource h.text.unbroken (fun c hc => (h.condition c hc).unbroken)
    fun g hg => (htarget g hg).2.unbroken
  behind := by
    have hend : trimEnd o.text = o.text := (trim_eq_self_iff.1 h.text.trim_eq).2
    -- what is written behind the text might have been read there, but for the condition
    cases hg : o.target with
    | none =>
      refine ⟨[], ?_, ?_, fun _ _ => rfl, fun _ g hsome => by cases hsome⟩
      · rw [List.append_nil, hend]
      · intro p s _ hs heq
        exact h.read?_append_eq_none hs heq (by simp)
    | some g =>
      obtain ⟨hne, hinline⟩ := htarget g hg
      have hgend : trimEnd g = g := (trim_eq_self_iff.1 hinline.trim_eq).2
      refine ⟨[' ', '-', '>', ' '] ++ g, ?_, ?_, ?_, ?_⟩
      · rw [← List.append_assoc]
        exact trimEnd_append_eq_self _ hne hgend
      · intro p s _ hs heq
        exact h.read?_append_eq_none hs heq (by simp)
      · intro _ hnone
        cases hnone
      · intro _ g' hsome
        cases hsome
        exact ⟨[' ', '-', '>', ' '], rfl, by simp, by simp⟩

end ChoiceOption

/-! ## Lines -/

/-- Without opening brackets the depth stays at zero. -/
lemma Source.IsSpeaker.closes {sp : Text} (h : ∀ c ∈ sp, c ≠ ':' ∧ c ≠ '[' ∧ c ≠ '(' ∧ c ≠ '{') :
    Closes 0 sp := by
  induction sp with
  | nil => rfl
  | cons c sp ih =>
    obtain ⟨hcolon, hsquare, hround, hcurly⟩ := h c List.mem_cons_self
    have hdepth : depthAfter 0 c = 0 := by simp [depthAfter, hsquare, hround, hcurly]
    refine ⟨fun hc => hcolon hc.1, ?_⟩
    rw [hdepth]
    exact ih fun a ha => h a (List.mem_cons_of_mem c ha)

lemma speaks_of_tidy {speaker : Option Text} {content : Text}
    (hspeaker : ∀ sp, speaker = some sp → IsSpeaker sp)
    (hnone : speaker = none → speaker? content = none) : Speaks speaker content := by
  cases speaker with
  | none => exact hnone rfl
  | some sp =>
    have hsp := hspeaker sp rfl
    exact ⟨hsp.ne_nil, hsp.inline, IsSpeaker.closes hsp.clear⟩

lemma before?_eq_none_of_not_suffix {ending t : Text} (h : ¬ending <:+ t) :
    before? ending t = none := by
  rw [Option.eq_none_iff_forall_ne_some]
  intro r hr
  exact h ⟨r, (before?_eq_some_iff.1 hr).symm⟩

/-- A block that can be put between fences has the form of one that has been read. -/
lemma exists_isBlock {speaker : Option Text} {ls : List Text} (hne : ls ≠ [])
    (hbreak : ∀ l ∈ ls, '\n' ∉ l) (hspeaker : ∀ sp, speaker = some sp → IsSpeaker sp)
    {condition : Option Text} (h : (Line.dialogue speaker (fenced ls) condition).Enclosed) :
    ∃ leading raws, ls = leading.toList ++ raws ∧ IsBlock speaker leading raws := by
  have hspeaks : Speaks speaker fence := speaks_of_tidy hspeaker fun _ => rfl
  obtain ⟨first, rest, rfl⟩ := List.exists_cons_of_ne_nil hne
  have hcaptured : captured? (fenced (first :: rest)) = some (first :: rest) := by
    rw [captured?_fenced hbreak, if_neg hne]
  obtain ⟨hfirst, hrest⟩ := h first rest hcaptured
  have hinside : ∀ raw ∈ rest, IsCaptured raw := fun raw hraw =>
    ⟨hbreak raw (List.mem_cons_of_mem first hraw), hrest raw hraw⟩
  have hline : '\n' ∉ first := hbreak first List.mem_cons_self
  by_cases hfence : fence <+: trim first
  · -- the first line stands in front of the opening fence
    rcases hfirst with hnot | ⟨htrim, hnone⟩
    · exact absurd hfence hnot
    · have hvisible : first ≠ [] := by
        rintro rfl
        exact absurd hfence (by decide)
      refine ⟨some first, rest, rfl, hspeaks, fun l hl => ?_, hinside⟩
      cases hl
      exact ⟨hvisible, ⟨htrim, hline⟩, speaks_of_tidy hspeaker hnone⟩
  · refine ⟨none, first :: rest, rfl, hspeaks, by simp, fun raw hraw => ?_⟩
    rcases List.mem_cons.1 hraw with rfl | hraw
    · exact ⟨hline, hfence⟩
    · exact hinside raw hraw

lemma Line.Tidy.normal {l : Line} (h : l.Tidy) (henclosed : l.Enclosed)
    (htarget : ∀ o ∈ l.options, ∀ g, o.target = some g → g ≠ [] ∧ Inline g) : l.Normal := by
  cases l with
  | dialogue speaker content condition =>
    obtain ⟨hguard, hspeaker, ⟨hcontent, hfence, hnone⟩ | ⟨ls, hne, hbreak, rfl⟩⟩ := h
    · refine ⟨hguard, Or.inl ⟨hcontent, speaks_of_tidy hspeaker hnone, ?_⟩⟩
      exact before?_eq_none_of_not_suffix hfence
    · obtain ⟨leading, raws, rfl, hblock⟩ := exists_isBlock hne hbreak hspeaker henclosed
      exact ⟨hguard, Or.inr ⟨leading, raws, rfl, hblock⟩⟩
  | command content condition => exact h
  | choice content options condition =>
    obtain ⟨hguard, hcontent, hname, hoptions⟩ := h
    refine ⟨hguard, hcontent, ?_, fun o ho => (hoptions o ho).normal (htarget o ho)⟩
    rw [Option.eq_none_iff_forall_ne_some]
    rintro ⟨name, rest⟩ hbraced
    obtain ⟨hcut, hne, hword⟩ := eq_of_braced? hbraced
    exact hname name rest hne hword hcut
  | input name content condition =>
    obtain ⟨hguard, hname, hword, hne, hbreak, hend, hhead⟩ := h
    refine ⟨hguard, ⟨hname, hword, hend, ?_, hbreak⟩, hne⟩
    -- the first character is none of the four blanks
    obtain ⟨c, t, rfl⟩ := List.exists_cons_of_ne_nil hne
    obtain ⟨hspace, htab, hreturn⟩ := hhead c rfl
    have hfeed : c ≠ '\n' := by
      rintro rfl
      exact hbreak List.mem_cons_self
    exact List.dropWhile_cons_of_neg (by simp [isBlank, hspace, htab, hreturn, hfeed])

lemma Line.Tidy.respells {l : Line} (h : l.Tidy) (hreturn : l.WithoutReturns) : l.Respells := by
  cases l with
  | dialogue speaker content condition => exact hreturn
  | command content condition => trivial
  | choice content options condition => exact fun o ho => (h.2.2.2 o ho).respells
  | input name content condition => trivial

/-- A line that keeps to one line is no code block. -/
lemma Line.enclosed_of_unbroken {l : Line} (h : '\n' ∉ l.content) : l.Enclosed := by
  cases l with
  | dialogue speaker content condition =>
    intro first rest hcaptured
    have hnone : captured? content = none := captured?_of_inline h
    rw [hnone] at hcaptured
    cases hcaptured
  | _ => trivial

/-- What has been read can be put between fences. -/
lemma Line.Normal.enclosed {l : Line} (h : l.Normal) : l.Enclosed := by
  cases l with
  | dialogue speaker content condition =>
    obtain ⟨-, ⟨hcontent, -⟩ | ⟨leading, raws, rfl, hblock⟩⟩ := h
    · exact enclosed_of_unbroken hcontent.unbroken
    · intro first rest hcaptured
      obtain ⟨first', rest', hcaptured', hrest, hfirst⟩ := hblock.exists_captured?
      rw [hcaptured'] at hcaptured
      cases hcaptured
      refine ⟨?_, fun raw hraw => (hrest raw hraw).not_fence⟩
      rcases hfirst with ⟨-, hfirst⟩ | ⟨-, -, hinline, hspeaks⟩
      · exact Or.inl hfirst.not_fence
      · refine Or.inr ⟨hinline.trim_eq, ?_⟩
        rintro rfl
        exact hspeaks
  | _ => trivial

/-! ## Scripts -/

namespace Script

variable {s : Script}

/-- The targets of a tidy script are tidy, as they are ids of its nodes. -/
lemma Tidy.target (htidy : s.Tidy) {g : Text} (hg : g ∈ s.nodeIds) : g ≠ [] ∧ Inline g := by
  obtain ⟨n, hn, rfl⟩ := List.mem_map.1 hg
  exact htidy.ids n hn

lemma Tidy.normal (hgraph : s.ClosedGraph) (htidy : s.Tidy)
    (henclosed : ∀ n ∈ s.nodes, ∀ l ∈ n.lines, l.Enclosed) : ∀ n ∈ s.nodes, n.Normal := by
  intro n hn
  obtain ⟨hne, hid⟩ := htidy.ids n hn
  refine ⟨hne, hid, fun l hl => ?_, fun t ht => htidy.target (hgraph.jump n hn t ht)⟩
  exact (htidy.lines n hn l hl).normal (henclosed n hn l hl)
    fun o ho g hg => htidy.target (hgraph.target n hn l hl o ho g hg)

/-- A tidy script, of which no captured line ends in a carriage return, is what its source text is
read as if and only if each of its code blocks can be put between fences. -/
theorem parse_toSource_iff_enclosed (h : s.Assembled) (htidy : s.Tidy)
    (hreturn : ∀ n ∈ s.nodes, ∀ l ∈ n.lines, l.WithoutReturns) :
    parse {} s.toSource = .ok s ↔ ∀ n ∈ s.nodes, ∀ l ∈ n.lines, l.Enclosed := by
  constructor
  · intro hparse n hn l hl
    exact (((normal_of_parse hparse).1 n hn).lines l hl).enclosed
  · intro henclosed
    have hnormal := htidy.normal h.closedGraph henclosed
    have hsame : s.nodes.map Node.reread = s.nodes := by
      apply map_eq_self_iff.2
      intro n hn
      apply (Node.reread_eq_self_iff (hnormal n hn)).2
      exact fun l hl => (htidy.lines n hn l hl).respells (hreturn n hn l hl)
    rw [parse_toSource_eq_ok_iff h.closedGraph hnormal htidy.metadata, hsame]
    exact h

/-- A header, an option under a condition, and a code block whose first line stands in front of the
opening fence. -/
theorem parse_toSource_of_enclosed_block : ∃ s : Script, s.Assembled ∧ s.Tidy ∧
    (∀ n ∈ s.nodes, ∀ l ∈ n.lines, l.WithoutReturns) ∧
    (∀ n ∈ s.nodes, ∀ l ∈ n.lines, l.Enclosed) ∧ parse {} s.toSource = .ok s := by
  let first : Text := fence ++ ['x']
  let block : Line := .dialogue (some ['A']) (fenced [first, [' ', '#']]) (some ['c'])
  let choice : Line := .choice ['q'] [⟨['a'], some ['g'], some startId⟩] none
  let s : Script := ⟨{ title := some ['T'] }, [⟨startId, [block, choice], none⟩], [(startId, 0)]⟩
  have hs : s.Assembled := rfl
  have hnodes {P : Line → Prop} (hblock : P block) (hchoice : P choice) :
      ∀ n ∈ s.nodes, ∀ l ∈ n.lines, P l := by
    intro n hn l hl
    rw [List.mem_singleton.1 hn] at hl
    rcases List.mem_pair.1 hl with rfl | rfl
    · exact hblock
    · exact hchoice
  have hcaptured : captured? (fenced [first, [' ', '#']]) = some [first, [' ', '#']] := rfl
  have htidy : s.Tidy := by
    refine ⟨fun f v hv => ?_, fun n hn => ?_, hnodes ?_ ?_⟩
    · cases f <;> cases hv
      exact ⟨rfl, by decide⟩
    · rw [List.mem_singleton.1 hn]
      exact ⟨by decide, rfl, by decide⟩
    · refine ⟨fun c hc => ?_, fun sp hsp => ?_, Or.inr ⟨_, List.cons_ne_nil _ _, ?_, rfl⟩⟩
      · cases hc
        exact ⟨by decide, by decide, by decide⟩
      · cases hsp
        refine ⟨by decide, ⟨rfl, by decide⟩, fun a ha => ?_⟩
        rw [List.mem_singleton.1 ha]
        decide
      · decide
    · refine ⟨isCondition_none, ⟨rfl, by decide⟩, ?_, fun o ho => ?_⟩
      · intro name rest _ _ heq
        cases heq
      rw [List.mem_singleton.1 ho]
      refine ⟨by decide, ⟨rfl, by decide⟩, by decide, by decide, fun c hc => ?_⟩
      cases hc
      exact ⟨by decide, by decide, by decide⟩
  have hreturn : ∀ n ∈ s.nodes, ∀ l ∈ n.lines, l.WithoutReturns := by
    refine hnodes (fun captured h => ?_) trivial
    cases hcaptured.symm.trans h
    decide
  have henclosed : ∀ n ∈ s.nodes, ∀ l ∈ n.lines, l.Enclosed := by
    refine hnodes (fun first' rest h => ?_) trivial
    cases hcaptured.symm.trans h
    exact ⟨Or.inr ⟨rfl, fun h => by cases h⟩, by decide⟩
  exact ⟨s, hs, htidy, hreturn, henclosed,
    (parse_toSource_iff_enclosed hs htidy hreturn).2 henclosed⟩

/-- A script of one node that says one code block. -/
def ofBlock (ls : List Text) : Script :=
  ⟨{}, [⟨startId, [.dialogue none (fenced ls) none], none⟩], [(startId, 0)]⟩

lemma tidy_ofBlock {ls : List Text} (hne : ls ≠ []) (h : ∀ l ∈ ls, '\n' ∉ l) :
    (ofBlock ls).Tidy := by
  refine ⟨fun f v hv => ?_, fun n hn => ?_, fun n hn l hl => ?_⟩
  · cases f <;> cases hv
  · rw [List.mem_singleton.1 hn]
    show startId ≠ [] ∧ Inline startId
    exact ⟨by decide, rfl, by decide⟩
  · rw [List.mem_singleton.1 hn] at hl
    rw [List.mem_singleton.1 hl]
    refine ⟨isCondition_none, ?_, Or.inr ⟨ls, hne, h, rfl⟩⟩
    intro sp hsp
    cases hsp

/-- Tidy scripts that are not read back: a captured line closes the block; a first line that begins
with a fence stands behind a blank, or is taken for a speaker; a captured line ends in a carriage
return. -/
theorem tidy_not_read_back :
    ((ofBlock [['a'], fence]).Assembled ∧ (ofBlock [['a'], fence]).Tidy ∧
      parse {} (ofBlock [['a'], fence]).toSource ≠ .ok (ofBlock [['a'], fence])) ∧
    ((ofBlock [' ' :: fence]).Assembled ∧ (ofBlock [' ' :: fence]).Tidy ∧
      parse {} (ofBlock [' ' :: fence]).toSource ≠ .ok (ofBlock [' ' :: fence])) ∧
    ((ofBlock [fence ++ ['a', ':']]).Assembled ∧ (ofBlock [fence ++ ['a', ':']]).Tidy ∧
      parse {} (ofBlock [fence ++ ['a', ':']]).toSource ≠ .ok (ofBlock [fence ++ ['a', ':']])) ∧
    ((ofBlock [['a', '\r']]).Assembled ∧ (ofBlock [['a', '\r']]).Tidy ∧
      parse {} (ofBlock [['a', '\r']]).toSource ≠ .ok (ofBlock [['a', '\r']])) := by
  have hdiffers {ls : List Text} (hne : ls ≠ []) (h : ∀ l ∈ ls, '\n' ∉ l)
      (hparse : parse {} (ofBlock ls).toSource ≠ .ok (ofBlock ls)) :
      (ofBlock ls).Assembled ∧ (ofBlock ls).Tidy ∧
        parse {} (ofBlock ls).toSource ≠ .ok (ofBlock ls) :=
    ⟨rfl, tidy_ofBlock hne h, hparse⟩
  refine ⟨hdiffers (by decide) (by decide) ?_, hdiffers (by decide) (by decide) ?_,
    hdiffers (by decide) (by decide) ?_, hdiffers (by decide) (by decide) ?_⟩
  · have hagain : parse {} (ofBlock [['a'], fence]).toSource =
        .error ⟨some 5, .unterminatedCodeBlock⟩ := rfl
    exact fun h => nomatch hagain.symm.trans h
  · have hagain : parse {} (ofBlock [' ' :: fence]).toSource =
        .error ⟨some 4, .unterminatedCodeBlock⟩ := rfl
    exact fun h => nomatch hagain.symm.trans h
  · have hagain : parse {} (ofBlock [fence ++ ['a', ':']]).toSource =
        .ok ⟨{}, [⟨startId, [.dialogue (some (fence ++ ['a'])) (fenced []) none], none⟩],
          [(startId, 0)]⟩ := rfl
    exact fun h => absurd (Except.ok.inj (hagain.symm.trans h)) (by decide)
  · have hagain : parse {} (ofBlock [['a', '\r']]).toSource = .ok (ofBlock [['a']]) := rfl
    exact fun h => absurd (Except.ok.inj (hagain.symm.trans h)) (by decide)

end Script

end DialogueScript
