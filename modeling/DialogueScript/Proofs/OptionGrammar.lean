import DialogueScript.Proofs.OptionTails
import DialogueScript.Source.Line
import Mathlib.Order.Bounds.Basic

/-!
# The grammar of options

How an option tail is spelled is said here without a reader: blanks, a condition in brackets or
none, blanks, an arrow with its target or none (`SpellsTail`). The reader goes straight ahead, and
still finds every tail and only tails (`read?_eq_some_iff`), because the parts are fixed by the text
that spells them (`SpellsTail.unique`). So an option is read at the first place where a tail begins,
and only an empty text is none (`option?_splits_first`).
-/

namespace DialogueScript.Source

open Text

/-! ## Spelling a tail -/

/-- A run of blanks, which may be empty. -/
def IsGap (w : Text) : Prop := ∀ c ∈ w, isBlank c = true

/-- A condition in brackets, or nothing at all. -/
inductive SpellsCondition : Option Text → Text → Prop where
  | absent : SpellsCondition none []
  | bracket {c : Text} (hne : c ≠ []) (hmem : ']' ∉ c) :
      SpellsCondition (some c) ('[' :: (c ++ [']']))

/-- An arrow, blanks and a target that does not begin with a blank, or nothing at all. -/
inductive SpellsTarget : Option Text → Text → Prop where
  | absent : SpellsTarget none []
  | arrow {w g : Text} (hw : IsGap w) (hne : g ≠ [])
      (hstart : ∀ c, g.head? = some c → isBlank c = false) :
      SpellsTarget (some g) ('-' :: '>' :: (w ++ g))

/-- The text `r` is a tail with these parts. The target is not yet trimmed. -/
def SpellsTail (condition target : Option Text) (r : Text) : Prop :=
  ∃ v a w b, r = v ++ (a ++ (w ++ b)) ∧ IsGap v ∧ SpellsCondition condition a ∧ IsGap w ∧
    SpellsTarget target b

variable {condition target : Option Text} {b c r u w : Text}

lemma exists_gap (t : Text) : ∃ w, IsGap w ∧ t = w ++ skipBlanks t := by
  obtain ⟨w, hw, hblank⟩ := exists_eq_append_skipBlanks t
  exact ⟨w, hblank, hw⟩

namespace SpellsTarget

/-- An arrow part begins with an arrow, so that no blank is skipped in front of it. -/
lemma skipBlanks (h : SpellsTarget target b) : Text.skipBlanks b = b := by
  cases h <;> rfl

lemma bracketed?_eq_none (h : SpellsTarget target b) : bracketed? b = none := by
  cases h <;> rfl

lemma unique {target' : Option Text} (h : SpellsTarget target b) (h' : SpellsTarget target' b) :
    target = target' := by
  cases h with
  | absent => cases h'; rfl
  | @arrow w g hw hne hstart =>
    generalize heq : '-' :: '>' :: (w ++ g) = b at h'
    cases h' with
    | absent => cases heq
    | @arrow w' g' hw' hne' hstart' =>
      have hrest : w ++ g = w' ++ g' := by simpa using heq
      have hskip := congrArg Text.skipBlanks hrest
      rw [skipBlanks_append_blanks hw, skipBlanks_append_blanks hw', skipBlanks_eq_self_iff.2 hstart,
        skipBlanks_eq_self_iff.2 hstart'] at hskip
      rw [hskip]

end SpellsTarget

/-- The arrow reader takes what spells an arrow part, and trims its target. -/
lemma arrow?_eq_some_iff :
    arrow? b = some target ↔ ∃ g, SpellsTarget g b ∧ target = g.map trimEnd := by
  constructor
  · intro h
    unfold arrow? at h
    split at h
    · cases h
      exact ⟨none, .absent, rfl⟩
    · rename_i u
      split at h
      · cases h
      · rename_i hne
        cases h
        obtain ⟨w, hw, hu⟩ := exists_gap u
        refine ⟨some (skipBlanks u), ?_, rfl⟩
        have hstart := skipBlanks_eq_self_iff.1 (skipBlanks_skipBlanks u)
        have hspells := SpellsTarget.arrow hw hne hstart
        rwa [← hu] at hspells
    · cases h
  · rintro ⟨g, hg, rfl⟩
    cases hg with
    | absent => rfl
    | @arrow w g hw hne hstart =>
      have hskip : skipBlanks (w ++ g) = g := by
        rw [skipBlanks_append_blanks hw, skipBlanks_eq_self_iff.2 hstart]
      rw [arrow?_arrow (by rwa [hskip]), hskip]
      rfl

/-! ## Reading a tail -/

lemma spellsTail_none_iff : SpellsTail none target r ↔ SpellsTarget target (skipBlanks r) := by
  constructor
  · rintro ⟨v, a, w, b, rfl, hv, ha, hw, hb⟩
    cases ha
    rw [skipBlanks_append_blanks hv, List.nil_append, skipBlanks_append_blanks hw, hb.skipBlanks]
    exact hb
  · intro hb
    obtain ⟨v, hv, hr⟩ := exists_gap r
    exact ⟨v, [], [], skipBlanks r, hr, hv, .absent, by simp [IsGap], hb⟩

lemma spellsTail_some_iff :
    SpellsTail (some c) target r ↔
      ∃ u, bracketed? (skipBlanks r) = some (c, u) ∧ SpellsTarget target (skipBlanks u) := by
  constructor
  · rintro ⟨v, a, w, b, rfl, hv, ha, hw, hb⟩
    cases ha with
    | bracket hne hmem =>
      refine ⟨w ++ b, ?_, ?_⟩
      · rw [skipBlanks_append_blanks hv, bracketed?_eq_some_iff]
        refine ⟨?_, hne, hmem⟩
        show '[' :: (c ++ [']'] ++ (w ++ b)) = _
        rw [List.append_assoc, List.singleton_append]
      · rw [skipBlanks_append_blanks hw, hb.skipBlanks]
        exact hb
  · rintro ⟨u, hbracket, hb⟩
    obtain ⟨heq, hne, hmem⟩ := bracketed?_eq_some_iff.1 hbracket
    obtain ⟨v, hv, hr⟩ := exists_gap r
    obtain ⟨w, hw, hu⟩ := exists_gap u
    refine ⟨v, '[' :: (c ++ [']']), w, skipBlanks u, ?_, hv, .bracket hne hmem, hw, hb⟩
    rw [← hu, List.cons_append, List.append_assoc, List.singleton_append, ← heq]
    exact hr

lemma spellsTail_iff_of_bracket (h : bracketed? (skipBlanks r) = some (c, u)) :
    SpellsTail condition target r ↔ condition = some c ∧ SpellsTarget target (skipBlanks u) := by
  constructor
  · intro hr
    cases condition with
    | none =>
      have hnone := (spellsTail_none_iff.1 hr).bracketed?_eq_none
      rw [h] at hnone
      cases hnone
    | some d =>
      obtain ⟨u', hu, htarget⟩ := spellsTail_some_iff.1 hr
      rw [h] at hu
      cases hu
      exact ⟨rfl, htarget⟩
  · rintro ⟨rfl, htarget⟩
    exact spellsTail_some_iff.2 ⟨u, h, htarget⟩

lemma spellsTail_iff_of_no_bracket (h : bracketed? (skipBlanks r) = none) :
    SpellsTail condition target r ↔ condition = none ∧ SpellsTarget target (skipBlanks r) := by
  constructor
  · intro hr
    cases condition with
    | none => exact ⟨rfl, spellsTail_none_iff.1 hr⟩
    | some d =>
      obtain ⟨u, hu, -⟩ := spellsTail_some_iff.1 hr
      rw [h] at hu
      cases hu
  · rintro ⟨rfl, htarget⟩
    exact spellsTail_none_iff.2 htarget

/-- The reader takes what spells a tail, and trims its target. -/
lemma read?_eq_some_iff {tail : Tail} :
    Tail.read? r = some tail ↔ ∃ g, SpellsTail tail.condition g r ∧ tail.target = g.map trimEnd := by
  obtain ⟨condition, target⟩ := tail
  cases hbracket : bracketed? (skipBlanks r) with
  | none =>
    simp only [read?_of_no_bracket hbracket, spellsTail_iff_of_no_bracket hbracket,
      Option.map_eq_some_iff, arrow?_eq_some_iff, Tail.mk.injEq]
    constructor
    · rintro ⟨_, ⟨g, hg, rfl⟩, rfl, rfl⟩
      exact ⟨g, ⟨rfl, hg⟩, rfl⟩
    · rintro ⟨g, ⟨rfl, hg⟩, rfl⟩
      exact ⟨_, ⟨g, hg, rfl⟩, rfl, rfl⟩
  | some cu =>
    obtain ⟨c, u⟩ := cu
    simp only [Tail.read?, hbracket, spellsTail_iff_of_bracket hbracket,
      Option.map_eq_some_iff, arrow?_eq_some_iff, Tail.mk.injEq]
    constructor
    · rintro ⟨_, ⟨g, hg, rfl⟩, rfl, rfl⟩
      exact ⟨g, ⟨rfl, hg⟩, rfl⟩
    · rintro ⟨g, ⟨rfl, hg⟩, rfl⟩
      exact ⟨_, ⟨g, hg, rfl⟩, rfl, rfl⟩

lemma read?_eq_none_iff : Tail.read? r = none ↔ ∀ condition target, ¬SpellsTail condition target r := by
  rw [Option.eq_none_iff_forall_ne_some]
  constructor
  · intro hnone condition target h
    exact hnone ⟨condition, target.map trimEnd⟩ (read?_eq_some_iff.2 ⟨target, h, rfl⟩)
  · intro hnone tail htail
    obtain ⟨g, hg, -⟩ := read?_eq_some_iff.1 htail
    exact hnone tail.condition g hg

/-- A text spells a tail in one way only. -/
lemma SpellsTail.unique {condition' target' : Option Text} (h : SpellsTail condition target r)
    (h' : SpellsTail condition' target' r) : condition = condition' ∧ target = target' := by
  cases hbracket : bracketed? (skipBlanks r) with
  | none =>
    rw [spellsTail_iff_of_no_bracket hbracket] at h h'
    exact ⟨h.1.trans h'.1.symm, h.2.unique h'.2⟩
  | some cu =>
    rw [spellsTail_iff_of_bracket hbracket] at h h'
    exact ⟨h.1.trans h'.1.symm, h.2.unique h'.2⟩

/-! ## Where an option splits -/

/-- The numbers of characters behind which a tail begins in `t`, of which there is at least one. -/
def splits (t : Text) : Set ℕ :=
  {k | 1 ≤ k ∧ k ≤ t.length ∧ ∃ condition target, SpellsTail condition target (t.drop k)}

/-- The shortest text ends at the first split. -/
lemma isLeast_of_shortestSplit? {t q : Text} {tail : Tail}
    (h : shortestSplit? t = some (q, tail)) :
    IsLeast (splits t) q.length ∧ t.take q.length = q ∧
      Tail.read? (t.drop q.length) = some tail := by
  obtain ⟨hne, r, rfl, hread, hearlier⟩ := exists_of_shortestSplit? h
  obtain ⟨g, hg, -⟩ := read?_eq_some_iff.1 hread
  have hdrop : (q ++ r).drop q.length = r := List.drop_left
  have hpos : 1 ≤ q.length := List.length_pos_iff.2 hne
  have hle : q.length ≤ (q ++ r).length := by simp
  refine ⟨⟨⟨hpos, hle, tail.condition, g, by rwa [hdrop]⟩, ?_⟩, List.take_left, by rwa [hdrop]⟩
  rintro k ⟨hone, -, condition, target, hspells⟩
  by_contra hlt
  -- a split in front of the end of `q` is one that was not taken
  have hk : k ≤ q.length := by omega
  have hp : q.take k ≠ [] := by
    rw [← List.length_pos_iff, List.length_take]
    omega
  have hs : q.drop k ≠ [] := by
    rw [← List.length_pos_iff, List.length_drop]
    omega
  have hnone := hearlier _ _ hp hs (List.take_append_drop k q).symm
  rw [List.drop_append_of_le_length hk] at hspells
  exact read?_eq_none_iff.1 hnone condition target hspells

lemma option?_eq_none_iff {t : Text} : option? t = none ↔ t = [] := by
  rw [option?, Option.map_eq_none_iff]
  constructor
  · intro hnone
    by_contra hne
    obtain ⟨q, tail, hsplit⟩ := exists_shortestSplit? hne
    rw [hnone] at hsplit
    cases hsplit
  · rintro rfl
    rfl

lemma exists_isLeast_of_option? {t : Text} {o : ChoiceOption} (h : option? t = some o) :
    ∃ k condition target, IsLeast (splits t) k ∧ SpellsTail condition target (t.drop k) ∧
      o = ⟨trimEnd (t.take k), condition, target.map trimEnd⟩ := by
  obtain ⟨⟨q, tail⟩, hsplit, rfl⟩ := Option.map_eq_some_iff.1 h
  obtain ⟨hleast, htake, hread⟩ := isLeast_of_shortestSplit? hsplit
  obtain ⟨g, hg, htarget⟩ := read?_eq_some_iff.1 hread
  exact ⟨q.length, tail.condition, g, hleast, hg, by rw [htake, ← htarget]⟩

/-- An option splits where a tail begins for the first time, and the tail there is its own. -/
lemma option?_eq_some_iff {t : Text} {o : ChoiceOption} :
    option? t = some o ↔
      ∃ k condition target, IsLeast (splits t) k ∧ SpellsTail condition target (t.drop k) ∧
        o = ⟨trimEnd (t.take k), condition, target.map trimEnd⟩ := by
  constructor
  · exact exists_isLeast_of_option?
  · rintro ⟨k, condition, target, hleast, hspells, rfl⟩
    have hne : t ≠ [] := by
      rintro rfl
      exact absurd hleast.1.2.1 (Nat.not_le.2 hleast.1.1)
    cases hoption : option? t with
    | none => exact absurd (option?_eq_none_iff.1 hoption) hne
    | some o =>
      obtain ⟨k', condition', target', hleast', hspells', rfl⟩ := exists_isLeast_of_option? hoption
      obtain rfl := hleast.unique hleast'
      obtain ⟨rfl, rfl⟩ := hspells.unique hspells'
      rfl

/-! ## Dashes without an option -/

/-- A content line is a guard or nothing, blanks, and the body that is read. -/
lemma exists_of_readContent {pending : Bool} {t : Text} {guard : Option Text} {body : Body}
    (h : readContent pending t = .content guard body) :
    ∃ a w u, t = a ++ (w ++ u) ∧ SpellsCondition guard a ∧ IsGap w ∧ body = readBody pending u := by
  have hplain (hbody : SourceLine.content none (readBody pending t) = .content guard body) :
      ∃ a w u, t = a ++ (w ++ u) ∧ SpellsCondition guard a ∧ IsGap w ∧
        body = readBody pending u := by
    cases hbody
    exact ⟨[], [], t, rfl, .absent, by simp [IsGap], rfl⟩
  unfold readContent at h
  split at h
  · rename_i c rest hbracket
    split at h
    · exact hplain h
    · obtain ⟨rfl, hne, hmem⟩ := bracketed?_eq_some_iff.1 hbracket
      obtain ⟨w, hw, hrest⟩ := exists_gap rest
      cases h
      refine ⟨'[' :: (c ++ [']']), w, skipBlanks rest, ?_, .bracket hne hmem, hw, rfl⟩
      rw [← hrest]
      simp
  · exact hplain h

lemma readContent_of_readTrimmed {pending : Bool} {t : Text} {guard : Option Text} {body : Body}
    (h : readTrimmed pending t = .content guard body) :
    readContent pending t = .content guard body := by
  unfold readTrimmed at h
  split at h
  · cases h
  · cases h
  · split at h <;> cases h
  · split at h
    · cases h
    · split at h
      · cases h
      · exact h

/-- A body is a malformed option only if it is a dash with white space behind it. -/
lemma of_readBody_eq_malformedOption {pending : Bool} {t u : Text}
    (h : readBody pending t = .malformedOption u) :
    pending = true ∧ u = t ∧ ∃ x, t = '-' :: x ∧ trim x = [] := by
  unfold readBody at h
  split at h
  · split at h <;> cases h
  · cases h
  · split at h <;> cases h
  · split at h
    · rename_i x hpending
      split at h
      · cases h
      · rename_i hnone
        cases h
        exact ⟨hpending, rfl, x, rfl, option?_eq_none_iff.1 hnone⟩
    · cases h
  · cases h

/-- A line is a malformed option if a choice is waiting, and it has a dash behind its guard, or at
its front, and nothing visible behind the dash. -/
lemma classify_eq_malformedOption_iff {context : Context} {raw u : Text} {guard : Option Text} :
    classify context raw = .content guard (.malformedOption u) ↔
      context = ⟨false, true⟩ ∧ u = ['-'] ∧
        ∃ v a w x, raw = v ++ (a ++ (w ++ '-' :: x)) ∧ (∀ c ∈ v, isSpace c = true) ∧
          SpellsCondition guard a ∧ IsGap w ∧ ∀ c ∈ x, isSpace c = true := by
  constructor
  · intro h
    obtain ⟨inCodeBlock, pending⟩ := context
    unfold classify at h
    split at h
    · cases h
    · split at h
      · cases h
      · rename_i hblock
        obtain ⟨a, w, body, hbody, hguard, hw, hread⟩ :=
          exists_of_readContent (readContent_of_readTrimmed h)
        obtain ⟨rfl, rfl, x, rfl, hnil⟩ := of_readBody_eq_malformedOption hread.symm
        have hx : x = [] := by
          -- the line is trimmed, so that no white space stands behind its dash
          have hend : trimEnd x = x := by
            refine trimEnd_eq_self_of_append (a := a ++ (w ++ ['-'])) ?_
            have htrimmed := trimEnd_trim raw
            rw [hbody] at htrimmed
            simpa using htrimmed
          obtain ⟨y, z, hyz, hy, hz⟩ := exists_eq_append_trim x
          rw [hnil, List.nil_append] at hyz
          refine eq_nil_of_trimEnd_eq_self hend fun c hc => ?_
          rw [hyz, List.mem_append] at hc
          exact hc.elim (hy c) (hz c)
        subst hx
        obtain ⟨v, y, hraw, hv, hy⟩ := exists_eq_append_trim raw
        rw [hbody] at hraw
        refine ⟨by simpa using hblock, rfl, v, a, w, y, ?_, hv, hguard, hw, hy⟩
        rw [hraw]
        simp
  · rintro ⟨rfl, rfl, v, a, w, x, rfl, hv, ha, hw, hx⟩
    have htrim : trim (v ++ (a ++ (w ++ '-' :: x))) = trim (a ++ (w ++ ['-'])) := by
      have hsplit : a ++ (w ++ '-' :: x) = (a ++ (w ++ ['-'])) ++ x := by simp
      rw [trim_space_append hv, hsplit, trim_append_space _ hx]
    cases ha with
    | absent =>
      have hdash : trim ([] ++ (w ++ ['-'])) = ['-'] :=
        trim_space_append (fun c hc => isSpace_of_isBlank (hw c hc)) ['-']
      rw [hdash] at htrim
      simp only [classify, htrim]
      rfl
    | @bracket c hne hmem =>
      have hself : trim ('[' :: (c ++ [']']) ++ (w ++ ['-'])) =
          '[' :: (c ++ ']' :: (w ++ ['-'])) := by
        rw [trim_append (List.cons_ne_nil _ _) rfl, ← List.append_assoc,
          trimEnd_append_eq_self _ (List.cons_ne_nil _ _) rfl]
        simp
      rw [hself] at htrim
      have hbracket : bracketed? ('[' :: (c ++ ']' :: (w ++ ['-']))) = some (c, w ++ ['-']) :=
        bracketed?_eq_some_iff.2 ⟨rfl, hne, hmem⟩
      have hskip : skipBlanks (w ++ ['-']) = ['-'] := skipBlanks_append_blanks hw
      simp only [classify, htrim]
      show readContent true _ = _
      simp only [readContent, hbracket, hskip]
      rfl

/-- Reading an option takes the shortest text that a tail follows, and trims it and its target. The
tail fixes its parts, so that there is one result, and none for an empty text only. So a line under
a prompt is malformed as an option only if nothing visible stands behind its dash. -/
theorem option?_splits_first (t : Text) :
    (option? t = none ↔ t = []) ∧
      (∀ o, option? t = some o ↔
        ∃ k condition target, IsLeast (splits t) k ∧ SpellsTail condition target (t.drop k) ∧
          o = ⟨trimEnd (t.take k), condition, target.map trimEnd⟩) ∧
      (∀ r condition target condition' target', SpellsTail condition target r →
        SpellsTail condition' target' r → condition = condition' ∧ target = target') ∧
      ∀ context raw guard u, classify context raw = .content guard (.malformedOption u) ↔
        context = ⟨false, true⟩ ∧ u = ['-'] ∧
          ∃ v a w x, raw = v ++ (a ++ (w ++ '-' :: x)) ∧ (∀ c ∈ v, isSpace c = true) ∧
            SpellsCondition guard a ∧ IsGap w ∧ ∀ c ∈ x, isSpace c = true :=
  ⟨option?_eq_none_iff, fun _ => option?_eq_some_iff, fun _ _ _ _ _ => SpellsTail.unique,
    fun _ _ _ _ => classify_eq_malformedOption_iff⟩

/-- Brackets that more text follows, and an arrow that another one follows. -/
example : option? "A [b] c -> d -> ".toList = some ⟨"A [b] c".toList, none, some "d ->".toList⟩ :=
  rfl

end DialogueScript.Source
