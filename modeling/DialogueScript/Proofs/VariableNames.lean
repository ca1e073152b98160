import DialogueScript.Proofs.Trimming
import DialogueScript.Variable.Extract
import DialogueScript.Variable.Store
import Mathlib.Data.Char
import Mathlib.Data.List.Lex

/-!
# The variables of a script

The names that are collected for a script are those that stand in braces in one of its texts, and
those that a segment of a command sets. Both are said here without a scanner: a text holds a name
in braces somewhere (`Mentions`), a segment is made of blanks, `set`, blanks, the name, and a rest
that does not go on with it (`Sets`). The collected names are in order, once each, and a store for
other names leaves every text as it is (`variableNames_exact`).
-/

namespace DialogueScript

open Text Variable

/-! ## Names in order -/

namespace Text

lemma pairwise_insertName {name : Text} {names : List Text} (h : names.Pairwise (· < ·)) :
    (insertName name names).Pairwise (· < ·) := by
  induction names with
  | nil => exact List.pairwise_singleton _ _
  | cons n names ih =>
    obtain ⟨hn, hnames⟩ := List.pairwise_cons.1 h
    unfold insertName
    split
    · rename_i hlt
      refine List.pairwise_cons.2 ⟨fun x hx => ?_, h⟩
      rcases List.mem_cons.1 hx with rfl | hx
      · exact hlt
      · exact lt_trans hlt (hn x hx)
    · rename_i hnot
      split
      · exact h
      · rename_i hne
        refine List.pairwise_cons.2 ⟨fun x hx => ?_, ih hnames⟩
        rcases mem_insertName.1 hx with rfl | hx
        · exact lt_of_le_of_ne (not_lt.1 hnot) (Ne.symm hne)
        · exact hn x hx

/-- Sorted names are in order, and none of them comes twice. -/
lemma pairwise_sortNames (names : List Text) : (sortNames names).Pairwise (· < ·) := by
  have hfold : ∀ sorted : List Text, sorted.Pairwise (· < ·) →
      (names.foldl (fun sorted name => insertName name sorted) sorted).Pairwise (· < ·) := by
    induction names with
    | nil => exact fun sorted h => h
    | cons n names ih => exact fun sorted h => ih _ (pairwise_insertName h)
  exact hfold [] List.Pairwise.nil

end Text

namespace Variable

variable {n t : Text}

/-- One or more word characters. -/
def IsName (n : Text) : Prop := n ≠ [] ∧ ∀ c ∈ n, isWord c = true

/-! ## Names in braces -/

/-- The text holds the name in braces. -/
def Mentions (t n : Text) : Prop := IsName n ∧ '{' :: (n ++ ['}']) <:+: t

lemma braced?_eq_some_iff {rest : Text} :
    braced? t = some (n, rest) ↔ IsName n ∧ t = '{' :: (n ++ '}' :: rest) := by
  constructor
  · intro h
    obtain ⟨ht, hne, hword⟩ := eq_of_braced? h
    exact ⟨⟨hne, hword⟩, ht⟩
  · rintro ⟨⟨hne, hword⟩, rfl⟩
    exact braced?_append hne hword

lemma mem_placeholdersFrom_cons {offset : ℕ} {c : Char} {p : Placeholder} :
    p ∈ placeholdersFrom offset (c :: t) ↔
      (∃ rest, braced? (c :: t) = some (p.name, rest) ∧ p.start = offset ∧
        p.stop = offset + byteSize p.name + 2) ∨ p ∈ placeholdersFrom (offset + c.utf8Size) t := by
  rw [placeholdersFrom]
  cases hbraced : braced? (c :: t) with
  | none => simp
  | some found =>
    obtain ⟨name, rest⟩ := found
    obtain ⟨start, stop, n⟩ := p
    rw [List.mem_cons]
    refine or_congr_left ⟨fun heq => ?_, ?_⟩
    · cases heq
      exact ⟨rest, rfl, rfl, rfl⟩
    · rintro ⟨_, heq, hstart, hstop⟩
      cases heq
      dsimp only at hstart hstop
      rw [hstart, hstop]

/-- A placeholder is found wherever a name stands in braces, with the bytes that it takes. -/
lemma mem_placeholdersFrom_iff {offset : ℕ} {p : Placeholder} :
    p ∈ placeholdersFrom offset t ↔
      IsName p.name ∧ ∃ a b, t = a ++ ('{' :: (p.name ++ ['}']) ++ b) ∧
        p.start = offset + byteSize a ∧ p.stop = p.start + byteSize p.name + 2 := by
  induction t generalizing offset with
  | nil => simp [placeholdersFrom]
  | cons c t ih =>
    rw [mem_placeholdersFrom_cons, ih]
    constructor
    · rintro (⟨rest, hbraced, hstart, hstop⟩ | ⟨hname, a, b, rfl, hstart, hstop⟩)
      · obtain ⟨hname, heq⟩ := braced?_eq_some_iff.1 hbraced
        exact ⟨hname, [], rest, by simpa using heq, hstart, by rw [hstop, hstart]⟩
      · exact ⟨hname, c :: a, b, rfl, by rw [hstart, byteSize, Nat.add_assoc], hstop⟩
    · rintro ⟨hname, a, b, heq, hstart, hstop⟩
      cases a with
      | nil =>
        have hbraced : braced? (c :: t) = some (p.name, b) :=
          braced?_eq_some_iff.2 ⟨hname, by simpa using heq⟩
        exact Or.inl ⟨b, hbraced, hstart, hstop.trans (by rw [hstart]; rfl)⟩
      | cons d a =>
        obtain ⟨rfl, rfl⟩ := List.cons.inj heq
        exact Or.inr ⟨hname, a, b, rfl, by rw [hstart, byteSize, Nat.add_assoc], hstop⟩

/-- The names of the placeholders are those that stand in braces. -/
lemma mem_placeholderNames_iff : n ∈ placeholderNames t ↔ Mentions t n := by
  rw [placeholderNames, List.mem_map]
  constructor
  · rintro ⟨p, hp, rfl⟩
    obtain ⟨hname, a, b, rfl, -⟩ := mem_placeholdersFrom_iff.1 hp
    exact ⟨hname, a, b, List.append_assoc _ _ _⟩
  · rintro ⟨hname, a, b, rfl⟩
    refine ⟨⟨byteSize a, byteSize a + byteSize n + 2, n⟩, mem_placeholdersFrom_iff.2 ?_, rfl⟩
    exact ⟨hname, a, b, List.append_assoc _ _ _, (Nat.zero_add _).symm, rfl⟩

/-- A text that mentions no variable of the store is left as it is. -/
lemma interpolate_eq_self {vars : Variables} (h : ∀ n, Mentions t n → vars.lookup n = none) :
    interpolate vars t = t := by
  induction t using interpolate.induct vars with
  | case1 => rw [interpolate]
  | case2 c t name rest hbraced ih =>
    obtain ⟨hname, hsplit⟩ := braced?_eq_some_iff.1 hbraced
    have hhere : vars.lookup name = none := by
      refine h name ⟨hname, [], rest, ?_⟩
      rw [hsplit]
      simp
    have hbehind : interpolate vars rest = rest := by
      refine ih fun n hn => h n ⟨hn.1, hn.2.trans ?_⟩
      rw [hsplit]
      exact ⟨'{' :: (name ++ ['}']), [], by simp⟩
    rw [interpolate_of_braced hbraced, hhere, hbehind, hsplit]
    simp
  | case3 c t hbraced ih =>
    have hbehind : interpolate vars t = t :=
      ih fun n hn => h n ⟨hn.1, hn.2.trans (List.suffix_cons c t).isInfix⟩
    rw [interpolate_of_not_braced hbraced, hbehind]

/-! ## Names that are set -/

/-- The segment begins with an assignment to the name: the word `set` between blanks, and a name
that does not go on. -/
def Sets (segment n : Text) : Prop :=
  IsName n ∧ ∃ v w rest, segment = v ++ (['s', 'e', 't'] ++ (w ++ (n ++ rest))) ∧
    (∀ c ∈ v, isBlank c = true) ∧ w ≠ [] ∧ (∀ c ∈ w, isBlank c = true) ∧
    ∀ c, rest.head? = some c → isWord c = false

lemma isWord_of_isBlank {c : Char} (h : isBlank c = true) : isWord c = false := by
  simp only [isBlank, Bool.or_eq_true, beq_iff_eq] at h
  obtain ((rfl | rfl) | rfl) | rfl := h <;> rfl

/-- Nothing is skipped in front of a name. -/
lemma IsName.skipBlanks (h : IsName n) (rest : Text) : skipBlanks (n ++ rest) = n ++ rest := by
  obtain ⟨c, n, rfl⟩ := List.exists_cons_of_ne_nil h.1
  refine List.dropWhile_cons_of_neg fun hblank => ?_
  have hword : isWord c = true := h.2 c List.mem_cons_self
  rw [isWord_of_isBlank hblank] at hword
  cases hword

lemma takeWhile_name {rest : Text} (h : IsName n)
    (hrest : ∀ c, rest.head? = some c → isWord c = false) :
    (n ++ rest).takeWhile isWord = n := by
  have hstop : rest.takeWhile isWord = [] := by
    cases rest with
    | nil => rfl
    | cons c rest => exact List.takeWhile_cons_of_neg (by simp [hrest c rfl])
  rw [List.takeWhile_append_of_pos h.2, hstop, List.append_nil]

lemma head?_dropWhile_isWord (u : Text) :
    ∀ c, (u.dropWhile isWord).head? = some c → isWord c = false := by
  intro c hc
  have hnot := List.head?_dropWhile_not isWord u
  rw [hc] at hnot
  simpa using hnot

/-- A name that is found to be set stands behind the word, in front of no other word character. -/
lemma sets_of_assigned? {segment rest : Text} (h : assigned? segment = some (n, rest)) :
    Sets segment n := by
  unfold assigned? at h
  split at h
  · rename_i c u hset
    split at h
    · rename_i hblank
      obtain ⟨v, hv, hvblank⟩ := exists_eq_append_skipBlanks segment
      obtain ⟨w, hw, hwblank⟩ := exists_eq_append_skipBlanks u
      have hname : (skipBlanks u).takeWhile isWord ++ (skipBlanks u).dropWhile isWord =
          skipBlanks u := List.takeWhile_append_dropWhile
      split at h
      · cases h
      · rename_i hne
        cases h
        have hword : ∀ a ∈ (skipBlanks u).takeWhile isWord, isWord a = true :=
          List.all_eq_true.1 List.all_takeWhile
        refine ⟨⟨fun hnil => hne hnil, hword⟩, v, c :: w, (skipBlanks u).dropWhile isWord, ?_,
          hvblank, List.cons_ne_nil c w, ?_, head?_dropWhile_isWord _⟩
        · calc segment = v ++ skipBlanks segment := hv
            _ = v ++ 's' :: 'e' :: 't' :: c :: (w ++ skipBlanks u) := by rw [hset, ← hw]
            _ = _ := by rw [hname]; rfl
        · intro a ha
          rcases List.mem_cons.1 ha with rfl | ha
          · exact hblank
          · exact hwblank a ha
    · cases h
  · cases h

lemma exists_assigned?_of_sets {segment : Text} (h : Sets segment n) :
    ∃ rest, assigned? segment = some (n, rest) := by
  obtain ⟨hname, v, w, rest, rfl, hv, hw, hwblank, hrest⟩ := h
  obtain ⟨c, w, rfl⟩ := List.exists_cons_of_ne_nil hw
  have hblank : isBlank c = true := hwblank c List.mem_cons_self
  have hset : skipBlanks (v ++ (['s', 'e', 't'] ++ (c :: w ++ (n ++ rest)))) =
      's' :: 'e' :: 't' :: c :: (w ++ (n ++ rest)) := skipBlanks_append_blanks hv
  have hskip : skipBlanks (w ++ (n ++ rest)) = n ++ rest := by
    rw [skipBlanks_append_blanks fun a ha => hwblank a (List.mem_cons_of_mem c ha),
      hname.skipBlanks]
  refine ⟨(n ++ rest).dropWhile isWord, ?_⟩
  simp only [assigned?, hset, hblank, if_true, hskip, takeWhile_name hname hrest]
  split
  · exact absurd rfl hname.1
  · rfl

/-- A command sets a name if one of its segments does. -/
lemma mem_assignedNames_iff {command : Text} :
    n ∈ assignedNames command ↔ ∃ segment ∈ command.splitOn ';', Sets segment n := by
  simp only [assignedNames, List.mem_filterMap, Option.map_eq_some_iff]
  constructor
  · rintro ⟨segment, hmem, ⟨name, rest⟩, hassigned, rfl⟩
    exact ⟨segment, hmem, sets_of_assigned? hassigned⟩
  · rintro ⟨segment, hmem, hsets⟩
    obtain ⟨rest, hassigned⟩ := exists_assigned?_of_sets hsets
    exact ⟨segment, hmem, ⟨n, rest⟩, hassigned, rfl⟩

end Variable

/-! ## The texts of a script -/

/-- The line shows the text, or runs it: its speaker, its content, or the text of an option. -/
inductive Line.Shows : Line → Text → Prop where
  | speaker (sp content : Text) (condition : Option Text) :
      Shows (.dialogue (some sp) content condition) sp
  | content (l : Line) : Shows l l.content
  | option {options : List ChoiceOption} {o : ChoiceOption} (h : o ∈ options) (content : Text)
      (condition : Option Text) : Shows (.choice content options condition) o.text

/-- The texts of a line are those that it shows or runs. -/
lemma Line.mem_texts_iff {l : Line} {t : Text} : t ∈ l.texts ↔ l.Shows t := by
  constructor
  · intro h
    cases l with
    | dialogue speaker content condition =>
      cases speaker with
      | none =>
        rw [List.mem_singleton.1 h]
        exact .content _
      | some sp =>
        rcases List.mem_pair.1 h with rfl | rfl
        · exact .speaker t content condition
        · exact .content _
    | command content condition =>
      rw [List.mem_singleton.1 h]
      exact .content _
    | choice content options condition =>
      rcases List.mem_cons.1 h with rfl | h
      · exact .content _
      · obtain ⟨o, ho, rfl⟩ := List.mem_map.1 h
        exact .option ho content condition
    | input name content condition =>
      rw [List.mem_singleton.1 h]
      exact .content _
  · rintro (_ | _ | ho)
    · exact List.mem_cons_self
    · cases l with
      | dialogue speaker content condition => exact List.mem_append_right _ List.mem_cons_self
      | _ => exact List.mem_cons_self
    · exact List.mem_cons_of_mem _ (List.mem_map_of_mem ho)

namespace Script

/-- A text that some line of the script shows or runs. -/
def Shows (s : Script) (t : Text) : Prop := ∃ m ∈ s.nodes, ∃ l ∈ m.lines, l.Shows t

/-- A command of the script. -/
def Runs (s : Script) (command : Text) : Prop :=
  ∃ m ∈ s.nodes, ∃ condition, Line.command command condition ∈ m.lines

lemma mem_allLines_iff {s : Script} {l : Line} :
    l ∈ s.allLines ↔ ∃ m ∈ s.nodes, l ∈ m.lines := List.mem_flatMap

lemma mem_variableNames_iff {s : Script} {n : Text} :
    n ∈ s.variableNames ↔ (∃ t, s.Shows t ∧ Mentions t n) ∨
      ∃ command, s.Runs command ∧ ∃ segment ∈ command.splitOn ';', Sets segment n := by
  have hcollected : n ∈ s.variableNames ↔
      ∃ l ∈ s.allLines, (∃ t ∈ l.texts, n ∈ placeholderNames t) ∨ n ∈ l.assigned := by
    simp only [variableNames, mem_sortNames, List.mem_flatMap, List.mem_append]
  rw [hcollected]
  constructor
  · rintro ⟨l, hl, ⟨t, ht, hn⟩ | hn⟩
    · obtain ⟨m, hm, hlm⟩ := mem_allLines_iff.1 hl
      exact Or.inl ⟨t, ⟨m, hm, l, hlm, Line.mem_texts_iff.1 ht⟩, mem_placeholderNames_iff.1 hn⟩
    · obtain ⟨m, hm, hlm⟩ := mem_allLines_iff.1 hl
      -- only a command sets variables
      cases l with
      | command content condition =>
        exact Or.inr ⟨content, ⟨m, hm, condition, hlm⟩, mem_assignedNames_iff.1 hn⟩
      | _ => cases hn
  · rintro (⟨t, ⟨m, hm, l, hl, ht⟩, hn⟩ | ⟨command, ⟨m, hm, condition, hl⟩, hsets⟩)
    · exact ⟨l, mem_allLines_iff.2 ⟨m, hm, hl⟩,
        Or.inl ⟨t, Line.mem_texts_iff.2 ht, mem_placeholderNames_iff.2 hn⟩⟩
    · exact ⟨_, mem_allLines_iff.2 ⟨m, hm, hl⟩, Or.inr (mem_assignedNames_iff.2 hsets)⟩

lemma lookup_eq_none {vars : Variables} {n : Text} (h : ∀ v, (n, v) ∉ vars) :
    vars.lookup n = none := by
  rw [List.lookup_eq_none_iff]
  rintro ⟨k, v⟩ hmem
  rw [bne_iff_ne]
  rintro rfl
  exact h v hmem

/-- The variables of a script are the names that its texts mention and its commands set, in order
and once each; a store without them has nothing to put into any of the texts. -/
theorem variableNames_exact (s : Script) :
    (∀ n, n ∈ s.variableNames ↔
      (∃ t, s.Shows t ∧ Mentions t n) ∨
        ∃ command, s.Runs command ∧ ∃ segment ∈ command.splitOn ';', Sets segment n) ∧
    s.variableNames.Pairwise (· < ·) ∧
    ∀ vars : Variables, (∀ n v, (n, v) ∈ vars → n ∉ s.variableNames) →
      ∀ t, s.Shows t → interpolate vars t = t := by
  refine ⟨fun n => mem_variableNames_iff, pairwise_sortNames _, fun vars hvars t ht => ?_⟩
  apply interpolate_eq_self
  intro n hn
  have hknown : n ∈ s.variableNames := mem_variableNames_iff.2 (Or.inl ⟨t, ht, hn⟩)
  exact lookup_eq_none fun v hmem => hvars n v hmem hknown

/-- Braces around braces, a name that is set twice, and a command word that goes on. -/
example : variableNames ⟨{}, [⟨startId,
    [.dialogue (some "\x7b\x7bb\x7d".toList) "\x7bb\x7bc\x7d \x7bd e\x7d".toList none,
      .command "set\ta=1; settle x;  set a".toList none,
      .input ['v'] "\x7bc\x7d?".toList none], none⟩], [(startId, 0)]⟩ = [['a'], ['b'], ['c']] := by
  decide +kernel

end Script

end DialogueScript
