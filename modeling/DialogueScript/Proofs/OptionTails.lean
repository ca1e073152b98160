import DialogueScript.Proofs.Trimming
import DialogueScript.Source.Option

/-!
# Option tails

A tail is a condition in brackets and an arrow with its target, both optional, and an option ends
where a tail begins for the first time. Whether one begins in the text `s` of an option depends on
what stands behind: `Opening` lists the ways in which `s` can begin a tail, and says for each of
them what must follow. So a tail that is exchanged for another one begins no earlier than before,
unless it is one of two ways (`read?_append_target`, `read?_append_condition`).
-/

namespace DialogueScript

open Text Source

namespace Source

/-! ## Brackets, arrows and tails -/

lemma bracketed?_eq_some_iff {t c r : Text} :
    bracketed? t = some (c, r) ↔ t = '[' :: (c ++ ']' :: r) ∧ c ≠ [] ∧ ']' ∉ c := by
  constructor
  · intro h
    unfold bracketed? at h
    split at h
    · rename_i u
      split at h
      · rename_i d c' r' hcut
        cases h
        obtain ⟨rfl, hmem⟩ := cut?_eq_some_iff.1 hcut
        exact ⟨rfl, List.cons_ne_nil d c', hmem⟩
      · cases h
    · cases h
  · rintro ⟨rfl, hne, hmem⟩
    obtain ⟨d, c', rfl⟩ := List.exists_cons_of_ne_nil hne
    have hcut : cut? ']' ((d :: c') ++ ']' :: r) = some (d :: c', r) :=
      cut?_eq_some_iff.2 ⟨rfl, hmem⟩
    simp only [bracketed?, hcut]

lemma bracketed?_eq_none {t : Text} (h : ∀ u, t ≠ '[' :: u) : bracketed? t = none := by
  rw [Option.eq_none_iff_forall_ne_some]
  rintro ⟨c, r⟩ hsome
  exact h _ (bracketed?_eq_some_iff.1 hsome).1

lemma arrow?_arrow_eq_none_iff {u : Text} :
    arrow? ('-' :: '>' :: u) = none ↔ skipBlanks u = [] := by
  simp only [arrow?]
  split
  · rename_i hnil
    exact iff_of_true rfl hnil
  · rename_i hne
    exact iff_of_false (Option.some_ne_none _) hne

lemma arrow?_arrow {u : Text} (h : skipBlanks u ≠ []) :
    arrow? ('-' :: '>' :: u) = some (some (trimEnd (skipBlanks u))) := by
  simp only [arrow?]

lemma arrow?_append_eq_none {s x : Text} (hne : s ≠ []) (harrow : ∀ u, s ≠ '-' :: '>' :: u)
    (hx : x.head? ≠ some '>') : arrow? (s ++ x) = none := by
  unfold arrow?
  split
  · rename_i hnil
    exact absurd (List.append_eq_nil_iff.1 hnil).1 hne
  · rename_i u heq
    match s with
    | [] => exact absurd rfl hne
    | [c] =>
      have hhead : x = '>' :: u := (List.cons.inj heq).2
      rw [hhead] at hx
      exact absurd rfl hx
    | c :: d :: s =>
      obtain ⟨rfl, hrest⟩ := List.cons.inj heq
      obtain ⟨rfl, -⟩ := List.cons.inj hrest
      exact absurd rfl (harrow s)
  · rfl

lemma read?_of_bracket {t c r : Text} (h : skipBlanks t = '[' :: (c ++ ']' :: r)) (hne : c ≠ [])
    (hmem : ']' ∉ c) :
    Tail.read? t = (arrow? (skipBlanks r)).map fun target => ⟨some c, target⟩ := by
  rw [Tail.read?, bracketed?_eq_some_iff.2 ⟨h, hne, hmem⟩]

lemma read?_of_no_bracket {t : Text} (h : bracketed? (skipBlanks t) = none) :
    Tail.read? t = (arrow? (skipBlanks t)).map fun target => ⟨none, target⟩ := by
  rw [Tail.read?, h]

/-! ## How a text can begin a tail -/

/-- What the end `s` of a text has to do with a tail that begins in it, when `x` stands behind. -/
inductive Opening (s : Text) : Prop where
  /-- An arrow: its target goes on with `x`. -/
  | arrow (p u : Text) (heq : s = p ++ '-' :: '>' :: u)
    (hread : ∀ x, Tail.read? (s ++ x) = none ↔ skipBlanks (u ++ x) = [])
  /-- A closed bracket: `x` has to be an arrow, or empty. -/
  | closed (p c : Text) (heq : s = p ++ '[' :: (c ++ [']'])) (hne : c ≠ []) (hmem : ']' ∉ c)
    (hread : ∀ x, Tail.read? (s ++ x) = none ↔ arrow? (skipBlanks x) = none)
  /-- An open bracket: `x` has to close it. -/
  | opened (p c : Text) (heq : s = p ++ '[' :: c) (hmem : ']' ∉ c)
    (hread : ∀ x, Tail.read? (s ++ x) = none ↔
      ∀ d r, x = d ++ ']' :: r → ']' ∉ d → c ++ d ≠ [] → arrow? (skipBlanks r) = none)
  /-- Anything else is no tail, whatever `x` is. -/
  | other (hread : ∀ x, x.head? ≠ some '>' → Tail.read? (s ++ x) = none)

/-- A character that is not in the front part of a text is in the other part. -/
lemma exists_of_append_eq_append_cons {x g d r : Text} {b : Char} (h : b ∉ x)
    (heq : x ++ g = d ++ b :: r) : ∃ d', d = x ++ d' ∧ g = d' ++ b :: r := by
  rcases List.append_eq_append_iff.1 heq with ⟨d', hd, hg⟩ | ⟨a, hx, hr⟩
  · exact ⟨d', hd, hg⟩
  · cases a with
    | nil => exact ⟨[], by simpa using hx.symm, by simpa using hr.symm⟩
    | cons a' a =>
      obtain ⟨rfl, -⟩ := List.cons.inj hr
      rw [hx] at h
      simp at h

/-- What stands behind an open bracket has to close it, and the rest has to be an arrow or empty. -/
lemma read?_open_bracket_eq_none_iff {t c x : Text} (h : skipBlanks t = '[' :: (c ++ x))
    (hmem : ']' ∉ c) :
    Tail.read? t = none ↔
      ∀ d r, x = d ++ ']' :: r → ']' ∉ d → c ++ d ≠ [] → arrow? (skipBlanks r) = none := by
  constructor
  · rintro hread d r rfl hd hne
    have hskip : skipBlanks t = '[' :: ((c ++ d) ++ ']' :: r) := by
      rw [h, List.append_assoc]
    have hboth : ']' ∉ c ++ d := by
      rw [List.mem_append, not_or]
      exact ⟨hmem, hd⟩
    rwa [read?_of_bracket hskip hne hboth, Option.map_eq_none_iff] at hread
  · intro hclose
    cases hbracket : bracketed? (skipBlanks t) with
    | none =>
      rw [read?_of_no_bracket hbracket, h]
      rfl
    | some cr =>
      obtain ⟨c', r⟩ := cr
      obtain ⟨heq, hne, hmem'⟩ := bracketed?_eq_some_iff.1 hbracket
      have hsame : c ++ x = c' ++ ']' :: r := (List.cons.inj (h.symm.trans heq)).2
      obtain ⟨d, rfl, rfl⟩ := exists_of_append_eq_append_cons hmem hsame
      -- the bracket is closed behind `c`, by what stands there
      rw [read?_of_bracket heq hne hmem', Option.map_eq_none_iff]
      exact hclose d r rfl (fun hd => hmem' (List.mem_append_right c hd)) hne

lemma opening_of_bracket {s p c r : Text} (heq : s = p ++ '[' :: (c ++ ']' :: r))
    (hskip : skipBlanks s = '[' :: (c ++ ']' :: r)) (hend : trimEnd s = s) (hne : c ≠ [])
    (hmem : ']' ∉ c) : Opening s := by
  have hread : ∀ x, Tail.read? (s ++ x) = none ↔ arrow? (skipBlanks (r ++ x)) = none := by
    intro x
    have hx : skipBlanks (s ++ x) = '[' :: (c ++ ']' :: (r ++ x)) := by
      rw [skipBlanks_append_of_ne_nil x (by rw [hskip]; exact List.cons_ne_nil _ _), hskip]
      simp
    rw [read?_of_bracket hx hne hmem, Option.map_eq_none_iff]
  cases hr : r with
  | nil =>
    rw [hr] at heq
    exact .closed p c heq hne hmem fun x => by rw [hread, hr, List.nil_append]
  | cons a r' =>
    -- something visible follows the bracket: it must be an arrow
    have hrend : trimEnd r = r := by
      refine trimEnd_eq_self_of_append (a := p ++ '[' :: (c ++ [']'])) ?_
      rw [heq] at hend
      simpa using hend
    have hrskip : skipBlanks r ≠ [] :=
      skipBlanks_ne_nil (by rw [hr]; exact List.cons_ne_nil a r') hrend
    obtain ⟨w, hw, -⟩ := exists_eq_append_skipBlanks r
    by_cases harrow : ∃ u, skipBlanks r = '-' :: '>' :: u
    · rcases harrow with ⟨u, hu⟩
      refine .arrow (p ++ '[' :: (c ++ ']' :: w)) u ?_ fun x => ?_
      · rw [heq, hw, hu]
        simp
      · rw [hread, skipBlanks_append_of_ne_nil x hrskip, hu]
        exact arrow?_arrow_eq_none_iff
    · apply Opening.other
      intro x hx
      rw [hread, skipBlanks_append_of_ne_nil x hrskip]
      exact arrow?_append_eq_none hrskip (fun u hu => harrow ⟨u, hu⟩) hx

/-- These are all ways for a text that ends in something visible. -/
lemma opening {s : Text} (hne : s ≠ []) (hend : trimEnd s = s) : Opening s := by
  have hskip : skipBlanks s ≠ [] := skipBlanks_ne_nil hne hend
  have happend (x : Text) : skipBlanks (s ++ x) = skipBlanks s ++ x :=
    skipBlanks_append_of_ne_nil x hskip
  obtain ⟨w, hw, -⟩ := exists_eq_append_skipBlanks s
  by_cases hbracket : ∃ t, skipBlanks s = '[' :: t
  · rcases hbracket with ⟨t, ht⟩
    by_cases hmem : ']' ∈ t
    · obtain ⟨c, r, rfl, hc⟩ := List.eq_append_cons_of_mem hmem
      by_cases hnil : c = []
      · -- nothing stands between the brackets, so that they are none
        subst hnil
        apply Opening.other
        intro x hx
        have hnone : bracketed? (skipBlanks (s ++ x)) = none := by
          rw [happend, ht]
          rfl
        rw [read?_of_no_bracket hnone, happend, ht]
        rfl
      · exact opening_of_bracket (by rw [← ht]; exact hw) ht hend hnil hc
    · exact .opened w t (by rw [← ht]; exact hw) hmem fun x =>
        read?_open_bracket_eq_none_iff (by rw [happend, ht]; rfl) hmem
  · have hnone (x : Text) : bracketed? (skipBlanks (s ++ x)) = none := by
      refine bracketed?_eq_none fun u hu => ?_
      rw [happend] at hu
      obtain ⟨a, t, ht⟩ := List.exists_cons_of_ne_nil hskip
      rw [ht, List.cons_append] at hu
      exact hbracket ⟨t, by rw [ht, (List.cons.inj hu).1]⟩
    by_cases harrow : ∃ u, skipBlanks s = '-' :: '>' :: u
    · rcases harrow with ⟨u, hu⟩
      apply Opening.arrow w u (by rw [← hu]; exact hw)
      intro x
      rw [read?_of_no_bracket (hnone x), Option.map_eq_none_iff, happend, hu]
      exact arrow?_arrow_eq_none_iff
    · apply Opening.other
      intro x hx
      rw [read?_of_no_bracket (hnone x), Option.map_eq_none_iff, happend]
      exact arrow?_append_eq_none hskip (fun u hu => harrow ⟨u, hu⟩) hx

/-- A target that is written where a target stood begins no tail earlier, unless a closed bracket
stands in front of it. -/
lemma read?_append_target {s v g : Text} (hs : s ≠ []) (hsend : trimEnd s = s)
    (hread : Tail.read? (s ++ (v ++ g)) = none) (hv : v ≠ []) (hmem : ']' ∉ v) (hg : g ≠ [])
    (hgend : trimEnd g = g) (hclosed : ∀ q c, s = q ++ '[' :: (c ++ [']']) → c ≠ [] → ']' ∈ c) :
    Tail.read? (s ++ ([' ', '-', '>', ' '] ++ g)) = none := by
  cases opening hs hsend with
  | arrow q u hq hiff =>
    -- the arrow had its target already
    have hnil : skipBlanks (u ++ (v ++ g)) = [] := (hiff _).1 hread
    rw [← List.append_assoc] at hnil
    exact absurd hnil (skipBlanks_ne_nil (List.append_ne_nil_of_right_ne_nil _ hg)
      (trimEnd_append_eq_self _ hg hgend))
  | closed q c hq hne hc hiff => exact absurd (hclosed q c hq hne) hc
  | opened q c hq hc hiff =>
    -- a bracket can only be closed by the target, as it could before
    apply (hiff _).2
    intro d r hx hd _
    obtain ⟨d', hd', hg'⟩ := exists_of_append_eq_append_cons (by decide) hx
    refine (hiff _).1 hread (v ++ d') r (by rw [hg', List.append_assoc]) ?_ ?_
    · rw [List.mem_append, not_or]
      exact ⟨hmem, fun hmem' => hd (by rw [hd']; exact List.mem_append_right _ hmem')⟩
    · exact List.append_ne_nil_of_right_ne_nil c (List.append_ne_nil_of_left_ne_nil hv d')
  | other hnone => exact hnone _ (by simp)

/-- A condition that is written behind a text begins no tail earlier, unless the text ends in an
arrow or in an open bracket. -/
lemma read?_append_condition {s w c y : Text} (hs : s ≠ []) (hsend : trimEnd s = s)
    (hread : Tail.read? (s ++ w) = none) (hwend : trimEnd (s ++ w) = s ++ w)
    (harrow : ∀ q, s ≠ q ++ ['-', '>']) (hopen : ∀ q d, s = q ++ '[' :: d → ']' ∈ d) :
    Tail.read? (s ++ ' ' :: '[' :: (c ++ ']' :: y)) = none := by
  cases opening hs hsend with
  | arrow q u hq hiff =>
    have hnil : skipBlanks (u ++ w) = [] := (hiff w).1 hread
    have huend : trimEnd (u ++ w) = u ++ w := by
      refine trimEnd_eq_self_of_append (a := q ++ ['-', '>']) ?_
      rw [hq] at hwend
      simpa using hwend
    by_cases hempty : u ++ w = []
    · rw [(List.append_eq_nil_iff.1 hempty).1] at hq
      exact absurd hq (harrow q)
    · exact absurd hnil (skipBlanks_ne_nil hempty huend)
  | closed q d hq hne hd hiff => exact (hiff _).2 rfl
  | opened q d hq hd hiff => exact absurd (hopen q d hq) hd
  | other hnone => exact hnone _ (by simp)

/-! ## The shortest text -/

/-- What the shortest text and its tail are. -/
lemma exists_of_shortestSplit? {t q : Text} {tail : Tail} (h : shortestSplit? t = some (q, tail)) :
    q ≠ [] ∧ ∃ r, t = q ++ r ∧ Tail.read? r = some tail ∧
      ∀ p s, p ≠ [] → s ≠ [] → q = p ++ s → Tail.read? (s ++ r) = none := by
  induction t generalizing q with
  | nil => cases h
  | cons c t ih =>
    rw [shortestSplit?] at h
    split at h
    · rename_i tail' hread
      cases h
      refine ⟨List.cons_ne_nil c [], t, rfl, hread, fun p s hp hs heq => ?_⟩
      -- one character cannot be split into two parts
      have hlen := congrArg List.length heq
      have hppos : 0 < p.length := List.length_pos_iff.2 hp
      have hspos : 0 < s.length := List.length_pos_iff.2 hs
      simp at hlen
      omega
    · rename_i hread
      obtain ⟨⟨q', tail'⟩, hsplit, heq⟩ := Option.map_eq_some_iff.1 h
      cases heq
      obtain ⟨hne, r, rfl, hr, hearlier⟩ := ih hsplit
      refine ⟨List.cons_ne_nil c q', r, rfl, hr, fun p s hp hs heq => ?_⟩
      obtain ⟨a, p', rfl⟩ := List.exists_cons_of_ne_nil hp
      obtain ⟨rfl, hq⟩ := List.cons.inj heq
      by_cases hp' : p' = []
      · -- the text began at its first character, where no tail was read
        subst hp'
        have hsame : q' = s := hq
        rwa [hsame] at hread
      · exact hearlier p' s hp' hs hq

/-- The text ends where it can, if it cannot end earlier. -/
lemma shortestSplit?_append {q x : Text} {tail : Tail} (hne : q ≠ [])
    (hread : Tail.read? x = some tail)
    (hnone : ∀ p s, p ≠ [] → s ≠ [] → q = p ++ s → Tail.read? (s ++ x) = none) :
    shortestSplit? (q ++ x) = some (q, tail) := by
  induction q with
  | nil => exact absurd rfl hne
  | cons c q ih =>
    by_cases hq : q = []
    · subst hq
      rw [List.singleton_append, shortestSplit?, hread]
    · have hlater : Tail.read? (q ++ x) = none := hnone [c] q (List.cons_ne_nil c []) hq rfl
      have hrest : shortestSplit? (q ++ x) = some (q, tail) :=
        ih hq fun p s hp hs heq => hnone (c :: p) s (List.cons_ne_nil c p) hs (by rw [heq]; rfl)
      rw [List.cons_append, shortestSplit?, hlater, hrest]
      rfl

/-- The text ends no later than it can. -/
lemma length_le_of_shortestSplit? {p r q : Text} {tail : Tail} (hp : p ≠ [])
    (hread : Tail.read? r ≠ none) (h : shortestSplit? (p ++ r) = some (q, tail)) :
    q.length ≤ p.length := by
  induction p generalizing q with
  | nil => exact absurd rfl hp
  | cons c p ih =>
    rw [List.cons_append, shortestSplit?] at h
    split at h
    · cases h
      simp
    · rename_i hnone
      obtain ⟨⟨q', tail'⟩, hsplit, heq⟩ := Option.map_eq_some_iff.1 h
      cases heq
      have hne : p ≠ [] := by
        rintro rfl
        exact hread hnone
      have hle := ih hne hsplit
      rw [List.length_cons, List.length_cons]
      omega

lemma exists_shortestSplit? {t : Text} (hne : t ≠ []) :
    ∃ q tail, shortestSplit? t = some (q, tail) := by
  induction t with
  | nil => exact absurd rfl hne
  | cons c t ih =>
    rw [shortestSplit?]
    cases hread : Tail.read? t with
    | some tail => exact ⟨[c], tail, rfl⟩
    | none =>
      have ht : t ≠ [] := by
        rintro rfl
        cases hread
      obtain ⟨q, tail, hsplit⟩ := ih ht
      exact ⟨c :: q, tail, by rw [hsplit]; rfl⟩

end Source

end DialogueScript
