import DialogueScript.Flow.Reach
import DialogueScript.Proofs.SimplePaths
import Mathlib.Logic.Relation

/-!
# The two searches agree

`Script.reached` enters each node once and `Script.pathsTo` gives nodes free again, so that they
walk over a graph in different ways. Both are compared with walks, which may pass through a node
any number of times.

* What is visited is closed under edges, as soon as nothing is pending (`closed_visitFrom`), and
  nothing else than the ends of walks is visited (`visitFrom_subset`).
* A walk to a node leaves a simple path there, when its cycles are cut off
  (`exists_simplePath_of_walk`).
-/

namespace DialogueScript.Script

variable {s : Script}

/-! ## What is visited -/

/-- Nothing that has been visited or is pending gets lost. -/
lemma subset_visitFrom (s : Script) (pending visited : List Text) :
    visited ⊆ s.visitFrom pending visited ∧ pending ⊆ s.visitFrom pending visited := by
  induction pending, visited using visitFrom.induct s with
  | case1 visited =>
    rw [visitFrom]
    exact ⟨List.Subset.refl _, List.nil_subset _⟩
  | case2 id pending visited hmem ih =>
    rw [visitFrom, if_pos hmem]
    refine ⟨ih.1, fun x hx => ?_⟩
    rcases List.mem_cons.1 hx with rfl | hx
    · exact ih.1 hmem
    · exact ih.2 hx
  | case3 id pending visited hnew ih =>
    rw [visitFrom, if_neg hnew]
    refine ⟨fun x hx => ih.1 (List.mem_cons_of_mem id hx), fun x hx => ?_⟩
    rcases List.mem_cons.1 hx with rfl | hx
    · exact ih.1 List.mem_cons_self
    · exact ih.2 (List.mem_append_right _ hx)

/-- The invariant of the search: the successors of what has been visited have been visited or are
pending. At its end nothing is pending. -/
lemma closed_visitFrom {pending visited : List Text}
    (h : ∀ a ∈ visited, ∀ b ∈ s.successors a, b ∈ visited ∨ b ∈ pending) :
    ∀ a ∈ s.visitFrom pending visited, ∀ b ∈ s.successors a,
      b ∈ s.visitFrom pending visited := by
  induction pending, visited using visitFrom.induct s with
  | case1 visited =>
    intro a ha b hb
    rw [visitFrom] at ha ⊢
    rcases h a ha b hb with hb | hb
    · exact hb
    · cases hb
  | case2 id pending visited hmem ih =>
    rw [visitFrom, if_pos hmem]
    apply ih
    intro a ha b hb
    rcases h a ha b hb with hb | hb
    · exact Or.inl hb
    · rcases List.mem_cons.1 hb with rfl | hb
      · exact Or.inl hmem
      · exact Or.inr hb
  | case3 id pending visited hnew ih =>
    rw [visitFrom, if_neg hnew]
    apply ih
    intro a ha b hb
    by_cases hvisited : b ∈ id :: visited
    · exact Or.inl hvisited
    · refine Or.inr (List.mem_append.2 ?_)
      rcases List.mem_cons.1 ha with rfl | ha
      · -- the successors of the new node are put in front, but for those visited before
        exact Or.inl (List.mem_reverse.2 (List.mem_filter.2 ⟨hb, by simpa using hvisited⟩))
      · rcases h a ha b hb with hb | hb
        · exact absurd (List.mem_cons_of_mem id hb) hvisited
        · rcases List.mem_cons.1 hb with rfl | hb
          · exact absurd List.mem_cons_self hvisited
          · exact Or.inr hb

/-- What holds of the nodes to begin with and goes over along edges holds of all that is visited. -/
lemma visitFrom_subset {P : Text → Prop} (hstep : ∀ a, P a → ∀ b ∈ s.successors a, P b)
    {pending visited : List Text} (hpending : ∀ a ∈ pending, P a) (hvisited : ∀ a ∈ visited, P a) :
    ∀ a ∈ s.visitFrom pending visited, P a := by
  induction pending, visited using visitFrom.induct s with
  | case1 visited =>
    rw [visitFrom]
    exact hvisited
  | case2 id pending visited hmem ih =>
    rw [visitFrom, if_pos hmem]
    exact ih (fun a ha => hpending a (List.mem_cons_of_mem id ha)) hvisited
  | case3 id pending visited hnew ih =>
    have hid : P id := hpending id List.mem_cons_self
    rw [visitFrom, if_neg hnew]
    apply ih
    · intro a ha
      rcases List.mem_append.1 ha with ha | ha
      · exact hstep id hid a (List.mem_filter.1 (List.mem_reverse.1 ha)).1
      · exact hpending a (List.mem_cons_of_mem id ha)
    · intro a ha
      rcases List.mem_cons.1 ha with rfl | ha
      · exact hid
      · exact hvisited a ha

lemma mem_reached_iff (h : s.ClosedGraph) {t : Text} :
    t ∈ s.reached ↔ Relation.ReflTransGen s.Leads startId t := by
  rw [reached, h.contains_iff.2 h.start, if_pos rfl]
  constructor
  · apply visitFrom_subset
    · intro a ha b hb
      exact ha.tail ((mem_successors_iff h).1 hb)
    · intro a ha
      rw [List.mem_singleton.1 ha]
    · intro a ha
      cases ha
  · intro hwalk
    have hempty : ∀ a ∈ ([] : List Text), ∀ b ∈ s.successors a,
        b ∈ ([] : List Text) ∨ b ∈ [startId] := fun a ha => by cases ha
    have hclosed := closed_visitFrom hempty
    induction hwalk with
    | refl => exact (subset_visitFrom s _ _).2 List.mem_cons_self
    | @tail a b _ hab ih => exact hclosed a ih b ((mem_successors_iff h).2 hab)

/-! ## Walks and simple paths -/

/-- A simple path goes on along an edge to a new node. -/
lemma SimplePath.concat (h : s.ClosedGraph) {a b : Text} {p : List Text} (hp : s.SimplePath a p)
    (hab : s.Leads a b) (hb : b ∉ p) : s.SimplePath b (p ++ [b]) where
  nodup := by
    rw [List.nodup_append]
    refine ⟨hp.nodup, List.nodup_singleton b, fun x hx y hy => ?_⟩
    rw [List.mem_singleton.1 hy]
    exact fun hxb => hb (hxb ▸ hx)
  nodes := by
    intro id hid
    rcases List.mem_append.1 hid with hid | hid
    · exact hp.nodes id hid
    · rw [List.mem_singleton.1 hid]
      exact (hab.mem_nodeIds h).2
  head := by rw [List.head?_append, hp.head, Option.some_or]
  last := List.getLast?_concat
  chain := by
    rw [List.isChain_append]
    refine ⟨hp.chain, List.isChain_singleton b, fun x hx y hy => ?_⟩
    have hxa : a = x := Option.some.inj (hp.last.symm.trans hx)
    have hyb : b = y := Option.some.inj hy
    rwa [← hxa, ← hyb]

/-- A simple path ends early at each of its nodes. -/
lemma SimplePath.exists_prefix {a b : Text} {p : List Text} (hp : s.SimplePath a p) (hb : b ∈ p) :
    ∃ q, s.SimplePath b q := by
  obtain ⟨front, behind, rfl⟩ := List.append_of_mem hb
  have hsplit : front ++ b :: behind = (front ++ [b]) ++ behind := by simp
  rw [hsplit] at hp
  have hhead : (front ++ [b]).head? = some startId := by
    rw [← hp.head]
    cases front <;> rfl
  exact ⟨front ++ [b], {
    nodup := (List.nodup_append.1 hp.nodup).1
    nodes := fun id hid => hp.nodes id (List.mem_append_left behind hid)
    head := hhead
    last := List.getLast?_concat
    chain := (List.isChain_append.1 hp.chain).1 }⟩

/-- A walk, with its cycles cut off. The induction is on the last edge of the walk: the path to
its source goes on, unless it has been at its target before. -/
lemma exists_simplePath_of_walk (h : s.ClosedGraph) {t : Text}
    (hwalk : Relation.ReflTransGen s.Leads startId t) : ∃ p, s.SimplePath t p := by
  induction hwalk with
  | refl =>
    refine ⟨[startId], List.nodup_singleton _, fun id hid => ?_, rfl, rfl, List.isChain_singleton _⟩
    rw [List.mem_singleton.1 hid]
    exact h.start
  | @tail a b _ hab ih =>
    obtain ⟨p, hp⟩ := ih
    by_cases hb : b ∈ p
    · exact hp.exists_prefix hb
    · exact ⟨p ++ [b], hp.concat h hab hb⟩

lemma SimplePath.walk {t : Text} {p : List Text} (hp : s.SimplePath t p) :
    Relation.ReflTransGen s.Leads startId t := by
  have hne : p ≠ [] := by
    intro hnil
    have hhead := hp.head
    rw [hnil] at hhead
    cases hhead
  have hfirst : p.head hne = startId :=
    Option.some.inj ((List.head?_eq_some_head hne).symm.trans hp.head)
  have hlast : p.getLast hne = t :=
    Option.some.inj ((List.getLast?_eq_some_getLast hne).symm.trans hp.last)
  have hwalk := List.relationReflTransGen_of_exists_isChain p hp.chain hne
  rwa [hfirst, hlast] at hwalk

lemma pathsTo_ne_nil_iff (h : s.ClosedGraph) {t : Text} :
    s.pathsTo t ≠ [] ↔ Relation.ReflTransGen s.Leads startId t := by
  by_cases hstart : t = startId
  · rw [hstart, pathsTo_startId h]
    exact iff_of_true (List.cons_ne_nil _ _) .refl
  · by_cases hmem : t ∈ s.nodeIds
    · constructor
      · intro hne
        obtain ⟨p, hp⟩ := List.exists_mem_of_ne_nil _ hne
        exact ((mem_pathsTo_iff h hmem hstart).1 hp).walk
      · intro hwalk
        obtain ⟨p, hp⟩ := exists_simplePath_of_walk h hwalk
        exact List.ne_nil_of_mem ((mem_pathsTo_iff h hmem hstart).2 hp)
    · rw [pathsTo_of_not_mem h hmem]
      apply iff_of_false (fun hne => hne rfl)
      intro hwalk
      rcases Relation.reflTransGen_iff_eq_or_transGen.1 hwalk with heq | hwalk
      · exact hstart heq
      · obtain ⟨a, -, hat⟩ := Relation.TransGen.tail'_iff.1 hwalk
        exact hmem (hat.mem_nodeIds h).2

/-! ## Reachable nodes -/

lemma isReachable_iff (h : s.ClosedGraph) {t : Text} :
    s.isReachable t = true ↔ Relation.ReflTransGen s.Leads startId t := by
  rw [isReachable, decide_eq_true_iff, mem_reached_iff h]

/-- The start node needs no test of its own, as it is reached. -/
lemma unreachable_eq (h : s.ClosedGraph) :
    s.unreachable = s.nodeIds.filter fun id => !s.isReachable id := by
  apply List.filter_congr
  intro id _
  by_cases hstart : id = startId
  · have hreached : s.isReachable startId = true := (isReachable_iff h).2 .refl
    simp [hstart, hreached]
  · simp [hstart, isReachable]

/-- A node is reached if it is the start node or a walk leads to it, and then, and only then, there
is a path to it. The unreachable nodes are the others, in the order of the script: the start node
is not among them, none is listed twice, and each node is either reachable or listed. -/
theorem isReachable_iff_walk_iff_path (h : s.Assembled) :
    (∀ t, s.isReachable t = true ↔ t = startId ∨ Relation.TransGen s.Leads startId t) ∧
      (∀ t, s.isReachable t = true ↔ s.pathsTo t ≠ []) ∧
      s.unreachable = s.nodeIds.filter (fun id => !s.isReachable id) ∧
      startId ∉ s.unreachable ∧ s.unreachable.Nodup ∧
      ∀ id ∈ s.nodeIds, s.isReachable id = true ↔ id ∉ s.unreachable := by
  have hs := h.closedGraph
  have hwalk : ∀ t, s.isReachable t = true ↔ t = startId ∨ Relation.TransGen s.Leads startId t := by
    intro t
    rw [isReachable_iff hs]
    exact Relation.reflTransGen_iff_eq_or_transGen
  have hpath : ∀ t, s.isReachable t = true ↔ s.pathsTo t ≠ [] := by
    intro t
    rw [isReachable_iff hs, pathsTo_ne_nil_iff hs]
  have hlisted : ∀ id ∈ s.nodeIds, s.isReachable id = true ↔ id ∉ s.unreachable := by
    intro id hid
    rw [unreachable_eq hs, List.mem_filter]
    simp [hid]
  have hstart : startId ∉ s.unreachable :=
    (hlisted startId hs.start).1 ((isReachable_iff hs).2 .refl)
  have hnodup : s.unreachable.Nodup := by
    rw [unreachable_eq hs]
    exact hs.nodup.filter _
  exact ⟨hwalk, hpath, unreachable_eq hs, hstart, hnodup, hlisted⟩

/-- The start node and `m` form a cycle, out of which an option leads to `e`. -/
theorem isReachable_iff_path_of_cycle : ∃ s : Script, s.Assembled ∧
    s.isReachable ['e'] = true ∧ s.pathsTo ['e'] ≠ [] ∧ ['e'] ∉ s.unreachable := by
  let options : List ChoiceOption := [⟨['b'], none, some startId⟩, ⟨['o'], none, some ['e']⟩]
  let s : Script := ⟨{}, [⟨startId, [], some ['m']⟩, ⟨['m'], [.choice [] options none], none⟩,
    ⟨['e'], [], some ['e']⟩], [(['e'], 2), (['m'], 1), (startId, 0)]⟩
  have hs : s.Assembled := rfl
  obtain ⟨hwalk, hpath, -, -, -, hlisted⟩ := isReachable_iff_walk_iff_path hs
  have hjump : s.Leads startId ['m'] := ⟨⟨startId, ['m'], .jump⟩, by decide, rfl, rfl⟩
  have hoption : s.Leads ['m'] ['e'] := ⟨⟨['m'], ['e'], .option⟩, by decide, rfl, rfl⟩
  have hreached : s.isReachable ['e'] = true :=
    (hwalk ['e']).2 (Or.inr (.tail (.single hjump) hoption))
  exact ⟨s, hs, hreached, (hpath ['e']).1 hreached, (hlisted ['e'] (by decide)).1 hreached⟩

end DialogueScript.Script
