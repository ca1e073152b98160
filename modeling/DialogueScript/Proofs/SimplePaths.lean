import DialogueScript.Flow.Path
import DialogueScript.Proofs.ClosedGraph
import Mathlib.Data.List.Chain
import Mathlib.Data.List.Pairwise

/-!
# The search finds the simple paths

`Script.pathsTo` steps a stack of frames until it is empty. It is compared with a declaration:
`Script.SimplePath` says what a simple path is, and `Script.Before` which of two paths a
depth-first search meets first.

* `onward` is the search as a recursion on the free targets: the ways on from a node, without
  what is on the path already;
* `pending` reads a stack as the paths that are still to be found from it; one step moves a path
  from there to the found ones or changes nothing (`found_step`);
* `mem_onward_iff` and `pairwise_onward` say what the recursion lists, and in which order.
-/

namespace DialogueScript

namespace Script

/-- An edge leads from `a` to `b`. -/
def Leads (s : Script) (a b : Text) : Prop := ∃ e ∈ s.flowEdges, e.source = a ∧ e.target = b

/-- The path enters no node twice, and goes from the start node to `target` along edges. -/
structure SimplePath (s : Script) (target : Text) (p : List Text) : Prop where
  nodup : p.Nodup
  nodes : ∀ id ∈ p, id ∈ s.nodeIds
  head : p.head? = some startId
  last : p.getLast? = some target
  chain : p.IsChain s.Leads

/-- The targets of the edges that leave `a`, in the order of the edges. -/
def targetsOf (s : Script) (a : Text) : List Text :=
  (s.flowEdges.filter fun e => e.source = a).map FlowEdge.target

/-- Depth-first order: the paths part behind a node `a`, and the first edge from `a` on the way of
`p` comes before the first one on the way of `q`. -/
def Before (s : Script) (p q : List Text) : Prop :=
  ∃ pre a x y p' q', p = pre ++ a :: x :: p' ∧ q = pre ++ a :: y :: q' ∧
    (s.targetsOf a).idxOf x < (s.targetsOf a).idxOf y

lemma Before.cons {s : Script} {p q : List Text} (h : s.Before p q) (a : Text) :
    s.Before (a :: p) (a :: q) := by
  rcases h with ⟨pre, b, x, y, p', q', rfl, rfl, hlt⟩
  exact ⟨a :: pre, b, x, y, p', q', rfl, rfl, hlt⟩

lemma Before.ne {s : Script} {p q : List Text} (h : s.Before p q) : p ≠ q := by
  rcases h with ⟨pre, a, x, y, p', q', rfl, rfl, hlt⟩
  intro heq
  have htail := List.append_cancel_left heq
  simp only [List.cons.injEq, true_and] at htail
  rw [htail.1] at hlt
  exact Nat.lt_irrefl _ hlt

/-! ## Successors are the edges of a node -/

lemma source_of_mem_edges {n : Node} {e : FlowEdge} (h : e ∈ n.edges) : e.source = n.id := by
  unfold Node.edges at h
  simp only [List.mem_append, List.mem_map] at h
  obtain ⟨t, -, rfl⟩ | ⟨t, -, rfl⟩ := h <;> rfl

lemma map_target_edges (n : Node) :
    n.edges.map FlowEdge.target = n.jump.toList ++ n.optionTargets := by
  unfold Node.edges
  rw [List.map_append, List.map_map, List.map_map]
  have hid : ∀ l : List Text, l.map id = l := List.map_id
  exact congrArg₂ (· ++ ·) (hid _) (hid _)

lemma filter_edges (n : Node) (a : Text) :
    (n.edges.filter fun e => e.source = a) = if n.id = a then n.edges else [] := by
  split
  · rename_i ha
    apply List.filter_eq_self.2
    intro e he
    simp [source_of_mem_edges he, ha]
  · rename_i ha
    apply List.filter_eq_nil_iff.2
    intro e he
    simp [source_of_mem_edges he, ha]

/-- Only one node has a given id, so the edges that leave it are its own. -/
lemma filter_flatMap_edges {ns : List Node} {n : Node} (hnodup : (ns.map Node.id).Nodup)
    (hn : n ∈ ns) : ((ns.flatMap Node.edges).filter fun e => e.source = n.id) = n.edges := by
  have hnone : ∀ ms : List Node, n.id ∉ ms.map Node.id →
      ((ms.flatMap Node.edges).filter fun e => e.source = n.id) = [] := by
    intro ms hms
    apply List.filter_eq_nil_iff.2
    intro e he
    obtain ⟨m, hm, hem⟩ := List.mem_flatMap.1 he
    have hne : m.id ≠ n.id := fun h => hms (h ▸ List.mem_map_of_mem hm)
    simp [source_of_mem_edges hem, hne]
  induction ns with
  | nil => cases hn
  | cons m ms ih =>
    rw [List.map_cons, List.nodup_cons] at hnodup
    rw [List.flatMap_cons, List.filter_append, filter_edges]
    rcases List.mem_cons.1 hn with rfl | hms
    · rw [if_pos rfl, hnone ms hnodup.1, List.append_nil]
    · have hne : m.id ≠ n.id := fun h => hnodup.1 (h ▸ List.mem_map_of_mem hms)
      rw [if_neg hne, List.nil_append]
      exact ih hnodup.2 hms

lemma successors_eq {s : Script} (h : s.ClosedGraph) (a : Text) :
    s.successors a = (s.targetsOf a).eraseDups := by
  unfold successors targetsOf
  split
  · rename_i hnone
    have hfree : (s.flowEdges.filter fun e => e.source = a) = [] := by
      apply List.filter_eq_nil_iff.2
      intro e he
      obtain ⟨m, hm, hem⟩ := List.mem_flatMap.1 he
      have hne : m.id ≠ a := by
        intro hid
        rw [h.node?_eq_some_iff.2 ⟨hm, hid⟩] at hnone
        cases hnone
      simp [source_of_mem_edges hem, hne]
    rw [hfree]
    rfl
  · rename_i n hsome
    obtain ⟨hn, rfl⟩ := h.node?_eq_some_iff.1 hsome
    rw [flowEdges, filter_flatMap_edges h.nodup hn, map_target_edges]

lemma mem_successors_iff {s : Script} (h : s.ClosedGraph) {a b : Text} :
    b ∈ s.successors a ↔ s.Leads a b := by
  rw [successors_eq h, List.mem_eraseDups, targetsOf, List.mem_map]
  apply exists_congr
  intro e
  rw [List.mem_filter, decide_eq_true_iff, and_assoc]

/-- An edge leads from a node to a node. -/
lemma Leads.mem_nodeIds {s : Script} (h : s.ClosedGraph) {a b : Text} (hab : s.Leads a b) :
    a ∈ s.nodeIds ∧ b ∈ s.nodeIds := by
  rcases hab with ⟨e, he, rfl, rfl⟩
  obtain ⟨n, hn, hen⟩ := List.mem_flatMap.1 he
  rw [source_of_mem_edges hen]
  refine ⟨List.mem_map_of_mem hn, ?_⟩
  have htarget := List.mem_map_of_mem (f := FlowEdge.target) hen
  rw [map_target_edges, List.mem_append, Option.mem_toList, Node.optionTargets,
    List.mem_flatMap] at htarget
  obtain hjump | ⟨l, hl, ho⟩ := htarget
  · exact h.jump n hn _ hjump
  · obtain ⟨o, ho, ht⟩ := List.mem_filterMap.1 ho
    exact h.target n hn l hl o ho _ ht

/-- Every node of a path but the first is led to. -/
lemma exists_leads_of_mem_tail {s : Script} {a b : Text} {p : List Text}
    (h : (a :: p).IsChain s.Leads) (hb : b ∈ p) : ∃ c, s.Leads c b := by
  induction p generalizing a with
  | nil => cases hb
  | cons x p ih =>
    obtain ⟨hax, hp⟩ := List.isChain_cons_cons.1 h
    rcases List.mem_cons.1 hb with rfl | hb
    · exact ⟨a, hax⟩
    · exact ih hp hb

/-! ## The order of successors -/

lemma idxOf_lt_of_filter {p : Text → Bool} {l : List Text} {x y : Text} (hx : p x = true)
    (hy : p y = true) (h : (l.filter p).idxOf x < (l.filter p).idxOf y) :
    l.idxOf x < l.idxOf y := by
  induction l with
  | nil => simp at h
  | cons a l ih =>
    by_cases hax : a = x
    · subst hax
      by_cases hay : a = y
      · subst hay
        exact absurd h (Nat.lt_irrefl _)
      · simp [hay]
    · by_cases hay : a = y
      · subst hay
        simp [hy, List.idxOf_cons] at h
      · simp only [List.idxOf_cons, beq_false_of_ne hax, beq_false_of_ne hay, cond_false]
        refine Nat.succ_lt_succ (ih ?_)
        by_cases ha : p a
        · simpa [List.filter_cons, ha, List.idxOf_cons, beq_false_of_ne hax, beq_false_of_ne hay]
            using h
        · simpa [List.filter_cons, ha] using h

/-- The distinct elements stand in the order of their first occurrence. -/
lemma pairwise_eraseDups (l : List Text) :
    l.eraseDups.Pairwise fun x y => l.idxOf x < l.idxOf y := by
  match l with
  | [] => simp
  | a :: l =>
    rw [List.eraseDups_cons, List.pairwise_cons]
    have hother : ∀ x ∈ (l.filter fun b => !b == a).eraseDups, (x == a) = false := by
      intro x hx
      rw [List.mem_eraseDups, List.mem_filter] at hx
      simpa using hx.2
    refine ⟨fun y hy => ?_, ?_⟩
    · have hay : (a == y) = false := by
        rw [BEq.comm]
        exact hother y hy
      rw [List.idxOf_cons_self, List.idxOf_cons, hay]
      exact Nat.succ_pos _
    · refine (pairwise_eraseDups (l.filter fun b => !b == a)).imp_of_mem fun {x y} hx hy hxy => ?_
      have hlt : l.idxOf x < l.idxOf y :=
        idxOf_lt_of_filter (by rw [hother x hx]; rfl) (by rw [hother y hy]; rfl) hxy
      rw [List.idxOf_cons, List.idxOf_cons, BEq.comm, hother x hx, BEq.comm, hother y hy]
      exact Nat.succ_lt_succ hlt
termination_by l.length
decreasing_by
  exact Nat.lt_succ_of_le (List.length_filter_le _ _)

end Script

namespace Search

variable {s : Script} {target : Text}

/-! ## The search as a recursion -/

/-- The simple ways on from the node `id` to the target, in depth-first order, without `id`
itself. `visited` holds what is on the path, `id` included. -/
def onward (s : Script) (target : Text) (visited : List Text) (id : Text) : List (List Text) :=
  (s.successors id).attach.flatMap fun ⟨x, _hx⟩ =>
    if _hmem : x ∈ visited then []
    else if x = target then [[x]]
    else (onward s target (x :: visited) x).map (x :: ·)
termination_by (free s visited).length
decreasing_by exact length_free_cons_lt (mem_targets_of_mem_successors _hx) _hmem

/-- The ways on whose first step goes to `x`. -/
def branch (s : Script) (target : Text) (visited : List Text) (x : Text) : List (List Text) :=
  if x ∈ visited then []
  else if x = target then [[x]]
  else (onward s target (x :: visited) x).map (x :: ·)

lemma onward_eq (visited : List Text) (id : Text) :
    onward s target visited id = (s.successors id).flatMap (branch s target visited) := by
  have hattach := List.attach_map_subtype_val (s.successors id)
  rw [← hattach, List.flatMap_map, onward]
  rfl

/-- Every way on through `x` begins with `x`. -/
lemma exists_eq_cons_of_mem_branch {visited : List Text} {x : Text} {p : List Text}
    (h : p ∈ branch s target visited x) : ∃ p', p = x :: p' := by
  unfold branch at h
  split at h
  · cases h
  · split at h
    · exact ⟨[], List.mem_singleton.1 h⟩
    · obtain ⟨p', -, rfl⟩ := List.mem_map.1 h
      exact ⟨p', rfl⟩

/-! ## The stack as the paths still to be found -/

/-- What the untried successors of the frames on a stack lead to, in the order of the search. -/
def pending (s : Script) (target : Text) : List Frame → List (List Text)
  | [] => []
  | f :: below =>
    let stack := (f :: below).map Frame.id
    (((s.successors f.id).drop f.cursor).flatMap (branch s target stack)).map (stack.reverse ++ ·)
      ++ pending s target below

/-- Trying the next successor takes its branch from what is pending and leaves the branches of the
later ones. -/
lemma pending_next {f : Frame} {below : List Frame} {next : Text}
    (h : (s.successors f.id)[f.cursor]? = some next) :
    pending s target (f :: below) =
      (branch s target ((f :: below).map Frame.id) next).map
          (((f :: below).map Frame.id).reverse ++ ·) ++
        pending s target (⟨f.id, f.cursor + 1⟩ :: below) := by
  obtain ⟨hcursor, hget⟩ := List.getElem?_eq_some_iff.1 h
  rw [pending, List.drop_eq_getElem_cons hcursor, hget, List.flatMap_cons, List.map_append,
    List.append_assoc]
  rfl

/-- One step keeps the ids on the path those of the stack, and the paths found together with those
still to be found. -/
lemma found_step {q r : Search} (hq : q.onPath = q.stack.map Frame.id)
    (h : q.step s target = some r) :
    r.onPath = r.stack.map Frame.id ∧
      r.found.reverse ++ pending s target r.stack =
        q.found.reverse ++ pending s target q.stack := by
  cases step_eq_some_iff.1 h with
  | @back f below hstack hdone =>
    rw [hstack] at hq ⊢
    refine ⟨?_, ?_⟩
    · show q.onPath.erase f.id = below.map Frame.id
      rw [hq, List.map_cons, List.erase_cons_head]
    · show _ = q.found.reverse ++ pending s target (f :: below)
      rw [pending, List.drop_eq_nil_of_le (List.getElem?_eq_none_iff.1 hdone)]
      rfl
  | skip hstack hnext hon =>
    rw [hstack] at hq ⊢
    rw [hq] at hon
    refine ⟨hq, ?_⟩
    rw [pending_next hnext, branch, if_pos hon]
    rfl
  | arrive hstack hnext hnew htarget =>
    rw [hstack] at hq ⊢
    rw [hq] at hnew
    refine ⟨hq, ?_⟩
    rw [pending_next hnext, branch, if_neg hnew, if_pos htarget, path, hstack]
    simp
  | @enter f below next hstack hnext hnew hother =>
    rw [hstack] at hq ⊢
    rw [hq] at hnew
    -- a new frame: its successors are tried before the rest of the frame below
    refine ⟨congrArg (next :: ·) hq, ?_⟩
    rw [pending_next hnext, branch, if_neg hnew, if_neg hother, onward_eq]
    congr 1
    show (((s.successors next).drop 0).flatMap
      (branch s target (next :: (f :: below).map Frame.id))).map _ ++ _ = _
    rw [List.drop_zero, List.map_map]
    congr 1
    apply List.map_congr_left
    intro p _
    simp

/-- A search that has come to its end has found all that was pending. -/
lemma found_run (q : Search) (hq : q.onPath = q.stack.map Frame.id) :
    (q.run s target).step s target = none ∧
      (q.run s target).found.reverse = q.found.reverse ++ pending s target q.stack := by
  induction q using Search.run.induct s target with
  | case1 q r hstep ih =>
    obtain ⟨hr, hfound⟩ := found_step hq hstep
    rw [run_of_step hstep, ← hfound]
    exact ih hr
  | case2 q hstep =>
    rw [run_of_step_eq_none hstep, step_eq_none_iff.1 hstep]
    exact ⟨hstep, (List.append_nil _).symm⟩

/-! ## What the recursion lists -/

lemma mem_branch_iff {visited : List Text} {x : Text} {p : List Text} :
    x :: p ∈ branch s target visited x ↔
      x ∉ visited ∧ (x = target ∧ p = [] ∨ x ≠ target ∧ p ∈ onward s target (x :: visited) x) := by
  unfold branch
  split
  · rename_i hmem
    simp [hmem]
  · rename_i hmem
    split
    · rename_i htarget
      subst htarget
      simp [hmem]
    · rename_i htarget
      simp [hmem, htarget]

lemma cons_mem_onward_iff {visited : List Text} {id x : Text} {p : List Text} :
    x :: p ∈ onward s target visited id ↔
      x ∈ s.successors id ∧ x ∉ visited ∧
        (x = target ∧ p = [] ∨ x ≠ target ∧ p ∈ onward s target (x :: visited) x) := by
  rw [onward_eq, List.mem_flatMap, ← mem_branch_iff]
  constructor
  · rintro ⟨y, hy, hp⟩
    obtain ⟨p', heq⟩ := exists_eq_cons_of_mem_branch hp
    cases heq
    exact ⟨hy, hp⟩
  · rintro ⟨hx, hp⟩
    exact ⟨x, hx, hp⟩

/-- The recursion lists the ways to the target that avoid what has been visited. The induction is
on the way itself, one step at a time. -/
lemma mem_onward_iff {visited : List Text} {id : Text} {p : List Text} :
    p ∈ onward s target visited id ↔
      p.getLast? = some target ∧ p.Nodup ∧ (∀ x ∈ p, x ∉ visited) ∧
        (id :: p).IsChain fun a b => b ∈ s.successors a := by
  induction p generalizing visited id with
  | nil =>
    refine iff_of_false ?_ (by simp)
    intro hmem
    rw [onward_eq] at hmem
    obtain ⟨x, -, hx⟩ := List.mem_flatMap.1 hmem
    obtain ⟨p', heq⟩ := exists_eq_cons_of_mem_branch hx
    cases heq
  | cons x p ih =>
    rw [cons_mem_onward_iff, ih, List.isChain_cons_cons, List.nodup_cons]
    -- the last step of a way reaches the target, every other one goes past
    cases p with
    | nil =>
      simp only [List.getLast?_singleton, Option.some.injEq, List.mem_singleton]
      constructor
      · rintro ⟨hx, hnew, ⟨htarget, -⟩ | ⟨-, hlast, -⟩⟩
        · exact ⟨htarget, ⟨by simp, List.nodup_nil⟩, fun y hy => hy ▸ hnew, hx, by simp⟩
        · cases hlast
      · rintro ⟨htarget, -, hnew, hx, -⟩
        exact ⟨hx, hnew x rfl, Or.inl ⟨htarget, trivial⟩⟩
    | cons y p =>
      rw [List.getLast?_cons_cons]
      constructor
      · rintro ⟨hx, hnew, ⟨-, heq⟩ | ⟨-, hlast, hnodup, havoid, hchain⟩⟩
        · cases heq
        · refine ⟨hlast, ⟨fun hmem => ?_, hnodup⟩, fun z hz => ?_, hx, hchain⟩
          · exact havoid x hmem List.mem_cons_self
          · rcases List.mem_cons.1 hz with rfl | hz
            · exact hnew
            · exact fun hv => havoid z hz (List.mem_cons_of_mem _ hv)
      · rintro ⟨hlast, ⟨hmem, hnodup⟩, havoid, hx, hchain⟩
        refine ⟨hx, havoid x List.mem_cons_self, Or.inr ?_⟩
        refine ⟨?_, hlast, hnodup, fun z hz hv => ?_, hchain⟩
        · -- the target comes last, and no node comes twice
          rintro rfl
          exact hmem (List.mem_of_getLast? hlast)
        · rcases List.mem_cons.1 hv with rfl | hv
          · exact hmem hz
          · exact havoid z (List.mem_cons_of_mem _ hz) hv

/-- The ways on are listed depth first. -/
lemma pairwise_onward (h : s.ClosedGraph) (visited : List Text) (id : Text) :
    (onward s target visited id).Pairwise fun p q => s.Before (id :: p) (id :: q) := by
  rw [onward_eq, List.pairwise_flatMap]
  constructor
  · intro x hx
    by_cases hmem : x ∈ visited
    · rw [branch, if_pos hmem]
      exact List.Pairwise.nil
    · by_cases htarget : x = target
      · rw [branch, if_neg hmem, if_pos htarget]
        exact List.pairwise_singleton _ _
      · rw [branch, if_neg hmem, if_neg htarget, List.pairwise_map]
        exact (pairwise_onward h (x :: visited) x).imp fun hpq => hpq.cons id
  · rw [Script.successors_eq h]
    refine (Script.pairwise_eraseDups _).imp fun {x y} hxy p hp q hq => ?_
    -- ways of two successors part right behind the node
    obtain ⟨p', rfl⟩ := exists_eq_cons_of_mem_branch hp
    obtain ⟨q', rfl⟩ := exists_eq_cons_of_mem_branch hq
    exact ⟨[], id, x, y, p', q', rfl, rfl, hxy⟩
termination_by (free s visited).length
decreasing_by exact length_free_cons_lt (mem_targets_of_mem_successors hx) hmem

end Search

namespace Script

variable {s : Script}

/-- Between nodes that are not the same, the paths found are the start node and a way on. -/
lemma pathsTo_eq_onward (h : s.ClosedGraph) {target : Text} (hmem : target ∈ s.nodeIds)
    (hne : target ≠ startId) :
    s.pathsTo target = (Search.onward s target [startId] startId).map (startId :: ·) := by
  have hrun := (@Search.found_run s target Search.atStart rfl).2
  rw [pathsTo, h.contains_iff.2 h.start, h.contains_iff.2 hmem, Bool.and_self, if_pos rfl,
    if_neg hne, hrun, Search.onward_eq]
  show [] ++ (List.map _ (((s.successors startId).drop 0).flatMap _) ++ []) = _
  rw [List.drop_zero, List.nil_append, List.append_nil]
  rfl

lemma mem_pathsTo_iff (h : s.ClosedGraph) {target : Text} (hmem : target ∈ s.nodeIds)
    (hne : target ≠ startId) {p : List Text} : p ∈ s.pathsTo target ↔ s.SimplePath target p := by
  have hchain : ∀ q : List Text,
      (q.IsChain fun a b => b ∈ s.successors a) ↔ q.IsChain s.Leads :=
    fun q => List.IsChain.iff fun a b => mem_successors_iff h
  rw [pathsTo_eq_onward h hmem hne, List.mem_map]
  constructor
  · rintro ⟨q, hq, rfl⟩
    obtain ⟨hlast, hnodup, havoid, hq⟩ := Search.mem_onward_iff.1 hq
    -- the way on avoids the start node, which counts as visited
    have hstart : startId ∉ q := fun hs => havoid _ hs List.mem_cons_self
    have hleads := (hchain _).1 hq
    refine ⟨List.nodup_cons.2 ⟨hstart, hnodup⟩, ?_, rfl, ?_, hleads⟩
    · intro id hid
      rcases List.mem_cons.1 hid with rfl | hid
      · exact h.start
      · obtain ⟨a, hab⟩ := exists_leads_of_mem_tail hleads hid
        exact (hab.mem_nodeIds h).2
    · rw [List.getLast?_cons, hlast]
      rfl
  · intro hp
    obtain ⟨q, rfl⟩ : ∃ q, p = startId :: q := by
      cases p with
      | nil => cases hp.head
      | cons a q =>
        have ha : a = startId := Option.some.inj hp.head
        exact ⟨q, by rw [ha]⟩
    obtain ⟨hstart, hnodup⟩ := List.nodup_cons.1 hp.nodup
    refine ⟨q, Search.mem_onward_iff.2 ⟨?_, hnodup, ?_, (hchain _).2 hp.chain⟩, rfl⟩
    · have hlast := hp.last
      cases q with
      | nil => exact absurd (Option.some.inj hlast).symm hne
      | cons b q => rwa [List.getLast?_cons_cons] at hlast
    · intro x hx hv
      rw [List.mem_singleton.1 hv] at hx
      exact hstart hx

lemma pathsTo_startId (h : s.ClosedGraph) : s.pathsTo startId = [[startId]] := by
  rw [pathsTo, h.contains_iff.2 h.start, Bool.and_self, if_pos rfl, if_pos rfl]

lemma pathsTo_of_not_mem (h : s.ClosedGraph) {target : Text} (hmem : target ∉ s.nodeIds) :
    s.pathsTo target = [] := by
  have hnot : s.contains target = false := Bool.eq_false_iff.2 fun hc => hmem (h.contains_iff.1 hc)
  rw [pathsTo, hnot, Bool.and_false, if_neg Bool.false_ne_true]

lemma pairwise_pathsTo (h : s.ClosedGraph) {target : Text} (hmem : target ∈ s.nodeIds)
    (hne : target ≠ startId) : (s.pathsTo target).Pairwise s.Before := by
  rw [pathsTo_eq_onward h hmem hne, List.pairwise_map]
  exact Search.pairwise_onward h _ _

/-- The search for paths ends on every script, from whatever state, and it lists the simple paths
to a node other than the start node: all of them, each once, depth first. -/
theorem pathsTo_lists_simplePaths (h : s.Assembled) :
    (∀ target, WellFounded fun r q : Search => q.step s target = some r) ∧
      (∀ target, (Search.atStart.run s target).step s target = none) ∧
      s.pathsTo startId = [[startId]] ∧
      (∀ target, target ∉ s.nodeIds → s.pathsTo target = []) ∧
      ∀ target, target ≠ startId →
        (∀ p, p ∈ s.pathsTo target ↔ s.SimplePath target p) ∧
          (s.pathsTo target).Nodup ∧ (s.pathsTo target).Pairwise s.Before := by
  have hs := h.closedGraph
  have hends : ∀ target, WellFounded fun r q : Search => q.step s target = some r := by
    intro target
    refine Subrelation.wf ?_ (measure (Search.weight s)).wf
    exact fun hstep => Search.weight_step hstep
  refine ⟨hends, fun target => (Search.found_run _ rfl).1, pathsTo_startId hs,
    fun target => pathsTo_of_not_mem hs, fun target hne => ?_⟩
  by_cases hmem : target ∈ s.nodeIds
  · have hbefore := pairwise_pathsTo hs hmem hne
    exact ⟨fun p => mem_pathsTo_iff hs hmem hne, hbefore.imp Before.ne, hbefore⟩
  · rw [pathsTo_of_not_mem hs hmem]
    refine ⟨fun p => iff_of_false List.not_mem_nil fun hp => hmem ?_, List.nodup_nil,
      List.Pairwise.nil⟩
    exact hp.nodes target (List.mem_of_getLast? hp.last)

/-- Between the start node and `m` there is a cycle; the path to `e` leads through it once. -/
theorem pathsTo_lists_path_through_cycle : ∃ s : Script, s.Assembled ∧
    [startId, ['m'], ['e']] ∈ s.pathsTo ['e'] := by
  let options : List ChoiceOption := [⟨['u'], none, some startId⟩, ⟨['o'], none, some ['e']⟩]
  let s : Script := ⟨{}, [⟨startId, [], some ['m']⟩, ⟨['m'], [.choice [] options none], none⟩,
    ⟨['e'], [], none⟩], [(['e'], 2), (['m'], 1), (startId, 0)]⟩
  have hs : s.Assembled := rfl
  obtain ⟨-, -, -, -, hpaths⟩ := pathsTo_lists_simplePaths hs
  refine ⟨s, hs, ((hpaths ['e'] (by decide)).1 _).2 ?_⟩
  have hjump : s.Leads startId ['m'] := ⟨⟨startId, ['m'], .jump⟩, by decide, rfl, rfl⟩
  have hoption : s.Leads ['m'] ['e'] := ⟨⟨['m'], ['e'], .option⟩, by decide, rfl, rfl⟩
  exact ⟨by decide, by decide, rfl, rfl, .cons_cons hjump (.cons_cons hoption (.singleton _))⟩

end Script

end DialogueScript
