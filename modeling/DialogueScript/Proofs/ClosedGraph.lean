import DialogueScript.Codec.Script
import DialogueScript.Source.Parse
import Mathlib.Data.List.Nodup
import Mathlib.Tactic.Common

/-!
# The graph of a script is closed

`Script.assemble` is the only way into a script, from a source text as from a JSON text. What it
checks, and what it builds, is gathered in `Script.ClosedGraph`:

* no two nodes share an id, and one of them carries the start id;
* every jump and every option target is the id of a node;
* the index is exact (`Index.Exact`): it holds the position of each id, and nothing else.

The index is entered node by node. `enter_exact` is the invariant of that pass, where the nodes
entered so far stand for the positions below the next one.
-/

namespace DialogueScript

/-- The index holds exactly the positions of these ids. -/
def Index.Exact (index : Index) (ids : List Text) : Prop :=
  ∀ id i, index.lookup id = some i ↔ ids[i]? = some id

/-- An exact index leaves no room for an id that repeats. -/
lemma Index.Exact.nodup {index : Index} {ids : List Text} (h : index.Exact ids) : ids.Nodup := by
  rw [List.nodup_iff_getElem?_ne_getElem?]
  intro i j hij hj heq
  have hid : ids[j]? = some ids[j] := List.getElem?_eq_getElem hj
  have hi := (h ids[j] i).2 (heq.trans hid)
  rw [(h ids[j] j).2 hid] at hi
  have : j = i := Option.some.inj hi
  omega

/-- An exact index holds these ids and no other. -/
lemma Index.Exact.isSome_lookup_iff {index : Index} {ids : List Text} (h : index.Exact ids)
    {id : Text} : (index.lookup id).isSome = true ↔ id ∈ ids := by
  rw [Option.isSome_iff_exists, List.mem_iff_getElem?]
  exact exists_congr fun i => h id i

/-- A script whose references all lead to a node, with an index that finds it. -/
structure Script.ClosedGraph (s : Script) : Prop where
  nodup : s.nodeIds.Nodup
  start : startId ∈ s.nodeIds
  jump : ∀ n ∈ s.nodes, ∀ t, n.jump = some t → t ∈ s.nodeIds
  target : ∀ n ∈ s.nodes, ∀ l ∈ n.lines, ∀ o ∈ l.options, ∀ t, o.target = some t → t ∈ s.nodeIds
  index : s.index.Exact s.nodeIds

namespace Script

/-! ## Entering nodes into the index -/

lemma exact_nil : Index.Exact [] [] := by
  intro id i
  simp

/-- One more id at the next position. -/
lemma exact_cons {index : Index} {ids : List Text} {id : Text} (h : index.Exact ids)
    (hnew : index.lookup id = none) : Index.Exact ((id, ids.length) :: index) (ids ++ [id]) := by
  intro x i
  rw [List.lookup_cons]
  by_cases hx : x = id
  · subst hx
    have hfree : ∀ j : ℕ, ids[j]? ≠ some x := by
      intro j hj
      rw [(h x j).2 hj] at hnew
      cases hnew
    rw [beq_self_eq_true]
    show some ids.length = some i ↔ _
    rw [List.getElem?_append]
    split
    · rename_i hi
      have hne : ids.length ≠ i := by omega
      simp [hfree i, hne]
    · rename_i hi
      rw [List.getElem?_singleton]
      constructor
      · intro hlen
        have : i - ids.length = 0 := by have := Option.some.inj hlen; omega
        rw [if_pos this]
      · intro hsome
        split at hsome
        · congr 1
          omega
        · cases hsome
  · rw [beq_false_of_ne hx]
    show index.lookup x = some i ↔ _
    rw [h x i, List.getElem?_append]
    split
    · rfl
    · rename_i hi
      rw [List.getElem?_eq_none (by omega), List.getElem?_singleton]
      split <;> simp [Ne.symm hx]

/-- Entering keeps the index exact; `ids` are those entered before. -/
lemma enter_exact {ns : List Node} {ids : List Text} {index r : Index} (h : index.Exact ids)
    (he : enter ids.length index ns = .ok r) : r.Exact (ids ++ ns.map Node.id) := by
  induction ns generalizing ids index with
  | nil =>
    cases he
    rwa [List.map_nil, List.append_nil]
  | cons n ns ih =>
    unfold enter at he
    split at he
    · cases he
    · rename_i hnew
      have hnone : index.lookup n.id = none := Option.not_isSome_iff_eq_none.1 hnew
      have hlen : (ids ++ [n.id]).length = ids.length + 1 := by simp
      rw [← hlen] at he
      rw [List.map_cons, ← List.singleton_append, ← List.append_assoc]
      exact ih (exact_cons h hnone) he

/-! ## What the checks say -/

/-- The checker finds nothing in a node if its jump and all targets of its options are known. -/
lemma dangling_node_eq_nil_iff {known : Text → Bool} {n : Node} :
    n.dangling known = [] ↔
      (∀ t, n.jump = some t → known t = true) ∧
        ∀ l ∈ n.lines, ∀ o ∈ l.options, ∀ t, o.target = some t → known t = true := by
  unfold Node.dangling
  rw [List.append_eq_nil_iff, List.flatMap_eq_nil_iff]
  refine and_congr ?_ (forall₂_congr fun l _ => ?_)
  · cases n.jump with
    | none => simp
    | some t => by_cases h : known t <;> simp [h]
  · rw [List.filterMap_eq_nil_iff]
    apply forall₂_congr
    intro o _
    cases o.target with
    | none => simp
    | some t => by_cases h : known t <;> simp [h]

lemma dangling_eq_nil_iff {s : Script} :
    s.dangling = [] ↔
      (∀ n ∈ s.nodes, ∀ t, n.jump = some t → s.contains t = true) ∧
        ∀ n ∈ s.nodes, ∀ l ∈ n.lines, ∀ o ∈ l.options, ∀ t, o.target = some t →
          s.contains t = true := by
  rw [dangling, List.flatMap_eq_nil_iff, ← forall₂_and]
  exact forall₂_congr fun n _ => dangling_node_eq_nil_iff

lemma validate_eq_of_dangling {s : Script} (h : s.dangling = []) : s.validate = ⟨true, []⟩ := by
  rw [validate, h]
  rfl

namespace ClosedGraph

variable {s : Script}

lemma contains_iff (h : s.ClosedGraph) {id : Text} : s.contains id = true ↔ id ∈ s.nodeIds :=
  h.index.isSome_lookup_iff

/-- A position leads to the node that carries the id. -/
lemma position?_eq_some_iff (h : s.ClosedGraph) {id : Text} {i : ℕ} :
    s.position? id = some i ↔ ∃ n, s.nodes[i]? = some n ∧ n.id = id := by
  rw [position?, h.index id i, nodeIds, List.getElem?_map, Option.map_eq_some_iff]

/-- The node that an id leads to is the one that carries it. -/
lemma node?_eq_some_iff (h : s.ClosedGraph) {id : Text} {n : Node} :
    s.node? id = some n ↔ n ∈ s.nodes ∧ n.id = id := by
  rw [node?, Option.bind_eq_some_iff]
  constructor
  · rintro ⟨i, hi, hn⟩
    obtain ⟨m, hm, hid⟩ := h.position?_eq_some_iff.1 hi
    rw [hn] at hm
    cases hm
    exact ⟨List.mem_of_getElem? hn, hid⟩
  · rintro ⟨hmem, hid⟩
    obtain ⟨i, hi⟩ := List.mem_iff_getElem?.1 hmem
    exact ⟨i, h.position?_eq_some_iff.2 ⟨n, hi, hid⟩, hi⟩

lemma dangling_eq_nil (h : s.ClosedGraph) : s.dangling = [] := by
  rw [dangling_eq_nil_iff]
  refine ⟨fun n hn t ht => ?_, fun n hn l hl o ho t ht => ?_⟩
  · exact h.contains_iff.2 (h.jump n hn t ht)
  · exact h.contains_iff.2 (h.target n hn l hl o ho t ht)

end ClosedGraph

/-! ## Scripts as they are read -/

/-- The script is what its header and its nodes are assembled to. There is no other way to get
one. -/
def Assembled (s : Script) : Prop := assemble s.metadata s.nodes = .ok s

lemma assembled_of_assemble {metadata : Metadata} {nodes : List Node} {s : Script}
    (h : assemble metadata nodes = .ok s) : s.Assembled := by
  obtain ⟨rfl, rfl, -⟩ := assemble_eq_ok_iff.1 h
  exact h

/-- A source is read into a script by assembling it. -/
lemma assembled_of_parse {o : Source.ParseOptions} {text : Text} {s : Script}
    (h : Source.parse o text = .ok s) : s.Assembled := by
  obtain ⟨b, -, hb⟩ := Source.parse_eq_ok_iff.1 h
  exact assembled_of_assemble hb

/-- A JSON text is read into a script by assembling it. -/
lemma assembled_of_load {text : Text} {s : Script} (h : load text = .ok s) : s.Assembled := by
  unfold load at h
  split at h
  · cases h
  · split at h
    · cases h
    · rename_i hs
      cases h
      exact assembled_of_assemble hs

/-- What assembling has checked, said of the nodes without the index. -/
lemma Assembled.closedGraph {s : Script} (h : s.Assembled) : s.ClosedGraph := by
  obtain ⟨-, -, hindex, hstart, hdangling⟩ := assemble_eq_ok_iff.1 h
  have hexact : s.index.Exact s.nodeIds := enter_exact exact_nil hindex
  obtain ⟨hjump, htarget⟩ := dangling_eq_nil_iff.1 hdangling
  have hmem : ∀ id, s.contains id = true → id ∈ s.nodeIds :=
    fun id => hexact.isSome_lookup_iff.1
  exact {
    nodup := hexact.nodup
    start := hmem _ hstart
    jump := fun n hn t ht => hmem t (hjump n hn t ht)
    target := fun n hn l hl o ho t ht => hmem t (htarget n hn l hl o ho t ht)
    index := hexact }

/-- However a script was read, its ids are distinct and hold the start id, its jumps and options
lead to nodes, looking up an id gives the position of its one node or nothing, and validating it
finds nothing. -/
theorem graph_closed_of_read {s : Script}
    (h : (∃ o text, Source.parse o text = .ok s) ∨ ∃ text, load text = .ok s) :
    s.nodeIds.Nodup ∧ startId ∈ s.nodeIds ∧
      (∀ n ∈ s.nodes, ∀ t, n.jump = some t → t ∈ s.nodeIds) ∧
      (∀ n ∈ s.nodes, ∀ content options condition,
        Line.choice content options condition ∈ n.lines →
          ∀ o ∈ options, ∀ t, o.target = some t → t ∈ s.nodeIds) ∧
      (∀ id, s.contains id = true ↔ id ∈ s.nodeIds) ∧
      (∀ id i, s.position? id = some i ↔ ∃ n, s.nodes[i]? = some n ∧ n.id = id) ∧
      (∀ id n, s.node? id = some n ↔ n ∈ s.nodes ∧ n.id = id) ∧
      (∀ id, s.node? id = none ↔ id ∉ s.nodeIds) ∧
      s.validate = ⟨true, []⟩ := by
  have hs : s.ClosedGraph := by
    rcases h with ⟨o, text, h⟩ | ⟨text, h⟩
    · exact (assembled_of_parse h).closedGraph
    · exact (assembled_of_load h).closedGraph
  have hchoice : ∀ n ∈ s.nodes, ∀ content options condition,
      Line.choice content options condition ∈ n.lines →
        ∀ o ∈ options, ∀ t, o.target = some t → t ∈ s.nodeIds :=
    fun n hn content options condition hl => hs.target n hn _ hl
  have hnone : ∀ id, s.node? id = none ↔ id ∉ s.nodeIds := by
    intro id
    rw [Option.eq_none_iff_forall_ne_some, nodeIds, List.mem_map, not_exists]
    exact forall_congr' fun n => not_congr hs.node?_eq_some_iff
  exact ⟨hs.nodup, hs.start, hs.jump, hchoice, fun _ => hs.contains_iff,
    fun _ _ => hs.position?_eq_some_iff, fun _ _ => hs.node?_eq_some_iff, hnone,
    validate_eq_of_dangling hs.dangling_eq_nil⟩

/-- Both references of the start node lead forward. -/
theorem graph_closed_of_forward_references :
    Source.parse {} "@node start\n? q\n- a -> b\n@jump b\n@node b".toList =
        .ok ⟨{}, [⟨startId, [.choice ['q'] [⟨['a'], none, some ['b']⟩] none], some ['b']⟩,
          ⟨['b'], [], none⟩], [(['b'], 1), (startId, 0)]⟩ ∧
      Script.validate ⟨{}, [⟨startId, [.choice ['q'] [⟨['a'], none, some ['b']⟩] none], some ['b']⟩,
        ⟨['b'], [], none⟩], [(['b'], 1), (startId, 0)]⟩ = ⟨true, []⟩ := by
  have hparse : Source.parse {} "@node start\n? q\n- a -> b\n@jump b\n@node b".toList =
      .ok ⟨{}, [⟨startId, [.choice ['q'] [⟨['a'], none, some ['b']⟩] none], some ['b']⟩,
        ⟨['b'], [], none⟩], [(['b'], 1), (startId, 0)]⟩ := rfl
  obtain ⟨-, -, -, -, -, -, -, -, hvalid⟩ := graph_closed_of_read (Or.inl ⟨_, _, hparse⟩)
  exact ⟨hparse, hvalid⟩

end Script

end DialogueScript
