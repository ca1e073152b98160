import DialogueScript.Proofs.ClosedGraph

/-!
# What comes of assembling a script

A header and nodes are refused for one of three reasons, and each has its own condition on the
nodes: the first repetition of an id comes before a missing start node, and that before the edges
that lead nowhere (`assemble_outcome`). The checker walks over the nodes by itself; the references
it complains of are the edges of the flow, in flow order, without those that lead to a node
(`dangling_eq_filter`). Both readers hand their nodes over to this, and add no line to the reason.
-/

namespace DialogueScript

/-! ## The references that fail -/

/-- The references of a node that fail are edges of the flow. -/
lemma Node.dangling_eq_filter (known : Text → Bool) (n : Node) :
    n.dangling known = n.edges.filter fun e => !known e.target := by
  rw [dangling, edges, List.filter_append, optionTargets, List.map_flatMap, List.filter_flatMap]
  refine congrArg₂ _ ?_ (List.flatMap_congr fun line _ => ?_)
  · cases n.jump with
    | none => rfl
    | some target => cases h : known target <;> simp [h]
  · rw [List.map_filterMap, List.filter_filterMap]
    refine List.filterMap_congr fun o _ => ?_
    cases o.target with
    | none => rfl
    | some target => cases h : known target <;> simp [h, Option.filter]

namespace Script

/-- The references of a script that fail are the edges of its flow that lead to no node. -/
lemma dangling_eq_filter (s : Script) :
    s.dangling = s.flowEdges.filter fun e => !s.contains e.target := by
  rw [dangling, flowEdges, List.filter_flatMap]
  exact List.flatMap_congr fun n _ => Node.dangling_eq_filter s.contains n

/-! ## The first repetition of an id -/

/-- Entering stops at the first id that is there already; `ids` are those entered before. -/
lemma enter_eq_error_iff {ns : List Node} {ids : List Text} {index : Index} {id : Text}
    (h : index.Exact ids) :
    enter ids.length index ns = .error id ↔
      ∃ before n after, ns = before ++ n :: after ∧ (ids ++ before.map Node.id).Nodup ∧
        n.id = id ∧ id ∈ ids ++ before.map Node.id := by
  induction ns generalizing ids index with
  | nil => simp [enter]
  | cons m ns ih =>
    rw [enter]
    split
    · rename_i hknown
      have hmem : m.id ∈ ids := h.isSome_lookup_iff.1 hknown
      constructor
      · intro herror
        cases herror
        exact ⟨[], m, ns, rfl, by simpa using h.nodup, rfl, by simpa using hmem⟩
      · rintro ⟨before, n, after, heq, hnodup, rfl, -⟩
        cases before with
        | nil =>
          cases heq
          rfl
        | cons b before =>
          -- the node that repeats an id comes first, so that nothing before it does
          obtain ⟨rfl, -⟩ := List.cons.inj heq
          have hnot := List.disjoint_of_nodup_append hnodup hmem
          simp at hnot
    · rename_i hnew
      have hnone : index.lookup m.id = none := Option.not_isSome_iff_eq_none.1 hnew
      have hlen : ids.length + 1 = (ids ++ [m.id]).length := by simp
      rw [hlen, ih (exact_cons h hnone)]
      constructor
      · rintro ⟨before, n, after, rfl, hnodup, hid, hmem⟩
        refine ⟨m :: before, n, after, rfl, ?_, hid, ?_⟩
        · simpa using hnodup
        · simpa using hmem
      · rintro ⟨before, n, after, heq, hnodup, hid, hmem⟩
        cases before with
        | nil =>
          cases heq
          rw [List.map_nil, List.append_nil, ← hid, ← h.isSome_lookup_iff] at hmem
          exact absurd hmem hnew
        | cons b before =>
          obtain ⟨rfl, rfl⟩ := List.cons.inj heq
          refine ⟨before, n, after, rfl, ?_, hid, ?_⟩
          · simpa using hnodup
          · simpa using hmem

/-- The first node with the id of an earlier one has this id. -/
def FirstRepeat (nodes : List Node) (id : Text) : Prop :=
  ∃ before n after, nodes = before ++ n :: after ∧ (before.map Node.id).Nodup ∧
    n.id = id ∧ id ∈ before.map Node.id

variable {metadata : Metadata} {nodes : List Node} {index : Index}

lemma enter_eq_error_iff_firstRepeat {id : Text} :
    enter 0 [] nodes = .error id ↔ FirstRepeat nodes id := by
  have herror : enter 0 [] nodes = .error id ↔ _ := enter_eq_error_iff exact_nil
  simp only [List.nil_append] at herror
  exact herror

lemma exact_of_enter (h : enter 0 [] nodes = .ok index) : index.Exact (nodes.map Node.id) :=
  enter_exact exact_nil h

lemma not_nodup_of_firstRepeat {id : Text} (h : FirstRepeat nodes id) :
    ¬(nodes.map Node.id).Nodup := by
  intro hnodup
  obtain ⟨before, n, after, rfl, -, rfl, hmem⟩ := h
  rw [List.map_append] at hnodup
  have hnot := List.disjoint_of_nodup_append hnodup hmem
  simp at hnot

/-- Nodes with ids of their own can be entered into an index. -/
lemma exists_enter (hnodup : (nodes.map Node.id).Nodup) : ∃ index, enter 0 [] nodes = .ok index := by
  cases henter : enter 0 [] nodes with
  | ok index => exact ⟨index, rfl⟩
  | error id =>
    exact absurd hnodup (not_nodup_of_firstRepeat (enter_eq_error_iff_firstRepeat.1 henter))

/-! ## The outcomes -/

/-- The edges of these nodes that lead to none of them, in flow order. The header and the index have
no part in the edges. -/
def missingEdges (nodes : List Node) : List FlowEdge :=
  (flowEdges ⟨{}, nodes, []⟩).filter fun e => e.target ∉ nodes.map Node.id

lemma dangling_eq_missingEdges (h : index.Exact (nodes.map Node.id)) :
    dangling ⟨metadata, nodes, index⟩ = missingEdges nodes := by
  rw [dangling_eq_filter, missingEdges]
  refine List.filter_congr fun e _ => ?_
  have hcontains : (contains ⟨metadata, nodes, index⟩ e.target = true) ↔
      e.target ∈ nodes.map Node.id := h.isSome_lookup_iff
  rw [Bool.eq_iff_iff, Bool.not_eq_true', ← Bool.not_eq_true, hcontains, decide_eq_true_iff]

lemma assemble_of_firstRepeat {id : Text} (h : FirstRepeat nodes id) :
    assemble metadata nodes = .error (.duplicateNode id) := by
  rw [assemble, enter_eq_error_iff_firstRepeat.2 h]

lemma assemble_of_no_start (h : enter 0 [] nodes = .ok index)
    (hstart : startId ∉ nodes.map Node.id) :
    assemble metadata nodes = .error .missingStart := by
  have hnone : ¬contains ⟨metadata, nodes, index⟩ startId = true :=
    mt (exact_of_enter h).isSome_lookup_iff.1 hstart
  rw [assemble, h]
  exact if_neg hnone

/-- Nodes that can be entered, the start node among them, make a script if all edges lead to a node.
-/
lemma assemble_of_start (h : enter 0 [] nodes = .ok index) (hstart : startId ∈ nodes.map Node.id) :
    assemble metadata nodes =
      if missingEdges nodes = [] then .ok ⟨metadata, nodes, index⟩
      else .error (.danglingReferences (missingEdges nodes)) := by
  have hsome : contains ⟨metadata, nodes, index⟩ startId = true :=
    (exact_of_enter h).isSome_lookup_iff.2 hstart
  have hmissing : dangling ⟨metadata, nodes, index⟩ = missingEdges nodes :=
    dangling_eq_missingEdges (exact_of_enter h)
  have hvalid : (validate ⟨metadata, nodes, index⟩).valid = true ↔ missingEdges nodes = [] := by
    rw [validate_valid_iff, hmissing]
  rw [assemble, h]
  dsimp only
  rw [if_pos hsome, hmissing]
  exact if_congr hvalid rfl rfl

/-- What is wrong with nodes that are refused for this reason. The reasons exclude each other: one is
given only if the ones above it do not hold. -/
def Refused (nodes : List Node) : Defect → Prop
  | .duplicateNode id => FirstRepeat nodes id
  | .missingStart => (nodes.map Node.id).Nodup ∧ startId ∉ nodes.map Node.id
  | .danglingReferences es =>
    (nodes.map Node.id).Nodup ∧ startId ∈ nodes.map Node.id ∧ es = missingEdges nodes ∧ es ≠ []
  | _ => False

/-- The nodes are refused for a reason that holds of them, or make a script. -/
lemma assemble_cases (metadata : Metadata) (nodes : List Node) :
    (∃ d, assemble metadata nodes = .error d ∧ Refused nodes d) ∨
      ∃ index, assemble metadata nodes = .ok ⟨metadata, nodes, index⟩ ∧
        (nodes.map Node.id).Nodup ∧ startId ∈ nodes.map Node.id ∧ missingEdges nodes = [] := by
  cases henter : enter 0 [] nodes with
  | error id =>
    have hrepeat := enter_eq_error_iff_firstRepeat.1 henter
    exact Or.inl ⟨_, assemble_of_firstRepeat hrepeat, hrepeat⟩
  | ok index =>
    have hnodup := (exact_of_enter henter).nodup
    by_cases hstart : startId ∈ nodes.map Node.id
    · have hassemble : assemble metadata nodes = _ := assemble_of_start henter hstart
      split at hassemble
      · rename_i hmissing
        exact Or.inr ⟨index, hassemble, hnodup, hstart, hmissing⟩
      · rename_i hmissing
        exact Or.inl ⟨_, hassemble, hnodup, hstart, rfl, hmissing⟩
    · exact Or.inl ⟨_, assemble_of_no_start henter hstart, hnodup, hstart⟩

/-- A reason is given if, and only if, it holds of the nodes. -/
lemma assemble_eq_error_iff {d : Defect} :
    assemble metadata nodes = .error d ↔ Refused nodes d := by
  constructor
  · intro h
    rcases assemble_cases metadata nodes with ⟨d', hassemble, hrefused⟩ | ⟨index, hassemble, -⟩
    · cases hassemble.symm.trans h
      exact hrefused
    · cases hassemble.symm.trans h
  · intro h
    cases d with
    | duplicateNode id => exact assemble_of_firstRepeat h
    | missingStart =>
      obtain ⟨hnodup, hstart⟩ := h
      obtain ⟨index, henter⟩ := exists_enter hnodup
      exact assemble_of_no_start henter hstart
    | danglingReferences es =>
      obtain ⟨hnodup, hstart, rfl, hne⟩ := h
      obtain ⟨index, henter⟩ := exists_enter hnodup
      rw [assemble_of_start henter hstart]
      split
      · rename_i hmissing
        exact absurd hmissing hne
      · rfl
    | _ => exact h.elim

lemma exists_assemble_eq_ok_iff :
    (∃ s, assemble metadata nodes = .ok s) ↔
      (nodes.map Node.id).Nodup ∧ startId ∈ nodes.map Node.id ∧ missingEdges nodes = [] := by
  constructor
  · rintro ⟨s, h⟩
    rcases assemble_cases metadata nodes with ⟨d, hassemble, -⟩ | ⟨index, -, hall⟩
    · cases hassemble.symm.trans h
    · exact hall
  · rintro ⟨hnodup, hstart, hmissing⟩
    obtain ⟨index, henter⟩ := exists_enter hnodup
    have hassemble : assemble metadata nodes = _ := assemble_of_start henter hstart
    rw [hmissing] at hassemble
    exact ⟨_, hassemble⟩

/-! ## Scripts that are read -/

/-- The defects of the whole have no line: a source whose lines are all taken in is refused for
what its nodes are refused for. -/
lemma parse_eq_error_iff_of_pass {o : Source.ParseOptions} {text : Text} {b : Source.Builder}
    {e : ScriptError} (h : Source.pass o text = .ok b) :
    Source.parse o text = .error e ↔ ∃ d, Refused b.nodes d ∧ e = ⟨none, d⟩ := by
  have hrefused (d : Defect) : assemble b.metadata b.nodes = .error d ↔ Refused b.nodes d :=
    assemble_eq_error_iff
  simp only [Source.parse, Source.parseLogged, h, ← hrefused]
  cases assemble b.metadata b.nodes with
  | ok s => simp
  | error d => simp [eq_comm]

/-- A JSON text that holds a header and nodes is refused for what its nodes are refused for. -/
lemma load_eq_error_iff_of_run {text : Text} {e : LoadError}
    (h : partsDecoder.run text = .ok (metadata, nodes)) :
    load text = .error e ↔ ∃ d, Refused nodes d ∧ e = .script ⟨none, d⟩ := by
  have hrefused (d : Defect) : assemble metadata nodes = .error d ↔ Refused nodes d :=
    assemble_eq_error_iff
  simp only [load, h, ← hrefused]
  cases assemble metadata nodes with
  | ok s => simp
  | error d => simp [eq_comm]

/-- Nodes are refused for the first repetition of an id, then for want of a start node, then for
the edges that lead to none of them, each once for every jump and option, in flow order; otherwise
they make a script with the same header and nodes. The checker has one complaint for each of these
edges, which names its ends and its kind. What is read, from a source or from JSON, is refused for
the same reason, and without a line. -/
theorem assemble_outcome (metadata : Metadata) (nodes : List Node) :
    (∀ d, assemble metadata nodes = .error d ↔ Refused nodes d) ∧
      (∀ s, assemble metadata nodes = .ok s → s.metadata = metadata ∧ s.nodes = nodes) ∧
      ((∃ s, assemble metadata nodes = .ok s) ↔
        (nodes.map Node.id).Nodup ∧ startId ∈ nodes.map Node.id ∧ missingEdges nodes = []) ∧
      (∀ index : Index, index.Exact (nodes.map Node.id) →
        (validate ⟨metadata, nodes, index⟩).errors =
          (missingEdges nodes).map FlowEdge.complaint) ∧
      (∀ source target : Text,
        FlowEdge.complaint ⟨source, target, .jump⟩ =
          "node \"".toList ++ source ++ "\" jumps to missing node \"".toList ++ target ++ ['"'] ∧
        FlowEdge.complaint ⟨source, target, .option⟩ =
          "node \"".toList ++ source ++
            "\" has a choice option targeting missing node \"".toList ++ target ++ ['"']) ∧
      (∀ o text b, Source.pass o text = .ok b → b.nodes = nodes →
        ∀ e, Source.parse o text = .error e ↔ ∃ d, Refused nodes d ∧ e = ⟨none, d⟩) ∧
      ∀ text, partsDecoder.run text = .ok (metadata, nodes) →
        ∀ e, load text = .error e ↔ ∃ d, Refused nodes d ∧ e = .script ⟨none, d⟩ := by
  refine ⟨fun _ => assemble_eq_error_iff, fun s h => ?_, exists_assemble_eq_ok_iff,
    fun index hindex => ?_, fun source target => ⟨rfl, rfl⟩, fun o text b hpass hnodes e => ?_,
    fun text hrun e => load_eq_error_iff_of_run hrun⟩
  · obtain ⟨hmetadata, hnodes, -⟩ := assemble_eq_ok_iff.1 h
    exact ⟨hmetadata, hnodes⟩
  · show (dangling ⟨metadata, nodes, index⟩).map FlowEdge.complaint = _
    rw [dangling_eq_missingEdges hindex]
  · rw [← hnodes]
    exact parse_eq_error_iff_of_pass hpass

end Script

end DialogueScript
