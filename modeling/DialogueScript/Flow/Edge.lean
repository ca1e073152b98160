import DialogueScript.Script.Basic

/-!
# Flow edges

An edge leads from a node to the target of its jump, or of one of its options. Edges keep their
order: by node, the jump first, then the options in line and option order, repetitions included.
`successors` lists the targets of one node once each, in the order of their first edge.
-/

namespace DialogueScript

/-- How one node leads to another. -/
inductive EdgeKind where
  | jump
  | option
deriving DecidableEq

/-- A step of the flow between two nodes. -/
structure FlowEdge where
  source : Text
  target : Text
  kind : EdgeKind
deriving DecidableEq

namespace Node

/-- The targets of the options of a node, in line and option order. -/
def optionTargets (n : Node) : List Text :=
  n.lines.flatMap fun line => line.options.filterMap ChoiceOption.target

/-- The edges that leave a node. -/
def edges (n : Node) : List FlowEdge :=
  n.jump.toList.map (⟨n.id, ·, .jump⟩) ++ n.optionTargets.map (⟨n.id, ·, .option⟩)

end Node

namespace Script

/-- All edges, in node order. -/
def flowEdges (s : Script) : List FlowEdge := s.nodes.flatMap Node.edges

/-- The distinct targets of the node that carries `id`, in edge order. -/
def successors (s : Script) (id : Text) : List Text :=
  match s.node? id with
  | none => []
  | some n => (n.jump.toList ++ n.optionTargets).eraseDups

end Script

/-! ## The distinct targets of a node -/

theorem nodup_eraseDups {α : Type} [BEq α] [LawfulBEq α] (l : List α) : l.eraseDups.Nodup := by
  match l with
  | [] => simp
  | a :: l =>
    rw [List.eraseDups_cons, List.nodup_cons]
    exact ⟨by simp, nodup_eraseDups _⟩
termination_by l.length
decreasing_by
  exact Nat.lt_succ_of_le (List.length_filter_le _ _)

theorem length_eraseDups_le {α : Type} [BEq α] [LawfulBEq α] (l : List α) :
    l.eraseDups.length ≤ l.length := by
  match l with
  | [] => simp
  | a :: l =>
    rw [List.eraseDups_cons, List.length_cons, List.length_cons]
    have := length_eraseDups_le (l.filter fun b => !b == a)
    have := List.length_filter_le (fun b => !b == a) l
    omega
termination_by l.length
decreasing_by
  exact Nat.lt_succ_of_le (List.length_filter_le _ _)

theorem filter_not_mem_cons (l visited : List Text) (x : Text) :
    l.filter (· ∉ x :: visited) = (l.filter (· ∉ visited)).filter (· ≠ x) := by
  rw [List.filter_filter]
  refine List.filter_congr fun y _ => ?_
  simp [not_or]

end DialogueScript
