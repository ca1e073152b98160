import DialogueScript.Flow.Edge

/-!
# Reachability

The ids that can be reached from the start node, found with a stack of ids that are still to be
looked at. Unlike the search for paths, this one enters each node once.
-/

namespace DialogueScript

namespace Script

/-- The ids that have not been visited, of those in the index. -/
def unvisited (s : Script) (visited : List Text) : List Text :=
  (s.index.map Prod.fst).filter (· ∉ visited)

/-- An id that the index does not hold leads nowhere. -/
theorem successors_of_not_mem {s : Script} {id : Text} (h : id ∉ s.index.map Prod.fst) :
    s.successors id = [] := by
  have hnone : s.position? id = none := by
    rw [position?, List.lookup_eq_none_iff]
    intro p hp
    rw [bne_iff_ne]
    rintro rfl
    exact h (List.mem_map_of_mem hp)
  simp [successors, node?, hnone]

/-- A visit takes no id back. -/
theorem length_unvisited_cons_le (s : Script) (visited : List Text) (id : Text) :
    (s.unvisited (id :: visited)).length ≤ (s.unvisited visited).length := by
  rw [unvisited, filter_not_mem_cons]
  exact List.length_filter_le _ _

/-- A first visit to a node leaves fewer unvisited ones. -/
theorem length_unvisited_cons_lt {s : Script} {visited : List Text} {id : Text}
    (hmem : id ∈ s.index.map Prod.fst) (hnew : id ∉ visited) :
    (s.unvisited (id :: visited)).length < (s.unvisited visited).length := by
  rw [unvisited, filter_not_mem_cons]
  exact List.length_filter_lt_length_iff_exists.2
    ⟨id, List.mem_filter.2 ⟨hmem, by simp [hnew]⟩, by simp⟩

/-- Visits the pending ids and everything that can be reached from them through unvisited ones;
the result is all that has been visited, latest first. The pending ids are a stack: the successors
of a node are put on it one by one, so that the last of them is visited next. -/
def visitFrom (s : Script) : (pending visited : List Text) → List Text
  | [], visited => visited
  | id :: pending, visited =>
    if id ∈ visited then visitFrom s pending visited
    else
      visitFrom s (((s.successors id).filter (· ∉ id :: visited)).reverse ++ pending)
        (id :: visited)
termination_by pending visited => ((s.unvisited visited).length, pending.length)
decreasing_by
  · exact Prod.Lex.right _ (by simp)
  · rename_i hnew
    by_cases hmem : id ∈ s.index.map Prod.fst
    · exact Prod.Lex.left _ _ (length_unvisited_cons_lt hmem hnew)
    · rw [successors_of_not_mem hmem]
      rcases Nat.lt_or_eq_of_le (length_unvisited_cons_le s visited id) with h | h
      · exact Prod.Lex.left _ _ h
      · rw [h]
        exact Prod.Lex.right _ (by simp)

/-- The ids that can be reached from the start node, which is one of them. -/
def reached (s : Script) : List Text :=
  if s.contains startId then s.visitFrom [startId] [] else []

/-- Whether an id can be reached from the start node. -/
def isReachable (s : Script) (target : Text) : Bool := target ∈ s.reached

/-- The ids other than the start id that cannot be reached, in declaration order. -/
def unreachable (s : Script) : List Text :=
  let reached := s.reached
  s.nodeIds.filter fun id => id ≠ startId && id ∉ reached

end Script

end DialogueScript
