import DialogueScript.Script.Defect

/-!
# Assembling a script

A header and nodes make a script if no id repeats, a node carries the start id, and every jump
and every option target is the id of a node; the defects are looked for in that order. An id that
repeats shows when the nodes are entered into the index. `Script.dangling` walks over the nodes
itself and names each reference that fails, `Script.validate` reports on them, and this report
decides on the script (`validate_valid_iff`).
-/

namespace DialogueScript

/-- The findings of a check: valid if there are none. -/
structure Report where
  valid : Bool
  errors : List Text
deriving DecidableEq

/-- The report that lists `errors`. -/
def Report.ofErrors (errors : List Text) : Report := ⟨errors.isEmpty, errors⟩

/-- The references of a node to ids that are not `known`: its jump, then its options in order. -/
def Node.dangling (known : Text → Bool) (n : Node) : List FlowEdge :=
  let missing (kind : EdgeKind) (reference : Option Text) : Option FlowEdge :=
    match reference with
    | some target => if known target then none else some ⟨n.id, target, kind⟩
    | none => none
  (missing .jump n.jump).toList ++
    n.lines.flatMap fun line => line.options.filterMap fun o => missing .option o.target

namespace Script

/-- Every reference to an id that no node carries, in node order. -/
def dangling (s : Script) : List FlowEdge := s.nodes.flatMap (Node.dangling s.contains)

/-- The report on the references of a script. -/
def validate (s : Script) : Report := .ofErrors (s.dangling.map FlowEdge.complaint)

theorem validate_valid_iff {s : Script} : s.validate.valid = true ↔ s.dangling = [] := by
  rw [validate, Report.ofErrors, List.isEmpty_iff, List.map_eq_nil_iff]

/-- Enters nodes into an index, the first of them at position `i`. An id that is there already
stops this. -/
def enter (i : Nat) (index : Index) : List Node → Except Text Index
  | [] => .ok index
  | n :: ns =>
    if (index.lookup n.id).isSome then .error n.id else enter (i + 1) ((n.id, i) :: index) ns

/-- The script with this header and these nodes, or its first defect. The references are left to
`validate`; if its report is not valid, the defect holds the edges that the report complains of. -/
def assemble (metadata : Metadata) (nodes : List Node) : Except Defect Script :=
  match enter 0 [] nodes with
  | .error id => .error (.duplicateNode id)
  | .ok index =>
    let s : Script := ⟨metadata, nodes, index⟩
    if s.contains startId then
      if s.validate.valid then .ok s else .error (.danglingReferences s.dangling)
    else .error .missingStart

theorem assemble_eq_ok_iff {metadata : Metadata} {nodes : List Node} {s : Script} :
    assemble metadata nodes = .ok s ↔
      s.metadata = metadata ∧ s.nodes = nodes ∧ enter 0 [] nodes = .ok s.index ∧
        s.contains startId = true ∧ s.dangling = [] := by
  unfold assemble
  constructor
  · intro h
    split at h
    · cases h
    · rename_i index hindex
      dsimp only at h
      split at h
      · rename_i hstart
        split at h
        · rename_i hvalid
          cases h
          exact ⟨rfl, rfl, hindex, hstart, validate_valid_iff.1 hvalid⟩
        · cases h
      · cases h
  · rintro ⟨rfl, rfl, hindex, hstart, hdangling⟩
    rw [hindex]
    show (if s.contains startId = true then _ else _) = _
    rw [if_pos hstart]
    exact if_pos (validate_valid_iff.2 hdangling)

end Script

end DialogueScript
