import DialogueScript.Proofs.SimplePaths
import Mathlib.Data.List.Perm.Subperm

/-!
# What every state of the search is like

`Script.pathsTo` steps from state to state until its stack is empty. The states that it comes
through are `Search.Reached`, numbered by the steps in front of them.

* In each of them the frames are a simple path out of the start node that keeps off the target, and
  the ids on the path, which a step changes apart from the stack, are those of the frames
  (`Search.Sound`). Each step keeps this (`Sound.step`), so that the stack stays smaller than the
  script (`Sound.length_stack_lt`).
* Each step lowers the weight of the state, so that the steps made and the weight left together
  never come to more than the weight at the start (`Reached.add_weight_le`). This bounds the number
  of steps, on a graph with cycles as on any other.
-/

namespace DialogueScript.Search

variable {s : Script} {target : Text} {q r : Search} {n : ℕ} {f : Frame} {below : List Frame}
  {onPath : List Text} {found : List (List Text)} {next : Text}

/-- The ids of the frames, that of the last node first. -/
def ids (q : Search) : List Text := q.stack.map Frame.id

/-- The search for the paths to `target` is in the state `q` after `n` steps. It is not begun for
the start node, nor for an id that no node carries. -/
inductive Reached (s : Script) (target : Text) : ℕ → Search → Prop where
  | start (hstart : s.contains startId = true) (htarget : s.contains target = true)
    (hne : target ≠ startId) : Reached s target 0 atStart
  | step {n : ℕ} {q r : Search} (h : Reached s target n q) (hstep : q.step s target = some r) :
    Reached s target (n + 1) r

/-- What a state of the search is like: its frames lead from the start node along distinct nodes
other than the target, and each of them but the first is the successor that the frame below it tried
last. -/
structure Sound (s : Script) (target : Text) (q : Search) : Prop where
  onPath : q.onPath = q.ids
  nodup : q.ids.Nodup
  nodes : ∀ id ∈ q.ids, id ∈ s.nodeIds
  bottom : q.stack ≠ [] → q.ids.getLast? = some startId
  avoids : target ∉ q.ids
  entered : q.stack.IsChain fun f below =>
    ∃ i, below.cursor = i + 1 ∧ (s.successors below.id)[i]? = some f.id
  cursor : ∀ f ∈ q.stack, f.cursor ≤ (s.successors f.id).length

/-! ## One step -/

lemma sound_atStart (hs : s.ClosedGraph) (hne : target ≠ startId) : atStart.Sound s target where
  onPath := rfl
  nodup := List.nodup_singleton startId
  nodes id hid := by
    rw [List.mem_singleton.1 hid]
    exact hs.start
  bottom _ := rfl
  avoids hmem := hne (List.mem_singleton.1 hmem)
  entered := List.isChain_singleton _
  cursor f hf := by
    rw [List.mem_singleton.1 hf]
    exact Nat.zero_le _

/-- Turning back takes the last node off the stack and off the path. -/
lemma Sound.back (h : Sound s target ⟨f :: below, onPath, found⟩) :
    Sound s target ⟨below, onPath.erase f.id, found⟩ where
  onPath := by
    have honPath : onPath = f.id :: below.map Frame.id := h.onPath
    rw [honPath, List.erase_cons_head]
    rfl
  nodup := h.nodup.of_cons
  nodes id hid := h.nodes id (List.mem_cons_of_mem _ hid)
  bottom hne := by
    obtain ⟨g, rest, rfl⟩ := List.exists_cons_of_ne_nil hne
    have hbottom : (f.id :: g.id :: rest.map Frame.id).getLast? = some startId :=
      h.bottom (List.cons_ne_nil _ _)
    rwa [List.getLast?_cons_cons] at hbottom
  avoids hmem := h.avoids (List.mem_cons_of_mem _ hmem)
  entered := h.entered.tail
  cursor g hg := h.cursor g (List.mem_cons_of_mem _ hg)

/-- Trying a successor moves the cursor of the last frame and leaves the ids as they are. -/
lemma Sound.tried (h : Sound s target ⟨f :: below, onPath, found⟩)
    (hnext : (s.successors f.id)[f.cursor]? = some next) (found' : List (List Text)) :
    Sound s target ⟨⟨f.id, f.cursor + 1⟩ :: below, onPath, found'⟩ where
  onPath := h.onPath
  nodup := h.nodup
  nodes := h.nodes
  bottom _ := h.bottom (List.cons_ne_nil _ _)
  avoids := h.avoids
  entered := by
    have hentered := h.entered
    rw [List.isChain_cons] at hentered
    exact List.isChain_cons.2 hentered
  cursor g hg := by
    rcases List.mem_cons.1 hg with rfl | hg
    · obtain ⟨hcursor, -⟩ := List.getElem?_eq_some_iff.1 hnext
      exact hcursor
    · exact h.cursor g (List.mem_cons_of_mem _ hg)

/-- A successor that is entered is a new node at the end of the path. -/
lemma Sound.enter (hs : s.ClosedGraph) (h : Sound s target ⟨f :: below, onPath, found⟩)
    (hnext : (s.successors f.id)[f.cursor]? = some next) (hnew : next ∉ onPath)
    (hother : next ≠ target) :
    Sound s target ⟨⟨next, 0⟩ :: ⟨f.id, f.cursor + 1⟩ :: below, next :: onPath, found⟩ := by
  have htried := h.tried hnext found
  have hleads : s.Leads f.id next := (Script.mem_successors_iff hs).1 (List.mem_of_getElem? hnext)
  exact {
    onPath := congrArg (next :: ·) htried.onPath
    nodup := by
      have honPath : onPath = f.id :: below.map Frame.id := h.onPath
      rw [honPath] at hnew
      exact List.nodup_cons.2 ⟨hnew, htried.nodup⟩
    nodes := by
      intro id hid
      rcases List.mem_cons.1 hid with rfl | hid
      · exact (hleads.mem_nodeIds hs).2
      · exact htried.nodes id hid
    bottom := fun _ => htried.bottom (List.cons_ne_nil _ _)
    avoids := by
      intro hmem
      rcases List.mem_cons.1 hmem with heq | hmem
      · exact hother heq.symm
      · exact htried.avoids hmem
    entered := List.isChain_cons_cons.2 ⟨⟨f.cursor, rfl, hnext⟩, htried.entered⟩
    cursor := by
      intro g hg
      rcases List.mem_cons.1 hg with rfl | hg
      · exact Nat.zero_le _
      · exact htried.cursor g hg }

/-- Each step keeps the search sound, whichever of its four ways it takes. -/
lemma Sound.step (hs : s.ClosedGraph) (h : q.Sound s target) (hstep : q.step s target = some r) :
    r.Sound s target := by
  obtain ⟨stack, onPath, found⟩ := q
  cases step_eq_some_iff.1 hstep with
  | back hstack hdone =>
    cases hstack
    exact h.back
  | skip hstack hnext hon =>
    cases hstack
    exact h.tried hnext found
  | arrive hstack hnext hnew htarget =>
    cases hstack
    exact h.tried hnext _
  | enter hstack hnext hnew hother =>
    cases hstack
    exact h.enter hs hnext hnew hother

/-- The frames and the target are distinct nodes. -/
lemma Sound.length_stack_lt (h : q.Sound s target) (htarget : target ∈ s.nodeIds) :
    q.stack.length < s.nodes.length := by
  have hnodup : (target :: q.ids).Nodup := List.nodup_cons.2 ⟨h.avoids, h.nodup⟩
  have hsubset : target :: q.ids ⊆ s.nodeIds := List.cons_subset.2 ⟨htarget, h.nodes⟩
  have hlength := (List.subperm_of_subset hnodup hsubset).length_le
  rwa [List.length_cons, ids, List.length_map, Script.nodeIds, List.length_map] at hlength

/-! ## Every state -/

lemma Reached.mem_nodeIds (hs : s.ClosedGraph) (h : Reached s target n q) : target ∈ s.nodeIds := by
  induction h with
  | start hstart htarget hne => exact hs.contains_iff.1 htarget
  | step h hstep ih => exact ih

lemma Reached.sound (hs : s.ClosedGraph) (h : Reached s target n q) : q.Sound s target := by
  induction h with
  | start hstart htarget hne => exact sound_atStart hs hne
  | step h hstep ih => exact ih.step hs hstep

/-- Each step takes at least one from the weight. -/
lemma Reached.add_weight_le (h : Reached s target n q) : n + q.weight s ≤ atStart.weight s := by
  induction h with
  | start hstart htarget hne => rw [Nat.zero_add]
  | step h hstep ih =>
    have := weight_step hstep
    omega

/-- A search that runs on from a state it has reached ends in one that it reaches. -/
lemma Reached.run (h : Reached s target n q) : ∃ m, Reached s target m (q.run s target) := by
  induction q using Search.run.induct s target generalizing n with
  | case1 q r hstep ih =>
    rw [run_of_step hstep]
    exact ih (h.step hstep)
  | case2 q hstep =>
    rw [run_of_step_eq_none hstep]
    exact ⟨n, h⟩

/-- Whatever the graph and the target, each state that the search reaches is sound, its stack holds
fewer frames than the script has nodes, and the weight at the start bounds the steps made and the
weight left. From each state with a frame there is a step, and it lowers the weight. A search that
is begun reaches the empty stack, and has then found the paths. -/
theorem sound_and_bounded_of_reached (h : s.Assembled) (target : Text) :
    (∀ n q, Reached s target n q → q.Sound s target ∧ q.stack.length < s.nodes.length ∧
      n + q.weight s ≤ atStart.weight s) ∧
      (∀ q : Search, q.stack ≠ [] →
        ∃ r, q.step s target = some r ∧ r.weight s < q.weight s) ∧
      (target ∈ s.nodeIds → target ≠ startId →
        ∃ n q, Reached s target n q ∧ q.stack = [] ∧ s.pathsTo target = q.found.reverse) := by
  have hs := h.closedGraph
  refine ⟨fun n q hreached => ?_, fun q hne => ?_, fun hmem hne => ?_⟩
  · have hsound := hreached.sound hs
    exact ⟨hsound, hsound.length_stack_lt (hreached.mem_nodeIds hs), hreached.add_weight_le⟩
  · obtain ⟨r, hstep⟩ := Option.ne_none_iff_exists'.1 (mt step_eq_none_iff.1 hne)
    exact ⟨r, hstep, weight_step hstep⟩
  · have hstart := hs.contains_iff.2 hs.start
    have htarget := hs.contains_iff.2 hmem
    obtain ⟨n, hend⟩ := (Reached.start hstart htarget hne).run
    refine ⟨n, atStart.run s target, hend, step_eq_none_iff.1 (found_run atStart rfl).1, ?_⟩
    rw [Script.pathsTo, hstart, htarget, Bool.and_self, if_pos rfl, if_neg hne]

/-- The start node and `m` form a cycle. The search does not go around it, and ends. -/
theorem sound_and_bounded_of_cycle :
    let options : List ChoiceOption := [⟨['u'], none, some startId⟩, ⟨['o'], none, some ['e']⟩]
    let s : Script := ⟨{}, [⟨startId, [], some ['m']⟩, ⟨['m'], [.choice [] options none], none⟩,
      ⟨['e'], [], none⟩], [(['e'], 2), (['m'], 1), (startId, 0)]⟩
    let q : Search := ⟨[⟨['m'], 1⟩, ⟨startId, 1⟩], [['m'], startId], []⟩
    s.Assembled ∧ Reached s ['e'] 2 q ∧ q.Sound s ['e'] ∧
      (∃ r, q.step s ['e'] = some r ∧ r.weight s < q.weight s) ∧
      (∀ n r, Reached s ['e'] n r → r.stack.length < 3 ∧ n ≤ 18) ∧
      ∃ n r, Reached s ['e'] n r ∧ r.stack = [] ∧ s.pathsTo ['e'] = r.found.reverse := by
  intro options s q
  have hs : s.Assembled := rfl
  obtain ⟨hsound, hstep, hends⟩ := sound_and_bounded_of_reached hs ['e']
  have hstart : Reached s ['e'] 0 atStart := .start rfl rfl (by decide)
  have hskipped : Reached s ['e'] 2 q := (hstart.step rfl).step rfl
  refine ⟨hs, hskipped, (hsound 2 q hskipped).1, hstep q (by decide), fun n r hr => ?_,
    hends (by decide) (by decide)⟩
  obtain ⟨-, hstack, hsteps⟩ := hsound n r hr
  have hweight : atStart.weight s = 18 := rfl
  exact ⟨hstack, by omega⟩

end DialogueScript.Search
