import DialogueScript.Flow.Edge

/-!
# Paths

A path is simple if it enters no node twice. `Script.pathsTo` lists the simple paths from the
start node to a target in depth-first order: a search walks along the successors of the last node
of the current path, does not enter a node that is on the path, and gives a node free again when
it turns back.

What one step can do is said by `Search.Step` (`step_eq_some_iff`). The search ends on every graph,
with cycles or without: `Search.weight` gets smaller with each step (`weight_step`), whatever the
state.
-/

namespace DialogueScript

/-- A node on the current path, and how many of its successors have been tried. -/
structure Frame where
  id : Text
  cursor : Nat
deriving DecidableEq

/-- A state of the search: the current path, last node first, the ids on it, and the paths that
have been found, latest first. -/
structure Search where
  stack : List Frame
  onPath : List Text
  found : List (List Text)
deriving DecidableEq

/-- The number of successors of a frame that have not been tried. -/
def Frame.untried (s : Script) (f : Frame) : Nat := (s.successors f.id).length - f.cursor

namespace Search

/-- The search before its first step, at the start node. -/
def atStart : Search := ⟨[⟨startId, 0⟩], [startId], []⟩

/-- The current path. -/
def path (q : Search) : List Text := (q.stack.map Frame.id).reverse

/-- One step: it tries the next successor of the last node, or turns back. There is none from an
empty path. -/
def step (s : Script) (target : Text) (q : Search) : Option Search :=
  match q.stack with
  | [] => none
  | f :: below =>
    match (s.successors f.id)[f.cursor]? with
    | none => some { q with stack := below, onPath := q.onPath.erase f.id }
    | some next =>
      let tried : List Frame := ⟨f.id, f.cursor + 1⟩ :: below
      if next ∈ q.onPath then some { q with stack := tried }
      else if next = target then
        some { q with stack := tried, found := (q.path ++ [next]) :: q.found }
      else some { q with stack := ⟨next, 0⟩ :: tried, onPath := next :: q.onPath }

/-- What a step does: it turns back from the last node, or it tries the next successor, which is on
the path already, or is the target, or else is entered. -/
inductive Step (s : Script) (target : Text) (q : Search) : Search → Prop where
  | back {f : Frame} {below : List Frame} (hstack : q.stack = f :: below)
    (hdone : (s.successors f.id)[f.cursor]? = none) :
    Step s target q { q with stack := below, onPath := q.onPath.erase f.id }
  | skip {f : Frame} {below : List Frame} {next : Text} (hstack : q.stack = f :: below)
    (hnext : (s.successors f.id)[f.cursor]? = some next) (hon : next ∈ q.onPath) :
    Step s target q { q with stack := ⟨f.id, f.cursor + 1⟩ :: below }
  | arrive {f : Frame} {below : List Frame} {next : Text} (hstack : q.stack = f :: below)
    (hnext : (s.successors f.id)[f.cursor]? = some next) (hnew : next ∉ q.onPath)
    (htarget : next = target) :
    Step s target q
      { q with stack := ⟨f.id, f.cursor + 1⟩ :: below, found := (q.path ++ [next]) :: q.found }
  | enter {f : Frame} {below : List Frame} {next : Text} (hstack : q.stack = f :: below)
    (hnext : (s.successors f.id)[f.cursor]? = some next) (hnew : next ∉ q.onPath)
    (hother : next ≠ target) :
    Step s target q
      { q with stack := ⟨next, 0⟩ :: ⟨f.id, f.cursor + 1⟩ :: below, onPath := next :: q.onPath }

theorem step_eq_some_iff {s : Script} {target : Text} {q r : Search} :
    q.step s target = some r ↔ Step s target q r := by
  constructor
  · intro h
    unfold step at h
    split at h
    · cases h
    rename_i f below hstack
    split at h
    · rename_i hdone
      cases h
      exact .back hstack hdone
    rename_i next hnext
    dsimp only at h
    split at h
    · rename_i hon
      cases h
      exact .skip hstack hnext hon
    rename_i hnew
    split at h
    · rename_i htarget
      cases h
      exact .arrive hstack hnext hnew htarget
    · rename_i hother
      cases h
      exact .enter hstack hnext hnew hother
  · intro h
    cases h with
    | back hstack hdone => simp only [step, hstack, hdone]
    | skip hstack hnext hon => simp only [step, hstack, hnext, if_pos hon]
    | arrive hstack hnext hnew htarget =>
      simp only [step, hstack, hnext, if_neg hnew, if_pos htarget]
    | enter hstack hnext hnew hother =>
      simp only [step, hstack, hnext, if_neg hnew, if_neg hother]

/-- A search stops only when there is no node left on its path. -/
theorem step_eq_none_iff {s : Script} {target : Text} {q : Search} :
    q.step s target = none ↔ q.stack = [] := by
  constructor
  · intro h
    unfold step at h
    split at h
    · assumption
    · split at h
      · cases h
      · dsimp only at h
        split at h
        · cases h
        · split at h <;> cases h
  · intro hstack
    simp only [step, hstack]

/-! ## The search ends -/

/-- The ids to which an edge leads. -/
def targets (s : Script) : List Text := (s.flowEdges.map FlowEdge.target).eraseDups

/-- A bound on the steps that the untried successors of a frame still cost, if `free` targets are
not on the path. -/
def room (s : Script) : (free : Nat) → Nat
  | 0 => 1
  | free + 1 => s.flowEdges.length * room s free + 2

/-- The cost of a stack above which `free` targets are not on the path. -/
def stackWeight (s : Script) : (free : Nat) → List Frame → Nat
  | _, [] => 0
  | free, f :: below => 1 + Frame.untried s f * room s free + stackWeight s (free + 1) below

/-- The targets that are not on the path. -/
def free (s : Script) (onPath : List Text) : List Text := (targets s).filter (· ∉ onPath)

/-- A bound on the number of steps that are left. -/
def weight (s : Script) (q : Search) : Nat := stackWeight s (free s q.onPath).length q.stack

theorem mem_targets_of_mem_successors {s : Script} {id x : Text} (h : x ∈ s.successors id) :
    x ∈ targets s := by
  unfold Script.successors at h
  split at h
  · simp at h
  · rename_i n hn
    have hmem : n ∈ s.nodes := by
      obtain ⟨i, -, hi⟩ := Option.bind_eq_some_iff.1 hn
      exact List.mem_of_getElem? hi
    rw [List.mem_eraseDups] at h
    rw [targets, List.mem_eraseDups, List.mem_map]
    have : ∃ e ∈ n.edges, e.target = x := by
      rcases List.mem_append.1 h with h | h
      · exact ⟨_, List.mem_append_left _ (List.mem_map_of_mem h), rfl⟩
      · exact ⟨_, List.mem_append_right _ (List.mem_map_of_mem h), rfl⟩
    obtain ⟨e, he, rfl⟩ := this
    exact ⟨e, List.mem_flatMap.2 ⟨n, hmem, he⟩, rfl⟩

theorem length_le_length_flatMap {α β : Type} {f : α → List β} {l : List α} {a : α}
    (h : a ∈ l) : (f a).length ≤ (l.flatMap f).length := by
  obtain ⟨l₁, l₂, rfl⟩ := List.append_of_mem h
  simp only [List.flatMap_append, List.flatMap_cons, List.length_append]
  omega

theorem length_successors_le (s : Script) (id : Text) :
    (s.successors id).length ≤ s.flowEdges.length := by
  unfold Script.successors
  split
  · simp
  · rename_i n hn
    have hmem : n ∈ s.nodes := by
      obtain ⟨i, -, hi⟩ := Option.bind_eq_some_iff.1 hn
      exact List.mem_of_getElem? hi
    calc _ ≤ (n.jump.toList ++ n.optionTargets).length := length_eraseDups_le _
      _ = n.edges.length := by simp [Node.edges]
      _ ≤ s.flowEdges.length := length_le_length_flatMap hmem

theorem room_pos (s : Script) (free : Nat) : 0 < room s free := by
  cases free <;> simp [room]

theorem room_le_room_succ (s : Script) (free : Nat) : room s free ≤ room s (free + 1) := by
  by_cases h : s.flowEdges.length = 0
  · cases free <;> simp [room, h]
  · have : 1 * room s free ≤ s.flowEdges.length * room s free :=
      Nat.mul_le_mul_right _ (Nat.one_le_iff_ne_zero.2 h)
    simp only [room]
    omega

theorem room_mono {s : Script} {a b : Nat} (h : a ≤ b) : room s a ≤ room s b := by
  induction h with
  | refl => exact Nat.le_refl _
  | step _ ih => exact Nat.le_trans ih (room_le_room_succ s _)

theorem stackWeight_mono {s : Script} {a b : Nat} (h : a ≤ b) (stack : List Frame) :
    stackWeight s a stack ≤ stackWeight s b stack := by
  induction stack generalizing a b with
  | nil => exact Nat.le_refl _
  | cons f below ih =>
    have := Nat.mul_le_mul_left (Frame.untried s f) (room_mono (s := s) h)
    have := ih (a := a + 1) (b := b + 1) (Nat.succ_le_succ h)
    simp only [stackWeight]
    omega

/-- Taking an id off the path sets at most one target free. -/
theorem length_free_erase_le (s : Script) (onPath : List Text) (id : Text) :
    (free s (onPath.erase id)).length ≤ (free s onPath).length + 1 := by
  have hnodup : (targets s).Nodup := nodup_eraseDups _
  unfold free
  generalize targets s = all at hnodup
  induction all with
  | nil => simp
  | cons t ts ih =>
    obtain ⟨hmem, hts⟩ := List.nodup_cons.1 hnodup
    by_cases ht : t = id
    · subst ht
      have hsame : ts.filter (fun x => decide (x ∉ onPath.erase t)) =
          ts.filter (fun x => decide (x ∉ onPath)) := by
        refine List.filter_congr fun x hx => ?_
        have hne : x ≠ t := fun h => hmem (h ▸ hx)
        simp [List.mem_erase_of_ne hne]
      have h1 := List.length_filter_le (fun x => decide (x ∉ onPath.erase t)) [t]
      rw [← List.singleton_append, List.filter_append, List.filter_append, List.length_append,
        List.length_append, hsame]
      simp only [List.length_singleton] at h1
      omega
    · have := ih hts
      by_cases hon : t ∈ onPath
      · simpa [hon, List.mem_erase_of_ne ht] using this
      · simpa [hon, List.mem_erase_of_ne ht] using this

/-- Putting a free target on the path takes it from the free ones. -/
theorem length_free_cons_lt {s : Script} {onPath : List Text} {x : Text} (ht : x ∈ targets s)
    (hx : x ∉ onPath) : (free s (x :: onPath)).length < (free s onPath).length := by
  rw [free, filter_not_mem_cons]
  exact List.length_filter_lt_length_iff_exists.2
    ⟨x, List.mem_filter.2 ⟨ht, by simp [hx]⟩, by simp⟩

/-- A successor that is tried takes one room from the weight of its frame. -/
theorem untried_mul_room {s : Script} {f : Frame} {next : Text}
    (h : (s.successors f.id)[f.cursor]? = some next) (k : Nat) :
    Frame.untried s f * room s k =
      Frame.untried s ⟨f.id, f.cursor + 1⟩ * room s k + room s k := by
  obtain ⟨hcursor, -⟩ := List.getElem?_eq_some_iff.1 h
  have huntried : Frame.untried s f = Frame.untried s ⟨f.id, f.cursor + 1⟩ + 1 := by
    simp only [Frame.untried]
    omega
  rw [huntried, Nat.add_mul, Nat.one_mul]

theorem weight_step {s : Script} {target : Text} {q r : Search} (h : q.step s target = some r) :
    r.weight s < q.weight s := by
  cases step_eq_some_iff.1 h with
  | @back f below hstack hdone =>
    have := stackWeight_mono (s := s) (length_free_erase_le s q.onPath f.id) below
    simp only [weight, hstack, stackWeight]
    omega
  | skip hstack hnext hon =>
    have := untried_mul_room hnext (free s q.onPath).length
    have := room_pos s (free s q.onPath).length
    simp only [weight, hstack, stackWeight]
    omega
  | arrive hstack hnext hnew htarget =>
    have := untried_mul_room hnext (free s q.onPath).length
    have := room_pos s (free s q.onPath).length
    simp only [weight, hstack, stackWeight]
    omega
  | @enter f below next hstack hnext hnew hother =>
    have htarget := mem_targets_of_mem_successors (List.mem_of_getElem? hnext)
    have hlt := length_free_cons_lt htarget hnew
    obtain ⟨k, hk⟩ : ∃ k, (free s q.onPath).length = k + 1 := ⟨_, (Nat.succ_pred (by omega)).symm⟩
    have hle : (free s (next :: q.onPath)).length ≤ k := by omega
    -- the room of the successor that is entered pays for its frame
    have hroom : room s (k + 1) = s.flowEdges.length * room s k + 2 := rfl
    have hspent := untried_mul_room hnext (k + 1)
    have hentered : Frame.untried s ⟨next, 0⟩ * room s (free s (next :: q.onPath)).length ≤
        s.flowEdges.length * room s k :=
      Nat.mul_le_mul (by simpa [Frame.untried] using length_successors_le s next) (room_mono hle)
    have htried : Frame.untried s ⟨f.id, f.cursor + 1⟩ *
        room s ((free s (next :: q.onPath)).length + 1) ≤
          Frame.untried s ⟨f.id, f.cursor + 1⟩ * room s (k + 1) :=
      Nat.mul_le_mul_left _ (room_mono (Nat.succ_le_succ hle))
    have hbelow := stackWeight_mono (s := s)
      (show (free s (next :: q.onPath)).length + 1 + 1 ≤ k + 1 + 1 by omega) below
    simp only [weight, hstack, hk, stackWeight]
    omega

/-- The search from a state to its end. -/
def run (s : Script) (target : Text) (q : Search) : Search :=
  match _h : q.step s target with
  | some r => run s target r
  | none => q
termination_by q.weight s
decreasing_by exact weight_step _h

theorem run_of_step {s : Script} {target : Text} {q r : Search} (h : q.step s target = some r) :
    q.run s target = r.run s target := by
  rw [run]
  split
  · rename_i r' hr'
    rw [h] at hr'
    cases hr'
    rfl
  · rename_i hnone
    rw [h] at hnone
    cases hnone

theorem run_of_step_eq_none {s : Script} {target : Text} {q : Search}
    (h : q.step s target = none) : q.run s target = q := by
  rw [run]
  split
  · rename_i r hr
    rw [h] at hr
    cases hr
  · rfl

end Search

/-- The simple paths from the start node to a target, in depth-first order. -/
def Script.pathsTo (s : Script) (target : Text) : List (List Text) :=
  if s.contains startId && s.contains target then
    if target = startId then [[startId]] else (Search.atStart.run s target).found.reverse
  else []

end DialogueScript
