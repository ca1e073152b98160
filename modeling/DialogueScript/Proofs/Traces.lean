import DialogueScript.Proofs.Sections
import Mathlib.Data.List.Nodup

/-!
# What a builder keeps of its lines

A builder that has taken in some lines holds the ids of their node directives, each of them once,
and the lines at which a choice or a code block began that is still open. `Builder.Traces` ties
these parts of a builder to the readings of its lines. Each line keeps it (`traces_effect`), so
that it holds after every pass that has succeeded so far (`traces_advance`).
-/

namespace DialogueScript.Source

open Text

/-- No code block is open before the line, and one is open behind it. -/
def Reading.Opens (r : Reading) : Prop :=
  r.context.inCodeBlock = false ∧ (r.context.after r.line).inCodeBlock = true

/-- The ids of the node directives among some lines, in their order. -/
def directives (rs : List Reading) : List Text := rs.filterMap Reading.nodeId?

lemma directives_concat (rs : List Reading) (r : Reading) :
    directives (rs ++ [r]) = directives rs ++ r.nodeId?.toList := by
  rw [directives, List.filterMap_append]
  cases hid : r.nodeId? with
  | none => rw [List.filterMap_cons_none hid]; rfl
  | some id => rw [List.filterMap_cons_some hid]; rfl

namespace Builder

variable {o : ParseOptions} {n : ℕ} {b b' : Builder} {line : SourceLine} {rs : List Reading}

/-- The ids of all nodes, the current one included. -/
def ids (b : Builder) : List Text := b.nodes.map Node.id ++ (b.current.map Node.id).toList

/-- The builder has taken in the lines with the readings `rs`. -/
structure Traces (rs : List Reading) (b : Builder) : Prop where
  seen : b.seen = directives rs
  ids : b.ids = b.seen
  nodup : b.seen.Nodup
  outside : b.current = none → b.seen = []
  choice : ∀ c, b.choice = some c → 1 ≤ c.line ∧ c.line ≤ rs.length
  block : ∀ k, b.block = some k → ∃ before r inside, rs = before ++ r :: inside ∧
    k.line = before.length + 1 ∧ r.Opens ∧ ∀ i ∈ inside, ∃ raw, i.line = .verbatim raw

lemma traces_empty : Traces [] {} where
  seen := rfl
  ids := rfl
  nodup := List.nodup_nil
  outside := fun _ => rfl
  choice := fun c h => by cases h
  block := fun k h => by cases h

lemma Traces.with_log (h : b.Traces rs) (log : List LogRecord) :
    Traces rs { b with log := log } :=
  ⟨h.seen, h.ids, h.nodup, h.outside, h.choice, h.block⟩

/-! ## One line -/

lemma map_id_append (b : Builder) (ls : List Line) :
    (b.append ls).current.map Node.id = b.current.map Node.id := by
  rw [append, Option.map_map]
  rfl

lemma map_id_settled (b : Builder) : b.settled.current.map Node.id = b.current.map Node.id :=
  map_id_append b b.waiting

/-- The ids of the nodes that are finished at the end of the text. -/
lemma map_id_committed (b : Builder) : b.settled.committed.nodes.map Node.id = b.ids := by
  rw [ids, ← map_id_settled]
  show (b.nodes ++ b.settled.current.toList).map Node.id = _
  cases b.settled.current <;> simp

/-- A node directive gives its id to a node that comes behind all others. -/
lemma ids_effect_node (id : Text) : (b.effect o n (.node id)).ids = b.ids ++ [id] := by
  show (b.nodes ++ b.settled.current.toList).map Node.id ++ [id] = _
  rw [ids, ← map_id_settled]
  cases b.settled.current <;> simp

/-- A line other than a node directive leaves the nodes what they are called. -/
lemma ids_effect (h : ∀ id, line ≠ .node id) :
    (b.effect o n line).seen = b.seen ∧ (b.effect o n line).nodes = b.nodes ∧
      (b.effect o n line).current.map Node.id = b.current.map Node.id := by
  have hsettled : b.settled.current.map Node.id = b.current.map Node.id := map_id_settled b
  have happended (ls : List Line) :
      (b.settled.append ls).current.map Node.id = b.current.map Node.id := by
    rw [map_id_append, hsettled]
  cases line with
  | fence =>
    cases hblock : b.block with
    | some k =>
      rw [effect_fence_of_block hblock]
      exact ⟨rfl, rfl, happended [k.toLine]⟩
    | none =>
      rw [effect_fence_of_no_block hblock]
      exact ⟨rfl, rfl, hsettled⟩
  | verbatim raw =>
    rw [effect, takeVerbatim]
    split <;> exact ⟨rfl, rfl, rfl⟩
  | blank => exact ⟨rfl, rfl, hsettled⟩
  | comment => exact ⟨rfl, rfl, hsettled⟩
  | header field value => exact ⟨rfl, rfl, hsettled⟩
  | node id => exact absurd rfl (h id)
  | jump target =>
    refine ⟨rfl, rfl, ?_⟩
    rw [effect, Option.map_map]
    rfl
  | content condition body =>
    cases body with
    | dialogue speaker content =>
      cases hfence : before? fence content with
      | some leading =>
        rw [effect_dialogue_of_fence hfence]
        exact ⟨rfl, rfl, hsettled⟩
      | none =>
        rw [effect_dialogue_of_no_fence hfence]
        exact ⟨rfl, rfl, happended _⟩
    | command content => exact ⟨rfl, rfl, happended _⟩
    | input name prompt => exact ⟨rfl, rfl, happended _⟩
    | prompt content => exact ⟨rfl, rfl, hsettled⟩
    | _ => exact ⟨rfl, rfl, rfl⟩

/-- A waiting choice is that of the line itself, or was waiting before. -/
lemma choice_effect {c : PendingChoice} (h : (b.effect o n line).choice = some c) :
    (c.line = n ∧ ∃ condition, line = .content condition (.prompt c.content)) ∨
      ∃ c', b.choice = some c' ∧ c'.line = c.line ∧ c'.content = c.content := by
  cases line with
  | fence =>
    cases hblock : b.block with
    | some k =>
      rw [effect_fence_of_block hblock] at h
      cases h
    | none =>
      rw [effect_fence_of_no_block hblock] at h
      cases h
  | verbatim raw =>
    rw [effect, takeVerbatim] at h
    split at h <;> exact Or.inr ⟨c, h, rfl, rfl⟩
  | jump target => exact Or.inr ⟨c, h, rfl, rfl⟩
  | content condition body =>
    cases body with
    | dialogue speaker content =>
      cases hfence : before? fence content with
      | some leading =>
        rw [effect_dialogue_of_fence hfence] at h
        cases h
      | none =>
        rw [effect_dialogue_of_no_fence hfence] at h
        cases h
    | prompt content =>
      cases h
      exact Or.inl ⟨rfl, condition, rfl⟩
    | option option =>
      obtain ⟨c', hchoice, rfl⟩ := Option.map_eq_some_iff.1 h
      exact Or.inr ⟨c', hchoice, rfl, rfl⟩
    | malformedOption text => exact Or.inr ⟨c, h, rfl, rfl⟩
    | unknown text => exact Or.inr ⟨c, h, rfl, rfl⟩
    | _ => cases h
  | _ => cases h

/-- A block that is opened is that of the line. -/
lemma opened_effect {k : CodeBlock} (hblock : b.block = none)
    (h : (b.effect o n line).block = some k) :
    k.line = n ∧ ∀ rest, lineAt? o ⟨b.context, line⟩ rest =
      some { k with captured := k.captured ++ capturedOf rest : CodeBlock }.toLine := by
  have hkept {P : Prop} (h : b.block = some k) : P := by
    rw [hblock] at h
    cases h
  cases line with
  | fence =>
    rw [effect_fence_of_no_block hblock] at h
    cases h
    refine ⟨rfl, fun rest => ?_⟩
    rw [lineAt?, context, hblock]
    rfl
  | verbatim raw =>
    rw [effect, takeVerbatim, hblock] at h
    exact hkept h
  | content condition body =>
    cases body with
    | dialogue speaker content =>
      cases hfence : before? fence content with
      | some leading =>
        rw [effect_dialogue_of_fence hfence] at h
        cases h
        exact ⟨rfl, fun rest => by simp [lineAt?, hfence, CodeBlock.toLine]⟩
      | none =>
        rw [effect_dialogue_of_no_fence hfence] at h
        exact hkept h
    | _ => exact hkept h
  | _ => exact hkept h

/-- A block stays open by a captured line only. -/
lemma kept_effect {k k' : CodeBlock} (hfits : line.Fits b.context) (hblock : b.block = some k)
    (h : (b.effect o n line).block = some k') :
    ∃ raw, line = .verbatim raw ∧ k' = { k with captured := k.captured ++ [raw] } := by
  have hopen : b.context.inCodeBlock = true := by
    rw [context, hblock]
    rfl
  have hnot {P : Prop} (hclosed : b.context.inCodeBlock = false) : P := by
    rw [hopen] at hclosed
    cases hclosed
  cases line with
  | fence =>
    rw [effect_fence_of_block hblock] at h
    cases h
  | verbatim raw =>
    rw [effect, takeVerbatim, hblock] at h
    cases h
    exact ⟨raw, rfl, rfl⟩
  | content condition body =>
    cases body with
    | option option => exact hnot hfits.1
    | _ => exact hnot hfits
  | _ => exact hnot hfits

/-- A choice that waits behind the line began at one of the lines so far. -/
lemma Traces.choice_effect (h : b.Traces rs) {c : PendingChoice}
    (hc : (b.effect o (rs.length + 1) line).choice = some c) :
    1 ≤ c.line ∧ c.line ≤ rs.length + 1 := by
  rcases Builder.choice_effect hc with ⟨hline, -⟩ | ⟨c', hc', hline, -⟩
  · omega
  · have hrange := h.choice c' hc'
    omega

/-- A block that is open behind the line was opened by it, or has captured it. -/
lemma Traces.block_effect (h : b.Traces rs) (hfits : line.Fits b.context) {k : CodeBlock}
    (hk : (b.effect o (rs.length + 1) line).block = some k) :
    ∃ before r inside, rs ++ [⟨b.context, line⟩] = before ++ r :: inside ∧
      k.line = before.length + 1 ∧ r.Opens ∧ ∀ i ∈ inside, ∃ raw, i.line = .verbatim raw := by
  let here : Reading := ⟨b.context, line⟩
  cases hopen : b.block with
  | none =>
    refine ⟨rs, here, [], rfl, (opened_effect hopen hk).1, ⟨?_, ?_⟩, by simp⟩
    · show b.block.isSome = false
      rw [hopen]
      rfl
    · show (b.context.after line).inCodeBlock = true
      rw [← context_effect (o := o) (n := rs.length + 1) hfits, context, hk]
      rfl
  | some k' =>
    obtain ⟨raw, hraw, rfl⟩ := kept_effect hfits hopen hk
    obtain ⟨before, r, inside, rfl, hbefore, hopens, hinside⟩ := h.block k' hopen
    refine ⟨before, r, inside ++ [here], by simp [here], hbefore, hopens, ?_⟩
    intro i hi
    rcases List.mem_append.1 hi with hi | hi
    · exact hinside i hi
    · rw [List.mem_singleton.1 hi]
      exact ⟨raw, hraw⟩

/-- A line that is taken in is one more line that the builder has taken in. -/
lemma traces_effect (h : b.Traces rs) (hfits : line.Fits b.context) (hok : line.Acceptable b) :
    (b.effect o (rs.length + 1) line).Traces (rs ++ [⟨b.context, line⟩]) := by
  let here : Reading := ⟨b.context, line⟩
  have hchoice : ∀ c, (b.effect o (rs.length + 1) line).choice = some c →
      1 ≤ c.line ∧ c.line ≤ (rs ++ [here]).length := by
    intro c hc
    rw [List.length_append, List.length_singleton]
    exact h.choice_effect hc
  by_cases hdirective : ∃ id, line = .node id
  · obtain ⟨id, rfl⟩ := hdirective
    -- the directive is acceptable, so that its id is new
    obtain ⟨-, hnew⟩ := hok
    refine ⟨?_, ?_, ?_, fun hnone => (by cases hnone), hchoice, ?_⟩
    · show b.seen ++ [id] = directives (rs ++ [here])
      rw [directives_concat, h.seen]
      rfl
    · show (b.effect o (rs.length + 1) (.node id)).ids = b.seen ++ [id]
      rw [ids_effect_node, h.ids]
    · show (b.seen ++ [id]).Nodup
      rw [← List.concat_eq_append]
      exact List.Nodup.concat hnew h.nodup
    · exact fun k hk => h.block_effect hfits hk
  · have hother : ∀ id, line ≠ .node id := fun id hid => hdirective ⟨id, hid⟩
    obtain ⟨hseen, hnodes, hcurrent⟩ := ids_effect (b := b) (o := o) (n := rs.length + 1) hother
    have hnone : here.nodeId? = none := by
      cases line with
      | node id => exact absurd rfl (hother id)
      | _ => rfl
    refine ⟨?_, ?_, ?_, ?_, hchoice, fun k hk => h.block_effect hfits hk⟩
    · rw [hseen, h.seen, directives_concat, hnone, Option.toList_none, List.append_nil]
    · rw [Builder.ids, hnodes, hcurrent, hseen]
      exact h.ids
    · rw [hseen]
      exact h.nodup
    · intro hoff
      rw [hseen]
      apply h.outside
      rw [hoff] at hcurrent
      exact Option.map_eq_none_iff.1 hcurrent.symm

/-! ## Runs -/

lemma traces_step {raw : Text} (h : b.Traces rs) (hstep : b.step o (rs.length + 1) raw = .ok b') :
    b'.Traces (rs ++ [⟨b.context, classify b.context raw⟩]) := by
  obtain ⟨hok, log, rfl⟩ := handle_ok hstep
  exact (traces_effect h (classify_fits b.context raw) hok).with_log log

lemma traces_run {raws : List Text} (h : b.Traces rs) (hsteady : b.Steady)
    (hadvance : advance o (rs.length + 1) raws b = .ok b') :
    b'.Traces (rs ++ readings b.context raws) := by
  induction raws generalizing rs b with
  | nil =>
    cases hadvance
    rwa [readings, List.append_nil]
  | cons raw rest ih =>
    obtain ⟨b₁, hstep, hrest⟩ := exists_of_bind_ok hadvance
    obtain ⟨hsteady₁, hcontext, -⟩ := step_ok hsteady hstep
    have hone := traces_step h hstep
    have hlength : (rs ++ [⟨b.context, classify b.context raw⟩] : List Reading).length =
        rs.length + 1 := List.length_append
    rw [← hlength] at hrest
    rw [readings, ← hcontext, ← List.singleton_append, ← List.append_assoc]
    exact ih hone hsteady₁ hrest

/-- The builder traces the lines of a pass that has succeeded so far. -/
theorem traces_advance {raws : List Text} (h : advance o 1 raws {} = .ok b) :
    b.Traces (readings {} raws) := traces_run traces_empty (fun _ => rfl) h

end Builder

end DialogueScript.Source
