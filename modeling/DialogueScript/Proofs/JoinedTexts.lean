import DialogueScript.Proofs.Shifting
import DialogueScript.Proofs.WrittenLines

/-!
# Texts that are joined

A text whose first line is a node directive can be put behind any text of whole lines that has been
read: the directive closes all that the front text has left open, as the end of the text would have
done. So the nodes of the joined text are those of both parts, and an error of the second part is
found at its own line, counted behind the lines of the front text (`contents_append`).
-/

namespace DialogueScript.Source

open Text

/-- The header and the nodes that a pass has found, or its error. -/
def Builder.found : Except Halt Builder → Except ScriptError (Metadata × List Node)
  | .ok b => .ok (b.metadata, b.nodes)
  | .error halt => .error halt.error

/-- What a text holds before the script is assembled. -/
def contents (o : ParseOptions) (text : Text) : Except ScriptError (Metadata × List Node) :=
  Builder.found (pass o text)

lemma contents_eq_ok_iff {o : ParseOptions} {text : Text} {m : Metadata} {ns : List Node} :
    contents o text = .ok (m, ns) ↔ ∃ b, pass o text = .ok b ∧ b.metadata = m ∧ b.nodes = ns := by
  unfold contents
  cases pass o text <;> simp [Builder.found]

lemma contents_eq_error_iff {o : ParseOptions} {text : Text} {e : ScriptError} :
    contents o text = .error e ↔ ∃ halt, pass o text = .error halt ∧ halt.error = e := by
  unfold contents
  cases pass o text <;> simp [Builder.found]

/-- Line `k` of the text is the directive of the node `id`. -/
def DirectiveAt (text : Text) (k : ℕ) (id : Text) : Prop :=
  1 ≤ k ∧ ∃ r, (readings {} (sourceLines text))[k - 1]? = some r ∧ r.line = .node id

/-- The first line of the text, as it stands there, is a node directive. A byte order mark in front
of it would be a part of the line behind another text. -/
def StartsWithNode (text : Text) : Prop :=
  ∃ first rest id, lines text = first :: rest ∧ classify {} first = .node id

/-! ## The lines of a joined text -/

lemma readContent_ne_node {pending : Bool} {t id : Text} : readContent pending t ≠ .node id := by
  unfold readContent
  split
  · split <;> exact SourceLine.noConfusion
  · exact SourceLine.noConfusion

lemma readTrimmed_eq_node_iff {pending : Bool} {t id : Text} :
    readTrimmed pending t = .node id ↔ directive? "@node".toList t = some id := by
  constructor
  · intro h
    unfold readTrimmed at h
    split at h
    · cases h
    · cases h
    · split at h <;> cases h
    · split at h
      · rename_i id' hid
        cases h
        exact hid
      · split at h
        · cases h
        · exact absurd h readContent_ne_node
  · intro h
    -- the keyword rules out the cases before the directives
    unfold readTrimmed
    split
    · cases h
    · cases h
    · cases h
    · rw [h]

lemma classify_eq_node_iff {pending : Bool} {raw id : Text} :
    classify ⟨false, pending⟩ raw = .node id ↔
      ¬fence.isPrefixOf (trim raw) = true ∧ directive? "@node".toList (trim raw) = some id := by
  rw [classify, ← @readTrimmed_eq_node_iff pending]
  by_cases hfence : fence.isPrefixOf (trim raw) = true
  · rw [if_pos hfence]
    exact iff_of_false SourceLine.noConfusion fun h => h.1 hfence
  · rw [if_neg hfence, if_neg Bool.false_ne_true]
    exact (and_iff_right hfence).symm

/-- A line with a byte order mark in front is no directive. -/
lemma classify_mark {raw id : Text} : classify {} (byteOrderMark :: raw) ≠ .node id := by
  intro h
  have hmark : trim (byteOrderMark :: raw) = byteOrderMark :: trimEnd raw := by
    rw [trim_cons_of_not_space rfl, trimEnd_cons rfl]
  have hnode := (classify_eq_node_iff.1 h).2
  rw [hmark] at hnode
  cases hnode

lemma sourceLines_of_startsWithNode {text : Text} (h : StartsWithNode text) :
    sourceLines text = lines text := by
  obtain ⟨first, rest, id, hlines, hnode⟩ := h
  rw [sourceLines, hlines]
  cases first with
  | nil => rfl
  | cons c first =>
    have hmark : (c == byteOrderMark) = false := by
      rw [beq_eq_false_iff_ne]
      rintro rfl
      exact classify_mark hnode
    show (c :: first).dropWhile (· == byteOrderMark) :: rest = _
    rw [List.dropWhile_cons, hmark]
    rfl

lemma sourceLines_append {front text : Text} (hend : front = [] ∨ front.getLast? = some '\n')
    (h : StartsWithNode text) :
    sourceLines (front ++ text) = sourceLines front ++ sourceLines text := by
  have hlines := lines_append_of_ended hend text
  have htext := sourceLines_of_startsWithNode h
  cases hfront : lines front with
  | nil =>
    have hempty : sourceLines front = [] := by rw [sourceLines, hfront]
    rw [hfront, List.nil_append] at hlines
    rw [hempty, List.nil_append, sourceLines, hlines]
    rfl
  | cons first rest =>
    rw [hfront] at hlines
    rw [htext, sourceLines, sourceLines, hlines, hfront]
    rfl

namespace Builder

variable {o : ParseOptions} {n d : ℕ} {a b b' : Builder} {id : Text}

/-! ## The directive between the parts -/

lemma commit_of_none (h : b.current = none) : b.commit = b := by
  rw [commit, h]

/-- A directive closes all that is open, as the end of the text does. -/
lemma takeNode_of_finish (hid : id ≠ []) (h : b.finish o = .ok a) :
    b.takeNode o n id = a.takeNode o n id := by
  obtain ⟨hblock, log, ha⟩ := finish_ok h
  have hchoice : a.choice = none := by rw [ha]; rfl
  have hcurrent : a.current = none := by rw [ha]; rfl
  rw [finish, hblock] at h
  obtain ⟨b₁, hclose, hcommit⟩ := exists_of_bind_ok h
  cases hcommit
  rw [takeNode, takeNode, if_neg hid, if_neg hid, hclose, closeChoice_of_none hchoice]
  show (if id ∈ b₁.commit.seen then _ else _) = (if id ∈ b₁.commit.commit.seen then _ else _)
  rw [commit_of_none hcurrent]

/-- A directive for a node of the lines in front is refused. -/
lemma takeNode_behind_of_mem (h : b.takeNode o n id = .ok b') (hmem : id ∈ a.seen) :
    ∃ halt, (a.behind d b).takeNode o (n + d) id = .error halt ∧
      halt.error = ⟨some (n + d), .duplicateNode id⟩ := by
  unfold takeNode at h
  split at h
  · cases h
  · rename_i hid
    obtain ⟨b₁, hclose, -⟩ := exists_of_bind_ok h
    have hbehind : (a.behind d b).closeChoice o = .ok (a.behind d b₁) := by
      have hshifts := closeChoice_behind (a := a) (b := b) (d := d) (o := o)
      rw [hclose] at hshifts
      exact hshifts.eq_ok
    have hseen : id ∈ (a.behind d b₁.commit).seen := List.mem_append_left _ hmem
    refine ⟨⟨_, (a.behind d b₁.commit).log⟩, ?_, rfl⟩
    rw [takeNode, if_neg hid, hbehind]
    show (if id ∈ (a.behind d b₁).commit.seen then _ else _) = _
    rw [commit_behind, if_pos hseen]
    rfl

/-- The first directive of some lines is met by the lines as it is by the end of the text, but for
the log of an error. -/
lemma found_advance_of_finish {first : Text} {rest : List Text}
    (hnode : classify {} first = .node id) (h : b.finish o = .ok a)
    (f : Builder → Except Halt Builder) :
    found (advance o n (first :: rest) b >>= f) = found (advance o n (first :: rest) a >>= f) := by
  obtain ⟨hblock, log, ha⟩ := finish_ok h
  have hdirective {c : Builder} (hc : c.block = none) :
      c.step o n first = c.takeNode o n id := by
    have hcontext : c.context = ⟨false, c.choice.isSome⟩ := by rw [context, hc]; rfl
    rw [step, hcontext, classify_eq_node_iff.2 (classify_eq_node_iff.1 hnode)]
    rfl
  have hclosed : a.block = none := by rw [ha]; exact hblock
  rw [advance, advance, hdirective hblock, hdirective hclosed]
  by_cases hid : id = []
  · rw [takeNode, takeNode, if_pos hid, if_pos hid]
    rfl
  · rw [takeNode_of_finish hid h]

end Builder

/-! ## The pass over a joined text -/

section Joined

open Builder

variable {o : ParseOptions} {front text : Text} {a b : Builder} {halt : Halt}

lemma ids_of_pass (h : pass o text = .ok b) :
    b.seen = directives (readings {} (sourceLines text)) ∧ b.nodes.map Node.id = b.seen := by
  obtain ⟨b₁, hadvance, hfinish⟩ := exists_of_bind_ok h
  obtain ⟨-, log, rfl⟩ := finish_ok hfinish
  have htraces := traces_advance hadvance
  exact ⟨htraces.seen, (map_id_committed b₁).trans htraces.ids⟩

lemma not_mem_seen (hfront : pass o front = .ok a) {ids : List Text}
    (h : ∀ id ∈ ids, id ∉ a.nodes.map Node.id) : ∀ id ∈ ids, id ∉ a.seen := by
  rw [← (ids_of_pass hfront).2]
  exact h

/-- Where no directive names a node of the front text, the lines behind it give what they give
alone. -/
lemma pass_shifts (d : ℕ)
    (hfree : ∀ id ∈ directives (readings {} (sourceLines text)), id ∉ a.seen) :
    Shifts a d (pass o text) (do
      let b ← advance o (1 + d) (sourceLines text) (a.behind d {})
      b.finish o) :=
  (advance_behind (b := {}) (fun _ => rfl) hfree).bind fun _ _ => finish_behind

/-! ## Where the second part stops -/

lemma Reading.line_of_nodeId? {r : Reading} {id : Text} (h : r.nodeId? = some id) :
    r.line = .node id := by
  unfold Reading.nodeId? at h
  split at h
  · rename_i id' hline
    cases h
    exact hline
  · cases h

/-- A text that starts with a node directive has all its content in nodes, so that only a faulty
line stops the pass over its lines. -/
lemma exists_faulty_of_error (hstart : StartsWithNode text)
    (h : advance o 1 (sourceLines text) {} = .error halt) :
    ∃ before raw behind b defect, sourceLines text = before ++ raw :: behind ∧
      advance o 1 before {} = .ok b ∧ b.step o (before.length + 1) raw = .error halt ∧
      halt.error = ⟨some (before.length + 1), defect⟩ ∧
      (classify b.context raw).Faulty b defect := by
  obtain ⟨before, raw, behind, b, hsplit, hbefore, hstep⟩ := exists_of_advance_error h
  rw [Nat.add_comm] at hstep
  have htext := sourceLines_of_startsWithNode hstart
  obtain ⟨first, rest, id, hlines, hnode⟩ := hstart
  rw [htext, hlines] at hsplit
  rw [htext, hlines]
  cases before with
  | nil =>
    -- the directive itself: nothing waits yet, so that only its id can be at fault
    cases hbefore
    obtain ⟨rfl, rfl⟩ := List.cons.inj hsplit
    refine ⟨[], first, rest, {}, .emptyNodeId, rfl, rfl, hstep, ?_⟩
    have hfirst : classify ({} : Builder).context first = .node id := hnode
    rw [step, hfirst] at hstep
    by_cases hid : id = []
    · subst hid
      cases hstep
      rw [hfirst]
      exact ⟨rfl, .emptyNodeId⟩
    · rw [handle, takeNode, if_neg hid] at hstep
      cases hstep
  | cons first' before =>
    obtain ⟨rfl, -⟩ := List.cons.inj hsplit
    have htraces := traces_advance hbefore
    have hinside : b.current ≠ none := by
      intro hnone
      have hseen : id ∈ b.seen := by
        rw [htraces.seen, readings, directives,
          List.filterMap_cons_some (by rw [Reading.nodeId?, hnode])]
        exact List.mem_cons_self
      rw [htraces.outside hnone] at hseen
      cases hseen
    rcases handle_error hstep with ⟨defect, herror, hfaulty⟩ | hstray | ⟨k, -, hstray⟩
    · exact ⟨first :: before, raw, behind, b, defect, hsplit, hbefore, hstep, herror, hfaulty⟩
    · exact absurd hstray.2.1 hinside
    · exact absurd hstray.2.1 hinside

/-- A reading among those of some lines that have been taken in is that of one of the lines. -/
lemma exists_line_of_reading {n : ℕ} {raws : List Text} {b b' : Builder} {rs back : List Reading}
    {r : Reading} (hsteady : b.Steady) (h : advance o n raws b = .ok b')
    (hreadings : readings b.context raws = rs ++ r :: back) :
    ∃ before raw behind b₁ b₂, raws = before ++ raw :: behind ∧
      readings b.context before = rs ∧ advance o n before b = .ok b₁ ∧
      b₁.step o (n + before.length) raw = .ok b₂ ∧ r = ⟨b₁.context, classify b₁.context raw⟩ := by
  induction rs generalizing n raws b with
  | nil =>
    cases raws with
    | nil => cases hreadings
    | cons raw rest =>
      obtain ⟨b₂, hstep, -⟩ := exists_of_bind_ok h
      exact ⟨[], raw, rest, b, b₂, rfl, rfl, rfl, hstep, (List.cons.inj hreadings).1.symm⟩
  | cons r' rs ih =>
    cases raws with
    | nil => cases hreadings
    | cons raw' rest =>
      obtain ⟨b₃, hstep', hrest⟩ := exists_of_bind_ok h
      obtain ⟨hsteady', hcontext, -⟩ := step_ok hsteady hstep'
      obtain ⟨hfirst, hothers⟩ := List.cons.inj hreadings
      rw [← hcontext] at hothers
      obtain ⟨before, raw, behind, b₁, b₂, rfl, hbefore, hadvance, hstep, hr⟩ :=
        ih hsteady' hrest hothers
      refine ⟨raw' :: before, raw, behind, b₁, b₂, rfl, ?_, ?_, ?_, hr⟩
      · rw [readings, hfirst, ← hcontext, hbefore]
      · rw [advance, hstep']
        exact hadvance
      · rwa [List.length_cons, Nat.add_comm before.length, ← Nat.add_assoc]

/-- A node of a text that can be read has its directive, before which stand those of the earlier
nodes. -/
lemma exists_directive (h : pass o text = .ok b) {earlier later : List Text} {id : Text}
    (hids : directives (readings {} (sourceLines text)) = earlier ++ id :: later) :
    ∃ before raw behind b₁ b₂, sourceLines text = before ++ raw :: behind ∧
      directives (readings {} before) = earlier ∧ advance o 1 before {} = .ok b₁ ∧
      classify b₁.context raw = .node id ∧ b₁.step o (before.length + 1) raw = .ok b₂ ∧
      DirectiveAt text (before.length + 1) id := by
  obtain ⟨front, back, hreadings, hfront, hback⟩ := List.filterMap_eq_append_iff.1 hids
  obtain ⟨others, r, back, rfl, hothers, hr, -⟩ := List.filterMap_eq_cons_iff.1 hback
  rw [← List.append_assoc] at hreadings
  obtain ⟨b₀, hadvance, -⟩ := exists_of_bind_ok h
  obtain ⟨before, raw, behind, b₁, b₂, hsplit, hrs, hbefore, hstep, rfl⟩ :=
    exists_line_of_reading (b := {}) (fun _ => rfl) hadvance hreadings
  have hnode : classify b₁.context raw = .node id := Reading.line_of_nodeId? hr
  rw [Nat.add_comm] at hstep
  refine ⟨before, raw, behind, b₁, b₂, hsplit, ?_, hbefore, hnode, hstep, Nat.le_add_left 1 _,
    ⟨b₁.context, classify b₁.context raw⟩, ?_, hnode⟩
  · have hearlier : readings {} before = front ++ others := hrs
    rw [hearlier, directives, List.filterMap_append, List.filterMap_eq_nil_iff.2 hothers,
      List.append_nil]
    exact hfront
  · have hlength : (front ++ others).length = before.length := by
      rw [← hrs, length_readings]
    rw [hreadings, Nat.add_sub_cancel, ← hlength, List.getElem?_append_right (Nat.le_refl _),
      Nat.sub_self]
    rfl

/-- The lines of a block that is still open hold no directive, nor does the line that opens it. -/
lemma directivesBefore_of_open {k : CodeBlock} (h : advance o 1 (sourceLines text) {} = .ok b)
    (hblock : b.block = some k) :
    directives (readings {} (sourceLines text)) = directivesBefore text k.line := by
  obtain ⟨before, r, inside, hreadings, hline, hopens, hinside⟩ := (traces_advance h).block k hblock
  have hopening : r.nodeId? = none := by
    rw [Option.eq_none_iff_forall_ne_some]
    intro id hid
    have hafter := hopens.2
    rw [Reading.line_of_nodeId? hid] at hafter
    exact absurd (hopens.1.symm.trans hafter) Bool.false_ne_true
  have hnone : inside.filterMap Reading.nodeId? = [] := by
    rw [List.filterMap_eq_nil_iff]
    intro i hi
    obtain ⟨raw, hraw⟩ := hinside i hi
    rw [Reading.nodeId?, hraw]
  rw [directivesBefore, readings_take, hreadings, hline, Nat.add_sub_cancel, List.take_left,
    directives, List.filterMap_append, List.filterMap_cons_none hopening, hnone, List.append_nil]
  rfl

section Behind

/-! ## A text behind a front text of whole lines -/

variable (hend : front = [] ∨ front.getLast? = some '\n') (hstart : StartsWithNode text)
  (hfront : pass o front = .ok a)

include hend hstart hfront

/-- The front text leaves its finished part to the lines behind it. -/
lemma contents_append_eq :
    contents o (front ++ text) =
      found (do
        let b ← advance o (1 + (lines front).length) (sourceLines text)
          (a.behind (lines front).length {})
        b.finish o) := by
  obtain ⟨b, hadvance, hfinish⟩ := exists_of_bind_ok hfront
  obtain ⟨hblock, log, ha⟩ := finish_ok hfinish
  have hempty : a.behind (lines front).length {} = a := by
    apply behind_empty
    · rw [ha]; rfl
    · rw [ha]; rfl
    · rw [ha]; exact hblock
  obtain ⟨first, rest, id, hlines, hnode⟩ := hstart
  have htext : sourceLines text = first :: rest := by
    rw [sourceLines_of_startsWithNode ⟨first, rest, id, hlines, hnode⟩, hlines]
  rw [contents, pass, sourceLines_append hend ⟨first, rest, id, hlines, hnode⟩, advance_append,
    hadvance, length_sourceLines, hempty, htext]
  exact found_advance_of_finish hnode hfinish _

/-- A line that is refused behind the front text ends the pass. -/
lemma contents_append_of_refused {before behind : List Text} {raw : Text}
    (hsplit : sourceLines text = before ++ raw :: behind)
    (hbefore : advance o 1 before {} = .ok b)
    (hfree : ∀ id ∈ directives (readings {} before), id ∉ a.seen)
    (hstep : (a.behind (lines front).length b).step o
      (before.length + 1 + (lines front).length) raw = .error halt) :
    contents o (front ++ text) = .error halt.error := by
  have hshifts : Shifts a (lines front).length (advance o 1 before {}) _ :=
    advance_behind (fun _ => rfl) hfree
  rw [hbefore] at hshifts
  rw [contents_append_eq hend hstart hfront, hsplit, advance_append, hshifts.eq_ok,
    Nat.add_right_comm, Nat.add_comm 1]
  show found (((a.behind _ b).step o _ raw >>= _) >>= _) = _
  rw [hstep]
  rfl

lemma contents_append_of_apart (htext : pass o text = .ok b)
    (hapart : ∀ id ∈ b.nodes.map Node.id, id ∉ a.nodes.map Node.id) :
    contents o (front ++ text) = .ok (b.metadata.over a.metadata, a.nodes ++ b.nodes) := by
  obtain ⟨hseen, hids⟩ := ids_of_pass htext
  rw [hids, hseen] at hapart
  have hshifts := pass_shifts (o := o) (lines front).length (not_mem_seen hfront hapart)
  rw [htext] at hshifts
  rw [contents_append_eq hend hstart hfront, hshifts.eq_ok]
  rfl

lemma contents_append_of_clash (htext : pass o text = .ok b) {id : Text}
    (hclash : (b.nodes.map Node.id).find? (· ∈ a.nodes.map Node.id) = some id) :
    ∃ k, DirectiveAt text k id ∧ contents o (front ++ text) =
      .error ⟨some (k + (lines front).length), .duplicateNode id⟩ := by
  obtain ⟨hseen, hids⟩ := ids_of_pass htext
  obtain ⟨hmem, earlier, later, hsplit, hearlier⟩ := List.find?_eq_some_iff_append.1 hclash
  rw [hids, hseen] at hsplit
  obtain ⟨before, raw, behind, b₁, b₂, hlines, hbefore, hadvance, hnode, hstep, hat⟩ :=
    exists_directive htext hsplit
  have hfree : ∀ id ∈ directives (readings {} before), id ∉ a.seen := by
    rw [hbefore]
    exact not_mem_seen hfront fun id hid => by simpa using hearlier id hid
  have htaken : b₁.takeNode o (before.length + 1) id = .ok b₂ := by
    rw [step, hnode] at hstep
    exact hstep
  have hknown : id ∈ a.seen := by
    rw [← (ids_of_pass hfront).2]
    simpa using hmem
  obtain ⟨halt, hrefused, herror⟩ :=
    takeNode_behind_of_mem (d := (lines front).length) htaken hknown
  refine ⟨before.length + 1, hat, ?_⟩
  rw [← herror]
  refine contents_append_of_refused hend hstart hfront hlines hadvance hfree ?_
  rw [step, context_behind, hnode]
  exact hrefused

lemma contents_append_of_error (htext : pass o text = .error halt) :
    ∃ k, halt.error.line = some k ∧
      ((∀ id ∈ directivesBefore text k, id ∉ a.nodes.map Node.id) →
        contents o (front ++ text) =
          .error ⟨some (k + (lines front).length), halt.error.defect⟩) := by
  rcases error_of_bind htext with hadvance | ⟨b, hadvance, hfinish⟩
  · obtain ⟨before, raw, behind, b, defect, hsplit, hbefore, hstep, herror, hfaulty⟩ :=
      exists_faulty_of_error hstart hadvance
    refine ⟨before.length + 1, by rw [herror], fun hfree => ?_⟩
    have hdirectives : directivesBefore text (before.length + 1) =
        directives (readings {} before) := by
      rw [directivesBefore, hsplit, Nat.add_sub_cancel, List.take_left]
    -- a directive that is at fault alone is at fault behind other lines for the same reason
    have hsame : ∀ id, classify b.context raw = .node id → id ∈ a.seen → id = [] ∨ id ∈ b.seen := by
      intro id hid _
      rw [hid] at hfaulty
      cases hfaulty with
      | emptyNodeId => exact Or.inl rfl
      | duplicateNode hseen => exact Or.inr hseen
    have hshifts := step_behind (o := o) (n := before.length + 1) (d := (lines front).length) hsame
    rw [hstep] at hshifts
    rw [hdirectives] at hfree
    rw [contents_append_of_refused hend hstart hfront hsplit hbefore (not_mem_seen hfront hfree)
      hshifts.eq_error, Halt.behind, herror]
    rfl
  · -- the whole text has been taken in, behind the front text as alone
    have hpass {k : ℕ} (hline : halt.error.line = some k)
        (hfree : ∀ id ∈ directives (readings {} (sourceLines text)), id ∉ a.nodes.map Node.id) :
        contents o (front ++ text) =
          .error ⟨some (k + (lines front).length), halt.error.defect⟩ := by
      have hshifts := pass_shifts (o := o) (lines front).length (not_mem_seen hfront hfree)
      rw [htext] at hshifts
      rw [contents_append_eq hend hstart hfront, hshifts.eq_error, found, Halt.behind, hline]
      rfl
    rcases finish_error hfinish with
      ⟨k, hblock, herror⟩ | ⟨c, -, -, hcurrent, l, content, herror, -⟩
    · refine ⟨k.line, by rw [herror], fun hfree => hpass (by rw [herror]) ?_⟩
      rw [directivesBefore_of_open hadvance hblock]
      exact hfree
    · refine ⟨l, by rw [herror], fun _ => hpass (by rw [herror]) fun id hid => ?_⟩
      have htraces := traces_advance hadvance
      rw [← htraces.seen, htraces.outside hcurrent] at hid
      cases hid

end Behind

end Joined

/-- A text of whole lines, and a text that starts with a node directive behind it: the nodes of
both, with the header fields of the second text before those of the first; or the first node of the
second text that the first one has too; or the error of the second text, unless such a node comes
before. -/
theorem contents_append {o : ParseOptions} {front text : Text} {m : Metadata} {ns : List Node}
    (hend : front = [] ∨ front.getLast? = some '\n') (hfront : contents o front = .ok (m, ns))
    (hstart : StartsWithNode text) :
    (∀ m' ns', contents o text = .ok (m', ns') →
      ((∀ id ∈ ns'.map Node.id, id ∉ ns.map Node.id) →
        ∃ joined, contents o (front ++ text) = .ok (joined, ns ++ ns') ∧
          ∀ f, joined.get f = (m'.get f).or (m.get f)) ∧
      ∀ id, (ns'.map Node.id).find? (· ∈ ns.map Node.id) = some id →
        ∃ k, DirectiveAt text k id ∧ contents o (front ++ text) =
          .error ⟨some (k + (lines front).length), .duplicateNode id⟩) ∧
    ∀ e, contents o text = .error e → ∃ k, e.line = some k ∧
      ((∀ id ∈ directivesBefore text k, id ∉ ns.map Node.id) →
        contents o (front ++ text) = .error ⟨some (k + (lines front).length), e.defect⟩) := by
  obtain ⟨a, ha, rfl, rfl⟩ := contents_eq_ok_iff.1 hfront
  refine ⟨fun m' ns' htext => ?_, fun e htext => ?_⟩
  · obtain ⟨b, hb, rfl, rfl⟩ := contents_eq_ok_iff.1 htext
    refine ⟨fun hapart => ?_, fun id => contents_append_of_clash hend hstart ha hb⟩
    exact ⟨_, contents_append_of_apart hend hstart ha hb hapart,
      Metadata.get_over b.metadata a.metadata⟩
  · obtain ⟨halt, hb, rfl⟩ := contents_eq_error_iff.1 htext
    exact contents_append_of_error hend hstart ha hb

/-- The directive behind a waiting choice closes it. Behind these four lines stand a text that can
be read, one that has the node `start` again, and one with a block that stays open. -/
theorem contents_append_of_waiting_choice :
    ∃ front m ns, front = "# title: T\n@node start\n? q\n- a\n".toList ∧
      contents {} front = .ok (m, ns) ∧
      (∃ joined, contents {} (front ++ "@node x\n# author: U".toList) =
          .ok (joined, ns ++ [⟨['x'], [], none⟩]) ∧
        joined.title = some ['T'] ∧ joined.author = some ['U']) ∧
      (∃ k, DirectiveAt "@node x\n@node start".toList k "start".toList ∧
        contents {} (front ++ "@node x\n@node start".toList) =
          .error ⟨some (k + 4), .duplicateNode "start".toList⟩) ∧
      contents {} (front ++ "@node x\n> A: \x60\x60\x60".toList) =
        .error ⟨some (2 + 4), .unterminatedCodeBlock⟩ := by
  let ns : List Node := [⟨"start".toList, [.choice ['q'] [⟨['a'], none, none⟩] none], none⟩]
  have hfront : contents {} "# title: T\n@node start\n? q\n- a\n".toList =
      .ok ({ title := some ['T'] }, ns) := rfl
  have hjoin (text : Text) (hstart : StartsWithNode text) :=
    contents_append (Or.inr rfl) hfront hstart
  refine ⟨_, _, ns, rfl, hfront, ?_, ?_, ?_⟩
  · obtain ⟨happend, -⟩ := (hjoin "@node x\n# author: U".toList ⟨_, _, _, rfl, rfl⟩).1
      { author := some ['U'] } [⟨['x'], [], none⟩] rfl
    obtain ⟨joined, hjoined, hget⟩ := happend (by decide)
    exact ⟨joined, hjoined, hget .title, hget .author⟩
  · obtain ⟨-, hclash⟩ := (hjoin "@node x\n@node start".toList ⟨_, _, _, rfl, rfl⟩).1
      {} [⟨['x'], [], none⟩, ⟨"start".toList, [], none⟩] rfl
    exact hclash "start".toList (by decide)
  · obtain ⟨k, hk, hlocated⟩ := (hjoin "@node x\n> A: \x60\x60\x60".toList ⟨_, _, _, rfl, rfl⟩).2
      ⟨some 2, .unterminatedCodeBlock⟩ rfl
    cases hk
    exact hlocated (by decide)

end DialogueScript.Source
