import DialogueScript.Proofs.ErrorLocation

/-!
# A pass behind other lines

Lines that stand behind a finished part of a text are taken in as they would be alone. What is known
after them (`Builder.behind`) is what the finished part has left, followed by what the lines
themselves give: their numbers are greater by the number of lines in front, their nodes come last,
and their header fields win. Every step of the pass agrees with this, whether it succeeds or is
refused (`Shifts`), as long as no directive names a node of the finished part (`advance_behind`).
-/

namespace DialogueScript

/-- The header with the fields of another one where it has none itself. -/
def Metadata.over (m front : Metadata) : Metadata where
  title := m.title.or front.title
  author := m.author.or front.author
  version := m.version.or front.version
  autoclear := m.autoclear.or front.autoclear

/-- A field has its value in front only where there is none behind. -/
lemma Metadata.get_over (m front : Metadata) (f : Field) :
    (m.over front).get f = (m.get f).or (front.get f) := by
  cases f <;> rfl

/-- A field that is set behind other lines is set as it is alone. -/
lemma Metadata.set_over (m front : Metadata) (f : Field) (value : Text) :
    (m.over front).set f value = (m.set f value).over front := by
  cases f <;> rfl

namespace Source

open Text

/-! ## Shifted line numbers -/

/-- The record of a line that stands `d` lines further down. -/
def LogRecord.shift (d : ℕ) : LogRecord → LogRecord
  | .dropped line => .dropped (line + d)
  | .overridden line condition guard => .overridden (line + d) condition guard
  | r => r

/-- The choice of a line that stands `d` lines further down. -/
def PendingChoice.shift (d : ℕ) (c : PendingChoice) : PendingChoice := { c with line := c.line + d }

/-- The block of a line that stands `d` lines further down. -/
def CodeBlock.shift (d : ℕ) (k : CodeBlock) : CodeBlock := { k with line := k.line + d }

/-- What is known after some lines, if they stand behind the `d` lines of which `a` has been
made. -/
def Builder.behind (a : Builder) (d : ℕ) (b : Builder) : Builder where
  metadata := b.metadata.over a.metadata
  nodes := a.nodes ++ b.nodes
  seen := a.seen ++ b.seen
  current := b.current
  choice := b.choice.map (PendingChoice.shift d)
  block := b.block.map (CodeBlock.shift d)
  log := a.log ++ b.log.map (LogRecord.shift d)

/-- The error of a line that stands `d` lines further down. -/
def Halt.behind (a : Builder) (d : ℕ) (halt : Halt) : Halt where
  error := ⟨halt.error.line.map (· + d), halt.error.defect⟩
  log := a.log ++ halt.log.map (LogRecord.shift d)

/-- What comes of some lines alone (`x`), and what comes of them behind other lines (`y`). -/
inductive Shifts (a : Builder) (d : ℕ) : (x y : Except Halt Builder) → Prop where
  | ok (b : Builder) : Shifts a d (.ok b) (.ok (a.behind d b))
  | error (halt : Halt) : Shifts a d (.error halt) (.error (halt.behind a d))

variable {a b : Builder} {d n : ℕ} {o : ParseOptions}

/-- Steps that agree make runs that agree; an error ends both. -/
lemma Shifts.bind {x y : Except Halt Builder} {f g : Builder → Except Halt Builder}
    (h : Shifts a d x y) (hf : ∀ b, x = .ok b → Shifts a d (f b) (g (a.behind d b))) :
    Shifts a d (x >>= f) (y >>= g) := by
  cases h with
  | ok b => exact hf b rfl
  | error halt => exact .error halt

lemma Shifts.eq_ok {y : Except Halt Builder} (h : Shifts a d (.ok b) y) :
    y = .ok (a.behind d b) := by
  cases h
  rfl

lemma Shifts.eq_error {halt : Halt} {y : Except Halt Builder} (h : Shifts a d (.error halt) y) :
    y = .error (halt.behind a d) := by
  cases h
  rfl

namespace Builder

/-- What stands behind a part of the text that has been finished begins with it alone. -/
lemma behind_empty (hcurrent : a.current = none) (hchoice : a.choice = none)
    (hblock : a.block = none) (d : ℕ) : a.behind d {} = a := by
  obtain ⟨metadata, nodes, seen, current, choice, block, log⟩ := a
  cases hcurrent
  cases hchoice
  cases hblock
  simp [behind, Metadata.over]

lemma current_behind : (a.behind d b).current = b.current := rfl

lemma choice_behind : (a.behind d b).choice = b.choice.map (PendingChoice.shift d) := rfl

lemma block_behind : (a.behind d b).block = b.block.map (CodeBlock.shift d) := rfl

/-- A line is read behind other lines as it is read alone, as what is open belongs to the lines
themselves. -/
lemma context_behind : (a.behind d b).context = b.context := by
  simp [context, behind]

/-! ## One line -/

lemma note_behind (r : LogRecord) : (a.behind d b).note (r.shift d) = a.behind d (b.note r) := by
  simp [note, behind]

/-- A refusal gives the same defect, at the shifted line. -/
lemma refuse_behind (defect : Defect) :
    Shifts a d (b.refuse n defect) ((a.behind d b).refuse (n + d) defect) :=
  .error ⟨⟨some n, defect⟩, b.log⟩

/-- A record that is written behind other lines is the one that is written alone, shifted. -/
lemma shifts_note (r : LogRecord) :
    Shifts a d (.ok (b.note r)) (.ok ((a.behind d b).note (r.shift d))) := by
  rw [note_behind]
  exact .ok _

/-- A line goes to the node that is current in both; outside of a node both drop or refuse it. -/
lemma place_behind (line : Line) :
    Shifts a d (b.place o n line) ((a.behind d b).place o (n + d) line) := by
  unfold place
  rw [current_behind]
  cases b.current with
  | some node => exact .ok _
  | none =>
    cases o.orphanLines with
    | ignore => exact shifts_note (.dropped n)
    | reject => exact refuse_behind _

/-- The waiting choice belongs to the lines themselves, and is closed alike. -/
lemma closeChoice_behind : Shifts a d (b.closeChoice o) ((a.behind d b).closeChoice o) := by
  unfold closeChoice
  rw [choice_behind]
  cases b.choice with
  | some c => exact place_behind (b := { b with choice := none }) c.toLine
  | none => exact .ok b

/-- The node that is committed comes last in both. -/
lemma commit_behind : (a.behind d b).commit = a.behind d b.commit := by
  unfold commit
  rw [current_behind]
  cases b.current with
  | some node => simp [behind, note, LogRecord.shift]
  | none => rfl

/-- Closing the waiting choice leaves the ids that have been seen. -/
lemma seen_of_closeChoice {b' : Builder} (h : b.closeChoice o = .ok b') : b'.seen = b.seen := by
  obtain ⟨log, rfl⟩ := closeChoice_ok h
  rfl

lemma seen_commit (b : Builder) : b.commit.seen = b.seen := by
  obtain ⟨log, heq⟩ := commit_eq b
  rw [heq]
  rfl

/-- An opened block remembers its line, which is shifted. -/
lemma openBlock_behind (speaker condition : Option Text) (captured : List Text) :
    Shifts a d (b.openBlock o n speaker condition captured)
      ((a.behind d b).openBlock o (n + d) speaker condition captured) :=
  closeChoice_behind.bind fun _ _ => .ok _

lemma close_place_behind (line : Line) :
    Shifts a d (do let b ← b.closeChoice o; b.place o n line)
      (do let b ← (a.behind d b).closeChoice o; b.place o (n + d) line) :=
  closeChoice_behind.bind fun _ _ => place_behind line

/-- A fence opens or closes a block behind other lines as it does alone. -/
lemma takeFence_behind : Shifts a d (b.takeFence o n) ((a.behind d b).takeFence o (n + d)) := by
  unfold takeFence
  rw [block_behind]
  cases b.block with
  | some k => exact close_place_behind (b := { b with block := none }) k.toLine
  | none => exact openBlock_behind none none []

lemma takeVerbatim_behind (raw : Text) :
    (a.behind d b).takeVerbatim raw = a.behind d (b.takeVerbatim raw) := by
  unfold takeVerbatim
  rw [block_behind]
  cases b.block <;> rfl

/-- A directive is refused behind other lines as it is alone, unless the lines in front have a node
of that id. -/
lemma takeNode_behind {id : Text} (h : id ∈ a.seen → id = [] ∨ id ∈ b.seen) :
    Shifts a d (b.takeNode o n id) ((a.behind d b).takeNode o (n + d) id) := by
  unfold takeNode
  split
  · exact refuse_behind _
  · rename_i hid
    refine closeChoice_behind.bind fun b' hclose => ?_
    have hseen : b'.commit.seen = b.seen := (seen_commit b').trans (seen_of_closeChoice hclose)
    have hmem : id ∈ (a.behind d b'.commit).seen ↔ id ∈ b'.commit.seen := by
      show id ∈ a.seen ++ b'.commit.seen ↔ _
      rw [List.mem_append, hseen]
      exact ⟨fun hor => hor.elim (fun ha => (h ha).resolve_left hid) fun hb => hb, Or.inr⟩
    show Shifts a d (if id ∈ b'.commit.seen then _ else _)
      (if id ∈ (a.behind d b').commit.seen then _ else _)
    rw [commit_behind]
    by_cases hold : id ∈ b'.commit.seen
    · rw [if_pos hold, if_pos (hmem.2 hold)]
      exact refuse_behind _
    · rw [if_neg hold, if_neg (fun h => hold (hmem.1 h))]
      have hnext : ({ a.behind d b'.commit with
            seen := (a.behind d b'.commit).seen ++ [id], current := some { id } } : Builder) =
          a.behind d { b'.commit with seen := b'.commit.seen ++ [id], current := some { id } } := by
        simp [behind]
      show Shifts a d (.ok _) (.ok _)
      rw [hnext]
      exact .ok _

/-- A jump belongs to the current node, so that the lines in front do not matter. -/
lemma takeJump_behind (target : Text) :
    Shifts a d (b.takeJump n target) ((a.behind d b).takeJump (n + d) target) := by
  unfold takeJump
  rw [current_behind]
  cases b.current with
  | none => exact refuse_behind _
  | some node =>
    by_cases htarget : target = []
    · simp only [if_pos htarget]
      exact refuse_behind _
    · simp only [if_neg htarget]
      exact .ok _

/-- An option joins the choice that waits in both. -/
lemma takeOption_behind (guard : Option Text) (option : ChoiceOption) :
    (a.behind d b).takeOption (n + d) guard option = a.behind d (b.takeOption n guard option) := by
  obtain ⟨text, condition, target⟩ := option
  obtain ⟨metadata, nodes, seen, current, choice, block, log⟩ := b
  -- an option is noted if it has two conditions, and kept if a choice waits for it
  cases choice <;> cases guard <;> cases condition <;>
    simp [takeOption, behind, note, PendingChoice.shift, LogRecord.shift]

lemma takeDialogue_behind (condition speaker : Option Text) (content : Text) :
    Shifts a d (b.takeDialogue o n condition speaker content)
      ((a.behind d b).takeDialogue o (n + d) condition speaker content) := by
  unfold takeDialogue
  split
  · exact openBlock_behind _ _ _
  · exact close_place_behind _

lemma takeContent_behind (condition : Option Text) (body : Body) :
    Shifts a d (b.takeContent o n condition body)
      ((a.behind d b).takeContent o (n + d) condition body) := by
  cases body with
  | dialogue speaker content => exact takeDialogue_behind condition speaker content
  | command content => exact close_place_behind _
  | input name prompt => exact close_place_behind _
  | prompt content => exact closeChoice_behind.bind fun _ _ => .ok _
  | option option =>
    show Shifts a d (.ok _) (.ok ((a.behind d b).takeOption (n + d) condition option))
    rw [takeOption_behind]
    exact .ok _
  | malformedOption text => exact refuse_behind _
  | unknown text => exact refuse_behind _

/-- Every line has behind other lines the effect that it has alone; the ids in front matter to a
node directive only. -/
lemma handle_behind {line : SourceLine}
    (h : ∀ id, line = .node id → id ∈ a.seen → id = [] ∨ id ∈ b.seen) :
    Shifts a d (b.handle o n line) ((a.behind d b).handle o (n + d) line) := by
  cases line with
  | fence => exact takeFence_behind
  | verbatim raw =>
    show Shifts a d (.ok _) (.ok ((a.behind d b).takeVerbatim raw))
    rw [takeVerbatim_behind]
    exact .ok _
  | blank => exact closeChoice_behind
  | comment => exact closeChoice_behind
  | header field value =>
    refine closeChoice_behind.bind fun b' _ => ?_
    show Shifts a d (.ok _) (.ok { a.behind d b' with
      metadata := (b'.metadata.over a.metadata).set field value })
    rw [Metadata.set_over]
    exact .ok _
  | node id => exact takeNode_behind (h id rfl)
  | jump target => exact takeJump_behind target
  | content condition body => exact takeContent_behind condition body

lemma step_behind {raw : Text}
    (h : ∀ id, classify b.context raw = .node id → id ∈ a.seen → id = [] ∨ id ∈ b.seen) :
    Shifts a d (b.step o n raw) ((a.behind d b).step o (n + d) raw) := by
  unfold step
  rw [context_behind]
  exact handle_behind h

/-! ## Runs -/

/-- Lines without a directive for a node in front give behind other lines what they give alone. -/
lemma advance_behind {raws : List Text} (hsteady : b.Steady)
    (h : ∀ id ∈ directives (readings b.context raws), id ∉ a.seen) :
    Shifts a d (advance o n raws b) (advance o (n + d) raws (a.behind d b)) := by
  induction raws generalizing n b with
  | nil => exact .ok b
  | cons raw rest ih =>
    have hhere : ∀ id, classify b.context raw = .node id → id ∉ a.seen := by
      intro id hid
      apply h id
      rw [readings, directives, List.filterMap_cons_some (by rw [Reading.nodeId?, hid])]
      exact List.mem_cons_self
    refine (step_behind fun id hid hmem => absurd hmem (hhere id hid)).bind fun b' hstep => ?_
    obtain ⟨hsteady', hcontext, -⟩ := step_ok hsteady hstep
    rw [Nat.add_right_comm]
    refine ih hsteady' fun id hid => h id ?_
    rw [hcontext] at hid
    rw [readings, ← List.singleton_append, directives, List.filterMap_append]
    exact List.mem_append_right _ hid

/-- The end of the text finds the same open: a block is refused, a choice and a node are put in
place. -/
lemma finish_behind : Shifts a d (b.finish o) ((a.behind d b).finish o) := by
  unfold finish
  rw [block_behind]
  cases b.block with
  | some k => exact refuse_behind _
  | none =>
    refine closeChoice_behind.bind fun b' _ => ?_
    show Shifts a d (.ok b'.commit) (.ok (a.behind d b').commit)
    rw [commit_behind]
    exact .ok _

end Builder

end Source

end DialogueScript
