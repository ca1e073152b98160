import DialogueScript.Source.Parse
import Mathlib.Tactic.Common

/-!
# What a line does to the builder

`Builder.handle` can refuse a line, and it writes a log. Both are set apart here:
`SourceLine.Acceptable` says which lines a builder takes, and `Builder.effect` what a line does
that is taken, whatever is logged. A pass that succeeds follows the effects (`handle_ok`); where
content outside of a node is ignored, every acceptable line is taken (`handle_of_acceptable`).

The log never decides anything, so that two builders which differ in it alone are written as one
with the log replaced.
-/

namespace DialogueScript

/-- The node with more lines at its end. -/
def Node.extend (n : Node) (ls : List Line) : Node := { n with lines := n.lines ++ ls }

@[simp] lemma Node.extend_nil (n : Node) : n.extend [] = n := by
  rw [Node.extend, List.append_nil]

@[simp] lemma Node.extend_extend (n : Node) (ls ms : List Line) :
    (n.extend ls).extend ms = n.extend (ls ++ ms) := by
  simp [Node.extend]

namespace Source

open Text

namespace Builder

variable {o : ParseOptions} {n : ℕ} {b b' : Builder}

/-- The builder with lines at the end of its current node, if it has one. -/
def append (b : Builder) (ls : List Line) : Builder :=
  { b with current := b.current.map (·.extend ls) }

lemma append_nil (b : Builder) : b.append [] = b := by
  have hsame : (b.current.map fun m => m.extend []) = b.current := by
    cases b.current <;> simp
  rw [append, hsame]

/-- The waiting choice as lines of its node. -/
def waiting (b : Builder) : List Line := (b.choice.map PendingChoice.toLine).toList

/-- The builder with its waiting choice in place. -/
def settled (b : Builder) : Builder := { b.append b.waiting with choice := none }

/-- The builder with its current node among the finished ones. -/
def committed (b : Builder) : Builder :=
  { b with nodes := b.nodes ++ b.current.toList, current := none }

/-- What a line does that is taken, but for the log. -/
def effect (o : ParseOptions) (n : ℕ) (line : SourceLine) (b : Builder) : Builder :=
  match line with
  | .fence =>
    match b.block with
    | some k => { b.settled.append [k.toLine] with block := none }
    | none => { b.settled with block := some ⟨n, none, none, []⟩ }
  | .verbatim raw => b.takeVerbatim raw
  | .blank => b.settled
  | .comment => b.settled
  | .header field value => { b.settled with metadata := b.metadata.set field value }
  | .node id => { b.settled.committed with seen := b.seen ++ [id], current := some { id } }
  | .jump target => { b with current := b.current.map fun m => { m with jump := some target } }
  | .content condition (.dialogue speaker content) =>
    match before? fence content with
    | some leading =>
      { b.settled with
        block := some ⟨n, speaker, condition, if trim leading = [] then [] else [trim leading]⟩ }
    | none => b.settled.append [.dialogue speaker content condition]
  | .content condition (.command content) => b.settled.append [.command content condition]
  | .content condition (.input name prompt) =>
    b.settled.append [.input name (if prompt = [] then fillPrompt name o.inputPrompt else prompt)
      condition]
  | .content condition (.prompt content) =>
    { b.settled with choice := some ⟨n, content, condition, []⟩ }
  | .content guard (.option option) =>
    let option := { option with condition := option.condition.or guard }
    { b with choice := b.choice.map fun c => { c with options := c.options ++ [option] } }
  | .content _ (.malformedOption _) => b
  | .content _ (.unknown _) => b

lemma effect_fence_of_block {k : CodeBlock} (h : b.block = some k) :
    b.effect o n .fence = { b.settled.append [k.toLine] with block := none } := by
  simp only [effect, h]

lemma effect_fence_of_no_block (h : b.block = none) :
    b.effect o n .fence = { b.settled with block := some ⟨n, none, none, []⟩ } := by
  simp only [effect, h]

lemma effect_dialogue_of_fence {condition speaker : Option Text} {content leading : Text}
    (h : before? fence content = some leading) :
    b.effect o n (.content condition (.dialogue speaker content)) =
      { b.settled with
        block := some ⟨n, speaker, condition,
          if trim leading = [] then [] else [trim leading]⟩ } := by
  simp only [effect, h]

lemma effect_dialogue_of_no_fence {condition speaker : Option Text} {content : Text}
    (h : before? fence content = none) :
    b.effect o n (.content condition (.dialogue speaker content)) =
      b.settled.append [.dialogue speaker content condition] := by
  simp only [effect, h]

end Builder

/-- The builder has no reason to refuse the line, other than that it stands outside of a node. -/
def SourceLine.Acceptable (b : Builder) : SourceLine → Prop
  | .node id => id ≠ [] ∧ id ∉ b.seen
  | .jump target => b.current ≠ none ∧ target ≠ []
  | .content _ (.malformedOption _) => False
  | .content _ (.unknown _) => False
  | _ => True

namespace Builder

variable {o : ParseOptions} {n : ℕ} {line : Line} {b b' : Builder}

/-! ## Placing a line -/

/-- A line that is placed comes last in the current node. Outside of a node it is dropped, and
noted. -/
lemma place_ok (h : b.place o n line = .ok b') :
    ∃ log, b' = { b.append [line] with log := log } := by
  unfold place at h
  split at h
  · rename_i node hcurrent
    cases h
    exact ⟨b.log, by simp [append, hcurrent, Node.extend]⟩
  · rename_i hcurrent
    split at h
    · cases h
      exact ⟨b.log ++ [.dropped n], by simp [append, hcurrent, note]⟩
    · cases h

/-- Where content outside of a node is ignored, every line is placed. -/
lemma place_of_ignore (n : ℕ) (line : Line) (ho : o.orphanLines = .ignore) :
    ∃ log, b.place o n line = .ok { b.append [line] with log := log } := by
  unfold place
  split
  · rename_i node hcurrent
    exact ⟨b.log, by simp [append, hcurrent, Node.extend]⟩
  · rename_i hcurrent
    rw [ho]
    exact ⟨b.log ++ [.dropped n], by simp [append, hcurrent, note]⟩

/-- Committing puts the current node behind the finished ones. -/
lemma commit_eq (b : Builder) : ∃ log, b.commit = { b.committed with log := log } := by
  unfold commit committed
  split
  · rename_i node hcurrent
    exact ⟨_, by rw [hcurrent]; rfl⟩
  · rename_i hcurrent
    exact ⟨b.log, by cases b; cases hcurrent; simp⟩

/-- Taking an option has the effect of an option line. A guard that is overridden is noted. -/
lemma takeOption_eq (b : Builder) (guard : Option Text) (option : ChoiceOption) :
    ∃ log, b.takeOption n guard option =
      { b.effect o n (.content guard (.option option)) with log := log } := by
  obtain ⟨metadata, nodes, seen, current, choice, block, log⟩ := b
  unfold takeOption
  split
  · cases choice <;> exact ⟨_, rfl⟩
  · cases choice <;> exact ⟨_, rfl⟩

lemma settled_of_choice_none (h : b.choice = none) : b.settled = b := by
  cases b
  cases h
  simp [settled, append, waiting]

lemma closeChoice_of_none (h : b.choice = none) : b.closeChoice o = .ok b := by
  rw [closeChoice, h]

/-- A waiting choice that is closed becomes a line of its node. -/
lemma closeChoice_ok (h : b.closeChoice o = .ok b') :
    ∃ log, b' = { b.settled with log := log } := by
  unfold closeChoice at h
  split at h
  · rename_i c hchoice
    obtain ⟨log, rfl⟩ := place_ok h
    exact ⟨log, by simp [settled, append, waiting, hchoice]⟩
  · rename_i hchoice
    cases h
    exact ⟨b.log, by rw [settled_of_choice_none hchoice]⟩

/-- Where content outside of a node is ignored, a waiting choice can be closed. -/
lemma closeChoice_of_ignore (ho : o.orphanLines = .ignore) :
    ∃ log, b.closeChoice o = .ok { b.settled with log := log } := by
  unfold closeChoice
  split
  · rename_i c hchoice
    obtain ⟨log, hplace⟩ := place_of_ignore c.line c.toLine
      (b := { b with choice := none }) ho
    exact ⟨log, by rw [hplace]; simp [settled, append, waiting, hchoice]⟩
  · rename_i hchoice
    exact ⟨b.log, by rw [settled_of_choice_none hchoice]⟩

/-! ## Handling a line -/

/-- Two steps that succeed are a first one that does and a second one that does from there. -/
lemma exists_of_bind_ok {α β ε : Type} {x : Except ε α} {f : α → Except ε β} {r : β}
    (h : (x >>= f) = .ok r) : ∃ a, x = .ok a ∧ f a = .ok r := by
  cases x with
  | error e => cases h
  | ok a => exact ⟨a, rfl, h⟩

/-- Placing a line behind the waiting choice. -/
lemma close_place_ok {m : ℕ} (h : (do let b ← b.closeChoice o; b.place o m line) = .ok b') :
    ∃ log, b' = { b.settled.append [line] with log := log } := by
  obtain ⟨b₁, hclose, hplace⟩ := exists_of_bind_ok h
  obtain ⟨log, rfl⟩ := closeChoice_ok hclose
  obtain ⟨log', rfl⟩ := place_ok hplace
  exact ⟨log', rfl⟩

lemma close_place_of_ignore (m : ℕ) (line : Line) (ho : o.orphanLines = .ignore) :
    ∃ log, (do let b ← b.closeChoice o; b.place o m line) =
      .ok { b.settled.append [line] with log := log } := by
  obtain ⟨log, hclose⟩ := closeChoice_of_ignore (b := b) ho
  obtain ⟨log', hplace⟩ := place_of_ignore m line
    (b := { b.settled with log := log }) ho
  exact ⟨log', by rw [hclose]; exact hplace⟩

/-- A line that is handled was acceptable, and has its effect. -/
lemma handle_ok {line : SourceLine} (h : b.handle o n line = .ok b') :
    line.Acceptable b ∧ ∃ log, b' = { b.effect o n line with log := log } := by
  cases line with
  | fence =>
    refine ⟨trivial, ?_⟩
    simp only [handle, takeFence] at h
    split at h
    · rename_i k hblock
      obtain ⟨log, rfl⟩ := close_place_ok h
      exact ⟨log, by rw [effect_fence_of_block hblock]; rfl⟩
    · rename_i hblock
      obtain ⟨b₁, hclose, hopen⟩ := exists_of_bind_ok h
      obtain ⟨log, rfl⟩ := closeChoice_ok hclose
      cases hopen
      exact ⟨log, by rw [effect_fence_of_no_block hblock]⟩
  | verbatim raw =>
    cases h
    exact ⟨trivial, _, rfl⟩
  | blank =>
    obtain ⟨log, rfl⟩ := closeChoice_ok h
    exact ⟨trivial, log, rfl⟩
  | comment =>
    obtain ⟨log, rfl⟩ := closeChoice_ok h
    exact ⟨trivial, log, rfl⟩
  | header field value =>
    obtain ⟨b₁, hclose, hset⟩ := exists_of_bind_ok h
    obtain ⟨log, rfl⟩ := closeChoice_ok hclose
    cases hset
    exact ⟨trivial, log, rfl⟩
  | node id =>
    simp only [handle, takeNode] at h
    split at h
    · cases h
    · rename_i hid
      obtain ⟨b₁, hclose, hnode⟩ := exists_of_bind_ok h
      obtain ⟨log, rfl⟩ := closeChoice_ok hclose
      -- committing changes the log only
      obtain ⟨log', hcommit⟩ := commit_eq { b.settled with log := log }
      dsimp only at hnode
      rw [hcommit] at hnode
      split at hnode
      · cases hnode
      · rename_i hnew
        cases hnode
        exact ⟨⟨hid, hnew⟩, log', rfl⟩
  | jump target =>
    simp only [handle, takeJump] at h
    split at h
    · cases h
    · rename_i node hcurrent
      split at h
      · cases h
      · rename_i htarget
        cases h
        refine ⟨⟨by simp [hcurrent], htarget⟩, b.log, ?_⟩
        simp [effect, hcurrent]
  | content condition body =>
    cases body with
    | dialogue speaker content =>
      refine ⟨trivial, ?_⟩
      simp only [handle, takeContent, takeDialogue] at h
      split at h
      · rename_i leading hfence
        obtain ⟨b₁, hclose, hopen⟩ := exists_of_bind_ok h
        obtain ⟨log, rfl⟩ := closeChoice_ok hclose
        cases hopen
        exact ⟨log, by rw [effect_dialogue_of_fence hfence]⟩
      · rename_i hfence
        obtain ⟨log, rfl⟩ := close_place_ok h
        exact ⟨log, by rw [effect_dialogue_of_no_fence hfence]⟩
    | command content =>
      obtain ⟨log, rfl⟩ := close_place_ok h
      exact ⟨trivial, log, rfl⟩
    | input name prompt =>
      obtain ⟨log, rfl⟩ := close_place_ok h
      exact ⟨trivial, log, rfl⟩
    | prompt content =>
      obtain ⟨b₁, hclose, hprompt⟩ := exists_of_bind_ok h
      obtain ⟨log, rfl⟩ := closeChoice_ok hclose
      cases hprompt
      exact ⟨trivial, log, rfl⟩
    | option option =>
      obtain ⟨log, heq⟩ := takeOption_eq (o := o) (n := n) b condition option
      cases h
      exact ⟨trivial, log, heq⟩
    | malformedOption text => cases h
    | unknown text => cases h

/-- Where content outside of a node is ignored, an acceptable line is handled. -/
lemma handle_of_acceptable {line : SourceLine} (ho : o.orphanLines = .ignore)
    (h : line.Acceptable b) :
    ∃ log, b.handle o n line = .ok { b.effect o n line with log := log } := by
  obtain ⟨log, hclose⟩ := closeChoice_of_ignore (b := b) ho
  cases line with
  | fence =>
    simp only [handle, takeFence]
    split
    · rename_i k hblock
      obtain ⟨log', hplace⟩ := close_place_of_ignore k.line k.toLine
        (b := { b with block := none }) ho
      exact ⟨log', by rw [hplace, effect_fence_of_block hblock]; rfl⟩
    · rename_i hblock
      exact ⟨log, by rw [openBlock, hclose, effect_fence_of_no_block hblock]; rfl⟩
  | verbatim raw => exact ⟨_, rfl⟩
  | blank => exact ⟨log, hclose⟩
  | comment => exact ⟨log, hclose⟩
  | header field value => exact ⟨log, by rw [handle, hclose]; rfl⟩
  | node id =>
    rcases h with ⟨hid, hnew⟩
    obtain ⟨log', hcommit⟩ := commit_eq { b.settled with log := log }
    refine ⟨log', ?_⟩
    rw [handle, takeNode, if_neg hid, hclose]
    show (if id ∈ Builder.seen (commit _) then _ else _) = _
    rw [hcommit]
    exact if_neg hnew
  | jump target =>
    rcases h with ⟨hcurrent, htarget⟩
    obtain ⟨node, hnode⟩ := Option.ne_none_iff_exists'.1 hcurrent
    refine ⟨b.log, ?_⟩
    simp only [handle, takeJump, hnode, if_neg htarget, effect, Option.map_some]
  | content condition body =>
    cases body with
    | dialogue speaker content =>
      simp only [handle, takeContent, takeDialogue]
      split
      · rename_i leading hfence
        exact ⟨log, by rw [openBlock, hclose, effect_dialogue_of_fence hfence]; rfl⟩
      · rename_i hfence
        obtain ⟨log', hplace⟩ := close_place_of_ignore n
          (.dialogue speaker content condition) (b := b) ho
        exact ⟨log', by rw [hplace, effect_dialogue_of_no_fence hfence]⟩
    | command content => exact close_place_of_ignore _ _ ho
    | input name prompt => exact close_place_of_ignore _ _ ho
    | prompt content => exact ⟨log, by rw [handle, takeContent, hclose]; rfl⟩
    | option option =>
      obtain ⟨log, heq⟩ := takeOption_eq (o := o) (n := n) b condition option
      exact ⟨log, congrArg Except.ok heq⟩
    | malformedOption text => exact h.elim
    | unknown text => exact h.elim

/-! ## Runs -/

/-- Lines behind others are taken in by what these leave, and counted on from there. -/
lemma advance_append (o : ParseOptions) (n : ℕ) (xs ys : List Text) (b : Builder) :
    advance o n (xs ++ ys) b =
      (do let b ← advance o n xs b; advance o (n + xs.length) ys b) := by
  induction xs generalizing n b with
  | nil => rfl
  | cons raw rest ih =>
    rw [List.cons_append, advance, advance]
    cases b.step o n raw with
    | error halt => rfl
    | ok b' =>
      show advance o (n + 1) (rest ++ ys) b' = _
      rw [ih, List.length_cons, Nat.add_assoc, Nat.add_comm 1]
      rfl

/-- The pass takes in physical lines, the first of which is line `n`. The log is left out. -/
inductive Run (o : ParseOptions) : ℕ → List Text → Builder → Builder → Prop where
  | nil (n : ℕ) (b : Builder) : Run o n [] b b
  | cons {n : ℕ} {raw : Text} {rest : List Text} {b b' : Builder}
    (hok : (classify b.context raw).Acceptable b)
    (hrest : Run o (n + 1) rest (b.effect o n (classify b.context raw)) b') :
    Run o n (raw :: rest) b b'

/-- A run goes on where another one has stopped. -/
lemma Run.append {xs ys : List Text} {b₁ b₂ : Builder} (h : Run o n xs b b₁)
    (hrest : Run o (n + xs.length) ys b₁ b₂) : Run o n (xs ++ ys) b b₂ := by
  induction h with
  | nil n b => exact hrest
  | @cons n raw rest b b₁ hok hrun ih =>
    -- the second run begins at the line where the first one stopped
    refine .cons hok (ih ?_)
    rw [List.length_cons] at hrest
    rwa [Nat.add_assoc, Nat.add_comm 1]

/-- A line has the same effect under any log. -/
lemma effect_log (line : SourceLine) (log : List LogRecord) :
    ({ b with log := log } : Builder).effect o n line =
      { b.effect o n line with log := log } := by
  cases line with
  | fence => cases hblock : b.block <;> simp [effect, hblock, settled, append, waiting]
  | verbatim raw => cases hblock : b.block <;> simp [effect, takeVerbatim, hblock]
  | content condition body =>
    cases body with
    | dialogue speaker content =>
      cases hfence : before? fence content <;> simp [effect, hfence, settled, append, waiting]
    | _ => rfl
  | _ => rfl

lemma acceptable_log {line : SourceLine} (log : List LogRecord) (h : line.Acceptable b) :
    line.Acceptable { b with log := log } := by
  cases line with
  | content condition body => cases body <;> exact h
  | _ => exact h

/-- A run is a pass that succeeds, where content outside of a node is ignored. -/
lemma Run.advance {raws : List Text} (ho : o.orphanLines = .ignore) (h : Run o n raws b b')
    (log : List LogRecord) :
    ∃ log', Builder.advance o n raws { b with log := log } = .ok { b' with log := log' } := by
  induction h generalizing log with
  | nil n b => exact ⟨log, rfl⟩
  | @cons n raw rest b b' hok hrun ih =>
    obtain ⟨log₁, hhandle⟩ := handle_of_acceptable (n := n) ho (acceptable_log log hok)
    obtain ⟨log', hrest⟩ := ih log₁
    refine ⟨log', ?_⟩
    rw [Builder.advance, step]
    rw [effect_log] at hhandle
    show (handle o n (classify b.context raw) { b with log := log } >>= _) = _
    rw [hhandle]
    exact hrest

/-! ## The end of the text -/

/-- A text that can be finished has no open block, and its last choice and its last node are put in
place. -/
lemma finish_ok (h : b.finish o = .ok b') :
    b.block = none ∧ ∃ log, b' = { b.settled.committed with log := log } := by
  unfold finish at h
  split at h
  · cases h
  · rename_i hblock
    obtain ⟨b₁, hclose, hcommit⟩ := exists_of_bind_ok h
    obtain ⟨log, rfl⟩ := closeChoice_ok hclose
    obtain ⟨log', heq⟩ := commit_eq { b.settled with log := log }
    cases hcommit
    exact ⟨hblock, log', heq⟩

/-- Where content outside of a node is ignored, only an open block can be wrong at the end. -/
lemma finish_of_ignore (ho : o.orphanLines = .ignore) (h : b.block = none) :
    ∃ log, b.finish o = .ok { b.settled.committed with log := log } := by
  obtain ⟨log, hclose⟩ := closeChoice_of_ignore (b := b) ho
  obtain ⟨log', heq⟩ := commit_eq { b.settled with log := log }
  refine ⟨log', ?_⟩
  unfold finish
  rw [h, hclose]
  exact congrArg Except.ok heq

/-- Takes in physical lines, the first of which is line `n`, up to the end of the text. -/
def conclude (o : ParseOptions) (n : ℕ) (raws : List Text) (b : Builder) : Except Halt Builder := do
  let b ← advance o n raws b
  b.finish o

lemma conclude_append (xs ys : List Text) :
    conclude o n (xs ++ ys) b =
      (do let b ← advance o n xs b; conclude o (n + xs.length) ys b) := by
  rw [conclude, advance_append, bind_assoc]
  rfl

lemma conclude_cons (raw : Text) (rest : List Text) :
    conclude o n (raw :: rest) b = (do let b ← b.step o n raw; conclude o (n + 1) rest b) := by
  rw [conclude, advance, bind_assoc]
  rfl

end Builder

/-- A pass takes in all physical lines of a text, from the first line on. -/
lemma pass_eq_conclude (o : ParseOptions) (text : Text) :
    pass o text = Builder.conclude o 1 (sourceLines text) {} := rfl

end Source

end DialogueScript
