import DialogueScript.Proofs.Steps

/-!
# The sections of a source

What a source says is put here without a builder. Each physical line is read in the state that the
lines before it leave (`readings`). The lines from a node directive to the next one are the section
of that node, and each line of the section that begins something (`lineAt?`) gives one line of the
node, which looks ahead for what belongs to it:

* a prompt, for its options, up to the first line that is neither an option nor a jump;
* the opening of a code block, for the lines captured by it.

An input line without text takes its prompt from the options, with the variable in the place of
every mark (`fillPrompt_intercalate`).

The builder looks back instead: it keeps what is open and completes it later. `Builder.due` reads
a builder together with the lines to come as the nodes that will come of them. No line changes
that (`due_effect`), so that the nodes of a script are those of its sections
(`parse_eq_sections`).
-/

namespace DialogueScript.Source

open Text

/-! ## Reading each line in its state -/

/-- A line as it was read: the state it was read in, and what it says there. -/
structure Reading where
  context : Context
  line : SourceLine

/-- The state that a line leaves to the next one. -/
def Context.after (c : Context) : SourceLine → Context
  | .fence => ⟨!c.inCodeBlock, false⟩
  | .verbatim _ => c
  | .jump _ => c
  | .content _ (.option _) => c
  | .content _ (.malformedOption _) => c
  | .content _ (.unknown _) => c
  | .content _ (.prompt _) => ⟨c.inCodeBlock, true⟩
  | .content _ (.dialogue _ content) => ⟨(before? fence content).isSome, false⟩
  | _ => ⟨c.inCodeBlock, false⟩

/-- Physical lines, the first of them read in the state `c`. -/
def readings (c : Context) : List Text → List Reading
  | [] => []
  | raw :: rest => ⟨c, classify c raw⟩ :: readings (c.after (classify c raw)) rest

namespace Reading

/-- The id of a node directive. -/
def nodeId? (r : Reading) : Option Text :=
  match r.line with
  | .node id => some id
  | _ => none

/-- The target of a jump directive. -/
def target? (r : Reading) : Option Text :=
  match r.line with
  | .jump target => some target
  | _ => none

/-- The value that a header line gives to a field. -/
def value? (f : Field) (r : Reading) : Option Text :=
  match r.line with
  | .header g value => if g = f then some value else none
  | _ => none

/-- The option of an option line: its own condition, or else the guard of the line. -/
def option? (r : Reading) : Option ChoiceOption :=
  match r.line with
  | .content guard (.option o) => some { o with condition := o.condition.or guard }
  | _ => none

/-- The text of a line captured by a code block. -/
def captured? (r : Reading) : Option Text :=
  match r.line with
  | .verbatim raw => some raw
  | _ => none

end Reading

/-! ## What belongs to a line -/

/-- The options that follow a prompt: those up to the next line that is neither an option nor a
jump. -/
def optionsOf (rest : List Reading) : List ChoiceOption :=
  (rest.takeWhile fun r => r.option?.isSome || r.target?.isSome).filterMap Reading.option?

/-- The lines captured by a code block that has been opened. -/
def capturedOf (rest : List Reading) : List Text :=
  (rest.takeWhile fun r => r.captured?.isSome).filterMap Reading.captured?

/-- The line of the node that begins at the reading `r`, with `rest` behind it. -/
def lineAt? (o : ParseOptions) (r : Reading) (rest : List Reading) : Option Line :=
  match r.line with
  | .fence =>
    if r.context.inCodeBlock then none
    else some (.dialogue none (fenced (capturedOf rest)) none)
  | .content condition (.dialogue speaker content) =>
    match before? fence content with
    | some leading =>
      let first := if trim leading = [] then [] else [trim leading]
      some (.dialogue speaker (fenced (first ++ capturedOf rest)) condition)
    | none => some (.dialogue speaker content condition)
  | .content condition (.command content) => some (.command content condition)
  | .content condition (.input name prompt) =>
    some (.input name (if prompt = [] then fillPrompt name o.inputPrompt else prompt) condition)
  | .content condition (.prompt content) => some (.choice content (optionsOf rest) condition)
  | _ => none

/-- The lines of a node, from its section. -/
def linesOf (o : ParseOptions) : List Reading → List Line
  | [] => []
  | r :: rest => (lineAt? o r rest).toList ++ linesOf o rest

/-- The jump of a node, from its section: the last one. -/
def jumpOf (section_ : List Reading) : Option Text := (section_.filterMap Reading.target?).getLast?

/-- What stands before the next node directive. -/
def sectionOf (rest : List Reading) : List Reading := rest.takeWhile fun r => r.nodeId?.isNone

/-- A node for each node directive, from the section behind it. -/
def nodesOf (o : ParseOptions) : List Reading → List Node
  | [] => []
  | r :: rest =>
    (r.nodeId?.map fun id => ⟨id, linesOf o (sectionOf rest), jumpOf (sectionOf rest)⟩).toList ++
      nodesOf o rest

/-! ## The prompt of an input line without text -/

/-- What stands for the variable in the prompt of the options. -/
def promptMark : Text := ['{', 'v', 'a', 'r', '}']

lemma fillPrompt_mark (name t : Text) :
    fillPrompt name (promptMark ++ t) = name ++ fillPrompt name t := rfl

lemma fillPrompt_cons {name t : Text} {c : Char} (h : ¬promptMark <+: c :: t) :
    fillPrompt name (c :: t) = c :: fillPrompt name t := by
  rw [fillPrompt]
  rintro t rfl rfl
  exact h (List.prefix_append promptMark t)

/-- No mark begins inside of a text and ends behind it, if another mark follows. -/
lemma not_prefix_append_mark {a t : Text} (hne : a ≠ []) (h : ¬promptMark <+: a) :
    ¬promptMark <+: a ++ (promptMark ++ t) := by
  intro hmark
  match a with
  | [] => exact hne rfl
  | [_] => simp [promptMark] at hmark
  | [_, _] => simp [promptMark] at hmark
  | [_, _, _] => simp [promptMark] at hmark
  | [_, _, _, _] => simp [promptMark] at hmark
  | c₁ :: c₂ :: c₃ :: c₄ :: c₅ :: a => exact h (by simpa [promptMark] using hmark)

lemma fillPrompt_append_mark {name a t : Text} (h : ¬promptMark <:+: a) :
    fillPrompt name (a ++ (promptMark ++ t)) = a ++ (name ++ fillPrompt name t) := by
  induction a with
  | nil => exact fillPrompt_mark name t
  | cons c a ih =>
    obtain ⟨hhead, htail⟩ := not_or.1 (mt List.infix_cons_iff.2 h)
    have hnot : ¬promptMark <+: c :: (a ++ (promptMark ++ t)) :=
      not_prefix_append_mark (List.cons_ne_nil c a) hhead
    rw [List.cons_append, fillPrompt_cons hnot, ih htail, List.cons_append]

lemma fillPrompt_eq_self {name a : Text} (h : ¬promptMark <:+: a) : fillPrompt name a = a := by
  induction a with
  | nil => rfl
  | cons c a ih =>
    obtain ⟨hhead, htail⟩ := not_or.1 (mt List.infix_cons_iff.2 h)
    rw [fillPrompt_cons hhead, ih htail]

/-- Every mark of a prompt is replaced: parts without a mark are joined by the name instead. -/
lemma fillPrompt_intercalate {name : Text} {parts : List Text}
    (h : ∀ p ∈ parts, ¬promptMark <:+: p) :
    fillPrompt name (promptMark.intercalate parts) = name.intercalate parts := by
  induction parts with
  | nil => rfl
  | cons p rest ih =>
    have hp : ¬promptMark <:+: p := h p List.mem_cons_self
    cases rest with
    | nil => simpa using fillPrompt_eq_self hp
    | cons q rest =>
      rw [List.intercalate_cons_cons, List.intercalate_cons_cons, List.append_assoc,
        fillPrompt_append_mark hp, ih fun r hr => h r (List.mem_cons_of_mem p hr),
        List.append_assoc]

/-- Joined parts begin with the first of them, whatever is put in front. -/
lemma exists_intercalate_eq_append (p : Text) (parts : List Text) :
    ∃ behind, ∀ front, promptMark.intercalate ((front ++ p) :: parts) = front ++ (p ++ behind) := by
  cases parts with
  | nil => exact ⟨[], fun front => by simp⟩
  | cons q parts =>
    exact ⟨promptMark ++ promptMark.intercalate (q :: parts), fun front => by
      rw [List.intercalate_cons_cons, List.append_assoc, List.append_assoc]⟩

/-- Every prompt is made of parts without a mark, with one mark between any two. -/
lemma exists_parts (t : Text) :
    ∃ p parts, promptMark.intercalate (p :: parts) = t ∧ ∀ q ∈ p :: parts, ¬promptMark <:+: q := by
  induction t using fillPrompt.induct with
  | case1 t ih =>
    obtain ⟨p, parts, rfl, hparts⟩ := ih
    refine ⟨[], p :: parts, rfl, fun q hq => ?_⟩
    rcases List.mem_cons.1 hq with rfl | hq
    · decide
    · exact hparts q hq
  | case2 c t hnot ih =>
    obtain ⟨p, parts, rfl, hparts⟩ := ih
    obtain ⟨behind, hbehind⟩ := exists_intercalate_eq_append p parts
    refine ⟨c :: p, parts, ?_, fun q hq => ?_⟩
    · exact (hbehind [c]).trans (congrArg (c :: ·) (hbehind []).symm)
    · rcases List.mem_cons.1 hq with rfl | hq
      · intro hmark
        rcases List.infix_cons_iff.1 hmark with ⟨u, hu⟩ | hmark
        · -- a mark at the front of the part would stand at the front of the prompt
          obtain ⟨rfl, rfl⟩ := List.cons.inj hu
          exact hnot _ rfl (hbehind [])
        · exact hparts p List.mem_cons_self hmark
      · exact hparts q (List.mem_cons_of_mem p hq)
  | case3 => exact ⟨[], [], rfl, by decide⟩

/-- An input line without text gets the prompt of the options, with the variable in the place of
each mark. -/
lemma lineAt?_input_nil {o : ParseOptions} {parts : List Text}
    (hprompt : promptMark.intercalate parts = o.inputPrompt)
    (hparts : ∀ p ∈ parts, ¬promptMark <:+: p) (context : Context) (condition : Option Text)
    (name : Text) (rest : List Reading) :
    lineAt? o ⟨context, .content condition (.input name [])⟩ rest =
      some (.input name (name.intercalate parts) condition) := by
  rw [← fillPrompt_intercalate hparts, hprompt]
  rfl

/-! ## The state of the builder is the state of the lines -/

/-- The line can have been read in this state. -/
def SourceLine.Fits (c : Context) : SourceLine → Prop
  | .fence => True
  | .verbatim _ => c.inCodeBlock = true
  | .content _ (.option _) => c.inCodeBlock = false ∧ c.choicePending = true
  | _ => c.inCodeBlock = false

lemma readBody_fits {pending : Bool} {condition : Option Text} {t : Text} {c : Context}
    (hblock : c.inCodeBlock = false) (hpending : c.choicePending = pending) :
    (SourceLine.content condition (readBody pending t)).Fits c := by
  unfold readBody
  split
  · split <;> exact hblock
  · exact hblock
  · split <;> exact hblock
  · split
    · rename_i htrue
      split
      · exact ⟨hblock, hpending.trans htrue⟩
      · exact hblock
    · exact hblock
  · exact hblock

lemma classify_fits (c : Context) (raw : Text) : (classify c raw).Fits c := by
  unfold classify
  split
  · trivial
  · split
    · rename_i hblock
      exact hblock
    · rename_i hblock
      have hfalse : c.inCodeBlock = false := Bool.eq_false_iff.2 hblock
      unfold readTrimmed
      split
      · exact hfalse
      · exact hfalse
      · split <;> exact hfalse
      · split
        · exact hfalse
        · split
          · exact hfalse
          · unfold readContent
            split
            · split <;> exact readBody_fits hfalse rfl
            · exact readBody_fits hfalse rfl

namespace Builder

variable {o : ParseOptions} {n : ℕ} {b : Builder} {line : SourceLine}

/-- No choice waits while a code block is open. -/
def Steady (b : Builder) : Prop := b.block ≠ none → b.choice = none

lemma block_eq_none (h : b.context.inCodeBlock = false) : b.block = none :=
  Option.not_isSome_iff_eq_none.1 (Bool.eq_false_iff.1 h)

lemma exists_block (h : b.context.inCodeBlock = true) : ∃ k, b.block = some k :=
  Option.isSome_iff_exists.1 h

lemma exists_choice (h : b.context.choicePending = true) : ∃ c, b.choice = some c :=
  Option.isSome_iff_exists.1 h

/-- A line leaves the builder in the state that it leaves to the next line. -/
lemma context_effect (hfits : line.Fits b.context) :
    (b.effect o n line).context = b.context.after line := by
  cases line with
  | fence =>
    cases hblock : b.block with
    | some k =>
      rw [effect_fence_of_block hblock]
      simp [context, Context.after, hblock, settled, append]
    | none =>
      rw [effect_fence_of_no_block hblock]
      simp [context, Context.after, hblock, settled]
  | verbatim raw =>
    obtain ⟨k, hblock⟩ := exists_block hfits
    simp [effect, takeVerbatim, context, Context.after, hblock]
  | blank => rfl
  | comment => rfl
  | header field value => rfl
  | node id => rfl
  | jump target => rfl
  | content condition body =>
    cases body with
    | dialogue speaker content =>
      cases hfence : before? fence content with
      | some leading =>
        rw [effect_dialogue_of_fence hfence]
        simp [context, Context.after, hfence, settled]
      | none =>
        rw [effect_dialogue_of_no_fence hfence]
        simp [context, Context.after, hfence, settled, append, block_eq_none hfits]
    | command content => rfl
    | input name prompt => rfl
    | prompt content => rfl
    | option option => simp [effect, context, Context.after]
    | malformedOption text => rfl
    | unknown text => rfl

/-- A line that belongs to an open block or a waiting choice keeps the other one closed. -/
lemma steady_effect (h : b.Steady) (hfits : line.Fits b.context) : (b.effect o n line).Steady := by
  cases line with
  | fence =>
    cases hblock : b.block with
    | some k =>
      rw [effect_fence_of_block hblock]
      exact fun _ => rfl
    | none =>
      rw [effect_fence_of_no_block hblock]
      exact fun _ => rfl
  | verbatim raw =>
    obtain ⟨k, hblock⟩ := exists_block hfits
    have hchoice : b.choice = none := h (by rw [hblock]; exact Option.some_ne_none k)
    intro _
    simp only [effect, takeVerbatim, hblock]
    exact hchoice
  | blank => exact fun _ => rfl
  | comment => exact fun _ => rfl
  | header field value => exact fun _ => rfl
  | node id => exact fun _ => rfl
  | jump target => exact h
  | content condition body =>
    cases body with
    | dialogue speaker content =>
      cases hfence : before? fence content with
      | some leading =>
        rw [effect_dialogue_of_fence hfence]
        exact fun _ => rfl
      | none =>
        rw [effect_dialogue_of_no_fence hfence]
        exact fun _ => rfl
    | command content => exact fun _ => rfl
    | input name prompt => exact fun _ => rfl
    | prompt content => exact fun hopen => absurd (block_eq_none hfits) hopen
    | option option => exact fun hopen => absurd (block_eq_none hfits.1) hopen
    | malformedOption text => exact h
    | unknown text => exact h

/-! ## What is still to come -/

/-- The lines that the current node will still get, if its section goes on with `rest`. -/
def ahead (o : ParseOptions) (b : Builder) (rest : List Reading) : List Line :=
  (b.choice.map fun c =>
      { c with options := c.options ++ optionsOf rest : PendingChoice }.toLine).toList ++
    (b.block.map fun k =>
      { k with captured := k.captured ++ capturedOf rest : CodeBlock }.toLine).toList ++
    linesOf o rest

/-- The nodes that a builder will have in the end, if the text goes on with `rest`. -/
def due (o : ParseOptions) (b : Builder) (rest : List Reading) : List Node :=
  b.nodes ++
    (b.current.map fun m =>
      { m.extend (b.ahead o (sectionOf rest)) with
        jump := (jumpOf (sectionOf rest)).or m.jump }).toList ++
    nodesOf o rest

/-- A line that goes to the current node leaves what is due as it is, if it moves lines from what
is ahead of the node to the node. -/
lemma due_of_ahead {b' : Builder} {r : Reading} {rest : List Reading} (ls : List Line)
    (jump : Option Text) (hr : r.nodeId? = none) (hnodes : b'.nodes = b.nodes)
    (hcurrent : b'.current = b.current.map fun m => { m.extend ls with jump := jump.or m.jump })
    (hjump : r.target? = jump)
    (hahead : ∀ s, b.ahead o (r :: s) = ls ++ b'.ahead o s) :
    b'.due o rest = b.due o (r :: rest) := by
  have hsection : sectionOf (r :: rest) = r :: sectionOf rest := by
    rw [sectionOf, List.takeWhile_cons, hr]
    rfl
  have hlast : jumpOf (r :: sectionOf rest) = (jumpOf (sectionOf rest)).or jump := by
    rw [jumpOf, jumpOf, ← hjump]
    cases htarget : r.target? with
    | none => rw [List.filterMap_cons_none htarget, Option.or_none]
    | some t =>
      rw [List.filterMap_cons_some htarget, List.getLast?_cons]
      cases (List.filterMap Reading.target? (sectionOf rest)).getLast? <;> rfl
  have hrest : nodesOf o (r :: rest) = nodesOf o rest := by
    rw [nodesOf, hr]
    rfl
  rw [due, due, hsection, hahead, hlast, hrest, hnodes, hcurrent, Option.map_map]
  congr 4
  funext m
  simp [Node.extend, Option.or_assoc]

lemma ahead_of_closed {rest : List Reading} (hchoice : b.choice = none) (hblock : b.block = none) :
    b.ahead o rest = linesOf o rest := by
  rw [ahead, hchoice, hblock]
  rfl

/-- At the end of a section only the waiting choice is still ahead. -/
lemma ahead_nil (hblock : b.block = none) : b.ahead o [] = b.waiting := by
  rw [ahead, hblock]
  simp [waiting, optionsOf, linesOf]

/-- A line that is neither an option nor a jump ends the options of a waiting choice. It brings
the lines `added` to the node at once, and what it opens will bring its own line. -/
lemma due_of_stop {b' : Builder} {r : Reading} {rest : List Reading} (added : List Line)
    (hr : r.nodeId? = none) (hoption : r.option? = none) (htarget : r.target? = none)
    (hblock : b.block = none) (hnodes : b'.nodes = b.nodes)
    (hcurrent : b'.current = (b.settled.append added).current)
    (hahead : ∀ s, added ++ b'.ahead o s = (lineAt? o r s).toList ++ linesOf o s) :
    b'.due o rest = b.due o (r :: rest) := by
  have hmoved : b'.current = b.current.map fun m =>
      { m.extend (b.waiting ++ added) with jump := (none : Option Text).or m.jump } := by
    rw [hcurrent]
    cases hnode : b.current with
    | none => simp [settled, append, hnode]
    | some m => simp [settled, append, hnode, Node.extend]
  refine due_of_ahead _ _ hr hnodes hmoved htarget fun s => ?_
  have hstop : optionsOf (r :: s) = [] := by
    rw [optionsOf, List.takeWhile_cons, hoption, htarget]
    rfl
  rw [List.append_assoc, hahead, ahead, hstop, hblock, linesOf, waiting]
  simp

/-- What is due does not change with a line: it goes over from what follows to what is there. -/
lemma due_effect {rest : List Reading} (hsteady : b.Steady) (hfits : line.Fits b.context)
    (hok : line.Acceptable b) :
    (b.effect o n line).due o rest = b.due o (⟨b.context, line⟩ :: rest) := by
  cases line with
  | fence =>
    cases hblock : b.block with
    | some k =>
      -- the block is complete: nothing that follows belongs to it
      have hchoice : b.choice = none := hsteady (by rw [hblock]; exact Option.some_ne_none k)
      rw [effect_fence_of_block hblock, settled_of_choice_none hchoice]
      refine due_of_ahead [k.toLine] none rfl rfl rfl rfl fun s => ?_
      simp [ahead, append, hchoice, hblock, linesOf, lineAt?, context, capturedOf,
        Reading.captured?]
    | none =>
      rw [effect_fence_of_no_block hblock]
      refine due_of_stop [] rfl rfl rfl hblock rfl (by simp [append]) fun s => ?_
      simp [ahead, settled, lineAt?, context, hblock, CodeBlock.toLine]
  | verbatim raw =>
    obtain ⟨k, hblock⟩ := exists_block hfits
    have hchoice : b.choice = none := hsteady (by rw [hblock]; exact Option.some_ne_none k)
    rw [effect, takeVerbatim, hblock]
    refine due_of_ahead [] none rfl rfl (by simp) rfl fun s => ?_
    simp [ahead, hchoice, hblock, linesOf, lineAt?, capturedOf, Reading.captured?]
  | blank =>
    have hblock : b.block = none := block_eq_none hfits
    refine due_of_stop [] rfl rfl rfl hblock rfl (by simp [effect, append]) fun s => ?_
    exact ahead_of_closed rfl hblock
  | comment =>
    have hblock : b.block = none := block_eq_none hfits
    refine due_of_stop [] rfl rfl rfl hblock rfl (by simp [effect, append]) fun s => ?_
    exact ahead_of_closed rfl hblock
  | header field value =>
    have hblock : b.block = none := block_eq_none hfits
    refine due_of_stop [] rfl rfl rfl hblock rfl (by simp [effect, append]) fun s => ?_
    exact ahead_of_closed rfl hblock
  | node id =>
    -- the directive ends the section of the node that was current
    have hsection : sectionOf (⟨b.context, .node id⟩ :: rest) = [] := rfl
    have hahead : Builder.ahead o (b.effect o n (.node id)) (sectionOf rest) =
      linesOf o (sectionOf rest) := ahead_of_closed rfl (block_eq_none hfits)
    rw [due, due, hsection, ahead_nil (block_eq_none hfits), hahead]
    simp [effect, committed, settled, append, nodesOf, Reading.nodeId?, Node.extend, jumpOf]
  | jump target =>
    -- a jump among the options of a choice does not end them
    have hgoes (s : List Reading) : optionsOf (⟨b.context, .jump target⟩ :: s) = optionsOf s := rfl
    refine due_of_ahead [] (some target) rfl rfl (by simp [effect]) rfl fun s => ?_
    rw [ahead, ahead, hgoes, linesOf]
    simp [effect, block_eq_none hfits, lineAt?]
  | content condition body =>
    cases body with
    | dialogue speaker content =>
      have hblock : b.block = none := block_eq_none hfits
      cases hfence : before? fence content with
      | some leading =>
        rw [effect_dialogue_of_fence hfence]
        refine due_of_stop [] rfl rfl rfl hblock rfl (by simp [append]) fun s => ?_
        simp [ahead, settled, lineAt?, hfence, CodeBlock.toLine]
      | none =>
        rw [effect_dialogue_of_no_fence hfence]
        refine due_of_stop [.dialogue speaker content condition] rfl rfl rfl hblock rfl rfl
          fun s => ?_
        have hclosed : (b.settled.append [.dialogue speaker content condition]).ahead o s =
          linesOf o s := ahead_of_closed rfl hblock
        rw [hclosed]
        simp [lineAt?, hfence]
    | command content =>
      have hblock : b.block = none := block_eq_none hfits
      exact due_of_stop [.command content condition] rfl rfl rfl hblock rfl rfl fun s =>
        congrArg _ (ahead_of_closed rfl hblock)
    | input name prompt =>
      have hblock : b.block = none := block_eq_none hfits
      exact due_of_stop [_] rfl rfl rfl hblock rfl rfl fun s =>
        congrArg _ (ahead_of_closed rfl hblock)
    | prompt content =>
      have hblock : b.block = none := block_eq_none hfits
      refine due_of_stop [] rfl rfl rfl hblock rfl (by simp [effect, append]) fun s => ?_
      simp [ahead, effect, settled, append, hblock, lineAt?, PendingChoice.toLine]
    | option option =>
      obtain ⟨c, hchoice⟩ := exists_choice hfits.2
      have hblock : b.block = none := block_eq_none hfits.1
      -- the option goes over from what follows to the waiting choice
      have htaken (s : List Reading) :
          optionsOf (⟨b.context, .content condition (.option option)⟩ :: s) =
            { option with condition := option.condition.or condition } :: optionsOf s := rfl
      refine due_of_ahead [] none rfl rfl (by simp [effect]) rfl fun s => ?_
      rw [ahead, ahead, htaken, linesOf]
      simp [effect, hblock, hchoice, lineAt?]
    | malformedOption text => exact hok.elim
    | unknown text => exact hok.elim

/-- At the end of the text, what is due is what finishing makes. -/
lemma due_nil (hblock : b.block = none) : b.due o [] = b.settled.committed.nodes := by
  rw [due, sectionOf, List.takeWhile_nil, ahead_nil hblock]
  cases hnode : b.current with
  | none => simp [settled, committed, append, hnode, nodesOf]
  | some m => simp [settled, committed, append, hnode, nodesOf, jumpOf, Node.extend]

/-! ## The whole text -/

lemma get_effect (f : Field) :
    (b.effect o n line).metadata.get f =
      (Reading.value? f ⟨b.context, line⟩).or (b.metadata.get f) := by
  cases line with
  | fence =>
    cases hblock : b.block with
    | some k => rw [effect_fence_of_block hblock]; rfl
    | none => rw [effect_fence_of_no_block hblock]; rfl
  | verbatim raw => cases hblock : b.block <;> simp [effect, takeVerbatim, hblock, Reading.value?]
  | blank => rfl
  | comment => rfl
  | header g value =>
    rw [effect, Metadata.get_set]
    by_cases hfield : g = f
    · simp [Reading.value?, hfield]
    · simp [Reading.value?, hfield, Ne.symm hfield]
  | node id => rfl
  | jump target => rfl
  | content condition body =>
    cases body with
    | dialogue speaker content =>
      cases hfence : before? fence content with
      | some leading => rw [effect_dialogue_of_fence hfence]; rfl
      | none => rw [effect_dialogue_of_no_fence hfence]; rfl
    | _ => rfl

/-- A line that is taken in is a reading of the builder, and leaves what is due as it was. -/
lemma step_ok {raw : Text} {b' : Builder} (hsteady : b.Steady) (h : b.step o n raw = .ok b') :
    b'.Steady ∧ b'.context = b.context.after (classify b.context raw) ∧
      (∀ rest, b'.due o rest = b.due o (⟨b.context, classify b.context raw⟩ :: rest)) ∧
      ∀ f, b'.metadata.get f =
        (Reading.value? f ⟨b.context, classify b.context raw⟩).or (b.metadata.get f) := by
  obtain ⟨hok, log, rfl⟩ := handle_ok h
  have hfits : (classify b.context raw).Fits b.context := classify_fits b.context raw
  exact ⟨steady_effect hsteady hfits, context_effect hfits,
    fun rest => due_effect hsteady hfits hok, get_effect⟩

/-- Taking in lines keeps what is due, and the last value of each header field. -/
lemma advance_ok {raws : List Text} {b' : Builder} (hsteady : b.Steady)
    (h : advance o n raws b = .ok b') :
    b'.due o [] = b.due o (readings b.context raws) ∧
      ∀ f, b'.metadata.get f =
        ((readings b.context raws).filterMap (Reading.value? f)).getLast?.or
          (b.metadata.get f) := by
  induction raws generalizing n b with
  | nil =>
    cases h
    exact ⟨rfl, fun f => rfl⟩
  | cons raw rest ih =>
    obtain ⟨b₁, hstep, hrest⟩ := exists_of_bind_ok h
    -- the state behind the line is the one in which the rest was read
    obtain ⟨hsteady₁, hcontext, hdue, hget⟩ := step_ok hsteady hstep
    obtain ⟨hdue', hget'⟩ := ih hsteady₁ hrest
    rw [readings, ← hcontext]
    refine ⟨hdue'.trans (hdue _), fun f => ?_⟩
    rw [hget', hget]
    -- a later value of the field wins over this one
    cases hvalue : Reading.value? f ⟨b.context, classify b.context raw⟩ with
    | none => rw [List.filterMap_cons_none hvalue, Option.none_or]
    | some value =>
      rw [List.filterMap_cons_some hvalue, List.getLast?_cons]
      cases (List.filterMap (Reading.value? f) (readings b₁.context rest)).getLast? <;> rfl

/-- The builder after some lines gives the state in which the lines behind them are read. -/
lemma readings_append {before behind : List Text} {b' : Builder} (hsteady : b.Steady)
    (h : advance o n (before ++ behind) b = .ok b') :
    ∃ b₁, advance o n before b = .ok b₁ ∧
      readings b.context (before ++ behind) =
        readings b.context before ++ readings b₁.context behind := by
  induction before generalizing n b with
  | nil => exact ⟨b, rfl, rfl⟩
  | cons raw rest ih =>
    obtain ⟨b₁, hstep, hrest⟩ := exists_of_bind_ok h
    obtain ⟨hsteady₁, hcontext, -⟩ := step_ok hsteady hstep
    obtain ⟨b₂, hadvance, hreadings⟩ := ih hsteady₁ hrest
    refine ⟨b₂, ?_, ?_⟩
    · rw [advance, hstep]
      exact hadvance
    · rw [List.cons_append, readings, readings, ← hcontext, hreadings, List.cons_append]

end Builder

lemma length_readings (c : Context) (raws : List Text) :
    (readings c raws).length = raws.length := by
  induction raws generalizing c with
  | nil => rfl
  | cons raw rest ih => rw [readings, List.length_cons, List.length_cons, ih]

lemma map_id_nodesOf (o : ParseOptions) (rs : List Reading) :
    (nodesOf o rs).map Node.id = rs.filterMap Reading.nodeId? := by
  induction rs with
  | nil => rfl
  | cons r rest ih =>
    rw [nodesOf, List.map_append, ih]
    cases hid : r.nodeId? with
    | none => simp [hid]
    | some id => simp [hid]

/-- What a text says that can be read: each line is read in the state of the builder that has
taken in the lines before it. Then the nodes are those of the sections, their ids those of the
node directives, and a header field has the value of its last header line. An input line without
text shows the prompt of the options: the name of its variable joins the parts between the marks. -/
theorem parse_eq_sections (o : ParseOptions) (text : Text) (s : Script)
    (h : parse o text = .ok s) :
    (∀ before raw behind, sourceLines text = before ++ raw :: behind →
      ∃ b, Builder.advance o 1 before {} = .ok b ∧
        (readings {} (sourceLines text))[before.length]? =
          some ⟨b.context, classify b.context raw⟩) ∧
      s.nodeIds = (readings {} (sourceLines text)).filterMap Reading.nodeId? ∧
      s.nodes = nodesOf o (readings {} (sourceLines text)) ∧
      (∀ f, s.metadata.get f =
        ((readings {} (sourceLines text)).filterMap (Reading.value? f)).getLast?) ∧
      ∃ parts, promptMark.intercalate parts = o.inputPrompt ∧
        (∀ p ∈ parts, ¬promptMark <:+: p) ∧
        ∀ context condition name rest,
          lineAt? o ⟨context, .content condition (.input name [])⟩ rest =
            some (.input name (name.intercalate parts) condition) := by
  obtain ⟨b, hpass, hassemble⟩ := parse_eq_ok_iff.1 h
  obtain ⟨b₁, hadvance, hfinish⟩ := Builder.exists_of_bind_ok hpass
  obtain ⟨hmetadata, hnodes, -⟩ := Script.assemble_eq_ok_iff.1 hassemble
  obtain ⟨hblock, log, rfl⟩ := Builder.finish_ok hfinish
  have hsteady : ({} : Builder).Steady := fun _ => rfl
  obtain ⟨hdue, hget⟩ := Builder.advance_ok hsteady hadvance
  have hsections : s.nodes = nodesOf o (readings {} (sourceLines text)) := by
    have hend : s.nodes = b₁.settled.committed.nodes := hnodes
    rw [hend, ← Builder.due_nil hblock, hdue]
    rfl
  obtain ⟨p, parts, hprompt, hparts⟩ := exists_parts o.inputPrompt
  refine ⟨?_, ?_, hsections, ?_, p :: parts, hprompt, hparts, lineAt?_input_nil hprompt hparts⟩
  · intro before raw behind hsplit
    rw [hsplit] at hadvance ⊢
    obtain ⟨b₂, hbefore, hreadings⟩ := Builder.readings_append hsteady hadvance
    refine ⟨b₂, hbefore, ?_⟩
    show (readings (Builder.context {}) (before ++ raw :: behind))[before.length]? = _
    rw [hreadings, List.getElem?_append_right (Nat.le_of_eq (length_readings _ _)),
      length_readings, Nat.sub_self]
    rfl
  · rw [Script.nodeIds, hsections, map_id_nodesOf]
  · intro f
    rw [hmetadata]
    exact (hget f).trans (by cases f <;> exact Option.or_none)

/-- The jump line stands between the options of the choice, and the block behind them. -/
theorem parse_eq_sections_of_jump_amid_options :
    parse {} "@node start\n? q\n- a\n@jump start\n[g] - b\n> A: \x60\x60\x60\nx\n\x60\x60\x60\n? \x7bn\x7d".toList =
        .ok ⟨{}, [⟨startId,
          [.choice ['q'] [⟨['a'], none, none⟩, ⟨['b'], some ['g'], none⟩] none,
            .dialogue (some ['A']) (fenced [['x']]) none,
            .input ['n'] "Enter n:".toList none],
          some startId⟩], [(startId, 0)]⟩ ∧
      nodesOf {} (readings {} (sourceLines
        "@node start\n? q\n- a\n@jump start\n[g] - b\n> A: \x60\x60\x60\nx\n\x60\x60\x60\n? \x7bn\x7d".toList)) =
        [⟨startId,
          [.choice ['q'] [⟨['a'], none, none⟩, ⟨['b'], some ['g'], none⟩] none,
            .dialogue (some ['A']) (fenced [['x']]) none,
            .input ['n'] "Enter n:".toList none],
          some startId⟩] := by
  have hparse : parse {}
      "@node start\n? q\n- a\n@jump start\n[g] - b\n> A: \x60\x60\x60\nx\n\x60\x60\x60\n? \x7bn\x7d".toList =
        .ok ⟨{}, [⟨startId,
          [.choice ['q'] [⟨['a'], none, none⟩, ⟨['b'], some ['g'], none⟩] none,
            .dialogue (some ['A']) (fenced [['x']]) none,
            .input ['n'] "Enter n:".toList none],
          some startId⟩], [(startId, 0)]⟩ := rfl
  obtain ⟨-, -, hnodes, -⟩ := parse_eq_sections _ _ _ hparse
  exact ⟨hparse, hnodes.symm⟩

end DialogueScript.Source
