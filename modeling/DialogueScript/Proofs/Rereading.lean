import DialogueScript.Proofs.WrittenLines

/-!
# Taking in the lines that are written

The pass takes in every line that is written for normal nodes, and makes of them the nodes read
again (`Node.reread`): a captured line has lost a carriage return at its end, and an option is what
its written form is read as. `Builder.Yields` says what becomes of a builder with some lines, so
that the steps of a section can be put one behind the other (`Yields.append`): the lines of a line
(`yields_reread`), those of a node (`yields_node`), and all nodes (`run_nodes`).
-/

namespace DialogueScript

open Text Source

/-- The option that is read where this one is written. -/
def ChoiceOption.reread (o : ChoiceOption) : ChoiceOption := (option? o.toSource).getD o

/-- The line that is read where this one is written. -/
def Line.reread : Line → Line
  | .dialogue speaker content condition =>
    match captured? content with
    | some captured => .dialogue speaker (fenced (captured.map withoutReturn)) condition
    | none => .dialogue speaker content condition
  | .choice content options condition => .choice content (options.map ChoiceOption.reread) condition
  | l => l

/-- The node that is read where this one is written. -/
def Node.reread (n : Node) : Node := { n with lines := n.lines.map Line.reread }

namespace Source.Builder

variable {n : ℕ} {b c d : Builder} {condition : Option Text}

/-! ## Taking in what is written -/

/-- The pass takes in the lines; behind them no block is open, and the builder is `c` as soon as a
waiting choice is in place. -/
def Yields (raws : List Text) (b c : Builder) : Prop :=
  ∀ n, ∃ b', Run {} n raws b b' ∧ b'.block = none ∧ b'.settled = c

lemma Yields.nil (h : b.block = none) : Yields [] b b.settled :=
  fun n => ⟨b, .nil n b, h, rfl⟩

lemma Yields.append {xs ys : List Text} (h : Yields xs b c)
    (hrest : ∀ b', b'.block = none → b'.settled = c → Yields ys b' d) : Yields (xs ++ ys) b d := by
  intro n
  obtain ⟨b₁, hrun, hblock, hsettled⟩ := h n
  obtain ⟨b₂, hrun', hblock', hsettled'⟩ := hrest b₁ hblock hsettled (n + xs.length)
  exact ⟨b₂, hrun.append hrun', hblock', hsettled'⟩

/-- A line outside of a code block, of which a carriage return may be lost. -/
lemma run_line {raw : Text} {line : SourceLine} (hblock : b.block = none)
    (hline : classify ⟨false, b.choice.isSome⟩ raw = line) (hok : line.Acceptable b) (n : ℕ) :
    Run {} n [raw.withoutReturn] b (b.effect {} n line) := by
  have hcontext : b.context = ⟨false, b.choice.isSome⟩ := by
    rw [context, hblock]
    rfl
  have hread : classify b.context raw.withoutReturn = line := by
    rw [hcontext, classify_withoutReturn, hline]
  rw [← hread] at hok ⊢
  exact .cons hok (.nil _ _)

lemma yields_line {raw : Text} (line : SourceLine) (hblock : b.block = none)
    (hline : classify ⟨false, b.choice.isSome⟩ raw = line) (hok : line.Acceptable b)
    (heffect : ∀ n, (b.effect {} n line).block = none ∧ (b.effect {} n line).settled = c) :
    Yields [raw.withoutReturn] b c :=
  fun n => ⟨_, run_line hblock hline hok n, heffect n⟩

/-! ## Choices -/

/-- The choice with more options at its end. -/
def extended (c : PendingChoice) (options : List ChoiceOption) : PendingChoice :=
  { c with options := c.options ++ options }

/-- The options of a choice, each read again. -/
lemma run_options {options : List ChoiceOption} {p : PendingChoice} (hblock : b.block = none)
    (hchoice : b.choice = some p) (hoptions : ∀ o ∈ options, o.Normal) :
    Run {} n (options.map fun o => (trimEnd ('-' :: ' ' :: o.toSource)).withoutReturn) b
      { b with choice := some (extended p (options.map ChoiceOption.reread)) } := by
  induction options generalizing b p n with
  | nil =>
    have hsame : ({ b with choice := some (extended p []) } : Builder) = b := by
      rw [extended, List.append_nil, ← hchoice]
    rw [List.map_nil, List.map_nil, hsame]
    exact .nil n b
  | cons o rest ih =>
    obtain ⟨o', hoption, hbody⟩ := readBody_option (hoptions o List.mem_cons_self)
    have hreread : o.reread = o' := by
      rw [ChoiceOption.reread, hoption]
      rfl
    have hline : classify ⟨false, b.choice.isSome⟩ (trimEnd ('-' :: ' ' :: o.toSource)) =
        .content none (.option o') := by
      rw [classify_trimEnd, hchoice, ← hbody]
      exact classify_marked (.inr (.inr (.inr rfl))) (' ' :: o.toSource)
    have hhead := run_line hblock hline trivial n
    have heffect : b.effect {} n (.content none (.option o')) =
        { b with choice := some (extended p [o']) } := by
      simp [effect, hchoice, extended]
    have htail := ih (b := { b with choice := some (extended p [o']) }) (n := n + 1) hblock rfl
      fun r hr => hoptions r (List.mem_cons_of_mem o hr)
    rw [heffect] at hhead
    have hrun := hhead.append htail
    simpa [extended, hreread] using hrun

lemma yields_choice {content : Text} {options : List ChoiceOption} (hblock : b.block = none)
    (h : (Line.choice content options condition).Normal) :
    Yields ((Line.choice content options condition).sourceLines.map withoutReturn) b
      (b.settled.append [(Line.choice content options condition).reread]) := by
  rcases h with ⟨hguard, hcontent, hbraced, hoptions⟩
  intro n
  have hline : classify ⟨false, b.choice.isSome⟩
      (trimEnd (guarded condition ('?' :: ' ' :: content))) =
        .content condition (.prompt content) := by
    rw [classify_trimEnd, classify_guarded (.inr (.inr (.inl rfl))) hguard,
      readBody_prompt hcontent.trim_eq hbraced]
  have hprompt := run_line hblock hline trivial n
  have hrun := hprompt.append (run_options (n := n + 1) hblock rfl hoptions)
  have hlines : (Line.choice content options condition).sourceLines.map withoutReturn =
      [(trimEnd (guarded condition ('?' :: ' ' :: content))).withoutReturn] ++
        options.map fun o => (trimEnd ('-' :: ' ' :: o.toSource)).withoutReturn := by
    simp [Line.sourceLines]
  rw [hlines]
  refine ⟨_, hrun, hblock, ?_⟩
  simp [settled, append, waiting, effect, extended, PendingChoice.toLine, Line.reread]

/-! ## Code blocks -/

/-- The block with more captured lines at its end. -/
def captured (k : CodeBlock) (ls : List Text) : CodeBlock :=
  { k with captured := k.captured ++ ls }

/-- The captured lines of a block, each without a carriage return at its end. -/
lemma run_captured {ls : List Text} {k : CodeBlock} (hblock : b.block = some k)
    (hls : ∀ l ∈ ls, IsCaptured l) :
    Run {} n (ls.map withoutReturn) b
      { b with block := some (captured k (ls.map withoutReturn)) } := by
  induction ls generalizing b k n with
  | nil =>
    have hsame : ({ b with block := some (captured k []) } : Builder) = b := by
      rw [captured, List.append_nil, ← hblock]
    rw [List.map_nil, hsame]
    exact .nil n b
  | cons l rest ih =>
    have hcontext : b.context = ⟨true, b.choice.isSome⟩ := by
      rw [context, hblock]
      rfl
    have hline : classify b.context l.withoutReturn = .verbatim l.withoutReturn := by
      rw [hcontext]
      exact classify_captured (hls l List.mem_cons_self)
    have heffect : b.effect {} n (.verbatim l.withoutReturn) =
        { b with block := some (captured k [l.withoutReturn]) } := by
      simp [effect, takeVerbatim, hblock, captured]
    have htail := ih (b := { b with block := some (captured k [l.withoutReturn]) }) (n := n + 1) rfl
      fun r hr => hls r (List.mem_cons_of_mem l hr)
    rw [List.map_cons]
    refine .cons (by rw [hline]; trivial) ?_
    rw [hline, heffect]
    simpa [captured] using htail

/-- A code block that is opened by the line `raw`. -/
lemma yields_block {raw content leading : Text} {speaker : Option Text} {ls : List Text}
    (hblock : b.block = none)
    (hline : classify ⟨false, b.choice.isSome⟩ raw = .content condition (.dialogue speaker content))
    (hfence : before? fence content = some leading) (hls : ∀ l ∈ ls, IsCaptured l) :
    Yields ((raw :: ls ++ [fence]).map withoutReturn) b
      (b.settled.append [.dialogue speaker
        (fenced ((if trim leading = [] then [] else [trim leading]) ++ ls.map withoutReturn))
        condition]) := by
  intro n
  -- the opening line, the captured lines, and the closing fence
  have hopen := run_line hblock hline trivial n
  rw [effect_dialogue_of_fence hfence] at hopen
  have hinside := hopen.append (run_captured (n := n + 1) rfl hls)
  have hclose {m : ℕ} {b' : Builder} {k : CodeBlock} (hk : b'.block = some k) :
      Run {} m [fence.withoutReturn] b' { b'.settled.append [k.toLine] with block := none } := by
    have hread : classify b'.context fence.withoutReturn = .fence := rfl
    refine .cons (by rw [hread]; trivial) ?_
    rw [hread, effect_fence_of_block hk]
    exact .nil _ _
  have hrun := hinside.append (hclose rfl)
  rw [List.cons_append, List.map_cons, List.map_append]
  refine ⟨_, hrun, rfl, ?_⟩
  rw [settled_of_choice_none rfl, settled_of_choice_none rfl]
  have hsettled : b.settled.block = none := hblock
  simp [append, captured, CodeBlock.toLine, hsettled]

/-! ## Lines -/

lemma classify_dialogue {speaker : Option Text} {content : Text} {pending : Bool}
    (hguard : IsCondition condition) (hcontent : trim content = content)
    (hspeaks : Speaks speaker content) :
    classify ⟨false, pending⟩ (dialogueHead speaker condition ++ content) =
      .content condition (.dialogue speaker content) := by
  rw [dialogueHead_append, classify_guarded (.inl rfl) hguard, readBody_dialogue hcontent hspeaks]

/-- The lines of a dialogue that is a code block. -/
lemma yields_fenced {speaker leading : Option Text} {raws : List Text} (hblock : b.block = none)
    (hguard : IsCondition condition) (h : IsBlock speaker leading raws) :
    Yields ((Line.dialogue speaker (fenced (leading.toList ++ raws)) condition).sourceLines.map
        withoutReturn) b
      (b.settled.append
        [(Line.dialogue speaker (fenced (leading.toList ++ raws)) condition).reread]) := by
  obtain ⟨first, rest, hcaptured, hrest, hfirst⟩ := h.exists_captured?
  simp only [Line.sourceLines, Line.reread, dialogueLines, hcaptured]
  rcases hfirst with ⟨hstarts, hfirst⟩ | ⟨hstarts, hne, hinline, hspeaks⟩
  · -- the first line is written inside of the block
    have hnot : fence.isPrefixOf first = false :=
      Bool.eq_false_iff.2 fun hp => hstarts (List.isPrefixOf_iff_prefix.1 hp)
    have hall : ∀ l ∈ first :: rest, IsCaptured l := by
      intro l hl
      rcases List.mem_cons.1 hl with rfl | hl
      · exact hfirst
      · exact hrest l hl
    have hfence : before? fence fence = some [] := before?_eq_some_iff.2 rfl
    have hyields := yields_block hblock (classify_dialogue hguard rfl h.speaks) hfence hall
    have hnil : trim [] = [] := rfl
    rw [if_pos hnil, List.nil_append] at hyields
    rw [hnot, if_neg Bool.false_ne_true]
    exact hyields
  · -- the first line is written in front of the opening fence
    have hopening : trim (first ++ ' ' :: fence) = first ++ ' ' :: fence := by
      rw [trim_append hne (trim_eq_self_iff.1 hinline.trim_eq).1]
      exact trimEnd_append_eq_self first (List.cons_ne_nil _ _) rfl
    have hspace : ∀ c ∈ [' '], isSpace c = true := by
      intro c hc
      rw [List.mem_singleton.1 hc]
      rfl
    have hleading : trim (first ++ [' ']) = first := by
      rw [trim_append_space first hspace, hinline.trim_eq]
    have hfence : before? fence (first ++ ' ' :: fence) = some (first ++ [' ']) := by
      rw [before?_eq_some_iff]
      simp
    have hyields := yields_block hblock (classify_dialogue hguard hopening hspeaks) hfence hrest
    rw [hleading, if_neg hne] at hyields
    rw [List.isPrefixOf_iff_prefix.2 hstarts, if_pos rfl, List.map_cons,
      withoutReturn_of_inline hinline, List.append_assoc]
    exact hyields

/-- The pass takes in the lines of a line, and makes of them the line that is read again. -/
lemma yields_reread {l : Line} (hblock : b.block = none) (h : l.Normal) :
    Yields (l.sourceLines.map withoutReturn) b (b.settled.append [l.reread]) := by
  cases l with
  | dialogue speaker content condition =>
    rcases h with ⟨hguard, ⟨hcontent, hspeaks, hfence⟩ | ⟨leading, raws, rfl, hraws⟩⟩
    · have hplain : captured? content = none := captured?_of_inline hcontent.unbroken
      simp only [Line.sourceLines, Line.reread, dialogueLines, hplain]
      refine yields_line (.content condition (.dialogue speaker content)) hblock ?_ trivial
        fun n => ?_
      · rw [classify_trimEnd, classify_dialogue hguard hcontent.trim_eq hspeaks]
      · rw [effect_dialogue_of_no_fence hfence]
        exact ⟨hblock, settled_of_choice_none rfl⟩
    · exact yields_fenced hblock hguard hraws
  | command content condition =>
    rcases h with ⟨hguard, hcontent⟩
    refine yields_line (.content condition (.command content)) hblock ?_ trivial fun n => ?_
    · rw [classify_trimEnd, classify_guarded (.inr (.inl rfl)) hguard,
        readBody_command hcontent.trim_eq]
    · exact ⟨hblock, settled_of_choice_none rfl⟩
  | choice content options condition => exact yields_choice hblock h
  | input name content condition =>
    rcases h with ⟨hguard, hinput, hne⟩
    have hwritten : "? \x7b".toList ++ name ++ '}' :: ' ' :: content =
        '?' :: ' ' :: '{' :: (name ++ '}' :: ' ' :: content) := by
      simp
    refine yields_line (.content condition (.input name content)) hblock ?_ trivial fun n => ?_
    · rw [classify_trimEnd, hwritten, classify_guarded (.inr (.inr (.inl rfl))) hguard,
        readBody_input hinput hne]
    · have heffect : b.effect {} n (.content condition (.input name content)) =
          b.settled.append [.input name content condition] := by
        simp [effect, hne]
      rw [heffect]
      exact ⟨hblock, settled_of_choice_none rfl⟩

lemma yields_lines {ls : List Line} (hblock : b.block = none) (h : ∀ l ∈ ls, l.Normal) :
    Yields ((ls.flatMap Line.sourceLines).map withoutReturn) b
      (b.settled.append (ls.map Line.reread)) := by
  induction ls generalizing b with
  | nil =>
    rw [List.map_nil, append_nil]
    exact .nil hblock
  | cons l rest ih =>
    have hl := yields_reread hblock (h l List.mem_cons_self)
    rw [List.flatMap_cons, List.map_append]
    apply hl.append
    intro b' hblock' hsettled
    have hrest := ih hblock' fun m hm => h m (List.mem_cons_of_mem l hm)
    rw [hsettled] at hrest
    have hboth : (b.settled.append [l.reread]).append (rest.map Line.reread) =
        b.settled.append ((l :: rest).map Line.reread) := by
      simp [append, Function.comp_def]
    rwa [hboth] at hrest

/-! ## Nodes -/

lemma yields_directive {id : Text} (hblock : b.block = none) (hne : id ≠ []) (hid : Inline id)
    (hnew : id ∉ b.seen) :
    Yields [withoutReturn ("@node ".toList ++ id)] b
      { b.settled.committed with seen := b.seen ++ [id], current := some { id } } :=
  yields_line (.node id) hblock (classify_node hne hid) ⟨hne, hnew⟩ fun _ =>
    ⟨hblock, settled_of_choice_none rfl⟩

lemma yields_jump {target : Text} (hblock : b.block = none) (hcurrent : b.current ≠ none)
    (hne : target ≠ []) (htarget : Inline target) :
    Yields [withoutReturn ("@jump ".toList ++ target)] b
      { b.settled with
        current := b.settled.current.map fun m => { m with jump := some target } } := by
  apply yields_line (.jump target) hblock (classify_jump hne htarget) ⟨hcurrent, hne⟩
  intro n
  refine ⟨hblock, ?_⟩
  obtain ⟨m, hm⟩ := Option.ne_none_iff_exists'.1 hcurrent
  simp [effect, settled, append, waiting, hm, Node.extend]

/-- The pass takes in the lines of a node, and makes of them the node that is read again. -/
lemma yields_node {m : Node} (hblock : b.block = none) (h : m.Normal) (hnew : m.id ∉ b.seen) :
    Yields (m.sourceLines.map withoutReturn) b
      { b.settled.committed with seen := b.seen ++ [m.id], current := some m.reread } := by
  have hsource : m.sourceLines.map withoutReturn =
      [withoutReturn ("@node ".toList ++ m.id)] ++
        (m.lines.flatMap Line.sourceLines).map withoutReturn ++
        (m.jump.toList.map ("@jump ".toList ++ ·)).map withoutReturn := by
    simp [Node.sourceLines]
  have hlines : Yields ([withoutReturn ("@node ".toList ++ m.id)] ++
      (m.lines.flatMap Line.sourceLines).map withoutReturn) b
      { b.settled.committed with
        seen := b.seen ++ [m.id], current := some ⟨m.id, m.lines.map Line.reread, none⟩ } := by
    apply (yields_directive hblock h.id_ne_nil h.id hnew).append
    intro b' hblock' hsettled
    have hyields := yields_lines hblock' h.lines
    rw [hsettled] at hyields
    exact hyields
  -- the jump is written last, and no line of the node moves behind it
  rw [hsource]
  apply hlines.append
  intro b' hblock' hsettled
  cases hjump : m.jump with
  | none =>
    have hnil := Yields.nil hblock'
    rw [hsettled] at hnil
    rw [Node.reread, hjump]
    exact hnil
  | some target =>
    obtain ⟨hne, htarget⟩ := h.jump target hjump
    have hcurrent : b'.current ≠ none := by
      intro hnone
      have hnode := congrArg current hsettled
      simp [settled, append, hnone] at hnode
    have hyields := yields_jump hblock' hcurrent hne htarget
    rw [hsettled] at hyields
    rw [Node.reread, hjump]
    exact hyields

/-! ## Sections -/

lemma yields_blank (hblock : b.block = none) : Yields [withoutReturn []] b b.settled :=
  yields_line .blank hblock rfl trivial fun _ => ⟨hblock, settled_of_choice_none rfl⟩

/-- Nodes behind what has been taken in already, each with an empty line in front. -/
lemma run_nodes {ms : List Node} (hblock : b.block = none) (h : ∀ m ∈ ms, m.Normal)
    (hnodup : (b.seen ++ ms.map Node.id).Nodup) (n : ℕ) :
    ∃ b', Run {} n ((ms.flatMap fun m => [] :: m.sourceLines).map withoutReturn) b b' ∧
      b'.block = none ∧ b'.metadata = b.metadata ∧
      b'.settled.committed.nodes = b.settled.committed.nodes ++ ms.map Node.reread := by
  induction ms generalizing b n with
  | nil => exact ⟨b, .nil n b, hblock, rfl, by simp⟩
  | cons m rest ih =>
    have hnew : m.id ∉ b.seen := by
      intro hmem
      rw [List.map_cons, List.nodup_append] at hnodup
      exact hnodup.2.2 _ hmem _ List.mem_cons_self rfl
    -- the empty line puts a waiting choice in place before the node is committed
    have hsection : Yields (([] :: m.sourceLines).map withoutReturn) b
        { b.settled.committed with seen := b.seen ++ [m.id], current := some m.reread } := by
      apply (yields_blank hblock).append
      intro b' hblock' hsettled
      have hseen : b'.seen = b.seen := by
        have heq := congrArg seen hsettled
        exact heq
      have hnode := yields_node hblock' (h m List.mem_cons_self) (by rwa [hseen])
      rw [hsettled, hseen] at hnode
      exact hnode
    obtain ⟨b₁, hrun, hblock₁, hsettled⟩ := hsection n
    have hseen : b₁.seen = b.seen ++ [m.id] := congrArg seen hsettled
    have hheader : b₁.metadata = b.metadata := by
      have heq := congrArg metadata hsettled
      exact heq
    obtain ⟨b₂, hrest, hblock₂, hmetadata, hnodes⟩ := ih hblock₁
      (fun r hr => h r (List.mem_cons_of_mem m hr)) (by rw [hseen]; simpa using hnodup) _
    refine ⟨b₂, ?_, hblock₂, hmetadata.trans hheader, ?_⟩
    · rw [List.flatMap_cons, List.map_append]
      exact hrun.append hrest
    · rw [hnodes, hsettled]
      simp [committed]

lemma yields_header {fields : List (Field × Text)} (hblock : b.block = none)
    (h : ∀ f v, (f, v) ∈ fields → Inline v) :
    Yields ((fields.map fun (f, v) => '#' :: ' ' :: f.key ++ ':' :: ' ' :: v).map withoutReturn) b
      { b.settled with metadata := fields.foldl (fun m (f, v) => m.set f v) b.metadata } := by
  induction fields generalizing b with
  | nil => exact .nil hblock
  | cons fv rest ih =>
    obtain ⟨f, v⟩ := fv
    have hfield : Yields [withoutReturn ('#' :: ' ' :: f.key ++ ':' :: ' ' :: v)] b
        { b.settled with metadata := b.metadata.set f v } :=
      yields_line (.header f v) hblock (classify_header (h f v List.mem_cons_self)) trivial
        fun _ => ⟨hblock, settled_of_choice_none rfl⟩
    apply hfield.append
    intro b' hblock' hsettled
    have hrest := ih hblock' fun g w hw => h g w (List.mem_cons_of_mem _ hw)
    have hmetadata : b'.metadata = b.metadata.set f v := congrArg metadata hsettled
    rw [hsettled, hmetadata] at hrest
    exact hrest

end Source.Builder

end DialogueScript
