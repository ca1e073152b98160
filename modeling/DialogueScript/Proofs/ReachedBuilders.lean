import DialogueScript.Proofs.CodeBlocks
import DialogueScript.Proofs.StrayContent

/-!
# What every builder is like

A builder that has taken in some lines, each read in the state it was in (`Builder.Reached`), has no
choice waiting while a code block is open, and holds the ids of its nodes, each of them once
(`Builder.Sound`). Each line keeps this (`Sound.effect`).

Several parts of the builder pass over what they have no place for: a captured line without a block,
an option without a choice, content without a node. None of this happens where it would matter
(`Builder.sound_of_reached`): the first two are never read without their block or choice, and from
the first node on, the rest of the text loses no content (`conclude_lossless`).
-/

namespace DialogueScript.Source

open Text

namespace Builder

variable {o : ParseOptions} {n : ℕ} {b b' : Builder} {node : Node} {lines : List SourceLine}
  {line : SourceLine}

/-- The builder has taken in these lines, each of them read in the state of the builder before it. -/
inductive Reached (o : ParseOptions) : List SourceLine → Builder → Prop where
  | empty : Reached o [] {}
  | step {lines : List SourceLine} {b b' : Builder} (n : ℕ) (raw : Text) (h : Reached o lines b)
    (hstep : b.step o n raw = .ok b') : Reached o (lines ++ [classify b.context raw]) b'

/-- What a builder is like that has taken in these lines. -/
structure Sound (lines : List SourceLine) (b : Builder) : Prop where
  closed : b.block = none ∨ b.choice = none
  current : b.current ≠ none ↔ ∃ id, .node id ∈ lines
  ids_ne_nil : ∀ id ∈ b.ids, id ≠ []
  nodup_ids : b.ids.Nodup
  seen : ∀ id, id ∈ b.seen ↔ id ∈ b.ids

/-! ## One line -/

lemma closed_iff_steady : b.block = none ∨ b.choice = none ↔ b.Steady :=
  or_iff_not_imp_left

/-- Node directives, and they alone, give a builder a current node, and no line takes it away. -/
lemma current_effect (line : SourceLine) :
    (b.effect o n line).current ≠ none ↔ b.current ≠ none ∨ ∃ id, line = .node id := by
  by_cases hdirective : ∃ id, line = .node id
  · obtain ⟨id, rfl⟩ := hdirective
    exact iff_of_true (Option.some_ne_none _) (.inr ⟨id, rfl⟩)
  · have hother : ∀ id, line ≠ .node id := fun id hid => hdirective ⟨id, hid⟩
    obtain ⟨-, -, hcurrent⟩ := ids_effect (b := b) (o := o) (n := n) hother
    have hnone : (b.effect o n line).current = none ↔ b.current = none := by
      rw [← Option.map_eq_none_iff (f := Node.id), hcurrent, Option.map_eq_none_iff]
    rw [or_iff_left hdirective, Ne, Ne, hnone]

lemma sound_empty : Sound [] {} where
  closed := .inl rfl
  current := by simp
  ids_ne_nil := by simp [ids]
  nodup_ids := List.nodup_nil
  seen _ := Iff.rfl

lemma Sound.with_log (h : b.Sound lines) (log : List LogRecord) :
    Sound lines { b with log := log } :=
  ⟨h.closed, h.current, h.ids_ne_nil, h.nodup_ids, h.seen⟩

/-- A line that is taken keeps the builder sound. -/
lemma Sound.effect (h : b.Sound lines) (hfits : line.Fits b.context) (hok : line.Acceptable b) :
    (b.effect o n line).Sound (lines ++ [line]) := by
  have hclosed : (b.effect o n line).block = none ∨ (b.effect o n line).choice = none :=
    closed_iff_steady.2 (steady_effect (closed_iff_steady.1 h.closed) hfits)
  have hcurrent : (b.effect o n line).current ≠ none ↔ ∃ id, .node id ∈ lines ++ [line] := by
    rw [current_effect, h.current, ← exists_or]
    simp only [List.mem_append, List.mem_singleton, eq_comm]
  by_cases hdirective : ∃ id, line = .node id
  · obtain ⟨id, rfl⟩ := hdirective
    obtain ⟨hne, hnew⟩ := hok
    have hids : (b.effect o n (.node id)).ids = b.ids ++ [id] := ids_effect_node id
    rw [h.seen] at hnew
    refine ⟨hclosed, hcurrent, ?_, ?_, ?_⟩
    · intro id' hid'
      rw [hids, List.mem_append, List.mem_singleton] at hid'
      rcases hid' with hid' | rfl
      · exact h.ids_ne_nil id' hid'
      · exact hne
    · rw [hids, ← List.concat_eq_append]
      exact List.Nodup.concat hnew h.nodup_ids
    · intro id'
      show id' ∈ b.seen ++ [id] ↔ _
      rw [hids, List.mem_append, List.mem_append, h.seen]
  · have hother : ∀ id, line ≠ .node id := fun id hid => hdirective ⟨id, hid⟩
    obtain ⟨hseen, hnodes, hid⟩ := ids_effect (b := b) (o := o) (n := n) hother
    have hids : (b.effect o n line).ids = b.ids := by rw [ids, hnodes, hid, ids]
    exact ⟨hclosed, hcurrent, by rw [hids]; exact h.ids_ne_nil, by rw [hids]; exact h.nodup_ids,
      by rw [hids, hseen]; exact h.seen⟩

/-! ## What is read finds its place -/

/-- A captured line goes into the block that is open. -/
lemma step_verbatim {raw text : Text} (h : classify b.context raw = .verbatim text) :
    ∃ k, b.block = some k ∧ b.step o n raw =
      .ok { b with block := some { k with captured := k.captured ++ [text] } } := by
  have hfits := classify_fits b.context raw
  rw [h] at hfits
  obtain ⟨k, hblock⟩ := exists_block hfits
  refine ⟨k, hblock, ?_⟩
  rw [step, h, handle, takeVerbatim, hblock]

/-- An option joins the choice that waits, with its own condition or else the guard of its line. -/
lemma step_option {raw : Text} {guard : Option Text} {option : ChoiceOption}
    (h : classify b.context raw = .content guard (.option option)) :
    ∃ c log, b.choice = some c ∧ b.step o n raw = .ok { b with
      choice := some { c with
        options := c.options ++ [{ option with condition := option.condition.or guard }] }
      log := log } := by
  have hfits := classify_fits b.context raw
  rw [h] at hfits
  obtain ⟨c, hchoice⟩ := exists_choice hfits.2
  obtain ⟨log, htaken⟩ := takeOption_eq (o := o) (n := n) b guard option
  refine ⟨c, log, hchoice, ?_⟩
  rw [step, h, handle, takeContent, htaken, Builder.effect, hchoice]
  rfl

/-- What comes of a part of the pass, behind the records `log`, without loss of content: no record
says that content was dropped, and no error that it was refused. -/
structure Lossless (log : List LogRecord) (x : Except Halt Builder) : Prop where
  drops : drops (logged x) = drops log
  error : ∀ halt, x = .error halt → ∀ content, halt.error.defect ≠ .outsideNode content

lemma lossless_ok {log : List LogRecord} (h : drops b.log = drops log) : Lossless log (.ok b) :=
  ⟨h, by simp⟩

lemma lossless_refuse {defect : Defect} (h : ∀ content, defect ≠ .outsideNode content) :
    Lossless b.log (b.refuse n defect) where
  drops := rfl
  error halt hhalt := by
    cases hhalt
    exact h

/-- Two steps lose nothing if neither of them does. -/
lemma Lossless.bind {log : List LogRecord} {x : Except Halt Builder}
    {f : Builder → Except Halt Builder} (h : Lossless log x)
    (hf : ∀ b, x = .ok b → Lossless b.log (f b)) : Lossless log (x >>= f) := by
  cases x with
  | error halt => exact h
  | ok b =>
    have hrest := hf b rfl
    exact ⟨hrest.drops.trans h.drops, hrest.error⟩

/-- With a current node a waiting choice finds its place. -/
lemma close_lossless {f : Builder → Except Halt Builder} (hcurrent : b.current = some node)
    (hf : ∀ b' node', b'.current = some node' → b'.log = b.log → Lossless b.log (f b')) :
    Lossless b.log (do let b ← b.closeChoice o; f b) := by
  rw [closeChoice_of_current hcurrent]
  exact hf _ _ rfl rfl

lemma place_lossless (hcurrent : b.current = some node) (l : Line) :
    Lossless b.log (b.place o n l) := by
  rw [place_of_current hcurrent]
  exact lossless_ok rfl

/-- With a current node no line loses content, whatever else it is refused for. -/
lemma handle_lossless (hcurrent : b.current = some node) (line : SourceLine) :
    Lossless b.log (b.handle o n line) := by
  have hopen (speaker condition : Option Text) (captured : List Text) :
      Lossless b.log (b.openBlock o n speaker condition captured) :=
    close_lossless hcurrent fun _ _ _ hlog => lossless_ok (congrArg drops hlog)
  have hplace {c : Builder} (hc : c.current = some node) (m : ℕ) (l : Line) :
      Lossless c.log (do let b ← c.closeChoice o; b.place o m l) :=
    close_lossless hc fun _ _ hnode hlog => hlog ▸ place_lossless hnode l
  have hclose : Lossless b.log (b.closeChoice o) := by
    rw [closeChoice_of_current hcurrent]
    exact lossless_ok rfl
  cases line with
  | fence =>
    rw [handle, takeFence]
    split
    · exact hplace (c := { b with block := none }) hcurrent _ _
    · exact hopen none none []
  | verbatim raw =>
    rw [handle, takeVerbatim]
    split <;> exact lossless_ok rfl
  | blank => exact hclose
  | comment => exact hclose
  | header field value =>
    exact close_lossless hcurrent fun _ _ _ hlog => lossless_ok (congrArg drops hlog)
  | node id =>
    rw [handle, takeNode]
    split
    · exact lossless_refuse (by simp)
    · refine close_lossless hcurrent fun b' node' _ hlog => ?_
      -- the commit adds a record, which is about no content
      have hdrops : drops b'.commit.log = drops b.log := (drops_commit b').trans (congrArg drops hlog)
      dsimp only
      split
      · exact ⟨hdrops, by rintro halt ⟨⟩; simp⟩
      · exact lossless_ok hdrops
  | jump target =>
    rw [handle, takeJump, hcurrent]
    dsimp only
    split
    · exact lossless_refuse (by simp)
    · exact lossless_ok rfl
  | content condition body =>
    cases body with
    | dialogue speaker content =>
      rw [handle, takeContent, takeDialogue]
      split
      · exact hopen speaker condition _
      · exact hplace hcurrent n _
    | command content => exact hplace hcurrent n _
    | input name prompt => exact hplace hcurrent n _
    | prompt content =>
      exact close_lossless hcurrent fun _ _ _ hlog => lossless_ok (congrArg drops hlog)
    | option option => exact lossless_ok (drops_takeOption condition option)
    | malformedOption text => exact lossless_refuse (by simp)
    | unknown text => exact lossless_refuse (by simp)

lemma finish_lossless (hcurrent : b.current = some node) : Lossless b.log (b.finish o) := by
  rw [finish]
  split
  · exact lossless_refuse (by simp)
  · exact close_lossless hcurrent fun b' _ _ hlog =>
      lossless_ok ((drops_commit b').trans (congrArg drops hlog))

/-- From a current node on, the rest of the text loses no content. -/
lemma conclude_lossless {raws : List Text} (hcurrent : b.current ≠ none) :
    Lossless b.log (conclude o n raws b) := by
  induction raws generalizing n b with
  | nil =>
    obtain ⟨node, hnode⟩ := Option.ne_none_iff_exists'.1 hcurrent
    exact finish_lossless hnode
  | cons raw rest ih =>
    obtain ⟨node, hnode⟩ := Option.ne_none_iff_exists'.1 hcurrent
    rw [conclude_cons]
    refine (handle_lossless hnode _).bind fun b₁ hstep => ih ?_
    obtain ⟨-, log, rfl⟩ := handle_ok hstep
    exact (current_effect (classify b.context raw)).2 (.inl hcurrent)

/-! ## Every builder -/

/-- Every builder that can be reached is sound. -/
lemma Reached.sound (h : Reached o lines b) : b.Sound lines := by
  induction h with
  | empty => exact sound_empty
  | @step lines b b' n raw h hstep ih =>
    obtain ⟨hok, log, rfl⟩ := handle_ok hstep
    exact (ih.effect (classify_fits b.context raw) hok).with_log log

/-- Every builder is sound that has been reached. A captured line finds its block and an option its
choice. No choice waits where a block is closed. Once a node directive has been taken in, each line
of content finds its node, and the rest of the text, whatever it is, loses no content. -/
theorem sound_of_reached (h : Reached o lines b) :
    b.Sound lines ∧
      (∀ n raw text, classify b.context raw = .verbatim text → ∃ k, b.block = some k ∧
        b.step o n raw = .ok { b with
          block := some { k with captured := k.captured ++ [text] } }) ∧
      (∀ n raw guard option, classify b.context raw = .content guard (.option option) →
        ∃ c log, b.choice = some c ∧ b.step o n raw = .ok { b with
          choice := some { c with
            options := c.options ++ [{ option with condition := option.condition.or guard }] }
          log := log }) ∧
      (∀ k, b.block = some k →
        { b with block := none }.closeChoice o = .ok { b with block := none }) ∧
      ((∃ id, .node id ∈ lines) →
        (∀ n l, ∃ node, b.current = some node ∧
          b.place o n l = .ok { b with current := some (node.extend [l]) }) ∧
        ∀ n raws, Lossless b.log (conclude o n raws b)) := by
  have hsound : b.Sound lines := h.sound
  refine ⟨hsound, fun n raw text => step_verbatim, fun n raw guard option => step_option, ?_, ?_⟩
  · intro k hblock
    apply closeChoice_of_none
    rcases hsound.closed with hnone | hchoice
    · rw [hblock] at hnone
      cases hnone
    · exact hchoice
  · intro hdirective
    have hcurrent : b.current ≠ none := hsound.current.2 hdirective
    refine ⟨fun n l => ?_, fun n raws => conclude_lossless hcurrent⟩
    obtain ⟨node, hnode⟩ := Option.ne_none_iff_exists'.1 hcurrent
    exact ⟨node, hnode, place_of_current hnode l⟩

/-- In a second node, behind a choice that has an option already, the next lines can be an option and
a fence. -/
theorem sound_of_reached_pending_choice :
    let b : Builder := ⟨{}, [⟨['a'], [], some ['b']⟩], [['a'], ['b']], some { id := ['b'] },
      some ⟨5, ['q'], none, [⟨['x'], none, none⟩]⟩, none, [.dropped 1, .committed ['a'] 0]⟩
    Reached {} [.content none (.dialogue none ['d']), .node ['a'], .jump ['b'], .node ['b'],
        .content none (.prompt ['q']), .content none (.option ⟨['x'], none, none⟩)] b ∧
      b.ids = [['a'], ['b']] ∧ b.ids.Nodup ∧
      (∃ c log, b.choice = some c ∧ b.step {} 7 "[g] - y".toList = .ok { b with
        choice := some { c with options := c.options ++ [⟨['y'], some ['g'], none⟩] }
        log := log }) ∧
      ∀ n raws, drops (logged (conclude {} n raws b)) = [1] := by
  intro b
  have hreached : Reached {} [.content none (.dialogue none ['d']), .node ['a'], .jump ['b'],
      .node ['b'], .content none (.prompt ['q']),
      .content none (.option ⟨['x'], none, none⟩)] b := by
    have hdropped := Reached.empty.step 1 "> d".toList (o := {}) rfl
    have hfirst := hdropped.step 2 "@node a".toList rfl
    have hjump := hfirst.step 3 "@jump b".toList rfl
    have hsecond := hjump.step 4 "@node b".toList rfl
    have hprompt := hsecond.step 5 "? q".toList rfl
    exact hprompt.step 6 "- x".toList rfl
  obtain ⟨hsound, -, hoption, -, hcontent⟩ := sound_of_reached hreached
  have hdirective : ∃ id, SourceLine.node id ∈ ([.content none (.dialogue none ['d']), .node ['a'],
      .jump ['b'], .node ['b'], .content none (.prompt ['q']),
      .content none (.option ⟨['x'], none, none⟩)] : List SourceLine) := ⟨['a'], by simp⟩
  exact ⟨hreached, rfl, hsound.nodup_ids,
    hoption 7 "[g] - y".toList (some ['g']) ⟨['y'], none, none⟩ rfl,
    fun n raws => ((hcontent hdirective).2 n raws).drops⟩

end Builder

end DialogueScript.Source
