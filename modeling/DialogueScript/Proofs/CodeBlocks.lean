import DialogueScript.Proofs.Steps

/-!
# Code blocks are kept as they stand

From the line that opens a code block to the fence that closes it nothing is read: the lines
between them are gathered as they stand, whatever they would say elsewhere (`advance_captured`), and
become one dialogue of the current node. A choice that was waiting comes before it, and nothing else
of the builder changes (`advance_block`).
-/

namespace DialogueScript.Source

open Text

/-- The line opens a code block: a bare fence does, and a dialogue whose content ends in a fence.
The text that stands in front of that fence is the first one in the block. -/
inductive OpensBlock (pending : Bool) (raw : Text) :
    (speaker condition : Option Text) → (leading : Text) → Prop where
  | bare (h : fence <+: trim raw) : OpensBlock pending raw none none []
  | dialogue {speaker condition : Option Text} {leading : Text}
    (h : classify ⟨false, pending⟩ raw =
      .content condition (.dialogue speaker (leading ++ fence))) :
    OpensBlock pending raw speaker condition leading

/-- The lines of a block so far, when only its opening line has been read. -/
def leadingLines (leading : Text) : List Text := if trim leading = [] then [] else [trim leading]

/-- A fence is one in every state. -/
lemma classify_of_fence {raw : Text} (h : fence <+: trim raw) (c : Context) :
    classify c raw = .fence := by
  rw [classify, if_pos (List.isPrefixOf_iff_prefix.2 h)]

/-- In a code block every line that is no fence is kept as it stands. -/
lemma classify_in_block {raw : Text} (h : ¬fence <+: trim raw) {c : Context}
    (hopen : c.inCodeBlock = true) : classify c raw = .verbatim raw := by
  rw [classify, if_neg (mt List.isPrefixOf_iff_prefix.1 h), if_pos hopen]

namespace Builder

variable {o : ParseOptions} {n : ℕ} {b : Builder} {node : Node}

/-! ## With a current node nothing gets lost -/

lemma place_of_current (h : b.current = some node) (line : Line) :
    b.place o n line = .ok { b with current := some (node.extend [line]) } := by
  rw [place, h]
  rfl

lemma closeChoice_of_current (h : b.current = some node) :
    b.closeChoice o = .ok { b with choice := none, current := some (node.extend b.waiting) } := by
  obtain ⟨metadata, nodes, seen, current, choice, block, log⟩ := b
  cases h
  cases choice with
  | none =>
    rw [waiting, Option.map_none, Option.toList_none, Node.extend_nil]
    rfl
  | some c => rfl

/-! ## The lines of a block -/

lemma step_opening {raw : Text} {speaker condition : Option Text} {leading : Text}
    (hcurrent : b.current = some node) (hblock : b.block = none)
    (hopen : OpensBlock b.choice.isSome raw speaker condition leading) :
    b.step o n raw = .ok { b with
      choice := none
      current := some (node.extend b.waiting)
      block := some ⟨n, speaker, condition, leadingLines leading⟩ } := by
  have hopenBlock (captured : List Text) : b.openBlock o n speaker condition captured =
      .ok { b with
        choice := none
        current := some (node.extend b.waiting)
        block := some ⟨n, speaker, condition, captured⟩ } := by
    rw [openBlock, closeChoice_of_current hcurrent]
    rfl
  rw [step]
  cases hopen with
  | bare h =>
    rw [classify_of_fence h, handle, takeFence, hblock]
    exact hopenBlock []
  | dialogue h =>
    have hcontext : b.context = ⟨false, b.choice.isSome⟩ := by
      rw [context, hblock]
      rfl
    have hfence : before? fence (leading ++ fence) = some leading := before?_eq_some_iff.2 rfl
    rw [hcontext, h, handle, takeContent, takeDialogue, hfence]
    exact hopenBlock (leadingLines leading)

/-- Captured lines go into the open block, in order and as they stand, and nowhere else. -/
lemma advance_captured {raws : List Text} {k : CodeBlock} (hblock : b.block = some k)
    (h : ∀ raw ∈ raws, ¬fence <+: trim raw) (rest : List Text) :
    advance o n (raws ++ rest) b =
      advance o (n + raws.length) rest
        { b with block := some { k with captured := k.captured ++ raws } } := by
  induction raws generalizing n b k with
  | nil =>
    have hsame : ({ b with block := some { k with captured := k.captured ++ [] } } : Builder) =
        b := by
      rw [List.append_nil, ← hblock]
    rw [hsame]
    rfl
  | cons raw raws ih =>
    have hverbatim : classify b.context raw = .verbatim raw :=
      classify_in_block (h raw List.mem_cons_self) (by rw [context, hblock]; rfl)
    have hstep : b.step o n raw =
        .ok { b with block := some { k with captured := k.captured ++ [raw] } } := by
      rw [step, hverbatim, handle, takeVerbatim, hblock]
    rw [List.cons_append, advance, hstep]
    show advance o (n + 1) (raws ++ rest) _ = _
    rw [ih rfl fun r hr => h r (List.mem_cons_of_mem raw hr), List.length_cons,
      Nat.add_assoc, Nat.add_comm 1, List.append_assoc]
    rfl

/-- The fence behind a block puts it into the current node. -/
lemma step_closing {raw : Text} {k : CodeBlock} (hcurrent : b.current = some node)
    (hchoice : b.choice = none) (hblock : b.block = some k) (h : fence <+: trim raw) :
    b.step o n raw = .ok { b with
      block := none
      current := some (node.extend [k.toLine]) } := by
  have hnothing : ({ b with block := none } : Builder).closeChoice o =
      .ok { b with block := none } := closeChoice_of_none hchoice
  simp only [step, classify_of_fence h, handle, takeFence, hblock, hnothing]
  exact place_of_current (b := { b with block := none }) hcurrent k.toLine

/-- A code block becomes one line of the current node, behind the choice that was waiting: a fence,
the text in front of the opening fence if there is one, the captured lines as they stand, and a
fence, each on a line of its own. Whatever the captured lines look like, they change nothing else:
not while the block is open, and not when it is closed. -/
theorem advance_block {opening closing : Text} {captured : List Text}
    {speaker condition : Option Text} {leading : Text} (hcurrent : b.current = some node)
    (hblock : b.block = none) (hopen : OpensBlock b.choice.isSome opening speaker condition leading)
    (hinside : ∀ raw ∈ captured, ¬fence <+: trim raw) (hclose : fence <+: trim closing) :
    (∀ m, advance o n (opening :: captured.take m) b = .ok { b with
      choice := none
      current := some (node.extend b.waiting)
      block := some ⟨n, speaker, condition, leadingLines leading ++ captured.take m⟩ }) ∧
    advance o n (opening :: (captured ++ [closing])) b = .ok { b with
      choice := none
      current := some (node.extend (b.waiting ++
        [.dialogue speaker
          (fence ++ '\n' ::
            (['\n'].intercalate (leadingLines leading ++ captured) ++ '\n' :: fence))
          condition])) } := by
  let opened : Builder := { b with
    choice := none
    current := some (node.extend b.waiting)
    block := some ⟨n, speaker, condition, leadingLines leading⟩ }
  have hopened (rest : List Text) :
      advance o n (opening :: rest) b = advance o (n + 1) rest opened := by
    rw [advance, step_opening hcurrent hblock hopen]
    rfl
  have hblock' : opened.block = some ⟨n, speaker, condition, leadingLines leading⟩ := rfl
  constructor
  · intro m
    have htaken : ∀ raw ∈ captured.take m, ¬fence <+: trim raw := fun raw hraw =>
      hinside raw (List.mem_of_mem_take hraw)
    rw [hopened, ← List.append_nil (captured.take m), advance_captured hblock' htaken,
      List.append_nil]
    rfl
  · rw [hopened, advance_captured hblock' hinside, advance, step_closing rfl rfl rfl hclose,
      Node.extend_extend]
    rw [← hblock]
    rfl

/-- A block under a guard, with a speaker and a text in front of its fence, behind a choice that waits.
Its lines would be directives, a header, an option, an empty line and a comment elsewhere. -/
theorem advance_block_behind_choice : ∃ b, advance {} 1
      ["@node start".toList, "? q".toList, "- a".toList] {} = .ok b ∧
    advance {} 4 ("[g] > A: js \x60\x60\x60".toList ::
        (["@node x".toList, " @jump y ".toList, "# title: T".toList, "- o".toList, [],
          "// c\r".toList] ++ ["  \x60\x60\x60end".toList])) b = .ok { b with
      choice := none
      current := some ⟨startId, [.choice ['q'] [⟨['a'], none, none⟩] none,
        .dialogue (some ['A'])
          "\x60\x60\x60\njs\n@node x\n @jump y \n# title: T\n- o\n\n// c\r\n\x60\x60\x60".toList
          (some ['g'])], none⟩ } := by
  let b : Builder := {
    seen := [startId]
    current := some { id := startId }
    choice := some ⟨2, ['q'], none, [⟨['a'], none, none⟩]⟩ }
  let captured : List Text :=
    ["@node x".toList, " @jump y ".toList, "# title: T".toList, "- o".toList, [], "// c\r".toList]
  have hopen : OpensBlock true "[g] > A: js \x60\x60\x60".toList (some ['A']) (some ['g'])
      "js ".toList := .dialogue rfl
  have hinside : ∀ raw ∈ captured, ¬fence <+: trim raw := by decide
  have hclose : fence <+: trim "  \x60\x60\x60end".toList := by decide
  exact ⟨b, rfl, (advance_block (b := b) rfl rfl hopen hinside hclose).2⟩

end Builder

end DialogueScript.Source
