import DialogueScript.Proofs.Assembling
import DialogueScript.Proofs.Traces

/-!
# Where an error is found

A text is refused by a line that is faulty itself (`SourceLine.Faulty`), by content that has no node
to go to, by a code block that is still open at the end, or by the checks on the script as a whole.
The content that has no node may have been waiting for a while, so that its line is not the line at
which it is refused (`Builder.Stray`). `handle_error` and `finish_error` say which of these it is.

Together with what a builder keeps of its lines, this tells what the line of an error means
(`parse_error_located`). An error without a line comes from the checks of the graph alone: the ids
of the nodes have been compared before.
-/

namespace DialogueScript

open Text

namespace Source

/-- A builder refuses the line, with this defect, whatever the options are. -/
inductive SourceLine.Faulty (b : Builder) : SourceLine → Defect → Prop where
  | emptyNodeId : Faulty b (.node []) .emptyNodeId
  | duplicateNode {id : Text} (h : id ∈ b.seen) : Faulty b (.node id) (.duplicateNode id)
  | jumpOutsideNode {target : Text} (h : b.current = none) :
      Faulty b (.jump target) .jumpOutsideNode
  | emptyJumpTarget : Faulty b (.jump []) .emptyJumpTarget
  | malformedOption (condition : Option Text) (text : Text) :
      Faulty b (.content condition (.malformedOption text)) (.malformedOption text)
  | unknownLine (condition : Option Text) (text : Text) :
      Faulty b (.content condition (.unknown text)) (.unknownLine text)

namespace Builder

variable {o : ParseOptions} {n m : ℕ} {b b' : Builder} {halt : Halt}

/-- The error is about content without a node: content of line `m`, or a choice that waited. -/
def Stray (o : ParseOptions) (m : ℕ) (b : Builder) (e : ScriptError) : Prop :=
  o.orphanLines = .reject ∧ b.current = none ∧
    ∃ l content, e = ⟨some l, .outsideNode content⟩ ∧ (l = m ∨ ∃ c, b.choice = some c ∧ l = c.line)

/-! ## What refuses a line -/

lemma error_of_bind {α β ε : Type} {x : Except ε α} {f : α → Except ε β} {e : ε}
    (h : (x >>= f) = .error e) : x = .error e ∨ ∃ a, x = .ok a ∧ f a = .error e := by
  cases x with
  | error d =>
    cases h
    exact Or.inl rfl
  | ok a => exact Or.inr ⟨a, rfl, h⟩

lemma place_error {line : Line} (h : b.place o n line = .error halt) :
    o.orphanLines = .reject ∧ b.current = none ∧
      halt.error = ⟨some n, .outsideNode line.content⟩ := by
  unfold place at h
  split at h
  · cases h
  · rename_i hcurrent
    split at h
    · cases h
    · rename_i hreject
      cases h
      exact ⟨hreject, hcurrent, rfl⟩

/-- A choice is refused at its own line. -/
lemma closeChoice_error (h : b.closeChoice o = .error halt) :
    ∃ c, b.choice = some c ∧ Stray o c.line b halt.error := by
  unfold closeChoice at h
  split at h
  · rename_i c hchoice
    obtain ⟨hreject, hcurrent, herror⟩ := place_error h
    exact ⟨c, hchoice, hreject, hcurrent, c.line, _, herror, Or.inl rfl⟩
  · cases h

/-- A waiting choice that is refused can be told with content of any line. -/
lemma stray_of_closeChoice (m : ℕ) (h : b.closeChoice o = .error halt) :
    Stray o m b halt.error := by
  obtain ⟨c, hchoice, hreject, hcurrent, l, content, herror, hline⟩ := closeChoice_error h
  refine ⟨hreject, hcurrent, l, content, herror, Or.inr ?_⟩
  rcases hline with rfl | hwaiting
  · exact ⟨c, hchoice, rfl⟩
  · exact hwaiting

lemma close_place_error {line : Line}
    (h : (do let b ← b.closeChoice o; b.place o m line) = .error halt) :
    Stray o m b halt.error := by
  rcases error_of_bind h with hclose | ⟨b₁, hclose, hplace⟩
  · exact stray_of_closeChoice m hclose
  · obtain ⟨log, rfl⟩ := closeChoice_ok hclose
    obtain ⟨hreject, hcurrent, herror⟩ := place_error hplace
    exact ⟨hreject, Option.map_eq_none_iff.1 hcurrent, m, _, herror, Or.inl rfl⟩

/-- Nothing but the waiting choice can be refused, where the rest always succeeds. -/
lemma close_error {f : Builder → Builder}
    (h : (do let b ← b.closeChoice o; return f b) = .error halt) : Stray o n b halt.error := by
  rcases error_of_bind h with hclose | ⟨b₁, _, hrest⟩
  · exact stray_of_closeChoice n hclose
  · cases hrest

/-- A line is refused as faulty, or for content without a node. That content is the line's own, the
waiting choice, or the block that a fence has closed. -/
lemma handle_error {line : SourceLine} (h : b.handle o n line = .error halt) :
    (∃ defect, halt.error = ⟨some n, defect⟩ ∧ line.Faulty b defect) ∨
      Stray o n b halt.error ∨ ∃ k, b.block = some k ∧ Stray o k.line b halt.error := by
  cases line with
  | fence =>
    simp only [handle, takeFence] at h
    split at h
    · rename_i k hblock
      exact Or.inr (Or.inr ⟨k, hblock, close_place_error (b := { b with block := none }) h⟩)
    · exact Or.inr (Or.inl (close_error h))
  | verbatim raw => cases h
  | blank => exact Or.inr (Or.inl (stray_of_closeChoice n h))
  | comment => exact Or.inr (Or.inl (stray_of_closeChoice n h))
  | header field value => exact Or.inr (Or.inl (close_error h))
  | node id =>
    simp only [handle, takeNode] at h
    split at h
    · rename_i hid
      cases hid
      cases h
      exact Or.inl ⟨_, rfl, .emptyNodeId⟩
    · rcases error_of_bind h with hclose | ⟨b₁, hclose, hnode⟩
      · exact Or.inr (Or.inl (stray_of_closeChoice n hclose))
      · obtain ⟨log, rfl⟩ := closeChoice_ok hclose
        -- committing changes neither the ids nor the error
        obtain ⟨log', hcommit⟩ := commit_eq { b.settled with log := log }
        dsimp only at hnode
        rw [hcommit] at hnode
        split at hnode
        · rename_i hseen
          cases hnode
          exact Or.inl ⟨_, rfl, .duplicateNode hseen⟩
        · cases hnode
  | jump target =>
    simp only [handle, takeJump] at h
    split at h
    · rename_i hcurrent
      cases h
      exact Or.inl ⟨_, rfl, .jumpOutsideNode hcurrent⟩
    · split at h
      · rename_i htarget
        cases htarget
        cases h
        exact Or.inl ⟨_, rfl, .emptyJumpTarget⟩
      · cases h
  | content condition body =>
    cases body with
    | dialogue speaker content =>
      simp only [handle, takeContent, takeDialogue] at h
      split at h
      · exact Or.inr (Or.inl (close_error h))
      · exact Or.inr (Or.inl (close_place_error h))
    | command content => exact Or.inr (Or.inl (close_place_error h))
    | input name prompt => exact Or.inr (Or.inl (close_place_error h))
    | prompt content => exact Or.inr (Or.inl (close_error h))
    | option option => cases h
    | malformedOption text =>
      cases h
      exact Or.inl ⟨_, rfl, .malformedOption condition text⟩
    | unknown text =>
      cases h
      exact Or.inl ⟨_, rfl, .unknownLine condition text⟩

/-- At the end, an open block is refused, or else a waiting choice without a node. -/
lemma finish_error (h : b.finish o = .error halt) :
    (∃ k, b.block = some k ∧ halt.error = ⟨some k.line, .unterminatedCodeBlock⟩) ∨
      ∃ c, b.choice = some c ∧ Stray o c.line b halt.error := by
  unfold finish at h
  split at h
  · rename_i k hblock
    cases h
    exact Or.inl ⟨k, hblock, rfl⟩
  · rcases error_of_bind h with hclose | ⟨b₁, _, hcommit⟩
    · exact Or.inr (closeChoice_error hclose)
    · cases hcommit

/-! ## Runs that are cut or refused -/

/-- Some line of a run that is refused is the first to be refused. -/
lemma exists_of_advance_error {raws : List Text} (h : advance o n raws b = .error halt) :
    ∃ before raw behind b', raws = before ++ raw :: behind ∧ advance o n before b = .ok b' ∧
      b'.step o (n + before.length) raw = .error halt := by
  induction raws generalizing n b with
  | nil => cases h
  | cons raw rest ih =>
    rcases error_of_bind h with hstep | ⟨b₁, hstep, hrest⟩
    · exact ⟨[], raw, rest, b, rfl, rfl, hstep⟩
    · obtain ⟨before, raw', behind, b₂, rfl, hbefore, hrefused⟩ := ih hrest
      refine ⟨raw :: before, raw', behind, b₂, rfl, ?_, ?_⟩
      · rw [advance, hstep]
        exact hbefore
      · rw [List.length_cons, Nat.add_comm before.length, ← Nat.add_assoc]
        exact hrefused

lemma advance_take {raws : List Text} (h : advance o n raws b = .ok b') (m : ℕ) :
    ∃ b₁, advance o n (raws.take m) b = .ok b₁ := by
  rw [← List.take_append_drop m raws, advance_append] at h
  obtain ⟨b₁, hbefore, -⟩ := exists_of_bind_ok h
  exact ⟨b₁, hbefore⟩

end Builder

/-! ## Lines and their readings -/

lemma length_sourceLines (text : Text) : (sourceLines text).length = (lines text).length := by
  unfold sourceLines
  split
  · rename_i hlines
    rw [hlines]
  · rename_i first rest hlines
    rw [hlines]
    rfl

/-- The mark at the front of a text is no part of the lines behind the first one. -/
lemma drop_sourceLines {text : Text} {n : ℕ} (hn : 1 ≤ n) :
    (sourceLines text).drop n = (lines text).drop n := by
  obtain ⟨n, rfl⟩ := Nat.exists_eq_add_of_le' hn
  unfold sourceLines
  split
  · rename_i hlines
    rw [hlines]
  · rename_i first rest hlines
    rw [hlines]
    rfl

lemma take_sourceLines {text text' : Text} {n : ℕ}
    (h : (lines text').take n = (lines text).take n) :
    (sourceLines text').take n = (sourceLines text).take n := by
  cases n with
  | zero => rfl
  | succ n =>
    unfold sourceLines
    cases hlines : lines text with
    | nil =>
      cases hlines' : lines text' with
      | nil => rfl
      | cons first' rest' =>
        rw [hlines, hlines'] at h
        cases h
    | cons first rest =>
      cases hlines' : lines text' with
      | nil =>
        rw [hlines, hlines'] at h
        cases h
      | cons first' rest' =>
        rw [hlines, hlines', List.take_succ_cons, List.take_succ_cons] at h
        obtain ⟨rfl, hrest⟩ := List.cons.inj h
        show _ :: rest'.take n = _ :: rest.take n
        rw [hrest]

lemma readings_take (c : Context) (raws : List Text) (n : ℕ) :
    readings c (raws.take n) = (readings c raws).take n := by
  induction raws generalizing c n with
  | nil => simp [readings]
  | cons raw rest ih =>
    cases n with
    | zero => rfl
    | succ n => rw [List.take_succ_cons, readings, readings, List.take_succ_cons, ih]

lemma exists_readings_drop (c : Context) (raws : List Text) (n : ℕ) :
    ∃ c', (readings c raws).drop n = readings c' (raws.drop n) := by
  induction raws generalizing c n with
  | nil => exact ⟨c, by simp [readings]⟩
  | cons raw rest ih =>
    cases n with
    | zero => exact ⟨c, rfl⟩
    | succ n =>
      obtain ⟨c', hdrop⟩ := ih (c.after (classify c raw)) n
      exact ⟨c', hdrop⟩

/-- A captured line does not begin with a fence. -/
lemma not_fence_of_verbatim {c : Context} {raw captured : Text}
    (h : classify c raw = .verbatim captured) : ¬fence <+: trim raw := by
  intro hfence
  rw [classify, if_pos (List.isPrefixOf_iff_prefix.2 hfence)] at h
  cases h

lemma not_fence_of_captured {c : Context} {raws : List Text}
    (h : ∀ r ∈ readings c raws, ∃ raw, r.line = .verbatim raw) :
    ∀ raw ∈ raws, ¬fence <+: trim raw := by
  induction raws generalizing c with
  | nil => simp
  | cons raw rest ih =>
    intro t ht
    rcases List.mem_cons.1 ht with rfl | ht
    · obtain ⟨captured, hline⟩ := h _ List.mem_cons_self
      exact not_fence_of_verbatim hline
    · exact ih (fun r hr => h r (List.mem_cons_of_mem _ hr)) t ht

/-! ## What the line of an error means -/

/-- The ids of the node directives before line `n`. -/
def directivesBefore (text : Text) (n : ℕ) : List Text :=
  directives (readings {} ((sourceLines text).take (n - 1)))

/-- Nothing behind line `n` matters to its defect. -/
def Decided (o : ParseOptions) (text : Text) (n : ℕ) (defect : Defect) : Prop :=
  ∀ text', (lines text').take n = (lines text).take n → parse o text' = .error ⟨some n, defect⟩

/-- What a defect that is found on line `n` means for the text. -/
def Explained (o : ParseOptions) (text : Text) (n : ℕ) : Defect → Prop
  | .duplicateNode id => Decided o text n (.duplicateNode id) ∧ id ∈ directivesBefore text n
  | .jumpOutsideNode => Decided o text n .jumpOutsideNode ∧ directivesBefore text n = []
  | .outsideNode _ => o.orphanLines = .reject ∧ directivesBefore text n = []
  | .unterminatedCodeBlock =>
    (∃ r, (readings {} (sourceLines text))[n - 1]? = some r ∧ r.Opens) ∧
      ∀ raw ∈ (lines text).drop n, ¬fence <+: trim raw
  | .missingStart => False
  | .danglingReferences _ => False
  | defect => Decided o text n defect

/-- Line `n` is a line of the text, the lines before it have been taken in, and the defect is one
that a line can have. -/
structure Located (o : ParseOptions) (text : Text) (n : ℕ) (defect : Defect) : Prop where
  one_le : 1 ≤ n
  le_length : n ≤ (lines text).length
  handled : ∃ b, Builder.advance o 1 ((sourceLines text).take (n - 1)) {} = .ok b
  explained : Explained o text n defect

section Located

open Builder

variable {o : ParseOptions} {text : Text} {b : Builder} {halt : Halt} {e : ScriptError}

/-- No directive stands before a line of a text that has no directive so far. -/
lemma directivesBefore_eq_nil {before behind : List Text} {n : ℕ}
    (hsplit : sourceLines text = before ++ behind) (hn : n ≤ before.length + 1)
    (h : directives (readings {} before) = []) : directivesBefore text n = [] := by
  have htake : (before ++ behind).take (n - 1) = before.take (n - 1) :=
    List.take_append_of_le_length (by omega)
  rw [directivesBefore, hsplit, htake, readings_take]
  have hsub : (directives ((readings {} before).take (n - 1))).Sublist
      (directives (readings {} before)) := (List.take_sublist _ _).filterMap _
  rw [h] at hsub
  exact List.sublist_nil.1 hsub

/-- The lines before one that has been reached have been taken in. -/
lemma handled_of_le {before behind : List Text} {n : ℕ}
    (hsplit : sourceLines text = before ++ behind) (hbefore : advance o 1 before {} = .ok b)
    (hn : n ≤ before.length + 1) :
    ∃ b', advance o 1 ((sourceLines text).take (n - 1)) {} = .ok b' := by
  rw [hsplit, List.take_append_of_le_length (by omega)]
  exact advance_take hbefore (n - 1)

/-- Content without a node is found on a line that has been reached, before any directive. -/
lemma located_of_stray {before behind : List Text} {m : ℕ}
    (hsplit : sourceLines text = before ++ behind) (hbefore : advance o 1 before {} = .ok b)
    (hone : 1 ≤ m) (hm : m ≤ before.length + 1) (hlength : m ≤ (sourceLines text).length)
    (h : Stray o m b e) : ∃ n, e.line = some n ∧ Located o text n e.defect := by
  have htraces := traces_advance hbefore
  obtain ⟨hreject, hcurrent, l, content, rfl, hline⟩ := h
  have hnone : directives (readings {} before) = [] := by
    rw [← htraces.seen]
    exact htraces.outside hcurrent
  have hrange : 1 ≤ l ∧ l ≤ before.length + 1 ∧ l ≤ (sourceLines text).length := by
    rcases hline with rfl | ⟨c, hchoice, rfl⟩
    · exact ⟨hone, hm, hlength⟩
    · obtain ⟨hc, hc'⟩ := htraces.choice c hchoice
      rw [length_readings] at hc'
      have hle : before.length ≤ (sourceLines text).length := by
        rw [hsplit, List.length_append]
        omega
      omega
  obtain ⟨hl, hle, hlelength⟩ := hrange
  refine ⟨l, rfl, hl, ?_, handled_of_le hsplit hbefore hle, hreject, ?_⟩
  · rwa [← length_sourceLines]
  · exact directivesBefore_eq_nil hsplit hle hnone

/-- The run over the first lines decides, if it fails. -/
lemma decided_of_step_error {before behind : List Text} {raw : Text} {defect : Defect}
    (hsplit : sourceLines text = before ++ raw :: behind) (hbefore : advance o 1 before {} = .ok b)
    (hstep : b.step o (before.length + 1) raw = .error halt)
    (herror : halt.error = ⟨some (before.length + 1), defect⟩) :
    Decided o text (before.length + 1) defect := by
  intro text' hsame
  have htake : (sourceLines text').take (before.length + 1) = before ++ [raw] := by
    rw [take_sourceLines hsame, hsplit, List.take_append, List.take_of_length_le (by omega)]
    simp
  have hfails : advance o 1 (before ++ [raw]) {} = .error halt := by
    rw [advance_append, hbefore]
    show (b.step o (1 + before.length) raw >>= fun b => advance o _ [] b) = _
    rw [Nat.add_comm, hstep]
    rfl
  have hall : advance o 1 (sourceLines text') {} = .error halt := by
    rw [← List.take_append_drop (before.length + 1) (sourceLines text'), advance_append, htake,
      hfails]
    rfl
  rw [parse, parseLogged, pass, hall]
  show Except.error halt.error = _
  rw [herror]

/-- An error of the pass over the lines. -/
lemma located_of_advance_error (h : advance o 1 (sourceLines text) {} = .error halt) :
    ∃ n, halt.error.line = some n ∧ Located o text n halt.error.defect := by
  obtain ⟨before, raw, behind, b, hsplit, hbefore, hstep⟩ := exists_of_advance_error h
  rw [Nat.add_comm] at hstep
  have htraces := traces_advance hbefore
  have hlength : before.length + 1 ≤ (sourceLines text).length := by
    rw [hsplit, List.length_append, List.length_cons]
    omega
  rcases handle_error hstep with ⟨defect, herror, hfaulty⟩ | hstray | ⟨k, hblock, hstray⟩
  · -- a faulty line: the directives before it are the ids that the builder has seen
    have hdecided := decided_of_step_error hsplit hbefore hstep herror
    have htake : (sourceLines text).take (before.length + 1 - 1) = before := by
      rw [hsplit, Nat.add_sub_cancel, List.take_left]
    have hdirectives : directivesBefore text (before.length + 1) = b.seen := by
      rw [directivesBefore, htake, htraces.seen]
    rw [herror]
    refine ⟨before.length + 1, rfl, Nat.le_add_left 1 _, ?_, ?_, ?_⟩
    · rwa [← length_sourceLines]
    · exact handled_of_le hsplit hbefore (Nat.le_refl _)
    · generalize classify b.context raw = line at hfaulty
      cases hfaulty with
      | emptyNodeId => exact hdecided
      | duplicateNode hseen =>
        rw [← hdirectives] at hseen
        exact ⟨hdecided, hseen⟩
      | jumpOutsideNode hcurrent => exact ⟨hdecided, hdirectives.trans (htraces.outside hcurrent)⟩
      | emptyJumpTarget => exact hdecided
      | malformedOption condition text => exact hdecided
      | unknownLine condition text => exact hdecided
  · exact located_of_stray hsplit hbefore (Nat.le_add_left 1 _) (Nat.le_refl _) hlength hstray
  · -- the block began before the fence that closes it
    obtain ⟨front, r, inside, hreadings, hline, -⟩ := htraces.block k hblock
    have hfront : before.length = front.length + (inside.length + 1) := by
      rw [← length_readings {} before, hreadings, List.length_append, List.length_cons]
    exact located_of_stray hsplit hbefore (by omega) (by omega) (by omega) hstray

/-- An error at the end of the text. -/
lemma located_of_finish_error (hadvance : advance o 1 (sourceLines text) {} = .ok b)
    (h : b.finish o = .error halt) :
    ∃ n, halt.error.line = some n ∧ Located o text n halt.error.defect := by
  have htraces := traces_advance hadvance
  have hsplit : sourceLines text = sourceLines text ++ [] := (List.append_nil _).symm
  rcases finish_error h with ⟨k, hblock, herror⟩ | ⟨c, hchoice, hstray⟩
  · obtain ⟨front, r, inside, hreadings, hline, hopens, hinside⟩ := htraces.block k hblock
    have hlength : (sourceLines text).length = front.length + (inside.length + 1) := by
      rw [← length_readings {} (sourceLines text), hreadings, List.length_append, List.length_cons]
    -- the lines behind the opening line are those that the block has captured
    have hbehind : (readings {} (sourceLines text)).drop k.line = inside := by
      rw [hreadings, hline, List.drop_append, List.drop_of_length_le (Nat.le_succ _)]
      simp
    obtain ⟨c', hdrop⟩ := exists_readings_drop {} (sourceLines text) k.line
    rw [herror]
    refine ⟨k.line, rfl, by omega, ?_, ?_, ⟨r, ?_, hopens⟩, ?_⟩
    · rw [← length_sourceLines]
      omega
    · exact handled_of_le hsplit hadvance (by omega)
    · rw [hreadings, hline, Nat.add_sub_cancel, List.getElem?_append_right (Nat.le_refl _),
        Nat.sub_self]
      rfl
    · rw [← drop_sourceLines (by omega)]
      apply not_fence_of_captured (c := c')
      rw [← hdrop, hbehind]
      exact hinside
  · obtain ⟨hone, hle⟩ := htraces.choice c hchoice
    rw [length_readings] at hle
    exact located_of_stray hsplit hadvance hone (by omega) hle hstray

end Located

end Source

/-! ## Errors without a line -/

namespace Script

/-- Where no id repeats, the checks find nothing but a fault of the graph. -/
lemma assemble_error_of_nodup {metadata : Metadata} {nodes : List Node} {defect : Defect}
    (hnodup : (nodes.map Node.id).Nodup) (h : assemble metadata nodes = .error defect) :
    defect = .missingStart ∨ ∃ edges, defect = .danglingReferences edges := by
  have hrefused := assemble_eq_error_iff.1 h
  cases defect with
  | duplicateNode id => exact absurd hnodup (not_nodup_of_firstRepeat hrefused)
  | missingStart => exact Or.inl rfl
  | danglingReferences edges => exact Or.inr ⟨edges, rfl⟩
  | _ => exact hrefused.elim

end Script

namespace Source

/-- A text is refused while its lines are taken in, at its end, or as a whole. -/
lemma parse_error_cases {o : ParseOptions} {text : Text} {e : ScriptError}
    (h : parse o text = .error e) :
    (∃ halt, Builder.advance o 1 (sourceLines text) {} = .error halt ∧ e = halt.error) ∨
      ∃ b, Builder.advance o 1 (sourceLines text) {} = .ok b ∧
        ((∃ halt, b.finish o = .error halt ∧ e = halt.error) ∨
          ∃ b' defect, b.finish o = .ok b' ∧
            Script.assemble b'.metadata b'.nodes = .error defect ∧ e = ⟨none, defect⟩) := by
  have hpass : pass o text =
      (do let b ← Builder.advance o 1 (sourceLines text) {}; b.finish o) := rfl
  rw [parse, parseLogged] at h
  split at h
  · rename_i halt hhalt
    cases h
    rw [hpass] at hhalt
    rcases Builder.error_of_bind hhalt with hadvance | ⟨b, hadvance, hfinish⟩
    · exact Or.inl ⟨halt, hadvance, rfl⟩
    · exact Or.inr ⟨b, hadvance, Or.inl ⟨halt, hfinish, rfl⟩⟩
  · rename_i b' hok
    rw [hpass] at hok
    obtain ⟨b, hadvance, hfinish⟩ := Builder.exists_of_bind_ok hok
    split at h
    · rename_i defect hdefect
      cases h
      exact Or.inr ⟨b, hadvance, Or.inr ⟨b', defect, hfinish, hdefect, rfl⟩⟩
    · cases h

/-- An error with a line is located at a line that exists, that has been reached, and that explains
it. An error without one comes after every line has been taken in, and is about the graph. -/
theorem parse_error_located {o : ParseOptions} {text : Text} {e : ScriptError}
    (h : parse o text = .error e) :
    (∀ n, e.line = some n → Located o text n e.defect) ∧
      (e.line = none → (∃ b, Builder.advance o 1 (sourceLines text) {} = .ok b) ∧
        (e.defect = .missingStart ∨ ∃ edges, e.defect = .danglingReferences edges)) := by
  have hlocated (hex : ∃ n, e.line = some n ∧ Located o text n e.defect) :
      (∀ n, e.line = some n → Located o text n e.defect) ∧
        (e.line = none → (∃ b, Builder.advance o 1 (sourceLines text) {} = .ok b) ∧
          (e.defect = .missingStart ∨ ∃ edges, e.defect = .danglingReferences edges)) := by
    obtain ⟨n, hline, hn⟩ := hex
    rw [hline]
    constructor
    · intro m hm
      cases hm
      exact hn
    · intro hnone
      cases hnone
  rcases parse_error_cases h with ⟨halt, hadvance, rfl⟩ | ⟨b, hadvance, hend⟩
  · exact hlocated (located_of_advance_error hadvance)
  · rcases hend with ⟨halt, hfinish, rfl⟩ | ⟨b', defect, hfinish, hdefect, rfl⟩
    · exact hlocated (located_of_finish_error hadvance hfinish)
    · -- the ids are those that the builder has compared
      obtain ⟨-, log, rfl⟩ := Builder.finish_ok hfinish
      have htraces := Builder.traces_advance hadvance
      have hids : (b.settled.committed.nodes).map Node.id = b.ids := by
        rw [Builder.ids, ← Builder.map_id_settled]
        show (b.nodes ++ b.settled.current.toList).map Node.id = _
        cases b.settled.current <;> simp
      have hnodup : (b.settled.committed.nodes.map Node.id).Nodup := by
        rw [hids, htraces.ids]
        exact htraces.nodup
      refine ⟨fun n hn => (by cases hn), fun _ => ⟨⟨b, hadvance⟩, ?_⟩⟩
      exact Script.assemble_error_of_nodup hnodup hdefect

/-- A block that is never closed is found where it begins, and a choice without a node where its
prompt stands, although it is refused at the blank line behind its option. -/
theorem parse_error_located_of_open_block :
    (parse {} "@node start\n> A: \x60\x60\x60\n@node start".toList =
        .error ⟨some 2, .unterminatedCodeBlock⟩ ∧
      Located {} "@node start\n> A: \x60\x60\x60\n@node start".toList 2 .unterminatedCodeBlock) ∧
    parse { orphanLines := .reject } "// c\n? q\n- a\n\n@node start".toList =
        .error ⟨some 2, .outsideNode ['q']⟩ ∧
      Located { orphanLines := .reject } "// c\n? q\n- a\n\n@node start".toList 2
        (.outsideNode ['q']) := by
  have hblock : parse {} "@node start\n> A: \x60\x60\x60\n@node start".toList =
      .error ⟨some 2, .unterminatedCodeBlock⟩ := rfl
  have hchoice : parse { orphanLines := .reject } "// c\n? q\n- a\n\n@node start".toList =
      .error ⟨some 2, .outsideNode ['q']⟩ := rfl
  exact ⟨⟨hblock, (parse_error_located hblock).1 2 rfl⟩,
    hchoice, (parse_error_located hchoice).1 2 rfl⟩

end Source

end DialogueScript
