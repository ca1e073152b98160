import DialogueScript.Proofs.Traces

/-!
# Stray content

Content outside of a node is dropped or refused, as the options ask. A choice or a code block may
have been open for a while by then, and the line that closes it may have a defect of its own, so
that the line that says what happens is not always the line of the content.

Here the pass that drops and the pass that refuses are run side by side. They agree (`Agrees`):
until something is dropped they are the same, and what is dropped first is refused by the other
pass, at its line and with its content. What the content of an open choice or block will be is read
off the lines to come (`Builder.Awaits`), as in the sections of a source. So refusing is ignoring
with the first warning made an error (`rejecting_eq_ignoring_or_first_drop`).
-/

namespace DialogueScript.Source

open Text

/-- The options by which content outside of a node is dropped. -/
def ignoring (prompt : Text) : ParseOptions := ⟨prompt, .ignore⟩

/-- The options by which content outside of a node is refused. -/
def rejecting (prompt : Text) : ParseOptions := ⟨prompt, .reject⟩

/-- The line whose content was dropped, if the record says so. -/
def LogRecord.dropped? : LogRecord → Option ℕ
  | .dropped line => some line
  | _ => none

/-- The lines whose content was dropped, in the order of the records. -/
def drops (log : List LogRecord) : List ℕ := log.filterMap LogRecord.dropped?

/-- Line `n` of the text begins a line with this content, for which there may or may not be a
node. -/
def ContentAt (o : ParseOptions) (text : Text) (n : ℕ) (content : Text) : Prop :=
  ∃ front r rest l, readings {} (sourceLines text) = front ++ r :: rest ∧ n = front.length + 1 ∧
    lineAt? o r rest = some l ∧ l.content = content

/-- The log of a part of a pass. -/
def Builder.logged : Except Halt Builder → List LogRecord
  | .ok b => b.log
  | .error halt => halt.log

lemma drops_append (log log' : List LogRecord) : drops (log ++ log') = drops log ++ drops log' :=
  List.filterMap_append

/-- What comes of a part of the pass, behind the records `log`, if stray content is ignored (`x`),
and if it is refused (`y`): the same, if nothing is dropped, or else the error of what is dropped
first. Which content begins at a line is for `P` to say. -/
inductive Agrees (P : ℕ → Text → Prop) (log : List LogRecord) :
    (x y : Except Halt Builder) → Prop where
  | same {x : Except Halt Builder} (hdrops : drops (Builder.logged x) = drops log) :
      Agrees P log x x
  | refused {x : Except Halt Builder} {halt : Halt} {n : ℕ} {content : Text} {later : List ℕ}
      (hdrops : drops (Builder.logged x) = drops log ++ n :: later)
      (herror : halt.error = ⟨some n, .outsideNode content⟩) (hcontent : P n content) :
      Agrees P log x (.error halt)

section Agrees

variable {P : ℕ → Text → Prop} {log log' : List LogRecord} {x y : Except Halt Builder}

lemma Agrees.extends_drops (h : Agrees P log x y) : drops log <+: drops (Builder.logged x) := by
  cases h with
  | same hdrops => exact ⟨[], by rw [hdrops, List.append_nil]⟩
  | refused hdrops _ _ => exact ⟨_, hdrops.symm⟩

/-- Records of other events in front make no difference. -/
lemma Agrees.of_drops (h : Agrees P log x y) (hlog : drops log = drops log') :
    Agrees P log' x y := by
  cases h with
  | same hdrops => exact .same (hdrops.trans hlog)
  | refused hdrops herror hcontent => exact .refused (hlog ▸ hdrops) herror hcontent

lemma Agrees.bind {f g : Builder → Except Halt Builder} (h : Agrees P log x y)
    (hf : ∀ b, x = .ok b → Agrees P b.log (f b) (g b)) : Agrees P log (x >>= f) (y >>= g) := by
  cases h with
  | same hdrops =>
    cases x with
    | error halt => exact .same hdrops
    | ok b => exact (hf b rfl).of_drops hdrops
  | @refused halt n content later hdrops herror hcontent =>
    cases x with
    | error halt => exact .refused hdrops herror hcontent
    | ok b =>
      -- what follows in the pass that ignores can only drop more
      obtain ⟨more, hmore⟩ := (hf b rfl).extends_drops
      have hb : drops b.log = drops log ++ n :: later := hdrops
      rw [hb, List.append_assoc, List.cons_append] at hmore
      exact .refused hmore.symm herror hcontent

end Agrees

namespace Builder

variable {P : ℕ → Text → Prop} {prompt : Text} {o : ParseOptions} {n : ℕ} {b : Builder}
  {line : SourceLine} {rest : List Reading}

/-! ## What is open -/

/-- What is still open has the content that `P` knows of, if the text goes on with `rest`. -/
structure Awaits (P : ℕ → Text → Prop) (rest : List Reading) (b : Builder) : Prop where
  choice : ∀ c, b.choice = some c → P c.line c.content
  block : ∀ k, b.block = some k → P k.line (fenced (k.captured ++ capturedOf rest))

lemma awaits_empty (P : ℕ → Text → Prop) (rest : List Reading) : Awaits P rest {} where
  choice := fun c h => by cases h
  block := fun k h => by cases h

/-- A line keeps the content of what is open known, if its own content is known. -/
lemma Awaits.effect (h : b.Awaits P (⟨b.context, line⟩ :: rest)) (hfits : line.Fits b.context)
    (hline : ∀ l, lineAt? o ⟨b.context, line⟩ rest = some l → P n l.content) :
    (b.effect o n line).Awaits P rest where
  choice c hc := by
    rcases choice_effect hc with ⟨hn, condition, rfl⟩ | ⟨c', hc', hn, hcontent⟩
    · rw [hn]
      exact hline _ rfl
    · rw [← hn, ← hcontent]
      exact h.choice c' hc'
  block k hk := by
    cases hopen : b.block with
    | none =>
      obtain ⟨hn, hbegins⟩ := opened_effect hopen hk
      rw [hn]
      exact hline _ (hbegins rest)
    | some k' =>
      obtain ⟨raw, rfl, rfl⟩ := kept_effect hfits hopen hk
      have hcaptured : capturedOf (⟨b.context, .verbatim raw⟩ :: rest) = raw :: capturedOf rest :=
        rfl
      have hknown := h.block k' hopen
      rwa [hcaptured, List.append_cons] at hknown

/-! ## One line -/

lemma drops_commit (b : Builder) : drops b.commit.log = drops b.log := by
  unfold commit
  split
  · exact (drops_append b.log _).trans (List.append_nil _)
  · rfl

lemma drops_takeOption (guard : Option Text) (option : ChoiceOption) :
    drops (b.takeOption n guard option).log = drops b.log := by
  obtain ⟨text, condition, target⟩ := option
  obtain ⟨metadata, nodes, seen, current, choice, block, log⟩ := b
  cases choice <;> cases guard <;> cases condition <;>
    simp [takeOption, note, drops, LogRecord.dropped?]

lemma place_agrees {l : Line} (h : P n l.content) :
    Agrees P b.log (b.place (ignoring prompt) n l) (b.place (rejecting prompt) n l) := by
  unfold place
  cases b.current with
  | some node => exact .same rfl
  | none => exact .refused (drops_append b.log [.dropped n]) rfl h

lemma closeChoice_agrees (h : ∀ c, b.choice = some c → P c.line c.content) :
    Agrees P b.log (b.closeChoice (ignoring prompt)) (b.closeChoice (rejecting prompt)) := by
  unfold closeChoice
  cases hchoice : b.choice with
  | none => exact .same rfl
  | some c => exact place_agrees (b := { b with choice := none }) (l := c.toLine) (h c hchoice)

/-- What follows on the waiting choice is the same in both passes, if it drops nothing. -/
lemma close_agrees {f : Builder → Except Halt Builder}
    (h : ∀ c, b.choice = some c → P c.line c.content)
    (hf : ∀ b, drops (logged (f b)) = drops b.log) :
    Agrees P b.log (do let b ← b.closeChoice (ignoring prompt); f b)
      (do let b ← b.closeChoice (rejecting prompt); f b) :=
  (closeChoice_agrees h).bind fun b _ => .same (hf b)

lemma close_place_agrees {l : Line} (h : ∀ c, b.choice = some c → P c.line c.content)
    (hl : P n l.content) :
    Agrees P b.log (do let b ← b.closeChoice (ignoring prompt); b.place (ignoring prompt) n l)
      (do let b ← b.closeChoice (rejecting prompt); b.place (rejecting prompt) n l) :=
  (closeChoice_agrees h).bind fun _ _ => place_agrees hl

lemma takeNode_agrees {id : Text} (h : ∀ c, b.choice = some c → P c.line c.content) :
    Agrees P b.log (b.takeNode (ignoring prompt) n id) (b.takeNode (rejecting prompt) n id) := by
  unfold takeNode
  split
  · exact .same rfl
  · refine close_agrees h fun b => ?_
    dsimp only
    split <;> exact drops_commit b

lemma takeDialogue_agrees {condition speaker : Option Text} {content : Text}
    (h : ∀ c, b.choice = some c → P c.line c.content)
    (hl : before? fence content = none → P n content) :
    Agrees P b.log (b.takeDialogue (ignoring prompt) n condition speaker content)
      (b.takeDialogue (rejecting prompt) n condition speaker content) := by
  unfold takeDialogue
  split
  · exact close_agrees h fun _ => rfl
  · rename_i hfence
    exact close_place_agrees h (hl hfence)

lemma takeContent_agrees {condition : Option Text} {body : Body}
    (h : b.Awaits P (⟨b.context, .content condition body⟩ :: rest))
    (hline : ∀ l, lineAt? (ignoring prompt) ⟨b.context, .content condition body⟩ rest = some l →
      P n l.content) :
    Agrees P b.log (b.takeContent (ignoring prompt) n condition body)
      (b.takeContent (rejecting prompt) n condition body) := by
  cases body with
  | dialogue speaker content =>
    refine takeDialogue_agrees h.choice fun hfence => ?_
    exact hline (.dialogue speaker content condition) (by simp [lineAt?, hfence])
  | command content => exact close_place_agrees h.choice (hline _ rfl)
  | input name prompt => exact close_place_agrees h.choice (hline _ rfl)
  | prompt content => exact close_agrees h.choice fun _ => rfl
  | option option => exact .same (drops_takeOption condition option)
  | malformedOption text => exact .same rfl
  | unknown text => exact .same rfl

/-- A line at which something is dropped is refused by the other pass, for what is dropped first. -/
lemma handle_agrees (h : b.Awaits P (⟨b.context, line⟩ :: rest))
    (hline : ∀ l, lineAt? (ignoring prompt) ⟨b.context, line⟩ rest = some l → P n l.content) :
    Agrees P b.log (b.handle (ignoring prompt) n line) (b.handle (rejecting prompt) n line) := by
  cases line with
  | fence =>
    unfold handle takeFence
    cases hblock : b.block with
    | none => exact close_agrees h.choice fun _ => rfl
    | some k =>
      -- the fence ends the captured lines
      have hclosed := h.block k hblock
      rw [show capturedOf (⟨b.context, .fence⟩ :: rest) = [] from rfl, List.append_nil] at hclosed
      exact close_place_agrees (b := { b with block := none }) (l := k.toLine) h.choice hclosed
  | verbatim raw =>
    refine .same ?_
    show drops (b.takeVerbatim raw).log = drops b.log
    unfold takeVerbatim
    split <;> rfl
  | blank => exact closeChoice_agrees h.choice
  | comment => exact closeChoice_agrees h.choice
  | header field value => exact close_agrees h.choice fun _ => rfl
  | node id => exact takeNode_agrees h.choice
  | jump target =>
    refine .same ?_
    show drops (logged (b.takeJump n target)) = drops b.log
    unfold takeJump
    split
    · rfl
    · split <;> rfl
  | content condition body => exact takeContent_agrees h hline

/-! ## Runs -/

lemma finish_agrees (h : ∀ c, b.choice = some c → P c.line c.content) :
    Agrees P b.log (b.finish (ignoring prompt)) (b.finish (rejecting prompt)) := by
  unfold finish
  split
  · exact .same rfl
  · exact close_agrees h drops_commit

/-- The two passes agree over lines whose content is known. -/
lemma run_agrees {raws : List Text} (hsteady : b.Steady) (h : b.Awaits P (readings b.context raws))
    (hlines : ∀ front r rest l, readings b.context raws = front ++ r :: rest →
      lineAt? (ignoring prompt) r rest = some l → P (n + front.length) l.content) :
    Agrees P b.log (advance (ignoring prompt) n raws b >>= finish (ignoring prompt))
      (advance (rejecting prompt) n raws b >>= finish (rejecting prompt)) := by
  induction raws generalizing n b with
  | nil => exact finish_agrees h.choice
  | cons raw raws ih =>
    rw [advance, advance, bind_assoc, bind_assoc]
    refine (handle_agrees h (hlines [] _ _ · rfl)).bind fun b' hstep => ?_
    obtain ⟨hsteady', hcontext, -⟩ := step_ok hsteady hstep
    obtain ⟨-, log, rfl⟩ := handle_ok hstep
    have hawaits := h.effect (classify_fits b.context raw) (hlines [] _ _ · rfl)
    refine ih hsteady' ?_ fun front r rest l hsplit hl => ?_
    · rw [hcontext]
      exact ⟨hawaits.choice, hawaits.block⟩
    · rw [hcontext] at hsplit
      have hfront := hlines (_ :: front) r rest l (congrArg (List.cons _) hsplit) hl
      rwa [List.length_cons, Nat.add_comm front.length, ← Nat.add_assoc] at hfront

end Builder

/-- The pass that refuses stray content ends where the pass that ignores it first drops some. -/
theorem pass_agrees (prompt text : Text) :
    Agrees (ContentAt (ignoring prompt) text) [] (pass (ignoring prompt) text)
      (pass (rejecting prompt) text) := by
  refine Builder.run_agrees (b := {}) (fun _ => rfl) (Builder.awaits_empty _ _) ?_
  intro front r rest l hsplit hl
  exact ⟨front, r, rest, l, hsplit, Nat.add_comm 1 _, hl, rfl⟩

lemma drops_parseLogged (o : ParseOptions) (text : Text) :
    drops (parseLogged o text).log = drops (Builder.logged (pass o text)) := by
  unfold parseLogged
  split
  · rename_i halt hpass
    rw [hpass]
    rfl
  · rename_i b hpass
    rw [hpass]
    split
    · rfl
    · exact (drops_append b.log _).trans (List.append_nil _)

/-- Where nothing is dropped, refusing stray content is the same as ignoring it; where something is,
it ends with the first of it. So a script that is accepted has lost nothing. -/
theorem rejecting_eq_ignoring_or_first_drop (prompt text : Text) :
    (drops (parseLogged (ignoring prompt) text).log = [] →
      parseLogged (rejecting prompt) text = parseLogged (ignoring prompt) text) ∧
    (∀ n, (drops (parseLogged (ignoring prompt) text).log).head? = some n →
      ∃ content, ContentAt (ignoring prompt) text n content ∧
        parse (rejecting prompt) text = .error ⟨some n, .outsideNode content⟩) ∧
    ∀ s, parse (rejecting prompt) text = .ok s → parse (ignoring prompt) text = .ok s := by
  have hagrees := pass_agrees prompt text
  rw [drops_parseLogged]
  generalize hignoring : pass (ignoring prompt) text = x at hagrees ⊢
  generalize hrejecting : pass (rejecting prompt) text = y at hagrees
  cases hagrees with
  | same hdrops =>
    have hsame : parseLogged (rejecting prompt) text = parseLogged (ignoring prompt) text := by
      unfold parseLogged
      rw [hrejecting, hignoring]
    refine ⟨fun _ => hsame, fun n hn => ?_, fun s hs => ?_⟩
    · rw [hdrops] at hn
      cases hn
    · rwa [parse, ← hsame]
  | @refused halt n content later hdrops herror hcontent =>
    have hrefused : parse (rejecting prompt) text = .error ⟨some n, .outsideNode content⟩ := by
      rw [parse, parseLogged, hrejecting, ← herror]
    refine ⟨fun hnone => ?_, fun n' hn => ?_, fun s hs => ?_⟩
    · rw [hdrops] at hnone
      cases hnone
    · rw [hdrops] at hn
      cases hn
      exact ⟨content, hcontent, hrefused⟩
    · rw [hrefused] at hs
      cases hs

/-- The choice is refused first, although the lines behind it have a defect of their own; but a jump
that does not close the choice is refused before it, in both ways alike. -/
theorem rejecting_eq_first_drop_of_waiting_choice :
    parse (ignoring []) "? q\n> x\n@node start\n@node start".toList =
        .error ⟨some 4, .duplicateNode "start".toList⟩ ∧
      (∃ content, ContentAt (ignoring []) "? q\n> x\n@node start\n@node start".toList 1 content ∧
        parse (rejecting []) "? q\n> x\n@node start\n@node start".toList =
          .error ⟨some 1, .outsideNode content⟩) ∧
      parseLogged (rejecting []) "? q\n@jump x".toList =
        parseLogged (ignoring []) "? q\n@jump x".toList :=
  ⟨rfl, (rejecting_eq_ignoring_or_first_drop _ _).2.1 1 rfl,
    (rejecting_eq_ignoring_or_first_drop _ _).1 rfl⟩

end DialogueScript.Source
