import DialogueScript.Script.Assembly
import DialogueScript.Source.Line

/-!
# The line pass

A `Builder` is what is known after some lines of a source: the header, the finished nodes, the
node being filled, and a choice or a code block that is still open. `Builder.step` takes in one
physical line, `Builder.finish` closes what is open at the end of the text.

Content before the first node has no place to go. It is dropped with a record in the log, or
refused, as the options ask. A refused line halts the pass with the log written so far.
-/

namespace DialogueScript.Source

open Text

/-- What becomes of content before the first node. -/
inductive OrphanLines where
  | ignore
  | reject
deriving DecidableEq

/-- How a source is read. -/
structure ParseOptions where
  /-- The prompt of an input line without text, where `{var}` stands for the variable. -/
  inputPrompt : Text := "Enter \x7bvar\x7d:".toList
  orphanLines : OrphanLines := .ignore
deriving DecidableEq

/-- An event worth telling about a pass. -/
inductive LogRecord where
  | committed (id : Text) (lines : Nat)
  | parsed (nodes : Nat)
  | dropped (line : Nat)
  | overridden (line : Nat) (condition guard : Text)
deriving DecidableEq

/-- The wording of a record, with its level. -/
def LogRecord.message : LogRecord → Text
  | .committed id lines =>
    "DEBUG: node ".toList ++ id ++ " committed with ".toList ++ Text.ofNat lines ++ " lines".toList
  | .parsed nodes => "DEBUG: parsed script with ".toList ++ Text.ofNat nodes ++ " nodes".toList
  | .dropped line =>
    "WARN: line ".toList ++ Text.ofNat line ++ ": dropping content outside of a node".toList
  | .overridden line condition guard =>
    "WARN: line ".toList ++ Text.ofNat line ++ ": option condition [".toList ++ condition ++
      "] overrides line guard [".toList ++ guard ++ "]".toList

/-- A choice that may still get options. -/
structure PendingChoice where
  line : Nat
  content : Text
  condition : Option Text
  options : List ChoiceOption
deriving DecidableEq

/-- The choice as a line of its node. -/
def PendingChoice.toLine (c : PendingChoice) : Line := .choice c.content c.options c.condition

/-- A code block that is not closed yet. -/
structure CodeBlock where
  line : Nat
  speaker : Option Text
  condition : Option Text
  captured : List Text
deriving DecidableEq

/-- The block as a line of its node. -/
def CodeBlock.toLine (k : CodeBlock) : Line := .dialogue k.speaker (fenced k.captured) k.condition

/-- The state of the pass between two lines. -/
structure Builder where
  metadata : Metadata := {}
  nodes : List Node := []
  seen : List Text := []
  current : Option Node := none
  choice : Option PendingChoice := none
  block : Option CodeBlock := none
  log : List LogRecord := []
deriving DecidableEq

/-- Why a pass ended early, and what it had logged by then. -/
structure Halt where
  error : ScriptError
  log : List LogRecord
deriving DecidableEq

/-- The prompt with the variable's name in place of each `{var}`. -/
def fillPrompt (name : Text) : Text → Text
  | '{' :: 'v' :: 'a' :: 'r' :: '}' :: t => name ++ fillPrompt name t
  | c :: t => c :: fillPrompt name t
  | [] => []

namespace Builder

/-- What the reading of the next line depends on. -/
def context (b : Builder) : Context := ⟨b.block.isSome, b.choice.isSome⟩

/-- Adds a record to the log. -/
def note (r : LogRecord) (b : Builder) : Builder := { b with log := b.log ++ [r] }

/-- Halts the pass with a defect of line `n`. -/
def refuse (n : Nat) (defect : Defect) (b : Builder) : Except Halt Builder :=
  .error ⟨⟨some n, defect⟩, b.log⟩

/-- Appends a line, which stood at `n`, to the current node. -/
def place (o : ParseOptions) (n : Nat) (line : Line) (b : Builder) : Except Halt Builder :=
  match b.current with
  | some node => .ok { b with current := some { node with lines := node.lines ++ [line] } }
  | none =>
    match o.orphanLines with
    | .ignore => .ok (b.note (.dropped n))
    | .reject => b.refuse n (.outsideNode line.content)

/-- Closes the waiting choice, if there is one. -/
def closeChoice (o : ParseOptions) (b : Builder) : Except Halt Builder :=
  match b.choice with
  | some c => { b with choice := none }.place o c.line c.toLine
  | none => .ok b

/-- Moves the current node, if there is one, to the finished nodes. -/
def commit (b : Builder) : Builder :=
  match b.current with
  | some node =>
    { b with current := none, nodes := b.nodes ++ [node] }.note
      (.committed node.id node.lines.length)
  | none => b

/-- Opens a code block at line `n`. -/
def openBlock (o : ParseOptions) (n : Nat) (speaker condition : Option Text)
    (captured : List Text) (b : Builder) : Except Halt Builder := do
  let b ← b.closeChoice o
  return { b with block := some ⟨n, speaker, condition, captured⟩ }

/-- Takes in a fence: it closes the open block, or opens one. -/
def takeFence (o : ParseOptions) (n : Nat) (b : Builder) : Except Halt Builder :=
  match b.block with
  | some k => do
    let b ← { b with block := none }.closeChoice o
    b.place o k.line k.toLine
  | none => b.openBlock o n none none []

/-- Takes in a captured line. -/
def takeVerbatim (raw : Text) (b : Builder) : Builder :=
  match b.block with
  | some k => { b with block := some { k with captured := k.captured ++ [raw] } }
  | none => b

/-- Takes in a node directive. -/
def takeNode (o : ParseOptions) (n : Nat) (id : Text) (b : Builder) : Except Halt Builder :=
  if id = [] then b.refuse n .emptyNodeId
  else do
    let b ← b.closeChoice o
    let b := b.commit
    if id ∈ b.seen then b.refuse n (.duplicateNode id)
    else return { b with seen := b.seen ++ [id], current := some { id } }

/-- Takes in a jump directive. -/
def takeJump (n : Nat) (target : Text) (b : Builder) : Except Halt Builder :=
  match b.current with
  | none => b.refuse n .jumpOutsideNode
  | some node =>
    if target = [] then b.refuse n .emptyJumpTarget
    else .ok { b with current := some { node with jump := some target } }

/-- Takes in an option: its own condition wins over the guard of its line. -/
def takeOption (n : Nat) (guard : Option Text) (option : ChoiceOption) (b : Builder) : Builder :=
  let b := match guard, option.condition with
    | some guard, some condition => b.note (.overridden n condition guard)
    | _, _ => b
  match b.choice with
  | some c =>
    let option := { option with condition := option.condition.or guard }
    { b with choice := some { c with options := c.options ++ [option] } }
  | none => b

/-- Takes in a dialogue. A content that ends in a fence opens a code block instead, and the text
before the fence, if any, is its first captured line. -/
def takeDialogue (o : ParseOptions) (n : Nat) (condition speaker : Option Text) (content : Text)
    (b : Builder) : Except Halt Builder :=
  match before? fence content with
  | some leading =>
    b.openBlock o n speaker condition (if trim leading = [] then [] else [trim leading])
  | none => do
    let b ← b.closeChoice o
    b.place o n (.dialogue speaker content condition)

/-- Takes in a content line. -/
def takeContent (o : ParseOptions) (n : Nat) (condition : Option Text) (body : Body)
    (b : Builder) : Except Halt Builder :=
  match body with
  | .dialogue speaker content => b.takeDialogue o n condition speaker content
  | .command content => do
    let b ← b.closeChoice o
    b.place o n (.command content condition)
  | .input name prompt => do
    let b ← b.closeChoice o
    let content := if prompt = [] then fillPrompt name o.inputPrompt else prompt
    b.place o n (.input name content condition)
  | .prompt content => do
    let b ← b.closeChoice o
    return { b with choice := some ⟨n, content, condition, []⟩ }
  | .option option => .ok (b.takeOption n condition option)
  | .malformedOption text => b.refuse n (.malformedOption text)
  | .unknown text => b.refuse n (.unknownLine text)

/-- Takes in what line `n` says. -/
def handle (o : ParseOptions) (n : Nat) (line : SourceLine) (b : Builder) : Except Halt Builder :=
  match line with
  | .fence => b.takeFence o n
  | .verbatim raw => .ok (b.takeVerbatim raw)
  | .blank => b.closeChoice o
  | .comment => b.closeChoice o
  | .header field value => do
    let b ← b.closeChoice o
    return { b with metadata := b.metadata.set field value }
  | .node id => b.takeNode o n id
  | .jump target => b.takeJump n target
  | .content condition body => b.takeContent o n condition body

/-- Takes in the physical line `raw`, which is line `n`. -/
def step (o : ParseOptions) (n : Nat) (raw : Text) (b : Builder) : Except Halt Builder :=
  b.handle o n (classify b.context raw)

/-- Takes in physical lines, the first of which is line `n`. -/
def advance (o : ParseOptions) : (n : Nat) → List Text → Builder → Except Halt Builder
  | _, [], b => .ok b
  | n, raw :: rest, b => do
    let b ← b.step o n raw
    advance o (n + 1) rest b

/-- Closes what is open at the end of the text. -/
def finish (o : ParseOptions) (b : Builder) : Except Halt Builder :=
  match b.block with
  | some k => b.refuse k.line .unterminatedCodeBlock
  | none => do
    let b ← b.closeChoice o
    return b.commit

end Builder

end DialogueScript.Source
