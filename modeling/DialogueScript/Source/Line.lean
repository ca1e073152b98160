import DialogueScript.Source.Fence
import DialogueScript.Source.Option
import DialogueScript.Variable.Placeholder

/-!
# Source lines

What one physical line says, given whether a code block is open and whether a choice is waiting
for options. The tests come in this order: fence, captured line, blank line, comment, header
field, directive, content. A content line may begin with a guard, but only if something follows
the guard.
-/

namespace DialogueScript.Source

open Text Variable

/-- The state of the pass on which the reading of a line depends. -/
structure Context where
  inCodeBlock : Bool := false
  choicePending : Bool := false
deriving DecidableEq

/-- The part of a content line after its guard. -/
inductive Body where
  | dialogue (speaker : Option Text) (content : Text)
  | command (content : Text)
  | prompt (content : Text)
  | input (name : Text) (prompt : Text)
  | option (option : ChoiceOption)
  | malformedOption (text : Text)
  | unknown (text : Text)
deriving DecidableEq

/-- What a physical line says. -/
inductive SourceLine where
  | fence
  | verbatim (raw : Text)
  | blank
  | comment
  | header (field : Field) (value : Text)
  | node (id : Text)
  | jump (target : Text)
  | content (condition : Option Text) (body : Body)
deriving DecidableEq

/-- Whether two texts agree up to the case of ASCII letters. -/
def sameLetters (a b : Text) : Bool := a.map Char.toLower == b.map Char.toLower

/-- Reads what follows the `#` of a header line; any other text is a comment. -/
def header? (t : Text) : Option (Field × Text) :=
  match cut? ':' t with
  | some (key, value) =>
    (Field.all.find? fun f => sameLetters f.key (trim key)).map (·, trim value)
  | none => none

/-- The argument of the directive `keyword`, which must be set off by white space. -/
def directive? (keyword line : Text) : Option Text :=
  match after? keyword line with
  | some [] => some []
  | some (c :: t) => if isSpace c then some (trim (c :: t)) else none
  | none => none

/-- The bracket depth after a character. An unmatched closing bracket counts for nothing. -/
def depthAfter (depth : Nat) (c : Char) : Nat :=
  if c = '[' || c = '(' || c = '{' then depth + 1
  else if c = ']' || c = ')' || c = '}' then depth - 1
  else depth

/-- The texts before and after the first colon outside brackets. -/
def cutAtColon? : (depth : Nat) → Text → Option (Text × Text)
  | _, [] => none
  | depth, c :: t =>
    if c = ':' && depth == 0 then some ([], t)
    else (cutAtColon? (depthAfter depth c) t).map fun (before, after) => (c :: before, after)

/-- Splits a dialogue into speaker and content. A speaker must not be empty. -/
def speaker? (t : Text) : Option (Text × Text) :=
  match cutAtColon? 0 t with
  | some (before, after) => if trim before = [] then none else some (trim before, trim after)
  | none => none

/-- Reads the part of a content line after its guard. An option counts only under a prompt. -/
def readBody (choicePending : Bool) : Text → Body
  | '>' :: t =>
    match speaker? (trim t) with
    | some (speaker, content) => .dialogue (some speaker) content
    | none => .dialogue none (trim t)
  | '$' :: t => .command (trim t)
  | '?' :: t =>
    match braced? (trim t) with
    | some (name, rest) => .input name (skipBlanks rest)
    | none => .prompt (trim t)
  | '-' :: t =>
    if choicePending then
      match option? (trim t) with
      | some option => .option option
      | none => .malformedOption ('-' :: t)
    else .unknown ('-' :: t)
  | t => .unknown t

/-- Reads a content line: a guard, if one stands in front of something, and the rest. -/
def readContent (choicePending : Bool) (t : Text) : SourceLine :=
  match bracketed? t with
  | some (condition, rest) =>
    match skipBlanks rest with
    | [] => .content none (readBody choicePending t)
    | body => .content (some condition) (readBody choicePending body)
  | none => .content none (readBody choicePending t)

/-- Reads a line that is neither a fence nor captured, without white space at its ends. -/
def readTrimmed (choicePending : Bool) : Text → SourceLine
  | [] => .blank
  | '/' :: '/' :: _ => .comment
  | '#' :: t =>
    match header? t with
    | some (field, value) => .header field value
    | none => .comment
  | t =>
    match directive? "@node".toList t with
    | some id => .node id
    | none =>
      match directive? "@jump".toList t with
      | some target => .jump target
      | none => readContent choicePending t

/-- Reads a physical line. -/
def classify (context : Context) (raw : Text) : SourceLine :=
  if fence.isPrefixOf (trim raw) then .fence
  else if context.inCodeBlock then .verbatim raw
  else readTrimmed context.choicePending (trim raw)

end DialogueScript.Source
