import DialogueScript.Json.Numeral
import DialogueScript.Json.Strings
import DialogueScript.Text.Blank

/-!
# Reading JSON

A `Reader` takes something off the front of a text. Reading is streaming: the first fault in the
order of the text is the one that counts. `token` reads the front of a value; `items` and
`members` run through a container whose opening has been read; `value` reads any value.

Containers may be nested to a fixed depth, which the readers count down. A member that nobody
asks for is passed over by `skip`, which checks its grammar and nothing else: not the depth, not
the range of numbers, not the pairing of surrogates.
-/

namespace DialogueScript.Json

open Text (skipBlanks)

/-- Takes an `α` off the front of a text. -/
abbrev Reader (α : Type) := StateT Text (Except Fault) α

namespace Reader

/-- The reader that refuses every text. -/
def refuse {α : Type} (fault : Fault) : Reader α := fun _ => .error fault

/-- Reads exactly the given letters. -/
def letters : Text → Reader Unit
  | [], t => .ok ((), t)
  | _ :: _, [] => .error .endOfText
  | l :: ls, c :: t => if c = l then letters ls t else .error .malformed

/-- Reads a numeral after its sign, as a token. -/
def number (negative : Bool) : Reader Token := fun t => do
  let (n, t) ← Numeral.read .endOfText t
  match n.value? negative with
  | some n => .ok (.number n, t)
  | none => .error .malformed

/-- Reads the front of a value: a scalar in full, of a container its opening bracket. -/
def token : Reader Token := fun t =>
  match skipBlanks t with
  | [] => .error .endOfText
  | 'n' :: t => (letters "ull".toList t).map fun (_, t) => (.null, t)
  | 't' :: t => (letters "rue".toList t).map fun (_, t) => (.boolean true, t)
  | 'f' :: t => (letters "alse".toList t).map fun (_, t) => (.boolean false, t)
  | '"' :: t => (readString t).map fun (s, t) => (.string s, t)
  | '[' :: t => .ok (.openArray, t)
  | '{' :: t => .ok (.openObject, t)
  | '-' :: t => number true t
  | c :: t => if c.isDigit then number false (c :: t) else .error .malformed

/-- Goes on to the next item of a container, unless its closing bracket comes first, which is
then read. `first` tells that no item has been read yet; later ones follow a comma. -/
def next (close : Char) (first : Bool) : Reader Bool := fun t =>
  match skipBlanks t with
  | [] => .error .endOfText
  | c :: t =>
    if c = close then .ok (false, t)
    else if first then .ok (true, c :: t)
    else if c = ',' then
      match skipBlanks t with
      | [] => .error .endOfText
      | c :: t => if c = close then .error .malformed else .ok (true, c :: t)
    else .error .malformed

/-- Reads the closing bracket of an array. -/
def close : Reader Unit := fun t =>
  match skipBlanks t with
  | [] => .error .endOfText
  | ']' :: t => .ok ((), t)
  | _ => .error .malformed

/-- Reads the items of an array up to its closing bracket. Each item takes some text, so there
are fewer steps than the clock has characters if it is longer than the text. -/
def items {α : Type} (item : Reader α) : (clock : Text) → (first : Bool) → Reader (List α)
  | [], _ => refuse .malformed
  | _ :: clock, first => do
    if ← next ']' first then
      let v ← item
      let vs ← items item clock false
      return v :: vs
    else return []

/-- Reads the colon between a key and its value. -/
def colon : Reader Unit := fun t =>
  match skipBlanks t with
  | [] => .error .endOfText
  | ':' :: t => .ok ((), t)
  | _ => .error .malformed

/-- Reads the opening quote of a key. -/
def keyQuote : Reader Unit := fun t =>
  match t with
  | '"' :: t => .ok ((), t)
  | _ => .error .malformed

/-- Reads the members of an object up to its closing bracket. `member` takes in one of them: it
is given the state and the key, and reads the colon and the value. -/
def members {κ σ : Type} (key : Reader κ) (member : σ → κ → Reader σ) :
    (clock : Text) → (first : Bool) → σ → Reader σ
  | [], _, _ => refuse .malformed
  | _ :: clock, first, st => do
    if ← next '}' first then
      keyQuote
      let k ← key
      let st ← member st k
      members key member clock false st
    else return st

/-- A clock for a text: it is longer by one character. -/
def clockOf (t : Text) : Text := ' ' :: t

/-- Reads all items of an array whose opening has been read. -/
def allItems {α : Type} (item : Reader α) : Reader (List α) := fun t =>
  items item (clockOf t) true t

/-- Reads the items that follow the first one of an array. -/
def laterItems {α : Type} (item : Reader α) : Reader (List α) := fun t =>
  items item (clockOf t) false t

/-- Reads all members of an object whose opening has been read. -/
def allMembers {κ σ : Type} (key : Reader κ) (member : σ → κ → Reader σ) (init : σ) : Reader σ :=
  fun t => members key member (clockOf t) true init t

/-- Reads a string after its opening quote. -/
def stringBody : Reader Text := readString

/-- Reads any value with containers nested at most `depth` times. -/
def value : (depth : Nat) → Reader Json
  | 0 => do
    match ← token with
    | .null => return .null
    | .boolean b => return .boolean b
    | .number n => return .number n
    | .string t => return .string t
    | .openArray => refuse .malformed
    | .openObject => refuse .malformed
  | depth + 1 => do
    match ← token with
    | .null => return .null
    | .boolean b => return .boolean b
    | .number n => return .number n
    | .string t => return .string t
    | .openArray =>
      let vs ← allItems (value depth)
      return .array vs
    | .openObject =>
      let ms ← allMembers stringBody (fun ms k => do
        colon
        let v ← value depth
        return (k, v) :: ms) []
      return .object ms.reverse

/-- The front of a value that nobody asks for. -/
inductive Opening where
  | scalar
  | array
  | object

/-- Passes over the front of a value. -/
def skipFront : Reader Opening := fun t =>
  match skipBlanks t with
  | [] => .error .endOfText
  | 'n' :: t => (letters "ull".toList t).map fun (_, t) => (.scalar, t)
  | 't' :: t => (letters "rue".toList t).map fun (_, t) => (.scalar, t)
  | 'f' :: t => (letters "alse".toList t).map fun (_, t) => (.scalar, t)
  | '"' :: t => (skipString t).map fun t => (.scalar, t)
  | '[' :: t => .ok (.array, t)
  | '{' :: t => .ok (.object, t)
  | '-' :: t => (Numeral.read .malformed t).map fun (_, t) => (.scalar, t)
  | c :: t =>
    if c.isDigit then (Numeral.read .malformed (c :: t)).map fun (_, t) => (.scalar, t)
    else .error .malformed

/-- Passes over a string after its opening quote. -/
def skipBody : Reader Unit := fun t => (skipString t).map fun t => ((), t)

/-- Passes over a value. No value is nested deeper than its text is long, so the text itself will
do for a clock. -/
def skipWithin : (clock : Text) → Reader Unit
  | [] => do
    match ← skipFront with
    | .scalar => return ()
    | .array => refuse .malformed
    | .object => refuse .malformed
  | _ :: clock => do
    match ← skipFront with
    | .scalar => return ()
    | .array =>
      let _ ← allItems (skipWithin clock)
    | .object =>
      allMembers skipBody (fun _ _ => do
        colon
        skipWithin clock) ()

/-- Passes over a value. -/
def skip : Reader Unit := fun t => skipWithin t t

/-- Requires that nothing but blanks is left. -/
def finish : Reader Unit := fun t =>
  match skipBlanks t with
  | [] => .ok ((), [])
  | _ => .error .malformed

end Reader

/-- The deepest nesting of containers that is read. -/
def maxDepth : Nat := 127

/-- Reads a whole text with a reader. -/
def Reader.run {α : Type} (r : Reader α) (t : Text) : Except Fault α := do
  let (a, t) ← StateT.run r t
  let _ ← StateT.run finish t
  return a

/-- Reads a whole text as a value. -/
def parse (t : Text) : Except Fault Json := (Reader.value maxDepth).run t

end DialogueScript.Json
