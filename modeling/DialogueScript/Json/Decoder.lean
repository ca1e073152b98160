import DialogueScript.Json.Reader

/-!
# Decoders

A `Decoder` says how a typed value is written in JSON, once for two sources: `read` takes it off
the front of a text, with the first fault in the order of the text, and `ofValue` takes it from a
value that has been read already. Decoders are put together from the combinators below.

In a record a member may occur once (`Decoder.once`), and one that is missing is found when the
record ends. Members of other names are passed over. A record may also be an array of the values
of its members in order.
-/

namespace DialogueScript.Json

/-- How an `α` is written in JSON. The number given to `read` bounds the nesting of containers. -/
structure Decoder (α : Type) where
  read : (depth : Nat) → Reader α
  ofValue : Json → Except Fault α

namespace Decoder

open Reader (token colon allItems allMembers stringBody letters)

variable {α β σ : Type}

/-- The fault of finding another kind of value than `expected`. -/
def wrongKind (found : Token) (expected : Text) : Except Fault α :=
  .error (.mismatch (.invalidType found expected))

/-- Applies a function to what is decoded. -/
def map (f : α → β) (d : Decoder α) : Decoder β where
  read depth := f <$> d.read depth
  ofValue v := (d.ofValue v).map f

/-- Checks what is decoded. -/
def check (f : α → Except Fault β) (d : Decoder α) : Decoder β where
  read depth := do
    let a ← d.read depth
    f a
  ofValue v := d.ofValue v >>= f

/-- A value that its front decides. -/
def scalar (f : Token → Except Fault α) : Decoder α where
  read _ := do
    let k ← token
    f k
  ofValue v := f v.front

/-- Any value, as it is written. -/
def any : Decoder Json where
  read depth := Reader.value depth
  ofValue v := .ok v

/-- A string. -/
def text : Decoder Text := scalar fun
  | .string t => .ok t
  | k => wrongKind k "a string".toList

/-- A truth value. -/
def flag : Decoder Bool := scalar fun
  | .boolean b => .ok b
  | k => wrongKind k "a boolean".toList

/-- A count: an integer that is not negative. -/
def count : Decoder Nat := scalar fun
  | .number (.int (.ofNat n)) => .ok n
  | .number (.int n) => .error (.mismatch (.invalidValue (.number (.int n)) "usize".toList))
  | k => wrongKind k "usize".toList

/-- A value that may be null. -/
def optional (d : Decoder α) : Decoder (Option α) where
  read depth := fun t =>
    match Text.skipBlanks t with
    | 'n' :: t => (letters "ull".toList t).map fun (_, t) => (none, t)
    | t => (d.read depth t).map fun (a, t) => (some a, t)
  ofValue
    | .null => .ok none
    | v => (d.ofValue v).map some

/-- An array. -/
def list (d : Decoder α) : Decoder (List α) where
  read depth := do
    match ← token, depth with
    | .openArray, depth + 1 => allItems (d.read depth)
    | .openArray, 0 => Reader.refuse .malformed
    | k, _ => wrongKind k "a sequence".toList
  ofValue
    | .array vs => vs.mapM d.ofValue
    | v => wrongKind v.front "a sequence".toList

/-- An object as its members, in the order in which they are written. -/
def object : Decoder (List (Text × Json)) where
  read depth := do
    match ← token, depth with
    | .openObject, depth + 1 =>
      let ms ← allMembers stringBody (fun ms k => do
        colon
        let v ← Reader.value depth
        return (k, v) :: ms) []
      return ms.reverse
    | .openObject, 0 => Reader.refuse .malformed
    | k, _ => wrongKind k "a map".toList
  ofValue
    | .object ms => .ok ms
    | v => wrongKind v.front "a map".toList

/-- A member of a record: its name, and whether it must be there. -/
structure Slot where
  name : Text
  required : Bool

/-- How a record is named in messages, and its members in order. -/
structure Shape where
  name : Text
  slots : List Slot

/-- A number of items, in words. -/
def elements (n : Nat) : Text :=
  Text.ofNat n ++ if n = 1 then " element".toList else " elements".toList

/-- Refuses an array that ends after `length` items, before a member that must be there. -/
def Shape.checkRest (shape : Shape) : (length : Nat) → (rest : List Slot) → Except Fault Unit
  | _, [] => .ok ()
  | length, slot :: rest =>
    if slot.required then
      .error (.mismatch (.invalidLength length
        (shape.name ++ " with ".toList ++ elements shape.slots.length)))
    else shape.checkRest (length + 1) rest

/-- What is known about a member, given the state reached so far: its key is refused, is not one
of the record's, or its value is decoded into the next state. -/
abbrev Member (σ : Type) := σ → (key : Text) → Except Fault (Option (Decoder σ))

/-- Takes in the member with this key from a text. -/
def readMember (member : Member σ) (depth : Nat) (st : σ) (key : Text) : Reader σ := do
  match ← (member st key : Except Fault _) with
  | some d =>
    colon
    d.read depth
  | none =>
    colon
    Reader.skip
    return st

/-- Takes in the items of an array from a text as the members of a record. -/
def readItems (shape : Shape) (member : Member σ) (depth : Nat) :
    (length : Nat) → (rest : List Slot) → σ → Reader σ
  | _, [], st => do
    Reader.close
    return st
  | length, slot :: rest, st => do
    if ← Reader.next ']' (length == 0) then
      match ← (member st slot.name : Except Fault _) with
      | some d =>
        let st ← d.read depth
        readItems shape member depth (length + 1) rest st
      | none =>
        Reader.skip
        readItems shape member depth (length + 1) rest st
    else
      (shape.checkRest length (slot :: rest) : Except Fault Unit)
      return st

/-- Takes in the member with this key, whose value has been read already. -/
def takeMember (member : Member σ) (st : σ) (key : Text) (v : Json) : Except Fault σ := do
  match ← member st key with
  | some d => d.ofValue v
  | none => return st

/-- Takes in items that have been read already as the members of a record. -/
def takeItems (shape : Shape) (member : Member σ) :
    (length : Nat) → (rest : List Slot) → List Json → σ → Except Fault σ
  | _, [], [], st => .ok st
  | length, [], vs, _ =>
    .error (.mismatch (.invalidLength (length + vs.length)
      (elements length ++ " in sequence".toList)))
  | length, rest, [], st => do
    shape.checkRest length rest
    return st
  | length, slot :: rest, v :: vs, st => do
    let st ← takeMember member st slot.name v
    takeItems shape member (length + 1) rest vs st

/-- A record: an object with known members, or an array of their values in order. -/
def record (shape : Shape) (member : Member σ) (init : σ) (finish : σ → Except Fault α) :
    Decoder α where
  read depth := do
    match ← token, depth with
    | .openObject, depth + 1 =>
      let st ← allMembers stringBody (readMember member depth) init
      finish st
    | .openArray, depth + 1 =>
      let st ← readItems shape member depth 0 shape.slots init
      finish st
    | .openObject, 0 => Reader.refuse .malformed
    | .openArray, 0 => Reader.refuse .malformed
    | k, _ => wrongKind k shape.name
  ofValue
    | .object ms => do
      let st ← ms.foldlM (fun st (key, v) => takeMember member st key v) init
      finish st
    | .array vs => do
      let st ← takeItems shape member 0 shape.slots vs init
      finish st
    | v => wrongKind v.front shape.name

/-- A member that must not have a value yet. -/
def once (name : Text) (old : Option β) (d : Decoder β) (put : β → σ) :
    Except Fault (Option (Decoder σ)) :=
  if old.isSome then .error (.mismatch (.duplicateField name)) else .ok (some (d.map put))

/-- The value of a member that must be present. -/
def required (name : Text) : Option β → Except Fault β
  | some b => .ok b
  | none => .error (.mismatch (.missingField name))

/-- The variant that a name stands for. -/
def variantOf (names : List (Text × α)) (name : Text) : Except Fault α :=
  match names.lookup name with
  | some a => .ok a
  | none => .error (.mismatch (.unknownVariant name (names.map Prod.fst)))

/-- A name where no other value may stand. -/
def tag (names : List (Text × α)) : Decoder α := scalar fun
  | .string t => variantOf names t
  | k => wrongKind k "variant identifier".toList

/-- The tag of a record and its other members, as far as they have been gathered. -/
structure Tagged (κ : Type) where
  tag : Option κ := none
  /-- Latest first. -/
  members : List (Text × Json) := []

/-- Gathers a member of a record with a tag. -/
def Tagged.member {κ : Type} (name : Text) (tag : Decoder κ) : Member (Tagged κ) := fun st key =>
  if key = name then once key st.tag tag fun k => { st with tag := some k }
  else .ok (some (any.map fun v => { st with members := (key, v) :: st.members }))

/-- A record whose member `name`, wherever it stands, tells how the others are decoded. They are
gathered as values first. In an array the tag comes first. -/
def tagged {κ : Type} (expected name : Text) (tag : Decoder κ) (body : κ → Decoder α) :
    Decoder α where
  read depth := do
    match ← token, depth with
    | .openObject, depth + 1 =>
      let st ← allMembers stringBody (readMember (Tagged.member name tag) depth) {}
      let k ← (required name st.tag : Except Fault _)
      (body k).ofValue (.object st.members.reverse)
    | .openArray, depth + 1 =>
      if ← Reader.next ']' true then
        let k ← tag.read depth
        let vs ← Reader.laterItems (Reader.value depth)
        (body k).ofValue (.array vs)
      else (required name none : Except Fault _)
    | .openObject, 0 => Reader.refuse .malformed
    | .openArray, 0 => Reader.refuse .malformed
    | k, _ => wrongKind k expected
  ofValue
    | .object ms => do
      let st ← ms.foldlM (fun st (key, v) => takeMember (Tagged.member name tag) st key v) {}
      let k ← required name st.tag
      (body k).ofValue (.object st.members.reverse)
    | .array (v :: vs) => do
      let k ← tag.ofValue v
      (body k).ofValue (.array vs)
    | .array [] => required name none
    | v => wrongKind v.front expected

/-- Null. -/
def nothing : Decoder Unit := scalar fun
  | .null => .ok ()
  | k => wrongKind k "unit".toList

/-- One of several names: a string, or an object with the name as its only key and null. -/
def variant (names : List (Text × α)) : Decoder α where
  read depth := fun t =>
    match Text.skipBlanks t with
    | [] => .error .endOfText
    | '"' :: t => (tag names).read depth ('"' :: t)
    | '{' :: t => do
      if depth = 0 then throw .malformed
      let (a, t) ← (tag names).read depth t
      let (_, t) ← colon t
      let (_, t) ← nothing.read depth t
      match Text.skipBlanks t with
      | [] => .error .endOfText
      | '}' :: t => return (a, t)
      | _ => throw .malformed
    | _ => .error .malformed
  ofValue
    | .string t => variantOf names t
    | .object [(k, v)] => do
      let a ← variantOf names k
      nothing.ofValue v
      return a
    | .object _ =>
      .error (.mismatch (.invalidValue .openObject "map with a single key".toList))
    | v => wrongKind v.front "string or map".toList

/-- Reads a whole text. -/
def run (d : Decoder α) (t : Text) : Except Fault α := (d.read maxDepth).run t

end Decoder

end DialogueScript.Json
