import DialogueScript.Text.Basic

/-!
# Scripts

A script is a header and a list of nodes in declaration order. A node holds lines, and may end
in a jump. `Script` is plain data: that the ids are distinct, that there is a start node and that
every reference resolves is what `Script.assemble` checks (`Script/Assembly`).

A node is looked up through the index, which keeps the position of each id (`position?`).
`Script.assemble` builds it.
-/

namespace DialogueScript

/-- The id of the node every script starts from. -/
def startId : Text := ['s', 't', 'a', 'r', 't']

/-- A field of the header. -/
inductive Field where
  | title
  | author
  | version
  | autoclear
deriving DecidableEq

namespace Field

/-- The fields in the order in which a header lists them. -/
def all : List Field := [.title, .author, .version, .autoclear]

/-- The key of a field, as a header spells it. -/
def key : Field → Text
  | .title => "title".toList
  | .author => "author".toList
  | .version => "version".toList
  | .autoclear => "autoclear".toList

end Field

/-- The header of a script: each field at most once. -/
structure Metadata where
  title : Option Text := none
  author : Option Text := none
  version : Option Text := none
  autoclear : Option Text := none
deriving DecidableEq

namespace Metadata

/-- The value of a field. -/
def get (m : Metadata) : Field → Option Text
  | .title => m.title
  | .author => m.author
  | .version => m.version
  | .autoclear => m.autoclear

/-- The header with one field written over. -/
def set (m : Metadata) (f : Field) (value : Text) : Metadata :=
  match f with
  | .title => { m with title := some value }
  | .author => { m with author := some value }
  | .version => { m with version := some value }
  | .autoclear => { m with autoclear := some value }

theorem get_set (m : Metadata) (f g : Field) (value : Text) :
    (m.set f value).get g = if g = f then some value else m.get g := by
  cases f <;> cases g <;> rfl

/-- The fields that are present, in header order. -/
def entries (m : Metadata) : List (Field × Text) :=
  Field.all.filterMap fun f => (m.get f).map (f, ·)

/-- Whether no field is present. -/
def isEmpty (m : Metadata) : Bool := m.entries.isEmpty

end Metadata

/-- An answer offered by a choice. -/
structure ChoiceOption where
  text : Text
  condition : Option Text
  target : Option Text
deriving DecidableEq

/-- The kinds of lines. -/
inductive LineKind where
  | dialogue
  | command
  | choice
  | input
deriving DecidableEq

/-- One instruction inside a node. Conditions are opaque here. -/
inductive Line where
  | dialogue (speaker : Option Text) (content : Text) (condition : Option Text)
  | command (content : Text) (condition : Option Text)
  | choice (content : Text) (options : List ChoiceOption) (condition : Option Text)
  | input (name : Text) (content : Text) (condition : Option Text)
deriving DecidableEq

namespace Line

/-- The kind of a line. -/
def kind : Line → LineKind
  | .dialogue .. => .dialogue
  | .command .. => .command
  | .choice .. => .choice
  | .input .. => .input

/-- The text shown or run by a line. -/
def content : Line → Text
  | .dialogue _ content _ => content
  | .command content _ => content
  | .choice content _ _ => content
  | .input _ content _ => content

/-- The guard of a line. -/
def condition : Line → Option Text
  | .dialogue _ _ condition => condition
  | .command _ condition => condition
  | .choice _ _ condition => condition
  | .input _ _ condition => condition

/-- The options of a choice; no other line has any. -/
def options : Line → List ChoiceOption
  | .choice _ options _ => options
  | _ => []

end Line

/-- A passage of the dialogue. -/
structure Node where
  id : Text
  lines : List Line := []
  jump : Option Text := none
deriving DecidableEq

/-- The positions of nodes, by their ids. -/
abbrev Index := List (Text × Nat)

/-- A dialogue, with the index of its nodes. -/
structure Script where
  metadata : Metadata
  nodes : List Node
  index : Index
deriving DecidableEq

namespace Script

/-- The ids in declaration order. -/
def nodeIds (s : Script) : List Text := s.nodes.map Node.id

/-- The position of the node that carries `id`. -/
def position? (s : Script) (id : Text) : Option Nat := s.index.lookup id

/-- Whether a node carries `id`. -/
def contains (s : Script) (id : Text) : Bool := (s.position? id).isSome

/-- The node that carries `id`. -/
def node? (s : Script) (id : Text) : Option Node := (s.position? id).bind (s.nodes[·]?)

end Script

end DialogueScript
