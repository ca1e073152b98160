import DialogueScript.Json.Decoder
import DialogueScript.Script.Basic

/-!
# Lines in JSON

An option or a line is an object that leaves out what it does not have. The member `type` names
the kind of a line and is written first, but may stand anywhere when a line is read.
-/

namespace DialogueScript

open Json

/-- The member of an optional text, if it is there. -/
def optionalMember (key : Text) (value : Option Text) : List (Text × Json) :=
  value.toList.map fun t => (key, .string t)

/-- An option as JSON. -/
def ChoiceOption.toJson (o : ChoiceOption) : Json :=
  .object (("text".toList, .string o.text) ::
    (optionalMember "condition".toList o.condition ++ optionalMember "target".toList o.target))

/-- The members of an option read so far. -/
structure OptionFields where
  text : Option Text := none
  condition : Option (Option Text) := none
  target : Option (Option Text) := none

/-- The members of an option. -/
def ChoiceOption.shape : Decoder.Shape :=
  ⟨"struct ChoiceOption".toList,
    [⟨"text".toList, true⟩, ⟨"condition".toList, false⟩, ⟨"target".toList, false⟩]⟩

/-- How the members of an option are read. -/
def OptionFields.member : Decoder.Member OptionFields := fun st key =>
  if key = "text".toList then
    Decoder.once key st.text .text fun t => { st with text := some t }
  else if key = "condition".toList then
    Decoder.once key st.condition (.optional .text) fun c => { st with condition := some c }
  else if key = "target".toList then
    Decoder.once key st.target (.optional .text) fun t => { st with target := some t }
  else .ok none

/-- An option in JSON. -/
def ChoiceOption.decoder : Decoder ChoiceOption :=
  .record ChoiceOption.shape OptionFields.member {} fun st => do
    let text ← Decoder.required "text".toList st.text
    return ⟨text, st.condition.join, st.target.join⟩

namespace LineKind

/-- The kinds in the order in which messages list them. -/
def all : List LineKind := [.dialogue, .command, .choice, .input]

/-- The name of a kind. -/
def name : LineKind → Text
  | .dialogue => "dialogue".toList
  | .command => "command".toList
  | .choice => "choice".toList
  | .input => "input".toList

/-- The members of a line of some kind, apart from `type`. -/
def shape : LineKind → Decoder.Shape
  | .dialogue =>
    ⟨"struct variant Line::Dialogue".toList,
      [⟨"speaker".toList, false⟩, ⟨"content".toList, true⟩, ⟨"condition".toList, false⟩]⟩
  | .command =>
    ⟨"struct variant Line::Command".toList,
      [⟨"content".toList, true⟩, ⟨"condition".toList, false⟩]⟩
  | .choice =>
    ⟨"struct variant Line::Choice".toList,
      [⟨"content".toList, true⟩, ⟨"options".toList, false⟩, ⟨"condition".toList, false⟩]⟩
  | .input =>
    ⟨"struct variant Line::Input".toList,
      [⟨"variable".toList, true⟩, ⟨"content".toList, true⟩, ⟨"condition".toList, false⟩]⟩

end LineKind

/-- The members of a line that only its kind has, before and after its content. -/
def Line.ownMembers : Line → List (Text × Json) × List (Text × Json)
  | .dialogue speaker _ _ => (optionalMember "speaker".toList speaker, [])
  | .command _ _ => ([], [])
  | .choice _ options _ =>
    ([], [("options".toList, .array (options.map ChoiceOption.toJson))])
  | .input name _ _ => ([("variable".toList, .string name)], [])

/-- A line as JSON. -/
def Line.toJson (l : Line) : Json :=
  .object (("type".toList, .string l.kind.name) :: (l.ownMembers.1 ++
    ("content".toList, .string l.content) :: (l.ownMembers.2 ++
      optionalMember "condition".toList l.condition)))

/-- The members of a line read so far. -/
structure LineFields where
  speaker : Option (Option Text) := none
  name : Option Text := none
  content : Option Text := none
  options : Option (List ChoiceOption) := none
  condition : Option (Option Text) := none

namespace LineFields

/-- How the members of a line are read. A kind knows only its own. -/
def member (kind : LineKind) : Decoder.Member LineFields := fun st key =>
  if key = "content".toList then
    Decoder.once key st.content .text fun t => { st with content := some t }
  else if key = "condition".toList then
    Decoder.once key st.condition (.optional .text) fun c => { st with condition := some c }
  else if kind = .dialogue ∧ key = "speaker".toList then
    Decoder.once key st.speaker (.optional .text) fun t => { st with speaker := some t }
  else if kind = .choice ∧ key = "options".toList then
    Decoder.once key st.options (.list ChoiceOption.decoder) fun os => { st with options := some os }
  else if kind = .input ∧ key = "variable".toList then
    Decoder.once key st.name .text fun t => { st with name := some t }
  else .ok none

/-- The line of a kind with these members. -/
def toLine (kind : LineKind) (st : LineFields) : Except Fault Line := do
  let condition := st.condition.join
  match kind with
  | .dialogue =>
    let content ← Decoder.required "content".toList st.content
    return .dialogue st.speaker.join content condition
  | .command =>
    let content ← Decoder.required "content".toList st.content
    return .command content condition
  | .choice =>
    let content ← Decoder.required "content".toList st.content
    return .choice content (st.options.getD []) condition
  | .input =>
    let name ← Decoder.required "variable".toList st.name
    let content ← Decoder.required "content".toList st.content
    return .input name content condition

end LineFields

/-- A line whose kind is known, from the members other than `type`. -/
def Line.decoderOf (kind : LineKind) : Decoder Line :=
  .record kind.shape (LineFields.member kind) {} (LineFields.toLine kind)

/-- A line in JSON. -/
def Line.decoder : Decoder Line :=
  .tagged "internally tagged enum Line".toList "type".toList
    (.tag (LineKind.all.map fun k => (k.name, k))) Line.decoderOf

end DialogueScript
