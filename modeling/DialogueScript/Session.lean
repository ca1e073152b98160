import DialogueScript.Codec.Script
import DialogueScript.Source.Parse
import DialogueScript.Source.Printer

/-!
# Sessions

A session holds a text that is being edited, the options under which it is read, and the script
that was last built. A step that fails changes nothing.
-/

namespace DialogueScript

open Source

/-- The state of a session. -/
structure Session where
  text : Text := []
  options : ParseOptions := {}
  current : Option Script := none

/-- Why a step of a session fails. -/
inductive SessionError where
  /-- There is no current script. -/
  | noScript
  /-- The new script cannot be had. -/
  | load (error : LoadError)

/-- The wording of a step without a script. -/
def SessionError.noScriptMessage : Text := "no script loaded".toList

/-- What a session tells about a new current script. -/
structure Adoption where
  nodes : Nat
  sameAsBefore : Bool

namespace Session

/-- The session with another text; tells its length in bytes. -/
def setText (text : Text) (q : Session) : Nat × Session :=
  (Text.byteSize text, { q with text := text })

/-- The session with more text at the end; tells the length in bytes of the whole. -/
def append (more : Text) (q : Session) : Nat × Session := q.setText (q.text ++ more)

/-- The session with other options. -/
def setOptions (options : ParseOptions) (q : Session) : Session := { q with options := options }

/-- The session with a new current script. -/
def adopt (s : Script) (q : Session) : Adoption × Session :=
  (⟨s.nodes.length, q.current = some s⟩, { q with current := some s })

/-- The current script. -/
def script (q : Session) : Except SessionError Script :=
  match q.current with
  | some s => .ok s
  | none => .error .noScript

/-- Takes over the script of a source text. -/
def adoptSource (text : Text) (q : Session) : Except SessionError (Adoption × Session) :=
  match parse q.options text with
  | .ok s => .ok (q.adopt s)
  | .error e => .error (.load (.script e))

/-- Takes over the script of a JSON text. -/
def adoptJson (text : Text) (q : Session) : Except SessionError (Adoption × Session) :=
  match Script.load text with
  | .ok s => .ok (q.adopt s)
  | .error e => .error (.load e)

/-- Builds the script of the session's text. -/
def build (q : Session) : Except SessionError (Adoption × Session) := q.adoptSource q.text

/-- Sends the current script through JSON. -/
def viaJson (q : Session) : Except SessionError (Adoption × Session) := do
  let s ← q.script
  q.adoptJson s.toJsonText

/-- Sends the current script through its source text. -/
def viaSource (q : Session) : Except SessionError (Adoption × Session) := do
  let s ← q.script
  q.adoptSource s.toSource

/-- Makes the source text of the current script the session's text, and tells it. -/
def takeSource (q : Session) : Except SessionError (Text × Session) := do
  let s ← q.script
  return (s.toSource, { q with text := s.toSource })

end Session

end DialogueScript
