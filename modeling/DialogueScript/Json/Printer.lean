import DialogueScript.Json.Value

/-!
# Writing JSON

One printer for two layouts: `compact` without any blank, and `pretty` with each item of a
container on a line of its own, indented by two spaces. An empty container is closed at once in
both. In a string only what must be escaped is.
-/

namespace DialogueScript.Json

/-- How a value is spread over lines. -/
inductive Layout where
  | compact
  | pretty
deriving DecidableEq

namespace Layout

/-- What stands in front of an item at this depth. -/
def newline : Layout → (depth : Nat) → Text
  | .compact, _ => []
  | .pretty, depth => '\n' :: List.replicate (2 * depth) ' '

/-- What stands between a key and its value. -/
def colon : Layout → Text
  | .compact => [':']
  | .pretty => [':', ' ']

end Layout

/-- A hexadecimal digit, in lower case. -/
def hexDigit (n : Nat) : Char := Nat.digitChar (n % 16)

/-- A character as a string holds it. -/
def escapedChar (c : Char) : Text :=
  if c = '"' then ['\\', '"']
  else if c = '\\' then ['\\', '\\']
  else if c = '\x08' then ['\\', 'b']
  else if c = '\x0c' then ['\\', 'f']
  else if c = '\n' then ['\\', 'n']
  else if c = '\r' then ['\\', 'r']
  else if c = '\t' then ['\\', 't']
  else if c.toNat < 0x20 then ['\\', 'u', '0', '0', hexDigit (c.toNat / 16), hexDigit c.toNat]
  else [c]

/-- A string with its quotes. -/
def writeString (t : Text) : Text := '"' :: t.flatMap escapedChar ++ ['"']

mutual

/-- A value whose container stands at this depth. -/
def write (layout : Layout) (depth : Nat) : Json → Text
  | .null => "null".toList
  | .boolean true => "true".toList
  | .boolean false => "false".toList
  | .number n => n.write
  | .string t => writeString t
  | .array [] => ['[', ']']
  | .array (v :: items) =>
    '[' :: (layout.newline (depth + 1) ++ write layout (depth + 1) v) ++
      writeItems layout (depth + 1) items ++ layout.newline depth ++ [']']
  | .object [] => ['{', '}']
  | .object ((k, v) :: members) =>
    '{' :: (layout.newline (depth + 1) ++ writeString k ++ layout.colon ++
      write layout (depth + 1) v) ++
      writeMembers layout (depth + 1) members ++ layout.newline depth ++ ['}']

/-- The items after the first. -/
def writeItems (layout : Layout) (depth : Nat) : List Json → Text
  | [] => []
  | v :: items =>
    ',' :: (layout.newline depth ++ write layout depth v) ++ writeItems layout depth items

/-- The members after the first. -/
def writeMembers (layout : Layout) (depth : Nat) : List (Text × Json) → Text
  | [] => []
  | (k, v) :: members =>
    ',' :: (layout.newline depth ++ writeString k ++ layout.colon ++ write layout depth v) ++
      writeMembers layout depth members

end

/-- A value without any blank. -/
def compact (v : Json) : Text := write .compact 0 v

/-- A value with an item on each line. -/
def pretty (v : Json) : Text := write .pretty 0 v

end DialogueScript.Json
