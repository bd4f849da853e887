import JsonSchema.Json.Basic

/-!
# Writing JSON

Texts are built as character lists. `compact` has no blanks; `pretty` puts every item and member
on a line of its own, indented by two blanks, and keeps empty containers closed.
-/

namespace JsonSchema.Json

def hexDigit (n : Nat) : Char := Nat.digitChar n

/-- A character as it stands inside a JSON string: quotes, backslashes and controls are escaped,
everything else is itself. -/
def escape (c : Char) : List Char :=
  if c = '"' then ['\\', '"']
  else if c = '\\' then ['\\', '\\']
  else if c = '\x08' then ['\\', 'b']
  else if c = '\x0c' then ['\\', 'f']
  else if c = '\n' then ['\\', 'n']
  else if c = '\r' then ['\\', 'r']
  else if c = '\t' then ['\\', 't']
  else if c.toNat < 0x20 then ['\\', 'u', '0', '0', hexDigit (c.toNat / 16), hexDigit (c.toNat % 16)]
  else [c]

/-- A string between quotes. -/
def quote (s : String) : List Char := '"' :: s.toList.flatMap escape ++ ['"']

/-- Texts joined by a separator. -/
def joinWith (separator : List Char) : List (List Char) → List Char
  | [] => []
  | [text] => text
  | text :: rest => text ++ separator ++ joinWith separator rest

mutual

/-- The text without blanks. -/
def compactChars : Json → List Char
  | .null => "null".toList
  | .bool b => (if b then "true" else "false").toList
  | .num n => (n.write .plain).toList
  | .str s => quote s
  | .arr items => '[' :: joinWith [','] (compactItems items) ++ [']']
  | .obj members => '{' :: joinWith [','] (compactMembers members) ++ ['}']

def compactItems : List Json → List (List Char)
  | [] => []
  | item :: rest => compactChars item :: compactItems rest

def compactMembers : List (String × Json) → List (List Char)
  | [] => []
  | (name, value) :: rest => (quote name ++ ':' :: compactChars value) :: compactMembers rest

end

def compact (value : Json) : String := String.ofList value.compactChars

/-- A container with each part on its own line, one level deeper than `indent`. -/
def block (indent : Nat) (opening closing : Char) (parts : List (List Char)) : List Char :=
  let line (n : Nat) := '\n' :: List.replicate (2 * n) ' '
  match parts with
  | [] => [opening, closing]
  | parts => opening :: line (indent + 1) ++ joinWith (',' :: line (indent + 1)) parts ++ line indent ++ [closing]

mutual

/-- The indented text, for a value that stands at depth `indent`. -/
def prettyChars (indent : Nat) : Json → List Char
  | .arr items => block indent '[' ']' (prettyItems (indent + 1) items)
  | .obj members => block indent '{' '}' (prettyMembers (indent + 1) members)
  | value => value.compactChars

def prettyItems (indent : Nat) : List Json → List (List Char)
  | [] => []
  | item :: rest => prettyChars indent item :: prettyItems indent rest

def prettyMembers (indent : Nat) : List (String × Json) → List (List Char)
  | [] => []
  | (name, value) :: rest => (quote name ++ ':' :: ' ' :: prettyChars indent value) :: prettyMembers indent rest

end

def pretty (value : Json) : String := String.ofList (value.prettyChars 0)

end JsonSchema.Json
