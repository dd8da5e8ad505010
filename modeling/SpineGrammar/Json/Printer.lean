import SpineGrammar.Json.Basic

/-!
# Writing JSON

Values are written on one line without white space. In strings only quotes, backslashes and control
characters are escaped.
-/

namespace SpineGrammar.Json

/-- A hexadecimal digit. -/
def hexChar (n : Nat) : Char := (Nat.digitChar n)

/-- A character inside a string literal. -/
def escapeChar (c : Char) : List Char :=
  if c = '"' then ['\\', '"']
  else if c = '\\' then ['\\', '\\']
  else if c = '\n' then ['\\', 'n']
  else if c = '\r' then ['\\', 'r']
  else if c = '\t' then ['\\', 't']
  else if c.toNat < 0x20 ∨ c.toNat = 0x7F then
    ['\\', 'u', '0', '0', hexChar (c.toNat / 16), hexChar (c.toNat % 16)]
  else [c]

/-- A string literal. -/
def quote (s : String) : String :=
  "\"" ++ String.ofList (s.toList.flatMap escapeChar) ++ "\""

mutual

/-- The text of a value. A string that denotes no text is written as an empty one. -/
def render : Json → String
  | .null => "null"
  | .bool true => "true"
  | .bool false => "false"
  | .integer n => n.repr
  | .real literal => literal
  | .string text => quote (text.getD "")
  | .array items => "[" ++ ",".intercalate (renderItems items) ++ "]"
  | .object members => "\x7b" ++ ",".intercalate (renderMembers members) ++ "\x7d"

/-- The texts of the items of an array. -/
def renderItems : List Json → List String
  | [] => []
  | item :: rest => item.render :: renderItems rest

/-- The texts of the members of an object. -/
def renderMembers : List (Option String × Json) → List String
  | [] => []
  | (name, item) :: rest => (quote (name.getD "") ++ ":" ++ item.render) :: renderMembers rest

end

end SpineGrammar.Json
