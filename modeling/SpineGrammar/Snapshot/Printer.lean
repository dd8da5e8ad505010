import SpineGrammar.Snapshot.Value
import SpineGrammar.Text.Quoted

/-!
# Writing snapshots

Lists, maps and records have each of their parts on a line of its own with a comma after it, four
blanks further in than the line that they start on; empty lists and maps stay on one line. The
items of other groups stay on one line.
-/

namespace SpineGrammar.Snapshot.Value

/-- The start of a line at a level of nesting. -/
def margin (level : Nat) : List Char := List.replicate (4 * level) ' '

/-- A part on a line of its own. -/
def line (level : Nat) (part : List Char) : List Char := margin level ++ part ++ [',', '\n']

/-- Lines between an opening and a closing character; nothing between them if there are none. -/
def block (level : Nat) (opening closing : Char) (lines : List Char) : List Char :=
  if lines.isEmpty then [opening, closing]
  else opening :: '\n' :: lines ++ margin level ++ [closing]

mutual

/-- A value as it is written on a line at a level of nesting. -/
def write (level : Nat) : Value → List Char
  | .bool b => (if b then "true" else "false").toList
  | .word name => name.toList
  | .integer n => n.repr.toList
  | .real literal => literal.toList
  | .text s => Quoted.quote s
  | .char c => '\'' :: Quoted.escape c ++ ['\'']
  | .absent => "None".toList
  | .present v => "Some".toList ++ '(' :: write level v ++ [')']
  | .list items => block level '[' ']' (writeLines (level + 1) items)
  | .map entries => block level '\x7b' '\x7d' (writeEntries (level + 1) entries)
  | .tuple name items => (name.getD "").toList ++ '(' :: writeItems level items ++ [')']
  | .record name fields =>
    (name.getD "").toList ++ block level '(' ')' (writeFields (level + 1) fields)

/-- Each item on a line. -/
def writeLines (level : Nat) : List Value → List Char
  | [] => []
  | item :: rest => line level (write level item) ++ writeLines level rest

/-- Each entry on a line. -/
def writeEntries (level : Nat) : List (Value × Value) → List Char
  | [] => []
  | (k, v) :: rest =>
    line level (write level k ++ ':' :: ' ' :: write level v) ++ writeEntries level rest

/-- Each field on a line. -/
def writeFields (level : Nat) : List (String × Value) → List Char
  | [] => []
  | (name, v) :: rest =>
    line level (name.toList ++ ':' :: ' ' :: write level v) ++ writeFields level rest

/-- Items on one line. -/
def writeItems (level : Nat) : List Value → List Char
  | [] => []
  | [item] => write level item
  | item :: rest => write level item ++ ',' :: ' ' :: writeItems level rest

end

/-- The text of a value. -/
def render (v : Value) : String := String.ofList (write 0 v)

end SpineGrammar.Snapshot.Value
