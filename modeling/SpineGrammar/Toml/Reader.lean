import SpineGrammar.Toml.Number

/-!
# Reading TOML

A document is read line by line: a key with its value, or the header of a table, each with an
optional comment. The table that the last header opened takes the values that follow.
-/

namespace SpineGrammar.Toml

/-- The input from the end of a line on, without the comment before it. -/
def skipComment (cs : List Char) : List Char :=
  match skipBlanks cs with
  | '#' :: rest => rest.dropWhile isPlain
  | rest => rest

theorem length_skipComment_le (cs : List Char) : (skipComment cs).length ≤ cs.length := by
  have hblanks : (skipBlanks cs).length ≤ cs.length := (List.dropWhile_suffix _).length_le
  unfold skipComment
  split
  · next rest h =>
    have hplain : (rest.dropWhile isPlain).length ≤ rest.length :=
      (List.dropWhile_suffix _).length_le
    rw [h, List.length_cons] at hblanks
    omega
  · exact hblanks

/-- The input without blanks, comments and line ends at its start. In an array these may stand
    between any two parts. -/
def skipSpace (cs : List Char) : List Char :=
  match _h : newline? (skipComment cs) with
  | some rest => skipSpace rest
  | none => skipBlanks cs
termination_by cs.length
decreasing_by
  have hshorter := length_lt_of_newline? _h
  have hcomment := length_skipComment_le cs
  omega

/-- The levels that are left inside of one. -/
def below? : (nesting : Nat) → Option Nat
  | 0 => none
  | nesting + 1 => some nesting

mutual

/-- A value with at most `nesting` levels of arrays and inline tables. -/
def value? : (steps nesting : Nat) → List Char → Option (Value × List Char)
  | 0, _, _ => none
  | steps + 1, nesting, cs =>
    match cs with
    | 't' :: 'r' :: 'u' :: 'e' :: rest => some (.bool true, rest)
    | 'f' :: 'a' :: 'l' :: 's' :: 'e' :: rest => some (.bool false, rest)
    | '[' :: rest => do
      let (items, rest) ← items? steps (← below? nesting) rest
      return (.array items, rest)
    | '\x7b' :: rest => do
      let nesting ← below? nesting
      match skipBlanks rest with
      | '\x7d' :: rest => return (.inlineTable [], rest)
      | rest =>
        let (entries, rest) ← entries? steps nesting [] rest
        return (.inlineTable (InlineItem.toValues entries), rest)
    | c :: rest =>
      if c = '"' ∨ c = '\'' then (string? (c :: rest)).map fun r => (.text r.1, r.2)
      else
        -- A date starts with digits too, so it is tried before numbers.
        match date? (c :: rest) with
        | some found => some found
        | none => number? (c :: rest)
    | [] => none

/-- The rest of an array: values with commas between them and perhaps one more at the end. -/
def items? : (steps nesting : Nat) → List Char → Option (List Value × List Char)
  | 0, _, _ => none
  | steps + 1, nesting, cs =>
    match skipSpace cs with
    | ']' :: rest => some ([], rest)
    | rest => do
      let (v, rest) ← value? steps nesting rest
      match skipSpace rest with
      | ',' :: rest =>
        let (vs, rest) ← items? steps nesting rest
        return (v :: vs, rest)
      | ']' :: rest => return ([v], rest)
      | _ => none

/-- The rest of an inline table of which some entries were read: keys and values on one line, with
    commas between them. -/
def entries? : (steps nesting : Nat) → List (String × InlineItem) → List Char →
    Option (List (String × InlineItem) × List Char)
  | 0, _, _, _ => none
  | steps + 1, nesting, entries, cs => do
    let ((path, key), rest) ← key? cs
    let rest ← expect? '=' rest
    let (v, rest) ← value? steps nesting (skipBlanks rest)
    let entries ← InlineItem.write key v path entries
    match skipBlanks rest with
    | ',' :: rest => entries? steps nesting entries rest
    | '\x7d' :: rest => return (entries, rest)
    | _ => none

end

/-- A document as far as it was read, and the path of the table that takes the next values. -/
structure DocumentSoFar where
  root : Table
  current : List String

namespace DocumentSoFar

/-- Nothing was read yet. -/
def start : DocumentSoFar := ⟨.opened, []⟩

/-- Writes a value into the current table. -/
def write (d : DocumentSoFar) (path : List String) (key : String) (v : Value) :
    Option DocumentSoFar := do
  let root ← Table.changeBelow false (fun t => t.write path key v) d.current d.root
  return { d with root }

end DocumentSoFar

/-- The header of a table after its opening bracket, with the closing one. -/
def header? (d : DocumentSoFar) (cs : List Char) : Option (DocumentSoFar × List Char) := do
  match cs with
  | '[' :: cs =>
    let ((path, key), rest) ← key? cs
    let rest ← expect? ']' (← expect? ']' rest)
    return (⟨← d.root.openElement path key, path ++ [key]⟩, rest)
  | cs =>
    let ((path, key), rest) ← key? cs
    let rest ← expect? ']' rest
    return (⟨← d.root.openTable path key, path ++ [key]⟩, rest)

/-- A key and its value. -/
def assignment? (d : DocumentSoFar) (cs : List Char) : Option (DocumentSoFar × List Char) := do
  let ((path, key), rest) ← key? cs
  let rest := skipBlanks (← expect? '=' rest)
  let (v, rest) ← value? (2 * rest.length + 1) nestingLimit rest
  return (← d.write path key v, rest)

/-- What a line says, without its comment and its end. -/
def statement? (d : DocumentSoFar) (cs : List Char) : Option (DocumentSoFar × List Char) :=
  match skipBlanks cs with
  | [] => some (d, [])
  | '#' :: rest => some (d, '#' :: rest)
  | '\n' :: rest => some (d, '\n' :: rest)
  | '\r' :: rest => some (d, '\r' :: rest)
  | '[' :: rest => header? d rest
  | rest => assignment? d rest

/-- The lines of a document, at most `count`. -/
def lines? : (count : Nat) → DocumentSoFar → List Char → Option DocumentSoFar
  | 0, _, _ => none
  | count + 1, d, cs => do
    let (d, rest) ← statement? d cs
    match skipComment rest with
    | [] => return d
    | rest => lines? count d (← newline? rest)

/-- The input without a byte order mark. -/
def skipMark : List Char → List Char
  | '\ufeff' :: rest => rest
  | cs => cs

/-- The table that a document denotes. -/
def document? (text : String) : Option Table := do
  let cs := skipMark text.toList
  let d ← lines? (cs.length + 1) .start cs
  return d.root

end SpineGrammar.Toml
