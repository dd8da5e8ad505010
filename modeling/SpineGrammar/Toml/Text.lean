import SpineGrammar.Text.Numeral

/-!
# Strings and keys in TOML

Basic strings with escapes, literal strings without, both also over several lines, and keys. What a
reader takes is given with the rest of the input.
-/

namespace SpineGrammar.Toml

/-- Whether a character may stand in comments and strings as it is: tabs, and all but controls. -/
def isPlain (c : Char) : Bool := c == '\t' || (0x20 ≤ c.toNat && c.toNat ≠ 0x7F)

/-- The input without blanks and tabs at its start. -/
def skipBlanks (cs : List Char) : List Char := cs.dropWhile fun c => c == ' ' || c == '\t'

/-- The input after the end of a line. -/
def newline? : List Char → Option (List Char)
  | '\n' :: rest => some rest
  | '\r' :: '\n' :: rest => some rest
  | _ => none

theorem length_lt_of_newline? {cs rest : List Char} (h : newline? cs = some rest) :
    rest.length < cs.length := by
  unfold newline? at h
  split at h
  · cases h
    exact Nat.lt_succ_self _
  · cases h
    simp only [List.length_cons]
    omega
  · cases h

/-! ## Escapes -/

/-- The character whose code the first `count` characters of the input spell. -/
def codeEscape? (count : Nat) (cs : List Char) : Option (Char × List Char) := do
  if cs.length < count then none
  else return (← charOfCode? (← numeral? 16 (cs.take count)), cs.drop count)

/-- The character that an escape stands for, after its backslash. -/
def escape? : List Char → Option (Char × List Char)
  | 'b' :: rest => some ('\x08', rest)
  | 't' :: rest => some ('\t', rest)
  | 'n' :: rest => some ('\n', rest)
  | 'f' :: rest => some ('\x0c', rest)
  | 'r' :: rest => some ('\r', rest)
  | '"' :: rest => some ('"', rest)
  | '\\' :: rest => some ('\\', rest)
  | 'u' :: rest => codeEscape? 4 rest
  | 'U' :: rest => codeEscape? 8 rest
  | _ => none

/-! ## Strings on one line -/

/-- A basic string after its opening quote; `steps` bounds the number of its characters. -/
def basic? : (steps : Nat) → List Char → Option (List Char × List Char)
  | 0, _ => none
  | steps + 1, cs =>
    match cs with
    | [] => none
    | '"' :: rest => some ([], rest)
    | '\\' :: rest => do
      let (c, rest) ← escape? rest
      let (text, rest) ← basic? steps rest
      return (c :: text, rest)
    | c :: rest =>
      if isPlain c then do
        let (text, rest) ← basic? steps rest
        return (c :: text, rest)
      else none

/-- A literal string after its opening quote. -/
def literal? : List Char → Option (List Char × List Char)
  | [] => none
  | '\'' :: rest => some ([], rest)
  | c :: rest =>
    if isPlain c then do
      let (text, rest) ← literal? rest
      return (c :: text, rest)
    else none

/-! ## Strings over several lines -/

/-- What follows the opening quotes, without a line end right behind them. -/
def skipFirstNewline (cs : List Char) : List Char := (newline? cs).getD cs

/-- The quotes at the end of a string over several lines: three close it, and up to two more before
    them belong to it. -/
def closing? (quote : Char) (cs : List Char) : Option (List Char × List Char) :=
  let quotes := (cs.takeWhile (· == quote)).length
  if quotes < 3 then none
  else
    let inside := min (quotes - 3) 2
    some (List.replicate inside quote, cs.drop (inside + 3))

/-- The input without blanks and line ends at its start; a carriage return alone ends no line. -/
def skipBlankLines : List Char → List Char
  | ' ' :: rest => skipBlankLines rest
  | '\t' :: rest => skipBlankLines rest
  | '\n' :: rest => skipBlankLines rest
  | '\r' :: '\n' :: rest => skipBlankLines rest
  | rest => rest

/-- The input after a backslash that ends its line, and after all blanks and line ends behind it. -/
def lineContinuation? (cs : List Char) : Option (List Char) := do
  let rest ← newline? (skipBlanks cs)
  return skipBlankLines rest

/-- A basic string over several lines after its opening quotes. -/
def basicLines? : (steps : Nat) → List Char → Option (List Char × List Char)
  | 0, _ => none
  | steps + 1, cs =>
    match closing? '"' cs with
    | some found => some found
    | none =>
      match cs with
      | [] => none
      | '\\' :: rest =>
        match lineContinuation? rest with
        | some rest => basicLines? steps rest
        | none => do
          let (c, rest) ← escape? rest
          let (text, rest) ← basicLines? steps rest
          return (c :: text, rest)
      | c :: rest =>
        match newline? (c :: rest) with
        | some rest => do
          let (text, rest) ← basicLines? steps rest
          return ('\n' :: text, rest)
        | none =>
          if isPlain c then do
            let (text, rest) ← basicLines? steps rest
            return (c :: text, rest)
          else none

/-- A literal string over several lines after its opening quotes. -/
def literalLines? : (steps : Nat) → List Char → Option (List Char × List Char)
  | 0, _ => none
  | steps + 1, cs =>
    match closing? '\'' cs with
    | some found => some found
    | none =>
      match cs with
      | [] => none
      | c :: rest =>
        match newline? (c :: rest) with
        | some rest => do
          let (text, rest) ← literalLines? steps rest
          return ('\n' :: text, rest)
        | none =>
          if isPlain c then do
            let (text, rest) ← literalLines? steps rest
            return (c :: text, rest)
          else none

/-- A string of any kind. -/
def string? (cs : List Char) : Option (String × List Char) :=
  let found := match cs with
    | '"' :: '"' :: '"' :: rest => basicLines? (rest.length + 1) (skipFirstNewline rest)
    | '\'' :: '\'' :: '\'' :: rest => literalLines? (rest.length + 1) (skipFirstNewline rest)
    | '"' :: rest => basic? (rest.length + 1) rest
    | '\'' :: rest => literal? rest
    | _ => none
  found.map fun r => (String.ofList r.1, r.2)

/-! ## Keys -/

/-- Whether a character may stand in a key without quotes. -/
def isKeyChar (c : Char) : Bool := c.isAlphanum || c == '_' || c == '-'

/-- One key, without dots. -/
def simpleKey? (cs : List Char) : Option (String × List Char) :=
  match cs with
  | '"' :: rest => (basic? (rest.length + 1) rest).map fun r => (String.ofList r.1, r.2)
  | '\'' :: rest => (literal? rest).map fun r => (String.ofList r.1, r.2)
  | cs =>
    let key := cs.takeWhile isKeyChar
    if key.isEmpty then none else some (String.ofList key, cs.dropWhile isKeyChar)

/-- The parts of a key between dots, with blanks around them. -/
def keyParts? : (steps : Nat) → List Char → Option (List String × List Char)
  | 0, _ => none
  | steps + 1, cs => do
    let (part, rest) ← simpleKey? (skipBlanks cs)
    match skipBlanks rest with
    | '.' :: rest =>
      let (parts, rest) ← keyParts? steps rest
      return (part :: parts, rest)
    | rest => return ([part], rest)

/-- How deep keys may lead, and values may be nested. -/
def nestingLimit : Nat := 79

/-- A key with dots: the parts before the last, and the last. -/
def key? (cs : List Char) : Option ((List String × String) × List Char) := do
  let (parts, rest) ← keyParts? (cs.length + 1) cs
  let last ← parts.getLast?
  if parts.length ≤ nestingLimit then return ((parts.dropLast, last), rest) else none

end SpineGrammar.Toml
