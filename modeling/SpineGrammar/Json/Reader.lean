import SpineGrammar.Json.Basic
import SpineGrammar.Text.Numeral
import SpineGrammar.Text.Utf8

/-!
# Reading JSON

A strict reader: nothing but one value and white space around it, no comments, no trailing commas,
no leading zeros, no raw control characters in strings.
-/

namespace SpineGrammar.Json

/-- The input without the white space it starts with. -/
def skipSpace : List Glyph → List Glyph
  | some ' ' :: rest => skipSpace rest
  | some '\t' :: rest => skipSpace rest
  | some '\n' :: rest => skipSpace rest
  | some '\r' :: rest => skipSpace rest
  | rest => rest

/-! ## Strings -/

/-- The character that a one-letter escape stands for. -/
def shortEscape? : Char → Option Char
  | '"' => some '"'
  | '\\' => some '\\'
  | '/' => some '/'
  | 'b' => some '\x08'
  | 'f' => some '\x0c'
  | 'n' => some '\n'
  | 'r' => some '\r'
  | 't' => some '\t'
  | _ => none

/-- A code unit in a string literal: a glyph, or half of a surrogate pair. -/
inductive StringUnit where
  | glyph (g : Glyph)
  | high (code : Nat)
  | low (code : Nat)

/-- The unit that a four-digit escape stands for. -/
def StringUnit.ofCode (code : Nat) : StringUnit :=
  if 0xD800 ≤ code ∧ code < 0xDC00 then .high code
  else if 0xDC00 ≤ code ∧ code < 0xE000 then .low code
  else .glyph (some (Char.ofNat code))

/-- The glyphs of units, where neighbouring halves make one character and a lone half is a gap. -/
def glyphsOfUnits : List StringUnit → List Glyph
  | [] => []
  | .high h :: .low l :: rest =>
    some (Char.ofNat (0x10000 + (h - 0xD800) * 1024 + (l - 0xDC00))) :: glyphsOfUnits rest
  | .glyph g :: rest => g :: glyphsOfUnits rest
  | _ :: rest => none :: glyphsOfUnits rest

/-- The units of a string literal after its opening quote, and the input after its closing one. -/
def stringUnits : List Glyph → Option (List StringUnit × List Glyph)
  | [] => none
  | some '"' :: rest => some ([], rest)
  | some '\\' :: some 'u' :: some a :: some b :: some c :: some d :: rest => do
    let code ← numeral? 16 [a, b, c, d]
    let (units, rest) ← stringUnits rest
    return (.ofCode code :: units, rest)
  | some '\\' :: some e :: rest => do
    let c ← shortEscape? e
    let (units, rest) ← stringUnits rest
    return (.glyph (some c) :: units, rest)
  | some '\\' :: _ => none
  | g :: rest =>
    if g.any (·.toNat < 0x20) then none
    else do
      let (units, rest) ← stringUnits rest
      return (.glyph g :: units, rest)

/-- The text of a string literal after its opening quote, if it denotes one, and the input after
    its closing quote. -/
def stringLiteral (input : List Glyph) : Option (Option String × List Glyph) := do
  let (units, rest) ← stringUnits input
  return (textOfGlyphs? (glyphsOfUnits units), rest)

/-! ## Numbers -/

/-- The digits that the input starts with, and the rest. -/
def digits : List Glyph → List Char × List Glyph
  | some c :: rest =>
    if c.isDigit then
      let (ds, rest) := digits rest
      (c :: ds, rest)
    else ([], some c :: rest)
  | rest => ([], rest)

/-- One or more digits without a leading zero. -/
def wholePart? (input : List Glyph) : Option (List Char × List Glyph) :=
  match digits input with
  | ([], _) => none
  | ('0' :: _ :: _, _) => none
  | (ds, rest) => some (ds, rest)

/-- A fraction, with its point, if there is one. -/
def fraction? : List Glyph → Option (List Char × List Glyph)
  | some '.' :: rest =>
    match digits rest with
    | ([], _) => none
    | (ds, rest) => some ('.' :: ds, rest)
  | rest => some ([], rest)

/-- An exponent, with its letter and sign, if there is one. -/
def exponent? : List Glyph → Option (List Char × List Glyph)
  | some e :: rest =>
    if e = 'e' ∨ e = 'E' then
      let (sign, rest) := match rest with
        | some '+' :: rest => (['+'], rest)
        | some '-' :: rest => (['-'], rest)
        | rest => ([], rest)
      match digits rest with
      | ([], _) => none
      | (ds, rest) => some (e :: sign ++ ds, rest)
    else some ([], some e :: rest)
  | rest => some ([], rest)

/-- A number. -/
def number? (input : List Glyph) : Option (Json × List Glyph) := do
  let (negative, rest) := match input with
    | some '-' :: rest => (true, rest)
    | rest => (false, rest)
  let (whole, rest) ← wholePart? rest
  let (fraction, rest) ← fraction? rest
  let (exponent, rest) ← exponent? rest
  let n := Nat.ofDigitChars 10 whole 0
  -- An integer has no negative zero, so that one is kept as it is written.
  if fraction.isEmpty && exponent.isEmpty && !(negative && n == 0) then
    return (.integer (if negative then -(n : Int) else n), rest)
  else
    let sign := if negative then ['-'] else []
    return (.real (String.ofList (sign ++ whole ++ fraction ++ exponent)), rest)

/-! ## Values -/

mutual

/-- One value at the start of the input, which is nested at most `depth` deep. -/
def value (depth : Nat) (input : List Glyph) : Option (Json × List Glyph) :=
  match depth with
  | 0 => none
  | depth + 1 =>
    match skipSpace input with
    | some 'n' :: some 'u' :: some 'l' :: some 'l' :: rest => some (.null, rest)
    | some 't' :: some 'r' :: some 'u' :: some 'e' :: rest => some (.bool true, rest)
    | some 'f' :: some 'a' :: some 'l' :: some 's' :: some 'e' :: rest => some (.bool false, rest)
    | some '"' :: rest => do
      let (text, rest) ← stringLiteral rest
      return (.string text, rest)
    | some '[' :: rest =>
      match skipSpace rest with
      | some ']' :: rest => some (.array [], rest)
      | rest => do
        let (items, rest) ← items depth rest
        return (.array items, rest)
    | some '\x7b' :: rest =>
      match skipSpace rest with
      | some '\x7d' :: rest => some (.object [], rest)
      | rest => do
        let (members, rest) ← members depth rest
        return (.object members, rest)
    | rest => number? rest

/-- One or more values with commas between them, and the bracket that ends the array. -/
def items (depth : Nat) (input : List Glyph) : Option (List Json × List Glyph) :=
  match depth with
  | 0 => none
  | depth + 1 => do
    let (item, rest) ← value depth input
    match skipSpace rest with
    | some ',' :: rest =>
      let (more, rest) ← items depth rest
      return (item :: more, rest)
    | some ']' :: rest => return ([item], rest)
    | _ => none

/-- One or more members with commas between them, and the brace that ends the object. -/
def members (depth : Nat) (input : List Glyph) :
    Option (List (Option String × Json) × List Glyph) :=
  match depth with
  | 0 => none
  | depth + 1 =>
    match skipSpace input with
    | some '"' :: rest => do
      let (name, rest) ← stringLiteral rest
      match skipSpace rest with
      | some ':' :: rest =>
        let (item, rest) ← value depth rest
        match skipSpace rest with
        | some ',' :: rest =>
          let (more, rest) ← members depth rest
          return ((name, item) :: more, rest)
        | some '\x7d' :: rest => return ([(name, item)], rest)
        | _ => none
      | _ => none
    | _ => none

end

/-- The value that the whole input is. Going down into a value or on to the next one takes at least
    one glyph for every two steps, so the depth is never used up. -/
def ofGlyphs? (input : List Glyph) : Option Json := do
  let (v, rest) ← value (2 * input.length + 1) input
  if (skipSpace rest).isEmpty then return v else none

/-- The value that a text is. -/
def ofString? (s : String) : Option Json := ofGlyphs? (glyphsOfString s)

/-- The value that bytes are. -/
def ofBytes? (bytes : List UInt8) : Option Json := ofGlyphs? (glyphsOfBytes bytes)

end SpineGrammar.Json
