import SpineGrammar.Character.Query
import SpineGrammar.Pattern.Flags

/-!
# Escapes

What a backslash and the characters after it stand for: a character, a set of characters or a
condition on a place.
-/

namespace SpineGrammar.Pattern

/-- What an escape stands for. -/
inductive Escape where
  | char (c : Char)
  | set (s : CodeRanges)
  | assertion (a : Assertion)
  deriving DecidableEq, Repr

namespace Escape

/-! ## Characters by their code -/

/-- The character whose code some hexadecimal digits spell. -/
def charOfHex? (ds : List Char) : Option Char := do
  if ds.isEmpty then none else charOfCode? (← numeral? 16 ds)

/-- A character given by hexadecimal digits after the letter of the escape: just `count` of them, or
    any number in braces. Two digits beyond ASCII are a byte in a mode that knows ASCII only, and no
    character. -/
def hex? (f : Flags) (count : Nat) (cs : List Char) : Option (Char × List Char) :=
  match f.skip cs with
  | '\x7b' :: rest =>
    match f.takeWhile (· ≠ '\x7d') rest with
    | (ds, '\x7d' :: after) => (charOfHex? ds).map (·, f.skip after)
    | _ => none
  | cs => do
    let (ds, after) ← f.take? count cs
    let c ← charOfHex? ds
    if count = 2 ∧ !f.unicode ∧ 0x7F < c.toNat then none else return (c, f.skip after)

/-! ## Sets -/

/-- The query that a text in braces spells: a name, or the name of a property and a value. -/
def query (text : List Char) : CharQuery :=
  let split (separator : List Char) : Option CharQuery :=
    ((List.range text.length).find? fun i => separator.isPrefixOf (text.drop i)).map fun i =>
      .valued (String.ofList (text.take i)) (String.ofList (text.drop (i + separator.length)))
  ((split ['!', '='] <|> split [':']) <|> split ['=']).getD (.named (String.ofList text))

/-- The set that a query after `\p` or `\P` asks for: one character, or a text in braces. -/
def property? (f : Flags) (negated : Bool) (cs : List Char) : Option (CodeRanges × List Char) := do
  let (q, after) ← match f.skip cs with
    | '\x7b' :: rest =>
      match f.takeWhile (· ≠ '\x7d') rest with
      | (name, '\x7d' :: after) => some (query name, after)
      | _ => none
    | '\\' :: _ => none
    | c :: rest => some (.named (String.singleton c), f.skip rest)
    | [] => none
  if !f.unicode then none
  else return (← f.negate? negated (f.close (← q.set?).ranges), after)

/-! ## Conditions -/

/-- A word boundary after `\b`, which may name a special kind of boundary in braces. -/
def boundary? (f : Flags) (cs : List Char) : Option (Assertion × List Char) :=
  let isNameChar (c : Char) : Bool := c.isAlpha || c == '-'
  match cs with
  | '\x7b' :: rest =>
    match f.skip rest with
    | [] => none
    | c :: _ =>
      if isNameChar c then
        match f.takeWhile isNameChar rest with
        | (name, '\x7d' :: after) =>
          match String.ofList name with
          | "start" => some (.wordStart f.wordKind, after)
          | "end" => some (.wordEnd f.wordKind, after)
          | "start-half" => some (.wordStartHalf f.wordKind, after)
          | "end-half" => some (.wordEndHalf f.wordKind, after)
          | _ => none
        | _ => none
      else some (.boundary f.wordKind, cs)
  | cs => some (.boundary f.wordKind, cs)

/-! ## The whole -/

/-- An escape after its backslash. A backslash before an ASCII character that is no letter, digit
    or angle bracket takes its meaning away. -/
def read? (f : Flags) : List Char → Option (Escape × List Char)
  | [] => none
  | c :: rest =>
    let ofChar (r : Char × List Char) : Escape × List Char := (char r.1, r.2)
    let ofSet (r : CodeRanges × List Char) : Escape × List Char := (set r.1, r.2)
    match c with
    | 'x' => (hex? f 2 rest).map ofChar
    | 'u' => (hex? f 4 rest).map ofChar
    | 'U' => (hex? f 8 rest).map ofChar
    | 'p' => (property? f false rest).map ofSet
    | 'P' => (property? f true rest).map ofSet
    | 'd' => some (set f.digits, rest)
    | 's' => some (set f.blanks, rest)
    | 'w' => some (set f.wordKind.ranges, rest)
    | 'D' => (f.negate? true f.digits).map fun s => (set s, rest)
    | 'S' => (f.negate? true f.blanks).map fun s => (set s, rest)
    | 'W' => (f.negate? true f.wordKind.ranges).map fun s => (set s, rest)
    | 'a' => some (char '\x07', rest)
    | 'f' => some (char '\x0c', rest)
    | 't' => some (char '\t', rest)
    | 'n' => some (char '\n', rest)
    | 'r' => some (char '\r', rest)
    | 'v' => some (char '\x0b', rest)
    | 'A' => some (assertion .textStart, rest)
    | 'z' => some (assertion .textEnd, rest)
    | 'b' => (boundary? f rest).map fun r => (assertion r.1, r.2)
    | 'B' => some (assertion (.noBoundary f.wordKind), rest)
    | '<' => some (assertion (.wordStart f.wordKind), rest)
    | '>' => some (assertion (.wordEnd f.wordKind), rest)
    | c => if c.toNat < 0x80 && !c.isAlphanum then some (char c, rest) else none

end Escape

end SpineGrammar.Pattern
