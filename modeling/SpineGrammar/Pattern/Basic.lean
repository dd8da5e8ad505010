import SpineGrammar.Bounds
import SpineGrammar.Text.CodeRange
import SpineGrammar.Text.WordTable

/-!
# Patterns

Regular expressions over characters, with assertions about the place between two characters, and
two bounds that follow from the shape of a pattern alone: the least length of a match in bytes
(`minLength?`), and whether no match has any length (`matchesOnlyEmpty`).
-/

namespace SpineGrammar

/-! ## Assertions -/

/-- The characters that words are made of. -/
inductive WordKind where
  | ascii
  | unicode
  deriving DecidableEq, Repr

/-- ASCII letters, digits and the underscore. -/
def asciiWordRanges : CodeRanges := [(0x30, 0x39), (0x41, 0x5A), (0x5F, 0x5F), (0x61, 0x7A)]

/-- The characters of a kind of words. -/
def WordKind.ranges : WordKind → CodeRanges
  | ascii => asciiWordRanges
  | unicode => wordRanges

/-- A condition on a place between two characters. -/
inductive Assertion where
  | textStart
  | textEnd
  /-- Where a line starts; with `crlf` carriage returns end lines too. -/
  | lineStart (crlf : Bool)
  | lineEnd (crlf : Bool)
  /-- Where just one of the neighbours belongs to a word. -/
  | boundary (word : WordKind)
  | noBoundary (word : WordKind)
  | wordStart (word : WordKind)
  | wordEnd (word : WordKind)
  /-- Where no word character stands before. -/
  | wordStartHalf (word : WordKind)
  /-- Where no word character stands after. -/
  | wordEndHalf (word : WordKind)
  deriving DecidableEq, Repr

/-- Whether an assertion holds between `before` and `after`, either of which is missing at an end
    of the text. -/
def Assertion.holds (before after : Option Char) : Assertion → Bool
  | textStart => before.isNone
  | textEnd => after.isNone
  | lineStart false => before.isNone || before == some '\n'
  | lineStart true =>
    before.isNone || before == some '\n' || (before == some '\r' && after != some '\n')
  | lineEnd false => after.isNone || after == some '\n'
  | lineEnd true =>
    after.isNone || after == some '\r' || (after == some '\n' && before != some '\r')
  | boundary word => inWord word before != inWord word after
  | noBoundary word => inWord word before == inWord word after
  | wordStart word => !inWord word before && inWord word after
  | wordEnd word => inWord word before && !inWord word after
  | wordStartHalf word => !inWord word before
  | wordEndHalf word => !inWord word after
where
  /-- Whether a character is there and belongs to a word. -/
  inWord (word : WordKind) (c : Option Char) : Bool := c.any word.ranges.has

/-! ## Patterns -/

/-- A regular expression. -/
inductive Pattern where
  | empty
  /-- The given characters in a row. -/
  | literal (cs : List Char)
  /-- One character of a set. -/
  | set (s : CodeRanges)
  | assertion (a : Assertion)
  /-- A group whose match is remembered; it matches what its content does. -/
  | group (p : Pattern)
  | seq (p q : Pattern)
  | alt (p q : Pattern)
  /-- At least `least` matches in a row, and at most `most` if that is given. -/
  | many (p : Pattern) (least : Nat) (most : Option Nat)
  deriving DecidableEq, Repr

namespace Pattern

/-- The pattern that matches nowhere. -/
def nowhere : Pattern := set []

/-- The least number of bytes in a match; nothing is known about patterns with a set that is
    empty. -/
def minLength? : Pattern → Option Nat
  | empty => some 0
  | literal cs => some (total (cs.map Char.utf8Size))
  | set s => s.head?.map fun r => charSize r.1
  | assertion _ => some 0
  | group p => p.minLength?
  | seq p q => do return (← p.minLength?) + (← q.minLength?)
  | alt p q => do return min (← p.minLength?) (← q.minLength?)
  | many p least _ => p.minLength?.map (least * ·)
where
  /-- The number of bytes of the character with a code. -/
  charSize (code : Nat) : Nat :=
    if code < 0x80 then 1 else if code < 0x800 then 2 else if code < 0x10000 then 3 else 4

/-- Whether each match is empty. -/
def matchesOnlyEmpty : Pattern → Bool
  | empty => true
  | literal cs => cs.isEmpty
  | set _ => false
  | assertion _ => true
  | group p => p.matchesOnlyEmpty
  | seq p q => p.matchesOnlyEmpty && q.matchesOnlyEmpty
  | alt p q => p.matchesOnlyEmpty && q.matchesOnlyEmpty
  | many p _ most => most == some 0 || (most.isSome && p.matchesOnlyEmpty)

/-- The patterns that a pattern strings together. -/
def parts : Pattern → List Pattern
  | empty => []
  | seq p q => p.parts ++ q.parts
  | p => [p]

/-- The patterns that a pattern chooses from. -/
def branches : Pattern → List Pattern
  | alt p q => p.branches ++ q.branches
  | p => [p]

/-- Whether a pattern has a group. -/
def hasGroup : Pattern → Bool
  | group _ => true
  | seq p q | alt p q => p.hasGroup || q.hasGroup
  | many p _ _ => p.hasGroup
  | _ => false

end Pattern

end SpineGrammar
