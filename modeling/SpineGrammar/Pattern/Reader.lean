import SpineGrammar.Pattern.CharClass
import SpineGrammar.Pattern.Size
import SpineGrammar.Text.Decimal
import SpineGrammar.Text.LetterTable

/-!
# Reading patterns

The notation of patterns: alternatives, groups with and without names, repetitions, modes, and the
characters, classes and assertions between them. A repetition that wants as few rounds as possible
matches the same texts, so the mark for it is read and dropped. Patterns that are nested too deeply
or take up too much room are refused, and so are back references.
-/

namespace SpineGrammar.Pattern

/-! ## How groups begin -/

/-- The modes between a question mark and the character that ends them, each at most once; after
    one dash they are switched off, and one at least has to follow the dash. -/
def switches (f : Flags) (on : Bool) (seen : List Char) : List Char → Option (Flags × List Char)
  | [] => none
  | '-' :: rest =>
    if on && !(rest.head? == some ':' || rest.head? == some ')') then switches f false seen rest
    else none
  | c :: rest =>
    if c = ':' ∨ c = ')' then some (f, c :: rest)
    else if seen.contains c then none
    else
      match f.switch on c with
      | some f => switches f on (c :: seen) rest
      | none => none

/-- How a group begins. -/
inductive GroupHead where
  /-- Modes for what follows up to the end of the enclosing group. -/
  | modes (f : Flags)
  /-- A group that is not remembered, with its own modes. -/
  | plain (f : Flags)
  /-- A group that is remembered, perhaps by a name. -/
  | captured (name : Option String)

/-- Whether a character may start the name of a group. -/
def startsName (c : Char) : Bool := c == '_' || letterRanges.has c

/-- Whether a character may stand in the name of a group. -/
def continuesName (c : Char) : Bool :=
  startsName c || numberRanges.has c || c == '.' || c == '[' || c == ']'

/-- The name of a group up to its closing angle bracket. -/
def groupName? (cs : List Char) : Option (String × List Char) :=
  match cs.takeWhile (· ≠ '>'), cs.dropWhile (· ≠ '>') with
  | c :: name, _ :: rest =>
    if startsName c && name.all continuesName then some (String.ofList (c :: name), rest)
    else none
  | _, _ => none

/-- The beginning of a group after its opening bracket. -/
def groupHead? (f : Flags) (cs : List Char) : Option (GroupHead × List Char) :=
  match f.skip cs with
  | '?' :: 'P' :: '<' :: rest => (groupName? rest).map fun r => (.captured (some r.1), r.2)
  | '?' :: '<' :: rest => (groupName? rest).map fun r => (.captured (some r.1), r.2)
  -- Modes that switch nothing would leave the question mark without a pattern to repeat.
  | '?' :: ')' :: _ => none
  | '?' :: rest =>
    match switches f true [] rest with
    | some (f, ':' :: after) => some (.plain f, after)
    | some (f, _ :: after) => some (.modes f, after)
    | _ => none
  | rest => some (.captured none, rest)

/-! ## Repetitions -/

/-- A bound of a repetition, with blanks around it; bounds fit 32 bits. -/
def bound? (f : Flags) (cs : List Char) : Option (Nat × List Char) := do
  let (ds, rest) := f.takeWhile Char.isDigit ((f.skip cs).dropWhile isBlank)
  let n ← decimal? ds
  if n < countBound then return (n, rest.dropWhile isBlank) else none

/-- The bounds of a repetition after their opening brace. -/
def bounds? (f : Flags) (cs : List Char) : Option ((Nat × Option Nat) × List Char) := do
  let (least, rest) ← bound? f cs
  match rest with
  | '\x7d' :: rest => return ((least, some least), rest)
  | ',' :: rest =>
    match f.skip rest with
    | '\x7d' :: rest => return ((least, none), rest)
    | rest =>
      match ← bound? f rest with
      | (most, '\x7d' :: rest) => if least ≤ most then return ((least, some most), rest) else none
      | _ => none
  | _ => none

/-- The input without the mark for few rounds. -/
def skipLazy : List Char → List Char
  | '?' :: rest => rest
  | rest => rest

/-! ## The part that was read -/

/-- A pattern, and the number of levels on which its notation is nested. -/
structure Nested where
  pattern : Pattern
  height : Nat
  deriving DecidableEq, Repr

namespace Nested

/-- Patterns put together to one, which are a level of their own if there are several. -/
def join (combine : List Pattern → Pattern) (ps : List Nested) : Nested :=
  let height := (ps.map (·.height)).foldl max 0
  ⟨combine (ps.map (·.pattern)), if 2 ≤ ps.length then height + 1 else height⟩

/-- A pattern repeated. -/
def repeated (p : Nested) (least : Nat) (most : Option Nat) : Nested :=
  ⟨p.pattern.repeated least most, p.height + 1⟩

end Nested

/-- A pattern can be nested on this many levels. -/
def heightLimit : Nat := 250

/-- The part of a group that was read: the finished alternatives and the items of the present one,
    the last first. A switch of modes is an item that cannot be repeated. -/
structure GroupSoFar where
  branches : List Nested
  items : List (Option Nested)
  deriving DecidableEq, Repr

namespace GroupSoFar

/-- Nothing was read yet. -/
def start : GroupSoFar := ⟨[], []⟩

/-- The present alternative. -/
def branch (g : GroupSoFar) : Nested :=
  .join concat (g.items.reverse.map fun item => item.getD ⟨empty, 0⟩)

/-- One more item. -/
def push (g : GroupSoFar) (p : Pattern) (height : Nat) : GroupSoFar :=
  { g with items := some ⟨p, height⟩ :: g.items }

/-- The last item, repeated. -/
def repeatLast (g : GroupSoFar) (least : Nat) (most : Option Nat) : Option GroupSoFar :=
  match g.items with
  | some p :: rest => some { g with items := some (p.repeated least most) :: rest }
  | _ => none

/-- The present alternative is finished. -/
def nextBranch (g : GroupSoFar) : GroupSoFar := ⟨g.branch :: g.branches, []⟩

/-- All that was read. What branches share can be taken out of a choice once for each level on which
    choices are nested in it. -/
def result (g : GroupSoFar) : Nested := .join (choice heightLimit) g.nextBranch.branches.reverse

end GroupSoFar

/-! ## The whole -/

/-- The pattern that an escape stands for. -/
def ofEscape (f : Flags) : Escape → Pattern
  | .char c => f.char c
  | .set s => ofSet s
  | .assertion a => assertion a

/-- Reads a group, or the whole pattern if `nested` is false, of which `g` was read; `names` are the
    names of groups so far. Gives the pattern, the names and what follows the group. -/
def groupRest? (nested : Bool) : (fuel : Nat) → Flags → List String → GroupSoFar → List Char →
    Option (Nested × List String × List Char)
  | 0, _, _, _, _ => none
  | fuel + 1, f, names, g, cs =>
    match f.skip cs with
    | [] => if nested then none else some (g.result, names, [])
    | ')' :: rest => if nested then some (g.result, names, rest) else none
    | '|' :: rest => groupRest? nested fuel f names g.nextBranch rest
    | '(' :: rest => do
      match ← groupHead? f rest with
      | (.modes f, rest) =>
        groupRest? nested fuel f names { g with items := none :: g.items } rest
      | (.plain inner, rest) =>
        let (p, names, rest) ← groupRest? true fuel inner names .start rest
        groupRest? nested fuel f names (g.push p.pattern (p.height + 1)) rest
      | (.captured name, rest) =>
        -- No two groups of a pattern may have one name, at whatever depth.
        if name.any names.contains then none
        else
          let (p, names, rest) ← groupRest? true fuel f (name.toList ++ names) .start rest
          groupRest? nested fuel f names (g.push (group p.pattern) (p.height + 1)) rest
    | '[' :: rest => do
      let (p, rest) ← class? f rest
      groupRest? nested fuel f names (g.push (ofSet p.set) p.height) rest
    | '?' :: rest => do
      groupRest? nested fuel f names (← g.repeatLast 0 (some 1)) (skipLazy rest)
    | '*' :: rest => do
      groupRest? nested fuel f names (← g.repeatLast 0 none) (skipLazy rest)
    | '+' :: rest => do
      groupRest? nested fuel f names (← g.repeatLast 1 none) (skipLazy rest)
    | '\x7b' :: rest => do
      let ((least, most), rest) ← bounds? f rest
      groupRest? nested fuel f names (← g.repeatLast least most) (skipLazy (f.skip rest))
    | '\\' :: rest => do
      let (e, rest) ← Escape.read? f rest
      groupRest? nested fuel f names (g.push (ofEscape f e) 0) rest
    | '.' :: rest => do
      groupRest? nested fuel f names (g.push (← f.dot?) 0) rest
    | '^' :: rest => groupRest? nested fuel f names (g.push (assertion f.lineStart) 0) rest
    | '$' :: rest => groupRest? nested fuel f names (g.push (assertion f.lineEnd) 0) rest
    | c :: rest => groupRest? nested fuel f names (g.push (f.char c) 0) rest

/-- The pattern that a text denotes. -/
def ofString? (s : String) : Option Pattern := do
  let cs := s.toList
  let (p, _, _) ← groupRest? false (cs.length + 1) .initial [] .start cs
  if p.height ≤ heightLimit && p.pattern.fits then return p.pattern else none

end SpineGrammar.Pattern
